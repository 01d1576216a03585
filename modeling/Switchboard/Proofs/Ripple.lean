import Switchboard.Proofs.Outcome

/-! What listeners stir up. Telling listeners that observe, and the exchange, of a change leaves
every connection in essence as it was: the exchange brings conferences and verdicts on holding up
to date, forgets what is destroyed, and that is all. `Ripple` is the relation between the systems
before and after. -/

namespace Switchboard

namespace ConnectionEvent

def isPlain : ConnectionEvent → Bool
  | .redialRequested _ _ | .reselectionRequested _ _ => false
  | _ => true

end ConnectionEvent

def Entry.isRequest : Entry → Bool
  | .heard _ _ event => !event.isPlain
  | .called _ | .noted _ => false

def Entry.isActivation (id : ConnectionId) : Entry → Bool
  | .heard .exchange other (.stateChanged _ .active) => decide (other = id)
  | _ => false

namespace Connection

def essence (call : Connection) : Connection :=
  { call with
    conference := none
    holdAllowed := false
    republish := false
    published := { state := call.published.state } }

/-- What is watched has been published. When nobody is being told, a connection that exists has
published what it shows, and it has not ended. -/
structure Steady (call : Connection) : Prop where
  watched : call.watched = call.published.state
  rested : call.publishing = false → call.destroyed = false →
    call.published.state = call.visibleState ∧ call.visibleState ≠ .disconnected ∧
      call.teardownStarted = false

theorem steady_essence {call : Connection} : call.essence.Steady ↔ call.Steady := by
  constructor
  · exact fun steady => ⟨steady.watched, steady.rested⟩
  · exact fun steady => ⟨steady.watched, steady.rested⟩

theorem steady_congr {call other : Connection} (same : call.essence = other.essence) :
    call.Steady ↔ other.Steady := by
  rw [← steady_essence, same, steady_essence]

theorem steady_absent : absent.Steady where
  watched := rfl
  rested := fun _ gone => by cases gone

end Connection

namespace System

variable {ε κ : Type}

def Steady (system : System ε) : Prop :=
  ∀ id, (system.connection id).Steady

/-- The work that has been left for later. -/
def works (system : System ε) : List FollowUp :=
  system.signals.filterMap fun
    | .follow work => some work
    | .changed _ => none

/-- The journal of what listeners were told that starts work, newest first. -/
def requests (system : System ε) : List Entry :=
  system.journal.filter Entry.isRequest

/-- The exchange has heard that the connection became active. -/
def HeardActive (system : System ε) (id : ConnectionId) : Prop :=
  ∃ old, .heard .exchange id (.stateChanged old .active) ∈ system.journal

theorem heardActive_iff (system : System ε) (id : ConnectionId) :
    system.HeardActive id ↔ system.journal.any (Entry.isActivation id) = true := by
  rw [List.any_eq_true]
  constructor
  · rintro ⟨old, among⟩
    exact ⟨_, among, decide_eq_true rfl⟩
  · rintro ⟨entry, among, shown⟩
    unfold Entry.isActivation at shown
    split at shown
    · cases of_decide_eq_true shown
      exact ⟨_, among⟩
    · cases shown

instance (system : System ε) (id : ConnectionId) : Decidable (system.HeardActive id) :=
  decidable_of_iff _ (system.heardActive_iff id).symm

end System

/-- From `before` to `after` by hearing plain events; `keep` is the part of the world that
observers do not touch. -/
structure Ripple {ε κ : Type} (keep : ε → κ) (before after : System ε) : Prop where
  count : after.connections.length = before.connections.length
  essence (id : ConnectionId) :
    (after.connection id).essence = (before.connection id).essence
  legs : after.legs = before.legs
  clock : after.clock = before.clock
  settings : after.settings = before.settings
  device : after.device = before.device
  attended : after.attended = before.attended
  works : after.works = before.works
  outside : keep after.outside = keep before.outside
  listed (id : ConnectionId) : after.isRegistered id = true → before.isRegistered id = true
  dropped (id : ConnectionId) : before.isRegistered id = true →
    after.isRegistered id = true ∨ (before.connection id).destroyed = true
  plan (id : ConnectionId) : after.planOf? id = before.planOf? id ∨
    after.planOf? id = none ∧ (before.connection id).destroyed = true
  retry : after.registry.retry = before.registry.retry ∨
    after.registry.retry = none ∧ ∀ queue, before.registry.retry = some queue →
      (before.connection queue.owner).destroyed = true ∨ after.HeardActive queue.owner
  session : after.registry.session = before.registry.session ∨
    after.registry.session.active = none ∧ ∀ owner, before.registry.session.active = some owner →
      (before.connection owner).destroyed = true
  journal (entry : Entry) : entry ∈ before.journal → entry ∈ after.journal
  requests : after.requests = before.requests

namespace Ripple

variable {ε κ : Type} {keep : ε → κ} {before middle after : System ε}

theorem refl (system : System ε) : Ripple keep system system where
  count := rfl
  essence _ := rfl
  legs := rfl
  clock := rfl
  settings := rfl
  device := rfl
  attended := rfl
  works := rfl
  outside := rfl
  listed _ known := known
  dropped _ known := .inl known
  plan _ := .inl rfl
  retry := .inl rfl
  session := .inl rfl
  journal _ old := old
  requests := rfl

section
variable (ripple : Ripple keep before after)
include ripple

theorem reads {α : Type} (read : Connection → α)
    (essential : ∀ call : Connection, read call.essence = read call) (id : ConnectionId) :
    read (after.connection id) = read (before.connection id) := by
  rw [← essential, ripple.essence, essential]

theorem destroyed (id : ConnectionId) :
    (after.connection id).destroyed = (before.connection id).destroyed :=
  ripple.reads (·.destroyed) (fun _ => rfl) id

theorem known (id : ConnectionId) : after.Known id ↔ before.Known id := by
  cases id <;> simp [System.Known, ripple.count]

theorem steady (calm : before.Steady) : after.Steady := by
  intro id
  exact (Connection.steady_congr (ripple.essence id)).mpr (calm id)

theorem heardActive {id : ConnectionId} (heard : before.HeardActive id) :
    after.HeardActive id := by
  obtain ⟨old, among⟩ := heard
  exact ⟨old, ripple.journal _ among⟩

end

theorem trans (first : Ripple keep before middle) (second : Ripple keep middle after) :
    Ripple keep before after where
  count := second.count.trans first.count
  essence id := (second.essence id).trans (first.essence id)
  legs := second.legs.trans first.legs
  clock := second.clock.trans first.clock
  settings := second.settings.trans first.settings
  device := second.device.trans first.device
  attended := second.attended.trans first.attended
  works := second.works.trans first.works
  outside := second.outside.trans first.outside
  listed id known := first.listed id (second.listed id known)
  dropped id known := by
    rcases first.dropped id known with still | gone
    · rcases second.dropped id still with last | gone
      · exact .inl last
      · exact .inr (first.destroyed id ▸ gone)
    · exact .inr gone
  plan id := by
    rcases second.plan id with same | ⟨none, gone⟩
    · rw [same]
      exact first.plan id
    · exact .inr ⟨none, first.destroyed id ▸ gone⟩
  retry := by
    rcases first.retry with same | ⟨none, why⟩
    · rcases second.retry with same' | ⟨none, why⟩
      · exact .inl (same'.trans same)
      · refine .inr ⟨none, fun queue had => ?_⟩
        rw [← first.destroyed]
        exact why queue (same.trans had)
    · refine .inr ⟨?_, fun queue had => ?_⟩
      · rcases second.retry with same | ⟨last, _⟩
        · exact same.trans none
        · exact last
      · exact (why queue had).imp_right second.heardActive
  session := by
    rcases first.session with same | ⟨none, why⟩
    · rcases second.session with same' | ⟨none, why⟩
      · exact .inl (same'.trans same)
      · refine .inr ⟨none, fun owner had => ?_⟩
        rw [← first.destroyed]
        exact why owner (same ▸ had)
    · refine .inr ⟨?_, why⟩
      rcases second.session with same | ⟨last, _⟩
      · rw [same, none]
      · exact last
  journal entry old := second.journal entry (first.journal entry old)
  requests := second.requests.trans first.requests

theorem revise (ripple : Ripple keep before after) (id : ConnectionId)
    (first second : Connection → Connection)
    (alike : (second (after.connection id)).essence = (first (before.connection id)).essence)
    (final : (before.connection id).destroyed = true →
      (first (before.connection id)).destroyed = true) :
    Ripple keep (before.reviseConnection id first) (after.reviseConnection id second) := by
  have gone := before.kept_revise id
    (motive := fun old new => old.destroyed = true → new.destroyed = true) final fun _ dead => dead
  exact {
    count := by simp [ripple.count]
    essence := fun other => by
      simp only [System.connection_reviseConnection, ripple.known]
      split
      · exact alike
      · exact ripple.essence other
    legs := by simp [ripple.legs]
    clock := by simp [ripple.clock]
    settings := by simp [ripple.settings]
    device := by simp [ripple.device]
    attended := by simp [ripple.attended]
    works := by simpa [System.works] using ripple.works
    outside := by simp [ripple.outside]
    listed := fun other known => by
      rw [System.isRegistered_reviseConnection] at known ⊢
      exact ripple.listed other known
    dropped := fun other known => by
      rw [System.isRegistered_reviseConnection] at known ⊢
      exact (ripple.dropped other known).imp_right (gone other)
    plan := fun other => by
      rw [System.planOf?_reviseConnection, System.planOf?_reviseConnection]
      exact (ripple.plan other).imp_right (And.imp_right (gone other))
    retry := by
      simp only [System.reviseConnection_registry]
      refine ripple.retry.imp_right (And.imp_right fun why queue had => ?_)
      exact (why queue had).imp (gone queue.owner) (by simp [System.HeardActive])
    session := by
      simp only [System.reviseConnection_registry]
      exact ripple.session.imp_right (And.imp_right fun why owner had => gone owner (why owner had))
    journal := by simpa using ripple.journal
    requests := by simpa [System.requests] using ripple.requests }

theorem alike (system : System ε) (id : ConnectionId) (first second : Connection → Connection)
    (same : (second (system.connection id)).essence = (first (system.connection id)).essence)
    (final : (system.connection id).destroyed = true →
      (first (system.connection id)).destroyed = true) :
    Ripple keep (system.reviseConnection id first) (system.reviseConnection id second) :=
  (refl system).revise id first second same final

theorem of_revise (system : System ε) (id : ConnectionId) (change : Connection → Connection)
    (kept : (change (system.connection id)).essence = (system.connection id).essence) :
    Ripple keep system (system.reviseConnection id change) := by
  have ripple := @alike ε κ keep system id (fun call => call) change kept fun gone => gone
  rw [system.reviseConnection_self] at ripple
  exact ripple

theorem of_written (system : System ε) {entry : Entry} (plain : entry.isRequest = false) :
    Ripple keep system { system with journal := entry :: system.journal } :=
  { refl system with
    retry := .inl rfl
    journal := fun _ old => List.mem_cons_of_mem _ old
    requests := by simp [System.requests, plain] }

theorem of_outside (system : System ε) {outside : ε} (kept : keep outside = keep system.outside) :
    Ripple keep system { system with outside } :=
  { (refl system : Ripple keep system system) with outside := kept }

theorem of_changed (system : System ε) (channel : Channel) :
    Ripple keep system { system with signals := system.signals ++ [.changed channel] } :=
  { refl system with works := by simp [System.works] }

theorem of_conferences (system : System ε) (conferences : List Conference)
    (desk standalone : ConferenceSlots) (tracked : List Holdable) (notices : List Notice) :
    Ripple keep system { system with conferences, desk, standalone, tracked, notices } :=
  { refl system with }

theorem of_registry (system : System ε) (registry : Registry)
    (connections : registry.connections = system.registry.connections)
    (plans : registry.plans = system.registry.plans)
    (retry : registry.retry = system.registry.retry)
    (session : registry.session = system.registry.session) :
    Ripple keep system { system with registry } :=
  { refl system with
    listed := fun id known => by
      simpa only [System.isRegistered, connections] using known
    dropped := fun id known => .inl (by
      simpa only [System.isRegistered, connections] using known)
    plan := fun id => .inl (by
      simp only [System.planOf?, plans])
    retry := .inl retry
    session := .inl session }

theorem lookup_filter_ne {ι α : Type} [DecidableEq ι] (entries : List (ι × α)) (id other : ι) :
    (entries.filter (·.1 != id)).lookup other =
      if other = id then none else entries.lookup other := by
  induction entries with
  | nil => simp
  | cons entry rest ih =>
    obtain ⟨key, value⟩ := entry
    by_cases mine : key = id
    · subst mine
      have kept : ((key, value) :: rest).filter (·.1 != key) = rest.filter (·.1 != key) := by simp
      rw [kept, ih]
      split
      · rfl
      · rename_i differ
        rw [List.lookup_cons, beq_false_of_ne differ]
    · have kept : ((key, value) :: rest).filter (·.1 != id) =
          (key, value) :: rest.filter (·.1 != id) := by simp [mine]
      rw [kept, List.lookup_cons, List.lookup_cons]
      cases same : other == key
      · exact ih
      · obtain rfl := eq_of_beq same
        rw [if_neg mine]

theorem of_forgotten (system : System ε) {id : ConnectionId} (roles : EmergencyRoles)
    (gone : (system.connection id).destroyed = true) :
    Ripple keep system { system with registry := { system.registry with
      connections := system.registry.connections.filter (· != id)
      plans := system.registry.plans.filter (·.1 != id)
      roles } } :=
  { refl system with
    listed := fun other known => by
      simp_all [System.isRegistered]
    dropped := fun other known => by
      by_cases same : other = id
      · exact .inr (same ▸ gone)
      · exact .inl (by simp_all [System.isRegistered])
    plan := fun other => by
      simp only [System.planOf?, lookup_filter_ne]
      split
      · rename_i same
        exact .inr ⟨rfl, same ▸ gone⟩
      · exact .inl rfl
    retry := .inl rfl }

end Ripple
end Switchboard
