import Switchboard.Proofs.Office

/-! What tasks are up to. Whoever dials for a connection is its agent, and an agent is at some
stage; whoever has had the answer to a hangup still has to end the call. `Effect` lists all that can
happen to a system and to the duties in it, one small change at a time; a `Calm` change is one in
which nothing comes up, though calls may end. -/

namespace Switchboard

/-- How far somebody has got with dialing for a connection. -/
inductive Stage
  | placing (slot : Slot)
  | dialing (phone : PhoneId) (ticket : Nat)
  | received (phone : PhoneId) (leg : LegId)
  | failing (phone : PhoneId) (error : RadioError)
  | redialing (phone : PhoneId) (permanent : Bool)
  | chosen (phone : PhoneId)
  | reselecting
  | finishing
  deriving DecidableEq

inductive Duty
  | agent (id : ConnectionId) (stage : Stage)
  | ending (id : ConnectionId)
  deriving DecidableEq

namespace Duty

def isAgentOf (id : ConnectionId) : Duty → Bool
  | agent other _ => other == id
  | ending _ => false

theorem isAgentOf_agent (id other : ConnectionId) (stage : Stage) :
    (agent other stage).isAgentOf id = true ↔ other = id := by
  simp [isAgentOf]

end Duty

/-- Whoever makes a change: the world, or a task that dials for a connection, if for any. -/
inductive Actor
  | world
  | task (subject : Option ConnectionId)

/-- What stays the same during a run: the settings, the names of the phones and, if that is agreed
on, the emergency numbers. -/
structure Terms where
  settings : Settings
  ident : Slot → PhoneId
  numbers : Option EmergencyNumbers

def Resting (duties : List Duty) : Prop :=
  ∀ id, .ending id ∉ duties

namespace Call

def isDial : Call → Bool
  | .dial .. => true
  | _ => false

end Call

def RadioEvent.isEnd : RadioEvent → Bool
  | .disconnected _ _ _ | .stateChanged .disconnected => true
  | _ => false

namespace Chronicle

def Answered (notes : Chronicle) (ticket : Nat) (answer : Answer) : Prop :=
  ∃ note ∈ notes, note.answer? ticket = some answer

def Owns (notes : Chronicle) (id : ConnectionId) (leg : LegId) : Prop :=
  .rang id leg ∈ notes ∨ ∃ ticket phone number args,
    notes.Asks ticket (.dial id phone number args) ∧ notes.Answered ticket (.leg leg)

/-- The leg was at its end when it was given, or has said so since. -/
def HasEnded (notes : Chronicle) (leg : LegId) : Prop :=
  (∃ ticket view, .granted ticket leg view ∈ notes ∧ view.state = .disconnected) ∨
    ∃ event, .reported leg event ∈ notes ∧ event.isEnd = true

/-- The leg was told to end. -/
def IsSent (notes : Chronicle) (leg : LegId) : Prop :=
  .asked (.command leg .hangup) ∈ notes ∨ .asked (.command leg .reject) ∈ notes

def Ends (notes : Chronicle) (ticket : Nat) (leg : LegId) : Prop :=
  notes.Asks ticket (.command leg .hangup) ∨ notes.Asks ticket (.command leg .reject) ∨
    ∃ video error, notes.Asks ticket (.command leg (.answer video)) ∧
      notes.Answered ticket (.reply (.refused error))

theorem Asks.later {notes later : Chronicle} {ticket : Nat} {call : Call}
    (asks : notes.Asks ticket call) (suffix : notes <:+ later) : later.Asks ticket call := by
  obtain ⟨newer, rfl⟩ := suffix
  have inside : ticket < notes.reverse.length := (List.getElem?_eq_some_iff.mp asks).choose
  rw [Asks, List.reverse_append, List.getElem?_append_left inside]
  exact asks

theorem Asks.unique {notes : Chronicle} {ticket : Nat} {first second : Call}
    (asks : notes.Asks ticket first) (again : notes.Asks ticket second) : first = second := by
  rw [Asks, asks] at again
  simpa using again

theorem Asks.mem {notes : Chronicle} {ticket : Nat} {call : Call}
    (asks : notes.Asks ticket call) : .asked call ∈ notes := by
  have among := List.mem_of_getElem? asks
  simpa using among

theorem asks_now (notes : Chronicle) (call : Call) :
    Asks (.asked call :: notes) notes.length call := by
  simp [Asks]

theorem asks_cons {note : Note} {notes : Chronicle} {ticket : Nat} {call : Call}
    (asks : Asks (note :: notes) ticket call) :
    notes.Asks ticket call ∨ ticket = notes.length ∧ note = .asked call := by
  rw [Asks, List.reverse_cons] at asks
  rcases Nat.lt_trichotomy ticket notes.length with old | last | past
  · left
    rwa [List.getElem?_append_left (by simpa using old)] at asks
  · right
    subst last
    simpa using asks
  · rw [List.getElem?_eq_none (by simp; omega)] at asks
    cases asks

theorem Answered.later {notes later : Chronicle} {ticket : Nat} {answer : Answer}
    (answered : notes.Answered ticket answer) (suffix : notes <:+ later) :
    later.Answered ticket answer := by
  obtain ⟨note, among, answers⟩ := answered
  exact ⟨note, suffix.mem among, answers⟩

theorem answered_of_findSome {notes : Chronicle} {ticket : Nat} {answer : Answer}
    (found : notes.findSome? (Note.answer? ticket) = some answer) :
    notes.Answered ticket answer :=
  List.exists_of_findSome?_eq_some found

theorem answered_cons {note : Note} {notes : Chronicle} {ticket : Nat} {answer : Answer} :
    Answered (note :: notes) ticket answer ↔
      note.answer? ticket = some answer ∨ notes.Answered ticket answer := by
  simp [Answered]

theorem not_answered_of_isOpen {notes : Chronicle} {ticket : Nat} {answer : Answer}
    (opened : notes.isOpen ticket = true) : ¬ notes.Answered ticket answer := by
  rintro ⟨note, among, answers⟩
  have about : note.ticket? = some ticket := by
    cases note <;> simp_all [Note.answer?, Note.ticket?]
  unfold isOpen at opened
  split at opened
  · have none := List.all_eq_true.mp opened note among
    simp [about] at none
  · cases opened

theorem asks_of_isOpen {notes : Chronicle} {ticket : Nat} (opened : notes.isOpen ticket = true) :
    ∃ call, notes.Asks ticket call := by
  unfold isOpen at opened
  split at opened
  · rename_i call asks
    exact ⟨call, asks⟩
  · cases opened

theorem Asks.lt_length {notes : Chronicle} {ticket : Nat} {call : Call}
    (asks : notes.Asks ticket call) : ticket < notes.length := by
  simpa using (List.getElem?_eq_some_iff.mp asks).choose

theorem Owns.later {notes later : Chronicle} {id : ConnectionId} {leg : LegId}
    (owns : notes.Owns id leg) (suffix : notes <:+ later) : later.Owns id leg := by
  rcases owns with rang | ⟨ticket, phone, number, args, asks, answered⟩
  · exact .inl (suffix.mem rang)
  · exact .inr ⟨ticket, phone, number, args, asks.later suffix, answered.later suffix⟩

theorem HasEnded.later {notes later : Chronicle} {leg : LegId}
    (ended : notes.HasEnded leg) (suffix : notes <:+ later) : later.HasEnded leg := by
  rcases ended with ⟨ticket, view, granted, state⟩ | ⟨event, reported, isEnd⟩
  · exact .inl ⟨ticket, view, suffix.mem granted, state⟩
  · exact .inr ⟨event, suffix.mem reported, isEnd⟩

theorem Ends.later {notes later : Chronicle} {ticket : Nat} {leg : LegId}
    (ends : notes.Ends ticket leg) (suffix : notes <:+ later) : later.Ends ticket leg := by
  rcases ends with hangup | reject | ⟨video, error, answer, refused⟩
  · exact .inl (hangup.later suffix)
  · exact .inr (.inl (reject.later suffix))
  · exact .inr (.inr ⟨video, error, answer.later suffix, refused.later suffix⟩)

end Chronicle

namespace CallState

def isPastRinging : CallState → Bool
  | .active | .holding | .disconnecting | .disconnected => true
  | _ => false

structure LeadsTo (old new : CallState) : Prop where
  past : old.isPastRinging = true → new.isPastRinging = true
  ringing : old = .ringing → new = .ringing ∨ new.isPastRinging = true

theorem LeadsTo.refl (state : CallState) : state.LeadsTo state := ⟨id, .inl⟩

theorem LeadsTo.trans {old middle new : CallState} (first : old.LeadsTo middle)
    (second : middle.LeadsTo new) : old.LeadsTo new where
  past past := second.past (first.past past)
  ringing rings := (first.ringing rings).elim second.ringing fun past => .inr (second.past past)

theorem leadsTo_of_isPastRinging {old new : CallState} (past : new.isPastRinging = true) :
    old.LeadsTo new :=
  ⟨fun _ => past, fun _ => .inr past⟩

theorem leadsTo_of_canBecome {old new : CallState} (can : old.canBecome new = true) :
    old.LeadsTo new := by
  constructor <;> cases old <;> cases new <;> simp_all [canBecome, isPastRinging]

end CallState

namespace Connection

def standing (call : Connection) : CallState :=
  if call.destroyed then .disconnected else call.visibleState

theorem standing_finished (info : DisconnectInfo) (call : Connection) :
    (call.finished info).standing = .disconnected := by
  rw [standing]
  split
  · rfl
  · exact visibleState_of_ended rfl

/-- A connection that is what it was, or less: it may have lost its leg, or be destroyed. -/
structure OnlyLoses (old new : Connection) : Prop where
  generation : old.generation ≤ new.generation
  leg : new.leg = none ∨ new.leg = old.leg ∧ new.generation = old.generation
  destroyed : old.destroyed = true → new.destroyed = true
  bare : new.destroyed = true → old.destroyed = true ∨ new.leg = none
  shown : (old.destroyed = true → old.published.state = .disconnected) →
    new.destroyed = true → new.published.state = .disconnected
  listeners : old.listeners.Nodup → new.listeners.Nodup
  phone : new.phone = old.phone
  emergency : new.emergency = old.emergency
  redial : new.redialEnabled = true → old.redialEnabled = true
  selection : new.selectionActive = true → old.selectionActive = true
  plain : old.presented = none → new.presented = none
  leads : old.presented = none → old.standing.LeadsTo new.standing

theorem OnlyLoses.refl (call : Connection) : call.OnlyLoses call where
  generation := Nat.le_refl _
  leg := .inr ⟨rfl, rfl⟩
  destroyed gone := gone
  bare gone := .inl gone
  shown shows := shows
  listeners distinct := distinct
  phone := rfl
  emergency := rfl
  redial on := on
  selection on := on
  plain none := none
  leads _ := .refl _

theorem OnlyLoses.trans {old middle new : Connection} (first : old.OnlyLoses middle)
    (second : middle.OnlyLoses new) : old.OnlyLoses new where
  generation := Nat.le_trans first.generation second.generation
  leg := by
    rcases second.leg with none | ⟨same, now⟩
    · exact .inl none
    · rw [same, now]
      exact first.leg
  destroyed gone := second.destroyed (first.destroyed gone)
  bare gone := by
    rcases second.bare gone with before | none
    · refine (first.bare before).imp_right fun none => ?_
      rcases second.leg with none | ⟨same, -⟩
      · exact none
      · rw [same, none]
    · exact .inr none
  shown shows := second.shown (first.shown shows)
  listeners distinct := second.listeners (first.listeners distinct)
  phone := second.phone.trans first.phone
  emergency := second.emergency.trans first.emergency
  redial on := first.redial (second.redial on)
  selection on := first.selection (second.selection on)
  plain none := second.plain (first.plain none)
  leads none := (first.leads none).trans (second.leads (first.plain none))

theorem onlyLoses_of_essence {old new : Connection} (same : new.essence = old.essence) :
    old.OnlyLoses new := by
  have part {α : Type} (read : Connection → α) : read new.essence = read old.essence :=
    congrArg read same
  have generation : new.generation = old.generation := part (·.generation)
  have leg : new.leg = old.leg := part (·.leg)
  have destroyed : new.destroyed = old.destroyed := part (·.destroyed)
  have shown : new.published.state = old.published.state := part (·.published.state)
  have listeners : new.listeners = old.listeners := part (·.listeners)
  have redial : new.redialEnabled = old.redialEnabled := part (·.redialEnabled)
  have selection : new.selectionActive = old.selectionActive := part (·.selectionActive)
  exact {
    generation := Nat.le_of_eq generation.symm
    leg := .inr ⟨leg, generation⟩
    destroyed := fun gone => by rw [destroyed, gone]
    bare := fun gone => .inl (by rw [← destroyed, gone])
    shown := fun shows gone => by rw [shown]; exact shows (destroyed ▸ gone)
    listeners := fun distinct => by rw [listeners]; exact distinct
    phone := part (·.phone)
    emergency := part (·.emergency)
    redial := fun on => by rw [← redial, on]
    selection := fun on => by rw [← selection, on]
    plain := fun none => (part (·.presented)).trans none
    leads := fun _ => by
      have standing : new.standing = old.standing := part (·.standing)
      rw [standing]
      exact .refl _ }

theorem onlyLoses_finished (info : DisconnectInfo) (call : Connection) :
    call.OnlyLoses (call.finished info) :=
  { OnlyLoses.refl call with
    plain := fun _ => rfl
    leads := fun _ => by
      rw [standing_finished]
      exact CallState.leadsTo_of_isPastRinging rfl }

theorem leads_of_shown {old new : Connection} (destroyed : new.destroyed = old.destroyed)
    (shown : new.visibleState = old.visibleState) : old.standing.LeadsTo new.standing := by
  rw [standing, standing, destroyed, shown]
  exact .refl _

theorem onlyLoses_becoming {call : Connection} {next : CallState}
    (can : call.visibleState.canBecome next = true) :
    call.OnlyLoses { call.follow (.stateChanged next) with presented := none } :=
  { OnlyLoses.refl call with
    plain := fun _ => rfl
    leads := fun none => by
      rw [visibleState, none] at can
      rw [standing, standing, visibleState, visibleState, none]
      cases gone : call.destroyed <;> cases ended : call.ended <;> cases view : call.view <;>
        simp_all [follow, RadioSnapshot.apply, CallState.LeadsTo.refl,
          CallState.leadsTo_of_canBecome] }

theorem onlyLoses_settled (call : Connection) : call.OnlyLoses call.settled := by
  by_cases gone : call.destroyed = true
  · rw [settled_of_destroyed gone]
    exact { OnlyLoses.refl call with }
  · have alive : call.destroyed = false := by simpa using gone
    cases ending : call.isEnding with
    | false =>
      rw [settled_of_lasting alive ending]
      exact { OnlyLoses.refl call with shown := fun _ now => absurd now gone }
    | true =>
      rw [settled_of_ending ending]
      exact { OnlyLoses.refl call with
        generation := Nat.le_succ _
        leg := .inl rfl
        destroyed := fun _ => rfl
        bare := fun _ => .inr rfl
        shown := fun _ _ => rfl
        listeners := fun _ => List.nodup_nil
        leads := fun _ => CallState.leadsTo_of_isPastRinging rfl }

end Connection

namespace System

variable {ε : Type} (system : System ε)

@[simp] theorem leg_reviseConnection (id : ConnectionId) (change : Connection → Connection)
    (leg : LegId) : (system.reviseConnection id change).leg leg = system.leg leg := by
  simp [System.leg]

theorem leg_reviseLeg (leg other : LegId) (change : Leg → Leg) :
    (system.reviseLeg leg change).leg other =
      if other = leg ∧ leg.serial < system.legs.length then change (system.leg leg)
      else system.leg other := by
  obtain ⟨position⟩ := leg
  obtain ⟨serial⟩ := other
  simp only [reviseLeg, System.leg, List.getD_eq_getElem?_getD, List.getElem?_modify,
    LegId.mk.injEq]
  by_cases same : serial = position
  · subst same
    by_cases known : serial < system.legs.length
    · simp [known]
    · simp [known]
  · have differ : ¬ position = serial := fun eq => same eq.symm
    simp [same, differ]

def SameBooks (before after : System ε) : Prop :=
  after = { before with connections := after.connections, legs := after.legs }

theorem SameBooks.trans {before middle after : System ε} (first : before.SameBooks middle)
    (second : middle.SameBooks after) : before.SameBooks after := by
  unfold SameBooks at first second ⊢
  rw [second, first]

theorem SameBooks.read {before after : System ε} {α : Type} (same : before.SameBooks after)
    (read : System ε → α)
    (blind : ∀ system connections legs,
      read { system with connections, legs } = read system) :
    read after = read before := by
  rw [same, blind]

theorem sameBooks_reviseConnection (id : ConnectionId) (change : Connection → Connection) :
    system.SameBooks (system.reviseConnection id change) := by
  cases id <;> rfl

theorem sameBooks_release (leg : Option LegId) : system.SameBooks (system.release leg) := by
  cases leg <;> rfl

theorem sameBooks_settle (id : ConnectionId) : system.SameBooks (system.settle id) :=
  (system.sameBooks_reviseConnection id _).trans (sameBooks_release _ _)

theorem sameBooks_bound (id : ConnectionId) (leg : LegId) :
    system.SameBooks (system.bound id leg) := by
  have released := (system.sameBooks_reviseConnection id
    (.bound leg (system.leg leg).view)).trans (sameBooks_release _ (system.connection id).leg)
  have attached (system : System ε) (bridge : Bridge) :
      system.SameBooks (system.attached leg bridge) := rfl
  exact (released.trans (attached _ _)).trans (sameBooks_settle _ id)

end System

theorem Bystanders.observe_notes :
    (silent : Bystanders Chronicle).Observe fun notes : Chronicle => notes :=
  observe_silent _

theorem Wiring.ripples_notes (rounds : Nat) :
    (Wiring.level Bystanders.silent rounds).Ripples fun notes : Chronicle => notes :=
  Wiring.ripples_level Bystanders.observe_notes rounds

/-- Nothing comes up; calls may end. -/
structure Calm (before after : System Chronicle) : Prop where
  settings : after.settings = before.settings
  device : after.device = before.device
  attended : after.attended = before.attended
  outside : after.outside = before.outside
  works : after.works = before.works
  count : after.connections.length = before.connections.length
  legs : after.legs.length = before.legs.length
  onlyLoses (id : ConnectionId) : (before.connection id).OnlyLoses (after.connection id)
  last (leg : LegId) : (after.leg leg).last = (before.leg leg).last
  attached (leg : LegId) : (after.leg leg).attached = (before.leg leg).attached ∨
    (after.leg leg).attached = none
  view (leg : LegId) : (after.leg leg).view.state = .disconnected →
    (before.leg leg).view.state = .disconnected ∨ before.outside.HasEnded leg
  registered (id : ConnectionId) : before.isRegistered id = true →
    after.isRegistered id = true ∨ (after.connection id).destroyed = true
  plan (id : ConnectionId) : after.planOf? id = before.planOf? id ∨ after.planOf? id = none
  retry : after.registry.retry = before.registry.retry ∨
    after.registry.retry = none ∧ ∀ queue, before.registry.retry = some queue →
      (after.connection queue.owner).destroyed = true ∨ after.HeardActive queue.owner
  heard (id : ConnectionId) : before.HeardActive id → after.HeardActive id

namespace Calm

variable {before middle after : System Chronicle}

theorem refl (system : System Chronicle) : Calm system system where
  settings := rfl
  device := rfl
  attended := rfl
  outside := rfl
  works := rfl
  count := rfl
  legs := rfl
  onlyLoses _ := .refl _
  last _ := rfl
  attached _ := .inl rfl
  view _ state := .inl state
  registered _ known := .inl known
  plan _ := .inl rfl
  retry := .inl rfl
  heard _ heard := heard

theorem trans (first : Calm before middle) (second : Calm middle after) : Calm before after where
  settings := second.settings.trans first.settings
  device := second.device.trans first.device
  attended := second.attended.trans first.attended
  outside := second.outside.trans first.outside
  works := second.works.trans first.works
  count := second.count.trans first.count
  legs := second.legs.trans first.legs
  onlyLoses id := (first.onlyLoses id).trans (second.onlyLoses id)
  last leg := (second.last leg).trans (first.last leg)
  attached leg := by
    rcases second.attached leg with same | none
    · rw [same]
      exact first.attached leg
    · exact .inr none
  view leg state := by
    rcases second.view leg state with still | ended
    · exact first.view leg still
    · rw [first.outside] at ended
      exact .inr ended
  registered id known := by
    rcases first.registered id known with still | gone
    · exact second.registered id still
    · exact .inr ((second.onlyLoses id).destroyed gone)
  plan id := by
    rcases second.plan id with same | none
    · rw [same]
      exact first.plan id
    · exact .inr none
  retry := by
    rcases first.retry with same | ⟨none, why⟩
    · rcases second.retry with again | ⟨none, why⟩
      · exact .inl (again.trans same)
      · exact .inr ⟨none, fun queue had => why queue (same.trans had)⟩
    · refine .inr ⟨?_, fun queue had => ?_⟩
      · rcases second.retry with same | ⟨last, -⟩
        · exact same.trans none
        · exact last
      · exact (why queue had).imp (second.onlyLoses _).destroyed (second.heard _)
  heard id heard := second.heard id (first.heard id heard)

theorem known (calm : Calm before after) (id : ConnectionId) :
    after.Known id ↔ before.Known id := by
  cases id <;> simp [System.Known, calm.count]

theorem of_ripple (ripple : Ripple (fun notes : Chronicle => notes) before after) :
    Calm before after where
  settings := ripple.settings
  device := ripple.device
  attended := ripple.attended
  outside := ripple.outside
  works := ripple.works
  count := ripple.count
  legs := by rw [ripple.legs]
  onlyLoses id := Connection.onlyLoses_of_essence (ripple.essence id)
  last leg := by simp only [System.leg, ripple.legs]
  attached leg := .inl (by simp only [System.leg, ripple.legs])
  view leg state := .inl (by simpa only [System.leg, ripple.legs] using state)
  registered id known := by
    rw [ripple.destroyed]
    exact ripple.dropped id known
  plan id := (ripple.plan id).imp_right And.left
  retry := by
    refine ripple.retry.imp_right (And.imp_right fun why queue had => ?_)
    rw [ripple.destroyed]
    exact why queue had
  heard _ heard := ripple.heardActive heard

theorem reviseConnection (system : System Chronicle) (id : ConnectionId)
    {change : Connection → Connection}
    (onlyLoses : (system.connection id).OnlyLoses (change (system.connection id))) :
    Calm system (system.reviseConnection id change) :=
  { refl system with
    settings := by simp
    device := by simp
    attended := by simp
    outside := by simp
    works := by simp [System.works]
    count := by simp
    legs := by simp
    onlyLoses := system.kept_revise id onlyLoses .refl
    last := fun leg => by simp
    attached := fun leg => by simp
    view := fun leg state => .inl (by simpa using state)
    registered := fun other known => .inl (by simpa using known)
    plan := fun other => by simp
    retry := by simp
    heard := fun other heard => by simpa [System.HeardActive] using heard }

theorem reviseLeg (system : System Chronicle) (leg : LegId) {change : Leg → Leg}
    (last : (change (system.leg leg)).last = (system.leg leg).last)
    (attached : (change (system.leg leg)).attached = (system.leg leg).attached ∨
      (change (system.leg leg)).attached = none)
    (view : (change (system.leg leg)).view.state = .disconnected →
      (system.leg leg).view.state = .disconnected ∨ system.outside.HasEnded leg) :
    Calm system (system.reviseLeg leg change) :=
  { refl system with
    legs := by simp [System.reviseLeg]
    onlyLoses := fun id => by
      rw [System.connection_reviseLeg]
      exact .refl _
    last := fun other => by
      rw [System.leg_reviseLeg]
      split
      · rename_i here
        rw [here.1]
        exact last
      · rfl
    attached := fun other => by
      rw [System.leg_reviseLeg]
      split
      · rename_i here
        rw [here.1]
        exact attached
      · exact .inl rfl
    view := fun other => by
      rw [System.leg_reviseLeg]
      split
      · rename_i here
        rw [here.1]
        exact view
      · exact .inl
    retry := .inl rfl }

theorem release (system : System Chronicle) (leg : Option LegId) :
    Calm system (system.release leg) := by
  cases leg with
  | none => exact .refl system
  | some leg => exact reviseLeg system leg rfl (.inr rfl) .inl

theorem settle (system : System Chronicle) (id : ConnectionId) :
    Calm system (system.settle id) :=
  (reviseConnection system id (Connection.onlyLoses_settled _)).trans (release _ _)

theorem changed (system : System Chronicle) (id : ConnectionId)
    {change : Connection → Connection}
    (onlyLoses : (system.connection id).OnlyLoses (change (system.connection id))) :
    Calm system (system.changed id change) :=
  (reviseConnection system id onlyLoses).trans (settle _ id)

theorem ending (system : System Chronicle) (id : ConnectionId) (info : DisconnectInfo) :
    Calm system (system.ending id info) := by
  rw [System.ending]
  split
  · exact .refl system
  · exact changed system id (Connection.onlyLoses_finished info _)

theorem givenUp (system : System Chronicle) (id : ConnectionId) :
    Calm system (system.givenUp id) := by
  have onlyLoses : (system.connection id).OnlyLoses (Connection.waiting (system.connection id)) :=
    { Connection.OnlyLoses.refl _ with
      generation := Nat.le_succ _
      leg := .inl rfl
      bare := fun _ => .inr rfl }
  exact (reviseConnection system id onlyLoses).trans (release _ _)

end Calm
end Switchboard
