import Switchboard.Proofs.Changes

/-! Passing on verdicts. A verdict on holding shows in the capabilities of a connection and nowhere
else, and the exchange does nothing when it hears of capabilities; so verdicts leave connections,
conferences and books as they are. What a connection has published agrees all the while with what it
derives, or another round of publishing is due (`Connection.roundBegun`). -/

namespace Switchboard

namespace ConnectionEvent

/-- The exchange does nothing when it hears of the event. -/
def isIdle : ConnectionEvent → Bool
  | .capabilitiesChanged _ | .addressChanged .. | .callerNameChanged .. | .videoStateChanged _
  | .extrasChanged _ | .disconnected _ => true
  | _ => false

def isRecount : ConnectionEvent → Bool
  | .stateChanged .. | .propertiesChanged _ | .destroyed => true
  | _ => false

theorem isRecount_of_isIdle {event : ConnectionEvent} (idle : event.isIdle = true) :
    event.isRecount = false := by
  cases event <;> first | rfl | cases idle

end ConnectionEvent

def Entry.isRecount : Entry → Bool
  | .heard .exchange _ event => event.isRecount
  | _ => false

/-- The record without the capabilities. -/
def Published.bare (record : Published) : Published :=
  { record with caps := {} }

namespace Connection

def Near (call : Connection) : Prop :=
  call.destroyed = false → call.published.bare = call.derived.bare

def Current (call : Connection) : Prop :=
  call.destroyed = false → call.published.caps = call.derived.caps ∨
    call.publishing = true ∧ call.republish = true

theorem derived_plain (call : Connection) (conference : Option ConferenceId) (holdAllowed : Bool) :
    (derived { call with conference, holdAllowed }).bare = call.derived.bare := by
  cases view : call.view <;>
    simp [Published.bare, derived, facts, visibleState, dialedNumber?, CallFacts.properties,
      CallFacts.plainProperties, CallFacts.hdAudio, CallFacts.isPacket,
      Technology.adjustProperties, view]

theorem eq_derived {call : Connection} (near : call.published.bare = call.derived.bare)
    (caps : call.published.caps = call.derived.caps) : call.published = call.derived :=
  calc call.published
    _ = { call.published with caps := call.derived.caps } := by rw [← caps]
    _ = call.derived :=
      congrArg (fun record : Published => { record with caps := call.derived.caps }) near

def Silent (call : Connection) : Prop :=
  call.destroyed = false →
    call.published.state = call.derived.state ∧ call.published.props = call.derived.props

theorem Near.silent {call : Connection} (near : call.Near) : call.Silent := by
  intro alive
  have part {α : Type} (read : Published → α) := congrArg read (near alive)
  exact ⟨part (·.state), part (·.props)⟩

theorem isIdle_of_mem_changes {old new : Published} (state : old.state = new.state)
    (props : old.props = new.props) :
    ∀ event ∈ old.changes new, event.isIdle = true := by
  intro event among
  simp only [Published.changes, state, props, if_true, List.append_nil, List.nil_append,
    List.mem_append] at among
  rcases among with ((((among | among) | among) | among) | among) <;>
    (split at among <;> simp_all [ConnectionEvent.isIdle])

def refreshed (call : Connection) : Connection :=
  if call.destroyed then { call with republish := false, publishing := false }
  else { call with published := call.derived, republish := false, publishing := false }

theorem refreshed_published (call : Connection) (alive : call.refreshed.destroyed = false) :
    call.refreshed.published = call.refreshed.derived := by
  unfold refreshed at alive ⊢
  split at alive
  · simp_all
  · simp_all
    rfl

theorem refreshed_essence {call : Connection} (idle : call.publishing = false)
    (near : call.Near) : call.refreshed.essence = call.essence := by
  unfold refreshed
  split
  · simp [essence, idle]
  · rename_i alive
    have shown := congrArg (·.state) (near (by simpa using alive))
    have state : call.published.state = call.derived.state := shown
    simp [essence, idle, state]

end Connection

namespace System

variable {ε : Type}

def recounts (system : System ε) : Nat :=
  system.journal.countP Entry.isRecount

def Noted (before after : System ε) : Prop :=
  ∃ news : List Entry, news.countP Entry.isRecount = 0 ∧
    after = { before with journal := news ++ before.journal }

theorem Noted.refl (system : System ε) : system.Noted system :=
  ⟨[], rfl, rfl⟩

theorem Noted.trans {before middle after : System ε} (first : before.Noted middle)
    (second : middle.Noted after) : before.Noted after := by
  obtain ⟨older, none, rfl⟩ := first
  obtain ⟨newer, none', rfl⟩ := second
  exact ⟨newer ++ older, by rw [List.countP_append, none, none'], by simp⟩

theorem Noted.revise {before after : System ε} (noted : before.Noted after) (id : ConnectionId)
    (change : Connection → Connection) :
    (before.reviseConnection id change).Noted (after.reviseConnection id change) := by
  obtain ⟨news, plain, rfl⟩ := noted
  exact ⟨news, plain, by cases id <;> rfl⟩

theorem Noted.of_congr {system : System ε} {id : ConnectionId}
    {first second : Connection → Connection}
    (same : first (system.connection id) = second (system.connection id)) :
    (system.reviseConnection id second).Noted (system.reviseConnection id first) := by
  rw [system.reviseConnection_congr same]
  exact .refl _

theorem Noted.connection {before after : System ε} (noted : before.Noted after)
    (id : ConnectionId) : after.connection id = before.connection id := by
  obtain ⟨news, -, rfl⟩ := noted
  cases id <;> rfl

end System

def Conference.core (conference : Conference) : Conference :=
  { conference with holdAllowed := false }

namespace System

variable {ε : Type}

def verdict (system : System ε) : Holdable → Bool
  | .connection id => (system.connection id).holdAllowed
  | .conference id => (system.conference id).holdAllowed

theorem verdict_reviseConnection (system : System ε) {id : ConnectionId}
    {change : Connection → Connection}
    (same : (change (system.connection id)).holdAllowed = (system.connection id).holdAllowed)
    (entity : Holdable) :
    (system.reviseConnection id change).verdict entity = system.verdict entity := by
  cases entity with
  | connection other =>
    exact system.read_reviseConnection (·.holdAllowed) same other
  | conference conference => cases id <;> rfl

theorem Noted.verdict {before after : System ε} (noted : before.Noted after) (entity : Holdable) :
    after.verdict entity = before.verdict entity := by
  obtain ⟨news, -, rfl⟩ := noted
  cases entity with
  | connection id => cases id <;> rfl
  | conference id => cases id <;> rfl

def Present (system : System ε) : Holdable → Prop
  | .connection id => system.Known id
  | .conference (.formed serial) => serial < system.conferences.length
  | .conference (.outsider _) => False

instance (system : System ε) (entity : Holdable) : Decidable (system.Present entity) := by
  rcases entity with id | serial | value
  · exact inferInstanceAs (Decidable (system.Known id))
  · exact inferInstanceAs (Decidable (serial < _))
  · exact inferInstanceAs (Decidable False)

theorem conference_of_not_present {system : System ε} {id : ConferenceId}
    (strange : ¬ system.Present (.conference id)) : system.conference id = default := by
  cases id with
  | outsider value => rfl
  | formed serial =>
    have past : system.conferences.length ≤ serial := Nat.not_lt.mp strange
    simp [conference, List.getD_eq_getElem?_getD, past]

theorem mayHold_of_not_present {system : System ε} {entity : Holdable}
    (strange : ¬ system.Present entity) :
    system.mayHold entity = false ∧ system.verdict entity = false := by
  cases entity with
  | connection id =>
    have absent := system.connection_of_not_known strange
    simp only [mayHold, standsAlone, verdict, absent]
    exact ⟨rfl, rfl⟩
  | conference id =>
    have absent := conference_of_not_present strange
    simp only [mayHold, standsAlone, conferenceIsLive, verdict, absent]
    exact ⟨rfl, rfl⟩

theorem conference_reviseConference (system : System ε) (id other : ConferenceId)
    (change : Conference → Conference) :
    (system.reviseConference id change).conference other =
      if other = id ∧ system.Present (.conference id) then change (system.conference id)
      else system.conference other := by
  cases id with
  | outsider value => simp [reviseConference, Present]
  | formed serial =>
    cases other with
    | outsider value => simp [conference]
    | formed last =>
      simp only [reviseConference, conference, List.getD_eq_getElem?_getD, List.getElem?_modify,
        ConferenceId.formed.injEq, Present]
      by_cases same : last = serial
      · subst same
        by_cases inside : last < system.conferences.length <;> simp [inside]
      · simp [same, Ne.symm same]

@[simp] theorem present_reviseConference (system : System ε) (id : ConferenceId)
    (change : Conference → Conference) (entity : Holdable) :
    (system.reviseConference id change).Present entity ↔ system.Present entity := by
  cases id with
  | outsider value => rfl
  | formed serial =>
    rcases entity with (_ | _) | (_ | _) <;> simp [Present, Known, reviseConference]

theorem desk_reviseConference (system : System ε) (id : ConferenceId)
    (change : Conference → Conference) : (system.reviseConference id change).desk = system.desk :=
      by
  cases id <;> rfl

theorem tracked_reviseConference (system : System ε) (id : ConferenceId)
    (change : Conference → Conference) :
    (system.reviseConference id change).tracked = system.tracked := by
  cases id <;> rfl

theorem core_of_cores {before after : System ε}
    (cores : after.conferences.map Conference.core = before.conferences.map Conference.core)
    (id : ConferenceId) : (after.conference id).core = (before.conference id).core := by
  cases id with
  | outsider value => rfl
  | formed serial =>
    have same := congrArg (·[serial]?) cores
    simp only [List.getElem?_map] at same
    simp only [conference, List.getD_eq_getElem?_getD]
    cases first : after.conferences[serial]? <;> cases second : before.conferences[serial]? <;>
      simp_all

def Judged (system : System ε) : Prop :=
  ∀ entity ∈ system.tracked, system.verdict entity = system.mayHold entity

structure Alike (before after : System ε) : Prop where
  shown (id : ConnectionId) :
    (after.connection id).published.state = (before.connection id).published.state
  several {id : ConnectionId} : id ∈ before.registry.connections →
    (after.connection id).isMultiparty = (before.connection id).isMultiparty
  conference (id : ConnectionId) :
    (after.connection id).conference = (before.connection id).conference
  desk : after.desk = before.desk
  tracked : after.tracked = before.tracked
  cores : after.conferences.map Conference.core = before.conferences.map Conference.core
  listed : after.registry.connections = before.registry.connections

namespace Alike

variable {before middle after : System ε}

theorem trans (first : before.Alike middle) (second : middle.Alike after) : before.Alike after where
  shown id := (second.shown id).trans (first.shown id)
  several among := (second.several (first.listed ▸ among)).trans (first.several among)
  conference id := (second.conference id).trans (first.conference id)
  desk := second.desk.trans first.desk
  tracked := second.tracked.trans first.tracked
  cores := second.cores.trans first.cores
  listed := second.listed.trans first.listed

theorem of_same (connections : after.connections = before.connections)
    (desk : after.desk = before.desk) (tracked : after.tracked = before.tracked)
    (conferences : after.conferences = before.conferences)
    (listed : after.registry.connections = before.registry.connections) : before.Alike after := by
  have same (id : ConnectionId) : after.connection id = before.connection id :=
    connection_congr connections id
  exact ⟨fun id => by rw [same], fun _ => by rw [same], fun id => by rw [same], desk, tracked,
    by rw [conferences], listed⟩

theorem of_noted (noted : before.Noted after) : before.Alike after := by
  obtain ⟨news, -, rfl⟩ := noted
  exact of_same rfl rfl rfl rfl rfl

section
variable (alike : before.Alike after)
include alike

theorem members (id : ConferenceId) :
    (after.conference id).members = (before.conference id).members := by
  have same := congrArg Conference.members (core_of_cores alike.cores id)
  exact same

theorem removed (id : ConferenceId) :
    (after.conference id).removed = (before.conference id).removed := by
  have same := congrArg Conference.removed (core_of_cores alike.cores id)
  exact same

theorem standsAlone : after.standsAlone = before.standsAlone := by
  funext entity
  cases entity with
  | connection id => simp only [System.standsAlone, alike.shown, alike.conference]
  | conference id =>
    simp only [System.standsAlone, conferenceIsLive, alike.members, alike.removed, alike.shown]

theorem mayHold : after.mayHold = before.mayHold := by
  funext entity
  simp only [System.mayHold, standing, alike.standsAlone, alike.tracked]
  rfl

theorem judged (verdict : ∀ entity, after.verdict entity = before.verdict entity)
    (judged : before.Judged) : after.Judged := by
  intro entity among
  rw [verdict, alike.mayHold]
  exact judged entity (alike.tracked ▸ among)

end
end Alike

theorem Noted.judged {before after : System ε} (noted : before.Noted after)
    (judged : before.Judged) : after.Judged :=
  (Alike.of_noted noted).judged noted.verdict judged

structure ConferencesOnly (before after : System ε) : Prop where
  count : after.connections.length = before.connections.length
  essence (id : ConnectionId) : (after.connection id).essence = (before.connection id).essence
  near (id : ConnectionId) : (before.connection id).Near → (after.connection id).Near
  listed : after.registry.connections = before.registry.connections
  recounts : before.recounts ≤ after.recounts

structure MembershipsOnly (before after : System ε) :
    Prop extends before.ConferencesOnly after where
  desk : after.desk = before.desk
  tracked : after.tracked = before.tracked
  cores : after.conferences.map Conference.core = before.conferences.map Conference.core
  unheard : after.recounts = before.recounts

def Renews (before after : System ε) : Prop :=
  ∀ id, (before.connection id).Current → (after.connection id).Current

/-- Only verdicts may have changed. -/
structure VerdictsOnly (before after : System ε) : Prop extends before.MembershipsOnly after where
  renews : before.Renews after
  conference (id : ConnectionId) :
    (after.connection id).conference = (before.connection id).conference

namespace ConferencesOnly

variable {before middle after : System ε}

theorem refl (system : System ε) : system.ConferencesOnly system where
  count := rfl
  essence _ := rfl
  near _ near := near
  listed := rfl
  recounts := Nat.le_refl _

theorem trans (first : before.ConferencesOnly middle) (second : middle.ConferencesOnly after) :
    before.ConferencesOnly after where
  count := second.count.trans first.count
  essence id := (second.essence id).trans (first.essence id)
  near id near := second.near id (first.near id near)
  listed := second.listed.trans first.listed
  recounts := Nat.le_trans first.recounts second.recounts

theorem reads (conferencesOnly : before.ConferencesOnly after) {α : Type} (read : Connection → α)
    (essential : ∀ call : Connection, read call.essence = read call) (id : ConnectionId) :
    read (after.connection id) = read (before.connection id) := by
  rw [← essential, conferencesOnly.essence, essential]

theorem steady (conferencesOnly : before.ConferencesOnly after) (calm : before.Steady) :
    after.Steady := fun id =>
  (Connection.steady_congr (conferencesOnly.essence id)).mpr (calm id)

theorem of_connections (connections : after.connections = before.connections)
    (listed : after.registry.connections = before.registry.connections)
    (journal : after.journal = before.journal) : before.ConferencesOnly after := by
  have same (id : ConnectionId) : after.connection id = before.connection id :=
    connection_congr connections id
  exact {
    count := congrArg List.length connections
    essence := fun id => by rw [same]
    near := fun id near => by rw [same]; exact near
    listed
    recounts := by simp only [System.recounts, journal, Nat.le_refl] }

theorem of_revised (system : System ε) (id : ConferenceId) (change : Conference → Conference)
    (desk : ConferenceSlots) :
    system.ConferencesOnly { system.reviseConference id change with desk } := by
  cases id <;> exact of_connections rfl rfl rfl

end ConferencesOnly

namespace MembershipsOnly

variable {before middle after : System ε}

theorem refl (system : System ε) : system.MembershipsOnly system where
  toConferencesOnly := .refl system
  desk := rfl
  tracked := rfl
  cores := rfl
  unheard := rfl

theorem trans (first : before.MembershipsOnly middle) (second : middle.MembershipsOnly after) :
    before.MembershipsOnly after where
  toConferencesOnly := first.toConferencesOnly.trans second.toConferencesOnly
  desk := second.desk.trans first.desk
  tracked := second.tracked.trans first.tracked
  cores := second.cores.trans first.cores
  unheard := second.unheard.trans first.unheard

theorem core (membershipsOnly : before.MembershipsOnly after) (id : ConferenceId) :
    (after.conference id).core = (before.conference id).core :=
  core_of_cores membershipsOnly.cores id

theorem members (membershipsOnly : before.MembershipsOnly after) (id : ConferenceId) :
    (after.conference id).members = (before.conference id).members := by
  have same := congrArg Conference.members (membershipsOnly.core id)
  exact same

theorem removed (membershipsOnly : before.MembershipsOnly after) (id : ConferenceId) :
    (after.conference id).removed = (before.conference id).removed := by
  have same := congrArg Conference.removed (membershipsOnly.core id)
  exact same

theorem of_noted (noted : before.Noted after) : before.MembershipsOnly after := by
  have same (id : ConnectionId) : after.connection id = before.connection id :=
    noted.connection id
  obtain ⟨news, plain, rfl⟩ := noted
  exact { refl before with
    essence := fun id => by rw [same]
    near := fun id near => by rw [same]; exact near
    recounts := by simp [System.recounts, plain]
    unheard := by simp [System.recounts, plain] }

theorem of_revise (system : System ε) (id : ConnectionId) {change : Connection → Connection}
    (kept : (change (system.connection id)).essence = (system.connection id).essence)
    (near : (system.connection id).Near → (change (system.connection id)).Near) :
    system.MembershipsOnly (system.reviseConnection id change) where
  count := system.reviseConnection_count id change
  essence := system.read_reviseConnection (·.essence) kept
  near := system.kept_revise id (motive := fun old new => old.Near → new.Near) near
    fun _ near => near
  listed := by rw [system.reviseConnection_registry]
  desk := by cases id <;> rfl
  tracked := by cases id <;> rfl
  cores := by cases id <;> rfl
  recounts := by simp [System.recounts]
  unheard := by simp [System.recounts]

end MembershipsOnly

namespace VerdictsOnly

variable {before middle after : System ε}

theorem refl (system : System ε) : system.VerdictsOnly system where
  toMembershipsOnly := .refl system
  renews _ current := current
  conference _ := rfl

theorem trans (first : before.VerdictsOnly middle) (second : middle.VerdictsOnly after) :
    before.VerdictsOnly after where
  toMembershipsOnly := first.toMembershipsOnly.trans second.toMembershipsOnly
  renews id current := second.renews id (first.renews id current)
  conference id := (second.conference id).trans (first.conference id)

theorem of_aside (connections : after.connections = before.connections)
    (listed : after.registry.connections = before.registry.connections)
    (journal : after.journal = before.journal) (desk : after.desk = before.desk)
    (tracked : after.tracked = before.tracked)
    (conferences : after.conferences = before.conferences) : before.VerdictsOnly after := by
  have same (id : ConnectionId) : after.connection id = before.connection id :=
    connection_congr connections id
  exact {
    ConferencesOnly.of_connections connections listed journal with
    desk, tracked
    cores := by rw [conferences]
    unheard := by simp only [System.recounts, journal]
    renews := fun id current => by rw [same]; exact current
    conference := fun id => by rw [same] }

theorem of_noted (noted : before.Noted after) : before.VerdictsOnly after where
  toMembershipsOnly := .of_noted noted
  renews id current := by rw [noted.connection]; exact current
  conference id := by rw [noted.connection]

theorem of_revise (system : System ε) (id : ConnectionId) {change : Connection → Connection}
    (kept : (change (system.connection id)).essence = (system.connection id).essence)
    (near : (system.connection id).Near → (change (system.connection id)).Near)
    (current : (system.connection id).Current → (change (system.connection id)).Current)
    (conference : (change (system.connection id)).conference =
      (system.connection id).conference) :
    system.VerdictsOnly (system.reviseConnection id change) where
  toMembershipsOnly := .of_revise system id kept near
  renews := system.kept_revise id (motive := fun old new => old.Current → new.Current) current
    fun _ current => current
  conference := system.read_reviseConnection (·.conference) conference

theorem of_conference (system : System ε) (id : ConferenceId) {change : Conference → Conference}
    (kept : ∀ conference, (change conference).core = conference.core) :
    system.VerdictsOnly (system.reviseConference id change) := by
  have same (other : ConnectionId) :=
    system.connection_reviseConference id change other
  cases id with
  | outsider value => exact refl system
  | formed serial =>
    exact {
      MembershipsOnly.refl system with
      essence := fun other => by rw [same]
      near := fun other near => by rw [same]; exact near
      cores := by
        simp only [reviseConference]
        refine List.ext_getElem? fun position => ?_
        simp only [List.getElem?_map, List.getElem?_modify]
        split <;> cases system.conferences[position]? <;> simp [kept]
      renews := fun other current => by rw [same]; exact current
      conference := fun other => by rw [same] }

theorem alike (verdictsOnly : before.VerdictsOnly after) : before.Alike after where
  shown := verdictsOnly.reads (·.published.state) fun _ => rfl
  several _ := verdictsOnly.reads (·.isMultiparty) (fun _ => rfl) _
  conference := verdictsOnly.conference
  desk := verdictsOnly.desk
  tracked := verdictsOnly.tracked
  cores := verdictsOnly.cores
  listed := verdictsOnly.listed

theorem mayHold (verdictsOnly : before.VerdictsOnly after) : after.mayHold = before.mayHold :=
  verdictsOnly.alike.mayHold

end VerdictsOnly

/-- What connections have published is right, except perhaps for capabilities. -/
structure Near (system : System ε) : Prop where
  steady : system.Steady
  near (id : ConnectionId) : (system.connection id).Near

theorem Near.of_connections {before after : System ε} (near : before.Near)
    (connections : after.connections = before.connections) : after.Near := by
  have same (id : ConnectionId) : after.connection id = before.connection id :=
    connection_congr connections id
  exact ⟨fun id => by rw [same]; exact near.steady id, fun id => by rw [same]; exact near.near id⟩

theorem ConferencesOnly.keeps {before after : System ε}
    (conferencesOnly : before.ConferencesOnly after)
    (near : before.Near) : after.Near where
  steady := conferencesOnly.steady near.steady
  near id := conferencesOnly.near id (near.near id)

end System

namespace Act

variable {ε : Type} {depth : Nat} {system : System ε}

theorem noted_tellOne (id : ConnectionId) {event : ConnectionEvent} (idle : event.isIdle = true)
    (listener : Listener) :
    (Bystanders.silent.tellOne id event listener).Ensures (.level .silent depth) system
      fun _ after => system.Noted after := by
  have written :
      system.Noted { system with journal := .heard listener id event :: system.journal } :=
    ⟨[.heard listener id event], by
      cases listener <;> simp [Entry.isRecount, ConnectionEvent.isRecount_of_isIdle idle], rfl⟩
  unfold Bystanders.tellOne
  rw [ensures_bind, ensures_write]
  cases listener with
  | exchange =>
    have nothing : (attend id event : Act ε Unit) = pure () := by
      cases event <;> first | rfl | cases idle
    simp only [nothing, ensures_pure]
    exact written
  | _ => exact (ensures_pure _ _).mpr written

theorem noted_notify (id : ConnectionId) {event : ConnectionEvent} (idle : event.isIdle = true) :
    (notify id event).Ensures (.level .silent depth) system fun _ after => system.Noted after := by
  rw [ensures_notify, ensures_tell]
  intro after run
  cases depth with
  | zero => cases run
  | succ depth =>
    have all : ((system.connection id).listeners.forM (Bystanders.silent.tellOne id event)).Ensures
        (.level .silent depth) system fun _ after => system.Noted after :=
      ensures_forM system.Noted _ (fun listener _ next sofar =>
        (noted_tellOne id idle listener).mono fun _ _ more => sofar.trans more) (.refl system)
    exact all ⟨⟩ after run

theorem noted_notifications (id : ConnectionId) {events : List ConnectionEvent}
    (idle : ∀ event ∈ events, event.isIdle = true) :
    (events.forM (notify id)).Ensures (.level .silent depth) system
      fun _ after => system.Noted after :=
  ensures_forM system.Noted events (fun event among _ sofar =>
    (noted_notify id (idle event among)).mono fun _ _ more => sofar.trans more) (.refl system)

theorem showState_of_watched {wiring : Wiring ε} {id : ConnectionId} {state : CallState}
    (watched : (system.connection id).watched = state) (goal : Unit → System ε → Prop) :
    (showState id state).Ensures wiring system goal ↔ goal () system := by
  simp only [showState, ensures_bind, ensures_look, watched, beq_self_eq_true, if_true,
    ensures_pure]

theorem noted_publish {id : ConnectionId} (rounds : Nat)
    (watched : (system.connection id).watched = (system.connection id).published.state)
    (silent : (system.connection id).Silent)
    (up : (system.connection id).destroyed = false →
      (system.connection id).visibleState ≠ .disconnected)
    (unstarted : (system.connection id).destroyed = false →
      (system.connection id).teardownStarted = false) :
    (publish id rounds).Ensures (.level .silent depth) system fun _ after =>
      (system.reviseConnection id Connection.refreshed).Noted after := by
  cases rounds with
  | zero => exact ensures_failure _
  | succ rounds =>
    rw [publish_succ, ensures_bind, ensures_commit]
    by_cases gone : (system.connection id).destroyed = true
    · rw [Connection.commit_of_destroyed gone]
      simp only [ensures_pure]
      exact .of_congr (by simp [Connection.refreshed, gone])
    have alive : (system.connection id).destroyed = false := by simpa using gone
    have known := system.known_of_alive alive
    have lasting : (system.connection id).isEnding = false := by
      simpa [Connection.isEnding, alive] using up alive
    rcases Connection.commit_of_alive alive (unstarted alive) with ⟨published, -, quiet⟩ | loud
    · rw [quiet]
      simp only [ensures_pure]
      exact .of_congr (by simp [Connection.refreshed, alive, ← published])
    · rw [loud]
      let told := system.reviseConnection id fun _ => (system.connection id).committed
      have here : told.connection id = (system.connection id).committed :=
        system.connection_reviseConnection_known known _
      have shown : (told.connection id).watched = (system.connection id).visibleState := by
        rw [here, ← Connection.derived_state]
        exact watched.trans (silent alive).1
      have rest : Ensures (do
          (system.connection id).news.events.forM (notify id)
          endRound id rounds) (.level .silent depth) told fun _ after =>
            (system.reviseConnection id Connection.refreshed).Noted after := by
        rw [ensures_bind]
        refine (noted_notifications id
          (Connection.isIdle_of_mem_changes (silent alive).1 (silent alive).2)).mono
            fun _ now noted => ?_
        have single : (now.connection id).republish = false := by
          rw [noted.connection, here]
          rfl
        simp only [endRound, ensures_bind, ensures_look, single, Bool.not_false, Bool.true_or,
          if_true, ensures_revise]
        have finished := noted.revise id Connection.rested
        rw [System.reviseConnection_reviseConnection] at finished
        refine .trans (.of_congr ?_) finished
        simp [Connection.refreshed, Connection.committed, Connection.rested, alive,
          unstarted alive, lasting]
      have ending : (system.connection id).news.ending = false := lasting
      simp only [tellCommit, ending, Bool.false_eq_true, if_false, ensures_bind]
      split
      · simpa only [ensures_bind, ensures_pure] using rest
      · rw [ensures_bind]
        refine (showState_of_watched shown _).mpr ?_
        simpa only [ensures_bind, ensures_pure] using rest

theorem noted_update {id : ConnectionId} (calm : (system.connection id).Steady)
    (silent : (system.connection id).Silent)
    (idle : (system.connection id).publishing = false) :
    (update id).Ensures (.level .silent depth) system fun _ after =>
      (system.reviseConnection id Connection.refreshed).Noted after := by
  simp only [update, ensures_bind, ensures_look, idle, Bool.false_eq_true, if_false,
    ensures_revise, ensures_rounds]
  have same : (system.reviseConnection id ({ · with publishing := true })).connection id =
      { system.connection id with
        publishing := decide (system.Known id) || (system.connection id).publishing } := by
    rw [System.connection_reviseConnection]
    by_cases known : system.Known id <;> simp [known]
  have final : (system.reviseConnection id ({ · with publishing := true })).reviseConnection id
      Connection.refreshed = system.reviseConnection id Connection.refreshed := by
    rw [System.reviseConnection_reviseConnection]
    rfl
  rw [← final]
  refine noted_publish _ ?_ ?_ ?_ ?_
  · rw [same]
    exact calm.watched
  · rw [same]
    exact silent
  · rw [same]
    exact fun alive => (calm.rested idle alive).2.1
  · rw [same]
    exact fun alive => (calm.rested idle alive).2.2

theorem verdictsOnly_update {id : ConnectionId} (calm : (system.connection id).Steady)
    (near : (system.connection id).Near) :
    (update id).Ensures (.level .silent depth) system fun _ after =>
      system.VerdictsOnly after ∧ (after.connection id).Current ∧
        ∀ entity, after.verdict entity = system.verdict entity := by
  by_cases busy : (system.connection id).publishing = true
  · simp only [update, ensures_bind, ensures_look, busy, if_true, ensures_revise]
    have waits : Connection.Current { system.connection id with republish := true } :=
      fun _ => .inr ⟨busy, rfl⟩
    refine ⟨.of_revise system id rfl (fun near => near) (fun _ => waits) rfl, ?_,
      system.verdict_reviseConnection rfl⟩
    rw [System.connection_reviseConnection]
    split
    · exact waits
    · rename_i strange
      rw [system.connection_of_not_known (by simpa using strange)]
      exact fun alive => by cases alive
  · have idle : (system.connection id).publishing = false := by simpa using busy
    have kept := Connection.refreshed_essence idle near
    have fresh := (system.connection id).refreshed_published
    have single : system.VerdictsOnly (system.reviseConnection id Connection.refreshed) :=
      .of_revise system id kept (fun _ alive => congrArg Published.bare (fresh alive))
        (fun _ alive => .inl (congrArg (·.caps) (fresh alive)))
        (by unfold Connection.refreshed; split <;> rfl)
    refine (noted_update calm near.silent idle).mono fun _ after noted => ?_
    refine ⟨single.trans (.of_noted noted), ?_, fun entity => ?_⟩
    · rw [noted.connection, System.connection_reviseConnection]
      split
      · exact fun alive => .inl (congrArg (·.caps) (fresh alive))
      · rename_i strange
        rw [system.connection_of_not_known (by simpa using strange)]
        exact fun alive => by cases alive
    · rw [noted.verdict, system.verdict_reviseConnection]
      unfold Connection.refreshed
      split <;> rfl

theorem verdictsOnly_setHoldAllowed (id : ConnectionId) (allowed : Bool) (near : system.Near) :
    (setHoldAllowed id allowed).Ensures (.level .silent depth) system fun _ after =>
      system.VerdictsOnly after ∧ ∀ entity, after.verdict entity =
        if entity = .connection id ∧ system.Known id then allowed else system.verdict entity := by
  simp only [setHoldAllowed, ensures_bind, ensures_look]
  split
  · rename_i same
    rw [ensures_pure]
    refine ⟨.refl system, fun entity => ?_⟩
    split
    · rename_i own
      rw [own.1]
      exact eq_of_beq same
    · rfl
  · have membershipsOnly :
        system.MembershipsOnly (system.reviseConnection id ({ · with holdAllowed := allowed })) :=
      .of_revise system id rfl fun near alive =>
        (near alive).trans ((system.connection id).derived_plain _ allowed).symm
    rw [ensures_bind, ensures_revise]
    refine (verdictsOnly_update ((membershipsOnly.keeps near).steady id)
      ((membershipsOnly.keeps near).near id)).mono
      fun _ after updated => ?_
    obtain ⟨verdictsOnly, current, same⟩ := updated
    refine ⟨{
      toMembershipsOnly := membershipsOnly.trans verdictsOnly.toMembershipsOnly
      renews := fun other published => ?_
      conference := fun other => ?_ }, fun entity => ?_⟩
    · by_cases own : other = id
      · exact own ▸ current
      · refine verdictsOnly.renews other ?_
        rwa [System.connection_reviseConnection_other _ own]
    · exact (verdictsOnly.conference other).trans
        (system.read_reviseConnection (·.conference) rfl other)
    · rw [same]
      cases entity with
      | connection other =>
        simp only [System.verdict, System.connection_reviseConnection, Holdable.connection.injEq]
        split <;> rfl
      | conference conference => cases id <;> rfl

theorem verdictsOnly_setVerdict (entity : Holdable) (allowed : Bool) (near : system.Near) :
    (setVerdict entity allowed).Ensures (.level .silent depth) system fun _ after =>
      system.VerdictsOnly after ∧ ∀ other, after.verdict other =
        if other = entity ∧ system.Present entity then allowed else system.verdict other := by
  cases entity with
  | connection id => exact verdictsOnly_setHoldAllowed id allowed near
  | conference id =>
    simp only [setVerdict, ensures_modify]
    refine ⟨.of_conference system id fun _ => rfl, fun other => ?_⟩
    cases other with
    | connection other => simp [System.verdict]
    | conference other =>
      simp only [System.verdict, System.conference_reviseConference, Holdable.conference.injEq]
      split <;> rfl

theorem verdictsOnly_passVerdicts (near : system.Near) :
    passVerdicts.Ensures (.level .silent depth) system fun _ after =>
      system.VerdictsOnly after ∧
        ∀ entity ∈ system.tracked, after.verdict entity = after.mayHold entity := by
  have each (items : List Holdable) : ∀ now : System ε, system.VerdictsOnly now →
      (items.forM fun entity => setVerdict entity (system.mayHold entity)).Ensures
        (.level .silent depth) now fun _ after => system.VerdictsOnly after ∧ ∀ entity,
          after.verdict entity = now.verdict entity ∧ entity ∉ items ∨
            after.verdict entity = system.mayHold entity := by
    induction items with
    | nil =>
      intro now verdictsOnly
      rw [List.forM, ensures_pure]
      exact ⟨verdictsOnly, fun entity => .inl ⟨rfl, List.not_mem_nil⟩⟩
    | cons first rest ih =>
      intro now verdictsOnly
      rw [List.forM, ensures_bind]
      refine (verdictsOnly_setVerdict first _ (verdictsOnly.keeps near)).mono
        fun _ next judged => ?_
      obtain ⟨more, passed⟩ := judged
      refine (ih next (verdictsOnly.trans more)).mono fun _ after others => ?_
      obtain ⟨sofar, last⟩ := others
      refine ⟨sofar, fun entity => ?_⟩
      rcases last entity with ⟨same, apart⟩ | right
      · by_cases own : entity = first
        · subst own
          refine .inr (same.trans ((passed entity).trans ?_))
          by_cases here : now.Present entity
          · exact if_pos ⟨rfl, here⟩
          · obtain ⟨lone, none⟩ := System.mayHold_of_not_present here
            rw [if_neg (fun own => here own.2), none, ← verdictsOnly.mayHold, lone]
        · refine .inl ⟨same.trans ((passed entity).trans (if_neg fun here => own here.1)), ?_⟩
          exact by simp [own, apart]
      · exact .inr right
  rw [passVerdicts, ensures_bind, ensures_get]
  refine (each system.tracked system (.refl system)).mono fun _ after judged => ?_
  obtain ⟨verdictsOnly, right⟩ := judged
  refine ⟨verdictsOnly, fun entity among => ?_⟩
  rw [verdictsOnly.mayHold]
  exact (right entity).resolve_left fun stays => stays.2 among

theorem verdictsOnly_tellOne (id : ConnectionId) (conference : Option ConferenceId)
    (listener : Listener)
    (near : system.Near) :
    (Bystanders.silent.tellOne id (.conferenceChanged conference) listener).Ensures
      (.level .silent depth) system fun _ after =>
        system.VerdictsOnly after ∧ (system.Judged → after.Judged) := by
  have written : system.Noted { system with
      journal := .heard listener id (.conferenceChanged conference) :: system.journal } :=
    ⟨[_], by cases listener <;> rfl, rfl⟩
  unfold Bystanders.tellOne
  rw [ensures_bind, ensures_write]
  cases listener with
  | exchange =>
    have membershipsOnly := System.MembershipsOnly.of_noted written
    refine (verdictsOnly_passVerdicts (membershipsOnly.keeps near)).mono
      fun _ after ⟨verdictsOnly, judged⟩ =>
      ⟨.trans (.of_noted written) verdictsOnly, fun _ => ?_⟩
    intro entity among
    exact judged entity (verdictsOnly.tracked ▸ among)
  | _ => exact (ensures_pure _ _).mpr ⟨.of_noted written, written.judged⟩

theorem verdictsOnly_notify (id : ConnectionId) (conference : Option ConferenceId)
    (near : system.Near) :
    (notify id (.conferenceChanged conference)).Ensures (.level .silent depth) system
      fun _ after => system.VerdictsOnly after ∧ (system.Judged → after.Judged) := by
  rw [ensures_notify, ensures_tell]
  intro after run
  cases depth with
  | zero => cases run
  | succ depth =>
    have all : ((system.connection id).listeners.forM
        (Bystanders.silent.tellOne id (.conferenceChanged conference))).Ensures
          (.level .silent depth) system
            fun _ after => system.VerdictsOnly after ∧ (system.Judged → after.Judged) :=
      ensures_forM (fun after => system.VerdictsOnly after ∧ (system.Judged → after.Judged)) _
        (fun listener _ next ⟨sofar, judged⟩ =>
          (verdictsOnly_tellOne id conference listener (sofar.keeps near)).mono
            fun _ _ more => ⟨sofar.trans more.1, fun before => more.2 (judged before)⟩)
        ⟨.refl system, fun judged => judged⟩
    exact all ⟨⟩ after run

theorem membershipsOnly_setConference (id : ConnectionId) (conference : Option ConferenceId)
    (near : system.Near) :
    (setConference id conference).Ensures (.level .silent depth) system fun _ after =>
      system.MembershipsOnly after ∧ system.Renews after ∧ ∀ other,
        (after.connection other).conference =
          if other = id ∧ system.Known id then conference
          else (system.connection other).conference := by
  simp only [setConference, ensures_bind, ensures_look]
  split
  · rename_i same
    rw [ensures_pure]
    refine ⟨.refl system, fun _ current => current, fun other => ?_⟩
    split
    · rename_i own
      rw [own.1]
      exact eq_of_beq same
    · rfl
  · have entered : system.MembershipsOnly (system.reviseConnection id ({ · with conference })) :=
      .of_revise system id rfl fun near alive =>
        (near alive).trans ((system.connection id).derived_plain conference _).symm
    rw [ensures_bind, ensures_revise, ensures_bind]
    refine (verdictsOnly_notify id conference (entered.keeps near)).mono fun _ next heard => ?_
    have told := heard.1
    have sofar := entered.trans told.toMembershipsOnly
    refine (verdictsOnly_update ((sofar.keeps near).steady id) ((sofar.keeps near).near id)).mono
      fun _ after updated => ?_
    obtain ⟨verdictsOnly, current, -⟩ := updated
    refine ⟨sofar.trans verdictsOnly.toMembershipsOnly, fun other published => ?_, fun other => ?_⟩
    · by_cases own : other = id
      · exact own ▸ current
      · refine verdictsOnly.renews other (told.renews other ?_)
        rwa [System.connection_reviseConnection_other _ own]
    · rw [verdictsOnly.conference, told.conference, System.connection_reviseConnection]
      split <;> rfl

end Act
end Switchboard
