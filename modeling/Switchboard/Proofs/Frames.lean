import Switchboard.Exchange

/-! What the elementary changes of a system leave alone: a change of one connection or one leg is
seen in that connection or leg and nowhere else. -/

namespace Switchboard.System

variable {ε : Type} (system : System ε)

/-- The connection came into being here. -/
def Known : ConnectionId → Prop
  | .issued serial => serial < system.connections.length
  | .outsider _ => False

instance (id : ConnectionId) : Decidable (system.Known id) := by
  cases id
  · exact inferInstanceAs (Decidable (_ < _))
  · exact inferInstanceAs (Decidable False)

theorem connection_of_not_known {id : ConnectionId} (strange : ¬ system.Known id) :
    system.connection id = .absent := by
  cases id with
  | issued serial =>
    simp only [Known, Nat.not_lt] at strange
    simp [connection, List.getD_eq_getElem?_getD, strange]
  | outsider value => rfl

theorem connection_congr {before after : System ε}
    (connections : after.connections = before.connections) (id : ConnectionId) :
    after.connection id = before.connection id := by
  cases id <;> simp only [connection, connections]

theorem known_of_alive {id : ConnectionId}
    (alive : (system.connection id).destroyed = false) : system.Known id := by
  refine Decidable.byContradiction fun strange => ?_
  rw [system.connection_of_not_known strange] at alive
  cases alive

theorem known_of_leg {id : ConnectionId} {leg : LegId}
    (held : (system.connection id).leg = some leg) : system.Known id := by
  refine Decidable.byContradiction fun strange => ?_
  rw [system.connection_of_not_known strange] at held
  cases held

theorem known_congr {before after : System ε}
    (count : after.connections.length = before.connections.length) (id : ConnectionId) :
    after.Known id ↔ before.Known id := by
  cases id <;> simp [Known, count]

theorem connection_reviseConnection (id other : ConnectionId)
    (change : Connection → Connection) :
    (system.reviseConnection id change).connection other =
      if other = id ∧ system.Known id then change (system.connection id)
      else system.connection other := by
  by_cases same : other = id
  · subst same
    cases other with
    | issued serial =>
      by_cases known : serial < system.connections.length
      · rw [system.connection_reviseConnection_self known]
        simp [Known, known]
      · simp [Known, known, reviseConnection, connection, List.getD_eq_getElem?_getD]
    | outsider value => simp [Known, reviseConnection]
  · rw [system.connection_reviseConnection_ne (Ne.symm same)]
    simp [same]

theorem connection_reviseConnection_known {id : ConnectionId} (known : system.Known id)
    (change : Connection → Connection) :
    (system.reviseConnection id change).connection id = change (system.connection id) := by
  simp [connection_reviseConnection, known]

theorem connection_reviseConnection_other {id other : ConnectionId} (differ : other ≠ id)
    (change : Connection → Connection) :
    (system.reviseConnection id change).connection other = system.connection other := by
  simp [connection_reviseConnection, differ]

theorem read_reviseConnection {α : Type} (read : Connection → α) {id : ConnectionId}
    {change : Connection → Connection}
    (same : read (change (system.connection id)) = read (system.connection id))
    (other : ConnectionId) :
    read ((system.reviseConnection id change).connection other) =
      read (system.connection other) := by
  rw [connection_reviseConnection]
  split
  · rename_i here
    rw [same, here.1]
  · rfl

theorem each_revise (id : ConnectionId) {change : Connection → Connection}
    (goal : ConnectionId → Connection → Prop) (own : goal id (change (system.connection id)))
    (same : ∀ id, goal id (system.connection id)) (other : ConnectionId) :
    goal other ((system.reviseConnection id change).connection other) := by
  rw [connection_reviseConnection]
  split
  · rename_i here
    exact here.1 ▸ own
  · exact same other

theorem each_revise_known {id : ConnectionId} (known : system.Known id)
    {change : Connection → Connection} {motive : ConnectionId → Connection → Prop}
    (own : motive id (change (system.connection id)))
    (others : ∀ other, other ≠ id → motive other (system.connection other)) (other : ConnectionId) :
    motive other ((system.reviseConnection id change).connection other) := by
  by_cases same : other = id
  · rw [same, system.connection_reviseConnection_known known]
    exact own
  · rw [system.connection_reviseConnection_other same]
    exact others other same

theorem kept_revise (id : ConnectionId) {change : Connection → Connection}
    {motive : Connection → Connection → Prop}
    (own : motive (system.connection id) (change (system.connection id)))
    (same : ∀ call, motive call call) (other : ConnectionId) :
    motive (system.connection other) ((system.reviseConnection id change).connection other) :=
  system.each_revise id (fun other call => motive (system.connection other) call) own
    (fun _ => same _) other

theorem reviseConnection_self (id : ConnectionId) :
    system.reviseConnection id (fun call => call) = system := by
  cases id with
  | issued serial =>
    have whole := List.modify_id serial system.connections
    exact congrArg (fun connections => { system with connections }) whole
  | outsider value => rfl

theorem reviseConnection_of_not_known {id : ConnectionId} (strange : ¬ system.Known id)
    (change : Connection → Connection) : system.reviseConnection id change = system := by
  cases id with
  | outsider value => rfl
  | issued serial =>
    have same : system.connections.modify serial change = system.connections :=
      List.modify_eq_self (Nat.not_lt.mp strange)
    exact congrArg (fun connections => { system with connections }) same

theorem reviseConnection_reviseConnection (id : ConnectionId)
    (first second : Connection → Connection) :
    (system.reviseConnection id first).reviseConnection id second =
      system.reviseConnection id fun call => second (first call) := by
  cases id with
  | issued serial => simp [reviseConnection, List.modify_modify_eq, Function.comp_def]
  | outsider value => rfl

theorem reviseConnection_congr {id : ConnectionId} {first second : Connection → Connection}
    (same : first (system.connection id) = second (system.connection id)) :
    system.reviseConnection id first = system.reviseConnection id second := by
  cases id with
  | outsider value => rfl
  | issued serial =>
    have whole : system.connections.modify serial first =
        system.connections.modify serial second := by
      refine List.ext_getElem (by simp) fun position inside _ => ?_
      rw [List.getElem_modify, List.getElem_modify]
      split
      · rename_i here
        subst here
        have bound : serial < system.connections.length := by simpa using inside
        have value : system.connection (.issued serial) = system.connections[serial] := by
          simp_all [connection, List.getD_eq_getElem?_getD]
        rw [← value, same]
      · rfl
    exact congrArg (fun connections => { system with connections }) whole

@[simp] theorem reviseConnection_count (id : ConnectionId) (change : Connection → Connection) :
    (system.reviseConnection id change).connections.length = system.connections.length := by
  cases id <;> simp [reviseConnection]

@[simp] theorem known_reviseConnection (id other : ConnectionId)
    (change : Connection → Connection) :
    (system.reviseConnection id change).Known other ↔ system.Known other := by
  cases other <;> simp [Known]

@[simp] theorem reviseConnection_clock (id : ConnectionId) (change : Connection → Connection) :
    (system.reviseConnection id change).clock = system.clock := by
  cases id <;> rfl

@[simp] theorem reviseConnection_legs (id : ConnectionId) (change : Connection → Connection) :
    (system.reviseConnection id change).legs = system.legs := by
  cases id <;> rfl

@[simp] theorem reviseConnection_registry (id : ConnectionId)
    (change : Connection → Connection) :
    (system.reviseConnection id change).registry = system.registry := by
  cases id <;> rfl

@[simp] theorem reviseConnection_settings (id : ConnectionId)
    (change : Connection → Connection) :
    (system.reviseConnection id change).settings = system.settings := by
  cases id <;> rfl

@[simp] theorem reviseConnection_device (id : ConnectionId) (change : Connection → Connection) :
    (system.reviseConnection id change).device = system.device := by
  cases id <;> rfl

@[simp] theorem reviseConnection_attended (id : ConnectionId)
    (change : Connection → Connection) :
    (system.reviseConnection id change).attended = system.attended := by
  cases id <;> rfl

@[simp] theorem reviseConnection_journal (id : ConnectionId) (change : Connection → Connection) :
    (system.reviseConnection id change).journal = system.journal := by
  cases id <;> rfl

@[simp] theorem reviseConnection_signals (id : ConnectionId) (change : Connection → Connection) :
    (system.reviseConnection id change).signals = system.signals := by
  cases id <;> rfl

@[simp] theorem reviseConnection_outside (id : ConnectionId) (change : Connection → Connection) :
    (system.reviseConnection id change).outside = system.outside := by
  cases id <;> rfl

@[simp] theorem isRegistered_reviseConnection (id other : ConnectionId)
    (change : Connection → Connection) :
    (system.reviseConnection id change).isRegistered other = system.isRegistered other := by
  simp [isRegistered]

@[simp] theorem planOf?_reviseConnection (id other : ConnectionId)
    (change : Connection → Connection) :
    (system.reviseConnection id change).planOf? other = system.planOf? other := by
  simp [planOf?]

@[simp] theorem connection_reviseLeg (leg : LegId) (change : Leg → Leg) (id : ConnectionId) :
    (system.reviseLeg leg change).connection id = system.connection id := by
  cases id <;> rfl

@[simp] theorem known_reviseLeg (leg : LegId) (change : Leg → Leg) (id : ConnectionId) :
    (system.reviseLeg leg change).Known id ↔ system.Known id := by
  cases id <;> rfl

@[simp] theorem connection_reviseConference (conference : ConferenceId)
    (change : Conference → Conference) (id : ConnectionId) :
    (system.reviseConference conference change).connection id = system.connection id := by
  cases conference <;> cases id <;> rfl

end Switchboard.System
