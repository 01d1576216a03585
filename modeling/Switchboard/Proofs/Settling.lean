import Switchboard.Proofs.Ripple

/-! An update, seen as a whole. However many rounds of publishing it takes, what is left is the
connection settled: it has published what it shows, or, when it shows that it is disconnected, it
has dropped its leg and is destroyed. `System.settle` is that outcome without the rounds, and an
update leads to a ripple of it. -/

namespace Switchboard

namespace Connection

def isEnding (call : Connection) : Bool :=
  !call.destroyed && call.visibleState == .disconnected

def tornDown (call : Connection) : Connection :=
  { call with
    generation := call.generation + 1
    leg := none
    destroyed := true
    listeners := [] }

def settled (call : Connection) : Connection :=
  if call.destroyed then { call with publishing := false }
  else
    let told := { call with
      published := { call.published with state := call.visibleState }
      watched := call.visibleState
      publishing := false }
    if call.isEnding then { told.tornDown with teardownStarted := true } else told

theorem settled_of_destroyed {call : Connection} (gone : call.destroyed = true) :
    call.settled = { call with publishing := false } := by
  simp [settled, gone]

theorem settled_of_lasting {call : Connection} (alive : call.destroyed = false)
    (lasting : call.isEnding = false) :
    call.settled = { call with
      published := { call.published with state := call.visibleState }
      watched := call.visibleState
      publishing := false } := by
  simp [settled, alive, lasting]

theorem settled_of_shown {call : Connection} (alive : call.destroyed = false)
    (lasting : call.isEnding = false) (watched : call.watched = call.visibleState)
    (shown : call.published.state = call.visibleState) :
    call.settled = { call with publishing := false } := by
  have same : { call.published with state := call.visibleState } = call.published := by
    rw [← shown]
  rw [settled_of_lasting alive lasting, same, ← watched]

theorem isEnding_of_destroyed {call : Connection} (gone : call.destroyed = true) :
    call.isEnding = false := by
  simp [isEnding, gone]

theorem settled_of_ending {call : Connection} (ending : call.isEnding = true) :
    call.settled = { call.tornDown with
      published := { call.published with state := .disconnected }
      watched := .disconnected
      publishing := false
      teardownStarted := true } := by
  have alive : call.destroyed = false := by
    simp_all [isEnding]
  have shown : call.visibleState = .disconnected := by
    simp_all [isEnding]
  simp [settled, alive, ending, shown, tornDown]

theorem settled_publishing (call : Connection) (busy : Bool) :
    settled { call with publishing := busy } = call.settled := rfl

theorem settled_quiet (call : Connection) : call.settled.publishing = false := by
  unfold settled
  split
  · rfl
  · split <;> rfl

theorem settled_essence (call : Connection) :
    call.essence.settled.essence = call.settled.essence := by
  have same : call.essence.isEnding = call.isEnding := rfl
  have gone : call.essence.destroyed = call.destroyed := rfl
  simp only [settled, same, gone]
  split
  · rfl
  · split <;> rfl

theorem settled_congr {call other : Connection} (same : call.essence = other.essence) :
    call.settled.essence = other.settled.essence := by
  rw [← settled_essence, same, settled_essence]

theorem settled_destroyed (call : Connection) :
    call.settled.destroyed = (call.destroyed || call.isEnding) := by
  unfold settled
  split
  · simp [*]
  · split <;> simp_all [tornDown]

theorem settled_steady {call : Connection}
    (watched : call.watched = call.published.state)
    (started : call.destroyed = false → call.teardownStarted = false) :
    call.settled.Steady := by
  unfold settled
  split
  · exact ⟨watched, fun _ alive => by simp_all⟩
  · rename_i alive
    split
    · exact ⟨rfl, fun _ alive => by cases alive⟩
    · rename_i lasting
      have up : call.visibleState ≠ .disconnected := by
        simpa [isEnding, alive] using lasting
      exact ⟨rfl, fun _ _ => ⟨rfl, up, started (by simpa using alive)⟩⟩

end Connection

def Leg.detached (leg : Leg) : Leg :=
  { leg with attached := none }

namespace System

variable {ε : Type} (system : System ε)

def release : Option LegId → System ε
  | none => system
  | some leg => system.reviseLeg leg Leg.detached

@[simp] theorem connection_release (leg : Option LegId) (id : ConnectionId) :
    (system.release leg).connection id = system.connection id := by
  cases leg
  · rfl
  · exact connection_reviseLeg ..

@[simp] theorem known_release (leg : Option LegId) (id : ConnectionId) :
    (system.release leg).Known id ↔ system.Known id := by
  cases leg
  · rfl
  · exact known_reviseLeg ..

theorem release_reviseConnection (leg : Option LegId) (id : ConnectionId)
    (change : Connection → Connection) :
    (system.release leg).reviseConnection id change =
      (system.reviseConnection id change).release leg := by
  cases leg <;> cases id <;> rfl

def settle (id : ConnectionId) : System ε :=
  (system.reviseConnection id Connection.settled).release
    (if (system.connection id).isEnding then (system.connection id).leg else none)

theorem connection_settle (id other : ConnectionId) :
    (system.settle id).connection other =
      if other = id ∧ system.Known id then (system.connection id).settled
      else system.connection other := by
  rw [settle, connection_release, connection_reviseConnection]

theorem settle_lasting {id : ConnectionId} (lasting : (system.connection id).isEnding = false) :
    system.settle id = system.reviseConnection id Connection.settled := by
  simp [settle, lasting, release]

def tearDown (id : ConnectionId) : System ε :=
  (system.reviseConnection id Connection.tornDown).release (system.connection id).leg

theorem connection_tearDown {id : ConnectionId} (known : system.Known id) :
    (system.tearDown id).connection id = (system.connection id).tornDown := by
  rw [tearDown, connection_release, connection_reviseConnection_known _ known]

/-- An update of the connection can settle it; everything else is steady. -/
structure Ready (id : ConnectionId) : Prop where
  others (other : ConnectionId) : other ≠ id → (system.connection other).Steady
  watched : (system.connection id).watched = (system.connection id).published.state
  unstarted : (system.connection id).destroyed = false →
    (system.connection id).teardownStarted = false

theorem Ready.of_steady {system : System ε} (calm : system.Steady) {id : ConnectionId}
    (quiet : (system.connection id).publishing = false) : system.Ready id where
  others other _ := calm other
  watched := (calm id).watched
  unstarted alive := ((calm id).rested quiet alive).2.2

theorem Ready.steady_of_elsewhere {system : System ε} {id other : ConnectionId}
    (ready : system.Ready id) (elsewhere : ¬ (other = id ∧ system.Known id)) :
    (system.connection other).Steady := by
  by_cases same : other = id
  · subst same
    rw [system.connection_of_not_known fun known => elsewhere ⟨rfl, known⟩]
    exact Connection.steady_absent
  · exact ready.others other same

theorem Ready.settle_steady {system : System ε} {id : ConnectionId} (ready : system.Ready id) :
    (system.settle id).Steady := by
  intro other
  rw [connection_settle]
  split
  · exact Connection.settled_steady ready.watched ready.unstarted
  · rename_i elsewhere
    exact ready.steady_of_elsewhere elsewhere

end System

namespace Ripple

variable {ε κ : Type} {keep : ε → κ} {before after : System ε}

theorem release (ripple : Ripple keep before after) (leg : Option LegId) :
    Ripple keep (before.release leg) (after.release leg) := by
  cases leg with
  | none => exact ripple
  | some leg =>
    exact { ripple with
      legs := congrArg (List.modify · leg.serial Leg.detached) ripple.legs }

theorem leg (ripple : Ripple keep before after) (id : ConnectionId) :
    (after.connection id).leg = (before.connection id).leg :=
  ripple.reads (·.leg) (fun _ => rfl) id

theorem tearDown (ripple : Ripple keep before after) (id : ConnectionId) :
    Ripple keep (before.tearDown id) (after.tearDown id) := by
  have essence := congrArg (fun call => call.tornDown.essence) (ripple.essence id)
  rw [System.tearDown, System.tearDown, ripple.leg]
  exact (ripple.revise id _ _ essence fun _ => rfl).release _

theorem settle (ripple : Ripple keep before after) (id : ConnectionId) :
    Ripple keep (before.settle id) (after.settle id) := by
  have essence := ripple.essence id
  have ending : (after.connection id).isEnding = (before.connection id).isEnding := by
    have same := congrArg Connection.isEnding essence
    exact same
  rw [System.settle, System.settle, ending, ripple.leg]
  refine (ripple.revise id _ _ (Connection.settled_congr essence) fun gone => ?_).release _
  rw [Connection.settled_destroyed, gone, Bool.true_or]

end Ripple
end Switchboard
