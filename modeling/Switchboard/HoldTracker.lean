import Switchboard.Update

/-! Who may offer to hold. Connections and conferences that are live and stand on their own count
(a connection in a conference is represented by it), and they may be held while at least two of
them exist. -/

namespace Switchboard

namespace System

variable {ε : Type}

def conferenceIsLive (system : System ε) (id : ConferenceId) : Bool :=
  let conference := system.conference id
  !conference.removed &&
    conference.members.any fun member => (system.connection member).published.state.isLive

def standsAlone (system : System ε) : Holdable → Bool
  | .connection id =>
    (system.connection id).published.state.isLive && (system.connection id).conference.isNone
  | .conference id => system.conferenceIsLive id

def standing (system : System ε) : Nat :=
  (system.tracked.filter system.standsAlone).length

/-- The verdict on an entity: it stands alone, and is not the only one. -/
def mayHold (system : System ε) (entity : Holdable) : Bool :=
  system.standsAlone entity && 2 ≤ system.standing

end System

namespace Act

variable {ε : Type}

def setVerdict (entity : Holdable) (allowed : Bool) : Act ε Unit :=
  match entity with
  | .connection id => setHoldAllowed id allowed
  | .conference id =>
    modify (·.reviseConference id ({ · with holdAllowed := allowed }))

/-- The verdicts are taken on the situation at the start and passed on one by one. -/
def passVerdicts : Act ε Unit := do
  let system ← get
  system.tracked.forM fun entity => setVerdict entity (system.mayHold entity)

def track (entity : Holdable) : Act ε Unit := do
  unless (← get).tracked.contains entity do
    modify fun system => { system with tracked := system.tracked ++ [entity] }
    passVerdicts

def untrack (entity : Holdable) : Act ε Unit := do
  if (← get).tracked.contains entity then
    modify fun system => { system with tracked := system.tracked.filter (· != entity) }
    passVerdicts

end Act
end Switchboard
