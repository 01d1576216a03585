import Switchboard.Program

/-! The commands on a connection and on a conference, and the waits for them. A command that the
radio refuses does no harm to the call, except that a refused answer, reject or hangup ends it
with the radio's failure. -/

namespace Switchboard

/-- The world that calls are placed in, as far as it takes time. -/
structure Collaborators (ε : Type) : Type 1 where
  /-- Nothing when the request was consumed without a call. -/
  dial : Slot → ConnectionId → String → DialArgs → Program ε (Except RadioError (Option LegId))
  power : (slot : Slot) → (on emergency : Bool) → Program ε Unit
  airplaneOff : Program ε Unit
  leaveSatellite : Program ε Bool
  switchData : PhoneId → Program ε Bool
  select : ConnectionId → SelectionRequest → Program ε (Except SelectionError Domain)
  reselect : ConnectionId → SelectionRequest → Program ε (Except SelectionError Domain)
  command : LegId → RadioCommand → Program ε (Except RadioError Unit)

inductive WaitOutcome
  | reached
  | timedOut
  | cancelled
  deriving DecidableEq, Repr

instance : Named WaitOutcome where
  all := [.reached, .timedOut, .cancelled]
  name
    | .reached => "Reached"
    | .timedOut => "TimedOut"
    | .cancelled => "Cancelled"

namespace WaitOutcome

def isReached (outcome : WaitOutcome) : Bool :=
  outcome == .reached

def ofState? (wanted : CallState → Bool) (state : CallState) : Option WaitOutcome :=
  if wanted state then some .reached
  else if state == .disconnected then some .cancelled
  else none

end WaitOutcome

namespace Program

variable {ε : Type}

def waitForState (id : ConnectionId) (wanted : CallState → Bool) (limit : Nat) :
    Program ε WaitOutcome := do
  let outcome ← await
    (fun system => WaitOutcome.ofState? wanted (system.connection id).watched)
    [.stateOf id] limit
  return outcome.getD .timedOut

/-- Waits until the phone can place the call, or the call has ended. -/
def waitForService (slot : Slot) (id : ConnectionId) (emergency : Bool) (limit : Nat) :
    Program ε WaitOutcome := do
  let outcome ← await
    (fun system =>
      if (system.device.phone slot).service.canCall emergency then some WaitOutcome.reached
      else if (system.connection id).watched == .disconnected then some .cancelled
      else none)
    [.serviceOf slot, .stateOf id] limit
  return outcome.getD .timedOut

variable (world : Collaborators ε)

def requireLeg (id : ConnectionId) (operation : String) : Program ε (Except CallError LegId) := do
  let call ← call id
  match call.leg with
  | some leg => return .ok leg
  | none => return .error (.invalidState operation call.visibleState)

def answer (id : ConnectionId) (video : VideoState) : Program ε (Except CallError Unit) := do
  let state := (← call id).published.state
  if state != .ringing then return .error (.invalidState "answer" state)
  match ← requireLeg id "answer" with
  | .error error => return .error error
  | .ok leg =>
    match ← world.command leg (.answer video) with
    | .ok _ => pure ()
    | .error error => disconnect id error.disconnectInfo
    return .ok ()

def reject (id : ConnectionId) : Program ε (Except CallError Unit) := do
  match ← requireLeg id "reject" with
  | .error error => return .error error
  | .ok leg =>
    match ← world.command leg .reject with
    | .ok _ => disconnect id (.ofCause .incomingRejected)
    | .error error => disconnect id error.disconnectInfo
    return .ok ()

/-- Ends the call; without a leg there is nobody to tell. -/
def hangup (id : ConnectionId) (cause : DisconnectCause) : Program ε Unit := do
  let call ← call id
  if !call.published.state.isLive then return
  match call.leg with
  | none => disconnect id (.ofCause cause)
  | some leg =>
    match ← world.command leg .hangup with
    | .ok _ => disconnect id (.ofCause cause)
    | .error error => disconnect id error.disconnectInfo

def attempt (id : ConnectionId) (command : RadioCommand) : Program ε Unit := do
  if let some leg := (← call id).leg then
    let _ ← world.command leg command

def hold (id : ConnectionId) : Program ε Unit := attempt world id .hold

def unhold (id : ConnectionId) : Program ε Unit := attempt world id .unhold

def forEach {κ : Type} (work : κ → Program ε Unit) : List κ → Program ε Unit
  | [] => pure ()
  | item :: rest => do
    work item
    forEach work rest

def membersOf (conference : ConferenceId) : Program ε (List ConnectionId) := do
  return ((← system).conference conference).members

def holdConference (conference : ConferenceId) : Program ε Unit := do
  forEach (hold world) (← membersOf conference)

def unholdConference (conference : ConferenceId) : Program ε Unit := do
  forEach (unhold world) (← membersOf conference)

def disconnectConference (conference : ConferenceId) : Program ε Unit := do
  forEach (hangup world · .byRequest) (← membersOf conference)

end Program
end Switchboard
