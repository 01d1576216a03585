import Switchboard.CallControl

/-! Calls on several subscriptions. A device that carries one subscription at a time hangs up the
calls on the others before a new one; a device that carries more holds the active ones, and hangs
up those that do not come to be held in time. -/

namespace Switchboard.Program

variable {ε : Type} (world : Collaborators ε)

def hangupAll (others : List ConnectionId) : Program ε Unit :=
  forEach (hangup world · .byRequest) others

/-- A conference is held as a whole, once. -/
def holdEach : (held : List ConnectionId) → List ConnectionId → Program ε Unit
  | _, [] => pure ()
  | held, id :: rest => do
    if held.contains id then holdEach held rest
    else
      match (← system).conferenceOf? id with
      | some conference =>
        let members ← membersOf conference
        holdConference world conference
        holdEach (held ++ members) rest
      | none =>
        hold world id
        holdEach held rest

def confirmHold (id : ConnectionId) : Program ε Unit := do
  let limit := (← system).settings.holdConfirmationTimeout
  match ← waitForState id (· == .holding) limit with
  | .timedOut => hangup world id .byRequest
  | _ => pure ()

def holdOrHangup (others : List ConnectionId) : Program ε Unit := do
  let system ← system
  let active := others.filter fun id => (system.connection id).published.state == .active
  holdEach world [] active
  forEach (confirmHold world) active

/-- Makes room for an outgoing call. -/
def prepareToDial (id : ConnectionId) (phone : PhoneId) (emergency : Bool)
    (carrier : CarrierConfig) : Program ε Unit := do
  let system ← system
  let others := system.liveElsewhere phone id
  if others.isEmpty then return
  if !system.device.isConcurrent then hangupAll world others
  else if emergency && !carrier.allowHoldDuringEmergency then holdOrHangup world others

/-- Makes room for the answer to an incoming call. -/
def prepareToAnswer (id : ConnectionId) : Program ε Unit := do
  let system ← system
  let others := system.liveElsewhere (system.connection id).phone id
  if others.isEmpty then return
  if system.device.isConcurrent then holdOrHangup world others
  else hangupAll world others

end Switchboard.Program
