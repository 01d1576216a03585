import Switchboard.Subscriptions

/-! The operations of the exchange on calls that exist, and incoming calls. -/

namespace Switchboard

namespace Act

variable {ε : Type}

def incoming (phone : PhoneId) (leg : LegId) : Act ε (Except CallError ConnectionId) := do
  let system ← get
  match system.device.slotOf? phone with
  | none => return .error (.phoneNotFound phone)
  | some slot =>
    let phone := system.device.phone slot
    let view := (system.leg leg).view
    let id ← create {
      direction := .incoming
      phone := phone.id
      subscription := phone.subscription
      technology := view.technology
      video := view.video
      carrier := system.device.carrierOf phone.subscription }
    register id
    bind id leg
    return .ok id

end Act

namespace Program

variable {ε : Type} (world : Collaborators ε)

def requireConnection (id : ConnectionId) : Program ε (Except CallError Unit) := do
  if (← system).isRegistered id then return .ok ()
  else return .error (.connectionNotFound id)

def requireConference (id : ConferenceId) : Program ε (Except CallError Unit) := do
  if ((← system).currentConference? id).isSome then return .ok ()
  else return .error (.conferenceNotFound id)

/-- The call is answered if it is still ringing once there is room for it. -/
def acceptCall (id : ConnectionId) (video : VideoState) : Program ε (Except CallError Unit) := do
  if let .error error ← requireConnection id then return .error error
  let state := (← call id).published.state
  if state != .ringing then return .error (.invalidState "accept_incoming_call" state)
  prepareToAnswer world id
  let state := (← call id).published.state
  if state != .ringing then return .error (.invalidState "accept_incoming_call" state)
  answer world id video

def rejectCall (id : ConnectionId) : Program ε (Except CallError Unit) := do
  if let .error error ← requireConnection id then return .error error
  let state := (← call id).published.state
  if state != .ringing then return .error (.invalidState "reject_incoming_call" state)
  reject world id

/-- An operation on a call is one on its whole conference, if it is in one. -/
def onCall (onConference : ConferenceId → Program ε Unit)
    (onConnection : ConnectionId → Program ε Unit)
    (id : ConnectionId) : Program ε (Except CallError Unit) := do
  if let .error error ← requireConnection id then return .error error
  match (← system).conferenceOf? id with
  | some conference => onConference conference
  | none => onConnection id
  return .ok ()

def hangupCall : ConnectionId → Program ε (Except CallError Unit) :=
  onCall (disconnectConference world) (hangup world · .byRequest)

def holdCall : ConnectionId → Program ε (Except CallError Unit) :=
  onCall (holdConference world) (hold world)

def unholdCall : ConnectionId → Program ε (Except CallError Unit) :=
  onCall (unholdConference world) (unhold world)

def onConference (work : ConferenceId → Program ε Unit) (id : ConferenceId) :
    Program ε (Except CallError Unit) := do
  if let .error error ← requireConference id then return .error error
  work id
  return .ok ()

end Program
end Switchboard
