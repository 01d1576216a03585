import Switchboard.Answering

/-! Dialing for a connection, and dialing again: an emergency call that failed is tried on other
phones, and a call that the network wants in another domain is tried there. The connection stays
the same all the while. -/

namespace Switchboard

/-- Reselections that one sequence accepts. -/
def maxReselections : Nat := 3

inductive DialOutcome
  | bound
  /-- The request was consumed without a call. -/
  | noCall
  | cancelled
  | failed (error : RadioError)
  deriving DecidableEq, Repr

def DialPlan.args (plan : DialPlan) (call : Connection) (domain : Option Domain) : DialArgs where
  video := plan.video
  rtt := call.rttStream
  extras := call.published.extras
  emergency := plan.emergency
  testEmergency := plan.testEmergency
  routing := plan.routing
  domain
  participants := plan.participants

def System.selectionRequest {ε : Type} (system : System ε) (id : ConnectionId) (slot : Slot) :
    SelectionRequest :=
  let call := system.connection id
  let phone := system.device.phone slot
  { phone := phone.id
    subscription := phone.subscription
    address := ((system.planOf? id).map (·.dial)).getD call.dialed.dialString
    emergency := call.isEmergency
    video := call.published.video.isVideo }

/-- Records the failure of a phone and picks the next; a sequence of another connection gives way
to a new one. -/
def Registry.nextPhone (registry : Registry) (id : ConnectionId) (phones : List PhoneId)
    (rounds : Nat) (failed : PhoneId) (permanent : Bool) : Option PhoneId × Registry :=
  let sequence := match registry.retry.filter (·.isFor true id) with
    | some retry => retry
    | none => .start id phones failed rounds
  let (next, sequence) := (sequence.recordFailure failed permanent).next
  (next, { registry with retry := if next.isSome then some sequence else none })

namespace Act

variable {ε : Type}

def nextPhone (id : ConnectionId) (failed : PhoneId) (permanent : Bool) :
    Act ε (Option PhoneId) := do
  let system ← get
  let phones := system.device.slots.map fun slot => (system.device.phone slot).id
  let (next, registry) :=
    system.registry.nextPhone id phones system.settings.emergencyRetryRounds failed permanent
  set { system with registry }
  return next

end Act

namespace Program

variable {ε : Type} (world : Collaborators ε)

/-- One attempt on a phone. A leg that comes too late is hung up. -/
def dialAndBind (id : ConnectionId) (slot : Slot) (domain : Option Domain) :
    Program ε DialOutcome := do
  let system ← system
  let some plan := system.planOf? id | return .cancelled
  match ← world.dial slot id plan.dial (plan.args (system.connection id) domain) with
  | .ok (some leg) =>
    if ← isLive id then
      atOnce (Act.bind id leg)
      return .bound
    else
      let _ ← world.command leg .hangup
      return .cancelled
  | .ok none => return .noCall
  | .error error => return .failed error

/-- Tries phone after phone until a dial succeeds, fails in a way that no phone can mend, or every
phone is used up. -/
def redialFrom (id : ConnectionId) : (patience : Nat) → (failed : PhoneId) → (permanent : Bool) →
    Program ε Unit
  | 0, _, _ => atOnce failure
  | patience + 1, failed, permanent => do
    if !(← isLive id) then return
    match ← atOnce (Act.nextPhone id failed permanent) with
    | none =>
      disconnect id
        ((DisconnectInfo.ofCause .unspecified).withReason "emergency call failed on every phone")
    | some next =>
      let device := (← system).device
      match device.slotOf? next with
      | none => redialFrom id patience next true
      | some slot =>
        let phone := device.phone slot
        atOnce (Act.reassign id next phone.subscription phone.technology
          (device.carrierOf phone.subscription))
        match ← dialAndBind world id slot none with
        | .bound | .cancelled => return
        | .noCall => disconnect id (.ofCause .dialedServiceCode)
        | .failed error =>
          if error.failure.retryClass == .none then
            disconnect id error.disconnectInfo
          else
            redialFrom id patience next (error.failure.retryClass == .permanent)

def redial (id : ConnectionId) (failed : PhoneId) (permanent : Bool) : Program ε Unit := do
  redialFrom world id (← atOnce Act.rounds) failed permanent

def reselectFrom (id : ConnectionId) : (left : Nat) → DisconnectCause → (code : Int) →
    Program ε Unit
  | 0, cause, code => disconnect id ((DisconnectInfo.ofCause cause).withCode code)
  | left + 1, cause, code => do
    if !(← isLive id) then return
    let system ← system
    if !system.device.hasSelector then
      disconnect id ((DisconnectInfo.ofCause cause).withCode code)
      return
    let some slot := system.device.slotOf? (system.connection id).phone
      | disconnect id (.ofCause .outOfService)
    let request := { system.selectionRequest id slot with failure := some (cause, code) }
    let answer ← world.reselect id request
    if let .error (.terminal final) := answer then
      disconnect id ((DisconnectInfo.ofCause final).withCode code)
      return
    if !(← isLive id) then return
    let domain := match answer with
      | .ok domain => domain
      | .error _ => Domain.circuit
    match ← dialAndBind world id slot (some domain) with
    | .bound | .cancelled => return
    | .noCall => disconnect id (.ofCause .dialedServiceCode)
    | .failed error =>
      if error.failure.wantsOtherDomain then
        reselectFrom id left error.failure.cause error.code
      else
        disconnect id error.disconnectInfo

/-- Asks for another domain and dials into it. -/
def reselect (id : ConnectionId) (cause : DisconnectCause) (code : Int) : Program ε Unit :=
  reselectFrom world id maxReselections cause code

end Program
end Switchboard
