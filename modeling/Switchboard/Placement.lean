import Switchboard.Redial
import Switchboard.Selection

/-! Placing a call. What can be refused at once is decided on the device as it is (`prepare?`);
then there is a connection, and the rest takes time: radio power, room for an emergency, the
network domain, other subscriptions, the dial. After every wait the connection is looked at
again. -/

namespace Switchboard

structure CallRequest where
  address : String
  phone : Option PhoneId := none
  subscription : Option SubscriptionId := none
  video : VideoState := .audioOnly
  rtt : Bool := false
  participants : List String := []
  extras : Extras := {}
  deriving DecidableEq, Repr

/-- An address with what its dial string says. -/
structure DialedNumber where
  address : Address
  dial : String
  emergency : Bool
  test : Bool
  deriving DecidableEq, Repr

/-- A request that nothing forbids. -/
structure Placement where
  number : DialedNumber
  slot : Slot
  /-- The phone as it was when the request was checked. -/
  phone : Phone
  carrier : CarrierConfig
  routing : Option EmergencyRouting
  deriving Repr

namespace Device

def resolve (device : Device) (request : CallRequest) : Except DisconnectCause Address :=
  let address := Address.parse request.address
  if address.isVoicemail then
    match Selection.forNormalCall device request.phone request.subscription with
    | none => .error .outOfService
    | some slot =>
      match (device.phone slot).voicemail.filter (!·.isEmpty) with
      | none => .error .voicemailNumberMissing
      | some number => .ok (.tel number)
  else .ok address

def classify (device : Device) (request : CallRequest) : Except DisconnectCause DialedNumber :=
  match device.resolve request with
  | .error cause => .error cause
  | .ok address =>
    let dial := address.dialString
    let test := device.emergencyNumbers.isTest dial
    if dial.isEmpty then .error .invalidNumber
    else .ok { address, dial, emergency := device.emergencyNumbers.isEmergency dial || test, test }

/-- The phone of an emergency call: one in callback mode, one in service that dials the number
like any call, or the best by rank. -/
def emergencySlot (device : Device) (dial : String) : Option Slot :=
  let status (slot : Slot) := SlotStatus.ofPhone (device.phone slot) dial
  let plain (slot : Slot) :=
    let phone := device.phone slot
    phone.service.isInService && device.emergencyNumbers.routingFor dial phone.id == .normal
  device.slots.find? (fun slot => (device.phone slot).callbackMode)
    <|> device.slots.find? plain
    <|> device.slotOf?
      (Selection.forEmergency (device.slots.map status) (Selection.Defaults.ofDevice device))

def selectSlot (device : Device) (request : CallRequest) (number : DialedNumber) : Option Slot :=
  if number.emergency then device.emergencySlot number.dial
  else Selection.forNormalCall device request.phone request.subscription

end Device

namespace System

variable {ε : Type}

def anyLive (system : System ε) (kind : Connection → Bool) : Bool :=
  system.registry.connections.any fun id =>
    kind (system.connection id) && (system.connection id).published.state.isLive

def objection (system : System ε) (phone : Phone) (carrier : CarrierConfig) (dial : String) :
    Option DisconnectCause :=
  if phone.technology.isServiceCode dial.toList && !phone.technology.allowsServiceCodeInCall &&
      system.anyLive (·.phone == phone.id) then
    some .dialedServiceCode
  else if phone.service.roaming && Dialing.isForwardingCode dial carrier.forwardingPrefixes then
    some .forwardingBlockedWhileRoaming
  else if !carrier.allowAddCallDuringEmergency && system.anyLive (·.isEmergency) then
    some .addCallRestricted
  else none

def prepare? (system : System ε) (request : CallRequest) : Except DisconnectCause Placement :=
  let device := system.device
  match device.classify request with
  | .error cause => .error cause
  | .ok number =>
    if request.video.isVideo && !number.emergency && device.tty then .error .videoBlockedByTty
    else
      match device.selectSlot request number with
      | none => .error .outOfService
      | some slot =>
        let phone := device.phone slot
        let carrier := device.carrierOf phone.subscription
        let routing :=
          if number.emergency then
            some (device.emergencyNumbers.routingFor number.dial phone.id)
          else none
        match if number.emergency then none else system.objection phone carrier number.dial with
        | some cause => .error cause
        | none => .ok { number, slot, phone, carrier, routing }

def roleFor (system : System ε) (routing : Option EmergencyRouting) : EmergencyRole :=
  if routing == some .normal then .normalRouting
  else
    match system.registry.roles.holder .emergency with
    | some holder =>
      if system.isRegistered holder && (system.connection holder).published.state.isLive then
        .alternate
      else .emergency
    | none => .emergency

def ringing (system : System ε) (except : ConnectionId) : List ConnectionId :=
  system.registry.connections.filter fun id =>
    let call := system.connection id
    id != except && call.direction == .incoming && call.published.state == .ringing

end System

namespace Act

variable {ε : Type}

/-- The connection of a placement, in all books of the exchange. -/
def enroll (request : CallRequest) (placement : Placement) : Act ε ConnectionId := do
  let number := placement.number
  let phone := (← get).device.phone placement.slot
  let id ← create {
    phone := placement.phone.id
    technology := phone.technology
    address := number.address
    subscription := phone.subscription
    video := request.video
    emergency := number.emergency
    testEmergency := number.test
    adhocConference := !request.participants.isEmpty
    carrier := placement.carrier
    extras := request.extras }
  setRedialEnabled id (number.emergency && (← get).settings.emergencyRedial)
  let plan : DialPlan := {
    dial := number.dial
    video := request.video
    emergency := number.emergency
    testEmergency := number.test
    routing := placement.routing
    participants := request.participants }
  reviseRegistry fun registry => { registry with plans := (id, plan) :: registry.plans }
  register id
  if number.emergency then
    let role := (← get).roleFor placement.routing
    reviseRegistry fun registry =>
      { registry with roles := (registry.roles.assign role id).2 }
  if request.rtt then setRttStream id (some ("rtt-" ++ id.text))
  return id

end Act

namespace Program

variable {ε : Type} (world : Collaborators ε)

abbrev Placed := Except DisconnectInfo ConnectionId

def refuse (cause : DisconnectCause) : Program ε Placed :=
  return .error (.ofCause cause)

/-- The answer for a connection that ended early. -/
def gone (id : ConnectionId) : Program ε Placed := do
  return .error ((← call id).ended.getD (.ofCause .canceled))

/-- Ends the connection; an earlier end stands. -/
def fail (id : ConnectionId) (info : DisconnectInfo) : Program ε Placed := do
  disconnect id info
  return .error ((← call id).ended.getD info)

def ensureRadio (id : ConnectionId) (slot : Slot) (emergency : Bool) :
    Program ε (Option Placed) := do
  let device := (← system).device
  let service := (device.phone slot).service
  if device.airplane || service.isRadioOff then
    if device.airplane then world.airplaneOff
    world.power slot true emergency
    let limit := (← system).settings.radioPowerOnTimeout
    match ← waitForService slot id emergency limit with
    | .reached => pure ()
    | .cancelled => return some (← gone id)
    | .timedOut =>
      let cause := if emergency then DisconnectCause.outOfService else .powerOff
      return some (← fail id
        ((DisconnectInfo.ofCause cause).withReason "radio did not come up in time"))
  else if !emergency && !service.canCall false then
    return some (← fail id (.ofCause .outOfService))
  if ← isLive id then return none
  return some (← gone id)

/-- Ringing calls are rejected, and default data moves to the phone if its carrier asks for
that. -/
def prepareForEmergency (id : ConnectionId) (phone : PhoneId) (carrier : CarrierConfig) :
    Program ε Unit := do
  let calls := (← system).ringing id
  forEach (fun id => do let _ ← reject world id) calls
  forEach
    (fun id => do
      let limit := (← system).settings.incomingRejectTimeout
      let _ ← waitForState id (· == .disconnected) limit)
    calls
  let system ← system
  if carrier.emergencyNeedsData && system.device.defaultData != some phone then
    let _ ← within system.settings.dataSwitchTimeout (world.switchData phone)

/-- The domain for a new emergency call; none when the call goes out circuit switched. -/
def selectDomain (id : ConnectionId) (slot : Slot) :
    Program ε (Except DisconnectCause (Option Domain)) := do
  atOnce (Act.startSelection id)
  atOnce (Act.setSelectionActive id true)
  match ← world.select id ((← system).selectionRequest id slot) with
  | .ok domain => return .ok (some domain)
  | .error .unavailable =>
    atOnce (Act.setSelectionActive id false)
    atOnce (Act.finishSelection id)
    return .ok none
  | .error (.terminal cause) => return .error cause

/-- The answer to a request whose dial had this outcome; failures of emergency calls are tried
again before the answer. -/
def settle (id : ConnectionId) (phone : PhoneId) (outcome : DialOutcome) : Program ε Placed := do
  match outcome with
  | .bound => return .ok id
  | .noCall => fail id (.ofCause .dialedServiceCode)
  | .cancelled => gone id
  | .failed error =>
    let call ← call id
    let retry := error.failure.retryClass
    if call.isEmergency && (← system).settings.emergencyRedial && retry != .none then
      redial world id phone (retry == .permanent)
    else if call.selectionActive && error.failure.wantsOtherDomain then
      reselect world id error.failure.cause error.code
    else
      return ← fail id error.disconnectInfo
    if ← isLive id then return .ok id
    gone id

/-- An emergency call has satellite mode left, if that is possible. -/
def clearSatellite (emergency : Bool) : Program ε (Option DisconnectCause) := do
  let device := (← system).device
  if !device.satelliteActive then return none
  if !emergency then return some .satelliteEnabled
  if !device.satelliteYields then return some .emergencyBlockedBySatellite
  if ← world.leaveSatellite then return none
  return some .emergencyBlockedBySatellite

/-- From a connection in the books to the answer. -/
def complete (id : ConnectionId) (placement : Placement) : Program ε Placed := do
  let emergency := placement.number.emergency
  let slot := placement.slot
  let phone := placement.phone.id
  if let some answer ← ensureRadio world id slot emergency then return answer
  if emergency then
    prepareForEmergency world id phone placement.carrier
    if !(← isLive id) then return ← gone id
  let system ← system
  let mut domain : Option Domain := none
  if emergency && system.settings.domainSelection && system.device.hasSelector then
    match ← selectDomain world id slot with
    | .ok selected => domain := selected
    | .error cause => return ← fail id (.ofCause cause)
  else
    prepareToDial world id phone emergency placement.carrier
  if !(← isLive id) then return ← gone id
  let outcome ← dialAndBind world id slot domain
  settle world id phone outcome

def dialOut (id : ConnectionId) (placement : Placement) (domain : Option Domain) :
    Program ε Placed := do
  if !(← isLive id) then return ← gone id
  let outcome ← dialAndBind world id placement.slot domain
  settle world id placement.phone.id outcome

def chooseAndDial (id : ConnectionId) (placement : Placement) : Program ε Placed := do
  let system ← system
  if placement.number.emergency && system.settings.domainSelection &&
      system.device.hasSelector then
    match ← selectDomain world id placement.slot with
    | .ok domain => dialOut world id placement domain
    | .error cause => return ← fail id (.ofCause cause)
  else
    prepareToDial world id placement.phone.id placement.number.emergency placement.carrier
    dialOut world id placement none

theorem complete_eq (id : ConnectionId) (placement : Placement) :
    complete world id placement = (do
      if let some answer ← ensureRadio world id placement.slot placement.number.emergency then
        return answer
      if placement.number.emergency then
        prepareForEmergency world id placement.phone.id placement.carrier
        if !(← isLive id) then return ← gone id
      chooseAndDial world id placement) :=
  rfl

def place (request : CallRequest) : Program ε Placed := do
  match (← system).prepare? request with
  | .error cause => refuse cause
  | .ok placement =>
    if let some cause ← clearSatellite world placement.number.emergency then
      return ← refuse cause
    complete world (← atOnce (Act.enroll request placement)) placement

end Program
end Switchboard
