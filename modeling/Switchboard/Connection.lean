import Switchboard.Address
import Switchboard.CallFacts
import Switchboard.Radio

/-! A connection: one call leg as this side sees it. What listeners have been told (`Published`)
is always computed as a whole from the rest of the record; `Connection.commit` replaces it and
says what changed. -/

namespace Switchboard

/-- Who is told about the events of a connection. -/
inductive Listener
  | recorder
  /-- The exchange that owns the connection. -/
  | exchange
  | observer (name : String)
  deriving DecidableEq, Repr

inductive ConnectionEvent
  | stateChanged (old new : CallState)
  | capabilitiesChanged (caps : Capabilities)
  | propertiesChanged (props : Properties)
  | addressChanged (number : Option String) (presentation : Presentation)
  | callerNameChanged (name : Option String) (presentation : Presentation)
  | videoStateChanged (video : VideoState)
  | extrasChanged (extras : Extras)
  | conferenceChanged (conference : Option ConferenceId)
  /-- A dial on the phone failed and another phone should be tried. -/
  | redialRequested (phone : PhoneId) (permanent : Bool)
  /-- The network wants the call in another domain. -/
  | reselectionRequested (cause : DisconnectCause) (code : Int)
  | disconnected (info : DisconnectInfo)
  | destroyed
  deriving DecidableEq, Repr

structure Published where
  state : CallState := .initializing
  caps : Capabilities := {}
  props : Properties := {}
  address : Option String := none
  addressPresentation : Presentation := .allowed
  callerName : Option String := none
  callerNamePresentation : Presentation := .allowed
  video : VideoState := .audioOnly
  extras : Extras := {}
  deriving DecidableEq, Repr

namespace Published

def changes (old new : Published) : List ConnectionEvent :=
  (if old.state = new.state then [] else [.stateChanged old.state new.state]) ++
  (if old.caps = new.caps then [] else [.capabilitiesChanged new.caps]) ++
  (if old.props = new.props then [] else [.propertiesChanged new.props]) ++
  (if old.address = new.address ∧ old.addressPresentation = new.addressPresentation then []
    else [.addressChanged new.address new.addressPresentation]) ++
  (if old.callerName = new.callerName ∧ old.callerNamePresentation = new.callerNamePresentation
    then [] else [.callerNameChanged new.callerName new.callerNamePresentation]) ++
  (if old.video = new.video then [] else [.videoStateChanged new.video]) ++
  (if old.extras = new.extras then [] else [.extrasChanged new.extras])

def hear (record : Published) : ConnectionEvent → Published
  | .stateChanged _ new => { record with state := new }
  | .capabilitiesChanged caps => { record with caps }
  | .propertiesChanged props => { record with props }
  | .addressChanged number presentation =>
    { record with address := number, addressPresentation := presentation }
  | .callerNameChanged name presentation =>
    { record with callerName := name, callerNamePresentation := presentation }
  | .videoStateChanged video => { record with video }
  | .extrasChanged extras => { record with extras }
  | _ => record

theorem changes_self (record : Published) : record.changes record = [] := by
  simp [changes]

/-- Hearing the changes leads from the first record to the second. -/
theorem foldl_hear_changes (old new : Published) : (old.changes new).foldl hear old = new := by
  have state (r : Published) (same : r.state = old.state) :
      (if old.state = new.state then [] else
        [ConnectionEvent.stateChanged old.state new.state]).foldl hear r =
      { r with state := new.state } := by
    obtain ⟨⟩ := r; split <;> simp_all [hear]
  have caps (r : Published) (same : r.caps = old.caps) :
      (if old.caps = new.caps then [] else
        [ConnectionEvent.capabilitiesChanged new.caps]).foldl hear r =
      { r with caps := new.caps } := by
    obtain ⟨⟩ := r; split <;> simp_all [hear]
  have props (r : Published) (same : r.props = old.props) :
      (if old.props = new.props then [] else
        [ConnectionEvent.propertiesChanged new.props]).foldl hear r =
      { r with props := new.props } := by
    obtain ⟨⟩ := r; split <;> simp_all [hear]
  have address (r : Published) (same : r.address = old.address)
      (shown : r.addressPresentation = old.addressPresentation) :
      (if old.address = new.address ∧ old.addressPresentation = new.addressPresentation then []
        else [ConnectionEvent.addressChanged new.address new.addressPresentation]).foldl hear r =
      { r with address := new.address, addressPresentation := new.addressPresentation } := by
    obtain ⟨⟩ := r; split <;> simp_all [hear]
  have name (r : Published) (same : r.callerName = old.callerName)
      (shown : r.callerNamePresentation = old.callerNamePresentation) :
      (if old.callerName = new.callerName ∧
          old.callerNamePresentation = new.callerNamePresentation then [] else
        [ConnectionEvent.callerNameChanged new.callerName
          new.callerNamePresentation]).foldl hear r =
      { r with
        callerName := new.callerName
        callerNamePresentation := new.callerNamePresentation } := by
    obtain ⟨⟩ := r; split <;> simp_all [hear]
  have video (r : Published) (same : r.video = old.video) :
      (if old.video = new.video then [] else
        [ConnectionEvent.videoStateChanged new.video]).foldl hear r =
      { r with video := new.video } := by
    obtain ⟨⟩ := r; split <;> simp_all [hear]
  have extras (r : Published) (same : r.extras = old.extras) :
      (if old.extras = new.extras then [] else
        [ConnectionEvent.extrasChanged new.extras]).foldl hear r =
      { r with extras := new.extras } := by
    obtain ⟨⟩ := r; split <;> simp_all [hear]
  simp only [changes, List.foldl_append, state, caps, props, address, name, video, extras]

end Published

structure Connection where
  direction : Direction
  phone : PhoneId
  subscription : Option SubscriptionId
  technology : Technology
  carrier : CarrierConfig
  dialed : Address
  requestedVideo : VideoState
  emergency : Bool
  testEmergency : Bool
  adhocConference : Bool
  leg : Option LegId := none
  /-- Counts bindings and unbindings; events of earlier bindings are dropped. The count does not
  wrap: a connection is taken never to be bound or unbound 2^64 times. -/
  generation : Nat := 0
  /-- The last view of a leg, kept when the leg is dropped. -/
  view : Option RadioSnapshot := none
  /-- A state shown in place of the leg's. -/
  presented : Option CallState := none
  localExtras : Extras
  rttStream : Option String := none
  conference : Option ConferenceId := none
  holdAllowed : Bool := false
  redialEnabled : Bool := false
  selectionActive : Bool := false
  awaitingRedial : Bool := false
  ended : Option DisconnectInfo := none
  teardownStarted : Bool := false
  destroyed : Bool := false
  published : Published := {}
  /-- Listeners are being told; further updates wait for that to end. -/
  publishing : Bool := false
  republish : Bool := false
  /-- What those who wait for a state look at. -/
  watched : CallState := .initializing
  listeners : List Listener := []
  deriving DecidableEq, Repr

structure CallParameters where
  direction : Direction := .outgoing
  phone : PhoneId
  subscription : Option SubscriptionId := none
  technology : Technology
  address : Address := Address.tel ""
  video : VideoState := .audioOnly
  emergency : Bool := false
  testEmergency : Bool := false
  adhocConference : Bool := false
  carrier : CarrierConfig := {}
  extras : Extras := {}
  deriving Repr

namespace Connection

def visibleState (call : Connection) : CallState :=
  match call.ended, call.presented, call.view with
  | some _, _, _ => .disconnected
  | none, some state, _ => state
  | none, none, some view => view.state
  | none, none, none => .initializing

def isEmergency (call : Connection) : Bool :=
  call.emergency || call.view.any (·.networkEmergency)

def isMultiparty (call : Connection) : Bool :=
  call.view.any (·.multiparty)

def facts (call : Connection) : CallFacts :=
  let plain : CallFacts := {
    state := call.visibleState
    direction := call.direction
    technology := call.technology
    emergency := call.emergency
    video := call.requestedVideo
    hasRttStream := call.rttStream.isSome
    adhocConference := call.adhocConference
    inConference := call.conference.isSome
    holdAllowed := call.holdAllowed }
  match call.view with
  | none => plain
  | some view => { plain with
      emergency := call.emergency || view.networkEmergency
      networkEmergency := view.networkEmergency
      video := view.video
      audio := view.audio
      wifi := view.wifi
      crossSim := view.crossSim
      rttActive := view.rttActive
      multiparty := view.multiparty
      localVideo := view.localVideo
      remoteVideo := view.remoteVideo
      pullable := view.pullable
      voicePrivacy := view.voicePrivacy }

def dialedNumber? (call : Connection) : Option String :=
  if call.dialed.number.isEmpty then none else some call.dialed.number

/-- What everybody should know about the call. -/
def derived (call : Connection) : Published where
  state := call.facts.state
  caps := call.facts.capabilities call.carrier
  props := call.facts.properties call.carrier
  address :=
    ((call.view.bind (·.address)) <|> call.dialedNumber?).map (Dialing.shownNumber · call.carrier)
  addressPresentation := (call.view.map (·.addressPresentation)).getD .allowed
  callerName := Dialing.shownName (call.view.bind (·.callerName)) call.carrier
  callerNamePresentation := (call.view.map (·.callerNamePresentation)).getD .allowed
  video := call.facts.video
  extras := ((call.view.map RadioSnapshot.extras).getD {}).overlay call.localExtras

theorem facts_state (call : Connection) : call.facts.state = call.visibleState := by
  unfold facts
  cases call.view <;> rfl

theorem visibleState_of_ended {call : Connection} {info : DisconnectInfo}
    (isOver : call.ended = some info) : call.visibleState = .disconnected := by
  simp [visibleState, isOver]

theorem derived_state (call : Connection) : call.derived.state = call.visibleState :=
  call.facts_state

def create (params : CallParameters) : Connection :=
  let call : Connection := {
    direction := params.direction
    phone := params.phone
    subscription := params.subscription
    technology := params.technology
    carrier := params.carrier
    dialed := params.address
    requestedVideo := params.video
    emergency := params.emergency
    testEmergency := params.testEmergency
    adhocConference := params.adhocConference
    localExtras := params.extras }
  { call with published := call.derived, watched := call.derived.state }

/-- Stands for a connection that does not exist. -/
def absent : Connection :=
  let call := create { phone := ⟨0⟩, technology := .ims }
  { call with
    ended := some DisconnectInfo.byRequest
    teardownStarted := true
    destroyed := true
    published := { state := .disconnected }
    watched := .disconnected }

instance : Inhabited Connection := ⟨absent⟩

/-- Listeners hear of a commit: the changes, the new state, and whether the call ends now. -/
structure Commit where
  events : List ConnectionEvent
  state : CallState
  ending : Bool
  deriving DecidableEq, Repr

/-- Publishes the derived values. There is nothing to tell when nothing changed, and nothing
ever changes for a destroyed connection; then the publishing is over. -/
def commit (call : Connection) : Option Commit × Connection :=
  if call.destroyed then (none, { call with republish := false, publishing := false })
  else
    let next := call.derived
    let events := call.published.changes next
    let ending := next.state == .disconnected && !call.teardownStarted
    let quiet := events.isEmpty && !ending
    (if quiet then none else some { events, state := next.state, ending },
      { call with
        republish := false
        published := next
        teardownStarted := call.teardownStarted || ending
        publishing := !quiet })

theorem create_published (params : CallParameters) :
    (create params).published = (create params).derived := rfl

end Connection
end Switchboard
