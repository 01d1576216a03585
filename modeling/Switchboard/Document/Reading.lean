import Switchboard.CallFacts
import Switchboard.Connection
import Switchboard.Device
import Switchboard.Document
import Switchboard.Radio

/-! The values of the domain as documents give them. What a document leaves out has a default;
words outside a vocabulary count as left out. -/

namespace Switchboard.Document

def phoneAt (document : Document) (key : String := "phone") : PhoneId :=
  ⟨document.natAt key⟩

def phone? (document : Document) : Option PhoneId :=
  document.nat?.map PhoneId.mk

def subscription? (document : Document) : Option SubscriptionId :=
  document.int?.map SubscriptionId.mk

def toExtras (document : Document) : Extras :=
  .ofList (document.entries.filterMap fun entry => entry.2.text?.map fun text => (entry.1, text))

def toCarrier (document : Document) : CarrierConfig :=
  document.toRecord CarrierConfig.fields {}

def toService (document : Document) : ServiceState where
  registration := document.namedAt "reg" .inService
  roaming := document.flagAt "roaming"
  wifiCalling := document.flagAt "wifi"

def toRadioError (document : Document) : RadioError :=
  match (document.get "unsupported").text?, (document.get "fail").named? with
  | some operation, _ => .unsupported operation
  | none, some failure => .rejected failure (document.intAt "code") (document.textAt "msg")
  | none, none => .gone

def toView (document : Document) (state : CallState) (technology : Technology) :
    RadioSnapshot where
  state := document.namedAt "state" state
  technology := document.namedAt "tech" technology
  address := (document.get "address").text?
  addressPresentation := document.namedAt "address_pres" .allowed
  callerName := (document.get "name").text?
  callerNamePresentation := document.namedAt "name_pres" .allowed
  video := document.namedAt "video" .audioOnly
  audio := document.namedAt "audio" .standard
  wifi := document.flagAt "wifi"
  multiparty := document.flagAt "multiparty"
  crossSim := document.flagAt "cross_sim"
  rttActive := document.flagAt "rtt"
  localVideo := document.flagAt "local_video"
  remoteVideo := document.flagAt "remote_video"
  pullable := document.flagAt "pullable"
  networkEmergency := document.flagAt "net_emergency"
  voicePrivacy := document.flagAt "voice_privacy"
  extras := (document.get "extras").toExtras

def toRadioEvent (document : Document) : RadioEvent :=
  let on := document.flagAt "on"
  let presentation : Presentation := document.namedAt "pres" .allowed
  match document.textAt "e" with
  | "StateChanged" => .stateChanged (document.namedAt "state" .initializing)
  | "TechnologyChanged" => .technologyChanged (document.namedAt "tech" .ims)
  | "VideoStateChanged" => .videoStateChanged (document.namedAt "video" .audioOnly)
  | "VideoCapabilityChanged" =>
    .videoCapabilityChanged (document.flagAt "local") (document.flagAt "remote")
  | "AudioQualityChanged" => .audioQualityChanged (document.namedAt "audio" .standard)
  | "WifiChanged" => .wifiChanged on
  | "MultipartyChanged" => .multipartyChanged on
  | "ExtrasChanged" => .extrasChanged (document.get "extras").toExtras
  | "AddressChanged" => .addressChanged (document.get "number").text? presentation
  | "CallerNameChanged" => .callerNameChanged (document.get "name").text? presentation
  | "RttChanged" => .rttChanged on
  | "VoicePrivacyChanged" => .voicePrivacyChanged on
  | _ =>
    .disconnected (document.namedAt "failure" .unspecified) (document.intAt "code")
      (document.textAt "msg")

def toCallFacts (document : Document) : CallFacts where
  state := document.namedAt "state" .initializing
  direction := document.namedAt "direction" .outgoing
  technology := document.namedAt "tech" .ims
  emergency := document.flagAt "emergency"
  networkEmergency := document.flagAt "net_emergency"
  video := document.namedAt "video" .audioOnly
  audio := document.namedAt "audio" .standard
  wifi := document.flagAt "wifi"
  crossSim := document.flagAt "cross_sim"
  rttActive := document.flagAt "rtt"
  hasRttStream := document.flagAt "rtt_stream"
  adhocConference := document.flagAt "adhoc"
  multiparty := document.flagAt "multiparty"
  inConference := document.flagAt "in_conference"
  localVideo := document.flagAt "local_video"
  remoteVideo := document.flagAt "remote_video"
  pullable := document.flagAt "pullable"
  voicePrivacy := document.flagAt "voice_privacy"
  holdAllowed := document.flagAt "hold_allowed"

def toEmergencyNumbers (document : Document) : EmergencyNumbers :=
  let numbers :=
    if (document.get "numbers").isNull then ["112", "911"] else document.textsAt "numbers"
  (document.itemsAt "routing").foldl
    (fun plan route =>
      plan.withRoute (route.textAt "number") route.phoneAt (route.namedAt "routing" .unknown))
    { numbers, testNumbers := document.textsAt "test_numbers" }

def toPhone (document : Document) (position : Nat) : Phone where
  id := ⟨document.natAt "id" position⟩
  subscription :=
    if document.has "sub" then (document.get "sub").subscription? else some ⟨position + 1⟩
  technology := document.namedAt "tech" .ims
  service := document.toService
  sim := document.namedAt "sim" .ready
  accessFamilies := document.natAt "raf" 15
  callbackMode := document.flagAt "ecbm"
  smsMode := document.flagAt "sms"
  emergencyList := document.textsAt "list"
  voicemail := (document.get "voicemail").text?

def defaultPhone? (document : Document) (key : String) : Option PhoneId :=
  if document.has key then (document.get key).phone? else some ⟨0⟩

def toDevice (document : Document) : Device where
  phones := (document.itemsAt "phones").zipIdx.map fun entry => entry.1.toPhone entry.2
  defaultVoice := document.defaultPhone? "voice"
  defaultData := document.defaultPhone? "data"
  defaultPhone := document.phoneAt "default"
  maxActive := document.natAt "max_active" 1
  tty := document.flagAt "tty"
  airplane := document.flagAt "airplane"
  satellite := (document.get "satellite").flag?.map fun active =>
    { active, yieldsToEmergency := document.flagAt "satellite_exit" }
  carriers := (document.itemsAt "carriers").foldl
    (fun book entry => book.set ⟨entry.intAt "sub"⟩ (entry.get "config").toCarrier)
    { fallback := (document.get "carrier").toCarrier }
  emergencyNumbers := document.toEmergencyNumbers
  hasSelector := document.flagAt "selector"

def toDisconnectInfo (document : Document) : DisconnectInfo :=
  let start := (DisconnectInfo.ofCause (document.namedAt "cause" .byRequest)).withCode
    (document.intAt "code")
  ((document.get "reason").text?.map start.withReason).getD start

def toCallParameters (document : Document) : CallParameters :=
  let direction : Direction := document.namedAt "direction" .outgoing
  { direction
    phone := document.phoneAt
    subscription := (document.get "sub").subscription?
    technology := document.namedAt "tech" .ims
    address :=
      if direction == .incoming then .tel "" else .parse (document.textAt "addr")
    video := document.namedAt "video" .audioOnly
    emergency := document.flagAt "emergency"
    testEmergency := document.flagAt "test"
    adhocConference := document.flagAt "adhoc"
    carrier := (document.get "carrier").toCarrier
    extras := (document.get "extras").toExtras }

end Switchboard.Document
