import Switchboard.Document
import Switchboard.Selection
import Switchboard.System

/-! The values of the domain as documents. Connections, conferences and legs are shown by short
labels. -/

namespace Switchboard.Document

def ofPhone (phone : PhoneId) : Document := ofNat phone.number

def ofSubscription (subscription : SubscriptionId) : Document := number subscription.number

def ofConnection : ConnectionId → Document
  | .issued serial => text ("c" ++ toString serial)
  | .outsider value => text ("x" ++ toString value)

def ofConference : ConferenceId → Document
  | .formed serial => text ("f" ++ toString serial)
  | .outsider value => text ("x" ++ toString value)

def ofLeg (leg : LegId) : Document := text leg.text

def ofExtras (extras : Extras) : Document :=
  ofFields (extras.entries.map fun entry => (entry.1, text entry.2))

def ofError (error : CallError) : Document :=
  match error with
  | .unreadable => ofFields [("error", text error.kind)]
  | _ => ofFields [("error", text error.kind), ("message", text error.message)]

def ofService (service : ServiceState) : Document :=
  ofFields [("registration", ofNamed service.registration), ("roaming", flag service.roaming),
    ("wifi_calling_available", flag service.wifiCalling)]

def ofInfo (info : DisconnectInfo) : Document :=
  ofFields [("cause", ofNamed info.cause), ("code", number info.code),
    ("reason", text info.reason)]

def ofCarrier (config : CarrierConfig) : Document := ofRecord CarrierConfig.fields config

def ofSettings (settings : Settings) : Document := ofRecord Settings.fields settings

def ofView (view : RadioSnapshot) : Document :=
  ofFields [("state", ofNamed view.state), ("tech", ofNamed view.technology),
    ("address", ofOption text view.address), ("address_pres", ofNamed view.addressPresentation),
    ("name", ofOption text view.callerName), ("name_pres", ofNamed view.callerNamePresentation),
    ("video", ofNamed view.video), ("audio", ofNamed view.audio), ("wifi", flag view.wifi),
    ("multiparty", flag view.multiparty), ("cross_sim", flag view.crossSim),
    ("rtt", flag view.rttActive), ("local_video", flag view.localVideo),
    ("remote_video", flag view.remoteVideo), ("pullable", flag view.pullable),
    ("net_emergency", flag view.networkEmergency), ("voice_privacy", flag view.voicePrivacy),
    ("extras", ofExtras view.extras)]

def ofSlotStatus (slot : SlotStatus) : Document :=
  ofFields [("phone", ofPhone slot.phone), ("sub", ofOption ofSubscription slot.subscription),
    ("service", ofService slot.service), ("raf", ofNat slot.accessFamilies),
    ("locked", flag slot.simLocked), ("has_sim", flag slot.hasSim),
    ("has_number", flag slot.hasNumber), ("sms", flag slot.smsMode)]

def eventFields : ConnectionEvent → String × List (String × Document)
  | .stateChanged old new => ("StateChanged", [("old", ofNamed old), ("new", ofNamed new)])
  | .capabilitiesChanged caps => ("CapabilitiesChanged", [("v", ofNat caps.bits)])
  | .propertiesChanged props => ("PropertiesChanged", [("v", ofNat props.bits)])
  | .addressChanged shown presentation =>
    ("AddressChanged", [("number", ofOption text shown), ("pres", ofNamed presentation)])
  | .callerNameChanged name presentation =>
    ("CallerNameChanged", [("name", ofOption text name), ("pres", ofNamed presentation)])
  | .videoStateChanged video => ("VideoStateChanged", [("v", ofNamed video)])
  | .extrasChanged extras => ("ExtrasChanged", [("v", ofExtras extras)])
  | .conferenceChanged conference =>
    ("ConferenceChanged", [("v", ofOption ofConference conference)])
  | .redialRequested phone permanent =>
    ("RedialRequested", [("phone", ofPhone phone), ("permanent", flag permanent)])
  | .reselectionRequested cause code =>
    ("DomainReselectionRequested", [("cause", ofNamed cause), ("code", number code)])
  | .disconnected info => ("Disconnected", [("v", ofInfo info)])
  | .destroyed => ("Destroyed", [])

def ofEvent (id : ConnectionId) (event : ConnectionEvent) : Document :=
  let (kind, shown) := eventFields event
  ofFields (("c", ofConnection id) :: ("e", text kind) :: shown)

def selectionFields (request : SelectionRequest) : List (String × Document) :=
  [("phone", ofPhone request.phone), ("sub", ofOption ofSubscription request.subscription),
    ("address", text request.address), ("emergency", flag request.emergency),
    ("video", flag request.video),
    ("failure", ofOption (fun failure => list [ofNamed failure.1, number failure.2])
      request.failure)]

def commandFields : RadioCommand → List (String × Document)
  | .answer video => [("video", ofNamed video)]
  | .transfer target consultative =>
    [("number", text target), ("consultative", flag consultative)]
  | .deflect target => [("number", text target)]
  | _ => []

def callFields : Call → String × List (String × Document)
  | .dial _ phone dialed args =>
    ("dial", [("phone", ofPhone phone), ("number", text dialed), ("video", ofNamed args.video),
      ("rtt", ofOption text args.rtt), ("extras", ofExtras args.extras),
      ("emergency", flag args.emergency), ("test", flag args.testEmergency),
      ("routing", ofOption ofNamed args.routing), ("domain", ofOption ofNamed args.domain),
      ("participants", ofList text args.participants)])
  | .power phone on emergency =>
    ("power", [("phone", ofPhone phone), ("on", flag on), ("emergency", flag emergency)])
  | .switchData phone => ("dds", [("phone", ofPhone phone)])
  | .leaveSatellite => ("satellite_exit", [])
  | .airplaneOff => ("airplane_off", [])
  | .select _ request => ("select", selectionFields request)
  | .reselect _ request => ("reselect", selectionFields request)
  | .cancelSelection => ("cancel", [])
  | .finishSelection => ("finish", [])
  | .command leg command => (command.word, ("radio", ofLeg leg) :: commandFields command)

def ofCall (call : Call) : Document :=
  let (name, shown) := callFields call
  ofFields (("j", text name) :: shown)

def ofChange (change : ConferenceChange) : Document :=
  let kind := match change with
    | .created _ => "Created"
    | .membersChanged _ => "MembersChanged"
    | .removed _ => "Removed"
  list [text kind, ofConference change.conference]

def ofNotice : Notice → Document
  | .connectionAdded id => list [text "ConnectionAdded", ofConnection id]
  | .connectionRemoved id => list [text "ConnectionRemoved", ofConnection id]
  | .conferenceCreated id => list [text "ConferenceCreated", ofConference id]
  | .conferenceRemoved id => list [text "ConferenceRemoved", ofConference id]

end Switchboard.Document
