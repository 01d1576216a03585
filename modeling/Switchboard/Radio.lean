import Switchboard.CallState
import Switchboard.Disconnect
import Switchboard.Media
import Switchboard.Network

/-! A call leg as the radio sees it: its current view, the events by which the view changes, the
commands a leg takes and the errors they can end in. -/

namespace Switchboard

structure RadioSnapshot where
  state : CallState
  technology : Technology
  address : Option String := none
  addressPresentation : Presentation := .allowed
  callerName : Option String := none
  callerNamePresentation : Presentation := .allowed
  video : VideoState := .audioOnly
  audio : AudioQuality := .standard
  wifi : Bool := false
  multiparty : Bool := false
  crossSim : Bool := false
  rttActive : Bool := false
  localVideo : Bool := false
  remoteVideo : Bool := false
  /-- A call on another device that can be moved here. -/
  pullable : Bool := false
  /-- The network says that this is an emergency call. -/
  networkEmergency : Bool := false
  voicePrivacy : Bool := false
  extras : Extras := {}
  deriving DecidableEq, Repr

inductive RadioEvent
  | stateChanged (state : CallState)
  | technologyChanged (technology : Technology)
  | videoStateChanged (video : VideoState)
  | videoCapabilityChanged (near far : Bool)
  | audioQualityChanged (audio : AudioQuality)
  | wifiChanged (on : Bool)
  | multipartyChanged (on : Bool)
  | extrasChanged (extras : Extras)
  | addressChanged (number : Option String) (presentation : Presentation)
  | callerNameChanged (name : Option String) (presentation : Presentation)
  | rttChanged (on : Bool)
  | voicePrivacyChanged (on : Bool)
  | disconnected (failure : RadioFailure) (code : Int) (message : String)
  deriving DecidableEq, Repr

namespace RadioSnapshot

def apply (view : RadioSnapshot) : RadioEvent → RadioSnapshot
  | .stateChanged state => { view with state }
  | .technologyChanged technology => { view with technology }
  | .videoStateChanged video => { view with video }
  | .videoCapabilityChanged near far => { view with localVideo := near, remoteVideo := far }
  | .audioQualityChanged audio => { view with audio }
  | .wifiChanged on => { view with wifi := on }
  | .multipartyChanged on => { view with multiparty := on }
  | .extrasChanged extras => { view with extras }
  | .addressChanged number presentation =>
    { view with address := number, addressPresentation := presentation }
  | .callerNameChanged name presentation =>
    { view with callerName := name, callerNamePresentation := presentation }
  | .rttChanged on => { view with rttActive := on }
  | .voicePrivacyChanged on => { view with voicePrivacy := on }
  | .disconnected _ _ _ => { view with state := .disconnected }

/-- Reporting the same event twice is reporting it once. -/
theorem apply_apply (view : RadioSnapshot) (event : RadioEvent) :
    (view.apply event).apply event = view.apply event := by
  cases event <;> rfl

end RadioSnapshot

inductive RadioError
  | rejected (failure : RadioFailure) (code : Int) (message : String)
  | gone
  | unsupported (operation : String)
  deriving DecidableEq, Repr

namespace RadioError

def failure : RadioError → RadioFailure
  | .rejected failure _ _ => failure
  | .gone => .byRequest
  | .unsupported _ => .unspecified

def code : RadioError → Int
  | .rejected _ code _ => code
  | _ => 0

def text : RadioError → String
  | .rejected failure code message =>
    "Radio rejected request: " ++ Named.name failure ++ " (code " ++ toString code ++ "): " ++
      message
  | .gone => "Radio path no longer exists"
  | .unsupported operation => "Operation not supported: " ++ operation

def disconnectInfo (error : RadioError) : DisconnectInfo :=
  (DisconnectInfo.ofFailure error.failure error.code).withReason error.text

end RadioError

inductive RadioCommand
  | answer (video : VideoState)
  | reject
  | hangup
  | hold
  | unhold
  | transfer (number : String) (consultative : Bool)
  | deflect (number : String)
  | pull
  deriving DecidableEq, Repr

def RadioCommand.word : RadioCommand → String
  | .answer _ => "answer"
  | .reject => "reject"
  | .hangup => "hangup"
  | .hold => "hold"
  | .unhold => "unhold"
  | .transfer _ _ => "transfer"
  | .deflect _ => "deflect"
  | .pull => "pull"

end Switchboard
