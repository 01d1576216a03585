import Switchboard.Named

/-! How calls end. A failure in the radio network becomes a cause; a cause with the network's
code and a reason in words is what everybody is told about the end of a call. -/

namespace Switchboard

/-- What the radio reports for a failed dial or a call that ended. -/
inductive RadioFailure
  | normal
  | byRequest
  | busy
  | outOfService
  | powerOff
  | alreadyDialing
  | tooManyCalls
  | fdnBlocked
  | provisioningInProgress
  | invalidNumber
  | incomingRejected
  /-- Another phone may still succeed. -/
  | emergencyTemporary
  /-- This phone can never succeed. -/
  | emergencyPermanent
  /-- The network wants the call in another domain. -/
  | retryRequired
  | unspecified
  deriving DecidableEq, Repr

inductive RetryClass
  | none
  | temporary
  | permanent
  deriving DecidableEq, Repr

inductive DisconnectCause
  | byRequest
  | remote
  | busy
  | canceled
  | incomingRejected
  | outOfService
  | powerOff
  | alreadyDialing
  | tooManyCalls
  | fdnBlocked
  | provisioningInProgress
  | invalidNumber
  | emergencyTemporary
  | emergencyPermanent
  | retryRequired
  | emergencyBlockedBySatellite
  | satelliteEnabled
  | dialedServiceCode
  | videoBlockedByTty
  | forwardingBlockedWhileRoaming
  | voicemailNumberMissing
  | addCallRestricted
  | unspecified
  deriving DecidableEq, Repr

instance : Named RadioFailure where
  all := [.normal, .byRequest, .busy, .outOfService, .powerOff, .alreadyDialing, .tooManyCalls,
    .fdnBlocked, .provisioningInProgress, .invalidNumber, .incomingRejected,
    .emergencyTemporary, .emergencyPermanent, .retryRequired, .unspecified]
  name
    | .normal => "Normal"
    | .byRequest => "Local"
    | .busy => "Busy"
    | .outOfService => "OutOfService"
    | .powerOff => "PowerOff"
    | .alreadyDialing => "AlreadyDialing"
    | .tooManyCalls => "TooManyCalls"
    | .fdnBlocked => "FdnBlocked"
    | .provisioningInProgress => "ProvisioningInProgress"
    | .invalidNumber => "InvalidNumber"
    | .incomingRejected => "IncomingRejected"
    | .emergencyTemporary => "EmergencyTemporaryFailure"
    | .emergencyPermanent => "EmergencyPermanentFailure"
    | .retryRequired => "RetryRequired"
    | .unspecified => "Unspecified"

instance : Named RetryClass where
  all := [.none, .temporary, .permanent]
  name
    | .none => "None"
    | .temporary => "Temporary"
    | .permanent => "Permanent"

instance : Named DisconnectCause where
  all := [.byRequest, .remote, .busy, .canceled, .incomingRejected, .outOfService, .powerOff,
    .alreadyDialing, .tooManyCalls, .fdnBlocked, .provisioningInProgress, .invalidNumber,
    .emergencyTemporary, .emergencyPermanent, .retryRequired, .emergencyBlockedBySatellite,
    .satelliteEnabled, .dialedServiceCode, .videoBlockedByTty, .forwardingBlockedWhileRoaming,
    .voicemailNumberMissing, .addCallRestricted, .unspecified]
  name
    | .byRequest => "Local"
    | .remote => "Remote"
    | .busy => "Busy"
    | .canceled => "Canceled"
    | .incomingRejected => "IncomingRejected"
    | .outOfService => "OutOfService"
    | .powerOff => "PowerOff"
    | .alreadyDialing => "AlreadyDialing"
    | .tooManyCalls => "TooManyCalls"
    | .fdnBlocked => "FdnBlocked"
    | .provisioningInProgress => "ProvisioningInProgress"
    | .invalidNumber => "InvalidNumber"
    | .emergencyTemporary => "EmergencyTemporaryFailure"
    | .emergencyPermanent => "EmergencyPermanentFailure"
    | .retryRequired => "RetryRequired"
    | .emergencyBlockedBySatellite => "EmergencyCallBlockedBySatellite"
    | .satelliteEnabled => "SatelliteEnabled"
    | .dialedServiceCode => "DialedMmi"
    | .videoBlockedByTty => "VideoCallNotAllowedWhileTtyEnabled"
    | .forwardingBlockedWhileRoaming => "CallForwardingBlockedWhileRoaming"
    | .voicemailNumberMissing => "VoicemailNumberMissing"
    | .addCallRestricted => "AddCallRestricted"
    | .unspecified => "ErrorUnspecified"

namespace RadioFailure

/-- Whether another phone is worth trying for an emergency call. -/
def retryClass : RadioFailure → RetryClass
  | .emergencyTemporary => .temporary
  | .emergencyPermanent => .permanent
  | _ => .none

def wantsOtherDomain (failure : RadioFailure) : Bool :=
  failure == .retryRequired

def cause : RadioFailure → DisconnectCause
  | .normal => .remote
  | .byRequest => .byRequest
  | .busy => .busy
  | .outOfService => .outOfService
  | .powerOff => .powerOff
  | .alreadyDialing => .alreadyDialing
  | .tooManyCalls => .tooManyCalls
  | .fdnBlocked => .fdnBlocked
  | .provisioningInProgress => .provisioningInProgress
  | .invalidNumber => .invalidNumber
  | .incomingRejected => .incomingRejected
  | .emergencyTemporary => .emergencyTemporary
  | .emergencyPermanent => .emergencyPermanent
  | .retryRequired => .retryRequired
  | .unspecified => .unspecified

theorem cause_injective {first second : RadioFailure} (same : first.cause = second.cause) :
    first = second := by
  cases first <;> cases second <;> simp_all [cause]

/-- No failure asks for another phone and for another domain at once. -/
theorem retryClass_of_wantsOtherDomain {failure : RadioFailure}
    (other : failure.wantsOtherDomain) : failure.retryClass = .none := by
  cases failure <;> simp_all [wantsOtherDomain, retryClass]

end RadioFailure

namespace DisconnectCause

def isNormal : DisconnectCause → Bool
  | .byRequest | .remote | .busy | .canceled | .incomingRejected => true
  | _ => false

def description : DisconnectCause → String
  | .byRequest => "call ended locally"
  | .remote => "call ended by remote party"
  | .busy => "remote party busy"
  | .canceled => "call canceled"
  | .incomingRejected => "incoming call rejected"
  | .outOfService => "no cellular service"
  | .powerOff => "radio is off"
  | .alreadyDialing => "another call is already dialing"
  | .tooManyCalls => "too many calls"
  | .fdnBlocked => "number blocked by fixed dialing"
  | .provisioningInProgress => "provisioning in progress"
  | .invalidNumber => "invalid number"
  | .emergencyTemporary => "emergency call temporary failure"
  | .emergencyPermanent => "emergency call permanent failure"
  | .retryRequired => "call must be retried in another domain"
  | .emergencyBlockedBySatellite => "emergency call not allowed in satellite mode"
  | .satelliteEnabled => "calls not allowed while satellite mode is on"
  | .dialedServiceCode => "MMI code dialed"
  | .videoBlockedByTty => "video calls not allowed while TTY is enabled"
  | .forwardingBlockedWhileRoaming => "call forwarding not allowed while roaming"
  | .voicemailNumberMissing => "no voicemail number configured"
  | .addCallRestricted => "cannot add a call right now"
  | .unspecified => "call failed"

end DisconnectCause

/-- The end of a call: its cause, the network's code (zero when there is none), and a reason. -/
structure DisconnectInfo where
  cause : DisconnectCause
  code : Int := 0
  reason : String := cause.description
  deriving DecidableEq, Repr

namespace DisconnectInfo

def ofCause (cause : DisconnectCause) : DisconnectInfo := { cause }

def ofFailure (failure : RadioFailure) (code : Int) : DisconnectInfo :=
  { cause := failure.cause, code }

def byRequest : DisconnectInfo := ofCause .byRequest

def withCode (info : DisconnectInfo) (code : Int) : DisconnectInfo := { info with code }

def withReason (info : DisconnectInfo) (reason : String) : DisconnectInfo := { info with reason }

def text (info : DisconnectInfo) : String :=
  let code := if info.code = 0 then "" else " (code " ++ toString info.code ++ ")"
  Named.name info.cause ++ code ++ ": " ++ info.reason

end DisconnectInfo
end Switchboard
