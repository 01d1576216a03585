import Switchboard.Named

/-! The networks a call can use and the standing of a phone in them. -/

namespace Switchboard

inductive Technology
  | gsm
  | cdma
  | ims
  | satellite
  deriving DecidableEq, Repr

inductive Domain
  | circuit
  | packet
  | packetWifi
  | satellite
  deriving DecidableEq, Repr

inductive Registration
  | inService
  | emergencyOnly
  | outOfService
  | powerOff
  deriving DecidableEq, Repr

inductive SimState
  | absent
  | pinRequired
  | pukRequired
  | networkLocked
  | ready
  deriving DecidableEq, Repr

instance : Named Technology where
  all := [.gsm, .cdma, .ims, .satellite]
  name
    | .gsm => "Gsm"
    | .cdma => "Cdma"
    | .ims => "Ims"
    | .satellite => "Satellite"

instance : Named Domain where
  all := [.circuit, .packet, .packetWifi, .satellite]
  name
    | .circuit => "Cs"
    | .packet => "Ps"
    | .packetWifi => "PsWifi"
    | .satellite => "Satellite"

instance : Named Registration where
  all := [.inService, .emergencyOnly, .outOfService, .powerOff]
  name
    | .inService => "InService"
    | .emergencyOnly => "EmergencyOnly"
    | .outOfService => "OutOfService"
    | .powerOff => "PowerOff"

instance : Named SimState where
  all := [.absent, .pinRequired, .pukRequired, .networkLocked, .ready]
  name
    | .absent => "Absent"
    | .pinRequired => "PinRequired"
    | .pukRequired => "PukRequired"
    | .networkLocked => "NetworkLocked"
    | .ready => "Ready"

def Technology.text : Technology → String
  | .gsm => "GSM"
  | .cdma => "CDMA"
  | .ims => "IMS"
  | .satellite => "NTN"

def Domain.isPacketSwitched : Domain → Bool
  | .packet | .packetWifi => true
  | _ => false

/-- A phone's standing: what it is registered for, whether it roams, and whether calls can go
over Wi-Fi while the cellular radio is unusable. -/
structure ServiceState where
  registration : Registration := .inService
  roaming : Bool := false
  wifiCalling : Bool := false
  deriving DecidableEq, Repr

namespace ServiceState

def emergencyOnly : ServiceState := { registration := .emergencyOnly }

def outOfService : ServiceState := { registration := .outOfService }

def powerOff : ServiceState := { registration := .powerOff }

def isInService (service : ServiceState) : Bool :=
  service.registration == .inService

def isRadioOff (service : ServiceState) : Bool :=
  service.registration == .powerOff

def canCallEmergency (service : ServiceState) : Bool :=
  match service.registration with
  | .inService | .emergencyOnly => true
  | _ => false

def canCall (service : ServiceState) (emergency : Bool) : Bool :=
  (if emergency then service.canCallEmergency else service.isInService) || service.wifiCalling

theorem canCallEmergency_of_isInService {service : ServiceState} (up : service.isInService) :
    service.canCallEmergency := by
  simp_all [isInService, canCallEmergency]

/-- A phone that can carry an ordinary call can carry an emergency call. -/
theorem canCall_emergency {service : ServiceState} (ordinary : service.canCall false) :
    service.canCall true := by
  simp only [canCall, Bool.false_eq_true, if_false, if_true, Bool.or_eq_true] at ordinary ⊢
  exact ordinary.imp_left canCallEmergency_of_isInService

end ServiceState

def SimState.isLocked : SimState → Bool
  | .pinRequired | .pukRequired => true
  | _ => false

def SimState.isPresent (sim : SimState) : Bool :=
  sim != .absent

end Switchboard
