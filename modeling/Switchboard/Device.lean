import Switchboard.Carrier
import Switchboard.EmergencyNumbers
import Switchboard.Network

/-! The device that calls are placed on: its phones, its default choices, its switches, and the
books that carriers and emergency services keep on it. -/

namespace Switchboard

structure Phone where
  id : PhoneId
  subscription : Option SubscriptionId
  /-- The technology of circuit switched calls on this phone. -/
  technology : Technology
  service : ServiceState := {}
  sim : SimState := .ready
  /-- A bit for each family of radio access that the phone has. -/
  accessFamilies : Nat := 15
  callbackMode : Bool := false
  smsMode : Bool := false
  emergencyList : List String := []
  voicemail : Option String := none
  deriving DecidableEq, Repr

instance : Inhabited Phone where
  default := { id := ⟨0⟩, subscription := none, technology := .ims }

/-- The position of a phone in the device. -/
structure Slot where
  position : Nat
  deriving DecidableEq, Repr

/-- Satellite equipment: whether satellite mode is on, and whether an emergency may end it. -/
structure SatelliteUnit where
  active : Bool := false
  yieldsToEmergency : Bool := false
  deriving DecidableEq, Repr, Inhabited

structure Device where
  phones : List Phone := []
  /-- When given, the other phones are hidden from the registry. -/
  listed : Option (List PhoneId) := none
  defaultVoice : Option PhoneId := none
  defaultData : Option PhoneId := none
  defaultPhone : PhoneId := ⟨0⟩
  maxActive : Nat := 1
  tty : Bool := false
  airplane : Bool := false
  satellite : Option SatelliteUnit := none
  carriers : CarrierBook := {}
  emergencyNumbers : EmergencyNumbers := {}
  hasSelector : Bool := false
  deriving Repr, Inhabited

namespace Device

def phone (device : Device) (slot : Slot) : Phone :=
  device.phones.getD slot.position default

def slots (device : Device) : List Slot :=
  ((List.range device.phones.length).map Slot.mk).filter fun slot =>
    match device.listed with
    | none => true
    | some ids => ids.contains (device.phone slot).id

def slotOf? (device : Device) (id : PhoneId) : Option Slot :=
  device.slots.find? fun slot => (device.phone slot).id == id

def slotForSubscription? (device : Device) (subscription : SubscriptionId) : Option Slot :=
  device.slots.find? fun slot => (device.phone slot).subscription == some subscription

def carrierOf (device : Device) (subscription : Option SubscriptionId) : CarrierConfig :=
  device.carriers.configFor subscription

def satelliteActive (device : Device) : Bool :=
  device.satellite.any (·.active)

def satelliteYields (device : Device) : Bool :=
  device.satellite.any (·.yieldsToEmergency)

def isConcurrent (device : Device) : Bool :=
  1 < device.maxActive

def setService (device : Device) (slot : Slot) (service : ServiceState) : Device :=
  { device with
    phones := device.phones.modify slot.position fun phone => { phone with service } }

theorem phone_id_of_slotOf? {device : Device} {id : PhoneId} {slot : Slot}
    (found : device.slotOf? id = some slot) : (device.phone slot).id = id := by
  have kept := List.find?_some found
  simpa using kept

end Device
end Switchboard
