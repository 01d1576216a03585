import Switchboard.Device

/-! The choice of a phone. An ordinary call follows the caller's hints and then the defaults; an
emergency call ranks all slots, so that the same slots always give the same phone. -/

namespace Switchboard

/-- What the ranking of an emergency call looks at. -/
structure SlotStatus where
  phone : PhoneId
  subscription : Option SubscriptionId := none
  service : ServiceState := {}
  accessFamilies : Nat := 0
  simLocked : Bool := false
  hasSim : Bool := true
  /-- The dialed number is on the phone's own emergency list. -/
  hasNumber : Bool := false
  smsMode : Bool := false
  deriving DecidableEq, Repr

def SlotStatus.ofPhone (phone : Phone) (number : String) : SlotStatus where
  phone := phone.id
  subscription := phone.subscription
  service := phone.service
  accessFamilies := phone.accessFamilies
  simLocked := phone.sim.isLocked
  hasSim := phone.sim.isPresent && phone.subscription.isSome
  hasNumber := phone.emergencyList.contains number
  smsMode := phone.smsMode

namespace Selection

structure Defaults where
  voice : Option PhoneId
  data : Option PhoneId
  phone : PhoneId
  deriving DecidableEq, Repr

def Defaults.ofDevice (device : Device) : Defaults where
  voice := device.defaultVoice
  data := device.defaultData
  phone := device.defaultPhone

def forNormalCall (device : Device) (phone : Option PhoneId)
    (subscription : Option SubscriptionId) : Option Slot :=
  phone.bind device.slotOf?
    <|> subscription.bind device.slotForSubscription?
    <|> device.defaultVoice.bind device.slotOf?
    <|> device.slotOf? device.defaultPhone

def onesBelow : (width : Nat) → (value : Nat) → Nat
  | 0, _ => 0
  | width + 1, value => value % 2 + onesBelow width (value / 2)

/-- Smaller is better: an unlocked card, many families, high families, a card at all, and then
the number of the phone. -/
def rank (slot : SlotStatus) : List Nat :=
  [slot.simLocked.toNat, 32 - onesBelow 32 slot.accessFamilies, UInt32.size - slot.accessFamilies,
    (!slot.hasSim).toNat, slot.phone.number]

def best : List SlotStatus → Option SlotStatus
  | [] => none
  | slot :: rest =>
    match best rest with
    | none => some slot
    | some other => if rank other < rank slot then some other else some slot

def forEmergency (slots : List SlotStatus) (defaults : Defaults) : PhoneId :=
  let serving (id : Option PhoneId) : Option SlotStatus :=
    (id.bind fun id => slots.find? (·.phone == id)).filter (·.service.isInService)
  let available := slots.filter (·.service.canCallEmergency)
  let chosen :=
    slots.find? (·.smsMode)
      <|> serving defaults.voice
      <|> serving defaults.data
      <|> available.find? (·.hasNumber)
      <|> available.find? (·.service.isInService)
      <|> best (if available.isEmpty then slots else available)
  match chosen with
  | some slot => slot.phone
  | none => defaults.phone

end Selection
end Switchboard
