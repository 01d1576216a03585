/-! Identifiers. Connections, conferences and legs are numbered in the order in which they come
into being; an identifier that was given out elsewhere is kept as the 128-bit value it stands
for. Phones and subscriptions are numbered by the device. -/

namespace Switchboard

inductive ConnectionId
  | issued (serial : Nat)
  | outsider (value : Nat)
  deriving DecidableEq, Repr

inductive ConferenceId
  | formed (serial : Nat)
  | outsider (value : Nat)
  deriving DecidableEq, Repr

structure LegId where
  serial : Nat
  deriving DecidableEq, Repr

/-- A SIM slot together with its radio. -/
structure PhoneId where
  number : Nat
  deriving DecidableEq, Repr

structure SubscriptionId where
  number : Int
  deriving DecidableEq, Repr

def hexDigit (digit : Nat) : Char :=
  if digit < 10 then Char.ofNat (48 + digit) else Char.ofNat (87 + digit)

def hexDigits : (width : Nat) → (value : Nat) → List Char
  | 0, _ => []
  | width + 1, value => hexDigits width (value / 16) ++ [hexDigit (value % 16)]

theorem hexDigits_length (width value : Nat) : (hexDigits width value).length = width := by
  induction width generalizing value with
  | zero => rfl
  | succ width ih => simp [hexDigits, ih]

/-- A 128-bit value in groups of eight, four, four, four and twelve digits. -/
def uniqueText (value : Nat) : String :=
  let digits := hexDigits 32 value
  let group (start length : Nat) := (digits.drop start).take length
  String.ofList
    (group 0 8 ++ '-' :: group 8 4 ++ '-' :: group 12 4 ++ '-' :: group 16 4 ++ '-' :: group 20 12)

def ConnectionId.text : ConnectionId → String
  | .issued serial => "c" ++ toString serial
  | .outsider value => "conn-" ++ uniqueText value

def ConferenceId.text : ConferenceId → String
  | .formed serial => "f" ++ toString serial
  | .outsider value => "conf-" ++ uniqueText value

def LegId.text (leg : LegId) : String :=
  "r" ++ toString leg.serial

def PhoneId.text (phone : PhoneId) : String :=
  "phone" ++ toString phone.number

def SubscriptionId.text (subscription : SubscriptionId) : String :=
  "sub" ++ toString subscription.number

end Switchboard
