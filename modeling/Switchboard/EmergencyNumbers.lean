import Switchboard.Identity
import Switchboard.Named

/-! Which numbers are emergency numbers, and how each phone has to dial them. -/

namespace Switchboard

inductive EmergencyRouting
  | normal
  /-- Dialed with emergency signaling. -/
  | emergency
  | unknown
  deriving DecidableEq, Repr

instance : Named EmergencyRouting where
  all := [.normal, .emergency, .unknown]
  name
    | .normal => "Normal"
    | .emergency => "Emergency"
    | .unknown => "Unknown"

structure EmergencyNumbers where
  numbers : List String := []
  testNumbers : List String := []
  /-- Numbers that a phone routes in its own way, the newest entry first. -/
  routes : List ((String × PhoneId) × EmergencyRouting) := []
  deriving Repr, Inhabited

namespace EmergencyNumbers

def withRoute (plan : EmergencyNumbers) (number : String) (phone : PhoneId)
    (routing : EmergencyRouting) : EmergencyNumbers :=
  { plan with routes := ((number, phone), routing) :: plan.routes }

def isEmergency (plan : EmergencyNumbers) (number : String) : Bool :=
  plan.numbers.contains number

def isTest (plan : EmergencyNumbers) (number : String) : Bool :=
  plan.testNumbers.contains number

def routingFor (plan : EmergencyNumbers) (number : String) (phone : PhoneId) : EmergencyRouting :=
  (plan.routes.lookup (number, phone)).getD
    (if plan.isEmergency number || plan.isTest number then .emergency else .unknown)

theorem routingFor_withRoute_self (plan : EmergencyNumbers) (number : String) (phone : PhoneId)
    (routing : EmergencyRouting) :
    (plan.withRoute number phone routing).routingFor number phone = routing := by
  simp [routingFor, withRoute]

end EmergencyNumbers
end Switchboard
