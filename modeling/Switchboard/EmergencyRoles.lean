import Switchboard.Identity
import Switchboard.Named

/-! The parts that connections play in an emergency, each played by one connection at most. -/

namespace Switchboard

inductive EmergencyRole
  | emergency
  /-- An emergency number that was dialed like any call. -/
  | normalRouting
  /-- A second emergency call while the first is still up. -/
  | alternate
  deriving DecidableEq, Repr

instance : Named EmergencyRole where
  all := [.emergency, .normalRouting, .alternate]
  name
    | .emergency => "Emergency"
    | .normalRouting => "NormalRouting"
    | .alternate => "Alternate"

structure EmergencyRoles where
  emergency : Option ConnectionId := none
  normalRouting : Option ConnectionId := none
  alternate : Option ConnectionId := none
  deriving DecidableEq, Repr, Inhabited

namespace EmergencyRoles

def holder (roles : EmergencyRoles) : EmergencyRole → Option ConnectionId
  | .emergency => roles.emergency
  | .normalRouting => roles.normalRouting
  | .alternate => roles.alternate

def setHolder (roles : EmergencyRoles) (role : EmergencyRole) (holder : Option ConnectionId) :
    EmergencyRoles :=
  match role with
  | .emergency => { roles with emergency := holder }
  | .normalRouting => { roles with normalRouting := holder }
  | .alternate => { roles with alternate := holder }

theorem holder_setHolder (roles : EmergencyRoles) (role other : EmergencyRole)
    (holder : Option ConnectionId) :
    (roles.setHolder role holder).holder other =
      if other = role then holder else roles.holder other := by
  cases role <;> cases other <;> rfl

/-- Gives the role to a connection, and says who else had it before. -/
def assign (roles : EmergencyRoles) (role : EmergencyRole) (connection : ConnectionId) :
    Option ConnectionId × EmergencyRoles :=
  ((roles.holder role).filter (· != connection), roles.setHolder role (some connection))

def rolesOf (roles : EmergencyRoles) (connection : ConnectionId) : List EmergencyRole :=
  (Named.all : List EmergencyRole).filter fun role => roles.holder role == some connection

def release (roles : EmergencyRoles) (connection : ConnectionId) :
    List EmergencyRole × EmergencyRoles :=
  let held := roles.rolesOf connection
  (held, held.foldl (fun roles role => roles.setHolder role none) roles)

def hasEmergencyCall (roles : EmergencyRoles) : Bool :=
  roles.emergency.isSome || roles.normalRouting.isSome || roles.alternate.isSome

theorem holder_assign (roles : EmergencyRoles) (role : EmergencyRole) (connection : ConnectionId) :
    (roles.assign role connection).2.holder role = some connection := by
  simp [assign, holder_setHolder]

end EmergencyRoles
end Switchboard
