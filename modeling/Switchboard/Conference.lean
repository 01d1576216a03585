import Switchboard.Connection

/-! Conferences group the connections of one multiparty call. Each technology has at most one at
a time at a desk; `ConferenceSlots` says which. -/

namespace Switchboard

structure Conference where
  technology : Technology
  members : List ConnectionId
  holdAllowed : Bool := false
  removed : Bool := false
  deriving DecidableEq, Repr

instance : Inhabited Conference where
  default := { technology := .ims, members := [], removed := true }

structure ConferenceSlots where
  gsm : Option ConferenceId := none
  cdma : Option ConferenceId := none
  ims : Option ConferenceId := none
  satellite : Option ConferenceId := none
  deriving DecidableEq, Repr, Inhabited

namespace ConferenceSlots

def get (slots : ConferenceSlots) : Technology → Option ConferenceId
  | .gsm => slots.gsm
  | .cdma => slots.cdma
  | .ims => slots.ims
  | .satellite => slots.satellite

def set (slots : ConferenceSlots) (technology : Technology) (conference : Option ConferenceId) :
    ConferenceSlots :=
  match technology with
  | .gsm => { slots with gsm := conference }
  | .cdma => { slots with cdma := conference }
  | .ims => { slots with ims := conference }
  | .satellite => { slots with satellite := conference }

def all (slots : ConferenceSlots) : List ConferenceId :=
  [slots.gsm, slots.cdma, slots.ims, slots.satellite].filterMap id

theorem get_set (slots : ConferenceSlots) (technology other : Technology)
    (conference : Option ConferenceId) :
    (slots.set technology conference).get other =
      if other = technology then conference else slots.get other := by
  cases technology <;> cases other <;> rfl

end ConferenceSlots

inductive ConferenceChange
  | created (conference : ConferenceId)
  | membersChanged (conference : ConferenceId)
  | removed (conference : ConferenceId)
  deriving DecidableEq, Repr

def ConferenceChange.conference : ConferenceChange → ConferenceId
  | .created conference | .membersChanged conference | .removed conference => conference

/-- What the verdict on holding is about. -/
inductive Holdable
  | connection (id : ConnectionId)
  | conference (id : ConferenceId)
  deriving DecidableEq, Repr

end Switchboard
