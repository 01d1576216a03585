import Switchboard.Named

/-! The life of a call leg: it is set up, connected, possibly held, and ends exactly once. -/

namespace Switchboard

inductive Direction
  | incoming
  | outgoing
  deriving DecidableEq, Repr

inductive CallState
  /-- Created, with no leg in the network yet. -/
  | initializing
  | dialing
  | ringing
  | active
  | holding
  /-- A call on another device is being moved here. -/
  | pulling
  | disconnecting
  | disconnected
  deriving DecidableEq, Repr

instance : Named Direction where
  all := [.incoming, .outgoing]
  name
    | .incoming => "Incoming"
    | .outgoing => "Outgoing"

instance : Named CallState where
  all := [.initializing, .dialing, .ringing, .active, .holding, .pulling, .disconnecting,
    .disconnected]
  name
    | .initializing => "Initializing"
    | .dialing => "Dialing"
    | .ringing => "Ringing"
    | .active => "Active"
    | .holding => "Holding"
    | .pulling => "Pulling"
    | .disconnecting => "Disconnecting"
    | .disconnected => "Disconnected"

namespace CallState

def isLive (state : CallState) : Bool :=
  state != .disconnected

def isConnected : CallState → Bool
  | .active | .holding => true
  | _ => false

/-- The transitions that a radio may report; every state may be repeated, and every state but
the last may end the call. -/
def canBecome (now next : CallState) : Bool :=
  now == next ||
    match now, next with
    | .disconnected, _ => false
    | _, .disconnected => true
    | .initializing, .dialing | .initializing, .ringing | .initializing, .active
    | .initializing, .pulling | .initializing, .disconnecting => true
    | .dialing, .active | .dialing, .holding | .dialing, .disconnecting => true
    | .ringing, .active | .ringing, .holding | .ringing, .disconnecting => true
    | .pulling, .active | .pulling, .disconnecting => true
    | .active, .holding | .active, .disconnecting => true
    | .holding, .active | .holding, .disconnecting => true
    | _, _ => false

def text : CallState → String
  | .initializing => "INITIALIZING"
  | .dialing => "DIALING"
  | .ringing => "RINGING"
  | .active => "ACTIVE"
  | .holding => "HOLDING"
  | .pulling => "PULLING"
  | .disconnecting => "DISCONNECTING"
  | .disconnected => "DISCONNECTED"

theorem isLive_of_isConnected {state : CallState} (up : state.isConnected) : state.isLive := by
  cases state <;> simp_all [isConnected, isLive]

theorem canBecome_refl (state : CallState) : state.canBecome state := by
  cases state <;> rfl

theorem canBecome_disconnected (state : CallState) : state.canBecome .disconnected := by
  cases state <;> rfl

theorem disconnected_canBecome_iff {next : CallState} :
    CallState.disconnected.canBecome next ↔ next = .disconnected := by
  cases next <;> decide

end CallState
end Switchboard
