import Switchboard.Disconnect
import Switchboard.Identity
import Switchboard.Network

/-! The network domain of an emergency call is chosen by a selector. It serves one sequence of
requests at a time; when a connection starts its own sequence, another one's is cancelled. -/

namespace Switchboard

structure SelectionRequest where
  phone : PhoneId
  subscription : Option SubscriptionId
  address : String
  emergency : Bool := false
  video : Bool := false
  /-- The failure that asked for another domain. -/
  failure : Option (DisconnectCause × Int) := none
  deriving DecidableEq, Repr

inductive SelectionError
  /-- There is no selector to ask; calls go out circuit switched. -/
  | unavailable
  | terminal (cause : DisconnectCause)
  deriving DecidableEq, Repr

def SelectionError.text : SelectionError → String
  | .unavailable => "Domain selection unavailable"
  | .terminal cause => "Domain selection failed: " ++ cause.description

/-- The connection whose sequence is running. -/
structure SelectionSession where
  active : Option ConnectionId := none
  deriving DecidableEq, Repr, Inhabited

namespace SelectionSession

/-- Starts a sequence; the flag says whether another connection's was cancelled. -/
def start (session : SelectionSession) (connection : ConnectionId) : Bool × SelectionSession :=
  (session.active.any (· != connection), ⟨some connection⟩)

def isActiveFor (session : SelectionSession) (connection : ConnectionId) : Bool :=
  session.active == some connection

def finish (session : SelectionSession) (connection : ConnectionId) : Bool × SelectionSession :=
  if session.isActiveFor connection then (true, ⟨none⟩) else (false, session)

theorem not_isActiveFor_finish (session : SelectionSession) (connection : ConnectionId) :
    (session.finish connection).2.isActiveFor connection = false := by
  unfold finish
  split <;> simp_all [isActiveFor]

end SelectionSession
end Switchboard
