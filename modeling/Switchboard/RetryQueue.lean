import Switchboard.Identity

/-! The order in which an emergency call tries the phones. The queue starts in slot order; a
phone that failed for now goes to the back, one that failed for good leaves. In one round each
phone is tried once at most, and the rounds are counted. -/

namespace Switchboard

structure RetryQueue where
  owner : ConnectionId
  queue : List PhoneId
  attempted : List PhoneId
  round : Nat := 1
  maxRounds : Nat
  deriving DecidableEq, Repr

namespace RetryQueue

/-- The sequence of a connection whose first attempt ran on `first`. -/
def start (owner : ConnectionId) (phones : List PhoneId) (first : PhoneId) (rounds : Nat) :
    RetryQueue where
  owner
  queue := phones
  attempted := [first]
  maxRounds := max rounds 1

def isFor (retry : RetryQueue) (ownerExists : Bool) (connection : ConnectionId) : Bool :=
  retry.owner == connection && ownerExists

def recordFailure (retry : RetryQueue) (phone : PhoneId) (permanent : Bool) : RetryQueue :=
  let others := retry.queue.filter (· != phone)
  { retry with
    attempted := phone :: retry.attempted
    queue := if permanent then others else others ++ [phone] }

def untried (retry : RetryQueue) : Option PhoneId :=
  retry.queue.find? fun phone => !retry.attempted.contains phone

def take (retry : RetryQueue) (phone : PhoneId) : RetryQueue :=
  { retry with attempted := phone :: retry.attempted }

/-- The next phone, if need be in a new round; none when every round is spent. -/
def next (retry : RetryQueue) : Option PhoneId × RetryQueue :=
  match retry.untried with
  | some phone => (some phone, retry.take phone)
  | none =>
    if retry.round < retry.maxRounds ∧ !retry.queue.isEmpty then
      let again := { retry with round := retry.round + 1, attempted := [] }
      match again.untried with
      | some phone => (some phone, again.take phone)
      | none => (none, again)
    else (none, retry)

theorem recordFailure_permanent (retry : RetryQueue) (phone : PhoneId) :
    phone ∉ (retry.recordFailure phone true).queue := by
  simp [recordFailure]

end RetryQueue
end Switchboard
