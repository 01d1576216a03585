import Switchboard.Exchange

/-! Work that takes time. A program acts at once, or waits for a condition up to a deadline; what
is between two waits happens without interruption. The conditions of a wait are looked at before
its deadline, so a condition that holds is never missed. -/

namespace Switchboard

structure Wait (ε β : Type) where
  ready : System ε → Option β
  channels : List Channel := []
  deadline : Option Nat := none

inductive Program (ε α : Type) : Type 1
  | done (value : α)
  | act {β : Type} (step : Act ε β) (next : β → Program ε α)
  /-- Goes on with nothing when the deadline has passed. -/
  | wait {β : Type} (wait : Wait ε β) (next : Option β → Program ε α)

namespace Program

variable {ε α β γ : Type}

def bind (program : Program ε α) (next : α → Program ε β) : Program ε β :=
  match program with
  | .done value => next value
  | .act step rest => .act step fun value => (rest value).bind next
  | .wait pause rest => .wait pause fun value => (rest value).bind next

instance : Monad (Program ε) where
  pure := .done
  bind := bind

def atOnce (step : Act ε α) : Program ε α :=
  .act step .done

theorem bind_done (program : Program ε α) : program.bind .done = program := by
  induction program with
  | done value => rfl
  | act step rest ih => simp only [bind]; congr 1; funext value; exact ih value
  | wait pause rest ih => simp only [bind]; congr 1; funext value; exact ih value

theorem bind_assoc (program : Program ε α) (first : α → Program ε β) (second : β → Program ε γ) :
    (program.bind first).bind second = program.bind fun value => (first value).bind second := by
  induction program with
  | done value => rfl
  | act step rest ih => simp only [bind]; congr 1; funext value; exact ih value
  | wait pause rest ih => simp only [bind]; congr 1; funext value; exact ih value

def system : Program ε (System ε) :=
  atOnce get

def call (id : ConnectionId) : Program ε Connection :=
  atOnce (Act.look id)

def disconnect (id : ConnectionId) (info : DisconnectInfo) : Program ε Unit :=
  atOnce (Act.setDisconnected id info)

def clock : Program ε Nat := do
  return (← system).clock

def isLive (id : ConnectionId) : Program ε Bool := do
  return (← call id).published.state.isLive

/-- Waits for a condition for so many milliseconds at most. -/
def await (ready : System ε → Option α) (channels : List Channel) (limit : Nat) :
    Program ε (Option α) := do
  let deadline := (← clock) + limit
  .wait { ready, channels, deadline := some deadline } .done

def sleep (milliseconds : Nat) : Program ε Unit := do
  let _ ← await (fun _ => (none : Option Unit)) [] milliseconds

/-- Gives up on the program when it waits at or after the deadline. -/
def before (deadline : Nat) : Program ε α → Program ε (Option α)
  | .done value => .done (some value)
  | .act step next => .act step fun value => (next value).before deadline
  | .wait pause next =>
    let ready (system : System ε) :=
      match pause.ready system with
      | some value => some (some value)
      | none => if pause.deadline.any (· ≤ system.clock) then some none else none
    let first := match pause.deadline with
      | some own => min own deadline
      | none => deadline
    .wait { ready, channels := pause.channels, deadline := some first } fun
      | some value => (next value).before deadline
      | none => .done none

def within (limit : Nat) (program : Program ε α) : Program ε (Option α) := do
  program.before ((← clock) + limit)

/-- Runs to the next wait that cannot go on yet, or to the end. -/
def advance (wiring : Wiring ε) (system : System ε) :
    Program ε Unit → Option (System ε × Option (Program ε Unit))
  | .done _ => some (system, none)
  | .act step next =>
    match step wiring system with
    | none => none
    | some (value, system) => (next value).advance wiring system
  | .wait pause next =>
    match pause.ready system with
    | some value => (next (some value)).advance wiring system
    | none =>
      if pause.deadline.any (· ≤ system.clock) then (next none).advance wiring system
      else some (system, some (.wait pause next))

def channels : Program ε α → List Channel
  | .wait pause _ => pause.channels
  | _ => []

def deadline : Program ε α → Option Nat
  | .wait pause _ => pause.deadline
  | _ => none

end Program
end Switchboard
