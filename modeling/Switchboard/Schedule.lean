import Switchboard.Program

/-! Many programs, one thread. A task runs until it has to wait; tasks that can go on are queued,
first come first served, but a task in front gives way to all others. Time moves only when nothing
can go on and somebody in front waits for it; then it jumps to the next deadline. -/

namespace Switchboard

structure Task (ε : Type) : Type 1 where
  /-- Time may move for this task. -/
  inFront : Bool := false
  program : Program ε Unit

structure Schedule (ε : Type) : Type 1 where
  system : System ε
  queue : List (Task ε) := []
  /-- Waiting tasks, in the order in which they came to wait. -/
  waiting : List (Task ε) := []

namespace Schedule

variable {ε : Type}

def enqueue (schedule : Schedule ε) (tasks : List (Task ε)) : Schedule ε :=
  { schedule with queue := schedule.queue ++ tasks }

def giveWay (schedule : Schedule ε) : Schedule ε :=
  { schedule with
    queue := schedule.queue.filter (!·.inFront) ++ schedule.queue.filter (·.inFront) }

theorem mem_giveWay {schedule : Schedule ε} {task : Task ε} :
    task ∈ schedule.giveWay.queue ↔ task ∈ schedule.queue := by
  cases h : task.inFront <;> simp [giveWay, h]

def wake (schedule : Schedule ε) (isDue : Task ε → Bool) : Schedule ε :=
  { schedule with
    queue := schedule.queue ++ schedule.waiting.filter isDue
    waiting := schedule.waiting.filter fun task => !isDue task }

def absorb (work : FollowUp → Program ε Unit) (schedule : Schedule ε) : Schedule ε :=
  let signals := schedule.system.signals
  signals.foldl
    (fun schedule signal =>
      match signal with
      | .changed channel => schedule.wake fun task => task.program.channels.contains channel
      | .follow item => schedule.enqueue [{ program := work item }])
    { schedule with system := { schedule.system with signals := [] } }

def step (wiring : Wiring ε) (work : FollowUp → Program ε Unit) (schedule : Schedule ε) :
    Option (Schedule ε) :=
  match schedule.queue with
  | [] => some schedule
  | task :: queue =>
    match task.program.advance wiring schedule.system with
    | none => none
    | some (system, rest) =>
      let waiting := match rest with
        | none => schedule.waiting
        | some program => schedule.waiting ++ [{ task with program }]
      some (absorb work { system, queue, waiting }).giveWay

/-- Runs until every task waits. -/
def settle (wiring : Wiring ε) (work : FollowUp → Program ε Unit) :
    (rounds : Nat) → Schedule ε → Option (Schedule ε)
  | 0, _ => none
  | rounds + 1, schedule =>
    if schedule.queue.isEmpty then some schedule
    else
      match schedule.step wiring work with
      | none => none
      | some schedule => settle wiring work rounds schedule

def nextDeadline? (schedule : Schedule ε) : Option Nat :=
  (schedule.waiting.filterMap (·.program.deadline)).min?

/-- Lets time jump to the next deadline; nothing if there is none. -/
def tick (schedule : Schedule ε) : Option (Schedule ε) :=
  schedule.nextDeadline?.map fun deadline =>
    let clock := max schedule.system.clock deadline
    { schedule with system := { schedule.system with clock } }.wake fun task =>
      task.program.deadline.any (· ≤ clock)

theorem clock_le_of_tick {schedule next : Schedule ε} (ticks : schedule.tick = some next) :
    schedule.system.clock ≤ next.system.clock := by
  simp only [tick, Option.map_eq_some_iff] at ticks
  obtain ⟨deadline, _, rfl⟩ := ticks
  exact Nat.le_max_left ..

def runFront (wiring : Wiring ε) (work : FollowUp → Program ε Unit) :
    (rounds : Nat) → Schedule ε → Option (Schedule ε)
  | 0, _ => none
  | rounds + 1, schedule =>
    if !(schedule.queue.any (·.inFront) || schedule.waiting.any (·.inFront)) then some schedule
    else
      match if schedule.queue.isEmpty then schedule.tick else schedule.step wiring work with
      | none => none
      | some schedule => runFront wiring work rounds schedule

/-- Runs a program in front, and then whatever can go on without time. -/
def run (wiring : Wiring ε) (work : FollowUp → Program ε Unit) (rounds : Nat)
    (schedule : Schedule ε) (program : Program ε Unit) : Option (Schedule ε) :=
  (runFront wiring work rounds (schedule.enqueue [{ inFront := true, program }])).bind
    (settle wiring work rounds)

end Schedule
end Switchboard
