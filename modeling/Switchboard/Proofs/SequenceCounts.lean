import Switchboard.Proofs.Agreement
import Switchboard.Proofs.SelectorRequests

/-! Counts of selector sequences. A step starts a sequence, finishes the one that is active, or
leaves it alone (`System.Engages`); when another call's takes its place, it is cancelled with the
same step. So of all that have been started each has been cancelled, or finished, or is active
still: `Office.sequences_wound_up`. -/

namespace Switchboard

variable {rounds : Nat} {start last before after system : System Chronicle}
    {id owner : ConnectionId}
  {more : Trace}

namespace System

/-- How often the selector has been told to cancel a sequence. -/
def cancellations (system : System Chronicle) : Nat := system.calls.count .cancelSelection

/-- How often the selector has been told that a sequence is finished. -/
def finishes (system : System Chronicle) : Nat := system.calls.count .finishSelection

def running (system : System Chronicle) : Nat := system.registry.session.active.toList.length

def Starts (before after : System Chronicle) : Prop :=
  after.registry.session.active.isSome = true ∧
    after.registry.session.active ≠ before.registry.session.active

instance (before after : System Chronicle) : Decidable (before.Starts after) :=
  inferInstanceAs (Decidable (_ ∧ _))

/-- What a step comes to for the selector. -/
inductive Engages (before : System Chronicle) : System Chronicle → Prop
  | winds {after : System Chronicle} (winds : before.Winds after) : Engages before after
  | starts {id : ConnectionId} (fresh : before.registry.session.active ≠ some id) :
    Engages before (before.starting id)

theorem starting_own (own : before.registry.session.active = some id) :
    before.starting id = before := by
  have same : ⟨some id⟩ = before.registry.session := congrArg SelectionSession.mk own.symm
  have again : before.registry.session.start id = (false, before.registry.session) := by
    rw [SelectionSession.start, same, own]
    simp
  rw [starting, again]
  rfl

theorem calls_starting (fresh : before.registry.session.active ≠ some id) :
    (before.starting id).calls = if before.registry.session.active.isSome
      then .cancelSelection :: before.calls else before.calls := by
  rw [calls, starting, SelectionSession.start]
  cases active : before.registry.session.active with
  | none => rfl
  | some owner =>
    have differ : owner ≠ id := fun same => fresh (active.trans (congrArg some same))
    simp [calls, differ]

theorem Turn.engages (turn : before.Turn after) : before.Engages after := by
  cases turn with
  | dropsCleanly dropsCleanly _ => exact .winds dropsCleanly.winds
  | retries | alters => exact .winds (.inl ⟨rfl, rfl⟩)
  | @selects id _ _ =>
    by_cases own : before.registry.session.active = some id
    · rw [starting_own own]
      exact .winds (.inl ⟨rfl, rfl⟩)
    · exact .starts own
  | @enters bound call plans role middle _ _ _ _ tracked _ introduced _ _ =>
    have joined : before.Winds (before.joined call plans) := .inl ⟨rfl, rfl⟩
    have told : middle.Winds (middle.introduced (.issued before.connections.length) role) :=
      .inl ⟨rfl, rfl⟩
    exact .winds (((joined.trans tracked.winds).trans told).trans introduced.winds)

namespace Engages

variable (engages : before.Engages after)
include engages

theorem starts_iff : before.Starts after ↔
    ∃ id, before.registry.session.active ≠ some id ∧ after = before.starting id := by
  constructor
  · rintro ⟨some, differ⟩
    cases engages with
    | winds winds =>
      rcases winds with ⟨same, -⟩ | ⟨-, none, -⟩
      · exact absurd (congrArg (·.active) same) differ
      · rw [none] at some
        cases some
    | @starts id fresh => exact ⟨id, fresh, rfl⟩
  · rintro ⟨id, fresh, rfl⟩
    exact ⟨rfl, fresh.symm⟩

theorem closes : after.cancellations + after.finishes + after.running =
    before.cancellations + before.finishes + before.running +
      if before.Starts after then 1 else 0 := by
  cases engages with
  | winds winds =>
    rcases winds with ⟨session, calls⟩ | ⟨active, none, calls⟩
    · have still : ¬ before.Starts after := fun starts => starts.2 (congrArg (·.active) session)
      rw [if_neg still, cancellations, finishes, running, session, calls]
      rfl
    · have still : ¬ before.Starts after := fun starts => by simp [Starts, none] at starts
      obtain ⟨owner, active⟩ := Option.isSome_iff_exists.mp active
      simp [still, cancellations, finishes, running, active, none, calls]
      omega
  | @starts id fresh =>
    have now : (before.starting id).registry.session.active = some id := rfl
    have begun : before.Starts (before.starting id) := ⟨rfl, fresh.symm⟩
    have calls := calls_starting fresh
    cases active : before.registry.session.active with
    | none =>
      rw [active] at calls
      simp [begun, cancellations, finishes, running, active, now, calls]
    | some owner =>
      rw [active] at calls
      simp [begun, cancellations, finishes, running, active, now, calls]
      omega

theorem cancels (more : after.cancellations ≠ before.cancellations) :
    ∃ owner id, owner ≠ id ∧ before.registry.session.active = some owner ∧
      after.registry.session.active = some id := by
  cases engages with
  | winds winds =>
    refine absurd ?_ more
    rcases winds with ⟨-, calls⟩ | ⟨-, -, calls⟩ <;> simp [cancellations, calls]
  | @starts id fresh =>
    cases active : before.registry.session.active with
    | none => simp [cancellations, calls_starting fresh, active] at more
    | some owner =>
      exact ⟨owner, id, fun same => fresh (active.trans (congrArg some same)), rfl, rfl⟩

end Engages
end System

/-- How many sequences have been started. -/
def Trace.started (trace : Trace) : Nat :=
  trace.countP fun step => decide (step.1.Starts step.2)

theorem Reaches.closes (reaches : Reaches rounds start more last) (turns : more.Turns) :
    last.cancellations + last.finishes + last.running =
      start.cancellations + start.finishes + start.running + more.started := by
  induction reaches with
  | refl => rfl
  | absorb _ ih => exact ih turns
  | @step past before after reaches happens ih =>
    have earlier := ih fun step among => turns step (List.mem_append_left _ among)
    have here := turns _ (List.mem_append_right past (List.mem_singleton_self (before, after)))
    have closes : after.cancellations + after.finishes + after.running =
        before.cancellations + before.finishes + before.running +
          if before.Starts after then 1 else 0 := here.engages.closes
    simp only [Trace.started, List.countP_append, List.countP_singleton] at earlier ⊢
    simp only [decide_eq_true_eq]
    omega

namespace Office

variable {settings : Settings} {device : Device} {occasions : List Occasion} {office : Office}

/-- Whatever is asked of the exchange and whatever happens, there are as many sequences as have been
cancelled, finished or are active. One starts when a call begins that is not the active one's owner;
it is cancelled only for another call's sake, and none is active when nobody is registered. -/
theorem sequences_wound_up
    (reached : (opening settings device).run rounds occasions = some office)
    (fixed : ((opening settings device).trace rounds occasions).KeepsSelector) :
    let trace := (opening settings device).trace rounds occasions
    trace.started = office.system.cancellations + office.system.finishes +
        (if office.system.registry.session.active.isSome then 1 else 0) ∧
      (∀ step ∈ trace, step.1.Starts step.2 ↔
        ∃ id, step.1.registry.session.active ≠ some id ∧ step.2 = step.1.starting id) ∧
      (∀ step ∈ trace, step.2.cancellations ≠ step.1.cancellations → ∃ owner id, owner ≠ id ∧
        step.1.registry.session.active = some owner ∧ step.2.registry.session.active = some id) ∧
      (office.system.registry.connections = [] → office.system.registry.session.active = none) := by
  intro trace
  have reaches := reaches_trace reached
  have turns : trace.Turns := Office.turns reached
  have opening := System.Consistent.opening settings device
  have consistent := opening.reaches reaches turns fixed
  refine ⟨?_, fun step among => (turns step among).engages.starts_iff,
    fun step among => (turns step among).engages.cancels, fun nobody => ?_⟩
  · have closes := reaches.closes turns
    have none : (Office.opening settings device).system.cancellations +
        (Office.opening settings device).system.finishes +
        (Office.opening settings device).system.running = 0 := rfl
    rw [none, Nat.zero_add] at closes
    rw [← closes, System.running]
    cases office.system.registry.session.active <;> rfl
  · cases active : office.system.registry.session.active with
    | none => rfl
    | some id =>
      have listed := List.contains_iff_mem.mp (consistent.session active).1
      rw [nobody] at listed
      cases listed

/-- An emergency call is placed while a domain is being selected for another, and both are hung
up. -/
def relayed : List Occasion := [
  .start (.place { address := "911" }),
  .resume 0,
  .start (.place { address := "911" }),
  .resume 1,
  .start (.hangup (.issued 0)),
  .resume 2,
  .start (.hangup (.issued 1)),
  .resume 2]

/-- Of the two sequences one is cancelled, and the other finished. -/
theorem relayed_wound_up : ∃ office, (opening {} guidedPhone).run 20 relayed = some office ∧
    ((opening {} guidedPhone).trace 20 relayed).started = 2 ∧ office.system.cancellations = 1 ∧
    office.system.finishes = 1 ∧ office.system.registry.connections = [] ∧
    office.system.registry.session.active = none := by
  have runs : ((opening {} guidedPhone).run 20 relayed).any (fun office => decide (
      office.system.cancellations = 1 ∧ office.system.registry.connections = [])) = true := by
    decide +kernel
  have fixed : ((opening {} guidedPhone).trace 20 relayed).KeepsSelector := by decide +kernel
  have started : ((opening {} guidedPhone).trace 20 relayed).started = 2 := by decide +kernel
  obtain ⟨office, reached, shown⟩ := (Option.any_eq_true _ _).mp runs
  obtain ⟨cancelled, nobody⟩ := of_decide_eq_true shown
  obtain ⟨closes, -, -, idle⟩ := sequences_wound_up reached fixed
  have finished : office.system.finishes = 1 := by
    rw [started, cancelled, idle nobody] at closes
    simp only [Option.isSome_none, Bool.false_eq_true, if_false] at closes
    omega
  exact ⟨office, reached, started, cancelled, finished, nobody, idle nobody⟩

end Office
end Switchboard
