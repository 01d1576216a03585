import Switchboard.Proofs.TaskSteps
import Switchboard.Proofs.Entering

/-! The trace of a run: the systems before and after each step, oldest first. Every step is a step
of a task or what happens at an occasion, and between steps nothing changes but that signals have
been seen (`Reaches`). So whatever these steps keep holds at every point of a run; the books of the
exchange are an example. -/

namespace Switchboard

variable {rounds : Nat} {start before after last : System Chronicle}

/-- Steps, each as the systems before and after it. -/
abbrev Trace := List (System Chronicle × System Chronicle)

namespace Office

/-- The steps that are taken at an occasion. -/
def steps (rounds : Nat) (office : Office) (occasion : Occasion) : Trace :=
  let wiring := Wiring.level Bystanders.silent rounds
  match occasion with
  | .start _ => []
  | .resume position =>
    match office.tasks[position]? with
    | none => []
    | some task => task.moments wiring office.system
  | _ =>
    match occasion.act wiring office.system with
    | none => []
    | some outcome => [(office.system, outcome.2)]

/-- The steps that are taken in a run. -/
def trace (rounds : Nat) : List Occasion → Office → Trace
  | [], _ => []
  | occasion :: rest, office =>
    office.steps rounds occasion ++
      match office.step rounds occasion with
      | none => []
      | some next => next.trace rounds rest

def Busy (rounds : Nat) (office : Office) : Prop :=
  ∀ task ∈ office.tasks, ∀ system,
    task.TakesOnly (.level .silent rounds) (TaskStep fun _ => True) system

end Office

/-- A single step: a task takes one, or something happens at an occasion. -/
inductive Happens (rounds : Nat) (before after : System Chronicle) : Prop
  | taskStep {β : Type} {step : Act Chronicle β} {value : β}
    (taskStep : TaskStep (fun _ => True) before step)
    (run : step (.level .silent rounds) before = some (value, after))
  | world (occasion : Occasion)
    (run : occasion.act (.level .silent rounds) before = some ((), after))

/-- The steps lead from one system to another. -/
inductive Reaches (rounds : Nat) (start : System Chronicle) : Trace → System Chronicle → Prop
  | refl : Reaches rounds start [] start
  | step {past : Trace} {before after : System Chronicle}
    (reaches : Reaches rounds start past before)
    (happens : Happens rounds before after) : Reaches rounds start (past ++ [(before, after)]) after
  | absorb {past : Trace} {before : System Chronicle} (reaches : Reaches rounds start past before) :
    Reaches rounds start past { before with signals := [] }

namespace Reaches

theorem sofar {trace past rest : Trace} (reaches : Reaches rounds start trace last)
    (split : trace = past ++ (before, after) :: rest) :
    Reaches rounds start past before ∧ Happens rounds before after := by
  induction reaches generalizing rest with
  | refl => exact absurd split.symm (by simp)
  | absorb reaches ih => exact ih split
  | @step sofar here next reaches happens ih =>
    rcases List.eq_nil_or_concat rest with rfl | ⟨rest, final, rfl⟩
    · obtain ⟨rfl, same⟩ := List.append_inj' split rfl
      cases same
      exact ⟨reaches, happens⟩
    · have longer : sofar ++ [(here, next)] = (past ++ (before, after) :: rest) ++ [final] := by
        simpa using split
      obtain ⟨same, -⟩ := List.append_inj' longer rfl
      exact ih same

end Reaches

namespace Program

theorem TakesOnly.advance {program : Program Chronicle Unit} {past : Trace}
    (takesOnly : program.TakesOnly (.level .silent rounds) (TaskStep fun _ => True) before)
    (reaches : Reaches rounds start past before) {left : Option (Program Chronicle Unit)}
    (moved : program.advance (.level .silent rounds) before = some (after, left)) :
    Reaches rounds start (past ++ program.moments (.level .silent rounds) before) after ∧
      ∀ work, left = some work → ∀ system,
        work.TakesOnly (.level .silent rounds) (TaskStep fun _ => True) system := by
  induction program generalizing past before with
  | done value =>
    cases moved
    rw [moments, List.append_nil]
    exact ⟨reaches, fun work same => by cases same⟩
  | act step next ih =>
    rw [Program.advance] at moved
    rw [moments]
    cases run : step (.level .silent rounds) before with
    | none =>
      rw [run] at moved
      cases moved
    | some outcome =>
      obtain ⟨value, middle⟩ := outcome
      rw [run] at moved
      have onward := reaches.step (.taskStep takesOnly.1 run)
      obtain ⟨reaches, goes⟩ := ih value (takesOnly.2 value middle run) onward moved
      rw [List.append_assoc] at reaches
      exact ⟨reaches, goes⟩
  | wait pause next ih =>
    rw [Program.advance] at moved
    rw [moments]
    cases ready : pause.ready before with
    | some value =>
      rw [ready] at moved
      exact ih (some value) (takesOnly (some value) before) reaches moved
    | none =>
      rw [ready] at moved
      dsimp only at moved ⊢
      split at moved
      · rename_i late
        rw [if_pos late]
        exact ih none (takesOnly none before) reaches moved
      · rename_i waits
        rw [if_neg waits, List.append_nil]
        cases moved
        exact ⟨reaches, fun work same system => by cases same; exact takesOnly⟩

end Program

namespace Office

variable {office next : Office} {past : Trace}

theorem Busy.absorb (busy : office.Busy rounds) : office.absorb.Busy rounds := by
  intro task among system
  rcases List.mem_append.mp among with old | new
  · exact busy task old system
  · obtain ⟨work, -, rfl⟩ := List.mem_map.mp new
    exact work.takesOnly _ system

theorem Busy.resume (busy : office.Busy rounds) (reaches : Reaches rounds start past office.system)
    {position : Nat} (moved : office.resume (.level .silent rounds) position = some next) :
    Reaches rounds start (past ++ office.steps rounds (.resume position)) next.system ∧
      next.Busy rounds := by
  rw [Office.resume] at moved
  rw [steps]
  cases found : office.tasks[position]? with
  | none =>
    rw [found] at moved
    cases moved
    rw [List.append_nil]
    exact ⟨reaches, busy⟩
  | some task =>
    rw [found] at moved
    obtain ⟨⟨system, left⟩, advanced, rfl⟩ := Option.map_eq_some_iff.mp moved
    obtain ⟨reaches, goes⟩ := (busy task (List.mem_of_getElem? found) _).advance reaches advanced
    refine ⟨reaches, fun other among now => ?_⟩
    rcases List.mem_append.mp among with old | own
    · exact busy other (List.mem_of_mem_eraseIdx old) now
    · exact goes other (Option.mem_toList.mp own) now

theorem Busy.step (busy : office.Busy rounds) (reaches : Reaches rounds start past office.system)
    {occasion : Occasion} (moved : office.step rounds occasion = some next) :
    Reaches rounds start (past ++ office.steps rounds occasion) next.system ∧ next.Busy rounds := by
  unfold Office.step at moved
  obtain ⟨middle, happened, rfl⟩ := Option.map_eq_some_iff.mp moved
  suffices Reaches rounds start (past ++ office.steps rounds occasion) middle.system ∧
      middle.Busy rounds from ⟨this.1.absorb, this.2.absorb⟩
  cases occasion with
  | start operation =>
    cases happened
    rw [steps, List.append_nil]
    refine ⟨reaches, fun task among system => ?_⟩
    rcases List.mem_append.mp among with old | own
    · exact busy task old system
    · rw [List.mem_singleton.mp own]
      exact operation.takesOnly _ system
  | resume position => exact busy.resume reaches happened
  | _ =>
    obtain ⟨⟨value, system⟩, run, rfl⟩ := Option.map_eq_some_iff.mp happened
    unfold steps
    dsimp only
    rw [run]
    exact ⟨reaches.step (.world _ run), busy⟩

/-- The trace of a run leads to the system that the run ends in. -/
theorem Busy.run (busy : office.Busy rounds) (reaches : Reaches rounds start past office.system)
    {occasions : List Occasion} (reached : office.run rounds occasions = some next) :
    Reaches rounds start (past ++ office.trace rounds occasions) next.system ∧ next.Busy rounds :=
      by
  induction occasions generalizing office past with
  | nil =>
    cases reached
    rw [trace, List.append_nil]
    exact ⟨reaches, busy⟩
  | cons occasion rest ih =>
    rw [run_cons] at reached
    obtain ⟨middle, moved, reached⟩ := Option.bind_eq_some_iff.mp reached
    obtain ⟨sofar, still⟩ := busy.step reaches moved
    rw [trace, moved, ← List.append_assoc]
    exact ih still sofar reached

theorem reaches_trace {settings : Settings} {device : Device} {occasions : List Occasion}
    (reached : (opening settings device).run rounds occasions = some office) :
    Reaches rounds (opening settings device).system
      ((opening settings device).trace rounds occasions)
      office.system := by
  have idle : (opening settings device).Busy rounds := nofun
  exact (idle.run .refl reached).1

end Office
end Switchboard
