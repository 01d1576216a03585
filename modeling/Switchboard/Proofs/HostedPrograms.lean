import Switchboard.Proofs.Interleaving

/-! A program run among the tasks of an office. While the program waits, the office takes its own
steps (`Program.hosted`). An office does the same with a program among its tasks, but loses the
answer: a run with the program as one more task hosts it, unless the program has not ended by then
(`Office.run_beside`), and every hosting is such a run (`Office.hosted_run`). -/

namespace Switchboard

variable {rounds : Nat} {α β : Type}

def Wait.isOver (pause : Wait Chronicle β) (system : System Chronicle) : Bool :=
  (pause.ready system).isSome || pause.deadline.any (· ≤ system.clock)

namespace Program

/-- A program up to its end, with what happens at the office at each of its waits. -/
def hosted (rounds : Nat) :
    Program Chronicle α → Office → List (List Occasion) → Option (History × α × Office)
  | .done value, office, _ => some ([], value, office)
  | .act step next, office, parts =>
    (step (.level .silent rounds) office.system).bind fun (value, after) =>
      ((next value).hosted rounds { office with system := after } parts).map
        fun (history, outcome) =>
        (⟨true, office.system, after⟩ :: history, outcome)
  | .wait pause next, office, parts =>
    if pause.isOver office.system then
      (next (pause.ready office.system)).hosted rounds office parts
    else
      match parts with
      | [] => none
      | occasions :: parts =>
        (office.absorb.run rounds occasions).bind fun later =>
          if pause.isOver later.system then
            ((next (pause.ready later.system)).hosted rounds later parts).map
              fun (history, outcome) =>
              (History.of false (office.absorb.trace rounds occasions) ++ history, outcome)
          else none

/-- A program without its answer. -/
def task (program : Program Chronicle α) : Program Chronicle Unit := do
  let _ ← program

/-- The program does not wait. -/
def goes : Program Chronicle α → System Chronicle → Bool
  | .wait pause _, system => pause.isOver system
  | _, _ => true

section

variable {pause : Wait Chronicle β} {next : Option β → Program Chronicle Unit}
  {wiring : Wiring Chronicle} {system : System Chronicle}

theorem advance_over (lapsed : pause.isOver system = true) :
    (Program.wait pause next).advance wiring system =
        (next (pause.ready system)).advance wiring system ∧
      (Program.wait pause next).moments wiring system =
        (next (pause.ready system)).moments wiring system := by
  rw [advance, moments]
  rw [Wait.isOver] at lapsed
  cases found : pause.ready system with
  | some value => exact ⟨rfl, rfl⟩
  | none =>
    rw [found, Option.isSome_none, Bool.false_or] at lapsed
    simp only [lapsed, if_true, and_self]

theorem advance_waiting (waits : pause.isOver system = false) :
    (Program.wait pause next).advance wiring system = some (system, some (.wait pause next)) ∧
      (Program.wait pause next).moments wiring system = [] := by
  rw [advance, moments]
  rw [Wait.isOver, Bool.or_eq_false_iff, Option.isSome_eq_false_iff, Option.isNone_iff_eq_none]
    at waits
  simp only [waits.1, waits.2, Bool.false_eq_true, if_false, and_self]

end

section

variable {program : Program Chronicle α} {office later : Office}

theorem hosted_over {pause : Wait Chronicle β} {next : Option β → Program Chronicle α}
    (lapsed : pause.isOver office.system = true) (parts : List (List Occasion)) :
    (Program.wait pause next).hosted rounds office parts =
      (next (pause.ready office.system)).hosted rounds office parts := by
  cases parts <;> rw [hosted, if_pos lapsed]

theorem hosted_waiting {occasions : List Occasion} (waits : program.goes office.system = false)
    (reached : office.absorb.run rounds occasions = some later)
    (goes : program.goes later.system = true) (parts : List (List Occasion)) :
    program.hosted rounds office (occasions :: parts) =
      (program.hosted rounds later parts).map fun (history, outcome) =>
        (History.of false (office.absorb.trace rounds occasions) ++ history, outcome) := by
  cases program with
  | done | act => cases waits
  | wait pause next =>
    change pause.isOver _ = _ at waits goes
    simp [hosted, waits, reached, goes, hosted_over goes]

theorem parked_of_hosted {parts : List (List Occasion)} {outcome : History × α × Office}
    (waits : program.goes office.system = false)
    (hosted : program.hosted rounds office parts = some outcome) :
    ∃ occasions rest later, parts = occasions :: rest ∧
      office.absorb.run rounds occasions = some later ∧ program.goes later.system = true := by
  cases program with
  | done | act => cases waits
  | wait pause next =>
    change pause.isOver _ = _ at waits
    cases parts with
    | nil => simp [Program.hosted, waits] at hosted
    | cons occasions rest =>
      cases reached : office.absorb.run rounds occasions with
      | none => simp [Program.hosted, waits, reached] at hosted
      | some later =>
        refine ⟨occasions, rest, later, rfl, reached, Decidable.byContradiction fun lapsed => ?_⟩
        change ¬ pause.isOver later.system = true at lapsed
        simp [Program.hosted, waits, reached, lapsed] at hosted

theorem advance_of_hosted {parts : List (List Occasion)} {outcome : History × α × Office}
    (hosted : program.hosted rounds office parts = some outcome) :
    ∃ after left,
      program.task.advance (.level .silent rounds) office.system = some (after, left) := by
  induction program generalizing office outcome with
  | done value => exact ⟨_, _, rfl⟩
  | act step next ih =>
    rw [Program.hosted] at hosted
    obtain ⟨⟨value, middle⟩, run, hosted⟩ := Option.bind_eq_some_iff.mp hosted
    obtain ⟨outcome, hosted, -⟩ := Option.map_eq_some_iff.mp hosted
    obtain ⟨after, left, moved⟩ := ih value hosted
    refine ⟨after, left, ?_⟩
    change Program.advance _ _ (.act step fun value => (next value).task) = _
    rw [advance, run]
    exact moved
  | wait pause next ih =>
    change ∃ after left, Program.advance _ _ (.wait pause fun value => (next value).task) = _
    cases lapsed : pause.isOver office.system with
    | true =>
      rw [hosted_over lapsed] at hosted
      rw [(advance_over lapsed).1]
      exact ih _ hosted
    | false => exact ⟨_, _, (advance_waiting lapsed).1⟩

theorem task_waiting (rounds : Nat) (waits : program.goes office.system = false) :
    program.task.advance (.level .silent rounds) office.system =
        some (office.system, some program.task) ∧
      program.task.moments (.level .silent rounds) office.system = [] := by
  cases program with
  | done | act => cases waits
  | wait pause next => exact advance_waiting waits

theorem task_advance {after : System Chronicle} {left : Option (Program Chronicle Unit)}
    (moved : program.task.advance (.level .silent rounds) office.system = some (after, left)) :
    ∃ history : History,
      program.task.moments (.level .silent rounds) office.system = history.steps ∧
      ((left = none ∧ ∃ value, ∀ parts, program.hosted rounds office parts =
          some (history, value, { office with system := after })) ∨
        ∃ rest : Program Chronicle α, left = some rest.task ∧ rest.goes after = false ∧
          ∀ parts, program.hosted rounds office parts =
            (rest.hosted rounds { office with system := after } parts).map fun (more, outcome) =>
              (history ++ more, outcome)) := by
  induction program generalizing office with
  | done value =>
    cases moved
    exact ⟨[], rfl, .inl ⟨rfl, value, fun _ => rfl⟩⟩
  | act step next ih =>
    change Program.advance _ _ (.act step fun value => (next value).task) = _ at moved
    rw [advance] at moved
    cases run : step (.level .silent rounds) office.system with
    | none =>
      rw [run] at moved
      cases moved
    | some outcome =>
      obtain ⟨value, middle⟩ := outcome
      rw [run] at moved
      obtain ⟨history, same, ends⟩ := @ih value { office with system := middle } moved
      refine ⟨⟨true, office.system, middle⟩ :: history, ?_, ends.imp ?_ ?_⟩
      · change Program.moments _ _ (.act step fun value => (next value).task) = _
        rw [moments, run]
        exact congrArg _ same
      · rintro ⟨rfl, value, hosts⟩
        exact ⟨rfl, value, fun parts => by simp [hosted, run, hosts]⟩
      · rintro ⟨rest, rfl, waits, hosts⟩
        exact ⟨rest, rfl, waits, fun parts => by simp [hosted, run, hosts, Function.comp_def]⟩
  | wait pause next ih =>
    change Program.advance _ _ (.wait pause fun value => (next value).task) = _ at moved
    change ∃ history : History,
      Program.moments _ _ (.wait pause fun value => (next value).task) = history.steps ∧ _
    cases lapsed : pause.isOver office.system with
    | true =>
      rw [(advance_over lapsed).1] at moved
      rw [(advance_over lapsed).2]
      simpa only [hosted_over lapsed] using ih _ moved
    | false =>
      rw [(advance_waiting lapsed).1] at moved
      rw [(advance_waiting lapsed).2]
      cases moved
      exact ⟨[], rfl, .inr ⟨.wait pause next, rfl, lapsed, fun parts => by simp⟩⟩

end

end Program

theorem insertIdx_append {γ : Type*} {items more : List γ} {position : Nat} (item : γ)
    (inside : position ≤ items.length) :
    (items ++ more).insertIdx position item = items.insertIdx position item ++ more := by
  induction items generalizing position with
  | nil =>
    cases Nat.le_zero.mp inside
    rfl
  | cons head items ih =>
    cases position with
    | zero => rfl
    | succ position => exact congrArg _ (ih (Nat.le_of_succ_le_succ inside))

namespace Occasion

def around (position : Nat) : Occasion → Occasion
  | .resume other => .resume (if other < position then other else other + 1)
  | occasion => occasion

def shifts (position : Nat) : Occasion → Nat
  | .resume other => if other < position then position - 1 else position
  | _ => position

theorem around_cases (occasion : Occasion) (position : Nat) :
    occasion = .resume position ∨ ∃ other : Occasion, occasion = other.around position := by
  cases occasion with
  | resume turn =>
    rcases Nat.lt_trichotomy turn position with before | rfl | after
    · exact .inr ⟨.resume turn, by rw [around, if_pos before]⟩
    · exact .inl rfl
    · refine .inr ⟨.resume (turn - 1), ?_⟩
      rw [around, if_neg (by omega), Nat.sub_add_cancel (by omega)]
  | start operation => exact .inr ⟨.start operation, rfl⟩
  | ring phone view => exact .inr ⟨.ring phone view, rfl⟩
  | report leg event => exact .inr ⟨.report leg event, rfl⟩
  | reportLate leg event => exact .inr ⟨.reportLate leg event, rfl⟩
  | grant ticket view => exact .inr ⟨.grant ticket view, rfl⟩
  | reply ticket content => exact .inr ⟨.reply ticket content, rfl⟩
  | alter change => exact .inr ⟨.alter change, rfl⟩
  | pass milliseconds => exact .inr ⟨.pass milliseconds, rfl⟩
  | watch id name => exact .inr ⟨.watch id name, rfl⟩

end Occasion

namespace Office

variable {office next last later : Office} {position : Nat} {task : Program Chronicle Unit}
  {occasions : List Occasion} {program : Program Chronicle α}

def beside (office : Office) (position : Nat) (task : Program Chronicle Unit) : Office :=
  { office with tasks := office.tasks.insertIdx position task }

theorem absorb_beside (office : Office) (inside : position ≤ office.tasks.length) :
    (office.beside position task).absorb = office.absorb.beside position task := by
  simp [beside, absorb, insertIdx_append, inside]

theorem absorb_absorb (office : Office) : office.absorb.absorb = office.absorb := by
  simp [absorb, System.works]

theorem absorb_length (office : Office) : office.tasks.length ≤ office.absorb.tasks.length := by
  rw [absorb, List.length_append]
  exact Nat.le_add_right _ _

theorem step_settled {occasion : Occasion} (stepped : office.step rounds occasion = some next) :
    next.absorb = next := by
  obtain ⟨middle, -, rfl⟩ := Option.map_eq_some_iff.mp stepped
  exact absorb_absorb middle

theorem insertIdx_around {γ : Type*} (items : List γ) (item : γ) (position turn : Nat) :
    (items.insertIdx position item)[if turn < position then turn else turn + 1]? = items[turn]? ∧
      (turn < items.length →
        (items.insertIdx position item).eraseIdx (if turn < position then turn else turn + 1) =
          (items.eraseIdx turn).insertIdx (if turn < position then position - 1 else position)
            item) := by
  split
  · rename_i before
    refine ⟨List.getElem?_insertIdx_of_lt before, fun among => ?_⟩
    rw [List.insertIdx_eraseIdx_of_ge among (by omega), Nat.sub_add_cancel (by omega)]
  · rename_i after
    have after : position ≤ turn := Nat.not_lt.mp after
    refine ⟨List.getElem?_insertIdx_of_gt (Nat.lt_succ_of_le after), fun among => ?_⟩
    rw [List.insertIdx_eraseIdx_of_le among after]

theorem step_beside (rounds : Nat) (task : Program Chronicle Unit)
    (inside : position ≤ office.tasks.length) (occasion : Occasion) :
    (office.beside position task).step rounds (occasion.around position) =
        (office.step rounds occasion).map (·.beside (occasion.shifts position) task) ∧
      (office.beside position task).steps rounds (occasion.around position) =
        office.steps rounds occasion := by
  cases occasion with
  | resume turn =>
    obtain ⟨found, taken⟩ := insertIdx_around office.tasks task position turn
    rw [Occasion.around, Occasion.shifts, step, step, steps, steps, resume, resume]
    dsimp only [beside]
    rw [found]
    cases held : office.tasks[turn]? with
    | none =>
      have late := List.getElem?_eq_none_iff.mp held
      have after : ¬ turn < position := by omega
      simp only [after, if_false]
      exact ⟨congrArg some (absorb_beside office inside), trivial⟩
    | some other =>
      have among := (List.getElem?_eq_some_iff.mp held).1
      refine ⟨?_, rfl⟩
      have within : (if turn < position then position - 1 else position) ≤
          (office.tasks.eraseIdx turn).length := by
        rw [List.length_eraseIdx_of_lt among]
        split <;> omega
      rw [taken among, Option.map_map, Option.map_map, Option.map_map]
      congr 1
      funext outcome
      rw [Function.comp_apply, Function.comp_apply, Function.comp_apply,
        ← insertIdx_append task within]
      exact absorb_beside ⟨outcome.1, office.tasks.eraseIdx turn ++ outcome.2.toList⟩
        (by rw [List.length_append]; omega)
  | start operation =>
    refine ⟨?_, rfl⟩
    change some
      (absorb ⟨office.system, office.tasks.insertIdx position task ++ [operation.program]⟩) =
      some (beside (absorb ⟨office.system, office.tasks ++ [operation.program]⟩) position task)
    rw [← absorb_beside _ (by simp; omega), beside, insertIdx_append task inside]
  | ring | report | reportLate | grant | reply | alter | pass | watch =>
    refine ⟨?_, rfl⟩
    simp only [step, Occasion.around, Occasion.shifts, Option.map_map]
    congr 1
    funext outcome
    exact absorb_beside { office with system := outcome.2 } inside

theorem shifts_inside {occasion : Occasion} (inside : position ≤ office.tasks.length)
    (stepped : office.step rounds occasion = some next) :
    occasion.shifts position ≤ next.tasks.length := by
  obtain ⟨middle, moved, rfl⟩ := Option.map_eq_some_iff.mp stepped
  suffices occasion.shifts position ≤ middle.tasks.length from
    Nat.le_trans this middle.absorb_length
  cases occasion with
  | resume turn =>
    change office.resume _ turn = some middle at moved
    rw [resume] at moved
    rw [Occasion.shifts]
    cases held : office.tasks[turn]? with
    | none =>
      have late := List.getElem?_eq_none_iff.mp held
      rw [held] at moved
      cases moved
      split <;> omega
    | some other =>
      have among := (List.getElem?_eq_some_iff.mp held).1
      rw [held] at moved
      obtain ⟨outcome, -, rfl⟩ := Option.map_eq_some_iff.mp moved
      dsimp only
      rw [List.length_append, List.length_eraseIdx_of_lt among]
      split <;> omega
  | start operation =>
    cases moved
    exact Nat.le_trans inside (by simp)
  | ring | report | reportLate | grant | reply | alter | pass | watch =>
    obtain ⟨outcome, -, rfl⟩ := Option.map_eq_some_iff.mp moved
    exact inside

theorem turn_beside (rounds : Nat) (task : Program Chronicle Unit)
    (inside : position ≤ office.tasks.length) :
    (office.beside position task).step rounds (.resume position) =
        ((task.advance (.level .silent rounds) office.system).map fun outcome =>
          absorb { system := outcome.1, tasks := office.tasks ++ outcome.2.toList }) ∧
      (office.beside position task).steps rounds (.resume position) =
        task.moments (.level .silent rounds) office.system := by
  have found : (office.tasks.insertIdx position task)[position]? = some task := by
    rw [List.getElem?_insertIdx_self, if_pos inside]
  rw [step, steps]
  dsimp only [beside]
  rw [resume]
  dsimp only
  rw [found]
  dsimp only
  rw [List.eraseIdx_insertIdx_self, Option.map_map]
  exact ⟨rfl, rfl⟩

theorem absorb_parked (after : System Chronicle) :
    absorb { system := after, tasks := office.tasks ++ [task] } =
      beside (absorb { office with system := after }) office.tasks.length task := by
  rw [← absorb_beside _ Nat.le.refl, beside, List.insertIdx_length_self]

theorem trace_cons {occasion : Occasion} (stepped : office.step rounds occasion = some next) :
    office.trace rounds (occasion :: occasions) =
      office.steps rounds occasion ++ next.trace rounds occasions := by
  rw [trace, stepped]

def Hosts (rounds : Nat) (program : Program Chronicle α) (office last : Office) (whole : Trace) :
    Prop :=
  ∃ early here parts history value there late,
    office.run rounds early = some here ∧ program.goes here.system = true ∧
      program.hosted rounds here parts = some (history, value, there) ∧
      there.absorb.run rounds late = some last ∧
      whole = office.trace rounds early ++ (history.steps ++ there.absorb.trace rounds late)

theorem Hosts.after {occasion : Occasion} {whole : Trace}
    (hosts : next.Hosts rounds program last whole)
    (stepped : office.step rounds occasion = some next) :
    office.Hosts rounds program last (office.steps rounds occasion ++ whole) := by
  obtain ⟨early, here, parts, history, value, there, late, reached, goes, hosted, ends, rfl⟩ :=
    hosts
  refine ⟨occasion :: early, here, parts, history, value, there, late, ?_, goes, hosted, ends, ?_⟩
  · rw [run_cons, stepped]
    exact reached
  · rw [trace_cons stepped, List.append_assoc]

theorem Hosts.parked {rest : Program Chronicle α} {parked : Office} {past : History} {whole : Trace}
    (hosts : parked.absorb.Hosts rounds rest last whole) (goes : program.goes office.system = true)
    (waits : rest.goes parked.system = false)
    (before : ∀ parts, program.hosted rounds office parts =
      (rest.hosted rounds parked parts).map fun (more, outcome) => (past ++ more, outcome)) :
    office.Hosts rounds program last (past.steps ++ whole) := by
  obtain ⟨early, here, parts, more, value, there, late, reached, onward, hosted, ends, rfl⟩ := hosts
  refine ⟨[], office, early :: parts,
    past ++ (History.of false (parked.absorb.trace rounds early) ++ more), value, there, late, rfl,
    goes, ?_, ends, ?_⟩
  · rw [before, Program.hosted_waiting waits reached onward, hosted]
    rfl
  · simp [trace]

/-- In a run of the office with one more task, that task has not ended, or its program has been
hosted. -/
theorem run_beside (settled : office.absorb = office) (inside : position ≤ office.tasks.length)
    (reached : (office.beside position program.task).run rounds occasions = some last) :
    (∃ (rest : Office) (position : Nat) (left : Program Chronicle α), position ≤ rest.tasks.length ∧
        last = rest.beside position left.task) ∨
      office.Hosts rounds program last
        ((office.beside position program.task).trace rounds occasions) := by
  induction occasions generalizing office position program with
  | nil =>
    cases reached
    exact .inl ⟨office, position, program, inside, rfl⟩
  | cons occasion occasions ih =>
    rw [run_cons] at reached
    obtain ⟨next, stepped, reached⟩ := Option.bind_eq_some_iff.mp reached
    rw [trace_cons stepped]
    -- either it is the turn of the task, or the office does what it would do without it
    rcases occasion.around_cases position with rfl | ⟨other, rfl⟩
    · obtain ⟨moves, moments⟩ := turn_beside rounds program.task inside
      rw [moves] at stepped
      obtain ⟨⟨after, left⟩, moved, rfl⟩ := Option.map_eq_some_iff.mp stepped
      rw [moments]
      cases goes : program.goes office.system with
      | false =>
        obtain ⟨same, none⟩ := Program.task_waiting rounds goes
        rw [same] at moved
        cases moved
        dsimp only [Option.toList_some] at reached ⊢
        rw [absorb_parked, settled] at reached ⊢
        rw [none]
        exact ih settled Nat.le.refl reached
      | true =>
        obtain ⟨history, same, ⟨rfl, value, hosts⟩ | ⟨rest, rfl, waits, hosts⟩⟩ :=
          Program.task_advance moved
        · dsimp only [Option.toList_none] at reached ⊢
          rw [List.append_nil] at reached ⊢
          rw [same]
          exact .inr ⟨[], office, [], history, value, _, occasions, rfl, goes,
            hosts _, reached, rfl⟩
        · dsimp only [Option.toList_some] at reached ⊢
          rw [absorb_parked] at reached ⊢
          rw [same]
          exact (ih (absorb_absorb _) (absorb_length _) reached).imp_right
            fun later => later.parked goes waits hosts
    · obtain ⟨moves, same⟩ := step_beside rounds program.task inside other
      rw [moves] at stepped
      obtain ⟨middle, acted, rfl⟩ := Option.map_eq_some_iff.mp stepped
      rw [same]
      exact (ih (step_settled acted) (shifts_inside inside acted) reached).imp_right
        fun hosts => hosts.after acted

theorem run_settled (settled : office.absorb = office)
    (reached : office.run rounds occasions = some last) : last.absorb = last := by
  induction occasions generalizing office with
  | nil =>
    cases reached
    exact settled
  | cons occasion occasions ih =>
    rw [run_cons] at reached
    obtain ⟨next, stepped, reached⟩ := Option.bind_eq_some_iff.mp reached
    exact ih (step_settled stepped) reached

theorem run_around (task : Program Chronicle Unit) (inside : position ≤ office.tasks.length)
    (reached : office.run rounds occasions = some last) :
    ∃ same place, place ≤ last.tasks.length ∧
      (office.beside position task).run rounds same = some (last.beside place task) ∧
      (office.beside position task).trace rounds same = office.trace rounds occasions := by
  induction occasions generalizing office position with
  | nil =>
    cases reached
    exact ⟨[], position, inside, rfl, rfl⟩
  | cons occasion occasions ih =>
    rw [run_cons] at reached
    obtain ⟨next, stepped, reached⟩ := Option.bind_eq_some_iff.mp reached
    obtain ⟨same, place, within, runs, trails⟩ := ih (shifts_inside inside stepped) reached
    obtain ⟨moves, steps⟩ := step_beside rounds task inside occasion
    rw [stepped] at moves
    refine ⟨occasion.around position :: same, place, within, ?_, ?_⟩
    · rw [run_cons, moves]
      exact runs
    · rw [trace_cons moves, steps, trails, trace_cons stepped]

theorem trace_append {earlier later : List Occasion}
    (reached : office.run rounds earlier = some next) :
    office.trace rounds (earlier ++ later) =
      office.trace rounds earlier ++ next.trace rounds later := by
  induction earlier generalizing office with
  | nil =>
    cases reached
    rfl
  | cons occasion earlier ih =>
    rw [run_cons] at reached
    obtain ⟨middle, stepped, reached⟩ := Option.bind_eq_some_iff.mp reached
    rw [List.cons_append, trace_cons stepped, trace_cons stepped, ih reached, List.append_assoc]

/-- Every hosting is a run of the office with one more task. -/
theorem hosted_run {office : Office} {program : Program Chronicle α} {position : Nat}
    {parts : List (List Occasion)} {history : History} {value : α}
    (inside : position ≤ office.tasks.length)
    (hosted : program.hosted rounds office parts = some (history, value, last)) :
    ∃ occasions, (office.beside position program.task).run rounds (.resume position :: occasions) =
        some last.absorb ∧
      (office.beside position program.task).trace rounds (.resume position :: occasions) =
        history.steps := by
  obtain ⟨after, left, moved⟩ := Program.advance_of_hosted hosted
  obtain ⟨moves, moments⟩ := turn_beside rounds program.task inside
  rw [moved] at moves
  obtain ⟨past, same, ⟨rfl, result, hosts⟩ | ⟨rest, rfl, waits, hosts⟩⟩ :=
    Program.task_advance moved
  · rw [hosts] at hosted
    cases hosted
    refine ⟨[], ?_, ?_⟩
    · rw [run_cons, moves]
      simp [run]
    · rw [trace_cons moves, moments, same, trace, List.append_nil]
  · rw [hosts] at hosted
    obtain ⟨⟨more, outcome⟩, hosted, whole⟩ := Option.map_eq_some_iff.mp hosted
    cases whole
    obtain ⟨first, later, there, split, reached, goes⟩ := Program.parked_of_hosted waits hosted
    subst split
    rw [Program.hosted_waiting waits reached goes] at hosted
    obtain ⟨⟨onward, outcome⟩, hosted, whole⟩ := Option.map_eq_some_iff.mp hosted
    cases whole
    obtain ⟨others, place, within, runs, trails⟩ :=
      run_around rest.task (absorb_length { office with system := after }) reached
    obtain ⟨occasions, ends, turns⟩ := hosted_run within hosted
    have moves : (office.beside position program.task).step rounds (.resume position) =
        some (beside (absorb { office with system := after }) office.tasks.length rest.task) := by
      rw [moves, ← absorb_parked]
      rfl
    refine ⟨others ++ .resume place :: occasions, ?_, ?_⟩
    · rw [run_cons, moves]
      exact (run_append rounds _ _ _).trans (by rw [runs]; exact ends)
    · rw [trace_cons moves, moments, same, trace_append runs, trails, turns]
      simp
  termination_by parts.length

end Office
end Switchboard
