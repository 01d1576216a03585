import Switchboard.Proofs.Conferences
import Switchboard.Proofs.Routing
import Switchboard.Proofs.StepOutcomes

/-! A task that is alone. While it waits there may be news from the radio, answers and changes of
the device, but nobody asks for anything, no call comes in, and no work is left for later (`Idles`).
What is said of its steps is proved along the program, whatever comes of its waits
(`Program.AllSteps`), and then holds for every step of a run (`Office.HasOnlyTask`). -/

namespace Switchboard

variable {rounds : Nat} {α β : Type} {before middle after system : System Chronicle}

/-- Nothing begins, and it does not become possible to have calls on two subscriptions. -/
def Occasion.Solitary : Occasion → Prop
  | start _ | ring _ _ => False
  | alter change =>
    ∀ device, device.isConcurrent = false → (change.apply device).isConcurrent = false
  | _ => True

inductive Idles (rounds : Nat) (before : System Chronicle) : System Chronicle → Prop
  | world {occasion : Occasion} {after : System Chronicle} (solitary : occasion.Solitary)
    (run : occasion.act (.level .silent rounds) before = some ((), after)) :
      Idles rounds before after
  | absorb : Idles rounds before { before with signals := [] }

/-! What is left as it is -/

namespace System

structure NothingNew (before after : System Chronicle) : Prop where
  count : after.connections.length = before.connections.length
  gone {id : ConnectionId} : (before.connection id).destroyed = true →
    (after.connection id).destroyed = true
  phone (id : ConnectionId) : (after.connection id).phone = (before.connection id).phone
  settings : after.settings = before.settings
  named (slot : Slot) : (after.device.phone slot).id = (before.device.phone slot).id
  single : before.device.isConcurrent = false → after.device.isConcurrent = false
  outside : before.outside.Undialed after.outside
  books : (∃ technologies, before.Books technologies) → ∃ technologies, after.Books technologies

end System

theorem Note.dialed?_of_plain {note : Note} (plain : note.isDialing = false) (id : ConnectionId) :
    note.dialed? id = none := by
  cases note with
  | asked call =>
    cases call with
    | dial connection phone number args => cases plain
    | _ => rfl
  | _ => rfl

theorem Chronicle.Undialed.firstDialed? {before after : Chronicle}
    (undialed : before.Undialed after)
    (id : ConnectionId) : after.firstDialed? id = before.firstDialed? id := by
  obtain ⟨notes, rfl, plain⟩ := undialed
  induction notes with
  | nil => rfl
  | cons note rest ih =>
    obtain ⟨first, others⟩ := List.forall_mem_cons.mp plain
    rw [List.cons_append, firstDialed?_cons, Note.dialed?_of_plain first, Option.or_none, ih others]

namespace System.NothingNew

theorem refl (system : System Chronicle) : system.NothingNew system where
  count := rfl
  gone gone := gone
  phone _ := rfl
  settings := rfl
  named _ := rfl
  single single := single
  outside := .of_eq rfl
  books books := books

theorem trans (first : before.NothingNew middle) (second : middle.NothingNew after) :
    before.NothingNew after where
  count := second.count.trans first.count
  gone gone := second.gone (first.gone gone)
  phone id := (second.phone id).trans (first.phone id)
  settings := second.settings.trans first.settings
  named slot := (second.named slot).trans (first.named slot)
  single single := second.single (first.single single)
  outside := first.outside.trans second.outside
  books books := second.books (first.books books)

theorem known (nothingNew : before.NothingNew after) {id : ConnectionId} :
    after.Known id ↔ before.Known id :=
  known_congr nothingNew.count id

theorem dialed (nothingNew : before.NothingNew after) (id : ConnectionId) :
    after.outside.firstDialed? id = before.outside.firstDialed? id :=
  nothingNew.outside.firstDialed? id

theorem of_stays (stays : before.Stays (fun _ => False) after)
    (books : (∃ technologies, before.Books technologies) →
      ∃ technologies, after.Books technologies) :
    before.NothingNew after where
  count := stays.count
  gone := stays.gone
  phone _ := stays.phone not_false
  settings := stays.settings
  named _ := by rw [stays.device]
  single single := by rw [stays.device, single]
  outside := .of_eq stays.outside
  books := books

theorem of_notes {note : Note} (plain : note.isDialing = false)
    (stays : (before.noting note).Stays (fun _ => False) after)
    (books : (∃ technologies, before.Books technologies) →
      ∃ technologies, after.Books technologies) :
    before.NothingNew after where
  count := stays.count
  gone {id} gone := by
    have noted : ((before.noting note).connection id).destroyed = true := by
      cases id <;> exact gone
    exact stays.gone noted
  phone id := by
    rw [stays.phone not_false]
    cases id <;> rfl
  settings := stays.settings
  named _ := by rw [stays.device]; rfl
  single single := by rw [stays.device]; exact single
  outside := by
    rw [stays.outside]
    exact .cons plain
  books := books

end System.NothingNew

theorem Idles.nothingNew (idles : Idles rounds before after)
    (books : ∃ technologies, before.Books technologies) : before.NothingNew after := by
  have keeps {occasion : Occasion} {after : System Chronicle}
      (run : occasion.act (.level .silent rounds) before = some ((), after)) :
      (∃ technologies, before.Books technologies) → ∃ technologies, after.Books technologies :=
    fun ⟨_, books⟩ => ⟨_, occasion.keepsBooks rounds books _ _ run⟩
  obtain ⟨_, standing⟩ := books
  cases idles with
  | absorb =>
    have beside : before.Beside { before with signals := [] } := ⟨rfl, rfl, rfl, rfl, rfl, rfl, rfl⟩
    exact .of_stays (.aside rfl rfl rfl rfl rfl) fun ⟨_, books⟩ => ⟨_, beside.books books⟩
  | @world occasion after solitary run =>
    have plainly (plain : occasion.isPlain = true) : before.NothingNew after := by
      rcases Occasion.stays plain standing.rest _ _ run with stays | ⟨note, silent, stays⟩
      · exact .of_stays stays (keeps run)
      · exact .of_notes (Note.not_isDialing_of_not_isAsked silent) stays (keeps run)
    cases occasion with
    | start operation => exact solitary.elim
    | ring phone view => exact solitary.elim
    | alter change =>
      have kept := keeps run
      cases run
      have same (id : ConnectionId) : System.connection
          { before with device := change.apply before.device } id = before.connection id := by
        cases id <;> rfl
      exact {
        count := rfl
        gone := fun gone => (congrArg (·.destroyed) (same _)).trans gone
        phone := fun id => congrArg (·.phone) (same id)
        settings := rfl
        named := fun slot => change.ident before.device slot
        single := solitary before.device
        outside := .of_eq rfl
        books := kept }
    | _ => exact plainly rfl

namespace Program

def AllSteps (rounds : Nat) (good : System Chronicle → System Chronicle → Prop) {α : Type} :
    Program Chronicle α → (α → System Chronicle → Prop) → System Chronicle → Prop
  | .done value, post, system => post value system
  | .act step next, post, system =>
    step.Ensures (.level .silent rounds) system fun value after =>
      good system after ∧ (next value).AllSteps rounds good post after
  | .wait _ next, post, system => ∀ value after, Relation.ReflTransGen (Idles rounds) system after →
    (next value).AllSteps rounds good post after

namespace AllSteps

variable {good : System Chronicle → System Chronicle → Prop}

theorem mono {program : Program Chronicle α} {post weaker : α → System Chronicle → Prop}
    (allSteps : program.AllSteps rounds good post system)
    (weakens : ∀ value after, post value after → weaker value after) :
    program.AllSteps rounds good weaker system := by
  induction program generalizing system with
  | done value => exact weakens value system allSteps
  | act step next ih =>
    exact Act.Ensures.mono allSteps fun value after rest => ⟨rest.1, ih value rest.2⟩
  | wait pause next ih =>
    exact fun value after meanwhile => ih value (allSteps value after meanwhile)

theorem bind {program : Program Chronicle α} {next : α → Program Chronicle β}
    {post : β → System Chronicle → Prop}
    (allSteps : program.AllSteps rounds good (fun value =>
      (next value).AllSteps rounds good post) system) :
    (program >>= next).AllSteps rounds good post system := by
  change (program.bind next).AllSteps rounds good post system
  induction program generalizing system with
  | done value => exact allSteps
  | act step more ih =>
    exact Act.Ensures.mono allSteps fun value after rest => ⟨rest.1, ih value rest.2⟩
  | wait pause more ih =>
    exact fun value after meanwhile => ih value (allSteps value after meanwhile)

theorem of_takesOnly {own : ConnectionId → Prop} {holds : System Chronicle → Prop}
    (idle : ∀ {before after}, holds before → Idles rounds before after → holds after)
    (taskSteps : ∀ {β : Type} {step : Act Chronicle β} {before}, holds before →
      TaskStep own before step →
      step.Ensures (.level .silent rounds) before fun _ after => good before after ∧ holds after)
    {program : Program Chronicle α}
      (takesOnly : program.TakesOnly (.level .silent rounds) (TaskStep own) system)
    (now : holds system) : program.AllSteps rounds good (fun _ => holds) system := by
  induction program generalizing system with
  | done value => exact now
  | act step next ih =>
    intro value after run
    obtain ⟨well, kept⟩ := taskSteps now takesOnly.1 value after run
    exact ⟨well, ih value (takesOnly.2 value after run) kept⟩
  | wait pause next ih =>
    intro value after meanwhile
    have kept : holds after := by
      induction meanwhile with
      | refl => exact now
      | tail _ idles kept => exact idle kept idles
    exact ih value (takesOnly value after) kept

variable {program work : Program Chronicle Unit} {post : Unit → System Chronicle → Prop}

theorem moments (allSteps : program.AllSteps rounds good post system) :
    ∀ step ∈ program.moments (.level .silent rounds) system, good step.1 step.2 := by
  induction program generalizing system with
  | done value => exact fun _ among => absurd among List.not_mem_nil
  | act step next ih =>
    rw [Program.moments]
    split
    · exact fun _ among => absurd among List.not_mem_nil
    · rename_i value after run
      obtain ⟨well, rest⟩ := allSteps value after run
      exact List.forall_mem_cons.mpr ⟨well, ih value rest⟩
  | wait pause next ih =>
    rw [Program.moments]
    split
    · exact ih _ (allSteps _ system .refl)
    · split
      · exact ih _ (allSteps _ system .refl)
      · exact fun _ among => absurd among List.not_mem_nil

theorem advance (allSteps : program.AllSteps rounds good post system)
    (moved : program.advance (.level .silent rounds) system = some (after, some work))
    {later : System Chronicle} (meanwhile : Relation.ReflTransGen (Idles rounds) after later) :
    work.AllSteps rounds good post later := by
  induction program generalizing system with
  | done value => cases moved
  | act step next ih =>
    rw [Program.advance] at moved
    split at moved
    · cases moved
    · rename_i value middle run
      exact ih value (allSteps value middle run).2 moved
  | wait pause next ih =>
    rw [Program.advance] at moved
    split at moved
    · exact ih _ (allSteps _ system .refl) moved
    · split at moved
      · exact ih _ (allSteps _ system .refl) moved
      · cases moved
        exact fun value last onward => allSteps value last (meanwhile.trans onward)

end AllSteps

theorem holds_advance {program : Program Chronicle Unit} {left : Option (Program Chronicle Unit)}
    {holds : System Chronicle → Prop}
    (moved : program.advance (.level .silent rounds) system = some (after, left))
    (now : holds system)
    (steps : ∀ step ∈ program.moments (.level .silent rounds) system, holds step.2) :
    holds after := by
  induction program generalizing system with
  | done value =>
    cases moved
    exact now
  | act step next ih =>
    rw [Program.advance] at moved
    rw [moments] at steps
    split at moved
    · cases moved
    · rename_i value middle run
      rw [run] at steps
      obtain ⟨here, later⟩ := List.forall_mem_cons.mp steps
      exact ih value moved here later
  | wait pause next ih =>
    rw [Program.advance] at moved
    rw [moments] at steps
    split at moved
    · rename_i found
      rw [found] at steps
      exact ih _ moved now steps
    · rename_i unready
      rw [unready] at steps
      split at moved
      · rename_i past
        rw [if_pos past] at steps
        exact ih _ moved now steps
      · cases moved
        exact now

end Program

namespace Office

variable {good : System Chronicle → System Chronicle → Prop} {office next : Office}

structure HasOnlyTask (rounds : Nat) (good : System Chronicle → System Chronicle → Prop)
    (office : Office) : Prop where
  alone : office.tasks.length ≤ 1
  works : office.system.works = []
  allSteps : ∀ task ∈ office.tasks, ∀ {later},
    Relation.ReflTransGen (Idles rounds) office.system later →
      task.AllSteps rounds good (fun _ _ => True) later

theorem absorb_of_works (works : office.system.works = []) :
    office.absorb = { office with system := { office.system with signals := [] } } := by
  rw [absorb, works, List.map_nil, List.append_nil]

theorem HasOnlyTask.absorb (hasOnlyTask : office.HasOnlyTask rounds good) :
    office.absorb.HasOnlyTask rounds good := by
  rw [absorb_of_works hasOnlyTask.works]
  exact {
    alone := hasOnlyTask.alone
    works := rfl
    allSteps := fun task among later meanwhile =>
      hasOnlyTask.allSteps task among (meanwhile.head .absorb) }

namespace HasOnlyTask

theorem resume (hasOnlyTask : office.HasOnlyTask rounds good) {position : Nat}
    (moved : office.resume (.level .silent rounds) position = some next)
    (alone : ∀ step ∈ office.steps rounds (.resume position), step.2.works = []) :
    next.HasOnlyTask rounds good := by
  rw [Office.resume] at moved
  rw [steps] at alone
  cases found : office.tasks[position]? with
  | none =>
    rw [found] at moved
    cases moved
    exact hasOnlyTask
  | some task =>
    rw [found] at moved alone
    obtain ⟨⟨system, left⟩, advanced, rfl⟩ := Option.map_eq_some_iff.mp moved
    have only : office.tasks.eraseIdx position = [] := by
      have here := (List.getElem?_eq_some_iff.mp found).1
      refine List.eq_nil_of_length_eq_zero ?_
      rw [List.length_eraseIdx_of_lt here]
      have := hasOnlyTask.alone
      omega
    rw [only, List.nil_append]
    have now := hasOnlyTask.allSteps task (List.mem_of_getElem? found) .refl
    have works : system.works = [] :=
      @Program.holds_advance _ _ _ _ _ (·.works = []) advanced hasOnlyTask.works alone
    refine ⟨?_, works, ?_⟩
    · cases left <;> simp
    · rintro work among later meanwhile
      have more : left = some work := Option.mem_toList.mp among
      rw [more] at advanced
      exact now.advance advanced meanwhile

theorem step (hasOnlyTask : office.HasOnlyTask rounds good) {occasion : Occasion}
    (solitary : occasion.Solitary) (moved : office.step rounds occasion = some next)
    (alone : ∀ step ∈ office.steps rounds occasion, step.2.works = []) :
    next.HasOnlyTask rounds good := by
  unfold Office.step at moved
  obtain ⟨middle, happened, rfl⟩ := Option.map_eq_some_iff.mp moved
  refine absorb ?_
  cases occasion with
  | start operation => exact solitary.elim
  | resume position => exact hasOnlyTask.resume happened alone
  | _ =>
    obtain ⟨⟨value, system⟩, run, rfl⟩ := Option.map_eq_some_iff.mp happened
    unfold steps at alone
    dsimp only at alone
    rw [run] at alone
    exact {
      alone := hasOnlyTask.alone
      works := alone _ (List.mem_singleton_self _)
      allSteps := fun task among later meanwhile =>
        hasOnlyTask.allSteps task among (meanwhile.head (.world solitary run)) }

theorem steps (hasOnlyTask : office.HasOnlyTask rounds good)
    (books : ∃ technologies, office.system.Books technologies)
    (idles : ∀ {before after}, before.NothingNew after → good before after) {occasion : Occasion}
    (solitary : occasion.Solitary) :
    ∀ step ∈ office.steps rounds occasion, good step.1 step.2 := by
  unfold Office.steps
  cases occasion with
  | start operation => exact solitary.elim
  | resume position =>
    dsimp only
    split
    · exact fun _ among => absurd among List.not_mem_nil
    · rename_i task found
      exact (hasOnlyTask.allSteps task (List.mem_of_getElem? found) .refl).moments
  | _ =>
    dsimp only
    split
    · exact fun _ among => absurd among List.not_mem_nil
    · rename_i outcome run
      have waits : Idles rounds office.system outcome.2 := .world solitary run
      exact List.forall_mem_singleton.mpr (idles (waits.nothingNew books))

theorem trace (hasOnlyTask : office.HasOnlyTask rounds good) (busy : office.Busy rounds)
    (books : ∃ technologies, office.system.Books technologies)
    (idles : ∀ {before after}, before.NothingNew after → good before after)
    {occasions : List Occasion} (solitary : ∀ occasion ∈ occasions, occasion.Solitary)
    (alone : ∀ step ∈ office.trace rounds occasions, step.2.works = []) :
    ∀ step ∈ office.trace rounds occasions, good step.1 step.2 := by
  induction occasions generalizing office with
  | nil => exact fun _ among => absurd among List.not_mem_nil
  | cons occasion rest ih =>
    rw [Office.trace] at alone ⊢
    obtain ⟨first, later⟩ := List.forall_mem_cons.mp solitary
    obtain ⟨here, onward⟩ := List.forall_mem_append.mp alone
    refine List.forall_mem_append.mpr ⟨hasOnlyTask.steps books idles first, ?_⟩
    cases moved : office.step rounds occasion with
    | none => exact fun _ among => absurd among List.not_mem_nil
    | some next =>
      rw [moved] at onward
      obtain ⟨reaches, still⟩ := busy.step .refl moved
      obtain ⟨_, standing⟩ := books
      exact ih (hasOnlyTask.step first moved here) still ⟨_, reaches.books standing⟩ later onward

end HasOnlyTask

theorem works_of_run {occasions : List Occasion} (none : office.system.works = [])
    (reached : office.run rounds occasions = some next) : next.system.works = [] := by
  induction occasions generalizing office with
  | nil =>
    cases reached
    exact none
  | cons occasion rest ih =>
    rw [run_cons] at reached
    obtain ⟨middle, moved, reached⟩ := Option.bind_eq_some_iff.mp reached
    unfold Office.step at moved
    obtain ⟨earlier, -, rfl⟩ := Option.map_eq_some_iff.mp moved
    exact ih rfl reached

end Office
end Switchboard
