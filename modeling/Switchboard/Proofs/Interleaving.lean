import Mathlib.Algebra.BigOperators.Group.List.Basic
import Mathlib.Algebra.Order.PUnit
import Switchboard.Proofs.Restriction

/-! A program interleaved with the steps of others. While it waits others may take any steps, and
all steps since it began are its history (`Program.Proceeds`). What is to hold of its own steps, and
at its end, is followed through the program (`Program.Guarantees`). At a wait the program says what
it holds; of others it assumes that what everybody holds fits the system then. Tasks that meet their
guarantees separately meet them together (`OfficeContract.guarantees`). -/

namespace Switchboard

variable {rounds : Nat} {α β : Type}
    {start before middle after system later last : System Chronicle}
  {first second more : Trace}

/-- A step while a program is under way: its own, or another's while it waits. -/
structure HistoryStep where
  own : Bool
  before : System Chronicle
  after : System Chronicle

/-- Oldest first. -/
abbrev History := List HistoryStep

/-- The steps of the history, whoever took them. -/
def History.steps (history : History) : Trace :=
  history.map fun entry => (entry.before, entry.after)

def History.of (own : Bool) (trace : Trace) : History :=
  trace.map fun step => ⟨own, step.1, step.2⟩

@[simp] theorem History.steps_append (past more : History) :
    (past ++ more).steps = past.steps ++ more.steps :=
  List.map_append

@[simp] theorem History.steps_of (own : Bool) (trace : Trace) : (of own trace).steps = trace := by
  simp [steps, of, Function.comp_def]

@[simp] theorem History.of_append (own : Bool) (past more : Trace) :
    of own (past ++ more) = of own past ++ of own more :=
  List.map_append

@[simp] theorem History.of_nil (own : Bool) : of own [] = [] := rfl

@[simp] theorem History.of_cons (own : Bool) (step : System Chronicle × System Chronicle)
    (more : Trace) : of own (step :: more) = ⟨own, step.1, step.2⟩ :: of own more := rfl

/-- The books of the exchange are kept, whoever is destroyed shows that, and no state is shown in
place of a leg's. -/
structure System.Balanced (system : System Chronicle) : Prop where
  books : ∃ technologies, system.Books technologies
  shown (id : ConnectionId) : (system.connection id).destroyed = true →
    (system.connection id).published.state = .disconnected
  plain (id : ConnectionId) : (system.connection id).presented = none

namespace System

theorem Balanced.opening (settings : Settings) (device : Device) :
    (Office.opening settings device).system.Balanced where
  books := ⟨_, Books.opening settings device⟩
  shown id _ := by cases id <;> rfl
  plain id := by cases id <;> rfl

theorem Balanced.rest (balanced : system.Balanced) : system.AtRest :=
  balanced.books.choose_spec.rest

theorem Balanced.absorb (balanced : system.Balanced) :
    System.Balanced { system with signals := [] } where
  books := by
    obtain ⟨technologies, books⟩ := balanced.books
    have beside : system.Beside { system with signals := [] } := ⟨rfl, rfl, rfl, rfl, rfl, rfl, rfl⟩
    exact ⟨technologies, beside.books books⟩
  shown id := by
    have same : System.connection { system with signals := [] } id = system.connection id := by
      cases id <;> rfl
    rw [same]
    exact balanced.shown id
  plain id := by
    have same : System.connection { system with signals := [] } id = system.connection id := by
      cases id <;> rfl
    rw [same]
    exact balanced.plain id

theorem Balanced.happens (balanced : before.Balanced) (happens : Happens rounds before after) :
    after.Balanced where
  books := by
    obtain ⟨technologies, books⟩ := balanced.books
    cases happens with
    | taskStep taskStep run => exact ⟨_, taskStep.keepsBooks books _ _ run⟩
    | world occasion run => exact ⟨_, occasion.keepsBooks rounds books _ _ run⟩
  shown id := (happens.stepOutcome balanced.rest).shown (balanced.shown id)
  plain id := (happens.stepOutcome balanced.rest).plain (balanced.plain id)

theorem Balanced.reaches (balanced : start.Balanced) (reaches : Reaches rounds start more last) :
    last.Balanced := by
  induction reaches with
  | refl => exact balanced
  | step _ happens ih => exact ih.happens happens
  | absorb _ ih => exact ih.absorb

theorem Balanced.up_iff (balanced : system.Balanced) (id : ConnectionId) :
    system.Up id ↔ (system.connection id).destroyed = false :=
  balanced.books.choose_spec.up_iff id

end System

namespace Reaches

theorem trans (reaches : Reaches rounds start first middle)
    (onward : Reaches rounds middle second last) : Reaches rounds start (first ++ second) last := by
  induction onward with
  | refl => simpa using reaches
  | step _ happens ih => simpa using ih.step happens
  | absorb _ ih => exact ih.absorb

theorem single (happens : Happens rounds before after) :
    Reaches rounds before [(before, after)] after :=
  Reaches.refl.step happens

theorem since (reaches : Reaches rounds start more last) (balanced : start.Balanced) :
    start.Lasts last := by
  induction reaches with
  | refl => exact .of_same rfl fun _ => rfl
  | absorb _ ih => exact ih.trans (.of_same rfl fun id => by cases id <;> rfl)
  | step reaches happens ih =>
    exact ih.trans (happens.stepOutcome (balanced.reaches reaches).rest).lasts

theorem leaves (reaches : Reaches rounds start more last) (id : ConnectionId) :
    last.connection id = start.connection id ∨
      ∃ step ∈ more, step.1.connection id = start.connection id := by
  induction reaches with
  | refl => exact .inl rfl
  | absorb _ ih =>
    refine ih.imp_left fun same => Eq.trans ?_ same
    cases id <;> rfl
  | step _ _ ih =>
    rcases ih with same | ⟨step, among, same⟩
    · exact .inr ⟨_, List.mem_append_right _ (List.mem_singleton_self _), same⟩
    · exact .inr ⟨step, List.mem_append_left _ among, same⟩

end Reaches

namespace Program

/-- A program that began at the start has come this far, with this history, and this is what is left
of it. -/
inductive Proceeds (rounds : Nat) (program : Program Chronicle α) (start : System Chronicle) :
    History → Program Chronicle α → System Chronicle → Prop
  | begin : Proceeds rounds program start [] program start
  | act {history : History} {β : Type} {step : Act Chronicle β} {next : β → Program Chronicle α}
    {before after : System Chronicle} {value : β}
    (sofar : Proceeds rounds program start history (.act step next) before)
    (run : step (.level .silent rounds) before = some (value, after)) :
    Proceeds rounds program start (history ++ [⟨true, before, after⟩]) (next value) after
  | ready {history : History} {β : Type} {pause : Wait Chronicle β}
    {next : Option β → Program Chronicle α} {system : System Chronicle} {value : β}
    (sofar : Proceeds rounds program start history (.wait pause next) system)
    (found : pause.ready system = some value) :
    Proceeds rounds program start history (next (some value)) system
  | late {history : History} {β : Type} {pause : Wait Chronicle β}
    {next : Option β → Program Chronicle α} {system : System Chronicle}
    (sofar : Proceeds rounds program start history (.wait pause next) system)
    (unready : pause.ready system = none)
    (past : pause.deadline.any (· ≤ system.clock) = true) :
    Proceeds rounds program start history (next none) system
  | meanwhile {history : History} {β : Type} {pause : Wait Chronicle β}
    {next : Option β → Program Chronicle α} {before after : System Chronicle}
    (sofar : Proceeds rounds program start history (.wait pause next) before)
    (happens : Happens rounds before after) :
    Proceeds rounds program start (history ++ [⟨false, before, after⟩]) (.wait pause next) after
  | absorb {history : History} {β : Type} {pause : Wait Chronicle β}
    {next : Option β → Program Chronicle α} {system : System Chronicle}
    (sofar : Proceeds rounds program start history (.wait pause next) system) :
    Proceeds rounds program start history (.wait pause next) { system with signals := [] }

end Program

def HoldsNothing (_ : Unit) (_ : System Chronicle) : Prop := True

/-- Where a program is: what others hold, what has been since it began, and the system. -/
structure ProgramPoint (κ : Type) where
  others : κ
  history : History
  system : System Chronicle

namespace ProgramPoint

variable {κ : Type}

/-- After a step of its own. -/
def own (now : ProgramPoint κ) (after : System Chronicle) : ProgramPoint κ where
  others := now.others
  history := now.history ++ [⟨true, now.system, after⟩]
  system := after

def meanwhile (now : ProgramPoint κ) (others : κ) (more : Trace) (later : System Chronicle) :
    ProgramPoint κ where
  others
  history := now.history ++ History.of false more
  system := later

@[simp] theorem steps_own (now : ProgramPoint κ) (after : System Chronicle) :
    (now.own after).history.steps = now.history.steps ++ [(now.system, after)] :=
  History.steps_append _ _

@[simp] theorem steps_meanwhile (now : ProgramPoint κ) (others : κ) (more : Trace)
    (later : System Chronicle) :
    (now.meanwhile others more later).history.steps = now.history.steps ++ more := by
  rw [meanwhile, History.steps_append, History.steps_of]

end ProgramPoint

variable {κ : Type} [AddCommMonoid κ] {keeps : κ → System Chronicle → Prop}
  {good : History → System Chronicle → System Chronicle → Prop}

namespace Program

/-- Every step that the program takes of its own is good, whatever others do at its waits, and the
program ends as it should. -/
def Guarantees (rounds : Nat) (keeps : κ → System Chronicle → Prop)
    (good : History → System Chronicle → System Chronicle → Prop) {α : Type} :
    Program Chronicle α → (α → ProgramPoint κ → Prop) → ProgramPoint κ → Prop
  | .done value, post, now => post value now
  | .act step next, post, now => now.system.Balanced →
    step.Ensures (.level .silent rounds) now.system fun value after =>
      good now.history now.system after ∧
        (next value).Guarantees rounds keeps good post (now.own after)
  | .wait pause next, post, now => now.system.Balanced → ∃ share,
    keeps (share + now.others) now.system ∧ ∀ others more later,
      Reaches rounds now.system more later → keeps (share + others) later →
        (∀ value, pause.ready later = some value →
          (next (some value)).Guarantees rounds keeps good post (now.meanwhile others more later)) ∧
        (pause.deadline.any (· ≤ later.clock) = true →
          (next none).Guarantees rounds keeps good post (now.meanwhile others more later))

namespace Guarantees

variable {now : ProgramPoint κ}

theorem mono {program : Program Chronicle α} {post weaker : α → ProgramPoint κ → Prop}
    (guarantees : program.Guarantees rounds keeps good post now)
    (weakens : ∀ value now, post value now → weaker value now) :
    program.Guarantees rounds keeps good weaker now := by
  induction program generalizing now with
  | done value => exact weakens value now guarantees
  | act step next ih =>
    exact fun balanced => (guarantees balanced).mono fun value after rest =>
      ⟨rest.1, ih value rest.2⟩
  | wait pause next ih =>
    intro balanced
    obtain ⟨share, fits, rest⟩ := guarantees balanced
    refine ⟨share, fits, fun others more later reaches fits =>
      ⟨fun value ready => ?_, fun past => ?_⟩⟩
    · exact ih _ ((rest others more later reaches fits).1 value ready)
    · exact ih _ ((rest others more later reaches fits).2 past)

theorem bind {program : Program Chronicle α} {next : α → Program Chronicle β}
    {post : β → ProgramPoint κ → Prop}
    (guarantees : program.Guarantees rounds keeps good
      (fun value => (next value).Guarantees rounds keeps good post) now) :
    (program >>= next).Guarantees rounds keeps good post now := by
  change (program.bind next).Guarantees rounds keeps good post now
  induction program generalizing now with
  | done value => exact guarantees
  | act step more ih =>
    exact fun balanced => (guarantees balanced).mono fun value after rest =>
      ⟨rest.1, ih value rest.2⟩
  | wait pause more ih =>
    intro balanced
    obtain ⟨share, fits, rest⟩ := guarantees balanced
    refine ⟨share, fits, fun others done later reaches fits =>
      ⟨fun value ready => ?_, fun past => ?_⟩⟩
    · exact ih _ ((rest others done later reaches fits).1 value ready)
    · exact ih _ ((rest others done later reaches fits).2 past)

theorem atOnce {step : Act Chronicle α} {post : α → ProgramPoint κ → Prop}
    (ensures : now.system.Balanced →
      step.Ensures (.level .silent rounds) now.system fun value after =>
      good now.history now.system after ∧ post value (now.own after)) :
    (Program.atOnce step).Guarantees rounds keeps good post now :=
  ensures

theorem of_takesOnly {taskStep : System Chronicle → {β : Type} → Act Chronicle β → Prop}
    {holds : ProgramPoint κ → Prop}
    (steps : ∀ {now : ProgramPoint κ} {β : Type} {step : Act Chronicle β}, holds now →
      now.system.Balanced → taskStep now.system step →
        step.Ensures (.level .silent rounds) now.system fun _ after =>
          good now.history now.system after ∧ holds (now.own after))
    (waits : ∀ {now : ProgramPoint κ}, holds now → now.system.Balanced → ∃ share,
      keeps (share + now.others) now.system ∧ ∀ others more later,
        Reaches rounds now.system more later → keeps (share + others) later →
          holds (now.meanwhile others more later))
    {program : Program Chronicle α}
      (takesOnly : program.TakesOnly (.level .silent rounds) taskStep now.system)
    (start : holds now) : program.Guarantees rounds keeps good (fun _ => holds) now := by
  induction program generalizing now with
  | done value => exact start
  | act step next ih =>
    intro balanced value after run
    obtain ⟨well, kept⟩ := steps start balanced takesOnly.1 value after run
    exact ⟨well, ih value (takesOnly.2 value after run) kept⟩
  | wait pause next ih =>
    intro balanced
    obtain ⟨share, fits, rest⟩ := waits start balanced
    refine ⟨share, fits, fun others more later reaches fits => ⟨fun value _ => ?_, fun _ => ?_⟩⟩
    · exact ih _ (takesOnly _ _) (rest others more later reaches fits)
    · exact ih _ (takesOnly _ _) (rest others more later reaches fits)

theorem placing {kind : System Chronicle → {β : Type} → Act Chronicle β → Prop}
    {holds : ProgramPoint κ → Prop} {post : Placed → ProgramPoint κ → Prop} {request : CallRequest}
    (permits : Act.Permits fun step => ∀ system, kind system step)
    (quiet : ∀ {α : Type} {program : Program Chronicle α} {now : ProgramPoint κ},
      program.Uses (fun step => ∀ system, kind system step) → holds now →
        program.Guarantees rounds keeps good (fun _ => holds) now)
    (refuses : ∀ {now : ProgramPoint κ} (info : DisconnectInfo), holds now → post (.error info) now)
    (enters : ∀ {now : ProgramPoint κ} {placement : Placement}, holds now →
      (placement.number.emergency = false → now.system.prepare? request = .ok placement) →
        (Program.atOnce (Act.enroll request placement) >>= fun id =>
          Program.complete openWorld id placement).Guarantees rounds keeps good post now)
    (here : holds now) : (Program.place openWorld request).Guarantees rounds keeps good post now :=
      by
  have looking {now : ProgramPoint κ} {next : System Chronicle → Program Chronicle Placed}
      (here : holds now)
      (goes : holds (now.own now.system) →
        (next now.system).Guarantees rounds keeps good post (now.own now.system)) :
      (Program.system >>= next).Guarantees rounds keeps good post now := by
    refine bind fun balanced => (Act.ensures_get _).mpr ?_
    obtain ⟨well, here⟩ := (Act.ensures_get _).mp (quiet (Uses.system permits) here balanced)
    exact ⟨well, goes here⟩
  refine looking here fun here => ?_
  cases prepared : now.system.prepare? request with
  | error cause => exact refuses _ here
  | ok placement =>
    cases ordinary : placement.number.emergency with
    | true =>
      refine bind (mono (quiet (Uses.clearSatellite permits _) here) fun objection now here => ?_)
      cases objection with
      | some cause => exact refuses _ here
      | none => exact enters here fun no => absurd (ordinary.symm.trans no) (by simp)
    | false =>
      dsimp only
      rw [ordinary, TakesOnly.clearSatellite_ordinary]
      refine looking here fun here => ?_
      cases (now.own now.system).system.device.satelliteActive with
      | true => exact refuses _ here
      | false => exact enters here fun _ => prepared

theorem resume {pause : Wait Chronicle β} {next : Option β → Program Chronicle α}
    {post : α → ProgramPoint κ → Prop}
    (guarantees : (Program.wait pause next).Guarantees rounds keeps good post now)
    (balanced : now.system.Balanced) : ∃ share, keeps (share + now.others) now.system ∧
      ∀ others more later, Reaches rounds now.system more later → keeps (share + others) later →
        (Program.wait pause next).Guarantees rounds keeps good post
          (now.meanwhile others more later) := by
  obtain ⟨share, fits, rest⟩ := guarantees balanced
  refine ⟨share, fits, fun others more later reaches fits _ => ⟨share, fits, ?_⟩⟩
  intro others again last onward fits
  have goes := rest others (more ++ again) last (reaches.trans onward) fits
  simpa [ProgramPoint.meanwhile] using goes

def Leaves (rounds : Nat) (keeps : κ → System Chronicle → Prop)
    (good : History → System Chronicle → System Chronicle → Prop)
    (post : Unit → ProgramPoint κ → Prop) (now : ProgramPoint κ) :
      Option (Program Chronicle Unit) → Prop
  | none => post () now
  | some work => ∃ share, keeps (share + now.others) now.system ∧ ∀ others more later,
    Reaches rounds now.system more later → keeps (share + others) later →
      work.Guarantees rounds keeps good post (now.meanwhile others more later)

theorem advance {program : Program Chronicle Unit} {post : Unit → ProgramPoint κ → Prop}
    (guarantees : program.Guarantees rounds keeps good post now)
    (takesOnly : program.TakesOnly (.level .silent rounds) (TaskStep fun _ => True) now.system)
    (balanced : now.system.Balanced) {left : Option (Program Chronicle Unit)}
    (moved : program.advance (.level .silent rounds) now.system = some (after, left)) :
    (∀ {past before after rest},
      program.moments (.level .silent rounds) now.system = past ++ (before, after) :: rest →
        good (now.history ++ History.of true past) before after) ∧
      Leaves rounds keeps good post ⟨now.others,
        now.history ++ History.of true (program.moments (.level .silent rounds) now.system), after⟩
        left := by
  induction program generalizing now with
  | done value =>
    cases moved
    rw [moments]
    refine ⟨fun split => absurd split.symm (by simp), ?_⟩
    rw [History.of_nil, List.append_nil]
    exact guarantees
  | act step next ih =>
    rw [Program.advance] at moved
    rw [moments]
    cases run : step (.level .silent rounds) now.system with
    | none =>
      rw [run] at moved
      cases moved
    | some outcome =>
      obtain ⟨value, middle⟩ := outcome
      rw [run] at moved
      obtain ⟨well, goes⟩ := guarantees balanced value middle run
      have onward := balanced.happens (.taskStep takesOnly.1 run)
      obtain ⟨rest, waits⟩ := ih value goes (takesOnly.2 value middle run) onward moved
      dsimp only
      refine ⟨fun {past before after more} split => ?_, ?_⟩
      · cases past with
        | nil =>
          cases split
          simpa using well
        | cons first past =>
          have here := rest (List.cons.inj split).2
          rw [← (List.cons.inj split).1]
          simpa [ProgramPoint.own] using here
      · simpa [ProgramPoint.own] using waits
  | wait pause next ih =>
    rw [Program.advance] at moved
    rw [moments]
    obtain ⟨share, fits, goes⟩ := guarantees balanced
    have here := goes now.others [] now.system .refl fits
    simp only [ProgramPoint.meanwhile, History.of_nil, List.append_nil] at here
    cases ready : pause.ready now.system with
    | some value =>
      rw [ready] at moved
      exact ih (some value) (here.1 value ready) (takesOnly _ _) balanced moved
    | none =>
      rw [ready] at moved
      dsimp only at moved ⊢
      split at moved
      · rename_i past
        rw [if_pos past]
        exact ih none (here.2 past) (takesOnly _ _) balanced moved
      · rename_i waits
        rw [if_neg waits]
        cases moved
        obtain ⟨share, fits, onward⟩ := guarantees.resume balanced
        refine ⟨fun split => absurd split.symm (by simp), share, fits, ?_⟩
        rw [History.of_nil, List.append_nil]
        exact onward

end Guarantees

namespace Proceeds

variable {program left : Program Chronicle α} {history : History}

theorem reaches (proceeds : program.Proceeds rounds start history left last)
    (takesOnly : program.TakesOnly (.level .silent rounds) (TaskStep fun _ => True) start) :
    Reaches rounds start history.steps last ∧
      left.TakesOnly (.level .silent rounds) (TaskStep fun _ => True) last := by
  induction proceeds with
  | begin => exact ⟨.refl, takesOnly⟩
  | act sofar run ih =>
    obtain ⟨reaches, takesOnly⟩ := ih
    have onward := reaches.step (.taskStep takesOnly.1 run)
    exact ⟨by simpa [History.steps] using onward, takesOnly.2 _ _ run⟩
  | ready sofar found ih => exact ⟨ih.1, ih.2 _ _⟩
  | late sofar unready past ih => exact ⟨ih.1, ih.2 _ _⟩
  | meanwhile sofar happens ih =>
    have onward := ih.1.step happens
    exact ⟨by simpa [History.steps] using onward, ih.2⟩
  | absorb sofar ih => exact ⟨ih.1.absorb, ih.2⟩

/-- A program that meets its guarantee whatever others do has taken only good steps, and meets it
from here on. -/
theorem guarantees (proceeds : program.Proceeds rounds start history left last)
    (takesOnly : program.TakesOnly (.level .silent rounds) (TaskStep fun _ => True) start)
    (balanced : start.Balanced) {post : α → ProgramPoint Unit → Prop}
    (guarantees : program.Guarantees rounds HoldsNothing good post ⟨(), [], start⟩) :
    (∀ {past rest : History} {entry : HistoryStep}, history = past ++ entry :: rest →
      entry.own = true →
      good past entry.before entry.after) ∧
      left.Guarantees rounds HoldsNothing good post ⟨(), history, last⟩ := by
  -- a step at the end is good if the step is, and those before it are good already
  have longer {history : History} {final : HistoryStep}
      (sofar : ∀ {past rest : History} {entry : HistoryStep}, history = past ++ entry :: rest →
        entry.own = true → good past entry.before entry.after)
      (well : final.own = true → good history final.before final.after) {past rest : History}
      {entry : HistoryStep} (split : history ++ [final] = past ++ entry :: rest)
      (own : entry.own = true) :
      good past entry.before entry.after := by
    rcases List.eq_nil_or_concat rest with rfl | ⟨rest, other, rfl⟩
    · obtain ⟨rfl, same⟩ := List.append_inj' split rfl
      cases same
      exact well own
    · have split : history ++ [final] = (past ++ entry :: rest) ++ [other] := by simpa using split
      exact sofar (List.append_inj' split rfl).1 own
  have standing {history : History} {left : Program Chronicle α} {last : System Chronicle}
      (sofar : program.Proceeds rounds start history left last) : last.Balanced :=
    balanced.reaches (sofar.reaches takesOnly).1
  induction proceeds with
  | begin => exact ⟨fun split => absurd split.symm (by simp), guarantees⟩
  | act sofar run ih =>
    obtain ⟨well, rest⟩ := ih.2 (standing sofar) _ _ run
    exact ⟨fun split own => longer ih.1 (fun _ => well) split own, rest⟩
  | @ready history _ pause next system value sofar found ih =>
    obtain ⟨share, -, goes⟩ := ih.2 (standing sofar)
    have here := (goes () [] system .refl trivial).1 value found
    exact ⟨ih.1, by simpa [ProgramPoint.meanwhile] using here⟩
  | @late history _ pause next system sofar unready past ih =>
    obtain ⟨share, -, goes⟩ := ih.2 (standing sofar)
    have here := (goes () [] system .refl trivial).2 past
    exact ⟨ih.1, by simpa [ProgramPoint.meanwhile] using here⟩
  | @meanwhile history _ pause next before after sofar happens ih =>
    obtain ⟨share, -, goes⟩ := ih.2.resume (standing sofar)
    have onward := goes () [(before, after)] after (.single happens) trivial
    exact ⟨fun split own =>
      longer ih.1 (fun own => absurd own Bool.false_ne_true) split own, onward⟩
  | @absorb history _ pause next system sofar ih =>
    obtain ⟨share, -, goes⟩ := ih.2.resume (standing sofar)
    have onward := goes () [] _ (Reaches.refl.absorb) trivial
    exact ⟨ih.1, by simpa [ProgramPoint.meanwhile] using onward⟩

end Proceeds

def meanwhile (rounds : Nat) : List Occasion → System Chronicle →
    Option (History × System Chronicle)
  | [], system => some ([], system)
  | occasion :: rest, system => do
    let (_, after) ← occasion.act (.level .silent rounds) system
    let (history, last) ← meanwhile rounds rest after
    return (⟨false, system, after⟩ :: history, last)

def played (rounds : Nat) :
    Program Chronicle α → System Chronicle → List (List Occasion) →
      Option (History × α × System Chronicle)
  | .done value, system, _ => some ([], value, system)
  | .act step next, system, parts => do
    let (value, after) ← step (.level .silent rounds) system
    let (history, outcome) ← (next value).played rounds after parts
    return (⟨true, system, after⟩ :: history, outcome)
  | .wait _ _, _, [] => none
  | .wait pause next, system, occasions :: parts => do
    let (past, later) ← meanwhile rounds occasions system
    if (pause.ready later).isNone && !pause.deadline.any (· ≤ later.clock) then none
    else
      let (history, outcome) ← (next (pause.ready later)).played rounds later parts
      return (past ++ history, outcome)

namespace Proceeds

variable {program : Program Chronicle α} {past history : History} {value : α}

theorem waits {pause : Wait Chronicle β} {next : Option β → Program Chronicle α}
    {occasions : List Occasion}
    (sofar : program.Proceeds rounds start past (.wait pause next) system)
    (happened : Program.meanwhile rounds occasions system = some (history, last)) :
    program.Proceeds rounds start (past ++ history) (.wait pause next) last := by
  induction occasions generalizing past system history with
  | nil =>
    cases happened
    simpa using sofar
  | cons occasion rest ih =>
    rw [Program.meanwhile] at happened
    obtain ⟨⟨value, after⟩, run, happened⟩ := Option.bind_eq_some_iff.mp happened
    obtain ⟨⟨more, final⟩, onward, same⟩ := Option.bind_eq_some_iff.mp happened
    cases same
    have goes := ih (sofar.meanwhile (.world occasion run)) onward
    simpa using goes

theorem played {left : Program Chronicle α} {parts : List (List Occasion)}
    (sofar : program.Proceeds rounds start past left system)
    (ends : left.played rounds system parts = some (history, value, last)) :
    program.Proceeds rounds start (past ++ history) (.done value) last := by
  induction left generalizing past system parts history with
  | done result =>
    cases ends
    simpa using sofar
  | act step next ih =>
    rw [Program.played] at ends
    obtain ⟨⟨result, after⟩, run, ends⟩ := Option.bind_eq_some_iff.mp ends
    obtain ⟨⟨more, final⟩, onward, same⟩ := Option.bind_eq_some_iff.mp ends
    cases same
    have goes := ih result (sofar.act run) onward
    simpa using goes
  | wait pause next ih =>
    cases parts with
    | nil => cases ends
    | cons occasions parts =>
      rw [Program.played] at ends
      obtain ⟨⟨more, later⟩, happened, ends⟩ := Option.bind_eq_some_iff.mp ends
      have waits := sofar.waits happened
      dsimp only at ends
      split at ends
      · cases ends
      rename_i goes
      obtain ⟨⟨rest, final⟩, onward, same⟩ := Option.bind_eq_some_iff.mp ends
      cases same
      rw [← List.append_assoc]
      cases ready : pause.ready later with
      | some found =>
        rw [ready] at onward
        exact ih (some found) (waits.ready ready) onward
      | none =>
        rw [ready] at goes onward
        exact ih none (waits.late ready (by simpa using goes)) onward

end Proceeds
end Program

structure Place (κ : Type) : Type 1 where
  task : Program Chronicle Unit
  share : κ
  history : History

def Place.Waits (rounds : Nat) (keeps : κ → System Chronicle → Prop)
    (good : History → System Chronicle → System Chronicle → Prop) (place : Place κ)
    (system : System Chronicle) : Prop :=
  ∀ others more later, Reaches rounds system more later → keeps (place.share + others) later →
    place.task.Guarantees rounds keeps good (fun _ now => keeps now.others now.system)
      ⟨others, place.history ++ History.of false more, later⟩

def Place.onward (more : Trace) (place : Place κ) : Place κ :=
  { place with history := place.history ++ History.of false more }

theorem Place.Waits.onward {place : Place κ} (waits : place.Waits rounds keeps good system)
    (reaches : Reaches rounds system more last) :
    (place.onward more).Waits rounds keeps good last := by
  intro others again later onward fits
  have goes := waits others (more ++ again) later (reaches.trans onward) fits
  simpa [Place.onward] using goes

/-- What is held in an office: occasions leave it as it is, work that comes up is given its part,
and whatever is started meets its guarantee separately. -/
structure OfficeContract (rounds : Nat) (keeps : κ → System Chronicle → Prop)
    (good : History → System Chronicle → System Chronicle → Prop) (grants : FollowUp → κ) :
      Prop where
  absorb {share : κ} {system : System Chronicle} : keeps share system →
    keeps ((system.works.map grants).sum + share) { system with signals := [] }
  occasion (occasion : Occasion) {share : κ} {system : System Chronicle} : keeps share system →
    system.Balanced → occasion.act.Ensures (.level .silent rounds) system fun _ after =>
      keeps share after
  operation (operation : Operation) {now : ProgramPoint κ} : keeps now.others now.system →
    operation.program.Guarantees rounds keeps good (fun _ now => keeps now.others now.system) now
  followUp (work : FollowUp) {now : ProgramPoint κ} : keeps (grants work + now.others) now.system →
    work.program.Guarantees rounds keeps good (fun _ now => keeps now.others now.system) now

namespace Office

variable {office next : Office} {past : Trace} {grants : FollowUp → κ}

def AllGuarantee (rounds : Nat) (keeps : κ → System Chronicle → Prop)
    (good : History → System Chronicle → System Chronicle → Prop) (past : Trace) (office : Office) :
    Prop :=
  ∃ places : List (Place κ), places.map (·.task) = office.tasks ∧
    (∀ place ∈ places, place.Waits rounds keeps good office.system ∧ place.history.steps <:+ past) ∧
    keeps (places.map (·.share)).sum office.system

def Accounts (rounds : Nat) (good : History → System Chronicle → System Chronicle → Prop)
    (past : Trace) (step : System Chronicle × System Chronicle) : Prop :=
  (∃ occasion : Occasion, occasion.act (.level .silent rounds) step.1 = some ((), step.2)) ∨
    ∃ history : History, history.steps <:+ past ∧ good history step.1 step.2

theorem AllGuarantee.absorb (officeContract : OfficeContract rounds keeps good grants)
    (allGuarantee : office.AllGuarantee rounds keeps good past) :
      office.absorb.AllGuarantee rounds keeps good past := by
  obtain ⟨places, tasks, waits, fits⟩ := allGuarantee
  let started (work : FollowUp) : Place κ := ⟨work.program, grants work, []⟩
  refine ⟨places ++ office.system.works.map started, ?_, fun place among => ?_, ?_⟩
  · simp [Office.absorb, tasks, started, Function.comp_def]
  · rcases List.mem_append.mp among with old | new
    · obtain ⟨goes, recent⟩ := waits place old
      have goes := goes.onward (.absorb .refl)
      simp only [Place.onward, History.of_nil, List.append_nil] at goes
      exact ⟨goes, recent⟩
    · obtain ⟨work, -, rfl⟩ := List.mem_map.mp new
      exact ⟨fun others more later _ fits => officeContract.followUp work fits, List.nil_suffix⟩
  · have more := officeContract.absorb fits
    rw [add_comm] at more
    simpa [Office.absorb, started, Function.comp_def] using more

theorem AllGuarantee.begin (officeContract : OfficeContract rounds keeps good grants)
    (operation : Operation)
    (allGuarantee : office.AllGuarantee rounds keeps good past) :
    AllGuarantee rounds keeps good past { office with tasks :=
      office.tasks ++ [operation.program] } := by
  obtain ⟨places, tasks, waits, fits⟩ := allGuarantee
  refine ⟨places ++
    [⟨operation.program, 0, []⟩], by simp [tasks], fun place among => ?_, by simpa using fits⟩
  rcases List.mem_append.mp among with old | new
  · exact waits place old
  · rw [List.mem_singleton.mp new]
    refine ⟨fun others more later _ fits => officeContract.operation operation ?_, List.nil_suffix⟩
    rwa [zero_add] at fits

theorem AllGuarantee.onward {places : List (Place κ)}
    (waits : ∀ place ∈ places, place.Waits rounds keeps good system ∧ place.history.steps <:+ past)
    (reaches : Reaches rounds system more last) :
    ∀ place ∈ places.map (Place.onward more),
      place.Waits rounds keeps good last ∧ place.history.steps <:+ past ++ more := by
  intro place among
  obtain ⟨place, listed, rfl⟩ := List.mem_map.mp among
  obtain ⟨goes, earlier, rfl⟩ := waits place listed
  exact ⟨goes.onward reaches, earlier, by simp [Place.onward]⟩

theorem AllGuarantee.resume (allGuarantee : office.AllGuarantee rounds keeps good past)
    (busy : office.Busy rounds)
    (balanced : office.system.Balanced) {position : Nat}
    (moved : office.resume (.level .silent rounds) position = some next) :
    (∀ {earlier step rest}, office.steps rounds (.resume position) = earlier ++ step :: rest →
      Accounts rounds good (past ++ earlier) step) ∧
      next.AllGuarantee rounds keeps good (past ++ office.steps rounds (.resume position)) := by
  rw [Office.resume] at moved
  rw [Office.steps]
  cases found : office.tasks[position]? with
  | none =>
    rw [found] at moved
    cases moved
    rw [List.append_nil]
    exact ⟨fun split => absurd split.symm (by simp), allGuarantee⟩
  | some task =>
    rw [found] at moved
    obtain ⟨⟨system, left⟩, advanced, rfl⟩ := Option.map_eq_some_iff.mp moved
    have takesOnly := busy task (List.mem_of_getElem? found) office.system
    obtain ⟨places, tasks, waits, fits⟩ := allGuarantee
    rw [← tasks, List.getElem?_map] at found
    obtain ⟨place, here, rfl⟩ := Option.map_eq_some_iff.mp found
    obtain ⟨inside, rfl⟩ := List.getElem?_eq_some_iff.mp here
    let place := places[position]
    let others := places.eraseIdx position
    let held := (others.map (·.share)).sum
    let more : Trace := place.task.moments (.level .silent rounds) office.system
    let waiting := others.map (Place.onward more)
    have perm : (place :: others).Perm places := List.getElem_cons_eraseIdx_perm inside
    have total : place.share + held = (places.map (·.share)).sum := by
      rw [← (perm.map (·.share)).sum_eq, List.map_cons, List.sum_cons]
    rw [← total] at fits
    obtain ⟨goes, earlier, recent⟩ := waits place (perm.subset List.mem_cons_self)
    obtain ⟨well, leaves⟩ :=
      (goes held [] office.system .refl fits).advance takesOnly balanced advanced
    rw [History.of_nil, List.append_nil] at well leaves
    have reaches : Reaches rounds office.system more system := (takesOnly.advance .refl advanced).1
    have onward : ∀ place ∈ waiting,
        place.Waits rounds keeps good system ∧ place.history.steps <:+ past ++ more :=
      AllGuarantee.onward (fun place among => waits place (perm.subset (.tail _ among))) reaches
    have tasks : waiting.map (·.task) = office.tasks.eraseIdx position := by
      simp [waiting, others, ← tasks, List.eraseIdx_eq_take_drop_succ, Place.onward,
        Function.comp_def]
    have shares : (waiting.map (·.share)).sum = held := by
      simp [waiting, held, Place.onward, Function.comp_def]
    refine ⟨fun {sofar step rest} split => .inr ⟨_, ⟨earlier, ?_⟩, well split⟩, ?_⟩
    · simp [← recent, place]
    cases left with
    | none => exact ⟨waiting, by simp [tasks], onward, shares ▸ leaves⟩
    | some work =>
      obtain ⟨share, fits, goes⟩ := leaves
      let again : Place κ := ⟨work, share, place.history ++ History.of true more⟩
      refine ⟨waiting ++ [again], by simp [tasks, again], fun other among => ?_, ?_⟩
      · rcases List.mem_append.mp among with old | new
        · exact onward other old
        · rw [List.mem_singleton.mp new]
          refine ⟨goes, earlier, ?_⟩
          change earlier ++ (place.history ++ History.of true more).steps = past ++ more
          rw [History.steps_append, History.steps_of, ← List.append_assoc, recent]
      · rw [List.map_append, List.sum_append, shares, List.map_singleton, List.sum_singleton,
          add_comm]
        exact fits

theorem AllGuarantee.step (officeContract : OfficeContract rounds keeps good grants)
    (allGuarantee : office.AllGuarantee rounds keeps good past) (busy : office.Busy rounds)
    (balanced : office.system.Balanced) {occasion : Occasion}
    (moved : office.step rounds occasion = some next) :
    (∀ {earlier step rest}, office.steps rounds occasion = earlier ++ step :: rest →
      Accounts rounds good (past ++ earlier) step) ∧
      next.AllGuarantee rounds keeps good (past ++ office.steps rounds occasion) := by
  unfold Office.step at moved
  obtain ⟨middle, happened, rfl⟩ := Option.map_eq_some_iff.mp moved
  suffices (∀ {earlier step rest}, office.steps rounds occasion = earlier ++ step :: rest →
      Accounts rounds good (past ++ earlier) step) ∧
      middle.AllGuarantee rounds keeps good (past ++ office.steps rounds occasion) from
    ⟨this.1, this.2.absorb officeContract⟩
  cases occasion with
  | start operation =>
    cases happened
    rw [steps, List.append_nil]
    exact ⟨fun split => absurd split.symm (by simp), allGuarantee.begin officeContract operation⟩
  | resume position => exact allGuarantee.resume busy balanced happened
  | _ =>
    obtain ⟨⟨value, system⟩, run, rfl⟩ := Option.map_eq_some_iff.mp happened
    unfold steps
    dsimp only
    rw [run]
    refine ⟨fun {earlier step rest} split => .inl ?_, ?_⟩
    · cases earlier with
      | nil =>
        cases split
        exact ⟨_, run⟩
      | cons first earlier => cases earlier <;> cases (List.cons.inj split).2
    · obtain ⟨places, tasks, waits, fits⟩ := allGuarantee
      have reaches := Reaches.single (.world _ run)
      refine ⟨places.map (Place.onward _), ?_, AllGuarantee.onward waits reaches, ?_⟩
      · simpa [Place.onward, Function.comp_def] using tasks
      · have kept := officeContract.occasion _ fits balanced _ _ run
        simpa [Place.onward, Function.comp_def] using kept

/-- Whatever happens, tasks that meet their guarantees separately meet them together. -/
theorem AllGuarantee.run (officeContract : OfficeContract rounds keeps good grants)
    (allGuarantee : office.AllGuarantee rounds keeps good past) (busy : office.Busy rounds)
    (balanced : office.system.Balanced) {occasions : List Occasion}
    (reached : office.run rounds occasions = some next) :
    (∀ {earlier step rest}, office.trace rounds occasions = earlier ++ step :: rest →
      Accounts rounds good (past ++ earlier) step) ∧
      next.AllGuarantee rounds keeps good (past ++ office.trace rounds occasions) := by
  induction occasions generalizing office past with
  | nil =>
    cases reached
    rw [trace, List.append_nil]
    exact ⟨fun split => absurd split.symm (by simp), allGuarantee⟩
  | cons occasion rest ih =>
    rw [run_cons] at reached
    obtain ⟨middle, moved, reached⟩ := Option.bind_eq_some_iff.mp reached
    obtain ⟨here, allGuarantee⟩ := allGuarantee.step officeContract busy balanced moved
    obtain ⟨reaches, busy⟩ := busy.step .refl moved
    obtain ⟨later, last⟩ := ih allGuarantee busy (balanced.reaches reaches) reached
    rw [trace, moved, ← List.append_assoc]
    refine ⟨fun {earlier step after} split => ?_, last⟩
    rcases List.append_eq_append_iff.mp split with ⟨sofar, rfl, beyond⟩ | ⟨sofar, now, split⟩
    · rw [← List.append_assoc]
      exact later beyond
    · cases sofar with
      | nil =>
        rw [List.append_nil] at now
        rw [← now, ← List.append_nil (past ++ _)]
        exact later split.symm
      | cons first sofar =>
        obtain ⟨rfl, -⟩ := List.cons.inj split
        exact here now

variable {settings : Settings} {device : Device} {occasions : List Occasion}

theorem allGuarantee (officeContract : OfficeContract rounds keeps good grants)
    (none : keeps 0 (opening settings device).system)
    (reached : (opening settings device).run rounds occasions = some office) :
    (∀ {past step rest}, (opening settings device).trace rounds occasions = past ++ step :: rest →
      Accounts rounds good past step) ∧
      ∃ share, keeps share office.system := by
  have start : (opening settings device).AllGuarantee rounds keeps good [] := ⟨[], rfl, nofun, none⟩
  have balanced := System.Balanced.opening settings device
  have idle : (opening settings device).Busy rounds := nofun
  obtain ⟨steps, places, -, -, fits⟩ := start.run officeContract idle balanced reached
  exact ⟨steps, _, fits⟩

end Office
end Switchboard
