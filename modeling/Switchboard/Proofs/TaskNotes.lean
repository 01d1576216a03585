import Switchboard.Proofs.Interleaving

/-! What tasks tell the world. Most steps of a task tell the world nothing; a step is `TellsAllowed`
if what it tells, if anything, is allowed. A fact that neither others nor such steps change
(`ProgramPoint.Lasting`) holds at the end of a program that takes only such steps if it holds at the
beginning, in addition to whatever else the program guarantees (`Program.Guarantees.frame`). -/

namespace Switchboard

variable {α β ι : Type} {rounds : Nat} {allowed : Note → Prop} {id : ConnectionId}
  {start before after later system : System Chronicle}

structure TellsAllowed (rounds : Nat) (allowed : Note → Prop) (system : System Chronicle) {β : Type}
    (step : Act Chronicle β) : Prop where
  taskStep : TaskStep (fun _ => True) system step
  tells : system.AtRest → step.Ensures (.level .silent rounds) system fun _ after =>
    ∀ note, after.outside = note :: system.outside → allowed note

namespace TellsAllowed

theorem of_outside {step : Act Chronicle β} (taskStep : TaskStep (fun _ => True) system step)
    (silent : system.AtRest → step.Ensures (.level .silent rounds) system fun _ after =>
      after.outside = system.outside) : TellsAllowed rounds allowed system step where
  taskStep
  tells rest value after run _ told :=
    absurd ((silent rest value after run).symm.trans told).symm (List.cons_ne_self _ _)

theorem of_stays (own : ConnectionId → Prop) {step : Act Chronicle β}
    (taskStep : TaskStep (fun _ => True) system step)
    (stays : system.AtRest → step.Ensures (.level .silent rounds) system fun _ after =>
      system.Stays own after) : TellsAllowed rounds allowed system step :=
  .of_outside taskStep fun rest => (stays rest).mono fun _ _ stays => stays.outside

theorem of_note {note : Note}
    (taskStep : TaskStep (fun _ => True) system (Act.reviseOutside (note :: ·)))
    (fine : allowed note) : TellsAllowed rounds allowed system (Act.reviseOutside (note :: ·)) where
  taskStep
  tells _ := (Act.ensures_reviseOutside _ _).mpr fun _ told => List.head_eq_of_cons_eq told ▸ fine

theorem permits (routine : ∀ note : Note, note.isRoutine = true → allowed note) :
    Act.Permits fun step => ∀ system, TellsAllowed rounds allowed system step where
  get _ := .of_outside .get fun _ => (Act.ensures_get _).mpr rfl
  look id _ := .of_outside (.look id) fun _ => (Act.ensures_look id _).mpr rfl
  failure _ := .of_outside .failure fun _ => Act.ensures_failure _
  note fine _ := .of_note (.note (Note.not_isDialing_of_isRoutine fine)) (routine _ fine)
  disconnect id info _ :=
    .of_stays (fun _ => False) (.disconnect id info) fun rest =>
      Act.stays_setDisconnected rest id info

theorem seeks (routine : ∀ note : Note, note.isRoutine = true → allowed note)
    (dials : ∀ phone number args, allowed (.asked (.dial id phone number args))) :
    Act.Seeks id (TellsAllowed rounds allowed) where
  permits := permits routine
  rounds _ := .of_outside .rounds fun _ => (Act.ensures_rounds _).mpr rfl
  nextPhone failed permanent _ :=
    .of_stays (fun _ => False) (.nextPhone trivial failed permanent) fun _ =>
      Act.stays_nextPhone id failed permanent
  reassign phone subscription technology carrier _ :=
    .of_stays (fun _ => True) (.reassign trivial phone subscription technology carrier) fun rest =>
      Act.stays_reassign rest trivial phone subscription technology carrier
  bind leg _ :=
    .of_stays (fun _ => False) (.bind trivial leg) fun rest => Act.stays_bind rest id leg
  dial held phone domain := .of_note (.dial trivial held phone domain) (dials _ _ _)

theorem chooses (routine : ∀ note : Note, note.isRoutine = true → allowed note)
    (dials : ∀ phone number args, allowed (.asked (.dial id phone number args)))
    (selects : ∀ request, allowed (.asked (.select id request)))
    (reselects : ∀ request, allowed (.asked (.reselect id request))) :
    Act.Chooses id (TellsAllowed rounds allowed) where
  toSeeks := seeks routine dials
  selects := {
    toPermits := permits routine
    startSelection := fun _ =>
      .of_stays (fun _ => False) (.startSelection id) fun _ => Act.stays_startSelection id
    finishSelection := fun _ =>
      .of_stays (fun _ => False) (.finishSelection id) fun _ => Act.stays_finishSelection id
    setSelectionActive := fun active _ =>
      .of_stays (fun _ => False) (.setSelectionActive id active) fun _ =>
        Act.stays_setSelectionActive id active
    select := fun request _ => .of_note (.note rfl) (selects request)
    reselect := fun request _ => .of_note (.note rfl) (reselects request) }

end TellsAllowed

def History.Tells (allowed : Note → Prop) (history : History) : Prop :=
  ∀ entry ∈ history, entry.own = true → ∀ note, entry.after.outside = note :: entry.before.outside →
    allowed note

namespace ProgramPoint

variable {holds more : ProgramPoint Unit → Prop} {now : ProgramPoint Unit}

def HasShown (id : ConnectionId) (state : CallState) (now : ProgramPoint Unit) : Prop :=
  (∃ entry ∈ now.history, (entry.before.connection id).published.state = state) ∨
    (now.system.connection id).published.state = state

/-- The call is there, and shows as disconnected. -/
def HasEnded (id : ConnectionId) (now : ProgramPoint Unit) : Prop :=
  now.system.Known id ∧ (now.system.connection id).published.state = .disconnected

theorem HasEnded.destroyed (ended : HasEnded id now) (balanced : now.system.Balanced) :
    (now.system.connection id).destroyed = true :=
  balanced.rest.destroyed_of_not_live (by rw [ended.2]; decide)

/-- Neither others nor steps of its own that tell only what is allowed change this. -/
structure Lasting (rounds : Nat) (allowed : Note → Prop) (holds : ProgramPoint Unit → Prop) :
    Prop where
  own {now : ProgramPoint Unit} {after : System Chronicle} : holds now → now.system.Balanced →
    Happens rounds now.system after →
      (∀ note, after.outside = note :: now.system.outside → allowed note) → holds (now.own after)
  meanwhile {now : ProgramPoint Unit} {more : Trace} {later : System Chronicle} : holds now →
    now.system.Balanced → Reaches rounds now.system more later → holds (now.meanwhile () more later)

namespace Lasting

theorem always : Lasting rounds allowed fun _ => True :=
  ⟨fun _ _ _ _ => trivial, fun _ _ _ => trivial⟩

theorem and (first : Lasting rounds allowed holds) (second : Lasting rounds allowed more) :
    Lasting rounds allowed fun now => holds now ∧ more now where
  own holds balanced happens tells :=
    ⟨first.own holds.1 balanced happens tells, second.own holds.2 balanced happens tells⟩
  meanwhile holds balanced reaches :=
    ⟨first.meanwhile holds.1 balanced reaches, second.meanwhile holds.2 balanced reaches⟩

theorem or (first : Lasting rounds allowed holds) (second : Lasting rounds allowed more) :
    Lasting rounds allowed fun now => holds now ∨ more now where
  own holds balanced happens tells :=
    holds.imp (first.own · balanced happens tells) (second.own · balanced happens tells)
  meanwhile holds balanced reaches :=
    holds.imp (first.meanwhile · balanced reaches) (second.meanwhile · balanced reaches)

theorem every {ι : Sort*} {each : ι → ProgramPoint Unit → Prop}
    (lasting : ∀ item, Lasting rounds allowed (each item)) :
    Lasting rounds allowed fun now => ∀ item, each item now where
  own holds balanced happens tells item := (lasting item).own (holds item) balanced happens tells
  meanwhile holds balanced reaches item := (lasting item).meanwhile (holds item) balanced reaches

theorem all {each : ι → ProgramPoint Unit → Prop} (items : List ι)
    (lasting : ∀ item, Lasting rounds allowed (each item)) :
    Lasting rounds allowed fun now => ∀ item ∈ items, each item now :=
  every fun item => every fun _ => lasting item

theorem of_lasts {fact : System Chronicle → Prop}
    (lasts : ∀ {before after : System Chronicle}, fact before → before.Lasts after → fact after) :
    Lasting rounds allowed fun now => fact now.system where
  own holds balanced happens _ := lasts holds (happens.stepOutcome balanced.rest).lasts
  meanwhile holds balanced reaches := lasts holds (reaches.since balanced)

theorem known (id : ConnectionId) : Lasting rounds allowed fun now => now.system.Known id :=
  .of_lasts fun known lasts => lasts.known known

theorem looked (lasting : Lasting rounds allowed holds) (here : holds now)
    (balanced : now.system.Balanced) : holds (now.own now.system) := by
  refine lasting.own here balanced (.taskStep .get rfl) fun _ told => ?_
  exact absurd told.symm (List.cons_ne_self _ _)

theorem hasEnded (id : ConnectionId) : Lasting rounds allowed (HasEnded id) where
  own {now after} ended balanced happens _ := by
    have lasts := (happens.stepOutcome balanced.rest).lasts
    exact ⟨lasts.known ended.1, (balanced.happens happens).shown id
      (lasts.gone ended.1 (ended.destroyed balanced))⟩
  meanwhile {now more later} ended balanced reaches := by
    have lasts := reaches.since balanced
    exact ⟨lasts.known ended.1, (balanced.reaches reaches).shown id
      (lasts.gone ended.1 (ended.destroyed balanced))⟩

theorem happened (kind : HistoryStep → Prop) :
    Lasting rounds allowed fun now => ∃ entry ∈ now.history, kind entry where
  own holds _ _ _ := holds.imp fun _ found => ⟨List.mem_append_left _ found.1, found.2⟩
  meanwhile holds _ _ := holds.imp fun _ found => ⟨List.mem_append_left _ found.1, found.2⟩

theorem told : Lasting rounds allowed fun now => now.history.Tells allowed where
  own {now after} holds _ _ tells entry among mine := by
    rcases List.mem_append.mp among with old | new
    · exact holds entry old mine
    · rw [List.mem_singleton.mp new]
      exact tells
  meanwhile {now more later} holds _ _ entry among mine := by
    rcases List.mem_append.mp among with old | new
    · exact holds entry old mine
    · obtain ⟨step, -, rfl⟩ := List.mem_map.mp new
      cases mine

theorem hasShown (id : ConnectionId) (state : CallState) :
    Lasting rounds allowed (HasShown id state) where
  own {now after} holds _ _ _ := by
    rcases holds with ⟨entry, among, shows⟩ | shows
    · exact .inl ⟨entry, List.mem_append_left _ among, shows⟩
    · exact .inl ⟨_, List.mem_append_right _ (List.mem_singleton_self _), shows⟩
  meanwhile {now more later} holds _ reaches := by
    rcases holds with ⟨entry, among, shows⟩ | shows
    · exact .inl ⟨entry, List.mem_append_left _ among, shows⟩
    · rcases reaches.leaves id with same | ⟨step, among, same⟩
      · exact .inr (same ▸ shows)
      · refine .inl ⟨⟨false, step.1, step.2⟩, List.mem_append_right _ ?_, same ▸ shows⟩
        exact List.mem_map_of_mem among

end Lasting
end ProgramPoint

namespace Program.Guarantees

section
variable {κ : Type} [AddCommMonoid κ] {keeps : κ → System Chronicle → Prop}
  {good : History → System Chronicle → System Chronicle → Prop} {now : ProgramPoint κ}
  {post : α → ProgramPoint κ → Prop}
  (free : ∀ {past : History} {before after : System Chronicle},
    (∀ note, after.outside = note :: before.outside → allowed note) → good past before after)
include free

theorem look {next : System Chronicle → Program Chronicle α}
    (guarantees : now.system.Balanced →
      (next now.system).Guarantees rounds keeps good post (now.own now.system)) :
    (Program.system >>= next).Guarantees rounds keeps good post now := by
  refine bind fun balanced => (Act.ensures_get _).mpr ⟨free fun _ told => ?_, guarantees balanced⟩
  exact absurd told.symm (List.cons_ne_self _ _)

theorem call {next : Connection → Program Chronicle α}
    (guarantees : now.system.Balanced →
      (next (now.system.connection id)).Guarantees rounds keeps good post (now.own now.system)) :
    (Program.call id >>= next).Guarantees rounds keeps good post now := by
  refine bind fun balanced =>
    (Act.ensures_look id _).mpr ⟨free fun _ told => ?_, guarantees balanced⟩
  exact absurd told.symm (List.cons_ne_self _ _)

theorem ask {asked : Call} {post : Nat → ProgramPoint κ → Prop}
    (asks : now.system.Balanced →
      good (now.own now.system).history now.system (now.system.noting (.asked asked)) ∧
        ∀ ticket, post ticket ((now.own now.system).own (now.system.noting (.asked asked)))) :
    (Program.ask asked).Guarantees rounds keeps good post now := by
  intro balanced
  refine (Act.ensures_get _).mpr ⟨free fun _ told => ?_, fun balanced => ?_⟩
  · exact absurd told.symm (List.cons_ne_self _ _)
  · obtain ⟨well, goes⟩ := asks balanced
    exact (Act.ensures_reviseOutside _ _).mpr ⟨well, goes _⟩

end

variable {good : History → System Chronicle → System Chronicle → Prop} {now : ProgramPoint Unit}
  {holds : ProgramPoint Unit → Prop} {post : α → ProgramPoint Unit → Prop}

theorem and {program : Program Chronicle α} {more : α → ProgramPoint Unit → Prop}
    (first : program.Guarantees rounds HoldsNothing good post now)
    (second : program.Guarantees rounds HoldsNothing good more now) :
    program.Guarantees rounds HoldsNothing good (fun value now => post value now ∧ more value now)
      now := by
  induction program generalizing now with
  | done value => exact ⟨first, second⟩
  | act step next ih =>
    intro balanced value after run
    obtain ⟨well, goes⟩ := first balanced value after run
    exact ⟨well, ih value goes (second balanced value after run).2⟩
  | wait pause next ih =>
    intro balanced
    obtain ⟨_, _, one⟩ := first balanced
    obtain ⟨_, _, other⟩ := second balanced
    refine ⟨(), trivial, fun others more later reaches fits =>
      ⟨fun value ready => ?_, fun past => ?_⟩⟩
    · exact ih _ ((one others more later reaches fits).1 value ready)
        ((other others more later reaches fits).1 value ready)
    · exact ih _ ((one others more later reaches fits).2 past)
        ((other others more later reaches fits).2 past)

section
variable (free : ∀ {past : History} {before after : System Chronicle},
  (∀ note, after.outside = note :: before.outside → allowed note) → good past before after)
include free

theorem quietly {program : Program Chronicle α}
    (lasting : ProgramPoint.Lasting rounds allowed holds)
    (takesOnly : program.TakesOnly (.level .silent rounds) (TellsAllowed rounds allowed) now.system)
    (here : holds now) :
    program.Guarantees rounds HoldsNothing good (fun _ => holds) now := by
  refine of_takesOnly (fun here balanced tellsAllowed value after run => ?_)
    (fun here balanced => ⟨(), trivial, fun _ more later reaches _ => ?_⟩) takesOnly here
  · have tells := tellsAllowed.tells balanced.rest value after run
    exact ⟨free tells, lasting.own here balanced (.taskStep tellsAllowed.taskStep run) tells⟩
  · exact lasting.meanwhile here balanced reaches

/-- What lasts holds at the end of a program that tells only what is allowed. -/
theorem frame {program : Program Chronicle α} (lasting : ProgramPoint.Lasting rounds allowed holds)
    (takesOnly : program.TakesOnly (.level .silent rounds) (TellsAllowed rounds allowed) now.system)
    (here : holds now) (guarantees : program.Guarantees rounds HoldsNothing good post now) :
    program.Guarantees rounds HoldsNothing good (fun value now => post value now ∧ holds now)
      now :=
  guarantees.and (quietly free lasting takesOnly here)

theorem converse {asked : Call} (lasting : ProgramPoint.Lasting rounds allowed holds)
    (routine : ∀ note : Note, note.isRoutine = true → allowed note)
    (asks : now.system.Balanced →
      good (now.own now.system).history now.system (now.system.noting (.asked asked)) ∧
        holds ((now.own now.system).own (now.system.noting (.asked asked)))) :
    (Program.converse asked).Guarantees rounds HoldsNothing good (fun _ => holds) now := by
  refine bind (ask free fun balanced => ?_)
  obtain ⟨well, here⟩ := asks balanced
  refine ⟨well, fun ticket => quietly free lasting (.of_uses ?_ _) here⟩
  exact Uses.expect (TellsAllowed.permits routine) ticket

theorem command {leg : LegId} {command : RadioCommand}
    (lasting : ProgramPoint.Lasting rounds allowed holds)
    (routine : ∀ note : Note, note.isRoutine = true → allowed note)
    (asks : now.system.Balanced →
      good (now.own now.system).history now.system
          (now.system.noting (.asked (.command leg command))) ∧
        holds ((now.own now.system).own (now.system.noting (.asked (.command leg command))))) :
    (openWorld.command leg command).Guarantees rounds HoldsNothing good (fun _ => holds) now := by
  refine bind (mono (converse free lasting routine asks) fun answer now here => ?_)
  split <;> exact here

theorem forEach {work : ι → Program Chronicle Unit} {each : ι → ProgramPoint Unit → Prop}
    (items : List ι)
    (uses : ∀ item, (work item).Uses fun step => ∀ system, TellsAllowed rounds allowed system step)
    (lasting : ProgramPoint.Lasting rounds allowed holds)
    (lasts : ∀ item, ProgramPoint.Lasting rounds allowed (each item))
    (step : ∀ item ∈ items, ∀ {now}, holds now →
      (work item).Guarantees rounds HoldsNothing good (fun _ => each item) now)
    (here : holds now) :
    (Program.forEach work items).Guarantees rounds HoldsNothing good
      (fun _ now => ∀ item ∈ items, each item now) now := by
  induction items generalizing now with
  | nil => exact fun _ among => absurd among List.not_mem_nil
  | cons item rest ih =>
    have first := frame free lasting (.of_uses (uses item) now.system) here
      (step item List.mem_cons_self here)
    refine bind (first.mono fun _ now done => ?_)
    have others := ih (fun item among => step item (.tail _ among)) done.2
    have goes : (Program.forEach work rest).Uses
        fun step => ∀ system, TellsAllowed rounds allowed system step :=
      Uses.forEach rest uses
    refine (frame free (lasts item) (.of_uses goes now.system) done.1 others).mono
      fun _ now all => ?_
    exact List.forall_mem_cons.mpr ⟨all.2, all.1⟩

end
end Program.Guarantees
end Switchboard
