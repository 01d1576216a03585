import Switchboard.Proofs.MakingRoom
import Switchboard.Proofs.Turns

/-! Placing a call as steps on the registries. Every step of every task is a turn of the books
(`Program.TurnsBooks`), whatever others do meanwhile. A placement enters one call at most, and its
answer tells what has become of the call: it has been bound to a leg just now, or it has ended; or
nothing was done but to speak with the world (`Program.TurnsBooks.place`). -/

namespace Switchboard

variable {rounds : Nat} {α β : Type} {before after system : System Chronicle} {id : ConnectionId}
  {calls : List ConnectionId} {placed : Prop} {now : ProgramPoint Unit}

def HistoryStep.entered? (entry : HistoryStep) : Option ConnectionId :=
  if entry.own && decide (entry.before.connections.length < entry.after.connections.length) then
    some (.issued entry.before.connections.length)
  else none

/-- The calls that the program has entered in the books. -/
def History.entered (history : History) : List ConnectionId :=
  history.filterMap HistoryStep.entered?

@[simp] theorem History.entered_append (past more : History) :
    (past ++ more).entered = past.entered ++ more.entered :=
  List.filterMap_append

@[simp] theorem History.entered_others (more : Trace) : (of false more).entered = [] :=
  List.filterMap_eq_nil_iff.mpr fun entry among => by
    obtain ⟨step, -, rfl⟩ := List.mem_map.mp among
    rfl

theorem History.entered_step (count : after.connections.length = before.connections.length) :
    History.entered [⟨true, before, after⟩] = [] := by
  simp [entered, HistoryStep.entered?, count]

/-- The step is nothing but a word to the world, if anything, and it asks for no dial. -/
structure HistoryStep.Speaks (entry : HistoryStep) : Prop where
  aside : entry.after = { entry.before with outside := entry.after.outside }
  undialed (note : Note) : entry.after.outside = note :: entry.before.outside →
    note.isDialing = false

/-- The program has done nothing but speak with the world. -/
def History.Idle (history : History) : Prop :=
  ∀ entry ∈ history, entry.own = true → entry.Speaks

theorem History.Idle.entered {history : History} (idle : history.Idle) : history.entered = [] := by
  refine List.filterMap_eq_nil_iff.mpr fun entry among => ?_
  rw [HistoryStep.entered?, ite_eq_right_iff]
  intro enters
  rw [Bool.and_eq_true, decide_eq_true_iff] at enters
  have aside := (idle entry among enters.1).aside
  rw [aside] at enters
  exact absurd enters.2 (Nat.lt_irrefl _)

namespace ProgramPoint

/-- The program has entered these calls, and the call that it has placed, if it has placed one, can
be dialed for or has ended. -/
structure HasPlaced (calls : List ConnectionId) (placed : Prop) (id : ConnectionId)
    (now : ProgramPoint Unit) :
    Prop where
  entered : now.history.entered = calls
  sustains : placed → now.system.Sustains id

namespace HasPlaced

theorem own (hasPlaced : now.HasPlaced calls placed id) (balanced : now.system.Balanced)
    (happens : Happens rounds now.system after)
    (count : after.connections.length = now.system.connections.length) :
    (now.own after).HasPlaced calls placed id where
  entered := by
    rw [ProgramPoint.own, History.entered_append, History.entered_step count, List.append_nil]
    exact hasPlaced.entered
  sustains mine := (hasPlaced.sustains mine).happens balanced happens

theorem looked (hasPlaced : now.HasPlaced calls placed id) :
    (now.own now.system).HasPlaced calls placed id where
  entered := by
    rw [ProgramPoint.own, History.entered_append, History.entered_step rfl, List.append_nil]
    exact hasPlaced.entered
  sustains := hasPlaced.sustains

theorem meanwhile (hasPlaced : now.HasPlaced calls placed id) (balanced : now.system.Balanced)
    {more : Trace}
    {later : System Chronicle} (reaches : Reaches rounds now.system more later) :
    (now.meanwhile () more later).HasPlaced calls placed id where
  entered := by
    rw [ProgramPoint.meanwhile, History.entered_append, History.entered_others, List.append_nil]
    exact hasPlaced.entered
  sustains mine := (hasPlaced.sustains mine).reaches balanced reaches

end HasPlaced

def Dialed (id : ConnectionId) : DialOutcome → ProgramPoint Unit → Prop
  | .bound, now => ∃ view, now.system.Connects id view
  | .cancelled, now => now.HasEnded id
  | _, _ => True

def Resolved (calls : List ConnectionId) (placed : Prop) (id : ConnectionId)
    (now : ProgramPoint Unit) :
    Prop :=
  now.HasPlaced calls placed id ∧ (placed → now.HasEnded id ∨ ∃ view, now.system.Connects id view)

/-- The answer tells what has become of the call. -/
def Answered (calls : List ConnectionId) (id : ConnectionId) (answer : Program.Placed)
    (now : ProgramPoint Unit) : Prop :=
  now.HasPlaced calls True id ∧ match answer with
    | .ok other => other = id ∧ ∃ view, now.system.Connects id view
    | .error _ => now.HasEnded id

def Readied (calls : List ConnectionId) (id : ConnectionId) (answer : Option Program.Placed)
    (now : ProgramPoint Unit) : Prop :=
  match answer with
  | none => now.HasPlaced calls True id ∧ (now.system.connection id).destroyed = false
  | some answer => now.Answered calls id answer

def Idles (past : History) (now : ProgramPoint Unit) : Prop :=
  ∃ more : History, now.history = past ++ more ∧ more.Idle

def Places (past : History) (answer : Program.Placed) (now : ProgramPoint Unit) : Prop :=
  (∃ id, now.Answered (past.entered ++ [id]) id answer) ∨
    ∃ info, answer = .error info ∧ now.Idles past

theorem Idles.own {past : History} (idles : now.Idles past)
    (speaks : HistoryStep.Speaks ⟨true, now.system, after⟩) : (now.own after).Idles past := by
  obtain ⟨more, split, idle⟩ := idles
  refine ⟨more ++
    [⟨true, now.system, after⟩], by simp [ProgramPoint.own, split], fun entry among mine => ?_⟩
  rcases List.mem_append.mp among with old | new
  · exact idle entry old mine
  · rw [List.mem_singleton.mp new]
    exact speaks

theorem Idles.enters {past : History} (idles : now.Idles past)
    (alive : (after.connection (.issued now.system.connections.length)).destroyed = false)
    (planned : after.Planned (.issued now.system.connections.length)) :
    (now.own after).HasPlaced (past.entered ++ [.issued now.system.connections.length]) True
      (.issued now.system.connections.length) := by
  obtain ⟨more, split, idle⟩ := idles
  have known := after.known_of_alive alive
  have enters : (HistoryStep.mk true now.system after).entered? =
      some (.issued now.system.connections.length) := if_pos (decide_eq_true known)
  have last : History.entered [⟨true, now.system, after⟩] =
      [.issued now.system.connections.length] := List.filterMap_cons_some enters
  refine ⟨?_, fun _ => ⟨known, .inl planned⟩⟩
  rw [ProgramPoint.own, split, History.entered_append, History.entered_append, idle.entered,
    List.append_nil, last]

theorem Idles.meanwhile {past : History} (idles : now.Idles past) (more : Trace)
    (later : System Chronicle) : (now.meanwhile () more later).Idles past := by
  obtain ⟨sofar, split, idle⟩ := idles
  refine ⟨sofar ++ History.of false
    more, by simp [ProgramPoint.meanwhile, split], fun entry among mine => ?_⟩
  rcases List.mem_append.mp among with old | new
  · exact idle entry old mine
  · obtain ⟨step, -, rfl⟩ := List.mem_map.mp new
    cases mine

end ProgramPoint

theorem HistoryStep.Speaks.looked (system : System Chronicle) :
    HistoryStep.Speaks ⟨true, system, system⟩ where
  aside := rfl
  undialed _ told := absurd told.symm (List.cons_ne_self _ _)

structure OnlyTells (rounds : Nat) (system : System Chronicle) {β : Type} (step : Act Chronicle β) :
    Prop where
  rightful : Rightful rounds system step
  speaks : step.Ensures (.level .silent rounds) system fun _ after =>
    HistoryStep.Speaks ⟨true, system, after⟩

theorem OnlyTells.note {note : Note} (plain : note.isDialing = false) :
    OnlyTells rounds system (Act.reviseOutside (note :: ·)) where
  rightful := .note plain
  speaks := (Act.ensures_reviseOutside _ _).mpr
    ⟨rfl, fun _ told => List.head_eq_of_cons_eq told ▸ plain⟩

namespace Program

abbrev TurnsBooks (program : Program Chronicle α) (rounds : Nat)
    (post : α → ProgramPoint Unit → Prop)
    (now : ProgramPoint Unit) : Prop :=
  program.Guarantees rounds HoldsNothing (fun _ before after => before.Turn after) post now

namespace TurnsBooks

theorem calmly {program : Program Chronicle α} {holds : ProgramPoint Unit → Prop}
    (lasting : ProgramPoint.Lasting rounds (fun _ => True) holds)
    (hasPlaced : now.HasPlaced calls placed id) (here : holds now)
    (takesOnly : program.TakesOnly (.level .silent rounds) (Rightful rounds) now.system) :
    program.TurnsBooks rounds (fun _ now => now.HasPlaced calls placed id ∧ holds now) now := by
  refine Guarantees.of_takesOnly (fun here balanced rightful value after run => ?_)
    (fun here balanced => ⟨(), trivial, fun _ more later reaches _ => ?_⟩) takesOnly
      ⟨hasPlaced, here⟩
  · have happens := Happens.taskStep rightful.taskStep run
    obtain ⟨turn, count⟩ := rightful.turns balanced value after run
    exact ⟨turn, here.1.own balanced happens count,
      lasting.own here.2 balanced happens fun _ _ => trivial⟩
  · exact ⟨here.1.meanwhile balanced reaches, lasting.meanwhile here.2 balanced reaches⟩

theorem calm {program : Program Chronicle α} (hasPlaced : now.HasPlaced calls placed id)
    (takesOnly : program.TakesOnly (.level .silent rounds) (Rightful rounds) now.system) :
    program.TurnsBooks rounds (fun _ now => now.HasPlaced calls placed id) now :=
  (calmly .always hasPlaced trivial takesOnly).mono fun _ _ => And.left

theorem quiet {program : Program Chronicle α} (hasPlaced : now.HasPlaced calls placed id)
    (uses : program.Uses fun step => ∀ system, Rightful rounds system step) :
    program.TurnsBooks rounds (fun _ now => now.HasPlaced calls placed id) now :=
  calm hasPlaced (.of_uses uses _)

theorem optional {condition : Prop} [Decidable condition] {first : Program Chronicle Unit}
    {rest : Program Chronicle α} {post : α → ProgramPoint Unit → Prop}
    (hasPlaced : now.HasPlaced calls placed id)
    (uses : first.Uses fun step => ∀ system, Rightful rounds system step)
    (goes : ∀ {now : ProgramPoint Unit}, now.HasPlaced calls placed id →
      rest.TurnsBooks rounds post now) :
    (if condition then first >>= fun _ => rest else rest).TurnsBooks rounds post now := by
  split
  · exact Guarantees.bind ((quiet hasPlaced uses).mono fun _ _ => goes)
  · exact goes hasPlaced

theorem look {next : System Chronicle → Program Chronicle α} {post : α → ProgramPoint Unit → Prop}
    (goes : now.system.Balanced → (next now.system).TurnsBooks rounds post (now.own now.system)) :
    (Program.system >>= next).TurnsBooks rounds post now :=
  Guarantees.bind fun balanced => (Act.ensures_get _).mpr ⟨.refl _, goes balanced⟩

theorem call {next : Connection → Program Chronicle α} {post : α → ProgramPoint Unit → Prop}
    (goes : now.system.Balanced →
      (next (now.system.connection id)).TurnsBooks rounds post (now.own now.system)) :
    (Program.call id >>= next).TurnsBooks rounds post now :=
  Guarantees.bind fun balanced => (Act.ensures_look id _).mpr ⟨.refl _, goes balanced⟩

theorem isLive {next : Bool → Program Chronicle α} {post : α → ProgramPoint Unit → Prop}
    (hasPlaced : now.HasPlaced calls placed id)
    (up : now.system.Balanced → (now.own now.system).HasPlaced calls placed id →
      (now.system.connection id).destroyed = false →
        (next true).TurnsBooks rounds post (now.own now.system))
    (down : (now.own now.system).HasPlaced calls placed id →
      (placed → (now.own now.system).HasEnded id) →
        (next false).TurnsBooks rounds post (now.own now.system)) :
    (Program.isLive id >>= next).TurnsBooks rounds post now := by
  refine Guarantees.bind (call fun balanced => ?_)
  change (next (now.system.connection id).published.state.isLive).TurnsBooks rounds post _
  cases live : (now.system.connection id).published.state.isLive with
  | true =>
    refine up balanced hasPlaced.looked ((Bool.not_eq_true _).mp fun gone => ?_)
    rw [balanced.shown id gone] at live
    cases live
  | false =>
    have gone := balanced.rest.destroyed_of_not_live ((Bool.not_eq_true _).mpr live)
    exact down hasPlaced.looked fun mine => ⟨(hasPlaced.sustains mine).1, balanced.shown id gone⟩

/-- Whoever is told to end has ended afterwards. -/
theorem disconnect (hasPlaced : now.HasPlaced calls placed id) (info : DisconnectInfo) :
    (Program.disconnect id info).TurnsBooks rounds
      (fun _ now => now.HasPlaced calls placed id ∧ (placed → now.HasEnded id)) now := by
  have rightful := (Rightful.permits rounds).disconnect id info now.system
  refine Guarantees.atOnce fun balanced value after run => ?_
  have happens := Happens.taskStep rightful.taskStep run
  obtain ⟨turn, count⟩ := rightful.turns balanced value after run
  have ripple :=
    Act.ripple_setDisconnected (Wiring.ripples_notes rounds) balanced.rest id info value
    after run
  have gone : (after.connection id).destroyed = true :=
    (ripple.destroyed id).trans (balanced.rest.destroyed_ending id info)
  have hasPlaced := hasPlaced.own balanced happens count
  exact ⟨turn, hasPlaced, fun mine =>
    ⟨(hasPlaced.sustains mine).1, (balanced.happens happens).shown id gone⟩⟩

theorem ends (hasPlaced : now.HasPlaced calls placed id) (info : DisconnectInfo) :
    (Program.disconnect id info).TurnsBooks rounds
      (fun _ => ProgramPoint.Resolved calls placed id) now :=
  (disconnect hasPlaced info).mono fun _ _ ended => ⟨ended.1, fun mine => .inl (ended.2 mine)⟩

theorem receive (hasPlaced : now.HasPlaced calls placed id)
    (answer : Except RadioError (Option LegId)) :
    (Program.receive id answer).TurnsBooks rounds
      (fun outcome now => now.HasPlaced calls placed id ∧ (placed → now.Dialed id outcome)) now :=
        by
  rcases answer with error | _ | leg
  · exact ⟨hasPlaced, fun _ => trivial⟩
  · exact ⟨hasPlaced, fun _ => trivial⟩
  refine isLive hasPlaced (fun _ hasPlaced alive => ?_) fun hasPlaced ended => ?_
  · have rightful : Rightful rounds _ (Act.bind id leg) := .bind alive leg
    refine Guarantees.bind (Guarantees.atOnce fun balanced value after run => ?_)
    obtain ⟨turn, count⟩ := rightful.turns balanced value after run
    have connects := Act.connects_bind balanced.rest alive leg value after run
    exact ⟨turn, hasPlaced.own balanced (.taskStep rightful.taskStep run) count, fun _ =>
      ⟨_, connects⟩⟩
  · have hangs := Uses.hangupLeg (Rightful.permits rounds) leg
    exact Guarantees.bind (calmly (.every fun _ => .hasEnded id) hasPlaced ended (.of_uses hangs _))

theorem dialAndBind (hasPlaced : now.HasPlaced calls placed id) (slot : Slot)
    (domain : Option Domain) :
    (Program.dialAndBind openWorld id slot domain).TurnsBooks rounds
      (fun outcome now => now.HasPlaced calls placed id ∧ (placed → now.Dialed id outcome)) now :=
        by
  rw [dialAndBind_eq]
  refine look fun balanced => ?_
  cases held : now.system.planOf? id with
  | none =>
    refine ⟨hasPlaced.looked, fun mine => ?_⟩
    obtain ⟨known, sustains⟩ := hasPlaced.sustains mine
    refine ⟨known, balanced.shown id (sustains.resolve_left fun planned => ?_)⟩
    rw [System.Planned, held] at planned
    cases planned
  | some plan =>
    have asks (phone : PhoneId) : (Program.converse (.dial id phone plan.dial
        (plan.args (now.system.connection id) domain))).TakesOnly (.level .silent rounds)
          (Rightful rounds) now.system := by
      refine .bind ⟨(Rightful.permits rounds).get _, ?_⟩ fun ticket _ =>
        .of_uses (Uses.expect (Rightful.permits rounds) ticket) _
      rw [Act.ensures_get]
      exact ⟨.dial held phone domain, fun _ _ _ => trivial⟩
    exact look fun _ =>
      Guarantees.bind ((calm hasPlaced.looked.looked (asks _)).mono fun answer _ hasPlaced =>
      receive hasPlaced answer.dialed)

theorem conclude {attempt : Attempt} (loops : attempt ≠ .first) {phone : PhoneId}
    {outcome : DialOutcome} (hasPlaced : now.HasPlaced calls placed id)
    (dialed : placed → now.Dialed id outcome)
    (fails : ∀ error, (attempt.conclude id phone (.failed error)).TurnsBooks rounds
      (fun _ => ProgramPoint.Resolved calls placed id) now) :
    (attempt.conclude id phone outcome).TurnsBooks rounds
      (fun _ => ProgramPoint.Resolved calls placed id) now := by
  cases attempt with
  | first => exact absurd rfl loops
  | redial _ | reselection _ =>
    cases outcome with
    | bound => exact ⟨hasPlaced, fun mine => .inr (dialed mine)⟩
    | cancelled => exact ⟨hasPlaced, fun mine => .inl (dialed mine)⟩
    | noCall => exact ends hasPlaced _
    | failed error => exact fails error

theorem redialFrom (hasPlaced : now.HasPlaced calls placed id) (patience : Nat) (failed : PhoneId)
    (permanent : Bool) :
    (Program.redialFrom openWorld id patience failed permanent).TurnsBooks rounds
      (fun _ => ProgramPoint.Resolved calls placed id) now := by
  induction patience generalizing failed permanent now with
  | zero => exact Guarantees.atOnce fun _ => Act.ensures_failure _
  | succ patience ih =>
    rw [Attempt.redialFrom_eq]
    refine isLive hasPlaced (fun _ hasPlaced alive => ?_) fun hasPlaced ended =>
      ⟨hasPlaced, fun mine => .inl (ended mine)⟩
    refine Guarantees.bind ((calm hasPlaced (.atOnce (.nextPhone alive failed permanent))).mono
      fun next now hasPlaced => ?_)
    cases next with
    | none => exact ends hasPlaced _
    | some next =>
      refine look fun _ => ?_
      dsimp only
      cases now.system.device.slotOf? next with
      | none => exact ih hasPlaced.looked _ _
      | some slot =>
        refine Guarantees.bind ((calm hasPlaced.looked (.atOnce (.reassign id next _ _ _))).mono
          fun _ now hasPlaced => ?_)
        refine Guarantees.bind
          ((dialAndBind hasPlaced slot none).mono fun outcome now ⟨hasPlaced, dialed⟩ => ?_)
        refine conclude (by nofun) hasPlaced dialed fun error => ?_
        rw [Attempt.conclude]
        split
        · exact ends hasPlaced _
        · exact ih hasPlaced _ _

theorem redial (hasPlaced : now.HasPlaced calls placed id) (failed : PhoneId) (permanent : Bool) :
    (Program.redial openWorld id failed permanent).TurnsBooks rounds
      (fun _ => ProgramPoint.Resolved calls placed id) now :=
  Guarantees.bind ((calm hasPlaced (.atOnce (.readsRounds _))).mono fun patience _ hasPlaced =>
    redialFrom hasPlaced patience failed permanent)

theorem reselectFrom (hasPlaced : now.HasPlaced calls placed id) (left : Nat)
    (cause : DisconnectCause)
    (code : Int) :
    (Program.reselectFrom openWorld id left cause code).TurnsBooks rounds
      (fun _ => ProgramPoint.Resolved calls placed id) now := by
  have permits := Rightful.permits rounds
  induction left generalizing cause code now with
  | zero => exact ends hasPlaced _
  | succ left ih =>
    rw [Attempt.reselectFrom_eq]
    refine isLive hasPlaced (fun _ hasPlaced _ => look fun _ => ?_) fun hasPlaced ended =>
      ⟨hasPlaced, fun mine => .inl (ended mine)⟩
    dsimp only
    split
    · exact Guarantees.bind ((ends hasPlaced.looked _).mono fun _ _ ended => ended)
    split
    case h_2 => exact ends hasPlaced.looked _
    refine Guarantees.bind ((quiet hasPlaced.looked (Uses.reselect permits fun _ => .note rfl)).mono
      fun answer now hasPlaced => ?_)
    split
    · exact Guarantees.bind ((ends hasPlaced _).mono fun _ _ ended => ended)
    refine isLive hasPlaced (fun _ hasPlaced _ => ?_) fun hasPlaced ended =>
      ⟨hasPlaced, fun mine => .inl (ended mine)⟩
    refine Guarantees.bind
      ((dialAndBind hasPlaced _ _).mono fun outcome now ⟨hasPlaced, dialed⟩ => ?_)
    refine conclude (by nofun) hasPlaced dialed fun error => ?_
    rw [Attempt.conclude]
    split
    · exact ih hasPlaced _ _
    · exact ends hasPlaced _

theorem gone (hasPlaced : now.HasPlaced calls True id) (ended : now.HasEnded id) :
    (Program.gone id).TurnsBooks rounds (ProgramPoint.Answered calls id) now :=
  call fun _ => ⟨hasPlaced.looked, ended⟩

theorem fail (hasPlaced : now.HasPlaced calls True id) (info : DisconnectInfo) :
    (Program.fail id info).TurnsBooks rounds (ProgramPoint.Answered calls id) now :=
  Guarantees.bind ((disconnect hasPlaced info).mono fun _ _ ended => call fun _ =>
    ⟨ended.1.looked, ended.2 trivial⟩)

theorem report (resolved : now.Resolved calls True id) :
    (do
      if ← Program.isLive id then return Except.ok id
      Program.gone id : Program Chronicle Placed).TurnsBooks rounds
        (ProgramPoint.Answered calls id) now := by
  refine isLive resolved.1 (fun balanced hasPlaced alive => ⟨hasPlaced, rfl, ?_⟩)
    fun hasPlaced ended => gone hasPlaced (ended trivial)
  refine (resolved.2 trivial).resolve_left fun ended => ?_
  rw [ended.destroyed balanced] at alive
  cases alive

theorem settle (hasPlaced : now.HasPlaced calls True id) (phone : PhoneId) {outcome : DialOutcome}
    (dialed : now.Dialed id outcome) :
    (Program.settle openWorld id phone outcome).TurnsBooks rounds
      (ProgramPoint.Answered calls id) now := by
  rcases outcome with _ | _ | _ | error
  · exact ⟨hasPlaced, rfl, dialed⟩
  · exact fail hasPlaced _
  · exact gone hasPlaced dialed
  · refine call fun _ => look fun _ => ?_
    dsimp only
    split
    · exact Guarantees.bind ((redial hasPlaced.looked.looked _ _).mono fun _ _ => report)
    split
    · exact Guarantees.bind ((reselectFrom hasPlaced.looked.looked _ _ _).mono fun _ _ => report)
    · exact fail hasPlaced.looked.looked _

theorem dialOut (hasPlaced : now.HasPlaced calls True id) (placement : Placement)
    (domain : Option Domain) :
    (Program.dialOut openWorld id placement domain).TurnsBooks rounds
      (ProgramPoint.Answered calls id) now := by
  refine isLive hasPlaced (fun _ hasPlaced _ => ?_) fun hasPlaced ended => ?_
  · exact Guarantees.bind ((dialAndBind hasPlaced _ _).mono fun _ _ dialed =>
      settle dialed.1 _ (dialed.2 trivial))
  · exact Guarantees.bind ((gone hasPlaced (ended trivial)).mono fun _ _ answered => answered)

theorem selectDomain (hasPlaced : now.HasPlaced calls placed id)
    (alive : (now.system.connection id).destroyed = false)
    (selector : now.system.device.hasSelector = true) (slot : Slot) :
    (Program.selectDomain openWorld id slot).TurnsBooks rounds
      (fun _ now => now.HasPlaced calls placed id) now := by
  have permits := Rightful.permits rounds
  have active (on : Bool) : (Program.atOnce (Act.setSelectionActive id on)).Uses
      fun step => ∀ system, Rightful rounds system step :=
    .atOnce fun _ => .setSelectionActive id on
  refine calm hasPlaced (.bind (.atOnce (.startSelection alive selector)) fun _ _ => .of_uses ?_ _)
  refine .bind (active true) fun _ => .bind (.system permits) fun system =>
    .bind (.select permits fun _ => .note rfl) fun answer => ?_
  split
  · exact .pure _
  · exact .bind (active false) fun _ =>
      .bind (.atOnce fun _ => .finishSelection id) fun _ => .pure _
  · exact .pure _

theorem chooseAndDial (hasPlaced : now.HasPlaced calls True id)
    (alive : (now.system.connection id).destroyed = false) (placement : Placement) :
    (Program.chooseAndDial openWorld id placement).TurnsBooks rounds
      (ProgramPoint.Answered calls id) now := by
  refine look fun _ => ?_
  split
  · rename_i wanted
    have selector : now.system.device.hasSelector = true := (Bool.and_eq_true_iff.mp wanted).2
    refine Guarantees.bind
      ((selectDomain hasPlaced.looked alive selector _).mono fun answer now hasPlaced => ?_)
    cases answer with
    | ok domain => exact dialOut hasPlaced placement domain
    | error cause => exact fail hasPlaced _
  · have prepares := Uses.prepareToDial (Rightful.permits rounds) id placement.phone.id
      placement.number.emergency placement.carrier
    exact Guarantees.bind ((quiet hasPlaced.looked prepares).mono fun _ _ hasPlaced =>
      dialOut hasPlaced placement none)

theorem waitForService (hasPlaced : now.HasPlaced calls True id) (slot : Slot) (emergency : Bool)
    (limit : Nat) :
    (Program.waitForService slot id emergency limit).TurnsBooks rounds
      (fun outcome now => now.HasPlaced calls True id ∧
        (outcome = .cancelled → now.HasEnded id)) now := by
  refine Guarantees.bind (Guarantees.bind (Guarantees.bind (look fun balanced => ?_)))
  refine fun _ => ⟨(), trivial, fun _ more later reaches _ => ?_⟩
  have hasPlaced := hasPlaced.looked.meanwhile balanced reaches
  refine ⟨fun outcome ready => ⟨hasPlaced, ?_⟩, fun _ => ⟨hasPlaced, nofun⟩⟩
  rintro rfl
  dsimp only at ready
  split at ready
  · cases ready
  split at ready
  · rename_i ended
    have watched := ((balanced.reaches reaches).rest.steady id).watched
    exact ⟨(hasPlaced.sustains trivial).1, watched.symm.trans (eq_of_beq ended)⟩
  · cases ready

theorem ensureRadio (hasPlaced : now.HasPlaced calls True id) (slot : Slot) (emergency : Bool) :
    (Program.ensureRadio openWorld id slot emergency).TurnsBooks rounds
      (ProgramPoint.Readied calls id) now := by
  have permits := Rightful.permits rounds
  have ends {now : ProgramPoint Unit} {program : Program Chronicle Placed}
      (answers : program.TurnsBooks rounds (ProgramPoint.Answered calls id) now) :
      (do return some (← program) : Program Chronicle (Option Placed)).TurnsBooks rounds
        (ProgramPoint.Readied calls id) now :=
    Guarantees.bind (answers.mono fun _ _ answered => answered)
  have goes {now : ProgramPoint Unit} (hasPlaced : now.HasPlaced calls True id) : (do
      if ← Program.isLive id then return none
      return some (← Program.gone id) : Program Chronicle (Option Placed)).TurnsBooks rounds
        (ProgramPoint.Readied calls id) now :=
    isLive hasPlaced (fun _ hasPlaced alive => ⟨hasPlaced, alive⟩) fun hasPlaced ended =>
      ends (gone hasPlaced (ended trivial))
  refine look fun _ => ?_
  dsimp only
  split
  · refine optional hasPlaced.looked (Uses.airplaneOff permits) fun hasPlaced => ?_
    refine Guarantees.bind
      ((quiet hasPlaced (Uses.power permits slot _ _)).mono fun _ _ hasPlaced => ?_)
    refine look fun _ => Guarantees.bind ((waitForService hasPlaced.looked _ _ _).mono
      fun outcome now waited => ?_)
    cases outcome with
    | reached => exact goes waited.1
    | cancelled => exact ends (gone waited.1 (waited.2 rfl))
    | timedOut => exact ends (fail waited.1 _)
  · split
    · exact ends (fail hasPlaced.looked _)
    · exact goes hasPlaced.looked

theorem complete (hasPlaced : now.HasPlaced calls True id) (placement : Placement) :
    (Program.complete openWorld id placement).TurnsBooks rounds
      (ProgramPoint.Answered calls id) now := by
  rw [complete_eq]
  refine Guarantees.bind ((ensureRadio hasPlaced _ _).mono fun answer now ready => ?_)
  cases answer with
  | some answer => exact ready
  | none =>
    obtain ⟨hasPlaced, alive⟩ := ready
    dsimp only
    split
    · have prepares := Uses.prepareForEmergency (Rightful.permits rounds) id placement.phone.id
        placement.carrier fun leg system => .note rfl
      refine Guarantees.bind ((quiet hasPlaced prepares).mono fun _ now hasPlaced => ?_)
      refine isLive hasPlaced (fun _ hasPlaced alive => chooseAndDial hasPlaced alive placement)
        fun hasPlaced ended => ?_
      exact Guarantees.bind ((gone hasPlaced (ended trivial)).mono fun _ _ answered => answered)
    · exact chooseAndDial hasPlaced alive placement

theorem clearSatellite {past : History} (idles : now.Idles past) (emergency : Bool) :
    (Program.clearSatellite openWorld emergency).TurnsBooks rounds
      (fun _ now => now.Idles past) now := by
  have permits := Rightful.permits rounds
  have speaks {program : Program Chronicle Answer} {now : ProgramPoint Unit}
      (idles : now.Idles past)
      (takesOnly : program.TakesOnly (.level .silent rounds) (OnlyTells rounds) now.system) :
      program.TurnsBooks rounds (fun _ now => now.Idles past) now :=
    Guarantees.of_takesOnly (fun idles balanced onlyTells value after run =>
      ⟨(onlyTells.rightful.turns balanced value after run).1,
        idles.own (onlyTells.speaks value after run)⟩)
      (fun idles _ => ⟨(), trivial, fun _ more later _ _ => idles.meanwhile more later⟩)
        takesOnly idles
  have leaves {system : System Chronicle} :
      (Program.converse .leaveSatellite).TakesOnly (.level .silent rounds)
        (OnlyTells rounds) system := by
    refine .bind ⟨⟨permits.get _, (Act.ensures_get _).mpr (.looked _)⟩, ?_⟩ fun ticket _ => ?_
    · rw [Act.ensures_get]
      exact ⟨.note rfl, fun _ _ _ => trivial⟩
    · intro answer after
      cases answer with
      | none => exact ⟨⟨permits.failure _, Act.ensures_failure _⟩, fun _ _ _ => trivial⟩
      | some answer => exact ⟨.note rfl, fun _ _ _ => trivial⟩
  refine look fun _ => ?_
  have idles : (now.own now.system).Idles past := idles.own (.looked _)
  dsimp only
  split
  · exact idles
  split
  · exact idles
  split
  · exact idles
  · refine Guarantees.bind (Guarantees.bind ((speaks idles leaves).mono fun answer now idles => ?_))
    split
    · rename_i yes
      cases yes <;> exact idles
    · exact idles

/-- Whoever places a call enters one at most, and answers for it. -/
theorem place (request : CallRequest) (now : ProgramPoint Unit) :
    (Program.place openWorld request).TurnsBooks rounds (ProgramPoint.Places now.history) now := by
  have refuses {later : ProgramPoint Unit} (cause : DisconnectCause)
      (idles : later.Idles now.history) :
      (Program.refuse cause).TurnsBooks rounds (ProgramPoint.Places now.history) later :=
    .inr ⟨_, rfl, idles⟩
  have idles : (now.own now.system).Idles now.history :=
    ProgramPoint.Idles.own ⟨[], (List.append_nil _).symm, fun _ none =>
      absurd none List.not_mem_nil⟩
      (.looked _)
  refine look fun _ => ?_
  cases prepared : now.system.prepare? request with
  | error cause => exact refuses cause idles
  | ok placement =>
    refine Guarantees.bind ((clearSatellite idles _).mono fun objection later idles => ?_)
    cases objection with
    | some cause => exact refuses cause idles
    | none =>
      refine Guarantees.bind (Guarantees.atOnce fun balanced value after run => ?_)
      obtain ⟨rfl, alive, planned⟩ :=
        Act.placed_enroll balanced.rest request placement value after run
      exact ⟨Act.turns_enroll balanced request placement _ after run,
        (complete (idles.enters alive planned) placement).mono fun _ _ answered =>
          .inl ⟨_, answered⟩⟩

end TurnsBooks
end Program

theorem OfficeContract.turnsBooks (rounds : Nat) :
    OfficeContract rounds HoldsNothing (fun _ before after => before.Turn after) fun _ => () where
  absorb _ := trivial
  occasion _ _ _ _ _ _ _ _ := trivial
  operation operation now _ := by
    by_cases placing : ∃ request, operation = .place request
    · obtain ⟨request, rfl⟩ := placing
      exact Program.Guarantees.bind
        ((Program.TurnsBooks.place request now).mono fun _ _ _ => trivial)
    · have hasPlaced : now.HasPlaced now.history.entered False (.outsider 0) := ⟨rfl, False.elim⟩
      have uses := Program.Uses.operation (Rightful.permits rounds)
        (fun request same => placing ⟨request, same⟩) (fun _ _ _ => .note rfl)
        fun _ _ _ => .note rfl
      exact (Program.TurnsBooks.quiet hasPlaced uses).mono fun _ _ _ => trivial
  followUp work now _ := by
    have hasPlaced (id : ConnectionId) : now.HasPlaced now.history.entered False id :=
      ⟨rfl, False.elim⟩
    cases work with
    | redial id failed permanent =>
      exact (Program.TurnsBooks.redial (hasPlaced id) failed permanent).mono fun _ _ _ => trivial
    | reselect id cause code =>
      exact (Program.TurnsBooks.reselectFrom (hasPlaced id) _ cause code).mono fun _ _ _ => trivial
    | errand number => trivial

end Switchboard
