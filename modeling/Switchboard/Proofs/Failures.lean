import Switchboard.Proofs.ConnectedCalls
import Switchboard.Proofs.Dials
import Switchboard.Proofs.Routing

/-! What is done about an attempt that failed. The first dial of a call, a redial, a reselection
dial and the leg of the call each have their own answer to a failure. Three of the four try other
phones after an emergency failure, and three of the four ask for another domain when the network
wants one: a reselection does not redial, and a redial does not reselect. -/

namespace Switchboard

namespace Program

variable {ε α β : Type}

def Leads (wiring : Wiring ε) {α : Type} :
    Program ε α → System ε → (α → System ε → Prop) → (System ε → Prop) → Prop
  | .done value, system, ends, _ => ends value system
  | .act step next, system, ends, stops =>
    step.Ensures wiring system fun value after => (next value).Leads wiring after ends stops
  | .wait pause next, system, ends, stops =>
    match pause.ready system with
    | some value => (next (some value)).Leads wiring system ends stops
    | none =>
      if pause.deadline.any (· ≤ system.clock) then (next none).Leads wiring system ends stops
      else stops system

namespace Leads

variable {wiring : Wiring ε} {now : System ε} {stops : System ε → Prop}

theorem of_bind {program : Program ε α} {next : α → Program ε β} {ends : β → System ε → Prop}
    (leads : program.Leads wiring now
      (fun value after => (next value).Leads wiring after ends stops) stops) :
    (program >>= next).Leads wiring now ends stops := by
  change (program.bind next).Leads wiring now ends stops
  induction program generalizing now with
  | done value => exact leads
  | act step rest ih => exact Act.Ensures.mono leads fun value after goes => ih value goes
  | wait pause rest ih =>
    simp only [Program.bind, Leads] at leads ⊢
    split
    · rename_i value ready
      rw [ready] at leads
      exact ih _ leads
    · rename_i ready
      rw [ready] at leads
      dsimp only at leads
      split
      · rename_i late
        rw [if_pos late] at leads
        exact ih _ leads
      · rename_i early
        rw [if_neg early] at leads
        exact leads

theorem mono {program : Program ε α} {ends weaker : α → System ε → Prop}
    (leads : program.Leads wiring now ends stops)
    (weaken : ∀ {value after}, ends value after → weaker value after) :
    program.Leads wiring now weaker stops := by
  induction program generalizing now with
  | done value => exact weaken leads
  | act step rest ih => exact Act.Ensures.mono leads fun value after goes => ih value goes
  | wait pause rest ih =>
    simp only [Leads] at leads ⊢
    split
    · rename_i value ready
      rw [ready] at leads
      exact ih _ leads
    · rename_i ready
      rw [ready] at leads
      dsimp only at leads
      split
      · rename_i late
        rw [if_pos late] at leads
        exact ih _ leads
      · rename_i early
        rw [if_neg early] at leads
        exact leads

theorem atOnce {step : Act ε α} {ends : α → System ε → Prop}
    (ensures : step.Ensures wiring now ends) :
    (Program.atOnce step).Leads wiring now ends stops := ensures

theorem system {ends : System ε → System ε → Prop} (goes : ends now now) :
    Program.system.Leads wiring now ends stops :=
  atOnce ((Act.ensures_get _).mpr goes)

theorem call {id : ConnectionId} {ends : Connection → System ε → Prop}
    (goes : ends (now.connection id) now) :
    (Program.call id).Leads wiring now ends stops :=
  atOnce ((Act.ensures_look _ _).mpr goes)

theorem advance {program : Program ε Unit} {goal : System ε → Prop}
    (leads : program.Leads wiring now (fun _ => goal) goal) {after : System ε}
    {left : Option (Program ε Unit)} (ran : program.advance wiring now = some (after, left)) :
    goal after := by
  induction program generalizing now with
  | done value =>
    cases ran
    exact leads
  | act step next ih =>
    rw [Program.advance] at ran
    split at ran
    · cases ran
    · rename_i value next run
      exact ih value (leads value next run) ran
  | wait pause next ih =>
    rw [Program.advance] at ran
    simp only [Leads] at leads
    split at ran
    · rename_i value ready
      rw [ready] at leads
      exact ih _ leads ran
    · rename_i ready
      rw [ready] at leads
      dsimp only at leads
      split at ran
      · rename_i late
        rw [if_pos late] at leads
        exact ih _ leads ran
      · rename_i early
        rw [if_neg early] at leads
        cases ran
        exact leads

end Leads

end Program

namespace System

/-- The phone that a redial takes next after this failure, and the registry with it. -/
def pick (system : System Chronicle) (id : ConnectionId) (failed : PhoneId) (permanent : Bool) :
    Option PhoneId × Registry :=
  let phones := system.device.slots.map fun slot => (system.device.phone slot).id
  system.registry.nextPhone id phones system.settings.emergencyRetryRounds failed permanent

/-- The call is dialed on its next phone, or it ends for want of one. A phone that is not there has
failed for good. -/
inductive Redials (id : ConnectionId) (after : System Chronicle) :
    System Chronicle → PhoneId → Bool → Prop
  | dialed {before failed permanent phone registry number args}
    (next : before.pick id failed permanent = (some phone, registry))
    (there : (before.device.slotOf? phone).isSome = true)
    (asked : after.outside = .asked (.dial id phone number args) :: before.outside) :
    Redials id after before failed permanent
  | absent {before failed permanent phone registry}
    (next : before.pick id failed permanent = (some phone, registry))
    (absent : before.device.slotOf? phone = none)
    (rest : Redials id after { before with registry } phone true) :
    Redials id after before failed permanent
  | exhausted {before failed permanent registry}
    (none : before.pick id failed permanent = (none, registry))
    (unasked : after.outside = before.outside)
    (ended : (after.connection id).ended = some .exhausted) :
    Redials id after before failed permanent

/-- There is somebody to ask for another domain, and the phone that the call is on. -/
def CanReselect (system : System Chronicle) (id : ConnectionId) : Prop :=
  system.device.hasSelector = true ∧
    (system.device.slotOf? (system.connection id).phone).isSome = true

def Reselects (id : ConnectionId) (after before : System Chronicle) (cause : DisconnectCause)
    (code : Int) : Prop :=
  ∃ request, request.failure = some (cause, code) ∧
    after.outside = .asked (.reselect id request) :: before.outside

theorem Redials.outcome {id : ConnectionId} {before after : System Chronicle} {failed : PhoneId}
    {permanent : Bool} (redials : Redials id after before failed permanent) :
    (∃ phone number args,
      after.outside = .asked (.dial id phone number args) :: before.outside) ∨
    (after.connection id).ended = some .exhausted := by
  induction redials with
  | dialed _ _ asked => exact .inl ⟨_, _, _, asked⟩
  | absent _ _ _ ih => exact ih
  | exhausted _ _ ended => exact .inr ended

/-- A live connection in the books that nobody is at work on just now, and no answer that nobody has
asked for. -/
structure Waiting (system : System Chronicle) (id : ConnectionId) : Prop where
  rest : system.AtRest
  alive : (system.connection id).destroyed = false
  planned : (system.planOf? id).isSome = true
  early {ticket : Nat} {answer : Answer} : system.outside.Answered ticket answer →
    ticket < system.outside.length

structure LiveUnserved (system : System Chronicle) (id : ConnectionId) : Prop where
  rest : system.AtRest
  alive : (system.connection id).destroyed = false
  early {ticket : Nat} {answer : Answer} : system.outside.Answered ticket answer →
    ticket < system.outside.length

namespace LiveUnserved

variable {system : System Chronicle} {id : ConnectionId}

theorem live (liveUnserved : system.LiveUnserved id) :
    (system.connection id).published.state.isLive = true := by
  obtain ⟨shown, up⟩ := liveUnserved.rest.alive liveUnserved.alive
  simpa [CallState.isLive, shown] using up

theorem noting (liveUnserved : system.LiveUnserved id) {note : Note}
    (plain : ∀ ticket, note.answer? ticket = none) :
    (system.noting note).LiveUnserved id where
  rest := liveUnserved.rest.of_connections fun _ => by simp
  alive := by simpa using liveUnserved.alive
  early answered := by
    rcases Chronicle.answered_cons.mp answered with new | old
    · rw [plain] at new
      cases new
    · exact Nat.lt_succ_of_lt (liveUnserved.early old)

end LiveUnserved

namespace Waiting

variable {system : System Chronicle} {id : ConnectionId}

theorem liveUnserved (waiting : system.Waiting id) : system.LiveUnserved id :=
  ⟨waiting.rest, waiting.alive, waiting.early⟩

theorem noting (waiting : system.Waiting id) {note : Note}
    (plain : ∀ ticket, note.answer? ticket = none) :
    (system.noting note).Waiting id where
  rest := (waiting.liveUnserved.noting plain).rest
  alive := (waiting.liveUnserved.noting plain).alive
  planned := waiting.planned
  early := (waiting.liveUnserved.noting plain).early

theorem picked (waiting : system.Waiting id) {failed : PhoneId} {permanent : Bool}
    {next : Option PhoneId} {registry : Registry}
    (pick : system.pick id failed permanent = (next, registry)) :
    System.Waiting { system with registry } id where
  rest := waiting.rest.of_connections fun _ => rfl
  alive := waiting.alive
  planned := by
    have plans : registry.plans = system.registry.plans := Registry.plans_nextPhone pick
    have planned := waiting.planned
    rw [System.planOf?] at planned ⊢
    rw [plans]
    exact planned
  early := waiting.early

end Waiting

end System
namespace Program

variable {α : Type} {rounds : Nat} {id : ConnectionId} {before : System Chronicle}
  {stops : System Chronicle → Prop}

namespace Leads

theorem isLive {ends : Bool → System Chronicle → Prop} {wiring : Wiring Chronicle}
    (liveUnserved : before.LiveUnserved id) (goes : ends true before) :
    (Program.isLive id).Leads wiring before ends stops := by
  refine .of_bind (.call ?_)
  rw [liveUnserved.live]
  exact goes

theorem converse {call : Call} {ends : Answer → System Chronicle → Prop}
    {wiring : Wiring Chronicle} (liveUnserved : before.LiveUnserved id)
    (goes : stops (before.noting (.asked call))) :
    (Program.converse call).Leads wiring before ends stops := by
  refine .of_bind ?_
  rw [Program.ask, Leads, Act.ensures_get, Leads, Act.ensures_reviseOutside]
  have silent : (Note.asked call :: before.outside).findSome?
      (Note.answer? before.outside.length) = none := by
    refine List.findSome?_eq_none_iff.mpr fun note among => ?_
    by_contra said
    obtain ⟨answer, said⟩ := Option.ne_none_iff_exists'.mp said
    rcases Chronicle.answered_cons.mp ⟨note, among, said⟩ with new | old
    · cases new
    · exact Nat.lt_irrefl _ (liveUnserved.early old)
  simp only [Leads, Program.expect, silent, Option.any_none, Bool.false_eq_true, if_false]
  exact goes

theorem disconnect {ends : Unit → System Chronicle → Prop} (liveUnserved : before.LiveUnserved id)
    (info : DisconnectInfo)
    (goes : ∀ after, after.outside = before.outside → (after.connection id).ended = some info →
      ends () after) :
    (Program.disconnect id info).Leads (.level .silent rounds) before ends stops := by
  have rest := liveUnserved.rest
  refine .atOnce ((Act.ripple_setDisconnected (Wiring.ripples_notes rounds) rest id info).mono
    fun _ after ripple => goes after ?_ ?_)
  · exact ripple.outside.trans (Calm.ending before id info).outside
  · have mine : (before.ending id info).connection id =
        (Connection.finished info (before.connection id)).settled := by
      rw [System.ending, rest.not_ended liveUnserved.alive, if_neg (by simp),
        System.connection_changed,
        if_pos ⟨rfl, before.known_of_alive liveUnserved.alive⟩]
    have ending : (Connection.finished info (before.connection id)).isEnding = true := by
      have shown : (Connection.finished info (before.connection id)).visibleState = .disconnected :=
        Connection.visibleState_of_ended rfl
      rw [Connection.isEnding, shown]
      simp [Connection.finished, liveUnserved.alive]
    rw [ripple.reads (·.ended) (fun _ => rfl), mine, Connection.settled_of_ending ending]
    rfl

theorem dialAndBind {slot : Slot} {domain : Option Domain}
    {ends : DialOutcome → System Chronicle → Prop} {wiring : Wiring Chronicle}
    (waiting : before.Waiting id)
    (goes : ∀ number args,
      stops (before.noting (.asked (.dial id (before.device.phone slot).id number args)))) :
    (Program.dialAndBind openWorld id slot domain).Leads wiring before ends stops := by
  rw [dialAndBind_eq]
  refine .of_bind (.system ?_)
  obtain ⟨plan, planned⟩ := Option.isSome_iff_exists.mp waiting.planned
  rw [planned]
  exact .of_bind (.system (.of_bind (.converse waiting.liveUnserved (goes _ _))))

theorem reassign {phone : PhoneId} {subscription : Option SubscriptionId} {technology : Technology}
    {carrier : CarrierConfig} {ends : Unit → System Chronicle → Prop}
    (waiting : before.Waiting id)
    (goes : ∀ after : System Chronicle, after.Waiting id → after.outside = before.outside →
      after.device = before.device → ends () after) :
    (Program.atOnce (Act.reassign id phone subscription technology carrier)).Leads
      (.level .silent rounds) before ends stops := by
  let change (call : Connection) := { call with phone, subscription, technology, carrier }
  refine .atOnce ((Act.ripple_change (Wiring.ripples_notes rounds) waiting.rest id change
    fun _ => rfl).mono fun _ after ripple => ?_)
  have known := before.known_of_alive waiting.alive
  have mine : (before.changed id change).connection id =
      (change (before.connection id)).settled := by
    rw [System.connection_changed, if_pos ⟨rfl, known⟩]
  have lasting : (change (before.connection id)).isEnding = false := by
    have same : (change (before.connection id)).visibleState =
        (before.connection id).visibleState := rfl
    simp [Connection.isEnding, same, (waiting.rest.alive waiting.alive).2]
  have up : ((before.changed id change).connection id).destroyed = false := by
    rw [mine, Connection.settled_destroyed, lasting, Bool.or_false]
    exact waiting.alive
  have books : before.SameBooks (before.changed id change) :=
    (before.sameBooks_reviseConnection id change).trans (System.sameBooks_settle _ id)
  have outside : after.outside = before.outside :=
    ripple.outside.trans (books.read (·.outside) fun _ _ _ => rfl)
  refine goes after ⟨ripple.atRest (waiting.rest.changed id change fun _ => rfl), ?_,
    ?_, ?_⟩ outside
    (ripple.device.trans (books.read (·.device) fun _ _ _ => rfl))
  · rw [ripple.destroyed]
    exact up
  · rcases ripple.plan id with same | ⟨-, gone⟩
    · rw [same, books.read (·.planOf? id) fun _ _ _ => rfl]
      exact waiting.planned
    · rw [up] at gone
      cases gone
  · intro ticket answer
    rw [outside]
    exact waiting.early

theorem redialFrom (patience : Nat) {failed : PhoneId} {permanent : Bool}
    {ends : Unit → System Chronicle → Prop} (waiting : before.Waiting id)
    (goes : ∀ after, System.Redials id after before failed permanent →
      ends () after ∧ stops after) :
    (Program.redialFrom openWorld id patience failed permanent).Leads (.level .silent rounds)
      before ends stops := by
  induction patience generalizing failed permanent before with
  | zero => exact .atOnce (Act.ensures_failure _)
  | succ patience ih =>
    rw [Attempt.redialFrom_eq]
    refine .of_bind (.isLive waiting.liveUnserved (.of_bind (.atOnce ?_)))
    simp only [Act.nextPhone, Act.ensures_bind, Act.ensures_get]
    generalize picked : before.registry.nextPhone id _ _ failed permanent = outcome
    obtain ⟨next, registry⟩ := outcome
    have picked : before.pick id failed permanent = (next, registry) := picked
    simp only [Act.ensures_set, Act.ensures_pure]
    have waiting' := waiting.picked picked
    cases next with
    | none =>
      exact .disconnect waiting'.liveUnserved _ fun after unasked ended =>
        (goes after (.exhausted picked unasked ended)).1
    | some next =>
      refine .of_bind (.system ?_)
      dsimp only
      cases found : before.device.slotOf? next with
      | none => exact ih waiting' fun after redials => goes after (.absent picked found redials)
      | some slot =>
        refine .of_bind (.reassign waiting' fun after waiting outside device => ?_)
        refine .of_bind (.dialAndBind waiting fun number args => ?_)
        rw [device, Device.phone_id_of_slotOf? found]
        refine (goes _ (.dialed picked ?_ (congrArg (List.cons _) outside))).2
        rw [found]
        rfl

theorem reselectFrom (left : Nat) {cause : DisconnectCause} {code : Int}
    {ends : Unit → System Chronicle → Prop} (liveUnserved : before.LiveUnserved id)
    (asks : before.CanReselect id → ∀ request, request.failure = some (cause, code) →
      stops (before.noting (.asked (.reselect id request))))
    (fails : ¬ before.CanReselect id → ∀ after, after.outside = before.outside →
      ends () after) :
    (Program.reselectFrom openWorld id (left + 1) cause code).Leads (.level .silent rounds)
      before ends stops := by
  refine .of_bind (.isLive liveUnserved (.of_bind (.system ?_)))
  dsimp only
  split
  · rename_i unselected
    refine .of_bind (.disconnect liveUnserved _ fun after unasked _ =>
      fails (fun can => ?_) after unasked)
    rw [can.1] at unselected
    cases unselected
  rename_i selected
  cases found : before.device.slotOf? (before.connection id).phone with
  | none =>
    refine .disconnect liveUnserved _ fun after unasked _ => fails (fun can => ?_) after unasked
    have there := can.2
    rw [found] at there
    cases there
  | some slot =>
    refine .of_bind (.of_bind (.converse liveUnserved ?_))
    exact asks ⟨by simpa using selected, by rw [found]; rfl⟩ _ rfl

end Leads

end Program
/-- The failure of an attempt on the phone is not the end: after an emergency failure the redial
goes on, and when the network wants the call in another domain, domains are selected for the call
and some may still be asked for, one is. -/
def System.Pursues (before after : System Chronicle) (id : ConnectionId) (phone : PhoneId)
    (failure : RadioFailure) (code : Int) (left : Nat) : Prop :=
  (failure.retryClass ≠ .none →
    Redials id after before phone (failure.retryClass == .permanent)) ∧
  (failure.wantsOtherDomain = true → (before.connection id).selectionActive = true → 0 < left →
    Reselects id after before failure.cause code)

namespace System

variable {before after : System Chronicle} {id : ConnectionId} {phone : PhoneId}
  {failure : RadioFailure} {code : Int} {left : Nat}

theorem Pursues.of_redials (asks : failure.retryClass ≠ .none)
    (redials : Redials id after before phone (failure.retryClass == .permanent)) :
    before.Pursues after id phone failure code left :=
  ⟨fun _ => redials, fun other =>
    absurd (RadioFailure.retryClass_of_wantsOtherDomain other) asks⟩

theorem Pursues.of_reselects (other : failure.wantsOtherDomain = true)
    (reselects : Reselects id after before failure.cause code) :
    before.Pursues after id phone failure code left :=
  ⟨fun asks => absurd (RadioFailure.retryClass_of_wantsOtherDomain other) asks,
    fun _ _ _ => reselects⟩

theorem pursues_of_unasked (none : failure.retryClass = .none)
    (unasked : after.outside = before.outside) :
    before.Pursues after id phone failure code left ↔
      ¬ (failure.wantsOtherDomain = true ∧ (before.connection id).selectionActive = true ∧
        0 < left) := by
  refine ⟨fun pursues ⟨other, selecting, more⟩ => ?_, fun nothing => ⟨fun asks => ?_, ?_⟩⟩
  · obtain ⟨_, _, asked⟩ := pursues.2 other selecting more
    exact absurd (unasked.symm.trans asked) (List.cons_ne_self _ _).symm
  · exact absurd none asks
  · exact fun other selecting more => absurd ⟨other, selecting, more⟩ nothing

theorem not_pursues_of_ended {info : DisconnectInfo} (asks : failure.retryClass ≠ .none)
    (unasked : after.outside = before.outside)
    (ended : (after.connection id).ended = some info) (cause : info.cause = failure.cause) :
    ¬ before.Pursues after id phone failure code left := by
  intro pursues
  rcases (pursues.1 asks).outcome with ⟨_, _, _, asked⟩ | exhausted
  · exact absurd (unasked.symm.trans asked) (List.cons_ne_self _ _).symm
  · obtain rfl := Option.some.inj (ended.symm.trans exhausted)
    cases failure <;> first | exact asks rfl | cases cause

end System

namespace Attempt

open Program

/-- The domains that may still be asked for after an attempt, or after a call has lost its leg. -/
def left : Option Attempt → Nat
  | some (reselection left) => left
  | _ => maxReselections

def Neglects (failure : RadioFailure) (selecting : Bool) : Option Attempt → Prop
  | some (redial _) => failure.wantsOtherDomain = true ∧ selecting = true
  | some (reselection _) => failure.retryClass ≠ .none
  | _ => False

/-- A failure after which something is done: it is not neglected, and a domain that is to be asked
for can be. -/
def LeadsOn (system : System Chronicle) (id : ConnectionId) (failure : RadioFailure)
    (attempt : Option Attempt) : Prop :=
  ¬ Neglects failure (system.connection id).selectionActive attempt ∧
    (failure.wantsOtherDomain = true → (system.connection id).selectionActive = true →
      0 < left attempt → system.CanReselect id)

variable {rounds : Nat} {id : ConnectionId} {phone : PhoneId} {before : System Chronicle}
  {error : RadioError}

theorem leads_report {placing : Bool} {goal : System Chronicle → Prop}
    {stops : System Chronicle → Prop} {wiring : Wiring Chronicle} {now : System Chronicle}
    (holds : goal now) : (report id placing).Leads wiring now (fun _ => goal) stops := by
  cases placing with
  | false => exact holds
  | true =>
    refine .of_bind (.of_bind (.call ?_))
    change Program.Leads wiring (if _ then _ else _) now (fun _ => goal) stops
    split
    · exact holds
    · exact .of_bind (.of_bind (.call holds))

theorem leads_answer {goal : System Chronicle → Prop} {stops : System Chronicle → Prop}
    {wiring : Wiring Chronicle} {now : System Chronicle} (holds : goal now) :
    Program.Leads wiring (do
      if ← isLive id then return Except.ok id
      gone id : Program Chronicle Placed) now (fun _ => goal) stops := by
  refine .of_bind (.of_bind (.call ?_))
  change Program.Leads wiring (if _ then _ else _) now (fun _ => goal) stops
  split
  · exact holds
  · exact .of_bind (.call holds)

theorem leads_first (waiting : before.Waiting id)
    (emergency : (before.connection id).emergency = true)
    (enabled : before.settings.emergencyRedial = true) {goal : System Chronicle → Prop}
    (goes : ∀ after, (before.Pursues after id phone error.failure error.code maxReselections ↔
      LeadsOn before id error.failure (some first)) → goal after) :
    (first.conclude id phone (.failed error)).Leads (.level .silent rounds) before
      (fun _ => goal) goal := by
  have isEmergency : (before.connection id).isEmergency = true := by
    rw [Connection.isEmergency, emergency, Bool.true_or]
  refine .of_bind (.of_bind (.call (.of_bind (.system ?_))))
  dsimp only
  rw [isEmergency, enabled, Bool.true_and, Bool.true_and]
  split
  · rename_i asks
    have asks : error.failure.retryClass ≠ .none := by simpa using asks
    refine .of_bind (.of_bind (.atOnce ?_))
    rw [Act.ensures_rounds]
    refine .redialFrom _ waiting fun after redials => ?_
    have done := goes after (iff_of_true (.of_redials asks redials) ⟨not_false, fun other =>
      absurd (RadioFailure.retryClass_of_wantsOtherDomain other) asks⟩)
    exact ⟨leads_answer done, done⟩
  rename_i none
  have none : error.failure.retryClass = .none := by simpa using none
  split
  · rename_i other
    obtain ⟨selecting, other⟩ := Bool.and_eq_true_iff.mp other
    refine .of_bind (.reselectFrom _ waiting.liveUnserved (fun can request same => ?_)
      fun cannot after unasked => ?_)
    · exact goes _ (iff_of_true (.of_reselects other ⟨request, same, rfl⟩)
        ⟨not_false, fun _ _ _ => can⟩)
    · refine leads_answer (goes after ?_)
      rw [System.pursues_of_unasked none unasked]
      simp [LeadsOn, Neglects, other, selecting, cannot, left]
  · rename_i same
    refine .of_bind (.disconnect waiting.liveUnserved _ fun after unasked _ => .of_bind (.call ?_))
    refine goes after ?_
    rw [System.pursues_of_unasked none unasked]
    have same : ¬ (error.failure.wantsOtherDomain = true ∧
        (before.connection id).selectionActive = true) :=
      fun ⟨other, selecting⟩ => same (by rw [other, selecting]; rfl)
    exact iff_of_true (fun ⟨other, selecting, _⟩ => same ⟨other, selecting⟩)
      ⟨not_false, fun other selecting _ => absurd ⟨other, selecting⟩ same⟩

theorem leads_conclude (attempt : Attempt) (waiting : before.Waiting id)
    (emergency : (before.connection id).emergency = true)
    (enabled : before.settings.emergencyRedial = true) {goal : System Chronicle → Prop}
    (goes : ∀ after, (before.Pursues after id phone error.failure error.code (left attempt) ↔
      LeadsOn before id error.failure (some attempt)) → goal after) :
    (attempt.conclude id phone (.failed error)).Leads (.level .silent rounds) before
      (fun _ => goal) goal := by
  cases attempt with
  | first => exact leads_first waiting emergency enabled goes
  | redial patience =>
    rw [conclude]
    split
    · rename_i none
      have none : error.failure.retryClass = .none := by simpa using none
      refine .disconnect waiting.liveUnserved _ fun after unasked _ => goes after ?_
      rw [System.pursues_of_unasked none unasked]
      simp only [LeadsOn, Neglects, left, maxReselections]
      tauto
    · rename_i asks
      have asks : error.failure.retryClass ≠ .none := by simpa using asks
      have same (other : error.failure.wantsOtherDomain = true) : False :=
        asks (RadioFailure.retryClass_of_wantsOtherDomain other)
      refine .redialFrom patience waiting fun after redials => ?_
      have done := goes after (iff_of_true (.of_redials asks redials)
        ⟨fun wants => same wants.1, fun other => (same other).elim⟩)
      exact ⟨done, done⟩
  | reselection more =>
    rw [conclude]
    split
    · rename_i other
      have none := RadioFailure.retryClass_of_wantsOtherDomain other
      cases more with
      | zero =>
        refine .disconnect waiting.liveUnserved _ fun after unasked _ => goes after ?_
        rw [System.pursues_of_unasked none unasked]
        simp [LeadsOn, Neglects, left, none]
      | succ more =>
        refine .reselectFrom more waiting.liveUnserved (fun can request same => ?_)
          fun cannot after unasked => ?_
        · exact goes _ (iff_of_true (.of_reselects other ⟨request, same, rfl⟩)
            ⟨fun asks => asks none, fun _ _ _ => can⟩)
        · refine goes after ?_
          rw [System.pursues_of_unasked none unasked]
          simp [LeadsOn, Neglects, left, none, other, cannot]
    · rename_i same
      refine .disconnect waiting.liveUnserved _ fun after unasked ended => goes after ?_
      by_cases none : error.failure.retryClass = .none
      · rw [System.pursues_of_unasked none unasked]
        simp [LeadsOn, Neglects, none, same]
      · exact iff_of_false (System.not_pursues_of_ended none unasked ended rfl)
          fun leadsOn => leadsOn.1 none

theorem leads_elsewhere (attempt : Attempt) (liveUnserved : before.LiveUnserved id)
    (other : error.failure.wantsOtherDomain = true) (can : before.CanReselect id)
    {goal : System Chronicle → Prop}
    (asks : 0 < left (some attempt) → ∀ request,
      request.failure = some (error.failure.cause, error.code) →
        goal (before.noting (.asked (.reselect id request))))
    (ends : ∀ after info, (after.connection id).ended = some info →
      info.cause = error.failure.cause → info.code = error.code → goal after) :
    (attempt.conclude id phone (.failed error)).Leads (.level .silent rounds) before
      (fun _ => goal) goal := by
  have none := RadioFailure.retryClass_of_wantsOtherDomain other
  have reselects (more : Nat) (some : 0 < left (some attempt)) :
      (Program.reselectFrom openWorld id (more + 1) error.failure.cause error.code).Leads
        (.level .silent rounds) before (fun _ => goal) goal :=
    .reselectFrom more liveUnserved (fun _ => asks some) fun cannot => absurd can cannot
  cases attempt with
  | first =>
    refine .of_bind (.of_bind (.call (.of_bind (.system ?_))))
    dsimp only
    rw [none, bne_self_eq_false, Bool.and_false, if_neg (by simp)]
    split
    · exact .of_bind ((reselects _ (Nat.zero_lt_succ _)).mono leads_answer)
    · refine .of_bind (.disconnect liveUnserved _ fun after _ ended => .of_bind (.call ?_))
      exact ends after _ ended rfl rfl
  | redial patience =>
    rw [conclude, if_pos (by simp [none])]
    exact .disconnect liveUnserved _ fun after _ ended => ends after _ ended rfl rfl
  | reselection more =>
    rw [conclude, if_pos other]
    cases more with
    | zero => exact .disconnect liveUnserved _ fun after _ ended => ends after _ ended rfl rfl
    | succ more => exact reselects more more.zero_lt_succ

theorem leads_awaiting (attempt : Attempt) {placing : Bool} {ticket : Nat}
    {wiring : Wiring Chronicle}
    (refused : before.outside.Answered ticket (.reply (.refused error)))
    (only : ∀ answer, before.outside.Answered ticket answer → answer = .reply (.refused error))
    {goal : System Chronicle → Prop}
    (goes : (attempt.conclude id phone (.failed error)).Leads wiring
      (before.noting (.taken ticket)) (fun _ => goal) goal) :
    (attempt.awaiting placing id phone ticket).Leads wiring before (fun _ => goal) goal := by
  have ready : before.outside.findSome? (Note.answer? ticket) = some (.reply (.refused error)) := by
    obtain ⟨note, among, said⟩ := refused
    have found : (before.outside.findSome? (Note.answer? ticket)).isSome = true :=
      List.findSome?_isSome_iff.mpr ⟨note, among, by rw [said]; rfl⟩
    obtain ⟨answer, found⟩ := Option.isSome_iff_exists.mp found
    rw [found, only answer (Chronicle.answered_of_findSome found)]
  refine .of_bind ?_
  simp only [expect, Leads, ready, Act.ensures_reviseOutside]
  exact .of_bind (.of_bind (goes.mono leads_report))

end Attempt

namespace System

variable {before after later : System Chronicle} {id : ConnectionId}

theorem Redials.congr (outside : later.outside = after.outside)
    (ended : (later.connection id).ended = (after.connection id).ended) {failed : PhoneId}
    {permanent : Bool} (redials : Redials id after before failed permanent) :
    Redials id later before failed permanent := by
  induction redials with
  | dialed next there asked => exact .dialed next there (outside.trans asked)
  | absent next absent _ ih => exact .absent next absent ih
  | exhausted none unasked last =>
    exact .exhausted none (outside.trans unasked) (ended.trans last)

theorem Pursues.congr (outside : later.outside = after.outside)
    (ended : (later.connection id).ended = (after.connection id).ended) {phone : PhoneId}
    {failure : RadioFailure} {code : Int} {left : Nat}
    (pursues : before.Pursues after id phone failure code left) :
    before.Pursues later id phone failure code left := by
  refine ⟨fun asks => (pursues.1 asks).congr outside ended, fun other selecting more => ?_⟩
  obtain ⟨request, same, asked⟩ := pursues.2 other selecting more
  exact ⟨request, same, outside.trans asked⟩

end System

theorem System.works_ask_givenUp {system : System Chronicle} {id : ConnectionId}
    {work : FollowUp} (event : ConnectionEvent) (attended : system.attended = true)
    (distinct : (system.connection id).listeners.Nodup)
    (heard : .exchange ∈ (system.connection id).listeners) (works : system.works = []) :
    ((system.givenUp id).ask id event work).works = [work] ∧
      (((system.givenUp id).ask id event work).connection id).destroyed =
        (system.connection id).destroyed := by
  have calm := Calm.givenUp system id
  have kept {γ : Type} (read : Connection → γ) (blind : ∀ call, read (.waiting call) = read call) :
      read ((system.givenUp id).connection id) = read (system.connection id) := by
    rw [givenUp, connection_release, connection_reviseConnection]
    split
    · exact blind _
    · rfl
  have listeners := kept (·.listeners) fun _ => rfl
  obtain ⟨journal, -, asked⟩ := @hear_foldl id event work
    ((system.givenUp id).connection id).listeners (listeners ▸ distinct) (system.givenUp id)
    (calm.attended.trans attended)
  have silent : (system.givenUp id).works = [] := calm.works.trans works
  rw [System.ask, asked, if_pos (listeners ▸ heard)]
  refine ⟨?_, ?_⟩
  · rw [System.works, List.filterMap_append]
    exact congrArg (· ++ [work]) silent
  · rw [← kept (·.destroyed) fun _ => rfl]
    cases id <;> rfl

theorem System.AllHeard.works_reported {system : System Chronicle} (allHeard : system.AllHeard)
    (works : system.works = []) {id : ConnectionId} {leg : LegId} {failure : RadioFailure}
    {code : Int} {message : String} (alive : (system.connection id).destroyed = false)
    (held : (system.connection id).leg.isSome = true)
    (bridged : (system.leg leg).attached =
      some { connection := id, generation := (system.connection id).generation })
    (emergency : (system.connection id).emergency = true)
    (redials : (system.connection id).redialEnabled = true)
    (apart : (system.connection id).published.state.isConnected = false)
    (asks : failure.retryClass ≠ .none ∨
      failure.wantsOtherDomain = true ∧ (system.connection id).selectionActive = true) :
    ∃ work, (system.reported leg (.disconnected failure code message)).works = [work] ∧
      ((system.reported leg (.disconnected failure code message)).connection id).destroyed =
        false ∧
      (failure.retryClass ≠ .none ∧ work = .redial id (system.connection id).phone
          (failure.retryClass == .permanent) ∨
        failure.wantsOtherDomain = true ∧ work = .reselect id failure.cause code) := by
  let event : RadioEvent := .disconnected failure code message
  let shown := system.reviseLeg leg fun leg => { leg with view := leg.view.apply event }
  have connection : shown.connection id = system.connection id := by simp [shown]
  have heeds : (shown.connection id).heeds (system.connection id).generation = true := by
    rw [connection, Connection.heeds, beq_self_eq_true, Bool.true_and]
    exact held
  have ends : system.reported leg event = shown.legEnded id failure code message := by
    rw [reported_eq, bridged, follows, legEvent, if_pos heeds, heed]
  have ringing : (system.connection id).visibleState.isConnected = false := by
    rw [← (allHeard.rest.alive alive).1]
    exact apart
  obtain ⟨work, news, same, which⟩ : ∃ work news,
      shown.legEnded id failure code message = (shown.givenUp id).ask id news work ∧
        (failure.retryClass ≠ .none ∧ work = .redial id (system.connection id).phone
            (failure.retryClass == .permanent) ∨
          failure.wantsOtherDomain = true ∧ work = .reselect id failure.cause code) := by
    rw [legEnded, connection, Connection.endOfLeg, emergency, redials, ringing]
    by_cases none : failure.retryClass = .none
    · obtain ⟨other, selecting⟩ := asks.resolve_left (not_not_intro none)
      rw [none, selecting, other]
      exact ⟨_, _, rfl, .inr ⟨rfl, rfl⟩⟩
    · have retries : (failure.retryClass != .none) = true := by simpa using none
      rw [retries]
      exact ⟨_, _, rfl, .inl ⟨none, rfl⟩⟩
  obtain ⟨left, destroyed⟩ := @works_ask_givenUp shown id work news allHeard.attended
    (connection ▸ allHeard.distinct id) (connection ▸ allHeard.heard id alive) works
  refine ⟨work, ?_, ?_, which⟩
  · rw [ends, same]
    exact left
  · rw [ends, same, destroyed, connection]
    exact alive

namespace Office

/-- A task is about to learn that an attempt on the phone failed, or is about to do something about
the leg of a call, which failed; there is no attempt then. `before` is the system when the task
knows. -/
inductive Faces (office : Office) (position : Nat) : ConnectionId → Option Attempt → PhoneId →
    RadioFailure → Int → System Chronicle → Prop
  | refused {attempt : Attempt} {placing id phone ticket error}
    (waits : office.tasks[position]? = some (attempt.awaiting placing id phone ticket))
    (refused : office.system.outside.Answered ticket (.reply (.refused error))) :
    Faces office position id (some attempt) phone error.failure error.code
      (office.system.noting (.taken ticket))
  | redial {id phone failure code} (asks : failure.retryClass ≠ .none)
    (task : office.tasks[position]? =
      some (FollowUp.redial id phone (failure.retryClass == .permanent)).program) :
    Faces office position id none phone failure code office.system
  | reselect {id phone failure code} (other : failure.wantsOtherDomain = true)
    (task : office.tasks[position]? = some (FollowUp.reselect id failure.cause code).program) :
    Faces office position id none phone failure code office.system

theorem Faces.position_lt {office : Office} {position : Nat} {id : ConnectionId}
    {attempt : Option Attempt} {phone : PhoneId} {failure : RadioFailure} {code : Int}
    {before : System Chronicle}
      (faces : office.Faces position id attempt phone failure code before) :
    position < office.tasks.length := by
  cases faces with
  | refused waits _ => exact (List.getElem?_eq_some_iff.mp waits).1
  | redial _ task => exact (List.getElem?_eq_some_iff.mp task).1
  | reselect _ task => exact (List.getElem?_eq_some_iff.mp task).1

variable {settings : Settings} {device : Device} {rounds : Nat} {occasions : List Occasion}
  {office next : Office}

theorem in_order (reached : (opening settings device).run rounds occasions = some office) :
    ∃ roster duties, ClientsServed (.silent rounds) roster ∧ roster.office = office ∧
      Orderly (.ofOpening settings device false) duties office.system := by
  obtain ⟨posts, allAtPosts, -⟩ := (AllAtPosts.opening settings device false).run nofun reached
    (fun {_ _ _ _ _} _ _ (_ : True) => trivial) trivial
  have same := Roster.office_run (.level .silent rounds) (.opening settings device) occasions
  obtain ⟨roster, clientsServed, rfl⟩ := Option.map_eq_some_iff.mp (same.trans reached)
  have empty : ClientsServed (.silent rounds) (.opening settings device) :=
    .opening settings device (System.AllHeard.opening settings device)
  have served := empty.run (Regime.Silent.keptThroughout rounds) clientsServed
  exact ⟨roster, _, served, rfl, allAtPosts.orderly⟩

theorem liveUnserved_of_live
    (reached : (opening settings device).run rounds occasions = some office)
    {id : ConnectionId} (live : (office.system.connection id).published.state.isLive = true) :
    office.system.LiveUnserved id := by
  obtain ⟨roster, duties, clientsServed, rfl, orderly⟩ := in_order reached
  exact {
    rest := orderly.rest
    alive := (orderly.isLive_iff id).mp live
    early := fun answered => by
      obtain ⟨call, asks⟩ := orderly.early answered
      exact asks.lt_length }

theorem waiting_of_live (reached : (opening settings device).run rounds occasions = some office)
    {id : ConnectionId} (live : (office.system.connection id).published.state.isLive = true)
    (outgoing : (office.system.connection id).direction = .outgoing) : office.system.Waiting id :=
      by
  have liveUnserved := liveUnserved_of_live reached live
  obtain ⟨roster, duties, clientsServed, rfl, orderly⟩ := in_order reached
  exact ⟨liveUnserved.rest, liveUnserved.alive,
    System.AllHeard.planned clientsServed.order.fit id liveUnserved.alive outgoing,
    liveUnserved.early⟩

theorem resume_leads {position : Nat} {task : Program Chronicle Unit}
    {goal : System Chronicle → Prop}
    (found : office.tasks[position]? = some task)
    (leads : task.Leads (.level .silent rounds) office.system (fun _ => goal) goal)
    (stepped : office.step rounds (.resume position) = some next) :
    ∃ after, goal after ∧ next.system = { after with signals := [] } := by
  obtain ⟨last, resumed, rfl⟩ := Option.map_eq_some_iff.mp stepped
  change office.resume _ position = some last at resumed
  rw [Office.resume, found] at resumed
  obtain ⟨⟨after, left⟩, ran, rfl⟩ := Option.map_eq_some_iff.mp resumed
  exact ⟨after, leads.advance ran, rfl⟩

section
variable (reached : (opening settings device).run rounds occasions = some office)
  {id : ConnectionId} (live : (office.system.connection id).published.state.isLive = true)
include reached live

theorem Faces.pursues {position : Nat} {attempt : Option Attempt} {phone : PhoneId}
    {failure : RadioFailure} {code : Int} {before : System Chronicle}
    (faces : office.Faces position id attempt phone failure code before)
    (outgoing : (office.system.connection id).direction = .outgoing)
    (emergency : (office.system.connection id).emergency = true)
    (enabled : settings.emergencyRedial = true)
    (stepped : office.step rounds (.resume position) = some next) :
    before.Pursues next.system id phone failure code (Attempt.left attempt) ↔
      Attempt.LeadsOn before id failure attempt := by
  obtain ⟨-, duties, -, -, orderly⟩ := in_order reached
  have waiting := waiting_of_live reached live outgoing
  have settled {position : Nat} {task : Program Chronicle Unit} {before : System Chronicle}
      {failure : RadioFailure} {attempt : Option Attempt} {holds : Prop}
      (found : office.tasks[position]? = some task)
      (stepped : office.step rounds (.resume position) = some next)
      (leads : task.Leads (.level .silent rounds) office.system
        (fun _ after => before.Pursues after id phone failure code (Attempt.left attempt) ↔ holds)
        fun after => before.Pursues after id phone failure code (Attempt.left attempt) ↔ holds) :
      before.Pursues next.system id phone failure code (Attempt.left attempt) ↔ holds := by
    obtain ⟨after, same, last⟩ := resume_leads found leads stepped
    have ended : (next.system.connection id).ended = (after.connection id).ended := by
      rw [last]
      cases id <;> rfl
    rw [← same]
    exact ⟨fun pursues => pursues.congr (by rw [last]) ended.symm,
      fun pursues => pursues.congr (by rw [last]) ended⟩
  cases faces with
  | @refused attempt _ _ _ ticket error waits refused =>
    have same : (office.system.noting (.taken ticket)).connection id =
      office.system.connection id := by simp
    refine settled waits stepped (attempt.leads_awaiting refused
      (fun answer said => orderly.answers said refused) ?_)
    refine attempt.leads_conclude (waiting.noting fun _ => rfl) ?_ ?_ fun _ iff => iff
    · rw [same]
      exact emergency
    · exact (congrArg (·.emergencyRedial) orderly.settings).trans enabled
  | redial asks task =>
    refine settled task stepped (.of_bind (.atOnce ?_))
    rw [Act.ensures_rounds]
    refine .redialFrom _ waiting fun after redials => ?_
    have iff := iff_of_true (System.Pursues.of_redials asks redials : office.system.Pursues after id
      phone failure code (Attempt.left none)) (⟨not_false, fun other =>
        absurd (RadioFailure.retryClass_of_wantsOtherDomain other) asks⟩ :
          Attempt.LeadsOn office.system id failure none)
    exact ⟨iff, iff⟩
  | reselect other task =>
    refine settled task stepped (.reselectFrom _ waiting.liveUnserved (fun can request same => ?_)
      fun cannot after unasked => ?_)
    · exact iff_of_true (.of_reselects other ⟨request, same, rfl⟩) ⟨not_false, fun _ _ _ => can⟩
    · have none := RadioFailure.retryClass_of_wantsOtherDomain other
      rw [System.pursues_of_unasked none unasked]
      simp [Attempt.LeadsOn, Attempt.Neglects, Attempt.left, other, cannot, maxReselections]

theorem faces_of_report {leg : LegId} {failure : RadioFailure} {code : Int} {message : String}
    (held : (office.system.connection id).leg.isSome = true)
    (bridged : (office.system.leg leg).attached =
      some { connection := id, generation := (office.system.connection id).generation })
    (emergency : (office.system.connection id).emergency = true)
    (redials : (office.system.connection id).redialEnabled = true)
    (apart : (office.system.connection id).published.state.isConnected = false)
    (asks : failure.retryClass ≠ .none ∨
      failure.wantsOtherDomain = true ∧ (office.system.connection id).selectionActive = true)
    (stepped : office.step rounds (.report leg (.disconnected failure code message)) = some next) :
    (next.system.connection id).published.state.isLive = true ∧
      next.Faces office.tasks.length id none (office.system.connection id).phone failure code
        next.system := by
  obtain ⟨roster, duties, clientsServed, rfl, orderly⟩ := in_order reached
  obtain ⟨last, ran, rfl⟩ := Option.map_eq_some_iff.mp stepped
  obtain ⟨⟨value, after⟩, acted, rfl⟩ := Option.map_eq_some_iff.mp ran
  let event : RadioEvent := .disconnected failure code message
  let noted := roster.system.noting (.reported leg event)
  have allHeard : noted.AllHeard :=
    System.AllHeard.aside clientsServed.order.fit ⟨rfl, rfl, rfl, rfl⟩
  have alive := (orderly.isLive_iff id).mp live
  have connection : noted.connection id = roster.system.connection id := by simp [noted]
  obtain ⟨work, works, up, which⟩ :=
    @System.AllHeard.works_reported noted allHeard clientsServed.works id leg
    failure code message (connection ▸ alive) (connection ▸ held) (connection ▸ bridged)
    (connection ▸ emergency) (connection ▸ redials) (connection ▸ apart) (connection ▸ asks)
  have ripple : Ripple (fun notes : Chronicle => notes) (noted.reported leg event) after := by
    have ensures : (Occasion.report leg event).act.Ensures (.level .silent rounds) roster.system
        fun _ after => Ripple (fun notes : Chronicle => notes) (noted.reported leg event) after :=
          by
      simp only [Occasion.act, Act.ensures_bind, Act.ensures_reviseOutside]
      exact Act.ripple_report Bystanders.observe_notes rounds allHeard.rest leg event
    exact ensures value after acted
  let next : Office := Office.absorb { roster.office with system := after }
  have tasks : next.tasks[roster.office.tasks.length]? = some work.program := by
    have left : after.works = [work] := ripple.works.trans works
    change
      (roster.office.tasks ++ after.works.map FollowUp.program)[roster.office.tasks.length]? = _
    rw [left]
    simp
  have rest : next.system.AtRest :=
    (ripple.atRest (allHeard.rest.reported leg event)).of_connections fun id => by cases id <;> rfl
  have gone : (next.system.connection id).destroyed = false := by
    have same : next.system.connection id = after.connection id := by cases id <;> rfl
    rw [same, ripple.destroyed]
    exact up
  refine ⟨?_, ?_⟩
  · obtain ⟨shown, up⟩ := rest.alive gone
    change (next.system.connection id).published.state.isLive = true
    simpa [CallState.isLive, shown] using up
  · rcases which with ⟨asks, rfl⟩ | ⟨other, rfl⟩
    · exact .redial asks (connection ▸ tasks)
    · exact .reselect other tasks

omit live in
theorem faces_of_refusal {phone : PhoneId} {number : String} {args : DialArgs} {ticket : Nat}
    {error : RadioError} (asks : office.system.outside.Asks ticket (.dial id phone number args))
    (untaken : .taken ticket ∉ office.system.outside)
    (refused : office.system.outside.Answered ticket (.reply (.refused error))) :
    ∃ position attempt, office.Faces position id (some attempt) phone error.failure error.code
      (office.system.noting (.taken ticket)) := by
  obtain ⟨position, attempt, placing, waits⟩ := dial_awaited reached asks untaken
  exact ⟨position, attempt, .refused waits refused⟩

/-- A task that faces the failure of an attempt at a live emergency call leads on to another phone
or domain just when it should; only redials and reselections fail to. Every failure has a task that
faces it: that of a dial, and that of the leg of a call that was never taken up. -/
theorem pursues_iff (outgoing : (office.system.connection id).direction = .outgoing)
    (emergency : (office.system.connection id).emergency = true)
    (enabled : settings.emergencyRedial = true) :
    (∀ {position attempt phone failure code before next},
      office.Faces position id attempt phone failure code before →
      office.step rounds (.resume position) = some next →
      (before.Pursues next.system id phone failure code (Attempt.left attempt) ↔
        Attempt.LeadsOn before id failure attempt)) ∧
    (∀ {phone number args ticket error},
      office.system.outside.Asks ticket (.dial id phone number args) →
      .taken ticket ∉ office.system.outside →
      office.system.outside.Answered ticket (.reply (.refused error)) →
      ∃ position attempt, office.Faces position id (some attempt) phone error.failure error.code
        (office.system.noting (.taken ticket))) ∧
    ∀ {leg failure code message next}, (office.system.connection id).leg.isSome = true →
      (office.system.leg leg).attached =
        some { connection := id, generation := (office.system.connection id).generation } →
      (office.system.connection id).redialEnabled = true →
      (office.system.connection id).published.state.isConnected = false →
      failure.retryClass ≠ .none ∨
        failure.wantsOtherDomain = true ∧ (office.system.connection id).selectionActive = true →
      office.step rounds (.report leg (.disconnected failure code message)) = some next →
      (next.system.connection id).published.state.isLive = true ∧
        next.Faces office.tasks.length id none (office.system.connection id).phone failure code
          next.system :=
  ⟨fun faces stepped => faces.pursues reached live outgoing emergency enabled stepped,
    fun asks untaken refused => faces_of_refusal reached asks untaken refused,
    fun held bridged redials apart asks stepped =>
      faces_of_report reached live held bridged emergency redials apart asks stepped⟩

end

/-- Two phones, and the domain of an emergency call is selected for it. -/
def twoPhones : Device where
  phones := [
    { id := ⟨0⟩, subscription := none, technology := .gsm },
    { id := ⟨1⟩, subscription := none, technology := .gsm }]
  emergencyNumbers := { numbers := ["911"] }
  hasSelector := true

/-- An emergency call is dialed in one domain, and gets a leg there. -/
def dialedOnce : List Occasion := [
  .start (.place { address := "911" }),
  .resume 0,
  .reply 0 (.domain .packet),
  .resume 0,
  .grant 3 { state := .dialing, technology := .gsm },
  .resume 0]

/-- A call that loses its leg to an emergency failure is dialed on its next phone. -/
theorem dialedOnce_redials : ∃ office bereft next,
    (opening {} twoPhones).run 20 dialedOnce = some office ∧
    office.step 20 (.report ⟨0⟩ (.disconnected .emergencyTemporary 0 "")) = some bereft ∧
    bereft.step 20 (.resume 0) = some next ∧
    (bereft.system.pick (.issued 0) ⟨0⟩ false).1 = some ⟨1⟩ ∧
    System.Redials (.issued 0) next.system bereft.system ⟨0⟩ false := by
  have runs : ((opening {} twoPhones).run 20 dialedOnce).any (fun office =>
      (office.step 20 (.report ⟨0⟩ (.disconnected .emergencyTemporary 0 ""))).any fun bereft =>
        (bereft.step 20 (.resume 0)).isSome &&
        decide (office.tasks.length = 0 ∧
          (office.system.connection (.issued 0)).published.state = .dialing ∧
          (office.system.connection (.issued 0)).direction = .outgoing ∧
          (office.system.connection (.issued 0)).emergency = true ∧
          (office.system.connection (.issued 0)).redialEnabled = true ∧
          (office.system.connection (.issued 0)).phone = ⟨0⟩ ∧
          (office.system.connection (.issued 0)).leg = some ⟨0⟩ ∧
          (office.system.leg ⟨0⟩).attached = some ⟨.issued 0,
            (office.system.connection (.issued 0)).generation⟩ ∧
          (bereft.system.connection (.issued 0)).direction = .outgoing ∧
          (bereft.system.connection (.issued 0)).emergency = true ∧
          (bereft.system.pick (.issued 0) ⟨0⟩ false).1 = some ⟨1⟩)) = true := by
    decide +kernel
  obtain ⟨office, reached, runs⟩ := (Option.any_eq_true _ _).mp runs
  obtain ⟨bereft, reported, runs⟩ := (Option.any_eq_true _ _).mp runs
  obtain ⟨stepped, shown⟩ := Bool.and_eq_true_iff.mp runs
  obtain ⟨next, stepped⟩ := Option.isSome_iff_exists.mp stepped
  obtain ⟨empty, state, outgoing, emergency, redials, phone, held, bridged, still, urgent,
    picked⟩ :=
    of_decide_eq_true shown
  have live : (office.system.connection (.issued 0)).published.state.isLive = true := by
    rw [state]
    rfl
  obtain ⟨-, -, faces⟩ := pursues_iff reached live outgoing emergency rfl
  obtain ⟨alive, faces⟩ := faces (by rw [held]; rfl) bridged redials (by rw [state]; rfl)
    (.inl (by decide)) reported
  rw [empty, phone] at faces
  have again : (opening {} twoPhones).run 20
      (dialedOnce ++ [.report ⟨0⟩ (.disconnected .emergencyTemporary 0 "")]) = some bereft := by
    rw [run, List.foldlM_append]
    exact Option.bind_eq_some_iff.mpr ⟨office, reached, by simp [reported]⟩
  have pursues := ((pursues_iff again alive still urgent rfl).1 faces stepped).mpr
    ⟨not_false, fun other => absurd other (by decide)⟩
  exact ⟨office, bereft, next, reached, reported, stepped, picked, pursues.1 (by decide)⟩

/-- An emergency call is dialed in one domain, refused, dialed in the other, and refused there. -/
def refusedTwice : List Occasion := [
  .start (.place { address := "911" }),
  .resume 0,
  .reply 0 (.domain .packet),
  .resume 0,
  .reply 3 (.refused (.rejected .retryRequired 0 "")),
  .resume 0,
  .reply 6 (.domain .circuit),
  .resume 0,
  .reply 9 (.refused (.rejected .emergencyTemporary 0 ""))]

def inCircuit : DialArgs where
  emergency := true
  routing := some .emergency
  domain := some .circuit

/-- A call whose reselection dial meets an emergency failure is given up, although there is another
phone to try. -/
theorem refusedTwice_given_up : ∃ office next attempt,
    (opening {} twoPhones).run 20 refusedTwice = some office ∧
    (office.system.connection (.issued 0)).published.state.isLive = true ∧
    (office.system.connection (.issued 0)).direction = .outgoing ∧
    (office.system.connection (.issued 0)).emergency = true ∧
    office.Faces 0 (.issued 0) (some attempt) ⟨0⟩ .emergencyTemporary 0
      (office.system.noting (.taken 9)) ∧
    office.step 20 (.resume 0) = some next ∧
    ((office.system.noting (.taken 9)).pick (.issued 0) ⟨0⟩ false).1 = some ⟨1⟩ ∧
    (next.system.connection (.issued 0)).destroyed = true ∧
    ¬ (office.system.noting (.taken 9)).Pursues next.system (.issued 0) ⟨0⟩ .emergencyTemporary 0
      (Attempt.left (some attempt)) := by
  have runs : ((opening {} twoPhones).run 20 refusedTwice).any (fun office =>
      (office.step 20 (.resume 0)).any fun next =>
        decide (office.tasks.length = 1 ∧
          (office.system.connection (.issued 0)).published.state.isLive = true ∧
          (office.system.connection (.issued 0)).direction = .outgoing ∧
          (office.system.connection (.issued 0)).emergency = true ∧
          office.system.outside.Asks 9 (.dial (.issued 0) ⟨0⟩ "911" inCircuit) ∧
          office.system.outside.head? =
            some (.replied 9 (.refused (.rejected .emergencyTemporary 0 ""))) ∧
          .taken 9 ∉ office.system.outside ∧
          ((office.system.noting (.taken 9)).pick (.issued 0) ⟨0⟩ false).1 = some ⟨1⟩ ∧
          (next.system.connection (.issued 0)).destroyed = true ∧
          next.system.outside = .taken 9 :: office.system.outside ∧
          (next.system.connection (.issued 0)).ended.map (·.cause) =
            some .emergencyTemporary)) = true := by
    decide +kernel
  obtain ⟨office, reached, runs⟩ := (Option.any_eq_true _ _).mp runs
  obtain ⟨next, stepped, shown⟩ := (Option.any_eq_true _ _).mp runs
  obtain ⟨one, live, outgoing, emergency, asks, latest, untaken, picked, gone, unasked, ended⟩ :=
    of_decide_eq_true shown
  obtain ⟨info, ended, cause⟩ := Option.map_eq_some_iff.mp ended
  have refused : office.system.outside.Answered 9
      (.reply (.refused (.rejected .emergencyTemporary 0 ""))) :=
    ⟨_, List.mem_of_head? latest, rfl⟩
  obtain ⟨position, attempt, placing, waits⟩ := dial_awaited reached asks untaken
  obtain rfl : position = 0 := by
    have inside := (List.getElem?_eq_some_iff.mp waits).1
    omega
  refine ⟨office, next, attempt, reached, live, outgoing, emergency,
    .refused waits refused, stepped,
    picked, gone, System.not_pursues_of_ended (by decide) unasked ended cause⟩

end Office
end Switchboard
