import Mathlib.Data.Finset.Prod
import Mathlib.Order.Interval.Finset.Nat
import Switchboard.Proofs.Courses

/-! What a redial sequence gives, whatever failures it is told of and however often it is asked.
Each phone has one turn in a round at most, a phone that failed for good has none until it fails for
now, and no phone that waits is given up before its turn. -/

namespace Switchboard.RetryQueue

/-- What can be asked of a sequence. -/
inductive Request
  | fail (phone : PhoneId) (permanent : Bool)
  | next

inductive Event
  | failed (phone : PhoneId) (permanent : Bool)
  | given (phone : PhoneId)
  | spent

def Event.Uses (phone : PhoneId) : Event → Prop
  | failed other _ | given other => other = phone
  | spent => False

/-- A sequence and what has happened to it, newest first, each event with the round in which it
ended. -/
structure Rota where
  retry : RetryQueue
  events : List (Nat × Event) := []

namespace Rota

def serve (rota : Rota) : Request → Rota
  | .fail phone permanent =>
    let retry := rota.retry.recordFailure phone permanent
    { retry, events := (retry.round, .failed phone permanent) :: rota.events }
  | .next =>
    let (answer, retry) := rota.retry.next
    { retry, events := (retry.round, answer.elim .spent .given) :: rota.events }

def run (start : RetryQueue) (requests : List Request) : Rota :=
  requests.foldl serve { retry := start }

def givens (rota : Rota) : List (Nat × PhoneId) :=
  rota.events.filterMap fun
    | (round, .given phone) => some (round, phone)
    | _ => none

def everQueued (rota : Rota) (phones : List PhoneId) : Finset PhoneId :=
  (phones ++ rota.events.filterMap fun
    | (_, .failed phone false) => some phone
    | _ => none).toFinset

def Tried (rota : Rota) (first phone : PhoneId) : Prop :=
  (∃ event, (rota.retry.round, event) ∈ rota.events ∧ event.Uses phone) ∨
    phone = first ∧ rota.retry.round = 1

theorem mem_givens {rota : Rota} {round : Nat} {phone : PhoneId} :
    (round, phone) ∈ rota.givens ↔ (round, .given phone) ∈ rota.events := by
  simp only [givens, List.mem_filterMap]
  constructor
  · rintro ⟨⟨date, event⟩, among, shown⟩
    cases event <;> cases shown
    exact among
  · exact fun among => ⟨_, among, rfl⟩

theorem mem_everQueued {rota : Rota} {phones : List PhoneId} {phone : PhoneId} :
    phone ∈ rota.everQueued phones ↔
      phone ∈ phones ∨ ∃ round, (round, .failed phone false) ∈ rota.events := by
  simp only [everQueued, List.mem_toFinset, List.mem_append, List.mem_filterMap]
  refine or_congr_right ⟨?_, fun ⟨round, among⟩ => ⟨_, among, rfl⟩⟩
  rintro ⟨⟨round, event⟩, among, shown⟩
  split at shown
  · rename_i date other failed
    cases failed
    cases shown
    exact ⟨round, among⟩
  · cases shown

end Rota

variable {retry after : RetryQueue} {phones : List PhoneId} {first : PhoneId} {limit : Nat}

theorem next_none (none : retry.next = (none, after)) :
    after = retry ∧ (retry.queue = [] ∨
      retry.maxRounds ≤ retry.round ∧ ∀ phone ∈ retry.queue, phone ∈ retry.attempted) := by
  unfold next at none
  split at none
  · cases none
  · rename_i exhausted
    have tried : ∀ phone ∈ retry.queue, phone ∈ retry.attempted := by
      simpa [untried] using exhausted
    split at none
    · rename_i more
      dsimp only at none
      split at none
      · cases none
      · rename_i idle
        have empty : retry.queue = [] := by
          simpa [untried, List.eq_nil_iff_forall_not_mem] using idle
        simp [empty] at more
    · rename_i last
      cases none
      refine ⟨rfl, ?_⟩
      by_cases empty : retry.queue = []
      · exact .inl empty
      · refine .inr ⟨?_, tried⟩
        simpa [empty] using last

namespace Rota

variable {rota : Rota}

def Bars (rota : Rota) : Prop :=
  ∀ later round phone earlier, rota.events = later ++ (round, .failed phone true) :: earlier →
    (∀ date, (date, .failed phone false) ∉ later) →
      phone ∉ rota.retry.queue ∧ ∀ date, (date, .given phone) ∉ later

/-- What has happened accounts for where the sequence is. -/
structure Fair (phones : List PhoneId) (first : PhoneId) (limit : Nat) (rota : Rota) : Prop where
  within : rota.retry.Within limit
  distinct : rota.retry.queue.Nodup
  queued : ∀ phone ∈ rota.retry.queue, phone ∈ rota.everQueued phones
  dated : ∀ entry ∈ rota.events, 0 < entry.1 ∧ entry.1 ≤ rota.retry.round
  tried (phone : PhoneId) : phone ∈ rota.retry.attempted ↔ rota.Tried first phone
  once : rota.givens.Nodup
  later : (1, first) ∉ rota.givens
  known : ∀ turn ∈ rota.givens, turn.2 ∈ rota.everQueued phones
  bars : rota.Bars

theorem fair_start (owner : ConnectionId) (distinct : phones.Nodup) (rounds : Nat) :
    Fair phones first (max rounds 1) { retry := start owner phones first rounds } where
  within := within_start owner phones first rounds
  distinct := distinct
  queued _ waiting := mem_everQueued.mpr (.inl waiting)
  dated := nofun
  tried phone := by simp [Tried, start]
  once := List.nodup_nil
  later := List.not_mem_nil
  known := nofun
  bars := by simp [Bars]

theorem Bars.fail (bars : rota.Bars) (failed : PhoneId) (permanent : Bool) :
    (rota.serve (.fail failed permanent)).Bars := by
  intro later round phone earlier split none
  rcases List.cons_eq_append_iff.mp split with ⟨rfl, here⟩ | ⟨later, rfl, rest⟩
  · cases here
    exact ⟨recordFailure_permanent _ _, fun _ => List.not_mem_nil⟩
  · obtain ⟨out, ungiven⟩ := bars later round phone earlier rest
      fun date => fun among => none date (.tail _ among)
    refine ⟨?_, fun date => by simp [ungiven date]⟩
    by_cases own : phone = failed
    · subst own
      cases permanent with
      | true => exact recordFailure_permanent _ _
      | false => exact absurd List.mem_cons_self (none _)
    · exact not_mem_recordFailure out own

theorem Bars.ask (bars : rota.Bars) {retry : RetryQueue} {event : Event} (round : Nat)
    (same : retry.queue = rota.retry.queue)
    (kind : ∀ phone permanent, event ≠ .failed phone permanent)
    (waiting : ∀ phone, event = .given phone → phone ∈ rota.retry.queue) :
    Bars { retry, events := (round, event) :: rota.events } := by
  intro later date phone earlier split none
  rcases List.cons_eq_append_iff.mp split with ⟨rfl, here⟩ | ⟨later, rfl, rest⟩
  · cases here
    exact absurd rfl (kind _ _)
  · obtain ⟨out, ungiven⟩ := bars later date phone earlier rest
      fun date among => none date (.tail _ among)
    refine ⟨same ▸ out, fun date among => ?_⟩
    rcases List.mem_cons.mp among with now | before
    · exact out (waiting phone (Prod.mk.inj now).2.symm)
    · exact ungiven date before

theorem Fair.fail (fair : Fair phones first limit rota) (failed : PhoneId) (permanent : Bool) :
    Fair phones first limit (rota.serve (.fail failed permanent)) := by
  have grown {phone : PhoneId} (before : phone ∈ rota.everQueued phones) :
      phone ∈ (rota.serve (.fail failed permanent)).everQueued phones := by
    rw [mem_everQueued] at before ⊢
    exact before.imp_right fun ⟨round, among⟩ => ⟨round, .tail _ among⟩
  have apart : failed ∉ rota.retry.queue.filter (· != failed) := by simp
  exact {
    within := fair.within.recordFailure failed permanent
    distinct := by
      have others := fair.distinct.filter (· != failed)
      cases permanent with
      | true => exact others
      | false => exact List.nodup_append.mpr ⟨others, by simp, by simp⟩
    queued := fun phone waiting => by
      have either : phone ∈ rota.retry.queue ∨ permanent = false ∧ phone = failed := by
        cases permanent with
        | true => exact .inl (List.mem_of_mem_filter waiting)
        | false =>
          exact (List.mem_append.mp waiting).imp List.mem_of_mem_filter fun last =>
            ⟨rfl, List.mem_singleton.mp last⟩
      rcases either with before | ⟨rfl, rfl⟩
      · exact grown (fair.queued phone before)
      · exact mem_everQueued.mpr (.inr ⟨_, List.mem_cons_self⟩)
    dated := by
      refine List.forall_mem_cons.mpr ⟨?_, fair.dated⟩
      exact ⟨fair.within.started, Nat.le_refl _⟩
    tried := fun phone => by
      have before := fair.tried phone
      simp only [Tried, serve, RetryQueue.recordFailure, List.mem_cons, Prod.mk.injEq, true_and,
        or_and_right, exists_or, exists_eq_left, Event.Uses] at before ⊢
      rw [before, or_assoc, @eq_comm _ phone failed]
    once := fair.once
    later := fair.later
    known := fun turn among => grown (fair.known turn among)
    bars := fair.bars.fail failed permanent }

theorem Fair.given (fair : Fair phones first limit rota) {phone : PhoneId} {retry : RetryQueue}
    (picked : rota.retry.next = (some phone, retry)) :
    Fair phones first limit { retry, events := (retry.round, .given phone) :: rota.events } := by
  obtain ⟨waiting, how⟩ := next_cases picked
  have queue := queue_next picked
  have started := fair.within.started
  have fresh : (retry.round, phone) ∉ rota.givens ∧ (retry.round, phone) ≠ (1, first) := by
    rw [mem_givens]
    rcases how with ⟨untried, rfl⟩ | ⟨-, rfl⟩
    · have untried : ¬ rota.Tried first phone := fun tried => untried ((fair.tried phone).mpr tried)
      refine ⟨fun among => untried (.inl ⟨_, among, rfl⟩), fun same => untried ?_⟩
      obtain ⟨round, rfl⟩ := Prod.mk.inj same
      exact .inr ⟨rfl, round⟩
    · refine ⟨fun among => ?_, fun same => ?_⟩
      · exact absurd (fair.dated _ among).2 (by simp)
      · have round := (Prod.mk.inj same).1
        dsimp only at round
        omega
  exact {
    within := fair.within.next picked
    distinct := queue ▸ fair.distinct
    queued := fun other among => fair.queued other (queue ▸ among)
    dated := by
      have grown : rota.retry.round ≤ retry.round := by
        rcases how with ⟨-, rfl⟩ | ⟨-, rfl⟩
        · exact Nat.le_refl _
        · exact Nat.le_succ _
      refine List.forall_mem_cons.mpr ⟨⟨Nat.lt_of_lt_of_le started grown, Nat.le_refl _⟩, ?_⟩
      exact fun entry among => ⟨(fair.dated entry among).1, (fair.dated entry among).2.trans grown⟩
    tried := fun other => by
      rcases how with ⟨-, rfl⟩ | ⟨-, rfl⟩
      · have before := fair.tried other
        simp only [Tried, take, List.mem_cons, Prod.mk.injEq, true_and, or_and_right, exists_or,
          exists_eq_left, Event.Uses] at before ⊢
        rw [before, or_assoc, @eq_comm _ other phone]
      · have past {event : Event} : (rota.retry.round + 1, event) ∉ rota.events := fun among =>
          absurd (fair.dated _ among).2 (by simp)
        simp only [Tried, List.mem_cons, Prod.mk.injEq, true_and, past, or_false, exists_eq_left,
          Event.Uses, eq_comm]
        simp [Nat.pos_iff_ne_zero.mp started]
    once := List.nodup_cons.mpr ⟨fresh.1, fair.once⟩
    later := fun among => (List.mem_cons.mp among).elim (fun now => fresh.2 now.symm) fair.later
    known := List.forall_mem_cons.mpr ⟨fair.queued phone waiting, fair.known⟩
    bars := by
      refine fair.bars.ask _ queue (fun _ _ never => by cases never) fun other same => ?_
      cases same
      exact waiting }

theorem Fair.spent (fair : Fair phones first limit rota) :
    Fair phones first limit
      { rota with events := (rota.retry.round, .spent) :: rota.events } where
  within := fair.within
  distinct := fair.distinct
  queued := fair.queued
  dated := List.forall_mem_cons.mpr ⟨⟨fair.within.started, Nat.le_refl _⟩, fair.dated⟩
  tried phone := by
    have before := fair.tried phone
    simpa [Tried, or_and_right, exists_or, Event.Uses] using before
  once := fair.once
  later := fair.later
  known := fair.known
  bars := fair.bars.ask _ rfl (fun _ _ => nofun) nofun

theorem Fair.serve (fair : Fair phones first limit rota) (request : Request) :
    Fair phones first limit (rota.serve request) := by
  cases request with
  | fail failed permanent => exact fair.fail failed permanent
  | next =>
    rw [Rota.serve]
    rcases answer : rota.retry.next with ⟨_ | phone, retry⟩
    · obtain ⟨rfl, -⟩ := next_none answer
      exact fair.spent
    · exact fair.given answer

theorem fair_run (owner : ConnectionId) (distinct : phones.Nodup) (rounds : Nat)
    (requests : List Request) :
    Fair phones first (max rounds 1) (run (start owner phones first rounds) requests) := by
  have all (rota : Rota) (fair : Fair phones first (max rounds 1) rota) :
      Fair phones first (max rounds 1) (requests.foldl Rota.serve rota) := by
    induction requests generalizing rota with
    | nil => exact fair
    | cons request rest ih => exact ih _ (fair.serve request)
  exact all _ (fair_start owner distinct rounds)

theorem Fair.length_givens_le (fair : Fair phones first limit rota) :
    rota.givens.length ≤ limit * (rota.everQueued phones).card := by
  have within : rota.givens.toFinset ⊆ Finset.Icc 1 limit ×ˢ rota.everQueued phones := by
    rintro ⟨round, phone⟩ among
    have among := List.mem_toFinset.mp among
    obtain ⟨early, late⟩ := fair.dated _ (mem_givens.mp among)
    exact Finset.mk_mem_product
      (Finset.mem_Icc.mpr ⟨early, late.trans fair.within.bounded⟩) (fair.known _ among)
  calc rota.givens.length
    _ = rota.givens.toFinset.card := (List.toFinset_card_of_nodup fair.once).symm
    _ ≤ (Finset.Icc 1 limit ×ˢ rota.everQueued phones).card := Finset.card_le_card within
    _ = limit * (rota.everQueued phones).card := by simp [Finset.card_product]

/-- In no round is a phone given twice, and in the first the first attempt's phone is not given at
all; so each phone that was ever queued is given once a round at most. A phone that failed for good
is not given before it fails for now, and the queue has every phone once. When no phone is given,
none waits, or the last round has come and all that wait have had their turn in it. -/
theorem gives_in_turn (owner : ConnectionId) (distinct : phones.Nodup) (rounds : Nat)
    (requests : List Request) :
    let rota := run (start owner phones first rounds) requests
    rota.givens.Nodup ∧ (1, first) ∉ rota.givens ∧
      rota.givens.length ≤ max rounds 1 * (rota.everQueued phones).card ∧
      (∀ later round phone earlier,
        rota.events = later ++ (round, .failed phone true) :: earlier →
          (∀ date, (date, .failed phone false) ∉ later) →
            ∀ date, (date, .given phone) ∉ later) ∧
      rota.retry.queue.Nodup ∧
      ∀ after, rota.retry.next = (none, after) → after = rota.retry ∧ (after.queue = [] ∨
        after.round = max rounds 1 ∧ ∀ phone ∈ after.queue, rota.Tried first phone) := by
  have fair : Fair phones first _ _ := fair_run owner distinct rounds requests
  generalize run (start owner phones first rounds) requests = rota at fair
  refine ⟨fair.once, fair.later, fair.length_givens_le, fun later round phone earlier split none =>
    (fair.bars later round phone earlier split none).2, fair.distinct, fun after none => ?_⟩
  obtain ⟨rfl, how⟩ := next_none none
  refine ⟨rfl, how.imp_right fun ⟨last, tried⟩ => ⟨?_, fun phone waiting => ?_⟩⟩
  · exact Nat.le_antisymm fair.within.bounded (fair.within.last ▸ last)
  · exact (fair.tried phone).mp (tried phone waiting)

/-- The first phone fails for now and the other for good, so the second round is the first one's. -/
theorem gives_in_turn_second_round :
    let rota := run (start (.issued 0) [⟨1⟩] ⟨0⟩ 2)
      [.fail ⟨0⟩ false, .next, .fail ⟨1⟩ true, .next, .next]
    rota.givens = [(2, ⟨0⟩), (1, ⟨1⟩)] ∧ rota.givens.Nodup ∧
      rota.retry.next.1 = none ∧ rota.retry.queue = [⟨0⟩] ∧ rota.Tried ⟨0⟩ ⟨0⟩ := by
  have turns := @gives_in_turn [⟨1⟩] ⟨0⟩ (.issued 0) (List.nodup_singleton _) 2
    [.fail ⟨0⟩ false, .next, .fail ⟨1⟩ true, .next, .next]
  refine ⟨rfl, turns.1, rfl, rfl, ?_⟩
  rcases (turns.2.2.2.2.2 _ rfl).2 with empty | ⟨-, tried⟩
  · cases empty
  · exact tried ⟨0⟩ List.mem_cons_self

end Rota
end Switchboard.RetryQueue
