import Switchboard.Proofs.Courses

/-! What the turns of a call's course keep. As long as nobody takes its queue away, the queue bounds
how often each phone has been dialed, and a phone on which the call has failed for good stays out
of it. -/

namespace Switchboard

namespace RetryQueue

theorem room_picked {retry after : RetryQueue} {limit : Nat} {failed next : PhoneId}
    {permanent : Bool} (within : retry.Within limit)
    (picked : (retry.recordFailure failed permanent).next = (some next, after)) (phone : PhoneId) :
    retry.allowance phone + (if next = phone then 1 else 0) ≤ after.allowance phone := by
  have recorded := within.recordFailure failed permanent
  have kept := retry.allowance_recordFailure failed permanent phone
  split
  · rename_i here
    subst here
    have more := allowance_picked recorded picked
    omega
  · have grown := allowance_next recorded picked phone
    omega

end RetryQueue

def Stage.chosen? : Stage → Option PhoneId
  | chosen phone => some phone
  | _ => none

def Stage.Tries (phone : PhoneId) : Stage → Prop
  | dialing other _ | received other _ | failing other _ | redialing other _ => other = phone
  | _ => False

namespace Stage.Follows

variable {notes : Chronicle} {stage next : Stage} {phone : PhoneId}

theorem tries (follows : stage.Follows notes next) (tries : stage.Tries phone) :
    next.Tries phone ∨ next = .finishing := by
  cases follows <;> first | exact .inl tries | exact .inr rfl | exact tries.elim

theorem chosen? (follows : stage.Follows notes next) : next.chosen? = none := by
  cases follows <;> rfl

theorem unplaced (follows : stage.Follows notes next) (slot : Slot) :
    stage ≠ .placing slot ∧ next ≠ .placing slot := by
  cases follows <;> exact ⟨nofun, nofun⟩

end Stage.Follows

namespace Course

variable {terms : Terms} {id : ConnectionId} {old new : Course}

inductive Settled (course : Course) : Prop
  | gone (gone : course.gone = true)
  | finishing (now : course.stage = some .finishing)
  | idle (idle : course.stage = none) (bare : course.bare = true)

theorem Turn.since {own : Prop} (turn : Turn terms id own old new) (known : old.known) :
    ∃ dialed, Since id dialed old new := by
  cases turn with
  | appears strange => exact absurd known strange
  | stays since | follows since | leaves since | binds since | falls since | dials since
  | picks _ since | exhausts _ since | yields _ since => exact ⟨_, since⟩

theorem Turn.known {own : Prop} (turn : Turn terms id own old new) (known : old.known) :
    new.known := by
  obtain ⟨_, since⟩ := turn.since known
  exact since.known.mpr known

theorem Turn.active {own : Prop} (turn : Turn terms id own old new) (active : old.active) :
    new.active := by
  cases turn with
  | appears _ _ heard => exact heard active
  | stays since | follows since | leaves since | binds since | falls since | dials since
  | picks _ since | exhausts _ since | yields _ since => exact since.active active

theorem Since.undialed (since : Since id none old new) (phone : PhoneId) :
    new.notes.dials id phone = old.notes.dials id phone :=
  since.dials phone

theorem Turn.settled {own : Prop} (turn : Turn terms id own old new) (known : old.known)
    (settled : old.Settled) :
    new.Settled ∧ ∀ phone, new.notes.dials id phone = old.notes.dials id phone := by
  have still (since : Since id none old new) (same : new.stage = old.stage) :
      new.Settled ∧ ∀ phone, new.notes.dials id phone = old.notes.dials id phone := by
    refine ⟨?_, since.undialed⟩
    cases settled with
    | gone gone => exact .gone (since.gone gone)
    | finishing now => exact .finishing (same.trans now)
    | idle idle bare => exact .idle (same.trans idle) (since.bare idle bare)
  cases turn with
  | appears strange => exact absurd known strange
  | stays since keeps phone same => exact still since same
  | yields foreign since phone same => exact still since same
  | leaves since keeps was now bare => exact ⟨.idle now bare, since.undialed⟩
  | exhausts mine since was now => exact ⟨.finishing now, since.undialed⟩
  | follows since keeps phone was now follows =>
    refine ⟨?_, since.undialed⟩
    cases settled with
    | gone gone => exact .gone (since.gone gone)
    | finishing before => cases was.symm.trans before; cases follows
    | idle idle => cases was.symm.trans idle
  | binds since keeps phone was now =>
    refine ⟨?_, since.undialed⟩
    cases settled with
    | gone gone => exact .gone (since.gone gone)
    | finishing before => cases was.symm.trans before
    | idle idle => cases was.symm.trans idle
  | falls since keeps phone here was held now =>
    refine ⟨?_, since.undialed⟩
    cases settled with
    | gone gone => exact .gone (since.gone gone)
    | finishing before => cases was.symm.trans before
    | idle idle bare => cases held.symm.trans bare
  | dials since keeps phone alive was due now =>
    cases settled with
    | gone gone => cases alive.symm.trans gone
    | finishing before =>
      cases was.symm.trans before
      rcases due with ⟨slot, placing, -⟩ | ⟨chosen, -⟩
      · cases placing
      · cases chosen
    | idle idle => cases was.symm.trans idle
  | picks mine since alive was now =>
    cases settled with
    | gone gone => cases alive.symm.trans gone
    | finishing before => cases was.symm.trans before
    | idle idle => cases was.symm.trans idle

def pending (course : Course) (phone : PhoneId) : Nat :=
  if course.stage.bind Stage.chosen? = some phone then 1 else 0

theorem pending_chosen {course : Course} {next : PhoneId} (now : course.stage = some (.chosen next))
    (phone : PhoneId) : course.pending phone = if next = phone then 1 else 0 := by
  simp [pending, now, Stage.chosen?]

theorem pending_eq_zero {course : Course} (apart : course.stage.bind Stage.chosen? = none)
    (phone : PhoneId) : course.pending phone = 0 := by
  simp [pending, apart]

/-- How often the phone has been dialed for the call: not at all, once, or as often as its queue
allows; `limit` is the number of rounds. -/
inductive Measured (terms : Terms) (id : ConnectionId) (limit : Nat) (phone : PhoneId)
    (course : Course) : Prop
  | unborn (strange : ¬ course.known) (none : course.sequence = none)
    (alone : course.stage = .none) (undialed : course.notes.dials id phone = 0)
  | placing {slot : Slot} (known : course.known) (none : course.sequence = none)
    (now : course.stage = some (.placing slot)) (place : terms.ident slot = course.phone)
    (undialed : course.notes.dials id phone = 0)
  | first (known : course.known) (none : course.sequence = none)
    (tries : ∀ stage, course.stage = some stage → stage.Tries course.phone)
    (room : course.notes.dials id phone ≤ if course.phone = phone then 1 else 0)
  | again {retry : RetryQueue} (known : course.known) (has : course.sequence = some retry)
    (within : retry.Within limit) (unplaced : ∀ slot, course.stage ≠ some (.placing slot))
    (room : course.notes.dials id phone + course.pending phone ≤ retry.allowance phone)
  | settled (known : course.known) (settled : course.Settled)
    (bounded : course.notes.dials id phone ≤ limit)
  | active (active : course.active)

variable {limit : Nat} {phone : PhoneId}

theorem Measured.bounded {course : Course} (measured : Measured terms id limit phone course)
    (positive : 0 < limit) (inactive : ¬ course.active) : course.notes.dials id phone ≤ limit := by
  cases measured with
  | unborn _ _ _ undialed => exact undialed ▸ Nat.zero_le _
  | placing _ _ _ _ undialed => exact undialed ▸ Nat.zero_le _
  | first _ _ _ room => split at room <;> omega
  | again _ _ within _ room =>
    have allowed := within.allowance_le phone
    omega
  | settled _ _ bounded => exact bounded
  | active active => exact absurd active inactive

theorem Keeps.none (keeps : old.Keeps new) (none : old.sequence = none) : new.sequence = .none := by
  rcases keeps with still | ⟨lost, -⟩
  · exact still.trans none
  · exact lost

/-- The queue may go when the call is destroyed or active. -/
theorem Measured.kept (keeps : old.Keeps new) (known : new.known)
    (bounded : new.notes.dials id phone ≤ limit)
    (same : new.sequence = old.sequence → Measured terms id limit phone new) :
    Measured terms id limit phone new := by
  rcases keeps with still | ⟨-, gone | active⟩
  · exact same still
  · exact .settled known (.gone gone) bounded
  · exact .active active

theorem Measured.picked {queue retry : RetryQueue} {failed next : PhoneId} {permanent : Bool}
    (since : Since id .none old new) (known : new.known) (now : new.stage = some (.chosen next))
    (chosen : (queue.recordFailure failed permanent).next = (some next, retry))
    (queued : new.sequence = some retry) (within : queue.Within limit)
    (room : old.notes.dials id phone ≤ queue.allowance phone) :
    Measured terms id limit phone new := by
  refine .again known queued ((within.recordFailure failed permanent).next chosen)
    (fun slot placing => ?_) ?_
  · cases now.symm.trans placing
  · have more := RetryQueue.room_picked within chosen phone
    rw [since.undialed, pending_chosen now]
    omega

namespace Turn

theorem measured_of_unborn (turn : Turn terms id True old new) (strange : ¬ old.known)
    (none : old.sequence = none) (alone : old.stage = .none)
    (undialed : old.notes.dials id phone = 0) : Measured terms id limit phone new := by
  cases turn with
  | @appears stage _ known active same dials now place =>
    have nothing := (dials phone).trans undialed
    have empty := same.trans none
    cases stage with
    | placing slot => exact .placing known empty now place nothing
    | finishing => exact .settled known (.finishing now) (nothing ▸ Nat.zero_le _)
    | chosen other => exact place.elim
    | reselecting => exact place.elim
    | _ =>
      refine .first known empty (fun stage here => ?_) ?_
      · cases now.symm.trans here
        exact place
      · rw [nothing]
        exact Nat.zero_le _
  | stays since keeps place same =>
    exact .unborn (fun known => strange (since.known.mp known)) (keeps.none none)
      (same.trans alone) ((since.undialed phone).trans undialed)
  | falls _ _ _ known => exact absurd known strange
  | yields foreign => exact absurd trivial foreign
  | follows _ _ _ was | leaves _ _ was | binds _ _ _ was | dials _ _ _ _ was | picks _ _ _ was
  | exhausts _ _ was => cases was.symm.trans alone

theorem measured_of_placing {slot : Slot} (turn : Turn terms id True old new) (known : old.known)
    (none : old.sequence = none) (placing : old.stage = some (.placing slot))
    (place : terms.ident slot = old.phone) (undialed : old.notes.dials id phone = 0) :
    Measured terms id limit phone new := by
  have here := turn.known known
  have nothing (since : Since id .none old new) : new.notes.dials id phone = 0 :=
    (since.undialed phone).trans undialed
  cases turn with
  | appears strange => exact absurd known strange
  | stays since keeps moved same =>
    refine .placing here (keeps.none none) (same.trans placing) ?_ (nothing since)
    rcases moved with same | chosen
    · exact place.trans same.symm
    · cases placing.symm.trans chosen
  | leaves since keeps was now bare =>
    exact .settled here (.idle now bare) (nothing since ▸ Nat.zero_le _)
  | @dials _ next _ since keeps same alive was due now =>
    cases placing.symm.trans was
    rcases due with ⟨_, ⟨⟩, rfl⟩ | ⟨chosen, -⟩
    · have placed := same.trans place.symm
      refine .first here (keeps.none none) (fun stage tried => ?_) ?_
      · cases now.symm.trans tried
        exact placed.symm
      · rw [since.dials phone, undialed, Nat.zero_add, placed]
        simp
    · cases chosen
  | follows since keeps same was now follows =>
    cases placing.symm.trans was
    exact absurd rfl (follows.unplaced slot).1
  | yields foreign => exact absurd trivial foreign
  | falls _ _ _ _ was | binds _ _ _ was | picks _ _ _ was | exhausts _ _ was =>
    cases placing.symm.trans was

theorem measured_of_first (turn : Turn terms id True old new) (known : old.known)
    (limited : limit = max terms.settings.emergencyRetryRounds 1) (none : old.sequence = none)
    (tries : ∀ stage, old.stage = some stage → stage.Tries old.phone)
    (room : old.notes.dials id phone ≤ if old.phone = phone then 1 else 0) :
    Measured terms id limit phone new := by
  have here := turn.known known
  have bounded (since : Since id .none old new) : new.notes.dials id phone ≤ limit := by
    rw [since.undialed]
    split at room <;> omega
  have again (since : Since id .none old new) (keeps : old.Keeps new)
      (same : new.phone = old.phone)
      (still : ∀ stage, new.stage = some stage → stage.Tries old.phone) :
      Measured terms id limit phone new := by
    refine .first here (keeps.none none) (fun stage now => ?_) ?_
    · rw [same]
      exact still stage now
    · rw [since.undialed, same]
      exact room
  cases turn with
  | appears strange => exact absurd known strange
  | stays since keeps moved stage =>
    rcases moved with same | chosen
    · exact again since keeps same fun next now => tries next (stage.symm.trans now)
    · exact (tries _ chosen).elim
  | leaves since keeps was now bare => exact .settled here (.idle now bare) (bounded since)
  | exhausts mine since was now => exact .settled here (.finishing now) (bounded since)
  | binds since keeps same was now =>
    refine again since keeps same fun next late => ?_
    cases now.symm.trans late
  | falls since keeps same known was held now =>
    refine again since keeps same fun next late => ?_
    cases now.symm.trans late
    rfl
  | follows since keeps same was now follows =>
    rcases follows.tries (tries _ was) with still | rfl
    · refine again since keeps same fun next late => ?_
      cases now.symm.trans late
      exact still
    · exact .settled here (.finishing now) (bounded since)
  | dials since keeps same alive was due now =>
    rcases due with ⟨slot, rfl, -⟩ | ⟨rfl, -⟩
    · exact (tries _ was).elim
    · exact (tries _ was).elim
  | @picks failed next permanent phones retry mine since alive was now chosen queued =>
    obtain rfl : failed = old.phone := tries _ was
    rw [none, Option.getD_none] at chosen
    refine .picked since here now chosen queued (limited ▸ RetryQueue.within_start ..)
      (Nat.le_trans room ?_)
    split
    · rename_i same
      subst same
      exact Nat.le_of_eq (RetryQueue.allowance_start ..).symm
    · exact Nat.zero_le _
  | yields foreign => exact absurd trivial foreign

theorem measured_of_again {retry : RetryQueue} (turn : Turn terms id True old new)
    (known : old.known) (has : old.sequence = some retry) (within : retry.Within limit)
    (unplaced : ∀ slot, old.stage ≠ some (.placing slot))
    (room : old.notes.dials id phone + old.pending phone ≤ retry.allowance phone) :
    Measured terms id limit phone new := by
  have here := turn.known known
  have allowed := within.allowance_le phone
  have bounded (since : Since id .none old new) : new.notes.dials id phone ≤ limit := by
    rw [since.undialed]
    omega
  have again (since : Since id .none old new) (keeps : old.Keeps new)
      (later : ∀ slot, new.stage ≠ some (.placing slot))
      (pending : new.pending phone ≤ old.pending phone) : Measured terms id limit phone new := by
    refine .kept keeps here (bounded since) fun still => ?_
    refine .again here (still.trans has) within later ?_
    rw [since.undialed]
    omega
  have idle (nobody : new.stage.bind Stage.chosen? = none) :
      new.pending phone ≤ old.pending phone := by
    rw [pending_eq_zero nobody]
    exact Nat.zero_le _
  cases turn with
  | appears strange => exact absurd known strange
  | stays since keeps moved same =>
    refine again since keeps (fun slot => same.symm ▸ unplaced slot) (Nat.le_of_eq ?_)
    simp only [pending, same]
  | leaves since keeps was now bare => exact .settled here (.idle now bare) (bounded since)
  | exhausts mine since was now => exact .settled here (.finishing now) (bounded since)
  | binds since keeps same was now =>
    exact again since keeps (by rw [now]; nofun) (idle (by rw [now]; rfl))
  | falls since keeps same known was held now =>
    exact again since keeps (by rw [now]; nofun) (idle (by rw [now]; rfl))
  | follows since keeps same was now follows =>
    refine again since keeps (fun slot placing => ?_) (idle ?_)
    · rw [now] at placing
      exact (follows.unplaced slot).2 (Option.some.inj placing)
    · rw [now]
      exact follows.chosen?
  | dials since keeps same alive was due now =>
    rcases due with ⟨slot, rfl, -⟩ | ⟨rfl, -⟩
    · exact absurd was (unplaced slot)
    · have more := since.dials phone
      rw [pending_chosen was] at room
      simp only [Option.some.injEq] at more
      refine .kept keeps here (by omega) fun still => ?_
      refine .again here (still.trans has) within (by rw [now]; nofun) ?_
      rw [pending_eq_zero (by rw [now]; rfl)]
      omega
  | picks mine since alive was now chosen queued =>
    rw [has, Option.getD_some] at chosen
    exact .picked since here now chosen queued within (by omega)
  | yields foreign => exact absurd trivial foreign

theorem measured (turn : Turn terms id True old new)
    (limited : limit = max terms.settings.emergencyRetryRounds 1)
    (measured : Measured terms id limit phone old) : Measured terms id limit phone new := by
  cases measured with
  | unborn strange none alone undialed => exact turn.measured_of_unborn strange none alone undialed
  | placing known none now place undialed =>
    exact turn.measured_of_placing known none now place undialed
  | first known none tries room => exact turn.measured_of_first known limited none tries room
  | again known has within unplaced room =>
    exact turn.measured_of_again known has within unplaced room
  | settled known settled bounded =>
    obtain ⟨still, same⟩ := turn.settled known settled
    exact .settled (turn.known known) still (same phone ▸ bounded)
  | active active => exact .active (turn.active active)

end Turn

def Avoids (course : Course) (phone : PhoneId) : Prop :=
  match course.stage with
  | none => course.phone ≠ phone
  | some (.chosen other) | some (.redialing other _) => other ≠ phone
  | some (.dialing other _) | some (.received other _) | some (.failing other _) =>
    other ≠ phone ∧ course.phone ≠ phone
  | some (.placing _) | some .reselecting | some .finishing => False

/-- The call has failed for good on the phone: its agent is about to learn of it, or to put the
phone out of the queue, or the phone is out already. -/
inductive Barred (phone : PhoneId) (course : Course) : Prop
  | refused {ticket : Nat} {error : RadioError} (now : course.stage = some (.dialing phone ticket))
    (said : course.notes.Answered ticket (.reply (.refused error)))
    (permanent : error.failure.retryClass = .permanent)
  | failing {error : RadioError} (now : course.stage = some (.failing phone error))
    (permanent : error.failure.retryClass = .permanent)
  | redialing (now : course.stage = some (.redialing phone true))
  | out {retry : RetryQueue} (has : course.sequence = some retry) (out : phone ∉ retry.queue)
    (avoids : course.Avoids phone)
  | settled (settled : course.Settled)
  | active (active : course.active)

theorem Barred.kept (keeps : old.Keeps new)
    (same : new.sequence = old.sequence → Barred phone new) : Barred phone new := by
  rcases keeps with still | ⟨-, gone | active⟩
  · exact same still
  · exact .settled (.gone gone)
  · exact .active active

namespace Turn

theorem onward {stage : Stage} (turn : Turn terms id True old new) (known : old.known)
    (was : old.stage = some stage)
    (underWay : (∃ other ticket, stage = .dialing other ticket) ∨
      ∃ other error, stage = .failing other error) :
    old.notes <:+ new.notes ∧ (new.stage = some stage ∨ new.Settled ∨
      ∃ next, new.stage = some next ∧ stage.Follows old.notes next) := by
  obtain ⟨_, since⟩ := turn.since known
  refine ⟨since.notes, ?_⟩
  have impossible {other : Stage} (here : old.stage = some other)
      (differ : ∀ phone, (∀ ticket, other ≠ .dialing phone ticket) ∧
        ∀ error, other ≠ .failing phone error) : False := by
    cases was.symm.trans here
    rcases underWay with ⟨phone, ticket, same⟩ | ⟨phone, error, same⟩
    · exact (differ phone).1 ticket same
    · exact (differ phone).2 error same
  cases turn with
  | appears strange => exact absurd known strange
  | stays since keeps moved same => exact .inl (same.trans was)
  | follows since keeps same here now follows =>
    cases was.symm.trans here
    exact .inr (.inr ⟨_, now, follows⟩)
  | leaves since keeps here now bare => exact .inr (.inl (.idle now bare))
  | dials since keeps same alive here due now =>
    rcases due with ⟨slot, rfl, -⟩ | ⟨rfl, -⟩
    · exact (impossible here fun _ => ⟨nofun, nofun⟩).elim
    · exact (impossible here fun _ => ⟨nofun, nofun⟩).elim
  | yields foreign => exact absurd trivial foreign
  | binds _ _ _ here | picks _ _ _ here | exhausts _ _ here =>
    exact (impossible here fun _ => ⟨nofun, nofun⟩).elim
  | falls _ _ _ _ here => cases was.symm.trans here

theorem barred_of_redialing (turn : Turn terms id True old new) (known : old.known)
    (redialing : old.stage = some (.redialing phone true)) : Barred phone new := by
  cases turn with
  | appears strange => exact absurd known strange
  | stays since keeps moved same => exact .redialing (same.trans redialing)
  | follows since keeps same was now follows =>
    cases redialing.symm.trans was
    cases follows
  | leaves since keeps was now bare => exact .settled (.idle now bare)
  | exhausts mine since was now => exact .settled (.finishing now)
  | dials since keeps same alive was due now =>
    cases redialing.symm.trans was
    rcases due with ⟨slot, placing, -⟩ | ⟨chosen, -⟩
    · cases placing
    · cases chosen
  | @picks failed next permanent phones retry mine since alive was now chosen queued =>
    cases redialing.symm.trans was
    have gone := RetryQueue.recordFailure_permanent
      (old.sequence.getD (.start id phones phone terms.settings.emergencyRetryRounds)) phone
    have out : phone ∉ retry.queue := by
      rw [RetryQueue.queue_next chosen]
      exact gone
    refine .out queued out ?_
    rw [Avoids, now]
    rintro rfl
    exact gone (RetryQueue.next_cases chosen).1
  | yields foreign => exact absurd trivial foreign
  | binds _ _ _ was | falls _ _ _ _ was => cases redialing.symm.trans was

theorem barred_of_out {retry : RetryQueue} (turn : Turn terms id True old new) (known : old.known)
    (has : old.sequence = some retry) (out : phone ∉ retry.queue) (avoids : old.Avoids phone) :
    Barred phone new ∧ new.notes.dials id phone = old.notes.dials id phone := by
  have still (keeps : old.Keeps new) (avoids : new.Avoids phone) : Barred phone new :=
    .kept keeps fun same => .out (same.trans has) out avoids
  cases turn with
  | appears strange => exact absurd known strange
  | stays since keeps moved same =>
    refine ⟨still keeps ?_, since.undialed phone⟩
    unfold Avoids at avoids ⊢
    rw [same]
    rcases moved with place | chosen
    · rwa [place]
    · rw [chosen] at avoids ⊢
      exact avoids
  | follows since keeps same was now follows =>
    refine ⟨?_, since.undialed phone⟩
    rw [Avoids, was] at avoids
    cases follows with
    | consume => exact .settled (.finishing now)
    | receive only | fail only => exact still keeps (by rw [Avoids, now, same]; exact avoids)
    | retry => exact still keeps (by rw [Avoids, now]; exact avoids.1)
    | skip => exact still keeps (by rw [Avoids, now]; exact avoids)
  | leaves since keeps was now bare => exact ⟨.settled (.idle now bare), since.undialed phone⟩
  | exhausts mine since was now => exact ⟨.settled (.finishing now), since.undialed phone⟩
  | binds since keeps same was now =>
    rw [Avoids, was] at avoids
    refine ⟨still keeps ?_, since.undialed phone⟩
    rw [Avoids, now, same]
    exact avoids.2
  | falls since keeps same known was held now =>
    rw [Avoids, was] at avoids
    refine ⟨still keeps ?_, since.undialed phone⟩
    rw [Avoids, now]
    exact avoids
  | @dials _ next _ since keeps same alive was due now =>
    rcases due with ⟨slot, rfl, -⟩ | ⟨rfl, place⟩
    · rw [Avoids, was] at avoids
      exact avoids.elim
    · rw [Avoids, was] at avoids
      refine ⟨still keeps ?_, ?_⟩
      · rw [Avoids, now, same, place]
        exact ⟨avoids, avoids⟩
      · rw [since.dials phone, if_neg fun here => avoids (Option.some.inj here), Nat.add_zero]
  | @picks failed next permanent phones retry' mine since alive was now chosen queued =>
    rw [Avoids, was] at avoids
    rw [has, Option.getD_some] at chosen
    have apart : phone ∉ (retry.recordFailure failed permanent).queue :=
      RetryQueue.not_mem_recordFailure out (Ne.symm avoids)
    refine ⟨.out queued ?_ ?_, since.undialed phone⟩
    · rw [RetryQueue.queue_next chosen]
      exact apart
    · rw [Avoids, now]
      rintro rfl
      exact apart (RetryQueue.next_cases chosen).1
  | yields foreign => exact absurd trivial foreign

theorem undialed {stage : Stage} (turn : Turn terms id True old new) (known : old.known)
    (was : old.stage = some stage) (unplaced : ∀ slot, stage ≠ .placing slot)
    (unchosen : stage.chosen? = none) (phone : PhoneId) :
    new.notes.dials id phone = old.notes.dials id phone := by
  cases turn with
  | appears strange => exact absurd known strange
  | dials since keeps same alive here due now =>
    cases was.symm.trans here
    rcases due with ⟨slot, rfl, -⟩ | ⟨rfl, -⟩
    · exact absurd rfl (unplaced slot)
    · cases unchosen
  | stays since | follows since | leaves since | binds since | falls since | picks _ since
  | exhausts _ since | yields _ since => exact since.undialed phone

theorem barred (turn : Turn terms id True old new) (known : old.known)
    (barred : Barred phone old) (inactive : ¬ new.active) :
    Barred phone new ∧ new.notes.dials id phone = old.notes.dials id phone := by
  cases barred with
  | @refused ticket error now said permanent =>
    refine ⟨?_, turn.undialed known now nofun rfl phone⟩
    obtain ⟨notes, same | settled | ⟨next, here, follows⟩⟩ :=
      turn.onward known now (.inl ⟨_, _, rfl⟩)
    · exact .refused same (said.later notes) permanent
    · exact .settled settled
    · cases follows with
      | receive only => cases only _ said
      | fail only =>
        cases only _ said
        exact .failing here permanent
      | consume => exact .settled (.finishing here)
  | @failing error now permanent =>
    refine ⟨?_, turn.undialed known now nofun rfl phone⟩
    obtain ⟨-, same | settled | ⟨next, here, follows⟩⟩ :=
      turn.onward known now (.inr ⟨_, _, rfl⟩)
    · exact .failing same permanent
    · exact .settled settled
    · cases follows
      rw [permanent] at here
      exact .redialing here
  | redialing now =>
    exact ⟨turn.barred_of_redialing known now, turn.undialed known now nofun rfl phone⟩
  | out has out avoids => exact turn.barred_of_out known has out avoids
  | settled settled =>
    obtain ⟨still, same⟩ := turn.settled known settled
    exact ⟨.settled still, same phone⟩
  | active active => exact absurd (turn.active active) inactive

end Turn

end Course
end Switchboard
