import Switchboard.Proofs.TaskClients
import Switchboard.Proofs.Routing

/-! The attempts at one call, apart from everything else that goes on. Its course is what can be
seen of the call itself, how far its agent has got, the queue by which it is redialed, and what has
been noted. Whatever happens in the office is one turn of the course: most turns only let time pass,
and a turn that takes the queue away from a call is due to the redial of another. -/

namespace Switchboard

namespace Chronicle

/-- How often the phone was dialed for the connection. -/
def dials (notes : Chronicle) (id : ConnectionId) (phone : PhoneId) : Nat :=
  notes.countP fun note => note.dialed? id == some phone

theorem dials_cons (note : Note) (notes : Chronicle) (id : ConnectionId) (phone : PhoneId) :
    dials (note :: notes) id phone =
      notes.dials id phone + if note.dialed? id = some phone then 1 else 0 := by
  simp [dials, List.countP_cons]

theorem dials_apart {note : Note} {id : ConnectionId} (apart : note.dialed? id = none)
    (notes : Chronicle) (phone : PhoneId) : dials (note :: notes) id phone = notes.dials id phone :=
      by
  rw [dials_cons, apart, if_neg nofun, Nat.add_zero]

end Chronicle

namespace RetryQueue

def allowance (retry : RetryQueue) (phone : PhoneId) : Nat :=
  (retry.round - 1) + if phone ∈ retry.attempted then 1 else 0

structure Within (retry : RetryQueue) (limit : Nat) : Prop where
  started : 0 < retry.round
  bounded : retry.round ≤ limit
  last : retry.maxRounds = limit

variable {retry after : RetryQueue} {limit : Nat} {phone other : PhoneId}

theorem within_start (owner : ConnectionId) (phones : List PhoneId) (first : PhoneId)
    (rounds : Nat) : (start owner phones first rounds).Within (max rounds 1) where
  started := Nat.one_pos
  bounded := Nat.le_max_right _ _
  last := rfl

theorem allowance_start (owner : ConnectionId) (phones : List PhoneId) (first : PhoneId)
    (rounds : Nat) : (start owner phones first rounds).allowance first = 1 := by
  simp [start, allowance]

theorem Within.allowance_le (within : retry.Within limit) (phone : PhoneId) :
    retry.allowance phone ≤ limit := by
  have started := within.started
  have bounded := within.bounded
  unfold allowance
  split <;> omega

theorem Within.recordFailure (within : retry.Within limit) (phone : PhoneId) (permanent : Bool) :
    (retry.recordFailure phone permanent).Within limit :=
  { within with }

theorem allowance_recordFailure (retry : RetryQueue) (phone : PhoneId) (permanent : Bool)
    (other : PhoneId) :
    retry.allowance other ≤ (retry.recordFailure phone permanent).allowance other := by
  refine Nat.add_le_add_left ?_ _
  by_cases tried : other ∈ retry.attempted
  · simp [tried, RetryQueue.recordFailure]
  · simp [tried]

theorem not_mem_recordFailure {permanent : Bool} (out : other ∉ retry.queue)
    (differ : other ≠ phone) : other ∉ (retry.recordFailure phone permanent).queue := by
  cases permanent <;> simp [recordFailure, out, differ]

theorem next_cases (picked : retry.next = (some phone, after)) :
    phone ∈ retry.queue ∧
      (phone ∉ retry.attempted ∧ after = retry.take phone ∨
        retry.round < retry.maxRounds ∧
          after = { retry with round := retry.round + 1, attempted := [phone] }) := by
  unfold next at picked
  split at picked
  · rename_i found waiting
    cases picked
    have fresh := List.find?_some waiting
    exact ⟨List.mem_of_find?_eq_some waiting, .inl ⟨by simpa using fresh, rfl⟩⟩
  · split at picked
    · rename_i more
      dsimp only at picked
      split at picked
      · rename_i found waiting
        cases picked
        exact ⟨List.mem_of_find?_eq_some waiting, .inr ⟨more.1, rfl⟩⟩
      · cases picked
    · cases picked

theorem queue_next (picked : retry.next = (some phone, after)) : after.queue = retry.queue := by
  rcases (next_cases picked).2 with ⟨-, rfl⟩ | ⟨-, rfl⟩ <;> rfl

theorem owner_next (picked : retry.next = (some phone, after)) : after.owner = retry.owner := by
  rcases (next_cases picked).2 with ⟨-, rfl⟩ | ⟨-, rfl⟩ <;> rfl

theorem Within.next (within : retry.Within limit) (picked : retry.next = (some phone, after)) :
    after.Within limit := by
  rcases (next_cases picked).2 with ⟨-, rfl⟩ | ⟨more, rfl⟩
  · exact { within with }
  · exact ⟨Nat.succ_pos _, within.last ▸ more, within.last⟩

theorem allowance_next (within : retry.Within limit) (picked : retry.next = (some phone, after))
    (other : PhoneId) : retry.allowance other ≤ after.allowance other := by
  have started := within.started
  rcases (next_cases picked).2 with ⟨-, rfl⟩ | ⟨-, rfl⟩
  · refine Nat.add_le_add_left ?_ _
    by_cases tried : other ∈ retry.attempted
    · simp [tried, take]
    · simp [tried]
  · simp only [allowance]
    split <;> omega

theorem allowance_picked (within : retry.Within limit)
    (picked : retry.next = (some phone, after)) :
    retry.allowance phone < after.allowance phone := by
  have started := within.started
  rcases (next_cases picked).2 with ⟨fresh, rfl⟩ | ⟨-, rfl⟩
  · simp [allowance, take, fresh]
  · simp only [allowance, List.mem_singleton, if_true]
    split <;> omega

end RetryQueue

def System.sequence? (system : System Chronicle) (id : ConnectionId) : Option RetryQueue :=
  system.registry.retry.filter (·.isFor true id)

namespace System

variable {system : System Chronicle} {id : ConnectionId} {retry : RetryQueue}

theorem sequence?_eq_some :
    system.sequence? id = some retry ↔ system.registry.retry = some retry ∧ retry.owner = id := by
  simp [sequence?, RetryQueue.isFor]

theorem sequence?_eq_none :
    system.sequence? id = none ↔
      ∀ retry, system.registry.retry = some retry → retry.owner ≠ id := by
  simp [sequence?, RetryQueue.isFor]

end System

namespace Registry

variable {registry after : Registry} {id : ConnectionId} {phones : List PhoneId} {rounds : Nat}
  {failed phone : PhoneId} {permanent : Bool}

theorem retry_nextPhone
    (picked : registry.nextPhone id phones rounds failed permanent = (some phone, after)) :
    ∃ retry, after.retry = some retry ∧ retry.owner = id ∧
      (((registry.retry.filter (·.isFor true id)).getD
        (.start id phones failed rounds)).recordFailure failed permanent).next =
          (some phone, retry) := by
  let own := (registry.retry.filter (·.isFor true id)).getD (.start id phones failed rounds)
  have mine : own.owner = id := by
    unfold own
    cases had : registry.retry.filter (·.isFor true id) with
    | some old => simpa [RetryQueue.isFor] using (Option.filter_eq_some_iff.mp had).2
    | none => rfl
  have same : registry.nextPhone id phones rounds failed permanent =
      ((own.recordFailure failed permanent).next.1, { registry with
        retry := if (own.recordFailure failed permanent).next.1.isSome then
          some (own.recordFailure failed permanent).next.2 else none }) := by
    unfold nextPhone own
    cases registry.retry.filter (·.isFor true id) <;> rfl
  obtain ⟨found, rfl⟩ := Prod.mk.inj (same.symm.trans picked)
  have next : (own.recordFailure failed permanent).next =
      (some phone, (own.recordFailure failed permanent).next.2) := by rw [← found]
  exact ⟨_, by simp [found], (RetryQueue.owner_next next).trans mine, next⟩

theorem retry_nextPhone_none
    (picked : registry.nextPhone id phones rounds failed permanent = (none, after)) :
    after.retry = none := by
  unfold nextPhone at picked
  simp only [Prod.mk.injEq] at picked
  obtain ⟨none, rfl⟩ := picked
  simp [none]

end Registry

namespace Stage

def IsAt (terms : Terms) (phone : PhoneId) : Stage → Prop
  | placing slot => terms.ident slot = phone
  | dialing other _ | received other _ | failing other _ | redialing other _ => other = phone
  | chosen _ | reselecting => False
  | finishing => True

inductive Follows (notes : Chronicle) : Stage → Stage → Prop
  | receive {phone ticket leg}
    (only : ∀ answer, notes.Answered ticket answer → answer = .leg leg) :
    Follows notes (dialing phone ticket) (received phone leg)
  | fail {phone ticket error}
    (only : ∀ answer, notes.Answered ticket answer → answer = .reply (.refused error)) :
    Follows notes (dialing phone ticket) (failing phone error)
  | consume {phone ticket} : Follows notes (dialing phone ticket) finishing
  | retry {phone error} :
    Follows notes (failing phone error)
      (redialing phone (error.failure.retryClass == .permanent))
  | skip {phone} : Follows notes (chosen phone) (redialing phone true)

end Stage

namespace Duty

def stageOf? (id : ConnectionId) : Duty → Option Stage
  | agent other stage => if other = id then some stage else none
  | ending _ => none

theorem stageOf?_eq_some {id : ConnectionId} {duty : Duty} {stage : Stage} :
    duty.stageOf? id = some stage ↔ duty = .agent id stage := by
  cases duty <;> simp [stageOf?]

def stage? (id : ConnectionId) (duties : List Duty) : Option Stage :=
  duties.findSome? (stageOf? id)

variable {id other : ConnectionId} {stage : Stage} {duties others : List Duty}

@[simp] theorem stage?_self : stage? id (.agent id stage :: duties) = some stage := by
  simp [stage?, stageOf?]

theorem stage?_other (differ : other ≠ id) :
    stage? id (.agent other stage :: duties) = stage? id duties := by
  simp [stage?, stageOf?, differ]

@[simp] theorem stage?_ending : stage? id (.ending other :: duties) = stage? id duties := rfl

theorem mem_of_stage? (found : stage? id duties = some stage) : .agent id stage ∈ duties := by
  obtain ⟨duty, among, is⟩ := List.exists_of_findSome?_eq_some found
  exact stageOf?_eq_some.mp is ▸ among

theorem stage?_eq_none (alone : ∀ stage, .agent id stage ∉ duties) : stage? id duties = none :=
  Option.eq_none_iff_forall_ne_some.mpr fun stage found => alone stage (mem_of_stage? found)

theorem stage?_of_mem (single : duties.countP (isAgentOf id) ≤ 1)
    (among : .agent id stage ∈ duties) : stage? id duties = some stage := by
  induction duties with
  | nil => cases among
  | cons duty rest ih =>
    rcases List.mem_cons.mp among with rfl | old
    · exact stage?_self
    · have one : 0 < rest.countP (isAgentOf id) :=
        List.countP_pos_iff.mpr ⟨_, old, by simp [isAgentOf]⟩
      rw [List.countP_cons] at single
      cases duty with
      | agent other stage =>
        rw [stage?_other]
        · exact ih (by omega) old
        · rintro rfl
          simp only [isAgentOf, beq_self_eq_true, if_true] at single
          omega
      | ending other => exact stage?_ending.trans (ih (by omega) old)

theorem stage?_beside (apart : other ≠ id) (stage next : Stage) :
    stage? id (.agent other next :: duties) = stage? id (.agent other stage :: duties) :=
  (stage?_other apart).trans (stage?_other apart).symm

theorem stage?_perm (single : duties.countP (isAgentOf id) ≤ 1) (same : duties.Perm others) :
    stage? id others = stage? id duties := by
  cases found : stage? id duties with
  | some stage =>
    exact stage?_of_mem (same.countP_eq _ ▸ single) (same.mem_iff.mp (mem_of_stage? found))
  | none =>
    refine stage?_eq_none fun stage among => ?_
    rw [stage?_of_mem single (same.mem_iff.mpr among)] at found
    cases found

end Duty

structure Course where
  known : Prop
  phone : PhoneId
  gone : Bool
  bare : Bool
  active : Prop
  stage : Option Stage
  sequence : Option RetryQueue
  notes : Chronicle

def System.course (system : System Chronicle) (duties : List Duty) (id : ConnectionId) :
    Course where
  known := system.Known id
  phone := (system.connection id).phone
  gone := (system.connection id).destroyed
  bare := (system.connection id).leg.isNone
  active := system.HeardActive id
  stage := Duty.stage? id duties
  sequence := system.sequence? id
  notes := system.outside

namespace Course

/-- Time has passed, with a dial or without; a call that nobody is at work on does not come by a
leg. -/
structure Since (id : ConnectionId) (dialed : Option PhoneId) (old new : Course) : Prop where
  known : new.known ↔ old.known
  gone : old.gone = true → new.gone = true
  bare : old.stage = none → old.bare = true → new.bare = true
  active : old.active → new.active
  notes : old.notes <:+ new.notes
  dials (phone : PhoneId) : new.notes.dials id phone =
    old.notes.dials id phone + if dialed = some phone then 1 else 0

/-- The queue is given up only for a call that is destroyed, or active. -/
def Keeps (old new : Course) : Prop :=
  new.sequence = old.sequence ∨ new.sequence = none ∧ (new.gone = true ∨ new.active)

/-- One turn of the course; `own` says that the agent of the call itself has a hand in it. -/
inductive Turn (terms : Terms) (id : ConnectionId) (own : Prop) (old new : Course) : Prop
  | appears {stage : Stage} (strange : ¬ old.known) (known : new.known)
    (active : old.active → new.active) (same : new.sequence = old.sequence)
    (undialed : ∀ phone, new.notes.dials id phone = old.notes.dials id phone)
    (now : new.stage = some stage) (place : stage.IsAt terms new.phone)
  | stays (since : Since id none old new) (keeps : old.Keeps new)
    (phone : new.phone = old.phone ∨ old.stage = some (.chosen new.phone))
    (same : new.stage = old.stage)
  | follows {stage next : Stage} (since : Since id none old new) (keeps : old.Keeps new)
    (phone : new.phone = old.phone) (was : old.stage = some stage) (now : new.stage = some next)
    (follows : stage.Follows old.notes next)
  | leaves {stage : Stage} (since : Since id none old new) (keeps : old.Keeps new)
    (was : old.stage = some stage) (now : new.stage = none) (bare : new.bare = true)
  | binds {place : PhoneId} {leg : LegId} (since : Since id none old new) (keeps : old.Keeps new)
    (phone : new.phone = old.phone) (was : old.stage = some (.received place leg))
    (now : new.stage = none)
  | falls {permanent : Bool} (since : Since id none old new) (keeps : old.Keeps new)
    (phone : new.phone = old.phone) (known : old.known) (was : old.stage = none)
    (held : old.bare = false) (now : new.stage = some (.redialing old.phone permanent))
  | dials {stage : Stage} {next : PhoneId} {ticket : Nat} (since : Since id (some next) old new)
    (keeps : old.Keeps new) (phone : new.phone = old.phone) (alive : old.gone = false)
    (was : old.stage = some stage)
      (due : (∃ slot, stage = .placing slot ∧ next = terms.ident slot) ∨
      stage = .chosen next ∧ old.phone = next) (now : new.stage = some (.dialing next ticket))
  | picks {failed next : PhoneId} {permanent : Bool} {phones : List PhoneId} {retry : RetryQueue}
    (mine : own) (since : Since id none old new) (alive : old.gone = false)
    (was : old.stage = some (.redialing failed permanent)) (now : new.stage = some (.chosen next))
    (chosen : ((old.sequence.getD (.start id phones failed
      terms.settings.emergencyRetryRounds)).recordFailure failed permanent).next =
        (some next, retry)) (queued : new.sequence = some retry)
  | exhausts {failed : PhoneId} {permanent : Bool} (mine : own) (since : Since id none old new)
    (was : old.stage = some (.redialing failed permanent)) (now : new.stage = some .finishing)
  | yields (foreign : ¬ own) (since : Since id none old new) (phone : new.phone = old.phone)
    (same : new.stage = old.stage) (none : new.sequence = none)

section
variable {id : ConnectionId} {duties others : List Duty} {before after : System Chronicle}

theorem Since.of_calm (calm : Calm before after) :
    Since id none (before.course duties id) (after.course others id) where
  known := calm.known id
  gone := (calm.onlyLoses id).destroyed
  bare _ bare := by
    rcases (calm.onlyLoses id).leg with none | ⟨same, -⟩
    · exact Option.isNone_iff_eq_none.mpr none
    · exact (congrArg Option.isNone same).trans bare
  active := calm.heard id
  notes := by
    simp only [System.course, calm.outside]
    exact List.suffix_refl _
  dials phone := by simp [System.course, calm.outside]

theorem Since.of_same (known : after.Known id ↔ before.Known id)
    (connection : after.connection id = before.connection id)
    (heard : before.HeardActive id → after.HeardActive id) {dialed : Option PhoneId}
    (notes : before.outside <:+ after.outside)
    (dials : ∀ phone, after.outside.dials id phone =
      before.outside.dials id phone + if dialed = some phone then 1 else 0) :
    Since id dialed (before.course duties id) (after.course others id) where
  known := known
  gone gone := (congrArg (·.destroyed) connection).trans gone
  bare _ bare := (congrArg (·.leg.isNone) connection).trans bare
  active := heard
  notes := notes
  dials := dials

theorem Since.aside (connections : after.connections = before.connections)
    (journal : after.journal = before.journal) {dialed : Option PhoneId}
    (notes : before.outside <:+ after.outside)
    (dials : ∀ phone, after.outside.dials id phone =
      before.outside.dials id phone + if dialed = some phone then 1 else 0) :
    Since id dialed (before.course duties id) (after.course others id) := by
  refine .of_same (System.known_congr (congrArg List.length connections) id) ?_ ?_ notes dials
  · cases id <;> simp only [System.connection, connections]
  · rintro ⟨old, among⟩
    exact ⟨old, journal ▸ among⟩

theorem Since.unnoted (connections : after.connections = before.connections)
    (journal : after.journal = before.journal) (outside : after.outside = before.outside) :
    Since id none (before.course duties id) (after.course others id) :=
  .aside connections journal (outside ▸ List.suffix_refl _) fun phone => by rw [outside]; rfl

theorem Since.noting (note : Note) :
    Since id (note.dialed? id) (before.course duties id) ((before.noting note).course others id) :=
  .aside (by rfl) (by rfl) (List.suffix_cons _ _) fun phone =>
    Chronicle.dials_cons note _ id phone

theorem Since.quiet {note : Note} (apart : note.dialed? id = none) :
    Since id none (before.course duties id) ((before.noting note).course others id) :=
  apart ▸ .noting note

theorem Keeps.of_retry (same : after.registry.retry = before.registry.retry) :
    (before.course duties id).Keeps (after.course others id) := by
  refine .inl ?_
  simp only [System.course, System.sequence?, same]

theorem Keeps.of_calm (calm : Calm before after) :
    (before.course duties id).Keeps (after.course others id) := by
  rcases calm.retry with same | ⟨none, why⟩
  · exact .of_retry same
  · have lost : after.sequence? id = Option.none := by rw [System.sequence?, none]; rfl
    cases had : before.sequence? id with
    | none => exact .inl (lost.trans had.symm)
    | some retry =>
      obtain ⟨held, rfl⟩ := System.sequence?_eq_some.mp had
      exact .inr ⟨lost, why retry held⟩

theorem Turn.joined {terms : Terms} {own : Prop}
    (connections : after.connections = before.connections)
    (journal : after.journal = before.journal)
    (retry : after.registry.retry = before.registry.retry)
    (notes : before.outside <:+ after.outside)
    (dials : ∀ phone, after.outside.dials id phone = before.outside.dials id phone)
    (params : CallParameters) (redial : Bool) (plans : List (ConnectionId × DialPlan))
    {stage : Stage} (place : stage.IsAt terms params.phone) :
    Turn terms id own (before.course duties id)
      ((after.joined (.enlisted params redial) plans).course
        (.agent (.issued before.connections.length) stage :: duties) id) := by
  have count := congrArg List.length connections
  have heard : before.HeardActive id →
      (after.joined (.enlisted params redial) plans).HeardActive id := by
    rintro ⟨old, among⟩
    exact ⟨old, journal.symm ▸ among⟩
  by_cases new : .issued before.connections.length = id
  · subst new
    have newest := after.connection_joined_newest (.enlisted params redial) plans
    rw [count] at newest
    refine .appears before.not_known_next (count ▸ after.joined_known _ _) heard ?_ dials
      Duty.stage?_self ?_
    · simp only [System.course, System.sequence?, System.joined, retry]
    · simp only [System.course, newest]
      exact place
  · refine .stays (.of_same ?_ ?_ heard notes dials) ?_ (.inl ?_) (Duty.stage?_other new)
    · cases id with
      | issued serial =>
        simp only [ConnectionId.issued.injEq] at new
        simp only [System.Known, System.joined, List.length_append, List.length_singleton, count]
        omega
      | outsider value => exact Iff.rfl
    · rw [System.connection_joined, count, if_neg (Ne.symm new)]
      cases id <;> simp only [System.connection, connections]
    · refine .inl ?_
      simp only [System.course, System.sequence?, System.joined, retry]
    · simp only [System.course, System.connection_joined, count, if_neg (Ne.symm new)]
      cases id <;> simp only [System.connection, connections]

theorem Turn.restaged {terms : Terms} {own : Prop} {other : ConnectionId} {stage next : Stage}
    (since : Since id none (before.course (.agent other stage :: duties) id)
      (after.course (.agent other next :: duties) id))
    (keeps : after.registry.retry = before.registry.retry)
    (phone : (after.connection id).phone = (before.connection id).phone)
    (follows : stage.Follows before.outside next) :
    Turn terms id own (before.course (.agent other stage :: duties) id)
      (after.course (.agent other next :: duties) id) := by
  by_cases here : other = id
  · subst here
    exact .follows since (.of_retry keeps) phone Duty.stage?_self Duty.stage?_self follows
  · exact .stays since (.of_retry keeps) (.inl phone) (Duty.stage?_beside here _ _)

theorem Turn.relieved {terms : Terms} {own : Prop} {other : ConnectionId} {stage : Stage}
    (orderly : Orderly terms (.agent other stage :: duties) before)
    (since : Since id none (before.course (.agent other stage :: duties) id)
      (after.course duties id))
    (keeps : after.registry.retry = before.registry.retry)
    (connection : after.connection id = before.connection id) :
    Turn terms id own (before.course (.agent other stage :: duties) id)
      (after.course duties id) := by
  by_cases here : other = id
  · subst here
    refine .leaves since (.of_retry keeps) Duty.stage?_self (Duty.stage?_eq_none orderly.alone) ?_
    simp only [System.course, connection, orderly.free List.mem_cons_self, Option.isNone_none]
  · refine .stays since (.of_retry keeps) (.inl (congrArg (·.phone) connection)) ?_
    exact (Duty.stage?_other here).symm

theorem Turn.bereft {terms : Terms} {own : Prop} {other : ConnectionId} {leg : LegId}
    {stage : Stage}
    (orderly : Orderly terms duties before) (plain : terms.settings.domainSelection = false)
    (calm : Calm before after) (had : (before.connection other).leg = some leg)
    (work : stage.ComesUp (before.connection other)) :
    Turn terms id own (before.course duties id)
      (after.course (.agent other stage :: duties) id) := by
  by_cases here : other = id
  · subst here
    cases stage with
    | redialing phone permanent =>
      obtain ⟨rfl, -⟩ := work
      refine .falls (.of_calm calm) (.of_calm calm) (calm.onlyLoses other).phone
        (before.known_of_leg had) (Duty.stage?_eq_none fun stage among => ?_)
        (by simp [System.course, had]) Duty.stage?_self
      rw [orderly.free among] at had
      cases had
    | reselecting =>
      have enabled := orderly.selection other work
      rw [plain] at enabled
      cases enabled
    | _ => exact work.elim
  · exact .stays (.of_calm calm) (.of_calm calm) (.inl (calm.onlyLoses id).phone)
      (Duty.stage?_other here)

theorem Turn.dialed {terms : Terms} {own : Prop} {other : ConnectionId} {phone : PhoneId}
    {stage : Stage} (orderly : Orderly terms (.agent other stage :: duties) before)
    (plain : terms.settings.domainSelection = false)
    (alive : (before.connection other).destroyed = false)
    (dials : stage.Dials terms (before.connection other) phone) (number : String) (args : DialArgs)
    (ticket : Nat) :
    Turn terms id own (before.course (.agent other stage :: duties) id)
      ((before.noting (.asked (.dial other phone number args))).course
        (.agent other (.dialing phone ticket) :: duties) id) := by
  by_cases here : other = id
  · subst here
    have dialed : (Note.asked (.dial other phone number args)).dialed? other = some phone := by
      simp [Note.dialed?]
    refine .dials (dialed ▸ .noting _) (.of_retry rfl) (by simp [System.course]) alive
      Duty.stage?_self ?_ Duty.stage?_self
    cases stage with
    | placing slot => exact .inl ⟨slot, rfl, dials⟩
    | chosen next =>
      obtain ⟨rfl, place⟩ := dials
      exact .inr ⟨rfl, place⟩
    | reselecting =>
      have enabled := orderly.reselection List.mem_cons_self
      rw [plain] at enabled
      cases enabled
    | _ => exact dials.elim
  · exact .stays (.quiet (by simp [Note.dialed?, here])) (.of_retry rfl)
      (.inl (by simp [System.course])) (Duty.stage?_beside here _ _)

/-- An agent has bound a call to its leg, and leaves. -/
theorem Turn.bound {terms : Terms} {own : Prop} {other : ConnectionId} {phone : PhoneId}
    {leg : LegId} (orderly : Orderly terms (.agent other (.received phone leg) :: duties) before)
    (alive : (before.connection other).destroyed = false) :
    Turn terms id own (before.course (.agent other (.received phone leg) :: duties) id)
      ((before.bound other leg).course duties id) := by
  have books := before.sameBooks_bound other leg
  have retry := books.read (·.registry.retry) fun _ _ _ => rfl
  have outside := books.read (·.outside) fun _ _ _ => rfl
  have known := System.known_congr (before.count_bound other leg) id
  have bound := before.connection_bound other leg id
  have heard : before.HeardActive id → (before.bound other leg).HeardActive id := by
    rintro ⟨old, among⟩
    exact ⟨old, books.read (·.journal) (fun _ _ _ => rfl) ▸ among⟩
  by_cases here : other = id
  · subst here
    rw [if_pos ⟨rfl, before.known_of_alive alive⟩] at bound
    have onlyLoses := Connection.onlyLoses_settled
      (.bound leg (before.leg leg).view (before.connection other))
    refine .binds ?_ (.of_retry retry) ?_ Duty.stage?_self (Duty.stage?_eq_none orderly.alone)
    · exact {
        known := known
        gone := fun gone => absurd (alive.symm.trans gone) Bool.false_ne_true
        bare := fun none => by
          rw [System.course, Duty.stage?_self] at none
          cases none
        active := heard
        notes := by
          simp only [System.course, outside]
          exact List.suffix_refl _
        dials := fun _ => by simp [System.course, outside] }
    · simp only [System.course, bound]
      exact onlyLoses.phone
  · rw [if_neg fun same => here same.1.symm] at bound
    refine .stays (.of_same known bound heard ?_ fun _ => ?_) (.of_retry retry)
      (.inl (congrArg (·.phone) bound)) (Duty.stage?_other here).symm
    · exact outside ▸ List.suffix_refl _
    · rw [outside]
      rfl

theorem Turn.yielded {terms : Terms} {own : Prop} {other : ConnectionId} {stage next : Stage}
    {registry : Registry} (foreign : ¬ own) (apart : other ≠ id)
    (theirs : ∀ retry, registry.retry = some retry → retry.owner = other) :
    Turn terms id own (before.course (.agent other stage :: duties) id)
      ({ before with registry }.course (.agent other next :: duties) id) :=
  .yields foreign (.unnoted rfl rfl rfl) rfl (Duty.stage?_beside apart _ _)
    (System.sequence?_eq_none.mpr fun retry had => theirs retry had ▸ apart)

theorem Turn.reassigned {terms : Terms} {own : Prop} {other : ConnectionId} {phone : PhoneId}
    (subscription : Option SubscriptionId) (technology : Technology) (carrier : CarrierConfig) :
    Turn terms id own (before.course (.agent other (.chosen phone) :: duties) id)
      ((before.reviseConnection other ({ · with phone, subscription, technology, carrier })).course
        (.agent other (.chosen phone) :: duties) id) := by
  let change (call : Connection) := { call with phone, subscription, technology, carrier }
  have part {α : Type} (read : Connection → α) (blind : ∀ call, read (change call) = read call) :
      read ((before.reviseConnection other change).connection id) = read (before.connection id) :=
    before.read_reviseConnection read (blind _) id
  refine .stays ?_ (.of_retry (by simp)) ?_ rfl
  · exact {
      known := System.known_congr (by simp) id
      gone := (part (·.destroyed) fun _ => rfl).trans
      bare := fun _ none => (congrArg Option.isNone (part (·.leg) fun _ => rfl)).trans none
      active := by
        rintro ⟨old, among⟩
        exact ⟨old, by simpa using among⟩
      notes := by simp [System.course]
      dials := fun phone => by simp [System.course] }
  · simp only [System.course]
    rw [System.connection_reviseConnection]
    split
    · rename_i here
      obtain ⟨rfl, -⟩ := here
      exact .inr Duty.stage?_self
    · exact .inl rfl

end

end Course

theorem Effect.turn {terms : Terms} {actor : Actor} {duties others : List Duty}
    {before after : System Chronicle} (effect : Effect terms actor duties before others after)
    (orderly : Orderly terms duties before) (plain : terms.settings.domainSelection = false)
    (id : ConnectionId) :
    Course.Turn terms id (actor = .task (some id)) (before.course duties id)
      (after.course others id) := by
  have disabled (enabled : terms.settings.domainSelection = true) : False := by
    rw [plain] at enabled
    cases enabled
  have foreign {other : ConnectionId} (apart : other ≠ id) :
      Actor.task (some other) ≠ .task (some id) := fun same => by
    cases same
    exact apart rfl
  cases effect with
  | shuffle same =>
    exact .stays (.unnoted (by rfl) (by rfl) (by rfl)) (.of_retry rfl) (.inl rfl)
      (Duty.stage?_perm (orderly.single id) same)
  | calm calm rest lost =>
    exact .stays (.of_calm calm) (.of_calm calm) (.inl (calm.onlyLoses id).phone) rfl
  | note plain =>
    have apart := Note.dialed?_of_apart (Note.apart_of_plain plain) id
    exact .stays (.quiet apart) (.of_retry rfl) (.inl (by simp [System.course])) rfl
  | move clock device ident numbers =>
    exact .stays (.unnoted (by rfl) (by rfl) (by rfl)) (.of_retry rfl)
      (.inl (by cases id <;> rfl)) rfl
  | signal signals =>
    exact .stays (.unnoted (by rfl) (by rfl) (by rfl)) (.of_retry rfl)
      (.inl (by cases id <;> rfl)) rfl
  | grant view rest opened dial =>
    exact .stays (.aside (by rfl) (by rfl) (List.suffix_cons _ _) (Chronicle.dials_apart rfl _))
      (.of_retry rfl) (.inl (by simp [System.course])) rfl
  | ring params view =>
    let note := Note.rang (.issued before.connections.length) ⟨before.legs.length⟩
    exact @Course.Turn.joined id duties before (before.gained view note) terms _ rfl rfl rfl
      (List.suffix_cons _ _) (Chronicle.dials_apart rfl _) params false [] _ rfl
  | giveUp calm rest lost had bare work => exact .bereft orderly plain calm had work
  | enroll params redial phone fits =>
    exact @Course.Turn.joined id duties before before terms _ rfl rfl rfl (List.suffix_refl _)
      (fun _ => rfl) params redial _ _ phone.symm
  | select enabled => exact (disabled enabled).elim
  | dial domain alive held dials => exact .dialed orderly plain alive dials _ _ _
  | receive granted =>
    exact .restaged (.quiet rfl) rfl (by simp) (.receive fun _ said => orderly.answers said granted)
  | fail refused =>
    exact .restaged (.quiet rfl) rfl (by simp) (.fail fun _ said => orderly.answers said refused)
  | consume replied => exact .restaged (.quiet rfl) rfl (by simp) .consume
  | bind alive => exact .bound orderly alive
  | hangup => exact .relieved orderly (.quiet rfl) rfl (by simp)
  | retry => exact .restaged (.unnoted rfl rfl rfl) rfl rfl .retry
  | redirect enabled => exact (disabled enabled).elim
  | @pick _ _ other failed permanent phone registry phones alive next =>
    obtain ⟨retry, queued, owner, chosen⟩ := Registry.retry_nextPhone next
    by_cases here : other = id
    · subst here
      exact .picks rfl (.unnoted rfl rfl rfl) alive Duty.stage?_self Duty.stage?_self chosen
        (System.sequence?_eq_some.mpr ⟨queued, owner⟩)
    · refine .yielded (foreign here) here fun other had => ?_
      obtain rfl := Option.some.inj (queued.symm.trans had)
      exact owner
  | @exhaust _ _ other failed permanent registry phones next =>
    have none := Registry.retry_nextPhone_none next
    by_cases here : other = id
    · subst here
      exact .exhausts rfl (.unnoted rfl rfl rfl) Duty.stage?_self Duty.stage?_self
    · refine .yielded (foreign here) here fun other had => ?_
      cases none.symm.trans had
  | skip => exact .restaged (.unnoted rfl rfl rfl) rfl rfl .skip
  | reassign subscription technology carrier => exact .reassigned subscription technology carrier
  | drop free done => exact .relieved orderly (.unnoted rfl rfl rfl) rfl rfl
  | overtake ends owns =>
    exact .stays (.quiet rfl) (.of_retry rfl) (.inl (by simp [System.course])) rfl
  | finish done =>
    exact .stays (.unnoted (by rfl) (by rfl) (by rfl)) (.of_retry rfl) (.inl rfl) rfl

end Switchboard
