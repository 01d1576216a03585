import Switchboard.Proofs.Occasions

/-! What becomes of the legs that dials are answered with. A leg is waited for or received, it is
the leg of its connection, it was told to end, or it has ended by itself; but when the answer to a
command that ends the call is there, the connection lets go of whatever leg it has by then. -/

namespace Switchboard

namespace Chronicle

/-- The dial was answered with the leg. -/
def Gave (notes : Chronicle) (ticket : Nat) (id : ConnectionId) (phone : PhoneId) (leg : LegId) :
    Prop :=
  (∃ number args, notes.Asks ticket (.dial id phone number args)) ∧
    notes.Answered ticket (.leg leg)

/-- Somebody has had the answer to a command that ends a call of the connection. -/
def Closes (notes : Chronicle) (id : ConnectionId) : Prop :=
  ∃ ticket leg earlier, .taken ticket :: earlier <:+ notes ∧
    Ends earlier ticket leg ∧ Owns earlier id leg

variable {notes newer : Chronicle} {id : ConnectionId} {leg : LegId} {note : Note}

theorem Gave.owns {ticket : Nat} {phone : PhoneId} (gave : notes.Gave ticket id phone leg) :
    notes.Owns id leg := by
  obtain ⟨⟨number, args, asks⟩, answered⟩ := gave
  exact .inr ⟨ticket, phone, number, args, asks, answered⟩

theorem IsSent.later (sent : notes.IsSent leg) (suffix : notes <:+ newer) : newer.IsSent leg :=
  sent.imp (fun asked => suffix.mem asked) fun asked => suffix.mem asked

theorem Closes.later (closes : notes.Closes id) (suffix : notes <:+ newer) : newer.Closes id := by
  obtain ⟨ticket, leg, earlier, made, rest⟩ := closes
  exact ⟨ticket, leg, earlier, made.trans suffix, rest⟩

theorem Closes.owns (closes : notes.Closes id) : ∃ leg, notes.Owns id leg := by
  obtain ⟨ticket, leg, earlier, made, -, owns⟩ := closes
  exact ⟨leg, owns.later ((List.suffix_cons _ _).trans made)⟩

theorem closes_cons (closes : Closes (note :: notes) id) :
    notes.Closes id ∨
      ∃ ticket leg, note = .taken ticket ∧ notes.Ends ticket leg ∧ notes.Owns id leg := by
  obtain ⟨ticket, leg, earlier, made, ends, owns⟩ := closes
  rcases List.suffix_cons_iff.mp made with here | old
  · obtain ⟨rfl, rfl⟩ := List.cons.inj here
    exact .inr ⟨ticket, leg, rfl, ends, owns⟩
  · exact .inl ⟨ticket, leg, earlier, old, ends, owns⟩

theorem Ends.unique {other : LegId} {ticket : Nat} (ends : notes.Ends ticket leg)
    (again : notes.Ends ticket other) : leg = other := by
  rcases ends with one | one | ⟨_, _, one, -⟩ <;> rcases again with two | two | ⟨_, _, two, -⟩ <;>
    cases one.unique two <;> rfl

theorem not_ends_of_dial {ticket : Nat} {phone : PhoneId} {number : String} {args : DialArgs}
    (asks : notes.Asks ticket (.dial id phone number args)) : ¬ notes.Ends ticket leg := by
  rintro (hangup | reject | ⟨video, error, answer, -⟩)
  · cases asks.unique hangup
  · cases asks.unique reject
  · cases asks.unique answer

theorem asks_of_isDial {ticket : Nat} (dial : notes.isDial ticket = true) :
    ∃ id phone number args, notes.Asks ticket (.dial id phone number args) := by
  unfold isDial at dial
  split at dial
  · exact ⟨_, _, _, _, ‹_›⟩
  · cases dial

theorem not_taken_of_isOpen {ticket : Nat} (opened : notes.isOpen ticket = true) :
    .taken ticket ∉ notes := by
  intro taken
  unfold isOpen at opened
  split at opened
  · simpa [Note.ticket?] using List.all_eq_true.mp opened _ taken
  · cases opened

theorem not_closes (dials : ∀ ticket, .taken ticket ∈ notes → notes.isDial ticket = true) :
    ¬ notes.Closes id := by
  rintro ⟨ticket, leg, earlier, made, ends, -⟩
  obtain ⟨_, _, _, _, asks⟩ := asks_of_isDial (dials ticket (made.mem List.mem_cons_self))
  exact not_ends_of_dial asks (ends.later ((List.suffix_cons _ _).trans made))

section
variable (early : ∀ {ticket answer}, notes.Answered ticket answer →
    ∃ call, notes.Asks ticket call)
  (dull : ∀ ticket leg, note.answer? ticket ≠ some (.leg leg))
include early dull

theorem Gave.of_cons {ticket : Nat} {phone : PhoneId}
    (gave : Gave (note :: notes) ticket id phone leg) : notes.Gave ticket id phone leg := by
  obtain ⟨⟨number, args, asks⟩, answered⟩ := gave
  have old := (answered_cons.mp answered).resolve_left (dull ticket leg)
  obtain ⟨call, before⟩ := early old
  obtain rfl := (before.later (List.suffix_cons note notes)).unique asks
  exact ⟨⟨number, args, before⟩, old⟩

theorem Owns.of_cons (still : ∀ id leg, note ≠ .rang id leg) (owns : Owns (note :: notes) id leg) :
    notes.Owns id leg := by
  rcases owns with rang | ⟨ticket, phone, number, args, asks, answered⟩
  · rcases List.mem_cons.mp rang with new | old
    · exact absurd new.symm (still id leg)
    · exact .inl old
  · exact (Gave.of_cons early dull ⟨⟨number, args, asks⟩, answered⟩).owns

end

end Chronicle

namespace System

variable (system : System Chronicle) (id : ConnectionId) (leg : LegId)

theorem view_release (held : Option LegId) (other : LegId) :
    ((system.release held).leg other).view = (system.leg other).view := by
  cases held with
  | none => rfl
  | some leg =>
    rw [release, leg_reviseLeg]
    split
    · rename_i here
      rw [here.1]
      rfl
    · rfl

theorem view_bound (other : LegId) :
    ((system.bound id leg).leg other).view = (system.leg other).view := by
  rw [bound, settle, view_release, leg_reviseConnection, tied, attached, leg_reviseLeg]
  have released (any : LegId) := (system.reviseConnection id
    (.bound leg (system.leg leg).view)).view_release (system.connection id).leg any
  split
  · rename_i here
    rw [here.1]
    exact (released leg).trans (by rw [leg_reviseConnection])
  · rw [released, leg_reviseConnection]

theorem legs_bound : (system.bound id leg).legs.length = system.legs.length := by
  have released := Calm.release
    (system.reviseConnection id (.bound leg (system.leg leg).view)) (system.connection id).leg
  have tied : (system.tied id leg).legs.length = system.legs.length := by
    simpa [System.tied, attached, reviseLeg] using released.legs
  exact (Calm.settle (system.tied id leg) id).legs.trans tied

end System

inductive LegOutcome (duties : List Duty) (system : System Chronicle) (ticket : Nat)
    (id : ConnectionId)
    (phone : PhoneId) (leg : LegId) : Prop
  | awaited (among : .agent id (.dialing phone ticket) ∈ duties)
  | received (among : .agent id (.received phone leg) ∈ duties)
  | held (held : (system.connection id).leg = some leg)
  | sent (sent : system.outside.IsSent leg)
  | ended (ended : system.outside.HasEnded leg)
  | closed (closed : system.outside.Closes id)

theorem LegOutcome.later {duties others : List Duty} {before after : System Chronicle}
    {ticket : Nat}
    {id : ConnectionId} {phone : PhoneId} {leg : LegId}
    (legOutcome : LegOutcome duties before ticket id phone leg)
    (suffix : before.outside <:+ after.outside)
    (agents : ∀ id stage, stage.holdsLeg = true → .agent id stage ∈ duties →
      .agent id stage ∈ others)
    (held : (before.connection id).leg = some leg → LegOutcome others after ticket id phone leg) :
    LegOutcome others after ticket id phone leg := by
  cases legOutcome with
  | awaited among => exact .awaited (agents _ _ rfl among)
  | received among => exact .received (agents _ _ rfl among)
  | held has => exact held has
  | sent sent => exact .sent (sent.later suffix)
  | ended ended => exact .ended (ended.later suffix)
  | closed closed => exact .closed (closed.later suffix)

/-- Every leg that a dial was answered with is accounted for. -/
structure Accounted (duties : List Duty) (system : System Chronicle) : Prop where
  born {id : ConnectionId} {leg : LegId} : system.outside.Owns id leg →
    system.Known id ∧ leg.serial < system.legs.length
  single {id other : ConnectionId} {leg : LegId} : system.outside.Owns id leg →
    system.outside.Owns other leg → id = other
  awaited {ticket : Nat} {id : ConnectionId} {phone : PhoneId} {number : String}
    {args : DialArgs} : system.outside.Asks ticket (.dial id phone number args) →
      .taken ticket ∈ system.outside ∨ .agent id (.dialing phone ticket) ∈ duties
  seen {ticket : Nat} {id : ConnectionId} {phone : PhoneId} {leg : LegId} :
    system.outside.Gave ticket id phone leg → (system.leg leg).view.state = .disconnected →
      system.outside.HasEnded leg
  traced {ticket : Nat} {id : ConnectionId} {phone : PhoneId} {leg : LegId} :
    system.outside.Gave ticket id phone leg → LegOutcome duties system ticket id phone leg
  closing {id : ConnectionId} : .ending id ∈ duties → system.outside.Closes id
  closed {id : ConnectionId} : system.outside.Closes id →
    .ending id ∈ duties ∨ (system.connection id).destroyed = true
  listed {id : ConnectionId} : (system.connection id).destroyed = false →
    system.isRegistered id = true

namespace Accounted

variable {duties others : List Duty} {before after system : System Chronicle}

theorem handed (accounted : Accounted duties system)
    (agents : ∀ id stage, stage.holdsLeg = true → .agent id stage ∈ duties →
      .agent id stage ∈ others)
    (endings : ∀ id, .ending id ∈ others ↔ .ending id ∈ duties) : Accounted others system :=
  { accounted with
    awaited := fun asks => (accounted.awaited asks).imp_right (agents _ _ rfl)
    traced := fun gave => (accounted.traced gave).later (List.suffix_refl _) agents .held
    closing := fun among => accounted.closing ((endings _).mp among)
    closed := fun closes => (accounted.closed closes).imp_left (endings _).mpr }

theorem relieved {id : ConnectionId} {stage : Stage}
    (accounted : Accounted (.agent id stage :: duties) system) (next : List Stage)
    (awaited : ∀ {phone ticket}, stage = .dialing phone ticket → .taken ticket ∈ system.outside)
    (traced : ∀ {ticket phone leg}, system.outside.Gave ticket id phone leg →
      stage = .dialing phone ticket ∨ stage = .received phone leg →
        LegOutcome (next.map (.agent id) ++ duties) system ticket id phone leg) :
    Accounted (next.map (.agent id) ++ duties) system := by
  have endings {other : ConnectionId} : .ending other ∈ next.map (.agent id) ++ duties ↔
      .ending other ∈ .agent id stage :: duties := by
    simp
  exact { accounted with
    awaited := fun asks => by
      refine (accounted.awaited asks).elim .inl fun among => ?_
      rcases List.mem_cons.mp among with same | old
      · cases same
        exact .inl (awaited rfl)
      · exact .inr (List.mem_append_right _ old)
    traced := fun gave => by
      cases accounted.traced gave with
      | awaited among =>
        rcases List.mem_cons.mp among with same | old
        · cases same
          exact traced gave (.inl rfl)
        · exact .awaited (List.mem_append_right _ old)
      | received among =>
        rcases List.mem_cons.mp among with same | old
        · cases same
          exact traced gave (.inr rfl)
        · exact .received (List.mem_append_right _ old)
      | held held => exact .held held
      | sent sent => exact .sent sent
      | ended ended => exact .ended ended
      | closed closed => exact .closed closed
    closing := fun among => accounted.closing (endings.mp among)
    closed := fun closes => (accounted.closed closes).imp_left endings.mpr }

theorem restage {id : ConnectionId} {stage : Stage}
    (accounted : Accounted (.agent id stage :: duties) system) (free : stage.holdsLeg = false)
    (next : List Stage) : Accounted (next.map (.agent id) ++ duties) system := by
  refine accounted.relieved next (fun same => ?_) fun _ same => ?_
  · rw [same] at free
    cases free
  · rcases same with rfl | rfl <;> cases free

theorem aside (accounted : Accounted duties before) (outside : after.outside = before.outside)
    (legs : after.legs = before.legs) (known : ∀ id, before.Known id → after.Known id)
    (leg : ∀ id, (after.connection id).leg = (before.connection id).leg)
    (destroyed : ∀ id, (after.connection id).destroyed = (before.connection id).destroyed)
    (listed : ∀ id, after.isRegistered id = before.isRegistered id) : Accounted duties after where
  born owns := by
    rw [outside] at owns
    rw [legs]
    exact (accounted.born owns).imp_left (known _)
  single one two := by
    rw [outside] at one two
    exact accounted.single one two
  awaited asks := by
    rw [outside] at asks ⊢
    exact accounted.awaited asks
  seen gave state := by
    rw [outside] at gave ⊢
    refine accounted.seen gave ?_
    simpa only [System.leg, legs] using state
  traced gave := by
    rw [outside] at gave
    refine (accounted.traced gave).later (outside ▸ List.suffix_refl _) (fun _ _ _ among => among)
      fun held => ?_
    exact .held ((leg _).trans held)
  closing among := by
    rw [outside]
    exact accounted.closing among
  closed {id} closes := by
    rw [outside] at closes
    rw [destroyed]
    exact accounted.closed closes
  listed {id} alive := by
    rw [listed]
    exact accounted.listed ((destroyed id).symm.trans alive)

theorem redrawn (accounted : Accounted duties system) {id : ConnectionId} {phones : List PhoneId}
    {rounds : Nat} {failed : PhoneId} {permanent : Bool} {next : Option PhoneId}
    {registry : Registry} (picked : system.registry.nextPhone id phones rounds failed permanent =
      (next, registry)) : Accounted duties { system with registry } := by
  have same : registry.connections = system.registry.connections := by
    unfold Registry.nextPhone at picked
    cases picked
    rfl
  exact accounted.aside rfl rfl (fun _ known => known) (fun _ => rfl) (fun _ => rfl) fun other =>
    congrArg (List.contains · other) same

theorem revised (accounted : Accounted duties system) (id : ConnectionId)
    {change : Connection → Connection} (leg : ∀ call, (change call).leg = call.leg)
    (destroyed : ∀ call, (change call).destroyed = call.destroyed) :
    Accounted duties (system.reviseConnection id change) := by
  have part {α : Type} (read : Connection → α) (blind : ∀ call, read (change call) = read call)
      (other : ConnectionId) : read ((system.reviseConnection id change).connection other) =
        read (system.connection other) :=
    system.read_reviseConnection read (blind _) other
  exact accounted.aside (by simp) (by simp) (fun _ known => by simpa using known)
    (part (·.leg) leg) (part (·.destroyed) destroyed) fun _ => by simp

theorem calm (accounted : Accounted duties before) (calm : Calm before after)
    (lost : ∀ id leg, (before.connection id).leg = some leg → (after.connection id).leg = none →
      before.outside.HasEnded leg ∨ .ending id ∈ duties) : Accounted duties after where
  born owns := by
    rw [calm.outside] at owns
    rw [calm.legs]
    exact (accounted.born owns).imp_left (calm.known _).mpr
  single one two := by
    rw [calm.outside] at one two
    exact accounted.single one two
  awaited asks := by
    rw [calm.outside] at asks ⊢
    exact accounted.awaited asks
  seen gave state := by
    rw [calm.outside] at gave ⊢
    exact (calm.view _ state).elim (accounted.seen gave) id
  traced {ticket id phone leg} gave := by
    rw [calm.outside] at gave
    have same : before.outside <:+ after.outside := calm.outside ▸ List.suffix_refl _
    refine (accounted.traced gave).later same (fun _ _ _ among => among) fun held => ?_
    rcases (calm.onlyLoses id).leg with none | ⟨kept, -⟩
    · rcases lost id leg held none with ended | among
      · exact .ended (ended.later same)
      · exact .closed ((accounted.closing among).later same)
    · exact .held (kept.trans held)
  closing among := by
    rw [calm.outside]
    exact accounted.closing among
  closed closes := by
    rw [calm.outside] at closes
    exact (accounted.closed closes).imp_right (calm.onlyLoses _).destroyed
  listed {id} alive := by
    have before := accounted.listed (Bool.eq_false_iff.mpr fun gone => by
      rw [(calm.onlyLoses id).destroyed gone] at alive
      cases alive)
    refine (calm.registered id before).resolve_right fun gone => ?_
    rw [gone] at alive
    cases alive

section
variable (accounted : Accounted duties system)
  (early : ∀ {ticket answer}, system.outside.Answered ticket answer →
    ∃ call, system.outside.Asks ticket call) {note : Note}
  (dull : ∀ ticket leg, note.answer? ticket ≠ some (.leg leg))
  (still : ∀ id leg, note ≠ .rang id leg)
include accounted early dull still

theorem grown {others : List Duty} (more : duties ⊆ others)
    (dialed : ∀ {id phone number args}, note = .asked (.dial id phone number args) →
      .agent id (.dialing phone system.outside.length) ∈ duties)
    (closing : ∀ {id}, .ending id ∈ others →
      .ending id ∈ duties ∨ Chronicle.Closes (note :: system.outside) id)
    (closed : ∀ {id ticket leg}, note = .taken ticket → system.outside.Ends ticket leg →
      system.outside.Owns id leg → .ending id ∈ others) :
    Accounted others (system.noting note) := by
  have suffix : system.outside <:+ (system.noting note).outside := List.suffix_cons _ _
  have owns {id : ConnectionId} {leg : LegId} :
      (system.noting note).outside.Owns id leg → system.outside.Owns id leg :=
    Chronicle.Owns.of_cons early dull still
  have gave {ticket : Nat} {id : ConnectionId} {phone : PhoneId} {leg : LegId} :
      (system.noting note).outside.Gave ticket id phone leg →
        system.outside.Gave ticket id phone leg :=
    Chronicle.Gave.of_cons early dull
  have same := system.connection_noting note
  exact {
    born := fun has => (accounted.born (owns has)).imp_left (system.known_noting note).mpr
    single := fun one two => accounted.single (owns one) (owns two)
    awaited := fun asks => by
      rcases Chronicle.asks_cons asks with old | ⟨rfl, new⟩
      · exact (accounted.awaited old).imp (.tail _) fun among => more among
      · exact .inr (more (dialed new))
    seen := fun has state => (accounted.seen (gave has) state).later suffix
    traced := fun {_ id _ _} has => by
      refine (accounted.traced (gave has)).later suffix (fun _ _ _ among => more among)
        fun held => ?_
      exact .held (by rw [same]; exact held)
    closing := fun among =>
      (closing among).elim (fun old => (accounted.closing old).later suffix) id
    closed := fun {id} closes => by
      rw [same]
      rcases Chronicle.closes_cons closes with old | ⟨ticket, leg, taken, ends, has⟩
      · exact (accounted.closed old).imp_left fun among => more among
      · exact .inl (closed taken ends has)
    listed := fun {id} alive => by
      rw [same] at alive
      exact accounted.listed alive }

theorem noting (dialed : ∀ {id phone number args}, note = .asked (.dial id phone number args) →
      .agent id (.dialing phone system.outside.length) ∈ duties)
    (quiet : ∀ {ticket leg}, note = .taken ticket → ¬ system.outside.Ends ticket leg) :
    Accounted duties (system.noting note) :=
  accounted.grown early dull still (List.Subset.refl _) dialed .inl fun taken ends _ =>
    absurd ends (quiet taken)

end

theorem joined (accounted : Accounted duties system) (params : CallParameters) (redial : Bool)
    (plans : List (ConnectionId × DialPlan)) :
    Accounted duties (system.joined (.enlisted params redial) plans) := by
  exact {
    born := fun owns => (accounted.born owns).imp_left system.known_joined
    single := accounted.single
    awaited := accounted.awaited
    seen := accounted.seen
    traced := fun gave => by
      refine (accounted.traced gave).later (List.suffix_refl _) (fun _ _ _ among => among)
        fun held => .held ?_
      rw [system.connection_joined_of_known (accounted.born gave.owns).1]
      exact held
    closing := accounted.closing
    closed := fun closes => by
      obtain ⟨leg, owns⟩ := closes.owns
      rw [system.connection_joined_of_known (accounted.born owns).1]
      exact accounted.closed closes
    listed := fun {id} alive => by
      rw [System.connection_joined] at alive
      split at alive
      · rename_i new
        simp [System.isRegistered, System.joined, new]
      · have before := accounted.listed alive
        simp_all [System.isRegistered, System.joined] }

section
variable (accounted : Accounted duties system) (view : RadioSnapshot)
include accounted

theorem gained {id : ConnectionId} {note : Note} (known : system.Known id)
    (owns : ∀ {other leg}, Chronicle.Owns (note :: system.outside) other leg →
      other = id ∧ leg = ⟨system.legs.length⟩ ∨ system.outside.Owns other leg)
    (gave : ∀ {ticket other phone leg},
      Chronicle.Gave (note :: system.outside) ticket other phone leg →
        system.outside.Gave ticket other phone leg ∨
          .agent other (.dialing phone ticket) ∈ duties ∧ leg = ⟨system.legs.length⟩ ∧
            (view.state = .disconnected → Chronicle.HasEnded (note :: system.outside) leg))
    (plain : (∀ call, note ≠ .asked call) ∧ ∀ ticket, note ≠ .taken ticket) :
    Accounted duties (system.gained view note) := by
  have suffix : system.outside <:+ (system.gained view note).outside := List.suffix_cons _ _
  have same := system.connection_gained view note
  have fresh {other : ConnectionId} : ¬ system.outside.Owns other ⟨system.legs.length⟩ :=
    fun has => Nat.lt_irrefl _ (accounted.born has).2
  have knows {other : ConnectionId} (here : system.Known other) :
      (system.gained view note).Known other := by
    cases other <;> exact here
  exact {
    born := fun {other leg} has => by
      have count : (system.gained view note).legs.length = system.legs.length + 1 := by
        simp [System.gained]
      rcases owns has with ⟨rfl, rfl⟩ | old
      · exact ⟨knows known, by rw [count]; exact Nat.lt_succ_self _⟩
      · obtain ⟨here, inside⟩ := accounted.born old
        exact ⟨knows here, by rw [count]; exact Nat.lt_succ_of_lt inside⟩
    single := fun one two => by
      rcases owns one with ⟨rfl, rfl⟩ | old
      · exact ((owns two).resolve_right fresh).1.symm
      · rcases owns two with ⟨rfl, rfl⟩ | again
        · exact absurd old fresh
        · exact accounted.single old again
    awaited := fun asks => by
      rcases Chronicle.asks_cons asks with old | ⟨-, new⟩
      · exact (accounted.awaited old).imp_left (.tail _)
      · exact absurd new (plain.1 _)
    seen := fun {_ _ _ leg} has state => by
      rw [System.leg_gained] at state
      rcases gave has with old | ⟨-, rfl, ends⟩
      · rw [if_neg] at state
        · exact (accounted.seen old state).later suffix
        · rintro rfl
          exact fresh old.owns
      · rw [if_pos rfl] at state
        exact ends state
    traced := fun has => by
      rcases gave has with old | ⟨among, -⟩
      · refine (accounted.traced old).later suffix (fun _ _ _ among => among) fun held => .held ?_
        rw [same]
        exact held
      · exact .awaited among
    closing := fun among => (accounted.closing among).later suffix
    closed := fun closes => by
      rw [same]
      rcases Chronicle.closes_cons closes with old | ⟨ticket, leg, taken, -⟩
      · exact accounted.closed old
      · exact absurd taken (plain.2 ticket)
    listed := fun alive => by
      rw [same] at alive
      exact accounted.listed alive }

theorem rung {id : ConnectionId} (known : system.Known id) (early : ∀ {ticket answer},
      system.outside.Answered ticket answer → ∃ call, system.outside.Asks ticket call) :
    Accounted duties (system.gained view (.rang id ⟨system.legs.length⟩)) := by
  have gave {ticket : Nat} {other : ConnectionId} {phone : PhoneId} {leg : LegId} :
      Chronicle.Gave (.rang id ⟨system.legs.length⟩ :: system.outside) ticket other phone leg →
        system.outside.Gave ticket other phone leg :=
    Chronicle.Gave.of_cons early fun _ _ answers => by cases answers
  have aside : (∀ call, Note.rang id ⟨system.legs.length⟩ ≠ .asked call) ∧
      ∀ ticket, Note.rang id ⟨system.legs.length⟩ ≠ .taken ticket := by
    constructor <;> exact fun _ same => by cases same
  refine accounted.gained view known (fun has => ?_) (fun has => .inl (gave has)) aside
  rcases has with rang | ⟨ticket, phone, number, args, asks, answered⟩
  · rcases List.mem_cons.mp rang with new | old
    · cases new
      exact .inl ⟨rfl, rfl⟩
    · exact .inr (.inl old)
  · exact .inr (gave ⟨⟨number, args, asks⟩, answered⟩).owns

theorem given {ticket : Nat} (known : ∀ {id stage}, .agent id stage ∈ duties → system.Known id)
    (opened : system.outside.isOpen ticket = true) (dial : system.outside.isDial ticket = true) :
    Accounted duties (system.gained view (.granted ticket ⟨system.legs.length⟩ view)) := by
  let note := Note.granted ticket ⟨system.legs.length⟩ view
  obtain ⟨id, phone, number, args, asks⟩ := Chronicle.asks_of_isDial dial
  have among := (accounted.awaited asks).resolve_left (Chronicle.not_taken_of_isOpen opened)
  have gave {other : Nat} {call : ConnectionId} {slot : PhoneId} {leg : LegId}
      (has : Chronicle.Gave (note :: system.outside) other call slot leg) :
      system.outside.Gave other call slot leg ∨
        other = ticket ∧ call = id ∧ slot = phone ∧ leg = ⟨system.legs.length⟩ := by
    obtain ⟨⟨number, args, asked⟩, answered⟩ := has
    have old := (Chronicle.asks_cons asked).resolve_right (by simp [note])
    rcases Chronicle.answered_cons.mp answered with new | before
    · simp only [note, Note.answer?] at new
      split at new
      · rename_i same
        cases new
        cases (same ▸ asks).unique old
        exact .inr ⟨same.symm, rfl, rfl, rfl⟩
      · cases new
    · exact .inl ⟨⟨number, args, old⟩, before⟩
  have aside : (∀ call, Note.granted ticket ⟨system.legs.length⟩ view ≠ .asked call) ∧
      ∀ other, Note.granted ticket ⟨system.legs.length⟩ view ≠ .taken other := by
    constructor <;> exact fun _ same => by cases same
  refine accounted.gained view (known among) (fun has => ?_) (fun has => ?_) aside
  · rcases has with rang | ⟨other, slot, number, args, asked, answered⟩
    · exact .inr (.inl (List.mem_of_ne_of_mem (by simp) rang))
    · rcases gave ⟨⟨number, args, asked⟩, answered⟩ with old | ⟨-, rfl, -, rfl⟩
      · exact .inr old.owns
      · exact .inl ⟨rfl, rfl⟩
  · refine (gave has).imp_right ?_
    rintro ⟨rfl, rfl, rfl, rfl⟩
    exact ⟨among, rfl, fun state => .inl ⟨_, view, List.mem_cons_self, state⟩⟩

end

theorem held_of_bound {id : ConnectionId} (rest : system.AtRest)
    (alive : (system.connection id).destroyed = false) (leg : LegId) :
    ((system.bound id leg).connection id).leg = some leg ∨
      (system.leg leg).view.state = .disconnected := by
  let call := Connection.bound leg (system.leg leg).view (system.connection id)
  have shown : call.visibleState = (system.leg leg).view.state := by
    have lasting : call.ended = none := rest.not_ended alive
    rw [Connection.visibleState, lasting]
    rfl
  rw [system.connection_bound, if_pos ⟨rfl, system.known_of_alive alive⟩]
  cases ending : call.isEnding with
  | false =>
    rw [Connection.settled_of_lasting (show call.destroyed = false from alive) ending]
    exact .inl rfl
  | true =>
    simp only [Connection.isEnding, Bool.and_eq_true, beq_iff_eq] at ending
    exact .inr (shown.symm.trans ending.2)

/-- The agent of a connection binds the leg that it has received. -/
theorem bound {terms : Terms} {id : ConnectionId} {phone : PhoneId} {leg : LegId}
    (accounted : Accounted (.agent id (.received phone leg) :: duties) system)
    (orderly : Orderly terms (.agent id (.received phone leg) :: duties) system)
    (alive : (system.connection id).destroyed = false) :
    Accounted duties (system.bound id leg) := by
  have books := system.sameBooks_bound id leg
  have outside : (system.bound id leg).outside = system.outside :=
    books.read (·.outside) fun _ _ _ => rfl
  have other {call : ConnectionId} (differ : call ≠ id) :
      (system.bound id leg).connection call = system.connection call := by
    rw [system.connection_bound, if_neg fun here => differ here.1]
  exact {
    born := fun owns => by
      rw [outside] at owns
      obtain ⟨known, inside⟩ := accounted.born owns
      have count := system.count_bound id leg
      rw [system.legs_bound]
      refine ⟨?_, inside⟩
      simp_all [System.Known]
    single := fun one two => by
      rw [outside] at one two
      exact accounted.single one two
    awaited := fun asks => by
      rw [outside] at asks ⊢
      exact (accounted.awaited asks).imp_right (List.mem_of_ne_of_mem (by simp))
    seen := fun gave state => by
      rw [outside] at gave ⊢
      rw [system.view_bound] at state
      exact accounted.seen gave state
    traced := fun {_ call _ _} gave => by
      rw [outside] at gave
      cases accounted.traced gave with
      | awaited among => exact .awaited (List.mem_of_ne_of_mem (by simp) among)
      | received among =>
        rcases List.mem_cons.mp among with same | old
        · cases same
          rcases held_of_bound orderly.rest alive leg with held | past
          · exact .held held
          · exact .ended (outside ▸ accounted.seen gave past)
        · exact .received old
      | held held =>
        by_cases same : call = id
        · rw [same, orderly.free List.mem_cons_self] at held
          cases held
        · exact .held (by rw [other same]; exact held)
      | sent sent => exact .sent (outside ▸ sent)
      | ended ended => exact .ended (outside ▸ ended)
      | closed closed => exact .closed (outside ▸ closed)
    closing := fun among => by
      rw [outside]
      exact accounted.closing (.tail _ among)
    closed := fun {call} closes => by
      rw [outside] at closes
      refine (accounted.closed closes).imp (List.mem_of_ne_of_mem (by simp)) fun gone => ?_
      rw [other]
      · exact gone
      · rintro rfl
        rw [alive] at gone
        cases gone
    listed := fun {call} up => by
      rw [books.read (·.isRegistered call) fun _ _ _ => rfl]
      by_cases same : call = id
      · exact accounted.listed (same ▸ alive)
      · rw [other same] at up
        exact accounted.listed up }

section
variable {terms : Terms} {id : ConnectionId} {phone : PhoneId}

theorem dialed {stage : Stage} (accounted : Accounted (.agent id stage :: duties) system)
    (early : ∀ {ticket answer}, system.outside.Answered ticket answer →
      ∃ call, system.outside.Asks ticket call)
    (free : stage.holdsLeg = false) (number : String) (args : DialArgs) :
    Accounted (.agent id (.dialing phone system.outside.length) :: duties)
      (system.noting (.asked (.dial id phone number args))) := by
  refine (accounted.restage free [.dialing phone system.outside.length]).noting
    early nofun nofun (fun same => ?_) nofun
  cases same
  exact List.mem_cons_self

theorem answered {ticket : Nat}
    (accounted : Accounted (.agent id (.dialing phone ticket) :: duties) system)
    (orderly : Orderly terms (.agent id (.dialing phone ticket) :: duties) system) (next : Stage)
    (takes : ∀ leg, system.outside.Answered ticket (.leg leg) → next = .received phone leg) :
    Accounted (.agent id next :: duties) (system.noting (.taken ticket)) := by
  obtain ⟨number, args, asked⟩ := orderly.asked List.mem_cons_self
  have noted : Accounted (.agent id (.dialing phone ticket) :: duties)
      (system.noting (.taken ticket)) := by
    refine accounted.noting orderly.early nofun nofun nofun fun same => ?_
    cases same
    exact Chronicle.not_ends_of_dial asked
  refine noted.relieved [next] (fun same => ?_) fun {other slot leg} gave same => ?_
  · cases same
    exact List.mem_cons_self
  · obtain ⟨⟩ := same.resolve_right nofun
    refine .received ?_
    rw [takes leg ((Chronicle.answered_cons.mp gave.2).resolve_left nofun)]
    exact List.mem_cons_self

theorem dismissed {leg : LegId}
    (accounted : Accounted (.agent id (.received phone leg) :: duties) system)
    (early : ∀ {ticket answer}, system.outside.Answered ticket answer →
      ∃ call, system.outside.Asks ticket call) :
    Accounted duties (system.noting (.asked (.command leg .hangup))) := by
  have noted : Accounted (.agent id (.received phone leg) :: duties)
      (system.noting (.asked (.command leg .hangup))) :=
    accounted.noting early nofun nofun nofun nofun
  refine noted.relieved [] nofun fun gave same => ?_
  obtain ⟨⟩ := same.resolve_left nofun
  exact .sent (.inl List.mem_cons_self)

end

theorem overtaken {id : ConnectionId} {ticket : Nat} {leg : LegId}
    (accounted : Accounted duties system) (early : ∀ {ticket answer},
      system.outside.Answered ticket answer → ∃ call, system.outside.Asks ticket call)
    (ends : system.outside.Ends ticket leg) (owns : system.outside.Owns id leg) :
    Accounted (.ending id :: duties) (system.noting (.taken ticket)) := by
  have more : duties ⊆ .ending id :: duties := List.subset_cons_self _ _
  refine @grown _ _ accounted early (.taken ticket) nofun nofun _ more nofun (fun among => ?_)
    fun same again has => ?_
  · rcases List.mem_cons.mp among with new | old
    · cases new
      exact .inr ⟨ticket, leg, system.outside, List.suffix_refl _, ends, owns⟩
    · exact .inl old
  · cases same
    cases ends.unique again
    rw [accounted.single has owns]
    exact List.mem_cons_self

end Accounted

theorem Effect.accounted {terms : Terms} {actor : Actor} {duties others : List Duty}
    {before after : System Chronicle} (effect : Effect terms actor duties before others after)
    (orderly : Orderly terms duties before) (accounted : Accounted duties before) :
    Accounted others after := by
  have early {ticket : Nat} {answer : Answer} (answered : before.outside.Answered ticket answer) :=
    orderly.early answered
  cases effect with
  | shuffle same =>
    exact accounted.handed (fun _ _ _ among => same.mem_iff.mp among) fun _ => same.mem_iff.symm
  | calm calm rest lost => exact accounted.calm calm lost
  | @note _ _ _ note plain =>
    refine accounted.noting early (fun ticket leg answers => ?_) (fun id leg => ?_)
      (fun {id phone number args} => ?_) fun {ticket leg} => ?_
    · cases note <;> simp_all [Note.answer?, Note.IsPlain]
    · rintro rfl
      exact plain
    · rintro rfl
      cases plain
    · rintro rfl
      exact plain.2 leg
  | move clock device ident numbers =>
    exact accounted.aside rfl rfl (fun _ => id) (fun _ => rfl) (fun _ => rfl) fun _ => rfl
  | signal signals =>
    exact accounted.aside rfl rfl (fun _ => id) (fun _ => rfl) (fun _ => rfl) fun _ => rfl
  | grant view rest opened dial => exact accounted.given view orderly.known opened dial
  | ring params view =>
    have rung := (accounted.joined params false []).rung view (before.joined_known _ _) early
    exact rung.handed (fun _ _ _ among => .tail _ among) fun _ => by simp
  | @giveUp _ _ _ id _ stage calm rest lost had bare work =>
    exact (accounted.calm calm lost).handed (fun _ _ _ among => .tail _ among) fun _ => by simp
  | enroll params redial phone fits =>
    exact (accounted.joined params redial _).handed (fun _ _ _ among => .tail _ among)
      fun _ => by simp
  | select enabled => exact accounted.revised _ (fun _ => rfl) fun _ => rfl
  | @dial _ duties _ id phone stage plan domain alive held dials =>
    have free : stage.holdsLeg = false := by
      cases stage <;> first | rfl | exact dials.elim
    exact accounted.dialed early free _ _
  | receive granted =>
    refine accounted.answered orderly _ fun leg again => ?_
    cases orderly.answers granted again
    rfl
  | fail refused =>
    refine accounted.answered orderly _ fun leg given => ?_
    cases orderly.answers refused given
  | consume replied =>
    refine accounted.answered orderly _ fun leg given => ?_
    cases orderly.answers replied given
  | bind alive => exact accounted.bound orderly alive
  | hangup => exact accounted.dismissed early
  | retry => exact accounted.restage rfl [_]
  | redirect enabled => exact accounted.restage rfl [_]
  | pick alive next =>
    exact (accounted.redrawn next).restage rfl [_]
  | exhaust next =>
    exact (accounted.redrawn next).restage rfl [_]
  | skip => exact accounted.restage rfl [_]
  | reassign subscription technology carrier =>
    exact accounted.revised _ (fun _ => rfl) fun _ => rfl
  | drop free done => exact accounted.restage free []
  | overtake ends owns => exact accounted.overtaken early ends owns
  | @finish _ _ _ id done =>
    exact { accounted with
      awaited := fun asks => (accounted.awaited asks).imp_right fun among => by simpa using among
      traced := fun gave => (accounted.traced gave).later (List.suffix_refl _)
        (fun _ _ _ among => by simpa using among) .held
      closing := fun among => accounted.closing (.tail _ among)
      closed := fun closes => by
        rcases accounted.closed closes with among | gone
        · rcases List.mem_cons.mp among with same | old
          · cases same
            exact .inr done
          · exact .inl old
        · exact .inr gone }

/-- The leg is that of a live connection in the books. -/
def System.Holds (system : System Chronicle) (leg : LegId) : Prop :=
  ∃ id, (system.connection id).leg = some leg ∧
    (system.connection id).published.state.isLive = true ∧ system.isRegistered id = true

theorem Accounted.opening (settings : Settings) (device : Device) :
    Accounted [] (Office.opening settings device).system where
  born owns := by rcases owns with among | ⟨_, _, _, _, asks, -⟩ <;> cases ‹_›
  single owns := by rcases owns with among | ⟨_, _, _, _, asks, -⟩ <;> cases ‹_›
  awaited asks := by cases asks
  seen gave := by obtain ⟨⟨_, _, asks⟩, -⟩ := gave; cases asks
  traced gave := by obtain ⟨⟨_, _, asks⟩, -⟩ := gave; cases asks
  closing := nofun
  closed closes := absurd closes.choose_spec.choose_spec.choose_spec.1 (by simp [Office.opening])
  listed {id} alive := by cases id <;> cases alive

namespace Office

variable {settings : Settings} {device : Device} {rounds : Nat} {occasions : List Occasion}
  {office : Office}

/-- When nothing is in progress, every leg that a dial was answered with is that of a live
connection, or it was told to end or has ended by itself. It is not exactly if it did neither, and
the call it belonged to has been closed all the same. -/
theorem accounted_iff (reached : (opening settings device).run rounds occasions = some office)
    (idle : office.isIdle = true) {ticket : Nat} {id : ConnectionId} {phone : PhoneId} {leg : LegId}
    (gave : office.system.outside.Gave ticket id phone leg) :
    (office.system.Holds leg ∨ office.system.outside.IsSent leg ∨
        office.system.outside.HasEnded leg) ↔
      (office.system.outside.Closes id →
        office.system.outside.IsSent leg ∨ office.system.outside.HasEnded leg) := by
  obtain ⟨posts, allAtPosts, accounted⟩ :=
    (AllAtPosts.opening settings device false).run nofun reached
    (fun effect orderly accounted => effect.accounted orderly accounted) (.opening settings device)
  have orderly := allAtPosts.orderly
  obtain rfl : posts = [] := by
    have none := allAtPosts.tasks
    rw [List.isEmpty_iff.mp idle] at none
    exact List.map_eq_nil_iff.mp none
  constructor
  · rintro (⟨other, held, live, -⟩ | done) closes
    · obtain rfl := accounted.single (orderly.owned held) gave.owns
      rw [orderly.isLive_iff, (accounted.closed closes).resolve_left nofun] at live
      cases live
    · exact done
  · intro done
    cases accounted.traced gave with
    | awaited among => cases among
    | received among => cases among
    | held held =>
      have alive : (office.system.connection id).destroyed = false := by
        refine Bool.eq_false_iff.mpr fun gone => ?_
        rw [orderly.bare id gone] at held
        cases held
      exact .inl ⟨id, held, (orderly.isLive_iff id).mpr alive, accounted.listed alive⟩
    | sent sent => exact .inr (.inl sent)
    | ended ended => exact .inr (.inr ended)
    | closed closes => exact .inr (done closes)

/-- Two phones alike. -/
def alikePhones : Device where
  phones := [
    { id := ⟨0⟩, subscription := none, technology := .gsm },
    { id := ⟨1⟩, subscription := none, technology := .gsm }]
  emergencyNumbers := { numbers := ["911"] }

def asEmergency : DialArgs where
  emergency := true
  routing := some .emergency

/-- An emergency call is dialed, gets a leg, and loses it; it is dialed on the other phone, and gets
another. -/
def redialed : List Occasion := [
  .start (.place { address := "911" }),
  .resume 0,
  .grant 0 { state := .dialing, technology := .gsm },
  .resume 0,
  .report ⟨0⟩ (.disconnected .emergencyTemporary 0 ""),
  .resume 0,
  .grant 4 { state := .dialing, technology := .gsm },
  .resume 0]

/-- The same, but before the call loses its first leg somebody asks for that to be hung up, and has
the answer when the other leg is there. -/
def hungUp : List Occasion := [
  .start (.place { address := "911" }),
  .resume 0,
  .grant 0 { state := .dialing, technology := .gsm },
  .resume 0,
  .start (.hangup (.issued 0)),
  .resume 0,
  .report ⟨0⟩ (.disconnected .emergencyTemporary 0 ""),
  .resume 1,
  .grant 5 { state := .dialing, technology := .gsm },
  .resume 1,
  .reply 3 .done,
  .resume 0]

theorem redialed_accounted : ∃ office,
    (opening {} alikePhones).run 20 redialed = some office ∧ office.isIdle = true ∧
      office.system.outside.Gave 4 (.issued 0) ⟨1⟩ ⟨1⟩ ∧
      (office.system.Holds ⟨1⟩ ∨ office.system.outside.IsSent ⟨1⟩ ∨
        office.system.outside.HasEnded ⟨1⟩) := by
  have runs : ((opening {} alikePhones).run 20 redialed).any (fun office =>
      decide (office.isIdle = true ∧
        office.system.outside.Asks 4 (.dial (.issued 0) ⟨1⟩ "911" asEmergency) ∧
        office.system.outside.any (·.answer? 4 == some (.leg ⟨1⟩)) = true ∧
        office.system.outside.all (fun
          | .taken ticket => office.system.outside.isDial ticket
          | _ => true) = true)) = true := by decide +kernel
  obtain ⟨office, reached, shown⟩ := (Option.any_eq_true _ _).mp runs
  obtain ⟨idle, asks, answered, taken⟩ := of_decide_eq_true shown
  obtain ⟨note, among, answers⟩ := List.any_eq_true.mp answered
  have gave : office.system.outside.Gave 4 (.issued 0) ⟨1⟩ ⟨1⟩ :=
    ⟨⟨"911", asEmergency, asks⟩, note, among, beq_iff_eq.mp answers⟩
  have dials (ticket : Nat) (among : .taken ticket ∈ office.system.outside) :
      office.system.outside.isDial ticket = true :=
    List.all_eq_true.mp taken (.taken ticket) among
  exact ⟨office, reached, idle, gave, (accounted_iff reached idle gave).mpr fun closes =>
    absurd closes (Chronicle.not_closes dials)⟩

/-- The other leg is forgotten: the call is ended, and nobody has told the leg. -/
theorem hungUp_forgotten : ∃ office,
    (opening {} alikePhones).run 20 hungUp = some office ∧ office.isIdle = true ∧
      office.system.outside.Gave 5 (.issued 0) ⟨1⟩ ⟨1⟩ ∧
      ¬ (office.system.Holds ⟨1⟩ ∨ office.system.outside.IsSent ⟨1⟩ ∨
        office.system.outside.HasEnded ⟨1⟩) := by
  have runs : ((opening {} alikePhones).run 20 hungUp).any (fun office =>
      decide (office.isIdle = true ∧
        office.system.outside.Asks 5 (.dial (.issued 0) ⟨1⟩ "911" asEmergency) ∧
        office.system.outside.any (·.answer? 5 == some (.leg ⟨1⟩)) = true ∧
        (∀ call ∈ office.system.connections, call.leg = none) ∧
        .asked (.command ⟨1⟩ .hangup) ∉ office.system.outside ∧
        .asked (.command ⟨1⟩ .reject) ∉ office.system.outside ∧
        office.system.outside.all (fun
          | .granted _ _ view => view.state == .dialing
          | .reported leg _ => leg == ⟨0⟩
          | _ => true) = true)) = true := by decide +kernel
  obtain ⟨office, reached, shown⟩ := (Option.any_eq_true _ _).mp runs
  obtain ⟨idle, asks, answered, bare, unasked, unrejected, plain⟩ := of_decide_eq_true shown
  obtain ⟨note, among, answers⟩ := List.any_eq_true.mp answered
  have gave : office.system.outside.Gave 5 (.issued 0) ⟨1⟩ ⟨1⟩ :=
    ⟨⟨"911", asEmergency, asks⟩, note, among, beq_iff_eq.mp answers⟩
  refine ⟨office, reached, idle, gave, ?_⟩
  rintro (⟨id, held, -⟩ | (asked | asked) | ⟨ticket, view, granted, state⟩ | ⟨event, reported, -⟩)
  · have known := office.system.known_of_leg held
    cases id with
    | issued serial =>
      rw [System.connection, List.getD_eq_getElem?_getD, List.getElem?_eq_getElem known] at held
      cases (bare _ (List.getElem_mem known)).symm.trans held
    | outsider value => exact known
  · exact unasked asked
  · exact unrejected asked
  · have dialing : (view.state == .dialing) = true := List.all_eq_true.mp plain _ granted
    rw [state] at dialing
    cases dialing
  · cases List.all_eq_true.mp plain _ reported

end Office
end Switchboard
