import Mathlib.Algebra.Order.Group.Multiset
import Switchboard.Proofs.Interleaving
import Switchboard.Proofs.Selections

/-! Licences. A task that has domains selected for a call, or dials it again, holds licences for
that, and so does the work that has come up. A system honours the licences that are held if each of
them is backed by what it says, a call that has not been dialed yet is in the hands of one task, and
what has been asked of the selector, with all that may still be asked on licence, stays within
bounds: a sequence for every call, and one more for every time that the network wanted the call in
another domain (`System.Honours`). -/

namespace Switchboard

inductive Licence
  /-- To have a first domain selected for a call that has not been dialed. -/
  | opening (id : ConnectionId)
  /-- To ask once for another domain. -/
  | reselection (id : ConnectionId)
  | again (id : ConnectionId)
  | selected (id : ConnectionId)
  deriving DecidableEq

def FollowUp.grants : FollowUp → Multiset Licence
  | redial id _ _ => {.again id}
  | reselect id _ _ => .replicate maxReselections (.reselection id) + {.selected id}
  | errand _ => 0

theorem FollowUp.count_opening_grants (work : FollowUp) (id : ConnectionId) :
    work.grants.count (.opening id) = 0 := by
  cases work <;> simp [grants, Multiset.count_replicate]

theorem FollowUp.count_reselection_grants (work : FollowUp) (id : ConnectionId) :
    work.grants.count (.reselection id) = if work.reselects id then maxReselections else 0 := by
  cases work <;> simp [grants, reselects, Multiset.count_replicate]

theorem FollowUp.count_opening_sum (works : List FollowUp) (id : ConnectionId) :
    (works.map grants).sum.count (.opening id) = 0 := by
  induction works with
  | nil => rfl
  | cons work rest ih =>
    rw [List.map_cons, List.sum_cons, Multiset.count_add, ih, work.count_opening_grants]

theorem FollowUp.count_reselection_sum (works : List FollowUp) (id : ConnectionId) :
    (works.map grants).sum.count (.reselection id) =
      maxReselections * works.countP (FollowUp.reselects id) := by
  induction works with
  | nil => rfl
  | cons work rest ih =>
    rw [List.map_cons, List.sum_cons, Multiset.count_add, ih, work.count_reselection_grants,
      List.countP_cons, Nat.mul_add, Nat.add_comm]
    split <;> rfl

theorem FollowUp.exists_of_mem_sum {works : List FollowUp} {licence : Licence}
    (among : licence ∈ (works.map grants).sum) : ∃ work ∈ works, licence ∈ work.grants := by
  induction works with
  | nil => exact absurd among (Multiset.notMem_zero _)
  | cons work rest ih =>
    rw [List.map_cons, List.sum_cons] at among
    rcases Multiset.mem_add.mp among with here | later
    · exact ⟨work, List.mem_cons_self, here⟩
    · obtain ⟨other, listed, found⟩ := ih later
      exact ⟨other, .tail _ listed, found⟩

variable {licences others spent : Multiset Licence} {system before after : System Chronicle}
  {id : ConnectionId}

namespace System

def Backs (system : System Chronicle) : Licence → Prop
  | .opening id => system.Known id ∧ ¬ system.outside.Engages id
  | .reselection _ => True
  | .again id => system.outside.Engages id
  | .selected id => system.outside.Engages id ∧ (system.connection id).selectionActive = true

theorem Backs.later {licence : Licence} (backs : before.Backs licence)
    (known : ∀ id, before.Known id → after.Known id)
    (engages : ∀ id, before.outside.Engages id → after.outside.Engages id)
    (fresh : ∀ id, licence = .opening id → after.outside.Engages id → before.outside.Engages id)
    (selection : ∀ id, licence = .selected id → (before.connection id).selectionActive = true →
      (after.connection id).selectionActive = true) : after.Backs licence := by
  cases licence with
  | opening id => exact ⟨known id backs.1, fun engaged => backs.2 (fresh id rfl engaged)⟩
  | reselection id => trivial
  | again id => exact engages id backs
  | selected id => exact ⟨engages id backs.1, selection id rfl backs.2⟩

theorem Backs.joined {licence : Licence} (backs : system.Backs licence) (params : CallParameters)
    (redial : Bool) (plans : List (ConnectionId × DialPlan)) :
    (system.joined (.enlisted params redial) plans).Backs licence := by
  refine backs.later (fun _ => system.known_joined) (fun _ engages => engages)
    (fun _ _ engages => engages) fun id _ active => ?_
  rw [system.connection_joined, if_neg]
  · exact active
  · rintro rfl
    rw [system.connection_of_not_known system.not_known_next] at active
    cases active

/-- What has been asked of the selector, and all licences, are in order. -/
structure Honours (licences : Multiset Licence) (system : System Chronicle) : Prop where
  selectorConsistent : system.SelectorConsistent
  backed : ∀ licence ∈ licences, system.Backs licence
  warranted : ∀ work ∈ system.works, ∀ licence ∈ work.grants, system.Backs licence
  single (id : ConnectionId) : licences.count (.opening id) ≤ 1
  allowance (id : ConnectionId) :
    system.outside.reselections id + licences.count (.reselection id) +
      maxReselections * (licences.count (.opening id) + system.pending id) ≤
    maxReselections * ((if system.Known id then 1 else 0) + system.setbacks id)
  engaged {id : ConnectionId} : system.outside.Engages id → system.Known id
  bound {id : ConnectionId} : (system.connection id).leg.isSome = true → system.outside.Engages id

namespace Honours

theorem opening (settings : Settings) (device : Device) :
    (Office.opening settings device).system.Honours 0 := by
  have unasked (id : ConnectionId) :
      (Office.opening settings device).system.outside.reselections id = 0 := rfl
  have idle (id : ConnectionId) : (Office.opening settings device).system.pending id = 0 := rfl
  exact {
    selectorConsistent := .opening settings device
    backed := fun _ among => absurd among (Multiset.notMem_zero _)
    warranted := fun _ among => absurd among List.not_mem_nil
    single := fun id => by simp
    allowance := fun id => by simp [unasked, idle]
    engaged := fun ⟨_, among, _⟩ => absurd among List.not_mem_nil
    bound := fun {id} held => by cases id <;> cases held }

theorem trade (honours : system.Honours licences)
    (backed : ∀ licence ∈ others, licence ∈ licences ∨ system.Backs licence)
    (openings : ∀ id, others.count (.opening id) ≤ licences.count (.opening id))
    (allowance : ∀ id,
      others.count (.reselection id) + maxReselections * others.count (.opening id) ≤
        licences.count (.reselection id) + maxReselections * licences.count (.opening id)) :
    system.Honours others :=
  { honours with
    backed := fun licence among =>
      (backed licence among).elim (honours.backed licence) fun backs => backs
    single := fun id => (openings id).trans (honours.single id)
    allowance := fun id => by
      have before := honours.allowance id
      have now := allowance id
      rw [Nat.mul_add] at before ⊢
      omega }

theorem mono (honours : system.Honours licences) (fewer : others ≤ licences) :
    system.Honours others :=
  honours.trade (fun _ among => .inl (Multiset.mem_of_le fewer among))
    (fun _ => Multiset.count_le_of_le _ fewer) fun _ =>
      Nat.add_le_add (Multiset.count_le_of_le _ fewer)
        (Nat.mul_le_mul_left _ (Multiset.count_le_of_le _ fewer))

theorem selected (honours : system.Honours (spent + {.again id} + licences))
    (active : (system.connection id).selectionActive = true) :
    system.Honours (spent + {.selected id} + licences) := by
  have engaged : system.outside.Engages id := honours.backed (.again id) (by simp)
  rw [add_assoc, add_left_comm] at honours ⊢
  refine honours.trade (fun licence among => ?_) (fun other => ?_) fun other => ?_
  · rcases Multiset.mem_add.mp among with new | old
    · rw [Multiset.mem_singleton.mp new]
      exact .inr ⟨engaged, active⟩
    · exact .inl (Multiset.mem_add.mpr (.inr old))
  · simp [Multiset.count_add]
  · simp [Multiset.count_add]

theorem absorb (honours : system.Honours licences) :
    System.Honours ((system.works.map FollowUp.grants).sum + licences)
      { system with signals := [] } := by
  have same (id : ConnectionId) :
      System.connection { system with signals := [] } id = system.connection id := by
    cases id <;> rfl
  have known (id : ConnectionId) :
      System.Known { system with signals := [] } id ↔ system.Known id := by
    cases id <;> rfl
  have backs {licence : Licence} (backs : system.Backs licence) :
      System.Backs { system with signals := [] } licence :=
    backs.later (fun id => (known id).mpr) (fun _ engages => engages) (fun _ _ engages => engages)
      fun id _ active => by rw [same, active]
  exact {
    selectorConsistent := {
      selects := fun {id} active => honours.selectorConsistent.selects (by rwa [same] at active)
      owner := honours.selectorConsistent.owner
      lasts := fun {id} last alive active => by
        rw [same] at alive active
        exact honours.selectorConsistent.lasts last alive active }
    backed := fun licence among => by
      rcases Multiset.mem_add.mp among with new | old
      · obtain ⟨work, listed, found⟩ := FollowUp.exists_of_mem_sum new
        exact backs (honours.warranted work listed licence found)
      · exact backs (honours.backed licence old)
    warranted := nofun
    single := fun id => by
      rw [Multiset.count_add, FollowUp.count_opening_sum, Nat.zero_add]
      exact honours.single id
    allowance := fun id => by
      have allowance := honours.allowance id
      have none : System.pending { system with signals := [] } id = 0 := rfl
      have heard : System.setbacks { system with signals := [] } id = system.setbacks id := rfl
      rw [Multiset.count_add, Multiset.count_add, FollowUp.count_opening_sum,
        FollowUp.count_reselection_sum, none, heard, Nat.zero_add, Nat.add_zero]
      simp only [known]
      rw [pending, Nat.mul_add] at allowance
      omega
    engaged := fun {id} engages => (known id).mpr (honours.engaged engages)
    bound := fun {id} held => honours.bound (by rwa [same] at held) }

theorem backs_of_warrants (honours : system.Honours licences) {work : FollowUp}
    (why : system.Warrants work) : ∀ licence ∈ work.grants, system.Backs licence := by
  intro licence granted
  cases work with
  | redial id failed permanent =>
    rw [Multiset.mem_singleton.mp granted]
    exact honours.bound why
  | reselect id cause code =>
    rcases Multiset.mem_add.mp granted with some | one
    · rw [Multiset.eq_of_mem_replicate some]
      trivial
    · rw [Multiset.mem_singleton.mp one]
      exact ⟨honours.bound why.1, why.2⟩
  | errand number => exact absurd granted (Multiset.notMem_zero _)

theorem onward (honours : before.Honours licences) (selectorConsistent : after.SelectorConsistent)
    (known : ∀ id, after.Known id ↔ before.Known id)
    (engages : ∀ id, after.outside.Engages id ↔ before.outside.Engages id)
    (asked : ∀ id, after.outside.reselections id = before.outside.reselections id)
    (leg : ∀ id, (after.connection id).leg.isSome = true → before.outside.Engages id)
    (selection : ∀ id, before.outside.Engages id →
      (before.connection id).selectionActive = true → (after.connection id).selectionActive = true)
    (warrants : ∀ work ∈ after.works, work ∈ before.works ∨ before.Warrants work)
    (balance : ∀ id,
      after.pending id + before.setbacks id ≤ before.pending id + after.setbacks id) :
    after.Honours licences := by
  have backs {licence : Licence} (backs : before.Backs licence) : after.Backs licence := by
    cases licence with
    | opening id => exact ⟨(known id).mpr backs.1, fun engaged => backs.2 ((engages id).mp engaged)⟩
    | reselection id => trivial
    | again id => exact (engages id).mpr backs
    | selected id => exact ⟨(engages id).mpr backs.1, selection id backs.1 backs.2⟩
  exact {
    selectorConsistent
    backed := fun licence among => backs (honours.backed licence among)
    warranted := fun work among licence granted => by
      rcases warrants work among with old | why
      · exact backs (honours.warranted work old licence granted)
      · exact backs (honours.backs_of_warrants why licence granted)
    single := honours.single
    allowance := fun id => by
      have allowance := honours.allowance id
      have balance := Nat.mul_le_mul_left maxReselections (balance id)
      simp only [known, asked, Nat.mul_add] at allowance balance ⊢
      omega
    engaged := fun {id} engaged => (known id).mpr (honours.engaged ((engages id).mp engaged))
    bound := fun {id} held => (engages id).mpr (leg id held) }

theorem continues (honours : before.Honours licences) (onward : before.Continues after) :
    after.Honours licences :=
  honours.onward (honours.selectorConsistent.continues onward) (known_congr onward.count)
    (fun _ => by rw [onward.outside]) (fun _ => by rw [onward.outside])
    (fun id held => honours.bound ((onward.calls id).leg held))
    (fun id _ active => (onward.calls id).selection.trans active) onward.warrants onward.balance

theorem noting (honours : system.Honours (spent + licences)) {note : Note}
    (unselected : note.selected? = none)
    (fresh : ∀ id, note.engages id = true → system.Known id ∧ .opening id ∉ licences)
    (paid : ∀ id, note.reselects id = true → .reselection id ∈ spent) :
    (system.noting note).Honours licences := by
  have known (id : ConnectionId) : (system.noting note).Known id ↔ system.Known id :=
    system.known_noting note
  have same := system.connection_noting note
  have backs {licence : Licence} (backs : system.Backs licence)
      (fresh : ∀ id, licence = .opening id → ¬ note.engages id = true) :
      (system.noting note).Backs licence := by
    refine backs.later (fun id => (known id).mpr) (fun id engages => engages.cons note)
      (fun id opening engages => ?_) fun id _ active => by rw [same, active]
    exact (Chronicle.engages_cons.mp engages).resolve_left (fresh id opening)
  exact {
    selectorConsistent := honours.selectorConsistent.noting unselected
    backed := fun licence among => by
      have backed := honours.backed licence (Multiset.mem_add.mpr (.inr among))
      refine backs backed fun id opening engages => ?_
      exact (fresh id engages).2 (opening ▸ among)
    warranted := fun work listed licence granted => by
      refine backs (honours.warranted work listed licence granted) fun id opening _ => ?_
      have none := work.count_opening_grants id
      exact Multiset.count_eq_zero.mp none (opening ▸ granted)
    single := fun id =>
      (Multiset.count_le_of_le _ (Multiset.le_add_left _ _)).trans (honours.single id)
    allowance := fun id => by
      have allowance := honours.allowance id
      have asked : (system.noting note).outside.reselections id =
          system.outside.reselections id + if note.reselects id then 1 else 0 :=
        Chronicle.reselections_cons
      have price : (if note.reselects id = true then 1 else 0) ≤ spent.count (.reselection id) := by
        split
        · rename_i reselects
          exact Multiset.one_le_count_iff_mem.mpr (paid id reselects)
        · exact Nat.zero_le _
      have idle : (system.noting note).pending id = system.pending id := rfl
      have heard : (system.noting note).setbacks id = system.setbacks id := rfl
      rw [asked, idle, heard]
      simp only [known, Multiset.count_add, Nat.mul_add] at allowance ⊢
      omega
    engaged := fun {id} engages => by
      rcases Chronicle.engages_cons.mp engages with new | old
      · exact (known id).mpr (fresh id new).1
      · exact (known id).mpr (honours.engaged old)
    bound := fun {id} held => (honours.bound (by rwa [same] at held)).cons note }

theorem revise (honours : system.Honours licences) (id : ConnectionId)
    {change : Connection → Connection}
    (gone : (system.connection id).destroyed = true →
      (change (system.connection id)).destroyed = true)
    (leg : (change (system.connection id)).leg.isSome = true → system.outside.Engages id)
    (selection : (change (system.connection id)).selectionActive =
        (system.connection id).selectionActive ∨
      (change (system.connection id)).selectionActive = false ∧ ¬ system.outside.Engages id) :
    (system.reviseConnection id change).Honours licences := by
  have same := system.sameBooks_reviseConnection id change
  have notes : (system.reviseConnection id change).outside = system.outside :=
    same.read (·.outside) fun _ _ _ => rfl
  have works : (system.reviseConnection id change).works = system.works :=
    same.read (·.works) fun _ _ _ => rfl
  have idle (other : ConnectionId) :
      (system.reviseConnection id change).pending other = system.pending other :=
    same.read (·.pending other) fun _ _ _ => rfl
  have heard (other : ConnectionId) :
      (system.reviseConnection id change).setbacks other = system.setbacks other :=
    same.read (·.setbacks other) fun _ _ _ => rfl
  have less (active : (change (system.connection id)).selectionActive = true) :
      (system.connection id).selectionActive = true := by
    rcases selection with stays | ⟨off, -⟩
    · rw [← stays, active]
    · rw [off] at active
      cases active
  refine honours.onward (honours.selectorConsistent.revise id gone less) (known_congr (by simp))
    (fun _ => by rw [notes]) (fun _ => by rw [notes]) (fun other held => ?_)
    (fun other engaged active => ?_) (fun _ among => .inl (works ▸ among)) fun other => ?_
  · rw [connection_reviseConnection] at held
    split at held
    · rename_i here
      rw [here.1]
      exact leg held
    · exact honours.bound held
  · rw [connection_reviseConnection]
    split
    · rename_i here
      obtain ⟨rfl, -⟩ := here
      rcases selection with stays | ⟨-, fresh⟩
      · rw [stays, active]
      · exact absurd engaged fresh
    · exact active
  · rw [idle, heard]

/-- A call that has been dialed gets a leg. -/
theorem bind (honours : system.Honours licences) (engaged : system.outside.Engages id)
    (leg : LegId) : (system.bound id leg).Honours licences := by
  have revised : (system.reviseConnection id (.bound leg (system.leg leg).view)).Honours licences :=
    honours.revise id (fun gone => gone) (fun _ => engaged) (.inl rfl)
  have tied : (system.tied id leg).Honours licences :=
    (revised.continues (.release _ _)).continues (.aside rfl rfl rfl rfl rfl)
  exact tied.continues (.settle _ id)

theorem joined (honours : system.Honours licences) (params : CallParameters) (redial : Bool)
    (plans : List (ConnectionId × DialPlan)) :
    (system.joined (.enlisted params redial) plans).Honours
      ({.opening (.issued system.connections.length)} + licences) := by
  obtain ⟨new, next⟩ : ∃ new, ConnectionId.issued system.connections.length = new := ⟨_, rfl⟩
  have calls := system.connection_joined (.enlisted params redial) plans
  have yet := system.not_known_next
  rw [next] at calls yet ⊢
  have known (id : ConnectionId) :
      (system.joined (.enlisted params redial) plans).Known id ↔ system.Known id ∨ id = new := by
    rw [← next]
    exact system.known_joined_iff _ plans id
  have holdsNothing : licences.count (.opening new) = 0 :=
    Multiset.count_eq_zero.mpr fun among => yet (honours.backed _ among).1
  exact {
    selectorConsistent := honours.selectorConsistent.joined params redial plans
    backed := fun licence among => by
      rcases Multiset.mem_add.mp among with here | old
      · rw [Multiset.mem_singleton.mp here]
        exact ⟨(known new).mpr (.inr rfl), fun engages => yet (honours.engaged engages)⟩
      · exact (honours.backed licence old).joined params redial plans
    warranted := fun work listed licence granted =>
      (honours.warranted work listed licence granted).joined params redial plans
    single := fun id => by
      have single := honours.single id
      rw [Multiset.count_add, Multiset.count_singleton]
      split
      · rename_i same
        rw [same, holdsNothing]
      · omega
    allowance := fun id => by
      have allowance := honours.allowance id
      have asked : (system.joined (.enlisted params redial) plans).outside.reselections id =
          system.outside.reselections id := rfl
      have idle : (system.joined (.enlisted params redial) plans).pending id = system.pending id :=
        rfl
      have heard : (system.joined (.enlisted params redial) plans).setbacks id =
          system.setbacks id := rfl
      rw [asked, idle, heard]
      simp only [known, Multiset.count_add, Multiset.count_singleton, Licence.opening.injEq,
        reduceCtorEq, if_false, Nat.zero_add]
      by_cases here : id = new
      · simp only [here, yet, holdsNothing, if_true, if_false, or_true, Nat.mul_add] at allowance ⊢
        omega
      · simpa only [here, or_false, if_false, Nat.zero_add] using allowance
    engaged := fun {id} engages => (known id).mpr (.inl (honours.engaged engages))
    bound := fun {id} held => by
      rw [calls] at held
      split at held
      · cases held
      · exact honours.bound held }

theorem selecting (honours : system.Honours licences) (id : ConnectionId)
    (request : SelectionRequest) : (system.selecting id request).Honours licences := by
  have notes := system.outside_selecting id request
  have calls (other : ConnectionId) := system.connection_selecting id other request
  refine honours.onward (honours.selectorConsistent.selecting id request) (known_congr ?_)
    (fun other => ?_)
    (fun other => ?_) (fun other held => ?_) (fun other _ active => ?_) (fun work among => .inl ?_)
    fun other => ?_
  · cases id <;> simp [System.selecting, System.starting, System.noting]
  · rw [notes]
    exact Chronicle.engages_cons.trans (by simp [Note.engages])
  · rw [notes]
    exact Chronicle.reselections_cons
  · refine honours.bound ?_
    rw [calls] at held
    split at held
    · rename_i here
      rw [here.1, ← held]
    · exact held
  · rw [calls]
    split
    · rfl
    · exact active
  · cases id <;> exact among
  · have idle : (system.selecting id request).pending other = system.pending other := by
      cases id <;> rfl
    rw [idle, setbacks_selecting]

theorem finishing (honours : system.Honours licences) {id : ConnectionId}
    (off : (system.connection id).selectionActive = false) :
    (system.finishing id).Honours licences := by
  have same (other : ConnectionId) :
      (system.finishing id).connection other = system.connection other := by
    cases other <;> rfl
  refine honours.onward (honours.selectorConsistent.finishing off) (known_congr rfl) (fun _ => .rfl)
    (fun _ => rfl) (fun other held => honours.bound (by rwa [same] at held))
    (fun other _ active => by rw [same, active]) (fun _ among => .inl among) fun other => ?_
  have idle : (system.finishing id).pending other = system.pending other := rfl
  rw [idle, setbacks_finishing]

theorem unselecting (honours : system.Honours licences) (held : .opening id ∈ licences) :
    System.Honours licences ((system.reviseConnection id
      ({ · with selectionActive := false })).finishing id) := by
  obtain ⟨known, fresh⟩ := honours.backed _ held
  have off : (system.reviseConnection id ({ · with selectionActive := false })).Honours licences :=
    honours.revise id (fun gone => gone) honours.bound (.inr ⟨rfl, fresh⟩)
  exact off.finishing (by rw [connection_reviseConnection_known _ known])

theorem engaging (honours : system.Honours ({.opening id} + licences)) {note : Note}
    (engages : ∀ other, note.engages other = true ↔ other = id) (unselected : note.selected? = none)
    (plain : ∀ other, note.reselects other = false) :
    (system.noting note).Honours
      (.replicate maxReselections (.reselection id) + {.again id} + licences) := by
  have once : licences.count (.opening id) = 0 := by
    have single := honours.single id
    rw [Multiset.count_add, Multiset.count_singleton_self] at single
    omega
  have known : system.Known id := (honours.backed (.opening id) (by simp)).1
  have traded : system.Honours (0 + (.replicate maxReselections (.reselection id) + licences)) := by
    rw [zero_add]
    refine honours.trade (fun licence among => ?_) (fun other => ?_) fun other => ?_
    · rcases Multiset.mem_add.mp among with new | old
      · rw [Multiset.eq_of_mem_replicate new]
        exact .inr trivial
      · exact .inl (Multiset.mem_add.mpr (.inr old))
    · rw [Multiset.count_add, Multiset.count_add, Multiset.count_replicate, if_neg nofun,
        Nat.zero_add]
      exact Nat.le_add_left _ _
    · simp only [Multiset.count_add, Multiset.count_replicate, Multiset.count_singleton,
        Licence.opening.injEq, Licence.reselection.injEq, reduceCtorEq, if_false]
      by_cases here : id = other
      · simp only [here, if_true, Nat.mul_add]
        omega
      · simp [here, Ne.symm here]
  have noted : (system.noting note).Honours
      (.replicate maxReselections (.reselection id) + licences) := by
    refine traded.noting unselected (fun other engaged => ?_) fun other reselects => ?_
    · obtain rfl := (engages other).mp engaged
      refine ⟨known, fun among => ?_⟩
      rcases Multiset.mem_add.mp among with new | old
      · cases Multiset.eq_of_mem_replicate new
      · exact Multiset.count_eq_zero.mp once old
    · rw [plain] at reselects
      cases reselects
  refine noted.trade (fun licence among => ?_) (fun other => ?_) fun other => ?_
  · rw [add_assoc, add_left_comm] at among
    rcases Multiset.mem_add.mp among with new | old
    · rw [Multiset.mem_singleton.mp new]
      exact .inr (Chronicle.engages_cons.mpr (.inl ((engages id).mpr rfl)))
    · exact .inl old
  · simp [Multiset.count_add]
  · simp [Multiset.count_add]

theorem again (honours : system.Honours licences)
    (engaged : system.outside.Engages id) {note : Note}
    (engages : ∀ other, note.engages other = true ↔ other = id) (unselected : note.selected? = none)
    (plain : ∀ other, note.reselects other = false) : (system.noting note).Honours licences := by
  have whole : system.Honours (0 + licences) := by rwa [zero_add]
  refine whole.noting unselected (fun other again => ?_) fun other reselects => ?_
  · obtain rfl := (engages other).mp again
    exact ⟨honours.engaged engaged, fun among => (honours.backed _ among).2 engaged⟩
  · rw [plain] at reselects
    cases reselects

theorem reselecting (honours : system.Honours ({.reselection id} + licences))
    (request : SelectionRequest) :
    (system.noting (.asked (.reselect id request))).Honours licences := by
  refine honours.noting rfl (fun _ => nofun) fun other reselects => ?_
  obtain rfl : id = other := by simpa [Note.reselects] using reselects
  exact Multiset.mem_singleton_self _

theorem beside (honours : system.Honours licences) {note : Note} (beside : note.isBeside = true) :
    (system.noting note).Honours licences := by
  obtain ⟨plain, unselected, free⟩ := note.plain_of_isBeside beside
  have whole : system.Honours (0 + licences) := by rwa [zero_add]
  refine whole.noting unselected (fun id engages => ?_) fun id reselects => ?_
  · rw [plain] at engages
    cases engages
  · rw [free] at reselects
    cases reselects

end Honours
end System
end Switchboard
