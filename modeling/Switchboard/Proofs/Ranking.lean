import Mathlib.Data.List.MinMax
import Mathlib.Data.List.Nodup
import Mathlib.Data.Prod.Lex
import Mathlib.Order.WithBot
import Switchboard.Selection

/-! The choice for an emergency call as one ranking of the slots. The stages that are gone through
look at different lists; but each slot's rank is its own, so slots that lose can come and go. -/

namespace List

variable {α β : Type*} [LinearOrder β] {f : α → β} {list ahead behind : List α} {least : α}

theorem argmin_eq_some_iff_append :
    list.argmin f = some least ↔ ∃ ahead behind, list = ahead ++ least :: behind ∧
      (∀ other ∈ ahead, f least < f other) ∧ ∀ other ∈ behind, f least ≤ f other := by
  induction list with
  | nil => simp
  | cons head rest ih =>
    rw [argmin_cons]
    constructor
    · intro first
      cases found : rest.argmin f with
      | none =>
        rw [found] at first
        obtain rfl : head = least := Option.some.inj first
        exact ⟨[], rest, rfl, by simp, by simp [argmin_eq_none.mp found]⟩
      | some other =>
        rw [found] at first
        by_cases better : f other < f head
        · obtain rfl : other = least := Option.some.inj ((if_pos better).symm.trans first)
          obtain ⟨ahead, behind, rfl, greater, after⟩ := ih.mp found
          exact ⟨head :: ahead, behind, rfl, forall_mem_cons.mpr ⟨better, greater⟩, after⟩
        · obtain rfl : head = least := Option.some.inj ((if_neg better).symm.trans first)
          refine ⟨[], rest, rfl, by simp, fun another among => ?_⟩
          exact (not_lt.mp better).trans (le_of_mem_argmin among found)
    · rintro ⟨_ | ⟨before, ahead⟩, behind, split, greater, after⟩
      · obtain ⟨rfl, rfl⟩ := cons.inj split
        cases found : rest.argmin f with
        | none => rfl
        | some other => exact if_neg (not_lt.mpr (after other (argmin_mem found)))
      · obtain ⟨rfl, rfl⟩ := cons.inj split
        rw [ih.mpr ⟨ahead, behind, rfl, fun other among => greater other (.tail _ among), after⟩]
        exact if_pos (greater head mem_cons_self)

theorem argmin_of_first {p : α → Bool} (found : list.find? p = some least)
    (ties : ∀ other ∈ list, p other = true → f least ≤ f other)
    (losers : ∀ other ∈ list, p other = false → f least < f other) :
    list.argmin f = some least := by
  obtain ⟨-, ahead, behind, rfl, out⟩ := find?_eq_some_iff_append.mp found
  refine argmin_eq_some_iff_append.mpr ⟨ahead, behind, rfl, fun other among => ?_,
    fun other among => ?_⟩
  · exact losers other (mem_append_left _ among) (by simpa using out other among)
  · have among : other ∈ ahead ++ least :: behind := by simp [among]
    cases chosen : p other with
    | true => exact ties other among chosen
    | false => exact (losers other among chosen).le

theorem argmin_of_forall_lt (among : least ∈ list)
    (losers : ∀ other ∈ list, other ≠ least → f least < f other) :
    list.argmin f = some least := by
  cases found : list.argmin f with
  | none => simp [argmin_eq_none.mp found] at among
  | some other =>
    by_contra differs
    have worse := losers other (argmin_mem found) fun same => differs (congrArg _ same)
    exact (le_of_mem_argmin among found).not_gt worse

theorem argmin_erase [BEq α] [LawfulBEq α] {other : α} (found : list.argmin f = some least)
    (loses : other ≠ least) : (list.erase other).argmin f = some least := by
  obtain ⟨ahead, behind, rfl, greater, after⟩ := argmin_eq_some_iff_append.mp found
  by_cases before : other ∈ ahead
  · rw [erase_append_left _ before]
    exact argmin_eq_some_iff_append.mpr ⟨_, behind, rfl,
      fun another among => greater another (mem_of_mem_erase among), after⟩
  · rw [erase_append_right _ before, erase_cons_tail (by simpa using loses.symm)]
    exact argmin_eq_some_iff_append.mpr ⟨ahead, _, rfl, greater,
      fun another among => after another (mem_of_mem_erase among)⟩

end List

namespace Switchboard.Selection

abbrev Fitness := Bool ×ₗ ℕᵒᵈ ×ₗ ℕᵒᵈ ×ₗ Bool ×ₗ ℕ

def fitness (slot : SlotStatus) : Fitness :=
  let families := (List.range 32).countP slot.accessFamilies.testBit
  toLex (slot.simLocked, toLex (.toDual families, toLex (.toDual slot.accessFamilies,
    toLex (!slot.hasSim, slot.phone.number))))

def standing (defaults : Defaults) (slot : SlotStatus) : Nat :=
  if slot.smsMode then 0
  else if defaults.voice = some slot.phone ∧ slot.service.isInService then 1
  else if defaults.data = some slot.phone ∧ slot.service.isInService then 2
  else if slot.service.canCallEmergency ∧ slot.hasNumber then 3
  else if slot.service.isInService then 4
  else if slot.service.canCallEmergency then 5
  else 6

/-- Slots of the last two classes differ in their fitness as well. -/
def ranking (defaults : Defaults) (slot : SlotStatus) : ℕ ×ₗ WithBot Fitness :=
  toLex (standing defaults slot, if 5 ≤ standing defaults slot then fitness slot else ⊥)

theorem onesBelow_eq_countP (width value : Nat) :
    onesBelow width value = (List.range width).countP value.testBit := by
  induction width generalizing value with
  | zero => rfl
  | succ width ih =>
    rw [onesBelow, ih, List.range_succ_eq_map, List.countP_cons, List.countP_map, Nat.add_comm]
    congr 1
    · simp [Function.comp_def, Nat.testBit_succ]
    · rcases Nat.mod_two_eq_zero_or_one value with even | odd <;> simp [*]

theorem rank_lt_iff {slot other : SlotStatus} (narrow : slot.accessFamilies < UInt32.size)
    (narrow_other : other.accessFamilies < UInt32.size) :
    rank slot < rank other ↔ fitness slot < fitness other := by
  have few (mask : Nat) : (List.range 32).countP mask.testBit ≤ 32 := by
    simpa using List.countP_le_length (p := mask.testBit) (l := List.range 32)
  have fewer {width left right : Nat} (within : left ≤ width) (within_other : right ≤ width) :
      width - left < width - right ↔ right < left := by omega
  have as_few {width left right : Nat} (within : left ≤ width) (within_other : right ≤ width) :
      width - left = width - right ↔ left = right := by omega
  have locked (left right : Bool) : left.toNat < right.toNat ↔ left < right := by
    cases left <;> cases right <;> decide
  have same (left right : Bool) : left.toNat = right.toNat ↔ left = right := by
    cases left <;> cases right <;> decide
  simp only [rank, fitness, onesBelow_eq_countP, List.cons_lt_cons_iff, Prod.Lex.toLex_lt_toLex,
    OrderDual.toDual_lt_toDual, OrderDual.toDual_inj, locked, same, fewer (few _) (few _),
    as_few (few _) (few _), fewer narrow.le narrow_other.le, as_few narrow.le narrow_other.le,
    List.not_lt_nil, and_false, or_false]

theorem best_eq_argmin {slots : List SlotStatus}
    (narrow : ∀ slot ∈ slots, slot.accessFamilies < UInt32.size) :
    best slots = slots.argmin fitness := by
  induction slots with
  | nil => rfl
  | cons slot rest ih =>
    obtain ⟨narrow_slot, narrow_rest⟩ := List.forall_mem_cons.mp narrow
    rw [List.argmin_cons, best, ih narrow_rest]
    cases found : rest.argmin fitness with
    | none => rfl
    | some other =>
      have compare := rank_lt_iff (narrow_rest other (List.argmin_mem found)) narrow_slot
      exact if_congr compare rfl rfl

variable {defaults : Defaults} {slots : List SlotStatus} {slot other : SlotStatus}

theorem same_slot (distinct : (slots.map (·.phone)).Nodup) (among : slot ∈ slots)
    (among_other : other ∈ slots) (same : slot.phone = other.phone) : slot = other :=
  List.inj_on_of_nodup_map distinct among among_other same

theorem lookup_eq_find (distinct : (slots.map (·.phone)).Nodup) (phone : Option PhoneId) :
    (phone.bind fun id => slots.find? (·.phone == id)).filter (·.service.isInService) =
      slots.find? fun slot => phone == some slot.phone && slot.service.isInService := by
  cases phone with
  | none => exact (List.find?_eq_none.mpr (by simp)).symm
  | some id =>
  rw [Option.bind_some]
  induction slots with
  | nil => rfl
  | cons slot rest ih =>
    obtain ⟨alone, distinct⟩ := List.nodup_cons.mp distinct
    by_cases own : slot.phone = id
    · subst own
      have absent : rest.find? (fun other =>
          some slot.phone == some other.phone && other.service.isInService) = none := by
        refine List.find?_eq_none.mpr fun other among serves => alone ?_
        have same := Option.some.inj (eq_of_beq (Bool.and_eq_true_iff.mp serves).1)
        exact List.mem_map.mpr ⟨other, among, same.symm⟩
      rw [List.find?_cons_of_pos (by simp)]
      cases serves : slot.service.isInService with
      | true => simp [serves]
      | false => rw [List.find?_cons_of_neg (by simp [serves]), absent]; simp [serves]
    · simpa [own, Ne.symm own] using ih distinct

theorem fitness_ne (differs : slot.phone ≠ other.phone) : fitness slot ≠ fitness other := by
  intro same
  have last := congrArg (fun fitness => (ofLex (ofLex (ofLex (ofLex fitness).2).2).2).2) same
  exact differs (congrArg PhoneId.mk last)

theorem ranking_lt (ahead : standing defaults slot < standing defaults other) :
    ranking defaults slot < ranking defaults other :=
  Prod.Lex.toLex_lt_toLex.mpr (.inl ahead)

theorem stage_eq_argmin {n : Nat} {p : SlotStatus → Bool} {rest : Option SlotStatus}
    (early : n < 5) (past : ∀ slot ∈ slots, n ≤ standing defaults slot)
    (here : ∀ slot, n ≤ standing defaults slot → (p slot ↔ standing defaults slot = n))
    (later : (∀ slot ∈ slots, n + 1 ≤ standing defaults slot) →
      rest = slots.argmin (ranking defaults)) :
    (slots.find? p <|> rest) = slots.argmin (ranking defaults) := by
  cases found : slots.find? p with
  | none =>
    refine later fun slot among => (past slot among).lt_of_ne' fun same => ?_
    exact List.find?_eq_none.mp found slot among ((here slot same.ge).mpr same)
  | some slot =>
    have own : standing defaults slot = n :=
      (here slot (past slot (List.mem_of_find?_eq_some found))).mp (List.find?_some found)
    symm
    refine List.argmin_of_first found (fun other among tied => ?_) fun other among loses => ?_
    · have tied := (here other (past other among)).mp tied
      simp [ranking, own, tied, Nat.not_le.mpr early]
    · have loses : standing defaults other ≠ n := fun same => by
        simp [(here other same.ge).mpr same] at loses
      exact ranking_lt (own ▸ (past other among).lt_of_ne' loses)

theorem argmin_of_fittest {pool : List SlotStatus} {n : Nat}
    (distinct : (slots.map (·.phone)).Nodup) (late : 5 ≤ n)
    (pooled : ∀ other, other ∈ pool ↔ other ∈ slots ∧ standing defaults other = n)
    (others : ∀ other ∈ slots, other ∉ pool → n < standing defaults other)
    (found : pool.argmin fitness = some slot) : slots.argmin (ranking defaults) = some slot := by
  obtain ⟨among, class_slot⟩ := (pooled slot).mp (List.argmin_mem found)
  refine List.argmin_of_forall_lt among fun other among_other differs => ?_
  by_cases rival : other ∈ pool
  · have fitter : fitness slot < fitness other := by
      refine lt_of_le_of_ne (List.le_of_mem_argmin rival found) (fitness_ne fun same => differs ?_)
      exact (same_slot distinct among among_other same).symm
    simp [ranking, class_slot, ((pooled other).mp rival).2, late, Prod.Lex.toLex_lt_toLex, fitter]
  · exact ranking_lt (class_slot ▸ others other among_other rival)

theorem best_eq_argmin_ranking (distinct : (slots.map (·.phone)).Nodup)
    (narrow : ∀ slot ∈ slots, slot.accessFamilies < UInt32.size)
    (past : ∀ slot ∈ slots, 5 ≤ standing defaults slot) :
    let available := slots.filter (·.service.canCallEmergency)
    best (if available.isEmpty then slots else available) = slots.argmin (ranking defaults) := by
  intro available
  have late {slot : SlotStatus} (among : slot ∈ slots) :
      standing defaults slot = if slot.service.canCallEmergency then 5 else 6 := by
    have past := past slot among
    unfold standing at past ⊢
    split_ifs at past ⊢ <;> simp_all
  by_cases none : available.isEmpty = true
  · have bare : ∀ slot ∈ slots, slot.service.canCallEmergency = false := by
      simpa [available] using none
    rw [if_pos none, best_eq_argmin narrow]
    cases found : slots.argmin fitness with
    | none => simp [List.argmin_eq_none.mp found]
    | some slot =>
      refine (argmin_of_fittest distinct (n := 6) (by omega) (fun other => ?_) ?_ found).symm
      · exact (and_iff_left_of_imp fun among => by simp [late among, bare other among]).symm
      · exact fun other among out => absurd among out
  · have narrow_available : ∀ slot ∈ available, slot.accessFamilies < UInt32.size :=
      fun slot among => narrow slot (List.mem_of_mem_filter among)
    rw [if_neg none, best_eq_argmin narrow_available]
    cases found : available.argmin fitness with
    | none => simp [List.argmin_eq_none.mp found] at none
    | some slot =>
      refine (argmin_of_fittest distinct (n := 5) (by omega) (fun other => ?_) ?_ found).symm
      · rw [List.mem_filter]
        refine and_congr_right fun among => ?_
        rw [late among]
        split_ifs <;> simp_all
      · intro other among out
        have bare : other.service.canCallEmergency = false := by
          simpa [available, among] using out
        simp [late among, bare]

theorem forEmergency_eq (distinct : (slots.map (·.phone)).Nodup)
    (narrow : ∀ slot ∈ slots, slot.accessFamilies < UInt32.size) :
    forEmergency slots defaults =
      (slots.argmin (ranking defaults)).elim defaults.phone (·.phone) := by
  have stages : (slots.find? (·.smsMode)
      <|> (defaults.voice.bind fun id => slots.find? (·.phone == id)).filter (·.service.isInService)
      <|> (defaults.data.bind fun id => slots.find? (·.phone == id)).filter (·.service.isInService)
      <|> (slots.filter (·.service.canCallEmergency)).find? (·.hasNumber)
      <|> (slots.filter (·.service.canCallEmergency)).find? (·.service.isInService)
      <|> best (if (slots.filter (·.service.canCallEmergency)).isEmpty then slots
        else slots.filter (·.service.canCallEmergency))) = slots.argmin (ranking defaults) := by
    rw [lookup_eq_find distinct, lookup_eq_find distinct, List.find?_filter, List.find?_filter]
    refine stage_eq_argmin (n := 0) (by omega) (by simp) (fun slot _ => ?_) fun past => ?_
    · unfold standing
      split_ifs <;> simp_all
    refine stage_eq_argmin (n := 1) (by omega) past (fun slot past => ?_) fun past => ?_
    · unfold standing at past ⊢
      split_ifs at past ⊢ <;> simp_all
    refine stage_eq_argmin (n := 2) (by omega) past (fun slot past => ?_) fun past => ?_
    · unfold standing at past ⊢
      split_ifs at past ⊢ <;> simp_all
    refine stage_eq_argmin (n := 3) (by omega) past (fun slot past => ?_) fun past => ?_
    · unfold standing at past ⊢
      split_ifs at past ⊢ <;> simp_all
    refine stage_eq_argmin (n := 4) (by omega) past (fun slot past => ?_) fun past => ?_
    · unfold standing at past ⊢
      have serving := @ServiceState.canCallEmergency_of_isInService slot.service
      split_ifs at past ⊢ <;> simp_all
    exact best_eq_argmin_ranking distinct narrow past
  unfold forEmergency
  dsimp only
  rw [stages]
  cases slots.argmin (ranking defaults) <;> rfl

/-- The phone for an emergency call is that of the slot that ranks first, or the default one when
there is no slot. So a slot whose phone is not the answer can be taken out. -/
theorem forEmergency_ranks (slots : List SlotStatus) (defaults : Defaults)
    (distinct : (slots.map (·.phone)).Nodup)
    (narrow : ∀ slot ∈ slots, slot.accessFamilies < UInt32.size) :
    forEmergency slots defaults =
        (slots.argmin (ranking defaults)).elim defaults.phone (·.phone) ∧
      ∀ slot ∈ slots, slot.phone ≠ forEmergency slots defaults →
        forEmergency (slots.erase slot) defaults = forEmergency slots defaults := by
  have whole := @forEmergency_eq defaults _ distinct narrow
  refine ⟨whole, fun slot among loses => ?_⟩
  have kept : (slots.erase slot).Sublist slots := List.erase_sublist
  have rest := @forEmergency_eq defaults _ (distinct.sublist (kept.map _))
    fun other stays => narrow other (kept.subset stays)
  rw [whole] at loses
  rw [rest, whole]
  cases first : slots.argmin (ranking defaults) with
  | none => simp [List.argmin_eq_none.mp first] at among
  | some least =>
    rw [first] at loses
    rw [List.argmin_erase first fun same => loses (congrArg _ same)]

/-- Neither default serves; of those that can call at all the unlocked one is taken. -/
theorem forEmergency_ranks_unlocked :
    let locked : SlotStatus := { phone := ⟨0⟩, service := .emergencyOnly, simLocked := true }
    let unlocked : SlotStatus := { phone := ⟨1⟩, service := .emergencyOnly, accessFamilies := 3 }
    let silent : SlotStatus := { phone := ⟨2⟩, service := .outOfService, accessFamilies := 7 }
    let defaults : Defaults := { voice := some ⟨0⟩, data := some ⟨2⟩, phone := ⟨0⟩ }
    forEmergency [locked, unlocked, silent] defaults = ⟨1⟩ ∧
      [locked, unlocked, silent].argmin (ranking defaults) = some unlocked ∧
        forEmergency [unlocked, silent] defaults = ⟨1⟩ := by
  intro locked unlocked silent defaults
  have ranks := forEmergency_ranks [locked, unlocked, silent] defaults (by decide) (by decide)
  have answer : forEmergency [locked, unlocked, silent] defaults = ⟨1⟩ := by decide
  exact ⟨answer, by decide, (ranks.2 locked (by decide) (by decide)).trans answer⟩

end Switchboard.Selection
