import Switchboard.Proofs.Assurances
import Switchboard.Proofs.Fairness

/-! The end of a connection as its listeners hear it. Whoever listened before it hears once that the
connection is destroyed, and at most once that the call ended. They hear of the call's end, and then
of the destruction as the last event, exactly when the connection let them hear everything else
first. -/

namespace Switchboard
namespace Annals

variable {annals : Annals} {listener : Listener}

instance (annals : Annals) : Decidable annals.Open :=
  inferInstanceAs (Decidable (_ ∧ _))

def decidableStays (listener : Listener) : (annals : Annals) → Decidable (annals.Stays listener)
  | [] => .isFalse id
  | .seen call :: earlier =>
    have := decidableStays listener earlier
    inferInstanceAs (Decidable (listener ∈ call.listeners ∧ Open earlier ∨ Stays listener earlier))
  | .joined other _ :: earlier =>
    have := decidableStays listener earlier
    inferInstanceAs (Decidable (other = listener ∧ Open earlier ∨ Stays listener earlier))
  | .left other :: earlier =>
    have := decidableStays listener earlier
    inferInstanceAs (Decidable (other ≠ listener ∧ Stays listener earlier))
  | .told _ _ _ :: earlier => decidableStays listener earlier
  | .heard _ _ :: earlier => decidableStays listener earlier

instance (annals : Annals) (listener : Listener) : Decidable (annals.Stays listener) :=
  decidableStays listener annals

/-- The listener hears once that the call ended, later once that the connection is destroyed, and
nothing after that. -/
def SeesOut (annals : Annals) (listener : Listener) : Prop :=
  ∃ before, annals.heardBy listener = .destroyed :: before ∧ .destroyed ∉ before ∧
    before.countP ConnectionEvent.isDisconnected = 1

theorem seesOut_iff_tail (annals : Annals) (listener : Listener) : annals.SeesOut listener ↔
    (annals.heardBy listener).head? = some .destroyed ∧
      .destroyed ∉ (annals.heardBy listener).tail ∧
        (annals.heardBy listener).tail.countP ConnectionEvent.isDisconnected = 1 := by
  constructor
  · rintro ⟨before, heard, new, once⟩
    rw [heard]
    exact ⟨rfl, new, once⟩
  · rintro ⟨last, new, once⟩
    obtain ⟨before, heard⟩ := List.head?_eq_some_iff.mp last
    rw [heard] at new once
    exact ⟨before, heard, new, once⟩

instance (annals : Annals) (listener : Listener) : Decidable (annals.SeesOut listener) :=
  decidable_of_iff' _ (seesOut_iff_tail annals listener)

def Parts (annals : Annals) (listener : Listener) (late early : Annals) : Prop :=
  ∃ (between : Annals) (listeners : List Listener) (teller : Connection),
    annals = late ++ .heard listener .destroyed ::
      (between ++ .told .destroyed listeners teller :: early)

/-- The listener has been told that the call ended. When the connection began to tell that it is
destroyed they had heard whatever they were told, and since they heard that they have been told
nothing. -/
def TakesLeave (annals : Annals) (listener : Listener) : Prop :=
  (∃ info, .disconnected info ∈ annals.toldTo listener) ∧
    ∃ late early : Annals, annals.Parts listener late early ∧ early.Even listener ∧
      late.toldTo listener = []

theorem heardBy_append (news annals : Annals) (listener : Listener) :
    heardBy (news ++ annals) listener = news.heardBy listener ++ annals.heardBy listener :=
  List.filterMap_append

theorem heardBy_heard (listener : Listener) (event : ConnectionEvent) (annals : Annals) :
    heardBy (.heard listener event :: annals) listener = event :: annals.heardBy listener :=
  List.filterMap_cons_some (if_pos rfl)

theorem toldTo_sublist (annals : Annals) (listener : Listener) :
    (annals.toldTo listener).Sublist annals.tellings := by
  induction annals with
  | nil => exact .refl _
  | cons moment rest ih =>
    cases moment with
    | told event listeners teller =>
      by_cases among : listener ∈ listeners
      · have first : (Moment.told event listeners teller).toldTo? listener = some event :=
          if_pos among
        rw [toldTo, List.filterMap_cons_some first]
        exact ih.cons_cons event
      · have first : (Moment.told event listeners teller).toldTo? listener = none := if_neg among
        rw [toldTo, List.filterMap_cons_none first]
        exact ih.cons event
    | _ => exact ih

theorem Even.perm (even : annals.Even listener) :
    (annals.heardBy listener).Perm (annals.toldTo listener) :=
  List.perm_iff_count.mpr fun event => (even event).symm

theorem Even.countP_le (even : annals.Even listener) (event : ConnectionEvent → Bool) :
    (annals.heardBy listener).countP event ≤ annals.tellings.countP event :=
  even.perm.countP_eq event ▸ (annals.toldTo_sublist listener).countP_le

theorem destructions_le {early : Annals} (before : early <:+ annals) :
    early.destructions ≤ annals.destructions :=
  (before.sublist.filterMap _).count_le _

theorem destroyed_unique {before after late early : Annals} {first last : List Listener}
    {one other : Connection}
    (once : destructions (after ++ .told .destroyed first one :: before) ≤ 1)
    (same : after ++ .told .destroyed first one :: before =
      late ++ .told .destroyed last other :: early) :
    after = late ∧ first = last ∧ before = early := by
  have twice {front middle back : Annals} {ears listeners : List Listener}
      {teller caller : Connection} : 1 < destructions (front ++ .told .destroyed ears teller ::
        (middle ++ .told .destroyed listeners caller :: back)) := by
    simp only [destructions, tellings, List.filterMap_append, List.filterMap_cons, Moment.telling?,
      List.count_append, List.count_cons_self]
    omega
  rcases List.append_eq_append_iff.mp same with ⟨more, rfl, rest⟩ | ⟨more, rfl, rest⟩
  · cases more with
    | nil =>
      obtain ⟨moment, rfl⟩ := List.cons.inj rest
      exact ⟨(List.append_nil _).symm, (Moment.told.inj moment).2.1, rfl⟩
    | cons _ more =>
      rw [(List.cons.inj rest).2] at once
      exact absurd once (Nat.not_le_of_gt twice)
  · cases more with
    | nil =>
      obtain ⟨moment, rfl⟩ := List.cons.inj rest
      exact ⟨List.append_nil _, (Moment.told.inj moment).2.1.symm, rfl⟩
    | cons moment more =>
      rw [(List.cons.inj rest).1.symm, List.append_assoc, List.cons_append] at once
      exact absurd once (Nat.not_le_of_gt twice)

theorem Regular.parts (regular : annals.Regular) (hears : .destroyed ∈ annals.heardBy listener) :
    ∃ late early : Annals, annals.Parts listener late early := by
  obtain ⟨moment, among, heard⟩ := List.mem_filterMap.mp hears
  cases moment with
  | heard other event =>
    obtain ⟨rfl, rfl⟩ := (Moment.heardBy?_heard other listener event .destroyed).mp heard
    obtain ⟨late, earlier, split⟩ := List.append_of_mem among
    obtain ⟨between, listeners, teller, early, rfl, -⟩ := regular.called split
    exact ⟨late, early, between, listeners, teller, split⟩
  | _ => cases heard

namespace Parts

variable {late early : Annals}

theorem before (parts : annals.Parts listener late early) : early <:+ annals := by
  obtain ⟨between, listeners, teller, rfl⟩ := parts
  exact ((List.suffix_cons _ _).trans (List.suffix_append _ _)).trans
    ((List.suffix_cons _ _).trans (List.suffix_append _ _))

theorem heardBy (parts : annals.Parts listener late early) : ∃ before,
    annals.heardBy listener = late.heardBy listener ++ .destroyed :: before := by
  obtain ⟨between, listeners, teller, rfl⟩ := parts
  exact ⟨_, by rw [heardBy_append, heardBy_heard]⟩

section
variable (parts : annals.Parts listener late early) (regular : annals.Regular)
  (even : annals.Even listener) (once : annals.destructions ≤ 1)
include parts regular even once

theorem around (event : ConnectionEvent) :
    late.timesTold listener event + early.timesTold listener event =
      late.timesHeard listener event + early.timesHeard listener event := by
  obtain ⟨between, listeners, teller, rfl⟩ := parts
  obtain ⟨since, ears, caller, first, same, among, level⟩ := regular.called rfl
  obtain ⟨rfl, rfl, rfl⟩ := destroyed_unique (Nat.le_trans (destructions_le
    ((List.suffix_cons _ _).trans (List.suffix_append _ _))) once) same
  have whole := even event
  have meanwhile := level event
  have told : (Moment.told .destroyed listeners teller).toldTo? listener = some .destroyed :=
    if_pos among
  have heard : (Moment.heard listener .destroyed).heardBy? listener = some .destroyed := if_pos rfl
  have deaf : (Moment.told .destroyed listeners teller).heardBy? listener = none := rfl
  have silent : (Moment.heard listener .destroyed).toldTo? listener = none := rfl
  simp only [timesTold_append, timesHeard_append, timesTold_cons, timesHeard_cons, told, heard,
    deaf, silent, reduceCtorEq, if_false] at whole
  omega

theorem last_iff : late.heardBy listener = [] ↔
    early.Even listener ∧ late.toldTo listener = [] := by
  have none {events : List ConnectionEvent} : events = [] ↔ ∀ event, events.count event = 0 := by
    simp [List.count_eq_zero, List.eq_nil_iff_forall_not_mem]
  have around := parts.around regular even once
  rw [none, none]
  constructor
  · intro last
    have both (event : ConnectionEvent) :
        early.timesTold listener event = early.timesHeard listener event ∧
          late.timesTold listener event = 0 := by
      have sum := around event
      have paid := regular.paid parts.before listener event
      have nothing : late.timesHeard listener event = 0 := last event
      omega
    exact ⟨fun event => (both event).1, fun event => (both event).2⟩
  · rintro ⟨level, silent⟩ event
    have sum := around event
    have owed := level event
    have nothing : late.timesTold listener event = 0 := silent event
    exact show late.timesHeard listener event = 0 by omega

end
end Parts

section
variable (regular : annals.Regular) (even : annals.Even listener) (once : annals.destructions ≤ 1)
include regular even once

theorem SeesOut.takesLeave (sees : annals.SeesOut listener) : annals.TakesLeave listener := by
  obtain ⟨before, heard, new, one⟩ := sees
  obtain ⟨late, early, parts⟩ := regular.parts (heard ▸ List.mem_cons_self)
  obtain ⟨event, there, ending⟩ := List.countP_pos_iff.mp (one ▸ Nat.one_pos)
  have told := even.perm.mem_iff.mp (heard ▸ List.mem_cons_of_mem _ there)
  refine ⟨?_, late, early, parts, (parts.last_iff regular even once).mp ?_⟩
  · cases event with
    | disconnected info => exact ⟨info, told⟩
    | _ => cases ending
  · obtain ⟨first, split⟩ := parts.heardBy
    rw [heard] at split
    cases later : late.heardBy listener with
    | nil => rfl
    | cons event events =>
      rw [later] at split
      exact absurd ((List.cons.inj split).2 ▸ List.mem_append_right _ List.mem_cons_self) new

theorem TakesLeave.seesOut (ended : annals.disconnections ≤ 1)
    (leaves : annals.TakesLeave listener) : annals.SeesOut listener := by
  obtain ⟨⟨info, told⟩, late, early, parts, last⟩ := leaves
  obtain ⟨before, heard⟩ := parts.heardBy
  rw [(parts.last_iff regular even once).mpr last, List.nil_append] at heard
  have some : 0 < (annals.heardBy listener).countP ConnectionEvent.isDisconnected :=
    List.countP_pos_iff.mpr ⟨_, even.perm.mem_iff.mpr told, rfl⟩
  have most := Nat.le_trans (even.countP_le ConnectionEvent.isDisconnected) ended
  have whole := Nat.le_trans (even.countP_le (· == .destroyed)) once
  rw [heard, List.countP_cons_of_neg (by decide)] at some most
  rw [heard, List.countP_cons_of_pos (by decide)] at whole
  exact ⟨before, heard, List.count_eq_zero.mp (Nat.le_zero.mp (Nat.le_of_succ_le_succ whole)),
    Nat.le_antisymm most some⟩

end
end Annals

namespace Move

variable {serial : Nat} {hear : String → ConnectionId → ConnectionEvent → Habit Diary}
  {bridged : Habit Diary} {rounds : Nat} {moves : List Move} {start after : System Diary}
  {listener : Listener}

/-- Whoever was there before the end hears once that the connection is destroyed and at most once
that the call ended. They see the end as it should be exactly when they take leave. -/
theorem seesOut_iff (fresh : start.connections = []) (unwritten : start.outside = [])
    (runs : keptRun (.diarists hear bridged) rounds moves start = some after)
    (gone : (after.connection (.issued serial)).destroyed = true)
    (stays : (after.annals serial).Stays listener) :
    ((after.annals serial).heardBy listener).count .destroyed = 1 ∧
      ((after.annals serial).heardBy listener).countP ConnectionEvent.isDisconnected ≤ 1 ∧
      ((after.annals serial).SeesOut listener ↔ (after.annals serial).TakesLeave listener) := by
  have known := known_of_stays fresh unwritten runs stays
  obtain ⟨order, -⟩ := inOrder_run fresh unwritten runs known
  obtain ⟨regular, level⟩ :=
    (fair_run fresh unwritten runs : (after.annals serial).Regular ∧ _)
  have once : (after.annals serial).destructions = 1 := by
    have told := order.destroyed
    rw [show (after.dossier serial).call.destroyed = true from gone] at told
    exact told
  have even := level listener
  refine ⟨Nat.le_antisymm ?_ ?_, ?_, fun sees => sees.takesLeave regular even (Nat.le_of_eq once),
    fun leaves => leaves.seesOut regular even (Nat.le_of_eq once) order.once⟩
  · exact Nat.le_trans (even.countP_le (· == .destroyed)) (Nat.le_of_eq once)
  · obtain ⟨moment, there, told⟩ := List.mem_filterMap.mp
      (List.count_pos_iff.mp (once ▸ Nat.one_pos : 0 < (after.annals serial).destructions))
    cases moment with
    | told event listeners teller =>
      cases told
      have hears : .destroyed ∈ (after.annals serial).toldTo listener :=
        List.mem_filterMap.mpr ⟨_, there, if_pos (order.informed stays there)⟩
      exact List.count_pos_iff.mpr (even.perm.mem_iff.mpr hears)
    | _ => cases told
  · exact Nat.le_trans (even.countP_le ConnectionEvent.isDisconnected) order.once

theorem hungUp_takesLeave : ∃ after,
    keptRun (.diarists hangsUp .rest) 4 connectedCall { outside := [] } = some after ∧
      (after.annals 0).TakesLeave (.observer "closer") := by
  have whole : (keptRun (.diarists hangsUp .rest) 4 connectedCall { outside := [] }).any
      (fun after => (after.connection (.issued 0)).destroyed &&
        decide ((after.annals 0).Stays (.observer "closer")) &&
        decide ((after.annals 0).SeesOut (.observer "closer"))) = true := by decide +kernel
  obtain ⟨after, runs, shows⟩ := (Option.any_eq_true _ _).mp whole
  simp only [Bool.and_eq_true, decide_eq_true_eq] at shows
  obtain ⟨⟨gone, stays⟩, sees⟩ := shows
  exact ⟨after, runs, (seesOut_iff rfl rfl runs gone stays).2.2.mp sees⟩

/-- Somebody closes each call as soon as they hear that it is disconnected. -/
def closesEnded : String → ConnectionId → ConnectionEvent → Habit Diary
  | _, id, .stateChanged _ .disconnected => .make (.close id) .rest
  | _, _, _ => .rest

/-- A call is active, and the other side ends it. -/
def remoteEnd : List Move := [
  .create { phone := ⟨0⟩, technology := .ims },
  .addListener (.issued 0) (.observer "closer"),
  .createLeg { state := .active, technology := .ims },
  .bind (.issued 0) ⟨0⟩,
  .disconnect (.issued 0) { cause := .remote, code := 0, reason := "gone" }]

/-- Who closes a call on hearing that it is disconnected never hears why. -/
theorem closesEnded_misses : ∃ after,
    keptRun (.diarists closesEnded .rest) 4 remoteEnd { outside := [] } = some after ∧
      (after.connection (.issued 0)).destroyed = true ∧
      (after.annals 0).Stays (.observer "closer") ∧
      ¬ (after.annals 0).SeesOut (.observer "closer") := by
  have whole : (keptRun (.diarists closesEnded .rest) 4 remoteEnd { outside := [] }).any
      (fun after => (after.connection (.issued 0)).destroyed &&
        decide ((after.annals 0).Stays (.observer "closer")) &&
        decide (¬ (after.annals 0).SeesOut (.observer "closer"))) = true := by decide +kernel
  obtain ⟨after, runs, shows⟩ := (Option.any_eq_true _ _).mp whole
  simp only [Bool.and_eq_true, decide_eq_true_eq] at shows
  exact ⟨after, runs, shows.1.1, shows.1.2, shows.2⟩

end Move
end Switchboard
