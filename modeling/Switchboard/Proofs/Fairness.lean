import Switchboard.Proofs.InvariantLevels

/-! Nobody is forgotten. `fairness` is the law that whoever hears of an event of a connection does
so in their turn, and that when somebody has been at work everything has been heard that was told
meanwhile. It looks at nobody but those who listen. -/

namespace Switchboard

namespace Moment

theorem heardBy?_heard (listener other : Listener) (event more : ConnectionEvent) :
    heardBy? other (.heard listener event) = some more ↔ other = listener ∧ more = event := by
  by_cases who : listener = other
  · simp [heardBy?, who, eq_comm]
  · simp [heardBy?, who, show other ≠ listener from fun same => who same.symm]

theorem toldTo?_told (listener : Listener) (event more : ConnectionEvent)
    (listeners : List Listener) (call : Connection) :
    toldTo? listener (.told event listeners call) = some more ↔
      listener ∈ listeners ∧ more = event := by
  by_cases among : listener ∈ listeners
  · simp [toldTo?, among, eq_comm]
  · simp [toldTo?, among]

end Moment

namespace Annals

def timesTold (annals : Annals) (listener : Listener) (event : ConnectionEvent) : Nat :=
  (annals.toldTo listener).count event

def timesHeard (annals : Annals) (listener : Listener) (event : ConnectionEvent) : Nat :=
  (annals.heardBy listener).count event

variable (annals : Annals) (moment : Moment) (listener : Listener) (event : ConnectionEvent)

theorem timesTold_cons : timesTold (moment :: annals) listener event =
    timesTold annals listener event +
      if moment.toldTo? listener = some event then 1 else 0 := by
  cases told : moment.toldTo? listener with
  | none => simp [timesTold, toldTo, told]
  | some other => simp [timesTold, toldTo, told, List.count_cons]

theorem timesHeard_cons : timesHeard (moment :: annals) listener event =
    timesHeard annals listener event +
      if moment.heardBy? listener = some event then 1 else 0 := by
  cases heard : moment.heardBy? listener with
  | none => simp [timesHeard, heardBy, heard]
  | some other => simp [timesHeard, heardBy, heard, List.count_cons]

def Even (listener : Listener) (annals : Annals) : Prop :=
  ∀ event, annals.timesTold listener event = annals.timesHeard listener event

def Due (listener : Listener) (event : ConnectionEvent) (annals : Annals) : Prop :=
  ∃ (between : Annals) (listeners : List Listener) (teller : Connection) (early : Annals),
    annals = between ++ .told event listeners teller :: early ∧ listener ∈ listeners ∧
      between.Even listener

def Taken (listeners : List Listener) (event : ConnectionEvent) (annals : Annals) : Prop :=
  ∀ other more, annals.timesHeard other more = annals.timesTold other more +
    if other ∈ listeners ∧ more = event then 1 else 0

/-- Nobody hears more than what they are told, nor out of turn. -/
structure Regular (annals : Annals) : Prop where
  paid {early : Annals} : early <:+ annals →
    ∀ listener event, early.timesHeard listener event ≤ early.timesTold listener event
  called {late early : Annals} {listener : Listener} {event : ConnectionEvent} :
    annals = late ++ .heard listener event :: early → early.Due listener event

variable {annals news : Annals} {moment : Moment} {listener : Listener} {event : ConnectionEvent}

theorem timesTold_append (news annals : Annals) (listener : Listener) (event : ConnectionEvent) :
    timesTold (news ++ annals) listener event =
      timesTold news listener event + timesTold annals listener event := by
  simp [timesTold, toldTo]

theorem timesHeard_append (news annals : Annals) (listener : Listener) (event : ConnectionEvent) :
    timesHeard (news ++ annals) listener event =
      timesHeard news listener event + timesHeard annals listener event := by
  simp [timesHeard, heardBy]

theorem Even.nil (listener : Listener) : Even listener [] := fun _ => rfl

theorem Even.append (new : news.Even listener) (old : annals.Even listener) :
    Even listener (news ++ annals) := fun event => by
  rw [timesTold_append, timesHeard_append, new, old]

theorem Even.of_silent (silent : moment.toldTo? listener = none)
    (deaf : moment.heardBy? listener = none) : Even listener [moment] := fun event => by
  rw [timesTold_cons, timesHeard_cons, silent, deaf]
  rfl

theorem Due.later (due : annals.Due listener event) (even : news.Even listener) :
    Due listener event (news ++ annals) := by
  obtain ⟨between, listeners, teller, early, rfl, among, level⟩ := due
  exact ⟨news ++ between, listeners, teller, early, by simp, among, even.append level⟩

theorem Due.owed (due : annals.Due listener event) (regular : annals.Regular) :
    annals.timesHeard listener event < annals.timesTold listener event := by
  obtain ⟨between, listeners, teller, early, rfl, among, level⟩ := due
  have before : early.timesHeard listener event ≤ early.timesTold listener event :=
    regular.paid ((List.suffix_cons _ _).trans (List.suffix_append _ _)) listener event
  have since := level event
  have told : (Moment.told event listeners teller).toldTo? listener = some event := if_pos among
  have deaf : (Moment.told event listeners teller).heardBy? listener = none := rfl
  rw [timesHeard_append, timesTold_append, timesHeard_cons, timesTold_cons, told, deaf]
  simp only [reduceCtorEq, if_false, if_true]
  omega

namespace Taken

variable {listeners : List Listener}

theorem nil (event : ConnectionEvent) : Taken [] event [] := fun _ _ => rfl

theorem heard (even : ∀ other, annals.Even other) :
    Taken [listener] event (.heard listener event :: annals) := fun other more => by
  rw [timesHeard_cons, timesTold_cons, even other more]
  simp only [Moment.heardBy?_heard, Moment.toldTo?, List.mem_singleton, reduceCtorEq, if_false,
    Nat.add_zero]

theorem append_even (taken : annals.Taken listeners event) (even : ∀ other, news.Even other) :
    Taken listeners event (news ++ annals) := fun other more => by
  rw [timesHeard_append, timesTold_append, taken other more, even other more, Nat.add_assoc]

theorem even (taken : annals.Taken listeners event) (other : listener ∉ listeners) :
    annals.Even listener := fun more => by
  rw [taken listener more, if_neg fun among => other among.1, Nat.add_zero]

theorem cons (first : annals.Taken [listener] event) (rest : news.Taken listeners event)
    (apart : listener ∉ listeners) : Taken (listener :: listeners) event (news ++ annals) := by
  intro other more
  have one := first other more
  have two := rest other more
  rw [timesHeard_append, timesTold_append, one, two]
  by_cases who : other = listener
  · simp only [who, apart, List.mem_cons, true_or, false_and, true_and, if_false]
    omega
  · simp only [who, List.mem_cons, List.not_mem_nil, or_false, false_or, false_and, if_false]
    omega

theorem told {teller : Connection} (taken : annals.Taken listeners event) (other : Listener) :
    Even other (annals ++ [.told event listeners teller]) := fun more => by
  have none : timesTold [] other more = timesHeard [] other more := Even.nil other more
  rw [timesTold_append, timesHeard_append, taken other more, timesTold_cons, timesHeard_cons, none]
  simp only [Moment.toldTo?_told, Moment.heardBy?, reduceCtorEq, if_false]
  omega

end Taken

namespace Regular

theorem nil : Regular [] where
  paid before _ _ := by
    rw [List.suffix_nil.mp before]
    exact Nat.le_refl _
  called {late _ _ _} here := by
    cases late <;> cases here

theorem cons (regular : annals.Regular) (now : ∀ listener event,
      timesHeard (moment :: annals) listener event ≤ timesTold (moment :: annals) listener event)
    (turn : ∀ listener event, moment = .heard listener event → annals.Due listener event) :
    Regular (moment :: annals) where
  paid before := by
    rcases List.suffix_cons_iff.mp before with rfl | old
    · exact now
    · exact regular.paid old
  called {late early listener event} here := by
    cases late with
    | nil =>
      obtain ⟨rfl, rfl⟩ := List.cons.inj here
      exact turn listener event rfl
    | cons latest late => exact regular.called (List.cons.inj here).2

theorem unheard (regular : annals.Regular) (deaf : ∀ listener, moment.heardBy? listener = none) :
    Regular (moment :: annals) := by
  refine regular.cons (fun listener event => ?_) fun listener event here => ?_
  · have before := regular.paid (List.suffix_refl _) listener event
    rw [timesHeard_cons, timesTold_cons, deaf]
    simp only [reduceCtorEq, if_false]
    exact Nat.le_add_right_of_le before
  · have none := deaf listener
    rw [here, Moment.heardBy?, if_pos rfl] at none
    cases none

theorem hearing (regular : annals.Regular) (due : annals.Due listener event) :
    Regular (.heard listener event :: annals) := by
  refine regular.cons (fun other more => ?_) fun other more here => ?_
  · have before := regular.paid (List.suffix_refl _) other more
    rw [timesHeard_cons, timesTold_cons]
    simp only [Moment.heardBy?_heard, Moment.toldTo?, reduceCtorEq, if_false]
    split
    · rename_i same
      obtain ⟨rfl, rfl⟩ := same
      exact due.owed regular
    · exact before
  · cases here
    exact due

end Regular
end Annals

namespace System

structure Fair (serial : Nat) (system : System Diary) : Prop where
  single : (system.connection (.issued serial)).listeners.Nodup
  regular : (system.annals serial).Regular

def Evens (serial : Nat) (before after : System Diary) : Prop :=
  ∃ news : Annals, after.annals serial = news ++ before.annals serial ∧
    ∀ listener, news.Even listener

end System

def fairness (serial : Nat) : Law Diary where
  holds := System.Fair serial
  leads := System.Evens serial
  refl _ := ⟨[], rfl, .nil⟩
  trans first second := by
    obtain ⟨old, one, before⟩ := first
    obtain ⟨new, two, after⟩ := second
    exact ⟨new ++ old, by rw [two, one, List.append_assoc],
      fun listener => (after listener).append (before listener)⟩

namespace Act

variable {serial : Nat} {wiring : Wiring Diary} {system : System Diary}

theorem fair_of_annals {after : System Diary} (annals : after.annals serial = system.annals serial)
    (single : (after.connection (.issued serial)).listeners.Nodup)
    (holds : (fairness serial).holds system) :
    (fairness serial).holds after ∧ (fairness serial).leads system after := by
  exact ⟨⟨single, annals ▸ holds.regular⟩, [], annals, .nil⟩

theorem fair_apart {before after : System Diary} (apart : before.SameConnections after)
    (holds : (fairness serial).holds before) :
    (fairness serial).holds after ∧ (fairness serial).leads before after := by
  have same := apart.dossier serial
  refine fair_of_annals (congrArg Dossier.annals same) ?_ holds
  rw [show after.connection (.issued serial) = _ from congrArg Dossier.call same]
  exact holds.single

theorem fair_note {moment : Moment} {after : System Diary}
    (annals : after.annals serial = moment :: system.annals serial)
    (silent : ∀ listener, moment.toldTo? listener = none)
    (deaf : ∀ listener, moment.heardBy? listener = none)
    (single : (after.connection (.issued serial)).listeners.Nodup)
    (holds : (fairness serial).holds system) :
    (fairness serial).holds after ∧ (fairness serial).leads system after := by
  exact ⟨⟨single, annals ▸ holds.regular.unheard deaf⟩, [moment], annals,
    fun listener => .of_silent (silent listener) (deaf listener)⟩

theorem single_revise (id : ConnectionId) {change : Connection → Connection}
    (fewer : ∀ call, (change call).listeners.Sublist call.listeners)
    (single : (system.connection (.issued serial)).listeners.Nodup) :
    ((system.reviseConnection id change).connection (.issued serial)).listeners.Nodup := by
  rw [System.connection_reviseConnection]
  split
  · rename_i here
    rw [← here.1]
    exact single.sublist (fewer _)
  · exact single

theorem fair_revise (id : ConnectionId) {change : Connection → Connection}
    (keepsEnd : Connection.KeepsEnd change) : (revise id change).Obeys (fairness serial) wiring :=
      by
  intro system holds
  rw [ensures_revise]
  refine fair_of_annals ?_ (single_revise id keepsEnd.listeners holds.single) holds
  rw [System.annals, System.reviseConnection_outside]
  rfl

theorem fair_glance : glance.Obeys (fairness serial) wiring := by
  intro system holds
  rw [ensures_glance]
  have single : ((system.withEntry (.view system.connections)).connection
      (.issued serial)).listeners.Nodup := holds.single
  by_cases known : system.Known (.issued serial)
  · exact fair_note (congrArg Dossier.annals (System.dossier_view known)) (fun _ => rfl)
      (fun _ => rfl) single holds
  · exact fair_of_annals (System.annals_view_of_not_known known) single holds

theorem fair_elsewhere {id : ConnectionId} (differ : id ≠ .issued serial) (moment : Moment) :
    (enterDiary (.item id moment)).Obeys (fairness serial) wiring := by
  intro system holds
  rw [ensures_enterDiary]
  exact fair_of_annals (congrArg Dossier.annals (System.dossier_item_other differ moment))
    holds.single holds

theorem fair_item (id : ConnectionId) {moment : Moment}
    (silent : ∀ listener, moment.toldTo? listener = none)
    (deaf : ∀ listener, moment.heardBy? listener = none) :
    (enterDiary (.item id moment)).Obeys (fairness serial) wiring := by
  by_cases same : id = .issued serial
  · intro system holds
    rw [ensures_enterDiary, same]
    exact fair_note (congrArg Dossier.annals (System.dossier_item moment)) silent deaf
      holds.single holds
  · exact fair_elsewhere same moment

theorem fair_create (params : CallParameters) :
    (create params).Obeys (fairness serial) wiring := by
  intro system holds
  simp only [create, ensures_bind, ensures_get, ensures_modify, ensures_pure]
  refine fair_of_annals rfl ?_ holds
  rw [System.connection_append]
  split
  · exact .nil
  · exact holds.single

theorem fair_addListener (id : ConnectionId) (listener : Listener) :
    (Move.addListener id listener).kept.Obeys (fairness serial) wiring := by
  rw [Move.kept, Move.record]
  refine .bind (.bind fair_glance fun _ => .bind .get fun now => ?_) fun _ => ?_
  · dsimp only
    split
    · exact fair_item id (fun _ => rfl) fun _ => rfl
    · exact .pure _
  · intro system holds
    rw [ensures_addListener]
    split
    · exact ⟨holds, (fairness serial).refl _⟩
    · rename_i new
      refine fair_of_annals ?_ ?_ holds
      · rw [System.annals, System.reviseConnection_outside]
        rfl
      · rw [System.connection_reviseConnection]
        split
        · rename_i here
          rw [← here.1] at new ⊢
          refine List.nodup_append.mpr ⟨holds.single, List.pairwise_singleton _ _, ?_⟩
          rintro other among _ last rfl
          exact new (List.contains_iff_mem.mpr (List.mem_singleton.mp last ▸ among))
        · exact holds.single

theorem fair_removeListener (id : ConnectionId) (listener : Listener) :
    (Move.removeListener id listener).kept.Obeys (fairness serial) wiring := by
  rw [Move.kept, Move.record]
  refine .bind (.bind fair_glance fun _ => fair_item id (fun _ => rfl) fun _ => rfl) fun _ => ?_
  refine .bind
    (.bind (.look id) fun call => .bind (fair_revise id ⟨fun given => given, fun _ => ?_⟩)
    fun _ => .pure _) fun _ => .pure _
  exact List.filter_sublist

end Act

structure Wiring.Fair (wiring : Wiring Diary) (serial : Nat) : Prop where
  notify (id : ConnectionId) (event : ConnectionEvent) :
    (Act.notify id event).Obeys (fairness serial) wiring
  bridged : Act.bridged.Obeys (fairness serial) wiring

theorem Wiring.Fair.governs {serial : Nat} {wiring : Wiring Diary} (fair : wiring.Fair serial) :
    (fairness serial).Governs wiring where
  apart := Act.fair_apart
  handles id := Law.handles_of_keepsEnd Act.fair_apart (Act.fair_revise id) (fair.notify id)
  glance := Act.fair_glance
  create := Act.fair_create
  addListener := Act.fair_addListener
  removeListener := Act.fair_removeListener
  bridged := fair.bridged

namespace Wiring

variable {serial : Nat} {hear : String → ConnectionId → ConnectionEvent → Habit Diary}
  {bridged : Habit Diary} {wiring : Wiring Diary}

section
variable {bystanders : Bystanders Diary} {event : ConnectionEvent} {system : System Diary}
  (obeys : ∀ listener,
    (bystanders.tellOne (.issued serial) event listener).Obeys (fairness serial) wiring)
include obeys

theorem fair_turn {listener : Listener} (holds : (fairness serial).holds system)
    (due : (system.annals serial).Due listener event) :
    (bystanders.turn (.issued serial) event listener).Ensures wiring system fun _ after =>
      (fairness serial).holds after ∧ ∃ news : Annals,
        after.annals serial = news ++ system.annals serial ∧ news.Taken [listener] event := by
  refine Act.fair_glance.thenEnsures holds fun _ looked holds ⟨sights, seen, quiet⟩ => ?_
  let heard := looked.withEntry (.item (.issued serial) (.heard listener event))
  have annals : heard.annals serial = .heard listener event :: looked.annals serial :=
    congrArg Dossier.annals (System.dossier_item _)
  have still : (looked.annals serial).Due listener event := seen ▸ due.later (quiet listener)
  have fair : (fairness serial).holds heard := ⟨holds.single, annals ▸ holds.regular.hearing still⟩
  rw [Act.ensures_bind, Act.ensures_enterDiary]
  refine (obeys listener heard fair).mono fun _ after ⟨fine, news, more, even⟩ => ⟨fine, ?_⟩
  refine ⟨news ++ .heard listener event :: sights, by simp [more, annals, seen], ?_⟩
  exact (Annals.Taken.heard quiet).append_even even

theorem fair_turns {listeners : List Listener} (single : listeners.Nodup)
    (holds : (fairness serial).holds system)
    (due : ∀ listener ∈ listeners, (system.annals serial).Due listener event) :
    (listeners.forM (bystanders.turn (.issued serial) event)).Ensures wiring system fun _ after =>
      (fairness serial).holds after ∧ ∃ news : Annals,
        after.annals serial = news ++ system.annals serial ∧ news.Taken listeners event := by
  induction listeners generalizing system with
  | nil =>
    rw [List.forM, Act.ensures_pure]
    exact ⟨holds, [], rfl, .nil event⟩
  | cons listener rest ih =>
    obtain ⟨apart, single⟩ := List.nodup_cons.mp single
    rw [List.forM, Act.ensures_bind]
    refine (fair_turn obeys holds (due listener List.mem_cons_self)).mono ?_
    rintro _ told ⟨fine, old, first, one⟩
    have later (other : Listener) (among : other ∈ rest) :
        (told.annals serial).Due other event := by
      have differ : other ∉ [listener] := fun same => apart (List.mem_singleton.mp same ▸ among)
      exact first ▸ (due other (List.mem_cons_of_mem _ among)).later (one.even differ)
    refine (ih single fine later).mono ?_
    rintro _ after ⟨last, new, more, others⟩
    exact ⟨last, new ++ old, by simp [more, first], one.cons others apart⟩

end

theorem fair_zero (bystanders : Bystanders Diary) : (kept bystanders 0).Fair serial where
  notify _ _ := by
    intro system _
    rw [Act.ensures_notify, Act.ensures_tell]
    intro after run
    cases run
  bridged := by
    intro _ _ _ _ run
    cases run

theorem fair_succ {rounds : Nat} (fair : (kept (.diarists hear bridged) rounds).Fair serial) :
    (kept (.diarists hear bridged) (rounds + 1)).Fair serial := by
  have abide := fair.governs.abide hear bridged
  have obeys (id : ConnectionId) (event : ConnectionEvent) (listener : Listener) :
      ((Bystanders.diarists hear bridged).tellOne id event listener).Obeys (fairness serial)
        (kept (.diarists hear bridged) rounds) := obeys_tellOne abide id trivial listener
  refine ⟨fun id event => ?_, ?_⟩
  · intro system holds
    rw [ensures_notify_kept]
    by_cases same : id = .issued serial
    · rw [same, Bystanders.telling, Act.ensures_bind, Act.ensures_look, Act.ensures_bind,
        Act.ensures_enterDiary]
      let told := system.withEntry (.item (.issued serial) (.told event
        (system.connection (.issued serial)).listeners (system.connection (.issued serial))))
      have annals : told.annals serial = .told event
          (system.connection (.issued serial)).listeners (system.connection (.issued serial)) ::
            system.annals serial := congrArg Dossier.annals (System.dossier_item _)
      have begins : (fairness serial).holds told :=
        ⟨holds.single, annals ▸ holds.regular.unheard fun _ => rfl⟩
      refine (fair_turns (obeys _ event) holds.single begins fun listener among =>
        ⟨[], _, _, _, annals, among, .nil listener⟩).mono ?_
      rintro _ after ⟨fine, news, more, taken⟩
      exact ⟨fine, news ++ [.told event (system.connection (.issued serial)).listeners
        (system.connection (.issued serial))], by simp [more, annals], taken.told⟩
    · have turns (listener : Listener) :
          ((Bystanders.diarists hear bridged).turn id event listener).Obeys (fairness serial)
            (kept (.diarists hear bridged) rounds) :=
        .bind Act.fair_glance fun _ => .bind (Act.fair_elsewhere same _) fun _ =>
          obeys id event listener
      exact Act.Obeys.bind (.look id) (fun _ => .bind (Act.fair_elsewhere same _) fun _ =>
        .forM _ fun listener _ => turns listener) system holds
  · intro system holds value after run
    exact abide.bridged system holds value after run

theorem fair_kept (rounds : Nat) : (kept (.diarists hear bridged) rounds).Fair serial := by
  induction rounds with
  | zero => exact fair_zero _
  | succ rounds ih => exact fair_succ ih

end Wiring

theorem Move.fair_run {serial : Nat}
    {hear : String → ConnectionId → ConnectionEvent → Habit Diary} {bridged : Habit Diary}
    {rounds : Nat} {moves : List Move} {start after : System Diary}
    (fresh : start.connections = []) (unwritten : start.outside = [])
    (runs : keptRun (.diarists hear bridged) rounds moves start = some after) :
    (after.annals serial).Regular ∧ ∀ listener, (after.annals serial).Even listener := by
  have strange : ¬ start.Known (.issued serial) := by
    simp [System.Known, fresh]
  have empty : start.annals serial = [] := by
    rw [System.annals, unwritten]
    rfl
  have holds : (fairness serial).holds start := by
    refine ⟨?_, empty ▸ .nil⟩
    rw [start.connection_of_not_known strange]
    exact .nil
  obtain ⟨fair, news, more, even⟩ := (Wiring.fair_kept rounds).governs.run holds runs
  rw [empty, List.append_nil] at more
  exact ⟨fair.regular, more ▸ even⟩

end Switchboard
