import Switchboard.Proofs.Frames

/-! What holds when a step is over. `Act.Ensures` speaks about the result and the system after a
step and is taken apart along the step: one equation for each way to build a step. A step that
has no result ensures everything. -/

namespace Switchboard.Act

variable {ε α β κ : Type} {wiring : Wiring ε} {system : System ε}

def Ensures (step : Act ε α) (wiring : Wiring ε) (system : System ε)
    (goal : α → System ε → Prop) : Prop :=
  ∀ value after, step wiring system = some (value, after) → goal value after

theorem Ensures.mono {step : Act ε α} {goal weaker : α → System ε → Prop}
    (holds : step.Ensures wiring system goal)
    (weaken : ∀ value after, goal value after → weaker value after) :
    step.Ensures wiring system weaker := by
  intro value after run
  exact weaken value after (holds value after run)

theorem bind_run (step : Act ε α) (next : α → Act ε β) :
    (step >>= next) wiring system =
      (step wiring system).bind fun outcome => next outcome.1 wiring outcome.2 := rfl

theorem run_eq_of_ensures {first second : Act ε α} {middle : System ε}
    (same : ∀ goal, first.Ensures wiring system goal ↔ second.Ensures wiring middle goal) :
    first wiring system = second wiring middle := by
  have forth := (same fun value after => second wiring middle = some (value, after)).mpr
    fun _ _ run => run
  have back := (same fun value after => first wiring system = some (value, after)).mp
    fun _ _ run => run
  cases left : first wiring system with
  | some outcome => exact (forth _ _ left).symm
  | none =>
    cases right : second wiring middle with
    | none => rfl
    | some outcome => exact left.symm.trans (back _ _ right)

@[simp] theorem ensures_pure (value : α) (goal : α → System ε → Prop) :
    Ensures (pure value) wiring system goal ↔ goal value system := by
  constructor
  · intro holds
    exact holds _ _ rfl
  · rintro holds _ _ ⟨⟩
    exact holds

@[simp] theorem ensures_bind (step : Act ε α) (next : α → Act ε β)
    (goal : β → System ε → Prop) :
    Ensures (step >>= next) wiring system goal ↔
      step.Ensures wiring system fun value after => (next value).Ensures wiring after goal := by
  constructor
  · intro holds value after run result final rest
    apply holds result final
    rw [bind_run, run]
    exact rest
  · intro holds result final run
    rw [bind_run] at run
    obtain ⟨⟨value, after⟩, first, rest⟩ := Option.bind_eq_some_iff.mp run
    exact holds value after first result final rest

theorem ensures_map (change : α → β) (step : Act ε α) (goal : β → System ε → Prop) :
    Ensures (change <$> step) wiring system goal ↔
      step.Ensures wiring system fun value after => goal (change value) after := by
  rw [map_eq_pure_bind, ensures_bind]
  simp only [ensures_pure]

@[simp] theorem ensures_get (goal : System ε → System ε → Prop) :
    Ensures get wiring system goal ↔ goal system system := by
  constructor
  · intro holds
    exact holds _ _ rfl
  · rintro holds _ _ ⟨⟩
    exact holds

@[simp] theorem ensures_set (next : System ε) (goal : PUnit → System ε → Prop) :
    Ensures (set next) wiring system goal ↔ goal ⟨⟩ next := by
  constructor
  · intro holds
    exact holds _ _ rfl
  · rintro holds _ _ ⟨⟩
    exact holds

@[simp] theorem ensures_read (goal : Wiring ε → System ε → Prop) :
    Ensures read wiring system goal ↔ goal wiring system := by
  constructor
  · intro holds
    exact holds _ _ rfl
  · rintro holds _ _ ⟨⟩
    exact holds

@[simp] theorem ensures_modify (change : System ε → System ε) (goal : PUnit → System ε → Prop) :
    Ensures (modify change) wiring system goal ↔ goal ⟨⟩ (change system) := by
  constructor
  · intro holds
    exact holds _ _ rfl
  · rintro holds _ _ ⟨⟩
    exact holds

@[simp] theorem ensures_failure (goal : α → System ε → Prop) :
    Ensures failure wiring system goal := by
  intro _ _ run
  cases run

@[simp] theorem ensures_look (id : ConnectionId) (goal : Connection → System ε → Prop) :
    Ensures (look id) wiring system goal ↔ goal (system.connection id) system := by
  simp only [look, ensures_bind, ensures_get, ensures_pure]

@[simp] theorem ensures_revise (id : ConnectionId) (change : Connection → Connection)
    (goal : PUnit → System ε → Prop) :
    Ensures (revise id change) wiring system goal ↔
      goal ⟨⟩ (system.reviseConnection id change) :=
  ensures_modify _ _

theorem ensures_revise_as {id : ConnectionId} {change : Connection → Connection}
    (instead : Connection → Connection) {goal : PUnit → System ε → Prop}
    (same : change (system.connection id) = instead (system.connection id)) :
    Ensures (revise id change) wiring system goal ↔
      goal ⟨⟩ (system.reviseConnection id instead) := by
  rw [ensures_revise, system.reviseConnection_congr same]

@[simp] theorem ensures_rounds (goal : Nat → System ε → Prop) :
    Ensures rounds wiring system goal ↔ goal wiring.rounds system := by
  simp only [rounds, ensures_bind, ensures_read, ensures_pure]

@[simp] theorem ensures_write (entry : Entry) (goal : PUnit → System ε → Prop) :
    Ensures (write entry) wiring system goal ↔
      goal ⟨⟩ { system with journal := entry :: system.journal } :=
  ensures_modify _ _

@[simp] theorem ensures_announce (notice : Notice) (goal : PUnit → System ε → Prop) :
    Ensures (announce notice) wiring system goal ↔
      goal ⟨⟩ { system with notices := notice :: system.notices } :=
  ensures_modify _ _

@[simp] theorem ensures_signal (news : Signal) (goal : PUnit → System ε → Prop) :
    Ensures (signal news) wiring system goal ↔
      goal ⟨⟩ { system with signals := system.signals ++ [news] } :=
  ensures_modify _ _

@[simp] theorem ensures_reviseRegistry (change : Registry → Registry)
    (goal : PUnit → System ε → Prop) :
    Ensures (reviseRegistry change) wiring system goal ↔
      goal ⟨⟩ { system with registry := change system.registry } :=
  ensures_modify _ _

@[simp] theorem ensures_reviseDevice (change : Device → Device)
    (goal : PUnit → System ε → Prop) :
    Ensures (reviseDevice change) wiring system goal ↔
      goal ⟨⟩ { system with device := change system.device } :=
  ensures_modify _ _

@[simp] theorem ensures_reviseOutside (change : ε → ε) (goal : PUnit → System ε → Prop) :
    Ensures (reviseOutside change) wiring system goal ↔
      goal ⟨⟩ { system with outside := change system.outside } :=
  ensures_modify _ _

theorem ensures_tell (listeners : List Listener) (id : ConnectionId) (event : ConnectionEvent)
    (goal : PUnit → System ε → Prop) :
    Ensures (tell listeners id event) wiring system goal ↔
      ∀ after, wiring.tell listeners id event system = some (⟨⟩, after) → goal ⟨⟩ after := by
  constructor
  · intro holds after run
    exact holds _ _ run
  · rintro holds ⟨⟩ after run
    exact holds after run

theorem ensures_notify (id : ConnectionId) (event : ConnectionEvent)
    (goal : PUnit → System ε → Prop) :
    Ensures (notify id event) wiring system goal ↔
      Ensures (tell (system.connection id).listeners id event) wiring system goal := by
  simp only [notify, ensures_bind, ensures_look]

theorem ensures_forM {work : κ → Act ε PUnit} (keeps : System ε → Prop) (items : List κ)
    (step : ∀ item ∈ items, ∀ system, keeps system →
      (work item).Ensures wiring system fun _ after => keeps after)
    (start : keeps system) :
    (items.forM work).Ensures wiring system fun _ after => keeps after := by
  induction items generalizing system with
  | nil =>
    rw [List.forM, ensures_pure]
    exact start
  | cons item rest ih =>
    rw [List.forM, ensures_bind]
    refine (step item (by simp) system start).mono fun _ after kept => ?_
    exact ih (fun other among => step other (by simp [among])) kept

end Switchboard.Act
