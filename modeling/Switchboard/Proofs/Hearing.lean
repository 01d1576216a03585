import Switchboard.Proofs.Traits

/-! What the exchange does when it hears of an event only ripples, and so does everything that
follows from it, at every depth of listening: `Wiring.ripples_level`. The steps that keep
conferences and verdicts ripple from any steady system; forgetting a connection does so when it
is destroyed, and dropping a redial sequence does when its owner became active or is
destroyed. -/

namespace Switchboard

namespace System

variable {ε : Type} (system : System ε) (id : ConnectionId)

def starting : System ε :=
  let outcome := system.registry.session.start id
  { system with
    registry := { system.registry with session := outcome.2 }
    journal := if outcome.1 then .called .cancelSelection :: system.journal else system.journal }

def finishing : System ε :=
  let outcome := system.registry.session.finish id
  { system with
    registry := { system.registry with session := outcome.2 }
    journal := if outcome.1 then .called .finishSelection :: system.journal else system.journal }

end System

namespace Act

variable {ε κ α β ι : Type}

def Rippling (step : Act ε α) (wiring : Wiring ε) (keep : ε → κ) : Prop :=
  ∀ system : System ε, system.Steady →
    step.Ensures wiring system fun _ after => Ripple keep system after

namespace Rippling

variable {wiring : Wiring ε} {keep : ε → κ}

theorem pure (value : α) : Rippling (pure value : Act ε α) wiring keep := by
  intro system _
  rw [ensures_pure]
  exact Ripple.refl system

theorem bind {step : Act ε α} {next : α → Act ε β} (first : step.Rippling wiring keep)
    (rest : ∀ value, (next value).Rippling wiring keep) :
    (step >>= next).Rippling wiring keep := by
  intro system calm
  rw [ensures_bind]
  refine (first system calm).mono fun value middle ripple => ?_
  exact (rest value middle (ripple.steady calm)).mono fun _ _ more => ripple.trans more

theorem get : Rippling (get : Act ε (System ε)) wiring keep := by
  intro system _
  rw [ensures_get]
  exact Ripple.refl system

theorem look (id : ConnectionId) : (look id).Rippling wiring keep :=
  bind get fun _ => pure _

theorem modify {change : System ε → System ε}
    (ripples : ∀ system, Ripple keep system (change system)) :
    Rippling (modify change) wiring keep := by
  intro system _
  rw [ensures_modify]
  exact ripples system

def trait (wiring : Wiring ε) (keep : ε → κ) : Trait ε where
  has step := step.Rippling wiring keep
  pure := pure
  bind := bind
  get := get
  failure := fun _ _ => ensures_failure _

end Rippling

theorem ensures_startSelection {wiring : Wiring ε} {system : System ε} (id : ConnectionId)
    (goal : Unit → System ε → Prop) :
    (startSelection id).Ensures wiring system goal ↔ goal () (system.starting id) := by
  rw [startSelection, ensures_bind, ensures_get, System.starting]
  generalize system.registry.session.start id = outcome
  obtain ⟨cancels, session⟩ := outcome
  rw [ensures_bind, ensures_reviseRegistry]
  cases cancels
  · exact ensures_pure _ _
  · exact ensures_write _ _

theorem ensures_finishSelection {wiring : Wiring ε} {system : System ε} (id : ConnectionId)
    (goal : Unit → System ε → Prop) :
    (finishSelection id).Ensures wiring system goal ↔ goal () (system.finishing id) := by
  rw [finishSelection, ensures_bind, ensures_get, System.finishing]
  generalize system.registry.session.finish id = outcome
  obtain ⟨finishes, session⟩ := outcome
  rw [ensures_bind, ensures_reviseRegistry]
  cases finishes
  · exact ensures_pure _ _
  · exact ensures_write _ _

theorem ripple_finishSelection (wiring : Wiring ε) (keep : ε → κ) {id : ConnectionId}
    {system : System ε} (gone : (system.connection id).destroyed = true) :
    (finishSelection id).Ensures wiring system fun _ after => Ripple keep system after := by
  rw [ensures_finishSelection, System.finishing, SelectionSession.finish]
  split
  · rename_i own
    refine { Ripple.refl system with
      retry := .inl rfl, session := .inr ⟨rfl, fun owner had => ?_⟩, journal := ?_, requests := ?_ }
    · obtain rfl : owner = id := by simpa [SelectionSession.isActiveFor, had] using own
      exact gone
    · exact fun _ old => List.mem_cons_of_mem _ old
    · exact List.filter_cons_of_neg (by simp [Entry.isRequest])
  · exact Ripple.refl system

theorem ripple_dropRetry (wiring : Wiring ε) (keep : ε → κ) {id : ConnectionId} {system : System ε}
    (done : (system.connection id).destroyed = true ∨ system.HeardActive id) :
    (dropRetry id).Ensures wiring system fun _ after => Ripple keep system after := by
  rw [dropRetry, ensures_reviseRegistry]
  refine { Ripple.refl system with retry := ?_ }
  dsimp only
  cases held : system.registry.retry with
  | none => exact .inl rfl
  | some queue =>
    by_cases own : queue.isFor true id = true
    · refine .inr ⟨by simp [Option.filter, own], fun other same => ?_⟩
      obtain rfl := Option.some.inj same
      have owner : queue.owner = id := by
        simpa [RetryQueue.isFor] using own
      rw [owner]
      exact done
    · exact .inl (by simp [Option.filter, own])

section
variable {wiring : Wiring ε} {keep : ε → κ} (rippling : wiring.Ripples keep)
include rippling

theorem rippling_notify (id : ConnectionId) {event : ConnectionEvent}
    (plain : event.isPlain = true) (open' : event ≠ .destroyed) :
    (notify id event).Rippling wiring keep := by
  intro system calm
  exact ripple_notify rippling calm ⟨plain, fun final => absurd final open'⟩

theorem rippling_setHoldAllowed (id : ConnectionId) (allowed : Bool) :
    (setHoldAllowed id allowed).Rippling wiring keep := by
  refine .bind (.look id) fun call => ?_
  split
  · exact .pure _
  · refine .bind (.modify fun system => Ripple.of_revise system id _ rfl) fun _ => ?_
    exact fun _ => ripple_update_steady rippling

theorem rippling_setConference (id : ConnectionId) (conference : Option ConferenceId) :
    (setConference id conference).Rippling wiring keep := by
  refine .bind (.look id) fun call => ?_
  split
  · exact .pure _
  · refine .bind (.modify fun system => Ripple.of_revise system id _ rfl) fun _ => ?_
    refine .bind (rippling_notify rippling id rfl nofun) fun _ => ?_
    exact fun _ => ripple_update_steady rippling

theorem rippling_arranges : (Rippling.trait wiring keep).Arranges where
  regroup regroups := .modify fun system => by
    rw [regroups system]
    exact Ripple.of_conferences system ..
  created _ := .modify fun system => Ripple.of_conferences system ..
  removed _ := .modify fun system => Ripple.of_conferences system ..
  setHoldAllowed := rippling_setHoldAllowed rippling
  setConference := rippling_setConference rippling

theorem rippling_track (entity : Holdable) : (track entity).Rippling wiring keep :=
  (rippling_arranges rippling).track entity

theorem ripple_unregister {id : ConnectionId} {system : System ε} (calm : system.Steady)
    (gone : (system.connection id).destroyed = true) :
    (unregister id).Ensures wiring system fun _ after => Ripple keep system after := by
  simp only [unregister, ensures_bind, ensures_get]
  split
  · rw [ensures_bind, ensures_reviseRegistry, ensures_bind]
    have forgotten := @Ripple.of_forgotten ε κ keep system id
      (system.registry.roles.release id).2 gone
    refine (ripple_dropRetry wiring keep (.inl (forgotten.destroyed id ▸ gone))).mono
      fun _ next dropped => ?_
    have sofar := forgotten.trans dropped
    rw [ensures_bind, ensures_get]
    have rest : Rippling (do
        untrack (.connection id)
        recalculate
        announce (.connectionRemoved id)) wiring keep := by
      refine .bind ((rippling_arranges rippling).untrack _) fun _ => ?_
      refine .bind (rippling_arranges rippling).recalculate fun _ => ?_
      exact .modify fun system => Ripple.of_conferences system _ _ _ _ _
    split
    · rw [ensures_bind]
      refine (ripple_finishSelection wiring keep (sofar.destroyed id ▸ gone)).mono
        fun _ last finished => ?_
      have sofar := sofar.trans finished
      exact (rest last (sofar.steady calm)).mono fun _ _ more => sofar.trans more
    · exact (rest next (sofar.steady calm)).mono fun _ _ more => sofar.trans more
  · rw [ensures_pure]
    exact Ripple.refl system

theorem ripple_attend {id : ConnectionId} {event : ConnectionEvent} {system : System ε}
    (calm : system.Steady) (fits : event.Fits system id)
    (heard : .heard .exchange id event ∈ system.journal) :
    (attend id event).Ensures wiring system fun _ after => Ripple keep system after := by
  have nothing : (pure ⟨⟩ : Act ε PUnit).Ensures wiring system fun _ after =>
      Ripple keep system after := by
    rw [ensures_pure]
    exact Ripple.refl system
  cases event with
  | stateChanged old new =>
    simp only [attend]
    split
    · rename_i active
      obtain rfl := eq_of_beq active
      rw [ensures_bind]
      refine (ripple_dropRetry wiring keep (.inr ⟨old, heard⟩)).mono fun _ next dropped => ?_
      exact ((rippling_arranges rippling).recalculate next (dropped.steady calm)).mono
        fun _ _ more => dropped.trans more
    · exact (rippling_arranges rippling).recalculate system calm
  | propertiesChanged props => exact (rippling_arranges rippling).recalculate system calm
  | conferenceChanged conference => exact (rippling_arranges rippling).passVerdicts system calm
  | redialRequested phone permanent => cases fits.plain
  | reselectionRequested cause code => cases fits.plain
  | destroyed => exact ripple_unregister rippling calm (fits.final rfl)
  | _ => exact nothing

end
end Act

/-- Observers that only observe: they change nothing but their own part of the world, which
`keep` does not look at. -/
structure Bystanders.Observe {ε κ : Type} (bystanders : Bystanders ε) (keep : ε → κ) : Prop where
  hear (name : String) (id : ConnectionId) (event : ConnectionEvent) (wiring : Wiring ε)
    (system : System ε) : (bystanders.hear name id event).Ensures wiring system fun _ after =>
      ∃ outside, keep outside = keep system.outside ∧ after = { system with outside }
  bridged (wiring : Wiring ε) (system : System ε) :
    bystanders.bridged.Ensures wiring system fun _ after =>
      ∃ outside, keep outside = keep system.outside ∧ after = { system with outside }

namespace Bystanders

variable {ε κ : Type}

/-- Nobody looks on. -/
def silent : Bystanders ε where
  hear _ _ _ := pure ()
  bridged := pure ()

theorem observe_silent (keep : ε → κ) : (silent : Bystanders ε).Observe keep where
  hear _ _ _ _ system := by
    rw [silent, Act.ensures_pure]
    exact ⟨system.outside, rfl, rfl⟩
  bridged _ system := by
    rw [silent, Act.ensures_pure]
    exact ⟨system.outside, rfl, rfl⟩

end Bystanders

namespace Wiring

variable {ε κ : Type} {bystanders : Bystanders ε} {keep : ε → κ}

theorem ripple_tellOne (observe : bystanders.Observe keep) {wiring : Wiring ε}
    (rippling : wiring.Ripples keep) {id : ConnectionId} {event : ConnectionEvent}
    {system : System ε} (calm : system.Steady) (fits : event.Fits system id)
    (listener : Listener) :
    (bystanders.tellOne id event listener).Ensures wiring system fun _ after =>
      Ripple keep system after := by
  have written : Ripple keep system
      { system with journal := .heard listener id event :: system.journal } :=
    Ripple.of_written system (by simp [Entry.isRequest, fits.plain])
  unfold Bystanders.tellOne
  rw [Act.ensures_bind, Act.ensures_write]
  cases listener with
  | recorder =>
    rw [Act.ensures_pure]
    exact written
  | exchange =>
    refine (Act.ripple_attend rippling (written.steady calm) ⟨fits.plain, fits.final⟩
      List.mem_cons_self).mono fun _ _ more => written.trans more
  | observer name =>
    refine (observe.hear name id event _ _).mono fun _ after own => ?_
    obtain ⟨outside, kept, rfl⟩ := own
    exact written.trans (Ripple.of_outside _ kept)

/-- However deep listeners call each other, telling of events that fit only ripples. -/
theorem ripples_level (observe : bystanders.Observe keep) (rounds : Nat) :
    (level bystanders rounds).Ripples keep := by
  induction rounds with
  | zero =>
    constructor
    · intro _ _ _ _ _ _ _ run
      cases run
    · intro _ _ run
      cases run
  | succ rounds ih =>
    constructor
    · intro listeners id event before after calm fits run
      have all : (listeners.forM (bystanders.tellOne id event)).Ensures (level bystanders rounds)
          before fun _ after => Ripple keep before after := by
        refine Act.ensures_forM (Ripple keep before) listeners (fun listener _ next sofar => ?_)
          (Ripple.refl before)
        refine (ripple_tellOne observe ih (sofar.steady calm) ⟨fits.plain, fun final => ?_⟩
          listener).mono fun _ _ more => sofar.trans more
        exact sofar.destroyed id ▸ fits.final final
      exact all ⟨⟩ after run
    · intro before after run
      obtain ⟨outside, kept, rfl⟩ := observe.bridged _ before ⟨⟩ after run
      exact Ripple.of_outside before kept

end Wiring
end Switchboard
