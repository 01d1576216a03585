import Switchboard.Proofs.Dials

/-! The steps that tasks take. A task takes only a few kinds of steps (`TaskStep`), whatever comes
of its waits (`Program.TakesOnly`): it looks at the system, ends calls, asks the world, and it
dials, moves and binds calls of its own. A call that it puts in the books is one that nothing
forbids at that moment, unless it is an emergency. -/

namespace Switchboard

variable {α β : Type}

/-- A step that a task may take when the system is like this. The calls that it dials for, moves to
other phones and binds are its `own`. -/
inductive TaskStep (own : ConnectionId → Prop) (system : System Chronicle) :
    {β : Type} → Act Chronicle β → Prop
  | get : TaskStep own system (get : Act Chronicle (System Chronicle))
  | look (id : ConnectionId) : TaskStep own system (Act.look id)
  | rounds : TaskStep own system Act.rounds
  | failure {β : Type} : TaskStep own system (failure : Act Chronicle β)
  | note {note : Note} (plain : note.isDialing = false) :
    TaskStep own system (Act.reviseOutside (note :: ·))
  | disconnect (id : ConnectionId) (info : DisconnectInfo) :
    TaskStep own system (Act.setDisconnected id info)
  | startSelection (id : ConnectionId) : TaskStep own system (Act.startSelection id)
  | finishSelection (id : ConnectionId) : TaskStep own system (Act.finishSelection id)
  | setSelectionActive (id : ConnectionId) (active : Bool) :
    TaskStep own system (Act.setSelectionActive id active)
  | nextPhone {id : ConnectionId} (mine : own id) (failed : PhoneId) (permanent : Bool) :
    TaskStep own system (Act.nextPhone id failed permanent)
  | reassign {id : ConnectionId} (mine : own id) (phone : PhoneId)
    (subscription : Option SubscriptionId) (technology : Technology) (carrier : CarrierConfig) :
    TaskStep own system (Act.reassign id phone subscription technology carrier)
  | bind {id : ConnectionId} (mine : own id) (leg : LegId) : TaskStep own system (Act.bind id leg)
  | dial {id : ConnectionId} {plan : DialPlan} (mine : own id)
    (held : system.planOf? id = some plan) (phone : PhoneId) (domain : Option Domain) :
    TaskStep own system (Act.reviseOutside
      (.asked (.dial id phone plan.dial (plan.args (system.connection id) domain)) :: ·))
  | enroll {request : CallRequest} {placement : Placement}
    (mine : own (.issued system.connections.length))
    (allowed : placement.number.emergency = false → system.prepare? request = .ok placement) :
    TaskStep own system (Act.enroll request placement)

theorem TaskStep.permitsNonDialing (own : ConnectionId → Prop) :
    Act.PermitsNonDialing fun step => ∀ system, TaskStep own system step where
  get _ := .get
  look id _ := .look id
  failure _ := .failure
  note routine _ := .note (Note.not_isDialing_of_isRoutine routine)
  disconnect id info _ := .disconnect id info
  ask plain _ := .note plain
  startSelection id _ := .startSelection id
  finishSelection id _ := .finishSelection id
  setSelectionActive id active _ := .setSelectionActive id active

theorem TaskStep.permits (own : ConnectionId → Prop) :
    Act.Permits fun step => ∀ system, TaskStep own system step :=
  (permitsNonDialing own).toPermits

structure Act.Seeks (id : ConnectionId)
    (good : System Chronicle → {β : Type} → Act Chronicle β → Prop) : Prop where
  permits : Act.Permits fun step => ∀ system, good system step
  rounds (system : System Chronicle) : good system rounds
  nextPhone (failed : PhoneId) (permanent : Bool) (system : System Chronicle) :
    good system (nextPhone id failed permanent)
  reassign (phone : PhoneId) (subscription : Option SubscriptionId) (technology : Technology)
    (carrier : CarrierConfig) (system : System Chronicle) :
    good system (reassign id phone subscription technology carrier)
  bind (leg : LegId) (system : System Chronicle) : good system (bind id leg)
  dial {plan : DialPlan} {system : System Chronicle} (held : system.planOf? id = some plan)
    (phone : PhoneId) (domain : Option Domain) :
    good system (reviseOutside
      (.asked (.dial id phone plan.dial (plan.args (system.connection id) domain)) :: ·))

structure Act.Chooses (id : ConnectionId)
    (good : System Chronicle → {β : Type} → Act Chronicle β → Prop) : Prop extends
    Act.Seeks id good where
  selects : Act.Selects id fun step => ∀ system, good system step

theorem TaskStep.chooses {own : ConnectionId → Prop} {id : ConnectionId} (mine : own id) :
    Act.Chooses id (TaskStep own) where
  permits := permits own
  rounds _ := .rounds
  nextPhone failed permanent _ := .nextPhone mine failed permanent
  reassign phone subscription technology carrier _ :=
    .reassign mine phone subscription technology carrier
  bind leg _ := .bind mine leg
  dial held phone domain := .dial mine held phone domain
  selects := (permitsNonDialing own).selects id

namespace Program

def TakesOnly (wiring : Wiring Chronicle) (good : System Chronicle → {β : Type} →
    Act Chronicle β → Prop)
    {α : Type} : Program Chronicle α → System Chronicle → Prop
  | .done _, _ => True
  | .act step next, system => good system step ∧
    step.Ensures wiring system fun value after => (next value).TakesOnly wiring good after
  | .wait _ next, _ => ∀ value after, (next value).TakesOnly wiring good after

namespace TakesOnly

variable {wiring : Wiring Chronicle}

section
variable {good : System Chronicle → {β : Type} → Act Chronicle β → Prop} {system : System Chronicle}

theorem pure (value : α) : (pure value : Program Chronicle α).TakesOnly wiring good system :=
  trivial

theorem bind {program : Program Chronicle α} {next : α → Program Chronicle β}
    (first : program.TakesOnly wiring good system)
    (rest : ∀ value after, (next value).TakesOnly wiring good after) :
    (program >>= next).TakesOnly wiring good system := by
  change (program.bind next).TakesOnly wiring good system
  induction program generalizing system with
  | done value => exact rest value system
  | act step more ih => exact ⟨first.1, first.2.mono fun value after goes => ih value goes⟩
  | wait pause more ih => exact fun value after => ih value (first value after)

theorem of_uses {program : Program Chronicle α}
    (uses : program.Uses fun step => ∀ system, good system step) (system : System Chronicle) :
    program.TakesOnly wiring good system := by
  induction program generalizing system with
  | done value => trivial
  | act step next ih =>
    exact ⟨uses.1 system, fun value after _ => ih value (uses.2 value) after⟩
  | wait pause next ih => exact fun value after => ih value (uses value) after

theorem atOnce {step : Act Chronicle α} (kind : good system step) :
    (Program.atOnce step).TakesOnly wiring good system :=
  ⟨kind, fun _ _ _ => trivial⟩

end

section
variable {good : System Chronicle → {β : Type} → Act Chronicle β → Prop} {id : ConnectionId}
  {system : System Chronicle}

section
variable (permits : Act.Permits fun step => ∀ system, good system step)
include permits

theorem look {next : System Chronicle → Program Chronicle α}
    (goes : (next system).TakesOnly wiring good system) :
    (Program.system >>= next).TakesOnly wiring good system := by
  refine ⟨permits.get system, ?_⟩
  rw [Act.ensures_get]
  exact goes

theorem isLive {next : Bool → Program Chronicle α}
    (goes : ∀ live after, (next live).TakesOnly wiring good after) :
    (Program.isLive id >>= next).TakesOnly wiring good system :=
  bind (of_uses (Uses.isLive permits id) _) goes

theorem disconnect (info : DisconnectInfo) :
    (Program.disconnect id info).TakesOnly wiring good system :=
  of_uses (Uses.disconnect permits id info) _

theorem gone : (Program.gone id).TakesOnly wiring good system :=
  of_uses (Uses.gone permits id) _

theorem fail (info : DisconnectInfo) : (Program.fail id info).TakesOnly wiring good system :=
  of_uses (Uses.fail permits id info) _

end

section
variable (seeks : Act.Seeks id good)
include seeks

theorem receive (answer : Except RadioError (Option LegId)) :
    (Program.receive id answer).TakesOnly wiring good system := by
  rcases answer with error | _ | leg
  · exact pure _
  · exact pure _
  · refine isLive seeks.permits fun live after => ?_
    cases live with
    | true => exact bind (atOnce (seeks.bind leg _)) fun _ _ => pure _
    | false =>
      exact bind (of_uses (Uses.hangupLeg seeks.permits leg) _) fun _ _ => pure _

theorem dialAndBind (slot : Slot) (domain : Option Domain) :
    (Program.dialAndBind openWorld id slot domain).TakesOnly wiring good system := by
  rw [dialAndBind_eq]
  refine look seeks.permits ?_
  cases held : system.planOf? id with
  | none => exact pure _
  | some plan =>
    refine look seeks.permits (bind ⟨seeks.permits.get _, ?_⟩ fun answer _ =>
      receive seeks answer.dialed)
    rw [Act.ensures_get]
    refine ⟨seeks.dial held _ domain, fun _ after _ => ?_⟩
    exact of_uses (Uses.expect seeks.permits _) after

theorem redialFrom (patience : Nat) (failed : PhoneId) (permanent : Bool) :
    (Program.redialFrom openWorld id patience failed permanent).TakesOnly wiring good system := by
  induction patience generalizing failed permanent system with
  | zero => exact atOnce (seeks.permits.failure _)
  | succ patience ih =>
    rw [Attempt.redialFrom_eq]
    refine isLive seeks.permits fun live now => ?_
    cases live with
    | false => exact pure _
    | true =>
      refine bind (atOnce (seeks.nextPhone failed permanent _)) fun next picked => ?_
      cases next with
      | none => exact disconnect seeks.permits _
      | some next =>
        refine look seeks.permits ?_
        dsimp only
        cases picked.device.slotOf? next with
        | none => exact ih _ _
        | some slot =>
          refine bind (atOnce (seeks.reassign _ _ _ _ _)) fun _ _ =>
            bind (dialAndBind seeks slot none) fun outcome _ => ?_
          rcases outcome with _ | _ | _ | error
          · exact pure _
          · exact disconnect seeks.permits _
          · exact pure _
          · rw [Attempt.conclude]
            split
            · exact disconnect seeks.permits _
            · exact ih _ _

end

section
variable (chooses : Act.Chooses id good)
include chooses

theorem reselectFrom (left : Nat) (cause : DisconnectCause) (code : Int) :
    (Program.reselectFrom openWorld id left cause code).TakesOnly wiring good system := by
  have permits := chooses.permits
  induction left generalizing cause code system with
  | zero => exact disconnect permits _
  | succ left ih =>
    rw [Attempt.reselectFrom_eq]
    refine isLive permits fun live now => ?_
    cases live with
    | false => exact pure _
    | true =>
      refine look permits ?_
      dsimp only
      split
      · exact bind (disconnect permits _) fun _ _ => pure _
      split
      case h_2 => exact disconnect permits _
      refine bind (of_uses (Uses.reselect permits (chooses.selects.reselect _)) _)
        fun answer _ => ?_
      split
      · exact bind (disconnect permits _) fun _ _ => pure _
      refine isLive permits fun live now => ?_
      cases live with
      | false => exact pure _
      | true =>
        refine bind (dialAndBind chooses.toSeeks _ _) fun outcome _ => ?_
        rcases outcome with _ | _ | _ | error
        · exact pure _
        · exact disconnect permits _
        · exact pure _
        · rw [Attempt.conclude]
          split
          · exact ih _ _
          · exact disconnect permits _

theorem settle (phone : PhoneId) (outcome : DialOutcome) :
    (Program.settle openWorld id phone outcome).TakesOnly wiring good system := by
  have permits := chooses.permits
  have report {after : System Chronicle} :
      (do
        if ← Program.isLive id then return Except.ok id
        Program.gone id : Program Chronicle Placed).TakesOnly wiring good after := by
    refine isLive permits fun live now => ?_
    cases live with
    | true => exact pure _
    | false => exact gone permits
  cases outcome with
  | bound => exact pure _
  | noCall => exact fail permits _
  | cancelled => exact gone permits
  | failed error =>
    refine bind (of_uses (Uses.call permits id) _) fun call now => look permits ?_
    dsimp only
    split
    · refine bind (bind (atOnce (chooses.rounds _)) fun patience _ => ?_) fun _ _ => report
      exact redialFrom chooses.toSeeks patience _ _
    split
    · exact bind (reselectFrom chooses _ _ _) fun _ _ => report
    · exact fail permits _

theorem dialOut (placement : Placement) (domain : Option Domain) :
    (Program.dialOut openWorld id placement domain).TakesOnly wiring good system := by
  have permits := chooses.permits
  refine isLive permits fun live now => ?_
  cases live with
  | true =>
    exact bind (dialAndBind chooses.toSeeks _ _) fun outcome _ => settle chooses _ outcome
  | false => exact bind (gone permits) fun _ _ => pure _

theorem chooseAndDial (placement : Placement) :
    (Program.chooseAndDial openWorld id placement).TakesOnly wiring good system := by
  have permits := chooses.permits
  refine look permits ?_
  split
  · refine bind (of_uses (Uses.selectDomain chooses.selects _) _) fun answer _ => ?_
    cases answer with
    | ok domain => exact dialOut chooses placement domain
    | error cause => exact fail permits _
  · exact bind (of_uses (Uses.prepareToDial permits id _ _ _) _) fun _ _ =>
      dialOut chooses placement none

theorem complete (rejects : ∀ leg system,
      good system (Act.reviseOutside (.asked (.command leg .reject) :: ·)))
        (placement : Placement) :
    (Program.complete openWorld id placement).TakesOnly wiring good system := by
  have permits := chooses.permits
  rw [complete_eq]
  refine bind (of_uses (Uses.ensureRadio permits id _ _) _) fun answer _ => ?_
  cases answer with
  | some answer => exact pure _
  | none =>
    dsimp only
    split
    · refine bind (of_uses (Uses.prepareForEmergency permits id _ _ rejects) _) fun _ _ => ?_
      refine isLive permits fun live _ => ?_
      cases live with
      | true => exact chooseAndDial chooses placement
      | false => exact bind (gone permits) fun _ _ => pure _
    · exact chooseAndDial chooses placement

end
end

theorem clearSatellite_ordinary : Program.clearSatellite openWorld false = (do
    let system ← Program.system
    return if system.device.satelliteActive then some .satelliteEnabled else none) := by
  refine congrArg (Program.bind _) (funext fun system => ?_)
  dsimp only
  cases system.device.satelliteActive <;> rfl

/-- An ordinary call is put in the books at the moment at which nothing forbids it. -/
theorem place (request : CallRequest) {system : System Chronicle} :
    (Program.place openWorld request).TakesOnly wiring (TaskStep fun _ => True) system := by
  have enter {placement : Placement} {now : System Chronicle}
      (allowed : placement.number.emergency = false → now.prepare? request = .ok placement) :
      (Program.atOnce (Act.enroll request placement) >>= fun id =>
        Program.complete openWorld id placement).TakesOnly wiring (TaskStep fun _ => True) now :=
    bind (atOnce (.enroll trivial allowed)) fun id _ =>
      complete (TaskStep.chooses trivial) (fun _ _ => .note rfl) placement
  refine look (TaskStep.permits _) ?_
  cases prepared : system.prepare? request with
  | error cause => exact pure _
  | ok placement =>
    cases ordinary : placement.number.emergency with
    | true =>
      refine bind (of_uses (Uses.clearSatellite (TaskStep.permits _) _) _) fun objection now => ?_
      cases objection with
      | some cause => exact pure _
      | none => exact enter fun no => absurd (ordinary.symm.trans no) (by simp)
    | false =>
      dsimp only
      rw [ordinary, clearSatellite_ordinary]
      refine look (TaskStep.permits _) ?_
      cases system.device.satelliteActive with
      | true => exact pure _
      | false => exact enter fun _ => prepared

end TakesOnly
end Program

theorem Operation.takesOnly (operation : Operation) (wiring : Wiring Chronicle)
    (system : System Chronicle) :
    operation.program.TakesOnly wiring (TaskStep fun _ => True) system := by
  by_cases placing : ∃ request, operation = .place request
  · obtain ⟨request, rfl⟩ := placing
    exact .bind (.place request) fun _ _ => .pure _
  · exact .of_uses (Program.Uses.operation_of_permitsNonDialing (TaskStep.permitsNonDialing _)
      fun request same => placing ⟨request, same⟩) system

theorem FollowUp.takesOnly (work : FollowUp) (wiring : Wiring Chronicle)
    (system : System Chronicle) :
    work.program.TakesOnly wiring (TaskStep fun _ => True) system := by
  cases work with
  | redial id failed permanent =>
    exact .bind (.atOnce .rounds) fun patience _ =>
      .redialFrom (TaskStep.chooses trivial).toSeeks patience failed permanent
  | reselect id cause code => exact .reselectFrom (TaskStep.chooses trivial) _ cause code
  | errand number => trivial

end Switchboard
