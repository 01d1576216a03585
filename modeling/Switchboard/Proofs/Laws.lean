import Switchboard.Proofs.Handling
import Switchboard.Proofs.Traits

/-! Laws of what goes on. A law says what holds of a system, and how a later system may differ from
an earlier one; a step obeys it if it leads from systems where the law holds to others that the
law allows. What the exchange does for conferences, verdicts and its books obeys every law that
looks at connections and legs only, whatever the listeners do that are told on the way. -/

namespace Switchboard

structure Law (ε : Type) where
  holds : System ε → Prop
  leads : System ε → System ε → Prop
  refl (system : System ε) : leads system system
  trans {before middle after : System ε} : leads before middle → leads middle after →
    leads before after

structure System.Aside {ε : Type} (before after : System ε) : Prop where
  connections : after.connections = before.connections
  legs : after.legs = before.legs
  listed : after.registry.connections = before.registry.connections
  plans : after.registry.plans = before.registry.plans
  works : after.works = before.works
  outside : after.outside = before.outside

def System.struck {ε : Type} (system : System ε) (id : ConnectionId) : System ε :=
  { system with registry := { system.registry with
      connections := system.registry.connections.filter (· != id)
      plans := system.registry.plans.filter (·.1 != id)
      roles := (system.registry.roles.release id).2 } }

namespace Act

variable {ε α β ι : Type}

def dismiss (id : ConnectionId) : Act ε Unit := do
  dropRetry id
  if (← get).device.hasSelector then finishSelection id
  untrack (.connection id)
  recalculate
  announce (.connectionRemoved id)

theorem unregister_eq (id : ConnectionId) :
    (unregister id : Act ε Unit) = (do
      if (← get).isRegistered id then
        modify (·.struck id)
        dismiss id) := rfl

def Obeys (step : Act ε α) (law : Law ε) (wiring : Wiring ε) : Prop :=
  ∀ system, law.holds system →
    step.Ensures wiring system fun _ after => law.holds after ∧ law.leads system after

namespace Obeys

variable {law : Law ε} {wiring : Wiring ε}

theorem pure (value : α) : Obeys (pure value : Act ε α) law wiring := by
  intro system holds
  rw [ensures_pure]
  exact ⟨holds, law.refl system⟩

theorem bind {step : Act ε α} {next : α → Act ε β} (first : step.Obeys law wiring)
    (rest : ∀ value, (next value).Obeys law wiring) : (step >>= next).Obeys law wiring := by
  intro system holds
  rw [ensures_bind]
  refine (first system holds).mono fun value middle sofar => ?_
  exact (rest value middle sofar.1).mono fun _ _ more => ⟨more.1, law.trans sofar.2 more.2⟩

theorem thenEnsures {step : Act ε α} {next : α → Act ε β} {system : System ε}
    {goal : β → System ε → Prop} (first : step.Obeys law wiring) (holds : law.holds system)
    (rest : ∀ value middle, law.holds middle → law.leads system middle →
      (next value).Ensures wiring middle goal) :
    (step >>= next).Ensures wiring system goal := by
  rw [ensures_bind]
  exact (first system holds).mono fun value middle sofar => rest value middle sofar.1 sofar.2

theorem get : Obeys (get : Act ε (System ε)) law wiring := by
  intro system holds
  rw [ensures_get]
  exact ⟨holds, law.refl system⟩

end Obeys
end Act

def Law.trait {ε : Type} (law : Law ε) (wiring : Wiring ε) : Trait ε where
  has step := step.Obeys law wiring
  pure := .pure
  bind := .bind
  get := .get
  failure := fun _ _ => Act.ensures_failure _

namespace Act.Obeys

variable {ε α β ι : Type} {law : Law ε} {wiring : Wiring ε}

theorem look (id : ConnectionId) : (look id).Obeys law wiring :=
  (law.trait wiring).look id

theorem modify {change : System ε → System ε}
    (keeps : ∀ system, law.holds system →
      law.holds (change system) ∧ law.leads system (change system)) :
    Obeys (modify change) law wiring := by
  intro system holds
  rw [ensures_modify]
  exact keeps system holds

theorem forM {work : ι → Act ε PUnit} (items : List ι)
    (each : ∀ item ∈ items, (work item).Obeys law wiring) :
    (items.forM work).Obeys law wiring :=
  (law.trait wiring).forM items each

theorem rounds : Obeys rounds law wiring :=
  bind (fun system holds => (ensures_read _).mpr ⟨holds, law.refl system⟩) fun _ => pure _

/-- A commit tells only of what is plain. -/
theorem commit {id : ConnectionId} {next : Option Connection.Commit → Act ε β}
    (keeps : ∀ system, law.holds system →
      law.holds (system.reviseConnection id fun _ => (system.connection id).commit.2) ∧
        law.leads system (system.reviseConnection id fun _ => (system.connection id).commit.2))
    (rest : ∀ news, (∀ found, news = some found → ∀ event ∈ found.events, event.isPlain = true) →
      (next news).Obeys law wiring) : (commit id >>= next).Obeys law wiring := by
  intro system holds
  obtain ⟨kept, led⟩ := keeps system holds
  rw [ensures_bind, ensures_commit]
  refine (rest _ (fun _ => Connection.plain_of_commit) _ kept).mono fun _ _ more => ?_
  exact ⟨more.1, law.trans led more.2⟩

end Act.Obeys

structure Law.Bears {ε : Type} (law : Law ε) (wiring : Wiring ε) : Prop where
  aside {before after : System ε} : before.Aside after → law.holds before →
    law.holds after ∧ law.leads before after
  setHoldAllowed (id : ConnectionId) (allowed : Bool) :
    (Act.setHoldAllowed id allowed).Obeys law wiring
  setConference (id : ConnectionId) (conference : Option ConferenceId) :
    (Act.setConference id conference).Obeys law wiring

namespace Act

variable {ε : Type} {law : Law ε} {wiring : Wiring ε} (bears : law.Bears wiring)
include bears

theorem obeys_aside {change : System ε → System ε}
    (aside : ∀ system : System ε, system.Aside (change system)) :
    Obeys (modify change) law wiring :=
  .modify fun system => bears.aside (aside system)

theorem obeys_write (entry : Entry) : (write entry).Obeys law wiring :=
  obeys_aside bears fun _ => ⟨rfl, rfl, rfl, rfl, rfl, rfl⟩

theorem obeys_announce (notice : Notice) : (announce notice).Obeys law wiring :=
  obeys_aside bears fun _ => ⟨rfl, rfl, rfl, rfl, rfl, rfl⟩

end Act

theorem Law.Bears.arranges {ε : Type} {law : Law ε} {wiring : Wiring ε} (bears : law.Bears wiring) :
    (law.trait wiring).Arranges where
  regroup regroups := Act.obeys_aside bears fun system => by
    rw [regroups system]
    exact ⟨rfl, rfl, rfl, rfl, rfl, rfl⟩
  created _ := Act.obeys_announce bears _
  removed _ := Act.obeys_announce bears _
  setHoldAllowed := bears.setHoldAllowed
  setConference := bears.setConference

namespace Act

variable {ε : Type} {law : Law ε} {wiring : Wiring ε} (bears : law.Bears wiring)
include bears

theorem obeys_dropRetry (id : ConnectionId) : (dropRetry id).Obeys law wiring :=
  obeys_aside bears fun _ => ⟨rfl, rfl, rfl, rfl, rfl, rfl⟩

theorem obeys_finishSelection (id : ConnectionId) : (finishSelection id).Obeys law wiring := by
  refine .bind .get fun system => ?_
  generalize system.registry.session.finish id = outcome
  obtain ⟨finishes, session⟩ := outcome
  refine .bind (obeys_aside bears fun _ => ⟨rfl, rfl, rfl, rfl, rfl, rfl⟩) fun _ => ?_
  split
  · exact obeys_write bears _
  · exact .pure _

theorem obeys_dismiss (id : ConnectionId) : (dismiss id).Obeys law wiring := by
  have rest : Obeys (do
      untrack (.connection id)
      recalculate
      announce (.connectionRemoved id)) law wiring :=
    .bind (bears.arranges.untrack _) fun _ => .bind bears.arranges.recalculate fun _ =>
      obeys_announce bears _
  refine .bind (obeys_dropRetry bears id) fun _ => .bind .get fun _ => ?_
  split
  · exact .bind (obeys_finishSelection bears id) fun _ => rest
  · exact rest

theorem obeys_unregister {id : ConnectionId}
    (strikes : ∀ system, law.holds system →
      law.holds (system.struck id) ∧ law.leads system (system.struck id)) :
    (unregister id).Obeys law wiring := by
  refine .bind .get fun system => ?_
  split
  · exact .bind (.modify strikes) fun _ => obeys_dismiss bears id
  · exact .pure _

theorem obeys_attend {id : ConnectionId} {event : ConnectionEvent}
    (strikes : ∀ system, law.holds system →
      law.holds (system.struck id) ∧ law.leads system (system.struck id))
    (follows : event.isPlain = false → ∀ work, (follow id work).Obeys law wiring) :
    (attend id event).Obeys law wiring := by
  cases event with
  | stateChanged old new =>
    rw [attend]
    split
    · exact .bind (obeys_dropRetry bears id) fun _ => bears.arranges.recalculate
    · exact bears.arranges.recalculate
  | propertiesChanged props => exact bears.arranges.recalculate
  | conferenceChanged conference => exact bears.arranges.passVerdicts
  | redialRequested phone permanent => exact follows rfl _
  | reselectionRequested cause code => exact follows rfl _
  | destroyed => exact obeys_unregister bears strikes
  | _ => exact .pure _

end Act

/-- Telling anybody of events of a kind obeys the law, and so does what follows when a leg has got
a bridge. -/
structure Wiring.Obeys {ε : Type} (wiring : Wiring ε) (law : Law ε)
    (kind : ConnectionEvent → Prop) : Prop where
  tell (listeners : List Listener) (id : ConnectionId) {event : ConnectionEvent} : kind event →
    (Act.tell listeners id event).Obeys law wiring
  bridged : Act.bridged.Obeys law wiring

structure Bystanders.Abide {ε : Type} (bystanders : Bystanders ε) (law : Law ε)
    (kind : ConnectionEvent → Prop) (wiring : Wiring ε) : Prop where
  bears : law.Bears wiring
  strikes (id : ConnectionId) (system : System ε) : law.holds system →
    law.holds (system.struck id) ∧ law.leads system (system.struck id)
  follows {event : ConnectionEvent} : kind event → event.isPlain = false →
    ∀ id work, (Act.follow id work).Obeys law wiring
  hear {event : ConnectionEvent} : kind event →
    ∀ name id, (bystanders.hear name id event).Obeys law wiring
  bridged : bystanders.bridged.Obeys law wiring

namespace Wiring

variable {ε : Type} {bystanders : Bystanders ε} {law : Law ε} {kind : ConnectionEvent → Prop}

theorem obeys_tellOne {wiring : Wiring ε} (abide : bystanders.Abide law kind wiring)
    (id : ConnectionId) {event : ConnectionEvent} (fits : kind event) (listener : Listener) :
    (bystanders.tellOne id event listener).Obeys law wiring := by
  refine .bind (Act.obeys_write abide.bears _) fun _ => ?_
  cases listener with
  | recorder => exact .pure _
  | exchange =>
    exact Act.obeys_attend abide.bears (abide.strikes id) fun asks => abide.follows fits asks id
  | observer name => exact abide.hear fits name id

theorem obeys_zero : (level bystanders 0).Obeys law kind := by
  constructor
  · intro _ _ _ _ _ _ _ _ run
    cases run
  · intro _ _ _ _ run
    cases run

theorem obeys_succ {rounds : Nat} (abide : bystanders.Abide law kind (level bystanders rounds)) :
    (level bystanders (rounds + 1)).Obeys law kind := by
  constructor
  · intro listeners id event fits system holds
    rw [Act.ensures_tell]
    have all := Act.Obeys.forM listeners fun listener _ => obeys_tellOne abide id fits listener
    exact all system holds ⟨⟩
  · intro system holds value after run
    exact abide.bridged system holds value after run

theorem obeys_level
    (abide : ∀ wiring, wiring.Obeys law kind → bystanders.Abide law kind wiring) (rounds : Nat) :
    (level bystanders rounds).Obeys law kind := by
  induction rounds with
  | zero => exact obeys_zero
  | succ rounds ih => exact obeys_succ (abide _ ih)

end Wiring

/-- What somebody who is told does at once, depending on what there is to see. -/
inductive Habit (ε : Type)
  | rest
  | look (next : System ε → Habit ε)
  | make (move : Move) (next : Habit ε)

/-- A remark may be made of each move before it is made. -/
def Habit.act {ε : Type} (remark : Move → Act ε Unit) : Habit ε → Act ε Unit
  | rest => pure ()
  | look next => do (next (← get)).act remark
  | make move next => do
    remark move
    move.act
    next.act remark

namespace Habit

variable {ε : Type}

def Only (allowed : Move → Prop) : Habit ε → Prop
  | rest => True
  | look next => ∀ system, (next system).Only allowed
  | make move next => allowed move ∧ next.Only allowed

theorem only_any (habit : Habit ε) : habit.Only fun _ => True := by
  induction habit with
  | rest => trivial
  | look next ih => exact ih
  | make move next ih => exact ⟨trivial, ih⟩

theorem obeys_act {law : Law ε} {wiring : Wiring ε} {remark : Move → Act ε Unit}
    {allowed : Move → Prop}
    (moves : ∀ move, allowed move → (do remark move; move.act : Act ε Unit).Obeys law wiring)
    {habit : Habit ε} (only : habit.Only allowed) : (habit.act remark).Obeys law wiring := by
  induction habit with
  | rest => exact .pure _
  | look next ih => exact .bind .get fun system => ih system (only system)
  | make move next ih =>
    rw [act, ← bind_assoc]
    exact .bind (moves move only.1) fun _ => ih only.2

end Habit

end Switchboard
