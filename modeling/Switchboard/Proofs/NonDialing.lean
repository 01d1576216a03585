import Switchboard.Proofs.TaskClients
import Switchboard.Proofs.StepKinds

/-! Steps of a task that do not dial: commands and waits. A `KeepsClient` program leaves the task's
client, and who that is, as they are; every program that neither dials nor binds is one. -/

namespace Switchboard

variable {regime : Regime} {α β κ : Type}

def Act.KeepsClient (regime : Regime) (step : Act Chronicle α) : Prop :=
  ∀ status system, regime.ClientsInOrder status system →
    step.Ensures regime.wiring system fun _ after => regime.Turn status system status after

namespace Act

theorem keepsClient_get : KeepsClient regime (get : Act Chronicle (System Chronicle)) := by
  intro status system clientsInOrder
  rw [ensures_get]
  exact .stays clientsInOrder.fit (.refl _)

theorem keepsClient_look (id : ConnectionId) : (look id).KeepsClient regime := by
  intro status system clientsInOrder
  rw [ensures_look]
  exact .stays clientsInOrder.fit (.refl _)

theorem keepsClient_rounds : KeepsClient regime rounds := by
  intro status system clientsInOrder
  rw [ensures_rounds]
  exact .stays clientsInOrder.fit (.refl _)

theorem keepsClient_failure : KeepsClient regime (failure : Act Chronicle α) :=
  fun _ _ _ => ensures_failure _

theorem keepsClient_note {note : Note} (plain : note.isDialing = false) :
    KeepsClient regime (reviseOutside (note :: ·)) := by
  intro status system _
  rw [ensures_reviseOutside]
  exact .notes plain

variable (upholds : regime.Upholds)
include upholds

theorem keepsClient_setDisconnected (id : ConnectionId) (info : DisconnectInfo) :
    (setDisconnected id info).KeepsClient regime := by
  intro status system clientsInOrder
  exact (upholds.disconnect id info clientsInOrder.fit).mono fun _ after ended =>
    .stays ended.1 ended.2.1

theorem keepsClient_aside {step : Act Chronicle α}
    (aside : ∀ system : System Chronicle, step.Ensures regime.wiring system fun _ after =>
      system.SameCalls after ∧ after.works = system.works ∧ after.outside = system.outside) :
    step.KeepsClient regime := by
  intro status system clientsInOrder
  refine (aside system).mono fun _ after ⟨same, works, outside⟩ => ?_
  refine .stays (upholds.aside same clientsInOrder.fit)
    ⟨.of_connections same.connections, ?_, works, outside⟩
  rw [same.connections]

theorem keepsClient_startSelection (id : ConnectionId) :
    (startSelection id).KeepsClient regime := by
  refine keepsClient_aside upholds fun system => ?_
  rw [startSelection, ensures_bind, ensures_get]
  generalize system.registry.session.start id = outcome
  obtain ⟨cancels, session⟩ := outcome
  rw [ensures_bind, ensures_reviseRegistry]
  split
  · rw [ensures_write]
    exact ⟨⟨rfl, rfl, rfl, rfl⟩, rfl, rfl⟩
  · rw [ensures_pure]
    exact ⟨⟨rfl, rfl, rfl, rfl⟩, rfl, rfl⟩

theorem keepsClient_finishSelection (id : ConnectionId) :
    (finishSelection id).KeepsClient regime := by
  refine keepsClient_aside upholds fun system => ?_
  rw [finishSelection, ensures_bind, ensures_get]
  generalize system.registry.session.finish id = outcome
  obtain ⟨finishes, session⟩ := outcome
  rw [ensures_bind, ensures_reviseRegistry]
  split
  · rw [ensures_write]
    exact ⟨⟨rfl, rfl, rfl, rfl⟩, rfl, rfl⟩
  · rw [ensures_pure]
    exact ⟨⟨rfl, rfl, rfl, rfl⟩, rfl, rfl⟩

theorem keepsClient_nextPhone (id : ConnectionId) (failed : PhoneId) (permanent : Bool) :
    (nextPhone id failed permanent).KeepsClient regime := by
  refine keepsClient_aside upholds fun system => ?_
  simp only [nextPhone, ensures_bind, ensures_get, ensures_set, ensures_pure]
  exact ⟨⟨rfl, rfl, rfl, rfl⟩, rfl, trivial⟩

theorem keepsClient_setSelectionActive (id : ConnectionId) (active : Bool) :
    (setSelectionActive id active).KeepsClient regime := by
  intro status system clientsInOrder
  rw [setSelectionActive, ensures_revise]
  have kept {γ : Type} (read : Connection → γ)
      (blind : ∀ call : Connection, read { call with selectionActive := active } = read call)
      (other : ConnectionId) :
      read ((system.reviseConnection id ({ · with selectionActive := active })).connection other) =
        read (system.connection other) :=
    system.read_reviseConnection read (blind _) other
  exact .stays (upholds.select id active clientsInOrder.fit) {
    known := fun known => by simpa using known
    direction := fun _ => kept (·.direction) (fun _ => rfl) _
    gone := fun _ gone => (kept (·.destroyed) (fun _ => rfl) _).trans gone
    leg := fun _ _ => .inl (kept (·.leg) (fun _ => rfl) _)
    count := by simp
    works := by simp [System.works]
    outside := by simp }

theorem keepsClient_reassign (id : ConnectionId) (phone : PhoneId)
    (subscription : Option SubscriptionId)
    (technology : Technology) (carrier : CarrierConfig) :
    (reassign id phone subscription technology carrier).KeepsClient regime := by
  intro status system clientsInOrder
  exact (upholds.reassign id phone subscription technology carrier clientsInOrder.fit).mono
    fun _ after kept => .stays kept.1 kept.2

theorem permitsNonDialing_keepsClient : PermitsNonDialing fun step => step.KeepsClient regime where
  get := keepsClient_get
  look := keepsClient_look
  failure := keepsClient_failure
  note routine := keepsClient_note (Note.not_isDialing_of_isRoutine routine)
  disconnect := keepsClient_setDisconnected upholds
  ask := keepsClient_note
  startSelection := keepsClient_startSelection upholds
  finishSelection := keepsClient_finishSelection upholds
  setSelectionActive := keepsClient_setSelectionActive upholds

theorem permits_keepsClient : Permits fun step => step.KeepsClient regime :=
  (permitsNonDialing_keepsClient upholds).toPermits

end Act

namespace Program

abbrev KeepsClient (regime : Regime) (program : Program Chronicle α) : Prop :=
  program.Uses fun step => step.KeepsClient regime

theorem KeepsClient.atOnce {step : Act Chronicle α} (keepsClient : step.KeepsClient regime) :
    (Program.atOnce step).KeepsClient regime :=
  Uses.atOnce keepsClient

theorem Uses.keeps {program : Program Chronicle α} (keepsClient : program.KeepsClient regime)
    {status : ClientStatus}
    {system : System Chronicle} {post : α → ClientStatus → System Chronicle → Prop}
    (waits : status ≠ .finished)
    (goes : ∀ value after, system.Since after → post value status after) :
    program.Keeps regime status system post := by
  induction program generalizing system with
  | done value => exact goes value system (.refl _)
  | act step next ih =>
    intro clientsInOrder
    refine (keepsClient.1 status system clientsInOrder).mono fun value after turn =>
      ⟨status, turn, ?_⟩
    exact ih value (keepsClient.2 value) fun last final since =>
      goes last final (turn.since.trans since)
  | wait pause next ih =>
    have onward {after : System Chronicle} (since : system.Since after) (value) :
        (next value).Keeps regime status after post :=
      ih value (keepsClient value) fun last final more => goes last final (since.trans more)
    exact ⟨waits, fun after since => ⟨fun value _ => onward since (some value), onward since none⟩⟩

end Program
end Switchboard
