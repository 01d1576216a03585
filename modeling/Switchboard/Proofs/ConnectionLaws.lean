import Switchboard.Proofs.PublishedStates
import Switchboard.Proofs.Diary

/-! Laws about connections and the diary. A law `Handles` a connection if the few steps that all
others on it are made of obey it, and `Governs` if it handles every connection and what is written
down. Then every step obeys it, whatever listeners do. A law that depends only on the listeners of a
connection and on whether its end was given handles it: `Law.handles_of_keepsEnd`. -/

namespace Switchboard

namespace Connection

def LegOnly (change : Connection → Connection) : Prop :=
  ∀ call, change call = { call with
    generation := (change call).generation
    leg := (change call).leg
    redialEnabled := (change call).redialEnabled
    selectionActive := (change call).selectionActive
    awaitingRedial := (change call).awaitingRedial }

structure KeepsLifecycle (change : Connection → Connection) : Prop where
  lifecycle (call : Connection) : (change call).lifecycle = call.lifecycle
  listeners (call : Connection) : (change call).listeners = call.listeners

structure KeepsConference (change : Connection → Connection) :
    Prop extends KeepsLifecycle change where
  conference (call : Connection) : (change call).conference = call.conference

/-- Nobody new listens, and an end that was given stays. -/
structure KeepsEnd (change : Connection → Connection) : Prop where
  ended {call : Connection} {info : DisconnectInfo} : call.ended = some info →
    (change call).ended = some info
  listeners (call : Connection) : (change call).listeners.Sublist call.listeners

structure KeepsVerdict (change : Connection → Connection) : Prop extends KeepsEnd change where
  holdAllowed (call : Connection) : (change call).holdAllowed = call.holdAllowed

theorem LegOnly.keepsConference {change : Connection → Connection} (legOnly : LegOnly change) :
    KeepsConference change where
  lifecycle call := by
    rw [legOnly call]
    rfl
  listeners call := by rw [legOnly call]
  conference call := by rw [legOnly call]

theorem KeepsLifecycle.keepsEnd {change : Connection → Connection}
    (keepsLifecycle : KeepsLifecycle change) : KeepsEnd change where
  ended {call _} given := (congrArg Prod.fst (keepsLifecycle.lifecycle call)).trans given
  listeners call := keepsLifecycle.listeners call ▸ .refl _

theorem keepsVerdict_commit : KeepsVerdict (·.commit.2) where
  ended {call _} given := by
    rcases call.commit_cases with ⟨quiet, -⟩ | ⟨loud, -⟩
    · rw [quiet]
      exact given
    · rw [loud]
      exact given
  listeners call := by
    rcases call.commit_cases with ⟨quiet, -⟩ | ⟨loud, -⟩
    · rw [quiet]
      exact .refl _
    · rw [loud]
      exact .refl _
  holdAllowed call := by
    rcases call.commit_cases with ⟨quiet, -⟩ | ⟨loud, -⟩
    · rw [quiet]
      rfl
    · rw [loud]
      rfl

end Connection

theorem ConnectionEvent.mute_of_asks {event : ConnectionEvent} (asks : event.isPlain = false) :
    event.IsMute ∧ event.isFinal = false := by
  cases event with
  | redialRequested phone permanent => exact ⟨fun _ => rfl, rfl⟩
  | reselectionRequested cause code => exact ⟨fun _ => rfl, rfl⟩
  | _ => cases asks

/-- The connections and the diary are the same. -/
structure System.SameConnections (before after : System Diary) : Prop where
  connections : after.connections = before.connections
  outside : after.outside = before.outside

structure System.SameConferences {ε : Type} (before after : System ε) : Prop where
  connections : after.connections = before.connections
  outside : after.outside = before.outside
  desk : after.desk = before.desk
  conferences : after.conferences = before.conferences
  tracked : after.tracked = before.tracked

namespace Law

variable {ε : Type}

/-- The law is obeyed by what is done to a connection, in whatever conference it is. -/
structure HandlesMember (law : Law ε) (wiring : Wiring ε) (id : ConnectionId) : Prop where
  legOnly {change : Connection → Connection} : Connection.LegOnly change →
    (Act.revise id change).Obeys law wiring
  notify {event : ConnectionEvent} : event.IsMute → event.isFinal = false →
    (Act.notify id event).Obeys law wiring
  publish {change : Connection → Connection} {between : Act ε Unit} :
    Connection.KeepsConference change → between.Obeys law wiring →
      (do Act.revise id change; between; Act.update id : Act ε Unit).Obeys law wiring
  disconnect (info : DisconnectInfo) : (Act.setDisconnected id info).Obeys law wiring
  close : (Act.close id).Obeys law wiring

/-- The law is obeyed by what is done to any connection, and does not look at anything but the
connections and conferences and the world around. -/
structure GovernsMembers (law : Law ε) (wiring : Wiring ε) : Prop where
  sameConferences {before after : System ε} : before.SameConferences after → law.holds before →
    law.holds after ∧ law.leads before after
  handlesMember (id : ConnectionId) : law.HandlesMember wiring id
  bridged : Act.bridged.Obeys law wiring

structure AllowsTelling (law : Law ε) (wiring : Wiring ε) (id : ConnectionId) : Prop where
  sameConferences {before after : System ε} : before.SameConferences after → law.holds before →
    law.holds after ∧ law.leads before after
  revise {change : Connection → Connection} : Connection.KeepsVerdict change →
    (Act.revise id change).Obeys law wiring
  notify (event : ConnectionEvent) : (Act.notify id event).Obeys law wiring

variable {law : Law Diary} {wiring : Wiring Diary}

/-- The law is obeyed by what is done to a connection. -/
structure Handles (law : Law Diary) (wiring : Wiring Diary) (id : ConnectionId) : Prop where
  legOnly {change : Connection → Connection} : Connection.LegOnly change →
    (Act.revise id change).Obeys law wiring
  notify {event : ConnectionEvent} : event.IsMute → event.isFinal = false →
    (Act.notify id event).Obeys law wiring
  publish {change : Connection → Connection} {between : Act Diary Unit} :
    Connection.KeepsLifecycle change → between.Obeys law wiring →
      (do Act.revise id change; between; Act.update id : Act Diary Unit).Obeys law wiring
  disconnect (info : DisconnectInfo) : (Act.setDisconnected id info).Obeys law wiring
  close : (Act.close id).Obeys law wiring

structure Governs (law : Law Diary) (wiring : Wiring Diary) : Prop where
  apart {before after : System Diary} : before.SameConnections after → law.holds before →
    law.holds after ∧ law.leads before after
  handles (id : ConnectionId) : law.Handles wiring id
  glance : Act.glance.Obeys law wiring
  create (params : CallParameters) : (Act.create params).Obeys law wiring
  addListener (id : ConnectionId) (listener : Listener) :
    (Move.addListener id listener).kept.Obeys law wiring
  removeListener (id : ConnectionId) (listener : Listener) :
    (Move.removeListener id listener).kept.Obeys law wiring
  bridged : Act.bridged.Obeys law wiring

theorem Handles.handlesMember {id : ConnectionId} (handles : law.Handles wiring id) :
    law.HandlesMember wiring id where
  legOnly := handles.legOnly
  notify := handles.notify
  publish keepsConference := handles.publish keepsConference.toKeepsLifecycle
  disconnect := handles.disconnect
  close := handles.close

end Law

namespace Act

theorem obeys_apart {law : Law Diary} {wiring : Wiring Diary}
    (apart : ∀ {before after : System Diary}, before.SameConnections after → law.holds before →
      law.holds after ∧ law.leads before after)
    {change : System Diary → System Diary} (same : ∀ system : System Diary,
      system.SameConnections (change system)) : Obeys (modify change) law wiring :=
  .modify fun system => apart (same system)

section
variable {ε : Type} {law : Law ε} {wiring : Wiring ε} {id : ConnectionId}
  (allowsTelling : law.AllowsTelling wiring id)
include allowsTelling

theorem allowsTelling_revise {change : Connection → Connection}
    (same : ∀ call, (change call).ended = call.ended ∧ (change call).listeners = call.listeners ∧
      (change call).holdAllowed = call.holdAllowed) :
    (revise id change).Obeys law wiring :=
  allowsTelling.revise
    ⟨⟨fun given => (same _).1.trans given, fun call => (same call).2.1 ▸ .refl _⟩,
    fun call => (same call).2.2⟩

theorem allowsTelling_sameConferences {change : System ε → System ε}
    (sameConferences : ∀ system : System ε, system.SameConferences (change system)) :
      Obeys (modify change) law wiring :=
  .modify fun system => allowsTelling.sameConferences (sameConferences system)

theorem allowsTelling_unbind : (unbind id).Obeys law wiring := by
  refine .bind (.look id) fun call =>
    .bind (allowsTelling_revise allowsTelling fun _ => ⟨rfl, rfl, rfl⟩) fun _ => ?_
  split
  · exact allowsTelling_sameConferences allowsTelling fun _ => ⟨rfl, rfl, rfl, rfl, rfl⟩
  · exact .pure _

theorem allowsTelling_destroy : (destroy id).Obeys law wiring := by
  refine .bind (.look id) fun call => ?_
  split
  · exact .pure _
  · exact .bind (allowsTelling_revise allowsTelling fun _ => ⟨rfl, rfl, rfl⟩) fun _ =>
      .bind (allowsTelling.notify _) fun _ =>
        allowsTelling.revise ⟨⟨fun given => given, fun _ => List.nil_sublist _⟩, fun _ => rfl⟩

theorem allowsTelling_publishes : (law.trait wiring).Publishes id where
  rounds := .rounds
  clerical clerical :=
    allowsTelling_revise allowsTelling fun call => by rw [clerical call]; exact ⟨rfl, rfl, rfl⟩
  signal := allowsTelling_sameConferences allowsTelling fun _ => ⟨rfl, rfl, rfl, rfl, rfl⟩
  commit := by
    refine Obeys.commit fun system holds => ?_
    have same : system.reviseConnection id (fun _ => (system.connection id).commit.2) =
        system.reviseConnection id (·.commit.2) := system.reviseConnection_congr rfl
    have revised := allowsTelling.revise Connection.keepsVerdict_commit system holds
    rw [ensures_revise] at revised
    rw [same]
    exact revised
  notify _ := allowsTelling.notify _
  letGo := .bind (allowsTelling_unbind allowsTelling) fun _ => allowsTelling_destroy allowsTelling

theorem allowsTelling_setDisconnected (info : DisconnectInfo) :
    (setDisconnected id info).Obeys law wiring := by
  intro system holds
  rw [setDisconnected, ensures_bind, ensures_look]
  split
  · rw [ensures_pure]
    exact ⟨holds, law.refl _⟩
  · rename_i ungiven
    have none : (system.connection id).ended = none := by simpa using ungiven
    have same : system.reviseConnection id ({ · with ended := some info, presented := .none }) =
        system.reviseConnection id fun call =>
          { call with ended := call.ended <|> some info, presented := .none } := by
      refine system.reviseConnection_congr ?_
      rw [none]
      rfl
    have gives : (revise id fun call =>
        { call with ended := call.ended <|> some info, presented := .none }).Obeys law wiring :=
      allowsTelling.revise ⟨⟨fun given => by rw [given]; rfl, fun _ => .refl _⟩, fun _ => rfl⟩
    have whole := (gives.bind fun _ => (allowsTelling_publishes allowsTelling).update) system holds
    rw [ensures_bind, ensures_revise] at whole ⊢
    rw [same]
    exact whole

theorem allowsTelling_close : (close id).Obeys law wiring :=
  (allowsTelling_publishes allowsTelling).close
    (allowsTelling_setDisconnected allowsTelling .byRequest)

end
end Act

/-- A law that bears every change which keeps the listeners and the end handles the connection. -/
theorem Law.handles_of_keepsEnd {law : Law Diary} {wiring : Wiring Diary} {id : ConnectionId}
    (apart : ∀ {before after : System Diary}, before.SameConnections after → law.holds before →
      law.holds after ∧ law.leads before after)
    (revise : ∀ {change : Connection → Connection}, Connection.KeepsEnd change →
      (Act.revise id change).Obeys law wiring)
    (notify : ∀ event, (Act.notify id event).Obeys law wiring) : law.Handles wiring id :=
  have allowsTelling : law.AllowsTelling wiring id :=
    ⟨fun sameConferences => apart ⟨sameConferences.connections, sameConferences.outside⟩,
      fun keepsVerdict => revise keepsVerdict.toKeepsEnd, notify⟩
  { legOnly := fun legOnly => revise legOnly.keepsConference.keepsEnd
    notify := fun _ _ => notify _
    publish := fun keepsLifecycle between =>
      .bind (revise keepsLifecycle.keepsEnd) fun _ => .bind between fun _ =>
        (Act.allowsTelling_publishes allowsTelling).update
    disconnect := Act.allowsTelling_setDisconnected allowsTelling
    close := Act.allowsTelling_close allowsTelling }

def Move.isInternal : Move → Bool
  | create _ | setConference .. | addListener .. | removeListener .. => false
  | _ => true

namespace Act

section
variable {ε : Type} {law : Law ε} {wiring : Wiring ε} (governsMembers : law.GovernsMembers wiring)
include governsMembers

theorem handled_sameConferences {change : System ε → System ε}
    (sameConferences : ∀ system : System ε, system.SameConferences (change system)) :
      Obeys (modify change) law wiring :=
  .modify fun system => governsMembers.sameConferences (sameConferences system)

theorem handled_change (id : ConnectionId) {change : Connection → Connection}
    (keepsConference : Connection.KeepsConference change) :
      Obeys (do revise id change; update id) law wiring := by
  have whole := (governsMembers.handlesMember id).publish keepsConference (.pure ⟨⟩)
  simpa only [pure_bind] using whole

theorem handled_publish (id : ConnectionId) {change : Connection → Connection}
    {first second : Act ε Unit} (keepsConference : Connection.KeepsConference change)
    (begins : first.Obeys law wiring)
    (goes : second.Obeys law wiring) :
    Obeys (do revise id change; first; second; update id) law wiring := by
  have whole :=
    (governsMembers.handlesMember id).publish keepsConference (begins.bind fun _ => goes)
  simpa only [bind_assoc] using whole

theorem handled_setHoldAllowed (id : ConnectionId) (allowed : Bool) :
    (setHoldAllowed id allowed).Obeys law wiring := by
  refine .bind (.look id) fun call => ?_
  split
  · exact .pure _
  · exact handled_change governsMembers id ⟨⟨fun _ => rfl, fun _ => rfl⟩, fun _ => rfl⟩

theorem handled_unbind (id : ConnectionId) : (unbind id).Obeys law wiring := by
  refine .bind (.look id) fun call =>
    .bind ((governsMembers.handlesMember id).legOnly fun _ => rfl) fun _ => ?_
  split
  · exact handled_sameConferences governsMembers fun _ => ⟨rfl, rfl, rfl, rfl, rfl⟩
  · exact .pure _

theorem handled_bind (id : ConnectionId) (leg : LegId) : (bind id leg).Obeys law wiring := by
  refine .bind .get fun now => .bind (.look id) fun call => ?_
  have attaches : (attach leg { connection := id, generation := call.generation + 1 }).Obeys
      law wiring :=
    .bind (handled_sameConferences governsMembers fun _ => ⟨rfl, rfl, rfl, rfl, rfl⟩) fun _ =>
      governsMembers.bridged
  cases had : call.leg with
  | none =>
    exact (governsMembers.handlesMember id).publish
      ⟨⟨fun _ => rfl, fun _ => rfl⟩, fun _ => rfl⟩ attaches
  | some previous =>
    exact handled_publish governsMembers id ⟨⟨fun _ => rfl, fun _ => rfl⟩, fun _ => rfl⟩
      (handled_sameConferences governsMembers fun _ => ⟨rfl, rfl, rfl, rfl, rfl⟩) attaches

theorem handled_heeds (id : ConnectionId) : (law.trait wiring).Heeds id where
  scenic scenic := by
    refine handled_change governsMembers id ⟨⟨fun call => ?_, fun call => ?_⟩, fun call => ?_⟩ <;>
      rw [scenic call]
    rfl
  giveUp asks :=
    .bind ((governsMembers.handlesMember id).legOnly fun _ => rfl) fun _ =>
      .bind (handled_unbind governsMembers id) fun _ =>
      (governsMembers.handlesMember id).notify (ConnectionEvent.mute_of_asks asks).1
        (ConnectionEvent.mute_of_asks asks).2
  disconnect := (governsMembers.handlesMember id).disconnect

theorem handled_move {move : Move} (keepsConference : move.isInternal = true) :
    move.act.Obeys law wiring := by
  have changed (id : ConnectionId) {change : Connection → Connection}
      (keepsConference : Connection.KeepsConference change) :
      Obeys (do revise id change; update id) law wiring :=
    handled_change governsMembers id keepsConference
  cases move with
  | createLeg view =>
    exact .bind (.bind .get fun _ => .bind (handled_sameConferences governsMembers
      fun _ => ⟨rfl, rfl, rfl, rfl, rfl⟩) fun _ => .pure _) fun _ => .pure _
  | bind id leg => exact handled_bind governsMembers id leg
  | unbind id => exact handled_unbind governsMembers id
  | report leg event =>
    exact Trait.Heeds.report (handled_heeds governsMembers)
      (handled_sameConferences governsMembers fun _ => ⟨rfl, rfl, rfl, rfl, rfl⟩)
  | reportLate leg event =>
    exact .bind (Trait.Heeds.reportLate (handled_heeds governsMembers) leg event) fun _ => .pure _
  | inform id event => exact (handled_heeds governsMembers id).currentLegEvent event
  | disconnect id info => exact (governsMembers.handlesMember id).disconnect info
  | close id => exact (governsMembers.handlesMember id).close
  | presentHolding id =>
    refine .bind (.look id) fun _ => ?_
    split
    · exact .pure _
    · exact changed id ⟨⟨fun _ => rfl, fun _ => rfl⟩, fun _ => rfl⟩
  | putExtras id extras => exact changed id ⟨⟨fun _ => rfl, fun _ => rfl⟩, fun _ => rfl⟩
  | removeExtras id keys => exact changed id ⟨⟨fun _ => rfl, fun _ => rfl⟩, fun _ => rfl⟩
  | setRttStream id stream => exact changed id ⟨⟨fun _ => rfl, fun _ => rfl⟩, fun _ => rfl⟩
  | setRedialEnabled id enabled => exact (governsMembers.handlesMember id).legOnly fun _ => rfl
  | setSelectionActive id active => exact (governsMembers.handlesMember id).legOnly fun _ => rfl
  | reassign id phone subscription technology carrier =>
    exact changed id ⟨⟨fun _ => rfl, fun _ => rfl⟩, fun _ => rfl⟩
  | setHoldAllowed id allowed => exact handled_setHoldAllowed governsMembers id allowed
  | attend on => exact handled_sameConferences governsMembers fun _ => ⟨rfl, rfl, rfl, rfl, rfl⟩
  | create params => cases keepsConference
  | setConference id conference => cases keepsConference
  | addListener id listener => cases keepsConference
  | removeListener id listener => cases keepsConference

end

variable {law : Law Diary} {wiring : Wiring Diary} {id : ConnectionId}

theorem handled_setConference (handles : law.Handles wiring id)
    (conference : Option ConferenceId) : (setConference id conference).Obeys law wiring := by
  refine .bind (.look id) fun call => ?_
  split
  · exact .pure _
  · exact handles.publish ⟨fun _ => rfl, fun _ => rfl⟩ (handles.notify (fun _ => rfl) rfl)

section
variable (governs : law.Governs wiring)
include governs

theorem governed_governsMembers : law.GovernsMembers wiring where
  sameConferences sameConferences :=
    governs.apart ⟨sameConferences.connections, sameConferences.outside⟩
  handlesMember id := (governs.handles id).handlesMember
  bridged := governs.bridged

theorem governed_move (move : Move) : move.kept.Obeys law wiring := by
  have plain {step : Act Diary Unit} (obeys : step.Obeys law wiring) :
      Obeys (do (do glance; pure ()); step) law wiring :=
    .bind (.bind governs.glance fun _ => .pure _) fun _ => obeys
  have handled {move : Move} (keepsConference : move.isInternal = true) :
      move.act.Obeys law wiring :=
    handled_move (governed_governsMembers governs) keepsConference
  cases move with
  | create params => exact plain (.bind (governs.create params) fun _ => .pure _)
  | setConference id conference =>
    exact plain (handled_setConference (governs.handles id) conference)
  | addListener id listener => exact governs.addListener id listener
  | removeListener id listener => exact governs.removeListener id listener
  | _ =>
    refine plain (handled ?_)
    rfl

theorem governed_habit (habit : Habit Diary) : habit.kept.Obeys law wiring := by
  induction habit with
  | rest => exact .pure _
  | look next ih => exact .bind governs.glance fun _ => .bind .get fun system => ih system
  | make move next ih => exact .bind (governed_move governs move) fun _ => ih

end
end Act

theorem Law.Governs.abide {law : Law Diary} {wiring : Wiring Diary} (governs : law.Governs wiring)
    (hear : String → ConnectionId → ConnectionEvent → Habit Diary) (bridged : Habit Diary) :
    (Bystanders.diarists hear bridged).Abide law (fun _ => True) wiring where
  bears :=
    { aside := fun aside => governs.apart ⟨aside.connections, aside.outside⟩
      setHoldAllowed := Act.handled_setHoldAllowed (Act.governed_governsMembers governs)
      setConference := fun id => Act.handled_setConference (governs.handles id) }
  strikes id system := governs.apart ⟨rfl, rfl⟩
  follows _ _ id work := by
    refine .bind .get fun system => ?_
    split
    · exact Act.obeys_apart governs.apart fun _ => ⟨rfl, rfl⟩
    · exact (governs.handles id).disconnect _
  hear _ _ _ := Act.governed_habit governs _
  bridged := Act.governed_habit governs _

/-- A law that governs is obeyed by everything that goes on. -/
theorem Law.Governs.run {law : Law Diary} {bystanders : Bystanders Diary} {rounds : Nat}
    (governs : law.Governs (.kept bystanders rounds)) {moves : List Move}
    {start after : System Diary} (holds : law.holds start)
    (runs : Move.keptRun bystanders rounds moves start = some after) :
    law.holds after ∧ law.leads start after := by
  induction moves generalizing start with
  | nil =>
    cases runs
    exact ⟨holds, law.refl _⟩
  | cons move moves ih =>
    rw [Move.keptRun_cons] at runs
    obtain ⟨next, first, others⟩ := Option.bind_eq_some_iff.mp runs
    obtain ⟨⟨⟨⟩, last⟩, ran, rfl⟩ := Option.map_eq_some_iff.mp first
    obtain ⟨kept, led⟩ := Act.governed_move governs move start holds _ _ ran
    obtain ⟨kept, more⟩ := ih kept others
    exact ⟨kept, law.trans led more⟩

end Switchboard
