import Switchboard.Proofs.Laws
import Switchboard.Proofs.LegOwners

/-! Two wirings compared. If two wirings do the same wherever legs are bound to their owners only,
and keep that so, then every step of the exchange does the same under both, and keeps it too
(`Act.SameUnder`). So two worlds that differ only in events that have no effect lead to the same
systems. -/

namespace Switchboard

namespace Act

variable {α β ι : Type}

def Matches (owner : LegId → ConnectionId) (one two : Wiring Ties) (first second : Act Ties α) :
    Prop :=
  ∀ system : System Ties, system.LegsOwned owner →
    second two system = first one system ∧
      first.Ensures one system fun _ after => after.LegsOwned owner

abbrev SameUnder (step : Act Ties α) (owner : LegId → ConnectionId) (one two : Wiring Ties) :
    Prop :=
  Matches owner one two step step

variable {owner : LegId → ConnectionId} {one two : Wiring Ties}

namespace Matches

theorem pure (value : α) : Matches owner one two (pure value) (pure value) :=
  fun _ legsOwned => ⟨rfl, (ensures_pure _ _).mpr legsOwned⟩

theorem bind {first second : Act Ties α} {next other : α → Act Ties β}
    (begins : Matches owner one two first second)
    (rest : ∀ value, Matches owner one two (next value) (other value)) :
    Matches owner one two (first >>= next) (second >>= other) := by
  intro system legsOwned
  obtain ⟨same, keeps⟩ := begins system legsOwned
  refine ⟨?_, ?_⟩
  · rw [bind_run, bind_run, same]
    refine Option.bind_congr fun outcome ran => ?_
    exact (rest outcome.1 outcome.2 (keeps _ _ ran)).1
  · rw [ensures_bind]
    exact keeps.mono fun value after legsOwned => (rest value after legsOwned).2

theorem get : Matches owner one two (get : Act Ties (System Ties)) get :=
  fun _ legsOwned => ⟨rfl, (ensures_get _).mpr legsOwned⟩

theorem look (id : ConnectionId) : Matches owner one two (look id) (look id) :=
  bind get fun _ => pure _

theorem modify {change : System Ties → System Ties}
    (keeps : ∀ system : System Ties, system.LegsOwned owner → (change system).LegsOwned owner) :
    Matches owner one two (modify change) (modify change) :=
  fun system legsOwned => ⟨rfl, (ensures_modify _ _).mpr (keeps system legsOwned)⟩

theorem forM {work other : ι → Act Ties PUnit} (items : List ι)
    (each : ∀ item ∈ items, Matches owner one two (work item) (other item)) :
    Matches owner one two (items.forM work) (items.forM other) := by
  induction items with
  | nil => exact pure _
  | cons item rest ih =>
    exact bind (each item (by simp)) fun _ => ih fun item among => each item (by simp [among])

theorem via {first second next other : Act Ties α} {system middle : System Ties}
    (rest : Matches owner one two next other) (legsOwned : middle.LegsOwned owner)
    (begins : first one system = next one middle) (also : second two system = other two middle) :
    second two system = first one system ∧
      first.Ensures one system fun _ after => after.LegsOwned owner := by
  obtain ⟨same, keeps⟩ := rest middle legsOwned
  refine ⟨by rw [begins, also, same], fun value after ran => ?_⟩
  rw [begins] at ran
  exact keeps value after ran

end Matches

theorem sameUnder_revise (id : ConnectionId) (change : Connection → Connection)
    (same : ∀ call, (change call).bond = call.bond) : (revise id change).SameUnder owner one two :=
  .modify fun _ legsOwned => legsOwned.revise id (same _)

theorem sameUnder_aside {change : System Ties → System Ties}
    (connections : ∀ system, (change system).connections = system.connections)
    (legs : ∀ system, (change system).legs = system.legs)
    (outside : ∀ system, (change system).outside = system.outside) :
    SameUnder (modify change) owner one two :=
  .modify fun system legsOwned =>
    legsOwned.aside (connections system) (legs system) (outside system)

theorem sameUnder_write (entry : Entry) : (write entry).SameUnder owner one two :=
  sameUnder_aside (fun _ => rfl) (fun _ => rfl) fun _ => rfl

theorem sameUnder_signal (news : Signal) : (signal news).SameUnder owner one two :=
  sameUnder_aside (fun _ => rfl) (fun _ => rfl) fun _ => rfl

theorem sameUnder_announce (notice : Notice) : (announce notice).SameUnder owner one two :=
  sameUnder_aside (fun _ => rfl) (fun _ => rfl) fun _ => rfl

theorem unbind_run (id : ConnectionId) (wiring : Wiring Ties) (system : System Ties) :
    unbind id wiring system = (pure () : Act Ties Unit) wiring (system.unbound id) :=
  run_eq_of_ensures fun goal => (ensures_unbind id goal).trans (ensures_pure () goal).symm

theorem sameUnder_unbind (id : ConnectionId) : (unbind id).SameUnder owner one two :=
  fun _ legsOwned =>
    (Matches.pure ()).via (legsOwned.unbind id rfl rfl) (unbind_run ..) (unbind_run ..)

theorem sameUnder_dropRetry (id : ConnectionId) : (dropRetry id).SameUnder owner one two :=
  sameUnder_aside (fun _ => rfl) (fun _ => rfl) fun _ => rfl

theorem sameUnder_finishSelection (id : ConnectionId) :
    (finishSelection id).SameUnder owner one two := by
  refine .bind .get fun system => ?_
  generalize system.registry.session.finish id = outcome
  obtain ⟨finishes, session⟩ := outcome
  refine .bind (sameUnder_aside (fun _ => rfl) (fun _ => rfl) fun _ => rfl) fun _ => ?_
  split
  · exact sameUnder_write _
  · exact .pure _

end Act

def Wiring.sameUnderWirings (owner : LegId → ConnectionId) (one two : Wiring Ties) :
    Trait Ties where
  has step := step.SameUnder owner one two
  pure := .pure
  bind := .bind
  get := .get
  failure := fun _ _ => ⟨rfl, Act.ensures_failure _⟩

structure Wiring.SameTelling (owner : LegId → ConnectionId) (one two : Wiring Ties) : Prop where
  rounds : two.rounds = one.rounds
  tell (listeners : List Listener) (id : ConnectionId) (event : ConnectionEvent) :
    (Act.tell listeners id event).SameUnder owner one two
  bridged : Act.bridged.SameUnder owner one two

namespace Act

variable {owner : LegId → ConnectionId} {one two : Wiring Ties}
    (sameTelling : Wiring.SameTelling owner one two)
include sameTelling

theorem sameUnder_notify (id : ConnectionId) (event : ConnectionEvent) :
    (notify id event).SameUnder owner one two :=
  .bind (.look id) fun call => sameTelling.tell call.listeners id event

theorem sameUnder_letGo (id : ConnectionId) :
    SameUnder (do unbind id; destroy id) owner one two := by
  intro system legsOwned
  have freed : (system.unbound id).LegsOwned owner := legsOwned.unbind id rfl rfl
  have rest : SameUnder (do
      notify id .destroyed
      revise id ({ · with listeners := [] })) owner one two :=
    .bind (sameUnder_notify sameTelling id _) fun _ => sameUnder_revise id _ fun _ => rfl
  have starts (wiring : Wiring Ties) (goal : Unit → System Ties → Prop) :
      (do unbind id; destroy id).Ensures wiring system goal ↔
        (destroy id).Ensures wiring (system.unbound id) goal := by
    rw [ensures_bind]
    exact ensures_unbind id _
  by_cases gone : ((system.unbound id).connection id).destroyed = true
  · have stays (wiring : Wiring Ties) : (do unbind id; destroy id : Act Ties Unit) wiring system =
        (pure () : Act Ties Unit) wiring (system.unbound id) := by
      refine run_eq_of_ensures fun goal => (starts wiring goal).trans ?_
      rw [destroy, ensures_bind, ensures_look, if_pos gone]
    exact (Matches.pure ()).via freed (stays one) (stays two)
  · have goes (wiring : Wiring Ties) : (do unbind id; destroy id : Act Ties Unit) wiring system =
        (do
          notify id .destroyed
          revise id ({ · with listeners := [] }) : Act Ties Unit) wiring
            ((system.unbound id).reviseConnection id ({ · with destroyed := true })) := by
      refine run_eq_of_ensures fun goal => (starts wiring goal).trans ?_
      rw [destroy, ensures_bind, ensures_look, if_neg gone, ensures_bind, ensures_revise]
    exact rest.via (freed.loosen (system.leg_unbound id) rfl rfl) (goes one) (goes two)

theorem sameUnder_rounds : rounds.SameUnder owner one two := by
  intro system legsOwned
  refine ⟨?_, (ensures_rounds _).mpr legsOwned⟩
  change some (two.rounds, system) = some (one.rounds, system)
  rw [sameTelling.rounds]

theorem sameUnder_publishes (id : ConnectionId) :
    (Wiring.sameUnderWirings owner one two).Publishes id where
  rounds := sameUnder_rounds sameTelling
  clerical clerical := sameUnder_revise id _ fun call => by rw [clerical call]; rfl
  signal := sameUnder_signal _
  commit {next} rest system legsOwned := by
    have starts (wiring : Wiring Ties) : (commit id >>= next) wiring system =
        next (system.connection id).commit.1 wiring
          (system.reviseConnection id fun _ => (system.connection id).commit.2) :=
      run_eq_of_ensures fun goal => by rw [ensures_bind, ensures_commit]
    exact (rest _ fun _ => Connection.plain_of_commit).via
      (legsOwned.revise id (Connection.commit_bond _)) (starts one) (starts two)
  notify _ := sameUnder_notify sameTelling id _
  letGo := sameUnder_letGo sameTelling id

theorem sameUnder_change (id : ConnectionId) (change : Connection → Connection)
    (same : ∀ call, (change call).bond = call.bond) :
    SameUnder (do revise id change; update id) owner one two :=
  (sameUnder_publishes sameTelling id).change (sameUnder_revise id change same)

theorem sameUnder_setDisconnected (id : ConnectionId) (info : DisconnectInfo) :
    (setDisconnected id info).SameUnder owner one two :=
  (sameUnder_publishes sameTelling id).setDisconnected (sameUnder_revise id _ fun _ => rfl)

theorem sameUnder_arranges : (Wiring.sameUnderWirings owner one two).Arranges where
  regroup regroups := .modify fun system legsOwned => by
    rw [regroups system]
    exact legsOwned.aside rfl rfl rfl
  created _ := sameUnder_announce _
  removed _ := sameUnder_announce _
  setHoldAllowed id _ :=
    (sameUnder_publishes sameTelling id).setHoldAllowed (sameUnder_revise id _ fun _ => rfl)
  setConference id := (sameUnder_publishes sameTelling id).setConference

theorem sameUnder_dismiss (id : ConnectionId) : (dismiss id).SameUnder owner one two := by
  have rest : SameUnder (do
      untrack (.connection id)
      recalculate
      announce (.connectionRemoved id)) owner one two :=
    .bind ((sameUnder_arranges sameTelling).untrack _) fun _ =>
      .bind (sameUnder_arranges sameTelling).recalculate
      fun _ => sameUnder_announce _
  refine .bind (sameUnder_dropRetry id) fun _ => .bind .get fun _ => ?_
  split
  · exact .bind (sameUnder_finishSelection id) fun _ => rest
  · exact rest

theorem sameUnder_follow (id : ConnectionId) (work : FollowUp) :
    (follow id work).SameUnder owner one two := by
  refine .bind .get fun system => ?_
  split
  · exact sameUnder_signal _
  · exact sameUnder_setDisconnected sameTelling id _

theorem sameUnder_attend (id : ConnectionId) (event : ConnectionEvent) :
    (attend id event).SameUnder owner one two := by
  cases event with
  | stateChanged old new =>
    rw [attend]
    split
    · exact .bind (sameUnder_dropRetry id) fun _ => (sameUnder_arranges sameTelling).recalculate
    · exact (sameUnder_arranges sameTelling).recalculate
  | propertiesChanged props => exact (sameUnder_arranges sameTelling).recalculate
  | conferenceChanged conference => exact (sameUnder_arranges sameTelling).passVerdicts
  | redialRequested phone permanent => exact sameUnder_follow sameTelling id _
  | reselectionRequested cause code => exact sameUnder_follow sameTelling id _
  | destroyed =>
    rw [attend, unregister_eq]
    refine .bind .get fun system => ?_
    split
    · exact .bind (sameUnder_aside (fun _ => rfl) (fun _ => rfl) fun _ => rfl) fun _ =>
        sameUnder_dismiss sameTelling id
    · exact .pure _
  | _ => exact .pure _

theorem sameUnder_heeds (id : ConnectionId) : (Wiring.sameUnderWirings owner one two).Heeds id where
  scenic scenic := sameUnder_change sameTelling id _ fun call => by rw [scenic call]; rfl
  giveUp {event} _ system legsOwned := by
    have starts (wiring : Wiring Ties) : (do
        revise id ({ · with awaitingRedial := true })
        unbind id
        notify id event : Act Ties Unit) wiring system =
          notify id event wiring (system.givenUp id) :=
      run_eq_of_ensures fun goal => ensures_giveUp id _ goal
    exact (sameUnder_notify sameTelling id event).via (legsOwned.unbind id rfl rfl)
      (starts one) (starts two)
  disconnect := sameUnder_setDisconnected sameTelling id

theorem sameUnder_move {move : Move} (unbinding : ∀ id leg, move ≠ .bind id leg) :
    move.act.SameUnder owner one two := by
  cases move with
  | create params =>
    exact .bind (.bind .get fun _ => .bind (.modify fun _ legsOwned => legsOwned.create params)
      fun _ => .pure _) fun _ => .pure _
  | createLeg view =>
    exact .bind (.bind .get fun _ => .bind (.modify fun _ legsOwned => legsOwned.createLeg view)
      fun _ => .pure _) fun _ => .pure _
  | bind id leg => exact absurd rfl (unbinding id leg)
  | unbind id => exact sameUnder_unbind id
  | report leg event =>
    exact Trait.Heeds.report (sameUnder_heeds sameTelling)
      (.modify fun _ legsOwned => legsOwned.reviseLeg leg fun _ => rfl)
  | reportLate leg event =>
    exact .bind (Trait.Heeds.reportLate (sameUnder_heeds sameTelling) leg event) fun _ => .pure _
  | inform id event => exact (sameUnder_heeds sameTelling id).currentLegEvent event
  | disconnect id info => exact sameUnder_setDisconnected sameTelling id info
  | close id =>
    exact (sameUnder_publishes sameTelling id).close (sameUnder_setDisconnected sameTelling id _)
  | presentHolding id =>
    refine .bind (.look id) fun _ => ?_
    split
    · exact .pure _
    · exact sameUnder_change sameTelling id _ fun _ => rfl
  | setRedialEnabled id enabled => exact sameUnder_revise id _ fun _ => rfl
  | setSelectionActive id active => exact sameUnder_revise id _ fun _ => rfl
  | setHoldAllowed id allowed => exact (sameUnder_arranges sameTelling).setHoldAllowed id allowed
  | setConference id conference =>
    exact (sameUnder_arranges sameTelling).setConference id conference
  | addListener id listener =>
    refine .bind (.bind (.look id) fun _ => ?_) fun _ => .pure _
    split
    · exact .pure _
    · exact .bind (sameUnder_revise id _ fun _ => rfl) fun _ => .pure _
  | removeListener id listener =>
    exact .bind (.bind (.look id) fun _ => .bind (sameUnder_revise id _ fun _ => rfl) fun _ =>
      .pure _) fun _ => .pure _
  | attend on => exact sameUnder_aside (fun _ => rfl) (fun _ => rfl) fun _ => rfl
  | _ => exact sameUnder_change sameTelling _ _ fun _ => rfl

end Act
end Switchboard
