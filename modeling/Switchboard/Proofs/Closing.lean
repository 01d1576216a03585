import Switchboard.Proofs.PublishedStates

/-! What a closed connection shows. A connection that is destroyed shows as disconnected, to those
who look and to those who wait, unless it was closed on the air. Then its end is never
published. -/

namespace Switchboard
namespace Act

variable {wiring : Wiring ClosedOnAir}

theorem publishedStates_create (params : CallParameters) :
    (create params).Obeys publishedStates wiring := by
  refine .bind .get fun _ => .bind (.modify fun system holds => ?_) fun _ => .pure _
  let id := ConnectionId.issued system.connections.length
  have strange : ¬ system.Known id := Nat.lt_irrefl _
  have uncut : id ∉ system.outside := by
    intro cut
    refine ((holds.showsPublished id).cut cut).1 ?_
    rw [system.connection_of_not_known strange]
    rfl
  have differ {other : ConnectionId} (known : system.Known other) : other ≠ id :=
    fun same => strange (same ▸ known)
  refine ⟨⟨fun other => ?_, fun other _ => ?_⟩, ?_⟩
  · rw [System.connection_append]
    split
    · rename_i same
      rw [same]
      exact ⟨rfl, nofun, nofun, fun cut => absurd cut uncut⟩
    · exact holds.showsPublished other
  · rw [System.connection_append]
    split
    · exact nofun
    · exact holds.announced other nofun
  · have read {α : Type} (get : Connection → α) (same : get (.create params) = get .absent)
        (other : ConnectionId) : get (({ system with
          connections := system.connections ++ [.create params] } : System ClosedOnAir).connection
            other) =
            get (system.connection other) :=
      system.read_append get same other
    have stays {other : ConnectionId} (known : system.Known other) : ({ system with
        connections := system.connections ++ [.create params] } : System ClosedOnAir).connection
          other =
          system.connection other := by
      rw [System.connection_append, if_neg (differ known)]
    exact {
      known := fun other known => by
        cases other with
        | issued serial => exact Nat.lt_of_lt_of_le known (by simp)
        | outsider value => exact known
      publishing := fun other _ => read (·.publishing) rfl other
      busy := fun other _ telling => by
        have known : system.Known other := by
          refine Decidable.byContradiction fun strange => ?_
          rw [system.connection_of_not_known strange] at telling
          cases telling
        rw [stays known]
      ended := fun other known past => stays known ▸ past
      gone := fun other known dead => stays known ▸ dead
      closedOnAir := fun _ among => among
      fresh := fun _ among => .inl among }

section
variable (obeys : wiring.Obeys publishedStates fun _ => True)
include obeys

theorem publishedStates_change (id : ConnectionId) (change : Connection → Connection)
    (same : ∀ call, (change call).lifecycle = call.lifecycle) :
    Obeys (do revise id change; update id) publishedStates wiring :=
  .bind (publishedStates_revise id change same) fun _ => publishedStates_update obeys id

theorem publishedStates_setHoldAllowed (id : ConnectionId) (allowed : Bool) :
    (setHoldAllowed id allowed).Obeys publishedStates wiring := by
  refine .bind (.look id) fun call => ?_
  split
  · exact .pure _
  · exact publishedStates_change obeys id _ fun _ => rfl

theorem publishedStates_setConference (id : ConnectionId) (conference : Option ConferenceId) :
    (setConference id conference).Obeys publishedStates wiring := by
  refine .bind (.look id) fun call => ?_
  split
  · exact .pure _
  · exact .bind (publishedStates_revise id _ fun _ => rfl) fun _ =>
      .bind (publishedStates_notify obeys id _) fun _ => publishedStates_update obeys id

theorem publishedStates_bind (id : ConnectionId) (leg : LegId) :
    (bind id leg).Obeys publishedStates wiring := by
  refine .bind .get fun now => .bind (.look id) fun call =>
    .bind (publishedStates_revise id _ fun _ => rfl) fun _ => ?_
  have attaching : Obeys (do
      attach leg { connection := id, generation := call.generation + 1 }
      update id) publishedStates wiring :=
    .bind (.bind (publishedStates_modify (fun _ => rfl) fun _ => rfl) fun _ =>
      obeys.bridged) fun _ =>
      publishedStates_update obeys id
  split
  · exact .bind (publishedStates_modify (fun _ => rfl) fun _ => rfl) fun _ => attaching
  · exact attaching

theorem publishedStates_legEnded (id : ConnectionId) (failure : RadioFailure) (code : Int)
    (message : String) : (legEnded id failure code message).Obeys publishedStates wiring := by
  refine .bind (.look id) fun call => ?_
  split
  · exact .bind (publishedStates_revise id _ fun _ => rfl) fun _ =>
      .bind (publishedStates_unbind id) fun _ =>
      publishedStates_notify obeys id _
  · exact .bind (publishedStates_revise id _ fun _ => rfl) fun _ =>
      .bind (publishedStates_unbind id) fun _ =>
      publishedStates_notify obeys id _
  · exact publishedStates_setDisconnected obeys id _

theorem publishedStates_legEvent (id : ConnectionId) (generation : Nat) (event : RadioEvent) :
    (legEvent id generation event).Obeys publishedStates wiring := by
  refine .bind (.look id) fun call => ?_
  split
  · cases event with
    | disconnected failure code message =>
      exact publishedStates_legEnded obeys id failure code message
    | stateChanged next =>
      dsimp only
      split
      · exact publishedStates_change obeys id _ fun _ => rfl
      · exact .pure _
    | _ => exact publishedStates_change obeys id _ fun _ => rfl
  · exact .pure _

theorem publishedStates_close (id : ConnectionId) :
    Obeys (do Move.remark (.close id); close id) publishedStates wiring := by
  intro system holds
  have own := holds.showsPublished id
  dsimp only [Move.remark]
  rw [ensures_bind, ensures_bind, ensures_look]
  split
  · rename_i air
    obtain ⟨telling, live⟩ : (system.connection id).publishing = true ∧
        (system.connection id).published.state.isLive = true := by
      simpa [Connection.isOnAir] using air
    rw [ensures_reviseOutside]
    let noted : System ClosedOnAir := { system with outside := id :: system.outside }
    have same (other : ConnectionId) : noted.connection other = system.connection other := by
      cases other <;> rfl
    have allShowPublished : publishedStates.holds noted := by
      refine ⟨fun other => ?_, fun other _ => ?_⟩
      · have showsPublished := holds.showsPublished other
        rw [same]
        refine ⟨showsPublished.watched, showsPublished.started, fun gone =>
          (showsPublished.gone gone).imp_right
          (.tail _), fun cut => ?_⟩
        rcases List.mem_cons.mp cut with rfl | old
        · exact ⟨by simpa [CallState.isLive] using live, .inl telling⟩
        · exact showsPublished.cut old
      · rw [same]
        exact holds.announced other (Option.some_ne_none _)
    refine (ensures_close obeys allShowPublished fun _ => List.mem_cons_self).mono ?_
    rintro _ after ⟨holds, later, gone⟩
    refine ⟨holds, ?_⟩
    have known : system.Known id := by
      refine Decidable.byContradiction fun strange => ?_
      rw [system.connection_of_not_known strange] at telling
      cases telling
    exact {
      known := fun other here => later.known other (by cases other <;> exact here)
      publishing := fun other allowed => (later.publishing other allowed).trans
        (congrArg _ (same other))
      busy := fun other allowed telling => (later.busy other allowed
        (same other ▸ telling)).trans (congrArg _ (same other))
      ended := fun other here past => later.ended other (by cases other <;> exact here)
        (same other ▸ past)
      gone := fun other here dead => later.gone other (by cases other <;> exact here)
        (same other ▸ dead)
      closedOnAir := fun other among => later.closedOnAir other (.tail _ among)
      fresh := fun other among => by
        rcases later.fresh other among with old | new
        · rcases List.mem_cons.mp old with rfl | old
          · have here : noted.Known other := by cases other <;> exact known
            exact .inr ⟨later.known other here, gone here⟩
          · exact .inl old
        · exact .inr new }
  · rename_i off
    rw [ensures_pure]
    refine (ensures_close obeys holds fun on => absurd on off).mono fun _ after all => ?_
    exact ⟨all.1, all.2.1⟩

theorem publishedStates_move (move : Move) :
    Obeys (do move.remark; move.act) publishedStates wiring := by
  have plain {step : Act ClosedOnAir Unit} (holds : step.Obeys publishedStates wiring) :
      Obeys (pure () >>= fun _ : Unit => step) publishedStates wiring :=
        .bind (.pure _) fun _ => holds
  cases move with
  | create params =>
    exact plain (.bind (publishedStates_create params) fun _ => .pure _)
  | createLeg view =>
    exact plain
      (.bind (.bind .get fun _ => .bind (publishedStates_modify (fun _ => rfl) fun _ => rfl)
      fun _ => .pure _) fun _ => .pure _)
  | bind id leg => exact plain (publishedStates_bind obeys id leg)
  | unbind id => exact plain (publishedStates_unbind id)
  | report leg event =>
    refine plain (.bind (publishedStates_modify (fun _ => rfl) fun _ => rfl) fun _ =>
      .bind .get fun _ => ?_)
    split
    · exact publishedStates_legEvent obeys _ _ event
    · exact .pure _
  | reportLate leg event =>
    refine plain (.bind (.bind .get fun _ => ?_) fun _ => .pure _)
    split
    · exact .bind (publishedStates_legEvent obeys _ _ event) fun _ => .pure _
    · exact .pure _
  | inform id event =>
    exact plain (.bind (.look id) fun _ => publishedStates_legEvent obeys id _ event)
  | disconnect id info => exact plain (publishedStates_setDisconnected obeys id info)
  | close id => exact publishedStates_close obeys id
  | presentHolding id =>
    refine plain (.bind (.look id) fun _ => ?_)
    split
    · exact .pure _
    · exact publishedStates_change obeys id _ fun _ => rfl
  | setRedialEnabled id enabled => exact plain (publishedStates_revise id _ fun _ => rfl)
  | setSelectionActive id active => exact plain (publishedStates_revise id _ fun _ => rfl)
  | setHoldAllowed id allowed => exact plain (publishedStates_setHoldAllowed obeys id allowed)
  | setConference id conference => exact plain (publishedStates_setConference obeys id conference)
  | addListener id listener =>
    refine plain (.bind (.bind (.look id) fun _ => ?_) fun _ => .pure _)
    split
    · exact .pure _
    · exact .bind (publishedStates_revise id _ fun _ => rfl) fun _ => .pure _
  | removeListener id listener =>
    exact plain
      (.bind (.bind (.look id) fun _ => .bind (publishedStates_revise id _ fun _ => rfl) fun _ =>
      .pure _) fun _ => .pure _)
  | attend on => exact plain (publishedStates_modify (fun _ => rfl) fun _ => rfl)
  | _ => exact plain (publishedStates_change obeys _ _ fun _ => rfl)

end
end Act

theorem Bystanders.abide_publishedStates (hear : String → ConnectionId → ConnectionEvent →
    Habit ClosedOnAir)
    (bridged : Habit ClosedOnAir) (wiring : Wiring ClosedOnAir)
      (obeys : wiring.Obeys publishedStates fun _ => True) :
    (ofHabits hear bridged).Abide publishedStates (fun _ => True) wiring where
  bears :=
    { aside := fun aside => Act.publishedStates_of_connections aside.connections aside.outside
      setHoldAllowed := Act.publishedStates_setHoldAllowed obeys
      setConference := Act.publishedStates_setConference obeys }
  strikes id system := Act.publishedStates_of_connections rfl rfl
  follows _ _ id work := by
    refine .bind .get fun system => ?_
    split
    · exact Act.publishedStates_modify (fun _ => rfl) fun _ => rfl
    · exact Act.publishedStates_setDisconnected obeys id _
  hear _ _ _ :=
    Habit.obeys_act (fun move _ => Act.publishedStates_move obeys move) (Habit.only_any _)
  bridged := Habit.obeys_act (fun move _ => Act.publishedStates_move obeys move) (Habit.only_any _)

namespace Move

variable {hear : String → ConnectionId → ConnectionEvent → Habit ClosedOnAir}
    {bridged : Habit ClosedOnAir}
  {rounds : Nat} {moves : List Move} {start after : System ClosedOnAir} {id : ConnectionId}

theorem act_of_quiet {wiring : Wiring ClosedOnAir} {system : System ClosedOnAir}
    (quiet : ∀ id, (system.connection id).publishing = false) (move : Move) :
    (do move.remark; move.act : Act ClosedOnAir Unit) wiring system = move.act wiring system := by
  cases move with
  | close id =>
    have off : (system.connection id).isOnAir = false := by
      rw [Connection.isOnAir, quiet, Bool.false_and]
    have unnoted : remark (.close id) wiring system = some ((), system) := by
      have looked : (Act.look id : Act ClosedOnAir Connection) wiring system =
          some (system.connection id, system) := rfl
      rw [remark, Act.bind_run, looked, Option.bind_some, off]
      rfl
    rw [Act.bind_run, unnoted]
    rfl
  | _ => rfl

theorem publishedStates_run (runs : run (.ofHabits hear bridged) rounds moves start = some after)
    (holds : publishedStates.holds start) (quiet : ∀ id, (start.connection id).publishing = false) :
    publishedStates.holds after ∧ ∀ id, (after.connection id).publishing = false := by
  have obeys := Wiring.obeys_level (Bystanders.abide_publishedStates hear bridged) rounds
  induction moves generalizing start with
  | nil =>
    cases runs
    exact ⟨holds, quiet⟩
  | cons move moves ih =>
    rw [run_cons] at runs
    obtain ⟨next, first, others⟩ := Option.bind_eq_some_iff.mp runs
    simp only [run, List.foldlM_cons, List.foldlM_nil, bind_pure] at first
    obtain ⟨⟨⟨⟩, last⟩, ran, rfl⟩ := Option.map_eq_some_iff.mp first
    rw [← act_of_quiet quiet] at ran
    obtain ⟨allShowPublished, later⟩ := Act.publishedStates_move obeys move start holds _ _ ran
    exact ih others allShowPublished fun id =>
      (later.publishing id (Option.some_ne_none _)).trans (quiet id)

/-- Whatever those do who are told of it, a connection that is destroyed shows that it is
disconnected, both to those who look and to those who wait, exactly if nobody closed it on the
air. -/
theorem destroyed_shows_iff (fresh : start.connections = []) (uncut : start.outside = [])
    (runs : run (.ofHabits hear bridged) rounds moves start = some after)
    (gone : (after.connection id).destroyed = true) :
    (after.connection id).published.state = .disconnected ∧
      (after.connection id).watched = .disconnected ↔ id ∉ after.outside := by
  have nobody (other : ConnectionId) : start.connection other = .absent :=
    start.connection_of_not_known (by cases other <;> simp [System.Known, fresh])
  have holds : publishedStates.holds start := by
    refine ⟨fun other => ?_, fun other _ => ?_⟩
    · rw [nobody, uncut]
      exact ⟨rfl, fun _ => rfl, fun _ => .inl rfl, fun cut => absurd cut List.not_mem_nil⟩
    · rw [nobody]
      exact fun _ => .inl rfl
  obtain ⟨allShowPublished, -⟩ := publishedStates_run runs holds fun other => by rw [nobody]; rfl
  have showsPublished := allShowPublished.showsPublished id
  constructor
  · rintro ⟨shown, -⟩ cut
    exact (showsPublished.cut cut).1 shown
  · intro whole
    have shown := (showsPublished.gone gone).resolve_right whole
    exact ⟨shown, showsPublished.watched.trans shown⟩

/-- Somebody closes each call as soon as they hear that it is active. -/
def closesActive : String → ConnectionId → ConnectionEvent → Habit ClosedOnAir
  | _, id, .stateChanged _ .active => .make (.close id) .rest
  | _, _, _ => .rest

/-- A call is dialed and becomes active. -/
def connectedCall : List Move := [
  .create { phone := ⟨0⟩, technology := .ims },
  .addListener (.issued 0) (.observer "closer"),
  .createLeg { state := .dialing, technology := .ims },
  .bind (.issued 0) ⟨0⟩,
  .report ⟨0⟩ (.stateChanged .active)]

/-- The call that is closed when somebody hears that it is active is destroyed, and goes on to show
as active. -/
theorem closed_call_shows_active : ∃ after,
    run (.ofHabits closesActive .rest) 4 connectedCall { outside := [] } = some after ∧
      (after.connection (.issued 0)).destroyed = true ∧
      (after.connection (.issued 0)).published.state = .active ∧
      (after.connection (.issued 0)).watched = .active := by
  have whole : (run (.ofHabits closesActive .rest) 4 connectedCall { outside := [] }).any
      (fun after => (after.connection (.issued 0)).destroyed &&
        (after.connection (.issued 0)).published.state == .active &&
        (after.connection (.issued 0)).watched == .active) = true := by decide +kernel
  obtain ⟨after, run, shows⟩ := (Option.any_eq_true _ _).mp whole
  simp only [Bool.and_eq_true, beq_iff_eq] at shows
  exact ⟨after, run, shows.1.1, shows.1.2, shows.2⟩

theorem closed_call_cutOff : ∃ after,
    run (.ofHabits closesActive .rest) 4 connectedCall { outside := [] } = some after ∧
      (after.connection (.issued 0)).destroyed = true ∧ .issued 0 ∈ after.outside := by
  have whole : (run (.ofHabits closesActive .rest) 4 connectedCall { outside := [] }).any
      (fun after => (after.connection (.issued 0)).destroyed &&
        (after.connection (.issued 0)).published.state == .active) = true := by decide +kernel
  obtain ⟨after, runs, shows⟩ := (Option.any_eq_true _ _).mp whole
  simp only [Bool.and_eq_true, beq_iff_eq] at shows
  obtain ⟨gone, active⟩ := shows
  refine ⟨after, runs, gone, Decidable.byContradiction fun whole => ?_⟩
  have shown := ((destroyed_shows_iff rfl rfl runs gone).mpr whole).1
  rw [active] at shown
  cases shown

end Move
end Switchboard
