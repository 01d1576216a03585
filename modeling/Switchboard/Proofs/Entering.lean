import Switchboard.Proofs.Books
import Switchboard.Proofs.Enrolling

/-! Entering calls in the books. A call that is new belongs to no conference, so that only verdicts
are passed on when it is tracked; and whatever happens at an occasion keeps the books, calls that
come in included. -/

namespace Switchboard

namespace System

variable {system : System Chronicle} {technologies : ConnectionId → Technology}

theorem living_joined {call : Connection} (alive : call.destroyed = false)
    (plans : List (ConnectionId × DialPlan)) :
    (system.joined call plans).living =
      system.living ++ [.issued system.connections.length] := by
  have count : (system.joined call plans).connections.length = system.connections.length + 1 := by
    simp [joined]
  have older : ((List.range system.connections.length).map ConnectionId.issued).filter
      (fun id => !((system.joined call plans).connection id).destroyed) = system.living := by
    refine List.filter_congr fun id among => ?_
    obtain ⟨serial, inside, rfl⟩ := List.mem_map.mp among
    have known : system.Known (.issued serial) := List.mem_range.mp inside
    rw [connection_joined_of_known _ known]
  rw [living, count, List.range_succ, List.map_append, List.filter_append, older]
  simp [connection_joined_newest, alive]

theorem group_joined (params : CallParameters) (redial : Bool)
    (plans : List (ConnectionId × DialPlan)) (liveRegistered : system.LiveRegistered) :
    (system.joined (.enlisted params redial) plans).group = system.group := by
  have older (id : ConnectionId) (among : id ∈ system.registry.connections) :
      (system.joined (.enlisted params redial) plans).connection id = system.connection id :=
    system.connection_joined_of_known
      (system.known_of_alive ((liveRegistered.alive_iff id).mp among))
  funext technologies technology
  have listed : (system.joined (.enlisted params redial) plans).registry.connections =
      system.registry.connections ++ [.issued system.connections.length] := rfl
  rw [group, listed, List.filter_append]
  have lone : [ConnectionId.issued system.connections.length].filter (fun id =>
      technologies id == technology &&
        ((system.joined (.enlisted params redial) plans).connection id).isMultiparty &&
          ((system.joined (.enlisted params redial) plans).connection
            id).published.state.isConnected)
      = [] := by
    simp [connection_joined_newest, Connection.enlisted, Connection.create, Connection.isMultiparty]
  rw [lone, List.append_nil]
  exact List.filter_congr fun id among => by rw [older id among]

/-- A new call that is tracked as well; all that is left is to pass on verdicts. -/
def entered (system : System Chronicle) (params : CallParameters) (redial : Bool)
    (plans : List (ConnectionId × DialPlan)) : System Chronicle :=
  let joined := system.joined (.enlisted params redial) plans
  { joined with tracked := joined.tracked ++ [.connection (.issued system.connections.length)] }

theorem connection_entered (params : CallParameters) (redial : Bool)
    (plans : List (ConnectionId × DialPlan)) (id : ConnectionId) :
    (system.entered params redial plans).connection id =
      (system.joined (.enlisted params redial) plans).connection id := by
  cases id <;> rfl

theorem each_entered {params : CallParameters} {redial : Bool}
    (plans : List (ConnectionId × DialPlan)) {motive : ConnectionId → Connection → Prop}
    (newest : motive (.issued system.connections.length) (.enlisted params redial))
    (others : ∀ other, motive other (system.connection other)) (other : ConnectionId) :
    motive other ((system.entered params redial plans).connection other) := by
  rw [connection_entered]
  exact each_joined system plans newest others other

namespace Books

variable (books : system.Books technologies)
include books

theorem next_not_listed : .issued system.connections.length ∉ system.registry.connections :=
  fun among => system.not_known_next (system.known_of_alive ((books.alive_iff _).mp among))

theorem next_not_tracked : .connection (.issued system.connections.length) ∉ system.tracked :=
  fun among => books.next_not_listed ((books.enrolled _).mp among)

variable (params : CallParameters) (redial : Bool) (plans : List (ConnectionId × DialPlan))

theorem near_entered : (system.entered params redial plans).Near where
  steady id := by
    rw [connection_entered]
    exact (books.rest.joined params redial plans).steady id
  near := each_entered plans (motive := fun _ call => call.Near) (fun _ => rfl)
    fun other alive => congrArg Published.bare (books.shown other alive)

theorem current_entered (id : ConnectionId) :
    ((system.entered params redial plans).connection id).Current :=
  each_entered plans (motive := fun _ call => call.Current) (fun _ => .inl rfl)
    (fun other alive => .inl (congrArg (·.caps) (books.shown other alive))) id

theorem liveRegistered_entered : (system.entered params redial plans).LiveRegistered where
  placed {technology conference} here := by
    cases conference <;> exact books.placed here
  grounded := books.grounded
  member {id conference} := each_entered plans
    (motive := fun id call => call.conference = some conference → ∃ technology,
      system.desk.get technology = some conference ∧ id ∈ (system.conference conference).members)
    nofun (fun _ => books.member) id
  belongs {technology conference id} here among := by
    have member := books.belongs here among
    rw [connection_entered,
      connection_joined_of_known system (known_of_conference member)]
    exact member
  conferences conference := by
    change Holdable.conference conference ∈ system.tracked ++ [.connection _] ↔ _
    rw [List.mem_append, List.mem_singleton]
    exact (or_iff_left fun same => by cases same).trans (books.conferences conference)
  distinct := by
    change (system.tracked ++ [Holdable.connection _]).Nodup
    rw [List.nodup_append]
    refine ⟨books.distinct, by simp, fun entity among other own same => ?_⟩
    rw [List.mem_singleton.mp own] at same
    exact books.next_not_tracked (same ▸ among)
  roster := by
    change system.registry.connections ++ [_] =
      (system.joined (.enlisted params redial) plans).living
    rw [living_joined rfl, books.roster]
  enrolled id := by
    change Holdable.connection id ∈ system.tracked ++ [.connection _] ↔
      id ∈ system.registry.connections ++ [_]
    simp [books.enrolled]
  heard {id} := each_entered plans
    (motive := fun _ call => call.destroyed = false → .exchange ∈ call.listeners)
    (fun _ => List.mem_singleton_self _) (fun _ => books.heard) id

theorem formed_entered : (system.entered params redial plans).Formed technologies := by
  intro technology turn
  have group : (system.entered params redial plans).group = system.group :=
    group_joined params redial plans books.toLiveRegistered
  rw [gathered, group]
  exact books.formed technology turn

end Books

end System

namespace Act

variable {system : System Chronicle} {technologies : ConnectionId → Technology} {rounds : Nat}

theorem books_track (books : system.Books technologies) (params : CallParameters) (redial : Bool)
    (plans : List (ConnectionId × DialPlan)) :
    (track (.connection (.issued system.connections.length))).Ensures (.level .silent rounds)
      (system.joined (.enlisted params redial) plans) fun _ after =>
        after.Books technologies ∧ after.recounts = system.recounts := by
  have rest := books.rest.joined params redial plans
  intro value after run
  have ripple :=
    rippling_track (Wiring.ripples_notes rounds) (.connection (.issued _)) _ rest.steady
    value after run
  let joined := system.joined (.enlisted params redial) plans
  let entered := system.entered params redial plans
  have passes : (track (.connection (.issued system.connections.length))).Ensures
      (.level .silent rounds) joined fun _ after =>
        entered.VerdictsOnly after ∧ ∀ entity ∈ entered.tracked,
          after.verdict entity = after.mayHold entity := by
    have apart :
        joined.tracked.contains (.connection (.issued system.connections.length)) = false := by
      simpa [joined, System.joined] using books.next_not_tracked
    rw [track, ensures_bind, ensures_get, apart]
    simp only [Bool.false_eq_true, if_false, ensures_bind, ensures_modify]
    exact verdictsOnly_passVerdicts (books.near_entered params redial plans)
  obtain ⟨verdictsOnly, judged⟩ := passes value after run
  have atRest : after.AtRest := ripple.atRest rest
  exact ⟨{
    verdictsOnly.liveRegistered (books.liveRegistered_entered params redial plans) with
    rest := atRest
    shown := atRest.shown
      (fun other => verdictsOnly.near other ((books.near_entered params redial plans).near other))
      fun other => verdictsOnly.renews other (books.current_entered params redial plans other)
    formed := verdictsOnly.alike.formed (books.formed_entered params redial plans)
    judged := fun entity among => judged entity (verdictsOnly.tracked ▸ among)
    attended := ripple.attended.trans books.attended }, verdictsOnly.unheard⟩

theorem keepsBooks_nextPhone (id : ConnectionId) (failed : PhoneId) (permanent : Bool) :
    (nextPhone id failed permanent : Act Chronicle (Option PhoneId)).KeepsBooks rounds :=
  keepsBooks_beside fun system _ => by
    simp only [nextPhone, ensures_bind, ensures_get, ensures_set, ensures_pure]
    exact ⟨rfl, rfl, rfl, rfl, rfl, rfl, rfl⟩

theorem keepsBooks_enroll (request : CallRequest) (placement : Placement) :
    (enroll request placement : Act Chronicle ConnectionId).KeepsBooks rounds := by
  intro system technologies books
  rw [ensures_enroll, introduce, ensures_bind]
  refine (books_track books _ _ _).mono fun _ now entered => ?_
  obtain ⟨tracked, unheard⟩ := entered
  rw [ensures_bind, ensures_announce]
  have finish (id : ConnectionId) (next : System Chronicle) (beside : now.Beside next) :
      (do
        if request.rtt then setRttStream id (some ("rtt-" ++ id.text))
        return id : Act Chronicle ConnectionId).Ensures (.level .silent rounds) next
          fun _ after => after.Books (system.recalled after technologies) := by
    have unheard := beside.unheard.trans unheard
    dsimp only
    split
    · rw [ensures_bind]
      refine ((keepsBooks_setRttStream _ _).onward (beside.books tracked) unheard).mono
        fun _ after last => ?_
      rw [ensures_pure]
      exact last
    · exact (keepsBooks_pure _).onward (beside.books tracked) unheard
  cases placement.number.emergency with
  | true =>
    simp only [if_true, ensures_bind, ensures_get, ensures_reviseRegistry]
    refine finish _ _ ?_
    exact ⟨rfl, rfl, rfl, rfl, rfl, rfl, rfl⟩
  | false =>
    refine finish _ _ ?_
    exact ⟨rfl, rfl, rfl, rfl, rfl, rfl, rfl⟩

theorem keepsBooks_arrival {params : CallParameters} {leg : LegId} {gained : System Chronicle}
    {technologies : ConnectionId → Technology} (books : gained.Books technologies) :
    (do
      register (.issued gained.connections.length)
      bind (.issued gained.connections.length) leg).Ensures (.level .silent rounds)
        { gained with connections := gained.connections ++ [Connection.create params] }
        fun _ after => after.Books (gained.recalled after technologies) := by
  rw [ensures_bind]
  refine (@ensures_register_newest _ gained (.create params) [] rfl _).mpr ?_
  refine (books_track books params false []).mono fun _ now ⟨tracked, unheard⟩ => ?_
  rw [ensures_announce]
  have told : now.Beside { now with
      notices := .connectionAdded (.issued gained.connections.length) :: now.notices } :=
    ⟨rfl, rfl, rfl, rfl, rfl, rfl, rfl⟩
  exact (keepsBooks_bind _ leg).onward (told.books tracked) unheard

end Act

theorem Occasion.keepsBooks (occasion : Occasion) (rounds : Nat) :
    occasion.act.KeepsBooks rounds := by
  intro system technologies books
  have noted (note : Note) : system.Beside (system.noting note) :=
    ⟨rfl, rfl, rfl, rfl, rfl, rfl, rfl⟩
  have gained (view : RadioSnapshot) (note : Note) : system.Beside (system.gained view note) :=
    ⟨rfl, rfl, rfl, rfl, rfl, rfl, rfl⟩
  have unchanged : system.Beside system := ⟨rfl, rfl, rfl, rfl, rfl, rfl, rfl⟩
  cases occasion with
  | start operation => exact Act.keepsBooks_pure _ books
  | resume position => exact Act.keepsBooks_pure _ books
  | ring phone view =>
    refine ensures_ring (unchanged.kept books) fun slot => ?_
    exact Act.keepsBooks_arrival ((gained view _).books books)
  | report leg event =>
    rw [act, Act.ensures_bind, Act.ensures_reviseOutside]
    exact (Act.keepsBooks_report leg event).onward ((noted _).books books) rfl
  | reportLate leg event =>
    rw [act, Act.ensures_bind, Act.ensures_reviseOutside, Act.ensures_bind]
    refine ((Act.keepsBooks_reportLate leg event).onward ((noted _).books books) rfl).mono
      fun _ after last => ?_
    rw [Act.ensures_pure]
    exact last
  | grant ticket view =>
    exact ensures_grant (unchanged.kept books) fun _ _ => (gained view _).kept books
  | reply ticket content =>
    exact ensures_reply (unchanged.kept books) fun _ => (noted _).kept books
  | alter change =>
    rw [act, Act.ensures_reviseDevice]
    refine System.Beside.kept ?_ books
    exact ⟨rfl, rfl, rfl, rfl, rfl, rfl, rfl⟩
  | pass milliseconds =>
    rw [act, Act.ensures_modify]
    refine System.Beside.kept ?_ books
    exact ⟨rfl, rfl, rfl, rfl, rfl, rfl, rfl⟩
  | watch id name =>
    rw [act, Act.ensures_bind]
    refine (Act.keepsBooks_addListener id _ books).mono fun _ after last => ?_
    rw [Act.ensures_pure]
    exact last

end Switchboard
