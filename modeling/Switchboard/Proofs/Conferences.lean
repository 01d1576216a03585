import Mathlib.Data.List.Nodup
import Switchboard.Proofs.Trace

/-! Conferences and holding between two things that happen. The conferences of the exchange are
those of the registered connections, with the technologies that these had when it last brought its
conferences up to date. They are what recalculation would give as long as that makes no difference,
and it can make one: a technology may change without a change that the exchange takes notice of.
Holding goes by the conferences that there are, and it is exposed exactly when it should be. -/

namespace Switchboard

variable {rounds : Nat} {before after last : System Chronicle}
  {technologies : ConnectionId → Technology}

namespace System

/-- The technologies that the exchange goes by after some steps. -/
def recalledAlong (trace : Trace) (technologies : ConnectionId → Technology) :
    ConnectionId → Technology :=
  trace.foldl (fun now step => step.1.recalled step.2 now) technologies

theorem Books.opening (settings : Settings) (device : Device) :
    let system := (Office.opening settings device).system
    system.Books system.technologyOf := by
  intro system
  have absent (id : ConnectionId) : system.connection id = .absent := by cases id <;> rfl
  have vacant (technology : Technology) : system.desk.get technology = none := by
    cases technology <;> rfl
  exact {
    placed := fun {technology _} here => by
      rw [vacant] at here
      cases here
    grounded := rfl
    member := fun {id _} member => by
      rw [absent] at member
      cases member
    belongs := fun {technology _ _} here => by
      rw [vacant] at here
      cases here
    conferences := fun conference => by
      refine ⟨nofun, fun ⟨technology, here⟩ => ?_⟩
      rw [vacant] at here
      cases here
    distinct := List.nodup_nil
    roster := rfl
    enrolled := fun id => ⟨nofun, nofun⟩
    heard := fun {id} alive => by
      rw [absent] at alive
      cases alive
    rest := ⟨fun id => by rw [absent]; exact Connection.steady_absent, fun id => by
      rw [absent]
      rfl⟩
    shown := fun id alive => by
      rw [absent] at alive
      cases alive
    formed := fun technology _ => by
      cases technology <;> rfl
    judged := nofun
    attended := rfl }

end System

theorem TaskStep.keepsBooks {own : ConnectionId → Prop} {system : System Chronicle} {β : Type}
    {step : Act Chronicle β} (taskStep : TaskStep own system step) : step.KeepsBooks rounds := by
  have noted (note : Note) : (Act.reviseOutside (note :: ·)).KeepsBooks rounds :=
    Act.keepsBooks_beside fun system _ => by
      rw [Act.ensures_reviseOutside]
      exact ⟨rfl, rfl, rfl, rfl, rfl, rfl, rfl⟩
  cases taskStep with
  | get =>
    refine Act.keepsBooks_beside fun system _ => ?_
    rw [Act.ensures_get]
    exact ⟨rfl, rfl, rfl, rfl, rfl, rfl, rfl⟩
  | look id =>
    refine Act.keepsBooks_beside fun system _ => ?_
    rw [Act.ensures_look]
    exact ⟨rfl, rfl, rfl, rfl, rfl, rfl, rfl⟩
  | rounds =>
    refine Act.keepsBooks_beside fun system _ => ?_
    rw [Act.ensures_rounds]
    exact ⟨rfl, rfl, rfl, rfl, rfl, rfl, rfl⟩
  | failure => exact fun _ _ _ => Act.ensures_failure _
  | note plain => exact noted _
  | disconnect id info => exact Act.keepsBooks_setDisconnected id info
  | startSelection id => exact Act.keepsBooks_startSelection id
  | finishSelection id => exact Act.keepsBooks_finishSelection id
  | setSelectionActive id active => exact Act.keepsBooks_setSelectionActive id active
  | nextPhone mine failed permanent => exact Act.keepsBooks_nextPhone _ failed permanent
  | reassign mine phone subscription technology carrier =>
    exact Act.keepsBooks_reassign _ phone subscription technology carrier
  | bind mine leg => exact Act.keepsBooks_bind _ leg
  | dial mine held phone domain => exact noted _
  | enroll mine allowed => exact Act.keepsBooks_enroll _ _

theorem Happens.books (happens : Happens rounds before after) (books : before.Books technologies) :
    after.Books (before.recalled after technologies) := by
  cases happens with
  | taskStep taskStep run => exact taskStep.keepsBooks books _ _ run
  | world occasion run => exact occasion.keepsBooks rounds books _ _ run

theorem Reaches.books {start : System Chronicle} {trace : Trace}
    (reaches : Reaches rounds start trace last) (books : start.Books technologies) :
    last.Books (System.recalledAlong trace technologies) := by
  induction reaches with
  | refl => exact books
  | step reaches happens ih =>
    rw [System.recalledAlong, List.foldl_append]
    exact happens.books ih
  | absorb reaches ih =>
    refine System.Beside.books ?_ ih
    exact ⟨rfl, rfl, rfl, rfl, rfl, rfl, rfl⟩

/-! What recalculation would do -/

namespace Act

variable {ε : Type} {wiring : Wiring ε} {system : System ε} {technology : Technology}
  {connections : List ConnectionId}

theorem aggregate_none (same : system.seatedAt technology = system.wants connections technology) :
    aggregate .desk technology connections wiring system = some (none, system) := by
  rw [System.seatedAt, System.wants] at same
  rw [aggregate, bind_run]
  change (do _ : Act ε _) wiring system = _
  cases here : system.desk.get technology with
  | none =>
    rw [here] at same
    dsimp only at same ⊢
    have slot : (system.slots .desk).get technology = none := here
    rw [slot]
    split at same
    · cases same
    · rename_i few
      dsimp only
      rw [if_pos (by simpa using few)]
      rfl
  | some conference =>
    rw [here] at same
    have slot : (system.slots .desk).get technology = some conference := here
    rw [slot]
    dsimp only at same ⊢
    split at same
    · rename_i enough
      rw [if_neg (by simpa using enough), if_pos]
      · rfl
      · exact beq_iff_eq.mpr (Option.some.inj same)
    · cases same

theorem aggregate_only_none (technology : Technology) (connections : List ConnectionId) :
    (aggregate .desk technology connections).Ensures wiring system fun change after =>
      change = none → after = system ∧
        system.seatedAt technology = system.wants connections technology := by
  have never {change : ConferenceChange} {goal : Prop} (same : some change = none) : goal :=
    nomatch same
  rw [aggregate, ensures_bind, ensures_get]
  dsimp only
  have slot : (system.slots .desk).get technology = system.desk.get technology := rfl
  rw [slot, System.seatedAt, System.wants]
  cases here : system.desk.get technology with
  | none =>
    dsimp only
    split
    · rename_i few
      rw [ensures_pure, if_neg (by simpa using few)]
      exact fun _ => ⟨rfl, rfl⟩
    · simp only [ensures_bind, ensures_pure]
      exact fun _ _ _ _ _ _ _ _ _ same => never same
  | some conference =>
    dsimp only
    split
    · simp only [ensures_bind, ensures_pure]
      exact fun _ _ _ _ _ _ _ _ _ same => never same
    · rename_i enough
      split
      · rename_i settled
        rw [ensures_pure, if_pos (by simpa using enough)]
        exact fun _ => ⟨rfl, congrArg some (beq_iff_eq.mp settled)⟩
      · simp only [ensures_bind, ensures_pure]
        exact fun _ _ _ _ _ _ same => never same

theorem aggregateAll_eq_iff (wiring : Wiring ε) (system : System ε)
    (connections : List ConnectionId) :
    aggregateAll connections wiring system = some ([], system) ↔
      ∀ technology ∈ System.conferencing,
        system.seatedAt technology = system.wants connections technology := by
  have still (turns : List Technology) (same : ∀ technology ∈ turns,
      system.seatedAt technology = system.wants connections technology) :
      turns.mapM (aggregate .desk · connections) wiring system =
        some (turns.map fun _ => none, system) := by
    induction turns with
    | nil => rfl
    | cons technology rest ih =>
      rw [List.mapM_cons, bind_run, aggregate_none (same _ List.mem_cons_self)]
      dsimp only [Option.bind_some]
      rw [bind_run, ih fun other later => same other (.tail _ later)]
      rfl
  have found (turns : List Technology) :
      (turns.mapM (aggregate .desk · connections)).Ensures wiring system fun changes after =>
        changes.filterMap id = [] → after = system ∧ ∀ technology ∈ turns,
          system.seatedAt technology = system.wants connections technology := by
    induction turns with
    | nil => exact (ensures_pure _ _).mpr fun _ => ⟨rfl, nofun⟩
    | cons technology rest ih =>
      rw [List.mapM_cons, ensures_bind]
      refine (aggregate_only_none technology connections).mono fun change middle first => ?_
      rw [ensures_bind]
      intro changes after run
      rw [ensures_pure]
      intro nothing
      obtain ⟨rfl, nothing⟩ : change = none ∧ changes.filterMap id = [] := by
        cases change with
        | none => exact ⟨rfl, nothing⟩
        | some change => cases nothing
      obtain ⟨rfl, own⟩ := first rfl
      obtain ⟨same, others⟩ := ih changes after run nothing
      exact ⟨same, List.forall_mem_cons.mpr ⟨own, others⟩⟩
  constructor
  · intro run
    rw [aggregateAll, bind_run] at run
    obtain ⟨⟨changes, after⟩, turns, last⟩ := Option.bind_eq_some_iff.mp run
    have nothing : changes.filterMap id = [] := congrArg Prod.fst (Option.some.inj last)
    exact (found _ changes after turns nothing).2
  · intro same
    rw [aggregateAll, bind_run, still _ same]
    rfl

end Act

namespace System

/-- Who is on their own in the exchange: live connections outside conferences, and live
conferences. -/
def topLevel (system : System Chronicle) : Nat :=
  (system.registry.connections.filter fun id =>
      (system.connection id).published.state.isLive &&
        (system.connection id).conference.isNone).length +
    (system.currentConferences.filter system.conferenceIsLive).length

variable {system : System Chronicle}

theorem living_nodup (system : System Chronicle) : system.living.Nodup := by
  refine List.Nodup.filter _ ?_
  rw [List.nodup_iff_pairwise_ne, List.pairwise_map]
  exact List.nodup_range.imp fun differ same => differ (ConnectionId.issued.inj same)

theorem DeskValid.nodup {ε : Type} {system : System ε} (deskValid : system.DeskValid) :
    system.currentConferences.Nodup := by
  have apart {technology other : Technology} (differ : technology ≠ other)
    {conference : ConferenceId}
      (here : system.desk.get technology = some conference) :
      system.desk.get other ≠ some conference := fun there => differ (deskValid.unique here there)
  rw [currentConferences, List.nodup_iff_pairwise_ne, List.pairwise_filterMap]
  refine List.Pairwise.imp (fun {technology other} differ conference here last there same => ?_)
    (show conferencing.Pairwise (· ≠ ·) by decide)
  exact apart differ here (same ▸ there)

theorem DeskValid.mem_currentConferences {ε : Type} {system : System ε}
    (deskValid : system.DeskValid)
    (conference : ConferenceId) :
    conference ∈ system.currentConferences ↔
      ∃ technology, system.desk.get technology = some conference := by
  rw [currentConferences, List.mem_filterMap]
  constructor
  · exact fun ⟨technology, _, here⟩ => ⟨technology, here⟩
  · rintro ⟨technology, here⟩
    refine ⟨technology, ?_, here⟩
    cases technology with
    | satellite =>
      rw [deskValid.grounded] at here
      cases here
    | _ => decide

theorem LiveRegistered.tracked_perm (liveRegistered : system.LiveRegistered) :
    system.tracked.Perm (system.registry.connections.map Holdable.connection ++
      system.currentConferences.map Holdable.conference) := by
  refine (List.perm_ext_iff_of_nodup liveRegistered.distinct ?_).mpr fun entity => ?_
  · refine List.nodup_append.mpr ⟨?_, ?_, ?_⟩
    · refine List.Nodup.map (fun _ _ => Holdable.connection.inj) ?_
      rw [liveRegistered.roster]
      exact living_nodup system
    · exact List.Nodup.map (fun _ _ => Holdable.conference.inj) liveRegistered.toDeskValid.nodup
    · intro first one second other same
      obtain ⟨id, -, rfl⟩ := List.mem_map.mp one
      obtain ⟨conference, -, rfl⟩ := List.mem_map.mp other
      cases same
  · rw [List.mem_append, List.mem_map, List.mem_map]
    cases entity with
    | connection id => simp [liveRegistered.enrolled]
    | conference conference =>
      simp [liveRegistered.conferences, liveRegistered.toDeskValid.mem_currentConferences]

theorem LiveRegistered.standing (liveRegistered : system.LiveRegistered) :
    system.standing = system.topLevel := by
  rw [System.standing, (liveRegistered.tracked_perm.filter _).length_eq, List.filter_append,
    List.length_append, List.filter_map, List.filter_map, List.length_map, List.length_map]
  rfl

end System

theorem Connection.facts_hold (call : Connection) :
    call.facts.emergency = call.isEmergency ∧ call.facts.technology = call.technology ∧
      call.facts.holdAllowed = call.holdAllowed := by
  unfold facts isEmergency
  cases call.view <;> simp

namespace Office

variable {settings : Settings} {device : Device} {occasions : List Occasion} {office : Office}

theorem books (reached : (opening settings device).run rounds occasions = some office) :
    office.system.Books (System.recalledAlong ((opening settings device).trace rounds occasions)
      (opening settings device).system.technologyOf) :=
  (reaches_trace reached).books (System.Books.opening settings device)

/-- The conferences are always those of the registered connections that are multiparty and
connected, in the order in which these were created, with the technologies that they had at the last
recalculation. So recalculation would change nothing exactly if it makes no difference which
technologies have changed since. -/
theorem recalculation_idle_iff
    (reached : (opening settings device).run rounds occasions = some office) :
    let recalled := System.recalledAlong ((opening settings device).trace rounds occasions)
      (opening settings device).system.technologyOf
    office.system.registry.connections = office.system.living ∧
      (∀ technology ∈ System.conferencing,
        office.system.seatedAt technology = office.system.gathered recalled technology) ∧
      (Act.aggregateAll office.system.registry.connections (.level .silent rounds) office.system =
          some ([], office.system) ↔
        ∀ technology ∈ System.conferencing,
          office.system.gathered recalled technology =
            office.system.gathered office.system.technologyOf technology) := by
  intro recalled
  have books := books reached
  refine ⟨books.roster, books.formed, (Act.aggregateAll_eq_iff _ _ _).trans ?_⟩
  refine forall₂_congr fun technology turn => ?_
  rw [books.formed technology turn]
  exact Iff.rfl

/-- A call comes in that is a conference of its own, and moves to another technology. -/
def retuned : List Occasion := [
  .ring ⟨0⟩ { state := .active, technology := .ims, multiparty := true },
  .report ⟨0⟩ (.technologyChanged .gsm)]

/-- The conference is still one of the first technology, as it was when the exchange last looked. -/
theorem retuned_recalled : ∃ office,
    (opening {} Roster.lonePhone).run 20 retuned = some office ∧
      office.system.seatedAt .ims = office.system.gathered
        (System.recalledAlong ((opening {} Roster.lonePhone).trace 20 retuned)
          (opening {} Roster.lonePhone).system.technologyOf) .ims ∧
      office.system.seatedAt .ims = some [.issued 0] := by
  have seated : ((opening {} Roster.lonePhone).run 20 retuned).any (fun office =>
      office.system.seatedAt .ims == some [.issued 0]) = true := by decide +kernel
  obtain ⟨office, reached, seated⟩ := (Option.any_eq_true _ _).mp seated
  exact ⟨office, reached, (recalculation_idle_iff reached).2.1 .ims (by decide), eq_of_beq seated⟩

/-- Nobody is at work, and recalculation would dissolve the conference. -/
theorem retuned_lags : ∃ office,
    (opening {} Roster.lonePhone).run 20 retuned = some office ∧ office.isIdle = true ∧
      office.system.seatedAt .ims = some [.issued 0] ∧
      office.system.gathered office.system.technologyOf .ims = none ∧
      Act.aggregateAll office.system.registry.connections (.level .silent 20) office.system ≠
        some ([], office.system) := by
  have lags : ((opening {} Roster.lonePhone).run 20 retuned).any (fun office =>
      office.isIdle && office.system.seatedAt .ims == some [.issued 0] &&
        office.system.gathered office.system.technologyOf .ims == none) = true := by decide +kernel
  obtain ⟨office, reached, lags⟩ := (Option.any_eq_true _ _).mp lags
  simp only [Bool.and_eq_true, beq_iff_eq] at lags
  obtain ⟨⟨idle, seated⟩, none⟩ := lags
  refine ⟨office, reached, idle, seated, none, fun still => ?_⟩
  have same := (Act.aggregateAll_eq_iff _ _ _).mp still .ims (by decide)
  rw [seated] at same
  cases same.trans none

/-- A call can be held exactly if it is an ordinary IMS call that is up, in no conference, and not
the only one there is, and its carrier allows that; a conference exactly if it is live, and not the
only one there is. -/
theorem hold_exposed_iff (reached : (opening settings device).run rounds occasions = some office) :
    (∀ id ∈ office.system.registry.connections,
      let call := office.system.connection id
      call.published.caps.hold = true ↔
        call.isEmergency = false ∧ call.technology = .ims ∧ call.carrier.allowHold = true ∧
          call.published.state.isConnected = true ∧ call.conference = none ∧
          2 ≤ office.system.topLevel) ∧
      ∀ conference ∈ office.system.currentConferences,
        (office.system.conference conference).holdAllowed = true ↔
          office.system.conferenceIsLive conference = true ∧ 2 ≤ office.system.topLevel := by
  have books := books reached
  refine ⟨fun id listed => ?_, fun conference current => ?_⟩
  · have shown := books.shown id ((books.alive_iff id).mp listed)
    have verdict := books.judged (.connection id) ((books.enrolled id).mpr listed)
    have allowed : (office.system.connection id).holdAllowed =
        ((office.system.connection id).published.state.isLive &&
          (office.system.connection id).conference.isNone && decide
            (2 ≤ office.system.topLevel)) := by
      rw [← books.toLiveRegistered.standing]
      exact verdict
    have state : (office.system.connection id).facts.state =
        (office.system.connection id).published.state := congrArg (·.state) shown.symm
    have hold : (office.system.connection id).published.caps.hold =
        ((office.system.connection id).facts.holdEligible (office.system.connection id).carrier &&
          (office.system.connection id).facts.holdAllowed) := by
      rw [shown]
      exact CallFacts.capabilities_hold _ _
    have facts := (office.system.connection id).facts_hold
    dsimp only
    rw [hold, CallFacts.holdEligible, CallFacts.isPacket, facts.1, facts.2.1, facts.2.2,
      state, allowed]
    have live := @CallState.isLive_of_isConnected (office.system.connection id).published.state
    simp only [Bool.and_eq_true, Bool.not_eq_true', beq_iff_eq, decide_eq_true_eq,
      Option.isNone_iff_eq_none]
    tauto
  · have verdict := books.judged (.conference conference)
      ((books.conferences conference).mpr ((books.toDeskValid.mem_currentConferences _).mp current))
    have allowed : (office.system.conference conference).holdAllowed =
        (office.system.conferenceIsLive conference && decide (2 ≤ office.system.topLevel)) := by
      rw [← books.toLiveRegistered.standing]
      exact verdict
    rw [allowed]
    simp

/-- Two calls come in, and the first is up. -/
def pair : List Occasion := [
  .ring ⟨0⟩ { state := .active, technology := .ims },
  .ring ⟨0⟩ { state := .ringing, technology := .ims }]

theorem pair_holds : ∃ office,
    (opening {} Roster.lonePhone).run 20 pair = some office ∧
      .issued 0 ∈ office.system.registry.connections ∧
      (office.system.connection (.issued 0)).published.caps.hold = true ∧
      2 ≤ office.system.topLevel := by
  have holds : ((opening {} Roster.lonePhone).run 20 pair).any (fun office =>
      office.system.registry.connections.contains (.issued 0) &&
        (office.system.connection (.issued 0)).published.caps.hold) = true := by decide +kernel
  obtain ⟨office, reached, holds⟩ := (Option.any_eq_true _ _).mp holds
  obtain ⟨listed, offered⟩ := Bool.and_eq_true_iff.mp holds
  have listed := List.contains_iff_mem.mp listed
  obtain ⟨-, -, -, -, -, enough⟩ := ((hold_exposed_iff reached).1 _ listed).mp offered
  exact ⟨office, reached, listed, offered, enough⟩

end Office
end Switchboard
