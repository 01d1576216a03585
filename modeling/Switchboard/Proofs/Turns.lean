import Switchboard.Proofs.RegistryConsistency

/-! Who takes which turn. Whatever a task does and whatever happens at an occasion is a turn of the
books, as long as sequences are started and legs are bound only for calls that are live
(`Rightful`). -/

namespace Switchboard

variable {rounds : Nat} {α β : Type} {before after system : System Chronicle} {id : ConnectionId}

namespace System

/-- The call has got a leg of this view; if the leg was over by then, so is the call. -/
structure Connects (system : System Chronicle) (id : ConnectionId) (view : RadioSnapshot) :
    Prop where
  seen : (system.connection id).view = some view
  expired : view.state = .disconnected →
    (system.connection id).destroyed = true ∧ (system.connection id).leg = none
  lasting : view.state ≠ .disconnected →
    (system.connection id).destroyed = false ∧ (system.connection id).leg.isSome = true

theorem Connects.bare {view : RadioSnapshot} (connects : system.Connects id view)
    (gone : (system.connection id).destroyed = true) : (system.connection id).leg = none := by
  by_cases lapsed : view.state = .disconnected
  · exact (connects.expired lapsed).2
  · rw [(connects.lasting lapsed).1] at gone
    cases gone

end System

namespace Act

theorem connects_bind (rest : system.AtRest)
    (alive : (system.connection id).destroyed = false) (leg : LegId) :
    (bind id leg).Ensures (.level .silent rounds) system fun _ after =>
      after.Connects id (system.leg leg).view := by
  let view := (system.leg leg).view
  let tied := Connection.bound leg view (system.connection id)
  refine (ripple_bind (Wiring.ripples_notes rounds) rest id leg).mono fun _ after ripple => ?_
  have settled : (system.bound id leg).connection id = tied.settled := by
    rw [System.connection_bound, if_pos ⟨rfl, system.known_of_alive alive⟩]
  have shown : tied.visibleState = view.state := by
    simp [tied, Connection.bound, Connection.visibleState, rest.not_ended alive]
  have ending : tied.isEnding = (view.state == .disconnected) := by
    have alive : tied.destroyed = false := alive
    simp [Connection.isEnding, shown, alive]
  have part {γ : Type} (read : Connection → γ)
      (essential : ∀ call : Connection, read call.essence = read call) :
      read (after.connection id) = read tied.settled := by
    rw [ripple.reads read essential, settled]
  have seen : (after.connection id).view = tied.settled.view := part (·.view) fun _ => rfl
  have gone : (after.connection id).destroyed = tied.settled.destroyed :=
    part (·.destroyed) fun _ => rfl
  have held : (after.connection id).leg = tied.settled.leg := part (·.leg) fun _ => rfl
  by_cases lapsed : view.state = .disconnected
  · rw [Connection.settled_of_ending (by rw [ending, lapsed]; rfl)] at seen gone held
    exact ⟨seen, fun _ => ⟨gone, held⟩, fun up => absurd lapsed up⟩
  · have lasts : tied.isEnding = false := ending.trans (beq_false_of_ne lapsed)
    rw [Connection.settled_of_lasting (show tied.destroyed = false from alive) lasts]
      at seen gone held
    exact ⟨seen, fun wrong => absurd wrong lapsed, fun _ => ⟨gone.trans alive, by rw [held]; rfl⟩⟩

end Act

structure Rightful (rounds : Nat) (system : System Chronicle) {β : Type} (step : Act Chronicle β) :
    Prop where
  taskStep : TaskStep (fun _ => True) system step
  turns : system.Balanced → step.Ensures (.level .silent rounds) system fun _ after =>
    system.Turn after ∧ after.connections.length = system.connections.length

namespace Rightful

theorem of_dropsCleanly {step : Act Chronicle β} (taskStep : TaskStep (fun _ => True) system step)
    (obeys : step.Obeys (droppingCleanly fun _ => False) (.level .silent rounds)) :
    Rightful rounds system step where
  taskStep
  turns _ := (obeys system trivial).mono fun _ _ dropsCleanly =>
    ⟨.of_dropsCleanly dropsCleanly.2, dropsCleanly.2.count⟩

theorem note {note : Note} (plain : note.isDialing = false) :
    Rightful rounds system (Act.reviseOutside (note :: ·)) :=
  .of_dropsCleanly (.note plain) (Act.dropsCleanly_modify fun _ => .aside rfl rfl rfl rfl rfl)

theorem permits (rounds : Nat) : Act.Permits fun step => ∀ system, Rightful rounds system step where
  get _ := .of_dropsCleanly .get .get
  look id _ := .of_dropsCleanly (.look id) (.look id)
  failure _ := .of_dropsCleanly .failure fun _ _ => Act.ensures_failure _
  note routine _ := .note (Note.not_isDialing_of_isRoutine routine)
  disconnect id info _ :=
    .of_dropsCleanly (.disconnect id info)
      (Act.dropsCleanly_setDisconnected (Wiring.dropsCleanly_level _ rounds) id info)

theorem readsRounds (system : System Chronicle) : Rightful rounds system Act.rounds :=
  .of_dropsCleanly .rounds
    (.bind (fun system _ => (Act.ensures_read _).mpr ⟨trivial, .refl _ system⟩)
    fun _ => .pure _)

theorem dial {plan : DialPlan} (held : system.planOf? id = some plan) (phone : PhoneId)
    (domain : Option Domain) : Rightful rounds system (Act.reviseOutside
      (.asked (.dial id phone plan.dial (plan.args (system.connection id) domain)) :: ·)) :=
  .of_dropsCleanly (.dial trivial held phone domain)
    (Act.dropsCleanly_modify fun _ => .aside rfl rfl rfl rfl rfl)

theorem finishSelection (id : ConnectionId) : Rightful rounds system (Act.finishSelection id) :=
  .of_dropsCleanly (.finishSelection id) (Act.dropsCleanly_finishSelection id)

theorem setSelectionActive (id : ConnectionId) (active : Bool) :
    Rightful rounds system (Act.setSelectionActive id active) :=
  .of_dropsCleanly (.setSelectionActive id active) (Act.dropsCleanly_revise id _ fun _ => rfl)

theorem reassign (id : ConnectionId) (phone : PhoneId) (subscription : Option SubscriptionId)
    (technology : Technology) (carrier : CarrierConfig) :
    Rightful rounds system (Act.reassign id phone subscription technology carrier) :=
  .of_dropsCleanly (.reassign trivial phone subscription technology carrier)
    (Act.dropsCleanly_change (Wiring.dropsCleanly_level _ rounds) id _ fun _ => rfl)

theorem bind (alive : (system.connection id).destroyed = false) (leg : LegId) :
    Rightful rounds system (Act.bind id leg) where
  taskStep := .bind trivial leg
  turns balanced value after run := by
    have dropsCleanly := (Act.dropsCleanly_bind id leg system trivial value after run).2
    have connects := Act.connects_bind balanced.rest alive leg value after run
    exact ⟨.dropsCleanly dropsCleanly fun _ same => same ▸ connects.bare, dropsCleanly.count⟩

theorem startSelection (alive : (system.connection id).destroyed = false)
    (selector : system.device.hasSelector = true) :
      Rightful rounds system (Act.startSelection id) where
  taskStep := .startSelection id
  turns balanced :=
    (Act.ensures_startSelection id _).mpr
      ⟨.selects ((balanced.up_iff id).mpr alive).1 selector, rfl⟩

end Rightful

theorem Registry.owner_nextPhone (registry : Registry) (id : ConnectionId) (phones : List PhoneId)
    (rounds : Nat) (failed : PhoneId) (permanent : Bool) {queue : RetryQueue}
    (held : (registry.nextPhone id phones rounds failed permanent).2.retry = some queue) :
    queue.owner = id := by
  have next (retry : RetryQueue) : retry.next.2.owner = retry.owner := by
    unfold RetryQueue.next
    split
    · rfl
    · dsimp only
      split_ifs
      · split <;> rfl
      · rfl
  have mine (retry : RetryQueue) (owner : retry.owner = id)
      (held : (if (retry.recordFailure failed permanent).next.1.isSome then
        some (retry.recordFailure failed permanent).next.2 else none) = some queue) :
      queue.owner = id := by
    rw [Option.ite_none_right_eq_some] at held
    rw [← Option.some.inj held.2, next]
    exact owner
  cases old : registry.retry.filter (·.isFor true id) with
  | none =>
    refine mine (.start id phones failed rounds) rfl ?_
    simpa [Registry.nextPhone, old] using held
  | some retry =>
    have own := (Option.filter_eq_some_iff.mp old).2
    exact mine retry (by simpa [RetryQueue.isFor] using own)
      (by simpa [Registry.nextPhone, old] using held)

theorem Rightful.nextPhone (alive : (system.connection id).destroyed = false) (failed : PhoneId)
    (permanent : Bool) : Rightful rounds system (Act.nextPhone id failed permanent) where
  taskStep := .nextPhone trivial failed permanent
  turns balanced := by
    simp only [Act.nextPhone, Act.ensures_bind, Act.ensures_get, Act.ensures_set, Act.ensures_pure]
    generalize List.map _ _ = phones
    have owner := @Registry.owner_nextPhone system.registry id phones
      system.settings.emergencyRetryRounds failed permanent
    generalize picked : system.registry.nextPhone _ _ _ _ _ = outcome at owner ⊢
    have same : outcome.2 = { system.registry with retry := outcome.2.retry } := by
      rw [← picked]
      rfl
    rw [same]
    refine ⟨?_, trivial⟩
    cases held : outcome.2.retry with
    | none =>
      have dropped : system.AddsNoEntry (fun _ => False) _ :=
        .drops system none fun queue none => absurd none.symm (Option.some_ne_none queue)
      exact .of_dropsCleanly (.of_addsNoEntry dropped (fun _ => rfl) rfl)
    | some queue =>
      refine .retries queue ?_
      rw [owner held]
      exact ((balanced.up_iff id).mpr alive).1

theorem Act.tracks_joined {technologies : ConnectionId → Technology}
    (books : system.Books technologies) (params : CallParameters) (redial : Bool)
    (plans : List (ConnectionId × DialPlan)) :
    (track (.connection (.issued system.connections.length))).Ensures (.level .silent rounds)
      (system.joined (.enlisted params redial) plans) fun _ middle =>
        (system.joined (.enlisted params redial) plans).DropsCleanly (fun _ => False) middle ∧
          middle.isRegistered (.issued system.connections.length) = true := by
  intro value middle run
  have dropsCleanly := (dropsCleanly_arranges
    (Wiring.dropsCleanly_level (fun _ => False) rounds)).track _ _ trivial value
    middle run
  have entered := (books_track books params redial plans value middle run).1
  have joined := books.rest.joined params redial plans
  have ripple :=
    rippling_track (Wiring.ripples_notes rounds) (.connection (.issued _)) _ joined.steady
    value middle run
  refine ⟨dropsCleanly.2, List.contains_iff_mem.mpr ((entered.alive_iff _).mpr ?_)⟩
  rw [ripple.destroyed, System.connection_joined_newest]
  rfl

theorem Act.placed_enroll (rest : system.AtRest) (request : CallRequest) (placement : Placement) :
    (enroll request placement).Ensures (.level .silent rounds) system fun id after =>
      id = .issued system.connections.length ∧ (after.connection id).destroyed = false ∧
        (after.planOf? id).isSome = true := by
  have joined : (system.enlisting request placement).AtRest := rest.joined _ _ _
  rw [ensures_enroll]
  let id := ConnectionId.issued system.connections.length
  have newest : (system.enlisting request placement).connection id = .enlisted _ _ :=
    system.connection_joined_newest _ _
  have alive :
      (((system.enlisting request placement).streamed request id).connection id).destroyed =
        false := by
    rw [System.streamed]
    split
    · rw [System.connection_changed]
      split
      · rw [Connection.settled_destroyed, newest]
        rfl
      · rw [newest]
        rfl
    · rw [newest]
      rfl
  have planned : (((system.enlisting request placement).streamed request id).planOf? id).isSome =
      true := by
    have first : ((system.enlisting request placement).planOf? id).isSome = true := by
      simp [System.planOf?, System.enlisting, System.joined, id]
    rw [System.streamed]
    split
    · have books := ((system.enlisting request placement).sameBooks_reviseConnection id
        ({ · with rttStream := some ("rtt-" ++ id.text) })).trans (System.sameBooks_settle _ id)
      have same := books.read (·.planOf? id) fun _ _ _ => rfl
      rw [System.changed, same]
      exact first
    · exact first
  refine (ripple_introduce joined request placement _).mono fun other after introduced => ?_
  obtain ⟨same, ripple⟩ := introduced
  refine ⟨same, ?_⟩
  rw [same, ripple.destroyed]
  refine ⟨alive, ?_⟩
  rcases ripple.plan id with same | ⟨-, gone⟩
  · rw [same]
    exact planned
  · rw [alive] at gone
    cases gone

theorem Act.turns_enroll (balanced : system.Balanced) (request : CallRequest)
    (placement : Placement) :
    (enroll request placement).Ensures (.level .silent rounds) system fun _ after =>
      system.Turn after := by
  let id := ConnectionId.issued system.connections.length
  obtain ⟨technologies, books⟩ := balanced.books
  suffices (enroll request placement).Ensures (.level .silent rounds) system fun _ after =>
      after.isRegistered id = true → system.Turn after by
    intro value after run
    obtain ⟨rfl, alive, -⟩ := placed_enroll balanced.rest request placement value after run
    have kept := keepsBooks_enroll request placement books _ after run
    exact this _ after run (List.contains_iff_mem.mpr ((kept.alive_iff _).mpr alive))
  rw [ensures_enroll, introduce, ensures_bind]
  refine (tracks_joined books _ _ _).mono fun _ middle tracks => ?_
  obtain ⟨tracked, there⟩ := tracks
  have finish (role : Option EmergencyRole) (urgent : role.isSome = placement.number.emergency) :
      (do
        if request.rtt then Act.setRttStream id (some ("rtt-" ++ id.text))
        return id : Act Chronicle ConnectionId).Ensures (.level .silent rounds)
          (middle.introduced id role) fun _ after =>
            after.isRegistered id = true → system.Turn after := by
    have obeys : (do
        if request.rtt then Act.setRttStream id (some ("rtt-" ++ id.text))
        return id : Act Chronicle ConnectionId).Obeys (droppingCleanly fun _ => False)
          (.level .silent rounds) := by
      dsimp only
      split
      · exact .bind (dropsCleanly_change (Wiring.dropsCleanly_level _ rounds) _ _ fun _ => rfl)
          fun _ => .pure _
      · exact .pure _
    refine (obeys _ trivial).mono fun _ after dropsCleanly stays => ?_
    refine .enters rfl (fun entry among => ?_) urgent tracked there dropsCleanly.2
      (fun _ none => none.elim)
      fun _ => stays
    rw [List.mem_singleton.mp among]
  rw [ensures_bind, ensures_announce]
  cases urgent : placement.number.emergency with
  | true =>
    simp only [if_true, ensures_bind, ensures_get, ensures_reviseRegistry]
    exact finish (some _) urgent.symm
  | false => exact finish none urgent.symm

theorem Act.turns_arrival {params : CallParameters} {leg : LegId} {gained : System Chronicle}
    {technologies : ConnectionId → Technology} (books : gained.Books technologies)
    (count : gained.connections.length = system.connections.length)
    (joined : (system.joined (.enlisted params false) []).DropsCleanly (fun _ => False)
      (gained.joined (.enlisted params false) [])) (ordinary : params.emergency = false) :
    (do
      register (.issued gained.connections.length)
      bind (.issued gained.connections.length) leg).Ensures (.level .silent rounds)
        { gained with connections := gained.connections ++ [Connection.create params] }
        fun _ after => system.Turn after := by
  let id := ConnectionId.issued gained.connections.length
  rw [ensures_bind]
  refine (@ensures_register_newest _ gained (.create params) [] rfl _).mpr ?_
  intro value middle run
  obtain ⟨tracked, there⟩ := tracks_joined books params false [] value middle run
  have entered := (books_track books params false [] value middle run).1
  have told : middle.Beside (middle.introduced id none) := ⟨rfl, rfl, rfl, rfl, rfl, rfl, rfl⟩
  have alive : ((middle.introduced id none).connection id).destroyed = false :=
    (entered.alive_iff id).mp (List.contains_iff_mem.mp there)
  rw [ensures_announce]
  intro value after run
  have connects := connects_bind (told.books entered).rest alive leg value after run
  have dropsCleanly := dropsCleanly_bind id leg _ trivial value after run
  rw [count] at there
  refine @System.Turn.enters system (· = id) (.enlisted params false) [] none middle after rfl
    (fun _ none => absurd none List.not_mem_nil) ordinary.symm (joined.trans tracked) there ?_
    (fun _ same => same ▸ connects.bare) nofun
  rw [← count]
  exact dropsCleanly.2

theorem Occasion.turn (occasion : Occasion) (balanced : system.Balanced) :
    occasion.act.Ensures (.level .silent rounds) system fun _ after => system.Turn after := by
  have noted (note : Note) : system.DropsCleanly (fun _ => False) (system.noting note) :=
    .aside rfl rfl rfl rfl rfl
  cases occasion with
  | start operation => exact (Act.ensures_pure _ _).mpr (.refl system)
  | resume position => exact (Act.ensures_pure _ _).mpr (.refl system)
  | ring phone view =>
    refine ensures_ring (.refl system) fun slot => ?_
    obtain ⟨technologies, books⟩ := balanced.books
    have beside : system.Beside (system.gained view (.rang (.issued system.connections.length)
        ⟨system.legs.length⟩)) := ⟨rfl, rfl, rfl, rfl, rfl, rfl, rfl⟩
    exact Act.turns_arrival (beside.books books) rfl (.aside rfl rfl rfl rfl rfl) rfl
  | report leg event =>
    rw [act, Act.ensures_bind, Act.ensures_reviseOutside]
    exact (Act.dropsCleanly_report leg event _ trivial).mono fun _ _ dropsCleanly =>
      .of_dropsCleanly ((noted _).trans dropsCleanly.2)
  | reportLate leg event =>
    rw [act, Act.ensures_bind, Act.ensures_reviseOutside, Act.ensures_bind]
    have obeys : (Act.reportLate leg event).Obeys (droppingCleanly fun _ => False)
        (.level .silent rounds) := Act.dropsCleanly_reportLate leg event
    refine (obeys _ trivial).mono fun _ _ dropsCleanly => ?_
    rw [Act.ensures_pure]
    exact .of_dropsCleanly ((noted _).trans dropsCleanly.2)
  | grant ticket view =>
    exact ensures_grant (.refl system) fun _ _ => .of_dropsCleanly (.aside rfl rfl rfl rfl rfl)
  | reply ticket content =>
    exact ensures_reply (.refl system) fun _ => .of_dropsCleanly (.aside rfl rfl rfl rfl rfl)
  | alter change =>
    rw [act, Act.ensures_reviseDevice]
    exact .alters change
  | pass milliseconds =>
    rw [act, Act.ensures_modify]
    exact .of_dropsCleanly (.aside rfl rfl rfl rfl rfl)
  | watch id name =>
    rw [act, Act.ensures_bind, Act.addListener, Act.ensures_bind, Act.ensures_look]
    split
    · exact (Act.ensures_pure _ _).mpr ((Act.ensures_pure _ _).mpr (.refl system))
    · rw [Act.ensures_bind, Act.ensures_revise, Act.ensures_pure, Act.ensures_pure]
      exact .of_dropsCleanly (.revise system id rfl (.inr fun bare => bare))

namespace System

def Planned (system : System Chronicle) (id : ConnectionId) : Prop :=
  (system.planOf? id).isSome = true

theorem planned_iff : system.Planned id ↔ ∃ plan, (id, plan) ∈ system.registry.plans := by
  rw [Planned, planOf?, List.lookup_isSome_iff]
  constructor
  · rintro ⟨⟨other, plan⟩, among, same⟩
    exact ⟨plan, eq_of_beq same ▸ among⟩
  · rintro ⟨plan, among⟩
    exact ⟨_, among, beq_self_eq_true id⟩

theorem DropsCleanly.planned {bound : ConnectionId → Prop}
    (dropsCleanly : before.DropsCleanly bound after)
    (planned : before.Planned id) : after.Planned id ∨ after.isRegistered id = false := by
  obtain ⟨plan, among⟩ := planned_iff.mp planned
  cases lost : before.loses after id with
  | false =>
    refine .inl (planned_iff.mpr ⟨plan, ?_⟩)
    rw [dropsCleanly.plans]
    exact List.mem_filter.mpr ⟨among, by simp [lost]⟩
  | true =>
    unfold loses at lost
    simp_all

theorem Turn.planned (turn : before.Turn after) (planned : before.Planned id) :
    after.Planned id ∨ after.isRegistered id = false := by
  cases turn with
  | dropsCleanly dropsCleanly _ => exact dropsCleanly.planned planned
  | retries | selects | alters => exact .inl planned
  | @enters bound call plans role middle _ _ _ _ tracked _ introduced _ _ =>
    have joined : (before.joined call plans).Planned id :=
      planned_iff.mpr ((planned_iff.mp planned).imp fun _ among => List.mem_append_right _ among)
    rcases tracked.planned joined with planned | struck
    · exact introduced.planned planned
    · refine .inr ?_
      rw [introduced.registered_iff]
      exact Bool.and_eq_false_iff.mpr (.inl struck)

end System

theorem TaskStep.planned {own : ConnectionId → Prop} {step : Act Chronicle β}
    (taskStep : TaskStep own system step)
    (balanced : system.Balanced) (planned : system.Planned id) :
    step.Ensures (.level .silent rounds) system fun _ after =>
      after.Planned id ∨ after.isRegistered id = false := by
  have rightly {step : Act Chronicle β} (rightful : Rightful rounds system step) :
      step.Ensures (.level .silent rounds) system fun _ after =>
        after.Planned id ∨ after.isRegistered id = false :=
    (rightful.turns balanced).mono fun _ _ turns => turns.1.planned planned
  have permits := Rightful.permits rounds
  cases taskStep with
  | get => exact rightly (permits.get _)
  | look id => exact rightly (permits.look id _)
  | rounds => exact rightly (.readsRounds _)
  | failure => exact rightly (permits.failure _)
  | note plain => exact rightly (.note plain)
  | disconnect id info => exact rightly (permits.disconnect id info _)
  | startSelection id => exact (Act.ensures_startSelection id _).mpr (.inl planned)
  | finishSelection id => exact rightly (.finishSelection id)
  | setSelectionActive id active => exact rightly (.setSelectionActive id active)
  | @nextPhone id _ failed permanent =>
    simp only [Act.nextPhone, Act.ensures_bind, Act.ensures_get, Act.ensures_set, Act.ensures_pure]
    exact .inl planned
  | reassign => exact rightly (.reassign _ _ _ _ _)
  | @bind id _ leg =>
    exact (Act.dropsCleanly_bind id leg system trivial).mono
      fun _ _ dropsCleanly => dropsCleanly.2.planned planned
  | dial _ held phone domain => exact rightly (.dial held phone domain)
  | enroll =>
    exact (Act.turns_enroll balanced _ _).mono fun _ _ turn => turn.planned planned

namespace System

def Sustains (system : System Chronicle) (id : ConnectionId) : Prop :=
  system.Known id ∧ (system.Planned id ∨ (system.connection id).destroyed = true)

theorem Balanced.registered_iff (balanced : system.Balanced) (id : ConnectionId) :
    system.isRegistered id = true ↔ (system.connection id).destroyed = false := by
  obtain ⟨technologies, books⟩ := balanced.books
  exact List.contains_iff_mem.trans (books.alive_iff id)

theorem Sustains.happens (sustains : before.Sustains id) (balanced : before.Balanced)
    (happens : Happens rounds before after) : after.Sustains id := by
  have lasts := (happens.stepOutcome balanced.rest).lasts
  refine ⟨lasts.known sustains.1, ?_⟩
  rcases sustains.2 with planned | gone
  · have either : after.Planned id ∨ after.isRegistered id = false := by
      cases happens with
      | taskStep taskStep run => exact taskStep.planned balanced planned _ _ run
      | world occasion run => exact (occasion.turn balanced _ _ run).planned planned
    refine either.imp_right fun struck => (Bool.not_eq_false _).mp fun alive => ?_
    have registered := ((balanced.happens happens).registered_iff id).mpr alive
    rw [struck] at registered
    cases registered
  · exact .inr (lasts.gone sustains.1 gone)

theorem Sustains.reaches (sustains : before.Sustains id) (balanced : before.Balanced) {more : Trace}
    (reaches : Reaches rounds before more after) : after.Sustains id := by
  induction reaches with
  | refl => exact sustains
  | step reaches happens ih => exact ih.happens (balanced.reaches reaches) happens
  | absorb _ ih => cases id <;> exact ih

end System

end Switchboard
