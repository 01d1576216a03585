import Mathlib.Data.List.Induction
import Switchboard.Proofs.LegOrTask
import Switchboard.Proofs.PlanValidity

/-! Calls that have been ended. Listeners may end any call while they are told of something, and
somebody may use connections as they like between steps, only not bind them or make the exchange
look away. Whenever a call is dialed it is in the books, it is not destroyed, and it has no leg. -/

namespace Switchboard

namespace Move

def isEnding : Move → Bool
  | disconnect _ _ | close _ => true
  | _ => false

/-- Legs are left to the exchange, and it goes on listening. -/
def isProper : Move → Bool
  | bind _ _ | removeListener _ .exchange => false
  | _ => true

end Move

/-- Bystanders that make moves of their own. -/
def Bystanders.reacting (hear : String → ConnectionId → ConnectionEvent → Habit Chronicle)
    (bridged : Habit Chronicle) : Bystanders Chronicle where
  hear name id event := (hear name id event).act fun _ => pure ()
  bridged := bridged.act fun _ => pure ()

/-- All that listeners do, and those who see a leg tied, is to end calls. -/
structure OnlyEnds (hear : String → ConnectionId → ConnectionEvent → Habit Chronicle)
    (bridged : Habit Chronicle) : Prop where
  hear (name : String) (id : ConnectionId) (event : ConnectionEvent) :
    (hear name id event).Only (·.isEnding = true)
  bridged : bridged.Only (·.isEnding = true)

section
variable {hear : String → ConnectionId → ConnectionEvent → Habit Chronicle}
  {bridged : Habit Chronicle} (onlyEnds : OnlyEnds hear bridged) {wiring : Wiring Chronicle}
  (keepsPlans : wiring.KeepsPlans)

section
include keepsPlans

theorem Act.planValid_ending (move : Move) (ending : move.isEnding = true) :
    Obeys (do pure (); move.act) planValidity wiring := by
  refine .bind (.pure _) fun _ => ?_
  cases move with
  | disconnect id info => exact planValid_setDisconnected keepsPlans id info
  | close id => exact planValid_close keepsPlans id
  | _ => cases ending

include onlyEnds in
theorem Bystanders.planValid_hear (name : String) (id : ConnectionId) (event : ConnectionEvent) :
    ((reacting hear bridged).hear name id event).Obeys planValidity wiring :=
  Habit.obeys_act (Act.planValid_ending keepsPlans) (onlyEnds.hear name id event)

include onlyEnds in
theorem Bystanders.abide_planValidity :
    (reacting hear bridged).Abide planValidity (·.isPlain = true) wiring where
  bears := Act.bears_planValidity keepsPlans
  strikes id system _ := ⟨trivial, .struck system id⟩
  follows plain asks := by
    rw [plain] at asks
    cases asks
  hear _ name id := planValid_hear onlyEnds keepsPlans name id _
  bridged := Habit.obeys_act (Act.planValid_ending keepsPlans) onlyEnds.bridged

theorem Act.unregister_forgets {system : System Chronicle} {id : ConnectionId}
    (filed : system.Filed id) :
    (unregister id).Ensures wiring system fun _ after => (after.planOf? id).isSome ≠ true := by
  rw [unregister_eq, ensures_bind, ensures_get]
  split
  · rw [ensures_bind, ensures_modify]
    have struck : ((system.struck id).planOf? id).isSome ≠ true := by
      simp [System.planOf?, System.struck, Ripple.lookup_filter_ne]
    refine (obeys_dismiss (bears_planValidity keepsPlans) id _ trivial).mono ?_
    rintro _ after ⟨-, more⟩
    exact mt (more.plan id) struck
  · rename_i unlisted
    rw [ensures_pure]
    exact mt filed unlisted

include onlyEnds in
theorem Bystanders.tell_forgets {listeners : List Listener} {id : ConnectionId}
    {system : System Chronicle} (heard : .exchange ∈ listeners) (filed : system.Filed id) :
    (listeners.forM ((reacting hear bridged).tellOne id .destroyed)).Ensures wiring system
      fun _ after => (after.planOf? id).isSome ≠ true := by
  have tell (listener : Listener) :
      ((reacting hear bridged).tellOne id .destroyed listener).Obeys planValidity wiring :=
    Wiring.obeys_tellOne (abide_planValidity onlyEnds keepsPlans) id rfl listener
  induction listeners generalizing system with
  | nil => cases heard
  | cons listener rest ih =>
    rw [List.forM, Act.ensures_bind]
    by_cases mine : listener = .exchange
    · subst mine
      have forgets : ((reacting hear bridged).tellOne id .destroyed .exchange).Ensures wiring system
          fun _ after => (after.planOf? id).isSome ≠ true := by
        rw [tellOne, Act.ensures_bind, Act.ensures_write]
        exact Act.unregister_forgets keepsPlans filed
      refine forgets.mono fun _ now forgotten => ?_
      have others := Act.Obeys.forM rest fun listener _ => tell listener
      exact (others now trivial).mono fun _ _ more => mt (more.2.plan id) forgotten
    · have among := (List.mem_cons.mp heard).resolve_left (Ne.symm mine)
      exact (tell listener system trivial).mono fun _ now more =>
        ih among (more.2.filed id filed)

end

include onlyEnds in
theorem Wiring.keepsPlans_level (rounds : Nat) :
    (level (.reacting hear bridged) rounds).KeepsPlans := by
  induction rounds with
  | zero =>
    refine ⟨obeys_zero, fun _ _ => ?_⟩
    rw [Act.ensures_tell]
    intro _ run
    cases run
  | succ rounds ih =>
    refine ⟨obeys_succ (Bystanders.abide_planValidity onlyEnds ih), fun heard filed => ?_⟩
    rw [Act.ensures_tell]
    intro after run
    exact Bystanders.tell_forgets onlyEnds ih heard filed ⟨⟩ after run

end

namespace System

/-- All plans are valid, and nobody listens twice. -/
structure ValidPlans (system : System Chronicle) : Prop where
  planValid (id : ConnectionId) : system.PlanValid id
  distinct (id : ConnectionId) : (system.connection id).listeners.Nodup

theorem ValidPlans.onlyDrops {system after : System Chronicle} (validPlans : system.ValidPlans)
    (onlyDrops : OnlyDrops none system after) : after.ValidPlans where
  planValid id := onlyDrops.planValid id nofun (validPlans.planValid id)
  distinct id := onlyDrops.distinct id (validPlans.distinct id)

theorem ValidPlans.aside {system after : System Chronicle} (validPlans : system.ValidPlans)
    (same : system.SameCalls after) : after.ValidPlans := by
  have connection (id : ConnectionId) : after.connection id = system.connection id :=
    connection_congr same.connections id
  exact {
    planValid := fun id => by
      rw [PlanValid, connection, planOf?, same.plans, isRegistered, same.listed]
      exact validPlans.planValid id
    distinct := fun id => by rw [connection]; exact validPlans.distinct id }

end System

namespace Regime

/-- Listeners may end calls, and a call may be without a leg and a task. -/
def reacting (hear : String → ConnectionId → ConnectionEvent → Habit Chronicle)
    (bridged : Habit Chronicle) (rounds : Nat) : Regime where
  wiring := .level (.reacting hear bridged) rounds
  fit := System.ValidPlans
  strict := False

namespace Reacting

variable {hear : String → ConnectionId → ConnectionEvent → Habit Chronicle}
  {bridged : Habit Chronicle} {rounds : Nat} {α : Type} {system after : System Chronicle}

theorem needsNoDial (system : System Chronicle) (id : ConnectionId) :
    (reacting hear bridged rounds).NeedsNoDial system id :=
  fun strict => strict.elim

theorem concernsNoTask (onlyDrops : System.OnlyDrops none system after) :
    (reacting hear bridged rounds).ConcernsNoTask system after where
  known {id} known := (System.known_congr onlyDrops.count id).mpr known
  direction {id} _ := onlyDrops.direction id
  gone {id} _ := onlyDrops.gone id
  leg {id} _ _ := (onlyDrops.leg id).imp_right fun none => ⟨none, needsNoDial _ _⟩
  count := onlyDrops.count
  works := onlyDrops.works
  outside := onlyDrops.outside

theorem obeyed {step : Act Chronicle α} {wiring : Wiring Chronicle}
    (obeys : step.Obeys planValidity wiring) (validPlans : system.ValidPlans) :
    step.Ensures wiring system fun _ after =>
      after.ValidPlans ∧ (reacting hear bridged rounds).ConcernsNoTask system after :=
  (obeys system trivial).mono fun _ _ ⟨_, onlyDrops⟩ =>
    ⟨validPlans.onlyDrops onlyDrops, concernsNoTask onlyDrops⟩

theorem joined (validPlans : system.ValidPlans) (params : CallParameters) (redial : Bool)
    (plans : List (ConnectionId × DialPlan))
    (apart : ∀ id, id ≠ .issued system.connections.length → plans.lookup id = none) :
    (system.joined (.enlisted params redial) plans).ValidPlans where
  planValid id planned := by
    by_cases new : id = .issued system.connections.length
    · rw [new, System.connection_joined_newest]
      refine ⟨?_, rfl, List.mem_singleton_self _⟩
      simp [System.isRegistered, System.joined]
    · have before : (system.planOf? id).isSome = true := by
        have whole : (system.joined (.enlisted params redial) plans).planOf? id =
            (plans.lookup id).or (system.planOf? id) := List.lookup_append
        rw [whole, apart id new] at planned
        exact planned
      obtain ⟨listed, alive⟩ := validPlans.planValid id before
      rw [System.connection_joined, if_neg new]
      refine ⟨?_, alive⟩
      simp_all [System.isRegistered, System.joined]
  distinct := system.each_joined plans (motive := fun _ call => call.listeners.Nodup)
    (List.pairwise_singleton _ _) validPlans.distinct

theorem followed {origin : System Chronicle} {id : ConnectionId} {work : FollowUp}
    (client : work.client? = some id) (validPlans : origin.ValidPlans) (known : origin.Known id)
    (held : (origin.connection id).leg.isSome = true)
    (onlyDrops : System.OnlyDrops none origin system) (bare : (system.connection id).leg = none) :
    (reacting hear bridged rounds).LeavesWork [work] origin
      { system with signals := system.signals ++ [.follow work] } :=
  have clients : [work].filterMap FollowUp.client? = [id] := by simp [client]
  have mayLoseLegs := (concernsNoTask onlyDrops : (reacting hear bridged rounds).ConcernsNoTask
    origin system).toMayLoseLegs
  { toMayLoseLegs := (mayLoseLegs.weaken _).trans (.of_connections rfl)
    fit := (validPlans.onlyDrops onlyDrops).aside ⟨rfl, rfl, rfl, rfl⟩
    works := by
      have works := onlyDrops.works
      simp only [System.works] at works
      simp only [System.works, List.filterMap_append, works]
      rfl
    single := by simp [clients]
    lost := fun {other} among => by
      rw [clients] at among
      obtain rfl := List.mem_singleton.mp among
      exact ⟨known, held, by cases other <;> exact bare⟩
    fresh := fun _ _ _ => needsNoDial _ _
    undialed := .of_eq onlyDrops.outside }

section
variable (onlyEnds : OnlyEnds hear bridged)
include onlyEnds

theorem bind (id : ConnectionId) (leg : LegId) (validPlans : system.ValidPlans) :
    (Act.bind id leg).Ensures (reacting hear bridged rounds).wiring system fun _ after =>
      after.ValidPlans ∧ (reacting hear bridged rounds).Binds id system after := by
  have keepsPlans : (reacting hear bridged rounds).wiring.KeepsPlans :=
    Wiring.keepsPlans_level onlyEnds rounds
  have attaching (bridge : Bridge) :
      Act.Obeys (do Act.attach leg bridge; Act.update id) planValidity
        (reacting hear bridged rounds).wiring :=
    .bind (.bind (Act.planValid_modify fun system => .reviseLeg system leg _) fun _ =>
      keepsPlans.bridged) fun _ => (Act.planValid_publishes keepsPlans id).update
  let first := system.reviseConnection id (.bound leg (system.leg leg).view)
  have destroyed (other : ConnectionId) :
      (first.connection other).destroyed = (system.connection other).destroyed :=
    system.read_reviseConnection (·.destroyed) rfl other
  have listeners (other : ConnectionId) :
      (first.connection other).listeners = (system.connection other).listeners :=
    system.read_reviseConnection (·.listeners) rfl other
  have binds : (reacting hear bridged rounds).Binds id system first := {
    known := (system.known_reviseConnection id _ _).mpr
    direction := fun {other} _ => system.read_reviseConnection (·.direction) rfl other
    gone := fun {other} _ gone => (destroyed other).trans gone
    leg := fun {other} _ differ => .inl (by rw [system.connection_reviseConnection_other differ])
    count := by simp [first]
    works := by simp [first, System.works]
    outside := by simp [first]
    bound := fun _ => needsNoDial _ _ }
  have still : first.ValidPlans := by
    refine ⟨fun other => ?_, fun other => ?_⟩
    · rw [System.PlanValid, destroyed, listeners,
        System.planOf?_reviseConnection, System.isRegistered_reviseConnection]
      exact validPlans.planValid other
    · rw [listeners]
      exact validPlans.distinct other
  rw [Act.bind, Act.ensures_bind, Act.ensures_get, Act.ensures_bind, Act.ensures_look,
    Act.ensures_bind]
  refine (Act.ensures_revise_as (.bound leg (system.leg leg).view) ?_).mpr ?_
  · rfl
  have onward {step : Act Chronicle Unit}
      (obeys : step.Obeys planValidity (reacting hear bridged rounds).wiring) :
      step.Ensures (reacting hear bridged rounds).wiring first fun _ after =>
        after.ValidPlans ∧ (reacting hear bridged rounds).ConcernsNoTask first after :=
          obeyed obeys still
  refine (onward ?_).mono ?_
  · dsimp only
    split
    · exact .bind (Act.planValid_modify fun system => .reviseLeg system _ _) fun _ => attaching _
    · exact attaching _
  · rintro _ after ⟨last, concernsNoTask⟩
    exact ⟨last, binds.trans concernsNoTask⟩

theorem introduce (request : CallRequest) (placement : Placement) (id : ConnectionId)
    (validPlans : system.ValidPlans) :
    (Act.introduce request placement id).Ensures (reacting hear bridged rounds).wiring system
      fun other after => other = id ∧ after.ValidPlans ∧
        (reacting hear bridged rounds).ConcernsNoTask system after := by
  have keepsPlans : (reacting hear bridged rounds).wiring.KeepsPlans :=
    Wiring.keepsPlans_level onlyEnds rounds
  have bears := Act.bears_planValidity keepsPlans
  have finish {now : System Chronicle} (onlyDrops : System.OnlyDrops none system now) :
      (do
        if request.rtt then Act.setRttStream id (some ("rtt-" ++ id.text))
        return id : Act Chronicle ConnectionId).Ensures (reacting hear bridged rounds).wiring now
          fun other after => other = id ∧ after.ValidPlans ∧
            (reacting hear bridged rounds).ConcernsNoTask system after := by
    dsimp only
    split
    · have set : (Act.setRttStream id (some ("rtt-" ++ id.text))).Obeys planValidity
          (reacting hear bridged rounds).wiring :=
        Act.planValid_change keepsPlans id _ fun _ => rfl
      refine set.thenEnsures trivial fun _ last _ more => ?_
      have whole := onlyDrops.trans more
      exact (Act.ensures_pure _ _).mpr ⟨rfl, validPlans.onlyDrops whole, concernsNoTask whole⟩
    · exact (Act.ensures_pure _ _).mpr ⟨rfl, validPlans.onlyDrops onlyDrops,
        concernsNoTask onlyDrops⟩
  refine Act.Obeys.thenEnsures (bears.arranges.track _) trivial fun _ now _ tracked => ?_
  refine (Act.obeys_announce bears _).thenEnsures trivial fun _ told _ announced => ?_
  have sofar : System.OnlyDrops none system told := tracked.trans announced
  cases placement.number.emergency with
  | true =>
    simp only [if_true, Act.ensures_bind, Act.ensures_get, Act.ensures_reviseRegistry]
    exact finish (sofar.trans (.aside ⟨rfl, rfl, rfl, rfl, rfl, rfl⟩))
  | false => exact finish sofar

theorem upholds : (reacting hear bridged rounds).Upholds := by
  have keepsPlans : (reacting hear bridged rounds).wiring.KeepsPlans :=
    Wiring.keepsPlans_level onlyEnds rounds
  exact {
    aside := fun same validPlans => validPlans.aside same
    ended := fun _ _ => needsNoDial _ _
    watched := fun _ _ => needsNoDial _ _
    unplanned := fun _ _ => needsNoDial _ _
    disconnect := fun id info validPlans =>
      (obeyed (Act.planValid_setDisconnected keepsPlans id info) validPlans).mono
        fun _ _ ⟨fit, concernsNoTask⟩ =>
        ⟨fit, concernsNoTask, needsNoDial _ _⟩
    select := fun id active validPlans => validPlans.onlyDrops (.revise_same _ id rfl)
    reassign := fun id _ _ _ _ validPlans =>
      obeyed (Act.planValid_change keepsPlans id _ fun _ => rfl) validPlans
    bind := fun id leg validPlans _ => bind onlyEnds id leg validPlans
    enroll := fun {system} request placement validPlans => by
      rw [Act.ensures_enroll]
      have fresh : (system.enlisting request placement).ValidPlans :=
        joined validPlans _ _ _ fun id differ => by simp [differ]
      refine (introduce onlyEnds request placement _ fresh).mono
        fun id after ⟨same, fit, concernsNoTask⟩ => ?_
      exact ⟨same, fit, (AddsOne.of_joined system _ _ _).trans concernsNoTask⟩ }

theorem told_exchange (depth : Nat) {origin : System Chronicle} {id : ConnectionId}
    {event : ConnectionEvent} {work : FollowUp} (asks : event.work? id = some work)
    (client : work.client? = some id) (validPlans : origin.ValidPlans) (known : origin.Known id)
    (held : (origin.connection id).leg.isSome = true)
    (onlyDrops : System.OnlyDrops none origin system) (bare : (system.connection id).leg = none) :
    ((Bystanders.reacting hear bridged).tellOne id event .exchange).Ensures
      (.level (.reacting hear bridged) depth) system fun _ after =>
        ∃ left, (reacting hear bridged rounds).LeavesWork left origin after := by
  have keepsPlans := Wiring.keepsPlans_level onlyEnds depth
  rw [Bystanders.tellOne, Act.ensures_bind, Act.ensures_write]
  let heard : System Chronicle :=
    { system with journal := .heard .exchange id event :: system.journal }
  have sofar : System.OnlyDrops none origin heard :=
    onlyDrops.trans (.aside ⟨rfl, rfl, rfl, rfl, rfl, rfl⟩)
  simp only [Act.attend_of_work asks]
  rw [Act.follow, Act.ensures_bind, Act.ensures_get]
  split
  · rw [Act.ensures_signal]
    have none : (heard.connection id).leg = none := by cases id <;> exact bare
    exact ⟨[work], followed client validPlans known held sofar none⟩
  · have past := Act.planValid_setDisconnected keepsPlans id (.ofCause .unspecified)
    refine (past heard trivial).mono ?_
    rintro _ after ⟨_, more⟩
    have whole := sofar.trans more
    exact ⟨[], .of_concernsNoTask (concernsNoTask whole) (validPlans.onlyDrops whole)⟩

theorem told (depth : Nat) {origin : System Chronicle} {id : ConnectionId} {event : ConnectionEvent}
    {work : FollowUp} (asks : event.work? id = some work) (client : work.client? = some id)
    (validPlans : origin.ValidPlans) (held : (origin.connection id).leg.isSome = true)
    {listeners : List Listener} (distinct : listeners.Nodup)
    (onlyDrops : System.OnlyDrops none origin system) (bare : (system.connection id).leg = none) :
    (listeners.forM ((Bystanders.reacting hear bridged).tellOne id event)).Ensures
      (.level (.reacting hear bridged) depth) system fun _ after =>
        ∃ left, (reacting hear bridged rounds).LeavesWork left origin after := by
  have keepsPlans := Wiring.keepsPlans_level onlyEnds depth
  have bears := Act.bears_planValidity keepsPlans
  have known : origin.Known id := by
    obtain ⟨leg, had⟩ := Option.isSome_iff_exists.mp held
    exact origin.known_of_leg had
  have ordinary (listener : Listener) (other : listener ≠ .exchange) :
      ((Bystanders.reacting hear bridged).tellOne id event listener).Obeys planValidity
        (.level (.reacting hear bridged) depth) := by
    refine .bind (Act.obeys_write bears _) fun _ => ?_
    cases listener with
    | recorder => exact .pure _
    | exchange => exact absurd rfl other
    | observer name => exact Bystanders.planValid_hear onlyEnds keepsPlans name id event
  induction listeners generalizing system with
  | nil =>
    rw [List.forM, Act.ensures_pure]
    exact ⟨[], .of_concernsNoTask (concernsNoTask onlyDrops) (validPlans.onlyDrops onlyDrops)⟩
  | cons listener rest ih =>
    obtain ⟨apart, others⟩ := List.nodup_cons.mp distinct
    rw [List.forM, Act.ensures_bind]
    by_cases mine : listener = .exchange
    · subst mine
      refine (@told_exchange _ _ rounds _ onlyEnds depth _ _ _ _ asks client validPlans known
        held onlyDrops
        bare).mono ?_
      rintro _ now ⟨left, leavesWork⟩
      have quiet : (rest.forM ((Bystanders.reacting hear bridged).tellOne id event)).Ensures
          (.level (.reacting hear bridged) depth) now fun _ after =>
            after.ValidPlans ∧ (reacting hear bridged rounds).ConcernsNoTask now after :=
        obeyed (.forM rest fun listener among =>
          ordinary listener fun same => apart (same ▸ among)) leavesWork.fit
      refine quiet.mono ?_
      rintro _ after ⟨fit, concernsNoTask⟩
      exact ⟨left, leavesWork.untasked concernsNoTask fit⟩
    · refine (ordinary listener mine system trivial).mono ?_
      rintro _ now ⟨_, more⟩
      refine ih others (onlyDrops.trans more) ?_
      rcases more.leg id with same | none
      · exact same.trans bare
      · exact none

theorem giveUp {id : ConnectionId} {event : ConnectionEvent} {work : FollowUp}
    (asks : event.work? id = some work) (client : work.client? = some id)
    (validPlans : system.ValidPlans)
    (held : (system.connection id).leg.isSome = true) :
    (do
      Act.revise id ({ · with awaitingRedial := true })
      Act.unbind id
      Act.notify id event).Ensures (reacting hear bridged rounds).wiring system fun _ after =>
        ∃ left, (reacting hear bridged rounds).LeavesWork left system after := by
  have known : system.Known id := by
    obtain ⟨leg, had⟩ := Option.isSome_iff_exists.mp held
    exact system.known_of_leg had
  rw [Act.ensures_bind, Act.ensures_revise, Act.ensures_bind, Act.ensures_unbind]
  let waiting := system.reviseConnection id ({ · with awaitingRedial := true })
  let now := (waiting.reviseConnection id .unbound).release (waiting.connection id).leg
  have first : System.OnlyDrops none system waiting := .revise_same system id rfl
  have second : System.OnlyDrops none waiting (waiting.reviseConnection id .unbound) :=
    .revise waiting id rfl (.inr rfl) (fun gone => gone) (fun distinct => distinct)
      fun _ _ alive heard => ⟨alive, heard⟩
  have onlyDrops : System.OnlyDrops none system now := first.trans (second.trans (.release _ _))
  have bare : (now.connection id).leg = none := by
    have here : waiting.Known id := (system.known_reviseConnection id id _).mpr known
    rw [System.connection_release, waiting.connection_reviseConnection_known here]
    rfl
  change (Act.notify id event).Ensures _ now _
  rw [Act.ensures_notify, Act.ensures_tell]
  intro after run
  cases rounds with
  | zero => cases run
  | succ depth =>
    exact told onlyEnds depth asks client validPlans held
      ((validPlans.onlyDrops onlyDrops).distinct id)
      onlyDrops bare ⟨⟩ after run

theorem legEvent (id : ConnectionId) (generation : Nat) (event : RadioEvent)
    (validPlans : system.ValidPlans) :
    (Act.legEvent id generation event).Ensures (reacting hear bridged rounds).wiring system
      fun _ after => ∃ left, (reacting hear bridged rounds).LeavesWork left system after := by
  have keepsPlans : (reacting hear bridged rounds).wiring.KeepsPlans :=
    Wiring.keepsPlans_level onlyEnds rounds
  have ordinary {step : Act Chronicle Unit}
      (obeys : step.Obeys planValidity (reacting hear bridged rounds).wiring) :
      step.Ensures (reacting hear bridged rounds).wiring system fun _ after =>
        ∃ left, (reacting hear bridged rounds).LeavesWork left system after :=
    (obeyed obeys validPlans).mono fun _ _ ⟨fit, concernsNoTask⟩ =>
      ⟨[], .of_concernsNoTask concernsNoTask fit⟩
  rw [Act.legEvent, Act.ensures_bind, Act.ensures_look]
  dsimp only
  split
  · rename_i heeds
    have held := (Bool.and_eq_true_iff.mp heeds).2
    cases event with
    | disconnected failure code message =>
      dsimp only
      rw [Act.legEnded, Act.ensures_bind, Act.ensures_look]
      cases (system.connection id).endOfLeg failure with
      | redial phone permanent => exact giveUp onlyEnds rfl rfl validPlans held
      | reselect => exact giveUp onlyEnds rfl rfl validPlans held
      | terminal => exact ordinary (Act.planValid_setDisconnected keepsPlans id _)
    | stateChanged next =>
      dsimp only
      split
      · exact ordinary (Act.planValid_change keepsPlans id _ fun _ => rfl)
      · exact ordinary (.pure _)
    | _ => exact ordinary (Act.planValid_change keepsPlans id _ fun _ => rfl)
  · exact ordinary (.pure _)

end

theorem addListener (id : ConnectionId) (listener : Listener) :
    (Act.addListener id listener).Obeys planValidity (reacting hear bridged rounds).wiring := by
  intro system _
  rw [Act.addListener, Act.ensures_bind, Act.ensures_look]
  split
  · exact (Act.ensures_pure _ _).mpr ⟨trivial, .refl none system⟩
  · rename_i new
    simp only [Act.ensures_bind, Act.ensures_revise, Act.ensures_pure]
    have apart : listener ∉ (system.connection id).listeners := by simpa using new
    refine ⟨trivial, .revise system id rfl (.inl rfl) (fun gone => gone) (fun distinct => ?_)
      fun _ _ alive heard => ⟨alive, List.mem_append_left _ heard⟩⟩
    refine List.nodup_append.mpr ⟨distinct, by simp, fun other among last same => ?_⟩
    obtain rfl := List.mem_singleton.mp same
    rintro rfl
    exact apart among

theorem keptThroughout (onlyEnds : OnlyEnds hear bridged) :
    (reacting hear bridged rounds).KeptThroughout where
  toUpholds := upholds onlyEnds
  enter params validPlans _ := by
    have bears := Act.bears_planValidity (Wiring.keepsPlans_level onlyEnds rounds)
    exact obeyed (.bind (bears.arranges.track _) fun _ => Act.obeys_announce bears _)
      (joined validPlans params false [] fun _ _ => rfl)
  legEvent id generation event validPlans := legEvent onlyEnds id generation event validPlans
  watch id listener validPlans := obeyed (addListener id listener) validPlans

theorem created (validPlans : system.ValidPlans) (params : CallParameters) :
    System.ValidPlans
      { system with connections := system.connections ++ [Connection.create params] } := by
  have connection := system.connection_append (.create params)
  refine ⟨fun id planned => ?_, fun id => ?_⟩
  · have planValid := validPlans.planValid id planned
    rw [connection]
    split
    · rename_i new
      rw [new, system.connection_of_not_known system.not_known_next] at planValid
      exact absurd planValid.2.1 (by decide)
    · exact planValid
  · rw [connection]
    split
    · exact List.nodup_nil
    · exact validPlans.distinct id

theorem removeListener (id : ConnectionId) {listener : Listener} (other : listener ≠ .exchange) :
    (Act.removeListener id listener).Obeys planValidity (reacting hear bridged rounds).wiring := by
  refine .bind (.look id) fun _ => .bind ?_ fun _ => .pure _
  refine Act.planValid_modify fun system => .revise system id rfl (.inl rfl) (fun gone => gone)
    (fun distinct => distinct.filter _) fun _ _ alive heard => ⟨alive, ?_⟩
  exact List.mem_filter.mpr ⟨heard, by simpa using Ne.symm other⟩

theorem move (onlyEnds : OnlyEnds hear bridged) (move : Move) (proper : move.isProper = true)
    (validPlans : system.ValidPlans) :
    (move.act).Ensures (reacting hear bridged rounds).wiring system fun _ after =>
      ∃ left, (reacting hear bridged rounds).LeavesWork left system after := by
  have keepsPlans : (reacting hear bridged rounds).wiring.KeepsPlans :=
    Wiring.keepsPlans_level onlyEnds rounds
  have keptThroughout : (reacting hear bridged rounds).KeptThroughout := keptThroughout onlyEnds
  have ordinary {step : Act Chronicle Unit}
      (obeys : step.Obeys planValidity (reacting hear bridged rounds).wiring) :
      step.Ensures (reacting hear bridged rounds).wiring system fun _ after =>
        ∃ left, (reacting hear bridged rounds).LeavesWork left system after :=
    (obeyed obeys validPlans).mono fun _ _ ⟨fit, concernsNoTask⟩ =>
      ⟨[], .of_concernsNoTask concernsNoTask fit⟩
  cases move with
  | create params =>
    simp only [Move.act, Act.create, Act.ensures_bind, Act.ensures_get, Act.ensures_modify,
      Act.ensures_pure]
    have fit := created validPlans params
    have addsOne := @AddsOne.of_append (reacting hear bridged rounds) system
      { system with connections := system.connections ++ [.create params] } (.create params)
      rfl rfl rfl rfl
    have unchanged := @ConcernsNoTask.refl (reacting hear bridged rounds)
      { system with connections := system.connections ++ [.create params] }
    exact ⟨[], .of_arrival addsOne { unchanged with
      leg := fun known _ => unchanged.leg known not_false
      bound := fun _ => needsNoDial _ _ } fit⟩
  | createLeg view =>
    simp only [Move.act, Act.createLeg, Act.ensures_bind, Act.ensures_get, Act.ensures_modify,
      Act.ensures_pure]
    exact keptThroughout.apart validPlans ⟨rfl, rfl, rfl, rfl⟩ rfl (.of_eq rfl)
  | bind id leg => cases proper
  | unbind id => exact ordinary (Act.planValid_unbind id)
  | report leg event => exact keptThroughout.report validPlans leg event
  | reportLate leg event =>
    rw [Move.act, Act.ensures_bind]
    exact (keptThroughout.reportLate validPlans leg event).mono fun _ _ leavesWork =>
      (Act.ensures_pure _ _).mpr leavesWork
  | inform id event =>
    rw [Move.act, Act.currentLegEvent, Act.ensures_bind, Act.ensures_look]
    exact legEvent onlyEnds id _ event validPlans
  | disconnect id info => exact ordinary (Act.planValid_setDisconnected keepsPlans id info)
  | close id => exact ordinary (Act.planValid_close keepsPlans id)
  | presentHolding id =>
    refine ordinary (.bind (.look id) fun _ => ?_)
    split
    · exact .pure _
    · exact Act.planValid_change keepsPlans id _ fun _ => rfl
  | setRedialEnabled id enabled => exact ordinary (Act.planValid_revise id _ fun _ => rfl)
  | setSelectionActive id active => exact ordinary (Act.planValid_revise id _ fun _ => rfl)
  | setHoldAllowed id allowed =>
    exact ordinary ((Act.bears_planValidity keepsPlans).setHoldAllowed id _)
  | setConference id conference =>
    exact ordinary ((Act.bears_planValidity keepsPlans).setConference id _)
  | addListener id listener =>
    exact ordinary (.bind (addListener id listener) fun _ => .pure _)
  | removeListener id listener =>
    have other : listener ≠ .exchange := by
      rintro rfl
      cases proper
    exact ordinary (.bind (removeListener id other) fun _ => .pure _)
  | attend on =>
    exact ordinary (Act.planValid_modify fun _ => .aside ⟨rfl, rfl, rfl, rfl, rfl, rfl⟩)
  | _ => exact ordinary (Act.planValid_change keepsPlans _ _ fun _ => rfl)

end Reacting

end Regime

/-- What happens next: an occasion, or somebody uses connections directly. -/
inductive Incident
  | occasion (occasion : Occasion)
  | move (action : Move)

/-- Somebody who uses connections directly leaves legs to the exchange. -/
def Incident.isProper : Incident → Bool
  | occasion _ => true
  | move action => action.isProper

def Office.undergo (wiring : Wiring Chronicle) (office : Office) : Incident → Option Office
  | .occasion occasion => office.stepUnder wiring occasion
  | .move action =>
    (action.act wiring office.system).map fun (outcome : Unit × System Chronicle) =>
      absorb { office with system := outcome.2 }

def Roster.undergo (wiring : Wiring Chronicle) (roster : Roster) : Incident → Option Roster
  | .occasion occasion => roster.step wiring occasion
  | .move action =>
    (action.act wiring roster.system).map fun (outcome : Unit × System Chronicle) =>
      absorb { roster with system := outcome.2 }

theorem Roster.office_undergo (wiring : Wiring Chronicle) (roster : Roster) (incident : Incident) :
    (roster.undergo wiring incident).map office = roster.office.undergo wiring incident := by
  cases incident with
  | occasion occasion => exact office_step wiring roster occasion
  | move action =>
    rw [undergo, Option.map_map]
    exact congrArg (fun change => Option.map change (action.act wiring roster.system))
      (funext fun outcome => office_absorb { roster with system := outcome.2 })

section
variable {hear : String → ConnectionId → ConnectionEvent → Habit Chronicle}
  {bridged : Habit Chronicle} {rounds : Nat}

theorem ClientsServed.undergo (onlyEnds : OnlyEnds hear bridged) {roster after : Roster}
    (clientsServed : ClientsServed (.reacting hear bridged rounds) roster) {incident : Incident}
    (proper : incident.isProper = true)
    (moved : roster.undergo (.level (.reacting hear bridged) rounds) incident = some after) :
    ClientsServed (.reacting hear bridged rounds) after := by
  have keptThroughout := @Regime.Reacting.keptThroughout hear bridged rounds onlyEnds
  cases incident with
  | occasion occasion => exact clientsServed.step keptThroughout moved
  | move action =>
    obtain ⟨value, run, rfl⟩ := Option.map_eq_some_iff.mp moved
    exact clientsServed.act keptThroughout.toUpholds
      (Regime.Reacting.move onlyEnds action proper clientsServed.order.fit) run

theorem ClientsServed.moment_undergone (onlyEnds : OnlyEnds hear bridged) {roster after : Roster}
    (clientsServed : ClientsServed (.reacting hear bridged rounds) roster) {incident : Incident}
    (proper : incident.isProper = true)
    (moved : roster.undergo (.level (.reacting hear bridged) rounds) incident = some after)
    {note : Note} {earlier : Chronicle} (dialing : note.isDialing = true)
    (made : note :: earlier <:+ after.system.outside) :
    note :: earlier <:+ roster.system.outside ∨ ∃ occasion before now,
      incident = .occasion occasion ∧
        roster.office.Moment (.level (.reacting hear bridged) rounds) occasion before now ∧
        before.outside = earlier ∧ now.outside = note :: earlier := by
  cases incident with
  | occasion occasion =>
    refine (clientsServed.moment_of_dial (Regime.Reacting.keptThroughout onlyEnds) moved dialing
      made).imp_right ?_
    rintro ⟨before, now, found⟩
    exact ⟨occasion, before, now, rfl, found⟩
  | move action =>
    obtain ⟨value, run, rfl⟩ := Option.map_eq_some_iff.mp moved
    obtain ⟨left, leavesWork⟩ :=
      Regime.Reacting.move onlyEnds action proper clientsServed.order.fit _ _ run
    exact .inl (leavesWork.undialed.suffix dialing made)

theorem ClientsServed.of_office (onlyEnds : OnlyEnds hear bridged) {roster : Roster}
    {office : Office}
    (clientsServed : ClientsServed (.reacting hear bridged rounds) roster)
      {incidents : List Incident}
    (proper : ∀ incident ∈ incidents, incident.isProper = true)
    (reached : incidents.foldlM (Office.undergo (.level (.reacting hear bridged) rounds))
      roster.office = some office) :
    ∃ roster, ClientsServed (.reacting hear bridged rounds) roster ∧ roster.office = office := by
  induction incidents generalizing roster with
  | nil =>
    cases reached
    exact ⟨roster, clientsServed, rfl⟩
  | cons incident rest ih =>
    rw [List.foldlM_cons, ← Roster.office_undergo] at reached
    cases moved : roster.undergo (.level (.reacting hear bridged) rounds) incident with
    | none =>
      rw [moved] at reached
      cases reached
    | some next =>
      rw [moved] at reached
      exact ih (clientsServed.undergo onlyEnds (proper incident List.mem_cons_self) moved)
        (fun other among => proper other (.tail _ among)) reached

end

theorem System.ValidPlans.opening (settings : Settings) (device : Device) :
    (Roster.opening settings device).system.ValidPlans where
  planValid _ planned := by cases planned
  distinct id := by cases id <;> exact List.nodup_nil

namespace Office

variable {settings : Settings} {device : Device} {rounds : Nat}
  {hear : String → ConnectionId → ConnectionEvent → Habit Chronicle} {bridged : Habit Chronicle}

/-- Whatever listeners end in between, a call that is dialed is in the books at that moment, it is
not destroyed, and it has no leg. -/
theorem dialed_is_wanted (onlyEnds : OnlyEnds hear bridged) {incidents : List Incident}
    (proper : ∀ incident ∈ incidents, incident.isProper = true) {office : Office}
    (reached : incidents.foldlM (undergo (.level (.reacting hear bridged) rounds))
      (opening settings device) = some office)
    {occasion : Occasion} {before after : System Chronicle}
    (moment : office.Moment (.level (.reacting hear bridged) rounds) occasion before after)
    {id : ConnectionId} {phone : PhoneId} {number : String} {args : DialArgs}
    (dials : after.outside = .asked (.dial id phone number args) :: before.outside) :
    before.isRegistered id = true ∧ (before.connection id).destroyed = false ∧
      (before.connection id).leg = none := by
  have empty : ClientsServed (.reacting hear bridged rounds) (.opening settings device) :=
    .opening settings device (System.ValidPlans.opening settings device)
  obtain ⟨roster, clientsServed, rfl⟩ := empty.of_office onlyEnds proper reached
  obtain ⟨validPlans, planned, bare, -⟩ :=
    clientsServed.dialing (Regime.Reacting.keptThroughout onlyEnds) moment dials
  obtain ⟨listed, alive, -⟩ := System.ValidPlans.planValid validPlans id planned
  exact ⟨listed, alive, bare⟩

theorem dialed_at_moment (onlyEnds : OnlyEnds hear bridged) {incidents : List Incident}
    (proper : ∀ incident ∈ incidents, incident.isProper = true) {office : Office}
    (reached : incidents.foldlM (undergo (.level (.reacting hear bridged) rounds))
      (opening settings device) = some office)
    {note : Note} {earlier : Chronicle} (dialing : note.isDialing = true)
    (made : note :: earlier <:+ office.system.outside) :
    ∃ past occasion rest sofar before after,
      incidents = past ++ .occasion occasion :: rest ∧
        past.foldlM (undergo (.level (.reacting hear bridged) rounds)) (opening settings device) =
          some sofar ∧
        sofar.Moment (.level (.reacting hear bridged) rounds) occasion before after ∧
        before.outside = earlier ∧ after.outside = note :: earlier := by
  induction incidents using List.reverseRecOn generalizing office with
  | nil =>
    cases reached
    exact absurd (List.suffix_nil.mp made) (List.cons_ne_nil _ _)
  | append_singleton past incident ih =>
    rw [List.foldlM_append] at reached
    obtain ⟨sofar, before, stepped⟩ := Option.bind_eq_some_iff.mp reached
    obtain ⟨last, stepped, same⟩ := Option.bind_eq_some_iff.mp stepped
    cases same
    have properly (other : Incident) (among : other ∈ past) :=
      proper other (List.mem_append_left _ among)
    have empty : ClientsServed (.reacting hear bridged rounds) (.opening settings device) :=
      .opening settings device (System.ValidPlans.opening settings device)
    obtain ⟨roster, clientsServed, rfl⟩ := empty.of_office onlyEnds properly before
    rw [← Roster.office_undergo] at stepped
    obtain ⟨after, moved, rfl⟩ := Option.map_eq_some_iff.mp stepped
    have latest := proper incident (List.mem_append_right _ List.mem_cons_self)
    rcases clientsServed.moment_undergone onlyEnds latest moved dialing made with
      old | ⟨occasion, here, now, rfl, moment, shown⟩
    · obtain ⟨first, occasion, rest, spot, here, now, rfl, found⟩ := ih properly before old
      refine ⟨first, occasion, rest ++ [incident], spot, here, now, ?_, found⟩
      rw [List.append_assoc, List.cons_append]
    · exact ⟨past, occasion, [], roster.office, here, now, rfl, before, moment, shown⟩

/-- A listener that closes a call as soon as it is taken up. -/
def impatient (_ : String) (id : ConnectionId) : ConnectionEvent → Habit Chronicle
  | .stateChanged _ .active => .make (.close id) .rest
  | _ => .rest

theorem impatient_onlyEnds : OnlyEnds impatient .rest where
  hear name id event := by
    unfold impatient
    split
    · exact ⟨rfl, trivial⟩
    · trivial
  bridged := trivial

/-- The listener closes a call; then there is another one. -/
def interrupted : List Incident := [
  .occasion (.start (.place { address := "911" })),
  .occasion (.resume 0),
  .occasion (.grant 0 { state := .dialing, technology := .gsm }),
  .occasion (.resume 0),
  .move (.addListener (.issued 0) (.observer "caller")),
  .occasion (.report ⟨0⟩ (.stateChanged .active)),
  .occasion (.start (.place { address := "911" }))]

/-- The call that is dialed next is in the books. -/
theorem interrupted_dials : ∃ office before after,
    interrupted.foldlM (undergo (.level (.reacting impatient .rest) 20))
        (opening {} Roster.lonePhone) = some office ∧
      (office.system.connection (.issued 0)).destroyed = true ∧
      office.Moment (.level (.reacting impatient .rest) 20) (.resume 0) before after ∧
      (∃ args, after.outside = .asked (.dial (.issued 1) ⟨0⟩ "911" args) :: before.outside) ∧
      before.isRegistered (.issued 1) = true ∧
      (before.connection (.issued 1)).destroyed = false ∧
      (before.connection (.issued 1)).leg = none := by
  let wiring : Wiring Chronicle := .level (.reacting impatient .rest) 20
  let args : DialArgs := { emergency := true, routing := some .emergency }
  have dials : (interrupted.foldlM (undergo wiring) (opening {} Roster.lonePhone)).any
      (fun office => (office.system.connection (.issued 0)).destroyed &&
        office.tasks[0]?.any fun task =>
          (task.moments wiring office.system).any fun moment => decide (moment.2.outside =
            .asked (.dial (.issued 1) ⟨0⟩ "911" args) :: moment.1.outside)) = true := by
    decide +kernel
  obtain ⟨office, reached, shown⟩ := (Option.any_eq_true _ _).mp dials
  obtain ⟨gone, shown⟩ := Bool.and_eq_true_iff.mp shown
  obtain ⟨task, found, shown⟩ := (Option.any_eq_true _ _).mp shown
  obtain ⟨⟨before, after⟩, among, shown⟩ := List.any_eq_true.mp shown
  have moment := Moment.task found (Program.passes_of_mem_moments among)
  have proper : ∀ incident ∈ interrupted, incident.isProper = true := by decide
  refine ⟨office, before, after, reached, gone, moment, ⟨args, of_decide_eq_true shown⟩, ?_⟩
  exact dialed_is_wanted impatient_onlyEnds proper reached moment (of_decide_eq_true shown)

end Office
end Switchboard
