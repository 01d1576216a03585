import Switchboard.Proofs.Occasions
import Switchboard.Proofs.Roster

/-! A leg or a task for every call, when listeners only observe. The exchange listens to every
connection and has the plan of every outgoing one, so whatever takes a leg away from a connection
either destroys it or leaves it to one task, which goes on until there is another leg or the
connection is destroyed. -/

namespace Switchboard

namespace Connection

structure StaysHeard (old new : Connection) : Prop where
  direction : new.direction = old.direction
  destroyed : old.destroyed = true → new.destroyed = true
  shown : (old.destroyed = true → old.published.state = .disconnected) →
    new.destroyed = true → new.published.state = .disconnected
  distinct : old.listeners.Nodup → new.listeners.Nodup
  heard : new.destroyed = false → .exchange ∈ old.listeners → .exchange ∈ new.listeners

namespace StaysHeard

theorem refl (call : Connection) : call.StaysHeard call where
  direction := rfl
  destroyed gone := gone
  shown shows := shows
  distinct distinct := distinct
  heard _ heard := heard

theorem trans {old middle new : Connection} (first : old.StaysHeard middle)
    (second : middle.StaysHeard new) :
    old.StaysHeard new where
  direction := second.direction.trans first.direction
  destroyed gone := second.destroyed (first.destroyed gone)
  shown shows := second.shown (first.shown shows)
  distinct distinct := second.distinct (first.distinct distinct)
  heard alive heard := by
    refine second.heard alive (first.heard (Bool.eq_false_iff.mpr fun gone => ?_) heard)
    rw [second.destroyed gone] at alive
    cases alive

theorem of_essence {old new : Connection} (same : new.essence = old.essence) :
    old.StaysHeard new := by
  have part {α : Type} (read : Connection → α) : read new.essence = read old.essence :=
    congrArg read same
  have destroyed : new.destroyed = old.destroyed := part (·.destroyed)
  have shown : new.published.state = old.published.state := part (·.published.state)
  have listeners : new.listeners = old.listeners := part (·.listeners)
  exact {
    direction := part (·.direction)
    destroyed := fun gone => destroyed.trans gone
    shown := fun shows gone => shown.trans (shows (destroyed.symm.trans gone))
    distinct := fun distinct => by rw [listeners]; exact distinct
    heard := fun _ heard => by rw [listeners]; exact heard }

theorem settled (call : Connection) : call.StaysHeard call.settled := by
  by_cases gone : call.destroyed = true
  · rw [settled_of_destroyed gone]
    exact { refl call with }
  · have alive : call.destroyed = false := by simpa using gone
    cases ending : call.isEnding with
    | false =>
      rw [settled_of_lasting alive ending]
      exact { refl call with shown := fun _ now => absurd now gone }
    | true =>
      rw [settled_of_ending ending]
      exact { refl call with
        destroyed := fun _ => rfl
        shown := fun _ _ => rfl
        distinct := fun _ => List.nodup_nil
        heard := nofun }

end StaysHeard

theorem leg_settled (call : Connection) :
    call.settled.leg = call.leg ∨ call.settled.leg = none ∧ call.settled.destroyed = true := by
  unfold settled
  split
  · exact .inl rfl
  · split
    · exact .inr ⟨rfl, rfl⟩
    · exact .inl rfl

end Connection

namespace System

/-- Time passes in a system. Legs are lost only by who is destroyed; the connections that were
`moved` are another matter. -/
structure KeepsHeard (moved : ConnectionId → Prop) (before after : System Chronicle) : Prop where
  count : after.connections.length = before.connections.length
  attended : after.attended = before.attended
  works : after.works = before.works
  outside : after.outside = before.outside
  staysHeard (id : ConnectionId) : (before.connection id).StaysHeard (after.connection id)
  leg (id : ConnectionId) : ¬ moved id →
    (after.connection id).leg = (before.connection id).leg ∨
      (after.connection id).leg = none ∧ (after.connection id).destroyed = true
  plan (id : ConnectionId) : (after.connection id).destroyed = false →
    after.planOf? id = before.planOf? id

namespace KeepsHeard

variable {moved : ConnectionId → Prop} {before middle after : System Chronicle}

theorem of_connections (count : after.connections.length = before.connections.length)
    (same : ∀ id, after.connection id = before.connection id)
    (attended : after.attended = before.attended) (works : after.works = before.works)
    (outside : after.outside = before.outside) (plan : ∀ id, after.planOf? id = before.planOf? id) :
    before.KeepsHeard moved after where
  count := count
  attended := attended
  works := works
  outside := outside
  staysHeard id := by rw [same]; exact .refl _
  leg id _ := .inl (by rw [same])
  plan id _ := plan id

theorem refl (system : System Chronicle) : system.KeepsHeard moved system :=
  of_connections rfl (fun _ => rfl) rfl rfl rfl fun _ => rfl

theorem trans (first : before.KeepsHeard moved middle) (second : middle.KeepsHeard moved after) :
    before.KeepsHeard moved after where
  count := second.count.trans first.count
  attended := second.attended.trans first.attended
  works := second.works.trans first.works
  outside := second.outside.trans first.outside
  staysHeard id := (first.staysHeard id).trans (second.staysHeard id)
  leg id still := by
    rcases second.leg id still with same | lost
    · rw [same]
      exact (first.leg id still).imp_right fun lost =>
        ⟨lost.1, (second.staysHeard id).destroyed lost.2⟩
    · exact .inr lost
  plan id alive := by
    refine (second.plan id alive).trans (first.plan id (Bool.eq_false_iff.mpr fun gone => ?_))
    rw [(second.staysHeard id).destroyed gone] at alive
    cases alive

theorem of_ripple (ripple : Ripple (fun notes : Chronicle => notes) before after) :
    before.KeepsHeard moved after where
  count := ripple.count
  attended := ripple.attended
  works := ripple.works
  outside := ripple.outside
  staysHeard id := .of_essence (ripple.essence id)
  leg id _ := .inl (ripple.leg id)
  plan id alive := by
    refine (ripple.plan id).resolve_right fun gone => ?_
    rw [ripple.destroyed, gone.2] at alive
    cases alive

theorem revise (system : System Chronicle) (id : ConnectionId) {change : Connection → Connection}
    (staysHeard : (system.connection id).StaysHeard (change (system.connection id)))
    (leg : moved id ∨ (change (system.connection id)).leg = (system.connection id).leg ∨
      (change (system.connection id)).leg = none ∧
        (change (system.connection id)).destroyed = true) :
    system.KeepsHeard moved (system.reviseConnection id change) where
  count := by simp
  attended := by simp
  works := by simp [System.works]
  outside := by simp
  staysHeard := system.kept_revise id staysHeard .refl
  leg := system.each_revise id (fun other call => ¬ moved other →
    call.leg = (system.connection other).leg ∨ call.leg = none ∧ call.destroyed = true)
    leg.resolve_left fun _ _ => .inl rfl
  plan other _ := by simp

theorem reviseLeg (system : System Chronicle) (leg : LegId) (change : Leg → Leg) :
    system.KeepsHeard moved (system.reviseLeg leg change) :=
  of_connections rfl (system.connection_reviseLeg leg change) rfl rfl rfl fun _ => rfl

theorem release (system : System Chronicle) (leg : Option LegId) :
    system.KeepsHeard moved (system.release leg) := by
  cases leg with
  | none => exact refl system
  | some leg => exact reviseLeg system leg _

theorem settle (system : System Chronicle) (id : ConnectionId) :
    system.KeepsHeard moved (system.settle id) :=
  (revise system id (.settled _) (.inr (Connection.leg_settled _))).trans (release _ _)

theorem changed (system : System Chronicle) (id : ConnectionId) {change : Connection → Connection}
    (staysHeard : (system.connection id).StaysHeard (change (system.connection id)))
    (leg : (change (system.connection id)).leg = (system.connection id).leg) :
    system.KeepsHeard moved (system.changed id change) :=
  (revise system id staysHeard (.inr (.inl leg))).trans (settle _ id)

theorem ending (system : System Chronicle) (id : ConnectionId) (info : DisconnectInfo) :
    system.KeepsHeard moved (system.ending id info) := by
  rw [System.ending]
  split
  · exact refl system
  · exact changed system id { Connection.StaysHeard.refl _ with } rfl

theorem bound (system : System Chronicle) (id : ConnectionId) (leg : LegId) :
    system.KeepsHeard (· = id) (system.bound id leg) := by
  have staysHeard : (system.connection id).StaysHeard
      (Connection.bound leg (system.leg leg).view (system.connection id)) :=
    { Connection.StaysHeard.refl (system.connection id) with }
  have revised : system.KeepsHeard (· = id)
      (system.reviseConnection id (.bound leg (system.leg leg).view)) :=
    revise system id staysHeard (.inl rfl)
  have tied : system.KeepsHeard (· = id) (system.tied id leg) :=
    (revised.trans (release _ _)).trans (reviseLeg _ leg _)
  exact tied.trans (settle _ id)

theorem givenUp (system : System Chronicle) (id : ConnectionId) :
    system.KeepsHeard (· = id) (system.givenUp id) := by
  have staysHeard : (system.connection id).StaysHeard (Connection.waiting (system.connection id)) :=
    { Connection.StaysHeard.refl (system.connection id) with }
  have revised : system.KeepsHeard (· = id) (system.reviseConnection id .waiting) :=
    revise system id staysHeard (.inl rfl)
  exact revised.trans (release _ _)

theorem since (keepsHeard : before.KeepsHeard moved after) : before.Since after where
  known {id} known := (known_congr keepsHeard.count id).mpr known
  direction {id} _ := (keepsHeard.staysHeard id).direction
  gone {id} _ gone := (keepsHeard.staysHeard id).destroyed gone

end KeepsHeard

/-- The exchange listens to every live connection, and has a plan for every outgoing one. -/
structure AllHeard (system : System Chronicle) : Prop where
  rest : system.AtRest
  attended : system.attended = true
  shown (id : ConnectionId) : (system.connection id).destroyed = true →
    (system.connection id).published.state = .disconnected
  distinct (id : ConnectionId) : (system.connection id).listeners.Nodup
  heard (id : ConnectionId) : (system.connection id).destroyed = false →
    .exchange ∈ (system.connection id).listeners
  planned (id : ConnectionId) : (system.connection id).destroyed = false →
    (system.connection id).direction = .outgoing → (system.planOf? id).isSome = true

namespace AllHeard

variable {moved : ConnectionId → Prop} {system after : System Chronicle}

theorem keepsHeard (allHeard : system.AllHeard) (keepsHeard : system.KeepsHeard moved after)
    (rest : after.AtRest) :
    after.AllHeard := by
  have earlier {id : ConnectionId} (alive : (after.connection id).destroyed = false) :
      (system.connection id).destroyed = false := by
    refine Bool.eq_false_iff.mpr fun gone => ?_
    rw [(keepsHeard.staysHeard id).destroyed gone] at alive
    cases alive
  exact {
    rest := rest
    attended := keepsHeard.attended.trans allHeard.attended
    shown := fun id => (keepsHeard.staysHeard id).shown (allHeard.shown id)
    distinct := fun id => (keepsHeard.staysHeard id).distinct (allHeard.distinct id)
    heard := fun id alive =>
      (keepsHeard.staysHeard id).heard alive (allHeard.heard id (earlier alive))
    planned := fun id alive outgoing => by
      rw [keepsHeard.plan id alive]
      exact allHeard.planned id (earlier alive)
        ((keepsHeard.staysHeard id).direction.symm.trans outgoing) }

theorem ripple (allHeard : system.AllHeard)
    (ripple : Ripple (fun notes : Chronicle => notes) system after) : after.AllHeard :=
  allHeard.keepsHeard
    (System.KeepsHeard.of_ripple ripple : system.KeepsHeard (fun _ => False) after)
    (ripple.atRest allHeard.rest)

theorem aside (allHeard : system.AllHeard) (same : system.SameCalls after) : after.AllHeard := by
  have connection (id : ConnectionId) : after.connection id = system.connection id :=
    connection_congr same.connections id
  exact {
    rest := allHeard.rest.of_connections connection
    attended := same.attended.trans allHeard.attended
    shown := fun id => by rw [connection]; exact allHeard.shown id
    distinct := fun id => by rw [connection]; exact allHeard.distinct id
    heard := fun id => by rw [connection]; exact allHeard.heard id
    planned := fun id => by
      rw [connection, planOf?, same.plans]
      exact allHeard.planned id }

theorem joined (allHeard : system.AllHeard) (params : CallParameters) (redial : Bool)
    (plans : List (ConnectionId × DialPlan))
    (covers : params.direction = .outgoing →
      (plans.lookup (.issued system.connections.length)).isSome = true) :
    (system.joined (.enlisted params redial) plans).AllHeard where
  rest := allHeard.rest.joined params redial plans
  attended := allHeard.attended
  shown := system.each_joined plans (motive := fun _ call => call.destroyed = true →
    call.published.state = .disconnected) nofun allHeard.shown
  distinct := system.each_joined plans (motive := fun _ call => call.listeners.Nodup)
    (List.pairwise_singleton _ _) allHeard.distinct
  heard := system.each_joined plans (motive := fun _ call => call.destroyed = false →
    .exchange ∈ call.listeners) (fun _ => List.mem_singleton_self _) allHeard.heard
  planned id alive outgoing := by
    have plan : (system.joined (.enlisted params redial) plans).planOf? id =
        (plans.lookup id).or (system.planOf? id) := List.lookup_append
    rw [plan, Option.isSome_or, Bool.or_eq_true]
    exact system.each_joined plans (motive := fun other call => call.destroyed = false →
      call.direction = .outgoing →
        (plans.lookup other).isSome = true ∨ (system.planOf? other).isSome = true)
      (fun _ outgoing => .inl (covers outgoing))
      (fun other alive outgoing => .inr (allHeard.planned other alive outgoing)) id alive outgoing

end AllHeard
end System

namespace Regime

/-- Listeners only observe, and every live outgoing call without a leg has a task. -/
def silent (rounds : Nat) : Regime where
  wiring := .level .silent rounds
  fit := System.AllHeard
  strict := True

namespace Silent

variable {rounds : Nat} {moved : ConnectionId → Prop} {before middle after : System Chronicle}

theorem needsNoDial {system : System Chronicle} {id : ConnectionId}
    (gone : (system.connection id).destroyed = true) : (silent rounds).NeedsNoDial system id :=
  fun _ _ => gone

theorem mayLoseLegs (keepsHeard : before.KeepsHeard moved after) :
    (silent rounds).MayLoseLegs moved before after where
  toSince := keepsHeard.since
  leg {id} _ still := (keepsHeard.leg id still).imp_right fun lost => ⟨lost.1, needsNoDial lost.2⟩

theorem concernsNoTask (keepsHeard : before.KeepsHeard (fun _ => False) after) :
    (silent rounds).ConcernsNoTask before after where
  toMayLoseLegs := mayLoseLegs keepsHeard
  count := keepsHeard.count
  works := keepsHeard.works
  outside := keepsHeard.outside

theorem upholds (rounds : Nat) : (silent rounds).Upholds where
  aside same allHeard := allHeard.aside same
  ended allHeard finished := by
    refine needsNoDial (allHeard.rest.destroyed_of_not_live ?_)
    rw [finished]
    decide
  watched {system id} allHeard finished := by
    refine needsNoDial (allHeard.rest.destroyed_of_not_live ?_)
    rw [← (allHeard.rest.steady id).watched, finished]
    decide
  unplanned {system id} allHeard missing _ outgoing := by
    refine (Bool.not_eq_false _).mp fun alive => ?_
    have planned := allHeard.planned id alive outgoing
    rw [missing] at planned
    cases planned
  disconnect {system} id info allHeard :=
    (Act.ripple_setDisconnected (Wiring.ripples_notes rounds) allHeard.rest id info).mono
      fun _ after ripple => by
        have keepsHeard : system.KeepsHeard (fun _ => False) after :=
          (System.KeepsHeard.ending system id info).trans (.of_ripple ripple)
        have rest := ripple.atRest (allHeard.rest.ending id info)
        have gone := (ripple.destroyed id).trans (allHeard.rest.destroyed_ending id info)
        exact ⟨allHeard.keepsHeard keepsHeard rest, concernsNoTask keepsHeard, needsNoDial gone⟩
  select {system} id active allHeard := by
    have keepsHeard : system.KeepsHeard (fun _ => False)
        (system.reviseConnection id ({ · with selectionActive := active })) :=
      .revise system id { Connection.StaysHeard.refl _ with } (.inr (.inl rfl))
    exact allHeard.keepsHeard keepsHeard
      (allHeard.rest.reviseConnection id _ (fun _ => rfl) fun _ => rfl)
  reassign {system} id phone subscription technology carrier allHeard := by
    let change (call : Connection) := { call with phone, subscription, technology, carrier }
    refine (Act.ripple_change (Wiring.ripples_notes rounds) allHeard.rest id change
      fun _ => rfl).mono fun _ after ripple => ?_
    have changed : system.KeepsHeard (fun _ => False) (system.changed id change) :=
      .changed system id { Connection.StaysHeard.refl _ with } rfl
    have keepsHeard := changed.trans (.of_ripple ripple)
    have rest := ripple.atRest (allHeard.rest.changed id change fun _ => rfl)
    exact ⟨allHeard.keepsHeard keepsHeard rest, concernsNoTask keepsHeard⟩
  bind {system} id leg allHeard known :=
    (Act.ripple_bind (Wiring.ripples_notes rounds) allHeard.rest id leg).mono
      fun _ after ripple => by
        have keepsHeard : system.KeepsHeard (· = id) after :=
          (System.KeepsHeard.bound system id leg).trans (.of_ripple ripple)
        refine ⟨allHeard.keepsHeard keepsHeard (ripple.atRest (allHeard.rest.bound id leg)), {
          toMayLoseLegs := mayLoseLegs keepsHeard
          count := keepsHeard.count
          works := keepsHeard.works
          outside := keepsHeard.outside
          bound := fun bare => needsNoDial ?_ }⟩
        have bound := system.connection_bound id leg id
        rw [if_pos ⟨rfl, known⟩] at bound
        rw [ripple.leg, bound] at bare
        rw [ripple.destroyed, bound]
        rcases Connection.leg_settled
          (.bound leg (system.leg leg).view (system.connection id)) with same | lost
        · rw [same] at bare
          cases bare
        · exact lost.2
  enroll {system} request placement allHeard := by
    let id := ConnectionId.issued system.connections.length
    have joined : (system.enlisting request placement).AllHeard :=
      allHeard.joined _ _ _ fun _ => by simp
    have addsOne : (silent rounds).AddsOne system (system.enlisting request placement) :=
      .of_joined system _ _ _
    rw [Act.ensures_enroll]
    refine (Act.ripple_introduce joined.rest request placement id).mono
      fun _ after ⟨same, ripple⟩ => ⟨same, ?_⟩
    rw [System.streamed] at ripple
    split at ripple
    · let change (call : Connection) := { call with rttStream := some ("rtt-" ++ id.text) }
      have changed : (system.enlisting request placement).KeepsHeard (fun _ => False)
          ((system.enlisting request placement).changed id change) :=
        .changed _ id { Connection.StaysHeard.refl _ with } rfl
      have keepsHeard := changed.trans (.of_ripple ripple)
      have rest := ripple.atRest (joined.rest.changed id change fun _ => rfl)
      exact ⟨joined.keepsHeard keepsHeard rest, addsOne.trans (concernsNoTask keepsHeard)⟩
    · exact ⟨joined.ripple ripple, addsOne.trans (concernsNoTask (.of_ripple ripple))⟩

section
variable {system : System Chronicle} (allHeard : system.AllHeard)
include allHeard

theorem leavesWork (keepsHeard : system.KeepsHeard (fun _ => False) after) (rest : after.AtRest) :
    (silent rounds).LeavesWork [] system after :=
  .of_concernsNoTask (concernsNoTask keepsHeard) (allHeard.keepsHeard keepsHeard rest)

theorem followed {origin : System Chronicle} {id : ConnectionId} {work : FollowUp}
    (client : work.client? = some id) (keepsHeard : origin.KeepsHeard (· = id) system)
    (known : origin.Known id) (held : (origin.connection id).leg.isSome = true)
    (bare : (system.connection id).leg = none) :
    (silent rounds).LeavesWork [work] origin
      { system with signals := system.signals ++ [.follow work] } :=
  have clients : [work].filterMap FollowUp.client? = [id] := by simp [client]
  have mayLoseLegs := (mayLoseLegs keepsHeard : (silent rounds).MayLoseLegs (· = id) origin system)
  { toMayLoseLegs := (mayLoseLegs.mono (by simp [clients])).trans (.of_connections rfl)
    fit := allHeard.aside ⟨rfl, rfl, rfl, rfl⟩
    works := by
      have works := keepsHeard.works
      simp only [System.works] at works
      simp only [System.works, List.filterMap_append, works]
      rfl
    single := by simp [clients]
    lost := fun {other} among => by
      rw [clients] at among
      obtain rfl := List.mem_singleton.mp among
      exact ⟨known, held, by cases other <;> exact bare⟩
    fresh := fun strange here _ => absurd ((System.known_congr keepsHeard.count _).mp here) strange
    undialed := .of_eq keepsHeard.outside }

theorem lapsed {origin : System Chronicle} {id : ConnectionId}
    (keepsHeard : origin.KeepsHeard (· = id) system) (bare : (system.connection id).leg = none)
    (gone : (system.connection id).destroyed = true) :
    (silent rounds).LeavesWork [] origin system :=
  .of_concernsNoTask {
    toSince := keepsHeard.since
    leg := fun {other} known _ => by
      by_cases same : other = id
      · exact same ▸ .inr ⟨bare, needsNoDial gone⟩
      · exact (mayLoseLegs keepsHeard).leg known same
    count := keepsHeard.count
    works := keepsHeard.works
    outside := keepsHeard.outside } allHeard

theorem giveUp {id : ConnectionId} (event : ConnectionEvent) {work : FollowUp}
    (client : work.client? = some id) (held : (system.connection id).leg.isSome = true) :
    ∃ left, (silent rounds).LeavesWork left system ((system.givenUp id).ask id event work) := by
  obtain ⟨leg, had⟩ := Option.isSome_iff_exists.mp held
  have known := system.known_of_leg had
  have given := System.KeepsHeard.givenUp system id
  have still : (system.givenUp id).AllHeard := allHeard.keepsHeard given (allHeard.rest.givenUp id)
  have bare : ((system.givenUp id).connection id).leg = none := by
    rw [System.givenUp, System.connection_release,
      system.connection_reviseConnection_known known]
    rfl
  obtain ⟨journal, -, asked⟩ := @System.hear_foldl id event work _ (still.distinct id)
    (system.givenUp id) still.attended
  rw [System.ask, asked]
  let told : System Chronicle := { system.givenUp id with journal }
  have connection (other : ConnectionId) :
      told.connection other = (system.givenUp id).connection other := by
    cases other <;> rfl
  have keepsHeard : system.KeepsHeard (· = id) told :=
    given.trans (.of_connections rfl connection rfl rfl rfl fun _ => rfl)
  have fit : told.AllHeard := still.aside ⟨rfl, rfl, rfl, rfl⟩
  have bare : (told.connection id).leg = none := (congrArg (·.leg) (connection id)).trans bare
  split
  · exact ⟨[work], followed fit client keepsHeard known held bare⟩
  · rename_i unheard
    have gone : ((system.givenUp id).connection id).destroyed = true :=
      (Bool.not_eq_false _).mp fun alive => unheard (still.heard id alive)
    rw [List.append_nil]
    exact ⟨[], lapsed fit keepsHeard bare ((congrArg (·.destroyed) (connection id)).trans gone)⟩

theorem legEnded {id : ConnectionId} (failure : RadioFailure) (code : Int) (message : String)
    (held : (system.connection id).leg.isSome = true) :
    ∃ left, (silent rounds).LeavesWork left system (system.legEnded id failure code message) := by
  rw [System.legEnded]
  split
  · exact giveUp allHeard _ rfl held
  · exact giveUp allHeard _ rfl held
  · exact ⟨[], leavesWork allHeard (.ending system id _) (allHeard.rest.ending id _)⟩

theorem legEvent (id : ConnectionId) (generation : Nat) (event : RadioEvent) :
    ∃ left, (silent rounds).LeavesWork left system (system.legEvent id generation event) := by
  have quiet : (silent rounds).LeavesWork [] system system :=
    leavesWork allHeard (.refl _) allHeard.rest
  have changed (change : Connection → Connection)
      (same : ∀ call, (change call).publicity = call.publicity)
      (staysHeard : ∀ call : Connection, call.StaysHeard (change call))
      (leg : ∀ call, (change call).leg = call.leg) :
      ∃ left, (silent rounds).LeavesWork left system (system.changed id change) :=
    ⟨[], leavesWork allHeard (.changed system _ (staysHeard _) (leg _))
      (allHeard.rest.changed id change same)⟩
  rw [System.legEvent]
  split
  · rename_i heeds
    have held := (Bool.and_eq_true_iff.mp heeds).2
    unfold System.heed
    split
    · exact legEnded allHeard _ _ _ held
    · split
      · exact changed _ (fun _ => rfl) (fun _ => { Connection.StaysHeard.refl _ with }) fun _ => rfl
      · exact ⟨[], quiet⟩
    · exact changed _ (fun _ => rfl) (fun _ => { Connection.StaysHeard.refl _ with }) fun _ => rfl
    · exact changed _ (fun _ => rfl) (fun _ => { Connection.StaysHeard.refl _ with }) fun _ => rfl
  · exact ⟨[], quiet⟩

end

theorem keptThroughout (rounds : Nat) : (silent rounds).KeptThroughout where
  toUpholds := upholds rounds
  enter {system} params allHeard incoming := by
    have joined := allHeard.joined params false [] fun outgoing => by
      rw [incoming] at outgoing
      cases outgoing
    have announcing : (do
        Act.track (.connection (.issued system.connections.length))
        Act.announce (.connectionAdded (.issued system.connections.length))).Rippling
          (.level .silent rounds) fun notes : Chronicle => notes :=
      .bind (Act.rippling_track (Wiring.ripples_notes rounds) _) fun _ =>
        .modify fun _ => Ripple.of_conferences ..
    exact (announcing _ joined.rest.steady).mono fun _ after ripple =>
      ⟨joined.ripple ripple, concernsNoTask (.of_ripple ripple)⟩
  legEvent {system} id generation event allHeard :=
    (Act.ripple_legEvent Bystanders.observe_notes rounds allHeard.rest id generation event).mono
      fun _ after ripple => by
        obtain ⟨left, leavesWork⟩ := @legEvent rounds system allHeard id generation event
        exact ⟨left,
          leavesWork.untasked (concernsNoTask (.of_ripple ripple)) (leavesWork.fit.ripple ripple)⟩
  watch {system} id listener allHeard := by
    rw [Act.addListener, Act.ensures_bind, Act.ensures_look]
    split
    · exact (Act.ensures_pure _ _).mpr ⟨allHeard, .refl _⟩
    · rename_i new
      simp only [Act.ensures_bind, Act.ensures_revise, Act.ensures_pure]
      let change (call : Connection) : Connection :=
        { call with listeners := call.listeners ++ [listener] }
      have apart : listener ∉ (system.connection id).listeners := by simpa using new
      have staysHeard : (system.connection id).StaysHeard (change (system.connection id)) :=
        { Connection.StaysHeard.refl _ with
          distinct := fun distinct => by
            refine List.nodup_append.mpr ⟨distinct, by simp, fun other among last same => ?_⟩
            obtain rfl := List.mem_singleton.mp same
            rintro rfl
            exact apart among
          heard := fun _ heard => List.mem_append_left _ heard }
      have keepsHeard : system.KeepsHeard (fun _ => False) (system.reviseConnection id change) :=
        .revise system id staysHeard (.inr (.inl rfl))
      exact ⟨allHeard.keepsHeard keepsHeard
        (allHeard.rest.reviseConnection id _ (fun _ => rfl) fun _ => rfl),
        concernsNoTask keepsHeard⟩

end Silent

end Regime

namespace System

theorem AllHeard.opening (settings : Settings) (device : Device) :
    (Roster.opening settings device).system.AllHeard := by
  have absent (id : ConnectionId) :
      (Roster.opening settings device).system.connection id = .absent := by
    cases id <;> rfl
  exact {
    rest := ⟨fun id => by rw [absent]; exact Connection.steady_absent,
      fun id => by rw [absent]; rfl⟩
    attended := rfl
    shown := fun id _ => by rw [absent]; rfl
    distinct := fun id => by rw [absent]; exact List.nodup_nil
    heard := fun id alive => by rw [absent] at alive; cases alive
    planned := fun id alive => by rw [absent] at alive; cases alive }

end System

namespace Roster

variable {settings : Settings} {device : Device} {rounds : Nat} {occasions : List Occasion}
  {roster : Roster}

/-- Every outgoing call that is live has a leg, or one task that will see to it: it is the only one
that may dial for the call, and as long as it is there the call has no leg. -/
theorem leg_or_task
    (reached : (opening settings device).run (.level .silent rounds) occasions = some roster)
    {id : ConnectionId}
    (live : (roster.system.connection id).published.state.isLive = true)
    (outgoing : (roster.system.connection id).direction = .outgoing) :
    (Office.opening settings device).run rounds occasions = some roster.office ∧
      ((roster.system.connection id).leg.isSome = true ∧ roster.clients.count id = 0 ∨
        (roster.system.connection id).leg = none ∧ roster.clients.count id = 1) ∧
      ∀ {occasion before after phone number args},
        roster.office.Moment (.level .silent rounds) occasion before after →
        after.outside = .asked (.dial id phone number args) :: before.outside →
        ∃ position task, occasion = .resume position ∧
          roster.tasks[position]? = some task ∧ task.client = some id := by
  have empty : ClientsServed (.silent rounds) (opening settings device) :=
    .opening settings device (System.AllHeard.opening settings device)
  have clientsServed := empty.run (Regime.Silent.keptThroughout rounds) reached
  have order := clientsServed.order
  have alive : (roster.system.connection id).destroyed = false := by
    refine Bool.eq_false_iff.mpr fun gone => ?_
    rw [order.fit.shown id gone] at live
    cases live
  have known := roster.system.known_of_alive alive
  refine ⟨?_, ?_, fun moment dials => ?_⟩
  · have same := office_run (.level .silent rounds) (opening settings device) occasions
    rw [reached] at same
    exact same.symm
  · cases held : (roster.system.connection id).leg with
    | some leg =>
      refine .inl ⟨rfl, List.count_eq_zero.mpr fun among => ?_⟩
      rw [order.bare among] at held
      cases held
    | none =>
      have client := (order.served known held).resolve_right fun needsNoDial => by
        rw [needsNoDial trivial outgoing] at alive
        cases alive
      exact .inr ⟨rfl, order.single.count.trans (if_pos client)⟩
  · obtain ⟨-, -, -, position, task, rfl, here, client⟩ :=
      clientsServed.dialing (Regime.Silent.keptThroughout rounds) moment dials
    exact ⟨position, task, rfl, here, client.resolve_right fun strange => strange.2 known⟩

/-- One phone, which knows the number of the emergency services. -/
def lonePhone : Device where
  phones := [{ id := ⟨0⟩, subscription := none, technology := .gsm }]
  emergencyNumbers := { numbers := ["911"] }

/-- An emergency call is dialed, gets a leg, and loses it. -/
def dropped : List Occasion := [
  .start (.place { address := "911" }),
  .resume 0,
  .grant 0 { state := .dialing, technology := .gsm },
  .resume 0,
  .report ⟨0⟩ (.disconnected .emergencyTemporary 0 "")]

/-- A call that has lost its leg is left to a task. -/
theorem dropped_left_to_task : ∃ roster,
    (opening {} lonePhone).run (.level .silent 20) dropped = some roster ∧
      (roster.system.connection (.issued 0)).published.state.isLive = true ∧
      (roster.system.connection (.issued 0)).direction = .outgoing ∧
      (roster.system.connection (.issued 0)).leg = none ∧
      roster.clients.count (.issued 0) = 1 := by
  have lost : ((opening {} lonePhone).run (.level .silent 20) dropped).any (fun roster =>
      (roster.system.connection (.issued 0)).published.state.isLive &&
        (roster.system.connection (.issued 0)).direction == .outgoing &&
        (roster.system.connection (.issued 0)).leg == none) = true := by decide +kernel
  obtain ⟨roster, reached, shown⟩ := (Option.any_eq_true _ _).mp lost
  simp only [Bool.and_eq_true, beq_iff_eq] at shown
  obtain ⟨⟨live, outgoing⟩, bare⟩ := shown
  obtain ⟨-, ⟨held, -⟩ | ⟨-, one⟩, -⟩ := leg_or_task reached live outgoing
  · rw [bare] at held
    cases held
  · exact ⟨roster, reached, live, outgoing, bare, one⟩

end Roster
end Switchboard
