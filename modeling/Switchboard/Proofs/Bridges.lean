import Switchboard.Proofs.WiringComparison

/-! Stale bridges. The radio may go on to speak through any bridge that was ever made. What comes
through one that is not of the connection's latest binding, or after the connection has lost its
leg, comes to nothing: a run in which all that is left out is the same run, whatever those do who
are told (`Gesture.stale_inert`). Between gestures a leg has a bridge of a connection attached
exactly if the connection is bound to it, and that is its latest one. -/

namespace Switchboard

namespace System

/-- The bridge is of the connection's latest binding, and the connection has had its leg since. -/
def isLive (system : System Ties) (bridge : Bridge) : Bool :=
  system.outside.bridge? bridge.connection == some bridge &&
    (system.connection bridge.connection).leg.isSome

variable {owner : LegId → ConnectionId} {system : System Ties}

theorem LegsOwned.isLive (legsOwned : system.LegsOwned owner) {leg : LegId} {bridge : Bridge}
    (attached : (system.leg leg).attached = some bridge) : system.isLive bridge = true := by
  rw [legsOwned.attached] at attached
  split at attached
  · rename_i held
    cases attached
    simp [System.isLive, legsOwned.latest held, held]
  · cases attached

theorem LegsOwned.attached_iff (legsOwned : system.LegsOwned owner) (leg : LegId)
    (id : ConnectionId) :
    (∃ bridge, (system.leg leg).attached = some bridge ∧ bridge.connection = id) ↔
      (system.connection id).leg = some leg := by
  rw [legsOwned.attached]
  constructor
  · rintro ⟨bridge, attached, rfl⟩
    split at attached
    · rename_i held
      cases attached
      exact held
    · cases attached
  · intro held
    obtain ⟨rfl, -⟩ := legsOwned.owned held
    exact ⟨_, if_pos held, rfl⟩

end System

/-- A move, or an event through a bridge that the radio has kept. -/
inductive Gesture
  | move (move : Move)
  | deliver (bridge : Bridge) (event : RadioEvent)

namespace Gesture

/-- Only what exists can be bound. It is written down when a connection is bound or unbound. -/
def act : Gesture → Act Ties Unit
  | .move (.bind id leg) => do
    let system ← get
    if system.Known id ∧ leg.serial < system.legs.length then
      let call := system.connection id
      modify (·.recording (.made ⟨id, call.generation + 1⟩ call.destroyed))
      Act.bind id leg
  | .move (.unbind id) => do
    Act.unbind id
    modify (·.recording (.cut id))
  | .move other => other.act
  | .deliver bridge event => Act.legEvent bridge.connection bridge.generation event

def bridge? (system : System Ties) : Gesture → Option Bridge
  | .move (.report leg _) => (system.leg leg).attached
  | .move (.reportLate leg _) => (system.leg leg).last
  | .move (.inform id _) => some ⟨id, (system.connection id).generation⟩
  | .move _ => none
  | .deliver bridge _ => some bridge

def isStale (gesture : Gesture) (system : System Ties) : Bool :=
  (gesture.bridge? system).any (!system.isLive ·)

def remains : Gesture → Act Ties Unit
  | .move (.report leg event) =>
    modify (·.reviseLeg leg fun leg => { leg with view := leg.view.apply event })
  | _ => pure ()

/-- Stale events are left out. -/
def pruned (gesture : Gesture) : Act Ties Unit := do
  if gesture.isStale (← get) then gesture.remains else gesture.act

/-- A leg is bound to its owner only. -/
def Own (owner : LegId → ConnectionId) : Gesture → Prop
  | .move (.bind id leg) => owner leg = id
  | _ => True

end Gesture

/-- What somebody who is told does at once, depending on what there is to see. -/
inductive Response
  | rest
  | look (next : System Ties → Response)
  | make (gesture : Gesture) (next : Response)

namespace Response

def act (perform : Gesture → Act Ties Unit) : Response → Act Ties Unit
  | rest => pure ()
  | look next => do (next (← get)).act perform
  | make gesture next => do
    perform gesture
    next.act perform

/-- Legs are bound to their owners only. -/
def Own (owner : LegId → ConnectionId) : Response → Prop
  | rest => True
  | look next => ∀ system, (next system).Own owner
  | make gesture next => gesture.Own owner ∧ next.Own owner

end Response

def Bystanders.responding (perform : Gesture → Act Ties Unit)
    (hear : String → ConnectionId → ConnectionEvent → Response) (bridged : Response) :
    Bystanders Ties where
  hear name id event := (hear name id event).act perform
  bridged := bridged.act perform

theorem Act.ensures_legEvent_stale {owner : LegId → ConnectionId} {wiring : Wiring Ties}
    {system : System Ties} (legsOwned : system.LegsOwned owner) {bridge : Bridge}
    (stale : system.isLive bridge = false) (event : RadioEvent) (goal : Unit → System Ties → Prop) :
    (legEvent bridge.connection bridge.generation event).Ensures wiring system goal ↔
      goal () system := by
  have shut : ((system.connection bridge.connection).generation == bridge.generation &&
      (system.connection bridge.connection).leg.isSome) = false := by
    refine Bool.eq_false_iff.mpr fun agrees => ?_
    obtain ⟨same, bound⟩ := Bool.and_eq_true_iff.mp agrees
    obtain ⟨leg, held⟩ := Option.isSome_iff_exists.mp bound
    have latest := legsOwned.latest held
    rw [eq_of_beq same] at latest
    rw [System.isLive, latest, bound] at stale
    simp at stale
  rw [legEvent, ensures_bind, ensures_look, shut]
  exact ensures_pure () goal

theorem Gesture.stale_run {owner : LegId → ConnectionId} {system : System Ties} {gesture : Gesture}
    (legsOwned : system.LegsOwned owner) (stale : gesture.isStale system = true)
    (wiring : Wiring Ties) :
    gesture.act wiring system = some ((), system) ∧
      gesture.remains wiring system = some ((), system) := by
  obtain ⟨bridge, through, dead⟩ := (Option.any_eq_true _ _).mp stale
  have dead : system.isLive bridge = false := by simpa using dead
  have idle : gesture.act wiring system = (pure () : Act Ties Unit) wiring system ∧
      gesture.remains = pure () := by
    cases gesture with
    | deliver other event =>
      cases through
      refine ⟨Act.run_eq_of_ensures fun goal => ?_, rfl⟩
      exact (Act.ensures_legEvent_stale legsOwned dead event goal).trans
        (Act.ensures_pure () goal).symm
    | move move =>
      cases move with
      | report leg event =>
        have live := legsOwned.isLive through
        rw [dead] at live
        cases live
      | reportLate leg event =>
        change (system.leg leg).last = some bridge at through
        refine ⟨Act.run_eq_of_ensures fun goal => ?_, rfl⟩
        simp only [act, Move.act, Act.reportLate, Act.ensures_bind, Act.ensures_get, through,
          Act.ensures_legEvent_stale legsOwned dead, Act.ensures_pure]
      | inform id event =>
        cases through
        refine ⟨Act.run_eq_of_ensures fun goal => ?_, rfl⟩
        simp only [act, Move.act, Act.currentLegEvent, Act.ensures_bind, Act.ensures_look,
          Act.ensures_legEvent_stale legsOwned dead, Act.ensures_pure]
      | _ => cases through
  exact ⟨idle.1, by rw [idle.2]; rfl⟩

namespace Act

variable {owner : LegId → ConnectionId} {one two : Wiring Ties}

section
variable (sameTelling : Wiring.SameTelling owner one two)
include sameTelling

theorem sameUnder_gesture {gesture : Gesture} (own : gesture.Own owner) :
    gesture.act.SameUnder owner one two := by
  cases gesture with
  | deliver bridge event => exact (sameUnder_heeds sameTelling _).legEvent _ event
  | move move =>
    cases move with
    | bind id leg =>
      intro system legsOwned
      by_cases fits : system.Known id ∧ leg.serial < system.legs.length
      · have starts (wiring : Wiring Ties) : Gesture.act (.move (.bind id leg)) wiring system =
            (do bridged; update id : Act Ties Unit) wiring ((system.recording
              (.made ⟨id, (system.connection id).generation + 1⟩
                (system.connection id).destroyed)).tied id leg) := by
          refine run_eq_of_ensures fun goal => ?_
          rw [Gesture.act, ensures_bind, ensures_get, if_pos fits, ensures_bind, ensures_modify,
            ensures_bindLeg]
        have rest : SameUnder (do bridged; update id) owner one two :=
          .bind sameTelling.bridged fun _ => (sameUnder_publishes sameTelling id).update
        exact rest.via (legsOwned.bind fits.1 own fits.2) (starts one) (starts two)
      · have stays (wiring : Wiring Ties) : Gesture.act (.move (.bind id leg)) wiring system =
            (pure () : Act Ties Unit) wiring system := by
          refine run_eq_of_ensures fun goal => ?_
          rw [Gesture.act, ensures_bind, ensures_get, if_neg fits]
        exact (Matches.pure ()).via legsOwned (stays one) (stays two)
    | unbind id =>
      intro system legsOwned
      have whole (wiring : Wiring Ties) : Gesture.act (.move (.unbind id)) wiring system =
          (pure () : Act Ties Unit) wiring ((system.unbound id).recording (.cut id)) := by
        refine run_eq_of_ensures fun goal => ?_
        rw [Gesture.act, ensures_bind, ensures_unbind, ensures_modify, ensures_pure]
        rfl
      have freed : (system.unbound id).LegsOwned owner := legsOwned.unbind id rfl rfl
      exact (Matches.pure ()).via (freed.cut (system.leg_unbound id)) (whole one) (whole two)
    | _ =>
      rw [Gesture.act]
      · refine sameUnder_move sameTelling ?_
        rintro _ _ ⟨⟩
      · rintro _ _ ⟨⟩
      · rintro _ ⟨⟩

theorem matches_pruned {gesture : Gesture} (own : gesture.Own owner) :
    Matches owner one two gesture.act gesture.pruned := by
  intro system legsOwned
  have starts : gesture.pruned two system =
      (if gesture.isStale system = true then gesture.remains else gesture.act) two system := rfl
  by_cases stale : gesture.isStale system = true
  · rw [if_pos stale] at starts
    obtain ⟨acts, -⟩ := gesture.stale_run legsOwned stale one
    obtain ⟨-, remains⟩ := gesture.stale_run legsOwned stale two
    exact (Matches.pure ()).via legsOwned acts (starts.trans remains)
  · rw [if_neg stale] at starts
    obtain ⟨same, keeps⟩ := sameUnder_gesture sameTelling own system legsOwned
    exact ⟨starts.trans same, keeps⟩

theorem matches_response {response : Response} (own : response.Own owner) :
    Matches owner one two (response.act Gesture.act) (response.act Gesture.pruned) := by
  induction response with
  | rest => exact .pure _
  | look next ih => exact .bind .get fun system => ih system (own system)
  | make gesture next ih => exact .bind (matches_pruned sameTelling own.1) fun _ => ih own.2

theorem matches_tellOne {hear : String → ConnectionId → ConnectionEvent → Response}
    (bridged : Response)
    (own : ∀ name id event, (hear name id event).Own owner) (id : ConnectionId)
    (event : ConnectionEvent) (listener : Listener) :
    Matches owner one two
      ((Bystanders.responding Gesture.act hear bridged).tellOne id event listener)
      ((Bystanders.responding Gesture.pruned hear bridged).tellOne id event listener) := by
  refine .bind (sameUnder_write _) fun _ => ?_
  cases listener with
  | recorder => exact .pure _
  | exchange => exact sameUnder_attend sameTelling id event
  | observer name => exact matches_response sameTelling (own name id event)

end
end Act

variable {owner : LegId → ConnectionId} {hear : String → ConnectionId → ConnectionEvent → Response}
  {bridged : Response} {rounds : Nat}

theorem Wiring.rounds_level {ε : Type} (bystanders : Bystanders ε) (rounds : Nat) :
    (level bystanders rounds).rounds = rounds := by
  cases rounds <;> rfl

theorem Wiring.sameTelling_level (hearOwn : ∀ name id event, (hear name id event).Own owner)
    (bridgedOwn : bridged.Own owner) (rounds : Nat) :
    SameTelling owner (level (.responding Gesture.act hear bridged) rounds)
      (level (.responding Gesture.pruned hear bridged) rounds) := by
  induction rounds with
  | zero =>
    refine ⟨(rounds_level _ _).trans (rounds_level _ _).symm, fun _ _ _ _ _ => ⟨rfl, ?_⟩,
      fun _ _ => ⟨rfl, ?_⟩⟩
    · intro _ _ run
      cases run
    · intro _ _ run
      cases run
  | succ rounds ih =>
    refine ⟨(rounds_level _ _).trans (rounds_level _ _).symm,
      fun listeners id event system legsOwned => ?_, fun system legsOwned => ?_⟩
    · have all := Act.Matches.forM listeners fun listener _ =>
        Act.matches_tellOne ih bridged hearOwn id event listener
      exact all system legsOwned
    · exact Act.matches_response ih bridgedOwn system legsOwned

namespace Gesture

/-- Gestures one after the other. -/
def run (perform : Gesture → Act Ties Unit)
    (hear : String → ConnectionId → ConnectionEvent → Response) (bridged : Response) (rounds : Nat)
    (gestures : List Gesture) (start : System Ties) : Option (System Ties) :=
  gestures.foldlM (fun system gesture =>
    (perform gesture (.level (.responding perform hear bridged) rounds) system).map (·.2)) start

variable {gestures : List Gesture} {start after : System Ties}

theorem run_cons (perform : Gesture → Act Ties Unit) (gesture : Gesture) :
    run perform hear bridged rounds (gesture :: gestures) start =
      (perform gesture (.level (.responding perform hear bridged) rounds) start).bind fun outcome =>
        run perform hear bridged rounds gestures outcome.2 := by
  simp only [run, List.foldlM_cons]
  exact Option.bind_map

theorem run_pruned (hearOwn : ∀ name id event, (hear name id event).Own owner)
    (bridgedOwn : bridged.Own owner) (own : ∀ gesture ∈ gestures, gesture.Own owner)
    (legsOwned : start.LegsOwned owner) :
    run pruned hear bridged rounds gestures start = run act hear bridged rounds gestures start ∧
      ∀ after, run act hear bridged rounds gestures start = some after → after.LegsOwned owner := by
  induction gestures generalizing start with
  | nil =>
    refine ⟨rfl, ?_⟩
    rintro _ ⟨⟩
    exact legsOwned
  | cons gesture gestures ih =>
    obtain ⟨same, keeps⟩ := Act.matches_pruned
      (Wiring.sameTelling_level hearOwn bridgedOwn rounds) (own gesture (by simp)) start legsOwned
    have rest {outcome : Unit × System Ties}
        (ran : act gesture (.level (.responding act hear bridged) rounds) start = some outcome) :=
      ih (fun other among => own other (by simp [among])) (keeps _ _ ran)
    rw [run_cons, run_cons, same]
    refine ⟨Option.bind_congr fun outcome ran => (rest ran).1, fun after runs => ?_⟩
    obtain ⟨outcome, ran, runs⟩ := Option.bind_eq_some_iff.mp runs
    exact (rest ran).2 after runs

/-- Leaving out of a run every event through a bridge that is not of the latest binding, or that
comes after the connection has lost its leg, changes nothing in it, whatever those do who are told,
as long as each leg is bound to its owner only. At its end a leg has a bridge of a connection
attached exactly if the connection is bound to it, and that is the bridge of the latest binding. No
two bindings make the same bridge, and whoever has given up the leg, or was destroyed after it was
bound, has none. -/
theorem stale_inert (fresh : start.connections = []) (bare : start.legs = [])
    (new : start.outside = []) (own : ∀ gesture ∈ gestures, gesture.Own owner)
    (hearOwn : ∀ name id event, (hear name id event).Own owner) (bridgedOwn : bridged.Own owner) :
    run pruned hear bridged rounds gestures start = run act hear bridged rounds gestures start ∧
      ∀ after, run act hear bridged rounds gestures start = some after →
        (∀ leg id, (∃ bridge, (after.leg leg).attached = some bridge ∧ bridge.connection = id) ↔
          (after.connection id).leg = some leg) ∧
        (∀ leg bridge, (after.leg leg).attached = some bridge → after.isLive bridge = true) ∧
        after.outside.bridges.Nodup ∧
        ∀ id, after.IsLoose id → (after.connection id).leg = none := by
  have unbound (id : ConnectionId) : (start.connection id).leg = none := by
    rw [start.connection_of_not_known (by cases id <;> simp [System.Known, fresh])]
    rfl
  have legsOwned : start.LegsOwned owner := {
    owned := fun held => by
      rw [unbound] at held
      cases held
    latest := fun held => by
      rw [unbound] at held
      cases held
    attached := fun leg => by
      rw [unbound, System.leg, bare]
      rfl
    past := fun among => by
      rw [new] at among
      cases among
    distinct := by
      rw [new]
      exact List.nodup_nil
    loose := fun _ => unbound _ }
  obtain ⟨same, keeps⟩ := run_pruned hearOwn bridgedOwn own legsOwned
  refine ⟨same, fun after runs => ?_⟩
  have legsOwned := keeps after runs
  exact ⟨legsOwned.attached_iff, fun _ _ => legsOwned.isLive, legsOwned.distinct, fun _ =>
    legsOwned.loose⟩

/-- As soon as a call is active, its end comes through an earlier bridge. -/
def lateEnd : String → ConnectionId → ConnectionEvent → Response
  | _, id, .stateChanged _ .active => .make (.deliver ⟨id, 2⟩ (.disconnected .busy 0 "")) .rest
  | _, _, _ => .rest

/-- A call is bound to a leg, again to the same leg, and then to another one, and all of them are
heard of. -/
def reboundCall : List Gesture := [
  .move (.create { phone := ⟨0⟩, technology := .ims }),
  .move (.addListener (.issued 0) (.observer "late")),
  .move (.createLeg { state := .dialing, technology := .ims }),
  .move (.createLeg { state := .dialing, technology := .ims }),
  .move (.bind (.issued 0) ⟨0⟩),
  .move (.bind (.issued 0) ⟨0⟩),
  .deliver ⟨.issued 0, 1⟩ (.stateChanged .active),
  .move (.bind (.issued 0) ⟨1⟩),
  .move (.reportLate ⟨0⟩ (.stateChanged .active)),
  .move (.report ⟨1⟩ (.stateChanged .active))]

theorem reboundCall_undisturbed : ∃ after,
    run act lateEnd .rest 4 reboundCall { outside := [] } = some after ∧
      run pruned lateEnd .rest 4 reboundCall { outside := [] } = some after ∧
      (after.connection (.issued 0)).published.state = .active ∧
      (∃ bridge, (after.leg ⟨1⟩).attached = some bridge ∧ bridge.connection = .issued 0) ∧
      ¬ ∃ bridge, (after.leg ⟨0⟩).attached = some bridge ∧ bridge.connection = .issued 0 := by
  have whole : (run act lateEnd .rest 4 reboundCall { outside := [] }).any
      (fun after => (after.connection (.issued 0)).published.state == .active &&
        (after.connection (.issued 0)).leg == some ⟨1⟩) = true := by decide +kernel
  obtain ⟨after, runs, shows⟩ := (Option.any_eq_true _ _).mp whole
  simp only [Bool.and_eq_true, beq_iff_eq] at shows
  have own : ∀ gesture ∈ reboundCall, gesture.Own fun _ => .issued 0 := by
    simp [reboundCall, Own]
  have hearOwn (name : String) (id : ConnectionId) (event : ConnectionEvent) :
      (lateEnd name id event).Own fun _ => .issued 0 := by
    unfold lateEnd
    split
    · exact ⟨trivial, trivial⟩
    · trivial
  obtain ⟨same, ends⟩ :=
    @stale_inert _ _ .rest 4 _ { outside := [] } rfl rfl rfl own hearOwn trivial
  obtain ⟨attached, -⟩ := ends after runs
  refine ⟨after, runs, same.trans runs, shows.1, (attached _ _).mpr shows.2, fun bridged => ?_⟩
  have held := (attached _ _).mp bridged
  rw [shows.2] at held
  cases held

end Gesture
end Switchboard
