import Switchboard.Proofs.TaskClients
import Switchboard.Proofs.Laws

/-! Plans of connections that are up. Listeners may end calls while they are told of something. A
connection for which there is a plan is in the books all the same, it exists, and the exchange
listens to it: when it is destroyed, at any depth of listening, the exchange is told and drops the
plan. -/

namespace Switchboard

namespace Connection

def holdings (call : Connection) : Direction × Option LegId × Bool × List Listener :=
  (call.direction, call.leg, call.destroyed, call.listeners)

theorem commit_holdings (call : Connection) : call.commit.2.holdings = call.holdings := by
  unfold commit
  split <;> rfl

end Connection

namespace System

def Filed (system : System Chronicle) (id : ConnectionId) : Prop :=
  (system.planOf? id).isSome = true → system.isRegistered id = true

def PlanValid (system : System Chronicle) (id : ConnectionId) : Prop :=
  (system.planOf? id).isSome = true → system.isRegistered id = true ∧
    (system.connection id).destroyed = false ∧ .exchange ∈ (system.connection id).listeners

theorem PlanValid.filed {system : System Chronicle} {id : ConnectionId}
    (planValid : system.PlanValid id) :
    system.Filed id :=
  fun planned => (planValid planned).1

/-- At most, legs are let go of, connections are destroyed and plans are dropped, and plans stay
valid, except perhaps for one connection. -/
structure OnlyDrops (except : Option ConnectionId) (before after : System Chronicle) : Prop where
  count : after.connections.length = before.connections.length
  works : after.works = before.works
  outside : after.outside = before.outside
  direction (id : ConnectionId) :
    (after.connection id).direction = (before.connection id).direction
  leg (id : ConnectionId) : (after.connection id).leg = (before.connection id).leg ∨
    (after.connection id).leg = none
  gone (id : ConnectionId) : (before.connection id).destroyed = true →
    (after.connection id).destroyed = true
  distinct (id : ConnectionId) : (before.connection id).listeners.Nodup →
    (after.connection id).listeners.Nodup
  plan (id : ConnectionId) : (after.planOf? id).isSome = true → (before.planOf? id).isSome = true
  filed (id : ConnectionId) : before.Filed id → after.Filed id
  planValid (id : ConnectionId) : some id ≠ except → before.PlanValid id → after.PlanValid id

namespace OnlyDrops

variable {except : Option ConnectionId} {before middle after : System Chronicle}

theorem refl (except : Option ConnectionId) (system : System Chronicle) :
    OnlyDrops except system system where
  count := rfl
  works := rfl
  outside := rfl
  direction _ := rfl
  leg _ := .inl rfl
  gone _ gone := gone
  distinct _ distinct := distinct
  plan _ planned := planned
  filed _ filed := filed
  planValid _ _ planValid := planValid

theorem trans (first : OnlyDrops except before middle) (second : OnlyDrops except middle after) :
    OnlyDrops except before after where
  count := second.count.trans first.count
  works := second.works.trans first.works
  outside := second.outside.trans first.outside
  direction id := (second.direction id).trans (first.direction id)
  leg id := by
    rcases second.leg id with same | none
    · rw [same]
      exact first.leg id
    · exact .inr none
  gone id gone := second.gone id (first.gone id gone)
  distinct id distinct := second.distinct id (first.distinct id distinct)
  plan id planned := first.plan id (second.plan id planned)
  filed id filed := second.filed id (first.filed id filed)
  planValid id other planValid := second.planValid id other (first.planValid id other planValid)

theorem weaken (onlyDrops : OnlyDrops none before after) (except : Option ConnectionId) :
    OnlyDrops except before after :=
  { onlyDrops with planValid := fun id _ => onlyDrops.planValid id nofun }

theorem complete {id : ConnectionId} (onlyDrops : OnlyDrops (some id) before after)
    (planValid : before.PlanValid id → after.PlanValid id) : OnlyDrops none before after :=
  { onlyDrops with
    planValid := fun other _ holds => by
      by_cases same : other = id
      · subst same
        exact planValid holds
      · exact onlyDrops.planValid other (fun wrong => same (Option.some.inj wrong)) holds }

theorem of_connections (connections : after.connections = before.connections)
    (works : after.works = before.works) (outside : after.outside = before.outside)
    (plan : ∀ id, (after.planOf? id).isSome = true →
      (before.planOf? id).isSome = true ∧
        (before.isRegistered id = true → after.isRegistered id = true)) :
    OnlyDrops except before after := by
  have same (id : ConnectionId) : after.connection id = before.connection id :=
    connection_congr connections id
  exact {
    count := congrArg List.length connections
    works := works
    outside := outside
    direction := fun id => by rw [same]
    leg := fun id => .inl (by rw [same])
    gone := fun id gone => by rw [same, gone]
    distinct := fun id distinct => by rw [same]; exact distinct
    plan := fun id planned => (plan id planned).1
    filed := fun id filed planned => (plan id planned).2 (filed (plan id planned).1)
    planValid := fun id _ planValid planned => by
      obtain ⟨listed, alive, heard⟩ := planValid (plan id planned).1
      rw [same]
      exact ⟨(plan id planned).2 listed, alive, heard⟩ }

theorem aside (aside : before.Aside after) : OnlyDrops except before after :=
  of_connections aside.connections aside.works aside.outside fun id planned => by
    rw [planOf?, aside.plans] at planned
    exact ⟨planned, fun listed => by rw [isRegistered, aside.listed]; exact listed⟩

theorem struck (system : System Chronicle) (id : ConnectionId) :
    OnlyDrops except system (system.struck id) := by
  refine of_connections rfl rfl rfl fun other planned => ?_
  simp only [planOf?, System.struck, Ripple.lookup_filter_ne] at planned
  split at planned
  · cases planned
  · rename_i differ
    exact ⟨planned, fun listed => by simp_all [isRegistered, System.struck]⟩

theorem reviseLeg (system : System Chronicle) (leg : LegId) (change : Leg → Leg) :
    OnlyDrops except system (system.reviseLeg leg change) :=
  of_connections rfl rfl rfl fun _ planned => ⟨planned, fun listed => listed⟩

theorem release (system : System Chronicle) (leg : Option LegId) :
    OnlyDrops except system (system.release leg) := by
  cases leg with
  | none => exact refl except system
  | some leg => exact reviseLeg system leg _

theorem revise (system : System Chronicle) (id : ConnectionId) {change : Connection → Connection}
    (direction : (change (system.connection id)).direction = (system.connection id).direction)
    (leg : (change (system.connection id)).leg = (system.connection id).leg ∨
      (change (system.connection id)).leg = none)
    (gone : (system.connection id).destroyed = true →
      (change (system.connection id)).destroyed = true)
    (distinct : (system.connection id).listeners.Nodup →
      (change (system.connection id)).listeners.Nodup)
    (planValid : some id ≠ except → (system.planOf? id).isSome = true →
      (system.connection id).destroyed = false → .exchange ∈ (system.connection id).listeners →
        (change (system.connection id)).destroyed = false ∧
          .exchange ∈ (change (system.connection id)).listeners) :
    OnlyDrops except system (system.reviseConnection id change) where
  count := by simp
  works := by simp [System.works]
  outside := by simp
  direction := system.each_revise id (fun other call =>
    call.direction = (system.connection other).direction) direction fun _ => rfl
  leg := system.each_revise id (fun other call => call.leg = (system.connection other).leg ∨
    call.leg = none) leg fun _ => .inl rfl
  gone := system.each_revise id (fun other call => (system.connection other).destroyed = true →
    call.destroyed = true) gone fun _ gone => gone
  distinct := system.each_revise id (fun other call => (system.connection other).listeners.Nodup →
    call.listeners.Nodup) distinct fun _ distinct => distinct
  plan := fun other => by simp
  filed := fun other => by simp [Filed]
  planValid := fun other allowed holds => by
    rw [PlanValid, planOf?_reviseConnection, isRegistered_reviseConnection]
    refine fun planned => ⟨(holds planned).1, ?_⟩
    exact system.each_revise id (fun other call => some other ≠ except →
      (system.planOf? other).isSome = true → (system.connection other).destroyed = false →
        .exchange ∈ (system.connection other).listeners →
          call.destroyed = false ∧ .exchange ∈ call.listeners) planValid
      (fun _ _ _ alive heard => ⟨alive, heard⟩) other allowed planned
      (holds planned).2.1 (holds planned).2.2

theorem revise_same (system : System Chronicle) (id : ConnectionId)
    {change : Connection → Connection}
    (same : (change (system.connection id)).holdings = (system.connection id).holdings) :
    OnlyDrops except system (system.reviseConnection id change) := by
  simp only [Connection.holdings, Prod.mk.injEq] at same
  obtain ⟨direction, leg, destroyed, listeners⟩ := same
  refine revise system id direction (.inl leg) (fun gone => destroyed.trans gone) ?_ ?_
  · rw [listeners]
    exact fun distinct => distinct
  · rw [destroyed, listeners]
    exact fun _ _ alive heard => ⟨alive, heard⟩

end OnlyDrops
end System

def planValidity : Law Chronicle where
  holds _ := True
  leads := System.OnlyDrops none
  refl := .refl none
  trans := .trans

structure Wiring.KeepsPlans (wiring : Wiring Chronicle) : Prop
    extends wiring.Obeys planValidity (·.isPlain = true) where
  forgets {listeners : List Listener} {id : ConnectionId} {system : System Chronicle} :
    .exchange ∈ listeners → system.Filed id →
      (Act.tell listeners id .destroyed).Ensures wiring system fun _ after =>
        (after.planOf? id).isSome ≠ true

namespace Act

variable {wiring : Wiring Chronicle}

theorem planValid_modify {change : System Chronicle → System Chronicle}
    (onlyDrops : ∀ system, System.OnlyDrops none system (change system)) :
    Obeys (modify change) planValidity wiring :=
  .modify fun system _ => ⟨trivial, onlyDrops system⟩

theorem planValid_revise (id : ConnectionId) (change : Connection → Connection)
    (same : ∀ call, (change call).holdings = call.holdings) :
    (revise id change).Obeys planValidity wiring :=
  planValid_modify fun system => .revise_same system id (same _)

theorem planValid_unbind (id : ConnectionId) : (unbind id).Obeys planValidity wiring := by
  intro system _
  rw [ensures_unbind]
  have revised : System.OnlyDrops none system (system.reviseConnection id Connection.unbound) :=
    .revise system id rfl (.inr rfl) (fun gone => gone) (fun distinct => distinct)
      fun _ _ alive heard => ⟨alive, heard⟩
  exact ⟨trivial, revised.trans (.release _ _)⟩

section
variable (keepsPlans : wiring.KeepsPlans)
include keepsPlans

theorem planValid_notify (id : ConnectionId) {event : ConnectionEvent}
    (plain : event.isPlain = true) :
    (notify id event).Obeys planValidity wiring :=
  .bind (.look id) fun call => keepsPlans.tell call.listeners id plain

theorem planValid_destroy (id : ConnectionId) : (destroy id).Obeys planValidity wiring := by
  intro system _
  rw [destroy, ensures_bind, ensures_look]
  split
  · rw [ensures_pure]
    exact ⟨trivial, .refl none system⟩
  let dead := system.reviseConnection id ({ · with destroyed := true })
  have dying : System.OnlyDrops (some id) system dead :=
    .revise system id rfl (.inl rfl) (fun _ => rfl) (fun distinct => distinct)
      fun differ => absurd rfl differ
  have listeners : (dead.connection id).listeners = (system.connection id).listeners := by
    rw [System.connection_reviseConnection]
    split <;> rfl
  rw [ensures_bind, ensures_revise, ensures_bind, ensures_notify]
  have told : (tell (dead.connection id).listeners id .destroyed).Ensures wiring dead
      fun _ after => System.OnlyDrops none dead after ∧
        (system.PlanValid id → (after.planOf? id).isSome ≠ true) := by
    intro value after run
    have onlyDrops := (keepsPlans.tell _ id rfl dead trivial value after run).2
    refine ⟨onlyDrops, fun planValid planned => ?_⟩
    have before := dying.plan id (onlyDrops.plan id planned)
    have heard : .exchange ∈ (dead.connection id).listeners := by
      rw [listeners]
      exact (planValid before).2.2
    exact keepsPlans.forgets heard (dying.filed id planValid.filed) value after run planned
  refine told.mono ?_
  rintro _ after ⟨onlyDrops, forgotten⟩
  rw [ensures_revise]
  have last : System.OnlyDrops (some id) after
      (after.reviseConnection id ({ · with listeners := [] })) :=
    .revise after id rfl (.inl rfl) (fun gone => gone) (fun _ => List.nodup_nil)
      fun differ => absurd rfl differ
  have whole := (dying.trans (onlyDrops.weaken _)).trans last
  refine ⟨trivial, whole.complete fun planValid planned => ?_⟩
  rw [System.planOf?_reviseConnection] at planned
  exact absurd planned (forgotten planValid)

theorem planValid_publishes (id : ConnectionId) : (planValidity.trait wiring).Publishes id where
  rounds := .rounds
  clerical clerical := planValid_revise id _ fun call => by rw [clerical call]; rfl
  signal := planValid_modify fun system =>
    .of_connections rfl (by simp [System.works]) rfl fun _ planned =>
      ⟨planned, fun listed => listed⟩
  commit := Obeys.commit fun system _ =>
    ⟨trivial, .revise_same system id (Connection.commit_holdings _)⟩
  notify := planValid_notify keepsPlans id
  letGo := .bind (planValid_unbind id) fun _ => planValid_destroy keepsPlans id

theorem planValid_change (id : ConnectionId) (change : Connection → Connection)
    (same : ∀ call, (change call).holdings = call.holdings) :
    Obeys (do revise id change; update id) planValidity wiring :=
  (planValid_publishes keepsPlans id).change (planValid_revise id change same)

theorem planValid_setDisconnected (id : ConnectionId) (info : DisconnectInfo) :
    (setDisconnected id info).Obeys planValidity wiring :=
  (planValid_publishes keepsPlans id).setDisconnected (planValid_revise id _ fun _ => rfl)

theorem planValid_close (id : ConnectionId) : (close id).Obeys planValidity wiring :=
  (planValid_publishes keepsPlans id).close (planValid_setDisconnected keepsPlans id _)

theorem bears_planValidity : planValidity.Bears wiring where
  aside aside _ := ⟨trivial, .aside aside⟩
  setHoldAllowed id _ :=
    (planValid_publishes keepsPlans id).setHoldAllowed (planValid_revise id _ fun _ => rfl)
  setConference id := (planValid_publishes keepsPlans id).setConference

end
end Act
end Switchboard
