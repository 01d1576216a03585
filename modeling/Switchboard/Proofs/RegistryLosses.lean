import Switchboard.Proofs.Laws
import Switchboard.Proofs.Office

/-! Connections struck from the registries. Calls may end at any depth of listening, and a
connection that is destroyed is struck from the books with its plan, its roles and its sequences,
and that is announced once. Whatever the exchange does besides taking calls in, starting sequences
and binding legs comes to nothing more than that (`System.DropsCleanly`), at every depth of
listening (`Wiring.dropsCleanly_level`). -/

namespace Switchboard

theorem EmergencyRoles.holder_release (roles : EmergencyRoles) (id : ConnectionId)
    (role : EmergencyRole) :
    (roles.release id).2.holder role = (roles.holder role).filter (· != id) := by
  have cleared (held : List EmergencyRole) (roles : EmergencyRoles) :
      (held.foldl (fun roles role => roles.setHolder role none) roles).holder role =
        if role ∈ held then none else roles.holder role := by
    induction held generalizing roles with
    | nil => rfl
    | cons other rest ih =>
      rw [List.foldl_cons, ih, holder_setHolder]
      by_cases same : role = other <;> simp [same]
  rw [release, cleared]
  have all : role ∈ (Named.all : List EmergencyRole) := by cases role <;> decide
  cases held : roles.holder role with
  | none => simp
  | some owner =>
    by_cases same : owner = id <;> simp [rolesOf, held, same, all, Option.filter]

def Notice.connection? : Notice → Option ConnectionId
  | connectionAdded id | connectionRemoved id => some id
  | conferenceCreated _ | conferenceRemoved _ => none

namespace System

variable {bound : ConnectionId → Prop} {before middle after system : System Chronicle}
  {id : ConnectionId}

/-- What has been announced of a call, newest first. -/
def noticesOf (system : System Chronicle) (id : ConnectionId) : List Notice :=
  system.notices.filter (·.connection? == some id)

def calls (system : System Chronicle) : List Call :=
  system.journal.filterMap fun entry =>
    match entry with
    | .called call => some call
    | _ => none

def Winds (before after : System Chronicle) : Prop :=
  after.registry.session = before.registry.session ∧ after.calls = before.calls ∨
    before.registry.session.active.isSome = true ∧ after.registry.session.active = none ∧
      after.calls = .finishSelection :: before.calls

theorem Winds.trans (first : before.Winds middle) (second : middle.Winds after) :
    before.Winds after := by
  rcases first with ⟨session, calls⟩ | ⟨active, gone, calls⟩
  · rw [Winds, ← session, ← calls]
    exact second
  · rcases second with ⟨session, later⟩ | ⟨wrong, -⟩
    · exact .inr ⟨active, session ▸ gone, later.trans calls⟩
    · rw [gone] at wrong
      cases wrong

theorem Winds.active (winds : before.Winds after)
    (active : after.registry.session.active = some id) :
    before.registry.session.active = some id := by
  rcases winds with ⟨session, -⟩ | ⟨-, gone, -⟩
  · exact session ▸ active
  · rw [gone] at active
    cases active

theorem Winds.finishing (system : System Chronicle) (id : ConnectionId) :
    system.Winds (system.finishing id) := by
  rw [System.finishing, SelectionSession.finish]
  split
  · rename_i own
    exact .inr ⟨by rw [eq_of_beq own]; rfl, rfl, rfl⟩
  · exact .inl ⟨rfl, rfl⟩

def loses (before after : System Chronicle) (id : ConnectionId) : Bool :=
  before.isRegistered id && !after.isRegistered id

structure AddsNoEntry (bound : ConnectionId → Prop) (before after : System Chronicle) : Prop where
  count : after.connections.length = before.connections.length
  emergency (id : ConnectionId) :
    (after.connection id).emergency = (before.connection id).emergency
  bare {id : ConnectionId} : ¬ bound id →
    ((before.connection id).destroyed = true → (before.connection id).leg = none) →
    (after.connection id).destroyed = true → (after.connection id).leg = none
  device : after.device = before.device
  listed : after.registry.connections.Sublist before.registry.connections
  plans : after.registry.plans =
    before.registry.plans.filter fun entry => !before.loses after entry.1
  roles (role : EmergencyRole) : after.registry.roles.holder role =
    (before.registry.roles.holder role).filter fun id => !before.loses after id
  retry {retry : RetryQueue} : after.registry.retry = some retry →
    before.registry.retry = some retry ∧ before.loses after retry.owner = false
  session {id : ConnectionId} : after.registry.session.active = some id →
    before.registry.session.active = some id ∧
      (before.device.hasSelector = true → before.loses after id = false)
  winds : before.Winds after

/-- Who is struck from the books leaves nothing behind, and that is announced. -/
structure DropsCleanly (bound : ConnectionId → Prop) (before after : System Chronicle) :
    Prop extends
    before.AddsNoEntry bound after where
  notices (id : ConnectionId) : after.noticesOf id =
    (if before.loses after id then [.connectionRemoved id] else []) ++ before.noticesOf id

theorem loses_congr (listed : after.registry.connections = before.registry.connections)
    (id : ConnectionId) : before.loses after id = false := by
  simp [loses, isRegistered, listed]

namespace AddsNoEntry

theorem registered (addsNoEntry : before.AddsNoEntry bound after)
    (listed : after.isRegistered id = true) :
    before.isRegistered id = true :=
  List.contains_iff_mem.mpr (addsNoEntry.listed.subset (List.contains_iff_mem.mp listed))

theorem loses_eq (first : before.AddsNoEntry bound middle) (second : middle.AddsNoEntry bound after)
    (id : ConnectionId) :
    before.loses after id = (before.loses middle id || middle.loses after id) ∧
      ¬ (before.loses middle id = true ∧ middle.loses after id = true) := by
  have one : middle.isRegistered id = true → before.isRegistered id = true := first.registered
  have two : after.isRegistered id = true → middle.isRegistered id = true := second.registered
  unfold loses
  revert one two
  generalize before.isRegistered id = here
  generalize middle.isRegistered id = between
  generalize after.isRegistered id = there
  revert here between there
  decide

theorem of_kept (count : after.connections.length = before.connections.length)
    (emergency : ∀ id, (after.connection id).emergency = (before.connection id).emergency)
    (bare : ∀ id, ¬ bound id →
      ((before.connection id).destroyed = true → (before.connection id).leg = none) →
      (after.connection id).destroyed = true → (after.connection id).leg = none)
    (device : after.device = before.device)
    (listed : after.registry.connections = before.registry.connections)
    (plans : after.registry.plans = before.registry.plans)
    (roles : after.registry.roles = before.registry.roles)
    (retry : ∀ queue, after.registry.retry = some queue → before.registry.retry = some queue)
    (winds : before.Winds after) : before.AddsNoEntry bound after where
  count := count
  emergency := emergency
  bare := bare _
  device := device
  listed := listed ▸ .refl _
  plans := by
    rw [plans, List.filter_eq_self.mpr fun entry _ => by rw [loses_congr listed]; rfl]
  roles role := by
    rw [roles]
    cases held : before.registry.roles.holder role with
    | none => rfl
    | some owner => rw [Option.filter_some, loses_congr listed, Bool.not_false, if_pos rfl]
  retry held := ⟨retry _ held, loses_congr listed _⟩
  session held := ⟨winds.active held, fun _ => loses_congr listed _⟩
  winds := winds

theorem trans (first : before.AddsNoEntry bound middle) (second : middle.AddsNoEntry bound after) :
    before.AddsNoEntry bound after := by
  have lost (id : ConnectionId) := (first.loses_eq second id).1
  exact {
    count := second.count.trans first.count
    emergency := fun id => (second.emergency id).trans (first.emergency id)
    bare := fun free bare => second.bare free (first.bare free bare)
    device := second.device.trans first.device
    listed := second.listed.trans first.listed
    plans := by
      rw [second.plans, first.plans, List.filter_filter]
      exact List.filter_congr fun entry _ => by rw [lost, Bool.not_or, Bool.and_comm]
    roles := fun role => by
      rw [second.roles, first.roles, Option.filter_filter]
      congr 1
      funext id
      rw [lost, Bool.not_or]
    retry := fun held => by
      obtain ⟨held, later⟩ := second.retry held
      obtain ⟨held, sooner⟩ := first.retry held
      exact ⟨held, by rw [lost, sooner, later]; rfl⟩
    session := fun held => by
      obtain ⟨held, later⟩ := second.session held
      obtain ⟨held, sooner⟩ := first.session held
      refine ⟨held, fun selects => ?_⟩
      rw [lost, sooner selects, later (first.device ▸ selects)]
      rfl
    winds := first.winds.trans second.winds }

theorem aside (connections : after.connections = before.connections)
    (device : after.device = before.device) (registry : after.registry = before.registry)
    (calls : after.calls = before.calls) : before.AddsNoEntry bound after := by
  have same (id : ConnectionId) : after.connection id = before.connection id :=
    connection_congr connections id
  refine of_kept (congrArg List.length connections) (fun id => by rw [same])
    (fun id _ bare => by rw [same]; exact bare) device ?_ ?_ ?_ (fun _ held => ?_)
    (.inl ⟨?_, calls⟩)
  all_goals rw [registry] at *
  exact held

theorem refl (bound : ConnectionId → Prop) (system : System Chronicle) :
    system.AddsNoEntry bound system :=
  aside rfl rfl rfl rfl

theorem revise (system : System Chronicle) (id : ConnectionId) {change : Connection → Connection}
    (emergency : (change (system.connection id)).emergency = (system.connection id).emergency)
    (bare : bound id ∨
      (((system.connection id).destroyed = true → (system.connection id).leg = none) →
        (change (system.connection id)).destroyed = true →
          (change (system.connection id)).leg = none)) :
    system.AddsNoEntry bound (system.reviseConnection id change) := by
  refine of_kept (by simp) (fun other => ?_) (fun other free kept => ?_) (by simp) (by simp)
    (by simp) (by simp) (by simp) (by cases id <;> exact .inl ⟨rfl, rfl⟩)
  · exact system.read_reviseConnection (·.emergency) emergency other
  · rw [connection_reviseConnection]
    split
    · rename_i here
      rw [here.1] at free kept
      exact bare.resolve_left free kept
    · exact kept

theorem drops (system : System Chronicle) (retry : Option RetryQueue)
    (shorter : ∀ queue, retry = some queue → system.registry.retry = some queue) :
    system.AddsNoEntry bound { system with registry := { system.registry with retry } } :=
  of_kept rfl (fun id => by cases id <;> rfl) (fun id _ bare => by cases id <;> exact bare) rfl rfl
    rfl rfl shorter (.inl ⟨rfl, rfl⟩)

theorem finishing (system : System Chronicle) (id : ConnectionId) :
    system.AddsNoEntry bound (system.finishing id) :=
  of_kept rfl (fun id => by cases id <;> rfl) (fun id _ bare => by cases id <;> exact bare) rfl rfl
    rfl rfl (fun _ held => held) (.finishing system id)

end AddsNoEntry

def forgotten (system : System Chronicle) (id : ConnectionId) : System Chronicle :=
  let struck := system.struck id
  let dropped := { struck with registry := { struck.registry with
    retry := struck.registry.retry.filter fun retry => !retry.isFor true id } }
  if system.device.hasSelector then dropped.finishing id else dropped

theorem read_forgotten (system : System Chronicle) (id : ConnectionId) {α : Type}
    (read : System Chronicle → α)
    (blind : ∀ now : System Chronicle, read (now.finishing id) = read now) :
    read (system.forgotten id) = read { system.struck id with
      registry := { (system.struck id).registry with
        retry := system.registry.retry.filter fun retry => !retry.isFor true id } } := by
  unfold forgotten
  dsimp only
  split
  · exact blind _
  · rfl

theorem forgotten_listed (system : System Chronicle) (id : ConnectionId) :
    (system.forgotten id).registry.connections =
      system.registry.connections.filter (· != id) :=
  system.read_forgotten id (·.registry.connections) fun _ => rfl

theorem loses_forgotten (registered : system.isRegistered id = true) (other : ConnectionId) :
    system.loses (system.forgotten id) other = decide (other = id) := by
  by_cases same : other = id
  · simp [loses, isRegistered, forgotten_listed, same, List.contains_iff_mem.mp registered]
  · simp [loses, isRegistered, forgotten_listed, same]

theorem AddsNoEntry.forgotten (registered : system.isRegistered id = true) :
    system.AddsNoEntry bound (system.forgotten id) := by
  have lost := loses_forgotten registered
  have same : (system.forgotten id).connections = system.connections :=
    system.read_forgotten id (·.connections) fun _ => rfl
  have calls (other : ConnectionId) :
      (system.forgotten id).connection other = system.connection other :=
    connection_congr same other
  have plans : (system.forgotten id).registry.plans = system.registry.plans.filter (·.1 != id) :=
    system.read_forgotten id (·.registry.plans) fun _ => rfl
  have roles : (system.forgotten id).registry.roles = (system.registry.roles.release id).2 :=
    system.read_forgotten id (·.registry.roles) fun _ => rfl
  have retry : (system.forgotten id).registry.retry =
      system.registry.retry.filter fun retry => !retry.isFor true id :=
    system.read_forgotten id (·.registry.retry) fun _ => rfl
  exact {
    count := by rw [same]
    emergency := fun other => by rw [calls]
    bare := fun _ bare => by rw [calls]; exact bare
    device := system.read_forgotten id (·.device) fun _ => rfl
    listed := by
      rw [forgotten_listed]
      exact List.filter_sublist
    plans := by
      rw [plans]
      refine List.filter_congr fun entry _ => ?_
      rw [lost]
      rfl
    roles := fun role => by
      rw [roles, EmergencyRoles.holder_release]
      congr 1
      funext other
      rw [lost]
      rfl
    retry := fun {queue} held => by
      rw [retry, Option.filter_eq_some_iff] at held
      rw [lost]
      simpa [RetryQueue.isFor] using held
    session := fun {other} held => by
      rw [lost]
      unfold System.forgotten at held
      split at held
      · rename_i selects
        have finished := SelectionSession.not_isActiveFor_finish system.registry.session id
        have held : (system.registry.session.finish id).2.active = some other := held
        have addsNoEntry : system.AddsNoEntry bound (system.finishing id) := .finishing system id
        refine ⟨(addsNoEntry.session held).1, fun _ => ?_⟩
        refine decide_eq_false fun wrong => ?_
        rw [SelectionSession.isActiveFor, held, wrong] at finished
        simp at finished
      · rename_i none
        exact ⟨held, fun selects => absurd selects none⟩
    winds := by
      unfold System.forgotten
      split
      · exact .finishing _ id
      · exact .inl ⟨rfl, rfl⟩ }

namespace DropsCleanly

theorem of_addsNoEntry (addsNoEntry : before.AddsNoEntry bound after)
    (told : ∀ id, after.noticesOf id = before.noticesOf id)
    (kept : after.registry.connections = before.registry.connections) :
      before.DropsCleanly bound after where
  toAddsNoEntry := addsNoEntry
  notices id := by
    rw [loses_congr kept]
    exact told id

theorem refl (bound : ConnectionId → Prop) (system : System Chronicle) :
    system.DropsCleanly bound system :=
  .of_addsNoEntry (.refl bound system) (fun _ => rfl) rfl

theorem trans (first : before.DropsCleanly bound middle)
    (second : middle.DropsCleanly bound after) :
    before.DropsCleanly bound after where
  toAddsNoEntry := first.toAddsNoEntry.trans second.toAddsNoEntry
  notices id := by
    obtain ⟨lost, once⟩ := first.toAddsNoEntry.loses_eq second.toAddsNoEntry id
    rw [second.notices, first.notices, lost]
    cases sooner : before.loses middle id <;> cases later : middle.loses after id
    · rfl
    · rfl
    · rfl
    · exact absurd ⟨sooner, later⟩ once

theorem aside (connections : after.connections = before.connections)
    (device : after.device = before.device) (registry : after.registry = before.registry)
    (notices : after.notices = before.notices) (calls : after.calls = before.calls) :
    before.DropsCleanly bound after :=
  .of_addsNoEntry (.aside connections device registry calls)
    (fun id => by rw [noticesOf, noticesOf, notices])
    (congrArg Registry.connections registry)

theorem announced (system : System Chronicle) {notice : Notice}
    (apart : notice.connection? = none) :
    system.DropsCleanly bound { system with notices := notice :: system.notices } :=
  .of_addsNoEntry (.aside rfl rfl rfl rfl) (fun id => by simp [noticesOf, apart]) rfl

theorem revise (system : System Chronicle) (id : ConnectionId) {change : Connection → Connection}
    (emergency : (change (system.connection id)).emergency = (system.connection id).emergency)
    (bare : bound id ∨
      (((system.connection id).destroyed = true → (system.connection id).leg = none) →
        (change (system.connection id)).destroyed = true →
          (change (system.connection id)).leg = none)) :
    system.DropsCleanly bound (system.reviseConnection id change) :=
  .of_addsNoEntry (.revise system id emergency bare) (fun _ => by cases id <;> rfl) (by simp)

theorem release (system : System Chronicle) (leg : Option LegId) :
    system.DropsCleanly bound (system.release leg) := by
  cases leg with
  | none => exact refl bound system
  | some leg => exact aside rfl rfl rfl rfl rfl

theorem finishing (system : System Chronicle) (id : ConnectionId) :
    system.DropsCleanly bound (system.finishing id) :=
  .of_addsNoEntry (.finishing system id) (fun _ => rfl) rfl

theorem forgets (registered : system.isRegistered id = true)
    (rest : (system.forgotten id).DropsCleanly bound after) :
    system.DropsCleanly bound { after with notices := .connectionRemoved id :: after.notices } := by
  have addsNoEntry : (system.forgotten id).AddsNoEntry bound
      { after with notices := .connectionRemoved id :: after.notices } :=
    rest.toAddsNoEntry.trans (.aside rfl rfl rfl rfl)
  refine ⟨(AddsNoEntry.forgotten registered).trans addsNoEntry, fun other => ?_⟩
  have quiet : (system.forgotten id).noticesOf other = system.noticesOf other :=
    system.read_forgotten id (·.noticesOf other) fun _ => rfl
  have told : noticesOf { after with notices := .connectionRemoved id :: after.notices } other =
      (if other = id then [.connectionRemoved id] else []) ++ after.noticesOf other := by
    by_cases same : other = id
    · simp [noticesOf, Notice.connection?, same]
    · simp [noticesOf, Notice.connection?, same, Ne.symm same]
  obtain ⟨lost, once⟩ := (AddsNoEntry.forgotten registered).loses_eq rest.toAddsNoEntry other
  rw [loses_forgotten registered] at lost once
  have whole : system.loses { after with notices := .connectionRemoved id :: after.notices } other =
      (decide (other = id) || (system.forgotten id).loses after other) := lost
  rw [whole, told, rest.notices, quiet]
  by_cases same : other = id
  · have kept : (system.forgotten id).loses after other = false := by simpa [same] using once
    rw [kept]
    simp [same]
  · simp [same]

end DropsCleanly
end System

def droppingCleanly (bound : ConnectionId → Prop) : Law Chronicle where
  holds _ := True
  leads := System.DropsCleanly bound
  refl := .refl bound
  trans := .trans

def Connection.retained (call : Connection) : Bool × Option LegId × Bool :=
  (call.emergency, call.leg, call.destroyed)

theorem Connection.commit_retained (call : Connection) :
    call.commit.2.retained = call.retained := by
  unfold commit
  split <;> rfl

namespace Act

variable {bound : ConnectionId → Prop} {wiring : Wiring Chronicle} {system : System Chronicle}

theorem dropsCleanly_modify {change : System Chronicle → System Chronicle}
    (dropsCleanly : ∀ system, System.DropsCleanly bound system (change system)) :
    Obeys (modify change) (droppingCleanly bound) wiring :=
  .modify fun system _ => ⟨trivial, dropsCleanly system⟩

theorem dropsCleanly_hear (listener : Listener) (id : ConnectionId) (event : ConnectionEvent) :
    (write (.heard listener id event)).Obeys (droppingCleanly bound) wiring :=
  dropsCleanly_modify fun _ => .aside rfl rfl rfl rfl rfl

theorem dropsCleanly_signal (news : Signal) : (signal news).Obeys (droppingCleanly bound) wiring :=
  dropsCleanly_modify fun _ => .aside rfl rfl rfl rfl rfl

theorem dropsCleanly_reviseLeg (leg : LegId) (change : Leg → Leg) :
    Obeys (modify (·.reviseLeg leg change)) (droppingCleanly bound) wiring :=
  dropsCleanly_modify fun _ => .aside rfl rfl rfl rfl rfl

theorem dropsCleanly_same (id : ConnectionId) {change : Connection → Connection}
    (same : (change (system.connection id)).retained = (system.connection id).retained) :
    system.DropsCleanly bound (system.reviseConnection id change) := by
  simp only [Connection.retained, Prod.mk.injEq] at same
  obtain ⟨emergency, leg, destroyed⟩ := same
  refine .revise system id emergency (.inr ?_)
  rw [leg, destroyed]
  exact fun bare => bare

theorem dropsCleanly_revise (id : ConnectionId) (change : Connection → Connection)
    (same : ∀ call, (change call).retained = call.retained) :
    (revise id change).Obeys (droppingCleanly bound) wiring :=
  dropsCleanly_modify fun _ => dropsCleanly_same id (same _)

theorem dropsCleanly_unbind (id : ConnectionId) :
    (unbind id).Obeys (droppingCleanly bound) wiring := by
  intro system _
  rw [ensures_unbind]
  have revised : system.DropsCleanly bound (system.reviseConnection id fun call =>
      { call with generation := call.generation + 1, leg := none }) :=
    .revise system id rfl (.inr fun _ _ => rfl)
  exact ⟨trivial, revised.trans (.release _ _)⟩

theorem dropsCleanly_dropRetry (id : ConnectionId) :
    (dropRetry id).Obeys (droppingCleanly bound) wiring := by
  refine dropsCleanly_modify fun system => ?_
  refine .of_addsNoEntry (.drops system _ fun queue held => ?_) (fun _ => rfl) rfl
  exact (Option.filter_eq_some_iff.mp held).1

theorem dropsCleanly_finishSelection (id : ConnectionId) :
    (finishSelection id).Obeys (droppingCleanly bound) wiring :=
  fun system _ => (ensures_finishSelection id _).mpr ⟨trivial, .finishing system id⟩

theorem ensures_strike (id : ConnectionId) (goal : Unit → System Chronicle → Prop) :
    (modify (fun system : System Chronicle => system.struck id) >>= fun _ =>
        dismiss id).Ensures wiring system goal ↔
      (do
        untrack (.connection id)
        recalculate
        announce (.connectionRemoved id)).Ensures wiring (system.forgotten id) goal := by
  rw [System.forgotten, ensures_bind, ensures_modify, dismiss, dropRetry, ensures_bind,
    ensures_reviseRegistry, ensures_bind, ensures_get]
  by_cases selects : system.device.hasSelector = true
  · rw [if_pos selects]
    split
    · rw [ensures_bind, ensures_finishSelection]
    · rename_i none
      exact absurd selects none
  · rw [if_neg selects]
    split
    · rename_i wrong
      exact absurd wrong selects
    · exact Iff.rfl

section
variable (keepsPlans : wiring.Obeys (droppingCleanly bound) fun _ => True)
include keepsPlans

theorem dropsCleanly_notify (id : ConnectionId) (event : ConnectionEvent) :
    (notify id event).Obeys (droppingCleanly bound) wiring :=
  .bind (.look id) fun call => keepsPlans.tell call.listeners id trivial

theorem dropsCleanly_letGo (id : ConnectionId) :
    Obeys (do unbind id; destroy id) (droppingCleanly bound) wiring := by
  intro system _
  rw [ensures_bind, ensures_unbind]
  have freed := (@dropsCleanly_unbind bound wiring id system trivial)
  rw [ensures_unbind] at freed
  generalize bareness : System.release _ _ = now at freed ⊢
  have bare : (now.connection id).leg = none := by
    rw [← bareness]
    exact system.leg_unbound id
  rw [destroy, ensures_bind, ensures_look]
  split
  · exact (ensures_pure _ _).mpr freed
  have dying : now.DropsCleanly bound (now.reviseConnection id ({ · with destroyed := true })) :=
    .revise now id rfl (.inr fun _ _ => bare)
  rw [ensures_bind, ensures_revise]
  refine Obeys.thenEnsures (dropsCleanly_notify keepsPlans id .destroyed) trivial
    fun _ told _ more => ?_
  rw [ensures_revise]
  exact ⟨trivial, ((freed.2.trans dying).trans more).trans (dropsCleanly_same id rfl)⟩

theorem dropsCleanly_publishes (id : ConnectionId) :
    ((droppingCleanly bound).trait wiring).Publishes id where
  rounds := .rounds
  clerical clerical := dropsCleanly_revise id _ fun call => by rw [clerical call]; rfl
  signal := dropsCleanly_signal _
  commit :=
    Obeys.commit fun system _ => ⟨trivial, dropsCleanly_same id (Connection.commit_retained _)⟩
  notify _ := dropsCleanly_notify keepsPlans id _
  letGo := dropsCleanly_letGo keepsPlans id

theorem dropsCleanly_change (id : ConnectionId) (change : Connection → Connection)
    (same : ∀ call, (change call).retained = call.retained) :
    Obeys (do revise id change; update id) (droppingCleanly bound) wiring :=
  (dropsCleanly_publishes keepsPlans id).change (dropsCleanly_revise id change same)

theorem dropsCleanly_setDisconnected (id : ConnectionId) (info : DisconnectInfo) :
    (setDisconnected id info).Obeys (droppingCleanly bound) wiring :=
  (dropsCleanly_publishes keepsPlans id).setDisconnected (dropsCleanly_revise id _ fun _ => rfl)

theorem dropsCleanly_arranges : ((droppingCleanly bound).trait wiring).Arranges where
  regroup regroups := dropsCleanly_modify fun system => by
    rw [regroups system]
    exact .aside rfl rfl rfl rfl rfl
  created _ := dropsCleanly_modify fun system => .announced system rfl
  removed _ := dropsCleanly_modify fun system => .announced system rfl
  setHoldAllowed id _ :=
    (dropsCleanly_publishes keepsPlans id).setHoldAllowed (dropsCleanly_revise id _ fun _ => rfl)
  setConference id := (dropsCleanly_publishes keepsPlans id).setConference

theorem dropsCleanly_unregister (id : ConnectionId) :
    (unregister id).Obeys (droppingCleanly bound) wiring := by
  intro system _
  rw [unregister_eq, ensures_bind, ensures_get]
  split
  · rename_i registered
    have rest : Obeys (do
        untrack (.connection id)
        recalculate) (droppingCleanly bound) wiring :=
      .bind ((dropsCleanly_arranges keepsPlans).untrack _) fun _ =>
        (dropsCleanly_arranges keepsPlans).recalculate
    rw [ensures_strike, ← bind_assoc]
    refine Obeys.thenEnsures rest trivial fun _ after _ more => ?_
    rw [ensures_announce]
    exact ⟨trivial, .forgets registered more⟩
  · exact (ensures_pure _ _).mpr ⟨trivial, .refl bound system⟩

theorem dropsCleanly_follow (id : ConnectionId) (work : FollowUp) :
    (follow id work).Obeys (droppingCleanly bound) wiring := by
  refine .bind .get fun system => ?_
  split
  · exact dropsCleanly_signal _
  · exact dropsCleanly_setDisconnected keepsPlans id _

theorem dropsCleanly_attend (id : ConnectionId) (event : ConnectionEvent) :
    (attend id event).Obeys (droppingCleanly bound) wiring := by
  cases event with
  | stateChanged old new =>
    rw [attend]
    split
    · exact .bind (dropsCleanly_dropRetry id) fun _ =>
        (dropsCleanly_arranges keepsPlans).recalculate
    · exact (dropsCleanly_arranges keepsPlans).recalculate
  | propertiesChanged props => exact (dropsCleanly_arranges keepsPlans).recalculate
  | conferenceChanged conference => exact (dropsCleanly_arranges keepsPlans).passVerdicts
  | redialRequested phone permanent => exact dropsCleanly_follow keepsPlans id _
  | reselectionRequested cause code => exact dropsCleanly_follow keepsPlans id _
  | destroyed => exact dropsCleanly_unregister keepsPlans id
  | _ => exact .pure _

end
end Act

/-- However deep listeners call each other, calls are only struck from the books. -/
theorem Wiring.dropsCleanly_level (bound : ConnectionId → Prop) (rounds : Nat) :
    (level Bystanders.silent rounds).Obeys (droppingCleanly bound) fun _ => True := by
  induction rounds with
  | zero => exact obeys_zero
  | succ rounds ih =>
    have each (id : ConnectionId) (event : ConnectionEvent) (listener : Listener) :
        (Bystanders.silent.tellOne id event listener).Obeys (droppingCleanly bound)
          (level .silent rounds) := by
      refine .bind (Act.dropsCleanly_hear _ _ _) fun _ => ?_
      cases listener with
      | recorder => exact .pure _
      | exchange => exact Act.dropsCleanly_attend ih id event
      | observer name => exact .pure _
    have idle : Bystanders.silent.bridged.Obeys (droppingCleanly bound) (level .silent rounds) :=
      .pure _
    constructor
    · intro listeners id event _ system holds
      rw [Act.ensures_tell]
      have all := Act.Obeys.forM listeners fun listener _ => each id event listener
      exact all system holds ⟨⟩
    · intro system holds value after run
      exact idle system holds value after run

namespace Act

variable {bound : ConnectionId → Prop} {rounds : Nat}

theorem dropsCleanly_bind (id : ConnectionId) (leg : LegId) :
    (bind id leg).Obeys (droppingCleanly (· = id)) (.level .silent rounds) := by
  have keepsPlans := Wiring.dropsCleanly_level (· = id) rounds
  refine .bind .get fun system => .bind (.look id) fun call => ?_
  have tie : Obeys (do
      attach leg { connection := id, generation := call.generation + 1 }
      update id) (droppingCleanly (· = id)) (.level .silent rounds) := by
    refine .bind (.bind (dropsCleanly_reviseLeg leg _) fun _ => keepsPlans.bridged) fun _ => ?_
    exact (dropsCleanly_publishes keepsPlans id).update
  refine .bind (dropsCleanly_modify fun system => .revise system id rfl (.inl rfl)) fun _ => ?_
  dsimp only
  split
  · exact .bind (dropsCleanly_reviseLeg _ _) fun _ => tie
  · exact tie

theorem dropsCleanly_heeds (id : ConnectionId) :
    ((droppingCleanly bound).trait (.level .silent rounds)).Heeds id where
  scenic scenic := by
    refine dropsCleanly_change (Wiring.dropsCleanly_level bound rounds) id _ fun call => ?_
    rw [scenic call]
    rfl
  giveUp _ := .bind (dropsCleanly_revise id _ fun _ => rfl) fun _ =>
    .bind (dropsCleanly_unbind id) fun _ =>
    dropsCleanly_notify (Wiring.dropsCleanly_level bound rounds) id _
  disconnect := dropsCleanly_setDisconnected (Wiring.dropsCleanly_level bound rounds) id

theorem dropsCleanly_report (leg : LegId) (event : RadioEvent) :
    (report leg event).Obeys (droppingCleanly bound) (.level .silent rounds) :=
  Trait.Heeds.report dropsCleanly_heeds (dropsCleanly_reviseLeg leg _)

theorem dropsCleanly_reportLate (leg : LegId) (event : RadioEvent) :
    (reportLate leg event).Obeys (droppingCleanly bound) (.level .silent rounds) :=
  Trait.Heeds.reportLate dropsCleanly_heeds leg event

end Act
end Switchboard
