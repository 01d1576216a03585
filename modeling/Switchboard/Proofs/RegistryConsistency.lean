import Switchboard.Proofs.Interleaving
import Switchboard.Proofs.RegistryLosses

/-! Consistency of the registries. Plans, roles and sequences are of calls that are in the books, a
destroyed call has no leg, and what has been announced of a call is what it should be
(`System.Consistent`). Whatever a step comes to (`System.Turn`), the books are consistent afterwards
if they were before, as long as it does not change whether there is a selector
(`Turn.consistent`). -/

namespace Switchboard

variable {rounds : Nat} {except : Option ConnectionId} {bound : ConnectionId → Prop}
  {before middle after system : System Chronicle} {id : ConnectionId}

namespace System

def record (system : System Chronicle) (id : ConnectionId) : List Notice :=
  if system.isRegistered id then [.connectionAdded id]
  else if system.Known id then [.connectionRemoved id, .connectionAdded id]
  else []

/-- All books are about the same calls; what has been announced may be behind for one of them. -/
structure Consistent (except : Option ConnectionId) (system : System Chronicle) : Prop where
  known {id : ConnectionId} : system.isRegistered id = true → system.Known id
  bare (id : ConnectionId) : (system.connection id).destroyed = true →
    (system.connection id).leg = none
  plans {entry : ConnectionId × DialPlan} : entry ∈ system.registry.plans →
    system.isRegistered entry.1 = true
  holders {role : EmergencyRole} {id : ConnectionId} :
    system.registry.roles.holder role = some id →
      system.isRegistered id = true ∧ (system.connection id).emergency = true
  single {role other : EmergencyRole} {id : ConnectionId} :
    system.registry.roles.holder role = some id →
      system.registry.roles.holder other = some id → role = other
  retry {queue : RetryQueue} : system.registry.retry = some queue →
    system.isRegistered queue.owner = true
  session {id : ConnectionId} : system.registry.session.active = some id →
    system.isRegistered id = true ∧ system.device.hasSelector = true
  noticed (id : ConnectionId) : some id ≠ except → system.noticesOf id = system.record id

theorem Consistent.opening (settings : Settings) (device : Device) :
    (Office.opening settings device).system.Consistent none where
  known registered := by cases registered
  bare id _ := by cases id <;> rfl
  plans among := by cases among
  holders {role _} held := by cases role <;> cases held
  single {role _ _} held := by cases role <;> cases held
  retry held := by cases held
  session held := by cases held
  noticed id _ := by cases id <;> rfl

theorem Consistent.beside (consistent : before.Consistent except)
    (connections : after.connections = before.connections)
    (listed : after.registry.connections = before.registry.connections)
    (plans : after.registry.plans = before.registry.plans)
    (roles : after.registry.roles = before.registry.roles)
      (notices : after.notices = before.notices)
    (retry : ∀ {queue}, after.registry.retry = some queue → before.isRegistered queue.owner = true)
    (session : ∀ {id}, after.registry.session.active = some id →
      before.isRegistered id = true ∧ after.device.hasSelector = true) :
        after.Consistent except := by
  have calls (id : ConnectionId) : after.connection id = before.connection id :=
    connection_congr connections id
  have registered (id : ConnectionId) : after.isRegistered id = before.isRegistered id := by
    simp only [isRegistered, listed]
  have known (id : ConnectionId) : after.Known id ↔ before.Known id :=
    known_congr (congrArg List.length connections) id
  exact {
    known := fun here => (known _).mpr (consistent.known (registered _ ▸ here))
    bare := fun id => by rw [calls]; exact consistent.bare id
    plans := fun among => by
      rw [plans] at among
      exact (registered _).trans (consistent.plans among)
    holders := fun held => by
      rw [roles] at held
      rw [registered, calls]
      exact consistent.holders held
    single := fun one two => by
      rw [roles] at one two
      exact consistent.single one two
    retry := fun held => (registered _).trans (retry held)
    session := fun held => ⟨(registered _).trans (session held).1, (session held).2⟩
    noticed := fun id other => by
      rw [noticesOf, notices, record, registered, if_congr (known id) rfl rfl]
      exact consistent.noticed id other }

theorem Consistent.absorb (consistent : system.Consistent none) :
    Consistent none { system with signals := [] } :=
  consistent.beside rfl rfl rfl rfl rfl consistent.retry consistent.session

namespace DropsCleanly

theorem registered_iff (dropsCleanly : before.DropsCleanly bound after) (id : ConnectionId) :
    after.isRegistered id = (before.isRegistered id && !before.loses after id) := by
  have kept := @AddsNoEntry.registered bound before after id dropsCleanly.toAddsNoEntry
  unfold loses
  revert kept
  generalize before.isRegistered id = here
  generalize after.isRegistered id = there
  revert here there
  decide

theorem consistent (dropsCleanly : before.DropsCleanly bound after)
    (tied : ∀ id, bound id → (after.connection id).destroyed = true →
      (after.connection id).leg = none)
    (consistent : before.Consistent except) : after.Consistent except := by
  have listed := dropsCleanly.registered_iff
  have spared {id : ConnectionId} (kept : before.isRegistered id = true)
      (lost : before.loses after id = false) : after.isRegistered id = true := by
    rw [listed, kept, lost]
    rfl
  have held {role : EmergencyRole} {id : ConnectionId}
      (held : after.registry.roles.holder role = some id) :
      before.registry.roles.holder role = some id ∧ before.loses after id = false := by
    rw [dropsCleanly.roles, Option.filter_eq_some_iff] at held
    simpa using held
  exact {
    known := fun {id} registered => (known_congr dropsCleanly.count id).mpr
      (consistent.known (dropsCleanly.toAddsNoEntry.registered registered))
    bare := fun id gone => by
      by_cases mine : bound id
      · exact tied id mine gone
      · exact dropsCleanly.bare mine (consistent.bare id) gone
    plans := fun {entry} among => by
      rw [dropsCleanly.plans, List.mem_filter] at among
      exact spared (consistent.plans among.1) (by simpa using among.2)
    holders := fun holds => by
      obtain ⟨holds, lost⟩ := held holds
      obtain ⟨registered, urgent⟩ := consistent.holders holds
      exact ⟨spared registered lost, (dropsCleanly.emergency _).trans urgent⟩
    single := fun one two => consistent.single (held one).1 (held two).1
    retry := fun held => by
      obtain ⟨held, lost⟩ := dropsCleanly.retry held
      exact spared (consistent.retry held) lost
    session := fun held => by
      obtain ⟨held, lost⟩ := dropsCleanly.session held
      obtain ⟨registered, selector⟩ := consistent.session held
      exact ⟨spared registered (lost selector), dropsCleanly.device ▸ selector⟩
    noticed := fun id other => by
      rw [dropsCleanly.notices, consistent.noticed id other, record, record, listed,
        if_congr (known_congr dropsCleanly.count id) rfl rfl]
      unfold loses
      cases here : before.isRegistered id with
      | false => rfl
      | true =>
        have known := consistent.known here
        cases after.isRegistered id <;> simp [known] }

end DropsCleanly

def introduced (system : System Chronicle) (id : ConnectionId) (role : Option EmergencyRole) :
    System Chronicle :=
  { system with
    notices := .connectionAdded id :: system.notices
    registry := { system.registry with
      roles := match role with
        | some role => (system.registry.roles.assign role id).2
        | none => system.registry.roles } }

theorem holder_introduced (system : System Chronicle) (id : ConnectionId)
    (given : Option EmergencyRole) (role : EmergencyRole) :
    (system.introduced id given).registry.roles.holder role =
      if given = some role then some id else system.registry.roles.holder role := by
  cases given with
  | none => simp [introduced]
  | some other =>
    simp only [introduced, EmergencyRoles.assign, EmergencyRoles.holder_setHolder,
      Option.some.injEq, eq_comm]

/-- What a step comes to for the books: calls may be lost; a sequence starts for a call that is in
them; a call is entered, announced and given its role; or the device changes. -/
inductive Turn (before : System Chronicle) : System Chronicle → Prop
  | dropsCleanly {bound : ConnectionId → Prop} {after : System Chronicle}
    (dropsCleanly : before.DropsCleanly bound after)
    (tied : ∀ id, bound id → (after.connection id).destroyed = true →
      (after.connection id).leg = none) : Turn before after
  | retries (queue : RetryQueue) (registered : before.isRegistered queue.owner = true) :
    Turn before { before with registry := { before.registry with retry := some queue } }
  | selects {id : ConnectionId} (registered : before.isRegistered id = true)
    (selector : before.device.hasSelector = true) : Turn before (before.starting id)
  | enters {bound : ConnectionId → Prop} {call : Connection}
    {plans : List (ConnectionId × DialPlan)} {role : Option EmergencyRole}
    {middle after : System Chronicle} (alive : call.destroyed = false)
    (mine : ∀ entry ∈ plans, entry.1 = .issued before.connections.length)
    (urgent : role.isSome = call.emergency)
    (tracked : (before.joined call plans).DropsCleanly (fun _ => False) middle)
    (there : middle.isRegistered (.issued before.connections.length) = true)
    (introduced :
      (middle.introduced (.issued before.connections.length) role).DropsCleanly bound after)
    (tied : ∀ id, bound id → (after.connection id).destroyed = true →
      (after.connection id).leg = none)
    (stays : role.isSome = true →
      after.isRegistered (.issued before.connections.length) = true) : Turn before after
  | alters (change : Alteration) : Turn before { before with device := change.apply before.device }

theorem Turn.of_dropsCleanly (dropsCleanly : before.DropsCleanly (fun _ => False) after) :
    before.Turn after :=
  .dropsCleanly dropsCleanly fun _ none => none.elim

theorem Turn.refl (system : System Chronicle) : system.Turn system :=
  .of_dropsCleanly (.refl _ system)

theorem Consistent.next (consistent : before.Consistent none) :
    before.isRegistered (.issued before.connections.length) = false ∧
      before.noticesOf (.issued before.connections.length) = [] := by
  have strange := before.not_known_next
  have unlisted : before.isRegistered (.issued before.connections.length) = false :=
    (Bool.not_eq_true _).mp fun registered => strange (consistent.known registered)
  refine ⟨unlisted, (consistent.noticed _ nofun).trans ?_⟩
  rw [record, if_neg (by simp [unlisted]), if_neg strange]

theorem isRegistered_joined (system : System Chronicle) (call : Connection)
    (plans : List (ConnectionId × DialPlan)) (id : ConnectionId) :
    (system.joined call plans).isRegistered id =
      (system.isRegistered id || decide (id = .issued system.connections.length)) := by
  simp [isRegistered, joined]

theorem Consistent.joined (consistent : before.Consistent none) {call : Connection}
    {plans : List (ConnectionId × DialPlan)} (alive : call.destroyed = false)
    (mine : ∀ entry ∈ plans, entry.1 = .issued before.connections.length) :
    (before.joined call plans).Consistent (some (.issued before.connections.length)) := by
  have older {id : ConnectionId} (registered : before.isRegistered id = true) :
      (before.joined call plans).isRegistered id = true := by
    rw [isRegistered_joined, registered]
    rfl
  exact {
    known := fun {id} registered => by
      rw [isRegistered_joined, Bool.or_eq_true, decide_eq_true_iff] at registered
      exact (before.known_joined_iff call plans id).mpr (registered.imp_left consistent.known)
    bare := before.each_joined plans
      (motive := fun _ call => call.destroyed = true → call.leg = none)
      (fun gone => by rw [alive] at gone; cases gone) consistent.bare
    plans := fun {entry} among => by
      rcases List.mem_append.mp among with new | old
      · rw [isRegistered_joined, mine entry new]
        simp
      · exact older (consistent.plans old)
    holders := fun held => by
      obtain ⟨registered, urgent⟩ := consistent.holders held
      refine ⟨older registered, ?_⟩
      rw [before.connection_joined_of_known (consistent.known registered)]
      exact urgent
    single := fun one two => consistent.single one two
    retry := fun held => older (consistent.retry held)
    session := fun held => ⟨older (consistent.session held).1, (consistent.session held).2⟩
    noticed := fun id other => by
      have differ : id ≠ .issued before.connections.length := fun same => other (congrArg some same)
      have told : (before.joined call plans).noticesOf id = before.noticesOf id := rfl
      rw [told, consistent.noticed id nofun, record, record, isRegistered_joined,
        if_congr (before.known_joined_iff call plans id) rfl rfl]
      simp [differ] }

theorem Consistent.introduced (consistent : system.Consistent (some id))
    (registered : system.isRegistered id = true) (silent : system.noticesOf id = [])
    {role : Option EmergencyRole} (urgent : role.isSome = (system.connection id).emergency)
    (idle : ∀ role, system.registry.roles.holder role ≠ some id) :
    (system.introduced id role).Consistent none := by
  have calls (other : ConnectionId) :
      (system.introduced id role).connection other = system.connection other := by
    cases other <;> rfl
  have holds {held : EmergencyRole} {other : ConnectionId}
      (holds : (system.introduced id role).registry.roles.holder held = some other) :
      role = some held ∧ other = id ∨
        other ≠ id ∧ system.registry.roles.holder held = some other := by
    rw [holder_introduced] at holds
    split at holds
    · rename_i given
      exact .inl ⟨given, (Option.some.inj holds).symm⟩
    · refine .inr ⟨?_, holds⟩
      rintro rfl
      exact idle held holds
  exact {
    known := fun {other} listed => (known_congr rfl other).mpr (consistent.known listed)
    bare := fun other => by rw [calls]; exact consistent.bare other
    plans := consistent.plans
    holders := fun {held other} now => by
      rw [calls]
      rcases holds now with ⟨given, rfl⟩ | ⟨-, before⟩
      · rw [given] at urgent
        exact ⟨registered, urgent.symm⟩
      · exact consistent.holders before
    single := fun one two => by
      rcases holds one with ⟨given, rfl⟩ | ⟨differ, before⟩
      · rcases holds two with ⟨same, -⟩ | ⟨differ, -⟩
        · exact Option.some.inj (given.symm.trans same)
        · exact absurd rfl differ
      · rcases holds two with ⟨-, same⟩ | ⟨-, other⟩
        · exact absurd same differ
        · exact consistent.single before other
    retry := consistent.retry
    session := consistent.session
    noticed := fun other _ => by
      have same : (system.introduced id role).record other = system.record other := by
        cases other <;> rfl
      have told : (system.introduced id role).noticesOf other =
          (if other = id then [.connectionAdded id] else []) ++ system.noticesOf other := by
        by_cases here : other = id
        · simp [noticesOf, System.introduced, Notice.connection?, here]
        · simp [noticesOf, System.introduced, Notice.connection?, here, Ne.symm here]
      rw [same, told]
      by_cases here : other = id
      · rw [here, silent, record, if_pos registered]
        simp
      · rw [if_neg here, List.nil_append]
        exact consistent.noticed other fun wrong => here (Option.some.inj wrong) }

/-- Books that agree go on agreeing, as long as there is a selector, or none, as before. -/
theorem Turn.consistent (turn : before.Turn after) (consistent : before.Consistent none)
    (fixed : after.device.hasSelector = before.device.hasSelector) : after.Consistent none := by
  cases turn with
  | dropsCleanly dropsCleanly tied => exact dropsCleanly.consistent tied consistent
  | retries queue registered =>
    refine consistent.beside rfl rfl rfl rfl rfl (fun held => ?_) consistent.session
    cases held
    exact registered
  | selects registered selector =>
    refine consistent.beside rfl rfl rfl rfl rfl consistent.retry fun held => ?_
    cases held
    exact ⟨registered, selector⟩
  | @enters bound call plans role middle _ alive mine urgent tracked there introduced tied _ =>
    obtain ⟨unlisted, silent⟩ := consistent.next
    have joined := consistent.joined alive mine
    have entered := tracked.consistent (fun _ none => none.elim) joined
    have quiet : middle.noticesOf (.issued before.connections.length) = [] := by
      have kept := tracked.registered_iff (.issued before.connections.length)
      rw [there, eq_comm, Bool.and_eq_true, Bool.not_eq_true'] at kept
      rw [tracked.notices, kept.2]
      exact silent
    have mine : (middle.connection (.issued before.connections.length)).emergency =
        call.emergency := by
      rw [tracked.emergency, connection_joined_newest]
    have idle (role : EmergencyRole) :
        middle.registry.roles.holder role ≠ some (.issued before.connections.length) := by
      intro held
      rw [tracked.roles, Option.filter_eq_some_iff] at held
      have registered := (consistent.holders held.1).1
      rw [unlisted] at registered
      cases registered
    exact introduced.consistent tied
      (entered.introduced there quiet (urgent.trans mine.symm) idle)
  | alters change =>
    refine consistent.beside rfl rfl rfl rfl rfl consistent.retry fun held => ?_
    exact ⟨(consistent.session held).1, fixed.trans (consistent.session held).2⟩

end System
end Switchboard
