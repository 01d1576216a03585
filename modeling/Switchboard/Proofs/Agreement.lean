import Switchboard.Proofs.Conferences
import Switchboard.Proofs.PlacementSteps

/-! The registries agree. Every step of every run is a turn of the books, so that plans, roles,
sequences and what is tracked are always of the calls that are up (`Office.registries_agree`). A
role is of the connection that was given it last, as long as that is up; whoever had it before is
without (`Office.tracked_while_last_given`). -/

namespace Switchboard

variable {rounds : Nat} {start last before middle after system : System Chronicle}
  {past more : Trace}

/-- Whether there is a selector is settled for good. -/
def Trace.KeepsSelector (trace : Trace) : Prop :=
  ∀ step ∈ trace, step.2.device.hasSelector = step.1.device.hasSelector

instance (trace : Trace) : Decidable trace.KeepsSelector :=
  inferInstanceAs (Decidable (∀ step ∈ trace, _ = _))

def Trace.Turns (trace : Trace) : Prop :=
  ∀ step ∈ trace, step.1.Turn step.2

theorem System.Consistent.reaches (consistent : start.Consistent none)
    (reaches : Reaches rounds start more last) (turns : more.Turns) (fixed : more.KeepsSelector) :
    last.Consistent none := by
  induction reaches with
  | refl => exact consistent
  | @step past before after reaches happens ih =>
    have here := List.mem_append_right past (List.mem_singleton_self (before, after))
    exact (turns _ here).consistent
      (ih (fun step among => turns step (List.mem_append_left _ among))
      fun step among => fixed step (List.mem_append_left _ among)) (fixed _ here)
  | absorb _ ih => exact (ih turns fixed).absorb

theorem Office.Accounts.turn {step : System Chronicle × System Chronicle}
    (accounts : Accounts rounds (fun _ before after => before.Turn after) past step)
    (balanced : step.1.Balanced) : step.1.Turn step.2 := by
  rcases accounts with ⟨occasion, run⟩ | ⟨history, -, turn⟩
  · exact occasion.turn balanced _ _ run
  · exact turn

namespace System

/-- The registries are about the same calls. -/
structure Agrees (system : System Chronicle) : Prop where
  listed : system.registry.connections.Nodup
  registered (id : ConnectionId) : id ∈ system.registry.connections ↔
    system.Known id ∧ (system.connection id).destroyed = false
  plans {entry : ConnectionId × DialPlan} : entry ∈ system.registry.plans →
    entry.1 ∈ system.registry.connections
  roles {role : EmergencyRole} {id : ConnectionId} : system.registry.roles.holder role = some id →
    id ∈ system.registry.connections ∧ (system.connection id).emergency = true
  single {role other : EmergencyRole} {id : ConnectionId} :
    system.registry.roles.holder role = some id →
      system.registry.roles.holder other = some id → role = other
  retry {queue : RetryQueue} : system.registry.retry = some queue →
    queue.owner ∈ system.registry.connections
  session {id : ConnectionId} : system.registry.session.active = some id →
    id ∈ system.registry.connections
  distinct : system.tracked.Nodup
  tracked : system.tracked.Perm (system.registry.connections.map Holdable.connection ++
    system.currentConferences.map Holdable.conference)
  up {id : ConnectionId} : id ∈ system.registry.connections →
    system.noticesOf id = [.connectionAdded id]
  gone {id : ConnectionId} : system.Known id → id ∉ system.registry.connections →
    system.noticesOf id = [.connectionRemoved id, .connectionAdded id]

theorem Consistent.agrees (consistent : system.Consistent none) (balanced : system.Balanced) :
    system.Agrees := by
  obtain ⟨technologies, books⟩ := balanced.books
  have registered {id : ConnectionId} : system.isRegistered id = true ↔
      id ∈ system.registry.connections := List.contains_iff_mem
  have mem {id : ConnectionId} : system.isRegistered id = true → id ∈ system.registry.connections :=
    registered.mp
  have told (id : ConnectionId) := consistent.noticed id nofun
  exact {
    listed := by
      rw [books.roster]
      exact living_nodup system
    registered := fun id => by
      rw [books.alive_iff]
      exact ⟨fun alive => ⟨system.known_of_alive alive, alive⟩, And.right⟩
    plans := fun among => mem (consistent.plans among)
    roles := fun held => (consistent.holders held).imp_left mem
    single := consistent.single
    retry := fun held => mem (consistent.retry held)
    session := fun held => mem (consistent.session held).1
    distinct := books.distinct
    tracked := books.tracked_perm
    up := fun {id} among => by rw [told, record, if_pos (registered.mpr among)]
    gone := fun {id} known apart => by
      rw [told, record, if_neg (mt registered.mp apart), if_pos known] }

/-- The connection that a step creates, if it has the role then. -/
def givenRole (role : EmergencyRole) (step : System Chronicle × System Chronicle) :
    Option ConnectionId :=
  let id := ConnectionId.issued step.1.connections.length
  if step.2.registry.roles.holder role = some id then some id else none

end System

def Trace.lastGiven (role : EmergencyRole) (trace : Trace) : Option ConnectionId :=
  (trace.filterMap (System.givenRole role)).getLast?

theorem Trace.lastGiven_concat (role : EmergencyRole) (past : Trace)
    (step : System Chronicle × System Chronicle) :
    lastGiven role (past ++ [step]) = (System.givenRole role step).or (lastGiven role past) := by
  cases given : System.givenRole role step <;> simp [lastGiven, given]

namespace System

/-- A role is of the connection that was given it last, while that is registered, and every
emergency call has been given one. -/
structure RolesLastGiven (past : Trace) (system : System Chronicle) : Prop where
  known {role : EmergencyRole} {id : ConnectionId} : past.lastGiven role = some id → system.Known id
  holder (role : EmergencyRole) :
    system.registry.roles.holder role = (past.lastGiven role).filter system.isRegistered
  given {id : ConnectionId} : system.isRegistered id = true →
    (system.connection id).emergency = true → ∃ role, ∃ step ∈ past, givenRole role step = some id

theorem DropsCleanly.holder {bound : ConnectionId → Prop}
    (dropsCleanly : before.DropsCleanly bound after)
    {role : EmergencyRole}
    (registered : ∀ {id}, before.registry.roles.holder role = some id →
      before.isRegistered id = true) :
    after.registry.roles.holder role =
      (before.registry.roles.holder role).filter after.isRegistered := by
  rw [dropsCleanly.roles]
  cases held : before.registry.roles.holder role with
  | none => rfl
  | some id =>
    rw [Option.filter_some, Option.filter_some, dropsCleanly.registered_iff, registered held,
      Bool.true_and]

theorem RolesLastGiven.concat (rolesLastGiven : before.RolesLastGiven past)
    (balanced : after.Balanced)
    (known : ∀ {id}, before.Known id → after.Known id)
    (holder : ∀ role, after.registry.roles.holder role = (givenRole role (before, after)).or
      ((before.registry.roles.holder role).filter after.isRegistered))
    (stays : ∀ {role id}, givenRole role (before, after) = some id → after.isRegistered id = true)
    (older : ∀ {id}, before.Known id → after.isRegistered id = true → before.isRegistered id = true)
    (given : ∀ {id}, after.isRegistered id = true → (after.connection id).emergency = true →
      (before.isRegistered id = true ∧ (before.connection id).emergency = true) ∨
        ∃ role, givenRole role (before, after) = some id) :
    after.RolesLastGiven (past ++ [(before, after)]) where
  known {role id} last := by
    rw [Trace.lastGiven_concat] at last
    cases now : givenRole role (before, after) with
    | none =>
      rw [now, Option.none_or] at last
      exact known (rolesLastGiven.known last)
    | some other =>
      rw [now, Option.some_or] at last
      have alive := (balanced.registered_iff other).mp (stays now)
      exact Option.some.inj last ▸ after.known_of_alive alive
  holder role := by
    rw [holder, Trace.lastGiven_concat, rolesLastGiven.holder]
    cases now : givenRole role (before, after) with
    | some id => rw [Option.some_or, Option.some_or, Option.filter_some, if_pos (stays now)]
    | none =>
      rw [Option.none_or, Option.none_or]
      cases last : past.lastGiven role with
      | none => rfl
      | some id =>
        rw [Option.filter_filter, Option.filter_some, Option.filter_some]
        cases here : after.isRegistered id with
        | false => rw [Bool.and_false]
        | true => rw [older (rolesLastGiven.known last) here, Bool.true_and]
  given {id} registered urgent := by
    rcases given registered urgent with ⟨old, before⟩ | ⟨role, now⟩
    · obtain ⟨role, step, among, gave⟩ := rolesLastGiven.given old before
      exact ⟨role, step, List.mem_append_left _ among, gave⟩
    · exact ⟨role, _, List.mem_append_right _ (List.mem_singleton_self _), now⟩

/-- A step that only takes roles gives nobody one. -/
theorem RolesLastGiven.kept (rolesLastGiven : before.RolesLastGiven past) (still : before.Balanced)
    (balanced : after.Balanced)
    (count : after.connections.length = before.connections.length)
    (listed : ∀ {id}, after.isRegistered id = true → before.isRegistered id = true)
    (emergency : ∀ id, (after.connection id).emergency = (before.connection id).emergency)
    (holder : ∀ role, after.registry.roles.holder role =
      (before.registry.roles.holder role).filter after.isRegistered) :
    after.RolesLastGiven (past ++ [(before, after)]) := by
  have none (role : EmergencyRole) : givenRole role (before, after) = none := by
    refine if_neg fun held => ?_
    rw [holder, Option.filter_eq_some_iff] at held
    have alive := (still.registered_iff _).mp (listed held.2)
    exact before.not_known_next (before.known_of_alive alive)
  refine rolesLastGiven.concat balanced (known_congr count _).mpr (fun role => ?_) (fun gave => ?_)
    (fun _ => listed) fun {id} registered urgent => .inl ⟨listed registered, emergency id ▸ urgent⟩
  · rw [none, Option.none_or, holder]
  · rw [none] at gave
    cases gave

section

variable {bound : ConnectionId → Prop} {call : Connection} {plans : List (ConnectionId × DialPlan)}
  {given : Option EmergencyRole}
  (tracked : (before.joined call plans).DropsCleanly (fun _ => False) middle)
  (introduced :
    (middle.introduced (.issued before.connections.length) given).DropsCleanly bound after)
include tracked introduced

theorem listed_entered {id : ConnectionId} (here : after.isRegistered id = true) :
    middle.isRegistered id = true ∧
      (before.isRegistered id = true ∨ id = .issued before.connections.length) := by
  have later : middle.isRegistered id = true := introduced.toAddsNoEntry.registered here
  have joined := tracked.toAddsNoEntry.registered later
  rw [isRegistered_joined, Bool.or_eq_true, decide_eq_true_iff] at joined
  exact ⟨later, joined⟩

theorem holder_entered
    (registered : ∀ {role id}, before.registry.roles.holder role = some id →
      before.isRegistered id = true)
    (there : middle.isRegistered (.issued before.connections.length) = true)
    (stays : given.isSome = true → after.isRegistered (.issued before.connections.length) = true)
    (role : EmergencyRole) :
    after.registry.roles.holder role =
      if given = some role then some (.issued before.connections.length)
      else (before.registry.roles.holder role).filter after.isRegistered := by
  have tracking (role : EmergencyRole) : middle.registry.roles.holder role =
      (before.registry.roles.holder role).filter middle.isRegistered :=
    tracked.holder fun {id} held => by
      rw [isRegistered_joined, registered held, Bool.true_or]
  have introducing : after.registry.roles.holder role = ((middle.introduced
      (.issued before.connections.length) given).registry.roles.holder role).filter
        after.isRegistered := by
    refine introduced.holder fun {id} held => ?_
    rw [holder_introduced] at held
    split at held
    · exact Option.some.inj held ▸ there
    · rw [tracking, Option.filter_eq_some_iff] at held
      exact held.2
  rw [introducing, holder_introduced]
  split
  · rename_i mine
    rw [Option.filter_some, if_pos (stays (by rw [mine]; rfl))]
  · rw [tracking, Option.filter_filter]
    congr 1
    funext id
    cases here : after.isRegistered id with
    | false => rw [Bool.and_false]
    | true => rw [(listed_entered tracked introduced here).1, Bool.true_and]

theorem emergency_entered (id : ConnectionId) : (after.connection id).emergency =
    if id = .issued before.connections.length then call.emergency
    else (before.connection id).emergency := by
  have told : (middle.introduced (.issued before.connections.length) given).connection id =
      middle.connection id := by
    cases id <;> rfl
  rw [introduced.emergency, told, tracked.emergency, connection_joined]
  split <;> rfl

end

theorem RolesLastGiven.turn (rolesLastGiven : before.RolesLastGiven past) (still : before.Balanced)
    (balanced : after.Balanced)
    (turn : before.Turn after) : after.RolesLastGiven (past ++ [(before, after)]) := by
  have registered {role : EmergencyRole} {id : ConnectionId}
      (held : before.registry.roles.holder role = some id) : before.isRegistered id = true := by
    rw [rolesLastGiven.holder, Option.filter_eq_some_iff] at held
    exact held.2
  have same (role : EmergencyRole) : before.registry.roles.holder role =
      (before.registry.roles.holder role).filter before.isRegistered := by
    cases held : before.registry.roles.holder role with
    | none => rfl
    | some id => rw [Option.filter_some, if_pos (registered held)]
  cases turn with
  | dropsCleanly dropsCleanly _ =>
    exact rolesLastGiven.kept still balanced dropsCleanly.count
      dropsCleanly.toAddsNoEntry.registered dropsCleanly.emergency
      fun role => dropsCleanly.holder registered
  | retries | selects | alters =>
    exact rolesLastGiven.kept still balanced rfl id (fun id => by cases id <;> rfl) same
  | @enters bound call plans given middle _ _ _ urgent tracked there introduced _ stays =>
    let new := ConnectionId.issued before.connections.length
    have strange : before.isRegistered new = false := (Bool.not_eq_true _).mp fun here =>
      before.not_known_next (before.known_of_alive ((still.registered_iff _).mp here))
    have holder := holder_entered tracked introduced registered there stays
    have gives (role : EmergencyRole) : givenRole role (before, after) =
        if given = some role then some new else none := by
      rw [givenRole, holder]
      split
      · rw [if_pos rfl]
      · refine if_neg fun held => ?_
        rw [Option.filter_eq_some_iff] at held
        have here := registered held.1
        rw [strange] at here
        cases here
    have count : after.connections.length = before.connections.length + 1 :=
      introduced.count.trans (tracked.count.trans (by simp [joined]))
    refine rolesLastGiven.concat balanced (fun {id} known => ?_) (fun role => ?_)
      (fun {role id} gave => ?_)
      (fun {id} known here => ?_) fun {id} here dire => ?_
    · cases id with
      | issued serial => exact Nat.lt_of_lt_of_eq (Nat.lt_succ_of_lt known) count.symm
      | outsider value => exact known
    · rw [holder, gives]
      split <;> rfl
    · rw [gives] at gave
      split at gave
      · rename_i mine
        exact Option.some.inj gave ▸ stays (by rw [mine]; rfl)
      · cases gave
    · refine (listed_entered tracked introduced here).2.resolve_right ?_
      rintro rfl
      exact before.not_known_next known
    · rw [emergency_entered tracked introduced] at dire
      rcases (listed_entered tracked introduced here).2 with old | rfl
      · rw [if_neg] at dire
        · exact .inl ⟨old, dire⟩
        · rintro rfl
          rw [strange] at old
          cases old
      · rw [if_pos rfl, ← urgent] at dire
        obtain ⟨role, mine⟩ := Option.isSome_iff_exists.mp dire
        exact .inr ⟨role, by rw [gives, if_pos mine]⟩

theorem RolesLastGiven.absorb (rolesLastGiven : system.RolesLastGiven past) :
    RolesLastGiven past { system with signals := [] } where
  known last := rolesLastGiven.known last
  holder role := rolesLastGiven.holder role
  given {id} registered urgent := by cases id <;> exact rolesLastGiven.given registered urgent

theorem RolesLastGiven.reaches (reaches : Reaches rounds start more last)
    (rolesLastGiven : start.RolesLastGiven [])
    (balanced : start.Balanced) (turns : more.Turns) : last.RolesLastGiven more := by
  induction reaches with
  | refl => exact rolesLastGiven
  | @step past before after reaches happens ih =>
    have still := balanced.reaches reaches
    have here := List.mem_append_right past (List.mem_singleton_self (before, after))
    exact (ih fun step among => turns step (List.mem_append_left _ among)).turn still
      (still.happens happens) (turns _ here)
  | absorb _ ih => exact (ih turns).absorb

theorem RolesLastGiven.opening (settings : Settings) (device : Device) :
    (Office.opening settings device).system.RolesLastGiven [] where
  known last := by cases last
  holder role := by cases role <;> rfl
  given registered := by cases registered

end System

theorem EmergencyRoles.hasEmergencyCall_iff (roles : EmergencyRoles) :
    roles.hasEmergencyCall = true ↔ ∃ role id, roles.holder role = some id := by
  simp only [hasEmergencyCall, Bool.or_eq_true, Option.isSome_iff_exists]
  constructor
  · rintro ((⟨id, held⟩ | ⟨id, held⟩) | ⟨id, held⟩)
    · exact ⟨.emergency, id, held⟩
    · exact ⟨.normalRouting, id, held⟩
    · exact ⟨.alternate, id, held⟩
  · rintro ⟨_ | _ | _, id, held⟩
    · exact .inl (.inl ⟨id, held⟩)
    · exact .inl (.inr ⟨id, held⟩)
    · exact .inr ⟨id, held⟩

namespace Office

variable {settings : Settings} {device : Device} {occasions : List Occasion} {office : Office}

theorem AllGuarantee.turns {next : Office}
    (allGuarantee : office.AllGuarantee rounds HoldsNothing
      (fun _ before after => before.Turn after) past)
    (busy : office.Busy rounds) (balanced : office.system.Balanced)
    (reached : office.run rounds occasions = some next) :
    (office.trace rounds occasions).Turns ∧
      next.AllGuarantee rounds HoldsNothing (fun _ before after => before.Turn after)
        (past ++ office.trace rounds occasions) := by
  obtain ⟨accounts, onward⟩ :=
    allGuarantee.run (OfficeContract.turnsBooks rounds) busy balanced reached
  refine ⟨fun step among => ?_, onward⟩
  obtain ⟨sofar, rest, split⟩ := List.append_of_mem among
  exact (accounts split).turn (balanced.reaches ((busy.run .refl reached).1.sofar split).1)

theorem AllGuarantee.opening (settings : Settings) (device : Device) :
    (opening settings device).AllGuarantee rounds HoldsNothing
      (fun _ before after => before.Turn after) [] :=
  ⟨[], rfl, nofun, trivial⟩

theorem Busy.opening (settings : Settings) (device : Device) :
    (opening settings device).Busy rounds :=
  nofun

theorem turns (reached : (opening settings device).run rounds occasions = some office) :
    ((opening settings device).trace rounds occasions).Turns :=
  ((AllGuarantee.opening settings device).turns (.opening settings device)
    (.opening settings device)
    reached).1

/-- Whatever is asked of the exchange and whatever happens, its registries agree. -/
theorem registries_agree (reached : (opening settings device).run rounds occasions = some office)
    (fixed : ((opening settings device).trace rounds occasions).KeepsSelector) :
    office.system.Agrees := by
  have reaches := reaches_trace reached
  have opening := System.Consistent.opening settings device
  exact (opening.reaches reaches (turns reached) fixed).agrees
    ((System.Balanced.opening settings device).reaches reaches)

/-- One phone, which dials the number of the emergency services like any other. -/
def divertedPhone : Device :=
  { Roster.lonePhone with
    emergencyNumbers := { numbers := ["911"], routes := [(("911", ⟨0⟩), .normal)] } }

/-- An emergency call is up when another is placed, which is hung up again. -/
def displaced : List Occasion := [
  .start (.place { address := "911" }),
  .resume 0,
  .grant 0 { state := .active, technology := .gsm },
  .resume 0,
  .start (.place { address := "911" }),
  .resume 0,
  .start (.hangup (.issued 1)),
  .resume 1]

/-- In the end one of the two is registered, and the end of the other has been announced. -/
theorem displaced_agree : ∃ office, (opening {} divertedPhone).run 20 displaced = some office ∧
    office.system.Agrees ∧ office.system.registry.connections = [.issued 0] ∧
    office.system.noticesOf (.issued 1) =
      [.connectionRemoved (.issued 1), .connectionAdded (.issued 1)] := by
  have runs : ((opening {} divertedPhone).run 20 displaced).any (fun office => decide (
      office.system.Known (.issued 1) ∧ office.system.registry.connections = [.issued 0]))
        = true := by
    decide +kernel
  have fixed : ((opening {} divertedPhone).trace 20 displaced).KeepsSelector := by decide +kernel
  obtain ⟨office, reached, shown⟩ := (Option.any_eq_true _ _).mp runs
  obtain ⟨known, listed⟩ := of_decide_eq_true shown
  have agrees := registries_agree reached fixed
  exact ⟨office, reached, agrees, listed, agrees.gone known (by rw [listed]; decide)⟩

/-- Every emergency call is given a role when it is placed; while the call that was given a role
last is registered it has that role, and there is an emergency call exactly if that is so of some
role. -/
theorem tracked_while_last_given
    (reached : (opening settings device).run rounds occasions = some office) :
    let trace := (opening settings device).trace rounds occasions
    (∀ id, office.system.isRegistered id = true → (office.system.connection id).emergency = true →
      ∃ role, ∃ step ∈ trace, System.givenRole role step = some id) ∧
    (∀ role id, office.system.registry.roles.holder role = some id ↔
      trace.lastGiven role = some id ∧ office.system.isRegistered id = true) ∧
    (office.system.registry.roles.hasEmergencyCall = true ↔
      ∃ role id, trace.lastGiven role = some id ∧ office.system.isRegistered id = true) := by
  intro trace
  have rolesLastGiven :=
    System.RolesLastGiven.reaches (reaches_trace reached) (.opening settings device)
    (.opening settings device) (turns reached)
  have holder (role : EmergencyRole) (id : ConnectionId) :
      office.system.registry.roles.holder role = some id ↔
        trace.lastGiven role = some id ∧ office.system.isRegistered id = true := by
    rw [rolesLastGiven.holder, Option.filter_eq_some_iff]
  refine ⟨fun id => rolesLastGiven.given, holder, ?_⟩
  rw [EmergencyRoles.hasEmergencyCall_iff]
  exact exists_congr fun role => exists_congr fun id => holder role id

/-- While only the first of the two has been placed, it has its role. -/
theorem displaced_tracked_before : ∃ office,
    (opening {} divertedPhone).run 20 (displaced.take 4) = some office ∧
      office.system.registry.roles.holder .normalRouting = some (.issued 0) ∧
      office.system.registry.roles.hasEmergencyCall = true := by
  have runs : ((opening {} divertedPhone).run 20 (displaced.take 4)).any
      (·.system.isRegistered (.issued 0)) = true := by decide +kernel
  have last : ((opening {} divertedPhone).trace 20 (displaced.take 4)).lastGiven .normalRouting =
      some (.issued 0) := by decide +kernel
  obtain ⟨office, reached, registered⟩ := (Option.any_eq_true _ _).mp runs
  obtain ⟨-, holder, emergency⟩ := tracked_while_last_given reached
  exact ⟨office, reached, (holder _ _).mpr ⟨last, registered⟩,
    emergency.mpr ⟨_, _, last, registered⟩⟩

/-- In the end it is up still, and has been given a role; but there is no emergency call. -/
theorem displaced_untracked : ∃ office,
    (opening {} divertedPhone).run 20 displaced = some office ∧
      office.system.Up (.issued 0) ∧ (office.system.connection (.issued 0)).emergency = true ∧
      (∃ step ∈ (opening {} divertedPhone).trace 20 displaced,
        System.givenRole .normalRouting step = some (.issued 0)) ∧
      office.system.registry.roles.hasEmergencyCall = false := by
  have runs : ((opening {} divertedPhone).run 20 displaced).any (fun office => decide (
      office.system.Up (.issued 0) ∧ (office.system.connection (.issued 0)).emergency = true ∧
        office.system.registry.roles.hasEmergencyCall = false)) = true := by decide +kernel
  have given : ((opening {} divertedPhone).trace 20 displaced).any (fun step => decide (
      System.givenRole .normalRouting step = some (.issued 0))) = true := by decide +kernel
  obtain ⟨office, reached, shown⟩ := (Option.any_eq_true _ _).mp runs
  obtain ⟨up, urgent, untracked⟩ := of_decide_eq_true shown
  obtain ⟨step, among, gave⟩ := List.any_eq_true.mp given
  exact ⟨office, reached, up, urgent, ⟨step, among, of_decide_eq_true gave⟩, untracked⟩

end Office
end Switchboard
