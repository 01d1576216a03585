import Switchboard.Proofs.Effects

/-! Which task dials for a call. A task that has put a call in the books, or that goes on with a
call whose attempt failed, has that call for its client until it has bound it to a leg. `Regime` is
what holds while steps are taken, `Program.Keeps` that a program serves its client, and no other,
from one wait to the next, and `Order` is the invariant of the system: a client has no leg and one
task, and a call without a leg is a client, unless nobody has to dial for it. -/

namespace Switchboard

/-- How steps are taken, what holds between them, and whether a call may be without a leg and a
task. -/
structure Regime where
  wiring : Wiring Chronicle
  fit : System Chronicle → Prop
  /-- An outgoing call that lasts is not left without a leg and without a task. -/
  strict : Prop

namespace System

/-- Time has passed: connections have been added and destroyed. -/
structure Since (before after : System Chronicle) : Prop where
  known {id : ConnectionId} : before.Known id → after.Known id
  direction {id : ConnectionId} : before.Known id →
    (after.connection id).direction = (before.connection id).direction
  gone {id : ConnectionId} : before.Known id → (before.connection id).destroyed = true →
    (after.connection id).destroyed = true

namespace Since

variable {before middle after : System Chronicle}

theorem refl (system : System Chronicle) : system.Since system where
  known known := known
  direction _ := rfl
  gone _ gone := gone

theorem trans (first : before.Since middle) (second : middle.Since after) :
    before.Since after where
  known known := second.known (first.known known)
  direction known := (second.direction (first.known known)).trans (first.direction known)
  gone known gone := second.gone (first.known known) (first.gone known gone)

theorem of_connections (same : after.connections = before.connections) : before.Since after where
  known {id} known := by
    cases id with
    | issued serial => simpa only [Known, same] using known
    | outsider value => exact known
  direction {id} _ := by cases id <;> simp only [connection, same]
  gone {id} _ gone := by cases id <;> simpa only [connection, same] using gone

theorem noting (system : System Chronicle) (note : Note) : system.Since (system.noting note) :=
  of_connections rfl

end Since

/-- Nothing changed in the connections and in the books about them. -/
structure SameCalls (before after : System Chronicle) : Prop where
  connections : after.connections = before.connections
  listed : after.registry.connections = before.registry.connections
  plans : after.registry.plans = before.registry.plans
  attended : after.attended = before.attended

end System

namespace Regime

variable (regime : Regime)

def NeedsNoDial (system : System Chronicle) (id : ConnectionId) : Prop :=
  regime.strict → (system.connection id).direction = .outgoing →
    (system.connection id).destroyed = true

structure MayLoseLegs (moved : ConnectionId → Prop) (before after : System Chronicle) : Prop
    extends before.Since after where
  leg {id : ConnectionId} : before.Known id → ¬ moved id →
    (after.connection id).leg = (before.connection id).leg ∨
      (after.connection id).leg = none ∧ regime.NeedsNoDial after id

structure ConcernsNoTask (before after : System Chronicle) : Prop
    extends regime.MayLoseLegs (fun _ => False) before after where
  count : after.connections.length = before.connections.length
  works : after.works = before.works
  outside : after.outside = before.outside

structure Binds (id : ConnectionId) (before after : System Chronicle) : Prop
    extends regime.MayLoseLegs (· = id) before after where
  count : after.connections.length = before.connections.length
  works : after.works = before.works
  outside : after.outside = before.outside
  bound : (after.connection id).leg = none → regime.NeedsNoDial after id

/-- There is one connection more. -/
structure AddsOne (before after : System Chronicle) : Prop
    extends regime.MayLoseLegs (fun _ => False) before after where
  count : after.connections.length = before.connections.length + 1
  works : after.works = before.works
  outside : after.outside = before.outside
  bare : (after.connection (.issued before.connections.length)).leg = none

variable {regime} {before middle after : System Chronicle} {moved : ConnectionId → Prop}

theorem NeedsNoDial.since {id : ConnectionId} (needsNoDial : regime.NeedsNoDial before id)
    (known : before.Known id) (since : before.Since after) : regime.NeedsNoDial after id := by
  intro strict outgoing
  exact since.gone known (needsNoDial strict ((since.direction known).symm.trans outgoing))

theorem MayLoseLegs.trans (first : regime.MayLoseLegs moved before middle)
    (second : regime.MayLoseLegs moved middle after) : regime.MayLoseLegs moved before after where
  toSince := first.toSince.trans second.toSince
  leg known still := by
    have later := first.known known
    rcases second.leg later still with same | lost
    · rw [same]
      exact (first.leg known still).imp_right fun lost =>
        ⟨lost.1, lost.2.since later second.toSince⟩
    · exact .inr lost

theorem MayLoseLegs.of_connections (same : after.connections = before.connections) :
    regime.MayLoseLegs moved before after where
  toSince := .of_connections same
  leg {id} _ _ := .inl (by cases id <;> simp only [System.connection, same])

theorem MayLoseLegs.mono {more : ConnectionId → Prop}
    (mayLoseLegs : regime.MayLoseLegs moved before after)
    (fewer : ∀ id, moved id → more id) : regime.MayLoseLegs more before after :=
  { mayLoseLegs with
    leg := fun {id} known still => mayLoseLegs.leg known fun here => still (fewer id here) }

theorem MayLoseLegs.weaken (mayLoseLegs : regime.MayLoseLegs (fun _ => False) before after)
    (moved : ConnectionId → Prop) : regime.MayLoseLegs moved before after :=
  mayLoseLegs.mono nofun

theorem ConcernsNoTask.refl (system : System Chronicle) : regime.ConcernsNoTask system system where
  toMayLoseLegs := .of_connections rfl
  count := rfl
  works := rfl
  outside := rfl

theorem Binds.trans {id : ConnectionId} (binds : regime.Binds id before middle)
    (concernsNoTask : regime.ConcernsNoTask middle after) : regime.Binds id before after where
  toMayLoseLegs := binds.toMayLoseLegs.trans (concernsNoTask.toMayLoseLegs.weaken _)
  count := concernsNoTask.count.trans binds.count
  works := concernsNoTask.works.trans binds.works
  outside := concernsNoTask.outside.trans binds.outside
  bound bare := by
    by_cases known : middle.Known id
    · rcases concernsNoTask.leg known not_false with same | lost
      · exact (binds.bound (same.symm.trans bare)).since known concernsNoTask.toSince
      · exact lost.2
    · intro _ _
      have strange := mt (System.known_congr concernsNoTask.count id).mp known
      rw [after.connection_of_not_known strange]
      rfl

namespace AddsOne

theorem trans (addsOne : regime.AddsOne before middle)
    (concernsNoTask : regime.ConcernsNoTask middle after) :
    regime.AddsOne before after where
  toMayLoseLegs := addsOne.toMayLoseLegs.trans concernsNoTask.toMayLoseLegs
  count := concernsNoTask.count.trans addsOne.count
  works := concernsNoTask.works.trans addsOne.works
  outside := concernsNoTask.outside.trans addsOne.outside
  bare := by
    have known : middle.Known (.issued before.connections.length) := by
      simp [System.Known, addsOne.count]
    rcases concernsNoTask.leg known not_false with same | lost
    · exact same.trans addsOne.bare
    · exact lost.1

theorem of_append {call : Connection} (bare : call.leg = none)
    (connections : after.connections = before.connections ++ [call])
    (works : after.works = before.works) (outside : after.outside = before.outside) :
    regime.AddsOne before after := by
  have connection (id : ConnectionId) : after.connection id =
      if id = .issued before.connections.length then call else before.connection id := by
    rw [← before.connection_append call]
    cases id <;> simp only [System.connection, connections]
  have old {id : ConnectionId} (known : before.Known id) :
      after.connection id = before.connection id := by
    rw [connection, if_neg (System.ne_next_of_known known)]
  exact {
    known := fun {id} known => by
      cases id with
      | issued serial => exact Nat.lt_of_lt_of_le known (by simp [connections])
      | outsider value => exact known
    direction := fun known => by rw [old known]
    gone := fun known gone => by rw [old known, gone]
    leg := fun known _ => .inl (by rw [old known])
    count := by simp [connections]
    works := works
    outside := outside
    bare := by rw [connection, if_pos rfl, bare] }

theorem of_joined (system : System Chronicle) (params : CallParameters) (redial : Bool)
    (plans : List (ConnectionId × DialPlan)) :
    regime.AddsOne system (system.joined (.enlisted params redial) plans) :=
  @of_append regime _ _ (.enlisted params redial) rfl rfl rfl rfl

end AddsOne

end Regime

/-- How a task stands with its client. -/
inductive ClientStatus
  | free
  | serving (id : ConnectionId)
  | finished

namespace ClientStatus

def clients : ClientStatus → List ConnectionId
  | serving id => [id]
  | _ => []

def of : Option ConnectionId → ClientStatus
  | some id => serving id
  | none => free

theorem of_ne_finished (client : Option ConnectionId) : of client ≠ finished := by
  cases client <;> exact nofun

theorem clients_of (client : Option ConnectionId) : (of client).clients = client.toList := by
  cases client <;> rfl

def Succeeds (start : ClientStatus) (before : System Chronicle) (now : ClientStatus)
    (after : System Chronicle) : Prop :=
  match start, now with
  | free, free => after.connections.length = before.connections.length
  | free, serving id =>
    id = .issued before.connections.length ∧
      before.connections.length < after.connections.length
  | serving id, serving other => other = id
  | _, finished => True
  | serving _, free | finished, _ => False

theorem succeeds_refl (status : ClientStatus) (system : System Chronicle) :
    status = finished ∨ status.Succeeds system status system := by
  cases status with
  | free => exact .inr rfl
  | serving id => exact .inr rfl
  | finished => exact .inl rfl

end ClientStatus

namespace Regime

/-- What a step of a task may do. -/
inductive Turn (regime : Regime) : ClientStatus → System Chronicle → ClientStatus →
    System Chronicle → Prop
  | stays {status before after} (fit : regime.fit after)
    (concernsNoTask : regime.ConcernsNoTask before after) :
    Turn regime status before status after
  | notes {status system} {note : Note} (plain : note.isDialing = false) :
    Turn regime status system status (system.noting note)
  | dials {id system phone plan args} (held : system.planOf? id = some plan) :
    Turn regime (.serving id) system (.serving id)
      (system.noting (.asked (.dial id phone plan.dial args)))
  | binds {id before after} (fit : regime.fit after) (binds : regime.Binds id before after) :
    Turn regime (.serving id) before .finished after
  | addsOne {before after} (fit : regime.fit after) (addsOne : regime.AddsOne before after) :
    Turn regime .free before (.serving (.issued before.connections.length)) after

/-- A client has no leg, and one task; and calls that need one have one. -/
structure Order (regime : Regime) (clients : List ConnectionId) (system : System Chronicle) :
    Prop where
  fit : regime.fit system
  known {id : ConnectionId} : id ∈ clients → system.Known id
  bare {id : ConnectionId} : id ∈ clients → (system.connection id).leg = none
  single : clients.Nodup
  served {id : ConnectionId} : system.Known id → (system.connection id).leg = none →
    id ∈ clients ∨ regime.NeedsNoDial system id

/-- What the regime comes to for single steps. -/
structure Upholds (regime : Regime) : Prop where
  aside {before after : System Chronicle} : before.SameCalls after → regime.fit before →
    regime.fit after
  ended {system : System Chronicle} {id : ConnectionId} : regime.fit system →
    (system.connection id).published.state = .disconnected → regime.NeedsNoDial system id
  watched {system : System Chronicle} {id : ConnectionId} : regime.fit system →
    (system.connection id).watched = .disconnected → regime.NeedsNoDial system id
  unplanned {system : System Chronicle} {id : ConnectionId} : regime.fit system →
    system.planOf? id = none → regime.NeedsNoDial system id
  disconnect {system : System Chronicle} (id : ConnectionId) (info : DisconnectInfo) :
    regime.fit system → (Act.setDisconnected id info).Ensures regime.wiring system
      fun _ after => regime.fit after ∧ regime.ConcernsNoTask system after ∧
        regime.NeedsNoDial after id
  select {system : System Chronicle} (id : ConnectionId) (active : Bool) : regime.fit system →
    regime.fit (system.reviseConnection id ({ · with selectionActive := active }))
  reassign {system : System Chronicle} (id : ConnectionId) (phone : PhoneId)
    (subscription : Option SubscriptionId) (technology : Technology) (carrier : CarrierConfig) :
    regime.fit system →
      (Act.reassign id phone subscription technology carrier).Ensures regime.wiring system
        fun _ after => regime.fit after ∧ regime.ConcernsNoTask system after
  bind {system : System Chronicle} (id : ConnectionId) (leg : LegId) : regime.fit system →
    system.Known id → (Act.bind id leg).Ensures regime.wiring system
      fun _ after => regime.fit after ∧ regime.Binds id system after
  enroll {system : System Chronicle} (request : CallRequest) (placement : Placement) :
    regime.fit system → (Act.enroll request placement).Ensures regime.wiring system
      fun id after => id = .issued system.connections.length ∧ regime.fit after ∧
        regime.AddsOne system after

namespace Order

variable {regime : Regime} {clients others : List ConnectionId} {system after : System Chronicle}

theorem perm (order : regime.Order clients system) (same : clients.Perm others) :
    regime.Order others system where
  fit := order.fit
  known among := order.known (same.mem_iff.mpr among)
  bare among := order.bare (same.mem_iff.mpr among)
  single := same.nodup_iff.mp order.single
  served known bare := (order.served known bare).imp_left same.mem_iff.mp

theorem leave {id : ConnectionId} (order : regime.Order (id :: clients) system)
    (needsNoDial : regime.NeedsNoDial system id) : regime.Order clients system where
  fit := order.fit
  known among := order.known (.tail _ among)
  bare among := order.bare (.tail _ among)
  single := (List.nodup_cons.mp order.single).2
  served {other} known bare := by
    rcases order.served known bare with among | free
    · rcases List.mem_cons.mp among with rfl | old
      · exact .inr needsNoDial
      · exact .inl old
    · exact .inr free

theorem untasked (order : regime.Order clients system) (fit : regime.fit after)
    (concernsNoTask : regime.ConcernsNoTask system after) : regime.Order clients after where
  fit := fit
  known among := concernsNoTask.known (order.known among)
  bare {id} among := by
    rcases concernsNoTask.leg (order.known among) not_false with same | lost
    · exact same.trans (order.bare among)
    · exact lost.1
  single := order.single
  served {id} here bare := by
    have known := (System.known_congr concernsNoTask.count id).mp here
    rcases concernsNoTask.leg known not_false with same | lost
    · refine (order.served known (same.symm.trans bare)).imp_right fun needsNoDial => ?_
      exact needsNoDial.since known concernsNoTask.toSince
    · exact .inr lost.2

theorem aside (order : regime.Order clients system) (upholds : regime.Upholds)
    (same : system.SameCalls after) : regime.Order clients after := by
  have connection (id : ConnectionId) : after.connection id = system.connection id :=
    System.connection_congr same.connections id
  have since := System.Since.of_connections same.connections
  exact {
    fit := upholds.aside same order.fit
    known := fun among => since.known (order.known among)
    bare := fun among => by rw [connection]; exact order.bare among
    single := order.single
    served := fun {id} here bare => by
      have known := (System.known_congr (congrArg List.length same.connections) id).mp here
      rw [connection] at bare
      exact (order.served known bare).imp_right fun needsNoDial => needsNoDial.since known since }

theorem noting (order : regime.Order clients system) (upholds : regime.Upholds) (note : Note) :
    regime.Order clients (system.noting note) :=
  order.aside upholds ⟨rfl, rfl, rfl, rfl⟩

end Order

namespace Turn

variable {regime : Regime} {status next start : ClientStatus}
    {before after origin : System Chronicle}

theorem order (turn : regime.Turn status before next after) (upholds : regime.Upholds)
    {others : List ConnectionId} (order : regime.Order (status.clients ++ others) before) :
    regime.Order (next.clients ++ others) after := by
  cases turn with
  | stays fit concernsNoTask => exact order.untasked fit concernsNoTask
  | notes plain => exact order.noting upholds _
  | dials held => exact order.noting upholds _
  | @binds id _ _ fit binds =>
    have apart : ∀ other ∈ others, other ≠ id := by
      rintro other among rfl
      exact (List.nodup_cons.mp order.single).1 among
    refine {
      fit := fit
      known := fun among => binds.known (order.known (.tail _ among))
      bare := fun {other} among => ?_
      single := (List.nodup_cons.mp order.single).2
      served := fun {other} here bare => ?_ }
    · rcases binds.leg (order.known (.tail _ among)) (apart other among) with same | lost
      · exact same.trans (order.bare (.tail _ among))
      · exact lost.1
    · have known := (System.known_congr binds.count other).mp here
      by_cases same : other = id
      · rw [same] at bare ⊢
        exact .inr (binds.bound bare)
      · rcases binds.leg known same with kept | lost
        · rcases order.served known (kept.symm.trans bare) with among | needsNoDial
          · exact .inl ((List.mem_cons.mp among).resolve_left same)
          · exact .inr (needsNoDial.since known binds.toSince)
        · exact .inr lost.2
  | addsOne fit addsOne =>
    have fresh : .issued before.connections.length ∉ others := by
      intro among
      exact before.not_known_next (order.known among)
    refine {
      fit := fit
      known := fun {other} among => ?_
      bare := fun {other} among => ?_
      single := List.nodup_cons.mpr ⟨fresh, order.single⟩
      served := fun {other} here bare => ?_ }
    · rcases List.mem_cons.mp among with rfl | old
      · simp [System.Known, addsOne.count]
      · exact addsOne.known (order.known old)
    · rcases List.mem_cons.mp among with rfl | old
      · exact addsOne.bare
      · rcases addsOne.leg (order.known old) not_false with same | lost
        · exact same.trans (order.bare old)
        · exact lost.1
    · by_cases new : other = .issued before.connections.length
      · rw [new]
        exact .inl List.mem_cons_self
      · have known : before.Known other := by
          cases other with
          | issued serial =>
            simp only [System.Known, addsOne.count] at here ⊢
            have differ : serial ≠ before.connections.length := fun same => new (same ▸ rfl)
            omega
          | outsider value => exact here
        rcases addsOne.leg known not_false with same | lost
        · refine (order.served known (same.symm.trans bare)).imp (.tail _) fun needsNoDial => ?_
          exact needsNoDial.since known addsOne.toSince
        · exact .inr lost.2

theorem since (turn : regime.Turn status before next after) : before.Since after := by
  cases turn with
  | stays fit concernsNoTask => exact concernsNoTask.toSince
  | notes plain => exact .noting _ _
  | dials held => exact .noting _ _
  | binds fit binds => exact binds.toSince
  | addsOne fit addsOne => exact addsOne.toSince

theorem works (turn : regime.Turn status before next after) : after.works = before.works := by
  cases turn with
  | stays fit concernsNoTask => exact concernsNoTask.works
  | notes plain => rfl
  | dials held => rfl
  | binds fit binds => exact binds.works
  | addsOne fit addsOne => exact addsOne.works

theorem succeeds (turn : regime.Turn status before next after)
    (sofar : start.Succeeds origin status before) : start.Succeeds origin next after := by
  have same (count : after.connections.length = before.connections.length)
      (kept : next = status) : start.Succeeds origin next after := by
    rw [kept]
    cases start <;> cases status <;> simp_all [ClientStatus.Succeeds]
  cases turn with
  | stays fit concernsNoTask => exact same concernsNoTask.count rfl
  | notes plain => exact same rfl rfl
  | dials held => exact same rfl rfl
  | binds fit binds => cases start <;> simp_all [ClientStatus.Succeeds]
  | addsOne fit addsOne =>
    have one := addsOne.count
    cases start <;> simp_all [ClientStatus.Succeeds]

theorem outside (turn : regime.Turn status before next after) :
    after.outside = before.outside ∨ ∃ note, after.outside = note :: before.outside := by
  cases turn with
  | stays fit concernsNoTask => exact .inl concernsNoTask.outside
  | notes plain => exact .inr ⟨_, rfl⟩
  | dials held => exact .inr ⟨_, rfl⟩
  | binds fit binds => exact .inl binds.outside
  | addsOne fit addsOne => exact .inl addsOne.outside

theorem dialing (turn : regime.Turn status before next after) {id : ConnectionId}
    {phone : PhoneId} {number : String} {args : DialArgs}
    (dials : after.outside = .asked (.dial id phone number args) :: before.outside) :
    status = .serving id ∧ (before.planOf? id).isSome = true := by
  have grown : after.outside ≠ before.outside := by
    rw [dials]
    exact List.cons_ne_self _ _
  cases turn with
  | stays fit concernsNoTask => exact absurd concernsNoTask.outside grown
  | notes plain =>
    obtain rfl := (List.cons.inj dials).1
    cases plain
  | dials held =>
    obtain ⟨⟩ := (List.cons.inj dials).1
    exact ⟨rfl, by rw [held]; rfl⟩
  | binds fit binds => exact absurd binds.outside grown
  | addsOne fit addsOne => exact absurd addsOne.outside grown

end Turn

def ClientsInOrder (regime : Regime) (status : ClientStatus) (system : System Chronicle) : Prop :=
  ∃ others, regime.Order (status.clients ++ others) system

theorem ClientsInOrder.fit {regime : Regime} {status : ClientStatus} {system : System Chronicle}
    (clientsInOrder : regime.ClientsInOrder status system) : regime.fit system := by
  obtain ⟨others, order⟩ := clientsInOrder
  exact order.fit

theorem ClientsInOrder.known {regime : Regime} {id : ConnectionId} {system : System Chronicle}
    (clientsInOrder : regime.ClientsInOrder (.serving id) system) : system.Known id := by
  obtain ⟨others, order⟩ := clientsInOrder
  exact order.known List.mem_cons_self

end Regime

namespace Program

variable {regime : Regime} {α β : Type}

/-- Every step of the program is a turn of the task, and at a wait the client is still to be
served. -/
def Keeps (regime : Regime) {α : Type} : Program Chronicle α → ClientStatus → System Chronicle →
    (α → ClientStatus → System Chronicle → Prop) → Prop
  | .done value, status, system, post => post value status system
  | .act step next, status, system, post => regime.ClientsInOrder status system →
    step.Ensures regime.wiring system fun value after => ∃ now,
      regime.Turn status system now after ∧ (next value).Keeps regime now after post
  | .wait pause next, status, system, post => status ≠ .finished ∧
    ∀ after, system.Since after →
      (∀ value, pause.ready after = some value →
        (next (some value)).Keeps regime status after post) ∧
      (next none).Keeps regime status after post

theorem keeps_pure (value : α) (status : ClientStatus) (system : System Chronicle)
    (post : α → ClientStatus → System Chronicle → Prop) :
    (pure value : Program Chronicle α).Keeps regime status system post ↔
      post value status system :=
  Iff.rfl

theorem keeps_bind (program : Program Chronicle α) (next : α → Program Chronicle β)
    (status : ClientStatus) (system : System Chronicle)
    (post : β → ClientStatus → System Chronicle → Prop) :
    (program.bind next).Keeps regime status system post ↔
      program.Keeps regime status system fun value now after =>
        (next value).Keeps regime now after post := by
  induction program generalizing status system with
  | done value => exact Iff.rfl
  | act step rest ih =>
    simp only [bind, Keeps]
    simp only [ih]
  | wait pause rest ih =>
    simp only [bind, Keeps]
    simp only [ih]

namespace Keeps

variable {status : ClientStatus} {system : System Chronicle}

theorem bind {program : Program Chronicle α} {next : α → Program Chronicle β}
    {post : β → ClientStatus → System Chronicle → Prop}
    (keeps : program.Keeps regime status system fun value now after =>
      (next value).Keeps regime now after post) :
    (program >>= next).Keeps regime status system post :=
  (keeps_bind program next status system post).mpr keeps

theorem atOnce {step : Act Chronicle α} {post : α → ClientStatus → System Chronicle → Prop}
    (ensures : regime.ClientsInOrder status system →
      step.Ensures regime.wiring system fun value after =>
      regime.fit after ∧ regime.ConcernsNoTask system after ∧ post value status after) :
    (Program.atOnce step).Keeps regime status system post := by
  intro clientsInOrder
  exact (ensures clientsInOrder).mono fun value after ⟨fit, concernsNoTask, goes⟩ =>
    ⟨status, .stays fit concernsNoTask, goes⟩

theorem get {post : System Chronicle → ClientStatus → System Chronicle → Prop}
    (goes : regime.ClientsInOrder status system → post system status system) :
    Program.system.Keeps regime status system post := by
  refine atOnce fun clientsInOrder => ?_
  rw [Act.ensures_get]
  exact ⟨clientsInOrder.fit, .refl _, goes clientsInOrder⟩

theorem call {id : ConnectionId} {post : Connection → ClientStatus → System Chronicle → Prop}
    (goes : regime.ClientsInOrder status system → post (system.connection id) status system) :
    (Program.call id).Keeps regime status system post := by
  refine atOnce fun clientsInOrder => ?_
  rw [Act.ensures_look]
  exact ⟨clientsInOrder.fit, .refl _, goes clientsInOrder⟩

theorem isLive (upholds : regime.Upholds) {id : ConnectionId}
    {post : Bool → ClientStatus → System Chronicle → Prop}
    (alive : post true status system)
    (spared : regime.NeedsNoDial system id → post false status system) :
    (Program.isLive id).Keeps regime status system post := by
  refine bind (call fun clientsInOrder => ?_)
  cases live : (system.connection id).published.state.isLive with
  | true =>
    rw [keeps_pure]
    exact alive
  | false =>
    rw [keeps_pure]
    refine spared (upholds.ended clientsInOrder.fit ?_)
    simpa [CallState.isLive] using live

theorem await {ready : System Chronicle → Option α} {channels : List Channel} {limit : Nat}
    {post : Option α → ClientStatus → System Chronicle → Prop} (waits : status ≠ .finished)
    (reached : ∀ value after, system.Since after → ready after = some value →
      post (some value) status after)
    (late : ∀ after, system.Since after → post none status after) :
    (Program.await ready channels limit).Keeps regime status system post := by
  refine bind (bind (get fun _ => ?_))
  rw [keeps_pure]
  exact ⟨waits, fun after since => ⟨fun value found => reached value after since found,
    late after since⟩⟩

theorem converse {call : Call} {post : Answer → ClientStatus → System Chronicle → Prop}
    (waits : status ≠ .finished)
    (asks : regime.Turn status system status (system.noting (.asked call)))
    (goes : ∀ answer after, system.Since after → post answer status after) :
    (Program.converse call).Keeps regime status system post := by
  rw [Program.converse, keeps_bind, Program.ask]
  intro clientsInOrder
  rw [Act.ensures_get]
  refine ⟨status, .stays clientsInOrder.fit (.refl _), fun _ => ?_⟩
  rw [Act.ensures_reviseOutside]
  refine ⟨status, asks, waits, fun after since => ⟨fun answer _ _ => ?_, fun _ => ?_⟩⟩
  · rw [Act.ensures_reviseOutside]
    refine ⟨status, .notes rfl, goes answer _ ?_⟩
    exact ((System.Since.noting _ _).trans since).trans (.noting _ _)
  · exact Act.ensures_failure _

end Keeps

end Program

def Regime.Served (regime : Regime) (_ : Unit) (status : ClientStatus) (system : System Chronicle) :
    Prop :=
  ∀ id, status = .serving id → regime.NeedsNoDial system id

theorem Regime.Served.serving {regime : Regime} {id : ConnectionId} {system : System Chronicle}
    (needsNoDial : regime.NeedsNoDial system id) : regime.Served () (.serving id) system := by
  rintro other same
  cases same
  exact needsNoDial

namespace Program

/-- A program, started at some system, takes a step from one system to another before its next
wait. -/
inductive Passes {ε : Type} (wiring : Wiring ε) :
    Program ε Unit → System ε → System ε → System ε → Prop
  | now {β : Type} {step : Act ε β} {next : β → Program ε Unit} {value : β}
      {before after : System ε} (run : step wiring before = some (value, after)) :
    Passes wiring (.act step next) before before after
  | next {β : Type} {step : Act ε β} {next : β → Program ε Unit} {value : β}
      {start middle before after : System ε} (run : step wiring start = some (value, middle))
      (rest : Passes wiring (next value) middle before after) :
    Passes wiring (.act step next) start before after
  | ready {β : Type} {pause : Wait ε β} {next : Option β → Program ε Unit} {value : β}
      {start before after : System ε} (found : pause.ready start = some value)
      (rest : Passes wiring (next (some value)) start before after) :
    Passes wiring (.wait pause next) start before after
  | late {β : Type} {pause : Wait ε β} {next : Option β → Program ε Unit}
      {start before after : System ε} (unready : pause.ready start = none)
      (past : pause.deadline.any (· ≤ start.clock) = true)
      (rest : Passes wiring (next none) start before after) :
    Passes wiring (.wait pause next) start before after

def moments {ε : Type} (wiring : Wiring ε) (system : System ε) :
    Program ε Unit → List (System ε × System ε)
  | .done _ => []
  | .act step next =>
    match step wiring system with
    | none => []
    | some (value, after) => (system, after) :: (next value).moments wiring after
  | .wait pause next =>
    match pause.ready system with
    | some value => (next (some value)).moments wiring system
    | none =>
      if pause.deadline.any (· ≤ system.clock) then (next none).moments wiring system else []

theorem passes_of_mem_moments {ε : Type} {wiring : Wiring ε} {program : Program ε Unit}
    {start before after : System ε} (among : (before, after) ∈ program.moments wiring start) :
    program.Passes wiring start before after := by
  induction program generalizing start with
  | done value => cases among
  | act step next ih =>
    rw [moments] at among
    split at among
    · cases among
    · rename_i value middle run
      rcases List.mem_cons.mp among with same | later
      · cases same
        exact .now run
      · exact .next run (ih value later)
  | wait pause next ih =>
    rw [moments] at among
    split at among
    · rename_i value found
      exact .ready found (ih _ among)
    · rename_i unready
      split at among
      · rename_i past
        exact .late unready past (ih _ among)
      · cases among

namespace Keeps

variable {regime : Regime} {status start : ClientStatus} {system origin : System Chronicle}
  {others : List ConnectionId}

theorem passes {program : Program Chronicle Unit} (upholds : regime.Upholds)
    {post : Unit → ClientStatus → System Chronicle → Prop}
    (keeps : program.Keeps regime status system post)
    (order : regime.Order (status.clients ++ others) system)
    (sofar : start.Succeeds origin status system) {before after : System Chronicle}
    (passes : program.Passes regime.wiring system before after) :
    ∃ now next, regime.Order (now.clients ++ others) before ∧
      regime.Turn now before next after ∧ start.Succeeds origin now before := by
  induction passes generalizing status with
  | now run =>
    obtain ⟨next, turn, -⟩ := keeps ⟨others, order⟩ _ _ run
    exact ⟨status, next, order, turn, sofar⟩
  | next run rest ih =>
    obtain ⟨next, turn, keeps⟩ := keeps ⟨others, order⟩ _ _ run
    exact ih keeps (turn.order upholds order) (turn.succeeds sofar)
  | ready found rest ih => exact ih ((keeps.2 _ (.refl _)).1 _ found) order sofar
  | late unready past rest ih => exact ih (keeps.2 _ (.refl _)).2 order sofar

theorem advance {program : Program Chronicle Unit} (upholds : regime.Upholds)
    (keeps : program.Keeps regime status system regime.Served)
    (order : regime.Order (status.clients ++ others) system)
    (sofar : start.Succeeds origin status system) {after : System Chronicle}
    {left : Option (Program Chronicle Unit)}
    (moved : program.advance regime.wiring system = some (after, left)) :
    ∃ now, regime.Order (now.clients ++ others) after ∧ system.Since after ∧
      after.works = system.works ∧ start.Succeeds origin now after ∧
      (left = none → regime.Served () now after) ∧
      ∀ work, left = some work → now ≠ .finished ∧
        ∀ last, after.Since last → work.Keeps regime now last regime.Served := by
  induction program generalizing status system with
  | done value =>
    obtain ⟨rfl, rfl⟩ := Prod.mk.inj (Option.some.inj moved)
    exact ⟨status, order, .refl _, rfl, sofar, fun _ => keeps, nofun⟩
  | act step next ih =>
    rw [Program.advance] at moved
    split at moved
    · cases moved
    · rename_i value middle run
      obtain ⟨now, turn, rest⟩ := keeps ⟨others, order⟩ value middle run
      obtain ⟨last, order, since, works, succeeds, finished⟩ :=
        ih value rest (turn.order upholds order) (turn.succeeds sofar) moved
      exact ⟨last, order, turn.since.trans since, works.trans turn.works, succeeds, finished⟩
  | wait pause next ih =>
    have atOnce := keeps.2 system (.refl _)
    rw [Program.advance] at moved
    split at moved
    · rename_i value ready
      exact ih _ (atOnce.1 value ready) order sofar moved
    split at moved
    · exact ih _ atOnce.2 order sofar moved
    · obtain ⟨rfl, rfl⟩ := Prod.mk.inj (Option.some.inj moved)
      refine ⟨status, order, .refl _, rfl, sofar, nofun, ?_⟩
      rintro work ⟨⟩
      refine ⟨keeps.1, fun last since => ⟨keeps.1, fun final more => ?_⟩⟩
      exact keeps.2 final (since.trans more)

theorem noted {program : Program Chronicle Unit} (upholds : regime.Upholds)
    (keeps : program.Keeps regime status system regime.Served)
    (order : regime.Order (status.clients ++ others) system)
    (sofar : start.Succeeds origin status system) {after : System Chronicle}
    {left : Option (Program Chronicle Unit)}
    (moved : program.advance regime.wiring system = some (after, left))
    {note : Note} {earlier : Chronicle} (made : note :: earlier <:+ after.outside) :
    note :: earlier <:+ system.outside ∨ ∃ before now,
      program.Passes regime.wiring system before now ∧
        before.outside = earlier ∧ now.outside = note :: earlier := by
  induction program generalizing status system with
  | done value =>
    obtain ⟨rfl, rfl⟩ := Prod.mk.inj (Option.some.inj moved)
    exact .inl made
  | act step next ih =>
    rw [Program.advance] at moved
    split at moved
    · cases moved
    · rename_i value middle run
      obtain ⟨now, turn, rest⟩ := keeps ⟨others, order⟩ value middle run
      rcases ih value rest (turn.order upholds order) (turn.succeeds sofar) moved with
        sofar | ⟨before, last, passes, first, added⟩
      · rcases turn.outside with same | ⟨other, grown⟩
        · exact .inl (same ▸ sofar)
        · rw [grown] at sofar
          rcases List.suffix_cons_iff.mp sofar with here | old
          · obtain ⟨rfl, rfl⟩ := List.cons.inj here
            exact .inr ⟨system, middle, .now run, rfl, grown⟩
          · exact .inl old
      · exact .inr ⟨before, last, .next run passes, first, added⟩
  | wait pause next ih =>
    have atOnce := keeps.2 system (.refl _)
    rw [Program.advance] at moved
    split at moved
    · rename_i value ready
      refine (ih _ (atOnce.1 value ready) order sofar moved).imp_right ?_
      rintro ⟨before, now, passes, added⟩
      exact ⟨before, now, .ready ready passes, added⟩
    rename_i unready
    split at moved
    · rename_i past
      refine (ih _ atOnce.2 order sofar moved).imp_right ?_
      rintro ⟨before, now, passes, added⟩
      exact ⟨before, now, .late unready past passes, added⟩
    · obtain ⟨rfl, rfl⟩ := Prod.mk.inj (Option.some.inj moved)
      exact .inl made

end Keeps
end Program
end Switchboard
