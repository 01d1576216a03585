import Mathlib.Data.List.Perm.Basic
import Switchboard.Proofs.Enrolling
import Switchboard.Proofs.ClientDialing

/-! The tasks of an office with the connections that they are for. The work that is left when an
attempt fails is for its connection, and a task that puts a call in the books is for that call from
then on. `Roster.run` is a run of the office, with this written beside each task. -/

namespace Switchboard

/-- A task, and the connection that it dials for, if there is one. -/
structure Assignment : Type 1 where
  client : Option ConnectionId
  work : Program Chronicle Unit

/-- An office whose tasks have their clients written beside them. -/
structure Roster : Type 1 where
  system : System Chronicle
  tasks : List Assignment := []

namespace Office

def stepUnder (wiring : Wiring Chronicle) (office : Office) (occasion : Occasion) :
    Option Office :=
  let after :=
    match occasion with
    | .start operation => some { office with tasks := office.tasks ++ [operation.program] }
    | .resume position => office.resume wiring position
    | _ =>
      (occasion.act wiring office.system).map fun (outcome : Unit × System Chronicle) =>
        { office with system := outcome.2 }
  after.map absorb

theorem step_eq_stepUnder (rounds : Nat) :
    step rounds = stepUnder (.level .silent rounds) := rfl

/-- During the occasion the system passes from one state to the next at once: a task takes a
step, or something else happens. -/
inductive Moment (wiring : Wiring Chronicle) (office : Office) :
    Occasion → System Chronicle → System Chronicle → Prop
  | task {position : Nat} {task : Program Chronicle Unit} {before after : System Chronicle}
    (found : office.tasks[position]? = some task)
    (passes : task.Passes wiring office.system before after) :
    Moment wiring office (.resume position) before after
  | world {occasion : Occasion} {after : System Chronicle}
    (run : occasion.act wiring office.system = some ((), after)) :
    Moment wiring office occasion office.system after

end Office

namespace Roster

/-- The roster without the clients. -/
def office (roster : Roster) : Office where
  system := roster.system
  tasks := roster.tasks.map (·.work)

def clients (roster : Roster) : List ConnectionId :=
  roster.tasks.filterMap (·.client)

def opening (settings : Settings) (device : Device) : Roster where
  system := { settings, device, outside := [] }

def newcomer? (before after : System Chronicle) : Option ConnectionId :=
  if before.connections.length < after.connections.length then
    some (.issued before.connections.length)
  else none

def assign (work : FollowUp) : Assignment where
  client := work.client?
  work := work.program

def absorb (roster : Roster) : Roster where
  system := { roster.system with signals := [] }
  tasks := roster.tasks ++ roster.system.works.map assign

def resume (wiring : Wiring Chronicle) (roster : Roster) (position : Nat) : Option Roster :=
  match roster.tasks[position]? with
  | none => some roster
  | some task =>
    (task.work.advance wiring roster.system).map fun outcome =>
      let client := task.client <|> newcomer? roster.system outcome.1
      { system := outcome.1
        tasks := roster.tasks.eraseIdx position ++ (outcome.2.map (Assignment.mk client)).toList }

def step (wiring : Wiring Chronicle) (roster : Roster) (occasion : Occasion) : Option Roster :=
  let after :=
    match occasion with
    | .start operation =>
      some { roster with tasks := roster.tasks ++ [Assignment.mk none operation.program] }
    | .resume position => roster.resume wiring position
    | _ =>
      (occasion.act wiring roster.system).map fun (outcome : Unit × System Chronicle) =>
        { roster with system := outcome.2 }
  after.map absorb

def run (wiring : Wiring Chronicle) (occasions : List Occasion) (roster : Roster) :
    Option Roster :=
  occasions.foldlM (step wiring) roster

theorem run_cons (wiring : Wiring Chronicle) (occasion : Occasion) (occasions : List Occasion)
    (roster : Roster) :
    roster.run wiring (occasion :: occasions) =
      (roster.step wiring occasion).bind (run wiring occasions) := rfl

section
variable (wiring : Wiring Chronicle) (roster : Roster)

theorem office_absorb : roster.absorb.office = roster.office.absorb := by
  simp only [office, absorb, Office.absorb, List.map_append, List.map_map]
  rfl

theorem office_resume (position : Nat) :
    (roster.resume wiring position).map office = roster.office.resume wiring position := by
  rw [resume, Office.resume]
  have same : roster.office.tasks[position]? = roster.tasks[position]?.map (·.work) :=
    List.getElem?_map
  rw [same]
  cases roster.tasks[position]? with
  | none => rfl
  | some task =>
    dsimp only [Option.map_some]
    rw [Option.map_map]
    congr 1
    funext ⟨after, left⟩
    cases left <;> simp [office, List.eraseIdx_eq_take_drop_succ]

theorem office_step (occasion : Occasion) :
    (roster.step wiring occasion).map office = roster.office.stepUnder wiring occasion := by
  have absorbed (now : Option Roster) :
      (now.map absorb).map office = (now.map office).map Office.absorb := by
    rw [Option.map_map, Option.map_map]
    exact congrArg (now.map ·) (funext office_absorb)
  unfold step Office.stepUnder
  dsimp only
  rw [absorbed]
  congr 1
  cases occasion with
  | start operation => simp [office]
  | resume position => exact office_resume wiring roster position
  | _ => exact Option.map_map _ _ _

theorem office_run (occasions : List Occasion) :
    (roster.run wiring occasions).map office =
      occasions.foldlM (Office.stepUnder wiring) roster.office := by
  induction occasions generalizing roster with
  | nil => rfl
  | cons occasion rest ih =>
    rw [run_cons, List.foldlM_cons, ← office_step]
    cases roster.step wiring occasion with
    | none => rfl
    | some next => exact ih next

end

end Roster

namespace ClientStatus

variable {now : ClientStatus}

theorem of_head_clients (unserved : now ≠ .finished) : ClientStatus.of now.clients.head? = now := by
  cases now with
  | finished => exact absurd rfl unserved
  | _ => rfl

theorem client_of_succeeds {client : Option ConnectionId} {before after : System Chronicle}
    (succeeds : (ClientStatus.of client).Succeeds before now after) (unserved : now ≠ .finished) :
    (client <|> Roster.newcomer? before after) = now.clients.head? := by
  cases now with
  | finished => exact absurd rfl unserved
  | serving other =>
    cases client with
    | some id =>
      obtain rfl : other = id := succeeds
      rfl
    | none =>
      obtain ⟨rfl, more⟩ : other = _ ∧ _ := succeeds
      simp [Roster.newcomer?, more, ClientStatus.clients]
  | free =>
    cases client with
    | some id => exact succeeds.elim
    | none =>
      have count : after.connections.length = before.connections.length := succeeds
      simp [Roster.newcomer?, count, ClientStatus.clients]

end ClientStatus

def Chronicle.Undialed (before after : Chronicle) : Prop :=
  ∃ notes : List Note, after = notes ++ before ∧ ∀ note ∈ notes, note.isDialing = false

namespace Chronicle.Undialed

variable {before middle after : Chronicle}

theorem of_eq (same : after = before) : before.Undialed after :=
  ⟨[], same, fun _ among => absurd among List.not_mem_nil⟩

theorem cons {note : Note} (plain : note.isDialing = false) :
    before.Undialed (note :: before) :=
  ⟨[note], rfl, fun _ among => List.mem_singleton.mp among ▸ plain⟩

theorem trans (first : before.Undialed middle) (second : middle.Undialed after) :
    before.Undialed after := by
  obtain ⟨older, rfl, plain⟩ := first
  obtain ⟨newer, rfl, others⟩ := second
  refine ⟨newer ++ older, (List.append_assoc ..).symm, fun note among => ?_⟩
  exact (List.mem_append.mp among).elim (others note) (plain note)

theorem ne_cons (undialed : before.Undialed after) {note : Note}
    (dialing : note.isDialing = true) : after ≠ note :: before := by
  obtain ⟨notes, rfl, plain⟩ := undialed
  intro same
  obtain rfl : notes = [note] := List.append_cancel_right same
  rw [plain note List.mem_cons_self] at dialing
  cases dialing

theorem suffix (undialed : before.Undialed after) {note : Note} {earlier : Chronicle}
    (dialing : note.isDialing = true) (had : note :: earlier <:+ after) :
    note :: earlier <:+ before := by
  obtain ⟨notes, rfl, plain⟩ := undialed
  induction notes with
  | nil => exact had
  | cons other rest ih =>
    rcases List.suffix_cons_iff.mp had with same | within
    · obtain ⟨rfl, -⟩ := List.cons.inj same
      rw [plain note List.mem_cons_self] at dialing
      cases dialing
    · exact ih (fun note among => plain note (.tail _ among)) within

end Chronicle.Undialed

namespace Regime

variable (regime : Regime)

structure LeavesWork (left : List FollowUp) (before after : System Chronicle) : Prop
    extends regime.MayLoseLegs (· ∈ left.filterMap FollowUp.client?) before after where
  fit : regime.fit after
  works : after.works = before.works ++ left
  single : (left.filterMap FollowUp.client?).Nodup
  lost {id : ConnectionId} : id ∈ left.filterMap FollowUp.client? →
    before.Known id ∧ (before.connection id).leg.isSome = true ∧
      (after.connection id).leg = none
  fresh {id : ConnectionId} : ¬ before.Known id → after.Known id →
    (after.connection id).leg = none → regime.NeedsNoDial after id
  undialed : before.outside.Undialed after.outside

structure KeptThroughout : Prop extends regime.Upholds where
  enter {system : System Chronicle} (params : CallParameters) : regime.fit system →
    params.direction = .incoming →
    (do
      Act.track (.connection (.issued system.connections.length))
      Act.announce (.connectionAdded (.issued system.connections.length))).Ensures regime.wiring
        (system.joined (.enlisted params false) []) fun _ after => regime.fit after ∧
          regime.ConcernsNoTask (system.joined (.enlisted params false) []) after
  legEvent {system : System Chronicle} (id : ConnectionId) (generation : Nat)
    (event : RadioEvent) : regime.fit system →
      (Act.legEvent id generation event).Ensures regime.wiring system fun _ after =>
        ∃ left, regime.LeavesWork left system after
  watch {system : System Chronicle} (id : ConnectionId) (listener : Listener) :
    regime.fit system → (Act.addListener id listener).Ensures regime.wiring system fun _ after =>
      regime.fit after ∧ regime.ConcernsNoTask system after

variable {regime}

namespace LeavesWork

variable {left : List FollowUp} {before middle after : System Chronicle}

theorem of_concernsNoTask (concernsNoTask : regime.ConcernsNoTask before after)
    (fit : regime.fit after) :
    regime.LeavesWork [] before after where
  toMayLoseLegs := concernsNoTask.toMayLoseLegs.weaken _
  fit := fit
  works := concernsNoTask.works.trans (List.append_nil _).symm
  single := List.nodup_nil
  lost := nofun
  fresh {id} strange here _ := absurd ((System.known_congr concernsNoTask.count id).mp here) strange
  undialed := .of_eq concernsNoTask.outside

theorem after_aside (leavesWork : regime.LeavesWork left middle after)
    (same : middle.connections = before.connections) (works : middle.works = before.works)
    (undialed : before.outside.Undialed middle.outside) :
    regime.LeavesWork left before after := by
  have connection (id : ConnectionId) : middle.connection id = before.connection id :=
    System.connection_congr same id
  have known (id : ConnectionId) := System.known_congr (congrArg List.length same) id
  exact {
    toSince := (System.Since.of_connections same).trans leavesWork.toSince
    leg := fun {id} here still => by
      rw [← connection]
      exact leavesWork.leg ((known id).mpr here) still
    fit := leavesWork.fit
    works := by rw [leavesWork.works, works]
    single := leavesWork.single
    lost := fun {id} among => by
      rw [← connection, ← known]
      exact leavesWork.lost among
    fresh := fun {id} strange => leavesWork.fresh (mt (known id).mp strange)
    undialed := undialed.trans leavesWork.undialed }

theorem untasked (leavesWork : regime.LeavesWork left before middle)
    (concernsNoTask : regime.ConcernsNoTask middle after)
    (fit : regime.fit after) : regime.LeavesWork left before after where
  toMayLoseLegs := leavesWork.toMayLoseLegs.trans (concernsNoTask.toMayLoseLegs.weaken _)
  fit := fit
  works := concernsNoTask.works.trans leavesWork.works
  single := leavesWork.single
  lost {id} among := by
    obtain ⟨known, held, bare⟩ := leavesWork.lost among
    refine ⟨known, held, ?_⟩
    rcases concernsNoTask.leg (leavesWork.known known) not_false with same | lost
    · exact same.trans bare
    · exact lost.1
  fresh {id} strange here bare := by
    have known := (System.known_congr concernsNoTask.count id).mp here
    rcases concernsNoTask.leg known not_false with same | lost
    · exact (leavesWork.fresh strange known (same.symm.trans bare)).since known
        concernsNoTask.toSince
    · exact lost.2
  undialed := concernsNoTask.outside ▸ leavesWork.undialed

theorem of_arrival (addsOne : regime.AddsOne before middle)
    (binds : regime.Binds (.issued before.connections.length) middle after)
    (fit : regime.fit after) : regime.LeavesWork [] before after where
  toSince := addsOne.toSince.trans binds.toSince
  leg {id} known _ := by
    have other := System.ne_next_of_known known
    have later := addsOne.known known
    rcases binds.leg later other with same | lost
    · rw [same]
      exact (addsOne.leg known not_false).imp_right fun lost =>
        ⟨lost.1, lost.2.since later binds.toSince⟩
    · exact .inr lost
  fit := fit
  works := (binds.works.trans addsOne.works).trans (List.append_nil _).symm
  single := List.nodup_nil
  lost := nofun
  fresh {id} strange here bare := by
    have new : id = .issued before.connections.length := by
      cases id with
      | issued serial =>
        simp only [System.Known, binds.count, addsOne.count] at strange here
        rw [ConnectionId.issued.injEq]
        omega
      | outsider value => exact here.elim
    rw [new] at bare ⊢
    exact binds.bound bare
  undialed := .of_eq (binds.outside.trans addsOne.outside)

end LeavesWork

namespace KeptThroughout

variable {system after : System Chronicle} (keptThroughout : regime.KeptThroughout)
    (fit : regime.fit system)
include keptThroughout fit

theorem apart (same : system.SameCalls after) (works : after.works = system.works)
    (undialed : system.outside.Undialed after.outside) :
    ∃ left, regime.LeavesWork left system after :=
  ⟨[],
    (LeavesWork.of_concernsNoTask (.refl after) (keptThroughout.aside same fit)).after_aside
      same.connections
    works undialed⟩

theorem ring (phone : PhoneId) (view : RadioSnapshot) :
    (Occasion.ring phone view).act.Ensures regime.wiring system fun _ after =>
      ∃ left, regime.LeavesWork left system after := by
  refine Occasion.ensures_ring (apart keptThroughout fit ⟨rfl, rfl, rfl, rfl⟩ rfl (.of_eq rfl))
    fun slot => ?_
  let id := ConnectionId.issued system.connections.length
  let leg : LegId := ⟨system.legs.length⟩
  let gained := system.gained view (.rang id leg)
  let params := system.callIn slot view
  have same : system.SameCalls gained := ⟨rfl, rfl, rfl, rfl⟩
  have still := keptThroughout.aside same fit
  rw [Act.ensures_bind]
  refine (@Act.ensures_register_newest regime.wiring gained (.create params) [] rfl _).mpr ?_
  rw [← Act.ensures_bind]
  refine (keptThroughout.enter params still rfl).mono ?_
  rintro _ now ⟨fit, concernsNoTask⟩
  have addsOne : regime.AddsOne gained now :=
    (AddsOne.of_joined gained params false []).trans concernsNoTask
  have known : now.Known id := by simp [System.Known, addsOne.count, gained, System.gained, id]
  refine (keptThroughout.bind id leg fit known).mono ?_
  rintro _ after ⟨last, binds⟩
  exact ⟨[], (LeavesWork.of_arrival addsOne binds last).after_aside rfl rfl (.cons rfl)⟩

theorem follows (follower : Option Bridge) (event : RadioEvent) :
    (do
      if let some bridge := follower then
        Act.legEvent bridge.connection bridge.generation event : Act Chronicle Unit).Ensures
          regime.wiring system fun _ after => ∃ left, regime.LeavesWork left system after := by
  cases follower with
  | none =>
    exact (Act.ensures_pure _ _).mpr
      (apart keptThroughout fit ⟨rfl, rfl, rfl, rfl⟩ rfl (.of_eq rfl))
  | some bridge => exact keptThroughout.legEvent bridge.connection bridge.generation event fit

theorem report (leg : LegId) (event : RadioEvent) :
    (Act.report leg event).Ensures regime.wiring system fun _ after =>
      ∃ left, regime.LeavesWork left system after := by
  simp only [Act.report, Act.ensures_bind, Act.ensures_modify, Act.ensures_get]
  let shown := system.reviseLeg leg fun leg => { leg with view := leg.view.apply event }
  have same : system.SameCalls shown := ⟨rfl, rfl, rfl, rfl⟩
  have still := keptThroughout.aside same fit
  refine (follows keptThroughout still (shown.leg leg).attached event).mono ?_
  rintro _ after ⟨left, leavesWork⟩
  exact ⟨left, leavesWork.after_aside rfl rfl (.of_eq rfl)⟩

theorem reportLate (leg : LegId) (event : RadioEvent) :
    (Act.reportLate leg event).Ensures regime.wiring system fun _ after =>
      ∃ left, regime.LeavesWork left system after := by
  rw [Act.reportLate, Act.ensures_bind, Act.ensures_get]
  cases (system.leg leg).last with
  | none =>
    rw [Act.ensures_pure]
    exact apart keptThroughout fit ⟨rfl, rfl, rfl, rfl⟩ rfl (.of_eq rfl)
  | some bridge =>
    rw [Act.ensures_bind]
    refine (keptThroughout.legEvent _ _ event fit).mono fun _ after leavesWork => ?_
    rw [Act.ensures_pure]
    exact leavesWork

theorem occasion (occasion : Occasion) :
    occasion.act.Ensures regime.wiring system fun _ after =>
      ∃ left, regime.LeavesWork left system after := by
  have quiet : ∃ left, regime.LeavesWork left system system :=
    apart keptThroughout fit ⟨rfl, rfl, rfl, rfl⟩ rfl (.of_eq rfl)
  have noted (leg : LegId) (event : RadioEvent) :
      regime.fit (system.noting (.reported leg event)) := by
    have same : system.SameCalls (system.noting (.reported leg event)) := ⟨rfl, rfl, rfl, rfl⟩
    exact keptThroughout.aside same fit
  cases occasion with
  | start operation => exact (Act.ensures_pure _ _).mpr quiet
  | resume position => exact (Act.ensures_pure _ _).mpr quiet
  | ring phone view => exact ring keptThroughout fit phone view
  | report leg event =>
    simp only [Occasion.act, Act.ensures_bind, Act.ensures_reviseOutside]
    refine (report keptThroughout (noted leg event) leg event).mono ?_
    rintro _ after ⟨left, leavesWork⟩
    exact ⟨left, leavesWork.after_aside rfl rfl (.cons rfl)⟩
  | reportLate leg event =>
    simp only [Occasion.act, Act.ensures_bind, Act.ensures_reviseOutside, Act.ensures_pure]
    refine (reportLate keptThroughout (noted leg event) leg event).mono ?_
    rintro _ after ⟨left, leavesWork⟩
    exact ⟨left, leavesWork.after_aside rfl rfl (.cons rfl)⟩
  | grant ticket view =>
    exact Occasion.ensures_grant quiet fun _ _ =>
      apart keptThroughout fit ⟨rfl, rfl, rfl, rfl⟩ rfl (.cons rfl)
  | reply ticket content =>
    exact Occasion.ensures_reply quiet fun _ =>
      apart keptThroughout fit ⟨rfl, rfl, rfl, rfl⟩ rfl (.cons rfl)
  | alter change =>
    rw [Occasion.act, Act.ensures_reviseDevice]
    exact apart keptThroughout fit ⟨rfl, rfl, rfl, rfl⟩ rfl (.of_eq rfl)
  | pass milliseconds =>
    rw [Occasion.act, Act.ensures_modify]
    exact apart keptThroughout fit ⟨rfl, rfl, rfl, rfl⟩ rfl (.of_eq rfl)
  | watch id name =>
    simp only [Occasion.act, Act.ensures_bind, Act.ensures_pure]
    refine (keptThroughout.watch id _ fit).mono ?_
    rintro _ after ⟨last, concernsNoTask⟩
    exact ⟨[], .of_concernsNoTask concernsNoTask last⟩

end KeptThroughout

theorem LeavesWork.order {left : List FollowUp} {clients : List ConnectionId}
    {before after : System Chronicle} (leavesWork : regime.LeavesWork left before after)
    (order : regime.Order clients before) :
    regime.Order (clients ++ left.filterMap FollowUp.client?) after where
  fit := leavesWork.fit
  known among := by
    rcases List.mem_append.mp among with old | new
    · exact leavesWork.known (order.known old)
    · exact leavesWork.known (leavesWork.lost new).1
  bare {id} among := by
    by_cases new : id ∈ left.filterMap FollowUp.client?
    · exact (leavesWork.lost new).2.2
    · have old := (List.mem_append.mp among).resolve_right new
      rcases leavesWork.leg (order.known old) new with same | lost
      · exact same.trans (order.bare old)
      · exact lost.1
  single := by
    refine List.nodup_append.mpr ⟨order.single, leavesWork.single, ?_⟩
    rintro id old other new rfl
    have held := (leavesWork.lost new).2.1
    rw [order.bare old] at held
    cases held
  served {id} known bare := by
    by_cases new : id ∈ left.filterMap FollowUp.client?
    · exact .inl (List.mem_append_right _ new)
    by_cases old : before.Known id
    · rcases leavesWork.leg old new with same | lost
      · refine (order.served old (same.symm.trans bare)).imp (List.mem_append_left _)
          fun needsNoDial => ?_
        exact needsNoDial.since old leavesWork.toSince
      · exact .inr lost.2
    · exact .inr (leavesWork.fresh old known bare)

end Regime

/-- Every task serves its client whenever it goes on, and clients and system are in order. -/
structure ClientsServed (regime : Regime) (roster : Roster) : Prop where
  order : regime.Order roster.clients roster.system
  works : roster.system.works = []
  ready {task : Assignment} : task ∈ roster.tasks → ∀ after, roster.system.Since after →
    task.work.Keeps regime (.of task.client) after regime.Served

namespace ClientsServed

variable {regime : Regime} {roster after : Roster}

theorem parts (clientsServed : ClientsServed regime roster) {position : Nat} {task : Assignment}
    (found : roster.tasks[position]? = some task) :
    regime.Order ((ClientStatus.of task.client).clients ++
      (roster.tasks.eraseIdx position).filterMap (·.client)) roster.system := by
  obtain ⟨inside, rfl⟩ := List.getElem?_eq_some_iff.mp found
  have perm := (List.getElem_cons_eraseIdx_perm inside).filterMap (·.client)
  rw [List.filterMap_cons] at perm
  rw [ClientStatus.clients_of]
  refine clientsServed.order.perm (perm.symm.trans ?_)
  cases roster.tasks[position].client <;> exact .refl _

theorem absorb (upholds : regime.Upholds)
    (order : regime.Order (roster.clients ++ roster.system.works.filterMap FollowUp.client?)
      roster.system)
    (ready : ∀ task ∈ roster.tasks, ∀ after, roster.system.Since after →
      task.work.Keeps regime (.of task.client) after regime.Served) :
    ClientsServed regime roster.absorb where
  order := by
    have clients : roster.absorb.clients =
        roster.clients ++ roster.system.works.filterMap FollowUp.client? := by
      rw [Roster.absorb, Roster.clients, List.filterMap_append, List.filterMap_map]
      rfl
    rw [clients]
    exact order.aside upholds ⟨rfl, rfl, rfl, rfl⟩
  works := rfl
  ready {task} among after since := by
    rcases List.mem_append.mp among with old | new
    · have later : roster.system.Since roster.absorb.system := .of_connections rfl
      exact ready task old after (later.trans since)
    · obtain ⟨work, -, rfl⟩ := List.mem_map.mp new
      exact work.keeps upholds after

theorem resume (clientsServed : ClientsServed regime roster) (upholds : regime.Upholds)
    {position : Nat}
    (moved : roster.resume regime.wiring position = some after) :
    regime.Order after.clients after.system ∧ after.system.works = [] ∧
      ∀ task ∈ after.tasks, ∀ last, after.system.Since last →
        task.work.Keeps regime (.of task.client) last regime.Served := by
  rw [Roster.resume] at moved
  split at moved
  · cases moved
    exact ⟨clientsServed.order, clientsServed.works, fun _ among => clientsServed.ready among⟩
  rename_i task found
  obtain ⟨⟨system, left⟩, advanced, rfl⟩ := Option.map_eq_some_iff.mp moved
  let others := roster.tasks.eraseIdx position
  have start := (ClientStatus.succeeds_refl (.of task.client) roster.system).resolve_left
    (ClientStatus.of_ne_finished task.client)
  have keeps := clientsServed.ready (List.mem_of_getElem? found) roster.system (.refl _)
  obtain ⟨now, order, since, works, succeeds, finished, waits⟩ :=
    keeps.advance upholds (clientsServed.parts found) start advanced
  have remain (other : Assignment) (among : other ∈ others) (last : System Chronicle)
      (more : system.Since last) :
      other.work.Keeps regime (.of other.client) last regime.Served :=
    clientsServed.ready (List.mem_of_mem_eraseIdx among) last (since.trans more)
  cases left with
  | none =>
    have tasks : others ++ ((none : Option (Program Chronicle Unit)).map
        (Assignment.mk (task.client <|> Roster.newcomer? roster.system system))).toList = others :=
      List.append_nil _
    dsimp only [Roster.clients]
    rw [tasks]
    refine ⟨?_, works.trans clientsServed.works, remain⟩
    cases now with
    | serving id => exact order.leave (finished rfl id rfl)
    | free => exact order
    | finished => exact order
  | some work =>
    obtain ⟨unserved, keeps⟩ := waits work rfl
    dsimp only [Roster.clients, Option.map_some, Option.toList_some]
    rw [ClientStatus.client_of_succeeds succeeds unserved]
    refine ⟨?_, works.trans clientsServed.works, fun other among last since => ?_⟩
    · rw [List.filterMap_append]
      refine order.perm (List.perm_append_comm.trans ?_)
      cases now <;> exact .refl _
    · rcases List.mem_append.mp among with old | new
      · exact remain other old last since
      · obtain rfl := List.mem_singleton.mp new
        rw [ClientStatus.of_head_clients unserved]
        exact keeps last since

theorem act (clientsServed : ClientsServed regime roster) (upholds : regime.Upholds)
    {step : Act Chronicle Unit}
    (weathered : step.Ensures regime.wiring roster.system fun _ after =>
      ∃ left, regime.LeavesWork left roster.system after)
    {value : Unit × System Chronicle} (run : step regime.wiring roster.system = some value) :
    ClientsServed regime (Roster.absorb { roster with system := value.2 }) := by
  obtain ⟨left, leavesWork⟩ := weathered value.1 value.2 run
  refine @absorb regime { roster with system := value.2 } upholds ?_ ?_
  · dsimp only
    rw [leavesWork.works, clientsServed.works]
    exact leavesWork.order clientsServed.order
  · intro task among after since
    exact clientsServed.ready among after (leavesWork.toSince.trans since)

theorem step (clientsServed : ClientsServed regime roster) (keptThroughout : regime.KeptThroughout)
    {occasion : Occasion}
    (moved : roster.step regime.wiring occasion = some after) : ClientsServed regime after := by
  unfold Roster.step at moved
  cases occasion with
  | start operation =>
    cases moved
    refine absorb keptThroughout.toUpholds ?_ fun task among after since => ?_
    · dsimp only [Roster.clients]
      rw [clientsServed.works, List.filterMap_append]
      simpa [Roster.clients] using clientsServed.order
    · rcases List.mem_append.mp among with old | new
      · exact clientsServed.ready old after since
      · obtain rfl := List.mem_singleton.mp new
        exact operation.keeps keptThroughout.toUpholds after
  | resume position =>
    obtain ⟨now, resumed, rfl⟩ := Option.map_eq_some_iff.mp moved
    obtain ⟨order, works, ready⟩ := clientsServed.resume keptThroughout.toUpholds resumed
    refine absorb keptThroughout.toUpholds ?_ ready
    rw [works]
    simpa using order
  | _ =>
    obtain ⟨now, mapped, rfl⟩ := Option.map_eq_some_iff.mp moved
    obtain ⟨value, run, rfl⟩ := Option.map_eq_some_iff.mp mapped
    exact clientsServed.act keptThroughout.toUpholds
      (keptThroughout.occasion clientsServed.order.fit _) run

theorem opening (settings : Settings) (device : Device)
    (fit : regime.fit (Roster.opening settings device).system) :
    ClientsServed regime (.opening settings device) where
  order := {
    fit := fit
    known := nofun
    bare := nofun
    single := List.nodup_nil
    served := fun {id} known _ => by
      cases id with
      | issued serial => exact absurd known (Nat.not_lt_zero serial)
      | outsider value => exact known.elim }
  works := rfl
  ready := nofun

theorem run (clientsServed : ClientsServed regime roster) (keptThroughout : regime.KeptThroughout)
    {occasions : List Occasion} (moved : roster.run regime.wiring occasions = some after) :
    ClientsServed regime after := by
  induction occasions generalizing roster with
  | nil =>
    cases moved
    exact clientsServed
  | cons occasion rest ih =>
    rw [Roster.run_cons] at moved
    obtain ⟨next, stepped, moved⟩ := Option.bind_eq_some_iff.mp moved
    exact ih (clientsServed.step keptThroughout stepped) moved

theorem dialing (clientsServed : ClientsServed regime roster)
    (keptThroughout : regime.KeptThroughout)
    {occasion : Occasion}
    {before after : System Chronicle}
    (moment : roster.office.Moment regime.wiring occasion before after)
    {id : ConnectionId} {phone : PhoneId} {number : String} {args : DialArgs}
    (dials : after.outside = .asked (.dial id phone number args) :: before.outside) :
    regime.fit before ∧ (before.planOf? id).isSome = true ∧ (before.connection id).leg = none ∧
      ∃ position task, occasion = .resume position ∧ roster.tasks[position]? = some task ∧
        (task.client = some id ∨ task.client = none ∧ ¬ roster.system.Known id) := by
  cases moment with
  | @task position work _ _ found passes =>
    have listed : roster.office.tasks[position]? = roster.tasks[position]?.map (·.work) :=
      List.getElem?_map
    rw [listed] at found
    obtain ⟨task, here, rfl⟩ := Option.map_eq_some_iff.mp found
    have start := (ClientStatus.succeeds_refl (.of task.client) roster.system).resolve_left
      (ClientStatus.of_ne_finished task.client)
    have keeps := clientsServed.ready (List.mem_of_getElem? here) roster.system (.refl _)
    obtain ⟨now, next, order, turn, succeeds⟩ :=
      keeps.passes keptThroughout.toUpholds (clientsServed.parts here) start passes
    obtain ⟨rfl, planned⟩ := turn.dialing dials
    refine ⟨order.fit, planned, order.bare List.mem_cons_self, position, task, rfl, here, ?_⟩
    cases own : task.client with
    | some client =>
      rw [own] at succeeds
      obtain rfl : id = client := succeeds
      exact .inl rfl
    | none =>
      rw [own] at succeeds
      obtain ⟨rfl, -⟩ : id = _ ∧ _ := succeeds
      exact .inr ⟨rfl, roster.system.not_known_next⟩
  | world run =>
    obtain ⟨left, leavesWork⟩ := keptThroughout.occasion clientsServed.order.fit occasion _ _ run
    exact absurd dials (leavesWork.undialed.ne_cons rfl)

theorem moment_of_dial (clientsServed : ClientsServed regime roster)
    (keptThroughout : regime.KeptThroughout)
    {occasion : Occasion} (moved : roster.step regime.wiring occasion = some after) {note : Note}
    {earlier : Chronicle} (dialing : note.isDialing = true)
    (made : note :: earlier <:+ after.system.outside) :
    note :: earlier <:+ roster.system.outside ∨ ∃ before now,
      roster.office.Moment regime.wiring occasion before now ∧
        before.outside = earlier ∧ now.outside = note :: earlier := by
  unfold Roster.step at moved
  obtain ⟨last, happened, rfl⟩ := Option.map_eq_some_iff.mp moved
  cases occasion with
  | start operation =>
    cases happened
    exact .inl made
  | resume position =>
    change roster.resume regime.wiring position = some last at happened
    rw [Roster.resume] at happened
    split at happened
    · cases happened
      exact .inl made
    rename_i task found
    obtain ⟨⟨system, left⟩, advanced, rfl⟩ := Option.map_eq_some_iff.mp happened
    have start := (ClientStatus.succeeds_refl (.of task.client) roster.system).resolve_left
      (ClientStatus.of_ne_finished task.client)
    have keeps := clientsServed.ready (List.mem_of_getElem? found) roster.system (.refl _)
    have noted :=
      keeps.noted keptThroughout.toUpholds (clientsServed.parts found) start advanced made
    refine noted.imp_right ?_
    rintro ⟨before, now, passes, first, last⟩
    have listed : roster.office.tasks[position]? = some task.work :=
      List.getElem?_map.trans (congrArg (Option.map (·.work)) found)
    exact ⟨before, now, .task listed passes, first, last⟩
  | _ =>
    obtain ⟨value, run, rfl⟩ := Option.map_eq_some_iff.mp happened
    obtain ⟨left, leavesWork⟩ := keptThroughout.occasion clientsServed.order.fit _ _ _ run
    exact .inl (leavesWork.undialed.suffix dialing made)

end ClientsServed
end Switchboard
