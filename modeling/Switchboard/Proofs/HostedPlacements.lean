import Switchboard.Proofs.Agreement
import Switchboard.Proofs.HostedPrograms

/-! A placement run among the tasks of an office. What a program guarantees whatever others do holds
where it is hosted, and every step, the program's own and the office's, is a turn of the books
(`Office.AllGuarantee.hosts`). An office that is asked to place a call hosts the placement
(`Office.place_started`). If that fails it leaves nothing behind
(`Office.failed_placement_leaves_nothing`), and if it succeeds the call is up, unless its leg was
over before it was bound (`Office.placed_call_is_up_iff`). -/

namespace Switchboard

variable {rounds : Nat} {α β : Type}

namespace Office

variable {office next last : Office} {past : Trace} {program : Program Chronicle α} {value : α}
  {history more : History} {post : α → ProgramPoint Unit → Prop} {parts : List (List Occasion)}

theorem AllGuarantee.elsewhere {good : History → System Chronicle → System Chronicle → Prop}
    (allGuarantee : office.AllGuarantee rounds HoldsNothing good past) {trace : Trace}
    {later : System Chronicle}
    (reaches : Reaches rounds office.system trace later) :
    AllGuarantee rounds HoldsNothing good (past ++ trace) { office with system := later } := by
  obtain ⟨places, tasks, waits, -⟩ := allGuarantee
  refine ⟨places.map (Place.onward trace), ?_, AllGuarantee.onward waits reaches, trivial⟩
  simpa [Place.onward, Function.comp_def] using tasks

/-- What is true of a program whatever others do is true of it at an office, and every step is a
turn of the books. -/
theorem AllGuarantee.hosts
    (allGuarantee : office.AllGuarantee rounds HoldsNothing
      (fun _ before after => before.Turn after) past)
    (busy : office.Busy rounds) (balanced : office.system.Balanced)
    (takesOnly : program.TakesOnly (.level .silent rounds) (TaskStep fun _ => True) office.system)
    (turnsBooks : program.TurnsBooks rounds post ⟨(), history, office.system⟩)
    (hosted : program.hosted rounds office parts = some (more, value, last)) :
    Reaches rounds office.system more.steps last.system ∧ more.steps.Turns ∧
      post value ⟨(), history ++ more, last.system⟩ := by
  induction program generalizing office parts history more past with
  | done result =>
    cases hosted
    refine ⟨.refl, fun _ none => absurd none List.not_mem_nil, ?_⟩
    rw [List.append_nil]
    exact turnsBooks
  | act step next ih =>
    rw [Program.hosted] at hosted
    obtain ⟨⟨result, after⟩, run, hosted⟩ := Option.bind_eq_some_iff.mp hosted
    obtain ⟨⟨rest, final⟩, onward, same⟩ := Option.map_eq_some_iff.mp hosted
    cases same
    obtain ⟨turn, turnsBooks⟩ := turnsBooks balanced result after run
    have happens := Happens.taskStep takesOnly.1 run
    have reaches := Reaches.single happens
    obtain ⟨sofar, turns, ends⟩ := ih result (allGuarantee.elsewhere reaches) busy
      (balanced.happens happens) (takesOnly.2 result after run) turnsBooks onward
    refine ⟨reaches.trans sofar, List.forall_mem_cons.mpr ⟨turn, turns⟩, ?_⟩
    simpa [ProgramPoint.own] using ends
  | wait pause next ih =>
    obtain ⟨share, -, waits⟩ := turnsBooks balanced
    have onward {more : Trace} {later : System Chronicle}
        (reaches : Reaches rounds office.system more later) (lapsed : pause.isOver later = true) :
        (next (pause.ready later)).TurnsBooks rounds post
          (ProgramPoint.meanwhile ⟨(), history, office.system⟩ () more later) := by
      obtain ⟨ready, late⟩ := waits () more later reaches trivial
      cases found : pause.ready later with
      | some result => exact ready result found
      | none => exact late (by simpa [Wait.isOver, found] using lapsed)
    cases lapsed : pause.isOver office.system with
    | true =>
      rw [Program.hosted_over lapsed] at hosted
      have here := onward .refl lapsed
      exact ih _ allGuarantee busy balanced (takesOnly _ _)
        (by simpa [ProgramPoint.meanwhile] using here) hosted
    | false =>
      have parked : (Program.wait pause next).goes office.system = false := lapsed
      obtain ⟨occasions, rest, later, rfl, reached, goes⟩ := Program.parked_of_hosted parked hosted
      rw [Program.hosted_waiting parked reached goes, Program.hosted_over goes] at hosted
      obtain ⟨⟨after, outcome⟩, hosted, same⟩ := Option.map_eq_some_iff.mp hosted
      cases same
      obtain ⟨reaches, still⟩ := busy.absorb.run (Reaches.refl.absorb) reached
      obtain ⟨turned, allGuarantee⟩ :=
        (allGuarantee.absorb (OfficeContract.turnsBooks rounds)).turns busy.absorb
        balanced.absorb reached
      obtain ⟨sofar, turns, ends⟩ :=
        ih _ allGuarantee still (balanced.reaches reaches) (takesOnly _ _)
        (onward reaches goes) hosted
      rw [History.steps_append, History.steps_of]
      refine ⟨reaches.trans sofar, fun step among => ?_, ?_⟩
      · exact (List.mem_append.mp among).elim (turned step) (turns step)
      · simpa [ProgramPoint.meanwhile] using ends

end Office

namespace System

/-- Nothing is left of the call but that it has been added and removed. -/
structure IsRidOf (system : System Chronicle) (id : ConnectionId) : Prop where
  destroyed : (system.connection id).destroyed = true
  bare : (system.connection id).leg = none
  listed : id ∉ system.registry.connections
  plans (plan : DialPlan) : (id, plan) ∉ system.registry.plans
  roles (role : EmergencyRole) : system.registry.roles.holder role ≠ some id
  tracked : .connection id ∉ system.tracked
  retry {queue : RetryQueue} : system.registry.retry = some queue → queue.owner ≠ id
  session : system.registry.session.active ≠ some id
  notices : system.noticesOf id = [.connectionRemoved id, .connectionAdded id]

theorem Consistent.isRidOf {system : System Chronicle} {id : ConnectionId}
    (consistent : system.Consistent none) (balanced : system.Balanced) (known : system.Known id)
    (gone : (system.connection id).destroyed = true) : system.IsRidOf id := by
  have agrees := consistent.agrees balanced
  have listed : id ∉ system.registry.connections := fun among => by
    have alive := ((agrees.registered id).mp among).2
    rw [gone] at alive
    cases alive
  exact {
    destroyed := gone
    bare := consistent.bare id gone
    listed
    plans := fun plan among => listed (agrees.plans among)
    roles := fun role held => listed (agrees.roles held).1
    tracked := fun among => by
      have among := agrees.tracked.subset among
      simp_all
    retry := fun held same => listed (same ▸ agrees.retry held)
    session := fun held => listed (agrees.session held)
    notices := agrees.gone known listed }

end System

namespace Office

variable {settings : Settings} {device : Device} {occasions : List Occasion} {office last : Office}
  {request : CallRequest} {parts : List (List Occasion)} {history : History}

/-- An office that is asked to place a call is still about it in the end, or it has hosted the
placement. -/
theorem place_started {later : List Occasion}
    (reached : (opening settings device).run rounds occasions = some office)
    (placed : office.run rounds (.start (.place request) :: later) = some last) :
    (∃ (rest : Office) (position : Nat) (left : Program Chronicle Program.Placed),
        position ≤ rest.tasks.length ∧ last = rest.beside position left.task) ∨
      office.Hosts rounds (Program.place openWorld request) last
        (office.trace rounds (.start (.place request) :: later)) := by
  have settled : office.absorb = office := run_settled rfl reached
  have started : office.step rounds (.start (.place request)) =
      some (office.beside office.tasks.length (Program.place openWorld request).task) := by
    change some (absorb ⟨office.system, office.tasks ++ [(Program.place openWorld request).task]⟩) =
      _
    rw [absorb_parked, settled]
  rw [run_cons, started] at placed
  rw [trace_cons started]
  exact run_beside settled Nat.le.refl placed

theorem place_hosted {answer : Program.Placed}
    (reached : (opening settings device).run rounds occasions = some office)
    (hosted : (Program.place openWorld request).hosted rounds office parts =
      some (history, answer, last)) :
    Reaches rounds office.system history.steps last.system ∧ history.steps.Turns ∧
      ProgramPoint.Places [] answer ⟨(), history, last.system⟩ := by
  have idle : (opening settings device).Busy rounds := .opening settings device
  have balanced := System.Balanced.opening settings device
  obtain ⟨reaches, busy⟩ := idle.run .refl reached
  have allGuarantee := ((AllGuarantee.opening settings device).turns idle balanced reached).2
  exact allGuarantee.hosts busy (balanced.reaches reaches) (.place request)
    (Program.TurnsBooks.place request ⟨(), [], office.system⟩) hosted

/-- A placement that fails has done nothing but speak with the world, or the one call that it has
entered is gone without a trace. -/
theorem failed_placement_leaves_nothing {info : DisconnectInfo}
    (reached : (opening settings device).run rounds occasions = some office)
    (hosted : (Program.place openWorld request).hosted rounds office parts =
      some (history, .error info, last))
    (fixed : Trace.KeepsSelector
      ((opening settings device).trace rounds occasions ++ history.steps)) :
    (history.entered = [] ∧ history.Idle) ∨
      ∃ id, history.entered = [id] ∧ last.system.IsRidOf id := by
  obtain ⟨reaches, turns, places⟩ := place_hosted reached hosted
  have whole := (reaches_trace reached).trans reaches
  have balanced := (System.Balanced.opening settings device).reaches whole
  have consistent := (System.Consistent.opening settings device).reaches whole
    (fun step among => (List.mem_append.mp among).elim (Office.turns reached step)
      (turns step)) fixed
  rcases places with ⟨id, hasPlaced, ended⟩ | ⟨_, _, more, split, idle⟩
  · exact .inr
      ⟨id, hasPlaced.entered, consistent.isRidOf balanced ended.1 (ended.destroyed balanced)⟩
  · have same : history = more := split
    exact .inl ⟨same ▸ idle.entered, same ▸ idle⟩

def refusedEverywhere : List (List Occasion) :=
  [[.reply 0 (.refused (.rejected .emergencyTemporary 0 ""))]]

/-- The call that was refused is gone. -/
theorem refusedEverywhere_leaves_nothing : ∃ history info last,
    (Program.place openWorld { address := "911" }).hosted 20 (opening {} Roster.lonePhone)
        refusedEverywhere =
      some (history, .error info, last) ∧
    history.entered = [.issued 0] ∧ last.system.IsRidOf (.issued 0) := by
  have fails :
    ((Program.place openWorld { address := "911" }).hosted 20 (opening {} Roster.lonePhone)
      refusedEverywhere).any (fun outcome => decide (Trace.KeepsSelector outcome.1.steps ∧
        outcome.1.entered = [.issued 0] ∧ outcome.2.1.isOk = false)) = true := by decide +kernel
  obtain ⟨⟨history, answer, last⟩, hosted, shown⟩ := (Option.any_eq_true _ _).mp fails
  obtain ⟨fixed, entered, failed⟩ := of_decide_eq_true shown
  cases answer with
  | ok id => cases failed
  | error info =>
    refine ⟨history, info, last, hosted, entered, ?_⟩
    have reached : (opening {} Roster.lonePhone).run 20 [] = some (opening {} Roster.lonePhone) :=
      rfl
    rcases failed_placement_leaves_nothing reached hosted fixed with ⟨none, -⟩ | ⟨id, same, rid⟩
    · rw [entered] at none
      cases none
    · rw [entered] at same
      cases same
      exact rid

/-- The call of a placement that succeeds is up, and has a leg, unless that was over already when
the call was bound to it. -/
theorem placed_call_is_up_iff {id : ConnectionId}
    (reached : (opening settings device).run rounds occasions = some office)
    (hosted : (Program.place openWorld request).hosted rounds office parts =
      some (history, .ok id, last)) :
    history.entered = [id] ∧ ∃ view, (last.system.connection id).view = some view ∧
      ((last.system.Up id ∧ (last.system.connection id).destroyed = false ∧
          (last.system.connection id).leg.isSome = true) ↔ view.state ≠ .disconnected) := by
  obtain ⟨reaches, -, places⟩ := place_hosted reached hosted
  have balanced := (System.Balanced.opening settings device).reaches
    ((reaches_trace reached).trans reaches)
  rcases places with ⟨other, hasPlaced, rfl, view, connects⟩ | ⟨_, wrong, -⟩
  · refine ⟨hasPlaced.entered, view, connects.seen, fun up lapsed => ?_, fun lasting => ?_⟩
    · have gone := (connects.expired lapsed).1
      rw [up.2.1] at gone
      cases gone
    · obtain ⟨alive, held⟩ := connects.lasting lasting
      exact ⟨(balanced.up_iff id).mpr alive, alive, held⟩
  · cases wrong

/-- An ordinary call is placed on the only phone, and its dial is answered with a leg like this. -/
def answeredBy (state : CallState) : Option (History × Program.Placed × Office) :=
  (Program.place openWorld { address := "5551234" }).hosted 20 (opening {} Roster.lonePhone)
    [[.grant 0 { state, technology := .gsm }]]

/-- With a leg that is dialing the call is up. -/
theorem answeredBy_dialing_up : ∃ history id last,
    answeredBy .dialing = some (history, .ok id, last) ∧ history.entered = [id] ∧
      last.system.Up id ∧ (last.system.connection id).leg.isSome = true := by
  have succeeds : (answeredBy .dialing).any (fun outcome => outcome.2.1.toOption.any fun id =>
      decide ((outcome.2.2.system.connection id).view.map (·.state) = some .dialing)) = true := by
    decide +kernel
  obtain ⟨⟨history, answer, last⟩, hosted, shown⟩ := (Option.any_eq_true _ _).mp succeeds
  cases answer with
  | error info => cases shown
  | ok id =>
    have reached : (opening {} Roster.lonePhone).run 20 [] = some (opening {} Roster.lonePhone) :=
      rfl
    obtain ⟨entered, view, seen, up⟩ := placed_call_is_up_iff reached hosted
    have dialing : view.state = .dialing := by simpa [seen] using of_decide_eq_true shown
    obtain ⟨up, -, held⟩ := up.mpr (by rw [dialing]; decide)
    exact ⟨history, id, last, hosted, entered, up, held⟩

/-- With a leg that is over the placement succeeds all the same, for a call that is no more. -/
theorem answeredBy_disconnected_ok : ∃ history id last,
    answeredBy .disconnected = some (history, .ok id, last) ∧
      last.system.isRegistered id = false ∧ (last.system.connection id).destroyed = true ∧
      (last.system.connection id).leg = none := by
  have succeeds : (answeredBy .disconnected).any (fun outcome => outcome.2.1.toOption.any fun id =>
      decide (outcome.2.2.system.isRegistered id = false ∧
        (outcome.2.2.system.connection id).destroyed = true ∧
        (outcome.2.2.system.connection id).leg = none)) = true := by
    decide +kernel
  obtain ⟨⟨history, answer, last⟩, hosted, shown⟩ := (Option.any_eq_true _ _).mp succeeds
  cases answer with
  | error info => cases shown
  | ok id => exact ⟨history, id, last, hosted, of_decide_eq_true shown⟩

end Office
end Switchboard
