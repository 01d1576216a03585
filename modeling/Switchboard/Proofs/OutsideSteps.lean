import Switchboard.Placement
import Switchboard.Proofs.ConnectionLaws

/-! Steps of others while programs wait, and the steps of programs themselves: anything that can be
done with connections, and anything at all with the rest. `Program.Secures` is what a program
answers when others take steps at each of its waits. Placing a call does nothing else with
connections than others can do, if that is so of the world that it asks. -/

namespace Switchboard

variable {wiring : Wiring Diary} {α β κ : Type}

namespace System

/-- One thing that happens: something besides the connections changes, somebody looks, or somebody
makes a move. -/
inductive Stirs (wiring : Wiring Diary) : System Diary → System Diary → Prop
  | apart {before after : System Diary} : before.SameConnections after → Stirs wiring before after
  | glance (system : System Diary) :
    Stirs wiring system (system.withEntry (.view system.connections))
  | move (move : Move) {before after : System Diary} :
    move.kept wiring before = some ((), after) → Stirs wiring before after

/-- One thing after another happens. -/
inductive Goes (wiring : Wiring Diary) : System Diary → System Diary → Prop
  | refl (system : System Diary) : Goes wiring system system
  | tail {before middle after : System Diary} :
    Goes wiring before middle → Stirs wiring middle after → Goes wiring before after

namespace Goes

variable {before middle after : System Diary}

theorem single (stirs : before.Stirs wiring after) : before.Goes wiring after :=
  (refl before).tail stirs

theorem trans (first : before.Goes wiring middle) (second : middle.Goes wiring after) :
    before.Goes wiring after := by
  induction second with
  | refl => exact first
  | tail _ last ih => exact ih.tail last

theorem of_keptRun {bystanders : Bystanders Diary} {rounds : Nat} {moves : List Move}
    {start after : System Diary} (runs : Move.keptRun bystanders rounds moves start = some after) :
    start.Goes (.kept bystanders rounds) after := by
  induction moves generalizing start with
  | nil =>
    cases runs
    exact .refl _
  | cons move moves ih =>
    rw [Move.keptRun_cons] at runs
    obtain ⟨next, first, others⟩ := Option.bind_eq_some_iff.mp runs
    obtain ⟨⟨⟨⟩, last⟩, ran, rfl⟩ := Option.map_eq_some_iff.mp first
    exact (single (.move move ran)).trans (ih others)

end Goes
end System

theorem Law.Governs.goes {law : Law Diary} (governs : law.Governs wiring)
    {before after : System Diary} (goes : before.Goes wiring after) (holds : law.holds before) :
    law.holds after ∧ law.leads before after := by
  induction goes with
  | refl => exact ⟨holds, law.refl before⟩
  | tail _ last ih =>
    obtain ⟨held, led⟩ := ih
    cases last with
    | apart apart =>
      obtain ⟨holds, leads⟩ := governs.apart apart held
      exact ⟨holds, law.trans led leads⟩
    | glance =>
      have looks := governs.glance _ held
      rw [Act.ensures_glance] at looks
      exact ⟨looks.1, law.trans led looks.2⟩
    | move move ran =>
      obtain ⟨holds, leads⟩ := Act.governed_move governs move _ held _ _ ran
      exact ⟨holds, law.trans led leads⟩

/-- After somebody may have looked, the step does nothing that others cannot do. -/
def Act.Outward (wiring : Wiring Diary) (step : Act Diary α) : Prop :=
  ∀ system : System Diary,
    Act.Ensures (do Act.glance; step) wiring system fun _ after => system.Goes wiring after

namespace Act

theorem outward_apart {step : Act Diary α}
    (apart : ∀ system : System Diary, step.Ensures wiring system fun _ after =>
      system.SameConnections after) :
    step.Outward wiring := by
  intro system
  rw [ensures_bind, ensures_glance]
  exact (apart _).mono fun _ after same => (System.Goes.single (.glance system)).tail (.apart same)

theorem outward_move (move : Move) (plain : move.record = do glance; pure ()) :
    move.act.Outward wiring := by
  intro system value after ran
  refine .single (.move move ?_)
  rw [Move.kept, plain]
  exact ran

theorem outward_look (id : ConnectionId) : (look id).Outward wiring :=
  outward_apart fun system => by
    rw [ensures_look]
    exact ⟨rfl, rfl⟩

theorem outward_get : Act.Outward wiring (get : Act Diary (System Diary)) :=
  outward_apart fun system => by
    rw [ensures_get]
    exact ⟨rfl, rfl⟩

theorem outward_rounds : Act.Outward wiring rounds :=
  outward_apart fun system => by
    rw [ensures_rounds]
    exact ⟨rfl, rfl⟩

theorem outward_failure : Act.Outward wiring (failure : Act Diary α) :=
  outward_apart fun _ => ensures_failure _

theorem outward_nextPhone (id : ConnectionId) (failed : PhoneId) (permanent : Bool) :
    (nextPhone id failed permanent).Outward wiring :=
  outward_apart fun system => by
    simp only [nextPhone, ensures_bind, ensures_get, ensures_set, ensures_pure]
    exact ⟨rfl, rfl⟩

theorem outward_startSelection (id : ConnectionId) : (startSelection id).Outward wiring := by
  refine outward_apart fun system => ?_
  rw [startSelection, ensures_bind, ensures_get]
  generalize system.registry.session.start id = outcome
  obtain ⟨cancels, session⟩ := outcome
  rw [ensures_bind, ensures_reviseRegistry]
  split
  · rw [ensures_write]
    exact ⟨rfl, rfl⟩
  · rw [ensures_pure]
    exact ⟨rfl, rfl⟩

theorem outward_finishSelection (id : ConnectionId) : (finishSelection id).Outward wiring := by
  refine outward_apart fun system => ?_
  rw [finishSelection, ensures_bind, ensures_get]
  generalize system.registry.session.finish id = outcome
  obtain ⟨finishes, session⟩ := outcome
  rw [ensures_bind, ensures_reviseRegistry]
  split
  · rw [ensures_write]
    exact ⟨rfl, rfl⟩
  · rw [ensures_pure]
    exact ⟨rfl, rfl⟩

end Act

namespace Program

/-- Whatever goes on at its waits, and whoever looks between its steps, the program ends with the
goal, if it ends. -/
def Secures (wiring : Wiring Diary) {α : Type} :
    Program Diary α → System Diary → (α → System Diary → Prop) → Prop
  | .done value, system, goal => goal value system
  | .act step next, system, goal =>
    Act.Ensures (do Act.glance; step) wiring system fun value after =>
      (next value).Secures wiring after goal
  | .wait pause next, system, goal => ∀ after : System Diary, system.Goes wiring after →
    (∀ value, pause.ready after = some value → (next (some value)).Secures wiring after goal) ∧
      (next none).Secures wiring after goal

theorem secures_bind (program : Program Diary α) (next : α → Program Diary β)
    (system : System Diary) (goal : β → System Diary → Prop) :
    (program >>= next).Secures wiring system goal ↔ program.Secures wiring system
      fun value after => (next value).Secures wiring after goal := by
  change (program.bind next).Secures wiring system goal ↔ _
  induction program generalizing system with
  | done value => exact Iff.rfl
  | act step rest ih =>
    simp only [bind, Secures]
    simp only [ih]
  | wait pause rest ih =>
    simp only [bind, Secures]
    simp only [ih]

theorem Secures.mono {program : Program Diary α} {system : System Diary}
    {goal weaker : α → System Diary → Prop} (secures : program.Secures wiring system goal)
    (weaken : ∀ value after, goal value after → weaker value after) :
    program.Secures wiring system weaker := by
  induction program generalizing system with
  | done value => exact weaken value system secures
  | act step rest ih => exact Act.Ensures.mono secures fun value _ holds => ih value holds
  | wait pause rest ih =>
    exact fun after goes => ⟨fun value ready => ih _ ((secures after goes).1 value ready),
      ih _ (secures after goes).2⟩

/-- The program does nothing with connections that others cannot do. -/
def Outward (wiring : Wiring Diary) {α : Type} : Program Diary α → Prop
  | .done _ => True
  | .act step next => step.Outward wiring ∧ ∀ value, (next value).Outward wiring
  | .wait _ next => ∀ value, (next value).Outward wiring

theorem Outward.goes {program : Program Diary α} (outward : program.Outward wiring)
    (system : System Diary) :
    program.Secures wiring system fun _ after => system.Goes wiring after := by
  suffices onward : ∀ now, system.Goes wiring now →
      program.Secures wiring now fun _ after =>
        system.Goes wiring after from onward system (.refl _)
  induction program with
  | done value => exact fun now sofar => sofar
  | act step next ih =>
    intro now sofar
    exact (outward.1 now).mono fun value after more =>
      ih value (outward.2 value) after (sofar.trans more)
  | wait pause next ih =>
    exact fun now sofar after more =>
      ⟨fun value _ => ih _ (outward _) after (sofar.trans more),
        ih _ (outward _) after (sofar.trans more)⟩

end Program

/-- The world does nothing with connections that others cannot do. -/
structure Collaborators.Outward (world : Collaborators Diary) (wiring : Wiring Diary) : Prop where
  dial (slot : Slot) (id : ConnectionId) (number : String) (args : DialArgs) :
    (world.dial slot id number args).Outward wiring
  power (slot : Slot) (on emergency : Bool) : (world.power slot on emergency).Outward wiring
  airplaneOff : world.airplaneOff.Outward wiring
  leaveSatellite : world.leaveSatellite.Outward wiring
  switchData (phone : PhoneId) : (world.switchData phone).Outward wiring
  select (id : ConnectionId) (request : SelectionRequest) :
    (world.select id request).Outward wiring
  reselect (id : ConnectionId) (request : SelectionRequest) :
    (world.reselect id request).Outward wiring
  command (leg : LegId) (command : RadioCommand) : (world.command leg command).Outward wiring

namespace Program.Outward

theorem pure (value : α) : Outward wiring (pure value : Program Diary α) := trivial

theorem bind {program : Program Diary α} {next : α → Program Diary β}
    (first : program.Outward wiring) (rest : ∀ value, (next value).Outward wiring) :
    (program >>= next).Outward wiring := by
  change (program.bind next).Outward wiring
  induction program with
  | done value => exact rest value
  | act step more ih => exact ⟨first.1, fun value => ih value (first.2 value)⟩
  | wait pause more ih => exact fun value => ih value (first value)

theorem atOnce {step : Act Diary α} (outward : step.Outward wiring) :
    (Program.atOnce step).Outward wiring :=
  ⟨outward, fun _ => trivial⟩

theorem system : Program.system.Outward wiring :=
  atOnce Act.outward_get

theorem call (id : ConnectionId) : (Program.call id).Outward wiring :=
  atOnce (Act.outward_look id)

theorem disconnect (id : ConnectionId) (info : DisconnectInfo) :
    (Program.disconnect id info).Outward wiring :=
  atOnce (Act.outward_move (.disconnect id info) rfl)

theorem isLive (id : ConnectionId) : (Program.isLive id).Outward wiring :=
  bind (call id) fun _ => pure _

theorem await (ready : System Diary → Option α) (channels : List Channel) (limit : Nat) :
    (Program.await ready channels limit).Outward wiring :=
  bind (bind system fun _ => pure _) fun _ _ => trivial

theorem forEach {work : κ → Program Diary Unit} (items : List κ)
    (each : ∀ item, (work item).Outward wiring) : (Program.forEach work items).Outward wiring := by
  induction items with
  | nil => exact pure _
  | cons item rest ih => exact bind (each item) fun _ => ih

theorem before {program : Program Diary α} (outward : program.Outward wiring) (deadline : Nat) :
    (program.before deadline).Outward wiring := by
  induction program with
  | done value => exact trivial
  | act step next ih => exact ⟨outward.1, fun value => ih value (outward.2 value)⟩
  | wait pause next ih =>
    rw [Program.before]
    intro value
    rcases value with _ | _ | value
    · exact trivial
    · exact ih none (outward none)
    · exact ih (some value) (outward (some value))

theorem waitForState (id : ConnectionId) (wanted : CallState → Bool) (limit : Nat) :
    (Program.waitForState id wanted limit).Outward wiring :=
  bind (await _ _ _) fun _ => pure _

theorem waitForService (slot : Slot) (id : ConnectionId) (emergency : Bool) (limit : Nat) :
    (Program.waitForService slot id emergency limit).Outward wiring :=
  bind (await _ _ _) fun _ => pure _

theorem requireLeg (id : ConnectionId) (operation : String) :
    (Program.requireLeg id operation).Outward wiring := by
  refine bind (call id) fun call => ?_
  cases call.leg <;> exact pure _

theorem membersOf (conference : ConferenceId) : (Program.membersOf conference).Outward wiring :=
  bind system fun _ => pure _

section
variable {world : Collaborators Diary} (outward : world.Outward wiring)
include outward

theorem attempt (id : ConnectionId) (command : RadioCommand) :
    (Program.attempt world id command).Outward wiring := by
  refine bind (call id) fun call => ?_
  cases call.leg with
  | none => exact pure _
  | some leg => exact bind (outward.command leg command) fun _ => pure _

theorem reject (id : ConnectionId) : (Program.reject world id).Outward wiring := by
  refine bind (requireLeg id _) fun required => ?_
  cases required with
  | error error => exact pure _
  | ok leg =>
    refine bind (outward.command leg _) fun result => ?_
    cases result <;> exact bind (disconnect id _) fun _ => pure _

theorem hangup (id : ConnectionId) (cause : DisconnectCause) :
    (Program.hangup world id cause).Outward wiring := by
  refine bind (call id) fun call => ?_
  split
  · exact pure _
  cases call.leg with
  | none => exact disconnect id _
  | some leg =>
    refine bind (outward.command leg _) fun result => ?_
    cases result <;> exact disconnect id _

theorem holdEach (held others : List ConnectionId) :
    (Program.holdEach world held others).Outward wiring := by
  induction others generalizing held with
  | nil => exact pure _
  | cons id rest ih =>
    rw [Program.holdEach]
    split
    · exact ih held
    · refine bind system fun now => ?_
      cases now.conferenceOf? id with
      | none => exact bind (attempt outward id _) fun _ => ih held
      | some conference =>
        exact bind (membersOf conference) fun _ =>
          bind (bind (membersOf conference) fun _ => forEach _ fun id => attempt outward id _)
            fun _ => ih _

theorem holdOrHangup (others : List ConnectionId) :
    (Program.holdOrHangup world others).Outward wiring := by
  refine bind system fun _ => bind (holdEach outward _ _) fun _ => forEach _ fun id => ?_
  refine bind system fun _ => bind (waitForState id _ _) fun outcome => ?_
  split
  · exact hangup outward id _
  · exact pure _

theorem prepareToDial (id : ConnectionId) (phone : PhoneId) (emergency : Bool)
    (carrier : CarrierConfig) :
    (Program.prepareToDial world id phone emergency carrier).Outward wiring := by
  refine bind system fun now => ?_
  dsimp only
  split
  · exact pure _
  split
  · exact forEach _ fun id => hangup outward id _
  split
  · exact holdOrHangup outward _
  · exact pure _

theorem prepareForEmergency (id : ConnectionId) (phone : PhoneId) (carrier : CarrierConfig) :
    (Program.prepareForEmergency world id phone carrier).Outward wiring := by
  refine bind system fun now => ?_
  refine bind (forEach _ fun call => bind (reject outward call) fun _ => pure _) fun _ => ?_
  refine bind (forEach _ fun call => ?_) fun _ => ?_
  · exact bind system fun _ => bind (waitForState call _ _) fun _ => pure _
  · refine bind system fun now => ?_
    split
    · exact bind (bind (bind system fun _ => pure _) fun _ => before (outward.switchData phone) _)
        fun _ => pure _
    · exact pure _

theorem selectDomain (id : ConnectionId) (slot : Slot) :
    (Program.selectDomain world id slot).Outward wiring := by
  have selects (active : Bool) : (Act.setSelectionActive id active).Outward wiring :=
    Act.outward_move (.setSelectionActive id active) rfl
  refine bind (atOnce (Act.outward_startSelection id)) fun _ => bind (atOnce (selects true))
    fun _ => bind system fun _ => bind (outward.select id _) fun answer => ?_
  split
  · exact pure _
  · exact bind (atOnce (selects false)) fun _ =>
      bind (atOnce (Act.outward_finishSelection id)) fun _ => pure _
  · exact pure _

theorem dialAndBind (id : ConnectionId) (slot : Slot) (domain : Option Domain) :
    (Program.dialAndBind world id slot domain).Outward wiring := by
  refine bind system fun now => ?_
  split
  · refine bind (outward.dial slot id _ _) fun answer => ?_
    split
    · refine bind (isLive id) fun live => ?_
      split
      · exact bind (atOnce (Act.outward_move (.bind id _) rfl)) fun _ => pure _
      · exact bind (outward.command _ _) fun _ => pure _
    · exact pure _
    · exact pure _
  · exact pure _

theorem redialFrom (id : ConnectionId) (patience : Nat) (failed : PhoneId) (permanent : Bool) :
    (Program.redialFrom world id patience failed permanent).Outward wiring := by
  induction patience generalizing failed permanent with
  | zero => exact atOnce Act.outward_failure
  | succ patience ih =>
    refine bind (isLive id) fun live => ?_
    split
    · exact pure _
    refine bind (atOnce (Act.outward_nextPhone id failed permanent)) fun next => ?_
    split
    · exact disconnect id _
    refine bind system fun now => ?_
    dsimp only
    split
    · exact ih _ _
    refine bind (atOnce (Act.outward_move (.reassign id _ _ _ _) rfl)) fun _ =>
      bind (dialAndBind outward id _ _) fun outcome => ?_
    split
    · exact pure _
    · exact pure _
    · exact disconnect id _
    · split
      · exact disconnect id _
      · exact ih _ _

theorem redial (id : ConnectionId) (failed : PhoneId) (permanent : Bool) :
    (Program.redial world id failed permanent).Outward wiring :=
  bind (atOnce Act.outward_rounds) fun _ => redialFrom outward id _ _ _

theorem reselectFrom (id : ConnectionId) (left : Nat) (cause : DisconnectCause) (code : Int) :
    (Program.reselectFrom world id left cause code).Outward wiring := by
  induction left generalizing cause code with
  | zero => exact disconnect id _
  | succ left ih =>
    refine bind (isLive id) fun live => ?_
    split
    · exact pure _
    refine bind system fun now => ?_
    split
    · exact bind (disconnect id _) fun _ => pure _
    dsimp only
    split
    · refine bind (outward.reselect id _) fun answer => ?_
      split
      · exact bind (disconnect id _) fun _ => pure _
      refine bind (isLive id) fun live => ?_
      split
      · exact pure _
      refine bind (dialAndBind outward id _ _) fun outcome => ?_
      split
      · exact pure _
      · exact pure _
      · exact disconnect id _
      · split
        · exact ih _ _
        · exact disconnect id _
    · exact disconnect id _

end
end Program.Outward
end Switchboard
