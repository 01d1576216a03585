import Switchboard.Proofs.Office

/-! Kinds of steps. If a kind of steps `Permits` the usual ones (looking at the system, ending
calls, asking the world), then every program that neither dials nor binds takes only steps of that
kind (`Program.Uses`): commands, waits, and all that comes before a dial. What is asked of the world
about a ringing call, or of the selector, is not usual, and has to be of that kind as well. -/

namespace Switchboard

variable {good : {β : Type} → Act Chronicle β → Prop} {α β κ : Type}

def Note.isRoutine : Note → Bool
  | asked (.dial ..) | asked (.select ..) | asked (.reselect ..) | rang .. => false
  | asked (.command _ (.answer _)) | asked (.command _ .reject) => false
  | _ => true

theorem Note.not_isDialing_of_isRoutine {note : Note} (routine : note.isRoutine = true) :
    note.isDialing = false := by
  unfold isDialing
  split
  · cases routine
  · rfl

def Note.isAsked : Note → Bool
  | asked _ => true
  | _ => false

theorem Note.not_isDialing_of_not_isAsked {note : Note} (silent : note.isAsked = false) :
    note.isDialing = false := by
  unfold isDialing
  split
  · cases silent
  · rfl

/-- What every task does is of this kind. -/
structure Act.Permits (good : {β : Type} → Act Chronicle β → Prop) : Prop where
  get : good (get : Act Chronicle (System Chronicle))
  look (id : ConnectionId) : good (look id)
  failure {β : Type} : good (failure : Act Chronicle β)
  note {note : Note} : note.isRoutine = true → good (reviseOutside (note :: ·))
  disconnect (id : ConnectionId) (info : DisconnectInfo) : good (setDisconnected id info)

/-- What a task does to have the domain of a call chosen is of this kind. -/
structure Act.Selects (id : ConnectionId) (good : {β : Type} → Act Chronicle β → Prop) :
    Prop extends
    Act.Permits good where
  startSelection : good (startSelection id)
  finishSelection : good (finishSelection id)
  setSelectionActive (active : Bool) : good (setSelectionActive id active)
  select (request : SelectionRequest) : good (reviseOutside (.asked (.select id request) :: ·))
  reselect (request : SelectionRequest) : good (reviseOutside (.asked (.reselect id request) :: ·))

structure Act.PermitsNonDialing (good : {β : Type} → Act Chronicle β → Prop) : Prop extends
    Act.Permits good where
  ask {call : Call} : (Note.asked call).isDialing = false → good (reviseOutside (.asked call :: ·))
  startSelection (id : ConnectionId) : good (startSelection id)
  finishSelection (id : ConnectionId) : good (finishSelection id)
  setSelectionActive (id : ConnectionId) (active : Bool) : good (setSelectionActive id active)

theorem Act.PermitsNonDialing.selects (permitsNonDialing : Act.PermitsNonDialing good)
    (id : ConnectionId) :
    Act.Selects id good where
  toPermits := permitsNonDialing.toPermits
  startSelection := permitsNonDialing.startSelection id
  finishSelection := permitsNonDialing.finishSelection id
  setSelectionActive := permitsNonDialing.setSelectionActive id
  select _ := permitsNonDialing.ask rfl
  reselect _ := permitsNonDialing.ask rfl

namespace Program

def Uses (good : {β : Type} → Act Chronicle β → Prop) {α : Type} : Program Chronicle α → Prop
  | .done _ => True
  | .act step next => good step ∧ ∀ value, (next value).Uses good
  | .wait _ next => ∀ value, (next value).Uses good

namespace Uses

theorem pure (value : α) : Uses good (pure value : Program Chronicle α) := trivial

theorem bind {program : Program Chronicle α} {next : α → Program Chronicle β}
    (first : program.Uses good) (rest : ∀ value, (next value).Uses good) :
    (program >>= next).Uses good := by
  change (program.bind next).Uses good
  induction program with
  | done value => exact rest value
  | act step more ih => exact ⟨first.1, fun value => ih value (first.2 value)⟩
  | wait pause more ih => exact fun value => ih value (first value)

theorem optional {condition : Prop} [Decidable condition] {first : Program Chronicle Unit}
    {rest : Program Chronicle α} (uses : first.Uses good) (goes : rest.Uses good) :
    (if condition then first >>= fun _ => rest else rest).Uses good := by
  split
  · exact bind uses fun _ => goes
  · exact goes

theorem atOnce {step : Act Chronicle α} (kind : good step) :
    (Program.atOnce step).Uses good :=
  ⟨kind, fun _ => trivial⟩

theorem forEach {work : κ → Program Chronicle Unit} (items : List κ)
    (each : ∀ item, (work item).Uses good) : (Program.forEach work items).Uses good := by
  induction items with
  | nil => exact pure _
  | cons item rest ih => exact bind (each item) fun _ => ih

theorem before {program : Program Chronicle α} (uses : program.Uses good) (deadline : Nat) :
    (program.before deadline).Uses good := by
  induction program with
  | done value => exact trivial
  | act step next ih => exact ⟨uses.1, fun value => ih value (uses.2 value)⟩
  | wait pause next ih =>
    rw [Program.before]
    intro value
    rcases value with _ | _ | value
    · exact trivial
    · exact ih none (uses none)
    · exact ih (some value) (uses (some value))

section
variable (permits : Act.Permits good)
include permits

theorem system : Program.system.Uses good :=
  atOnce permits.get

theorem call (id : ConnectionId) : (Program.call id).Uses good :=
  atOnce (permits.look id)

theorem isLive (id : ConnectionId) : (Program.isLive id).Uses good :=
  bind (call permits id) fun _ => pure _

theorem await (ready : System Chronicle → Option α) (channels : List Channel) (limit : Nat) :
    (Program.await ready channels limit).Uses good :=
  bind (bind (system permits) fun _ => pure _) fun _ _ => trivial

theorem expect (ticket : Nat) : (Program.expect ticket).Uses good := by
  intro answer
  cases answer with
  | none => exact ⟨permits.failure, fun _ => trivial⟩
  | some answer => exact ⟨permits.note rfl, fun _ => trivial⟩

theorem converse {call : Call} (asks : good (Act.reviseOutside (.asked call :: ·))) :
    (Program.converse call).Uses good := by
  have ask : (Program.ask call).Uses good :=
    ⟨permits.get, fun _ => ⟨asks, fun _ => trivial⟩⟩
  exact bind ask (expect permits)

theorem waitForState (id : ConnectionId) (wanted : CallState → Bool) (limit : Nat) :
    (Program.waitForState id wanted limit).Uses good :=
  bind (await permits _ _ _) fun _ => pure _

theorem requireLeg (id : ConnectionId) (operation : String) :
    (Program.requireLeg id operation).Uses good := by
  refine bind (call permits id) fun call => ?_
  cases call.leg <;> exact pure _

theorem command {leg : LegId} {command : RadioCommand}
    (asks : good (Act.reviseOutside (.asked (.command leg command) :: ·))) :
    (openWorld.command leg command).Uses good := by
  refine bind (converse permits asks) fun answer => ?_
  split <;> exact pure _

theorem hangupLeg (leg : LegId) : (openWorld.command leg .hangup).Uses good :=
  command permits (permits.note rfl)

theorem attempt (id : ConnectionId) {command : RadioCommand}
    (asks : ∀ leg, good (Act.reviseOutside (.asked (.command leg command) :: ·))) :
    (Program.attempt openWorld id command).Uses good := by
  refine bind (call permits id) fun call => ?_
  cases call.leg with
  | none => exact pure _
  | some leg => exact bind (Uses.command permits (asks leg)) fun _ => pure _

theorem hold (id : ConnectionId) : (Program.hold openWorld id).Uses good :=
  attempt permits id fun _ => permits.note rfl

theorem unhold (id : ConnectionId) : (Program.unhold openWorld id).Uses good :=
  attempt permits id fun _ => permits.note rfl

theorem membersOf (conference : ConferenceId) : (Program.membersOf conference).Uses good :=
  bind (system permits) fun _ => pure _

theorem holdConference (conference : ConferenceId) :
    (Program.holdConference openWorld conference).Uses good :=
  bind (membersOf permits conference) fun _ => forEach _ fun id => hold permits id

theorem unholdConference (conference : ConferenceId) :
    (Program.unholdConference openWorld conference).Uses good :=
  bind (membersOf permits conference) fun _ => forEach _ fun id => unhold permits id

theorem holdEach (held others : List ConnectionId) :
    (Program.holdEach openWorld held others).Uses good := by
  induction others generalizing held with
  | nil => exact pure _
  | cons id rest ih =>
    rw [Program.holdEach]
    split
    · exact ih held
    · refine bind (system permits) fun now => ?_
      cases now.conferenceOf? id with
      | none => exact bind (hold permits id) fun _ => ih held
      | some conference =>
        exact bind (membersOf permits conference) fun _ =>
          bind (holdConference permits conference) fun _ => ih _

theorem requireConnection (id : ConnectionId) : (Program.requireConnection id).Uses good := by
  refine bind (system permits) fun now => ?_
  split <;> exact pure _

theorem requireConference (id : ConferenceId) : (Program.requireConference id).Uses good := by
  refine bind (system permits) fun now => ?_
  split <;> exact pure _

theorem onCall {onConference : ConferenceId → Program Chronicle Unit}
    {onConnection : ConnectionId → Program Chronicle Unit} (id : ConnectionId)
    (conference : ∀ id, (onConference id).Uses good) (connection : (onConnection id).Uses good) :
    (Program.onCall onConference onConnection id).Uses good := by
  refine bind (requireConnection permits id) fun required => ?_
  split
  · exact pure _
  refine bind (system permits) fun now => ?_
  cases now.conferenceOf? id with
  | none => exact bind connection fun _ => pure _
  | some member => exact bind (conference member) fun _ => pure _

theorem onConference {work : ConferenceId → Program Chronicle Unit} (id : ConferenceId)
    (conference : (work id).Uses good) : (Program.onConference work id).Uses good := by
  refine bind (requireConference permits id) fun required => ?_
  split
  · exact pure _
  · exact bind conference fun _ => pure _

theorem airplaneOff : openWorld.airplaneOff.Uses good :=
  bind (converse permits (permits.note rfl)) fun _ => pure _

theorem power (slot : Slot) (on emergency : Bool) :
    (openWorld.power slot on emergency).Uses good :=
  bind (system permits) fun _ => bind (converse permits (permits.note rfl)) fun _ => pure _

theorem select {id : ConnectionId} {request : SelectionRequest}
    (asks : good (Act.reviseOutside (.asked (.select id request) :: ·))) :
    (openWorld.select id request).Uses good := by
  refine bind (converse permits asks) fun answer => ?_
  split <;> exact pure _

theorem reselect {id : ConnectionId} {request : SelectionRequest}
    (asks : good (Act.reviseOutside (.asked (.reselect id request) :: ·))) :
    (openWorld.reselect id request).Uses good := by
  refine bind (converse permits asks) fun answer => ?_
  split <;> exact pure _

theorem switchData (limit : Nat) (phone : PhoneId) :
    (Program.within limit (openWorld.switchData phone)).Uses good := by
  refine bind (bind (system permits) fun _ => pure _) fun now => before ?_ _
  refine bind (converse permits (permits.note rfl)) fun answer => ?_
  split <;> exact pure _

theorem clearSatellite (emergency : Bool) :
    (Program.clearSatellite openWorld emergency).Uses good := by
  have leave : openWorld.leaveSatellite.Uses good := by
    refine bind (converse permits (permits.note rfl)) fun answer => ?_
    split <;> exact pure _
  refine bind (system permits) fun now => ?_
  dsimp only
  split
  · exact pure _
  split
  · exact pure _
  split
  · exact pure _
  · refine bind leave fun yes => ?_
    split <;> exact pure _

theorem disconnect (id : ConnectionId) (info : DisconnectInfo) :
    (Program.disconnect id info).Uses good :=
  atOnce (permits.disconnect id info)

theorem answer (id : ConnectionId) {video : VideoState}
    (asks : ∀ leg, good (Act.reviseOutside (.asked (.command leg (.answer video)) :: ·))) :
    (Program.answer openWorld id video).Uses good := by
  refine bind (call permits id) fun _ => ?_
  dsimp only
  split
  · exact pure _
  refine bind (requireLeg permits id _) fun required => ?_
  cases required with
  | error error => exact pure _
  | ok leg =>
    refine bind (command permits (asks leg)) fun result => ?_
    cases result with
    | ok value => exact pure _
    | error error => exact bind (disconnect permits id _) fun _ => pure _

theorem reject (id : ConnectionId)
    (asks : ∀ leg, good (Act.reviseOutside (.asked (.command leg .reject) :: ·))) :
    (Program.reject openWorld id).Uses good := by
  refine bind (requireLeg permits id _) fun required => ?_
  cases required with
  | error error => exact pure _
  | ok leg =>
    refine bind (command permits (asks leg)) fun result => ?_
    cases result <;> exact bind (disconnect permits id _) fun _ => pure _

theorem hangup (id : ConnectionId) (cause : DisconnectCause) :
    (Program.hangup openWorld id cause).Uses good := by
  refine bind (call permits id) fun call => ?_
  split
  · exact pure _
  cases call.leg with
  | none => exact disconnect permits id _
  | some leg =>
    refine bind (hangupLeg permits leg) fun result => ?_
    cases result <;> exact disconnect permits id _

theorem disconnectConference (conference : ConferenceId) :
    (Program.disconnectConference openWorld conference).Uses good :=
  bind (membersOf permits conference) fun _ => forEach _ fun id => hangup permits id _

theorem confirmHold (id : ConnectionId) : (Program.confirmHold openWorld id).Uses good := by
  refine bind (system permits) fun _ => bind (waitForState permits id _ _) fun outcome => ?_
  split
  · exact hangup permits id _
  · exact pure _

theorem holdOrHangup (others : List ConnectionId) :
    (Program.holdOrHangup openWorld others).Uses good :=
  bind (system permits) fun _ => bind (holdEach permits _ _) fun _ => forEach _ fun id =>
    confirmHold permits id

theorem prepareToDial (id : ConnectionId) (phone : PhoneId) (emergency : Bool)
    (carrier : CarrierConfig) :
    (Program.prepareToDial openWorld id phone emergency carrier).Uses good := by
  refine bind (system permits) fun now => ?_
  dsimp only
  split
  · exact pure _
  split
  · exact forEach _ fun id => hangup permits id _
  split
  · exact holdOrHangup permits _
  · exact pure _

theorem prepareToAnswer (id : ConnectionId) :
    (Program.prepareToAnswer openWorld id).Uses good := by
  refine bind (system permits) fun now => ?_
  dsimp only
  split
  · exact pure _
  split
  · exact holdOrHangup permits _
  · exact forEach _ fun id => hangup permits id _

theorem acceptCall (id : ConnectionId) {video : VideoState}
    (asks : ∀ leg, good (Act.reviseOutside (.asked (.command leg (.answer video)) :: ·))) :
    (Program.acceptCall openWorld id video).Uses good := by
  refine bind (requireConnection permits id) fun required => ?_
  split
  · exact pure _
  refine bind (call permits id) fun _ => ?_
  dsimp only
  split
  · exact pure _
  refine bind (prepareToAnswer permits id) fun _ => bind (call permits id) fun _ => ?_
  split
  · exact pure _
  · exact answer permits id asks

theorem rejectCall (id : ConnectionId)
    (asks : ∀ leg, good (Act.reviseOutside (.asked (.command leg .reject) :: ·))) :
    (Program.rejectCall openWorld id).Uses good := by
  refine bind (requireConnection permits id) fun required => ?_
  split
  · exact pure _
  refine bind (call permits id) fun _ => ?_
  dsimp only
  split
  · exact pure _
  · exact reject permits id asks

theorem prepareForEmergency (id : ConnectionId) (phone : PhoneId) (carrier : CarrierConfig)
    (asks : ∀ leg, good (Act.reviseOutside (.asked (.command leg .reject) :: ·))) :
    (Program.prepareForEmergency openWorld id phone carrier).Uses good := by
  refine bind (system permits) fun now => ?_
  refine bind (forEach _ fun call => bind (reject permits call asks) fun _ => pure _) fun _ => ?_
  refine bind (forEach _ fun call => ?_) fun _ => ?_
  · exact bind (system permits) fun _ => bind (waitForState permits call _ _) fun _ => pure _
  · refine bind (system permits) fun now => ?_
    split
    · exact bind (switchData permits _ phone) fun _ => pure _
    · exact pure _

theorem gone (id : ConnectionId) : (Program.gone id).Uses good :=
  bind (call permits id) fun _ => pure _

theorem fail (id : ConnectionId) (info : DisconnectInfo) : (Program.fail id info).Uses good :=
  bind (disconnect permits id info) fun _ => bind (call permits id) fun _ => pure _

theorem ensureRadio (id : ConnectionId) (slot : Slot) (emergency : Bool) :
    (Program.ensureRadio openWorld id slot emergency).Uses good := by
  have cancel :
      (do return some (← Program.gone id) : Program Chronicle (Option Placed)).Uses good :=
    bind (gone permits id) fun _ => pure _
  have refuse (info : DisconnectInfo) :
      (do return some (← Program.fail id info) : Program Chronicle (Option Placed)).Uses good :=
    bind (fail permits id info) fun _ => pure _
  have look : (do
      if ← Program.isLive id then return none
      return some (← Program.gone id) : Program Chronicle (Option Placed)).Uses good := by
    refine bind (isLive permits id) fun live => ?_
    cases live with
    | true => exact pure _
    | false => exact cancel
  refine bind (system permits) fun _ => ?_
  dsimp only
  split
  · refine optional (airplaneOff permits) ?_
    refine bind (power permits slot _ _) fun _ => bind (system permits) fun _ => ?_
    refine bind (bind (await permits _ _ _) fun _ => pure _) fun outcome => ?_
    cases outcome with
    | reached => exact look
    | cancelled => exact cancel
    | timedOut => exact refuse _
  · split
    · exact refuse _
    · exact look

end

theorem selectDomain {id : ConnectionId} (selects : Act.Selects id good) (slot : Slot) :
    (Program.selectDomain openWorld id slot).Uses good := by
  refine bind (atOnce selects.startSelection) fun _ =>
    bind (atOnce (selects.setSelectionActive true)) fun _ =>
      bind (system selects.toPermits) fun _ =>
      bind (select selects.toPermits (selects.select _)) fun answer => ?_
  split
  · exact pure _
  · exact bind (atOnce (selects.setSelectionActive false)) fun _ =>
      bind (atOnce selects.finishSelection) fun _ => pure _
  · exact pure _

theorem operation (permits : Act.Permits good) {operation : Operation}
    (placing : ∀ request, operation ≠ .place request)
    (answers : ∀ leg video,
      good (Act.reviseOutside (.asked (.command leg (.answer video)) :: ·)))
    (rejects : ∀ {id}, operation = .reject id → ∀ leg,
      good (Act.reviseOutside (.asked (.command leg .reject) :: ·))) :
    operation.program.Uses good := by
  cases operation with
  | place request => exact absurd rfl (placing request)
  | accept id video =>
    exact bind (acceptCall permits id fun leg => answers leg video) fun _ => pure _
  | reject id => exact bind (rejectCall permits id (rejects rfl)) fun _ => pure _
  | hangup id =>
    exact bind (onCall permits id (disconnectConference permits) (hangup permits id _))
      fun _ => pure _
  | hold id =>
    exact bind (onCall permits id (holdConference permits) (hold permits id)) fun _ => pure _
  | unhold id =>
    exact bind (onCall permits id (unholdConference permits) (unhold permits id)) fun _ => pure _
  | hangupConference id =>
    exact bind (onConference permits id (disconnectConference permits id)) fun _ => pure _
  | holdConference id =>
    exact bind (onConference permits id (holdConference permits id)) fun _ => pure _
  | unholdConference id =>
    exact bind (onConference permits id (unholdConference permits id)) fun _ => pure _

theorem operation_of_permitsNonDialing (permitsNonDialing : Act.PermitsNonDialing good)
    {operation : Operation}
    (placing : ∀ request, operation ≠ .place request) : operation.program.Uses good :=
  Uses.operation permitsNonDialing.toPermits placing (fun _ _ => permitsNonDialing.ask rfl)
    fun _ _ => permitsNonDialing.ask rfl

end Uses
end Program
end Switchboard
