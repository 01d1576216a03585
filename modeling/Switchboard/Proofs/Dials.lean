import Switchboard.Proofs.Occasions
import Switchboard.Proofs.LegOrTask

/-! Dials, and who waits for what comes of them. A dial is the first attempt at a call, a redial on
another phone, or a dial in another domain; each has its own way to go on. Whatever happens, for
every dial that nobody has had the answer to there is a task that waits for it, and the task will go
on in one of these ways. -/

namespace Switchboard

def DisconnectInfo.exhausted : DisconnectInfo :=
  (ofCause .unspecified).withReason "emergency call failed on every phone"

/-- How a dial came about. -/
inductive Attempt
  | first
  | redial (patience : Nat)
  /-- So many more domains may be asked for after it. -/
  | reselection (left : Nat)
  deriving DecidableEq

def Answer.dialed : Answer → Except RadioError (Option LegId)
  | .leg given => .ok (some given)
  | .reply (.refused error) => .error error
  | .reply _ => .ok none

namespace Program

def receive (id : ConnectionId) : Except RadioError (Option LegId) → Program Chronicle DialOutcome
  | .ok (some leg) => do
    if ← isLive id then
      atOnce (Act.bind id leg)
      return .bound
    else
      let _ ← openWorld.command leg .hangup
      return .cancelled
  | .ok none => return .noCall
  | .error error => return .failed error

theorem dialAndBind_eq (id : ConnectionId) (slot : Slot) (domain : Option Domain) :
    dialAndBind openWorld id slot domain = (do
      let system ← system
      match system.planOf? id with
      | none => return .cancelled
      | some plan =>
        let phone := (← Program.system).device.phone slot
        let answer ← converse
          (.dial id phone.id plan.dial (plan.args (system.connection id) domain))
        receive id answer.dialed) := by
  refine congrArg (Program.system.bind ·) (funext fun system => ?_)
  cases system.planOf? id with
  | none => rfl
  | some plan =>
    refine (Program.bind_assoc _ _ _).trans
      (congrArg (Program.system.bind ·) (funext fun now => ?_))
    refine (Program.bind_assoc _ _ _).trans (congrArg (Program.bind _) (funext fun answer => ?_))
    rcases answer with leg | reply
    · rfl
    · cases reply <;> rfl

end Program

namespace Attempt

open Program

def conclude (id : ConnectionId) (phone : PhoneId) :
    Attempt → DialOutcome → Program Chronicle Unit
  | first, outcome => do
    let _ ← settle openWorld id phone outcome
  | redial _, .bound | redial _, .cancelled => return
  | redial _, .noCall => disconnect id (.ofCause .dialedServiceCode)
  | redial patience, .failed error =>
    if error.failure.retryClass == .none then
      disconnect id error.disconnectInfo
    else
      redialFrom openWorld id patience phone (error.failure.retryClass == .permanent)
  | reselection _, .bound | reselection _, .cancelled => return
  | reselection _, .noCall => disconnect id (.ofCause .dialedServiceCode)
  | reselection left, .failed error =>
    if error.failure.wantsOtherDomain then
      reselectFrom openWorld id left error.failure.cause error.code
    else
      disconnect id error.disconnectInfo

/-- What remains to be done once a dial has had its outcome: a placement looks at the call once
more. -/
def report (id : ConnectionId) : (placing : Bool) → Program Chronicle Unit
  | true => do
    if ← isLive id then return
    let _ ← gone id
  | false => return

def awaiting (attempt : Attempt) (placing : Bool) (id : ConnectionId) (phone : PhoneId)
    (ticket : Nat) : Program Chronicle Unit := do
  let answer ← expect ticket
  attempt.conclude id phone (← receive id answer.dialed)
  report id placing

theorem redialFrom_eq (id : ConnectionId) (patience : Nat) (failed : PhoneId) (permanent : Bool) :
    redialFrom openWorld id (patience + 1) failed permanent = (do
      if !(← isLive id) then return
      match ← atOnce (Act.nextPhone id failed permanent) with
      | none => disconnect id .exhausted
      | some next =>
        let device := (← Program.system).device
        match device.slotOf? next with
        | none => redialFrom openWorld id patience next true
        | some slot =>
          let phone := device.phone slot
          atOnce (Act.reassign id next phone.subscription phone.technology
            (device.carrierOf phone.subscription))
          (redial patience).conclude id next (← dialAndBind openWorld id slot none)) := by
  refine congrArg (Program.bind _) (funext fun live => ?_)
  cases live with
  | false => rfl
  | true =>
    refine congrArg (Program.bind _) (funext fun next => ?_)
    cases next with
    | none => rfl
    | some next =>
      refine congrArg (Program.bind _) (funext fun system => ?_)
      dsimp only
      cases system.device.slotOf? next with
      | none => rfl
      | some slot =>
        refine congrArg (Program.bind _) (funext fun _ => congrArg (Program.bind _) (funext ?_))
        rintro (_ | _ | _ | error) <;> rfl

theorem reselectFrom_eq (id : ConnectionId) (left : Nat) (cause : DisconnectCause) (code : Int) :
    reselectFrom openWorld id (left + 1) cause code = (do
      if !(← isLive id) then return
      let system ← Program.system
      if !system.device.hasSelector then
        disconnect id ((DisconnectInfo.ofCause cause).withCode code)
        return
      let some slot := system.device.slotOf? (system.connection id).phone
        | disconnect id (.ofCause .outOfService)
      let request := { system.selectionRequest id slot with failure := some (cause, code) }
      let answer ← openWorld.reselect id request
      if let .error (.terminal final) := answer then
        disconnect id ((DisconnectInfo.ofCause final).withCode code)
        return
      if !(← isLive id) then return
      let domain := match answer with
        | .ok domain => domain
        | .error _ => Domain.circuit
      (reselection left).conclude id (system.device.phone slot).id
        (← dialAndBind openWorld id slot (some domain))) := by
  refine congrArg (Program.bind _) (funext fun live => ?_)
  cases live with
  | false => rfl
  | true =>
    refine congrArg (Program.bind _) (funext fun system => ?_)
    dsimp only
    cases system.device.hasSelector with
    | false => rfl
    | true =>
      cases system.device.slotOf? (system.connection id).phone with
      | none => rfl
      | some slot =>
        refine congrArg (Program.bind _) (funext fun answer => ?_)
        rcases answer with (_ | final) | domain
        all_goals first | rfl | refine congrArg (Program.bind _) (funext fun live => ?_)
        all_goals cases live with
          | false => rfl
          | true =>
            refine congrArg (Program.bind _) (funext ?_)
            rintro (_ | _ | _ | error) <;> rfl

end Attempt

theorem Act.permitsNonDialing_silent (rounds : Nat) :
    Act.PermitsNonDialing fun step => step.KeepsClient (Regime.silent rounds) :=
  Act.permitsNonDialing_keepsClient (Regime.Silent.upholds rounds)

theorem Act.permits_silent (rounds : Nat) :
    Act.Permits fun step => step.KeepsClient (Regime.silent rounds) :=
  (permitsNonDialing_silent rounds).toPermits

def System.Named (terms : Terms) (system : System Chronicle) : Prop :=
  ∀ slot, (system.device.phone slot).id = terms.ident slot

theorem System.phone_of_prepare? {system : System Chronicle} {request : CallRequest}
    {placement : Placement} (prepared : system.prepare? request = .ok placement) :
    placement.phone = system.device.phone placement.slot := by
  unfold System.prepare? at prepared
  dsimp only at prepared
  repeat' split at prepared
  all_goals cases prepared
  all_goals rfl

namespace Program

variable {terms : Terms} {rounds : Nat} {α β : Type} {system : System Chronicle}

def WaitsForDials (terms : Terms) (rounds : Nat) : Program Chronicle Unit → System Chronicle → Prop
  | .done _, _ => True
  | .act step next, system => system.Named terms →
    (∃ clients, (Regime.silent rounds).Order clients system) →
      step.Ensures (.level .silent rounds) system fun value after =>
        (system.outside.Undialed after.outside ∨ ∃ attempt placing id phone number args,
          after.outside = .asked (.dial id phone number args) :: system.outside ∧
            next value = Attempt.awaiting attempt placing id phone system.outside.length) ∧
        (next value).WaitsForDials terms rounds after
  | .wait _ next, _ => ∀ value after, (next value).WaitsForDials terms rounds after

namespace WaitsForDials

theorem keepsClient_bind {program : Program Chronicle α} {next : α → Program Chronicle Unit}
    (keepsClient : program.KeepsClient (.silent rounds))
    (rest : ∀ value after, (next value).WaitsForDials terms rounds after) :
    (program >>= next).WaitsForDials terms rounds system := by
  induction program generalizing system with
  | done value => exact rest value system
  | act step more ih =>
    rintro - ⟨clients, order⟩
    refine (keepsClient.1 .free system ⟨clients, order⟩).mono fun value after turn => ⟨.inl ?_, ?_⟩
    · cases turn with
      | stays fit concernsNoTask => exact .of_eq concernsNoTask.outside
      | notes plain => exact .cons plain
    · exact ih value (keepsClient.2 value)
  | wait pause more ih => exact fun value after => ih value (keepsClient value)

theorem of_keepsClient {program : Program Chronicle Unit}
    (keepsClient : program.KeepsClient (.silent rounds)) :
    program.WaitsForDials terms rounds system := by
  rw [← program.bind_done]
  exact keepsClient_bind keepsClient fun _ _ => trivial

theorem system_bind {next : System Chronicle → Program Chronicle Unit}
    (rest : system.Named terms → (next system).WaitsForDials terms rounds system) :
    (Program.system >>= next).WaitsForDials terms rounds system := by
  intro named _
  rw [Act.ensures_get]
  exact ⟨.inl (.of_eq rfl), rest named⟩

theorem assoc {first : Program Chronicle α} {next : α → Program Chronicle β}
    {last : β → Program Chronicle Unit}
    (waitsForDials : (first >>= fun value =>
      next value >>= last).WaitsForDials terms rounds system) :
    ((first >>= next) >>= last).WaitsForDials terms rounds system :=
  (congrArg (WaitsForDials terms rounds · system) (first.bind_assoc next last)).mpr waitsForDials

section
variable {id : ConnectionId}

theorem report (placing : Bool) :
    (Attempt.report id placing).WaitsForDials terms rounds system := by
  cases placing with
  | false => exact trivial
  | true =>
    refine of_keepsClient (Uses.bind (Uses.isLive (Act.permits_silent rounds) id) fun live => ?_)
    cases live with
    | true => exact Uses.pure _
    | false =>
      exact Uses.bind (Uses.gone (Act.permits_silent rounds) id) fun _ => Uses.pure _

/-- The call is ended, and that is all. -/
theorem disconnect (placing : Bool) (info : DisconnectInfo) :
    (Program.disconnect id info >>= fun _ => Attempt.report id placing).WaitsForDials terms rounds
      system :=
  keepsClient_bind (Uses.disconnect (Act.permits_silent rounds) id info) fun _ _ => report placing

section
variable {phone : PhoneId} {attempt : Attempt} {placing : Bool}
  (rest : ∀ outcome after,
    (attempt.conclude id phone outcome >>= fun _ =>
      Attempt.report id placing).WaitsForDials terms rounds after)
include rest

theorem receive (result : Except RadioError (Option LegId)) :
    (Program.receive id result >>= fun outcome =>
      attempt.conclude id phone outcome >>= fun _ =>
        Attempt.report id placing).WaitsForDials terms rounds
        system := by
  match result with
  | .ok none => exact rest _ _
  | .error error => exact rest _ _
  | .ok (some leg) =>
    refine assoc
      (keepsClient_bind (Uses.isLive (Act.permits_silent rounds) id) fun live after => ?_)
    cases live with
    | true =>
      rintro - ⟨clients, order⟩
      refine (Act.ripple_bind (Wiring.ripples_notes rounds) order.fit.rest id leg).mono
        fun _ bound ripple => ⟨.inl (.of_eq ?_), rest _ _⟩
      exact ripple.outside.trans ((after.sameBooks_bound id leg).read (·.outside) fun _ _ _ => rfl)
    | false =>
      exact assoc (keepsClient_bind (Uses.hangupLeg (Act.permits_silent rounds) leg)
        fun _ _ => rest _ _)

theorem awaiting (ticket : Nat) :
    (attempt.awaiting placing id phone ticket).WaitsForDials terms rounds system := by
  intro value after
  cases value with
  | none =>
    intro _ _
    exact Act.ensures_failure _
  | some answer =>
    intro _ _
    rw [Act.ensures_reviseOutside]
    exact ⟨.inl (.cons rfl), receive rest _⟩

theorem dial {slot : Slot} (named : terms.ident slot = phone) (domain : Option Domain) :
    ((dialAndBind openWorld id slot domain >>= attempt.conclude id phone) >>= fun _ =>
      Attempt.report id placing).WaitsForDials terms rounds system := by
  rw [dialAndBind_eq]
  refine assoc (assoc (system_bind fun _ => ?_))
  cases system.planOf? id with
  | none => exact rest _ _
  | some plan =>
    refine assoc (system_bind fun names => ?_)
    have waits : (((expect system.outside.length).bind fun answer =>
        Program.receive id answer.dialed).bind fun outcome =>
          attempt.conclude id phone outcome >>= fun _ => Attempt.report id placing) =
        attempt.awaiting placing id phone system.outside.length :=
      Program.bind_assoc _ _ _
    intro _ _
    rw [Act.ensures_get]
    refine ⟨.inl (.of_eq rfl), fun _ _ => ?_⟩
    rw [Act.ensures_reviseOutside]
    refine ⟨.inr ⟨attempt, placing, id, phone, plan.dial, plan.args (system.connection id) domain,
      ?_, waits⟩, (congrArg (WaitsForDials terms rounds · _) waits).mpr (awaiting rest _)⟩
    rw [names slot, named]

end

variable {phone : PhoneId}

theorem redialFrom (placing : Bool) (patience : Nat) {failed : PhoneId} {permanent : Bool} :
    (Program.redialFrom openWorld id patience failed permanent >>= fun _ =>
      Attempt.report id placing).WaitsForDials terms rounds system := by
  have upholds := Regime.Silent.upholds rounds
  induction patience generalizing failed permanent system with
  | zero => exact keepsClient_bind (.atOnce Act.keepsClient_failure) fun _ _ => report placing
  | succ patience ih =>
    rw [Attempt.redialFrom_eq]
    refine assoc
      (keepsClient_bind (Uses.isLive (Act.permits_silent rounds) id) fun live after => ?_)
    cases live with
    | false => exact report placing
    | true =>
      refine assoc
        (keepsClient_bind (.atOnce (Act.keepsClient_nextPhone upholds id failed permanent))
        fun next after => ?_)
      cases next with
      | none => exact disconnect placing _
      | some next =>
        refine assoc (system_bind fun named => ?_)
        dsimp only
        cases found : after.device.slotOf? next with
        | none => exact ih
        | some slot =>
          refine assoc (keepsClient_bind (.atOnce (Act.keepsClient_reassign upholds id _ _ _ _))
            fun _ moved => ?_)
          refine dial (fun outcome last => ?_)
            ((named slot).symm.trans (Device.phone_id_of_slotOf? found)) none
          rcases outcome with _ | _ | _ | error
          · exact report placing
          · exact disconnect placing _
          · exact report placing
          · rw [Attempt.conclude]
            split
            · exact disconnect placing _
            · exact ih

theorem reselectFrom (placing : Bool) (left : Nat) {cause : DisconnectCause} {code : Int} :
    (Program.reselectFrom openWorld id left cause code >>= fun _ =>
      Attempt.report id placing).WaitsForDials terms rounds system := by
  have upholds := Regime.Silent.upholds rounds
  induction left generalizing cause code system with
  | zero => exact disconnect placing _
  | succ left ih =>
    rw [Attempt.reselectFrom_eq]
    refine assoc
      (keepsClient_bind (Uses.isLive (Act.permits_silent rounds) id) fun live after => ?_)
    cases live with
    | false => exact report placing
    | true =>
      refine assoc (system_bind fun named => ?_)
      dsimp only
      split
      · exact assoc (disconnect placing _)
      split
      case h_2 => exact disconnect placing _
      rename_i slot found
      refine assoc
        (keepsClient_bind (Uses.reselect (Act.permits_silent rounds) (Act.keepsClient_note rfl))
        fun answer now => ?_)
      split
      · exact assoc (disconnect placing _)
      refine assoc
        (keepsClient_bind (Uses.isLive (Act.permits_silent rounds) id) fun live after => ?_)
      cases live with
      | false => exact report placing
      | true =>
        refine dial (fun outcome last => ?_) (named slot).symm _
        rcases outcome with _ | _ | _ | error
        · exact report placing
        · exact disconnect placing _
        · exact report placing
        · rw [Attempt.conclude]
          split
          · exact ih
          · exact disconnect placing _

theorem reporting {first : Program Chronicle Unit}
    (waitsForDials : (first >>= fun _ =>
      Attempt.report id true).WaitsForDials terms rounds system) :
    ((first >>= fun _ => (do
        if ← Program.isLive id then return Except.ok id
        Program.gone id : Program Chronicle Placed)) >>= fun _ =>
          pure ()).WaitsForDials terms rounds
          system := by
  refine assoc ((congrArg (WaitsForDials terms rounds · system) ?_).mp waitsForDials)
  refine congrArg (first.bind ·) (funext fun _ => ?_)
  refine Eq.trans ?_ (Program.bind_assoc _ _ _).symm
  refine congrArg (Program.bind _) (funext fun live => ?_)
  cases live <;> rfl

theorem gone : (Program.gone id >>= fun _ => pure ()).WaitsForDials terms rounds system :=
  assoc (keepsClient_bind (Uses.call (Act.permits_silent rounds) id) fun _ _ => trivial)

theorem fail (info : DisconnectInfo) :
    (Program.fail id info >>= fun _ => pure ()).WaitsForDials terms rounds system :=
  assoc (keepsClient_bind (Uses.disconnect (Act.permits_silent rounds) id info) fun _ _ =>
    assoc (keepsClient_bind (Uses.call (Act.permits_silent rounds) id) fun _ _ => trivial))

/-- What becomes of a placement when its first dial has come to something. -/
theorem settle (outcome : DialOutcome) :
    (Program.settle openWorld id phone outcome >>= fun _ => pure ()).WaitsForDials terms
      rounds system := by
  cases outcome with
  | bound => exact trivial
  | noCall => exact fail _
  | cancelled => exact gone
  | failed error =>
    refine assoc (keepsClient_bind (Uses.call (Act.permits_silent rounds) id) fun call _ => ?_)
    refine assoc (system_bind fun _ => ?_)
    dsimp only
    split
    · exact reporting
        (assoc (keepsClient_bind (.atOnce Act.keepsClient_rounds) fun _ _ => redialFrom true _))
    split
    · exact reporting (reselectFrom true _)
    · exact assoc (fail _)

theorem dialFirst {slot : Slot} (named : terms.ident slot = phone) (domain : Option Domain) :
    ((dialAndBind openWorld id slot domain >>= Program.settle openWorld id phone) >>=
      fun _ => pure ()).WaitsForDials terms rounds system := by
  have waitsForDials := @dial terms rounds system id phone .first false
    (fun outcome after => assoc (settle outcome)) slot named domain
  have same : (dialAndBind openWorld id slot domain >>= Program.settle openWorld id phone) >>=
      (fun _ => pure ()) = (dialAndBind openWorld id slot domain >>=
        Attempt.first.conclude id phone) >>= fun _ => Attempt.report id false := by
    refine (Program.bind_assoc _ _ _).trans (.trans ?_ (Program.bind_assoc _ _ _).symm)
    refine congrArg (Program.bind _) (funext fun outcome => ?_)
    exact (Program.bind_assoc (Program.settle openWorld id phone outcome) (fun _ => pure ())
      fun _ => Attempt.report id false).symm
  exact same ▸ waitsForDials

end

section
variable {id : ConnectionId}

theorem dialOut {placement : Placement} (named : terms.ident placement.slot = placement.phone.id)
    (domain : Option Domain) :
    (Program.dialOut openWorld id placement domain >>= fun _ => pure ()).WaitsForDials terms rounds
      system := by
  refine assoc (keepsClient_bind (Uses.isLive (Act.permits_silent rounds) id) fun live after => ?_)
  cases live with
  | true => exact dialFirst named domain
  | false => exact assoc gone

theorem chooseAndDial {placement : Placement}
    (named : terms.ident placement.slot = placement.phone.id) :
    (Program.chooseAndDial openWorld id placement >>= fun _ => pure ()).WaitsForDials terms rounds
      system := by
  refine assoc (system_bind fun _ => ?_)
  split
  · refine assoc
      (keepsClient_bind (Uses.selectDomain ((Act.permitsNonDialing_silent rounds).selects id) _)
      fun answer _ => ?_)
    cases answer with
    | ok domain => exact dialOut named domain
    | error cause => exact assoc (fail _)
  · exact assoc (keepsClient_bind (Uses.prepareToDial (Act.permits_silent rounds) id _ _ _)
      fun _ _ => dialOut named none)

theorem complete {placement : Placement}
    (named : terms.ident placement.slot = placement.phone.id) :
    (Program.complete openWorld id placement >>= fun _ => pure ()).WaitsForDials terms
      rounds system := by
  rw [complete_eq]
  refine assoc (keepsClient_bind (Uses.ensureRadio (Act.permits_silent rounds) id _ _)
    fun answer now => ?_)
  cases answer with
  | some answer => exact trivial
  | none =>
    dsimp only
    split
    · refine assoc
        (keepsClient_bind (Uses.prepareForEmergency (Act.permits_silent rounds) id _ _ fun _ =>
          Act.keepsClient_note rfl)
        fun _ _ => ?_)
      refine assoc (keepsClient_bind (Uses.isLive (Act.permits_silent rounds) id) fun live _ => ?_)
      cases live with
      | true => exact chooseAndDial named
      | false => exact assoc gone
    · exact chooseAndDial named

end

theorem place (request : CallRequest) :
    (Program.place openWorld request >>= fun _ => pure ()).WaitsForDials terms rounds system := by
  refine assoc (system_bind fun named => ?_)
  split
  · exact trivial
  · rename_i placement prepared
    refine assoc (keepsClient_bind (Uses.clearSatellite (Act.permits_silent rounds) _)
      fun objection now => ?_)
    cases objection with
    | some cause => exact trivial
    | none =>
      rintro - ⟨clients, order⟩
      refine ((Regime.Silent.upholds rounds).enroll request _ order.fit).mono
        fun id after ⟨_, _, addsOne⟩ => ⟨.inl (.of_eq addsOne.outside), complete ?_⟩
      rw [System.phone_of_prepare? prepared]
      exact (named _).symm

theorem redial {id : ConnectionId} (failed : PhoneId) (permanent : Bool) :
    (Program.redial openWorld id failed permanent).WaitsForDials terms rounds system :=
  keepsClient_bind (.atOnce Act.keepsClient_rounds) fun patience after => by
    have waitsForDials := @redialFrom terms rounds after id false patience failed permanent
    exact (congrArg (WaitsForDials terms rounds · after) (Program.bind_done _)).mp waitsForDials

theorem reselect {id : ConnectionId} (cause : DisconnectCause) (code : Int) :
    (Program.reselect openWorld id cause code).WaitsForDials terms rounds system :=
  (congrArg (WaitsForDials terms rounds · system) (Program.bind_done _)).mp (reselectFrom false _)

end WaitsForDials

end Program

variable {terms : Terms} {rounds : Nat}

theorem Operation.waitsForDials (operation : Operation) (system : System Chronicle) :
    operation.program.WaitsForDials terms rounds system := by
  by_cases placing : ∃ request, operation = .place request
  · obtain ⟨request, rfl⟩ := placing
    exact .place request
  · exact .of_keepsClient
      (Program.Uses.operation_of_permitsNonDialing (Act.permitsNonDialing_silent rounds)
      fun request same => placing ⟨request, same⟩)

theorem FollowUp.waitsForDials (work : FollowUp) (system : System Chronicle) :
    work.program.WaitsForDials terms rounds system := by
  cases work with
  | redial id failed permanent => exact .redial failed permanent
  | reselect id cause code => exact .reselect cause code
  | errand number => exact trivial

theorem Attempt.advance_unanswered (attempt : Attempt) {placing : Bool} {id : ConnectionId}
    {phone : PhoneId} {ticket : Nat} {wiring : Wiring Chronicle} {system : System Chronicle}
    (unanswered : ∀ answer, ¬ system.outside.Answered ticket answer) :
    (attempt.awaiting placing id phone ticket).advance wiring system =
      some (system, some (attempt.awaiting placing id phone ticket)) := by
  have none : system.outside.findSome? (Note.answer? ticket) = none := by
    cases found : system.outside.findSome? (Note.answer? ticket) with
    | none => rfl
    | some answer => exact absurd (Chronicle.answered_of_findSome found) (unanswered answer)
  change Program.advance wiring system (.wait _ _) = _
  rw [Program.advance]
  dsimp only
  rw [none]
  rfl

theorem Attempt.advance_answered (attempt : Attempt) {placing : Bool} {id : ConnectionId}
    {phone : PhoneId} {ticket : Nat} {wiring : Wiring Chronicle} {system : System Chronicle}
    {answer : Answer} (found : system.outside.findSome? (Note.answer? ticket) = some answer) :
    (attempt.awaiting placing id phone ticket).advance wiring system =
      Program.advance wiring (system.noting (.taken ticket)) (do
        attempt.conclude id phone (← Program.receive id answer.dialed)
        Attempt.report id placing) := by
  change Program.advance wiring system (.wait _ _) = _
  rw [Program.advance]
  dsimp only
  rw [found]
  rfl

namespace Program

theorem Safe.passes {program : Program Chronicle Unit} {spot : Spot}
    {post : Unit → Spot → Prop} (safe : program.Safe terms rounds spot post)
    (sound : spot.Sound terms) {start before after : System Chronicle} (here : spot.system = start)
    (passes : program.Passes (.level .silent rounds) start before after) :
    ∃ duties, Orderly terms duties before := by
  induction passes generalizing spot with
  | now run =>
    obtain ⟨others, -, orderly⟩ := sound
    exact ⟨_, here ▸ orderly⟩
  | next run rest ih =>
    subst here
    obtain ⟨now, effects, safe⟩ := safe sound _ _ run
    exact ih safe (sound.after effects) rfl
  | ready found rest ih =>
    subst here
    exact ih ((safe.2 spot.subject _ (.inl ⟨rfl, rfl, sound⟩)).1 _ found) sound rfl
  | late unready past rest ih =>
    subst here
    exact ih ((safe.2 spot.subject _ (.inl ⟨rfl, rfl, sound⟩)).2 past) sound rfl

def InOrderThroughout (terms : Terms) (rounds : Nat) (program : Program Chronicle Unit)
    (system : System Chronicle) : Prop :=
  ∀ {before after}, program.Passes (.level .silent rounds) system before after →
    (∃ duties, Orderly terms duties before) ∧ ∃ clients, (Regime.silent rounds).Order clients before

theorem WaitsForDials.advance {program : Program Chronicle Unit} {system : System Chronicle}
    (waitsForDials : program.WaitsForDials terms rounds system)
    (inOrderThroughout : program.InOrderThroughout terms rounds system)
    {after : System Chronicle} {left : Option (Program Chronicle Unit)}
    (moved : program.advance (.level .silent rounds) system = some (after, left)) :
    system.outside <:+ after.outside ∧
    (∀ work, left = some work → ∀ last, work.WaitsForDials terms rounds last) ∧
    ∀ {id phone number args earlier},
      .asked (.dial id phone number args) :: earlier <:+ after.outside →
      .asked (.dial id phone number args) :: earlier <:+ system.outside ∨
        ∃ attempt placing,
          left = some (Attempt.awaiting attempt placing id phone earlier.length) := by
  induction program generalizing system with
  | done value =>
    obtain ⟨rfl, rfl⟩ := Prod.mk.inj (Option.some.inj moved)
    exact ⟨List.suffix_refl _, nofun, .inl⟩
  | act step next ih =>
    rw [Program.advance] at moved
    split at moved
    · cases moved
    rename_i value middle run
    obtain ⟨⟨duties, orderly⟩, ordered⟩ := inOrderThroughout (.now run)
    obtain ⟨made, rest⟩ := waitsForDials orderly.ident ordered value middle run
    obtain ⟨grown, waits, dials⟩ :=
      ih value rest (fun passes => inOrderThroughout (.next run passes)) moved
    refine ⟨?_, waits, fun made' => ?_⟩
    · refine .trans ?_ grown
      rcases made with ⟨notes, same, -⟩ | ⟨_, _, _, _, _, _, asked, -⟩
      · exact ⟨notes, same.symm⟩
      · rw [asked]
        exact List.suffix_cons _ _
    · refine (dials made').elim (fun sofar => ?_) .inr
      rcases made with undialed | ⟨attempt, placing, id, phone, number, args, asked, waiting⟩
      · exact .inl (undialed.suffix rfl sofar)
      · rw [asked] at sofar
        rcases List.suffix_cons_iff.mp sofar with here | old
        · obtain ⟨same, rfl⟩ := List.cons.inj here
          cases same
          rw [waiting, attempt.advance_unanswered fun answer answered => ?_] at moved
          · cases moved
            exact .inr ⟨attempt, placing, rfl⟩
          · rw [asked] at answered
            rcases Chronicle.answered_cons.mp answered with new | old
            · cases new
            · obtain ⟨call, asks⟩ := orderly.early old
              exact absurd asks.lt_length (Nat.lt_irrefl _)
        · exact .inl old
  | wait pause next ih =>
    rw [Program.advance] at moved
    split at moved
    · rename_i value ready
      exact ih _ (waitsForDials _ _) (fun passes => inOrderThroughout (.ready ready passes)) moved
    rename_i unready
    split at moved
    · rename_i past
      exact ih _ (waitsForDials _ _)
        (fun passes => inOrderThroughout (.late unready past passes)) moved
    · obtain ⟨rfl, rfl⟩ := Prod.mk.inj (Option.some.inj moved)
      refine ⟨List.suffix_refl _, ?_, .inl⟩
      rintro work ⟨⟩ last
      exact waitsForDials

theorem WaitsForDials.takes {attempt : Attempt} {placing : Bool} {id : ConnectionId}
    {phone : PhoneId}
    {ticket : Nat} {system : System Chronicle}
    (waitsForDials : (attempt.awaiting placing id phone ticket).WaitsForDials terms rounds system)
    (inOrderThroughout :
      (attempt.awaiting placing id phone ticket).InOrderThroughout terms rounds system)
    {after : System Chronicle} {left : Option (Program Chronicle Unit)}
    (moved : (attempt.awaiting placing id phone ticket).advance (.level .silent rounds) system =
      some (after, left)) :
    left = some (attempt.awaiting placing id phone ticket) ∨ .taken ticket ∈ after.outside := by
  cases found : system.outside.findSome? (Note.answer? ticket) with
  | none =>
    have unanswered (answer : Answer) : ¬ system.outside.Answered ticket answer := by
      rintro ⟨note, among, answers⟩
      rw [List.findSome?_eq_none_iff.mp found note among] at answers
      cases answers
    rw [attempt.advance_unanswered unanswered] at moved
    cases moved
    exact .inl rfl
  | some answer =>
    have goes := waitsForDials (some answer) system
    have inOrderThroughout {before after : System Chronicle}
        (passes : Passes (.level .silent rounds) _ _ _ _) :=
      @inOrderThroughout before after (.ready found passes)
    rw [attempt.advance_answered found] at moved
    obtain ⟨⟨duties, orderly⟩, ordered⟩ := inOrderThroughout (.now rfl)
    have rest := (goes orderly.ident ordered _ _ rfl).2
    have grown := (rest.advance (fun passes => inOrderThroughout (.next rfl passes)) moved).1
    exact .inr (grown.mem List.mem_cons_self)

end Program

theorem Chronicle.Asks.suffix {notes : Chronicle} {ticket : Nat} {call : Call}
    (asks : notes.Asks ticket call) :
    ∃ earlier : Chronicle, .asked call :: earlier <:+ notes ∧ earlier.length = ticket := by
  induction notes with
  | nil => cases asks
  | cons note rest ih =>
    rcases Chronicle.asks_cons asks with old | ⟨rfl, rfl⟩
    · obtain ⟨earlier, made, place⟩ := ih old
      exact ⟨earlier, made.trans (List.suffix_cons _ _), place⟩
    · exact ⟨rest, List.suffix_refl _, rfl⟩

/-- Every dial that nobody has had the answer to is in the hands of a task that waits for it. -/
structure DialsAwaited (terms : Terms) (rounds : Nat) (office : Office) : Prop where
  waitsForDials {task : Program Chronicle Unit} : task ∈ office.tasks →
    ∀ system, task.WaitsForDials terms rounds system
  dialsAwaited {id : ConnectionId} {phone : PhoneId} {number : String} {args : DialArgs}
    {earlier : Chronicle} :
    .asked (.dial id phone number args) :: earlier <:+ office.system.outside →
      .taken earlier.length ∈ office.system.outside ∨ ∃ attempt placing,
        Attempt.awaiting attempt placing id phone earlier.length ∈ office.tasks

theorem ClientsServed.inOrderThroughout {roster : Roster} {posts : List Post}
    (clientsServed : ClientsServed (.silent rounds) roster)
    (allAtPosts : AllAtPosts terms rounds posts roster.office) {position : Nat}
    {task : Program Chronicle Unit} (found : roster.office.tasks[position]? = some task) :
    task.InOrderThroughout terms rounds roster.system := by
  intro before after passes
  constructor
  · rw [← allAtPosts.tasks, List.getElem?_map] at found
    obtain ⟨post, here, rfl⟩ := Option.map_eq_some_iff.mp found
    have perm := Post.duties_perm here
    have sound : Spot.Sound terms ⟨subjectOf post.own, post.own, roster.system⟩ :=
      ⟨_, fun id among => allAtPosts.resting id (perm.mem_iff.mpr (List.mem_append_right _ among)),
        allAtPosts.orderly.perm perm⟩
    have safe := (allAtPosts.ready (List.mem_of_getElem? here)).safe roster.system (.refl _)
    exact safe.passes sound rfl passes
  · have listed : roster.office.tasks[position]? = roster.tasks[position]?.map (·.work) :=
      List.getElem?_map
    rw [listed] at found
    obtain ⟨task, here, rfl⟩ := Option.map_eq_some_iff.mp found
    have start := (ClientStatus.succeeds_refl (.of task.client) roster.system).resolve_left
      (ClientStatus.of_ne_finished task.client)
    have keeps := clientsServed.ready (List.mem_of_getElem? here) roster.system (.refl _)
    obtain ⟨now, -, order, -⟩ :=
      keeps.passes (Regime.Silent.upholds rounds) (clientsServed.parts here) start passes
    exact ⟨_, order⟩

namespace DialsAwaited

variable {office after : Office} {roster : Roster} {posts : List Post}

theorem grows (dialsAwaited : DialsAwaited terms rounds office) (tasks : office.tasks ⊆ after.tasks)
    (waitsForDials : ∀ {task}, task ∈ after.tasks → task ∉ office.tasks →
      ∀ system, task.WaitsForDials terms rounds system)
    (undialed : office.system.outside.Undialed after.system.outside) :
    DialsAwaited terms rounds after where
  waitsForDials {task} among := by
    by_cases old : task ∈ office.tasks
    · exact dialsAwaited.waitsForDials old
    · exact waitsForDials among old
  dialsAwaited made := by
    refine (dialsAwaited.dialsAwaited (undialed.suffix rfl made)).imp (fun taken => ?_) ?_
    · obtain ⟨notes, same, -⟩ := undialed
      rw [same]
      exact List.mem_append_right _ taken
    · rintro ⟨attempt, placing, waits⟩
      exact ⟨attempt, placing, tasks waits⟩

theorem absorb (dialsAwaited : DialsAwaited terms rounds office) :
    DialsAwaited terms rounds office.absorb :=
  dialsAwaited.grows (List.subset_append_left _ _)
    (fun among new system => by
      obtain ⟨work, -, rfl⟩ := List.mem_map.mp ((List.mem_append.mp among).resolve_left new)
      exact work.waitsForDials system)
    (.of_eq rfl)

theorem resume (dialsAwaited : DialsAwaited terms rounds roster.office)
    (clientsServed : ClientsServed (.silent rounds) roster)
    (allAtPosts : AllAtPosts terms rounds posts roster.office) {position : Nat}
    (moved : roster.office.resume (.level .silent rounds) position = some after) :
    DialsAwaited terms rounds after := by
  rw [Office.resume] at moved
  split at moved
  · cases moved
    exact dialsAwaited
  rename_i task found
  obtain ⟨⟨system, left⟩, advanced, rfl⟩ := Option.map_eq_some_iff.mp moved
  have waitsForDials := dialsAwaited.waitsForDials (List.mem_of_getElem? found)
  have inOrderThroughout := @clientsServed.inOrderThroughout _ _ _ _ allAtPosts _ _ found
  obtain ⟨grown, waits, dials⟩ := (waitsForDials roster.system).advance inOrderThroughout advanced
  refine ⟨fun {task} among => ?_, fun {id phone number args earlier} made => ?_⟩
  · rcases List.mem_append.mp among with old | new
    · exact dialsAwaited.waitsForDials (List.mem_of_mem_eraseIdx old)
    · exact waits task (Option.mem_toList.mp new)
  · rcases dials made with old | ⟨attempt, placing, same⟩
    · rcases dialsAwaited.dialsAwaited old with taken | ⟨attempt, placing, waiting⟩
      · exact .inl (grown.mem taken)
      · obtain ⟨other, here⟩ := List.mem_iff_getElem?.mp waiting
        by_cases differ : other = position
        · rw [differ, found] at here
          cases here
          refine ((waitsForDials roster.system).takes inOrderThroughout advanced).symm.imp_right
            fun same => ?_
          exact ⟨attempt, placing, List.mem_append_right _ (Option.mem_toList.mpr same)⟩
        · refine .inr ⟨attempt, placing, List.mem_append_left _ ?_⟩
          exact List.mem_eraseIdx_iff_getElem?.mpr ⟨other, differ, here⟩
    · exact .inr ⟨attempt, placing, List.mem_append_right _ (Option.mem_toList.mpr same)⟩

theorem step (dialsAwaited : DialsAwaited terms rounds roster.office)
    (clientsServed : ClientsServed (.silent rounds) roster)
    (allAtPosts : AllAtPosts terms rounds posts roster.office) {occasion : Occasion}
    (moved : roster.office.step rounds occasion = some after) : DialsAwaited terms rounds after :=
      by
  unfold Office.step at moved
  obtain ⟨now, happened, rfl⟩ := Option.map_eq_some_iff.mp moved
  refine absorb ?_
  cases occasion with
  | start operation =>
    cases happened
    refine dialsAwaited.grows (List.subset_append_left _ _)
      (fun among new system => ?_) (.of_eq rfl)
    obtain rfl := List.mem_singleton.mp ((List.mem_append.mp among).resolve_left new)
    exact operation.waitsForDials system
  | resume position => exact dialsAwaited.resume clientsServed allAtPosts happened
  | _ =>
    obtain ⟨value, run, rfl⟩ := Option.map_eq_some_iff.mp happened
    obtain ⟨left, leavesWork⟩ :=
      (Regime.Silent.keptThroughout rounds).occasion clientsServed.order.fit _ _ _ run
    exact dialsAwaited.grows (List.Subset.refl _) (fun among new => absurd among new)
      leavesWork.undialed

theorem run (dialsAwaited : DialsAwaited terms rounds roster.office)
    (clientsServed : ClientsServed (.silent rounds) roster)
    (allAtPosts : AllAtPosts terms rounds posts roster.office) (unfixed : terms.numbers = none)
    {occasions : List Occasion} (moved : roster.office.run rounds occasions = some after) :
    DialsAwaited terms rounds after := by
  induction occasions generalizing roster posts with
  | nil =>
    cases moved
    exact dialsAwaited
  | cons occasion rest ih =>
    rw [Office.run_cons] at moved
    obtain ⟨office, stepped, moved⟩ := Option.bind_eq_some_iff.mp moved
    have next := dialsAwaited.step clientsServed allAtPosts stepped
    obtain ⟨actor, here, others, effects, last, staff⟩ := allAtPosts.step (fun known => by
      rw [unfixed] at known
      cases known) stepped
    rw [Office.step_eq_stepUnder, ← Roster.office_step] at stepped
    obtain ⟨roster, happened, rfl⟩ := Option.map_eq_some_iff.mp stepped
    exact ih next (clientsServed.step (Regime.Silent.keptThroughout rounds) happened) staff moved

end DialsAwaited

namespace Office

variable {settings : Settings} {device : Device} {occasions : List Occasion} {office : Office}

theorem dial_awaited (reached : (opening settings device).run rounds occasions = some office)
    {id : ConnectionId} {phone : PhoneId} {number : String} {args : DialArgs} {ticket : Nat}
    (asks : office.system.outside.Asks ticket (.dial id phone number args))
    (untaken : .taken ticket ∉ office.system.outside) :
    ∃ (position : Nat) (attempt : Attempt) (placing : Bool),
      office.tasks[position]? = some (attempt.awaiting placing id phone ticket) := by
  have empty : ClientsServed (.silent rounds) (.opening settings device) :=
    .opening settings device (System.AllHeard.opening settings device)
  have start : DialsAwaited (.ofOpening settings device false) rounds (opening settings device) :=
    ⟨nofun, fun made => absurd (List.suffix_nil.mp made) (List.cons_ne_nil _ _)⟩
  have dialsAwaited := @DialsAwaited.run _ _ _ (.opening settings device) _ start empty
    (.opening settings device false) rfl _ reached
  obtain ⟨earlier, made, rfl⟩ := asks.suffix
  obtain ⟨attempt, placing, waits⟩ := (dialsAwaited.dialsAwaited made).resolve_left untaken
  obtain ⟨position, here⟩ := List.mem_iff_getElem?.mp waits
  exact ⟨position, attempt, placing, here⟩

end Office
end Switchboard
