import Switchboard.Proofs.NonDialing

/-! Dialing for a client. A task that dials for a call goes on with it from one attempt to the next
until the call is bound to a leg, or nobody has to dial for it any more; so does a task that puts a
call in the books. When the task is done it has no client. -/

namespace Switchboard

variable {regime : Regime} {α β : Type}

namespace Program

variable {id : ConnectionId} {system : System Chronicle}

section
variable (upholds : regime.Upholds)
include upholds

/-- The client is ended, and needs nobody. -/
theorem Keeps.disconnect {info : DisconnectInfo}
    {post : Unit → ClientStatus → System Chronicle → Prop}
    (goes : ∀ after, system.Since after → regime.NeedsNoDial after id →
      post () (.serving id) after) :
    (Program.disconnect id info).Keeps regime (.serving id) system post := by
  refine Keeps.atOnce fun clientsInOrder => ?_
  refine (upholds.disconnect id info clientsInOrder.fit).mono
    fun _ after ⟨fit, concernsNoTask, needsNoDial⟩ => ?_
  exact ⟨fit, concernsNoTask, goes after concernsNoTask.toSince needsNoDial⟩

theorem Keeps.bindLeg {leg : LegId} {post : Unit → ClientStatus → System Chronicle → Prop}
    (goes : ∀ after, system.Since after → post () .finished after) :
    (Program.atOnce (Act.bind id leg)).Keeps regime (.serving id) system post := by
  intro clientsInOrder
  refine (upholds.bind id leg clientsInOrder.fit clientsInOrder.known).mono
    fun _ after ⟨fit, binds⟩ => ?_
  exact ⟨.finished, .binds fit binds, goes after binds.toSince⟩

theorem Keeps.dialAndBind {slot : Slot} {domain : Option Domain}
    {post : DialOutcome → ClientStatus → System Chronicle → Prop}
    (cancelled : ∀ after, system.Since after → regime.NeedsNoDial after id →
      post .cancelled (.serving id) after)
    (bound : ∀ after, system.Since after → post .bound .finished after)
    (noCall : ∀ after, system.Since after → post .noCall (.serving id) after)
    (failed : ∀ error after, system.Since after → post (.failed error) (.serving id) after) :
    (Program.dialAndBind openWorld id slot domain).Keeps regime (.serving id) system post := by
  refine Keeps.bind (Keeps.get fun clientsInOrder => ?_)
  cases held : system.planOf? id with
  | none => exact cancelled system (.refl _) (upholds.unplanned clientsInOrder.fit held)
  | some plan =>
    refine Keeps.bind (Keeps.bind (Keeps.get fun _ => ?_))
    refine Keeps.bind (Keeps.converse nofun (.dials held) fun answer after since => ?_)
    cases answer with
    | leg leg =>
      refine Keeps.bind (Keeps.isLive upholds ?_ fun needsNoDial => ?_)
      · exact Keeps.bind (Keeps.bindLeg upholds fun last more => bound last (since.trans more))
      · refine Keeps.bind ((Uses.hangupLeg (Act.permits_keepsClient upholds) leg).keeps nofun
          fun _ last more => ?_)
        have known := since.known clientsInOrder.known
        exact cancelled last (since.trans more) (needsNoDial.since known more)
    | reply reply =>
      cases reply with
      | refused error => exact failed error after since
      | _ => exact noCall after since

theorem Keeps.redialFrom (patience : Nat) {failed : PhoneId} {permanent : Bool}
    {post : Unit → ClientStatus → System Chronicle → Prop}
    (goes : ∀ now after, regime.Served () now after → post () now after) :
    (Program.redialFrom openWorld id patience failed permanent).Keeps regime (.serving id) system
      post := by
  have leave {after : System Chronicle} (needsNoDial : regime.NeedsNoDial after id) :
      post () (.serving id) after :=
    goes _ after (.serving needsNoDial)
  induction patience generalizing failed permanent system with
  | zero => exact fun _ => Act.ensures_failure _
  | succ patience ih =>
    refine Keeps.bind (Keeps.isLive upholds ?_ leave)
    refine Keeps.bind
      ((KeepsClient.atOnce (Act.keepsClient_nextPhone upholds id failed permanent)).keeps nofun
      fun next picked _ => ?_)
    cases next with
    | none => exact Keeps.disconnect upholds fun _ _ => leave
    | some next =>
      refine Keeps.bind (Keeps.get fun _ => ?_)
      dsimp only
      cases picked.device.slotOf? next with
      | none => exact ih
      | some slot =>
        refine Keeps.bind
          ((KeepsClient.atOnce (Act.keepsClient_reassign upholds id _ _ _ _)).keeps nofun
          fun _ moved _ => ?_)
        refine Keeps.bind (Keeps.dialAndBind upholds (fun _ _ => leave) (fun last _ => ?_)
          (fun last _ => ?_) fun error last _ => ?_)
        · exact goes _ last nofun
        · exact Keeps.disconnect upholds fun _ _ => leave
        · dsimp only
          split
          · exact Keeps.disconnect upholds fun _ _ => leave
          · exact ih

theorem Keeps.redial {failed : PhoneId} {permanent : Bool}
    {post : Unit → ClientStatus → System Chronicle → Prop}
    (goes : ∀ now after, regime.Served () now after → post () now after) :
    (Program.redial openWorld id failed permanent).Keeps regime (.serving id) system post :=
  Keeps.bind ((KeepsClient.atOnce Act.keepsClient_rounds).keeps nofun fun _ _ _ =>
    Keeps.redialFrom upholds _ goes)

theorem Keeps.reselectFrom (left : Nat) {cause : DisconnectCause} {code : Int}
    {post : Unit → ClientStatus → System Chronicle → Prop}
    (goes : ∀ now after, regime.Served () now after → post () now after) :
    (Program.reselectFrom openWorld id left cause code).Keeps regime (.serving id) system post := by
  have leave {after : System Chronicle} (needsNoDial : regime.NeedsNoDial after id) :
      post () (.serving id) after :=
    goes _ after (.serving needsNoDial)
  induction left generalizing cause code system with
  | zero => exact Keeps.disconnect upholds fun _ _ => leave
  | succ left ih =>
    have ending {now : System Chronicle} {info : DisconnectInfo} :
        (Program.disconnect id info).Keeps regime (.serving id) now post :=
      Keeps.disconnect upholds fun _ _ => leave
    refine Keeps.bind (Keeps.isLive upholds ?_ leave)
    refine Keeps.bind (Keeps.get fun _ => ?_)
    dsimp only
    split
    · exact Keeps.bind ending
    split
    case h_2 => exact ending
    refine Keeps.bind
      ((Uses.reselect (Act.permits_keepsClient upholds) (Act.keepsClient_note rfl)).keeps nofun
      fun answer now _ => ?_)
    split
    · exact Keeps.bind ending
    refine Keeps.bind (Keeps.isLive upholds ?_ leave)
    refine Keeps.bind (Keeps.dialAndBind upholds (fun _ _ => leave) (fun last _ => ?_)
      (fun _ _ => ending) fun error last _ => ?_)
    · exact goes _ last nofun
    · dsimp only
      split
      · exact ih
      · exact ending

omit upholds in
theorem Keeps.gone {status : ClientStatus} {post : Placed → ClientStatus → System Chronicle → Prop}
    (goes : ∀ answer, post answer status system) :
    (Program.gone id).Keeps regime status system post :=
  Keeps.bind (Keeps.call fun _ => goes _)

theorem Keeps.fail {info : DisconnectInfo} {post : Placed → ClientStatus → System Chronicle → Prop}
    (goes : ∀ answer after, regime.NeedsNoDial after id → post answer (.serving id) after) :
    (Program.fail id info).Keeps regime (.serving id) system post :=
  Keeps.bind (Keeps.disconnect upholds fun after _ needsNoDial =>
    Keeps.bind (Keeps.call fun _ => goes _ after needsNoDial))

variable {post : Placed → ClientStatus → System Chronicle → Prop}
  (goes : ∀ answer now after, regime.Served () now after → post answer now after)
include goes

theorem Keeps.settle {phone : PhoneId} {outcome : DialOutcome} {status : ClientStatus}
    (bound : outcome = .bound → status = .finished)
    (serving : outcome ≠ .bound → status = .serving id)
    (cancelled : outcome = .cancelled → regime.NeedsNoDial system id) :
    (Program.settle openWorld id phone outcome).Keeps regime status system post := by
  have leave {answer : Placed} {after : System Chronicle}
      (needsNoDial : regime.NeedsNoDial after id) :
      post answer (.serving id) after :=
    goes _ _ after (.serving needsNoDial)
  have look {now : ClientStatus} {after : System Chronicle} (served : regime.Served () now after) :
      (do
        if ← Program.isLive id then return .ok id
        Program.gone id : Program Chronicle Placed).Keeps regime now after post :=
    Keeps.bind (Keeps.isLive upholds (goes _ _ _ served) fun _ =>
      Keeps.gone fun _ => goes _ _ _ served)
  cases outcome with
  | bound =>
    rw [bound rfl]
    exact goes _ _ _ nofun
  | noCall =>
    rw [serving nofun]
    exact Keeps.fail upholds fun _ _ => leave
  | cancelled =>
    rw [serving nofun]
    exact Keeps.gone fun _ => leave (cancelled rfl)
  | failed error =>
    rw [serving nofun]
    refine Keeps.bind (Keeps.call fun _ => Keeps.bind (Keeps.get fun _ => ?_))
    dsimp only
    split
    · exact Keeps.bind (Keeps.redial upholds fun _ _ => look)
    split
    · exact Keeps.bind (Keeps.reselectFrom upholds _ fun _ _ => look)
    · exact Keeps.bind (Keeps.fail upholds fun _ _ => leave)

omit goes upholds in
theorem Keeps.optional {condition : Prop} [Decidable condition] {first : Program Chronicle Unit}
    {rest : Program Chronicle α} {status : ClientStatus}
    {post : α → ClientStatus → System Chronicle → Prop}
    (keepsClient : first.KeepsClient regime) (waits : status ≠ .finished)
    (goes : ∀ now, system.Since now → rest.Keeps regime status now post) :
    (if condition then first >>= fun _ => rest else rest).Keeps regime status system post := by
  split
  · exact Keeps.bind (keepsClient.keeps waits fun _ now since => goes now since)
  · exact goes system (.refl _)

omit goes in
theorem Keeps.ensureRadio {slot : Slot} {emergency : Bool}
    {post : Option Placed → ClientStatus → System Chronicle → Prop}
    (ready : ∀ after, system.Since after → post none (.serving id) after)
    (refused : ∀ answer after, regime.NeedsNoDial after id →
      post (some answer) (.serving id) after) :
    (Program.ensureRadio openWorld id slot emergency).Keeps regime (.serving id) system post := by
  have cancel {now : System Chronicle}
      (needsNoDial : regime.ClientsInOrder (.serving id) now → regime.NeedsNoDial now id) :
      (do return some (← Program.gone id) : Program Chronicle (Option Placed)).Keeps regime
        (.serving id) now post :=
    Keeps.bind
      (Keeps.bind (Keeps.call fun clientsInOrder => refused _ _ (needsNoDial clientsInOrder)))
  have fail {now : System Chronicle} (info : DisconnectInfo) :
      (do return some (← Program.fail id info) : Program Chronicle (Option Placed)).Keeps regime
        (.serving id) now post :=
    Keeps.bind (Keeps.fail upholds fun _ _ => refused _ _)
  have look {now : System Chronicle} (since : system.Since now) :
      (do
        if ← Program.isLive id then return none
        return some (← Program.gone id) : Program Chronicle (Option Placed)).Keeps regime
          (.serving id) now post :=
    Keeps.bind (Keeps.isLive upholds (ready now since) fun needsNoDial =>
      cancel fun _ => needsNoDial)
  refine Keeps.bind (Keeps.get fun _ => ?_)
  dsimp only
  split
  · refine Keeps.optional (Uses.airplaneOff (Act.permits_keepsClient upholds))
      nofun fun now since => ?_
    refine Keeps.bind ((Uses.power (Act.permits_keepsClient upholds) slot _ _).keeps nofun
      fun _ up more => ?_)
    have since := since.trans more
    refine Keeps.bind (Keeps.get fun _ => ?_)
    refine Keeps.bind (Keeps.bind (Keeps.await nofun (fun outcome after more found => ?_)
      fun after more => fail _))
    split at found
    · cases found
      exact look (since.trans more)
    split at found
    · rename_i ended
      cases found
      exact cancel fun clientsInOrder => upholds.watched clientsInOrder.fit (eq_of_beq ended)
    · cases found
  · split
    · exact fail _
    · exact look (.refl _)

theorem Keeps.dialOut {placement : Placement} (domain : Option Domain) :
    (Program.dialOut openWorld id placement domain).Keeps regime (.serving id) system post := by
  refine Keeps.bind (Keeps.isLive upholds ?_ fun needsNoDial => ?_)
  · refine Keeps.bind (Keeps.dialAndBind upholds (fun _ _ needsNoDial => ?_) (fun _ _ => ?_)
      (fun _ _ => ?_) fun error _ _ => ?_)
    · exact Keeps.settle upholds goes nofun (fun _ => rfl) fun _ => needsNoDial
    · exact Keeps.settle upholds goes (fun _ => rfl) (absurd rfl) nofun
    · exact Keeps.settle upholds goes nofun (fun _ => rfl) nofun
    · exact Keeps.settle upholds goes nofun (fun _ => rfl) nofun
  · exact Keeps.bind (Keeps.gone fun _ => goes _ _ _ (.serving needsNoDial))

theorem Keeps.chooseAndDial {placement : Placement} :
    (Program.chooseAndDial openWorld id placement).Keeps regime (.serving id) system post := by
  refine Keeps.bind (Keeps.get fun _ => ?_)
  split
  · refine Keeps.bind
      ((Uses.selectDomain ((Act.permitsNonDialing_keepsClient upholds).selects id) _).keeps nofun
      fun answer _ _ => ?_)
    cases answer with
    | ok domain => exact Keeps.dialOut upholds goes domain
    | error cause =>
      exact Keeps.bind (Keeps.fail upholds fun _ _ needsNoDial => goes _ _ _ (.serving needsNoDial))
  · refine Keeps.bind ((Uses.prepareToDial (Act.permits_keepsClient upholds) id _ _ _).keeps nofun
      fun _ _ _ => ?_)
    exact Keeps.dialOut upholds goes none

theorem Keeps.complete {placement : Placement} :
    (Program.complete openWorld id placement).Keeps regime (.serving id) system post := by
  rw [complete_eq]
  refine Keeps.bind (Keeps.ensureRadio upholds (fun _ _ => ?_)
    fun answer _ needsNoDial => goes _ _ _ (.serving needsNoDial))
  dsimp only
  split
  · refine Keeps.bind ((Uses.prepareForEmergency (Act.permits_keepsClient upholds) id _ _ fun _ =>
        Act.keepsClient_note rfl).keeps nofun
      fun _ _ _ => ?_)
    refine Keeps.bind (Keeps.isLive upholds ?_ fun needsNoDial => ?_)
    · exact Keeps.chooseAndDial upholds goes
    · exact Keeps.bind (Keeps.gone fun _ => goes _ _ _ (.serving needsNoDial))
  · exact Keeps.chooseAndDial upholds goes

theorem Keeps.place (request : CallRequest) :
    (Program.place openWorld request).Keeps regime .free system post := by
  refine Keeps.bind (Keeps.get fun _ => ?_)
  split
  · exact goes _ _ _ nofun
  · refine Keeps.bind ((Uses.clearSatellite (Act.permits_keepsClient upholds) _).keeps nofun
      fun objection now _ => ?_)
    cases objection with
    | some cause => exact goes _ _ _ nofun
    | none =>
      refine Keeps.bind fun clientsInOrder => ?_
      refine (upholds.enroll request _ clientsInOrder.fit).mono
        fun id after ⟨same, fit, addsOne⟩ => ?_
      exact ⟨_, .addsOne fit addsOne, same ▸ Keeps.complete upholds goes⟩

end

end Program

theorem Operation.keeps (upholds : regime.Upholds) (operation : Operation)
    (system : System Chronicle) : operation.program.Keeps regime .free system regime.Served := by
  by_cases placing : ∃ request, operation = .place request
  · obtain ⟨request, rfl⟩ := placing
    exact Program.Keeps.bind (Program.Keeps.place upholds (fun _ _ _ served => served) request)
  · refine (Program.Uses.operation_of_permitsNonDialing (Act.permitsNonDialing_keepsClient upholds)
      fun request same => placing ⟨request, same⟩).keeps nofun ?_
    exact fun _ _ _ => nofun

def FollowUp.client? : FollowUp → Option ConnectionId
  | redial id _ _ => some id
  | reselect id _ _ => some id
  | errand _ => none

theorem FollowUp.keeps (upholds : regime.Upholds) (work : FollowUp) (system : System Chronicle) :
    work.program.Keeps regime (.of work.client?) system regime.Served := by
  cases work with
  | redial id failed permanent => exact Program.Keeps.redial upholds fun _ _ served => served
  | reselect id cause code => exact Program.Keeps.reselectFrom upholds _ fun _ _ served => served
  | errand number => exact nofun

end Switchboard
