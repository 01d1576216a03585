import Switchboard.Proofs.Trace

/-! The outcome of one step. Unless a call is put in the books, no connection is new; who is
destroyed stays so, plans may be lost, and a call is moved to another phone only by the task whose
own it is (`System.Stays`). Besides that there are notes, dials, calls that are enrolled or come in,
and changes of the device (`StepOutcome`). -/

namespace Switchboard

variable {moved own : ConnectionId → Prop} {worldly : Prop}
  {before middle after system : System Chronicle} {rounds : Nat}

/-- A call that is there to stay: it does not come back, and as long as its binding is the same, it
does not ring anew. -/
structure Connection.Persists (old new : Connection) : Prop where
  gone : old.destroyed = true → new.destroyed = true
  shown : (old.destroyed = true → old.published.state = .disconnected) →
    new.destroyed = true → new.published.state = .disconnected
  plain : old.presented = none → new.presented = none
  generation : old.generation ≤ new.generation
  leads : new.generation = old.generation → old.presented = none →
    old.standing.LeadsTo new.standing

namespace Connection.Persists

theorem of_onlyLoses {old new : Connection} (onlyLoses : old.OnlyLoses new) : old.Persists new where
  gone := onlyLoses.destroyed
  shown := onlyLoses.shown
  plain := onlyLoses.plain
  generation := onlyLoses.generation
  leads _ := onlyLoses.leads

theorem refl (call : Connection) : call.Persists call := of_onlyLoses (.refl call)

theorem trans {old middle new : Connection} (first : old.Persists middle)
    (second : middle.Persists new) : old.Persists new where
  gone gone := second.gone (first.gone gone)
  shown shows := second.shown (first.shown shows)
  plain none := second.plain (first.plain none)
  generation := Nat.le_trans first.generation second.generation
  leads same none := by
    have early := first.generation
    have late := second.generation
    exact (first.leads (by omega) none).trans (second.leads (by omega) (first.plain none))

theorem of_same {old new : Connection} (destroyed : new.destroyed = old.destroyed)
    (published : new.published = old.published) (presented : new.presented = old.presented)
    (generation : new.generation = old.generation) (state : new.visibleState = old.visibleState) :
    old.Persists new where
  gone gone := destroyed.trans gone
  shown shows gone := published ▸ shows (destroyed.symm.trans gone)
  plain none := presented.trans none
  generation := Nat.le_of_eq generation.symm
  leads _ _ := leads_of_shown destroyed state

end Connection.Persists

namespace System

/-- Nobody is new, nobody comes back, and only those are on another phone that are `moved`. -/
structure Stays (moved : ConnectionId → Prop) (before after : System Chronicle) : Prop where
  count : after.connections.length = before.connections.length
  calls (id : ConnectionId) : (before.connection id).Persists (after.connection id)
  phone {id : ConnectionId} : ¬ moved id →
    (after.connection id).phone = (before.connection id).phone
  plan {id : ConnectionId} {plan : DialPlan} : after.planOf? id = some plan →
    before.planOf? id = some plan
  settings : after.settings = before.settings
  device : after.device = before.device
  outside : after.outside = before.outside

namespace Stays

theorem of_calm (calm : Calm before after) : before.Stays moved after where
  count := calm.count
  calls id := .of_onlyLoses (calm.onlyLoses id)
  phone _ := (calm.onlyLoses _).phone
  plan {id _} held := by
    rcases calm.plan id with same | none
    · exact same.symm.trans held
    · rw [none] at held
      cases held
  settings := calm.settings
  device := calm.device
  outside := calm.outside

theorem refl (system : System Chronicle) : system.Stays moved system :=
  of_calm (.refl system)

theorem trans (first : before.Stays moved middle) (second : middle.Stays moved after) :
    before.Stays moved after where
  count := second.count.trans first.count
  calls id := (first.calls id).trans (second.calls id)
  phone still := (second.phone still).trans (first.phone still)
  plan held := first.plan (second.plan held)
  settings := second.settings.trans first.settings
  device := second.device.trans first.device
  outside := second.outside.trans first.outside

theorem gone (stays : before.Stays moved after) {id : ConnectionId}
    (gone : (before.connection id).destroyed = true) : (after.connection id).destroyed = true :=
  (stays.calls id).gone gone

theorem of_ripple (ripple : Ripple (fun notes : Chronicle => notes) before after) :
    before.Stays moved after :=
  of_calm (.of_ripple ripple)

theorem aside (connections : after.connections = before.connections)
    (plans : after.registry.plans = before.registry.plans)
    (settings : after.settings = before.settings) (device : after.device = before.device)
    (outside : after.outside = before.outside) : before.Stays moved after := by
  have same (id : ConnectionId) : after.connection id = before.connection id :=
    connection_congr connections id
  exact {
    count := by rw [connections]
    calls := fun id => by rw [same]; exact .refl _
    phone := fun {id} _ => by rw [same]
    plan := fun held => by
      rw [planOf?, plans] at held
      exact held
    settings := settings
    device := device
    outside := outside }

theorem revise (system : System Chronicle) (id : ConnectionId) {change : Connection → Connection}
    (persists : (system.connection id).Persists (change (system.connection id)))
    (phone : moved id ∨ (change (system.connection id)).phone = (system.connection id).phone) :
    system.Stays moved (system.reviseConnection id change) where
  count := by simp
  calls := system.kept_revise id persists .refl
  phone {other} still := by
    rw [connection_reviseConnection]
    split
    · rename_i here
      rw [phone.resolve_left (here.1 ▸ still), here.1]
    · rfl
  plan held := by simpa using held
  settings := by simp
  device := by simp
  outside := by simp

theorem changed (system : System Chronicle) (id : ConnectionId) {change : Connection → Connection}
    (persists : (system.connection id).Persists (change (system.connection id)))
    (phone : moved id ∨ (change (system.connection id)).phone = (system.connection id).phone) :
    system.Stays moved (system.changed id change) :=
  (revise system id persists phone).trans (of_calm (.settle _ id))

theorem bound (system : System Chronicle) (id : ConnectionId) (leg : LegId) :
    system.Stays moved (system.bound id leg) := by
  have revised : system.Stays moved
      (system.reviseConnection id (.bound leg (system.leg leg).view)) :=
    revise system id ⟨fun gone => gone, fun shows => shows, fun _ => rfl, Nat.le_succ _,
      fun same => absurd same (Nat.succ_ne_self _)⟩ (.inr rfl)
  have tied : system.Stays moved (system.tied id leg) :=
    (revised.trans (of_calm (.release _ _))).trans (aside rfl rfl rfl rfl rfl)
  exact tied.trans (of_calm (.settle _ id))

theorem ask (system : System Chronicle) (id : ConnectionId) (event : ConnectionEvent)
    (work : FollowUp) : system.Stays moved (system.ask id event work) := by
  rw [System.ask]
  generalize (system.connection id).listeners = listeners
  induction listeners generalizing system with
  | nil => exact refl system
  | cons listener rest ih =>
    refine trans ?_ (ih _)
    have written : system.Stays moved
        { system with journal := .heard listener id event :: system.journal } :=
      aside rfl rfl rfl rfl rfl
    rw [hear]
    split
    · rw [pursue]
      split
      · exact written.trans (aside rfl rfl rfl rfl rfl)
      · exact written.trans (of_calm (.ending _ id _))
    · exact written

theorem heed (system : System Chronicle) (id : ConnectionId) (event : RadioEvent) :
    system.Stays moved (system.heed id event) := by
  have given (event : ConnectionEvent) (work : FollowUp) :
      system.Stays moved ((system.givenUp id).ask id event work) :=
    (of_calm (.givenUp system id)).trans (ask _ id event work)
  cases event with
  | disconnected failure code message =>
    rw [System.heed, System.legEnded]
    split
    · exact given _ _
    · exact given _ _
    · exact of_calm (.ending system id _)
  | stateChanged next =>
    rw [System.heed]
    split
    · rename_i can
      exact changed system id (.of_onlyLoses (Connection.onlyLoses_becoming can)) (.inr rfl)
    · exact refl system
  | technologyChanged technology =>
    have shown : ((system.connection id).follow (.technologyChanged technology)).visibleState =
        (system.connection id).visibleState := Connection.follow_visibleState _ fun _ => rfl
    exact changed system id (.of_same rfl rfl rfl rfl shown) (.inr rfl)
  | _ =>
    refine changed system id (.of_same rfl rfl rfl rfl ?_) (.inr rfl)
    exact Connection.follow_visibleState _ fun _ => rfl

theorem legEvent (system : System Chronicle) (id : ConnectionId) (generation : Nat)
    (event : RadioEvent) : system.Stays moved (system.legEvent id generation event) := by
  rw [System.legEvent]
  split
  · exact heed system id event
  · exact refl system

theorem follows (system : System Chronicle) (follower : Option Bridge) (event : RadioEvent) :
    system.Stays moved (system.follows follower event) := by
  cases follower with
  | none => exact refl system
  | some bridge => exact legEvent system _ _ event

theorem reported (system : System Chronicle) (leg : LegId) (event : RadioEvent) :
    system.Stays moved (system.reported leg event) := by
  have shown : system.Stays moved
      (system.reviseLeg leg fun leg => { leg with view := leg.view.apply event }) :=
    aside rfl rfl rfl rfl rfl
  exact shown.trans (follows _ _ event)

end Stays

end System

/-- What a step comes to; the calls of a task are its `own`, and only the world, if the step may be
its, lets calls come in and changes the device. -/
inductive StepOutcome (rounds : Nat) (own : ConnectionId → Prop) (worldly : Prop)
    (before : System Chronicle) : System Chronicle → Prop
  | stays {after : System Chronicle} (stays : before.Stays own after) :
    StepOutcome rounds own worldly before after
  | notes {note : Note} {after : System Chronicle} (plain : note.isDialing = false)
    (stays : (before.noting note).Stays own after) : StepOutcome rounds own worldly before after
  | dials {id : ConnectionId} {plan : DialPlan} (mine : own id)
    (held : before.planOf? id = some plan) (phone : PhoneId) (domain : Option Domain) :
    StepOutcome rounds own worldly before (before.noting
      (.asked (.dial id phone plan.dial (plan.args (before.connection id) domain))))
  | enrolls {request : CallRequest} {placement : Placement} {after : System Chronicle}
    (mine : own (.issued before.connections.length))
    (allowed : placement.number.emergency = false → before.prepare? request = .ok placement)
    (run : Act.enroll request placement (.level .silent rounds) before =
      some (.issued before.connections.length, after))
    (stays : (before.enlisting request placement).Stays own after) :
    StepOutcome rounds own worldly before after
  | arrives {params : CallParameters} {view : RadioSnapshot} {after : System Chronicle}
    (free : worldly)
    (stays : ((before.gained view (.rang (.issued before.connections.length)
      ⟨before.legs.length⟩)).joined (.enlisted params false) []).Stays own after) :
    StepOutcome rounds own worldly before after
  | alters (free : worldly) (change : Alteration) :
    StepOutcome rounds own worldly before { before with device := change.apply before.device }

namespace Act

theorem enroll_stays (rest : system.AtRest) (request : CallRequest) (placement : Placement) :
    (enroll request placement).Ensures (.level .silent rounds) system fun id after =>
      id = .issued system.connections.length ∧
        (system.enlisting request placement).Stays own after := by
  have joined : (system.enlisting request placement).AtRest := rest.joined _ _ _
  rw [ensures_enroll]
  refine (ripple_introduce joined request placement _).mono fun id after ⟨same, ripple⟩ => ?_
  refine ⟨same, .trans ?_ (.of_ripple ripple)⟩
  rw [System.streamed]
  split
  · exact .changed _ _ (.of_same rfl rfl rfl rfl rfl) (.inr rfl)
  · exact .refl _

theorem stepOutcome_of_stays {β : Type} {step : Act Chronicle β}
    (stays : step.Ensures (.level .silent rounds) before fun _ after => before.Stays own after) :
    step.Ensures (.level .silent rounds) before fun _ after =>
      StepOutcome rounds own worldly before after :=
  stays.mono fun _ _ stays => .stays stays

theorem stays_setDisconnected (rest : before.AtRest) (id : ConnectionId) (info : DisconnectInfo) :
    (setDisconnected id info).Ensures (.level .silent rounds) before fun _ after =>
      before.Stays own after :=
  (ripple_setDisconnected (Wiring.ripples_notes rounds) rest id info).mono fun _ _ ripple =>
    .of_calm ((Calm.ending before id info).trans (.of_ripple ripple))

theorem stays_startSelection (id : ConnectionId) :
    (startSelection id).Ensures (.level .silent rounds) before fun _ after =>
      before.Stays own after :=
  (ensures_startSelection id _).mpr (.aside rfl rfl rfl rfl rfl)

theorem stays_finishSelection (id : ConnectionId) :
    (finishSelection id).Ensures (.level .silent rounds) before fun _ after =>
      before.Stays own after :=
  (ensures_finishSelection id _).mpr (.aside rfl rfl rfl rfl rfl)

theorem stays_setSelectionActive (id : ConnectionId) (active : Bool) :
    (setSelectionActive id active).Ensures (.level .silent rounds) before fun _ after =>
      before.Stays own after := by
  rw [setSelectionActive, ensures_revise]
  exact .revise before id (.of_same rfl rfl rfl rfl rfl) (.inr rfl)

theorem stays_nextPhone (id : ConnectionId) (failed : PhoneId) (permanent : Bool) :
    (nextPhone id failed permanent).Ensures (.level .silent rounds) before fun _ after =>
      before.Stays own after := by
  simp only [nextPhone, ensures_bind, ensures_get, ensures_set, ensures_pure]
  exact .aside rfl rfl rfl rfl rfl

theorem stays_reassign (rest : before.AtRest) {id : ConnectionId} (mine : own id) (phone : PhoneId)
    (subscription : Option SubscriptionId) (technology : Technology) (carrier : CarrierConfig) :
    (reassign id phone subscription technology carrier).Ensures (.level .silent rounds) before
      fun _ after => before.Stays own after := by
  let change (call : Connection) := { call with phone, subscription, technology, carrier }
  have changed : before.Stays own (before.changed id change) :=
    .changed before id (.of_same rfl rfl rfl rfl rfl) (.inl mine)
  exact (ripple_change (Wiring.ripples_notes rounds) rest id change fun _ => rfl).mono
    fun _ after ripple => changed.trans (.of_ripple ripple)

theorem stays_bind (rest : before.AtRest) (id : ConnectionId) (leg : LegId) :
    (bind id leg).Ensures (.level .silent rounds) before fun _ after => before.Stays own after :=
  (ripple_bind (Wiring.ripples_notes rounds) rest id leg).mono fun _ _ ripple =>
    (System.Stays.bound before id leg).trans (.of_ripple ripple)

end Act

theorem TaskStep.stepOutcome {β : Type} {step : Act Chronicle β}
    (taskStep : TaskStep own before step)
    (rest : before.AtRest) :
    step.Ensures (.level .silent rounds) before fun _ after =>
      StepOutcome rounds own worldly before after := by
  cases taskStep with
  | get => exact (Act.ensures_get _).mpr (.stays (.refl _))
  | look id => exact (Act.ensures_look id _).mpr (.stays (.refl _))
  | rounds => exact (Act.ensures_rounds _).mpr (.stays (.refl _))
  | failure => exact Act.ensures_failure _
  | note plain => exact (Act.ensures_reviseOutside _ _).mpr (.notes plain (.refl _))
  | dial mine held phone domain =>
    exact (Act.ensures_reviseOutside _ _).mpr (.dials mine held phone domain)
  | enroll mine allowed =>
    intro value after run
    obtain ⟨rfl, stays⟩ := Act.enroll_stays rest _ _ _ _ run
    exact .enrolls mine allowed run stays
  | disconnect id info => exact Act.stepOutcome_of_stays (Act.stays_setDisconnected rest id info)
  | startSelection id => exact Act.stepOutcome_of_stays (Act.stays_startSelection id)
  | finishSelection id => exact Act.stepOutcome_of_stays (Act.stays_finishSelection id)
  | setSelectionActive id active =>
    exact Act.stepOutcome_of_stays (Act.stays_setSelectionActive id active)
  | nextPhone mine failed permanent =>
    exact Act.stepOutcome_of_stays (Act.stays_nextPhone _ failed permanent)
  | reassign mine phone subscription technology carrier =>
    exact Act.stepOutcome_of_stays
      (Act.stays_reassign rest mine phone subscription technology carrier)
  | bind mine leg => exact Act.stepOutcome_of_stays (Act.stays_bind rest _ leg)

namespace Occasion

def isPlain : Occasion → Bool
  | ring _ _ | alter _ => false
  | _ => true

def outcome (system : System Chronicle) : Occasion → System Chronicle
  | start _ | resume _ | ring _ _ => system
  | report leg event => (system.noting (.reported leg event)).reported leg event
  | reportLate leg event =>
    (system.noting (.reported leg event)).follows (system.leg leg).last event
  | grant ticket view =>
    if system.outside.isOpen ticket && system.outside.isDial ticket then
      system.gained view (.granted ticket ⟨system.legs.length⟩ view)
    else system
  | reply ticket content =>
    if system.outside.isOpen ticket then system.noting (.replied ticket content) else system
  | alter change => { system with device := change.apply system.device }
  | pass milliseconds => { system with clock := system.clock + milliseconds }
  | watch id name =>
    if (system.connection id).listeners.contains (.observer name) then system
    else system.reviseConnection id fun call =>
      { call with listeners := call.listeners ++ [.observer name] }

def isQuiet : Occasion → Bool
  | ring _ _ => false
  | _ => true

theorem ripple_act {occasion : Occasion} (quiet : occasion.isQuiet = true) (rest : system.AtRest) :
    occasion.act.Ensures (.level .silent rounds) system fun _ after =>
      Ripple (fun notes : Chronicle => notes) (occasion.outcome system) after := by
  have unchanged : (pure () : Act Chronicle Unit).Ensures (.level .silent rounds) system
      fun _ after => Ripple (fun notes : Chronicle => notes) system after :=
    (Act.ensures_pure _ _).mpr (.refl system)
  have noting (note : Note) : (system.noting note).AtRest :=
    rest.of_connections fun id => by cases id <;> rfl
  cases occasion with
  | ring phone view => cases quiet
  | start operation => exact unchanged
  | resume position => exact unchanged
  | report leg event =>
    rw [act, Act.ensures_bind, Act.ensures_reviseOutside]
    exact Act.ripple_report Bystanders.observe_notes rounds (noting (.reported leg event)) leg event
  | reportLate leg event =>
    rw [act, Act.ensures_bind, Act.ensures_reviseOutside, Act.ensures_bind]
    exact (Act.ripple_reportLate Bystanders.observe_notes rounds (noting (.reported leg event)) leg
      event).mono fun _ after ripple => (Act.ensures_pure _ _).mpr ripple
  | grant ticket view =>
    simp only [act, Act.ensures_bind, Act.ensures_get, outcome]
    split
    · simp only [Act.createLeg, Act.ensures_bind, Act.ensures_get, Act.ensures_modify,
        Act.ensures_pure, Act.ensures_reviseOutside]
      exact .refl _
    · exact unchanged
  | reply ticket content =>
    simp only [act, Act.ensures_bind, Act.ensures_get, outcome]
    split
    · rw [Act.ensures_reviseOutside]
      exact .refl _
    · exact unchanged
  | alter change =>
    rw [act, Act.ensures_reviseDevice]
    exact .refl _
  | pass milliseconds =>
    rw [act, Act.ensures_modify]
    exact .refl _
  | watch id name =>
    rw [act, Act.ensures_bind, Act.addListener, Act.ensures_bind, Act.ensures_look, outcome]
    split
    · simp only [Act.ensures_pure]
      exact .refl _
    · simp only [Act.ensures_bind, Act.ensures_revise, Act.ensures_pure]
      exact .refl _

theorem stays {occasion : Occasion} (plain : occasion.isPlain = true) (rest : system.AtRest) :
    occasion.act.Ensures (.level .silent rounds) system fun _ after =>
      system.Stays moved after ∨
        ∃ note, note.isAsked = false ∧ (system.noting note).Stays moved after := by
  have quiet : occasion.isQuiet = true := by cases occasion <;> first | rfl | cases plain
  refine (ripple_act quiet rest).mono fun _ after ripple => ?_
  have news : (occasion.outcome system).Stays moved after := .of_ripple ripple
  cases occasion with
  | ring phone view => cases plain
  | alter change => cases plain
  | report leg event =>
    exact .inr ⟨.reported leg event, rfl, (System.Stays.reported _ leg event).trans news⟩
  | reportLate leg event =>
    exact .inr ⟨.reported leg event, rfl, (System.Stays.follows _ _ event).trans news⟩
  | grant ticket view =>
    rw [outcome] at news
    split at news
    · refine .inr ⟨.granted ticket ⟨system.legs.length⟩ view, rfl, .trans ?_ news⟩
      exact .aside rfl rfl rfl rfl rfl
    · exact .inl news
  | reply ticket content =>
    rw [outcome] at news
    split at news
    · exact .inr ⟨.replied ticket content, rfl, news⟩
    · exact .inl news
  | pass milliseconds =>
    have clock : system.Stays moved (outcome system (pass milliseconds)) :=
      .aside rfl rfl rfl rfl rfl
    exact .inl (clock.trans news)
  | watch id name =>
    rw [outcome] at news
    split at news
    · exact .inl news
    · exact .inl (.trans (.revise system id (.of_same rfl rfl rfl rfl rfl) (.inr rfl)) news)
  | _ => exact .inl news

theorem ring_ripples (rest : system.AtRest) (phone : PhoneId) (view : RadioSnapshot) :
    (ring phone view).act.Ensures (.level .silent rounds) system fun _ after =>
      after = system ∨ ∃ params middle,
        Ripple (fun notes : Chronicle => notes) ((system.gained view
          (.rang (.issued system.connections.length) ⟨system.legs.length⟩)).joined
            (.enlisted params false) []) middle ∧
        Ripple (fun notes : Chronicle => notes)
          (middle.bound (.issued system.connections.length) ⟨system.legs.length⟩) after := by
  refine ensures_ring (.inl rfl) fun slot => ?_
  let gained := system.gained view (.rang (.issued system.connections.length)
    ⟨system.legs.length⟩)
  let params := system.callIn slot view
  have still : gained.AtRest := rest.of_connections fun id => by cases id <;> rfl
  have joined : (gained.joined (.enlisted params false) []).AtRest := still.joined params false []
  rw [Act.ensures_bind]
  refine (@Act.ripple_register rounds gained (.create params) [] rfl joined.steady).mono
    fun _ middle entered => ?_
  exact (Act.ripple_bind (Wiring.ripples_notes rounds) (entered.atRest joined)
    (.issued system.connections.length) ⟨system.legs.length⟩).mono fun _ after tied =>
      .inr ⟨params, middle, entered, tied⟩

theorem ring_stays (rest : system.AtRest) (phone : PhoneId) (view : RadioSnapshot) :
    (ring phone view).act.Ensures (.level .silent rounds) system fun _ after =>
      after = system ∨ ∃ params, ((system.gained view (.rang (.issued system.connections.length)
        ⟨system.legs.length⟩)).joined (.enlisted params false) []).Stays own after :=
  (ring_ripples rest phone view).mono fun _ _ happened =>
    happened.imp_right fun ⟨params, middle, entered, tied⟩ =>
      ⟨params,
        .trans (.of_ripple entered) ((System.Stays.bound middle _ _).trans (.of_ripple tied))⟩

theorem stepOutcome (occasion : Occasion) (rest : system.AtRest) :
    occasion.act.Ensures (.level .silent rounds) system fun _ after =>
      StepOutcome rounds own True system after := by
  have plainly {other : Occasion} (plain : other.isPlain = true) :
      other.act.Ensures (.level .silent rounds) system fun _ after =>
        StepOutcome rounds own True system after :=
    (stays plain rest).mono fun _ after happened => by
      rcases happened with stays | ⟨note, silent, stays⟩
      · exact .stays stays
      · exact .notes (Note.not_isDialing_of_not_isAsked silent) stays
  cases occasion with
  | alter change =>
    rw [act, Act.ensures_reviseDevice]
    exact .alters trivial change
  | ring phone view =>
    refine (@ring_stays own _ rounds rest phone view).mono fun _ after happened => ?_
    rcases happened with rfl | ⟨params, stays⟩
    · exact .stays (.refl _)
    · exact .arrives trivial stays
  | _ => exact plainly rfl

theorem unasked (occasion : Occasion) (rest : system.AtRest) :
    occasion.act.Ensures (.level .silent rounds) system fun _ after =>
      ∀ call, after.outside ≠ .asked call :: system.outside := by
  have plainly {other : Occasion} (plain : other.isPlain = true) :
      other.act.Ensures (.level .silent rounds) system fun _ after =>
        ∀ call, after.outside ≠ .asked call :: system.outside :=
    (@stays (fun _ => False) _ rounds _ plain rest).mono fun _ after happened call asks => by
      rcases happened with stays | ⟨note, silent, stays⟩
      · exact absurd (stays.outside.symm.trans asks).symm (List.cons_ne_self _ _)
      · rw [List.head_eq_of_cons_eq (stays.outside.symm.trans asks)] at silent
        cases silent
  cases occasion with
  | alter change =>
    rw [act, Act.ensures_reviseDevice]
    exact fun _ asks => absurd asks.symm (List.cons_ne_self _ _)
  | ring phone view =>
    refine (@ring_stays (fun _ => False) _ rounds rest phone view).mono
      fun _ after happened call asks => ?_
    rcases happened with rfl | ⟨params, stays⟩
    · exact absurd asks.symm (List.cons_ne_self _ _)
    · cases List.head_eq_of_cons_eq (stays.outside.symm.trans asks)
  | _ => exact plainly rfl

end Occasion

namespace StepOutcome

theorem calls (stepOutcome : StepOutcome rounds own worldly before after) (id : ConnectionId) :
    (before.connection id).Persists (after.connection id) ∨
      ¬ before.Known id ∧ ∃ params redial,
        (Connection.enlisted params redial).Persists (after.connection id) := by
  have entering {system : System Chronicle} {params : CallParameters} {redial : Bool}
      {plans : List (ConnectionId × DialPlan)} {now : Connection}
      (persists : ((system.joined (.enlisted params redial) plans).connection id).Persists now)
      (count : system.connections.length = before.connections.length)
      (same : system.connection id = before.connection id) :
      (before.connection id).Persists now ∨
        ¬ before.Known id ∧ ∃ params redial, (Connection.enlisted params redial).Persists now := by
    rw [System.connection_joined] at persists
    split at persists
    · rename_i new
      rw [new, count]
      exact .inr ⟨before.not_known_next, _, _, persists⟩
    · exact .inl (same ▸ persists)
  cases stepOutcome with
  | stays stays => exact .inl (stays.calls id)
  | notes plain stays =>
    have persists := stays.calls id
    rw [System.connection_noting] at persists
    exact .inl persists
  | dials mine held phone domain =>
    rw [System.connection_noting]
    exact .inl (.refl _)
  | enrolls mine allowed run stays => exact entering (stays.calls id) rfl rfl
  | arrives free stays =>
    exact entering (stays.calls id) rfl (System.connection_gained _ _ _ id)
  | alters free change =>
    have same : System.connection { before with device := change.apply before.device } id =
        before.connection id := by cases id <;> rfl
    rw [same]
    exact .inl (.refl _)

theorem shown (stepOutcome : StepOutcome rounds own worldly before after) {id : ConnectionId}
    (shows : (before.connection id).destroyed = true →
      (before.connection id).published.state = .disconnected) :
    (after.connection id).destroyed = true →
      (after.connection id).published.state = .disconnected := by
  rcases stepOutcome.calls id with persists | ⟨-, params, redial, persists⟩
  · exact persists.shown shows
  · exact persists.shown nofun

theorem plain (stepOutcome : StepOutcome rounds own worldly before after) {id : ConnectionId}
    (none : (before.connection id).presented = none) : (after.connection id).presented = .none := by
  rcases stepOutcome.calls id with persists | ⟨-, params, redial, persists⟩
  · exact persists.plain none
  · exact persists.plain rfl

end StepOutcome

theorem Happens.stepOutcome (happens : Happens rounds before after) (rest : before.AtRest) :
    StepOutcome rounds (fun _ => True) True before after := by
  cases happens with
  | taskStep taskStep run => exact taskStep.stepOutcome rest _ _ run
  | world occasion run => exact occasion.stepOutcome rest _ _ run

end Switchboard
