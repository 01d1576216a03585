import Switchboard.Proofs.Placing

/-! A new connection in the books: the exchange listens to it and keeps its plan, and somebody is
its agent. A call that is placed begins with this. -/

namespace Switchboard

variable {terms : Terms} {rounds : Nat} {α β : Type}

theorem System.reviseConnection_newest {ε : Type} (system : System ε) (registry : Registry)
    (call : Connection) (change : Connection → Connection) :
    ({ system with connections := system.connections ++ [call], registry } :
        System ε).reviseConnection (.issued system.connections.length) change =
      { system with connections := system.connections ++ [change call], registry } := by
  have newest : (system.connections ++ [call]).modify system.connections.length change =
      system.connections ++ [change call] := by
    rw [List.modify_eq_take_cons_drop (by simp)]
    simp
  rw [reviseConnection, newest]

theorem Act.ensures_register_newest {wiring : Wiring Chronicle} {system : System Chronicle}
    {call : Connection} {plans : List (ConnectionId × DialPlan)} (fresh : call.listeners = [])
    (goal : Unit → System Chronicle → Prop) :
    (register (.issued system.connections.length)).Ensures wiring
        { system with
          connections := system.connections ++ [call]
          registry := { system.registry with plans := plans ++ system.registry.plans } } goal ↔
      (track (.connection (.issued system.connections.length))).Ensures wiring
        (system.joined { call with listeners := [.exchange] } plans) fun _ after =>
          (announce (.connectionAdded (.issued system.connections.length))).Ensures wiring after
            goal := by
  have newest : ({ system with
      connections := system.connections ++ [call]
      registry := { system.registry with plans := plans ++ system.registry.plans } }
        : System Chronicle).connection (.issued system.connections.length) = call := by
    simp [System.connection]
  simp only [register, addListener, ensures_bind, ensures_look, newest, fresh]
  simp only [List.contains_nil, Bool.false_eq_true, if_false, ensures_bind, ensures_revise,
    ensures_pure, ensures_reviseRegistry, System.reviseConnection_newest, fresh]
  exact Iff.rfl

theorem Act.ripple_register {system : System Chronicle} {call : Connection}
    {plans : List (ConnectionId × DialPlan)} (fresh : call.listeners = [])
    (calm : (system.joined { call with listeners := [.exchange] } plans).Steady) :
    (register (.issued system.connections.length)).Ensures (.level .silent rounds)
      { system with
        connections := system.connections ++ [call]
        registry := { system.registry with plans := plans ++ system.registry.plans } }
      fun _ after => Ripple (fun notes : Chronicle => notes)
        (system.joined { call with listeners := [.exchange] } plans) after := by
  have announcing : (do
      track (.connection (.issued system.connections.length))
      announce (.connectionAdded (.issued system.connections.length))).Rippling
        (.level .silent rounds) fun notes : Chronicle => notes :=
    .bind (rippling_track (Wiring.ripples_notes rounds) _) fun _ =>
      .modify fun _ => Ripple.of_conferences ..
  rw [ensures_register_newest fresh, ← ensures_bind]
  exact announcing _ calm

namespace Placement

def plan (placement : Placement) (request : CallRequest) : DialPlan where
  dial := placement.number.dial
  video := request.video
  emergency := placement.number.emergency
  testEmergency := placement.number.test
  routing := placement.routing
  participants := request.participants

def parameters (placement : Placement) (device : Device) (request : CallRequest) :
    CallParameters where
  phone := placement.phone.id
  technology := (device.phone placement.slot).technology
  address := placement.number.address
  subscription := (device.phone placement.slot).subscription
  video := request.video
  emergency := placement.number.emergency
  testEmergency := placement.number.test
  adhocConference := !request.participants.isEmpty
  carrier := placement.carrier
  extras := request.extras

end Placement

def System.enlisting (system : System Chronicle) (request : CallRequest)
    (placement : Placement) : System Chronicle :=
  let redial := placement.number.emergency && system.settings.emergencyRedial
  system.joined (.enlisted (placement.parameters system.device request) redial)
    [(.issued system.connections.length, placement.plan request)]

def Act.introduce (request : CallRequest) (placement : Placement) (id : ConnectionId) :
    Act Chronicle ConnectionId := do
  track (.connection id)
  announce (.connectionAdded id)
  if placement.number.emergency then
    let role := (← get).roleFor placement.routing
    reviseRegistry fun registry => { registry with roles := (registry.roles.assign role id).2 }
  if request.rtt then setRttStream id (some ("rtt-" ++ id.text))
  return id

theorem Act.ensures_enroll {wiring : Wiring Chronicle} {system : System Chronicle}
    (request : CallRequest) (placement : Placement)
    (goal : ConnectionId → System Chronicle → Prop) :
    (enroll request placement).Ensures wiring system goal ↔
      (introduce request placement (.issued system.connections.length)).Ensures wiring
        (system.enlisting request placement) goal := by
  let id := ConnectionId.issued system.connections.length
  let redial := placement.number.emergency && system.settings.emergencyRedial
  have register (goal : Unit → System Chronicle → Prop) :=
    @ensures_register_newest wiring system
      { Connection.create (placement.parameters system.device request) with
        redialEnabled := redial }
      [(id, placement.plan request)] rfl goal
  simp only [enroll, introduce, create, setRedialEnabled, ensures_bind, ensures_get,
    ensures_modify, ensures_pure, ensures_revise, ensures_reviseRegistry,
    System.reviseConnection_newest]
  exact register _

def System.streamed (system : System Chronicle) (request : CallRequest) (id : ConnectionId) :
    System Chronicle :=
  if request.rtt then system.changed id ({ · with rttStream := some ("rtt-" ++ id.text) })
  else system

theorem Act.ripple_introduce {system : System Chronicle} (rest : system.AtRest)
    (request : CallRequest) (placement : Placement) (id : ConnectionId) :
    (introduce request placement id).Ensures (.level .silent rounds) system fun other after =>
      other = id ∧
        Ripple (fun notes : Chronicle => notes) (system.streamed request id) after := by
  have finish {now : System Chronicle}
      (ripple : Ripple (fun notes : Chronicle => notes) system now) :
      (do
        if request.rtt then Act.setRttStream id (some ("rtt-" ++ id.text))
        return id : Act Chronicle ConnectionId).Ensures (.level .silent rounds) now
          fun other after => other = id ∧
            Ripple (fun notes : Chronicle => notes) (system.streamed request id) after := by
    let change (call : Connection) := { call with rttStream := some ("rtt-" ++ id.text) }
    dsimp only
    split
    · rename_i rtt
      rw [ensures_bind]
      refine (ripple_change (Wiring.ripples_notes rounds) (ripple.atRest rest) id change
        fun _ => rfl).mono fun _ last more => ?_
      rw [ensures_pure, System.streamed, if_pos rtt]
      have set := @Ripple.changed _ _ _ _ _ ripple id change (fun _ => rfl) fun _ gone => gone
      exact ⟨rfl, set.trans more⟩
    · rename_i rtt
      rw [ensures_pure, System.streamed, if_neg rtt]
      exact ⟨rfl, ripple⟩
  rw [introduce, ensures_bind]
  refine (rippling_track (Wiring.ripples_notes rounds) _ system rest.steady).mono
    fun _ now ripple => ?_
  rw [ensures_bind, ensures_announce]
  let told := { now with notices := .connectionAdded id :: now.notices }
  have announced : Ripple (fun notes : Chronicle => notes) system told :=
    ripple.trans (.of_conferences ..)
  cases placement.number.emergency with
  | true =>
    simp only [if_true, ensures_bind, ensures_get, ensures_reviseRegistry]
    have roles (roles : EmergencyRoles) : Ripple (fun notes : Chronicle => notes) told
        { told with registry := { told.registry with roles } } :=
      .of_registry told _ rfl rfl rfl rfl
    exact finish (announced.trans (roles _))
  | false => exact finish announced

/-- A placement is for a phone of the device, and for its emergency numbers. -/
structure Placement.Fits (terms : Terms) (placement : Placement) : Prop where
  phone : placement.phone.id = terms.ident placement.slot
  plan (request : CallRequest) : (placement.plan request).Fits terms placement.phone.id

theorem Device.classify_emergency {device : Device} {request : CallRequest}
    {number : DialedNumber} (classified : device.classify request = .ok number) :
    number.emergency = (device.emergencyNumbers.isEmergency number.dial ||
      device.emergencyNumbers.isTest number.dial) := by
  unfold Device.classify at classified
  split at classified
  · cases classified
  · dsimp only at classified
    split at classified <;> cases classified
    rfl

theorem Orderly.fits {duties : List Duty} {system : System Chronicle}
    (orderly : Orderly terms duties system) {request : CallRequest} {placement : Placement}
    (prepared : system.prepare? request = .ok placement) : placement.Fits terms := by
  unfold System.prepare? at prepared
  dsimp only at prepared
  split at prepared
  · cases prepared
  rename_i number classified
  have emergency := Device.classify_emergency classified
  repeat' split at prepared
  all_goals cases prepared
  all_goals refine ⟨orderly.ident _, fun request numbers agreed => ?_⟩
  all_goals rw [orderly.numbers agreed] at emergency
  · exact ⟨emergency, fun _ => by simp only [orderly.numbers agreed, Placement.plan]⟩
  · rename_i ordinary
    exact ⟨emergency, fun urgent => absurd urgent ordinary⟩

namespace Spot

variable {spot : Spot}

theorem Sound.after (sound : spot.Sound terms) {own : List Duty} {after : System Chronicle}
    (effects : Effects terms (.task spot.subject) spot.own spot.system own after) :
    Sound terms ⟨spot.subject, own, after⟩ := by
  obtain ⟨others, resting, orderly⟩ := sound
  exact ⟨others, resting, (effects.frame others).orderly orderly⟩

theorem Sound.enroll (sound : spot.Sound terms) (idle : spot.own = []) (request : CallRequest)
    {placement : Placement} (fits : placement.Fits terms) :
    (Act.enroll request placement).Ensures (.level .silent rounds) spot.system fun id after =>
      Effects terms (.task spot.subject) spot.own spot.system
        [.agent id (.placing placement.slot)] after := by
  obtain ⟨others, -, orderly⟩ := sound
  let id := ConnectionId.issued spot.system.connections.length
  let redial := placement.number.emergency && spot.system.settings.emergencyRedial
  let joined := spot.system.enlisting request placement
  let params := placement.parameters spot.system.device request
  have enlisted := orderly.joined params redial [(id, placement.plan request)]
  rw [Act.ensures_enroll]
  refine (Act.ripple_introduce enlisted.rest request placement id).mono
    fun _ after ⟨same, ripple⟩ => ?_
  subst same
  rw [idle]
  have enroll := @Effect.enroll terms (.task spot.subject) [] spot.system placement.slot
    (placement.plan request) params redial fits.phone (fits.plan request)
  rw [System.streamed] at ripple
  split at ripple
  · let change (call : Connection) := { call with rttStream := some ("rtt-" ++ id.text) }
    have onlyLoses : (joined.connection id).OnlyLoses (change (joined.connection id)) :=
      { Connection.OnlyLoses.refl _ with }
    have rest : (joined.changed id change).AtRest := enlisted.rest.changed id change fun _ => rfl
    have bare (other : ConnectionId) (leg : LegId)
        (had : (joined.connection other).leg = some leg)
        (none : ((joined.changed id change).connection other).leg = none) :
        joined.outside.HasEnded leg ∨
          Duty.ending other ∈ [Duty.agent id (.placing placement.slot)] := by
      rw [System.connection_changed] at none
      split at none
      · rename_i here
        have fresh : joined.connection id = _ := spot.system.connection_joined_newest _ _
        rw [here.1, fresh] at had
        cases had
      · rw [none] at had
        cases had
    exact ((Effects.single enroll).step (.calm (.changed joined id onlyLoses) rest bare)).step
      (.ripple ripple rest)
  · exact (Effects.single enroll).step (.ripple ripple enlisted.rest)

end Spot

namespace Program

theorem Safe.place (request : CallRequest) {spot : Spot} {post : Placed → Spot → Prop}
    (idle : spot.own = []) (goes : ∀ answer (now : Spot), now.own = [] → post answer now) :
    (Program.place openWorld request).Safe terms rounds spot post := by
  refine Safe.bind (Safe.system fun ⟨others, _, orderly⟩ => ?_)
  cases prepared : spot.system.prepare? request with
  | error cause => exact goes _ spot idle
  | ok placement =>
    have fits := orderly.fits prepared
    refine Safe.bind (Harmless.clearSatellite _ spot _ rfl (idle ▸ resting_nil)
      fun objection now same _ => ?_)
    have own := same.trans idle
    cases objection with
    | some cause => exact goes _ now own
    | none =>
      refine Safe.bind (Safe.atOnce fun sound => ?_)
      refine (sound.enroll own request fits).mono fun id after effects => ?_
      exact ⟨_, effects, Safe.complete fits.phone rfl goes⟩

end Program

theorem Operation.safe (operation : Operation) {spot : Spot} (idle : spot.own = []) :
    operation.program.Safe terms rounds spot fun _ now => now.own = [] := by
  by_cases placing : ∃ request, operation = .place request
  · obtain ⟨request, rfl⟩ := placing
    exact Program.Safe.bind (Program.Safe.place request idle fun _ _ own => own)
  · refine operation.harmless (fun request same => placing ⟨request, same⟩) spot.system spot _ rfl
      (idle ▸ resting_nil) fun _ now own _ => own.trans idle

def FollowUp.duties : FollowUp → List Duty
  | redial id failed permanent => [.agent id (.redialing failed permanent)]
  | reselect id _ _ => [.agent id .reselecting]
  | errand _ => []

theorem FollowUp.safe (work : FollowUp) {spot : Spot} (own : spot.own = work.duties)
    (subject : spot.subject = subjectOf work.duties)
    (enabled : ∀ id, .agent id .reselecting ∈ work.duties →
      terms.settings.domainSelection = true) :
    work.program.Safe terms rounds spot fun _ now => now.own = [] := by
  cases work with
  | redial id failed permanent =>
    exact Program.Safe.redial subject (.now own) fun _ done _ => done
  | reselect id cause code =>
    have enabled := enabled id List.mem_cons_self
    exact Program.Safe.reselectFrom enabled _ (.now own) fun _ done _ => done
  | errand number => exact own

end Switchboard
