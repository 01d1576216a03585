import Switchboard.Proofs.Duties

/-! All that can happen while tasks and the world take turns, as small changes of a system and of
the duties in it, and what they keep: `Orderly` ties duties and system to each other. A connection
has one agent at most, and no leg while it has one; its leg came into being for it, and only the
events of that leg reach it. -/

namespace Switchboard

def Note.IsPlain (notes : Chronicle) : Note → Prop
  | asked call => call.isDial = false
  | replied ticket _ => notes.isOpen ticket = true
  | taken ticket => (∃ call, notes.Asks ticket call ∧ call.isDial = false) ∧
    ∀ leg, ¬ notes.Ends ticket leg
  | reported _ _ => True
  | granted _ _ _ | rang _ _ => False

namespace Stage

def holdsLeg : Stage → Bool
  | dialing _ _ | received _ _ => true
  | _ => false

def Dials (terms : Terms) (call : Connection) (phone : PhoneId) : Stage → Prop
  | placing slot => phone = terms.ident slot
  | chosen other => phone = other ∧ call.phone = phone
  | reselecting => True
  | _ => False

def Warranted (terms : Terms) (notes : Chronicle) (id : ConnectionId) : Stage → Prop
  | dialing phone ticket => ∃ number args, notes.Asks ticket (.dial id phone number args)
  | received _ leg => notes.Owns id leg
  | reselecting => terms.settings.domainSelection = true
  | _ => True

def ComesUp (call : Connection) : Stage → Prop
  | redialing phone _ => phone = call.phone ∧ call.redialEnabled = true
  | reselecting => call.selectionActive = true
  | _ => False

end Stage

def DialPlan.Fits (terms : Terms) (plan : DialPlan) (phone : PhoneId) : Prop :=
  ∀ numbers, terms.numbers = some numbers →
    plan.emergency = (numbers.isEmergency plan.dial || numbers.isTest plan.dial) ∧
      (plan.emergency = true → plan.routing = some (numbers.routingFor plan.dial phone))

def Connection.enlisted (params : CallParameters) (redial : Bool) : Connection :=
  { Connection.create params with redialEnabled := redial, listeners := [.exchange] }

namespace System

def noting (system : System Chronicle) (note : Note) : System Chronicle :=
  { system with outside := note :: system.outside }

def gained (system : System Chronicle) (view : RadioSnapshot) (note : Note) : System Chronicle :=
  { system with legs := system.legs ++ [{ view }], outside := note :: system.outside }

/-- One connection more, in the books of the exchange. -/
def joined (system : System Chronicle) (call : Connection)
    (plans : List (ConnectionId × DialPlan)) : System Chronicle :=
  { system with
    connections := system.connections ++ [call]
    registry := { system.registry with
      connections := system.registry.connections ++ [.issued system.connections.length]
      plans := plans ++ system.registry.plans } }

def callIn (system : System Chronicle) (slot : Slot) (view : RadioSnapshot) :
    CallParameters where
  direction := .incoming
  phone := (system.device.phone slot).id
  subscription := (system.device.phone slot).subscription
  technology := view.technology
  video := view.video
  carrier := system.device.carrierOf (system.device.phone slot).subscription

end System

inductive Effect (terms : Terms) :
    Actor → List Duty → System Chronicle → List Duty → System Chronicle → Prop
  | shuffle {actor duties others system} (same : duties.Perm others) :
    Effect terms actor duties system others system
  | calm {actor duties before after} (calm : Calm before after) (rest : after.AtRest)
    (lost : ∀ id leg, (before.connection id).leg = some leg → (after.connection id).leg = none →
      before.outside.HasEnded leg ∨ .ending id ∈ duties) :
    Effect terms actor duties before duties after
  | note {actor duties system} {note : Note} (plain : note.IsPlain system.outside) :
    Effect terms actor duties system duties (system.noting note)
  | move {duties system} (clock : Nat) (device : Device)
    (ident : ∀ slot, (device.phone slot).id = (system.device.phone slot).id)
    (numbers : terms.numbers.isSome = true →
      device.emergencyNumbers = system.device.emergencyNumbers) :
    Effect terms .world duties system duties { system with clock, device }
  | signal {duties system} (signals : List Signal) :
    Effect terms .world duties system duties { system with signals }
  | grant {duties system ticket} (view : RadioSnapshot) (rest : Resting duties)
    (opened : system.outside.isOpen ticket = true) (dial : system.outside.isDial ticket = true) :
    Effect terms .world duties system duties
      (system.gained view (.granted ticket ⟨system.legs.length⟩ view))
  | ring {duties system} (params : CallParameters) (view : RadioSnapshot) :
    Effect terms .world duties system
      (.agent (.issued system.connections.length)
        (.received params.phone ⟨system.legs.length⟩) :: duties)
      ((system.gained view
        (.rang (.issued system.connections.length) ⟨system.legs.length⟩)).joined
          (.enlisted params false) [])
  | giveUp {duties before after id leg stage} (calm : Calm before after) (rest : after.AtRest)
    (lost : ∀ id leg, (before.connection id).leg = some leg → (after.connection id).leg = none →
      before.outside.HasEnded leg ∨ .ending id ∈ duties)
    (had : (before.connection id).leg = some leg) (bare : (after.connection id).leg = none)
    (work : stage.ComesUp (before.connection id)) :
    Effect terms .world duties before (.agent id stage :: duties) after
  | enroll {actor duties system slot} {plan : DialPlan} (params : CallParameters) (redial : Bool)
    (phone : params.phone = terms.ident slot) (fits : plan.Fits terms params.phone) :
    Effect terms actor duties system
      (.agent (.issued system.connections.length) (.placing slot) :: duties)
      (system.joined (.enlisted params redial) [(.issued system.connections.length, plan)])
  | select {actor duties system id slot} (enabled : terms.settings.domainSelection = true) :
    Effect terms actor (.agent id (.placing slot) :: duties) system
      (.agent id (.placing slot) :: duties)
      (system.reviseConnection id ({ · with selectionActive := true }))
  | dial {actor duties system id phone stage plan} (domain : Option Domain)
    (alive : (system.connection id).destroyed = false) (held : system.planOf? id = some plan)
    (dials : stage.Dials terms (system.connection id) phone) :
    Effect terms actor (.agent id stage :: duties) system
      (.agent id (.dialing phone system.outside.length) :: duties)
      (system.noting
        (.asked (.dial id phone plan.dial (plan.args (system.connection id) domain))))
  | receive {actor duties system id phone ticket leg}
    (granted : system.outside.Answered ticket (.leg leg)) :
    Effect terms actor (.agent id (.dialing phone ticket) :: duties) system
      (.agent id (.received phone leg) :: duties) (system.noting (.taken ticket))
  | fail {actor duties system id phone ticket error}
    (refused : system.outside.Answered ticket (.reply (.refused error))) :
    Effect terms actor (.agent id (.dialing phone ticket) :: duties) system
      (.agent id (.failing phone error) :: duties) (system.noting (.taken ticket))
  | consume {actor duties system id phone ticket reply}
    (replied : system.outside.Answered ticket (.reply reply)) :
    Effect terms actor (.agent id (.dialing phone ticket) :: duties) system
      (.agent id .finishing :: duties) (system.noting (.taken ticket))
  | bind {actor duties system id phone leg}
    (alive : (system.connection id).destroyed = false) :
    Effect terms actor (.agent id (.received phone leg) :: duties) system duties
      (system.bound id leg)
  | hangup {actor duties system id phone leg} :
    Effect terms actor (.agent id (.received phone leg) :: duties) system duties
      (system.noting (.asked (.command leg .hangup)))
  | retry {actor duties system id phone error} :
    Effect terms actor (.agent id (.failing phone error) :: duties) system
      (.agent id (.redialing phone (error.failure.retryClass == .permanent)) :: duties) system
  | redirect {actor duties system id phone error}
    (enabled : terms.settings.domainSelection = true) :
    Effect terms actor (.agent id (.failing phone error) :: duties) system
      (.agent id .reselecting :: duties) system
  | pick {duties system id failed permanent phone registry} {phones : List PhoneId}
    (alive : (system.connection id).destroyed = false)
    (next : system.registry.nextPhone id phones terms.settings.emergencyRetryRounds failed
      permanent = (some phone, registry)) :
    Effect terms (.task (some id)) (.agent id (.redialing failed permanent) :: duties) system
      (.agent id (.chosen phone) :: duties) { system with registry }
  | exhaust {duties system id failed permanent registry} {phones : List PhoneId}
    (next : system.registry.nextPhone id phones terms.settings.emergencyRetryRounds failed
      permanent = (none, registry)) :
    Effect terms (.task (some id)) (.agent id (.redialing failed permanent) :: duties) system
      (.agent id .finishing :: duties) { system with registry }
  | skip {actor duties system id phone} :
    Effect terms actor (.agent id (.chosen phone) :: duties) system
      (.agent id (.redialing phone true) :: duties) system
  | reassign {actor duties system id phone} (subscription : Option SubscriptionId)
    (technology : Technology) (carrier : CarrierConfig) :
    Effect terms actor (.agent id (.chosen phone) :: duties) system
      (.agent id (.chosen phone) :: duties)
      (system.reviseConnection id ({ · with phone, subscription, technology, carrier }))
  | drop {actor duties system id stage} (free : stage.holdsLeg = false)
    (done : stage = .finishing → (system.connection id).destroyed = true) :
    Effect terms actor (.agent id stage :: duties) system duties system
  /-- The answer to a hangup, and the like, is there. -/
  | overtake {actor duties system id ticket leg} (ends : system.outside.Ends ticket leg)
    (owns : system.outside.Owns id leg) :
    Effect terms actor duties system (.ending id :: duties) (system.noting (.taken ticket))
  | finish {actor duties system id} (done : (system.connection id).destroyed = true) :
    Effect terms actor (.ending id :: duties) system duties system

theorem Effect.ripple {terms : Terms} {actor : Actor} {duties : List Duty}
    {before after : System Chronicle}
    (ripple : Ripple (fun notes : Chronicle => notes) before after)
    (rest : before.AtRest) : Effect terms actor duties before duties after := by
  refine .calm (.of_ripple ripple) (ripple.atRest rest) fun id leg had none => ?_
  rw [ripple.leg, had] at none
  cases none

theorem Effect.revise {terms : Terms} {actor : Actor} {duties : List Duty}
    {system : System Chronicle} {id : ConnectionId} {change : Connection → Connection}
    (onlyLoses : (system.connection id).OnlyLoses (change (system.connection id)))
    (keeps : (change (system.connection id)).leg = (system.connection id).leg)
    (rest : (system.reviseConnection id change).AtRest) :
    Effect terms actor duties system duties (system.reviseConnection id change) := by
  refine .calm (.reviseConnection system id onlyLoses) rest fun other leg had none => ?_
  rw [System.connection_reviseConnection] at none
  split at none
  · rename_i here
    rw [here.1, ← keeps, none] at had
    cases had
  · rw [had] at none
    cases none

/-- One change after the other. -/
inductive Effects (terms : Terms) (actor : Actor) (duties : List Duty) (start : System Chronicle) :
    List Duty → System Chronicle → Prop
  | refl : Effects terms actor duties start duties start
  | step {middle last} {now after : System Chronicle}
    (sofar : Effects terms actor duties start middle now)
    (effect : Effect terms actor middle now last after) :
    Effects terms actor duties start last after

namespace Effects

variable {terms : Terms} {actor : Actor} {duties middle last : List Duty}
  {start now after : System Chronicle}

theorem single (effect : Effect terms actor duties start last after) :
    Effects terms actor duties start last after :=
  .step .refl effect

theorem trans (first : Effects terms actor duties start middle now)
    (second : Effects terms actor middle now last after) :
    Effects terms actor duties start last after := by
  induction second with
  | refl => exact first
  | step _ effect ih => exact .step ih effect

theorem keep {keeps : List Duty → System Chronicle → Prop}
    (effects : Effects terms actor duties start last after)
    (each : ∀ {duties others before after}, Effect terms actor duties before others after →
      keeps duties before → keeps others after)
    (holds : keeps duties start) : keeps last after := by
  induction effects with
  | refl => exact holds
  | step _ effect ih => exact each effect ih

end Effects

/-- How duties and system fit together. -/
structure Orderly (terms : Terms) (duties : List Duty) (system : System Chronicle) : Prop where
  rest : system.AtRest
  attended : system.attended = true
  settings : system.settings = terms.settings
  ident (slot : Slot) : (system.device.phone slot).id = terms.ident slot
  numbers {numbers : EmergencyNumbers} : terms.numbers = some numbers →
    system.device.emergencyNumbers = numbers
  listeners (id : ConnectionId) : (system.connection id).listeners.Nodup
  bare (id : ConnectionId) : (system.connection id).destroyed = true →
    (system.connection id).leg = none
  shown (id : ConnectionId) : (system.connection id).destroyed = true →
    (system.connection id).published.state = .disconnected
  known {id : ConnectionId} {stage : Stage} : .agent id stage ∈ duties → system.Known id
  single (id : ConnectionId) : duties.countP (Duty.isAgentOf id) ≤ 1
  free {id : ConnectionId} {stage : Stage} : .agent id stage ∈ duties →
    (system.connection id).leg = none
  selection (id : ConnectionId) : (system.connection id).selectionActive = true →
    terms.settings.domainSelection = true
  reselection {id : ConnectionId} : .agent id .reselecting ∈ duties →
    terms.settings.domainSelection = true
  answers {ticket : Nat} {first second : Answer} : system.outside.Answered ticket first →
    system.outside.Answered ticket second → first = second
  early {ticket : Nat} {answer : Answer} : system.outside.Answered ticket answer →
    ∃ call, system.outside.Asks ticket call
  asked {id : ConnectionId} {phone : PhoneId} {ticket : Nat} :
    .agent id (.dialing phone ticket) ∈ duties →
      ∃ number args, system.outside.Asks ticket (.dial id phone number args)
  received {id : ConnectionId} {phone : PhoneId} {leg : LegId} :
    .agent id (.received phone leg) ∈ duties → system.outside.Owns id leg
  owned {id : ConnectionId} {leg : LegId} : (system.connection id).leg = some leg →
    system.outside.Owns id leg
  last {leg : LegId} {bridge : Bridge} : (system.leg leg).last = some bridge →
    bridge.generation ≤ (system.connection bridge.connection).generation ∧
      (bridge.generation = (system.connection bridge.connection).generation →
        ∀ other, (system.connection bridge.connection).leg = some other → other = leg)
  attached {leg : LegId} {bridge : Bridge} : (system.leg leg).attached = some bridge →
    (system.leg leg).last = some bridge

namespace System

variable (system : System Chronicle)

@[simp] theorem connection_noting (note : Note) (id : ConnectionId) :
    (system.noting note).connection id = system.connection id := by
  cases id <;> rfl

theorem known_noting (note : Note) {id : ConnectionId} :
    (system.noting note).Known id ↔ system.Known id := by
  cases id <;> exact Iff.rfl

@[simp] theorem connection_gained (view : RadioSnapshot) (note : Note) (id : ConnectionId) :
    (system.gained view note).connection id = system.connection id := by
  cases id <;> rfl

theorem leg_gained (view : RadioSnapshot) (note : Note) (leg : LegId) :
    (system.gained view note).leg leg =
      if leg = ⟨system.legs.length⟩ then { view } else system.leg leg := by
  obtain ⟨serial⟩ := leg
  simp only [System.leg, gained, List.getD_eq_getElem?_getD, LegId.mk.injEq]
  rcases Nat.lt_trichotomy serial system.legs.length with inside | rfl | past
  · rw [List.getElem?_append_left inside, if_neg (Nat.ne_of_lt inside)]
  · simp
  · rw [if_neg (Nat.ne_of_gt past), List.getElem?_eq_none (by simp; omega),
      List.getElem?_eq_none (Nat.le_of_lt past)]

theorem connection_joined (call : Connection) (plans : List (ConnectionId × DialPlan))
    (id : ConnectionId) :
    (system.joined call plans).connection id =
      if id = .issued system.connections.length then call else system.connection id := by
  rw [← system.connection_append call]
  cases id <;> rfl

theorem connection_joined_newest (call : Connection) (plans : List (ConnectionId × DialPlan)) :
    (system.joined call plans).connection (.issued system.connections.length) = call := by
  rw [connection_joined, if_pos rfl]

theorem each_joined {call : Connection} (plans : List (ConnectionId × DialPlan))
    {motive : ConnectionId → Connection → Prop}
    (newest : motive (.issued system.connections.length) call)
    (others : ∀ other, motive other (system.connection other)) (other : ConnectionId) :
    motive other ((system.joined call plans).connection other) := by
  rw [connection_joined]
  split
  · rename_i here
    exact here ▸ newest
  · exact others other

theorem known_joined_iff (call : Connection) (plans : List (ConnectionId × DialPlan))
    (id : ConnectionId) :
    (system.joined call plans).Known id ↔
      system.Known id ∨ id = .issued system.connections.length := by
  cases id with
  | issued serial =>
    simp only [Known, joined, List.length_append, List.length_singleton, ConnectionId.issued.injEq]
    omega
  | outsider value => simp [Known]

theorem known_joined {call : Connection} {plans : List (ConnectionId × DialPlan)}
    {id : ConnectionId} (known : system.Known id) : (system.joined call plans).Known id :=
  (system.known_joined_iff call plans id).mpr (.inl known)

theorem joined_known (call : Connection) (plans : List (ConnectionId × DialPlan)) :
    (system.joined call plans).Known (.issued system.connections.length) :=
  (system.known_joined_iff call plans _).mpr (.inr rfl)

theorem not_known_next : ¬ system.Known (.issued system.connections.length) := by
  simp [Known]

variable {system} in
theorem ne_next_of_known {id : ConnectionId} (known : system.Known id) :
    id ≠ .issued system.connections.length := by
  rintro rfl
  exact system.not_known_next known

theorem connection_joined_of_known {call : Connection} {plans : List (ConnectionId × DialPlan)}
    {id : ConnectionId} (known : system.Known id) :
    (system.joined call plans).connection id = system.connection id := by
  rw [connection_joined, if_neg (ne_next_of_known known)]

theorem AtRest.joined {system : System Chronicle} (rest : system.AtRest) (params : CallParameters)
    (redial : Bool) (plans : List (ConnectionId × DialPlan)) :
    (system.joined (.enlisted params redial) plans).AtRest := by
  have connection := system.connection_joined (.enlisted params redial) plans
  refine ⟨fun id => ?_, fun id => ?_⟩
  · rw [connection]
    split
    · refine ⟨rfl, fun _ _ => ⟨rfl, ?_, rfl⟩⟩
      exact nofun
    · exact rest.steady id
  · rw [connection]
    split
    · rfl
    · exact rest.quiet id

theorem connection_bound (id : ConnectionId) (leg : LegId) (other : ConnectionId) :
    (system.bound id leg).connection other =
      if other = id ∧ system.Known id then
        (Connection.bound leg (system.leg leg).view (system.connection id)).settled
      else system.connection other := by
  rw [bound, connection_settle, connection_tied, connection_tied]
  have known : (system.tied id leg).Known id ↔ system.Known id := by
    simp [tied, attached]
  simp only [known, connection_reviseConnection]
  by_cases here : other = id ∧ system.Known id
  · rw [if_pos here, if_pos here, if_pos ⟨trivial, here.2⟩]
  · rw [if_neg here, if_neg here, if_neg here]

theorem each_bound {id : ConnectionId} {leg : LegId} (known : system.Known id)
    {motive : ConnectionId → Connection → Prop}
    (mine : motive id (Connection.bound leg (system.leg leg).view (system.connection id)).settled)
    (others : ∀ other, other ≠ id → motive other (system.connection other)) (other : ConnectionId) :
    motive other ((system.bound id leg).connection other) := by
  rw [connection_bound]
  split
  · rename_i here
    rw [here.1]
    exact mine
  · rename_i apart
    exact others other fun same => apart ⟨same, known⟩

theorem count_bound (id : ConnectionId) (leg : LegId) :
    (system.bound id leg).connections.length = system.connections.length := by
  have released := Calm.release
    (system.reviseConnection id (.bound leg (system.leg leg).view)) (system.connection id).leg
  have tied : (system.tied id leg).connections.length = system.connections.length :=
    released.count.trans (by simp)
  exact (Calm.settle (system.tied id leg) id).count.trans tied

theorem last_bound (id : ConnectionId) (leg other : LegId) :
    ((system.bound id leg).leg other).last =
        some { connection := id, generation := (system.connection id).generation + 1 } ∧
      other = leg ∨
    ((system.bound id leg).leg other).last = (system.leg other).last := by
  have released := Calm.release
    (system.reviseConnection id (.bound leg (system.leg leg).view)) (system.connection id).leg
  rw [bound, (Calm.settle (system.tied id leg) id).last, tied, attached, leg_reviseLeg]
  split
  · rename_i here
    exact .inl ⟨rfl, here.1⟩
  · right
    rw [released.last, leg_reviseConnection]

theorem attached_bound (id : ConnectionId) (leg other : LegId) :
    ((system.bound id leg).leg other).attached = ((system.bound id leg).leg other).last ∨
      ((system.bound id leg).leg other).attached = (system.leg other).attached ∧
        ((system.bound id leg).leg other).last = (system.leg other).last ∨
      ((system.bound id leg).leg other).attached = none := by
  have released := Calm.release
    (system.reviseConnection id (.bound leg (system.leg leg).view)) (system.connection id).leg
  have settled := Calm.settle (system.tied id leg) id
  rcases settled.attached other with same | none
  · rw [bound, same, settled.last, tied, attached, leg_reviseLeg]
    split
    · exact .inl rfl
    · rw [released.last, leg_reviseConnection]
      rcases released.attached other with same | none
      · rw [same, leg_reviseConnection]
        exact .inr (.inl ⟨rfl, rfl⟩)
      · exact .inr (.inr none)
  · exact .inr (.inr none)

end System

namespace Occasion

variable {wiring : Wiring Chronicle} {system : System Chronicle}
  {goal : System Chronicle → Prop}

theorem ensures_ring {phone : PhoneId} {view : RadioSnapshot} (unknown : goal system)
    (entering : ∀ slot, (do
      Act.register (.issued system.connections.length)
      Act.bind (.issued system.connections.length) ⟨system.legs.length⟩).Ensures wiring
        { system.gained view (.rang (.issued system.connections.length) ⟨system.legs.length⟩) with
          connections := system.connections ++ [Connection.create (system.callIn slot view)] }
        fun _ after => goal after) :
    (ring phone view).act.Ensures wiring system fun _ after => goal after := by
  simp only [act, Act.ensures_bind, Act.ensures_get]
  cases found : system.device.slotOf? phone with
  | none =>
    rw [if_neg (by simp), Act.ensures_pure]
    exact unknown
  | some slot =>
    have bound := entering slot
    have shown : (system.gained view (.rang (.issued system.connections.length)
        ⟨system.legs.length⟩)).leg ⟨system.legs.length⟩ = { view } := by
      rw [System.leg_gained, if_pos rfl]
    simp only [System.gained] at shown
    simp only [Option.isSome_some, if_true, Act.createLeg, Act.incoming, Act.create,
      Act.ensures_bind, Act.ensures_get, Act.ensures_modify, Act.ensures_pure,
      Act.ensures_reviseOutside, found, shown]
    rwa [Act.ensures_bind] at bound

theorem ensures_grant {ticket : Nat} {view : RadioSnapshot} (lost : goal system)
    (granted : system.outside.isOpen ticket = true → system.outside.isDial ticket = true →
      goal (system.gained view (.granted ticket ⟨system.legs.length⟩ view))) :
    (grant ticket view).act.Ensures wiring system fun _ after => goal after := by
  simp only [act, Act.ensures_bind, Act.ensures_get]
  split
  · rename_i wanted
    rw [Bool.and_eq_true] at wanted
    simp only [Act.createLeg, Act.ensures_bind, Act.ensures_get, Act.ensures_modify,
      Act.ensures_pure, Act.ensures_reviseOutside]
    exact granted wanted.1 wanted.2
  · exact (Act.ensures_pure _ _).mpr lost

theorem ensures_reply {ticket : Nat} {content : Reply} (lost : goal system)
    (replied : system.outside.isOpen ticket = true →
      goal (system.noting (.replied ticket content))) :
    (reply ticket content).act.Ensures wiring system fun _ after => goal after := by
  simp only [act, Act.ensures_bind, Act.ensures_get]
  split
  · rename_i opened
    rw [Act.ensures_reviseOutside]
    exact replied opened
  · exact (Act.ensures_pure _ _).mpr lost

end Occasion

namespace Orderly

variable {terms : Terms} {duties others : List Duty} {system after : System Chronicle}

theorem perm (orderly : Orderly terms duties system) (same : duties.Perm others) :
    Orderly terms others system :=
  { orderly with
    known := fun among => orderly.known (same.mem_iff.mpr among)
    single := fun id => by
      rw [← same.countP_eq]
      exact orderly.single id
    free := fun among => orderly.free (same.mem_iff.mpr among)
    reselection := fun among => orderly.reselection (same.mem_iff.mpr among)
    asked := fun among => orderly.asked (same.mem_iff.mpr among)
    received := fun among => orderly.received (same.mem_iff.mpr among) }

theorem tail {duty : Duty} (orderly : Orderly terms (duty :: duties) system) :
    Orderly terms duties system :=
  { orderly with
    known := fun among => orderly.known (.tail _ among)
    single := fun id => by
      refine Nat.le_trans ?_ (orderly.single id)
      exact (List.sublist_cons_self duty duties).countP_le
    free := fun among => orderly.free (.tail _ among)
    reselection := fun among => orderly.reselection (.tail _ among)
    asked := fun among => orderly.asked (.tail _ among)
    received := fun among => orderly.received (.tail _ among) }

theorem withEnding (orderly : Orderly terms duties system) (id : ConnectionId) :
    Orderly terms (.ending id :: duties) system :=
  { orderly with
    known := fun among => orderly.known (by simpa using among)
    single := fun other => by
      rw [List.countP_cons_of_neg (by simp [Duty.isAgentOf])]
      exact orderly.single other
    free := fun among => orderly.free (by simpa using among)
    reselection := fun among => orderly.reselection (by simpa using among)
    asked := fun among => orderly.asked (by simpa using among)
    received := fun among => orderly.received (by simpa using among) }

theorem withAgent (orderly : Orderly terms duties system) {id : ConnectionId} {stage : Stage}
    (known : system.Known id) (bare : (system.connection id).leg = none)
    (alone : ∀ stage, .agent id stage ∉ duties)
    (warranted : stage.Warranted terms system.outside id) :
    Orderly terms (.agent id stage :: duties) system :=
  { orderly with
    known := fun among => by
      rcases List.mem_cons.mp among with same | among
      · cases same
        exact known
      · exact orderly.known among
    single := fun other => by
      rw [List.countP_cons]
      split
      · rename_i mine
        obtain rfl := (Duty.isAgentOf_agent other id stage).mp mine
        have none : duties.countP (Duty.isAgentOf id) = 0 := by
          rw [List.countP_eq_zero]
          intro duty among mine
          cases duty with
          | agent other stage =>
            obtain rfl := (Duty.isAgentOf_agent id other stage).mp mine
            exact alone stage among
          | ending other => cases mine
        omega
      · exact orderly.single other
    free := fun among => by
      rcases List.mem_cons.mp among with same | among
      · cases same
        exact bare
      · exact orderly.free among
    reselection := fun among => by
      rcases List.mem_cons.mp among with same | among
      · cases same
        exact warranted
      · exact orderly.reselection among
    asked := fun among => by
      rcases List.mem_cons.mp among with same | among
      · cases same
        exact warranted
      · exact orderly.asked among
    received := fun among => by
      rcases List.mem_cons.mp among with same | among
      · cases same
        exact warranted
      · exact orderly.received among }

theorem alone {id : ConnectionId} {stage : Stage}
    (orderly : Orderly terms (.agent id stage :: duties) system) (other : Stage) :
    .agent id other ∉ duties := by
  intro among
  have single := orderly.single id
  have one : 0 < duties.countP (Duty.isAgentOf id) :=
    List.countP_pos_iff.mpr ⟨_, among, by simp [Duty.isAgentOf]⟩
  rw [List.countP_cons_of_pos (by simp [Duty.isAgentOf])] at single
  omega

theorem restage {id : ConnectionId} {stage : Stage} (next : Stage)
    (orderly : Orderly terms (.agent id stage :: duties) system)
    (warranted : next.Warranted terms system.outside id) :
    Orderly terms (.agent id next :: duties) system :=
  orderly.tail.withAgent (orderly.known List.mem_cons_self) (orderly.free List.mem_cons_self)
    orderly.alone warranted

theorem calm (orderly : Orderly terms duties system) (calm : Calm system after)
    (rest : after.AtRest) : Orderly terms duties after where
  rest := rest
  attended := calm.attended.trans orderly.attended
  settings := calm.settings.trans orderly.settings
  ident slot := by rw [calm.device, orderly.ident]
  numbers agreed := by rw [calm.device, orderly.numbers agreed]
  listeners id := (calm.onlyLoses id).listeners (orderly.listeners id)
  bare id gone := by
    have onlyLoses := calm.onlyLoses id
    rcases onlyLoses.bare gone with before | none
    · rcases onlyLoses.leg with none | ⟨same, -⟩
      · exact none
      · rw [same, orderly.bare id before]
    · exact none
  shown id := (calm.onlyLoses id).shown (orderly.shown id)
  known among := (calm.known _).mpr (orderly.known among)
  single := orderly.single
  free among := by
    rcases (calm.onlyLoses _).leg with none | ⟨same, -⟩
    · exact none
    · rw [same, orderly.free among]
  selection id on := orderly.selection id ((calm.onlyLoses id).selection on)
  reselection := orderly.reselection
  answers one two := by
    rw [calm.outside] at one two
    exact orderly.answers one two
  early answered := by
    rw [calm.outside] at answered ⊢
    exact orderly.early answered
  asked among := by rw [calm.outside]; exact orderly.asked among
  received among := by rw [calm.outside]; exact orderly.received among
  owned {id leg} held := by
    rw [calm.outside]
    rcases (calm.onlyLoses id).leg with none | ⟨same, -⟩
    · rw [none] at held
      cases held
    · exact orderly.owned (same ▸ held)
  last {leg bridge} tied := by
    rw [calm.last] at tied
    obtain ⟨older, current⟩ := orderly.last tied
    have onlyLoses := calm.onlyLoses bridge.connection
    refine ⟨Nat.le_trans older onlyLoses.generation, fun now other held => ?_⟩
    rcases onlyLoses.leg with none | ⟨same, still⟩
    · rw [none] at held
      cases held
    · exact current (now.trans still) other (same ▸ held)
  attached {leg bridge} tied := by
    rcases calm.attached leg with same | none
    · rw [calm.last]
      exact orderly.attached (same ▸ tied)
    · rw [none] at tied
      cases tied

theorem noting (orderly : Orderly terms duties system) {note : Note}
    (first : ∀ ticket answer, note.answer? ticket = some answer →
      system.outside.isOpen ticket = true) :
    Orderly terms duties (system.noting note) := by
  have suffix : system.outside <:+ (system.noting note).outside := List.suffix_cons _ _
  have same := system.connection_noting note
  exact {
    rest := orderly.rest.of_connections same
    attended := orderly.attended
    settings := orderly.settings
    ident := orderly.ident
    numbers := orderly.numbers
    listeners := fun id => by rw [same]; exact orderly.listeners id
    bare := fun id => by rw [same]; exact orderly.bare id
    shown := fun id => by rw [same]; exact orderly.shown id
    known := fun {id _} among => by cases id <;> exact orderly.known among
    single := orderly.single
    free := fun among => by rw [same]; exact orderly.free among
    selection := fun id => by rw [same]; exact orderly.selection id
    reselection := orderly.reselection
    answers := fun {ticket one two} answered again => by
      rcases Chronicle.answered_cons.mp answered with new | old
      · rcases Chronicle.answered_cons.mp again with same | old
        · exact Option.some.inj (new.symm.trans same)
        · exact absurd old (Chronicle.not_answered_of_isOpen (first _ _ new))
      · rcases Chronicle.answered_cons.mp again with new | still
        · exact absurd old (Chronicle.not_answered_of_isOpen (first _ _ new))
        · exact orderly.answers old still
    early := fun answered => by
      have asks := (Chronicle.answered_cons.mp answered).elim
        (fun new => Chronicle.asks_of_isOpen (first _ _ new)) orderly.early
      exact asks.imp fun call asks => asks.later suffix
    asked := fun among => by
      obtain ⟨number, args, asks⟩ := orderly.asked among
      exact ⟨number, args, asks.later suffix⟩
    received := fun among => (orderly.received among).later suffix
    owned := fun {id _} held => by
      rw [same] at held
      exact (orderly.owned held).later suffix
    last := fun tied => by rw [same]; exact orderly.last tied
    attached := orderly.attached }

theorem noted (orderly : Orderly terms duties system) {note : Note}
    (silent : ∀ ticket, note.answer? ticket = none) :
    Orderly terms duties (system.noting note) := by
  refine orderly.noting fun ticket answer answers => ?_
  rw [silent] at answers
  cases answers

theorem of_books (orderly : Orderly terms duties system) (clock : Nat) (device : Device)
    (registry : Registry) (signals : List Signal)
    (ident : ∀ slot, (device.phone slot).id = (system.device.phone slot).id)
    (numbers : terms.numbers.isSome = true →
      device.emergencyNumbers = system.device.emergencyNumbers) :
    Orderly terms duties { system with clock, device, registry, signals } :=
  { orderly with
    rest := orderly.rest.of_connections fun _ => rfl
    ident := fun slot => (ident slot).trans (orderly.ident slot)
    numbers := fun agreed => (numbers (by rw [agreed]; rfl)).trans (orderly.numbers agreed) }

theorem gained (orderly : Orderly terms duties system) (view : RadioSnapshot) {note : Note}
    (first : ∀ ticket answer, note.answer? ticket = some answer →
      system.outside.isOpen ticket = true) :
    Orderly terms duties (system.gained view note) := by
  have noted := orderly.noting first
  have fresh (leg : LegId) : ((system.gained view note).leg leg).last = none ∧
      ((system.gained view note).leg leg).attached = none ∨
      (system.gained view note).leg leg = system.leg leg := by
    rw [System.leg_gained]
    split
    · exact .inl ⟨rfl, rfl⟩
    · exact .inr rfl
  have same := system.connection_gained view note
  exact { noted with
    rest := orderly.rest.of_connections same
    last := fun {leg _} tied => by
      rcases fresh leg with ⟨none, -⟩ | old
      · rw [none] at tied
        cases tied
      · rw [old] at tied
        rw [same]
        exact orderly.last tied
    attached := fun {leg _} tied => by
      rcases fresh leg with ⟨-, none⟩ | old
      · rw [none] at tied
        cases tied
      · rw [old] at tied ⊢
        exact orderly.attached tied }

theorem next_unknown (orderly : Orderly terms duties system) (stage : Stage) :
    .agent (.issued system.connections.length) stage ∉ duties :=
  fun among => system.not_known_next (orderly.known among)

theorem joined (orderly : Orderly terms duties system) (params : CallParameters) (redial : Bool)
    (plans : List (ConnectionId × DialPlan)) :
    Orderly terms duties (system.joined (.enlisted params redial) plans) := by
  have strange : system.connection (.issued system.connections.length) = .absent :=
    system.connection_of_not_known system.not_known_next
  exact { orderly with
    rest := orderly.rest.joined params redial plans
    listeners := system.each_joined plans (motive := fun _ call => call.listeners.Nodup)
      (by simp [Connection.enlisted]) orderly.listeners
    bare :=
      system.each_joined plans (motive := fun _ call => call.destroyed = true → call.leg = none)
      (fun _ => rfl) orderly.bare
    shown := system.each_joined plans
      (motive := fun _ call => call.destroyed = true → call.published.state = .disconnected)
      nofun orderly.shown
    known := fun among => system.known_joined (orderly.known among)
    free := fun among => by
      rw [system.connection_joined_of_known (orderly.known among)]
      exact orderly.free among
    selection := system.each_joined plans
      (motive := fun _ call => call.selectionActive = true → terms.settings.domainSelection = true)
      nofun orderly.selection
    owned := fun {id leg} => system.each_joined plans
      (motive := fun other call => call.leg = some leg → system.outside.Owns other leg)
      (fun held => by cases held) (fun _ => orderly.owned) id
    last := fun tied => by
      obtain ⟨older, current⟩ := orderly.last tied
      rw [system.connection_joined]
      split
      · rename_i new
        rw [new, strange] at older
        exact ⟨older, fun _ _ held => by cases held⟩
      · exact ⟨older, current⟩ }

theorem last_bound (orderly : Orderly terms duties system) {id : ConnectionId} {leg held : LegId}
    (known : system.Known id) {bridge : Bridge}
    (tied : ((system.bound id leg).leg held).last = some bridge) :
    bridge.generation ≤ ((system.bound id leg).connection bridge.connection).generation ∧
      (bridge.generation = ((system.bound id leg).connection bridge.connection).generation →
        ∀ other, ((system.bound id leg).connection bridge.connection).leg = some other →
          other = held) := by
  have onlyLoses := Connection.onlyLoses_settled
    (Connection.bound leg (system.leg leg).view (system.connection id))
  have later : (system.connection id).generation + 1 ≤
      (Connection.bound leg (system.leg leg).view (system.connection id)).settled.generation :=
    onlyLoses.generation
  rcases system.last_bound id leg held with ⟨new, rfl⟩ | old
  · rw [new] at tied
    cases tied
    rw [system.connection_bound, if_pos ⟨rfl, known⟩]
    refine ⟨later, fun _ other has => ?_⟩
    rcases onlyLoses.leg with none | ⟨still, -⟩
    · rw [none] at has
      cases has
    · exact (Option.some.inj (still.symm.trans has)).symm
  · rw [old] at tied
    obtain ⟨older, current⟩ := orderly.last tied
    rw [system.connection_bound]
    split
    · rename_i here
      rw [here.1] at older
      exact ⟨by omega, fun now => by omega⟩
    · exact ⟨older, current⟩

/-- The agent of a connection binds it to the leg that came into being for it. -/
theorem bound (orderly : Orderly terms duties system) {id : ConnectionId} {leg : LegId}
    (alive : (system.connection id).destroyed = false) (owns : system.outside.Owns id leg)
    (alone : ∀ stage, .agent id stage ∉ duties) :
    Orderly terms duties (system.bound id leg) := by
  have books := system.sameBooks_bound id leg
  have known := system.known_of_alive alive
  have onlyLoses := Connection.onlyLoses_settled
    (Connection.bound leg (system.leg leg).view (system.connection id))
  have survived : (Connection.bound leg (system.leg leg).view (system.connection id)).destroyed ≠
      true := (Bool.not_eq_true _).mpr alive
  have outside : (system.bound id leg).outside = system.outside :=
    books.read (·.outside) fun _ _ _ => rfl
  have device : (system.bound id leg).device = system.device :=
    books.read (·.device) fun _ _ _ => rfl
  exact {
    rest := orderly.rest.bound id leg
    attended := (books.read (·.attended) fun _ _ _ => rfl).trans orderly.attended
    settings := (books.read (·.settings) fun _ _ _ => rfl).trans orderly.settings
    ident := fun slot => by rw [device]; exact orderly.ident slot
    numbers := fun agreed => by rw [device]; exact orderly.numbers agreed
    listeners := system.each_bound known (motive := fun _ call => call.listeners.Nodup)
      (onlyLoses.listeners (orderly.listeners id)) fun other _ => orderly.listeners other
    bare :=
      system.each_bound known (motive := fun _ call => call.destroyed = true → call.leg = none)
      (fun gone => (onlyLoses.bare gone).resolve_left survived) fun other _ => orderly.bare other
    shown := system.each_bound known
      (motive := fun _ call => call.destroyed = true → call.published.state = .disconnected)
      (onlyLoses.shown fun gone => absurd gone survived) fun other _ => orderly.shown other
    known := fun among =>
      (System.known_congr (system.count_bound id leg) _).mpr (orderly.known among)
    single := orderly.single
    free := fun {call _} among => system.each_bound known
      (motive := fun other bound => other = call → bound.leg = none)
      (fun same => absurd (same ▸ among) (alone _))
      (fun _ _ same => same ▸ orderly.free among) call rfl
    selection := system.each_bound known
      (motive := fun _ call => call.selectionActive = true → terms.settings.domainSelection = true)
      (fun on => orderly.selection id (onlyLoses.selection on)) fun other _ =>
        orderly.selection other
    reselection := orderly.reselection
    answers := fun one two => by
      rw [outside] at one two
      exact orderly.answers one two
    early := fun answered => by
      rw [outside] at answered ⊢
      exact orderly.early answered
    asked := fun among => by rw [outside]; exact orderly.asked among
    received := fun among => by rw [outside]; exact orderly.received among
    owned := fun {call held} => by
      rw [outside]
      refine system.each_bound known (motive := fun other bound => bound.leg = some held →
        system.outside.Owns other held) (fun has => ?_) (fun other _ => orderly.owned) call
      rcases onlyLoses.leg with none | ⟨still, -⟩
      · rw [none] at has
        cases has
      · obtain rfl : leg = held := Option.some.inj (still.symm.trans has)
        exact owns
    last := orderly.last_bound known
    attached := fun {held bridge} tied => by
      rcases system.attached_bound id leg held with same | ⟨same, old⟩ | none
      · rw [← same]
        exact tied
      · rw [old]
        exact orderly.attached (same ▸ tied)
      · rw [none] at tied
        cases tied }

theorem revise (orderly : Orderly terms duties system) (id : ConnectionId)
    (change : Connection → Connection) (rest : (system.reviseConnection id change).AtRest)
    (same : ∀ call, (change call).leg = call.leg ∧ (change call).destroyed = call.destroyed ∧
      (change call).generation = call.generation ∧ (change call).listeners = call.listeners ∧
      (change call).published = call.published)
    (selection : ∀ call, (change call).selectionActive = true →
      call.selectionActive = true ∨ terms.settings.domainSelection = true) :
    Orderly terms duties (system.reviseConnection id change) := by
  have part {α : Type} (read : Connection → α) (keeps : ∀ call, read (change call) = read call)
      (other : ConnectionId) :
      read ((system.reviseConnection id change).connection other) =
        read (system.connection other) :=
    system.read_reviseConnection read (keeps _) other
  have leg := part (·.leg) fun call => (same call).1
  have destroyed := part (·.destroyed) fun call => (same call).2.1
  have generation := part (·.generation) fun call => (same call).2.2.1
  have listeners := part (·.listeners) fun call => (same call).2.2.2.1
  have published := part (·.published) fun call => (same call).2.2.2.2
  exact {
    rest := rest
    attended := by simpa using orderly.attended
    settings := by simpa using orderly.settings
    ident := fun slot => by simpa using orderly.ident slot
    numbers := fun agreed => by simpa using orderly.numbers agreed
    listeners := fun other => by rw [listeners]; exact orderly.listeners other
    bare := fun other gone => by rw [leg]; exact orderly.bare other (destroyed other ▸ gone)
    shown := fun other gone => by
      rw [published]
      exact orderly.shown other (destroyed other ▸ gone)
    known := fun among => by simpa using orderly.known among
    single := orderly.single
    free := fun among => by rw [leg]; exact orderly.free among
    selection := fun other on => by
      rw [System.connection_reviseConnection] at on
      split at on
      · rcases selection _ on with before | enabled
        · exact orderly.selection id before
        · exact enabled
      · exact orderly.selection other on
    reselection := orderly.reselection
    answers := fun one two => orderly.answers (by simpa using one) (by simpa using two)
    early := fun answered => by simpa using orderly.early (by simpa using answered)
    asked := fun among => by simpa using orderly.asked among
    received := fun among => by simpa using orderly.received among
    owned := fun held => by
      rw [leg] at held
      simpa using orderly.owned held
    last := fun tied => by
      rw [System.leg_reviseConnection] at tied
      rw [generation, leg]
      exact orderly.last tied
    attached := fun tied => by
      rw [System.leg_reviseConnection] at tied ⊢
      exact orderly.attached tied }

end Orderly

theorem Orderly.isLive_iff {terms : Terms} {duties : List Duty} {system : System Chronicle}
    (orderly : Orderly terms duties system) (id : ConnectionId) :
    (system.connection id).published.state.isLive = true ↔
      (system.connection id).destroyed = false := by
  constructor
  · intro live
    refine Bool.eq_false_iff.mpr fun gone => ?_
    rw [orderly.shown id gone] at live
    cases live
  · intro alive
    refine Decidable.byContradiction fun dead => ?_
    rw [orderly.rest.destroyed_of_not_live dead] at alive
    cases alive

theorem Effect.orderly {terms : Terms} {actor : Actor} {duties others : List Duty}
    {before after : System Chronicle} (effect : Effect terms actor duties before others after)
    (orderly : Orderly terms duties before) : Orderly terms others after := by
  cases effect with
  | shuffle same => exact orderly.perm same
  | calm calm rest lost => exact orderly.calm calm rest
  | @note _ _ _ note plain =>
    refine orderly.noting fun ticket answer answers => ?_
    cases note <;> simp_all [Note.answer?, Note.IsPlain]
  | move clock device ident numbers => exact orderly.of_books _ _ _ _ ident numbers
  | signal signals => exact orderly.of_books _ _ _ _ (fun _ => rfl) fun _ => rfl
  | grant view rest opened dial =>
    refine orderly.gained view fun ticket answer answers => ?_
    simp only [Note.answer?] at answers
    split at answers
    · rename_i same
      exact same ▸ opened
    · cases answers
  | ring params view =>
    have gained := @Orderly.gained terms duties before orderly view
      (.rang (.issued before.connections.length) ⟨before.legs.length⟩)
      (by intro _ _ answers; cases answers)
    refine (gained.joined params false []).withAgent
      (System.joined_known _ _ _) ?_ orderly.next_unknown (.inl List.mem_cons_self)
    exact congrArg (·.leg)
      (System.connection_joined_newest (before.gained view _) (.enlisted params false) [])
  | @giveUp _ _ _ id _ stage calm rest lost had bare work =>
    have known := before.known_of_leg had
    have alone (stage : Stage) : .agent id stage ∉ duties := fun among => by
      rw [orderly.free among] at had
      cases had
    refine (orderly.calm calm rest).withAgent ((calm.known id).mpr known) bare alone ?_
    cases stage with
    | redialing phone permanent => trivial
    | reselecting => exact orderly.selection id work
    | _ => exact work.elim
  | enroll params redial phone fits =>
    refine (orderly.joined params redial _).withAgent (System.joined_known _ _ _) ?_
      orderly.next_unknown trivial
    rw [System.connection_joined_newest]
    rfl
  | select enabled =>
    refine orderly.revise _ _ (orderly.rest.reviseConnection _ _ (fun _ => rfl) fun _ => rfl)
      (fun _ => ⟨rfl, rfl, rfl, rfl, rfl⟩) fun _ _ => .inr enabled
  | dial domain alive held dials =>
    exact (orderly.noted fun _ => rfl).restage _ ⟨_, _, Chronicle.asks_now _ _⟩
  | @receive _ _ _ id phone ticket leg granted =>
    obtain ⟨number, args, asks⟩ := orderly.asked List.mem_cons_self
    have suffix := List.suffix_cons (.taken ticket) before.outside
    exact (orderly.noted fun _ => rfl).restage _
      (.inr ⟨ticket, _, number, args, asks.later suffix, granted.later suffix⟩)
  | fail refused => exact (orderly.noted fun _ => rfl).restage _ trivial
  | consume replied => exact (orderly.noted fun _ => rfl).restage _ trivial
  | bind alive =>
    exact orderly.tail.bound alive (orderly.received List.mem_cons_self) orderly.alone
  | hangup => exact (orderly.noted fun _ => rfl).tail
  | retry => exact orderly.restage _ trivial
  | redirect enabled => exact orderly.restage _ enabled
  | pick alive next =>
    exact (orderly.of_books _ _ _ _ (fun _ => rfl) fun _ => rfl).restage _ trivial
  | exhaust next =>
    exact (orderly.of_books _ _ _ _ (fun _ => rfl) fun _ => rfl).restage _ trivial
  | skip => exact orderly.restage _ trivial
  | reassign subscription technology carrier =>
    refine orderly.revise _ _ (orderly.rest.reviseConnection _ _ (fun _ => rfl) fun _ => rfl)
      (fun _ => ⟨rfl, rfl, rfl, rfl, rfl⟩) fun _ on => .inl on
  | drop free done => exact orderly.tail
  | overtake ends owns => exact (orderly.noted fun _ => rfl).withEnding _
  | finish done => exact orderly.tail

theorem Effects.orderly {terms : Terms} {actor : Actor} {duties others : List Duty}
    {before after : System Chronicle} (effects : Effects terms actor duties before others after)
    (orderly : Orderly terms duties before) : Orderly terms others after :=
  effects.keep (fun effect => effect.orderly) orderly

section
variable {terms : Terms} {subject : Option ConnectionId} {duties others : List Duty}
  {before after : System Chronicle}

/-- What a task does to its own duties, it does among those of others. -/
theorem Effect.frame (effect : Effect terms (.task subject) duties before others after)
    (rest : List Duty) :
    Effect terms (.task subject) (duties ++ rest) before (others ++ rest) after := by
  cases effect with
  | shuffle same => exact .shuffle (same.append_right rest)
  | calm calm atRest lost =>
    refine .calm calm atRest fun id leg had bare => ?_
    exact (lost id leg had bare).imp_right (List.mem_append_left rest)
  | note plain => exact .note plain
  | enroll params redial phone fits => exact .enroll params redial phone fits
  | select enabled => exact .select enabled
  | dial domain alive held dials => exact .dial domain alive held dials
  | receive granted => exact .receive granted
  | fail refused => exact .fail refused
  | consume replied => exact .consume replied
  | bind alive => exact .bind alive
  | hangup => exact .hangup
  | retry => exact .retry
  | redirect enabled => exact .redirect enabled
  | pick alive next => exact .pick alive next
  | exhaust next => exact .exhaust next
  | skip => exact .skip
  | reassign subscription technology carrier =>
    exact .reassign subscription technology carrier
  | drop free done => exact .drop free done
  | overtake ends owns => exact .overtake ends owns
  | finish done => exact .finish done

theorem Effects.frame (effects : Effects terms (.task subject) duties before others after)
    (rest : List Duty) :
    Effects terms (.task subject) (duties ++ rest) before (others ++ rest) after := by
  induction effects with
  | refl => exact .refl
  | step _ effect ih => exact .step ih (effect.frame rest)

theorem Effect.works (effect : Effect terms (.task subject) duties before others after) :
    after.works = before.works := by
  have same {system other : System Chronicle} (signals : other.signals = system.signals) :
      other.works = system.works := by
    rw [System.works, System.works, signals]
  cases effect with
  | calm calm rest lost => exact calm.works
  | @bind _ _ _ id _ leg alive =>
    exact same ((before.sameBooks_bound id leg).read (·.signals) fun _ _ _ => rfl)
  | select enabled => exact same (by simp)
  | reassign subscription technology carrier => exact same (by simp)
  | _ => exact same rfl

theorem Effects.works (effects : Effects terms (.task subject) duties before others after) :
    after.works = before.works := by
  induction effects with
  | refl => rfl
  | step _ effect ih => exact effect.works.trans ih

end

namespace System

/-- No note has been taken back, and no connection that is destroyed has come back. -/
structure Later (before after : System Chronicle) : Prop where
  notes : before.outside <:+ after.outside
  known {id : ConnectionId} : before.Known id → after.Known id
  gone {id : ConnectionId} : before.Known id → (before.connection id).destroyed = true →
    (after.connection id).destroyed = true

variable {before middle after : System Chronicle}

theorem Later.refl (system : System Chronicle) : system.Later system where
  notes := List.suffix_refl _
  known known := known
  gone _ gone := gone

theorem Later.trans (first : before.Later middle) (second : middle.Later after) :
    before.Later after where
  notes := first.notes.trans second.notes
  known known := second.known (first.known known)
  gone known gone := second.gone (first.known known) (first.gone known gone)

theorem Later.of_connections (notes : before.outside <:+ after.outside)
    (count : after.connections = before.connections) : before.Later after where
  notes := notes
  known {id} known := by
    cases id with
    | issued serial => simpa only [Known, count] using known
    | outsider value => exact known
  gone {id} _ gone := by
    cases id <;> simpa only [connection, count] using gone

theorem Later.noting (system : System Chronicle) (note : Note) :
    system.Later (system.noting note) :=
  .of_connections (List.suffix_cons _ _) rfl

end System

theorem Calm.later {before after : System Chronicle} (calm : Calm before after) :
    before.Later after where
  notes := calm.outside ▸ List.suffix_refl _
  known known := (calm.known _).mpr known
  gone _ gone := (calm.onlyLoses _).destroyed gone

theorem System.later_joined (system : System Chronicle) (call : Connection)
    (plans : List (ConnectionId × DialPlan)) : system.Later (system.joined call plans) where
  notes := List.suffix_refl _
  known known := system.known_joined known
  gone known gone := by
    rw [system.connection_joined_of_known known]
    exact gone

theorem System.later_revise (system : System Chronicle) (id : ConnectionId)
    {change : Connection → Connection}
    (same : ∀ call, (change call).destroyed = call.destroyed) :
    system.Later (system.reviseConnection id change) where
  notes := by simp
  known := by simp
  gone _ gone := (system.read_reviseConnection (·.destroyed) (same _) _).trans gone

theorem Effect.later {terms : Terms} {actor : Actor} {duties others : List Duty}
    {before after : System Chronicle} (effect : Effect terms actor duties before others after) :
    before.Later after := by
  cases effect with
  | calm calm rest lost => exact calm.later
  | giveUp calm rest lost had bare work => exact calm.later
  | note plain => exact .noting _ _
  | dial domain alive held dials => exact .noting _ _
  | receive granted => exact .noting _ _
  | fail refused => exact .noting _ _
  | consume replied => exact .noting _ _
  | hangup => exact .noting _ _
  | overtake ends owns => exact .noting _ _
  | grant view rest opened dial => exact .of_connections (List.suffix_cons _ _) rfl
  | ring params view =>
    have gained : before.Later (before.gained view
        (.rang (.issued before.connections.length) ⟨before.legs.length⟩)) :=
      .of_connections (List.suffix_cons _ _) rfl
    exact gained.trans (System.later_joined _ _ _)
  | enroll params redial phone fits => exact before.later_joined _ _
  | select enabled => exact before.later_revise _ fun _ => rfl
  | reassign subscription technology carrier => exact before.later_revise _ fun _ => rfl
  | @bind _ _ _ id _ leg alive =>
    have books := before.sameBooks_bound id leg
    refine ⟨?_, fun {other} known => ?_, fun {other} known gone => ?_⟩
    · exact books.read (·.outside) (fun _ _ _ => rfl) ▸ List.suffix_refl _
    · have same := before.count_bound id leg
      cases other <;> simp_all [System.Known]
    · rw [before.connection_bound, if_neg]
      · exact gone
      · rintro ⟨rfl, -⟩
        rw [alive] at gone
        cases gone
  | _ => exact .of_connections (List.suffix_refl _) rfl

theorem Effects.later {terms : Terms} {actor : Actor} {duties others : List Duty}
    {before after : System Chronicle} (effects : Effects terms actor duties before others after) :
    before.Later after := by
  induction effects with
  | refl => exact .refl _
  | step _ effect ih => exact ih.trans effect.later

end Switchboard
