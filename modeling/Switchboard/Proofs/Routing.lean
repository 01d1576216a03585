import Switchboard.Proofs.Occasions

/-! How emergency calls are routed. The routing is looked up once, for the phone that is dialed
first, and all later dials of the call take it over, whatever phone they are made on. -/

namespace Switchboard

variable {terms : Terms} {rounds : Nat}

namespace Note

def dialed? (id : ConnectionId) : Note → Option PhoneId
  | asked (.dial other phone _ _) => if other = id then some phone else none
  | _ => none

def isApart : Note → Bool
  | asked (.dial ..) | rang _ _ => false
  | _ => true

theorem dialed?_of_apart {note : Note} (apart : note.isApart = true) (id : ConnectionId) :
    note.dialed? id = none := by
  unfold isApart at apart
  split at apart
  · cases apart
  · cases apart
  · rename_i other _
    unfold dialed?
    split
    · exact absurd rfl (other _ _ _ _)
    · rfl

end Note

namespace Chronicle

/-- The phone that the connection was dialed on first. -/
def firstDialed? (notes : Chronicle) (id : ConnectionId) : Option PhoneId :=
  notes.reverse.findSome? (Note.dialed? id)

theorem firstDialed?_cons (note : Note) (notes : Chronicle) (id : ConnectionId) :
    firstDialed? (note :: notes) id = (notes.firstDialed? id).or (note.dialed? id) := by
  rw [firstDialed?, List.reverse_cons, List.findSome?_append, List.findSome?_singleton]
  rfl

theorem firstDialed?_apart {note : Note} (apart : note.isApart = true) (notes : Chronicle)
    (id : ConnectionId) : firstDialed? (note :: notes) id = notes.firstDialed? id := by
  rw [firstDialed?_cons, Note.dialed?_of_apart apart, Option.or_none]

theorem isSome_firstDialed? {notes : Chronicle} {id : ConnectionId} {phone : PhoneId}
    {number : String} {args : DialArgs} (asked : .asked (.dial id phone number args) ∈ notes) :
    (notes.firstDialed? id).isSome = true := by
  rw [firstDialed?, List.findSome?_isSome_iff]
  exact ⟨_, List.mem_reverse.mpr asked, by simp [Note.dialed?]⟩

end Chronicle

namespace Stage

def isUnderWay : Stage → Bool
  | placing _ | finishing => false
  | _ => true

def isPlacing : Stage → Bool
  | placing _ => true
  | _ => false

end Stage

structure Routed (terms : Terms) (duties : List Duty) (system : System Chronicle) : Prop where
  known {id : ConnectionId} {phone : PhoneId} : system.outside.firstDialed? id = some phone →
    system.Known id
  planned {id : ConnectionId} {plan : DialPlan} : system.planOf? id = some plan → system.Known id
  rang {id : ConnectionId} {leg : LegId} : .rang id leg ∈ system.outside →
    system.Known id ∧ system.planOf? id = none
  fresh {id : ConnectionId} {slot : Slot} : .agent id (.placing slot) ∈ duties →
    system.outside.firstDialed? id = none
  placing {id : ConnectionId} {slot : Slot} {plan : DialPlan} :
    .agent id (.placing slot) ∈ duties → system.planOf? id = some plan →
      plan.Fits terms (terms.ident slot)
  dialed {id : ConnectionId} {phone : PhoneId} {plan : DialPlan} :
    system.outside.firstDialed? id = some phone → system.planOf? id = some plan →
      plan.Fits terms phone
  underWay {id : ConnectionId} {stage : Stage} {plan : DialPlan} :
    .agent id stage ∈ duties → stage.isUnderWay = true → system.planOf? id = some plan →
      (system.outside.firstDialed? id).isSome = true
  dials {id : ConnectionId} {phone : PhoneId} {number : String} {args : DialArgs} :
    .asked (.dial id phone number args) ∈ system.outside →
      ∃ first plan, system.outside.firstDialed? id = some first ∧
        DialPlan.Fits terms plan first ∧ number = plan.dial ∧
        args.emergency = plan.emergency ∧ args.routing = plan.routing

namespace Routed

variable {duties others : List Duty} {before after system : System Chronicle}
  {id : ConnectionId} {stage : Stage}

theorem of_books (routed : Routed terms duties before) (outside : after.outside = before.outside)
    (known : ∀ id, before.Known id → after.Known id)
    (plan : ∀ id, after.planOf? id = before.planOf? id ∨ after.planOf? id = none)
    (fewer : ∀ duty ∈ others, duty ∈ duties) : Routed terms others after := by
  have old {id : ConnectionId} {here : DialPlan} (has : after.planOf? id = some here) :
      before.planOf? id = some here := by
    rcases plan id with same | none
    · exact same.symm.trans has
    · rw [none] at has
      cases has
  exact {
    known := fun first => known _ (routed.known (outside ▸ first))
    planned := fun has => known _ (routed.planned (old has))
    rang := fun {id _} rang => by
      obtain ⟨here, unplanned⟩ := routed.rang (outside ▸ rang)
      refine ⟨known _ here, ?_⟩
      rcases plan id with same | none
      · exact same.trans unplanned
      · exact none
    fresh := fun among => by
      rw [outside]
      exact routed.fresh (fewer _ among)
    placing := fun among has => routed.placing (fewer _ among) (old has)
    dialed := fun first has => routed.dialed (outside ▸ first) (old has)
    underWay := fun among way has => by
      rw [outside]
      exact routed.underWay (fewer _ among) way (old has)
    dials := fun asked => by
      rw [outside] at asked ⊢
      exact routed.dials asked }

theorem calm (routed : Routed terms duties before) (calm : Calm before after) :
    Routed terms duties after :=
  routed.of_books calm.outside (fun id here => (calm.known id).mpr here) calm.plan fun _ => id

theorem noting (routed : Routed terms duties system) {note : Note} (apart : note.isApart = true) :
    Routed terms duties (system.noting note) := by
  have same := Chronicle.firstDialed?_apart apart system.outside
  have old {other : Note} (among : other ∈ note :: system.outside)
      (linked : other.isApart = false) : other ∈ system.outside := by
    rcases List.mem_cons.mp among with rfl | before
    · rw [apart] at linked
      cases linked
    · exact before
  exact {
    known := fun {id _} first =>
      (system.known_noting note).mpr (routed.known ((same id).symm.trans first))
    planned := fun has => (system.known_noting note).mpr (routed.planned has)
    rang := fun rang =>
      (routed.rang (old rang rfl)).imp_left (system.known_noting note).mpr
    fresh := fun {id _} among => (same id).trans (routed.fresh among)
    placing := routed.placing
    dialed := fun {id _ _} first has => routed.dialed ((same id).symm.trans first) has
    underWay := fun {id _ _} among way has => by
      have first := routed.underWay among way has
      rw [← same id] at first
      exact first
    dials := fun {id _ _ _} asked => by
      obtain ⟨first, plan, found, rest⟩ := routed.dials (old asked rfl)
      exact ⟨first, plan, (same id).trans found, rest⟩ }

theorem withAgent (routed : Routed terms duties system) {id : ConnectionId} {stage : Stage}
    (later : stage.isPlacing = false)
    (dialed : stage.isUnderWay = true → ∀ plan, system.planOf? id = some plan →
      (system.outside.firstDialed? id).isSome = true) :
    Routed terms (.agent id stage :: duties) system :=
  { routed with
    fresh := fun among => by
      rcases List.mem_cons.mp among with same | among
      · cases same
        cases later
      · exact routed.fresh among
    placing := fun among => by
      rcases List.mem_cons.mp among with same | among
      · cases same
        cases later
      · exact routed.placing among
    underWay := fun among way has => by
      rcases List.mem_cons.mp among with same | among
      · cases same
        exact dialed way _ has
      · exact routed.underWay among way has }

theorem tail {duty : Duty} (routed : Routed terms (duty :: duties) system) :
    Routed terms duties system :=
  routed.of_books rfl (fun _ => id) (fun _ => .inl rfl) fun _ among => .tail _ among

theorem restage {id : ConnectionId} {stage : Stage} (next : Stage)
    (routed : Routed terms (.agent id stage :: duties) system)
    (later : next.isPlacing = false) (way : stage.isUnderWay = true) :
    Routed terms (.agent id next :: duties) system :=
  routed.tail.withAgent later fun _ _ has => routed.underWay List.mem_cons_self way has

theorem withEnding (routed : Routed terms duties system) (id : ConnectionId) :
    Routed terms (.ending id :: duties) system :=
  { routed with
    fresh := fun among => routed.fresh (by simpa using among)
    placing := fun among => routed.placing (by simpa using among)
    underWay := fun among => routed.underWay (by simpa using among) }

theorem rung (routed : Routed terms duties system) (params : CallParameters)
    (view : RadioSnapshot) {stage : Stage} (later : stage.isPlacing = false) :
    Routed terms (.agent (.issued system.connections.length) stage :: duties)
      ((system.gained view (.rang (.issued system.connections.length)
        ⟨system.legs.length⟩)).joined (.enlisted params false) []) := by
  let id := ConnectionId.issued system.connections.length
  let gained := system.gained view (.rang id ⟨system.legs.length⟩)
  have first (other : ConnectionId) :
      gained.outside.firstDialed? other = system.outside.firstDialed? other := by
    rw [show gained.outside = .rang id ⟨system.legs.length⟩ :: system.outside from rfl,
      Chronicle.firstDialed?_cons]
    exact Option.or_none
  have known {other : ConnectionId} (here : system.Known other) :
      (gained.joined (.enlisted params false) []).Known other :=
    gained.known_joined (by cases other <;> exact here)
  have unplanned : system.planOf? id = none := by
    cases has : system.planOf? id with
    | none => rfl
    | some plan => exact absurd (routed.planned has) system.not_known_next
  have joined : Routed terms duties (gained.joined (.enlisted params false) []) := {
    known := fun {other _} dialed => known (routed.known ((first other).symm.trans dialed))
    planned := fun has => known (routed.planned has)
    rang := fun {other _} rang => by
      rcases List.mem_cons.mp rang with new | old
      · cases new
        exact ⟨gained.joined_known _ _, unplanned⟩
      · exact (routed.rang old).imp_left known
    fresh := fun {other _} among => (first other).trans (routed.fresh among)
    placing := routed.placing
    dialed := fun {other _ _} dialed has => routed.dialed ((first other).symm.trans dialed) has
    underWay := fun {other _ _} among way has => by
      have dialed := routed.underWay among way has
      rw [← first other] at dialed
      exact dialed
    dials := fun {other _ _ _} asked => by
      rcases List.mem_cons.mp asked with new | old
      · cases new
      · obtain ⟨phone, plan, dialed, rest⟩ := routed.dials old
        exact ⟨phone, plan, (first other).trans dialed, rest⟩ }
  refine joined.withAgent later fun _ plan has => ?_
  have planned : system.planOf? id = some plan := has
  rw [unplanned] at planned
  cases planned

theorem enrolled (routed : Routed terms duties system) (params : CallParameters) (redial : Bool)
    {slot : Slot} {plan : DialPlan} (fits : plan.Fits terms (terms.ident slot))
    (alone : ∀ stage, .agent (.issued system.connections.length) stage ∉ duties) :
    Routed terms (.agent (.issued system.connections.length) (.placing slot) :: duties)
      (system.joined (.enlisted params redial) [(.issued system.connections.length, plan)]) := by
  let id := ConnectionId.issued system.connections.length
  let joined := system.joined (.enlisted params redial) [(id, plan)]
  have planOf (other : ConnectionId) :
      joined.planOf? other = if other = id then some plan else system.planOf? other := by
    have cons : joined.planOf? other = ((id, plan) :: system.registry.plans).lookup other := rfl
    rw [cons, List.lookup_cons]
    by_cases same : other = id
    · rw [if_pos same, same, beq_self_eq_true]
    · rw [if_neg same, beq_false_of_ne same]
      rfl
  have other {call : ConnectionId} {has : DialPlan} (differ : call ≠ id)
      (here : joined.planOf? call = some has) : system.planOf? call = some has := by
    rwa [planOf, if_neg differ] at here
  have known {call : ConnectionId} (here : system.Known call) : call ≠ id :=
    System.ne_next_of_known here
  have agent {call : ConnectionId} {stage : Stage} (among : .agent call stage ∈ duties) :
      call ≠ id := by
    rintro rfl
    exact alone stage among
  exact {
    known := fun first => system.known_joined (routed.known first)
    planned := fun {call _} has => by
      by_cases same : call = id
      · rw [same]
        exact system.joined_known _ _
      · exact system.known_joined (routed.planned (other same has))
    rang := fun rang => by
      obtain ⟨here, unplanned⟩ := routed.rang rang
      refine ⟨system.known_joined here, ?_⟩
      rw [show System.planOf? _ _ = joined.planOf? _ from rfl, planOf, if_neg (known here)]
      exact unplanned
    fresh := fun among => by
      rcases List.mem_cons.mp among with new | old
      · cases new
        refine Option.eq_none_iff_forall_ne_some.mpr fun phone first => ?_
        exact system.not_known_next (routed.known first)
      · exact routed.fresh old
    placing := fun among has => by
      rcases List.mem_cons.mp among with new | old
      · cases new
        rw [show System.planOf? _ _ = joined.planOf? id from rfl, planOf, if_pos rfl] at has
        cases has
        exact fits
      · exact routed.placing old (other (agent old) has)
    dialed := fun first has => routed.dialed first (other (known (routed.known first)) has)
    underWay := fun among way has => by
      rcases List.mem_cons.mp among with new | old
      · cases new
        cases way
      · exact routed.underWay old way (other (agent old) has)
    dials := routed.dials }

theorem first_asked (routed : Routed terms (.agent id stage :: duties) system) {phone : PhoneId}
    {plan : DialPlan} (domain : Option Domain) (held : system.planOf? id = some plan)
    (dials : stage.Dials terms (system.connection id) phone) :
    ∃ first, plan.Fits terms first ∧ (system.noting
      (.asked
        (.dial id phone plan.dial (plan.args (system.connection id) domain)))).outside.firstDialed?
        id = some first := by
  have later (way : stage.isUnderWay = true) : ∃ first, plan.Fits terms first ∧ (system.noting
      (.asked
        (.dial id phone plan.dial (plan.args (system.connection id) domain)))).outside.firstDialed?
        id = some first := by
    obtain ⟨first, dialed⟩ := Option.isSome_iff_exists.mp
      (routed.underWay List.mem_cons_self way held)
    refine ⟨first, routed.dialed dialed held, (Chronicle.firstDialed?_cons ..).trans ?_⟩
    rw [dialed, Option.some_or]
  cases stage with
  | placing slot =>
    refine ⟨phone, ?_, (Chronicle.firstDialed?_cons ..).trans ?_⟩
    · rw [show phone = terms.ident slot from dials]
      exact routed.placing List.mem_cons_self held
    · rw [routed.fresh List.mem_cons_self, Option.none_or]
      exact if_pos rfl
  | chosen other => exact later rfl
  | reselecting => exact later rfl
  | _ => exact dials.elim

theorem asked (routed : Routed terms (.agent id stage :: duties) system)
    (alone : ∀ other, .agent id other ∉ duties) {phone : PhoneId} {plan : DialPlan}
    (domain : Option Domain) (known : system.Known id) (held : system.planOf? id = some plan)
    (dials : stage.Dials terms (system.connection id) phone) :
    Routed terms (.agent id (.dialing phone system.outside.length) :: duties)
      (system.noting
        (.asked (.dial id phone plan.dial (plan.args (system.connection id) domain)))) := by
  let note := Note.asked (.dial id phone plan.dial (plan.args (system.connection id) domain))
  have grows (call : ConnectionId) : (system.noting note).outside.firstDialed? call =
      (system.outside.firstDialed? call).or (note.dialed? call) :=
    Chronicle.firstDialed?_cons note system.outside call
  have stays {call : ConnectionId} {first : PhoneId}
      (dialed : system.outside.firstDialed? call = some first) :
      (system.noting note).outside.firstDialed? call = some first := by
    rw [grows, dialed, Option.some_or]
  have elsewhere {call : ConnectionId} (differ : call ≠ id) :
      (system.noting note).outside.firstDialed? call = system.outside.firstDialed? call := by
    rw [grows, show note.dialed? call = none from if_neg (Ne.symm differ), Option.or_none]
  obtain ⟨first, fits, dialed⟩ := routed.first_asked domain held dials
  have agent {call : ConnectionId} {other : Stage} (among : .agent call other ∈ duties) :
      call ≠ id := by
    rintro rfl
    exact alone other among
  exact {
    known := fun {call _} has => by
      by_cases same : call = id
      · exact (system.known_noting note).mpr (same ▸ known)
      · rw [elsewhere same] at has
        exact (system.known_noting note).mpr (routed.known has)
    planned := fun has => (system.known_noting note).mpr (routed.planned has)
    rang := fun rang => by
      rcases List.mem_cons.mp rang with new | old
      · cases new
      · exact (routed.rang old).imp_left (system.known_noting note).mpr
    fresh := fun among => by
      rcases List.mem_cons.mp among with new | old
      · cases new
      · exact (elsewhere (agent old)).trans (routed.fresh (.tail _ old))
    placing := fun among has => by
      rcases List.mem_cons.mp among with new | old
      · cases new
      · exact routed.placing (.tail _ old) has
    dialed := fun {call _ _} has plans => by
      by_cases same : call = id
      · subst same
        cases dialed.symm.trans has
        cases held.symm.trans plans
        exact fits
      · rw [elsewhere same] at has
        exact routed.dialed has plans
    underWay := fun {call _ _} among way has => by
      rcases List.mem_cons.mp among with new | old
      · cases new
        exact Option.isSome_iff_exists.mpr ⟨first, dialed⟩
      · rw [elsewhere (agent old)]
        exact routed.underWay (.tail _ old) way has
    dials := fun asked => by
      rcases List.mem_cons.mp asked with new | old
      · cases new
        exact ⟨first, plan, dialed, fits, rfl, rfl, rfl⟩
      · obtain ⟨begun, old, has, rest⟩ := routed.dials old
        exact ⟨begun, old, stays has, rest⟩ }

end Routed

theorem Note.apart_of_plain {notes : Chronicle} {note : Note} (plain : note.IsPlain notes) :
    note.isApart = true := by
  cases note with
  | asked call => cases call <;> first | rfl | cases plain
  | granted ticket leg view => exact plain.elim
  | rang id leg => exact plain.elim
  | _ => rfl

theorem Registry.plans_nextPhone {registry after : Registry} {id : ConnectionId}
    {phones : List PhoneId} {rounds : Nat} {failed : PhoneId} {permanent : Bool}
    {next : Option PhoneId}
    (picked : registry.nextPhone id phones rounds failed permanent = (next, after)) :
    after.plans = registry.plans := by
  unfold Registry.nextPhone at picked
  cases picked
  rfl

theorem Effect.routed {actor : Actor} {duties others : List Duty}
    {before after : System Chronicle} (effect : Effect terms actor duties before others after)
    (orderly : Orderly terms duties before) (routed : Routed terms duties before) :
    Routed terms others after := by
  have known (id : ConnectionId) (here : before.Known id) : after.Known id :=
    effect.later.known here
  cases effect with
  | shuffle same =>
    exact routed.of_books rfl known (fun _ => .inl rfl) fun _ among => same.mem_iff.mpr among
  | calm calm rest lost => exact routed.calm calm
  | note plain => exact routed.noting (Note.apart_of_plain plain)
  | move clock device ident numbers =>
    exact routed.of_books rfl known (fun _ => .inl rfl) fun _ => id
  | signal signals => exact routed.of_books rfl known (fun _ => .inl rfl) fun _ => id
  | grant view rest opened dial =>
    exact (routed.noting rfl).of_books rfl (fun id here => known id
      ((before.known_noting _).mp here)) (fun _ => .inl rfl) fun _ => id
  | ring params view => exact routed.rung params view rfl
  | @giveUp _ _ _ id leg stage calm rest lost had bare work =>
    refine (routed.calm calm).withAgent ?_ fun _ plan has => ?_
    · cases stage with
      | placing slot => exact work.elim
      | _ => rfl
    · have held : before.planOf? id = some plan := by
        rcases calm.plan id with same | none
        · exact same.symm.trans has
        · rw [none] at has
          cases has
      rw [calm.outside]
      rcases orderly.owned had with rang | ⟨ticket, phone, number, args, asks, -⟩
      · rw [(routed.rang rang).2] at held
        cases held
      · exact Chronicle.isSome_firstDialed? asks.mem
  | enroll params redial phone fits =>
    exact routed.enrolled params redial (phone ▸ fits) orderly.next_unknown
  | select enabled =>
    exact routed.of_books (by simp) known (fun _ => .inl (by simp)) fun _ => id
  | dial domain alive held dials =>
    exact routed.asked orderly.alone domain (before.known_of_alive alive) held dials
  | receive granted => exact (routed.noting rfl).restage _ rfl rfl
  | fail refused => exact (routed.noting rfl).restage _ rfl rfl
  | consume replied => exact (routed.noting rfl).restage _ rfl rfl
  | @bind _ _ _ id _ leg alive =>
    have books := before.sameBooks_bound id leg
    refine routed.tail.of_books (books.read (·.outside) fun _ _ _ => rfl) known (fun other => ?_)
      fun _ among => among
    exact .inl (books.read (·.planOf? other) fun _ _ _ => rfl)
  | hangup => exact (routed.noting rfl).tail
  | retry => exact routed.restage _ rfl rfl
  | redirect enabled => exact routed.restage _ rfl rfl
  | pick alive next =>
    refine Routed.restage _ (routed.of_books rfl known (fun other => .inl ?_) fun _ => id) rfl rfl
    simp only [System.planOf?, Registry.plans_nextPhone next]
  | exhaust next =>
    refine Routed.restage _ (routed.of_books rfl known (fun other => .inl ?_) fun _ => id) rfl rfl
    simp only [System.planOf?, Registry.plans_nextPhone next]
  | skip => exact routed.restage _ rfl rfl
  | reassign subscription technology carrier =>
    exact routed.of_books (by simp) known (fun _ => .inl (by simp)) fun _ => id
  | drop free done => exact routed.tail
  | overtake ends owns => exact (routed.noting rfl).withEnding _
  | finish done => exact routed.tail

theorem Routed.opening (settings : Settings) (device : Device) :
    Routed terms [] (Office.opening settings device).system where
  known := nofun
  planned := nofun
  rang := nofun
  fresh := nofun
  placing := nofun
  dialed := nofun
  underWay := nofun
  dials := nofun

namespace Office

variable {settings : Settings} {device : Device} {occasions : List Occasion} {office : Office}

/-- Whatever happens, every dial of an emergency number asks for the routing of the phone where
the call was dialed first. So it asks for the routing of the phone that it is made on exactly if
both phones route the number alike. -/
theorem routing_eq_iff
    (run : (Office.opening settings device).run rounds occasions = some office)
    (fixed : ∀ occasion ∈ occasions, occasion.KeepsNumbers)
    {id : ConnectionId} {phone : PhoneId} {number : String} {args : DialArgs}
    (asked : .asked (.dial id phone number args) ∈ office.system.outside)
    (emergency : device.emergencyNumbers.isEmergency number = true) :
    ∃ first, office.system.outside.firstDialed? id = some first ∧
      args.routing = some (device.emergencyNumbers.routingFor number first) ∧
      (args.routing = some (device.emergencyNumbers.routingFor number phone) ↔
        device.emergencyNumbers.routingFor number phone =
          device.emergencyNumbers.routingFor number first) := by
  obtain ⟨posts, -, routed⟩ := (AllAtPosts.opening settings device true).run (fun _ => fixed) run
    (fun effect orderly routed => effect.routed orderly routed) (.opening settings device)
  obtain ⟨first, plan, dialed, fits, same, urgent, taken⟩ := routed.dials asked
  obtain ⟨kind, routing⟩ := fits device.emergencyNumbers rfl
  have asks : args.routing = some (device.emergencyNumbers.routingFor number first) := by
    rw [taken, same]
    refine routing (kind.trans ?_)
    rw [← same, emergency, Bool.true_or]
  refine ⟨first, dialed, asks, ?_⟩
  rw [asks, Option.some_inj]
  exact eq_comm

def unlikePhones : Device where
  phones := [
    { id := ⟨0⟩, subscription := none, technology := .gsm },
    { id := ⟨1⟩, subscription := none, technology := .gsm, service := .emergencyOnly }]
  emergencyNumbers := {
    numbers := ["911"]
    routes := [(("911", ⟨0⟩), .normal), (("911", ⟨1⟩), .emergency)] }

def detour : List Occasion := [
  .start (.place { address := "911" }),
  .resume 0,
  .reply 0 (.refused (.rejected .emergencyTemporary 0 "")),
  .resume 0]

def detourArgs : DialArgs where
  emergency := true
  routing := some .normal

theorem detour_dials : ∃ office,
    (Office.opening { domainSelection := false } unlikePhones).run 20 detour = some office ∧
      .asked (.dial (.issued 0) ⟨1⟩ "911" detourArgs) ∈ office.system.outside := by
  have dials : ((Office.opening { domainSelection := false } unlikePhones).run 20 detour).any
      (fun office => .asked (.dial (.issued 0) ⟨1⟩ "911" detourArgs) ∈ office.system.outside) =
        true := by decide +kernel
  obtain ⟨office, run, among⟩ := (Option.any_eq_true _ _).mp dials
  exact ⟨office, run, by simpa using among⟩

/-- The phone of the second dial has to signal an emergency, and is not asked to. -/
theorem detour_misrouted : ∃ office,
    (Office.opening { domainSelection := false } unlikePhones).run 20 detour = some office ∧
      .asked (.dial (.issued 0) ⟨1⟩ "911" detourArgs) ∈ office.system.outside ∧
      unlikePhones.emergencyNumbers.isEmergency "911" = true ∧
      detourArgs.routing ≠ some (unlikePhones.emergencyNumbers.routingFor "911" ⟨1⟩) := by
  obtain ⟨office, run, asked⟩ := detour_dials
  exact ⟨office, run, asked, by decide, by decide⟩

theorem detour_routing : ∃ office first,
    (Office.opening { domainSelection := false } unlikePhones).run 20 detour = some office ∧
      (∀ occasion ∈ detour, occasion.KeepsNumbers) ∧
      office.system.outside.firstDialed? (.issued 0) = some first ∧
      unlikePhones.emergencyNumbers.routingFor "911" first = .normal := by
  obtain ⟨office, run, asked⟩ := detour_dials
  have fixed : ∀ occasion ∈ detour, occasion.KeepsNumbers := by
    simp [detour, Occasion.KeepsNumbers]
  obtain ⟨first, dialed, routing, -⟩ := routing_eq_iff run fixed asked (by decide)
  exact ⟨office, first, run, fixed, dialed, (Option.some.inj routing).symm⟩

end Office
end Switchboard
