import Switchboard.Proofs.Conferences
import Switchboard.Proofs.StepOutcomes

/-! Adding a call during an emergency. Whether that is restricted is looked at once, at the moment
at which an ordinary call is put in the books, and the call may be dialed much later. So at the dial
no other call is an emergency unless it has come since, or has become one since. -/

namespace Switchboard

variable {rounds : Nat} {own : ConnectionId → Prop} {worldly : Prop}
  {start before after last : System Chronicle}
  {technologies : ConnectionId → Technology}

namespace System

/-- The call is in the books, and live. -/
def Up (system : System Chronicle) (id : ConnectionId) : Prop :=
  system.isRegistered id = true ∧ (system.connection id).published.state.isLive = true

instance (system : System Chronicle) (id : ConnectionId) : Decidable (system.Up id) :=
  inferInstanceAs (Decidable (_ ∧ _))

def EmergencyUp (system : System Chronicle) (id : ConnectionId) : Prop :=
  system.Up id ∧ (system.connection id).isEmergency = true

instance (system : System Chronicle) (id : ConnectionId) : Decidable (system.EmergencyUp id) :=
  inferInstanceAs (Decidable (_ ∧ _))

/-- If the call is ever an emergency, it has become one since: it is yet to come, or it is up as an
ordinary call. -/
def Unalarmed (system : System Chronicle) (id : ConnectionId) : Prop :=
  ¬ system.Known id ∨ system.Up id ∧ (system.connection id).isEmergency = false

structure Lasts (before after : System Chronicle) : Prop where
  known {id : ConnectionId} : before.Known id → after.Known id
  gone {id : ConnectionId} : before.Known id → (before.connection id).destroyed = true →
    (after.connection id).destroyed = true

namespace Lasts

theorem of_same (count : after.connections.length = before.connections.length)
    (same : ∀ id, after.connection id = before.connection id) : before.Lasts after where
  known {id} known := (known_congr count id).mpr known
  gone {id} _ gone := by rw [same, gone]

theorem noting (system : System Chronicle) (note : Note) : system.Lasts (system.noting note) :=
  .of_same rfl fun id => by cases id <;> rfl

theorem trans {middle : System Chronicle} (first : before.Lasts middle)
    (second : middle.Lasts after) : before.Lasts after where
  known known := second.known (first.known known)
  gone known gone := second.gone (first.known known) (first.gone known gone)

theorem of_stays (stays : before.Stays own after) : before.Lasts after where
  known {id} known := (known_congr stays.count id).mpr known
  gone _ gone := stays.gone gone

theorem joined (system : System Chronicle) (call : Connection)
    (plans : List (ConnectionId × DialPlan)) : system.Lasts (system.joined call plans) where
  known known := system.known_joined known
  gone known gone := by
    rw [system.connection_joined_of_known known]
    exact gone

end Lasts

theorem Books.up_iff {system : System Chronicle} (books : system.Books technologies)
    (id : ConnectionId) : system.Up id ↔ (system.connection id).destroyed = false := by
  refine ⟨fun up => (books.alive_iff id).mp (List.contains_iff_mem.mp up.1), fun alive => ?_⟩
  refine ⟨List.contains_iff_mem.mpr ((books.alive_iff id).mpr alive), ?_⟩
  refine Decidable.byContradiction fun finished => ?_
  rw [books.rest.destroyed_of_not_live finished] at alive
  cases alive

theorem mem_liveElsewhere {system : System Chronicle} {phone : PhoneId} {id other : ConnectionId} :
    other ∈ system.liveElsewhere phone id ↔
      system.Up other ∧ other ≠ id ∧ (system.connection other).phone ≠ phone := by
  simp only [liveElsewhere, Up, isRegistered, List.mem_filter, List.contains_iff_mem,
    Bool.and_eq_true, bne_iff_ne]
  tauto

theorem anyLive_emergency_of_objection {system : System Chronicle} {phone : Phone}
    {carrier : CarrierConfig} {dial : String}
    (free : system.objection phone carrier dial = none)
    (restricted : carrier.allowAddCallDuringEmergency = false) :
    system.anyLive (·.isEmergency) = false := by
  rw [objection] at free
  repeat' split at free
  all_goals cases free
  rename_i allowed
  rw [restricted] at allowed
  simpa using allowed

theorem objection_of_prepare? {system : System Chronicle} {request : CallRequest}
    {placement : Placement} (prepared : system.prepare? request = .ok placement)
    (ordinary : placement.number.emergency = false) :
    system.objection placement.phone placement.carrier placement.number.dial = none := by
  unfold prepare? at prepared
  dsimp only at prepared
  repeat' split at prepared
  all_goals cases prepared
  all_goals simp_all

theorem not_emergencyUp_of_prepare? {system : System Chronicle} {request : CallRequest}
    {placement : Placement} (prepared : system.prepare? request = .ok placement)
    (ordinary : placement.number.emergency = false)
    (restricted : placement.carrier.allowAddCallDuringEmergency = false) (id : ConnectionId) :
    ¬ system.EmergencyUp id := by
  rintro ⟨⟨registered, live⟩, emergency⟩
  have none := anyLive_emergency_of_objection (objection_of_prepare? prepared ordinary) restricted
  rw [anyLive, List.any_eq_false] at none
  exact none id (List.contains_iff_mem.mp registered) (by simp [emergency, live])

end System

structure Admits (rounds : Nat) (request : CallRequest) (placement : Placement) (id : ConnectionId)
    (checked entered : System Chronicle) : Prop where
  allowed : placement.number.emergency = false → checked.prepare? request = .ok placement
  run : Act.enroll request placement (.level .silent rounds) checked = some (id, entered)

namespace StepOutcome

theorem lasts (stepOutcome : StepOutcome rounds own worldly before after) : before.Lasts after := by
  cases stepOutcome with
  | stays stays => exact .of_stays stays
  | notes plain stays => exact (System.Lasts.noting before _).trans (.of_stays stays)
  | dials mine held phone domain => exact .noting before _
  | enrolls mine allowed run stays => exact (System.Lasts.joined before _ _).trans (.of_stays stays)
  | @arrives params view after free stays =>
    have gained : before.Lasts (before.gained view (.rang (.issued before.connections.length)
        ⟨before.legs.length⟩)) := .of_same rfl fun id => by cases id <;> rfl
    exact (gained.trans (.joined _ _ _)).trans (.of_stays stays)
  | alters free change => exact .of_same rfl fun id => by cases id <;> rfl

theorem plan (stepOutcome : StepOutcome rounds own worldly before after) {id : ConnectionId}
    {plan : DialPlan}
    (held : after.planOf? id = some plan) :
    before.planOf? id = some plan ∨ ∃ request placement,
      Admits rounds request placement id before after ∧
        plan.emergency = placement.number.emergency := by
  cases stepOutcome with
  | stays stays => exact .inl (stays.plan held)
  | notes plain stays => exact .inl (stays.plan held)
  | dials mine had phone domain => exact .inl held
  | arrives free stays => exact .inl (stays.plan held)
  | alters free change => exact .inl held
  | @enrolls request placement _ mine allowed run stays =>
    have listed := stays.plan held
    rw [System.planOf?, System.enlisting, System.joined, List.lookup_append] at listed
    by_cases new : id = .issued before.connections.length
    · subst new
      simp only [List.lookup_cons_self, Option.some_or, Option.some.injEq] at listed
      exact .inr ⟨request, placement, ⟨allowed, run⟩, listed ▸ rfl⟩
    · rw [List.lookup_cons, beq_false_of_ne new] at listed
      exact .inl listed

theorem dial (stepOutcome : StepOutcome rounds own worldly before after) {id : ConnectionId}
    {phone : PhoneId}
    {number : String} {args : DialArgs}
    (dials : after.outside = .asked (.dial id phone number args) :: before.outside) :
    own id ∧ ∃ plan, before.planOf? id = some plan ∧ args.emergency = plan.emergency := by
  have never {note : Note} (plain : note.isDialing = false) {goal : Prop}
      (same : note :: before.outside = .asked (.dial id phone number args) :: before.outside) :
      goal := by
    rw [List.head_eq_of_cons_eq same] at plain
    cases plain
  cases stepOutcome with
  | stays stays => exact absurd (stays.outside.symm.trans dials).symm (List.cons_ne_self _ _)
  | notes plain stays => exact never plain (stays.outside.symm.trans dials)
  | enrolls mine allowed run stays =>
    exact absurd (stays.outside.symm.trans dials).symm (List.cons_ne_self _ _)
  | arrives free stays => exact never rfl (stays.outside.symm.trans dials)
  | alters free change => exact absurd dials.symm (List.cons_ne_self _ _)
  | dials mine held phone domain =>
    cases List.head_eq_of_cons_eq dials
    exact ⟨mine, _, held, rfl⟩

end StepOutcome

namespace Reaches

variable {trace : Trace}

theorem lasts (reaches : Reaches rounds start trace last) (books : start.Books technologies) :
    ∀ step ∈ trace, step.1.Lasts last := by
  induction reaches with
  | refl => exact fun _ among => absurd among List.not_mem_nil
  | absorb reaches ih =>
    exact fun step among => (ih step among).trans (.of_same rfl fun id => by cases id <;> rfl)
  | step reaches happens ih =>
    have latest := (happens.stepOutcome (reaches.books books).rest).lasts
    intro step among
    rcases List.mem_append.mp among with old | own
    · exact (ih step old).trans latest
    · rw [List.mem_singleton.mp own]
      exact latest

theorem admission (reaches : Reaches rounds start trace last) (books : start.Books technologies)
    (unplanned : ∀ id, start.planOf? id = none) {id : ConnectionId} {plan : DialPlan}
    (held : last.planOf? id = some plan) :
    ∃ step ∈ trace, ∃ request placement,
      Admits rounds request placement id step.1 step.2 ∧
        plan.emergency = placement.number.emergency := by
  induction reaches with
  | refl =>
    rw [unplanned] at held
    cases held
  | absorb reaches ih => exact ih held
  | step reaches happens ih =>
    rcases (happens.stepOutcome (reaches.books books).rest).plan held with old |
      ⟨request, placement, new⟩
    · obtain ⟨step, among, admits⟩ := ih old
      exact ⟨step, List.mem_append_left _ among, admits⟩
    · exact ⟨_, List.mem_append_right _ (List.mem_singleton_self _), request, placement, new⟩

end Reaches

namespace Office

variable {settings : Settings} {device : Device} {occasions : List Occasion} {office : Office}
  {past rest : Trace}

/-- An ordinary call that is dialed was looked at when it was put in the books. If its carrier lets
nobody add a call during an emergency, there is no other emergency at the dial exactly if no call
has become one since. -/
theorem dial_restricted_iff
    (reached : (opening settings device).run rounds occasions = some office)
    (split : (opening settings device).trace rounds occasions = past ++ (before, after) :: rest)
    {id : ConnectionId} {phone : PhoneId} {number : String} {args : DialArgs}
    (dials : after.outside = .asked (.dial id phone number args) :: before.outside)
    (ordinary : args.emergency = false) :
    ∃ checked entered request placement, (checked, entered) ∈ past ∧
      checked.prepare? request = .ok placement ∧
      Act.enroll request placement (.level .silent rounds) checked = some (id, entered) ∧
      placement.number.emergency = false ∧
      (placement.carrier.allowAddCallDuringEmergency = false →
        ((∀ other, other ≠ id → ¬ before.EmergencyUp other) ↔
          ∀ other, other ≠ id → checked.Unalarmed other → ¬ before.EmergencyUp other)) := by
  have opened := System.Books.opening settings device
  obtain ⟨reaches, happens⟩ := (reaches_trace reached).sofar split
  have books := reaches.books opened
  obtain ⟨-, plan, held, same⟩ := (happens.stepOutcome books.rest).dial dials
  obtain ⟨⟨checked, entered⟩, among, request, placement, admits, kind⟩ :=
    reaches.admission opened (fun _ => rfl) held
  have plain : placement.number.emergency = false := kind.symm.trans (same.symm.trans ordinary)
  have prepared := admits.allowed plain
  refine ⟨checked, entered, request, placement, among, prepared, admits.run, plain,
    fun restricted => ⟨fun none other differs _ => none other differs,
      fun later other differs up => later other differs ?_ up⟩⟩
  obtain ⟨earlier, later, same⟩ := List.append_of_mem among
  have kept := (reaches.sofar same).1.books opened
  by_cases known : checked.Known other
  case neg => exact .inl known
  have alive : (checked.connection other).destroyed = false := by
    by_contra gone
    have gone := (reaches.lasts opened _ among).gone known ((Bool.not_eq_false _).mp gone)
    rw [(books.up_iff other).mp up.1] at gone
    cases gone
  have early := (kept.up_iff other).mpr alive
  refine .inr ⟨early, (Bool.not_eq_true _).mp fun emergency => ?_⟩
  exact System.not_emergencyUp_of_prepare? prepared plain restricted other ⟨early, emergency⟩

def darkPhone : Device where
  phones := [{ id := ⟨0⟩, subscription := none, technology := .gsm, service := .powerOff }]
  emergencyNumbers := { numbers := ["911"] }

def radioOn : Alteration where
  apply device := { device with phones := device.phones.map ({ · with service := {} }) }
  phones device := by simp

def overtaken : List Occasion := [
  .start (.place { address := "5551234" }),
  .resume 0,
  .start (.place { address := "911" }),
  .resume 1,
  .alter radioOn,
  .reply 1 .done,
  .resume 1,
  .grant 4 { state := .dialing, technology := .gsm },
  .resume 1,
  .reply 0 .done,
  .resume 0]

theorem overtaken_dials : ∃ office past before after rest,
    (opening { domainSelection := false } darkPhone).run 20 overtaken = some office ∧
      (opening { domainSelection := false } darkPhone).trace 20 overtaken =
        past ++ (before, after) :: rest ∧
      after.outside = .asked (.dial (.issued 0) ⟨0⟩ "5551234" {}) :: before.outside ∧
      before.EmergencyUp (.issued 1) := by
  have runs :
      ((opening { domainSelection := false } darkPhone).run 20 overtaken).isSome = true := by
    decide +kernel
  have dials : ((opening { domainSelection := false } darkPhone).trace 20 overtaken).any
      (fun step => decide (step.2.outside =
          .asked (.dial (.issued 0) ⟨0⟩ "5551234" {}) :: step.1.outside ∧
        step.1.EmergencyUp (.issued 1))) = true := by decide +kernel
  obtain ⟨office, reached⟩ := Option.isSome_iff_exists.mp runs
  obtain ⟨⟨before, after⟩, among, shown⟩ := List.any_eq_true.mp dials
  obtain ⟨past, rest, split⟩ := List.append_of_mem among
  obtain ⟨dials, up⟩ := of_decide_eq_true shown
  exact ⟨office, past, before, after, rest, reached, split, dials, up⟩

/-- The emergency has come since the ordinary call was looked at. -/
theorem overtaken_since : ∃ office past before after rest checked entered request placement,
    (opening { domainSelection := false } darkPhone).run 20 overtaken = some office ∧
      (opening { domainSelection := false } darkPhone).trace 20 overtaken =
        past ++ (before, after) :: rest ∧
      after.outside = .asked (.dial (.issued 0) ⟨0⟩ "5551234" {}) :: before.outside ∧
      (checked, entered) ∈ past ∧ checked.prepare? request = .ok placement ∧
      (placement.carrier.allowAddCallDuringEmergency = false →
        ∃ other, other ≠ .issued 0 ∧ checked.Unalarmed other ∧ before.EmergencyUp other) := by
  obtain ⟨office, past, before, after, rest, reached, split, dials, up⟩ := overtaken_dials
  obtain ⟨checked, entered, request, placement, among, prepared, -, -, tells⟩ :=
    dial_restricted_iff reached split dials rfl
  refine ⟨office, past, before, after, rest, checked, entered, request, placement, reached, split,
    dials, among, prepared, fun restricted => ?_⟩
  by_contra none
  push Not at none
  exact (tells restricted).mpr none (.issued 1) (by decide) up

/-- No carrier of the device lets a call be added during an emergency, and yet one is dialed. -/
theorem overtaken_adds : ∃ office past before after rest,
    (opening { domainSelection := false } darkPhone).run 20 overtaken = some office ∧
      (∀ subscription,
        (darkPhone.carrierOf subscription).allowAddCallDuringEmergency = false) ∧
      (opening { domainSelection := false } darkPhone).trace 20 overtaken =
        past ++ (before, after) :: rest ∧
      after.outside = .asked (.dial (.issued 0) ⟨0⟩ "5551234" {}) :: before.outside ∧
      before.EmergencyUp (.issued 1) := by
  obtain ⟨office, past, before, after, rest, reached, split, dials, up⟩ := overtaken_dials
  exact ⟨office, past, before, after, rest, reached,
    fun subscription => by cases subscription <;> rfl,
    split, dials, up⟩

end Office
end Switchboard
