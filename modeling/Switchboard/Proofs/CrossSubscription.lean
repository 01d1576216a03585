import Switchboard.Proofs.Alone
import Switchboard.Proofs.Restriction

/-! One subscription at a time. Where calls on two subscriptions cannot be up together, whoever
places a call ends the calls on the other phones before the first dial. Redials of an emergency call
make no more room: the others stay on the phone that was dialed first, so a redial on another phone
crosses subscriptions as soon as there is any other call. -/

namespace Switchboard

variable {α β : Type} {rounds : Nat} {names : Slot → PhoneId} {id : ConnectionId}
  {phone : PhoneId} {dialed : Option PhoneId} {before after system : System Chronicle}

def Aligned (before after : System Chronicle) : Prop :=
  ∀ id phone number args, after.outside = .asked (.dial id phone number args) :: before.outside →
    ((∀ other, other ≠ id → before.Up other → (before.connection other).phone = phone) ↔
      (∀ first, before.outside.firstDialed? id = some first → first = phone) ∨
        ∀ other, other ≠ id → ¬ before.Up other)

theorem Aligned.of_undialed (undialed : before.outside.Undialed after.outside) :
    Aligned before after :=
  fun _ _ _ _ dials => absurd dials (undialed.ne_cons rfl)

namespace System

/-- What is settled before a call is placed. -/
structure BeforePlacing (names : Slot → PhoneId) (system : System Chronicle) : Prop where
  books : ∃ technologies, system.Books technologies
  named (slot : Slot) : (system.device.phone slot).id = names slot
  single : system.device.isConcurrent = false
  unaided : system.settings.domainSelection = false

/-- A call is being placed, and this is the phone that it was dialed on first. -/
structure Placing (names : Slot → PhoneId) (id : ConnectionId) (dialed : Option PhoneId)
    (system : System Chronicle) : Prop extends system.BeforePlacing names where
  known : system.Known id
  dialed : system.outside.firstDialed? id = dialed

structure OnOnePhone (names : Slot → PhoneId) (id : ConnectionId) (dialed : Option PhoneId)
    (phone : PhoneId) (system : System Chronicle) :
      Prop extends system.Placing names id dialed where
  together {other : ConnectionId} : other ≠ id → (system.connection other).destroyed = false →
    (system.connection other).phone = phone

theorem BeforePlacing.nothingNew (beforePlacing : before.BeforePlacing names)
    (nothingNew : before.NothingNew after) :
    after.BeforePlacing names where
  books := nothingNew.books beforePlacing.books
  named slot := (nothingNew.named slot).trans (beforePlacing.named slot)
  single := nothingNew.single beforePlacing.single
  unaided := by rw [nothingNew.settings, beforePlacing.unaided]

theorem Placing.nothingNew (placing : before.Placing names id dialed)
    (nothingNew : before.NothingNew after) : after.Placing names id dialed where
  toBeforePlacing := placing.toBeforePlacing.nothingNew nothingNew
  known := nothingNew.known.mpr placing.known
  dialed := (nothingNew.dialed id).trans placing.dialed

theorem NothingNew.alive (nothingNew : before.NothingNew after) {other : ConnectionId}
    (alive : (after.connection other).destroyed = false) :
    (before.connection other).destroyed = false := by
  refine (Bool.not_eq_true _).mp fun gone => ?_
  rw [nothingNew.gone gone] at alive
  cases alive

theorem OnOnePhone.nothingNew (together : before.OnOnePhone names id dialed phone)
    (nothingNew : before.NothingNew after) : after.OnOnePhone names id dialed phone where
  toPlacing := together.toPlacing.nothingNew nothingNew
  together {other} differs alive :=
    (nothingNew.phone other).trans (together.together differs (nothingNew.alive alive))

theorem OnOnePhone.aligned (together : before.OnOnePhone names id dialed phone) {target : PhoneId}
    {number : String} {args : DialArgs}
    (outside : after.outside = .asked (.dial id target number args) :: before.outside)
    (turn : dialed = none ∧ target = phone ∨ dialed = some phone) : Aligned before after := by
  intro caller on number args dials
  cases List.head_eq_of_cons_eq (outside.symm.trans dials)
  obtain ⟨technologies, books⟩ := together.books
  have there {other : ConnectionId} (differs : other ≠ id) (up : before.Up other) :
      (before.connection other).phone = phone :=
    together.together differs ((books.up_iff other).mp up)
  rw [together.dialed]
  rcases turn with ⟨rfl, rfl⟩ | rfl
  · exact ⟨fun _ => .inl nofun, fun _ other differs up => there differs up⟩
  · constructor
    · intro all
      by_cases any : ∃ other, other ≠ id ∧ before.Up other
      · obtain ⟨other, differs, up⟩ := any
        refine .inl fun first same => ?_
        rw [← Option.some.inj same, ← there differs up, all other differs up]
      · exact .inr fun other differs up => any ⟨other, differs, up⟩
    · rintro (same | nobody) other differs up
      · rw [there differs up, same phone rfl]
      · exact absurd up (nobody other differs)

theorem BeforePlacing.noting (beforePlacing : before.BeforePlacing names) (note : Note) :
    (before.noting note).BeforePlacing names where
  books := by
    obtain ⟨_, books⟩ := beforePlacing.books
    have beside : before.Beside (before.noting note) := ⟨rfl, rfl, rfl, rfl, rfl, rfl, rfl⟩
    exact ⟨_, beside.books books⟩
  named := beforePlacing.named
  single := beforePlacing.single
  unaided := beforePlacing.unaided

theorem OnOnePhone.noting (together : before.OnOnePhone names id dialed phone) (note : Note) :
    (before.noting note).OnOnePhone names id (dialed.or (note.dialed? id)) phone := by
  have same (other : ConnectionId) :
      (before.noting note).connection other = before.connection other := by cases other <;> rfl
  exact {
    toBeforePlacing := together.toBeforePlacing.noting note
    known := together.known
    dialed := by
      rw [← together.dialed]
      exact Chronicle.firstDialed?_cons note before.outside id
    together := fun {other} differs alive => by
      rw [same] at alive ⊢
      exact together.together differs alive }

theorem OnOnePhone.dials (together : before.OnOnePhone names id dialed phone) {target : PhoneId}
    (turn : dialed = none ∧ target = phone ∨ dialed = some phone) (number : String)
    (args : DialArgs) :
    (before.noting (.asked (.dial id target number args))).OnOnePhone names id (some phone) phone :=
      by
  have now := together.noting (.asked (.dial id target number args))
  rw [Note.dialed?, if_pos rfl] at now
  rcases turn with ⟨rfl, rfl⟩ | rfl <;> exact now

theorem OnOnePhone.stays (together : before.OnOnePhone names id dialed phone)
    (stays : before.Stays (· = id) after) (books : ∃ technologies, after.Books technologies) :
    after.OnOnePhone names id dialed phone where
  books := books
  named slot := by rw [stays.device, together.named]
  single := by rw [stays.device, together.single]
  unaided := by rw [stays.settings, together.unaided]
  known := (known_congr stays.count id).mpr together.known
  dialed := by rw [stays.outside, together.dialed]
  together {other} differs alive := by
    rw [stays.phone differs]
    refine together.together differs ((Bool.not_eq_true _).mp fun gone => ?_)
    rw [stays.gone gone] at alive
    cases alive

end System

theorem TaskStep.nothingNew {step : Act Chronicle β}
    (taskStep : TaskStep (fun _ => False) before step)
    (books : ∃ technologies, before.Books technologies) :
    step.Ensures (.level .silent rounds) before fun _ after => before.NothingNew after := by
  intro value after run
  have keeps : (∃ technologies, before.Books technologies) →
      ∃ technologies, after.Books technologies :=
    fun ⟨_, books⟩ => ⟨_, taskStep.keepsBooks books _ _ run⟩
  obtain ⟨_, standing⟩ := books
  have stepOutcome : StepOutcome rounds (fun _ => False) False before after :=
    taskStep.stepOutcome standing.rest _ _ run
  cases stepOutcome with
  | stays stays => exact .of_stays stays keeps
  | notes plain stays => exact .of_notes plain stays keeps
  | dials mine => exact mine.elim
  | enrolls mine => exact mine.elim
  | arrives free => exact free.elim
  | alters free => exact free.elim

theorem TaskStep.together {step : Act Chronicle β} (taskStep : TaskStep (· = id) before step)
    (together : before.OnOnePhone names id (some phone) phone) :
    step.Ensures (.level .silent rounds) before fun _ after =>
      Aligned before after ∧ after.OnOnePhone names id (some phone) phone := by
  intro value after run
  obtain ⟨_, standing⟩ := together.books
  have books : ∃ technologies, after.Books technologies := ⟨_, taskStep.keepsBooks standing _ _ run⟩
  have stepOutcome : StepOutcome rounds (· = id) False before after :=
    taskStep.stepOutcome standing.rest _ _ run
  cases stepOutcome with
  | stays stays => exact ⟨.of_undialed (.of_eq stays.outside), together.stays stays books⟩
  | @notes note _ plain stays =>
    have noted := together.noting note
    rw [Note.dialed?_of_plain plain, Option.or_none] at noted
    refine ⟨.of_undialed ?_, noted.stays stays books⟩
    rw [stays.outside]
    exact .cons plain
  | dials mine held target domain =>
    cases mine
    exact ⟨together.aligned rfl (.inr rfl), together.dials (.inr rfl) _ _⟩
  | enrolls mine =>
    rw [← mine] at together
    exact absurd together.known before.not_known_next
  | arrives free => exact free.elim
  | alters free => exact free.elim

namespace Program.AllSteps

theorem quietly {program : Program Chronicle α}
    (takesOnly : program.TakesOnly (.level .silent rounds) (TaskStep fun _ => False) system)
    (books : ∃ technologies, system.Books technologies) :
    program.AllSteps rounds Aligned (fun _ after => system.NothingNew after) system := by
  refine of_takesOnly (fun sofar idles => ?_) (fun sofar taskStep value after run => ?_) takesOnly
    (.refl system)
  · exact sofar.trans (idles.nothingNew (sofar.books books))
  · have nothingNew := taskStep.nothingNew (sofar.books books) value after run
    exact ⟨.of_undialed nothingNew.outside, sofar.trans nothingNew⟩

theorem pursuing {program : Program Chronicle α}
    (takesOnly : program.TakesOnly (.level .silent rounds) (TaskStep (· = id)) system)
    (together : system.OnOnePhone names id (some phone) phone) :
    program.AllSteps rounds Aligned (fun _ after => after.OnOnePhone names id (some phone) phone)
      system := by
  refine of_takesOnly (fun kept idles => ?_) (fun kept taskStep => taskStep.together kept)
    takesOnly together
  exact kept.nothingNew (idles.nothingNew kept.books)

variable {post : α → System Chronicle → Prop}

theorem look {next : System Chronicle → Program Chronicle α}
    (allSteps : (next system).AllSteps rounds Aligned post system) :
    (Program.system >>= next).AllSteps rounds Aligned post system :=
  bind ((Act.ensures_get _).mpr ⟨.of_undialed (.of_eq rfl), allSteps⟩)

theorem call {next : Connection → Program Chronicle α}
    (allSteps : (next (system.connection id)).AllSteps rounds Aligned post system) :
    (Program.call id >>= next).AllSteps rounds Aligned post system :=
  bind ((Act.ensures_look id _).mpr ⟨.of_undialed (.of_eq rfl), allSteps⟩)

theorem isLive {next : Bool → Program Chronicle α}
    (allSteps : (next (system.connection id).published.state.isLive).AllSteps rounds Aligned
      post system) :
    (Program.isLive id >>= next).AllSteps rounds Aligned post system :=
  bind (call allSteps)

theorem disconnect (books : ∃ technologies, system.Books technologies) (info : DisconnectInfo) :
    (Program.disconnect id info).AllSteps rounds Aligned
      (fun _ after => system.NothingNew after ∧ (after.connection id).destroyed = true) system := by
  intro value after run
  have nothingNew := (TaskStep.disconnect id info).nothingNew books value after run
  obtain ⟨_, standing⟩ := books
  have ripple := Act.ripple_setDisconnected (Wiring.ripples_notes rounds) standing.rest id info
    value after run
  exact ⟨.of_undialed nothingNew.outside, nothingNew,
    (ripple.destroyed id).trans (standing.rest.destroyed_ending id info)⟩

theorem hangup (books : ∃ technologies, system.Books technologies) (cause : DisconnectCause) :
    (Program.hangup openWorld id cause).AllSteps rounds Aligned
      (fun _ after => system.NothingNew after ∧ (after.connection id).destroyed = true) system := by
  refine call ?_
  split
  · rename_i finished
    obtain ⟨_, standing⟩ := books
    exact ⟨.refl system, standing.rest.destroyed_of_not_live (by simpa using finished)⟩
  split
  · exact disconnect books _
  · rename_i leg _
    refine bind ((quietly (.of_uses (Uses.hangupLeg (TaskStep.permits _) leg) system) books).mono
      fun answer now nothingNew => ?_)
    have closed (info : DisconnectInfo) : (Program.disconnect id info).AllSteps rounds Aligned
        (fun _ after => system.NothingNew after ∧ (after.connection id).destroyed = true) now :=
      (disconnect (nothingNew.books books) info).mono fun _ _ ended =>
        ⟨nothingNew.trans ended.1, ended.2⟩
    cases answer <;> exact closed _

theorem hangupAll (others : List ConnectionId) (books : ∃ technologies, system.Books technologies) :
    (Program.hangupAll openWorld others).AllSteps rounds Aligned
      (fun _ after => system.NothingNew after ∧
        ∀ other ∈ others, (after.connection other).destroyed = true) system := by
  induction others generalizing system with
  | nil => exact ⟨.refl system, fun _ among => absurd among List.not_mem_nil⟩
  | cons first rest ih =>
    refine bind ((hangup books .byRequest).mono fun _ now ended => ?_)
    obtain ⟨nothingNew, gone⟩ := ended
    refine (ih (nothingNew.books books)).mono fun _ after ⟨onward, others⟩ => ?_
    exact ⟨nothingNew.trans onward, List.forall_mem_cons.mpr ⟨onward.gone gone, others⟩⟩

theorem prepareToDial (placing : system.Placing names id dialed) (phone : PhoneId)
    (emergency : Bool) (carrier : CarrierConfig) :
    (Program.prepareToDial openWorld id phone emergency carrier).AllSteps rounds Aligned
      (fun _ after => after.OnOnePhone names id dialed phone) system := by
  obtain ⟨technologies, books⟩ := placing.books
  have elsewhere {other : ConnectionId} (differs : other ≠ id)
      (alive : (system.connection other).destroyed = false)
      (apart : (system.connection other).phone ≠ phone) : other ∈ system.liveElsewhere phone id :=
    System.mem_liveElsewhere.mpr ⟨(books.up_iff other).mpr alive, differs, apart⟩
  have cleared {after : System Chronicle} (nothingNew : system.NothingNew after)
      (gone : ∀ other ∈ system.liveElsewhere phone id,
        (after.connection other).destroyed = true) : after.OnOnePhone names id dialed phone := {
    toPlacing := placing.nothingNew nothingNew
    together := fun {other} differs alive => by
      rw [nothingNew.phone other]
      by_contra apart
      rw [gone other (elsewhere differs (nothingNew.alive alive) apart)] at alive
      cases alive }
  refine look ?_
  dsimp only
  split
  · rename_i nobody
    rw [List.isEmpty_iff] at nobody
    exact cleared (.refl system) (by simp [nobody])
  · rw [placing.single]
    exact (hangupAll _ placing.books).mono fun _ after ⟨nothingNew, gone⟩ => cleared nothingNew gone

theorem dialAndBind {slot : Slot} (together : system.OnOnePhone names id none (names slot))
    (domain : Option Domain) :
    (Program.dialAndBind openWorld id slot domain).AllSteps rounds Aligned
      (fun outcome after =>
        outcome = .cancelled ∧ after.OnOnePhone names id none (names slot) ∨
          after.OnOnePhone names id (some (names slot)) (names slot)) system := by
  rw [dialAndBind_eq]
  refine look ?_
  cases held : system.planOf? id with
  | none => exact .inl ⟨rfl, together⟩
  | some plan =>
    have turn : (none : Option PhoneId) = none ∧ (system.device.phone slot).id = names slot ∨
        none = some (names slot) := .inl ⟨rfl, together.named slot⟩
    have dialed := together.dials turn plan.dial (plan.args (system.connection id) domain)
    refine look (bind ?_)
    refine (Act.ensures_get _).mpr ⟨.of_undialed (.of_eq rfl),
      (Act.ensures_reviseOutside _ _).mpr ?_⟩
    refine ⟨together.aligned rfl turn, ?_⟩
    refine (pursuing (.of_uses (Uses.expect (TaskStep.permits _) _) _) dialed).mono
      fun answer now kept => ?_
    have takesOnly :
        (receive id answer.dialed).TakesOnly (.level .silent rounds) (TaskStep (· = id)) now :=
      .receive (TaskStep.chooses (by rfl)).toSeeks answer.dialed
    exact (pursuing takesOnly kept).mono fun _ _ => .inr

theorem dialOut {placement : Placement} (named : names placement.slot = placement.phone.id)
    (together : system.OnOnePhone names id none placement.phone.id) (domain : Option Domain) :
    (Program.dialOut openWorld id placement domain).AllSteps rounds Aligned
      (fun _ _ => True) system := by
  have gone {now : System Chronicle} (books : ∃ technologies, now.Books technologies) :
      (Program.gone id).AllSteps rounds Aligned (fun _ _ => True) now :=
    (quietly (.gone (TaskStep.permits _)) books).mono fun _ _ _ => trivial
  rw [← named] at together
  refine isLive ?_
  split
  · exact bind ((quietly (.gone (TaskStep.permits _)) together.books).mono fun _ _ _ => trivial)
  · refine bind ((dialAndBind together domain).mono fun outcome now dialed => ?_)
    rcases dialed with ⟨rfl, kept⟩ | kept
    · exact gone kept.books
    · have takesOnly : (Program.settle openWorld id placement.phone.id outcome).TakesOnly
          (.level .silent rounds) (TaskStep (· = id)) now :=
        .settle (TaskStep.chooses (by rfl)) _ outcome
      exact (pursuing takesOnly kept).mono fun _ _ _ => trivial

theorem chooseAndDial {placement : Placement} (named : names placement.slot = placement.phone.id)
    (placing : system.Placing names id none) :
    (Program.chooseAndDial openWorld id placement).AllSteps rounds Aligned
      (fun _ _ => True) system := by
  refine look ?_
  rw [placing.unaided, Bool.and_false, Bool.false_and, if_neg Bool.false_ne_true]
  exact bind ((prepareToDial placing _ _ _).mono fun _ _ together => dialOut named together none)

theorem complete {placement : Placement} (named : names placement.slot = placement.phone.id)
    (placing : system.Placing names id none) :
    (Program.complete openWorld id placement).AllSteps rounds Aligned (fun _ _ => True) system := by
  rw [complete_eq]
  refine bind ((quietly (.of_uses (Uses.ensureRadio (TaskStep.permits _) id _ _) system)
    placing.books).mono fun answer now nothingNew => ?_)
  have placing := placing.nothingNew nothingNew
  cases answer with
  | some answer => trivial
  | none =>
    dsimp only
    split
    · have prepares := Uses.prepareForEmergency (TaskStep.permits fun _ => False) id
        placement.phone.id placement.carrier fun _ _ => .note rfl
      refine bind
        ((quietly (.of_uses prepares now) placing.books).mono fun _ after nothingNew => ?_)
      have placing := placing.nothingNew nothingNew
      refine isLive ?_
      split
      · exact bind ((quietly (.gone (TaskStep.permits _)) placing.books).mono fun _ _ _ => trivial)
      · exact chooseAndDial named placing
    · exact chooseAndDial named placing

theorem enroll (beforePlacing : system.BeforePlacing names)
    (strange : ∀ {id phone}, system.outside.firstDialed? id = some phone → system.Known id)
    (request : CallRequest) (placement : Placement) :
    (Act.enroll request placement).Ensures (.level .silent rounds) system fun id after =>
      Aligned system after ∧ after.Placing names id none := by
  intro id after run
  obtain ⟨technologies, books⟩ := beforePlacing.books
  obtain ⟨rfl, stays⟩ := @Act.enroll_stays (fun _ => False) _ _ books.rest request placement _ _ run
  refine ⟨.of_undialed (.of_eq stays.outside), ?_⟩
  exact {
    books := ⟨_, Act.keepsBooks_enroll request placement books _ _ run⟩
    named := fun slot => by rw [stays.device]; exact beforePlacing.named slot
    single := by rw [stays.device]; exact beforePlacing.single
    unaided := by rw [stays.settings]; exact beforePlacing.unaided
    known := by
      refine (System.known_congr stays.count _).mpr ?_
      simp [System.Known, System.enlisting, System.joined]
    dialed := by
      rw [stays.outside]
      refine Option.eq_none_iff_forall_ne_some.mpr fun phone dialed => ?_
      exact system.not_known_next (strange dialed) }

/-- A task that places a call alone takes aligned steps only. -/
theorem place (beforePlacing : system.BeforePlacing names)
    (strange : ∀ {id phone}, system.outside.firstDialed? id = some phone → system.Known id)
    (request : CallRequest) :
    (Program.place openWorld request).AllSteps rounds Aligned (fun _ _ => True) system := by
  refine look ?_
  cases prepared : system.prepare? request with
  | error cause => trivial
  | ok placement =>
    have named : names placement.slot = placement.phone.id := by
      rw [System.phone_of_prepare? prepared, beforePlacing.named]
    refine bind ((quietly (.of_uses (Uses.clearSatellite (TaskStep.permits _) _) system)
      beforePlacing.books).mono fun objection now nothingNew => ?_)
    cases objection with
    | some cause => trivial
    | none =>
      refine bind ?_
      refine (enroll (beforePlacing.nothingNew nothingNew) (fun dialed => ?_) request
        placement).mono
        fun id after ⟨aligned, placing⟩ => ⟨aligned, complete named placing⟩
      rw [nothingNew.dialed] at dialed
      exact nothingNew.known.mpr (strange dialed)

end Program.AllSteps

/-! Who is dialed is in the books -/

structure System.Announced (system : System Chronicle) : Prop where
  planned {id : ConnectionId} {plan : DialPlan} : system.planOf? id = some plan → system.Known id
  dialed {id : ConnectionId} {phone : PhoneId} :
    system.outside.firstDialed? id = some phone → system.Known id

namespace System.Announced

theorem stays {own : ConnectionId → Prop} (announced : before.Announced)
    (stays : before.Stays own after) : after.Announced where
  planned held := (known_congr stays.count _).mpr (announced.planned (stays.plan held))
  dialed dialed := by
    rw [stays.outside] at dialed
    exact (known_congr stays.count _).mpr (announced.dialed dialed)

theorem noting (announced : before.Announced) (note : Note)
    (own : ∀ {id phone}, note.dialed? id = some phone → before.Known id) :
    (before.noting note).Announced where
  planned held := announced.planned held
  dialed {id phone} dialed := by
    have grown := (Chronicle.firstDialed?_cons note before.outside id).symm.trans dialed
    rcases Option.or_eq_some_iff.mp grown with old | ⟨-, new⟩
    · exact announced.dialed old
    · exact own new

theorem noting_plain (announced : before.Announced) {note : Note}
    (plain : note.isDialing = false) : (before.noting note).Announced :=
  announced.noting note fun {id _} dialed => by
    rw [Note.dialed?_of_plain plain] at dialed
    cases dialed

theorem joined (announced : before.Announced) (call : Connection)
    {plans : List (ConnectionId × DialPlan)}
    (own : ∀ entry ∈ plans, entry.1 = .issued before.connections.length) :
    (before.joined call plans).Announced where
  planned {id plan} held := by
    rw [planOf?, System.joined, List.lookup_append] at held
    cases new : plans.lookup id with
    | some found =>
      obtain ⟨earlier, later, rfl, -⟩ := List.lookup_eq_some_iff.mp new
      obtain rfl : id = _ := own (id, found) (by simp)
      simp [Known, System.joined]
    | none =>
      rw [new, Option.none_or] at held
      exact before.known_joined (announced.planned held)
  dialed dialed := before.known_joined (announced.dialed dialed)

end System.Announced

theorem StepOutcome.announced {own : ConnectionId → Prop} {worldly : Prop}
    (stepOutcome : StepOutcome rounds own worldly before after) (announced : before.Announced) :
    after.Announced := by
  cases stepOutcome with
  | stays stays => exact announced.stays stays
  | notes plain stays => exact (announced.noting_plain plain).stays stays
  | enrolls mine allowed run stays =>
    exact (announced.joined _ (List.forall_mem_singleton.mpr rfl)).stays stays
  | @arrives params view after free stays =>
    let rang : Note := .rang (.issued before.connections.length) ⟨before.legs.length⟩
    have noted : (before.noting rang).Announced := announced.noting_plain rfl
    have gained : (before.gained view rang).Announced := ⟨noted.planned, noted.dialed⟩
    exact (gained.joined _ (fun _ among => absurd among List.not_mem_nil)).stays stays
  | alters free change => exact ⟨announced.planned, announced.dialed⟩
  | dials mine held target domain =>
    refine announced.noting _ fun {caller phone} dialed => ?_
    rw [Note.dialed?] at dialed
    split at dialed
    · rename_i same
      exact same ▸ announced.planned held
    · cases dialed

theorem Reaches.announced {start last : System Chronicle} {trace : Trace}
    (reaches : Reaches rounds start trace last) {technologies : ConnectionId → Technology}
    (books : start.Books technologies) (announced : start.Announced) : last.Announced := by
  induction reaches with
  | refl => exact announced
  | absorb reaches ih => exact ⟨ih.planned, ih.dialed⟩
  | step reaches happens ih => exact (happens.stepOutcome (reaches.books books).rest).announced ih

namespace Office

variable {settings : Settings} {device : Device} {early occasions : List Occasion} {office : Office}
  {request : CallRequest}

def began (office : Office) (operation : Operation) : Office :=
  { office with tasks := office.tasks ++ [operation.program] }

theorem trace_start (office : Office) (operation : Operation) (occasions : List Occasion) :
    office.trace rounds (.start operation :: occasions) =
      (office.began operation).absorb.trace rounds occasions := rfl

theorem hasOnlyTask_place (works : office.system.works = []) (idle : office.tasks = [])
    (beforePlacing : office.system.BeforePlacing names) (announced : office.system.Announced)
    (request : CallRequest) :
    (office.began (.place request)).HasOnlyTask rounds Aligned where
  alone := by simp [began, idle]
  works := works
  allSteps := by
    intro task among later meanwhile
    rw [began, idle] at among
    obtain rfl := List.mem_singleton.mp among
    have nothingNew : office.system.NothingNew later := by
      induction meanwhile with
      | refl => exact .refl _
      | tail _ idles sofar => exact sofar.trans (idles.nothingNew (sofar.books beforePlacing.books))
    refine .bind ((Program.AllSteps.place (beforePlacing.nothingNew nothingNew) ?_ request).mono
      fun _ _ _ => trivial)
    intro id phone dialed
    rw [nothingNew.dialed] at dialed
    exact nothingNew.known.mpr (announced.dialed dialed)

/-- A call is placed while nobody else is at work, where calls on two subscriptions cannot be up
together and no domains are selected. At each of its dials, the others that are up are on the phone
that is dialed exactly if it is the phone of the first dial, or if there are no others. -/
theorem dial_alone_iff (reached : (opening settings device).run rounds early = some office)
    (idle : office.isIdle = true) (single : office.system.device.isConcurrent = false)
    (unaided : office.system.settings.domainSelection = false)
    (solitary : ∀ occasion ∈ occasions, occasion.Solitary)
    (alone : ∀ step ∈ office.trace rounds (.start (.place request) :: occasions),
      step.2.works = [])
    (among : (before, after) ∈ office.trace rounds (.start (.place request) :: occasions))
    {id : ConnectionId} {phone : PhoneId} {number : String} {args : DialArgs}
    (dials : after.outside = .asked (.dial id phone number args) :: before.outside) :
    (∀ other, other ≠ id → before.Up other → (before.connection other).phone = phone) ↔
      (∀ first, before.outside.firstDialed? id = some first → first = phone) ∨
        ∀ other, other ≠ id → ¬ before.Up other := by
  have opened := System.Books.opening settings device
  have reaches := reaches_trace reached
  have books : ∃ technologies, office.system.Books technologies := ⟨_, reaches.books opened⟩
  have announced : office.system.Announced := reaches.announced opened ⟨nofun, nofun⟩
  have works : office.system.works = [] := works_of_run rfl reached
  have idle : office.tasks = [] := List.isEmpty_iff.mp idle
  have beforePlacing : office.system.BeforePlacing fun slot =>
    (office.system.device.phone slot).id :=
    ⟨books, fun _ => rfl, single, unaided⟩
  have hasOnlyTask : (office.began (.place request)).HasOnlyTask rounds Aligned :=
    hasOnlyTask_place works idle beforePlacing announced request
  have busy : (office.began (.place request)).Busy rounds := by
    intro task among system
    rw [began, idle] at among
    rw [List.mem_singleton.mp among]
    exact (Operation.place request).takesOnly _ system
  have standing : ∃ technologies,
      (office.began (.place request)).absorb.system.Books technologies := by
    have beside : office.system.Beside { office.system with signals := [] } :=
      ⟨rfl, rfl, rfl, rfl, rfl, rfl, rfl⟩
    exact books.imp fun _ books => beside.books books
  rw [trace_start] at alone among
  exact hasOnlyTask.absorb.trace busy.absorb standing
    (fun nothingNew => .of_undialed nothingNew.outside)
    solitary alone _ among id phone number args dials

/-- Two phones, of which one at a time can have calls. -/
def exclusivePhones : Device where
  phones := [
    { id := ⟨0⟩, subscription := none, technology := .gsm },
    { id := ⟨1⟩, subscription := none, technology := .gsm }]
  emergencyNumbers := { numbers := ["911"] }

def answered : List Occasion := [.ring ⟨0⟩ { state := .active, technology := .gsm }]

/-- An emergency call fails on the first phone. -/
def refused : List Occasion := [
  .resume 0,
  .reply 1 (.refused (.rejected .emergencyTemporary 0 "")),
  .resume 0]

def refusedArgs : DialArgs where
  emergency := true
  routing := some .emergency

theorem refused_dials : ∃ office,
    (opening { domainSelection := false } exclusivePhones).run 20 answered = some office ∧
      office.isIdle = true ∧ office.system.device.isConcurrent = false ∧
      office.system.settings.domainSelection = false ∧
      (∀ step ∈ office.trace 20 (.start (.place { address := "911" }) :: refused),
        step.2.works = []) ∧
      ∀ phone ∈ [(⟨0⟩ : PhoneId), ⟨1⟩], ∃ before after,
        (before, after) ∈ office.trace 20 (.start (.place { address := "911" }) :: refused) ∧
          after.outside = .asked (.dial (.issued 1) phone "911" refusedArgs) :: before.outside ∧
          before.Up (.issued 0) ∧ (before.connection (.issued 0)).phone = ⟨0⟩ ∧
          (before.outside.firstDialed? (.issued 1)).all (· == ⟨0⟩) = true := by
  have shown :
    ((opening { domainSelection := false } exclusivePhones).run 20 answered).any (fun office =>
      let trace := office.trace 20 (.start (.place { address := "911" }) :: refused)
      office.isIdle && !office.system.device.isConcurrent &&
        !office.system.settings.domainSelection &&
        trace.all (fun step => step.2.works.isEmpty) &&
        [(⟨0⟩ : PhoneId), ⟨1⟩].all fun phone => trace.any fun step => decide (
          step.2.outside = .asked (.dial (.issued 1) phone "911" refusedArgs) :: step.1.outside ∧
            step.1.Up (.issued 0) ∧ (step.1.connection (.issued 0)).phone = ⟨0⟩ ∧
            (step.1.outside.firstDialed? (.issued 1)).all (· == ⟨0⟩) = true)) = true := by
    decide +kernel
  obtain ⟨office, reached, shown⟩ := (Option.any_eq_true _ _).mp shown
  simp only [Bool.and_eq_true, Bool.not_eq_true', List.all_eq_true, List.isEmpty_iff,
    List.any_eq_true, decide_eq_true_iff] at shown
  obtain ⟨⟨⟨⟨idle, single⟩, unaided⟩, alone⟩, dials⟩ := shown
  refine ⟨office, reached, idle, single, unaided, alone, fun phone listed => ?_⟩
  obtain ⟨⟨before, after⟩, among, dials⟩ := dials phone listed
  exact ⟨before, after, among, dials⟩

theorem refused_solitary : ∀ occasion ∈ refused, occasion.Solitary := by
  simp [refused, Occasion.Solitary]

/-- At the first dial the others that are up are on its phone. -/
theorem refused_together : ∃ office before after,
    (opening { domainSelection := false } exclusivePhones).run 20 answered = some office ∧
      (before, after) ∈ office.trace 20 (.start (.place { address := "911" }) :: refused) ∧
      after.outside = .asked (.dial (.issued 1) ⟨0⟩ "911" refusedArgs) :: before.outside ∧
      before.Up (.issued 0) ∧
      ∀ other, other ≠ .issued 1 → before.Up other → (before.connection other).phone = ⟨0⟩ := by
  obtain ⟨office, reached, idle, single, unaided, alone, dials⟩ := refused_dials
  obtain ⟨before, after, among, dials, up, -, first⟩ := dials ⟨0⟩ (by simp)
  refine ⟨office, before, after, reached, among, dials, up, ?_⟩
  refine (dial_alone_iff reached idle single unaided refused_solitary alone among dials).mpr
    (.inl ?_)
  intro phone dialed
  rw [dialed] at first
  exact eq_of_beq first

/-- The second dial is on another phone than the call that is up. -/
theorem refused_crosses : ∃ office before after,
    (opening { domainSelection := false } exclusivePhones).run 20 answered = some office ∧
      office.isIdle = true ∧ office.system.device.isConcurrent = false ∧
      office.system.settings.domainSelection = false ∧
      (∀ occasion ∈ refused, occasion.Solitary) ∧
      (∀ step ∈ office.trace 20 (.start (.place { address := "911" }) :: refused),
        step.2.works = []) ∧
      (before, after) ∈ office.trace 20 (.start (.place { address := "911" }) :: refused) ∧
      after.outside = .asked (.dial (.issued 1) ⟨1⟩ "911" refusedArgs) :: before.outside ∧
      before.Up (.issued 0) ∧ (before.connection (.issued 0)).phone ≠ ⟨1⟩ := by
  obtain ⟨office, reached, idle, single, unaided, alone, dials⟩ := refused_dials
  obtain ⟨before, after, among, dials, up, phone, -⟩ := dials ⟨1⟩ (by simp)
  exact ⟨office, before, after, reached, idle, single, unaided, refused_solitary,
    alone, among, dials,
    up, by rw [phone]; decide⟩

end Office
end Switchboard
