import Switchboard.Proofs.Licences
import Switchboard.Proofs.TaskNotes

/-! Requests to the selector. Every task that asks something of the selector has a licence for it,
and whatever others do at its waits, the licences that it holds stay honoured. So a call's first
domain is asked for while the session is the call's, and so is another domain, unless the session of
another call has taken its place (`Sequenced`). -/

namespace Switchboard

variable {rounds : Nat} {α : Type} {id : ConnectionId} {share left : Multiset Licence}
  {before after : System Chronicle} {now : ProgramPoint (Multiset Licence)}

def Note.isSelection : Note → Bool
  | asked (.select ..) | asked (.reselect ..) => true
  | _ => false

def Sequenced (_ : History) (before after : System Chronicle) : Prop :=
  (∀ id request, after.outside = .asked (.select id request) :: before.outside →
    before.registry.session.active = some id) ∧
  ∀ id request, after.outside = .asked (.reselect id request) :: before.outside →
    before.outside.Selects id ∧
      (before.registry.session.active = some id ↔ before.outside.lastSelected? = some id)

theorem Sequenced.of_plain {past : History}
    (plain : ∀ note, after.outside = note :: before.outside → note.isSelection = false) :
    Sequenced past before after := by
  constructor
  all_goals
    intro id request asked
    cases plain _ asked

theorem Sequenced.of_outside {past : History} (same : after.outside = before.outside) :
    Sequenced past before after :=
  of_plain fun _ told => absurd (same.symm.trans told).symm (List.cons_ne_self _ _)

/-- What the program holds is honoured, with all that others hold. -/
def ProgramPoint.Holds (now : ProgramPoint (Multiset Licence)) (share : Multiset Licence) : Prop :=
  now.system.Honours (share + now.others)

theorem ProgramPoint.Holds.none (held : now.Holds share) : now.Holds 0 :=
  System.Honours.mono held (by rw [zero_add]; exact Multiset.le_add_left _ _)

theorem ProgramPoint.holds_zero : now.Holds 0 ↔ now.system.Honours now.others := by
  rw [Holds, zero_add]

theorem ProgramPoint.Holds.own (held : now.Holds share) : (now.own now.system).Holds share := held

/-- What is left of it when a dial has had its outcome. -/
def ProgramPoint.Keeps (now : ProgramPoint (Multiset Licence)) (share : Multiset Licence) :
    DialOutcome → Prop
  | .failed _ => now.Holds share
  | _ => now.Holds 0

namespace Program

abbrev OnLicence (program : Program Chronicle α) (rounds : Nat)
    (post : α → ProgramPoint (Multiset Licence) → Prop) (now : ProgramPoint (Multiset Licence)) :
      Prop :=
  program.Guarantees rounds System.Honours Sequenced post now

namespace OnLicence

theorem of_notSelecting {program : Program Chronicle α} (held : now.Holds share)
    (uses : program.Uses fun step => ∀ system, step.NotSelecting rounds system) :
    program.OnLicence rounds (fun _ now => now.Holds share) now := by
  have takesOnly :
    program.TakesOnly (.level .silent rounds) (fun system _ step => step.NotSelecting rounds system)
      now.system := .of_uses uses _
  refine Guarantees.of_takesOnly (fun held balanced notSelecting value after run => ?_)
    (fun held _ => ⟨share, held, fun _ _ _ _ fits => fits⟩) takesOnly held
  rcases notSelecting balanced.rest value after run with onward | ⟨note, beside, onward⟩
  · exact ⟨.of_outside onward.outside, System.Honours.continues held onward⟩
  · refine ⟨.of_plain fun other told => ?_, (System.Honours.beside held beside).continues onward⟩
    obtain rfl := List.head_eq_of_cons_eq (onward.outside.symm.trans told)
    unfold Note.isSelection
    split <;> first | rfl | cases beside

theorem isLive {next : Bool → Program Chronicle α}
    {post : α → ProgramPoint (Multiset Licence) → Prop}
    (goes : ∀ live, (live = true → (now.system.connection id).destroyed = false) →
      (next live).OnLicence rounds post (now.own now.system)) :
    (Program.isLive id >>= next).OnLicence rounds post now := by
  refine Guarantees.bind (Guarantees.call Sequenced.of_plain fun balanced => goes _ fun live => ?_)
  refine (Bool.not_eq_true _).mp fun gone => ?_
  rw [balanced.shown id gone] at live
  cases live

theorem look {next : System Chronicle → Program Chronicle α}
    {post : α → ProgramPoint (Multiset Licence) → Prop}
    (goes : (next now.system).OnLicence rounds post (now.own now.system)) :
    (Program.system >>= next).OnLicence rounds post now :=
  Guarantees.look Sequenced.of_plain fun _ => goes

theorem disconnect (held : now.Holds share) (info : DisconnectInfo) :
    (Program.disconnect id info).OnLicence rounds (fun _ now => now.Holds share) now :=
  of_notSelecting held (Uses.disconnect (Act.notSelecting_permits rounds) id info)

theorem converse {asked : Call}
    (asks : now.system.Balanced →
      Sequenced now.history now.system (now.system.noting (.asked asked)) ∧
        (now.system.noting (.asked asked)).Honours (left + now.others)) :
    (Program.converse asked).OnLicence rounds (fun _ now => now.Holds left) now := by
  refine Guarantees.bind (Guarantees.ask Sequenced.of_plain fun balanced => ?_)
  obtain ⟨well, held⟩ := asks balanced
  exact ⟨well, fun ticket =>
    of_notSelecting held (Uses.expect (Act.notSelecting_permits rounds) ticket)⟩

theorem receive (engaged : ∀ {others : Multiset Licence} {system : System Chronicle},
      system.Honours (left + others) → system.outside.Engages id)
    (held : now.Holds left) (answer : Except RadioError (Option LegId)) :
    (Program.receive id answer).OnLicence rounds (fun outcome now => now.Keeps left outcome) now :=
      by
  rcases answer with error | _ | leg
  · exact held
  · exact held.none
  · refine isLive fun live _ => ?_
    cases live with
    | true =>
      refine Guarantees.bind (Guarantees.atOnce fun balanced => ?_)
      refine (Act.ripple_bind (Wiring.ripples_notes rounds) balanced.rest id leg).mono
        fun _ after ripple => ⟨.of_outside ?_, ?_⟩
      · refine ripple.outside.trans ?_
        exact (now.system.sameBooks_bound id leg).read (·.outside) fun _ _ _ => rfl
      · have bound := (System.Honours.bind held (engaged held) leg).continues (.of_ripple ripple)
        exact ProgramPoint.Holds.none bound
    | false =>
      refine Guarantees.bind (Guarantees.mono (of_notSelecting held ?_) fun _ _ held => held.none)
      exact Uses.hangupLeg (Act.notSelecting_permits rounds) leg

theorem dialAndBind
    (dials : ∀ {others : Multiset Licence} {system : System Chronicle} {phone number args},
      system.Honours (share + others) →
        (system.noting (.asked (.dial id phone number args))).Honours (left + others))
    (engaged : ∀ {others : Multiset Licence} {system : System Chronicle},
      system.Honours (left + others) → system.outside.Engages id)
    (held : now.Holds share) (slot : Slot) (domain : Option Domain) :
    (Program.dialAndBind openWorld id slot domain).OnLicence rounds
      (fun outcome now => now.Keeps left outcome) now := by
  rw [dialAndBind_eq]
  refine look ?_
  cases now.system.planOf? id with
  | none => exact held.none
  | some plan =>
    refine look (Guarantees.bind (Guarantees.mono
      (converse fun _ => ⟨.of_plain fun note told => ?_, dials held⟩)
      fun answer now held => receive engaged held answer.dialed))
    rw [← List.head_eq_of_cons_eq told]
    rfl

theorem dialAgain (engaged : ∀ {others : Multiset Licence} {system : System Chronicle},
      system.Honours (share + others) → system.outside.Engages id)
    (held : now.Holds share) (slot : Slot) (domain : Option Domain) :
    (Program.dialAndBind openWorld id slot domain).OnLicence rounds
      (fun outcome now => now.Keeps share outcome) now :=
  dialAndBind (fun honours => honours.again (engaged honours)
    (fun _ => by simp [Note.engages, eq_comm]) rfl fun _ => rfl) engaged held slot domain

theorem conclude {attempt : Attempt} (loops : attempt ≠ .first) {phone : PhoneId}
    {outcome : DialOutcome} (left : now.Keeps share outcome)
    (fails : ∀ error, now.Holds share → (attempt.conclude id phone (.failed error)).OnLicence rounds
      (fun _ now => now.Holds 0) now) :
    (attempt.conclude id phone outcome).OnLicence rounds (fun _ now => now.Holds 0) now := by
  cases attempt with
  | first => exact absurd rfl loops
  | redial _ | reselection _ =>
    cases outcome with
    | bound | cancelled => exact left
    | noCall => exact disconnect left _
    | failed error => exact fails error left

theorem redialFrom (held : now.Holds {.again id}) (patience : Nat) (failed : PhoneId)
    (permanent : Bool) :
    (Program.redialFrom openWorld id patience failed permanent).OnLicence rounds
      (fun _ now => now.Holds 0) now := by
  have engaged {others : Multiset Licence} {system : System Chronicle}
      (honours : system.Honours ({.again id} + others)) : system.outside.Engages id :=
    honours.backed (.again id) (by simp)
  induction patience generalizing failed permanent now with
  | zero =>
    have fails : (Program.atOnce failure : Program Chronicle Unit).Uses
        fun step => ∀ system, step.NotSelecting rounds system :=
      .atOnce (Act.notSelecting_permits rounds).failure
    exact (of_notSelecting held fails).mono fun _ _ held => held.none
  | succ patience ih =>
    rw [Attempt.redialFrom_eq]
    refine isLive fun live _ => ?_
    cases live with
    | false => exact held.none
    | true =>
      have picks : (Program.atOnce (Act.nextPhone id failed permanent)).Uses
          fun step => ∀ system, step.NotSelecting rounds system :=
        .atOnce fun _ _ => (Act.continues_nextPhone id failed permanent).mono fun _ _ => .inl
      refine Guarantees.bind (Guarantees.mono (of_notSelecting held picks) fun next now held => ?_)
      cases next with
      | none => exact disconnect held.none _
      | some next =>
        refine look ?_
        dsimp only
        cases now.system.device.slotOf? next with
        | none => exact ih held.own _ _
        | some slot =>
          have moves (technology : Technology) (subscription : Option SubscriptionId)
              (carrier : CarrierConfig) :
              (Program.atOnce (Act.reassign id next subscription technology carrier)).Uses
                fun step => ∀ system, step.NotSelecting rounds system :=
            .atOnce fun _ rest => (Act.continues_reassign rest id next subscription technology
              carrier).mono fun _ _ => .inl
          refine Guarantees.bind
            (Guarantees.mono (of_notSelecting held.own (moves _ _ _)) fun _ now held => ?_)
          refine Guarantees.bind (Guarantees.mono (dialAgain engaged held slot none)
            fun outcome now left => conclude (by nofun) left fun error left => ?_)
          rw [Attempt.conclude]
          split
          · exact disconnect left.none _
          · exact ih left _ _

theorem redial (held : now.Holds {.again id}) (failed : PhoneId) (permanent : Bool) :
    (Program.redial openWorld id failed permanent).OnLicence rounds (fun _ now => now.Holds 0)
      now := by
  have reads : (Program.atOnce Act.rounds).Uses fun step => ∀ system,
      step.NotSelecting rounds system :=
    .atOnce fun _ _ => (Act.ensures_rounds _).mpr (.inl (.refl _))
  exact Guarantees.bind (Guarantees.mono (of_notSelecting held reads)
    fun patience now held => redialFrom held patience failed permanent)

theorem reselect {reserve : Nat}
    (held : now.Holds (.replicate (reserve + 1) (.reselection id) + {.selected id}))
    (alive : (now.system.connection id).destroyed = false)
    (request : SelectionRequest) :
    (openWorld.reselect id request).OnLicence rounds
      (fun _ now => now.Holds (.replicate reserve (.reselection id) + {.selected id})) now := by
  have given : now.system.Honours ({.reselection id} +
      (.replicate reserve (.reselection id) + {.selected id} + now.others)) := by
    rw [← add_assoc, ← add_assoc, Multiset.singleton_add, ← Multiset.replicate_succ]
    exact held
  have asks : (Program.converse (.reselect id request)).OnLicence rounds
      (fun _ now => now.Holds (.replicate reserve (.reselection id) + {.selected id})) now := by
    refine converse fun _ => ⟨⟨fun _ _ told => ?_, fun other again told => ?_⟩,
      given.reselecting request⟩
    · cases List.head_eq_of_cons_eq told
    · cases List.head_eq_of_cons_eq told
      have selectorConsistent := given.selectorConsistent
      obtain ⟨-, active⟩ := given.backed (.selected id) (by simp)
      exact ⟨selectorConsistent.selects active, selectorConsistent.owner, fun last =>
        selectorConsistent.lasts last alive active⟩
  refine Guarantees.bind (Guarantees.mono asks fun answer now held => ?_)
  split <;> exact held

theorem reselectFrom {reserve : Nat}
    (held : now.Holds (.replicate reserve (.reselection id) + {.selected id}))
    (cause : DisconnectCause) (code : Int) :
    (Program.reselectFrom openWorld id reserve cause code).OnLicence rounds
      (fun _ now => now.Holds 0) now := by
  induction reserve generalizing cause code now with
  | zero => exact disconnect held.none _
  | succ reserve ih =>
    have engaged {others : Multiset Licence} {system : System Chronicle}
        (honours : system.Honours
          (.replicate reserve (.reselection id) + {.selected id} + others)) :
        system.outside.Engages id :=
      (honours.backed (.selected id) (by simp)).1
    rw [Attempt.reselectFrom_eq]
    refine isLive fun live alive => ?_
    cases live with
    | false => exact held.none
    | true =>
      refine look ?_
      dsimp only
      split
      · exact Guarantees.bind (Guarantees.mono (disconnect held.none _) fun _ _ held => held)
      split
      case h_2 => exact disconnect held.none _
      refine Guarantees.bind
        (Guarantees.mono (reselect held.own.own (alive rfl) _) fun answer now held => ?_)
      split
      · exact Guarantees.bind (Guarantees.mono (disconnect held.none _) fun _ _ held => held)
      refine isLive fun live _ => ?_
      cases live with
      | false => exact held.none
      | true =>
        refine Guarantees.bind (Guarantees.mono (dialAgain engaged held.own _ _)
          fun outcome now left => conclude (by nofun) left fun error left => ?_)
        rw [Attempt.conclude]
        split
        · exact ih left _ _
        · exact disconnect left.none _

/-- A dial that failed leads to others, or ends the call. -/
theorem settle (phone : PhoneId) {outcome : DialOutcome}
    (held : now.Keeps (.replicate maxReselections (.reselection id) + {.again id}) outcome) :
    (Program.settle openWorld id phone outcome).OnLicence rounds (fun _ now => now.Holds 0) now :=
      by
  have permits := Act.notSelecting_permits rounds
  have quits {now : ProgramPoint (Multiset Licence)} (held : now.Holds 0) (info : DisconnectInfo) :
      (Program.fail id info).OnLicence rounds (fun _ now => now.Holds 0) now :=
    of_notSelecting held (Uses.fail permits id info)
  have gone {now : ProgramPoint (Multiset Licence)} (held : now.Holds 0) :
      (Program.gone id).OnLicence rounds (fun _ now => now.Holds 0) now :=
    of_notSelecting held (Uses.gone permits id)
  have report {now : ProgramPoint (Multiset Licence)} (held : now.Holds 0) :
      (do
        if ← Program.isLive id then return Except.ok id
        Program.gone id : Program Chronicle Placed).OnLicence rounds (fun _ now => now.Holds 0)
          now := by
    refine isLive fun live _ => ?_
    cases live with
    | true => exact held
    | false => exact gone held
  rcases outcome with _ | _ | _ | error
  · exact held
  · exact quits held _
  · exact gone held
  · refine Guarantees.call Sequenced.of_plain fun _ => look ?_
    have backs : System.Honours _ now.system := held
    dsimp only
    split
    · have again : now.Holds {.again id} :=
        backs.mono (Multiset.add_le_add_right (Multiset.le_add_left _ _))
      exact Guarantees.bind (Guarantees.mono (redial again.own.own _ _) fun _ _ => report)
    split
    · rename_i wanted
      have active : (now.system.connection id).selectionActive = true :=
        (Bool.and_eq_true_iff.mp wanted).1
      have traded : now.Holds (.replicate maxReselections (.reselection id) + {.selected id}) :=
        backs.selected active
      exact Guarantees.bind (Guarantees.mono (reselectFrom traded.own.own _ _) fun _ _ => report)
    · exact quits held.none _

theorem dialOut {placement : Placement} (held : now.Holds {.opening id}) (domain : Option Domain) :
    (Program.dialOut openWorld id placement domain).OnLicence rounds (fun _ now => now.Holds 0)
      now := by
  refine isLive fun live _ => ?_
  cases live with
  | true =>
    refine Guarantees.bind (Guarantees.mono
      (dialAndBind (fun honours => ?_) (fun honours => ?_) held.own _ domain)
      fun outcome now left => settle _ left)
    · exact honours.engaging (fun _ => by simp [Note.engages, eq_comm]) rfl fun _ => rfl
    · exact honours.backed (.again id) (by simp)
  | false =>
    have gone := Uses.gone (Act.notSelecting_permits rounds) id
    exact Guarantees.bind
      (Guarantees.mono (of_notSelecting held.own gone) fun _ _ held => held.none)

theorem selectDomain (held : now.Holds {.opening id}) (slot : Slot) :
    (Program.selectDomain openWorld id slot).OnLicence rounds (fun _ now => now.Holds {.opening id})
      now := by
  refine Guarantees.bind (Guarantees.atOnce fun _ =>
    (Act.ensures_startSelection id _).mpr ⟨.of_outside rfl, ?_⟩)
  refine Guarantees.bind (Guarantees.atOnce fun _ => ?_)
  rw [Act.setSelectionActive, Act.ensures_revise]
  have books := (now.system.starting id).sameBooks_reviseConnection id
    ({ · with selectionActive := true })
  have outside := books.read (·.outside) fun _ _ _ => rfl
  have owned := books.read (·.registry.session.active) fun _ _ _ => rfl
  refine ⟨.of_outside outside, look ?_⟩
  refine Guarantees.bind
    (Guarantees.bind (Guarantees.mono (@converse rounds {.opening id} _ _ fun _ =>
    ⟨⟨fun other request told => ?_, fun _ _ told => ?_⟩, ?_⟩) fun answer now held => ?_))
  · cases List.head_eq_of_cons_eq told
    exact owned
  · cases List.head_eq_of_cons_eq told
  · exact System.Honours.selecting held id _
  have quits : (do
      Program.atOnce (Act.setSelectionActive id false)
      Program.atOnce (Act.finishSelection id)
      return Except.ok none : Program Chronicle (Except DisconnectCause (Option Domain))).OnLicence
        rounds (fun _ now => now.Holds {.opening id}) now := by
    refine Guarantees.bind (Guarantees.atOnce fun _ => ?_)
    rw [Act.setSelectionActive, Act.ensures_revise]
    have outside := (now.system.sameBooks_reviseConnection id
      ({ · with selectionActive := false })).read (·.outside) fun _ _ _ => rfl
    refine ⟨.of_outside outside, Guarantees.bind (Guarantees.atOnce fun _ => ?_)⟩
    refine (Act.ensures_finishSelection id _).mpr ⟨.of_outside rfl, ?_⟩
    exact System.Honours.unselecting held (by simp)
  split
  · exact held
  · rename_i error
    cases error with
    | unavailable => exact quits
    | terminal cause => exact held
  · exact quits

theorem chooseAndDial {placement : Placement} (held : now.Holds {.opening id}) :
    (Program.chooseAndDial openWorld id placement).OnLicence rounds (fun _ now => now.Holds 0)
      now := by
  have permits := Act.notSelecting_permits rounds
  refine look ?_
  split
  · refine Guarantees.bind (Guarantees.mono (selectDomain held.own _) fun answer now held => ?_)
    cases answer with
    | ok domain => exact dialOut held domain
    | error cause =>
      exact (of_notSelecting held (Uses.fail permits id _)).mono fun _ _ held => held.none
  · have prepares := Uses.prepareToDial permits id placement.phone.id placement.number.emergency
      placement.carrier
    exact Guarantees.bind (Guarantees.mono (of_notSelecting held.own prepares) fun _ _ held =>
      dialOut held none)

theorem complete {placement : Placement} (held : now.Holds {.opening id}) :
    (Program.complete openWorld id placement).OnLicence rounds (fun _ now => now.Holds 0) now := by
  have permits := Act.notSelecting_permits rounds
  rw [complete_eq]
  refine Guarantees.bind (Guarantees.mono (of_notSelecting held (Uses.ensureRadio permits id _ _))
    fun answer now held => ?_)
  cases answer with
  | some answer => exact held.none
  | none =>
    dsimp only
    split
    · have prepares := Uses.prepareForEmergency permits id placement.phone.id placement.carrier
        fun leg system => Act.notSelecting_command leg .reject rounds system
      refine Guarantees.bind (Guarantees.mono (of_notSelecting held prepares)
        fun _ now held => isLive fun live _ => ?_)
      cases live with
      | true => exact chooseAndDial held.own
      | false =>
        exact Guarantees.bind (Guarantees.mono (of_notSelecting held.own (Uses.gone permits id))
          fun _ _ held => held.none)
    · exact chooseAndDial held

/-- Whoever places a call holds nothing but the licence to have a first domain selected for it. -/
theorem place (request : CallRequest) (held : now.Holds 0) :
    (Program.place openWorld request).OnLicence rounds (fun _ now => now.Holds 0) now := by
  refine Guarantees.placing (Act.notSelecting_permits rounds)
    (fun uses held => of_notSelecting held uses)
    (fun _ held => held)
    (fun {now placement} held _ => Guarantees.bind (Guarantees.atOnce fun balanced => ?_)) held
  intro id after run
  obtain ⟨rfl, onward⟩ := Act.continues_enroll balanced.rest request placement _ _ run
  refine ⟨.of_outside onward.outside, complete ?_⟩
  exact ((ProgramPoint.holds_zero.mp held).joined _ _ _).continues onward

end OnLicence
end Program

theorem Occasion.honours (occasion : Occasion) {licences : Multiset Licence}
    {system : System Chronicle} (honours : system.Honours licences) (rest : system.AtRest) :
    occasion.act.Ensures (.level .silent rounds) system fun _ after => after.Honours licences := by
  have quietly {other : Occasion} (quiet : other.isQuiet = true) :
      other.act.Ensures (.level .silent rounds) system fun _ after => after.Honours licences := by
    refine (other.notSelecting quiet rounds system rest).mono fun _ after happened => ?_
    rcases happened with onward | ⟨note, beside, onward⟩
    · exact honours.continues onward
    · exact (honours.beside beside).continues onward
  cases occasion with
  | ring phone view =>
    refine (ring_ripples rest phone view).mono fun _ after happened => ?_
    rcases happened with rfl | ⟨params, middle, entered, tied⟩
    · exact honours
    let rang : Note := .rang (.issued system.connections.length) ⟨system.legs.length⟩
    have noted : System.Honours _ ((system.joined (.enlisted params false) []).noting rang) :=
      (honours.joined params false []).engaging (fun _ => by simp [Note.engages, rang, eq_comm]) rfl
        fun _ => rfl
    have gained : System.Honours _ ((system.gained view rang).joined (.enlisted params false) []) :=
      noted.continues (.aside rfl rfl rfl rfl rfl)
    have entered := gained.continues (.of_ripple entered)
    have engaged := entered.backed (.again (.issued system.connections.length)) (by simp)
    have bound := entered.bind engaged ⟨system.legs.length⟩
    exact (bound.continues (.of_ripple tied)).mono (Multiset.le_add_left _ _)
  | _ => exact quietly rfl

theorem OfficeContract.onLicence (rounds : Nat) :
    OfficeContract rounds System.Honours Sequenced FollowUp.grants where
  absorb honours := honours.absorb
  occasion occasion _ _ honours balanced := occasion.honours honours balanced.rest
  operation operation now honours := by
    have held := ProgramPoint.holds_zero.mpr honours
    by_cases placing : ∃ request, operation = .place request
    · obtain ⟨request, rfl⟩ := placing
      exact Program.Guarantees.bind (.mono (Program.OnLicence.place request held)
        fun _ _ => ProgramPoint.holds_zero.mp)
    · have permits := Act.notSelecting_permits rounds
      have uses := Program.Uses.operation permits (fun request same => placing ⟨request, same⟩)
        (fun leg video system => Act.notSelecting_command leg (.answer video) rounds system)
        fun _ leg system => Act.notSelecting_command leg .reject rounds system
      exact (Program.OnLicence.of_notSelecting held uses).mono fun _ _ => ProgramPoint.holds_zero.mp
  followUp work now honours := by
    cases work with
    | redial id failed permanent =>
      exact (Program.OnLicence.redial honours failed permanent).mono
        fun _ _ => ProgramPoint.holds_zero.mp
    | reselect id cause code =>
      exact (Program.OnLicence.reselectFrom honours cause code).mono
        fun _ _ => ProgramPoint.holds_zero.mp
    | errand number => exact ProgramPoint.holds_zero.mp honours

namespace Office

variable {settings : Settings} {device : Device} {occasions : List Occasion} {office : Office}
  {past rest : Trace}

/-- A call's first domain is asked for while the session is the call's. Another domain is asked for
only once the first one has been; the session is the call's then exactly if no first domain of
another call has been asked for since. -/
theorem selector_in_session_iff
    (reached : (opening settings device).run rounds occasions = some office)
    (split : (opening settings device).trace rounds occasions = past ++ (before, after) :: rest) :
    (∀ id request, after.outside = .asked (.select id request) :: before.outside →
      before.registry.session.active = some id) ∧
    ∀ id request, after.outside = .asked (.reselect id request) :: before.outside →
      before.outside.Selects id ∧
        (before.registry.session.active = some id ↔ before.outside.lastSelected? = some id) := by
  have balanced := System.Balanced.opening settings device
  have reaches := ((reaches_trace reached).sofar split).1
  rcases (allGuarantee (OfficeContract.onLicence rounds) (.opening settings device) reached).1 split
    with
    ⟨occasion, run⟩ | ⟨history, -, sequenced⟩
  · have unasked := occasion.unasked (balanced.reaches reaches).rest _ _ run
    exact ⟨fun _ _ asked => absurd asked (unasked _), fun _ _ asked => absurd asked (unasked _)⟩
  · exact sequenced

/-- One phone, and somebody who selects domains. -/
def guidedPhone : Device :=
  { Roster.lonePhone with hasSelector := true }

/-- An emergency call is up when another is placed; it fails while a domain is being selected for
the other. -/
def overridden : List Occasion := [
  .start (.place { address := "911" }),
  .resume 0,
  .reply 0 (.domain .packet),
  .resume 0,
  .grant 3 { state := .dialing, technology := .gsm },
  .resume 0,
  .start (.place { address := "911" }),
  .resume 0,
  .report ⟨0⟩ (.disconnected .retryRequired 0 ""),
  .resume 1]

/-- What is asked of the selector in the end. -/
def overriddenRequest : SelectionRequest where
  phone := ⟨0⟩
  subscription := none
  address := "911"
  emergency := true
  failure := some (.retryRequired, 0)

theorem overridden_reselects : ∃ office past before after rest,
    (opening {} guidedPhone).run 20 overridden = some office ∧
      (opening {} guidedPhone).trace 20 overridden = past ++ (before, after) :: rest ∧
      after.outside = .asked (.reselect (.issued 0) overriddenRequest) :: before.outside ∧
      before.registry.session.active = some (.issued 1) := by
  have runs : ((opening {} guidedPhone).run 20 overridden).isSome = true := by decide +kernel
  have reselects : ((opening {} guidedPhone).trace 20 overridden).any (fun step => decide (
      step.2.outside = .asked (.reselect (.issued 0) overriddenRequest) :: step.1.outside ∧
        step.1.registry.session.active = some (.issued 1))) = true := by decide +kernel
  obtain ⟨office, reached⟩ := Option.isSome_iff_exists.mp runs
  obtain ⟨⟨before, after⟩, among, shown⟩ := List.any_eq_true.mp reselects
  obtain ⟨past, rest, split⟩ := List.append_of_mem among
  exact ⟨office, past, before, after, rest, reached, split, of_decide_eq_true shown⟩

/-- The first call's first domain has been asked for, but not last. -/
theorem overridden_since : ∃ office past before after rest,
    (opening {} guidedPhone).run 20 overridden = some office ∧
      (opening {} guidedPhone).trace 20 overridden = past ++ (before, after) :: rest ∧
      after.outside = .asked (.reselect (.issued 0) overriddenRequest) :: before.outside ∧
      before.outside.Selects (.issued 0) ∧ before.outside.lastSelected? ≠ some (.issued 0) := by
  obtain ⟨office, past, before, after, rest, reached, split, reselects, owner⟩ :=
    overridden_reselects
  obtain ⟨selects, iff⟩ := (selector_in_session_iff reached split).2 _ _ reselects
  refine ⟨office, past, before, after, rest, reached, split, reselects, selects, fun last => ?_⟩
  cases owner.symm.trans (iff.mpr last)

/-- So another domain is asked for a call whose sequence was cancelled, and outside of its
session. -/
theorem overridden_out_of_session : ∃ office past before after rest,
    (opening {} guidedPhone).run 20 overridden = some office ∧
      (opening {} guidedPhone).trace 20 overridden = past ++ (before, after) :: rest ∧
      after.outside = .asked (.reselect (.issued 0) overriddenRequest) :: before.outside ∧
      before.registry.session.active ≠ some (.issued 0) := by
  obtain ⟨office, past, before, after, rest, reached, split, reselects, owner⟩ :=
    overridden_reselects
  refine ⟨office, past, before, after, rest, reached, split, reselects, ?_⟩
  rw [owner]
  decide

end Office
end Switchboard
