import Switchboard.Proofs.StepOutcomes

/-! The selection of domains, beside what happens to calls. A session of the selector ends by itself
only when its call is destroyed, and whether a domain is being selected for a call stays as it is
(`System.Continues`). Work that comes up is for calls that had a leg; there is no more of it to
select other domains than the exchange has heard of. -/

namespace Switchboard

variable {system before middle after : System Chronicle} {id : ConnectionId}

def Note.engages (id : ConnectionId) : Note → Bool
  | asked (.dial other _ _ _) | rang other _ => decide (other = id)
  | _ => false

def Note.selected? : Note → Option ConnectionId
  | asked (.select id _) => some id
  | _ => none

def Note.reselects (id : ConnectionId) : Note → Bool
  | asked (.reselect other _) => decide (other = id)
  | _ => false

def Entry.isSetback (id : ConnectionId) : Entry → Bool
  | heard .exchange other (.reselectionRequested _ _) => decide (other = id)
  | _ => false

def FollowUp.reselects (id : ConnectionId) : FollowUp → Bool
  | reselect other _ _ => decide (other = id)
  | _ => false

namespace Chronicle

def Engages (notes : Chronicle) (id : ConnectionId) : Prop :=
  ∃ note ∈ notes, note.engages id = true

/-- The call's first domain has been asked for. -/
def Selects (notes : Chronicle) (id : ConnectionId) : Prop :=
  ∃ note ∈ notes, note.selected? = some id

/-- The call whose first domain was asked for last. -/
def lastSelected? (notes : Chronicle) : Option ConnectionId :=
  notes.findSome? Note.selected?

/-- How often another domain was asked for. -/
def reselections (notes : Chronicle) (id : ConnectionId) : Nat :=
  notes.countP (Note.reselects id)

end Chronicle

namespace System

/-- How often the exchange has heard that the network wants the call in another domain. -/
def setbacks (system : System Chronicle) (id : ConnectionId) : Nat :=
  system.journal.countP (Entry.isSetback id)

def pending (system : System Chronicle) (id : ConnectionId) : Nat :=
  system.works.countP (FollowUp.reselects id)

def Warrants (system : System Chronicle) : FollowUp → Prop
  | .redial id _ _ => (system.connection id).leg.isSome = true
  | .reselect id _ _ => (system.connection id).leg.isSome = true ∧
    (system.connection id).selectionActive = true
  | .errand _ => True

end System

structure Connection.Carries (old new : Connection) : Prop where
  gone : old.destroyed = true → new.destroyed = true
  leg : new.leg.isSome = true → old.leg.isSome = true
  selection : new.selectionActive = old.selectionActive

namespace Connection.Carries

theorem refl (call : Connection) : call.Carries call := ⟨id, id, rfl⟩

theorem trans {old middle new : Connection} (first : old.Carries middle)
    (second : middle.Carries new) : old.Carries new where
  gone := second.gone ∘ first.gone
  leg := first.leg ∘ second.leg
  selection := second.selection.trans first.selection

theorem settled (call : Connection) : call.Carries call.settled := by
  unfold Connection.settled
  split
  · exact ⟨id, id, rfl⟩
  · split
    · exact ⟨fun _ => rfl, nofun, rfl⟩
    · exact ⟨id, id, rfl⟩

end Connection.Carries

namespace System

structure Continues (before after : System Chronicle) : Prop where
  count : after.connections.length = before.connections.length
  outside : after.outside = before.outside
  calls (id : ConnectionId) : (before.connection id).Carries (after.connection id)
  session : after.registry.session = before.registry.session ∨
    after.registry.session.active = none ∧ ∀ owner, before.registry.session.active = some owner →
      (after.connection owner).destroyed = true
  warrants : ∀ work ∈ after.works, work ∈ before.works ∨ before.Warrants work
  balance (id : ConnectionId) :
    after.pending id + before.setbacks id ≤ before.pending id + after.setbacks id

namespace Continues

theorem of_same (count : after.connections.length = before.connections.length)
    (outside : after.outside = before.outside)
    (calls : ∀ id, (before.connection id).Carries (after.connection id))
    (session : after.registry.session = before.registry.session)
    (works : after.works = before.works) (journal : after.journal = before.journal) :
    before.Continues after where
  count := count
  outside := outside
  calls := calls
  session := .inl session
  warrants work among := .inl (works ▸ among)
  balance id := by
    have left : after.pending id = before.pending id := by rw [pending, works, ← pending]
    have heard : after.setbacks id = before.setbacks id := by rw [setbacks, journal, ← setbacks]
    exact Nat.add_le_add (Nat.le_of_eq left) (Nat.le_of_eq heard.symm)

theorem refl (system : System Chronicle) : system.Continues system :=
  of_same rfl rfl (fun _ => .refl _) rfl rfl rfl

theorem aside (connections : after.connections = before.connections)
    (outside : after.outside = before.outside)
    (session : after.registry.session = before.registry.session)
    (works : after.works = before.works) (journal : after.journal = before.journal) :
    before.Continues after := by
  have same (id : ConnectionId) : after.connection id = before.connection id :=
    connection_congr connections id
  refine of_same (by rw [connections]) outside (fun id => ?_) session works journal
  rw [same]
  exact .refl _

theorem of_books (same : before.SameBooks after)
    (count : after.connections.length = before.connections.length)
    (calls : ∀ id, (before.connection id).Carries (after.connection id)) : before.Continues after :=
  of_same count (same.read (·.outside) fun _ _ _ => rfl) calls
    (same.read (·.registry.session) fun _ _ _ => rfl) (same.read (·.works) fun _ _ _ => rfl)
    (same.read (·.journal) fun _ _ _ => rfl)

theorem trans (first : before.Continues middle) (second : middle.Continues after) :
    before.Continues after where
  count := second.count.trans first.count
  outside := second.outside.trans first.outside
  calls id := (first.calls id).trans (second.calls id)
  session := by
    rcases first.session with same | ⟨none, why⟩
    · rcases second.session with again | ⟨none, why⟩
      · exact .inl (again.trans same)
      · exact .inr ⟨none, fun owner had => why owner (same ▸ had)⟩
    · refine .inr ⟨?_, fun owner had => (second.calls owner).gone (why owner had)⟩
      rcases second.session with same | ⟨last, -⟩
      · rw [same, none]
      · exact last
  warrants work among := by
    rcases second.warrants work among with old | why
    · exact first.warrants work old
    · refine .inr ?_
      cases work with
      | redial id failed permanent => exact (first.calls id).leg why
      | reselect id cause code =>
        exact ⟨(first.calls id).leg why.1, (first.calls id).selection.symm.trans why.2⟩
      | errand number => trivial
  balance id := by
    have early := first.balance id
    have late := second.balance id
    omega

theorem of_ripple (ripple : Ripple (fun notes : Chronicle => notes) before after) :
    before.Continues after where
  count := ripple.count
  outside := ripple.outside
  calls id := {
    gone := (ripple.destroyed id).trans
    leg := (ripple.reads (·.leg) (fun _ => rfl) id ▸ ·)
    selection := ripple.reads (·.selectionActive) (fun _ => rfl) id }
  session := ripple.session.imp_right (And.imp_right fun why owner had =>
    (ripple.destroyed owner).trans (why owner had))
  warrants work among := .inl (ripple.works ▸ among)
  balance id := by
    have counts (system : System Chronicle) :
        system.setbacks id = system.requests.countP (Entry.isSetback id) := by
      rw [requests, List.countP_filter, setbacks]
      refine List.countP_congr fun entry _ => ?_
      have asks : entry.isSetback id = true → entry.isRequest = true := by
        unfold Entry.isSetback
        split
        · exact fun _ => rfl
        · exact fun wrong => absurd wrong Bool.false_ne_true
      simpa using asks
    refine Nat.le_of_eq ?_
    rw [counts, counts, ripple.requests, pending, ripple.works, ← pending]

theorem revise (system : System Chronicle) (id : ConnectionId) {change : Connection → Connection}
    (carries : (system.connection id).Carries (change (system.connection id))) :
    system.Continues (system.reviseConnection id change) := by
  refine of_books (system.sameBooks_reviseConnection id change) (by simp) fun other => ?_
  exact system.kept_revise id carries .refl other

theorem release (system : System Chronicle) (leg : Option LegId) :
    system.Continues (system.release leg) := by
  refine of_books (system.sameBooks_release leg) (by cases leg <;> rfl) fun other => ?_
  rw [connection_release]
  exact .refl _

theorem settle (system : System Chronicle) (id : ConnectionId) :
    system.Continues (system.settle id) :=
  (revise system id (.settled _)).trans (release _ _)

theorem changed (system : System Chronicle) (id : ConnectionId) {change : Connection → Connection}
    (carries : (system.connection id).Carries (change (system.connection id))) :
    system.Continues (system.changed id change) :=
  (revise system id carries).trans (settle _ id)

theorem ending (system : System Chronicle) (id : ConnectionId) (info : DisconnectInfo) :
    system.Continues (system.ending id info) := by
  rw [System.ending]
  split
  · exact refl system
  · refine changed system id ?_
    exact ⟨fun gone => gone, fun held => held, rfl⟩

theorem givenUp (system : System Chronicle) (id : ConnectionId) :
    system.Continues (system.givenUp id) := by
  refine trans (revise system id ?_) (release _ _)
  exact ⟨fun gone => gone, nofun, rfl⟩

theorem hear {event : ConnectionEvent} {work : FollowUp} (asks : event.work? id = some work)
    (warranted : before.Warrants work) (sofar : before.Continues middle) (listener : Listener) :
    before.Continues (middle.hear id event work listener) := by
  let written := { middle with journal := .heard listener id event :: middle.journal }
  have more (other : ConnectionId) : written.setbacks other = middle.setbacks other +
      if Entry.isSetback other (.heard listener id event) then 1 else 0 := List.countP_cons
  have sight : before.Continues written := { sofar with
    balance := fun other => by
      have sofar := sofar.balance other
      have same : written.pending other = middle.pending other := rfl
      rw [more, same]
      omega }
  rw [System.hear]
  split
  · rename_i exchange
    rw [pursue]
    split
    · refine { sight with warrants := fun other among => ?_, balance := fun other => ?_ }
      · rw [works, List.filterMap_append, List.mem_append] at among
        rcases among with old | new
        · exact sofar.warrants other old
        · obtain rfl := List.mem_singleton.mp new
          exact .inr warranted
      · have sofar := sofar.balance other
        have left : pending { written with signals := written.signals ++ [.follow work] } other =
            middle.pending other + if work.reselects other then 1 else 0 := by
          rw [pending, works, List.filterMap_append, List.countP_append]
          exact congrArg _ List.countP_singleton
        have heard : Entry.isSetback other (.heard listener id event) = work.reselects other := by
          subst exchange
          cases event <;> cases asks <;> rfl
        have count : setbacks { written with signals := written.signals ++ [.follow work] } other =
            written.setbacks other := rfl
        rw [left, count, more, heard]
        omega
    · exact sight.trans (ending _ id _)
  · exact sight

theorem ask {event : ConnectionEvent} {work : FollowUp} (asks : event.work? id = some work)
    (warranted : before.Warrants work) (sofar : before.Continues middle) :
    before.Continues (middle.ask id event work) := by
  rw [System.ask]
  generalize (middle.connection id).listeners = listeners
  induction listeners generalizing middle with
  | nil => exact sofar
  | cons listener rest ih => exact ih (hear asks warranted sofar listener)

theorem legEnded (system : System Chronicle) {id : ConnectionId}
    (held : (system.connection id).leg.isSome = true) (failure : RadioFailure) (code : Int)
    (message : String) : system.Continues (system.legEnded id failure code message) := by
  rw [System.legEnded]
  cases plan : (system.connection id).endOfLeg failure with
  | redial phone permanent => exact ask rfl held (givenUp system id)
  | reselect =>
    refine ask rfl ⟨held, ?_⟩ (givenUp system id)
    rw [Connection.endOfLeg] at plan
    split at plan
    · cases plan
    split at plan
    · rename_i selecting
      exact (Bool.and_eq_true_iff.mp selecting).1
    · cases plan
  | terminal => exact ending system id _

theorem heed (system : System Chronicle) {id : ConnectionId}
    (held : (system.connection id).leg.isSome = true) (event : RadioEvent) :
    system.Continues (system.heed id event) := by
  cases event with
  | disconnected failure code message => exact legEnded system held failure code message
  | stateChanged next =>
    rw [System.heed]
    split
    · exact changed system id ⟨fun gone => gone, fun held => held, rfl⟩
    · exact refl system
  | _ => exact changed system id ⟨fun gone => gone, fun held => held, rfl⟩

theorem follows (system : System Chronicle) (follower : Option Bridge) (event : RadioEvent) :
    system.Continues (system.follows follower event) := by
  cases follower with
  | none => exact refl system
  | some bridge =>
    rw [System.follows, System.legEvent]
    split
    · rename_i heeds
      exact heed system (Bool.and_eq_true_iff.mp heeds).2 event
    · exact refl system

theorem reported (system : System Chronicle) (leg : LegId) (event : RadioEvent) :
    system.Continues (system.reported leg event) := by
  have shown : system.Continues
      (system.reviseLeg leg fun leg => { leg with view := leg.view.apply event }) :=
    aside rfl rfl rfl rfl rfl
  exact shown.trans (follows _ _ event)

end Continues

end System

namespace Act

variable {rounds : Nat}

theorem continues_setDisconnected (rest : before.AtRest) (id : ConnectionId)
    (info : DisconnectInfo) :
    (setDisconnected id info).Ensures (.level .silent rounds) before fun _ after =>
      before.Continues after :=
  (ripple_setDisconnected (Wiring.ripples_notes rounds) rest id info).mono fun _ _ ripple =>
    (System.Continues.ending before id info).trans (.of_ripple ripple)

theorem continues_nextPhone (id : ConnectionId) (failed : PhoneId) (permanent : Bool) :
    (nextPhone id failed permanent).Ensures (.level .silent rounds) before fun _ after =>
      before.Continues after := by
  simp only [nextPhone, ensures_bind, ensures_get, ensures_set, ensures_pure]
  exact .aside rfl rfl rfl rfl rfl

theorem continues_reassign (rest : before.AtRest) (id : ConnectionId) (phone : PhoneId)
    (subscription : Option SubscriptionId) (technology : Technology) (carrier : CarrierConfig) :
    (reassign id phone subscription technology carrier).Ensures (.level .silent rounds) before
      fun _ after => before.Continues after := by
  let change (call : Connection) := { call with phone, subscription, technology, carrier }
  have changed : before.Continues (before.changed id change) :=
    .changed before id ⟨fun gone => gone, fun held => held, rfl⟩
  exact (ripple_change (Wiring.ripples_notes rounds) rest id change fun _ => rfl).mono
    fun _ after ripple => changed.trans (.of_ripple ripple)

theorem continues_enroll (rest : before.AtRest) (request : CallRequest) (placement : Placement) :
    (enroll request placement).Ensures (.level .silent rounds) before fun id after =>
      id = .issued before.connections.length ∧
        (before.enlisting request placement).Continues after := by
  have joined : (before.enlisting request placement).AtRest := rest.joined _ _ _
  rw [ensures_enroll]
  refine (ripple_introduce joined request placement _).mono fun id after ⟨same, ripple⟩ => ?_
  refine ⟨same, .trans ?_ (.of_ripple ripple)⟩
  rw [System.streamed]
  split
  · exact .changed _ _ ⟨fun gone => gone, fun held => held, rfl⟩
  · exact .refl _

end Act

namespace Chronicle

variable {notes : Chronicle} {note : Note} {id : ConnectionId}

theorem Engages.cons (engages : notes.Engages id) (note : Note) : Engages (note :: notes) id :=
  engages.imp fun _ found => ⟨.tail _ found.1, found.2⟩

theorem engages_cons : Engages (note :: notes) id ↔ note.engages id = true ∨ notes.Engages id :=
  List.exists_mem_cons_iff _ _ _

theorem selects_cons : Selects (note :: notes) id ↔ note.selected? = some id ∨ notes.Selects id :=
  List.exists_mem_cons_iff _ _ _

theorem reselections_cons : reselections (note :: notes) id =
    notes.reselections id + if note.reselects id then 1 else 0 :=
  List.countP_cons

theorem lastSelected?_cons :
    lastSelected? (note :: notes) = note.selected?.or notes.lastSelected? := by
  rw [lastSelected?, List.findSome?_cons]
  cases note.selected? <;> rfl

end Chronicle

namespace System

def selecting (system : System Chronicle) (id : ConnectionId) (request : SelectionRequest) :
    System Chronicle :=
  ((system.starting id).reviseConnection id ({ · with selectionActive := true })).noting
    (.asked (.select id request))

theorem connection_selecting (id other : ConnectionId) (request : SelectionRequest) :
    (system.selecting id request).connection other = if other = id ∧ system.Known id then
      { system.connection id with selectionActive := true } else system.connection other := by
  have same (call : ConnectionId) :
      (system.starting id).connection call = system.connection call := by
    cases call <;> rfl
  have known : (system.starting id).Known id ↔ system.Known id := known_congr rfl id
  simp only [selecting, connection_noting, connection_reviseConnection, same, known]

theorem outside_selecting (id : ConnectionId) (request : SelectionRequest) :
    (system.selecting id request).outside = .asked (.select id request) :: system.outside := by
  cases id <;> rfl

theorem session_selecting (id : ConnectionId) (request : SelectionRequest) :
    (system.selecting id request).registry.session = ⟨some id⟩ := by
  cases id <;> rfl

theorem setbacks_selecting (id other : ConnectionId) (request : SelectionRequest) :
    (system.selecting id request).setbacks other = system.setbacks other := by
  have started : (system.starting id).setbacks other = system.setbacks other := by
    rw [setbacks, starting]
    dsimp only
    split
    · exact List.countP_cons
    · rfl
  refine Eq.trans ?_ started
  cases id <;> rfl

theorem setbacks_finishing (id other : ConnectionId) :
    (system.finishing id).setbacks other = system.setbacks other := by
  rw [setbacks, finishing]
  dsimp only
  split
  · exact List.countP_cons
  · rfl

end System

/-- The session, and the selection of domains for calls, are as what has been asked has it. -/
structure System.SelectorConsistent (system : System Chronicle) : Prop where
  selects {id : ConnectionId} : (system.connection id).selectionActive = true →
    system.outside.Selects id
  owner {id : ConnectionId} : system.registry.session.active = some id →
    system.outside.lastSelected? = some id
  lasts {id : ConnectionId} : system.outside.lastSelected? = some id →
    (system.connection id).destroyed = false → (system.connection id).selectionActive = true →
      system.registry.session.active = some id

namespace System.SelectorConsistent

theorem opening (settings : Settings) (device : Device) :
    (Office.opening settings device).system.SelectorConsistent := by
  have unowned : (Office.opening settings device).system.registry.session.active = none := rfl
  have unselected : (Office.opening settings device).system.outside.lastSelected? = none := rfl
  exact {
    selects := fun {id} active => by cases id <;> cases active
    owner := fun had => by
      rw [unowned] at had
      cases had
    lasts := fun last => by
      rw [unselected] at last
      cases last }

theorem continues (selectorConsistent : before.SelectorConsistent)
    (onward : before.Continues after) : after.SelectorConsistent where
  selects {id} active := by
    rw [onward.outside]
    exact selectorConsistent.selects ((onward.calls id).selection.symm.trans active)
  owner {id} had := by
    rw [onward.outside]
    rcases onward.session with same | ⟨none, -⟩
    · exact selectorConsistent.owner (same ▸ had)
    · rw [none] at had
      cases had
  lasts {id} last alive active := by
    rw [onward.outside] at last
    have here : (before.connection id).destroyed = false := by
      by_contra gone
      rw [(onward.calls id).gone ((Bool.not_eq_false _).mp gone)] at alive
      cases alive
    have had := selectorConsistent.lasts last here ((onward.calls id).selection.symm.trans active)
    rcases onward.session with same | ⟨-, why⟩
    · rw [same, had]
    · rw [why id had] at alive
      cases alive

theorem noting (selectorConsistent : system.SelectorConsistent) {note : Note}
    (plain : note.selected? = none) :
    (system.noting note).SelectorConsistent := by
  have same := system.connection_noting note
  have last : (system.noting note).outside.lastSelected? = system.outside.lastSelected? := by
    rw [System.noting, Chronicle.lastSelected?_cons, plain, Option.none_or]
  exact {
    selects := fun {id} active =>
      Chronicle.selects_cons.mpr (.inr (selectorConsistent.selects (by rwa [same] at active)))
    owner := fun had => last.trans (selectorConsistent.owner had)
    lasts := fun {id} selected alive active => by
      rw [same] at alive active
      exact selectorConsistent.lasts (last.symm.trans selected) alive active }

theorem revise (selectorConsistent : system.SelectorConsistent) (id : ConnectionId)
    {change : Connection → Connection}
    (gone : (system.connection id).destroyed = true →
      (change (system.connection id)).destroyed = true)
    (selection : (change (system.connection id)).selectionActive = true →
      (system.connection id).selectionActive = true) :
    (system.reviseConnection id change).SelectorConsistent := by
  have same := system.sameBooks_reviseConnection id change
  have notes : (system.reviseConnection id change).outside = system.outside :=
    same.read (·.outside) fun _ _ _ => rfl
  have session : (system.reviseConnection id change).registry.session = system.registry.session :=
    same.read (·.registry.session) fun _ _ _ => rfl
  have active {other : ConnectionId}
      (active : ((system.reviseConnection id change).connection other).selectionActive = true) :
      (system.connection other).selectionActive = true := by
    rw [connection_reviseConnection] at active
    split at active
    · rename_i here
      rw [here.1]
      exact selection active
    · exact active
  exact {
    selects := fun {other} on => notes ▸ selectorConsistent.selects (active on)
    owner := fun {other} had => notes ▸ selectorConsistent.owner (session ▸ had)
    lasts := fun {other} last alive on => by
      rw [session]
      refine selectorConsistent.lasts (notes ▸ last) ?_ (active on)
      rw [connection_reviseConnection] at alive
      split at alive
      · rename_i here
        rw [here.1]
        exact (Bool.not_eq_true _).mp fun was => absurd (gone was) (by simp [alive])
      · exact alive }

theorem joined (selectorConsistent : system.SelectorConsistent) (params : CallParameters)
    (redial : Bool)
    (plans : List (ConnectionId × DialPlan)) :
    (system.joined (.enlisted params redial) plans).SelectorConsistent where
  selects {id} := system.each_joined plans
    (motive := fun id call => call.selectionActive = true → system.outside.Selects id)
    (fun active => by cases active) (fun _ => selectorConsistent.selects) id
  owner := selectorConsistent.owner
  lasts {id} last alive active := by
    rw [system.connection_joined] at alive active
    split at active
    · cases active
    · rename_i differs
      rw [if_neg differs] at alive
      exact selectorConsistent.lasts last alive active

theorem selecting (selectorConsistent : system.SelectorConsistent) (id : ConnectionId)
    (request : SelectionRequest) :
    (system.selecting id request).SelectorConsistent := by
  have last : (system.selecting id request).outside.lastSelected? = some id := by
    rw [outside_selecting, Chronicle.lastSelected?_cons]
    rfl
  exact {
    selects := fun {other} active => by
      rw [connection_selecting] at active
      rw [outside_selecting, Chronicle.selects_cons]
      split at active
      · rename_i here
        exact .inl (here.1 ▸ rfl)
      · exact .inr (selectorConsistent.selects active)
    owner := fun had => by
      rw [session_selecting] at had
      exact last.trans had
    lasts := fun selected _ _ => by
      rw [session_selecting]
      exact last.symm.trans selected }

theorem finishing (selectorConsistent : system.SelectorConsistent) {id : ConnectionId}
    (off : (system.connection id).selectionActive = false) :
      (system.finishing id).SelectorConsistent := by
  have same (other : ConnectionId) :
      (system.finishing id).connection other = system.connection other := by
    cases other <;> rfl
  have session : (system.finishing id).registry.session =
      if system.registry.session.active == some id then ⟨none⟩ else system.registry.session := by
    rw [System.finishing, SelectionSession.finish, SelectionSession.isActiveFor]
    split <;> rfl
  exact {
    selects := fun {other} active => selectorConsistent.selects (by rwa [same] at active)
    owner := fun {other} had => by
      rw [session] at had
      split at had
      · cases had
      · exact selectorConsistent.owner had
    lasts := fun {other} last alive active => by
      rw [same] at alive active
      have had := selectorConsistent.lasts last alive active
      rw [session, if_neg]
      · exact had
      · rw [had]
        rintro same
        obtain rfl : other = id := by simpa using same
        rw [off] at active
        cases active }

end System.SelectorConsistent

def Note.isBeside : Note → Bool
  | asked (.dial ..) | asked (.select ..) | asked (.reselect ..) | rang .. => false
  | _ => true

theorem Note.isBeside_of_isRoutine (note : Note) (routine : note.isRoutine = true) :
    note.isBeside = true := by
  unfold isBeside
  split <;> first | rfl | cases routine

theorem Note.plain_of_isBeside (note : Note) (beside : note.isBeside = true) :
    (∀ id, note.engages id = false) ∧ note.selected? = none ∧ ∀ id, note.reselects id = false := by
  cases note with
  | asked call => cases call <;> first | exact ⟨fun _ => rfl, rfl, fun _ => rfl⟩ | cases beside
  | rang id leg => cases beside
  | _ => exact ⟨fun _ => rfl, rfl, fun _ => rfl⟩

def Act.NotSelecting {β : Type} (step : Act Chronicle β) (rounds : Nat)
    (system : System Chronicle) :
    Prop :=
  system.AtRest → step.Ensures (.level .silent rounds) system fun _ after =>
    system.Continues after ∨
      ∃ note : Note, note.isBeside = true ∧ (system.noting note).Continues after

theorem Act.notSelecting_permits (rounds : Nat) :
    Act.Permits fun step => ∀ system, step.NotSelecting rounds system where
  get system _ := (ensures_get _).mpr (.inl (.refl system))
  look id system _ := (ensures_look id _).mpr (.inl (.refl system))
  failure _ _ := ensures_failure _
  note {note} routine _ _ := (ensures_reviseOutside _ _).mpr
    (.inr ⟨note, note.isBeside_of_isRoutine routine, .refl _⟩)
  disconnect id info _ rest := (continues_setDisconnected rest id info).mono fun _ _ => .inl

theorem Act.notSelecting_command (leg : LegId) (command : RadioCommand) (rounds : Nat)
    (system : System Chronicle) :
    (reviseOutside (.asked (.command leg command) :: ·) : Act Chronicle Unit).NotSelecting
      rounds system :=
  fun _ => (ensures_reviseOutside _ _).mpr (.inr ⟨.asked (.command leg command), rfl, .refl _⟩)

namespace Occasion

theorem notSelecting {occasion : Occasion} (quiet : occasion.isQuiet = true) (rounds : Nat)
    (system : System Chronicle) : occasion.act.NotSelecting rounds system := by
  intro rest
  refine (ripple_act quiet rest).mono fun _ after ripple => ?_
  have news : (occasion.outcome system).Continues after := .of_ripple ripple
  cases occasion with
  | ring phone view => cases quiet
  | report leg event =>
    exact .inr ⟨.reported leg event, rfl, (System.Continues.reported _ leg event).trans news⟩
  | reportLate leg event =>
    exact .inr ⟨.reported leg event, rfl, (System.Continues.follows _ _ event).trans news⟩
  | grant ticket view =>
    rw [outcome] at news
    split at news
    · refine .inr ⟨.granted ticket ⟨system.legs.length⟩ view, rfl, .trans ?_ news⟩
      exact .aside rfl rfl rfl rfl rfl
    · exact .inl news
  | reply ticket content =>
    rw [outcome] at news
    split at news
    · exact .inr ⟨.replied ticket content, rfl, news⟩
    · exact .inl news
  | alter change =>
    have device : system.Continues (outcome system (alter change)) := .aside rfl rfl rfl rfl rfl
    exact .inl (device.trans news)
  | pass milliseconds =>
    have clock : system.Continues (outcome system (pass milliseconds)) := .aside rfl rfl rfl rfl rfl
    exact .inl (clock.trans news)
  | watch id name =>
    rw [outcome] at news
    split at news
    · exact .inl news
    · refine .inl (.trans (.revise system id ?_) news)
      exact ⟨fun gone => gone, fun held => held, rfl⟩
  | _ => exact .inl news

end Occasion

end Switchboard
