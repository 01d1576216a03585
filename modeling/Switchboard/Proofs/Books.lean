import Switchboard.Proofs.BookUpdates

/-! The books of the exchange between two things that happen (`System.Books`): what connections have
published is what they derive, verdicts are those of the moment, and the conferences are those of
connections with the technologies that they had when the exchange last brought its conferences up to
date. Whatever is done to a connection keeps the books, and counts as an update of the conferences
if the state or the properties of a connection have changed. -/

namespace Switchboard

namespace Connection

def unpublished (call : Connection) :
    (CallState × CallState × Bool × Bool × Bool) × Published × Option ConferenceId × Bool ×
      List Listener :=
  (call.publicity, call.published, call.conference, call.holdAllowed, call.listeners)

end Connection

namespace System

variable {ε : Type}

structure Books (system : System ε) (technologies : ConnectionId → Technology) : Prop
    extends system.LiveRegistered where
  rest : system.AtRest
  shown (id : ConnectionId) : (system.connection id).destroyed = false →
    (system.connection id).published = (system.connection id).derived
  formed : system.Formed technologies
  judged : system.Judged
  attended : system.attended = true

/-- The technologies that the exchange goes by: those of the moment when it has just looked. -/
def recalled (before after : System ε) (technologies : ConnectionId → Technology) :
    ConnectionId → Technology :=
  if before.recounts < after.recounts then after.technologyOf else technologies

theorem recalled_of_unheard {before after : System ε} (unheard : after.recounts = before.recounts)
    (technologies : ConnectionId → Technology) :
    before.recalled after technologies = technologies :=
  if_neg (Nat.not_lt.mpr (Nat.le_of_eq unheard))

structure Amended (before : System ε) (id : ConnectionId) (after : System ε) : Prop where
  count : after.connections.length = before.connections.length
  others (other : ConnectionId) : other ≠ id → after.connection other = before.connection other
  same : (after.connection id).unpublished = (before.connection id).unpublished
  desk : after.desk = before.desk
  tracked : after.tracked = before.tracked
  conferences : after.conferences = before.conferences
  listed : after.registry.connections = before.registry.connections
  unheard : after.recounts = before.recounts
  attended : after.attended = before.attended

namespace Amended

variable {before after : System ε} {id : ConnectionId}

theorem of_revise (system : System ε) (id : ConnectionId) {change : Connection → Connection}
    (same : (change (system.connection id)).unpublished = (system.connection id).unpublished) :
    system.Amended id (system.reviseConnection id change) where
  count := by simp
  others other differ := system.connection_reviseConnection_other differ change
  same := by
    rw [connection_reviseConnection]
    split
    · exact same
    · rfl
  desk := by cases id <;> rfl
  tracked := by cases id <;> rfl
  conferences := by cases id <;> rfl
  listed := by simp
  unheard := by simp [recounts]
  attended := by simp

section
variable (amended : before.Amended id after)
include amended

theorem reads {α : Type} (read : (CallState × CallState × Bool × Bool × Bool) × Published ×
      Option ConferenceId × Bool × List Listener → α) (other : ConnectionId) :
    read (after.connection other).unpublished = read (before.connection other).unpublished := by
  by_cases own : other = id
  · rw [own, amended.same]
  · rw [amended.others other own]

theorem liveRegistered (liveRegistered : before.LiveRegistered) : after.LiveRegistered where
  toConferencesAgree :=
    liveRegistered.toConferencesAgree.congr (amended.reads (·.2.2.1)) amended.desk amended.tracked
    (by rw [amended.conferences])
  roster := by
    rw [amended.listed, liveRegistered.roster,
      living_congr amended.count (amended.reads (·.1.2.2.2.1))]
  enrolled id := by rw [amended.tracked, amended.listed]; exact liveRegistered.enrolled id
  heard {other} alive := by
    have listeners : (after.connection other).listeners = (before.connection other).listeners :=
      amended.reads (·.2.2.2.2) other
    rw [listeners]
    exact liveRegistered.heard ((amended.reads (·.1.2.2.2.1) other).symm.trans alive)

theorem verdict (entity : Holdable) : after.verdict entity = before.verdict entity := by
  cases entity with
  | connection id => exact amended.reads (·.2.2.2.1) id
  | conference id =>
    cases id <;> simp only [System.verdict, System.conference, amended.conferences]

theorem pendingChange (rest : before.AtRest) : after.PendingChange id where
  others other differ := by rw [amended.others other differ]; exact rest.steady other
  watched := by
    have watched : (after.connection id).watched = (before.connection id).watched :=
      amended.reads (·.1.1) id
    exact watched.trans ((rest.steady id).watched.trans (amended.reads (·.1.2.1) id).symm)
  unstarted alive := by
    have started : (after.connection id).teardownStarted = (before.connection id).teardownStarted :=
      amended.reads (·.1.2.2.1) id
    exact started.trans ((rest.steady id).rested (rest.quiet id)
      ((amended.reads (·.1.2.2.2.1) id).symm.trans alive)).2.2
  quiet other := (amended.reads (·.1.2.2.2.2) other).trans (rest.quiet other)

theorem alike {technologies : ConnectionId → Technology} (books : before.Books technologies)
    (silent : (after.connection id).Silent) : before.Alike after where
  shown := amended.reads (·.2.1.state)
  several {other} among := by
    by_cases own : other = id
    · subst own
      have alive := (books.alive_iff other).mp among
      have gone : (after.connection other).destroyed = (before.connection other).destroyed :=
        amended.reads (·.1.2.2.2.1) other
      have props := (silent (gone.trans alive)).2
      have published : (after.connection other).published = (before.connection other).published :=
        amended.reads (·.2.1) other
      rw [published, books.shown other alive] at props
      rw [← Connection.derived_conference, ← props, Connection.derived_conference]
    · rw [amended.others other own]
  conference := amended.reads (·.2.2.1)
  desk := amended.desk
  tracked := amended.tracked
  cores := by rw [amended.conferences]
  listed := amended.listed

end
end Amended

theorem AtRest.shown {system : System ε} (rest : system.AtRest)
    (near : ∀ id, (system.connection id).Near) (current : ∀ id, (system.connection id).Current)
    (id : ConnectionId) (alive : (system.connection id).destroyed = false) :
    (system.connection id).published = (system.connection id).derived :=
  Connection.eq_derived (near id alive) ((current id alive).resolve_right fun waits => by
    rw [rest.quiet id] at waits
    cases waits.1)

end System

namespace Act

variable {ε : Type} {depth : Nat} {before system : System ε}
  {technologies : ConnectionId → Technology}

theorem books_quiet (books : before.Books technologies) {id : ConnectionId}
    (amended : before.Amended id system) (silent : (system.connection id).Silent) :
    (update id).Ensures (.level .silent depth) system fun _ after =>
      after.AtRest ∧ after.attended = true →
        after.Books (before.recalled after technologies) := by
  have pendingChange := amended.pendingChange books.rest
  have steady : (system.connection id).Steady := by
    refine ⟨pendingChange.watched, fun _ alive => ?_⟩
    have state := (silent alive).1
    rw [Connection.derived_state] at state
    obtain ⟨shown, up⟩ := books.rest.alive ((amended.reads (·.1.2.2.2.1) id).symm.trans alive)
    refine ⟨state, ?_, pendingChange.unstarted alive⟩
    have kept : (system.connection id).published.state = (before.connection id).published.state :=
      amended.reads (·.2.1.state) id
    rw [← state, kept, shown]
    exact up
  refine (noted_update steady silent (pendingChange.quiet id)).mono
    fun _ after noted ⟨rest, attended⟩ => ?_
  have refreshed : system.Undisturbed (system.reviseConnection id Connection.refreshed) :=
    .of_revise system id (Connection.card_refreshed silent)
  have told := System.VerdictsOnly.of_noted noted
  have alike : before.Alike after :=
    (amended.alike books silent).trans (refreshed.alike.trans told.alike)
  have unheard : after.recounts = before.recounts := by
    rw [told.unheard, ← amended.unheard]
    simp [System.recounts]
  exact {
    told.liveRegistered
      (refreshed.liveRegistered (amended.liveRegistered books.toLiveRegistered)) with
    rest := rest
    shown := fun other alive => by
      rw [noted.connection, System.connection_reviseConnection] at alive ⊢
      split at alive
      · rename_i own
        rw [if_pos own]
        exact Connection.refreshed_published _ alive
      · rename_i apart
        rw [if_neg apart]
        by_cases own : other = id
        · rw [system.connection_of_not_known fun known => apart ⟨own, own ▸ known⟩] at alive
          cases alive
        · rw [amended.others other own] at alive ⊢
          exact books.shown other alive
    formed := by
      rw [System.recalled_of_unheard unheard]
      exact alike.formed books.formed
    judged := alike.judged (fun entity => by
      rw [noted.verdict, refreshed.verdict, amended.verdict]) books.judged
    attended := attended }

theorem books_loud (books : before.Books technologies) {id : ConnectionId}
    (amended : before.Amended id system) (loud : ¬ (system.connection id).Silent) :
    (update id).Ensures (.level .silent depth) system fun _ after =>
      after.AtRest ∧ after.attended = true →
        after.Books (before.recalled after technologies) := by
  have pendingChange := amended.pendingChange books.rest
  let busy : System ε := system.reviseConnection id ({ · with publishing := true })
  have here : busy.connection id =
      { system.connection id with
        publishing := decide (system.Known id) || (system.connection id).publishing } := by
    rw [System.connection_reviseConnection]
    by_cases known : system.Known id <;> simp [known]
  have apart (other : ConnectionId) (differ : other ≠ id) :
      busy.connection other = before.connection other := by
    rw [System.connection_reviseConnection_other _ differ, amended.others other differ]
  have ready : busy.Ready id := {
    others := fun other differ => by
      rw [apart other differ]
      exact books.rest.steady other
    watched := by
      rw [here]
      exact pendingChange.watched
    unstarted := by
      rw [here]
      exact pendingChange.unstarted }
  have liveRegistered := amended.liveRegistered books.toLiveRegistered
  have begun : busy.LiveRegistered :=
    liveRegistered.revise id rfl rfl fun alive => liveRegistered.heard alive
  have current (other : ConnectionId) (differ : other ≠ id) : (busy.connection other).Current := by
    rw [apart other differ]
    exact fun alive => .inl (congrArg (·.caps) (books.shown other alive))
  simp only [update, ensures_bind, ensures_look, pendingChange.quiet id,
    Bool.false_eq_true, if_false,
    ensures_revise, ensures_rounds]
  refine (booksUpdated_publish _ ready begun (fun other differ => ?_) ?_).mono
    fun _ after booksUpdated quiet => ?_
  · rw [apart other differ]
    exact fun alive => congrArg Published.bare (books.shown other alive)
  · rw [here]
    exact loud
  · obtain ⟨rest, attended⟩ := quiet
    have more : before.recounts < after.recounts := by
      have same : busy.recounts = before.recounts := by
        rw [← amended.unheard]
        simp [busy, System.recounts]
      exact same ▸ booksUpdated.more
    have all (other : ConnectionId) : (after.connection other).Current := by
      by_cases own : other = id
      · exact booksUpdated.current other (.inl own)
      · exact booksUpdated.current other (.inr (current other own))
    exact { booksUpdated.toLiveRegistered with
      rest := rest
      shown := rest.shown booksUpdated.near all
      formed := by
        rw [System.recalled, if_pos more]
        exact booksUpdated.upToDate
      judged := booksUpdated.judged
      attended := attended }

theorem books_update (books : before.Books technologies) {id : ConnectionId}
    (amended : before.Amended id system) :
    (update id).Ensures (.level .silent depth) system fun _ after =>
      after.Books (before.recalled after technologies) := by
  have pendingChange := amended.pendingChange books.rest
  have rippling := Wiring.ripples_level (Bystanders.observe_silent fun _ : ε => ()) depth
  intro value after run
  have ripple :=
    ripple_update rippling pendingChange.toReady (pendingChange.quiet id) value after run
  have settled : (system.settle id).attended = system.attended := by
    rw [System.settle]
    cases (if (system.connection id).isEnding then (system.connection id).leg else none) <;>
      exact System.reviseConnection_attended ..
  have attended : after.attended = true :=
    ripple.attended.trans (settled.trans (amended.attended.trans books.attended))
  have rest : after.AtRest := ripple.atRest pendingChange.settle
  by_cases silent : (system.connection id).Silent
  · exact books_quiet books amended silent value after run ⟨rest, attended⟩
  · exact books_loud books amended silent value after run ⟨rest, attended⟩

end Act

namespace System

variable {ε : Type}

/-- Nothing changed that the books are about. -/
structure Beside (before after : System ε) : Prop where
  connections : after.connections = before.connections
  desk : after.desk = before.desk
  tracked : after.tracked = before.tracked
  conferences : after.conferences = before.conferences
  listed : after.registry.connections = before.registry.connections
  unheard : after.recounts = before.recounts
  attended : after.attended = before.attended

theorem Beside.books {before after : System ε} (beside : before.Beside after)
    {technologies : ConnectionId → Technology} (books : before.Books technologies) :
    after.Books technologies := by
  have same (id : ConnectionId) : after.connection id = before.connection id :=
    connection_congr beside.connections id
  have undisturbed : before.Undisturbed after :=
    .of_same beside.connections beside.desk beside.tracked beside.conferences beside.listed
  exact {
    undisturbed.liveRegistered books.toLiveRegistered with
    rest := books.rest.of_connections same
    shown := fun id => by rw [same]; exact books.shown id
    formed := undisturbed.alike.formed books.formed
    judged := undisturbed.alike.judged undisturbed.verdict books.judged
    attended := beside.attended.trans books.attended }

theorem Beside.kept {before after : System ε} (beside : before.Beside after)
    {technologies : ConnectionId → Technology} (books : before.Books technologies) :
    after.Books (before.recalled after technologies) := by
  rw [recalled_of_unheard beside.unheard]
  exact beside.books books

theorem Beside.of_reviseLeg (system : System ε) (leg : LegId) (change : Leg → Leg) :
    system.Beside (system.reviseLeg leg change) :=
  ⟨rfl, rfl, rfl, rfl, rfl, rfl, rfl⟩

theorem Beside.of_release (system : System ε) (leg : Option LegId) :
    system.Beside (system.release leg) := by
  cases leg with
  | none => exact ⟨rfl, rfl, rfl, rfl, rfl, rfl, rfl⟩
  | some leg => exact .of_reviseLeg system leg _

theorem Amended.beside {before middle after : System ε} {id : ConnectionId}
    (amended : before.Amended id middle) (beside : middle.Beside after) :
    before.Amended id after := by
  have same (id : ConnectionId) : after.connection id = middle.connection id :=
    connection_congr beside.connections id
  exact {
    count := (congrArg List.length beside.connections).trans amended.count
    others := fun other differ => (same other).trans (amended.others other differ)
    same := by rw [same, amended.same]
    desk := beside.desk.trans amended.desk
    tracked := beside.tracked.trans amended.tracked
    conferences := beside.conferences.trans amended.conferences
    listed := beside.listed.trans amended.listed
    unheard := beside.unheard.trans amended.unheard
    attended := beside.attended.trans amended.attended }

theorem Books.revise {system : System ε} {technologies : ConnectionId → Technology}
    (books : system.Books technologies) (id : ConnectionId) {change : Connection → Connection}
    (card : (change (system.connection id)).card = (system.connection id).card)
    (publicity : ∀ call, (change call).publicity = call.publicity)
    (visible : ∀ call, (change call).visibleState = call.visibleState)
    (published : (change (system.connection id)).published = (system.connection id).published)
    (derived : (change (system.connection id)).derived = (system.connection id).derived) :
    (system.reviseConnection id change).Books technologies := by
  have undisturbed : system.Undisturbed (system.reviseConnection id change) :=
    .of_revise system id card
  have rest := books.rest.reviseConnection id change publicity visible
  exact {
    undisturbed.liveRegistered books.toLiveRegistered with
    rest := rest
    shown := fun other alive => by
      have alive := (undisturbed.reads (·.destroyed) other).symm.trans alive
      have shown := books.shown other alive
      rw [connection_reviseConnection]
      split
      · rename_i own
        rw [published, derived, ← own.1]
        exact shown
      · exact shown
    formed := undisturbed.alike.formed books.formed
    judged := undisturbed.alike.judged undisturbed.verdict books.judged
    attended := by simpa using books.attended }

end System

namespace Act

variable {ε α β : Type} {depth : Nat}

def KeepsBooks (step : Act ε α) (depth : Nat) : Prop :=
  ∀ ⦃system : System ε⦄ ⦃technologies : ConnectionId → Technology⦄, system.Books technologies →
    step.Ensures (.level .silent depth) system fun _ after =>
      after.Books (system.recalled after technologies)

theorem keepsBooks_beside {step : Act ε α}
    (beside : ∀ system : System ε, system.AtRest →
      step.Ensures (.level .silent depth) system fun _ after => system.Beside after) :
    step.KeepsBooks depth := by
  intro system technologies books
  exact (beside system books.rest).mono fun _ _ beside => beside.kept books

theorem KeepsBooks.onward {step : Act ε α} (keeps : step.KeepsBooks depth)
    {before now : System ε} {technologies : ConnectionId → Technology}
    (books : now.Books technologies) (unheard : now.recounts = before.recounts) :
    step.Ensures (.level .silent depth) now fun _ after =>
      after.Books (before.recalled after technologies) := by
  refine (keeps books).mono fun _ after last => ?_
  rw [System.recalled, ← unheard]
  exact last

theorem keepsBooks_pure (value : α) : (pure value : Act ε α).KeepsBooks depth :=
  keepsBooks_beside fun system _ => by
    rw [ensures_pure]
    exact ⟨rfl, rfl, rfl, rfl, rfl, rfl, rfl⟩

theorem keepsBooks_change (id : ConnectionId) (change : Connection → Connection)
    (same : ∀ call, (change call).unpublished = call.unpublished) :
    (do revise id change; update id : Act ε Unit).KeepsBooks depth := by
  intro system technologies books
  rw [ensures_bind, ensures_revise]
  exact books_update books (.of_revise system id (same _))

theorem keepsBooks_setDisconnected (id : ConnectionId) (info : DisconnectInfo) :
    (setDisconnected id info : Act ε Unit).KeepsBooks depth := by
  intro system technologies books
  rw [setDisconnected, ensures_bind, ensures_look]
  split
  · exact keepsBooks_pure _ books
  · exact keepsBooks_change id (.finished info) (fun _ => rfl) books

theorem keepsBooks_bind (id : ConnectionId) (leg : LegId) :
    (bind id leg : Act ε Unit).KeepsBooks depth := by
  intro system technologies books
  have revised : system.Amended id
      (system.reviseConnection id (.bound leg (system.leg leg).view)) := .of_revise system id rfl
  have amended : system.Amended id (system.tied id leg) :=
    (revised.beside (.of_release _ _)).beside (.of_reviseLeg _ _ _)
  have nothing (goal : Unit → System ε → Prop) :
      bridged.Ensures (.level .silent depth) (system.tied id leg) goal ↔
        ∀ after, (Wiring.level .silent depth).bridged (system.tied id leg) = some ((), after) →
          goal () after := by
    constructor
    · exact fun holds after run => holds () after run
    · exact fun holds value after run => holds after run
  rw [ensures_bindLeg, ensures_bind, nothing]
  intro after run
  cases depth with
  | zero => cases run
  | succ depth =>
    cases run
    exact books_update books amended

theorem beside_notify {system : System ε} (attended : system.attended = true) (id : ConnectionId)
    {event : ConnectionEvent} {work : FollowUp} (asks : event.work? id = some work) :
    (notify id event).Ensures (.level .silent depth) system fun _ after => system.Beside after := by
  have deaf : event.isRecount = false := by cases event <;> first | rfl | cases asks
  have written {now : System ε} (beside : system.Beside now) (listener : Listener) :
      system.Beside { now with journal := .heard listener id event :: now.journal } := {
    beside with
    unheard := by
      have quiet : (Entry.heard listener id event).isRecount = false := by
        cases listener <;> simp [Entry.isRecount, deaf]
      simp only [System.recounts, List.countP_cons, quiet]
      exact beside.unheard }
  rw [ensures_notify, ensures_tell]
  intro after run
  cases depth with
  | zero => cases run
  | succ depth =>
    have all : ((system.connection id).listeners.forM (Bystanders.silent.tellOne id event)).Ensures
        (.level .silent depth) system fun _ after => system.Beside after := by
      refine ensures_forM system.Beside _ (fun listener _ now beside => ?_)
        ⟨rfl, rfl, rfl, rfl, rfl, rfl, rfl⟩
      have told := written beside listener
      unfold Bystanders.tellOne
      rw [ensures_bind, ensures_write]
      cases listener with
      | exchange =>
        simp only [attend_of_work asks, follow, ensures_bind, ensures_get]
        rw [if_pos (told.attended.trans attended), ensures_signal]
        exact { told with }
      | _ => exact (ensures_pure _ _).mpr told
    exact all ⟨⟩ after run

theorem keepsBooks_giveUp (id : ConnectionId) {event : ConnectionEvent} {work : FollowUp}
    (asks : event.work? id = some work) :
    (do
      revise id ({ · with awaitingRedial := true })
      unbind id
      notify id event : Act ε Unit).KeepsBooks depth := by
  intro system technologies books
  have leg : ((system.reviseConnection id ({ · with awaitingRedial := true })).connection id).leg =
      (system.connection id).leg := by
    rw [System.connection_reviseConnection]
    split <;> rfl
  rw [ensures_bind, ensures_revise, ensures_bind, ensures_unbind,
    System.reviseConnection_reviseConnection, leg]
  have revised : (system.reviseConnection id .waiting).Books technologies :=
    books.revise id rfl (fun _ => rfl) (fun _ => rfl) rfl rfl
  have released := System.Beside.of_release (system.reviseConnection id .waiting)
    (system.connection id).leg
  refine (beside_notify (released.books revised).attended id asks).mono fun _ after beside => ?_
  rw [System.recalled_of_unheard]
  · exact beside.books (released.books revised)
  · refine beside.unheard.trans (released.unheard.trans ?_)
    simp [System.recounts]

theorem keepsBooks_legEnded (id : ConnectionId) (failure : RadioFailure) (code : Int)
    (message : String) : (legEnded id failure code message : Act ε Unit).KeepsBooks depth := by
  intro system technologies books
  rw [legEnded, ensures_bind, ensures_look]
  cases (system.connection id).endOfLeg failure with
  | redial phone permanent =>
    have asks : ConnectionEvent.work? id (.redialRequested phone permanent) =
        some (.redial id phone permanent) := rfl
    exact keepsBooks_giveUp id asks books
  | reselect =>
    have asks : ConnectionEvent.work? id (.reselectionRequested failure.cause code) =
        some (.reselect id failure.cause code) := rfl
    exact keepsBooks_giveUp id asks books
  | terminal => exact keepsBooks_setDisconnected id _ books

theorem keepsBooks_legEvent (id : ConnectionId) (generation : Nat) (event : RadioEvent) :
    (legEvent id generation event : Act ε Unit).KeepsBooks depth := by
  intro system technologies books
  simp only [legEvent, ensures_bind, ensures_look]
  split
  · cases event with
    | disconnected failure code message => exact keepsBooks_legEnded id _ _ _ books
    | stateChanged next =>
      dsimp only
      split
      · refine keepsBooks_change id _ ?_ books
        exact fun _ => rfl
      · exact keepsBooks_pure _ books
    | _ =>
      refine keepsBooks_change id _ ?_ books
      exact fun _ => rfl
  · exact keepsBooks_pure _ books

theorem keepsBooks_reassign (id : ConnectionId) (phone : PhoneId)
    (subscription : Option SubscriptionId) (technology : Technology) (carrier : CarrierConfig) :
    (reassign id phone subscription technology carrier : Act ε Unit).KeepsBooks depth :=
  keepsBooks_change id ({ · with phone, subscription, technology, carrier }) fun _ => rfl

theorem keepsBooks_setRttStream (id : ConnectionId) (stream : Option String) :
    (setRttStream id stream : Act ε Unit).KeepsBooks depth :=
  keepsBooks_change id ({ · with rttStream := stream }) fun _ => rfl

theorem keepsBooks_revise (id : ConnectionId) (change : Connection → Connection)
    (unpublished : ∀ call, (change call).unpublished = call.unpublished)
    (card : ∀ call, (change call).card = call.card)
    (visible : ∀ call, (change call).visibleState = call.visibleState)
    (derived : ∀ call, (change call).derived = call.derived) :
    (revise id change : Act ε Unit).KeepsBooks depth := by
  intro system technologies books
  rw [ensures_revise, System.recalled_of_unheard (by simp [System.recounts])]
  exact books.revise id (card _) (fun call => congrArg (·.1) (unpublished call)) visible
    (congrArg (·.2.1) (unpublished _)) (derived _)

theorem keepsBooks_setSelectionActive (id : ConnectionId) (active : Bool) :
    (setSelectionActive id active : Act ε Unit).KeepsBooks depth :=
  keepsBooks_revise id ({ · with selectionActive := active }) (fun _ => rfl) (fun _ => rfl)
    (fun _ => rfl) fun _ => rfl

theorem keepsBooks_startSelection (id : ConnectionId) :
    (startSelection id : Act ε Unit).KeepsBooks depth :=
  keepsBooks_beside fun system _ => by
    rw [startSelection, ensures_bind, ensures_get]
    generalize system.registry.session.start id = outcome
    obtain ⟨cancels, session⟩ := outcome
    rw [ensures_bind, ensures_reviseRegistry]
    split
    · rw [ensures_write]
      exact ⟨rfl, rfl, rfl, rfl, rfl, by simp [System.recounts, Entry.isRecount], rfl⟩
    · rw [ensures_pure]
      exact ⟨rfl, rfl, rfl, rfl, rfl, rfl, rfl⟩

theorem keepsBooks_finishSelection (id : ConnectionId) :
    (finishSelection id : Act ε Unit).KeepsBooks depth :=
  keepsBooks_beside fun system _ => by
    rw [finishSelection, ensures_bind, ensures_get]
    generalize system.registry.session.finish id = outcome
    obtain ⟨finishes, session⟩ := outcome
    rw [ensures_bind, ensures_reviseRegistry]
    split
    · rw [ensures_write]
      exact ⟨rfl, rfl, rfl, rfl, rfl, by simp [System.recounts, Entry.isRecount], rfl⟩
    · rw [ensures_pure]
      exact ⟨rfl, rfl, rfl, rfl, rfl, rfl, rfl⟩

theorem keepsBooks_addListener (id : ConnectionId) (listener : Listener) :
    (addListener id listener : Act ε Bool).KeepsBooks depth := by
  intro system technologies books
  rw [addListener, ensures_bind, ensures_look]
  split
  · exact keepsBooks_pure _ books
  · let more (call : Connection) := { call with listeners := call.listeners ++ [listener] }
    have card : (more (system.connection id)).card = (system.connection id).card := by
      refine Connection.card_listeners ?_
      cases alive : (system.connection id).destroyed with
      | true => rfl
      | false => simp [books.heard alive]
    have added : (system.reviseConnection id more).Books technologies :=
      books.revise id card (fun _ => rfl) (fun _ => rfl) rfl rfl
    rw [ensures_bind, ensures_revise, ensures_pure,
      System.recalled_of_unheard (by simp [System.recounts])]
    exact added

theorem keepsBooks_report (leg : LegId) (event : RadioEvent) :
    (report leg event : Act ε Unit).KeepsBooks depth := by
  intro system technologies books
  let shown := system.reviseLeg leg fun leg => { leg with view := leg.view.apply event }
  have beside : system.Beside shown := .of_reviseLeg system leg _
  have still := beside.books books
  simp only [report, ensures_bind, ensures_modify, ensures_get]
  cases (shown.leg leg).attached with
  | none => exact (keepsBooks_pure _).onward still beside.unheard
  | some bridge => exact (keepsBooks_legEvent _ _ event).onward still beside.unheard

theorem keepsBooks_reportLate (leg : LegId) (event : RadioEvent) :
    (reportLate leg event : Act ε Bool).KeepsBooks depth := by
  intro system technologies books
  rw [reportLate, ensures_bind, ensures_get]
  cases (system.leg leg).last with
  | none => exact keepsBooks_pure _ books
  | some bridge =>
    rw [ensures_bind]
    refine (keepsBooks_legEvent bridge.connection bridge.generation event books).mono
      fun _ after last => ?_
    rw [ensures_pure]
    exact last

end Act
end Switchboard
