import Switchboard.Proofs.ConnectionInvariant

/-! Updates keep the invariant. `connectionInOrder` is the law that one connection, with what is
written down about it, satisfies its invariant. If telling listeners keeps the invariant
(`Wiring.Heeds`), then publishing, tearing down and closing obey the law, and so does everything
that is made of them: `Wiring.Heeds.governs`. -/

namespace Switchboard

namespace System

def dossier (system : System Diary) (serial : Nat) : Dossier :=
  ⟨system.connection (.issued serial), system.annals serial⟩

variable {system before after : System Diary} {serial : Nat}

theorem dossier_revise (known : system.Known (.issued serial))
    (change : Connection → Connection) :
    (system.reviseConnection (.issued serial) change).dossier serial =
      (system.dossier serial).revise change := by
  rw [dossier, system.connection_reviseConnection_known known, annals, reviseConnection_outside]
  rfl

theorem dossier_revise_other {id : ConnectionId} (differ : id ≠ .issued serial)
    (change : Connection → Connection) :
    (system.reviseConnection id change).dossier serial = system.dossier serial := by
  rw [dossier, system.connection_reviseConnection_other differ.symm, annals,
    reviseConnection_outside]
  rfl

theorem SameConnections.known (apart : before.SameConnections after) (id : ConnectionId) :
    after.Known id ↔ before.Known id := by
  cases id <;> simp [Known, apart.connections]

theorem SameConnections.dossier (apart : before.SameConnections after) (serial : Nat) :
    after.dossier serial = before.dossier serial := by
  simp only [System.dossier, connection, annals, apart.connections, apart.outside]

theorem known_withEntry (diaryEntry : DiaryEntry) (id : ConnectionId) :
    (system.withEntry diaryEntry).Known id ↔ system.Known id := by
  cases id <;> rfl

theorem dossier_item (moment : Moment) :
    (system.withEntry (.item (.issued serial) moment)).dossier serial =
      (system.dossier serial).note moment := by
  simp [dossier, withEntry, annals, Diary.about, DiaryEntry.about?, Dossier.note, connection]

theorem dossier_item_other {id : ConnectionId} (differ : id ≠ .issued serial) (moment : Moment) :
    (system.withEntry (.item id moment)).dossier serial = system.dossier serial := by
  simp [dossier, withEntry, annals, Diary.about, DiaryEntry.about?, differ, connection]

theorem dossier_view (known : system.Known (.issued serial)) :
    (system.withEntry (.view system.connections)).dossier serial =
      (system.dossier serial).note (.seen (system.connection (.issued serial))) := by
  have here : (DiaryEntry.view system.connections).about? serial =
      some (.seen (system.connection (.issued serial))) := by
    have inside : serial < system.connections.length := known
    simp [DiaryEntry.about?, connection, List.getD_eq_getElem?_getD, inside]
  exact congrArg (Dossier.mk _) (List.filterMap_cons_some here)

theorem annals_view_of_not_known (strange : ¬ system.Known (.issued serial)) :
    (system.withEntry (.view system.connections)).annals serial = system.annals serial := by
  have beyond : system.connections[serial]? = none :=
    List.getElem?_eq_none (Nat.not_lt.mp strange)
  simp [withEntry, annals, Diary.about, DiaryEntry.about?, beyond]

structure CallInOrder (serial : Nat) (system : System Diary) : Prop where
  order : system.Known (.issued serial) → (system.dossier serial).InOrder False
  blank : ¬ system.Known (.issued serial) → (system.annals serial).Blank

structure Succeeds (serial : Nat) (before after : System Diary) : Prop where
  known : before.Known (.issued serial) → after.Known (.issued serial)
  leads : before.Known (.issued serial) →
    (before.dossier serial).Leads (fun _ => id) (after.dossier serial)
  settles : before.Known (.issued serial) → (before.dossier serial).Settles (after.dossier serial)
  new : ¬ before.Known (.issued serial) → after.Known (.issued serial) →
    (after.dossier serial).Done ∧ (after.connection (.issued serial)).Fresh ∧
      (after.connection (.issued serial)).publishing = false

theorem Succeeds.refl (serial : Nat) (system : System Diary) : Succeeds serial system system where
  known := id
  leads _ := .refl _
  settles _ := .refl _
  new strange known := absurd known strange

theorem Succeeds.trans {middle : System Diary} (first : Succeeds serial before middle)
    (second : Succeeds serial middle after) : Succeeds serial before after where
  known := second.known ∘ first.known
  leads known := (first.leads known).trans (second.leads (first.known known))
  settles known := (first.settles known).trans (second.settles (first.known known))
    (first.leads known).toPasses
  new strange here := by
    by_cases known : middle.Known (.issued serial)
    · obtain ⟨done, fresh, idle⟩ := first.new strange known
      have settles := second.settles known
      exact ⟨settles.done done, settles.fresh fresh, (second.leads known).publishing.trans idle⟩
    · exact second.new known here

end System

def connectionInOrder (serial : Nat) : Law Diary where
  holds := System.CallInOrder serial
  leads := System.Succeeds serial
  refl := .refl serial
  trans := .trans

structure System.Reached (serial : Nat) (heard : Listener → Published → Published)
    (before : Dossier) (after : System Diary) : Prop where
  known : after.Known (.issued serial)
  order : (after.dossier serial).InOrder False
  leads : before.Leads heard (after.dossier serial)

namespace System.Reached

variable {serial : Nat} {before : Dossier} {middle after : System Diary}

theorem trans (first : middle.Reached serial (fun _ => id) before)
    (second : after.Reached serial (fun _ => id) (middle.dossier serial)) :
    after.Reached serial (fun _ => id) before :=
  ⟨second.known, second.order, first.leads.trans second.leads⟩

theorem of_mute {event : ConnectionEvent} (mute : event.IsMute) {listeners : List Listener}
    (reached : after.Reached serial (fun listener record =>
      if listener ∈ listeners then record.hear event else record) (before.telling event)) :
    after.Reached serial (fun _ => id) before := by
  have silent : (fun listener record => if listener ∈ listeners then record.hear event
      else record) = fun (_ : Listener) (record : Published) => record := by
    funext listener record
    rw [mute record, ite_self]
  have leads := reached.leads
  rw [silent] at leads
  exact ⟨reached.known, reached.order, (Dossier.Leads.telling before event).trans leads⟩

theorem lawful {system : System Diary}
    (reached : after.Reached serial (fun _ => id) (system.dossier serial))
    (known : system.Known (.issued serial))
    (settles : (system.dossier serial).Settles (after.dossier serial)) :
    (connectionInOrder serial).holds after ∧ (connectionInOrder serial).leads system after :=
  ⟨⟨fun _ => reached.order, fun strange => absurd reached.known strange⟩,
    ⟨fun _ => reached.known, fun _ => reached.leads, fun _ => settles,
      fun strange => absurd known strange⟩⟩

end System.Reached

structure System.Midway (serial : Nat) (before : Dossier) (after : System Diary) : Prop where
  known : after.Known (.issued serial)
  order : (after.dossier serial).InOrder False
  passes : before.Passes (after.dossier serial)
  busy : (after.connection (.issued serial)).publishing = true
  noted : (after.dossier serial).Noted

structure System.Rested (serial : Nat) (before : Dossier) (after : System Diary) : Prop where
  known : after.Known (.issued serial)
  order : (after.dossier serial).InOrder False
  passes : before.Passes (after.dossier serial)
  idle : (after.connection (.issued serial)).publishing = false
  endToldOnce : before.EndToldOnce (after.dossier serial)
  fresh : (after.connection (.issued serial)).Fresh

theorem System.Rested.of_round {system : System Diary} {serial : Nat} {before : Dossier}
    (passes : before.Passes (system.dossier serial))
    (endToldOnce : before.EndToldOnce (system.dossier serial))
      (known : system.Known (.issued serial))
    (order : (system.dossier serial).InOrder True) (done : (system.dossier serial).Done)
    (noted : (system.dossier serial).Noted)
    (last : (system.connection (.issued serial)).ended.isSome = true →
      (system.connection (.issued serial)).teardownStarted = true)
    (fresh : (system.connection (.issued serial)).rested.Fresh) :
    (system.reviseConnection (.issued serial) Connection.rested).Rested serial before := by
  have dossier := System.dossier_revise known Connection.rested
  have call : (system.reviseConnection (.issued serial) Connection.rested).connection
      (.issued serial) = (system.connection (.issued serial)).rested :=
    congrArg Dossier.call dossier
  refine ⟨(system.known_reviseConnection _ _ _).mpr known, ?_, ?_, ?_, ?_, ?_⟩
  · rw [dossier]
    exact order.rested done noted last
  · rw [dossier]
    exact passes.trans ⟨⟨id, id⟩, id, id⟩
  · rw [call]
    rfl
  · rw [dossier]
    exact endToldOnce
  · rw [call]
    exact fresh

/-- Telling those who listen to the connection leaves it in order, if it begins in order and tells
what has been published or nothing to enter. -/
structure Wiring.Heeds (wiring : Wiring Diary) (serial : Nat) : Prop where
  notify {event : ConnectionEvent} {system : System Diary} : system.Known (.issued serial) →
    ((system.dossier serial).telling event).InOrder False →
    event.Suits (system.connection (.issued serial)) →
    (Act.notify (.issued serial) event).Ensures wiring system fun _ after =>
      after.Reached serial (fun listener record =>
        if listener ∈ (system.connection (.issued serial)).listeners then record.hear event
        else record) ((system.dossier serial).telling event) ∧
      ((system.dossier serial).telling event).Settles (after.dossier serial)
  strange {event : ConnectionEvent} {system : System Diary} : ¬ system.Known (.issued serial) →
    (connectionInOrder serial).holds system → event.isFinal = false →
    (Act.notify (.issued serial) event).Ensures wiring system fun _ after =>
      (connectionInOrder serial).holds after ∧ (connectionInOrder serial).leads system after
  other {id : ConnectionId} : id ≠ .issued serial → ∀ event,
    (Act.notify id event).Obeys (connectionInOrder serial) wiring
  bridged : Act.bridged.Obeys (connectionInOrder serial) wiring

namespace Act

variable {serial : Nat} {wiring : Wiring Diary} {system : System Diary}

theorem connectionInOrder_elsewhere {after : System Diary}
    (known : after.Known (.issued serial) ↔ system.Known (.issued serial))
    (same : after.dossier serial = system.dossier serial)
      (holds : (connectionInOrder serial).holds system) :
    (connectionInOrder serial).holds after ∧ (connectionInOrder serial).leads system after := by
  refine ⟨⟨fun here => ?_, fun strange => ?_⟩, ⟨known.mpr, fun _ => ?_, fun _ => ?_,
    fun strange here => absurd (known.mp here) strange⟩⟩
  · rw [same]
    exact holds.order (known.mp here)
  · rw [show after.annals serial = system.annals serial from congrArg Dossier.annals same]
    exact holds.blank (strange ∘ known.mpr)
  · rw [same]
    exact .refl _
  · rw [same]
    exact .refl _

theorem connectionInOrder_apart {before after : System Diary}
    (apart : before.SameConnections after) :
    (connectionInOrder serial).holds before →
      (connectionInOrder serial).holds after ∧ (connectionInOrder serial).leads before after :=
  connectionInOrder_elsewhere (apart.known _) (apart.dossier serial)

theorem apart_release (system : System Diary) (leg : Option LegId) :
    system.SameConnections (system.release leg) := by
  cases leg <;> exact ⟨rfl, rfl⟩

theorem reached_keepsLifecycle {change : Connection → Connection}
    (keepsLifecycle : Connection.KeepsLifecycle change)
    {after : System Diary}
      (apart : (system.reviseConnection (.issued serial) change).SameConnections after)
    (known : system.Known (.issued serial)) (order : (system.dossier serial).InOrder False) :
    after.Reached serial (fun _ => id) (system.dossier serial) ∧
      after.dossier serial = (system.dossier serial).revise change := by
  have same := (apart.dossier serial).trans (System.dossier_revise known change)
  refine ⟨⟨(apart.known _).mpr ((system.known_reviseConnection _ _ _).mpr known), ?_, ?_⟩, same⟩
  · rw [same]
    exact order.keepsLifecycle keepsLifecycle
  · rw [same]
    exact .keepsLifecycle _ keepsLifecycle

theorem reached_unbind (known : system.Known (.issued serial))
    (order : (system.dossier serial).InOrder False) :
    (unbind (.issued serial)).Ensures wiring system fun _ after =>
      after.Reached serial (fun _ => id) (system.dossier serial) ∧
        (system.dossier serial).Settles (after.dossier serial) := by
  rw [ensures_unbind]
  have keepsLifecycle : Connection.KeepsLifecycle fun call =>
      { call with generation := call.generation + 1, leg := none } := ⟨fun _ => rfl, fun _ => rfl⟩
  obtain ⟨reached, same⟩ := reached_keepsLifecycle keepsLifecycle (apart_release _ _) known order
  refine ⟨reached, ?_⟩
  rw [same]
  exact .keepsLifecycle keepsLifecycle id

theorem ensures_shown {id : ConnectionId} {next : Act Diary Unit}
    {goal : Unit → System Diary → Prop}
    (watched : (system.connection id).watched = (system.connection id).published.state)
    (known : system.Known id)
    (rest : ∀ shown, (system.reviseConnection id Connection.seen).SameConnections shown →
      next.Ensures wiring shown goal) :
    Ensures
      (if (system.connection id).roundCommit.events.isEmpty then next
        else showState id (system.connection id).roundCommit.state >>= fun _ => next)
      wiring (system.reviseConnection id fun _ => (system.connection id).roundBegun) goal := by
  have stays (same : (system.connection id).roundBegun.watched =
      (system.connection id).derived.state) :
        system.reviseConnection id (fun _ => (system.connection id).roundBegun) =
          system.reviseConnection id Connection.seen :=
    system.reviseConnection_congr (by rw [Connection.seen, ← same])
  split
  · rename_i silent
    have same := Published.eq_of_changes_eq_nil (List.isEmpty_iff.mp silent)
    rw [stays (watched.trans (congrArg Published.state same))]
    exact rest _ ⟨rfl, rfl⟩
  · have roundBegun := system.connection_reviseConnection_known known
      fun _ => (system.connection id).roundBegun
    rw [ensures_bind, showState, ensures_bind, ensures_look, roundBegun]
    split
    · rename_i same
      rw [ensures_pure, stays (eq_of_beq same)]
      exact rest _ ⟨rfl, rfl⟩
    · rw [ensures_bind, ensures_revise, ensures_signal, System.reviseConnection_reviseConnection]
      have seen : system.reviseConnection id (fun _ => (system.connection id).seen) =
          system.reviseConnection id Connection.seen := system.reviseConnection_congr rfl
      have connections := congrArg System.connections seen
      have outside := congrArg System.outside seen
      exact rest _ ⟨connections, outside⟩

section
variable (heeds : wiring.Heeds serial)
include heeds

theorem reached_mute {event : ConnectionEvent} (mute : event.IsMute)
    (lasting : event.isFinal = false) (known : system.Known (.issued serial))
    (order : (system.dossier serial).InOrder False) :
    (notify (.issued serial) event).Ensures wiring system fun _ after =>
      after.Reached serial (fun _ => id) (system.dossier serial) ∧
        (system.dossier serial).Settles (after.dossier serial) := by
  refine (heeds.notify known (order.telling lasting) (.inl mute)).mono
    fun _ after ⟨reached, settles⟩ => ?_
  refine ⟨reached.of_mute mute, .trans ?_ settles
    (Dossier.Leads.telling (system.dossier serial) event).toPasses⟩
  exact .telling (ConnectionEvent.isFinal_eq_false.mp lasting).1

theorem reached_destroy (known : system.Known (.issued serial))
    (order : (system.dossier serial).InOrder False)
    (begun : (system.connection (.issued serial)).teardownStarted = true)
    (busy : (system.connection (.issued serial)).publishing = true ∨
      (system.connection (.issued serial)).destroyed = true) :
    (destroy (.issued serial)).Ensures wiring system fun _ after =>
      after.Reached serial (fun _ => id) (system.dossier serial) ∧
        (system.dossier serial).EndToldOnce (after.dossier serial) ∧
          (after.connection (.issued serial)).destroyed = true := by
  rw [destroy, ensures_bind, ensures_look]
  split
  · rename_i gone
    rw [ensures_pure]
    exact ⟨⟨known, order, .refl _⟩, fun _ => rfl, gone⟩
  · rename_i alive
    have telling := busy.resolve_right alive
    rw [ensures_bind, ensures_revise, ensures_bind]
    have dossier := System.dossier_revise known ({ · with destroyed := true })
    have sofar := order.telling_gone telling begun (Bool.eq_false_iff.mpr alive)
    rw [← dossier] at sofar
    refine (heeds.notify ((system.known_reviseConnection _ _ _).mpr known) sofar
      (.inl fun _ => rfl)).mono ?_
    rintro _ told ⟨reached, settles⟩
    rw [dossier] at reached settles
    have gone : (told.connection (.issued serial)).destroyed = true := reached.leads.gone rfl
    have start : (system.dossier serial).Passes
        (((system.dossier serial).revise ({ · with destroyed := true })).telling .destroyed) :=
      ⟨⟨id, id⟩, id, fun _ => rfl⟩
    have last := System.dossier_revise reached.known ({ · with listeners := [] })
    rw [ensures_revise]
    refine ⟨⟨(told.known_reviseConnection _ _ _).mpr reached.known, ?_, ?_⟩, fun _ => ?_, ?_⟩
    · rw [last]
      exact reached.order.deserted gone
    · rw [last]
      exact {
        toPasses := (start.trans reached.leads.toPasses).trans ⟨⟨id, id⟩, id, id⟩
        publishing := reached.leads.publishing
        published := reached.leads.published
        noted := fun _ _ among => by cases among }
    · rw [last]
      exact (settles.endToldOnce begun).trans (Dossier.disconnections_telling _ rfl)
    · rw [told.connection_reviseConnection_known reached.known]
      exact gone

theorem reached_teardown (known : system.Known (.issued serial))
    (order : (system.dossier serial).InOrder False)
    (busy : (system.connection (.issued serial)).publishing = true)
    (begun : (system.connection (.issued serial)).teardownStarted = true)
    (untold : (system.annals serial).disconnections = 0) :
    (teardown (.issued serial)).Ensures wiring system fun _ after =>
      after.Reached serial (fun _ => id) (system.dossier serial) ∧
        (after.annals serial).disconnections = 1 ∧
          (after.connection (.issued serial)).destroyed = true := by
  have rest {now : System Diary}
    (reached : now.Reached serial (fun _ => id) (system.dossier serial))
      (once : (now.annals serial).disconnections = 1) :
      Ensures (do unbind (.issued serial); destroy (.issued serial)) wiring now fun _ after =>
        after.Reached serial (fun _ => id) (system.dossier serial) ∧
          (after.annals serial).disconnections = 1 ∧
            (after.connection (.issued serial)).destroyed = true := by
    rw [ensures_bind]
    refine (reached_unbind reached.known reached.order).mono ?_
    rintro _ free ⟨more, settles⟩
    have sofar := reached.trans more
    have started : (free.connection (.issued serial)).teardownStarted = true :=
      sofar.leads.started begun
    refine (reached_destroy heeds sofar.known sofar.order started
      (.inl (sofar.leads.publishing.trans busy))).mono ?_
    rintro _ after ⟨last, endToldOnce, gone⟩
    refine ⟨sofar.trans last, ?_, gone⟩
    exact (endToldOnce started).trans
      ((settles.endToldOnce (reached.leads.started begun)).trans once)
  rw [teardown, ensures_bind, ensures_look, ensures_bind, ensures_revise, ensures_bind]
  have keepsLifecycle : Connection.KeepsLifecycle fun call => { call with conference := none } :=
    ⟨fun _ => rfl, fun _ => rfl⟩
  obtain ⟨left, dossier⟩ := reached_keepsLifecycle keepsLifecycle ⟨rfl, rfl⟩ known order
  obtain ⟨order, once⟩ :
      (((system.dossier serial).revise ({ · with conference := none })).telling (.disconnected
        ((system.connection (.issued serial)).ended.getD .byRequest))).InOrder False ∧ _ :=
    (order.keepsLifecycle keepsLifecycle).telling_end busy begun untold
  rw [← dossier] at order
  refine (heeds.notify left.known order (.inl fun _ => rfl)).mono ?_
  rintro _ told ⟨more, settles⟩
  rw [dossier] at more settles
  have sofar : told.Reached serial (fun _ => id) (system.dossier serial) :=
    ⟨more.known, more.order, (Dossier.Leads.keepsLifecycle _ keepsLifecycle).trans
      (more.of_mute fun _ => rfl).leads⟩
  have one : (told.annals serial).disconnections = 1 := (settles.endToldOnce begun).trans once
  split
  · rw [ensures_bind]
    refine (reached_mute heeds (fun _ => rfl) rfl sofar.known sofar.order).mono ?_
    rintro _ now ⟨more, settles⟩
    exact rest (sofar.trans more) ((settles.endToldOnce (sofar.leads.started begun)).trans one)
  · exact rest sofar one

theorem midway_changes {events : List ConnectionEvent} (known : system.Known (.issued serial))
    (order : (system.dossier serial).InOrder False)
    (busy : (system.connection (.issued serial)).publishing = true)
    (tells : ∀ event ∈ events, event.isFinal = false ∧
      event.Tells (system.connection (.issued serial)).published)
    (records : ∀ listener ∈ (system.connection (.issued serial)).listeners, ∃ record,
      (system.annals serial).notebook listener = some record ∧
        events.foldl Published.hear record = (system.connection (.issued serial)).published) :
    (events.forM (notify (.issued serial))).Ensures wiring system fun _ after =>
      after.Midway serial (system.dossier serial) ∧
        (system.dossier serial).Settles (after.dossier serial) := by
  induction events generalizing system with
  | nil =>
    rw [List.forM, ensures_pure]
    refine ⟨⟨known, order, .refl _, busy, fun listener among => ?_⟩, .refl _⟩
    obtain ⟨record, noted, same⟩ := records listener among
    exact noted.trans (congrArg some same)
  | cons event rest ih =>
    obtain ⟨lasting, tell⟩ := tells event List.mem_cons_self
    rw [List.forM, ensures_bind]
    refine (heeds.notify known (order.telling lasting) (.inr ⟨busy, tell⟩)).mono ?_
    rintro _ told ⟨reached, settles⟩
    have still : (told.connection (.issued serial)).publishing = true :=
      reached.leads.publishing.trans busy
    have same : (told.connection (.issued serial)).published =
        (system.connection (.issued serial)).published := reached.leads.published busy
    have tells : ∀ event ∈ rest, event.isFinal = false ∧
        event.Tells (told.connection (.issued serial)).published := by
      rw [same]
      exact fun other among => tells other (List.mem_cons_of_mem _ among)
    refine (ih reached.known reached.order still tells fun listener among => ?_).mono ?_
    · rcases reached.leads.noted busy listener among with ⟨was, noted⟩ | new
      · obtain ⟨record, before, whole⟩ := records listener was
        have here : listener ∈ (system.connection (.issued serial)).listeners := was
        refine ⟨record.hear event, ?_, whole.trans same.symm⟩
        refine noted.trans ?_
        simp only [if_pos here]
        exact congrArg (Option.map (·.hear event)) before
      · exact ⟨_, new, Published.foldl_hear_self fun other there => (tells other there).2⟩
    · rintro _ after ⟨midway, more⟩
      have told := Dossier.Leads.telling (system.dossier serial) event
      have passes := told.toPasses.trans reached.leads.toPasses
      refine ⟨{ midway with passes := passes.trans midway.passes }, ?_⟩
      have open' := (ConnectionEvent.isFinal_eq_false.mp lasting).1
      exact ((Dossier.Settles.telling open').trans settles told.toPasses).trans more passes

theorem midway_tellCommit (known : system.Known (.issued serial))
    (order : (system.dossier serial).InOrder True) (done : (system.dossier serial).Done)
    (noted : (system.dossier serial).Noted)
    (alive : (system.connection (.issued serial)).destroyed = false) :
    (tellCommit (.issued serial) (system.connection (.issued serial)).roundCommit).Ensures wiring
      (system.reviseConnection (.issued serial) fun _ =>
        (system.connection (.issued serial)).roundBegun) fun _ after =>
          after.Midway serial (system.dossier serial) ∧ (after.dossier serial).Done ∧
            (after.connection (.issued serial)).Fresh := by
  have unstarted : (system.connection (.issued serial)).teardownStarted = false := by
    refine Bool.eq_false_iff.mpr fun begun => ?_
    rw [show (system.connection (.issued serial)).destroyed = true from (done begun).1] at alive
    cases alive
  rw [tellCommit]
  refine ensures_shown order.watched known fun shown apart => ?_
  have dossier := (apart.dossier serial).trans (System.dossier_revise known Connection.seen)
  have here := (apart.known _).mpr ((system.known_reviseConnection _ _ _).mpr known)
  have sofar := order.roundBegun done alive
  have passes : (system.dossier serial).Passes (shown.dossier serial) := by
    rw [dossier]
    refine ⟨⟨fun past => ?_, id⟩, fun begun => ?_, id⟩
    · rw [show (system.connection (.issued serial)).teardownStarted = true from order.shown past]
        at unstarted
      cases unstarted
    · rw [show (system.connection (.issued serial)).teardownStarted = true from begun] at unstarted
      cases unstarted
  rw [← dossier] at sofar
  have call : shown.connection (.issued serial) = (system.connection (.issued serial)).seen :=
    congrArg Dossier.call dossier
  have annals : shown.annals serial = system.annals serial := congrArg Dossier.annals dossier
  rw [ensures_bind]
  refine (midway_changes heeds here sofar ?_ ?_ ?_).mono ?_
  · rw [call]
    rfl
  · rw [call]
    exact fun event among =>
      ⟨Published.not_final_of_mem_changes among, Published.tells_of_mem_changes among⟩
  · rw [call, annals]
    exact fun listener among => ⟨_, noted listener among, Published.foldl_hear_changes _ _⟩
  · rintro _ told ⟨midway, settles⟩
    have passes := passes.trans midway.passes
    split
    · rename_i ending
      have past : (system.connection (.issued serial)).derived.state = .disconnected := by
        simp_all [Connection.roundCommit]
      have begun : (shown.connection (.issued serial)).teardownStarted = true := by
        rw [call, Connection.seen, Connection.roundBegun, past]
        simp
      have untold : (told.annals serial).disconnections = 0 := by
        refine (settles.endToldOnce begun).trans ?_
        exact (congrArg Annals.disconnections annals).trans (order.unstarted unstarted)
      refine (reached_teardown heeds midway.known midway.order midway.busy
        (midway.passes.started begun) untold).mono ?_
      rintro _ after ⟨reached, once, gone⟩
      refine ⟨⟨reached.known, reached.order, passes.trans reached.leads.toPasses,
        reached.leads.publishing.trans midway.busy,
        reached.leads.still_noted midway.busy midway.noted⟩, fun _ => ⟨gone, once⟩, .inl gone⟩
    · rename_i lasting
      rw [ensures_pure]
      refine ⟨{ midway with passes }, settles.done fun begun => ?_, settles.fresh ?_⟩
      · have goes : (system.connection (.issued serial)).seen.teardownStarted = false := by
          simpa [Connection.seen, Connection.roundBegun, Connection.roundCommit,
            unstarted] using lasting
        rw [dossier] at begun
        rw [show (system.connection (.issued serial)).seen.teardownStarted = true
          from begun] at goes
        cases goes
      · rw [dossier]
        exact .inr (.inl rfl)

theorem rested_publish (rounds : Nat) (known : system.Known (.issued serial))
    (order : (system.dossier serial).InOrder True) (done : (system.dossier serial).Done)
    (noted : (system.dossier serial).Noted) :
    (publish (.issued serial) rounds).Ensures wiring system fun _ after =>
      after.Rested serial (system.dossier serial) := by
  induction rounds generalizing system with
  | zero => exact ensures_failure _
  | succ rounds ih =>
    refine ensures_publish_succ (fun why => ?_) fun alive => ?_
    · refine .of_round (.refl _) (fun _ => rfl) known order done noted (fun ended => ?_) ?_
      · rcases why with gone | ⟨-, started⟩
        · exact order.gone gone
        · exact started (Connection.derived_state_of_ended ended)
      · exact why.imp_right fun ⟨same, _⟩ => .inl same
    · refine (midway_tellCommit heeds known order done noted alive).mono
        fun _ told ⟨midway, finished, fresh⟩ => ?_
      have endToldOnce : (system.dossier serial).EndToldOnce (told.dossier serial) := by
        intro begun
        rw [show (system.connection (.issued serial)).destroyed = true from (done begun).1]
          at alive
        cases alive
      have order := midway.order.weaken
      rw [endRound, ensures_bind, ensures_look]
      split
      · rename_i last
        have final (again : (told.connection (.issued serial)).republish = true) :
            (told.connection (.issued serial)).destroyed = true := by
          simpa [again] using last
        rw [ensures_revise]
        refine .of_round midway.passes endToldOnce midway.known order finished midway.noted
          (fun ended => ?_) ?_
        · rcases midway.order.announced ended with begun | ⟨-, again⟩ | impossible
          · exact begun
          · exact midway.order.gone (final again)
          · exact impossible.elim
        · rcases fresh with gone | same | ⟨-, again⟩
          · exact .inl gone
          · exact .inr (.inl same)
          · exact .inl (final again)
      · refine (ih midway.known order finished midway.noted).mono fun _ after rested => ?_
        exact { rested with
          passes := midway.passes.trans rested.passes
          endToldOnce := endToldOnce.trans rested.endToldOnce midway.passes }

theorem reached_update (known : system.Known (.issued serial))
    (order : (system.dossier serial).InOrder True) :
    (update (.issued serial)).Ensures wiring system fun _ after =>
      after.Reached serial (fun _ => id) (system.dossier serial) ∧
        (system.dossier serial).Settles (after.dossier serial) ∧
          (after.connection (.issued serial)).Fresh := by
  rw [update, ensures_bind, ensures_look]
  split
  · rename_i busy
    have dossier := System.dossier_revise known ({ · with republish := true })
    have fresh : ((system.dossier serial).revise ({ · with republish := true })).call.Fresh :=
      .inr (.inr ⟨busy, rfl⟩)
    rw [ensures_revise]
    refine ⟨⟨(system.known_reviseConnection _ _ _).mpr known, ?_, ?_⟩, ?_, ?_⟩
    · rw [dossier]
      exact order.asked busy
    · rw [dossier]
      exact .of_passes ⟨⟨id, id⟩, id, id⟩ rfl (fun _ => rfl) rfl fun _ => rfl
    · rw [dossier]
      exact ⟨fun _ => rfl, id, fun _ => fresh⟩
    · rw [← dossier] at fresh
      exact fresh
  · rename_i idle
    have idle : (system.connection (.issued serial)).publishing = false :=
      Bool.eq_false_iff.mpr idle
    have dossier := System.dossier_revise known ({ · with publishing := true })
    have begun : (system.dossier serial).Passes
        ((system.dossier serial).revise ({ · with publishing := true })) := ⟨⟨id, id⟩, id, id⟩
    have order' := order.begun
    have done := order.done idle
    have noted := order.noted idle
    rw [ensures_bind, ensures_revise, ensures_bind, ensures_rounds]
    rw [← dossier] at begun order'
    refine (rested_publish heeds _ ((system.known_reviseConnection _ _ _).mpr known) order' ?_
      ?_).mono fun _ after rested => ?_
    · rw [dossier]
      exact done
    · rw [dossier]
      exact noted
    · have busy {claim : Prop} (busy : (system.dossier serial).call.publishing = true) : claim := by
        rw [show (system.dossier serial).call.publishing = false from idle] at busy
        cases busy
      have endToldOnce := rested.endToldOnce
      rw [dossier] at endToldOnce
      exact ⟨⟨rested.known, rested.order, {
          toPasses := begun.trans rested.passes
          publishing := rested.idle.trans idle.symm
          published := busy
          noted := busy }⟩,
        ⟨endToldOnce, fun _ => rested.order.done rested.idle, fun _ => rested.fresh⟩, rested.fresh⟩

theorem reached_setDisconnected (info : DisconnectInfo) (known : system.Known (.issued serial))
    (order : (system.dossier serial).InOrder False) :
    (setDisconnected (.issued serial) info).Ensures wiring system fun _ after =>
      after.Reached serial (fun _ => id) (system.dossier serial) ∧
        (system.dossier serial).Settles (after.dossier serial) ∧
          (after.connection (.issued serial)).ended.isSome = true := by
  rw [setDisconnected, ensures_bind, ensures_look]
  split
  · rename_i past
    rw [ensures_pure]
    exact ⟨⟨known, order, .refl _⟩, .refl _, past⟩
  · rename_i open'
    have ungiven : (system.connection (.issued serial)).ended = none := by simpa using open'
    have dossier :=
      System.dossier_revise known ({ · with ended := some info, presented := none })
    have given := order.given info ungiven
    have leads : (system.dossier serial).Leads (fun _ => id)
        ((system.dossier serial).revise ({ · with ended := some info, presented := none })) := by
      refine .of_passes ⟨⟨id, fun before => ?_⟩, id, id⟩ rfl (fun _ => rfl) rfl fun _ => rfl
      rw [show (system.dossier serial).call.ended = none from ungiven] at before
      cases before
    rw [ensures_bind, ensures_revise]
    rw [← dossier] at given leads
    refine (reached_update heeds ((system.known_reviseConnection _ _ _).mpr known) given).mono ?_
    rintro _ after ⟨reached, settles, fresh⟩
    have ended : (after.connection (.issued serial)).ended = some info := by
      refine reached.leads.keeps.ended ?_
      rw [dossier]
      rfl
    rw [dossier] at settles
    refine ⟨⟨reached.known, reached.order, leads.trans reached.leads⟩,
      ⟨settles.endToldOnce, settles.done, fun _ => fresh⟩, ?_⟩
    rw [ended]
    rfl

theorem reached_close_pending {before : Dossier}
    (reached : system.Reached serial (fun _ => id) before)
    (ended : (system.connection (.issued serial)).ended.isSome = true)
    (unstarted : (system.connection (.issued serial)).teardownStarted = false) :
    Ensures (do
      revise (.issued serial) ({ · with teardownStarted := true })
      teardown (.issued serial)) wiring system fun _ after =>
        after.Reached serial (fun _ => id) before ∧ before.Settles (after.dossier serial) := by
  have busy : (system.connection (.issued serial)).publishing = true := by
    rcases reached.order.announced ended with begun | ⟨busy, -⟩ | impossible
    · rw [show (system.connection (.issued serial)).teardownStarted = true from begun] at unstarted
      cases unstarted
    · exact busy
    · exact impossible.elim
  have dossier := System.dossier_revise reached.known ({ · with teardownStarted := true })
  have ending := reached.order.ending busy
  have call := system.connection_reviseConnection_known reached.known
    ({ · with teardownStarted := true })
  have leads : (system.dossier serial).Leads (fun _ => id)
      ((system.dossier serial).revise ({ · with teardownStarted := true })) :=
    .of_passes ⟨⟨id, id⟩, fun _ => rfl, id⟩ rfl (fun _ => rfl) rfl fun _ => rfl
  rw [← dossier] at ending leads
  rw [ensures_bind, ensures_revise]
  refine (reached_teardown heeds ((system.known_reviseConnection _ _ _).mpr reached.known) ending
    ?_ ?_ ?_).mono ?_
  · rw [call]
    exact busy
  · rw [call]
  · rw [show (system.reviseConnection (.issued serial) _).annals serial = system.annals serial from
      congrArg Dossier.annals dossier]
    exact reached.order.unstarted unstarted
  · rintro _ after ⟨last, once, gone⟩
    refine ⟨⟨last.known, last.order, reached.leads.trans (leads.trans last.leads)⟩,
      ⟨fun begun => ?_, fun _ _ => ⟨gone, once⟩, fun _ => .inl gone⟩⟩
    rw [show (system.connection (.issued serial)).teardownStarted = true from
      reached.leads.started begun] at unstarted
    cases unstarted

theorem reached_close_begun {before : Dossier}
    (reached : system.Reached serial (fun _ => id) before)
    (settles : before.Settles (system.dossier serial))
    (begun : (system.connection (.issued serial)).teardownStarted = true) :
    Ensures (do
      unbind (.issued serial)
      destroy (.issued serial)) wiring system fun _ after =>
        after.Reached serial (fun _ => id) before ∧ before.Settles (after.dossier serial) := by
  rw [ensures_bind]
  refine (reached_unbind reached.known reached.order).mono ?_
  rintro _ free ⟨more, loose⟩
  have started := more.leads.started begun
  have busy : (free.connection (.issued serial)).publishing = true ∨
      (free.connection (.issued serial)).destroyed = true := by
    cases telling : (free.connection (.issued serial)).publishing with
    | true => exact .inl rfl
    | false => exact .inr (more.order.done telling started).1
  refine (reached_destroy heeds more.known more.order started busy).mono ?_
  rintro _ after ⟨last, endToldOnce, gone⟩
  refine ⟨(reached.trans more).trans last, ?_, fun done _ => ⟨gone, ?_⟩, fun _ => .inl gone⟩
  · exact (settles.endToldOnce.trans loose.endToldOnce reached.leads.toPasses).trans endToldOnce
      (reached.leads.trans more.leads).toPasses
  · exact (endToldOnce started).trans ((loose.endToldOnce begun).trans (settles.done done begun).2)

theorem reached_close (known : system.Known (.issued serial))
    (order : (system.dossier serial).InOrder False) :
    (close (.issued serial)).Ensures wiring system fun _ after =>
      after.Reached serial (fun _ => id) (system.dossier serial) ∧
        (system.dossier serial).Settles (after.dossier serial) := by
  have rest {now : System Diary}
    (reached : now.Reached serial (fun _ => id) (system.dossier serial))
      (settles : (system.dossier serial).Settles (now.dossier serial))
      (past : (now.connection (.issued serial)).ended.isSome = true ∨
        (now.connection (.issued serial)).published.state = .disconnected) :
      (wrapUp (.issued serial)).Ensures wiring now fun _ after =>
        after.Reached serial (fun _ => id) (system.dossier serial) ∧
          (system.dossier serial).Settles (after.dossier serial) := by
    rw [wrapUp, ensures_bind, ensures_look]
    split
    · rename_i pending
      simp only [Bool.and_eq_true, Bool.not_eq_true'] at pending
      exact reached_close_pending heeds reached pending.1.1 pending.1.2
    · rename_i idle
      refine reached_close_begun heeds reached settles ?_
      rcases past with ended | shown
      · refine Decidable.byContradiction fun unstarted => ?_
        have unstarted := Bool.eq_false_iff.mpr unstarted
        have alive : (now.connection (.issued serial)).destroyed = false := by
          refine Bool.eq_false_iff.mpr fun gone => ?_
          rw [show (now.connection (.issued serial)).teardownStarted = true from
            reached.order.gone gone] at unstarted
          cases unstarted
        simp [ended, unstarted, alive] at idle
      · exact reached.order.shown shown
  rw [close_eq, ensures_bind, ensures_look]
  split
  · rw [ensures_bind]
    refine (reached_setDisconnected heeds _ known order).mono ?_
    rintro _ now ⟨reached, settles, ended⟩
    exact rest reached settles (.inl ended)
  · rename_i dead
    refine rest ⟨known, order, .refl _⟩ (.refl _) (.inr ?_)
    simpa [CallState.isLive] using dead

end
end Act
end Switchboard
