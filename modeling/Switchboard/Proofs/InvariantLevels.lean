import Switchboard.Proofs.InvariantUpdates

/-! The invariant at every depth of listening. Where telling keeps the invariant of a connection,
every step does, and so telling keeps it one level up: by induction it holds however deep listeners
call each other. -/

namespace Switchboard

namespace Act

variable {serial : Nat} {wiring : Wiring Diary} {system : System Diary}

theorem ensures_update_strange {goal : Unit → System Diary → Prop} {id : ConnectionId}
    (strange : ¬ system.Known id) (same : goal () system) :
    (update id).Ensures wiring system goal := by
  have absent := system.connection_of_not_known strange
  rw [update, ensures_bind, ensures_look, absent]
  split
  · rename_i telling
    cases telling
  · rw [ensures_bind, ensures_revise, System.reviseConnection_of_not_known _ strange, ensures_bind,
      ensures_rounds]
    cases wiring.rounds with
    | zero => exact ensures_failure _
    | succ rounds =>
      rw [publish_succ, ensures_bind, ensures_commit,
        System.reviseConnection_of_not_known _ strange,
        absent]
      exact (ensures_pure _ _).mpr same

theorem ensures_setDisconnected_strange {goal : Unit → System Diary → Prop} {id : ConnectionId}
    {info : DisconnectInfo} (strange : ¬ system.Known id) (same : goal () system) :
    (setDisconnected id info).Ensures wiring system goal := by
  rw [setDisconnected, ensures_bind, ensures_look, system.connection_of_not_known strange]
  exact (ensures_pure _ _).mpr same

theorem ensures_close_strange {goal : Unit → System Diary → Prop} {id : ConnectionId}
    (strange : ¬ system.Known id) (same : goal () system) :
    (close id).Ensures wiring system goal := by
  have absent := system.connection_of_not_known strange
  have destroys : (destroy id).Ensures wiring system goal := by
    rw [destroy, ensures_bind, ensures_look, absent]
    exact (ensures_pure _ _).mpr same
  have rest : (wrapUp id).Ensures wiring system goal := by
    rw [wrapUp, ensures_bind, ensures_look, absent]
    change (do unbind id; destroy id).Ensures wiring system goal
    rw [ensures_bind, ensures_unbind, System.reviseConnection_of_not_known _ strange, absent]
    exact destroys
  rw [close_eq, ensures_bind, ensures_look, absent]
  exact rest

section
variable (heeds : wiring.Heeds serial)
include heeds

theorem connectionInOrder_update :
    (update (.issued serial)).Obeys (connectionInOrder serial) wiring := by
  intro system holds
  by_cases known : system.Known (.issued serial)
  · exact (reached_update heeds known (holds.order known).weaken).mono
      fun _ after ⟨reached, settles, _⟩ => reached.lawful known settles
  · exact ensures_update_strange known ⟨holds, .refl serial system⟩

theorem connectionInOrder_handles : (connectionInOrder serial).Handles wiring (.issued serial) where
  legOnly {change} legOnly := by
    intro system holds
    rw [ensures_revise]
    by_cases known : system.Known (.issued serial)
    · obtain ⟨reached, dossier⟩ :=
        reached_keepsLifecycle legOnly.keepsConference.toKeepsLifecycle ⟨rfl, rfl⟩ known
          (holds.order known)
      refine reached.lawful known ?_
      rw [dossier]
      exact .keepsLifecycle legOnly.keepsConference.toKeepsLifecycle legOnly.fresh
    · rw [System.reviseConnection_of_not_known _ known]
      exact ⟨holds, .refl serial system⟩
  notify {event} mute lasting := by
    intro system holds
    by_cases known : system.Known (.issued serial)
    · exact (reached_mute heeds mute lasting known (holds.order known)).mono
        fun _ after ⟨reached, settles⟩ => reached.lawful known settles
    · exact heeds.strange known holds lasting
  publish {change between} keepsLifecycle obeys := by
    intro system holds
    rw [ensures_bind, ensures_revise]
    by_cases known : system.Known (.issued serial)
    · obtain ⟨reached, dossier⟩ :=
        reached_keepsLifecycle keepsLifecycle ⟨rfl, rfl⟩ known (holds.order known)
      have callInOrder :
          (connectionInOrder serial).holds (system.reviseConnection (.issued serial) change) :=
        ⟨fun _ => reached.order, fun strange => absurd reached.known strange⟩
      refine obeys.thenEnsures callInOrder fun _ middle fine succeeds => ?_
      have here := succeeds.known reached.known
      have settled := succeeds.settles reached.known
      have endToldOnce : (system.dossier serial).EndToldOnce
          ((system.reviseConnection (.issued serial) change).dossier serial) := by
        rw [dossier]
        exact fun _ => rfl
      have finished (done : (system.dossier serial).Done) :
          ((system.reviseConnection (.issued serial) change).dossier serial).Done := by
        rw [dossier]
        exact done.keepsLifecycle keepsLifecycle
      refine (reached_update heeds here (fine.order here).weaken).mono
        fun _ after ⟨last, settles, fresh⟩ => ?_
      have sofar := reached.leads.trans (succeeds.leads reached.known)
      exact System.Reached.lawful ⟨last.known, last.order, sofar.trans last.leads⟩ known
        ⟨(endToldOnce.trans settled.endToldOnce reached.leads.toPasses).trans settles.endToldOnce
          sofar.toPasses, settles.done ∘ settled.done ∘ finished, fun _ => fresh⟩
    · rw [System.reviseConnection_of_not_known _ known]
      exact obeys.bind (fun _ => connectionInOrder_update heeds) system holds
  disconnect info := by
    intro system holds
    by_cases known : system.Known (.issued serial)
    · exact (reached_setDisconnected heeds info known (holds.order known)).mono
        fun _ after ⟨reached, settles, _⟩ => reached.lawful known settles
    · exact ensures_setDisconnected_strange known ⟨holds, .refl serial system⟩
  close := by
    intro system holds
    by_cases known : system.Known (.issued serial)
    · exact (reached_close heeds known (holds.order known)).mono
        fun _ after ⟨reached, settles⟩ => reached.lawful known settles
    · exact ensures_close_strange known ⟨holds, .refl serial system⟩

end

theorem connectionInOrder_glance : glance.Obeys (connectionInOrder serial) wiring := by
  intro system holds
  rw [ensures_glance]
  by_cases known : system.Known (.issued serial)
  · have dossier := System.dossier_view known
    refine System.Reached.lawful ⟨(System.known_withEntry _ _).mpr known, ?_, ?_⟩ known ?_
    · rw [dossier]
      exact (holds.order known).seen
    · rw [dossier]
      exact .of_passes ⟨.refl _, id, id⟩ rfl (fun _ => rfl) rfl fun _ => rfl
    · rw [dossier]
      exact ⟨fun _ => rfl, id, id⟩
  · refine ⟨⟨fun here => absurd here known, fun _ => ?_⟩, fun here => absurd here known,
      fun here => absurd here known, fun here => absurd here known, fun _ here => absurd here known⟩
    rw [System.annals_view_of_not_known known]
    exact holds.blank known

theorem connectionInOrder_create (params : CallParameters) :
    (create params).Obeys (connectionInOrder serial) wiring := by
  intro system holds
  simp only [create, ensures_bind, ensures_get, ensures_modify, ensures_pure]
  by_cases here : serial = system.connections.length
  · have strange : ¬ system.Known (.issued serial) := by
      simp [System.Known, here]
    have dossier : ({ system with connections := system.connections ++ [.create params] } :
        System Diary).dossier serial = ⟨.create params, system.annals serial⟩ := by
      rw [System.dossier, System.connection_append, if_pos (congrArg _ here)]
      rfl
    obtain ⟨order, done, fresh⟩ := Dossier.InOrder.created (holds.blank strange) params
    rw [← dossier] at order done
    refine ⟨⟨fun _ => order, fun still => absurd ?_ still⟩, ⟨fun known => absurd known strange,
      fun known => absurd known strange, fun known => absurd known strange, fun _ _ =>
        ⟨done, ?_, ?_⟩⟩⟩
    · simp [System.Known, here]
    · rw [System.connection_append, if_pos (congrArg _ here)]
      exact fresh
    · rw [System.connection_append, if_pos (congrArg _ here)]
      rfl
  · refine connectionInOrder_elsewhere ?_ ?_ holds
    · simp only [System.Known, List.length_append, List.length_cons, List.length_nil]
      omega
    · rw [System.dossier, System.connection_append, if_neg fun same => here (by simpa using same)]
      rfl

theorem connectionInOrder_item {id : ConnectionId} (differ : id ≠ .issued serial)
    (moment : Moment) :
    (enterDiary (.item id moment)).Obeys (connectionInOrder serial) wiring := by
  intro system holds
  rw [ensures_enterDiary]
  exact connectionInOrder_elsewhere (System.known_withEntry _ _)
    (System.dossier_item_other differ moment) holds

theorem connectionInOrder_revise_other {id : ConnectionId} (differ : id ≠ .issued serial)
    (change : Connection → Connection) :
      (revise id change).Obeys (connectionInOrder serial) wiring := by
  intro system holds
  rw [ensures_revise]
  exact connectionInOrder_elsewhere (system.known_reviseConnection _ _ _)
    (System.dossier_revise_other differ change) holds

theorem blank_item {moment : Moment} (strange : ¬ system.Known (.issued serial))
    (blank : Annals.Blank (moment :: system.annals serial)) :
    (connectionInOrder serial).holds (system.withEntry (.item (.issued serial) moment)) ∧
      (connectionInOrder serial).leads system (system.withEntry (.item (.issued serial) moment)) :=
        by
  refine ⟨⟨fun here => absurd here strange, fun _ => ?_⟩, fun here => absurd here strange,
    fun here => absurd here strange, fun here => absurd here strange,
    fun _ here => absurd here strange⟩
  rw [show (system.withEntry (.item (.issued serial) moment)).annals serial = _ from
    congrArg Dossier.annals (System.dossier_item moment)]
  exact blank

theorem reached_item {moment : Moment} {change : Connection → Connection}
    (known : system.Known (.issued serial))
    (order : (((system.dossier serial).note moment).revise change).InOrder False)
    (leads : (system.dossier serial).Leads (fun _ => id)
      (((system.dossier serial).note moment).revise change))
    (settles : (system.dossier serial).Settles
      (((system.dossier serial).note moment).revise change)) :
    (connectionInOrder serial).holds
      ((system.withEntry (.item (.issued serial) moment)).reviseConnection
      (.issued serial) change) ∧ (connectionInOrder serial).leads system
        ((system.withEntry (.item (.issued serial) moment)).reviseConnection
          (.issued serial) change) := by
  have here := (System.known_withEntry (.item (.issued serial) moment) (.issued serial)).mpr known
  have dossier := (System.dossier_revise here change).trans
    (congrArg (·.revise change) (System.dossier_item moment))
  rw [← dossier] at order leads settles
  exact System.Reached.lawful ⟨(System.known_reviseConnection _ _ _ _).mpr here, order, leads⟩
    known settles

theorem ensures_addListener (id : ConnectionId) (listener : Listener)
    (goal : Unit → System Diary → Prop) :
    (Move.addListener id listener).act.Ensures wiring system goal ↔
      if (system.connection id).listeners.contains listener then goal () system
      else goal () (system.reviseConnection id fun call =>
        { call with listeners := call.listeners ++ [listener] }) := by
  rw [Move.act, addListener, ensures_bind, ensures_bind, ensures_look]
  split
  · simp only [ensures_pure]
  · simp only [ensures_bind, ensures_revise, ensures_pure]

theorem connectionInOrder_addListener (id : ConnectionId) (listener : Listener) :
    (Move.addListener id listener).kept.Obeys (connectionInOrder serial) wiring := by
  rw [Move.kept, Move.record, bind_assoc]
  refine .bind connectionInOrder_glance fun _ => ?_
  by_cases same : id = .issued serial
  · intro system holds
    rw [same, bind_assoc, ensures_bind, ensures_get]
    dsimp only
    split
    · rename_i comes
      obtain ⟨known, new⟩ := comes
      have still : (system.withEntry (.item (.issued serial) (.joined listener
          (system.connection (.issued serial)).published))).connection (.issued serial) =
            system.connection (.issued serial) := rfl
      rw [ensures_bind, ensures_enterDiary, ensures_addListener, still,
        if_neg fun there => new (List.contains_iff_mem.mp there)]
      exact reached_item known ((holds.order known).joining new) (.joining _ _) (.joining _ _)
    · rename_i stays
      rw [ensures_bind, ensures_pure, ensures_addListener]
      split
      · exact ⟨holds, .refl serial system⟩
      · rename_i new
        rw [System.reviseConnection_of_not_known _ fun known =>
          stays ⟨known, fun there => new (List.contains_iff_mem.mpr there)⟩]
        exact ⟨holds, .refl serial system⟩
  · refine .bind (.bind .get fun now => ?_) fun _ => ?_
    · dsimp only
      split
      · exact connectionInOrder_item same _
      · exact .pure _
    · refine .bind (.bind (.look id) fun call => ?_) fun _ => .pure _
      split
      · exact .pure _
      · exact .bind (connectionInOrder_revise_other same _) fun _ => .pure _

theorem connectionInOrder_removeListener (id : ConnectionId) (listener : Listener) :
    (Move.removeListener id listener).kept.Obeys (connectionInOrder serial) wiring := by
  rw [Move.kept, Move.record, bind_assoc]
  refine .bind connectionInOrder_glance fun _ => ?_
  by_cases same : id = .issued serial
  · intro system holds
    rw [same, ensures_bind, ensures_enterDiary, Move.act, removeListener,
      ensures_bind, ensures_bind,
      ensures_look, ensures_bind, ensures_revise, ensures_pure, ensures_pure]
    by_cases known : system.Known (.issued serial)
    · exact reached_item known ((holds.order known).leaving listener) (.leaving _ _) (.leaving _ _)
    · rw [System.reviseConnection_of_not_known _ fun here =>
        known ((System.known_withEntry _ _).mp here)]
      refine blank_item known fun moment among => ?_
      rcases List.mem_cons.mp among with rfl | old
      · trivial
      · exact holds.blank known moment old
  · refine .bind (connectionInOrder_item same _) fun _ => .bind (.bind (.look id) fun call => ?_)
      fun _ => .pure _
    exact .bind (connectionInOrder_revise_other same _) fun _ => .pure _

end Act

theorem Wiring.Heeds.governs {serial : Nat} {wiring : Wiring Diary} (heeds : wiring.Heeds serial) :
    (connectionInOrder serial).Governs wiring where
  apart := Act.connectionInOrder_apart
  handles id := by
    by_cases same : id = .issued serial
    · rw [same]
      exact Act.connectionInOrder_handles heeds
    · exact Law.handles_of_keepsEnd Act.connectionInOrder_apart
        (fun _ => Act.connectionInOrder_revise_other same _)
        (heeds.other same)
  glance := Act.connectionInOrder_glance
  create := Act.connectionInOrder_create
  addListener := Act.connectionInOrder_addListener
  removeListener := Act.connectionInOrder_removeListener
  bridged := heeds.bridged

namespace Wiring

variable {serial : Nat} {hear : String → ConnectionId → ConnectionEvent → Habit Diary}
  {bridged : Habit Diary} {wiring : Wiring Diary}

theorem heeds_zero (bystanders : Bystanders Diary) : (kept bystanders 0).Heeds serial where
  notify _ _ _ := by
    rw [Act.ensures_notify, Act.ensures_tell]
    intro after run
    cases run
  strange _ _ _ := by
    rw [Act.ensures_notify, Act.ensures_tell]
    intro after run
    cases run
  other _ _ := by
    intro system _
    rw [Act.ensures_notify, Act.ensures_tell]
    intro after run
    cases run
  bridged := by
    intro _ _ _ _ run
    cases run

theorem ensures_notify_kept (bystanders : Bystanders Diary) (rounds : Nat) {system : System Diary}
    (id : ConnectionId) (event : ConnectionEvent) (goal : Unit → System Diary → Prop) :
    (Act.notify id event).Ensures (kept bystanders (rounds + 1)) system goal ↔
      (bystanders.telling (system.connection id).listeners id event).Ensures
        (kept bystanders rounds) system goal := by
  rw [Act.ensures_notify, Act.ensures_tell]
  exact ⟨fun holds _ after run => holds after run, fun holds after run => holds () after run⟩

section
variable {bystanders : Bystanders Diary} {id : ConnectionId} {event : ConnectionEvent}
  (obeys : ∀ listener,
    (bystanders.tellOne id event listener).Obeys (connectionInOrder serial) wiring)
include obeys

theorem connectionInOrder_turn (differ : id ≠ .issued serial) (listener : Listener) :
    (bystanders.turn id event listener).Obeys (connectionInOrder serial) wiring :=
  .bind Act.connectionInOrder_glance fun _ => .bind (Act.connectionInOrder_item differ _) fun _ =>
    obeys listener

theorem connectionInOrder_telling (differ : id ≠ .issued serial) (listeners : List Listener) :
    (bystanders.telling listeners id event).Obeys (connectionInOrder serial) wiring :=
  .bind (.look id) fun _ => .bind (Act.connectionInOrder_item differ _) fun _ =>
    .forM listeners fun listener _ => connectionInOrder_turn obeys differ listener

end

section
variable {bystanders : Bystanders Diary} {event : ConnectionEvent} {system : System Diary}
  (obeys : ∀ listener,
    (bystanders.tellOne (.issued serial) event listener).Obeys (connectionInOrder serial) wiring)
include obeys

theorem reached_turn (listener : Listener) (known : system.Known (.issued serial))
    (order : (system.dossier serial).InOrder False)
    (suits : event.Suits (system.connection (.issued serial))) :
    (bystanders.turn (.issued serial) event listener).Ensures wiring system fun _ after =>
      after.Reached serial (fun other record =>
        if other = listener then record.hear event else record) (system.dossier serial) ∧
      (system.dossier serial).Settles (after.dossier serial) := by
  let looked := system.withEntry (.view system.connections)
  let heard := looked.withEntry (.item (.issued serial) (.heard listener event))
  have here : heard.Known (.issued serial) :=
    (System.known_withEntry _ _).mpr ((System.known_withEntry _ _).mpr known)
  have dossier : heard.dossier serial = ((system.dossier serial).note (.seen
      (system.connection (.issued serial)))).note (.heard listener event) := by
    rw [System.dossier_item, System.dossier_view known]
  have sofar : (heard.dossier serial).InOrder False := by
    rw [dossier]
    exact order.seen.hearing listener suits
  have leads : (system.dossier serial).Leads (fun other record =>
      if other = listener then record.hear event else record) (heard.dossier serial) := by
    rw [dossier]
    exact { Dossier.Leads.hearing (system.dossier serial) listener event with }
  rw [Bystanders.turn, Act.ensures_bind, Act.ensures_glance, Act.ensures_bind,
    Act.ensures_enterDiary]
  have holds : (connectionInOrder serial).holds heard :=
    ⟨fun _ => sofar, fun strange => absurd here strange⟩
  refine (obeys listener heard holds).mono fun _ after ⟨fine, succeeds⟩ => ?_
  have known := succeeds.known here
  refine ⟨⟨known, fine.order known, leads.trans_hearing (succeeds.leads here) fun _ _ => rfl⟩, ?_⟩
  have settles := succeeds.settles here
  rw [dossier] at settles
  exact ⟨settles.endToldOnce, settles.done, settles.fresh⟩

theorem reached_turns (listeners : List Listener) (known : system.Known (.issued serial))
    (order : (system.dossier serial).InOrder False)
    (suits : event.Suits (system.connection (.issued serial))) :
    (listeners.forM (bystanders.turn (.issued serial) event)).Ensures wiring system fun _ after =>
      after.Reached serial (fun other record =>
        if other ∈ listeners then record.hear event else record) (system.dossier serial) ∧
      (system.dossier serial).Settles (after.dossier serial) := by
  induction listeners generalizing system with
  | nil =>
    rw [List.forM, Act.ensures_pure]
    refine ⟨⟨known, order, ?_⟩, .refl _⟩
    simp only [List.not_mem_nil, if_false]
    exact Dossier.Leads.refl _
  | cons listener rest ih =>
    rw [List.forM, Act.ensures_bind]
    refine (reached_turn obeys listener known order suits).mono ?_
    rintro _ told ⟨reached, settles⟩
    have still : event.Suits (told.connection (.issued serial)) := by
      refine suits.imp_right ?_
      rintro ⟨busy, tells⟩
      refine ⟨reached.leads.publishing.trans busy, ?_⟩
      have same : (told.connection (.issued serial)).published =
          (system.connection (.issued serial)).published := reached.leads.published busy
      rw [same]
      exact tells
    have nothing : (system.dossier serial).call.publishing = true → ∀ other : Listener,
        (if other ∈ rest then (system.dossier serial).call.published.hear event
          else (system.dossier serial).call.published) =
            (system.dossier serial).call.published := by
      intro busy other
      have tells : (system.dossier serial).call.published.hear event =
          (system.dossier serial).call.published := suits.elim (· _) And.right
      rw [tells, ite_self]
    refine (ih reached.known reached.order still).mono ?_
    rintro _ after ⟨more, last⟩
    refine ⟨⟨more.known, more.order, ?_⟩, settles.trans last reached.leads.toPasses⟩
    have leads := reached.leads.trans_hearing more.leads nothing
    have same : (fun (other : Listener) (record : Published) =>
        if other ∈ listener :: rest then record.hear event else record) = fun other record =>
          if other ∈ rest then
            (if other = listener then record.hear event else record).hear event
          else if other = listener then record.hear event else record := by
      funext other record
      by_cases first : other = listener <;> by_cases later : other ∈ rest <;>
        simp [first, later, Published.hear_hear]
    rw [same]
    exact leads

end

theorem heeds_succ {rounds : Nat} (heeds : (kept (.diarists hear bridged) rounds).Heeds serial) :
    (kept (.diarists hear bridged) (rounds + 1)).Heeds serial := by
  have abide := heeds.governs.abide hear bridged
  have obeys (id : ConnectionId) (event : ConnectionEvent) (listener : Listener) :
      ((Bystanders.diarists hear bridged).tellOne id event listener).Obeys
        (connectionInOrder serial)
        (kept (.diarists hear bridged) rounds) := obeys_tellOne abide id trivial listener
  refine ⟨fun {event system} known order suits => ?_,
    fun {event system} strange holds lasting => ?_,
    fun {id} differ event => ?_, ?_⟩
  · let told := system.withEntry (.item (.issued serial) (.told event
      (system.connection (.issued serial)).listeners (system.connection (.issued serial))))
    have dossier : told.dossier serial = (system.dossier serial).telling event :=
      System.dossier_item _
    rw [← dossier] at order ⊢
    rw [ensures_notify_kept, Bystanders.telling, Act.ensures_bind, Act.ensures_look,
      Act.ensures_bind, Act.ensures_enterDiary]
    exact reached_turns (obeys _ event) _ ((System.known_withEntry _ _).mpr known) order suits
  · rw [ensures_notify_kept, Bystanders.telling, Act.ensures_bind, Act.ensures_look,
      Act.ensures_bind, Act.ensures_enterDiary, system.connection_of_not_known strange,
      show Connection.absent.listeners = [] from rfl, List.forM, Act.ensures_pure]
    refine Act.blank_item strange fun moment among => ?_
    rcases List.mem_cons.mp among with rfl | old
    · exact ⟨lasting, rfl⟩
    · exact holds.blank strange moment old
  · intro system holds
    rw [ensures_notify_kept]
    exact connectionInOrder_telling (obeys id event) differ _ system holds
  · intro system holds value after run
    exact abide.bridged system holds value after run

theorem heeds_kept (rounds : Nat) : (kept (.diarists hear bridged) rounds).Heeds serial := by
  induction rounds with
  | zero => exact heeds_zero _
  | succ rounds ih => exact heeds_succ ih

end Wiring

namespace Move

variable {serial : Nat} {hear : String → ConnectionId → ConnectionEvent → Habit Diary}
  {bridged : Habit Diary} {rounds : Nat} {moves : List Move} {start after : System Diary}

theorem connectionInOrder_run (fresh : start.connections = []) (unwritten : start.outside = [])
    (runs : keptRun (.diarists hear bridged) rounds moves start = some after) :
    (connectionInOrder serial).holds after ∧ (connectionInOrder serial).leads start after := by
  have strange : ¬ start.Known (.issued serial) := by
    simp [System.Known, fresh]
  have holds : (connectionInOrder serial).holds start := by
    refine ⟨fun here => absurd here strange, fun _ => ?_⟩
    rw [System.annals, unwritten]
    exact Annals.blank_nil
  exact (Wiring.heeds_kept rounds).governs.run holds runs

theorem inOrder_run (fresh : start.connections = []) (unwritten : start.outside = [])
    (runs : keptRun (.diarists hear bridged) rounds moves start = some after)
    (known : after.Known (.issued serial)) :
    (after.dossier serial).InOrder False ∧ (after.dossier serial).Done ∧
      (after.connection (.issued serial)).Fresh ∧
        (after.connection (.issued serial)).publishing = false := by
  obtain ⟨callInOrder, succeeds⟩ :=
    (connectionInOrder_run fresh unwritten runs : (connectionInOrder serial).holds after ∧ _)
  refine ⟨callInOrder.order known, succeeds.new ?_ known⟩
  simp [System.Known, fresh]

theorem known_of_stays (fresh : start.connections = []) (unwritten : start.outside = [])
    (runs : keptRun (.diarists hear bridged) rounds moves start = some after)
    {listener : Listener} (stays : (after.annals serial).Stays listener) :
    after.Known (.issued serial) :=
  Decidable.byContradiction fun strange =>
    ((connectionInOrder_run fresh unwritten runs).1.blank strange).not_stays stays

end Move
end Switchboard
