import Switchboard.Proofs.ConnectionLaws
import Switchboard.Proofs.Recalculation

/-! Updates that only observers hear. Where nobody but observers listens, telling of an event
changes nothing that counts, and an update is a single round: `Connection.updated` is what becomes
of the connection, and all others stay as they are. So memberships can be entered there
(`Wiring.seats_observed`). -/

namespace Switchboard

namespace Connection

def seenAs (watched : CallState) (call : Connection) : Connection :=
  { call with watched }

def delivered (call : Connection) : Connection :=
  if call.isEnding then { call.committed.tornDown with conference := none } else call.committed

def updated (call : Connection) : Connection :=
  if call.destroyed then call.rested else call.delivered.rested

theorem updated_of_lasting {call : Connection} (lasting : call.isEnding = false) :
    call.updated = if call.destroyed then call.rested else call.committed.rested := by
  rw [updated, delivered, lasting]
  rfl

theorem published_updated {call : Connection} (alive : call.updated.destroyed = false) :
    call.updated.published = call.updated.derived := by
  unfold updated at alive ⊢
  split at alive
  · rename_i gone
    exact absurd gone (by simpa [rested] using alive)
  · rename_i going
    rw [if_neg going]
    unfold delivered at alive ⊢
    split at alive
    · cases alive
    · rename_i lasting
      rw [if_neg lasting]
      rfl

end Connection

namespace System

variable {ε : Type} {before middle after now : System ε} {id : ConnectionId}
  {call last : Connection}

def ToldObservers (before after : System ε) : Prop :=
  ∃ (news : List Entry) (outside : ε), news.countP Entry.isRecount = 0 ∧
    after = { before with journal := news ++ before.journal, outside }

theorem ToldObservers.refl (system : System ε) : system.ToldObservers system :=
  ⟨[], system.outside, rfl, rfl⟩

theorem ToldObservers.trans (first : before.ToldObservers middle)
    (second : middle.ToldObservers after) :
    before.ToldObservers after := by
  obtain ⟨older, _, none, rfl⟩ := first
  obtain ⟨newer, outside, none', rfl⟩ := second
  exact ⟨newer ++ older, outside, by rw [List.countP_append, none, none'], by simp⟩

structure Becomes (before : System ε) (id : ConnectionId) (call : Connection)
    (after : System ε) : Prop where
  count : after.connections.length = before.connections.length
  others {other : ConnectionId} : other ≠ id → after.connection other = before.connection other
  own : before.Known id → after.connection id = call
  desk : after.desk = before.desk
  tracked : after.tracked = before.tracked
  conferences : after.conferences = before.conferences
  listed : after.registry.connections = before.registry.connections
  unheard : after.recounts = before.recounts

namespace Becomes

theorem known (becomes : before.Becomes id call after) (other : ConnectionId) :
    after.Known other ↔ before.Known other :=
  known_congr becomes.count other

theorem trans (first : before.Becomes id call middle) (second : middle.Becomes id last after) :
    before.Becomes id last after where
  count := second.count.trans first.count
  others differ := (second.others differ).trans (first.others differ)
  own known := second.own ((first.known id).mpr known)
  desk := second.desk.trans first.desk
  tracked := second.tracked.trans first.tracked
  conferences := second.conferences.trans first.conferences
  listed := second.listed.trans first.listed
  unheard := second.unheard.trans first.unheard

theorem of_same (id : ConnectionId) (connections : after.connections = before.connections)
    (desk : after.desk = before.desk) (tracked : after.tracked = before.tracked)
    (conferences : after.conferences = before.conferences)
    (listed : after.registry.connections = before.registry.connections)
    (unheard : after.recounts = before.recounts) :
    before.Becomes id (before.connection id) after := by
  have same (other : ConnectionId) : after.connection other = before.connection other :=
    connection_congr connections other
  exact ⟨by rw [connections], fun _ => same _, fun _ => same id, desk, tracked, conferences, listed,
    unheard⟩

theorem refl (system : System ε) (id : ConnectionId) :
    system.Becomes id (system.connection id) system :=
  of_same id rfl rfl rfl rfl rfl rfl

theorem revise (becomes : before.Becomes id call now) (change : Connection → Connection) :
    before.Becomes id (change call) (now.reviseConnection id change) where
  count := (now.reviseConnection_count id change).trans becomes.count
  others differ := by
    rw [now.connection_reviseConnection_other differ]
    exact becomes.others differ
  own known := by
    rw [now.connection_reviseConnection_known ((becomes.known id).mpr known), becomes.own known]
  desk := Eq.trans (by cases id <;> rfl) becomes.desk
  tracked := Eq.trans (by cases id <;> rfl) becomes.tracked
  conferences := Eq.trans (by cases id <;> rfl) becomes.conferences
  listed := by
    rw [now.reviseConnection_registry]
    exact becomes.listed
  unheard := Eq.trans (by simp [recounts]) becomes.unheard

theorem aside (becomes : before.Becomes id call now)
    (connections : after.connections = now.connections)
    (desk : after.desk = now.desk) (tracked : after.tracked = now.tracked)
    (conferences : after.conferences = now.conferences)
    (listed : after.registry.connections = now.registry.connections)
    (unheard : after.recounts = now.recounts) : before.Becomes id call after where
  count := (congrArg List.length connections).trans becomes.count
  others differ := ((of_same id connections desk tracked conferences listed unheard).others
    differ).trans (becomes.others differ)
  own known := ((of_same id connections desk tracked conferences listed unheard).own
    ((becomes.known id).mpr known)).trans (becomes.own known)
  desk := desk.trans becomes.desk
  tracked := tracked.trans becomes.tracked
  conferences := conferences.trans becomes.conferences
  listed := listed.trans becomes.listed
  unheard := unheard.trans becomes.unheard

theorem heard (becomes : before.Becomes id call now) (heard : now.ToldObservers after) :
    before.Becomes id call after := by
  obtain ⟨news, outside, plain, rfl⟩ := heard
  exact becomes.aside rfl rfl rfl rfl rfl (by simp [recounts, plain])

theorem release (becomes : before.Becomes id call now) (leg : Option LegId) :
    before.Becomes id call (now.release leg) := by
  cases leg <;> exact becomes.aside rfl rfl rfl rfl rfl rfl

theorem alone (becomes : before.Becomes id call now) (alone : .exchange ∉ call.listeners) :
    .exchange ∉ (now.connection id).listeners := by
  by_cases known : before.Known id
  · rw [becomes.own known]
    exact alone
  · rw [now.connection_of_not_known fun here => known ((becomes.known id).mp here)]
    exact List.not_mem_nil

theorem each (becomes : before.Becomes id call after) (goal : ConnectionId → Connection → Prop)
    (here : before.Known id → goal id call)
    (there : ∀ other, goal other (before.connection other)) (other : ConnectionId) :
    goal other (after.connection other) := by
  by_cases own : other = id
  · subst own
    by_cases known : before.Known other
    · rw [becomes.own known]
      exact here known
    · rw [after.connection_of_not_known fun now => known ((becomes.known _).mp now),
        ← before.connection_of_not_known known]
      exact there other
  · rw [becomes.others own]
    exact there other

theorem membershipsOnly (becomes : before.Becomes id call after)
    (essence : ∀ id, (after.connection id).essence = (before.connection id).essence)
    (near : call.Near) : before.MembershipsOnly after where
  count := becomes.count
  essence := essence
  near := becomes.each (fun id call => (before.connection id).Near → call.Near) (fun _ _ => near)
    fun _ near => near
  listed := becomes.listed
  recounts := Nat.le_of_eq becomes.unheard.symm
  desk := becomes.desk
  tracked := becomes.tracked
  cores := by rw [becomes.conferences]
  unheard := becomes.unheard

end Becomes
end System

namespace Act

variable {ε κ : Type} {keep : ε → κ} {bystanders : Bystanders ε}
  (observe : bystanders.Observe keep) {depth : Nat} {system before now : System ε}
  {id : ConnectionId} {call : Connection}
include observe

theorem toldObservers_notify {event : ConnectionEvent}
    (alone : .exchange ∉ (system.connection id).listeners) :
    (notify id event).Ensures (.level bystanders depth) system fun _ after =>
      system.ToldObservers after := by
  have one (wiring : Wiring ε) {now : System ε} {listener : Listener}
      (apart : listener ≠ .exchange) :
      (bystanders.tellOne id event listener).Ensures wiring now fun _ after =>
        now.ToldObservers after := by
    have written : now.ToldObservers
        { now with journal := .heard listener id event :: now.journal } :=
      ⟨[.heard listener id event], now.outside, by
        cases listener <;> simp_all [Entry.isRecount], rfl⟩
    unfold Bystanders.tellOne
    rw [ensures_bind, ensures_write]
    cases listener with
    | recorder => exact (ensures_pure _ _).mpr written
    | exchange => exact absurd rfl apart
    | observer name =>
      refine (observe.hear name id event _ _).mono fun _ after own => ?_
      obtain ⟨outside, -, rfl⟩ := own
      exact written.trans ⟨[], outside, rfl, rfl⟩
  rw [ensures_notify, ensures_tell]
  intro after run
  cases depth with
  | zero => cases run
  | succ depth =>
    have all : ((system.connection id).listeners.forM (bystanders.tellOne id event)).Ensures
        (.level bystanders depth) system fun _ after => system.ToldObservers after := by
      refine ensures_forM system.ToldObservers _ (fun listener among _ sofar => ?_) (.refl system)
      exact (one _ fun same => alone (same ▸ among)).mono fun _ _ more => sofar.trans more
    exact all ⟨⟩ after run

theorem becomes_notify {event : ConnectionEvent} (becomes : before.Becomes id call now)
    (alone : .exchange ∉ call.listeners) :
    (notify id event).Ensures (.level bystanders depth) now fun _ after =>
      before.Becomes id call after :=
  (toldObservers_notify observe (becomes.alone alone)).mono fun _ _ heard => becomes.heard heard

theorem becomes_notifications {events : List ConnectionEvent}
    (becomes : before.Becomes id call now) (alone : .exchange ∉ call.listeners) :
    (events.forM (notify id)).Ensures (.level bystanders depth) now fun _ after =>
      before.Becomes id call after :=
  ensures_forM (before.Becomes id call) events
    (fun _ _ _ sofar => becomes_notify observe sofar alone) becomes

theorem becomes_destroy (known : before.Known id) (becomes : before.Becomes id call now)
    (alone : .exchange ∉ call.listeners) (alive : call.destroyed = false) :
    (destroy id).Ensures (.level bystanders depth) now fun _ after =>
      before.Becomes id { call with destroyed := true, listeners := [] } after := by
  rw [destroy, ensures_bind, ensures_look, becomes.own known, alive]
  simp only [Bool.false_eq_true, if_false, ensures_bind, ensures_revise]
  refine (becomes_notify observe (becomes.revise ({ · with destroyed := true })) alone).mono
    fun _ _ told => ?_
  exact told.revise ({ · with listeners := [] })

theorem becomes_teardown (known : before.Known id) (becomes : before.Becomes id call now)
    (alone : .exchange ∉ call.listeners) (alive : call.destroyed = false) :
    (teardown id).Ensures (.level bystanders depth) now fun _ after =>
      before.Becomes id { call.tornDown with conference := none } after := by
  have rest {now : System ε} (becomes : before.Becomes id { call with conference := none } now) :
      Ensures (unbind id >>= fun _ => destroy id) (.level bystanders depth) now fun _ after =>
        before.Becomes id { call.tornDown with conference := none } after := by
    rw [ensures_bind, ensures_unbind]
    exact becomes_destroy observe known ((becomes.revise _).release _) alone alive
  simp only [teardown, ensures_bind, ensures_look, ensures_revise]
  refine (becomes_notify observe (becomes.revise ({ · with conference := none })) alone).mono
    fun _ next told => ?_
  split
  · rw [ensures_bind]
    exact (becomes_notify observe told alone).mono fun _ _ told => rest told
  · exact rest told

theorem becomes_tellCommit (known : before.Known id)
    (becomes : before.Becomes id call.committed now) (alone : .exchange ∉ call.listeners)
    (alive : call.destroyed = false) :
    (tellCommit id call.news).Ensures (.level bystanders depth) now fun _ after =>
      ∃ watched, before.Becomes id (call.delivered.seenAs watched) after := by
  have rest (watched : CallState) {shown : System ε}
      (becomes : before.Becomes id (call.committed.seenAs watched) shown) :
      Ensures (call.news.events.forM (notify id) >>= fun _ =>
        if call.news.ending then teardown id else pure ()) (.level bystanders depth) shown
          fun _ after => ∃ watched, before.Becomes id (call.delivered.seenAs watched) after := by
    rw [ensures_bind]
    refine (becomes_notifications observe becomes alone).mono fun _ told becomes => ?_
    have ends : call.news.ending = call.isEnding := rfl
    rw [ends, Connection.delivered]
    split
    · refine (becomes_teardown observe known becomes alone alive).mono fun _ _ torn => ?_
      exact ⟨watched, torn⟩
    · exact (ensures_pure _ _).mpr ⟨watched, becomes⟩
  rw [tellCommit]
  split
  · exact rest call.watched becomes
  · rw [showState]
    simp only [bind_assoc]
    rw [ensures_bind, ensures_look]
    split
    · simp only [pure_bind]
      exact rest call.watched becomes
    · simp only [bind_assoc]
      rw [ensures_bind, ensures_revise, ensures_bind, ensures_signal]
      have seen := becomes.revise ({ · with watched := call.news.state })
      exact rest _ (seen.aside rfl rfl rfl rfl rfl rfl)

theorem becomes_publish (rounds : Nat) (becomes : before.Becomes id call now)
    (alone : .exchange ∉ call.listeners)
    (unstarted : call.destroyed = false → call.teardownStarted = false) :
    (publish id rounds).Ensures (.level bystanders depth) now fun _ after =>
      ∃ watched, before.Becomes id (call.updated.seenAs watched) after := by
  cases rounds with
  | zero => exact ensures_failure _
  | succ rounds =>
  rw [publish_succ, ensures_bind, ensures_commit]
  by_cases known : before.Known id
  case neg =>
    have absent : now.connection id = .absent :=
      now.connection_of_not_known fun here => known ((becomes.known id).mp here)
    rw [absent, Connection.commit_of_destroyed rfl]
    refine (ensures_pure _ _).mpr ⟨call.watched, { becomes.revise _ with own := ?_ }⟩
    exact fun here => absurd here known
  rw [becomes.own known]
  by_cases gone : call.destroyed = true
  case pos =>
    rw [Connection.commit_of_destroyed gone]
    refine (ensures_pure _ _).mpr ⟨call.watched, ?_⟩
    rw [Connection.updated, if_pos gone]
    exact becomes.revise fun _ => call.rested
  have alive : call.destroyed = false := by simpa using gone
  have updated : call.updated = call.delivered.rested := by rw [Connection.updated, if_neg gone]
  rcases Connection.commit_of_alive alive (unstarted alive) with ⟨published, lasting, quiet⟩ | loud
  · rw [quiet]
    refine (ensures_pure _ _).mpr ⟨call.watched, ?_⟩
    have same : call.updated.seenAs call.watched = call.rested := by
      simp [updated, Connection.delivered, Connection.committed, Connection.rested,
        Connection.seenAs, lasting, ← published, unstarted alive]
    rw [same]
    exact becomes.revise fun _ => call.rested
  · rw [loud]
    dsimp only
    rw [ensures_bind]
    refine (becomes_tellCommit observe known (becomes.revise fun _ => call.committed) alone
      alive).mono ?_
    rintro _ told ⟨watched, becomes⟩
    have last : (!(call.delivered.seenAs watched).republish ||
        (call.delivered.seenAs watched).destroyed) = true := by
      rw [Connection.delivered]
      split <;> rfl
    rw [endRound, ensures_bind, ensures_look, becomes.own known, if_pos last, ensures_revise,
      updated]
    exact ⟨watched, becomes.revise Connection.rested⟩

theorem becomes_update (idle : (system.connection id).publishing = false)
    (alone : .exchange ∉ (system.connection id).listeners)
    (unstarted : (system.connection id).destroyed = false →
      (system.connection id).teardownStarted = false) :
    (update id).Ensures (.level bystanders depth) system fun _ after =>
      ∃ watched, system.Becomes id ((system.connection id).updated.seenAs watched) after := by
  simp only [update, ensures_bind, ensures_look, idle, Bool.false_eq_true, if_false,
    ensures_revise, ensures_rounds]
  have begun := (System.Becomes.refl system id).revise ({ · with publishing := true })
  refine (becomes_publish observe _ begun alone unstarted).mono fun _ _ done => ?_
  exact done

theorem becomes_setConference (idle : (system.connection id).publishing = false)
    (alone : .exchange ∉ (system.connection id).listeners)
    (unstarted : (system.connection id).destroyed = false →
      (system.connection id).teardownStarted = false) (conference : Option ConferenceId)
    (moves : (system.connection id).conference ≠ conference) :
    (setConference id conference).Ensures (.level bystanders depth) system fun _ after =>
      ∃ watched, system.Becomes id
        (Connection.updated { system.connection id with conference }|>.seenAs watched) after := by
  have apart : ((system.connection id).conference == conference) = false := by simpa using moves
  simp only [setConference, ensures_bind, ensures_look, apart, Bool.false_eq_true, if_false,
    ensures_revise]
  have entered := (System.Becomes.refl system id).revise ({ · with conference })
  refine (becomes_notify observe entered alone).mono fun _ told becomes => ?_
  by_cases known : system.Known id
  · have now := becomes.own known
    refine (becomes_update observe (by rw [now]; exact idle) (by rw [now]; exact alone)
      (by rw [now]; exact unstarted)).mono ?_
    rintro _ after ⟨watched, updated⟩
    rw [now] at updated
    exact ⟨watched, becomes.trans updated⟩
  · have absent := told.connection_of_not_known fun here => known ((becomes.known id).mp here)
    refine (becomes_update observe (by rw [absent]; rfl) (by rw [absent]; exact List.not_mem_nil)
      (by rw [absent]; exact fun alive => by cases alive)).mono ?_
    rintro _ after ⟨watched, updated⟩
    exact ⟨watched, { becomes.trans updated with own := fun here => absurd here known }⟩

end Act

namespace System

variable {ε κ : Type} {keep : ε → κ}

/-- Everything is at rest, and nobody listens but observers. -/
structure OnlyObserved (system : System ε) : Prop extends system.AtRest where
  alone (id : ConnectionId) : .exchange ∉ (system.connection id).listeners

theorem OnlyObserved.of_ripple {before after : System ε} (onlyObserved : before.OnlyObserved)
    (ripple : Ripple keep before after) : after.OnlyObserved where
  toAtRest := ripple.atRest onlyObserved.toAtRest
  alone id := by
    rw [ripple.reads (·.listeners) fun _ => rfl]
    exact onlyObserved.alone id

end System

/-- Memberships can be entered where nobody but observers listens. -/
theorem Wiring.seats_observed {ε κ : Type} {keep : ε → κ} {bystanders : Bystanders ε}
    (observe : bystanders.Observe keep) (depth : Nat) :
    (Wiring.level bystanders depth).Seats System.OnlyObserved where
  beside same onlyObserved :=
    ⟨onlyObserved.toAtRest.of_connections same, fun id => by rw [same]; exact onlyObserved.alone id⟩
  enter {system} id conference onlyObserved := by
    intro value after run
    have ripple := Act.rippling_setConference (Wiring.ripples_level observe depth) id conference
      system onlyObserved.steady value after run
    refine ⟨onlyObserved.of_ripple ripple, ?_⟩
    by_cases same : (system.connection id).conference = conference
    · have stays : after = system := by
        have silent : (Act.setConference id conference).Ensures (.level bystanders depth) system
            fun _ after => after = system := by
          rw [Act.setConference, Act.ensures_bind, Act.ensures_look, if_pos (beq_iff_eq.mpr same),
            Act.ensures_pure]
        exact silent value after run
      subst stays
      refine ⟨.refl _, fun _ current => current, fun other => ?_⟩
      split
      · rename_i own
        rw [own.1, same]
      · rfl
    have unstarted (alive : (system.connection id).destroyed = false) :=
      ((onlyObserved.steady id).rested (onlyObserved.quiet id) alive).2.2
    obtain ⟨watched, becomes⟩ := Act.becomes_setConference observe (onlyObserved.quiet id)
      (onlyObserved.alone id) unstarted conference same value after run
    have fresh := @Connection.published_updated { system.connection id with conference }
    have lasting : Connection.isEnding { system.connection id with conference } = false := by
      have lasts : (system.connection id).isEnding = false := by
        refine Bool.eq_false_iff.mpr fun ending => ?_
        obtain ⟨alive, ended⟩ : (system.connection id).destroyed = false ∧
            (system.connection id).visibleState = .disconnected := by
          simpa [Connection.isEnding] using ending
        exact (onlyObserved.alive alive).2 ended
      exact lasts
    refine ⟨becomes.membershipsOnly ripple.essence ?_, ?_, fun other => ?_⟩
    · exact fun alive => congrArg Published.bare (fresh alive)
    · refine becomes.each (fun other call => (system.connection other).Current → call.Current) ?_
        fun _ current => current
      exact fun _ _ alive => .inl (congrArg (·.caps) (fresh alive))
    · split
      · rename_i own
        rw [own.1, becomes.own own.2, Connection.updated_of_lasting lasting]
        split <;> rfl
      · rename_i apart
        refine becomes.each (fun other call => ¬ (other = id ∧ system.Known id) →
          call.conference = (system.connection other).conference) ?_ (fun _ _ => rfl) other apart
        exact fun known apart => absurd ⟨rfl, known⟩ apart

end Switchboard
