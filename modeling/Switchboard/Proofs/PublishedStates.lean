import Switchboard.Proofs.Laws

/-! Published states under reentrant listeners. Listeners may do anything with connections while
they are told of one; updates then wait. The watched state is the published one at every point, and
a connection is destroyed only when its end is published, or when it is closed on the air: by a
listener that is just being told of it while its published state is live. `Act.ensures_publish` and
`Act.ensures_close` are the statements for publishing and closing, for every wiring that keeps
this. -/

namespace Switchboard

namespace Connection

def isOnAir (call : Connection) : Bool :=
  call.publishing && call.published.state.isLive

/-- What is watched has been published, the end is published only by a teardown, and a connection
that is destroyed shows its end or was `cut` off. -/
structure ShowsPublished (call : Connection) (cut : Prop) : Prop where
  watched : call.watched = call.published.state
  started : call.published.state = .disconnected → call.teardownStarted = true
  gone : call.destroyed = true → call.published.state = .disconnected ∨ cut
  cut : cut → call.published.state ≠ .disconnected ∧
    (call.publishing = true ∨ call.destroyed = true)

def Announced (call : Connection) : Prop :=
  call.ended.isSome = true → call.destroyed = true ∨ call.published.state = .disconnected ∨
    call.publishing = true ∧ call.republish = true

def lifecycle (call : Connection) :
    Option DisconnectInfo × Bool × Bool × Published × Bool × Bool × CallState :=
  (call.ended, call.teardownStarted, call.destroyed, call.published, call.publishing,
    call.republish, call.watched)

theorem ShowsPublished.of_lifecycle {call other : Connection} {cut : Prop}
    (showsPublished : call.ShowsPublished cut)
    (same : other.lifecycle = call.lifecycle) : other.ShowsPublished cut := by
  simp only [lifecycle, Prod.mk.injEq] at same
  obtain ⟨-, started, gone, published, publishing, -, watched⟩ := same
  refine ⟨?_, ?_, ?_, ?_⟩
  · rw [watched, published]
    exact showsPublished.watched
  · rw [published, started]
    exact showsPublished.started
  · rw [gone, published]
    exact showsPublished.gone
  · rw [published, publishing, gone]
    exact showsPublished.cut

theorem Announced.of_lifecycle {call other : Connection} (announced : call.Announced)
    (same : other.lifecycle = call.lifecycle) : other.Announced := by
  simp only [lifecycle, Prod.mk.injEq] at same
  obtain ⟨ended, -, gone, published, publishing, republish, -⟩ := same
  rw [Announced, ended, gone, published, publishing, republish]
  exact announced

end Connection

namespace Connection

def roundBegun (call : Connection) : Connection :=
  { call with
    republish := false
    published := call.derived
    teardownStarted := call.teardownStarted || call.derived.state == .disconnected
    publishing := true }

def roundCommit (call : Connection) : Commit where
  events := call.published.changes call.derived
  state := call.derived.state
  ending := call.derived.state == .disconnected && !call.teardownStarted

theorem commit_cases (call : Connection) :
    call.commit = (none, call.rested) ∧ (call.destroyed = true ∨
      call.published = call.derived ∧
        (call.derived.state = .disconnected → call.teardownStarted = true)) ∨
    call.commit = (some call.roundCommit, call.roundBegun) ∧ call.destroyed = false := by
  cases gone : call.destroyed with
  | true => exact .inl ⟨commit_of_destroyed gone, .inl rfl⟩
  | false =>
    by_cases quiet : (call.roundCommit.events.isEmpty && !call.roundCommit.ending) = true
    · left
      obtain ⟨silent, shown⟩ : call.published.changes call.derived = [] ∧
          (call.derived.state ≠ .disconnected ∨ call.teardownStarted = true) := by
        simpa [roundCommit] using quiet
      have same := Published.eq_of_changes_eq_nil silent
      have lasting : call.roundCommit.ending = false := by
        rcases shown with up | started
        · simp [roundCommit, up]
        · simp [roundCommit, started]
      refine ⟨?_, .inr ⟨same, fun past => shown.resolve_left (not_not_intro past)⟩⟩
      simp only [roundCommit, ← same] at lasting
      rw [← same] at silent
      simp only [commit, gone, ← same, silent, lasting, rested]
      simp
    · right
      have loud : (call.roundCommit.events.isEmpty && !call.roundCommit.ending) = false := by
        simpa using quiet
      simp only [roundCommit] at loud
      refine ⟨?_, rfl⟩
      simp only [commit, gone, loud, roundBegun, roundCommit]
      cases call.teardownStarted <;> simp

def seen (call : Connection) : Connection :=
  { call.roundBegun with watched := call.derived.state }

theorem derived_state_of_ended {call : Connection} (ended : call.ended.isSome = true) :
    call.derived.state = .disconnected := by
  obtain ⟨info, past⟩ := Option.isSome_iff_exists.mp ended
  rw [derived_state, visibleState_of_ended past]

theorem showsPublished_seen {call : Connection} {cut : Prop} (alive : call.destroyed = false)
    (uncut : ¬ cut) : call.seen.ShowsPublished cut where
  watched := rfl
  started past := by
    have shown : call.derived.state = .disconnected := past
    simp [seen, roundBegun, shown]
  gone dead := by
    rw [show call.seen.destroyed = false from alive] at dead
    cases dead
  cut off := absurd off uncut

theorem announced_seen (call : Connection) : call.seen.Announced :=
  fun ended => .inr (.inl (derived_state_of_ended ended))

end Connection

theorem Act.ensures_publish_succ {ε : Type} {wiring : Wiring ε} {system : System ε}
    {id : ConnectionId} {rounds : Nat} {goal : Unit → System ε → Prop}
    (quiet : ((system.connection id).destroyed = true ∨
        (system.connection id).published = (system.connection id).derived ∧
          ((system.connection id).derived.state = .disconnected →
            (system.connection id).teardownStarted = true)) →
      goal () (system.reviseConnection id Connection.rested))
    (loud : (system.connection id).destroyed = false →
      (tellCommit id (system.connection id).roundCommit).Ensures wiring
        (system.reviseConnection id fun _ => (system.connection id).roundBegun)
        fun _ told => (endRound id rounds).Ensures wiring told goal) :
    (publish id (rounds + 1)).Ensures wiring system goal := by
  rw [publish_succ, ensures_bind, ensures_commit]
  rcases (system.connection id).commit_cases with ⟨commits, why⟩ | ⟨commits, alive⟩
  · have same : system.reviseConnection id (fun _ => (system.connection id).rested) =
        system.reviseConnection id Connection.rested := system.reviseConnection_congr rfl
    rw [commits, ensures_pure, same]
    exact quiet why
  · rw [commits]
    dsimp only
    rw [ensures_bind]
    exact loud alive

abbrev ClosedOnAir := List ConnectionId

def Move.remark : Move → Act ClosedOnAir Unit
  | .close id => do if (← Act.look id).isOnAir then Act.reviseOutside (id :: ·)
  | _ => pure ()

/-- Bystanders that do what they like. -/
def Bystanders.ofHabits (hear : String → ConnectionId → ConnectionEvent → Habit ClosedOnAir)
    (bridged : Habit ClosedOnAir) : Bystanders ClosedOnAir where
  hear name id event := (hear name id event).act Move.remark
  bridged := bridged.act Move.remark

namespace System

structure AllShowPublished (except : Option ConnectionId) (system : System ClosedOnAir) : Prop where
  showsPublished (id : ConnectionId) : (system.connection id).ShowsPublished (id ∈ system.outside)
  announced (id : ConnectionId) : some id ≠ except → (system.connection id).Announced

structure KeepsPublished (except : Option ConnectionId) (before after : System ClosedOnAir) :
    Prop where
  known (id : ConnectionId) : before.Known id → after.Known id
  publishing (id : ConnectionId) : some id ≠ except →
    (after.connection id).publishing = (before.connection id).publishing
  busy (id : ConnectionId) : some id ≠ except → (before.connection id).publishing = true →
    (after.connection id).published = (before.connection id).published
  ended (id : ConnectionId) : before.Known id → (before.connection id).ended.isSome = true →
    (after.connection id).ended.isSome = true
  gone (id : ConnectionId) : before.Known id → (before.connection id).destroyed = true →
    (after.connection id).destroyed = true
  closedOnAir (id : ConnectionId) : id ∈ before.outside → id ∈ after.outside
  fresh (id : ConnectionId) : id ∈ after.outside →
    id ∈ before.outside ∨ after.Known id ∧ (after.connection id).destroyed = true

namespace KeepsPublished

variable {except : Option ConnectionId} {before middle after : System ClosedOnAir}

theorem refl (except : Option ConnectionId) (system : System ClosedOnAir) :
    KeepsPublished except system system where
  known _ here := here
  publishing _ _ := rfl
  busy _ _ _ := rfl
  ended _ _ past := past
  gone _ _ dead := dead
  closedOnAir _ among := among
  fresh _ among := .inl among

theorem trans (first : KeepsPublished except before middle)
    (second : KeepsPublished except middle after) :
    KeepsPublished except before after where
  known id here := second.known id (first.known id here)
  publishing id other := (second.publishing id other).trans (first.publishing id other)
  busy id other telling :=
    (second.busy id other ((first.publishing id other).trans telling)).trans
      (first.busy id other telling)
  ended id here past := second.ended id (first.known id here) (first.ended id here past)
  gone id here dead := second.gone id (first.known id here) (first.gone id here dead)
  closedOnAir id among := second.closedOnAir id (first.closedOnAir id among)
  fresh id among := by
    rcases second.fresh id among with old | new
    · refine (first.fresh id old).imp_right fun ⟨here, dead⟩ => ?_
      exact ⟨second.known id here, second.gone id here dead⟩
    · exact .inr new

theorem weaken (later : KeepsPublished none before after) (except : Option ConnectionId) :
    KeepsPublished except before after :=
  { later with
    publishing := fun id _ => later.publishing id nofun
    busy := fun id _ => later.busy id nofun }

end KeepsPublished

theorem KeepsPublished.revise (system : System ClosedOnAir) (id : ConnectionId)
    (except : Option ConnectionId)
    {change : Connection → Connection}
    (shown : some id ≠ except →
      (change (system.connection id)).publishing = (system.connection id).publishing ∧
      ((system.connection id).publishing = true →
        (change (system.connection id)).published = (system.connection id).published))
    (ended : (system.connection id).ended.isSome = true →
      (change (system.connection id)).ended.isSome = true)
    (gone : (system.connection id).destroyed = true →
      (change (system.connection id)).destroyed = true) :
    KeepsPublished except system (system.reviseConnection id change) where
  known := fun other here => (system.known_reviseConnection id other change).mpr here
  publishing := system.each_revise id (fun other call => some other ≠ except →
    call.publishing = (system.connection other).publishing)
    (fun other => (shown other).1) fun _ _ => rfl
  busy := system.each_revise id (fun other call => some other ≠ except →
    (system.connection other).publishing = true →
      call.published = (system.connection other).published)
    (fun other => (shown other).2) fun _ _ _ => rfl
  ended := system.each_revise id (fun other call => system.Known other →
    (system.connection other).ended.isSome = true → call.ended.isSome = true)
    (fun _ => ended) fun _ _ past => past
  gone := system.each_revise id (fun other call => system.Known other →
    (system.connection other).destroyed = true → call.destroyed = true)
    (fun _ => gone) fun _ _ dead => dead
  closedOnAir := fun other among => by simpa using among
  fresh := fun other among => .inl (by simpa using among)

theorem AllShowPublished.revise {system : System ClosedOnAir} {except : Option ConnectionId}
    (allShowPublished : system.AllShowPublished except) {id : ConnectionId}
    (next : Option ConnectionId)
    {change : Connection → Connection}
    (showsPublished : system.Known id →
      (change (system.connection id)).ShowsPublished (id ∈ system.outside))
    (announced : system.Known id → some id ≠ next → (change (system.connection id)).Announced)
    (others : ∀ other, other ≠ id → some other ≠ next → some other ≠ except) :
    (system.reviseConnection id change).AllShowPublished next := by
  constructor
  · intro other
    rw [connection_reviseConnection, reviseConnection_outside]
    split
    · rename_i same
      obtain ⟨rfl, known⟩ := same
      exact showsPublished known
    · exact allShowPublished.showsPublished other
  · intro other allowed
    rw [connection_reviseConnection]
    split
    · rename_i same
      obtain ⟨rfl, known⟩ := same
      exact announced known allowed
    · rename_i elsewhere
      by_cases same : other = id
      · subst same
        rw [system.connection_of_not_known (by simpa using elsewhere)]
        exact fun _ => .inl rfl
      · exact allShowPublished.announced other (others other same allowed)

theorem AllShowPublished.rested {system : System ClosedOnAir} {id : ConnectionId}
    (allShowPublished : system.AllShowPublished (some id))
    (closed : id ∈ system.outside → (system.connection id).destroyed = true)
    (last : (system.connection id).destroyed = true ∨ ((system.connection id).ended.isSome = true →
      (system.connection id).published.state = .disconnected)) :
    (system.reviseConnection id Connection.rested).AllShowPublished none ∧
      KeepsPublished (some id) system (system.reviseConnection id Connection.rested) ∧
      ((system.reviseConnection id Connection.rested).connection id).publishing = false := by
  have own := allShowPublished.showsPublished id
  refine ⟨allShowPublished.revise none (fun _ => ?_) (fun _ _ ended => ?_)
    fun other differ _ same =>
    differ (Option.some.inj same), ?_, ?_⟩
  · exact ⟨own.watched, own.started, own.gone, fun cut => ⟨(own.cut cut).1, .inr (closed cut)⟩⟩
  · exact last.imp_right fun shown => .inl (shown ended)
  · exact KeepsPublished.revise system id (some id) (fun other => absurd rfl other)
      (fun past => past)
      fun dead => dead
  · rw [connection_reviseConnection]
    split
    · rfl
    · rename_i elsewhere
      rw [system.connection_of_not_known (by simpa using elsewhere)]
      rfl

def MayEnd (system : System ClosedOnAir) (id : ConnectionId) : Prop :=
  (system.connection id).published.state = .disconnected ∧
    (system.connection id).publishing = true ∨ id ∈ system.outside

theorem KeepsPublished.mayEnd {before after : System ClosedOnAir}
    (later : KeepsPublished none before after)
    {id : ConnectionId} (ends : before.MayEnd id) : after.MayEnd id := by
  refine ends.imp (fun ⟨shown, telling⟩ => ?_) (later.closedOnAir id)
  exact ⟨(congrArg Published.state (later.busy id nofun telling)).trans shown,
    (later.publishing id nofun).trans telling⟩

end System

def publishedStates : Law ClosedOnAir where
  holds := System.AllShowPublished none
  leads := System.KeepsPublished none
  refl := .refl none
  trans := .trans

namespace Act

variable {wiring : Wiring ClosedOnAir} {system : System ClosedOnAir}

theorem publishedStates_of_connections {before after : System ClosedOnAir}
    (connections : after.connections = before.connections)
    (outside : after.outside = before.outside) (holds : publishedStates.holds before) :
    publishedStates.holds after ∧ publishedStates.leads before after := by
  have same (id : ConnectionId) : after.connection id = before.connection id := by
    cases id with
    | issued serial => exact congrArg (List.getD · serial .absent) connections
    | outsider value => rfl
  have known (id : ConnectionId) : after.Known id ↔ before.Known id := by
    cases id <;> simp [System.Known, connections]
  refine ⟨⟨fun id => ?_, fun id allowed => ?_⟩, ?_⟩
  · rw [same, outside]
    exact holds.showsPublished id
  · rw [same]
    exact holds.announced id allowed
  · exact {
      known := fun id => (known id).mpr
      publishing := fun id _ => congrArg _ (same id)
      busy := fun id _ _ => congrArg _ (same id)
      ended := fun id _ past => same id ▸ past
      gone := fun id _ dead => same id ▸ dead
      closedOnAir := fun id among => outside ▸ among
      fresh := fun id among => .inl (outside ▸ among) }

theorem publishedStates_modify {change : System ClosedOnAir → System ClosedOnAir}
    (connections : ∀ system, (change system).connections = system.connections)
    (outside : ∀ system, (change system).outside = system.outside) :
    Obeys (modify change) publishedStates wiring :=
  .modify fun system holds =>
    publishedStates_of_connections (connections system) (outside system) holds

theorem publishedStates_revise (id : ConnectionId) (change : Connection → Connection)
    (same : ∀ call, (change call).lifecycle = call.lifecycle) :
      (revise id change).Obeys publishedStates wiring := by
  intro system holds
  rw [ensures_revise]
  have lifecycle := same (system.connection id)
  simp only [Connection.lifecycle, Prod.mk.injEq] at lifecycle
  obtain ⟨ended, -, gone, published, publishing, -, -⟩ := lifecycle
  constructor
  · refine holds.revise none (fun _ => (holds.showsPublished id).of_lifecycle (same _))
      (fun _ _ => (holds.announced id nofun).of_lifecycle (same _)) fun _ _ _ => nofun
  · refine System.KeepsPublished.revise system id none
      (fun _ => ⟨publishing, fun _ => published⟩) ?_ ?_
    · exact fun past => ended ▸ past
    · exact fun dead => gone ▸ dead

theorem publishedStates_unbind (id : ConnectionId) : (unbind id).Obeys publishedStates wiring := by
  refine .bind (.look id) fun call => .bind (publishedStates_revise id _ fun _ => rfl) fun _ => ?_
  split
  · exact publishedStates_modify (fun _ => rfl) fun _ => rfl
  · exact .pure _

theorem ensures_show {id : ConnectionId} {next : Act ClosedOnAir Unit}
    {goal : Unit → System ClosedOnAir → Prop}
    (allShowPublished : system.AllShowPublished (some id))
      (alive : (system.connection id).destroyed = false)
    (closed : id ∈ system.outside → (system.connection id).destroyed = true)
    (rest : ∀ shown, publishedStates.holds shown → System.KeepsPublished (some id) system shown →
      (shown.connection id).publishing = true →
      (shown.connection id).published.state = (system.connection id).derived.state →
      next.Ensures wiring shown goal) :
    Ensures
      (if (system.connection id).roundCommit.events.isEmpty then next
        else showState id (system.connection id).roundCommit.state >>= fun _ => next)
      wiring (system.reviseConnection id fun _ => (system.connection id).roundBegun) goal := by
  have uncut : id ∉ system.outside := fun cut => by simp_all
  let seen := system.reviseConnection id fun _ => (system.connection id).seen
  have known := system.known_of_alive alive
  have now : seen.connection id = (system.connection id).seen :=
    system.connection_reviseConnection_known known _
  have holds : publishedStates.holds seen :=
    allShowPublished.revise none (fun _ => Connection.showsPublished_seen alive uncut)
      (fun _ _ => Connection.announced_seen _) fun other differ _ same =>
        differ (Option.some.inj same)
  have later : System.KeepsPublished (some id) system seen :=
    System.KeepsPublished.revise system id (some id) (fun other => absurd rfl other)
      (fun past => past)
      fun dead => dead
  have enough {after : System ClosedOnAir} (connections : after.connections = seen.connections)
      (outside : after.outside = seen.outside) : next.Ensures wiring after goal := by
    obtain ⟨allShowPublished, more⟩ := publishedStates_of_connections connections outside holds
    have same : after.connection id = seen.connection id := by
      cases id with
      | issued serial => exact congrArg (List.getD · serial .absent) connections
      | outsider value => rfl
    refine rest after allShowPublished (later.trans (more.weaken _)) ?_ ?_
    · rw [same, now]
      rfl
    · rw [same, now]
      rfl
  have stays (watched : (system.connection id).roundBegun.watched =
      (system.connection id).derived.state) :
        system.reviseConnection id (fun _ => (system.connection id).roundBegun) = seen :=
    system.reviseConnection_congr (by rw [Connection.seen, ← watched])
  split
  · rename_i silent
    have same := Published.eq_of_changes_eq_nil (List.isEmpty_iff.mp silent)
    have watched : (system.connection id).roundBegun.watched =
        (system.connection id).derived.state := by
      rw [← same]
      exact (allShowPublished.showsPublished id).watched
    rw [stays watched]
    exact enough rfl rfl
  · have roundBegun := system.connection_reviseConnection_known known
      fun _ => (system.connection id).roundBegun
    rw [ensures_bind, showState, ensures_bind, ensures_look, roundBegun]
    split
    · rename_i same
      rw [ensures_pure, stays (eq_of_beq same)]
      exact enough rfl rfl
    · rw [ensures_bind, ensures_revise, ensures_signal, System.reviseConnection_reviseConnection]
      exact enough rfl rfl

section
variable (obeys : wiring.Obeys publishedStates fun _ => True)
include obeys

theorem publishedStates_notify (id : ConnectionId) (event : ConnectionEvent) :
    (notify id event).Obeys publishedStates wiring :=
  .bind (.look id) fun call => obeys.tell call.listeners id trivial

theorem ensures_destroy {id : ConnectionId} (holds : publishedStates.holds system)
    (safe : (system.connection id).destroyed = true ∨
      (system.connection id).published.state = .disconnected ∨ id ∈ system.outside) :
    (destroy id).Ensures wiring system fun _ after => publishedStates.holds after ∧
      publishedStates.leads system after ∧
        (system.Known id → (after.connection id).destroyed = true) := by
  rw [destroy, ensures_bind, ensures_look]
  split
  · rw [ensures_pure]
    exact ⟨holds, .refl none system, fun _ => by assumption⟩
  · rename_i alive
    rw [ensures_bind, ensures_revise]
    let dead := system.reviseConnection id ({ · with destroyed := true })
    have showsPublished := holds.showsPublished id
    have sofar : publishedStates.holds dead := by
      refine holds.revise none (fun _ => ?_) (fun _ _ _ => .inl rfl) fun _ _ _ =>
        Option.some_ne_none _
      exact ⟨showsPublished.watched, showsPublished.started, fun _ => safe.resolve_left alive,
        fun cut => ⟨(showsPublished.cut cut).1, .inr rfl⟩⟩
    have later : publishedStates.leads system dead :=
      System.KeepsPublished.revise system id none (fun _ => ⟨rfl, fun _ => rfl⟩) (fun past => past)
        fun _ => rfl
    refine (publishedStates_notify obeys id .destroyed).thenEnsures sofar
      fun _ told allShowPublished more => ?_
    have last : (revise id ({ · with listeners := [] })).Obeys publishedStates wiring :=
      publishedStates_revise id _ fun _ => rfl
    refine (last told allShowPublished).mono fun _ after final =>
      ⟨final.1, later.trans (more.trans final.2), fun known => ?_⟩
    refine (more.trans final.2).gone id (later.known id known) ?_
    exact congrArg _ (system.connection_reviseConnection_known known _)

theorem ensures_teardown {id : ConnectionId} (holds : publishedStates.holds system)
    (ends : system.MayEnd id) :
    (teardown id).Ensures wiring system fun _ after => publishedStates.holds after ∧
      publishedStates.leads system after ∧
        (system.Known id → (after.connection id).destroyed = true) := by
  have last (middle : System ClosedOnAir) (allShowPublished : publishedStates.holds middle)
      (later : publishedStates.leads system middle) :
      Ensures (do unbind id; destroy id) wiring middle fun _ after => publishedStates.holds after ∧
        publishedStates.leads system after ∧
          (system.Known id → (after.connection id).destroyed = true) := by
    refine (publishedStates_unbind id).thenEnsures allShowPublished
      fun _ next allShowPublished more => ?_
    have later := later.trans more
    have safe := (later.mayEnd ends).imp_left And.left
    refine (ensures_destroy obeys allShowPublished (.inr safe)).mono fun _ after rest => ?_
    exact ⟨rest.1, later.trans rest.2.1, fun known => rest.2.2 (later.known id known)⟩
  rw [teardown, ensures_bind, ensures_look]
  refine Obeys.thenEnsures (publishedStates_revise id _ fun _ => rfl) holds
    fun _ left allShowPublished later => ?_
  refine (publishedStates_notify obeys id _).thenEnsures allShowPublished
    fun _ told allShowPublished more => ?_
  have later := later.trans more
  split
  · refine (publishedStates_notify obeys id _).thenEnsures allShowPublished
      fun _ free allShowPublished more => ?_
    exact last free allShowPublished (later.trans more)
  · exact last told allShowPublished later

theorem ensures_tellCommit {id : ConnectionId}
    (allShowPublished : system.AllShowPublished (some id))
    (alive : (system.connection id).destroyed = false)
    (closed : id ∈ system.outside → (system.connection id).destroyed = true) :
    (tellCommit id (system.connection id).roundCommit).Ensures wiring
      (system.reviseConnection id fun _ => (system.connection id).roundBegun) fun _ after =>
        publishedStates.holds after ∧ System.KeepsPublished (some id) system after ∧
          (after.connection id).publishing = true := by
  rw [tellCommit]
  refine ensures_show allShowPublished alive closed fun shown holds later telling state => ?_
  have tell :
      ((system.connection id).roundCommit.events.forM (notify id)).Obeys publishedStates wiring :=
    .forM _ fun event _ => publishedStates_notify obeys id event
  refine tell.thenEnsures holds fun _ told holds more => ?_
  have sofar := later.trans (more.weaken (some id))
  have still := (more.publishing id (Option.some_ne_none _)).trans telling
  split
  · rename_i ending
    have past : (system.connection id).derived.state = .disconnected := by
      simp_all [Connection.roundCommit]
    have ends : told.MayEnd id := .inl
      ⟨(congrArg Published.state (more.busy id (Option.some_ne_none _) telling)).trans
        (state.trans past), still⟩
    refine (ensures_teardown obeys holds ends).mono ?_
    rintro _ after ⟨holds, last, _⟩
    exact ⟨holds, sofar.trans (last.weaken _),
      (last.publishing id (Option.some_ne_none _)).trans still⟩
  · rw [ensures_pure]
    exact ⟨holds, sofar, still⟩

/-- Publishing leaves what a connection shows published, unless it was closed on the air before. -/
theorem ensures_publish (rounds : Nat) {id : ConnectionId}
    (allShowPublished : system.AllShowPublished (some id))
    (closed : id ∈ system.outside → (system.connection id).destroyed = true) :
    (publish id rounds).Ensures wiring system fun _ after =>
      publishedStates.holds after ∧ System.KeepsPublished (some id) system after ∧
        (after.connection id).publishing = false := by
  induction rounds generalizing system with
  | zero => exact ensures_failure _
  | succ rounds ih =>
    refine ensures_publish_succ (fun why => ?_) fun alive => ?_
    · refine allShowPublished.rested closed (why.imp_right fun derived ended => ?_)
      rw [derived.1]
      exact Connection.derived_state_of_ended ended
    · refine (ensures_tellCommit obeys allShowPublished alive closed).mono ?_
      rintro _ told ⟨holds, later, still⟩
      have shut : id ∈ told.outside → (told.connection id).destroyed = true := by
        intro cut
        rcases later.fresh id cut with old | new
        · rw [closed old] at alive
          cases alive
        · exact new.2
      have but : told.AllShowPublished (some id) :=
        ⟨holds.showsPublished, fun other _ => holds.announced other (Option.some_ne_none _)⟩
      rw [endRound, ensures_bind, ensures_look]
      split
      · rename_i last
        rw [ensures_revise]
        have final : (told.connection id).destroyed = true ∨ ((told.connection id).ended.isSome →
            (told.connection id).published.state = .disconnected) := by
          by_cases gone : (told.connection id).destroyed = true
          · exact .inl gone
          · refine .inr fun ended => ?_
            rcases holds.announced id (Option.some_ne_none _) ended with dead | shown | ⟨_, again⟩
            · exact absurd dead gone
            · exact shown
            · simp [again, gone] at last
        obtain ⟨allShowPublished, more, off⟩ := but.rested shut final
        exact ⟨allShowPublished, later.trans more, off⟩
      · refine (ih but shut).mono ?_
        rintro _ after ⟨allShowPublished, more, off⟩
        exact ⟨allShowPublished, later.trans more, off⟩

theorem ensures_update {id : ConnectionId} (allShowPublished : system.AllShowPublished (some id)) :
    (update id).Ensures wiring system fun _ after =>
      publishedStates.holds after ∧ publishedStates.leads system after := by
  have own := allShowPublished.showsPublished id
  have others (other : ConnectionId) (differ : other ≠ id) : some other ≠ some id :=
    fun same => differ (Option.some.inj same)
  rw [update, ensures_bind, ensures_look]
  split
  · rename_i telling
    rw [ensures_revise]
    refine ⟨allShowPublished.revise none (fun _ => ?_) (fun _ _ _ => .inr (.inr ⟨telling, rfl⟩))
      fun other differ _ => others other differ, ?_⟩
    · exact ⟨own.watched, own.started, own.gone, own.cut⟩
    · exact System.KeepsPublished.revise system id none (fun _ => ⟨rfl, fun _ => rfl⟩)
        (fun past => past)
        fun dead => dead
  · rename_i idle
    have closed : id ∈ system.outside → (system.connection id).destroyed = true :=
      fun cut => (own.cut cut).2.resolve_left idle
    let begun := system.reviseConnection id ({ · with publishing := true })
    have later : System.KeepsPublished (some id) system begun :=
      System.KeepsPublished.revise system id (some id) (fun other => absurd rfl other)
        (fun past => past)
        fun dead => dead
    have start : begun.AllShowPublished (some id) := by
      refine allShowPublished.revise (some id) (fun _ => ?_) (fun _ other => absurd rfl other)
        fun other differ _ => others other differ
      exact ⟨own.watched, own.started, own.gone, fun cut => ⟨(own.cut cut).1, .inl rfl⟩⟩
    have shut : id ∈ begun.outside → (begun.connection id).destroyed = true := by
      intro cut
      have gone := closed (by simpa [begun] using cut)
      rw [System.connection_reviseConnection]
      split
      · exact gone
      · exact gone
    rw [ensures_bind, ensures_revise, ensures_bind, ensures_rounds]
    refine (ensures_publish obeys _ start shut).mono ?_
    rintro _ after ⟨holds, more, off⟩
    have whole := later.trans more
    have idle : (system.connection id).publishing = false := by simpa using idle
    refine ⟨holds,
      { whole with publishing := fun other _ => ?_, busy := fun other _ telling => ?_ }⟩
    · by_cases same : other = id
      · rw [same, off, idle]
      · exact whole.publishing other (others other same)
    · by_cases same : other = id
      · rw [same, idle] at telling
        cases telling
      · exact whole.busy other (others other same) telling

theorem publishedStates_update (id : ConnectionId) : (update id).Obeys publishedStates wiring :=
  fun _ holds =>
    ensures_update obeys ⟨holds.showsPublished, fun other _ => holds.announced other nofun⟩

theorem ensures_setDisconnected {id : ConnectionId} (info : DisconnectInfo)
    (holds : publishedStates.holds system) :
    (setDisconnected id info).Ensures wiring system fun _ after => publishedStates.holds after ∧
      publishedStates.leads system after ∧
        (system.Known id → (after.connection id).ended.isSome = true) := by
  rw [setDisconnected, ensures_bind, ensures_look]
  split
  · rename_i past
    rw [ensures_pure]
    exact ⟨holds, .refl none system, fun _ => past⟩
  · rw [ensures_bind, ensures_revise]
    let past := system.reviseConnection id ({ · with ended := some info, presented := none })
    have own := holds.showsPublished id
    have later : System.KeepsPublished none system past :=
      System.KeepsPublished.revise system id none (fun _ => ⟨rfl, fun _ => rfl⟩) (fun _ => rfl)
        fun dead => dead
    have allShowPublished : past.AllShowPublished (some id) :=
      System.AllShowPublished.revise holds (some id)
        (fun _ => ⟨own.watched, own.started, own.gone, own.cut⟩) (fun _ other => absurd rfl other)
        fun _ _ _ => Option.some_ne_none _
    refine (ensures_update obeys allShowPublished).mono ?_
    rintro _ after ⟨holds, more⟩
    refine ⟨holds, later.trans more, fun known => more.ended id (later.known id known) ?_⟩
    rw [system.connection_reviseConnection_known known]
    rfl

theorem publishedStates_setDisconnected (id : ConnectionId) (info : DisconnectInfo) :
    (setDisconnected id info).Obeys publishedStates wiring :=
  fun _ holds => (ensures_setDisconnected obeys info holds).mono fun _ _ all => ⟨all.1, all.2.1⟩

theorem ensures_wrapUp {id : ConnectionId} (holds : publishedStates.holds system)
    (safe : (system.connection id).destroyed = true ∨
      (system.connection id).published.state = .disconnected ∨ id ∈ system.outside) :
    (wrapUp id).Ensures wiring system fun _ after => publishedStates.holds after ∧
      publishedStates.leads system after ∧
        (system.Known id → (after.connection id).destroyed = true) := by
  have own := holds.showsPublished id
  rw [wrapUp, ensures_bind, ensures_look]
  split
  · rename_i starts
    have ends : system.MayEnd id := by
      rcases safe with gone | shown | off
      · simp [gone] at starts
      · simp [own.started shown] at starts
      · exact .inr off
    have started : (revise id ({ · with teardownStarted := true })).Ensures wiring system
        fun _ after => publishedStates.holds after ∧ publishedStates.leads system after := by
      rw [ensures_revise]
      refine ⟨System.AllShowPublished.revise holds none (fun _ => ?_) (fun _ _ => ?_)
        fun _ _ _ => Option.some_ne_none _, ?_⟩
      · exact ⟨own.watched, fun _ => rfl, own.gone, own.cut⟩
      · exact holds.announced id (Option.some_ne_none _)
      · exact System.KeepsPublished.revise system id none (fun _ => ⟨rfl, fun _ => rfl⟩)
          (fun past => past)
          fun dead => dead
    rw [ensures_bind]
    refine started.mono ?_
    rintro _ begun ⟨holds, more⟩
    refine (ensures_teardown obeys holds (more.mayEnd ends)).mono fun _ after last => ?_
    exact ⟨last.1, more.trans last.2.1, fun known => last.2.2 (more.known id known)⟩
  · have free : (unbind id).Ensures wiring system fun _ after =>
        publishedStates.holds after ∧ publishedStates.leads system after :=
          publishedStates_unbind id system holds
    rw [ensures_bind, ensures_unbind]
    rw [ensures_unbind] at free
    refine (ensures_destroy obeys free.1 ?_).mono fun _ after last => ?_
    · have same : ((system.reviseConnection id fun call => { call with
          generation := call.generation + 1, leg := none }).release
            (system.connection id).leg).outside = system.outside := by
        cases (system.connection id).leg <;> simp [System.release, System.reviseLeg]
      rw [System.connection_release, System.connection_reviseConnection, same]
      split <;> exact safe
    · exact ⟨last.1, free.2.trans last.2.1, fun known => last.2.2 (free.2.known id known)⟩

/-- A connection that is closed is destroyed. One that is on the air is cut off by that. -/
theorem ensures_close {id : ConnectionId} (holds : publishedStates.holds system)
    (cut : (system.connection id).isOnAir = true → id ∈ system.outside) :
    (close id).Ensures wiring system fun _ after => publishedStates.holds after ∧
      publishedStates.leads system after ∧
        (system.Known id → (after.connection id).destroyed = true) := by
  rw [close_eq, ensures_bind, ensures_look]
  split
  · rename_i live
    have known : system.Known id := by
      refine Decidable.byContradiction fun strange => ?_
      rw [system.connection_of_not_known strange] at live
      cases live
    rw [ensures_bind]
    refine (ensures_setDisconnected obeys _ holds).mono ?_
    rintro _ now ⟨holds, later, ended⟩
    refine (ensures_wrapUp obeys holds ?_).mono fun _ after last =>
      ⟨last.1, later.trans last.2.1, fun known => last.2.2 (later.known id known)⟩
    rcases holds.announced id (Option.some_ne_none _) (ended known) with gone | shown | ⟨telling, -⟩
    · exact .inl gone
    · exact .inr (.inl shown)
    · -- whoever is being told of was so before, and the call was live: it was on the air
      have before := (later.publishing id (Option.some_ne_none _)).symm.trans telling
      exact .inr (.inr (later.closedOnAir id (cut (by rw [Connection.isOnAir, before, live]; rfl))))
  · rename_i dead
    refine ensures_wrapUp obeys holds (.inr (.inl ?_))
    simpa [CallState.isLive] using dead

end
end Act
end Switchboard
