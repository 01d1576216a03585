import Switchboard.Proofs.Hearing

/-! Every change of a connection, seen as a whole. Between steps nobody is being told of anything
(`System.AtRest`); a step on a connection then changes its record, settles it, and lets the news
ripple. The functions here are the changes without the news: `ending`, `bound`, `heed` and so on
are what ends, binds or informs a connection, and each step leads to a ripple of its change. -/

namespace Switchboard

def ConnectionEvent.work? (id : ConnectionId) : ConnectionEvent → Option FollowUp
  | .redialRequested phone permanent => some (.redial id phone permanent)
  | .reselectionRequested cause code => some (.reselect id cause code)
  | _ => none

theorem Act.attend_of_work {ε : Type} {id : ConnectionId} {event : ConnectionEvent}
    {work : FollowUp} (asks : event.work? id = some work) :
    (attend id event : Act ε Unit) = follow id work := by
  cases event <;> cases asks <;> rfl

namespace Connection

def publicity (call : Connection) : CallState × CallState × Bool × Bool × Bool :=
  (call.watched, call.published.state, call.teardownStarted, call.destroyed, call.publishing)

def finished (info : DisconnectInfo) (call : Connection) : Connection :=
  { call with ended := some info, presented := none }

def bound (leg : LegId) (view : RadioSnapshot) (call : Connection) : Connection :=
  { call with
    generation := call.generation + 1
    leg := some leg
    technology := view.technology
    view := some view
    presented := none
    awaitingRedial := false }

def unbound (call : Connection) : Connection :=
  { call with generation := call.generation + 1, leg := none }

def waiting (call : Connection) : Connection :=
  { call.unbound with awaitingRedial := true }

def follow (event : RadioEvent) (call : Connection) : Connection :=
  { call with view := call.view.map (·.apply event) }

theorem follow_visibleState (call : Connection) {event : RadioEvent}
    (plain : ∀ view : RadioSnapshot, (view.apply event).state = view.state) :
    (call.follow event).visibleState = call.visibleState := by
  rw [visibleState, visibleState, follow]
  cases call.ended <;> cases call.presented <;> cases view : call.view <;> simp [plain]

def heeds (call : Connection) (generation : Nat) : Bool :=
  call.generation == generation && call.leg.isSome

end Connection

namespace System

variable {ε κ : Type}

/-- Everything is steady and nobody is being told of anything. -/
structure AtRest (system : System ε) : Prop where
  steady : system.Steady
  quiet (id : ConnectionId) : (system.connection id).publishing = false

theorem AtRest.alive {system : System ε} (rest : system.AtRest) {id : ConnectionId}
    (alive : (system.connection id).destroyed = false) :
    (system.connection id).published.state = (system.connection id).visibleState ∧
      (system.connection id).visibleState ≠ .disconnected := by
  obtain ⟨shown, up, -⟩ := (rest.steady id).rested (rest.quiet id) alive
  exact ⟨shown, up⟩

theorem AtRest.not_ended {system : System ε} (rest : system.AtRest) {id : ConnectionId}
    (alive : (system.connection id).destroyed = false) :
    (system.connection id).ended = none := by
  cases ended : (system.connection id).ended with
  | none => rfl
  | some info => exact absurd (Connection.visibleState_of_ended ended) (rest.alive alive).2

structure PendingChange (system : System ε) (id : ConnectionId) : Prop extends system.Ready id where
  quiet (other : ConnectionId) : (system.connection other).publishing = false

theorem PendingChange.of_connections {system other : System ε} {id : ConnectionId}
    (pendingChange : system.PendingChange id)
    (same : ∀ id, other.connection id = system.connection id) : other.PendingChange id where
  others id differ := by rw [same]; exact pendingChange.others id differ
  watched := by rw [same]; exact pendingChange.watched
  unstarted := by rw [same]; exact pendingChange.unstarted
  quiet id := by rw [same]; exact pendingChange.quiet id

theorem AtRest.revise {system : System ε} (rest : system.AtRest) (id : ConnectionId)
    (change : Connection → Connection)
    (same : ∀ call, (change call).publicity = call.publicity) :
    (system.reviseConnection id change).PendingChange id := by
  have kept := system.read_reviseConnection (·.publicity) (same (system.connection id))
  have part {α : Type} (read : CallState × CallState × Bool × Bool × Bool → α)
      (other : ConnectionId) := congrArg read (kept other)
  exact {
    quiet := fun other => (part (·.2.2.2.2) other).trans (rest.quiet other)
    others := fun other differ => by
      rw [connection_reviseConnection_other _ differ]
      exact rest.steady other
    watched := ((part (·.1) id).trans (rest.steady id).watched).trans (part (·.2.1) id).symm
    unstarted := fun alive => by
      have started := ((rest.steady id).rested (rest.quiet id)
        ((part (·.2.2.2.1) id).symm.trans alive)).2.2
      exact (part (·.2.2.1) id).trans started }

theorem PendingChange.settle {system : System ε} {id : ConnectionId}
    (pendingChange : system.PendingChange id) :
    (system.settle id).AtRest := by
  refine ⟨pendingChange.settle_steady, fun other => ?_⟩
  rw [connection_settle]
  split
  · exact Connection.settled_quiet _
  · exact pendingChange.quiet other

theorem AtRest.of_connections {system other : System ε} (rest : system.AtRest)
    (same : ∀ id, other.connection id = system.connection id) : other.AtRest :=
  ⟨fun id => by rw [same]; exact rest.steady id, fun id => by rw [same]; exact rest.quiet id⟩

theorem AtRest.release {system : System ε} (rest : system.AtRest) (leg : Option LegId) :
    (system.release leg).AtRest :=
  rest.of_connections (system.connection_release leg)

theorem AtRest.reviseLeg {system : System ε} (rest : system.AtRest) (leg : LegId)
    (change : Leg → Leg) : (system.reviseLeg leg change).AtRest :=
  rest.of_connections (system.connection_reviseLeg leg change)

theorem AtRest.reviseConnection {system : System ε} (rest : system.AtRest) (id : ConnectionId)
    (change : Connection → Connection)
    (same : ∀ call, (change call).publicity = call.publicity)
    (shown : ∀ call, (change call).visibleState = call.visibleState) :
    (system.reviseConnection id change).AtRest := by
  have pendingChange := rest.revise id change same
  refine ⟨fun other => ?_, pendingChange.quiet⟩
  by_cases here : other = id
  · subst here
    refine ⟨pendingChange.watched, fun _ alive => ?_⟩
    have kept := system.read_reviseConnection (·.publicity) (same (system.connection other)) other
    have showing := system.read_reviseConnection (·.visibleState) (shown (system.connection other))
      other
    have gone := congrArg (·.2.2.2.1) kept
    have now := rest.alive (gone.symm.trans alive)
    refine ⟨?_, showing ▸ now.2, pendingChange.unstarted alive⟩
    exact (congrArg (·.2.1) kept).trans (now.1.trans showing.symm)
  · exact pendingChange.others other here

def changed (system : System ε) (id : ConnectionId) (change : Connection → Connection) :
    System ε :=
  (system.reviseConnection id change).settle id

theorem AtRest.changed {system : System ε} (rest : system.AtRest) (id : ConnectionId)
    (change : Connection → Connection)
    (same : ∀ call, (change call).publicity = call.publicity) :
    (system.changed id change).AtRest :=
  (rest.revise id change same).settle

theorem connection_changed (system : System ε) (id other : ConnectionId)
    (change : Connection → Connection) :
    (system.changed id change).connection other =
      if other = id ∧ system.Known id then (change (system.connection id)).settled
      else system.connection other := by
  rw [changed, connection_settle]
  simp only [known_reviseConnection]
  by_cases here : other = id ∧ system.Known id
  · rw [if_pos here, if_pos here, connection_reviseConnection_known _ here.2]
  · rw [if_neg here, if_neg here, connection_reviseConnection, if_neg here]

def ending (system : System ε) (id : ConnectionId) (info : DisconnectInfo) : System ε :=
  if (system.connection id).ended.isSome then system else system.changed id (.finished info)

theorem connection_ending_other {system : System ε} {id other : ConnectionId} (differ : other ≠ id)
    (info : DisconnectInfo) :
    (system.ending id info).connection other = system.connection other := by
  rw [ending]
  split
  · rfl
  · rw [connection_changed, if_neg fun here => differ here.1]

theorem AtRest.ending {system : System ε} (rest : system.AtRest) (id : ConnectionId)
    (info : DisconnectInfo) : (system.ending id info).AtRest := by
  rw [System.ending]
  split
  · exact rest
  · exact rest.changed id _ fun _ => rfl

theorem AtRest.destroyed_ending {system : System ε} (rest : system.AtRest) (id : ConnectionId)
    (info : DisconnectInfo) : ((system.ending id info).connection id).destroyed = true := by
  rw [System.ending]
  by_cases gone : (system.connection id).destroyed = true
  · split
    · exact gone
    · rw [connection_changed]
      split
      · rw [Connection.settled_destroyed]
        exact Bool.or_eq_true_iff.mpr (.inl gone)
      · exact gone
  · have alive : (system.connection id).destroyed = false := by simpa using gone
    rw [rest.not_ended alive, if_neg (by simp), connection_changed,
      if_pos ⟨rfl, system.known_of_alive alive⟩, Connection.settled_destroyed]
    have shown : (Connection.finished info (system.connection id)).visibleState = .disconnected :=
      rfl
    have ending : (Connection.finished info (system.connection id)).isEnding = true := by
      rw [Connection.isEnding, shown]
      simpa [Connection.finished] using alive
    rw [ending, Bool.or_true]

def unbound (system : System ε) (id : ConnectionId) : System ε :=
  (system.reviseConnection id .unbound).release (system.connection id).leg

theorem AtRest.destroyed_of_not_live {system : System ε} (rest : system.AtRest)
    {id : ConnectionId} (finished : ¬ (system.connection id).published.state.isLive = true) :
    (system.connection id).destroyed = true := by
  cases gone : (system.connection id).destroyed with
  | true => rfl
  | false =>
    obtain ⟨shown, up⟩ := rest.alive gone
    rw [shown] at finished
    exact absurd (by simpa [CallState.isLive] using up) finished

theorem destroyed_unbound {system : System ε} {id : ConnectionId}
    (gone : (system.connection id).destroyed = true) :
    ((system.unbound id).connection id).destroyed = true := by
  rw [unbound, connection_release, connection_reviseConnection]
  split <;> exact gone

theorem leg_unbound (system : System ε) (id : ConnectionId) :
    ((system.unbound id).connection id).leg = none := by
  rw [unbound, connection_release, connection_reviseConnection]
  split
  · rfl
  · rename_i strange
    have unknown : ¬ system.Known id := fun known => strange ⟨rfl, known⟩
    rw [system.connection_of_not_known unknown]
    rfl

/-- A leg with one more bridge. -/
def attached (system : System ε) (leg : LegId) (bridge : Bridge) : System ε :=
  system.reviseLeg leg ({ · with attached := some bridge, last := some bridge })

def tied (system : System ε) (id : ConnectionId) (leg : LegId) : System ε :=
  ((system.reviseConnection id (.bound leg (system.leg leg).view)).release
    (system.connection id).leg).attached leg
      { connection := id, generation := (system.connection id).generation + 1 }

theorem connection_tied (system : System ε) (id : ConnectionId) (leg : LegId)
    (other : ConnectionId) :
    (system.tied id leg).connection other =
      (system.reviseConnection id (.bound leg (system.leg leg).view)).connection other := by
  rw [tied, attached, connection_reviseLeg, connection_release]

def bound (system : System ε) (id : ConnectionId) (leg : LegId) : System ε :=
  (system.tied id leg).settle id

def givenUp (system : System ε) (id : ConnectionId) : System ε :=
  (system.reviseConnection id .waiting).release (system.connection id).leg

def pursue (system : System ε) (id : ConnectionId) (work : FollowUp) : System ε :=
  if system.attended then { system with signals := system.signals ++ [.follow work] }
  else system.ending id (.ofCause .unspecified)

/-- A listener was told of an event that asks for work. -/
def hear (id : ConnectionId) (event : ConnectionEvent) (work : FollowUp) (system : System ε)
    (listener : Listener) : System ε :=
  let written := { system with journal := .heard listener id event :: system.journal }
  if listener = .exchange then written.pursue id work else written

def ask (system : System ε) (id : ConnectionId) (event : ConnectionEvent) (work : FollowUp) :
    System ε :=
  (system.connection id).listeners.foldl (hear id event work) system

def legEnded (system : System ε) (id : ConnectionId) (failure : RadioFailure) (code : Int)
    (message : String) : System ε :=
  match (system.connection id).endOfLeg failure with
  | .redial phone permanent =>
    (system.givenUp id).ask id (.redialRequested phone permanent) (.redial id phone permanent)
  | .reselect =>
    (system.givenUp id).ask id (.reselectionRequested failure.cause code)
      (.reselect id failure.cause code)
  | .terminal =>
    let info := DisconnectInfo.ofFailure failure code
    system.ending id (if message.isEmpty then info else info.withReason message)

def heed (system : System ε) (id : ConnectionId) : RadioEvent → System ε
  | .disconnected failure code message => system.legEnded id failure code message
  | .stateChanged next =>
    if (system.connection id).visibleState.canBecome next then
      system.changed id ({ ·.follow (.stateChanged next) with presented := none })
    else system
  | .technologyChanged technology =>
    system.changed id ({ ·.follow (.technologyChanged technology) with technology })
  | event => system.changed id (.follow event)

def legEvent (system : System ε) (id : ConnectionId) (generation : Nat) (event : RadioEvent) :
    System ε :=
  if (system.connection id).heeds generation then system.heed id event else system

def follows (system : System ε) (follower : Option Bridge) (event : RadioEvent) : System ε :=
  match follower with
  | some bridge => system.legEvent bridge.connection bridge.generation event
  | none => system

def reported (system : System ε) (leg : LegId) (event : RadioEvent) : System ε :=
  let shown := system.reviseLeg leg fun leg => { leg with view := leg.view.apply event }
  shown.follows (shown.leg leg).attached event

def closed (system : System ε) (id : ConnectionId) : System ε :=
  (if (system.connection id).published.state.isLive then system.ending id .byRequest
    else system).unbound id

section
variable {system : System ε} (rest : system.AtRest)
include rest

theorem AtRest.unbound (id : ConnectionId) : (system.unbound id).AtRest := by
  rw [System.unbound]
  exact (rest.reviseConnection id .unbound (fun _ => rfl) fun _ => rfl).release _

theorem AtRest.givenUp (id : ConnectionId) : (system.givenUp id).AtRest := by
  rw [System.givenUp]
  exact (rest.reviseConnection id .waiting (fun _ => rfl) fun _ => rfl).release _

theorem AtRest.pursue (id : ConnectionId) (work : FollowUp) : (system.pursue id work).AtRest := by
  rw [System.pursue]
  split
  · exact rest.of_connections fun _ => rfl
  · exact rest.ending id _

theorem AtRest.hear (id : ConnectionId) (event : ConnectionEvent) (work : FollowUp)
    (listener : Listener) : (system.hear id event work listener).AtRest := by
  have written : System.AtRest
      { system with journal := .heard listener id event :: system.journal } :=
    rest.of_connections fun _ => rfl
  rw [System.hear]
  split
  · exact written.pursue id work
  · exact written

theorem AtRest.ask (id : ConnectionId) (event : ConnectionEvent) (work : FollowUp) :
    (system.ask id event work).AtRest := by
  rw [System.ask]
  generalize (system.connection id).listeners = listeners
  induction listeners generalizing system with
  | nil => exact rest
  | cons listener others ih => exact ih (rest.hear id event work listener)

theorem AtRest.tied (id : ConnectionId) (leg : LegId) : (system.tied id leg).PendingChange id := by
  have revised := rest.revise id (.bound leg (system.leg leg).view) fun _ => rfl
  exact revised.of_connections (system.connection_tied id leg)

theorem AtRest.bound (id : ConnectionId) (leg : LegId) : (system.bound id leg).AtRest :=
  (rest.tied id leg).settle

theorem AtRest.legEnded (id : ConnectionId) (failure : RadioFailure) (code : Int)
    (message : String) : (system.legEnded id failure code message).AtRest := by
  rw [System.legEnded]
  split
  · exact (rest.givenUp id).ask ..
  · exact (rest.givenUp id).ask ..
  · exact rest.ending id _

theorem AtRest.heed (id : ConnectionId) (event : RadioEvent) : (system.heed id event).AtRest := by
  unfold System.heed
  split
  · exact rest.legEnded ..
  · split
    · exact rest.changed id _ fun _ => rfl
    · exact rest
  · exact rest.changed id _ fun _ => rfl
  · exact rest.changed id _ fun _ => rfl

theorem AtRest.legEvent (id : ConnectionId) (generation : Nat) (event : RadioEvent) :
    (system.legEvent id generation event).AtRest := by
  rw [System.legEvent]
  split
  · exact rest.heed id event
  · exact rest

theorem AtRest.follows (follower : Option Bridge) (event : RadioEvent) :
    (system.follows follower event).AtRest := by
  cases follower with
  | none => exact rest
  | some bridge => exact rest.legEvent ..

theorem AtRest.reported (leg : LegId) (event : RadioEvent) : (system.reported leg event).AtRest :=
  (rest.reviseLeg leg _).follows ..

theorem AtRest.closed (id : ConnectionId) : (system.closed id).AtRest := by
  rw [System.closed]
  split
  · exact (rest.ending id _).unbound id
  · exact rest.unbound id

theorem AtRest.destroyed_closed (id : ConnectionId) :
    ((system.closed id).connection id).destroyed = true := by
  rw [System.closed]
  split
  · exact destroyed_unbound (rest.destroyed_ending id _)
  · rename_i finished
    exact destroyed_unbound (rest.destroyed_of_not_live finished)

end
end System

namespace Ripple

variable {ε κ : Type} {keep : ε → κ} {before after : System ε}

theorem atRest (ripple : Ripple keep before after) (rest : before.AtRest) : after.AtRest :=
  ⟨ripple.steady rest.steady, fun id =>
    (ripple.reads (·.publishing) (fun _ => rfl) id).trans (rest.quiet id)⟩

theorem ready (ripple : Ripple keep before after) {id : ConnectionId} (ready : before.Ready id) :
    after.Ready id where
  others other differ :=
    (Connection.steady_congr (ripple.essence other)).mpr (ready.others other differ)
  watched := by
    have watched := ripple.reads (·.watched) (fun _ => rfl) id
    have shown := ripple.reads (·.published.state) (fun _ => rfl) id
    exact watched.trans (ready.watched.trans shown.symm)
  unstarted alive := by
    have started := ripple.reads (·.teardownStarted) (fun _ => rfl) id
    exact started.trans (ready.unstarted ((ripple.destroyed id).symm.trans alive))

theorem changed (ripple : Ripple keep before after) (id : ConnectionId)
    {change : Connection → Connection}
    (essential : ∀ call, (change call.essence).essence = (change call).essence)
    (final : ∀ call, call.destroyed = true → (change call).destroyed = true) :
    Ripple keep (before.changed id change) (after.changed id change) := by
  refine (ripple.revise id change change ?_ (final _)).settle id
  rw [← essential, ripple.essence, essential]

theorem ending (ripple : Ripple keep before after) (id : ConnectionId) (info : DisconnectInfo) :
    Ripple keep (before.ending id info) (after.ending id info) := by
  rw [System.ending, System.ending, ripple.reads (·.ended) (fun _ => rfl)]
  split
  · exact ripple
  · exact ripple.changed id (fun _ => rfl) fun _ gone => gone

theorem unbound (ripple : Ripple keep before after) (id : ConnectionId) :
    Ripple keep (before.unbound id) (after.unbound id) := by
  rw [System.unbound, System.unbound, ripple.leg]
  exact (ripple.revise id _ _ (congrArg (·.unbound) (ripple.essence id)) fun gone => gone).release _

theorem pursue (ripple : Ripple keep before after) (id : ConnectionId) (work : FollowUp) :
    Ripple keep (before.pursue id work) (after.pursue id work) := by
  rw [System.pursue, System.pursue]
  by_cases attended : before.attended = true
  · rw [if_pos attended, if_pos (ripple.attended.trans attended)]
    refine { ripple with works := ?_ }
    have same := ripple.works
    simp only [System.works, List.filterMap_append] at same ⊢
    rw [same]
  · rw [if_neg attended, if_neg (ripple.attended ▸ attended)]
    exact ripple.ending id _

theorem hear (ripple : Ripple keep before after) (id : ConnectionId) (event : ConnectionEvent)
    (work : FollowUp) (listener : Listener) :
    Ripple keep (before.hear id event work listener) (after.hear id event work listener) := by
  have written : Ripple keep
      { before with journal := .heard listener id event :: before.journal }
      { after with journal := .heard listener id event :: after.journal } :=
    { ripple with
      retry := ripple.retry.imp_right (And.imp_right fun why queue had =>
        (why queue had).imp_right fun ⟨old, among⟩ => ⟨old, List.mem_cons_of_mem _ among⟩)
      journal := fun entry old => by
        rw [List.mem_cons] at old ⊢
        exact old.imp_right (ripple.journal entry)
      requests := by
        have same := ripple.requests
        simp only [System.requests, List.filter_cons] at same ⊢
        rw [same] }
  rw [System.hear, System.hear]
  split
  · exact written.pursue id work
  · exact written

end Ripple

namespace Act

variable {ε κ : Type} {keep : ε → κ} {wiring : Wiring ε} {system : System ε}

theorem ensures_bindLeg (id : ConnectionId) (leg : LegId) (goal : Unit → System ε → Prop) :
    (bind id leg).Ensures wiring system goal ↔
      (do bridged; update id).Ensures wiring (system.tied id leg) goal := by
  rw [System.tied, System.attached]
  simp only [bind, attach, ensures_bind, ensures_get, ensures_look]
  refine (ensures_revise_as (.bound leg (system.leg leg).view) ?_).trans ?_
  · rfl
  cases held : (system.connection id).leg with
  | none =>
    simp only [ensures_bind, ensures_modify]
    exact Iff.rfl
  | some previous =>
    simp only [ensures_bind, ensures_modify, ensures_detach]
    exact Iff.rfl

theorem ensures_giveUp (id : ConnectionId) (next : Act ε Unit) (goal : Unit → System ε → Prop) :
    (do
      revise id ({ · with awaitingRedial := true })
      unbind id
      next).Ensures wiring system goal ↔ next.Ensures wiring (system.givenUp id) goal := by
  rw [ensures_bind, ensures_revise, ensures_bind, ensures_unbind,
    System.reviseConnection_reviseConnection]
  have leg : ((system.reviseConnection id ({ · with awaitingRedial := true })).connection id).leg =
      (system.connection id).leg :=
    system.read_reviseConnection (·.leg) rfl id
  rw [leg]
  exact Iff.rfl

section
variable (rippling : wiring.Ripples keep) (rest : system.AtRest)
include rippling rest

theorem ripple_change (id : ConnectionId) (change : Connection → Connection)
    (same : ∀ call, (change call).publicity = call.publicity) :
    (do revise id change; update id).Ensures wiring system fun _ after =>
      Ripple keep (system.changed id change) after := by
  have pendingChange := rest.revise id change same
  rw [ensures_bind, ensures_revise]
  exact ripple_update rippling pendingChange.toReady (pendingChange.quiet id)

theorem ripple_setDisconnected (id : ConnectionId) (info : DisconnectInfo) :
    (setDisconnected id info).Ensures wiring system fun _ after =>
      Ripple keep (system.ending id info) after := by
  rw [setDisconnected, ensures_bind, ensures_look, System.ending]
  split
  · rw [ensures_pure]
    exact Ripple.refl system
  · exact ripple_change rippling rest id _ fun _ => rfl

theorem ripple_bind (id : ConnectionId) (leg : LegId) :
    (bind id leg).Ensures wiring system fun _ after =>
      Ripple keep (system.bound id leg) after := by
  have pendingChange := rest.tied id leg
  rw [ensures_bindLeg, ensures_bind]
  refine (ripple_bridged rippling).mono fun _ next told => ?_
  have idle : (next.connection id).publishing = false :=
    (told.reads (·.publishing) (fun _ => rfl) id).trans (pendingChange.quiet id)
  exact (ripple_update rippling (told.ready pendingChange.toReady) idle).mono
    fun _ _ last => (told.settle id).trans last

theorem ripple_close (id : ConnectionId) :
    (close id).Ensures wiring system fun _ after => Ripple keep (system.closed id) after := by
  have drop {ended now : System ε} (ripple : Ripple keep ended now)
      (gone : (now.connection id).destroyed = true) :
      (wrapUp id).Ensures wiring now fun _ after => Ripple keep (ended.unbound id) after := by
    rw [ensures_wrapUp_destroyed gone, ensures_unbind]
    exact ripple.unbound id
  rw [close_eq, ensures_bind, ensures_look, System.closed]
  by_cases live : (system.connection id).published.state.isLive = true
  · rw [if_pos live, if_pos live, ensures_bind]
    refine (ripple_setDisconnected rippling rest id .byRequest).mono fun _ now ripple => ?_
    exact drop ripple ((ripple.destroyed id).trans (rest.destroyed_ending id _))
  · rw [if_neg live, if_neg live]
    exact drop (Ripple.refl system) (rest.destroyed_of_not_live live)

theorem ripple_follow (id : ConnectionId) (work : FollowUp) :
    (follow id work).Ensures wiring system fun _ after =>
      Ripple keep (system.pursue id work) after := by
  rw [follow, ensures_bind, ensures_get, System.pursue]
  split
  · rw [ensures_signal]
    exact Ripple.refl _
  · exact ripple_setDisconnected rippling rest id _

theorem ripple_hear {bystanders : Bystanders ε} (observe : bystanders.Observe keep)
    {id : ConnectionId} {event : ConnectionEvent} {work : FollowUp}
    (asks : event.work? id = some work) (listener : Listener) :
    (bystanders.tellOne id event listener).Ensures wiring system fun _ after =>
      Ripple keep (system.hear id event work listener) after := by
  unfold Bystanders.tellOne
  rw [ensures_bind, ensures_write, System.hear]
  cases listener with
  | recorder =>
    rw [ensures_pure, if_neg (by decide)]
    exact Ripple.refl _
  | exchange =>
    rw [if_pos rfl]
    have written : System.AtRest
        { system with journal := .heard .exchange id event :: system.journal } :=
      rest.of_connections fun _ => rfl
    simp only [attend_of_work asks]
    exact ripple_follow rippling written id work
  | observer name =>
    rw [if_neg (by simp)]
    refine (observe.hear name id event _ _).mono fun _ after own => ?_
    obtain ⟨outside, kept, rfl⟩ := own
    exact Ripple.of_outside _ kept

end

section
variable {bystanders : Bystanders ε} (observe : bystanders.Observe keep) (rounds : Nat)
  (rest : system.AtRest)
include observe rest

theorem ripple_ask {id : ConnectionId} {event : ConnectionEvent} {work : FollowUp}
    (asks : event.work? id = some work) :
    (notify id event).Ensures (.level bystanders rounds) system fun _ after =>
      Ripple keep (system.ask id event work) after := by
  rw [ensures_notify, ensures_tell, System.ask]
  cases rounds with
  | zero =>
    intro after run
    cases run
  | succ rounds =>
    have all (listeners : List Listener) {told now : System ε} (calm : told.AtRest)
        (ripple : Ripple keep told now) :
        (listeners.forM (bystanders.tellOne id event)).Ensures (.level bystanders rounds) now
          fun _ after => Ripple keep (listeners.foldl (System.hear id event work) told) after := by
      induction listeners generalizing told now with
      | nil =>
        rw [List.forM, ensures_pure]
        exact ripple
      | cons listener others ih =>
        rw [List.forM, ensures_bind]
        refine (ripple_hear (Wiring.ripples_level observe rounds) (ripple.atRest calm) observe asks
          listener).mono fun _ next told => ?_
        exact ih (calm.hear ..) ((ripple.hear ..).trans told)
    intro after run
    exact all _ rest (Ripple.refl system) ⟨⟩ after run

theorem ripple_giveUp {id : ConnectionId} {event : ConnectionEvent} {work : FollowUp}
    (asks : event.work? id = some work) :
    (do
      revise id ({ · with awaitingRedial := true })
      unbind id
      notify id event).Ensures (.level bystanders rounds) system fun _ after =>
        Ripple keep ((system.givenUp id).ask id event work) after := by
  rw [ensures_giveUp]
  exact ripple_ask observe rounds (rest.givenUp id) asks

theorem ripple_legEnded (id : ConnectionId) (failure : RadioFailure) (code : Int)
    (message : String) :
    (legEnded id failure code message).Ensures (.level bystanders rounds) system fun _ after =>
      Ripple keep (system.legEnded id failure code message) after := by
  rw [legEnded, ensures_bind, ensures_look, System.legEnded]
  cases (system.connection id).endOfLeg failure with
  | redial phone permanent =>
    refine ripple_giveUp observe rounds rest ?_
    rfl
  | reselect =>
    refine ripple_giveUp observe rounds rest ?_
    rfl
  | terminal => exact ripple_setDisconnected (Wiring.ripples_level observe rounds) rest id _

theorem ripple_legEvent (id : ConnectionId) (generation : Nat) (event : RadioEvent) :
    (legEvent id generation event).Ensures (.level bystanders rounds) system fun _ after =>
      Ripple keep (system.legEvent id generation event) after := by
  have rippling := Wiring.ripples_level observe rounds
  simp only [legEvent, ensures_bind, ensures_look]
  rw [System.legEvent]
  have heeds : ((system.connection id).generation == generation &&
      (system.connection id).leg.isSome) = (system.connection id).heeds generation := rfl
  rw [heeds]
  split
  · cases event with
    | disconnected failure code message => exact ripple_legEnded observe rounds rest id _ _ _
    | stateChanged next =>
      simp only [System.heed]
      split
      · refine ripple_change rippling rest id _ ?_
        exact fun _ => rfl
      · rw [ensures_pure]
        exact Ripple.refl system
    | _ =>
      refine ripple_change rippling rest id _ ?_
      exact fun _ => rfl
  · rw [ensures_pure]
    exact Ripple.refl system

theorem ripple_follows (follower : Option Bridge) (event : RadioEvent) :
    (do
      if let some bridge := follower then
        legEvent bridge.connection bridge.generation event : Act ε Unit).Ensures
      (.level bystanders rounds) system fun _ after =>
        Ripple keep (system.follows follower event) after := by
  cases follower with
  | none =>
    rw [ensures_pure]
    exact Ripple.refl system
  | some bridge => exact ripple_legEvent observe rounds rest _ _ event

theorem ripple_report (leg : LegId) (event : RadioEvent) :
    (report leg event).Ensures (.level bystanders rounds) system fun _ after =>
      Ripple keep (system.reported leg event) after := by
  simp only [report, ensures_bind, ensures_modify, ensures_get]
  exact ripple_follows observe rounds (rest.reviseLeg leg _) _ event

theorem ripple_reportLate (leg : LegId) (event : RadioEvent) :
    (reportLate leg event).Ensures (.level bystanders rounds) system fun _ after =>
      Ripple keep (system.follows (system.leg leg).last event) after := by
  rw [reportLate, ensures_bind, ensures_get]
  cases (system.leg leg).last with
  | none =>
    rw [ensures_pure]
    exact Ripple.refl system
  | some bridge =>
    rw [ensures_bind]
    refine (ripple_legEvent observe rounds rest _ _ event).mono fun _ after ripple => ?_
    rw [ensures_pure]
    exact ripple

end
end Act
end Switchboard
