import Switchboard.Proofs.Handling

/-! Which failures make an emergency call ask for another attempt. The rule looks at the state
that the call shows at the moment, not at what it was before, so a call that was connected is
tried again exactly when it has left its connected states since: by being bound to another leg,
by a leg that reported to be disconnecting, or by its end. -/

namespace Switchboard

namespace Entry

def isRedialOf (id : ConnectionId) : Entry → Bool
  | .heard _ other (.redialRequested _ _) => other == id
  | _ => false

theorem isRequest_of_isRedialOf {id : ConnectionId} {entry : Entry}
    (redial : entry.isRedialOf id = true) : entry.isRequest = true := by
  unfold isRedialOf at redial
  split at redial
  · rfl
  · cases redial

end Entry

namespace Connection

theorem settled_visibleState (call : Connection) :
    call.settled.visibleState = call.visibleState := by
  unfold settled
  split
  · rfl
  · split <;> rfl

def Viewed (call : Connection) : Prop :=
  call.leg.isSome = true → call.view.isSome = true

theorem Viewed.settled {call : Connection} (viewed : call.Viewed) : call.settled.Viewed := by
  unfold Connection.settled
  split
  · exact viewed
  · split
    · exact fun leg => by cases leg
    · exact viewed

end Connection

namespace System

variable {ε κ : Type}

/-- How often somebody was told that the connection wants another phone. -/
def redials (system : System ε) (id : ConnectionId) : Nat :=
  system.journal.countP (Entry.isRedialOf id)

def Connected (system : System ε) (id : ConnectionId) : Prop :=
  (system.connection id).visibleState.isConnected = true

theorem redials_eq_requests (system : System ε) (id : ConnectionId) :
    system.redials id = system.requests.countP (Entry.isRedialOf id) := by
  rw [redials, requests, List.countP_filter]
  refine List.countP_congr fun entry _ => ?_
  simp only [Bool.and_eq_true]
  exact ⟨fun redial => ⟨redial, Entry.isRequest_of_isRedialOf redial⟩, fun both => both.1⟩

end System

theorem Ripple.redials {ε κ : Type} {keep : ε → κ} {before after : System ε}
    (ripple : Ripple keep before after) (id : ConnectionId) :
    after.redials id = before.redials id := by
  rw [System.redials_eq_requests, System.redials_eq_requests, ripple.requests]

namespace System

variable {ε : Type}

@[simp] theorem journal_release (system : System ε) (leg : Option LegId) :
    (system.release leg).journal = system.journal := by
  cases leg <;> rfl

@[simp] theorem journal_settle (system : System ε) (id : ConnectionId) :
    (system.settle id).journal = system.journal := by
  rw [settle, journal_release, reviseConnection_journal]

@[simp] theorem journal_changed (system : System ε) (id : ConnectionId)
    (change : Connection → Connection) : (system.changed id change).journal = system.journal := by
  rw [changed, journal_settle, reviseConnection_journal]

@[simp] theorem journal_ending (system : System ε) (id : ConnectionId) (info : DisconnectInfo) :
    (system.ending id info).journal = system.journal := by
  rw [ending]
  split
  · rfl
  · exact journal_changed ..

@[simp] theorem journal_unbound (system : System ε) (id : ConnectionId) :
    (system.unbound id).journal = system.journal := by
  rw [unbound, journal_release, reviseConnection_journal]

@[simp] theorem journal_givenUp (system : System ε) (id : ConnectionId) :
    (system.givenUp id).journal = system.journal := by
  rw [givenUp, journal_release, reviseConnection_journal]

@[simp] theorem journal_bound (system : System ε) (id : ConnectionId) (leg : LegId) :
    (system.bound id leg).journal = system.journal := by
  rw [bound, journal_settle, tied, attached]
  exact (journal_release ..).trans (reviseConnection_journal ..)

theorem journal_hear (system : System ε) (id : ConnectionId) (event : ConnectionEvent)
    (work : FollowUp) (listener : Listener) :
    (system.hear id event work listener).journal = .heard listener id event :: system.journal := by
  rw [hear]
  split
  · rw [pursue]
    split
    · rfl
    · exact journal_ending ..
  · rfl

theorem journal_ask (system : System ε) (id : ConnectionId) (event : ConnectionEvent)
    (work : FollowUp) :
    (system.ask id event work).journal =
      ((system.connection id).listeners.map (.heard · id event)).reverse ++ system.journal := by
  rw [ask]
  generalize (system.connection id).listeners = listeners
  induction listeners generalizing system with
  | nil => rfl
  | cons listener others ih =>
    rw [List.foldl_cons, ih, journal_hear]
    simp

theorem redials_of_journal {system other : System ε} (same : other.journal = system.journal)
    (id : ConnectionId) : other.redials id = system.redials id := by
  rw [redials, redials, same]

theorem redials_ask_redial (system : System ε) (id other : ConnectionId) (phone : PhoneId)
    (permanent : Bool) (work : FollowUp) :
    (system.ask id (.redialRequested phone permanent) work).redials other =
      (if id = other then (system.connection id).listeners.length else 0) +
        system.redials other := by
  rw [redials, journal_ask, List.countP_append, List.countP_reverse, List.countP_map]
  congr 1
  split
  · rename_i same
    rw [List.countP_eq_length]
    intro listener _
    simp [Entry.isRedialOf, same]
  · rename_i differ
    rw [List.countP_eq_zero]
    intro listener _
    simp [Entry.isRedialOf, differ]

theorem redials_ask_reselection (system : System ε) (id other : ConnectionId)
    (cause : DisconnectCause) (code : Int) (work : FollowUp) :
    (system.ask id (.reselectionRequested cause code) work).redials other =
      system.redials other := by
  have none : ((system.connection id).listeners.map
      (.heard · id (.reselectionRequested cause code))).reverse.countP
        (Entry.isRedialOf other) = 0 := by
    rw [List.countP_eq_zero]
    intro entry among
    simp only [List.mem_reverse, List.mem_map] at among
    obtain ⟨listener, _, rfl⟩ := among
    simp [Entry.isRedialOf]
  rw [redials, journal_ask, List.countP_append, none, Nat.zero_add, redials]

theorem redials_heed (system : System ε) (id other : ConnectionId) (event : RadioEvent) :
    system.redials other < (system.heed id event).redials other ↔
      id = other ∧ (system.connection id).listeners ≠ [] ∧
        ∃ failure code message phone permanent, event = .disconnected failure code message ∧
          (system.connection id).endOfLeg failure = .redial phone permanent := by
  have still {after : System ε} (same : after.journal = system.journal) :
      ¬ system.redials other < after.redials other := by
    rw [redials_of_journal same]
    exact Nat.lt_irrefl _
  cases event with
  | disconnected failure code message =>
    simp only [heed, legEnded]
    cases plan : (system.connection id).endOfLeg failure with
    | redial phone permanent =>
      have listeners : ((system.givenUp id).connection id).listeners =
          (system.connection id).listeners := by
        rw [givenUp, connection_release, connection_reviseConnection]
        split <;> rfl
      simp only [redials_ask_redial, listeners,
        redials_of_journal (journal_givenUp system id)]
      constructor
      · intro more
        split at more
        · rename_i same
          have some : 0 < (system.connection id).listeners.length := by omega
          exact ⟨same, List.length_pos_iff.mp some, failure, code, message, phone, permanent, rfl,
            plan⟩
        · omega
      · rintro ⟨same, some, -⟩
        have count := List.length_pos_iff.mpr some
        rw [if_pos same]
        omega
    | reselect =>
      simp only [redials_ask_reselection, redials_of_journal (journal_givenUp system id),
        Nat.lt_irrefl, false_iff]
      rintro ⟨-, -, failure', code', message', phone, permanent, same, asks⟩
      cases same
      rw [plan] at asks
      cases asks
    | terminal =>
      refine iff_of_false (still (journal_ending ..)) ?_
      rintro ⟨-, -, failure', code', message', phone, permanent, same, asks⟩
      cases same
      rw [plan] at asks
      cases asks
  | stateChanged next =>
    refine iff_of_false ?_ (by rintro ⟨-, -, _, _, _, _, _, same, -⟩; cases same)
    rw [heed]
    split
    · exact still (journal_changed ..)
    · exact Nat.lt_irrefl _
  | _ =>
    refine iff_of_false (still (journal_changed ..)) ?_
    rintro ⟨-, -, _, _, _, _, _, same, -⟩
    cases same

def delivery (system : System ε) (follower : Option Bridge) : Option ConnectionId :=
  follower.bind fun bridge =>
    if (system.connection bridge.connection).heeds bridge.generation then some bridge.connection
    else none

theorem follows_eq (system : System ε) (follower : Option Bridge) (event : RadioEvent) :
    system.follows follower event =
      match system.delivery follower with
      | some id => system.heed id event
      | none => system := by
  cases follower with
  | none => rfl
  | some bridge =>
    rw [follows, legEvent, delivery, Option.bind_some]
    split <;> rfl

theorem attached_reviseLeg (system : System ε) (leg : LegId) {change : Leg → Leg}
    (same : ∀ leg, (change leg).attached = leg.attached) :
    ((system.reviseLeg leg change).leg leg).attached = (system.leg leg).attached := by
  by_cases known : leg.serial < system.legs.length
  · simp [reviseLeg, System.leg, List.getD_eq_getElem?_getD, known, same]
  · simp [reviseLeg, System.leg, List.getD_eq_getElem?_getD, known]

theorem reported_eq (system : System ε) (leg : LegId) (event : RadioEvent) :
    system.reported leg event =
      (system.reviseLeg leg fun leg => { leg with view := leg.view.apply event }).follows
        (system.leg leg).attached event := by
  rw [reported, attached_reviseLeg]
  exact fun _ => rfl

theorem redials_follows (system : System ε) (follower : Option Bridge) (event : RadioEvent)
    (id : ConnectionId) :
    system.redials id < (system.follows follower event).redials id ↔
      system.delivery follower = some id ∧ (system.connection id).listeners ≠ [] ∧
        ∃ failure code message phone permanent, event = .disconnected failure code message ∧
          (system.connection id).endOfLeg failure = .redial phone permanent := by
  rw [follows_eq]
  cases system.delivery follower with
  | none => simp
  | some other =>
    simp only [redials_heed, Option.some.injEq]
    constructor
    · rintro ⟨rfl, rest⟩
      exact ⟨rfl, rest⟩
    · rintro ⟨rfl, rest⟩
      exact ⟨rfl, rest⟩

end System

namespace Move

variable {ε : Type}

/-- The connection that heeds what the radio says in the move, and what that is. -/
def heard (system : System ε) : Move → Option (ConnectionId × RadioEvent)
  | report leg event => (system.delivery (system.leg leg).attached).map (·, event)
  | reportLate leg event => (system.delivery (system.leg leg).last).map (·, event)
  | inform id event =>
    (system.delivery
      (some { connection := id, generation := (system.connection id).generation })).map
      (·, event)
  | _ => none

def AsksForPhone (system : System ε) (move : Move) (id : ConnectionId) : Prop :=
  ∃ failure code message, move.heard system = some (id, .disconnected failure code message) ∧
    (system.connection id).listeners ≠ [] ∧
      ∃ phone permanent, (system.connection id).endOfLeg failure = .redial phone permanent

theorem not_asksForPhone {system : System ε} {move : Move} (nothing : move.heard system = none)
    (id : ConnectionId) : ¬ move.AsksForPhone system id := by
  rintro ⟨_, _, _, heard, -⟩
  rw [nothing] at heard
  cases heard

theorem redials_of_heard {system shown : System ε} {move : Move} {follower : Option Bridge}
    {event : RadioEvent} (heard : move.heard system = (system.delivery follower).map (·, event))
    (same : ∀ id, shown.connection id = system.connection id)
    (journal : shown.journal = system.journal) (id : ConnectionId) :
    system.redials id < (shown.follows follower event).redials id ↔
      move.AsksForPhone system id := by
  have delivery : shown.delivery follower = system.delivery follower := by
    cases follower with
    | none => rfl
    | some bridge => simp only [System.delivery, Option.bind_some, same]
  rw [← System.redials_of_journal journal, System.redials_follows, AsksForPhone, heard, same,
    delivery]
  constructor
  · rintro ⟨heeds, some, failure, code, message, phone, permanent, rfl, plan⟩
    exact ⟨failure, code, message, by rw [heeds]; rfl, some, phone, permanent, plan⟩
  · rintro ⟨failure, code, message, heard, some, phone, permanent, plan⟩
    obtain ⟨other, heeds, both⟩ := Option.map_eq_some_iff.mp heard
    obtain ⟨rfl, rfl⟩ := Prod.mk.inj both
    exact ⟨heeds, some, failure, code, message, phone, permanent, rfl, plan⟩

theorem redials_outcome (system : System ε) (move : Move) (id : ConnectionId) :
    system.redials id < (move.outcome system).redials id ↔ move.AsksForPhone system id := by
  have silent (journal : (move.outcome system).journal = system.journal)
      (nothing : move.heard system = none) :
      system.redials id < (move.outcome system).redials id ↔ move.AsksForPhone system id := by
    rw [System.redials_of_journal journal]
    exact iff_of_false (Nat.lt_irrefl _) (not_asksForPhone nothing id)
  cases move with
  | report leg event =>
    rw [outcome, System.reported_eq]
    exact redials_of_heard rfl (system.connection_reviseLeg leg _) rfl id
  | reportLate leg event => exact redials_of_heard rfl (fun _ => rfl) rfl id
  | inform other event => exact redials_of_heard rfl (fun _ => rfl) rfl id
  | bind id leg => exact silent (System.journal_bound ..) rfl
  | unbind id => exact silent (System.journal_unbound ..) rfl
  | disconnect id info => exact silent (System.journal_ending ..) rfl
  | close id =>
    refine silent ?_ rfl
    rw [outcome, System.closed, System.journal_unbound]
    split
    · exact System.journal_ending ..
    · rfl
  | presentHolding id =>
    refine silent ?_ rfl
    rw [outcome]
    split
    · rfl
    · exact System.journal_changed ..
  | addListener id listener =>
    refine silent ?_ rfl
    rw [outcome]
    split
    · rfl
    · exact System.reviseConnection_journal ..
  | setRedialEnabled id enabled => exact silent (System.reviseConnection_journal ..) rfl
  | setSelectionActive id active => exact silent (System.reviseConnection_journal ..) rfl
  | removeListener id listener => exact silent (System.reviseConnection_journal ..) rfl
  | create params => exact silent rfl rfl
  | createLeg view => exact silent rfl rfl
  | setHoldAllowed id allowed => exact silent rfl rfl
  | setConference id conference => exact silent rfl rfl
  | attend on => exact silent rfl rfl
  | _ => exact silent (System.journal_changed ..) rfl

end Move

namespace System

variable {ε : Type}

def Viewed (system : System ε) : Prop :=
  ∀ id, (system.connection id).Viewed

namespace Viewed

variable {system : System ε}

theorem of_connections {other : System ε} (viewed : system.Viewed)
    (same : ∀ id, other.connection id = system.connection id) : other.Viewed := by
  intro id
  rw [same]
  exact viewed id

theorem reviseConnection (viewed : system.Viewed) (id : ConnectionId)
    (change : Connection → Connection)
    (kept : (system.connection id).Viewed → (change (system.connection id)).Viewed) :
    (system.reviseConnection id change).Viewed := by
  intro other
  rw [connection_reviseConnection]
  split
  · exact kept (viewed id)
  · exact viewed other

theorem settle (viewed : system.Viewed) (id : ConnectionId) : (system.settle id).Viewed := by
  intro other
  rw [connection_settle]
  split
  · exact (viewed id).settled
  · exact viewed other

theorem changed (viewed : system.Viewed) (id : ConnectionId) (change : Connection → Connection)
    (kept : (system.connection id).Viewed → (change (system.connection id)).Viewed) :
    (system.changed id change).Viewed :=
  (viewed.reviseConnection id change kept).settle id

theorem ending (viewed : system.Viewed) (id : ConnectionId) (info : DisconnectInfo) :
    (system.ending id info).Viewed := by
  rw [System.ending]
  split
  · exact viewed
  · exact viewed.changed id _ fun kept => kept

theorem unbound (viewed : system.Viewed) (id : ConnectionId) : (system.unbound id).Viewed :=
  (viewed.reviseConnection id .unbound fun _ leg => by cases leg).of_connections
    (connection_release _ _)

theorem givenUp (viewed : system.Viewed) (id : ConnectionId) : (system.givenUp id).Viewed :=
  (viewed.reviseConnection id .waiting fun _ leg => by cases leg).of_connections
    (connection_release _ _)

theorem bound (viewed : system.Viewed) (id : ConnectionId) (leg : LegId) :
    (system.bound id leg).Viewed :=
  ((viewed.reviseConnection id (.bound leg (system.leg leg).view) fun _ _ => rfl).of_connections
    (system.connection_tied id leg)).settle id

theorem ask (viewed : system.Viewed) (id : ConnectionId) (event : ConnectionEvent)
    (work : FollowUp) : (system.ask id event work).Viewed := by
  rw [System.ask]
  generalize (system.connection id).listeners = listeners
  induction listeners generalizing system with
  | nil => exact viewed
  | cons listener others ih =>
    refine ih ?_
    have written : System.Viewed
        { system with journal := .heard listener id event :: system.journal } := viewed
    rw [System.hear]
    split
    · rw [System.pursue]
      split
      · exact viewed
      · exact written.ending id _
    · exact written

theorem follows (viewed : system.Viewed) (follower : Option Bridge) (event : RadioEvent) :
    (system.follows follower event).Viewed := by
  have followed (id : ConnectionId) (kept : (system.connection id).Viewed) :
      ((system.connection id).follow event).Viewed := by
    intro leg
    have view := kept leg
    simpa [Connection.follow] using view
  rw [follows_eq]
  split
  · rename_i id _
    cases event with
    | disconnected failure code message =>
      simp only [heed, legEnded]
      split
      · exact (viewed.givenUp id).ask id _ _
      · exact (viewed.givenUp id).ask id _ _
      · exact viewed.ending id _
    | stateChanged next =>
      rw [heed]
      split
      · exact viewed.changed id _ (followed id)
      · exact viewed
    | _ => exact viewed.changed id _ (followed id)
  · exact viewed

end Viewed
end System

namespace Move

variable {ε : Type} {system : System ε}

theorem outcome_viewed (move : Move) (viewed : system.Viewed) : (move.outcome system).Viewed := by
  cases move with
  | create params =>
    intro id
    rw [outcome, System.connection_append]
    split
    · exact fun leg => by cases leg
    · exact viewed id
  | createLeg view => exact viewed
  | bind id leg => exact viewed.bound id leg
  | unbind id => exact viewed.unbound id
  | report leg event =>
    rw [outcome, System.reported_eq]
    exact (viewed.of_connections (system.connection_reviseLeg leg _)).follows _ event
  | reportLate leg event => exact viewed.follows _ event
  | inform id event => exact viewed.follows (some _) event
  | disconnect id info => exact viewed.ending id info
  | close id =>
    rw [outcome, System.closed]
    split
    · exact (viewed.ending id _).unbound id
    · exact viewed.unbound id
  | presentHolding id =>
    rw [outcome]
    split
    · exact viewed
    · exact viewed.changed id _ fun kept => kept
  | setRedialEnabled id enabled => exact viewed.reviseConnection id _ fun kept => kept
  | setSelectionActive id active => exact viewed.reviseConnection id _ fun kept => kept
  | addListener id listener =>
    rw [outcome]
    split
    · exact viewed
    · exact viewed.reviseConnection id _ fun kept => kept
  | removeListener id listener => exact viewed.reviseConnection id _ fun kept => kept
  | setHoldAllowed id allowed => exact viewed
  | setConference id conference => exact viewed
  | attend on => exact viewed
  | putExtras id extras => exact viewed.changed id _ fun kept => kept
  | removeExtras id keys => exact viewed.changed id _ fun kept => kept
  | setRttStream id stream => exact viewed.changed id _ fun kept => kept
  | reassign id phone subscription technology carrier =>
    exact viewed.changed id _ fun kept => kept

end Move

namespace Connection

theorem endOfLeg_eq_redial_iff (call : Connection) (failure : RadioFailure) :
    (∃ phone permanent, call.endOfLeg failure = .redial phone permanent) ↔
      call.emergency = true ∧ call.redialEnabled = true ∧ failure.retryClass ≠ .none ∧
        ¬ call.visibleState.isConnected = true := by
  unfold endOfLeg
  constructor
  · rintro ⟨phone, permanent, plan⟩
    split at plan
    · rename_i asks
      simpa [and_assoc] using asks
    · split at plan <;> cases plan
  · rintro ⟨emergency, enabled, retry, unconnected⟩
    refine ⟨call.phone, failure.retryClass == .permanent, if_pos ?_⟩
    simp [emergency, enabled, retry, unconnected]

theorem follow_stateChanged_visibleState {call : Connection} (ended : call.ended = none)
    (view : call.view.isSome = true) (next : CallState) :
    ({ call.follow (.stateChanged next) with presented := none } : Connection).visibleState =
      next := by
  obtain ⟨shown, held⟩ := Option.isSome_iff_exists.mp view
  simp [visibleState, follow, ended, held, RadioSnapshot.apply]

theorem not_ended_of_connected {call : Connection}
    (connected : call.visibleState.isConnected = true) : call.ended = none := by
  cases ended : call.ended with
  | none => rfl
  | some info =>
    rw [visibleState_of_ended ended] at connected
    cases connected

end Connection

namespace System

variable {ε : Type} {system : System ε}

theorem connected_changed {id other : ConnectionId} (change : Connection → Connection)
    (shown : (change (system.connection id)).visibleState = (system.connection id).visibleState)
    (connected : system.Connected other) : (system.changed id change).Connected other := by
  rw [Connected, connection_changed]
  split
  · rename_i here
    rw [Connection.settled_visibleState, shown, ← here.1]
    exact connected
  · exact connected

theorem connected_revised {id : ConnectionId} (other : ConnectionId)
    {change : Connection → Connection}
    (shown : ∀ call, (change call).visibleState = call.visibleState)
    (connected : system.Connected id) : (system.reviseConnection other change).Connected id := by
  rw [Connected, system.read_reviseConnection (·.visibleState) (shown _)]
  exact connected

theorem connected_append {id : ConnectionId} (connection : Connection)
    (connected : system.Connected id) :
    ({ system with connections := system.connections ++ [connection] } : System ε).Connected id :=
      by
  rw [Connected, connection_append]
  split
  · rename_i fresh
    have strange : ¬ system.Known id := by
      rw [fresh]
      exact Nat.lt_irrefl _
    rw [Connected, system.connection_of_not_known strange] at connected
    cases connected
  · exact connected

theorem connected_bound {id other : ConnectionId} (differ : id ≠ other) (leg : LegId)
    (connected : system.Connected id) : (system.bound other leg).Connected id := by
  rw [Connected, bound, connection_settle, if_neg fun here => differ here.1, connection_tied,
    connection_reviseConnection_other _ differ]
  exact connected

theorem connected_unbound {id : ConnectionId} (other : ConnectionId)
    (connected : system.Connected id) : (system.unbound other).Connected id := by
  rw [Connected, unbound, connection_release]
  exact connected_revised other (fun _ => rfl) connected

theorem connected_ending {id other : ConnectionId} (differ : id ≠ other) (info : DisconnectInfo)
    (connected : system.Connected id) : (system.ending other info).Connected id := by
  rw [Connected, connection_ending_other differ]
  exact connected

theorem connected_closed {id other : ConnectionId} (differ : id ≠ other)
    (connected : system.Connected id) : (system.closed other).Connected id := by
  rw [closed]
  split
  · exact connected_unbound other (connected_ending differ _ connected)
  · exact connected_unbound other connected

theorem connection_ask (rest : system.AtRest) (id : ConnectionId) (event : ConnectionEvent)
    (work : FollowUp) (other : ConnectionId) :
    (system.ask id event work).connection other = system.connection other ∨
      ((system.ask id event work).connection other).destroyed = true := by
  have heard {now : System ε} (calm : now.AtRest) (listener : Listener) :
      (now.hear id event work listener).connection other = now.connection other ∨
        ((now.hear id event work listener).connection other).destroyed = true := by
    have written : System.AtRest
        { now with journal := .heard listener id event :: now.journal } :=
      calm.of_connections fun _ => rfl
    rw [hear]
    split
    · rw [pursue]
      split
      · exact .inl rfl
      · by_cases same : other = id
        · subst same
          exact .inr (written.destroyed_ending other _)
        · exact .inl (connection_ending_other same _)
    · exact .inl rfl
  have all (listeners : List Listener) {now : System ε} (calm : now.AtRest)
      (sofar : now.connection other = system.connection other ∨
        (now.connection other).destroyed = true) :
      (listeners.foldl (hear id event work) now).connection other = system.connection other ∨
        ((listeners.foldl (hear id event work) now).connection other).destroyed = true := by
    induction listeners generalizing now with
    | nil => exact sofar
    | cons listener others ih =>
      refine ih (calm.hear id event work listener) ?_
      rcases heard calm listener with same | gone
      · rw [same]
        exact sofar
      · exact .inr gone
  exact all _ rest (.inl rfl)

theorem connected_stateChanged (viewed : system.Viewed) {id : ConnectionId}
    (leg : (system.connection id).leg.isSome = true) {next : CallState}
    (allowed : (system.connection id).visibleState.canBecome next = true)
    (connected : system.Connected id) :
    let after := system.changed id ({ ·.follow (.stateChanged next) with presented := none })
    after.Connected id ∨ next = .disconnecting ∨ (after.connection id).destroyed = true := by
  intro after
  obtain ⟨held, had⟩ := Option.isSome_iff_exists.mp leg
  have ended := Connection.not_ended_of_connected connected
  have shown := Connection.follow_stateChanged_visibleState ended (viewed id leg) next
  have now : after.connection id =
      ({ (system.connection id).follow (.stateChanged next) with
        presented := none } : Connection).settled := by
    rw [connection_changed, if_pos ⟨rfl, system.known_of_leg had⟩]
  rw [Connected, now, Connection.settled_visibleState, shown, Connection.settled_destroyed,
    Connection.isEnding, shown]
  unfold Connected at connected
  cases state : (system.connection id).visibleState <;> rw [state] at connected allowed <;>
    cases connected <;> cases next <;> simp_all [CallState.canBecome, CallState.isConnected]

theorem connected_heed (rest : system.AtRest) (viewed : system.Viewed) {id other : ConnectionId}
    (leg : (system.connection id).leg.isSome = true) (event : RadioEvent)
    (connected : system.Connected other) :
    (system.heed id event).Connected other ∨
      id = other ∧ event = .stateChanged .disconnecting ∨
      ((system.heed id event).connection other).destroyed = true := by
  have asked (event : ConnectionEvent) (work : FollowUp) :
      ((system.givenUp id).ask id event work).Connected other ∨
        (((system.givenUp id).ask id event work).connection other).destroyed = true := by
    refine (connection_ask (rest.givenUp id) id event work other).imp_left fun same => ?_
    rw [Connected, same, givenUp, connection_release, connection_reviseConnection]
    split
    · rename_i here
      rw [here.1] at connected
      exact connected
    · exact connected
  cases event with
  | disconnected failure code message =>
    simp only [heed, legEnded]
    split
    · exact (asked ..).imp_right .inr
    · exact (asked ..).imp_right .inr
    · by_cases same : other = id
      · subst same
        exact .inr (.inr (rest.destroyed_ending other _))
      · exact .inl (connected_ending same _ connected)
  | stateChanged next =>
    rw [heed]
    split
    · rename_i allowed
      by_cases same : other = id
      · subst same
        refine (connected_stateChanged viewed leg allowed connected).imp_right ?_
        exact Or.imp_left fun slips => ⟨rfl, congrArg _ slips⟩
      · left
        rw [Connected, connection_changed, if_neg fun here => same here.1]
        exact connected
    · exact .inl connected
  | technologyChanged technology =>
    have shown := @Connection.follow_visibleState (system.connection id)
      (.technologyChanged technology) fun _ => rfl
    exact .inl (connected_changed _ shown connected)
  | _ =>
    refine .inl (connected_changed _ ?_ connected)
    exact Connection.follow_visibleState _ fun _ => rfl

theorem connected_follows (rest : system.AtRest) (viewed : system.Viewed) {id : ConnectionId}
    (follower : Option Bridge) (event : RadioEvent) (connected : system.Connected id) :
    (system.follows follower event).Connected id ∨
      system.delivery follower = some id ∧ event = .stateChanged .disconnecting ∨
      ((system.follows follower event).connection id).destroyed = true := by
  rw [follows_eq]
  cases delivered : system.delivery follower with
  | none => exact .inl connected
  | some other =>
    have leg : (system.connection other).leg.isSome = true := by
      obtain ⟨bridge, _, heeds⟩ := Option.bind_eq_some_iff.mp delivered
      split at heeds
      · rename_i heeded
        obtain rfl := Option.some.inj heeds
        exact (Bool.and_eq_true_iff.mp heeded).2
      · cases heeds
    refine (connected_heed rest viewed leg event connected).imp_right (Or.imp_left ?_)
    rintro ⟨rfl, disconnecting⟩
    exact ⟨rfl, disconnecting⟩

end System

namespace Move

variable {ε : Type} {system : System ε}

def Unsettles (system : System ε) (move : Move) (id : ConnectionId) : Prop :=
  (∃ leg, move = .bind id leg) ∨ move.heard system = some (id, .stateChanged .disconnecting) ∨
    ((move.outcome system).connection id).destroyed = true

theorem connected_radio (rest : system.AtRest) (viewed : system.Viewed) (move : Move)
    {shown : System ε} {follower : Option Bridge} {event : RadioEvent}
    (heard : move.heard system = (system.delivery follower).map (·, event))
    (outcome : move.outcome system = shown.follows follower event)
    (same : ∀ id, shown.connection id = system.connection id) {id : ConnectionId}
    (connected : system.Connected id) :
    (move.outcome system).Connected id ∨ move.Unsettles system id := by
  have delivery : shown.delivery follower = system.delivery follower := by
    cases follower with
    | none => rfl
    | some bridge => simp only [System.delivery, Option.bind_some, same]
  have connected' : shown.Connected id := by
    rw [System.Connected, same]
    exact connected
  rw [Unsettles, heard, outcome, ← delivery]
  refine (System.connected_follows (rest.of_connections same) (viewed.of_connections same)
    follower event connected').imp_right fun either => .inr (either.imp_left ?_)
  rintro ⟨heeds, disconnecting⟩
  rw [heeds, disconnecting]
  rfl

theorem connected_outcome (rest : system.AtRest) (viewed : system.Viewed) (move : Move)
    {id : ConnectionId} (connected : system.Connected id) :
    (move.outcome system).Connected id ∨ move.Unsettles system id := by
  have revised (other : ConnectionId) (change : Connection → Connection)
      (shown : ∀ call, (change call).visibleState = call.visibleState) :
      (system.reviseConnection other change).Connected id :=
    System.connected_revised other shown connected
  have changed (other : ConnectionId) (change : Connection → Connection)
      (shown : ∀ call, (change call).visibleState = call.visibleState) :
      (system.changed other change).Connected id :=
    System.connected_changed change (shown _) connected
  cases move with
  | create params => exact .inl (System.connected_append _ connected)
  | createLeg view => exact .inl connected
  | bind other leg =>
    by_cases same : id = other
    · exact .inr (.inl ⟨leg, by rw [same]⟩)
    · exact .inl (System.connected_bound same leg connected)
  | unbind other => exact .inl (System.connected_unbound other connected)
  | report leg event =>
    exact connected_radio rest viewed (.report leg event) rfl (System.reported_eq ..)
      (system.connection_reviseLeg leg _) connected
  | reportLate leg event =>
    exact connected_radio rest viewed (.reportLate leg event) rfl rfl (fun _ => rfl) connected
  | inform other event =>
    exact connected_radio rest viewed (.inform other event) rfl rfl (fun _ => rfl) connected
  | disconnect other info =>
    by_cases same : id = other
    · subst same
      exact .inr (.inr (.inr (rest.destroyed_ending id info)))
    · exact .inl (System.connected_ending same info connected)
  | close other =>
    by_cases same : id = other
    · subst same
      exact .inr (.inr (.inr (rest.destroyed_closed id)))
    · exact .inl (System.connected_closed same connected)
  | presentHolding other =>
    left
    rw [outcome]
    split
    · exact connected
    · rename_i going
      rw [System.Connected, System.connection_changed]
      split
      · rw [Connection.settled_visibleState]
        simp_all [Connection.visibleState, CallState.isConnected]
      · exact connected
  | setRedialEnabled other enabled => exact .inl (revised other _ fun _ => rfl)
  | setSelectionActive other active => exact .inl (revised other _ fun _ => rfl)
  | addListener other listener =>
    left
    rw [outcome]
    split
    · exact connected
    · exact revised other _ fun _ => rfl
  | removeListener other listener => exact .inl (revised other _ fun _ => rfl)
  | setHoldAllowed other allowed => exact .inl connected
  | setConference other conference => exact .inl connected
  | attend on => exact .inl connected
  | putExtras other extras => exact .inl (changed other _ fun _ => rfl)
  | removeExtras other keys => exact .inl (changed other _ fun _ => rfl)
  | setRttStream other stream => exact .inl (changed other _ fun _ => rfl)
  | reassign other phone subscription technology carrier =>
    exact .inl (changed other _ fun _ => rfl)

theorem asksForPhone_iff (system : System ε) (move : Move) (id : ConnectionId) :
    move.AsksForPhone system id ↔
      ∃ failure code message, move.heard system = some (id, .disconnected failure code message) ∧
        (system.connection id).listeners ≠ [] ∧ (system.connection id).emergency = true ∧
        (system.connection id).redialEnabled = true ∧ failure.retryClass ≠ .none ∧
        ¬ system.Connected id := by
  simp only [AsksForPhone, Connection.endOfLeg_eq_redial_iff, System.Connected]

section
variable {κ : Type} {keep : ε → κ} (bystanders : Bystanders ε) (rounds : Nat)
  (start : System ε) (moves : List Move) (id : ConnectionId)

/-- At some moment of the run the call was connected. -/
def WasConnected : Prop :=
  ∃ first middle, first <+: moves ∧ run bystanders rounds first start = some middle ∧
    middle.Connected id

/-- A move of the run has taken the call out of its connected states, and it has not come back. -/
def HasLeft : Prop :=
  ∃ first departure later middle, moves = first ++ departure :: later ∧
    run bystanders rounds first start = some middle ∧ middle.Connected id ∧
    departure.Unsettles middle id ∧
    ∀ early next, early <+: later →
      run bystanders rounds (first ++ departure :: early) start = some next → ¬ next.Connected id

end

variable {κ : Type} {keep : ε → κ} {bystanders : Bystanders ε} {rounds : Nat}

theorem run_viewed (observe : bystanders.Observe keep) {moves : List Move} {start after : System ε}
    (rest : start.AtRest) (viewed : start.Viewed)
    (runs : run bystanders rounds moves start = some after) : after.Viewed := by
  induction moves generalizing start with
  | nil =>
    cases runs
    exact viewed
  | cons move moves ih =>
    rw [run_cons] at runs
    obtain ⟨next, first, others⟩ := Option.bind_eq_some_iff.mp runs
    have ripple := ripple_run observe rest first
    refine ih (ripple.atRest (move.outcome_atRest rest)) (fun id => ?_) others
    have leg := ripple.reads (·.leg) (fun _ => rfl) id
    have view := ripple.reads (·.view) (fun _ => rfl) id
    intro held
    rw [view]
    exact move.outcome_viewed viewed id (leg ▸ held)

theorem hasLeft_of_not_connected (observe : bystanders.Observe keep) {moves : List Move}
    {start last : System ε} {id : ConnectionId} (rest : start.AtRest) (viewed : start.Viewed)
    (runs : run bystanders rounds moves start = some last)
    (once : WasConnected bystanders rounds start moves id) (now : ¬ last.Connected id) :
    HasLeft bystanders rounds start moves id := by
  induction moves generalizing start with
  | nil =>
    obtain ⟨first, middle, early, ran, connected⟩ := once
    rw [List.prefix_nil.mp early, runs] at ran
    obtain rfl := Option.some.inj ran
    exact absurd connected now
  | cons move moves ih =>
    rw [run_cons] at runs
    obtain ⟨next, moved, others⟩ := Option.bind_eq_some_iff.mp runs
    have onward (later : List Move) : run bystanders rounds (move :: later) start =
        run bystanders rounds later next := by
      rw [run_cons, moved, Option.bind_some]
    have ripple := ripple_run observe rest moved
    by_cases again : WasConnected bystanders rounds next moves id
    · have calm := ripple.atRest (move.outcome_atRest rest)
      obtain ⟨first, departure, later, middle, whole, ran, connected, unsettles, gone⟩ :=
        ih calm (run_viewed observe rest viewed moved) others again
      refine ⟨move :: first, departure, later, middle, by rw [whole]; rfl, ?_, connected,
        unsettles, fun early after among => ?_⟩
      · rw [onward]
        exact ran
      · rw [List.cons_append, onward]
        exact gone early after among
    · obtain ⟨first, middle, early, ran, connected⟩ := once
      cases first with
      | cons other first =>
        obtain ⟨rfl, within⟩ := List.cons_prefix_cons.mp early
        rw [onward] at ran
        exact absurd ⟨first, middle, within, ran, connected⟩ again
      | nil =>
        obtain rfl := Option.some.inj ran
        refine ⟨[], move, moves, start, rfl, rfl, connected, ?_, fun early after among ran' => ?_⟩
        · refine (connected_outcome rest viewed move connected).resolve_left fun still => ?_
          refine again ⟨[], next, List.nil_prefix, rfl, ?_⟩
          have same := ripple.reads (·.visibleState) (fun _ => rfl) id
          rw [System.Connected, same]
          exact still
        · rw [List.nil_append, onward] at ran'
          exact fun back => again ⟨early, after, among, ran', back⟩

/-- For a call that was connected once, somebody hears that it wants another phone exactly when
it heeds a failure that another phone may mend, as an emergency call with redial enabled, and has
left its connected states since it was last connected. -/
theorem redials_lt_iff (observe : bystanders.Observe keep) {moves : List Move} {move : Move}
    {start before after : System ε} {id : ConnectionId} (fresh : start.connections = [])
    (runs : run bystanders rounds moves start = some before)
    (last : run bystanders rounds [move] before = some after)
    (once : WasConnected bystanders rounds start moves id) :
    before.redials id < after.redials id ↔
      ∃ failure code message, move.heard before = some (id, .disconnected failure code message) ∧
        (before.connection id).listeners ≠ [] ∧ (before.connection id).emergency = true ∧
        (before.connection id).redialEnabled = true ∧ failure.retryClass ≠ .none ∧
        HasLeft bystanders rounds start moves id := by
  have nobody (other : ConnectionId) : start.connection other = .absent :=
    start.connection_of_not_known (by cases other <;> simp [System.Known, fresh])
  have rest : start.AtRest := ⟨fun other => by rw [nobody]; exact Connection.steady_absent,
    fun other => by rw [nobody]; rfl⟩
  have viewed : start.Viewed := fun other => by
    rw [nobody]
    exact fun leg => by cases leg
  have ripple := ripple_run observe (run_atRest observe rest runs) last
  have left : HasLeft bystanders rounds start moves id ↔ ¬ before.Connected id := by
    constructor
    · rintro ⟨first, departure, later, middle, rfl, -, -, -, gone⟩
      exact gone later before (List.prefix_refl later) runs
    · exact hasLeft_of_not_connected observe rest viewed runs once
  rw [ripple.redials, redials_outcome, asksForPhone_iff, left]

/-- An emergency call is connected, and its leg reports to be disconnecting. -/
def droppedCall : List Move := [
  .create { phone := ⟨0⟩, technology := .ims, emergency := true },
  .addListener (.issued 0) .recorder,
  .setRedialEnabled (.issued 0) true,
  .createLeg { state := .active, technology := .ims },
  .bind (.issued 0) ⟨0⟩,
  .report ⟨0⟩ (.stateChanged .disconnecting)]

theorem droppedCall_runs : ∃ before after middle : System Unit,
    run .silent 4 droppedCall { outside := () } = some before ∧
    run .silent 4 [.report ⟨0⟩ (.disconnected .emergencyTemporary 0 "")] before = some after ∧
    run .silent 4 (droppedCall.take 5) { outside := () } = some middle ∧
    middle.Connected (.issued 0) ∧
    before.redials (.issued 0) = 0 ∧ after.redials (.issued 0) = 1 := by
  have first : ((run .silent 4 droppedCall ({ outside := () } : System Unit)).map
      (·.redials (.issued 0))) = some 0 := by decide +kernel
  have whole : ((run .silent 4 (droppedCall ++
      [.report ⟨0⟩ (.disconnected .emergencyTemporary 0 "")]) ({ outside := () } : System Unit)).map
      (·.redials (.issued 0))) = some 1 := by decide +kernel
  have part : ((run .silent 4 (droppedCall.take 5) ({ outside := () } : System Unit)).map
      fun system => (system.connection (.issued 0)).visibleState.isConnected) = some true := by
    decide +kernel
  obtain ⟨before, ran, none⟩ := Option.map_eq_some_iff.mp first
  obtain ⟨middle, started, connected⟩ := Option.map_eq_some_iff.mp part
  rw [run_append, ran, Option.bind_some] at whole
  obtain ⟨after, last, one⟩ := Option.map_eq_some_iff.mp whole
  exact ⟨before, after, middle, ran, last, started, connected, none, one⟩

/-- A connected emergency call whose leg is disconnecting asks for another phone when the leg
then fails. -/
theorem connected_call_redials : ∃ before after : System Unit,
    run .silent 4 droppedCall { outside := () } = some before ∧
    run .silent 4 [.report ⟨0⟩ (.disconnected .emergencyTemporary 0 "")] before = some after ∧
    WasConnected .silent 4 { outside := () } droppedCall (.issued 0) ∧
    before.redials (.issued 0) < after.redials (.issued 0) := by
  obtain ⟨before, after, middle, ran, last, started, connected, none, one⟩ := droppedCall_runs
  refine ⟨before, after, ran, last, ?_, by rw [none, one]; decide⟩
  exact ⟨droppedCall.take 5, middle, List.take_prefix _ _, started, connected⟩

theorem droppedCall_hasLeft : ∃ before after : System Unit,
    run .silent 4 droppedCall { outside := () } = some before ∧
    run .silent 4 [.report ⟨0⟩ (.disconnected .emergencyTemporary 0 "")] before = some after ∧
    WasConnected .silent 4 { outside := () } droppedCall (.issued 0) ∧
    HasLeft .silent 4 ({ outside := () } : System Unit) droppedCall (.issued 0) := by
  obtain ⟨before, after, middle, ran, last, started, connected, none, one⟩ := droppedCall_runs
  have once : WasConnected .silent 4 ({ outside := () } : System Unit) droppedCall (.issued 0) :=
    ⟨droppedCall.take 5, middle, List.take_prefix _ _, started, connected⟩
  have more : before.redials (.issued 0) < after.redials (.issued 0) := by
    rw [none, one]
    decide
  obtain ⟨_, _, _, _, _, _, _, _, left⟩ :=
    (redials_lt_iff (Bystanders.observe_silent fun _ => ()) rfl ran last once).mp more
  exact ⟨before, after, ran, last, once, left⟩

end Move
end Switchboard
