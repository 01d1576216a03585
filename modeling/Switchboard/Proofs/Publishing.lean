import Switchboard.Proofs.Settling

/-! Publishing settles. Under a wiring whose telling only ripples, the rounds of `publish` leave a
ripple of the settled system: each round commits what the connection shows and tells it, and the
round that shows the end tears the connection down. -/

namespace Switchboard

/-- Told at this moment, the event starts no work and does not announce an end that has not
come. -/
structure ConnectionEvent.Fits {ε : Type} (event : ConnectionEvent) (system : System ε)
    (id : ConnectionId) : Prop where
  plain : event.isPlain = true
  final : event = .destroyed → (system.connection id).destroyed = true

structure Wiring.Ripples {ε κ : Type} (wiring : Wiring ε) (keep : ε → κ) : Prop where
  tell {listeners : List Listener} {id : ConnectionId} {event : ConnectionEvent}
    {before after : System ε} : before.Steady → event.Fits before id →
    wiring.tell listeners id event before = some (⟨⟩, after) → Ripple keep before after
  bridged {before after : System ε} : wiring.bridged before = some (⟨⟩, after) →
    Ripple keep before after

namespace Published

theorem plain_of_mem_changes {old new : Published} {event : ConnectionEvent}
    (among : event ∈ old.changes new) : event.isPlain = true ∧ event ≠ .destroyed := by
  simp only [changes, List.mem_append] at among
  rcases among with (((((among | among) | among) | among) | among) | among) | among <;>
    (split at among <;> simp_all [ConnectionEvent.isPlain])

theorem eq_of_changes_eq_nil {old new : Published} (none : old.changes new = []) : old = new := by
  have heard := foldl_hear_changes old new
  rw [none] at heard
  exact heard

end Published

namespace Connection

def committed (call : Connection) : Connection :=
  { call with
    republish := false
    published := call.derived
    teardownStarted := call.isEnding
    publishing := true }

def news (call : Connection) : Commit where
  events := call.published.changes call.derived
  state := call.visibleState
  ending := call.isEnding

theorem commit_of_destroyed {call : Connection} (gone : call.destroyed = true) :
    call.commit = (none, { call with republish := false, publishing := false }) := by
  simp [commit, gone]

theorem commit_eq {call : Connection} (alive : call.destroyed = false)
    (unstarted : call.teardownStarted = false) :
    call.commit =
      (if (call.published.changes call.derived).isEmpty && !call.isEnding then none
        else some call.news,
      { call.committed with
        publishing := !((call.published.changes call.derived).isEmpty && !call.isEnding) }) := by
  simp [commit, alive, unstarted, isEnding, committed, news, derived_state]

/-- The commit, told to those who wait. -/
def told (call : Connection) : Connection :=
  { call.committed with watched := call.visibleState }

def rested (call : Connection) : Connection :=
  { call with publishing := false, republish := false }

theorem rested_told_essence {call : Connection} (alive : call.destroyed = false)
    (unstarted : call.teardownStarted = false) (lasting : call.isEnding = false) :
    call.told.rested.essence = call.settled.essence := by
  rw [settled_of_lasting alive lasting]
  simp only [told, committed, rested, essence, derived_state, lasting, unstarted]

theorem settled_told_essence {call : Connection} (alive : call.destroyed = false)
    (unstarted : call.teardownStarted = false) (lasting : call.isEnding = false) :
    call.told.settled.essence = call.settled.essence := by
  have same : call.told.isEnding = call.isEnding := rfl
  have shown : call.told.visibleState = call.visibleState := rfl
  have rest := @settled_of_shown call.told alive (same.trans lasting) rfl
    (call.derived_state.trans shown.symm)
  rw [rest, ← rested_told_essence alive unstarted lasting]
  rfl

theorem rested_tornDown_essence {call : Connection} (ending : call.isEnding = true) :
    call.told.tornDown.rested.essence = call.settled.essence := by
  have shown : call.visibleState = .disconnected := by
    simp_all [isEnding]
  rw [settled_of_ending ending]
  simp only [told, committed, tornDown, rested, essence, derived_state, ending, shown]

theorem told_steady (call : Connection) : call.told.Steady :=
  ⟨call.derived_state.symm, fun idle => by cases idle⟩

theorem commit_of_alive {call : Connection} (alive : call.destroyed = false)
    (unstarted : call.teardownStarted = false) :
    (call.published = call.derived ∧ call.isEnding = false ∧
      call.commit = (none, { call with republish := false, publishing := false })) ∨
    call.commit = (some call.news, call.committed) := by
  by_cases quiet : call.published.changes call.derived = [] ∧ call.isEnding = false
  · obtain ⟨none, lasting⟩ := quiet
    have same := Published.eq_of_changes_eq_nil none
    refine .inl ⟨same, lasting, ?_⟩
    rw [commit_eq alive unstarted, none]
    simp [committed, lasting, ← same, unstarted]
  · right
    have loud : ((call.published.changes call.derived).isEmpty && !call.isEnding) = false := by
      rw [Bool.eq_false_iff]
      simpa using quiet
    rw [commit_eq alive unstarted, loud]
    rfl

end Connection

namespace System

variable {ε : Type} {system : System ε}

/-- The connection in the middle of a round. -/
def told (system : System ε) (id : ConnectionId) : System ε :=
  system.reviseConnection id fun _ => (system.connection id).told

theorem connection_told {id : ConnectionId} (known : system.Known id) :
    (system.told id).connection id = (system.connection id).told :=
  system.connection_reviseConnection_known known _

theorem Ready.told_steady {id : ConnectionId} (ready : system.Ready id) :
    (system.told id).Steady := by
  intro other
  rw [told, connection_reviseConnection]
  split
  · exact Connection.told_steady _
  · rename_i elsewhere
    exact ready.steady_of_elsewhere elsewhere

end System

theorem Ripple.rested {ε κ : Type} {keep : ε → κ} {before after : System ε}
    (ripple : Ripple keep before after) (id : ConnectionId) :
    Ripple keep (before.reviseConnection id Connection.rested)
      (after.reviseConnection id Connection.rested) :=
  ripple.revise id _ _
    (congrArg (fun call => call.rested.essence) (ripple.essence id)) fun gone => gone

namespace Act

variable {ε κ : Type} {keep : ε → κ} {wiring : Wiring ε} {system : System ε}

@[simp] theorem ensures_detach (leg : LegId) (goal : PUnit → System ε → Prop) :
    Ensures (detach leg) wiring system goal ↔ goal ⟨⟩ (system.reviseLeg leg Leg.detached) :=
  ensures_modify _ _

theorem ensures_unbind (id : ConnectionId) (goal : PUnit → System ε → Prop) :
    Ensures (unbind id) wiring system goal ↔
      goal ⟨⟩ ((system.reviseConnection id fun call =>
        { call with generation := call.generation + 1, leg := none }).release
          (system.connection id).leg) := by
  cases leg : (system.connection id).leg <;> simp [unbind, leg, System.release]

theorem ensures_commit (id : ConnectionId) (goal : Option Connection.Commit → System ε → Prop) :
    Ensures (commit id) wiring system goal ↔
      goal (system.connection id).commit.1
        (system.reviseConnection id fun _ => (system.connection id).commit.2) := by
  simp [commit, ensures_map]

theorem ripple_showState (keep : ε → κ) (id : ConnectionId) (state : CallState) :
    (showState id state).Ensures wiring system fun _ after =>
      Ripple keep (system.reviseConnection id ({ · with watched := state })) after := by
  simp only [showState, ensures_bind, ensures_look]
  split
  · rename_i same
    have shown := eq_of_beq same
    rw [ensures_pure]
    have ripple := @Ripple.alike ε κ keep system id ({ · with watched := state }) (fun call => call)
      (by rw [← shown]) fun gone => gone
    rw [system.reviseConnection_self] at ripple
    exact ripple
  · simp only [ensures_bind, ensures_revise, ensures_signal]
    exact Ripple.of_changed _ _

def tellCommit (id : ConnectionId) (news : Connection.Commit) : Act ε Unit := do
  unless news.events.isEmpty do showState id news.state
  news.events.forM (notify id)
  if news.ending then teardown id

def endRound (id : ConnectionId) (rounds : Nat) : Act ε Unit := do
  let call ← look id
  if !call.republish || call.destroyed then
    revise id Connection.rested
  else
    publish id rounds

theorem publish_succ (id : ConnectionId) (rounds : Nat) :
    (publish id (rounds + 1) : Act ε Unit) = (do
      if let some news ← commit id then
        tellCommit id news
        endRound id rounds) := by
  rw [publish]
  refine bind_congr fun news => ?_
  cases news with
  | none => rfl
  | some news =>
    by_cases silent : news.events.isEmpty = true <;> by_cases ending : news.ending = true <;>
      simp [tellCommit, endRound, silent, ending] <;> rfl

def wrapUp (id : ConnectionId) : Act ε Unit := do
  let call ← look id
  if call.ended.isSome && !call.teardownStarted && !call.destroyed then
    revise id ({ · with teardownStarted := true })
    teardown id
  else
    unbind id
    destroy id

theorem close_eq (id : ConnectionId) :
    (close id : Act ε Unit) = (do
      if (← look id).published.state.isLive then setDisconnected id .byRequest
      wrapUp id) := rfl

theorem ensures_wrapUp_destroyed {id : ConnectionId}
    (gone : (system.connection id).destroyed = true) (goal : Unit → System ε → Prop) :
    (wrapUp id).Ensures wiring system goal ↔ (unbind id).Ensures wiring system goal := by
  have still : (((system.reviseConnection id fun call =>
      { call with generation := call.generation + 1, leg := none }).release
        (system.connection id).leg).connection id).destroyed = true := by
    rw [System.connection_release, System.connection_reviseConnection]
    split <;> exact gone
  simp only [wrapUp, ensures_bind, ensures_look, gone, Bool.not_true, Bool.and_false,
    Bool.false_eq_true, if_false, ensures_unbind, destroy]
  rw [if_pos still, ensures_pure]

section
variable (rippling : wiring.Ripples keep)
include rippling

theorem ripple_notify {id : ConnectionId} {event : ConnectionEvent} (calm : system.Steady)
    (fits : event.Fits system id) :
    (notify id event).Ensures wiring system fun _ after => Ripple keep system after := by
  rw [ensures_notify, ensures_tell]
  intro after run
  exact rippling.tell calm fits run

theorem ripple_bridged : bridged.Ensures wiring system fun _ after => Ripple keep system after := by
  rintro ⟨⟩ after run
  exact rippling.bridged run

theorem ripple_notifications {id : ConnectionId} {events : List ConnectionEvent}
    (plain : ∀ event ∈ events, event.isPlain = true ∧ event ≠ .destroyed)
    (calm : system.Steady) :
    (events.forM (notify id)).Ensures wiring system fun _ after => Ripple keep system after := by
  refine ensures_forM (Ripple keep system) events (fun event among next sofar => ?_)
    (Ripple.refl system)
  obtain ⟨known, other⟩ := plain event among
  refine (ripple_notify rippling (sofar.steady calm) ⟨known, fun final => ?_⟩).mono
    fun _ _ more => sofar.trans more
  exact absurd final other

theorem ripple_destroy {id : ConnectionId} (calm : system.Steady)
    (alive : (system.connection id).destroyed = false) :
    (destroy id).Ensures wiring system fun _ after =>
      Ripple keep (system.reviseConnection id fun call =>
        { call with destroyed := true, listeners := [] }) after := by
  have known := system.known_of_alive alive
  have dead : (system.reviseConnection id ({ · with destroyed := true })).Steady := by
    intro other
    rw [System.connection_reviseConnection]
    split
    · exact ⟨(calm id).watched, fun _ exists' => by cases exists'⟩
    · exact calm other
  simp only [destroy, ensures_bind, ensures_look, alive, Bool.false_eq_true, if_false,
    ensures_revise]
  refine (ripple_notify rippling dead ⟨rfl, fun _ => ?_⟩).mono fun _ after ripple => ?_
  · rw [System.connection_reviseConnection_known _ known]
  · have silent := congrArg (fun call => { call.essence with listeners := [] }) (ripple.essence id)
    have last := ripple.revise id ({ · with listeners := [] }) ({ · with listeners := [] }) silent
      fun gone => gone
    rw [System.reviseConnection_reviseConnection] at last
    exact last

theorem ripple_teardown {id : ConnectionId} (calm : system.Steady)
    (alive : (system.connection id).destroyed = false)
    (busy : (system.connection id).publishing = true) :
    (teardown id).Ensures wiring system fun _ after =>
      Ripple keep (system.tearDown id) after := by
  have rest {now : System ε} (ripple : Ripple keep system now) :
      Ensures (unbind id >>= fun _ => destroy id) wiring now fun _ after =>
        Ripple keep (system.tearDown id) after := by
    have known := now.known_of_alive (ripple.destroyed id ▸ alive)
    rw [ensures_bind, ensures_unbind]
    refine (ripple_destroy rippling ?_ ?_).mono fun _ after last => ?_
    · intro other
      rw [System.connection_release, System.connection_reviseConnection]
      split
      · have steady := ripple.steady calm id
        have same := ripple.reads (·.publishing) (fun _ => rfl) id
        exact ⟨steady.watched, fun idle _ => by simp_all⟩
      · exact ripple.steady calm other
    · rw [System.connection_release, System.connection_reviseConnection_known _ known]
      exact ripple.destroyed id ▸ alive
    · rw [System.release_reviseConnection, System.reviseConnection_reviseConnection] at last
      exact (ripple.tearDown id).trans last
  have apart : Ripple keep system (system.reviseConnection id ({ · with conference := none })) :=
    Ripple.of_revise system id _ rfl
  simp only [teardown, ensures_bind, ensures_look, ensures_revise]
  refine (ripple_notify rippling (apart.steady calm) ⟨rfl, fun final => by cases final⟩).mono
    fun _ now told => ?_
  have sofar := apart.trans told
  split
  · rw [ensures_bind]
    refine (ripple_notify rippling (sofar.steady calm) ⟨rfl, fun final => by cases final⟩).mono
      fun _ next told => ?_
    exact rest (sofar.trans told)
  · exact rest sofar

theorem ripple_tellCommit {id : ConnectionId} (ready : system.Ready id)
    (alive : (system.connection id).destroyed = false) :
    (tellCommit id (system.connection id).news).Ensures wiring
      (system.reviseConnection id fun _ => (system.connection id).committed) fun _ after =>
        Ripple keep
          (if (system.connection id).isEnding then (system.told id).tearDown id
            else system.told id) after := by
  have known := system.known_of_alive alive
  have calm := ready.told_steady
  have rest {now : System ε} (ripple : Ripple keep (system.told id) now) :
      Ensures
        ((system.connection id).news.events.forM (notify id) >>= fun _ =>
          if (system.connection id).news.ending then teardown id else pure ⟨⟩) wiring now
        fun _ after => Ripple keep
          (if (system.connection id).isEnding then (system.told id).tearDown id
            else system.told id) after := by
    rw [ensures_bind]
    refine (ripple_notifications rippling (fun _ => Published.plain_of_mem_changes)
      (ripple.steady calm)).mono fun _ next more => ?_
    have sofar := ripple.trans more
    by_cases ending : (system.connection id).isEnding = true
    · have same := system.connection_reviseConnection_known known
        fun _ => (system.connection id).told
      simp only [Connection.news, ending, if_true]
      refine (ripple_teardown rippling (sofar.steady calm) ?_ ?_).mono fun _ after last => ?_
      · rw [sofar.destroyed, System.told, same]
        exact alive
      · rw [sofar.reads (·.publishing) (fun _ => rfl), System.told, same]
        rfl
      · exact (sofar.tearDown id).trans last
    · simp only [Connection.news, ending, Bool.false_eq_true, if_false, ensures_pure]
      exact sofar
  rw [tellCommit]
  split
  · rename_i none
    have same := Published.eq_of_changes_eq_nil (List.isEmpty_iff.mp none)
    refine rest (Ripple.alike system id _ _ ?_ fun gone => gone)
    have watched : (system.connection id).watched = (system.connection id).visibleState := by
      rw [ready.watched, same, Connection.derived_state]
    simp only [Connection.told, ← watched]
    rfl
  · rw [ensures_bind]
    refine (ripple_showState keep id _).mono fun _ now ripple => rest ?_
    rw [System.reviseConnection_reviseConnection] at ripple
    exact ripple

theorem ripple_publish {id : ConnectionId} (rounds : Nat) (ready : system.Ready id)
    (busy : (system.connection id).destroyed = false →
      (system.connection id).publishing = true) :
    (publish id rounds).Ensures wiring system fun _ after =>
      Ripple keep (system.settle id) after := by
  induction rounds generalizing system with
  | zero => exact ensures_failure _
  | succ rounds ih =>
    rw [publish_succ, ensures_bind, ensures_commit]
    by_cases gone : (system.connection id).destroyed = true
    · rw [Connection.commit_of_destroyed gone]
      simp only [ensures_pure]
      rw [system.settle_lasting (Connection.isEnding_of_destroyed gone)]
      refine Ripple.alike system id _ _ ?_ fun gone => ?_
      · rw [Connection.settled_of_destroyed gone]
        rfl
      · rw [Connection.settled_destroyed, gone, Bool.true_or]
    · have alive : (system.connection id).destroyed = false := by simpa using gone
      have known := system.known_of_alive alive
      have started := ready.unstarted alive
      rcases Connection.commit_of_alive alive started with ⟨same, lasting, quiet⟩ | loud
      · rw [quiet]
        simp only [ensures_pure]
        rw [system.settle_lasting lasting]
        refine Ripple.alike system id _ _ ?_ fun gone => ?_
        · have shown : (system.connection id).published.state =
              (system.connection id).visibleState := by
            rw [same, Connection.derived_state]
          rw [Connection.settled_of_shown alive lasting (ready.watched.trans shown) shown]
          rfl
        · rw [Connection.settled_destroyed, gone, Bool.true_or]
      · rw [loud]
        simp only [ensures_bind]
        refine (ripple_tellCommit rippling ready alive).mono fun _ now ripple => ?_
        rw [endRound, ensures_bind, ensures_look]
        have here := System.connection_told known
        have known' : (system.told id).Known id := (system.known_reviseConnection ..).mpr known
        by_cases ending : (system.connection id).isEnding = true
        · rw [if_pos ending] at ripple
          have finished : (now.connection id).destroyed = true := by
            rw [ripple.destroyed, System.connection_tearDown _ known']
            rfl
          simp only [finished, Bool.or_true, if_true, ensures_revise]
          refine Ripple.trans ?_ (ripple.rested id)
          rw [System.settle, if_pos ending, System.tearDown, here, System.told,
            System.release_reviseConnection, System.reviseConnection_reviseConnection,
            System.reviseConnection_reviseConnection]
          exact (Ripple.alike system id _ _ (Connection.rested_tornDown_essence ending)
            fun gone => absurd gone (by simp [alive])).release _
        · have lasting : (system.connection id).isEnding = false := by simpa using ending
          rw [if_neg ending] at ripple
          rw [system.settle_lasting lasting]
          split
          · rw [ensures_revise]
            refine Ripple.trans ?_ (ripple.rested id)
            rw [System.told, System.reviseConnection_reviseConnection]
            exact Ripple.alike system id _ _
              (Connection.rested_told_essence alive started lasting)
              fun gone => absurd gone (by simp [alive])
          · have calm := ripple.steady ready.told_steady
            have again : now.Ready id := {
              others := fun other _ => calm other
              watched := (calm id).watched
              unstarted := fun _ => by
                rw [ripple.reads (·.teardownStarted) (fun _ => rfl), here]
                exact lasting }
            refine (ih again fun _ => ?_).mono fun _ after last => ?_
            · rw [ripple.reads (·.publishing) (fun _ => rfl), here]
              rfl
            · refine Ripple.trans ?_ ((ripple.settle id).trans last)
              rw [System.settle_lasting _ (by rw [here]; exact lasting), System.told,
                System.reviseConnection_reviseConnection]
              exact Ripple.alike system id _ _
                (Connection.settled_told_essence alive started lasting)
                fun gone => absurd gone (by simp [alive])

theorem ripple_update {id : ConnectionId} (ready : system.Ready id)
    (idle : (system.connection id).publishing = false) :
    (update id).Ensures wiring system fun _ after => Ripple keep (system.settle id) after := by
  let busy : System ε := system.reviseConnection id ({ · with publishing := true })
  have same : busy.connection id =
      if system.Known id then { system.connection id with publishing := true }
      else system.connection id := by
    simp [busy, System.connection_reviseConnection]
  have begun : busy.Ready id := {
    others := fun other differ => by
      rw [System.connection_reviseConnection_other _ differ]
      exact ready.others other differ
    watched := by
      rw [same]
      split <;> exact ready.watched
    unstarted := by
      rw [same]
      split <;> exact ready.unstarted }
  have settled : Ripple keep (system.settle id) (busy.settle id) := by
    have ending : (busy.connection id).isEnding = (system.connection id).isEnding := by
      rw [same]
      split <;> rfl
    have leg : (busy.connection id).leg = (system.connection id).leg := by
      rw [same]
      split <;> rfl
    rw [System.settle, System.settle, ending, leg, System.reviseConnection_reviseConnection]
    refine (Ripple.alike system id _ _ ?_ fun gone => ?_).release _
    · rw [Connection.settled_publishing]
    · rw [Connection.settled_destroyed, gone, Bool.true_or]
  simp only [update, ensures_bind, ensures_look, idle, Bool.false_eq_true, if_false, ensures_revise,
    ensures_rounds]
  refine (ripple_publish rippling _ begun fun alive => ?_).mono fun _ _ last => settled.trans last
  rw [System.connection_reviseConnection_known _ (busy.known_of_alive alive |>
    (system.known_reviseConnection ..).mp)]

theorem ripple_update_steady {id : ConnectionId} (calm : system.Steady) :
    (update id).Ensures wiring system fun _ after => Ripple keep system after := by
  by_cases busy : (system.connection id).publishing = true
  · simp only [update, ensures_bind, ensures_look, busy, if_true, ensures_revise]
    exact Ripple.of_revise system id _ rfl
  · have idle : (system.connection id).publishing = false := by simpa using busy
    refine (ripple_update rippling (System.Ready.of_steady calm idle) idle).mono
      fun _ _ last => Ripple.trans ?_ last
    have kept : (system.connection id).isEnding = false ∧
        (system.connection id).settled = system.connection id := by
      by_cases gone : (system.connection id).destroyed = true
      · refine ⟨Connection.isEnding_of_destroyed gone, ?_⟩
        rw [Connection.settled_of_destroyed gone, ← idle]
      · have alive : (system.connection id).destroyed = false := by simpa using gone
        obtain ⟨shown, up, -⟩ := (calm id).rested idle alive
        have lasting : (system.connection id).isEnding = false := by
          simp [Connection.isEnding, up]
        refine ⟨lasting, ?_⟩
        rw [Connection.settled_of_shown alive lasting ((calm id).watched.trans shown) shown, ← idle]
    rw [System.settle_lasting _ kept.1]
    exact Ripple.of_revise system id _ (by rw [kept.2])

end
end Act
end Switchboard
