import Switchboard.Proofs.Membership
import Switchboard.Proofs.Reentry

/-! Stale verdicts. Verdicts are taken on the situation of a moment; if a listener changes it while
they are given, newer ones are taken and given at once, and then the older ones go on to be given.
So in the end an entity has the verdict on the situation as it is, unless an older one was still on
its way to it when verdicts were taken last. The main statement is
`Disturbance.verdicts_stand_iff`. -/

namespace Switchboard

namespace Connection

def Unheard (call : Connection) : Prop :=
  ∀ listener ∈ call.listeners, listener = .recorder

def Shows (call : Connection) : Prop :=
  call.destroyed = false → call.visibleState.isLive = true → call.published.state.isLive = true

def Settled (call : Connection) : Prop :=
  call.destroyed = false → call.Unheard → call.published.state.isLive = true →
    call.visibleState.isLive = true

/-- Nobody is being told of it who might react, for there is nobody. -/
def Idle (call : Connection) : Prop :=
  call.destroyed = false → call.Unheard → call.publishing = false

def aspect (call : Connection) :
    CallState × Published × Bool × List Listener × Option ConferenceId :=
  (call.visibleState, call.published, call.destroyed, call.listeners, call.conference)

/-- What a change of a connection may come to; a strict one leaves alone what verdicts look at. -/
structure Turns (strict : Prop) (call next : Connection) : Prop where
  listeners : next.listeners.Sublist call.listeners
  heard : next.destroyed = false → call.destroyed = false ∧ next.listeners = call.listeners
  shows : call.Shows → next.Shows
  lived : call.Shows → next.published.state.isLive = true → call.published.state.isLive = true
  settled : call.Settled → next.Settled
  stands : strict → next.published.state.isLive = call.published.state.isLive ∧
    (call.published.state.isLive = true → next.conference = call.conference)

variable {call next : Connection} {strict : Prop}

theorem Turns.of_aspect (same : next.aspect = call.aspect) : Turns strict call next := by
  simp only [aspect, Prod.mk.injEq] at same
  obtain ⟨visible, published, destroyed, listeners, conference⟩ := same
  constructor
  · rw [listeners]
  · rw [destroyed, listeners]
    exact fun alive => ⟨alive, rfl⟩
  · unfold Shows
    rw [visible, published, destroyed]
    exact fun shows => shows
  · rw [published]
    exact fun _ live => live
  · unfold Settled Unheard
    rw [visible, published, destroyed, listeners]
    exact fun settled => settled
  · rw [published, conference]
    exact fun _ => ⟨rfl, fun _ => rfl⟩

theorem Turns.of_destroyed (dead : next.destroyed = true)
    (listeners : next.listeners.Sublist call.listeners)
    (published : next.published = call.published)
    (conference : next.conference = call.conference) : Turns strict call next := by
  have never {goal : Prop} (alive : next.destroyed = false) : goal := by
    cases dead.symm.trans alive
  refine ⟨listeners, never, fun _ => never, fun _ live => ?_, fun _ => never, fun _ => ?_⟩
  · rwa [← published]
  · rw [published]
    exact ⟨rfl, fun _ => conference⟩

theorem idle_of_destroyed (dead : call.destroyed = true) : call.Idle := by
  intro alive
  cases dead.symm.trans alive

theorem turns_roundBegun (alive : call.destroyed = false)
    (steady : strict → call.derived.state.isLive = call.published.state.isLive) :
    Turns strict call call.roundBegun where
  listeners := .refl _
  heard _ := ⟨alive, rfl⟩
  shows _ _ live := by
    change call.derived.state.isLive = true
    rwa [derived_state]
  lived shows live := by
    refine shows alive ?_
    rwa [← derived_state]
  settled _ _ _ live := by
    change call.visibleState.isLive = true
    rwa [← derived_state]
  stands given := ⟨steady given, fun _ => rfl⟩

theorem changes_of_over (live : call.published.state.isLive = true)
    (down : call.derived.state.isLive = false) :
    ∃ event rest, call.published.changes call.derived = event :: rest ∧ event.isEnd = true := by
  have ended : call.derived.state = .disconnected := by simpa [CallState.isLive] using down
  have differ : call.published.state ≠ .disconnected := by simpa [CallState.isLive] using live
  refine ⟨.stateChanged call.published.state .disconnected,
    (call.published.changes call.derived).tail, ?_, rfl⟩
  simp only [Published.changes, ended, if_neg differ, List.cons_append, List.tail_cons]

end Connection

namespace System

section
variable {ε : Type} {before after : System ε}

theorem verdicts_congr (tracked : after.tracked = before.tracked)
    (conferences : ∀ id, (after.conference id).core = (before.conference id).core)
    (live : ∀ id, (after.connection id).published.state.isLive =
      (before.connection id).published.state.isLive)
    (apart : ∀ id, (before.connection id).published.state.isLive = true →
      (after.connection id).conference = (before.connection id).conference) :
    after.verdicts = before.verdicts := by
  have stands : after.standsAlone = before.standsAlone := by
    funext entity
    cases entity with
    | connection id =>
      simp only [standsAlone, live]
      by_cases up : (before.connection id).published.state.isLive = true
      · rw [apart id up]
      · simp [up]
    | conference id =>
      have same := conferences id
      simp only [Conference.core, Conference.mk.injEq] at same
      simp only [standsAlone, conferenceIsLive, same, live]
  simp only [verdicts, mayHold, standing, stands, tracked]
  rfl

end

variable {before middle after system : System Ledger} {id : ConnectionId} {strict : Prop}
  {except : Option ConnectionId}

def Fresh (system : System Ledger) : Prop :=
  ∃ owed, system.outside.due = system.verdicts ++ owed

theorem Fresh.congr (fresh : before.Fresh) (due : after.outside.due = before.outside.due)
    (verdicts : after.verdicts = before.verdicts) : after.Fresh := by
  obtain ⟨owed, same⟩ := fresh
  exact ⟨owed, by rw [due, verdicts, same]⟩

/-- Whoever is over is going to show it, and somebody hears of that; but for one connection. -/
structure Attended (except : Option ConnectionId) (system : System Ledger) : Prop where
  alone (id : ConnectionId) : .exchange ∉ (system.connection id).listeners
  shows (id : ConnectionId) : (system.connection id).Shows
  settled (id : ConnectionId) : some id ≠ except → (system.connection id).Settled
  idle (id : ConnectionId) : some id ≠ except → (system.connection id).Idle

theorem Attended.weaken (attended : system.Attended none) (except : Option ConnectionId) :
    system.Attended except :=
  { attended with
    settled := fun id _ => attended.settled id (Option.some_ne_none id)
    idle := fun id _ => attended.idle id (Option.some_ne_none id) }

theorem Attended.settles (attended : system.Attended none) (id : ConnectionId) :
    (system.connection id).Settled :=
  attended.settled id (Option.some_ne_none id)

theorem Attended.idles (attended : system.Attended none) (id : ConnectionId) :
    (system.connection id).Idle :=
  attended.idle id (Option.some_ne_none id)

theorem Attended.whole (attended : system.Attended except)
    (own : ∀ other, some other = except → other = id)
    (heard : (system.connection id).destroyed = false → ¬ (system.connection id).Unheard) :
    system.Attended none :=
  { attended with
    settled := fun other _ => by
      by_cases excepted : some other = except
      · exact own other excepted ▸ fun alive silent => absurd silent (heard alive)
      · exact attended.settled other excepted
    idle := fun other _ => by
      by_cases excepted : some other = except
      · exact own other excepted ▸ fun alive silent => absurd silent (heard alive)
      · exact attended.idle other excepted }

/-- Time has passed, and if it is strict, no verdict has become stale unless newer ones were
taken. -/
structure Passes (strict : Prop) (before after : System Ledger) : Prop where
  heard (id : ConnectionId) : (after.connection id).destroyed = false →
    (before.connection id).destroyed = false ∧
      (after.connection id).listeners = (before.connection id).listeners
  lived (id : ConnectionId) : (after.connection id).published.state.isLive = true →
    (before.connection id).published.state.isLive = true
  settled (id : ConnectionId) : (before.connection id).Settled → (after.connection id).Settled
  fresh : strict → before.Fresh → after.Fresh

theorem Passes.refl (strict : Prop) (system : System Ledger) : system.Passes strict system where
  heard _ alive := ⟨alive, rfl⟩
  lived _ live := live
  settled _ settled := settled
  fresh _ fresh := fresh

theorem Passes.trans (first : before.Passes strict middle) (second : middle.Passes strict after) :
    before.Passes strict after where
  heard id alive := by
    obtain ⟨there, same⟩ := second.heard id alive
    obtain ⟨before, still⟩ := first.heard id there
    exact ⟨before, same.trans still⟩
  lived id live := first.lived id (second.lived id live)
  settled id settled := second.settled id (first.settled id settled)
  fresh strict fresh := second.fresh strict (first.fresh strict fresh)

theorem Passes.weaken {weaker : Prop} (passes : before.Passes strict after)
    (implies : weaker → strict) : before.Passes weaker after :=
  { passes with fresh := fun given => passes.fresh (implies given) }

theorem Passes.renewed (passes : before.Passes False after) (fresh : after.Fresh) (strict : Prop) :
    before.Passes strict after :=
  { passes with fresh := fun _ _ => fresh }

structure Renewed (before after : System Ledger) : Prop where
  attended : after.Attended none
  passes : before.Passes False after
  fresh : after.Fresh

theorem Attended.congr (attended : before.Attended except)
    (connections : after.connections = before.connections) : after.Attended except where
  alone id := connection_congr connections id ▸ attended.alone id
  shows id := connection_congr connections id ▸ attended.shows id
  settled id := connection_congr connections id ▸ attended.settled id
  idle id := connection_congr connections id ▸ attended.idle id

theorem Passes.of_same (connections : after.connections = before.connections)
    (fresh : strict → before.Fresh → after.Fresh) : before.Passes strict after where
  heard id alive := by
    rw [connection_congr connections] at alive ⊢
    exact ⟨alive, rfl⟩
  lived id live := connection_congr connections id ▸ live
  settled id settled := by rwa [connection_congr connections]
  fresh := fresh

theorem Passes.revise (system : System Ledger) (id : ConnectionId)
    {change : Connection → Connection} (shows : (system.connection id).Shows)
    (turns : Connection.Turns strict (system.connection id) (change (system.connection id))) :
    system.Passes strict (system.reviseConnection id change) := by
  refine {
    heard := each_revise system id (fun other call => call.destroyed = false →
      (system.connection other).destroyed = false ∧
        call.listeners = (system.connection other).listeners) turns.heard
      fun _ alive => ⟨alive, rfl⟩
    lived := each_revise system id (fun other call => call.published.state.isLive = true →
      (system.connection other).published.state.isLive = true) (turns.lived shows)
      fun _ live => live
    settled := each_revise system id (fun other call =>
      (system.connection other).Settled → call.Settled) turns.settled fun _ settled => settled
    fresh := fun strict fresh => fresh.congr (by rw [reviseConnection_outside])
      (verdicts_congr ?_ ?_ ?_ ?_) }
  · cases id <;> rfl
  · intro conference
    cases id <;> cases conference <;> rfl
  · exact each_revise system id (fun other call => call.published.state.isLive =
      (system.connection other).published.state.isLive) (turns.stands strict).1 fun _ => rfl
  · exact each_revise system id (fun other call =>
      (system.connection other).published.state.isLive = true →
        call.conference = (system.connection other).conference) (turns.stands strict).2
      fun _ _ => rfl

theorem Attended.revise (attended : system.Attended except) (id : ConnectionId)
    {change : Connection → Connection}
    (turns : Connection.Turns False (system.connection id) (change (system.connection id)))
    (idle : some id ≠ except → (change (system.connection id)).Idle) :
    (system.reviseConnection id change).Attended except where
  alone := each_revise system id (fun _ call => .exchange ∉ call.listeners)
    (fun among => attended.alone id (turns.listeners.subset among)) attended.alone
  shows := each_revise system id (fun _ call => call.Shows) (turns.shows (attended.shows id))
    attended.shows
  settled := each_revise system id (fun other call => some other ≠ except → call.Settled)
    (fun apart => turns.settled (attended.settled id apart)) attended.settled
  idle := each_revise system id (fun other call => some other ≠ except → call.Idle) idle
    attended.idle

theorem Attended.rest (attended : system.Attended (some id))
    (settled : (system.connection id).Settled) :
    (system.reviseConnection id Connection.rested).Attended none := by
  have turns : Connection.Turns False (system.connection id) (system.connection id).rested :=
    .of_aspect rfl
  have sofar := attended.revise id turns fun apart => absurd rfl apart
  refine { sofar with
    settled := fun other _ => each_revise system id (fun _ call => call.Settled)
      (turns.settled settled) (fun other => ?_) other
    idle := fun other _ => ?_ }
  · by_cases own : other = id
    · exact own ▸ settled
    · exact attended.settled other fun same => own (Option.some.inj same)
  · by_cases own : other = id
    · subst own
      by_cases known : system.Known other
      · rw [system.connection_reviseConnection_known known]
        exact fun _ _ => rfl
      · rw [system.connection_reviseConnection, if_neg fun here => known here.2,
          system.connection_of_not_known known]
        exact nofun
    · exact sofar.idle other fun same => own (Option.some.inj same)

end System

def freshVerdicts (strict : Prop) (except : Option ConnectionId) : Law Ledger where
  holds := System.Attended except
  leads := System.Passes strict
  refl := .refl strict
  trans := .trans

structure Wiring.KeepsFresh (wiring : Wiring Ledger) : Prop where
  quiet (listeners : List Listener) (id : ConnectionId) (event : ConnectionEvent) :
    (∀ listener ∈ listeners, listener = .recorder) → ∀ system,
      (Act.tell listeners id event).Ensures wiring system fun _ after =>
        ∃ journal, after = { system with journal }
  tell (strict : Prop) (listeners : List Listener) (id : ConnectionId) (event : ConnectionEvent) :
    .exchange ∉ listeners → (Act.tell listeners id event).Obeys (freshVerdicts strict none) wiring
  ends (listeners : List Listener) (id : ConnectionId) (event : ConnectionEvent) :
    .exchange ∉ listeners → (∃ name, .observer name ∈ listeners) → event.isEnd = true →
      ∀ system, system.Attended none →
        (Act.tell listeners id event).Ensures wiring system fun _ after => after.Fresh

namespace Act

variable {wiring : Wiring Ledger} {strict : Prop} {except : Option ConnectionId}
  {system : System Ledger} {id : ConnectionId}

theorem freshVerdicts_sameConferences {change : System Ledger → System Ledger}
    (sameConferences : ∀ system : System Ledger, system.SameConferences (change system)) :
    Obeys (modify change) (freshVerdicts strict except) wiring := by
  refine .modify fun system attended => ?_
  have same := sameConferences system
  have connection := System.connection_congr same.connections
  refine ⟨System.Attended.congr attended same.connections,
    .of_same same.connections fun _ fresh => ?_⟩
  exact fresh.congr (by rw [same.outside])
    (System.verdicts_congr same.tracked (fun id => by
        cases id <;> simp only [System.conference, same.conferences])
      (fun id => by rw [connection]) fun id _ => by rw [connection])

theorem freshVerdicts_revise {change : Connection → Connection}
    (same : ∀ call, (change call).aspect = call.aspect)
    (calm : some id ≠ except → ∀ call, (change call).publishing = call.publishing) :
    (revise id change).Obeys (freshVerdicts strict except) wiring := by
  intro system attended
  rw [ensures_revise]
  refine ⟨System.Attended.revise attended id (.of_aspect (same _)) fun apart => ?_,
    .revise system id (attended.shows id) (.of_aspect (same _))⟩
  have idle := attended.idle id apart
  have same := same (system.connection id)
  simp only [Connection.aspect, Prod.mk.injEq] at same
  unfold Connection.Idle Connection.Unheard at idle ⊢
  rw [calm apart, same.2.2.1, same.2.2.2.1]
  exact idle

theorem freshVerdicts_unbind : (unbind id).Obeys (freshVerdicts strict except) wiring := by
  refine .bind (.look id) fun call =>
    .bind (freshVerdicts_revise (fun _ => rfl) fun _ _ => rfl) fun _ => ?_
  split
  · exact freshVerdicts_sameConferences fun _ => ⟨rfl, rfl, rfl, rfl, rfl⟩
  · exact .pure _

theorem freshVerdicts_showState {state : CallState} :
    (showState id state).Obeys (freshVerdicts strict (some id)) wiring := by
  refine .bind (.look id) fun call => ?_
  split
  · exact .pure _
  · exact .bind (freshVerdicts_revise (fun _ => rfl) fun apart => absurd rfl apart) fun _ =>
      freshVerdicts_sameConferences fun _ => ⟨rfl, rfl, rfl, rfl, rfl⟩

theorem aspect_showState {state : CallState} :
    (showState id state).Ensures wiring system fun _ shown =>
      ∀ other, (shown.connection other).aspect = (system.connection other).aspect := by
  rw [showState, ensures_bind, ensures_look]
  split
  · exact (ensures_pure _ _).mpr fun _ => rfl
  · rw [ensures_bind, ensures_revise, ensures_signal]
    intro other
    have same : ((system.reviseConnection id ({ · with watched := state })).connection
        other).aspect = (system.connection other).aspect :=
      system.each_revise id (fun other call => call.aspect = (system.connection other).aspect) rfl
        (fun _ => rfl) other
    cases other <;> exact same

theorem ensures_since {α : Type} {step : Act Ledger α} {middle : System Ledger} {later : Prop}
    (first : system.Passes strict middle) (implies : strict → later)
    (steps : step.Ensures wiring middle fun _ after =>
      after.Attended except ∧ middle.Passes later after) :
    step.Ensures wiring middle fun _ after => after.Attended except ∧ system.Passes strict after :=
  steps.mono fun _ _ done => ⟨done.1, first.trans (done.2.weaken implies)⟩

section
variable (keepsFresh : wiring.KeepsFresh)
include keepsFresh

theorem freshVerdicts_notify (own : ∀ other, some other = except → other = id)
    (event : ConnectionEvent) :
    (notify id event).Obeys (freshVerdicts strict except) wiring := by
  intro system attended
  rw [ensures_notify]
  by_cases unheard : (system.connection id).Unheard
  · refine (keepsFresh.quiet _ id event unheard system).mono fun _ after ⟨journal, same⟩ => ?_
    subst same
    exact ⟨System.Attended.congr attended rfl, .of_same rfl fun _ fresh => fresh.congr rfl rfl⟩
  · have whole := System.Attended.whole attended own fun _ => unheard
    refine (keepsFresh.tell strict _ id event (attended.alone id) system whole).mono
      fun _ after ⟨attended, passes⟩ => ⟨attended.weaken except, passes⟩

theorem fresh_notify (attended : system.Attended (some id))
    (heard : ¬ (system.connection id).Unheard) {event : ConnectionEvent}
    (ends : event.isEnd = true) :
    (notify id event).Ensures wiring system fun _ after => after.Fresh := by
  rw [ensures_notify]
  refine keepsFresh.ends _ id event (attended.alone id) ?_ ends system
    (attended.whole (fun _ => Option.some.inj) fun _ => heard)
  obtain ⟨listener, among, plain⟩ : ∃ listener ∈ (system.connection id).listeners,
      listener ≠ .recorder := by simpa [Connection.Unheard] using heard
  cases listener with
  | recorder => exact absurd rfl plain
  | exchange => exact absurd among (attended.alone id)
  | observer name => exact ⟨name, among⟩

theorem freshVerdicts_destroy (own : ∀ other, some other = except → other = id) :
    (destroy id).Obeys (freshVerdicts strict except) wiring := by
  intro system attended
  rw [destroy, ensures_bind, ensures_look]
  split
  · rw [ensures_pure]
    exact ⟨attended, .refl strict system⟩
  · rename_i alive
    have alive : (system.connection id).destroyed = false := Bool.eq_false_iff.mpr alive
    let dying (call : Connection) : Connection := { call with destroyed := true }
    let gone (call : Connection) : Connection := { call with listeners := [] }
    have dies (strict : Prop) (call : Connection) : Connection.Turns strict call (dying call) :=
      .of_destroyed rfl (.refl _) rfl rfl
    have first : (system.reviseConnection id dying).Attended except :=
      System.Attended.revise attended id (dies False _) fun _ => Connection.idle_of_destroyed rfl
    have begun := System.Passes.revise system id (attended.shows id) (dies strict _)
    have telling : (notify id .destroyed).Obeys (freshVerdicts strict except) wiring :=
      freshVerdicts_notify keepsFresh own _
    rw [ensures_bind, ensures_revise]
    refine telling.thenEnsures first fun _ told attended passes => ?_
    have dead : (told.connection id).destroyed = true := by
      refine (Bool.not_eq_false _).mp fun alive => ?_
      have still := (passes.heard id alive).1
      rw [system.connection_reviseConnection_known (system.known_of_alive ‹_›)] at still
      cases still
    have goes (strict : Prop) : Connection.Turns strict (told.connection id)
        (gone (told.connection id)) := .of_destroyed dead (List.nil_sublist _) rfl rfl
    rw [ensures_revise]
    exact ⟨attended.revise id (goes False) fun _ => Connection.idle_of_destroyed dead,
      begun.trans (passes.trans (.revise told id (attended.shows id) (goes strict)))⟩

theorem ensures_teardown_freshVerdicts (own : ∀ other, some other = except → other = id)
    (attended : system.Attended except)
    (down : strict → (system.connection id).published.state.isLive = false) :
    (teardown id).Ensures wiring system fun _ after =>
      after.Attended except ∧ system.Passes strict after := by
  let leaving (call : Connection) : Connection := { call with conference := none }
  have leaves {strict : Prop} (call : Connection)
      (down : strict → call.published.state.isLive = false) :
      Connection.Turns strict call (leaving call) :=
    ⟨.refl _, fun alive => ⟨alive, rfl⟩, fun shows => shows, fun _ live => live,
      fun settled => settled, fun given => ⟨rfl, fun live => by cases (down given).symm.trans live⟩⟩
  have first : (system.reviseConnection id leaving).Attended except :=
    System.Attended.revise attended id (leaves _ False.elim) fun apart => attended.idle id apart
  have begun : system.Passes strict (system.reviseConnection id leaving) :=
    .revise system id (attended.shows id) (leaves _ down)
  have rest : Obeys (unbind id >>= fun _ => destroy id) (freshVerdicts strict except) wiring :=
    .bind freshVerdicts_unbind fun _ => freshVerdicts_destroy keepsFresh own
  rw [teardown, ensures_bind, ensures_look, ensures_bind, ensures_revise]
  have whole : Obeys (do
      notify id (.disconnected ((system.connection id).ended.getD .byRequest))
      if (system.connection id).conference.isSome then notify id (.conferenceChanged none)
      unbind id
      destroy id) (freshVerdicts strict except) wiring := by
    refine .bind (freshVerdicts_notify keepsFresh own _) fun _ => ?_
    split
    · exact .bind (freshVerdicts_notify keepsFresh own _) fun _ => rest
    · exact rest
  exact ensures_since begun (fun given => given) (whole _ first)

theorem freshVerdicts_notifications (events : List ConnectionEvent) :
    (events.forM (notify id)).Obeys (freshVerdicts strict (some id)) wiring :=
  .forM _ fun event _ => freshVerdicts_notify keepsFresh (fun _ => Option.some.inj) event

theorem ensures_endOfRound (attended : system.Attended (some id)) (events : List ConnectionEvent)
    {ending : Bool}
    (down : ending = true → (system.connection id).published.state.isLive = false) :
    Ensures (do events.forM (notify id); if ending then teardown id) wiring system fun _ after =>
      after.Attended (some id) ∧ system.Passes strict after := by
  have tells : (events.forM (notify id)).Obeys (freshVerdicts strict (some id)) wiring :=
    freshVerdicts_notifications keepsFresh events
  refine tells.thenEnsures attended fun _ told attended passes => ?_
  split
  · rename_i ends
    have still : (told.connection id).published.state.isLive = false :=
      Bool.eq_false_iff.mpr fun live => Bool.eq_false_iff.mp (down ends) (passes.lived id live)
    exact ensures_since passes (fun given => given)
      (ensures_teardown_freshVerdicts keepsFresh (fun _ => Option.some.inj) attended fun _ => still)
  · rw [ensures_pure]
    exact ⟨attended, passes⟩

theorem ensures_tellCommit_freshVerdicts (attended : system.Attended (some id))
    (news : Connection.Commit)
    (down : news.ending = true → (system.connection id).published.state.isLive = false) :
    (tellCommit id news).Ensures wiring system fun _ after =>
      after.Attended (some id) ∧ system.Passes strict after := by
  rw [tellCommit]
  split
  · exact ensures_endOfRound keepsFresh attended news.events down
  · have shows : (showState id news.state).Obeys (freshVerdicts strict (some id)) wiring :=
      freshVerdicts_showState
    refine shows.thenEnsures attended fun _ shown attended passes => ?_
    refine ensures_since passes (fun given => given)
      (ensures_endOfRound keepsFresh attended news.events fun ending => ?_)
    exact Bool.eq_false_iff.mpr fun live =>
      Bool.eq_false_iff.mp (down ending) (passes.lived id live)

theorem fresh_tellCommit (attended : system.Attended (some id)) {news : Connection.Commit}
    (heard : ¬ (system.connection id).Unheard)
    {event : ConnectionEvent} {rest : List ConnectionEvent} (events : news.events = event :: rest)
    (ends : event.isEnd = true)
    (down : (system.connection id).published.state.isLive = false) :
    (tellCommit id news).Ensures wiring system fun _ after => after.Fresh := by
  have begins {shown : System Ledger} (attended : shown.Attended (some id))
      (heard : ¬ (shown.connection id).Unheard)
      (down : (shown.connection id).published.state.isLive = false) :
      Ensures (do news.events.forM (notify id); if news.ending then teardown id) wiring shown
        fun _ after => after.Fresh := by
    have tells : (notify id event).Obeys (freshVerdicts False (some id)) wiring :=
      freshVerdicts_notify keepsFresh (fun _ => Option.some.inj) event
    rw [events, List.forM, ensures_bind, ensures_bind]
    intro _ told run
    obtain ⟨attended', passes⟩ := tells shown attended _ told run
    have fresh := fresh_notify keepsFresh attended heard ends _ told run
    rw [← ensures_bind]
    refine (ensures_endOfRound keepsFresh attended' rest fun _ => ?_).mono
      fun _ after done => done.2.fresh trivial fresh
    exact Bool.eq_false_iff.mpr fun live => Bool.eq_false_iff.mp down (passes.lived id live)
  have shows : (showState id news.state).Obeys (freshVerdicts False (some id)) wiring :=
    freshVerdicts_showState
  rw [tellCommit, if_neg (by simp [events]), ensures_bind]
  intro _ shown run
  have same := aspect_showState _ shown run id
  simp only [Connection.aspect, Prod.mk.injEq] at same
  refine begins (shows system attended _ shown run).1 ?_ (same.2.1 ▸ down)
  unfold Connection.Unheard at heard ⊢
  rwa [same.2.2.2.1]

theorem ensures_round (attended : system.Attended (some id))
    (alive : (system.connection id).destroyed = false) :
    (tellCommit id (system.connection id).roundCommit).Ensures wiring
      (system.reviseConnection id fun _ => (system.connection id).roundBegun) fun _ after =>
        after.Attended (some id) ∧ (after.connection id).Settled ∧
          system.Passes (strict ∧ (system.connection id).Settled) after := by
  let roundBegun := system.reviseConnection id fun _ => (system.connection id).roundBegun
  have own : roundBegun.connection id = (system.connection id).roundBegun :=
    system.connection_reviseConnection_known (system.known_of_alive alive) _
  have settled : (roundBegun.connection id).Settled := by
    intro _ _ live
    rw [own] at live ⊢
    change (system.connection id).visibleState.isLive = true
    rwa [← Connection.derived_state]
  have begun : roundBegun.Attended (some id) :=
    System.Attended.revise attended id (Connection.turns_roundBegun alive False.elim)
      fun apart => absurd rfl apart
  have down (ending : (system.connection id).roundCommit.ending = true) :
      (roundBegun.connection id).published.state.isLive = false := by
    have ended : (system.connection id).derived.state = .disconnected := by
      simp_all [Connection.roundCommit]
    rw [own]
    change (system.connection id).derived.state.isLive = false
    rw [ended]
    rfl
  have tells (strict : Prop) :
      (tellCommit id (system.connection id).roundCommit).Ensures wiring roundBegun
        fun _ after => after.Attended (some id) ∧ roundBegun.Passes strict after :=
    ensures_tellCommit_freshVerdicts keepsFresh begun _ down
  by_cases steady : (system.connection id).derived.state.isLive =
      (system.connection id).published.state.isLive
  · have first : system.Passes (strict ∧ (system.connection id).Settled) roundBegun :=
      .revise system id (attended.shows id) (Connection.turns_roundBegun alive fun _ => steady)
    refine (tells (strict ∧ (system.connection id).Settled)).mono ?_
    rintro _ after ⟨attended, passes⟩
    exact ⟨attended, passes.settled id settled, first.trans passes⟩
  have first : system.Passes False roundBegun :=
    .revise system id (attended.shows id) (Connection.turns_roundBegun alive False.elim)
  obtain ⟨live, past⟩ : (system.connection id).published.state.isLive = true ∧
      (system.connection id).derived.state.isLive = false := by
    have shows := attended.shows id alive
    rw [← Connection.derived_state] at shows
    cases up : (system.connection id).derived.state.isLive with
    | true => exact absurd (up.trans (shows up).symm) steady
    | false => exact ⟨(Bool.not_eq_false _).mp fun down => steady (up.trans down.symm), rfl⟩
  by_cases unheard : (system.connection id).Unheard
  · have lax (given : strict ∧ (system.connection id).Settled) : False := by
      have up := given.2 alive unheard live
      rw [← Connection.derived_state] at up
      cases past.symm.trans up
    refine (tells False).mono ?_
    rintro _ after ⟨attended, passes⟩
    exact ⟨attended, passes.settled id settled, (first.trans passes).weaken lax⟩
  · obtain ⟨event, rest, events, ends⟩ := Connection.changes_of_over live past
    have heard : ¬ (roundBegun.connection id).Unheard := by rwa [own]
    have gone : (roundBegun.connection id).published.state.isLive = false := by
      rw [own]
      exact past
    intro _ after run
    obtain ⟨attended, passes⟩ := tells False _ after run
    have fresh := fresh_tellCommit keepsFresh begun heard events ends gone _ after run
    exact ⟨attended, passes.settled id settled, (first.trans passes).renewed fresh _⟩

theorem ensures_publish_freshVerdicts (rounds : Nat) (attended : system.Attended (some id)) :
    (publish id rounds).Ensures wiring system fun _ after =>
      after.Attended none ∧ system.Passes (strict ∧ (system.connection id).Settled) after := by
  induction rounds generalizing system with
  | zero => exact ensures_failure _
  | succ rounds ih =>
    refine ensures_publish_succ (fun why => ?_) fun alive => ?_
    · refine ⟨attended.rest fun alive _ live => ?_,
        .revise system id (attended.shows id) (.of_aspect rfl)⟩
      rcases why with gone | ⟨shown, -⟩
      · cases gone.symm.trans alive
      · rwa [← Connection.derived_state, ← shown]
    · refine (@ensures_round wiring strict system id keepsFresh attended alive).mono ?_
      rintro _ told ⟨attended, settled, passes⟩
      rw [endRound, ensures_bind, ensures_look]
      split
      · rw [ensures_revise]
        exact ⟨attended.rest settled,
          passes.trans (.revise told id (attended.shows id) (.of_aspect rfl))⟩
      · exact ensures_since passes (fun given => ⟨given.1, settled⟩) (ih attended)

theorem ensures_update_freshVerdicts (attended : system.Attended (some id))
    (idle : (system.connection id).Idle) :
    (update id).Ensures wiring system fun _ after =>
      after.Attended none ∧ system.Passes (strict ∧ (system.connection id).Settled) after := by
  rw [update, ensures_bind, ensures_look]
  split
  · rename_i busy
    have heard (alive : (system.connection id).destroyed = false) :
        ¬ (system.connection id).Unheard :=
      fun unheard => Bool.eq_false_iff.mp (idle alive unheard) busy
    have waits : (revise id ({ · with republish := true })).Obeys
        (freshVerdicts (strict ∧ (system.connection id).Settled) none) wiring :=
      freshVerdicts_revise (fun _ => rfl) fun _ _ => rfl
    exact waits system (attended.whole (fun _ => Option.some.inj) heard)
  · have begins : (revise id ({ · with publishing := true })).Obeys
        (freshVerdicts (strict ∧ (system.connection id).Settled) (some id)) wiring :=
      freshVerdicts_revise (fun _ => rfl) fun apart => absurd rfl apart
    refine begins.thenEnsures attended fun _ begun attended passes => ?_
    rw [ensures_bind, ensures_rounds]
    exact ensures_since passes (fun given => ⟨given.1, passes.settled id given.2⟩)
      (ensures_publish_freshVerdicts keepsFresh wiring.rounds attended)

theorem freshVerdicts_update : (update id).Obeys (freshVerdicts strict none) wiring := by
  intro system attended
  exact ensures_since (.refl strict system) (fun given => ⟨given, attended.settles id⟩)
    (ensures_update_freshVerdicts keepsFresh (attended.weaken _) (attended.idles id))

theorem freshVerdicts_setHoldAllowed (id : ConnectionId) (allowed : Bool) :
    (setHoldAllowed id allowed).Obeys (freshVerdicts strict none) wiring := by
  refine .bind (.look id) fun call => ?_
  split
  · exact .pure _
  · exact .bind (freshVerdicts_revise (fun _ => rfl) fun _ _ => rfl) fun _ =>
      freshVerdicts_update keepsFresh

theorem freshVerdicts_passVerdicts : passVerdicts.Obeys (freshVerdicts strict none) wiring := by
  refine .bind .get fun system => .forM _ fun entity _ => ?_
  cases entity with
  | connection id => exact freshVerdicts_setHoldAllowed keepsFresh id _
  | conference id =>
    refine .modify fun now attended => ?_
    let given := now.reviseConference id
      ({ · with holdAllowed := system.mayHold (.conference id) })
    have same : given.connections = now.connections := by cases id <;> rfl
    have connection := System.connection_congr same
    refine ⟨System.Attended.congr attended same, .of_same same fun _ fresh =>
      fresh.congr (by cases id <;> rfl) (System.verdicts_congr (now.tracked_reviseConference id _)
        (fun other => ?_) (fun other => by rw [connection]) fun other _ => by rw [connection])⟩
    rw [System.conference_reviseConference]
    split
    · rename_i own
      rw [own.1]
      rfl
    · rfl

theorem freshVerdicts_setDisconnected (id : ConnectionId) (info : DisconnectInfo) :
    (setDisconnected id info).Obeys (freshVerdicts False none) wiring := by
  intro system attended
  rw [setDisconnected, ensures_bind, ensures_look]
  split
  · rw [ensures_pure]
    exact ⟨attended, .refl False system⟩
  · rw [ensures_bind, ensures_revise]
    let ending (call : Connection) : Connection :=
      { call with ended := some info, presented := none }
    let past := system.reviseConnection id ending
    have shows (call : Connection) : (ending call).Shows := fun _ live => by cases live
    have begun : past.Attended (some id) := {
      alone := system.each_revise id (fun _ call => .exchange ∉ call.listeners)
        (attended.alone id) attended.alone
      shows := system.each_revise id (fun _ call => call.Shows) (shows _) attended.shows
      settled := system.each_revise id (fun other call => some other ≠ some id → call.Settled)
        (fun apart => absurd rfl apart) fun other _ => attended.settles other
      idle := system.each_revise id (fun other call => some other ≠ some id → call.Idle)
        (fun apart => absurd rfl apart) fun other _ => attended.idles other }
    have idle : (past.connection id).Idle :=
      system.each_revise id (fun _ call => call.Idle) (attended.idles id) attended.idles id
    have same (other : ConnectionId) :
        (past.connection other).destroyed = (system.connection other).destroyed ∧
          (past.connection other).listeners = (system.connection other).listeners ∧
            (past.connection other).published = (system.connection other).published :=
      system.each_revise id (fun other call =>
        call.destroyed = (system.connection other).destroyed ∧
          call.listeners = (system.connection other).listeners ∧
            call.published = (system.connection other).published) ⟨rfl, rfl, rfl⟩
        (fun _ => ⟨rfl, rfl, rfl⟩) other
    refine (@ensures_update_freshVerdicts wiring False past id keepsFresh begun idle).mono ?_
    rintro _ after ⟨attended, passes⟩
    refine ⟨attended, {
      heard := fun other alive => ?_
      lived := fun other live => ?_
      settled := fun other _ => attended.settles other
      fresh := False.elim }⟩
    · obtain ⟨there, still⟩ := passes.heard other alive
      exact ⟨(same other).1 ▸ there, still.trans (same other).2.1⟩
    · have live := passes.lived other live
      rwa [(same other).2.2] at live

theorem freshVerdicts_close (id : ConnectionId) :
    (close id).Obeys (freshVerdicts False none) wiring := by
  have rest : (wrapUp id).Obeys (freshVerdicts False none) wiring := by
    refine .bind (.look id) fun call => ?_
    split
    · exact .bind (freshVerdicts_revise (fun _ => rfl) fun _ _ => rfl) fun _ system attended =>
        ensures_teardown_freshVerdicts keepsFresh nofun attended nofun
    · exact .bind freshVerdicts_unbind fun _ => freshVerdicts_destroy keepsFresh nofun
  refine .bind (.look id) fun call => ?_
  split
  · exact .bind (freshVerdicts_setDisconnected keepsFresh id _) fun _ => rest
  · exact rest

theorem renews_retrack (attended : system.Attended none) (tracked : List Holdable)
    {step : Act Ledger Unit} (steps : ∀ outside goal,
      step.Ensures wiring { system with outside } goal ↔
        passVerdicts.Ensures wiring { system with tracked, outside } goal) :
    (giving (System.verdicts { system with tracked }) step).Ensures wiring system fun _ after =>
      system.Renewed after := by
  have passes : passVerdicts.Obeys (freshVerdicts True none) wiring :=
    freshVerdicts_passVerdicts keepsFresh
  rw [giving, ensures_bind, ensures_reviseOutside, ensures_bind]
  refine ((steps _ _).mpr (passes _ (System.Attended.congr attended rfl))).mono ?_
  rintro _ given ⟨attended, passes⟩
  have fresh : given.Fresh := passes.fresh trivial ⟨_, rfl⟩
  have since : system.Passes False given := by
    refine .trans ?_ (passes.weaken False.elim)
    exact .of_same rfl False.elim
  rw [ensures_reviseOutside]
  exact ⟨attended.congr rfl, since.trans (.of_same rfl False.elim), fresh.congr rfl rfl⟩

theorem renews_recompute (attended : system.Attended none) :
    recompute.Ensures wiring system fun _ after => system.Renewed after := by
  rw [recompute, ensures_bind, ensures_get]
  exact renews_retrack keepsFresh attended system.tracked fun _ _ => .rfl

theorem renews_meanwhile {step : Act Ledger Unit}
    (obeys : step.Obeys (freshVerdicts False none) wiring)
    (attended : system.Attended none) :
    Ensures (do meanwhile step; recompute) wiring system fun _ after => system.Renewed after := by
  have aside (change : Ledger → Ledger) :
      (reviseOutside change).Obeys (freshVerdicts False none) wiring :=
    .modify fun now attended => ⟨System.Attended.congr attended rfl, .of_same rfl False.elim⟩
  have done : (meanwhile step).Obeys (freshVerdicts False none) wiring :=
    .bind (aside _) fun _ => .bind obeys fun _ => aside _
  refine done.thenEnsures attended fun _ middle attended passes => ?_
  exact (renews_recompute keepsFresh attended).mono fun _ after renewed =>
    ⟨renewed.attended, passes.trans renewed.passes, renewed.fresh⟩

end
end Act

/-- Verdicts are taken anew. -/
def Disturbance.Recomputes (system : System Ledger) : Disturbance → Prop
  | track entity => entity ∉ system.tracked
  | untrack entity => entity ∈ system.tracked
  | _ => True

namespace Disturbance

variable {wiring : Wiring Ledger} (keepsFresh : wiring.KeepsFresh) {system : System Ledger}
include keepsFresh

theorem renews_act {disturbance : Disturbance} (attended : system.Attended none)
    (recomputes : disturbance.Recomputes system) :
    disturbance.act.Ensures wiring system fun _ after => system.Renewed after := by
  cases disturbance with
  | recompute => exact Act.renews_recompute keepsFresh attended
  | disconnect id info =>
    exact Act.renews_meanwhile keepsFresh
      (Act.freshVerdicts_setDisconnected keepsFresh id info) attended
  | close id =>
    exact Act.renews_meanwhile keepsFresh (Act.freshVerdicts_close keepsFresh id) attended
  | track entity =>
    have strange : ¬ system.tracked.contains entity = true := by
      simpa using show entity ∉ system.tracked from recomputes
    rw [act, Act.ensures_bind, Act.ensures_get, if_neg strange]
    exact Act.renews_retrack keepsFresh attended _ (Act.ensures_track strange)
  | untrack entity =>
    have there : system.tracked.contains entity = true := by
      simpa using show entity ∈ system.tracked from recomputes
    rw [act, Act.ensures_bind, Act.ensures_get, if_pos there]
    exact Act.renews_retrack keepsFresh attended _ (Act.ensures_untrack there)

theorem freshVerdicts_act (strict : Prop) (disturbance : Disturbance) :
    disturbance.act.Obeys (freshVerdicts strict none) wiring := by
  intro system attended
  by_cases recomputes : disturbance.Recomputes system
  · exact (renews_act keepsFresh attended recomputes).mono fun _ after renewed =>
      ⟨renewed.attended, renewed.passes.renewed renewed.fresh strict⟩
  · have rests : (pure () : Act Ledger Unit).Ensures wiring system fun _ after =>
        after.Attended none ∧ system.Passes strict after :=
      (Act.ensures_pure _ _).mpr ⟨attended, .refl strict system⟩
    cases disturbance with
    | track entity =>
      have there : system.tracked.contains entity = true := by
        simpa [Recomputes] using recomputes
      rw [act, Act.ensures_bind, Act.ensures_get, if_pos there]
      exact rests
    | untrack entity =>
      have strange : ¬ system.tracked.contains entity = true := by
        simpa [Recomputes] using recomputes
      rw [act, Act.ensures_bind, Act.ensures_get, if_neg strange]
      exact rests
    | _ => exact absurd trivial recomputes

end Disturbance

theorem Reaction.freshVerdicts_act {wiring : Wiring Ledger} (keepsFresh : wiring.KeepsFresh)
    (strict : Prop)
    (reaction : Reaction) : reaction.act.Obeys (freshVerdicts strict none) wiring := by
  induction reaction with
  | rest => exact .pure _
  | look next ih => exact .bind .get fun system => ih system
  | make disturbance next ih =>
    exact .bind (disturbance.freshVerdicts_act keepsFresh strict) fun _ => ih

namespace Wiring

variable {react : String → ConnectionId → ConnectionEvent → Reaction} {wiring : Wiring Ledger}

section
variable (keepsFresh : wiring.KeepsFresh)
include keepsFresh

theorem freshVerdicts_hear (strict : Prop) (name : String) (id : ConnectionId)
    (event : ConnectionEvent) :
    ((Bystanders.meddling react).hear name id event).Obeys (freshVerdicts strict none) wiring := by
  have notes : (Act.reviseOutside (·.past id)).Obeys (freshVerdicts strict none) wiring :=
    .modify fun system attended => ⟨System.Attended.congr attended rfl,
      .of_same rfl fun _ fresh => fresh.congr rfl rfl⟩
  refine .bind notes fun _ =>
    .bind ((react name id event).freshVerdicts_act keepsFresh strict) fun _ => ?_
  split
  · exact Disturbance.recompute.freshVerdicts_act keepsFresh strict
  · exact .pure _

theorem fresh_hear {event : ConnectionEvent} (ends : event.isEnd = true) (name : String)
    (id : ConnectionId) {system : System Ledger} (attended : system.Attended none) :
    ((Bystanders.meddling react).hear name id event).Ensures wiring system fun _ after =>
      after.Fresh := by
  rw [Bystanders.meddling, Act.ensures_bind, Act.ensures_reviseOutside, if_pos ends]
  refine ((react name id event).freshVerdicts_act keepsFresh False).thenEnsures
    (System.Attended.congr attended rfl) fun _ reacted attended _ => ?_
  exact (Act.renews_recompute keepsFresh attended).mono fun _ _ renewed => renewed.fresh

theorem freshVerdicts_tellOne (strict : Prop) (id : ConnectionId) (event : ConnectionEvent)
    {listener : Listener} (alone : listener ≠ .exchange) :
    ((Bystanders.meddling react).tellOne id event listener).Obeys
      (freshVerdicts strict none) wiring := by
  refine .bind (Act.freshVerdicts_sameConferences fun _ => ⟨rfl, rfl, rfl, rfl, rfl⟩) fun _ => ?_
  cases listener with
  | recorder => exact .pure _
  | exchange => exact absurd rfl alone
  | observer name => exact freshVerdicts_hear keepsFresh strict name id event

theorem fresh_telling {event : ConnectionEvent} (ends : event.isEnd = true) (id : ConnectionId)
    {listeners : List Listener} (alone : .exchange ∉ listeners)
    (heard : ∃ name, .observer name ∈ listeners) {system : System Ledger}
    (attended : system.Attended none) :
    (listeners.forM ((Bystanders.meddling react).tellOne id event)).Ensures wiring system
      fun _ after => after.Fresh := by
  obtain ⟨name, among⟩ := heard
  induction listeners generalizing system with
  | nil => cases among
  | cons listener rest ih =>
    have apart : listener ≠ .exchange := fun same => alone (same ▸ List.mem_cons_self)
    have others : .exchange ∉ rest := fun later => alone (.tail _ later)
    have first :
      ((Bystanders.meddling react).tellOne id event listener).Obeys (freshVerdicts False none)
        wiring := freshVerdicts_tellOne keepsFresh False id event apart
    rw [List.forM, Act.ensures_bind]
    intro _ told run
    obtain ⟨attended', -⟩ := first system attended _ told run
    rcases List.mem_cons.mp among with rfl | later
    · have own : ((Bystanders.meddling react).tellOne id event (.observer name)).Ensures wiring
          system fun _ after => after.Fresh := by
        rw [Bystanders.tellOne, Act.ensures_bind, Act.ensures_write]
        exact fresh_hear keepsFresh ends name id (attended.congr rfl)
      have fresh : told.Fresh := own _ told run
      have more : (rest.forM ((Bystanders.meddling react).tellOne id event)).Obeys
          (freshVerdicts True none) wiring :=
        .forM rest fun listener among =>
          freshVerdicts_tellOne keepsFresh True id event fun same => others (same ▸ among)
      exact (more told attended').mono fun _ after done => done.2.fresh trivial fresh
    · exact ih others attended' later

end

theorem keepsFresh_level (rounds : Nat) : (level (.meddling react) rounds).KeepsFresh := by
  induction rounds with
  | zero =>
    constructor
    · exact fun _ _ _ _ _ _ _ run => nomatch run
    · exact fun _ _ _ _ _ _ _ _ _ run => nomatch run
    · exact fun _ _ _ _ _ _ _ _ _ _ run => nomatch run
  | succ rounds keepsFresh =>
    refine ⟨fun listeners id event recorded system => ?_,
      fun strict listeners id event alone system attended => ?_,
      fun listeners id event alone heard ends system attended => ?_⟩
    · rw [Act.ensures_tell]
      have all : (listeners.forM ((Bystanders.meddling react).tellOne id event)).Ensures
          (level (.meddling react) rounds) system fun _ after =>
            ∃ journal, after = { system with journal } := by
        refine Act.ensures_forM (fun after => ∃ journal, after = { system with journal }) listeners
          (fun listener among now sofar => ?_) ⟨system.journal, rfl⟩
        obtain ⟨journal, rfl⟩ := sofar
        rw [recorded listener among, Bystanders.tellOne, Act.ensures_bind, Act.ensures_write,
          Act.ensures_pure]
        exact ⟨_, rfl⟩
      exact all ⟨⟩
    · rw [Act.ensures_tell]
      exact Act.Obeys.forM listeners (fun listener among =>
        freshVerdicts_tellOne keepsFresh strict id event fun same => alone (same ▸ among))
          system attended ⟨⟩
    · rw [Act.ensures_tell]
      exact fresh_telling keepsFresh ends id alone heard attended ⟨⟩

end Wiring

namespace System

variable {system : System Ledger}

/-- What was still on its way to entities when verdicts were taken last. -/
def owed (system : System Ledger) : List Award :=
  system.outside.due.drop system.tracked.length

theorem OnlyObserved.attended (onlyObserved : system.OnlyObserved) : system.Attended none where
  alone := onlyObserved.alone
  shows id alive live := by
    rw [(onlyObserved.alive alive).1]
    exact live
  settled id _ alive _ live := by
    rw [← (onlyObserved.alive alive).1]
    exact live
  idle id _ _ _ := onlyObserved.quiet id

theorem Orderly.verdict (orderly : system.Orderly []) (fresh : system.Fresh) {entity : Holdable}
    (tracked : entity ∈ system.tracked) :
    system.verdict entity =
      (system.owed.reverse.lookup entity).getD (system.mayHold entity) := by
  obtain ⟨given, books⟩ := orderly.given
  obtain ⟨owed, due⟩ := fresh
  have own : system.owed = owed := by
    rw [System.owed, due, List.drop_append_of_le_length (by simp [verdicts])]
    simp [verdicts]
  have whole : given = system.verdicts ++ owed := by
    rw [← due, books.due, List.flatten_nil, List.append_nil]
  have first : system.verdicts.reverse.lookup entity = some (system.mayHold entity) := by
    rw [verdicts, ← List.map_reverse]
    exact List.lookup_graph system.mayHold (List.mem_reverse.mpr tracked)
  refine books.last entity _ ?_
  rw [whole, List.reverse_append, List.lookup_append, own, first]
  cases owed.reverse.lookup entity <;> rfl

end System

namespace Disturbance

variable {react : String → ConnectionId → ConnectionEvent → Reaction} {rounds : Nat}
  {start before after : System Ledger} {earlier : List Disturbance} {last : Disturbance}

def run (react : String → ConnectionId → ConnectionEvent → Reaction) (rounds : Nat)
    (disturbances : List Disturbance) (start : System Ledger) : Option (System Ledger) :=
  disturbances.foldlM (fun system disturbance =>
    (disturbance.act (.level (.meddling react) rounds) system).map (·.2)) start

theorem run_keeps (attended : start.Attended none) (orderly : start.Orderly [])
    (nothing : start.outside.ahead = []) (runs : run react rounds earlier start = some after) :
    after.Attended none ∧ after.Orderly [] ∧ after.outside.ahead = [] := by
  induction earlier generalizing start with
  | nil =>
    cases runs
    exact ⟨attended, orderly, nothing⟩
  | cons disturbance later ih =>
    obtain ⟨next, first, others⟩ := Option.bind_eq_some_iff.mp runs
    obtain ⟨⟨⟨⟩, last⟩, ran, rfl⟩ := Option.map_eq_some_iff.mp first
    obtain ⟨attended, -⟩ :=
      disturbance.freshVerdicts_act (Wiring.keepsFresh_level rounds) False start
      attended _ _ ran
    have begun : start.Orderly start.outside.ahead := nothing ▸ orderly
    obtain ⟨orderly, same⟩ := disturbance.obeys_act (Wiring.books_level rounds) start begun _ _ ran
    have ahead : last.outside.ahead = [] := same.trans nothing
    have orderly : last.Orderly last.outside.ahead := orderly
    exact ih attended (ahead ▸ orderly) ahead others

/-- Whatever listeners do about verdicts while they are given, in the end an entity has the verdict
on the situation as it is, unless another one was on its way to it when verdicts were taken last: it
has the last of those. So verdicts are stale exactly if one of these was. -/
theorem verdicts_stand_iff (onlyObserved : start.OnlyObserved) (distinct : start.tracked.Nodup)
    (unwritten : start.outside = {}) (runs : run react rounds earlier start = some before)
    (recomputes : last.Recomputes before)
    (done : last.act (.level (.meddling react) rounds) before = some ((), after)) :
    (∀ entity ∈ after.tracked, after.verdict entity =
      (after.owed.reverse.lookup entity).getD (after.mayHold entity)) ∧
    ((∀ entity ∈ after.tracked, after.verdict entity = after.mayHold entity) ↔
      ∀ entity ∈ after.tracked, ∀ allowed, after.owed.reverse.lookup entity = some allowed →
        allowed = after.mayHold entity) := by
  have orderly : start.Orderly [] := {
    alone := onlyObserved.alone
    distinct := distinct
    given := ⟨[], by rw [unwritten]; rfl, by rw [unwritten]; exact nofun, nofun⟩ }
  obtain ⟨attended, orderly, nothing⟩ := run_keeps onlyObserved.attended orderly
    (by rw [unwritten]) runs
  have renewed := renews_act (Wiring.keepsFresh_level rounds) attended recomputes _ _ done
  have begun : before.Orderly before.outside.ahead := nothing ▸ orderly
  obtain ⟨orderly, same⟩ := last.obeys_act (Wiring.books_level rounds) before begun _ _ done
  have ahead : after.outside.ahead = [] := same.trans nothing
  have orderly : after.Orderly after.outside.ahead := orderly
  have own (entity : Holdable) (tracked : entity ∈ after.tracked) : after.verdict entity =
      (after.owed.reverse.lookup entity).getD (after.mayHold entity) :=
    (ahead ▸ orderly).verdict renewed.fresh tracked
  refine ⟨own, fun stands entity tracked allowed found => ?_, fun last entity tracked => ?_⟩
  · rw [← stands entity tracked, own entity tracked, found]
    rfl
  · rw [own entity tracked]
    cases found : after.owed.reverse.lookup entity with
    | none => rfl
    | some allowed => exact last entity tracked allowed found

def twoCalls (watched : ConnectionId) : List Doing :=
  [0, 1].flatMap (fun serial => [
    .move (.create { phone := ⟨0⟩, technology := .ims }),
    .move (.createLeg { state := .active, technology := .ims }),
    .move (.bind (.issued serial) ⟨serial⟩)]) ++
  [.move (.addListener watched (.observer "leaver"))]

def leaves : String → ConnectionId → ConnectionEvent → Reaction
  | _, id, .capabilitiesChanged _ => .make (.untrack (.connection id)) .rest
  | _, _, _ => .rest

/-- The calls are tracked one after the other. -/
def trackBoth (watched : ConnectionId) :
    Option (System Ledger × System Ledger × System Ledger) := do
  let start ← Doing.run (.silent : Bystanders Ledger) 4 (twoCalls watched) { outside := {} }
  let before ← run leaves 4 [.track (.connection (.issued 0))] start
  let (_, after) ← (track (.connection (.issued 1))).act (.level (.meddling leaves) 4) before
  return (start, before, after)

/-- The second call goes last, when nothing is on its way to the first. -/
theorem second_leaves_in_time : ∃ start before after,
    trackBoth (.issued 1) = some (start, before, after) ∧
      after.tracked = [.connection (.issued 0)] ∧
      ∀ entity ∈ after.tracked, after.verdict entity = after.mayHold entity := by
  have whole : (trackBoth (.issued 1)).any (fun (start, before, after) =>
      start.tracked == [] && decide (start.outside.ahead = [] ∧ start.outside.due = []) &&
        before.tracked == [.connection (.issued 0)] && after.owed == [] &&
          after.tracked == [.connection (.issued 0)]) = true := by decide +kernel
  obtain ⟨⟨start, before, _⟩, runs, shows⟩ := (Option.any_eq_true _ _).mp whole
  simp only [Bool.and_eq_true, beq_iff_eq, decide_eq_true_eq] at shows
  obtain ⟨⟨⟨⟨fresh, ahead, due⟩, single⟩, nothing⟩, left⟩ := shows
  have steps := runs
  simp only [trackBoth, Option.bind_eq_bind, Option.bind_eq_some_iff] at steps
  obtain ⟨_, begins, _, tracks, ⟨⟨⟩, after⟩, last, same⟩ := steps
  cases same
  have onlyObserved :=
    ((System.Partitioned.opening rfl rfl).run (Bystanders.observe_silent fun _ => ())
    (by simp [twoCalls, Doing.Proper]) begins).onlyObserved
  have unwritten : start.outside = {} := by
    cases outside : start.outside
    simp_all
  refine ⟨start, before, after, runs, left,
    (verdicts_stand_iff onlyObserved (fresh ▸ List.nodup_nil)
    unwritten tracks (by simp [Recomputes, single]) last).2.mpr fun entity _ allowed found => ?_⟩
  rw [nothing] at found
  cases found

/-- The first call goes while a verdict is on its way to the second, which may be held then although
it is alone. -/
theorem first_leaves_stale : ∃ start before after,
    trackBoth (.issued 0) = some (start, before, after) ∧
      after.tracked = [.connection (.issued 1)] ∧
      after.verdict (.connection (.issued 1)) = true ∧
      after.mayHold (.connection (.issued 1)) = false := by
  have whole : (trackBoth (.issued 0)).any (fun (_, _, after) =>
      after.tracked == [.connection (.issued 1)] && after.verdict (.connection (.issued 1)) &&
        !after.mayHold (.connection (.issued 1))) = true := by decide +kernel
  obtain ⟨⟨start, before, after⟩, runs, shows⟩ := (Option.any_eq_true _ _).mp whole
  simp only [Bool.and_eq_true, beq_iff_eq, Bool.not_eq_true'] at shows
  exact ⟨start, before, after, runs, shows.1.1, shows.1.2, shows.2⟩

end Disturbance
end Switchboard
