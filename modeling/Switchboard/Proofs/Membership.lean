import Switchboard.Proofs.Conferences
import Switchboard.Proofs.ObserverUpdates

/-! Membership in conferences, where the desk is brought in line with one list of connections after
another, and anything may be done with connections in between, of which only observers hear. A
connection that is torn down drops its link and leaves its conference to forget it; all the same,
whenever the desk has just been brought in line, links and members agree:
`Doing.conferences_partition`. -/

namespace Switchboard

namespace Connection

variable {call : Connection}

structure QuietCall (call : Connection) : Prop where
  idle : call.publishing = false
  closed : call.destroyed = true → call.published.state = .disconnected
  going : call.destroyed = false → call.published.state ≠ .disconnected ∧ call.ended = none ∧
    call.teardownStarted = false
  alone : .exchange ∉ call.listeners

theorem quietCall_absent : absent.QuietCall where
  idle := rfl
  closed _ := rfl
  going := nofun
  alone := List.not_mem_nil

theorem QuietCall.keepsLifecycle (quietCall : call.QuietCall) {change : Connection → Connection}
    (keepsLifecycle : KeepsLifecycle change) : (change call).QuietCall := by
  have same := keepsLifecycle.lifecycle call
  simp only [lifecycle, Prod.mk.injEq] at same
  obtain ⟨ended, started, gone, published, publishing, -, -⟩ := same
  constructor
  · rw [publishing]
    exact quietCall.idle
  · rw [gone, published]
    exact quietCall.closed
  · rw [gone, published, ended, started]
    exact quietCall.going
  · rw [keepsLifecycle.listeners]
    exact quietCall.alone

theorem quietCall_updated (closed : call.destroyed = true → call.published.state = .disconnected)
    (alone : .exchange ∉ call.listeners) (watched : CallState) :
    (call.updated.seenAs watched).QuietCall := by
  by_cases gone : call.destroyed = true
  · have same : call.updated = call.rested := by rw [updated, if_pos gone]
    rw [same]
    exact ⟨rfl, closed, fun alive => absurd gone (by simpa [rested, seenAs] using alive), alone⟩
  have alive : call.destroyed = false := by simpa using gone
  by_cases ending : call.isEnding = true
  · have same : call.updated = ({ call.committed.tornDown with conference := none }).rested := by
      rw [updated, if_neg gone, delivered, if_pos ending]
    have shown : call.derived.state = .disconnected := by
      rw [derived_state]
      simp_all [isEnding]
    rw [same]
    refine ⟨rfl, fun _ => shown, fun alive => ?_, List.not_mem_nil⟩
    cases alive
  · have lasting : call.isEnding = false := by simpa using ending
    have up : call.visibleState ≠ .disconnected := by
      simpa [isEnding, alive] using lasting
    have unended : call.ended = none := by
      cases ended : call.ended with
      | none => rfl
      | some info => exact absurd (visibleState_of_ended ended) up
    rw [updated_of_lasting lasting, if_neg gone]
    exact ⟨rfl, fun dead => absurd dead gone,
      fun _ => ⟨fun shown => up (call.derived_state ▸ shown), unended, lasting⟩, alone⟩

theorem updated_conference (call : Connection) :
    call.updated.conference = call.conference ∨
      call.updated.conference = none ∧ call.updated.destroyed = true := by
  unfold updated
  split
  · exact .inl rfl
  · unfold delivered
    split
    · exact .inr ⟨rfl, rfl⟩
    · exact .inl rfl

theorem updated_destroyed (gone : call.destroyed = true) : call.updated.destroyed = true := by
  rw [updated, if_pos gone]
  exact gone

end Connection

namespace System

variable {ε : Type} {before middle after system : System ε} {id : ConnectionId} {call : Connection}

structure Abides (before after : System ε) : Prop where
  desk : after.desk = before.desk
  conferences : after.conferences = before.conferences
  known (id : ConnectionId) : before.Known id → after.Known id
  gone (id : ConnectionId) : before.Known id → (before.connection id).destroyed = true →
    (after.connection id).destroyed = true
  link (id : ConnectionId) : (after.connection id).conference = (before.connection id).conference ∨
    after.Known id ∧ (after.connection id).conference = none ∧
      (after.connection id).destroyed = true

theorem Abides.refl (system : System ε) : system.Abides system where
  desk := rfl
  conferences := rfl
  known _ here := here
  gone _ _ dead := dead
  link _ := .inl rfl

theorem Abides.trans (first : before.Abides middle) (second : middle.Abides after) :
    before.Abides after where
  desk := second.desk.trans first.desk
  conferences := second.conferences.trans first.conferences
  known id here := second.known id (first.known id here)
  gone id here dead := second.gone id (first.known id here) (first.gone id here dead)
  link id := by
    rcases second.link id with same | lost
    · rcases first.link id with still | ⟨here, none, dead⟩
      · exact .inl (same.trans still)
      · exact .inr ⟨second.known id here, same.trans none, second.gone id here dead⟩
    · exact .inr lost

theorem Becomes.quietCalls (becomes : before.Becomes id call after)
    (holds : ∀ id, (before.connection id).QuietCall) (quietCall : call.QuietCall)
    (gone : (before.connection id).destroyed = true → call.destroyed = true)
    (link : call.conference = (before.connection id).conference ∨
      call.conference = none ∧ call.destroyed = true) :
    (∀ id, (after.connection id).QuietCall) ∧ before.Abides after := by
  refine ⟨becomes.each (fun _ call => call.QuietCall) (fun _ => quietCall) holds, {
    desk := becomes.desk
    conferences := becomes.conferences
    known := fun other here => (becomes.known other).mpr here
    gone := fun other _ => becomes.each
      (fun other call => (before.connection other).destroyed = true → call.destroyed = true)
      (fun _ => gone) (fun _ dead => dead) other
    link := becomes.each (fun other call =>
      call.conference = (before.connection other).conference ∨
        after.Known other ∧ call.conference = none ∧ call.destroyed = true)
      (fun known => link.imp_right fun lost => ⟨(becomes.known id).mpr known, lost⟩)
      fun _ => .inl rfl }⟩

end System

def quietCalls (ε : Type) : Law ε where
  holds system := ∀ id, (system.connection id).QuietCall
  leads := System.Abides
  refl := .refl
  trans := .trans

namespace Act

variable {ε κ : Type} {keep : ε → κ} {bystanders : Bystanders ε} {wiring : Wiring ε} {depth : Nat}
  {system : System ε} {id : ConnectionId}

theorem quietCalls_aside {before after : System ε}
    (connections : after.connections = before.connections) (desk : after.desk = before.desk)
    (conferences : after.conferences = before.conferences) (holds : (quietCalls ε).holds before) :
    (quietCalls ε).holds after ∧ (quietCalls ε).leads before after := by
  have same (id : ConnectionId) : after.connection id = before.connection id :=
    System.connection_congr connections id
  have known (id : ConnectionId) : after.Known id ↔ before.Known id := by
    cases id <;> simp only [System.Known, connections]
  refine ⟨fun id => same id ▸ holds id, ⟨desk, conferences, fun id => (known id).mpr,
    fun id _ dead => ?_, fun id => .inl (by rw [same])⟩⟩
  rw [same]
  exact dead

theorem quietCalls_create (params : CallParameters) (holds : (quietCalls ε).holds system) :
    let grown : System ε := { system with connections := system.connections ++ [.create params] }
    (quietCalls ε).holds grown ∧ (quietCalls ε).leads system grown := by
  intro grown
  have fresh : (Connection.create params).QuietCall := {
    idle := rfl
    closed := nofun
    going := fun _ => ⟨nofun, rfl, rfl⟩
    alone := List.not_mem_nil }
  have each (goal : ConnectionId → Connection → Prop)
      (here : goal (.issued system.connections.length) (.create params))
      (there : ∀ id, goal id (system.connection id)) (id : ConnectionId) :
      goal id (grown.connection id) := by
    rw [system.connection_append]
    split
    · rename_i new
      exact new ▸ here
    · exact there id
  have stranger : ¬ system.Known (.issued system.connections.length) := by simp [System.Known]
  refine ⟨each (fun _ call => call.QuietCall) fresh holds, {
    desk := rfl
    conferences := rfl
    known := fun id here => ?_
    gone := each (fun id call => system.Known id → (system.connection id).destroyed = true →
      call.destroyed = true) (fun here => absurd here stranger) fun _ _ dead => dead
    link := each (fun id call => call.conference = (system.connection id).conference ∨
      grown.Known id ∧ call.conference = none ∧ call.destroyed = true) (.inl ?_)
      fun _ => .inl rfl }⟩
  · cases id with
    | outsider value => exact here
    | issued serial =>
      have inside : serial < system.connections.length := here
      simp only [System.Known, grown, List.length_append, List.length_singleton]
      omega
  · rw [system.connection_of_not_known stranger]
    rfl

theorem quietCalls_revise {change : Connection → Connection}
    (keepsConference : Connection.KeepsConference change)
    (id : ConnectionId) : (revise id change).Obeys (quietCalls ε) wiring := by
  intro system holds
  rw [ensures_revise]
  refine ((System.Becomes.refl system id).revise change).quietCalls holds
    ((holds id).keepsLifecycle keepsConference.toKeepsLifecycle) (fun dead => ?_)
    (.inl (keepsConference.conference _))
  have same : (change (system.connection id)).destroyed = (system.connection id).destroyed :=
    congrArg (·.2.2.1) (keepsConference.lifecycle _)
  exact same.trans dead

section
variable (observe : bystanders.Observe keep)
include observe

theorem quietCalls_notify (id : ConnectionId) (event : ConnectionEvent) :
    (notify id event).Obeys (quietCalls ε) (.level bystanders depth) := by
  intro system holds
  refine (becomes_notify observe (System.Becomes.refl system id) (holds id).alone).mono
    fun _ _ becomes => ?_
  exact becomes.quietCalls holds (holds id) (fun dead => dead) (.inl rfl)

theorem quietCalls_update (id : ConnectionId) :
    (update id).Obeys (quietCalls ε) (.level bystanders depth) := by
  intro system holds
  refine (becomes_update observe (holds id).idle (holds id).alone fun alive =>
    ((holds id).going alive).2.2).mono fun _ after ⟨watched, becomes⟩ => ?_
  exact becomes.quietCalls holds
    (Connection.quietCall_updated (holds id).closed (holds id).alone watched)
    Connection.updated_destroyed (Connection.updated_conference _)

theorem quietCalls_end (holds : (quietCalls ε).holds system)
    (unended : (system.connection id).ended = none) (info : DisconnectInfo) :
    (setDisconnected id info).Ensures (.level bystanders depth) system fun _ after =>
      ((quietCalls ε).holds after ∧ (quietCalls ε).leads system after) ∧
        (after.connection id).destroyed = true := by
  have known : system.Known id := by
    refine Decidable.byContradiction fun strange => ?_
    rw [system.connection_of_not_known strange] at unended
    cases unended
  have becomes := (System.Becomes.refl system id).revise (Connection.finished info)
  have now := becomes.own known
  have closed : ((system.connection id).finished info).destroyed = true →
      ((system.connection id).finished info).published.state = .disconnected := (holds id).closed
  have quietCall (watched : CallState) :=
    Connection.quietCall_updated closed (holds id).alone watched
  have dead : ((system.connection id).finished info).updated.destroyed = true := by
    by_cases gone : ((system.connection id).finished info).destroyed = true
    · exact Connection.updated_destroyed gone
    · have ending : ((system.connection id).finished info).isEnding = true := by
        have alive : (system.connection id).destroyed = false := Bool.eq_false_iff.mpr gone
        simp [Connection.isEnding, Connection.finished, Connection.visibleState, alive]
      rw [Connection.updated, if_neg gone, Connection.delivered, if_pos ending]
      rfl
  simp only [setDisconnected, ensures_bind, ensures_look, unended, Option.isSome_none,
    Bool.false_eq_true, if_false]
  refine (ensures_revise_as (.finished info) ?_).mpr ?_
  · rfl
  have idle := (holds id).idle
  have alone := (holds id).alone
  have unstarted (alive : (system.connection id).destroyed = false) :=
    ((holds id).going alive).2.2
  refine (becomes_update observe (by rw [now]; exact idle) (by rw [now]; exact alone)
    (by rw [now]; exact unstarted)).mono ?_
  rintro _ after ⟨watched, updated⟩
  rw [now] at updated
  have whole := becomes.trans updated
  refine ⟨whole.quietCalls holds (quietCall watched) (fun _ => dead)
    (Connection.updated_conference _), ?_⟩
  rw [whole.own known]
  exact dead

theorem quietCalls_close (id : ConnectionId) :
    (close id).Obeys (quietCalls ε) (.level bystanders depth) := by
  intro system holds
  have drop {now : System ε} (sofar : (quietCalls ε).holds now ∧ (quietCalls ε).leads system now)
      (dead : (now.connection id).destroyed = true) :
      (wrapUp id).Ensures (.level bystanders depth) now fun _ after =>
        (quietCalls ε).holds after ∧ (quietCalls ε).leads system after := by
    have unbound := ((System.Becomes.refl now id).revise .unbound).release (now.connection id).leg
    have more :=
      unbound.quietCalls sofar.1 ((sofar.1 id).keepsLifecycle ⟨fun _ => rfl, fun _ => rfl⟩)
      (fun dead => dead) (.inl rfl)
    rw [ensures_wrapUp_destroyed dead, ensures_unbind]
    exact ⟨more.1, sofar.2.trans more.2⟩
  rw [close_eq, ensures_bind, ensures_look]
  by_cases live : (system.connection id).published.state.isLive = true
  · have alive : (system.connection id).destroyed = false := by
      refine Bool.eq_false_iff.mpr fun dead => ?_
      rw [(holds id).closed dead] at live
      cases live
    rw [if_pos live, ensures_bind]
    exact (quietCalls_end observe holds ((holds id).going alive).2.1 _).mono
      fun _ now done => drop done.1 done.2
  · have dead : (system.connection id).destroyed = true := by
      refine (Bool.not_eq_false _).mp fun alive => live ?_
      simpa [CallState.isLive] using ((holds id).going alive).1
    rw [if_neg live]
    exact drop ⟨holds, .refl system⟩ dead

theorem quietCalls_handlesMember (id : ConnectionId) :
    (quietCalls ε).HandlesMember (.level bystanders depth) id where
  legOnly legOnly := quietCalls_revise legOnly.keepsConference id
  notify _ _ := quietCalls_notify observe id _
  publish keepsConference between :=
    .bind (quietCalls_revise keepsConference id) fun _ => .bind between fun _ =>
      quietCalls_update observe id
  disconnect info := by
    intro system holds
    cases already : (system.connection id).ended with
    | some _ =>
      rw [setDisconnected, ensures_bind, ensures_look, already]
      exact (ensures_pure _ _).mpr ⟨holds, .refl system⟩
    | none => exact (quietCalls_end observe holds already info).mono fun _ _ done => done.1
  close := quietCalls_close observe id

theorem quietCalls_governsMembers : (quietCalls ε).GovernsMembers (.level bystanders depth) where
  sameConferences sameConferences :=
    quietCalls_aside sameConferences.connections sameConferences.desk sameConferences.conferences
  handlesMember := quietCalls_handlesMember observe
  bridged := by
    intro system holds value after run
    cases depth with
    | zero => cases run
    | succ depth =>
      obtain ⟨outside, -, rfl⟩ := observe.bridged _ system value after run
      refine quietCalls_aside ?_ ?_ ?_ holds
      · rfl
      · rfl
      · rfl

theorem quietCalls_move {move : Move}
    (entering : ∀ id conference, move ≠ .setConference id conference)
    (joining : ∀ id, move ≠ .addListener id .exchange) :
    move.act.Obeys (quietCalls ε) (.level bystanders depth) := by
  have listening (id : ConnectionId) (change : List Listener → List Listener)
      (alone : ∀ listeners, .exchange ∉ listeners → .exchange ∉ change listeners) :
      (revise id fun call => { call with listeners := change call.listeners }).Obeys
        (quietCalls ε) (.level bystanders depth) := by
    intro system holds
    rw [ensures_revise]
    have becomes := (System.Becomes.refl system id).revise fun call =>
      { call with listeners := change call.listeners }
    exact becomes.quietCalls holds { holds id with alone := alone _ (holds id).alone }
      (fun dead => dead) (.inl rfl)
  cases move with
  | create params =>
    exact .bind (.bind .get fun _ => .bind (.modify fun _ => quietCalls_create params) fun _ =>
      .pure _) fun _ => .pure _
  | addListener id listener =>
    have apart : listener ≠ .exchange := fun same => joining id (same ▸ rfl)
    refine .bind (.bind (.look id) fun call => ?_) fun _ => .pure _
    split
    · exact .pure _
    · refine .bind (listening id (· ++ [listener]) ?_) fun _ => .pure _
      simp [apart.symm]
  | removeListener id listener =>
    refine .bind (.bind (.look id) fun call => .bind (listening id (·.filter (· != listener)) ?_)
      fun _ => .pure _) fun _ => .pure _
    exact fun _ alone among => alone (List.mem_of_mem_filter among)
  | setConference id conference => exact absurd rfl (entering id conference)
  | _ =>
    refine handled_move (quietCalls_governsMembers observe) ?_
    rfl

end
end Act

/-- What can be done with connections and their conferences. -/
inductive Doing
  | move (move : Move)
  | recalculate (connections : List ConnectionId)

namespace Doing

variable {ε κ : Type} {keep : ε → κ} {bystanders : Bystanders ε} {rounds : Nat}

def act : Doing → Act ε Unit
  | .move made => made.act
  | .recalculate connections => do
    let _ ← Act.aggregateAll connections
    return

/-- No link to a conference is set by hand, and the exchange does not come to listen. -/
def Proper : Doing → Prop
  | .move (.setConference _ _) | .move (.addListener _ .exchange) => False
  | _ => True

def run (bystanders : Bystanders ε) (rounds : Nat) (doings : List Doing) (start : System ε) :
    Option (System ε) :=
  doings.foldlM (fun system doing => (doing.act (.level bystanders rounds) system).map (·.2)) start

end Doing

/-- Links and members agree, except that a connection that is destroyed may not have been forgotten
yet. -/
structure System.Partitioned {ε : Type} (system : System ε) : Prop extends system.DeskValid where
  rest : system.AtRest
  quietCall (id : ConnectionId) : (system.connection id).QuietCall
  member {id : ConnectionId} {conference : ConferenceId} :
    (system.connection id).conference = some conference → ∃ technology,
      system.desk.get technology = some conference ∧ id ∈ (system.conference conference).members
  belongs {technology : Technology} {conference : ConferenceId} {id : ConnectionId} :
    system.desk.get technology = some conference → id ∈ (system.conference conference).members →
      (system.connection id).conference = some conference ∨
        system.Known id ∧ (system.connection id).destroyed = true

namespace System.Partitioned

variable {ε κ : Type} {keep : ε → κ} {bystanders : Bystanders ε} {rounds : Nat}
  {system after : System ε}

theorem opening (fresh : system.connections = []) (vacant : system.desk = {}) :
    system.Partitioned := by
  have nobody (id : ConnectionId) : system.connection id = .absent :=
    system.connection_of_not_known (by cases id <;> simp [System.Known, fresh])
  have free {technology : Technology} {conference : ConferenceId} {goal : Prop}
      (here : system.desk.get technology = some conference) : goal := by
    rw [vacant] at here
    cases technology <;> cases here
  exact {
    placed := free
    grounded := by rw [vacant]; rfl
    rest := ⟨fun id => by rw [nobody]; exact Connection.steady_absent, fun id => by
      rw [nobody]
      rfl⟩
    quietCall := fun id => by rw [nobody]; exact Connection.quietCall_absent
    member := fun {id _} linked => by
      rw [nobody] at linked
      cases linked
    belongs := free }

section
variable (partitioned : system.Partitioned)
include partitioned

theorem onlyObserved : system.OnlyObserved :=
  ⟨partitioned.rest, fun id => (partitioned.quietCall id).alone⟩

theorem seated : system.Seated [] where
  member := partitioned.member
  belongs {technology _ id} here among := by
    refine (partitioned.belongs here among).imp_right fun ⟨_, dead⟩ => ⟨List.not_mem_nil, ?_⟩
    simp [System.mergeable, (partitioned.quietCall id).closed dead, CallState.isConnected]
  gathered := nofun

theorem abides (abides : system.Abides after) (rest : after.AtRest)
    (quietCall : ∀ id, (after.connection id).QuietCall) : after.Partitioned where
  placed {technology conference} here := by
    rw [abides.desk] at here
    obtain ⟨present, kind, stands⟩ := partitioned.placed here
    have same : after.conference conference = system.conference conference := by
      cases conference <;> simp only [System.conference, abides.conferences]
    rw [same]
    refine ⟨?_, kind, stands⟩
    cases conference with
    | formed serial => simpa only [System.Present, abides.conferences] using present
    | outsider value => exact present
  grounded := by rw [abides.desk, partitioned.grounded]
  rest := rest
  quietCall := quietCall
  member {id conference} linked := by
    have before : (system.connection id).conference = some conference := by
      rcases abides.link id with same | ⟨-, none, -⟩
      · exact same.symm.trans linked
      · cases none.symm.trans linked
    obtain ⟨technology, here, among⟩ := partitioned.member before
    refine ⟨technology, by rw [abides.desk, here], ?_⟩
    cases conference <;> simpa only [System.conference, abides.conferences] using among
  belongs {technology conference id} here among := by
    rw [abides.desk] at here
    have among : id ∈ (system.conference conference).members := by
      cases conference <;> simpa only [System.conference, abides.conferences] using among
    rcases abides.link id with same | ⟨known, -, dead⟩
    · refine (partitioned.belongs here among).imp (fun linked => same.trans linked) ?_
      rintro ⟨known, dead⟩
      exact ⟨abides.known id known, abides.gone id known dead⟩
    · exact .inr ⟨known, dead⟩

theorem move (observe : bystanders.Observe keep) {move : Move} (proper : (Doing.move move).Proper)
    (run : move.act (.level bystanders rounds) system = some ((), after)) :
    after.Partitioned := by
  have ripple := Move.ripple_act observe rounds move partitioned.rest () after run
  have quietCalls := Act.quietCalls_move observe (fun id conference same => by
    subst same
    exact proper) (fun id same => by
    subst same
    exact proper) system partitioned.quietCall () after run
  exact partitioned.abides quietCalls.2 (ripple.atRest (move.outcome_atRest partitioned.rest))
    quietCalls.1

theorem arranged (observe : bystanders.Observe keep) {connections : List ConnectionId}
    {changes : List ConferenceChange}
    (run : Act.aggregateAll connections (.level bystanders rounds) system = some (changes, after)) :
    after.Partitioned ∧ system.Arranged [.gsm, .cdma, .ims] connections changes after := by
  obtain ⟨onlyObserved, done⟩ := Act.arranged_aggregateAll (Wiring.seats_observed observe rounds)
    connections partitioned.onlyObserved partitioned.toDeskValid partitioned.seated
      changes after run
  refine ⟨{
    toDeskValid := done.deskValid
    rest := onlyObserved.toAtRest
    quietCall := fun id => ?_
    member := done.seated.member
    belongs := fun here among => .inl (done.belongs here among) }, done⟩
  have part {α : Type} (read : Connection → α)
      (essential : ∀ call : Connection, read call.essence = read call) :=
    done.conferencesOnly.reads read essential id
  have quietCall := partitioned.quietCall id
  constructor
  · exact onlyObserved.quiet id
  · rw [part (·.destroyed) fun _ => rfl, part (·.published.state) fun _ => rfl]
    exact quietCall.closed
  · rw [part (·.destroyed) fun _ => rfl, part (·.published.state) fun _ => rfl,
      part (·.ended) fun _ => rfl, part (·.teardownStarted) fun _ => rfl]
    exact quietCall.going
  · exact onlyObserved.alone id

theorem run (observe : bystanders.Observe keep) {doings : List Doing}
    (proper : ∀ doing ∈ doings, doing.Proper)
    (runs : Doing.run bystanders rounds doings system = some after) : after.Partitioned := by
  induction doings generalizing system with
  | nil =>
    cases runs
    exact partitioned
  | cons doing rest ih =>
    obtain ⟨next, first, others⟩ := Option.bind_eq_some_iff.mp runs
    obtain ⟨⟨⟨⟩, last⟩, ran, rfl⟩ := Option.map_eq_some_iff.mp first
    refine ih ?_ (fun doing among => proper doing (.tail _ among)) others
    cases doing with
    | move move => exact partitioned.move observe (proper _ List.mem_cons_self) ran
    | recalculate connections =>
      rw [Doing.act, Act.bind_run] at ran
      obtain ⟨⟨changes, next⟩, aggregated, same⟩ := Option.bind_eq_some_iff.mp ran
      cases same
      exact (partitioned.arranged observe aggregated).1

end
end System.Partitioned

namespace Doing

variable {ε κ : Type} {keep : ε → κ} {bystanders : Bystanders ε} {rounds : Nat}
  {start before after : System ε} {doings : List Doing}

/-- Whenever the desk has just been brought in line with some connections, whatever went before, the
connections that have a link to a conference are the members of the conferences there are, and
nobody is a member of two. The conference of a technology has those of the given connections that
can be merged in it, in their order, and there is one if these are enough. To do the same again
changes nothing. -/
theorem conferences_partition (observe : bystanders.Observe keep) (fresh : start.connections = [])
    (vacant : start.desk = {}) (proper : ∀ doing ∈ doings, doing.Proper)
    (runs : run bystanders rounds doings start = some before) {connections : List ConnectionId}
    {changes : List ConferenceChange}
    (recalculated : Act.aggregateAll connections (.level bystanders rounds) before =
      some (changes, after)) :
    (∀ id conference, (after.connection id).conference = some conference ↔
      conference ∈ after.currentConferences ∧ id ∈ (after.conference conference).members) ∧
    (∀ id, ∀ first ∈ after.currentConferences, ∀ second ∈ after.currentConferences,
      id ∈ (after.conference first).members → id ∈ (after.conference second).members →
        first = second) ∧
    (∀ technology ∈ System.conferencing,
      after.seatedAt technology = after.wants connections technology ∧
        ∀ conference, after.desk.get technology = some conference →
          (after.conference conference).technology = technology) ∧
    Act.aggregateAll connections (.level bystanders rounds) after = some ([], after) := by
  have partitioned := (System.Partitioned.opening fresh vacant).run observe proper runs
  obtain ⟨partitioned, done⟩ := partitioned.arranged observe recalculated
  have seated (technology : Technology) (turn : technology ∈ System.conferencing) :
      after.seatedAt technology = after.wants connections technology := by
    have turn : technology ∈ [Technology.gsm, .cdma, .ims] := by
      simpa [System.conferencing, or_comm, or_left_comm, or_assoc] using turn
    rw [done.arranged turn, System.wants, System.wants, done.conferencesOnly.mergeable]
  have link (id : ConnectionId) (conference : ConferenceId) :
      (after.connection id).conference = some conference ↔
        conference ∈ after.currentConferences ∧ id ∈ (after.conference conference).members := by
    rw [partitioned.toDeskValid.mem_currentConferences]
    constructor
    · intro linked
      obtain ⟨technology, here, among⟩ := partitioned.member linked
      exact ⟨⟨technology, here⟩, among⟩
    · rintro ⟨⟨technology, here⟩, among⟩
      exact done.belongs here among
  refine ⟨link, fun id first one second other here there => ?_, fun technology turn =>
    ⟨seated technology turn, fun conference here => (done.deskValid.placed here).2.1⟩,
    (Act.aggregateAll_eq_iff _ _ _).mpr seated⟩
  exact Option.some.inj (((link id first).mpr ⟨one, here⟩).symm.trans
    ((link id second).mpr ⟨other, there⟩))

/-- Three calls in a conference, the first of which ends. -/
def threeWayCall : List Doing :=
  [0, 1, 2].flatMap (fun serial => [
    .move (.create { phone := ⟨0⟩, technology := .gsm }),
    .move (.createLeg { state := .active, technology := .gsm, multiparty := true }),
    .move (.bind (.issued serial) ⟨serial⟩)]) ++
  [.recalculate [.issued 0, .issued 1, .issued 2],
    .move (.disconnect (.issued 0) .byRequest)]

theorem threeWayCall_goes_on : ∃ before after changes,
    run (.silent : Bystanders Unit) 4 threeWayCall { outside := () } = some before ∧
      Act.aggregateAll [.issued 2, .issued 0, .issued 1] (.level .silent 4) before =
        some (changes, after) ∧
      (before.conference (.formed 0)).members = [.issued 0, .issued 1, .issued 2] ∧
      (after.conference (.formed 0)).members = [.issued 2, .issued 1] ∧
      (after.connection (.issued 0)).conference ≠ some (.formed 0) ∧
      (after.connection (.issued 1)).conference = some (.formed 0) ∧
      Act.aggregateAll [.issued 2, .issued 0, .issued 1] (.level .silent 4) after =
        some ([], after) := by
  have whole : ((run (.silent : Bystanders Unit) 4 threeWayCall { outside := () }).bind
      fun before => (Act.aggregateAll [.issued 2, .issued 0, .issued 1] (.level .silent 4)
        before).map fun last => (before, last.1, last.2)).any (fun (before, _, after) =>
          (before.conference (.formed 0)).members == [.issued 0, .issued 1, .issued 2] &&
          (after.conference (.formed 0)).members == [.issued 2, .issued 1] &&
          after.currentConferences == [.formed 0]) = true := by decide +kernel
  obtain ⟨_, found, shows⟩ := (Option.any_eq_true _ _).mp whole
  obtain ⟨before, runs, last⟩ := Option.bind_eq_some_iff.mp found
  obtain ⟨⟨changes, after⟩, recalculated, rfl⟩ := Option.map_eq_some_iff.mp last
  simp only [Bool.and_eq_true, beq_iff_eq] at shows
  obtain ⟨⟨were, are⟩, current⟩ := shows
  obtain ⟨linked, -, -, again⟩ := conferences_partition (Bystanders.observe_silent fun _ => ())
    rfl rfl (by simp [threeWayCall, Proper]) runs recalculated
  refine ⟨before, after, changes, runs, recalculated, were, are, fun left => ?_,
    (linked _ _).mpr ?_, again⟩
  · have among := ((linked _ _).mp left).2
    rw [are] at among
    exact absurd among (by decide)
  · rw [current, are]
    decide

end Doing
end Switchboard
