import Switchboard.Proofs.Laws
import Switchboard.Proofs.Recalculation

/-! Updates of the books by the exchange. Its conferences are those of connections with the
technologies of the last time that it brought them up to date, and verdicts and capabilities are
right (`System.Books`): on a change of a connection that shows in its state or its properties the
exchange recalculates everything, and any other change shows in no conference. -/

namespace Switchboard

namespace System

variable {ε : Type}

/-- A connection has told of something. Either nothing but verdicts has changed, or the exchange has
brought everything up to date. -/
structure ToldUpdate (before after : System ε) : Prop where
  conferencesOnly : before.ConferencesOnly after
  renews : before.Renews after
  conferencesAgree : after.ConferencesAgree
  connections (id : ConnectionId) :
    .connection id ∈ after.tracked ↔ .connection id ∈ before.tracked
  outcome : before.VerdictsOnly after ∧ (before.Judged → after.Judged) ∨
    before.recounts < after.recounts ∧ after.UpToDate ∧ after.Judged

namespace ToldUpdate

variable {before middle after : System ε}

theorem of_verdictsOnly (verdictsOnly : before.VerdictsOnly after)
    (judged : before.Judged → after.Judged)
    (conferencesAgree : before.ConferencesAgree) : before.ToldUpdate after where
  conferencesOnly := verdictsOnly.toConferencesOnly
  renews := verdictsOnly.renews
  conferencesAgree := verdictsOnly.alike.conferencesAgree conferencesAgree
  connections id := by rw [verdictsOnly.tracked]
  outcome := .inl ⟨verdictsOnly, judged⟩

theorem refl (conferencesAgree : before.ConferencesAgree) : before.ToldUpdate before :=
  of_verdictsOnly (.refl before) (fun judged => judged) conferencesAgree

theorem trans (first : before.ToldUpdate middle) (second : middle.ToldUpdate after) :
    before.ToldUpdate after where
  conferencesOnly := first.conferencesOnly.trans second.conferencesOnly
  renews id current := second.renews id (first.renews id current)
  conferencesAgree := second.conferencesAgree
  connections id := (second.connections id).trans (first.connections id)
  outcome := by
    rcases second.outcome with ⟨verdictsOnly, passes⟩ | ⟨more, upToDate, judged⟩
    · rcases first.outcome with ⟨earlier, passed⟩ | ⟨more, upToDate, judged⟩
      · exact .inl ⟨earlier.trans verdictsOnly, fun judged => passes (passed judged)⟩
      · refine .inr ⟨by rw [verdictsOnly.unheard]; exact more, ?_, passes judged⟩
        rw [UpToDate, verdictsOnly.toConferencesOnly.technologyOf]
        exact verdictsOnly.alike.formed upToDate
    · exact .inr ⟨Nat.lt_of_le_of_lt first.conferencesOnly.recounts more, upToDate, judged⟩

theorem loud (toldUpdate : before.ToldUpdate after) (more : before.recounts < after.recounts) :
    after.UpToDate ∧ after.Judged :=
  toldUpdate.outcome.elim (fun quiet => absurd quiet.1.unheard (Nat.ne_of_gt more)) (·.2)

end ToldUpdate
end System

namespace Act

variable {ε : Type} {depth : Nat} {system : System ε}

theorem toldUpdate_recalculate {before : System ε} (alike : before.Alike system)
    (conferencesOnly : before.ConferencesOnly system) (renews : before.Renews system)
    (near : before.Near)
    (conferencesAgree : before.ConferencesAgree) (more : before.recounts < system.recounts) :
    recalculate.Ensures (.level .silent depth) system fun _ after =>
      before.ToldUpdate after ∧ before.recounts < after.recounts := by
  refine (recalculates (conferencesOnly.keeps near) (alike.conferencesAgree conferencesAgree)).mono
    fun _ after done => ?_
  have more := Nat.lt_of_lt_of_le more done.conferencesOnly.recounts
  exact ⟨{
    conferencesOnly := conferencesOnly.trans done.conferencesOnly
    renews := fun id current => done.renews id (renews id current)
    conferencesAgree := done.conferencesAgree
    connections := fun id => by rw [done.connections, alike.tracked]
    outcome := .inr ⟨more, done.upToDate, done.judged⟩ }, more⟩

theorem alike_heard (system : System ε) (entry : Entry) (retry : Option RetryQueue) :
    let heard : System ε := { system with
      journal := entry :: system.journal
      registry := { system.registry with retry } }
    system.Alike heard ∧ system.ConferencesOnly heard ∧ system.Renews heard ∧
      (entry.isRecount = true → system.recounts < heard.recounts) := by
  intro heard
  have same (id : ConnectionId) : heard.connection id = system.connection id := by cases id <;> rfl
  refine ⟨.of_same rfl rfl rfl rfl rfl, {
    count := rfl
    essence := fun id => by rw [same]
    near := fun id near => by rw [same]; exact near
    listed := rfl
    recounts := ?_ }, fun id current => by rw [same]; exact current, fun recount => ?_⟩
  · simp only [System.recounts, heard, List.countP_cons]
    omega
  · simp only [System.recounts, heard, List.countP_cons, recount, if_true]
    omega

theorem toldUpdate_tellOne (id : ConnectionId) {event : ConnectionEvent}
    (plain : event.isPlain = true)
    (lasting : event ≠ .destroyed) (listener : Listener) (near : system.Near)
    (conferencesAgree : system.ConferencesAgree) :
    (Bystanders.silent.tellOne id event listener).Ensures (.level .silent depth) system
      fun _ after => system.ToldUpdate after ∧
        (event.isRecount = true → listener = .exchange → system.recounts < after.recounts) := by
  have quiet {after : System ε} (verdictsOnly : system.VerdictsOnly after)
      (passes : system.Judged → after.Judged)
      (none : event.isRecount = true → listener ≠ .exchange) :
      system.ToldUpdate after ∧
        (event.isRecount = true → listener = .exchange → system.recounts < after.recounts) :=
    ⟨.of_verdictsOnly verdictsOnly passes conferencesAgree,
      fun recount here => absurd here (none recount)⟩
  by_cases idle : event.isIdle = true
  · refine (noted_tellOne id idle listener).mono fun _ after noted =>
      quiet (.of_noted noted) noted.judged fun recount => ?_
    rw [ConnectionEvent.isRecount_of_isIdle idle] at recount
    cases recount
  by_cases spread : ∃ conference, event = .conferenceChanged conference
  · obtain ⟨conference, rfl⟩ := spread
    refine (verdictsOnly_tellOne id conference listener near).mono fun _ after told => ?_
    exact quiet told.1 told.2 fun recount => by cases recount
  have recount : event.isRecount = true := by
    cases event <;> simp_all [ConnectionEvent.isIdle, ConnectionEvent.isRecount,
      ConnectionEvent.isPlain]
  unfold Bystanders.tellOne
  rw [ensures_bind, ensures_write]
  by_cases here : listener = .exchange
  · subst here
    suffices heard : (attend id event : Act ε Unit).Ensures (.level .silent depth)
        { system with journal := .heard .exchange id event :: system.journal } fun _ after =>
          system.ToldUpdate after ∧ system.recounts < after.recounts from
      heard.mono fun _ _ heard => ⟨heard.1, fun _ _ => heard.2⟩
    have fresh (retry : Option RetryQueue) :
        recalculate.Ensures (.level .silent depth) { system with
          journal := .heard .exchange id event :: system.journal
          registry := { system.registry with retry } } fun _ after =>
            system.ToldUpdate after ∧ system.recounts < after.recounts := by
      obtain ⟨alike, conferencesOnly, renews, more⟩ :=
        alike_heard system (.heard .exchange id event) retry
      exact toldUpdate_recalculate alike conferencesOnly renews near conferencesAgree (more recount)
    cases event with
    | stateChanged old new =>
      simp only [attend]
      split
      · rw [ensures_bind, dropRetry, ensures_reviseRegistry]
        exact fresh (system.registry.retry.filter fun retry => !retry.isFor true id)
      · exact fresh system.registry.retry
    | propertiesChanged props => exact fresh system.registry.retry
    | destroyed => exact absurd rfl lasting
    | _ => cases recount
  · have written : system.Noted
        { system with journal := .heard listener id event :: system.journal } :=
      ⟨[_], by cases listener <;> simp_all [Entry.isRecount], rfl⟩
    have done := quiet (.of_noted written) written.judged fun _ => here
    cases listener <;> first | exact absurd rfl here | exact (ensures_pure _ _).mpr done

theorem toldUpdate_forM {κ : Type} {work : κ → Act ε PUnit} {loud : κ → Prop} (items : List κ)
    (near : system.Near) (conferencesAgree : system.ConferencesAgree)
    (each : ∀ item ∈ items, ∀ now : System ε, system.ToldUpdate now →
      (work item).Ensures (.level .silent depth) now fun _ after =>
        now.ToldUpdate after ∧ (loud item → now.recounts < after.recounts)) :
    (items.forM work).Ensures (.level .silent depth) system fun _ after =>
      system.ToldUpdate after ∧ ((∃ item ∈ items, loud item) → system.recounts < after.recounts) :=
        by
  induction items generalizing system with
  | nil =>
    rw [List.forM, ensures_pure]
    exact ⟨.refl conferencesAgree, by simp⟩
  | cons item rest ih =>
    rw [List.forM, ensures_bind]
    refine (each item List.mem_cons_self system (.refl conferencesAgree)).mono fun _ now done => ?_
    obtain ⟨first, more⟩ := done
    refine (ih (first.conferencesOnly.keeps near) first.conferencesAgree
      fun other among next sofar =>
      each other (.tail _ among) next (first.trans sofar)).mono fun _ after done => ?_
    obtain ⟨last, later⟩ := done
    refine ⟨first.trans last, ?_⟩
    rintro ⟨other, among, heard⟩
    rcases List.mem_cons.mp among with rfl | among
    · exact Nat.lt_of_lt_of_le (more heard) last.conferencesOnly.recounts
    · exact Nat.lt_of_le_of_lt first.conferencesOnly.recounts (later ⟨other, among, heard⟩)

theorem toldUpdate_notify (id : ConnectionId) {event : ConnectionEvent}
    (plain : event.isPlain = true)
    (lasting : event ≠ .destroyed) (near : system.Near)
    (conferencesAgree : system.ConferencesAgree) :
    (notify id event).Ensures (.level .silent depth) system fun _ after =>
      system.ToldUpdate after ∧ (event.isRecount = true →
        .exchange ∈ (system.connection id).listeners → system.recounts < after.recounts) := by
  rw [ensures_notify, ensures_tell]
  intro after run
  cases depth with
  | zero => cases run
  | succ depth =>
    have all : ((system.connection id).listeners.forM
        (Bystanders.silent.tellOne id event)).Ensures (.level .silent depth) system fun _ after =>
          system.ToldUpdate after ∧ ((∃ listener ∈ (system.connection id).listeners,
            event.isRecount = true ∧ listener = .exchange) → system.recounts < after.recounts) :=
      toldUpdate_forM _ near conferencesAgree fun listener _ now sofar =>
        (toldUpdate_tellOne id plain lasting listener (sofar.conferencesOnly.keeps near)
          sofar.conferencesAgree).mono
          fun _ _ ⟨toldUpdate, more⟩ => ⟨toldUpdate, fun heard => more heard.1 heard.2⟩
    obtain ⟨toldUpdate, more⟩ := all ⟨⟩ after run
    exact ⟨toldUpdate, fun recount here => more ⟨_, here, recount, rfl⟩⟩

theorem toldUpdate_notifications (id : ConnectionId) {events : List ConnectionEvent}
    (plain : ∀ event ∈ events, event.isPlain = true ∧ event ≠ .destroyed) (near : system.Near)
    (conferencesAgree : system.ConferencesAgree)
    (here : .exchange ∈ (system.connection id).listeners) :
    (events.forM (notify id)).Ensures (.level .silent depth) system fun _ after =>
      system.ToldUpdate after ∧
        ((∃ event ∈ events, event.isRecount = true) → system.recounts < after.recounts) :=
  toldUpdate_forM events near conferencesAgree fun event among now sofar =>
    (toldUpdate_notify id (plain event among).1 (plain event among).2
      (sofar.conferencesOnly.keeps near)
      sofar.conferencesAgree).mono fun _ _ ⟨toldUpdate, more⟩ =>
        ⟨toldUpdate, fun recount => more recount (by
        rw [sofar.conferencesOnly.reads (·.listeners) fun _ => rfl]
        exact here)⟩

end Act

structure Card where
  state : CallState
  several : Bool
  technology : Technology
  conference : Option ConferenceId
  holdAllowed : Bool
  destroyed : Bool
  followed : Bool

namespace Connection

def card (call : Connection) : Card where
  state := call.published.state
  several := call.isMultiparty
  technology := call.technology
  conference := call.conference
  holdAllowed := call.holdAllowed
  destroyed := call.destroyed
  followed := call.destroyed || call.listeners.contains .exchange

theorem card_listeners {call : Connection} {listeners : List Listener}
    (same : (call.destroyed || listeners.contains .exchange) =
      (call.destroyed || call.listeners.contains .exchange)) :
    card { call with listeners } = call.card :=
  congrArg (fun followed => { call.card with followed }) same

theorem card_refreshed {call : Connection} (silent : call.Silent) :
    call.refreshed.card = call.card := by
  unfold refreshed
  split
  · rfl
  · rename_i alive
    have state := (silent (by simpa using alive)).1
    exact congrArg (fun state => { call.card with state }) state.symm

theorem derived_conference (call : Connection) :
    call.derived.props.conference = call.isMultiparty := by
  have plain (facts : CallFacts) (technology : Technology) (carrier : CarrierConfig) :
      (technology.adjustProperties facts (facts.plainProperties carrier)).conference =
        facts.multiparty := by
    cases technology <;> rfl
  refine (plain call.facts _ _).trans ?_
  unfold facts isMultiparty
  cases call.view <;> rfl

end Connection

namespace System

variable {ε : Type}

def living (system : System ε) : List ConnectionId :=
  ((List.range system.connections.length).map .issued).filter fun id =>
    !(system.connection id).destroyed

theorem mem_living {system : System ε} {id : ConnectionId} :
    id ∈ system.living ↔ (system.connection id).destroyed = false := by
  simp only [living, List.mem_filter, Bool.not_eq_true', and_iff_right_iff_imp]
  intro alive
  have known := system.known_of_alive alive
  cases id with
  | issued serial => simpa [Known] using known
  | outsider value => exact known.elim

theorem living_congr {before after : System ε}
    (count : after.connections.length = before.connections.length)
    (destroyed : ∀ id, (after.connection id).destroyed = (before.connection id).destroyed) :
    after.living = before.living := by
  simp only [living, count, destroyed]

/-- The exchange has whoever is alive in its books, tracks them, and hears of them. -/
structure LiveRegistered (system : System ε) : Prop extends system.ConferencesAgree where
  roster : system.registry.connections = system.living
  enrolled (id : ConnectionId) :
    .connection id ∈ system.tracked ↔ id ∈ system.registry.connections
  heard {id : ConnectionId} : (system.connection id).destroyed = false →
    .exchange ∈ (system.connection id).listeners

theorem LiveRegistered.alive_iff {system : System ε} (liveRegistered : system.LiveRegistered)
    (id : ConnectionId) :
    id ∈ system.registry.connections ↔ (system.connection id).destroyed = false := by
  rw [liveRegistered.roster, mem_living]

theorem LiveRegistered.revise {system : System ε} (liveRegistered : system.LiveRegistered)
    (id : ConnectionId)
    {change : Connection → Connection}
    (conference : (change (system.connection id)).conference = (system.connection id).conference)
    (destroyed : (change (system.connection id)).destroyed = (system.connection id).destroyed)
    (heard : (system.connection id).destroyed = false →
      .exchange ∈ (change (system.connection id)).listeners) :
    (system.reviseConnection id change).LiveRegistered := by
  have registry : (system.reviseConnection id change).registry = system.registry := by simp
  have tracked : (system.reviseConnection id change).tracked = system.tracked := by
    cases id <;> rfl
  have gone := system.read_reviseConnection (·.destroyed) destroyed
  exact {
    liveRegistered.toConferencesAgree.congr (system.read_reviseConnection (·.conference) conference)
      (by cases id <;> rfl) tracked (by cases id <;> rfl) with
    roster := by rw [registry, liveRegistered.roster, living_congr (by simp) gone]
    enrolled := fun other => by rw [tracked, registry]; exact liveRegistered.enrolled other
    heard := fun {other} alive => by
      rw [gone] at alive
      exact system.each_revise id (fun other call => (system.connection other).destroyed = false →
        .exchange ∈ call.listeners) heard (fun _ => liveRegistered.heard) other alive }

theorem ConferencesOnly.liveRegistered {before after : System ε}
    (conferencesOnly : before.ConferencesOnly after)
    (liveRegistered : before.LiveRegistered) (conferencesAgree : after.ConferencesAgree)
    (connections : ∀ id, .connection id ∈ after.tracked ↔ .connection id ∈ before.tracked) :
    after.LiveRegistered where
  toConferencesAgree := conferencesAgree
  roster := by
    rw [conferencesOnly.listed, liveRegistered.roster, living_congr conferencesOnly.count
      (conferencesOnly.reads (·.destroyed) fun _ => rfl)]
  enrolled id := by rw [connections, liveRegistered.enrolled, conferencesOnly.listed]
  heard {id} alive := by
    rw [conferencesOnly.reads (·.destroyed) fun _ => rfl] at alive
    rw [conferencesOnly.reads (·.listeners) fun _ => rfl]
    exact liveRegistered.heard alive

theorem ToldUpdate.liveRegistered {before after : System ε} (toldUpdate : before.ToldUpdate after)
    (liveRegistered : before.LiveRegistered) : after.LiveRegistered :=
  toldUpdate.conferencesOnly.liveRegistered liveRegistered toldUpdate.conferencesAgree
    toldUpdate.connections

theorem VerdictsOnly.liveRegistered {before after : System ε}
    (verdictsOnly : before.VerdictsOnly after)
    (liveRegistered : before.LiveRegistered) : after.LiveRegistered :=
  verdictsOnly.toConferencesOnly.liveRegistered liveRegistered
    (verdictsOnly.alike.conferencesAgree liveRegistered.toConferencesAgree)
    fun id => by rw [verdictsOnly.tracked]

structure BooksInOrder (system : System ε) : Prop extends system.LiveRegistered where
  published : system.Near
  upToDate : system.UpToDate
  judged : system.Judged

structure Undisturbed (before after : System ε) : Prop where
  count : after.connections.length = before.connections.length
  card (id : ConnectionId) : (after.connection id).card = (before.connection id).card
  desk : after.desk = before.desk
  tracked : after.tracked = before.tracked
  conferences : after.conferences = before.conferences
  listed : after.registry.connections = before.registry.connections

namespace Undisturbed

variable {before middle after : System ε}

theorem of_same (connections : after.connections = before.connections)
    (desk : after.desk = before.desk) (tracked : after.tracked = before.tracked)
    (conferences : after.conferences = before.conferences)
    (listed : after.registry.connections = before.registry.connections) :
    before.Undisturbed after where
  count := congrArg List.length connections
  card id := by
    have same : after.connection id = before.connection id :=
      connection_congr connections id
    rw [same]
  desk := desk
  tracked := tracked
  conferences := conferences
  listed := listed

theorem trans (first : before.Undisturbed middle) (second : middle.Undisturbed after) :
    before.Undisturbed after where
  count := second.count.trans first.count
  card id := (second.card id).trans (first.card id)
  desk := second.desk.trans first.desk
  tracked := second.tracked.trans first.tracked
  conferences := second.conferences.trans first.conferences
  listed := second.listed.trans first.listed

theorem of_revise (system : System ε) (id : ConnectionId) {change : Connection → Connection}
    (same : (change (system.connection id)).card = (system.connection id).card) :
    system.Undisturbed (system.reviseConnection id change) where
  count := by simp
  card := system.read_reviseConnection (·.card) same
  desk := by cases id <;> rfl
  tracked := by cases id <;> rfl
  conferences := by cases id <;> rfl
  listed := by simp

theorem of_release (system : System ε) (leg : Option LegId) :
    system.Undisturbed (system.release leg) := by
  cases leg with
  | none => exact of_same rfl rfl rfl rfl rfl
  | some leg => exact of_same rfl rfl rfl rfl rfl

section
variable (undisturbed : before.Undisturbed after)
include undisturbed

theorem reads {α : Type} (read : Card → α) (id : ConnectionId) :
    read (after.connection id).card = read (before.connection id).card :=
  congrArg read (undisturbed.card id)

theorem alike : before.Alike after where
  shown := undisturbed.reads (·.state)
  several _ := undisturbed.reads (·.several) _
  conference := undisturbed.reads (·.conference)
  desk := undisturbed.desk
  tracked := undisturbed.tracked
  cores := by rw [undisturbed.conferences]
  listed := undisturbed.listed

theorem technologyOf : after.technologyOf = before.technologyOf :=
  funext (undisturbed.reads (·.technology))

theorem verdict (entity : Holdable) : after.verdict entity = before.verdict entity := by
  cases entity with
  | connection id => exact undisturbed.reads (·.holdAllowed) id
  | conference id =>
    cases id <;> simp only [System.verdict, System.conference, undisturbed.conferences]

theorem liveRegistered (liveRegistered : before.LiveRegistered) : after.LiveRegistered where
  toConferencesAgree := undisturbed.alike.conferencesAgree liveRegistered.toConferencesAgree
  roster := by
    rw [undisturbed.listed, liveRegistered.roster,
      living_congr undisturbed.count (undisturbed.reads (·.destroyed))]
  enrolled id := by rw [undisturbed.tracked, undisturbed.listed]; exact liveRegistered.enrolled id
  heard {id} alive := by
    have followed : ((after.connection id).destroyed ||
        (after.connection id).listeners.contains .exchange) = ((before.connection id).destroyed ||
          (before.connection id).listeners.contains .exchange) := undisturbed.reads (·.followed) id
    have here := liveRegistered.heard ((undisturbed.reads (·.destroyed) id).symm.trans alive)
    simpa [alive, here] using followed

theorem booksInOrder (booksInOrder : before.BooksInOrder) (published : after.Near) :
    after.BooksInOrder where
  toLiveRegistered := undisturbed.liveRegistered booksInOrder.toLiveRegistered
  published := published
  upToDate := by
    rw [UpToDate, undisturbed.technologyOf]
    exact undisturbed.alike.formed booksInOrder.upToDate
  judged := undisturbed.alike.judged undisturbed.verdict booksInOrder.judged

end
end Undisturbed

theorem ConferencesAgree.of_member {system : System ε} (conferencesAgree : system.ConferencesAgree)
    {technologies : ConnectionId → Technology} (formed : system.Formed technologies)
    {id : ConnectionId} {conference : ConferenceId}
    (member : (system.connection id).conference = some conference) :
    ∃ technology ∈ conferencing, system.desk.get technology = some conference ∧
      id ∈ system.group technologies technology := by
  obtain ⟨technology, here, among⟩ := conferencesAgree.member member
  have turn : technology ∈ conferencing := by
    cases technology with
    | satellite => exact absurd (conferencesAgree.grounded.symm.trans here) (by simp)
    | _ => decide
  refine ⟨technology, turn, here, ?_⟩
  have same := formed technology turn
  simp only [seatedAt, here, Option.map_some, System.gathered] at same
  split at same
  · exact (Option.some.inj same) ▸ among
  · cases same

structure StillTracked (system : System ε) (id : ConnectionId) : Prop
    extends system.ConferencesAgree where
  published : system.Near
  roster : system.registry.connections = system.living
  enrolled (other : ConnectionId) :
    .connection other ∈ system.tracked ∧ other ≠ id ↔ other ∈ system.registry.connections
  heard {other : ConnectionId} : (system.connection other).destroyed = false →
    .exchange ∈ (system.connection other).listeners

def struckOff (system : System ε) (id : ConnectionId) (journal : List Entry) : System ε :=
  struck { system.reviseConnection id ({ · with destroyed := true }) with journal } id

section

variable {system : System ε} {id : ConnectionId}

theorem each_struckOff (known : system.Known id) (journal : List Entry)
    {motive : ConnectionId → Connection → Prop}
    (own : motive id { system.connection id with destroyed := true })
    (others : ∀ other, other ≠ id → motive other (system.connection other)) (other : ConnectionId) :
    motive other ((system.struckOff id journal).connection other) := by
  have same : (system.struckOff id journal).connection other =
      (system.reviseConnection id ({ · with destroyed := true })).connection other := by
    cases other <;> rfl
  rw [same]
  exact system.each_revise_known known own others other

theorem struckOff_listed (journal : List Entry) :
    (system.struckOff id journal).registry.connections =
      system.registry.connections.filter (· != id) := by
  cases id <;> rfl

theorem struckOff_tracked (journal : List Entry) :
    (system.struckOff id journal).tracked = system.tracked := by
  cases id <;> rfl

theorem BooksInOrder.stillTracked (booksInOrder : system.BooksInOrder)
    (alive : (system.connection id).destroyed = false) (journal : List Entry) :
    (system.struckOff id journal).StillTracked id :=
  have known := system.known_of_alive alive
  { booksInOrder.toConferencesAgree.congr (each_struckOff known journal (motive := fun other call =>
      call.conference = (system.connection other).conference) rfl fun _ _ => rfl)
      (by cases id <;> rfl) (struckOff_tracked journal) (by cases id <;> rfl) with
    published := {
      steady := each_struckOff known journal (motive := fun _ call => call.Steady)
        ⟨(booksInOrder.published.steady id).watched, fun _ => nofun⟩ fun other _ =>
          booksInOrder.published.steady other
      near := each_struckOff known journal (motive := fun _ call => call.Near) nofun fun other _ =>
        booksInOrder.published.near other }
    roster := by
      have count : (system.struckOff id journal).connections.length = system.connections.length :=
        system.reviseConnection_count ..
      rw [struckOff_listed, booksInOrder.roster, living, living, count, List.filter_filter]
      refine List.filter_congr fun other _ => ?_
      refine each_struckOff known journal (motive := fun other call =>
        (other != id && !(system.connection other).destroyed) = !call.destroyed) (by simp) ?_ other
      exact fun other differ => by simp [differ]
    enrolled := fun other => by
      rw [struckOff_tracked, booksInOrder.enrolled, struckOff_listed, List.mem_filter]
      simp
    heard := fun {other} => each_struckOff known journal (motive := fun _ call =>
      call.destroyed = false → .exchange ∈ call.listeners)
        nofun (fun _ _ => booksInOrder.heard) other }

end

structure InOrderWithout (before : System ε) (id : ConnectionId) (after : System ε) : Prop
    extends after.BooksInOrder where
  recounts : before.recounts ≤ after.recounts
  renews : before.Renews after
  gone : (after.connection id).destroyed = true

theorem InOrderWithout.written {before now : System ε} {id : ConnectionId}
    (inOrderWithout : before.InOrderWithout id now) (entry : Entry) :
    before.InOrderWithout id { now with journal := entry :: now.journal } := by
  have told : now.Undisturbed { now with journal := entry :: now.journal } :=
    .of_same rfl rfl rfl rfl rfl
  have same (other : ConnectionId) :
      System.connection { now with journal := entry :: now.journal } other =
        now.connection other := by
    cases other <;> rfl
  exact {
    told.booksInOrder inOrderWithout.toBooksInOrder
      (inOrderWithout.published.of_connections rfl) with
    recounts := Nat.le_trans inOrderWithout.recounts (by
      simp only [System.recounts, List.countP_cons]
      omega)
    renews := fun other current => by
      rw [same]
      exact inOrderWithout.renews other current
    gone := by rw [same]; exact inOrderWithout.gone }

end System

namespace Act

variable {ε : Type} {depth : Nat} {system : System ε}

theorem verdictsOnly_finishSelection {wiring : Wiring ε} (id : ConnectionId) :
    (finishSelection id).Ensures wiring system fun _ after => system.VerdictsOnly after := by
  rw [finishSelection, ensures_bind, ensures_get]
  generalize system.registry.session.finish id = outcome
  obtain ⟨finishes, session⟩ := outcome
  rw [ensures_bind, ensures_reviseRegistry]
  have closed :
      System.VerdictsOnly system { system with registry := { system.registry with session } } :=
    .of_aside rfl rfl rfl rfl rfl rfl
  split
  · rw [ensures_write]
    exact closed.trans (.of_noted ⟨[.called .finishSelection], rfl, rfl⟩)
  · rw [ensures_pure]
    exact closed

theorem booksInOrder_dismiss {id : ConnectionId} (stillTracked : system.StillTracked id) :
    (dismiss id).Ensures (.level .silent depth) system fun _ after =>
      after.BooksInOrder ∧ system.ConferencesOnly after ∧ system.Renews after := by
  have near := stillTracked.published
  have finish {now : System ε} (verdictsOnly : system.VerdictsOnly now) :
      (do
        untrack (.connection id)
        recalculate
        announce (.connectionRemoved id) : Act ε Unit).Ensures (.level .silent depth) now
          fun _ after => after.BooksInOrder ∧ system.ConferencesOnly after ∧ system.Renews after :=
            by
    have planValid :=
      (verdictsOnly.alike.conferencesAgree stillTracked.toConferencesAgree).untracked id
    rw [ensures_bind]
    refine (verdictsOnly_untrack (.connection id) (verdictsOnly.keeps near)).mono
      fun _ next tracks => ?_
    have near' := tracks.keeps ((verdictsOnly.keeps near).of_connections rfl)
    rw [ensures_bind]
    refine (recalculates near' (tracks.alike.conferencesAgree planValid)).mono
      fun _ after done => ?_
    rw [ensures_announce]
    have aside : System.ConferencesOnly now
        { now with tracked := now.tracked.filter (· != .connection id) } :=
      .of_connections rfl rfl rfl
    have conferencesOnly := verdictsOnly.toConferencesOnly.trans
      (aside.trans (tracks.toConferencesOnly.trans done.conferencesOnly))
    have told : System.Undisturbed after
        { after with notices := .connectionRemoved id :: after.notices } :=
      .of_same rfl rfl rfl rfl rfl
    have booksInOrder : after.BooksInOrder := {
      done.conferencesAgree with
      roster := by
        rw [conferencesOnly.listed, stillTracked.roster, System.living_congr conferencesOnly.count
          (conferencesOnly.reads (·.destroyed) fun _ => rfl)]
      enrolled := fun other => by
        rw [done.connections, tracks.tracked, conferencesOnly.listed, ← stillTracked.enrolled,
          verdictsOnly.tracked]
        simp
      heard := fun {other} alive => by
        rw [conferencesOnly.reads (·.destroyed) fun _ => rfl] at alive
        rw [conferencesOnly.reads (·.listeners) fun _ => rfl]
        exact stillTracked.heard alive
      published := conferencesOnly.keeps near
      upToDate := done.upToDate
      judged := done.judged }
    exact ⟨told.booksInOrder booksInOrder (booksInOrder.published.of_connections rfl),
      conferencesOnly.trans (.of_connections rfl rfl rfl),
      fun other current =>
        done.renews other (tracks.renews other (verdictsOnly.renews other current))⟩
  rw [dismiss, ensures_bind, dropRetry, ensures_reviseRegistry, ensures_bind, ensures_get]
  have dropped (retry : Option RetryQueue) :
      system.VerdictsOnly { system with registry := { system.registry with retry } } :=
    .of_aside rfl rfl rfl rfl rfl rfl
  split
  · rw [ensures_bind]
    exact (verdictsOnly_finishSelection id).mono fun _ _ closed => finish ((dropped _).trans closed)
  · exact finish (dropped _)

theorem booksInOrder_unregister (booksInOrder : system.BooksInOrder) {id : ConnectionId}
    (alive : (system.connection id).destroyed = false) (journal : List Entry) :
    let dead : System ε :=
      { system.reviseConnection id ({ · with destroyed := true }) with journal }
    system.recounts ≤ dead.recounts →
      (unregister id).Ensures (.level .silent depth) dead fun _ after =>
        system.InOrderWithout id after := by
  intro dead more
  have known := system.known_of_alive alive
  have listed : dead.isRegistered id = true := by
    have registry : dead.registry = system.registry := system.reviseConnection_registry ..
    simpa [System.isRegistered, registry] using (booksInOrder.alive_iff id).mpr alive
  rw [unregister_eq, ensures_bind, ensures_get, if_pos listed, ensures_bind, ensures_modify]
  refine (booksInOrder_dismiss (booksInOrder.stillTracked alive journal)).mono
    fun _ after dismissed => ?_
  obtain ⟨done, conferencesOnly, renews⟩ := dismissed
  refine ⟨done, Nat.le_trans more conferencesOnly.recounts, fun other current =>
    renews other ?_, ?_⟩
  · exact System.each_struckOff known journal (motive := fun other call =>
      (system.connection other).Current → call.Current) (fun _ lives => by cases lives)
      (fun _ _ current => current) other current
  · rw [conferencesOnly.reads (·.destroyed) fun _ => rfl]
    exact System.each_struckOff known journal (motive := fun other call => other = id →
      call.destroyed = true) (fun _ => rfl) (fun _ differ own => absurd own differ) id rfl

theorem inOrderWithout_tellOne {id : ConnectionId} {now : System ε}
    (inOrderWithout : system.InOrderWithout id now)
    (listener : Listener) :
    (Bystanders.silent.tellOne id .destroyed listener).Ensures (.level .silent depth) now
      fun _ after => system.InOrderWithout id after := by
  have told := inOrderWithout.written (.heard listener id .destroyed)
  unfold Bystanders.tellOne
  rw [ensures_bind, ensures_write]
  cases listener with
  | exchange =>
    have unlisted : System.isRegistered
        { now with journal := .heard .exchange id .destroyed :: now.journal } id = false := by
      refine Bool.eq_false_iff.mpr fun listed => ?_
      have lives := (told.alive_iff id).mp (by simpa [System.isRegistered] using listed)
      rw [told.gone] at lives
      cases lives
    rw [attend, unregister_eq, ensures_bind, ensures_get, unlisted]
    exact (ensures_pure _ _).mpr told
  | _ => exact (ensures_pure _ _).mpr told

theorem inOrderWithout_forM (booksInOrder : system.BooksInOrder) {id : ConnectionId}
    (alive : (system.connection id).destroyed = false) {listeners : List Listener}
    (here : .exchange ∈ listeners) (journal : List Entry) :
    let dead : System ε :=
      { system.reviseConnection id ({ · with destroyed := true }) with journal }
    system.recounts ≤ dead.recounts →
      (listeners.forM (Bystanders.silent.tellOne id .destroyed)).Ensures (.level .silent depth) dead
        fun _ after => system.InOrderWithout id after := by
  intro dead more
  induction listeners generalizing journal with
  | nil => cases here
  | cons listener rest ih =>
    have later : system.recounts ≤
        List.countP Entry.isRecount (.heard listener id .destroyed :: journal) := by
      refine Nat.le_trans more ?_
      rw [List.countP_cons]
      exact Nat.le_add_right _ _
    rw [List.forM, ensures_bind]
    by_cases mine : listener = .exchange
    · subst mine
      unfold Bystanders.tellOne
      rw [ensures_bind, ensures_write]
      refine (booksInOrder_unregister booksInOrder alive _ later).mono
        fun _ now inOrderWithout => ?_
      exact ensures_forM (system.InOrderWithout id) rest
        (fun listener _ next done => inOrderWithout_tellOne done listener) inOrderWithout
    · have among := (List.mem_cons.mp here).resolve_left (Ne.symm mine)
      have told : (Bystanders.silent.tellOne id .destroyed listener).Ensures (.level .silent depth)
          dead fun _ after =>
            after = { dead with journal := .heard listener id .destroyed :: journal } := by
        unfold Bystanders.tellOne
        rw [ensures_bind, ensures_write]
        cases listener with
        | exchange => exact absurd rfl mine
        | _ => exact (ensures_pure _ _).mpr rfl
      refine told.mono fun _ now same => ?_
      subst same
      exact ih among _ later

theorem inOrderWithout_destroy (booksInOrder : system.BooksInOrder) {id : ConnectionId}
    (alive : (system.connection id).destroyed = false) :
    (destroy id).Ensures (.level .silent depth) system fun _ after =>
      system.InOrderWithout id after := by
  simp only [destroy, ensures_bind, ensures_look, alive, Bool.false_eq_true, if_false,
    ensures_revise]
  have known := system.known_of_alive alive
  have told : (notify id .destroyed).Ensures (.level .silent depth)
      (system.reviseConnection id ({ · with destroyed := true }))
        fun _ after => system.InOrderWithout id after := by
    rw [ensures_notify, ensures_tell, System.connection_reviseConnection_known _ known]
    intro after run
    cases depth with
    | zero => cases run
    | succ depth =>
      have all : ((system.connection id).listeners.forM
          (Bystanders.silent.tellOne id .destroyed)).Ensures (.level .silent depth)
            (system.reviseConnection id ({ · with destroyed := true }))
              fun _ after => system.InOrderWithout id after := by
        have told :=
          @inOrderWithout_forM _ depth _ booksInOrder id alive _ (booksInOrder.heard alive)
            system.journal
          (Nat.le_refl _)
        have same : ({ system.reviseConnection id ({ · with destroyed := true }) with
            journal := system.journal } : System ε) =
              system.reviseConnection id ({ · with destroyed := true }) := by
          cases id <;> rfl
        rwa [same] at told
      exact all ⟨⟩ after run
  refine told.mono fun _ now inOrderWithout => ?_
  have silenced : now.Undisturbed (now.reviseConnection id ({ · with listeners := [] })) :=
    .of_revise now id (Connection.card_listeners (by simp [inOrderWithout.gone]))
  have near := inOrderWithout.published
  exact {
    silenced.booksInOrder inOrderWithout.toBooksInOrder {
      steady := now.each_revise id (fun _ call => call.Steady)
        ⟨(near.steady id).watched, (near.steady id).rested⟩ near.steady
      near := now.each_revise id (fun _ call => call.Near) (near.near id) near.near } with
    recounts := by
      simpa only [System.recounts, System.reviseConnection_journal] using inOrderWithout.recounts
    renews := fun other current =>
      now.kept_revise id (motive := fun old new => old.Current → new.Current)
      (fun current => current) (fun _ current => current) other
        (inOrderWithout.renews other current)
    gone := (now.read_reviseConnection (·.destroyed) rfl id).trans inOrderWithout.gone }

theorem inOrderWithout_teardown (booksInOrder : system.BooksInOrder) {id : ConnectionId}
    (alive : (system.connection id).destroyed = false)
    (busy : (system.connection id).publishing = true)
    (ended : (system.connection id).published.state = .disconnected) :
    (teardown id).Ensures (.level .silent depth) system fun _ after =>
      system.InOrderWithout id after := by
  have alone : (system.connection id).conference = none := by
    refine Option.eq_none_iff_forall_ne_some.mpr fun conference member => ?_
    obtain ⟨technology, -, -, among⟩ := booksInOrder.of_member booksInOrder.upToDate member
    have apt := (List.mem_filter.mp among).2
    rw [ended] at apt
    simp [CallState.isConnected] at apt
  have left : system.reviseConnection id ({ · with conference := none }) = system := by
    refine (system.reviseConnection_congr ?_).trans (system.reviseConnection_self id)
    rw [← alone]
  simp only [teardown, ensures_bind, ensures_look, ensures_revise, left, alone,
    Option.isSome_none, Bool.false_eq_true, if_false]
  refine (noted_notify id rfl).mono fun _ now noted => ?_
  have same := noted.connection
  obtain ⟨news, plain, rfl⟩ := noted
  rw [ensures_unbind]
  let told : System ε := { system with journal := news ++ system.journal }
  let apart : System ε := (told.reviseConnection id fun call =>
    { call with generation := call.generation + 1, leg := none }).release (told.connection id).leg
  have each {motive : ConnectionId → Connection → Prop}
      (own : motive id (system.connection id).unbound)
      (others : ∀ other, motive other (system.connection other)) (other : ConnectionId) :
      motive other (apart.connection other) := by
    rw [System.connection_release]
    refine told.each_revise id motive ?_ (fun other => ?_) other
    · rw [same]
      exact own
    · rw [same]
      exact others other
  have undisturbed : system.Undisturbed apart := by
    have written : system.Undisturbed told := .of_same rfl rfl rfl rfl rfl
    have revised : told.Undisturbed (told.reviseConnection id fun call =>
        { call with generation := call.generation + 1, leg := none }) := .of_revise told id rfl
    exact (written.trans revised).trans (.of_release _ _)
  have near := booksInOrder.published
  have published : apart.Near := {
    steady := each (motive := fun _ call => call.Steady) {
      watched := (near.steady id).watched
      rested := fun idle _ => by
        rw [Connection.unbound, busy] at idle
        cases idle } near.steady
    near := each (motive := fun _ call => call.Near) (near.near id) near.near }
  have unheard : apart.recounts = system.recounts := by
    have journal : apart.journal = news ++ system.journal := by
      change (System.release _ (told.connection id).leg).journal = _
      cases (told.connection id).leg <;> cases id <;> rfl
    rw [System.recounts, journal, List.countP_append, plain, Nat.zero_add]
    rfl
  have gone := each (motive := fun other call =>
    call.destroyed = (system.connection other).destroyed) rfl fun _ => rfl
  exact (inOrderWithout_destroy (undisturbed.booksInOrder booksInOrder published)
    ((gone id).trans alive)).mono
    fun _ after inOrderWithout => { inOrderWithout with
      recounts := unheard ▸ inOrderWithout.recounts
      renews := fun other current => inOrderWithout.renews other (each (motive := fun other call =>
        (system.connection other).Current → call.Current) (fun current => current)
        (fun _ current => current) other current) }

end Act

theorem Connection.exists_recount {call : Connection} (loud : ¬ call.Silent) :
    ∃ event ∈ call.published.changes call.derived, event.isRecount = true := by
  by_cases state : call.published.state = call.derived.state
  · have props : call.published.props ≠ call.derived.props := fun same =>
      loud fun _ => ⟨state, same⟩
    exact ⟨.propertiesChanged call.derived.props, by simp [Published.changes, props], rfl⟩
  · exact ⟨.stateChanged call.published.state call.derived.state,
      by simp [Published.changes, state], rfl⟩

namespace System

variable {ε : Type}

structure BooksUpdated (before : System ε) (id : ConnectionId) (after : System ε) : Prop
    extends after.LiveRegistered where
  near (other : ConnectionId) : (after.connection other).Near
  current (other : ConnectionId) : other = id ∨ (before.connection other).Current →
    (after.connection other).Current
  upToDate : after.UpToDate
  judged : after.Judged
  more : before.recounts < after.recounts

theorem BooksInOrder.booksUpdated {before system : System ε} (booksInOrder : system.BooksInOrder)
    (more : before.recounts < system.recounts) (id : ConnectionId)
    {change : Connection → Connection}
    (same : (change (system.connection id)).card = (system.connection id).card)
    (near : (change (system.connection id)).Near)
    (current : (change (system.connection id)).Current)
    (others : ∀ other, other ≠ id → (before.connection other).Current →
      (system.connection other).Current) :
    before.BooksUpdated id (system.reviseConnection id change) := by
  have undisturbed : system.Undisturbed (system.reviseConnection id change) :=
    .of_revise system id same
  exact {
    undisturbed.liveRegistered booksInOrder.toLiveRegistered with
    near := fun other => by
      rw [connection_reviseConnection]
      split
      · exact near
      · exact booksInOrder.published.near other
    current := fun other was => by
      rw [connection_reviseConnection]
      split
      · exact current
      · rename_i apart
        by_cases own : other = id
        · rw [system.connection_of_not_known fun known => apart ⟨own, own ▸ known⟩]
          exact nofun
        · exact others other own (was.resolve_left own)
    upToDate := by
      rw [UpToDate, undisturbed.technologyOf]
      exact undisturbed.alike.formed booksInOrder.upToDate
    judged := undisturbed.alike.judged undisturbed.verdict booksInOrder.judged
    more := by simpa only [recounts, reviseConnection_journal] using more }

theorem BooksUpdated.noted {before now after : System ε} {id : ConnectionId}
    (booksUpdated : before.BooksUpdated id now) (noted : now.Noted after) :
      before.BooksUpdated id after := by
  have verdictsOnly := VerdictsOnly.of_noted noted
  exact {
    verdictsOnly.liveRegistered booksUpdated.toLiveRegistered with
    near := fun other => verdictsOnly.near other (booksUpdated.near other)
    current := fun other was => verdictsOnly.renews other (booksUpdated.current other was)
    upToDate := by
      rw [UpToDate, verdictsOnly.toConferencesOnly.technologyOf]
      exact verdictsOnly.alike.formed booksUpdated.upToDate
    judged := noted.judged booksUpdated.judged
    more := verdictsOnly.unheard ▸ booksUpdated.more }

end System

namespace Act

variable {ε : Type} {depth : Nat} {system : System ε}

theorem verdictsOnly_showState {wiring : Wiring ε} (id : ConnectionId) (state : CallState) :
    (showState id state).Ensures wiring system fun _ after =>
      (system.reviseConnection id ({ · with watched := state })).VerdictsOnly after := by
  simp only [showState, ensures_bind, ensures_look]
  split
  · rename_i same
    have same : system.reviseConnection id ({ · with watched := state }) = system := by
      refine (system.reviseConnection_congr ?_).trans (system.reviseConnection_self id)
      rw [← eq_of_beq same]
    rw [ensures_pure, same]
    exact .refl system
  · simp only [ensures_bind, ensures_revise, ensures_signal]
    exact .of_aside rfl rfl rfl rfl rfl rfl

theorem booksUpdated_endRound {before : System ε} {id : ConnectionId} (rounds : Nat)
    (booksInOrder : system.BooksInOrder) (more : before.recounts < system.recounts)
    (current : ∀ other, other = id ∨ (before.connection other).Current →
      (system.connection other).Current)
    (up : (system.connection id).destroyed = false →
      (system.connection id).visibleState ≠ .disconnected)
    (unstarted : (system.connection id).destroyed = false →
      (system.connection id).teardownStarted = false) :
    (endRound id rounds).Ensures (.level .silent depth) system fun _ after =>
      before.BooksUpdated id after := by
  rw [endRound, ensures_bind, ensures_look]
  split
  · rename_i last
    rw [ensures_revise]
    refine booksInOrder.booksUpdated more id ?_ (booksInOrder.published.near id) ?_
      fun other _ was =>
      current other (.inr was)
    · rfl
    · intro alive
      refine .inl ((current id (.inl rfl) alive).resolve_right fun waits => ?_)
      have alive : (system.connection id).destroyed = false := alive
      simp [waits.2, alive] at last
  · refine (noted_publish rounds (booksInOrder.published.steady id).watched
      (booksInOrder.published.near id).silent up unstarted).mono fun _ after noted =>
        .noted (booksInOrder.booksUpdated more id
          (Connection.card_refreshed (booksInOrder.published.near id).silent)
          ?_ ?_ fun other _ was => current other (.inr was)) noted
    · exact fun lives => congrArg _ (Connection.refreshed_published _ lives)
    · exact fun lives => .inl (congrArg _ (Connection.refreshed_published _ lives))

theorem booksUpdated_settled {before : System ε} {id : ConnectionId} (rounds : Nat)
    (alive : (before.connection id).destroyed = false) (booksInOrder : system.BooksInOrder)
    (more : before.recounts < system.recounts)
    (current : ∀ other, other = id ∨ (before.connection other).Current →
      (system.connection other).Current)
    (same : (system.connection id).essence = (before.connection id).told.essence) :
    (if (before.connection id).isEnding = true then teardown id else pure () : Act ε Unit).Ensures
      (.level .silent depth) system fun _ now =>
        (endRound id rounds).Ensures (.level .silent depth) now fun _ after =>
          before.BooksUpdated id after := by
  have reads {α : Type} (read : Connection → α)
      (essential : ∀ call : Connection, read call.essence = read call) :
      read (system.connection id) = read (before.connection id).told := by
    rw [← essential, same, essential]
  split
  · rename_i ending
    have ended : (before.connection id).visibleState = .disconnected := by
      simpa [Connection.isEnding, alive] using ending
    refine (inOrderWithout_teardown booksInOrder ((reads (·.destroyed) fun _ => rfl).trans alive)
      (reads (·.publishing) fun _ => rfl) ?_).mono fun _ torn inOrderWithout => ?_
    · exact (reads (·.published.state) fun _ => rfl).trans
        ((before.connection id).derived_state.trans ended)
    · have gone {goal : Prop} (lives : (torn.connection id).destroyed = false) : goal := by
        rw [inOrderWithout.gone] at lives
        cases lives
      exact booksUpdated_endRound rounds inOrderWithout.toBooksInOrder
        (Nat.lt_of_lt_of_le more inOrderWithout.recounts)
        (fun other was => inOrderWithout.renews other (current other was)) gone gone
  · rename_i lasting
    have lasting : (before.connection id).isEnding = false := by simpa using lasting
    rw [ensures_pure]
    refine booksUpdated_endRound rounds booksInOrder more current (fun _ => ?_) fun _ => ?_
    · rw [reads (·.visibleState) fun _ => rfl]
      change (before.connection id).visibleState ≠ _
      simpa [Connection.isEnding, alive] using lasting
    · exact (reads (·.teardownStarted) fun _ => rfl).trans lasting

theorem booksUpdated_publish {id : ConnectionId} (rounds : Nat) (ready : system.Ready id)
    (liveRegistered : system.LiveRegistered) (near : ∀ other, other ≠ id →
      (system.connection other).Near)
    (loud : ¬ (system.connection id).Silent) :
    (publish id rounds).Ensures (.level .silent depth) system fun _ after =>
      system.BooksUpdated id after := by
  cases rounds with
  | zero => exact ensures_failure _
  | succ rounds =>
    have alive : (system.connection id).destroyed = false := by
      cases gone : (system.connection id).destroyed with
      | false => rfl
      | true => exact absurd (fun lives => by rw [gone] at lives; cases lives) loud
    obtain ⟨event, among, recount⟩ := Connection.exists_recount loud
    rw [publish_succ, ensures_bind, ensures_commit]
    rcases Connection.commit_of_alive alive (ready.unstarted alive) with ⟨same, -, -⟩ | commits
    · exact absurd (fun _ => ⟨congrArg (·.state) same, congrArg (·.props) same⟩) loud
    rw [commits]
    have known := system.known_of_alive alive
    have here := system.connection_told known
    have published : (system.told id).Near := {
      steady := ready.told_steady
      near :=
        system.each_revise_known known (motive := fun _ call => call.Near) (fun _ => rfl) near }
    have current (other : ConnectionId) (was : other = id ∨ (system.connection other).Current) :
        ((system.told id).connection other).Current :=
      system.each_revise_known known (motive := fun other call =>
        other = id ∨ (system.connection other).Current → call.Current) (fun _ _ => .inl rfl)
        (fun _ differ was => was.resolve_left differ) other was
    have relodged : (system.told id).LiveRegistered :=
      liveRegistered.revise id rfl rfl fun alive => liveRegistered.heard alive
    have unheard : (system.told id).recounts = system.recounts := by
      rw [System.recounts, System.told, System.reviseConnection_journal]
      rfl
    have spoken : (system.connection id).news.events.isEmpty = false := by
      refine Bool.eq_false_iff.mpr fun none => ?_
      exact List.ne_nil_of_mem among (List.isEmpty_iff.mp none)
    simp only [ensures_bind, tellCommit, spoken, Bool.false_eq_true, if_false]
    refine (verdictsOnly_showState id _).mono fun _ now shows => ?_
    rw [System.reviseConnection_reviseConnection] at shows
    change (system.told id).VerdictsOnly now at shows
    refine (toldUpdate_notifications id (fun _ => Published.plain_of_mem_changes)
      (shows.keeps published) (shows.liveRegistered relodged).toConferencesAgree ?_).mono
        fun _ next told => ?_
    · rw [shows.reads (·.listeners) fun _ => rfl, here]
      exact liveRegistered.heard alive
    have toldUpdate := told.1
    have more := told.2 ⟨event, among, recount⟩
    obtain ⟨upToDate, judged⟩ := toldUpdate.loud more
    have conferencesOnly := shows.toConferencesOnly.trans toldUpdate.conferencesOnly
    have booksInOrder : next.BooksInOrder := {
      toldUpdate.liveRegistered (shows.liveRegistered relodged) with
      published := conferencesOnly.keeps published
      upToDate, judged }
    rw [shows.unheard, unheard] at more
    refine booksUpdated_settled rounds alive booksInOrder more (fun other was => ?_) ?_
    · exact toldUpdate.renews other (shows.renews other (current other was))
    · rw [conferencesOnly.essence, here]

end Act
end Switchboard
