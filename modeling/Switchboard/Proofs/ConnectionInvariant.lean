import Switchboard.Proofs.ConnectionLaws

/-! The invariant of one connection, whatever its listeners do: its flags fit each other, what has
been told of it fits the flags, and those who listen have heard what has been published.
`Dossier.InOrder` is the invariant of the connection with its annals; `Dossier.Leads` and
`Dossier.Settles` are what other steps may change while the connection is being updated. -/

namespace Switchboard

namespace ConnectionEvent

theorem isFinal_eq_false {event : ConnectionEvent} :
    event.isFinal = false ↔ event.isDisconnected = false ∧ event ≠ .destroyed := by
  simp [isFinal]

def Tells (event : ConnectionEvent) (published : Published) : Prop :=
  published.hear event = published

def Suits (event : ConnectionEvent) (call : Connection) : Prop :=
  event.IsMute ∨ call.publishing = true ∧ event.Tells call.published

end ConnectionEvent

namespace Published

theorem tells_of_mem_changes {old new : Published} {event : ConnectionEvent}
    (among : event ∈ old.changes new) : event.Tells new := by
  simp only [changes, List.mem_append] at among
  rcases among with (((((among | among) | among) | among) | among) | among) | among <;>
    (split at among <;> simp_all [ConnectionEvent.Tells, hear])

theorem not_final_of_mem_changes {old new : Published} {event : ConnectionEvent}
    (among : event ∈ old.changes new) : event.isFinal = false := by
  simp only [changes, List.mem_append] at among
  rcases among with (((((among | among) | among) | among) | among) | among) | among <;>
    (split at among <;> simp_all [ConnectionEvent.isFinal, ConnectionEvent.isDisconnected])

theorem hear_hear (record : Published) (event : ConnectionEvent) :
    (record.hear event).hear event = record.hear event := by
  cases event <;> rfl

theorem foldl_hear_self {events : List ConnectionEvent} {record : Published}
    (tells : ∀ event ∈ events, event.Tells record) : events.foldl hear record = record := by
  induction events with
  | nil => rfl
  | cons event rest ih =>
    rw [List.foldl_cons, tells event List.mem_cons_self]
    exact ih fun other among => tells other (List.mem_cons_of_mem _ among)

end Published

theorem Moment.sight?_told {event : ConnectionEvent} (lasting : event.isDisconnected = false)
    {listeners : List Listener} {call : Connection} : sight? (.told event listeners call) = none :=
      by
  cases event with
  | disconnected info => cases lasting
  | _ => rfl

namespace Annals

variable {annals : Annals} {listener : Listener}

@[simp] theorem disconnections_cons (moment : Moment) (annals : Annals) :
    disconnections (moment :: annals) = disconnections annals +
      if moment.telling?.any ConnectionEvent.isDisconnected then 1 else 0 := by
  cases moment with
  | told event listeners call =>
    simp only [disconnections, tellings, Moment.telling?, List.filterMap_cons, List.countP_cons]
    rfl
  | _ => rfl

@[simp] theorem destructions_cons (moment : Moment) (annals : Annals) :
    destructions (moment :: annals) = destructions annals +
      if moment.telling? = some .destroyed then 1 else 0 := by
  cases moment with
  | told event listeners call =>
    simp [destructions, tellings, Moment.telling?, List.count_cons]
  | _ => rfl

theorem destructions_pos {listeners : List Listener} {call : Connection}
    (among : .told .destroyed listeners call ∈ annals) : 0 < annals.destructions :=
  List.count_pos_iff.mpr (List.mem_filterMap.mpr ⟨_, among, rfl⟩)

theorem not_open {listeners : List Listener} {call : Connection}
    (among : .told .destroyed listeners call ∈ annals) : ¬ annals.Open :=
  fun opens => Nat.lt_irrefl 0 (opens.2 ▸ destructions_pos among)

def Blank (annals : Annals) : Prop :=
  ∀ moment ∈ annals, match moment with
    | .told event listeners _ => event.isFinal = false ∧ listeners = []
    | .left _ => True
    | _ => False

theorem blank_nil : Blank [] := by
  intro moment among
  cases among

theorem Blank.tail {moment : Moment} (blank : Blank (moment :: annals)) : annals.Blank :=
  fun other among => blank other (List.mem_cons_of_mem _ among)

theorem Blank.disconnections (blank : annals.Blank) : annals.disconnections = 0 := by
  induction annals with
  | nil => rfl
  | cons moment rest ih =>
    have head := blank moment List.mem_cons_self
    rw [disconnections_cons, ih blank.tail]
    cases moment with
    | told event listeners call =>
      simp [Moment.telling?, (ConnectionEvent.isFinal_eq_false.mp head.1).1]
    | _ => rfl

theorem Blank.destructions (blank : annals.Blank) : annals.destructions = 0 := by
  induction annals with
  | nil => rfl
  | cons moment rest ih =>
    have head := blank moment List.mem_cons_self
    rw [destructions_cons, ih blank.tail]
    cases moment with
    | told event listeners call =>
      simp [Moment.telling?, (ConnectionEvent.isFinal_eq_false.mp head.1).2]
    | _ => rfl

theorem Blank.sights (blank : annals.Blank) : annals.sights = [] := by
  refine List.filterMap_eq_nil_iff.mpr fun moment among => ?_
  have head := blank moment among
  cases moment with
  | seen call => cases head
  | told event listeners call =>
    exact Moment.sight?_told (ConnectionEvent.isFinal_eq_false.mp head.1).1
  | _ => rfl

theorem Blank.not_stays (blank : annals.Blank) : ¬ annals.Stays listener := by
  induction annals with
  | nil => exact id
  | cons moment rest ih =>
    have head := blank moment List.mem_cons_self
    cases moment with
    | told event listeners call => exact ih blank.tail
    | left other => exact fun stays => ih blank.tail stays.2
    | _ => cases head

end Annals

/-- A connection with its annals. -/
structure Dossier where
  call : Connection
  annals : Annals

namespace Connection

/-- What could be seen once and stays: that the connection is disconnected, and why. -/
structure Keeps (earlier later : Connection) : Prop where
  shown : earlier.published.state = .disconnected → later.published.state = .disconnected
  ended {info : DisconnectInfo} : earlier.ended = some info → later.ended = some info

theorem Keeps.refl (call : Connection) : call.Keeps call := ⟨id, id⟩

theorem Keeps.trans {first second third : Connection} (one : first.Keeps second)
    (two : second.Keeps third) : first.Keeps third :=
  ⟨fun shown => two.shown (one.shown shown), fun ended => two.ended (one.ended ended)⟩

def Fresh (call : Connection) : Prop :=
  call.destroyed = true ∨ call.published = call.derived ∨
    call.publishing = true ∧ call.republish = true

theorem LegOnly.fresh {change : Connection → Connection} (legOnly : LegOnly change)
    {call : Connection} (fresh : call.Fresh) : (change call).Fresh := by
  rw [legOnly call]
  exact fresh

end Connection

namespace Dossier

def revise (dossier : Dossier) (change : Connection → Connection) : Dossier :=
  { dossier with call := change dossier.call }

def note (dossier : Dossier) (moment : Moment) : Dossier :=
  { dossier with annals := moment :: dossier.annals }

def telling (dossier : Dossier) (event : ConnectionEvent) : Dossier :=
  dossier.note (.told event dossier.call.listeners dossier.call)

def Done (dossier : Dossier) : Prop :=
  dossier.call.teardownStarted = true →
    dossier.call.destroyed = true ∧ dossier.annals.disconnections = 1

def Noted (dossier : Dossier) : Prop :=
  ∀ listener ∈ dossier.call.listeners,
    dossier.annals.notebook listener = some dossier.call.published

/-- The flags fit each other. An end that was given is announced, unless an update is `due`. -/
structure Coherent (due : Prop) (dossier : Dossier) : Prop where
  watched : dossier.call.watched = dossier.call.published.state
  shown : dossier.call.published.state = .disconnected → dossier.call.teardownStarted = true
  gone : dossier.call.destroyed = true → dossier.call.teardownStarted = true
  idle : dossier.call.publishing = false → dossier.call.republish = false
  done : dossier.call.publishing = false → dossier.Done
  announced : dossier.call.ended.isSome = true → dossier.call.teardownStarted = true ∨
    dossier.call.publishing = true ∧ dossier.call.republish = true ∨ due

/-- What has been told and seen fits the connection. -/
structure Recorded (dossier : Dossier) : Prop where
  once : dossier.annals.disconnections ≤ 1
  unstarted : dossier.call.teardownStarted = false → dossier.annals.disconnections = 0
  destroyed : dossier.annals.destructions = if dossier.call.destroyed then 1 else 0
  causes {info : DisconnectInfo} {listeners : List Listener} {teller : Connection} :
    .told (.disconnected info) listeners teller ∈ dossier.annals →
      info = teller.ended.getD .byRequest
  sights : (dossier.call :: dossier.annals.sights).Pairwise fun later earlier =>
    earlier.Keeps later

/-- Those who listen have heard what has been published, as soon as nobody is telling; and whoever
came before the end is there until it comes. -/
structure Attended (dossier : Dossier) : Prop where
  noted : dossier.call.publishing = false → dossier.Noted
  single : dossier.call.listeners.Nodup
  lists {event : ConnectionEvent} {listeners : List Listener} {teller : Connection} :
    .told event listeners teller ∈ dossier.annals → listeners.Nodup
  present {listener : Listener} : dossier.annals.Stays listener →
    dossier.call.destroyed = false → listener ∈ dossier.call.listeners
  informed {listener : Listener} {listeners : List Listener} {teller : Connection} :
    dossier.annals.Stays listener → .told .destroyed listeners teller ∈ dossier.annals →
      listener ∈ listeners

structure InOrder (due : Prop) (dossier : Dossier) : Prop extends
  Coherent due dossier, Recorded dossier, Attended dossier

/-- Time has passed. -/
structure Passes (earlier later : Dossier) : Prop where
  keeps : earlier.call.Keeps later.call
  started : earlier.call.teardownStarted = true → later.call.teardownStarted = true
  gone : earlier.call.destroyed = true → later.call.destroyed = true

/-- Somebody else has been at work on the connection. While it is publishing nothing else is
published, and its listeners have no more in their records than what they `heard`, except for
those that came to listen meanwhile. -/
structure Leads (heard : Listener → Published → Published) (earlier later : Dossier) : Prop
    extends Passes earlier later where
  publishing : later.call.publishing = earlier.call.publishing
  published : earlier.call.publishing = true → later.call.published = earlier.call.published
  noted : earlier.call.publishing = true → ∀ listener ∈ later.call.listeners,
    listener ∈ earlier.call.listeners ∧ later.annals.notebook listener =
        (earlier.annals.notebook listener).map (heard listener) ∨
      later.annals.notebook listener = some later.call.published

def EndToldOnce (earlier later : Dossier) : Prop :=
  earlier.call.teardownStarted = true → later.annals.disconnections = earlier.annals.disconnections

structure Settles (earlier later : Dossier) : Prop where
  endToldOnce : earlier.EndToldOnce later
  done : earlier.Done → later.Done
  fresh : earlier.call.Fresh → later.call.Fresh

variable {due : Prop} {dossier earlier middle later : Dossier}
  {heard more : Listener → Published → Published}

theorem Passes.refl (dossier : Dossier) : Passes dossier dossier := ⟨.refl _, id, id⟩

theorem Passes.trans (first : Passes earlier middle) (second : Passes middle later) :
    Passes earlier later where
  keeps := first.keeps.trans second.keeps
  started := second.started ∘ first.started
  gone := second.gone ∘ first.gone

theorem Leads.of_passes (passes : Passes earlier later)
    (publishing : later.call.publishing = earlier.call.publishing)
    (published : earlier.call.publishing = true → later.call.published = earlier.call.published)
    (listeners : later.call.listeners = earlier.call.listeners)
    (notebooks : ∀ listener, later.annals.notebook listener = earlier.annals.notebook listener) :
    Leads (fun _ => id) earlier later where
  toPasses := passes
  publishing := publishing
  published := published
  noted _ listener among := .inl ⟨listeners ▸ among, by simp [notebooks]⟩

theorem Leads.refl (dossier : Dossier) : Leads (fun _ => id) dossier dossier :=
  .of_passes (.refl _) rfl (fun _ => rfl) rfl fun _ => rfl

theorem Leads.trans_hearing (first : Leads heard earlier middle) (second : Leads more middle later)
    (told : earlier.call.publishing = true →
      ∀ listener, more listener earlier.call.published = earlier.call.published) :
    Leads (fun listener record => more listener (heard listener record)) earlier later where
  toPasses := first.toPasses.trans second.toPasses
  publishing := second.publishing.trans first.publishing
  published busy :=
    (second.published (first.publishing.trans busy)).trans (first.published busy)
  noted busy listener among := by
    have still := first.publishing.trans busy
    rcases second.noted still listener among with ⟨was, same⟩ | new
    · rcases first.noted busy listener was with ⟨there, old⟩ | new
      · refine .inl ⟨there, ?_⟩
        rw [same, old, Option.map_map]
        rfl
      · refine .inr ?_
        rw [same, new, second.published still, first.published busy, Option.map_some,
          told busy listener]
    · exact .inr new

theorem Leads.trans (first : Leads (fun _ => id) earlier middle)
    (second : Leads (fun _ => id) middle later) : Leads (fun _ => id) earlier later :=
  first.trans_hearing second fun _ _ => rfl

theorem Leads.still_noted (leads : Leads (fun _ => id) earlier later)
    (busy : earlier.call.publishing = true) (noted : earlier.Noted) : later.Noted := by
  intro listener among
  rcases leads.noted busy listener among with ⟨was, same⟩ | new
  · rw [same, noted listener was, leads.published busy]
    rfl
  · exact new

theorem Leads.telling (dossier : Dossier) (event : ConnectionEvent) :
    Leads (fun _ => id) dossier (dossier.telling event) :=
  .of_passes ⟨.refl _, id, id⟩ rfl (fun _ => rfl) rfl fun _ => rfl

theorem Leads.keepsLifecycle (dossier : Dossier) {change : Connection → Connection}
    (keepsLifecycle : Connection.KeepsLifecycle change) :
      Leads (fun _ => id) dossier (dossier.revise change) := by
  have lifecycle := keepsLifecycle.lifecycle dossier.call
  simp only [Connection.lifecycle, Prod.mk.injEq] at lifecycle
  obtain ⟨ended, started, gone, published, publishing, -, -⟩ := lifecycle
  exact .of_passes ⟨⟨fun shown => published ▸ shown, fun given => ended ▸ given⟩,
    fun begun => started ▸ begun, fun dead => gone ▸ dead⟩ publishing (fun _ => published)
    (keepsLifecycle.listeners _) fun _ => rfl

theorem EndToldOnce.trans (first : earlier.EndToldOnce middle) (second : middle.EndToldOnce later)
    (passes : Passes earlier middle) : earlier.EndToldOnce later :=
  fun begun => (second (passes.started begun)).trans (first begun)

theorem Settles.refl (dossier : Dossier) : Settles dossier dossier := ⟨fun _ => rfl, id, id⟩

theorem Settles.trans (first : Settles earlier middle) (second : Settles middle later)
    (passes : Passes earlier middle) : Settles earlier later where
  endToldOnce := first.endToldOnce.trans second.endToldOnce passes
  done := second.done ∘ first.done
  fresh := second.fresh ∘ first.fresh

theorem disconnections_telling (dossier : Dossier) {event : ConnectionEvent}
    (lasting : event.isDisconnected = false) :
    (dossier.telling event).annals.disconnections = dossier.annals.disconnections := by
  simp [telling, note, Moment.telling?, lasting]

theorem destructions_telling (dossier : Dossier) {event : ConnectionEvent}
    (lasting : event ≠ .destroyed) :
    (dossier.telling event).annals.destructions = dossier.annals.destructions := by
  simp [telling, note, Moment.telling?, lasting]

theorem Settles.telling {event : ConnectionEvent} (lasting : event.isDisconnected = false) :
    Settles dossier (dossier.telling event) where
  endToldOnce _ := disconnections_telling _ lasting
  done done := by
    rw [Done, disconnections_telling _ lasting]
    exact done
  fresh := id

theorem Done.keepsLifecycle (done : dossier.Done) {change : Connection → Connection}
    (keepsLifecycle : Connection.KeepsLifecycle change) : (dossier.revise change).Done := by
  have lifecycle := keepsLifecycle.lifecycle dossier.call
  simp only [Connection.lifecycle, Prod.mk.injEq] at lifecycle
  obtain ⟨-, started, gone, -⟩ := lifecycle
  rw [Done, revise, started, gone]
  exact done

theorem Settles.keepsLifecycle {change : Connection → Connection}
    (keepsLifecycle : Connection.KeepsLifecycle change)
    (fresh : dossier.call.Fresh → (change dossier.call).Fresh) :
    Settles dossier (dossier.revise change) :=
  ⟨fun _ => rfl, fun done => done.keepsLifecycle keepsLifecycle, fresh⟩

theorem Leads.hearing (dossier : Dossier) (listener : Listener) (event : ConnectionEvent) :
    Leads (fun other record => if other = listener then record.hear event else record) dossier
      (dossier.note (.heard listener event)) where
  toPasses := ⟨.refl _, id, id⟩
  publishing := rfl
  published _ := rfl
  noted _ other among := by
    refine .inl ⟨among, ?_⟩
    rw [note, Annals.notebook]
    by_cases same : other = listener
    · rw [if_pos same.symm]
      simp only [if_pos same]
    · rw [if_neg (Ne.symm same)]
      simp only [if_neg same]
      simp

theorem Leads.joining (dossier : Dossier) (listener : Listener) :
    Leads (fun _ => id) dossier ((dossier.note (.joined listener dossier.call.published)).revise
      fun call => { call with listeners := call.listeners ++ [listener] }) where
  toPasses := ⟨⟨id, id⟩, id, id⟩
  publishing := rfl
  published _ := rfl
  noted _ other among := by
    by_cases same : listener = other
    · exact .inr (if_pos same)
    · refine .inl ⟨(List.mem_append.mp among).resolve_right fun here =>
        same (List.mem_singleton.mp here).symm, ?_⟩
      rw [Option.map_id_fun, id]
      exact if_neg same

theorem Settles.joining (dossier : Dossier) (listener : Listener) :
    Settles dossier ((dossier.note (.joined listener dossier.call.published)).revise
      fun call => { call with listeners := call.listeners ++ [listener] }) :=
  ⟨fun _ => rfl, id, id⟩

theorem Leads.leaving (dossier : Dossier) (listener : Listener) :
    Leads (fun _ => id) dossier ((dossier.note (.left listener)).revise
      fun call => { call with listeners := call.listeners.filter (· != listener) }) where
  toPasses := ⟨⟨id, id⟩, id, id⟩
  publishing := rfl
  published _ := rfl
  noted _ other among := by
    refine .inl ⟨(List.mem_filter.mp among).1, ?_⟩
    rw [Option.map_id_fun, id]
    rfl

theorem Settles.leaving (dossier : Dossier) (listener : Listener) :
    Settles dossier ((dossier.note (.left listener)).revise
      fun call => { call with listeners := call.listeners.filter (· != listener) }) :=
  ⟨fun _ => rfl, id, id⟩

namespace Recorded

theorem sights_of_keeps (recorded : dossier.Recorded) {other : Connection}
    (keeps : dossier.call.Keeps other) :
    (other :: dossier.annals.sights).Pairwise fun later earlier => earlier.Keeps later := by
  refine List.pairwise_cons.mpr ⟨fun earlier among => ?_, recorded.sights.tail⟩
  exact ((List.pairwise_cons.mp recorded.sights).1 earlier among).trans keeps

theorem sights_twice (recorded : dossier.Recorded) :
    (dossier.call :: dossier.call :: dossier.annals.sights).Pairwise
      fun later earlier => earlier.Keeps later := by
  refine List.pairwise_cons.mpr ⟨fun earlier among => ?_, recorded.sights⟩
  rcases List.mem_cons.mp among with rfl | old
  · exact .refl _
  · exact (List.pairwise_cons.mp recorded.sights).1 earlier old

theorem revise (recorded : dossier.Recorded) {change : Connection → Connection}
    (keeps : dossier.call.Keeps (change dossier.call))
    (started : (change dossier.call).teardownStarted = false →
      dossier.call.teardownStarted = false)
    (gone : (change dossier.call).destroyed = dossier.call.destroyed) :
    (dossier.revise change).Recorded where
  once := recorded.once
  unstarted not := recorded.unstarted (started not)
  destroyed := by
    rw [Dossier.revise, gone]
    exact recorded.destroyed
  causes := recorded.causes
  sights := recorded.sights_of_keeps keeps

theorem of_lifecycle (recorded : dossier.Recorded) {change : Connection → Connection}
    (lifecycle : (change dossier.call).lifecycle = dossier.call.lifecycle) :
      (dossier.revise change).Recorded := by
  simp only [Connection.lifecycle, Prod.mk.injEq] at lifecycle
  obtain ⟨ended, started, gone, published, -⟩ := lifecycle
  exact recorded.revise ⟨fun shown => published ▸ shown, fun given => ended ▸ given⟩
    (fun not => started ▸ not) gone

end Recorded

theorem disconnections_noting (dossier : Dossier) {moment : Moment}
    (silent : moment.telling? = none) :
    (dossier.note moment).annals.disconnections = dossier.annals.disconnections := by
  simp [note, silent]

theorem among_noting {moment : Moment} (silent : moment.telling? = none) {event : ConnectionEvent}
    {listeners : List Listener} {teller : Connection}
    (there : .told event listeners teller ∈ (dossier.note moment).annals) :
    .told event listeners teller ∈ dossier.annals := by
  refine (List.mem_cons.mp there).resolve_left fun same => ?_
  rw [← same] at silent
  cases silent

theorem Recorded.noting (recorded : dossier.Recorded) {moment : Moment}
    (silent : moment.telling? = none) (blind : moment.sight? = none) :
    (dossier.note moment).Recorded := by
  have disconnections := disconnections_noting dossier silent
  have destructions : (dossier.note moment).annals.destructions =
      dossier.annals.destructions := by
    simp [note, silent]
  have sights : (dossier.note moment).annals.sights = dossier.annals.sights := by
    simp [note, Annals.sights, blind]
  refine ⟨?_, ?_, ?_, fun there => recorded.causes (among_noting silent there), ?_⟩
  · rw [disconnections]
    exact recorded.once
  · rw [disconnections]
    exact recorded.unstarted
  · rw [destructions]
    exact recorded.destroyed
  · rw [sights]
    exact recorded.sights

theorem Coherent.of_lifecycle (coherent : dossier.Coherent due) {change : Connection → Connection}
    (lifecycle : (change dossier.call).lifecycle = dossier.call.lifecycle) :
    (dossier.revise change).Coherent due := by
  simp only [Connection.lifecycle, Prod.mk.injEq] at lifecycle
  obtain ⟨ended, started, gone, published, publishing, republish, watched⟩ := lifecycle
  constructor <;> simp only [revise, Done, ended, started, gone, published, publishing, republish,
    watched]
  · exact coherent.watched
  · exact coherent.shown
  · exact coherent.gone
  · exact coherent.idle
  · exact coherent.done
  · exact coherent.announced

theorem Coherent.noting (coherent : dossier.Coherent due) {moment : Moment}
    (silent : moment.telling? = none) : (dossier.note moment).Coherent due := by
  refine ⟨coherent.watched, coherent.shown, coherent.gone, coherent.idle, ?_, coherent.announced⟩
  rw [Done, disconnections_noting _ silent]
  exact coherent.done

namespace InOrder

theorem weaken (order : dossier.InOrder due) : dossier.InOrder True :=
  { order with
    announced := fun ended =>
      (order.announced ended).imp_right (Or.imp_right fun _ => trivial) }

theorem of_lifecycle (order : dossier.InOrder due) {change : Connection → Connection}
    (lifecycle : (change dossier.call).lifecycle = dossier.call.lifecycle)
    (noted : dossier.call.publishing = false → (dossier.revise change).Noted)
    (single : (change dossier.call).listeners.Nodup)
    (present : ∀ listener ∈ dossier.call.listeners, dossier.call.destroyed = false →
      listener ∈ (change dossier.call).listeners) : (dossier.revise change).InOrder due := by
  refine ⟨order.toCoherent.of_lifecycle lifecycle, order.toRecorded.of_lifecycle lifecycle, ?_⟩
  simp only [Connection.lifecycle, Prod.mk.injEq] at lifecycle
  obtain ⟨-, -, gone, -, publishing, -⟩ := lifecycle
  refine ⟨?_, single, order.lists, fun stays alive => ?_, order.informed⟩
  · rw [revise, publishing]
    exact noted
  · rw [revise, gone] at alive
    exact present _ (order.present stays alive) alive

theorem keepsLifecycle (order : dossier.InOrder due) {change : Connection → Connection}
    (keepsLifecycle : Connection.KeepsLifecycle change) : (dossier.revise change).InOrder due := by
  have lifecycle := keepsLifecycle.lifecycle dossier.call
  have listeners := keepsLifecycle.listeners dossier.call
  refine order.of_lifecycle lifecycle (fun idle listener among => ?_) (listeners ▸ order.single)
    fun listener among _ => listeners ▸ among
  simp only [Connection.lifecycle, Prod.mk.injEq] at lifecycle
  obtain ⟨-, -, -, published, -⟩ := lifecycle
  rw [revise, listeners] at among
  rw [revise, published]
  exact order.noted idle listener among

theorem seen (order : dossier.InOrder due) : (dossier.note (.seen dossier.call)).InOrder due where
  toCoherent := { order.toCoherent with }
  once := order.once
  unstarted := order.unstarted
  destroyed := order.destroyed
  causes among := order.causes ((List.mem_cons.mp among).resolve_left nofun)
  sights := order.sights_twice
  noted := order.noted
  single := order.single
  lists among := order.lists ((List.mem_cons.mp among).resolve_left nofun)
  present stays alive := by
    rcases stays with ⟨among, -⟩ | old
    · exact among
    · exact order.present old alive
  informed stays among := by
    have old := (List.mem_cons.mp among).resolve_left nofun
    exact order.informed (stays.resolve_left fun new => Annals.not_open old new.2) old

theorem noting (order : dossier.InOrder due) {moment : Moment} {change : Connection → Connection}
    (silent : moment.telling? = none) (blind : moment.sight? = none)
    (lifecycle : (change dossier.call).lifecycle = dossier.call.lifecycle)
    (stays : ∀ listener, (dossier.note moment).annals.Stays listener →
      dossier.annals.Stays listener ∧
        (listener ∈ dossier.call.listeners → listener ∈ (change dossier.call).listeners) ∨
      listener ∈ (change dossier.call).listeners ∧ dossier.annals.Open)
    (noted : dossier.call.publishing = false → ((dossier.note moment).revise change).Noted)
    (single : (change dossier.call).listeners.Nodup) :
    ((dossier.note moment).revise change).InOrder due := by
  refine ⟨(order.toCoherent.noting silent).of_lifecycle lifecycle,
    (order.toRecorded.noting silent blind).of_lifecycle lifecycle, ?_⟩
  simp only [Connection.lifecycle, Prod.mk.injEq] at lifecycle
  obtain ⟨-, -, gone, -, publishing, -⟩ := lifecycle
  refine ⟨?_, single, fun there => order.lists (among_noting silent there), fun staying alive => ?_,
    fun staying there => ?_⟩
  · rw [revise, note, publishing]
    exact noted
  · rw [revise, note, gone] at alive
    exact (stays _ staying).elim (fun old => old.2 (order.present old.1 alive)) And.left
  · have before := among_noting silent there
    exact (stays _ staying).elim (fun old => order.informed old.1 before)
      fun new => absurd new.2 (Annals.not_open before)

end InOrder

theorem Attended.telling (attended : dossier.Attended) {event : ConnectionEvent}
    (lasting : event ≠ .destroyed) : (dossier.telling event).Attended where
  noted := attended.noted
  single := attended.single
  lists there := by
    rcases List.mem_cons.mp there with same | old
    · cases same
      exact attended.single
    · exact attended.lists old
  present := attended.present
  informed stays there := by
    refine attended.informed stays ((List.mem_cons.mp there).resolve_left fun same => ?_)
    cases same
    exact lasting rfl

namespace InOrder

theorem telling (order : dossier.InOrder due) {event : ConnectionEvent}
    (lasting : event.isFinal = false) : (dossier.telling event).InOrder due := by
  obtain ⟨open', whole⟩ := ConnectionEvent.isFinal_eq_false.mp lasting
  have disconnections := disconnections_telling dossier open'
  have destructions := destructions_telling dossier whole
  refine ⟨⟨order.watched, order.shown, order.gone, order.idle, ?_, order.announced⟩,
    ⟨?_, ?_, ?_, fun there => order.causes ((List.mem_cons.mp there).resolve_left fun same => ?_),
      ?_⟩, order.toAttended.telling whole⟩
  · rw [Done, disconnections]
    exact order.done
  · rw [disconnections]
    exact order.once
  · rw [disconnections]
    exact order.unstarted
  · rw [destructions]
    exact order.destroyed
  · cases same
    cases open'
  · have blind : (dossier.telling event).annals.sights = dossier.annals.sights :=
      List.filterMap_cons_none (Moment.sight?_told open')
    rw [blind]
    exact order.sights

theorem telling_end (order : dossier.InOrder due) (busy : dossier.call.publishing = true)
    (begun : dossier.call.teardownStarted = true) (untold : dossier.annals.disconnections = 0) :
    (dossier.telling (.disconnected (dossier.call.ended.getD .byRequest))).InOrder due ∧
      (dossier.telling (.disconnected (dossier.call.ended.getD .byRequest))).annals.disconnections
        = 1 := by
  have once : (dossier.telling
      (.disconnected (dossier.call.ended.getD .byRequest))).annals.disconnections = 1 := by
    simp [Dossier.telling, note, Moment.telling?, ConnectionEvent.isDisconnected, untold]
  refine ⟨⟨⟨order.watched, order.shown, order.gone, order.idle, ?_, order.announced⟩,
    ⟨Nat.le_of_eq once, ?_, ?_, fun there => ?_, order.sights_twice⟩,
    order.toAttended.telling nofun⟩, once⟩
  · intro idle
    rw [show dossier.call.publishing = false from idle] at busy
    cases busy
  · intro not
    rw [show dossier.call.teardownStarted = false from not] at begun
    cases begun
  · have lasts (info : DisconnectInfo) : ConnectionEvent.disconnected info ≠ .destroyed := nofun
    exact (destructions_telling dossier (lasts _)).trans order.destroyed
  · rcases List.mem_cons.mp there with same | old
    · cases same
      rfl
    · exact order.causes old

theorem telling_gone (order : dossier.InOrder due) (busy : dossier.call.publishing = true)
    (begun : dossier.call.teardownStarted = true) (alive : dossier.call.destroyed = false) :
    ((dossier.revise ({ · with destroyed := true })).telling .destroyed).InOrder due := by
  have disconnections := disconnections_telling
    (dossier.revise ({ · with destroyed := true }))
    (show ConnectionEvent.destroyed.isDisconnected = false from rfl)
  refine ⟨⟨order.watched, order.shown, fun _ => begun, order.idle, fun idle => ?_,
      fun _ => .inl begun⟩,
    ⟨?_, ?_, ?_, fun there => order.causes ((List.mem_cons.mp there).resolve_left nofun),
      order.sights_of_keeps ⟨id, id⟩⟩,
    ⟨order.noted, order.single, fun there => ?_, ?_, fun stays there => ?_⟩⟩
  · rw [show dossier.call.publishing = false from idle] at busy
    cases busy
  · rw [disconnections]
    exact order.once
  · rw [disconnections]
    exact order.unstarted
  · have before := order.destroyed
    rw [alive] at before
    simp [Dossier.telling, note, revise, Moment.telling?, before]
  · rcases List.mem_cons.mp there with same | old
    · cases same
      exact order.single
    · exact order.lists old
  · exact fun _ gone => by cases gone
  · rcases List.mem_cons.mp there with same | old
    · cases same
      exact order.present stays alive
    · exact order.informed stays old

theorem deserted (order : dossier.InOrder due) (gone : dossier.call.destroyed = true) :
    (dossier.revise ({ · with listeners := [] })).InOrder due := by
  refine order.of_lifecycle rfl ?_ .nil fun _ _ alive => ?_
  · exact fun _ _ among => by cases among
  · rw [gone] at alive
    cases alive

theorem begun (order : dossier.InOrder due) :
    (dossier.revise ({ · with publishing := true })).InOrder due := by
  refine ⟨⟨order.watched, order.shown, order.gone, nofun, nofun, fun ended => ?_⟩,
    order.toRecorded.revise ⟨id, id⟩ id rfl,
    ⟨nofun, order.single, order.lists, order.present, order.informed⟩⟩
  exact (order.announced ended).imp_right (Or.imp_left fun both => ⟨rfl, both.2⟩)

theorem asked (order : dossier.InOrder due) (busy : dossier.call.publishing = true) :
    (dossier.revise ({ · with republish := true })).InOrder False := by
  refine ⟨⟨order.watched, order.shown, order.gone, fun idle => ?_, order.done, fun _ => ?_⟩,
    order.toRecorded.revise ⟨id, id⟩ id rfl,
    ⟨order.noted, order.single, order.lists, order.present, order.informed⟩⟩
  · rw [show dossier.call.publishing = false from idle] at busy
    cases busy
  · exact .inr (.inl ⟨busy, rfl⟩)

theorem given (order : dossier.InOrder due) (info : DisconnectInfo)
    (open' : dossier.call.ended = none) :
    (dossier.revise ({ · with ended := some info, presented := none })).InOrder True := by
  refine ⟨⟨order.watched, order.shown, order.gone, order.idle, order.done, fun _ => ?_⟩,
    order.toRecorded.revise ⟨id, fun given => ?_⟩ id rfl,
    ⟨order.noted, order.single, order.lists, order.present, order.informed⟩⟩
  · exact .inr (.inr trivial)
  · rw [open'] at given
    cases given

/-- The end of the call begins. -/
theorem ending (order : dossier.InOrder due) (busy : dossier.call.publishing = true) :
    (dossier.revise ({ · with teardownStarted := true })).InOrder due := by
  refine ⟨⟨order.watched, fun _ => rfl, fun _ => rfl, order.idle, fun idle => ?_,
      fun _ => .inl rfl⟩, order.toRecorded.revise ⟨id, id⟩ nofun rfl,
    ⟨order.noted, order.single, order.lists, order.present, order.informed⟩⟩
  rw [show dossier.call.publishing = false from idle] at busy
  cases busy

theorem roundBegun (order : dossier.InOrder due) (done : dossier.Done)
    (alive : dossier.call.destroyed = false) : (dossier.revise Connection.seen).InOrder False := by
  have unstarted : dossier.call.teardownStarted = false := by
    refine Bool.eq_false_iff.mpr fun begun => ?_
    rw [(done begun).1] at alive
    cases alive
  have started (past : dossier.call.derived.state = .disconnected) :
      dossier.call.seen.teardownStarted = true := by
    simp [Connection.seen, Connection.roundBegun, past]
  have busy : dossier.call.seen.publishing ≠ false := by
    simp [Connection.seen, Connection.roundBegun]
  refine ⟨⟨rfl, started, fun gone => ?_, fun idle => absurd idle busy,
      fun idle => absurd idle busy, fun ended => ?_⟩,
    order.toRecorded.revise ⟨fun shown => ?_, id⟩ (fun _ => unstarted) rfl,
    ⟨fun idle => absurd idle busy, order.single, order.lists, order.present, order.informed⟩⟩
  · rw [show dossier.call.destroyed = true from gone] at alive
    cases alive
  · exact .inl (started (Connection.derived_state_of_ended ended))
  · rw [order.shown shown] at unstarted
    cases unstarted

theorem rested (order : dossier.InOrder due) (done : dossier.Done) (noted : dossier.Noted)
    (last : dossier.call.ended.isSome = true → dossier.call.teardownStarted = true) :
    (dossier.revise Connection.rested).InOrder False :=
  ⟨⟨order.watched, order.shown, order.gone, fun _ => rfl, fun _ => done,
      fun ended => .inl (last ended)⟩, order.toRecorded.revise ⟨id, id⟩ id rfl,
    ⟨fun _ => noted, order.single, order.lists, order.present, order.informed⟩⟩

theorem hearing (order : dossier.InOrder due) {event : ConnectionEvent} (listener : Listener)
    (suits : event.Suits dossier.call) : (dossier.note (.heard listener event)).InOrder due := by
  suffices whole :
      ((dossier.note (.heard listener event)).revise fun call => call).InOrder due from whole
  refine order.noting rfl rfl rfl (fun _ stays => .inl ⟨stays, id⟩) (fun idle other among => ?_)
    order.single
  have mute := suits.resolve_right fun tells => Bool.eq_false_iff.mp idle tells.1
  have noted := order.noted idle other among
  rw [revise, note, Annals.notebook]
  split
  · rw [noted, Option.map_some, mute]
  · exact noted

theorem joining (order : dossier.InOrder due) {listener : Listener}
    (new : listener ∉ dossier.call.listeners) :
    ((dossier.note (.joined listener dossier.call.published)).revise fun call =>
      { call with listeners := call.listeners ++ [listener] }).InOrder due := by
  refine order.noting rfl rfl rfl (fun other stays => ?_) (fun idle other among => ?_) ?_
  · rcases stays with ⟨rfl, opens⟩ | old
    · exact .inr ⟨List.mem_append_right _ (List.mem_singleton_self _), opens⟩
    · exact .inl ⟨old, List.mem_append_left _⟩
  · by_cases same : listener = other
    · exact if_pos same
    · have old := (List.mem_append.mp among).resolve_right fun here =>
        same (List.mem_singleton.mp here).symm
      exact (if_neg same).trans (order.noted idle other old)
  · refine List.nodup_append.mpr ⟨order.single, List.pairwise_singleton _ _, ?_⟩
    rintro other among _ here rfl
    exact new (List.mem_singleton.mp here ▸ among)

theorem leaving (order : dossier.InOrder due) (listener : Listener) :
    ((dossier.note (.left listener)).revise fun call =>
      { call with listeners := call.listeners.filter (· != listener) }).InOrder due := by
  refine order.noting rfl rfl rfl (fun other stays => .inl ⟨stays.2, fun among => ?_⟩)
    (fun idle other among => ?_) (order.single.filter _)
  · exact List.mem_filter.mpr ⟨among, bne_iff_ne.mpr stays.1.symm⟩
  · exact order.noted idle other (List.mem_filter.mp among).1

theorem created {annals : Annals} (blank : annals.Blank) (params : CallParameters) :
    InOrder False ⟨.create params, annals⟩ ∧ (⟨.create params, annals⟩ : Dossier).Done ∧
      (Connection.create params).Fresh := by
  have none {listener : Listener} : ¬ annals.Stays listener := blank.not_stays
  refine ⟨⟨⟨rfl, fun shown => ?_, nofun, fun _ => rfl, nofun, nofun⟩,
    ⟨?_, fun _ => blank.disconnections, blank.destructions, fun there => ?_, ?_⟩,
    ⟨nofun, .nil, fun there => ?_, fun stays => absurd stays none,
      fun stays => absurd stays none⟩⟩, nofun, .inr (.inl rfl)⟩
  · have opens : (Connection.create params).derived.state = .initializing := rfl
    rw [Connection.create_published, opens] at shown
    cases shown
  · rw [blank.disconnections]
    exact Nat.zero_le 1
  · have fits := (blank _ there).1
    cases fits
  · rw [blank.sights]
    exact List.pairwise_singleton _ _
  · rw [(blank _ there).2]
    exact .nil

end InOrder
end Dossier
end Switchboard
