import Switchboard.Proofs.Publishing

/-! Traits of steps. A trait is a property that a sequence of steps has as soon as each of them has
it. All that the exchange does is made of few kinds of steps, so it has every trait that those have:
what is published of a connection (`Trait.Publishes`), what becomes of conferences and verdicts
(`Trait.Arranges`), and what a connection does about its leg (`Trait.Heeds`). -/

namespace Switchboard

namespace Connection

def Clerical (change : Connection → Connection) : Prop :=
  ∀ call, change call = { call with
    conference := (change call).conference
    teardownStarted := (change call).teardownStarted
    publishing := (change call).publishing
    republish := (change call).republish
    watched := (change call).watched }

def Scenic (change : Connection → Connection) : Prop :=
  ∀ call, change call = { call with
    technology := (change call).technology
    view := (change call).view
    presented := (change call).presented }

theorem plain_of_commit {call : Connection} {news : Commit} (told : call.commit.1 = some news) :
    ∀ event ∈ news.events, event.isPlain = true := by
  unfold commit at told
  split at told
  · cases told
  · dsimp only at told
    split at told
    · cases told
    · cases told
      exact fun event among => (Published.plain_of_mem_changes among).1

end Connection

def System.Regroups {ε : Type} (change : System ε → System ε) : Prop :=
  ∀ system, change system = { system with
    conferences := (change system).conferences
    desk := (change system).desk
    standalone := (change system).standalone
    tracked := (change system).tracked }

/-- A property of steps that sequences of steps inherit. -/
structure Trait (ε : Type) where
  has : {α : Type} → Act ε α → Prop
  pure {α : Type} (value : α) : has (pure value)
  bind {α β : Type} {step : Act ε α} {next : α → Act ε β} : has step →
    (∀ value, has (next value)) → has (step >>= next)
  get : has get
  failure {α : Type} : has (failure : Act ε α)

namespace Trait

variable {ε β ι : Type} (trait : Trait ε)

theorem look (id : ConnectionId) : trait.has (Act.look id) :=
  trait.bind trait.get fun _ => trait.pure _

theorem forM {work : ι → Act ε PUnit} (items : List ι)
    (each : ∀ item ∈ items, trait.has (work item)) : trait.has (items.forM work) := by
  induction items with
  | nil => exact trait.pure _
  | cons item rest ih =>
    exact trait.bind (each item (by simp)) fun _ => ih fun other among =>
      each other (by simp [among])

theorem mapM {work : ι → Act ε β} (items : List ι)
    (each : ∀ item ∈ items, trait.has (work item)) : trait.has (items.mapM work) := by
  induction items with
  | nil => exact trait.pure _
  | cons item rest ih =>
    rw [List.mapM_cons]
    refine trait.bind (each item (by simp)) fun _ => trait.bind ?_ fun _ => trait.pure _
    exact ih fun other among => each other (by simp [among])

/-- The steps that publishing of a connection is made of have the trait. -/
structure Publishes (id : ConnectionId) : Prop where
  rounds : trait.has Act.rounds
  clerical {change : Connection → Connection} : Connection.Clerical change →
    trait.has (Act.revise id change)
  signal : trait.has (Act.signal (.changed (.stateOf id)))
  commit {next : Option Connection.Commit → Act ε Unit} :
    (∀ news, (∀ found, news = some found → ∀ event ∈ found.events, event.isPlain = true) →
      trait.has (next news)) → trait.has (Act.commit id >>= next)
  notify {event : ConnectionEvent} : event.isPlain = true → trait.has (Act.notify id event)
  letGo : trait.has (do Act.unbind id; Act.destroy id)

namespace Publishes

variable {trait : Trait ε} {id : ConnectionId} (publishes : trait.Publishes id)
include publishes

theorem showState (state : CallState) : trait.has (Act.showState id state) := by
  refine trait.bind (trait.look id) fun call => ?_
  split
  · exact trait.pure _
  · exact trait.bind (publishes.clerical fun _ => rfl) fun _ => publishes.signal

theorem teardown : trait.has (Act.teardown id) := by
  refine trait.bind (trait.look id) fun call => trait.bind (publishes.clerical fun _ => rfl)
    fun _ => trait.bind (publishes.notify rfl) fun _ => ?_
  split
  · exact trait.bind (publishes.notify rfl) fun _ => publishes.letGo
  · exact publishes.letGo

theorem tellCommit {news : Connection.Commit}
    (plain : ∀ event ∈ news.events, event.isPlain = true) :
    trait.has (Act.tellCommit id news) := by
  have rest : trait.has (do
      news.events.forM (Act.notify id)
      if news.ending then Act.teardown id) := by
    refine trait.bind (trait.forM _ fun event among => publishes.notify (plain event among))
      fun _ => ?_
    split
    · exact publishes.teardown
    · exact trait.pure _
  unfold Act.tellCommit
  dsimp only
  split
  · exact rest
  · exact trait.bind (publishes.showState _) fun _ => rest

theorem publish (rounds : Nat) : trait.has (Act.publish id rounds) := by
  induction rounds with
  | zero => exact trait.failure
  | succ rounds ih =>
    rw [Act.publish_succ]
    refine publishes.commit fun news plain => ?_
    cases news with
    | none => exact trait.pure _
    | some news =>
      refine trait.bind (publishes.tellCommit (plain news rfl)) fun _ =>
        trait.bind (trait.look id) fun call => ?_
      split
      · exact publishes.clerical fun _ => rfl
      · exact ih

theorem update : trait.has (Act.update id) := by
  refine trait.bind (trait.look id) fun call => ?_
  split
  · exact publishes.clerical fun _ => rfl
  · exact trait.bind (publishes.clerical fun _ => rfl) fun _ =>
      trait.bind publishes.rounds fun rounds => publishes.publish rounds

theorem change {change : Connection → Connection} (revised : trait.has (Act.revise id change)) :
    trait.has (do Act.revise id change; Act.update id) :=
  trait.bind revised fun _ => publishes.update

theorem setDisconnected {info : DisconnectInfo}
    (ended : trait.has (Act.revise id ({ · with ended := some info, presented := none }))) :
    trait.has (Act.setDisconnected id info) := by
  refine trait.bind (trait.look id) fun call => ?_
  split
  · exact trait.pure _
  · exact publishes.change ended

theorem close (disconnect : trait.has (Act.setDisconnected id .byRequest)) :
    trait.has (Act.close id) := by
  have rest : trait.has (Act.wrapUp id) := by
    refine trait.bind (trait.look id) fun call => ?_
    split
    · exact trait.bind (publishes.clerical fun _ => rfl) fun _ => publishes.teardown
    · exact publishes.letGo
  rw [Act.close_eq]
  refine trait.bind (trait.look id) fun call => ?_
  split
  · exact trait.bind disconnect fun _ => rest
  · exact rest

theorem setHoldAllowed {allowed : Bool}
    (revised : trait.has (Act.revise id ({ · with holdAllowed := allowed }))) :
    trait.has (Act.setHoldAllowed id allowed) := by
  refine trait.bind (trait.look id) fun call => ?_
  split
  · exact trait.pure _
  · exact publishes.change revised

theorem setConference (conference : Option ConferenceId) :
    trait.has (Act.setConference id conference) := by
  refine trait.bind (trait.look id) fun call => ?_
  split
  · exact trait.pure _
  · exact trait.bind (publishes.clerical fun _ => rfl) fun _ =>
      trait.bind (publishes.notify rfl) fun _ => publishes.update

end Publishes

/-- What becomes of conferences and verdicts is made of steps that have the trait. -/
structure Arranges : Prop where
  regroup {change : System ε → System ε} : System.Regroups change →
    trait.has (modify change : Act ε PUnit)
  created (conference : ConferenceId) : trait.has (Act.announce (.conferenceCreated conference))
  removed (conference : ConferenceId) : trait.has (Act.announce (.conferenceRemoved conference))
  setHoldAllowed (id : ConnectionId) (allowed : Bool) : trait.has (Act.setHoldAllowed id allowed)
  setConference (id : ConnectionId) (conference : Option ConferenceId) :
    trait.has (Act.setConference id conference)

namespace Arranges

variable {trait : Trait ε} (arranges : trait.Arranges)
include arranges

theorem reviseConference (conference : ConferenceId) (change : Conference → Conference) :
    trait.has (modify (·.reviseConference conference change) : Act ε PUnit) :=
  arranges.regroup fun _ => by cases conference <;> rfl

theorem passVerdicts : trait.has Act.passVerdicts := by
  refine trait.bind trait.get fun system => trait.forM _ fun entity _ => ?_
  cases entity with
  | connection id => exact arranges.setHoldAllowed id _
  | conference id => exact arranges.reviseConference id _

theorem track (entity : Holdable) : trait.has (Act.track entity) := by
  refine trait.bind trait.get fun system => ?_
  split
  · exact trait.pure _
  · exact trait.bind (arranges.regroup fun _ => rfl) fun _ =>
      arranges.passVerdicts

theorem untrack (entity : Holdable) : trait.has (Act.untrack entity) := by
  refine trait.bind trait.get fun system => ?_
  split
  · exact trait.bind (arranges.regroup fun _ => rfl) fun _ =>
      arranges.passVerdicts
  · exact trait.pure _

theorem spreadMembership (conference : ConferenceId) (left joined : List ConnectionId) :
    trait.has (Act.spreadMembership conference left joined) := by
  refine trait.bind (trait.forM _ fun id _ => trait.bind (trait.look id) fun call => ?_) fun _ =>
    trait.forM _ fun id _ => arranges.setConference id _
  split
  · exact arranges.setConference id _
  · exact trait.pure _

theorem aggregate (bench : Bench) (technology : Technology) (connections : List ConnectionId) :
    trait.has (Act.aggregate bench technology connections) := by
  have slot (conference : Option ConferenceId) :
      trait.has (Act.setSlot bench technology conference) :=
    arranges.regroup fun _ => by cases bench <;> rfl
  have creates (members : List ConnectionId) :
      trait.has (Act.createConference technology members) :=
    trait.bind trait.get fun _ => trait.bind (arranges.regroup fun _ =>
      rfl) fun _ => trait.pure _
  refine trait.bind trait.get fun system => ?_
  dsimp only
  split
  · split
    · exact trait.pure _
    · exact trait.bind (creates _) fun _ => trait.bind (slot _) fun _ =>
        trait.bind (arranges.spreadMembership _ _ _) fun _ => trait.pure _
  · split
    · exact trait.bind (arranges.reviseConference _ _) fun _ => trait.bind (slot _) fun _ =>
        trait.bind (arranges.spreadMembership _ _ _) fun _ => trait.pure _
    · split
      · exact trait.pure _
      · exact trait.bind (arranges.reviseConference _ _) fun _ =>
          trait.bind (arranges.spreadMembership _ _ _) fun _ => trait.pure _

theorem recalculate : trait.has Act.recalculate := by
  refine trait.bind trait.get fun system => trait.bind ?_ fun changes => ?_
  · exact trait.bind (trait.mapM _ fun technology _ => arranges.aggregate _ _ _) fun _ =>
      trait.pure _
  · refine trait.bind (trait.forM _ fun change _ => ?_) fun _ => arranges.passVerdicts
    cases change with
    | created conference =>
      exact trait.bind (arranges.track _) fun _ => arranges.created conference
    | removed conference =>
      exact trait.bind (arranges.untrack _) fun _ => arranges.removed conference
    | membersChanged conference => exact trait.pure _

end Arranges

/-- The steps that a connection takes when it hears of its leg have the trait. -/
structure Heeds (id : ConnectionId) : Prop where
  scenic {change : Connection → Connection} : Connection.Scenic change →
    trait.has (do Act.revise id change; Act.update id)
  giveUp {event : ConnectionEvent} : event.isPlain = false → trait.has (do
    Act.revise id ({ · with awaitingRedial := true })
    Act.unbind id
    Act.notify id event)
  disconnect (info : DisconnectInfo) : trait.has (Act.setDisconnected id info)

namespace Heeds

variable {trait : Trait ε}

theorem legEnded {id : ConnectionId} (heeds : trait.Heeds id) (failure : RadioFailure) (code : Int)
    (message : String) : trait.has (Act.legEnded id failure code message) := by
  refine trait.bind (trait.look id) fun call => ?_
  split
  · exact heeds.giveUp rfl
  · exact heeds.giveUp rfl
  · exact heeds.disconnect _

theorem legEvent {id : ConnectionId} (heeds : trait.Heeds id) (generation : Nat)
    (event : RadioEvent) : trait.has (Act.legEvent id generation event) := by
  refine trait.bind (trait.look id) fun call => ?_
  split
  · cases event with
    | disconnected failure code message => exact heeds.legEnded failure code message
    | stateChanged next =>
      dsimp only
      split
      · exact heeds.scenic fun _ => rfl
      · exact trait.pure _
    | _ => exact heeds.scenic fun _ => rfl
  · exact trait.pure _

theorem currentLegEvent {id : ConnectionId} (heeds : trait.Heeds id) (event : RadioEvent) :
    trait.has (Act.currentLegEvent id event) :=
  trait.bind (trait.look id) fun _ => heeds.legEvent _ event

variable (heeds : ∀ id, trait.Heeds id)
include heeds

theorem report {leg : LegId} {event : RadioEvent}
    (revised : trait.has (modify (·.reviseLeg leg fun leg =>
      { leg with view := leg.view.apply event }) : Act ε PUnit)) :
    trait.has (Act.report leg event) := by
  refine trait.bind revised fun _ => trait.bind trait.get fun system => ?_
  split
  · exact (heeds _).legEvent _ event
  · exact trait.pure _

theorem reportLate (leg : LegId) (event : RadioEvent) : trait.has (Act.reportLate leg event) := by
  refine trait.bind trait.get fun system => ?_
  split
  · exact trait.bind ((heeds _).legEvent _ event) fun _ => trait.pure _
  · exact trait.pure _

end Heeds
end Trait
end Switchboard
