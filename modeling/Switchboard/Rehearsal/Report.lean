import Switchboard.Rehearsal.Stage

/-! Reports: what a rehearsal shows after each step. Connections, conferences and the world are
shown as lists of fields, and a report holds the fields that are not as they were. -/

namespace Switchboard.Rehearsal

inductive ConnectionField
  | direction (value : Direction)
  | state (value : CallState)
  | watched (value : CallState)
  | phone (value : PhoneId)
  | subscription (value : Option SubscriptionId)
  | technology (value : Technology)
  | caps (value : Capabilities)
  | props (value : Properties)
  | address (value : Option String)
  | addressPresentation (value : Presentation)
  | dialed (value : Address)
  | callerName (value : Option String)
  | video (value : VideoState)
  | extras (value : Extras)
  | emergency (value : Bool)
  | testEmergency (value : Bool)
  | adhocConference (value : Bool)
  | multiparty (value : Bool)
  | conference (value : Option ConferenceId)
  | rttStream (value : Option String)
  | ended (value : Option DisconnectInfo)
  | leg (value : Option LegId)
  | awaitingRedial (value : Bool)
  | selectionActive (value : Bool)
  | destroyed (value : Bool)
  | listeners (count : Nat)
  deriving DecidableEq, Repr

def connectionFields (call : Connection) : List ConnectionField :=
  [.direction call.direction, .state call.published.state, .watched call.watched,
    .phone call.phone, .subscription call.subscription, .technology call.technology,
    .caps call.published.caps, .props call.published.props, .address call.published.address,
    .addressPresentation call.published.addressPresentation, .dialed call.dialed,
    .callerName call.published.callerName, .video call.published.video,
    .extras call.published.extras, .emergency call.isEmergency,
    .testEmergency call.testEmergency, .adhocConference call.adhocConference,
    .multiparty call.isMultiparty, .conference call.conference, .rttStream call.rttStream,
    .ended call.ended, .leg call.leg, .awaitingRedial call.awaitingRedial,
    .selectionActive call.selectionActive, .destroyed call.destroyed,
    .listeners call.listeners.length]

inductive ConferenceField
  | technology (value : Technology)
  | members (value : List ConnectionId)
  | host (value : Option ConnectionId)
  | length (value : Nat)
  | empty (value : Bool)
  | live (value : Bool)
  | state (value : CallState)
  | address (value : Option String)
  | video (value : VideoState)
  | caps (value : Capabilities)
  | holdAllowed (value : Bool)
  deriving DecidableEq, Repr

def conferenceFields (world : World) (id : ConferenceId) : List ConferenceField :=
  let conference := world.conference id
  [.technology conference.technology, .members conference.members,
    .host conference.members.head?, .length conference.members.length,
    .empty conference.members.isEmpty,
    .live (world.conferenceIsLive id), .state (world.conferenceState id),
    .address (world.conferenceAddress id), .video (world.conferenceVideo id),
    .caps (world.conferenceCapabilities id), .holdAllowed conference.holdAllowed]

inductive WorldField
  | tracker (tracked standing : Nat)
  | attached (legs : List LegId)
  | conferences (current : List ConferenceId)
  | roles (roles : EmergencyRoles)
  /-- The registered connections that are live, oldest first. -/
  | order (connections : List ConnectionId)
  | device (airplane satellite : Bool) (data : Option PhoneId)
  deriving DecidableEq, Repr

def attachedLegs (world : World) : List LegId :=
  ((List.range world.legs.length).map LegId.mk).filter fun leg => (world.leg leg).attached.isSome

def worldFields (world : World) : List WorldField :=
  let common : List WorldField :=
    [.tracker world.tracked.length world.standing, .attached (attachedLegs world),
      .conferences world.currentConferences]
  if world.outside.hasExchange then
    common ++ [.roles world.registry.roles, .order world.registry.connections,
      .device world.device.airplane world.device.satelliteActive world.device.defaultData]
  else common

inductive LogLine
  | event (connection : ConnectionId) (event : ConnectionEvent)
  | call (call : Call)
  | remark (remark : Remark)

def LogLine.ofEntry? (stage : Stage) : Entry → Option LogLine
  | .heard .recorder connection news => some (.event connection news)
  | .heard _ _ _ => none
  | .called request => some (.call request)
  | .noted number => stage.remarks[number]?.map .remark

structure Report where
  outcome : Outcome
  log : List LogLine
  notices : List Notice
  finished : List (Nat × Outcome)
  connections : List (ConnectionId × List ConnectionField)
  conferences : List (ConferenceId × List ConferenceField)
  world : List WorldField
  clock : Option Nat

structure Shown where
  connections : List (ConnectionId × List ConnectionField) := []
  conferences : List (ConferenceId × List ConferenceField) := []
  world : List WorldField := []
  clock : Option Nat := none

def changedFields {φ : Type} [BEq φ] (old new : List φ) : List φ :=
  new.filter fun field => !old.contains field

def changedSubjects {κ φ : Type} [BEq κ] [BEq φ] (old new : List (κ × List φ)) :
    List (κ × List φ) :=
  (new.map fun entry => (entry.1, changedFields ((old.lookup entry.1).getD []) entry.2)).filter
    fun entry => !entry.2.isEmpty

def Shown.ofWorld (world : World) : Shown where
  connections := world.outside.connections.map fun id =>
    (id, connectionFields (world.connection id))
  conferences := world.outside.conferences.map fun id => (id, conferenceFields world id)
  world := worldFields world
  clock := some world.clock

/-- The report on what happened since the last one. -/
def report (last : Shown) (world : World) (outcome : Outcome) : Report :=
  let now := Shown.ofWorld world
  { outcome
    log := world.journal.reverse.filterMap (LogLine.ofEntry? world.outside)
    notices := world.notices.reverse
    finished := world.outside.finished
    connections := changedSubjects last.connections now.connections
    conferences := changedSubjects last.conferences now.conferences
    world := changedFields last.world now.world
    clock := if now.clock = last.clock then none else now.clock }

def settleAccounts (world : World) : World :=
  { world with
    journal := []
    notices := []
    outside := { world.outside with remarks := [], finished := [] } }

end Switchboard.Rehearsal
