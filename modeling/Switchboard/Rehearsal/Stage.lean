import Switchboard.Exchange
import Switchboard.Rehearsal.Script

/-! The stage of a rehearsal: the scripts that are left, the observers, and what the audience
knows. The audience learns of a connection at set moments, when a recorder is attached to it; a
connection that is gone by then stays unknown to it. -/

namespace Switchboard.Rehearsal

structure Observer where
  name : String
  matching : ConnectionId → ConnectionEvent → Bool
  actions : List (Action Step)
  times : Nat := 1

inductive Remark
  | observed (name : String)
  | during (name : String) (outcome : Outcome)
  deriving Repr

structure Stage where
  /-- An exchange owns the connections; else they are on their own. -/
  hasExchange : Bool := true
  connections : List ConnectionId := []
  conferences : List ConferenceId := []
  power : List (Slot × PowerScript Step) := []
  dials : List (Slot × DialScript Step) := []
  dataSwitches : List (SwitchScript Step) := []
  satelliteExits : List (SwitchScript Step) := []
  selections : List (SelectionScript Step) := []
  reselections : List (SelectionScript Step) := []
  commands : List ((LegId × String) × CommandScript Step) := []
  observers : List Observer := []
  rosters : List (String × List Listener) := []
  remarks : List Remark := []
  errands : List Step := []
  outcome : Outcome := .nothing
  finished : List (Nat × Outcome) := []

abbrev World := System Stage
abbrev Doing := Act Stage

/-- The first script under a key, and the scripts that are left. -/
def takeScript {κ α : Type} [BEq κ] (key : κ) (scripts : List (κ × α)) :
    Option α × List (κ × α) :=
  (scripts.lookup key, scripts.eraseP fun entry => key == entry.1)

inductive Subject
  | connection (id : ConnectionId)
  | conference (id : ConferenceId)
  | leg (id : LegId)
  deriving DecidableEq, Repr

def Subject.ofHoldable : Holdable → Subject
  | .connection id => .connection id
  | .conference id => .conference id

def isKnown (world : World) : Subject → Bool
  | .connection id => world.outside.connections.contains id
  | .conference id => world.outside.conferences.contains id
  | .leg id => id.serial < world.legs.length

def settleConnection (world : World) : ConnectionId → ConnectionId
  | .issued serial => if serial < world.connections.length then .issued serial else .outsider serial
  | .outsider value => .outsider value

def settleConference (world : World) : ConferenceId → ConferenceId
  | .formed serial => if serial < world.conferences.length then .formed serial else .outsider serial
  | .outsider value => .outsider value

def settleHoldable (world : World) : Holdable → Holdable
  | .connection id => .connection (settleConnection world id)
  | .conference id => .conference (settleConference world id)

def subjects : Action Step → List Subject
  | .bind connection leg => [.connection connection, .leg leg]
  | .report leg _ | .reportLate leg _ | .reportUnattended leg _ | .scriptCommand leg _ _ =>
    [.leg leg]
  | .bindNew connection _ | .unbind connection | .legEvent connection _ | .update connection
  | .close connection | .presentHolding connection | .setDisconnected connection _
  | .putExtras connection _ | .removeExtras connection _ | .setRttStream connection _
  | .setHoldAllowed connection _ | .setConference connection _ | .reassign connection _ _ _ _
  | .setRedialEnabled connection _ | .setSelectionActive connection _
  | .addListener connection _ | .removeListener connection _ | .carrierOf connection
  | .roster _ (.notify connection) => [.connection connection]
  | .track entity => [.ofHoldable entity]
  | .recalculate connections | .aggregate _ connections => connections.map .connection
  | .isMember conference connection => [.conference conference, .connection connection]
  | .findConference _ | .conferenceOf _ _ | .create _ _ | .incoming _ _ | .roster _ _
  | .untrack _ | .isTracked _ | .passVerdicts | .isKnown _ | .settings
  | .setService _ _ | .changeDevice _ | .scriptPower _ _ | .scriptDial _ _ | .scriptDataSwitch _
  | .scriptSelection _ | .scriptReselection _ => []

namespace Doing

def remark (remark : Remark) : Doing Unit := do
  let number := (← get).outside.remarks.length
  Act.reviseOutside fun stage => { stage with remarks := stage.remarks ++ [remark] }
  Act.write (.noted number)

/-- Makes the connection known, with a recorder at the end of its listeners. -/
def introduce (id : ConnectionId) : Doing Unit := do
  let _ ← Act.addListener id .recorder
  Act.reviseOutside fun stage => { stage with connections := stage.connections ++ [id] }

def meet : Doing Unit := do
  let world ← get
  (world.registry.connections.filter (!world.outside.connections.contains ·)).forM introduce

def meetConferences : Doing Unit :=
  modify fun world =>
    let current := world.currentConferences ++ world.standalone.all
    let fresh := current.filter (!world.outside.conferences.contains ·)
    { world with
      outside := { world.outside with conferences := world.outside.conferences ++ fresh } }

def bringService (slot : Slot) (service : ServiceState) : Doing Unit := do
  Act.reviseDevice (·.setService slot service)
  Act.signal (.changed (.serviceOf slot))

def stageLeg (script : LegScript Step) (technology : Technology) : Doing LegId := do
  let leg ← Act.createLeg (script.viewOn technology)
  let scripts := script.commands.flatMap fun entry =>
    entry.2.map fun command => ((leg, entry.1), command)
  Act.reviseOutside fun stage => { stage with commands := stage.commands ++ scripts }
  return leg

def rosterNamed (name : String) : Doing (List Listener) :=
  return ((← get).outside.rosters.lookup name).getD []

def setRoster (name : String) (listeners : List Listener) : Doing Unit :=
  Act.reviseOutside fun stage => { stage with rosters := (name, listeners) :: stage.rosters }

def onRoster (name : String) (action : RosterAction) : Doing Outcome := do
  let listeners ← rosterNamed name
  let result ← (match action with
    | .add listener => do
      let fresh := !listeners.contains listener
      if fresh then setRoster name (listeners ++ [listener])
      return some fresh
    | .remove listener => do
      setRoster name (listeners.filter (· != listener))
      return some (listeners.contains listener)
    | .clear => do
      setRoster name []
      return none
    | .notify connection => do
      Act.tell listeners connection .destroyed
      return none)
  return .roster result (← rosterNamed name).length

def perform : Action Step → Doing Outcome
  | .create params recorded => do
    let id ← Act.create params
    if recorded then introduce id
    else Act.reviseOutside fun stage => { stage with connections := stage.connections ++ [id] }
    return .created id
  | .incoming phone script => do
    let device := (← get).device
    let technology := ((device.phones.find? (·.id == phone)).map (·.technology)).getD .ims
    let leg ← stageLeg script technology
    let answer ← Act.incoming phone leg
    meet
    match answer with
    | .ok id => return .called id
    | .error error => return .refused error
  | .bind connection leg => do
    Act.bind connection leg
    return .nothing
  | .bindNew connection script => do
    Act.bind connection (← stageLeg script .ims)
    return .nothing
  | .unbind connection => do
    Act.unbind connection
    return .nothing
  | .report leg event => do
    Act.report leg event
    return .nothing
  | .reportLate leg event =>
    return .verdict (← Act.reportLate leg event)
  | .reportUnattended leg event => do
    modify ({ · with attended := false })
    Act.report leg event
    modify ({ · with attended := true })
    return .nothing
  | .legEvent connection event => do
    Act.currentLegEvent connection event
    return .nothing
  | .update connection => do
    Act.update connection
    return .nothing
  | .close connection => do
    Act.close connection
    return .nothing
  | .presentHolding connection => do
    Act.presentHolding connection
    return .nothing
  | .setDisconnected connection info => do
    Act.setDisconnected connection info
    return .nothing
  | .putExtras connection extras => do
    Act.putExtras connection extras
    return .nothing
  | .removeExtras connection keys => do
    Act.removeExtras connection keys
    return .nothing
  | .setRttStream connection stream => do
    Act.setRttStream connection stream
    return .nothing
  | .setHoldAllowed connection allowed => do
    Act.setHoldAllowed connection allowed
    return .nothing
  | .setConference connection conference => do
    Act.setConference connection conference
    return .nothing
  | .reassign connection phone subscription technology carrier => do
    Act.reassign connection phone subscription technology carrier
    return .nothing
  | .setRedialEnabled connection enabled => do
    Act.setRedialEnabled connection enabled
    return .nothing
  | .setSelectionActive connection active => do
    Act.setSelectionActive connection active
    return .nothing
  | .addListener connection listener =>
    return .verdict (← Act.addListener connection listener)
  | .removeListener connection listener =>
    return .verdict (← Act.removeListener connection listener)
  | .carrierOf connection =>
    return .carrier (← Act.look connection).carrier
  | .roster name action => onRoster name action
  | .track entity => do
    Act.track entity
    return .nothing
  | .untrack entity => do
    Act.untrack (settleHoldable (← get) entity)
    return .nothing
  | .isTracked entity => do
    let world ← get
    return .verdict (world.tracked.contains (settleHoldable world entity))
  | .passVerdicts => do
    Act.passVerdicts
    return .nothing
  | .recalculate connections =>
    return .changes (← Act.aggregateAll connections)
  | .aggregate technology connections => do
    let change ← Act.aggregate .standalone technology connections
    return .aggregated change technology ((← get).standalone.get technology)
  | .findConference conference => do
    let world ← get
    return .conference (world.currentConference? (settleConference world conference))
  | .conferenceOf connection conference => do
    let world ← get
    return .membership (world.conferenceOf? (settleConnection world connection))
      (world.currentConference? (settleConference world conference)).isSome
  | .isMember conference connection => do
    let members := ((← get).conference conference).members
    return .contains (members.contains connection) members.length
  | .isKnown connection => do
    let world ← get
    return .verdict (world.isRegistered (settleConnection world connection))
  | .settings =>
    return .settings (← get).settings
  | .setService slot service => do
    bringService slot service
    return .nothing
  | .changeDevice change => do
    Act.reviseDevice change.apply
    return .nothing
  | .scriptPower slot script => do
    Act.reviseOutside fun stage => { stage with power := stage.power ++ [(slot, script)] }
    return .nothing
  | .scriptDial slot script => do
    Act.reviseOutside fun stage => { stage with dials := stage.dials ++ [(slot, script)] }
    return .nothing
  | .scriptDataSwitch script => do
    Act.reviseOutside fun stage => { stage with dataSwitches := stage.dataSwitches ++ [script] }
    return .nothing
  | .scriptSelection script => do
    Act.reviseOutside fun stage => { stage with selections := stage.selections ++ [script] }
    return .nothing
  | .scriptReselection script => do
    Act.reviseOutside fun stage => { stage with reselections := stage.reselections ++ [script] }
    return .nothing
  | .scriptCommand leg word script => do
    Act.reviseOutside fun stage =>
      { stage with commands := stage.commands ++ [((leg, word), script)] }
    return .nothing

def act (action : Action Step) : Doing Outcome := do
  let world ← get
  if (subjects action).all (isKnown world) then perform action
  else return .skipped

end Doing

namespace Stage

def observer? (stage : Stage) (name : String) : Option Observer :=
  stage.observers.find? (·.name == name)

def exhaust (stage : Stage) (name : String) : Stage :=
  { stage with
    observers := stage.observers.map fun observer =>
      if observer.name == name then { observer with times := observer.times - 1 } else observer }

end Stage

namespace Doing

def hear (name : String) (id : ConnectionId) (event : ConnectionEvent) : Doing Unit := do
  if let some observer := (← get).outside.observer? name then
    if 0 < observer.times && observer.matching id event then
      Act.reviseOutside (·.exhaust name)
      remark (.observed name)
      observer.actions.forM fun action => do let _ ← act action

end Doing

def bystanders : Bystanders Stage where
  hear := Doing.hear
  bridged := Doing.meet

end Switchboard.Rehearsal
