import Switchboard.Conference
import Switchboard.Device
import Switchboard.DomainSelection
import Switchboard.EmergencyRoles
import Switchboard.RetryQueue
import Switchboard.Settings

/-! Everything that exists at one moment: connections, legs, conferences, the books of the
exchange, the device, and what has happened so far. `Act` is a step that changes it at once;
listeners are told within the step. `System ε` leaves room for a state `ε` of the world around.

A step may fail to finish only because listeners keep calling each other; `Wiring` bounds how
deep that goes, and a step that would go deeper has no result. -/

namespace Switchboard

/-- What is dialed for a connection, kept for later attempts. -/
structure DialPlan where
  dial : String
  video : VideoState
  emergency : Bool
  testEmergency : Bool
  routing : Option EmergencyRouting
  participants : List String
  deriving DecidableEq, Repr

structure DialArgs where
  video : VideoState := .audioOnly
  rtt : Option String := none
  extras : Extras := {}
  emergency : Bool := false
  testEmergency : Bool := false
  routing : Option EmergencyRouting := none
  domain : Option Domain := none
  participants : List String := []
  deriving DecidableEq, Repr

/-- Calls to the world around. -/
inductive Call
  | dial (connection : ConnectionId) (phone : PhoneId) (number : String) (args : DialArgs)
  | power (phone : PhoneId) (on emergency : Bool)
  | switchData (phone : PhoneId)
  | leaveSatellite
  | airplaneOff
  | select (connection : ConnectionId) (request : SelectionRequest)
  | reselect (connection : ConnectionId) (request : SelectionRequest)
  | cancelSelection
  | finishSelection
  | command (leg : LegId) (command : RadioCommand)
  deriving DecidableEq, Repr

/-- What happened: a listener was told of an event, the world was called, or the world made a
note of its own, which is known by its number. -/
inductive Entry
  | heard (listener : Listener) (connection : ConnectionId) (event : ConnectionEvent)
  | called (call : Call)
  | noted (number : Nat)
  deriving DecidableEq, Repr

inductive Notice
  | connectionAdded (connection : ConnectionId)
  | connectionRemoved (connection : ConnectionId)
  | conferenceCreated (conference : ConferenceId)
  | conferenceRemoved (conference : ConferenceId)
  deriving DecidableEq, Repr

/-- Ties a leg to the connection that follows it, as of one binding. -/
structure Bridge where
  connection : ConnectionId
  /-- The generation of the connection at the binding, which stays below 2^64. -/
  generation : Nat
  deriving DecidableEq, Repr

structure Leg where
  view : RadioSnapshot
  attached : Option Bridge := none
  /-- The bridge attached last, even if it is detached by now. -/
  last : Option Bridge := none
  deriving DecidableEq, Repr

instance : Inhabited Leg where
  default := { view := { state := .disconnected, technology := .ims } }

/-- Values that tasks can wait for. -/
inductive Channel
  | stateOf (connection : ConnectionId)
  | serviceOf (slot : Slot)
  deriving DecidableEq, Repr

/-- Work that starts on its own after the current step. -/
inductive FollowUp
  | redial (connection : ConnectionId) (failed : PhoneId) (permanent : Bool)
  | reselect (connection : ConnectionId) (cause : DisconnectCause) (code : Int)
  /-- Work of the world around, known by its number. -/
  | errand (number : Nat)
  deriving DecidableEq, Repr

inductive Signal
  | changed (channel : Channel)
  | follow (work : FollowUp)
  deriving DecidableEq, Repr

structure Registry where
  /-- Connections that are not destroyed, oldest first. -/
  connections : List ConnectionId := []
  plans : List (ConnectionId × DialPlan) := []
  roles : EmergencyRoles := {}
  retry : Option RetryQueue := none
  session : SelectionSession := {}
  deriving Repr, Inhabited

structure System (ε : Type) where
  clock : Nat := 0
  connections : List Connection := []
  legs : List Leg := []
  conferences : List Conference := []
  desk : ConferenceSlots := {}
  /-- Conferences formed apart from the exchange. -/
  standalone : ConferenceSlots := {}
  tracked : List Holdable := []
  registry : Registry := {}
  settings : Settings := {}
  device : Device := {}
  attended : Bool := true
  /-- Newest first. -/
  journal : List Entry := []
  /-- Newest first. -/
  notices : List Notice := []
  /-- Not yet seen by the schedule, oldest first. -/
  signals : List Signal := []
  outside : ε

namespace System

variable {ε : Type}

def connection (system : System ε) : ConnectionId → Connection
  | .issued serial => system.connections.getD serial .absent
  | .outsider _ => .absent

def leg (system : System ε) (id : LegId) : Leg :=
  system.legs.getD id.serial default

def conference (system : System ε) : ConferenceId → Conference
  | .formed serial => system.conferences.getD serial default
  | .outsider _ => default

def reviseConnection (system : System ε) (id : ConnectionId) (change : Connection → Connection) :
    System ε :=
  match id with
  | .issued serial => { system with connections := system.connections.modify serial change }
  | .outsider _ => system

def reviseLeg (system : System ε) (id : LegId) (change : Leg → Leg) : System ε :=
  { system with legs := system.legs.modify id.serial change }

def reviseConference (system : System ε) (id : ConferenceId) (change : Conference → Conference) :
    System ε :=
  match id with
  | .formed serial => { system with conferences := system.conferences.modify serial change }
  | .outsider _ => system

theorem connection_reviseConnection_self (system : System ε) {serial : Nat}
    (known : serial < system.connections.length) (change : Connection → Connection) :
    (system.reviseConnection (.issued serial) change).connection (.issued serial) =
      change (system.connection (.issued serial)) := by
  simp [reviseConnection, connection, List.getD_eq_getElem?_getD, known]

theorem connection_reviseConnection_ne (system : System ε) {id other : ConnectionId}
    (differ : id ≠ other) (change : Connection → Connection) :
    (system.reviseConnection id change).connection other = system.connection other := by
  cases id <;> cases other <;> simp_all [reviseConnection, connection, List.getD_eq_getElem?_getD]

end System

/-- How deep listeners may call each other, and how listeners and the world are told. -/
structure Wiring (ε : Type) where
  rounds : Nat
  tell : List Listener → ConnectionId → ConnectionEvent → StateT (System ε) Option Unit
  bridged : StateT (System ε) Option Unit

abbrev Act (ε : Type) := ReaderT (Wiring ε) (StateT (System ε) Option)

namespace Act

variable {ε : Type}

def look (id : ConnectionId) : Act ε Connection :=
  return (← get).connection id

def revise (id : ConnectionId) (change : Connection → Connection) : Act ε Unit :=
  modify (·.reviseConnection id change)

def rounds : Act ε Nat :=
  return (← read).rounds

def tell (listeners : List Listener) (id : ConnectionId) (event : ConnectionEvent) :
    Act ε Unit := do
  (← read).tell listeners id event

/-- Tells those who listen to the connection now. -/
def notify (id : ConnectionId) (event : ConnectionEvent) : Act ε Unit := do
  tell (← look id).listeners id event

def bridged : Act ε Unit := do
  (← read).bridged

def write (entry : Entry) : Act ε Unit :=
  modify fun system => { system with journal := entry :: system.journal }

def announce (notice : Notice) : Act ε Unit :=
  modify fun system => { system with notices := notice :: system.notices }

def signal (news : Signal) : Act ε Unit :=
  modify fun system => { system with signals := system.signals ++ [news] }

def reviseRegistry (change : Registry → Registry) : Act ε Unit :=
  modify fun system => { system with registry := change system.registry }

def reviseDevice (change : Device → Device) : Act ε Unit :=
  modify fun system => { system with device := change system.device }

def reviseOutside (change : ε → ε) : Act ε Unit :=
  modify fun system => { system with outside := change system.outside }

def create (params : CallParameters) : Act ε ConnectionId := do
  let serial := (← get).connections.length
  modify fun system =>
    { system with connections := system.connections ++ [Connection.create params] }
  return .issued serial

def createLeg (view : RadioSnapshot) : Act ε LegId := do
  let serial := (← get).legs.length
  modify fun system => { system with legs := system.legs ++ [{ view }] }
  return ⟨serial⟩

end Act
end Switchboard
