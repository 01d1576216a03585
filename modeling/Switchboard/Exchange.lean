import Switchboard.Aggregation
import Switchboard.Binding

/-! The exchange owns the connections: it registers them, listens to them, keeps conferences and
verdicts on holding up to date, and starts redials and reselections. `Wiring.level` closes the
circle: telling listeners of an event is a step of its own, one level down. -/

namespace Switchboard

namespace System

variable {ε : Type}

def isRegistered (system : System ε) (id : ConnectionId) : Bool :=
  system.registry.connections.contains id

def planOf? (system : System ε) (id : ConnectionId) : Option DialPlan :=
  system.registry.plans.lookup id

def liveElsewhere (system : System ε) (phone : PhoneId) (except : ConnectionId) :
    List ConnectionId :=
  system.registry.connections.filter fun id =>
    let call := system.connection id
    id != except && call.phone != phone && call.published.state.isLive

end System

namespace Act

variable {ε : Type}

/-- Brings the conferences of the exchange in line with its connections. -/
def recalculate : Act ε Unit := do
  let changes ← aggregateAll (← get).registry.connections
  changes.forM fun change => do
    match change with
    | .created conference =>
      track (.conference conference)
      announce (.conferenceCreated conference)
    | .removed conference =>
      untrack (.conference conference)
      announce (.conferenceRemoved conference)
    | .membersChanged _ => pure ()
  passVerdicts

def register (id : ConnectionId) : Act ε Unit := do
  let _ ← addListener id .exchange
  reviseRegistry fun registry => { registry with connections := registry.connections ++ [id] }
  track (.connection id)
  announce (.connectionAdded id)

/-- Starts a selection sequence; another connection's is cancelled. -/
def startSelection (id : ConnectionId) : Act ε Unit := do
  let (cancels, session) := (← get).registry.session.start id
  reviseRegistry ({ · with session })
  if cancels then write (.called .cancelSelection)

def finishSelection (id : ConnectionId) : Act ε Unit := do
  let (finishes, session) := (← get).registry.session.finish id
  reviseRegistry ({ · with session })
  if finishes then write (.called .finishSelection)

/-- Drops the redial sequence if it is the connection's. -/
def dropRetry (id : ConnectionId) : Act ε Unit :=
  reviseRegistry fun registry =>
    { registry with retry := registry.retry.filter fun retry => !retry.isFor true id }

/-- Forgets a connection that is destroyed. -/
def unregister (id : ConnectionId) : Act ε Unit := do
  if (← get).isRegistered id then
    reviseRegistry fun registry =>
      { registry with
        connections := registry.connections.filter (· != id)
        plans := registry.plans.filter (·.1 != id)
        roles := (registry.roles.release id).2 }
    dropRetry id
    if (← get).device.hasSelector then finishSelection id
    untrack (.connection id)
    recalculate
    announce (.connectionRemoved id)

/-- Leaves work for after the current step; where no work can be left, the call ends. -/
def follow (id : ConnectionId) (work : FollowUp) : Act ε Unit := do
  if (← get).attended then signal (.follow work)
  else setDisconnected id (.ofCause .unspecified)

def attend (id : ConnectionId) : ConnectionEvent → Act ε Unit
  | .stateChanged _ new => do
    if new == .active then dropRetry id
    recalculate
  | .propertiesChanged _ => recalculate
  | .conferenceChanged _ => passVerdicts
  | .redialRequested phone permanent => follow id (.redial id phone permanent)
  | .reselectionRequested cause code => follow id (.reselect id cause code)
  | .destroyed => unregister id
  | _ => pure ()

end Act

/-- What the world around does when it is told: observers act on events, and somebody may want
to know that a leg has got a bridge. -/
structure Bystanders (ε : Type) where
  hear : String → ConnectionId → ConnectionEvent → Act ε Unit
  bridged : Act ε Unit

namespace Bystanders

variable {ε : Type}

def tellOne (bystanders : Bystanders ε) (id : ConnectionId) (event : ConnectionEvent)
    (listener : Listener) : Act ε Unit := do
  Act.write (.heard listener id event)
  match listener with
  | .recorder => pure ()
  | .exchange => Act.attend id event
  | .observer name => bystanders.hear name id event

end Bystanders

/-- Listeners are told one after the other, those of the moment when the event came up. -/
def Wiring.level {ε : Type} (bystanders : Bystanders ε) : Nat → Wiring ε
  | 0 => { rounds := 0, tell := fun _ _ _ _ => none, bridged := fun _ => none }
  | rounds + 1 =>
    { rounds := rounds + 1
      tell := fun listeners id event =>
        (listeners.forM (bystanders.tellOne id event)).run (level bystanders rounds)
      bridged := fun system => bystanders.bridged.run (level bystanders rounds) system }

end Switchboard
