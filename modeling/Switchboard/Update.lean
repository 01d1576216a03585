import Switchboard.System

/-! Publishing. Every change of a connection ends in `update`, which publishes what changed in
rounds: an update that is wanted while listeners are being told waits for the next round, so the
last value each listener hears is the current one. The round in which a connection turns
disconnected tears it down. -/

namespace Switchboard.Act

variable {ε : Type}

def attach (leg : LegId) (bridge : Bridge) : Act ε Unit := do
  modify (·.reviseLeg leg ({ · with attached := some bridge, last := some bridge }))
  bridged

def detach (leg : LegId) : Act ε Unit :=
  modify (·.reviseLeg leg ({ · with attached := none }))

/-- Drops the leg; what is shown stays as it is. -/
def unbind (id : ConnectionId) : Act ε Unit := do
  let call ← look id
  revise id fun call => { call with generation := call.generation + 1, leg := none }
  if let some leg := call.leg then detach leg

def destroy (id : ConnectionId) : Act ε Unit := do
  unless (← look id).destroyed do
    revise id ({ · with destroyed := true })
    notify id .destroyed
    revise id ({ · with listeners := [] })

def teardown (id : ConnectionId) : Act ε Unit := do
  let call ← look id
  revise id ({ · with conference := none })
  notify id (.disconnected (call.ended.getD .byRequest))
  if call.conference.isSome then notify id (.conferenceChanged none)
  unbind id
  destroy id

def commit (id : ConnectionId) : Act ε (Option Connection.Commit) := do
  let (news, call) := (← look id).commit
  revise id fun _ => call
  return news

def showState (id : ConnectionId) (state : CallState) : Act ε Unit := do
  unless (← look id).watched == state do
    revise id ({ · with watched := state })
    signal (.changed (.stateOf id))

def publish (id : ConnectionId) : (rounds : Nat) → Act ε Unit
  | 0 => failure
  | rounds + 1 => do
    if let some news ← commit id then
      unless news.events.isEmpty do showState id news.state
      news.events.forM (notify id)
      if news.ending then teardown id
      let call ← look id
      if !call.republish || call.destroyed then
        revise id ({ · with publishing := false, republish := false })
      else
        publish id rounds

def update (id : ConnectionId) : Act ε Unit := do
  if (← look id).publishing then
    revise id ({ · with republish := true })
  else
    revise id ({ · with publishing := true })
    publish id (← rounds)

/-- The first end of a call is the one that counts. -/
def setDisconnected (id : ConnectionId) (info : DisconnectInfo) : Act ε Unit := do
  unless (← look id).ended.isSome do
    revise id ({ · with ended := some info, presented := none })
    update id

/-- Ends the call if it is live, and lets go of everything. -/
def close (id : ConnectionId) : Act ε Unit := do
  if (← look id).published.state.isLive then setDisconnected id .byRequest
  let call ← look id
  if call.ended.isSome && !call.teardownStarted && !call.destroyed then
    revise id ({ · with teardownStarted := true })
    teardown id
  else
    unbind id
    destroy id

def presentHolding (id : ConnectionId) : Act ε Unit := do
  unless (← look id).ended.isSome do
    revise id ({ · with presented := some .holding })
    update id

def putExtras (id : ConnectionId) (extras : Extras) : Act ε Unit := do
  revise id fun call => { call with localExtras := call.localExtras.overlay extras }
  update id

def removeExtras (id : ConnectionId) (keys : List String) : Act ε Unit := do
  revise id fun call => { call with localExtras := keys.foldl Extras.erase call.localExtras }
  update id

def setRttStream (id : ConnectionId) (stream : Option String) : Act ε Unit := do
  revise id ({ · with rttStream := stream })
  update id

def setRedialEnabled (id : ConnectionId) (enabled : Bool) : Act ε Unit :=
  revise id ({ · with redialEnabled := enabled })

def setSelectionActive (id : ConnectionId) (active : Bool) : Act ε Unit :=
  revise id ({ · with selectionActive := active })

/-- Moves the connection to another phone before it is dialed again. -/
def reassign (id : ConnectionId) (phone : PhoneId) (subscription : Option SubscriptionId)
    (technology : Technology) (carrier : CarrierConfig) : Act ε Unit := do
  revise id ({ · with phone, subscription, technology, carrier })
  update id

def setHoldAllowed (id : ConnectionId) (allowed : Bool) : Act ε Unit := do
  unless (← look id).holdAllowed == allowed do
    revise id ({ · with holdAllowed := allowed })
    update id

def setConference (id : ConnectionId) (conference : Option ConferenceId) : Act ε Unit := do
  unless (← look id).conference == conference do
    revise id ({ · with conference })
    notify id (.conferenceChanged conference)
    update id

def addListener (id : ConnectionId) (listener : Listener) : Act ε Bool := do
  if (← look id).listeners.contains listener then return false
  revise id fun call => { call with listeners := call.listeners ++ [listener] }
  return true

def removeListener (id : ConnectionId) (listener : Listener) : Act ε Bool := do
  let present := (← look id).listeners.contains listener
  revise id fun call => { call with listeners := call.listeners.filter (· != listener) }
  return present

end Switchboard.Act
