import Switchboard.Update

/-! Binding connections to legs. A connection follows the leg it is bound to: the leg's view
becomes the connection's, and its events are applied as long as they come from the latest
binding. A failure may ask for another attempt; then the connection gives up the leg and stays
alive. -/

namespace Switchboard

/-- What a leg's end means for its connection. -/
inductive EndOfLeg
  | redial (phone : PhoneId) (permanent : Bool)
  | reselect
  | terminal
  deriving DecidableEq, Repr

/-- Only a call that does not show as connected is tried again on another phone. -/
def Connection.endOfLeg (call : Connection) (failure : RadioFailure) : EndOfLeg :=
  if call.emergency && call.redialEnabled && failure.retryClass != .none &&
      !call.visibleState.isConnected then
    .redial call.phone (failure.retryClass == .permanent)
  else if call.selectionActive && failure.wantsOtherDomain then .reselect
  else .terminal

namespace Act

variable {ε : Type}

/-- Binds the leg in place of any other; also a leg that is bound already gets a new bridge. -/
def bind (id : ConnectionId) (leg : LegId) : Act ε Unit := do
  let view := ((← get).leg leg).view
  let call ← look id
  let generation := call.generation + 1
  revise id ({ · with
    generation
    leg := some leg
    technology := view.technology
    view := some view
    presented := none
    awaitingRedial := false })
  if let some previous := call.leg then detach previous
  attach leg { connection := id, generation }
  update id

def legEnded (id : ConnectionId) (failure : RadioFailure) (code : Int) (message : String) :
    Act ε Unit := do
  match (← look id).endOfLeg failure with
  | .redial phone permanent =>
    revise id ({ · with awaitingRedial := true })
    unbind id
    notify id (.redialRequested phone permanent)
  | .reselect =>
    revise id ({ · with awaitingRedial := true })
    unbind id
    notify id (.reselectionRequested failure.cause code)
  | .terminal =>
    let info := DisconnectInfo.ofFailure failure code
    setDisconnected id (if message.isEmpty then info else info.withReason message)

/-- An event of the leg that was bound as of `generation`. State changes that a call cannot make
are dropped. -/
def legEvent (id : ConnectionId) (generation : Nat) (event : RadioEvent) : Act ε Unit := do
  let call ← look id
  if call.generation == generation && call.leg.isSome then
    let follow (call : Connection) : Connection :=
      { call with view := call.view.map (·.apply event) }
    match event with
    | .disconnected failure code message => legEnded id failure code message
    | .stateChanged next =>
      if call.visibleState.canBecome next then
        revise id fun call => { follow call with presented := none }
        update id
    | .technologyChanged technology =>
      revise id fun call => { follow call with technology }
      update id
    | _ =>
      revise id follow
      update id

def currentLegEvent (id : ConnectionId) (event : RadioEvent) : Act ε Unit := do
  legEvent id (← look id).generation event

def report (leg : LegId) (event : RadioEvent) : Act ε Unit := do
  modify (·.reviseLeg leg fun leg => { leg with view := leg.view.apply event })
  if let some bridge := ((← get).leg leg).attached then
    legEvent bridge.connection bridge.generation event

/-- A late event through the bridge that was attached last; false if there never was one. -/
def reportLate (leg : LegId) (event : RadioEvent) : Act ε Bool := do
  match ((← get).leg leg).last with
  | some bridge =>
    legEvent bridge.connection bridge.generation event
    return true
  | none => return false

end Act
end Switchboard
