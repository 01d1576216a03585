import Switchboard.Rehearsal.Stage
import Switchboard.Schedule

/-! The cast plays the world: each call is written down, takes the next script, and is answered
by it. A scripted call may contain steps, which may call the world again; `rehearse` bounds how
deep that goes. -/

namespace Switchboard.Rehearsal

abbrev Play := Program Stage

namespace Doing

def write (call : Call) : Doing Unit := do
  meet
  Act.write (.called call)

def next {α : Type} (scripts : Stage → List α) (store : List α → Stage → Stage) :
    Doing (Option α) := do
  let waiting := scripts (← get).outside
  Act.reviseOutside (store waiting.tail)
  return waiting.head?

def nextFor {κ α : Type} [BEq κ] (key : κ) (scripts : Stage → List (κ × α))
    (store : List (κ × α) → Stage → Stage) : Doing (Option α) := do
  let (script, rest) := takeScript key (scripts (← get).outside)
  Act.reviseOutside (store rest)
  return script

def nextPower (slot : Slot) : Doing (PowerScript Step) :=
  return (← nextFor slot Stage.power fun rest stage => { stage with power := rest }).getD {}

def nextDial (slot : Slot) : Doing (DialScript Step) := do
  let technology := ((← get).device.phone slot).technology
  let fresh : LegScript Step := { view := { state := .dialing, technology } }
  let script ← nextFor slot Stage.dials fun rest stage => { stage with dials := rest }
  return script.getD { result := .leg fresh }

def nextDataSwitch : Doing (SwitchScript Step) :=
  return (← next Stage.dataSwitches fun rest stage => { stage with dataSwitches := rest }).getD {}

def nextSatelliteExit : Doing (SwitchScript Step) :=
  return (← next Stage.satelliteExits
    fun rest stage => { stage with satelliteExits := rest }).getD {}

def nextSelection : Doing (SelectionScript Step) :=
  return (← next Stage.selections
    fun rest stage => { stage with selections := rest }).getD { result := .ok .packet }

def nextReselection : Doing (SelectionScript Step) :=
  return (← next Stage.reselections
    fun rest stage => { stage with reselections := rest }).getD { result := .ok .circuit }

def nextCommand (leg : LegId) (command : RadioCommand) : Doing (Option (CommandScript Step)) :=
  nextFor (leg, command.word) Stage.commands fun rest stage => { stage with commands := rest }

end Doing

section
open Program

variable (run : Step → Play Outcome)

def passTime (timing : Timing Step) : Play Unit := do
  if let some milliseconds := timing.delay then sleep milliseconds
  forEach
    (fun entry => do
      let outcome ← run entry.2
      atOnce (Doing.remark (.during entry.1 outcome)))
    timing.during

def dial (slot : Slot) (id : ConnectionId) (number : String) (args : DialArgs) :
    Play (Except RadioError (Option LegId)) := do
  let phone := (← system).device.phone slot
  atOnce (Doing.write (.dial id phone.id number args))
  let script ← atOnce (Doing.nextDial slot)
  passTime run script.timing
  match script.result with
  | .refused error => return .error error
  | .consumed => return .ok none
  | .leg leg => return .ok (some (← atOnce (Doing.stageLeg leg phone.technology)))

def power (slot : Slot) (on emergency : Bool) : Play Unit := do
  let phone := (← system).device.phone slot
  atOnce (Doing.write (.power phone.id on emergency))
  let script ← atOnce (Doing.nextPower slot)
  passTime run script.timing
  if let some service := script.service then atOnce (Doing.bringService slot service)

def leaveSatellite : Play Bool := do
  atOnce (Doing.write .leaveSatellite)
  let script ← atOnce Doing.nextSatelliteExit
  passTime run script.timing
  if script.succeeds then
    atOnce (Act.reviseDevice fun device => DeviceChange.apply device (.setSatellite false))
  return script.succeeds

def switchData (phone : PhoneId) : Play Bool := do
  atOnce (Doing.write (.switchData phone))
  let script ← atOnce Doing.nextDataSwitch
  passTime run script.timing
  if script.succeeds then
    atOnce (Act.reviseDevice fun device => { device with defaultData := some phone })
  return script.succeeds

/-- A leg without a script for the command does what is asked of it. -/
def command (leg : LegId) (command : RadioCommand) : Play (Except RadioError Unit) := do
  atOnce (Doing.write (.command leg command))
  match ← atOnce (Doing.nextCommand leg command) with
  | some script =>
    atOnce (script.reports.forM (Act.report leg))
    passTime run script.timing
    match script.error with
    | some error => return .error error
    | none => return .ok ()
  | none =>
    match command with
    | .hold => atOnce (Act.report leg (.stateChanged .holding))
    | .unhold => atOnce (Act.report leg (.stateChanged .active))
    | _ => pure ()
    return .ok ()

def cast : Collaborators Stage where
  dial := dial run
  power := power run
  airplaneOff := atOnce do
    Act.write (.called .airplaneOff)
    Act.reviseDevice ({ · with airplane := false })
  leaveSatellite := leaveSatellite run
  switchData := switchData run
  select id request := do
    atOnce (Doing.write (.select id request))
    let script ← atOnce Doing.nextSelection
    passTime run script.timing
    return script.result
  reselect id request := do
    atOnce (Doing.write (.reselect id request))
    let script ← atOnce Doing.nextReselection
    passTime run script.timing
    return script.result
  command := command run

end

def Step.subjects : Step → List Subject
  | .redial connection _ _ | .answerDirectly connection _ | .rejectDirectly connection
  | .hangupDirectly connection _ | .command connection _ | .waitForState connection _ _
  | .waitForService connection _ _ _ => [.connection connection]
  | .holdMembers conference | .unholdMembers conference | .disconnectMembers conference =>
    [.conference conference]
  | _ => []

section
open Program

variable (world : Collaborators Stage)

def onSettled (work : ConnectionId → Play (Except CallError Unit)) (id : ConnectionId) :
    Play Outcome := do
  return .ofAnswer (← work (settleConnection (← system) id))

def onSettledConference (work : ConferenceId → Play Unit) (id : ConferenceId) : Play Outcome := do
  return .ofAnswer (← onConference work (settleConference (← system) id))

def quietly (work : Play Unit) : Play Outcome := do
  work
  return .nothing

/-- The step of a user whose subjects are known. -/
def play : Step → Play Outcome
  | .atOnce action => atOnce (Doing.act action)
  | .place request => do
    let answer ← place world request
    atOnce Doing.meet
    match answer with
    | .ok id => return .called id
    | .error info => return .ended info
  | .accept id video => onSettled (acceptCall world · video) id
  | .reject id => onSettled (rejectCall world) id
  | .hangup id => onSettled (hangupCall world) id
  | .hold id => onSettled (holdCall world) id
  | .unhold id => onSettled (unholdCall world) id
  | .holdConference id => onSettledConference (holdConference world) id
  | .unholdConference id => onSettledConference (unholdConference world) id
  | .disconnectConference id => onSettledConference (disconnectConference world) id
  | .redial id failed permanent => quietly (redial world id failed permanent)
  | .answerDirectly id video => return .ofAnswer (← answer world id video)
  | .rejectDirectly id => return .ofAnswer (← reject world id)
  | .hangupDirectly id cause => quietly (hangup world id cause)
  | .command id command => quietly (attempt world id command)
  | .holdMembers id => quietly (holdConference world id)
  | .unholdMembers id => quietly (unholdConference world id)
  | .disconnectMembers id => quietly (disconnectConference world id)
  | .waitForState id states limit =>
    return .waited (← waitForState id (states.contains ·) limit)
  | .waitForService id slot emergency limit =>
    return .waited (← waitForService slot id emergency limit)
  | .sleep milliseconds => quietly (sleep milliseconds)
  | .start step => atOnce do
    let number := (← get).outside.errands.length
    Act.reviseOutside fun stage => { stage with errands := stage.errands ++ [step] }
    Act.signal (.follow (.errand number))
    return .started number

def playKnown (step : Step) : Play Outcome := do
  if step.subjects.all (isKnown (← system)) then play world step
  else return .skipped

end

def rehearse : (depth : Nat) → Step → Play Outcome
  | 0, _ => Program.atOnce failure
  | depth + 1, step => playKnown (cast (rehearse depth)) step

def followUp (depth : Nat) : FollowUp → Play Unit
  | .redial id failed permanent => Program.redial (cast (rehearse depth)) id failed permanent
  | .reselect id cause code => Program.reselect (cast (rehearse depth)) id cause code
  | .errand number => do
    if let some step := (← Program.system).outside.errands[number]? then
      let outcome ← rehearse depth step
      Program.atOnce (Act.reviseOutside fun stage =>
        { stage with finished := stage.finished ++ [(number, outcome)] })

end Switchboard.Rehearsal
