import Switchboard.CallControl
import Switchboard.Placement

/-! Scripts for rehearsing calls without a network. A script says how one call to the world is
answered; a step is one thing that the user, the radio or the device does. Scripts are used up
from the front, so the same call can be answered differently each time. -/

namespace Switchboard.Rehearsal

/-- A scripted call first waits, and then these named steps happen before it is answered. -/
structure Timing (σ : Type) where
  delay : Option Nat := none
  during : List (String × σ) := []

structure PowerScript (σ : Type) where
  timing : Timing σ := {}
  service : Option ServiceState := some {}

structure CommandScript (σ : Type) where
  timing : Timing σ := {}
  reports : List RadioEvent := []
  error : Option RadioError := none

structure LegScript (σ : Type) where
  /-- The technology of the view counts only if it is given. -/
  technology : Option Technology := none
  view : RadioSnapshot
  commands : List (String × List (CommandScript σ)) := []

inductive DialResult (σ : Type)
  | refused (error : RadioError)
  | consumed
  | leg (script : LegScript σ)

structure DialScript (σ : Type) where
  timing : Timing σ := {}
  result : DialResult σ

structure SwitchScript (σ : Type) where
  timing : Timing σ := {}
  succeeds : Bool := true

structure SelectionScript (σ : Type) where
  timing : Timing σ := {}
  result : Except SelectionError Domain

def LegScript.viewOn {σ : Type} (script : LegScript σ) (technology : Technology) :
    RadioSnapshot :=
  { script.view with technology := script.technology.getD technology }

/-- What is done to a list of listeners that stands on its own. -/
inductive RosterAction
  | add (listener : Listener)
  | remove (listener : Listener)
  | clear
  | notify (connection : ConnectionId)
  deriving DecidableEq, Repr

inductive DeviceChange
  /-- Only these phones stay in the registry; all of them without a list. -/
  | list (phones : Option (List PhoneId))
  | setDefaults (voice data : Option PhoneId)
  | setMaxActive (calls : Nat)
  | setTty (on : Bool)
  | setAirplane (on : Bool)
  | setSatellite (on : Bool)
  | setCarrier (subscription : SubscriptionId) (config : CarrierConfig)
  deriving Repr

def DeviceChange.apply (device : Device) : DeviceChange → Device
  | .list phones => { device with listed := phones }
  | .setDefaults voice data => { device with defaultVoice := voice, defaultData := data }
  | .setMaxActive calls => { device with maxActive := calls }
  | .setTty on => { device with tty := on }
  | .setAirplane on => { device with airplane := on }
  | .setSatellite on =>
    { device with satellite := device.satellite.map fun unit => { unit with active := on } }
  | .setCarrier subscription config =>
    { device with carriers := device.carriers.set subscription config }

inductive Action (σ : Type)
  | create (params : CallParameters) (recorded : Bool)
  | incoming (phone : PhoneId) (leg : LegScript σ)
  | bind (connection : ConnectionId) (leg : LegId)
  | bindNew (connection : ConnectionId) (leg : LegScript σ)
  | unbind (connection : ConnectionId)
  | report (leg : LegId) (event : RadioEvent)
  | reportLate (leg : LegId) (event : RadioEvent)
  /-- A report from where no work can be left for later. -/
  | reportUnattended (leg : LegId) (event : RadioEvent)
  | legEvent (connection : ConnectionId) (event : RadioEvent)
  | update (connection : ConnectionId)
  | close (connection : ConnectionId)
  | presentHolding (connection : ConnectionId)
  | setDisconnected (connection : ConnectionId) (info : DisconnectInfo)
  | putExtras (connection : ConnectionId) (extras : Extras)
  | removeExtras (connection : ConnectionId) (keys : List String)
  | setRttStream (connection : ConnectionId) (stream : Option String)
  | setHoldAllowed (connection : ConnectionId) (allowed : Bool)
  | setConference (connection : ConnectionId) (conference : Option ConferenceId)
  | reassign (connection : ConnectionId) (phone : PhoneId)
      (subscription : Option SubscriptionId) (technology : Technology) (carrier : CarrierConfig)
  | setRedialEnabled (connection : ConnectionId) (enabled : Bool)
  | setSelectionActive (connection : ConnectionId) (active : Bool)
  | addListener (connection : ConnectionId) (listener : Listener)
  | removeListener (connection : ConnectionId) (listener : Listener)
  | carrierOf (connection : ConnectionId)
  | roster (name : String) (action : RosterAction)
  | track (entity : Holdable)
  | untrack (entity : Holdable)
  | isTracked (entity : Holdable)
  | passVerdicts
  | recalculate (connections : List ConnectionId)
  | aggregate (technology : Technology) (connections : List ConnectionId)
  | findConference (conference : ConferenceId)
  | conferenceOf (connection : ConnectionId) (conference : ConferenceId)
  | isMember (conference : ConferenceId) (connection : ConnectionId)
  | isKnown (connection : ConnectionId)
  | settings
  | setService (slot : Slot) (service : ServiceState)
  | changeDevice (change : DeviceChange)
  | scriptPower (slot : Slot) (script : PowerScript σ)
  | scriptDial (slot : Slot) (script : DialScript σ)
  | scriptDataSwitch (script : SwitchScript σ)
  | scriptSelection (script : SelectionScript σ)
  | scriptReselection (script : SelectionScript σ)
  | scriptCommand (leg : LegId) (word : String) (script : CommandScript σ)

inductive Step
  | atOnce (action : Action Step)
  | place (request : CallRequest)
  | accept (connection : ConnectionId) (video : VideoState)
  | reject (connection : ConnectionId)
  | hangup (connection : ConnectionId)
  | hold (connection : ConnectionId)
  | unhold (connection : ConnectionId)
  | holdConference (conference : ConferenceId)
  | unholdConference (conference : ConferenceId)
  | disconnectConference (conference : ConferenceId)
  | redial (connection : ConnectionId) (failed : PhoneId) (permanent : Bool)
  | answerDirectly (connection : ConnectionId) (video : VideoState)
  | rejectDirectly (connection : ConnectionId)
  | hangupDirectly (connection : ConnectionId) (cause : DisconnectCause)
  | command (connection : ConnectionId) (command : RadioCommand)
  | holdMembers (conference : ConferenceId)
  | unholdMembers (conference : ConferenceId)
  | disconnectMembers (conference : ConferenceId)
  | waitForState (connection : ConnectionId) (states : List CallState) (limit : Nat)
  | waitForService (connection : ConnectionId) (slot : Slot) (emergency : Bool) (limit : Nat)
  | sleep (milliseconds : Nat)
  | start (step : Step)

/-- What a step has come to. -/
inductive Outcome
  | nothing
  | skipped
  | done
  | refused (error : CallError)
  | called (connection : ConnectionId)
  | ended (info : DisconnectInfo)
  | created (connection : ConnectionId)
  | verdict (holds : Bool)
  | settings (settings : Settings)
  | carrier (config : CarrierConfig)
  | conference (found : Option ConferenceId)
  | membership (conference : Option ConferenceId) (found : Bool)
  | contains (isMember : Bool) (members : Nat)
  | changes (changes : List ConferenceChange)
  | aggregated (change : Option ConferenceChange) (technology : Technology)
      (conference : Option ConferenceId)
  | roster (result : Option Bool) (length : Nat)
  | waited (outcome : WaitOutcome)
  | started (errand : Nat)
  deriving Repr

def Outcome.ofAnswer : Except CallError Unit → Outcome
  | .ok () => .done
  | .error error => .refused error

end Switchboard.Rehearsal
