import Switchboard.Document.Reading
import Switchboard.Document.Writing
import Switchboard.Rehearsal.Run

/-! Sheets: rehearsals as documents. A sheet gives the world (its phones, books, scripts and
observers) and the steps. Steps may be inside scripts, which may be inside steps; a sheet is read
no deeper than it is. -/

namespace Switchboard.Rehearsal
open Document

def connectionAt (sheet : Document) (key : String := "c") : ConnectionId :=
  .issued (sheet.natAt key)

def conferenceAt (sheet : Document) : ConferenceId := .formed (sheet.natAt "f")

def legAt (sheet : Document) : LegId := ⟨sheet.natAt "r"⟩

def slotAt (sheet : Document) : Slot := ⟨sheet.natAt "phone"⟩

def holdableAt (sheet : Document) : Holdable :=
  if sheet.has "f" then .conference (conferenceAt sheet) else .connection (connectionAt sheet)

def listenerAt (sheet : Document) : Listener :=
  match sheet.textAt "l" with
  | "recorder" => .recorder
  | name => .observer name

def orderAt (sheet : Document) : List ConnectionId :=
  (sheet.itemsAt "order").filterMap fun item => item.nat?.map .issued

def rosterAction (sheet : Document) : RosterAction :=
  match sheet.textAt "act" with
  | "add" => .add (listenerAt sheet)
  | "remove" => .remove (listenerAt sheet)
  | "clear" => .clear
  | _ => .notify (connectionAt sheet)

def callRequest (sheet : Document) : CallRequest where
  address := sheet.textAt "addr"
  phone := (sheet.get "phone").phone?
  subscription := (sheet.get "sub").subscription?
  video := sheet.namedAt "video" .audioOnly
  rtt := sheet.flagAt "rtt"
  participants := sheet.textsAt "participants"
  extras := (sheet.get "extras").toExtras

section

variable (step : Document → Step)

def timing (sheet : Document) : Timing Step where
  delay := (sheet.get "delay_ms").nat?
  during := (sheet.itemsAt "during").map fun item => (item.textAt "do", step item)

def powerScript (sheet : Document) : PowerScript Step where
  timing := timing step sheet
  service :=
    if (sheet.get "service").isNull then none else some (sheet.get "service").toService

def commandScript (sheet : Document) : CommandScript Step where
  timing := timing step sheet
  reports := (sheet.itemsAt "emit").map toRadioEvent
  error := if (sheet.get "err").isNull then none else some (sheet.get "err").toRadioError

def legScript (state : CallState) (sheet : Document) : LegScript Step where
  technology := (sheet.get "tech").named?
  view := sheet.toView state .ims
  commands := (sheet.get "cmds").entries.map fun entry =>
    (entry.1, entry.2.items.map (commandScript step))

def dialScript (sheet : Document) : DialScript Step where
  timing := timing step sheet
  result :=
    if !(sheet.get "err").isNull then .refused (sheet.get "err").toRadioError
    else if sheet.flagAt "no_call" then .consumed
    else .leg (legScript step .dialing (sheet.get "radio"))

def switchScript (sheet : Document) : SwitchScript Step where
  timing := timing step sheet
  succeeds := sheet.flagAt "ok" true

def selectionScript (fallback : Domain) (sheet : Document) : SelectionScript Step where
  timing := timing step sheet
  result :=
    if sheet.flagAt "unavailable" then .error .unavailable
    else
      match (sheet.get "terminal").named? with
      | some cause => .error (.terminal cause)
      | none => .ok (sheet.namedAt "domain" fallback)

def connectionAction? (sheet : Document) : Option (Action Step) :=
  let c := connectionAt sheet
  let on := sheet.flagAt "on"
  match sheet.textAt "do" with
  | "new" => some (.create sheet.toCallParameters (sheet.flagAt "record" true))
  | "incoming" =>
    some (.incoming sheet.phoneAt (legScript step .ringing (sheet.get "radio")))
  | "bind" =>
    some (if sheet.has "r" then .bind c (legAt sheet)
      else .bindNew c (legScript step .dialing (sheet.get "radio")))
  | "unbind" => some (.unbind c)
  | "event" => some (.legEvent c (sheet.get "event").toRadioEvent)
  | "update" => some (.update c)
  | "close" => some (.close c)
  | "force_holding" => some (.presentHolding c)
  | "set_disconnected" => some (.setDisconnected c sheet.toDisconnectInfo)
  | "put_extras" => some (.putExtras c (sheet.get "extras").toExtras)
  | "remove_extras" => some (.removeExtras c (sheet.textsAt "keys"))
  | "set_rtt" => some (.setRttStream c (sheet.get "stream").text?)
  | "set_holdable" => some (.setHoldAllowed c on)
  | "set_conference" => some (.setConference c ((sheet.get "id").nat?.map .outsider))
  | "reassign" =>
    some (.reassign c sheet.phoneAt (sheet.get "sub").subscription? (sheet.namedAt "tech" .ims)
      (sheet.get "carrier").toCarrier)
  | "set_redial" => some (.setRedialEnabled c on)
  | "set_ds" => some (.setSelectionActive c on)
  | "add_listener" => some (.addListener c (listenerAt sheet))
  | "remove_listener" => some (.removeListener c (listenerAt sheet))
  | "carrier_of" => some (.carrierOf c)
  | "registry" => some (.roster (sheet.textAt "name") (rosterAction sheet))
  | "known" => some (.isKnown c)
  | "config" => some .settings
  | _ => none

def groupAction? (sheet : Document) : Option (Action Step) :=
  let c := connectionAt sheet
  let f := conferenceAt sheet
  match sheet.textAt "do" with
  | "tracker_add" => some (.track (holdableAt sheet))
  | "tracker_remove" => some (.untrack (holdableAt sheet))
  | "tracker_contains" => some (.isTracked (holdableAt sheet))
  | "tracker_update" => some .passVerdicts
  | "recalculate" => some (.recalculate (orderAt sheet))
  | "aggregate" => some (.aggregate (sheet.namedAt "tech" .ims) (orderAt sheet))
  | "conference_of" => some (if sheet.has "c" then .conferenceOf c f else .findConference f)
  | "conference_contains" => some (.isMember f c)
  | _ => none

def worldAction? (sheet : Document) : Option (Action Step) :=
  let on := sheet.flagAt "on"
  let leg := legAt sheet
  let event := (sheet.get "event").toRadioEvent
  let script := sheet.get "script"
  match sheet.textAt "do" with
  | "emit" => some (.report leg event)
  | "emit_stale" => some (.reportLate leg event)
  | "emit_no_runtime" => some (.reportUnattended leg event)
  | "set_service" => some (.setService (slotAt sheet) (sheet.get "service").toService)
  | "set_phones" =>
    some (.changeDevice (.list
      (if (sheet.get "ids").isNull then none
        else some ((sheet.itemsAt "ids").filterMap phone?))))
  | "set_defaults" =>
    some (.changeDevice (.setDefaults (sheet.get "voice").phone? (sheet.get "data").phone?))
  | "set_max_active" => some (.changeDevice (.setMaxActive (sheet.natAt "n")))
  | "set_tty" => some (.changeDevice (.setTty on))
  | "set_airplane" => some (.changeDevice (.setAirplane on))
  | "set_satellite" => some (.changeDevice (.setSatellite on))
  | "set_carrier" =>
    some (.changeDevice (.setCarrier ⟨sheet.intAt "sub"⟩ (sheet.get "config").toCarrier))
  | "script_dial" => some (.scriptDial (slotAt sheet) (dialScript step script))
  | "script_power" => some (.scriptPower (slotAt sheet) (powerScript step script))
  | "script_select" => some (.scriptSelection (selectionScript step .packet script))
  | "script_reselect" => some (.scriptReselection (selectionScript step .circuit script))
  | "script_dds" => some (.scriptDataSwitch (switchScript step script))
  | "script_command" =>
    some (.scriptCommand leg (sheet.textAt "cmd") (commandScript step script))
  | _ => none

def action? (sheet : Document) : Option (Action Step) :=
  connectionAction? step sheet <|> groupAction? sheet <|> worldAction? step sheet

end

def longStep? (sheet : Document) : Option Step :=
  let c := connectionAt sheet
  let f := conferenceAt sheet
  let video : VideoState := sheet.namedAt "video" .audioOnly
  let limit := sheet.natAt "limit_ms"
  match sheet.textAt "do" with
  | "place" => some (.place (callRequest sheet))
  | "accept" => some (.accept c video)
  | "reject" => some (.reject c)
  | "hangup" => some (.hangup c)
  | "hold" => some (.hold c)
  | "unhold" => some (.unhold c)
  | "hold_conference" => some (.holdConference f)
  | "unhold_conference" => some (.unholdConference f)
  | "disconnect_conference" => some (.disconnectConference f)
  | "redial" => some (.redial c sheet.phoneAt (sheet.flagAt "permanent"))
  | "c_answer" => some (.answerDirectly c video)
  | "c_reject" => some (.rejectDirectly c)
  | "c_hangup" => some (.hangupDirectly c (sheet.namedAt "cause" .byRequest))
  | "c_hold" => some (.command c .hold)
  | "c_unhold" => some (.command c .unhold)
  | "c_pull" => some (.command c .pull)
  | "c_transfer" =>
    some (.command c (.transfer (sheet.textAt "number") (sheet.flagAt "consultative")))
  | "c_deflect" => some (.command c (.deflect (sheet.textAt "number")))
  | "f_hold" => some (.holdMembers f)
  | "f_unhold" => some (.unholdMembers f)
  | "f_disconnect" => some (.disconnectMembers f)
  | "wait_state" => some (.waitForState c ((sheet.itemsAt "states").filterMap named?) limit)
  | "wait_service" => some (.waitForService c (slotAt sheet) (sheet.flagAt "emergency") limit)
  | "advance" => some (.sleep (sheet.natAt "ms"))
  | _ => none

def stepWithin : (depth : Nat) → Document → Step
  | 0, _ => .sleep 0
  | depth + 1, sheet =>
    let known := longStep? sheet <|> (action? (stepWithin depth) sheet).map Step.atOnce
    let plain := known.getD (.sleep 0)
    if sheet.flagAt "bg" then .start plain else plain

def step (sheet : Document) : Step := stepWithin sheet.depth sheet

def observer (name : String) (sheet : Document) : Observer where
  name
  matching id event :=
    let shown := ofEvent id event
    (sheet.get "on").entries.all fun entry =>
      shown.has entry.1 && (shown.get entry.1).same entry.2
  actions := (sheet.itemsAt "do").filterMap fun item =>
    match step item with
    | .atOnce action => some action
    | _ => none
  times := sheet.natAt "times" 1

def stage (hasExchange : Bool) (world : Document) : Stage :=
  let bySlot {α : Type} (key : String) (read : Document → α) : List (Slot × α) :=
    (world.itemsAt "phones").zipIdx.flatMap fun entry =>
      (entry.1.itemsAt key).map fun script => (⟨entry.2⟩, read script)
  { hasExchange
    power := bySlot "power" (powerScript step)
    dials := bySlot "dials" (dialScript step)
    dataSwitches := (world.itemsAt "dds").map (switchScript step)
    satelliteExits := (world.itemsAt "satellite_exits").map (switchScript step)
    selections := (world.itemsAt "select").map (selectionScript step .packet)
    reselections := (world.itemsAt "reselect").map (selectionScript step .circuit)
    observers := (world.get "listeners").entries.map fun entry => observer entry.1 entry.2 }

def ofSheet (hasExchange : Bool) (sheet : Document) : Except CallError Session :=
  let world := sheet.get "world"
  open? ((world.get "config").toRecord Settings.fields {}) world.toDevice (stage hasExchange world)

end Switchboard.Rehearsal
