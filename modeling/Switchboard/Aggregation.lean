import Switchboard.HoldTracker

/-! Forming conferences. The connections of one technology that their legs call multiparty, and
that are connected, are one conference as soon as there are enough of them. What a conference
shows is taken from its host, the first member. -/

namespace Switchboard

/-- Where conferences are formed: for the exchange, or apart from it. -/
inductive Bench
  | desk
  | standalone
  deriving DecidableEq, Repr

namespace System

variable {ε : Type}

def slots (system : System ε) : Bench → ConferenceSlots
  | .desk => system.desk
  | .standalone => system.standalone

def setSlots (system : System ε) (bench : Bench) (slots : ConferenceSlots) : System ε :=
  match bench with
  | .desk => { system with desk := slots }
  | .standalone => { system with standalone := slots }

def mergeable (system : System ε) (technology : Technology) (id : ConnectionId) : Bool :=
  let call := system.connection id
  call.technology == technology && call.isMultiparty && call.published.state.isConnected

def conferencing : List Technology := [.ims, .cdma, .gsm]

def currentConferences (system : System ε) : List ConferenceId :=
  conferencing.filterMap system.desk.get

def currentConference? (system : System ε) (id : ConferenceId) : Option ConferenceId :=
  system.currentConferences.find? (· == id)

def conferenceOf? (system : System ε) (id : ConnectionId) : Option ConferenceId :=
  system.currentConferences.find? fun conference =>
    (system.conference conference).members.contains id

def hostOf? (system : System ε) (id : ConferenceId) : Option Connection :=
  (system.conference id).members.head?.map system.connection

def conferenceState (system : System ε) (id : ConferenceId) : CallState :=
  let states := (system.conference id).members.map fun member =>
    (system.connection member).published.state
  if states.contains .active then .active
  else if states.contains .holding then .holding
  else .disconnected

def conferenceAddress (system : System ε) (id : ConferenceId) : Option String :=
  (system.hostOf? id).bind (·.published.address)

def conferenceVideo (system : System ε) (id : ConferenceId) : VideoState :=
  ((system.hostOf? id).map (·.published.video)).getD .audioOnly

/-- The host's capabilities, with those of a single leg replaced by the conference's own. -/
def conferenceCapabilities (system : System ε) (id : ConferenceId) : Capabilities :=
  let conference := system.conference id
  match system.hostOf? id with
  | none => {}
  | some host =>
    let caps := host.published.caps
    { caps with
      hold := conference.holdAllowed && caps.supportHold
      separateFromConference := false
      disconnectFromConference := false
      mergeConference := false
      manageConference := caps.manageConference || conference.technology == .ims ||
        1 < conference.members.length }

end System

namespace Act

variable {ε : Type}

def createConference (technology : Technology) (members : List ConnectionId) :
    Act ε ConferenceId := do
  let serial := (← get).conferences.length
  modify fun system =>
    { system with conferences := system.conferences ++ [{ technology, members }] }
  return .formed serial

def setSlot (bench : Bench) (technology : Technology) (conference : Option ConferenceId) :
    Act ε Unit :=
  modify fun system =>
    system.setSlots bench ((system.slots bench).set technology conference)

/-- Members that left are told before members that joined; one that belongs elsewhere by now is
let be. -/
def spreadMembership (conference : ConferenceId) (left joined : List ConnectionId) :
    Act ε Unit := do
  left.forM fun id => do
    if (← look id).conference == some conference then setConference id none
  joined.forM fun id => setConference id (some conference)

/-- Brings the conference of one technology in line with the given connections. -/
def aggregate (bench : Bench) (technology : Technology) (connections : List ConnectionId) :
    Act ε (Option ConferenceChange) := do
  let system ← get
  let wanted := connections.filter (system.mergeable technology)
  let enough := technology.formsConference wanted.length
  match (system.slots bench).get technology with
  | none =>
    if !enough then return none
    let conference ← createConference technology wanted
    setSlot bench technology (some conference)
    spreadMembership conference [] wanted
    return some (.created conference)
  | some conference =>
    let members := (system.conference conference).members
    if !enough then
      modify (·.reviseConference conference ({ · with members := [], removed := true }))
      setSlot bench technology none
      spreadMembership conference members []
      return some (.removed conference)
    else if members == wanted then return none
    else
      modify (·.reviseConference conference ({ · with members := wanted }))
      spreadMembership conference (members.filter (!wanted.contains ·))
        (wanted.filter (!members.contains ·))
      return some (.membersChanged conference)

def aggregateAll (connections : List ConnectionId) : Act ε (List ConferenceChange) := do
  let changes ← System.conferencing.mapM fun technology => aggregate .desk technology connections
  return changes.filterMap id

end Act
end Switchboard
