import Switchboard.Placement
import Switchboard.Proofs.Handling

/-! The exchange in a world that may do anything at any time. A call to the world is a note in the
chronicle, and its ticket is the place of the note; what is asked goes on when somebody resumes it
after an answer has come. In between there can be operations, news from the radio, answers to other
calls, changes of the device, and time. An `Office` is a system with the tasks that wait in it, and
a run is any list of occasions. -/

namespace Switchboard

/-- What the world says to a call, if it does not give a leg. -/
inductive Reply
  | done
  | refused (error : RadioError)
  | verdict (yes : Bool)
  | domain (domain : Domain)
  | noDomain (error : SelectionError)
  deriving DecidableEq, Repr

inductive Answer
  | leg (id : LegId)
  | reply (reply : Reply)
  deriving DecidableEq, Repr

inductive Note
  | asked (call : Call)
  /-- The world gave a leg, which had this view. -/
  | granted (ticket : Nat) (leg : LegId) (view : RadioSnapshot)
  | replied (ticket : Nat) (reply : Reply)
  | taken (ticket : Nat)
  | rang (connection : ConnectionId) (leg : LegId)
  | reported (leg : LegId) (event : RadioEvent)
  deriving DecidableEq, Repr

namespace Note

def ticket? : Note → Option Nat
  | granted ticket _ _ | replied ticket _ | taken ticket => some ticket
  | _ => none

def answer? (ticket : Nat) : Note → Option Answer
  | granted other leg _ => if other = ticket then some (.leg leg) else none
  | replied other reply => if other = ticket then some (.reply reply) else none
  | _ => none

def isDialing : Note → Bool
  | asked (.dial ..) => true
  | _ => false

end Note

/-- Newest first. -/
abbrev Chronicle := List Note

namespace Chronicle

/-- The ticket was given out for the call. -/
def Asks (notes : Chronicle) (ticket : Nat) (call : Call) : Prop :=
  notes.reverse[ticket]? = some (.asked call)

instance (notes : Chronicle) (ticket : Nat) (call : Call) : Decidable (notes.Asks ticket call) :=
  inferInstanceAs (Decidable (_ = _))

def isOpen (notes : Chronicle) (ticket : Nat) : Bool :=
  match notes.reverse[ticket]? with
  | some (.asked _) => notes.all fun note => note.ticket? != some ticket
  | _ => false

def isDial (notes : Chronicle) (ticket : Nat) : Bool :=
  match notes.reverse[ticket]? with
  | some (.asked (.dial ..)) => true
  | _ => false

end Chronicle

namespace Program

def ask (call : Call) : Program Chronicle Nat :=
  .act get fun system =>
    .act (Act.reviseOutside (.asked call :: ·)) fun _ => .done system.outside.length

def expect (ticket : Nat) : Program Chronicle Answer :=
  .wait { ready := fun system => system.outside.findSome? (Note.answer? ticket) } fun
    | some answer => .act (Act.reviseOutside (.taken ticket :: ·)) fun _ => .done answer
    | none => atOnce failure

def converse (call : Call) : Program Chronicle Answer :=
  (ask call).bind expect

end Program

/-- A world whose answers come when they come. -/
def openWorld : Collaborators Chronicle where
  dial slot id number args := do
    let phone := (← Program.system).device.phone slot
    match ← Program.converse (.dial id phone.id number args) with
    | .leg leg => return .ok (some leg)
    | .reply (.refused error) => return .error error
    | .reply _ => return .ok none
  power slot on emergency := do
    let phone := (← Program.system).device.phone slot
    let _ ← Program.converse (.power phone.id on emergency)
  airplaneOff := do
    let _ ← Program.converse .airplaneOff
  leaveSatellite := do
    match ← Program.converse .leaveSatellite with
    | .reply (.verdict yes) => return yes
    | _ => return false
  switchData phone := do
    match ← Program.converse (.switchData phone) with
    | .reply (.verdict yes) => return yes
    | _ => return false
  select id request := do
    match ← Program.converse (.select id request) with
    | .reply (.domain domain) => return .ok domain
    | .reply (.noDomain error) => return .error error
    | _ => return .error .unavailable
  reselect id request := do
    match ← Program.converse (.reselect id request) with
    | .reply (.domain domain) => return .ok domain
    | .reply (.noDomain error) => return .error error
    | _ => return .error .unavailable
  command leg command := do
    match ← Program.converse (.command leg command) with
    | .reply (.refused error) => return .error error
    | _ => return .ok ()

/-- What can be asked of the exchange. -/
inductive Operation
  | place (request : CallRequest)
  | accept (id : ConnectionId) (video : VideoState)
  | reject (id : ConnectionId)
  | hangup (id : ConnectionId)
  | hold (id : ConnectionId)
  | unhold (id : ConnectionId)
  | hangupConference (id : ConferenceId)
  | holdConference (id : ConferenceId)
  | unholdConference (id : ConferenceId)

namespace Operation
open Program

def program : Operation → Program Chronicle Unit
  | place request => do
    let _ ← Program.place openWorld request
  | accept id video => do
    let _ ← acceptCall openWorld id video
  | reject id => do
    let _ ← rejectCall openWorld id
  | hangup id => do
    let _ ← hangupCall openWorld id
  | hold id => do
    let _ ← holdCall openWorld id
  | unhold id => do
    let _ ← unholdCall openWorld id
  | hangupConference id => do
    let _ ← onConference (disconnectConference openWorld) id
  | holdConference id => do
    let _ ← onConference (Program.holdConference openWorld) id
  | unholdConference id => do
    let _ ← onConference (Program.unholdConference openWorld) id

end Operation

def FollowUp.program : FollowUp → Program Chronicle Unit
  | .redial id failed permanent => Program.redial openWorld id failed permanent
  | .reselect id cause code => Program.reselect openWorld id cause code
  | .errand _ => .done ()

/-- A change of the device. Phones neither come nor go. -/
structure Alteration where
  apply : Device → Device
  phones (device : Device) : (apply device).phones.map (·.id) = device.phones.map (·.id)

/-- What can happen next. -/
inductive Occasion
  | start (operation : Operation)
  | resume (position : Nat)
  /-- A call comes in on a new leg. -/
  | ring (phone : PhoneId) (view : RadioSnapshot)
  | report (leg : LegId) (event : RadioEvent)
  | reportLate (leg : LegId) (event : RadioEvent)
  /-- A dial is answered with a new leg. -/
  | grant (ticket : Nat) (view : RadioSnapshot)
  | reply (ticket : Nat) (reply : Reply)
  | alter (change : Alteration)
  | pass (milliseconds : Nat)
  | watch (id : ConnectionId) (name : String)

namespace Occasion

/-- What happens at once; an answer that nobody waits for is lost. -/
def act : Occasion → Act Chronicle Unit
  | start _ | resume _ => pure ()
  | ring phone view => do
    let system ← get
    if (system.device.slotOf? phone).isSome then
      let leg ← Act.createLeg view
      Act.reviseOutside (.rang (.issued system.connections.length) leg :: ·)
      let _ ← Act.incoming phone leg
  | report leg event => do
    Act.reviseOutside (.reported leg event :: ·)
    Act.report leg event
  | reportLate leg event => do
    Act.reviseOutside (.reported leg event :: ·)
    let _ ← Act.reportLate leg event
  | grant ticket view => do
    let notes := (← get).outside
    if notes.isOpen ticket && notes.isDial ticket then
      let leg ← Act.createLeg view
      Act.reviseOutside (.granted ticket leg view :: ·)
  | reply ticket content => do
    if (← get).outside.isOpen ticket then Act.reviseOutside (.replied ticket content :: ·)
  | alter change => Act.reviseDevice change.apply
  | pass milliseconds => modify fun system => { system with clock := system.clock + milliseconds }
  | watch id name => do
    let _ ← Act.addListener id (.observer name)

end Occasion

structure Office : Type 1 where
  system : System Chronicle
  tasks : List (Program Chronicle Unit) := []

namespace Office

/-- Before the first occasion. -/
def opening (settings : Settings) (device : Device) : Office where
  system := { settings, device, outside := [] }

def absorb (office : Office) : Office where
  system := { office.system with signals := [] }
  tasks := office.tasks ++ office.system.works.map FollowUp.program

def resume (wiring : Wiring Chronicle) (office : Office) (position : Nat) : Option Office :=
  match office.tasks[position]? with
  | none => some office
  | some task =>
    (task.advance wiring office.system).map fun outcome =>
      { system := outcome.1, tasks := office.tasks.eraseIdx position ++ outcome.2.toList }

def step (rounds : Nat) (office : Office) (occasion : Occasion) : Option Office :=
  let wiring := Wiring.level Bystanders.silent rounds
  let after :=
    match occasion with
    | .start operation => some { office with tasks := office.tasks ++ [operation.program] }
    | .resume position => office.resume wiring position
    | _ =>
      (occasion.act wiring office.system).map fun (outcome : Unit × System Chronicle) =>
        { office with system := outcome.2 }
  after.map absorb

def run (rounds : Nat) (occasions : List Occasion) (office : Office) : Option Office :=
  occasions.foldlM (step rounds) office

/-- Nothing is in progress. -/
def isIdle (office : Office) : Bool :=
  office.tasks.isEmpty

theorem run_cons (rounds : Nat) (occasion : Occasion) (occasions : List Occasion)
    (office : Office) :
    office.run rounds (occasion :: occasions) =
      (office.step rounds occasion).bind (run rounds occasions) := rfl

theorem run_append (rounds : Nat) (earlier later : List Occasion) (office : Office) :
    office.run rounds (earlier ++ later) = (office.run rounds earlier).bind (run rounds later) :=
  List.foldlM_append

end Office
end Switchboard
