import Switchboard.Proofs.Laws

/-! A diary of what goes on. Listeners may do anything with connections while they are told of one,
and so may anybody between steps. The diary has, newest first, what connections told to whom, whose
turn it was to hear, who came to listen or left, and how the connections looked whenever somebody
could look. The diary changes nothing: `Wiring.kept` is `Wiring.level` for all that it does not
write down. -/

namespace Switchboard

/-- What is written down about one connection. -/
inductive Moment
  /-- The connection, as somebody could see it. -/
  | seen (call : Connection)
  /-- The connection, as it is then, begins to tell these listeners of an event. -/
  | told (event : ConnectionEvent) (listeners : List Listener) (call : Connection)
  /-- It is a listener's turn to hear. -/
  | heard (listener : Listener) (event : ConnectionEvent)
  /-- Somebody new listens, to whom this has been published. -/
  | joined (listener : Listener) (start : Published)
  | left (listener : Listener)

inductive DiaryEntry
  | view (connections : List Connection)
  | item (id : ConnectionId) (moment : Moment)

/-- Newest first. -/
abbrev Diary := List DiaryEntry

/-- What there is about one connection, newest first. -/
abbrev Annals := List Moment

def DiaryEntry.about? (serial : Nat) : DiaryEntry → Option Moment
  | view connections => connections[serial]?.map .seen
  | item id moment => if id = .issued serial then some moment else none

def Diary.about (diary : Diary) (serial : Nat) : Annals :=
  diary.filterMap (·.about? serial)

def System.annals (system : System Diary) (serial : Nat) : Annals :=
  Diary.about system.outside serial

def System.withEntry (system : System Diary) (diaryEntry : DiaryEntry) : System Diary :=
  { system with outside := diaryEntry :: system.outside }

namespace Act

def enterDiary (diaryEntry : DiaryEntry) : Act Diary Unit :=
  reviseOutside (diaryEntry :: ·)

def glance : Act Diary Unit := do
  enterDiary (.view (← get).connections)

variable {wiring : Wiring Diary} {system : System Diary}

@[simp] theorem ensures_enterDiary (diaryEntry : DiaryEntry) (goal : Unit → System Diary → Prop) :
    Ensures (enterDiary diaryEntry) wiring system goal ↔ goal () (system.withEntry diaryEntry) :=
  ensures_modify _ _

@[simp] theorem ensures_glance (goal : Unit → System Diary → Prop) :
    Ensures glance wiring system goal ↔ goal () (system.withEntry (.view system.connections)) := by
  simp only [glance, ensures_bind, ensures_get, ensures_enterDiary]

end Act

def Move.record (move : Move) : Act Diary Unit := do
  Act.glance
  match move with
  | .addListener id listener =>
    let system ← get
    let call := system.connection id
    if system.Known id ∧ listener ∉ call.listeners then
      Act.enterDiary (.item id (.joined listener call.published))
  | .removeListener id listener => Act.enterDiary (.item id (.left listener))
  | _ => pure ()

/-- A move, with what is written down of it. -/
def Move.kept (move : Move) : Act Diary Unit := do
  move.record
  move.act

def Habit.kept : Habit Diary → Act Diary Unit
  | rest => pure ()
  | look next => do
    Act.glance
    (next (← get)).kept
  | make move next => do
    move.kept
    next.kept

/-- Bystanders that do what they like. -/
def Bystanders.diarists (hear : String → ConnectionId → ConnectionEvent → Habit Diary)
    (bridged : Habit Diary) : Bystanders Diary where
  hear name id event := (hear name id event).kept
  bridged := bridged.kept

def Bystanders.turn (bystanders : Bystanders Diary) (id : ConnectionId) (event : ConnectionEvent)
    (listener : Listener) : Act Diary Unit := do
  Act.glance
  Act.enterDiary (.item id (.heard listener event))
  bystanders.tellOne id event listener

def Bystanders.telling (bystanders : Bystanders Diary) (listeners : List Listener)
    (id : ConnectionId) (event : ConnectionEvent) : Act Diary Unit := do
  Act.enterDiary (.item id (.told event listeners (← Act.look id)))
  listeners.forM (bystanders.turn id event)

def Wiring.kept (bystanders : Bystanders Diary) : Nat → Wiring Diary
  | 0 => level bystanders 0
  | rounds + 1 =>
    { rounds := rounds + 1
      tell := fun listeners id event =>
        (bystanders.telling listeners id event).run (kept bystanders rounds)
      bridged := fun system => bystanders.bridged.run (kept bystanders rounds) system }

/-- Moves one after the other, with a diary. -/
def Move.keptRun (bystanders : Bystanders Diary) (rounds : Nat) (moves : List Move)
    (start : System Diary) : Option (System Diary) :=
  moves.foldlM (fun system move => (move.kept (.kept bystanders rounds) system).map (·.2)) start

theorem Move.keptRun_cons (bystanders : Bystanders Diary) (rounds : Nat) (move : Move)
    (moves : List Move) (start : System Diary) :
    keptRun bystanders rounds (move :: moves) start =
      ((move.kept (.kept bystanders rounds) start).map (·.2)).bind
        (keptRun bystanders rounds moves) := by
  simp [keptRun]
  rfl

namespace ConnectionEvent

/-- The end of a call is told of, and its cause. -/
def isDisconnected : ConnectionEvent → Bool
  | .disconnected _ => true
  | _ => false

def isFinal (event : ConnectionEvent) : Bool :=
  event.isDisconnected || event == .destroyed

def IsMute (event : ConnectionEvent) : Prop :=
  ∀ record : Published, record.hear event = record

end ConnectionEvent

namespace Moment

def telling? : Moment → Option ConnectionEvent
  | told event _ _ => some event
  | _ => none

def sight? : Moment → Option Connection
  | seen call => some call
  | told (.disconnected _) _ call => some call
  | _ => none

def toldTo? (listener : Listener) : Moment → Option ConnectionEvent
  | told event listeners _ => if listener ∈ listeners then some event else none
  | _ => none

def heardBy? (listener : Listener) : Moment → Option ConnectionEvent
  | heard other event => if other = listener then some event else none
  | _ => none

end Moment

namespace Annals

def tellings (annals : Annals) : List ConnectionEvent :=
  annals.filterMap Moment.telling?

/-- How often the end of the call was told. -/
def disconnections (annals : Annals) : Nat :=
  annals.tellings.countP ConnectionEvent.isDisconnected

def destructions (annals : Annals) : Nat :=
  annals.tellings.count .destroyed

/-- The connection as it could be seen, newest first. -/
def sights (annals : Annals) : List Connection :=
  annals.filterMap Moment.sight?

def toldTo (annals : Annals) (listener : Listener) : List ConnectionEvent :=
  annals.filterMap (·.toldTo? listener)

def heardBy (annals : Annals) (listener : Listener) : List ConnectionEvent :=
  annals.filterMap (·.heardBy? listener)

/-- The record of a listener who begins with what has been published when they come to listen, and
enters every change that they hear of. -/
def notebook (listener : Listener) : Annals → Option Published
  | [] => none
  | .joined other start :: earlier =>
    if other = listener then some start else notebook listener earlier
  | .heard other event :: earlier =>
    if other = listener then (notebook listener earlier).map (·.hear event)
    else notebook listener earlier
  | _ :: earlier => notebook listener earlier

def Open (annals : Annals) : Prop :=
  annals.disconnections = 0 ∧ annals.destructions = 0

/-- The listener was there before the end of the call was told, and did not leave. -/
def Stays (listener : Listener) : Annals → Prop
  | [] => False
  | .seen call :: earlier => listener ∈ call.listeners ∧ Open earlier ∨ Stays listener earlier
  | .joined other _ :: earlier => other = listener ∧ Open earlier ∨ Stays listener earlier
  | .left other :: earlier => other ≠ listener ∧ Stays listener earlier
  | _ :: earlier => Stays listener earlier

end Annals
end Switchboard
