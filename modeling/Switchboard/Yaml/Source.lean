import Switchboard.Yaml.Node

/-! The source of a YAML document while it is read: what is left of it, and where in its line the
next character stands. -/

namespace Switchboard.Yaml

structure Source where
  rest : List Char
  column : Nat := 0
  /-- Nothing but spaces stands before the next character in its line. -/
  fresh : Bool := true
  anchors : List (String × Yaml) := []

abbrev Reading := StateT Source Option

namespace Reading

def isGap (c : Char) : Bool := c == ' ' || c == '\t'

def isBreak (c : Char) : Bool := c == '\n'

def isEdge : List Char → Bool
  | [] => true
  | c :: _ => isGap c || isBreak c

def rest : Reading (List Char) := return (← get).rest

def column : Reading Nat := return (← get).column

def isFresh : Reading Bool := return (← get).fresh

def fail {α : Type} : Reading α := failure

def step : Reading Unit := do
  let source ← get
  match source.rest with
  | [] => pure ()
  | c :: rest =>
    if isBreak c then set { source with rest, column := 0, fresh := true }
    else
      set { source with
        rest
        column := source.column + 1
        fresh := source.fresh && isGap c }

def skip : Nat → Reading Unit
  | 0 => pure ()
  | count + 1 => do
    step
    skip count

def takeRun (belongs : Char → Bool) : Reading (List Char) := do
  let taken := (← rest).takeWhile belongs
  skip taken.length
  return taken

def atMark (mark : Char) : Reading Bool := do
  let source ← get
  return source.column == 0 &&
    match source.rest with
    | a :: b :: c :: rest => a == mark && b == mark && c == mark && isEdge rest
    | _ => false

def atEnd : Reading Bool := do
  return (← rest).isEmpty || (← atMark '-') || (← atMark '.')

/-- Moves to the next character that means something, over gaps, comments and line breaks. In
front of a block no tab may stand. -/
def toNext (inBlock : Bool) : Reading Unit := do
  let rounds := (← rest).length
  go inBlock rounds
where
  go (inBlock : Bool) : Nat → Reading Unit
    | 0 => pure ()
    | rounds + 1 => do
      let gap ← takeRun isGap
      let source ← get
      match source.rest with
      | '#' :: _ =>
        if source.fresh || !gap.isEmpty then
          let _ ← takeRun (!isBreak ·)
          go inBlock rounds
        else pure ()
      | c :: _ =>
        if isBreak c then
          step
          go inBlock rounds
        else if inBlock && source.fresh && gap.contains '\t' then fail
      | [] => pure ()

def atIndicator (c : Char) : Reading Bool := do
  match ← rest with
  | first :: rest => return first == c && isEdge rest
  | [] => return false

def name : Reading String := do
  let taken ← takeRun fun c => c.isAlphanum || c == '-' || c == '_'
  if taken.isEmpty then fail
  return String.ofList taken

end Reading
end Switchboard.Yaml
