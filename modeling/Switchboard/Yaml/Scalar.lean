import Switchboard.Yaml.Source

/-! Scalars in YAML: plain, in quotes, and as blocks. A line break inside a scalar is folded: one
counts as a space, and of several the first is dropped. -/

namespace Switchboard.Yaml.Reading

def folded : Nat → List Char
  | 0 => []
  | 1 => [' ']
  | breaks + 1 => List.replicate breaks '\n'

def trimGaps (text : List Char) : List Char :=
  (text.reverse.dropWhile isGap).reverse

def skipBreaks : Reading Nat := do
  let space ← takeRun fun c => isGap c || isBreak c
  return (space.filter isBreak).length

/-! ### In quotes -/

def escapes : List (Char × Char) := [
  ('0', '\x00'), ('a', '\x07'), ('b', '\x08'), ('t', '\t'), ('\t', '\t'), ('n', '\n'),
  ('v', '\x0b'), ('f', '\x0c'), ('r', '\r'), ('e', '\x1b'), (' ', ' '), ('"', '"'), ('/', '/'),
  ('\\', '\\'), ('N', '\u0085'), ('_', '\u00a0'), ('L', '\u2028'), ('P', '\u2029')]

def escapeWidth? : Char → Option Nat
  | 'x' => some 2
  | 'u' => some 4
  | 'U' => some 8
  | _ => none

def escaped (c : Char) : Reading (List Char) := do
  if isBreak c then
    let breaks ← skipBreaks
    return List.replicate breaks '\n'
  match escapes.lookup c, escapeWidth? c with
  | some meant, _ => return [meant]
  | none, some width =>
    let digits := (← rest).take width
    let some code := if digits.length = width then Text.numeral? 16 digits else none | fail
    if !code.isValidChar then fail
    skip width
    return [Char.ofNat code]
  | none, none => fail

def quoted (quote : Char) : (rounds : Nat) → Reading (List Char)
  | 0 => fail
  | rounds + 1 => do
    let text ← takeRun fun c => c != quote && c != '\\' && !isBreak c
    match ← rest with
    | [] => fail
    | c :: _ =>
      if isBreak c then
        let breaks ← skipBreaks
        if ← atEnd then fail
        return trimGaps text ++ folded breaks ++ (← quoted quote rounds)
      step
      if c == '\\' then
        if quote == '"' then
          let next :: _ ← rest | fail
          step
          return text ++ (← escaped next) ++ (← quoted quote rounds)
        else return text ++ '\\' :: (← quoted quote rounds)
      match quote, ← rest with
      | '\'', '\'' :: _ =>
        step
        return text ++ '\'' :: (← quoted quote rounds)
      | _, _ => return text

def quotedScalar (quote : Char) : Reading Yaml := do
  step
  let text ← quoted quote ((← rest).length + 1)
  return scalar (String.ofList text) false

/-! ### Plain -/

def isFlowSign (c : Char) : Bool :=
  c == ',' || c == '[' || c == ']' || c == '{' || c == '}'

/-- The part of a line that belongs to a plain scalar: up to a colon or a comment sign that
counts, and inside a flow up to its signs. -/
def plainPart (inFlow : Bool) : List Char → List Char
  | [] => []
  | c :: rest =>
    if isBreak c then []
    else if c == ':' && isEdge rest then []
    else if inFlow && isFlowSign c then []
    else if isGap c && rest.head? == some '#' then []
    else c :: plainPart inFlow rest

def startsPlain (inFlow : Bool) : List Char → Bool
  | [] => false
  | c :: rest =>
    let signs := ",[]{}#&*!|>'\"%@\x60".toList
    if c == '-' then !isEdge rest
    else if c == '?' || c == ':' then !inFlow && !isEdge rest
    else !isGap c && !isBreak c && !signs.contains c

def plainLines (inFlow : Bool) (least : Nat) : (rounds : Nat) → Reading (List Char)
  | 0 => fail
  | rounds + 1 => do
    let part := trimGaps (plainPart inFlow (← rest))
    skip part.length
    let here ← get
    let breaks ← skipBreaks
    let stops := (← atEnd) || (← rest).head? == some '#' || (!inFlow && (← column) < least)
    if breaks = 0 || stops || (plainPart inFlow (← rest)).isEmpty then
      set here
      return part
    return part ++ folded breaks ++ (← plainLines inFlow least rounds)

def plainScalar (inFlow : Bool) (least : Nat) : Reading Yaml := do
  if !startsPlain inFlow (← rest) then fail
  let text ← plainLines inFlow least ((← rest).length + 1)
  return scalar (String.ofList text) true

/-! ### Blocks -/

inductive Chomping
  | strip
  | clip
  | keep
  deriving DecidableEq

/-- The signs behind the mark of a block: how it ends, and how far it is indented. -/
def blockHeader (signs : List Char) : Option (Chomping × Option Nat) :=
  let chomping : Chomping :=
    if signs.contains '-' then .strip else if signs.contains '+' then .keep else .clip
  match signs.filter fun c => c != '-' && c != '+' with
  | [] => if signs.length ≤ 1 then some (chomping, none) else none
  | [digit] =>
    if signs.length ≤ 2 && '1' ≤ digit && digit ≤ '9' then
      some (chomping, Text.digitValue? digit)
    else none
  | _ => none

def indentOf (line : List Char) : Nat := (line.takeWhile (· == ' ')).length

def isEmptyLine (line : List Char) : Bool := line.all (· == ' ')

def blockLines (indent : Nat) : (rounds : Nat) → Reading (List (List Char))
  | 0 => return []
  | rounds + 1 => do
    let line := (← rest).takeWhile (!isBreak ·)
    let isOver := !isEmptyLine line && indentOf line < indent
    if (← rest).isEmpty || (← atEnd) || isOver then return []
    skip (line.length + 1)
    return line.drop indent :: (← blockLines indent rounds)

def foldLines : (previous : List Char) → (breaks : Nat) → List (List Char) → List Char
  | _, _, [] => []
  | previous, breaks, line :: rest =>
    if line.isEmpty then foldLines previous (breaks + 1) rest
    else
      let startsWithGap (text : List Char) := text.head?.any isGap
      let joint :=
        if startsWithGap previous || startsWithGap line then List.replicate (breaks + 1) '\n'
        else if breaks = 0 then [' ']
        else List.replicate breaks '\n'
      joint ++ line ++ foldLines line 0 rest

def literalLines : List (List Char) → List Char
  | [] => []
  | [line] => line
  | line :: rest => line ++ '\n' :: literalLines rest

def blockText (isFolded : Bool) (chomping : Chomping) (lines : List (List Char)) : List Char :=
  let content := (lines.reverse.dropWhile List.isEmpty).reverse
  let trailing := lines.length - content.length
  let leading := content.takeWhile List.isEmpty
  let body :=
    if isFolded then
      List.replicate leading.length '\n' ++
        match content.drop leading.length with
        | [] => []
        | first :: rest => first ++ foldLines first 0 rest
    else literalLines content
  let ending := match chomping with
    | .strip => []
    | .clip => if content.isEmpty then [] else ['\n']
    | .keep => List.replicate (if content.isEmpty then trailing else trailing + 1) '\n'
  body ++ ending

def blockScalar (least : Nat) : Reading Yaml := do
  let isFolded := (← rest).head? == some '>'
  step
  let signs ← takeRun fun c => c == '-' || c == '+' || c.isDigit
  let some (chomping, explicit) := blockHeader signs | fail
  let gap ← takeRun isGap
  if (← rest).head? == some '#' && !gap.isEmpty then
    let _ ← takeRun (!isBreak ·)
  if !isEdge (← rest) then fail
  step
  let upcoming := (String.ofList (← rest)).splitOn "\n"
  let indents := (upcoming.filter fun line => !isEmptyLine line.toList).map fun line =>
    indentOf line.toList
  let indent := match explicit with
    | some extra => (least - 1) + extra
    | none => max (indents.head?.getD 0) (max least 1)
  let lines ← blockLines indent ((← rest).length + 1)
  return scalar (String.ofList (blockText isFolded chomping lines)) false

end Switchboard.Yaml.Reading
