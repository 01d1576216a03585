import Switchboard.Yaml.Scalar

/-! Reading YAML. Blocks are told apart by the columns in which they stand: a mapping or a
sequence goes on as long as its next entry stands in the column of its first. -/

namespace Switchboard.Yaml.Reading

def key? (inFlow : Bool) : Reading (Option Yaml) := do
  let start ← get
  let attempt : Reading Yaml := do
    let key ←
      match start.rest.head? with
      | some '"' => quotedScalar '"'
      | some '\'' => quotedScalar '\''
      | _ =>
        if !startsPlain inFlow start.rest then fail
        let text := trimGaps (plainPart inFlow start.rest)
        skip text.length
        pure (scalar (String.ofList text) true)
    let taken := start.rest.length - (← rest).length
    if (start.rest.take taken).any isBreak then fail
    let _ ← takeRun isGap
    let ':' :: after ← rest | fail
    if !inFlow && !isEdge after then fail
    step
    return key
  match attempt start with
  | some (key, source) =>
    set source
    return some key
  | none => return none

def remember (name : String) (node : Yaml) : Reading Unit :=
  modify fun source => { source with anchors := (name, node) :: source.anchors }

def aliased (name : String) : Reading Yaml := do
  let some node := (← get).anchors.lookup name | fail
  return node

def skipTag : Reading Unit := do
  let _ ← takeRun fun c => !isGap c && !isBreak c && !isFlowSign c

/-! ### Flows -/

mutual

def flowNode : (rounds : Nat) → Reading Yaml
  | 0 => fail
  | rounds + 1 => do
    toNext false
    match ← rest with
    | '[' :: _ =>
      step
      return sequence (← flowItems rounds)
    | '{' :: _ =>
      step
      return mapping (← flowEntries rounds)
    | '"' :: _ => quotedScalar '"'
    | '\'' :: _ => quotedScalar '\''
    | '*' :: _ =>
      step
      aliased (← name)
    | '&' :: _ =>
      step
      let anchor ← name
      let node ← flowNode rounds
      remember anchor node
      return node
    | '!' :: _ =>
      skipTag
      flowNode rounds
    | _ => plainScalar true 0

def flowValue : (rounds : Nat) → Reading Yaml
  | 0 => fail
  | rounds + 1 => do
    toNext false
    match ← rest with
    | c :: _ => if c == ',' || c == ']' || c == '}' then return blank else flowNode rounds
    | [] => fail

def flowItems : (rounds : Nat) → Reading (List Yaml)
  | 0 => fail
  | rounds + 1 => do
    toNext false
    if (← rest).head? == some ']' then
      step
      return []
    let item ←
      match ← key? true with
      | some key => pure (mapping [(key, ← flowValue rounds)])
      | none => flowNode rounds
    toNext false
    match ← rest with
    | ',' :: _ =>
      step
      return item :: (← flowItems rounds)
    | ']' :: _ =>
      step
      return [item]
    | _ => fail

def flowEntries : (rounds : Nat) → Reading (List (Yaml × Yaml))
  | 0 => fail
  | rounds + 1 => do
    toNext false
    if (← rest).head? == some '}' then
      step
      return []
    let entry ←
      match ← key? true with
      | some key => pure (key, ← flowValue rounds)
      | none => pure (← flowNode rounds, blank)
    toNext false
    match ← rest with
    | ',' :: _ =>
      step
      return entry :: (← flowEntries rounds)
    | '}' :: _ =>
      step
      return [entry]
    | _ => fail

end

/-! ### Blocks -/

def goesOn (indent : Nat) : Reading Bool := do
  toNext true
  if ← atEnd then return false
  let source ← get
  if source.column > indent || !source.fresh then fail
  return source.column == indent

def atNextDash (indent : Nat) : Reading Bool := do
  let start ← get
  toNext (← isFresh)
  let source ← get
  if source.fresh && source.column == indent && !(← atEnd) && (← atIndicator '-') then return true
  set start
  return false

mutual

/-- A node that stands at column `least` at least. A block may start in a new line, and also here
if `mayOpen`. -/
def blockNode (least : Nat) (mayOpen : Bool) : (rounds : Nat) → Reading Yaml
  | 0 => fail
  | rounds + 1 => do
    toNext (mayOpen || (← isFresh))
    if ← atEnd then return blank
    let source ← get
    let opens := mayOpen || source.fresh
    if source.fresh && source.column < least then return blank
    match source.rest with
    | '[' :: _ | '{' :: _ => flowNode ((← rest).length + 1)
    | '|' :: _ | '>' :: _ => blockScalar least
    | '*' :: _ =>
      step
      aliased (← name)
    | '&' :: _ =>
      step
      let anchor ← name
      let node ← blockNode least false rounds
      remember anchor node
      return node
    | '!' :: _ =>
      skipTag
      blockNode least false rounds
    | _ =>
      if ← atIndicator '-' then
        if opens then return sequence (← blockItems source.column rounds) else fail
      let start ← get
      if opens then
        if let some key ← key? false then
          return mapping (← blockEntries start.column key rounds)
      match start.rest.head? with
      | some '"' => quotedScalar '"'
      | some '\'' => quotedScalar '\''
      | _ => plainScalar false least
termination_by structural rounds => rounds

def blockItems (indent : Nat) : (rounds : Nat) → Reading (List Yaml)
  | 0 => fail
  | rounds + 1 => do
    step
    let item ← blockNode (indent + 1) true rounds
    if ← atNextDash indent then return item :: (← blockItems indent rounds)
    return [item]
termination_by structural rounds => rounds

def blockEntries (indent : Nat) (key : Yaml) : (rounds : Nat) → Reading (List (Yaml × Yaml))
  | 0 => fail
  | rounds + 1 => do
    let value ← blockValue indent rounds
    if !(← goesOn indent) then return [(key, value)]
    let some next ← key? false | fail
    return (key, value) :: (← blockEntries indent next rounds)
termination_by structural rounds => rounds

def blockValue (indent : Nat) : (rounds : Nat) → Reading Yaml
  | 0 => fail
  | rounds + 1 => do
    if ← atNextDash indent then return sequence (← blockItems indent rounds)
    blockNode (indent + 1) false rounds
termination_by structural rounds => rounds

end

/-! ### Documents -/

def isAllowed (c : Char) : Bool :=
  let code := c.toNat
  code == 9 || code == 10 || code == 13 || (32 ≤ code && code ≤ 126) || code == 0x85 ||
    (0xA0 ≤ code && code ≤ 0xFFFD) || 0x10000 ≤ code

def plainBreaks : List Char → List Char
  | '\r' :: '\n' :: rest => '\n' :: plainBreaks rest
  | '\r' :: rest => '\n' :: plainBreaks rest
  | c :: rest => c :: plainBreaks rest
  | [] => []

/-- The only document of a source. -/
def onlyDocument (rounds : Nat) : Reading Yaml := do
  toNext true
  if ← atMark '-' then skip 3
  let document ← blockNode 0 (← isFresh) rounds
  toNext true
  if ← atMark '.' then
    skip 3
    toNext true
  if !(← rest).isEmpty then fail
  return document

end Reading

def ofText? (written : String) : Option Yaml :=
  let text := Reading.plainBreaks written.toList
  if text.all Reading.isAllowed then
    (Reading.onlyDocument (3 * text.length + 16) { rest := text }).map (·.1)
  else none

end Switchboard.Yaml
