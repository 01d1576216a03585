import Switchboard.Logging.Level
import Switchboard.Text.Alphanumeric

/-! Log directives: `target[span{fields}]=level`, where every part may be missing. A directive
without a level lets everything through; one word alone is a level if it names one, and a target
otherwise. One comma may stand at the end.

Blanks around a directive are skipped when its signs are looked for, but the parts are cut from
the directive as written, so blanks in front shift every part. -/

namespace Switchboard

structure FieldMatch where
  name : String
  value : Option String := none
  deriving DecidableEq, Repr

structure LogDirective where
  target : Option String := none
  span : Option String := none
  fields : List FieldMatch := []
  threshold : LogThreshold := some .trace
  deriving DecidableEq, Repr

inductive DirectiveError
  | malformed
  | badLevel
  deriving DecidableEq, Repr

def DirectiveError.message : DirectiveError → String
  | .malformed => "invalid filter directive"
  | .badLevel =>
    "error parsing level filter: expected one of \"off\", \"error\", \"warn\", \"info\", " ++
      "\"debug\", \"trace\", or a number 0-5"

namespace FieldMatch
open Text

def plainValue (written : List Char) : String :=
  match unsigned? written with
  | some number => toString number
  | none =>
    match (after? ['-'] written).bind (numeral? 10) with
    | some number =>
      if number ≤ 0x8000000000000000 then toString (-(number : Int)) else String.ofList written
    | none => String.ofList written

/-- A name, and a value after the equals sign; what follows a second one is dropped. -/
def ofChars (written : List Char) : FieldMatch :=
  let name := written.takeWhile (· ≠ '=')
  { name := String.ofList name
    value := (after? ['='] (written.drop name.length)).map fun rest =>
      plainValue (rest.takeWhile (· ≠ '=')) }

def text (field : FieldMatch) : String :=
  match field.value with
  | some value => field.name ++ "=" ++ value
  | none => field.name

end FieldMatch

namespace LogDirective
open Text

def scopeText (directive : LogDirective) : String :=
  let fields := String.intercalate "," (directive.fields.map FieldMatch.text)
  let braced := if directive.fields.isEmpty then "" else "\x7b" ++ fields ++ "\x7d"
  if directive.span.isNone && directive.fields.isEmpty then ""
  else "[" ++ directive.span.getD "" ++ braced ++ "]"

def text (directive : LogDirective) : String :=
  let isBare := directive.target.isNone && directive.span.isNone && directive.fields.isEmpty
  directive.target.getD "" ++ directive.scopeText ++ (if isBare then "" else "=") ++
    directive.threshold.text

/-- A directive as written, and the signs that are still to be looked at, of which the first
stands at `position`. -/
structure Reader where
  written : List Char
  position : Nat
  rest : List Char

namespace Reader

def cut (reader : Reader) (start stop : Nat) : List Char :=
  (reader.written.drop start).take (stop - start)

def tail (reader : Reader) : List Char :=
  reader.written.drop reader.position

def upTo? (reader : Reader) (signs : List Char) : Option (List Char × Char × Reader) :=
  let skipped := reader.rest.takeWhile (!signs.contains ·)
  let stop := reader.position + skipped.length
  match reader.rest.drop skipped.length with
  | [] => none
  | sign :: rest =>
    some (reader.cut reader.position stop, sign, { reader with position := stop + 1, rest })

def isDone (reader : Reader) : Bool := reader.rest.isEmpty

end Reader

abbrev Parsed := Except DirectiveError LogDirective

def withLevel (directive : LogDirective) (written : List Char) : Parsed :=
  if written.isEmpty then .ok directive
  else
    match LogThreshold.ofChars? written with
    | some threshold => .ok { directive with threshold }
    | none => .error .badLevel

def readLevel (directive : LogDirective) (reader : Reader) : Parsed :=
  match reader.upTo? [','] with
  | none => directive.withLevel reader.tail
  | some (level, _, after) =>
    if after.isDone then directive.withLevel level
    else
      match directive.withLevel level with
      | .ok _ => .error .malformed
      | .error error => .error error

def readAfterScope (directive : LogDirective) (reader : Reader) : Parsed :=
  match reader.rest with
  | [] => .ok directive
  | '=' :: rest =>
    directive.readLevel { reader with position := reader.position + 1, rest }
  | _ => .error .malformed

def readFields (directive : LogDirective) : (rounds : Nat) → Reader → Parsed
  | 0, _ => .error .malformed
  | rounds + 1, reader =>
    match reader.upTo? [',', '\x7d'] with
    | none => .error .malformed
    | some ([], _, _) => .error .malformed
    | some (field, sign, after) =>
      let directive := { directive with fields := directive.fields ++ [FieldMatch.ofChars field] }
      if sign = ',' then readFields directive rounds after
      else
        match after.rest with
        | ']' :: rest =>
          directive.readAfterScope { after with position := after.position + 1, rest }
        | _ => .error .malformed

def readScope (directive : LogDirective) (reader : Reader) : Parsed :=
  match reader.upTo? [']', '\x7b'] with
  | none => .error .malformed
  | some (span, ']', after) =>
    { directive with span := some (String.ofList span) }.readAfterScope after
  | some (span, _, after) =>
    let span := if span.isEmpty then none else some (String.ofList span)
    { directive with span }.readFields (reader.rest.length + 1) after

def ofWord (word : List Char) : LogDirective :=
  match LogThreshold.ofChars? word with
  | some threshold => { threshold }
  | none => { target := some (String.ofList word) }

def canStart (c : Char) : Bool :=
  c == '-' || c == ':' || c == '_' || isAlphanumeric c

def readWritten (reader : Reader) : Parsed :=
  match reader.rest with
  | [] => .error .malformed
  | '[' :: rest => readScope {} { reader with position := reader.position + 1, rest }
  | first :: _ =>
    if !canStart first then .error .malformed
    else
      match reader.upTo? ['=', '[', ','] with
      | none => .ok (ofWord reader.tail)
      | some (target, '=', after) => readLevel { target := some (String.ofList target) } after
      | some (target, '[', after) => readScope { target := some (String.ofList target) } after
      | some (_, _, after) =>
        if after.isDone then .ok (ofWord reader.tail) else .error .malformed

def ofText (written : String) : Parsed :=
  readWritten { written := written.toList, position := 0, rest := trimChars written.toList }

end LogDirective
end Switchboard
