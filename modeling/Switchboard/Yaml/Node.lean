import Switchboard.RecordField
import Switchboard.Text

/-! Documents in YAML, and what their scalars mean. A scalar keeps its text; whether that text is
a number, a truth value or nothing at all is asked of plain scalars only. -/

namespace Switchboard

inductive Yaml
  /-- A scalar is plain if it stands without quotes. -/
  | scalar (text : String) (isPlain : Bool)
  | sequence (items : List Yaml)
  | mapping (entries : List (Yaml × Yaml))
  deriving Inhabited

namespace Yaml
open Text

def blank : Yaml := scalar "" true

def isBlank : Yaml → Bool
  | scalar text isPlain => text.isEmpty && isPlain
  | _ => false

def truth? : String → Option Bool
  | "true" | "True" | "TRUE" => some true
  | "false" | "False" | "FALSE" => some false
  | _ => none

def isNull (text : String) : Bool :=
  ["", "~", "null", "Null", "NULL"].contains text

def isPadded (digits : List Char) : Bool :=
  match digits with
  | '0' :: _ :: _ => digits.all fun c => '0' ≤ c && c ≤ '9'
  | _ => false

def magnitude? (digits : List Char) : Option Nat :=
  (after? ['0', 'x'] digits).bind (numeral? 16)
    <|> (after? ['0', 'o'] digits).bind (numeral? 8)
    <|> (after? ['0', 'b'] digits).bind (numeral? 2)
    <|> if isPadded digits then none else numeral? 10 digits

def wholeNumber? (written : List Char) : Option Int :=
  match written with
  | '-' :: digits => (magnitude? digits).map fun value => -(value : Int)
  | '+' :: digits => (magnitude? digits).map Int.ofNat
  | digits => (magnitude? digits).map Int.ofNat

def natural? (written : List Char) : Option Nat :=
  match written with
  | '-' :: _ => none
  | '+' :: digits => magnitude? digits
  | digits => magnitude? digits

def isDigits (text : List Char) : Bool :=
  text.all fun c => '0' ≤ c && c ≤ '9'

def unsignedPart (written : List Char) : List Char :=
  match written with
  | '-' :: rest => rest
  | '+' :: rest => rest
  | _ => written

def isDecimal (written : List Char) : Bool :=
  let isMark (c : Char) := c == 'e' || c == 'E'
  let number := (unsignedPart written).takeWhile (!isMark ·)
  let exponent := (unsignedPart written).drop number.length
  let whole := number.takeWhile (· ≠ '.')
  let fraction := (number.drop whole.length).drop 1
  isDigits whole && isDigits fraction && !(whole.isEmpty && fraction.isEmpty) &&
    match exponent with
    | [] => true
    | _ :: power => !(unsignedPart power).isEmpty && isDigits (unsignedPart power)

def isRealNumber (text : String) : Bool :=
  [".inf", ".Inf", ".INF", "+.inf", "+.Inf", "+.INF", "-.inf", "-.Inf", "-.INF", ".nan", ".NaN",
      ".NAN"].contains text ||
    (!isPadded (unsignedPart text.toList) && isDecimal text.toList)

def isTyped (text : String) : Bool :=
  isNull text || (truth? text).isSome || (wholeNumber? text.toList).isSome || isRealNumber text

def flag? : Yaml → Option Bool
  | scalar text true => truth? text
  | _ => none

def nat? (bound : Nat) : Yaml → Option Nat
  | scalar text true => (natural? text.toList).filter (· < bound)
  | _ => none

def int? (least bound : Int) : Yaml → Option Int
  | scalar text true =>
    (wholeNumber? text.toList).filter fun value => least ≤ value && value < bound
  | _ => none

/-- Text read strictly is not a plain scalar that means something else. -/
def text? (strict : Bool) : Yaml → Option String
  | scalar text isPlain => if strict && isPlain && isTyped text then none else some text
  | _ => none

def items? (strict : Bool) : Yaml → Option (List Yaml)
  | sequence items => some items
  | node => if !strict && node.isBlank then some [] else none

def entries? : Yaml → Option (List (Yaml × Yaml))
  | mapping entries => some entries
  | node => if node.isBlank then some [] else none

def keyed? (node : Yaml) : Option (List (String × Yaml)) := do
  (← node.entries?).mapM fun entry => do
    return (← entry.1.text? false, entry.2)

/-! ### Records -/

def setField? {κ : Type} (strict : Bool) (node : Yaml) : RecordField κ → Option (κ → κ)
  | .flag _ set => node.flag?.map set
  | .number bound _ set => (node.nat? bound).map set
  | .text _ set => (node.text? strict).map set
  | .texts _ set => do
    return set (← (← node.items? strict).mapM (text? strict))
  | .word _ set? => (node.text? strict).bind set?

def areDistinct (keys : List String) : List (String × Yaml) → Bool
  | [] => true
  | (key, _) :: rest =>
    !(keys.contains key && rest.any (·.1 == key)) && areDistinct keys rest

/-- Reads the fields of a table; other entries are ignored. -/
def record? {κ : Type} (strict : Bool) (table : List (String × RecordField κ)) (start : κ)
    (entries : List (String × Yaml)) : Option κ :=
  if areDistinct (table.map (·.1)) entries then
    entries.foldlM
      (fun record entry =>
        match table.lookup entry.1 with
        | some field => (setField? strict entry.2 field).map (· record)
        | none => some record)
      start
  else none

end Yaml
end Switchboard
