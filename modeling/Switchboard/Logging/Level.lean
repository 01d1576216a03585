import Switchboard.Named
import Switchboard.Text

/-! How much is logged. A level is given by its name in any case or by a number; a threshold may
also switch logging off. -/

namespace Switchboard

inductive LogLevel
  | error
  | warn
  | info
  | debug
  | trace
  deriving DecidableEq, Repr

instance : Named LogLevel where
  all := [.error, .warn, .info, .debug, .trace]
  name
    | .error => "ERROR"
    | .warn => "WARN"
    | .info => "INFO"
    | .debug => "DEBUG"
    | .trace => "TRACE"

namespace LogLevel

def text : LogLevel → String
  | .error => "error"
  | .warn => "warn"
  | .info => "info"
  | .debug => "debug"
  | .trace => "trace"

def ofNumber? : Nat → Option LogLevel
  | 1 => some .error
  | 2 => some .warn
  | 3 => some .info
  | 4 => some .debug
  | 5 => some .trace
  | _ => none

def ofName? (name : List Char) : Option LogLevel :=
  (Named.all : List LogLevel).find? fun level => Text.sameFolded name level.text.toList

def ofText? (written : String) : Option LogLevel :=
  (Text.unsigned? written.toList).bind ofNumber? <|> ofName? written.toList

theorem ofName?_text (level : LogLevel) : ofName? level.text.toList = some level := by
  cases level <;> decide

end LogLevel

/-- The last level that is let through; none when nothing is. -/
abbrev LogThreshold := Option LogLevel

namespace LogThreshold

def text (threshold : LogThreshold) : String :=
  match threshold with
  | some level => level.text
  | none => "off"

def ofNumber? : Nat → Option LogThreshold
  | 0 => some none
  | number => (LogLevel.ofNumber? number).map some

def ofWord? (word : List Char) : Option LogThreshold :=
  if word.isEmpty then some (some .error)
  else if Text.sameFolded word ['o', 'f', 'f'] then some none
  else (LogLevel.ofName? word).map some

def ofChars? (written : List Char) : Option LogThreshold :=
  (Text.unsigned? written).bind ofNumber? <|> ofWord? written

end LogThreshold
end Switchboard
