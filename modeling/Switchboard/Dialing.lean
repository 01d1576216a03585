import Switchboard.Carrier
import Switchboard.Text

/-! Dial strings: which characters are dialed, which strings are service codes, and how a
carrier wants numbers and names shown. -/

namespace Switchboard.Dialing
open Text

def isDigit (c : Char) : Bool :=
  '0' ≤ c && c ≤ '9'

def isDialable (c : Char) : Bool :=
  isDigit c || c == '+' || c == '*' || c == '#' || c == ',' || c == ';'

def isSeparator (c : Char) : Bool :=
  c == '-' || c == '.' || c == '(' || c == ')' || c == ' '

def dialable (written : List Char) : List Char :=
  written.filter isDialable

theorem dialable_dialable (written : List Char) :
    dialable (dialable written) = dialable written := by
  simp [dialable]

def normalize (written : String) : String :=
  String.ofList (dialable written.toList)

def looksLikeNumber (text : List Char) : Bool :=
  text.any isDigit && text.all fun c => isDialable c || isSeparator c

/-- Service codes stand between star or pound keys; besides them, one or two digits that do not
start with 1. -/
def looksLikeServiceCode (dial : List Char) : Bool :=
  !dial.isEmpty &&
    (((startsWith ['*'] dial || startsWith ['#'] dial) && endsWith '#' dial) ||
      (byteLength dial ≤ 2 && !startsWith ['1'] dial && dial.all isDigit))

def isForwardingCode (dial : String) (beginnings : List String) : Bool :=
  beginnings.any fun beginning =>
    !beginning.isEmpty && startsWith beginning.toList dial.toList

def shownNumber (number : String) (carrier : CarrierConfig) : String :=
  if carrier.nationalFormJapan then
    match after? ['+', '8', '1'] number.toList with
    | some national => String.ofList ('0' :: national)
    | none => number
  else number

/-- A caller's name as the carrier shows it; placeholders are no names. -/
def shownName (name : Option String) (carrier : CarrierConfig) : Option String :=
  name.bind fun name =>
    let trimmed := trimChars name.toList
    if trimmed.isEmpty then none
    else if carrier.placeholderNames.any fun word => sameFolded word.toList trimmed then none
    else some (String.ofList trimmed)

end Switchboard.Dialing
