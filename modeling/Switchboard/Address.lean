import Switchboard.Dialing
import Switchboard.Named

/-! Dialed addresses: a scheme, a colon and the rest. A bare number is a telephone address. -/

namespace Switchboard

inductive Scheme
  | tel
  | sip
  | voicemail
  deriving DecidableEq, Repr

instance : Named Scheme where
  all := [.tel, .sip, .voicemail]
  name
    | .tel => "Tel"
    | .sip => "Sip"
    | .voicemail => "Voicemail"

namespace Scheme

def word : Scheme → List Char
  | .tel => ['t', 'e', 'l']
  | .sip => ['s', 'i', 'p']
  | .voicemail => ['v', 'o', 'i', 'c', 'e', 'm', 'a', 'i', 'l']

def ofWord? (text : List Char) : Option Scheme :=
  [Scheme.tel, .sip, .voicemail].find? fun scheme => Text.sameFolded text scheme.word

theorem ofWord?_word (scheme : Scheme) : ofWord? scheme.word = some scheme := by
  cases scheme <;> decide

theorem word_no_colon (scheme : Scheme) : ':' ∉ scheme.word := by
  cases scheme <;> decide

end Scheme

structure Address where
  scheme : Scheme
  number : String
  deriving DecidableEq, Repr

namespace Address
open Text Dialing

def tel (number : String) : Address := ⟨.tel, number⟩

def voicemail : Address := ⟨.voicemail, ""⟩

def isVoicemail (address : Address) : Bool :=
  address.scheme == .voicemail

def parseTrimmed (written : List Char) : Address :=
  match splitOnce? ':' written with
  | some (word, rest) =>
    match Scheme.ofWord? word with
    | some scheme => ⟨scheme, String.ofList rest⟩
    | none => tel (String.ofList written)
  | none => tel (String.ofList written)

def parse (written : String) : Address :=
  parseTrimmed (trimChars written.toList)

def text (address : Address) : String :=
  String.ofList (address.scheme.word ++ ':' :: address.number.toList)

theorem parseTrimmed_text (address : Address) :
    parseTrimmed (address.scheme.word ++ ':' :: address.number.toList) = address := by
  simp [parseTrimmed, splitOnce?_append address.scheme.word_no_colon, Scheme.ofWord?_word]

/-- What is dialed for a network address: the user's number if the user is one, the whole
address otherwise, and nothing without a user. -/
def networkTarget (target : List Char) : List Char :=
  let user := target.takeWhile (· ≠ '@')
  if user.isEmpty then []
  else if looksLikeNumber user then dialable user
  else target

def dialString (address : Address) : String :=
  match address.scheme with
  | .sip => String.ofList (networkTarget (trimChars address.number.toList))
  | _ => normalize address.number

end Address
end Switchboard
