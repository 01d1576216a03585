/-! Rules on text: the blank characters of Unicode, trimming, and comparison that ignores the
case of ASCII letters. -/

namespace Switchboard.Text

/-- The characters with the Unicode property White_Space. -/
def isBlank (c : Char) : Bool :=
  let code := c.toNat
  (9 ≤ code && code ≤ 13) || code == 0x20 || code == 0x85 || code == 0xA0 || code == 0x1680 ||
    (0x2000 ≤ code && code ≤ 0x200A) || code == 0x2028 || code == 0x2029 || code == 0x202F ||
    code == 0x205F || code == 0x3000

theorem isBlank_of_isWhitespace {c : Char} (blank : c.isWhitespace) : isBlank c := by
  simp only [Char.isWhitespace, Bool.or_eq_true, decide_eq_true_eq] at blank
  rcases blank with ((rfl | rfl) | rfl) | rfl <;> decide

def trimStart (text : List Char) : List Char :=
  text.dropWhile isBlank

def trimEnd (text : List Char) : List Char :=
  (text.reverse.dropWhile isBlank).reverse

def trimChars (text : List Char) : List Char :=
  trimEnd (trimStart text)

def trim (text : String) : String :=
  String.ofList (trimChars text.toList)

def foldCase (c : Char) : Char :=
  if 'A' ≤ c ∧ c ≤ 'Z' then Char.ofNat (c.toNat + 32) else c

def sameFolded (first second : List Char) : Bool :=
  first.map foldCase == second.map foldCase

def after? : (start text : List Char) → Option (List Char)
  | [], text => some text
  | _ :: _, [] => none
  | a :: start, b :: text => if a = b then after? start text else none

theorem after?_eq_some_iff {start text rest : List Char} :
    after? start text = some rest ↔ text = start ++ rest := by
  induction start generalizing text with
  | nil => simp [after?, eq_comm]
  | cons a start ih =>
    cases text with
    | nil => simp [after?]
    | cons b text =>
      by_cases same : a = b
      · simp [after?, same, ih]
      · simp [after?, same, Ne.symm same]

def startsWith (start text : List Char) : Bool :=
  (after? start text).isSome

def endsWith (c : Char) (text : List Char) : Bool :=
  text.getLast? == some c

def splitOnce? (separator : Char) : List Char → Option (List Char × List Char)
  | [] => none
  | c :: rest =>
    if c = separator then some ([], rest)
    else (splitOnce? separator rest).map fun parts => (c :: parts.1, parts.2)

theorem splitOnce?_append {separator : Char} {head rest : List Char}
    (clean : separator ∉ head) :
    splitOnce? separator (head ++ separator :: rest) = some (head, rest) := by
  induction head with
  | nil => simp [splitOnce?]
  | cons c head ih =>
    simp only [List.mem_cons, not_or] at clean
    simp [splitOnce?, Ne.symm clean.1, ih clean.2]

def digitValue? (c : Char) : Option Nat :=
  if '0' ≤ c ∧ c ≤ '9' then some (c.toNat - 48)
  else if 'a' ≤ c ∧ c ≤ 'z' then some (c.toNat - 87)
  else if 'A' ≤ c ∧ c ≤ 'Z' then some (c.toNat - 55)
  else none

def numeral? (base : Nat) (digits : List Char) : Option Nat :=
  if digits.isEmpty then none
  else
    digits.foldlM
      (fun value c => ((digitValue? c).filter (· < base)).map (base * value + ·)) 0

def unsigned? (text : List Char) : Option Nat :=
  (numeral? 10 ((after? ['+'] text).getD text)).filter (· < UInt64.size)

def byteLength (text : List Char) : Nat :=
  text.foldr (fun c length => c.utf8Size + length) 0

end Switchboard.Text
