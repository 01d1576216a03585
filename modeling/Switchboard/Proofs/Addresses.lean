import Mathlib.Data.List.DropRight
import Switchboard.Address

/-! Addresses written and read again. Only the end of a number can change on the way, by the blanks
it ends in: the scheme's word stands before it and is no blank. A number that was read has lost them
already, and nothing that is dialed is made of them (`Address.parse_text_round_trip`). -/

namespace Switchboard

namespace Text

variable {c : Char} {front rest text : List Char}

theorem trimEnd_trimEnd (text : List Char) : trimEnd (trimEnd text) = trimEnd text :=
  List.rdropWhile_idempotent isBlank text

theorem trimEnd_cons (c : Char) (text : List Char) :
    trimEnd (c :: text) = if trimEnd text = [] ∧ isBlank c then [] else c :: trimEnd text := by
  simp only [trimEnd, List.reverse_cons, List.dropWhile_append, List.isEmpty_iff,
    List.reverse_eq_nil_iff]
  by_cases gone : text.reverse.dropWhile isBlank = []
  · by_cases blank : isBlank c <;> simp [gone, blank]
  · simp [gone]

theorem trimEnd_append_cons (solid : isBlank c = false) :
    trimEnd (front ++ c :: rest) = front ++ c :: trimEnd rest := by
  induction front with
  | nil => simp [trimEnd_cons, solid]
  | cons first front ih => simp [trimEnd_cons, ih]

theorem trimStart_trimEnd (text : List Char) :
    trimStart (trimEnd text) = trimEnd (trimStart text) := by
  induction text with
  | nil => rfl
  | cons c text ih =>
    by_cases blank : isBlank c
    · have skipped : trimStart (c :: text) = trimStart text := List.dropWhile_cons_of_pos blank
      rw [skipped, ← ih, trimEnd_cons]
      by_cases gone : trimEnd text = []
      · simp [gone, blank]
      · rw [if_neg fun both => gone both.1]
        exact List.dropWhile_cons_of_pos blank
    · have kept : trimStart (c :: text) = c :: text := List.dropWhile_cons_of_neg blank
      rw [kept, trimEnd_cons, if_neg fun both => blank both.2]
      exact List.dropWhile_cons_of_neg blank

theorem trimChars_trimEnd (text : List Char) : trimChars (trimEnd text) = trimChars text := by
  rw [trimChars, trimStart_trimEnd, trimEnd_trimEnd, trimChars]

theorem trimEnd_trimChars (text : List Char) : trimEnd (trimChars text) = trimChars text :=
  trimEnd_trimEnd (trimStart text)

theorem eq_append_of_splitOnce? {separator : Char}
    (split : splitOnce? separator text = some (front, rest)) :
    text = front ++ separator :: rest := by
  induction text generalizing front with
  | nil => simp [splitOnce?] at split
  | cons first text ih =>
    by_cases found : first = separator
    · obtain ⟨rfl, rfl⟩ : [] = front ∧ text = rest := by simpa [splitOnce?, found] using split
      simp [found]
    · obtain ⟨before, parts, rfl⟩ : ∃ before, splitOnce? separator text = some (before, rest) ∧
          first :: before = front := by simpa [splitOnce?, found] using split
      simp [ih parts]

end Text

namespace Dialing
open Text

theorem isDialable_of_isBlank {c : Char} (blank : isBlank c) : isDialable c = false := by
  by_contra dialed
  have keys : ((((isDigit c ∨ c = '+') ∨ c = '*') ∨ c = '#') ∨ c = ',') ∨ c = ';' := by
    simpa only [isDialable, Bool.not_eq_false, Bool.or_eq_true, beq_iff_eq] using dialed
  rcases keys with ((((digit | rfl) | rfl) | rfl) | rfl) | rfl
  case inl.inl.inl.inl.inl =>
    obtain ⟨least, most⟩ : '0' ≤ c ∧ c ≤ '9' := by simpa [isDigit] using digit
    have low : 48 ≤ c.toNat := Char.le_def.mp least
    have high : c.toNat ≤ 57 := Char.le_def.mp most
    simp only [isBlank, Bool.or_eq_true, Bool.and_eq_true, decide_eq_true_eq, beq_iff_eq] at blank
    omega
  all_goals exact absurd blank (by decide)

theorem dialable_trimEnd (written : List Char) : dialable (trimEnd written) = dialable written := by
  induction written with
  | nil => rfl
  | cons c written ih =>
    rw [trimEnd_cons]
    split
    case isTrue last =>
      have none : dialable written = [] := by rw [← ih, last.1]; rfl
      simpa [dialable, isDialable_of_isBlank last.2] using none
    case isFalse =>
      rw [dialable] at ih
      simp [dialable, List.filter_cons, ih]

end Dialing

namespace Scheme
open Text

theorem trimStart_word (scheme : Scheme) (rest : List Char) :
    trimStart (scheme.word ++ rest) = scheme.word ++ rest := by
  cases scheme <;> exact List.dropWhile_cons_of_neg (by decide)

end Scheme

namespace Address
open Text Dialing

/-- A number as it is read: without the blanks at its end. -/
def bare (address : Address) : Address :=
  { address with number := String.ofList (trimEnd address.number.toList) }

theorem parse_text (address : Address) : parse address.text = address.bare := by
  have solid : isBlank ':' = false := by decide
  have trimmed : trimChars address.text.toList =
      address.bare.scheme.word ++ ':' :: address.bare.number.toList := by
    simp [trimChars, text, bare, Scheme.trimStart_word, trimEnd_append_cons solid]
  rw [parse, trimmed, parseTrimmed_text]

theorem parseTrimmed_bare {written : List Char} (trimmed : trimEnd written = written) :
    (parseTrimmed written).bare = parseTrimmed written := by
  have solid : isBlank ':' = false := by decide
  rw [parseTrimmed]
  cases split : splitOnce? ':' written with
  | none => simp [bare, tel, trimmed]
  | some parts =>
    obtain ⟨word, rest⟩ := parts
    have parted := eq_append_of_splitOnce? split
    have shorter : trimEnd rest = rest := by
      rw [parted, trimEnd_append_cons solid] at trimmed
      simpa using trimmed
    cases known : Scheme.ofWord? word with
    | none => simp [bare, tel, trimmed, known]
    | some scheme => simp [bare, shorter, known]

theorem parse_bare (written : String) : (parse written).bare = parse written :=
  parseTrimmed_bare (trimEnd_trimChars written.toList)

theorem dialString_bare (address : Address) : address.bare.dialString = address.dialString := by
  obtain ⟨scheme, number⟩ := address
  cases scheme <;>
    simp [dialString, bare, Dialing.normalize, dialable_trimEnd, trimChars_trimEnd]

/-- What was read once is read the same from its own text, and an address that is written down is
read back with its scheme and dials what it dialed, whatever its number is. -/
theorem parse_text_round_trip :
    (∀ written : String, parse (parse written).text = parse written) ∧
      ∀ address : Address, (parse address.text).scheme = address.scheme ∧
        (parse address.text).dialString = address.dialString := by
  refine ⟨fun written => ?_, fun address => ⟨?_, ?_⟩⟩
  · rw [parse_text, parse_bare]
  · rw [parse_text, bare]
  · rw [parse_text, dialString_bare]

end Address
end Switchboard
