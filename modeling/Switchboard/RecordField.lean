/-! Records as documents see them: a list of named fields, each with a kind that says what values
it takes and how they are read from and put into the record. -/

namespace Switchboard

inductive RecordField (κ : Type)
  | flag (get : κ → Bool) (set : Bool → κ → κ)
  /-- A whole number below `bound`. -/
  | number (bound : Nat) (get : κ → Nat) (set : Nat → κ → κ)
  | text (get : κ → String) (set : String → κ → κ)
  | texts (get : κ → List String) (set : List String → κ → κ)
  | word (get : κ → String) (set? : String → Option (κ → κ))

/-- What is put in is read back, and putting in what is read changes nothing. -/
def RecordField.IsLawful {κ : Type} : RecordField κ → Prop
  | .flag get set | .number _ get set | .text get set | .texts get set =>
    ∀ record, (∀ value, get (set value record) = value) ∧ set (get record) record = record
  | .word get set? => ∀ record, (set? (get record)).map (· record) = some record

end Switchboard
