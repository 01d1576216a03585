import Switchboard.Named
import Switchboard.RecordField

/-! Documents: trees of plain values, the written form of everything that is read or shown. A
field that is absent and a field without a value are the same. -/

namespace Switchboard

inductive Document
  | null
  | flag (value : Bool)
  | number (value : Int)
  | text (value : String)
  | list (items : List Document)
  | fields (entries : List (String × Document))
  deriving Inhabited

namespace Document

/-! ### Looking into a document -/

def entries : Document → List (String × Document)
  | fields entries => entries
  | _ => []

def items : Document → List Document
  | list items => items
  | _ => []

def has (document : Document) (key : String) : Bool :=
  (document.entries.lookup key).isSome

def get (document : Document) (key : String) : Document :=
  (document.entries.lookup key).getD null

def isNull : Document → Bool
  | null => true
  | _ => false

def flag? : Document → Option Bool
  | flag value => some value
  | _ => none

def int? : Document → Option Int
  | number value => some value
  | _ => none

def nat? : Document → Option Nat
  | number (.ofNat value) => some value
  | _ => none

def text? : Document → Option String
  | text value => some value
  | _ => none

def named? {α : Type} [Named α] (document : Document) : Option α :=
  document.text?.bind Named.ofName?

def flagAt (document : Document) (key : String) (fallback : Bool := false) : Bool :=
  (document.get key).flag?.getD fallback

def natAt (document : Document) (key : String) (fallback : Nat := 0) : Nat :=
  (document.get key).nat?.getD fallback

def intAt (document : Document) (key : String) (fallback : Int := 0) : Int :=
  (document.get key).int?.getD fallback

def textAt (document : Document) (key : String) (fallback : String := "") : String :=
  (document.get key).text?.getD fallback

def namedAt {α : Type} [Named α] (document : Document) (key : String) (fallback : α) : α :=
  (document.get key).named?.getD fallback

def textsAt (document : Document) (key : String) : List String :=
  (document.get key).items.filterMap text?

def itemsAt (document : Document) (key : String) : List Document :=
  (document.get key).items

mutual

def depth : Document → Nat
  | list items => depthOfItems items + 1
  | fields entries => depthOfEntries entries + 1
  | _ => 0

def depthOfItems : List Document → Nat
  | [] => 0
  | item :: rest => max (depth item) (depthOfItems rest)

def depthOfEntries : List (String × Document) → Nat
  | [] => 0
  | (_, value) :: rest => max (depth value) (depthOfEntries rest)

end

mutual

def same : Document → Document → Bool
  | null, null => true
  | flag first, flag second => first == second
  | number first, number second => first == second
  | text first, text second => first == second
  | list first, list second => sameItems first second
  | fields first, fields second => sameEntries first second
  | _, _ => false

def sameItems : List Document → List Document → Bool
  | [], [] => true
  | first :: firsts, second :: seconds => same first second && sameItems firsts seconds
  | _, _ => false

def sameEntries : List (String × Document) → List (String × Document) → Bool
  | [], [] => true
  | (key, first) :: firsts, (other, second) :: seconds =>
    key == other && same first second && sameEntries firsts seconds
  | _, _ => false

end

/-! ### Making documents -/

/-- Fields in the order of their keys, so that the same fields are the same document. -/
def ofFields (entries : List (String × Document)) : Document :=
  fields (entries.mergeSort fun first second => decide (first.1 ≤ second.1))

def ofNat (value : Nat) : Document := number value

def ofNamed {α : Type} [Named α] (value : α) : Document := text (Named.name value)

def ofOption {α : Type} (form : α → Document) (value : Option α) : Document :=
  (value.map form).getD null

def ofList {α : Type} (form : α → Document) (values : List α) : Document :=
  list (values.map form)

/-! ### Records -/

/-- The record with the given fields in place of those of `start`. -/
def toRecord {κ : Type} (table : List (String × RecordField κ)) (start : κ)
    (document : Document) : κ :=
  table.foldl
    (fun record entry =>
      let value := document.get entry.1
      match entry.2 with
      | .flag _ set => (value.flag?.map (set · record)).getD record
      | .number _ _ set => (value.nat?.map (set · record)).getD record
      | .text _ set => (value.text?.map (set · record)).getD record
      | .texts _ set => if value.isNull then record else set (value.items.filterMap text?) record
      | .word _ set? => ((value.text?.bind set?).map (· record)).getD record)
    start

def ofField {κ : Type} (record : κ) : RecordField κ → Document
  | .flag get _ => flag (get record)
  | .number _ get _ => ofNat (get record)
  | .text get _ => text (get record)
  | .texts get _ => ofList text (get record)
  | .word get _ => text (get record)

def ofRecord {κ : Type} (table : List (String × RecordField κ)) (record : κ) : Document :=
  ofFields (table.map fun entry => (entry.1, ofField record entry.2))

end Document
end Switchboard
