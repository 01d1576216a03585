/-! Finite vocabularies. A type is `Named` when its values can be listed and each has a fixed
spelling; words are read back with `Named.ofName?`. -/

namespace Switchboard

class Named (α : Type) where
  all : List α
  name : α → String

namespace Named

variable {α : Type} [Named α]

def ofName? (word : String) : Option α :=
  (all : List α).find? fun value => name value == word

theorem name_of_ofName? {word : String} {value : α} (found : ofName? word = some value) :
    name value = word := by
  have kept := List.find?_some found
  simpa using kept

end Named
end Switchboard
