import Switchboard.Named

/-! What a call carries (video, audio quality, free-form extras) and how a number or a name may
be presented. -/

namespace Switchboard

inductive VideoState
  | audioOnly
  | txOnly
  | rxOnly
  | bidirectional
  | paused
  deriving DecidableEq, Repr, Inhabited

inductive AudioQuality
  | standard
  | highDefinition
  deriving DecidableEq, Repr, Inhabited

inductive Presentation
  | allowed
  | restricted
  | unknown
  | payphone
  deriving DecidableEq, Repr, Inhabited

instance : Named VideoState where
  all := [.audioOnly, .txOnly, .rxOnly, .bidirectional, .paused]
  name
    | .audioOnly => "AudioOnly"
    | .txOnly => "TxOnly"
    | .rxOnly => "RxOnly"
    | .bidirectional => "Bidirectional"
    | .paused => "Paused"

instance : Named AudioQuality where
  all := [.standard, .highDefinition]
  name
    | .standard => "Standard"
    | .highDefinition => "HighDefinition"

instance : Named Presentation where
  all := [.allowed, .restricted, .unknown, .payphone]
  name
    | .allowed => "Allowed"
    | .restricted => "Restricted"
    | .unknown => "Unknown"
    | .payphone => "Payphone"

def VideoState.isVideo (video : VideoState) : Bool :=
  video != .audioOnly

/-- Free-form pairs of text, kept in the order of their keys with one value a key, so that two
values are equal exactly when they hold the same pairs. -/
structure Extras where
  entries : List (String × String) := []
  deriving DecidableEq, Repr, Inhabited

namespace Extras

def insertEntry (key value : String) : List (String × String) → List (String × String)
  | [] => [(key, value)]
  | (other, kept) :: rest =>
    if key = other then (key, value) :: rest
    else if key < other then (key, value) :: (other, kept) :: rest
    else (other, kept) :: insertEntry key value rest

def insert (extras : Extras) (key value : String) : Extras :=
  ⟨insertEntry key value extras.entries⟩

def erase (extras : Extras) (key : String) : Extras :=
  ⟨extras.entries.filter fun entry => entry.1 != key⟩

def get? (extras : Extras) (key : String) : Option String :=
  extras.entries.lookup key

def overlay (extras newer : Extras) : Extras :=
  newer.entries.foldl (fun joined entry => joined.insert entry.1 entry.2) extras

def ofList (entries : List (String × String)) : Extras :=
  entries.foldl (fun extras entry => extras.insert entry.1 entry.2) {}

end Extras
end Switchboard
