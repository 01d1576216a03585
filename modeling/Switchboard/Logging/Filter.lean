import Switchboard.Logging.Directive

/-! Filters: sets of directives. A directive takes the place of one for the same target, span and
fields. -/

namespace Switchboard

structure LogFilter where
  directives : List LogDirective := []
  deriving Repr

namespace LogDirective

def sameScope (first second : LogDirective) : Bool :=
  first.target == second.target && first.span == second.span && first.fields == second.fields

end LogDirective

namespace LogFilter

def add (filter : LogFilter) (directive : LogDirective) : LogFilter :=
  ⟨filter.directives.filter (!directive.sameScope ·) ++ [directive]⟩

def fallback : LogFilter := ⟨[{ threshold := some .error }]⟩

def ofDirectives (directives : List LogDirective) : LogFilter :=
  directives.foldl add fallback

/-- Directives for fields that need no value count twice: for events, and for the spans that
events are in. -/
def copies (directive : LogDirective) : List LogDirective :=
  if directive.span.isNone && !directive.fields.isEmpty &&
      directive.fields.all (·.value.isNone) then [directive, directive]
  else [directive]

def ofList (written : String) : Except DirectiveError LogFilter := do
  let parts := (written.splitOn ",").filter (· ≠ "")
  let directives ← parts.mapM LogDirective.ofText
  if directives.isEmpty then return fallback
  let filter := directives.foldl add {}
  return ⟨filter.directives.flatMap copies⟩

def parts (filter : LogFilter) : List String :=
  (filter.directives.flatMap fun directive => directive.text.splitOn ",").mergeSort
    fun first second => decide (first ≤ second)

end LogFilter
end Switchboard
