import Switchboard.CallError
import Switchboard.Logging.Filter
import Switchboard.RecordField

/-! What is logged and how. Everything else stays at warnings; the library's own target has the
configured level, and more directives follow. A filter given by the environment may replace all
of them. -/

namespace Switchboard

inductive LogFormat
  | full
  | compact
  | json
  deriving DecidableEq, Repr

instance : Named LogFormat where
  all := [.full, .compact, .json]
  name
    | .full => "full"
    | .compact => "compact"
    | .json => "json"

structure LoggingConfig where
  level : String := "info"
  directives : List String := []
  format : LogFormat := .full
  fileInfo : Bool := false
  logSpans : Bool := false
  /-- A filter of the environment replaces the directives. -/
  honorEnvironment : Bool := true
  deriving DecidableEq, Repr

namespace LoggingConfig

def target : String := "telephony_core"

def fields : List (String × RecordField LoggingConfig) := [
  ("level", .text (·.level) fun value config => { config with level := value }),
  ("directives", .texts (·.directives) fun value config => { config with directives := value }),
  ("format",
    .word (fun config => Named.name config.format) fun word =>
      (Named.ofName? word).map fun format config => { config with format }),
  ("file_info", .flag (·.fileInfo) fun value config => { config with fileInfo := value }),
  ("log_spans", .flag (·.logSpans) fun value config => { config with logSpans := value }),
  ("honor_env",
    .flag (·.honorEnvironment) fun value config => { config with honorEnvironment := value })]

theorem fields_lawful : ∀ entry ∈ fields, entry.2.IsLawful := by
  have format (config : LoggingConfig) :
      Named.ofName? (Named.name config.format) = some config.format := by
    cases config.format <;> decide
  simp [fields, RecordField.IsLawful, format]

def parseLevel (written : String) : Except CallError LogLevel :=
  match LogLevel.ofText? written with
  | some level => .ok level
  | none => .error (.configuration ("Invalid log level: " ++ written))

def parseDirective (written : String) : Except CallError LogDirective :=
  match LogDirective.ofText written with
  | .ok directive => .ok directive
  | .error error =>
    .error (.configuration ("Invalid log directive '" ++ written ++ "': " ++ error.message))

def filterDirectives (config : LoggingConfig) : Except CallError (List LogDirective) := do
  let level ← parseLevel config.level
  let own : LogDirective := { target := some target, threshold := some level }
  let more ← config.directives.mapM parseDirective
  return { threshold := some .warn } :: own :: more

def filter (config : LoggingConfig) (environment : Option String) : Except CallError LogFilter :=
  match environment with
  | some written =>
    if config.honorEnvironment then
      match LogFilter.ofList written with
      | .ok filter => .ok filter
      | .error error => .error (.configuration ("Invalid RUST_LOG: " ++ error.message))
    else config.filterDirectives.map .ofDirectives
  | none => config.filterDirectives.map .ofDirectives

end LoggingConfig

structure LoggingSetup where
  installed : Option LoggingConfig := none

namespace LoggingSetup

def install (setup : LoggingSetup) (config : LoggingConfig) :
    Except CallError Unit × LoggingSetup :=
  match config.filter none with
  | .error error => (.error error, setup)
  | .ok _ =>
    match setup.installed with
    | some _ => (.error (.logging "a global default trace dispatcher has already been set"), setup)
    | none => (.ok (), ⟨some config⟩)

end LoggingSetup
end Switchboard
