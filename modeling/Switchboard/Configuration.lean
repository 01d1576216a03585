import Switchboard.Carrier
import Switchboard.Logging.Config
import Switchboard.Settings
import Switchboard.Yaml.Reader

/-! Configuration files: the settings of the exchange, the book of carriers and the configuration
of logging, each as a YAML document. Whatever a document leaves out keeps its default. -/

namespace Switchboard

def Yaml.fieldsOf (written : String) : Except CallError (List (String × Yaml)) :=
  match (Yaml.ofText? written).bind Yaml.keyed? with
  | some fields => .ok fields
  | none => .error .unreadable

def Yaml.orUnreadable {α : Type} (value : Option α) : Except CallError α :=
  match value with
  | some value => .ok value
  | none => .error .unreadable

open Yaml

def Settings.ofYaml (written : String) : Except CallError Settings := do
  let settings ← orUnreadable (record? false Settings.fields {} (← fieldsOf written))
  settings.validate
  return settings

namespace CarrierBook

/-- An entry names its subscription beside the fields of the configuration. Its fields are read
strictly. -/
def entryOfYaml? (node : Yaml) : Option (SubscriptionId × CarrierConfig) := do
  let fields ← node.keyed?
  let [(_, subscription)] := fields.filter (·.1 == "subscription") | none
  let number ← subscription.int? (-0x80000000) 0x80000000
  return (⟨number⟩, ← record? true CarrierConfig.fields {} fields)

def ofFields? (fields : List (String × Yaml)) : Option CarrierBook := do
  if !areDistinct ["default", "subscriptions"] fields then none
  let fallback ←
    match fields.lookup "default" with
    | some node => record? false CarrierConfig.fields {} (← node.keyed?)
    | none => some {}
  let entries ←
    match fields.lookup "subscriptions" with
    | some node => (← node.items? false).mapM entryOfYaml?
    | none => some []
  return entries.foldl (fun book entry => book.set entry.1 entry.2) { fallback }

def ofYaml (written : String) : Except CallError CarrierBook := do
  orUnreadable (ofFields? (← fieldsOf written))

end CarrierBook

def LoggingConfig.ofYaml (written : String) : Except CallError LoggingConfig := do
  let config ← orUnreadable (record? false LoggingConfig.fields {} (← fieldsOf written))
  let _ ← config.filterDirectives
  return config

end Switchboard
