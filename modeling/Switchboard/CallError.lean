import Switchboard.CallState
import Switchboard.Identity

/-! Misuse of the interface and unusable settings. Failures of the network are not errors: they
end calls. -/

namespace Switchboard

inductive CallError
  | connectionNotFound (connection : ConnectionId)
  | conferenceNotFound (conference : ConferenceId)
  | phoneNotFound (phone : PhoneId)
  | invalidState (operation : String) (state : CallState)
  | configuration (message : String)
  | unreadable
  | logging (message : String)
  | internalFault (message : String)
  deriving DecidableEq, Repr

namespace CallError

def kind : CallError → String
  | .connectionNotFound _ => "ConnectionNotFound"
  | .conferenceNotFound _ => "ConferenceNotFound"
  | .phoneNotFound _ => "PhoneNotFound"
  | .invalidState _ _ => "InvalidState"
  | .configuration _ => "Configuration"
  | .unreadable => "ConfigParse"
  | .logging _ => "Logging"
  | .internalFault _ => "Internal"

def message : CallError → String
  | .connectionNotFound connection => "Connection not found: " ++ connection.text
  | .conferenceNotFound conference => "Conference not found: " ++ conference.text
  | .phoneNotFound phone => "Phone not found: " ++ phone.text
  | .invalidState operation state => "Invalid state for " ++ operation ++ ": " ++ state.text
  | .configuration message => "Configuration error: " ++ message
  | .unreadable => "Configuration parse error"
  | .logging message => "Logging setup failed: " ++ message
  | .internalFault message => "Internal error: " ++ message

end CallError
end Switchboard
