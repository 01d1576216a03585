import Switchboard.CallError
import Switchboard.RecordField

/-! Device-wide settings of the exchange: how long it waits, how often it redials, and which of
its emergency procedures are on. -/

namespace Switchboard

/-- Times are in milliseconds. -/
structure Settings where
  radioPowerOnTimeout : Nat := 60000
  holdConfirmationTimeout : Nat := 2000
  incomingRejectTimeout : Nat := 2000
  dataSwitchTimeout : Nat := 1000
  emergencyRetryRounds : Nat := 1
  domainSelection : Bool := true
  emergencyRedial : Bool := true
  deriving DecidableEq, Repr, Inhabited

namespace Settings

def fields : List (String × RecordField Settings) := [
  ("radio_power_on_timeout_ms",
    .number UInt64.size (·.radioPowerOnTimeout) fun value settings =>
      { settings with radioPowerOnTimeout := value }),
  ("hold_confirmation_timeout_ms",
    .number UInt64.size (·.holdConfirmationTimeout) fun value settings =>
      { settings with holdConfirmationTimeout := value }),
  ("incoming_reject_timeout_ms",
    .number UInt64.size (·.incomingRejectTimeout) fun value settings =>
      { settings with incomingRejectTimeout := value }),
  ("dds_switch_timeout_ms",
    .number UInt64.size (·.dataSwitchTimeout) fun value settings =>
      { settings with dataSwitchTimeout := value }),
  ("emergency_retry_rounds",
    .number UInt32.size (·.emergencyRetryRounds) fun value settings =>
      { settings with emergencyRetryRounds := value }),
  ("domain_selection_enabled",
    .flag (·.domainSelection) fun value settings => { settings with domainSelection := value }),
  ("emergency_redial_enabled",
    .flag (·.emergencyRedial) fun value settings => { settings with emergencyRedial := value })]

theorem fields_lawful : ∀ entry ∈ fields, entry.2.IsLawful := by
  simp [fields, RecordField.IsLawful]

/-- The first fault found is the one reported. -/
def validate (settings : Settings) : Except CallError Unit :=
  if settings.radioPowerOnTimeout = 0 then
    .error (.configuration "radio_power_on_timeout_ms must be > 0")
  else if settings.holdConfirmationTimeout = 0 then
    .error (.configuration "hold_confirmation_timeout_ms must be > 0")
  else if settings.emergencyRetryRounds = 0 then
    .error (.configuration "emergency_retry_rounds must be >= 1")
  else .ok ()

theorem validate_eq_ok_iff (settings : Settings) :
    settings.validate = .ok () ↔
      0 < settings.radioPowerOnTimeout ∧ 0 < settings.holdConfirmationTimeout ∧
        0 < settings.emergencyRetryRounds := by
  simp only [validate, Nat.pos_iff_ne_zero]
  split
  · simp_all
  · split
    · simp_all
    · split <;> simp_all

def wholeMilliseconds (microseconds : Nat) : Nat := microseconds / 1000

end Settings
end Switchboard
