import Switchboard.Identity
import Switchboard.RecordField

/-! What a carrier allows on its subscriptions, and which configuration a subscription has. -/

namespace Switchboard

structure CarrierConfig where
  allowHold : Bool := true
  /-- Calls on another subscription may stay held during an emergency call. -/
  allowHoldDuringEmergency : Bool := true
  /-- Ordinary calls may be added during an emergency call. -/
  allowAddCallDuringEmergency : Bool := false
  supportConference : Bool := true
  supportVideoConference : Bool := false
  supportAddParticipant : Bool := false
  allowTransfer : Bool := false
  allowDeflect : Bool := false
  supportPauseVideo : Bool := true
  showHdAudio : Bool := true
  hdAudioOnWifi : Bool := true
  hdAudioOnVideo : Bool := true
  hdAudioOnCircuit : Bool := false
  /-- Caller names that stand for no name. -/
  placeholderNames : List String := []
  /-- Numbers of the country code 81 are shown in their national form. -/
  nationalFormJapan : Bool := false
  /-- Service codes with these beginnings set up forwarding and are refused while roaming. -/
  forwardingPrefixes : List String := []
  /-- Default data moves to the emergency phone before the dial. -/
  emergencyNeedsData : Bool := false
  deriving DecidableEq, Repr, Inhabited

def CarrierConfig.fields : List (String × RecordField CarrierConfig) := [
  ("allow_hold_in_ims_call",
    .flag (·.allowHold) fun value config => { config with allowHold := value }),
  ("allow_hold_call_during_emergency",
    .flag (·.allowHoldDuringEmergency) fun value config =>
      { config with allowHoldDuringEmergency := value }),
  ("allow_add_call_during_emergency",
    .flag (·.allowAddCallDuringEmergency) fun value config =>
      { config with allowAddCallDuringEmergency := value }),
  ("support_conference_call",
    .flag (·.supportConference) fun value config => { config with supportConference := value }),
  ("support_video_conference_call",
    .flag (·.supportVideoConference) fun value config =>
      { config with supportVideoConference := value }),
  ("support_add_participant",
    .flag (·.supportAddParticipant) fun value config =>
      { config with supportAddParticipant := value }),
  ("allow_transfer_ims_call",
    .flag (·.allowTransfer) fun value config => { config with allowTransfer := value }),
  ("allow_deflect_ims_call",
    .flag (·.allowDeflect) fun value config => { config with allowDeflect := value }),
  ("support_pause_video",
    .flag (·.supportPauseVideo) fun value config => { config with supportPauseVideo := value }),
  ("display_hd_audio",
    .flag (·.showHdAudio) fun value config => { config with showHdAudio := value }),
  ("hd_audio_on_wifi",
    .flag (·.hdAudioOnWifi) fun value config => { config with hdAudioOnWifi := value }),
  ("hd_audio_on_video",
    .flag (·.hdAudioOnVideo) fun value config => { config with hdAudioOnVideo := value }),
  ("hd_audio_on_cs",
    .flag (·.hdAudioOnCircuit) fun value config => { config with hdAudioOnCircuit := value }),
  ("filtered_cnap_names",
    .texts (·.placeholderNames) fun value config => { config with placeholderNames := value }),
  ("format_number_to_national_for_jp",
    .flag (·.nationalFormJapan) fun value config => { config with nationalFormJapan := value }),
  ("call_forwarding_blocked_prefixes_while_roaming",
    .texts (·.forwardingPrefixes) fun value config => { config with forwardingPrefixes := value }),
  ("emergency_requires_dds_switch",
    .flag (·.emergencyNeedsData) fun value config => { config with emergencyNeedsData := value })]

theorem CarrierConfig.fields_lawful : ∀ entry ∈ fields, entry.2.IsLawful := by
  simp [fields, RecordField.IsLawful]

structure CarrierBook where
  fallback : CarrierConfig := {}
  entries : List (SubscriptionId × CarrierConfig) := []
  deriving Repr, Inhabited

namespace CarrierBook

/-- The newest entry of a subscription is the one that counts. -/
def set (book : CarrierBook) (subscription : SubscriptionId) (config : CarrierConfig) :
    CarrierBook :=
  { book with entries := (subscription, config) :: book.entries }

def configFor (book : CarrierBook) (subscription : Option SubscriptionId) : CarrierConfig :=
  (subscription.bind fun known => book.entries.lookup known).getD book.fallback

theorem configFor_set_self (book : CarrierBook) (subscription : SubscriptionId)
    (config : CarrierConfig) :
    (book.set subscription config).configFor (some subscription) = config := by
  simp [configFor, set]

end CarrierBook
end Switchboard
