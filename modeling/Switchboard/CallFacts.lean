import Switchboard.CallState
import Switchboard.Capability
import Switchboard.Carrier
import Switchboard.Dialing
import Switchboard.Media
import Switchboard.Network

/-! Capabilities and properties as functions of the facts about a call. Each flag is one rule;
nothing is carried over from earlier values. The technology has the last word. -/

namespace Switchboard

structure CallFacts where
  state : CallState := .initializing
  direction : Direction
  technology : Technology
  /-- Placed to an emergency number, or called an emergency by the network. -/
  emergency : Bool := false
  networkEmergency : Bool := false
  video : VideoState := .audioOnly
  audio : AudioQuality := .standard
  wifi : Bool := false
  crossSim : Bool := false
  rttActive : Bool := false
  hasRttStream : Bool := false
  adhocConference : Bool := false
  multiparty : Bool := false
  inConference : Bool := false
  localVideo : Bool := false
  remoteVideo : Bool := false
  pullable : Bool := false
  voicePrivacy : Bool := false
  /-- The verdict on holding; see `HoldTracker`. -/
  holdAllowed : Bool := false
  deriving DecidableEq, Repr

namespace Technology
open Text

def adjustCapabilities (technology : Technology) (facts : CallFacts) (caps : Capabilities) :
    Capabilities :=
  match technology with
  | .gsm => caps
  | .cdma =>
    { caps with
      separateFromConference := false
      disconnectFromConference := caps.disconnectFromConference && !facts.inConference }
  | .ims =>
    if facts.inConference then { caps with separateFromConference := false }
    else { caps with manageConference := caps.manageConference || facts.multiparty }
  | .satellite => { mute := caps.mute }

def adjustProperties (technology : Technology) (facts : CallFacts) (props : Properties) :
    Properties :=
  match technology with
  | .cdma => { props with voicePrivacy := props.voicePrivacy || facts.voicePrivacy }
  | _ => props

def isServiceCode (technology : Technology) (dial : List Char) : Bool :=
  match technology with
  | .gsm | .ims => Dialing.looksLikeServiceCode dial
  | .cdma => startsWith ['*'] dial && 1 < byteLength dial && !endsWith '#' dial
  | .satellite => false

def allowsServiceCodeInCall (technology : Technology) : Bool :=
  technology != .cdma

/-- How many mergeable connections make a conference. A single multiparty leg is a host of its
own on the packet network; over satellite there are no conferences. -/
def conferenceThreshold : Technology → Option Nat
  | .gsm | .cdma => some 2
  | .ims => some 1
  | .satellite => none

def formsConference (technology : Technology) (mergeable : Nat) : Bool :=
  match technology.conferenceThreshold with
  | some threshold => threshold ≤ mergeable
  | none => false

theorem formsConference_zero (technology : Technology) : technology.formsConference 0 = false := by
  cases technology <;> rfl

end Technology

namespace CallFacts

def isPacket (facts : CallFacts) : Bool :=
  facts.technology == .ims

/-- The call could be held if the verdict allowed it. -/
def holdEligible (facts : CallFacts) (carrier : CarrierConfig) : Bool :=
  !facts.emergency && facts.isPacket && carrier.allowHold && facts.state.isConnected

def transferable (facts : CallFacts) (carrier : CarrierConfig) : Bool :=
  facts.isPacket && carrier.allowTransfer && facts.state.isConnected && !facts.emergency

def mergeable (facts : CallFacts) (carrier : CarrierConfig) : Bool :=
  carrier.supportConference && !facts.emergency &&
    (!facts.video.isVideo || carrier.supportVideoConference) && facts.state.isConnected

def hdAudio (facts : CallFacts) (carrier : CarrierConfig) : Bool :=
  facts.audio == .highDefinition && carrier.showHdAudio &&
    (!facts.wifi || carrier.hdAudioOnWifi) &&
    (!facts.video.isVideo || carrier.hdAudioOnVideo) &&
    (facts.isPacket || carrier.hdAudioOnCircuit)

def liveCapabilities (facts : CallFacts) (carrier : CarrierConfig) : Capabilities where
  hold := facts.holdEligible carrier && facts.holdAllowed
  supportHold := facts.holdEligible carrier
  mute := true
  mergeConference := facts.mergeable carrier && !facts.inConference
  swapConference := facts.mergeable carrier && !facts.inConference
  transfer := facts.transferable carrier
  transferConsultative := facts.transferable carrier && facts.state == .holding
  deflect := facts.isPacket && carrier.allowDeflect && facts.state == .ringing &&
    facts.direction == .incoming
  addParticipant := facts.isPacket && carrier.supportAddParticipant && facts.state == .active &&
    (facts.multiparty || facts.adhocConference)
  canPullCall := facts.pullable && facts.state == .active
  canPauseVideo := facts.video.isVideo && carrier.supportPauseVideo && facts.localVideo &&
    facts.remoteVideo
  localVideo := facts.localVideo
  remoteVideo := facts.remoteVideo
  separateFromConference := facts.mergeable carrier && facts.inConference
  disconnectFromConference := facts.mergeable carrier && facts.inConference

def capabilities (facts : CallFacts) (carrier : CarrierConfig) : Capabilities :=
  if facts.state.isLive then
    facts.technology.adjustCapabilities facts (facts.liveCapabilities carrier)
  else {}

def plainProperties (facts : CallFacts) (carrier : CarrierConfig) : Properties where
  wifi := facts.wifi
  highDefAudio := facts.hdAudio carrier
  rtt := facts.rttActive && facts.hasRttStream
  emergency := facts.emergency
  crossSim := facts.crossSim
  adhocConference := facts.adhocConference
  networkEmergency := facts.networkEmergency
  externalCall := facts.pullable
  conference := facts.multiparty

def properties (facts : CallFacts) (carrier : CarrierConfig) : Properties :=
  facts.technology.adjustProperties facts (facts.plainProperties carrier)

/-- Holding is offered exactly to the calls that are eligible and allowed. -/
theorem capabilities_hold (facts : CallFacts) (carrier : CarrierConfig) :
    (facts.capabilities carrier).hold = (facts.holdEligible carrier && facts.holdAllowed) := by
  by_cases live : facts.state.isLive = true
  · simp only [capabilities, live, if_true, Technology.adjustCapabilities, liveCapabilities,
      holdEligible]
    cases tech : facts.technology <;> simp [isPacket, tech]
    split <;> simp
  · have unconnected : facts.state.isConnected = false := by
      cases h : facts.state <;> simp_all [CallState.isLive, CallState.isConnected]
    simp [capabilities, live, holdEligible, unconnected]

end CallFacts
end Switchboard
