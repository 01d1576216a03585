/-! What a connection allows (capabilities) and what it is (properties). Both are sets of flags;
their bit values are how other programs see them. -/

namespace Switchboard

/-- The number whose binary digits, lowest first, are the flags. -/
def flagBits : List Bool → Nat
  | [] => 0
  | flag :: rest => flag.toNat + 2 * flagBits rest

theorem flagBits_lt (flags : List Bool) : flagBits flags < 1 <<< flags.length := by
  rw [Nat.one_shiftLeft]
  induction flags with
  | nil => simp [flagBits]
  | cons flag rest ih =>
    simp only [flagBits, List.length_cons, Nat.pow_succ]
    cases flag <;> simp only [Bool.toNat_true, Bool.toNat_false] <;> omega

theorem testBit_flagBits (flags : List Bool) (index : Nat) :
    (flagBits flags).testBit index = flags.getD index false := by
  induction flags generalizing index with
  | nil => simp [flagBits]
  | cons flag rest ih =>
    cases index with
    | zero => cases flag <;> simp [flagBits, Nat.testBit_zero]
    | succ index =>
      have half : (flag.toNat + 2 * flagBits rest) / 2 = flagBits rest := by
        cases flag <;> simp only [Bool.toNat_true, Bool.toNat_false] <;> omega
      simp [flagBits, Nat.testBit_succ, half, ih]

inductive FlagError
  | unknownFlags (set : String) (bits : Nat)
  | tooWide (value : Nat)
  deriving DecidableEq, Repr

def FlagError.message : FlagError → String
  | .unknownFlags set bits =>
    "invalid " ++ set ++ " bits: 0x" ++ String.ofList (Nat.toDigits 16 bits)
  | .tooWide value => "invalid value: integer `" ++ toString value ++ "`, expected u32"

structure Capabilities where
  hold : Bool := false
  supportHold : Bool := false
  mute : Bool := false
  mergeConference : Bool := false
  swapConference : Bool := false
  transfer : Bool := false
  transferConsultative : Bool := false
  deflect : Bool := false
  addParticipant : Bool := false
  canPullCall : Bool := false
  canPauseVideo : Bool := false
  localVideo : Bool := false
  remoteVideo : Bool := false
  separateFromConference : Bool := false
  disconnectFromConference : Bool := false
  manageConference : Bool := false
  deriving DecidableEq, Repr, Inhabited

namespace Capabilities

def flags (caps : Capabilities) : List Bool :=
  [caps.hold, caps.supportHold, caps.mute, caps.mergeConference, caps.swapConference,
    caps.transfer, caps.transferConsultative, caps.deflect, caps.addParticipant,
    caps.canPullCall, caps.canPauseVideo, caps.localVideo, caps.remoteVideo,
    caps.separateFromConference, caps.disconnectFromConference, caps.manageConference]

def words : List String :=
  ["HOLD", "SUPPORT_HOLD", "MUTE", "MERGE_CONFERENCE", "SWAP_CONFERENCE", "TRANSFER",
    "TRANSFER_CONSULTATIVE", "DEFLECT", "ADD_PARTICIPANT", "CAN_PULL_CALL", "CAN_PAUSE_VIDEO",
    "SUPPORTS_VT_LOCAL_BIDIRECTIONAL", "SUPPORTS_VT_REMOTE_BIDIRECTIONAL",
    "SEPARATE_FROM_CONFERENCE", "DISCONNECT_FROM_CONFERENCE", "MANAGE_CONFERENCE"]

def bits (caps : Capabilities) : Nat := flagBits caps.flags

def ofBits (bits : Nat) : Capabilities where
  hold := bits.testBit 0
  supportHold := bits.testBit 1
  mute := bits.testBit 2
  mergeConference := bits.testBit 3
  swapConference := bits.testBit 4
  transfer := bits.testBit 5
  transferConsultative := bits.testBit 6
  deflect := bits.testBit 7
  addParticipant := bits.testBit 8
  canPullCall := bits.testBit 9
  canPauseVideo := bits.testBit 10
  localVideo := bits.testBit 11
  remoteVideo := bits.testBit 12
  separateFromConference := bits.testBit 13
  disconnectFromConference := bits.testBit 14
  manageConference := bits.testBit 15

def ofBits? (bits : Nat) : Except FlagError Capabilities :=
  if bits ≥ UInt32.size then .error (.tooWide bits)
  else if bits ≥ 0x10000 then .error (.unknownFlags "Capabilities" bits)
  else .ok (ofBits bits)

def names (caps : Capabilities) : List String :=
  (words.zip caps.flags).filterMap fun entry => if entry.2 then some entry.1 else none

theorem ofBits_bits (caps : Capabilities) : ofBits caps.bits = caps := by
  simp [ofBits, bits, testBit_flagBits, flags, -Nat.testBit_zero]

theorem bits_lt (caps : Capabilities) : caps.bits < 0x10000 := flagBits_lt caps.flags

end Capabilities

structure Properties where
  wifi : Bool := false
  highDefAudio : Bool := false
  rtt : Bool := false
  emergency : Bool := false
  crossSim : Bool := false
  adhocConference : Bool := false
  voicePrivacy : Bool := false
  networkEmergency : Bool := false
  externalCall : Bool := false
  conference : Bool := false
  deriving DecidableEq, Repr, Inhabited

namespace Properties

def flags (props : Properties) : List Bool :=
  [props.wifi, props.highDefAudio, props.rtt, props.emergency, props.crossSim,
    props.adhocConference, props.voicePrivacy, props.networkEmergency, props.externalCall,
    props.conference]

def words : List String :=
  ["WIFI", "HIGH_DEF_AUDIO", "RTT", "EMERGENCY", "CROSS_SIM", "ADHOC_CONFERENCE",
    "VOICE_PRIVACY", "NETWORK_IDENTIFIED_EMERGENCY", "EXTERNAL_CALL", "CONFERENCE"]

def bits (props : Properties) : Nat := flagBits props.flags

def ofBits (bits : Nat) : Properties where
  wifi := bits.testBit 0
  highDefAudio := bits.testBit 1
  rtt := bits.testBit 2
  emergency := bits.testBit 3
  crossSim := bits.testBit 4
  adhocConference := bits.testBit 5
  voicePrivacy := bits.testBit 6
  networkEmergency := bits.testBit 7
  externalCall := bits.testBit 8
  conference := bits.testBit 9

def ofBits? (bits : Nat) : Except FlagError Properties :=
  if bits ≥ UInt32.size then .error (.tooWide bits)
  else if bits ≥ 0x400 then .error (.unknownFlags "Properties" bits)
  else .ok (ofBits bits)

def names (props : Properties) : List String :=
  (words.zip props.flags).filterMap fun entry => if entry.2 then some entry.1 else none

theorem ofBits_bits (props : Properties) : ofBits props.bits = props := by
  simp [ofBits, bits, testBit_flagBits, flags, -Nat.testBit_zero]

theorem bits_lt (props : Properties) : props.bits < 0x400 := flagBits_lt props.flags

end Properties
end Switchboard
