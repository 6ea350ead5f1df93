import Mathlib.Tactic.Common

/-!
# AAC framing

Library `Wire`. The fields of an AudioSpecificConfig that an ADTS header repeats, and how the
header in front of a frame is read. Nothing here is translated from the client.
-/

namespace RtmpRecv.Wire

/-- The first fields of an AudioSpecificConfig. -/
structure AudioConfig where
  objectType : Nat
  frequencyIndex : Nat
  channels : Nat
  deriving DecidableEq, Repr

/-- The fields have five, four and four bits. -/
def AudioConfig.ofBytes (b0 b1 : UInt8) : AudioConfig :=
  { objectType := b0.toNat / 8
    frequencyIndex := b0.toNat % 8 * 2 + b1.toNat / 128
    channels := b1.toNat / 8 % 16 }

/-- An ADTS header has two bits for the object type and three for the channels. -/
def AudioConfig.Framed (config : AudioConfig) : Prop :=
  1 ≤ config.objectType ∧ config.objectType ≤ 4 ∧ config.channels ≤ 7

instance (config : AudioConfig) : Decidable config.Framed :=
  inferInstanceAs (Decidable (_ ∧ _ ∧ _))

/-- The fields of an ADTS header. -/
structure AdtsHeader where
  syncword : Nat
  protectionAbsent : Nat
  profile : Nat
  frequencyIndex : Nat
  channels : Nat
  frameLength : Nat
  deriving DecidableEq, Repr

/-- The header at the start of a frame. -/
def adtsHeader (frame : List UInt8) : AdtsHeader :=
  { syncword := (frame.getD 0 0).toNat * 16 + (frame.getD 1 0).toNat / 16
    protectionAbsent := (frame.getD 1 0).toNat % 2
    profile := (frame.getD 2 0).toNat / 64
    frequencyIndex := (frame.getD 2 0).toNat / 4 % 16
    channels := (frame.getD 2 0).toNat % 2 * 4 + (frame.getD 3 0).toNat / 64
    frameLength := (frame.getD 3 0).toNat % 4 * 2048 + (frame.getD 4 0).toNat * 8 +
      (frame.getD 5 0).toNat / 32 }

/-- The header of a frame with `n` raw bytes, without a checksum. -/
def AudioConfig.header (config : AudioConfig) (n : Nat) : AdtsHeader :=
  { syncword := 0xfff
    protectionAbsent := 1
    profile := config.objectType - 1
    frequencyIndex := config.frequencyIndex
    channels := config.channels
    frameLength := n + 7 }

end RtmpRecv.Wire
