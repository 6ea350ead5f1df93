import RtmpRecv.Wire.Adts
import RtmpRecv.Wire.Avc

/-!
# The messages of a presentation

Library `Wire`. What a server sends of one presentation: sequence headers and frames of an AVC video
stream and of an AAC audio stream, with other messages between them. An ADTS header as it is
written. Nothing here is translated from the client.
-/

namespace RtmpRecv.Wire

/-! ### ADTS headers -/

/-- The seven bytes of a header without a checksum, with zero for the bits that are no field. -/
def AdtsHeader.bytes (h : AdtsHeader) : List UInt8 :=
  [UInt8.ofNat (h.syncword / 16), UInt8.ofNat (h.syncword % 16 * 16 + h.protectionAbsent),
    UInt8.ofNat (h.profile * 64 + h.frequencyIndex * 4 + h.channels / 4),
    UInt8.ofNat (h.channels % 4 * 64 + h.frameLength / 2048 % 4), UInt8.ofNat (h.frameLength / 8),
    UInt8.ofNat (h.frameLength % 8 * 32), 0]

@[simp] theorem AdtsHeader.length_bytes (h : AdtsHeader) : h.bytes.length = 7 := rfl

/-- Every field fits into its bits. -/
structure AdtsHeader.Fits (h : AdtsHeader) : Prop where
  syncword : h.syncword < 4096
  protectionAbsent : h.protectionAbsent < 2
  profile : h.profile < 4
  frequencyIndex : h.frequencyIndex < 16
  channels : h.channels < 8
  frameLength : h.frameLength < 8192

/-- A header is read as it was written. -/
theorem adtsHeader_bytes {h : AdtsHeader} (hfits : h.Fits) (raw : List UInt8) :
    adtsHeader (h.bytes ++ raw) = h := by
  obtain ⟨hsync, hprotection, hprofile, hindex, hchannels, hlength⟩ := hfits
  cases h
  simp only [adtsHeader, AdtsHeader.bytes, List.cons_append, List.getD_cons_zero,
    List.getD_cons_succ, UInt8.toNat_ofNat', AdtsHeader.mk.injEq] at *
  omega

/-- The header of a frame fits when the configuration does and the frame is not too long. -/
theorem AudioConfig.header_fits {config : AudioConfig} (h : config.Framed)
    (hindex : config.frequencyIndex < 16) {n : Nat} (hn : n + 7 < 8192) :
    (config.header n).Fits := by
  obtain ⟨hlow, hhigh, hchannels⟩ := h
  constructor
  · show 0xfff < 4096
    decide
  · show 1 < 2
    decide
  · show config.objectType - 1 < 4
    omega
  · exact hindex
  · exact Nat.lt_succ_of_le hchannels
  · exact hn

/-! ### Messages -/

/-- An AAC sequence header: the tag, packet type 0 and the configuration. -/
structure AacConfig where
  format : Fin 16
  b0 : UInt8
  b1 : UInt8
  rest : List UInt8
  framed : (AudioConfig.ofBytes b0 b1).Framed

/-- The fields of the configuration. -/
def AacConfig.config (a : AacConfig) : AudioConfig := AudioConfig.ofBytes a.b0 a.b1

/-- The message body: sound format 10, packet type 0. -/
def AacConfig.body (a : AacConfig) : List UInt8 :=
  UInt8.ofNat (160 + a.format) :: 0x00 :: a.b0 :: a.b1 :: a.rest

/-- A raw AAC frame. -/
structure AacFrame where
  format : Fin 16
  raw : List UInt8

/-- The message body: sound format 10, packet type 1. -/
def AacFrame.body (a : AacFrame) : List UInt8 := UInt8.ofNat (160 + a.format) :: 0x01 :: a.raw

/-- The tag of an AAC message has its sound format in the high half. -/
theorem aacTag : ∀ format : Fin 16, UInt8.ofNat (160 + format) >>> 4 = 10 := by
  decide

/-- A message of a presentation. -/
inductive MediaItem where
  | avcHeader (h : AvcHeader)
  | avcFrame (f : AvcAccessUnit)
  | aacConfig (a : AacConfig)
  | aacFrame (a : AacFrame)
  | other

/-- A message of the type `type` with the body `body` is the item. -/
def MediaItem.Is (item : MediaItem) (type : Nat) (body : List UInt8) : Prop :=
  match item with
  | .avcHeader h => type = 9 ∧ body = h.body
  | .avcFrame f => type = 9 ∧ body = f.body
  | .aacConfig a => type = 8 ∧ body = a.body
  | .aacFrame a => type = 8 ∧ body = a.body
  | .other => type ≠ 8 ∧ type ≠ 9

end RtmpRecv.Wire
