import RtmpRecv.Base.Access
import RtmpRecv.Tots.TsHeader

/-!
# Building a PES packet from a frame

Library `Tots`. Models `rtmp_tots_packet_from_cache` and the two PES builders,
`rtmp_tots.cpp:15-28,140-284`, as programs over the buffer of the message that carries the
frame. Copies past the end of `pes_buf` are faults.
-/

namespace RtmpRecv.Tots
open RtmpRecv.Base

/-- A pointer of the muxer into the frame: to the head data or to an offset of the message. -/
inductive Pointer where
  | head (m : Mem)
  | data (off : Nat)

/-- `p[i]`. -/
def Pointer.at : Pointer → Nat → Access Fault UInt8
  | .head m, i => pure (m i)
  | .data off, i => Access.get (off + i)

/-- `rtmp_tots_packet_pes_set_time`: the ten bytes of `time_buf`. -/
def rtmpTotsPacketPesSetTime (pts dts : Nat) : List UInt8 :=
  [UInt8.ofNat ((pts / 536870912 ||| 0x31) &&& 0x3f), UInt8.ofNat (pts / 4194304),
    UInt8.ofNat (pts / 16384 ||| 0x01), UInt8.ofNat (pts / 128), UInt8.ofNat (pts * 2 ||| 0x01),
    UInt8.ofNat ((dts / 536870912 ||| 0x11) &&& 0x1f), UInt8.ofNat (dts / 4194304),
    UInt8.ofNat (dts / 16384 ||| 0x01), UInt8.ofNat (dts / 128), UInt8.ofNat (dts * 2 ||| 0x01)]

/-- A `memcpy` to `pes_buf` of known bytes. -/
def copyToPes (t : RtmpTots) (off : Nat) (bytes : List UInt8) : Access Fault RtmpTots :=
  if off + bytes.length > packetPesBuf then .fail .outOfBounds
  else pure { t with pesBuf := t.pesBuf.memcpy off bytes }

/-- The copy of the head data, if there is any, to offset `off`. -/
def copyHead (t : RtmpTots) (off : Nat) (pack : PackData) : Access Fault RtmpTots :=
  match pack.headData with
  | some head =>
    if off + pack.headDataLen > packetPesBuf then .fail .outOfBounds
    else copyToPes t off (head.slice 0 pack.headDataLen)
  | none => pure t

/-- The copies of head data and data that both builders make from offset `off` on. -/
def copyFrame (t : RtmpTots) (off : Nat) (pack : PackData) : Access Fault RtmpTots := do
  let t ← copyHead t off pack
  if off + pack.headDataLen + pack.dataLen > packetPesBuf then .fail .outOfBounds
  else
    let bytes ← Access.getList pack.data pack.dataLen
    copyToPes t (off + pack.headDataLen) bytes

/-- The 32-bit sum `es_len`. -/
def esLen (pack : PackData) : Nat := (pack.headDataLen + pack.dataLen) % 4294967296

/-- Run the transport stage, which does not read the message. -/
def sendPes (now pts : Nat) (t : RtmpTots) : Access Fault (Int × RtmpTots) :=
  match rtmpTotsPacketTsHeader now pts t with
  | .error e => .fail e
  | .ok r => pure r

/-- The nine fixed bytes of a video PES header. -/
def videoPesHeader : List UInt8 := [0x00, 0x00, 0x01, 0xe0, 0x00, 0x00, 0x80, 0xc0, 0x0a]

/-- The access unit delimiter `unit_start`. -/
def unitStart : List UInt8 := [0x00, 0x00, 0x00, 0x01, 0x09, 0x10]

/-- The test for a frame that does not start with an access unit delimiter. -/
def lacksDelimiter (unitType : EsUnitStartType) (p : Pointer) : Access Fault Bool :=
  match unitType with
  | .startcode3 => do pure ((← p.at 3) != 0x09)
  | .startcode4 => do pure ((← p.at 4) != 0x09)
  | _ => pure false

/-- `rtmp_tots_packet_pes_video_header`. -/
def rtmpTotsPacketPesVideoHeader (now dts pts : Nat) (pack : PackData) (t : RtmpTots) :
    Access Fault (Int × RtmpTots) := do
  let t ← copyToPes t 0 videoPesHeader
  let t ← copyToPes t 9 (rtmpTotsPacketPesSetTime pts dts)
  if esLen pack > packetPesBuf - 25 then pure (-1, t)
  else
    let p : Pointer := match pack.headData with
      | some head => if pack.headDataLen > 0 then .head head else .data pack.data
      | none => .data pack.data
    if ← lacksDelimiter t.unitType p then
      let t ← copyToPes t 19 unitStart
      let t ← copyFrame t 25 pack
      sendPes now pts { t with pesLen := esLen pack + 25 }
    else
      let t ← copyFrame t 19 pack
      sendPes now pts { t with pesLen := esLen pack + 19 }

/-- The fourteen bytes of an audio PES header. -/
def audioPesHeader (esLen pts : Nat) : List UInt8 :=
  [0x00, 0x00, 0x01, 0xc0, UInt8.ofNat ((esLen + 8) % 4294967296 / 256),
    UInt8.ofNat ((esLen + 8) % 4294967296 &&& 0xff), 0x80, 0x80, 0x05,
    UInt8.ofNat ((pts / 536870912 ||| 0x21) &&& 0x2f), UInt8.ofNat (pts / 4194304),
    UInt8.ofNat (pts / 16384 ||| 0x01), UInt8.ofNat (pts / 128), UInt8.ofNat (pts * 2 ||| 0x01)]

/-- `rtmp_tots_packet_pes_audio_header`. -/
def rtmpTotsPacketPesAudioHeader (now pts : Nat) (pack : PackData) (t : RtmpTots) :
    Access Fault (Int × RtmpTots) := do
  let t ← copyToPes t 0 (audioPesHeader (esLen pack) pts)
  if esLen pack > packetPesBuf - 14 then pure (-1, t)
  else
    let t ← copyFrame t 14 pack
    sendPes now pts { t with pesLen := esLen pack + 14 }

/-- The start code tests of `rtmp_tots_packet_from_cache`, in the order of the code: a later
match replaces an earlier one, and `&&` stops at the first byte that differs. -/
def unitStartType (p : Pointer) : Access Fault EsUnitStartType := do
  let mut unitType := EsUnitStartType.init
  if (← p.at 0) = 0xff then
    if (← p.at 1) &&& 0xf0 = 0xf0 then unitType := .aac
  if (← p.at 0) = 0x00 then
    if (← p.at 1) = 0x00 then
      if (← p.at 2) = 0x01 then unitType := .startcode3
  if (← p.at 0) = 0x00 then
    if (← p.at 1) = 0x00 then
      if (← p.at 2) = 0x00 then
        if (← p.at 3) = 0x01 then unitType := .startcode4
  pure unitType

/-- `a - b` on 64-bit unsigned integers. -/
def sub64 (a b : Nat) : Nat := (a + 18446744073709551616 - b) % 18446744073709551616

/-- The time an audio frame is sent with, in milliseconds: its own one unless the last video
frame is 100 ms or more away. -/
def audioPictureMs (pictureMs lastVideoPictureMs : Nat) : Nat :=
  if lastVideoPictureMs = 0 ∨
      (sub64 pictureMs 100 < lastVideoPictureMs ∧
        lastVideoPictureMs < (pictureMs + 100) % 18446744073709551616) then pictureMs
  else lastVideoPictureMs

/-- `rtmp_tots_packet_from_cache`. -/
def rtmpTotsPacketFromCache (now : Nat) (pack : PackData) (t : RtmpTots) :
    Access Fault (Int × RtmpTots) := do
  let t := { t with pesBuf := t.pesBuf.set 0 0, pesLen := 0 }
  let p : Pointer := match pack.headData with
    | some head => .head head
    | none => .data pack.data
  let unitType ← unitStartType p
  let t := { t with unitType := unitType, packData := some pack }
  match pack.type with
  | .aac =>
    let pts := audioPictureMs pack.pictureMs t.lastVideoPictureMs * 90 % 18446744073709551616
    rtmpTotsPacketPesAudioHeader now pts pack t
  | .h264 =>
    let dts := pack.decodeMs * 90 % 18446744073709551616
    let pts := pack.pictureMs * 90 % 18446744073709551616
    rtmpTotsPacketPesVideoHeader now dts pts pack { t with lastVideoPictureMs := pack.pictureMs }
  | _ => pure (0, t)

end RtmpRecv.Tots
