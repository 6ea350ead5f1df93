import RtmpRecv.Tots.Crc32

/-!
# Muxer state and program tables

Library `Tots`. Models `rtmp_tots.h:138-191`, the constructor `rtmp_tots.cpp:3-8` and the
table builders `rtmp_tots.cpp:46-138`. Unsigned fields are naturals that wrap where the
code adds to them. `file` holds the bytes of each `file_write`, in order.
-/

namespace RtmpRecv

/-- Behaviour that C leaves undefined or that ends the process: a store outside an array,
a failed `assert`, a null pointer, and a loop that does not end. -/
inductive Fault where
  | outOfBounds
  | assertion
  | nullPointer
  | diverged
  deriving DecidableEq, Repr

namespace Tots
open RtmpRecv.Base

/-- `TS_PACKET_SIZE`. -/
def tsPacketSize : Nat := 188

/-- `VIDEO_PID`. -/
def videoPid : Nat := 0x1100

/-- `AUDIO_PID`. -/
def audioPid : Nat := 0x1101

/-- `PACKET_PES_BUF`. -/
def packetPesBuf : Nat := 1024 * 1024 * 4 + 1024

/-- `data_type_t`; `unset` is the zero that `memset` leaves. -/
inductive DataType where
  | unset
  | mp3
  | aac
  | h264
  deriving DecidableEq, Repr

/-- `es_unit_start_type_t`. -/
inductive EsUnitStartType where
  | init
  | startcode3
  | startcode4
  | aac
  deriving DecidableEq, Repr

/-- `pack_data_t`. `headData` is null or the memory it points to; `data` is the offset of
its pointer in the message being handled, which is never null. -/
structure PackData where
  type : DataType
  decodeMs : Nat
  pictureMs : Nat
  headData : Option Mem
  headDataLen : Nat
  data : Nat
  dataLen : Nat
  isKeyframe : Bool

/-- `rtmp_packet_t`. `tsFp` says that the file handle is valid. -/
structure RtmpTots where
  patPacket : List UInt8
  pmtPacket : List UInt8
  patNum : Nat
  frameNum : Nat
  videoCount : Nat
  audioCount : Nat
  tsCache : Mem
  tsCacheLen : Nat
  pesBuf : Mem
  pesLen : Nat
  packData : Option PackData
  unitType : EsUnitStartType
  lastVideoPictureMs : Nat
  lastPsiTime : Nat
  tsFp : Bool
  file : List (List UInt8)

/-- The constructor `rtmp_tots`: `pesBuf` is what the new buffer holds, `tsFp` whether the
file opened, `now` the clock. -/
def rtmpTots (pesBuf : Mem) (tsFp : Bool) (now : Nat) : RtmpTots :=
  { patPacket := List.replicate tsPacketSize 0
    pmtPacket := List.replicate tsPacketSize 0
    patNum := 0, frameNum := 0, videoCount := 0, audioCount := 0
    tsCache := fun _ ↦ 0, tsCacheLen := 0
    pesBuf := pesBuf, pesLen := 0
    packData := none, unitType := .init
    lastVideoPictureMs := 0, lastPsiTime := now
    tsFp := tsFp, file := [] }

/-- The twelve bytes of the PAT before its CRC. -/
def patTable : List UInt8 :=
  [0x00, 0xb0, 0x0d, 0x00, 0x01, 0xc1, 0x00, 0x00, 0x00, 0x01, 0xe1, 0x00]

/-- The 22 bytes of the PMT before its CRC. -/
def pmtTable : List UInt8 :=
  [0x02, 0xb0, 0x17, 0x00, 0x01, 0xc1, 0x00, 0x00, 0xf1, 0x00, 0xf0, 0x00,
    0x1b, 0xf1, 0x00, 0xf0, 0x00, 0x0f, 0xf1, 0x01, 0xf0, 0x00]

/-- A table packet: header with its counter, the section, its CRC, and filling bytes. -/
def tablePacket (b1 : UInt8) (patNum : Nat) (table : List UInt8) : List UInt8 :=
  let head : List UInt8 := [0x47, b1, 0x00, UInt8.ofNat (0x10 ||| patNum % 0x10), 0x00]
  let section' := table ++ be32Bytes (rtmpTotsPacketTsCrc32 table)
  head ++ section' ++ List.replicate (tsPacketSize - (head ++ section').length) 0xff

/-- `rtmp_tots_packet_ts_pat_table`. -/
def rtmpTotsPacketTsPatTable (t : RtmpTots) : RtmpTots :=
  { t with patPacket := tablePacket 0x40 t.patNum patTable }

/-- `rtmp_tots_packet_ts_pmt_table`: it also advances the counter the two tables share. -/
def rtmpTotsPacketTsPmtTable (t : RtmpTots) : RtmpTots :=
  { t with
    pmtPacket := tablePacket 0x41 t.patNum pmtTable
    patNum := (t.patNum + 1) % 4294967296 }

end Tots
end RtmpRecv
