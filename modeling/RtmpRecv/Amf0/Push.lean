import RtmpRecv.Base.Mem

/-!
# AMF0 encoders and the chunk splitter

Library `Amf0`. Models the push functions and the splitter of `rtmp_amf0.cpp:12-149`
and the byte swaps of `rtmp_amf0.h:7-9`. A push gets the memory its pointer `dst` sees
and the room behind it; it returns the C result and that memory afterwards. The host is
little endian. A double travels as its 64-bit pattern.
-/

namespace RtmpRecv.Amf0
open RtmpRecv.Base

/-- The bytes of a 16-bit value in memory, least significant first. -/
def le16Bytes (n : Nat) : List UInt8 := [UInt8.ofNat n, UInt8.ofNat (n / 256)]

/-- The bytes of a 32-bit value in memory. -/
def le32Bytes (n : Nat) : List UInt8 := le16Bytes n ++ le16Bytes (n / 65536)

/-- The bytes of a 64-bit value in memory. -/
def le64Bytes (n : Nat) : List UInt8 := le32Bytes n ++ le32Bytes (n / 4294967296)

/-- `SWAP_2BYTE`. -/
def swap2Byte (l : Nat) : Nat := l % 256 * 256 + l / 256 % 256

/-- `SWAP_4BYTE`. -/
def swap4Byte (l : Nat) : Nat := swap2Byte (l % 65536) * 65536 + swap2Byte (l / 65536 % 65536)

/-- `SWAP_8BYTE`. -/
def swap8Byte (l : Nat) : Nat :=
  swap4Byte (l % 4294967296) * 4294967296 + swap4Byte (l / 4294967296 % 4294967296)

/-- `rtmp_amf0_push_string`; `strValue` is the string up to its NUL. -/
def rtmpAmf0PushString (dst : Mem) (dstSize : Int) (strValue : List UInt8) : Int × Mem :=
  let len := strValue.length
  if dstSize < len + 3 ∨ len > 0xffff then (-1, dst)
  else (len + 3,
    ((dst.set 0 0x02).memcpy 1 (le16Bytes (swap2Byte len))).memcpy 3 strValue)

/-- `rtmp_amf0_push_number`. -/
def rtmpAmf0PushNumber (dst : Mem) (dstSize : Int) (value : Nat) : Int × Mem :=
  if dstSize < 9 then (-1, dst)
  else (9, (dst.set 0 0x00).memcpy 1 (le64Bytes (swap8Byte value)))

/-- `rtmp_amf0_push_object_header`. -/
def rtmpAmf0PushObjectHeader (dst : Mem) (dstSize : Int) : Int × Mem :=
  if dstSize < 1 then (-1, dst) else (1, dst.set 0 0x03)

/-- `rtmp_amf0_push_object_ender`. -/
def rtmpAmf0PushObjectEnder (dst : Mem) (dstSize : Int) : Int × Mem :=
  if dstSize < 3 then (-1, dst) else (3, dst.memcpy 0 [0x00, 0x00, 0x09])

/-- `rtmp_amf0_push_object_prop_name`. -/
def rtmpAmf0PushObjectPropName (dst : Mem) (dstSize : Int) (name : List UInt8) : Int × Mem :=
  let len := name.length
  if dstSize < len + 2 ∨ len > 0xffff then (-1, dst)
  else (len + 2, (dst.memcpy 0 (le16Bytes (swap2Byte len))).memcpy 2 name)

/-- `rtmp_amf0_push_bool`. -/
def rtmpAmf0PushBool (dst : Mem) (dstSize : Int) (value : Int) : Int × Mem :=
  if dstSize < 2 then (-1, dst)
  else (2, (dst.set 0 0x01).set 1 (if value ≠ 0 then 1 else 0))

/-- `rtmp_amf0_push_null`. -/
def rtmpAmf0PushNull (dst : Mem) (dstSize : Int) : Int × Mem :=
  if dstSize < 1 then (-1, dst) else (1, dst.set 0 0x05)

/-- The loop of `rtmp_amf0_splite_pack`: one block is moved in each round, the last block
first; `src` and `dst` are offsets. -/
def splitLoop (ct : UInt8) : Nat → Mem → Nat → Nat → Mem
  | 0, pagBuf, _, _ => pagBuf
  | rounds + 1, pagBuf, src, dst =>
    let moved := pagBuf.memcpy dst (pagBuf.slice src 128)
    splitLoop ct rounds (moved.set (dst - 1) ct) (src - 128) (dst - 129)

/-- `rtmp_amf0_splite_pack`: cut a message behind its header into chunks of 128 bytes, in a buffer
with room for every block that is moved. -/
def rtmpAmf0SplitePack (ct : UInt8) (headerLen : Nat) (pagBuf : Mem) (pagLen : Nat) :
    Int × Mem :=
  if pagLen ≤ headerLen then (-1, pagBuf)
  else
    let pageCount := (pagLen - headerLen - 1) / 128
    if pageCount = 0 then (pagLen, pagBuf)
    else (pagLen + pageCount,
      splitLoop ct pageCount pagBuf (headerLen + pageCount * 128) (headerLen + pageCount * 129))

/-- The same loop in a buffer of `room` bytes: `none` where a `memmove`, which always takes 128
bytes, passes the end of the buffer. -/
def splitLoopIn (room : Nat) (ct : UInt8) : Nat → Mem → Nat → Nat → Option Mem
  | 0, pagBuf, _, _ => some pagBuf
  | rounds + 1, pagBuf, src, dst =>
    if src + 128 ≤ room ∧ dst + 128 ≤ room then
      let moved := pagBuf.memcpy dst (pagBuf.slice src 128)
      splitLoopIn room ct rounds (moved.set (dst - 1) ct) (src - 128) (dst - 129)
    else none

/-- `rtmp_amf0_splite_pack` in a buffer of `room` bytes. -/
def rtmpAmf0SplitePackIn (room : Nat) (ct : UInt8) (headerLen : Nat) (pagBuf : Mem)
    (pagLen : Nat) : Option (Int × Mem) :=
  if pagLen ≤ headerLen then some (-1, pagBuf)
  else
    let pageCount := (pagLen - headerLen - 1) / 128
    if pageCount = 0 then some ((pagLen : Int), pagBuf)
    else
      let split := splitLoopIn room ct pageCount pagBuf (headerLen + pageCount * 128)
        (headerLen + pageCount * 129)
      split.map fun pagBuf ↦ ((pagLen + pageCount : Nat), pagBuf)

end RtmpRecv.Amf0
