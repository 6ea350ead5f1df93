import RtmpRecv.Client.State

/-!
# Commands sent to the server

Library `Client`. Models the senders of `rtmp_lib.cpp:148-518`. A `Writer` is the pair of the
buffer and the write pointer `data_ptr` as an offset; the code adds the result of each push
to the pointer, also when it is `-1`. Strings are ASCII bytes, numbers 64-bit patterns.
-/

namespace RtmpRecv.Client
open RtmpRecv.Base RtmpRecv.Amf0

/-- A packet buffer of `size` bytes and the pointer `data_ptr`. -/
structure Writer where
  buf : Mem
  dataPtr : Int
  size : Int

namespace Writer

/-- A zeroed buffer with the pointer at its start. -/
def start (size : Int) : Writer := ⟨fun _ ↦ 0, 0, size⟩

/-- `*data_ptr = b; data_ptr++`. -/
def put (w : Writer) (b : UInt8) : Writer :=
  { w with buf := w.buf.set w.dataPtr.toNat b, dataPtr := w.dataPtr + 1 }

/-- `data_ptr += n`. -/
def skip (w : Writer) (n : Int) : Writer := { w with dataPtr := w.dataPtr + n }

/-- `memcpy(data_ptr, bytes, n); data_ptr += n`. -/
def copy (w : Writer) (bytes : List UInt8) : Writer :=
  { w with buf := w.buf.memcpy w.dataPtr.toNat bytes, dataPtr := w.dataPtr + bytes.length }

/-- `amf0_ret = push(data_ptr, data_end - data_ptr, ..); data_ptr += amf0_ret`. -/
def push (w : Writer) (f : Mem → Int → Int × Mem) : Writer :=
  let (amf0Ret, dst) := f (w.buf.shift w.dataPtr.toNat) (w.size - w.dataPtr)
  { w with buf := w.buf.splice w.dataPtr.toNat dst, dataPtr := w.dataPtr + amf0Ret }

/-- `rtmp_amf0_push_string` at the pointer. -/
def pushString (w : Writer) (s : List UInt8) : Writer :=
  w.push fun dst n ↦ rtmpAmf0PushString dst n s

/-- `rtmp_amf0_push_number` at the pointer. -/
def pushNumber (w : Writer) (value : Nat) : Writer :=
  w.push fun dst n ↦ rtmpAmf0PushNumber dst n value

/-- `rtmp_amf0_push_object_prop_name` at the pointer. -/
def pushObjectPropName (w : Writer) (name : List UInt8) : Writer :=
  w.push fun dst n ↦ rtmpAmf0PushObjectPropName dst n name

/-- The three length bytes, patched in at offset 4 once the body is complete. -/
def patchMessageLen (w : Writer) (headerLen : Int) : Writer :=
  let messageLen := swap4Byte (toUInt32 (w.dataPtr - headerLen))
  { w with buf := w.buf.memcpy 4 ((le32Bytes messageLen).drop 1) }

/-- The bytes from the start of the buffer to the pointer. -/
def bytes (w : Writer) : List UInt8 := w.buf.slice 0 w.dataPtr.toNat

end Writer

/-- The bytes of an ASCII string. -/
def ascii (s : String) : List UInt8 := s.toList.map fun ch ↦ UInt8.ofNat ch.toNat

/-- `rtmp_send_to_server_c2`. -/
def rtmpSendToServerC2 (c : RtmpClient) : Int × RtmpClient :=
  let (timeNow, c) := c.time
  let c := { c with rtmpStatus := .sendC2 }
  let c2 := (Mem.ofList []).memcpy 4 (le32Bytes timeNow)
  let (ret, c) := c.send (c2.slice 0 1536)
  if ret < 0 then (ret, c) else (ret, { c with rtmpStatus := .waitS2 })

/-- The first bytes of a fmt 0 header: basic header, zero timestamp, room for the length, type. -/
def startHeader (size : Int) (basic type : UInt8) : Writer :=
  (((Writer.start size).put basic).skip 6).put type

/-- The packet that `rtmp_send_to_server_connect` builds, before it is split. -/
def connectPacket (rtmpApp rtmpUrl : List UInt8) : Writer :=
  let w := (startHeader (1024 * 5) 0x03 0x14).skip 4
  let w := (w.pushString (ascii "connect")).pushNumber 0x3ff0000000000000
  let w := w.push rtmpAmf0PushObjectHeader
  let w := (w.pushObjectPropName (ascii "app")).pushString rtmpApp
  let w := (w.pushObjectPropName (ascii "flashVer")).pushString (ascii "LNX 9,0,124,2")
  let w := (w.pushObjectPropName (ascii "tcUrl")).pushString rtmpUrl
  let w := (w.pushObjectPropName (ascii "fpad")).push fun dst n ↦ rtmpAmf0PushBool dst n 0
  let w := (w.pushObjectPropName (ascii "capabilities")).pushNumber 0x402e000000000000
  let w := (w.pushObjectPropName (ascii "audioCodecs")).pushNumber 0x40afce0000000000
  let w := (w.pushObjectPropName (ascii "videoCodecs")).pushNumber 0x406f800000000000
  let w := (w.pushObjectPropName (ascii "videoFunction")).pushNumber 0x3ff0000000000000
  let w := w.push rtmpAmf0PushObjectEnder
  w.patchMessageLen 12

/-- `rtmp_send_to_server_connect`. -/
def rtmpSendToServerConnect (c : RtmpClient) : Int × RtmpClient :=
  let w := connectPacket c.rtmpApp c.rtmpUrl
  let (sendLen, buf) := rtmpAmf0SplitePack 0xc3 12 w.buf w.dataPtr.toNat
  let (ret, c) := c.send (buf.slice 0 sendLen.toNat)
  if ret < 0 then (ret, c) else (ret, { c with rtmpStatus := .waitConnect })

/-- `rtmp_send_to_server_win_ack_size`: `none` is the result `-1`, else the bytes built. -/
def rtmpSendToServerWinAckSize (acknowledgementSize : Nat) (pagLen : Int) :
    Option (List UInt8) :=
  if pagLen < 12 + 32 then none
  else
    let w := (startHeader pagLen 0x02 0x05).skip 4
    some ((w.copy (le32Bytes (swap4Byte acknowledgementSize))).patchMessageLen 12).bytes

/-- The two requests behind a fmt 1 header that differ in name and transaction number only. -/
def rtmpSendToServerRequest (name : List UInt8) (number : Nat) (pagLen : Int) :
    Option (List UInt8) :=
  if pagLen < 8 + 32 then none
  else
    let w := ((startHeader pagLen 0x43 0x14).pushString name).pushNumber number
    some ((w.push rtmpAmf0PushNull).patchMessageLen 8).bytes

/-- `rtmp_send_to_server_create_stream`. -/
def rtmpSendToServerCreateStream (pagLen : Int) : Option (List UInt8) :=
  rtmpSendToServerRequest (ascii "createStream") 0x4000000000000000 pagLen

/-- `rtmp_send_to_server_checkbw`. -/
def rtmpSendToServerCheckbw (pagLen : Int) : Option (List UInt8) :=
  rtmpSendToServerRequest (ascii "_checkbw") 0x4008000000000000 pagLen

/-- `rtmp_send_to_server_get_stream_length`. -/
def rtmpSendToServerGetStreamLength (c : RtmpClient) : Int × RtmpClient :=
  let w := (startHeader 1024 0x08 0x14).skip 4
  let w := (w.pushString (ascii "getStreamLength")).pushNumber 0x4010000000000000
  let w := (w.push rtmpAmf0PushNull).pushString c.rtmpStream
  c.send (w.patchMessageLen 12).bytes

/-- `(int)value` for a 64-bit pattern: truncation toward zero. Values outside the range of
`int`, infinities and NaN give the pattern the x86-64 conversion yields. -/
def doubleToInt (pattern : Nat) : Int :=
  let exponent := pattern / 4503599627370496 % 2048
  let mantissa := pattern % 4503599627370496 + 4503599627370496
  let magnitude := if exponent < 1023 then 0
    else if exponent < 1075 then mantissa / 2 ^ (1075 - exponent)
    else 4294967296
  let value : Int := if pattern / 9223372036854775808 % 2 = 1 then -magnitude else magnitude
  if -2147483648 ≤ value ∧ value < 2147483648 then value else -2147483648

/-- `rtmp_send_to_server_play`. -/
def rtmpSendToServerPlay (c : RtmpClient) : Int × RtmpClient :=
  let w := startHeader 1024 0x08 0x14
  let streamId := UInt8.ofNat (toUInt32 (doubleToInt c.rtmpNowStreamId))
  let w := (w.put streamId).skip 3
  let w := (w.pushString (ascii "play")).pushNumber 0x4014000000000000
  let w := (w.push rtmpAmf0PushNull).pushString c.rtmpStream
  let w := w.pushNumber 0xc09f400000000000
  c.send (w.patchMessageLen 12).bytes

/-- `rtmp_send_to_server_Set_buffer_length`. -/
def rtmpSendToServerSetBufferLength (c : RtmpClient) : Int × RtmpClient :=
  let w := startHeader 1024 0x42 0x04
  let w := (((w.skip 1).put 0x03).skip 3).put 0x01
  c.send ((w.copy (le32Bytes (swap4Byte 3000))).patchMessageLen 8).bytes

end RtmpRecv.Client
