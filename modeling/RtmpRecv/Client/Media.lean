import RtmpRecv.Client.Commands

/-!
# Audio and video handlers

Library `Client`. Models `rtmp_process_video` and `rtmp_process_audio` of the TS build
(`rtmp_lib.cpp:1075-1225`) as programs over the message memory. Each is cut in two at the
call of `rtmp_tots_packet_from_cache`: the first part decides what is handed over.
-/

namespace RtmpRecv.Client
open RtmpRecv.Base RtmpRecv.Tots

/-- What the first part of a media handler decides: return a value, or hand a frame to the
muxer. The client has the stores made so far. -/
inductive MediaStep where
  | done (ret : Int) (c : RtmpClient)
  | frame (pack : PackData) (c : RtmpClient)

/-- The client that the first part of a handler leaves. -/
def MediaStep.client : MediaStep → RtmpClient
  | .done _ c => c
  | .frame _ c => c

/-- Store to `video_head_data` at its end: `video_head_data[video_head_data_len++]` in a row. -/
def appendVideoHead (c : RtmpClient) (bytes : List UInt8) : Access Fault RtmpClient :=
  if c.videoHeadDataLen + bytes.length > 1024 then .fail .outOfBounds
  else pure { c with
    videoHeadData := c.videoHeadData.memcpy c.videoHeadDataLen bytes
    videoHeadDataLen := c.videoHeadDataLen + bytes.length }

/-- The 16-bit length at `off`: a little endian load followed by `SWAP_2BYTE`. -/
def loadSwap2 (off : Nat) : Access Fault Nat := do
  let low ← Access.get off
  let high ← Access.get (off + 1)
  pure (Amf0.swap2Byte (low.toNat + high.toNat * 256))

/-- The branch of `rtmp_process_video` for an AVC sequence header; `ptr` and `dataLen` are
`messsge_data` and `data_len` behind the five tag bytes. -/
def avcSequenceHeader (c : RtmpClient) (ptr : Nat) (dataLen : Int) : Access Fault MediaStep := do
  let c ← appendVideoHead { c with videoHeadDataLen := 0 } [0, 0, 0, 1]
  if dataLen < 8 then pure (.done (-1) c)
  else
    let spsLen ← loadSwap2 (ptr + 6)
    let ptr := ptr + 8
    if spsLen > 256 then pure (.done (-1) c)
    else
      let sps ← Access.getList ptr spsLen
      let c ← appendVideoHead c sps
      let ptr := ptr + spsLen
      let c ← appendVideoHead c [0, 0, 0, 1]
      let ppsLen ← loadSwap2 (ptr + 1)
      let ptr := ptr + 3
      if ppsLen > 256 then pure (.done (-1) c)
      else
        let pps ← Access.getList ptr ppsLen
        let c ← appendVideoHead c pps
        pure (.done 0 c)

/-- The 32-bit length at `off`: a little endian load followed by `SWAP_4BYTE`. -/
def loadSwap4 (off : Nat) : Access Fault Nat := do
  let b0 ← Access.get off
  let b1 ← Access.get (off + 1)
  let b2 ← Access.get (off + 2)
  let b3 ← Access.get (off + 3)
  pure (Amf0.swap4Byte (b0.toNat + b1.toNat * 256 + b2.toNat * 65536 + b3.toNat * 16777216))

/-- The start code `00 00 00 01` is stored at `off`. -/
def putStartCode (off : Nat) : Access Fault Unit := do
  Access.put off 0
  Access.put (off + 1) 0
  Access.put (off + 2) 0
  Access.put (off + 3) 1

/-- How far a round of the loop moves for a unit of length `len`: a 32-bit sum. -/
def nalAdvance (len : Nat) : Nat := (len + 4) % 4294967296

/-- The loop of `rtmp_process_video` that puts start codes over the unit lengths. It returns
`false` where the code returns `-1`. -/
def nalLoop : Nat → Nat → Int → Access Fault Bool
  | fuel, ptr, dataLen =>
    if dataLen > 4 then
      match fuel with
      | 0 => .fail .diverged
      | fuel + 1 => do
        let len ← loadSwap4 ptr
        if nalAdvance len > toUInt32 dataLen then pure false
        else do
          putStartCode ptr
          nalLoop fuel (ptr + nalAdvance len) (dataLen - nalAdvance len)
    else pure true

/-- Rounds that are enough for `nalLoop` on `dataLen` bytes: a round that does not advance
is followed by one that does. -/
def nalFuel (dataLen : Int) : Nat := 2 * dataLen.toNat + 2

/-- `rtmp_process_video` up to the call of the muxer. -/
def rtmpProcessVideoFrame (c : RtmpClient) (chunk : RtmpChunk) (dataLen : Int) :
    Access Fault MediaStep := do
  let tag ← Access.get 0
  let codecId := tag &&& 0x0f
  let frameType := tag >>> 4
  if codecId ≠ 7 then pure (.done (-1) c)
  else
    let dataLen := dataLen - 5
    let t0 ← Access.get 2
    let t1 ← Access.get 3
    let t2 ← Access.get 4
    let offsetTime := if be24 t0 t1 t2 > 1000 then 0 else be24 t0 t1 t2
    let pack : PackData :=
      { type := .h264, decodeMs := chunk.timeStamp
        pictureMs := (chunk.timeStamp + offsetTime) % 4294967296
        headData := none, headDataLen := 0
        data := 5, dataLen := toUInt32 dataLen, isKeyframe := false }
    if frameType = 1 then
      if (← Access.get 1) = 0 then avcSequenceHeader c 5 dataLen
      else
        let pack := { pack with
          headData := some c.videoHeadData
          headDataLen := c.videoHeadDataLen
          isKeyframe := true }
        if ← nalLoop (nalFuel dataLen) 5 dataLen then pure (.frame pack c)
        else pure (.done (-1) c)
    else
      if ← nalLoop (nalFuel dataLen) 5 dataLen then pure (.frame pack c)
      else pure (.done (-1) c)

/-- Hand a frame to the muxer; its result is dropped by both handlers. -/
def handToTots (pack : PackData) (c : RtmpClient) : Access Fault RtmpClient := do
  let (now, c) := c.getMillisecond64
  let (_, t) ← rtmpTotsPacketFromCache now pack c.rtmpSavetots
  pure { c with rtmpSavetots := t }

/-- `rtmp_process_video`. -/
def rtmpProcessVideo (c : RtmpClient) (chunk : RtmpChunk) (dataLen : Int) :
    Access Fault (Int × RtmpClient) := do
  match ← rtmpProcessVideoFrame c chunk dataLen with
  | .done ret c => pure (ret, c)
  | .frame pack c =>
    let c ← handToTots pack c
    pure (0, c)

/-- The seven bytes of `audio_head_data` built from the bytes 2 and 3 of an AAC sequence
header; the length bits are left zero. -/
def adtsHead (b2 b3 : UInt8) : List UInt8 :=
  [0xFF, 0xF1,
    ((((b2 >>> 3) &&& 0x1F) - 1) &&& 0x03) <<< 6 |||
      ((((b2 &&& 0x07) <<< 1) ||| ((b3 >>> 7) &&& 0x01)) &&& 0x0F) <<< 2 |||
      ((((b3 >>> 3) &&& 0x0F) >>> 2) &&& 0x01),
    (((b3 >>> 3) &&& 0x0F) &&& 0x03) <<< 6, 0, 0, 0]

/-- `rtmp_process_audio` up to the stores of the ADTS length and the call of the muxer. -/
def rtmpProcessAudioFrame (c : RtmpClient) (chunk : RtmpChunk) (dataLen : Int) :
    Access Fault MediaStep := do
  let tag ← Access.get 0
  let pack : PackData :=
    { type := .unset, decodeMs := chunk.timeStamp, pictureMs := chunk.timeStamp
      headData := none, headDataLen := 0
      data := 1, dataLen := toUInt32 (dataLen - 1), isKeyframe := false }
  if tag >>> 4 = 10 then
    let packetType ← Access.get 1
    if c.audioHeadDataLen = 0 ∧ packetType ≠ 0 then pure (.done 0 c)
    else if packetType = 0 then
      let b2 ← Access.get 2
      let b3 ← Access.get 3
      pure (.done 0 { c with
        audioHeadData := c.audioHeadData.memcpy 0 (adtsHead b2 b3)
        audioHeadDataLen := 7 })
    else
      pure (.frame { pack with
        type := .aac
        headData := some c.audioHeadData
        headDataLen := c.audioHeadDataLen
        data := 2
        dataLen := toUInt32 ((toUInt32 (dataLen - 1) : Int) - 1) } c)
  else pure (.frame pack c)

/-- `audio_head_data` with the 13 bits of the ADTS frame length. -/
def adtsLength (head : Mem) (aacFrameLength : Nat) : Mem :=
  ((head.set 3 (head 3 ||| UInt8.ofNat (aacFrameLength / 2048 % 4))).set 4
    (UInt8.ofNat (aacFrameLength / 8))).set 5 (UInt8.ofNat (aacFrameLength % 8 * 32))

/-- `rtmp_process_audio`: the head the muxer sees holds the length of this frame; afterwards
byte 3 is restored. -/
def rtmpProcessAudio (c : RtmpClient) (chunk : RtmpChunk) (dataLen : Int) :
    Access Fault (Int × RtmpClient) := do
  match ← rtmpProcessAudioFrame c chunk dataLen with
  | .done ret c => pure (ret, c)
  | .frame pack c =>
    let aacFrameLength := (pack.dataLen + c.audioHeadDataLen) % 4294967296
    let b3 := c.audioHeadData 3
    let head := adtsLength c.audioHeadData aacFrameLength
    -- `pack.head_data` points to `audio_head_data`, so it sees the stores just made
    let pack := { pack with headData := pack.headData.map fun _ ↦ head }
    let c ← handToTots pack { c with audioHeadData := head }
    pure (0, { c with audioHeadData := c.audioHeadData.set 3 b3 })

end RtmpRecv.Client
