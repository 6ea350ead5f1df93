import RtmpRecv.Client.Media

/-!
# Message dispatch and the command handler

Library `Client`. Models `rtmp_process_message` (TS build) and the command handlers of
`rtmp_lib.cpp:524-606,803-867`.
-/

namespace RtmpRecv.Client
open RtmpRecv.Base RtmpRecv.Amf0

/-- `rtmp_process_cmd_0x14_connect_result`. -/
def rtmpProcessCmd0x14ConnectResult (c : RtmpClient) : Int × RtmpClient :=
  match rtmpSendToServerWinAckSize c.acknowledgementSize 1024 with
  | none => (-1, c)
  | some ack =>
    match rtmpSendToServerCreateStream (1024 - ack.length) with
    | none => (-1, c)
    | some create =>
      match rtmpSendToServerCheckbw (1024 - (ack.length + create.length)) with
      | none => (-1, c)
      | some check =>
        let (_, c) := c.send (ack ++ create ++ check)
        (0, { c with rtmpStatus := .waitCreateStream })

/-- `rtmp_process_cmd_0x14_create_stream_result`; `src` is the offset of `messsge_data`. -/
def rtmpProcessCmd0x14CreateStreamResult (c : RtmpClient) (src : Nat) (dataLen : Int) :
    Access Fault (Int × RtmpClient) := do
  match ← rtmpAmf0PopNumber src dataLen with
  | none => pure (-1, c)
  | some (_, ret) =>
    let src := src + ret
    let dataLen := dataLen - ret
    match ← rtmpAmf0PopNull src dataLen with
    | none => pure (-1, c)
    | some ret =>
      match ← rtmpAmf0PopNumber (src + ret) (dataLen - ret) with
      | none => pure (-1, c)
      | some (rtmpNowStreamId, _) =>
        let c := { c with rtmpNowStreamId := rtmpNowStreamId }
        let (_, c) := rtmpSendToServerGetStreamLength c
        let (_, c) := rtmpSendToServerPlay c
        let (_, c) := rtmpSendToServerSetBufferLength c
        pure (0, { c with rtmpStatus := .waitPlay })

/-- `rtmp_process_cmd_0x14`. The command name ends at its first NUL for `strcmp`. -/
def rtmpProcessCmd0x14 (c : RtmpClient) (dataLen : Int) : Access Fault (Int × RtmpClient) := do
  match ← rtmpAmf0PopString 256 0 dataLen with
  | none => pure (-1, c)
  | some (commandName, ret) =>
    if commandName.takeWhile (· ≠ 0) = ascii "_result" then
      if c.rtmpStatus = .waitConnect then pure (rtmpProcessCmd0x14ConnectResult c)
      else if c.rtmpStatus = .waitCreateStream then
        rtmpProcessCmd0x14CreateStreamResult c ret (dataLen - ret)
      else pure (0, c)
    else pure (0, c)

/-- The big endian value of the first four body bytes that three control messages carry. -/
def controlValue : Access Fault Nat := do
  let b0 ← Access.get 0
  let b1 ← Access.get 1
  let b2 ← Access.get 2
  let b3 ← Access.get 3
  pure (be32 b0 b1 b2 b3)

/-- `rtmp_process_message`; `chunk` is the `rtmp_chunk_t` its pointer refers to. -/
def rtmpProcessMessage (c : RtmpClient) (chunk : RtmpChunk) (dataLen : Int) :
    Access Fault (Int × RtmpClient) :=
  match chunk.messageType with
  | 0x01 => do
    let value ← controlValue
    pure (0, { c with rtmpChunkMaxSize := value })
  | 0x05 => do
    let value ← controlValue
    pure (0, { c with acknowledgementSize := value })
  | 0x06 => do
    let value ← controlValue
    pure (0, { c with bandwidth := value })
  | 0x08 => rtmpProcessAudio c chunk dataLen
  | 0x09 => rtmpProcessVideo c chunk dataLen
  | 0x14 => rtmpProcessCmd0x14 c dataLen
  | _ => pure (0, c)

end RtmpRecv.Client
