import RtmpRecv.Amf0.Pop
import RtmpRecv.Tots.Pes

/-!
# Client state

Library `Client`. Models the data members of `rtmp_client` (`rtmp_lib.h:13-42,123-152`) that
the receive path uses, its constructor and `rtmp_start_play` (`rtmp_lib.cpp:4-16,95-143`).
What the operating system answers is a `Host`: each call takes the head of a stream of
answers. `rtmpMessages` is a history: the calls of `rtmp_process_message` so far.
-/

namespace RtmpRecv.Client
open RtmpRecv.Base RtmpRecv.Tots

/-- `MAX_BUF_LEN`. -/
def maxBufLen : Nat := 1024 * 64

/-- `MAX_CHUNK_ID`. -/
def maxChunkId : Nat := 64

/-- `rtmp_status_t`. -/
inductive RtmpStatus where
  | init
  | error
  | sendC0C1
  | waitS0S1
  | sendC2
  | waitS2
  | waitChunk
  | waitConnect
  | waitCreateStream
  | waitPlay
  | waitData
  deriving DecidableEq, Repr

/-- The value of the enumerator in `rtmp_status_t`. -/
def RtmpStatus.toNat : RtmpStatus → Nat
  | .init => 0
  | .error => 1
  | .sendC0C1 => 2
  | .waitS0S1 => 3
  | .sendC2 => 4
  | .waitS2 => 5
  | .waitChunk => 6
  | .waitConnect => 7
  | .waitCreateStream => 8
  | .waitPlay => 9
  | .waitData => 10

/-- `rtmp_chunk_t`. `messageBuf` is null or the memory it points to; `messageBufLen` is the
size of that memory. -/
structure RtmpChunk where
  messageSize : Nat
  lastMessageSize : Nat
  messageStreamId : Nat
  messageType : Nat
  timeStamp : Nat
  messageBuf : Option Mem
  messageBufLen : Nat
  messageBufPos : Nat
  rtmpFmt0Buf : List UInt8

/-- A `rtmp_chunk_t` of zero bytes. -/
def RtmpChunk.zero : RtmpChunk :=
  { messageSize := 0, lastMessageSize := 0, messageStreamId := 0, messageType := 0
    timeStamp := 0, messageBuf := none, messageBufLen := 0, messageBufPos := 0
    rtmpFmt0Buf := List.replicate 12 0 }

/-- Answers of the operating system, each stream in call order: results of `Send`, values of
`time(NULL)` and of `get_millisecond64`, contents of newly allocated message buffers, and the
results of `Create` and `Connect`. -/
structure Host where
  sendResult : Nat → Int
  timeNow : Nat → Nat
  millisecond : Nat → Nat
  heap : Nat → Mem
  createResult : Int
  connectResult : Int

/-- One call of `rtmp_process_message`: the chunk stream, the type, message stream id and time
stamp of its `rtmp_chunk_t`, and the body it is given. -/
structure RtmpMessage where
  chunkId : Nat
  messageType : Nat
  messageStreamId : Nat
  timeStamp : Nat
  body : List UInt8
  deriving DecidableEq, Repr

/-- `rtmp_client`. `sent` holds the buffers given to `Send`, in order; `m_pBuffer` belongs to
the receive loop. Strings are kept up to their NUL. -/
structure RtmpClient where
  host : Host
  sent : List (List UInt8)
  rtmpStatus : RtmpStatus
  rtmpUrl : List UInt8
  rtmpApp : List UInt8
  rtmpStream : List UInt8
  rtmpLastVideoTimestamp : Nat
  rtmpLastAudioTimestamp : Nat
  rtmpLastMessageType : Nat
  rtmpNowStreamId : Nat
  rtmpChunkMaxSize : Nat
  acknowledgementSize : Nat
  bandwidth : Nat
  mIParsePos : Int
  rtmpChunk : Nat → RtmpChunk
  rtmpSavetots : RtmpTots
  videoHeadData : Mem
  videoHeadDataLen : Nat
  audioHeadData : Mem
  audioHeadDataLen : Nat
  rtmpMessages : List RtmpMessage

namespace RtmpClient

/-- Store to one element of `rtmp_chunk`. -/
def setChunk (c : RtmpClient) (chunkId : Nat) (chunk : RtmpChunk) : RtmpClient :=
  { c with rtmpChunk := fun i ↦ if i = chunkId then chunk else c.rtmpChunk i }

/-- `rtmp_socket.Send`. -/
def send (c : RtmpClient) (bytes : List UInt8) : Int × RtmpClient :=
  (c.host.sendResult 0,
    { c with
      sent := c.sent ++ [bytes]
      host := { c.host with sendResult := fun n ↦ c.host.sendResult (n + 1) } })

/-- `time(NULL)`. -/
def time (c : RtmpClient) : Nat × RtmpClient :=
  (c.host.timeNow 0,
    { c with host := { c.host with timeNow := fun n ↦ c.host.timeNow (n + 1) } })

/-- `get_millisecond64()`. -/
def getMillisecond64 (c : RtmpClient) : Nat × RtmpClient :=
  (c.host.millisecond 0,
    { c with host := { c.host with millisecond := fun n ↦ c.host.millisecond (n + 1) } })

/-- `new unsigned char[n]`: the memory the allocator hands out. -/
def newBuffer (c : RtmpClient) : Mem × RtmpClient :=
  (c.host.heap 0,
    { c with host := { c.host with heap := fun n ↦ c.host.heap (n + 1) } })

@[simp] theorem setChunk_same (c : RtmpClient) (i : Nat) (k : RtmpChunk) :
    (c.setChunk i k).rtmpChunk i = k := by
  simp [setChunk]

@[simp] theorem setChunk_other (c : RtmpClient) (i j : Nat) (k : RtmpChunk) (h : j ≠ i) :
    (c.setChunk i k).rtmpChunk j = c.rtmpChunk j := by
  simp [setChunk, h]

/-- A later store to the same element wins. -/
@[simp] theorem setChunk_setChunk (c : RtmpClient) (i : Nat) (k k' : RtmpChunk) :
    (c.setChunk i k).setChunk i k' = c.setChunk i k' := by
  simp only [setChunk, RtmpClient.mk.injEq, true_and, and_true]
  funext j
  split <;> rfl

end RtmpClient

/-- The constructor `rtmp_client`. It sets the strings and the chunk table; every other field
keeps what `u`, the memory of the new object, holds. The muxer is a member with its own
constructor, whose file opens or not. -/
def rtmpClient (u : RtmpClient) : RtmpClient :=
  { u with
    sent := [], rtmpMessages := []
    rtmpUrl := [], rtmpApp := [], rtmpStream := []
    rtmpChunk := fun _ ↦ RtmpChunk.zero
    rtmpSavetots := rtmpTots u.rtmpSavetots.pesBuf u.rtmpSavetots.tsFp (u.host.millisecond 0)
    host := { u.host with millisecond := fun n ↦ u.host.millisecond (n + 1) } }

/-- `rtmp_send_to_server_c0c1`. -/
def rtmpSendToServerC0C1 (c : RtmpClient) : Int × RtmpClient :=
  let (timeNow, c) := c.time
  let c := { c with rtmpStatus := .sendC0C1 }
  let c0c1 := ((Mem.ofList []).set 0 0x03).memcpy 5 (Amf0.le32Bytes timeNow)
  let (ret, c) := c.send (c0c1.slice 0 1537)
  if ret < 0 then (ret, c) else (ret, { c with rtmpStatus := .waitS0S1 })

/-- `rtmp_start_play`; the thread it creates runs the receive loop. -/
def rtmpStartPlay (c : RtmpClient) : Int × RtmpClient :=
  if c.host.createResult = -1 then (-1, c)
  else if c.host.connectResult < 0 then (-1, c)
  else
    let (_, c) := rtmpSendToServerC0C1 { c with rtmpChunkMaxSize := 128 }
    (0, c)

/-- A client in zeroed memory, on a host where every call succeeds. -/
def blankClient : RtmpClient :=
  { host :=
      { sendResult := fun _ ↦ 0, timeNow := fun _ ↦ 0, millisecond := fun _ ↦ 0
        heap := fun _ _ ↦ 0, createResult := 0, connectResult := 0 }
    sent := [], rtmpStatus := .init
    rtmpUrl := [], rtmpApp := [], rtmpStream := []
    rtmpLastVideoTimestamp := 0, rtmpLastAudioTimestamp := 0, rtmpLastMessageType := 0
    rtmpNowStreamId := 0, rtmpChunkMaxSize := 0, acknowledgementSize := 0, bandwidth := 0
    mIParsePos := 0, rtmpChunk := fun _ ↦ RtmpChunk.zero
    rtmpSavetots := rtmpTots (fun _ ↦ 0) true 0
    videoHeadData := fun _ ↦ 0, videoHeadDataLen := 0
    audioHeadData := fun _ ↦ 0, audioHeadDataLen := 0
    rtmpMessages := [] }

end RtmpRecv.Client
