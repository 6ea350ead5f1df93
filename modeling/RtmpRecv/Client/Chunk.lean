import RtmpRecv.Client.Message

/-!
# Chunk parser

Library `Client`. Models `rtmp_process_chunk` (`rtmp_lib.cpp:613-798`) in its two parts: the
`switch` over the header format, and the body copy with the delivery of complete messages.
The stores that precede a return for want of data are kept.
-/

namespace RtmpRecv.Client
open RtmpRecv.Base

/-- How the `switch` ends: a return of `1` or `-1`, or a parsed header in `chunk_info` with
its length. The client has the stores made so far. -/
inductive HeaderStep where
  | ret (r : Int) (c : RtmpClient)
  | parsed (c : RtmpClient) (chunkInfo : RtmpChunk) (chunkHeaderLen : Nat)

/-- The copy to `rtmp_fmt0_buf`: the first bytes are replaced. -/
def saveHeader (c : RtmpClient) (chunkId : Nat) (bytes : List UInt8) : RtmpClient :=
  let chunk := c.rtmpChunk chunkId
  c.setChunk chunkId
    { chunk with rtmpFmt0Buf := bytes ++ chunk.rtmpFmt0Buf.drop bytes.length }

/-- The timestamp field at `buf[1..3]`, or the extended one at `buf[at..at+3]` when the field
is `0xffffff`; `none` when the extended one is not there yet. The flag tells that it was used. -/
def timeField (buf : Mem) (datalen : Int) (headerLen ext : Nat) : Option (Nat × Bool) :=
  let timeStamp := be24 (buf 1) (buf 2) (buf 3)
  if timeStamp = 0xffffff then
    if datalen < headerLen + 5 then none
    else some (be32 (buf ext) (buf (ext + 1)) (buf (ext + 2)) (buf (ext + 3)), true)
  else some (timeStamp, false)

/-- An absolute timestamp becomes the last audio or video one, according to the message type
`messageType`. -/
def setLast (c : RtmpClient) (messageType timeStamp : Nat) : RtmpClient :=
  if messageType = 0x08 then { c with rtmpLastAudioTimestamp := timeStamp }
  else if messageType = 0x09 then { c with rtmpLastVideoTimestamp := timeStamp }
  else c

/-- `case 0` of the `switch`. -/
def headerFmt0 (c : RtmpClient) (chunkId : Nat) (buf : Mem) (datalen : Int) : HeaderStep :=
  if datalen < 11 + 1 then .ret 1 c
  else
    let c := saveHeader c chunkId (buf.slice 1 11)
    match timeField buf datalen 11 12 with
    | none => .ret 1 c
    | some (timeStamp, ext) =>
      let messageType := (buf 7).toNat
      let chunkInfo := { RtmpChunk.zero with
        timeStamp := timeStamp
        messageSize := be24 (buf 4) (buf 5) (buf 6)
        messageType := messageType
        messageStreamId := be32 (buf 8) (buf 9) (buf 10) (buf 11) }
      let c := setLast c messageType timeStamp
      .parsed { c with rtmpLastMessageType := messageType } chunkInfo (if ext then 15 else 11)

/-- A relative timestamp: the last audio or video timestamp is advanced by it, according to
the message type `messageType`; another type leaves it as it is. -/
def addDelta (c : RtmpClient) (messageType timeStamp : Nat) : RtmpClient × Nat :=
  if messageType = 0x08 then
    let t := (timeStamp + c.rtmpLastAudioTimestamp) % 4294967296
    ({ c with rtmpLastAudioTimestamp := t }, t)
  else if messageType = 0x09 then
    let t := (timeStamp + c.rtmpLastVideoTimestamp) % 4294967296
    ({ c with rtmpLastVideoTimestamp := t }, t)
  else (c, timeStamp)

/-- `case 1` of the `switch`. -/
def headerFmt1 (c : RtmpClient) (chunkId : Nat) (buf : Mem) (datalen : Int) : HeaderStep :=
  if datalen < 7 + 1 then .ret 1 c
  else
    let c := saveHeader c chunkId (buf.slice 1 7)
    match timeField buf datalen 7 8 with
    | none => .ret 1 c
    | some (timeStamp, ext) =>
      let messageType := (buf 7).toNat
      let (c, timeStamp) := addDelta c messageType timeStamp
      let chunkInfo := { RtmpChunk.zero with
        timeStamp := timeStamp
        messageSize := be24 (buf 4) (buf 5) (buf 6)
        messageType := messageType }
      .parsed { c with rtmpLastMessageType := messageType } chunkInfo (if ext then 11 else 7)

/-- `case 2` of the `switch`: the type that selects the timestamp is the last one seen. -/
def headerFmt2 (c : RtmpClient) (buf : Mem) (datalen : Int) : HeaderStep :=
  if datalen < 3 + 1 then .ret 1 c
  else
    match timeField buf datalen 3 4 with
    | none => .ret 1 c
    | some (timeStamp, ext) =>
      let (c, timeStamp) := addDelta c c.rtmpLastMessageType timeStamp
      .parsed c { RtmpChunk.zero with timeStamp := timeStamp } (if ext then 7 else 3)

/-- `case 3` of the `switch`. -/
def headerFmt3 (c : RtmpClient) (datalen : Int) : HeaderStep :=
  if datalen < 1 then .ret 1 c else .parsed c RtmpChunk.zero 0

/-- The `switch` over `fmt`. -/
def chunkHeader (c : RtmpClient) (fmt chunkId : Nat) (buf : Mem) (datalen : Int) : HeaderStep :=
  match fmt with
  | 0 => headerFmt0 c chunkId buf datalen
  | 1 => headerFmt1 c chunkId buf datalen
  | 2 => headerFmt2 c buf datalen
  | 3 => headerFmt3 c datalen
  | _ => .ret (-1) c

/-- Where `messsge_data` points in a call of `rtmp_process_message`: into the window, or to
the buffer of the chunk stream. -/
inductive MessageData where
  | window (off : Nat)
  | messageBuf (buf : Mem)

/-- How `rtmp_process_chunk` ends before any handler runs: it returns, it breaks, or it calls
`rtmp_process_message`. -/
inductive ChunkStep where
  | ret (r : Int) (c : RtmpClient)
  | fault (e : Fault) (c : RtmpClient)
  | message (c : RtmpClient) (chunkId : Nat) (data : MessageData) (dataLen : Int)

/-- `chunk_len`: the body bytes of the chunk, as the unsigned value that is assigned. -/
def chunkLen (c : RtmpClient) (chunkId : Nat) (chunkInfo : RtmpChunk) : Nat :=
  let last := (c.rtmpChunk chunkId).lastMessageSize
  if last = 0 then
    if chunkInfo.messageSize ≥ c.rtmpChunkMaxSize then c.rtmpChunkMaxSize
    else chunkInfo.messageSize
  else if last ≥ c.rtmpChunkMaxSize then c.rtmpChunkMaxSize
  else last

/-- The size of a new `message_buf`. -/
def newMessageBufLen (messageSize : Nat) : Nat :=
  (messageSize + 64 * 1024) % 4294967296 / (64 * 1024) * (64 * 1024)

/-- The stores for a new message, `rtmp_lib.cpp:767-771`. -/
def startMessage (chunk chunkInfo : RtmpChunk) : RtmpChunk :=
  { chunk with
    lastMessageSize := chunkInfo.messageSize
    timeStamp := chunkInfo.timeStamp
    messageSize := chunkInfo.messageSize
    messageType := chunkInfo.messageType
    messageStreamId := chunkInfo.messageStreamId }

/-- `a - b` on 32-bit unsigned integers. -/
def sub32 (a b : Nat) : Nat := (a + 4294967296 - b % 4294967296) % 4294967296

/-- The copy of the body into `message_buf` and what follows, `rtmp_lib.cpp:789-797`. `off`
is the offset of the body in the window and `len` the value of `chunk_len`. A copy to a null
pointer is undefined for every length. -/
def copyBody (c : RtmpClient) (chunkId : Nat) (buf : Mem) (off len : Nat) : ChunkStep :=
  let chunk := c.rtmpChunk chunkId
  match chunk.messageBuf with
  | none => .fault .nullPointer c
  | some messageBuf =>
    if chunk.messageBufPos + len > chunk.messageBufLen then .fault .outOfBounds c
    else
      let messageBuf := messageBuf.memcpy chunk.messageBufPos (buf.slice off len)
      let chunk := { chunk with
        messageBuf := some messageBuf
        messageBufPos := chunk.messageBufPos + len
        lastMessageSize := sub32 chunk.lastMessageSize len }
      let c := { c.setChunk chunkId chunk with mIParsePos := c.mIParsePos + (off + len) }
      if chunk.messageBufPos < chunk.messageSize then .ret 0 c
      else .message c chunkId (.messageBuf messageBuf) (toInt32 chunk.messageSize)

/-- The part of `rtmp_process_chunk` behind the `switch`, `rtmp_lib.cpp:746-798`. -/
def chunkBody (c : RtmpClient) (chunkId : Nat) (chunkInfo : RtmpChunk) (chunkHeaderLen : Nat)
    (buf : Mem) (datalen : Int) : ChunkStep :=
  let len := chunkLen c chunkId chunkInfo
  let off := chunkHeaderLen + 1
  if datalen < toInt32 len + off then .ret 1 c
  -- a negative `chunk_len` is a huge size for `memcpy`
  else if toInt32 len < 0 then .fault .outOfBounds c
  else
    let chunk := c.rtmpChunk chunkId
    if chunk.lastMessageSize = 0 then
      let chunk := startMessage chunk chunkInfo
      if len = chunkInfo.messageSize then
        let chunk := { chunk with lastMessageSize := sub32 chunk.lastMessageSize len }
        .message { c.setChunk chunkId chunk with mIParsePos := c.mIParsePos + (off + len) }
          chunkId (.window off) len
      else
        let (messageBuf, c) := c.newBuffer
        let c := c.setChunk chunkId { chunk with
          messageBuf := some messageBuf
          messageBufPos := 0
          messageBufLen := newMessageBufLen chunkInfo.messageSize }
        copyBody c chunkId buf off len
    else copyBody c chunkId buf off len

/-- `fmt`: the two upper bits of the first byte. -/
def chunkFmt (buf : Mem) : Nat := ((buf 0 &&& 0xc0) >>> 6).toNat

/-- `chunk_id`: the six lower bits of the first byte, or the value of the byte or the two bytes
behind it. -/
def chunkIdOf (buf : Mem) : Nat :=
  let chunkId := (buf 0 &&& 0x3f).toNat
  if chunkId = 0 then (buf 1).toNat + 64
  else if chunkId = 1 then (buf 2).toNat * 256 + (buf 1).toNat + 64
  else chunkId

/-- `rtmp_process_chunk` up to the call of `rtmp_process_message`. A chunk stream id of 64 or
more, which every two- and three-byte basic header has, ends it. -/
def chunkStep (c : RtmpClient) (buf : Mem) (datalen : Int) : ChunkStep :=
  if datalen = 0 then .ret 1 c
  else if chunkIdOf buf ≥ maxChunkId then .ret (-1) c
  else
    match chunkHeader c (chunkFmt buf) (chunkIdOf buf) buf datalen with
    | .ret r c => .ret r c
    | .parsed c chunkInfo chunkHeaderLen =>
      chunkBody c (chunkIdOf buf) chunkInfo chunkHeaderLen buf datalen

/-- The memory `messsge_data` points to. -/
def MessageData.mem (buf : Mem) : MessageData → Mem
  | .window off => buf.shift off
  | .messageBuf m => m

/-- The call of `rtmp_process_message`, as the history records it. -/
def messageOf (c : RtmpClient) (chunkId : Nat) (data : MessageData) (dataLen : Int) (buf : Mem) :
    RtmpMessage :=
  let chunk := c.rtmpChunk chunkId
  ⟨chunkId, chunk.messageType, chunk.messageStreamId, chunk.timeStamp,
    (data.mem buf).slice 0 dataLen.toNat⟩

/-- Record the call and run the handler on the memory `messsge_data` points to. -/
def handlerRun (c : RtmpClient) (chunkId : Nat) (data : MessageData) (dataLen : Int) (buf : Mem) :
    Except Fault (Int × RtmpClient) × Mem :=
  let message := messageOf c chunkId data dataLen buf
  (rtmpProcessMessage { c with rtmpMessages := c.rtmpMessages ++ [message] }
    (c.rtmpChunk chunkId) dataLen).run (data.mem buf)

/-- Call the handler and keep what it wrote to the message: in the window, or in the buffer
of the chunk stream. -/
def deliver (c : RtmpClient) (chunkId : Nat) (data : MessageData) (dataLen : Int) (buf : Mem) :
    Except Fault Int × RtmpClient × Mem :=
  match handlerRun c chunkId data dataLen buf with
  | (.error e, _) =>
    let message := messageOf c chunkId data dataLen buf
    (.error e, { c with rtmpMessages := c.rtmpMessages ++ [message] }, buf)
  | (.ok (ret, c), m) =>
    match data with
    | .window off => (.ok ret, c, buf.splice off m)
    | .messageBuf _ =>
      (.ok ret, c.setChunk chunkId { c.rtmpChunk chunkId with messageBuf := some m }, buf)

/-- `rtmp_process_chunk`: its result or the fault that ends it, the client, and the memory
`Bufdata` points to. -/
def rtmpProcessChunk (c : RtmpClient) (buf : Mem) (datalen : Int) :
    Except Fault Int × RtmpClient × Mem :=
  match chunkStep c buf datalen with
  | .ret r c => (.ok r, c, buf)
  | .fault e c => (.error e, c, buf)
  | .message c chunkId data dataLen => deliver c chunkId data dataLen buf

end RtmpRecv.Client
