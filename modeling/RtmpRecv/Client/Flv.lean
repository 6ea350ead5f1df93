import RtmpRecv.Client.Chunk
import RtmpRecv.Client.Metadata

/-!
# The build that saves FLV files

Library `Client`. Models what `SAVE_FLV` changes: the audio, video and metadata messages of
`rtmp_process_message`, `rtmp_lib.cpp:826-857`, and the two writers `rtmp_lib.cpp:948-1074`. The
debug prints are left out; the one behind the write of a tag reads the bytes 12 to 16 of the tag,
which a body of fewer than two bytes does not have.
-/

namespace RtmpRecv.Client
open RtmpRecv.Base RtmpRecv.Amf0

/-- `rtmp_client` of this build. `flvFp` says that the file handle is valid, `openResult` holds the
answers of `file_open` in call order, and `file` the bytes of each `file_write`, in order. -/
structure FlvClient where
  client : RtmpClient
  flvFp : Bool
  openResult : Nat → Bool
  file : List (List UInt8)

namespace FlvClient

/-- `flv_fp = file_open(..)`. -/
def fileOpen (c : FlvClient) : FlvClient :=
  { c with flvFp := c.openResult 0, openResult := fun n ↦ c.openResult (n + 1) }

/-- `file_write`. -/
def fileWrite (c : FlvClient) (bytes : List UInt8) : FlvClient :=
  { c with file := c.file ++ [bytes] }

/-- The constructor `rtmp_client`. -/
def new (u : FlvClient) : FlvClient :=
  { client := rtmpClient u.client, flvFp := false, openResult := u.openResult, file := [] }

/-- The call of `rtmp_process_message` in the history. -/
def recorded (c : FlvClient) (chunkId : Nat) (data : MessageData) (dataLen : Int) (buf : Mem) :
    FlvClient :=
  let message := messageOf c.client chunkId data dataLen buf
  { c with client := { c.client with rtmpMessages := c.client.rtmpMessages ++ [message] } }

end FlvClient

namespace Flv

/-- The metadata that the handler of a message starts from. -/
def zeroMetadata : RtmpMetadata := { text := fun _ _ ↦ 0, number := fun _ ↦ 0 }

/-- `flvHeader`. -/
def flvHeader : List UInt8 := ascii "FLV" ++ [0x01, 0x05, 0, 0, 0, 0x09, 0, 0, 0, 0]

/-- A property whose value is a number. -/
def pushProperty (w : Writer) (name : String) (value : Nat) : Writer :=
  (w.pushObjectPropName (ascii name)).pushNumber value

/-- The tag that `rtmp_process_metadata_to_flv` builds. -/
def metadataTag (chunk : RtmpChunk) (data : RtmpMetadata) : Writer :=
  let w := ((Writer.start 2048).put (chunk.rtmpFmt0Buf.getD 6 0)).skip 10
  let w := (w.put 0x02).pushObjectPropName (ascii "onMetaData")
  let w := (w.put 0x08).copy (le32Bytes (swap4Byte 7))
  -- the numbers 60 and 1024 * 1024 as doubles
  let w := pushProperty w "duration" 0x404e000000000000
  let w := pushProperty w "width" (data.number .width)
  let w := pushProperty w "height" (data.number .height)
  let w := pushProperty w "videodatarate" 0
  let w := pushProperty w "framerate" (data.number .framerate)
  let w := pushProperty w "videocodecid" (data.number .videocodecid)
  let w := pushProperty w "filesize" 0x4130000000000000
  let w := w.push rtmpAmf0PushObjectEnder
  let messageLen := swap4Byte (toUInt32 (w.dataPtr - 11))
  let tagLen := swap4Byte (toUInt32 w.dataPtr)
  { w with buf := w.buf.memcpy 1 ((le32Bytes messageLen).drop 1) }.copy (le32Bytes tagLen)

/-- `rtmp_process_metadata_to_flv`. -/
def rtmpProcessMetadataToFlv (c : FlvClient) (chunk : RtmpChunk) (data : RtmpMetadata) :
    Int × FlvClient :=
  let c := c.fileOpen
  if c.flvFp then (0, (c.fileWrite flvHeader).fileWrite (metadataTag chunk data).bytes)
  else (-1, c)

/-- The tag that `rtmp_process_data_to_flv` builds; `data` is the message. -/
def dataTag (chunk : RtmpChunk) (data : List UInt8) : List UInt8 :=
  let dataWrite := ((((Mem.ofList []).set 0 (chunk.rtmpFmt0Buf.getD 6 0)).set 1
    (chunk.rtmpFmt0Buf.getD 3 0)).set 2 (chunk.rtmpFmt0Buf.getD 4 0)).set 3
    (chunk.rtmpFmt0Buf.getD 5 0)
  let timeStamp := swap4Byte chunk.timeStamp
  let dataWrite := dataWrite.memcpy 4 ((le32Bytes timeStamp).drop 1)
  let dataWrite := dataWrite.memcpy 11 data
  let messageLen := swap4Byte (data.length + 11)
  let dataWrite := dataWrite.memcpy (11 + data.length) (le32Bytes messageLen)
  dataWrite.slice 0 (data.length + 15)

/-- `rtmp_process_data_to_flv`. -/
def rtmpProcessDataToFlv (c : FlvClient) (chunk : RtmpChunk) (dataLen : Int) :
    Access Fault (Int × FlvClient) :=
  if !c.flvFp then pure (-1, c)
  -- a negative length is a huge size for `memcpy`
  else if dataLen < 0 then .fail .outOfBounds
  else do
    let data ← Access.getList 0 dataLen.toNat
    pure (0, c.fileWrite (dataTag chunk data))

/-- `rtmp_process_message`; the types outside of `SAVE_FLV` are handled as in the other build. -/
def rtmpProcessMessage (c : FlvClient) (chunk : RtmpChunk) (dataLen : Int) :
    Access Fault (Int × FlvClient) :=
  match chunk.messageType with
  | 0x08 => rtmpProcessDataToFlv c chunk dataLen
  | 0x09 => rtmpProcessDataToFlv c chunk dataLen
  | 0x12 => do
    match ← rtmpAmf0PopString 256 0 dataLen with
    | none => pure (-1, c)
    | some (commandName, _) =>
      if untilNul commandName = ascii "onMetaData" then do
        let (_, metadata) ← rtmpProcessCmd0x12OnmetadataResult zeroMetadata 0 dataLen
        let c := { c with client := { c.client with rtmpStatus := .waitData } }
        pure (rtmpProcessMetadataToFlv c chunk metadata)
      else pure (0, c)
  | _ => do
    let (ret, client) ← Client.rtmpProcessMessage c.client chunk dataLen
    pure (ret, { c with client := client })

/-- Run `rtmp_process_message` on the memory `messsge_data` points to. -/
def handlerRun (c : FlvClient) (chunkId : Nat) (data : MessageData) (dataLen : Int) (buf : Mem) :
    Except Fault (Int × FlvClient) × Mem :=
  (rtmpProcessMessage (c.recorded chunkId data dataLen buf) (c.client.rtmpChunk chunkId)
    dataLen).run (data.mem buf)

/-- Call the handler and keep what it wrote to the message. -/
def deliver (c : FlvClient) (chunkId : Nat) (data : MessageData) (dataLen : Int) (buf : Mem) :
    Except Fault Int × FlvClient × Mem :=
  match handlerRun c chunkId data dataLen buf with
  | (.error e, _) => (.error e, c.recorded chunkId data dataLen buf, buf)
  | (.ok (ret, c), m) =>
    match data with
    | .window off => (.ok ret, c, buf.splice off m)
    | .messageBuf _ =>
      let chunk := { c.client.rtmpChunk chunkId with messageBuf := some m }
      (.ok ret, { c with client := c.client.setChunk chunkId chunk }, buf)

/-- `rtmp_process_chunk` of this build. -/
def rtmpProcessChunk (c : FlvClient) (buf : Mem) (datalen : Int) :
    Except Fault Int × FlvClient × Mem :=
  match chunkStep c.client buf datalen with
  | .ret r client => (.ok r, { c with client := client }, buf)
  | .fault e client => (.error e, { c with client := client }, buf)
  | .message client chunkId data dataLen =>
    deliver { c with client := client } chunkId data dataLen buf

end Flv
end RtmpRecv.Client
