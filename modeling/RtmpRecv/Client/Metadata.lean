import RtmpRecv.Amf0.Values
import RtmpRecv.Client.Commands

/-!
# Metadata of a stream

Library `Client`. Models `rtmp_metadata_t`, `rtmp_lib.h:44-59`, and its parser
`rtmp_process_cmd_0x12_onmetadata_result`, `rtmp_lib.cpp:873-945`, of the build that saves FLV
files. A number is kept as its 64-bit pattern.
-/

namespace RtmpRecv.Client
open RtmpRecv.Base RtmpRecv.Amf0

/-! ### The fields -/

/-- The text fields, arrays of 128 bytes. -/
inductive TextField where
  | server
  | profile
  | level
  deriving DecidableEq, Repr

/-- The number fields. -/
inductive NumberField where
  | width
  | height
  | displayWidth
  | displayHeight
  | duration
  | framerate
  | fps
  | videodatarate
  | videocodecid
  | audiodatarate
  | audiocodecid
  deriving DecidableEq, Repr

/-- The fields of `rtmp_metadata_t`. -/
inductive Field where
  | text (field : TextField)
  | number (field : NumberField)
  deriving DecidableEq, Repr

/-- `rtmp_metadata_t`. -/
structure RtmpMetadata where
  text : TextField → Mem
  number : NumberField → Nat

/-- The record with a string and its NUL in a text field. -/
def RtmpMetadata.setText (data : RtmpMetadata) (field : TextField) (s : List UInt8) :
    RtmpMetadata :=
  { data with
    text := Function.update data.text field (((data.text field).memcpy 0 s).set s.length 0) }

/-- The record with another value of a number field. -/
def RtmpMetadata.setNumber (data : RtmpMetadata) (field : NumberField) (pattern : Nat) :
    RtmpMetadata :=
  { data with number := Function.update data.number field pattern }

/-- The names that the parser knows, in the order in which it compares with them. -/
def fieldNames : List (List UInt8 × Field) :=
  [(ascii "Server", .text .server), (ascii "width", .number .width),
    (ascii "height", .number .height), (ascii "displayWidth", .number .displayWidth),
    (ascii "displayHeight", .number .displayHeight), (ascii "duration", .number .duration),
    (ascii "framerate", .number .framerate), (ascii "fps", .number .fps),
    (ascii "videodatarate", .number .videodatarate), (ascii "videocodecid", .number .videocodecid),
    (ascii "audiodatarate", .number .audiodatarate), (ascii "audiocodecid", .number .audiocodecid),
    (ascii "profile", .text .profile), (ascii "level", .text .level)]

/-- The field of a name. -/
def fieldOf (name : List UInt8) : Option Field := fieldNames.lookup name

/-- The string in a buffer: `strcmp` sees it up to its first NUL. -/
def untilNul (s : List UInt8) : List UInt8 := s.takeWhile (· ≠ 0)

/-! ### The parser -/

/-- The pop of the value of a known property: its result, where `none` is -1, and the record. -/
def popField (data : RtmpMetadata) (field : Field) (src : Nat) (srcLen : Int) :
    Access Fault (Option Nat × RtmpMetadata) :=
  match field with
  | .text field => do
    match ← rtmpAmf0PopString 128 src srcLen with
    | none => pure (none, data)
    | some (s, ret) => pure (some ret, data.setText field s)
  | .number field => do
    match ← rtmpAmf0PopNumber src srcLen with
    | none => pure (none, data)
    | some (pattern, ret) => pure (some ret, data.setNumber field pattern)

/-- The loop over the properties. It leaves the pointer and the length where it stops, or `none`
where the function returns -1. Each round takes at least one byte. -/
def onmetadataLoop :
    Nat → RtmpMetadata → Nat → Int → Access Fault (Option (Nat × Int) × RtmpMetadata)
  | fuel, data, src, dataLen =>
    if dataLen ≤ 0 then pure (some (src, dataLen), data)
    else
      match fuel with
      | 0 => .fail .diverged
      | fuel + 1 => do
        match ← rtmpAmf0PopObjectPropName 256 src dataLen with
        | none => pure (none, data)
        | some (name, ret) =>
          if ret = 0 then pure (some (src, dataLen), data)
          else
            let src := src + ret
            let dataLen := dataLen - ret
            -- behind any other name `ret` still is what the name has taken
            let (popped, data) ← match fieldOf (untilNul name) with
              | some field => popField data field src dataLen
              | none => pure (some ret, data)
            match popped with
            | none => pure (none, data)
            | some ret =>
              if ret = 0 then pure (some (src, dataLen), data)
              else onmetadataLoop fuel data (src + ret) (dataLen - ret)

/-- `rtmp_process_cmd_0x12_onmetadata_result`. -/
def rtmpProcessCmd0x12OnmetadataResult (data : RtmpMetadata) (messageData : Nat) (dataLen : Int) :
    Access Fault (Int × RtmpMetadata) := do
  match ← rtmpAmf0PopString 256 messageData dataLen with
  | none => pure (-1, data)
  | some (_, ret) =>
    let messageData := messageData + ret
    let dataLen := dataLen - ret
    match ← rtmpAmf0PopObjectBegin messageData dataLen with
    | none => pure (-1, data)
    | some ret =>
      match ← onmetadataLoop dataLen.toNat data (messageData + ret) (dataLen - ret) with
      | (none, data) => pure (-1, data)
      | (some (messageData, dataLen), data) =>
        match ← rtmpAmf0PopObjectEnd messageData dataLen with
        | none => pure (-1, data)
        | some _ => pure (0, data)

end RtmpRecv.Client
