import Mathlib.Data.List.Forall2
import RtmpRecv.Client.Connect
import RtmpRecv.Client.FlvTags
import RtmpRecv.Client.Properties
import RtmpRecv.Client.Served
import RtmpRecv.Wire.FlvFile

/-!
# What the FLV build records

Library `Client`. Every metadata message opens the file anew, and what is written from there to the
next one is an FLV file: a header, a tag with script data, and a tag for every audio and video
message. The messages alone say what the files hold.
-/

namespace RtmpRecv.Client
open RtmpRecv.Base RtmpRecv.Amf0 RtmpRecv.Wire

namespace Flv

/-! ### The metadata tag -/

/-- The named numbers of the metadata tag, in order. -/
def metadataRow (data : RtmpMetadata) : List (String × Nat) :=
  [("duration", 0x404e000000000000), ("width", data.number .width),
    ("height", data.number .height), ("videodatarate", 0),
    ("framerate", data.number .framerate), ("videocodecid", data.number .videocodecid),
    ("filesize", 0x4130000000000000)]

/-- The bytes of named numbers. -/
def rowBytes (row : List (String × Nat)) : List UInt8 :=
  row.flatMap fun p ↦ propNameBytes (ascii p.1) ++ numberBytes p.2

/-- The script data of a file. -/
def scriptData (data : RtmpMetadata) : ScriptData where
  name := ascii "onMetaData"
  count := 7
  properties := .ofList ((metadataRow data).map fun p ↦ (ascii p.1, .number p.2))

/-- The tag of the script data. -/
def scriptTag (data : RtmpMetadata) : FlvTag :=
  { tagType := 18, dataSize := (scriptData data).bytes.length, timeStamp := 0, streamId := 0
    data := (scriptData data).bytes, previousTagSize := (scriptData data).bytes.length + 11 }

private theorem bytes_ofRow (row : List (String × Nat)) :
    (Amf0Properties.ofList (row.map fun p ↦ (ascii p.1, .number p.2))).bytes =
      rowBytes row ++ [0x00, 0x00, 0x09] := by
  induction row with
  | nil => rfl
  | cons p row ih =>
    have hrow : rowBytes (p :: row) =
        propNameBytes (ascii p.1) ++ numberBytes p.2 ++ rowBytes row := rfl
    rw [List.map_cons, Amf0Properties.ofList, Amf0Properties.bytes, ih, hrow, List.append_assoc,
      List.append_assoc]
    rfl

private theorem length_metadataRow (data : RtmpMetadata) :
    (rowBytes (metadataRow data)).length = 138 := by
  simp only [rowBytes, metadataRow, List.flatMap_cons, List.flatMap_nil, List.length_append,
    length_propNameBytes, length_numberBytes, List.length_nil]
  decide

/-- Named numbers with room for all of them are stored. -/
private theorem pushProperty_row (size : Int) {row : List (String × Nat)}
    (hnames : ∀ p ∈ row, (ascii p.1).length ≤ 0xffff) (bytes : List UInt8)
    (hroom : ((bytes ++ rowBytes row).length : Int) ≤ size) :
    row.foldl (fun w p ↦ pushProperty w p.1 p.2) (.holding size bytes) =
      .holding size (bytes ++ rowBytes row) := by
  induction row generalizing bytes with
  | nil => rw [rowBytes, List.flatMap_nil, List.append_nil, List.foldl_nil]
  | cons p row ih =>
    have hrow : rowBytes (p :: row) =
        propNameBytes (ascii p.1) ++ numberBytes p.2 ++ rowBytes row := rfl
    rw [hrow, List.length_append, List.length_append, List.length_append] at hroom
    have hname : (Writer.holding size bytes).pushObjectPropName (ascii p.1) =
        .holding size (bytes ++ propNameBytes (ascii p.1)) :=
      Writer.push_holding (pushStores_propName (hnames p List.mem_cons_self) _ (by omega))
    have hvalue : (Writer.holding size (bytes ++ propNameBytes (ascii p.1))).pushNumber p.2 =
        .holding size (bytes ++ propNameBytes (ascii p.1) ++ numberBytes p.2) := by
      apply Writer.pushNumber_holding
      rw [length_numberBytes] at hroom
      rw [List.length_append]
      omega
    have hproperty : pushProperty (.holding size bytes) p.1 p.2 =
        .holding size (bytes ++ propNameBytes (ascii p.1) ++ numberBytes p.2) := by
      unfold pushProperty
      rw [hname, hvalue]
    rw [List.foldl_cons, hproperty, ih (fun q hq ↦ hnames q (List.mem_cons_of_mem _ hq)), hrow,
      List.append_assoc, List.append_assoc, List.append_assoc]
    simp only [List.length_append]
    omega

private theorem bytes_scriptData (data : RtmpMetadata) :
    (scriptData data).bytes = [0x02] ++ (propNameBytes (ascii "onMetaData") ++
      ([0x08] ++ (be32Bytes 7 ++ (rowBytes (metadataRow data) ++ [0x00, 0x00, 0x09])))) := by
  unfold ScriptData.bytes scriptData
  dsimp only
  rw [bytes_ofRow]
  rfl

theorem length_scriptData (data : RtmpMetadata) : (scriptData data).bytes.length = 159 := by
  have hsize : (propNameBytes (ascii "onMetaData")).length = 12 := by decide
  rw [bytes_scriptData]
  simp only [List.length_append, length_metadataRow, hsize, length_be32Bytes, List.length_singleton]
  decide

/-- The pushes of the script data. -/
def pushScript (w : Writer) (data : RtmpMetadata) : Writer :=
  let w := (w.put 0x02).pushObjectPropName (ascii "onMetaData")
  let w := (w.put 0x08).copy (le32Bytes (swap4Byte 7))
  ((metadataRow data).foldl (fun w p ↦ pushProperty w p.1 p.2) w).push rtmpAmf0PushObjectEnder

/-- The script data behind the front of its tag. -/
private theorem pushScript_holding {front : List UInt8} (hfront : front.length = 11)
    (data : RtmpMetadata) :
    pushScript (.holding 2048 front) data = .holding 2048 (front ++ (scriptData data).bytes) := by
  have hrow := length_metadataRow data
  have hnames : ∀ p ∈ metadataRow data, (ascii p.1).length ≤ 0xffff := by
    simp only [metadataRow, List.forall_mem_cons]
    decide
  have hsize : (propNameBytes (ascii "onMetaData")).length = 12 := by decide
  have hname : (Writer.holding 2048 (front ++ [0x02])).pushObjectPropName (ascii "onMetaData") =
      .holding 2048 (front ++ [0x02] ++ propNameBytes (ascii "onMetaData")) := by
    refine Writer.push_holding (pushStores_propName (by decide) _ ?_)
    rw [hsize, List.length_append, hfront]
    decide
  have hfold := pushProperty_row 2048 hnames
    (front ++ [0x02] ++ propNameBytes (ascii "onMetaData") ++ [0x08] ++ be32Bytes 7) (by
      simp only [List.length_append, hrow, hsize, hfront, length_be32Bytes, List.length_singleton]
      decide)
  unfold pushScript
  dsimp only
  rw [Writer.put_holding, hname, Writer.put_holding, Writer.copy_holding, le32Bytes_swap4Byte,
    hfold, Writer.push_holding (pushStores_objectEnder _ ?_), bytes_scriptData]
  · simp only [List.append_assoc]
  · simp only [List.length_append, hrow, hsize, hfront, length_be32Bytes, List.length_singleton]
    decide

/-- The size of a tag goes into its front and behind it. -/
def sealTag (w : Writer) : Writer :=
  let messageLen := swap4Byte (toUInt32 (w.dataPtr - 11))
  let tagLen := swap4Byte (toUInt32 w.dataPtr)
  { w with buf := w.buf.memcpy 1 ((le32Bytes messageLen).drop 1) }.copy (le32Bytes tagLen)

private theorem sealTag_holding (size : Int) (type : UInt8) {data : List UInt8}
    (h : data.length + 11 < 4294967296) :
    sealTag (.holding size (type :: List.replicate 10 0 ++ data)) =
      .holding size (type :: (be24Bytes data.length ++ [0, 0, 0, 0, 0, 0, 0] ++ data ++
        be32Bytes (data.length + 11))) := by
  have hlen : (type :: List.replicate 10 0 ++ data).length = data.length + 11 := by simp
  have hsize : toUInt32 (((data.length + 11 : Nat) : Int) - 11) = data.length := by
    unfold toUInt32
    omega
  have htotal : toUInt32 ((data.length + 11 : Nat) : Int) = data.length + 11 :=
    toUInt32_of_nonneg _ h
  have hpatched : (Mem.ofList (type :: List.replicate 10 0 ++ data)).memcpy 1
      ((be32Bytes data.length).drop 1) =
        .ofList (type :: (be24Bytes data.length ++ [0, 0, 0, 0, 0, 0, 0] ++ data)) :=
    Mem.memcpy_ofList_middle [type] [0, 0, 0] (be24Bytes data.length)
      ([0, 0, 0, 0, 0, 0, 0] ++ data) rfl
  have hcopied := Writer.copy_holding size
    (type :: (be24Bytes data.length ++ [0, 0, 0, 0, 0, 0, 0] ++ data))
    (be32Bytes (data.length + 11))
  have hlen' : (type :: (be24Bytes data.length ++ [0, 0, 0, 0, 0, 0, 0] ++ data)).length =
      data.length + 11 := by
    simp only [List.length_cons, List.length_append, length_be24Bytes, List.length_nil]
    omega
  unfold sealTag Writer.holding
  dsimp only
  rw [hlen, hsize, htotal, le32Bytes_swap4Byte, le32Bytes_swap4Byte, hpatched, ← hlen']
  exact hcopied

/-- The bytes of the metadata tag. -/
theorem metadataTag_eq (chunk : RtmpChunk) (data : RtmpMetadata) :
    (metadataTag chunk data).bytes =
      chunk.rtmpFmt0Buf.getD 6 0 :: (be24Bytes (scriptData data).bytes.length ++
        [0, 0, 0, 0, 0, 0, 0] ++ (scriptData data).bytes ++
        be32Bytes ((scriptData data).bytes.length + 11)) := by
  have hlen := length_scriptData data
  have hskip (type : UInt8) : ((Writer.start 2048).put type).skip 10 =
      .holding 2048 (type :: List.replicate 10 0) := by
    rw [Writer.start_holding, Writer.put_holding]
    exact Writer.skip_holding 2048 [type] 10
  have htag : metadataTag chunk data = sealTag
      (pushScript (((Writer.start 2048).put (chunk.rtmpFmt0Buf.getD 6 0)).skip 10) data) := by
    unfold metadataTag sealTag pushScript
    simp only [metadataRow, List.foldl_cons, List.foldl_nil]
  rw [htag, hskip, pushScript_holding rfl, sealTag_holding _ _ (by omega), Writer.bytes_holding]

/-- It is the tag of the script data. -/
theorem isTag_metadataTag {chunk : RtmpChunk} (htype : (chunk.rtmpFmt0Buf.getD 6 0).toNat = 18)
    (data : RtmpMetadata) : IsTag (metadataTag chunk data).bytes (scriptTag data) := by
  have hlen := length_scriptData data
  rw [metadataTag_eq]
  unfold scriptTag
  generalize (scriptData data).bytes = script at hlen ⊢
  have hsize := be24_be24Bytes script.length (by omega)
  have hprevious := be32_be32Bytes (script.length + 11) (by omega)
  refine ⟨?_, rfl⟩
  simp only [be24Bytes, be32Bytes, List.cons_append, List.nil_append]
  rw [flvTag_append hsize, hprevious, htype]
  rfl

/-- The tag of a message in a file: of its time stamp 24 bits are left. -/
def recordedTag (message : RtmpMessage) : FlvTag :=
  { tagOf message with timeStamp := message.timeStamp % 16777216 }

/-- The numbers of the record are 64-bit patterns. -/
def Patterns (data : RtmpMetadata) : Prop :=
  ∀ field, data.number field < 18446744073709551616

/-- The script data of a file is read back. -/
theorem readScript_scriptData {data : RtmpMetadata} (h : Patterns data) :
    readScript (scriptData data).bytes = some (scriptData data) := by
  apply readScript_bytes
  · show (ascii "onMetaData").length ≤ 65535
    decide
  · show 7 < 4294967296
    decide
  · have hnames : ∀ p ∈ metadataRow data, ascii p.1 ≠ [] ∧ (ascii p.1).length ≤ 65535 := by
      simp only [metadataRow, List.forall_mem_cons]
      decide
    have hnumbers : ∀ p ∈ metadataRow data, p.2 < 18446744073709551616 := by
      simp only [metadataRow, List.forall_mem_cons]
      refine ⟨by decide, h _, h _, by decide, h _, h _, by decide, nofun⟩
    unfold scriptData
    dsimp only
    generalize metadataRow data = row at hnames hnumbers
    induction row with
    | nil => exact trivial
    | cons p row ih =>
      obtain ⟨⟨hne, hlen⟩, hnames⟩ := List.forall_mem_cons.1 hnames
      obtain ⟨hnumber, hnumbers⟩ := List.forall_mem_cons.1 hnumbers
      exact ⟨hne, hlen, hnumber, ih hnames hnumbers⟩

/-! ### Reading inside the body -/

theorem stays_rtmpAmf0PopObjectBegin {src n : Nat} {srcLen : Int} (h : src + srcLen ≤ n) :
    (rtmpAmf0PopObjectBegin src srcLen : Access Fault _).Stays n := by
  unfold rtmpAmf0PopObjectBegin
  simp only [Access.bind_eq, Access.get_bind]
  refine Access.Stays.ite (fun _ ↦ Access.Stays.ret) fun hlen ↦ ?_
  refine Access.Stays.read (by omega) fun b0 ↦ ?_
  exact Access.Stays.ite (fun _ ↦ Access.Stays.ret) fun _ ↦ Access.Stays.ret

theorem stays_rtmpAmf0PopObjectEnd {src n : Nat} {srcLen : Int} (h : src + srcLen ≤ n) :
    (rtmpAmf0PopObjectEnd src srcLen : Access Fault _).Stays n := by
  unfold rtmpAmf0PopObjectEnd
  simp only [Access.bind_eq, Access.get_bind]
  refine Access.Stays.ite (fun _ ↦ Access.Stays.ret) fun hlen ↦ ?_
  refine Access.Stays.read (by omega) fun b0 ↦ ?_
  refine Access.Stays.ite (fun _ ↦ ?_) fun _ ↦ Access.Stays.ret
  refine Access.Stays.read (by omega) fun b1 ↦ ?_
  refine Access.Stays.ite (fun _ ↦ ?_) fun _ ↦ Access.Stays.ret
  refine Access.Stays.read (by omega) fun b2 ↦ ?_
  exact Access.Stays.ite (fun _ ↦ Access.Stays.ret) fun _ ↦ Access.Stays.ret

theorem stays_rtmpAmf0PopObjectPropName (dstSize : Int) {src n : Nat} {srcLen : Int}
    (h : src + srcLen ≤ n) :
    (rtmpAmf0PopObjectPropName dstSize src srcLen : Access Fault _).Stays n := by
  unfold rtmpAmf0PopObjectPropName
  simp only [Access.bind_eq, Access.get_bind]
  refine Access.Stays.ite (fun _ ↦ Access.Stays.ret) fun hlen ↦ ?_
  refine Access.Stays.read (by omega) fun b0 ↦ Access.Stays.read (by omega) fun b1 ↦ ?_
  refine Access.Stays.ite (fun _ ↦ Access.Stays.ret) fun _ ↦ ?_
  refine Access.Stays.ite (fun _ ↦ Access.Stays.ret) fun hstr ↦ ?_
  exact Access.Stays.bind_of_forall (Access.Stays.getList (by omega)) fun _ ↦ Access.Stays.ret

private theorem stays_popField (data : RtmpMetadata) (field : Field) {src n : Nat} {srcLen : Int}
    (h : src + srcLen ≤ n) : (popField data field src srcLen).Stays n := by
  cases field with
  | text field =>
    refine Access.Stays.bind_of_forall (stays_rtmpAmf0PopString 128 h) fun popped ↦ ?_
    cases popped with
    | none => exact Access.Stays.ret
    | some popped => exact Access.Stays.ret
  | number field =>
    refine Access.Stays.bind_of_forall (stays_rtmpAmf0PopNumber h) fun popped ↦ ?_
    cases popped with
    | none => exact Access.Stays.ret
    | some popped => exact Access.Stays.ret

private theorem stays_onmetadataLoop (fuel : Nat) (data : RtmpMetadata) {src n : Nat}
    {dataLen : Int} (h : src + dataLen ≤ n) : (onmetadataLoop fuel data src dataLen).Stays n := by
  induction fuel generalizing data src dataLen with
  | zero =>
    unfold onmetadataLoop
    exact Access.Stays.ite (fun _ ↦ Access.Stays.ret) fun _ ↦ Access.Stays.fail
  | succ fuel ih =>
    unfold onmetadataLoop
    refine Access.Stays.ite (fun _ ↦ Access.Stays.ret) fun _ ↦ ?_
    refine Access.Stays.bind_of_forall (stays_rtmpAmf0PopObjectPropName 256 h) fun popped ↦ ?_
    cases popped with
    | none => exact Access.Stays.ret
    | some popped =>
      obtain ⟨name, ret⟩ := popped
      refine Access.Stays.ite (fun _ ↦ Access.Stays.ret) fun _ ↦ ?_
      cases fieldOf (untilNul name) with
      | none =>
        exact Access.Stays.ite (fun _ ↦ Access.Stays.ret) fun _ ↦ ih data (by omega)
      | some field =>
        refine Access.Stays.bind_of_forall (stays_popField data field (by omega)) fun popped ↦ ?_
        obtain ⟨popped, data⟩ := popped
        cases popped with
        | none => exact Access.Stays.ret
        | some ret' =>
          exact Access.Stays.ite (fun _ ↦ Access.Stays.ret) fun _ ↦ ih data (by omega)

private theorem returns_popField {data : RtmpMetadata} (h : Patterns data) (field : Field)
    (src : Nat) (srcLen : Int) : (popField data field src srcLen).Returns fun r ↦ Patterns r.2 := by
  cases field with
  | text field =>
    refine Access.Returns.bind_of_forall fun popped ↦ ?_
    cases popped with
    | none => exact Access.Returns.ret h
    | some popped => exact Access.Returns.ret h
  | number field =>
    have hpopped : (rtmpAmf0PopNumber src srcLen : Access Fault _).Returns fun r ↦
        ∀ pattern ret, r = some (pattern, ret) → pattern < 18446744073709551616 := by
      intro m r m' hrun pattern ret hr
      rw [run_rtmpAmf0PopNumber] at hrun
      cases hrun
      obtain ⟨t, ht, hsome⟩ := Option.map_eq_some_iff.1 hr
      cases hsome
      exact (poppedNumber_iff.1 ht).1
    refine Access.Returns.bind hpopped fun popped hpattern ↦ ?_
    cases popped with
    | none => exact Access.Returns.ret h
    | some popped =>
      obtain ⟨pattern, ret⟩ := popped
      refine Access.Returns.ret fun other ↦ ?_
      change Function.update data.number field pattern other < _
      rw [Function.update_apply]
      split
      · exact hpattern pattern ret rfl
      · exact h other

/-- What is left of the message ends where the message does. -/
private theorem returns_onmetadataLoop (fuel : Nat) {data : RtmpMetadata} (h : Patterns data)
    {src : Nat} {dataLen total : Int} (htotal : src + dataLen = total) :
    (onmetadataLoop fuel data src dataLen).Returns fun r ↦ Patterns r.2 ∧
      ∀ ended ∈ r.1, (ended.1 : Int) + ended.2 = total := by
  have hstop {src : Nat} {dataLen : Int} {data : RtmpMetadata} (h : Patterns data)
      (htotal : src + dataLen = total) :
      (Access.ret (some (src, dataLen), data) : Access Fault _).Returns fun r ↦ Patterns r.2 ∧
        ∀ ended ∈ r.1, (ended.1 : Int) + ended.2 = total := by
    refine Access.Returns.ret ⟨h, ?_⟩
    rintro ended hended
    cases hended
    exact htotal
  have hnone {data : RtmpMetadata} (h : Patterns data) :
      (Access.ret (none, data) : Access Fault (Option (Nat × Int) × RtmpMetadata)).Returns
        fun r ↦ Patterns r.2 ∧ ∀ ended ∈ r.1, (ended.1 : Int) + ended.2 = total :=
    Access.Returns.ret ⟨h, nofun⟩
  induction fuel generalizing data src dataLen with
  | zero =>
    unfold onmetadataLoop
    split
    · exact hstop h htotal
    · exact Access.Returns.fail
  | succ fuel ih =>
    unfold onmetadataLoop
    split
    · exact hstop h htotal
    · refine Access.Returns.bind_of_forall fun popped ↦ ?_
      cases popped with
      | none => exact hnone h
      | some popped =>
        obtain ⟨name, ret⟩ := popped
        dsimp only
        split
        · exact hstop h htotal
        · cases fieldOf (untilNul name) with
          | none =>
            dsimp only [Access.bind_eq, Access.pure_eq_ret, Access.ret_bind]
            split
            · exact hstop h (by omega)
            · exact ih h (by omega)
          | some field =>
            refine Access.Returns.bind (returns_popField h field _ _) fun popped hdata ↦ ?_
            obtain ⟨popped, data⟩ := popped
            cases popped with
            | none => exact hnone hdata
            | some ret' =>
              dsimp only
              split
              · exact hstop hdata (by omega)
              · exact ih hdata (by omega)

/-- The metadata is read inside the message. -/
theorem stays_onmetadataResult {data : RtmpMetadata} (hdata : Patterns data) {src n : Nat}
    {dataLen : Int} (h : src + dataLen ≤ n) :
    (rtmpProcessCmd0x12OnmetadataResult data src dataLen).Stays n := by
  unfold rtmpProcessCmd0x12OnmetadataResult
  refine Access.Stays.bind_of_forall (stays_rtmpAmf0PopString 256 h) fun popped ↦ ?_
  cases popped with
  | none => exact Access.Stays.ret
  | some popped =>
    obtain ⟨s, ret⟩ := popped
    refine Access.Stays.bind_of_forall (stays_rtmpAmf0PopObjectBegin (by omega)) fun popped ↦ ?_
    cases popped with
    | none => exact Access.Stays.ret
    | some ret' =>
      refine Access.Stays.bind (stays_onmetadataLoop _ data (by omega))
        (returns_onmetadataLoop _ hdata rfl) fun ended hended ↦ ?_
      obtain ⟨ended, data⟩ := ended
      cases ended with
      | none => exact Access.Stays.ret
      | some ended =>
        obtain ⟨src', left⟩ := ended
        have hsum := hended.2 (src', left) rfl
        dsimp only at hsum
        refine Access.Stays.bind_of_forall (stays_rtmpAmf0PopObjectEnd (by omega)) fun popped ↦ ?_
        cases popped with
        | none => exact Access.Stays.ret
        | some ret'' => exact Access.Stays.ret

/-- What the parser leaves are 64-bit patterns. -/
theorem returns_onmetadataResult {data : RtmpMetadata} (hdata : Patterns data) (src : Nat)
    (dataLen : Int) :
    (rtmpProcessCmd0x12OnmetadataResult data src dataLen).Returns fun r ↦ Patterns r.2 := by
  unfold rtmpProcessCmd0x12OnmetadataResult
  refine Access.Returns.bind_of_forall fun popped ↦ ?_
  cases popped with
  | none => exact Access.Returns.ret hdata
  | some popped =>
    refine Access.Returns.bind_of_forall fun popped ↦ ?_
    cases popped with
    | none => exact Access.Returns.ret hdata
    | some ret =>
      refine Access.Returns.bind (returns_onmetadataLoop _ hdata rfl) fun ended hended ↦ ?_
      obtain ⟨ended, data⟩ := ended
      cases ended with
      | none => exact Access.Returns.ret hended.1
      | some ended =>
        refine Access.Returns.bind_of_forall fun popped ↦ ?_
        cases popped with
        | none => exact Access.Returns.ret hended.1
        | some ret => exact Access.Returns.ret hended.1

/-! ### What the files should hold -/

/-- The metadata that a message brings, if it brings any: what the parser leaves, whether it ends
well or not. -/
def metadataOf (body : List UInt8) : Option RtmpMetadata :=
  match poppedString 256 (Mem.ofList body) 0 body.length with
  | none => none
  | some (commandName, _) =>
    if untilNul commandName = ascii "onMetaData" then
      match ((rtmpProcessCmd0x12OnmetadataResult zeroMetadata 0 body.length).run
        (Mem.ofList body)).1 with
      | .ok (_, metadata) => some metadata
      | .error _ => none
    else none

/-- A recording: its metadata and the tags behind it. -/
structure Session where
  metadata : RtmpMetadata
  tags : List FlvTag

/-- The recordings so far, the latest first; whether the latest goes on; and the answers that
`file_open` is going to give. -/
structure Recorder where
  sessions : List Session
  isOpen : Bool
  openResult : Nat → Bool

/-- Before the first recording. -/
def Recorder.start (openResult : Nat → Bool) : Recorder := ⟨[], false, openResult⟩

/-- Metadata ends the latest recording, and begins another one when the file opens. -/
def Recorder.reopen (r : Recorder) (metadata : RtmpMetadata) : Recorder where
  sessions := if r.openResult 0 then ⟨metadata, []⟩ :: r.sessions else r.sessions
  isOpen := r.openResult 0
  openResult := fun n ↦ r.openResult (n + 1)

/-- A tag goes into the latest recording, while it goes on. -/
def Recorder.write (r : Recorder) (tag : FlvTag) : Recorder :=
  match r.isOpen, r.sessions with
  | true, session :: older =>
    { r with sessions := { session with tags := session.tags ++ [tag] } :: older }
  | _, _ => r

/-- What a message adds. -/
def Recorder.take (r : Recorder) (message : RtmpMessage) : Recorder :=
  if message.messageType = 8 ∨ message.messageType = 9 then r.write (recordedTag message)
  else if message.messageType = 18 then (metadataOf message.body).elim r r.reopen
  else r

/-- The writes, cut where the file was opened, are FLV files that hold the recordings. -/
def IsRecording (file : List (List UInt8)) (sessions : List Session) : Prop :=
  ∃ written : List (List (List UInt8)), file = written.reverse.flatten ∧
    List.Forall₂ (fun writes session ↦ flvFile writes.flatten =
      some ⟨true, true, scriptData session.metadata, session.tags⟩) written sessions

/-! ### What the client writes -/

/-- The writes of a file, which begin with its header and its script data. -/
def Holds (writes : List (List UInt8)) (session : Session) : Prop :=
  Patterns session.metadata ∧ ∃ tags, writes = flvHeader :: tags ∧
    List.Forall₂ IsTag tags (scriptTag session.metadata :: session.tags)

/-- What was written is read. -/
theorem Holds.flvFile {writes : List (List UInt8)} {session : Session} (h : Holds writes session) :
    flvFile writes.flatten =
      some ⟨true, true, scriptData session.metadata, session.tags⟩ := by
  obtain ⟨hpatterns, tags, rfl, htags⟩ := h
  exact flvFile_flatten htags rfl (readScript_scriptData hpatterns)

/-- The client has written what the recorder holds. -/
structure Records (c : FlvClient) (r : Recorder) : Prop where
  isOpen : c.flvFp = r.isOpen
  openResult : c.openResult = r.openResult
  latest : r.isOpen = true → r.sessions ≠ []
  files : ∃ written : List (List (List UInt8)), c.file = written.reverse.flatten ∧
    List.Forall₂ Holds written r.sessions

section

variable {c : FlvClient} {r : Recorder}

theorem Records.of_same {c' : FlvClient} (h : Records c r) (hopen : c'.flvFp = c.flvFp)
    (hresult : c'.openResult = c.openResult) (hfile : c'.file = c.file) : Records c' r where
  isOpen := hopen.trans h.isOpen
  openResult := hresult.trans h.openResult
  latest := h.latest
  files := by
    rw [hfile]
    exact h.files

/-- A tag is written. -/
private theorem Records.write (h : Records c r) (hopen : c.flvFp = true) {bytes : List UInt8}
    {tag : FlvTag} (htag : IsTag bytes tag) : Records (c.fileWrite bytes) (r.write tag) := by
  have hrec : r.isOpen = true := h.isOpen.symm.trans hopen
  obtain ⟨written, hfile, hholds⟩ := h.files
  cases hsessions : r.sessions with
  | nil => exact absurd hsessions (h.latest hrec)
  | cons session older =>
    have hwrite : r.write tag =
        { r with sessions := { session with tags := session.tags ++ [tag] } :: older } := by
      unfold Recorder.write
      rw [hrec, hsessions]
    rw [hsessions] at hholds
    rw [hwrite]
    cases hholds with
    | @cons writes _ earlier _ hlatest holder =>
      refine ⟨h.isOpen, h.openResult, fun _ ↦ List.cons_ne_nil _ _,
        (writes ++ [bytes]) :: earlier, ?_, .cons ?_ holder⟩
      · simp [FlvClient.fileWrite, hfile]
      · obtain ⟨hpatterns, tags, rfl, htags⟩ := hlatest
        exact ⟨hpatterns, tags ++ [bytes], rfl, List.rel_append htags (.cons htag .nil)⟩

/-- Metadata opens the file anew. -/
private theorem Records.reopen (h : Records c r) {chunk : RtmpChunk}
    (htype : (chunk.rtmpFmt0Buf.getD 6 0).toNat = 18) {metadata : RtmpMetadata}
    (hpatterns : Patterns metadata) :
    Records (rtmpProcessMetadataToFlv c chunk metadata).2 (r.reopen metadata) := by
  obtain ⟨written, hfile, hholds⟩ := h.files
  unfold rtmpProcessMetadataToFlv Recorder.reopen
  rw [← h.openResult]
  dsimp only
  cases hopened : c.openResult 0 with
  | false =>
    have hclosed : c.fileOpen.flvFp = false := hopened
    rw [if_neg (by rw [hclosed]; decide)]
    exact ⟨hopened, rfl, nofun, written, hfile, hholds⟩
  | true =>
    have hopen : c.fileOpen.flvFp = true := hopened
    rw [if_pos hopen]
    refine ⟨hopened, rfl, fun _ ↦ List.cons_ne_nil _ _,
      [flvHeader, (metadataTag chunk metadata).bytes] :: written, ?_, .cons ?_ hholds⟩
    · simp [FlvClient.fileWrite, FlvClient.fileOpen, hfile]
    · exact ⟨hpatterns, _, rfl, .cons (isTag_metadataTag htype metadata) .nil⟩

/-! ### The handlers -/

variable {chunk : RtmpChunk}

/-- A program that stays in a message sees the bytes of the message. -/
private theorem run_message {α : Type} {p : Access Fault α} {body : List UInt8} {m : Mem}
    (hstays : p.Stays body.length) (hbody : m.slice 0 body.length = body) :
    (p.run (Mem.ofList body)).1 = (p.run m).1 := by
  have hread : ∀ i, i < body.length → m i = Mem.ofList body i := by
    intro i hi
    have hbytes := hbody.trans (Mem.slice_ofList body).symm
    have hi' := (Mem.slice_eq_iff _ _ _ _ _).1 hbytes i hi
    rwa [Nat.zero_add] at hi'
  exact ((hstays m).run_eq hread).1

private theorem patterns_zero : Patterns zeroMetadata := fun _ ↦ by
  show 0 < 18446744073709551616
  decide

/-- What a message of type 18 does, in terms of its body. -/
def takeMetadata (c : FlvClient) (chunk : RtmpChunk) (body : List UInt8) : Int × FlvClient :=
  match metadataOf body with
  | some metadata =>
    rtmpProcessMetadataToFlv { c with client := { c.client with rtmpStatus := .waitData } } chunk
      metadata
  | none => (if (poppedString 256 (Mem.ofList body) 0 body.length).isSome then 0 else -1, c)

private theorem run_metadata (c : FlvClient) (htype : chunk.messageType = 18) {body : List UInt8}
    {m : Mem} (hbody : m.slice 0 body.length = body) :
    ((rtmpProcessMessage c chunk body.length).run m).1 = .ok (takeMetadata c chunk body) := by
  have hstring : poppedString 256 (Mem.ofList body) 0 body.length =
      poppedString 256 m 0 body.length := by
    have hstays : (rtmpAmf0PopString 256 0 body.length : Access Fault _).Stays body.length :=
      stays_rtmpAmf0PopString 256 (by omega)
    have hrun := run_message hstays hbody
    rw [run_rtmpAmf0PopString, run_rtmpAmf0PopString] at hrun
    exact Except.ok.inj hrun
  have hstays : (rtmpProcessCmd0x12OnmetadataResult zeroMetadata 0 body.length).Stays body.length :=
    stays_onmetadataResult patterns_zero (by omega)
  have hread := run_message hstays hbody
  obtain ⟨ret, metadata, hends, -⟩ := rtmpProcessCmd0x12OnmetadataResult_ends zeroMetadata 0
    body.length m
  rw [hends] at hread
  unfold rtmpProcessMessage takeMetadata metadataOf
  simp only [htype]
  rw [Access.bind_eq, Access.run_bind_ok (run_rtmpAmf0PopString _ _ _ _), hstring, hread]
  cases poppedString 256 m 0 body.length with
  | none => rfl
  | some popped =>
    dsimp only
    split
    · rw [Access.bind_eq, Access.run_bind_ok hends]
      rfl
    · rfl

/-- The metadata of a message is made of 64-bit patterns. -/
private theorem patterns_metadataOf {body : List UInt8} {metadata : RtmpMetadata}
    (h : metadataOf body = some metadata) : Patterns metadata := by
  unfold metadataOf at h
  split at h
  · cases h
  · split at h
    · split at h
      · next ret metadata' hrun =>
        cases h
        exact returns_onmetadataResult patterns_zero _ _ _ _ _ (Prod.ext hrun rfl)
      · cases h
    · cases h

private theorem run_data (c : FlvClient) (chunk : RtmpChunk) (n : Nat) (m : Mem) :
    ((rtmpProcessDataToFlv c chunk n).run m).1 =
      .ok (if c.flvFp then (0, c.fileWrite (dataTag chunk (m.slice 0 n))) else (-1, c)) := by
  unfold rtmpProcessDataToFlv
  cases hopen : c.flvFp with
  | false => rfl
  | true =>
    rw [if_neg (by decide), if_neg (by omega), Int.toNat_natCast, Access.bind_eq,
      Access.run_bind_ok (Access.run_getList 0 n _)]
    rfl

/-- The client behind a handler. -/
def behind (c : FlvClient) : Except Fault (Int × FlvClient) → FlvClient
  | .ok r => r.2
  | .error _ => c

/-- The client has written what the recorder holds, and its history is that of `c`. -/
structure Follows (c : FlvClient) (r : Recorder) (c' : FlvClient) : Prop where
  records : Records c' r
  messages : c'.client.rtmpMessages = c.client.rtmpMessages

private theorem isTag_dataTag (hsaved : HeaderSaved chunk) {message : RtmpMessage}
    (htype : message.messageType = chunk.messageType)
    (htime : message.timeStamp = chunk.timeStamp)
    (hsize : message.body.length = chunk.messageSize) :
    IsTag (dataTag chunk message.body) (recordedTag message) := by
  constructor
  · rw [flvTag_dataTag hsaved hsize, ← htype, ← htime]
    rfl
  · rfl

/-- Audio and video go into the open file. -/
private theorem follows_data (h : Records c r) (hsaved : HeaderSaved chunk) {message : RtmpMessage}
    (htype : message.messageType = chunk.messageType)
    (htime : message.timeStamp = chunk.timeStamp)
    (hsize : message.body.length = chunk.messageSize) {m : Mem}
    (hbody : m.slice 0 message.body.length = message.body) :
    Follows c (r.write (recordedTag message))
      (behind c ((rtmpProcessDataToFlv c chunk message.body.length).run m).1) := by
  rw [run_data, hbody]
  cases hopen : c.flvFp with
  | true => exact ⟨h.write hopen (isTag_dataTag hsaved htype htime hsize), rfl⟩
  | false =>
    have hclosed : r.write (recordedTag message) = r := by
      unfold Recorder.write
      rw [← h.isOpen, hopen]
    rw [hclosed]
    exact ⟨h, rfl⟩

/-- Metadata opens the file. -/
private theorem follows_metadata (h : Records c r) (hsaved : HeaderSaved chunk)
    (htype : chunk.messageType = 18) {body : List UInt8} {m : Mem}
    (hbody : m.slice 0 body.length = body) :
    Follows c ((metadataOf body).elim r r.reopen)
      (behind c ((rtmpProcessMessage c chunk body.length).run m).1) := by
  rw [run_metadata c htype hbody]
  unfold takeMetadata
  cases hmetadata : metadataOf body with
  | none => exact ⟨h, rfl⟩
  | some metadata =>
    have hsame : Records { c with client := { c.client with rtmpStatus := .waitData } } r :=
      h.of_same rfl rfl rfl
    exact ⟨hsame.reopen (hsaved.type.trans htype) (patterns_metadataOf hmetadata),
      (congrArg RtmpClient.rtmpMessages (returns_metadataToFlv _ chunk metadata)).trans rfl⟩

/-- The other messages leave the file alone. -/
private theorem follows_other (h : Records c r) (n : Int) (m : Mem)
    (htype : chunk.messageType ≠ 8 ∧ chunk.messageType ≠ 9 ∧ chunk.messageType ≠ 18) :
    Follows c r (behind c ((rtmpProcessMessage c chunk n).run m).1) := by
  have hother : rtmpProcessMessage c chunk n = (Client.rtmpProcessMessage c.client chunk n).bind
      fun r ↦ .ret (r.1, { c with client := r.2 }) := by
    unfold rtmpProcessMessage
    split
    · next h8 => exact absurd h8 htype.1
    · next h9 => exact absurd h9 htype.2.1
    · next h18 => exact absurd h18 htype.2.2
    · rfl
  have hmessages : (Client.rtmpProcessMessage c.client chunk n).Returns fun r ↦
      r.2.rtmpMessages = c.client.rtmpMessages := by
    by_cases h1 : chunk.messageType = 1
    · intro m r m' hrun
      rw [run_setChunkSize _ _ _ _ h1] at hrun
      cases hrun
      rfl
    · refine (returns_processMessage c.client chunk n h1).mono fun r hr ↦ ?_
      rw [hr.2.2]
      rfl
  rw [hother, Access.run_bind]
  cases hrun : (Client.rtmpProcessMessage c.client chunk n).run m with
  | mk result m' =>
    cases result with
    | error e => exact ⟨h, rfl⟩
    | ok result => exact ⟨h.of_same rfl rfl rfl, hmessages _ _ _ hrun⟩

/-- Every message has the effect that it should have on the file. -/
private theorem follows_rtmpProcessMessage (h : Records c r) (hsaved : HeaderSaved chunk)
    {message : RtmpMessage} (htype : message.messageType = chunk.messageType)
    (htime : message.timeStamp = chunk.timeStamp)
    (hsize : message.body.length = chunk.messageSize) {m : Mem}
    (hbody : m.slice 0 message.body.length = message.body) :
    Follows c (r.take message)
      (behind c ((rtmpProcessMessage c chunk message.body.length).run m).1) := by
  unfold Recorder.take
  rw [htype]
  by_cases hdata : chunk.messageType = 8 ∨ chunk.messageType = 9
  · have hhandler : rtmpProcessMessage c chunk message.body.length =
        rtmpProcessDataToFlv c chunk message.body.length := by
      unfold rtmpProcessMessage
      rcases hdata with hdata | hdata
      · simp only [hdata]
      · simp only [hdata]
    rw [if_pos hdata, hhandler]
    exact follows_data h hsaved htype htime hsize hbody
  · rw [if_neg hdata]
    by_cases hmetadata : chunk.messageType = 18
    · rw [if_pos hmetadata]
      exact follows_metadata h hsaved hmetadata hbody
    · rw [if_neg hmetadata]
      exact follows_other h _ m ⟨fun h8 ↦ hdata (.inl h8), fun h9 ↦ hdata (.inr h9), hmetadata⟩

/-- So has the call of the handler in `rtmp_process_chunk`, which also goes into the history. -/
private theorem records_deliver (h : Records c r) {chunkId n : Nat}
    (hsaved : HeaderSaved (c.client.rtmpChunk chunkId))
    (hsize : n = (c.client.rtmpChunk chunkId).messageSize) (data : MessageData) (buf : Mem) :
    Records (deliver c chunkId data n buf).2.1 (r.take (messageOf c.client chunkId data n buf)) ∧
      (deliver c chunkId data n buf).2.1.client.rtmpMessages =
        c.client.rtmpMessages ++ [messageOf c.client chunkId data n buf] := by
  have hstart : Records (c.recorded chunkId data n buf) r := h.of_same rfl rfl rfl
  have hlen : (messageOf c.client chunkId data n buf).body.length = n := Mem.length_slice _ _ _
  have htype : (messageOf c.client chunkId data n buf).messageType =
      (c.client.rtmpChunk chunkId).messageType := rfl
  have hbody : (data.mem buf).slice 0 (messageOf c.client chunkId data n buf).body.length =
      (messageOf c.client chunkId data n buf).body := by
    rw [hlen]
    rfl
  have hfollows := follows_rtmpProcessMessage hstart hsaved htype rfl (hlen.trans hsize) hbody
  rw [hlen] at hfollows
  have hdeliver : Records (deliver c chunkId data n buf).2.1
      (r.take (messageOf c.client chunkId data n buf)) ∧
      (deliver c chunkId data n buf).2.1.client.rtmpMessages =
        (c.recorded chunkId data n buf).client.rtmpMessages := by
    unfold deliver handlerRun
    generalize (rtmpProcessMessage (c.recorded chunkId data n buf) (c.client.rtmpChunk chunkId)
      n).run (data.mem buf) = run at hfollows
    obtain ⟨result, m⟩ := run
    cases result with
    | error e => exact ⟨hfollows.records, hfollows.messages⟩
    | ok result =>
      cases data with
      | window off => exact ⟨hfollows.records, hfollows.messages⟩
      | messageBuf b => exact ⟨hfollows.records.of_same rfl rfl rfl, hfollows.messages⟩
  exact hdeliver

/-! ### Runs -/

/-- The recorder after the messages of a history. -/
def recorder (openResult : Nat → Bool) (messages : List RtmpMessage) : Recorder :=
  messages.foldl Recorder.take (.start openResult)

/-- A client that nothing has come to yet. -/
structure Fresh (c : FlvClient) : Prop where
  idle : ∀ i, (c.client.rtmpChunk i).lastMessageSize = 0
  messages : c.client.rtmpMessages = []
  closed : c.flvFp = false
  file : c.file = []

/-- The client after regular calls. -/
inductive Received (start : FlvClient) : FlvClient → Prop where
  | start : Received start start
  | call {c : FlvClient} (h : Received start c) (buf : Mem) (datalen : Int)
      (hregular : Regular c.client buf datalen) :
      Received start (rtmpProcessChunk c buf datalen).2.1

private theorem records_start {c : FlvClient} (h : Fresh c) :
    Records c (recorder c.openResult c.client.rtmpMessages) := by
  rw [h.messages]
  exact ⟨h.closed, rfl, nofun, [], h.file, .nil⟩

/-- A call writes what the message asks for, if there is one. -/
private theorem records_rtmpProcessChunk {openResult : Nat → Bool} {c : FlvClient}
    (h : Records c (recorder openResult c.client.rtmpMessages)) (hsound : Sound c.client)
    (hsaved : Saved c.client) {buf : Mem} {datalen : Int}
    (hregular : Regular c.client buf datalen) :
    Records (rtmpProcessChunk c buf datalen).2.1
      (recorder openResult (rtmpProcessChunk c buf datalen).2.1.client.rtmpMessages) := by
  have hstep := handedOver_chunkStep hsound hsaved hregular
  have hmessages := messages_chunkStep hsound buf datalen
  unfold rtmpProcessChunk
  cases hc : chunkStep c.client buf datalen with
  | ret ret client =>
    rw [hc] at hmessages
    have hsame : client.rtmpMessages = c.client.rtmpMessages := hmessages
    dsimp only
    rw [hsame]
    exact h.of_same rfl rfl rfl
  | fault e client =>
    rw [hc] at hmessages
    have hsame : client.rtmpMessages = c.client.rtmpMessages := hmessages
    dsimp only
    rw [hsame]
    exact h.of_same rfl rfl rfl
  | message client chunkId data dataLen =>
    rw [hc] at hstep hmessages
    have hsame : client.rtmpMessages = c.client.rtmpMessages := hmessages
    obtain ⟨-, hheader, rfl⟩ := hstep.message _ _ _ _ rfl
    have hstart : Records { c with client := client }
        (recorder openResult c.client.rtmpMessages) := h.of_same rfl rfl rfl
    obtain ⟨hrecords, hhistory⟩ := records_deliver hstart hheader rfl data buf
    dsimp only at hrecords hhistory ⊢
    rw [hhistory, hsame, recorder, List.foldl_append]
    exact hrecords

/-- Whatever comes in, the writes behind each opening of the file are an FLV file: its script data
has the numbers of the metadata that opened it, and its tags are the audio and video messages up to
the next metadata, in order. -/
theorem rtmpProcessChunk_records {start c : FlvClient} (hfresh : Fresh start)
    (h : Received start c) :
    IsRecording c.file (recorder start.openResult c.client.rtmpMessages).sessions := by
  have hrun : Sound c.client ∧ Saved c.client ∧
      Records c (recorder start.openResult c.client.rtmpMessages) := by
    induction h with
    | start =>
      exact ⟨sound_of_idle hfresh.idle, fun i hi ↦ absurd (hfresh.idle i) hi, records_start hfresh⟩
    | call h buf datalen hregular ih =>
      obtain ⟨hsound, hsaved, hrecords⟩ := ih
      obtain ⟨hsound', hsaved'⟩ := sound_rtmpProcessChunk hsound hsaved hregular
      exact ⟨hsound', hsaved', records_rtmpProcessChunk hrecords hsound hsaved hregular⟩
  obtain ⟨written, hfile, hholds⟩ := hrun.2.2.files
  exact ⟨written, hfile, hholds.imp fun _ _ ↦ Holds.flvFile⟩

/-- The client behind a metadata message and an audio message. -/
def sampleRecorded : FlvClient :=
  (rtmpProcessChunk sampleOpened (Mem.ofList (sampleAudio 0 0xff 0xff 0xff)) 18).2.1

/-- One file with one tag. -/
theorem rtmpProcessChunk_records_small :
    (recorder sampleClient.openResult sampleRecorded.client.rtmpMessages).sessions.map
      Session.tags = [[⟨8, 2, 16777215, 0, [0xaf, 1], 13⟩]] ∧
    IsRecording sampleRecorded.file
      (recorder sampleClient.openResult sampleRecorded.client.rtmpMessages).sessions := by
  have hfresh : Fresh sampleClient := ⟨fun _ ↦ rfl, rfl, rfl, rfl⟩
  have hopened : Received sampleClient sampleOpened :=
    .call .start (Mem.ofList sampleMetadata) 25 (by decide +kernel)
  have hrecorded : Received sampleClient sampleRecorded :=
    .call hopened (Mem.ofList (sampleAudio 0 0xff 0xff 0xff)) 18 (by decide +kernel)
  exact ⟨by decide +kernel, rtmpProcessChunk_records hfresh hrecorded⟩

end

end Flv
end RtmpRecv.Client
