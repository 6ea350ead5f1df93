import RtmpRecv.Client.Flv
import RtmpRecv.Client.Step
import RtmpRecv.Wire.Flv

/-!
# The tags of an FLV file

Library `Client`. Every tag that is written for an audio or a video message has the fields of the
message, because the header that a chunk stream has saved is that of its open message; only the
upper bits of the time stamp are lost.
-/

namespace RtmpRecv.Client
open RtmpRecv.Base RtmpRecv.Amf0

/-! ### Saved headers -/

/-- The saved header has the size and the type of the message. -/
structure HeaderSaved (k : RtmpChunk) : Prop where
  size : be24 (k.rtmpFmt0Buf.getD 3 0) (k.rtmpFmt0Buf.getD 4 0) (k.rtmpFmt0Buf.getD 5 0) =
    k.messageSize
  type : (k.rtmpFmt0Buf.getD 6 0).toNat = k.messageType

/-- Every chunk stream with an open message has saved its header. -/
def Saved (c : RtmpClient) : Prop :=
  ∀ i, (c.rtmpChunk i).lastMessageSize ≠ 0 → HeaderSaved (c.rtmpChunk i)

/-- The chunk at the head of the window starts a message with fmt 0 or fmt 1, or continues one with
fmt 3. -/
def Regular (c : RtmpClient) (buf : Mem) (datalen : Int) : Prop :=
  datalen ≠ 0 →
    if (c.rtmpChunk (chunkIdOf buf)).lastMessageSize = 0 then chunkFmt buf = 0 ∨ chunkFmt buf = 1
    else chunkFmt buf = 3

/-- The `switch` leaves the chunk streams with open messages alone, and where it has read the header
of a new message, it has saved it. -/
def HeaderStep.Saves (c : RtmpClient) (chunkId : Nat) : HeaderStep → Prop
  | .ret _ c' => ∀ i, (c.rtmpChunk i).lastMessageSize ≠ 0 → c'.rtmpChunk i = c.rtmpChunk i
  | .parsed c' chunkInfo _ =>
    (∀ i, (c.rtmpChunk i).lastMessageSize ≠ 0 → c'.rtmpChunk i = c.rtmpChunk i) ∧
    ((c.rtmpChunk chunkId).lastMessageSize = 0 →
      HeaderSaved (startMessage (c'.rtmpChunk chunkId) chunkInfo))

private theorem saveHeader_other {c : RtmpClient} {chunkId i : Nat} (bytes : List UInt8)
    (hidle : (c.rtmpChunk chunkId).lastMessageSize = 0)
    (hi : (c.rtmpChunk i).lastMessageSize ≠ 0) :
    (saveHeader c chunkId bytes).rtmpChunk i = c.rtmpChunk i := by
  apply RtmpClient.setChunk_other
  rintro rfl
  exact hi hidle

/-- What a header of at least seven bytes leaves in `rtmp_fmt0_buf`. -/
private theorem saveHeader_same (c : RtmpClient) (chunkId : Nat) (buf : Mem) {n : Nat} (hn : 7 ≤ n)
    (chunkInfo : RtmpChunk) (hsize : chunkInfo.messageSize = be24 (buf 4) (buf 5) (buf 6))
    (htype : chunkInfo.messageType = (buf 7).toNat) :
    HeaderSaved (startMessage ((saveHeader c chunkId (buf.slice 1 n)).rtmpChunk chunkId)
      chunkInfo) := by
  have hbyte : ∀ k, k < 7 → ((saveHeader c chunkId (buf.slice 1 n)).rtmpChunk
      chunkId).rtmpFmt0Buf.getD k 0 = buf (1 + k) := fun k hk ↦ by
    unfold saveHeader
    rw [RtmpClient.setChunk_same]
    dsimp only
    rw [List.getD_append _ _ _ _ (by rw [Mem.length_slice]; omega),
      Mem.getD_slice _ _ _ _ _ (by omega)]
  constructor
  · change be24 _ _ _ = chunkInfo.messageSize
    rw [hsize]
    congr 1
    · exact hbyte 3 (by omega)
    · exact hbyte 4 (by omega)
    · exact hbyte 5 (by omega)
  · change (_ : UInt8).toNat = chunkInfo.messageType
    rw [htype]
    exact congrArg UInt8.toNat (hbyte 6 (by omega))

/-- A header that was read and saved. -/
private theorem saves_parsed {c c' : RtmpClient} {chunkId hl n : Nat} {buf : Mem} (hn : 7 ≤ n)
    (hidle : (c.rtmpChunk chunkId).lastMessageSize = 0) {chunkInfo : RtmpChunk}
    (hsize : chunkInfo.messageSize = be24 (buf 4) (buf 5) (buf 6))
    (htype : chunkInfo.messageType = (buf 7).toNat)
    (hchunks : c'.rtmpChunk = (saveHeader c chunkId (buf.slice 1 n)).rtmpChunk) :
    (HeaderStep.parsed c' chunkInfo hl).Saves c chunkId := by
  constructor
  · intro i hi
    rw [hchunks]
    exact saveHeader_other _ hidle hi
  · intro _
    rw [hchunks]
    exact saveHeader_same c chunkId buf hn chunkInfo hsize htype

private theorem saves_fmt0 {c : RtmpClient} {chunkId : Nat} (buf : Mem) (datalen : Int)
    (hidle : (c.rtmpChunk chunkId).lastMessageSize = 0) :
    (headerFmt0 c chunkId buf datalen).Saves c chunkId := by
  unfold headerFmt0
  split
  · exact fun _ _ ↦ rfl
  · dsimp only
    split
    · exact fun i hi ↦ saveHeader_other _ hidle hi
    · exact saves_parsed (show 7 ≤ 11 by decide) hidle rfl rfl (rtmpChunk_setLast _ _ _)

private theorem saves_fmt1 {c : RtmpClient} {chunkId : Nat} (buf : Mem) (datalen : Int)
    (hidle : (c.rtmpChunk chunkId).lastMessageSize = 0) :
    (headerFmt1 c chunkId buf datalen).Saves c chunkId := by
  unfold headerFmt1
  split
  · exact fun _ _ ↦ rfl
  · dsimp only
    split
    · exact fun i hi ↦ saveHeader_other _ hidle hi
    · exact saves_parsed (show 7 ≤ 7 by decide) hidle rfl rfl (rtmpChunk_addDelta _ _ _)

/-- A chunk that starts a message saves its header; one that continues a message saves none. -/
private theorem saves_chunkHeader {c : RtmpClient} {buf : Mem} {datalen : Int}
    (hregular : Regular c buf datalen) (hdata : datalen ≠ 0) :
    (chunkHeader c (chunkFmt buf) (chunkIdOf buf) buf datalen).Saves c (chunkIdOf buf) := by
  have hfmt := hregular hdata
  by_cases hidle : (c.rtmpChunk (chunkIdOf buf)).lastMessageSize = 0
  · rw [if_pos hidle] at hfmt
    rcases hfmt with hfmt | hfmt
    · rw [hfmt]
      exact saves_fmt0 buf datalen hidle
    · rw [hfmt]
      exact saves_fmt1 buf datalen hidle
  · rw [if_neg hidle] at hfmt
    rw [hfmt]
    change (headerFmt3 c datalen).Saves c (chunkIdOf buf)
    unfold headerFmt3
    split
    · exact fun _ _ ↦ rfl
    · exact ⟨fun _ _ ↦ rfl, fun h ↦ absurd h hidle⟩

/-! ### Steps -/

/-- The message that is handed over has its header saved, and its length is its size. -/
structure HandedOver (step : ChunkStep) : Prop where
  saved : Saved step.client
  sound : Sound step.client
  message : ∀ c chunkId data dataLen, step = .message c chunkId data dataLen →
    (c.rtmpChunk chunkId).lastMessageSize = 0 ∧ HeaderSaved (c.rtmpChunk chunkId) ∧
      dataLen = (c.rtmpChunk chunkId).messageSize

private theorem HandedOver.ret {r : Int} {c : RtmpClient} (hsaved : Saved c) (hsound : Sound c) :
    HandedOver (.ret r c) :=
  ⟨hsaved, hsound, fun _ _ _ _ h ↦ by cases h⟩

private theorem Saved.of_kept {c c' : RtmpClient} (hsaved : Saved c) (hk : HeaderKept c c')
    (hsame : ∀ i, (c.rtmpChunk i).lastMessageSize ≠ 0 → c'.rtmpChunk i = c.rtmpChunk i) :
    Saved c' := by
  intro i hi
  obtain ⟨b, hb⟩ := hk.chunk i
  have hopen : (c.rtmpChunk i).lastMessageSize ≠ 0 := by
    rw [hb] at hi
    exact hi
  rw [hsame i hopen]
  exact hsaved i hopen

private theorem Saved.setChunk {c : RtmpClient} (hsaved : Saved c) (i : Nat) {k : RtmpChunk}
    (h : k.lastMessageSize ≠ 0 → HeaderSaved k) : Saved (c.setChunk i k) := by
  intro j hj
  by_cases hji : j = i
  · subst hji
    rw [RtmpClient.setChunk_same] at hj ⊢
    exact h hj
  · rw [RtmpClient.setChunk_other _ _ _ _ hji] at hj ⊢
    exact hsaved j hj

/-- The body of a chunk leaves the saved headers alone. -/
private theorem handedOver_body {c : RtmpClient} {chunkId : Nat} {chunkInfo : RtmpChunk} {hl : Nat}
    {buf : Mem} {step : ChunkStep} (h : BodyStep c chunkId chunkInfo hl buf step)
    (hsaved : Saved c) (hsound : Sound c) (hsize : chunkInfo.messageSize < 16777216)
    (hheader : (c.rtmpChunk chunkId).lastMessageSize = 0 →
      HeaderSaved (startMessage (c.rtmpChunk chunkId) chunkInfo)) : HandedOver step := by
  have hsound' := h.sound hsound hsize
  have hcases := h.cases
  refine ⟨?_, hsound', ?_⟩
  · cases h with
    | single hlast hfits => exact hsaved.setChunk chunkId fun h ↦ absurd rfl h
    | first hlast hlong =>
      have hnew : Saved c.newBuffer.2 := hsaved
      exact hnew.setChunk chunkId fun _ ↦ ⟨(hheader hlast).size, (hheader hlast).type⟩
    | more m hlast hbuf hlong =>
      exact hsaved.setChunk chunkId fun _ ↦
        ⟨(hsaved chunkId hlast).size, (hsaved chunkId hlast).type⟩
    | final m hlast hbuf hfits =>
      exact hsaved.setChunk chunkId fun _ ↦
        ⟨(hsaved chunkId hlast).size, (hsaved chunkId hlast).type⟩
  · intro c' i data dataLen heq
    obtain hret | ⟨data', dataLen', hmessage, hlast, -⟩ := hcases
    · rw [hret] at heq
      cases heq
    · have hclient : step.client = c' ∧ chunkId = i := by
        rw [hmessage] at heq
        cases heq
        exact ⟨rfl, rfl⟩
      obtain ⟨hclient, rfl⟩ := hclient
      refine ⟨hclient ▸ hlast, ?_⟩
      cases h with
      | single hidle hfits =>
        cases heq
        change HeaderSaved ((c.setChunk chunkId _).rtmpChunk chunkId) ∧
          _ = (((c.setChunk chunkId _).rtmpChunk chunkId).messageSize : Int)
        rw [RtmpClient.setChunk_same]
        exact ⟨⟨(hheader hidle).size, (hheader hidle).type⟩, rfl⟩
      | first hidle hlong => cases heq
      | more m hidle hbuf hlong => cases heq
      | final m hopen hbuf hfits =>
        cases heq
        change HeaderSaved ((c.setChunk chunkId _).rtmpChunk chunkId) ∧
          _ = (((c.setChunk chunkId _).rtmpChunk chunkId).messageSize : Int)
        rw [RtmpClient.setChunk_same]
        exact ⟨⟨(hsaved chunkId hopen).size, (hsaved chunkId hopen).type⟩, rfl⟩

/-- A regular chunk hands over a message whose header is saved. -/
theorem handedOver_chunkStep {c : RtmpClient} (hsound : Sound c) (hsaved : Saved c) {buf : Mem}
    {datalen : Int} (hregular : Regular c buf datalen) : HandedOver (chunkStep c buf datalen) := by
  have hf := fine_chunkHeader c (chunkFmt buf) (chunkIdOf buf) buf datalen
  unfold chunkStep
  split
  · exact .ret hsaved hsound
  · next hdata =>
    have hsaves := saves_chunkHeader hregular hdata
    split
    · exact .ret hsaved hsound
    · cases hp : chunkHeader c (chunkFmt buf) (chunkIdOf buf) buf datalen with
      | ret r c' =>
        rw [hp] at hf hsaves
        exact .ret (hsaved.of_kept hf.1 hsaves) (hsound.headerKept hf.1)
      | parsed c' chunkInfo hl =>
        rw [hp] at hf hsaves
        obtain ⟨hk, hsize, -, -⟩ := hf
        obtain ⟨hsame, hheader⟩ := hsaves
        have hsound' := hsound.headerKept hk
        have hsaved' := hsaved.of_kept hk hsame
        dsimp only
        by_cases hd : datalen < ((hl + 1 + chunkLen c' (chunkIdOf buf) chunkInfo : Nat) : Int)
        · rw [chunkBody_short (leftover_lt (hsound' _) hsize) hd]
          exact .ret hsaved' hsound'
        · have hbody : BodyStep c' (chunkIdOf buf) chunkInfo hl buf
              (chunkBody c' (chunkIdOf buf) chunkInfo hl buf datalen) :=
            bodyStep_chunkBody (hsound' (chunkIdOf buf)) hsize (Int.not_lt.1 hd)
          refine handedOver_body hbody hsaved' hsound' hsize fun hidle ↦ hheader ?_
          obtain ⟨b, hb⟩ := hk.chunk (chunkIdOf buf)
          rw [hb] at hidle
          exact hidle

/-! ### Handlers -/

namespace Flv

theorem returns_metadataToFlv (c : FlvClient) (chunk : RtmpChunk) (data : RtmpMetadata) :
    (rtmpProcessMetadataToFlv c chunk data).2.client = c.client := by
  unfold rtmpProcessMetadataToFlv
  dsimp only
  split <;> rfl

private theorem returns_otherMessage (c : RtmpClient) (chunk : RtmpChunk) (dataLen : Int) :
    (Client.rtmpProcessMessage c chunk dataLen).Returns fun r ↦ r.2.rtmpChunk = c.rtmpChunk := by
  by_cases htype : chunk.messageType = 1
  · intro m r m' hrun
    rw [run_setChunkSize _ _ _ _ htype] at hrun
    cases hrun
    rfl
  · refine (returns_processMessage c chunk dataLen htype).mono fun r hr ↦ ?_
    exact (congrArg RtmpClient.rtmpChunk hr.2.2).trans rfl

/-- No handler touches the chunk streams. -/
theorem returns_rtmpProcessMessage (c : FlvClient) (chunk : RtmpChunk) (dataLen : Int) :
    (rtmpProcessMessage c chunk dataLen).Returns fun r ↦
      r.2.client.rtmpChunk = c.client.rtmpChunk := by
  have hdata : (rtmpProcessDataToFlv c chunk dataLen).Returns fun r ↦
      r.2.client.rtmpChunk = c.client.rtmpChunk := by
    unfold rtmpProcessDataToFlv
    split
    · exact .ret rfl
    · split
      · exact .fail
      · exact .bind_of_forall fun data ↦ .ret rfl
  unfold rtmpProcessMessage
  split
  · exact hdata
  · exact hdata
  · apply Access.Returns.bind_of_forall
    intro popped
    cases popped with
    | none => exact .ret rfl
    | some popped =>
      dsimp only
      split
      · apply Access.Returns.bind_of_forall
        intro result
        apply Access.Returns.ret
        rw [returns_metadataToFlv]
      · exact .ret rfl
  · exact .bind (returns_otherMessage c.client chunk dataLen) fun r hr ↦ .ret hr

/-- The handler of a message leaves the other chunk streams alone, and of its own one all but the
bytes of the message. -/
theorem deliver_chunks (c : FlvClient) (chunkId : Nat) (data : MessageData) (dataLen : Int)
    (buf : Mem) :
    (∀ i, i ≠ chunkId →
      (deliver c chunkId data dataLen buf).2.1.client.rtmpChunk i = c.client.rtmpChunk i) ∧
    ∃ b, (deliver c chunkId data dataLen buf).2.1.client.rtmpChunk chunkId =
      { c.client.rtmpChunk chunkId with messageBuf := b } := by
  unfold deliver
  cases hrun : handlerRun c chunkId data dataLen buf with
  | mk r m =>
    cases r with
    | error e => exact ⟨fun i _ ↦ rfl, _, rfl⟩
    | ok r =>
      have hreturns := returns_rtmpProcessMessage (c.recorded chunkId data dataLen buf)
        (c.client.rtmpChunk chunkId) dataLen
      have hkept : r.2.client.rtmpChunk = c.client.rtmpChunk := hreturns _ _ _ hrun
      cases data with
      | window off => exact ⟨fun i _ ↦ congrFun hkept i, _, congrFun hkept chunkId⟩
      | messageBuf b =>
        constructor
        · intro i hi
          exact (RtmpClient.setChunk_other _ _ _ _ hi).trans (congrFun hkept i)
        · refine ⟨some m, (RtmpClient.setChunk_same _ _ _).trans ?_⟩
          rw [congrFun hkept chunkId]

/-! ### Tags -/

private theorem set_end {xs : List UInt8} {n : Nat} (hn : xs.length = n) (b : UInt8) :
    (Mem.ofList xs).set n b = Mem.ofList (xs ++ [b]) :=
  hn ▸ Mem.set_ofList xs b

private theorem memcpy_end {xs : List UInt8} {n : Nat} (hn : xs.length = n) (ys : List UInt8) :
    (Mem.ofList xs).memcpy n ys = Mem.ofList (xs ++ ys) :=
  hn ▸ Mem.memcpy_ofList xs ys

private theorem slice_whole {xs : List UInt8} {n : Nat} (hn : xs.length = n) :
    (Mem.ofList xs).slice 0 n = xs :=
  hn ▸ Mem.slice_ofList xs

/-- The bytes of the tag of a message. -/
theorem dataTag_eq (chunk : RtmpChunk) (data : List UInt8) :
    dataTag chunk data =
      chunk.rtmpFmt0Buf.getD 6 0 :: chunk.rtmpFmt0Buf.getD 3 0 :: chunk.rtmpFmt0Buf.getD 4 0 ::
        chunk.rtmpFmt0Buf.getD 5 0 :: UInt8.ofNat (chunk.timeStamp / 65536) ::
        UInt8.ofNat (chunk.timeStamp / 256) :: UInt8.ofNat chunk.timeStamp :: 0 :: 0 :: 0 :: 0 ::
        (data ++ be32Bytes (data.length + 11)) := by
  unfold dataTag
  dsimp only
  rw [le32Bytes_swap4Byte, le32Bytes_swap4Byte, set_end (n := 0) rfl, set_end (n := 1) rfl,
    set_end (n := 2) rfl, set_end (n := 3) rfl, memcpy_end (n := 4) rfl,
    -- the bytes 7 to 10 stay the zeros of `memset`
    ← Mem.ofList_zeros _ 4, memcpy_end (n := 11) rfl,
    memcpy_end (n := 11 + data.length) (by simp [be32Bytes]; omega),
    slice_whole (n := data.length + 15) (by simp [be32Bytes])]
  simp [be32Bytes, List.replicate_succ]

/-- The tag of a message whose header is saved has all its fields but the upper bits of its time
stamp. -/
theorem flvTag_dataTag {chunk : RtmpChunk} {data : List UInt8} (hsaved : HeaderSaved chunk)
    (hsize : data.length = chunk.messageSize) :
    Wire.flvTag (dataTag chunk data) =
      some (⟨chunk.messageType, data.length, chunk.timeStamp % 16777216, 0, data,
        data.length + 11⟩, []) := by
  have hlt := be24_lt (chunk.rtmpFmt0Buf.getD 3 0) (chunk.rtmpFmt0Buf.getD 4 0)
    (chunk.rtmpFmt0Buf.getD 5 0)
  rw [hsaved.size, ← hsize] at hlt
  have htime : be32 0 (UInt8.ofNat (chunk.timeStamp / 65536))
      (UInt8.ofNat (chunk.timeStamp / 256)) (UInt8.ofNat chunk.timeStamp) =
        chunk.timeStamp % 16777216 := by
    simp only [be32, UInt8.toNat_ofNat', UInt8.toNat_zero]
    omega
  have hprevious : be32 (UInt8.ofNat ((data.length + 11) / 16777216))
      (UInt8.ofNat ((data.length + 11) / 65536)) (UInt8.ofNat ((data.length + 11) / 256))
      (UInt8.ofNat (data.length + 11)) = data.length + 11 :=
    be32_be32Bytes _ (by omega)
  rw [dataTag_eq, be32Bytes, Wire.flvTag_append (hsaved.size.trans hsize.symm), htime, hprevious,
    hsaved.type]
  rfl

/-! ### Runs -/

/-- A call of `rtmp_process_data_to_flv` with an open file: the message, the result, and the writes
to the file before and after it. -/
structure TagCall where
  message : RtmpMessage
  ret : Except Fault Int
  before : List (List UInt8)
  after : List (List UInt8)

/-- The tag that a message asks for. -/
def tagOf (message : RtmpMessage) : Wire.FlvTag :=
  { tagType := message.messageType, dataSize := message.body.length
    timeStamp := message.timeStamp, streamId := 0, data := message.body
    previousTagSize := message.body.length + 11 }

/-- The call appends one tag, and the tag carries the message. -/
def TagCall.Carries (call : TagCall) : Prop :=
  call.ret = .ok 0 ∧ ∃ tag, call.after = call.before ++ [tag] ∧
    Wire.flvTag tag = some (tagOf call.message, [])

/-- The calls of `rtmp_process_data_to_flv` in one call of `rtmp_process_chunk`. -/
def tagCalls (c : FlvClient) (buf : Mem) (datalen : Int) : List TagCall :=
  match chunkStep c.client buf datalen with
  | .message client chunkId data dataLen =>
    let message := messageOf client chunkId data dataLen buf
    if c.flvFp ∧ (message.messageType = 8 ∨ message.messageType = 9) then
      let (ret, c', _) := rtmpProcessChunk c buf datalen
      [⟨message, ret, c.file, c'.file⟩]
    else []
  | _ => []

/-- A run of regular calls from idle chunk streams on, and its calls that write tags. -/
inductive Run : FlvClient → List TagCall → Prop where
  | start {c : FlvClient} (hidle : ∀ i, (c.client.rtmpChunk i).lastMessageSize = 0) : Run c []
  | call {c : FlvClient} {calls : List TagCall} (h : Run c calls) (buf : Mem) (datalen : Int)
      (hregular : Regular c.client buf datalen) :
      Run (rtmpProcessChunk c buf datalen).2.1 (calls ++ tagCalls c buf datalen)

/-- A regular call keeps the invariant. -/
theorem sound_rtmpProcessChunk {c : FlvClient} (hsound : Sound c.client) (hsaved : Saved c.client)
    {buf : Mem} {datalen : Int} (hregular : Regular c.client buf datalen) :
    Sound (rtmpProcessChunk c buf datalen).2.1.client ∧
      Saved (rtmpProcessChunk c buf datalen).2.1.client := by
  have hstep := handedOver_chunkStep hsound hsaved hregular
  unfold rtmpProcessChunk
  cases hc : chunkStep c.client buf datalen with
  | ret r client =>
    rw [hc] at hstep
    exact ⟨hstep.sound, hstep.saved⟩
  | fault e client =>
    rw [hc] at hstep
    exact ⟨hstep.sound, hstep.saved⟩
  | message client chunkId data dataLen =>
    rw [hc] at hstep
    obtain ⟨hlast, -, -⟩ := hstep.message _ _ _ _ rfl
    obtain ⟨hother, b, hsame⟩ := deliver_chunks { c with client := client } chunkId data dataLen buf
    constructor
    · intro i
      by_cases hi : i = chunkId
      · subst hi
        dsimp only
        rw [hsame]
        exact chunkSound_of_last hlast
      · dsimp only
        rw [hother i hi]
        exact hstep.sound i
    · intro i hopen
      by_cases hi : i = chunkId
      · subst hi
        dsimp only at hopen
        rw [hsame] at hopen
        exact absurd hlast hopen
      · dsimp only at hopen ⊢
        rw [hother i hi] at hopen ⊢
        exact hstep.saved i hopen

/-- An audio or a video message is written as one tag, once the file is open. -/
theorem deliver_data {c : FlvClient} (hopen : c.flvFp) {chunkId : Nat}
    (htype : (c.client.rtmpChunk chunkId).messageType = 8 ∨
      (c.client.rtmpChunk chunkId).messageType = 9) (data : MessageData) (n : Nat) (buf : Mem) :
    (deliver c chunkId data n buf).1 = .ok 0 ∧
      (deliver c chunkId data n buf).2.1.file =
        c.file ++ [dataTag (c.client.rtmpChunk chunkId) ((data.mem buf).slice 0 n)] := by
  have hmessage : rtmpProcessMessage (c.recorded chunkId data n buf)
      (c.client.rtmpChunk chunkId) n =
        rtmpProcessDataToFlv (c.recorded chunkId data n buf) (c.client.rtmpChunk chunkId) n := by
    unfold rtmpProcessMessage
    rcases htype with htype | htype
    · simp only [htype]
    · simp only [htype]
  have hclosed : ¬(!(c.recorded chunkId data n buf).flvFp) = true := by
    change ¬(!c.flvFp) = true
    rw [hopen]
    exact Bool.false_ne_true
  have hrun : handlerRun c chunkId data n buf =
      (.ok (0, (c.recorded chunkId data n buf).fileWrite
        (dataTag (c.client.rtmpChunk chunkId) ((data.mem buf).slice 0 n))), data.mem buf) := by
    unfold handlerRun
    rw [hmessage, rtmpProcessDataToFlv, if_neg hclosed, if_neg (by omega), Int.toNat_natCast,
      Access.bind_eq, Access.run_bind_ok (Access.run_getList 0 n _)]
    rfl
  unfold deliver
  rw [hrun]
  cases data with
  | window off => exact ⟨rfl, rfl⟩
  | messageBuf b => exact ⟨rfl, rfl⟩

/-- A call that writes a tag appends one that carries the message, if and only if its time stamp
has 24 bits. -/
theorem tagCall_carries_iff {c : FlvClient} (hsound : Sound c.client) (hsaved : Saved c.client)
    {buf : Mem} {datalen : Int} (hregular : Regular c.client buf datalen) {call : TagCall}
    (hcall : call ∈ tagCalls c buf datalen) :
    call.Carries ↔ call.message.timeStamp < 16777216 := by
  have hstep := handedOver_chunkStep hsound hsaved hregular
  unfold tagCalls rtmpProcessChunk at hcall
  cases hc : chunkStep c.client buf datalen with
  | ret r client =>
    rw [hc] at hcall
    cases hcall
  | fault e client =>
    rw [hc] at hcall
    cases hcall
  | message client chunkId data dataLen =>
    rw [hc] at hcall hstep
    obtain ⟨-, hheader, rfl⟩ := hstep.message _ _ _ _ rfl
    dsimp only at hcall
    split at hcall
    · next hopen =>
      obtain ⟨hret, hfile⟩ := deliver_data (c := { c with client := client }) hopen.1 hopen.2 data
        (client.rtmpChunk chunkId).messageSize buf
      cases List.mem_singleton.1 hcall
      have htag := flvTag_dataTag hheader (Mem.length_slice (data.mem buf) 0 _)
      constructor
      · rintro ⟨-, tag, hafter, hdecoded⟩
        cases List.singleton_inj.1 (List.append_cancel_left (hafter.symm.trans hfile))
        have htime := congrArg (Option.map fun r ↦ r.1.timeStamp) (htag.symm.trans hdecoded)
        have htime : (client.rtmpChunk chunkId).timeStamp % 16777216 =
            (client.rtmpChunk chunkId).timeStamp := Option.some.inj htime
        have hlt : (client.rtmpChunk chunkId).timeStamp % 16777216 < 16777216 :=
          Nat.mod_lt _ (by decide)
        rw [htime] at hlt
        exact hlt
      · intro htime
        have htime : (client.rtmpChunk chunkId).timeStamp < 16777216 := htime
        rw [Nat.mod_eq_of_lt htime] at htag
        exact ⟨hret, _, hfile, htag⟩
    · cases hcall

/-- In a run every tag carries its message if and only if every message has a time stamp of 24
bits. -/
theorem rtmpProcessDataToFlv_carries {c : FlvClient} {calls : List TagCall} (h : Run c calls) :
    (∀ call ∈ calls, call.Carries) ↔ ∀ call ∈ calls, call.message.timeStamp < 16777216 := by
  have hrun : Sound c.client ∧ Saved c.client ∧
      ∀ call ∈ calls, call.Carries ↔ call.message.timeStamp < 16777216 := by
    induction h with
    | start hidle => exact ⟨sound_of_idle hidle, fun i hi ↦ absurd (hidle i) hi, by simp⟩
    | call h buf datalen hregular ih =>
      obtain ⟨hsound, hsaved, hcalls⟩ := ih
      obtain ⟨hsound', hsaved'⟩ := sound_rtmpProcessChunk hsound hsaved hregular
      refine ⟨hsound', hsaved', fun call hmem ↦ ?_⟩
      rcases List.mem_append.1 hmem with hmem | hmem
      · exact hcalls call hmem
      · exact tagCall_carries_iff hsound hsaved hregular hmem
  exact forall₂_congr hrun.2.2

instance regularDecidable (c : RtmpClient) (buf : Mem) (datalen : Int) :
    Decidable (Regular c buf datalen) :=
  inferInstanceAs (Decidable (datalen ≠ 0 →
    if (c.rtmpChunk (chunkIdOf buf)).lastMessageSize = 0 then chunkFmt buf = 0 ∨ chunkFmt buf = 1
    else chunkFmt buf = 3))

/-- A new client with the chunk size that `rtmp_start_play` stores. -/
def sampleClient : FlvClient :=
  .new ⟨{ blankClient with rtmpChunkMaxSize := 128 }, false, fun _ ↦ true, []⟩

/-- A metadata message without properties. -/
def sampleMetadata : List UInt8 :=
  [0x04, 0, 0, 0, 0, 0, 13, 0x12, 0, 0, 0, 0, 0x02, 0, 10] ++ ascii "onMetaData"

/-- An audio message with a time stamp of four bytes. -/
def sampleAudio (t0 t1 t2 t3 : UInt8) : List UInt8 :=
  [0x04, 0xff, 0xff, 0xff, 0, 0, 2, 8, 0, 0, 0, 0, t0, t1, t2, t3, 0xaf, 1]

/-- The client that the metadata leaves. -/
def sampleOpened : FlvClient := (rtmpProcessChunk sampleClient (Mem.ofList sampleMetadata) 25).2.1

/-- The client behind whole chunks, one call for each, and the calls that write tags. -/
def chunkCalls (c : FlvClient) : List (List UInt8) → FlvClient × List TagCall
  | [] => (c, [])
  | chunk :: rest =>
    let (c', calls) := chunkCalls (rtmpProcessChunk c (Mem.ofList chunk) chunk.length).2.1 rest
    (c', tagCalls c (Mem.ofList chunk) chunk.length ++ calls)

/-- Each of these calls is regular. -/
def AllRegular (c : FlvClient) : List (List UInt8) → Prop
  | [] => True
  | chunk :: rest => Regular c.client (Mem.ofList chunk) chunk.length ∧
    AllRegular (rtmpProcessChunk c (Mem.ofList chunk) chunk.length).2.1 rest

instance allRegularDecidable (c : FlvClient) :
    (chunks : List (List UInt8)) → Decidable (AllRegular c chunks)
  | [] => inferInstanceAs (Decidable True)
  | chunk :: rest =>
    have := allRegularDecidable (rtmpProcessChunk c (Mem.ofList chunk) chunk.length).2.1 rest
    inferInstanceAs (Decidable (Regular c.client (Mem.ofList chunk) chunk.length ∧
      AllRegular (rtmpProcessChunk c (Mem.ofList chunk) chunk.length).2.1 rest))

theorem Run.chunkCalls {c : FlvClient} {calls : List TagCall} (h : Run c calls)
    {chunks : List (List UInt8)} (hregular : AllRegular c chunks) :
    Run (chunkCalls c chunks).1 (calls ++ (chunkCalls c chunks).2) := by
  induction chunks generalizing c calls with
  | nil =>
    rw [Flv.chunkCalls, List.append_nil]
    exact h
  | cons chunk rest ih =>
    have hrest := ih (h.call (Mem.ofList chunk) chunk.length hregular.1) hregular.2
    rw [List.append_assoc] at hrest
    exact hrest

/-- Metadata, a change of the chunk size to four, and a video message in two chunks with an audio
message between them, which has the largest time stamp of a tag. -/
def sampleChunks : List (List UInt8) :=
  [sampleMetadata, [2, 0, 0, 0, 0, 0, 4, 1, 0, 0, 0, 0, 0, 0, 0, 4],
    [6, 0, 0, 40, 0, 0, 6, 9, 0, 0, 0, 0, 0x17, 1, 2, 3], sampleAudio 0 0xff 0xff 0xff,
    [0xc6, 4, 5]]

/-- A tag is written for each of the two messages, and carries it. -/
theorem rtmpProcessDataToFlv_carries_interleaved :
    let calls := (chunkCalls sampleClient sampleChunks).2
    calls.map TagCall.message =
        [⟨4, 8, 0, 0xffffff, [0xaf, 1]⟩, ⟨6, 9, 0, 40, [0x17, 1, 2, 3, 4, 5]⟩] ∧
      ∀ call ∈ calls, call.Carries := by
  intro calls
  have hstart : Run sampleClient [] := .start fun _ ↦ rfl
  have hregular : AllRegular sampleClient sampleChunks := by decide +kernel
  have hrun := hstart.chunkCalls hregular
  constructor
  · decide +kernel
  · exact (rtmpProcessDataToFlv_carries hrun).mpr (by decide +kernel)

/-- The next time stamp is written as zero. -/
theorem rtmpProcessDataToFlv_drops :
    Regular sampleOpened.client (Mem.ofList (sampleAudio 1 0 0 0)) 18 ∧
    (tagCalls sampleOpened (Mem.ofList (sampleAudio 1 0 0 0)) 18).map
      (fun call ↦ (call.message.timeStamp,
        (call.after.drop call.before.length).map fun tag ↦
          (Wire.flvTag tag).map fun r ↦ r.1.timeStamp)) = [(16777216, [some 0])] := by
  decide +kernel

end Flv
end RtmpRecv.Client
