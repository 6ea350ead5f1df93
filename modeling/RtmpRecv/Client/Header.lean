import RtmpRecv.Client.Parse

/-!
# Reading a chunk header

Library `Client`. What the `switch` of `rtmp_process_chunk` makes of the header bytes that the
chunk stream rules prescribe, for each of the four formats.
-/

namespace RtmpRecv.Client
open RtmpRecv.Base

/-- The parsed header left the parser as it was, apart from `rtmp_fmt0_buf` and the latest
timestamps and type. -/
structure HeaderKept (c c' : RtmpClient) : Prop where
  chunk : ∀ i, ∃ b, c'.rtmpChunk i = { c.rtmpChunk i with rtmpFmt0Buf := b }
  chunkSize : c'.rtmpChunkMaxSize = c.rtmpChunkMaxSize
  parsePos : c'.mIParsePos = c.mIParsePos
  messages : c'.rtmpMessages = c.rtmpMessages
  status : c'.rtmpStatus = c.rtmpStatus

theorem HeaderKept.trans {a b c : RtmpClient} (h : HeaderKept a b) (h' : HeaderKept b c) :
    HeaderKept a c := by
  refine ⟨fun i ↦ ?_, h'.chunkSize.trans h.chunkSize, h'.parsePos.trans h.parsePos,
    h'.messages.trans h.messages, h'.status.trans h.status⟩
  obtain ⟨x, hx⟩ := h.chunk i
  obtain ⟨y, hy⟩ := h'.chunk i
  exact ⟨y, by rw [hy, hx]⟩

theorem HeaderKept.refl (c : RtmpClient) : HeaderKept c c := ⟨fun _ ↦ ⟨_, rfl⟩, rfl, rfl, rfl, rfl⟩

/-- The timestamp of the latest message of `type` is `time`, and that of the others stays. -/
structure LatestSet (c c' : RtmpClient) (type time : Nat) : Prop where
  audio : c'.rtmpLastAudioTimestamp = if type = 8 then time else c.rtmpLastAudioTimestamp
  video : c'.rtmpLastVideoTimestamp = if type = 9 then time else c.rtmpLastVideoTimestamp

/-- The value that a relative timestamp of a message of `type` is added to. -/
def RtmpClient.timeBase (c : RtmpClient) (type : Nat) : Nat :=
  if type = 8 then c.rtmpLastAudioTimestamp
  else if type = 9 then c.rtmpLastVideoTimestamp else 0

/-- The timestamp the client gives to a relative one. -/
def RtmpClient.timeAfter (c : RtmpClient) (type delta : Nat) : Nat :=
  (delta + c.timeBase type) % 4294967296

private theorem headerKept_saveHeader (c : RtmpClient) (chunkId : Nat) (bytes : List UInt8) :
    HeaderKept c (saveHeader c chunkId bytes) := by
  refine ⟨fun i ↦ ?_, rfl, rfl, rfl, rfl⟩
  by_cases h : i = chunkId
  · subst h
    exact ⟨_, RtmpClient.setChunk_same _ _ _⟩
  · exact ⟨_, RtmpClient.setChunk_other _ _ _ _ h⟩

theorem addDelta_snd (c : RtmpClient) (type delta : Nat) (h : delta < 4294967296) :
    (addDelta c type delta).2 = c.timeAfter type delta := by
  unfold addDelta RtmpClient.timeAfter RtmpClient.timeBase
  by_cases h8 : type = 8
  · simp [h8]
  · by_cases h9 : type = 9
    · simp [h9]
    · simp only [h8, h9, if_false]
      omega

theorem latestSet_addDelta (c : RtmpClient) (type delta : Nat) :
    LatestSet c (addDelta c type delta).1 type (c.timeAfter type delta) := by
  unfold addDelta RtmpClient.timeAfter RtmpClient.timeBase
  by_cases h8 : type = 8
  · subst h8
    exact ⟨rfl, rfl⟩
  · by_cases h9 : type = 9
    · subst h9
      exact ⟨rfl, rfl⟩
    · simp only [h8, h9, if_false]
      exact ⟨by rw [if_neg h8], by rw [if_neg h9]⟩

theorem latestSet_setLast (c : RtmpClient) (type time : Nat) :
    LatestSet c (setLast c type time) type time := by
  unfold setLast
  by_cases h8 : type = 8
  · subst h8
    exact ⟨rfl, rfl⟩
  · by_cases h9 : type = 9
    · subst h9
      exact ⟨rfl, rfl⟩
    · simp only [h8, h9, if_false]
      exact ⟨by rw [if_neg h8], by rw [if_neg h9]⟩

theorem rtmpChunk_setLast (c : RtmpClient) (type time : Nat) :
    (setLast c type time).rtmpChunk = c.rtmpChunk := by
  unfold setLast
  split
  · rfl
  · split <;> rfl

theorem rtmpChunk_addDelta (c : RtmpClient) (type delta : Nat) :
    (addDelta c type delta).1.rtmpChunk = c.rtmpChunk := by
  unfold addDelta
  split
  · rfl
  · split <;> rfl

private theorem headerKept_setLast (c : RtmpClient) (type time : Nat) :
    HeaderKept c (setLast c type time) := by
  unfold setLast
  split
  · exact ⟨fun _ ↦ ⟨_, rfl⟩, rfl, rfl, rfl, rfl⟩
  · split
    · exact ⟨fun _ ↦ ⟨_, rfl⟩, rfl, rfl, rfl, rfl⟩
    · exact HeaderKept.refl c

private theorem headerKept_addDelta (c : RtmpClient) (type delta : Nat) :
    HeaderKept c (addDelta c type delta).1 := by
  unfold addDelta
  split
  · exact ⟨fun _ ↦ ⟨_, rfl⟩, rfl, rfl, rfl, rfl⟩
  · split
    · exact ⟨fun _ ↦ ⟨_, rfl⟩, rfl, rfl, rfl, rfl⟩
    · exact HeaderKept.refl c

/-- The number of bytes of an extended timestamp. -/
def extendedLen (time : Nat) : Nat := (Wire.extendedBytes (Wire.extendedOf time)).length

theorem extendedLen_eq (time : Nat) : extendedLen time = if time < 0xffffff then 0 else 4 := by
  unfold extendedLen Wire.extendedOf
  split <;> rfl

private theorem be24_of_slice (m : Mem) (off n : Nat) (h : m.slice off 3 = be24Bytes n)
    (hn : n < 16777216) : be24 (m off) (m (off + 1)) (m (off + 2)) = n := by
  have hb := Mem.apply_of_slice m off (be24Bytes n) h
  have h0 := hb 0 (by simp)
  have h1 := hb 1 (by simp)
  have h2 := hb 2 (by simp)
  rw [Nat.add_zero] at h0
  rw [h0, h1, h2]
  exact be24_be24Bytes n hn

private theorem be32_of_slice (m : Mem) (off n : Nat) (h : m.slice off 4 = be32Bytes n)
    (hn : n < 4294967296) :
    be32 (m off) (m (off + 1)) (m (off + 2)) (m (off + 3)) = n := by
  have hb := Mem.apply_of_slice m off (be32Bytes n) h
  have h0 := hb 0 (by simp)
  have h1 := hb 1 (by simp)
  have h2 := hb 2 (by simp)
  have h3 := hb 3 (by simp)
  rw [Nat.add_zero] at h0
  rw [h0, h1, h2, h3]
  exact be32_be32Bytes n hn

/-- The time field and the extended timestamp give back the time that was sent. -/
theorem timeField_wire (m : Mem) (datalen : Int) (headerLen time : Nat)
    (hf : m.slice 1 3 = Wire.timeBytes time)
    (he : m.slice (headerLen + 1) (extendedLen time) =
      Wire.extendedBytes (Wire.extendedOf time))
    (ht : time < 4294967296) (hd : ((headerLen + 1 + extendedLen time : Nat) : Int) ≤ datalen) :
    timeField m datalen headerLen (headerLen + 1) = some (time, decide (0xffffff ≤ time)) := by
  unfold timeField
  rw [extendedLen_eq] at he hd
  unfold Wire.timeBytes at hf
  unfold Wire.extendedOf at he
  by_cases hs : time < 0xffffff
  · rw [if_pos hs] at hf
    have hb := be24_of_slice m 1 time hf (by omega)
    simp only [hb]
    rw [if_neg (by omega), decide_eq_false (by omega)]
  · rw [if_neg hs] at hf he hd
    rw [if_neg hs] at he
    have hb := be24_of_slice m 1 0xffffff hf (by omega)
    have hb' := be32_of_slice m (headerLen + 1) time he ht
    simp only [hb]
    rw [if_pos trivial, if_neg (by omega), hb', decide_eq_true (by omega)]

private theorem headerLen_extended (time hl : Nat) :
    (if decide (0xffffff ≤ time) = true then hl + 4 else hl) = hl + extendedLen time := by
  rw [extendedLen_eq]
  by_cases hs : time < 0xffffff
  · rw [if_pos hs, decide_eq_false (by omega)]
    rfl
  · rw [if_neg hs, decide_eq_true (by omega)]
    rfl

/-- The time field, the length and the type that two formats share. -/
private theorem fields_of_slice (m : Mem) (time : Nat) (message : Wire.Message)
    (h : m.slice 1 7 =
      Wire.timeBytes time ++ be24Bytes message.body.length ++ [message.type])
    (hlen : message.body.length < 16777216) :
    m.slice 1 3 = Wire.timeBytes time ∧ be24 (m 4) (m 5) (m 6) = message.body.length ∧
      m 7 = message.type := by
  obtain ⟨h1, ht⟩ := (Mem.slice_append_iff m 1
    (Wire.timeBytes time ++ be24Bytes message.body.length) [message.type]).1 h
  obtain ⟨hf, hs⟩ := (Mem.slice_append_iff m 1 _ _).1 h1
  refine ⟨hf, be24_of_slice m 4 _ hs hlen, ?_⟩
  exact Mem.apply_of_slice m 7 [message.type] ht 0 (by simp)

/-- A `fmt` 0 header is read back. -/
theorem headerFmt0_wire (c : RtmpClient) (chunkId : Nat) (m : Mem) (datalen : Int)
    (message : Wire.Message) (time streamId : Nat) (hlen : message.body.length < 16777216)
    (ht : time < 4294967296)
    (hf : m.slice 1 11 = (Wire.Fmt.fmt0 time streamId).fields message)
    (he : m.slice 12 (extendedLen time) = Wire.extendedBytes (Wire.extendedOf time))
    (hd : ((12 + extendedLen time : Nat) : Int) ≤ datalen) :
    ∃ c' id, headerFmt0 c chunkId m datalen =
        .parsed c' { RtmpChunk.zero with
          timeStamp := time, messageSize := message.body.length
          messageType := message.type.toNat, messageStreamId := id } (11 + extendedLen time) ∧
      HeaderKept c c' ∧ LatestSet c c' message.type.toNat time := by
  obtain ⟨h7, -⟩ := (Mem.slice_append_iff m 1 (Wire.timeBytes time ++
    be24Bytes message.body.length ++ [message.type]) (be32Bytes streamId).reverse).1 hf
  obtain ⟨hfield, hsize, htype⟩ := fields_of_slice m time message h7 hlen
  have hk := headerKept_saveHeader c chunkId (m.slice 1 11)
  have hs := headerKept_setLast (saveHeader c chunkId (m.slice 1 11)) message.type.toNat time
  have hl := latestSet_setLast (saveHeader c chunkId (m.slice 1 11)) message.type.toNat time
  unfold headerFmt0
  simp only [timeField_wire m datalen 11 time hfield he ht hd, hsize, htype, headerLen_extended]
  rw [if_neg (by omega)]
  refine ⟨_, _, rfl, (hk.trans hs).trans ?_, ⟨hl.audio, hl.video⟩⟩
  exact ⟨fun _ ↦ ⟨_, rfl⟩, rfl, rfl, rfl, rfl⟩

/-- A `fmt` 1 header is read back; the delta is added to what the client has for the type. -/
theorem headerFmt1_wire (c : RtmpClient) (chunkId : Nat) (m : Mem) (datalen : Int)
    (message : Wire.Message) (delta : Nat) (hlen : message.body.length < 16777216)
    (ht : delta < 4294967296)
    (hf : m.slice 1 7 = (Wire.Fmt.fmt1 delta).fields message)
    (he : m.slice 8 (extendedLen delta) = Wire.extendedBytes (Wire.extendedOf delta))
    (hd : ((8 + extendedLen delta : Nat) : Int) ≤ datalen) :
    ∃ c', headerFmt1 c chunkId m datalen =
        .parsed c' { RtmpChunk.zero with
          timeStamp := c.timeAfter message.type.toNat delta
          messageSize := message.body.length
          messageType := message.type.toNat } (7 + extendedLen delta) ∧
      HeaderKept c c' ∧
      LatestSet c c' message.type.toNat (c.timeAfter message.type.toNat delta) := by
  obtain ⟨hfield, hsize, htype⟩ := fields_of_slice m delta message hf hlen
  have hk := headerKept_saveHeader c chunkId (m.slice 1 7)
  have hs := headerKept_addDelta (saveHeader c chunkId (m.slice 1 7)) message.type.toNat delta
  have hl := latestSet_addDelta (saveHeader c chunkId (m.slice 1 7)) message.type.toNat delta
  have hv := addDelta_snd (saveHeader c chunkId (m.slice 1 7)) message.type.toNat delta ht
  unfold headerFmt1
  simp only [timeField_wire m datalen 7 delta hfield he ht hd, hsize, htype, headerLen_extended,
    hv]
  rw [if_neg (by omega)]
  refine ⟨_, rfl, (hk.trans hs).trans ?_, ⟨hl.audio, hl.video⟩⟩
  exact ⟨fun _ ↦ ⟨_, rfl⟩, rfl, rfl, rfl, rfl⟩

/-- A `fmt` 2 header is read back, without length and type. -/
theorem headerFmt2_wire (c : RtmpClient) (m : Mem) (datalen : Int) (message : Wire.Message)
    (delta : Nat) (ht : delta < 4294967296)
    (hf : m.slice 1 3 = (Wire.Fmt.fmt2 delta).fields message)
    (he : m.slice 4 (extendedLen delta) = Wire.extendedBytes (Wire.extendedOf delta))
    (hd : ((4 + extendedLen delta : Nat) : Int) ≤ datalen) :
    ∃ c' time, headerFmt2 c m datalen =
        .parsed c' { RtmpChunk.zero with timeStamp := time } (3 + extendedLen delta) ∧
      HeaderKept c c' := by
  have hs := headerKept_addDelta c c.rtmpLastMessageType delta
  unfold headerFmt2
  simp only [timeField_wire m datalen 3 delta hf he ht hd, headerLen_extended]
  rw [if_neg (by omega)]
  exact ⟨_, _, rfl, hs⟩

/-! ### Any header -/

/-- How the `switch` may end on a window of `datalen` bytes: it wants more of a header that is
at most sixteen bytes long, it rejects the format, or it has read the header from bytes that
are there. The open messages are left alone. -/
def HeaderStep.Fine (c : RtmpClient) (datalen : Int) : HeaderStep → Prop
  | .ret r c' => HeaderKept c c' ∧ (r = 1 ∧ datalen < 16 ∨ r = -1)
  | .parsed c' chunkInfo hl =>
    HeaderKept c c' ∧ chunkInfo.messageSize < 16777216 ∧ hl ≤ 15 ∧ ((hl + 1 : Nat) : Int) ≤ datalen

private theorem timeField_none {buf : Mem} {datalen : Int} {headerLen ext : Nat}
    (h : timeField buf datalen headerLen ext = none) : datalen < headerLen + 5 := by
  unfold timeField at h
  dsimp only at h
  split at h
  · split at h
    · assumption
    · cases h
  · cases h

private theorem timeField_some {buf : Mem} {datalen : Int} {headerLen ext time : Nat} {b : Bool}
    (h : timeField buf datalen headerLen ext = some (time, b)) (hb : b = true) :
    headerLen + 5 ≤ datalen := by
  unfold timeField at h
  dsimp only at h
  split at h
  · split at h
    · cases h
    · omega
  · cases h
    cases hb

private theorem fine_fmt0 (c : RtmpClient) (chunkId : Nat) (buf : Mem) (datalen : Int) :
    (headerFmt0 c chunkId buf datalen).Fine c datalen := by
  have hk := headerKept_saveHeader c chunkId (buf.slice 1 11)
  have hs := headerKept_setLast (saveHeader c chunkId (buf.slice 1 11)) (buf 7).toNat
  unfold headerFmt0
  split
  · exact ⟨HeaderKept.refl c, Or.inl ⟨rfl, by omega⟩⟩
  · dsimp only
    split
    · next h => exact ⟨hk, Or.inl ⟨rfl, by have := timeField_none h; omega⟩⟩
    · next time ext h =>
      have hext := timeField_some h
      refine ⟨(hk.trans (hs _)).trans ⟨fun _ ↦ ⟨_, rfl⟩, rfl, rfl, rfl, rfl⟩, be24_lt _ _ _, ?_, ?_⟩
      · split <;> omega
      · split
        · next he => have := hext he; omega
        · omega

private theorem fine_fmt1 (c : RtmpClient) (chunkId : Nat) (buf : Mem) (datalen : Int) :
    (headerFmt1 c chunkId buf datalen).Fine c datalen := by
  have hk := headerKept_saveHeader c chunkId (buf.slice 1 7)
  have hs := headerKept_addDelta (saveHeader c chunkId (buf.slice 1 7)) (buf 7).toNat
  unfold headerFmt1
  split
  · exact ⟨HeaderKept.refl c, Or.inl ⟨rfl, by omega⟩⟩
  · dsimp only
    split
    · next h => exact ⟨hk, Or.inl ⟨rfl, by have := timeField_none h; omega⟩⟩
    · next time ext h =>
      have hext := timeField_some h
      refine ⟨(hk.trans (hs _)).trans ⟨fun _ ↦ ⟨_, rfl⟩, rfl, rfl, rfl, rfl⟩, be24_lt _ _ _, ?_, ?_⟩
      · split <;> omega
      · split
        · next he => have := hext he; omega
        · omega

private theorem fine_fmt2 (c : RtmpClient) (buf : Mem) (datalen : Int) :
    (headerFmt2 c buf datalen).Fine c datalen := by
  unfold headerFmt2
  split
  · exact ⟨HeaderKept.refl c, Or.inl ⟨rfl, by omega⟩⟩
  · split
    · next h => exact ⟨HeaderKept.refl c, Or.inl ⟨rfl, by have := timeField_none h; omega⟩⟩
    · next time ext h =>
      have hext := timeField_some h
      refine ⟨headerKept_addDelta c c.rtmpLastMessageType _, Nat.zero_lt_succ _, ?_, ?_⟩
      · split <;> omega
      · split
        · next he => have := hext he; omega
        · omega

/-- Whatever the header bytes are, the `switch` ends in one of these ways. -/
theorem fine_chunkHeader (c : RtmpClient) (fmt chunkId : Nat) (buf : Mem) (datalen : Int) :
    (chunkHeader c fmt chunkId buf datalen).Fine c datalen := by
  unfold chunkHeader
  split
  · exact fine_fmt0 c chunkId buf datalen
  · exact fine_fmt1 c chunkId buf datalen
  · exact fine_fmt2 c buf datalen
  · unfold headerFmt3
    split
    · exact ⟨HeaderKept.refl c, Or.inl ⟨rfl, by omega⟩⟩
    · exact ⟨HeaderKept.refl c, Nat.zero_lt_succ _, Nat.zero_le _, by omega⟩
  · exact ⟨HeaderKept.refl c, Or.inr rfl⟩

end RtmpRecv.Client
