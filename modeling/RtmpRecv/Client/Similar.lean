import RtmpRecv.Client.Session
import RtmpRecv.Client.Inside
import RtmpRecv.Tots.Similar

/-!
# Clients side by side

Library `Client`. Two clients that differ in fields which nothing has set yet. A call of
`rtmp_process_chunk` does the same on both as long as it reads none of these fields, and afterwards
the fields that it has set are the same too.
-/

namespace RtmpRecv.Client
open RtmpRecv.Base RtmpRecv.Amf0 RtmpRecv.Tots

/-- A field that neither the constructor nor `rtmp_start_play` sets and that a call of
`rtmp_process_chunk` may read. The head data of audio and of video stand for the array and its
length. -/
inductive UnsetField where
  | rtmpLastAudioTimestamp
  | rtmpLastVideoTimestamp
  | rtmpLastMessageType
  | acknowledgementSize
  | audioHeadData
  | videoHeadData
  deriving DecidableEq

/-- The packets are the same apart from the clock value in C1 and C2. -/
inductive SamePacket : List UInt8 → List UInt8 → Prop where
  | same (bytes : List UInt8) : SamePacket bytes bytes
  | c0c1 (timeNow timeNow' : Nat) : SamePacket (c0c1Packet timeNow) (c0c1Packet timeNow')
  | c2 (timeNow timeNow' : Nat) : SamePacket (c2Packet timeNow) (c2Packet timeNow')

/-- What the clients have done is the same: the messages that the handlers were given, the packets
that were sent, and the transport packets. -/
structure SameOutside (c c' : RtmpClient) : Prop where
  messages : c'.rtmpMessages = c.rtmpMessages
  sent : List.Forall₂ SamePacket c.sent c'.sent
  output : c'.rtmpSavetots.output = c.rtmpSavetots.output

/-- Head data that is the same up to its length, and in the five bytes that the muxer looks at. -/
structure SameHead (head head' : Mem) (len len' : Nat) : Prop where
  length : len' = len
  bytes : ∀ i, i < max len 5 → head i = head' i

/-- The clients are the same apart from the fields in `S`, the clock, and what is never read: old
bytes of the muxer, the stream id before a reply sets it, and the bandwidth. -/
structure Similar (S : UnsetField → Prop) (c c' : RtmpClient) : Prop where
  messages : c'.rtmpMessages = c.rtmpMessages
  sent : List.Forall₂ SamePacket c.sent c'.sent
  tots : ∃ pesBuf packData, c'.rtmpSavetots = c.rtmpSavetots.withPes pesBuf packData
  sendResult : c'.host.sendResult = c.host.sendResult
  millisecond : c'.host.millisecond = c.host.millisecond
  heap : c'.host.heap = c.host.heap
  status : c'.rtmpStatus = c.rtmpStatus
  url : c'.rtmpUrl = c.rtmpUrl
  app : c'.rtmpApp = c.rtmpApp
  stream : c'.rtmpStream = c.rtmpStream
  chunkSize : c'.rtmpChunkMaxSize = c.rtmpChunkMaxSize
  parsePos : c'.mIParsePos = c.mIParsePos
  chunk : c'.rtmpChunk = c.rtmpChunk
  audioTime : ¬S .rtmpLastAudioTimestamp → c'.rtmpLastAudioTimestamp = c.rtmpLastAudioTimestamp
  videoTime : ¬S .rtmpLastVideoTimestamp → c'.rtmpLastVideoTimestamp = c.rtmpLastVideoTimestamp
  messageType : ¬S .rtmpLastMessageType → c'.rtmpLastMessageType = c.rtmpLastMessageType
  windowSize : ¬S .acknowledgementSize → c'.acknowledgementSize = c.acknowledgementSize
  audioHead : ¬S .audioHeadData →
    SameHead c.audioHeadData c'.audioHeadData c.audioHeadDataLen c'.audioHeadDataLen
  videoHead : ¬S .videoHeadData →
    SameHead c.videoHeadData c'.videoHeadData c.videoHeadDataLen c'.videoHeadDataLen

section

variable {S T : UnsetField → Prop} {c c' : RtmpClient}

theorem Similar.outside (h : Similar S c c') : SameOutside c c' := by
  obtain ⟨pesBuf, packData, htots⟩ := h.tots
  exact ⟨h.messages, h.sent, by rw [htots]; rfl⟩

/-- Fewer fields need to be the same. -/
theorem Similar.mono (h : Similar S c c') (hST : ∀ f, S f → T f) : Similar T c c' :=
  { h with
    audioTime := fun hT ↦ h.audioTime fun hS ↦ hT (hST _ hS)
    videoTime := fun hT ↦ h.videoTime fun hS ↦ hT (hST _ hS)
    messageType := fun hT ↦ h.messageType fun hS ↦ hT (hST _ hS)
    windowSize := fun hT ↦ h.windowSize fun hS ↦ hT (hST _ hS)
    audioHead := fun hT ↦ h.audioHead fun hS ↦ hT (hST _ hS)
    videoHead := fun hT ↦ h.videoHead fun hS ↦ hT (hST _ hS) }

/-- Fields that have been set to the same are no longer unset. -/
theorem Similar.sets {sets : UnsetField → Prop} (h : Similar S c c')
    (haudio : sets .rtmpLastAudioTimestamp → c'.rtmpLastAudioTimestamp = c.rtmpLastAudioTimestamp)
    (hvideo : sets .rtmpLastVideoTimestamp → c'.rtmpLastVideoTimestamp = c.rtmpLastVideoTimestamp)
    (htype : sets .rtmpLastMessageType → c'.rtmpLastMessageType = c.rtmpLastMessageType)
    (hsize : sets .acknowledgementSize → c'.acknowledgementSize = c.acknowledgementSize)
    (haudioHead : sets .audioHeadData →
      SameHead c.audioHeadData c'.audioHeadData c.audioHeadDataLen c'.audioHeadDataLen)
    (hvideoHead : sets .videoHeadData →
      SameHead c.videoHeadData c'.videoHeadData c.videoHeadDataLen c'.videoHeadDataLen) :
    Similar (fun f ↦ S f ∧ ¬sets f) c c' := by
  have hsplit {P : Prop} {f : UnsetField} (hset : sets f → P) (hkept : ¬S f → P)
      (hf : ¬(S f ∧ ¬sets f)) : P := by
    by_cases hs : sets f
    · exact hset hs
    · exact hkept fun hS ↦ hf ⟨hS, hs⟩
  exact { h with
    audioTime := hsplit haudio h.audioTime
    videoTime := hsplit hvideo h.videoTime
    messageType := hsplit htype h.messageType
    windowSize := hsplit hsize h.windowSize
    audioHead := hsplit haudioHead h.audioHead
    videoHead := hsplit hvideoHead h.videoHead }

end

/-! ### What a call reads and sets -/

/-- The header of a chunk has come completely. -/
def ChunkCall.HeaderCame (call : ChunkCall) : Prop :=
  (chunkSpan call.client call.bufdata call.datalen).isSome

/-- The whole chunk has come, and it starts a message. -/
def ChunkCall.StartsMessage (call : ChunkCall) : Prop :=
  (call.client.rtmpChunk (chunkIdOf call.bufdata)).lastMessageSize = 0 ∧
    ∃ n ∈ chunkSpan call.client call.bufdata call.datalen, (n : Int) ≤ call.datalen

/-- A header with this format and type adds its timestamp to the last one of the messages of type
`last`. -/
def AddsTo (c : RtmpClient) (fmt type last : Nat) : Prop :=
  fmt = 1 ∧ type = last ∨ fmt = 2 ∧ c.rtmpLastMessageType = last

/-- The header of the call adds its timestamp to the last one of the messages of this type. -/
def ChunkCall.AddsTo (call : ChunkCall) (last : Nat) : Prop :=
  Client.AddsTo call.client (chunkFmt call.bufdata) (call.bufdata 7).toNat last

/-- What the header of a chunk reads: a fmt 2 header the last message type, and the first header of
an audio or video message with a delta the last timestamp. -/
def ChunkCall.HeaderReads (call : ChunkCall) : UnsetField → Prop
  | .rtmpLastAudioTimestamp => call.StartsMessage ∧ call.AddsTo 8
  | .rtmpLastVideoTimestamp => call.StartsMessage ∧ call.AddsTo 9
  | .rtmpLastMessageType => call.HeaderCame ∧ chunkFmt call.bufdata = 2
  | _ => False

/-- What a header with this format and type sets: a fmt 0 header of an audio or video message the
last timestamp, and every header with a type the last message type. -/
def headerSets (fmt type : Nat) : UnsetField → Prop
  | .rtmpLastAudioTimestamp => fmt = 0 ∧ type = 8
  | .rtmpLastVideoTimestamp => fmt = 0 ∧ type = 9
  | .rtmpLastMessageType => fmt = 0 ∨ fmt = 1
  | _ => False

/-- What the header of a chunk sets. -/
def ChunkCall.HeaderSets (call : ChunkCall) (f : UnsetField) : Prop :=
  call.HeaderCame ∧ headerSets (chunkFmt call.bufdata) (call.bufdata 7).toNat f

/-- The body is AAC, and whether it is a sequence header. -/
def IsAac (m : Mem) (header : Bool) : Prop := m 0 >>> 4 = 10 ∧ ((m 1 = 0) ↔ header = true)

/-- The body is an AVC sequence header whose SPS is stored. -/
def IsAvcHeader (m : Mem) (dataLen : Int) : Prop :=
  m 0 &&& 0x0f = 7 ∧ m 0 >>> 4 = 1 ∧ m 1 = 0 ∧ 13 ≤ dataLen ∧ be16 (m 11) (m 12) ≤ 256

/-- The body is an AVC key frame that the loop over its units takes. -/
def IsKeyFrame (m : Mem) (dataLen : Int) : Prop :=
  m 0 &&& 0x0f = 7 ∧ m 0 >>> 4 = 1 ∧ m 1 ≠ 0 ∧
    ((nalLoop (nalFuel (dataLen - 5)) 5 (dataLen - 5)).run m).1 = .ok true

/-- What the handler of a message reads: the reply to `connect` the window size, which goes out
with the next request, and an AAC frame or a key frame the head data. -/
def HandlerReads (c : RtmpClient) (type : Nat) (m : Mem) (dataLen : Int) : UnsetField → Prop
  | .acknowledgementSize =>
    type = 0x14 ∧ c.rtmpStatus = .waitConnect ∧ resultArgs m dataLen ≠ none
  | .audioHeadData => type = 0x08 ∧ IsAac m false
  | .videoHeadData => type = 0x09 ∧ IsKeyFrame m dataLen
  | _ => False

/-- What the handler of a message sets: Window Acknowledgement Size and the sequence headers. An
AVC sequence header that is refused before its SPS leaves a start code only, which is shorter than
what the muxer looks at. -/
def HandlerSets (type : Nat) (m : Mem) (dataLen : Int) : UnsetField → Prop
  | .acknowledgementSize => type = 0x05
  | .audioHeadData => type = 0x08 ∧ IsAac m true
  | .videoHeadData => type = 0x09 ∧ IsAvcHeader m dataLen
  | _ => False

/-- The step hands over a message with the property. -/
def ChunkStep.Hands (P : RtmpClient → Nat → Mem → Int → Prop) (buf : Mem) : ChunkStep → Prop
  | .message c chunkId data dataLen =>
    P c (c.rtmpChunk chunkId).messageType (data.mem buf) dataLen
  | _ => False

/-- The call hands over a message with the property. -/
def ChunkCall.Hands (call : ChunkCall) (P : RtmpClient → Nat → Mem → Int → Prop) : Prop :=
  (chunkStep call.client call.bufdata call.datalen).Hands P call.bufdata

/-- The call reads the field. -/
def ChunkCall.Reads (call : ChunkCall) (f : UnsetField) : Prop :=
  call.HeaderReads f ∨ call.Hands fun c type m dataLen ↦ HandlerReads c type m dataLen f

/-- The call sets the field. -/
def ChunkCall.Sets (call : ChunkCall) (f : UnsetField) : Prop :=
  call.HeaderSets f ∨ call.Hands fun _ type m dataLen ↦ HandlerSets type m dataLen f

section

variable (call : ChunkCall)

instance {P : UnsetField → Prop} [DecidablePred P] : Decidable (∀ f, P f) :=
  decidable_of_iff (P .rtmpLastAudioTimestamp ∧ P .rtmpLastVideoTimestamp ∧
      P .rtmpLastMessageType ∧ P .acknowledgementSize ∧ P .audioHeadData ∧ P .videoHeadData)
    ⟨fun ⟨h1, h2, h3, h4, h5, h6⟩ f ↦ by cases f <;> assumption,
      fun h ↦ ⟨h _, h _, h _, h _, h _, h _⟩⟩

instance : Decidable call.HeaderCame := inferInstanceAs (Decidable (_ = true))

instance : Decidable call.StartsMessage := inferInstanceAs (Decidable (_ ∧ _))

instance (last : Nat) : Decidable (call.AddsTo last) := inferInstanceAs (Decidable (_ ∨ _))

instance : (f : UnsetField) → Decidable (call.HeaderReads f)
  | .rtmpLastAudioTimestamp | .rtmpLastVideoTimestamp | .rtmpLastMessageType =>
    inferInstanceAs (Decidable (_ ∧ _))
  | .acknowledgementSize | .audioHeadData | .videoHeadData => inferInstanceAs (Decidable False)

instance (fmt type : Nat) : (f : UnsetField) → Decidable (headerSets fmt type f)
  | .rtmpLastAudioTimestamp | .rtmpLastVideoTimestamp => inferInstanceAs (Decidable (_ ∧ _))
  | .rtmpLastMessageType => inferInstanceAs (Decidable (_ ∨ _))
  | .acknowledgementSize | .audioHeadData | .videoHeadData => inferInstanceAs (Decidable False)

instance (f : UnsetField) : Decidable (call.HeaderSets f) := inferInstanceAs (Decidable (_ ∧ _))

instance (m : Mem) (header : Bool) : Decidable (IsAac m header) :=
  inferInstanceAs (Decidable (_ ∧ _))

instance (m : Mem) (dataLen : Int) : Decidable (IsAvcHeader m dataLen) :=
  inferInstanceAs (Decidable (_ ∧ _))

instance (m : Mem) (dataLen : Int) : Decidable (IsKeyFrame m dataLen) :=
  inferInstanceAs (Decidable (_ ∧ _))

instance (c : RtmpClient) (type : Nat) (m : Mem) (dataLen : Int) :
    (f : UnsetField) → Decidable (HandlerReads c type m dataLen f)
  | .acknowledgementSize | .audioHeadData | .videoHeadData => inferInstanceAs (Decidable (_ ∧ _))
  | .rtmpLastAudioTimestamp | .rtmpLastVideoTimestamp | .rtmpLastMessageType =>
    inferInstanceAs (Decidable False)

instance (type : Nat) (m : Mem) (dataLen : Int) :
    (f : UnsetField) → Decidable (HandlerSets type m dataLen f)
  | .acknowledgementSize => inferInstanceAs (Decidable (_ = _))
  | .audioHeadData | .videoHeadData => inferInstanceAs (Decidable (_ ∧ _))
  | .rtmpLastAudioTimestamp | .rtmpLastVideoTimestamp | .rtmpLastMessageType =>
    inferInstanceAs (Decidable False)

instance (P : RtmpClient → Nat → Mem → Int → Prop) (buf : Mem)
    [hP : ∀ c type m dataLen, Decidable (P c type m dataLen)] :
    (step : ChunkStep) → Decidable (step.Hands P buf)
  | .ret _ _ | .fault _ _ => inferInstanceAs (Decidable False)
  | .message _ _ _ _ => hP _ _ _ _

instance (P : RtmpClient → Nat → Mem → Int → Prop)
    [∀ c type m dataLen, Decidable (P c type m dataLen)] : Decidable (call.Hands P) :=
  inferInstanceAs (Decidable (ChunkStep.Hands _ _ _))

instance (f : UnsetField) : Decidable (call.Reads f) := inferInstanceAs (Decidable (_ ∨ _))

instance (f : UnsetField) : Decidable (call.Sets f) := inferInstanceAs (Decidable (_ ∨ _))

end

/-! ### The parser -/

section

variable {S : UnsetField → Prop} {c c' : RtmpClient}

theorem similar_setChunk (h : Similar S c c') (chunkId : Nat) (chunk : RtmpChunk) :
    Similar S (c.setChunk chunkId chunk) (c'.setChunk chunkId chunk) :=
  { h with
    chunk := by
      unfold RtmpClient.setChunk
      rw [h.chunk] }

private theorem similar_saveHeader (h : Similar S c c') (chunkId : Nat) (bytes : List UInt8) :
    Similar S (saveHeader c chunkId bytes) (saveHeader c' chunkId bytes) := by
  unfold saveHeader
  rw [h.chunk]
  exact similar_setChunk h _ _

private theorem similar_advance (h : Similar S c c') (n : Nat) :
    Similar S (c.advance n) (c'.advance n) :=
  { h with parsePos := congrArg (· + (n : Int)) h.parsePos }

private theorem similar_setLast (h : Similar S c c') (type time : Nat) :
    Similar S (setLast c type time) (setLast c' type time) := by
  unfold setLast
  split
  · exact { h with audioTime := fun _ ↦ rfl }
  · split
    · exact { h with videoTime := fun _ ↦ rfl }
    · exact h

/-- The sum is the same where the last timestamp is. -/
private theorem similar_addDelta (h : Similar S c c') (type delta : Nat) :
    Similar S (addDelta c type delta).1 (addDelta c' type delta).1 ∧
      ((type = 8 → ¬S .rtmpLastAudioTimestamp) → (type = 9 → ¬S .rtmpLastVideoTimestamp) →
        (addDelta c' type delta).2 = (addDelta c type delta).2) := by
  unfold addDelta
  split
  · next h8 =>
    have hsum (hS : ¬S .rtmpLastAudioTimestamp) :
        (delta + c'.rtmpLastAudioTimestamp) % 4294967296 =
          (delta + c.rtmpLastAudioTimestamp) % 4294967296 := by rw [h.audioTime hS]
    exact ⟨{ h with audioTime := hsum }, fun hS _ ↦ hsum (hS h8)⟩
  · split
    · next h9 =>
      have hsum (hS : ¬S .rtmpLastVideoTimestamp) :
          (delta + c'.rtmpLastVideoTimestamp) % 4294967296 =
            (delta + c.rtmpLastVideoTimestamp) % 4294967296 := by rw [h.videoTime hS]
      exact ⟨{ h with videoTime := hsum }, fun _ hS ↦ hsum (hS h9)⟩
    · exact ⟨h, fun _ _ ↦ rfl⟩

/-- The headers have been read the same, up to the timestamp where it is not `exact`; `T` is what
is unset behind a complete header. -/
private inductive SimilarHeader (S T : UnsetField → Prop) (exact : Prop) :
    HeaderStep → HeaderStep → Prop where
  | ret (r : Int) {c c' : RtmpClient} (h : Similar S c c') :
      SimilarHeader S T exact (.ret r c) (.ret r c')
  | parsed (chunkInfo : RtmpChunk) (hl timeStamp : Nat) {c c' : RtmpClient} (h : Similar T c c')
      (htime : exact → timeStamp = chunkInfo.timeStamp) :
      SimilarHeader S T exact (.parsed c chunkInfo hl)
        (.parsed c' { chunkInfo with timeStamp := timeStamp } hl)

/-- A header sets at most the last times and the last message type. -/
private theorem Similar.header {fmt type : Nat} (h : Similar S c c')
    (haudio : fmt = 0 ∧ type = 8 → c'.rtmpLastAudioTimestamp = c.rtmpLastAudioTimestamp)
    (hvideo : fmt = 0 ∧ type = 9 → c'.rtmpLastVideoTimestamp = c.rtmpLastVideoTimestamp)
    (htype : fmt = 0 ∨ fmt = 1 → c'.rtmpLastMessageType = c.rtmpLastMessageType) :
    Similar (fun f ↦ S f ∧ ¬headerSets fmt type f) c c' :=
  h.sets haudio hvideo htype False.elim False.elim False.elim

/-- A header without a message type sets none of them. -/
private theorem Similar.header_later {fmt : Nat} (hfmt : 2 ≤ fmt) (type : Nat)
    (h : Similar S c c') : Similar (fun f ↦ S f ∧ ¬headerSets fmt type f) c c' := by
  apply h.header
  · intro hset
    omega
  · intro hset
    omega
  · intro hset
    omega

private theorem similar_headerFmt0 (h : Similar S c c') (chunkId : Nat) (buf : Mem)
    (datalen : Int) :
    SimilarHeader S (fun f ↦ S f ∧ ¬headerSets 0 (buf 7).toNat f) True
      (headerFmt0 c chunkId buf datalen) (headerFmt0 c' chunkId buf datalen) := by
  unfold headerFmt0
  split
  · exact .ret 1 h
  · have hsaved := similar_saveHeader h chunkId (buf.slice 1 11)
    cases timeField buf datalen 11 12 with
    | none => exact .ret 1 hsaved
    | some field =>
      obtain ⟨timeStamp, ext⟩ := field
      have hlast := similar_setLast hsaved (buf 7).toNat timeStamp
      refine .parsed _ _ timeStamp (Similar.header { hlast with messageType := fun _ ↦ rfl }
        ?_ ?_ fun _ ↦ rfl) fun _ ↦ rfl
      · rintro ⟨-, h8⟩
        unfold setLast
        rw [if_pos h8, if_pos h8]
      · rintro ⟨-, h9⟩
        unfold setLast
        rw [h9]
        rfl

private theorem similar_headerFmt1 (h : Similar S c c') (chunkId : Nat) (buf : Mem)
    (datalen : Int) :
    SimilarHeader S (fun f ↦ S f ∧ ¬headerSets 1 (buf 7).toNat f)
      (((buf 7).toNat = 8 → ¬S .rtmpLastAudioTimestamp) ∧
        ((buf 7).toNat = 9 → ¬S .rtmpLastVideoTimestamp))
      (headerFmt1 c chunkId buf datalen) (headerFmt1 c' chunkId buf datalen) := by
  unfold headerFmt1
  split
  · exact .ret 1 h
  · have hsaved := similar_saveHeader h chunkId (buf.slice 1 7)
    cases timeField buf datalen 7 8 with
    | none => exact .ret 1 hsaved
    | some field =>
      obtain ⟨timeStamp, ext⟩ := field
      obtain ⟨hadded, hsum⟩ := similar_addDelta hsaved (buf 7).toNat timeStamp
      refine .parsed _ _ _ (Similar.header { hadded with messageType := fun _ ↦ rfl }
        ?_ ?_ fun _ ↦ rfl) fun hS ↦ hsum hS.1 hS.2
      · rintro ⟨hfmt, -⟩
        cases hfmt
      · rintro ⟨hfmt, -⟩
        cases hfmt

private theorem similar_headerFmt2 (h : Similar S c c') (buf : Mem) (datalen : Int)
    (hlast : (∃ c₁ chunkInfo hl, headerFmt2 c buf datalen = .parsed c₁ chunkInfo hl) →
      ¬S .rtmpLastMessageType) :
    SimilarHeader S (fun f ↦ S f ∧ ¬headerSets 2 (buf 7).toNat f)
      ((c.rtmpLastMessageType = 8 → ¬S .rtmpLastAudioTimestamp) ∧
        (c.rtmpLastMessageType = 9 → ¬S .rtmpLastVideoTimestamp))
      (headerFmt2 c buf datalen) (headerFmt2 c' buf datalen) := by
  unfold headerFmt2 at hlast ⊢
  split
  · exact .ret 1 h
  · next hlong =>
    rw [if_neg hlong] at hlast
    cases hfield : timeField buf datalen 3 4 with
    | none => exact .ret 1 h
    | some field =>
      rw [hfield] at hlast
      obtain ⟨timeStamp, ext⟩ := field
      obtain ⟨hadded, hsum⟩ := similar_addDelta h c.rtmpLastMessageType timeStamp
      dsimp only
      rw [h.messageType (hlast ⟨_, _, _, rfl⟩)]
      exact .parsed _ _ _ (hadded.header_later (Nat.le_refl 2) _) fun hS ↦ hsum hS.1 hS.2

private theorem SimilarHeader.imp {T : UnsetField → Prop} {p q : Prop} {step step' : HeaderStep}
    (h : SimilarHeader S T p step step') (hpq : q → p) : SimilarHeader S T q step step' := by
  cases h with
  | ret r h => exact .ret r h
  | parsed chunkInfo hl timeStamp h htime =>
    exact .parsed chunkInfo hl timeStamp h fun hq ↦ htime (hpq hq)

private theorem similar_headerFmt3 (h : Similar S c c') (type : Nat) (datalen : Int) :
    SimilarHeader S (fun f ↦ S f ∧ ¬headerSets 3 type f) True (headerFmt3 c datalen)
      (headerFmt3 c' datalen) := by
  unfold headerFmt3
  split
  · exact .ret 1 h
  · exact .parsed RtmpChunk.zero 0 0 (h.header_later (Nat.le_succ 2) type) fun _ ↦ rfl

private theorem similar_chunkHeader (h : Similar S c c') (fmt chunkId : Nat) (buf : Mem)
    (datalen : Int)
    (hlast : fmt = 2 → (∃ c₁ chunkInfo hl, chunkHeader c fmt chunkId buf datalen =
      .parsed c₁ chunkInfo hl) → ¬S .rtmpLastMessageType) :
    SimilarHeader S (fun f ↦ S f ∧ ¬headerSets fmt (buf 7).toNat f)
      ((AddsTo c fmt (buf 7).toNat 8 → ¬S .rtmpLastAudioTimestamp) ∧
        (AddsTo c fmt (buf 7).toNat 9 → ¬S .rtmpLastVideoTimestamp))
      (chunkHeader c fmt chunkId buf datalen) (chunkHeader c' fmt chunkId buf datalen) := by
  match fmt with
  | 0 => exact (similar_headerFmt0 h chunkId buf datalen).imp fun _ ↦ trivial
  | 1 =>
    exact (similar_headerFmt1 h chunkId buf datalen).imp fun hS ↦
      ⟨fun h8 ↦ hS.1 (Or.inl ⟨rfl, h8⟩), fun h9 ↦ hS.2 (Or.inl ⟨rfl, h9⟩)⟩
  | 2 =>
    exact (similar_headerFmt2 h buf datalen (hlast rfl)).imp fun hS ↦
      ⟨fun h8 ↦ hS.1 (Or.inr ⟨rfl, h8⟩), fun h9 ↦ hS.2 (Or.inr ⟨rfl, h9⟩)⟩
  | 3 => exact (similar_headerFmt3 h (buf 7).toNat datalen).imp fun _ ↦ trivial
  | fmt + 4 => exact .ret (-1) h

/-- The parts before the handler end the same. -/
inductive SimilarStep (S : UnsetField → Prop) : ChunkStep → ChunkStep → Prop where
  | ret (r : Int) {c c' : RtmpClient} (h : Similar S c c') :
      SimilarStep S (.ret r c) (.ret r c')
  | fault (e : Fault) {c c' : RtmpClient} (h : Similar S c c') :
      SimilarStep S (.fault e c) (.fault e c')
  | message (chunkId : Nat) (data : MessageData) (dataLen : Int) {c c' : RtmpClient}
      (h : Similar S c c') :
      SimilarStep S (.message c chunkId data dataLen) (.message c' chunkId data dataLen)

private theorem similar_copyBody (h : Similar S c c') (chunkId : Nat) (buf : Mem) (off len : Nat) :
    SimilarStep S (copyBody c chunkId buf off len) (copyBody c' chunkId buf off len) := by
  unfold copyBody
  rw [h.chunk]
  dsimp only
  cases (c.rtmpChunk chunkId).messageBuf with
  | none => exact .fault _ h
  | some messageBuf =>
    dsimp only
    split
    · exact .fault _ h
    · have hstored := similar_setChunk h chunkId { c.rtmpChunk chunkId with
        messageBuf :=
          some (messageBuf.memcpy (c.rtmpChunk chunkId).messageBufPos (buf.slice off len))
        messageBufPos := (c.rtmpChunk chunkId).messageBufPos + len
        lastMessageSize := sub32 (c.rtmpChunk chunkId).lastMessageSize len }
      have hmoved := similar_advance hstored (off + len)
      split
      · exact .ret 0 hmoved
      · exact .message chunkId _ _ hmoved

private theorem similar_newBuffer (h : Similar S c c') :
    c'.newBuffer.1 = c.newBuffer.1 ∧ Similar S c.newBuffer.2 c'.newBuffer.2 := by
  unfold RtmpClient.newBuffer
  rw [h.heap]
  exact ⟨rfl, { h with heap := rfl }⟩

/-- The timestamp of the header matters where the chunk starts a message. -/
private theorem similar_chunkBody (h : Similar S c c') (chunkId : Nat) (chunkInfo : RtmpChunk)
    (hl : Nat) (buf : Mem) (datalen : Int) {timeStamp : Nat}
    (htime : (c.rtmpChunk chunkId).lastMessageSize = 0 →
      toInt32 (chunkLen c chunkId chunkInfo) + ((hl + 1 : Nat) : Int) ≤ datalen →
        timeStamp = chunkInfo.timeStamp) :
    SimilarStep S (chunkBody c chunkId chunkInfo hl buf datalen)
      (chunkBody c' chunkId { chunkInfo with timeStamp := timeStamp } hl buf datalen) := by
  have hlen : chunkLen c' chunkId { chunkInfo with timeStamp := timeStamp } =
      chunkLen c chunkId chunkInfo := by
    unfold chunkLen
    rw [h.chunk, h.chunkSize]
  obtain ⟨hbuffer, hnew⟩ := similar_newBuffer h
  unfold chunkBody
  rw [hlen]
  dsimp only
  split
  · exact .ret 1 h
  · next hcame =>
    split
    · exact .fault _ h
    · rw [h.chunk]
      split
      · next hidle =>
        rw [htime hidle (by omega)]
        split
        · exact .message chunkId _ _ (similar_advance (similar_setChunk h chunkId _) _)
        · rw [hbuffer]
          exact similar_copyBody (similar_setChunk hnew chunkId _) chunkId buf _ _
      · exact similar_copyBody h chunkId buf _ _

end

/-- The part of a call before the handler does the same unless its header reads an unset field. -/
theorem similar_chunkStep {S : UnsetField → Prop} {call : ChunkCall} {c' : RtmpClient}
    (h : Similar S call.client c') (hread : ∀ f, S f → ¬call.HeaderReads f) :
    SimilarStep (fun f ↦ S f ∧ ¬call.HeaderSets f)
      (chunkStep call.client call.bufdata call.datalen)
      (chunkStep c' call.bufdata call.datalen) := by
  have hkept (hcame : ¬call.HeaderCame) {c c' : RtmpClient} (h : Similar S c c') :
      Similar (fun f ↦ S f ∧ ¬call.HeaderSets f) c c' :=
    h.mono fun f hf ↦ ⟨hf, fun hs ↦ hcame hs.1⟩
  unfold chunkStep
  by_cases hempty : call.datalen = 0
  · have hcame : ¬call.HeaderCame := by
      unfold ChunkCall.HeaderCame chunkSpan
      rw [if_pos (Or.inl hempty)]
      decide
    rw [if_pos hempty, if_pos hempty]
    exact .ret 1 (hkept hcame h)
  · by_cases hid : chunkIdOf call.bufdata ≥ maxChunkId
    · have hcame : ¬call.HeaderCame := by
        unfold ChunkCall.HeaderCame chunkSpan
        rw [if_pos (Or.inr hid)]
        decide
      rw [if_neg hempty, if_neg hempty, if_pos hid, if_pos hid]
      exact .ret (-1) (hkept hcame h)
    · have hid' : chunkIdOf call.bufdata < maxChunkId := by omega
      rw [if_neg hempty, if_neg hempty, if_neg hid, if_neg hid]
      have hheader := similar_chunkHeader h (chunkFmt call.bufdata) (chunkIdOf call.bufdata)
        call.bufdata call.datalen fun hfmt ⟨c₁, chunkInfo, hl, hparsed⟩ hS ↦ by
          refine hread _ hS ⟨?_, hfmt⟩
          unfold ChunkCall.HeaderCame
          rw [chunkSpan_of_parsed hempty hid' hparsed]
          rfl
      have hfine := fine_chunkHeader call.client (chunkFmt call.bufdata) (chunkIdOf call.bufdata)
        call.bufdata call.datalen
      generalize hfirst : chunkHeader call.client (chunkFmt call.bufdata) (chunkIdOf call.bufdata)
        call.bufdata call.datalen = header at hheader hfine ⊢
      generalize chunkHeader c' (chunkFmt call.bufdata) (chunkIdOf call.bufdata)
        call.bufdata call.datalen = header' at hheader ⊢
      cases hheader with
      | ret r h' =>
        have hcame : ¬call.HeaderCame := by
          unfold ChunkCall.HeaderCame
          rw [chunkSpan_of_ret hfirst]
          exact Bool.false_ne_true
        exact .ret r (hkept hcame h')
      | @parsed chunkInfo hl timeStamp c₁ c₁' h' htime =>
        obtain ⟨hk, hsize, -, -⟩ := hfine
        obtain ⟨b, hb⟩ := hk.chunk (chunkIdOf call.bufdata)
        have hspan := chunkSpan_of_parsed hempty hid' hfirst
        have hcame : call.HeaderCame := by
          unfold ChunkCall.HeaderCame
          rw [hspan]
          rfl
        refine similar_chunkBody (h'.mono fun f hf ↦ ⟨hf.1, fun hs ↦ hf.2 hs.2⟩) _ chunkInfo hl _ _
          fun hidle hlong ↦ ?_
        have hlen : chunkLen c₁ (chunkIdOf call.bufdata) chunkInfo < 16777216 := by
          have hmin := chunkLen_eq c₁ (chunkIdOf call.bufdata) chunkInfo
          unfold leftover at hmin
          rw [if_pos hidle] at hmin
          omega
        rw [toInt32_of_lt _ (by omega)] at hlong
        have hstarts : call.StartsMessage := by
          rw [hb] at hidle
          exact ⟨hidle, _, hspan, by omega⟩
        exact htime ⟨fun hadds hS ↦ hread _ hS ⟨hstarts, hadds⟩,
          fun hadds hS ↦ hread _ hS ⟨hstarts, hadds⟩⟩

end RtmpRecv.Client
