import RtmpRecv.Client.Header

/-!
# One call on any window

Library `Client`. An invariant of the parser that holds in every reachable state, and what a
call of `rtmp_process_chunk` can do in such a state, whatever the bytes of the window are.
-/

namespace RtmpRecv.Client
open RtmpRecv.Base

/-- A chunk stream whose open message lies in its `message_buf`. -/
structure ChunkSound (k : RtmpChunk) : Prop where
  last : k.lastMessageSize < 16777216
  buf : k.lastMessageSize ≠ 0 → k.messageBuf.isSome
  pos : k.lastMessageSize ≠ 0 → k.messageBufPos + k.lastMessageSize = k.messageSize
  size : k.lastMessageSize ≠ 0 → k.messageSize < 16777216
  room : k.lastMessageSize ≠ 0 → k.messageBufLen = newMessageBufLen k.messageSize

/-- Every chunk stream is sound. -/
def Sound (c : RtmpClient) : Prop := ∀ i, ChunkSound (c.rtmpChunk i)

theorem chunkSound_of_last {k : RtmpChunk} (h : k.lastMessageSize = 0) : ChunkSound k :=
  ⟨by omega, fun hn ↦ absurd h hn, fun hn ↦ absurd h hn, fun hn ↦ absurd h hn,
    fun hn ↦ absurd h hn⟩

/-- An idle client is sound. -/
theorem sound_of_idle {c : RtmpClient} (h : ∀ i, (c.rtmpChunk i).lastMessageSize = 0) :
    Sound c := fun i ↦ chunkSound_of_last (h i)

theorem Sound.headerKept {c c' : RtmpClient} (hs : Sound c) (h : HeaderKept c c') :
    Sound c' := by
  intro i
  obtain ⟨b, hb⟩ := h.chunk i
  rw [hb]
  exact ⟨(hs i).last, (hs i).buf, (hs i).pos, (hs i).size, (hs i).room⟩

theorem Sound.setChunk {c : RtmpClient} (hs : Sound c) (i : Nat) {k : RtmpChunk}
    (h : ChunkSound k) : Sound (c.setChunk i k) := by
  intro j
  by_cases hj : j = i
  · subst hj
    rw [RtmpClient.setChunk_same]
    exact h
  · rw [RtmpClient.setChunk_other _ _ _ _ hj]
    exact hs j

/-! ### Bodies -/

/-- What is left of the message that the chunk belongs to. -/
def leftover (c : RtmpClient) (chunkId : Nat) (chunkInfo : RtmpChunk) : Nat :=
  if (c.rtmpChunk chunkId).lastMessageSize = 0 then chunkInfo.messageSize
  else (c.rtmpChunk chunkId).lastMessageSize

/-- The body of a chunk is as much of the message as the chunk size allows. -/
theorem chunkLen_eq (c : RtmpClient) (chunkId : Nat) (chunkInfo : RtmpChunk) :
    chunkLen c chunkId chunkInfo = min c.rtmpChunkMaxSize (leftover c chunkId chunkInfo) := by
  unfold chunkLen leftover
  by_cases h : (c.rtmpChunk chunkId).lastMessageSize = 0
  · simp only [if_pos h]
    split <;> omega
  · simp only [if_neg h]
    split <;> omega

theorem leftover_lt {c : RtmpClient} {chunkId : Nat} {chunkInfo : RtmpChunk}
    (hs : ChunkSound (c.rtmpChunk chunkId)) (hsize : chunkInfo.messageSize < 16777216) :
    leftover c chunkId chunkInfo < 16777216 := by
  have hlast := hs.last
  unfold leftover
  split <;> omega

/-- A window that ends inside the body asks for more bytes. -/
theorem chunkBody_short {c : RtmpClient} {chunkId : Nat} {chunkInfo : RtmpChunk} {hl : Nat}
    {buf : Mem} {datalen : Int} (hlt : leftover c chunkId chunkInfo < 16777216)
    (hd : datalen < ((hl + 1 + chunkLen c chunkId chunkInfo : Nat) : Int)) :
    chunkBody c chunkId chunkInfo hl buf datalen = .ret 1 c := by
  have hlen := chunkLen_eq c chunkId chunkInfo
  have hint := toInt32_of_lt (chunkLen c chunkId chunkInfo) (by omega)
  unfold chunkBody
  simp only [hint]
  rw [if_pos (by omega)]

/-- What is done with a chunk that is there completely: it is a message, or the first part of
one, or a further part, or the last part. -/
inductive BodyStep (c : RtmpClient) (chunkId : Nat) (chunkInfo : RtmpChunk) (hl : Nat)
    (buf : Mem) : ChunkStep → Prop where
  | single (hlast : (c.rtmpChunk chunkId).lastMessageSize = 0)
      (hsize : chunkInfo.messageSize ≤ c.rtmpChunkMaxSize) :
      BodyStep c chunkId chunkInfo hl buf
        (.message ((c.setChunk chunkId
          { startMessage (c.rtmpChunk chunkId) chunkInfo with lastMessageSize := 0 }).advance
            (hl + 1 + chunkLen c chunkId chunkInfo))
          chunkId (.window (hl + 1)) chunkInfo.messageSize)
  | first (hlast : (c.rtmpChunk chunkId).lastMessageSize = 0)
      (hsize : c.rtmpChunkMaxSize < chunkInfo.messageSize) :
      BodyStep c chunkId chunkInfo hl buf
        (.ret 0 ((c.newBuffer.2.setChunk chunkId
          (((c.rtmpChunk chunkId).opened chunkInfo c.newBuffer.1).copied c.newBuffer.1
            (buf.slice (hl + 1) (chunkLen c chunkId chunkInfo)))).advance
              (hl + 1 + chunkLen c chunkId chunkInfo)))
  | more (m : Mem) (hlast : (c.rtmpChunk chunkId).lastMessageSize ≠ 0)
      (hbuf : (c.rtmpChunk chunkId).messageBuf = some m)
      (hsize : c.rtmpChunkMaxSize < (c.rtmpChunk chunkId).lastMessageSize) :
      BodyStep c chunkId chunkInfo hl buf
        (.ret 0 ((c.setChunk chunkId ((c.rtmpChunk chunkId).copied m
          (buf.slice (hl + 1) (chunkLen c chunkId chunkInfo)))).advance
            (hl + 1 + chunkLen c chunkId chunkInfo)))
  | final (m : Mem) (hlast : (c.rtmpChunk chunkId).lastMessageSize ≠ 0)
      (hbuf : (c.rtmpChunk chunkId).messageBuf = some m)
      (hsize : (c.rtmpChunk chunkId).lastMessageSize ≤ c.rtmpChunkMaxSize) :
      BodyStep c chunkId chunkInfo hl buf
        (.message ((c.setChunk chunkId ((c.rtmpChunk chunkId).copied m
          (buf.slice (hl + 1) (chunkLen c chunkId chunkInfo)))).advance
            (hl + 1 + chunkLen c chunkId chunkInfo))
          chunkId (.messageBuf (m.memcpy (c.rtmpChunk chunkId).messageBufPos
            (buf.slice (hl + 1) (chunkLen c chunkId chunkInfo))))
          (c.rtmpChunk chunkId).messageSize)

/-- A chunk that is there completely is taken in one of the four ways; nothing breaks. -/
theorem bodyStep_chunkBody {c : RtmpClient} {chunkId : Nat} {chunkInfo : RtmpChunk} {hl : Nat}
    {buf : Mem} {datalen : Int} (hs : ChunkSound (c.rtmpChunk chunkId))
    (hsize : chunkInfo.messageSize < 16777216)
    (hd : ((hl + 1 + chunkLen c chunkId chunkInfo : Nat) : Int) ≤ datalen) :
    BodyStep c chunkId chunkInfo hl buf (chunkBody c chunkId chunkInfo hl buf datalen) := by
  have hlen := chunkLen_eq c chunkId chunkInfo
  unfold leftover at hlen
  by_cases hlast : (c.rtmpChunk chunkId).lastMessageSize = 0
  · rw [if_pos hlast] at hlen
    by_cases hfits : chunkInfo.messageSize ≤ c.rtmpChunkMaxSize
    · have heq : chunkLen c chunkId chunkInfo = chunkInfo.messageSize := by omega
      have hb : BodyStep c chunkId chunkInfo hl buf _ := BodyStep.single hlast hfits
      rw [heq] at hd hb
      rw [chunkBody_single c chunkId chunkInfo hl buf datalen hlast hfits hsize hd]
      exact hb
    · have heq : chunkLen c chunkId chunkInfo = c.rtmpChunkMaxSize := by omega
      have hb : BodyStep c chunkId chunkInfo hl buf _ :=
          BodyStep.first hlast (Nat.lt_of_not_le hfits)
      rw [heq] at hd hb
      rw [chunkBody_first c chunkId chunkInfo hl buf datalen hlast (by omega) hsize hd]
      exact hb
  · rw [if_neg hlast] at hlen
    have hbound := hs.last
    have hpos := hs.pos hlast
    have hroom := le_newMessageBufLen (hs.size hlast)
    rw [← hs.room hlast] at hroom
    obtain ⟨m, hm⟩ := Option.isSome_iff_exists.1 (hs.buf hlast)
    rw [chunkBody_more c chunkId chunkInfo hl buf datalen hlast hbound (by rw [← hlen]; exact hd),
      ← hlen, copyBody_eq c chunkId buf _ _ m hm (by omega) (by omega) hbound]
    dsimp only
    by_cases hmore : c.rtmpChunkMaxSize < (c.rtmpChunk chunkId).lastMessageSize
    · rw [if_pos (by omega)]
      exact BodyStep.more m hlast hm hmore
    · rw [if_neg (by omega), toInt32_of_lt _ (by have := hs.size hlast; omega)]
      exact BodyStep.final m hlast hm (by omega)

/-- The client when the part before the handler ends. -/
def ChunkStep.client : ChunkStep → RtmpClient
  | .ret _ c => c
  | .fault _ c => c
  | .message c _ _ _ => c

section BodyStep

variable {c : RtmpClient} {chunkId : Nat} {chunkInfo : RtmpChunk} {hl : Nat} {buf : Mem}
  {step : ChunkStep}

/-- A chunk changes no other chunk stream. -/
theorem BodyStep.other (h : BodyStep c chunkId chunkInfo hl buf step) (i : Nat)
    (hi : i ≠ chunkId) : step.client.rtmpChunk i = c.rtmpChunk i := by
  cases h with
  | single _ _ => exact RtmpClient.setChunk_other _ _ _ _ hi
  | first _ _ => exact RtmpClient.setChunk_other _ _ _ _ hi
  | more _ _ _ _ => exact RtmpClient.setChunk_other _ _ _ _ hi
  | final _ _ _ _ => exact RtmpClient.setChunk_other _ _ _ _ hi

/-- A chunk is consumed as a whole. -/
theorem BodyStep.parsePos (h : BodyStep c chunkId chunkInfo hl buf step) :
    step.client.mIParsePos =
      c.mIParsePos + ((hl + 1 + chunkLen c chunkId chunkInfo : Nat) : Int) := by
  cases h <;> rfl

theorem BodyStep.messages (h : BodyStep c chunkId chunkInfo hl buf step) :
    step.client.rtmpMessages = c.rtmpMessages := by
  cases h <;> rfl

theorem BodyStep.status (h : BodyStep c chunkId chunkInfo hl buf step) :
    step.client.rtmpStatus = c.rtmpStatus := by
  cases h <;> rfl

/-- A chunk either leaves its message open or completes one. -/
theorem BodyStep.cases (h : BodyStep c chunkId chunkInfo hl buf step) :
    step = .ret 0 step.client ∨
      ∃ data dataLen, step = .message step.client chunkId data dataLen ∧
        (step.client.rtmpChunk chunkId).lastMessageSize = 0 ∧
        data.windowEnd dataLen ≤ hl + 1 + chunkLen c chunkId chunkInfo := by
  have hlen := chunkLen_eq c chunkId chunkInfo
  unfold leftover at hlen
  cases h with
  | single hlast hsize =>
    rw [if_pos hlast] at hlen
    refine Or.inr ⟨_, _, rfl, ?_, ?_⟩
    · exact congrArg RtmpChunk.lastMessageSize (RtmpClient.setChunk_same _ _ _)
    · simp only [MessageData.windowEnd, Int.toNat_natCast]
      omega
  | first _ _ => exact Or.inl rfl
  | more _ _ _ _ => exact Or.inl rfl
  | final m hlast hbuf hsize =>
    rw [if_neg hlast] at hlen
    refine Or.inr ⟨_, _, rfl, ?_, Nat.zero_le _⟩
    refine (congrArg RtmpChunk.lastMessageSize (RtmpClient.setChunk_same _ _ _)).trans ?_
    simp only [RtmpChunk.copied, Mem.length_slice]
    omega

/-- A chunk keeps the invariant. -/
theorem BodyStep.sound (h : BodyStep c chunkId chunkInfo hl buf step) (hs : Sound c)
    (hsize : chunkInfo.messageSize < 16777216) : Sound step.client := by
  have hlen := chunkLen_eq c chunkId chunkInfo
  unfold leftover at hlen
  have hk := hs chunkId
  cases h with
  | single _ _ => exact hs.setChunk chunkId (chunkSound_of_last rfl)
  | first hlast hsmall =>
    rw [if_pos hlast] at hlen
    have hsound : Sound c.newBuffer.2 := hs
    refine hsound.setChunk chunkId ⟨?_, fun _ ↦ rfl, fun _ ↦ ?_, fun _ ↦ hsize, fun _ ↦ rfl⟩
    · simp only [RtmpChunk.copied, RtmpChunk.opened, startMessage]
      omega
    · simp only [RtmpChunk.copied, RtmpChunk.opened, startMessage, Mem.length_slice]
      omega
  | more m hlast _ hsmall =>
    rw [if_neg hlast] at hlen
    have hpos := hk.pos hlast
    have hlt := hk.last
    refine hs.setChunk chunkId
      ⟨?_, fun _ ↦ rfl, fun _ ↦ ?_, fun _ ↦ hk.size hlast, fun _ ↦ hk.room hlast⟩
    · simp only [RtmpChunk.copied]
      omega
    · simp only [RtmpChunk.copied, Mem.length_slice]
      omega
  | final m hlast _ hsmall =>
    rw [if_neg hlast] at hlen
    refine hs.setChunk chunkId (chunkSound_of_last ?_)
    simp only [RtmpChunk.copied, Mem.length_slice]
    omega

end BodyStep

/-! ### Calls -/

/-- The length of the chunk at the head of the window, once its header has come: basic header,
message header, and as much of the message as the chunk size allows. -/
def chunkSpan (c : RtmpClient) (buf : Mem) (datalen : Int) : Option Nat :=
  if datalen = 0 ∨ maxChunkId ≤ chunkIdOf buf then none
  else
    match chunkHeader c (chunkFmt buf) (chunkIdOf buf) buf datalen with
    | .ret _ _ => none
    | .parsed c chunkInfo hl => some (hl + 1 + chunkLen c (chunkIdOf buf) chunkInfo)

/-- A header that has not come has no span. -/
theorem chunkSpan_of_ret {c c' : RtmpClient} {buf : Mem} {datalen : Int} {r : Int}
    (h : chunkHeader c (chunkFmt buf) (chunkIdOf buf) buf datalen = .ret r c') :
    chunkSpan c buf datalen = none := by
  unfold chunkSpan
  rw [h]
  exact ite_self _

theorem chunkSpan_of_parsed {c c' : RtmpClient} {buf : Mem} {datalen : Int} {chunkInfo : RtmpChunk}
    {hl : Nat} (h0 : datalen ≠ 0) (hid : chunkIdOf buf < maxChunkId)
    (h : chunkHeader c (chunkFmt buf) (chunkIdOf buf) buf datalen = .parsed c' chunkInfo hl) :
    chunkSpan c buf datalen = some (hl + 1 + chunkLen c' (chunkIdOf buf) chunkInfo) := by
  unfold chunkSpan
  rw [if_neg (by omega), h]

/-- The header of the chunk at the head of the window has been read. -/
structure HeaderDone (c : RtmpClient) (buf : Mem) (datalen : Int) (c' : RtmpClient)
    (chunkInfo : RtmpChunk) (hl : Nat) : Prop where
  parsed : chunkHeader c (chunkFmt buf) (chunkIdOf buf) buf datalen = .parsed c' chunkInfo hl
  kept : HeaderKept c c'
  chunkId : chunkIdOf buf < 64
  size : chunkInfo.messageSize < 16777216
  short : hl ≤ 15
  inside : ((hl + 1 : Nat) : Int) ≤ datalen

theorem HeaderDone.span {c c' : RtmpClient} {buf : Mem} {datalen : Int} {chunkInfo : RtmpChunk}
    {hl : Nat} (h : HeaderDone c buf datalen c' chunkInfo hl) :
    chunkSpan c buf datalen = some (hl + 1 + chunkLen c' (chunkIdOf buf) chunkInfo) := by
  have hd := h.inside
  exact chunkSpan_of_parsed (by omega) h.chunkId h.parsed

/-- What a call does before any handler runs. -/
inductive CallStep (c : RtmpClient) (buf : Mem) (datalen : Int) : ChunkStep → Prop where
  | wait (c' : RtmpClient) (hk : HeaderKept c c') (hd : datalen < 16) :
      CallStep c buf datalen (.ret 1 c')
  | reject (c' : RtmpClient) (hk : HeaderKept c c') : CallStep c buf datalen (.ret (-1) c')
  | short (c' : RtmpClient) (chunkInfo : RtmpChunk) (hl : Nat)
      (hh : HeaderDone c buf datalen c' chunkInfo hl)
      (hd : datalen < ((hl + 1 + chunkLen c' (chunkIdOf buf) chunkInfo : Nat) : Int)) :
      CallStep c buf datalen (.ret 1 c')
  | taken (c' : RtmpClient) (chunkInfo : RtmpChunk) (hl : Nat)
      (hh : HeaderDone c buf datalen c' chunkInfo hl)
      (hd : ((hl + 1 + chunkLen c' (chunkIdOf buf) chunkInfo : Nat) : Int) ≤ datalen)
      {step : ChunkStep} (hb : BodyStep c' (chunkIdOf buf) chunkInfo hl buf step) :
      CallStep c buf datalen step

/-- Every call does one of these. -/
theorem callStep_chunkStep {c : RtmpClient} (hs : Sound c) (buf : Mem) (datalen : Int) :
    CallStep c buf datalen (chunkStep c buf datalen) := by
  have hf := fine_chunkHeader c (chunkFmt buf) (chunkIdOf buf) buf datalen
  unfold chunkStep
  split
  · next h0 => exact CallStep.wait c (HeaderKept.refl c) (by omega)
  · split
    · exact CallStep.reject c (HeaderKept.refl c)
    · next hid =>
      have hlt : chunkIdOf buf < 64 := by
        unfold maxChunkId at hid
        omega
      cases hp : chunkHeader c (chunkFmt buf) (chunkIdOf buf) buf datalen with
      | ret r c' =>
        rw [hp] at hf
        obtain ⟨hk, ⟨rfl, hd⟩ | rfl⟩ := hf
        · exact CallStep.wait c' hk hd
        · exact CallStep.reject c' hk
      | parsed c' chunkInfo hl =>
        rw [hp] at hf
        obtain ⟨hk, hsize, hshort, hinside⟩ := hf
        have hh : HeaderDone c buf datalen c' chunkInfo hl :=
          ⟨hp, hk, hlt, hsize, hshort, hinside⟩
        have hsound := (hs.headerKept hk) (chunkIdOf buf)
        by_cases hd : datalen < ((hl + 1 + chunkLen c' (chunkIdOf buf) chunkInfo : Nat) : Int)
        · dsimp only
          rw [chunkBody_short (leftover_lt hsound hsize) hd]
          exact CallStep.short c' chunkInfo hl hh hd
        · exact CallStep.taken c' chunkInfo hl hh (by omega)
            (bodyStep_chunkBody hsound hsize (by omega))

/-- A chunk longer than the window asks for more bytes. -/
theorem chunkStep_of_span {c : RtmpClient} {buf : Mem} {datalen : Int} {n : Nat}
    (hs : ChunkSound (c.rtmpChunk (chunkIdOf buf))) (hspan : chunkSpan c buf datalen = some n)
    (hn : datalen < n) : ∃ c', chunkStep c buf datalen = .ret 1 c' ∧ HeaderKept c c' := by
  have hf := fine_chunkHeader c (chunkFmt buf) (chunkIdOf buf) buf datalen
  unfold chunkSpan at hspan
  unfold chunkStep
  by_cases h0 : datalen = 0
  · rw [if_pos (Or.inl h0)] at hspan
    cases hspan
  · by_cases hid : maxChunkId ≤ chunkIdOf buf
    · rw [if_pos (Or.inr hid)] at hspan
      cases hspan
    · rw [if_neg (by omega)] at hspan
      rw [if_neg h0, if_neg (by omega)]
      cases hp : chunkHeader c (chunkFmt buf) (chunkIdOf buf) buf datalen with
      | ret r c' =>
        rw [hp] at hspan
        cases hspan
      | parsed c' chunkInfo hl =>
        rw [hp] at hspan hf
        obtain ⟨hk, hsize, -, -⟩ := hf
        injection hspan with hspan
        subst hspan
        obtain ⟨b, hb⟩ := hk.chunk (chunkIdOf buf)
        have hsound : ChunkSound (c'.rtmpChunk (chunkIdOf buf)) := by
          rw [hb]
          exact ⟨hs.last, hs.buf, hs.pos, hs.size, hs.room⟩
        exact ⟨c', chunkBody_short (leftover_lt hsound hsize) hn, hk⟩

/-- A handler keeps the invariant: the message it is given is complete. -/
theorem Delivered.sound {c c' : RtmpClient} {chunkId : Nat} {data : MessageData} {dataLen : Int}
    {buf buf' : Mem} {ret : Except Fault Int}
    (h : Delivered c chunkId data dataLen buf ret c' buf') (hs : Sound c)
    (hlast : (c.rtmpChunk chunkId).lastMessageSize = 0) : Sound c' := by
  intro i
  by_cases hi : i = chunkId
  · subst hi
    obtain ⟨b, hb⟩ := h.same
    rw [hb]
    exact chunkSound_of_last hlast
  · rw [h.other i hi]
    exact hs i

end RtmpRecv.Client
