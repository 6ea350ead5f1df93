import RtmpRecv.Client.Progress

/-!
# The bytes a message lacks

Library `Client`. In every state that is reached, `last_message_size` counts the bytes that the
open message of a chunk stream lacks, and `message_buf` has room for them. A chunk takes as many
of them as `rtmp_chunk_max_size` allows, which is none once a server has set it to zero.
-/

namespace RtmpRecv.Client
open RtmpRecv.Base

/-- The chunk stream keeps what has come of its message in a buffer that holds all of it. -/
structure Assembles (k : RtmpChunk) : Prop where
  buf : k.messageBuf.isSome
  pos : k.messageBufPos + k.lastMessageSize = k.messageSize
  room : k.messageSize < k.messageBufLen

theorem lt_newMessageBufLen {n : Nat} (h : n < 16777216) : n < newMessageBufLen n := by
  unfold newMessageBufLen
  omega

theorem ChunkSound.assembles {k : RtmpChunk} (h : ChunkSound k) (hlast : 0 < k.lastMessageSize) :
    Assembles k := by
  have hne : k.lastMessageSize ≠ 0 := by omega
  constructor
  · exact h.buf hne
  · exact h.pos hne
  · rw [h.room hne]
    exact lt_newMessageBufLen (h.size hne)

/-! ### One call -/

/-- The chunk stream of the call. -/
def ChunkCall.chunkId (call : ChunkCall) : Nat := chunkIdOf call.bufdata

/-- The call consumes a chunk. -/
def ChunkCall.Consumes (call : ChunkCall) : Prop :=
  call.after.mIParsePos ≠ call.client.mIParsePos

instance (call : ChunkCall) : Decidable call.Consumes :=
  inferInstanceAs (Decidable (_ ≠ _))

/-- The bytes that the message of the chunk lacks before the call; a message that starts lacks
all of its bytes. -/
def ChunkCall.remaining (call : ChunkCall) : Nat :=
  if (call.client.rtmpChunk call.chunkId).lastMessageSize = 0 then
    (call.after.rtmpChunk call.chunkId).messageSize
  else (call.client.rtmpChunk call.chunkId).lastMessageSize

/-- The call hands the message of its chunk stream to a handler. -/
def ChunkCall.Delivers (call : ChunkCall) : Prop :=
  ∃ c data dataLen, chunkStep call.client call.bufdata call.datalen =
    .message c call.chunkId data dataLen

/-- The call consumes a chunk whose body has `n` bytes. -/
structure ChunkCall.TakesBody (call : ChunkCall) (n : Nat) : Prop where
  chunkId : call.chunkId < maxChunkId
  moved : ∃ hl : Nat, hl ≤ 15 ∧
    call.after.mIParsePos = call.client.mIParsePos + (hl + 1 + n : Nat)
  length : n = min call.client.rtmpChunkMaxSize call.remaining
  last : (call.after.rtmpChunk call.chunkId).lastMessageSize + n = call.remaining
  size : (call.client.rtmpChunk call.chunkId).lastMessageSize ≠ 0 →
    (call.after.rtmpChunk call.chunkId).messageSize =
      (call.client.rtmpChunk call.chunkId).messageSize
  delivers : call.Delivers ↔ (call.after.rtmpChunk call.chunkId).lastMessageSize = 0
  other : ∀ i, i ≠ call.chunkId → (call.after.rtmpChunk i).lastMessageSize =
      (call.client.rtmpChunk i).lastMessageSize ∧
    (call.after.rtmpChunk i).messageSize = (call.client.rtmpChunk i).messageSize

/-- The call leaves the sizes of all chunk streams. -/
def ChunkCall.KeepsSizes (call : ChunkCall) : Prop :=
  ∀ i, (call.after.rtmpChunk i).lastMessageSize = (call.client.rtmpChunk i).lastMessageSize ∧
    (call.after.rtmpChunk i).messageSize = (call.client.rtmpChunk i).messageSize

private theorem HeaderKept.sizes {c c' : RtmpClient} (h : HeaderKept c c') (i : Nat) :
    (c'.rtmpChunk i).lastMessageSize = (c.rtmpChunk i).lastMessageSize ∧
      (c'.rtmpChunk i).messageSize = (c.rtmpChunk i).messageSize := by
  obtain ⟨b, hb⟩ := h.chunk i
  rw [hb]
  exact ⟨rfl, rfl⟩

private theorem advanced_chunk (c : RtmpClient) (chunkId n : Nat) (k : RtmpChunk) :
    ((c.setChunk chunkId k).advance n).rtmpChunk chunkId = k :=
  RtmpClient.setChunk_same _ _ _

/-- How the sizes of a chunk stream change with a chunk, and when its message is handed over. -/
private theorem BodyStep.sizes {c : RtmpClient} {chunkId hl : Nat} {chunkInfo : RtmpChunk}
    {buf : Mem} {step : ChunkStep} (h : BodyStep c chunkId chunkInfo hl buf step) :
    (step.client.rtmpChunk chunkId).lastMessageSize + chunkLen c chunkId chunkInfo =
        leftover c chunkId chunkInfo ∧
      (step.client.rtmpChunk chunkId).messageSize =
        (if (c.rtmpChunk chunkId).lastMessageSize = 0 then chunkInfo.messageSize
        else (c.rtmpChunk chunkId).messageSize) ∧
      ((∃ c' data dataLen, step = .message c' chunkId data dataLen) ↔
        (step.client.rtmpChunk chunkId).lastMessageSize = 0) := by
  have hlen := chunkLen_eq c chunkId chunkInfo
  have hreturns (c₁ : RtmpClient) (P : Prop) (hP : ¬P) :
      (∃ c' data dataLen, ChunkStep.ret 0 c₁ = .message c' chunkId data dataLen) ↔ P := by
    refine iff_of_false ?_ hP
    rintro ⟨_, _, _, h⟩
    cases h
  unfold leftover at hlen ⊢
  cases h with
  | single hlast hsize =>
    rw [if_pos hlast] at hlen ⊢
    rw [if_pos hlast]
    unfold ChunkStep.client
    dsimp only
    rw [advanced_chunk]
    refine ⟨?_, rfl, iff_of_true ⟨_, _, _, rfl⟩ rfl⟩
    change 0 + _ = _
    omega
  | first hlast hsize =>
    rw [if_pos hlast] at hlen ⊢
    rw [if_pos hlast]
    unfold ChunkStep.client
    dsimp only
    rw [advanced_chunk]
    have hleft : chunkInfo.messageSize - chunkLen c chunkId chunkInfo ≠ 0 := by omega
    simp only [RtmpChunk.copied, RtmpChunk.opened, startMessage, Mem.length_slice]
    exact ⟨by omega, trivial, hreturns _ _ hleft⟩
  | more m hlast hbuf hsize =>
    rw [if_neg hlast] at hlen ⊢
    rw [if_neg hlast]
    unfold ChunkStep.client
    dsimp only
    rw [advanced_chunk]
    have hleft : (c.rtmpChunk chunkId).lastMessageSize - chunkLen c chunkId chunkInfo ≠ 0 := by
      omega
    simp only [RtmpChunk.copied, Mem.length_slice]
    exact ⟨by omega, trivial, hreturns _ _ hleft⟩
  | final m hlast hbuf hsize =>
    rw [if_neg hlast] at hlen ⊢
    rw [if_neg hlast]
    unfold ChunkStep.client
    dsimp only
    rw [advanced_chunk]
    have hleft : (c.rtmpChunk chunkId).lastMessageSize - chunkLen c chunkId chunkInfo = 0 := by
      omega
    simp only [RtmpChunk.copied, Mem.length_slice]
    exact ⟨by omega, trivial, iff_of_true ⟨_, _, _, rfl⟩ hleft⟩

/-- A handler leaves the sizes and `m_iParsePos` as they are. -/
private theorem ChunkCall.after_sizes (call : ChunkCall) (i : Nat) :
    (call.after.rtmpChunk i).lastMessageSize =
        ((chunkStep call.client call.bufdata call.datalen).client.rtmpChunk i).lastMessageSize ∧
      (call.after.rtmpChunk i).messageSize =
        ((chunkStep call.client call.bufdata call.datalen).client.rtmpChunk i).messageSize ∧
      call.after.mIParsePos =
        (chunkStep call.client call.bufdata call.datalen).client.mIParsePos := by
  unfold ChunkCall.after rtmpProcessChunk
  cases chunkStep call.client call.bufdata call.datalen with
  | ret r c => exact ⟨rfl, rfl, rfl⟩
  | fault e c => exact ⟨rfl, rfl, rfl⟩
  | message c chunkId data dataLen =>
    have hdel := delivered_deliver c chunkId data dataLen call.bufdata
    dsimp only [ChunkStep.client]
    rw [hdel.parsePos]
    by_cases hi : i = chunkId
    · subst hi
      obtain ⟨b, hb⟩ := hdel.same
      rw [hb]
      exact ⟨rfl, rfl, rfl⟩
    · rw [hdel.other i hi]
      exact ⟨rfl, rfl, rfl⟩

/-- A call consumes a chunk, or leaves the sizes and `m_iParsePos` as they are. -/
theorem ChunkCall.takesBody_or {call : ChunkCall} (hs : Sound call.client) :
    (∃ n, call.TakesBody n) ∨ call.KeepsSizes ∧ ¬call.Consumes := by
  have hcall := callStep_chunkStep hs call.bufdata call.datalen
  have hafter := call.after_sizes
  have hdelivers : call.Delivers ↔ ∃ c data dataLen,
    chunkStep call.client call.bufdata call.datalen =
      .message c (chunkIdOf call.bufdata) data dataLen := Iff.rfl
  have hkept {c : RtmpClient} (hk : HeaderKept call.client c)
      (h : ∀ i, (call.after.rtmpChunk i).lastMessageSize = (c.rtmpChunk i).lastMessageSize ∧
        (call.after.rtmpChunk i).messageSize = (c.rtmpChunk i).messageSize ∧
        call.after.mIParsePos = c.mIParsePos) : call.KeepsSizes ∧ ¬call.Consumes := by
    constructor
    · intro i
      exact ⟨(h i).1.trans (hk.sizes i).1, (h i).2.1.trans (hk.sizes i).2⟩
    · exact not_not_intro ((h 0).2.2.trans hk.parsePos)
  generalize chunkStep call.client call.bufdata call.datalen = step at hcall hafter hdelivers
  cases hcall with
  | wait c hk _ => exact Or.inr (hkept hk hafter)
  | reject c hk => exact Or.inr (hkept hk hafter)
  | short c chunkInfo hl hh _ => exact Or.inr (hkept hh.kept hafter)
  | taken c chunkInfo hl hh _ hb =>
    left
    obtain ⟨hlast, hsize, hmessage⟩ := hb.sizes
    obtain ⟨hlast', hsize', hpos'⟩ := hafter (chunkIdOf call.bufdata)
    obtain ⟨hbefore, hsame⟩ := hh.kept.sizes (chunkIdOf call.bufdata)
    have hpos := hb.parsePos
    have hremaining : call.remaining = leftover c (chunkIdOf call.bufdata) chunkInfo := by
      unfold ChunkCall.remaining leftover ChunkCall.chunkId
      rw [hsize', hsize, ← hbefore]
      split
      · rfl
      · rfl
    refine ⟨chunkLen c (chunkIdOf call.bufdata) chunkInfo, ?_⟩
    constructor
    · exact hh.chunkId
    · exact ⟨hl, hh.short, by rw [hpos', hpos, hh.kept.parsePos]⟩
    · rw [chunkLen_eq, hh.kept.chunkSize, hremaining]
    · rw [hremaining, ← hlast]
      exact congrArg (· + _) hlast'
    · intro h
      change (call.client.rtmpChunk (chunkIdOf call.bufdata)).lastMessageSize ≠ 0 at h
      change (call.after.rtmpChunk (chunkIdOf call.bufdata)).messageSize = _
      rw [hsize', hsize, if_neg (by rw [hbefore]; exact h)]
      exact hsame
    · rw [hdelivers, hmessage]
      change _ ↔ (call.after.rtmpChunk (chunkIdOf call.bufdata)).lastMessageSize = 0
      rw [hlast']
    · intro i hi
      obtain ⟨hl', hs', -⟩ := hafter i
      rw [hl', hs', hb.other i hi]
      exact hh.kept.sizes i

theorem ChunkCall.takesBody {call : ChunkCall} (hs : Sound call.client) (h : call.Consumes) :
    ∃ n, call.TakesBody n :=
  (call.takesBody_or hs).resolve_right fun hkept ↦ hkept.2 h

theorem ChunkCall.TakesBody.consumes {call : ChunkCall} {n : Nat} (h : call.TakesBody n) :
    call.Consumes := by
  obtain ⟨hl, -, hpos⟩ := h.moved
  unfold ChunkCall.Consumes
  omega

/-- Nothing breaks before a handler runs: no copy passes the end of `message_buf`. -/
theorem chunkStep_not_fault {c : RtmpClient} (hs : Sound c) (buf : Mem) (datalen : Int)
    (e : Fault) (c' : RtmpClient) : chunkStep c buf datalen ≠ .fault e c' := by
  intro h
  have hcall := callStep_chunkStep hs buf datalen
  rw [h] at hcall
  cases hcall with
  | taken _ _ _ _ _ hb => cases hb

/-- In every state that is reached, what has come of a message lies in a buffer with room for all
of it; a chunk takes no more than the message lacks, nothing is copied past the buffer, and the
message is handed over by the chunk that leaves it nothing to lack. -/
theorem rtmpProcessChunk_assembles {u : RtmpClient} (h : (rtmpStartPlay (rtmpClient u)).1 = 0)
    {rtmpUrl rtmpApp rtmpStream : List UInt8} {calls : List ChunkCall} {c : RtmpClient}
    (hc : Reached (playing u rtmpUrl rtmpApp rtmpStream) calls c) :
    (∀ i, 0 < (c.rtmpChunk i).lastMessageSize → Assembles (c.rtmpChunk i)) ∧
      ∀ (buf : Mem) (datalen : Int),
        (∀ e c', chunkStep c buf datalen ≠ .fault e c') ∧
          (ChunkCall.Consumes ⟨c, buf, datalen⟩ →
            ∃ n, ChunkCall.TakesBody ⟨c, buf, datalen⟩ n) := by
  have hs := hc.sound h
  constructor
  · intro i hlast
    exact (hs i).assembles hlast
  · intro buf datalen
    exact ⟨chunkStep_not_fault hs buf datalen, ChunkCall.takesBody hs⟩

/-- The buffers of a client that has received the first four bytes of a message of ten bytes. -/
theorem rtmpProcessChunk_assembles_open :
    let c := openedRun.client
    (c.rtmpChunk 4).lastMessageSize = 6 ∧ Assembles (c.rtmpChunk 4) ∧
      ∀ (buf : Mem) (datalen : Int),
        (∀ e c', chunkStep c buf datalen ≠ .fault e c') ∧
          (ChunkCall.Consumes ⟨c, buf, datalen⟩ →
            ∃ n, ChunkCall.TakesBody ⟨c, buf, datalen⟩ n) := by
  intro c
  have hopen : (c.rtmpChunk 4).lastMessageSize = 6 := by decide +kernel
  have hreached : Reached (playing blankClient (ascii "rtmp://host/live") (ascii "live") [])
      openedRun.calls c := reached_recvRun _ _ _
  obtain ⟨hassembles, hcalls⟩ := rtmpProcessChunk_assembles (by decide) hreached
  have hlacks : 0 < (c.rtmpChunk 4).lastMessageSize := Nat.lt_of_lt_of_eq (by decide) hopen.symm
  exact ⟨hopen, hassembles 4 hlacks, hcalls⟩

/-! ### The chunk size -/

/-- The call handles a Set Chunk Size message with this value. -/
def ChunkCall.SetsChunkSize (call : ChunkCall) (value : Nat) : Prop :=
  ∃ c chunkId data dataLen,
    chunkStep call.client call.bufdata call.datalen = .message c chunkId data dataLen ∧
      (c.rtmpChunk chunkId).messageType = 0x01 ∧
      be32 (data.mem call.bufdata 0) (data.mem call.bufdata 1) (data.mem call.bufdata 2)
        (data.mem call.bufdata 3) = value

/-- The chunk size behind a message. -/
private theorem chunkSize_deliver (c : RtmpClient) (chunkId : Nat) (data : MessageData)
    (dataLen : Int) (buf : Mem) :
    (deliver c chunkId data dataLen buf).2.1.rtmpChunkMaxSize =
      chunkSizeAfter c (c.rtmpChunk chunkId) (data.mem buf) := by
  unfold deliver
  cases hrun : handlerRun c chunkId data dataLen buf with
  | mk r m =>
    cases r with
    | error e =>
      unfold chunkSizeAfter
      rw [if_neg]
      intro ht
      unfold handlerRun at hrun
      rw [run_setChunkSize _ _ _ _ ht] at hrun
      cases hrun
    | ok r =>
      obtain ⟨ret, c'⟩ := r
      obtain ⟨-, hk⟩ := handlerRun_ok _ _ _ _ _ _ _ _ hrun
      cases data with
      | window off => exact hk.chunkSize
      | messageBuf b => exact hk.chunkSize

/-- A chunk leaves the chunk size as it is. -/
private theorem chunkSize_chunkStep {c : RtmpClient} (hs : Sound c) (buf : Mem) (datalen : Int) :
    (chunkStep c buf datalen).client.rtmpChunkMaxSize = c.rtmpChunkMaxSize := by
  have hcall := callStep_chunkStep hs buf datalen
  generalize chunkStep c buf datalen = step at hcall
  cases hcall with
  | wait c' hk _ => exact hk.chunkSize
  | reject c' hk => exact hk.chunkSize
  | short c' chunkInfo hl hh _ => exact hh.kept.chunkSize
  | taken c' chunkInfo hl hh _ hb =>
    rw [← hh.kept.chunkSize]
    cases hb with
    | single _ _ => rfl
    | first _ _ => rfl
    | more _ _ _ _ => rfl
    | final _ _ _ _ => rfl

/-- A call sets the chunk size to the value of a Set Chunk Size message, or leaves it. -/
theorem ChunkCall.chunkSize_after {call : ChunkCall} (hs : Sound call.client) :
    (∃ value, call.SetsChunkSize value) ∧
        (∀ value, call.SetsChunkSize value → call.after.rtmpChunkMaxSize = value) ∨
      (∀ value, ¬call.SetsChunkSize value) ∧
        call.after.rtmpChunkMaxSize = call.client.rtmpChunkMaxSize := by
  have hsize := chunkSize_chunkStep hs call.bufdata call.datalen
  unfold ChunkCall.SetsChunkSize ChunkCall.after rtmpProcessChunk
  cases hstep : chunkStep call.client call.bufdata call.datalen with
  | ret r c =>
    rw [hstep] at hsize
    exact Or.inr ⟨fun _ ⟨_, _, _, _, h, _⟩ ↦ (nomatch h), hsize⟩
  | fault e c =>
    rw [hstep] at hsize
    exact Or.inr ⟨fun _ ⟨_, _, _, _, h, _⟩ ↦ (nomatch h), hsize⟩
  | message c chunkId data dataLen =>
    rw [hstep] at hsize
    dsimp only
    rw [chunkSize_deliver]
    unfold chunkSizeAfter
    by_cases ht : (c.rtmpChunk chunkId).messageType = 0x01
    · left
      rw [if_pos ht]
      refine ⟨⟨_, c, chunkId, data, dataLen, rfl, ht, rfl⟩, fun value hvalue ↦ ?_⟩
      obtain ⟨_, _, _, _, h, -, hvalue⟩ := hvalue
      cases h
      exact hvalue
    · right
      rw [if_neg ht]
      refine ⟨fun value hvalue ↦ ?_, hsize⟩
      obtain ⟨_, _, _, _, h, ht', -⟩ := hvalue
      cases h
      exact ht ht'

/-- The chunks consumed so far of the latest message of the chunk stream. -/
def messageChunks (chunkId : Nat) (calls : List ChunkCall) : Nat :=
  calls.foldl (fun n call ↦
    if call.chunkId = chunkId ∧ call.Consumes then
      if (call.client.rtmpChunk chunkId).lastMessageSize = 0 then 1 else n + 1
    else n) 0

theorem messageChunks_snoc (chunkId : Nat) (calls : List ChunkCall) (call : ChunkCall) :
    messageChunks chunkId (calls ++ [call]) =
      if call.chunkId = chunkId ∧ call.Consumes then
        if (call.client.rtmpChunk chunkId).lastMessageSize = 0 then 1
        else messageChunks chunkId calls + 1
      else messageChunks chunkId calls :=
  List.foldl_concat _ _ _ _

/-- Every chunk of a message with bytes to come carries some of them, and no message has more
chunks than bytes. -/
structure Shortens (calls : List ChunkCall) (c : RtmpClient) : Prop where
  chunkSize : 1 ≤ c.rtmpChunkMaxSize
  before : ∀ call ∈ calls, 1 ≤ call.client.rtmpChunkMaxSize
  carries : ∀ call ∈ calls, call.Consumes → 0 < call.remaining →
    ∃ n, 1 ≤ n ∧ call.TakesBody n ∧
      (call.after.rtmpChunk call.chunkId).lastMessageSize < call.remaining
  chunks : ∀ i, 0 < (c.rtmpChunk i).messageSize →
    messageChunks i calls + (c.rtmpChunk i).lastMessageSize ≤ (c.rtmpChunk i).messageSize

/-- A chunk carries bytes as long as the chunk size is not zero. -/
private theorem ChunkCall.carries {call : ChunkCall} (hs : Sound call.client)
    (hsize : 1 ≤ call.client.rtmpChunkMaxSize) (hc : call.Consumes) (hr : 0 < call.remaining) :
    ∃ n, 1 ≤ n ∧ call.TakesBody n ∧
      (call.after.rtmpChunk call.chunkId).lastMessageSize < call.remaining := by
  obtain ⟨n, hn⟩ := call.takesBody hs hc
  have hlen := hn.length
  have hlast := hn.last
  exact ⟨n, by omega, hn, by omega⟩

/-- A call keeps the bound on the chunks of a message. -/
private theorem chunks_snoc {calls : List ChunkCall} {call : ChunkCall} (hs : Sound call.client)
    (hsize : 1 ≤ call.client.rtmpChunkMaxSize)
    (h : ∀ i, 0 < (call.client.rtmpChunk i).messageSize →
      messageChunks i calls + (call.client.rtmpChunk i).lastMessageSize ≤
        (call.client.rtmpChunk i).messageSize) (i : Nat)
    (hi : 0 < (call.after.rtmpChunk i).messageSize) :
    messageChunks i (calls ++ [call]) + (call.after.rtmpChunk i).lastMessageSize ≤
      (call.after.rtmpChunk i).messageSize := by
  rw [messageChunks_snoc]
  by_cases hmine : call.chunkId = i ∧ call.Consumes
  · obtain ⟨rfl, hc⟩ := hmine
    obtain ⟨n, hn⟩ := call.takesBody hs hc
    have hlen := hn.length
    have hlast := hn.last
    have hpos := (hs call.chunkId).pos
    rw [if_pos ⟨rfl, hc⟩]
    unfold ChunkCall.remaining at hlen hlast
    by_cases h0 : (call.client.rtmpChunk call.chunkId).lastMessageSize = 0
    · rw [if_pos h0] at hlen hlast ⊢
      omega
    · have hsame := hn.size h0
      have hbound := h call.chunkId (by omega)
      rw [if_neg h0] at hlen hlast ⊢
      omega
  · rw [if_neg hmine]
    have hkept : (call.after.rtmpChunk i).lastMessageSize =
          (call.client.rtmpChunk i).lastMessageSize ∧
        (call.after.rtmpChunk i).messageSize = (call.client.rtmpChunk i).messageSize := by
      rcases call.takesBody_or hs with ⟨n, hn⟩ | ⟨hkept, -⟩
      · exact hn.other i fun hi ↦ hmine ⟨hi.symm, hn.consumes⟩
      · exact hkept i
    rw [hkept.1, hkept.2]
    rw [hkept.2] at hi
    exact h i hi

private theorem chunkSize_sendC2 (c : RtmpClient) :
    (rtmpSendToServerC2 c).2.rtmpChunkMaxSize = c.rtmpChunkMaxSize := by
  unfold rtmpSendToServerC2
  dsimp only [RtmpClient.time, RtmpClient.send]
  split
  · rfl
  · rfl

private theorem chunkSize_sendConnect (c : RtmpClient) :
    (rtmpSendToServerConnect c).2.rtmpChunkMaxSize = c.rtmpChunkMaxSize := by
  unfold rtmpSendToServerConnect
  dsimp only [RtmpClient.send]
  split
  · rfl
  · rfl

section

variable {c₀ : RtmpClient} {calls : List ChunkCall} {c : RtmpClient}

/-- The chunk size is at least one in every state up to this one. -/
def ChunkSizes (calls : List ChunkCall) (c : RtmpClient) : Prop :=
  1 ≤ c.rtmpChunkMaxSize ∧ ∀ call ∈ calls, 1 ≤ call.client.rtmpChunkMaxSize

private theorem chunkSizes_iff (hs : Sound c₀) (h0 : 1 ≤ c₀.rtmpChunkMaxSize)
    (hc : Reached c₀ calls c) :
    ChunkSizes calls c ↔ ∀ call ∈ calls, ¬call.SetsChunkSize 0 := by
  induction hc with
  | start => exact iff_of_true ⟨h0, fun _ h ↦ nomatch h⟩ fun _ h ↦ nomatch h
  | rewound _ ih => exact ih
  | answer _ _ ih =>
    unfold ChunkSizes at ih ⊢
    rw [chunkSize_sendC2]
    exact ih
  | connect _ _ ih =>
    unfold ChunkSizes at ih ⊢
    rw [chunkSize_sendConnect]
    exact ih
  | @call calls call hc ih =>
    have hsound : Sound call.client := keptByTrace_sound.reached hs hc
    unfold ChunkSizes at ih ⊢
    simp only [List.forall_mem_append, List.forall_mem_singleton]
    rcases call.chunkSize_after hsound with ⟨⟨value, hvalue⟩, hset⟩ | ⟨hnot, hsame⟩
    · rw [hset value hvalue, ← ih]
      constructor
      · rintro ⟨hlow, hbefore, hnow⟩
        refine ⟨⟨hnow, hbefore⟩, fun h0 ↦ ?_⟩
        have hzero := hset 0 h0
        rw [hset value hvalue] at hzero
        omega
      · rintro ⟨⟨hnow, hbefore⟩, hne⟩
        refine ⟨?_, hbefore, hnow⟩
        by_contra hlow
        have hzero : value = 0 := by omega
        exact hne (hzero ▸ hvalue)
    · rw [hsame, ← ih]
      constructor
      · rintro ⟨-, hbefore, hnow⟩
        exact ⟨⟨hnow, hbefore⟩, hnot 0⟩
      · rintro ⟨⟨hnow, hbefore⟩, -⟩
        exact ⟨hnow, hbefore, hnow⟩

private theorem chunks_reached (hs : Sound c₀) (h0 : ∀ i, (c₀.rtmpChunk i).messageSize = 0)
    (hc : Reached c₀ calls c) (hsizes : ChunkSizes calls c) (i : Nat)
    (hi : 0 < (c.rtmpChunk i).messageSize) :
    messageChunks i calls + (c.rtmpChunk i).lastMessageSize ≤ (c.rtmpChunk i).messageSize := by
  induction hc generalizing i with
  | start =>
    have h := h0 i
    omega
  | rewound _ ih => exact ih hsizes i hi
  | answer _ _ ih =>
    unfold ChunkSizes at hsizes
    rw [chunkSize_sendC2] at hsizes
    rw [(sendC2_cases _).1.chunk] at hi ⊢
    exact ih hsizes i hi
  | connect _ _ ih =>
    unfold ChunkSizes at hsizes
    rw [chunkSize_sendConnect] at hsizes
    rw [(sendConnect_cases _).1.chunk] at hi ⊢
    exact ih hsizes i hi
  | @call calls call hc ih =>
    have hsound : Sound call.client := keptByTrace_sound.reached hs hc
    obtain ⟨hnow, hbefore⟩ := hsizes
    rw [List.forall_mem_append, List.forall_mem_singleton] at hbefore
    exact chunks_snoc hsound hbefore.2 (ih ⟨hbefore.2, hbefore.1⟩) i hi

private theorem sound_calls_reached (hs : Sound c₀) (hc : Reached c₀ calls c) :
    ∀ call ∈ calls, Sound call.client := by
  induction hc with
  | start => exact fun _ h ↦ nomatch h
  | rewound _ ih => exact ih
  | answer _ _ ih => exact ih
  | connect _ _ ih => exact ih
  | call call hc ih =>
    rw [List.forall_mem_append, List.forall_mem_singleton]
    exact ⟨ih, keptByTrace_sound.reached hs hc⟩

private theorem shortens_iff (hs : Sound c₀) (hsize : 1 ≤ c₀.rtmpChunkMaxSize)
    (h0 : ∀ i, (c₀.rtmpChunk i).messageSize = 0) (hc : Reached c₀ calls c) :
    Shortens calls c ↔ ∀ call ∈ calls, ¬call.SetsChunkSize 0 := by
  rw [← chunkSizes_iff hs hsize hc]
  constructor
  · intro h
    exact ⟨h.chunkSize, h.before⟩
  · intro h
    constructor
    · exact h.1
    · exact h.2
    · intro call hcall
      exact call.carries (sound_calls_reached hs hc call hcall) (h.2 call hcall)
    · exact chunks_reached hs h0 hc h

end

/-- What `rtmp_start_play` leaves of the parser. -/
private theorem parser_playing {u : RtmpClient} (h : (rtmpStartPlay (rtmpClient u)).1 = 0)
    (rtmpUrl rtmpApp rtmpStream : List UInt8) :
    (playing u rtmpUrl rtmpApp rtmpStream).rtmpChunkMaxSize = 128 ∧
      ∀ i, ((playing u rtmpUrl rtmpApp rtmpStream).rtmpChunk i).messageSize = 0 := by
  have hstart := rtmpStartPlay_eq ((rtmpStartPlay_newClient u rtmpUrl rtmpApp rtmpStream).trans h)
  have hsize (c : RtmpClient) :
      (rtmpSendToServerC0C1 c).2.rtmpChunkMaxSize = c.rtmpChunkMaxSize := by
    unfold rtmpSendToServerC0C1
    dsimp only [RtmpClient.time, RtmpClient.send]
    split
    · rfl
    · rfl
  unfold playing
  rw [hstart]
  constructor
  · rw [hsize]
  · intro i
    rw [(sendC0C1_cases _).1.chunk]
    rfl

/-- In every run, every chunk shortens its message if and only if no Set Chunk Size message has the
value zero. -/
theorem rtmpProcessChunk_shortens {u : RtmpClient} (h : (rtmpStartPlay (rtmpClient u)).1 = 0)
    {rtmpUrl rtmpApp rtmpStream : List UInt8} {calls : List ChunkCall} {c : RtmpClient}
    (hc : Reached (playing u rtmpUrl rtmpApp rtmpStream) calls c) :
    Shortens calls c ↔ ∀ call ∈ calls, ¬call.SetsChunkSize 0 := by
  obtain ⟨hsize, hzero⟩ := parser_playing h rtmpUrl rtmpApp rtmpStream
  have hs : Sound (playing u rtmpUrl rtmpApp rtmpStream) :=
    (fresh_playing h rtmpUrl rtmpApp rtmpStream).sound
  exact shortens_iff hs (by omega) hzero hc

/-- The chunks of a client that receives two audio messages. -/
theorem rtmpProcessChunk_shortens_audio :
    let s := recvRun (rtmpRecvData (playing blankClient [] [] []) fun _ ↦ 0)
      [zeroHandshake, audioChunks]
    Shortens s.calls s.client ↔ ∀ call ∈ s.calls, ¬call.SetsChunkSize 0 :=
  rtmpProcessChunk_shortens (by decide) (reached_recvRun _ _ _)

/-- A Set Chunk Size message with the value zero, and the first chunk of a message of five bytes. -/
def zeroSizeChunks : List UInt8 :=
  [2, 0, 0, 0, 0, 0, 4, 1, 0, 0, 0, 0, 0, 0, 0, 0,
    4, 0, 0, 0, 0, 0, 5, 9, 0, 0, 0, 0, 0xff, 1, 2, 3, 4]

/-- A server that sets the chunk size to zero: the next chunk carries no byte of its message. Of
the bytes behind it, `ff` is taken for the header of an empty message on chunk stream 63, and the
header `01` that follows is rejected. -/
theorem rtmpProcessChunk_stalls :
    let s := recvRun (rtmpRecvData (playing blankClient [] [] []) fun _ ↦ 0)
      [zeroHandshake, zeroSizeChunks]
    Reached (playing blankClient [] [] []) s.calls s.client ∧ s.client.rtmpChunkMaxSize = 0 ∧
      s.running = false ∧
      ∃ call ∈ s.calls, call.Consumes ∧ 0 < call.remaining ∧
        (call.after.rtmpChunk call.chunkId).lastMessageSize = call.remaining := by
  intro s
  refine ⟨reached_recvRun _ _ _, ?_⟩
  decide +kernel

end RtmpRecv.Client
