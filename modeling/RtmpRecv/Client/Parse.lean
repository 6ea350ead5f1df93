import RtmpRecv.Client.Frame
import RtmpRecv.Wire.Chunks

/-!
# What the chunk parser does

Library `Client`. One specification for each part of `rtmp_process_chunk`: the basic header,
the three ways the body of a chunk is taken, and the call of the handler.
-/

namespace RtmpRecv.Client
open RtmpRecv.Base

/-! ### Basic header -/

private theorem basicHeader_bits : ∀ fmt : Fin 4, ∀ chunkId : Fin 64,
    ((Wire.basicHeader fmt chunkId &&& 0xc0) >>> 6).toNat = fmt ∧
      (Wire.basicHeader fmt chunkId &&& 0x3f).toNat = chunkId := by
  decide

/-- A one-byte basic header leads to the `switch` over its format. -/
theorem chunkStep_basicHeader (c : RtmpClient) (buf : Mem) (datalen : Int) (fmt chunkId : Nat)
    (hb : buf 0 = Wire.basicHeader fmt chunkId) (hf : fmt < 4) (hlo : 2 ≤ chunkId)
    (hhi : chunkId < 64) (hd : 0 < datalen) :
    chunkStep c buf datalen =
      match chunkHeader c fmt chunkId buf datalen with
      | .ret r c => .ret r c
      | .parsed c chunkInfo chunkHeaderLen =>
        chunkBody c chunkId chunkInfo chunkHeaderLen buf datalen := by
  obtain ⟨h1, h2⟩ := basicHeader_bits ⟨fmt, hf⟩ ⟨chunkId, hhi⟩
  have h0 : chunkId ≠ 0 := by omega
  have h1' : chunkId ≠ 1 := by omega
  have hfmt : chunkFmt buf = fmt := by
    unfold chunkFmt
    rw [hb]
    exact h1
  have hid : chunkIdOf buf = chunkId := by
    unfold chunkIdOf
    rw [hb]
    dsimp only at h2 ⊢
    rw [h2, if_neg h0, if_neg h1']
  have hmax : ¬chunkId ≥ maxChunkId := by unfold maxChunkId; omega
  unfold chunkStep
  rw [if_neg (by omega), hfmt, hid]
  exact if_neg hmax

/-! ### Bodies -/

/-- The client `n` bytes further on in the window. -/
def RtmpClient.advance (c : RtmpClient) (n : Nat) : RtmpClient :=
  { c with mIParsePos := c.mIParsePos + n }

/-- The chunk stream with `bytes` appended to the message in `messageBuf`. -/
def RtmpChunk.copied (chunk : RtmpChunk) (messageBuf : Mem) (bytes : List UInt8) : RtmpChunk :=
  { chunk with
    messageBuf := some (messageBuf.memcpy chunk.messageBufPos bytes)
    messageBufPos := chunk.messageBufPos + bytes.length
    lastMessageSize := chunk.lastMessageSize - bytes.length }

/-- The chunk stream with a fresh `message_buf` for the message of `chunkInfo`. -/
def RtmpChunk.opened (chunk chunkInfo : RtmpChunk) (messageBuf : Mem) : RtmpChunk :=
  { startMessage chunk chunkInfo with
    messageBuf := some messageBuf
    messageBufPos := 0
    messageBufLen := newMessageBufLen chunkInfo.messageSize }

theorem sub32_of_le {a b : Nat} (h : b ≤ a) (ha : a < 4294967296) : sub32 a b = a - b := by
  unfold sub32
  rw [Nat.mod_eq_of_lt (by omega : b < 4294967296)]
  omega

/-- A new `message_buf` has room for its message. -/
theorem le_newMessageBufLen {n : Nat} (h : n < 16777216) : n ≤ newMessageBufLen n := by
  unfold newMessageBufLen
  omega

/-- The two ways a copy to `message_buf` ends. -/
theorem copyBody_eq (c : RtmpClient) (chunkId : Nat) (buf : Mem) (off len : Nat) (m : Mem)
    (hm : (c.rtmpChunk chunkId).messageBuf = some m)
    (hroom : (c.rtmpChunk chunkId).messageBufPos + len ≤ (c.rtmpChunk chunkId).messageBufLen)
    (hlen : len ≤ (c.rtmpChunk chunkId).lastMessageSize)
    (hlast : (c.rtmpChunk chunkId).lastMessageSize < 16777216) :
    copyBody c chunkId buf off len =
      (let chunk := (c.rtmpChunk chunkId).copied m (buf.slice off len)
      let c' := (c.setChunk chunkId chunk).advance (off + len)
      if (c.rtmpChunk chunkId).messageBufPos + len < (c.rtmpChunk chunkId).messageSize then
        .ret 0 c'
      else .message c' chunkId
        (.messageBuf (m.memcpy (c.rtmpChunk chunkId).messageBufPos (buf.slice off len)))
        (toInt32 (c.rtmpChunk chunkId).messageSize)) := by
  unfold copyBody
  simp only [hm]
  rw [if_neg (by omega), sub32_of_le hlen (by omega)]
  simp only [RtmpChunk.copied, Mem.length_slice, RtmpClient.advance]
  rfl

/-- A message that fits one chunk goes to the handler at once. -/
theorem chunkBody_single (c : RtmpClient) (chunkId : Nat) (chunkInfo : RtmpChunk) (hl : Nat)
    (buf : Mem) (datalen : Int) (hlast : (c.rtmpChunk chunkId).lastMessageSize = 0)
    (hsize : chunkInfo.messageSize ≤ c.rtmpChunkMaxSize)
    (hlt : chunkInfo.messageSize < 16777216)
    (hd : ((hl + 1 + chunkInfo.messageSize : Nat) : Int) ≤ datalen) :
    chunkBody c chunkId chunkInfo hl buf datalen =
      .message ((c.setChunk chunkId
          { startMessage (c.rtmpChunk chunkId) chunkInfo with lastMessageSize := 0 }).advance
            (hl + 1 + chunkInfo.messageSize))
        chunkId (.window (hl + 1)) chunkInfo.messageSize := by
  have hlen : chunkLen c chunkId chunkInfo = chunkInfo.messageSize := by
    unfold chunkLen
    rw [hlast]
    simp only [if_pos]
    split <;> omega
  have hint := toInt32_of_lt chunkInfo.messageSize (by omega)
  have hsub : sub32 (startMessage (c.rtmpChunk chunkId) chunkInfo).lastMessageSize
      chunkInfo.messageSize = 0 := by
    change sub32 chunkInfo.messageSize chunkInfo.messageSize = 0
    rw [sub32_of_le (Nat.le_refl _) (by omega), Nat.sub_self]
  unfold chunkBody
  simp only [hlen, hint]
  rw [if_neg (by omega), if_neg (by omega), if_pos hlast, if_pos trivial, hsub]
  rfl

/-- The first chunk of a longer message is kept in a new `message_buf`. -/
theorem chunkBody_first (c : RtmpClient) (chunkId : Nat) (chunkInfo : RtmpChunk) (hl : Nat)
    (buf : Mem) (datalen : Int) (hlast : (c.rtmpChunk chunkId).lastMessageSize = 0)
    (hsize : c.rtmpChunkMaxSize < chunkInfo.messageSize)
    (hlt : chunkInfo.messageSize < 16777216)
    (hd : ((hl + 1 + c.rtmpChunkMaxSize : Nat) : Int) ≤ datalen) :
    chunkBody c chunkId chunkInfo hl buf datalen =
      .ret 0 ((c.newBuffer.2.setChunk chunkId
        (((c.rtmpChunk chunkId).opened chunkInfo c.newBuffer.1).copied c.newBuffer.1
          (buf.slice (hl + 1) c.rtmpChunkMaxSize))).advance (hl + 1 + c.rtmpChunkMaxSize)) := by
  have hlen : chunkLen c chunkId chunkInfo = c.rtmpChunkMaxSize := by
    unfold chunkLen
    rw [hlast]
    simp only [if_pos]
    split <;> omega
  have hint := toInt32_of_lt c.rtmpChunkMaxSize (by omega)
  have hroom := le_newMessageBufLen hlt
  unfold chunkBody
  simp only [hlen, hint]
  rw [if_neg (by omega), if_neg (by omega), if_pos hlast, if_neg (by omega)]
  have hopen : ((c.newBuffer.2.setChunk chunkId
      ((c.rtmpChunk chunkId).opened chunkInfo c.newBuffer.1)).rtmpChunk chunkId) =
      (c.rtmpChunk chunkId).opened chunkInfo c.newBuffer.1 := RtmpClient.setChunk_same _ _ _
  change copyBody (c.newBuffer.2.setChunk chunkId
    ((c.rtmpChunk chunkId).opened chunkInfo c.newBuffer.1)) chunkId buf (hl + 1)
      c.rtmpChunkMaxSize = _
  rw [copyBody_eq _ _ _ _ _ c.newBuffer.1 (by rw [hopen]; rfl)]
  · simp only [hopen]
    rw [if_pos]
    · rw [RtmpClient.setChunk_setChunk]
    · change 0 + c.rtmpChunkMaxSize < chunkInfo.messageSize
      omega
  · rw [hopen]
    change 0 + c.rtmpChunkMaxSize ≤ newMessageBufLen chunkInfo.messageSize
    omega
  · rw [hopen]
    exact Nat.le_of_lt hsize
  · rw [hopen]
    exact hlt

/-- A further chunk of an open message is appended to it. -/
theorem chunkBody_more (c : RtmpClient) (chunkId : Nat) (chunkInfo : RtmpChunk) (hl : Nat)
    (buf : Mem) (datalen : Int) (hlast : (c.rtmpChunk chunkId).lastMessageSize ≠ 0)
    (hlt : (c.rtmpChunk chunkId).lastMessageSize < 16777216)
    (hd : ((hl + 1 + min c.rtmpChunkMaxSize (c.rtmpChunk chunkId).lastMessageSize : Nat) : Int)
      ≤ datalen) :
    chunkBody c chunkId chunkInfo hl buf datalen =
      copyBody c chunkId buf (hl + 1)
        (min c.rtmpChunkMaxSize (c.rtmpChunk chunkId).lastMessageSize) := by
  have hlen : chunkLen c chunkId chunkInfo =
      min c.rtmpChunkMaxSize (c.rtmpChunk chunkId).lastMessageSize := by
    unfold chunkLen
    simp only [if_neg hlast]
    split <;> omega
  have hint := toInt32_of_lt (min c.rtmpChunkMaxSize (c.rtmpChunk chunkId).lastMessageSize)
    (by omega)
  unfold chunkBody
  simp only [hlen, hint]
  rw [if_neg (by omega), if_neg (by omega), if_neg hlast]

/-! ### Calls of the handler -/

/-- The offset in the window from which on a message does not lie. -/
def MessageData.windowEnd (dataLen : Int) : MessageData → Nat
  | .window off => off + dataLen.toNat
  | .messageBuf _ => 0

/-- The chunk size after a message: a Set Chunk Size message brings a new one. -/
def chunkSizeAfter (c : RtmpClient) (chunk : RtmpChunk) (m : Mem) : Nat :=
  if chunk.messageType = 1 then be32 (m 0) (m 1) (m 2) (m 3) else c.rtmpChunkMaxSize

/-- What the call of a handler leaves behind: the call is recorded, the parser's fields stay,
except for the chunk size and the bytes of the message, and the result is the handler's. -/
structure Delivered (c : RtmpClient) (chunkId : Nat) (data : MessageData) (dataLen : Int)
    (buf : Mem) (ret : Except Fault Int) (c' : RtmpClient) (buf' : Mem) : Prop where
  messages : c'.rtmpMessages = c.rtmpMessages ++ [messageOf c chunkId data dataLen buf]
  parsePos : c'.mIParsePos = c.mIParsePos
  audio : c'.rtmpLastAudioTimestamp = c.rtmpLastAudioTimestamp
  video : c'.rtmpLastVideoTimestamp = c.rtmpLastVideoTimestamp
  lastType : c'.rtmpLastMessageType = c.rtmpLastMessageType
  other : ∀ i, i ≠ chunkId → c'.rtmpChunk i = c.rtmpChunk i
  same : ∃ b, c'.rtmpChunk chunkId = { c.rtmpChunk chunkId with messageBuf := b }
  chunkSize : ret = .ok 0 →
    c'.rtmpChunkMaxSize = chunkSizeAfter c (c.rtmpChunk chunkId) (data.mem buf)
  status : StatusFrom c c'
  mem : ∀ i, data.windowEnd dataLen ≤ i → buf' i = buf i
  handler : ret = (handlerRun c chunkId data dataLen buf).1.map Prod.fst
  result : ∀ r, ret = .ok r → r = 0 ∨ r = -1

private theorem splice_window (c : RtmpClient) (chunkId : Nat) (off : Nat) (dataLen : Int)
    (buf : Mem) (i : Nat) (h : off + dataLen.toNat ≤ i) :
    buf.splice off (handlerRun c chunkId (.window off) dataLen buf).2 i = buf i := by
  obtain ⟨k, rfl⟩ := Nat.exists_eq_add_of_le (by omega : off ≤ i)
  unfold handlerRun
  rw [Mem.splice_back, keepsFrom_processMessage _ _ dataLen _ k (by omega)]
  rfl

/-- What a handler that returns has done to the fields of the parser. -/
structure HandlerKept (c c' : RtmpClient) (message : RtmpMessage) (chunkSize : Nat) : Prop where
  messages : c'.rtmpMessages = c.rtmpMessages ++ [message]
  parsePos : c'.mIParsePos = c.mIParsePos
  audio : c'.rtmpLastAudioTimestamp = c.rtmpLastAudioTimestamp
  video : c'.rtmpLastVideoTimestamp = c.rtmpLastVideoTimestamp
  lastType : c'.rtmpLastMessageType = c.rtmpLastMessageType
  chunk : c'.rtmpChunk = c.rtmpChunk
  chunkSize : c'.rtmpChunkMaxSize = chunkSize
  status : StatusFrom c c'

private theorem HandlerKept.of_withParser {c c' : RtmpClient} {message : RtmpMessage}
    (hs : StatusFrom c c')
    (h : c' = c'.withParser { c with rtmpMessages := c.rtmpMessages ++ [message] }) :
    HandlerKept c c' message c.rtmpChunkMaxSize :=
  { messages := (congrArg RtmpClient.rtmpMessages h).trans rfl
    parsePos := (congrArg RtmpClient.mIParsePos h).trans rfl
    audio := (congrArg RtmpClient.rtmpLastAudioTimestamp h).trans rfl
    video := (congrArg RtmpClient.rtmpLastVideoTimestamp h).trans rfl
    lastType := (congrArg RtmpClient.rtmpLastMessageType h).trans rfl
    chunk := (congrArg RtmpClient.rtmpChunk h).trans rfl
    chunkSize := (congrArg RtmpClient.rtmpChunkMaxSize h).trans rfl
    status := hs }

theorem handlerRun_ok (c : RtmpClient) (chunkId : Nat) (data : MessageData) (dataLen : Int)
    (buf : Mem) (ret : Int) (c' : RtmpClient) (m : Mem)
    (h : handlerRun c chunkId data dataLen buf = (.ok (ret, c'), m)) :
    (ret = 0 ∨ ret = -1) ∧ HandlerKept c c' (messageOf c chunkId data dataLen buf)
      (chunkSizeAfter c (c.rtmpChunk chunkId) (data.mem buf)) := by
  unfold handlerRun at h
  by_cases ht : (c.rtmpChunk chunkId).messageType = 1
  · rw [run_setChunkSize _ _ _ _ ht] at h
    cases h
    unfold chunkSizeAfter
    rw [if_pos ht]
    exact ⟨Or.inl rfl, rfl, rfl, rfl, rfl, rfl, rfl, rfl, Or.inl rfl⟩
  · obtain ⟨hret, hs, hp⟩ := returns_processMessage _ _ _ ht _ _ _ h
    unfold chunkSizeAfter
    rw [if_neg ht]
    exact ⟨hret, HandlerKept.of_withParser hs hp⟩

theorem delivered_deliver (c : RtmpClient) (chunkId : Nat) (data : MessageData) (dataLen : Int)
    (buf : Mem) :
    Delivered c chunkId data dataLen buf (deliver c chunkId data dataLen buf).1
      (deliver c chunkId data dataLen buf).2.1 (deliver c chunkId data dataLen buf).2.2 := by
  unfold deliver
  cases hrun : handlerRun c chunkId data dataLen buf with
  | mk r m =>
    cases r with
    | error e =>
      exact
        { messages := rfl, parsePos := rfl, audio := rfl, video := rfl, lastType := rfl
          other := fun _ _ ↦ rfl, same := ⟨_, rfl⟩, chunkSize := fun h ↦ by cases h
          status := Or.inl rfl, mem := fun _ _ ↦ rfl, handler := by rw [hrun]; rfl
          result := fun _ h ↦ by cases h }
    | ok r =>
      obtain ⟨ret, c'⟩ := r
      obtain ⟨hret, hk⟩ := handlerRun_ok _ _ _ _ _ _ _ _ hrun
      have hresult : ∀ r, (Except.ok ret : Except Fault Int) = .ok r → r = 0 ∨ r = -1 := by
        intro r hr
        cases hr
        exact hret
      cases data with
      | window off =>
        refine
          { messages := hk.messages, parsePos := hk.parsePos, audio := hk.audio
            video := hk.video, lastType := hk.lastType
            other := fun i _ ↦ congrFun hk.chunk i
            same := ⟨(c.rtmpChunk chunkId).messageBuf, congrFun hk.chunk chunkId⟩
            chunkSize := fun _ ↦ hk.chunkSize, status := hk.status
            mem := ?_, handler := by rw [hrun]; rfl, result := hresult }
        intro i hi
        have hm := splice_window c chunkId off dataLen buf i hi
        rw [hrun] at hm
        exact hm
      | messageBuf b =>
        exact
          { messages := hk.messages, parsePos := hk.parsePos, audio := hk.audio
            video := hk.video, lastType := hk.lastType
            other := fun i hi ↦
              (RtmpClient.setChunk_other _ _ _ _ hi).trans (congrFun hk.chunk i)
            same := ⟨some m, by rw [RtmpClient.setChunk_same, hk.chunk]⟩
            chunkSize := fun _ ↦ hk.chunkSize, status := hk.status
            mem := fun _ _ ↦ rfl, handler := by rw [hrun]; rfl, result := hresult }

/-! ### The inner loop -/

/-- The call ends with the result of the handler that it calls, and the handler did not
succeed. -/
def ChunkCall.HandlerFails (call : ChunkCall) (ret : Except Fault Int) : Prop :=
  ∃ c chunkId data dataLen,
    chunkStep call.client call.bufdata call.datalen = .message c chunkId data dataLen ∧
      ret = (handlerRun c chunkId data dataLen call.bufdata).1.map Prod.fst ∧ ret ≠ .ok 0

/-- A handler that fails without a fault returns `-1`. -/
theorem ChunkCall.HandlerFails.ret {call : ChunkCall} {ret : Int}
    (h : call.HandlerFails (.ok ret)) : ret = -1 := by
  obtain ⟨c, chunkId, data, dataLen, -, hret, hz⟩ := h
  cases hrun : handlerRun c chunkId data dataLen call.bufdata with
  | mk r m =>
    rw [hrun] at hret
    cases r with
    | error e => cases hret
    | ok r =>
      obtain ⟨hr, -⟩ := handlerRun_ok _ _ _ _ _ _ _ _ hrun
      injection hret with hr1
      rcases hr with hr | hr
      · rw [hr1, hr] at hz
        exact absurd rfl hz
      · exact hr1.trans hr

/-- One round of the inner loop. -/
theorem chunkLoop_succ (fuel : Nat) (c : RtmpClient) (mem : Mem) (size : Int) :
    chunkLoop (fuel + 1) c mem size =
      (let call : ChunkCall := ⟨c, mem.shift c.mIParsePos.toNat, size - c.mIParsePos⟩
      let out := rtmpProcessChunk call.client call.bufdata call.datalen
      let mem := mem.splice c.mIParsePos.toNat out.2.2
      match out.1 with
      | .error e => ⟨.error e, out.2.1, mem, [call]⟩
      | .ok ret =>
        if ret = 0 then
          let rest := chunkLoop fuel out.2.1 mem size
          { rest with calls := call :: rest.calls }
        else ⟨.ok ret, out.2.1, mem, [call]⟩) := rfl

/-- A loop whose first call takes a chunk and calls no handler. -/
theorem chunkLoop_block (fuel : Nat) {c c' : RtmpClient} {mem : Mem} {size : Int}
    (hstep : chunkStep c (mem.shift c.mIParsePos.toNat) (size - c.mIParsePos) = .ret 0 c') :
    (chunkLoop (fuel + 1) c mem size).client = (chunkLoop fuel c' mem size).client := by
  have hcall : rtmpProcessChunk c (mem.shift c.mIParsePos.toNat) (size - c.mIParsePos) =
      (.ok 0, c', mem.shift c.mIParsePos.toNat) := by
    unfold rtmpProcessChunk
    rw [hstep]
  rw [chunkLoop_succ]
  dsimp only
  rw [hcall]
  dsimp only
  rw [if_pos rfl, Mem.splice_shift]

/-- A loop whose first call takes no chunk. -/
theorem chunkLoop_stop (fuel : Nat) {c c' : RtmpClient} {mem : Mem} {size r : Int}
    (hstep : chunkStep c (mem.shift c.mIParsePos.toNat) (size - c.mIParsePos) = .ret r c')
    (hr : r ≠ 0) : (chunkLoop (fuel + 1) c mem size).client = c' := by
  have hcall : rtmpProcessChunk c (mem.shift c.mIParsePos.toNat) (size - c.mIParsePos) =
      (.ok r, c', mem.shift c.mIParsePos.toNat) := by
    unfold rtmpProcessChunk
    rw [hstep]
  rw [chunkLoop_succ]
  dsimp only
  rw [hcall]
  dsimp only
  rw [if_neg hr]

/-- An empty window asks for more bytes. -/
theorem rtmpProcessChunk_empty (c : RtmpClient) (buf : Mem) :
    rtmpProcessChunk c buf 0 = (.ok 1, c, buf) := rfl

end RtmpRecv.Client
