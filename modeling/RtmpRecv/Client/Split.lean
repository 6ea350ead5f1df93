import RtmpRecv.Amf0.Split
import RtmpRecv.Client.Header

/-!
# The parser reads what the splitter leaves

Library `Client`. A message that the splitter has cut into chunks of 128 bytes is put together by
the parser whatever the other chunk streams hold: one call for each chunk, and one of
`rtmp_process_message`, at the last one.
-/

namespace RtmpRecv.Client
open RtmpRecv.Base RtmpRecv.Amf0 RtmpRecv.Wire

/-- The loop has handed over the message and has consumed the bytes up to `size`. -/
structure TakesMessage (c : RtmpClient) (size : Int) (message : RtmpMessage) (r : LoopEnd) :
    Prop where
  messages : r.client.rtmpMessages = c.rtmpMessages ++ [message]
  consumed : r.client.mIParsePos = size

/-- A message of the body is open on the chunk stream, and `done` bytes of it have come. -/
structure Receiving (c : RtmpClient) (chunkId type streamId time : Nat) (body : List UInt8)
    (done : Nat) : Prop where
  chunkSize : c.rtmpChunkMaxSize = 128
  size : (c.rtmpChunk chunkId).messageSize = body.length
  type : (c.rtmpChunk chunkId).messageType = type
  streamId : (c.rtmpChunk chunkId).messageStreamId = streamId
  time : (c.rtmpChunk chunkId).timeStamp = time
  last : (c.rtmpChunk chunkId).lastMessageSize = body.length - done
  pos : (c.rtmpChunk chunkId).messageBufPos = done
  room : (c.rtmpChunk chunkId).messageBufLen = newMessageBufLen body.length
  buf : ∃ m, (c.rtmpChunk chunkId).messageBuf = some m ∧ m.slice 0 done = body.take done

/-! ### Ends of the loop -/

/-- The handler has run, and no byte is left. -/
private theorem chunkLoop_last {fuel : Nat} {c : RtmpClient} {mem : Mem} {size : Int}
    {message : RtmpMessage}
    (hmessages : (rtmpProcessChunk c (mem.shift c.mIParsePos.toNat)
      (size - c.mIParsePos)).2.1.rtmpMessages = c.rtmpMessages ++ [message])
    (hpos : (rtmpProcessChunk c (mem.shift c.mIParsePos.toNat)
      (size - c.mIParsePos)).2.1.mIParsePos = size) :
    TakesMessage c size message (chunkLoop (fuel + 2) c mem size) := by
  rw [chunkLoop_succ]
  dsimp only
  generalize rtmpProcessChunk c (mem.shift c.mIParsePos.toNat) (size - c.mIParsePos) = out
    at hmessages hpos ⊢
  obtain ⟨ret, c', buf⟩ := out
  dsimp only at hmessages hpos ⊢
  cases ret with
  | error e => exact ⟨hmessages, hpos⟩
  | ok ret =>
    dsimp only
    split
    · rw [chunkLoop_succ, hpos, Int.sub_self]
      dsimp only
      rw [rtmpProcessChunk_empty]
      exact ⟨hmessages, hpos⟩
    · exact ⟨hmessages, hpos⟩

/-- A call that hands over the message. -/
private theorem chunkLoop_message (fuel : Nat) {c c' : RtmpClient} {mem : Mem} {size : Int}
    {chunkId : Nat} {data : MessageData} {dataLen : Int}
    (hstep : chunkStep c (mem.shift c.mIParsePos.toNat) (size - c.mIParsePos) =
      .message c' chunkId data dataLen)
    (hmessages : c'.rtmpMessages = c.rtmpMessages) (hpos : c'.mIParsePos = size) :
    TakesMessage c size (messageOf c' chunkId data dataLen (mem.shift c.mIParsePos.toNat))
      (chunkLoop (fuel + 2) c mem size) := by
  have hd := delivered_deliver c' chunkId data dataLen (mem.shift c.mIParsePos.toNat)
  apply chunkLoop_last
  · unfold rtmpProcessChunk
    rw [hstep]
    dsimp only
    rw [hd.messages, hmessages]
  · unfold rtmpProcessChunk
    rw [hstep]
    dsimp only
    rw [hd.parsePos, hpos]

section

variable {c : RtmpClient} {chunkId type streamId time : Nat} {body : List UInt8} {done : Nat}
  {mem : Mem} {size : Int} {block rest : List UInt8}

/-- A further chunk of the open message is appended to it. -/
private theorem chunkStep_block (datalen : Int)
    (h : Receiving c chunkId type streamId time body done)
    (hlo : 2 ≤ chunkId) (hhi : chunkId < 64) (hbody : body.length < 16777216)
    (hblock : block.length = min 128 (body.length - done)) (hdone : done < body.length)
    {buf : Mem}
    (hb : buf.slice 0 (basicHeader 3 chunkId :: block).length = basicHeader 3 chunkId :: block)
    (hd : ((block.length + 1 : Nat) : Int) ≤ datalen) :
    ∃ m, (c.rtmpChunk chunkId).messageBuf = some m ∧ m.slice 0 done = body.take done ∧
      chunkStep c buf datalen =
        (let c' := (c.setChunk chunkId ((c.rtmpChunk chunkId).copied m block)).advance
          (block.length + 1)
        if done + block.length < body.length then .ret 0 c'
        else .message c' chunkId (.messageBuf (m.memcpy done block)) body.length) := by
  obtain ⟨m, hm, hprefix⟩ := h.buf
  refine ⟨m, hm, hprefix, ?_⟩
  rw [List.length_cons, Mem.slice_succ] at hb
  have h0 := List.head_eq_of_cons_eq hb
  have hpayload := List.tail_eq_of_cons_eq hb
  have hlast := h.last
  have hroom := le_newMessageBufLen hbody
  have hroom' := h.room
  have hpos := h.pos
  have hlen : min c.rtmpChunkMaxSize (c.rtmpChunk chunkId).lastMessageSize = block.length := by
    rw [h.chunkSize, hlast, hblock]
  have hheader : chunkHeader c 3 chunkId buf datalen = .parsed c RtmpChunk.zero 0 := by
    change headerFmt3 c datalen = _
    unfold headerFmt3
    rw [if_neg (by omega)]
  have hint := toInt32_of_lt body.length (by omega)
  rw [chunkStep_basicHeader c buf datalen 3 chunkId h0 (by omega) hlo hhi (by omega), hheader]
  dsimp only
  rw [chunkBody_more _ _ _ _ _ _ (by omega) (by omega) (by rw [hlen]; omega), hlen,
    copyBody_eq _ _ _ _ _ m hm (by omega) (by omega) (by omega)]
  dsimp only
  rw [Nat.zero_add, hpayload, h.pos, h.size, hint, Nat.add_comm 1]

/-- The client after a chunk that leaves the message open. -/
private theorem receiving_block (h : Receiving c chunkId type streamId time body done) {m : Mem}
    (hm : m.slice 0 done = body.take done) (hblock : block = (body.drop done).take 128)
    (hlen : block.length = 128) :
    Receiving ((c.setChunk chunkId ((c.rtmpChunk chunkId).copied m block)).advance
      (block.length + 1)) chunkId type streamId time body (done + 128) := by
  have hchunk : ((c.setChunk chunkId ((c.rtmpChunk chunkId).copied m block)).advance
      (block.length + 1)).rtmpChunk chunkId = (c.rtmpChunk chunkId).copied m block :=
    RtmpClient.setChunk_same _ _ _
  constructor
  · exact h.chunkSize
  · rw [hchunk]
    exact h.size
  · rw [hchunk]
    exact h.type
  · rw [hchunk]
    exact h.streamId
  · rw [hchunk]
    exact h.time
  · rw [hchunk]
    change (c.rtmpChunk chunkId).lastMessageSize - block.length = _
    rw [h.last, hlen]
    omega
  · rw [hchunk]
    change (c.rtmpChunk chunkId).messageBufPos + block.length = _
    rw [h.pos, hlen]
  · rw [hchunk]
    exact h.room
  · refine ⟨_, by rw [hchunk]; rfl, ?_⟩
    have happend := Mem.slice_memcpy_append m 0 done block
    rw [Nat.zero_add, hlen] at happend
    rw [h.pos, happend, hm, hblock, List.take_add]

/-- The bytes of a message in its buffer behind its last chunk. -/
private theorem slice_last {m : Mem} (hm : m.slice 0 done = body.take done)
    (hdone : done ≤ body.length) (hblock : block = body.drop done) :
    (m.memcpy done block).slice 0 body.length = body := by
  have happend := Mem.slice_memcpy_append m 0 done block
  have hlen : body.length = done + block.length := by
    rw [hblock, List.length_drop]
    omega
  rw [Nat.zero_add] at happend
  rw [hlen, happend, hm, hblock, List.take_append_drop]

end

/-- The loop puts the rest of an open message together. -/
private theorem chunkLoop_receives {chunkId type streamId time : Nat} {body : List UInt8}
    (hlo : 2 ≤ chunkId) (hhi : chunkId < 64) (hbody : body.length < 16777216) (pages : Nat) :
    ∀ (fuel : Nat) {c : RtmpClient} {done : Nat} {mem : Mem} {size : Int},
      Receiving c chunkId type streamId time body done → done + pages * 128 < body.length →
      body.length ≤ done + pages * 128 + 128 → 0 ≤ c.mIParsePos → pages + 1 < fuel →
      mem.slice c.mIParsePos.toNat
        (basicHeader 3 chunkId :: chunked (basicHeader 3 chunkId) pages (body.drop done)).length =
          basicHeader 3 chunkId :: chunked (basicHeader 3 chunkId) pages (body.drop done) →
      size = c.mIParsePos +
        (basicHeader 3 chunkId :: chunked (basicHeader 3 chunkId) pages (body.drop done)).length →
      TakesMessage c size ⟨chunkId, type, streamId, time, body⟩ (chunkLoop fuel c mem size) := by
  induction pages with
  | zero =>
    intro fuel c done mem size h hlow hhigh hpos hfuel hb hsize
    obtain ⟨fuel, rfl⟩ : ∃ k, fuel = k + 2 := ⟨fuel - 2, by omega⟩
    obtain ⟨block, hblock⟩ : ∃ block, block = body.drop done := ⟨_, rfl⟩
    have hdrop : block.length = body.length - done := by rw [hblock, List.length_drop]
    have hlen : (basicHeader 3 chunkId :: chunked (basicHeader 3 chunkId) 0 block).length =
        block.length + 1 := rfl
    rw [← hblock] at hb hsize
    rw [hlen] at hsize
    have hwindow : (mem.shift c.mIParsePos.toNat).slice 0 (basicHeader 3 chunkId :: block).length =
        basicHeader 3 chunkId :: block := by
      rw [Mem.slice_shift, Nat.add_zero]
      exact hb
    obtain ⟨m, -, hprefix, hstep⟩ := chunkStep_block (size - c.mIParsePos) h hlo hhi
      hbody (by omega) (by omega) hwindow (by omega)
    dsimp only at hstep
    rw [if_neg (by omega)] at hstep
    have htakes := chunkLoop_message fuel hstep rfl (by
      change c.mIParsePos + ((block.length + 1 : Nat) : Int) = size
      omega)
    have hchunk := RtmpClient.setChunk_same c chunkId ((c.rtmpChunk chunkId).copied m block)
    have hmessage : messageOf ((c.setChunk chunkId ((c.rtmpChunk chunkId).copied m block)).advance
        (block.length + 1)) chunkId (.messageBuf (m.memcpy done block)) body.length
          (mem.shift c.mIParsePos.toNat) = ⟨chunkId, type, streamId, time, body⟩ := by
      simp only [messageOf, RtmpMessage.mk.injEq, true_and]
      refine ⟨?_, ?_, ?_, slice_last hprefix (by omega) hblock⟩
      · exact (congrArg RtmpChunk.messageType hchunk).trans h.type
      · exact (congrArg RtmpChunk.messageStreamId hchunk).trans h.streamId
      · exact (congrArg RtmpChunk.timeStamp hchunk).trans h.time
    rw [hmessage] at htakes
    exact htakes
  | succ pages ih =>
    intro fuel c done mem size h hlow hhigh hpos hfuel hb hsize
    obtain ⟨fuel, rfl⟩ : ∃ k, fuel = k + 1 := ⟨fuel - 1, by omega⟩
    obtain ⟨block, hblock⟩ : ∃ block, block = (body.drop done).take 128 := ⟨_, rfl⟩
    obtain ⟨rest, hrest⟩ : ∃ rest, rest = basicHeader 3 chunkId ::
        chunked (basicHeader 3 chunkId) pages (body.drop (done + 128)) := ⟨_, rfl⟩
    have hlen : block.length = 128 := by
      rw [hblock, List.length_take, List.length_drop]
      omega
    have hbytes : basicHeader 3 chunkId :: chunked (basicHeader 3 chunkId) (pages + 1)
        (body.drop done) = (basicHeader 3 chunkId :: block) ++ rest := by
      rw [chunked, ← hblock, List.drop_drop, hrest]
      rfl
    rw [hbytes] at hb hsize
    obtain ⟨hfirst, hlater⟩ := (Mem.slice_append_iff mem _ _ _).1 hb
    rw [List.length_append, List.length_cons] at hsize
    have hwindow : (mem.shift c.mIParsePos.toNat).slice 0 (basicHeader 3 chunkId :: block).length =
        basicHeader 3 chunkId :: block := by
      rw [Mem.slice_shift, Nat.add_zero]
      exact hfirst
    obtain ⟨m, -, hprefix, hstep⟩ := chunkStep_block (size - c.mIParsePos) h hlo hhi
      hbody (by omega) (by omega) hwindow (by omega)
    dsimp only at hstep
    rw [if_pos (by omega)] at hstep
    have hnext := receiving_block h hprefix hblock hlen
    obtain ⟨c', hc'⟩ : ∃ c', c' = (c.setChunk chunkId
        ((c.rtmpChunk chunkId).copied m block)).advance (block.length + 1) := ⟨_, rfl⟩
    have hpos' : c'.mIParsePos = c.mIParsePos + ((block.length + 1 : Nat) : Int) := by
      rw [hc']
      rfl
    have hmessages : c'.rtmpMessages = c.rtmpMessages := by
      rw [hc']
      rfl
    rw [← hc'] at hstep hnext
    have hnat : c'.mIParsePos.toNat =
        c.mIParsePos.toNat + (basicHeader 3 chunkId :: block).length := by
      rw [List.length_cons]
      omega
    have hsize' : size = c'.mIParsePos + rest.length := by omega
    rw [← hnat] at hlater
    rw [hrest] at hlater hsize'
    have htakes := ih fuel hnext (by omega) (by omega) (by omega) (by omega) hlater hsize'
    have hclient := chunkLoop_block fuel hstep
    constructor
    · rw [hclient, htakes.messages, hmessages]
    · rw [hclient, htakes.consumed]

/-! ### The first chunk -/

/-- The header of a message. -/
def messageHeader (chunkId time streamId : Nat) (message : Message) : List UInt8 :=
  basicHeader 0 chunkId :: (Fmt.fmt0 time streamId).fields message

@[simp] theorem length_messageHeader (chunkId time streamId : Nat) (message : Message) :
    (messageHeader chunkId time streamId message).length = 12 := rfl

section

variable {chunkId time streamId : Nat} {message : Message} {c : RtmpClient} {buf : Mem}
  {block : List UInt8}

/-- The header of the first chunk. -/
private theorem chunkStep_first (datalen : Int) (hlo : 2 ≤ chunkId) (hhi : chunkId < 64)
    (htime : time < 0xffffff)
    (hbody : message.body.length < 16777216)
    (hb : buf.slice 0 (messageHeader chunkId time streamId message ++ block).length =
      messageHeader chunkId time streamId message ++ block) (hd : 12 ≤ datalen) :
    buf.slice 12 block.length = block ∧ ∃ c' id, HeaderKept c c' ∧
      chunkStep c buf datalen = chunkBody c' chunkId { RtmpChunk.zero with
        timeStamp := time, messageSize := message.body.length
        messageType := message.type.toNat, messageStreamId := id } 11 buf datalen := by
  obtain ⟨hheader, hblock⟩ := (Mem.slice_append_iff buf 0 _ _).1 hb
  rw [length_messageHeader, Nat.zero_add] at hblock
  rw [length_messageHeader, Mem.slice_succ] at hheader
  have h0 := List.head_eq_of_cons_eq hheader
  have hfields := List.tail_eq_of_cons_eq hheader
  have hextended : extendedLen time = 0 := by
    rw [extendedLen_eq, if_pos htime]
  have hnone : buf.slice 12 (extendedLen time) = extendedBytes (extendedOf time) := by
    rw [hextended]
    unfold extendedOf
    rw [if_pos htime]
    rfl
  obtain ⟨c', id, hparsed, hk, -⟩ := headerFmt0_wire c chunkId buf datalen message time streamId
    hbody (by omega) hfields hnone (by rw [hextended]; omega)
  rw [hextended] at hparsed
  refine ⟨hblock, c', id, hk, ?_⟩
  have hfmt : chunkHeader c 0 chunkId buf datalen = headerFmt0 c chunkId buf datalen := rfl
  rw [chunkStep_basicHeader c buf datalen 0 chunkId h0 (by omega) hlo hhi (by omega), hfmt,
    hparsed]

end

/-- The message that fits its first chunk. -/
private theorem messageOf_single (c : RtmpClient) (chunkId : Nat) (chunkInfo : RtmpChunk)
    (n off : Nat) (buf : Mem) :
    messageOf ((c.setChunk chunkId
        { startMessage (c.rtmpChunk chunkId) chunkInfo with lastMessageSize := 0 }).advance n)
          chunkId (.window off) chunkInfo.messageSize buf =
      ⟨chunkId, chunkInfo.messageType, chunkInfo.messageStreamId, chunkInfo.timeStamp,
        buf.slice off chunkInfo.messageSize⟩ := by
  simp [messageOf, RtmpClient.advance, startMessage, MessageData.mem]

/-- The client after the first chunk of a longer message. -/
private theorem receiving_first (c : RtmpClient) (hsize : c.rtmpChunkMaxSize = 128) (chunkId : Nat)
    {chunkInfo : RtmpChunk} {body block : List UInt8} (n : Nat)
    (hinfo : chunkInfo.messageSize = body.length) (hblock : block = body.take 128)
    (hlen : block.length = 128) :
    Receiving ((c.newBuffer.2.setChunk chunkId (((c.rtmpChunk chunkId).opened chunkInfo
      c.newBuffer.1).copied c.newBuffer.1 block)).advance n) chunkId chunkInfo.messageType
        chunkInfo.messageStreamId chunkInfo.timeStamp body 128 := by
  have hchunk : ((c.newBuffer.2.setChunk chunkId (((c.rtmpChunk chunkId).opened chunkInfo
      c.newBuffer.1).copied c.newBuffer.1 block)).advance n).rtmpChunk chunkId =
        ((c.rtmpChunk chunkId).opened chunkInfo c.newBuffer.1).copied c.newBuffer.1 block :=
    RtmpClient.setChunk_same _ _ _
  constructor
  · exact hsize
  · rw [hchunk]
    exact hinfo
  · rw [hchunk]
    rfl
  · rw [hchunk]
    rfl
  · rw [hchunk]
    rfl
  · rw [hchunk]
    change chunkInfo.messageSize - block.length = _
    rw [hinfo, hlen]
  · rw [hchunk]
    change 0 + block.length = _
    rw [hlen]
  · rw [hchunk]
    change newMessageBufLen chunkInfo.messageSize = _
    rw [hinfo]
  · refine ⟨_, by rw [hchunk]; rfl, ?_⟩
    have hsame := Mem.slice_memcpy_same c.newBuffer.1 0 block
    rw [hlen] at hsame
    rw [← hblock]
    exact hsame

/-- The loop on a message that the splitter has cut. -/
theorem chunkLoop_chunked {chunkId time streamId : Nat} {message : Message}
    (hlo : 2 ≤ chunkId) (hhi : chunkId < 64) (htime : time < 0xffffff)
    (hpositive : 0 < message.body.length) (hbody : message.body.length < 16777216)
    {c : RtmpClient} (hsize : c.rtmpChunkMaxSize = 128)
    (hidle : (c.rtmpChunk chunkId).lastMessageSize = 0) (hpos : 0 ≤ c.mIParsePos) {mem : Mem}
    {bytes : List UInt8} (hbytes : bytes = messageHeader chunkId time streamId message ++
      chunked (basicHeader 3 chunkId) (pageCount message.body.length) message.body)
    (hb : mem.slice c.mIParsePos.toNat bytes.length = bytes) {fuel : Nat}
    (hfuel : pageCount message.body.length + 2 ≤ fuel) :
    ∃ id, TakesMessage c (c.mIParsePos + bytes.length)
      ⟨chunkId, message.type.toNat, id, time, message.body⟩
      (chunkLoop fuel c mem (c.mIParsePos + bytes.length)) := by
  have hlow : pageCount message.body.length * 128 < message.body.length := by
    unfold pageCount
    omega
  have hhigh : message.body.length ≤ pageCount message.body.length * 128 + 128 := by
    unfold pageCount
    omega
  have hlength := length_chunked (basicHeader 3 chunkId) (pageCount message.body.length)
    message.body (by omega)
  have htotal : bytes.length = 12 + (message.body.length + pageCount message.body.length) := by
    rw [hbytes, List.length_append, length_messageHeader, hlength]
  have hwindow : (mem.shift c.mIParsePos.toNat).slice 0 bytes.length = bytes := by
    rw [Mem.slice_shift, Nat.add_zero]
    exact hb
  have hdatalen : c.mIParsePos + (bytes.length : Int) - c.mIParsePos = bytes.length := by omega
  generalize pageCount message.body.length = pages at hbytes hlow hhigh hlength htotal hfuel
  cases pages with
  | zero =>
    obtain ⟨fuel, rfl⟩ : ∃ k, fuel = k + 2 := ⟨fuel - 2, by omega⟩
    rw [hbytes] at hwindow
    obtain ⟨hblock, c', id, hk, hstep⟩ := chunkStep_first (c := c)
      (c.mIParsePos + bytes.length - c.mIParsePos) hlo hhi htime hbody hwindow (by omega)
    obtain ⟨b, hb'⟩ := hk.chunk chunkId
    have hidle' : (c'.rtmpChunk chunkId).lastMessageSize = 0 := by
      rw [hb']
      exact hidle
    obtain ⟨chunkInfo, hinfo⟩ : ∃ chunkInfo, chunkInfo = { RtmpChunk.zero with
        timeStamp := time, messageSize := message.body.length
        messageType := message.type.toNat, messageStreamId := id } := ⟨_, rfl⟩
    have hmessageSize : chunkInfo.messageSize = message.body.length := by rw [hinfo]
    rw [← hinfo, chunkBody_single c' chunkId chunkInfo 11 _ _ hidle'
      (by rw [hk.chunkSize, hsize, hmessageSize]; omega) (by omega) (by omega)] at hstep
    have htakes := chunkLoop_message fuel hstep hk.messages (by
      change c'.mIParsePos + ((11 + 1 + chunkInfo.messageSize : Nat) : Int) = _
      rw [hk.parsePos]
      omega)
    refine ⟨id, ?_⟩
    rw [messageOf_single, hmessageSize, hinfo] at htakes
    have hbody' :
        (mem.shift c.mIParsePos.toNat).slice (11 + 1) message.body.length = message.body :=
      hblock
    rw [hbody'] at htakes
    exact htakes
  | succ pages =>
    obtain ⟨fuel, rfl⟩ : ∃ k, fuel = k + 1 := ⟨fuel - 1, by omega⟩
    obtain ⟨block, hblock⟩ : ∃ block, block = message.body.take 128 := ⟨_, rfl⟩
    obtain ⟨rest, hrest⟩ : ∃ rest, rest = basicHeader 3 chunkId ::
        chunked (basicHeader 3 chunkId) pages (message.body.drop 128) := ⟨_, rfl⟩
    have hlen : block.length = 128 := by
      rw [hblock, List.length_take]
      omega
    have hsplit : bytes = messageHeader chunkId time streamId message ++ block ++ rest := by
      rw [hbytes, chunked, ← hblock, hrest, List.append_assoc]
    have hbefore : (messageHeader chunkId time streamId message ++ block).length = 140 := by
      rw [List.length_append, length_messageHeader, hlen]
    have hafter : bytes.length = 140 + rest.length := by
      rw [hsplit, List.length_append, hbefore]
    rw [hsplit] at hwindow
    have hfirst := ((Mem.slice_append_iff _ 0 _ _).1 hwindow).1
    have hlater : mem.slice (c.mIParsePos.toNat + 140) rest.length = rest := by
      rw [hsplit] at hb
      have hlater := ((Mem.slice_append_iff mem _ _ _).1 hb).2
      rw [hbefore] at hlater
      exact hlater
    obtain ⟨hpayload, c', id, hk, hstep⟩ := chunkStep_first (c := c)
      (c.mIParsePos + bytes.length - c.mIParsePos) hlo hhi htime hbody hfirst (by omega)
    obtain ⟨b, hb'⟩ := hk.chunk chunkId
    have hidle' : (c'.rtmpChunk chunkId).lastMessageSize = 0 := by
      rw [hb']
      exact hidle
    have hsize' : c'.rtmpChunkMaxSize = 128 := hk.chunkSize.trans hsize
    obtain ⟨chunkInfo, hinfo⟩ : ∃ chunkInfo, chunkInfo = { RtmpChunk.zero with
        timeStamp := time, messageSize := message.body.length
        messageType := message.type.toNat, messageStreamId := id } := ⟨_, rfl⟩
    have hmessageSize : chunkInfo.messageSize = message.body.length := by rw [hinfo]
    have hwindow' : (mem.shift c.mIParsePos.toNat).slice (11 + 1) c'.rtmpChunkMaxSize = block := by
      rw [hsize', ← hlen]
      exact hpayload
    rw [← hinfo, chunkBody_first c' chunkId chunkInfo 11 _ _ hidle' (by omega) (by omega)
      (by omega), hwindow', hsize'] at hstep
    have hnext := receiving_first c' hsize' chunkId (11 + 1 + 128) hmessageSize hblock hlen
    obtain ⟨c₁, hc₁⟩ : ∃ c₁, c₁ = (c'.newBuffer.2.setChunk chunkId (((c'.rtmpChunk chunkId).opened
        chunkInfo c'.newBuffer.1).copied c'.newBuffer.1 block)).advance (11 + 1 + 128) := ⟨_, rfl⟩
    have hpos₁ : c₁.mIParsePos = c.mIParsePos + 140 := by
      rw [hc₁, ← hk.parsePos]
      rfl
    have hmessages : c₁.rtmpMessages = c.rtmpMessages := by
      rw [hc₁, ← hk.messages]
      rfl
    rw [← hc₁] at hnext hstep
    have hnat : c₁.mIParsePos.toNat = c.mIParsePos.toNat + 140 := by omega
    have hsize₁ : c.mIParsePos + bytes.length = c₁.mIParsePos + rest.length := by omega
    rw [← hnat] at hlater
    rw [hrest] at hlater hsize₁
    have htakes := chunkLoop_receives hlo hhi hbody pages fuel hnext (by omega) (by omega)
      (by omega) (by omega) hlater hsize₁
    have hclient := chunkLoop_block fuel hstep
    rw [hinfo] at htakes
    refine ⟨id, ?_, ?_⟩
    · rw [hclient, htakes.messages, hmessages]
    · rw [hclient, htakes.consumed]

/-- The first byte of a further chunk, as the splitter is given it. -/
theorem or_basicHeader {chunkId : Nat} (h : chunkId < 64) :
    0xc0 ||| UInt8.ofNat chunkId = basicHeader 3 chunkId := by
  have hall : ∀ i : Fin 64, 0xc0 ||| UInt8.ofNat i.val = basicHeader 3 i.val := by decide
  exact hall ⟨chunkId, h⟩

/-- The splitter and the parser are inverse: a message behind a header is cut into its header, its
first 128 bytes, and each further block behind one byte, and the parser takes exactly these bytes
for one message with this type, timestamp and body. -/
private theorem split_parsed (chunkId time streamId : Nat) (message : Message)
    (hlo : 2 ≤ chunkId) (hhi : chunkId < 64) (htime : time < 0xffffff)
    (hlow : 1 ≤ message.body.length) (hhigh : message.body.length ≤ 16777215) (pagBuf : Mem)
    (hbuf : pagBuf.slice 0 (messageHeader chunkId time streamId message ++ message.body).length =
      messageHeader chunkId time streamId message ++ message.body) :
    let ct := 0xc0 ||| UInt8.ofNat chunkId
    let out := rtmpAmf0SplitePack ct 12 pagBuf (12 + message.body.length)
    let bytes := messageHeader chunkId time streamId message ++
      chunked ct ((message.body.length - 1) / 128) message.body
    out.1 = bytes.length ∧ out.2.slice 0 bytes.length = bytes ∧
      ∀ c : RtmpClient, c.rtmpChunkMaxSize = 128 → (c.rtmpChunk chunkId).lastMessageSize = 0 →
        0 ≤ c.mIParsePos → ∀ mem, mem.slice c.mIParsePos.toNat bytes.length = bytes →
          ∃ id, TakesMessage c (c.mIParsePos + out.1)
            ⟨chunkId, message.type.toNat, id, time, message.body⟩
            (chunkLoop (bytes.length + 1) c mem (c.mIParsePos + out.1)) := by
  intro ct out bytes
  have hct : ct = basicHeader 3 chunkId := or_basicHeader hhi
  have hlen : (messageHeader chunkId time streamId message ++ message.body).length =
      12 + message.body.length := by
    rw [List.length_append, length_messageHeader]
  have hne : message.body ≠ [] := List.length_pos_iff.1 (by omega)
  have hsplit := rtmpAmf0SplitePack_eq ct pagBuf (messageHeader chunkId time streamId message)
    message.body hne hbuf
  rw [hlen, length_messageHeader] at hsplit
  obtain ⟨hret, hslice⟩ := hsplit
  refine ⟨hret, hslice, ?_⟩
  intro c hsize hidle hpos mem hmem
  have hlength := length_chunked ct ((message.body.length - 1) / 128) message.body (by omega)
  have htotal : bytes.length = 12 + (message.body.length + (message.body.length - 1) / 128) := by
    rw [List.length_append, length_messageHeader, hlength]
  have hbytes : bytes = messageHeader chunkId time streamId message ++
      chunked (basicHeader 3 chunkId) (pageCount message.body.length) message.body := by
    rw [← hct]
    rfl
  change out.1 = bytes.length at hret
  rw [hret]
  refine chunkLoop_chunked hlo hhi htime (by omega) (by omega) hsize hidle hpos hbytes hmem ?_
  unfold pageCount
  omega

/-- In a buffer of `room` bytes the splitter and the parser are inverse if and only if the message
has one block, or there is room for a whole last block. -/
theorem rtmpAmf0SplitePack_parsed (chunkId time streamId : Nat) (message : Message)
    (hlo : 2 ≤ chunkId) (hhi : chunkId < 64) (htime : time < 0xffffff)
    (hlow : 1 ≤ message.body.length) (hhigh : message.body.length ≤ 16777215) (pagBuf : Mem)
    (hbuf : pagBuf.slice 0 (messageHeader chunkId time streamId message ++ message.body).length =
      messageHeader chunkId time streamId message ++ message.body) (room : Nat) :
    let ct := 0xc0 ||| UInt8.ofNat chunkId
    let pages := (message.body.length - 1) / 128
    let bytes := messageHeader chunkId time streamId message ++ chunked ct pages message.body
    (∃ out, rtmpAmf0SplitePackIn room ct 12 pagBuf (12 + message.body.length) = some out ∧
      out.1 = bytes.length ∧ out.2.slice 0 bytes.length = bytes ∧
      ∀ c : RtmpClient, c.rtmpChunkMaxSize = 128 → (c.rtmpChunk chunkId).lastMessageSize = 0 →
        0 ≤ c.mIParsePos → ∀ mem, mem.slice c.mIParsePos.toNat bytes.length = bytes →
          ∃ id, TakesMessage c (c.mIParsePos + out.1)
            ⟨chunkId, message.type.toNat, id, time, message.body⟩
            (chunkLoop (bytes.length + 1) c mem (c.mIParsePos + out.1))) ↔
      message.body.length ≤ 128 ∨ 12 + pages * 129 + 128 ≤ room := by
  intro ct pages bytes
  have hpositive : 0 < message.body.length := hlow
  have hsplit := rtmpAmf0SplitePackIn_eq room ct 12 pagBuf hpositive
  change _ = if message.body.length ≤ 128 ∨ 12 + pages * 129 + 128 ≤ room then _ else none at hsplit
  rw [hsplit]
  constructor
  · rintro ⟨out, hout, -⟩
    by_contra hshort
    rw [if_neg hshort] at hout
    cases hout
  · intro hroom
    rw [if_pos hroom]
    exact ⟨_, rfl, split_parsed chunkId time streamId message hlo hhi htime hlow hhigh pagBuf hbuf⟩

/-- A message of three blocks, the last one of a single byte, in a buffer with room for a whole
one. -/
theorem rtmpAmf0SplitePack_parsed_three :
    let message : Message := ⟨0x14, List.replicate 257 7⟩
    let bytes := messageHeader 3 5 1 message ++ chunked (0xc0 ||| UInt8.ofNat 3) 2 message.body
    ∃ out, rtmpAmf0SplitePackIn 398 (0xc0 ||| UInt8.ofNat 3) 12
        (Mem.ofList (messageHeader 3 5 1 message ++ message.body)) (12 + 257) = some out ∧
      out.1 = bytes.length ∧ out.2.slice 0 bytes.length = bytes ∧
      ∀ c : RtmpClient, c.rtmpChunkMaxSize = 128 → (c.rtmpChunk 3).lastMessageSize = 0 →
        0 ≤ c.mIParsePos → ∀ mem, mem.slice c.mIParsePos.toNat bytes.length = bytes →
          ∃ id, TakesMessage c (c.mIParsePos + out.1) ⟨3, message.type.toNat, id, 5, message.body⟩
            (chunkLoop (bytes.length + 1) c mem (c.mIParsePos + out.1)) := by
  intro message bytes
  have hlen : message.body.length = 257 := List.length_replicate
  have hparsed := rtmpAmf0SplitePack_parsed 3 5 1 message (by decide) (by decide) (by decide)
    (by rw [hlen]; decide) (by rw [hlen]; decide) _ (Mem.slice_ofList _) 398
  rw [hlen] at hparsed
  exact hparsed.2 (Or.inr (by decide))

/-- The result of a message of 129 bytes has 142 bytes. In a buffer of this size the splitter moves
the 127 bytes behind the message, too, and passes the end of the buffer. -/
theorem rtmpAmf0SplitePack_overruns :
    let message : Message := ⟨0x14, List.replicate 129 7⟩
    let pagBuf := Mem.ofList (messageHeader 3 5 1 message ++ message.body)
    (messageHeader 3 5 1 message ++ chunked 0xc3 1 message.body).length = 142 ∧
      pagBuf.slice 0 141 = messageHeader 3 5 1 message ++ message.body ∧
      rtmpAmf0SplitePackIn 142 0xc3 12 pagBuf 141 = none := by
  decide +kernel

end RtmpRecv.Client
