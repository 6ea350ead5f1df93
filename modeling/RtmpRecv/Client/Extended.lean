import RtmpRecv.Client.Step
import RtmpRecv.Client.Streams

/-!
# Extended timestamps

Library `Client`. A message with an extended timestamp is parsed when its body fits the first
chunk. A further chunk repeats the four bytes, and `rtmp_process_chunk` takes them for body
bytes: the first of them lands in `message_buf` at the offset of the chunk size.
-/

namespace RtmpRecv.Wire

/-- The chunks of one message that starts with a full header. -/
def messageChunks (chunkSize chunkId timestamp streamId : Nat) (message : Message) : List Chunk :=
  .start chunkId (.fmt0 timestamp streamId) message ::
    List.replicate ((message.body.length - 1) / chunkSize) (.cont chunkId)

end RtmpRecv.Wire

namespace RtmpRecv.Client
open RtmpRecv.Base RtmpRecv.Wire

/-- The loop on the `size` bytes of a message calls the handler once, with that message, and
consumes the bytes. -/
def ParsesMessage (c : RtmpClient) (mem : Mem) (size chunkId timestamp : Nat)
    (message : Message) : Prop :=
  (∃ id, (parseAll c mem size).client.rtmpMessages =
    c.rtmpMessages ++ [⟨chunkId, message.type.toNat, id, timestamp, message.body⟩]) ∧
    (parseAll c mem size).client.mIParsePos = size

/-! ### Messages of a run -/

/-- A call records at most one message, and keeps the invariant. -/
theorem rtmpProcessChunk_sound {c : RtmpClient} (hs : Sound c) (buf : Mem) (datalen : Int) :
    Sound (rtmpProcessChunk c buf datalen).2.1 ∧
      ∃ msgs, (rtmpProcessChunk c buf datalen).2.1.rtmpMessages = c.rtmpMessages ++ msgs := by
  have h := callStep_chunkStep hs buf datalen
  unfold rtmpProcessChunk
  generalize chunkStep c buf datalen = step at h ⊢
  cases h with
  | wait c' hk _ => exact ⟨hs.headerKept hk, [], by rw [List.append_nil]; exact hk.messages⟩
  | reject c' hk => exact ⟨hs.headerKept hk, [], by rw [List.append_nil]; exact hk.messages⟩
  | short c' _ _ hh _ =>
    exact ⟨hs.headerKept hh.kept, [], by rw [List.append_nil]; exact hh.kept.messages⟩
  | taken c' chunkInfo hl hh _ hb =>
    have hsound := hb.sound (hs.headerKept hh.kept) hh.size
    have hmsgs := hb.messages.trans hh.kept.messages
    rcases hb.cases with hret | ⟨data, dataLen, hmsg, hlast, -⟩
    · rw [hret]
      exact ⟨hsound, [], by rw [List.append_nil]; exact hmsgs⟩
    · rw [hmsg]
      have hd := delivered_deliver step.client (chunkIdOf buf) data dataLen buf
      exact ⟨hd.sound hsound hlast, _, by rw [← hmsgs]; exact hd.messages⟩

/-- The loop only adds to the calls of the handler. -/
theorem chunkLoop_messages (fuel : Nat) {c : RtmpClient} (hs : Sound c) (mem : Mem)
    (size : Int) :
    ∃ msgs, (chunkLoop fuel c mem size).client.rtmpMessages = c.rtmpMessages ++ msgs := by
  induction fuel generalizing c mem with
  | zero => exact ⟨[], (List.append_nil _).symm⟩
  | succ fuel ih =>
    obtain ⟨hsound, msgs, hmsgs⟩ :=
      rtmpProcessChunk_sound hs (mem.shift c.mIParsePos.toNat) (size - c.mIParsePos)
    rw [chunkLoop_succ]
    dsimp only
    generalize rtmpProcessChunk c (mem.shift c.mIParsePos.toNat) (size - c.mIParsePos) = out
      at hsound hmsgs ⊢
    obtain ⟨ret, c', buf'⟩ := out
    cases ret with
    | error e => exact ⟨msgs, hmsgs⟩
    | ok r =>
      dsimp only at hsound hmsgs ⊢
      split
      · obtain ⟨rest, hrest⟩ := ih hsound (mem.splice c.mIParsePos.toNat buf')
        exact ⟨msgs ++ rest, by rw [← List.append_assoc, ← hmsgs]; exact hrest⟩
      · exact ⟨msgs, hmsgs⟩

/-! ### A foreign byte in an open message -/

/-- A message is open, and its byte at `pos` came as `b`. -/
structure HoldsByte (k : RtmpChunk) (pos : Nat) (b : UInt8) : Prop where
  pending : k.lastMessageSize ≠ 0
  byte : ∃ m, k.messageBuf = some m ∧ m pos = b
  before : pos < k.messageBufPos

/-- The first message recorded by `c'` after those of `c` has the byte, if it belongs to the
chunk stream. -/
def FirstHasByte (c c' : RtmpClient) (chunkId pos : Nat) (b : UInt8) : Prop :=
  ∃ msgs, c'.rtmpMessages = c.rtmpMessages ++ msgs ∧
    ∀ m, msgs.head? = some m → m.chunkId = chunkId → m.body[pos]? = some b

private theorem HoldsByte.headerKept {c c' : RtmpClient} {chunkId pos : Nat} {b : UInt8}
    (h : HoldsByte (c.rtmpChunk chunkId) pos b) (hk : HeaderKept c c') :
    HoldsByte (c'.rtmpChunk chunkId) pos b := by
  obtain ⟨x, hx⟩ := hk.chunk chunkId
  rw [hx]
  exact ⟨h.pending, h.byte, h.before⟩

/-- A chunk keeps the byte in the open message, or completes a message that has it. -/
private theorem BodyStep.holdsByte {c : RtmpClient} {i : Nat} {chunkInfo : RtmpChunk} {hl : Nat}
    {buf : Mem} {step : ChunkStep} (h : BodyStep c i chunkInfo hl buf step) (hs : Sound c)
    {chunkId pos : Nat} {b : UInt8} (hb : HoldsByte (c.rtmpChunk chunkId) pos b) :
    (step = .ret 0 step.client ∧ HoldsByte (step.client.rtmpChunk chunkId) pos b) ∨
      ∃ data dataLen, step = .message step.client i data dataLen ∧
        (i = chunkId → (messageOf step.client i data dataLen buf).body[pos]? = some b) := by
  obtain ⟨hpending, ⟨m, hm, hbyte⟩, hbefore⟩ := hb
  have hlen := chunkLen_eq c i chunkInfo
  unfold leftover at hlen
  by_cases hi : i = chunkId
  · subst hi
    have hpos := (hs i).pos hpending
    rw [if_neg hpending] at hlen
    cases h with
    | single hlast _ => exact absurd hlast hpending
    | first hlast _ => exact absurd hlast hpending
    | more m' _ hm' hsize =>
      obtain rfl : m' = m := Option.some.inj (hm'.symm.trans hm)
      refine Or.inl ⟨rfl, ?_⟩
      have hchunk := RtmpClient.setChunk_same c i
        ((c.rtmpChunk i).copied m' (buf.slice (hl + 1) (chunkLen c i chunkInfo)))
      change HoldsByte ((c.setChunk i _).rtmpChunk i) pos b
      rw [hchunk]
      refine ⟨?_, ⟨_, rfl, ?_⟩, ?_⟩
      · simp only [RtmpChunk.copied, Mem.length_slice]
        omega
      · rw [Mem.memcpy_outside _ _ _ _ (Or.inl hbefore), hbyte]
      · simp only [RtmpChunk.copied, Mem.length_slice]
        omega
    | final m' _ hm' hsize =>
      obtain rfl : m' = m := Option.some.inj (hm'.symm.trans hm)
      refine Or.inr ⟨_, _, rfl, fun _ ↦ ?_⟩
      change ((m'.memcpy _ _).slice 0 ((c.rtmpChunk i).messageSize : Int).toNat)[pos]? = some b
      rw [Int.toNat_natCast, List.getElem?_eq_getElem (by rw [Mem.length_slice]; omega),
        Mem.getElem_slice, Nat.zero_add, Mem.memcpy_outside _ _ _ _ (Or.inl hbefore), hbyte]
  · rcases h.cases with hret | ⟨data, dataLen, hmsg, -, -⟩
    · refine Or.inl ⟨hret, ?_⟩
      rw [h.other chunkId (fun hc ↦ hi hc.symm)]
      exact ⟨hpending, ⟨m, hm, hbyte⟩, hbefore⟩
    · exact Or.inr ⟨data, dataLen, hmsg, fun hc ↦ absurd hc hi⟩

/-- A further chunk puts its first byte behind the bytes that have come. -/
private theorem BodyStep.takesByte {c : RtmpClient} {i : Nat} {chunkInfo : RtmpChunk} {hl : Nat}
    {buf : Mem} {step : ChunkStep} (h : BodyStep c i chunkInfo hl buf step) (hs : Sound c)
    (hpending : (c.rtmpChunk i).lastMessageSize ≠ 0) (hpositive : 1 ≤ c.rtmpChunkMaxSize) :
    (step = .ret 0 step.client ∧
        HoldsByte (step.client.rtmpChunk i) (c.rtmpChunk i).messageBufPos (buf (hl + 1))) ∨
      ∃ data dataLen, step = .message step.client i data dataLen ∧
        (messageOf step.client i data dataLen buf).body[(c.rtmpChunk i).messageBufPos]? =
          some (buf (hl + 1)) := by
  have hlen := chunkLen_eq c i chunkInfo
  unfold leftover at hlen
  rw [if_neg hpending] at hlen
  have hpos := (hs i).pos hpending
  have hfirst : ∀ m : Mem, m.memcpy (c.rtmpChunk i).messageBufPos
      (buf.slice (hl + 1) (chunkLen c i chunkInfo)) (c.rtmpChunk i).messageBufPos =
        buf (hl + 1) := by
    intro m
    refine (Mem.memcpy_inside m (c.rtmpChunk i).messageBufPos
      (buf.slice (hl + 1) (chunkLen c i chunkInfo)) 0 (by rw [Mem.length_slice]; omega)).trans ?_
    rw [Mem.getElem_slice, Nat.add_zero]
  cases h with
  | single hlast _ => exact absurd hlast hpending
  | first hlast _ => exact absurd hlast hpending
  | more m _ _ hsize =>
    refine Or.inl ⟨rfl, ?_⟩
    have hchunk := RtmpClient.setChunk_same c i
      ((c.rtmpChunk i).copied m (buf.slice (hl + 1) (chunkLen c i chunkInfo)))
    change HoldsByte ((c.setChunk i _).rtmpChunk i) _ _
    rw [hchunk]
    refine ⟨?_, ⟨_, rfl, hfirst m⟩, ?_⟩
    · simp only [RtmpChunk.copied, Mem.length_slice]
      omega
    · simp only [RtmpChunk.copied, Mem.length_slice]
      omega
  | final m _ _ hsize =>
    refine Or.inr ⟨_, _, rfl, ?_⟩
    change ((m.memcpy _ _).slice 0 ((c.rtmpChunk i).messageSize : Int).toNat)[_]? = _
    rw [Int.toNat_natCast, List.getElem?_eq_getElem (by rw [Mem.length_slice]; omega),
      Mem.getElem_slice, Nat.zero_add, hfirst m]

/-- What a call does about the byte: the message stays open and holds it, or a message is
recorded that has it, if it belongs to the chunk stream. -/
def CallHasByte (c c' : RtmpClient) (chunkId pos : Nat) (b : UInt8) : Prop :=
  (c'.rtmpMessages = c.rtmpMessages ∧ HoldsByte (c'.rtmpChunk chunkId) pos b) ∨
    ∃ m, c'.rtmpMessages = c.rtmpMessages ++ [m] ∧ (m.chunkId = chunkId → m.body[pos]? = some b)

/-- A call on any window while a message holds the byte. -/
private theorem rtmpProcessChunk_holdsByte {c : RtmpClient} (hs : Sound c) (buf : Mem)
    (datalen : Int) {chunkId pos : Nat} {b : UInt8}
    (hb : HoldsByte (c.rtmpChunk chunkId) pos b) :
    CallHasByte c (rtmpProcessChunk c buf datalen).2.1 chunkId pos b := by
  have h := callStep_chunkStep hs buf datalen
  unfold rtmpProcessChunk
  generalize chunkStep c buf datalen = step at h ⊢
  cases h with
  | wait c' hk _ => exact Or.inl ⟨hk.messages, hb.headerKept hk⟩
  | reject c' hk => exact Or.inl ⟨hk.messages, hb.headerKept hk⟩
  | short c' _ _ hh _ => exact Or.inl ⟨hh.kept.messages, hb.headerKept hh.kept⟩
  | taken c' chunkInfo hl hh _ hstep =>
    have hmsgs := hstep.messages.trans hh.kept.messages
    rcases hstep.holdsByte (hs.headerKept hh.kept) (hb.headerKept hh.kept) with
      ⟨hret, hheld⟩ | ⟨data, dataLen, hmsg, hbyte⟩
    · rw [hret]
      exact Or.inl ⟨hmsgs, hheld⟩
    · rw [hmsg]
      have hd := delivered_deliver step.client (chunkIdOf buf) data dataLen buf
      exact Or.inr ⟨_, by rw [← hmsgs]; exact hd.messages, hbyte⟩

private theorem firstHasByte_of_call (fuel : Nat) {c : RtmpClient} (hs : Sound c) (mem : Mem)
    (size : Int) {chunkId pos : Nat} {b : UInt8}
    (hcall : CallHasByte c
      (rtmpProcessChunk c (mem.shift c.mIParsePos.toNat) (size - c.mIParsePos)).2.1 chunkId pos b)
    (ih : ∀ {c' : RtmpClient}, Sound c' → ∀ mem', HoldsByte (c'.rtmpChunk chunkId) pos b →
      FirstHasByte c' (chunkLoop fuel c' mem' size).client chunkId pos b) :
    FirstHasByte c (chunkLoop (fuel + 1) c mem size).client chunkId pos b := by
  have hnone : ∀ m, ([] : List RtmpMessage).head? = some m → m.chunkId = chunkId →
      m.body[pos]? = some b := fun _ h ↦ by cases h
  have hsound :=
    (rtmpProcessChunk_sound hs (mem.shift c.mIParsePos.toNat) (size - c.mIParsePos)).1
  rw [chunkLoop_succ]
  dsimp only
  generalize rtmpProcessChunk c (mem.shift c.mIParsePos.toNat) (size - c.mIParsePos) = out
    at hsound hcall ⊢
  obtain ⟨ret, c', buf'⟩ := out
  dsimp only at hsound hcall ⊢
  rcases hcall with ⟨hmsgs, hheld⟩ | ⟨m, hmsgs, hbyte⟩
  · -- the message stays open
    have hstop : FirstHasByte c c' chunkId pos b :=
      ⟨[], by rw [List.append_nil]; exact hmsgs, hnone⟩
    cases ret with
    | error e => exact hstop
    | ok r =>
      dsimp only
      split
      · obtain ⟨msgs, hrest, hfirst⟩ := ih hsound (mem.splice c.mIParsePos.toNat buf') hheld
        exact ⟨msgs, by rw [← hmsgs]; exact hrest, hfirst⟩
      · exact hstop
  · -- a message is complete, and the later ones do not matter
    have hhead : ∀ rest m', (m :: rest).head? = some m' → m'.chunkId = chunkId →
        m'.body[pos]? = some b := by
      intro rest m' hm'
      cases hm'
      exact hbyte
    cases ret with
    | error e => exact ⟨[m], hmsgs, hhead []⟩
    | ok r =>
      dsimp only
      split
      · obtain ⟨rest, hrest⟩ :=
          chunkLoop_messages fuel hsound (mem.splice c.mIParsePos.toNat buf') size
        refine ⟨m :: rest, ?_, hhead rest⟩
        rw [hmsgs, List.append_assoc] at hrest
        exact hrest
      · exact ⟨[m], hmsgs, hhead []⟩

/-- While a message holds the byte, the first message that the loop completes on its chunk
stream has it. -/
theorem chunkLoop_holdsByte (fuel : Nat) {c : RtmpClient} (hs : Sound c) (mem : Mem) (size : Int)
    {chunkId pos : Nat} {b : UInt8} (hb : HoldsByte (c.rtmpChunk chunkId) pos b) :
    FirstHasByte c (chunkLoop fuel c mem size).client chunkId pos b := by
  induction fuel generalizing c mem with
  | zero => exact ⟨[], (List.append_nil _).symm, fun _ h ↦ by cases h⟩
  | succ fuel ih =>
    exact firstHasByte_of_call fuel hs mem size (rtmpProcessChunk_holdsByte hs _ _ hb)
      fun hs' mem' hb' ↦ ih hs' mem' hb'

/-! ### The chunks of a message -/

/-- The first chunk of the message is read up to its body. -/
private theorem chunkStep_extended (c : RtmpClient) {chunkId timestamp streamId : Nat}
    {message : Message} {mem : Mem} (size : Int) {payload : List UInt8} (hlo : 2 ≤ chunkId)
    (hhi : chunkId < 64) (hlen : message.body.length < 16777216)
    (hext : 0xffffff ≤ timestamp) (ht : timestamp < 4294967296)
    (hb : mem.slice 0 (basicHeader 0 chunkId :: ((Fmt.fmt0 timestamp streamId).fields message ++
        be32Bytes timestamp ++ payload)).length =
      basicHeader 0 chunkId :: ((Fmt.fmt0 timestamp streamId).fields message ++
        be32Bytes timestamp ++ payload))
    (hd : 16 ≤ size) :
    mem.slice 16 payload.length = payload ∧
      ∃ c' chunkInfo, chunkStep c mem size = chunkBody c' chunkId chunkInfo 15 mem size ∧
        HeaderKept c c' ∧ chunkInfo.messageSize = message.body.length ∧
        chunkInfo.messageType = message.type.toNat ∧ chunkInfo.timeStamp = timestamp := by
  obtain ⟨h0, hf, he, hpayload⟩ := slice_parts _ _ _ _ _ hb
  have hl : extendedLen timestamp = 4 := by
    rw [extendedLen_eq, if_neg (by omega)]
  have hof : extendedBytes (extendedOf timestamp) = be32Bytes timestamp := by
    unfold extendedOf
    rw [if_neg (by omega)]
    rfl
  obtain ⟨c', id, hparsed, hk, -⟩ := headerFmt0_wire c chunkId mem size message timestamp streamId
    hlen ht hf (by rw [hl, hof]; exact he) (by rw [hl]; exact hd)
  have hstep := chunkStep_basicHeader c mem size 0 chunkId h0 (by omega) hlo hhi (by omega)
  have hheader : chunkHeader c 0 chunkId mem size = headerFmt0 c chunkId mem size := rfl
  rw [hheader, hparsed, hl] at hstep
  exact ⟨hpayload, c', _, hstep, hk, rfl, rfl, rfl⟩

/-- Without bytes the loop leaves the client as it is. -/
theorem client_chunkLoop_done (fuel : Nat) {c : RtmpClient} (mem : Mem) {size : Int}
    (h : c.mIParsePos = size) : (chunkLoop (fuel + 1) c mem size).client = c := by
  have hz : size - c.mIParsePos = 0 := by omega
  rw [chunkLoop_succ]
  simp only [hz, rtmpProcessChunk_empty]
  rfl

/-- A call that consumes the whole window is the last one to do anything. -/
private theorem client_chunkLoop_of_parsePos (fuel : Nat) (c : RtmpClient) (mem : Mem)
    (size : Int)
    (h : (rtmpProcessChunk c (mem.shift c.mIParsePos.toNat) (size - c.mIParsePos)).2.1.mIParsePos =
      size) :
    (chunkLoop (fuel + 2) c mem size).client =
      (rtmpProcessChunk c (mem.shift c.mIParsePos.toNat) (size - c.mIParsePos)).2.1 := by
  rw [chunkLoop_succ]
  dsimp only
  generalize rtmpProcessChunk c (mem.shift c.mIParsePos.toNat) (size - c.mIParsePos) = out at h ⊢
  obtain ⟨ret, c', buf'⟩ := out
  cases ret with
  | error e => rfl
  | ok r =>
    dsimp only at h ⊢
    split
    · exact client_chunkLoop_done fuel _ h
    · rfl

/-- A message that fits its first chunk is parsed. -/
private theorem parsesMessage_of_le {c : RtmpClient} {chunkId timestamp streamId : Nat}
    {message : Message} {mem : Mem} (hlo : 2 ≤ chunkId) (hhi : chunkId < 64)
    (hidle : (c.rtmpChunk chunkId).lastMessageSize = 0) (hpos : c.mIParsePos = 0)
    (hlen : message.body.length < 16777216) (hext : 0xffffff ≤ timestamp)
    (ht : timestamp < 4294967296) (hfits : message.body.length ≤ c.rtmpChunkMaxSize)
    (hb : mem.slice 0 (basicHeader 0 chunkId :: ((Fmt.fmt0 timestamp streamId).fields message ++
        be32Bytes timestamp ++ message.body)).length =
      basicHeader 0 chunkId :: ((Fmt.fmt0 timestamp streamId).fields message ++
        be32Bytes timestamp ++ message.body)) :
    ParsesMessage c mem (16 + message.body.length) chunkId timestamp message := by
  obtain ⟨hpayload, c', chunkInfo, hstep, hk, hsize, htype, htime⟩ :=
    chunkStep_extended c ((16 + message.body.length : Nat) : Int) hlo hhi hlen hext ht hb (by omega)
  have hidle' : (c'.rtmpChunk chunkId).lastMessageSize = 0 := by
    obtain ⟨x, hx⟩ := hk.chunk chunkId
    rw [hx]
    exact hidle
  rw [chunkBody_single c' chunkId chunkInfo 15 mem _ hidle'
    (by rw [hsize, hk.chunkSize]; exact hfits)
    (by omega) (by omega)] at hstep
  have hchunk := RtmpClient.setChunk_same c' chunkId
    { startMessage (c'.rtmpChunk chunkId) chunkInfo with lastMessageSize := 0 }
  have hd := delivered_deliver ((c'.setChunk chunkId
    { startMessage (c'.rtmpChunk chunkId) chunkInfo with lastMessageSize := 0 }).advance
      (15 + 1 + chunkInfo.messageSize)) chunkId (.window 16) chunkInfo.messageSize mem
  have hcall : rtmpProcessChunk c mem ((16 + message.body.length : Nat) : Int) =
      deliver ((c'.setChunk chunkId
        { startMessage (c'.rtmpChunk chunkId) chunkInfo with lastMessageSize := 0 }).advance
          (15 + 1 + chunkInfo.messageSize)) chunkId (.window 16) chunkInfo.messageSize mem := by
    unfold rtmpProcessChunk
    rw [hstep]
  rw [← hcall] at hd
  have hmessage : messageOf ((c'.setChunk chunkId
      { startMessage (c'.rtmpChunk chunkId) chunkInfo with lastMessageSize := 0 }).advance
        (15 + 1 + chunkInfo.messageSize)) chunkId (.window 16) chunkInfo.messageSize mem =
      ⟨chunkId, message.type.toNat, chunkInfo.messageStreamId, timestamp, message.body⟩ := by
    unfold messageOf
    change RtmpMessage.mk chunkId ((c'.setChunk chunkId _).rtmpChunk chunkId).messageType
      ((c'.setChunk chunkId _).rtmpChunk chunkId).messageStreamId
      ((c'.setChunk chunkId _).rtmpChunk chunkId).timeStamp
      ((mem.shift 16).slice 0 (chunkInfo.messageSize : Int).toNat) = _
    rw [hchunk, Mem.slice_shift, Int.toNat_natCast, hsize, Nat.add_zero, hpayload]
    change RtmpMessage.mk chunkId chunkInfo.messageType chunkInfo.messageStreamId
      chunkInfo.timeStamp message.body = _
    rw [htype, htime]
  have hparse : (rtmpProcessChunk c mem ((16 + message.body.length : Nat) : Int)).2.1.mIParsePos =
      ((16 + message.body.length : Nat) : Int) := by
    rw [hd.parsePos]
    change c'.mIParsePos + ((15 + 1 + chunkInfo.messageSize : Nat) : Int) = _
    rw [hk.parsePos, hpos, hsize]
    omega
  have hloop := client_chunkLoop_of_parsePos (15 + message.body.length) c mem
    ((16 + message.body.length : Nat) : Int)
    (by rw [hpos, Int.sub_zero, Int.toNat_zero, Mem.shift_zero]; exact hparse)
  rw [hpos, Int.sub_zero, Int.toNat_zero, Mem.shift_zero] at hloop
  have hfuel : 16 + message.body.length + 1 = 15 + message.body.length + 2 := by omega
  unfold ParsesMessage parseAll
  rw [hfuel, hloop]
  refine ⟨⟨chunkInfo.messageStreamId, ?_⟩, hparse⟩
  rw [hd.messages, hmessage]
  change c'.rtmpMessages ++ _ = _
  rw [hk.messages]

/-- The call on the second chunk of a message takes the first byte behind the basic header. -/
private theorem callHasByte_cont {c : RtmpClient} (hs : Sound c) {chunkId : Nat} (buf : Mem)
    (datalen : Int) (hlo : 2 ≤ chunkId) (hhi : chunkId < 64)
    (hpending : (c.rtmpChunk chunkId).lastMessageSize ≠ 0) (hpositive : 1 ≤ c.rtmpChunkMaxSize)
    (h0 : buf 0 = basicHeader 3 chunkId)
    (hd : ((1 + min c.rtmpChunkMaxSize (c.rtmpChunk chunkId).lastMessageSize : Nat) : Int) ≤
      datalen) :
    CallHasByte c (rtmpProcessChunk c buf datalen).2.1 chunkId
      (c.rtmpChunk chunkId).messageBufPos (buf 1) := by
  have hlen := chunkLen_eq c chunkId RtmpChunk.zero
  unfold leftover at hlen
  rw [if_neg hpending] at hlen
  have hstep := chunkStep_basicHeader c buf datalen 3 chunkId h0 (by omega) hlo hhi (by omega)
  have hheader : chunkHeader c 3 chunkId buf datalen = .parsed c RtmpChunk.zero 0 := by
    change headerFmt3 c datalen = _
    unfold headerFmt3
    rw [if_neg (by omega)]
  rw [hheader] at hstep
  have hbody : BodyStep c chunkId RtmpChunk.zero 0 buf
      (chunkBody c chunkId RtmpChunk.zero 0 buf datalen) :=
    bodyStep_chunkBody (hs chunkId) (by decide) (by rw [hlen]; omega)
  have hmsgs := hbody.messages
  unfold rtmpProcessChunk
  rw [hstep]
  rcases hbody.takesByte hs hpending hpositive with ⟨hret, hheld⟩ | ⟨data, dataLen, hmsg, hbyte⟩
  · dsimp only
    rw [hret]
    exact Or.inl ⟨hmsgs, hheld⟩
  · dsimp only
    rw [hmsg]
    have hd := delivered_deliver (chunkBody c chunkId RtmpChunk.zero 0 buf datalen).client chunkId
      data dataLen buf
    exact Or.inr ⟨_, by rw [← hmsgs]; exact hd.messages, fun _ ↦ hbyte⟩

/-- The client behind the first chunk of a longer message. -/
private theorem opened_extended {c : RtmpClient} {chunkId timestamp streamId : Nat}
    {message : Message} {mem : Mem} (size : Int) (hs : Sound c) (hlo : 2 ≤ chunkId)
    (hhi : chunkId < 64) (hidle : (c.rtmpChunk chunkId).lastMessageSize = 0)
    (hlen : message.body.length < 16777216) (hext : 0xffffff ≤ timestamp)
    (ht : timestamp < 4294967296) (hlong : c.rtmpChunkMaxSize < message.body.length)
    (hb : mem.slice 0 (basicHeader 0 chunkId :: ((Fmt.fmt0 timestamp streamId).fields message ++
        be32Bytes timestamp ++ message.body.take c.rtmpChunkMaxSize)).length =
      basicHeader 0 chunkId :: ((Fmt.fmt0 timestamp streamId).fields message ++
        be32Bytes timestamp ++ message.body.take c.rtmpChunkMaxSize))
    (hd : ((16 + c.rtmpChunkMaxSize : Nat) : Int) ≤ size) :
    ∃ c', rtmpProcessChunk c mem size = (.ok 0, c', mem) ∧ Sound c' ∧
      c'.mIParsePos = c.mIParsePos + ((16 + c.rtmpChunkMaxSize : Nat) : Int) ∧
      c'.rtmpMessages = c.rtmpMessages ∧ c'.rtmpChunkMaxSize = c.rtmpChunkMaxSize ∧
      (c'.rtmpChunk chunkId).lastMessageSize = message.body.length - c.rtmpChunkMaxSize ∧
      (c'.rtmpChunk chunkId).messageBufPos = c.rtmpChunkMaxSize := by
  obtain ⟨-, c₁, chunkInfo, hstep, hk, hms, -, -⟩ :=
    chunkStep_extended c size hlo hhi hlen hext ht hb (by omega)
  have hidle₁ : (c₁.rtmpChunk chunkId).lastMessageSize = 0 := by
    obtain ⟨x, hx⟩ := hk.chunk chunkId
    rw [hx]
    exact hidle
  have hcs := hk.chunkSize
  have hlen₁ := chunkLen_eq c₁ chunkId chunkInfo
  unfold leftover at hlen₁
  rw [if_pos hidle₁, hcs, hms] at hlen₁
  have hbody : BodyStep c₁ chunkId chunkInfo 15 mem (chunkBody c₁ chunkId chunkInfo 15 mem size) :=
    bodyStep_chunkBody ((hs.headerKept hk) chunkId) (by omega) (by omega)
  rw [chunkBody_first c₁ chunkId chunkInfo 15 mem size hidle₁ (by rw [hms, hcs]; exact hlong)
    (by omega) (by rw [hcs]; omega)] at hstep hbody
  have hchunk := RtmpClient.setChunk_same c₁.newBuffer.2 chunkId
    (((c₁.rtmpChunk chunkId).opened chunkInfo c₁.newBuffer.1).copied c₁.newBuffer.1
      (mem.slice (15 + 1) c₁.rtmpChunkMaxSize))
  unfold rtmpProcessChunk
  rw [hstep]
  refine ⟨_, rfl, hbody.sound (hs.headerKept hk) (by omega), ?_, hbody.messages.trans hk.messages,
    hcs, ?_, ?_⟩
  · have hparse := hbody.parsePos
    rw [hk.parsePos] at hparse
    refine hparse.trans ?_
    omega
  · refine (congrArg RtmpChunk.lastMessageSize hchunk).trans ?_
    simp only [RtmpChunk.copied, RtmpChunk.opened, startMessage, Mem.length_slice, hms, hcs]
  · refine (congrArg RtmpChunk.messageBufPos hchunk).trans ?_
    simp only [RtmpChunk.copied, RtmpChunk.opened, Mem.length_slice, hcs, Nat.zero_add]

/-- A longer message comes out with the first byte of the timestamp in its body, if it comes
out at all. -/
private theorem byte_of_parsesMessage {c : RtmpClient} {chunkId timestamp streamId size : Nat}
    {message : Message} {mem : Mem} (hs : Sound c) (hlo : 2 ≤ chunkId) (hhi : chunkId < 64)
    (hidle : (c.rtmpChunk chunkId).lastMessageSize = 0) (hpos : c.mIParsePos = 0)
    (hlen : message.body.length < 16777216) (hext : 0xffffff ≤ timestamp)
    (ht : timestamp < 4294967296) (hpositive : 1 ≤ c.rtmpChunkMaxSize)
    (hlong : c.rtmpChunkMaxSize < message.body.length)
    (hb : mem.slice 0 (basicHeader 0 chunkId :: ((Fmt.fmt0 timestamp streamId).fields message ++
        be32Bytes timestamp ++ message.body.take c.rtmpChunkMaxSize)).length =
      basicHeader 0 chunkId :: ((Fmt.fmt0 timestamp streamId).fields message ++
        be32Bytes timestamp ++ message.body.take c.rtmpChunkMaxSize))
    (hcont : mem (16 + c.rtmpChunkMaxSize) = basicHeader 3 chunkId)
    (hsize : 16 + c.rtmpChunkMaxSize +
      (1 + min c.rtmpChunkMaxSize (message.body.length - c.rtmpChunkMaxSize)) ≤ size)
    (hp : ParsesMessage c mem size chunkId timestamp message) :
    message.body[c.rtmpChunkMaxSize]? = some (mem (16 + c.rtmpChunkMaxSize + 1)) := by
  obtain ⟨c', hcall, hs', hpos', hmsgs', hcs', hlast', hbufPos'⟩ :=
    opened_extended (size : Int) hs hlo hhi hidle hlen hext ht hlong hb (by omega)
  have hnat : c'.mIParsePos.toNat = 16 + c.rtmpChunkMaxSize := by omega
  obtain ⟨fuel, rfl⟩ : ∃ k, size = k + 1 := ⟨size - 1, by omega⟩
  -- the call on the second chunk
  have hsecond := callHasByte_cont hs' (mem.shift c'.mIParsePos.toNat)
    (((fuel + 1 : Nat) : Int) - c'.mIParsePos) hlo hhi (by omega) (by omega)
    (by rw [hnat]; exact hcont) (by omega)
  obtain ⟨msgs, hmsgs, hfirst⟩ :=
    firstHasByte_of_call fuel hs' mem ((fuel + 1 : Nat) : Int) hsecond
      fun hs'' mem' hb' ↦ chunkLoop_holdsByte fuel hs'' mem' _ hb'
  have hloop : (parseAll c mem (fuel + 1)).client =
      (chunkLoop (fuel + 1) c' mem ((fuel + 1 : Nat) : Int)).client := by
    unfold parseAll
    rw [chunkLoop_succ]
    simp only [hpos, Int.toNat_zero, Mem.shift_zero, Int.sub_zero, hcall, if_pos,
      Mem.splice_zero]
  obtain ⟨⟨id, hrecorded⟩, -⟩ := hp
  rw [hloop, hmsgs, hmsgs'] at hrecorded
  have hone := List.append_cancel_left hrecorded
  have hbyte := hfirst _ (by rw [hone]; rfl) rfl
  rw [hbufPos', hnat] at hbyte
  exact hbyte

/-! ### The bytes of the message -/

private theorem bytes_start_extended (s : Sender) (chunkId timestamp streamId : Nat)
    (message : Message) (hext : 0xffffff ≤ timestamp) :
    s.bytes (.start chunkId (.fmt0 timestamp streamId) message) =
      basicHeader 0 chunkId :: ((Fmt.fmt0 timestamp streamId).fields message ++
        be32Bytes timestamp ++ message.body.take s.chunkSize) := by
  have hof : extendedOf timestamp = some timestamp := by
    unfold extendedOf
    rw [if_neg (by omega)]
  simp only [Sender.bytes, Fmt.extended, hof, extendedBytes]
  rfl

private theorem length_bytes_start_extended (s : Sender) (chunkId timestamp streamId : Nat)
    (message : Message) (hext : 0xffffff ≤ timestamp) :
    (s.bytes (.start chunkId (.fmt0 timestamp streamId) message)).length =
      16 + min s.chunkSize message.body.length := by
  rw [bytes_start_extended s chunkId timestamp streamId message hext, List.length_cons,
    List.length_append, List.length_take]
  change 15 + _ + 1 = _
  omega

/-- The bytes of the second chunk of a longer message. -/
private theorem bytes_cont_extended (s : Sender) (chunkId timestamp streamId : Nat)
    (message : Message) (hext : 0xffffff ≤ timestamp) (hlong : s.chunkSize < message.body.length) :
    (s.next (.start chunkId (.fmt0 timestamp streamId) message)).bytes (.cont chunkId) =
      basicHeader 3 chunkId :: (be32Bytes timestamp ++
        (message.body.drop s.chunkSize).take s.chunkSize) := by
  have hof : extendedOf timestamp = some timestamp := by
    unfold extendedOf
    rw [if_neg (by omega)]
  have hpending :
      (s.laneAfter (.start chunkId (.fmt0 timestamp streamId) message)).pending ≠ [] := by
    change message.body.drop s.chunkSize ≠ []
    intro h
    have := List.drop_eq_nil_iff.1 h
    omega
  have hlane := next_lane_same s (.start chunkId (.fmt0 timestamp streamId) message)
  have hsize := next_chunkSize_open hpending
  simp only [Chunk.chunkId] at hlane
  simp only [Sender.bytes, hlane, hsize]
  simp only [Sender.laneAfter, Lane.start, Fmt.extended, hof, extendedBytes]

/-- A message with an extended timestamp is parsed if its body fits one chunk; and where the
body byte at the chunk size is not by chance the first byte of the timestamp, only then. -/
theorem rtmpProcessChunk_extended (c : RtmpClient) (hs : Sound c) (hpos : c.mIParsePos = 0)
    (hpositive : 1 ≤ c.rtmpChunkMaxSize) (chunkId timestamp streamId : Nat) (message : Message)
    (hlo : 2 ≤ chunkId) (hhi : chunkId < 64)
    (hidle : (c.rtmpChunk chunkId).lastMessageSize = 0)
    (hlen : message.body.length < 16777216) (hext : 0xffffff ≤ timestamp)
    (ht : timestamp < 4294967296) (mem : Mem)
    (hb : mem.slice 0 ((Sender.init c.rtmpChunkMaxSize fun _ ↦ 0).stream
        (messageChunks c.rtmpChunkMaxSize chunkId timestamp streamId message)).length =
      (Sender.init c.rtmpChunkMaxSize fun _ ↦ 0).stream
        (messageChunks c.rtmpChunkMaxSize chunkId timestamp streamId message)) :
    let size := ((Sender.init c.rtmpChunkMaxSize fun _ ↦ 0).stream
      (messageChunks c.rtmpChunkMaxSize chunkId timestamp streamId message)).length
    (message.body.length ≤ c.rtmpChunkMaxSize →
        ParsesMessage c mem size chunkId timestamp message) ∧
      (message.body[c.rtmpChunkMaxSize]? ≠ some (UInt8.ofNat (timestamp / 16777216)) →
        (ParsesMessage c mem size chunkId timestamp message ↔
          message.body.length ≤ c.rtmpChunkMaxSize)) := by
  have hshort : message.body.length ≤ c.rtmpChunkMaxSize → ParsesMessage c mem
      ((Sender.init c.rtmpChunkMaxSize fun _ ↦ 0).stream
        (messageChunks c.rtmpChunkMaxSize chunkId timestamp streamId message)).length
      chunkId timestamp message := by
    intro hfits
    have hdiv : (message.body.length - 1) / c.rtmpChunkMaxSize = 0 :=
      Nat.div_eq_of_lt (by omega)
    have hstart := bytes_start_extended (Sender.init c.rtmpChunkMaxSize fun _ ↦ 0) chunkId timestamp
      streamId message hext
    have hlength := length_bytes_start_extended (Sender.init c.rtmpChunkMaxSize fun _ ↦ 0) chunkId
      timestamp streamId message hext
    simp only [messageChunks, hdiv, List.replicate_zero, Sender.stream, List.append_nil]
      at hb ⊢
    rw [hlength]
    rw [hstart] at hb
    simp only [Sender.init] at hb ⊢
    rw [List.take_of_length_le hfits] at hb
    rw [Nat.min_eq_right hfits]
    exact parsesMessage_of_le hlo hhi hidle hpos hlen hext ht hfits hb
  refine ⟨hshort, fun hbyte ↦ ⟨fun hp ↦ ?_, hshort⟩⟩
  by_contra hmore
  have hlong : c.rtmpChunkMaxSize < message.body.length := by omega
  refine hbyte ?_
  obtain ⟨k, hk⟩ : ∃ k, (message.body.length - 1) / c.rtmpChunkMaxSize = k + 1 := by
    have hone : 1 ≤ (message.body.length - 1) / c.rtmpChunkMaxSize :=
      (Nat.one_le_div_iff (by omega)).2 (by omega)
    exact ⟨_ - 1, (Nat.sub_add_cancel hone).symm⟩
  have hstart := bytes_start_extended (Sender.init c.rtmpChunkMaxSize fun _ ↦ 0) chunkId timestamp
    streamId message hext
  have hlength := length_bytes_start_extended (Sender.init c.rtmpChunkMaxSize fun _ ↦ 0) chunkId
    timestamp streamId message hext
  have hcont := bytes_cont_extended (Sender.init c.rtmpChunkMaxSize fun _ ↦ 0) chunkId timestamp
    streamId message hext hlong
  simp only [messageChunks, hk, List.replicate_succ, Sender.stream] at hb hp
  obtain ⟨hb₁, hb₂⟩ := (Mem.slice_append_iff mem 0 _ _).1 hb
  rw [Nat.zero_add] at hb₂
  obtain ⟨hb₃, -⟩ := (Mem.slice_append_iff mem _ _ _).1 hb₂
  have hsize : ((Sender.init c.rtmpChunkMaxSize fun _ ↦ 0).bytes
      (.start chunkId (.fmt0 timestamp streamId) message)).length = 16 + c.rtmpChunkMaxSize := by
    rw [hlength]
    change 16 + min c.rtmpChunkMaxSize message.body.length = _
    omega
  rw [hcont, hsize] at hb₃
  have h0 := Mem.apply_of_slice mem _ _ hb₃ 0 (by rw [List.length_cons]; omega)
  have h1 := Mem.apply_of_slice mem _ _ hb₃ 1
    (by rw [List.length_cons, List.length_append, length_be32Bytes]; omega)
  rw [hstart] at hb₁
  have hresult := byte_of_parsesMessage hs hlo hhi hidle hpos hlen hext ht hpositive hlong hb₁ h0
    ?_ hp
  · rw [hresult, h1]
    rfl
  · rw [List.length_append, List.length_append, hsize, hcont, List.length_cons, List.length_append,
      List.length_take, List.length_drop]
    change 16 + c.rtmpChunkMaxSize + _ ≤
      16 + c.rtmpChunkMaxSize + (4 + min c.rtmpChunkMaxSize _ + 1 + _)
    omega

/-- A body of two bytes at chunk size two. -/
theorem rtmpProcessChunk_extended_two_bytes :
    let c := { started blankClient [] [] [] with rtmpChunkMaxSize := 2 }
    let stream := (Sender.init 2 fun _ ↦ 0).stream (messageChunks 2 3 0x1000000 1 ⟨0x12, [1, 2]⟩)
    (2 ≤ 2 → ParsesMessage c (Mem.ofList stream) stream.length 3 0x1000000 ⟨0x12, [1, 2]⟩) ∧
      (([1, 2] : List UInt8)[2]? ≠ some (UInt8.ofNat (0x1000000 / 16777216)) →
        (ParsesMessage c (Mem.ofList stream) stream.length 3 0x1000000 ⟨0x12, [1, 2]⟩ ↔
          2 ≤ 2)) :=
  rtmpProcessChunk_extended { started blankClient [] [] [] with rtmpChunkMaxSize := 2 }
    (sound_of_idle fun _ ↦ rfl) rfl (by decide) 3 0x1000000 1 ⟨0x12, [1, 2]⟩ (by decide)
    (by decide) rfl (by decide) (by decide) (by decide) (Mem.ofList _) (Mem.slice_ofList _)

/-- A body of three bytes at chunk size two comes out with a byte of the timestamp in it, and
bytes are left over. -/
theorem rtmpProcessChunk_corrupts_extended :
    let c := { started blankClient [] [] [] with rtmpChunkMaxSize := 2 }
    let stream :=
      (Sender.init 2 fun _ ↦ 0).stream (messageChunks 2 3 0x1000000 1 ⟨0x12, [1, 2, 3]⟩)
    let r := parseAll c (Mem.ofList stream) stream.length
    r.client.rtmpMessages.map (fun m ↦ (m.chunkId, m.timeStamp, m.body)) =
        [(3, 0x1000000, [1, 2, 1])] ∧
      r.client.mIParsePos ≠ stream.length := by
  decide

end RtmpRecv.Client
