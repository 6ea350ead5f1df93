import Mathlib.Data.List.Forall2
import RtmpRecv.Client.Header

/-!
# The chunk parser follows the chunk stream rules

Library `Client`. A relation ties the client to the sending side: for each chunk stream,
`last_message_size` is what is left of the open message and `message_buf` holds what came of
it. One step of the parser keeps the relation for every chunk that the parser can read; a run
of the inner loop delivers what the sender completes.
-/

namespace RtmpRecv.Client
open RtmpRecv.Base RtmpRecv.Wire

/-- The chunks whose bytes the parser takes as the rules mean them. An extended timestamp is
skipped in the first chunk of a message only, and a header without length and type reads as
one of length zero and type zero. -/
def Parsable (s : Sender) : Wire.Chunk → Prop
  | .start _ (.fmt0 timestamp _) message =>
    0xffffff ≤ timestamp → message.body.length ≤ s.chunkSize
  | .start _ (.fmt1 delta) message => 0xffffff ≤ delta → message.body.length ≤ s.chunkSize
  | .start chunkId (.fmt2 _) _ =>
    (s.lane chunkId).message = ⟨0, []⟩ ∧ (s.lane chunkId).streamId = 0
  | .start chunkId .fmt3 _ =>
    (s.lane chunkId).message = ⟨0, []⟩ ∧ (s.lane chunkId).streamId = 0 ∧
      (s.lane chunkId).extended = none
  | .cont _ => True

/-- The timestamp that the client adds a delta of `type` to, seen from the sender. -/
def clientBase (s : Sender) (type : UInt8) : Nat :=
  if type = 8 ∨ type = 9 then s.latest type else 0

/-- The messages whose timestamp the client gets right: those with an absolute timestamp, and
those whose delta is meant relative to what the client adds it to. -/
def InTime (s : Sender) : Wire.Chunk → Prop
  | .start _ (.fmt0 _ _) _ => True
  | .start chunkId (.fmt1 _) message =>
    clientBase s message.type = (s.lane chunkId).timestamp
  | .start _ (.fmt2 _) _ => False
  | .start _ .fmt3 _ => False
  | .cont _ => True

instance (s : Sender) : (chunk : Wire.Chunk) → Decidable (Parsable s chunk)
  | .start _ (.fmt0 timestamp _) message =>
    inferInstanceAs (Decidable (0xffffff ≤ timestamp → message.body.length ≤ s.chunkSize))
  | .start _ (.fmt1 delta) message =>
    inferInstanceAs (Decidable (0xffffff ≤ delta → message.body.length ≤ s.chunkSize))
  | .start chunkId (.fmt2 _) _ =>
    inferInstanceAs (Decidable ((s.lane chunkId).message = ⟨0, []⟩ ∧
      (s.lane chunkId).streamId = 0))
  | .start chunkId .fmt3 _ =>
    inferInstanceAs (Decidable ((s.lane chunkId).message = ⟨0, []⟩ ∧
      (s.lane chunkId).streamId = 0 ∧ (s.lane chunkId).extended = none))
  | .cont _ => inferInstanceAs (Decidable True)

instance (s : Sender) : (chunk : Wire.Chunk) → Decidable (InTime s chunk)
  | .start _ (.fmt0 _ _) _ => inferInstanceAs (Decidable True)
  | .start chunkId (.fmt1 _) message =>
    inferInstanceAs (Decidable (clientBase s message.type = (s.lane chunkId).timestamp))
  | .start _ (.fmt2 _) _ => inferInstanceAs (Decidable False)
  | .start _ .fmt3 _ => inferInstanceAs (Decidable False)
  | .cont _ => inferInstanceAs (Decidable True)

/-- A call of `rtmp_process_message` is the one due for a message of the sender. The timestamp
counts when `timed` holds, the message stream id when the header left it out. -/
structure Matches (timed : Prop) (d : Delivery) (m : RtmpMessage) : Prop where
  chunkId : m.chunkId = d.chunkId
  type : m.messageType = d.message.type.toNat
  body : m.body = d.message.body
  time : timed → m.timeStamp = d.timestamp
  streamId : d.fmt.Inherits → m.messageStreamId = d.streamId

/-- The chunk stream of the client while a message is open on it. -/
structure OpenRep (timed : Prop) (l : Lane) (k : RtmpChunk) : Prop where
  size : k.messageSize = l.message.body.length
  bound : l.message.body.length < 16777216
  type : k.messageType = l.message.type.toNat
  time : timed → k.timeStamp = l.timestamp
  named : ¬l.fmt.Inherits
  extended : l.extended = none
  room : k.messageBufLen = newMessageBufLen k.messageSize
  setSize : l.message.type = 1 →
    l.message.body.length = 4 ∧ 1 ≤ chunkSizeValue l.message.body
  buf : ∃ m, k.messageBuf = some m ∧ m.slice 0 k.messageBufPos ++ l.pending = l.message.body

/-- A chunk stream of the client and of the sender. -/
structure LaneRep (timed : Prop) (l : Lane) (k : RtmpChunk) : Prop where
  last : k.lastMessageSize = l.pending.length
  pending : l.pending ≠ [] → OpenRep timed l k

/-- The client and the sender. -/
structure Rep (timed : Prop) (s : Sender) (c : RtmpClient) : Prop where
  chunkSize : c.rtmpChunkMaxSize = s.chunkSize
  positive : 1 ≤ s.chunkSize
  lane : ∀ i, 2 ≤ i → i < 64 → LaneRep timed (s.lane i) (c.rtmpChunk i)
  audio : timed → c.rtmpLastAudioTimestamp = s.latest 8
  video : timed → c.rtmpLastVideoTimestamp = s.latest 9

/-- What a call of `rtmp_process_chunk` does with a chunk of `n` bytes that leads the sender to
`s'` and completes `d`. -/
structure Stepped (timed : Prop) (s' : Sender) (d : Option Delivery) (n : Nat) (call : ChunkCall)
    (ret : Except Fault Int) (c' : RtmpClient) (buf' : Mem) : Prop where
  parsePos : c'.mIParsePos = call.client.mIParsePos + n
  mem : ∀ i, n ≤ i → buf' i = call.bufdata i
  messages : ∃ msgs, c'.rtmpMessages = call.client.rtmpMessages ++ msgs ∧
    List.Forall₂ (Matches timed) d.toList msgs
  next : ret = .ok 0 → Rep timed s' c'
  result : ret = .ok 0 ∨ call.HandlerFails ret

/-! ### Bytes of a chunk -/

private theorem slice_cons (m : Mem) (b : UInt8) (xs : List UInt8)
    (h : m.slice 0 (b :: xs).length = b :: xs) : m 0 = b ∧ m.slice 1 xs.length = xs := by
  rw [List.length_cons, Mem.slice_succ] at h
  exact ⟨List.head_eq_of_cons_eq h, List.tail_eq_of_cons_eq h⟩

/-- The parts of a chunk in the window. -/
theorem slice_parts (m : Mem) (b : UInt8) (xs ys zs : List UInt8)
    (h : m.slice 0 (b :: (xs ++ ys ++ zs)).length = b :: (xs ++ ys ++ zs)) :
    m 0 = b ∧ m.slice 1 xs.length = xs ∧ m.slice (1 + xs.length) ys.length = ys ∧
      m.slice (1 + xs.length + ys.length) zs.length = zs := by
  obtain ⟨h0, h1⟩ := slice_cons m b _ h
  obtain ⟨h2, h3⟩ := (Mem.slice_append_iff m 1 (xs ++ ys) zs).1 h1
  obtain ⟨h4, h5⟩ := (Mem.slice_append_iff m 1 xs ys).1 h2
  rw [List.length_append, ← Nat.add_assoc] at h3
  exact ⟨h0, h4, h5, h3⟩

/-! ### Headers -/

private theorem toNat_eq_iff (a b : UInt8) : a.toNat = b.toNat ↔ a = b := UInt8.toNat_inj

/-- The latest timestamps of the client stay those of the sender when a message starts. -/
private theorem latest_start {timed : Prop} {s : Sender} {c c' : RtmpClient}
    (hr : Rep timed s c) (chunkId : Nat) (fmt : Fmt) (message : Message) (time : Nat)
    (hl : LatestSet c c' message.type.toNat time)
    (ht : timed → time = fmt.timestamp (s.lane chunkId)) :
    timed → c'.rtmpLastAudioTimestamp = (s.next (.start chunkId fmt message)).latest 8 ∧
      c'.rtmpLastVideoTimestamp = (s.next (.start chunkId fmt message)).latest 9 := by
  intro h
  have h8 : message.type.toNat = 8 ↔ (8 : UInt8) = message.type :=
    (toNat_eq_iff message.type 8).trans eq_comm
  have h9 : message.type.toNat = 9 ↔ (9 : UInt8) = message.type :=
    (toNat_eq_iff message.type 9).trans eq_comm
  have ha := hl.audio
  have hv := hl.video
  rw [hr.audio h, ht h] at ha
  rw [hr.video h, ht h] at hv
  simp only [h8] at ha
  simp only [h9] at hv
  exact ⟨ha, hv⟩

/-- The timestamp the client computes from a delta that is meant relative to its base. -/
private theorem timeAfter_eq {timed : Prop} {s : Sender} {c : RtmpClient} (hr : Rep timed s c)
    (type : UInt8) (chunkId delta : Nat) (h : timed)
    (hb : clientBase s type = (s.lane chunkId).timestamp) :
    c.timeAfter type.toNat delta = (Fmt.fmt1 delta).timestamp (s.lane chunkId) := by
  have h8 : type.toNat = 8 ↔ type = 8 := toNat_eq_iff type 8
  have h9 : type.toNat = 9 ↔ type = 9 := toNat_eq_iff type 9
  have hbase : c.timeBase type.toNat = clientBase s type := by
    unfold RtmpClient.timeBase clientBase
    rw [hr.audio h, hr.video h]
    simp only [h8, h9]
    by_cases k8 : type = 8
    · simp [k8]
    · by_cases k9 : type = 9
      · simp [k9]
      · simp [k8, k9]
  unfold RtmpClient.timeAfter Fmt.timestamp
  rw [hbase, hb, Nat.add_comm]

/-- What the header of a first chunk yields. -/
structure HeaderRead (timed : Prop) (s : Sender) (c : RtmpClient) (chunkId : Nat) (fmt : Fmt)
    (message : Message) (c' : RtmpClient) (chunkInfo : RtmpChunk) : Prop where
  kept : HeaderKept c c'
  size : chunkInfo.messageSize = message.body.length
  type : chunkInfo.messageType = message.type.toNat
  time : timed → chunkInfo.timeStamp = fmt.timestamp (s.lane chunkId)
  streamId : fmt.Inherits → chunkInfo.messageStreamId = fmt.streamId (s.lane chunkId)
  latest : timed →
    c'.rtmpLastAudioTimestamp = (s.next (.start chunkId fmt message)).latest 8 ∧
      c'.rtmpLastVideoTimestamp = (s.next (.start chunkId fmt message)).latest 9

private theorem chunkHeader_start {timed : Prop} {s : Sender} {c : RtmpClient}
    (hr : Rep timed s c) (chunkId : Nat) (fmt : Fmt) (message : Message)
    (hw : s.WellFormed (.start chunkId fmt message)) (hp : Parsable s (.start chunkId fmt message))
    (ht : timed → InTime s (.start chunkId fmt message)) (m : Mem) (datalen : Int)
    (hf : m.slice 1 (fmt.fields message).length = fmt.fields message)
    (he : m.slice (1 + (fmt.fields message).length)
        (extendedBytes (fmt.extended (s.lane chunkId))).length =
      extendedBytes (fmt.extended (s.lane chunkId)))
    (hd : ((1 + (fmt.fields message).length +
      (extendedBytes (fmt.extended (s.lane chunkId))).length : Nat) : Int) ≤ datalen) :
    ∃ c' chunkInfo, chunkHeader c fmt.toNat chunkId m datalen =
        .parsed c' chunkInfo ((fmt.fields message).length +
          (extendedBytes (fmt.extended (s.lane chunkId))).length) ∧
      HeaderRead timed s c chunkId fmt message c' chunkInfo := by
  obtain ⟨-, -, hlen, hrange, -, hinherit⟩ := hw
  cases fmt with
  | fmt0 time streamId =>
    obtain ⟨c', id, hparsed, hk, hl⟩ := headerFmt0_wire c chunkId m datalen message time streamId
      hlen hrange.1 hf he hd
    exact ⟨c', _, hparsed,
      { kept := hk, size := rfl, type := rfl, time := fun _ ↦ rfl, streamId := fun h ↦ h.elim
        latest := latest_start hr chunkId _ message time hl fun _ ↦ rfl }⟩
  | fmt1 delta =>
    obtain ⟨c', hparsed, hk, hl⟩ := headerFmt1_wire c chunkId m datalen message delta hlen hrange
      hf he hd
    have htime : timed → c.timeAfter message.type.toNat delta =
        (Fmt.fmt1 delta).timestamp (s.lane chunkId) :=
      fun h ↦ timeAfter_eq hr message.type chunkId delta h (ht h)
    exact ⟨c', _, hparsed,
      { kept := hk, size := rfl, type := rfl, time := htime, streamId := fun h ↦ h.elim
        latest := latest_start hr chunkId _ message _ hl htime }⟩
  | fmt2 delta =>
    obtain ⟨c', time, hparsed, hk⟩ := headerFmt2_wire c m datalen message delta hrange hf he hd
    obtain ⟨-, htype, hbody⟩ := hinherit trivial
    obtain ⟨hempty, hid⟩ := hp
    rw [hempty] at htype hbody
    exact ⟨c', _, hparsed,
      { kept := hk, size := hbody.symm, type := by rw [htype]; rfl, time := fun h ↦ (ht h).elim
        streamId := fun _ ↦ hid.symm, latest := fun h ↦ (ht h).elim }⟩
  | fmt3 =>
    obtain ⟨-, htype, hbody⟩ := hinherit trivial
    obtain ⟨hempty, hid, hext⟩ := hp
    rw [hempty] at htype hbody
    have hlen3 : (Fmt.fields message Fmt.fmt3).length +
        (extendedBytes (Fmt.extended (s.lane chunkId) Fmt.fmt3)).length = 0 := by
      simp only [Fmt.extended, hext]
      rfl
    refine ⟨c, RtmpChunk.zero, ?_,
      { kept := HeaderKept.refl c, size := hbody.symm, type := by rw [htype]; rfl
        time := fun h ↦ (ht h).elim, streamId := fun _ ↦ hid.symm
        latest := fun h ↦ (ht h).elim }⟩
    rw [hlen3]
    change headerFmt3 c datalen = _
    unfold headerFmt3
    rw [if_neg (by omega)]

/-! ### A message that is complete -/

/-- A parsed header does not touch what a chunk stream has received. -/
private theorem laneRep_headerKept {timed : Prop} {l : Lane} {c c' : RtmpClient} {i : Nat}
    (h : HeaderKept c c') (hl : LaneRep timed l (c.rtmpChunk i)) :
    LaneRep timed l (c'.rtmpChunk i) := by
  obtain ⟨b, hb⟩ := h.chunk i
  rw [hb]
  refine ⟨hl.last, fun hp ↦ ?_⟩
  obtain ⟨h1, h2, h3, h4, h5, h6, h7, h8, h9⟩ := hl.pending hp
  exact ⟨h1, h2, h3, h4, h5, h6, h7, h8, h9⟩

private theorem completes_of_pending {s : Sender} {chunk : Wire.Chunk}
    (h : (s.laneAfter chunk).pending = []) :
    s.completes chunk = some ⟨chunk.chunkId, (s.laneAfter chunk).message,
      (s.laneAfter chunk).fmt, (s.laneAfter chunk).streamId, (s.laneAfter chunk).timestamp⟩ := by
  unfold Sender.completes
  rw [if_pos h]

private theorem completes_eq_none {s : Sender} {chunk : Wire.Chunk}
    (h : (s.laneAfter chunk).pending ≠ []) : s.completes chunk = none := by
  unfold Sender.completes
  rw [if_neg h]

private theorem next_chunkSize {s : Sender} {chunk : Wire.Chunk}
    (h : (s.laneAfter chunk).pending = []) :
    (s.next chunk).chunkSize =
      if (s.laneAfter chunk).message.type = 1 then
        chunkSizeValue (s.laneAfter chunk).message.body
      else s.chunkSize := by
  unfold Sender.next
  rw [completes_of_pending h]

theorem next_chunkSize_open {s : Sender} {chunk : Wire.Chunk}
    (h : (s.laneAfter chunk).pending ≠ []) : (s.next chunk).chunkSize = s.chunkSize := by
  unfold Sender.next
  rw [completes_eq_none h]

theorem next_lane_same (s : Sender) (chunk : Wire.Chunk) :
    (s.next chunk).lane chunk.chunkId = s.laneAfter chunk := by
  unfold Sender.next
  exact if_pos rfl

private theorem next_lane_other (s : Sender) (chunk : Wire.Chunk) {i : Nat}
    (h : i ≠ chunk.chunkId) : (s.next chunk).lane i = s.lane i := by
  unfold Sender.next
  exact if_neg h

/-- A four-byte body as the handler of Set Chunk Size reads it. -/
private theorem chunkSizeValue_eq (m : Mem) (body : List UInt8)
    (h : m.slice 0 body.length = body) (hl : body.length = 4) :
    be32 (m 0) (m 1) (m 2) (m 3) = chunkSizeValue body := by
  have hb := Mem.apply_of_slice m 0 body h
  simp only [Nat.zero_add] at hb
  unfold chunkSizeValue
  rw [List.getD_eq_getElem _ _ (by omega), List.getD_eq_getElem _ _ (by omega),
    List.getD_eq_getElem _ _ (by omega), List.getD_eq_getElem _ _ (by omega), hb 0, hb 1, hb 2,
    hb 3]

/-- The client at the call of the handler for the message that `chunk` completes. -/
structure Due (timed : Prop) (s : Sender) (chunk : Wire.Chunk) (c : RtmpClient)
    (data : MessageData) (dataLen : Int) (buf : Mem) : Prop where
  done : (s.laneAfter chunk).pending = []
  chunkSize : c.rtmpChunkMaxSize = s.chunkSize
  positive : 1 ≤ s.chunkSize
  lane : ∀ i, i ≠ chunk.chunkId → 2 ≤ i → i < 64 → LaneRep timed (s.lane i) (c.rtmpChunk i)
  last : (c.rtmpChunk chunk.chunkId).lastMessageSize = 0
  latest : timed → c.rtmpLastAudioTimestamp = (s.next chunk).latest 8 ∧
    c.rtmpLastVideoTimestamp = (s.next chunk).latest 9
  type : (c.rtmpChunk chunk.chunkId).messageType = (s.laneAfter chunk).message.type.toNat
  time : timed → (c.rtmpChunk chunk.chunkId).timeStamp = (s.laneAfter chunk).timestamp
  streamId : (s.laneAfter chunk).fmt.Inherits →
    (c.rtmpChunk chunk.chunkId).messageStreamId = (s.laneAfter chunk).streamId
  body : (data.mem buf).slice 0 dataLen.toNat = (s.laneAfter chunk).message.body
  setSize : (s.laneAfter chunk).message.type = 1 → (s.laneAfter chunk).message.body.length = 4 ∧
    1 ≤ chunkSizeValue (s.laneAfter chunk).message.body

/-- The chunk size after the handler is the sender's. -/
private theorem Due.chunkSizeAfter_eq {timed : Prop} {s : Sender} {chunk : Wire.Chunk}
    {c : RtmpClient} {data : MessageData} {dataLen : Int} {buf : Mem}
    (h : Due timed s chunk c data dataLen buf) :
    chunkSizeAfter c (c.rtmpChunk chunk.chunkId) (data.mem buf) = (s.next chunk).chunkSize := by
  have hone : (c.rtmpChunk chunk.chunkId).messageType = 1 ↔
      (s.laneAfter chunk).message.type = 1 := by
    rw [h.type]
    exact toNat_eq_iff _ 1
  rw [next_chunkSize h.done]
  unfold chunkSizeAfter
  by_cases ht : (s.laneAfter chunk).message.type = 1
  · have hb := h.body
    have hl := congrArg List.length hb
    rw [Mem.length_slice] at hl
    rw [hl] at hb
    rw [if_pos (hone.2 ht), if_pos ht]
    exact chunkSizeValue_eq _ _ hb (h.setSize ht).1
  · rw [if_neg (fun hc ↦ ht (hone.1 hc)), if_neg ht, h.chunkSize]

private theorem Due.next {timed : Prop} {s : Sender} {chunk : Wire.Chunk} {c c' : RtmpClient}
    {data : MessageData} {dataLen : Int} {buf buf' : Mem} {ret : Except Fault Int}
    (h : Due timed s chunk c data dataLen buf)
    (hd : Delivered c chunk.chunkId data dataLen buf ret c' buf') (hret : ret = .ok 0) :
    Rep timed (s.next chunk) c' := by
  refine ⟨?_, ?_, ?_, ?_, ?_⟩
  · rw [hd.chunkSize hret, h.chunkSizeAfter_eq]
  · rw [next_chunkSize h.done]
    split
    · next ht => exact (h.setSize ht).2
    · exact h.positive
  · intro i hlo hhi
    by_cases hi : i = chunk.chunkId
    · subst hi
      obtain ⟨b, hb⟩ := hd.same
      rw [next_lane_same, hb]
      refine ⟨?_, fun hp ↦ absurd h.done hp⟩
      rw [h.done]
      exact h.last
    · rw [next_lane_other s chunk hi, hd.other i hi]
      exact h.lane i hi hlo hhi
  · intro ht
    rw [hd.audio, (h.latest ht).1]
  · intro ht
    rw [hd.video, (h.latest ht).2]

/-- The handler of a due message is called once, with that message. -/
private theorem Due.stepped {timed : Prop} {s : Sender} {chunk : Wire.Chunk} {n : Nat}
    {call : ChunkCall} {c : RtmpClient} {data : MessageData} {dataLen : Int}
    (h : Due timed s chunk c data dataLen call.bufdata)
    (hstep : chunkStep call.client call.bufdata call.datalen =
      .message c chunk.chunkId data dataLen)
    (hpos : c.mIParsePos = call.client.mIParsePos + n)
    (hmsg : c.rtmpMessages = call.client.rtmpMessages) (hend : data.windowEnd dataLen ≤ n) :
    Stepped timed (s.next chunk) (s.completes chunk) n call
      (rtmpProcessChunk call.client call.bufdata call.datalen).1
      (rtmpProcessChunk call.client call.bufdata call.datalen).2.1
      (rtmpProcessChunk call.client call.bufdata call.datalen).2.2 := by
  have hd := delivered_deliver c chunk.chunkId data dataLen call.bufdata
  unfold rtmpProcessChunk
  rw [hstep]
  refine ⟨?_, ?_, ?_, h.next hd, ?_⟩
  · rw [hd.parsePos, hpos]
  · exact fun i hi ↦ hd.mem i (Nat.le_trans hend hi)
  · refine ⟨_, by rw [hd.messages, hmsg], ?_⟩
    rw [completes_of_pending h.done]
    refine List.Forall₂.cons ?_ List.Forall₂.nil
    exact ⟨rfl, h.type, h.body, h.time, h.streamId⟩
  · by_cases hz : (deliver c chunk.chunkId data dataLen call.bufdata).1 = .ok 0
    · exact Or.inl hz
    · exact Or.inr ⟨c, chunk.chunkId, data, dataLen, hstep, hd.handler, hz⟩

/-! ### One chunk -/

/-- A chunk that leaves its message open calls no handler. -/
private theorem stepped_open {timed : Prop} {s : Sender} {chunk : Wire.Chunk} {n : Nat}
    {call : ChunkCall} {c : RtmpClient}
    (hstep : chunkStep call.client call.bufdata call.datalen = .ret 0 c)
    (hpending : (s.laneAfter chunk).pending ≠ [])
    (hpos : c.mIParsePos = call.client.mIParsePos + n)
    (hmsg : c.rtmpMessages = call.client.rtmpMessages) (hnext : Rep timed (s.next chunk) c) :
    Stepped timed (s.next chunk) (s.completes chunk) n call
      (rtmpProcessChunk call.client call.bufdata call.datalen).1
      (rtmpProcessChunk call.client call.bufdata call.datalen).2.1
      (rtmpProcessChunk call.client call.bufdata call.datalen).2.2 := by
  unfold rtmpProcessChunk
  rw [hstep, completes_eq_none hpending]
  refine ⟨hpos, fun _ _ ↦ rfl, ⟨[], ?_, List.Forall₂.nil⟩, fun _ ↦ hnext, Or.inl rfl⟩
  rw [List.append_nil]
  exact hmsg

/-- The relation after a chunk that leaves its message open. -/
private theorem rep_open {timed : Prop} {s : Sender} {chunk : Wire.Chunk} {c : RtmpClient}
    (hpending : (s.laneAfter chunk).pending ≠ []) (hsize : c.rtmpChunkMaxSize = s.chunkSize)
    (hpositive : 1 ≤ s.chunkSize)
    (hlane : ∀ i, i ≠ chunk.chunkId → 2 ≤ i → i < 64 → LaneRep timed (s.lane i) (c.rtmpChunk i))
    (hlast : (c.rtmpChunk chunk.chunkId).lastMessageSize = (s.laneAfter chunk).pending.length)
    (hopen : OpenRep timed (s.laneAfter chunk) (c.rtmpChunk chunk.chunkId))
    (hlatest : timed → c.rtmpLastAudioTimestamp = (s.next chunk).latest 8 ∧
      c.rtmpLastVideoTimestamp = (s.next chunk).latest 9) :
    Rep timed (s.next chunk) c := by
  refine ⟨?_, ?_, ?_, fun ht ↦ (hlatest ht).1, fun ht ↦ (hlatest ht).2⟩
  · rw [next_chunkSize_open hpending, hsize]
  · rw [next_chunkSize_open hpending]
    exact hpositive
  · intro i hlo hhi
    by_cases hi : i = chunk.chunkId
    · subst hi
      rw [next_lane_same]
      exact ⟨hlast, fun _ ↦ hopen⟩
    · rw [next_lane_other s chunk hi]
      exact hlane i hi hlo hhi

/-- A message that fits its first chunk is due for the handler. -/
private theorem due_start {timed : Prop} {s : Sender} {c c₁ : RtmpClient} {chunkId : Nat}
    {fmt : Fmt} {message : Message} {chunkInfo : RtmpChunk} {hl : Nat} {m : Mem}
    (hr : Rep timed s c) (hw : s.WellFormed (.start chunkId fmt message))
    (hh : HeaderRead timed s c chunkId fmt message c₁ chunkInfo)
    (hfits : message.body.length ≤ s.chunkSize)
    (hpayload : m.slice (hl + 1) message.body.length = message.body) :
    Due timed s (.start chunkId fmt message)
      ((c₁.setChunk chunkId
        { startMessage (c₁.rtmpChunk chunkId) chunkInfo with lastMessageSize := 0 }).advance
          (hl + 1 + chunkInfo.messageSize))
      (.window (hl + 1)) chunkInfo.messageSize m := by
  have hchunk : ((c₁.setChunk chunkId
      { startMessage (c₁.rtmpChunk chunkId) chunkInfo with lastMessageSize := 0 }).advance
        (hl + 1 + chunkInfo.messageSize)).rtmpChunk chunkId =
      { startMessage (c₁.rtmpChunk chunkId) chunkInfo with lastMessageSize := 0 } :=
    RtmpClient.setChunk_same _ _ _
  refine
    { done := List.drop_eq_nil_of_le hfits
      chunkSize := hh.kept.chunkSize.trans hr.chunkSize, positive := hr.positive
      lane := ?_, last := congrArg RtmpChunk.lastMessageSize hchunk, latest := hh.latest
      type := (congrArg RtmpChunk.messageType hchunk).trans hh.type
      time := fun h ↦ (congrArg RtmpChunk.timeStamp hchunk).trans (hh.time h)
      streamId := fun h ↦ (congrArg RtmpChunk.messageStreamId hchunk).trans (hh.streamId h)
      body := ?_, setSize := hw.2.2.2.2.1 }
  · intro i hi hlo hhi
    have ho := RtmpClient.setChunk_other c₁ chunkId i
      { startMessage (c₁.rtmpChunk chunkId) chunkInfo with lastMessageSize := 0 } hi
    change LaneRep timed (s.lane i) ((c₁.setChunk chunkId _).rtmpChunk i)
    rw [ho]
    exact laneRep_headerKept hh.kept (hr.lane i hlo hhi)
  · change (m.shift (hl + 1)).slice 0 (chunkInfo.messageSize : Int).toNat = message.body
    rw [Int.toNat_natCast, Mem.slice_shift, Nat.add_zero, hh.size]
    exact hpayload

/-- A header that leaves length and type out starts an empty message here. -/
private theorem named_of_long {s : Sender} {chunkId : Nat} {fmt : Fmt} {message : Message}
    (hw : s.WellFormed (.start chunkId fmt message)) (hp : Parsable s (.start chunkId fmt message))
    (hlong : s.chunkSize < message.body.length) :
    ¬fmt.Inherits ∧ fmt.extended (s.lane chunkId) = none := by
  cases fmt with
  | fmt0 time streamId =>
    refine ⟨fun h ↦ h, ?_⟩
    by_cases ht : time < 0xffffff
    · exact if_pos ht
    · exact absurd (hp (by omega)) (by omega)
  | fmt1 delta =>
    refine ⟨fun h ↦ h, ?_⟩
    by_cases ht : delta < 0xffffff
    · exact if_pos ht
    · exact absurd (hp (by omega)) (by omega)
  | fmt2 delta =>
    have hbody := (hw.2.2.2.2.2 trivial).2.2
    rw [hp.1] at hbody
    change message.body.length = 0 at hbody
    omega
  | fmt3 =>
    have hbody := (hw.2.2.2.2.2 trivial).2.2
    rw [hp.1] at hbody
    change message.body.length = 0 at hbody
    omega

/-- The first chunk of a longer message opens it. -/
private theorem openRep_start {timed : Prop} {s : Sender} {c c₁ : RtmpClient} {chunkId : Nat}
    {fmt : Fmt} {message : Message} {chunkInfo : RtmpChunk} {hl : Nat} {m : Mem}
    (hw : s.WellFormed (.start chunkId fmt message)) (hp : Parsable s (.start chunkId fmt message))
    (hh : HeaderRead timed s c chunkId fmt message c₁ chunkInfo)
    (hlong : s.chunkSize < message.body.length)
    (hpayload : m.slice (hl + 1) s.chunkSize = message.body.take s.chunkSize) (k : RtmpChunk)
    (b : Mem) :
    OpenRep timed ((s.lane chunkId).start s.chunkSize fmt message)
      ((k.opened chunkInfo b).copied b (m.slice (hl + 1) s.chunkSize)) := by
  obtain ⟨hnamed, hext⟩ := named_of_long hw hp hlong
  refine
    { size := hh.size, bound := hw.2.2.1, type := hh.type, time := hh.time
      named := hnamed, extended := hext, room := rfl, setSize := hw.2.2.2.2.1
      buf := ⟨_, rfl, ?_⟩ }
  change (b.memcpy 0 (m.slice (hl + 1) s.chunkSize)).slice 0
      (0 + (m.slice (hl + 1) s.chunkSize).length) ++ message.body.drop s.chunkSize = message.body
  rw [Nat.zero_add, Mem.slice_memcpy_same, hpayload, List.take_append_drop]

/-- The parser and the first chunk of a message. -/
theorem stepped_start {timed : Prop} {s : Sender} {call : ChunkCall}
    (hr : Rep timed s call.client) (chunkId : Nat) (fmt : Fmt) (message : Message)
    (hw : s.WellFormed (.start chunkId fmt message)) (hp : Parsable s (.start chunkId fmt message))
    (ht : timed → InTime s (.start chunkId fmt message))
    (hb : call.bufdata.slice 0 (s.bytes (.start chunkId fmt message)).length =
      s.bytes (.start chunkId fmt message))
    (hd : ((s.bytes (.start chunkId fmt message)).length : Int) ≤ call.datalen) :
    Stepped timed (s.next (.start chunkId fmt message))
      (s.completes (.start chunkId fmt message)) (s.bytes (.start chunkId fmt message)).length
      call (rtmpProcessChunk call.client call.bufdata call.datalen).1
      (rtmpProcessChunk call.client call.bufdata call.datalen).2.1
      (rtmpProcessChunk call.client call.bufdata call.datalen).2.2 := by
  obtain ⟨h0, hf, he, hpayload⟩ := slice_parts _ _ _ _ _ hb
  have hlength : (s.bytes (.start chunkId fmt message)).length =
      (fmt.fields message).length + (extendedBytes (fmt.extended (s.lane chunkId))).length + 1 +
        (message.body.take s.chunkSize).length := by
    simp only [Sender.bytes, List.length_cons, List.length_append]
    omega
  rw [hlength] at hd ⊢
  obtain ⟨c₁, chunkInfo, hparsed, hh⟩ :=
    chunkHeader_start hr chunkId fmt message hw hp ht call.bufdata call.datalen hf he (by omega)
  have hfmt : fmt.toNat < 4 := by cases fmt <;> simp [Fmt.toNat]
  have hstep := chunkStep_basicHeader call.client call.bufdata call.datalen fmt.toNat chunkId h0
    hfmt hw.1.1 hw.1.2 (by omega)
  rw [hparsed] at hstep
  dsimp only at hstep
  have hlane := laneRep_headerKept hh.kept (hr.lane chunkId hw.1.1 hw.1.2)
  have hlast : (c₁.rtmpChunk chunkId).lastMessageSize = 0 := by
    rw [hlane.last, hw.2.1]
    rfl
  have hsize : c₁.rtmpChunkMaxSize = s.chunkSize := hh.kept.chunkSize.trans hr.chunkSize
  rw [Nat.add_assoc 1, Nat.add_comm 1] at hpayload
  generalize (fmt.fields message).length +
    (extendedBytes (fmt.extended (s.lane chunkId))).length = hl at hstep hd hpayload ⊢
  by_cases hfits : message.body.length ≤ s.chunkSize
  · rw [List.take_of_length_le hfits] at hpayload hd ⊢
    rw [chunkBody_single c₁ chunkId chunkInfo hl call.bufdata call.datalen hlast
      (by rw [hh.size, hsize]; exact hfits) (by rw [hh.size]; exact hw.2.2.1)
      (by rw [hh.size]; exact hd)] at hstep
    refine (due_start hr hw hh hfits hpayload).stepped hstep ?_ hh.kept.messages ?_
    · change c₁.mIParsePos + ((hl + 1 + chunkInfo.messageSize : Nat) : Int) = _
      rw [hh.kept.parsePos, hh.size]
    · change hl + 1 + (chunkInfo.messageSize : Int).toNat ≤ _
      exact Nat.le_of_eq (by rw [Int.toNat_natCast, hh.size])
  · have hlong : s.chunkSize < message.body.length := by omega
    have htake : (message.body.take s.chunkSize).length = s.chunkSize := by
      rw [List.length_take]
      omega
    rw [htake] at hpayload hd ⊢
    rw [chunkBody_first c₁ chunkId chunkInfo hl call.bufdata call.datalen hlast
      (by rw [hh.size, hsize]; exact hlong) (by rw [hh.size]; exact hw.2.2.1)
      (by rw [hsize]; exact hd), hsize] at hstep
    have hpending : (s.laneAfter (.start chunkId fmt message)).pending ≠ [] := by
      change message.body.drop s.chunkSize ≠ []
      intro h
      have := List.drop_eq_nil_iff.1 h
      omega
    have hchunk := RtmpClient.setChunk_same c₁.newBuffer.2 chunkId
      (((c₁.rtmpChunk chunkId).opened chunkInfo c₁.newBuffer.1).copied c₁.newBuffer.1
        (call.bufdata.slice (hl + 1) s.chunkSize))
    refine stepped_open hstep hpending ?_ hh.kept.messages ?_
    · change c₁.mIParsePos + ((hl + 1 + s.chunkSize : Nat) : Int) = _
      rw [hh.kept.parsePos]
    · refine rep_open hpending hsize hr.positive ?_ ?_ ?_ hh.latest
      · intro i hi hlo hhi
        have ho := RtmpClient.setChunk_other c₁.newBuffer.2 chunkId i
          (((c₁.rtmpChunk chunkId).opened chunkInfo c₁.newBuffer.1).copied c₁.newBuffer.1
            (call.bufdata.slice (hl + 1) s.chunkSize)) hi
        have hkept : LaneRep timed (s.lane i) (c₁.rtmpChunk i) :=
          laneRep_headerKept hh.kept (hr.lane i hlo hhi)
        change LaneRep timed (s.lane i) ((c₁.newBuffer.2.setChunk chunkId _).rtmpChunk i)
        rw [ho]
        exact hkept
      · change ((c₁.newBuffer.2.setChunk chunkId _).rtmpChunk chunkId).lastMessageSize =
          (message.body.drop s.chunkSize).length
        rw [hchunk, List.length_drop]
        change chunkInfo.messageSize - (call.bufdata.slice (hl + 1) s.chunkSize).length = _
        rw [Mem.length_slice, hh.size]
      · change OpenRep timed _ ((c₁.newBuffer.2.setChunk chunkId _).rtmpChunk chunkId)
        rw [hchunk]
        exact openRep_start hw hp hh hlong hpayload _ _

/-- The parser and a further chunk of a message. -/
theorem stepped_cont {timed : Prop} {s : Sender} {call : ChunkCall}
    (hr : Rep timed s call.client) (chunkId : Nat) (hw : s.WellFormed (.cont chunkId))
    (hb : call.bufdata.slice 0 (s.bytes (.cont chunkId)).length = s.bytes (.cont chunkId))
    (hd : ((s.bytes (.cont chunkId)).length : Int) ≤ call.datalen) :
    Stepped timed (s.next (.cont chunkId)) (s.completes (.cont chunkId))
      (s.bytes (.cont chunkId)).length call
      (rtmpProcessChunk call.client call.bufdata call.datalen).1
      (rtmpProcessChunk call.client call.bufdata call.datalen).2.1
      (rtmpProcessChunk call.client call.bufdata call.datalen).2.2 := by
  obtain ⟨⟨hlo, hhi⟩, hpending⟩ := hw
  have hlane := hr.lane chunkId hlo hhi
  have hopen := hlane.pending hpending
  have hbytes : s.bytes (.cont chunkId) =
      basicHeader 3 chunkId :: (s.lane chunkId).pending.take s.chunkSize := by
    simp only [Sender.bytes, hopen.extended, extendedBytes, List.nil_append]
  rw [hbytes] at hb hd ⊢
  obtain ⟨h0, hpayload⟩ := slice_cons _ _ _ hb
  rw [List.length_cons, List.length_take] at hd ⊢
  rw [List.length_take] at hpayload
  obtain ⟨buf, hbuf, hbody⟩ := hopen.buf
  have hlength := congrArg List.length hbody
  rw [List.length_append, Mem.length_slice] at hlength
  have hlast := hlane.last
  have hpos : 0 < (s.lane chunkId).pending.length := List.length_pos_iff.2 hpending
  have hbound := hopen.bound
  have hsize := hopen.size
  have hroom := le_newMessageBufLen (n := (call.client.rtmpChunk chunkId).messageSize) (by omega)
  rw [← hopen.room] at hroom
  have hstep := chunkStep_basicHeader call.client call.bufdata call.datalen 3 chunkId h0
    (by omega) hlo hhi (by omega)
  have hheader : chunkHeader call.client 3 chunkId call.bufdata call.datalen =
      .parsed call.client RtmpChunk.zero 0 := by
    change headerFmt3 call.client call.datalen = _
    unfold headerFmt3
    rw [if_neg (by omega)]
  rw [hheader] at hstep
  dsimp only at hstep
  rw [chunkBody_more _ _ _ _ _ _ (by omega) (by omega) (by rw [hr.chunkSize, hlast]; omega),
    copyBody_eq _ _ _ _ _ buf hbuf (by rw [hr.chunkSize, hlast]; omega) (by omega) (by omega),
    hr.chunkSize, hlast] at hstep
  dsimp only at hstep
  rw [Nat.zero_add, hpayload, Nat.add_comm 1] at hstep
  have hchunk := RtmpClient.setChunk_same call.client chunkId
    ((call.client.rtmpChunk chunkId).copied buf ((s.lane chunkId).pending.take s.chunkSize))
  have hother : ∀ i, i ≠ chunkId → 2 ≤ i → i < 64 → LaneRep timed (s.lane i)
      ((call.client.setChunk chunkId ((call.client.rtmpChunk chunkId).copied buf
        ((s.lane chunkId).pending.take s.chunkSize))).rtmpChunk i) := by
    intro i hi h2 h64
    rw [RtmpClient.setChunk_other _ _ _ _ hi]
    exact hr.lane i h2 h64
  have happend := Mem.slice_memcpy_append buf 0 (call.client.rtmpChunk chunkId).messageBufPos
    ((s.lane chunkId).pending.take s.chunkSize)
  rw [Nat.zero_add] at happend
  have htake : ((s.lane chunkId).pending.take s.chunkSize).length =
      min s.chunkSize (s.lane chunkId).pending.length := List.length_take
  have hlatest : timed →
      call.client.rtmpLastAudioTimestamp = (s.next (.cont chunkId)).latest 8 ∧
        call.client.rtmpLastVideoTimestamp = (s.next (.cont chunkId)).latest 9 :=
    fun ht ↦ ⟨hr.audio ht, hr.video ht⟩
  by_cases hmore : s.chunkSize < (s.lane chunkId).pending.length
  · rw [if_pos (by omega)] at hstep
    have hleft : (s.laneAfter (.cont chunkId)).pending ≠ [] := by
      change (s.lane chunkId).pending.drop s.chunkSize ≠ []
      intro h
      have := List.drop_eq_nil_iff.1 h
      omega
    refine stepped_open hstep hleft ?_ rfl ?_
    · rfl
    · refine rep_open hleft hr.chunkSize hr.positive hother ?_ ?_ hlatest
      · change ((call.client.setChunk chunkId _).rtmpChunk chunkId).lastMessageSize =
          ((s.lane chunkId).pending.drop s.chunkSize).length
        rw [hchunk, List.length_drop]
        change (call.client.rtmpChunk chunkId).lastMessageSize - _ = _
        rw [hlast, htake]
        omega
      · change OpenRep timed _ ((call.client.setChunk chunkId _).rtmpChunk chunkId)
        rw [hchunk]
        refine
          { size := hopen.size, bound := hopen.bound, type := hopen.type, time := hopen.time
            named := hopen.named, extended := hopen.extended, room := hopen.room
            setSize := hopen.setSize, buf := ⟨_, rfl, ?_⟩ }
        change (buf.memcpy _ _).slice 0 ((call.client.rtmpChunk chunkId).messageBufPos + _) ++
          (s.lane chunkId).pending.drop s.chunkSize = (s.lane chunkId).message.body
        rw [happend, List.append_assoc, List.take_append_drop, hbody]
  · rw [if_neg (by omega)] at hstep
    have hall : (s.lane chunkId).pending.take s.chunkSize = (s.lane chunkId).pending :=
      List.take_of_length_le (by omega)
    have hint := toInt32_of_lt (call.client.rtmpChunk chunkId).messageSize (by omega)
    have hdue : Due timed s (.cont chunkId)
        ((call.client.setChunk chunkId ((call.client.rtmpChunk chunkId).copied buf
          ((s.lane chunkId).pending.take s.chunkSize))).advance
            (min s.chunkSize (s.lane chunkId).pending.length + 1))
        (.messageBuf (buf.memcpy (call.client.rtmpChunk chunkId).messageBufPos
          ((s.lane chunkId).pending.take s.chunkSize)))
        (toInt32 (call.client.rtmpChunk chunkId).messageSize) call.bufdata := by
      refine
        { done := List.drop_eq_nil_of_le (by omega), chunkSize := hr.chunkSize
          positive := hr.positive, lane := hother, last := ?_, latest := hlatest
          type := (congrArg RtmpChunk.messageType hchunk).trans hopen.type
          time := fun h ↦ (congrArg RtmpChunk.timeStamp hchunk).trans (hopen.time h)
          streamId := fun h ↦ absurd h hopen.named
          body := ?_, setSize := hopen.setSize }
      · refine (congrArg RtmpChunk.lastMessageSize hchunk).trans ?_
        change (call.client.rtmpChunk chunkId).lastMessageSize - _ = 0
        omega
      · change (buf.memcpy _ _).slice 0 _ = (s.lane chunkId).message.body
        rw [hint, Int.toNat_natCast]
        have hend : (call.client.rtmpChunk chunkId).messageSize =
            (call.client.rtmpChunk chunkId).messageBufPos +
              ((s.lane chunkId).pending.take s.chunkSize).length := by omega
        rw [hend, happend, hall, hbody]
    exact hdue.stepped hstep rfl rfl (Nat.zero_le _)

/-- The parser and any chunk that it can read. -/
theorem stepped_chunk {timed : Prop} {s : Sender} (call : ChunkCall)
    (hr : Rep timed s call.client) (chunk : Wire.Chunk) (hw : s.WellFormed chunk)
    (hp : Parsable s chunk) (ht : timed → InTime s chunk)
    (hb : call.bufdata.slice 0 (s.bytes chunk).length = s.bytes chunk)
    (hd : ((s.bytes chunk).length : Int) ≤ call.datalen) :
    Stepped timed (s.next chunk) (s.completes chunk) (s.bytes chunk).length call
      (rtmpProcessChunk call.client call.bufdata call.datalen).1
      (rtmpProcessChunk call.client call.bufdata call.datalen).2.1
      (rtmpProcessChunk call.client call.bufdata call.datalen).2.2 := by
  cases chunk with
  | start chunkId fmt message => exact stepped_start hr chunkId fmt message hw hp ht hb hd
  | cont chunkId => exact stepped_cont hr chunkId hw hb hd

/-! ### A run -/

/-- A run of the inner loop follows the sender: the handler is called for the messages that
are due, in order and once each, until all bytes are consumed or a handler does not succeed. -/
def Follows (timed : Prop) (c : RtmpClient) (due : List Delivery) (size : Int) (r : LoopEnd) :
    Prop :=
  ∃ done rest msgs, due = done ++ rest ∧ List.Forall₂ (Matches timed) done msgs ∧
    r.client.rtmpMessages = c.rtmpMessages ++ msgs ∧
      ((r.ret = .ok 1 ∧ rest = [] ∧ r.client.mIParsePos = size) ∨
        ∃ call ∈ r.calls, call.HandlerFails r.ret)

/-- The rest of the window after a call that leaves its bytes alone. -/
theorem slice_splice_behind (mem buf : Mem) (pos n k : Nat)
    (h : ∀ i, n ≤ i → buf i = mem.shift pos i) :
    (mem.splice pos buf).slice (pos + n) k = mem.slice (pos + n) k := by
  rw [Mem.slice_eq_iff]
  intro i _
  rw [Nat.add_assoc, Mem.splice_back, h _ (by omega)]
  rfl

/-- The inner loop on the bytes of chunks that the parser can read. -/
theorem chunkLoop_follows {timed : Prop} (chunks : List Wire.Chunk) (s : Sender)
    (c : RtmpClient) (mem : Mem) (size : Int) (fuel : Nat) (hr : Rep timed s c)
    (hw : s.Along Sender.WellFormed chunks) (hp : s.Along Parsable chunks)
    (ht : timed → s.Along InTime chunks) (hpos : 0 ≤ c.mIParsePos)
    (hb : mem.slice c.mIParsePos.toNat (s.stream chunks).length = s.stream chunks)
    (hsize : size = c.mIParsePos + (s.stream chunks).length) (hfuel : chunks.length < fuel) :
    Follows timed c (s.deliveries chunks) size (chunkLoop fuel c mem size) := by
  induction chunks generalizing s c mem fuel with
  | nil =>
    obtain ⟨fuel, rfl⟩ : ∃ k, fuel = k + 1 := ⟨fuel - 1, by omega⟩
    have hz : size - c.mIParsePos = 0 := by
      simp only [Sender.stream, List.length_nil] at hsize
      omega
    rw [chunkLoop_succ]
    simp only [hz, rtmpProcessChunk_empty]
    refine ⟨[], [], [], rfl, List.Forall₂.nil, (List.append_nil _).symm, Or.inl ⟨rfl, rfl, ?_⟩⟩
    change c.mIParsePos = size
    omega
  | cons chunk rest ih =>
    obtain ⟨fuel, rfl⟩ : ∃ k, fuel = k + 1 := ⟨fuel - 1, by omega⟩
    simp only [Sender.stream] at hb hsize
    obtain ⟨hb₁, hb₂⟩ := (Mem.slice_append_iff mem _ _ _).1 hb
    rw [List.length_append] at hsize
    have hstep := stepped_chunk ⟨c, mem.shift c.mIParsePos.toNat, size - c.mIParsePos⟩ hr chunk
      hw.1 hp.1 (fun h ↦ (ht h).1) (by rw [Mem.slice_shift, Nat.add_zero]; exact hb₁)
      (by change _ ≤ size - c.mIParsePos; omega)
    rw [chunkLoop_succ]
    dsimp only at hstep ⊢
    generalize rtmpProcessChunk c (mem.shift c.mIParsePos.toNat) (size - c.mIParsePos) = out
      at hstep ⊢
    obtain ⟨ret, c', buf'⟩ := out
    dsimp only at hstep ⊢
    obtain ⟨msgs, hmsgs, hmatch⟩ := hstep.messages
    by_cases hret : ret = .ok 0
    · subst hret
      have hpos' : c'.mIParsePos = c.mIParsePos + (s.bytes chunk).length := hstep.parsePos
      have hnat : c'.mIParsePos.toNat = c.mIParsePos.toNat + (s.bytes chunk).length := by omega
      obtain ⟨done, left, msgs', hdue, hmatch', hmsgs', hend⟩ :=
        ih (s.next chunk) c' (mem.splice c.mIParsePos.toNat buf') fuel (hstep.next rfl) hw.2 hp.2
          (fun h ↦ (ht h).2) (by omega)
          (by rw [hnat, slice_splice_behind mem buf' _ _ _ hstep.mem]; exact hb₂) (by omega)
          (by simp only [List.length_cons] at hfuel; omega)
      simp only [if_pos]
      refine ⟨(s.completes chunk).toList ++ done, left, msgs ++ msgs', ?_, ?_, ?_, ?_⟩
      · simp only [Sender.deliveries, hdue, List.append_assoc]
      · exact List.rel_append hmatch hmatch'
      · rw [hmsgs', hmsgs, List.append_assoc]
      · rcases hend with hdone | ⟨call, hmem, hfail⟩
        · exact Or.inl hdone
        · exact Or.inr ⟨call, List.mem_cons_of_mem _ hmem, hfail⟩
    · have hfail := hstep.result.resolve_left hret
      refine ⟨(s.completes chunk).toList, (s.next chunk).deliveries rest, msgs, rfl, hmatch, ?_, ?_⟩
      · cases ret with
        | error e => exact hmsgs
        | ok r =>
          have hr0 : r ≠ 0 := fun h ↦ hret (by rw [h])
          simp only [if_neg hr0]
          exact hmsgs
      · refine Or.inr ⟨⟨c, mem.shift c.mIParsePos.toNat, size - c.mIParsePos⟩, ?_, ?_⟩
        · cases ret with
          | error e => exact List.mem_singleton_self _
          | ok r =>
            have hr0 : r ≠ 0 := fun h ↦ hret (by rw [h])
            simp only [if_neg hr0]
            exact List.mem_singleton_self _
        · cases ret with
          | error e => exact hfail
          | ok r =>
            have hr0 : r ≠ 0 := fun h ↦ hret (by rw [h])
            simp only [if_neg hr0]
            exact hfail

end RtmpRecv.Client
