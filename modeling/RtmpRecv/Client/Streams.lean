import RtmpRecv.Client.Reassembly

/-!
# Streams of chunks

Library `Client`. What `rtmp_process_chunk`, called again and again on the bytes of a list of
chunks, hands to `rtmp_process_message`: reassembly under interleaving, compressed headers of
new messages, and timestamps. The first holds for all streams with full headers; the other two
hold under conditions on the headers that are stated exactly.
-/

namespace RtmpRecv.Client
open RtmpRecv.Base RtmpRecv.Wire

/-- A new client with the strings that `rtmp_setupurl` sets. -/
def newClient (u : RtmpClient) (rtmpUrl rtmpApp rtmpStream : List UInt8) : RtmpClient :=
  { rtmpClient u with rtmpUrl := rtmpUrl, rtmpApp := rtmpApp, rtmpStream := rtmpStream }

/-- The client with these strings that `rtmp_start_play` hands to the receive loop. -/
def playing (u : RtmpClient) (rtmpUrl rtmpApp rtmpStream : List UInt8) : RtmpClient :=
  (rtmpStartPlay (newClient u rtmpUrl rtmpApp rtmpStream)).2

/-- The client with these strings at the first round of the receive loop. -/
def started (u : RtmpClient) (rtmpUrl rtmpApp rtmpStream : List UInt8) : RtmpClient :=
  { playing u rtmpUrl rtmpApp rtmpStream with mIParsePos := 0 }

/-- The receive loop on the bytes of a stream that are all there. -/
def parseAll (c : RtmpClient) (mem : Mem) (size : Nat) : LoopEnd :=
  chunkLoop (size + 1) c mem size

/-- Chunk stream, type and body of a call of `rtmp_process_message`. -/
def RtmpMessage.content (m : RtmpMessage) : Nat × Nat × List UInt8 :=
  (m.chunkId, m.messageType, m.body)

end RtmpRecv.Client

namespace RtmpRecv.Wire

/-- Chunk stream, type and body of a message of the sender. -/
def Delivery.content (d : Delivery) : Nat × Nat × List UInt8 :=
  (d.chunkId, d.message.type.toNat, d.message.body)

end RtmpRecv.Wire

namespace RtmpRecv.Client
open RtmpRecv.Base RtmpRecv.Wire

/-- What `rtmp_start_play` stores when it succeeds. -/
theorem rtmpStartPlay_eq {c : RtmpClient} (h : (rtmpStartPlay c).1 = 0) :
    (rtmpStartPlay c).2 = (rtmpSendToServerC0C1 { c with rtmpChunkMaxSize := 128 }).2 := by
  unfold rtmpStartPlay at h ⊢
  split at h
  · cases h
  · split at h
    · cases h
    · next h1 h2 => rw [if_neg h1, if_neg h2]

/-- `rtmp_start_play` succeeds or not whatever the strings are. -/
theorem rtmpStartPlay_newClient (u : RtmpClient) (rtmpUrl rtmpApp rtmpStream : List UInt8) :
    (rtmpStartPlay (newClient u rtmpUrl rtmpApp rtmpStream)).1 =
      (rtmpStartPlay (rtmpClient u)).1 := by
  unfold rtmpStartPlay newClient
  dsimp only
  split
  · rfl
  · split
    · rfl
    · rfl

section

variable (u : RtmpClient) (rtmpUrl rtmpApp rtmpStream : List UInt8)

/-- A successful start leaves an idle parser with the default chunk size. -/
theorem started_fields (h : (rtmpStartPlay (rtmpClient u)).1 = 0) :
    (started u rtmpUrl rtmpApp rtmpStream).rtmpChunkMaxSize = 128 ∧
      (started u rtmpUrl rtmpApp rtmpStream).rtmpChunk = (fun _ ↦ RtmpChunk.zero) ∧
      (started u rtmpUrl rtmpApp rtmpStream).rtmpMessages = [] ∧
      (started u rtmpUrl rtmpApp rtmpStream).rtmpLastAudioTimestamp = u.rtmpLastAudioTimestamp ∧
      (started u rtmpUrl rtmpApp rtmpStream).rtmpLastVideoTimestamp =
        u.rtmpLastVideoTimestamp := by
  unfold started playing
  rw [rtmpStartPlay_eq ((rtmpStartPlay_newClient u rtmpUrl rtmpApp rtmpStream).trans h)]
  unfold rtmpSendToServerC0C1
  dsimp only [RtmpClient.time, RtmpClient.send, newClient, rtmpClient]
  split
  · exact ⟨rfl, rfl, rfl, rfl, rfl⟩
  · exact ⟨rfl, rfl, rfl, rfl, rfl⟩

/-- A client that has just started stands beside a sender that has sent nothing. -/
theorem rep_started (timed : Prop) (latest : UInt8 → Nat)
    (h : (rtmpStartPlay (rtmpClient u)).1 = 0)
    (hl : timed → latest 8 = u.rtmpLastAudioTimestamp ∧ latest 9 = u.rtmpLastVideoTimestamp) :
    Rep timed (Sender.init 128 latest) (started u rtmpUrl rtmpApp rtmpStream) := by
  obtain ⟨hsize, hchunk, -, haudio, hvideo⟩ := started_fields u rtmpUrl rtmpApp rtmpStream h
  have hpositive : 1 ≤ 128 := by decide
  refine ⟨hsize, hpositive, fun i _ _ ↦ ⟨?_, fun hp ↦ absurd rfl hp⟩, fun ht ↦ ?_, fun ht ↦ ?_⟩
  · rw [hchunk]
    rfl
  · exact haudio.trans (hl ht).1.symm
  · exact hvideo.trans (hl ht).2.symm

/-- The loop on the stream of an idle client follows the sender. -/
theorem parseAll_follows (timed : Prop) (latest : UInt8 → Nat)
    (h : (rtmpStartPlay (rtmpClient u)).1 = 0)
    (hl : timed → latest 8 = u.rtmpLastAudioTimestamp ∧ latest 9 = u.rtmpLastVideoTimestamp)
    (chunks : List Wire.Chunk)
    (hw : (Sender.init 128 latest).Along Sender.WellFormed chunks)
    (hp : (Sender.init 128 latest).Along Parsable chunks)
    (ht : timed → (Sender.init 128 latest).Along InTime chunks) (mem : Mem)
    (hb : mem.slice 0 ((Sender.init 128 latest).stream chunks).length =
      (Sender.init 128 latest).stream chunks) :
    Follows timed (started u rtmpUrl rtmpApp rtmpStream)
      ((Sender.init 128 latest).deliveries chunks)
      ((Sender.init 128 latest).stream chunks).length
      (parseAll (started u rtmpUrl rtmpApp rtmpStream) mem
        ((Sender.init 128 latest).stream chunks).length) := by
  have hfuel := (Sender.init 128 latest).length_le_stream chunks
  refine chunkLoop_follows chunks _ (started u rtmpUrl rtmpApp rtmpStream) mem _ _
    (rep_started u rtmpUrl rtmpApp rtmpStream timed latest h hl) hw hp ht (Int.le_refl _) hb ?_
    (by omega)
  change _ = (0 : Int) + _
  omega

end

/-! ### Reassembly -/

/-- A message starts with a full header or with one that has a delta, and its time fits the 24-bit
field. -/
def Plain (_ : Sender) : Wire.Chunk → Prop
  | .start _ (.fmt0 timestamp _) _ => timestamp < 0xffffff
  | .start _ (.fmt1 delta) _ => delta < 0xffffff
  | .start _ (.fmt2 _) _ => False
  | .start _ .fmt3 _ => False
  | .cont _ => True

instance (s : Sender) : (chunk : Wire.Chunk) → Decidable (Plain s chunk)
  | .start _ (.fmt0 timestamp _) _ => inferInstanceAs (Decidable (timestamp < 0xffffff))
  | .start _ (.fmt1 delta) _ => inferInstanceAs (Decidable (delta < 0xffffff))
  | .start _ (.fmt2 _) _ => inferInstanceAs (Decidable False)
  | .start _ .fmt3 _ => inferInstanceAs (Decidable False)
  | .cont _ => inferInstanceAs (Decidable True)

theorem Plain.parsable (s : Sender) (chunk : Wire.Chunk) (h : Plain s chunk) :
    Parsable s chunk := by
  cases chunk with
  | cont chunkId => trivial
  | start chunkId fmt message =>
    cases fmt with
    | fmt0 timestamp streamId =>
      intro ht
      change timestamp < 0xffffff at h
      omega
    | fmt1 delta =>
      intro ht
      change delta < 0xffffff at h
      omega
    | fmt2 delta => exact h.elim
    | fmt3 => exact h.elim

theorem Matches.content {timed : Prop} {d : Delivery} {m : RtmpMessage}
    (h : Matches timed d m) : m.content = d.content := by
  simp only [RtmpMessage.content, Delivery.content, h.chunkId, h.type, h.body]

/-- Matching lists have the same contents. -/
theorem content_of_forall₂ {timed : Prop} {due : List Delivery} {msgs : List RtmpMessage}
    (h : List.Forall₂ (Matches timed) due msgs) :
    msgs.map RtmpMessage.content = due.map Delivery.content := by
  induction h with
  | nil => rfl
  | cons hm _ ih => simp only [List.map_cons, ih, hm.content]

/-- Matching lists have the same contents and, where they count, the same timestamps. -/
theorem timed_of_forall₂ {due : List Delivery} {msgs : List RtmpMessage}
    (h : List.Forall₂ (Matches True) due msgs) :
    msgs.map (fun m ↦ (m.content, m.timeStamp)) =
      due.map (fun d ↦ (d.content, d.timestamp)) := by
  induction h with
  | nil => rfl
  | cons hm _ ih => simp only [List.map_cons, ih, hm.content, hm.time trivial]

/-- What the handler returns for the message that the call hands over, if there is one. -/
def ChunkCall.handled (call : ChunkCall) : Option (Except Fault Int) :=
  match chunkStep call.client call.bufdata call.datalen with
  | .message c chunkId data dataLen =>
    some ((handlerRun c chunkId data dataLen call.bufdata).1.map Prod.fst)
  | .ret _ _ => none
  | .fault _ _ => none

/-- The handler of the call returns a negative value. -/
def ChunkCall.ReturnsNegative (call : ChunkCall) : Prop :=
  ∃ ret < 0, call.handled = some (.ok ret)

/-- The handler of the call faults: it accesses memory that it must not access. -/
def ChunkCall.HandlerFaults (call : ChunkCall) : Prop :=
  ∃ e, call.handled = some (.error e)

/-- A handler that does not succeed faults or returns a negative value. -/
theorem ChunkCall.HandlerFails.cases {call : ChunkCall} {ret : Except Fault Int}
    (h : call.HandlerFails ret) : call.HandlerFaults ∨ call.ReturnsNegative := by
  have hret := fun ret' (heq : ret = .ok ret') ↦ (heq ▸ h : call.HandlerFails (.ok ret')).ret
  obtain ⟨c, chunkId, data, dataLen, hstep, heq, -⟩ := h
  have hhandled : call.handled = some ret := by
    unfold ChunkCall.handled
    rw [hstep, heq]
  cases ret with
  | error e => exact Or.inl ⟨e, hhandled⟩
  | ok ret =>
    have hnegative := hret ret rfl
    exact Or.inr ⟨ret, by omega, hhandled⟩

/-- A call whose handler faults does not return. -/
private theorem rtmpProcessChunk_faults {call : ChunkCall} {e : Fault}
    (h : call.handled = some (.error e)) :
    (rtmpProcessChunk call.client call.bufdata call.datalen).1 = .error e := by
  unfold ChunkCall.handled at h
  unfold rtmpProcessChunk
  split at h
  · next c chunkId data dataLen hstep =>
    have hdelivered := delivered_deliver c chunkId data dataLen call.bufdata
    rw [hstep]
    exact hdelivered.handler.trans (Option.some.inj h)
  · cases h
  · cases h

/-- A fault ends the inner loop. -/
theorem chunkLoop_faults {fuel : Nat} {c : RtmpClient} {mem : Mem} {size : Int} {call : ChunkCall}
    {e : Fault} (h : call.handled = some (.error e))
    (hcall : call ∈ (chunkLoop fuel c mem size).calls) :
    (chunkLoop fuel c mem size).ret = .error e := by
  induction fuel generalizing c mem with
  | zero => cases hcall
  | succ fuel ih =>
    have hfaults := rtmpProcessChunk_faults h
    rw [chunkLoop_succ] at hcall ⊢
    dsimp only at hcall ⊢
    cases hout : (rtmpProcessChunk c (mem.shift c.mIParsePos.toNat) (size - c.mIParsePos)).1 with
    | error e' =>
      rw [hout] at hcall
      cases List.mem_singleton.1 hcall
      exact hout.symm.trans hfaults
    | ok ret =>
      rw [hout] at hcall
      dsimp only at hcall ⊢
      by_cases hz : ret = 0
      · rw [if_pos hz] at hcall ⊢
        rcases List.mem_cons.1 hcall with rfl | hcall
        · cases hout.symm.trans hfaults
        · exact ih hcall
      · rw [if_neg hz] at hcall
        cases List.mem_singleton.1 hcall
        cases hout.symm.trans hfaults

/-- Chunks of messages on several chunk streams, in any order: the handler is called for the
messages as they are complete, with their types and bodies. If none returns a negative value, it is
called for all of them, and all bytes are consumed, if and only if none faults. -/
theorem rtmpProcessChunk_reassembles (u : RtmpClient) (rtmpUrl rtmpApp rtmpStream : List UInt8)
    (hplay : (rtmpStartPlay (rtmpClient u)).1 = 0) (chunks : List Wire.Chunk)
    (hw : (Sender.init 128 fun _ ↦ 0).Along Sender.WellFormed chunks)
    (hplain : (Sender.init 128 fun _ ↦ 0).Along Plain chunks) (mem : Mem)
    (hb : mem.slice 0 ((Sender.init 128 fun _ ↦ 0).stream chunks).length =
      (Sender.init 128 fun _ ↦ 0).stream chunks) :
    let size := ((Sender.init 128 fun _ ↦ 0).stream chunks).length
    let due := ((Sender.init 128 fun _ ↦ 0).deliveries chunks).map Delivery.content
    let r := parseAll (started u rtmpUrl rtmpApp rtmpStream) mem size
    r.client.rtmpMessages.map RtmpMessage.content <+: due ∧
      ((∀ call ∈ r.calls, ¬call.ReturnsNegative) →
        ((r.client.rtmpMessages.map RtmpMessage.content = due ∧ r.ret = .ok 1 ∧
            r.client.mIParsePos = size) ↔
          ∀ call ∈ r.calls, ¬call.HandlerFaults)) := by
  intro size due r
  obtain ⟨done, rest, msgs, hdue, hmatch, hmsgs, hend⟩ :=
    parseAll_follows u rtmpUrl rtmpApp rtmpStream False _ hplay False.elim chunks hw
      (hplain.mono Plain.parsable) False.elim mem hb
  have hcontent : r.client.rtmpMessages.map RtmpMessage.content = done.map Delivery.content := by
    rw [hmsgs, (started_fields u rtmpUrl rtmpApp rtmpStream hplay).2.2.1, List.nil_append]
    exact content_of_forall₂ hmatch
  have hsplit : due = done.map Delivery.content ++ rest.map Delivery.content := by
    rw [← List.map_append, ← hdue]
  refine ⟨⟨rest.map Delivery.content, by rw [hcontent, hsplit]⟩, fun hnegative ↦ ?_⟩
  constructor
  · rintro ⟨-, hret, -⟩ call hcall ⟨e, hfault⟩
    have hfaults : r.ret = .error e := chunkLoop_faults hfault hcall
    rw [hret] at hfaults
    cases hfaults
  · intro hfaults
    rcases hend with ⟨hret, hrest, hpos⟩ | ⟨call, hcall, hfails⟩
    · refine ⟨?_, hret, hpos⟩
      rw [hcontent, hsplit, hrest]
      exact (List.append_nil _).symm
    · rcases hfails.cases with h | h
      · exact absurd h (hfaults call hcall)
      · exact absurd h (hnegative call hcall)

instance (call : ChunkCall) : Decidable call.ReturnsNegative :=
  decidable_of_iff (∃ result ∈ call.handled, ∃ ret ∈ result.toOption, ret < 0) (by
    unfold ChunkCall.ReturnsNegative
    cases call.handled with
    | none => simp
    | some result =>
      cases result with
      | error e => simp [Except.toOption]
      | ok ret => simp [Except.toOption])

/-- Two messages interleaved behind a change of the chunk size. -/
def interleavedStream : List Wire.Chunk :=
  [.start 2 (.fmt0 0 0) ⟨1, [0, 0, 0, 1]⟩, .start 3 (.fmt0 5 1) ⟨0x12, [7, 8]⟩,
    .start 4 (.fmt1 9) ⟨0x12, []⟩, .cont 3]

/-- Both messages come, in the order in which they are complete. -/
theorem rtmpProcessChunk_reassembles_interleaved :
    let stream := (Sender.init 128 fun _ ↦ 0).stream interleavedStream
    let due := ((Sender.init 128 fun _ ↦ 0).deliveries interleavedStream).map Delivery.content
    let r := parseAll (started blankClient (ascii "rtmp://host/live") (ascii "live") [])
      (Mem.ofList stream) stream.length
    due = [(2, 1, [0, 0, 0, 1]), (4, 0x12, []), (3, 0x12, [7, 8])] ∧
      ((r.client.rtmpMessages.map RtmpMessage.content = due ∧ r.ret = .ok 1 ∧
          r.client.mIParsePos = stream.length) ↔ ∀ call ∈ r.calls, ¬call.HandlerFaults) := by
  intro stream due r
  have hreassembles := rtmpProcessChunk_reassembles blankClient (ascii "rtmp://host/live")
    (ascii "live") [] rfl interleavedStream (by decide) (by decide) (Mem.ofList stream)
    (Mem.slice_ofList _)
  exact ⟨by decide, hreassembles.2 (by decide +kernel)⟩

/-- A sequence header, a raw AAC message of one byte, and a data message. -/
def shortAudio : List Wire.Chunk :=
  [.start 4 (.fmt0 0 1) ⟨8, [0xaf, 0, 0x12, 0x10]⟩, .start 4 (.fmt0 0 1) ⟨8, [0xaf]⟩,
    .start 5 (.fmt0 0 1) ⟨0x12, [1]⟩]

/-- No handler returns a negative value, but that of the second message faults, and the third one
is not handed over. -/
theorem rtmpProcessChunk_crashes :
    let s := Sender.init 128 fun _ ↦ 0
    let r := parseAll (started blankClient [] [] []) (Mem.ofList (s.stream shortAudio))
      (s.stream shortAudio).length
    s.Along Sender.WellFormed shortAudio ∧ s.Along Plain shortAudio ∧
      (∀ call ∈ r.calls, ¬call.ReturnsNegative) ∧
      (s.deliveries shortAudio).map Delivery.content =
        [(4, 8, [0xaf, 0, 0x12, 0x10]), (4, 8, [0xaf]), (5, 0x12, [1])] ∧
      r.client.rtmpMessages.map RtmpMessage.content =
        [(4, 8, [0xaf, 0, 0x12, 0x10]), (4, 8, [0xaf])] ∧ r.ret = .error .outOfBounds := by
  decide +kernel

/-! ### Compressed headers -/

/-- The same chunk, with a full header where it starts a message. -/
def Recoded : Wire.Chunk → Wire.Chunk → Prop
  | .start i _ message, .start j (.fmt0 _ _) message' => j = i ∧ message' = message
  | .cont i, .cont j => j = i
  | _, _ => False

/-- The open messages of two senders are the same. -/
structure SameOpen (s s' : Sender) : Prop where
  chunkSize : s'.chunkSize = s.chunkSize
  lane : ∀ i, (s'.lane i).pending = (s.lane i).pending ∧ (s'.lane i).message = (s.lane i).message

/-- A chunk and its recoded form do the same to the open messages. -/
private theorem sameOpen_next {s s' : Sender} {chunk chunk' : Wire.Chunk} (h : SameOpen s s')
    (hr : Recoded chunk chunk') :
    SameOpen (s.next chunk) (s'.next chunk') ∧
      (s'.completes chunk').toList.map Delivery.content =
        (s.completes chunk).toList.map Delivery.content := by
  have hsame : chunk'.chunkId = chunk.chunkId ∧
      (s'.laneAfter chunk').pending = (s.laneAfter chunk).pending ∧
      (s'.laneAfter chunk').message = (s.laneAfter chunk).message := by
    cases chunk with
    | start i fmt message =>
      cases chunk' with
      | start j fmt' message' =>
        cases fmt' with
        | fmt0 time streamId =>
          obtain ⟨rfl, rfl⟩ := hr
          refine ⟨rfl, ?_, rfl⟩
          change message'.body.drop s'.chunkSize = message'.body.drop s.chunkSize
          rw [h.chunkSize]
        | fmt1 delta => exact hr.elim
        | fmt2 delta => exact hr.elim
        | fmt3 => exact hr.elim
      | cont j => exact hr.elim
    | cont i =>
      cases chunk' with
      | start j fmt' message' => exact hr.elim
      | cont j =>
        obtain rfl := hr
        refine ⟨rfl, ?_, (h.lane j).2⟩
        change (s'.lane j).pending.drop s'.chunkSize = (s.lane j).pending.drop s.chunkSize
        rw [h.chunkSize, (h.lane j).1]
  obtain ⟨hid, hpending, hmessage⟩ := hsame
  refine ⟨⟨?_, fun i ↦ ?_⟩, ?_⟩
  · simp only [Sender.next, Sender.completes, hpending, hmessage, h.chunkSize]
    by_cases hp : (s.laneAfter chunk).pending = []
    · simp only [if_pos hp]
    · simp only [if_neg hp]
  · simp only [Sender.next, hid]
    split
    · exact ⟨hpending, hmessage⟩
    · exact h.lane i
  · simp only [Sender.completes, hpending]
    by_cases hp : (s.laneAfter chunk).pending = []
    · simp only [if_pos hp, Option.toList_some, List.map_cons, List.map_nil, Delivery.content,
        hid, hmessage]
    · simp only [if_neg hp]

/-- Recoding a list of chunks changes no message. -/
theorem content_deliveries_recoded {chunks chunks' : List Wire.Chunk}
    (hr : List.Forall₂ Recoded chunks chunks') {s s' : Sender} (h : SameOpen s s') :
    (s'.deliveries chunks').map Delivery.content = (s.deliveries chunks).map Delivery.content := by
  induction hr generalizing s s' with
  | nil => rfl
  | cons hc _ ih =>
    obtain ⟨hnext, hcontent⟩ := sameOpen_next h hc
    simp only [Sender.deliveries, List.map_append, hcontent, ih hnext]

/-- A run that consumed everything has delivered every message that was due. -/
theorem Follows.content_of_ok {timed : Prop} {c : RtmpClient} {due : List Delivery} {size : Int}
    {r : LoopEnd} (h : Follows timed c due size r) (hret : r.ret = .ok 1) :
    r.client.rtmpMessages.map RtmpMessage.content =
      c.rtmpMessages.map RtmpMessage.content ++ due.map Delivery.content := by
  obtain ⟨done, rest, msgs, hdue, hmatch, hmsgs, ⟨-, hrest, -⟩ | ⟨call, -, hfail⟩⟩ := h
  · rw [hmsgs, hdue, hrest, List.append_nil, List.map_append, content_of_forall₂ hmatch]
  · rw [hret] at hfail
    exact absurd hfail.ret (by decide)

/-- Where every message that starts without length and type follows an empty message of type
and stream id zero, and every extended timestamp stands in a message of one chunk, new messages
take from the one before what the rules say, and full headers give the same messages. -/
theorem rtmpProcessChunk_inherits (u : RtmpClient) (rtmpUrl rtmpApp rtmpStream : List UInt8)
    (hplay : (rtmpStartPlay (rtmpClient u)).1 = 0) (chunks recoded : List Wire.Chunk)
    (hr : List.Forall₂ Recoded chunks recoded)
    (hw : (Sender.init 128 fun _ ↦ 0).Along Sender.WellFormed chunks)
    (hw' : (Sender.init 128 fun _ ↦ 0).Along Sender.WellFormed recoded)
    (hp : (Sender.init 128 fun _ ↦ 0).Along Parsable chunks)
    (hp' : (Sender.init 128 fun _ ↦ 0).Along Parsable recoded) (mem mem' : Mem)
    (hb : mem.slice 0 ((Sender.init 128 fun _ ↦ 0).stream chunks).length =
      (Sender.init 128 fun _ ↦ 0).stream chunks)
    (hb' : mem'.slice 0 ((Sender.init 128 fun _ ↦ 0).stream recoded).length =
      (Sender.init 128 fun _ ↦ 0).stream recoded) :
    let size := ((Sender.init 128 fun _ ↦ 0).stream chunks).length
    let size' := ((Sender.init 128 fun _ ↦ 0).stream recoded).length
    let c := started u rtmpUrl rtmpApp rtmpStream
    let r := parseAll c mem size
    let r' := parseAll c mem' size'
    Follows False c ((Sender.init 128 fun _ ↦ 0).deliveries chunks) size r ∧
      Follows False c ((Sender.init 128 fun _ ↦ 0).deliveries recoded) size' r' ∧
      (r.ret = .ok 1 → r'.ret = .ok 1 →
        r.client.rtmpMessages.map RtmpMessage.content =
          r'.client.rtmpMessages.map RtmpMessage.content) := by
  have h := parseAll_follows u rtmpUrl rtmpApp rtmpStream False _ hplay False.elim chunks hw hp
    False.elim mem hb
  have h' := parseAll_follows u rtmpUrl rtmpApp rtmpStream False _ hplay False.elim recoded hw' hp'
    False.elim mem' hb'
  refine ⟨h, h', fun hret hret' ↦ ?_⟩
  rw [h.content_of_ok hret, h'.content_of_ok hret',
    content_deliveries_recoded hr ⟨rfl, fun _ ↦ ⟨rfl, rfl⟩⟩]

/-- An empty message of type zero is followed by one without a header of its own. -/
theorem rtmpProcessChunk_inherits_empty :
    let chunks : List Wire.Chunk :=
      [.start 3 (.fmt0 7 0) ⟨0, []⟩, .start 3 .fmt3 ⟨0, []⟩, .start 3 (.fmt1 5) ⟨0x12, [1]⟩]
    let recoded : List Wire.Chunk :=
      [.start 3 (.fmt0 7 0) ⟨0, []⟩, .start 3 (.fmt0 14 0) ⟨0, []⟩,
        .start 3 (.fmt0 19 0) ⟨0x12, [1]⟩]
    let s := Sender.init 128 fun _ ↦ 0
    let c := started blankClient (ascii "rtmp://host/live") (ascii "live") []
    let r := parseAll c (Mem.ofList (s.stream chunks)) (s.stream chunks).length
    let r' := parseAll c (Mem.ofList (s.stream recoded)) (s.stream recoded).length
    Follows False c (s.deliveries chunks) (s.stream chunks).length r ∧
      Follows False c (s.deliveries recoded) (s.stream recoded).length r' ∧
      (r.ret = .ok 1 → r'.ret = .ok 1 →
        r.client.rtmpMessages.map RtmpMessage.content =
          r'.client.rtmpMessages.map RtmpMessage.content) :=
  rtmpProcessChunk_inherits blankClient (ascii "rtmp://host/live") (ascii "live") [] rfl
    [.start 3 (.fmt0 7 0) ⟨0, []⟩, .start 3 .fmt3 ⟨0, []⟩, .start 3 (.fmt1 5) ⟨0x12, [1]⟩]
    [.start 3 (.fmt0 7 0) ⟨0, []⟩, .start 3 (.fmt0 14 0) ⟨0, []⟩,
      .start 3 (.fmt0 19 0) ⟨0x12, [1]⟩]
    (.cons ⟨rfl, rfl⟩ (.cons ⟨rfl, rfl⟩ (.cons ⟨rfl, rfl⟩ .nil)))
    (by decide) (by decide) (by decide) (by decide) (Mem.ofList _) (Mem.ofList _)
    (Mem.slice_ofList _) (Mem.slice_ofList _)

/-- A second message without a header of its own comes out empty and of type zero, where the
same two messages with full headers come out as they were sent. -/
theorem rtmpProcessChunk_loses_inherited :
    let chunks : List Wire.Chunk :=
      [.start 3 (.fmt0 0 0) ⟨0x12, [5]⟩, .start 3 .fmt3 ⟨0x12, [6]⟩]
    let recoded : List Wire.Chunk :=
      [.start 3 (.fmt0 0 0) ⟨0x12, [5]⟩, .start 3 (.fmt0 0 0) ⟨0x12, [6]⟩]
    let s := Sender.init 128 fun _ ↦ 0
    let parse := fun chunks ↦ (parseAll (started blankClient [] [] [])
      (Mem.ofList (s.stream chunks)) (s.stream chunks).length).client.rtmpMessages.map
        RtmpMessage.content
    s.Along Sender.WellFormed chunks ∧ s.Along Sender.WellFormed recoded ∧
      parse chunks = [(3, 0x12, [5]), (3, 0, [])] ∧
      parse recoded = [(3, 0x12, [5]), (3, 0x12, [6])] := by
  decide

/-! ### Timestamps -/

/-- What the client has as latest audio and video timestamps before the first message. -/
def latestAt (u : RtmpClient) (type : UInt8) : Nat :=
  if type = 8 then u.rtmpLastAudioTimestamp else u.rtmpLastVideoTimestamp

/-- Where every message starts with `fmt` 0, or with a `fmt` 1 header whose delta is relative to
the value the client adds it to, every message comes with the timestamp that the rules give. -/
theorem rtmpProcessChunk_timestamps (u : RtmpClient) (rtmpUrl rtmpApp rtmpStream : List UInt8)
    (hplay : (rtmpStartPlay (rtmpClient u)).1 = 0) (chunks : List Wire.Chunk)
    (hw : (Sender.init 128 (latestAt u)).Along Sender.WellFormed chunks)
    (hp : (Sender.init 128 (latestAt u)).Along Parsable chunks)
    (ht : (Sender.init 128 (latestAt u)).Along InTime chunks) (mem : Mem)
    (hb : mem.slice 0 ((Sender.init 128 (latestAt u)).stream chunks).length =
      (Sender.init 128 (latestAt u)).stream chunks) :
    let size := ((Sender.init 128 (latestAt u)).stream chunks).length
    let r := parseAll (started u rtmpUrl rtmpApp rtmpStream) mem size
    ∃ done rest, (Sender.init 128 (latestAt u)).deliveries chunks = done ++ rest ∧
      r.client.rtmpMessages.map (fun m ↦ (m.content, m.timeStamp)) =
        done.map (fun d ↦ (d.content, d.timestamp)) ∧
      ((r.ret = .ok 1 ∧ rest = []) ∨ ∃ call ∈ r.calls, call.HandlerFails r.ret) := by
  obtain ⟨done, rest, msgs, hdue, hmatch, hmsgs, hend⟩ :=
    parseAll_follows u rtmpUrl rtmpApp rtmpStream True (latestAt u) hplay (fun _ ↦ ⟨rfl, rfl⟩)
      chunks hw hp (fun _ ↦ ht) mem hb
  refine ⟨done, rest, hdue, ?_, ?_⟩
  · rw [hmsgs, (started_fields u rtmpUrl rtmpApp rtmpStream hplay).2.2.1, List.nil_append]
    exact timed_of_forall₂ hmatch
  · rcases hend with ⟨hret, hrest, -⟩ | hfail
    · exact Or.inl ⟨hret, hrest⟩
    · exact Or.inr hfail

/-- Audio and video on two chunk streams, each with a delta to its own message before. -/
theorem rtmpProcessChunk_timestamps_two_streams :
    let chunks : List Wire.Chunk :=
      [.start 4 (.fmt0 100 1) ⟨8, [0xaf, 1]⟩, .start 6 (.fmt0 1000 1) ⟨9, [0]⟩,
        .start 4 (.fmt1 20) ⟨8, [0xaf, 1]⟩]
    let s := Sender.init 128 (latestAt blankClient)
    let r := parseAll (started blankClient (ascii "rtmp://host/live") (ascii "live") [])
      (Mem.ofList (s.stream chunks)) (s.stream chunks).length
    ∃ done rest, s.deliveries chunks = done ++ rest ∧
      r.client.rtmpMessages.map (fun m ↦ (m.content, m.timeStamp)) =
        done.map (fun d ↦ (d.content, d.timestamp)) ∧
      ((r.ret = .ok 1 ∧ rest = []) ∨ ∃ call ∈ r.calls, call.HandlerFails r.ret) :=
  rtmpProcessChunk_timestamps blankClient (ascii "rtmp://host/live") (ascii "live") [] rfl
    [.start 4 (.fmt0 100 1) ⟨8, [0xaf, 1]⟩, .start 6 (.fmt0 1000 1) ⟨9, [0]⟩,
      .start 4 (.fmt1 20) ⟨8, [0xaf, 1]⟩]
    (by decide) (by decide) (by decide) (Mem.ofList _) (Mem.slice_ofList _)

/-- The delta of a data message is not added to the timestamp of the message before it, and
the delta of an audio message is added to that of the other chunk stream. -/
theorem rtmpProcessChunk_mixes_timestamps :
    let chunks : List Wire.Chunk :=
      [.start 4 (.fmt0 100 1) ⟨8, [0xaf, 1]⟩, .start 5 (.fmt0 1000 1) ⟨8, [0xaf, 1]⟩,
        .start 4 (.fmt1 20) ⟨8, [0xaf, 1]⟩, .start 6 (.fmt0 50 1) ⟨0x12, []⟩,
        .start 6 (.fmt1 20) ⟨0x12, []⟩]
    let s := Sender.init 128 (latestAt blankClient)
    let r := parseAll (started blankClient [] [] []) (Mem.ofList (s.stream chunks))
      (s.stream chunks).length
    s.Along Sender.WellFormed chunks ∧
      (s.deliveries chunks).map (fun d ↦ (d.chunkId, d.timestamp)) =
        [(4, 100), (5, 1000), (4, 120), (6, 50), (6, 70)] ∧
      r.client.rtmpMessages.map (fun m ↦ (m.chunkId, m.timeStamp)) =
        [(4, 100), (5, 1000), (4, 1020), (6, 50), (6, 20)] := by
  decide

end RtmpRecv.Client
