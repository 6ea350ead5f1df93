import RtmpRecv.Amf0.Values
import RtmpRecv.Client.Extended
import RtmpRecv.Wire.Messages

/-!
# A reader of chunks

Library `Client`. `rtmp_process_chunk` on messages that no handler refuses: the loop takes the
chunks one by one, up to the state that they lead to.
-/

namespace RtmpRecv.Client
open RtmpRecv.Base RtmpRecv.Amf0 RtmpRecv.Wire

/-- No handler refuses the message: it is User Control, Window Acknowledgement Size, or a command
other than `_result`. -/
def Passed (message : Message) : Prop :=
  message.type = 0x04 ∨ message.type = 0x05 ∨ message.type = 0x14 ∧
    ∃ name rest, message.body = stringBytes name ++ rest ∧ name.length ≤ 255 ∧
      name.takeWhile (· ≠ 0) ≠ ascii "_result"

private theorem poppedString_body {m : Mem} {dataLen : Int} {name rest : List UInt8}
    (hb : m.slice 0 dataLen.toNat = stringBytes name ++ rest) (hname : name.length ≤ 255) :
    poppedString 256 m 0 dataLen = some (name, name.length + 3) := by
  have hlen := congrArg List.length hb
  rw [Mem.length_slice, List.length_append, length_stringBytes] at hlen
  have hstring : m.slice 0 (stringBytes name).length = stringBytes name := by
    have hboth : m.slice 0 (stringBytes name ++ rest).length = stringBytes name ++ rest := by
      rw [List.length_append, length_stringBytes, ← hlen]
      exact hb
    exact ((Mem.slice_append_iff m 0 _ _).1 hboth).1
  rw [length_stringBytes] at hstring
  exact poppedString_iff.2 ⟨by omega, by omega, rfl, by omega, hstring⟩

/-- The handler returns 0. -/
theorem passed_processMessage {message : Message} (h : Passed message) (c : RtmpClient)
    {chunk : RtmpChunk} {m : Mem} {dataLen : Int} (htype : chunk.messageType = message.type.toNat)
    (hbody : m.slice 0 dataLen.toNat = message.body) :
    ∃ c', (rtmpProcessMessage c chunk dataLen).run m = (.ok (0, c'), m) := by
  unfold rtmpProcessMessage
  rcases h with h | h | ⟨h, name, rest, hname, hlen, hresult⟩
  · rw [htype, h]
    exact ⟨c, rfl⟩
  · rw [htype, h]
    exact ⟨_, rfl⟩
  · rw [htype, h]
    rw [hname] at hbody
    change ∃ c', (rtmpProcessCmd0x14 c dataLen).run m = _
    unfold rtmpProcessCmd0x14
    simp only [Access.bind_eq, Access.pure_eq_ret]
    rw [Access.run_bind_ok (run_rtmpAmf0PopString _ _ _ _), poppedString_body hbody hlen]
    dsimp only
    rw [if_neg hresult]
    exact ⟨c, rfl⟩

/-- A call that completes such a message, or none, does not end the loop. -/
private theorem Stepped.ret {timed : Prop} {s : Sender} {d : Option Delivery} {n : Nat}
    {call : ChunkCall} {ret : Except Fault Int} {c' : RtmpClient} {buf' : Mem}
    (h : Stepped timed s d n call ret c' buf')
    (hc' : c' = (rtmpProcessChunk call.client call.bufdata call.datalen).2.1)
    (hs : Sound call.client) (hd : ∀ e ∈ d.toList, Passed e.message) : ret = .ok 0 := by
  rcases h.result with hret | ⟨c, chunkId, data, dataLen, hstep, hret, hne⟩
  · exact hret
  · exfalso
    apply hne
    obtain ⟨msgs, hmsgs, hmatch⟩ := h.messages
    have hcall := callStep_chunkStep hs call.bufdata call.datalen
    have hkept : c.rtmpMessages = call.client.rtmpMessages := by
      rw [hstep] at hcall
      cases hcall with
      | taken c₁ _ _ hh _ hb => exact hb.messages.trans hh.kept.messages
    have hdelivered := (delivered_deliver c chunkId data dataLen call.bufdata).messages
    have hsame : c' = (deliver c chunkId data dataLen call.bufdata).2.1 := by
      rw [hc']
      unfold rtmpProcessChunk
      rw [hstep]
    rw [← hsame, hkept, hmsgs] at hdelivered
    rw [List.append_cancel_left hdelivered] at hmatch
    obtain ⟨e, he⟩ : ∃ e, d.toList = [e] := by
      cases hd' : d.toList with
      | nil =>
        rw [hd'] at hmatch
        cases hmatch
      | cons e rest =>
        rw [hd'] at hmatch
        cases hmatch with
        | cons _ hrest =>
          cases hrest
          exact ⟨e, rfl⟩
    rw [he] at hmatch hd
    cases hmatch with
    | cons hm _ =>
      obtain ⟨c₂, hrun⟩ := passed_processMessage (hd e List.mem_cons_self)
        { c with rtmpMessages := c.rtmpMessages ++
          [messageOf c chunkId data dataLen call.bufdata] } hm.type hm.body
      have hhandler : handlerRun c chunkId data dataLen call.bufdata = _ := hrun
      rw [hret, hhandler]
      rfl

/-- The loop has read the chunks and stands behind them. -/
structure ReadsChunks (c : RtmpClient) (mem : Mem) (s : Sender) (chunks : List Wire.Chunk)
    (c' : RtmpClient) (mem' : Mem) : Prop where
  sound : Sound c'
  rep : Rep False (s.after chunks) c'
  parsePos : c'.mIParsePos = c.mIParsePos + (s.stream chunks).length
  messages : ∃ msgs, c'.rtmpMessages = c.rtmpMessages ++ msgs ∧
    List.Forall₂ (Matches False) (s.deliveries chunks) msgs
  mem : ∀ i, c'.mIParsePos.toNat ≤ i → mem' i = mem i

/-- The loop takes a list of chunks with messages that no handler refuses. -/
theorem chunkLoop_reads (chunks : List Wire.Chunk) (fuel : Nat) {s : Sender} {c : RtmpClient}
    (mem : Mem) {size : Int} (hs : Sound c) (hr : Rep False s c)
    (hw : s.Along Sender.WellFormed chunks) (hp : s.Along Parsable chunks)
    (hpass : ∀ d ∈ s.deliveries chunks, Passed d.message) (hpos : 0 ≤ c.mIParsePos)
    (hb : mem.slice c.mIParsePos.toNat (s.stream chunks).length = s.stream chunks)
    (hsize : c.mIParsePos + (s.stream chunks).length ≤ size) :
    ∃ c' mem', ReadsChunks c mem s chunks c' mem' ∧
      (chunkLoop (fuel + chunks.length) c mem size).client =
        (chunkLoop fuel c' mem' size).client := by
  induction chunks generalizing s c mem with
  | nil =>
    refine ⟨c, mem, ⟨hs, hr, ?_, ⟨[], (List.append_nil _).symm, .nil⟩, fun _ _ ↦ rfl⟩, rfl⟩
    exact (Int.add_zero _).symm
  | cons chunk rest ih =>
    simp only [Sender.stream] at hb hsize
    simp only [Sender.deliveries] at hpass
    obtain ⟨hb₁, hb₂⟩ := (Mem.slice_append_iff mem _ _ _).1 hb
    rw [List.length_append] at hsize
    have hstep := stepped_chunk ⟨c, mem.shift c.mIParsePos.toNat, size - c.mIParsePos⟩ hr chunk
      hw.1 hp.1 False.elim (by rw [Mem.slice_shift, Nat.add_zero]; exact hb₁)
      (by change _ ≤ size - c.mIParsePos; omega)
    have hret := hstep.ret rfl hs fun d hd ↦ hpass d (List.mem_append_left _ hd)
    have hsound := (rtmpProcessChunk_sound hs (mem.shift c.mIParsePos.toNat)
      (size - c.mIParsePos)).1
    have hfuel : fuel + (chunk :: rest).length = fuel + rest.length + 1 := rfl
    rw [hfuel, chunkLoop_succ]
    dsimp only at hstep hret ⊢
    generalize rtmpProcessChunk c (mem.shift c.mIParsePos.toNat) (size - c.mIParsePos) = out
      at hstep hret hsound ⊢
    obtain ⟨ret, c₁, buf₁⟩ := out
    dsimp only at hstep hret hsound ⊢
    subst hret
    obtain ⟨msgs, hmsgs, hmatch⟩ := hstep.messages
    have hpos₁ : c₁.mIParsePos = c.mIParsePos + (s.bytes chunk).length := hstep.parsePos
    have hnat : c₁.mIParsePos.toNat = c.mIParsePos.toNat + (s.bytes chunk).length := by omega
    obtain ⟨c', mem', hread, hclient⟩ := ih (mem.splice c.mIParsePos.toNat buf₁) hsound
      (hstep.next rfl) hw.2 hp.2 (fun d hd ↦ hpass d (List.mem_append_right _ hd)) (by omega)
      (by rw [hnat, slice_splice_behind mem buf₁ _ _ _ hstep.mem]; exact hb₂) (by omega)
    have hlen : (s.stream (chunk :: rest)).length =
        (s.bytes chunk).length + ((s.next chunk).stream rest).length := List.length_append
    have hparsePos := hread.parsePos
    refine ⟨c', mem', ⟨hread.sound, hread.rep, ?_, ?_, ?_⟩, ?_⟩
    · rw [hparsePos, hpos₁, hlen]
      omega
    · obtain ⟨later, hlater, hmatch'⟩ := hread.messages
      refine ⟨msgs ++ later, ?_, List.rel_append hmatch hmatch'⟩
      rw [hlater, hmsgs, List.append_assoc]
    · intro i hi
      rw [hread.mem i hi]
      obtain ⟨k, rfl⟩ := Nat.exists_eq_add_of_le (by omega : c.mIParsePos.toNat ≤ i)
      rw [Mem.splice_back, hstep.mem k (by omega)]
      rfl
    · dsimp only
      rw [if_pos rfl]
      exact hclient

/-! ### Reading from the start -/

/-- A client that has received nothing, with the default chunk size. -/
def chunkReader : RtmpClient := { blankClient with rtmpChunkMaxSize := 128 }

/-- The messages that `rtmp_process_chunk` hands over when it reads the bytes. -/
def readMessages (bytes : List UInt8) : List RtmpMessage :=
  (parseAll chunkReader (Mem.ofList bytes) bytes.length).client.rtmpMessages

/-- The type and the body of a message that was handed over. -/
def RtmpMessage.payload (m : RtmpMessage) : Nat × List UInt8 := (m.messageType, m.body)

/-- The type and the body of a message. -/
def payloadOf (message : Message) : Nat × List UInt8 := (message.type.toNat, message.body)

theorem sound_chunkReader : Sound chunkReader := sound_of_idle fun _ ↦ rfl

theorem rep_chunkReader : Rep False (Sender.init 128 fun _ ↦ 0) chunkReader := by
  have hpositive : 1 ≤ 128 := by decide
  exact ⟨rfl, hpositive, fun i _ _ ↦ ⟨rfl, fun hp ↦ absurd rfl hp⟩, False.elim, False.elim⟩

theorem payload_of_forall₂ {timed : Prop} {due : List Delivery} {msgs : List RtmpMessage}
    (h : List.Forall₂ (Matches timed) due msgs) :
    msgs.map RtmpMessage.payload = due.map fun d ↦ payloadOf d.message := by
  induction h with
  | nil => rfl
  | cons hm _ ih =>
    simp only [List.map_cons, ih, RtmpMessage.payload, payloadOf, hm.type, hm.body]

/-- The parser can read every chunk of such a message. -/
theorem parsable_chunks {o : Outgoing} (h : o.Plain) (chunkSize : Nat) :
    ∀ chunk ∈ o.chunks chunkSize, ∀ s, Parsable s chunk := by
  obtain ⟨chunkId, fmt, message⟩ := o
  have hextended := h.extended Lane.idle
  have hfull := h.full
  intro chunk hchunk s
  rcases List.mem_cons.1 hchunk with rfl | hcont
  · apply Plain.parsable
    have hshort {time : Nat} (ht : extendedOf time = none) : time < 0xffffff := by
      by_contra hlarge
      simp [extendedOf, hlarge] at ht
    cases fmt with
    | fmt0 timestamp streamId => exact hshort hextended
    | fmt1 delta => exact hshort hextended
    | fmt2 delta => exact absurd trivial hfull
    | fmt3 => exact absurd trivial hfull
  · rw [(List.mem_replicate.1 hcont).2]
    trivial

/-- A reader that has taken a row of messages from the front of the bytes. -/
theorem reads_row {row : List Outgoing} (hplain : ∀ o ∈ row, o.Plain)
    (hpassed : ∀ o ∈ row, Passed o.message) (behind : List UInt8) :
    let chunks := row.flatMap (·.chunks 128)
    let bytes := row.flatMap (·.bytes 128) ++ behind
    ∃ c mem fuel, ReadsChunks chunkReader (Mem.ofList bytes) (Sender.init 128 fun _ ↦ 0) chunks
        c mem ∧ behind.length < fuel ∧
      (readMessages bytes) = (chunkLoop fuel c mem bytes.length).client.rtmpMessages := by
  intro chunks bytes
  have hquiet := Sender.quiet_init 128 fun _ ↦ 0
  obtain ⟨hw, hstream, hdeliveries, -⟩ := sends_row hquiet (by decide) hplain
  have hp : (Sender.init 128 fun _ ↦ 0).Along Parsable chunks := by
    refine Sender.Along.of_forall (fun chunk hchunk ↦ ?_) _
    obtain ⟨o, ho, hmem⟩ := List.mem_flatMap.1 hchunk
    exact parsable_chunks (hplain o ho) 128 chunk hmem
  have hpass : ∀ d ∈ (Sender.init 128 fun _ ↦ 0).deliveries chunks, Passed d.message := by
    intro d hd
    have hmem := List.mem_map_of_mem (f := Delivery.message) hd
    rw [hdeliveries] at hmem
    obtain ⟨o, ho, hmessage⟩ := List.mem_map.1 hmem
    rw [← hmessage]
    exact hpassed o ho
  have hcount := (Sender.init 128 fun _ ↦ 0).length_le_stream chunks
  have htotal : bytes.length = ((Sender.init 128 fun _ ↦ 0).stream chunks).length +
      behind.length := by
    rw [hstream]
    exact List.length_append
  have hb : (Mem.ofList bytes).slice 0 ((Sender.init 128 fun _ ↦ 0).stream chunks).length =
      (Sender.init 128 fun _ ↦ 0).stream chunks := by
    rw [hstream]
    exact ((Mem.slice_append_iff _ 0 _ _).1 (Mem.slice_ofList bytes)).1
  have hsize : chunkReader.mIParsePos + ((Sender.init 128 fun _ ↦ 0).stream chunks).length ≤
      (bytes.length : Int) := by
    change (0 : Int) + _ ≤ _
    omega
  obtain ⟨c, mem, hread, hclient⟩ := chunkLoop_reads chunks (bytes.length + 1 - chunks.length)
    (Mem.ofList bytes) sound_chunkReader rep_chunkReader hw hp hpass (Int.le_refl 0) hb hsize
  refine ⟨c, mem, bytes.length + 1 - chunks.length, hread, by omega, ?_⟩
  rw [← hclient, Nat.sub_add_cancel (by omega)]
  rfl

/-- A row of messages is read as it was sent. -/
theorem readMessages_row {row : List Outgoing} (hplain : ∀ o ∈ row, o.Plain)
    (hpassed : ∀ o ∈ row, Passed o.message) :
    (readMessages (row.flatMap (·.bytes 128))).map RtmpMessage.payload =
      row.map fun o ↦ payloadOf o.message := by
  obtain ⟨-, hstream, hdeliveries, -⟩ :=
    sends_row (Sender.quiet_init 128 fun _ ↦ 0) (by decide) hplain
  obtain ⟨c, mem, fuel, hread, hfuel, hmessages⟩ := reads_row hplain hpassed []
  rw [List.append_nil] at hread hmessages
  obtain ⟨fuel, rfl⟩ : ∃ k, fuel = k + 1 := ⟨fuel - 1, by omega⟩
  have hpos : c.mIParsePos = (row.flatMap (·.bytes 128)).length := by
    rw [hread.parsePos, hstream]
    exact Int.zero_add _
  obtain ⟨msgs, hmsgs, hmatch⟩ := hread.messages
  rw [hmessages, client_chunkLoop_done fuel mem hpos, hmsgs]
  change msgs.map _ = _
  rw [payload_of_forall₂ hmatch]
  have hmap := congrArg (List.map payloadOf) hdeliveries
  rw [List.map_map, List.map_map] at hmap
  exact hmap

end RtmpRecv.Client
