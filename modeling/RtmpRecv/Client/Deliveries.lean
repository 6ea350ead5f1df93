import RtmpRecv.Client.Reassembly
import RtmpRecv.Client.Session
import RtmpRecv.Client.Windows
import RtmpRecv.Client.Repeat
import RtmpRecv.Wire.Messages

/-!
# What a run delivers

Library `Client`. A server sends chunks behind its part of the handshake, and they arrive in any
segments. Whatever has arrived, the handlers have been called for the messages that are complete by
then, in order and once each.
-/

namespace RtmpRecv.Client
open RtmpRecv.Base RtmpRecv.Wire

/-- A message starts with an absolute timestamp. -/
def Absolute : Wire.Chunk → Prop
  | .start _ (.fmt0 _ _) _ => True
  | .start _ _ _ => False
  | .cont _ => True

instance : (chunk : Wire.Chunk) → Decidable (Absolute chunk)
  | .start _ (.fmt0 _ _) _ => isTrue trivial
  | .start _ (.fmt1 _) _ => isFalse id
  | .start _ (.fmt2 _) _ => isFalse id
  | .start _ .fmt3 _ => isFalse id
  | .cont _ => isTrue trivial

/-- The two clients do the same with every window that begins with the bytes. -/
def AlikeOn (window : List UInt8) (c c' : RtmpClient) : Prop :=
  ∀ (buf : Mem) (n : Nat), window.length ≤ n → buf.slice 0 window.length = window →
    chunkStep c buf n = chunkStep c' buf n

theorem AlikeOn.refl (window : List UInt8) (c : RtmpClient) : AlikeOn window c c :=
  fun _ _ _ _ ↦ rfl

theorem AlikeOn.append {window : List UInt8} {c c' : RtmpClient} (h : AlikeOn window c c')
    (bytes : List UInt8) : AlikeOn (window ++ bytes) c c' := by
  intro buf n hn hbuf
  rw [List.length_append] at hn
  exact h buf n (by omega) ((Mem.slice_append_iff buf 0 window bytes).1 hbuf).1

theorem AlikeOn.shifted {window : List UInt8} {c c' : RtmpClient} (h : AlikeOn window c c')
    (k : Int) : AlikeOn window (c.shifted k) (c'.shifted k) := by
  intro buf n hn hbuf
  rw [chunkStep_shifted, chunkStep_shifted, h buf n hn hbuf]

theorem AlikeOn.rewound {window : List UInt8} {c c' : RtmpClient} (h : AlikeOn window c c')
    (hpos : c'.mIParsePos = c.mIParsePos) : AlikeOn window c.rewound c'.rewound := by
  have hshifted := h.shifted (-c.mIParsePos)
  have hc : c.shifted (-c.mIParsePos) = c.rewound := by
    unfold RtmpClient.shifted RtmpClient.rewound
    rw [Int.add_right_neg]
  have hc' : c'.shifted (-c.mIParsePos) = c'.rewound := by
    unfold RtmpClient.shifted RtmpClient.rewound
    rw [hpos, Int.add_right_neg]
  rwa [hc, hc'] at hshifted

/-! ### Chunks that are cut -/

section

variable {timed : Prop} {s : Sender} {c : RtmpClient} {chunk : Wire.Chunk} {buf : Mem} {n : Nat}

/-- The window begins as its list does. -/
private theorem eq_ofList {window : List UInt8} (hbuf : buf.slice 0 n = window.take n)
    (hn : n ≤ window.length) (i : Nat) (hi : i < n) : buf i = Mem.ofList window i := by
  have hget : (buf.slice 0 n).getD i 0 = (window.take n).getD i 0 := by rw [hbuf]
  rw [Mem.getD_slice _ _ _ _ _ hi, Nat.zero_add] at hget
  rw [hget, List.getD_eq_getElem _ _ (by rw [List.length_take]; omega), List.getElem_take]
  unfold Mem.ofList
  rw [List.getD_eq_getElem _ _ (by omega)]

/-- A window that ends inside its chunk asks for more bytes. -/
theorem chunkStep_cut (hr : Rep timed s c) (hs : Sound c) (hw : s.WellFormed chunk)
    (hp : Parsable s chunk) (ht : timed → InTime s chunk) (hn : n < (s.bytes chunk).length)
    (hbuf : buf.slice 0 n = (s.bytes chunk).take n) :
    ∃ c', chunkStep c buf n = .ret 1 c' := by
  by_contra hmore
  have hnot (c' : RtmpClient) : chunkStep c (Mem.ofList (s.bytes chunk)) n ≠ .ret 1 c' := by
    rw [← chunkStep_local (eq_ofList hbuf (by omega)) hs]
    exact fun h ↦ hmore ⟨c', h⟩
  have hlonger := chunkStep_longer hnot (Int.ofNat_le.2 (Nat.le_of_lt hn)) (Int.natCast_nonneg n)
  have hwhole := stepped_chunk
    ⟨c, Mem.ofList (s.bytes chunk), (s.bytes chunk).length⟩ hr chunk hw hp ht
    (Mem.slice_ofList _) (Int.le_refl _)
  have hpart := parsePos_rtmpProcessChunk ⟨c, Mem.ofList (s.bytes chunk), n⟩ hs
    (Int.natCast_nonneg n)
  have hsame : rtmpProcessChunk c (Mem.ofList (s.bytes chunk)) (s.bytes chunk).length =
      rtmpProcessChunk c (Mem.ofList (s.bytes chunk)) n := by
    unfold rtmpProcessChunk
    rw [hlonger]
  have hpos := hwhole.parsePos
  dsimp only at hpos hpart
  rw [hsame] at hpos
  omega

private theorem fmt_basicHeader : ∀ chunkId : Fin 64,
    ((basicHeader 0 chunkId &&& 0xc0) >>> 6).toNat = 0 ∧
      ((basicHeader 3 chunkId &&& 0xc0) >>> 6).toNat = 3 := by
  decide

/-- A chunk with an absolute timestamp, or without a header, brings no delta. -/
theorem not_cutBehindDelta (ha : Absolute chunk) (hw : s.WellFormed chunk)
    (hn : n < (s.bytes chunk).length) (hbuf : buf.slice 0 n = (s.bytes chunk).take n) :
    ¬(ChunkCall.mk c buf n).CutBehindDelta := by
  rintro ⟨⟨span, hspan, -⟩, ⟨delta, hdelta, -⟩⟩
  dsimp only at hspan hdelta
  have hpos : 0 < n := by
    by_contra hzero
    have hz : (n : Int) = 0 := by omega
    unfold chunkSpan at hspan
    rw [if_pos (Or.inl hz)] at hspan
    cases hspan
  have hfirst : buf 0 = (s.bytes chunk).getD 0 0 := eq_ofList hbuf (by omega) 0 hpos
  have hfmt : chunkFmt buf = 0 ∨ chunkFmt buf = 3 := by
    unfold chunkFmt
    rw [hfirst]
    cases chunk with
    | start chunkId fmt message =>
      cases fmt with
      | fmt0 timestamp streamId => exact Or.inl (fmt_basicHeader ⟨chunkId, hw.1.2⟩).1
      | fmt1 delta => exact absurd ha id
      | fmt2 delta => exact absurd ha id
      | fmt3 => exact absurd ha id
    | cont chunkId => exact Or.inr (fmt_basicHeader ⟨chunkId, hw.1.2⟩).2
  unfold chunkDelta at hdelta
  rcases hfmt with h | h
  · rw [h] at hdelta
    cases hdelta
  · rw [h] at hdelta
    cases hdelta

end

/-! ### One round -/

/-- The client has read what the sender `s` has sent, and has the bytes of `window` to read: it does
the same as a client in step with `s` that has not looked at them yet. -/
structure InStep (timed : Prop) (s : Sender) (window : List UInt8) (c : RtmpClient) : Prop where
  sound : Sound c
  alike : ∃ c', Rep timed s c' ∧ Sound c' ∧ AlikeOn window c c' ∧
    c'.mIParsePos = c.mIParsePos ∧ c'.rtmpMessages = c.rtmpMessages

/-- The inner loop has delivered some of the messages, and stops for want of bytes inside the next
chunk, unless a handler fails. -/
structure LoopDelivers (timed : Prop) (s : Sender) (chunks : List Wire.Chunk) (c : RtmpClient)
    (window : List UInt8) (r : LoopEnd) (done rest : List Wire.Chunk) : Prop where
  split : chunks = done ++ rest
  messages : ∃ msgs, List.Forall₂ (Matches timed) (s.deliveries done) msgs ∧
    r.client.rtmpMessages = c.rtmpMessages ++ msgs
  parsePos : r.ret = .ok 1 → r.client.mIParsePos = c.mIParsePos + (s.stream done).length
  inside : (s.stream done).length ≤ window.length
  short : r.ret = .ok 1 → ∀ chunk ∈ rest.head?,
    window.length < (s.stream done).length + ((s.after done).bytes chunk).length
  inStep : r.ret = .ok 1 →
    InStep timed (s.after done) (window.drop (s.stream done).length) r.client
  result : r.ret = .ok 1 ∨ ∃ call ∈ r.calls, call.HandlerFails r.ret ∧ r.client = call.after

/-- No chunk that is cut has brought a delta: every message starts with an absolute timestamp, or no
segment ends there. -/
def Uncut (chunks : List Wire.Chunk) (calls : List ChunkCall) : Prop :=
  (∀ chunk ∈ chunks, Absolute chunk) ∨ ∀ call ∈ calls, ¬call.CutBehindDelta

theorem InStep.of_rep {timed : Prop} {s : Sender} {c : RtmpClient} (hr : Rep timed s c)
    (hs : Sound c) (window : List UInt8) : InStep timed s window c :=
  ⟨hs, c, hr, hs, .refl window c, rfl, rfl⟩

/-- A call that asks for more bytes keeps all but the fields of the header. -/
private theorem headerKept_of_more {c c' : RtmpClient} {buf : Mem} {datalen : Int} (hs : Sound c)
    (h : chunkStep c buf datalen = .ret 1 c') : HeaderKept c c' := by
  have hcall := callStep_chunkStep hs buf datalen
  rw [h] at hcall
  cases hcall with
  | wait _ hk _ => exact hk
  | short _ _ _ hh _ => exact hh.kept
  | taken _ _ _ _ _ hb => cases hb

/-- A loop whose first call ends it. -/
private theorem chunkLoop_stops {fuel : Nat} {c c' : RtmpClient} {mem buf' : Mem} {size : Int}
    {ret : Except Fault Int}
    (h : rtmpProcessChunk c (mem.shift c.mIParsePos.toNat) (size - c.mIParsePos) = (ret, c', buf'))
    (hret : ret ≠ .ok 0) :
    chunkLoop (fuel + 1) c mem size = ⟨ret, c', mem.splice c.mIParsePos.toNat buf',
      [⟨c, mem.shift c.mIParsePos.toNat, size - c.mIParsePos⟩]⟩ := by
  rw [chunkLoop_succ]
  dsimp only
  rw [h]
  cases ret with
  | error e => rfl
  | ok r =>
    have hr : r ≠ 0 := fun h0 ↦ hret (by rw [h0])
    exact if_neg hr

/-- A loop whose first call takes a chunk. -/
private theorem chunkLoop_goes {fuel : Nat} {c c' : RtmpClient} {mem buf' : Mem} {size : Int}
    (h : rtmpProcessChunk c (mem.shift c.mIParsePos.toNat) (size - c.mIParsePos) =
      (.ok 0, c', buf')) :
    chunkLoop (fuel + 1) c mem size =
      { chunkLoop fuel c' (mem.splice c.mIParsePos.toNat buf') size with
        calls := ⟨c, mem.shift c.mIParsePos.toNat, size - c.mIParsePos⟩ ::
          (chunkLoop fuel c' (mem.splice c.mIParsePos.toNat buf') size).calls } := by
  rw [chunkLoop_succ]
  dsimp only
  rw [h]
  rfl

private theorem take_of_prefix {window bytes rest : List UInt8} (h : window <+: bytes ++ rest)
    (hlen : window.length < bytes.length) : bytes.take window.length = window := by
  obtain ⟨future, hfuture⟩ := h
  have htake := congrArg (List.take window.length) hfuture
  rw [List.take_left, List.take_append_of_le_length (Nat.le_of_lt hlen)] at htake
  exact htake.symm

/-- The inner loop on some of the bytes of chunks that the parser can read. -/
theorem chunkLoop_delivers {timed : Prop} (chunks : List Wire.Chunk) (s : Sender) (c : RtmpClient)
    (mem : Mem) (size : Int) (fuel : Nat) (window : List UInt8) (hc : InStep timed s window c)
    (hw : s.Along Sender.WellFormed chunks) (hp : s.Along Parsable chunks)
    (ht : timed → s.Along InTime chunks) (hpos : 0 ≤ c.mIParsePos)
    (hmem : mem.slice c.mIParsePos.toNat window.length = window)
    (hsize : size = c.mIParsePos + window.length) (hsent : window <+: s.stream chunks)
    (hfuel : window.length < fuel) (hcut : Uncut chunks (chunkLoop fuel c mem size).calls) :
    ∃ done rest, LoopDelivers timed s chunks c window (chunkLoop fuel c mem size) done rest := by
  induction chunks generalizing s c mem fuel window with
  | nil =>
    obtain ⟨fuel, rfl⟩ : ∃ k, fuel = k + 1 := ⟨fuel - 1, by omega⟩
    have hempty : window = [] := List.prefix_nil.1 hsent
    have hz : size - c.mIParsePos = 0 := by
      rw [hempty] at hsize
      simp only [List.length_nil] at hsize
      omega
    rw [chunkLoop_succ]
    simp only [hz, rtmpProcessChunk_empty]
    refine ⟨[], [], rfl, ⟨[], .nil, (List.append_nil _).symm⟩, fun _ ↦ ?_, Nat.zero_le _, nofun,
      fun _ ↦ hc, Or.inl rfl⟩
    exact (Int.add_zero _).symm
  | cons chunk rest ih =>
    obtain ⟨fuel, rfl⟩ : ∃ k, fuel = k + 1 := ⟨fuel - 1, by omega⟩
    obtain ⟨c₁, hr, hs₁, halike, hpos₁, hmsgs₁⟩ := hc.alike
    have hlen : size - c.mIParsePos = window.length := by omega
    have hbuf : (mem.shift c.mIParsePos.toNat).slice 0 window.length = window := by
      rw [Mem.slice_shift, Nat.add_zero]
      exact hmem
    have hsame := halike _ _ (Nat.le_refl _) hbuf
    by_cases hshort : window.length < (s.bytes chunk).length
    · -- the window ends inside the chunk, which is parsed again when more has arrived
      have htake := take_of_prefix hsent hshort
      obtain ⟨c', hstep⟩ := chunkStep_cut hr hs₁ hw.1 hp.1 (fun h ↦ (ht h).1) hshort
        (hbuf.trans htake.symm)
      rw [← hsame] at hstep
      have hkept := headerKept_of_more hc.sound hstep
      have hcall : rtmpProcessChunk c (mem.shift c.mIParsePos.toNat) (size - c.mIParsePos) =
          (.ok 1, c', mem.shift c.mIParsePos.toNat) := by
        rw [hlen]
        unfold rtmpProcessChunk
        rw [hstep]
      rw [chunkLoop_stops hcall (by decide), hlen] at hcut ⊢
      have huncut : ¬(ChunkCall.mk c (mem.shift c.mIParsePos.toNat)
          window.length).CutBehindDelta := by
        rcases hcut with habsolute | hcalls
        · exact not_cutBehindDelta (habsolute chunk List.mem_cons_self) hw.1 hshort
            (hbuf.trans htake.symm)
        · exact hcalls _ (List.mem_singleton_self _)
      refine ⟨[], chunk :: rest, rfl, ⟨[], .nil, ?_⟩, fun _ ↦ ?_, Nat.zero_le _, fun _ ↦ ?_,
        fun _ ↦ ?_, Or.inl rfl⟩
      · exact hkept.messages.trans (List.append_nil _).symm
      · exact hkept.parsePos.trans (Int.add_zero _).symm
      · rintro chunk' hchunk'
        cases hchunk'
        change window.length < 0 + (s.bytes chunk).length
        rwa [Nat.zero_add]
      · refine ⟨hc.sound.headerKept hkept, c₁, hr, hs₁, fun buf n hn hsees ↦ ?_,
          hpos₁.trans hkept.parsePos.symm, hmsgs₁.trans hkept.messages.symm⟩
        have hagree (i : Nat) (hi : i < window.length) :
            mem.shift c.mIParsePos.toNat i = buf i := by
          have hsame := (Mem.slice_eq_iff _ _ _ _ _).1 (hbuf.trans hsees.symm) i hi
          rwa [Nat.zero_add] at hsame
        have hagain : chunkStep c' buf n = chunkStep c buf n :=
          chunkStep_again hc.sound rfl (Int.ofNat_le.2 hn) hagree hstep huncut
        rw [hagain]
        exact halike buf n hn hsees
    · obtain ⟨behind, hbehind⟩ : s.bytes chunk <+: window :=
        List.prefix_of_prefix_length_le (List.prefix_append _ _) hsent (Nat.not_lt.1 hshort)
      have hsent' : behind <+: (s.next chunk).stream rest := by
        rw [← hbehind] at hsent
        exact (List.prefix_append_right_inj _).1 hsent
      have hwindow : window.length = (s.bytes chunk).length + behind.length := by
        rw [← hbehind, List.length_append]
      have hparts : (mem.shift c.mIParsePos.toNat).slice 0 (s.bytes chunk).length = s.bytes chunk ∧
          (mem.shift c.mIParsePos.toNat).slice (s.bytes chunk).length behind.length = behind := by
        rw [← hbehind] at hbuf
        have hsplit := (Mem.slice_append_iff _ _ _ _).1 hbuf
        rwa [Nat.zero_add] at hsplit
      have hstep := stepped_chunk
        ⟨c₁, mem.shift c.mIParsePos.toNat, (window.length : Int)⟩ hr chunk hw.1 hp.1
        (fun h ↦ (ht h).1) hparts.1
        (by change ((s.bytes chunk).length : Int) ≤ window.length; omega)
      have hcall : rtmpProcessChunk c (mem.shift c.mIParsePos.toNat) (size - c.mIParsePos) =
          rtmpProcessChunk c₁ (mem.shift c.mIParsePos.toNat) window.length := by
        rw [hlen]
        unfold rtmpProcessChunk
        rw [hsame]
      have hsound := (rtmpProcessChunk_end
        ⟨c, mem.shift c.mIParsePos.toNat, size - c.mIParsePos⟩ hc.sound).2.1
      dsimp only at hstep hsound
      rw [hcall] at hsound
      generalize rtmpProcessChunk c₁ (mem.shift c.mIParsePos.toNat) window.length = out
        at hstep hcall hsound
      obtain ⟨ret, c', buf'⟩ := out
      dsimp only at hstep hsound
      obtain ⟨msgs, hmsgs, hmatch⟩ := hstep.messages
      rw [hmsgs₁] at hmsgs
      by_cases hret : ret = .ok 0
      · subst hret
        rw [chunkLoop_goes hcall] at hcut ⊢
        have hpos' : c'.mIParsePos = c.mIParsePos + (s.bytes chunk).length := by
          rw [← hpos₁]
          exact hstep.parsePos
        have hnat : c'.mIParsePos.toNat = c.mIParsePos.toNat + (s.bytes chunk).length := by omega
        have hmem' : (mem.splice c.mIParsePos.toNat buf').slice c'.mIParsePos.toNat behind.length =
            behind := by
          rw [hnat, slice_splice_behind mem buf' _ _ _ hstep.mem, ← Mem.slice_shift]
          exact hparts.2
        have hcut' : Uncut rest (chunkLoop fuel c' (mem.splice c.mIParsePos.toNat buf')
            size).calls :=
          hcut.imp (fun h other hother ↦ h other (List.mem_cons_of_mem _ hother))
            fun h call hcall ↦ h call (List.mem_cons_of_mem _ hcall)
        have hpositive := s.length_bytes_pos chunk
        obtain ⟨done, left, hloop⟩ := ih (s.next chunk) c' (mem.splice c.mIParsePos.toNat buf') fuel
          behind (.of_rep (hstep.next rfl) hsound behind) hw.2 hp.2 (fun h ↦ (ht h).2) (by omega)
          hmem' (by omega) hsent' (by omega) hcut'
        have hstream : (s.stream (chunk :: done)).length =
            (s.bytes chunk).length + ((s.next chunk).stream done).length := List.length_append
        refine ⟨chunk :: done, left, ?_, ?_, fun h ↦ ?_, ?_, fun h other hother ↦ ?_, fun h ↦ ?_,
          ?_⟩
        · rw [hloop.split]
          rfl
        · obtain ⟨msgs', hmatch', hmsgs'⟩ := hloop.messages
          refine ⟨msgs ++ msgs', List.rel_append hmatch hmatch', ?_⟩
          dsimp only
          rw [hmsgs', hmsgs, List.append_assoc]
        · have hmoved := hloop.parsePos h
          dsimp only
          omega
        · have hinside := hloop.inside
          omega
        · have hshort' := hloop.short h other hother
          change window.length < _ + (((s.next chunk).after done).bytes other).length
          omega
        · have hbehind' := hloop.inStep h
          have hdrop : window.drop (s.stream (chunk :: done)).length =
              behind.drop ((s.next chunk).stream done).length := by
            rw [hstream, ← hbehind, ← List.drop_drop, List.drop_left]
          rw [hdrop]
          exact hbehind'
        · refine hloop.result.imp_right ?_
          rintro ⟨call, hmem, hfails⟩
          exact ⟨call, List.mem_cons_of_mem _ hmem, hfails⟩
      · have hstop : ret ≠ .ok 1 := by
          rintro rfl
          have hfail := (hstep.result.resolve_left hret).ret
          cases hfail
        have hfails : (ChunkCall.mk c (mem.shift c.mIParsePos.toNat)
            (size - c.mIParsePos)).HandlerFails ret := by
          have hfails := hstep.result.resolve_left hret
          unfold ChunkCall.HandlerFails at hfails ⊢
          rwa [hlen, hsame]
        have hafter : (ChunkCall.mk c (mem.shift c.mIParsePos.toNat)
            (size - c.mIParsePos)).after = c' := congrArg (fun out ↦ out.2.1) hcall
        rw [chunkLoop_stops hcall hret]
        refine ⟨[chunk], rest, rfl, ⟨msgs, ?_, hmsgs⟩, ?_, ?_, ?_, ?_,
          Or.inr ⟨_, List.mem_singleton_self _, hfails, hafter.symm⟩⟩
        · rw [Sender.deliveries, Sender.deliveries, List.append_nil]
          exact hmatch
        · exact fun h ↦ absurd h hstop
        · change (s.bytes chunk ++ []).length ≤ window.length
          rw [List.append_nil]
          omega
        · exact fun h ↦ absurd h hstop
        · exact fun h ↦ absurd h hstop

/-! ### Rounds -/

/-- The two clients agree on what the chunk reader has read. -/
structure ReaderKept (c c' : RtmpClient) : Prop where
  chunk : c'.rtmpChunk = c.rtmpChunk
  chunkSize : c'.rtmpChunkMaxSize = c.rtmpChunkMaxSize
  audio : c'.rtmpLastAudioTimestamp = c.rtmpLastAudioTimestamp
  video : c'.rtmpLastVideoTimestamp = c.rtmpLastVideoTimestamp
  messages : c'.rtmpMessages = c.rtmpMessages

theorem ReaderKept.trans {a b c : RtmpClient} (h : ReaderKept a b) (h' : ReaderKept b c) :
    ReaderKept a c :=
  ⟨h'.chunk.trans h.chunk, h'.chunkSize.trans h.chunkSize, h'.audio.trans h.audio,
    h'.video.trans h.video, h'.messages.trans h.messages⟩

theorem ReaderKept.rep {timed : Prop} {s : Sender} {c c' : RtmpClient} (h : ReaderKept c c')
    (hr : Rep timed s c) : Rep timed s c' where
  chunkSize := h.chunkSize.trans hr.chunkSize
  positive := hr.positive
  lane := by
    rw [h.chunk]
    exact hr.lane
  audio ht := h.audio.trans (hr.audio ht)
  video ht := h.video.trans (hr.video ht)

theorem readerKept_sendC2 (c : RtmpClient) : ReaderKept c (rtmpSendToServerC2 c).2 := by
  unfold rtmpSendToServerC2
  dsimp only [RtmpClient.time, RtmpClient.send]
  split
  · exact ⟨rfl, rfl, rfl, rfl, rfl⟩
  · exact ⟨rfl, rfl, rfl, rfl, rfl⟩

theorem readerKept_sendConnect (c : RtmpClient) : ReaderKept c (rtmpSendToServerConnect c).2 := by
  unfold rtmpSendToServerConnect
  dsimp only [RtmpClient.send]
  split
  · exact ⟨rfl, rfl, rfl, rfl, rfl⟩
  · exact ⟨rfl, rfl, rfl, rfl, rfl⟩

/-- If the loop has been left, then in the handshake or behind a handler that did not succeed. -/
def LeftByHandler (s : RecvState) : Prop :=
  s.running = false → s.calls = [] ∨
    ∃ call ∈ s.calls, ∃ ret, call.HandlerFails ret ∧ s.client = call.after

/-- What a round does behind which the server has sent `data`: it waits for the rest of the
handshake, or leaves the loop, or parses what has arrived behind the handshake. -/
inductive RoundCase (s : RecvState) (data : List UInt8) : RecvState → Prop where
  | waits {s' : RecvState} (hkept : ReaderKept s.client s'.client)
      (hbefore : ¬RtmpStatus.waitChunk.toNat < s.client.rtmpStatus.toNat)
      (hidle : ¬RtmpStatus.waitChunk.toNat < s'.client.rtmpStatus.toNat)
      (hcalls : s'.calls = []) : RoundCase s data s'
  | left {s' : RecvState} (hstop : s'.running = false)
      (hmessages : s'.client.rtmpMessages = s.client.rtmpMessages) (hcalls : s'.calls = []) :
      RoundCase s data s'
  | parses {c : RtmpClient} {m : Mem} {pos : Nat} {size : Int} (hkept : ReaderKept s.client c)
      (hsound : Sound c) (hparse : RtmpStatus.waitChunk.toNat < c.rtmpStatus.toNat)
      (hpos : c.mIParsePos = 0) (hlow : 0 ≤ size)
      (htotal : (3073 + consumed s.calls : Nat) + size = data.length)
      (hwindow : (m.shift pos).slice 0 size.toNat = data.drop (3073 + consumed s.calls))
      (hfrom : ¬RtmpStatus.waitChunk.toNat < s.client.rtmpStatus.toNat ∧ s.calls = [] ∨
        RtmpStatus.waitChunk.toNat < s.client.rtmpStatus.toNat ∧ c = s.client.rewound) :
      RoundCase s data (s.afterLoop m pos size (chunkLoop (size.toNat + 1) c (m.shift pos) size))

/-- Every round of the running loop does one of these. -/
theorem roundCase_recvStep {s : RecvState} {data : List UInt8} (hs : Sound s.client)
    (hr : s.running = true) (hh : s.Holds data) (bytes : List UInt8) :
    RoundCase s (data ++ bytes) (recvStep s bytes) := by
  have hlen : (data ++ bytes).length = data.length + bytes.length := List.length_append
  have hlow := hh.low
  obtain ⟨n, hn⟩ : ∃ n : Nat, s.size + bytes.length = n :=
    ⟨(s.size + bytes.length).toNat, by omega⟩
  obtain ⟨m, hm⟩ : ∃ m, m = s.mPBuffer.memcpy s.size.toNat bytes := ⟨_, rfl⟩
  have hsame : m.slice s.size.toNat bytes.length = bytes := by
    rw [hm]
    exact Mem.slice_memcpy_same _ _ _
  have happend : m.slice 0 (s.size.toNat + bytes.length) =
      s.mPBuffer.slice 0 s.size.toNat ++ bytes := by
    have h := Mem.slice_memcpy_append s.mPBuffer 0 s.size.toNat bytes
    rwa [Nat.zero_add, ← hm] at h
  have hsound {c : RtmpClient} (h : c.rtmpChunk = s.client.rtmpChunk) : Sound c := by
    intro i
    rw [h]
    exact hs i
  have hcount (h : s.calls = []) : 3073 + consumed s.calls = 3073 := by
    rw [h]
    rfl
  have hrewound : ReaderKept s.client s.client.rewound := ⟨rfl, rfl, rfl, rfl, rfl⟩
  have hanswered : ReaderKept s.client (answered s.client.rewound) :=
    hrewound.trans (readerKept_sendC2 s.client.rewound)
  have hconnecting : ReaderKept s.client (connecting s.client.rewound) :=
    hanswered.trans (readerKept_sendConnect _)
  have hconnect : ReaderKept s.client (rtmpSendToServerConnect s.client.rewound).2 :=
    hrewound.trans (readerKept_sendConnect s.client.rewound)
  have hfirst (h : s.client.rewound.rtmpStatus = .waitS0S1) :
      ¬RtmpStatus.waitChunk.toNat < s.client.rtmpStatus.toNat := by
    change s.client.rtmpStatus = _ at h
    rw [h]
    decide
  have hstep := handshakeStep_handshake (c := s.client.rewound) (n := n) hh.status
  rw [recvStep_eq hr, hn, ← hm]
  generalize handshake s.client.rewound n = out at hstep ⊢
  cases hstep with
  | waits h =>
    have hidle : ¬RtmpStatus.waitChunk.toNat < s.client.rewound.rtmpStatus.toNat ∧
        s.calls = [] := by
      rcases h with h | ⟨h, -⟩ | ⟨h, -⟩
      · rw [h]
        exact ⟨by decide, (hh.first (Or.inr h)).2.2⟩
      · rw [h]
        exact ⟨by decide, (hh.first (Or.inl h)).2.2⟩
      · rw [h]
        exact ⟨by decide, (hh.second h).2.2.2⟩
    rw [afterHandshake_wait s m n 0 n hidle.1]
    exact .waits ⟨rfl, rfl, rfl, rfl, rfl⟩ hidle.1 hidle.1 hidle.2
  | notAnswered hstatus _ _ =>
    exact .left rfl hanswered.messages (hh.first (Or.inl hstatus)).2.2
  | answers hstatus hn1 hn2 hret =>
    have hidle : ¬RtmpStatus.waitChunk.toNat < (answered s.client.rewound).rtmpStatus.toNat := by
      rw [status_answered hret]
      decide
    rw [afterHandshake_wait s m n _ _ hidle]
    exact .waits hanswered (hfirst hstatus) hidle (hh.first (Or.inl hstatus)).2.2
  | notConnected hstatus _ _ _ =>
    have hmessages := hconnecting.messages
    have hcalls := (hh.first (Or.inl hstatus)).2.2
    generalize connecting s.client.rewound = c at hmessages ⊢
    exact .left rfl hmessages hcalls
  | answersConnects hstatus hn1 hret hret' =>
    obtain ⟨hsize, hbuf, hcalls⟩ := hh.first (Or.inl hstatus)
    have hparse := status_connecting hret'
    rw [afterHandshake_parse s m n 3073 (n - 3073) hparse]
    refine .parses hconnecting (hsound hconnecting.chunk) hparse
      (kept_connecting s.client.rewound).parsePos (by omega) (by rw [hcount hcalls]; omega) ?_
      (Or.inl ⟨hfirst hstatus, hcalls⟩)
    have hto : s.size.toNat = data.length := by omega
    have hnum : ((n : Int) - 3073).toNat = (data ++ bytes).length - 3073 := by omega
    have hdrop := Mem.drop_slice m 0 (data ++ bytes).length 3073
    rw [hto, hbuf] at happend
    rw [hlen, happend, ← hlen] at hdrop
    rw [hnum, hcount hcalls, Mem.slice_shift, hdrop]
  | notConnectedLater hstatus _ _ =>
    have hmessages := hconnect.messages
    have hcalls := (hh.second hstatus).2.2.2
    generalize (rtmpSendToServerConnect s.client.rewound).2 = c at hmessages ⊢
    exact .left rfl hmessages hcalls
  | connects hstatus hn1 hret =>
    obtain ⟨hlow', hhigh, hsize, hcalls⟩ := hh.second hstatus
    obtain ⟨hk, hcases⟩ := sendConnect_cases s.client.rewound
    have hparse : RtmpStatus.waitChunk.toNat <
        (rtmpSendToServerConnect s.client.rewound).2.rtmpStatus.toNat := by
      rw [hcases.resolve_left hret]
      decide
    have hidle : ¬RtmpStatus.waitChunk.toNat < s.client.rtmpStatus.toNat := by
      change s.client.rtmpStatus = _ at hstatus
      rw [hstatus]
      decide
    rw [afterHandshake_parse s m n _ _ hparse]
    refine .parses hconnect (hsound hconnect.chunk) hparse hk.parsePos (by omega)
      (by rw [hcount hcalls]; omega) ?_ (Or.inl ⟨hidle, hcalls⟩)
    -- the bytes behind S2 are the last ones of `bytes`
    have hdrop := Mem.drop_slice m s.size.toNat bytes.length (3073 - data.length)
    have hoff : s.size.toNat + (3073 - data.length) = 1536 + 0 := by omega
    have hnum : bytes.length - (3073 - data.length) = ((n : Int) - 1536).toNat := by omega
    rw [hsame, hoff, hnum] at hdrop
    rw [hcount hcalls, List.drop_append, List.drop_eq_nil_of_le (by omega), List.nil_append,
      hdrop, Mem.slice_shift]
  | parses h =>
    obtain ⟨htotal, hbuf⟩ := hh.parsed h
    rw [afterHandshake_parse s m n 0 n h]
    refine .parses ⟨rfl, rfl, rfl, rfl, rfl⟩ hs h rfl (by omega) (by omega) ?_ (Or.inr ⟨h, rfl⟩)
    have hnum : (n : Int).toNat = s.size.toNat + bytes.length := by omega
    rw [Mem.shift_zero, hnum, happend, hbuf, List.drop_append_of_le_length (by omega)]

/-! ### Runs -/

/-- How far the loop has come behind `data`: it waits for the handshake, or it has read the chunks
that are complete by then. -/
inductive Stage (timed : Prop) (s₀ : Sender) (chunks : List Wire.Chunk) (data : List UInt8)
    (s : RecvState) : Prop where
  | greets (hidle : ¬RtmpStatus.waitChunk.toNat < s.client.rtmpStatus.toNat)
      (hrep : Rep timed s₀ s.client) (hcalls : s.calls = [])
      (hmessages : s.client.rtmpMessages = [])
  | reads (done rest : List Wire.Chunk) (hsplit : chunks = done ++ rest)
      (hparse : RtmpStatus.waitChunk.toNat < s.client.rtmpStatus.toNat)
      (hmessages : List.Forall₂ (Matches timed) (s₀.deliveries done) s.client.rtmpMessages)
      (htotal : (3073 + (s₀.stream done).length : Nat) + s.size = data.length)
      (hshort : ∀ chunk ∈ rest.head?, s.size < ((s₀.after done).bytes chunk).length)
      (hstep : InStep timed (s₀.after done) (data.drop (3073 + (s₀.stream done).length)) s.client)

/-- The messages that the client has taken are those of the chunks `done`, whose bytes are part of
`data`. -/
structure Heard (timed : Prop) (s₀ : Sender) (chunks : List Wire.Chunk) (data : List UInt8)
    (s : RecvState) (done rest : List Wire.Chunk) : Prop where
  split : chunks = done ++ rest
  messages : List.Forall₂ (Matches timed) (s₀.deliveries done) s.client.rtmpMessages
  arrived : done = [] ∨ 3073 + (s₀.stream done).length ≤ data.length

theorem Heard.later {timed : Prop} {s₀ : Sender} {chunks done rest : List Wire.Chunk}
    {data : List UInt8} {s s' : RecvState} (h : Heard timed s₀ chunks data s done rest)
    (hmessages : s'.client.rtmpMessages = s.client.rtmpMessages) (bytes : List UInt8) :
    Heard timed s₀ chunks (data ++ bytes) s' done rest where
  split := h.split
  messages := by
    rw [hmessages]
    exact h.messages
  arrived := h.arrived.imp_right fun h ↦ by
    rw [List.length_append]
    omega

section

variable {timed : Prop} {s₀ : Sender} {chunks : List Wire.Chunk} {data : List UInt8} {s : RecvState}

/-- The chunks are well formed, and the client can read them. -/
structure Readable (timed : Prop) (s₀ : Sender) (chunks : List Wire.Chunk) : Prop where
  wellFormed : s₀.Along Sender.WellFormed chunks
  parsable : s₀.Along Parsable chunks
  inTime : timed → s₀.Along InTime chunks

/-- The client of a round that parses, in front of what is left over. -/
private theorem Stage.parses (h : Stage timed s₀ chunks data s)
    (hh : s.Holds data) {bytes : List UInt8} {c : RtmpClient} (hkept : ReaderKept s.client c)
    (hsound : Sound c)
    (hfrom : ¬RtmpStatus.waitChunk.toNat < s.client.rtmpStatus.toNat ∧ s.calls = [] ∨
      RtmpStatus.waitChunk.toNat < s.client.rtmpStatus.toNat ∧ c = s.client.rewound) :
    ∃ done rest, chunks = done ++ rest ∧
      List.Forall₂ (Matches timed) (s₀.deliveries done) c.rtmpMessages ∧
      consumed s.calls = (s₀.stream done).length ∧
      InStep timed (s₀.after done) ((data ++ bytes).drop (3073 + (s₀.stream done).length)) c := by
  rw [hkept.messages]
  cases h with
  | greets hidle hrep hcalls hmessages =>
    refine ⟨[], chunks, rfl, ?_, ?_, .of_rep (hkept.rep hrep) hsound _⟩
    · rw [hmessages]
      exact .nil
    · rw [hcalls]
      rfl
  | reads done rest hsplit hparse hmessages htotal hshort hstep =>
    obtain ⟨htotal', -⟩ := hh.parsed hparse
    have hlow := hh.low
    obtain ⟨-, hc⟩ := hfrom.resolve_left fun h ↦ h.1 hparse
    refine ⟨done, rest, hsplit, hmessages, by omega, hsound, ?_⟩
    obtain ⟨c', hrep, hsound', halike, hpos, hmsgs⟩ := hstep.alike
    rw [List.drop_append_of_le_length (by omega), hc]
    have hkept' : ReaderKept c' c'.rewound := ⟨rfl, rfl, rfl, rfl, rfl⟩
    exact ⟨c'.rewound, hkept'.rep hrep, hsound', (halike.rewound hpos).append bytes, rfl, hmsgs⟩

/-- A round that does not leave the loop keeps what its last call has not consumed. -/
private theorem waits_afterLoop {c : RtmpClient} {m : Mem} {pos : Nat} {size : Int} {r : LoopEnd}
    (hend : RoundEnd c size r) (hrun : (s.afterLoop m pos size r).running = true) :
    r.ret = .ok 1 ∧ (s.afterLoop m pos size r).size = size - r.client.mIParsePos := by
  unfold RecvState.afterLoop at hrun ⊢
  cases hret : r.ret with
  | error e =>
    rw [hret] at hrun
    cases hrun
  | ok ret =>
    rw [hret] at hrun
    dsimp only at hrun ⊢
    by_cases hpositive : ret > 0
    · rw [if_pos hpositive]
      refine ⟨?_, rfl⟩
      rw [← hret]
      rcases hend.result with ⟨h, -⟩ | h | ⟨call, -, hf⟩
      · exact h
      · rw [hret] at h
        cases h
        omega
      · rw [hret] at hf
        have hneg := hf.ret
        omega
    · rw [if_neg hpositive] at hrun
      cases hrun

/-- Only a handler that does not succeed ends a round that parses. -/
private theorem leftByHandler_afterLoop {c : RtmpClient} {m : Mem} {pos : Nat} {size : Int}
    {window : List UInt8} {r : LoopEnd} {s' : Sender} {done rest : List Wire.Chunk}
    (h : LoopDelivers timed s' chunks c window r done rest) :
    LeftByHandler (s.afterLoop m pos size r) := by
  intro hstop
  rcases h.result with hret | ⟨call, hcall, hfails, hclient⟩
  · unfold RecvState.afterLoop at hstop
    rw [hret] at hstop
    cases hstop
  · right
    refine ⟨call, ?_, r.ret, hfails, ?_⟩
    · rw [RecvState.calls_afterLoop]
      exact List.mem_append_right _ hcall
    · rw [client_afterLoop, hclient]

/-- A chunk that a running loop has not read is incomplete, unless there was no handshake. -/
theorem Stage.missing (h : Stage timed s₀ chunks data s) (hh : s.Holds data) :
    ∃ done rest, Heard timed s₀ chunks data s done rest ∧
      (s.client.rtmpStatus ≠ .sendC0C1 → ∀ chunk ∈ rest.head?,
        data.length < 3073 + (s₀.stream (done ++ [chunk])).length) := by
  have hlow := hh.low
  cases h with
  | greets hidle _ _ hmessages =>
    refine ⟨[], chunks, ⟨rfl, ?_, Or.inl rfl⟩, fun hstatus chunk _ ↦ ?_⟩
    · rw [hmessages]
      exact .nil
    · cases hh with
      | waitS0S1 h _ _ _ =>
        have hshort := (h.resolve_left hstatus).2
        omega
      | waitS2 _ _ hhigh _ _ => omega
      | chunks hparse _ _ _ => exact absurd hparse hidle
  | reads done rest hsplit _ hmessages htotal hshort _ =>
    refine ⟨done, rest, ⟨hsplit, hmessages, Or.inr (by omega)⟩, fun _ chunk hchunk ↦ ?_⟩
    have hnext : (s₀.stream (done ++ [chunk])).length =
        (s₀.stream done).length + ((s₀.after done).bytes chunk).length := by
      rw [Sender.stream_append, List.length_append, Sender.stream, Sender.stream, List.append_nil]
    have hinside := hshort chunk hchunk
    omega

/-- A round takes the messages that its bytes complete. -/
theorem Stage.recvStep (h : Stage timed s₀ chunks data s) (hs : Sound s.client)
    (hr : s.running = true) (hh : s.Holds data) {bytes greeting : List UInt8}
    (hgreeting : greeting.length = 3073) (hsent : Readable timed s₀ chunks)
    (hdata : data ++ bytes <+: greeting ++ s₀.stream chunks)
    (hcut : Uncut chunks (recvStep s bytes).calls) :
    (∃ done rest, Heard timed s₀ chunks (data ++ bytes) (Client.recvStep s bytes) done rest) ∧
      LeftByHandler (Client.recvStep s bytes) ∧
      ((Client.recvStep s bytes).running = true →
        Stage timed s₀ chunks (data ++ bytes) (Client.recvStep s bytes)) := by
  have hround := roundCase_recvStep hs hr hh bytes
  generalize Client.recvStep s bytes = s' at hround hcut ⊢
  cases hround with
  | waits hkept hbefore hidle hcalls =>
    obtain ⟨done, rest, hheard, -⟩ := h.missing hh
    refine ⟨⟨done, rest, hheard.later hkept.messages bytes⟩, fun _ ↦ Or.inl hcalls, fun _ ↦ ?_⟩
    cases h with
    | greets _ hrep _ hmessages =>
      exact .greets hidle (hkept.rep hrep) hcalls (hkept.messages.trans hmessages)
    | reads _ _ _ hparse _ _ _ _ => exact absurd hparse hbefore
  | left hstop hmessages hcalls =>
    obtain ⟨done, rest, hheard, -⟩ := h.missing hh
    refine ⟨⟨done, rest, hheard.later hmessages bytes⟩, fun _ ↦ Or.inl hcalls, fun hrun ↦ ?_⟩
    rw [hstop] at hrun
    cases hrun
  | @parses c m pos size hkept hsound hparse hpos hlow htotal hwindow hfrom =>
    obtain ⟨done, rest, hsplit, hmessages, hread, hstep⟩ := h.parses hh hkept hsound hfrom
    rw [hread] at htotal hwindow
    have hlength : ((data ++ bytes).drop (3073 + (s₀.stream done).length)).length =
        size.toNat := by
      rw [List.length_drop]
      omega
    have hbehind : (data ++ bytes).drop (3073 + (s₀.stream done).length) <+:
        (s₀.after done).stream rest := by
      obtain ⟨future, hfuture⟩ := hdata
      refine ⟨future, ?_⟩
      have hdrop := congrArg (List.drop (3073 + (s₀.stream done).length)) hfuture
      rw [List.drop_append_of_le_length (by omega), ← List.drop_drop (l := greeting ++ _),
        ← hgreeting, List.drop_left, hsplit, Sender.stream_append, List.drop_left] at hdrop
      rwa [hgreeting] at hdrop
    generalize hbytes : (data ++ bytes).drop (3073 + (s₀.stream done).length) = window
      at hwindow hlength hbehind hstep
    rw [RecvState.calls_afterLoop] at hcut
    rw [hsplit] at hcut hsent
    have hcut' : Uncut rest (chunkLoop (size.toNat + 1) c (m.shift pos) size).calls :=
      hcut.imp (fun h chunk hchunk ↦ h chunk (List.mem_append_right _ hchunk))
        fun h call hcall ↦ h call (List.mem_append_right _ hcall)
    obtain ⟨more, left, hloop⟩ := chunkLoop_delivers rest (s₀.after done) c (m.shift pos) size
      (size.toNat + 1) window hstep hsent.wellFormed.behind hsent.parsable.behind
      (fun ht ↦ (hsent.inTime ht).behind) (by omega) (by rw [hpos, hlength]; exact hwindow)
      (by omega) hbehind (by omega) hcut'
    have hend := chunkLoop_end (size.toNat + 1) hsound (m.shift pos) size (by omega) (by omega)
      (by omega)
    generalize chunkLoop (size.toNat + 1) c (m.shift pos) size = r at hloop hend ⊢
    have hleft : LeftByHandler (s.afterLoop m pos size r) := leftByHandler_afterLoop hloop
    obtain ⟨msgs, hmatch, hmsgs⟩ := hloop.messages
    have hheard : List.Forall₂ (Matches timed) (s₀.deliveries (done ++ more))
        (s.afterLoop m pos size r).client.rtmpMessages := by
      rw [client_afterLoop, hmsgs, Sender.deliveries_append]
      exact List.rel_append hmessages hmatch
    have hsplit' : chunks = (done ++ more) ++ left := by
      rw [hsplit, hloop.split, List.append_assoc]
    have hinside := hloop.inside
    have hlong : (s₀.stream (done ++ more)).length =
        (s₀.stream done).length + ((s₀.after done).stream more).length := by
      rw [Sender.stream_append, List.length_append]
    refine ⟨⟨done ++ more, left, hsplit', hheard, Or.inr (by omega)⟩, hleft, fun hrun ↦ ?_⟩
    obtain ⟨hret, hsize⟩ := waits_afterLoop hend hrun
    have hmoved := hloop.parsePos hret
    refine .reads (done ++ more) left hsplit' ?_ hheard (by omega) (fun chunk hchunk ↦ ?_) ?_
    · rw [client_afterLoop]
      exact hend.status.parsing hparse
    · have hshort := hloop.short hret chunk hchunk
      rw [Sender.after_append]
      omega
    · rw [client_afterLoop, Sender.after_append, hlong, ← Nat.add_assoc, ← List.drop_drop,
        hbytes]
      exact hloop.inStep hret

/-- A run takes the messages that its bytes complete. -/
theorem stage_recvRun {start : RecvState} (hs : Sound start.client) (hh : start.Holds [])
    (hstage : Stage timed s₀ chunks [] start) (hsent : Readable timed s₀ chunks)
    {greeting : List UInt8} (hgreeting : greeting.length = 3073) (segments : List (List UInt8))
    (hdata : segments.flatten <+: greeting ++ s₀.stream chunks)
    (hcut : Uncut chunks (recvRun start segments).calls) :
    (∃ done rest, Heard timed s₀ chunks segments.flatten (recvRun start segments) done rest) ∧
      LeftByHandler (recvRun start segments) ∧
      ((recvRun start segments).running = true →
        Stage timed s₀ chunks segments.flatten (recvRun start segments)) := by
  induction segments using List.reverseRecOn with
  | nil =>
    obtain ⟨done, rest, hheard, -⟩ := hstage.missing hh
    have hcalls : start.calls = [] := by
      cases hstage with
      | greets _ _ hcalls _ => exact hcalls
      | reads done _ _ _ _ htotal _ _ =>
        have hlow := hh.low
        simp only [List.length_nil] at htotal
        omega
    exact ⟨⟨done, rest, hheard⟩, fun _ ↦ Or.inl hcalls, fun _ ↦ hstage⟩
  | append_singleton segments bytes ih =>
    rw [recvRun_append] at hcut ⊢
    change Uncut chunks (recvStep (recvRun start segments) bytes).calls at hcut
    rw [List.flatten_append, List.flatten_singleton] at hdata ⊢
    change (∃ done rest, Heard timed s₀ chunks _ (recvStep (recvRun start segments) bytes) done
      rest) ∧ LeftByHandler (recvStep (recvRun start segments) bytes) ∧
      ((recvStep (recvRun start segments) bytes).running = true →
        Stage timed s₀ chunks _ (recvStep (recvRun start segments) bytes))
    have hbefore : Uncut chunks (recvRun start segments).calls :=
      hcut.imp_right fun h call hcall ↦
        h call ((calls_recvRun (recvRun start segments) [bytes]).subset hcall)
    obtain ⟨⟨done, rest, hheard⟩, hleft, hstage'⟩ :=
      ih ((List.prefix_append _ _).trans hdata) hbefore
    by_cases hrun : (recvRun start segments).running = true
    · obtain ⟨hsound, hholds⟩ := holds_recvRun hs hh segments hrun
      exact (hstage' hrun).recvStep hsound hrun hholds hgreeting hsent hdata hcut
    · rw [Bool.not_eq_true] at hrun
      rw [recvStep_left hrun]
      refine ⟨⟨done, rest, hheard.later rfl bytes⟩, hleft, fun h ↦ ?_⟩
      rw [hrun] at h
      cases h

end

/-! ### A server -/

/-- The client that `rtmp_start_play` hands to the receive loop has read nothing. -/
theorem rep_playing (timed : Prop) {u : RtmpClient} (h : (rtmpStartPlay (rtmpClient u)).1 = 0)
    (rtmpUrl rtmpApp rtmpStream : List UInt8) {latest : UInt8 → Nat}
    (hl : latest 8 = u.rtmpLastAudioTimestamp ∧ latest 9 = u.rtmpLastVideoTimestamp) :
    Rep timed (Sender.init 128 latest) (playing u rtmpUrl rtmpApp rtmpStream) ∧
      (playing u rtmpUrl rtmpApp rtmpStream).rtmpMessages = [] := by
  unfold playing
  rw [rtmpStartPlay_eq ((rtmpStartPlay_newClient u rtmpUrl rtmpApp rtmpStream).trans h)]
  have hkept (c : RtmpClient) : ReaderKept c (rtmpSendToServerC0C1 c).2 := by
    unfold rtmpSendToServerC0C1
    dsimp only [RtmpClient.time, RtmpClient.send]
    split
    · exact ⟨rfl, rfl, rfl, rfl, rfl⟩
    · exact ⟨rfl, rfl, rfl, rfl, rfl⟩
  have hnew := hkept { newClient u rtmpUrl rtmpApp rtmpStream with rtmpChunkMaxSize := 128 }
  refine ⟨hnew.rep ?_, hnew.messages⟩
  constructor
  · rfl
  · exact (by decide : 1 ≤ 128)
  · exact fun i _ _ ↦ ⟨rfl, fun hp ↦ absurd rfl hp⟩
  · exact fun _ ↦ hl.1.symm
  · exact fun _ ↦ hl.2.symm

/-- Matching lists agree in what counts. -/
theorem timeStamp_of_forall₂ {timed : Prop} (ht : timed) {due : List Delivery}
    {msgs : List RtmpMessage} (h : List.Forall₂ (Matches timed) due msgs) :
    msgs.map RtmpMessage.timeStamp = due.map Delivery.timestamp := by
  induction h with
  | nil => rfl
  | cons hm _ ih => simp only [List.map_cons, ih, hm.time ht]

/-- Behind `data`, the handlers have been called for the messages of the chunks `done`, in order,
once each and with the server's timestamps; while the loop runs, only a chunk that has not arrived
is missing. -/
structure Arrivals (s₀ : Sender) (chunks : List Wire.Chunk) (data : List UInt8) (s : RecvState)
    (done rest : List Wire.Chunk) : Prop where
  split : chunks = done ++ rest
  arrived : done = [] ∨ 3073 + (s₀.stream done).length ≤ data.length
  content : s.client.rtmpMessages.map RtmpMessage.content =
    (s₀.deliveries done).map Delivery.content
  timeStamp : s₀.Along InTime chunks →
    s.client.rtmpMessages.map RtmpMessage.timeStamp = (s₀.deliveries done).map Delivery.timestamp
  missing : s.running = true → s.client.rtmpStatus ≠ .sendC0C1 → ∀ chunk ∈ rest.head?,
    data.length < 3073 + (s₀.stream (done ++ [chunk])).length

section

variable (u : RtmpClient) (h : (rtmpStartPlay (rtmpClient u)).1 = 0)
  (rtmpUrl rtmpApp rtmpStream : List UInt8) (mPBuffer : Mem) {latest : UInt8 → Nat}
  (hl : latest 8 = u.rtmpLastAudioTimestamp ∧ latest 9 = u.rtmpLastVideoTimestamp)
  {chunks : List Wire.Chunk} (hw : (Sender.init 128 latest).Along Sender.WellFormed chunks)
  (hp : (Sender.init 128 latest).Along Parsable chunks) {greeting : List UInt8}
  (hgreeting : greeting.length = 3073) (segments : List (List UInt8))
  (hsent : segments.flatten <+: greeting ++ (Sender.init 128 latest).stream chunks)
  (hcut : Uncut chunks (recvRun (rtmpRecvData (playing u rtmpUrl rtmpApp rtmpStream) mPBuffer)
    segments).calls)

include h hl hw hp hgreeting hsent hcut

/-- What a run has heard of a server: as long as the loop runs, nothing is missing. -/
theorem heard_recvRun :
    let s₀ := Sender.init 128 latest
    let s := recvRun (rtmpRecvData (playing u rtmpUrl rtmpApp rtmpStream) mPBuffer) segments
    ∃ done rest, Heard (s₀.Along InTime chunks) s₀ chunks segments.flatten s done rest ∧
      LeftByHandler s ∧ (s.running = true → s.client.rtmpStatus ≠ .sendC0C1 → ∀ chunk ∈ rest.head?,
        segments.flatten.length < 3073 + (s₀.stream (done ++ [chunk])).length) := by
  intro s₀ s
  have hf := fresh_playing h rtmpUrl rtmpApp rtmpStream
  obtain ⟨hrep, hmessages⟩ := rep_playing (s₀.Along InTime chunks) h rtmpUrl rtmpApp rtmpStream hl
  have hidle : ¬RtmpStatus.waitChunk.toNat <
      (playing u rtmpUrl rtmpApp rtmpStream).rtmpStatus.toNat := by
    rcases hf.status with hstatus | hstatus
    · change (playing u rtmpUrl rtmpApp rtmpStream).rtmpStatus = _ at hstatus
      rw [hstatus]
      decide
    · change (playing u rtmpUrl rtmpApp rtmpStream).rtmpStatus = _ at hstatus
      rw [hstatus]
      decide
  have hh : (rtmpRecvData (playing u rtmpUrl rtmpApp rtmpStream) mPBuffer).Holds [] := by
    refine .waitS0S1 ?_ rfl rfl rfl
    rcases hf.status with hstatus | hstatus
    · exact Or.inr ⟨hstatus, by decide⟩
    · exact Or.inl hstatus
  have hs : Sound (rtmpRecvData (playing u rtmpUrl rtmpApp rtmpStream) mPBuffer).client := hf.sound
  obtain ⟨⟨done, rest, hheard⟩, hleft, hstage⟩ := stage_recvRun hs hh
    (.greets hidle hrep rfl hmessages) ⟨hw, hp, id⟩ hgreeting segments hsent hcut
  by_cases hrun : s.running = true
  · obtain ⟨-, hholds⟩ := holds_recvRun hs hh segments hrun
    obtain ⟨done, rest, hheard, hmissing⟩ := (hstage hrun).missing hholds
    exact ⟨done, rest, hheard, hleft, fun _ ↦ hmissing⟩
  · exact ⟨done, rest, hheard, hleft, fun h ↦ absurd h hrun⟩

/-- Whatever segments have arrived of the handshake and of the chunks behind it, the client has
taken the messages that are complete. -/
theorem rtmpRecvData_delivers :
    ∃ done rest, Arrivals (Sender.init 128 latest) chunks segments.flatten
      (recvRun (rtmpRecvData (playing u rtmpUrl rtmpApp rtmpStream) mPBuffer) segments) done
      rest := by
  obtain ⟨done, rest, hheard, -, hmissing⟩ :=
    heard_recvRun u h rtmpUrl rtmpApp rtmpStream mPBuffer hl hw hp hgreeting segments hsent hcut
  refine ⟨done, rest, ?_⟩
  constructor
  · exact hheard.split
  · exact hheard.arrived
  · exact content_of_forall₂ hheard.messages
  · exact fun ht ↦ timeStamp_of_forall₂ ht hheard.messages
  · exact hmissing

end

/-- A video message in two chunks with an audio message between them. -/
def interleavedChunks : List Wire.Chunk :=
  [.start 6 (.fmt0 40 1) ⟨9, List.replicate 130 0⟩,
    .start 4 (.fmt0 30 1) ⟨8, [0xaf, 0, 0x12, 0x10]⟩, .cont 6]

/-- The first segment ends in the handshake, and the second one behind the audio message, in the
second chunk of the video message. -/
theorem rtmpRecvData_delivers_interleaved :
    let sent := zeroHandshake ++ (Sender.init 128 fun _ ↦ 0).stream interleavedChunks
    let segments := [sent.take 2000, (sent.drop 2000).take 1230]
    let s := recvRun (rtmpRecvData (playing blankClient [] [] []) fun _ ↦ 0) segments
    s.client.rtmpMessages.map RtmpMessage.content = [(4, 8, [0xaf, 0, 0x12, 0x10])] ∧
      ∃ done rest, Arrivals (Sender.init 128 fun _ ↦ 0) interleavedChunks segments.flatten
        s done rest := by
  intro sent segments s
  have hsegments (sent : List UInt8) :
      [sent.take 2000, (sent.drop 2000).take 1230].flatten <+: sent := by
    refine ⟨(sent.drop 2000).drop 1230, ?_⟩
    simp only [List.flatten_cons, List.flatten_nil, List.append_nil, List.append_assoc,
      List.take_append_drop]
  constructor
  · decide +kernel
  · exact rtmpRecvData_delivers blankClient (by decide) [] [] [] (fun _ ↦ 0) ⟨rfl, rfl⟩
      (by decide +kernel) (by decide +kernel) List.length_replicate segments (hsegments sent)
      (Or.inl (by decide +kernel))

end RtmpRecv.Client
