import RtmpRecv.Client.Step
import RtmpRecv.Client.Streams

/-!
# Rounds of the receive loop

Library `Client`. How the inner loop of `rtmp_recv_data` ends, and what that means for the
room left in `m_pBuffer`: the loop asks for at least one byte as long as no chunk is longer
than the buffer.
-/

namespace RtmpRecv.Client
open RtmpRecv.Base RtmpRecv.Wire

/-- The call cannot go on: the header has not come, or the chunk is longer than the window. -/
def ChunkCall.Incomplete (call : ChunkCall) : Prop :=
  call.datalen < 16 ∨
    ∃ n, chunkSpan call.client call.bufdata call.datalen = some n ∧ call.datalen < n

theorem StatusFrom.trans {a b c : RtmpClient} (h : StatusFrom a b) (h' : StatusFrom b c) :
    StatusFrom a c := by
  rcases h' with h' | h'
  · rcases h with h | h
    · exact Or.inl (h'.trans h)
    · exact Or.inr (by rw [h']; exact h)
  · exact Or.inr h'

/-- A client that parses chunks goes on to do so. -/
theorem StatusFrom.parsing {c c' : RtmpClient} (h : StatusFrom c c')
    (hs : RtmpStatus.waitChunk.toNat < c.rtmpStatus.toNat) :
    RtmpStatus.waitChunk.toNat < c'.rtmpStatus.toNat := by
  rcases h with h | h
  · rw [h]
    exact hs
  · exact h

/-- How a call ends on a window of at least zero bytes: it wants more of an incomplete chunk, it
rejects the chunk, the handler does not succeed, or a whole chunk has been consumed. What lies
behind that chunk stays as it was. -/
inductive CallEnd (call : ChunkCall) : Except Fault Int → RtmpClient → Mem → Prop where
  | more (c : RtmpClient) (hpos : c.mIParsePos = call.client.mIParsePos)
      (hi : call.Incomplete) : CallEnd call (.ok 1) c call.bufdata
  | reject (c : RtmpClient) (m : Mem) : CallEnd call (.ok (-1)) c m
  | failed (ret : Except Fault Int) (c : RtmpClient) (m : Mem) (hf : call.HandlerFails ret) :
      CallEnd call ret c m
  | taken (c : RtmpClient) (m : Mem) (n : Nat) (hn : 0 < n) (hle : (n : Int) ≤ call.datalen)
      (hpos : c.mIParsePos = call.client.mIParsePos + n)
      (hm : ∀ i, n ≤ i → m i = call.bufdata i) : CallEnd call (.ok 0) c m

theorem rtmpProcessChunk_end (call : ChunkCall) (hs : Sound call.client) :
    CallEnd call (rtmpProcessChunk call.client call.bufdata call.datalen).1
        (rtmpProcessChunk call.client call.bufdata call.datalen).2.1
        (rtmpProcessChunk call.client call.bufdata call.datalen).2.2 ∧
      Sound (rtmpProcessChunk call.client call.bufdata call.datalen).2.1 ∧
      StatusFrom call.client (rtmpProcessChunk call.client call.bufdata call.datalen).2.1 := by
  have h := callStep_chunkStep hs call.bufdata call.datalen
  unfold rtmpProcessChunk
  generalize hstep : chunkStep call.client call.bufdata call.datalen = step at h ⊢
  cases h with
  | wait c' hk hd =>
    exact ⟨.more c' hk.parsePos (Or.inl hd), hs.headerKept hk, Or.inl hk.status⟩
  | reject c' hk => exact ⟨.reject c' _, hs.headerKept hk, Or.inl hk.status⟩
  | short c' chunkInfo hl hh hd =>
    exact ⟨.more c' hh.kept.parsePos (Or.inr ⟨_, hh.span, hd⟩), hs.headerKept hh.kept,
      Or.inl hh.kept.status⟩
  | taken c' chunkInfo hl hh hd hb =>
    have hsound := hb.sound (hs.headerKept hh.kept) hh.size
    have hstatus : StatusFrom call.client step.client :=
      Or.inl (hb.status.trans hh.kept.status)
    have hpos := hb.parsePos
    rw [hh.kept.parsePos] at hpos
    rcases hb.cases with hret | ⟨data, dataLen, hmsg, hlast, hend⟩
    · rw [hret]
      exact ⟨.taken _ _ _ (by omega) hd hpos fun _ _ ↦ rfl, hsound, hstatus⟩
    · rw [hmsg] at hstep ⊢
      have hdel := delivered_deliver step.client (chunkIdOf call.bufdata) data dataLen call.bufdata
      refine ⟨?_, hdel.sound hsound hlast, hstatus.trans hdel.status⟩
      dsimp only
      by_cases hz : (deliver step.client (chunkIdOf call.bufdata) data dataLen call.bufdata).1 =
          .ok 0
      · rw [hz]
        exact .taken _ _ _ (by omega) hd (by rw [hdel.parsePos, hpos]) fun i hi ↦
          hdel.mem i (Nat.le_trans hend hi)
      · exact .failed _ _ _ ⟨_, _, _, _, hstep, hdel.handler, hz⟩

/-- How the inner loop ends: an incomplete chunk is left over, a chunk is rejected, or a handler
does not succeed. -/
structure RoundEnd (c : RtmpClient) (size : Int) (r : LoopEnd) : Prop where
  sound : Sound r.client
  status : StatusFrom c r.client
  result :
    (r.ret = .ok 1 ∧ c.mIParsePos ≤ r.client.mIParsePos ∧ r.client.mIParsePos ≤ size ∧
        ∃ call ∈ r.calls, call.datalen = size - r.client.mIParsePos ∧ call.Incomplete) ∨
      r.ret = .ok (-1) ∨ ∃ call ∈ r.calls, call.HandlerFails r.ret

/-- Every round consumes a chunk or is the last one, so the rounds given are enough. -/
theorem chunkLoop_end (fuel : Nat) {c : RtmpClient} (hs : Sound c) (mem : Mem) (size : Int)
    (h0 : 0 ≤ c.mIParsePos) (hle : c.mIParsePos ≤ size)
    (hfuel : size - c.mIParsePos < (fuel : Int)) : RoundEnd c size (chunkLoop fuel c mem size) := by
  induction fuel generalizing c mem with
  | zero => omega
  | succ fuel ih =>
    obtain ⟨hend, hsound, hstatus⟩ :=
      rtmpProcessChunk_end ⟨c, mem.shift c.mIParsePos.toNat, size - c.mIParsePos⟩ hs
    rw [chunkLoop_succ]
    dsimp only at hend hsound hstatus ⊢
    generalize rtmpProcessChunk c (mem.shift c.mIParsePos.toNat) (size - c.mIParsePos) = out
      at hend hsound hstatus ⊢
    obtain ⟨ret, c', buf'⟩ := out
    dsimp only at hend hsound hstatus ⊢
    cases hend with
    | more _ hpos hi =>
      change c'.mIParsePos = c.mIParsePos at hpos
      have hlo : c.mIParsePos ≤ c'.mIParsePos := by omega
      have hhi : c'.mIParsePos ≤ size := by omega
      refine ⟨hsound, hstatus, Or.inl ⟨rfl, hlo, hhi, _, List.mem_singleton_self _, ?_, hi⟩⟩
      change size - c.mIParsePos = size - c'.mIParsePos
      rw [hpos]
    | reject _ _ => exact ⟨hsound, hstatus, Or.inr (Or.inl rfl)⟩
    | failed _ _ _ hf =>
      cases ret with
      | error e => exact ⟨hsound, hstatus, Or.inr (Or.inr ⟨_, List.mem_singleton_self _, hf⟩)⟩
      | ok r =>
        have hr : r ≠ 0 := by
          rintro rfl
          obtain ⟨_, _, _, _, _, _, hz⟩ := hf
          exact hz rfl
        simp only [if_neg hr]
        exact ⟨hsound, hstatus, Or.inr (Or.inr ⟨_, List.mem_singleton_self _, hf⟩)⟩
    | taken _ _ n hn hn' hpos _ =>
      change c'.mIParsePos = c.mIParsePos + n at hpos
      change (n : Int) ≤ size - c.mIParsePos at hn'
      have hrest := ih hsound (mem.splice c.mIParsePos.toNat buf') (by omega) (by omega) (by omega)
      simp only [if_pos]
      refine ⟨hrest.sound, hstatus.trans hrest.status, ?_⟩
      rcases hrest.result with ⟨hret, hlo, hhi, call, hmem, hcall⟩ | hret | ⟨call, hmem, hf⟩
      · have hlo' : c.mIParsePos ≤ c'.mIParsePos := by omega
        exact Or.inl ⟨hret, Int.le_trans hlo' hlo, hhi, call, List.mem_cons_of_mem _ hmem, hcall⟩
      · exact Or.inr (Or.inl hret)
      · exact Or.inr (Or.inr ⟨call, List.mem_cons_of_mem _ hmem, hf⟩)

/-! ### The handshake -/

/-- What a round leaves unfinished: S0 and S1, or S2, have not come completely, or chunks are
parsed. -/
def Phase (c : RtmpClient) (size : Int) : Prop :=
  (c.rtmpStatus = .waitS0S1 ∧ size < 1537) ∨ (c.rtmpStatus = .waitS2 ∧ size < 1536) ∨
    RtmpStatus.waitChunk.toNat < c.rtmpStatus.toNat

/-- The commands of the handshake leave the parser alone. -/
structure HandshakeKept (c c' : RtmpClient) : Prop where
  chunk : c'.rtmpChunk = c.rtmpChunk
  parsePos : c'.mIParsePos = c.mIParsePos
  messages : c'.rtmpMessages = c.rtmpMessages

theorem HandshakeKept.trans {a b c : RtmpClient} (h : HandshakeKept a b)
    (h' : HandshakeKept b c) : HandshakeKept a c :=
  ⟨h'.chunk.trans h.chunk, h'.parsePos.trans h.parsePos, h'.messages.trans h.messages⟩

/-- A sender: the bytes go to `Send`, and the status moves on unless that fails. -/
def sendThen (c : RtmpClient) (bytes : List UInt8) (status : RtmpStatus) :
    Int × RtmpClient :=
  let (ret, c) := c.send bytes
  if ret < 0 then (ret, c) else (ret, { c with rtmpStatus := status })

private theorem sendThen_cases (c : RtmpClient) (bytes : List UInt8) (status : RtmpStatus) :
    HandshakeKept c (sendThen c bytes status).2 ∧
      ((sendThen c bytes status).1 < 0 ∨ (sendThen c bytes status).2.rtmpStatus = status) := by
  unfold sendThen RtmpClient.send
  dsimp only
  by_cases h : c.host.sendResult 0 < 0
  · rw [if_pos h]
    exact ⟨⟨rfl, rfl, rfl⟩, Or.inl h⟩
  · rw [if_neg h]
    exact ⟨⟨rfl, rfl, rfl⟩, Or.inr rfl⟩

theorem sendC2_cases (c : RtmpClient) :
    HandshakeKept c (rtmpSendToServerC2 c).2 ∧
      ((rtmpSendToServerC2 c).1 < 0 ∨ (rtmpSendToServerC2 c).2.rtmpStatus = .waitS2) := by
  have h := sendThen_cases { c.time.2 with rtmpStatus := .sendC2 }
    (((Mem.ofList []).memcpy 4 (Amf0.le32Bytes c.time.1)).slice 0 1536) .waitS2
  exact ⟨⟨h.1.chunk, h.1.parsePos, h.1.messages⟩, h.2⟩

theorem sendConnect_cases (c : RtmpClient) :
    HandshakeKept c (rtmpSendToServerConnect c).2 ∧
      ((rtmpSendToServerConnect c).1 < 0 ∨
        (rtmpSendToServerConnect c).2.rtmpStatus = .waitConnect) := by
  unfold rtmpSendToServerConnect
  dsimp only
  exact sendThen_cases c _ .waitConnect

/-- How a part of the handshake ends: `pos` and `size` still make up what has been received. -/
structure HandshakeEnd (c : RtmpClient) (total : Int) (c' : RtmpClient) (pos : Nat)
    (size : Int) : Prop where
  kept : HandshakeKept c c'
  total : total = pos + size
  low : 0 ≤ size
  phase : Phase c' size

theorem handshakeS2_end {c c' : RtmpClient} {pos pos' : Nat} {size size' : Int} (h0 : 0 ≤ size)
    (hp : Phase c size ∨ c.rtmpStatus = .waitS2)
    (h : handshakeS2 c pos size = (c', some (pos', size'))) :
    HandshakeEnd c (pos + size) c' pos' size' := by
  unfold handshakeS2 at h
  by_cases hbig : c.rtmpStatus = .waitS2 ∧ size ≥ 1536
  · rw [if_pos hbig] at h
    obtain ⟨hk, hcases⟩ := sendConnect_cases c
    generalize rtmpSendToServerConnect c = out at h hk hcases
    obtain ⟨ret, sent⟩ := out
    dsimp only at h hk hcases
    by_cases hret : ret < 0
    · rw [if_pos hret] at h
      cases h
    · rw [if_neg hret] at h
      have hsize := hbig.2
      have hparsing : RtmpStatus.waitChunk.toNat < sent.rtmpStatus.toNat := by
        rw [hcases.resolve_left hret]
        decide
      simp only [Prod.mk.injEq, Option.some.injEq] at h
      obtain ⟨rfl, rfl, rfl⟩ := h
      exact ⟨hk, by omega, by omega, Or.inr (Or.inr hparsing)⟩
  · rw [if_neg hbig] at h
    simp only [Prod.mk.injEq, Option.some.injEq] at h
    obtain ⟨rfl, rfl, rfl⟩ := h
    refine ⟨⟨rfl, rfl, rfl⟩, rfl, h0, ?_⟩
    rcases hp with hp | hs
    · exact hp
    · exact Or.inr (Or.inl ⟨hs, Int.not_le.mp fun hle ↦ hbig ⟨hs, hle⟩⟩)

theorem handshakeS0S1_end {c c' : RtmpClient} {pos : Nat} {size size' : Int} (h0 : 0 ≤ size)
    (hp : Phase c size ∨ c.rtmpStatus = .waitS0S1 ∨ c.rtmpStatus = .waitS2)
    (h : handshakeS0S1 c size = (c', some (pos, size'))) :
    HandshakeKept c c' ∧ size = pos + size' ∧ 0 ≤ size' ∧
      (Phase c' size' ∨ c'.rtmpStatus = .waitS2) := by
  unfold handshakeS0S1 at h
  by_cases hbig : c.rtmpStatus = .waitS0S1 ∧ size ≥ 1537
  · rw [if_pos hbig] at h
    obtain ⟨hk, hcases⟩ := sendC2_cases c
    generalize rtmpSendToServerC2 c = out at h hk hcases
    obtain ⟨ret, sent⟩ := out
    dsimp only at h hk hcases
    by_cases hret : ret < 0
    · rw [if_pos hret] at h
      cases h
    · rw [if_neg hret] at h
      have hsize := hbig.2
      simp only [Prod.mk.injEq, Option.some.injEq] at h
      obtain ⟨rfl, rfl, rfl⟩ := h
      exact ⟨hk, by omega, by omega, Or.inr (hcases.resolve_left hret)⟩
  · rw [if_neg hbig] at h
    simp only [Prod.mk.injEq, Option.some.injEq] at h
    obtain ⟨rfl, rfl, rfl⟩ := h
    refine ⟨⟨rfl, rfl, rfl⟩, by omega, h0, ?_⟩
    rcases hp with hp | hs | hs
    · exact Or.inl hp
    · exact Or.inl (Or.inl ⟨hs, Int.not_le.mp fun hle ↦ hbig ⟨hs, hle⟩⟩)
    · exact Or.inr hs

theorem handshake_end {c c' : RtmpClient} {pos : Nat} {size size' : Int} (h0 : 0 ≤ size)
    (hp : Phase c size ∨ c.rtmpStatus = .waitS0S1 ∨ c.rtmpStatus = .waitS2)
    (h : handshake c size = (c', some (pos, size'))) : HandshakeEnd c size c' pos size' := by
  unfold handshake at h
  split at h
  · cases h
  · next c1 pos1 size1 h1 =>
    obtain ⟨hk, hsize, hlow, hphase⟩ := handshakeS0S1_end h0 hp h1
    have hend := handshakeS2_end hlow hphase h
    exact ⟨hk.trans hend.kept, hsize.trans hend.total, hend.low, hend.phase⟩

/-- A client that parses chunks has no handshake left to look for. -/
theorem handshake_parsing (c : RtmpClient) (size : Int)
    (h : RtmpStatus.waitChunk.toNat < c.rtmpStatus.toNat) :
    handshake c size = (c, some (0, size)) := by
  have h1 : c.rtmpStatus ≠ .waitS0S1 := by
    intro hc
    rw [hc] at h
    exact absurd h (by decide)
  have h2 : c.rtmpStatus ≠ .waitS2 := by
    intro hc
    rw [hc] at h
    exact absurd h (by decide)
  unfold handshake handshakeS0S1
  rw [if_neg fun hc ↦ h1 hc.1]
  exact if_neg fun hc ↦ h2 hc.1

/-! ### The room in the buffer -/

/-- The chunk at the head of the window, once its header has come, fits `m_pBuffer`. -/
def ChunkCall.Fits (call : ChunkCall) : Prop :=
  ∀ n, chunkSpan call.client call.bufdata call.datalen = some n → n ≤ maxBufLen

/-- What holds at the head of the loop of `rtmp_recv_data` while it runs. -/
structure RecvState.Waiting (s : RecvState) : Prop where
  sound : Sound s.client
  low : 0 ≤ s.size
  room : s.size < maxBufLen
  phase : Phase s.client s.size

theorem Segmentation.append_left {s : RecvState} {received rest : List (List UInt8)}
    (h : Segmentation s (received ++ rest)) : Segmentation s received := by
  induction received generalizing s with
  | nil => exact True.intro
  | cons bytes received ih => exact ⟨h.1, ih h.2⟩

theorem RecvState.calls_afterLoop (s : RecvState) (m : Mem) (pos : Nat) (size : Int)
    (r : LoopEnd) : (s.afterLoop m pos size r).calls = s.calls ++ r.calls := by
  unfold RecvState.afterLoop
  cases r.ret with
  | error e => rfl
  | ok ret =>
    dsimp only
    split <;> rfl

/-- A round that neither breaks nor parses keeps its calls; a round that parses adds to them. -/
theorem mem_calls_recvStep {s : RecvState} {bytes : List UInt8} {call : ChunkCall}
    (h : call ∈ s.calls) : call ∈ (recvStep s bytes).calls := by
  unfold recvStep
  dsimp only
  split
  · exact h
  · split
    · exact h
    · split
      · rw [RecvState.calls_afterLoop]
        exact List.mem_append_left _ h
      · exact h

theorem mem_calls_recvRun {s : RecvState} {segments : List (List UInt8)} {call : ChunkCall}
    (h : call ∈ s.calls) : call ∈ (recvRun s segments).calls := by
  induction segments generalizing s with
  | nil => exact h
  | cons bytes rest ih => exact ih (mem_calls_recvStep h)

/-- A handler that fails ends the loop, so the loop that runs on has an incomplete chunk left. -/
theorem RoundEnd.incomplete {c : RtmpClient} {size : Int} {r : LoopEnd} (h : RoundEnd c size r)
    {ret : Int} (hret : r.ret = .ok ret) (hpos : 0 < ret) :
    c.mIParsePos ≤ r.client.mIParsePos ∧ r.client.mIParsePos ≤ size ∧
      ∃ call ∈ r.calls, call.datalen = size - r.client.mIParsePos ∧ call.Incomplete := by
  rcases h.result with ⟨-, hres⟩ | hres | ⟨call, -, hf⟩
  · exact hres
  · rw [hret] at hres
    cases hres
    omega
  · rw [hret] at hf
    have hneg := hf.ret
    omega

/-- What is left over after a round leaves room for more. -/
theorem ChunkCall.Incomplete.room {call : ChunkCall} (hi : call.Incomplete) (hf : call.Fits) :
    call.datalen < maxBufLen := by
  have hmax : (16 : Int) ≤ (maxBufLen : Nat) := by decide
  rcases hi with hd | ⟨n, hspan, hd⟩
  · omega
  · have hn := hf n hspan
    omega

/-- The inner loop leaves room in the buffer. -/
theorem waiting_afterLoop {s : RecvState} {c : RtmpClient} {m : Mem} {pos : Nat} {size : Int}
    {r : LoopEnd} (hparse : RtmpStatus.waitChunk.toNat < c.rtmpStatus.toNat)
    (hloop : RoundEnd c size r)
    (hfit : ∀ call ∈ (s.afterLoop m pos size r).calls, call.Fits)
    (hrun : (s.afterLoop m pos size r).running) : (s.afterLoop m pos size r).Waiting := by
  rw [RecvState.calls_afterLoop] at hfit
  unfold RecvState.afterLoop at hrun ⊢
  cases hret : r.ret with
  | error e =>
    rw [hret] at hrun
    cases hrun
  | ok ret =>
    rw [hret] at hrun
    dsimp only at hrun ⊢
    by_cases hmore : ret > 0
    · rw [if_pos hmore]
      obtain ⟨-, hle, call, hmem, hdatalen, hi⟩ := hloop.incomplete hret hmore
      have hleft := hi.room (hfit call (List.mem_append_right _ hmem))
      rw [hdatalen] at hleft
      exact ⟨hloop.sound, by change 0 ≤ size - _; omega, hleft,
        Or.inr (Or.inr (hloop.status.parsing hparse))⟩
    · rw [if_neg hmore] at hrun
      cases hrun

/-- A round keeps the invariant if the chunks it meets fit. -/
theorem waiting_recvStep {s : RecvState} (hs : s.Waiting) {bytes : List UInt8}
    (hbytes : s.Accepts bytes) (hfit : ∀ call ∈ (recvStep s bytes).calls, call.Fits)
    (hrun : (recvStep s bytes).running) : (recvStep s bytes).Waiting := by
  obtain ⟨hlen, hroom⟩ := hbytes
  unfold RecvState.requested at hroom
  have hlow := hs.low
  revert hfit hrun
  unfold recvStep
  by_cases hr : s.running
  · rw [if_neg (not_not_intro hr)]
    dsimp only
    generalize hm : s.mPBuffer.memcpy s.size.toNat bytes = m
    have hphase : Phase { s.client with mIParsePos := 0 } (s.size + bytes.length) ∨
        s.client.rtmpStatus = .waitS0S1 ∨ s.client.rtmpStatus = .waitS2 := by
      rcases hs.phase with ⟨h, -⟩ | ⟨h, -⟩ | h
      · exact Or.inr (Or.inl h)
      · exact Or.inr (Or.inr h)
      · exact Or.inl (Or.inr (Or.inr h))
    split
    · intro _ hrun
      cases hrun
    · next c pos size hh =>
      have hend := handshake_end (by omega) hphase hh
      have htotal := hend.total
      have hlow' := hend.low
      have hpos : c.mIParsePos = 0 := hend.kept.parsePos
      have hsound : Sound c := by
        intro i
        rw [hend.kept.chunk]
        exact hs.sound i
      split
      · next hparse =>
        exact waiting_afterLoop hparse (chunkLoop_end (size.toNat + 1) hsound (m.shift pos) size
          (by omega) (by omega) (by omega))
      · next hparse =>
        intro _ _
        have hphase' := hend.phase
        refine ⟨hsound, hend.low, ?_, hphase'⟩
        have hmax : (1537 : Int) ≤ (maxBufLen : Nat) := by decide
        change size < _
        rcases hphase' with ⟨-, h⟩ | ⟨-, h⟩ | h
        · omega
        · omega
        · exact absurd h hparse
  · rw [if_pos hr]
    intro _ _
    exact hs

/-- A run keeps the invariant. -/
theorem waiting_recvRun {s : RecvState} (segments : List (List UInt8))
    (hs : s.running → s.Waiting) (hseg : Segmentation s segments)
    (hfit : ∀ call ∈ (recvRun s segments).calls, call.Fits) :
    (recvRun s segments).running → (recvRun s segments).Waiting := by
  induction segments generalizing s with
  | nil => exact hs
  | cons bytes rest ih =>
    obtain ⟨hbytes, hrest⟩ := hseg
    refine ih (fun hrun ↦ ?_) hrest hfit
    have hr : s.running := by
      by_contra hr
      unfold recvStep at hrun
      rw [if_pos hr] at hrun
      exact hr hrun
    have hkept (call : ChunkCall) (hc : call ∈ (recvStep s bytes).calls) :
        call ∈ (recvRun (recvStep s bytes) rest).calls := mem_calls_recvRun hc
    exact waiting_recvStep (hs hr) (hbytes hr) (fun call hc ↦ hfit call (hkept call hc)) hrun

/-- The loop starts with room in the buffer. -/
theorem waiting_playing {u : RtmpClient} (h : (rtmpStartPlay (rtmpClient u)).1 = 0)
    {rtmpUrl rtmpApp rtmpStream : List UInt8}
    (hstatus : (playing u rtmpUrl rtmpApp rtmpStream).rtmpStatus = .waitS0S1) (mPBuffer : Mem) :
    (rtmpRecvData (playing u rtmpUrl rtmpApp rtmpStream) mPBuffer).Waiting := by
  have hroom : (0 : Int) < (maxBufLen : Nat) := by decide
  have hs0s1 : (0 : Int) < 1537 := by decide
  refine ⟨?_, Int.le_refl 0, hroom, Or.inl ⟨hstatus, hs0s1⟩⟩
  refine sound_of_idle fun i ↦ ?_
  change ((started u rtmpUrl rtmpApp rtmpStream).rtmpChunk i).lastMessageSize = 0
  rw [(started_fields u rtmpUrl rtmpApp rtmpStream h).2.1]
  rfl

/-- `rtmp_recv_data` asks for at least one byte each time it calls `Receive`, whatever is
received and however it is cut, as long as no chunk that it meets is longer than `m_pBuffer`. -/
theorem rtmpRecvData_requests (u : RtmpClient) (h : (rtmpStartPlay (rtmpClient u)).1 = 0)
    (rtmpUrl rtmpApp rtmpStream : List UInt8)
    (hstatus : (playing u rtmpUrl rtmpApp rtmpStream).rtmpStatus = .waitS0S1) (mPBuffer : Mem)
    (segments : List (List UInt8))
    (hseg : Segmentation (rtmpRecvData (playing u rtmpUrl rtmpApp rtmpStream) mPBuffer) segments)
    (hfit : ∀ call ∈ (recvRun (rtmpRecvData (playing u rtmpUrl rtmpApp rtmpStream) mPBuffer)
      segments).calls, call.Fits)
    (received : List (List UInt8)) (hpre : received <+: segments)
    (hrun : (recvRun (rtmpRecvData (playing u rtmpUrl rtmpApp rtmpStream) mPBuffer)
      received).running) :
    0 < (recvRun (rtmpRecvData (playing u rtmpUrl rtmpApp rtmpStream) mPBuffer)
      received).requested := by
  obtain ⟨rest, rfl⟩ := hpre
  have hsplit : recvRun (rtmpRecvData (playing u rtmpUrl rtmpApp rtmpStream) mPBuffer)
      (received ++ rest) =
        recvRun (recvRun (rtmpRecvData (playing u rtmpUrl rtmpApp rtmpStream) mPBuffer) received)
          rest :=
    List.foldl_append
  rw [hsplit] at hfit
  have hwaiting := waiting_recvRun received (fun _ ↦ waiting_playing h hstatus mPBuffer)
    hseg.append_left (fun call hc ↦ hfit call (mem_calls_recvRun hc)) hrun
  have hroom := hwaiting.room
  unfold RecvState.requested
  omega

/-- A segment after which the buffer is full, with a chunk at its head that is longer than the
buffer: the next length asked for is zero. -/
theorem requested_of_full {s : RecvState} {bytes : List UInt8} {c : RtmpClient} {m : Mem}
    {n : Nat} (hr : s.running) (hc : { s.client with mIParsePos := 0 } = c)
    (hm : s.mPBuffer.memcpy s.size.toNat bytes = m)
    (hparse : RtmpStatus.waitChunk.toNat < c.rtmpStatus.toNat)
    (hfull : s.size + bytes.length = maxBufLen) (hs : ChunkSound (c.rtmpChunk (chunkIdOf m)))
    (hspan : chunkSpan c m maxBufLen = some n) (hn : maxBufLen < n) :
    (recvStep s bytes).running ∧ (recvStep s bytes).requested = 0 := by
  obtain ⟨c', hstep, hk⟩ := chunkStep_of_span hs hspan (by omega)
  have hpos : c'.mIParsePos = 0 := by
    rw [hk.parsePos, ← hc]
  have hpos' : c.mIParsePos = 0 := by
    rw [← hc]
  have hcall : rtmpProcessChunk c m maxBufLen = (.ok 1, c', m) := by
    unfold rtmpProcessChunk
    rw [hstep]
  have hone : ¬(1 : Int) = 0 := by decide
  have hmore : (1 : Int) > 0 := by decide
  unfold recvStep
  rw [if_neg (not_not_intro hr)]
  dsimp only
  rw [hc, hm, hfull, handshake_parsing c _ hparse]
  dsimp only
  rw [if_pos hparse, chunkLoop_succ]
  simp only [hpos', Int.toNat_zero, Mem.shift_zero, Int.sub_zero, hcall, hone, if_false]
  unfold RecvState.afterLoop
  simp only [hmore, if_true]
  refine ⟨trivial, ?_⟩
  unfold RecvState.requested
  dsimp only
  rw [hpos]
  omega

instance (call : ChunkCall) : Decidable call.Fits :=
  inferInstanceAs
    (Decidable (∀ n ∈ chunkSpan call.client call.bufdata call.datalen, n ≤ maxBufLen))

instance (s : RecvState) (bytes : List UInt8) : Decidable (s.Accepts bytes) :=
  inferInstanceAs (Decidable (0 < bytes.length ∧ (bytes.length : Int) ≤ s.requested))

instance decidableSegmentation : ∀ s segments, Decidable (Segmentation s segments)
  | _, [] => isTrue trivial
  | s, bytes :: rest =>
    have : Decidable (Segmentation (recvStep s bytes) rest) := decidableSegmentation _ rest
    inferInstanceAs
      (Decidable ((s.running → s.Accepts bytes) ∧ Segmentation (recvStep s bytes) rest))

/-- The handshake of a server whose bytes are all zero, and a Set Chunk Size message of
`0x7fffffff`. -/
def handshakeAndChunkSize : List UInt8 :=
  List.replicate 3073 0 ++ [2, 0, 0, 0, 0, 0, 4, 1, 0, 0, 0, 0, 0x7f, 0xff, 0xff, 0xff]

/-- A handshake, a Set Chunk Size message and the first bytes of a message, in two segments. -/
theorem rtmpRecvData_requests_two_segments :
    let start := rtmpRecvData
      (playing blankClient (ascii "rtmp://host/live/a") (ascii "live") (ascii "a")) fun _ ↦ 0
    0 < (recvRun start [handshakeAndChunkSize, [3, 0, 0, 0, 0, 0, 9]]).requested := by
  intro start
  have hrun : Segmentation start [handshakeAndChunkSize, [3, 0, 0, 0, 0, 0, 9]] ∧
      (∀ call ∈ (recvRun start [handshakeAndChunkSize, [3, 0, 0, 0, 0, 0, 9]]).calls, call.Fits) ∧
      (recvRun start [handshakeAndChunkSize, [3, 0, 0, 0, 0, 0, 9]]).running := by
    decide +kernel
  obtain ⟨hseg, hfit, hrunning⟩ := hrun
  exact rtmpRecvData_requests blankClient (by decide) _ _ _ (by decide) (fun _ ↦ 0) _ hseg hfit _
    (List.prefix_refl _) hrunning

/-- A message of 70000 zero bytes. -/
def longMessage : Message := ⟨0x12, List.replicate 70000 0⟩

/-- The first 65536 bytes of the chunk that carries it. -/
def longChunkStart : List UInt8 :=
  [3, 0, 0, 0, 1, 0x11, 0x70, 0x12, 0, 0, 0, 0] ++ List.replicate 65524 0

private theorem length_longChunkStart : longChunkStart.length = 65536 := by
  unfold longChunkStart
  rw [List.length_append, List.length_replicate]
  rfl

private theorem fields_longMessage :
    (Fmt.fmt0 0 0).fields longMessage = [0, 0, 0, 1, 0x11, 0x70, 0x12, 0, 0, 0, 0] := by
  have hlen : longMessage.body.length = 70000 := List.length_replicate
  unfold Fmt.fields
  rw [hlen]
  decide

private theorem chunkSpan_longMessage {c : RtmpClient} {m : Mem}
    (hm : m.slice 0 longChunkStart.length = longChunkStart)
    (hsize : c.rtmpChunkMaxSize = 0x7fffffff) (hidle : (c.rtmpChunk 3).lastMessageSize = 0) :
    chunkIdOf m = 3 ∧ chunkSpan c m maxBufLen = some 70012 := by
  obtain ⟨hhead, -⟩ := (Mem.slice_append_iff m 0 _ _).1 hm
  obtain ⟨hbasic, hfields⟩ := (Mem.slice_append_iff m 0 [3]
    [0, 0, 0, 1, 0x11, 0x70, 0x12, 0, 0, 0, 0]).1 hhead
  have hm0 : m 0 = 3 := Mem.apply_of_slice m 0 [3] hbasic 0 (by decide)
  have hid : chunkIdOf m = 3 := by
    unfold chunkIdOf
    rw [hm0]
    rfl
  have hfmt : chunkFmt m = 0 := by
    unfold chunkFmt
    rw [hm0]
    rfl
  have hlen : longMessage.body.length = 70000 := List.length_replicate
  obtain ⟨c', id, hparsed, hk, -⟩ := headerFmt0_wire c 3 m maxBufLen longMessage 0 0
    (by rw [hlen]; decide) (by decide) (by rw [fields_longMessage]; exact hfields) rfl (by decide)
  obtain ⟨b, hb⟩ := hk.chunk 3
  refine ⟨hid, ?_⟩
  unfold chunkSpan
  rw [hid, hfmt, if_neg (by decide)]
  have hheader : chunkHeader c 0 3 m maxBufLen = headerFmt0 c 3 m maxBufLen := rfl
  rw [hheader, hparsed]
  dsimp only
  rw [chunkLen_eq, hk.chunkSize, hsize]
  unfold leftover
  rw [hb, if_pos hidle, hlen]
  have hnumber : 11 + extendedLen 0 + 1 + min 0x7fffffff 70000 = 70012 := by decide
  exact congrArg some hnumber

/-- A Set Chunk Size message and a long message, each in one chunk. -/
def longChunks : List Chunk :=
  [.start 2 (.fmt0 0 0) ⟨1, be32Bytes 0x7fffffff⟩, .start 3 (.fmt0 0 0) longMessage]

private theorem recvRun_pair (s : RecvState) (a b : List UInt8) :
    recvRun s [a, b] = recvStep (recvStep s a) b := rfl

private theorem stream_longChunks :
    (Sender.init 128 fun _ ↦ 0).stream longChunks =
      [2, 0, 0, 0, 0, 0, 4, 1, 0, 0, 0, 0, 0x7f, 0xff, 0xff, 0xff] ++
        (longChunkStart ++ List.replicate 4476 0) := by
  have hfirst : (Sender.init 128 fun _ ↦ 0).bytes (.start 2 (.fmt0 0 0) ⟨1, be32Bytes 0x7fffffff⟩) =
      [2, 0, 0, 0, 0, 0, 4, 1, 0, 0, 0, 0, 0x7f, 0xff, 0xff, 0xff] := by decide
  have hsize : ((Sender.init 128 fun _ ↦ 0).next
      (.start 2 (.fmt0 0 0) ⟨1, be32Bytes 0x7fffffff⟩)).chunkSize = 0x7fffffff := by decide
  have hbody : longMessage.body.take 0x7fffffff = List.replicate (65524 + 4476) 0 := by
    unfold longMessage
    exact List.take_of_length_le (by rw [List.length_replicate]; decide)
  unfold longChunks Sender.stream Sender.stream Sender.stream
  rw [hfirst]
  generalize (Sender.init 128 fun _ ↦ 0).next _ = s at hsize ⊢
  unfold Sender.bytes longChunkStart
  dsimp only
  rw [hsize, hbody, fields_longMessage, List.replicate_add]
  simp only [List.append_nil, List.cons_append, List.nil_append]
  rfl

/-- A chunk size of `0x7fffffff` and a message longer than `m_pBuffer`: when 65536 bytes of its
chunk have come, the next length asked for is zero. -/
theorem rtmpRecvData_starves :
    let stream := List.replicate 3073 0 ++ (Sender.init 128 fun _ ↦ 0).stream longChunks
    let segments := [handshakeAndChunkSize, longChunkStart]
    let s := rtmpRecvData (playing blankClient [] [] []) fun _ ↦ 0
    (Sender.init 128 fun _ ↦ 0).Along Sender.WellFormed longChunks ∧
      segments.flatten <+: stream ∧ Segmentation s segments ∧
      (recvRun s segments).running ∧ (recvRun s segments).requested = 0 := by
  intro stream segments s
  have hwell : (Sender.init 128 fun _ ↦ 0).Along Sender.WellFormed longChunks := by
    have hlen : longMessage.body.length < 16777216 := by
      unfold longMessage
      rw [List.length_replicate]
      decide
    exact ⟨by decide, ⟨by decide, by decide, hlen, by decide, by decide, by decide⟩, trivial⟩
  have hpre : segments.flatten <+: stream := by
    refine ⟨List.replicate 4476 0, ?_⟩
    change (handshakeAndChunkSize ++ (longChunkStart ++ [])) ++ _ = List.replicate 3073 0 ++ _
    rw [stream_longChunks, List.append_nil]
    unfold handshakeAndChunkSize
    simp only [List.append_assoc]
  have hfirst : (s.running → s.Accepts handshakeAndChunkSize) ∧
      (recvStep s handshakeAndChunkSize).running ∧
      (recvStep s handshakeAndChunkSize).size = 0 ∧
      RtmpStatus.waitChunk.toNat <
        (recvStep s handshakeAndChunkSize).client.rtmpStatus.toNat ∧
      (recvStep s handshakeAndChunkSize).client.rtmpChunkMaxSize = 0x7fffffff ∧
      ((recvStep s handshakeAndChunkSize).client.rtmpChunk 3).lastMessageSize = 0 := by
    decide +kernel
  obtain ⟨haccepts, hrunning, hsize, hparse, hmax, hidle⟩ := hfirst
  generalize hnext : recvStep s handshakeAndChunkSize = s' at *
  have hslice := Mem.slice_memcpy_same s'.mPBuffer 0 longChunkStart
  have hfull : s'.size + longChunkStart.length = maxBufLen := by
    rw [hsize, length_longChunkStart]
    decide
  have hat : s'.mPBuffer.memcpy s'.size.toNat longChunkStart =
      s'.mPBuffer.memcpy 0 longChunkStart := by
    rw [hsize]
    rfl
  have hmaxIdle : { s'.client with mIParsePos := 0 }.rtmpChunkMaxSize = 0x7fffffff ∧
      ({ s'.client with mIParsePos := 0 }.rtmpChunk 3).lastMessageSize = 0 := ⟨hmax, hidle⟩
  obtain ⟨hid, hspan⟩ := chunkSpan_longMessage hslice hmaxIdle.1 hmaxIdle.2
  have hsound : ChunkSound
      (s'.client.rtmpChunk (chunkIdOf (s'.mPBuffer.memcpy 0 longChunkStart))) := by
    rw [hid]
    exact chunkSound_of_last hidle
  obtain ⟨hrun, hzero⟩ := requested_of_full hrunning rfl hat hparse hfull hsound hspan (by decide)
  have hrunSeg : recvRun s segments = recvStep s' longChunkStart :=
    (recvRun_pair s _ _).trans (congrArg (recvStep · longChunkStart) hnext)
  have haccepts' : s'.Accepts longChunkStart := by
    unfold RecvState.Accepts RecvState.requested
    rw [length_longChunkStart, hsize]
    decide
  have hseg : Segmentation s segments := by
    refine ⟨haccepts, ?_⟩
    rw [hnext]
    exact ⟨fun _ ↦ haccepts', trivial⟩
  rw [hrunSeg]
  exact ⟨hwell, hpre, hseg, hrun, hzero⟩

end RtmpRecv.Client
