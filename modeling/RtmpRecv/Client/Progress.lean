import RtmpRecv.Client.Session
import RtmpRecv.Client.Windows

/-!
# Progress of the chunk parser

Library `Client`. Every handler ends, every call of `rtmp_process_chunk` that returns `0` has
consumed bytes of its window, and so the inner loop of `rtmp_recv_data` comes to an end within
the bytes that are there.
-/

namespace RtmpRecv.Client
open RtmpRecv.Base RtmpRecv.Tots

/-! ### Handlers end -/

private theorem avoids_handToTots (pack : PackData) (c : RtmpClient) :
    (handToTots pack c).Avoids .diverged := by
  intro m h
  rw [run_handToTots] at h
  have hends := (Call.mk c.getMillisecond64.1 pack m).ends c.rtmpSavetots
  generalize (Call.mk c.getMillisecond64.1 pack m).result c.rtmpSavetots = end' at h hends
  cases end' with
  | error e => exact hends (congrArg Except.error (Except.error.inj h))
  | ok r => cases h

/-- The loop over the units of a message has rounds enough. -/
private theorem avoids_nalLoop (ptr : Nat) {dataLen : Int} (h : dataLen < 4294967296) :
    (nalLoop (nalFuel dataLen) ptr dataLen).Avoids .diverged := by
  by_cases h0 : 0 ≤ dataLen
  · obtain ⟨n, rfl⟩ := Int.eq_ofNat_of_zero_le h0
    intro m hrun
    obtain ⟨b, m', hloop, -, -⟩ :=
      nalLoop_run (nalFuel n) ptr n m (by omega) (enoughRounds_nalFuel ptr n m)
    rw [hloop] at hrun
    cases hrun
  · rw [nalLoop_stop _ _ (by omega)]
    exact Access.Avoids.ret

private theorem avoids_appendVideoHead (c : RtmpClient) (bytes : List UInt8) :
    (appendVideoHead c bytes).Avoids .diverged := by
  unfold appendVideoHead
  split
  · apply Access.Avoids.fail
    decide
  · exact Access.Avoids.ret

private theorem avoids_loadSwap2 (off : Nat) : (loadSwap2 off).Avoids .diverged :=
  Access.Avoids.read fun _ ↦ Access.Avoids.read fun _ ↦ Access.Avoids.ret

private theorem avoids_avcSequenceHeader (c : RtmpClient) (ptr : Nat) (dataLen : Int) :
    (avcSequenceHeader c ptr dataLen).Avoids .diverged := by
  unfold avcSequenceHeader
  refine Access.Avoids.bind (avoids_appendVideoHead _ _) fun c₁ ↦ ?_
  split
  · exact Access.Avoids.ret
  · refine Access.Avoids.bind (avoids_loadSwap2 _) fun spsLen ↦ ?_
    split
    · exact Access.Avoids.ret
    · refine Access.Avoids.bind (Access.Ends.getList.avoids _) fun sps ↦ ?_
      refine Access.Avoids.bind (avoids_appendVideoHead _ _) fun c₂ ↦ ?_
      refine Access.Avoids.bind (avoids_appendVideoHead _ _) fun c₃ ↦ ?_
      refine Access.Avoids.bind (avoids_loadSwap2 _) fun ppsLen ↦ ?_
      split
      · exact Access.Avoids.ret
      · refine Access.Avoids.bind (Access.Ends.getList.avoids _) fun pps ↦ ?_
        exact Access.Avoids.bind (avoids_appendVideoHead _ _) fun _ ↦ Access.Avoids.ret

private theorem avoids_frameOfLoop (pack : PackData) (c : RtmpClient) {dataLen : Int}
    (h : dataLen < 4294967296) :
    ((nalLoop (nalFuel (dataLen - 5)) 5 (dataLen - 5)).bind fun ok ↦
      if ok = true then (Access.ret (MediaStep.frame pack c) : Access Fault MediaStep)
      else Access.ret (MediaStep.done (-1) c)).Avoids .diverged := by
  refine Access.Avoids.bind (avoids_nalLoop 5 (by omega)) fun ok ↦ ?_
  split
  · exact Access.Avoids.ret
  · exact Access.Avoids.ret

private theorem avoids_videoFrame (c : RtmpClient) (chunk : RtmpChunk) {dataLen : Int}
    (h : dataLen < 4294967296) : (rtmpProcessVideoFrame c chunk dataLen).Avoids .diverged := by
  unfold rtmpProcessVideoFrame
  refine Access.Avoids.read fun tag ↦ ?_
  dsimp only [Access.ret_bind, Access.bind_eq]
  split
  · exact Access.Avoids.ret
  · refine Access.Avoids.read fun t0 ↦ Access.Avoids.read fun t1 ↦ Access.Avoids.read fun t2 ↦ ?_
    dsimp only [Access.ret_bind]
    split
    · refine Access.Avoids.read fun packetType ↦ ?_
      dsimp only [Access.ret_bind]
      split
      · exact avoids_avcSequenceHeader c _ _
      · exact avoids_frameOfLoop _ c h
    · exact avoids_frameOfLoop _ c h

private theorem avoids_audioFrame (c : RtmpClient) (chunk : RtmpChunk) (dataLen : Int) :
    (rtmpProcessAudioFrame c chunk dataLen).Avoids .diverged := by
  unfold rtmpProcessAudioFrame
  refine Access.Avoids.read fun tag ↦ ?_
  dsimp only [Access.ret_bind, Access.bind_eq]
  split
  · refine Access.Avoids.read fun packetType ↦ ?_
    dsimp only [Access.ret_bind]
    split
    · exact Access.Avoids.ret
    · split
      · exact Access.Avoids.read fun b2 ↦ Access.Avoids.read fun b3 ↦ Access.Avoids.ret
      · exact Access.Avoids.ret
  · exact Access.Avoids.ret

/-- Every handler ends. -/
theorem avoids_processMessage (c : RtmpClient) (chunk : RtmpChunk) (dataLen : Int)
    (h : dataLen < 4294967296) : (rtmpProcessMessage c chunk dataLen).Avoids .diverged := by
  have hvalue : controlValue.Avoids .diverged :=
    Access.Avoids.read fun _ ↦ Access.Avoids.read fun _ ↦ Access.Avoids.read
      fun _ ↦ Access.Avoids.read fun _ ↦ Access.Avoids.ret
  unfold rtmpProcessMessage
  split
  · exact Access.Avoids.bind hvalue fun _ ↦ Access.Avoids.ret
  · exact Access.Avoids.bind hvalue fun _ ↦ Access.Avoids.ret
  · exact Access.Avoids.bind hvalue fun _ ↦ Access.Avoids.ret
  · unfold rtmpProcessAudio
    refine Access.Avoids.bind (avoids_audioFrame _ _ _) fun step ↦ ?_
    split
    · exact Access.Avoids.ret
    · exact Access.Avoids.bind (avoids_handToTots _ _) fun _ ↦ Access.Avoids.ret
  · unfold rtmpProcessVideo
    refine Access.Avoids.bind (avoids_videoFrame _ _ h) fun step ↦ ?_
    split
    · exact Access.Avoids.ret
    · exact Access.Avoids.bind (avoids_handToTots _ _) fun _ ↦ Access.Avoids.ret
  · intro m hrun
    obtain ⟨r, hcmd, -⟩ := run_processCmd c m dataLen
    rw [hcmd] at hrun
    cases hrun
  · exact Access.Avoids.ret

/-- A call of `rtmp_process_chunk` ends. -/
theorem rtmpProcessChunk_ends (call : ChunkCall) (hs : Sound call.client) :
    (rtmpProcessChunk call.client call.bufdata call.datalen).1 ≠ .error .diverged := by
  intro h
  unfold rtmpProcessChunk at h
  cases hstep : chunkStep call.client call.bufdata call.datalen with
  | ret r c =>
    rw [hstep] at h
    cases h
  | fault e c =>
    have hcall := callStep_chunkStep hs call.bufdata call.datalen
    rw [hstep] at hcall
    cases hcall with
    | taken _ _ _ _ _ hb => cases hb
  | message c chunkId data dataLen =>
    obtain ⟨n, rfl, hn⟩ := chunkStep_message hs hstep
    rw [hstep] at h
    dsimp only at h
    rw [(delivered_deliver c chunkId data n call.bufdata).handler] at h
    have hrun := avoids_processMessage (recorded c chunkId data n call.bufdata)
      (c.rtmpChunk chunkId) n (by omega) (data.mem call.bufdata)
    change ((handlerRun c chunkId data n call.bufdata).1 ≠ _) at hrun
    generalize (handlerRun c chunkId data n call.bufdata).1 = r at h hrun
    cases r with
    | error e => exact hrun (congrArg Except.error (Except.error.inj h))
    | ok r => cases h

/-! ### States that are reached -/

/-- What `rtmp_recv_data` can do to a client: the calls of `rtmp_process_chunk`, on any bytes, and
the client behind them. -/
inductive Reached (c₀ : RtmpClient) : List ChunkCall → RtmpClient → Prop where
  | start : Reached c₀ [] c₀
  | rewound {calls : List ChunkCall} {c : RtmpClient} (h : Reached c₀ calls c) :
      Reached c₀ calls c.rewound
  | answer {calls : List ChunkCall} {c : RtmpClient} (h : Reached c₀ calls c)
      (hstatus : c.rtmpStatus = .waitS0S1) : Reached c₀ calls (rtmpSendToServerC2 c).2
  | connect {calls : List ChunkCall} {c : RtmpClient} (h : Reached c₀ calls c)
      (hstatus : c.rtmpStatus = .waitS2) : Reached c₀ calls (rtmpSendToServerConnect c).2
  | call {calls : List ChunkCall} (call : ChunkCall) (h : Reached c₀ calls call.client) :
      Reached c₀ (calls ++ [call]) call.after

/-- What `rtmp_recv_data` keeps holds in every state that is reached. -/
theorem KeptByTrace.reached {Q : List ChunkCall → RtmpClient → Prop} (h : KeptByTrace Q)
    {c₀ : RtmpClient} (h0 : Q [] c₀) {calls : List ChunkCall} {c : RtmpClient}
    (hc : Reached c₀ calls c) : Q calls c := by
  induction hc with
  | start => exact h0
  | rewound _ ih => exact h.rewound _ _ ih
  | answer _ hstatus ih => exact h.answer _ _ hstatus ih
  | connect _ hstatus ih => exact h.connect _ _ hstatus ih
  | call call _ ih => exact h.call _ call ih

/-- `rtmp_recv_data` stays in the states that are reached. -/
theorem keptByTrace_reached (c₀ : RtmpClient) : KeptByTrace (Reached c₀) where
  rewound _ _ h := h.rewound
  answer _ _ hstatus h := h.answer hstatus
  connect _ _ hstatus h := h.connect hstatus
  call _ call h := h.call call

/-- Every state of a run is reached. -/
theorem reached_recvRun (c₀ : RtmpClient) (mPBuffer : Mem) (segments : List (List UInt8)) :
    Reached c₀ (recvRun (rtmpRecvData c₀ mPBuffer) segments).calls
      (recvRun (rtmpRecvData c₀ mPBuffer) segments).client :=
  (keptByTrace_reached c₀).recvRun_now Reached.start segments

theorem Reached.sound {u : RtmpClient} (h : (rtmpStartPlay (rtmpClient u)).1 = 0)
    {rtmpUrl rtmpApp rtmpStream : List UInt8} {calls : List ChunkCall} {c : RtmpClient}
    (hc : Reached (playing u rtmpUrl rtmpApp rtmpStream) calls c) : Sound c :=
  have hstart : Sound (playing u rtmpUrl rtmpApp rtmpStream) :=
    (fresh_playing h rtmpUrl rtmpApp rtmpStream).sound
  keptByTrace_sound.reached hstart hc

/-! ### Progress -/

/-- How a call moves through the `n` bytes of its window: it advances, wants more and stays, or
fails. -/
structure ChunkCall.Progresses (call : ChunkCall) (n : Nat) : Prop where
  ends : (rtmpProcessChunk call.client call.bufdata call.datalen).1 ≠ .error .diverged
  zero : (rtmpProcessChunk call.client call.bufdata call.datalen).1 = .ok 0 →
    ∃ k : Nat, 1 ≤ k ∧ k ≤ n ∧ call.after.mIParsePos = call.client.mIParsePos + k
  one : (rtmpProcessChunk call.client call.bufdata call.datalen).1 = .ok 1 →
    call.after.mIParsePos = call.client.mIParsePos
  positive : ∀ ret, (rtmpProcessChunk call.client call.bufdata call.datalen).1 = .ok ret →
    0 < ret → ret = 1
  inside : call.client.mIParsePos ≤ call.after.mIParsePos ∧
    call.after.mIParsePos ≤ call.client.mIParsePos + n

theorem ChunkCall.progresses (call : ChunkCall) (hs : Sound call.client) {n : Nat}
    (hn : call.datalen = n) : call.Progresses n := by
  have hends := rtmpProcessChunk_ends call hs
  obtain ⟨hlow, hhigh⟩ := parsePos_rtmpProcessChunk call hs (by omega)
  obtain ⟨hend, -, -⟩ := rtmpProcessChunk_end call hs
  have hafter : call.after = (rtmpProcessChunk call.client call.bufdata call.datalen).2.1 := rfl
  constructor
  · exact hends
  · intro h
    rw [h] at hend
    rw [hafter]
    generalize (rtmpProcessChunk call.client call.bufdata call.datalen).2 = out at hend ⊢
    obtain ⟨c', m'⟩ := out
    cases hend with
    | failed _ _ _ hf =>
      obtain ⟨_, _, _, _, _, _, hz⟩ := hf
      exact absurd rfl hz
    | taken _ _ k hk hle hpos _ => exact ⟨k, hk, by omega, hpos⟩
  · intro h
    rw [h] at hend
    rw [hafter]
    generalize (rtmpProcessChunk call.client call.bufdata call.datalen).2 = out at hend ⊢
    obtain ⟨c', m'⟩ := out
    cases hend with
    | more _ hsame _ => exact hsame
    | failed _ _ _ hf => exact absurd hf.ret (by decide)
  · intro ret h hret
    rw [h] at hend
    generalize (rtmpProcessChunk call.client call.bufdata call.datalen).2 = out at hend
    obtain ⟨c', m'⟩ := out
    cases hend with
    | more _ _ _ => rfl
    | reject _ _ => omega
    | failed _ _ _ hf =>
      have hneg := hf.ret
      omega
    | taken _ _ _ _ _ _ _ => omega
  · rw [hafter]
    omega

/-! ### The inner loop -/

/-- How the inner loop ends on `n` bytes: within them, behind at most `n + 1` calls. -/
structure LoopEnd.Stops (r : LoopEnd) (c : RtmpClient) (n : Nat) : Prop where
  ends : r.ret ≠ .error .diverged
  calls : r.calls.length ≤ n + 1
  low : c.mIParsePos ≤ r.client.mIParsePos
  high : r.client.mIParsePos ≤ c.mIParsePos + n

/-- Each round consumes a byte or is the last one, so a round for each byte and one more are
enough. -/
theorem stops_chunkLoop (fuel : Nat) {c : RtmpClient} (hs : Sound c) (mem : Mem) {size : Int}
    {n : Nat} (hn : size - c.mIParsePos = n) (hfuel : n < fuel) :
    (chunkLoop fuel c mem size).Stops c n ∧
      ∀ fuel', n < fuel' → chunkLoop fuel' c mem size = chunkLoop fuel c mem size := by
  induction fuel generalizing c mem n with
  | zero => omega
  | succ fuel ih =>
    have hprogress :=
      ChunkCall.progresses ⟨c, mem.shift c.mIParsePos.toNat, size - c.mIParsePos⟩ hs hn
    have hsound :=
      (rtmpProcessChunk_end ⟨c, mem.shift c.mIParsePos.toNat, size - c.mIParsePos⟩ hs).2.1
    obtain ⟨hends, hzero, -, -, hlow, hhigh⟩ := hprogress
    have hmore (fuel' : Nat) (h : n < fuel') : ∃ k, fuel' = k + 1 := ⟨fuel' - 1, by omega⟩
    unfold ChunkCall.after at hzero hlow hhigh
    rw [chunkLoop_succ]
    dsimp only at hends hzero hlow hhigh hsound ⊢
    generalize hout : rtmpProcessChunk c (mem.shift c.mIParsePos.toNat) (size - c.mIParsePos) = out
      at hends hzero hlow hhigh hsound ⊢
    obtain ⟨ret, c', m'⟩ := out
    dsimp only at hends hzero hlow hhigh hsound ⊢
    cases ret with
    | error e =>
      refine ⟨⟨?_, by simp, hlow, hhigh⟩, fun fuel' h ↦ ?_⟩
      · intro h
        exact hends (congrArg Except.error (Except.error.inj h))
      · obtain ⟨k, rfl⟩ := hmore fuel' h
        rw [chunkLoop_succ]
        dsimp only
        rw [hout]
    | ok ret =>
      by_cases h0 : ret = 0
      · obtain ⟨k, hk, hle, hpos⟩ := hzero (by rw [h0])
        obtain ⟨hrest, hsame⟩ := ih (n := n - k) hsound (mem.splice c.mIParsePos.toNat m')
          (by omega) (by omega)
        have hlen := hrest.calls
        have hlow' : c.mIParsePos ≤ (chunkLoop fuel c' (mem.splice c.mIParsePos.toNat m')
            size).client.mIParsePos := Int.le_trans hlow hrest.low
        have hhigh' : (chunkLoop fuel c' (mem.splice c.mIParsePos.toNat m')
            size).client.mIParsePos ≤ c.mIParsePos + n := by
          have hn' := hrest.high
          omega
        simp only [if_pos h0]
        refine ⟨⟨hrest.ends, ?_, hlow', hhigh'⟩, fun fuel' h ↦ ?_⟩
        · simp only [List.length_cons]
          omega
        · obtain ⟨k', rfl⟩ := hmore fuel' h
          rw [chunkLoop_succ]
          dsimp only
          rw [hout]
          simp only [if_pos h0]
          rw [hsame k' (by omega)]
      · simp only [if_neg h0]
        have hret : (Except.ok ret : Except Fault Int) ≠ .error .diverged := fun h ↦ nomatch h
        refine ⟨⟨hret, by simp, hlow, hhigh⟩, fun fuel' h ↦ ?_⟩
        obtain ⟨k, rfl⟩ := hmore fuel' h
        rw [chunkLoop_succ]
        dsimp only
        rw [hout]
        simp only [if_neg h0]

/-- In every state that is reached, a call that returns `0` has consumed bytes of its window, one
that returns `1` has not moved, and the inner loop stops within its bytes. -/
theorem rtmpProcessChunk_progress {u : RtmpClient} (h : (rtmpStartPlay (rtmpClient u)).1 = 0)
    {rtmpUrl rtmpApp rtmpStream : List UInt8} {calls : List ChunkCall} {c : RtmpClient}
    (hc : Reached (playing u rtmpUrl rtmpApp rtmpStream) calls c) :
    (∀ (buf : Mem) (datalen : Nat), ChunkCall.Progresses ⟨c, buf, datalen⟩ datalen) ∧
      (c.mIParsePos = 0 → ∀ (mem : Mem) (size fuel : Nat), size < fuel →
        (chunkLoop fuel c mem size).Stops c size ∧
          chunkLoop fuel c mem size = chunkLoop (size + 1) c mem size) := by
  constructor
  · intro buf datalen
    exact ChunkCall.progresses ⟨c, buf, datalen⟩ (hc.sound h) rfl
  · intro hpos mem size fuel hfuel
    have hn : (size : Int) - c.mIParsePos = size := by omega
    obtain ⟨hstops, hsame⟩ := stops_chunkLoop fuel (hc.sound h) mem hn hfuel
    exact ⟨hstops, (hsame (size + 1) (by omega)).symm⟩

/-- A Set Chunk Size message with the value four, and the first chunk of a message of ten bytes. -/
def openedChunks : List UInt8 :=
  [2, 0, 0, 0, 0, 0, 4, 1, 0, 0, 0, 0, 0, 0, 0, 4,
    4, 0, 0, 0, 0, 0, 10, 0x12, 0, 0, 0, 0, 1, 2, 3, 4]

/-- The run of a client that receives these chunks. -/
def openedRun : RecvState :=
  recvRun (rtmpRecvData (playing blankClient (ascii "rtmp://host/live") (ascii "live") [])
    fun _ ↦ 0) [zeroHandshake, openedChunks]

/-- Progress of a client with small chunks that has received the first four bytes of a message. -/
theorem rtmpProcessChunk_progress_open :
    let c := openedRun.client.rewound
    (c.rtmpChunkMaxSize = 4 ∧ (c.rtmpChunk 4).lastMessageSize = 6 ∧ c.mIParsePos = 0) ∧
      (∀ (buf : Mem) (datalen : Nat), ChunkCall.Progresses ⟨c, buf, datalen⟩ datalen) ∧
      ∀ (mem : Mem) (size fuel : Nat), size < fuel →
        (chunkLoop fuel c mem size).Stops c size ∧
          chunkLoop fuel c mem size = chunkLoop (size + 1) c mem size := by
  intro c
  have hstate : c.rtmpChunkMaxSize = 4 ∧ (c.rtmpChunk 4).lastMessageSize = 6 ∧
      c.mIParsePos = 0 := by
    decide +kernel
  have hreached : Reached (playing blankClient (ascii "rtmp://host/live") (ascii "live") [])
      openedRun.calls c := (reached_recvRun _ _ _).rewound
  have hprogress := rtmpProcessChunk_progress (by decide) hreached
  exact ⟨hstate, hprogress.1, hprogress.2 hstate.2.2⟩

end RtmpRecv.Client
