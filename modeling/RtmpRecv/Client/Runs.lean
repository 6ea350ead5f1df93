import RtmpRecv.Client.Handshake

/-!
# Invariants of the client

Library `Client`. What holds of the client in every state of a run: a property that the handshake
and every call of `rtmp_process_chunk` keep. And what a call gives to the handler of a message.
-/

namespace RtmpRecv.Client
open RtmpRecv.Base

/-- All that `rtmp_recv_data` does to the client keeps the property of the calls so far and the
client behind them. -/
structure KeptByTrace (Q : List ChunkCall → RtmpClient → Prop) : Prop where
  rewound : ∀ calls c, Q calls c → Q calls c.rewound
  answer : ∀ calls c, c.rtmpStatus = .waitS0S1 → Q calls c → Q calls (rtmpSendToServerC2 c).2
  connect : ∀ calls c, c.rtmpStatus = .waitS2 → Q calls c →
    Q calls (rtmpSendToServerConnect c).2
  call : ∀ calls (call : ChunkCall), Q calls call.client →
    Q (calls ++ [call]) (rtmpProcessChunk call.client call.bufdata call.datalen).2.1

/-- The property holds, and it held before every call from the `n`-th on. -/
structure HeldOn (Q : List ChunkCall → RtmpClient → Prop) (n : Nat) (calls : List ChunkCall)
    (c : RtmpClient) : Prop where
  now : Q calls c
  before : ∀ before call after, calls = before ++ call :: after → n ≤ before.length →
    Q before call.client

section

variable {Q : List ChunkCall → RtmpClient → Prop} {n : Nat}

theorem HeldOn.snoc {calls : List ChunkCall} {call : ChunkCall} {c : RtmpClient}
    (h : HeldOn Q n calls call.client) (hc : Q (calls ++ [call]) c) :
    HeldOn Q n (calls ++ [call]) c := by
  refine ⟨hc, fun before call' after heq hn ↦ ?_⟩
  rcases List.append_eq_append_iff.1 heq with ⟨l, hb, hl⟩ | ⟨l, hcalls, hl⟩
  · cases l with
    | nil =>
      rw [List.nil_append] at hl
      injection hl with hl _
      rw [hb, List.append_nil, ← hl]
      exact h.now
    | cons first l =>
      injection hl with _ hl
      cases l with
      | nil => cases hl
      | cons _ _ => cases hl
  · cases l with
    | nil =>
      rw [List.nil_append] at hl
      injection hl with hl _
      rw [List.append_nil] at hcalls
      rw [← hcalls, hl]
      exact h.now
    | cons first l =>
      injection hl with hl _
      rw [← hl] at hcalls
      exact h.before before call' l hcalls hn

theorem KeptByTrace.chunkLoop (h : KeptByTrace Q) (fuel : Nat) {calls : List ChunkCall}
    {c : RtmpClient} (hc : HeldOn Q n calls c) (mem : Mem) (size : Int) :
    HeldOn Q n (calls ++ (chunkLoop fuel c mem size).calls) (chunkLoop fuel c mem size).client := by
  induction fuel generalizing calls c mem with
  | zero =>
    change HeldOn Q n (calls ++ []) c
    rw [List.append_nil]
    exact hc
  | succ fuel ih =>
    obtain ⟨call, hcall⟩ : ∃ call : ChunkCall,
      call = ⟨c, mem.shift c.mIParsePos.toNat, size - c.mIParsePos⟩ := ⟨_, rfl⟩
    have hclient : call.client = c := by rw [hcall]
    have hsame : rtmpProcessChunk c (mem.shift c.mIParsePos.toNat) (size - c.mIParsePos) =
        rtmpProcessChunk call.client call.bufdata call.datalen := by rw [hcall]
    rw [← hclient] at hc
    have hafter := hc.snoc (h.call calls call hc.now)
    rw [chunkLoop_succ]
    dsimp only
    rw [← hcall, hsame]
    generalize rtmpProcessChunk call.client call.bufdata call.datalen = out at hafter ⊢
    obtain ⟨ret, c', m'⟩ := out
    dsimp only at hafter ⊢
    cases ret with
    | error e => exact hafter
    | ok ret =>
      dsimp only
      split
      · have hrest := ih hafter (mem.splice c.mIParsePos.toNat m')
        rw [List.append_assoc] at hrest
        exact hrest
      · exact hafter

theorem KeptByTrace.handshake (h : KeptByTrace Q) {calls : List ChunkCall} {c : RtmpClient}
    (hc : Q calls c) (size : Int) : Q calls (handshake c size).1 := by
  have hs2 (c : RtmpClient) (hc : Q calls c) (pos : Nat) (size : Int) :
      Q calls (handshakeS2 c pos size).1 := by
    unfold handshakeS2
    split
    · next hs =>
      have hconnect := h.connect calls c hs.1 hc
      generalize rtmpSendToServerConnect c = out at hconnect ⊢
      dsimp only
      split
      · exact hconnect
      · exact hconnect
    · exact hc
  have hs0s1 : Q calls (handshakeS0S1 c size).1 := by
    unfold handshakeS0S1
    split
    · next hs =>
      have hanswer := h.answer calls c hs.1 hc
      generalize rtmpSendToServerC2 c = out at hanswer ⊢
      dsimp only
      split
      · exact hanswer
      · exact hanswer
    · exact hc
  unfold Client.handshake
  generalize handshakeS0S1 c size = out at hs0s1 ⊢
  obtain ⟨c', split⟩ := out
  cases split with
  | none => exact hs0s1
  | some p => exact hs2 c' hs0s1 p.1 p.2

/-- The client of a round that has stopped. -/
theorem client_afterLoop (s : RecvState) (m : Mem) (pos : Nat) (size : Int) (r : LoopEnd) :
    (s.afterLoop m pos size r).client = r.client := by
  unfold RecvState.afterLoop
  cases r.ret with
  | error e => rfl
  | ok ret =>
    dsimp only
    split
    · rfl
    · rfl

/-- A round keeps the property. -/
theorem KeptByTrace.recvStep (h : KeptByTrace Q) {s : RecvState}
    (hs : HeldOn Q n s.calls s.client) (bytes : List UInt8) :
    HeldOn Q n (recvStep s bytes).calls (recvStep s bytes).client := by
  by_cases hr : s.running = true
  · have hclient := h.handshake (h.rewound _ _ hs.now) (s.size + bytes.length)
    rw [recvStep_eq hr]
    generalize Client.handshake s.client.rewound (s.size + bytes.length) = out at hclient ⊢
    obtain ⟨c, split⟩ := out
    cases split with
    | none => exact ⟨hclient, hs.before⟩
    | some p =>
      obtain ⟨pos, size⟩ := p
      by_cases hparse : RtmpStatus.waitChunk.toNat < c.rtmpStatus.toNat
      · rw [afterHandshake_parse s _ _ pos size hparse, client_afterLoop,
          RecvState.calls_afterLoop]
        exact h.chunkLoop (size.toNat + 1) ⟨hclient, hs.before⟩ _ size
      · rw [afterHandshake_wait s _ _ pos size hparse]
        exact ⟨hclient, hs.before⟩
  · unfold Client.recvStep
    rw [if_pos hr]
    exact hs

/-- A run keeps the property. -/
theorem KeptByTrace.recvRun (h : KeptByTrace Q) {s : RecvState}
    (hs : HeldOn Q n s.calls s.client) (segments : List (List UInt8)) :
    HeldOn Q n (recvRun s segments).calls (recvRun s segments).client := by
  induction segments generalizing s with
  | nil => exact hs
  | cons bytes rest ih => exact ih (h.recvStep hs bytes)

/-- What a run comes to from a state with the property. -/
theorem KeptByTrace.recvRun_now (h : KeptByTrace Q) {s : RecvState} (hs : Q s.calls s.client)
    (segments : List (List UInt8)) :
    Q (Client.recvRun s segments).calls (Client.recvRun s segments).client := by
  refine (h.recvRun (n := s.calls.length) ⟨hs, fun before call after heq hn ↦ ?_⟩ segments).now
  have hlen := congrArg List.length heq
  rw [List.length_append, List.length_cons] at hlen
  omega

/-- A run from the start keeps the property. -/
theorem KeptByTrace.started (h : KeptByTrace Q) {c : RtmpClient} (hc : Q [] c) (mPBuffer : Mem)
    (segments : List (List UInt8)) :
    HeldOn Q 0 (Client.recvRun (rtmpRecvData c mPBuffer) segments).calls
      (Client.recvRun (rtmpRecvData c mPBuffer) segments).client := by
  apply h.recvRun
  refine ⟨hc, fun before call after heq _ ↦ ?_⟩
  cases before with
  | nil => cases heq
  | cons _ _ => cases heq

end

/-- The parser never meets an unsound chunk stream. -/
theorem keptByTrace_sound : KeptByTrace fun _ c ↦ Sound c where
  rewound _ _ hc := hc
  answer _ c _ hc := by
    intro i
    rw [(sendC2_cases c).1.chunk]
    exact hc i
  connect _ c _ hc := by
    intro i
    rw [(sendConnect_cases c).1.chunk]
    exact hc i
  call _ call hc := (rtmpProcessChunk_end call hc).2.1

/-- The client is sound before every call of a run. -/
theorem sound_calls {u : RtmpClient} (h : (rtmpStartPlay (rtmpClient u)).1 = 0)
    (rtmpUrl rtmpApp rtmpStream : List UInt8) (mPBuffer : Mem) (segments : List (List UInt8))
    {call : ChunkCall}
    (hcall : call ∈ (recvRun (rtmpRecvData (playing u rtmpUrl rtmpApp rtmpStream) mPBuffer)
      segments).calls) : Sound call.client := by
  have hstart : Sound (playing u rtmpUrl rtmpApp rtmpStream) :=
    (fresh_playing h rtmpUrl rtmpApp rtmpStream).sound
  obtain ⟨before, after, hsplit⟩ := List.append_of_mem hcall
  exact (keptByTrace_sound.started hstart mPBuffer segments).before before call after hsplit
    (Nat.zero_le _)

/-! ### Messages -/

/-- The message is short enough for its length to be exact. -/
theorem chunkStep_message {c c' : RtmpClient} {buf : Mem} {datalen dataLen : Int} {chunkId : Nat}
    {data : MessageData} (hs : Sound c)
    (h : chunkStep c buf datalen = .message c' chunkId data dataLen) :
    ∃ n : Nat, dataLen = n ∧ n < 16777216 := by
  have hstep := callStep_chunkStep hs buf datalen
  rw [h] at hstep
  cases hstep with
  | taken c₁ chunkInfo hl hh hd hb =>
    cases hb with
    | single _ _ => exact ⟨chunkInfo.messageSize, rfl, hh.size⟩
    | final _ hlast _ _ =>
      have hsound := (hs.headerKept hh.kept) (chunkIdOf buf)
      exact ⟨_, rfl, hsound.size hlast⟩

end RtmpRecv.Client
