import RtmpRecv.Client.Application
import RtmpRecv.Client.Progress
import RtmpRecv.Wire.Chunks

/-!
# Whole runs as runs of the application

Library `Client`. Whatever the server sends and however it is cut, the application ends as the
messages make it that were handed to their handlers: the chunk reader adds nothing. Where every
handler finds what it reads in its message, the messages alone decide.
-/

namespace RtmpRecv.Client
open RtmpRecv.Base RtmpRecv.Wire

/-- The application of `c` is what the messages of `c` make of that of `start`. -/
def Serves (start c : RtmpClient) : Prop :=
  ∃ inputs : List Input, inputs.map Input.message = c.rtmpMessages ∧
    c.application = (inputs.foldl RtmpClient.serve start).application

theorem serve_closed (c : RtmpClient) (input : Input) :
    (c.serve input).application = c.serve input := by
  unfold RtmpClient.serve
  cases c.handle input with
  | ok r => rfl
  | error e => rfl

/-- One more message. -/
private theorem Serves.snoc {start c c' : RtmpClient} (h : Serves start c) {input : Input}
    (hmessages : c'.rtmpMessages = c.rtmpMessages ++ [input.message])
    (happ : c'.application = c.serve input) : Serves start c' := by
  obtain ⟨inputs, hinputs, hc⟩ := h
  refine ⟨inputs ++ [input], ?_, ?_⟩
  · rw [List.map_append, hinputs, hmessages, List.map_singleton]
  · rw [happ, ← serve_application, hc, List.foldl_append, List.foldl_cons, List.foldl_nil,
      serve_application, serve_closed]

private theorem Serves.same {start c c' : RtmpClient} (h : Serves start c)
    (hmessages : c'.rtmpMessages = c.rtmpMessages) (happ : c'.application = c.application) :
    Serves start c' := by
  obtain ⟨inputs, hinputs, hc⟩ := h
  exact ⟨inputs, hinputs.trans hmessages.symm, happ.trans hc⟩

/-- The message that a call hands over, as its handler is given it. -/
def inputOf (c : RtmpClient) (chunkId : Nat) (data : MessageData) {n : Nat} (hn : n < 16777216)
    (buf : Mem) : Input where
  message := messageOf c chunkId data n buf
  mem := data.mem buf
  holds := by
    change (data.mem buf).slice 0 ((data.mem buf).slice 0 n).length = _
    rw [Mem.length_slice]
    rfl
  short := by
    change ((data.mem buf).slice 0 n).length < _
    rwa [Mem.length_slice]

theorem messages_chunkStep {c : RtmpClient} (hs : Sound c) (buf : Mem) (datalen : Int) :
    (chunkStep c buf datalen).client.rtmpMessages = c.rtmpMessages := by
  have h := callStep_chunkStep hs buf datalen
  generalize chunkStep c buf datalen = step at h
  cases h with
  | wait c' hk _ => exact hk.messages
  | reject c' hk => exact hk.messages
  | short c' _ _ hh _ => exact hh.kept.messages
  | taken c' _ _ hh _ hb => exact hb.messages.trans hh.kept.messages

/-- A call serves the message that it hands over. -/
theorem Serves.call {start : RtmpClient} (call : ChunkCall) (hs : Sound call.client)
    (h : Serves start call.client) : Serves start call.after := by
  have hmessages := messages_chunkStep hs call.bufdata call.datalen
  have happ := application_chunkStep call.client call.bufdata call.datalen
  unfold ChunkCall.after rtmpProcessChunk
  cases hstep : chunkStep call.client call.bufdata call.datalen with
  | ret r c =>
    rw [hstep] at hmessages happ
    exact h.same hmessages happ
  | fault e c =>
    rw [hstep] at hmessages happ
    exact h.same hmessages happ
  | message c chunkId data dataLen =>
    rw [hstep] at hmessages happ
    obtain ⟨n, rfl, hn⟩ := chunkStep_message hs hstep
    have hc : Serves start c := h.same hmessages happ
    have hmessage := (delivered_deliver c chunkId data n call.bufdata).messages
    have hserved : (deliver c chunkId data n call.bufdata).2.1.application =
        c.serve (inputOf c chunkId data hn call.bufdata) :=
      application_deliver c chunkId data n call.bufdata rfl rfl
    exact hc.snoc hmessage hserved

/-- Behind the handshake the messages decide about the application. -/
theorem keptByTrace_serves (start : RtmpClient) : KeptByTrace fun _ c ↦
    (Sound c ∧ RtmpStatus.waitChunk.toNat < c.rtmpStatus.toNat) ∧ Serves start c where
  rewound _ _ h := h
  answer _ c hstatus h := by
    have hparse := h.1.2
    rw [hstatus] at hparse
    exact absurd hparse (by decide)
  connect _ c hstatus h := by
    have hparse := h.1.2
    rw [hstatus] at hparse
    exact absurd hparse (by decide)
  call _ call h := by
    obtain ⟨-, hsound, hstatus⟩ := rtmpProcessChunk_end call h.1.1
    refine ⟨⟨hsound, ?_⟩, h.2.call call h.1.1⟩
    rcases hstatus with hstatus | hstatus
    · rw [hstatus]
      exact h.1.2
    · exact hstatus

/-! ### The handshake -/

/-- How far a run from `c₀` has come: it waits for the server's part of the handshake, it has been
left there because `Send` failed, or it serves messages, as it did before every call. -/
inductive Reaches (c₀ : RtmpClient) (s : RecvState) : Prop where
  | waits (hrun : s.running = true) (hcalls : s.calls = []) (hlow : 0 ≤ s.size)
      (hclient : s.client.rewound = c₀ ∨
        s.client = answered c₀ ∧ (answered c₀).rtmpStatus = .waitS2) : Reaches c₀ s
  | left (hstop : s.running = false)
      (hclient : s.client = answered c₀ ∨ s.client = connecting c₀)
      (hfail : (rtmpSendToServerC2 c₀).1 < 0 ∨ (rtmpSendToServerConnect (answered c₀)).1 < 0) :
      Reaches c₀ s
  | serves (hsound : Sound s.client)
      (hparse : RtmpStatus.waitChunk.toNat < s.client.rtmpStatus.toNat)
      (hserves : Serves (connecting c₀) s.client) (hcalls : s.calls ≠ [])
      (hbefore : ∀ call ∈ s.calls, Sound call.client ∧ Serves (connecting c₀) call.client) :
      Reaches c₀ s

section

variable {c₀ : RtmpClient}

private theorem calls_chunkLoop_ne (fuel : Nat) (c : RtmpClient) (mem : Mem) (size : Int) :
    (chunkLoop (fuel + 1) c mem size).calls ≠ [] := by
  rw [chunkLoop_succ]
  dsimp only
  split
  · exact List.cons_ne_nil _ _
  · split
    · exact List.cons_ne_nil _ _
    · exact List.cons_ne_nil _ _

/-- Chunks behind the handshake. -/
private theorem reaches_parse {c : RtmpClient} {s : RecvState} (m : Mem) (pos : Nat) (size n : Int)
    (hs : Sound c) (hparse : RtmpStatus.waitChunk.toNat < c.rtmpStatus.toNat)
    (hserves : Serves (connecting c₀) c)
    (hbefore : ∀ call ∈ s.calls, Sound call.client ∧ Serves (connecting c₀) call.client) :
    Reaches c₀ (afterHandshake s m n (c, some (pos, size))) := by
  have hheld : HeldOn (fun _ c ↦ (Sound c ∧ RtmpStatus.waitChunk.toNat < c.rtmpStatus.toNat) ∧
      Serves (connecting c₀) c) 0 [] c :=
    ⟨⟨⟨hs, hparse⟩, hserves⟩, fun before call after heq _ ↦ by cases before <;> cases heq⟩
  have hloop := (keptByTrace_serves (connecting c₀)).chunkLoop (size.toNat + 1) hheld
    (m.shift pos) size
  have hne := calls_chunkLoop_ne size.toNat c (m.shift pos) size
  obtain ⟨⟨hs', hparse'⟩, hserves'⟩ := hloop.now
  rw [afterHandshake_parse s m n pos size hparse]
  refine .serves ?_ ?_ ?_ ?_ ?_
  · rwa [client_afterLoop]
  · rwa [client_afterLoop]
  · rwa [client_afterLoop]
  · rw [RecvState.calls_afterLoop]
    exact List.append_ne_nil_of_right_ne_nil _ hne
  · rw [RecvState.calls_afterLoop]
    intro call hcall
    rcases List.mem_append.1 hcall with hcall | hcall
    · exact hbefore call hcall
    · obtain ⟨before, after, hsplit⟩ := List.append_of_mem hcall
      obtain ⟨⟨hsound, -⟩, hserved⟩ := hloop.before before call after hsplit (Nat.zero_le _)
      exact ⟨hsound, hserved⟩

private theorem serves_connecting (hmessages : c₀.rtmpMessages = []) :
    Serves (connecting c₀) (connecting c₀) :=
  ⟨[], (kept_connecting c₀).messages.trans hmessages |>.symm, rfl⟩

private theorem answered_rewound (hf : Fresh c₀) : (answered c₀).rewound = answered c₀ :=
  rewound_of_pos ((sendC2_cases c₀).1.parsePos.trans hf.pos)

/-- A round that sends `connect` parses what follows S2, or leaves the loop. -/
private theorem reaches_connects (hf : Fresh c₀) (hmessages : c₀.rtmpMessages = []) {s : RecvState}
    (hcalls : s.calls = []) (m : Mem) (pos : Nat) (size n : Int)
    (hret : ¬(rtmpSendToServerConnect (answered c₀)).1 < 0) :
    Reaches c₀ (afterHandshake s m n (connecting c₀, some (pos, size))) := by
  have hbefore : ∀ call ∈ s.calls, Sound call.client ∧ Serves (connecting c₀) call.client := by
    intro call hcall
    rw [hcalls] at hcall
    cases hcall
  exact reaches_parse m pos size n (sound_connecting hf) (status_connecting hret)
    (serves_connecting hmessages) hbefore

/-- A round that cannot send leaves the loop. -/
private theorem reaches_left {c : RtmpClient} (s : RecvState) (m : Mem) (n : Int)
    (hc : c = answered c₀ ∨ c = connecting c₀)
    (hfail : (rtmpSendToServerC2 c₀).1 < 0 ∨ (rtmpSendToServerConnect (answered c₀)).1 < 0) :
    Reaches c₀ (afterHandshake s m n (c, none)) :=
  .left rfl hc hfail

/-- A round that waits for the server's part of the handshake. -/
private theorem reaches_waits (hf : Fresh c₀) (hmessages : c₀.rtmpMessages = []) {s : RecvState}
    (hrun : s.running = true) (hcalls : s.calls = []) (m : Mem) (n : Nat)
    (hclient : s.client.rewound = c₀ ∨
      s.client = answered c₀ ∧ (answered c₀).rtmpStatus = .waitS2) :
    Reaches c₀ (afterHandshake s m n (handshake s.client.rewound n)) := by
  have hrewound := answered_rewound hf
  rcases hclient with hclient | ⟨hclient, hs2⟩
  · rw [hclient]
    have hstep := handshakeStep_handshake (c := c₀) (n := n) (hf.status.imp_right Or.inl)
    have hidle : ¬RtmpStatus.waitChunk.toNat < c₀.rtmpStatus.toNat := by
      rcases hf.status with h | h
      · rw [h]
        decide
      · rw [h]
        decide
    generalize handshake c₀ n = out at hstep ⊢
    cases hstep with
    | waits _ =>
      rw [afterHandshake_wait s m n 0 n hidle]
      exact .waits hrun hcalls (Int.natCast_nonneg n) (Or.inl (rewound_of_pos hf.pos))
    | notAnswered _ _ hret => exact reaches_left s m n (Or.inl rfl) (Or.inl hret)
    | answers _ hn _ hret =>
      have hs2 := status_answered hret
      have hidle : ¬RtmpStatus.waitChunk.toNat < (answered c₀).rtmpStatus.toNat := by
        rw [hs2]
        decide
      rw [afterHandshake_wait s m n _ _ hidle]
      exact .waits hrun hcalls (by change 0 ≤ (n : Int) - 1537; omega) (Or.inr ⟨rfl, hs2⟩)
    | notConnected _ _ _ hret => exact reaches_left s m n (Or.inr rfl) (Or.inr hret)
    | answersConnects _ _ _ hret' => exact reaches_connects hf hmessages hcalls m _ _ n hret'
    | notConnectedLater hstatus _ _ =>
      rcases hf.status with h | h
      · rw [h] at hstatus
        cases hstatus
      · rw [h] at hstatus
        cases hstatus
    | connects hstatus _ _ =>
      rcases hf.status with h | h
      · rw [h] at hstatus
        cases hstatus
      · rw [h] at hstatus
        cases hstatus
    | parses h => exact absurd h hidle
  · rw [hclient, hrewound]
    have hstep := handshakeStep_handshake (c := answered c₀) (n := n) (Or.inr (Or.inr (Or.inl hs2)))
    have hidle : ¬RtmpStatus.waitChunk.toNat < (answered c₀).rtmpStatus.toNat := by
      rw [hs2]
      decide
    generalize handshake (answered c₀) n = out at hstep ⊢
    cases hstep with
    | waits _ =>
      rw [afterHandshake_wait s m n 0 n hidle]
      exact .waits hrun hcalls (Int.natCast_nonneg n) (Or.inr ⟨rfl, hs2⟩)
    | notAnswered hstatus _ _ =>
      rw [hs2] at hstatus
      cases hstatus
    | answers hstatus _ _ _ =>
      rw [hs2] at hstatus
      cases hstatus
    | notConnected hstatus _ _ _ =>
      rw [hs2] at hstatus
      cases hstatus
    | answersConnects hstatus _ _ _ =>
      rw [hs2] at hstatus
      cases hstatus
    | notConnectedLater _ _ hret => exact reaches_left s m n (Or.inr rfl) (Or.inr hret)
    | connects _ _ hret => exact reaches_connects hf hmessages hcalls m _ _ n hret
    | parses h => exact absurd h hidle

/-- A round goes on. -/
theorem Reaches.recvStep (hf : Fresh c₀) (hmessages : c₀.rtmpMessages = []) {s : RecvState}
    (h : Reaches c₀ s) (bytes : List UInt8) : Reaches c₀ (recvStep s bytes) := by
  by_cases hr : s.running = true
  · rw [recvStep_eq hr]
    generalize s.mPBuffer.memcpy s.size.toNat bytes = m
    cases h with
    | waits _ hcalls hlow hclient =>
      obtain ⟨n, hn⟩ : ∃ n : Nat, s.size + bytes.length = n :=
        ⟨(s.size + bytes.length).toNat, by omega⟩
      rw [hn]
      exact reaches_waits hf hmessages hr hcalls m n hclient
    | left hstop _ _ =>
      rw [hr] at hstop
      cases hstop
    | serves hsound hparse hserves _ hbefore =>
      have hparse' : RtmpStatus.waitChunk.toNat < s.client.rewound.rtmpStatus.toNat := hparse
      rw [handshake_parsing _ _ hparse']
      exact reaches_parse m 0 _ _ hsound hparse' hserves hbefore
  · rw [Bool.not_eq_true] at hr
    rw [recvStep_left hr]
    exact h

/-- A run reaches what its rounds reach. -/
theorem Reaches.recvRun (hf : Fresh c₀) (hmessages : c₀.rtmpMessages = []) {s : RecvState}
    (h : Reaches c₀ s) (segments : List (List UInt8)) : Reaches c₀ (recvRun s segments) := by
  induction segments generalizing s with
  | nil => exact h
  | cons bytes rest ih => exact ih (h.recvStep hf hmessages bytes)

end

/-- A client that has started has got no message. -/
theorem messages_playing {u : RtmpClient} (h : (rtmpStartPlay (rtmpClient u)).1 = 0)
    (rtmpUrl rtmpApp rtmpStream : List UInt8) :
    (playing u rtmpUrl rtmpApp rtmpStream).rtmpMessages = [] := by
  unfold playing
  rw [rtmpStartPlay_eq ((rtmpStartPlay_newClient u rtmpUrl rtmpApp rtmpStream).trans h),
    (sendC0C1_cases _).1.messages]
  rfl

/-- How far a run comes from the start. -/
theorem reaches_playing {u : RtmpClient} (h : (rtmpStartPlay (rtmpClient u)).1 = 0)
    (rtmpUrl rtmpApp rtmpStream : List UInt8) (mPBuffer : Mem) (segments : List (List UInt8)) :
    Reaches (playing u rtmpUrl rtmpApp rtmpStream).rewound
      (recvRun (rtmpRecvData (playing u rtmpUrl rtmpApp rtmpStream) mPBuffer) segments) :=
  Reaches.recvRun (fresh_playing h rtmpUrl rtmpApp rtmpStream)
    (messages_playing h rtmpUrl rtmpApp rtmpStream)
    (.waits rfl rfl (Int.le_refl 0) (Or.inl rfl)) segments

/-! ### The application of a run -/

private theorem application_answered_rewound (c : RtmpClient) :
    (answered c.rewound).application = (answered c).application := by
  unfold answered rtmpSendToServerC2
  dsimp only [RtmpClient.time, RtmpClient.send, RtmpClient.rewound]
  split
  · rfl
  · rfl

private theorem application_sendConnect {c c' : RtmpClient}
    (h : c'.application = c.application) :
    (rtmpSendToServerConnect c').2.application = (rtmpSendToServerConnect c).2.application := by
  have hsame (c : RtmpClient) : (rtmpSendToServerConnect c).2.application =
      (rtmpSendToServerConnect c.application).2.application := by
    unfold rtmpSendToServerConnect
    dsimp only [RtmpClient.send]
    change (if c.host.sendResult 0 < 0 then _ else _ : Int × RtmpClient).2.application =
      (if c.host.sendResult 0 < 0 then _ else _ : Int × RtmpClient).2.application
    split
    · rfl
    · rfl
  rw [hsame c', h, ← hsame c]

theorem application_connecting_rewound (c : RtmpClient) :
    (connecting c.rewound).application = (connecting c).application :=
  application_sendConnect (application_answered_rewound c)

theorem application_foldl_serve {c c' : RtmpClient} (h : c'.application = c.application)
    (inputs : List Input) :
    (inputs.foldl RtmpClient.serve c').application =
      (inputs.foldl RtmpClient.serve c).application := by
  rw [← foldl_serve_application, h, foldl_serve_application]

/-- The application of a run: that of the handshake, or what the messages make of it. -/
theorem serves_recvRun (u : RtmpClient) (h : (rtmpStartPlay (rtmpClient u)).1 = 0)
    (rtmpUrl rtmpApp rtmpStream : List UInt8) (mPBuffer : Mem) (segments : List (List UInt8)) :
    let c₀ := playing u rtmpUrl rtmpApp rtmpStream
    let c := (recvRun (rtmpRecvData c₀ mPBuffer) segments).client
    (c.rtmpMessages = [] ∧ (c.application = c₀.application ∨
      c.application = (answered c₀).application ∨ c.application = (connecting c₀).application)) ∨
    ∃ inputs : List Input, inputs.map Input.message = c.rtmpMessages ∧
      c.application = (inputs.foldl RtmpClient.serve (connecting c₀)).application := by
  intro c₀ c
  have hempty : c₀.rtmpMessages = [] := messages_playing h rtmpUrl rtmpApp rtmpStream
  have hanswered : (answered c₀.rewound).rtmpMessages = [] :=
    (sendC2_cases c₀.rewound).1.messages.trans hempty
  have hconnecting : (connecting c₀.rewound).rtmpMessages = [] :=
    (kept_connecting c₀.rewound).messages.trans hempty
  have hreaches := reaches_playing h rtmpUrl rtmpApp rtmpStream mPBuffer segments
  change Reaches c₀.rewound (recvRun (rtmpRecvData c₀ mPBuffer) segments) at hreaches
  have happ : (answered c₀.rewound).application = (answered c₀).application :=
    application_answered_rewound c₀
  cases hreaches with
  | waits _ _ _ hclient =>
    left
    rcases hclient with hclient | ⟨hclient, -⟩
    · have hmessages := congrArg RtmpClient.rtmpMessages hclient
      have hsame := congrArg RtmpClient.application hclient
      exact ⟨hmessages.trans hempty, Or.inl hsame⟩
    · change c = _ at hclient
      rw [hclient]
      exact ⟨hanswered, Or.inr (Or.inl happ)⟩
  | left _ hclient _ =>
    left
    rcases hclient with hclient | hclient
    · change c = _ at hclient
      rw [hclient]
      exact ⟨hanswered, Or.inr (Or.inl happ)⟩
    · change c = _ at hclient
      rw [hclient]
      exact ⟨hconnecting, Or.inr (Or.inr (application_connecting_rewound c₀))⟩
  | serves _ _ hserves _ _ =>
    obtain ⟨inputs, hinputs, hc⟩ := hserves
    exact Or.inr ⟨inputs, hinputs,
      hc.trans (application_foldl_serve (application_connecting_rewound c₀) inputs)⟩

/-- When every handler finds what it reads in its message, the messages alone decide about the
application: neither the chunks that carried them nor the segments of these chunks do. -/
theorem rtmpRecvData_serves_messages (u : RtmpClient) (h : (rtmpStartPlay (rtmpClient u)).1 = 0)
    (rtmpUrl rtmpApp rtmpStream : List UInt8) (mPBuffer : Mem) (segments : List (List UInt8)) :
    let c₀ := playing u rtmpUrl rtmpApp rtmpStream
    let c := (recvRun (rtmpRecvData c₀ mPBuffer) segments).client
    c.rtmpMessages ≠ [] → AllWithin (connecting c₀) c.rtmpMessages →
      c.application =
        (c.rtmpMessages.foldl RtmpClient.serveMessage (connecting c₀)).application := by
  intro c₀ c hne hwithin
  rcases serves_recvRun u h rtmpUrl rtmpApp rtmpStream mPBuffer segments with
    ⟨hempty, -⟩ | ⟨inputs, hinputs, hc⟩
  · exact absurd hempty hne
  · change inputs.map Input.message = c.rtmpMessages at hinputs
    rw [← hinputs] at hwithin ⊢
    rw [← foldl_serve_eq hwithin]
    exact hc

/-- The sequence headers of an AVC and an AAC stream, and a key frame in two chunks with an AAC
frame between them, behind a change of the chunk size. -/
def avcAacChunks : List Chunk :=
  [.start 2 (.fmt0 0 0) ⟨1, [0, 0, 0, 19]⟩,
    .start 6 (.fmt0 0 1) ⟨9, [0x17, 0, 0, 0, 0, 1, 0x42, 0, 0x1e, 0xff, 0xe1, 0, 2, 0x67, 0x42,
      1, 0, 1, 0x68]⟩,
    .start 4 (.fmt0 0 1) ⟨8, [0xaf, 0, 0x12, 0x10]⟩,
    .start 6 (.fmt0 40 1) ⟨9, [0x17, 1, 0, 0, 0, 0, 0, 0, 2, 6, 5, 0, 0, 0, 6, 0x65, 1, 2, 3, 4,
      5]⟩,
    .start 4 (.fmt0 45 1) ⟨8, [0xaf, 1, 0x21, 0x10]⟩, .cont 6]

/-- The messages in the order in which they are complete. -/
def avcAacMessages : List RtmpMessage :=
  [⟨2, 1, 0, 0, [0, 0, 0, 19]⟩,
    ⟨6, 9, 16777216, 0, [0x17, 0, 0, 0, 0, 1, 0x42, 0, 0x1e, 0xff, 0xe1, 0, 2, 0x67, 0x42, 1, 0, 1,
      0x68]⟩,
    ⟨4, 8, 16777216, 0, [0xaf, 0, 0x12, 0x10]⟩, ⟨4, 8, 16777216, 45, [0xaf, 1, 0x21, 0x10]⟩,
    ⟨6, 9, 16777216, 40, [0x17, 1, 0, 0, 0, 0, 0, 0, 2, 6, 5, 0, 0, 0, 6, 0x65, 1, 2, 3, 4, 5]⟩]

/-- Every handler of these messages finds what it reads. -/
theorem allWithin_avcAac (c : RtmpClient) : AllWithin c avcAacMessages := by
  have hconfig : AudioSuffices [0xaf, 0, 0x12, 0x10] := ⟨by decide, by decide⟩
  have hframe : AudioSuffices [0xaf, 1, 0x21, 0x10] := ⟨by decide, by decide⟩
  have hrecord : RecordSuffices [1, 0x42, 0, 0x1e, 0xff, 0xe1, 0, 2, 0x67, 0x42, 1, 0, 1, 0x68] :=
    Or.inr (Or.inr ⟨by decide, Or.inr (by decide)⟩)
  refine ⟨Nat.le_refl 4, ⟨by decide, fun _ ↦ ⟨by decide, hrecord⟩⟩, hconfig, hframe, ?_, trivial⟩
  refine ⟨by decide, fun _ ↦ ⟨by decide, Or.inr fun _ ↦ ?_⟩⟩
  exact ⟨fun _ ↦ by decide, fun _ ↦ by decide⟩

/-- A client that is sent these chunks receives these messages. -/
theorem messages_avcAac :
    (recvRun (rtmpRecvData (playing blankClient (ascii "rtmp://host/live") (ascii "live") [])
      fun _ ↦ 0) [zeroHandshake, (Sender.init 128 fun _ ↦ 0).stream avcAacChunks]
        ).client.rtmpMessages = avcAacMessages := by
  decide +kernel

/-- The application of this client. -/
theorem rtmpRecvData_serves_messages_avcAac :
    let c₀ := playing blankClient (ascii "rtmp://host/live") (ascii "live") []
    let c := (recvRun (rtmpRecvData c₀ fun _ ↦ 0)
      [zeroHandshake, (Sender.init 128 fun _ ↦ 0).stream avcAacChunks]).client
    c.rtmpMessages = avcAacMessages ∧
      c.application =
        (c.rtmpMessages.foldl RtmpClient.serveMessage (connecting c₀)).application := by
  refine ⟨messages_avcAac, rtmpRecvData_serves_messages blankClient (by decide)
    (ascii "rtmp://host/live") (ascii "live") [] (fun _ ↦ 0) _ ?_ ?_⟩
  · rw [messages_avcAac]
    exact List.cons_ne_nil _ _
  · rw [messages_avcAac]
    exact allWithin_avcAac _

end RtmpRecv.Client
