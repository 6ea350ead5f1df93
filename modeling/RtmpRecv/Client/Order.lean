import RtmpRecv.Client.Replies
import RtmpRecv.Client.Windows

/-!
# The order of a session

Library `Client`. What a client sends from `rtmp_start_play` on, when every `Send` succeeds: the
packets of one session, in order, each once its cause is there.
-/

namespace RtmpRecv.Client
open RtmpRecv.Base

/-- The packets of a session. -/
def sessionPackets (timeNow timeNow' acknowledgementSize rtmpNowStreamId : Nat)
    (rtmpUrl rtmpApp rtmpStream : List UInt8) : List (List UInt8) :=
  [c0c1Packet timeNow, c2Packet timeNow', connectRequest rtmpApp rtmpUrl,
    createStreamPacket acknowledgementSize, getStreamLengthRequest rtmpStream,
    playRequest rtmpNowStreamId rtmpStream, setBufferLengthEvent]

/-- The number of packets that have been sent in this status. -/
def RtmpStatus.packets : RtmpStatus → Nat
  | .waitS0S1 => 1
  | .waitS2 => 2
  | .waitConnect => 3
  | .waitCreateStream => 4
  | .waitPlay => 7
  | _ => 0

/-- The call handles a `_result` in this status. -/
def ChunkCall.TakesResult (call : ChunkCall) (status : RtmpStatus) : Prop :=
  call.client.rtmpStatus = status ∧
    ∃ m dataLen src, call.Command m dataLen ∧ resultArgs m dataLen = some src

/-- The answer to `connect` has been handled. -/
def ConnectAnswered (calls : List ChunkCall) : Prop :=
  ∃ call ∈ calls, call.TakesResult .waitConnect

/-- The answer to `connect` has been handled, and after it the one to `createStream`. -/
def StreamAnswered (calls : List ChunkCall) : Prop :=
  ∃ before call after, calls = before ++ call :: after ∧ ConnectAnswered before ∧
    call.TakesResult .waitCreateStream

/-- The status never went down, up to `status`. -/
def Advancing (calls : List ChunkCall) (status : RtmpStatus) : Prop :=
  (calls.map (fun call ↦ call.client.rtmpStatus.toNat) ++ [status.toNat]).Pairwise (· ≤ ·)

/-! ### The invariant -/

/-- The session has come as far as its status says. -/
structure InOrder (rtmpUrl rtmpApp rtmpStream : List UInt8) (calls : List ChunkCall)
    (s : SessionState) : Prop where
  url : s.rtmpUrl = rtmpUrl
  app : s.rtmpApp = rtmpApp
  stream : s.rtmpStream = rtmpStream
  sends : ∀ n, 0 ≤ s.sendResult n
  status : s.rtmpStatus = .waitS0S1 ∨ s.rtmpStatus = .waitS2 ∨ s.rtmpStatus = .waitConnect ∨
    s.rtmpStatus = .waitCreateStream ∨ s.rtmpStatus = .waitPlay
  sent : ∃ timeNow timeNow' acknowledgementSize rtmpNowStreamId,
    s.sent = (sessionPackets timeNow timeNow' acknowledgementSize rtmpNowStreamId rtmpUrl rtmpApp
      rtmpStream).take s.rtmpStatus.packets
  connect : 4 ≤ s.rtmpStatus.packets → ConnectAnswered calls
  create : 5 ≤ s.rtmpStatus.packets → StreamAnswered calls
  advancing : Advancing calls s.rtmpStatus

theorem Advancing.mono {calls : List ChunkCall} {status status' : RtmpStatus}
    (h : Advancing calls status) (hle : status.toNat ≤ status'.toNat) :
    Advancing calls status' := by
  unfold Advancing at h ⊢
  rw [List.pairwise_append] at h ⊢
  refine ⟨h.1, List.pairwise_singleton _ _, fun a ha b hb ↦ ?_⟩
  have hlast := h.2.2 a ha status.toNat (List.mem_singleton.2 rfl)
  rw [List.mem_singleton.1 hb]
  omega

theorem Advancing.snoc {calls : List ChunkCall} {call : ChunkCall} {status : RtmpStatus}
    (h : Advancing calls call.client.rtmpStatus)
    (hle : call.client.rtmpStatus.toNat ≤ status.toNat) : Advancing (calls ++ [call]) status := by
  unfold Advancing at h ⊢
  rw [List.map_append, List.map_singleton, List.pairwise_append]
  refine ⟨h, List.pairwise_singleton _ _, fun a ha b hb ↦ ?_⟩
  rw [List.mem_singleton.1 hb]
  rcases List.mem_append.1 ha with ha | ha
  · have hlast := (List.pairwise_append.1 h).2.2 a ha _ (List.mem_singleton.2 rfl)
    omega
  · rw [List.mem_singleton.1 ha]
    exact hle

theorem ConnectAnswered.append {calls : List ChunkCall} (h : ConnectAnswered calls)
    (more : List ChunkCall) : ConnectAnswered (calls ++ more) := by
  obtain ⟨call, hmem, hresult⟩ := h
  exact ⟨call, List.mem_append_left _ hmem, hresult⟩

theorem StreamAnswered.append {calls : List ChunkCall} (h : StreamAnswered calls)
    (more : List ChunkCall) : StreamAnswered (calls ++ more) := by
  obtain ⟨before, call, after, hcalls, hconnect, hresult⟩ := h
  exact ⟨before, call, after ++ more, by rw [hcalls, List.append_assoc, List.cons_append],
    hconnect, hresult⟩

section

variable {rtmpUrl rtmpApp rtmpStream : List UInt8} {calls : List ChunkCall} {s : SessionState}

/-- C2 comes next. -/
theorem InOrder.answered (h : InOrder rtmpUrl rtmpApp rtmpStream calls s)
    (hstatus : s.rtmpStatus = .waitS0S1) (timeNow : Nat) :
    InOrder rtmpUrl rtmpApp rtmpStream calls (s.answered timeNow) := by
  obtain ⟨t, t', a, i, hsent⟩ := h.sent
  rw [hstatus] at hsent
  constructor
  · exact h.url
  · exact h.app
  · exact h.stream
  · exact fun n ↦ h.sends (n + 1)
  · simp
  · refine ⟨t, timeNow, a, i, ?_⟩
    change s.sent ++ [c2Packet timeNow] = _
    rw [hsent]
    rfl
  · intro hle
    exact absurd hle (by simp [RtmpStatus.packets])
  · intro hle
    exact absurd hle (by simp [RtmpStatus.packets])
  · apply h.advancing.mono
    rw [hstatus]
    simp [RtmpStatus.toNat]

/-- `connect` comes next. -/
theorem InOrder.connecting (h : InOrder rtmpUrl rtmpApp rtmpStream calls s)
    (hstatus : s.rtmpStatus = .waitS2) :
    InOrder rtmpUrl rtmpApp rtmpStream calls s.connecting := by
  obtain ⟨t, t', a, i, hsent⟩ := h.sent
  rw [hstatus] at hsent
  constructor
  · exact h.url
  · exact h.app
  · exact h.stream
  · exact fun n ↦ h.sends (n + 1)
  · simp
  · refine ⟨t, t', a, i, ?_⟩
    change s.sent ++ [connectRequest s.rtmpApp s.rtmpUrl] = _
    rw [hsent, h.app, h.url]
    rfl
  · intro hle
    exact absurd hle (by simp [RtmpStatus.packets])
  · intro hle
    exact absurd hle (by simp [RtmpStatus.packets])
  · apply h.advancing.mono
    rw [hstatus]
    simp [RtmpStatus.toNat]

/-- The request for a stream comes next. -/
private theorem InOrder.connected {call : ChunkCall}
    (h : InOrder rtmpUrl rtmpApp rtmpStream calls call.client.session)
    (hresult : call.TakesResult .waitConnect) (acknowledgementSize : Nat) :
    InOrder rtmpUrl rtmpApp rtmpStream (calls ++ [call])
      (call.client.session.connected acknowledgementSize) := by
  have hstatus : call.client.session.rtmpStatus = .waitConnect := hresult.1
  obtain ⟨t, t', a, i, hsent⟩ := h.sent
  rw [hstatus] at hsent
  constructor
  · exact h.url
  · exact h.app
  · exact h.stream
  · exact fun n ↦ h.sends (n + 1)
  · simp
  · refine ⟨t, t', acknowledgementSize, i, ?_⟩
    change call.client.session.sent ++ [createStreamPacket acknowledgementSize] = _
    rw [hsent]
    rfl
  · exact fun _ ↦ ⟨call, List.mem_append_right _ (List.mem_singleton_self _), hresult⟩
  · intro hle
    exact absurd hle (by simp [RtmpStatus.packets])
  · apply h.advancing.snoc
    rw [hresult.1]
    simp [RtmpStatus.toNat]

/-- The requests for the stream come next. -/
private theorem InOrder.asking {call : ChunkCall}
    (h : InOrder rtmpUrl rtmpApp rtmpStream calls call.client.session)
    (hresult : call.TakesResult .waitCreateStream) (id : Nat) :
    InOrder rtmpUrl rtmpApp rtmpStream (calls ++ [call]) (call.client.session.asking id) := by
  have hstatus : call.client.session.rtmpStatus = .waitCreateStream := hresult.1
  have hconnect : ConnectAnswered calls := by
    apply h.connect
    rw [hstatus]
    decide
  obtain ⟨t, t', a, i, hsent⟩ := h.sent
  rw [hstatus] at hsent
  constructor
  · exact h.url
  · exact h.app
  · exact h.stream
  · exact fun n ↦ h.sends (n + 1 + 1 + 1)
  · simp
  · refine ⟨t, t', a, id, ?_⟩
    change call.client.session.sent ++ [getStreamLengthRequest call.client.session.rtmpStream] ++
      [playRequest id call.client.session.rtmpStream] ++ [setBufferLengthEvent] = _
    rw [hsent, h.stream]
    rfl
  · exact fun _ ↦ hconnect.append [call]
  · exact fun _ ↦ ⟨calls, call, [], rfl, hconnect, hresult⟩
  · apply h.advancing.snoc
    rw [hresult.1]
    simp [RtmpStatus.toNat]

/-- A call goes on in the order. -/
theorem InOrder.call {call : ChunkCall}
    (h : InOrder rtmpUrl rtmpApp rtmpStream calls call.client.session) :
    InOrder rtmpUrl rtmpApp rtmpStream (calls ++ [call]) call.after.session := by
  have hstep := sessionStep_after call
  generalize call.after.session = after at hstep ⊢
  cases hstep with
  | same =>
    exact
      { h with
        connect := fun hle ↦ (h.connect hle).append [call]
        create := fun hle ↦ (h.create hle).append [call]
        advancing := h.advancing.snoc (Nat.le_refl _) }
  | connects hc hargs hstatus => exact h.connected ⟨hstatus, _, _, _, hc, hargs⟩ _
  | asks hc hargs hstatus _ => exact h.asking ⟨hstatus, _, _, _, hc, hargs⟩ _

end

/-- The last two statuses of a trace. -/
theorem Advancing.last {calls : List ChunkCall} {call : ChunkCall} {status : RtmpStatus}
    (h : Advancing (calls ++ [call]) status) : call.client.rtmpStatus.toNat ≤ status.toNat := by
  unfold Advancing at h
  rw [List.map_append, List.map_singleton] at h
  exact (List.pairwise_append.1 h).2.2 _ (List.mem_append_right _ (List.mem_singleton.2 rfl)) _
    (List.mem_singleton.2 rfl)

/-- All that `rtmp_recv_data` does goes on in the order, and never back behind a status. -/
theorem keptByTrace_inOrder (rtmpUrl rtmpApp rtmpStream : List UInt8) (k : Nat) :
    KeptByTrace fun calls c ↦
      InOrder rtmpUrl rtmpApp rtmpStream calls c.session ∧ k ≤ c.session.rtmpStatus.toNat where
  rewound _ _ h := h
  answer calls c hstatus h := by
    have hk := h.2
    rw [session_sendC2 (h.1.sends 0)]
    change k ≤ c.rtmpStatus.toNat at hk
    rw [hstatus] at hk
    exact ⟨h.1.answered hstatus _, Nat.le_trans hk (by simp [RtmpStatus.toNat])⟩
  connect calls c hstatus h := by
    have hk := h.2
    rw [session_sendConnect (h.1.sends 0)]
    change k ≤ c.rtmpStatus.toNat at hk
    rw [hstatus] at hk
    exact ⟨h.1.connecting hstatus, Nat.le_trans hk (by simp [RtmpStatus.toNat])⟩
  call calls call h := ⟨h.1.call, Nat.le_trans h.2 h.1.call.advancing.last⟩

/-! ### Bytes received -/

/-- The bytes that this status asks for have come. -/
structure Received (status : RtmpStatus) (total : Nat) : Prop where
  first : status ≠ .waitS0S1 → 1537 ≤ total
  second : status ≠ .waitS0S1 → status ≠ .waitS2 → 3073 ≤ total

private theorem received_of_le {status : RtmpStatus} {total : Nat} (h : 3073 ≤ total) :
    Received status total :=
  ⟨fun _ ↦ by omega, fun _ _ ↦ h⟩

theorem Received.mono {status : RtmpStatus} {total total' : Nat} (h : Received status total)
    (hle : total ≤ total') : Received status total' :=
  ⟨fun h1 ↦ Nat.le_trans (h.first h1) hle, fun h1 h2 ↦ Nat.le_trans (h.second h1 h2) hle⟩

/-- A round does not send before its bytes are there. -/
private theorem received_recvStep {s : RecvState} {data : List UInt8} (hr : s.running = true)
    (hh : s.Holds data) (hstatus : s.client.rtmpStatus ≠ .sendC0C1)
    (hsend : ∀ n, 0 ≤ s.client.host.sendResult n) (bytes : List UInt8) :
    Received (recvStep s bytes).client.rtmpStatus (data.length + bytes.length) := by
  have hlow := hh.low
  obtain ⟨n, hn⟩ : ∃ n : Nat, s.size + bytes.length = n :=
    ⟨(s.size + bytes.length).toNat, by omega⟩
  have hanswer : (rtmpSendToServerC2 s.client.rewound).1 = s.client.host.sendResult 0 :=
    ret_sendC2 _
  have hconnect : (rtmpSendToServerConnect s.client.rewound).1 = s.client.host.sendResult 0 :=
    ret_sendConnect _
  have hagain : (rtmpSendToServerConnect (answered s.client.rewound)).1 =
      s.client.host.sendResult 1 := by
    have hsession := congrArg (fun s ↦ s.sendResult 0)
      (session_sendC2 (c := s.client.rewound) (hsend 0))
    exact (ret_sendConnect _).trans hsession
  have h0 := hsend 0
  have h1 := hsend 1
  have hstep := handshakeStep_handshake (c := s.client.rewound) (n := n) hh.status
  rw [recvStep_eq hr, hn]
  generalize s.mPBuffer.memcpy s.size.toNat bytes = m
  generalize handshake s.client.rewound n = out at hstep ⊢
  cases hstep with
  | waits h =>
    rcases h with h | ⟨h, -⟩ | ⟨h, -⟩
    · exact absurd h hstatus
    · have hidle : ¬RtmpStatus.waitChunk.toNat < s.client.rewound.rtmpStatus.toNat := by
        rw [h]
        decide
      rw [afterHandshake_wait s m n 0 n hidle]
      exact ⟨fun hne ↦ absurd h hne, fun hne ↦ absurd h hne⟩
    · have hidle : ¬RtmpStatus.waitChunk.toNat < s.client.rewound.rtmpStatus.toNat := by
        rw [h]
        decide
      have hsecond := hh.second h
      rw [afterHandshake_wait s m n 0 n hidle]
      exact ⟨fun _ ↦ by omega, fun _ hne ↦ absurd h hne⟩
  | notAnswered _ _ hret => omega
  | answers hfirst hn1 _ hret =>
    have hsize := (hh.first (Or.inl hfirst)).1
    have hs2 := status_answered hret
    have hidle : ¬RtmpStatus.waitChunk.toNat < (answered s.client.rewound).rtmpStatus.toNat := by
      rw [hs2]
      decide
    rw [afterHandshake_wait s m n _ _ hidle]
    exact ⟨fun _ ↦ by omega, fun _ hne ↦ absurd hs2 hne⟩
  | notConnected _ _ _ hret => omega
  | answersConnects hfirst hn1 _ _ =>
    have hsize := (hh.first (Or.inl hfirst)).1
    exact received_of_le (by omega)
  | notConnectedLater _ _ hret => omega
  | connects h2 hn2 _ =>
    have hsize := hh.second h2
    exact received_of_le (by omega)
  | parses hparse =>
    have htotal := (hh.parsed hparse).1
    exact received_of_le (by omega)

/-! ### Runs -/

/-- What has been sent, and why. -/
structure SessionOrder (rtmpUrl rtmpApp rtmpStream : List UInt8) (received : Nat)
    (calls : List ChunkCall) (c : RtmpClient) : Prop where
  sent : ∃ timeNow timeNow' acknowledgementSize rtmpNowStreamId,
    c.sent <+: sessionPackets timeNow timeNow' acknowledgementSize rtmpNowStreamId rtmpUrl rtmpApp
      rtmpStream
  answer : 2 ≤ c.sent.length → 1537 ≤ received
  connect : 3 ≤ c.sent.length → 3073 ≤ received
  createStream : 4 ≤ c.sent.length → ConnectAnswered calls
  play : 5 ≤ c.sent.length → StreamAnswered calls
  advancing : Advancing calls c.rtmpStatus

/-- The number of packets tells the status. -/
private theorem InOrder.length_sent {rtmpUrl rtmpApp rtmpStream : List UInt8}
    {calls : List ChunkCall} {s : SessionState}
    (h : InOrder rtmpUrl rtmpApp rtmpStream calls s) : s.sent.length = s.rtmpStatus.packets := by
  obtain ⟨t, t', a, i, hsent⟩ := h.sent
  have hle : s.rtmpStatus.packets ≤ 7 := by
    cases s.rtmpStatus with
    | _ => decide
  rw [hsent, List.length_take]
  exact Nat.min_eq_left hle

/-- A session in order that has received its bytes. -/
private theorem InOrder.sessionOrder {rtmpUrl rtmpApp rtmpStream : List UInt8}
    {calls : List ChunkCall} {c : RtmpClient} {received : Nat}
    (h : InOrder rtmpUrl rtmpApp rtmpStream calls c.session)
    (hr : Received c.rtmpStatus received) :
    SessionOrder rtmpUrl rtmpApp rtmpStream received calls c := by
  have hlen : c.sent.length = c.rtmpStatus.packets := h.length_sent
  obtain ⟨t, t', a, i, hsent⟩ := h.sent
  constructor
  · refine ⟨t, t', a, i, ?_⟩
    have hprefix := List.take_prefix c.session.rtmpStatus.packets
      (sessionPackets t t' a i rtmpUrl rtmpApp rtmpStream)
    rw [← hsent] at hprefix
    exact hprefix
  · intro hle
    apply hr.first
    intro hstatus
    rw [hlen, hstatus] at hle
    exact absurd hle (by decide)
  · intro hle
    apply hr.second
    · intro hstatus
      rw [hlen, hstatus] at hle
      exact absurd hle (by decide)
    · intro hstatus
      rw [hlen, hstatus] at hle
      exact absurd hle (by decide)
  · intro hle
    apply h.connect
    rw [hlen] at hle
    exact hle
  · intro hle
    apply h.create
    rw [hlen] at hle
    exact hle
  · exact h.advancing

/-- The session of a client that has started. -/
theorem session_playing {u : RtmpClient} (h : (rtmpStartPlay (rtmpClient u)).1 = 0)
    (hsend : 0 ≤ u.host.sendResult 0) (rtmpUrl rtmpApp rtmpStream : List UInt8) :
    (playing u rtmpUrl rtmpApp rtmpStream).session =
      ⟨[c0c1Packet (u.host.timeNow 0)], .waitS0S1, rtmpUrl, rtmpApp, rtmpStream,
        u.rtmpNowStreamId, fun n ↦ u.host.sendResult (n + 1)⟩ := by
  unfold playing
  rw [rtmpStartPlay_eq ((rtmpStartPlay_newClient u rtmpUrl rtmpApp rtmpStream).trans h)]
  unfold rtmpSendToServerC0C1 newClient rtmpClient
  dsimp only [RtmpClient.time, RtmpClient.send]
  rw [if_neg (by omega), c0c1Packet_eq]
  rfl

/-- A client that has started is in order. -/
theorem inOrder_playing {u : RtmpClient} (h : (rtmpStartPlay (rtmpClient u)).1 = 0)
    (hsend : ∀ n, 0 ≤ u.host.sendResult n) (rtmpUrl rtmpApp rtmpStream : List UInt8) :
    InOrder rtmpUrl rtmpApp rtmpStream [] (playing u rtmpUrl rtmpApp rtmpStream).session := by
  rw [session_playing h (hsend 0)]
  exact
    { url := rfl, app := rfl, stream := rfl, sends := fun n ↦ hsend (n + 1)
      status := Or.inl rfl, sent := ⟨u.host.timeNow 0, 0, 0, 0, rfl⟩
      connect := fun hle ↦ absurd hle (by simp [RtmpStatus.packets])
      create := fun hle ↦ absurd hle (by simp [RtmpStatus.packets])
      advancing := List.pairwise_singleton _ _ }

/-- Every status before the last one was not above it. -/
theorem Advancing.le {calls : List ChunkCall} {call : ChunkCall} {status : RtmpStatus}
    (h : Advancing calls status) (hcall : call ∈ calls) :
    call.client.rtmpStatus.toNat ≤ status.toNat :=
  (List.pairwise_append.1 h).2.2 _ (List.mem_map_of_mem hcall) _ (List.mem_singleton.2 rfl)

/-- The bytes for a status have come when those for a later one have. -/
theorem Received.earlier {status status' : RtmpStatus} {total : Nat} (h : Received status' total)
    (hle : status.toNat ≤ status'.toNat)
    (hstatus : status = .waitS0S1 ∨ status = .waitS2 ∨ status = .waitConnect ∨
      status = .waitCreateStream ∨ status = .waitPlay) : Received status total := by
  rcases hstatus with rfl | rfl | rfl | rfl | rfl
  · exact ⟨fun hne ↦ absurd rfl hne, fun hne ↦ absurd rfl hne⟩
  · refine ⟨fun _ ↦ h.first ?_, fun _ hne ↦ absurd rfl hne⟩
    rintro rfl
    exact absurd hle (by decide)
  all_goals
    apply received_of_le
    apply h.second
    · rintro rfl
      exact absurd hle (by decide)
    · rintro rfl
      exact absurd hle (by decide)

section

variable {rtmpUrl rtmpApp rtmpStream : List UInt8} {c : RtmpClient} (mPBuffer : Mem)

/-- A run does not send before the bytes are there. -/
private theorem received_recvRun (hf : Fresh c.rewound) (hstatus : c.rtmpStatus = .waitS0S1)
    (h : InOrder rtmpUrl rtmpApp rtmpStream [] c.session) (segments : List (List UInt8)) :
    Received (recvRun (rtmpRecvData c mPBuffer) segments).client.rtmpStatus
      segments.flatten.length := by
  have hholds : (rtmpRecvData c mPBuffer).Holds [] :=
    .waitS0S1 (Or.inr ⟨hstatus, by decide⟩) rfl rfl rfl
  induction segments using List.reverseRecOn with
  | nil => exact ⟨fun hne ↦ absurd hstatus hne, fun hne ↦ absurd hstatus hne⟩
  | append_singleton segments bytes ih =>
    have horder := ((keptByTrace_inOrder rtmpUrl rtmpApp rtmpStream 0).started
      ⟨h, Nat.zero_le _⟩ mPBuffer segments).now.1
    rw [recvRun_append, List.flatten_append, List.flatten_singleton, List.length_append]
    change Received (recvStep _ bytes).client.rtmpStatus _
    by_cases hr : (recvRun (rtmpRecvData c mPBuffer) segments).running = true
    · have hnow := (holds_recvRun hf.sound hholds segments hr).2
      apply received_recvStep hr hnow _ horder.sends
      intro h0
      have hallowed := horder.status
      change (recvRun _ _).client.session.rtmpStatus = _ at h0
      rw [h0] at hallowed
      simp at hallowed
    · rw [Bool.not_eq_true] at hr
      rw [recvStep_left hr]
      exact ih.mono (Nat.le_add_right _ _)

end

/-- Whatever the server sends and however it is cut, the client sends the packets of a session in
order, each one when its cause is there and once, and its status never goes down. -/
theorem rtmpRecvData_order (u : RtmpClient) (h : (rtmpStartPlay (rtmpClient u)).1 = 0)
    (hsend : ∀ n, 0 ≤ u.host.sendResult n) (rtmpUrl rtmpApp rtmpStream : List UInt8)
    (mPBuffer : Mem) (segments : List (List UInt8)) :
    let start := rtmpRecvData (playing u rtmpUrl rtmpApp rtmpStream) mPBuffer
    let s := recvRun start segments
    SessionOrder rtmpUrl rtmpApp rtmpStream segments.flatten.length s.calls s.client ∧
      (∀ before call after, s.calls = before ++ call :: after →
        SessionOrder rtmpUrl rtmpApp rtmpStream segments.flatten.length before call.client) ∧
      ∀ more, s.client.rtmpStatus.toNat ≤
        (recvRun start (segments ++ more)).client.rtmpStatus.toNat := by
  intro start s
  have hsession := session_playing h (hsend 0) rtmpUrl rtmpApp rtmpStream
  have horder := inOrder_playing h hsend rtmpUrl rtmpApp rtmpStream
  have hstatus : (playing u rtmpUrl rtmpApp rtmpStream).rtmpStatus = .waitS0S1 :=
    congrArg SessionState.rtmpStatus hsession
  have hreceived := received_recvRun mPBuffer (fresh_playing h rtmpUrl rtmpApp rtmpStream) hstatus
    horder segments
  have hheld := (keptByTrace_inOrder rtmpUrl rtmpApp rtmpStream 0).started
    ⟨horder, Nat.zero_le _⟩ mPBuffer segments
  refine ⟨hheld.now.1.sessionOrder hreceived, fun before call after hcalls ↦ ?_, fun more ↦ ?_⟩
  · have hbefore := (hheld.before before call after hcalls (Nat.zero_le _)).1
    have hmem : call ∈ s.calls := by
      rw [hcalls]
      exact List.mem_append_right _ List.mem_cons_self
    exact hbefore.sessionOrder
      (hreceived.earlier (hheld.now.1.advancing.le hmem) hbefore.status)
  · have hlater := ((keptByTrace_inOrder rtmpUrl rtmpApp rtmpStream s.client.rtmpStatus.toNat)
      |>.recvRun_now (s := s) ⟨hheld.now.1, Nat.le_refl _⟩ more).2
    rw [recvRun_append]
    exact hlater

/-- The answers to `connect` and to `createStream`, each sent twice. -/
def repeatedReplies : List UInt8 :=
  resultChunk [0x3f, 0xf0] [] ++ resultChunk [0x40, 0x00] [5, 0, 0x3f, 0xf0, 0, 0, 0, 0, 0, 0] ++
    resultChunk [0x3f, 0xf0] [] ++ resultChunk [0x40, 0x00] [5, 0, 0x3f, 0xf0, 0, 0, 0, 0, 0, 0]

/-- A session that comes in two segments. -/
theorem rtmpRecvData_order_two :
    let start := rtmpRecvData (playing blankClient [] [] []) fun _ ↦ 0
    let s := recvRun start [zeroHandshake.take 2000, zeroHandshake.drop 2000 ++ repeatedReplies]
    SessionOrder [] [] []
        [zeroHandshake.take 2000, zeroHandshake.drop 2000 ++ repeatedReplies].flatten.length
        s.calls s.client ∧
      (∀ before call after, s.calls = before ++ call :: after →
        SessionOrder [] [] []
          [zeroHandshake.take 2000, zeroHandshake.drop 2000 ++ repeatedReplies].flatten.length
          before call.client) ∧
      ∀ more, s.client.rtmpStatus.toNat ≤
        (recvRun start ([zeroHandshake.take 2000, zeroHandshake.drop 2000 ++ repeatedReplies] ++
          more)).client.rtmpStatus.toNat :=
  rtmpRecvData_order blankClient (by decide) (fun _ ↦ Int.le_refl 0) [] [] [] (fun _ ↦ 0)
    [zeroHandshake.take 2000, zeroHandshake.drop 2000 ++ repeatedReplies]

/-- Both answers are taken once, and all seven packets go out. -/
example : (recvRun (rtmpRecvData (playing blankClient [] [] []) fun _ ↦ 0)
    [zeroHandshake, repeatedReplies]).client.sent.length = 7 := by
  decide +kernel

end RtmpRecv.Client
