import RtmpRecv.Client.Handlers

/-!
# What a run does with unset fields

Library `Client`. Two runs on the same bytes, of clients in memory that held different values: they
do the same as long as every call of `rtmp_process_chunk` reads only fields that an earlier call
has set.
-/

namespace RtmpRecv.Client
open RtmpRecv.Base RtmpRecv.Amf0 RtmpRecv.Tots

/-- No call has set the field. -/
def Unset (calls : List ChunkCall) (f : UnsetField) : Prop := ∀ call ∈ calls, ¬call.Sets f

/-- Every call reads only fields that an earlier one has set. -/
def ReadsSet (calls : List ChunkCall) : Prop :=
  ∀ i, ∀ h : i < calls.length, ∀ f, (calls.get ⟨i, h⟩).Reads f →
    ∃ earlier ∈ calls.take i, earlier.Sets f

instance (calls : List ChunkCall) : Decidable (ReadsSet calls) :=
  inferInstanceAs (Decidable (∀ i, ∀ _ : i < _, ∀ _, _ → _))

theorem unset_snoc {calls : List ChunkCall} {call : ChunkCall} {f : UnsetField}
    (h : Unset calls f ∧ ¬call.Sets f) : Unset (calls ++ [call]) f := by
  intro call' hcall
  rcases List.mem_append.1 hcall with hcall | hcall
  · exact h.1 call' hcall
  · cases List.mem_singleton.1 hcall
    exact h.2

theorem ReadsSet.earlier {calls more : List ChunkCall} (h : ReadsSet (calls ++ more)) :
    ReadsSet calls := by
  intro i hi f hread
  have hlt : i < (calls ++ more).length := by
    rw [List.length_append]
    omega
  have hget : (calls ++ more).get ⟨i, hlt⟩ = calls.get ⟨i, hi⟩ := List.getElem_append_left hi
  have hset := h i hlt f (by rw [hget]; exact hread)
  rwa [List.take_append_of_le_length (by omega)] at hset

/-- A call reads no field that is unset. -/
theorem ReadsSet.call {calls more : List ChunkCall} {call : ChunkCall}
    (h : ReadsSet (calls ++ call :: more)) : ∀ f, Unset calls f → ¬call.Reads f := by
  intro f hunset hread
  have hlt : calls.length < (calls ++ call :: more).length := by simp
  have hget : (calls ++ call :: more).get ⟨calls.length, hlt⟩ = call := by simp
  obtain ⟨earlier, hmem, hsets⟩ := h calls.length hlt f (by rw [hget]; exact hread)
  rw [List.take_left] at hmem
  exact hunset earlier hmem hsets

/-! ### A call -/

/-- The calls end the same: with the same fault, or with the same result and memory and clients that
are the same apart from the fields in `S`. -/
inductive SimilarCall (S : UnsetField → Prop) :
    Except Fault Int × RtmpClient × Mem → Except Fault Int × RtmpClient × Mem → Prop where
  | error (e : Fault) (buf : Mem) {c c' : RtmpClient} (h : Similar (fun _ ↦ True) c c') :
      SimilarCall S (.error e, c, buf) (.error e, c', buf)
  | ok (ret : Int) (buf : Mem) {c c' : RtmpClient} (h : Similar S c c') :
      SimilarCall S (.ok ret, c, buf) (.ok ret, c', buf)

private theorem similar_recorded {S : UnsetField → Prop} {c c' : RtmpClient} (h : Similar S c c')
    (chunkId : Nat) (data : MessageData) (dataLen : Int) (buf : Mem) :
    Similar S (recorded c chunkId data dataLen buf) (recorded c' chunkId data dataLen buf) := by
  have hmessage : messageOf c' chunkId data dataLen buf = messageOf c chunkId data dataLen buf := by
    unfold messageOf
    rw [h.chunk]
  unfold recorded
  rw [hmessage]
  exact { h with messages := congrArg (· ++ [_]) h.messages }

private theorem similar_deliver {S : UnsetField → Prop} {c c' : RtmpClient} (h : Similar S c c')
    (chunkId : Nat) (data : MessageData) (dataLen : Int) (buf : Mem)
    (hread : ∀ f, S f →
      ¬HandlerReads c (c.rtmpChunk chunkId).messageType (data.mem buf) dataLen f) :
    SimilarCall
      (fun f ↦ S f ∧ ¬HandlerSets (c.rtmpChunk chunkId).messageType (data.mem buf) dataLen f)
      (deliver c chunkId data dataLen buf) (deliver c' chunkId data dataLen buf) := by
  have hrecorded := similar_recorded h chunkId data dataLen buf
  have hhandler := similar_processMessage hrecorded (c.rtmpChunk chunkId) dataLen (data.mem buf)
    hread
  have hrun : handlerRun c chunkId data dataLen buf =
      (rtmpProcessMessage (recorded c chunkId data dataLen buf) (c.rtmpChunk chunkId) dataLen).run
        (data.mem buf) := rfl
  have hrun' : handlerRun c' chunkId data dataLen buf =
      (rtmpProcessMessage (recorded c' chunkId data dataLen buf) (c.rtmpChunk chunkId) dataLen).run
        (data.mem buf) := by
    rw [← h.chunk]
    rfl
  unfold deliver
  rw [hrun, hrun']
  generalize (rtmpProcessMessage (recorded c chunkId data dataLen buf) _ _).run _ = r at hhandler ⊢
  generalize
    (rtmpProcessMessage (recorded c' chunkId data dataLen buf) _ _).run _ = r' at hhandler ⊢
  cases hhandler with
  | error e m => exact .error e buf (hrecorded.mono fun _ _ ↦ trivial)
  | @ok ret m d d' hd =>
    cases data with
    | window off => exact .ok ret _ hd
    | messageBuf b =>
      dsimp only
      rw [hd.chunk]
      exact .ok ret buf (similar_setChunk hd chunkId _)

theorem SimilarCall.mono {S T : UnsetField → Prop} {r r' : Except Fault Int × RtmpClient × Mem}
    (h : SimilarCall S r r') (hST : ∀ f, S f → T f) : SimilarCall T r r' := by
  cases h with
  | error e buf h => exact .error e buf h
  | ok ret buf h => exact .ok ret buf (h.mono hST)

/-- The call does the same on both clients unless it reads an unset field. -/
theorem similar_rtmpProcessChunk {S : UnsetField → Prop} {call : ChunkCall} {c' : RtmpClient}
    (h : Similar S call.client c') (hread : ∀ f, S f → ¬call.Reads f) :
    SimilarCall (fun f ↦ S f ∧ ¬call.Sets f)
      (rtmpProcessChunk call.client call.bufdata call.datalen)
      (rtmpProcessChunk c' call.bufdata call.datalen) := by
  have hstep := similar_chunkStep h fun f hS hr ↦ hread f hS (Or.inl hr)
  have hreads : ∀ f, S f → ¬call.Hands fun c type m dataLen ↦ HandlerReads c type m dataLen f :=
    fun f hS hr ↦ hread f hS (Or.inr hr)
  have hsets : ∀ f, ¬call.HeaderSets f →
      (¬call.Hands fun _ type m dataLen ↦ HandlerSets type m dataLen f) → ¬call.Sets f :=
    fun f hheader hhands hs ↦ hs.elim hheader hhands
  unfold ChunkCall.Hands at hsets hreads
  unfold rtmpProcessChunk
  generalize chunkStep call.client call.bufdata call.datalen = step at hstep hsets hreads ⊢
  generalize chunkStep c' call.bufdata call.datalen = step' at hstep ⊢
  cases hstep with
  | ret r h => exact .ok r _ (h.mono fun f hf ↦ ⟨hf.1, hsets f hf.2 id⟩)
  | fault e h => exact .error e _ (h.mono fun _ _ ↦ trivial)
  | message chunkId data dataLen h =>
    have hcall := similar_deliver h chunkId data dataLen call.bufdata fun f hf ↦ hreads f hf.1
    exact hcall.mono fun f hf ↦ ⟨hf.1.1, hsets f hf.1.2 hf.2⟩

/-! ### Rounds -/

/-- The inner loops have stopped the same. -/
inductive SimilarLoop (S : UnsetField → Prop) : LoopEnd → LoopEnd → Prop where
  | error (e : Fault) (mem : Mem) (calls calls' : List ChunkCall) {c c' : RtmpClient}
      (h : Similar (fun _ ↦ True) c c') :
      SimilarLoop S ⟨.error e, c, mem, calls⟩ ⟨.error e, c', mem, calls'⟩
  | ok (ret : Int) (mem : Mem) (calls calls' : List ChunkCall) {c c' : RtmpClient}
      (h : Similar S c c') : SimilarLoop S ⟨.ok ret, c, mem, calls⟩ ⟨.ok ret, c', mem, calls'⟩

private theorem SimilarLoop.withCalls {S : UnsetField → Prop} {r r' : LoopEnd}
    (h : SimilarLoop S r r') (calls calls' : List ChunkCall) :
    SimilarLoop S { r with calls := calls } { r' with calls := calls' } := by
  cases h with
  | error e mem _ _ h => exact .error e mem calls calls' h
  | ok ret mem _ _ h => exact .ok ret mem calls calls' h

theorem similar_chunkLoop (fuel : Nat) {calls : List ChunkCall} {c c' : RtmpClient}
    (h : Similar (Unset calls) c c') (mem : Mem) (size : Int)
    (hreads : ReadsSet (calls ++ (chunkLoop fuel c mem size).calls)) :
    SimilarLoop (Unset (calls ++ (chunkLoop fuel c mem size).calls)) (chunkLoop fuel c mem size)
      (chunkLoop fuel c' mem size) := by
  induction fuel generalizing calls c c' mem with
  | zero => exact .error _ _ _ _ (h.mono fun _ _ ↦ trivial)
  | succ fuel ih =>
    obtain ⟨call, hcall⟩ : ∃ call : ChunkCall,
      call = ⟨c, mem.shift c.mIParsePos.toNat, size - c.mIParsePos⟩ := ⟨_, rfl⟩
    have hclient : call.client = c := by rw [hcall]
    have hbufdata : call.bufdata = mem.shift c.mIParsePos.toNat := by rw [hcall]
    have hdatalen : call.datalen = size - c.mIParsePos := by rw [hcall]
    have hcalls : ∃ more, (chunkLoop (fuel + 1) c mem size).calls = call :: more := by
      rw [chunkLoop_succ, ← hcall]
      dsimp only
      split
      · exact ⟨[], rfl⟩
      · split
        · exact ⟨_, rfl⟩
        · exact ⟨[], rfl⟩
    have hread : ∀ f, Unset calls f → ¬call.Reads f := by
      obtain ⟨more, hmore⟩ := hcalls
      rw [hmore] at hreads
      exact hreads.call
    rw [← hclient] at h
    have hsame := similar_rtmpProcessChunk h hread
    have hpos : c'.mIParsePos = c.mIParsePos := by rw [h.parsePos, hclient]
    rw [chunkLoop_succ, ← hcall] at hreads ⊢
    rw [chunkLoop_succ, hpos, ← hbufdata, ← hdatalen]
    dsimp only at hreads ⊢
    generalize rtmpProcessChunk call.client call.bufdata call.datalen = out at hsame hreads ⊢
    generalize rtmpProcessChunk c' call.bufdata call.datalen = out' at hsame ⊢
    cases hsame with
    | error e buf h => exact .error e _ _ _ h
    | @ok ret buf d d' hd =>
      dsimp only at hreads ⊢
      have hnext : Similar (Unset (calls ++ [call])) d d' := hd.mono fun _ ↦ unset_snoc
      by_cases hzero : ret = 0
      · rw [if_pos hzero] at hreads ⊢
        rw [if_pos hzero]
        dsimp only at hreads ⊢
        rw [List.append_cons] at hreads ⊢
        exact (ih hnext _ hreads).withCalls _ _
      · rw [if_neg hzero, if_neg hzero]
        exact .ok ret _ _ _ hnext

/-! ### The handshake -/

section

variable {S : UnsetField → Prop} {c c' : RtmpClient}

private theorem similar_sendThen (h : Similar S c c') {bytes bytes' : List UInt8}
    (hbytes : SamePacket bytes bytes') (status : RtmpStatus) :
    (sendThen c' bytes' status).1 = (sendThen c bytes status).1 ∧
      Similar S (sendThen c bytes status).2 (sendThen c' bytes' status).2 := by
  obtain ⟨hret, hsent⟩ := similar_send h hbytes
  unfold sendThen
  generalize c.send bytes = out at hret hsent ⊢
  generalize c'.send bytes' = out' at hret hsent ⊢
  dsimp only
  rw [hret]
  split
  · exact ⟨rfl, hsent⟩
  · exact ⟨rfl, { hsent with status := rfl }⟩

private theorem similar_time (h : Similar S c c') (status : RtmpStatus) :
    Similar S { c.time.2 with rtmpStatus := status } { c'.time.2 with rtmpStatus := status } :=
  { h with status := rfl }

private theorem similar_sendC0C1 (h : Similar S { c with rtmpStatus := .sendC0C1 }
    { c' with rtmpStatus := .sendC0C1 }) :
    Similar S (rtmpSendToServerC0C1 c).2 (rtmpSendToServerC0C1 c').2 := by
  have heq (c : RtmpClient) : rtmpSendToServerC0C1 c =
      sendThen { c.time.2 with rtmpStatus := .sendC0C1 } (c0c1Packet c.time.1) .waitS0S1 := by
    rw [c0c1Packet_eq]
    rfl
  rw [heq, heq]
  exact (similar_sendThen (similar_time h _) (.c0c1 _ _) _).2

private theorem similar_sendC2 (h : Similar S c c') :
    (rtmpSendToServerC2 c').1 = (rtmpSendToServerC2 c).1 ∧
      Similar S (rtmpSendToServerC2 c).2 (rtmpSendToServerC2 c').2 := by
  have heq (c : RtmpClient) : rtmpSendToServerC2 c =
      sendThen { c.time.2 with rtmpStatus := .sendC2 } (c2Packet c.time.1) .waitS2 := by
    rw [c2Packet_eq]
    rfl
  rw [heq, heq]
  exact similar_sendThen (similar_time h _) (.c2 _ _) _

private theorem similar_sendConnect (h : Similar S c c') :
    (rtmpSendToServerConnect c').1 = (rtmpSendToServerConnect c).1 ∧
      Similar S (rtmpSendToServerConnect c).2 (rtmpSendToServerConnect c').2 := by
  unfold rtmpSendToServerConnect
  rw [h.app, h.url]
  generalize connectPacket c.rtmpApp c.rtmpUrl = w
  exact similar_sendThen h (.same _) .waitConnect

private theorem similar_handshakeS0S1 (h : Similar S c c') (size : Int) :
    (handshakeS0S1 c' size).2 = (handshakeS0S1 c size).2 ∧
      Similar S (handshakeS0S1 c size).1 (handshakeS0S1 c' size).1 := by
  obtain ⟨hret, hsent⟩ := similar_sendC2 h
  unfold handshakeS0S1
  rw [h.status]
  generalize rtmpSendToServerC2 c = out at hret hsent ⊢
  generalize rtmpSendToServerC2 c' = out' at hret hsent ⊢
  dsimp only
  rw [hret]
  split
  · split
    · exact ⟨rfl, hsent⟩
    · exact ⟨rfl, hsent⟩
  · exact ⟨rfl, h⟩

private theorem similar_handshakeS2 (h : Similar S c c') (pos : Nat) (size : Int) :
    (handshakeS2 c' pos size).2 = (handshakeS2 c pos size).2 ∧
      Similar S (handshakeS2 c pos size).1 (handshakeS2 c' pos size).1 := by
  obtain ⟨hret, hsent⟩ := similar_sendConnect h
  unfold handshakeS2
  rw [h.status]
  generalize rtmpSendToServerConnect c = out at hret hsent ⊢
  generalize rtmpSendToServerConnect c' = out' at hret hsent ⊢
  dsimp only
  rw [hret]
  split
  · split
    · exact ⟨rfl, hsent⟩
    · exact ⟨rfl, hsent⟩
  · exact ⟨rfl, h⟩

/-- The handshake does the same, apart from the clock value in C2. -/
private theorem similar_handshake (h : Similar S c c') (size : Int) :
    (handshake c' size).2 = (handshake c size).2 ∧
      Similar S (handshake c size).1 (handshake c' size).1 := by
  obtain ⟨hsplit, hsent⟩ := similar_handshakeS0S1 h size
  unfold handshake
  generalize handshakeS0S1 c size = out at hsplit hsent ⊢
  generalize handshakeS0S1 c' size = out' at hsplit hsent ⊢
  obtain ⟨d, split⟩ := out
  obtain ⟨d', split'⟩ := out'
  dsimp only at hsplit hsent
  subst hsplit
  cases split' with
  | none => exact ⟨rfl, hsent⟩
  | some p => exact similar_handshakeS2 hsent p.1 p.2

end

/-! ### Runs -/

/-- The states of the runs are the same: the clients are, apart from the parse position, which every
round sets, and from what no call has set as long as the loop runs. -/
structure SimilarState (s s' : RecvState) : Prop where
  running : s'.running = s.running
  size : s'.size = s.size
  buffer : s'.mPBuffer = s.mPBuffer
  left : Similar (fun _ ↦ True) s.client.rewound s'.client.rewound
  client : s.running = true → Similar (Unset s.calls) s.client.rewound s'.client.rewound

private theorem similar_rewound {S : UnsetField → Prop} {c c' : RtmpClient} (h : Similar S c c') :
    Similar S c.rewound c'.rewound :=
  { h with parsePos := rfl }

private theorem similar_afterLoop {s s' : RecvState} {r r' : LoopEnd}
    (h : SimilarLoop (Unset (s.calls ++ r.calls)) r r') (m : Mem) (pos : Nat) (size : Int) :
    SimilarState (s.afterLoop m pos size r) (s'.afterLoop m pos size r') := by
  cases h with
  | error e mem calls calls' h => exact ⟨rfl, rfl, rfl, similar_rewound h, nofun⟩
  | ok ret mem calls calls' h =>
    have hrewound := similar_rewound h
    have hleft := hrewound.mono fun _ _ ↦ trivial
    unfold RecvState.afterLoop
    dsimp only
    rw [h.parsePos]
    split
    · exact ⟨rfl, rfl, rfl, hleft, fun _ ↦ hrewound⟩
    · exact ⟨rfl, rfl, rfl, hleft, nofun⟩

/-- A round does the same. -/
theorem similar_recvStep {s s' : RecvState} (h : SimilarState s s') (bytes : List UInt8)
    (hreads : ReadsSet (recvStep s bytes).calls) :
    SimilarState (recvStep s bytes) (recvStep s' bytes) := by
  by_cases hr : s.running = true
  · obtain ⟨hsplit, hclient⟩ := similar_handshake (h.client hr) (s.size + bytes.length)
    rw [recvStep_eq hr] at hreads ⊢
    rw [recvStep_eq (h.running.trans hr), h.size, h.buffer]
    generalize handshake s.client.rewound (s.size + bytes.length) = out at hsplit hclient hreads ⊢
    generalize handshake s'.client.rewound (s.size + bytes.length) = out' at hsplit hclient ⊢
    obtain ⟨c, split⟩ := out
    obtain ⟨c', split'⟩ := out'
    dsimp only at hsplit hclient
    subst hsplit
    have hrewound := similar_rewound hclient
    have hleft := hrewound.mono fun _ _ ↦ trivial
    cases split' with
    | none => exact ⟨rfl, rfl, rfl, hleft, nofun⟩
    | some p =>
      by_cases hparse : RtmpStatus.waitChunk.toNat < c.rtmpStatus.toNat
      · have hparse' : RtmpStatus.waitChunk.toNat < c'.rtmpStatus.toNat := by
          rw [hclient.status]
          exact hparse
        rw [afterHandshake_parse s _ _ p.1 p.2 hparse] at hreads ⊢
        rw [afterHandshake_parse s' _ _ p.1 p.2 hparse']
        rw [RecvState.calls_afterLoop] at hreads
        exact similar_afterLoop (similar_chunkLoop _ hclient _ _ hreads) _ _ _
      · have hparse' : ¬RtmpStatus.waitChunk.toNat < c'.rtmpStatus.toNat := by
          rw [hclient.status]
          exact hparse
        rw [afterHandshake_wait s _ _ p.1 p.2 hparse, afterHandshake_wait s' _ _ p.1 p.2 hparse']
        exact ⟨h.running, rfl, rfl, hleft, fun _ ↦ hrewound⟩
  · have hstays (s : RecvState) (hs : ¬s.running = true) : recvStep s bytes = s := if_pos hs
    rw [hstays s hr, hstays s' (by rw [h.running]; exact hr)]
    exact h

/-- A run does the same. -/
theorem similar_recvRun {s s' : RecvState} (h : SimilarState s s') (segments : List (List UInt8))
    (hreads : ReadsSet (recvRun s segments).calls) :
    SimilarState (recvRun s segments) (recvRun s' segments) := by
  induction segments generalizing s s' with
  | nil => exact h
  | cons bytes rest ih =>
    have hstep : ReadsSet (recvStep s bytes).calls := by
      obtain ⟨more, hmore⟩ := calls_recvRun (recvStep s bytes) rest
      have hall : ReadsSet (recvRun (recvStep s bytes) rest).calls := hreads
      rw [← hmore] at hall
      exact hall.earlier
    exact ih (similar_recvStep h bytes hstep) hreads

/-! ### The start -/

/-- New objects on the same host: the memory that they are built in may have held anything, the
clock may show another time. -/
structure SameHost (u u' : RtmpClient) : Prop where
  host : u'.host = { u.host with timeNow := u'.host.timeNow }
  file : u'.rtmpSavetots.tsFp = u.rtmpSavetots.tsFp

private theorem rewound_sendC0C1 (c : RtmpClient) :
    (rtmpSendToServerC0C1 c).2.rewound = (rtmpSendToServerC0C1 c.rewound).2 := by
  unfold rtmpSendToServerC0C1
  dsimp only [RtmpClient.time, RtmpClient.send, RtmpClient.rewound]
  split
  · rfl
  · rfl

private theorem rtmpTots_withPes (pesBuf pesBuf' : Mem) (tsFp : Bool) (now : Nat) :
    rtmpTots pesBuf' tsFp now = (rtmpTots pesBuf tsFp now).withPes pesBuf' none := by
  unfold rtmpTots RtmpTots.withPes
  rfl

/-- What the constructor has set is the same. -/
private theorem similar_rtmpClient {u u' : RtmpClient} (h : SameHost u u')
    (rtmpUrl rtmpApp rtmpStream : List UInt8) :
    Similar (Unset [])
      { rtmpClient u with
        rtmpUrl := rtmpUrl, rtmpApp := rtmpApp, rtmpStream := rtmpStream
        rtmpChunkMaxSize := 128, mIParsePos := 0, rtmpStatus := .sendC0C1 }
      { rtmpClient u' with
        rtmpUrl := rtmpUrl, rtmpApp := rtmpApp, rtmpStream := rtmpStream
        rtmpChunkMaxSize := 128, mIParsePos := 0, rtmpStatus := .sendC0C1 } := by
  have hunset {P : Prop} {f : UnsetField} (hset : ¬Unset [] f) : P := by
    apply absurd _ hset
    intro call hcall
    cases hcall
  have hclock : u'.host.millisecond = u.host.millisecond := by rw [h.host]
  have htots : rtmpTots u'.rtmpSavetots.pesBuf u'.rtmpSavetots.tsFp (u'.host.millisecond 0) =
      (rtmpTots u.rtmpSavetots.pesBuf u.rtmpSavetots.tsFp (u.host.millisecond 0)).withPes
        u'.rtmpSavetots.pesBuf none := by
    rw [h.file, hclock]
    exact rtmpTots_withPes _ _ _ _
  have hclock' : (fun n ↦ u'.host.millisecond (n + 1)) = fun n ↦ u.host.millisecond (n + 1) := by
    rw [hclock]
  have hsend : u'.host.sendResult = u.host.sendResult := by rw [h.host]
  have hheap : u'.host.heap = u.host.heap := by rw [h.host]
  unfold rtmpClient
  exact {
    messages := rfl, sent := .nil, tots := ⟨_, _, htots⟩
    sendResult := hsend, millisecond := hclock', heap := hheap
    status := rfl, url := rfl, app := rfl, stream := rfl
    chunkSize := rfl, parsePos := rfl, chunk := rfl
    audioTime := hunset, videoTime := hunset, messageType := hunset
    windowSize := hunset, audioHead := hunset, videoHead := hunset }

/-- The clients that start to receive. -/
private theorem similar_playing {u u' : RtmpClient} (h : SameHost u u')
    (hstart : (rtmpStartPlay (rtmpClient u)).1 = 0) (rtmpUrl rtmpApp rtmpStream : List UInt8) :
    Similar (Unset []) (playing u rtmpUrl rtmpApp rtmpStream).rewound
      (playing u' rtmpUrl rtmpApp rtmpStream).rewound := by
  have hstart' : (rtmpStartPlay (rtmpClient u')).1 = 0 := by
    have hsame (u : RtmpClient) : (rtmpStartPlay (rtmpClient u)).1 =
        if u.host.createResult = -1 then -1 else if u.host.connectResult < 0 then -1 else 0 := by
      unfold rtmpStartPlay rtmpClient
      dsimp only
      by_cases hcreate : u.host.createResult = -1
      · rw [if_pos hcreate, if_pos hcreate]
      · rw [if_neg hcreate, if_neg hcreate]
        by_cases hconnect : u.host.connectResult < 0
        · rw [if_pos hconnect, if_pos hconnect]
        · rw [if_neg hconnect, if_neg hconnect]
    rw [hsame] at hstart ⊢
    rw [h.host]
    exact hstart
  have hstarted {u : RtmpClient} (hstart : (rtmpStartPlay (rtmpClient u)).1 = 0) :
      (playing u rtmpUrl rtmpApp rtmpStream).rewound =
        (rtmpSendToServerC0C1 { newClient u rtmpUrl rtmpApp rtmpStream with
          rtmpChunkMaxSize := 128, mIParsePos := 0 }).2 := by
    unfold playing
    rw [rtmpStartPlay_eq ((rtmpStartPlay_newClient u rtmpUrl rtmpApp rtmpStream).trans hstart),
      rewound_sendC0C1]
    rfl
  rw [hstarted hstart, hstarted hstart']
  exact similar_sendC0C1 (similar_rtmpClient h rtmpUrl rtmpApp rtmpStream)

/-- Runs on the same bytes in which every call of `rtmp_process_chunk` reads only fields that an
earlier call has set hand the same messages with the same timestamps to the handlers, send the same
bytes apart from the clock value in C1 and C2, and emit the same transport packets, whatever the
memory of the new objects held. -/
theorem rtmpRecvData_unset {u u' : RtmpClient} (h : SameHost u u')
    (hstart : (rtmpStartPlay (rtmpClient u)).1 = 0) (rtmpUrl rtmpApp rtmpStream : List UInt8)
    (mPBuffer : Mem) (segments : List (List UInt8))
    (hreads : ReadsSet (recvRun (rtmpRecvData (playing u rtmpUrl rtmpApp rtmpStream) mPBuffer)
      segments).calls) :
    SameOutside
      (recvRun (rtmpRecvData (playing u rtmpUrl rtmpApp rtmpStream) mPBuffer) segments).client
      (recvRun (rtmpRecvData (playing u' rtmpUrl rtmpApp rtmpStream) mPBuffer)
        segments).client := by
  have hplaying := similar_playing h hstart rtmpUrl rtmpApp rtmpStream
  have hfirst : SimilarState (rtmpRecvData (playing u rtmpUrl rtmpApp rtmpStream) mPBuffer)
      (rtmpRecvData (playing u' rtmpUrl rtmpApp rtmpStream) mPBuffer) :=
    ⟨rfl, rfl, rfl, hplaying.mono fun _ _ ↦ trivial, fun _ ↦ hplaying⟩
  have hlast := (similar_recvRun hfirst segments hreads).left.outside
  exact ⟨hlast.messages, hlast.sent, hlast.output⟩

/-- An AAC sequence header in a chunk of fmt 0, and a frame of fmt 1 with delta 20. -/
def aacChunks : List UInt8 :=
  [4, 0, 0, 100, 0, 0, 4, 8, 0, 0, 0, 0, 0xaf, 0, 0x12, 0x10,
    0x44, 0, 0, 20, 0, 0, 4, 8, 0xaf, 1, 1, 2]

/-- A client in memory that held other values, and on which the clock shows another time. -/
def usedClient : RtmpClient :=
  { blankClient with
    rtmpLastAudioTimestamp := 5, rtmpLastVideoTimestamp := 6, rtmpLastMessageType := 9
    acknowledgementSize := 7, audioHeadDataLen := 4, videoHeadDataLen := 8, mIParsePos := 11
    host := { blankClient.host with timeNow := fun _ ↦ 12 } }

/-- Both the timestamp and the head data that the frame needs are set by the sequence header. -/
theorem rtmpRecvData_unset_aac :
    SameOutside
      (recvRun (rtmpRecvData (playing blankClient [] [] []) fun _ ↦ 0)
        [zeroHandshake, aacChunks]).client
      (recvRun (rtmpRecvData (playing usedClient [] [] []) fun _ ↦ 0)
        [zeroHandshake, aacChunks]).client := by
  have hhost : SameHost blankClient usedClient := ⟨rfl, rfl⟩
  have hstart : (rtmpStartPlay (rtmpClient blankClient)).1 = 0 := by decide
  have hreads : ReadsSet (recvRun (rtmpRecvData (playing blankClient [] [] []) fun _ ↦ 0)
      [zeroHandshake, aacChunks]).calls := by
    decide +kernel
  exact rtmpRecvData_unset hhost hstart [] [] [] (fun _ ↦ 0) [zeroHandshake, aacChunks] hreads

/-- When the first audio message starts with fmt 1, its timestamp is what the memory held. -/
theorem rtmpRecvData_reads_unset :
    let deltaChunk := [0x44, 0, 0, 10, 0, 0, 2, 8, 0x20, 0]
    SameHost blankClient usedClient ∧ (rtmpStartPlay (rtmpClient blankClient)).1 = 0 ∧
      ¬SameOutside
        (recvRun (rtmpRecvData (playing blankClient [] [] []) fun _ ↦ 0)
          [zeroHandshake, deltaChunk]).client
        (recvRun (rtmpRecvData (playing usedClient [] [] []) fun _ ↦ 0)
          [zeroHandshake, deltaChunk]).client := by
  refine ⟨⟨rfl, rfl⟩, by decide, fun h ↦ ?_⟩
  have htimes := congrArg (List.map RtmpMessage.timeStamp) h.messages
  exact absurd htimes (by decide +kernel)

end RtmpRecv.Client
