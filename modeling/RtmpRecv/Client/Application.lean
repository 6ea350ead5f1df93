import RtmpRecv.Client.Session
import RtmpRecv.Client.Locality

/-!
# The application behind the chunk reader

Library `Client`. The fields of `rtmp_client` fall into those of the chunk reader, which no handler
of a message looks at, and the rest: the application. A message acts on the application as its
handler does, and nothing else about a chunk matters.
-/

namespace RtmpRecv.Client
open RtmpRecv.Base RtmpRecv.Tots RtmpRecv.Amf0

/-- The client on another heap. -/
def RtmpClient.onHeap (c : RtmpClient) (heap : Nat → Mem) : RtmpClient :=
  { c with host := { c.host with heap := heap } }

/-- The client without its chunk reader: the parser's fields and the heap are those of a blank
client. -/
def RtmpClient.application (c : RtmpClient) : RtmpClient :=
  (c.withParser blankClient).onHeap blankClient.host.heap

/-- A message as its handler is given it: the memory begins with the body, whose length is a 24-bit
value. -/
structure Input where
  message : RtmpMessage
  mem : Mem
  holds : mem.slice 0 message.body.length = message.body
  short : message.body.length < 16777216

/-- A `rtmp_chunk_t` with what a handler reads of it. -/
def RtmpMessage.chunk (m : RtmpMessage) : RtmpChunk :=
  { RtmpChunk.zero with
    messageType := m.messageType
    messageStreamId := m.messageStreamId
    timeStamp := m.timeStamp }

/-- The handler of a message, run on a client. -/
def RtmpClient.handle (c : RtmpClient) (input : Input) : Except Fault (Int × RtmpClient) :=
  ((rtmpProcessMessage c input.message.chunk input.message.body.length).run input.mem).1

/-- The application behind a message. A fault leaves it as it was. -/
def RtmpClient.serve (c : RtmpClient) (input : Input) : RtmpClient :=
  match c.handle input with
  | .ok (_, c') => c'.application
  | .error _ => c.application

/-- The application behind a message that lies in a memory of its own. -/
def RtmpClient.serveMessage (c : RtmpClient) (m : RtmpMessage) : RtmpClient :=
  match ((rtmpProcessMessage c m.chunk m.body.length).run (Mem.ofList m.body)).1 with
  | .ok (_, c') => c'.application
  | .error _ => c.application

/-- Every handler of the messages finds what it reads in its message. -/
def AllWithin : RtmpClient → List RtmpMessage → Prop
  | _, [] => True
  | c, m :: rest => BodyWithin c m.messageType m.body ∧ AllWithin (c.serveMessage m) rest

/-! ### The heap -/

/-- The results on a client and on the same client on another heap. -/
def HeapApart (heap : Nat → Mem) (r r' : Int × RtmpClient) : Prop := r' = (r.1, r.2.onHeap heap)

section

variable (c : RtmpClient) (heap : Nat → Mem)

private theorem heapApart_createStreamResult (src : Nat) (dataLen : Int) :
    (rtmpProcessCmd0x14CreateStreamResult c src dataLen).Rel (HeapApart heap)
      (rtmpProcessCmd0x14CreateStreamResult (c.onHeap heap) src dataLen) := by
  unfold rtmpProcessCmd0x14CreateStreamResult
  refine Access.Rel.bind_same fun number ↦ ?_
  cases number with
  | none => exact .ret rfl
  | some number =>
    refine Access.Rel.bind_same fun null ↦ ?_
    cases null with
    | none => exact .ret rfl
    | some null =>
      refine Access.Rel.bind_same fun id ↦ ?_
      cases id with
      | none => exact .ret rfl
      | some id => exact .ret rfl

private theorem heapApart_connectResult :
    HeapApart heap (rtmpProcessCmd0x14ConnectResult c)
      (rtmpProcessCmd0x14ConnectResult (c.onHeap heap)) := by
  have hack : (c.onHeap heap).acknowledgementSize = c.acknowledgementSize := rfl
  unfold rtmpProcessCmd0x14ConnectResult
  rw [hack]
  split
  · rfl
  · split
    · rfl
    · split
      · rfl
      · rfl

private theorem heapApart_cmd (dataLen : Int) :
    (rtmpProcessCmd0x14 c dataLen).Rel (HeapApart heap)
      (rtmpProcessCmd0x14 (c.onHeap heap) dataLen) := by
  unfold rtmpProcessCmd0x14
  refine Access.Rel.bind_same fun name ↦ ?_
  cases name with
  | none => exact .ret rfl
  | some name =>
    refine Access.Rel.ite (fun _ ↦ ?_) fun _ ↦ .ret rfl
    refine Access.Rel.ite (fun _ ↦ .ret (heapApart_connectResult c heap)) fun _ ↦ ?_
    exact Access.Rel.ite (fun _ ↦ heapApart_createStreamResult c heap _ _) fun _ ↦ .ret rfl

/-- The decisions of a media handler on a client and on the same client on another heap. -/
inductive StepApart : MediaStep → MediaStep → Prop where
  | done (ret : Int) (c₁ : RtmpClient) : StepApart (.done ret c₁) (.done ret (c₁.onHeap heap))
  | frame (pack : PackData) (c₁ : RtmpClient) :
      StepApart (.frame pack c₁) (.frame pack (c₁.onHeap heap))

private theorem heapApart_appendVideoHead (c₁ : RtmpClient) (bytes : List UInt8) :
    (appendVideoHead c₁ bytes).Rel (fun a b ↦ b = a.onHeap heap)
      (appendVideoHead (c₁.onHeap heap) bytes) := by
  unfold appendVideoHead
  exact Access.Rel.ite (fun _ ↦ .fail) fun _ ↦ .ret rfl

private theorem stepApart_avcSequenceHeader (ptr : Nat) (dataLen : Int) :
    (avcSequenceHeader c ptr dataLen).Rel (StepApart heap)
      (avcSequenceHeader (c.onHeap heap) ptr dataLen) := by
  have hstored (c₁ : RtmpClient) (bytes : List UInt8) := heapApart_appendVideoHead heap c₁ bytes
  unfold avcSequenceHeader
  refine Access.Rel.bind (hstored { c with videoHeadDataLen := 0 } _) fun c₁ k₁ h₁ ↦ ?_
  subst h₁
  refine Access.Rel.ite (fun _ ↦ .ret (.done _ _)) fun _ ↦ ?_
  refine Access.Rel.bind_same fun spsLen ↦ ?_
  refine Access.Rel.ite (fun _ ↦ .ret (.done _ _)) fun _ ↦ ?_
  refine Access.Rel.bind_same fun sps ↦ ?_
  refine Access.Rel.bind (hstored c₁ sps) fun c₂ k₂ h₂ ↦ ?_
  subst h₂
  refine Access.Rel.bind (hstored c₂ _) fun c₃ k₃ h₃ ↦ ?_
  subst h₃
  refine Access.Rel.bind_same fun ppsLen ↦ ?_
  refine Access.Rel.ite (fun _ ↦ .ret (.done _ _)) fun _ ↦ ?_
  refine Access.Rel.bind_same fun pps ↦ ?_
  refine Access.Rel.bind (hstored c₃ pps) fun c₄ k₄ h₄ ↦ ?_
  subst h₄
  exact .ret (.done _ _)

private theorem stepApart_videoFrame (chunk : RtmpChunk) (dataLen : Int) :
    (rtmpProcessVideoFrame c chunk dataLen).Rel (StepApart heap)
      (rtmpProcessVideoFrame (c.onHeap heap) chunk dataLen) := by
  unfold rtmpProcessVideoFrame
  refine Access.Rel.read fun tag ↦ ?_
  dsimp only [Access.ret_bind, Access.bind_eq]
  refine Access.Rel.ite (fun _ ↦ .ret (.done _ _)) fun _ ↦ ?_
  refine Access.Rel.read fun t0 ↦ Access.Rel.read fun t1 ↦ Access.Rel.read fun t2 ↦ ?_
  dsimp only [Access.ret_bind]
  refine Access.Rel.ite (fun _ ↦ ?_) fun _ ↦ ?_
  · refine Access.Rel.read fun packetType ↦ ?_
    dsimp only [Access.ret_bind]
    refine Access.Rel.ite (fun _ ↦ stepApart_avcSequenceHeader c heap _ _) fun _ ↦ ?_
    refine Access.Rel.bind_same fun ok ↦ ?_
    exact Access.Rel.ite (fun _ ↦ .ret (.frame _ _)) fun _ ↦ .ret (.done _ _)
  · refine Access.Rel.bind_same fun ok ↦ ?_
    exact Access.Rel.ite (fun _ ↦ .ret (.frame _ _)) fun _ ↦ .ret (.done _ _)

private theorem stepApart_audioFrame (chunk : RtmpChunk) (dataLen : Int) :
    (rtmpProcessAudioFrame c chunk dataLen).Rel (StepApart heap)
      (rtmpProcessAudioFrame (c.onHeap heap) chunk dataLen) := by
  unfold rtmpProcessAudioFrame
  refine Access.Rel.read fun tag ↦ ?_
  dsimp only [Access.ret_bind, Access.bind_eq]
  refine Access.Rel.ite (fun _ ↦ ?_) fun _ ↦ .ret (.frame _ _)
  refine Access.Rel.read fun packetType ↦ ?_
  dsimp only [Access.ret_bind]
  refine Access.Rel.ite (fun _ ↦ .ret (.done _ _)) fun _ ↦ ?_
  refine Access.Rel.ite (fun _ ↦ ?_) fun _ ↦ .ret (.frame _ _)
  exact .read fun b2 ↦ .read fun b3 ↦ .ret (.done _ _)

private theorem heapApart_handToTots (pack : PackData) :
    (handToTots pack c).Rel (fun a b ↦ b = a.onHeap heap) (handToTots pack (c.onHeap heap)) := by
  unfold handToTots
  exact Access.Rel.bind_same fun r ↦ .ret rfl

private theorem heapApart_video (chunk : RtmpChunk) (dataLen : Int) :
    (rtmpProcessVideo c chunk dataLen).Rel (HeapApart heap)
      (rtmpProcessVideo (c.onHeap heap) chunk dataLen) := by
  unfold rtmpProcessVideo
  refine Access.Rel.bind (stepApart_videoFrame c heap chunk dataLen) fun step step' h ↦ ?_
  cases h with
  | done ret c₁ => exact .ret rfl
  | frame pack c₁ =>
    refine Access.Rel.bind (heapApart_handToTots _ heap _) fun c₂ k₂ h₂ ↦ ?_
    subst h₂
    exact .ret rfl

private theorem heapApart_audio (chunk : RtmpChunk) (dataLen : Int) :
    (rtmpProcessAudio c chunk dataLen).Rel (HeapApart heap)
      (rtmpProcessAudio (c.onHeap heap) chunk dataLen) := by
  unfold rtmpProcessAudio
  refine Access.Rel.bind (stepApart_audioFrame c heap chunk dataLen) fun step step' h ↦ ?_
  cases h with
  | done ret c₁ => exact .ret rfl
  | frame pack c₁ =>
    -- the head data for the frame is stored first, and the heap plays no part in it
    refine Access.Rel.bind (heapApart_handToTots
      { c₁ with audioHeadData := adtsLength c₁.audioHeadData _ } heap _) fun c₂ k₂ h₂ ↦ ?_
    subst h₂
    exact .ret rfl

/-- No handler allocates. -/
theorem heapApart_processMessage (chunk : RtmpChunk) (dataLen : Int) :
    (rtmpProcessMessage c chunk dataLen).Rel (HeapApart heap)
      (rtmpProcessMessage (c.onHeap heap) chunk dataLen) := by
  unfold rtmpProcessMessage
  split
  · exact Access.Rel.bind_same fun _ ↦ .ret rfl
  · exact Access.Rel.bind_same fun _ ↦ .ret rfl
  · exact Access.Rel.bind_same fun _ ↦ .ret rfl
  · exact heapApart_audio c heap chunk dataLen
  · exact heapApart_video c heap chunk dataLen
  · exact heapApart_cmd c heap dataLen
  · exact .ret rfl

end

/-! ### The handlers -/

/-- A handler reads the type and the time stamp of the `rtmp_chunk_t` alone. -/
theorem rtmpProcessMessage_chunk (c : RtmpClient) {chunk chunk' : RtmpChunk}
    (htype : chunk'.messageType = chunk.messageType) (htime : chunk'.timeStamp = chunk.timeStamp)
    (dataLen : Int) :
    rtmpProcessMessage c chunk' dataLen = rtmpProcessMessage c chunk dataLen := by
  have hvideo : rtmpProcessVideo c chunk' dataLen = rtmpProcessVideo c chunk dataLen := by
    unfold rtmpProcessVideo rtmpProcessVideoFrame
    rw [htime]
  have haudio : rtmpProcessAudio c chunk' dataLen = rtmpProcessAudio c chunk dataLen := by
    unfold rtmpProcessAudio rtmpProcessAudioFrame
    rw [htime]
  unfold rtmpProcessMessage
  rw [htype, hvideo, haudio]

/-- What a handler does on the application alone: the same as on the whole client. -/
theorem handle_application (c : RtmpClient) (input : Input) :
    (∃ ret c₁ c₂, c.handle input = .ok (ret, c₁) ∧ c.application.handle input = .ok (ret, c₂) ∧
      c₂.application = c₁.application) ∨
      ∃ e, c.handle input = .error e ∧ c.application.handle input = .error e := by
  unfold RtmpClient.handle
  by_cases ht : input.message.chunk.messageType = 1
  · rw [run_setChunkSize _ _ _ _ ht, run_setChunkSize _ _ _ _ ht]
    exact Or.inl ⟨0, _, _, rfl, rfl, rfl⟩
  · have hparser := handled_processMessage c blankClient input.message.chunk
      input.message.body.length ht
    have hheap := heapApart_processMessage (c.withParser blankClient) blankClient.host.heap
      input.message.chunk input.message.body.length
    obtain ⟨a, b, m, ha, hb, hab⟩ | ⟨e, m, ha, hb⟩ := hparser.run input.mem
    · obtain ⟨b', d, m', hb', hd, hbd⟩ | ⟨e, m', he, -⟩ := hheap.run input.mem
      · rw [hb] at hb'
        cases hb'
        have hend : d = (a.1, a.2.application) := by
          rw [hbd, hab.parser]
          rfl
        left
        refine ⟨a.1, a.2, a.2.application, ?_, ?_, rfl⟩
        · rw [ha]
        · rw [← hend]
          exact congrArg Prod.fst hd
      · rw [hb] at he
        cases he
    · obtain ⟨b', d, m', hb', -, -⟩ | ⟨e', m', he, hd⟩ := hheap.run input.mem
      · rw [hb] at hb'
        cases hb'
      · rw [hb] at he
        cases he
        exact Or.inr ⟨e, congrArg Prod.fst ha, congrArg Prod.fst hd⟩

/-- A message acts on the application. -/
theorem serve_application (c : RtmpClient) (input : Input) :
    c.application.serve input = c.serve input := by
  unfold RtmpClient.serve
  obtain ⟨ret, c₁, c₂, h, h', hsame⟩ | ⟨e, h, h'⟩ := handle_application c input
  · rw [h, h']
    exact hsame
  · rw [h, h']
    rfl

/-- Messages act on the application. -/
theorem foldl_serve_application (c : RtmpClient) (inputs : List Input) :
    inputs.foldl RtmpClient.serve c.application =
      (inputs.foldl RtmpClient.serve c).application := by
  induction inputs generalizing c with
  | nil => rfl
  | cons input rest ih =>
    rw [List.foldl_cons, List.foldl_cons, serve_application]
    have hclosed : (c.serve input).application = c.serve input := by
      unfold RtmpClient.serve
      cases c.handle input with
      | ok r => rfl
      | error e => rfl
    rw [← ih, hclosed]

/-- A handler that finds what it reads in its message does not see where the message lies. -/
theorem serve_eq_serveMessage {c : RtmpClient} {input : Input}
    (h : BodyWithin c input.message.messageType input.message.body) :
    c.serve input = c.serveMessage input.message := by
  have hshort := input.short
  have hwithin := (within_rtmpProcessMessage c input.message.chunk input.message.body.length
    input.mem (by omega)).2 (by rw [input.holds]; exact h)
  have hread : ∀ i, i < input.message.body.length →
      input.mem i = Mem.ofList input.message.body i := by
    intro i hi
    have hbytes := input.holds.trans (Mem.slice_ofList input.message.body).symm
    have hi' := (Mem.slice_eq_iff _ _ _ _ _).1 hbytes i hi
    rwa [Nat.zero_add] at hi'
  have hsame := (hwithin.run_eq hread).1
  unfold RtmpClient.serve RtmpClient.serveMessage RtmpClient.handle
  rw [hsame]

/-- Messages that suffice act on the application wherever they lie. -/
theorem foldl_serve_eq {c : RtmpClient} {inputs : List Input}
    (h : AllWithin c (inputs.map Input.message)) :
    inputs.foldl RtmpClient.serve c =
      (inputs.map Input.message).foldl RtmpClient.serveMessage c := by
  induction inputs generalizing c with
  | nil => rfl
  | cons input rest ih =>
    obtain ⟨hfirst, hrest⟩ := h
    rw [List.foldl_cons, List.map_cons, List.foldl_cons, serve_eq_serveMessage hfirst]
    exact ih hrest

/-! ### The chunk reader -/

section

variable (c : RtmpClient)

private theorem application_setLast (type time : Nat) :
    (setLast c type time).application = c.application := by
  unfold setLast
  split
  · rfl
  · split
    · rfl
    · rfl

private theorem application_addDelta (type delta : Nat) :
    (addDelta c type delta).1.application = c.application := by
  unfold addDelta
  split
  · rfl
  · split
    · rfl
    · rfl

private theorem application_headerFmt0 (chunkId : Nat) (buf : Mem) (datalen : Int) :
    (headerFmt0 c chunkId buf datalen).client.application = c.application := by
  unfold headerFmt0
  split
  · rfl
  · cases timeField buf datalen 11 12 with
    | none => rfl
    | some field => exact application_setLast (saveHeader c chunkId (buf.slice 1 11)) _ _

private theorem application_headerFmt1 (chunkId : Nat) (buf : Mem) (datalen : Int) :
    (headerFmt1 c chunkId buf datalen).client.application = c.application := by
  unfold headerFmt1
  split
  · rfl
  · cases timeField buf datalen 7 8 with
    | none => rfl
    | some field => exact application_addDelta (saveHeader c chunkId (buf.slice 1 7)) _ _

private theorem application_headerFmt2 (buf : Mem) (datalen : Int) :
    (headerFmt2 c buf datalen).client.application = c.application := by
  unfold headerFmt2
  split
  · rfl
  · cases timeField buf datalen 3 4 with
    | none => rfl
    | some field => exact application_addDelta c _ _

private theorem application_chunkHeader (fmt chunkId : Nat) (buf : Mem) (datalen : Int) :
    (chunkHeader c fmt chunkId buf datalen).client.application = c.application := by
  unfold chunkHeader
  split
  · exact application_headerFmt0 c chunkId buf datalen
  · exact application_headerFmt1 c chunkId buf datalen
  · exact application_headerFmt2 c buf datalen
  · unfold headerFmt3
    split
    · rfl
    · rfl
  · rfl

private theorem application_copyBody (chunkId : Nat) (buf : Mem) (off len : Nat) :
    (copyBody c chunkId buf off len).client.application = c.application := by
  unfold copyBody
  dsimp only
  split
  · rfl
  · split
    · rfl
    · split
      · rfl
      · rfl

private theorem application_chunkBody (chunkId : Nat) (chunkInfo : RtmpChunk) (hl : Nat)
    (buf : Mem) (datalen : Int) :
    (chunkBody c chunkId chunkInfo hl buf datalen).client.application = c.application := by
  unfold chunkBody
  dsimp only
  split
  · rfl
  · split
    · rfl
    · split
      · split
        · rfl
        · rw [application_copyBody]
          rfl
      · exact application_copyBody c chunkId buf _ _

/-- Reading a chunk leaves the application alone. -/
theorem application_chunkStep (buf : Mem) (datalen : Int) :
    (chunkStep c buf datalen).client.application = c.application := by
  have hheader := application_chunkHeader c (chunkFmt buf) (chunkIdOf buf) buf datalen
  unfold chunkStep
  split
  · rfl
  · split
    · rfl
    · cases hp : chunkHeader c (chunkFmt buf) (chunkIdOf buf) buf datalen with
      | ret r c' =>
        rw [hp] at hheader
        exact hheader
      | parsed c' chunkInfo hl =>
        rw [hp] at hheader
        exact (application_chunkBody c' _ chunkInfo hl buf datalen).trans hheader

/-- The handler of a message that is delivered. -/
theorem handlerRun_handle (chunkId : Nat) (data : MessageData) (n : Nat) (buf : Mem)
    {input : Input} (hmessage : input.message = messageOf c chunkId data n buf)
    (hmem : input.mem = data.mem buf) :
    (handlerRun c chunkId data n buf).1 = (recorded c chunkId data n buf).handle input := by
  have hlen : input.message.body.length = n := by
    rw [hmessage]
    exact Mem.length_slice _ _ _
  have hchunk (d : RtmpClient) : rtmpProcessMessage d input.message.chunk n =
      rtmpProcessMessage d (c.rtmpChunk chunkId) n := by
    rw [hmessage]
    exact rtmpProcessMessage_chunk d rfl rfl n
  unfold handlerRun RtmpClient.handle
  rw [hmem, hlen, hchunk]
  rfl

/-- A message that is delivered is served. -/
theorem application_deliver (chunkId : Nat) (data : MessageData) (n : Nat) (buf : Mem)
    {input : Input} (hmessage : input.message = messageOf c chunkId data n buf)
    (hmem : input.mem = data.mem buf) :
    (deliver c chunkId data n buf).2.1.application = c.serve input := by
  have hrun := handlerRun_handle c chunkId data n buf hmessage hmem
  have hserve : c.serve input = (recorded c chunkId data n buf).serve input := by
    rw [← serve_application, ← serve_application (recorded c chunkId data n buf)]
    rfl
  rw [hserve]
  unfold RtmpClient.serve deliver
  rw [← hrun]
  cases handlerRun c chunkId data n buf with
  | mk r m =>
    cases r with
    | error e => rfl
    | ok r =>
      cases data with
      | window off => rfl
      | messageBuf buf' => rfl

end

end RtmpRecv.Client
