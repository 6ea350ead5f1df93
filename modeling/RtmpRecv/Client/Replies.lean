import RtmpRecv.Client.Session

/-!
# Replies and requests

Library `Client`. The client numbers its requests, `connect` 1, `createStream` 2 and `_checkbw` 3,
and the server repeats the number in its `_result`. The client takes every `_result` for the answer
that its status waits for, so a reply is matched only as long as it is the expected one.
-/

namespace RtmpRecv.Client
open RtmpRecv.Base

/-- The transaction number of `connect`. -/
def connectTransaction : Nat := 0x3ff0000000000000

/-- The transaction number of `createStream`. -/
def createStreamTransaction : Nat := 0x4000000000000000

/-- The transaction number of the request that the client waits for an answer to. -/
def awaited : RtmpStatus → Option Nat
  | .waitConnect => some connectTransaction
  | .waitCreateStream => some createStreamTransaction
  | _ => none

/-- The call handles a `_result` with this transaction number. -/
def ChunkCall.Answers (call : ChunkCall) (number : Nat) : Prop :=
  ∃ m dataLen, call.Command m dataLen ∧ transaction m dataLen = some number

/-- The call takes a `_result` for the answer to the request that it names. -/
structure ChunkCall.Matched (call : ChunkCall) : Prop where
  connect : call.client.rtmpStatus = .waitConnect → call.after.rtmpStatus ≠ .waitConnect →
    call.Answers connectTransaction
  stream : call.after.rtmpNowStreamId ≠ call.client.rtmpNowStreamId →
    call.Answers createStreamTransaction
  requests : call.client.rtmpStatus ≠ .waitConnect → call.after.sent ≠ call.client.sent →
    call.Answers createStreamTransaction
  /-- A `_result` for another transaction changes nothing and does not end the session. -/
  others : ∀ c chunkId data dataLen number,
    chunkStep call.client call.bufdata call.datalen = .message c chunkId data dataLen →
      (c.rtmpChunk chunkId).messageType = 0x14 →
        transaction (data.mem call.bufdata) dataLen = some number →
          awaited c.rtmpStatus ≠ some number →
            handlerRun c chunkId data dataLen call.bufdata =
              (.ok (0, recorded c chunkId data dataLen call.bufdata), data.mem call.bufdata)

/-- A `_result` that the call handles has the transaction number that the client waits for. -/
structure ChunkCall.RepliesFit (call : ChunkCall) : Prop where
  connect : ∀ m dataLen, call.Command m dataLen → call.client.rtmpStatus = .waitConnect →
    resultArgs m dataLen ≠ none → transaction m dataLen = some connectTransaction
  create : ∀ m dataLen number, call.Command m dataLen →
    call.client.rtmpStatus = .waitCreateStream → transaction m dataLen = some number →
      number = createStreamTransaction

/-! ### One call -/

theorem transaction_args {m : Mem} {dataLen : Int} {number : Nat}
    (h : transaction m dataLen = some number) : ∃ src, resultArgs m dataLen = some src := by
  unfold transaction at h
  cases hargs : resultArgs m dataLen with
  | none =>
    rw [hargs] at h
    cases h
  | some src => exact ⟨src, rfl⟩

/-- A call handles one command at most. -/
theorem ChunkCall.Command.unique {call : ChunkCall} {m m' : Mem} {dataLen dataLen' : Int}
    (h : call.Command m dataLen) (h' : call.Command m' dataLen') : m = m' ∧ dataLen = dataLen' := by
  obtain ⟨c, chunkId, data, hstep, -, rfl⟩ := h
  obtain ⟨c', chunkId', data', hstep', -, rfl⟩ := h'
  rw [hstep] at hstep'
  cases hstep'
  exact ⟨rfl, rfl⟩

/-- A `_result` that the client does not wait for, if no `_result` it takes is another one. -/
private theorem handler_other {c : RtmpClient} {chunkId number : Nat} {data : MessageData}
    {dataLen : Int} {buf : Mem} (h14 : (c.rtmpChunk chunkId).messageType = 0x14)
    (htransaction : transaction (data.mem buf) dataLen = some number)
    (hconnect : c.rtmpStatus ≠ .waitConnect) (hcreate : c.rtmpStatus ≠ .waitCreateStream) :
    handlerRun c chunkId data dataLen buf =
      (.ok (0, recorded c chunkId data dataLen buf), data.mem buf) := by
  obtain ⟨src, hargs⟩ := transaction_args htransaction
  obtain ⟨r, hrun, hcmd⟩ := handlerRun_command data dataLen buf h14
  rw [hrun]
  cases hcmd with
  | other ret hnone =>
    rw [hargs] at hnone
    cases hnone
  | late _ _ => rfl
  | connects _ hstatus => exact absurd hstatus hconnect
  | refused _ hstatus _ => exact absurd hstatus hcreate
  | asks _ hstatus _ => exact absurd hstatus hcreate

/-- A `_result` that carries a stream id carries a transaction number. -/
private theorem transaction_of_streamId {m : Mem} {dataLen : Int} {src id : Nat}
    (hargs : resultArgs m dataLen = some src) (hid : streamIdAt m src (dataLen - src) = some id) :
    ∃ number, transaction m dataLen = some number := by
  unfold transaction
  rw [hargs]
  unfold streamIdAt at hid
  split at hid
  · next hsome => exact Option.isSome_iff_exists.1 hsome.1
  · cases hid

private theorem ChunkCall.RepliesFit.answers_create {call : ChunkCall} (h : call.RepliesFit)
    {m : Mem} {dataLen : Int} {src id : Nat} (hc : call.Command m dataLen)
    (hargs : resultArgs m dataLen = some src) (hstatus : call.client.rtmpStatus = .waitCreateStream)
    (hid : streamIdAt m src (dataLen - src) = some id) : call.Answers createStreamTransaction := by
  obtain ⟨number, hnumber⟩ := transaction_of_streamId hargs hid
  rw [h.create m dataLen number hc hstatus hnumber] at hnumber
  exact ⟨m, dataLen, hc, hnumber⟩

/-- Replies are matched as long as they are the expected ones. -/
private theorem ChunkCall.matched_of_fit {call : ChunkCall} (h : call.RepliesFit) :
    call.Matched := by
  have hstep := sessionStep_after call
  generalize hafter : call.after.session = after at hstep
  constructor
  · intro hwait hleft
    cases hstep with
    | same => exact absurd ((congrArg SessionState.rtmpStatus hafter).trans hwait) hleft
    | connects hc hargs _ =>
      refine ⟨_, _, hc, h.connect _ _ hc hwait ?_⟩
      rw [hargs]
      exact Option.some_ne_none _
    | asks _ _ hstatus _ =>
      rw [hwait] at hstatus
      cases hstatus
  · intro hchanged
    have hid := congrArg SessionState.rtmpNowStreamId hafter
    cases hstep with
    | same => exact absurd hid hchanged
    | connects _ _ _ => exact absurd hid hchanged
    | asks hc hargs hstatus hstream => exact h.answers_create hc hargs hstatus hstream
  · intro hwait hsent
    cases hstep with
    | same => exact absurd (congrArg SessionState.sent hafter) hsent
    | connects _ _ hstatus => exact absurd hstatus hwait
    | asks hc hargs hstatus hstream => exact h.answers_create hc hargs hstatus hstream
  · intro c chunkId data dataLen number hchunk h14 hnumber hother
    have hparsed := session_chunkStep call.client call.bufdata call.datalen
    rw [hchunk] at hparsed
    have hstatus : c.rtmpStatus = call.client.rtmpStatus :=
      congrArg SessionState.rtmpStatus hparsed
    have hc : call.Command (data.mem call.bufdata) dataLen :=
      ⟨c, chunkId, data, hchunk, h14, rfl⟩
    obtain ⟨src, hargs⟩ := transaction_args hnumber
    apply handler_other h14 hnumber
    · intro hconnect
      have hfit := h.connect _ _ hc (hstatus.symm.trans hconnect) (by
        rw [hargs]
        exact Option.some_ne_none _)
      rw [hconnect, ← hnumber, hfit] at hother
      exact hother rfl
    · intro hcreate
      have hfit := h.create _ _ number hc (hstatus.symm.trans hcreate) hnumber
      rw [hcreate, hfit] at hother
      exact hother rfl

/-- Matched replies are the expected ones. -/
private theorem ChunkCall.fit_of_matched {call : ChunkCall} (h : call.Matched) :
    call.RepliesFit := by
  constructor
  · intro m dataLen hc hwait hargs
    have hleft : call.after.rtmpStatus ≠ .waitConnect := by
      obtain ⟨c, ret, c', hbefore, hcmd, hsession⟩ := hc.session_after
      have hstatus : c.rtmpStatus = .waitConnect :=
        (congrArg SessionState.rtmpStatus hbefore).trans hwait
      have hafter := congrArg SessionState.rtmpStatus hsession
      intro hkept
      cases hcmd with
      | other _ hnone => exact hargs hnone
      | late _ hlate => exact hlate.1 hstatus
      | connects _ _ =>
        rw [session_connected] at hafter
        have hcreate : call.after.rtmpStatus = .waitCreateStream := hafter
        rw [hkept] at hcreate
        cases hcreate
      | refused _ hcreate _ =>
        rw [hstatus] at hcreate
        cases hcreate
      | asks _ hcreate _ =>
        rw [hstatus] at hcreate
        cases hcreate
    obtain ⟨m', dataLen', hc', hnumber⟩ := h.connect hwait hleft
    obtain ⟨rfl, rfl⟩ := hc.unique hc'
    exact hnumber
  · intro m dataLen number hc hwait hnumber
    obtain ⟨src, hargs⟩ := transaction_args hnumber
    obtain ⟨c, chunkId, data, hchunk, h14, rfl⟩ := hc
    have hparsed := session_chunkStep call.client call.bufdata call.datalen
    rw [hchunk] at hparsed
    have hstatus : c.rtmpStatus = .waitCreateStream :=
      (congrArg SessionState.rtmpStatus hparsed).trans hwait
    by_contra hother
    -- the handler is said to change nothing, but in this status it refuses or asks
    have hkept := h.others c chunkId data dataLen number hchunk h14 hnumber (by
      rw [hstatus]
      intro heq
      injection heq with heq
      exact hother heq.symm)
    obtain ⟨⟨ret, c'⟩, hrun, hcmd⟩ := handlerRun_command data dataLen call.bufdata h14
    rw [hrun] at hkept
    injection hkept with hr _
    injection hr with hr
    injection hr with hret hc'
    cases hcmd with
    | other _ hnone =>
      rw [hargs] at hnone
      cases hnone
    | late _ hlate => exact hlate.2 hstatus
    | connects _ hconnect =>
      have hconnect : c.rtmpStatus = .waitConnect := hconnect
      rw [hstatus] at hconnect
      cases hconnect
    | refused _ _ _ => cases hret
    | asks _ _ _ =>
      have hplay := congrArg RtmpClient.rtmpStatus hc'
      have hsame : (recorded c chunkId data dataLen call.bufdata).rtmpStatus = .waitCreateStream :=
        hstatus
      rw [hsame] at hplay
      cases hplay

/-- A call matches its reply if and only if it is the expected one. -/
theorem ChunkCall.matched_iff (call : ChunkCall) : call.Matched ↔ call.RepliesFit :=
  ⟨ChunkCall.fit_of_matched, ChunkCall.matched_of_fit⟩

/-! ### Runs -/

/-- In every run, all replies are matched to their requests if and only if no `_result` comes while
the client waits for the answer to another request. -/
theorem rtmpRecvData_replies (u : RtmpClient) (rtmpUrl rtmpApp rtmpStream : List UInt8)
    (mPBuffer : Mem) (segments : List (List UInt8)) :
    let s := recvRun (rtmpRecvData (playing u rtmpUrl rtmpApp rtmpStream) mPBuffer) segments
    (∀ call ∈ s.calls, call.Matched) ↔ ∀ call ∈ s.calls, call.RepliesFit := by
  intro s
  exact forall₂_congr fun call _ ↦ call.matched_iff

/-- The step hands over a `_result` for another request while the client waits for the answer to
`createStream`. -/
def ChunkStep.Misplaced (buf : Mem) : ChunkStep → Prop
  | .message c chunkId data dataLen =>
    (c.rtmpChunk chunkId).messageType = 0x14 ∧ c.rtmpStatus = .waitCreateStream ∧
      (transaction (data.mem buf) dataLen).isSome ∧
      transaction (data.mem buf) dataLen ≠ some createStreamTransaction
  | _ => False

instance (buf : Mem) (step : ChunkStep) : Decidable (step.Misplaced buf) :=
  match step with
  | .message c chunkId data dataLen => inferInstanceAs (Decidable
      ((c.rtmpChunk chunkId).messageType = 0x14 ∧ c.rtmpStatus = .waitCreateStream ∧
        (transaction (data.mem buf) dataLen).isSome ∧
        transaction (data.mem buf) dataLen ≠ some createStreamTransaction))
  | .ret _ _ => isFalse id
  | .fault _ _ => isFalse id

private theorem not_fit_of_misplaced {call : ChunkCall}
    (h : (chunkStep call.client call.bufdata call.datalen).Misplaced call.bufdata) :
    ¬call.RepliesFit := by
  intro hfit
  have hparsed := session_chunkStep call.client call.bufdata call.datalen
  cases hstep : chunkStep call.client call.bufdata call.datalen with
  | ret r c =>
    rw [hstep] at h
    exact h
  | fault e c =>
    rw [hstep] at h
    exact h
  | message c chunkId data dataLen =>
    rw [hstep] at h hparsed
    obtain ⟨h14, hwait, hsome, hother⟩ := h
    obtain ⟨number, hnumber⟩ := Option.isSome_iff_exists.1 hsome
    have hstatus := (congrArg SessionState.rtmpStatus hparsed).symm.trans hwait
    have hc : call.Command (data.mem call.bufdata) dataLen := ⟨c, chunkId, data, hstep, h14, rfl⟩
    rw [hfit.create _ _ number hc hstatus hnumber] at hnumber
    exact hother hnumber

/-- The chunk that carries a `_result` with these high bytes of its number and these arguments. -/
def resultChunk (number : List UInt8) (args : List UInt8) : List UInt8 :=
  [3, 0, 0, 0, 0, 0, UInt8.ofNat (19 + args.length), 0x14, 0, 0, 0, 0,
    2, 0, 7, 0x5f, 0x72, 0x65, 0x73, 0x75, 0x6c, 0x74, 0] ++ number ++ [0, 0, 0, 0, 0, 0] ++ args

/-- The answer to `connect`, and before the one to `createStream` the one to `_checkbw`. -/
def swappedReplies : List UInt8 :=
  resultChunk [0x3f, 0xf0] [] ++ resultChunk [0x40, 0x08] [5, 5] ++
    resultChunk [0x40, 0x00] [5, 0, 0x3f, 0xf0, 0, 0, 0, 0, 0, 0]

/-- The answer to `_checkbw` is taken for the one to `createStream`, and the session ends. -/
theorem rtmpRecvData_misplaces_reply :
    let s := recvRun (rtmpRecvData (playing blankClient [] [] []) fun _ ↦ 0)
      [zeroHandshake, swappedReplies]
    s.running = false ∧ ¬∀ call ∈ s.calls, call.Matched := by
  intro s
  constructor
  · decide +kernel
  · intro h
    have hmisplaced : ∃ call ∈ s.calls,
        (chunkStep call.client call.bufdata call.datalen).Misplaced call.bufdata := by
      decide +kernel
    obtain ⟨call, hcall, hmisplaced⟩ := hmisplaced
    exact not_fit_of_misplaced hmisplaced (call.matched_iff.1 (h call hcall))

end RtmpRecv.Client
