import RtmpRecv.Client.Runs
import RtmpRecv.Client.Writers

/-!
# The session

Library `Client`. What a client says to its server and how far it has come: which packets it has
sent, its status, and the stream it plays. Only the handshake and the answers to the server's
`_result` change that.
-/

namespace RtmpRecv.Client
open RtmpRecv.Base RtmpRecv.Amf0 RtmpRecv.Tots

/-- The fields of the client that make up its side of the session. -/
structure SessionState where
  sent : List (List UInt8)
  rtmpStatus : RtmpStatus
  rtmpUrl : List UInt8
  rtmpApp : List UInt8
  rtmpStream : List UInt8
  rtmpNowStreamId : Nat
  sendResult : Nat → Int

/-- The session of a client. -/
def RtmpClient.session (c : RtmpClient) : SessionState :=
  ⟨c.sent, c.rtmpStatus, c.rtmpUrl, c.rtmpApp, c.rtmpStream, c.rtmpNowStreamId, c.host.sendResult⟩

/-! ### Packets -/

/-- What the sender gives to `Send`. -/
def packetOf (sender : RtmpClient → Int × RtmpClient) (c : RtmpClient) : List UInt8 :=
  (sender { c with sent := [] }).2.sent.headD []

/-- C0 and C1. -/
def c0c1Packet (timeNow : Nat) : List UInt8 :=
  packetOf rtmpSendToServerC0C1
    { blankClient with host := { blankClient.host with timeNow := fun _ ↦ timeNow } }

/-- C2. -/
def c2Packet (timeNow : Nat) : List UInt8 :=
  packetOf rtmpSendToServerC2
    { blankClient with host := { blankClient.host with timeNow := fun _ ↦ timeNow } }

theorem c0c1Packet_eq (timeNow : Nat) :
    c0c1Packet timeNow =
      (((Mem.ofList []).set 0 0x03).memcpy 5 (le32Bytes timeNow)).slice 0 1537 := by
  simp [c0c1Packet, packetOf, rtmpSendToServerC0C1, RtmpClient.time, RtmpClient.send, blankClient]

theorem c2Packet_eq (timeNow : Nat) :
    c2Packet timeNow = ((Mem.ofList []).memcpy 4 (le32Bytes timeNow)).slice 0 1536 := by
  simp [c2Packet, packetOf, rtmpSendToServerC2, RtmpClient.time, RtmpClient.send, blankClient]

/-- The request `connect`. -/
def connectRequest (rtmpApp rtmpUrl : List UInt8) : List UInt8 :=
  packetOf rtmpSendToServerConnect { blankClient with rtmpApp := rtmpApp, rtmpUrl := rtmpUrl }

/-- The packet with the window size and the requests `createStream` and `_checkbw`. -/
def createStreamPacket (acknowledgementSize : Nat) : List UInt8 :=
  packetOf rtmpProcessCmd0x14ConnectResult
    { blankClient with acknowledgementSize := acknowledgementSize }

/-- The request `getStreamLength`. -/
def getStreamLengthRequest (rtmpStream : List UInt8) : List UInt8 :=
  packetOf rtmpSendToServerGetStreamLength { blankClient with rtmpStream := rtmpStream }

/-- The request `play`. -/
def playRequest (rtmpNowStreamId : Nat) (rtmpStream : List UInt8) : List UInt8 :=
  packetOf rtmpSendToServerPlay
    { blankClient with rtmpNowStreamId := rtmpNowStreamId, rtmpStream := rtmpStream }

/-- The event Set Buffer Length. -/
def setBufferLengthEvent : List UInt8 := packetOf rtmpSendToServerSetBufferLength blankClient

theorem getStreamLengthRequest_eq {rtmpStream : List UInt8} (h : rtmpStream.length ≤ 127) :
    getStreamLengthRequest rtmpStream =
      streamHeader 0x08 0x14 (getStreamLengthBody rtmpStream).length 0 ++
        getStreamLengthBody rtmpStream := by
  unfold getStreamLengthRequest packetOf
  rw [rtmpSendToServerGetStreamLength_eq h]
  rfl

theorem playRequest_eq (rtmpNowStreamId : Nat) {rtmpStream : List UInt8}
    (h : rtmpStream.length ≤ 127) :
    playRequest rtmpNowStreamId rtmpStream =
      streamHeader 0x08 0x14 (playBody rtmpStream).length
        (UInt8.ofNat (toUInt32 (doubleToInt rtmpNowStreamId))) ++ playBody rtmpStream := by
  unfold playRequest packetOf
  rw [rtmpSendToServerPlay_eq h]
  rfl

theorem setBufferLengthEvent_eq :
    setBufferLengthEvent =
      headerBytes 0x42 0x04 setBufferLengthBody.length ++ setBufferLengthBody := by
  unfold setBufferLengthEvent packetOf
  rw [rtmpSendToServerSetBufferLength_eq]
  rfl

/-! ### Steps of the session -/

namespace SessionState

/-- A packet goes out. -/
def send (s : SessionState) (bytes : List UInt8) : SessionState :=
  { s with sent := s.sent ++ [bytes], sendResult := fun n ↦ s.sendResult (n + 1) }

/-- S0 and S1 are there. -/
def answered (s : SessionState) (timeNow : Nat) : SessionState :=
  { s.send (c2Packet timeNow) with rtmpStatus := .waitS2 }

/-- S2 is there. -/
def connecting (s : SessionState) : SessionState :=
  { s.send (connectRequest s.rtmpApp s.rtmpUrl) with rtmpStatus := .waitConnect }

/-- The answer to `connect` is there. -/
def connected (s : SessionState) (acknowledgementSize : Nat) : SessionState :=
  { s.send (createStreamPacket acknowledgementSize) with rtmpStatus := .waitCreateStream }

/-- The answer to `createStream` is there. -/
def asking (s : SessionState) (rtmpNowStreamId : Nat) : SessionState :=
  { ((s.send (getStreamLengthRequest s.rtmpStream)).send
      (playRequest rtmpNowStreamId s.rtmpStream)).send setBufferLengthEvent with
    rtmpNowStreamId := rtmpNowStreamId, rtmpStatus := .waitPlay }

@[simp] theorem rtmpStatus_answered (s : SessionState) (timeNow : Nat) :
    (s.answered timeNow).rtmpStatus = .waitS2 := rfl

@[simp] theorem rtmpStatus_connecting (s : SessionState) :
    s.connecting.rtmpStatus = .waitConnect := rfl

@[simp] theorem rtmpStatus_connected (s : SessionState) (acknowledgementSize : Nat) :
    (s.connected acknowledgementSize).rtmpStatus = .waitCreateStream := rfl

@[simp] theorem rtmpStatus_asking (s : SessionState) (rtmpNowStreamId : Nat) :
    (s.asking rtmpNowStreamId).rtmpStatus = .waitPlay := rfl

end SessionState

/-- The session behind C2. -/
theorem session_sendC2 {c : RtmpClient} (h : 0 ≤ c.host.sendResult 0) :
    (rtmpSendToServerC2 c).2.session = c.session.answered (c.host.timeNow 0) := by
  unfold SessionState.answered SessionState.send rtmpSendToServerC2
  rw [c2Packet_eq]
  dsimp only [RtmpClient.time, RtmpClient.send]
  rw [if_neg (by omega)]
  rfl

theorem ret_sendC2 (c : RtmpClient) : (rtmpSendToServerC2 c).1 = c.host.sendResult 0 := by
  unfold rtmpSendToServerC2
  dsimp only [RtmpClient.time, RtmpClient.send]
  split
  · rfl
  · rfl

theorem ret_sendConnect (c : RtmpClient) :
    (rtmpSendToServerConnect c).1 = c.host.sendResult 0 := by
  unfold rtmpSendToServerConnect
  dsimp only [RtmpClient.send]
  split
  · rfl
  · rfl

/-- The session behind the request `connect`. -/
theorem session_sendConnect {c : RtmpClient} (h : 0 ≤ c.host.sendResult 0) :
    (rtmpSendToServerConnect c).2.session = c.session.connecting := by
  have hpacket : connectRequest c.session.rtmpApp c.session.rtmpUrl =
      ((rtmpAmf0SplitePack 0xc3 12 (connectPacket c.rtmpApp c.rtmpUrl).buf
        (connectPacket c.rtmpApp c.rtmpUrl).dataPtr.toNat).2.slice 0
          (rtmpAmf0SplitePack 0xc3 12 (connectPacket c.rtmpApp c.rtmpUrl).buf
            (connectPacket c.rtmpApp c.rtmpUrl).dataPtr.toNat).1.toNat) := by
    simp [connectRequest, packetOf, rtmpSendToServerConnect, RtmpClient.send, blankClient,
      RtmpClient.session]
  unfold SessionState.connecting SessionState.send rtmpSendToServerConnect
  rw [hpacket]
  dsimp only [RtmpClient.send]
  rw [if_neg (by omega)]
  rfl

/-! ### The parser -/

/-- The client of a header step. -/
def HeaderStep.client : HeaderStep → RtmpClient
  | .ret _ c => c
  | .parsed c _ _ => c

private theorem session_setLast (c : RtmpClient) (type time : Nat) :
    (setLast c type time).session = c.session := by
  unfold setLast
  split
  · rfl
  · split
    · rfl
    · rfl

private theorem session_addDelta (c : RtmpClient) (type delta : Nat) :
    (addDelta c type delta).1.session = c.session := by
  unfold addDelta
  split
  · rfl
  · split
    · rfl
    · rfl

private theorem session_headerFmt0 (c : RtmpClient) (chunkId : Nat) (buf : Mem) (datalen : Int) :
    (headerFmt0 c chunkId buf datalen).client.session = c.session := by
  unfold headerFmt0
  split
  · rfl
  · cases timeField buf datalen 11 12 with
    | none => rfl
    | some field => exact session_setLast (saveHeader c chunkId (buf.slice 1 11)) _ _

private theorem session_headerFmt1 (c : RtmpClient) (chunkId : Nat) (buf : Mem) (datalen : Int) :
    (headerFmt1 c chunkId buf datalen).client.session = c.session := by
  unfold headerFmt1
  split
  · rfl
  · cases timeField buf datalen 7 8 with
    | none => rfl
    | some field => exact session_addDelta (saveHeader c chunkId (buf.slice 1 7)) _ _

private theorem session_headerFmt2 (c : RtmpClient) (buf : Mem) (datalen : Int) :
    (headerFmt2 c buf datalen).client.session = c.session := by
  unfold headerFmt2
  split
  · rfl
  · cases timeField buf datalen 3 4 with
    | none => rfl
    | some field => exact session_addDelta c _ _

private theorem session_chunkHeader (c : RtmpClient) (fmt chunkId : Nat) (buf : Mem)
    (datalen : Int) : (chunkHeader c fmt chunkId buf datalen).client.session = c.session := by
  unfold chunkHeader
  split
  · exact session_headerFmt0 c chunkId buf datalen
  · exact session_headerFmt1 c chunkId buf datalen
  · exact session_headerFmt2 c buf datalen
  · unfold headerFmt3
    split
    · rfl
    · rfl
  · rfl

private theorem session_copyBody (c : RtmpClient) (chunkId : Nat) (buf : Mem) (off len : Nat) :
    (copyBody c chunkId buf off len).client.session = c.session := by
  unfold copyBody
  dsimp only
  split
  · rfl
  · split
    · rfl
    · split
      · rfl
      · rfl

private theorem session_chunkBody (c : RtmpClient) (chunkId : Nat) (chunkInfo : RtmpChunk)
    (hl : Nat) (buf : Mem) (datalen : Int) :
    (chunkBody c chunkId chunkInfo hl buf datalen).client.session = c.session := by
  unfold chunkBody
  dsimp only
  split
  · rfl
  · split
    · rfl
    · split
      · split
        · rfl
        · rw [session_copyBody]
          rfl
      · exact session_copyBody c chunkId buf _ _

/-- Parsing a chunk leaves the session alone. -/
theorem session_chunkStep (c : RtmpClient) (buf : Mem) (datalen : Int) :
    (chunkStep c buf datalen).client.session = c.session := by
  have hheader := session_chunkHeader c (chunkFmt buf) (chunkIdOf buf) buf datalen
  unfold chunkStep
  split
  · rfl
  · split
    · rfl
    · cases hp : chunkHeader c (chunkFmt buf) (chunkIdOf buf) buf datalen with
      | ret r c' =>
        rw [hp] at hheader
        exact hheader
      | parsed c' chunkInfo hl =>
        rw [hp] at hheader
        exact (session_chunkBody c' _ chunkInfo hl buf datalen).trans hheader

/-! ### Media and control messages -/

private theorem session_appendVideoHead (c : RtmpClient) (bytes : List UInt8) :
    (appendVideoHead c bytes).Returns fun c' ↦ c'.session = c.session := by
  unfold appendVideoHead
  split
  · exact Access.Returns.fail
  · exact Access.Returns.ret rfl

private theorem session_avcSequenceHeader (c : RtmpClient) (ptr : Nat) (dataLen : Int) :
    (avcSequenceHeader c ptr dataLen).Returns fun step ↦ step.client.session = c.session := by
  unfold avcSequenceHeader
  refine (session_appendVideoHead _ _).bind fun c₁ h₁ ↦ ?_
  split
  · exact Access.Returns.ret h₁
  · refine Access.Returns.bind_of_forall fun spsLen ↦ ?_
    dsimp only
    split
    · exact Access.Returns.ret h₁
    · refine Access.Returns.bind_of_forall fun sps ↦ ?_
      refine (session_appendVideoHead c₁ _).bind fun c₂ h₂ ↦ ?_
      refine (session_appendVideoHead c₂ _).bind fun c₃ h₃ ↦ ?_
      have h₃₁ : c₃.session = c.session := h₃.trans (h₂.trans h₁)
      refine Access.Returns.bind_of_forall fun ppsLen ↦ ?_
      split
      · exact Access.Returns.ret h₃₁
      · refine Access.Returns.bind_of_forall fun pps ↦ ?_
        refine (session_appendVideoHead c₃ _).bind fun c₄ h₄ ↦ ?_
        exact Access.Returns.ret (h₄.trans h₃₁)

private theorem session_videoFrame (c : RtmpClient) (chunk : RtmpChunk) (dataLen : Int) :
    (rtmpProcessVideoFrame c chunk dataLen).Returns fun step ↦
      step.client.session = c.session := by
  have hloop (pack : PackData) (dataLen : Int) :
      ((nalLoop (nalFuel dataLen) 5 dataLen).bind fun ok ↦
        if ok then .ret (.frame pack c) else .ret (.done (-1) c) :
          Access Fault MediaStep).Returns fun step ↦ step.client.session = c.session := by
    refine Access.Returns.bind_of_forall fun ok ↦ ?_
    cases ok with
    | false => exact Access.Returns.ret rfl
    | true => exact Access.Returns.ret rfl
  unfold rtmpProcessVideoFrame
  simp only [Access.bind_eq, Access.get_bind, Access.pure_eq_ret]
  refine Access.Returns.read fun tag ↦ ?_
  split
  · exact Access.Returns.ret rfl
  · refine Access.Returns.read fun t0 ↦ Access.Returns.read fun t1 ↦
      Access.Returns.read fun t2 ↦ ?_
    split
    · refine Access.Returns.read fun packetType ↦ ?_
      split
      · exact session_avcSequenceHeader c 5 _
      · exact hloop _ _
    · exact hloop _ _

private theorem session_audioFrame (c : RtmpClient) (chunk : RtmpChunk) (dataLen : Int) :
    (rtmpProcessAudioFrame c chunk dataLen).Returns fun step ↦
      step.client.session = c.session := by
  unfold rtmpProcessAudioFrame
  simp only [Access.bind_eq, Access.get_bind, Access.pure_eq_ret]
  refine Access.Returns.read fun tag ↦ ?_
  split
  · refine Access.Returns.read fun packetType ↦ ?_
    split
    · exact Access.Returns.ret rfl
    · split
      · exact Access.Returns.read fun b2 ↦ Access.Returns.read fun b3 ↦ Access.Returns.ret rfl
      · exact Access.Returns.ret rfl
  · exact Access.Returns.ret rfl

private theorem session_handToTots (pack : PackData) (c : RtmpClient) :
    (handToTots pack c).Returns fun c' ↦ c'.session = c.session := by
  unfold handToTots
  exact Access.Returns.bind_of_forall fun _ ↦ Access.Returns.ret rfl

private theorem session_video (c : RtmpClient) (chunk : RtmpChunk) (dataLen : Int) :
    (rtmpProcessVideo c chunk dataLen).Returns fun r ↦ r.2.session = c.session := by
  unfold rtmpProcessVideo
  refine (session_videoFrame c chunk dataLen).bind fun step h ↦ ?_
  cases step with
  | done ret c' => exact Access.Returns.ret h
  | frame pack c' =>
    exact (session_handToTots pack c').bind fun c'' h' ↦ Access.Returns.ret (h'.trans h)

private theorem session_audio (c : RtmpClient) (chunk : RtmpChunk) (dataLen : Int) :
    (rtmpProcessAudio c chunk dataLen).Returns fun r ↦ r.2.session = c.session := by
  unfold rtmpProcessAudio
  refine (session_audioFrame c chunk dataLen).bind fun step h ↦ ?_
  cases step with
  | done ret c' => exact Access.Returns.ret h
  | frame pack c' =>
    simp only [Access.bind_eq, Access.pure_eq_ret]
    refine (session_handToTots _ _).bind fun c'' h' ↦ ?_
    exact Access.Returns.ret (h'.trans h)

/-- Only a command changes the session. -/
theorem session_processMessage (c : RtmpClient) {chunk : RtmpChunk} (dataLen : Int)
    (h : chunk.messageType ≠ 0x14) :
    (rtmpProcessMessage c chunk dataLen).Returns fun r ↦ r.2.session = c.session := by
  unfold rtmpProcessMessage
  split
  · exact Access.Returns.bind_of_forall fun _ ↦ Access.Returns.ret rfl
  · exact Access.Returns.bind_of_forall fun _ ↦ Access.Returns.ret rfl
  · exact Access.Returns.bind_of_forall fun _ ↦ Access.Returns.ret rfl
  · exact session_audio c chunk dataLen
  · exact session_video c chunk dataLen
  · next h14 => exact absurd h14 h
  · exact Access.Returns.ret rfl

/-! ### Commands -/

/-- Where the arguments of a `_result` start; `none` for every other body. -/
def resultArgs (m : Mem) (dataLen : Int) : Option Nat :=
  match poppedString 256 m 0 dataLen with
  | none => none
  | some (commandName, ret) =>
    if commandName.takeWhile (· ≠ 0) = ascii "_result" then some ret else none

theorem resultArgs_of_none {m : Mem} {dataLen : Int} (h : poppedString 256 m 0 dataLen = none) :
    resultArgs m dataLen = none := by
  unfold resultArgs
  rw [h]

theorem resultArgs_of_some {m : Mem} {dataLen : Int} {commandName : List UInt8} {ret : Nat}
    (h : poppedString 256 m 0 dataLen = some (commandName, ret)) :
    resultArgs m dataLen =
      if commandName.takeWhile (· ≠ 0) = ascii "_result" then some ret else none := by
  unfold resultArgs
  rw [h]

/-- The transaction number of a `_result`. -/
def transaction (m : Mem) (dataLen : Int) : Option Nat :=
  match resultArgs m dataLen with
  | none => none
  | some src => poppedNumber m src (dataLen - src)

/-- The stream id behind a number and a null. -/
def streamIdAt (m : Mem) (src : Nat) (dataLen : Int) : Option Nat :=
  if (poppedNumber m src dataLen).isSome ∧ poppedNull m (src + 9) (dataLen - 9) then
    poppedNumber m (src + 10) (dataLen - 10)
  else none

/-- The client that has got the answer to `connect`. -/
def connected (c : RtmpClient) : RtmpClient := (rtmpProcessCmd0x14ConnectResult c).2

/-- The client that has got the answer to `createStream` and asks for the stream. -/
def asking (c : RtmpClient) (rtmpNowStreamId : Nat) : RtmpClient :=
  let c := { c with rtmpNowStreamId := rtmpNowStreamId }
  let (_, c) := rtmpSendToServerGetStreamLength c
  let (_, c) := rtmpSendToServerPlay c
  let (_, c) := rtmpSendToServerSetBufferLength c
  { c with rtmpStatus := .waitPlay }

/-- What a command does: it is passed over, or it is a `_result` that the client waits for. -/
inductive CmdStep (c : RtmpClient) (m : Mem) (dataLen : Int) : Int × RtmpClient → Prop where
  | other (ret : Int) (hargs : resultArgs m dataLen = none) : CmdStep c m dataLen (ret, c)
  | late {src : Nat} (hargs : resultArgs m dataLen = some src)
      (h : c.rtmpStatus ≠ .waitConnect ∧ c.rtmpStatus ≠ .waitCreateStream) :
      CmdStep c m dataLen (0, c)
  | connects {src : Nat} (hargs : resultArgs m dataLen = some src)
      (hstatus : c.rtmpStatus = .waitConnect) : CmdStep c m dataLen (0, connected c)
  | refused {src : Nat} (hargs : resultArgs m dataLen = some src)
      (hstatus : c.rtmpStatus = .waitCreateStream)
      (hid : streamIdAt m src (dataLen - src) = none) : CmdStep c m dataLen (-1, c)
  | asks {src id : Nat} (hargs : resultArgs m dataLen = some src)
      (hstatus : c.rtmpStatus = .waitCreateStream)
      (hid : streamIdAt m src (dataLen - src) = some id) : CmdStep c m dataLen (0, asking c id)

/-- The packet with the window size and the two requests is always built. -/
theorem connectResult_cases (c : RtmpClient) :
    (rtmpProcessCmd0x14ConnectResult c).1 = 0 ∧
      connected c = { (c.send
        (headerBytes 0x02 0x05 4 ++ ([0, 0, 0, 0] ++ be32Bytes c.acknowledgementSize) ++
          (headerBytes 0x43 0x14 25 ++ createStreamBody) ++
          (headerBytes 0x43 0x14 21 ++ checkbwBody))).2 with rtmpStatus := .waitCreateStream } := by
  have hlen (n : Nat) : (headerBytes 0x02 0x05 4 ++ ([0, 0, 0, 0] ++ be32Bytes n)).length = 16 :=
    rfl
  have hcreate (pagLen : Int) (h : 40 ≤ pagLen) : rtmpSendToServerCreateStream pagLen =
      some (headerBytes 0x43 0x14 25 ++ createStreamBody) := by
    have hname : (ascii "createStream").length = 12 := by decide
    unfold rtmpSendToServerCreateStream
    rw [rtmpSendToServerRequest_eq (by omega) h (by omega)]
    exact congrArg (fun n ↦ some (headerBytes 0x43 0x14 n ++ createStreamBody))
      length_createStreamBody
  have hcheck (pagLen : Int) (h : 40 ≤ pagLen) : rtmpSendToServerCheckbw pagLen =
      some (headerBytes 0x43 0x14 21 ++ checkbwBody) := by
    have hname : (ascii "_checkbw").length = 8 := by decide
    unfold rtmpSendToServerCheckbw
    rw [rtmpSendToServerRequest_eq (by omega) h (by omega)]
    exact congrArg (fun n ↦ some (headerBytes 0x43 0x14 n ++ checkbwBody)) length_checkbwBody
  unfold connected rtmpProcessCmd0x14ConnectResult
  rw [rtmpSendToServerWinAckSize_eq (by omega)]
  dsimp only
  rw [hlen, hcreate _ (by omega)]
  dsimp only
  rw [List.length_append, length_headerBytes, length_createStreamBody, hcheck _ (by omega)]
  exact ⟨rfl, rfl⟩

theorem connectResult_eq (c : RtmpClient) :
    rtmpProcessCmd0x14ConnectResult c = (0, connected c) := by
  have hret := (connectResult_cases c).1
  unfold connected
  generalize rtmpProcessCmd0x14ConnectResult c = out at hret ⊢
  rw [← hret]

theorem createStreamPacket_eq (acknowledgementSize : Nat) :
    createStreamPacket acknowledgementSize =
      headerBytes 0x02 0x05 4 ++ ([0, 0, 0, 0] ++ be32Bytes acknowledgementSize) ++
        (headerBytes 0x43 0x14 25 ++ createStreamBody) ++
        (headerBytes 0x43 0x14 21 ++ checkbwBody) := by
  have hsent := congrArg RtmpClient.sent (connectResult_cases
    { blankClient with acknowledgementSize := acknowledgementSize, sent := [] }).2
  unfold connected at hsent
  unfold createStreamPacket packetOf
  rw [hsent]
  rfl

/-- The session behind the answer to `connect`. -/
theorem session_connected (c : RtmpClient) :
    (connected c).session = c.session.connected c.acknowledgementSize := by
  rw [(connectResult_cases c).2]
  unfold SessionState.connected SessionState.send
  rw [createStreamPacket_eq]
  rfl

/-- The session behind the answer to `createStream`. -/
theorem session_asking (c : RtmpClient) (id : Nat) :
    (asking c id).session = c.session.asking id := by
  unfold asking SessionState.asking SessionState.send getStreamLengthRequest playRequest
    setBufferLengthEvent packetOf rtmpSendToServerGetStreamLength rtmpSendToServerPlay
    rtmpSendToServerSetBufferLength
  simp [RtmpClient.session, RtmpClient.send, blankClient]

theorem run_createStreamResult (c : RtmpClient) (m : Mem) (src : Nat) (dataLen : Int) :
    (rtmpProcessCmd0x14CreateStreamResult c src dataLen).run m =
      (.ok (match streamIdAt m src dataLen with
        | none => (-1, c)
        | some id => (0, asking c id)), m) := by
  unfold rtmpProcessCmd0x14CreateStreamResult streamIdAt
  simp only [Access.bind_eq, Access.pure_eq_ret]
  rw [Access.run_bind_ok (run_rtmpAmf0PopNumber _ _ _)]
  cases poppedNumber m src dataLen with
  | none => rfl
  | some t =>
    dsimp only [Option.map_some]
    rw [Access.run_bind_ok (run_rtmpAmf0PopNull _ _ _)]
    cases hnull : poppedNull m (src + 9) (dataLen - 9) with
    | false => simp
    | true =>
      have hlen : dataLen - ((9 : Nat) : Int) - ((1 : Nat) : Int) = dataLen - 10 := by omega
      rw [if_pos rfl]
      dsimp only
      rw [Access.run_bind_ok (run_rtmpAmf0PopNumber _ _ _), hlen]
      cases poppedNumber m (src + 9 + 1) (dataLen - 10) with
      | none => simp
      | some id => simp [asking]

/-- Every command does one of these, and leaves the body alone. -/
theorem run_processCmd (c : RtmpClient) (m : Mem) (dataLen : Int) :
    ∃ r, (rtmpProcessCmd0x14 c dataLen).run m = (.ok r, m) ∧ CmdStep c m dataLen r := by
  unfold rtmpProcessCmd0x14
  simp only [Access.bind_eq, Access.pure_eq_ret]
  rw [Access.run_bind_ok (run_rtmpAmf0PopString _ _ _ _)]
  cases hname : poppedString 256 m 0 dataLen with
  | none => exact ⟨_, rfl, .other _ (resultArgs_of_none hname)⟩
  | some p =>
    obtain ⟨commandName, ret⟩ := p
    have hargs := resultArgs_of_some hname
    dsimp only
    by_cases hresult : commandName.takeWhile (· ≠ 0) = ascii "_result"
    · rw [if_pos hresult] at hargs ⊢
      by_cases hconnect : c.rtmpStatus = .waitConnect
      · rw [if_pos hconnect]
        rw [connectResult_eq]
        exact ⟨_, rfl, .connects hargs hconnect⟩
      · rw [if_neg hconnect]
        by_cases hcreate : c.rtmpStatus = .waitCreateStream
        · rw [if_pos hcreate, run_createStreamResult]
          cases hid : streamIdAt m ret (dataLen - ret) with
          | none => exact ⟨_, rfl, .refused hargs hcreate hid⟩
          | some id => exact ⟨_, rfl, .asks hargs hcreate hid⟩
        · rw [if_neg hcreate]
          exact ⟨_, rfl, .late hargs ⟨hconnect, hcreate⟩⟩
    · rw [if_neg hresult] at hargs ⊢
      exact ⟨_, rfl, .other _ hargs⟩

/-! ### Calls -/

/-- The call hands a command to its handler, with its body in the memory `m`. -/
def ChunkCall.Command (call : ChunkCall) (m : Mem) (dataLen : Int) : Prop :=
  ∃ c chunkId data,
    chunkStep call.client call.bufdata call.datalen = .message c chunkId data dataLen ∧
      (c.rtmpChunk chunkId).messageType = 0x14 ∧ m = data.mem call.bufdata

/-- The client behind the call. -/
def ChunkCall.after (call : ChunkCall) : RtmpClient :=
  (rtmpProcessChunk call.client call.bufdata call.datalen).2.1

/-- What a call does to the session: nothing, or what one of the awaited answers does. -/
inductive SessionStep (call : ChunkCall) : SessionState → Prop where
  | same : SessionStep call call.client.session
  | connects {m : Mem} {dataLen : Int} {src acknowledgementSize : Nat}
      (hc : call.Command m dataLen) (hargs : resultArgs m dataLen = some src)
      (hstatus : call.client.rtmpStatus = .waitConnect) :
      SessionStep call (call.client.session.connected acknowledgementSize)
  | asks {m : Mem} {dataLen : Int} {src id : Nat} (hc : call.Command m dataLen)
      (hargs : resultArgs m dataLen = some src)
      (hstatus : call.client.rtmpStatus = .waitCreateStream)
      (hid : streamIdAt m src (dataLen - src) = some id) :
      SessionStep call (call.client.session.asking id)

/-- What is not a command leaves the session alone. -/
private theorem session_deliver {c : RtmpClient} {chunkId : Nat} (data : MessageData)
    (dataLen : Int) (buf : Mem) (h : (c.rtmpChunk chunkId).messageType ≠ 0x14) :
    (deliver c chunkId data dataLen buf).2.1.session = c.session := by
  have hkept := session_processMessage
    { c with rtmpMessages := c.rtmpMessages ++ [messageOf c chunkId data dataLen buf] } dataLen h
  unfold deliver
  cases hrun : handlerRun c chunkId data dataLen buf with
  | mk r m =>
    cases r with
    | error e => rfl
    | ok r =>
      obtain ⟨ret, c'⟩ := r
      have hc' : c'.session = c.session := hkept _ _ _ hrun
      cases data with
      | window off => exact hc'
      | messageBuf buf => exact hc'

/-- The client that has recorded the message it is handed. -/
def recorded (c : RtmpClient) (chunkId : Nat) (data : MessageData) (dataLen : Int) (buf : Mem) :
    RtmpClient :=
  { c with rtmpMessages := c.rtmpMessages ++ [messageOf c chunkId data dataLen buf] }

/-- The handler of a command. -/
theorem handlerRun_command {c : RtmpClient} {chunkId : Nat} (data : MessageData) (dataLen : Int)
    (buf : Mem) (h : (c.rtmpChunk chunkId).messageType = 0x14) :
    ∃ r, handlerRun c chunkId data dataLen buf = (.ok r, data.mem buf) ∧
      CmdStep (recorded c chunkId data dataLen buf) (data.mem buf) dataLen r := by
  obtain ⟨r, hrun, hcmd⟩ :=
    run_processCmd (recorded c chunkId data dataLen buf) (data.mem buf) dataLen
  refine ⟨r, ?_, hcmd⟩
  unfold handlerRun rtmpProcessMessage
  rw [h]
  exact hrun

/-- The session behind a command is the one that its handler leaves. -/
theorem ChunkCall.Command.session_after {call : ChunkCall} {m : Mem} {dataLen : Int}
    (h : call.Command m dataLen) : ∃ c ret c', c.session = call.client.session ∧
      CmdStep c m dataLen (ret, c') ∧ call.after.session = c'.session := by
  have hparsed := session_chunkStep call.client call.bufdata call.datalen
  obtain ⟨c, chunkId, data, hstep, h14, rfl⟩ := h
  rw [hstep] at hparsed
  obtain ⟨⟨ret, c'⟩, hhandler, hcmd⟩ := handlerRun_command data dataLen call.bufdata h14
  refine ⟨recorded c chunkId data dataLen call.bufdata, ret, c', hparsed, hcmd, ?_⟩
  unfold ChunkCall.after rtmpProcessChunk
  rw [hstep]
  unfold deliver
  dsimp only
  rw [hhandler]
  cases data with
  | window off => rfl
  | messageBuf buf => rfl

/-- A call changes the session through a `_result` only that the client waits for. -/
theorem sessionStep_after (call : ChunkCall) : SessionStep call call.after.session := by
  have hparsed := session_chunkStep call.client call.bufdata call.datalen
  have hsame (c : RtmpClient) (h : c.session = call.client.session) :
      SessionStep call c.session := by
    rw [h]
    exact .same
  have hcommand {m : Mem} {dataLen : Int} (h : call.Command m dataLen) :
      SessionStep call call.after.session := by
    obtain ⟨c, ret, c', hbefore, hcmd, hsession⟩ := h.session_after
    have hstatus := (congrArg SessionState.rtmpStatus hbefore).symm
    rw [hsession]
    cases hcmd with
    | other _ _ => exact hsame _ hbefore
    | late _ _ => exact hsame _ hbefore
    | connects hargs hs =>
      rw [session_connected, hbefore]
      exact .connects h hargs (hstatus.trans hs)
    | refused _ _ _ => exact hsame _ hbefore
    | asks hargs hs hid =>
      rw [session_asking, hbefore]
      exact .asks h hargs (hstatus.trans hs) hid
  unfold ChunkCall.after rtmpProcessChunk at hcommand ⊢
  cases hstep : chunkStep call.client call.bufdata call.datalen with
  | ret r c =>
    rw [hstep] at hparsed
    exact hsame c hparsed
  | fault e c =>
    rw [hstep] at hparsed
    exact hsame c hparsed
  | message c chunkId data dataLen =>
    rw [hstep] at hparsed
    by_cases h14 : (c.rtmpChunk chunkId).messageType = 0x14
    · have hafter := hcommand ⟨c, chunkId, data, hstep, h14, rfl⟩
      rw [hstep] at hafter
      exact hafter
    · exact hsame _ ((session_deliver _ _ _ h14).trans hparsed)

end RtmpRecv.Client
