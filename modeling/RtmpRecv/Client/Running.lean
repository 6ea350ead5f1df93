import RtmpRecv.Amf0.Values
import RtmpRecv.Client.Playback
import RtmpRecv.Wire.Amf0

/-!
# A client that never gives up

Library `Client`. A server answers `connect` and `createStream` and sends a presentation, with
commands and control messages between. No handler fails on what it sends, so the receive loop is
not left, and a player gets the whole presentation in the end.
-/

namespace RtmpRecv.Client
open RtmpRecv.Base RtmpRecv.Amf0 RtmpRecv.Tots RtmpRecv.Wire

/-! ### What a server says -/

/-- The name of an answer, as `strcmp` compares it. -/
def ResultName (name : List UInt8) : Prop := name.takeWhile (· ≠ 0) = ascii "_result"

instance (name : List UInt8) : Decidable (ResultName name) := by
  unfold ResultName
  infer_instance

/-- The body of a command: its name and what stands behind it. -/
def commandBody (name args : List UInt8) : List UInt8 := (Amf0Value.string name).bytes ++ args

/-- The arguments of the answer to `createStream`: a transaction number, a null and a stream id. -/
def streamArgs (number id : Nat) (more : List UInt8) : List UInt8 :=
  (Amf0Value.number number).bytes ++
    (Amf0Value.null.bytes ++ ((Amf0Value.number id).bytes ++ more))

/-- What a server may say from `status` on, by type and body: its commands have names that fit, and
the answer to `createStream` has a stream id. -/
inductive Dialogue : RtmpStatus → List (Nat × List UInt8) → Prop where
  | done (status : RtmpStatus) : Dialogue status []
  | message {status : RtmpStatus} {type : Nat} {rest : List (Nat × List UInt8)}
      (htype : type ≠ 0x14) (body : List UInt8) (hrest : Dialogue status rest) :
      Dialogue status ((type, body) :: rest)
  | command {status : RtmpStatus} {name : List UInt8} {rest : List (Nat × List UInt8)}
      (hname : name.length ≤ 255) (hother : ¬ResultName name) (args : List UInt8)
      (hrest : Dialogue status rest) : Dialogue status ((0x14, commandBody name args) :: rest)
  | connected {name : List UInt8} {rest : List (Nat × List UInt8)} (hname : name.length ≤ 255)
      (hresult : ResultName name) (args : List UInt8) (hrest : Dialogue .waitCreateStream rest) :
      Dialogue .waitConnect ((0x14, commandBody name args) :: rest)
  | created {name : List UInt8} {number id : Nat} {rest : List (Nat × List UInt8)}
      (hname : name.length ≤ 255) (hresult : ResultName name)
      (hnumber : number < 18446744073709551616) (hid : id < 18446744073709551616)
      (more : List UInt8) (hrest : Dialogue .waitPlay rest) :
      Dialogue .waitCreateStream ((0x14, commandBody name (streamArgs number id more)) :: rest)
  | late {name : List UInt8} {rest : List (Nat × List UInt8)} (hname : name.length ≤ 255)
      (hresult : ResultName name) (args : List UInt8) (hrest : Dialogue .waitPlay rest) :
      Dialogue .waitPlay ((0x14, commandBody name args) :: rest)

/-! ### Commands -/

section

variable {c : RtmpClient} {m : Mem} {name args body : List UInt8}

theorem length_commandBody (name args : List UInt8) :
    (commandBody name args).length = name.length + 3 + args.length := by
  rw [commandBody, List.length_append]
  change (stringBytes name).length + _ = _
  rw [length_stringBytes]

/-- The name of a command is read. -/
private theorem poppedString_command (hm : m.slice 0 body.length = body)
    (hbody : body = commandBody name args) (hname : name.length ≤ 255) :
    poppedString 256 m 0 body.length = some (name, name.length + 3) := by
  have hlen : body.length = name.length + 3 + args.length := by rw [hbody, length_commandBody]
  have hfront : m.slice 0 (name.length + 3) = stringBytes name := by
    rw [hlen, Mem.slice_add, hbody] at hm
    exact (List.append_inj hm (by rw [Mem.length_slice]; exact (length_stringBytes name).symm)).1
  exact poppedString_iff.2 ⟨by omega, by omega, rfl, by omega, hfront⟩

/-- What stands behind the name. -/
private theorem slice_args (hm : m.slice 0 body.length = body)
    (hbody : body = commandBody name args) : m.slice (name.length + 3) args.length = args := by
  have hlen : body.length = name.length + 3 + args.length := by rw [hbody, length_commandBody]
  rw [hlen, Mem.slice_add, hbody, Nat.zero_add] at hm
  exact (List.append_inj hm (by rw [Mem.length_slice]; exact (length_stringBytes name).symm)).2

/-- A command that is no answer is passed over. -/
private theorem run_processCmd_other (hname : poppedString 256 m 0 body.length =
    some (name, name.length + 3)) (hother : ¬ResultName name) :
    (rtmpProcessCmd0x14 c body.length).run m = (.ok (0, c), m) := by
  unfold ResultName at hother
  unfold rtmpProcessCmd0x14
  simp only [Access.bind_eq, Access.pure_eq_ret]
  rw [Access.run_bind_ok (run_rtmpAmf0PopString _ _ _ _), hname]
  dsimp only
  rw [if_neg hother]
  rfl

/-- The stream id of the answer to `createStream` is read. -/
private theorem streamIdAt_streamArgs {number id : Nat} {more : List UInt8} {src : Nat} {n : Int}
    (hnumber : number < 18446744073709551616) (hid : id < 18446744073709551616)
    (hm : m.slice src (streamArgs number id more).length = streamArgs number id more)
    (hn : n = (streamArgs number id more).length) : streamIdAt m src n = some id := by
  have hlen : (streamArgs number id more).length = 9 + (1 + (9 + more.length)) := by
    simp [streamArgs, Amf0Value.bytes, doubleBytes]
    omega
  have hbytes : streamArgs number id more =
      numberBytes number ++ ([0x05] ++ (numberBytes id ++ more)) := rfl
  rw [hlen, hbytes, Mem.slice_add, Mem.slice_add, Mem.slice_add] at hm
  obtain ⟨hfirst, hm⟩ := List.append_inj hm (by rw [Mem.length_slice]; rfl)
  obtain ⟨hnull, hm⟩ := List.append_inj hm (by rw [Mem.length_slice]; rfl)
  obtain ⟨hsecond, -⟩ := List.append_inj hm (by rw [Mem.length_slice]; rfl)
  have hsome : poppedNumber m src n = some number :=
    poppedNumber_iff.2 ⟨hnumber, by omega, hfirst⟩
  have hnull' : poppedNull m (src + 9) (n - 9) = true := by
    have hbyte : m (src + 9) = 0x05 := (List.cons.inj hnull).1
    unfold poppedNull
    rw [decide_eq_true_eq]
    exact ⟨by omega, hbyte⟩
  unfold streamIdAt
  rw [hsome, hnull', if_pos ⟨rfl, rfl⟩]
  exact poppedNumber_iff.2 ⟨hid, by omega, hsecond⟩

/-- The arguments of an answer stand behind its name. -/
private theorem resultArgs_answer (hname : poppedString 256 m 0 body.length =
    some (name, name.length + 3)) (hresult : ResultName name) :
    resultArgs m body.length = some (name.length + 3) := by
  rw [resultArgs_of_some hname]
  exact if_pos hresult

end

/-! ### Handlers -/

section

variable {c : RtmpClient} {r : Remuxer} {status : RtmpStatus} {input : Input}

/-- The client holds what the remuxer holds, and waits in `status`. -/
structure Attends (c : RtmpClient) (r : Remuxer) (status : RtmpStatus) : Prop where
  holding : Holding c r
  status : c.rtmpStatus = status

/-- The handler of a message that is no command leaves the status alone. -/
private theorem rtmpStatus_serve (htype : input.message.messageType ≠ 0x14) :
    (c.serve input).rtmpStatus = c.rtmpStatus := by
  have hreturns : (rtmpProcessMessage c input.message.chunk input.message.body.length).Returns
      fun r ↦ r.2.session = c.session :=
    session_processMessage c input.message.body.length htype
  cases hrun : (rtmpProcessMessage c input.message.chunk input.message.body.length).run
      input.mem with
  | mk result m =>
    cases result with
    | error e =>
      rw [serve_error (congrArg Prod.fst hrun)]
      rfl
    | ok r =>
      rw [serve_ok (congrArg Prod.fst hrun)]
      exact congrArg SessionState.rtmpStatus (hreturns _ _ _ hrun)

/-- Control messages and unknown ones are always taken. -/
private theorem takes_control (haudio : input.message.messageType ≠ 8)
    (hvideo : input.message.messageType ≠ 9) (hcommand : input.message.messageType ≠ 0x14) :
    c.Takes input := by
  unfold RtmpClient.Takes RtmpClient.handle rtmpProcessMessage
  split
  · exact ⟨_, rfl⟩
  · exact ⟨_, rfl⟩
  · exact ⟨_, rfl⟩
  · next h => exact absurd h haudio
  · next h => exact absurd h hvideo
  · next h => exact absurd h hcommand
  · exact ⟨_, rfl⟩

/-- The handler of a command. -/
private theorem handle_command (c : RtmpClient) (htype : input.message.messageType = 0x14) :
    c.handle input =
      ((rtmpProcessCmd0x14 c input.message.body.length).run input.mem).1 := by
  have hdispatch : rtmpProcessMessage c input.message.chunk input.message.body.length =
      rtmpProcessCmd0x14 c input.message.body.length := by
    unfold rtmpProcessMessage
    rw [show input.message.chunk.messageType = 0x14 from htype]
    rfl
  exact congrArg (fun p ↦ (Access.run p input.mem).1) hdispatch

/-- What a message that is no command does to the client. -/
private theorem Attends.message (h : Attends c r status) {timed : Nat × MediaItem}
    (hcarries : Carries input.message timed) (hready : r.Ready timed.2)
    (htype : input.message.messageType ≠ 0x14) :
    c.Takes input ∧ Attends (c.serve input) (r.next timed.2) status := by
  obtain ⟨hholding, -, htakes⟩ := h.holding.step hcarries hready
  refine ⟨?_, hholding, (rtmpStatus_serve htype).trans h.status⟩
  by_cases hmedia : input.message.messageType = 8 ∨ input.message.messageType = 9
  · exact htakes hmedia
  · rw [not_or] at hmedia
    exact takes_control hmedia.1 hmedia.2 htype

/-- What a command does whose handler is known. -/
private theorem Attends.command (h : Attends c r status) {timed : Nat × MediaItem}
    (hcarries : Carries input.message timed) (hready : r.Ready timed.2)
    (htype : input.message.messageType = 0x14) {c' : RtmpClient} {status' : RtmpStatus}
    (hrun : (rtmpProcessCmd0x14 c input.message.body.length).run input.mem =
      (.ok (0, c'), input.mem))
    (hstatus : c'.rtmpStatus = status') :
    c.Takes input ∧ Attends (c.serve input) (r.next timed.2) status' := by
  obtain ⟨hholding, -, -⟩ := h.holding.step hcarries hready
  have hhandle : c.handle input = .ok (0, c') :=
    (handle_command c htype).trans (congrArg Prod.fst hrun)
  refine ⟨⟨c', hhandle⟩, hholding, ?_⟩
  rw [serve_ok hhandle]
  exact hstatus

private theorem rtmpStatus_of_session {s : SessionState} (h : c.session = s) :
    c.rtmpStatus = s.rtmpStatus := by
  rw [← h]
  rfl

/-- A client that attends takes the next message of a dialogue, and goes on with the others. -/
theorem Attends.step (h : Attends c r status) {timed : Nat × MediaItem}
    (hcarries : Carries input.message timed) (hready : r.Ready timed.2)
    {rest : List (Nat × List UInt8)}
    (hanswers : Dialogue status ((input.message.messageType, input.message.body) :: rest)) :
    c.Takes input ∧ ∃ status', Attends (c.serve input) (r.next timed.2) status' ∧
      Dialogue status' rest := by
  generalize htype : input.message.messageType = type at hanswers
  generalize hbody : input.message.body = body at hanswers
  have hm : input.mem.slice 0 input.message.body.length = input.message.body := input.holds
  cases hanswers with
  | message hother _ hrest =>
    obtain ⟨htakes, hattends⟩ := h.message hcarries hready (htype ▸ hother)
    exact ⟨htakes, status, hattends, hrest⟩
  | command hname hother _ hrest =>
    have hpopped := poppedString_command hm hbody hname
    obtain ⟨htakes, hattends⟩ := h.command hcarries hready htype
      (run_processCmd_other hpopped hother) h.status
    exact ⟨htakes, status, hattends, hrest⟩
  | connected hname hresult args hrest =>
    have hargs := resultArgs_answer (poppedString_command hm hbody hname) hresult
    obtain ⟨ret, hrun, hstep⟩ := run_processCmd c input.mem input.message.body.length
    cases hstep with
    | other _ hnone => exact absurd (hargs.symm.trans hnone) nofun
    | late _ hlate => exact absurd h.status hlate.1
    | refused _ hcreate _ => exact absurd (h.status.symm.trans hcreate) nofun
    | asks _ hcreate _ => exact absurd (h.status.symm.trans hcreate) nofun
    | connects _ _ =>
      have hstatus := rtmpStatus_of_session (session_connected c)
      obtain ⟨htakes, hattends⟩ := h.command hcarries hready htype hrun hstatus
      exact ⟨htakes, _, hattends, hrest⟩
  | @created name number id _ hname hresult hnumber hid more hrest =>
    have hargs := resultArgs_answer (poppedString_command hm hbody hname) hresult
    have hlen : input.message.body.length =
        name.length + 3 + (streamArgs number id more).length := by
      rw [hbody, length_commandBody]
    have hstream : streamIdAt input.mem (name.length + 3)
        (input.message.body.length - (name.length + 3 : Nat)) = some id :=
      streamIdAt_streamArgs hnumber hid (slice_args hm hbody) (by omega)
    obtain ⟨ret, hrun, hstep⟩ := run_processCmd c input.mem input.message.body.length
    cases hstep with
    | other _ hnone => exact absurd (hargs.symm.trans hnone) nofun
    | late _ hlate => exact absurd h.status hlate.2
    | connects _ hconnect => exact absurd (h.status.symm.trans hconnect) nofun
    | refused hsome _ hnone =>
      cases hargs.symm.trans hsome
      exact absurd (hstream.symm.trans hnone) nofun
    | asks hsome _ hsome' =>
      cases hargs.symm.trans hsome
      cases hstream.symm.trans hsome'
      have hstatus := rtmpStatus_of_session (session_asking c id)
      obtain ⟨htakes, hattends⟩ := h.command hcarries hready htype hrun hstatus
      exact ⟨htakes, _, hattends, hrest⟩
  | late hname hresult args hrest =>
    have hargs := resultArgs_answer (poppedString_command hm hbody hname) hresult
    obtain ⟨ret, hrun, hstep⟩ := run_processCmd c input.mem input.message.body.length
    cases hstep with
    | other _ hnone => exact absurd (hargs.symm.trans hnone) nofun
    | connects _ hconnect => exact absurd (h.status.symm.trans hconnect) nofun
    | refused _ hcreate _ => exact absurd (h.status.symm.trans hcreate) nofun
    | asks _ hcreate _ => exact absurd (h.status.symm.trans hcreate) nofun
    | late _ _ =>
      obtain ⟨htakes, hattends⟩ := h.command hcarries hready htype hrun h.status
      exact ⟨htakes, _, hattends, hrest⟩

end

/-- The type and the body of a message. -/
def RtmpMessage.said (m : RtmpMessage) : Nat × List UInt8 := (m.messageType, m.body)

/-- The messages of a dialogue are all taken. -/
theorem Attends.takes {c : RtmpClient} {r : Remuxer} {status : RtmpStatus}
    (h : Attends c r status) {inputs : List Input} {last : Input} {items : List (Nat × MediaItem)}
    {more : List (Nat × List UInt8)}
    (hcarries : List.Forall₂ Carries ((inputs ++ [last]).map Input.message) items)
    (hready : r.AllReady items)
    (hanswers : Dialogue status
      (((inputs ++ [last]).map Input.message).map RtmpMessage.said ++ more)) :
    (inputs.foldl RtmpClient.serve c).Takes last := by
  induction inputs generalizing c r status items with
  | nil =>
    cases hcarries with
    | cons hfirst _ => exact (h.step hfirst hready.1 hanswers).1
  | cons input inputs ih =>
    cases hcarries with
    | cons hfirst hrest =>
      obtain ⟨-, status', hattends, hanswers'⟩ := h.step hfirst hready.1 hanswers
      exact ih hattends hrest hready.2 hanswers'

/-! ### Calls -/

/-- Clients with one application take the same messages. -/
theorem RtmpClient.Takes.of_application {c c' : RtmpClient} {input : Input} (h : c.Takes input)
    (happ : c'.application = c.application) : c'.Takes input := by
  obtain ⟨d, hd⟩ := h
  obtain ⟨ret, c₁, c₂, hc₁, hc₂, -⟩ | ⟨e, hc, -⟩ := handle_application c input
  · obtain ⟨ret', c₁', c₂', hc₁', hc₂', -⟩ | ⟨e, -, he⟩ := handle_application c' input
    · rw [happ, hc₂] at hc₂'
      cases hc₂'
      rw [hd] at hc₁
      cases hc₁
      exact ⟨_, hc₁'⟩
    · rw [happ, hc₂] at he
      cases he
  · rw [hd] at hc
    cases hc

/-- The message of a call whose handler does not succeed. -/
theorem ChunkCall.HandlerFails.input {call : ChunkCall} {ret : Except Fault Int}
    (h : call.HandlerFails ret) (hs : Sound call.client) :
    ∃ input : Input, call.after.rtmpMessages = call.client.rtmpMessages ++ [input.message] ∧
      ¬call.client.Takes input := by
  have hmessages := messages_chunkStep hs call.bufdata call.datalen
  have happ := application_chunkStep call.client call.bufdata call.datalen
  obtain ⟨c, chunkId, data, dataLen, hstep, hret, hfails⟩ := h
  obtain ⟨n, rfl, hn⟩ := chunkStep_message hs hstep
  rw [hstep] at hmessages happ
  refine ⟨inputOf c chunkId data hn call.bufdata, ?_, ?_⟩
  · unfold ChunkCall.after rtmpProcessChunk
    rw [hstep]
    exact (delivered_deliver c chunkId data n call.bufdata).messages.trans
      (congrArg (· ++ _) hmessages)
  · intro htakes
    have hrecorded : (recorded c chunkId data n call.bufdata).application =
        call.client.application := happ
    obtain ⟨c', hc'⟩ := htakes.of_application hrecorded
    have hhandle : (handlerRun c chunkId data n call.bufdata).1 =
        (recorded c chunkId data n call.bufdata).handle (inputOf c chunkId data hn call.bufdata) :=
      handlerRun_handle c chunkId data n call.bufdata rfl rfl
    rw [hhandle, hc'] at hret
    exact hfails hret

/-! ### The handshake -/

private theorem sendResult_sendC0C1 (c : RtmpClient) (n : Nat) :
    (rtmpSendToServerC0C1 c).2.host.sendResult n = c.host.sendResult (n + 1) := by
  unfold rtmpSendToServerC0C1
  dsimp only [RtmpClient.time, RtmpClient.send]
  split
  · rfl
  · rfl

private theorem sendResult_sendC2 (c : RtmpClient) (n : Nat) :
    (rtmpSendToServerC2 c).2.host.sendResult n = c.host.sendResult (n + 1) := by
  unfold rtmpSendToServerC2
  dsimp only [RtmpClient.time, RtmpClient.send]
  split
  · rfl
  · rfl

private theorem rtmpStatus_sendC0C1 {c : RtmpClient} (h : 0 ≤ c.host.sendResult 0) :
    (rtmpSendToServerC0C1 c).2.rtmpStatus = .waitS0S1 := by
  unfold rtmpSendToServerC0C1
  dsimp only [RtmpClient.time, RtmpClient.send]
  rw [if_neg (Int.not_lt.2 h)]

private theorem rtmpStatus_connecting {c : RtmpClient}
    (h : 0 ≤ (rtmpSendToServerConnect (answered c)).1) :
    (connecting c).rtmpStatus = .waitConnect := by
  have hstatus := (sendConnect_cases (answered c)).2
  unfold connecting
  generalize rtmpSendToServerConnect (answered c) = out at h hstatus ⊢
  exact hstatus.resolve_left (Int.not_lt.2 h)

private theorem Producing.of_application {c c' : RtmpClient} (h : Producing c)
    (happ : c'.application = c.application) : Producing c' := by
  have hsame := congrArg RtmpClient.rtmpSavetots happ
  change c'.rtmpSavetots = c.rtmpSavetots at hsame
  unfold Producing
  rw [hsame]
  exact h

section

variable {u : RtmpClient} (h : (rtmpStartPlay (rtmpClient u)).1 = 0)
  (hsends : ∀ n < 3, 0 ≤ u.host.sendResult n) (rtmpUrl rtmpApp rtmpStream : List UInt8)

include h hsends

/-- The three packets of the handshake go out. -/
theorem handshake_sends :
    (playing u rtmpUrl rtmpApp rtmpStream).rewound.rtmpStatus = .waitS0S1 ∧
      0 ≤ (rtmpSendToServerC2 (playing u rtmpUrl rtmpApp rtmpStream).rewound).1 ∧
      0 ≤ (rtmpSendToServerConnect
        (answered (playing u rtmpUrl rtmpApp rtmpStream).rewound)).1 := by
  have hplaying : playing u rtmpUrl rtmpApp rtmpStream =
      (rtmpSendToServerC0C1
        { newClient u rtmpUrl rtmpApp rtmpStream with rtmpChunkMaxSize := 128 }).2 :=
    rtmpStartPlay_eq ((rtmpStartPlay_newClient u rtmpUrl rtmpApp rtmpStream).trans h)
  have hresult (n : Nat) : (playing u rtmpUrl rtmpApp rtmpStream).rewound.host.sendResult n =
      u.host.sendResult (n + 1) := by
    unfold RtmpClient.rewound
    rw [hplaying]
    exact sendResult_sendC0C1 _ n
  refine ⟨?_, ?_, ?_⟩
  · unfold RtmpClient.rewound
    rw [hplaying]
    exact rtmpStatus_sendC0C1 (hsends 0 (by decide))
  · rw [ret_sendC2, hresult]
    exact hsends 1 (by decide)
  · unfold answered
    rw [ret_sendConnect, sendResult_sendC2, hresult]
    exact hsends 2 (by decide)

/-- Behind the handshake the client waits for the answer to `connect`, and holds nothing. -/
theorem attends_connecting :
    Attends (connecting (playing u rtmpUrl rtmpApp rtmpStream).rewound) .fresh .waitConnect := by
  obtain ⟨-, -, hconnect⟩ := handshake_sends h hsends rtmpUrl rtmpApp rtmpStream
  have hproducing := (producing_connecting h rtmpUrl rtmpApp rtmpStream).of_application
    (application_connecting_rewound (playing u rtmpUrl rtmpApp rtmpStream))
  exact ⟨holding_fresh hproducing, rtmpStatus_connecting hconnect⟩

end

/-! ### Runs -/

/-- What a server says in a message. -/
def said (d : Delivery) : Nat × List UInt8 := (d.message.type.toNat, d.message.body)

theorem said_of_matches {due : Prop} {ds : List Delivery} {msgs : List RtmpMessage}
    (h : List.Forall₂ (Matches due) ds msgs) : msgs.map RtmpMessage.said = ds.map said := by
  induction h with
  | nil => rfl
  | cons hfirst _ ih =>
    rw [List.map_cons, List.map_cons, ih]
    unfold RtmpMessage.said said
    rw [hfirst.type, hfirst.body]

/-- What a run has heard is a part of a dialogue, so the loop is not left. -/
theorem Reaches.runs {c₀ : RtmpClient} {s : RecvState} (h : Reaches c₀ s)
    (hstatus : c₀.rtmpStatus = .waitS0S1) (hc2 : 0 ≤ (rtmpSendToServerC2 c₀).1)
    (hconnect : 0 ≤ (rtmpSendToServerConnect (answered c₀)).1) (hleft : LeftByHandler s)
    (hattends : Attends (connecting c₀) .fresh .waitConnect) {items : List (Nat × MediaItem)}
    {more : List (Nat × List UInt8)} (hcarries : List.Forall₂ Carries s.client.rtmpMessages items)
    (hready : Remuxer.fresh.AllReady items)
    (hanswers : Dialogue .waitConnect (s.client.rtmpMessages.map RtmpMessage.said ++ more)) :
    s.running = true ∧ s.client.rtmpStatus ≠ .sendC0C1 := by
  cases h with
  | waits hrun _ _ hclient =>
    refine ⟨hrun, ?_⟩
    rcases hclient with hclient | ⟨hclient, hs2⟩
    · have hsame : s.client.rewound.rtmpStatus = .waitS0S1 := by rw [hclient, hstatus]
      change s.client.rtmpStatus = _ at hsame
      rw [hsame]
      decide
    · rw [hclient, hs2]
      decide
  | left _ _ hfail =>
    rcases hfail with hfail | hfail
    · omega
    · omega
  | serves _ hparse _ hcalls hbefore =>
    constructor
    · by_contra hstop
      rw [Bool.not_eq_true] at hstop
      obtain ⟨call, hcall, ret, hfails, hclient⟩ := (hleft hstop).resolve_left hcalls
      obtain ⟨hsound, inputs, hinputs, happ⟩ := hbefore call hcall
      obtain ⟨last, hlast, hrefused⟩ := hfails.input hsound
      have hmessages : s.client.rtmpMessages = (inputs ++ [last]).map Input.message := by
        rw [hclient, hlast, List.map_append, hinputs, List.map_singleton]
      rw [hmessages] at hcarries hanswers
      exact hrefused ((hattends.takes hcarries hready hanswers).of_application happ)
    · intro hidle
      rw [hidle] at hparse
      exact absurd hparse (by decide)

section

variable (u : RtmpClient) (h : (rtmpStartPlay (rtmpClient u)).1 = 0)
  (hsends : ∀ n < 3, 0 ≤ u.host.sendResult n) (rtmpUrl rtmpApp rtmpStream : List UInt8)
  (mPBuffer : Mem) {latest : UInt8 → Nat}
  (hl : latest 8 = u.rtmpLastAudioTimestamp ∧ latest 9 = u.rtmpLastVideoTimestamp)
  {chunks : List Wire.Chunk} (hw : (Sender.init 128 latest).Along Sender.WellFormed chunks)
  (hp : (Sender.init 128 latest).Along Parsable chunks)
  (ht : (Sender.init 128 latest).Along InTime chunks) {items : List (Nat × MediaItem)}
  (hitems : List.Forall₂ Presents ((Sender.init 128 latest).deliveries chunks) items)
  (hready : Remuxer.fresh.AllReady items)
  (hanswers : Dialogue .waitConnect (((Sender.init 128 latest).deliveries chunks).map said))
  {greeting : List UInt8} (hgreeting : greeting.length = 3073) (segments : List (List UInt8))
  (hsent : segments.flatten <+: greeting ++ (Sender.init 128 latest).stream chunks)
  (hcut : Uncut chunks (recvRun (rtmpRecvData (playing u rtmpUrl rtmpApp rtmpStream) mPBuffer)
    segments).calls)

include h hsends hl hw hp ht hitems hready hanswers hgreeting hsent hcut

/-- The loop is not left. -/
theorem runs_recvRun :
    let s := recvRun (rtmpRecvData (playing u rtmpUrl rtmpApp rtmpStream) mPBuffer) segments
    s.running = true ∧ s.client.rtmpStatus ≠ .sendC0C1 := by
  intro s
  obtain ⟨hstatus, hc2, hconnect⟩ := handshake_sends h hsends rtmpUrl rtmpApp rtmpStream
  have hattends := attends_connecting h hsends rtmpUrl rtmpApp rtmpStream
  have hreaches := reaches_playing h rtmpUrl rtmpApp rtmpStream mPBuffer segments
  obtain ⟨done, rest, hheard, hleft, -⟩ :=
    heard_recvRun u h rtmpUrl rtmpApp rtmpStream mPBuffer hl hw hp hgreeting segments hsent hcut
  rw [hheard.split, Sender.deliveries_append] at hitems hanswers
  have htaken := (List.forall₂_take_append items _ _ hitems.flip).flip
  have hparts := List.take_append_drop ((Sender.init 128 latest).deliveries done).length items
  rw [← hparts] at hready
  rw [List.map_append, ← said_of_matches hheard.messages] at hanswers
  exact hreaches.runs hstatus hc2 hconnect hleft hattends
    (carries_of_matches ht hheard.messages htaken) hready.left hanswers

/-- The loop is not left, and in the end a player gets the whole presentation. -/
structure Presented (s₀ : Sender) (chunks : List Wire.Chunk) (items : List (Nat × MediaItem))
    (data : List UInt8) (s : RecvState) : Prop where
  running : s.running = true
  video : 3073 + (s₀.stream chunks).length ≤ data.length →
    (unitsOf videoPid (packets s.client.rtmpSavetots.output.emitted)).map readAvc =
      Remuxer.fresh.avcSamples items
  audio : 3073 + (s₀.stream chunks).length ≤ data.length →
    (unitsOf audioPid (packets s.client.rtmpSavetots.output.emitted)).map readAac =
      Remuxer.fresh.aacSamples 0 items

end

/-- The answers to `connect` and to `createStream`, and a small presentation. -/
def answeringChunks : List Wire.Chunk :=
  .start 3 (.fmt0 0 0) ⟨0x14, commandBody (ascii "_result") []⟩ ::
    .start 3 (.fmt0 0 0) ⟨0x14, commandBody (ascii "_result") (streamArgs 0 0 [])⟩ :: smallChunks

end RtmpRecv.Client
