import RtmpRecv.Client.Application
import RtmpRecv.Client.Stamps
import RtmpRecv.Tots.Frames

/-!
# What a message does to the output

Library `Client`. A video message stores head data or hands a frame to the muxer, and what it does
depends on the stored video head alone; an audio message does the same with the audio head. No
other message touches either head or the muxer.
-/

namespace RtmpRecv.Client
open RtmpRecv.Base RtmpRecv.Tots RtmpRecv.Amf0

/-- The client with another video head. -/
def RtmpClient.withVideoHead (c : RtmpClient) (head : Mem) (len : Nat) : RtmpClient :=
  { c with videoHeadData := head, videoHeadDataLen := len }

/-- The client with another audio head. -/
def RtmpClient.withAudioHead (c : RtmpClient) (head : Mem) (len : Nat) : RtmpClient :=
  { c with audioHeadData := head, audioHeadDataLen := len }

/-- The client that has handed a frame to its muxer. A fault leaves it as it was. -/
def RtmpClient.handing (c : RtmpClient) (pack : PackData) (m : Mem) : RtmpClient :=
  match (Call.mk c.getMillisecond64.1 pack m).result c.rtmpSavetots with
  | .ok r => { c.getMillisecond64.2 with rtmpSavetots := r.2 }
  | .error _ => c

/-- The client that has handed an audio frame to its muxer, and has the audio head that is left
then. A fault leaves it as it was. -/
def RtmpClient.handingAudio (c : RtmpClient) (pack : PackData) (m head : Mem) : RtmpClient :=
  match (Call.mk c.getMillisecond64.1 pack m).result c.rtmpSavetots with
  | .ok r => { c.getMillisecond64.2 with audioHeadData := head, rtmpSavetots := r.2 }
  | .error _ => c

/-! ### Decisions -/

section

variable (c c' : RtmpClient)

/-- The decisions of the video handler on two clients. -/
inductive VideoAlike : MediaStep → MediaStep → Prop where
  | done (ret : Int) (head : Mem) (len : Nat) :
      VideoAlike (.done ret (c.withVideoHead head len)) (.done ret (c'.withVideoHead head len))
  | frame {pack : PackData} (htype : pack.type = .h264)
      (hhead : pack.headData = none → pack.headDataLen = 0) :
      VideoAlike (.frame pack c) (.frame pack c')

private theorem alike_appendVideoHead (head : Mem) (len : Nat) (bytes : List UInt8) :
    (appendVideoHead (c.withVideoHead head len) bytes).Rel
      (fun a b ↦ ∃ head len, a = c.withVideoHead head len ∧ b = c'.withVideoHead head len)
      (appendVideoHead (c'.withVideoHead head len) bytes) := by
  unfold appendVideoHead
  exact Access.Rel.ite (fun _ ↦ .fail) fun _ ↦ .ret ⟨_, _, rfl, rfl⟩

private theorem alike_avcSequenceHeader (head : Mem) (len ptr : Nat) (dataLen : Int) :
    (avcSequenceHeader (c.withVideoHead head len) ptr dataLen).Rel (VideoAlike c c')
      (avcSequenceHeader (c'.withVideoHead head len) ptr dataLen) := by
  have hstored (head : Mem) (len : Nat) (bytes : List UInt8) :=
    alike_appendVideoHead c c' head len bytes
  unfold avcSequenceHeader
  refine Access.Rel.bind (hstored head 0 _) fun c₁ k₁ h₁ ↦ ?_
  obtain ⟨head₁, len₁, rfl, rfl⟩ := h₁
  refine Access.Rel.ite (fun _ ↦ .ret (.done _ _ _)) fun _ ↦ ?_
  refine Access.Rel.bind_same fun spsLen ↦ ?_
  refine Access.Rel.ite (fun _ ↦ .ret (.done _ _ _)) fun _ ↦ ?_
  refine Access.Rel.bind_same fun sps ↦ ?_
  refine Access.Rel.bind (hstored head₁ len₁ sps) fun c₂ k₂ h₂ ↦ ?_
  obtain ⟨head₂, len₂, rfl, rfl⟩ := h₂
  refine Access.Rel.bind (hstored head₂ len₂ _) fun c₃ k₃ h₃ ↦ ?_
  obtain ⟨head₃, len₃, rfl, rfl⟩ := h₃
  refine Access.Rel.bind_same fun ppsLen ↦ ?_
  refine Access.Rel.ite (fun _ ↦ .ret (.done _ _ _)) fun _ ↦ ?_
  refine Access.Rel.bind_same fun pps ↦ ?_
  refine Access.Rel.bind (hstored head₃ len₃ pps) fun c₄ k₄ h₄ ↦ ?_
  obtain ⟨head₄, len₄, rfl, rfl⟩ := h₄
  exact .ret (.done _ _ _)

/-- Clients with the same video head decide alike. -/
theorem videoAlike (hhead : c'.videoHeadData = c.videoHeadData)
    (hlen : c'.videoHeadDataLen = c.videoHeadDataLen) (chunk : RtmpChunk) (dataLen : Int) :
    (rtmpProcessVideoFrame c chunk dataLen).Rel (VideoAlike c c')
      (rtmpProcessVideoFrame c' chunk dataLen) := by
  have hself : c'.withVideoHead c.videoHeadData c.videoHeadDataLen = c' := by
    rw [← hhead, ← hlen]
    rfl
  have hkept (ret : Int) : VideoAlike c c' (.done ret c) (.done ret c') := by
    have hdone : VideoAlike c c' (.done ret (c.withVideoHead c.videoHeadData c.videoHeadDataLen))
        (.done ret (c'.withVideoHead c.videoHeadData c.videoHeadDataLen)) := .done ret _ _
    rwa [hself] at hdone
  unfold rtmpProcessVideoFrame
  refine Access.Rel.read fun tag ↦ ?_
  dsimp only [Access.ret_bind, Access.bind_eq]
  refine Access.Rel.ite (fun _ ↦ .ret (hkept _)) fun _ ↦ ?_
  refine Access.Rel.read fun t0 ↦ Access.Rel.read fun t1 ↦ Access.Rel.read fun t2 ↦ ?_
  dsimp only [Access.ret_bind]
  refine Access.Rel.ite (fun _ ↦ ?_) fun _ ↦ ?_
  · refine Access.Rel.read fun packetType ↦ ?_
    dsimp only [Access.ret_bind]
    refine Access.Rel.ite (fun _ ↦ ?_) fun _ ↦ ?_
    · have halike := alike_avcSequenceHeader c c' c.videoHeadData c.videoHeadDataLen 5
        (dataLen - 5)
      rwa [hself] at halike
    · refine Access.Rel.bind_same fun ok ↦ ?_
      rw [hhead, hlen]
      exact Access.Rel.ite (fun _ ↦ .ret (.frame rfl nofun)) fun _ ↦ .ret (hkept _)
  · refine Access.Rel.bind_same fun ok ↦ ?_
    exact Access.Rel.ite (fun _ ↦ .ret (.frame rfl fun _ ↦ rfl)) fun _ ↦ .ret (hkept _)

/-- The decisions of the audio handler on two clients. -/
inductive AudioAlike : MediaStep → MediaStep → Prop where
  | done (head : Mem) (len : Nat) :
      AudioAlike (.done 0 (c.withAudioHead head len)) (.done 0 (c'.withAudioHead head len))
  | frame {pack : PackData} (htype : pack.type ≠ .h264)
      (hhead : pack.headData = none → pack.headDataLen = 0) :
      AudioAlike (.frame pack c) (.frame pack c')

/-- Clients with the same audio head decide alike. -/
theorem audioAlike (hhead : c'.audioHeadData = c.audioHeadData)
    (hlen : c'.audioHeadDataLen = c.audioHeadDataLen) (chunk : RtmpChunk) (dataLen : Int) :
    (rtmpProcessAudioFrame c chunk dataLen).Rel (AudioAlike c c')
      (rtmpProcessAudioFrame c' chunk dataLen) := by
  have hself : c'.withAudioHead c.audioHeadData c.audioHeadDataLen = c' := by
    rw [← hhead, ← hlen]
    rfl
  have hkept : AudioAlike c c' (.done 0 c) (.done 0 c') := by
    have hdone : AudioAlike c c' (.done 0 (c.withAudioHead c.audioHeadData c.audioHeadDataLen))
        (.done 0 (c'.withAudioHead c.audioHeadData c.audioHeadDataLen)) := .done _ _
    rwa [hself] at hdone
  unfold rtmpProcessAudioFrame
  refine Access.Rel.read fun tag ↦ ?_
  dsimp only [Access.ret_bind, Access.bind_eq]
  refine Access.Rel.ite (fun _ ↦ ?_) fun _ ↦ .ret (.frame nofun fun _ ↦ rfl)
  refine Access.Rel.read fun packetType ↦ ?_
  dsimp only [Access.ret_bind]
  rw [hhead, hlen]
  refine Access.Rel.ite (fun _ ↦ .ret hkept) fun _ ↦ ?_
  refine Access.Rel.ite (fun _ ↦ ?_) fun _ ↦ .ret (.frame nofun nofun)
  exact .read fun b2 ↦ .read fun b3 ↦ .ret (.done _ _)

end

/-! ### Messages -/

/-- What a video message does, whatever else the client holds. -/
inductive VideoEffect where
  | none
  | store (head : Mem) (len : Nat)
  | frame (pack : PackData) (m : Mem)

/-- The client behind what a video message does. -/
def VideoEffect.on (c : RtmpClient) : VideoEffect → RtmpClient
  | .none => c
  | .store head len => c.withVideoHead head len
  | .frame pack m => c.handing pack m

/-- A frame is one of the video stream, and counts no head data that it does not have. -/
def VideoEffect.Proper : VideoEffect → Prop
  | .frame pack _ => pack.type = .h264 ∧ (pack.headData = Option.none → pack.headDataLen = 0)
  | _ => True

/-- What an audio message does, whatever else the client holds. A frame leaves some head data. -/
inductive AudioEffect where
  | none
  | store (head : Mem) (len : Nat)
  | frame (pack : PackData) (m : Mem) (head : Mem)

/-- The client behind what an audio message does. -/
def AudioEffect.on (c : RtmpClient) : AudioEffect → RtmpClient
  | .none => c
  | .store head len => c.withAudioHead head len
  | .frame pack m head => c.handingAudio pack m head

/-- A frame is none of the video stream, and counts no head data that it does not have. -/
def AudioEffect.Proper : AudioEffect → Prop
  | .frame pack _ _ => pack.type ≠ .h264 ∧ (pack.headData = Option.none → pack.headDataLen = 0)
  | _ => True

section

variable {c : RtmpClient} {input : Input}

theorem serve_ok {ret : Int} {c' : RtmpClient} (h : c.handle input = .ok (ret, c')) :
    c.serve input = c'.application := by
  unfold RtmpClient.serve
  rw [h]

theorem serve_error {e : Fault} (h : c.handle input = .error e) :
    c.serve input = c.application := by
  unfold RtmpClient.serve
  rw [h]

/-- The handler of a video message. -/
theorem handle_video (c : RtmpClient) (htype : input.message.messageType = 0x09) :
    c.handle input =
      ((rtmpProcessVideo c input.message.chunk input.message.body.length).run input.mem).1 :=
  congrArg (fun p ↦ (Access.run p input.mem).1) (rtmpProcessMessage_video htype)

/-- The handler of an audio message. -/
theorem handle_audio (c : RtmpClient) (htype : input.message.messageType = 0x08) :
    c.handle input =
      ((rtmpProcessAudio c input.message.chunk input.message.body.length).run input.mem).1 := by
  have hdispatch : rtmpProcessMessage c input.message.chunk input.message.body.length =
      rtmpProcessAudio c input.message.chunk input.message.body.length := by
    unfold rtmpProcessMessage
    rw [show input.message.chunk.messageType = 0x08 from htype]
    rfl
  exact congrArg (fun p ↦ (Access.run p input.mem).1) hdispatch

/-- The handler of the message succeeds. -/
def RtmpClient.Takes (c : RtmpClient) (input : Input) : Prop := ∃ c', c.handle input = .ok (0, c')

/-- A video message that is a frame is taken when the muxer takes the frame. -/
theorem takes_videoFrame (htype : input.message.messageType = 0x09) {pack : PackData} {m : Mem}
    (hrun : (rtmpProcessVideoFrame c input.message.chunk input.message.body.length).run input.mem =
      (.ok (.frame pack c), m))
    (hresult : ∃ r, (Call.mk c.getMillisecond64.1 pack m).result c.rtmpSavetots = .ok r) :
    c.Takes input := by
  obtain ⟨r, hresult⟩ := hresult
  have hframe := processed_frame hrun
  rw [← handle_video c htype, hresult] at hframe
  exact ⟨_, hframe⟩

/-- So is an audio message. -/
theorem takes_audioFrame (htype : input.message.messageType = 0x08) {pack : PackData}
    (hrun : (rtmpProcessAudioFrame c input.message.chunk input.message.body.length).run input.mem =
      (.ok (.frame pack c), input.mem))
    {aacFrameLength : Nat}
    (hlength : (pack.dataLen + c.audioHeadDataLen) % 4294967296 = aacFrameLength)
    (hresult : ∃ r, (Call.mk c.getMillisecond64.1 (headed c aacFrameLength pack)
      input.mem).result c.rtmpSavetots = .ok r) : c.Takes input := by
  obtain ⟨r, hresult⟩ := hresult
  have hframe := congrArg Prod.fst (run_audio_frame hrun hlength)
  rw [← handle_audio c htype, hresult] at hframe
  exact ⟨_, hframe⟩

/-- A video message that is a frame is handed to the muxer. -/
theorem serve_videoFrame (htype : input.message.messageType = 0x09) {pack : PackData} {m : Mem}
    (hrun : (rtmpProcessVideoFrame c input.message.chunk input.message.body.length).run input.mem =
      (.ok (.frame pack c), m)) :
    c.serve input = (c.handing pack m).application := by
  have hframe := processed_frame hrun
  rw [← handle_video c htype] at hframe
  unfold RtmpClient.handing
  cases hresult : (Call.mk c.getMillisecond64.1 pack m).result c.rtmpSavetots with
  | error e =>
    rw [hresult] at hframe
    exact serve_error hframe
  | ok r =>
    rw [hresult] at hframe
    exact serve_ok hframe

/-- An audio message that is a frame is handed to the muxer, in a head with its length. -/
theorem serve_audioFrame (htype : input.message.messageType = 0x08) {pack : PackData}
    (hrun : (rtmpProcessAudioFrame c input.message.chunk input.message.body.length).run input.mem =
      (.ok (.frame pack c), input.mem))
    {aacFrameLength : Nat}
    (hlength : (pack.dataLen + c.audioHeadDataLen) % 4294967296 = aacFrameLength) :
    c.serve input = (c.handingAudio (headed c aacFrameLength pack) input.mem
      ((adtsLength c.audioHeadData aacFrameLength).set 3 (c.audioHeadData 3))).application := by
  have hframe := congrArg Prod.fst (run_audio_frame hrun hlength)
  rw [← handle_audio c htype] at hframe
  unfold RtmpClient.handingAudio
  cases hresult : (Call.mk c.getMillisecond64.1 (headed c aacFrameLength pack)
      input.mem).result c.rtmpSavetots with
  | error e =>
    rw [hresult] at hframe
    exact serve_error hframe
  | ok r =>
    rw [hresult] at hframe
    dsimp only
    rw [serve_ok hframe, framed]

variable (c) in
/-- A video message does the same on all clients with one video head. -/
theorem serve_video (htype : input.message.messageType = 0x09) :
    ∃ effect : VideoEffect, effect.Proper ∧
      ∀ c' : RtmpClient, c'.videoHeadData = c.videoHeadData →
        c'.videoHeadDataLen = c.videoHeadDataLen → c'.serve input = (effect.on c').application := by
  have hhandle (c' : RtmpClient) := handle_video c' htype
  have halike (c' : RtmpClient) (hhead : c'.videoHeadData = c.videoHeadData)
      (hlen : c'.videoHeadDataLen = c.videoHeadDataLen) :=
    (videoAlike c c' hhead hlen input.message.chunk input.message.body.length).run input.mem
  cases hrun : (rtmpProcessVideoFrame c input.message.chunk input.message.body.length).run
      input.mem with
  | mk result m =>
    cases result with
    | error e =>
      refine ⟨.none, trivial, fun c' hhead hlen ↦ ?_⟩
      obtain ⟨a, b, m', ha, -, -⟩ | ⟨e', m', he, he'⟩ := halike c' hhead hlen
      · rw [hrun] at ha
        cases ha
      · refine serve_error (e := e') ?_
        rw [hhandle, rtmpProcessVideo, Access.bind_eq, Access.run_bind_error he']
    | ok step =>
      have hstep (c' : RtmpClient) (hhead : c'.videoHeadData = c.videoHeadData)
          (hlen : c'.videoHeadDataLen = c.videoHeadDataLen) :
          ∃ step', (rtmpProcessVideoFrame c' input.message.chunk input.message.body.length).run
            input.mem = (.ok step', m) ∧ VideoAlike c c' step step' := by
        obtain ⟨a, b, m', ha, hb, hab⟩ | ⟨e', m', he, -⟩ := halike c' hhead hlen
        · rw [hrun] at ha
          cases ha
          exact ⟨b, hb, hab⟩
        · rw [hrun] at he
          cases he
      obtain ⟨step', -, hself⟩ := hstep c rfl rfl
      cases hself with
      | done ret head len =>
        refine ⟨.store head len, trivial, fun c' hhead hlen ↦ ?_⟩
        obtain ⟨step', hrun', halike'⟩ := hstep c' hhead hlen
        generalize hdone : MediaStep.done ret (c.withVideoHead head len) = step at halike'
        cases halike' with
        | done ret' head' len' =>
          injection hdone with _ hclient
          have hhead' : head = head' := congrArg RtmpClient.videoHeadData hclient
          have hlen' : len = len' := congrArg RtmpClient.videoHeadDataLen hclient
          subst hhead' hlen'
          have hhandled : c'.handle input = .ok (ret', c'.withVideoHead head len) := by
            rw [hhandle, (video_done hrun').1]
          exact serve_ok hhandled
        | frame _ _ => cases hdone
      | @frame pack hkind hgiven =>
        refine ⟨.frame pack m, ⟨hkind, hgiven⟩, fun c' hhead hlen ↦ ?_⟩
        obtain ⟨step', hrun', halike'⟩ := hstep c' hhead hlen
        cases halike' with
        | frame _ _ => exact serve_videoFrame htype hrun'

variable (c) in
/-- An audio message does the same on all clients with one audio head. -/
theorem serve_audio (htype : input.message.messageType = 0x08) :
    ∃ effect : AudioEffect, effect.Proper ∧
      ∀ c' : RtmpClient, c'.audioHeadData = c.audioHeadData →
        c'.audioHeadDataLen = c.audioHeadDataLen → c'.serve input = (effect.on c').application := by
  obtain ⟨step, hrun, -⟩ := audioDecided c input.message.chunk input.message.body.length input.mem
  have hstep (c' : RtmpClient) (hhead : c'.audioHeadData = c.audioHeadData)
      (hlen : c'.audioHeadDataLen = c.audioHeadDataLen) :
      ∃ step', (rtmpProcessAudioFrame c' input.message.chunk input.message.body.length).run
        input.mem = (.ok step', input.mem) ∧ AudioAlike c c' step step' := by
    obtain ⟨a, b, m', ha, hb, hab⟩ | ⟨e', m', he, -⟩ :=
      (audioAlike c c' hhead hlen input.message.chunk input.message.body.length).run input.mem
    · rw [hrun] at ha
      cases ha
      exact ⟨b, hb, hab⟩
    · rw [hrun] at he
      cases he
  obtain ⟨step', -, hself⟩ := hstep c rfl rfl
  cases hself with
  | done head len =>
    refine ⟨.store head len, trivial, fun c' hhead hlen ↦ ?_⟩
    obtain ⟨step', hrun', halike'⟩ := hstep c' hhead hlen
    generalize hdone : MediaStep.done 0 (c.withAudioHead head len) = step at halike'
    cases halike' with
    | done head' len' =>
      injection hdone with _ hclient
      have hhead' : head = head' := congrArg RtmpClient.audioHeadData hclient
      have hlen' : len = len' := congrArg RtmpClient.audioHeadDataLen hclient
      subst hhead' hlen'
      have hhandled : c'.handle input = .ok (0, c'.withAudioHead head len) := by
        rw [handle_audio c' htype, rtmpProcessAudio, Access.bind_eq, Access.run_bind_ok hrun']
        rfl
      exact serve_ok hhandled
    | frame _ _ => cases hdone
  | @frame pack hkind hgiven =>
    generalize hL : (pack.dataLen + c.audioHeadDataLen) % 4294967296 = aacFrameLength
    have hproper : (headed c aacFrameLength pack).headData = none →
        (headed c aacFrameLength pack).headDataLen = 0 :=
      fun hnone ↦ hgiven (Option.map_eq_none_iff.1 hnone)
    refine ⟨.frame (headed c aacFrameLength pack) input.mem
      ((adtsLength c.audioHeadData aacFrameLength).set 3 (c.audioHeadData 3)),
      ⟨hkind, hproper⟩, fun c' hhead hlen ↦ ?_⟩
    obtain ⟨step', hrun', halike'⟩ := hstep c' hhead hlen
    cases halike' with
    | frame _ _ =>
      have hheaded : headed c' aacFrameLength pack = headed c aacFrameLength pack := by
        unfold headed
        rw [hhead]
      have hserve := serve_audioFrame htype hrun' (by rw [hlen, hL])
      rw [hheaded, hhead] at hserve
      exact hserve

/-- The fields of the client that make up its output. -/
structure MediaState where
  rtmpSavetots : RtmpTots
  videoHeadData : Mem
  videoHeadDataLen : Nat
  audioHeadData : Mem
  audioHeadDataLen : Nat

/-- The output of a client. -/
def RtmpClient.media (c : RtmpClient) : MediaState where
  rtmpSavetots := c.rtmpSavetots
  videoHeadData := c.videoHeadData
  videoHeadDataLen := c.videoHeadDataLen
  audioHeadData := c.audioHeadData
  audioHeadDataLen := c.audioHeadDataLen

private theorem media_asking (c : RtmpClient) (id : Nat) : (asking c id).media = c.media := by
  unfold asking rtmpSendToServerGetStreamLength rtmpSendToServerPlay rtmpSendToServerSetBufferLength
  simp [RtmpClient.media, RtmpClient.send]

/-- The command handler leaves the output alone. -/
private theorem media_cmdStep {m : Mem} {dataLen : Int} {r : Int × RtmpClient}
    (h : CmdStep c m dataLen r) : r.2.media = c.media := by
  cases h with
  | other ret hargs => rfl
  | late hargs h => rfl
  | connects hargs hstatus =>
    dsimp only
    rw [(connectResult_cases c).2]
    rfl
  | refused hargs hstatus hid => rfl
  | @asks src id hargs hstatus hid => exact media_asking c id

/-- Other messages leave the output alone. -/
theorem serve_other (haudio : input.message.messageType ≠ 0x08)
    (hvideo : input.message.messageType ≠ 0x09) : (c.serve input).media = c.media := by
  have hreturns : (rtmpProcessMessage c input.message.chunk input.message.body.length).Returns
      fun r ↦ r.2.media = c.media := by
    unfold rtmpProcessMessage
    split
    · exact Access.Returns.bind_of_forall fun _ ↦ Access.Returns.ret rfl
    · exact Access.Returns.bind_of_forall fun _ ↦ Access.Returns.ret rfl
    · exact Access.Returns.bind_of_forall fun _ ↦ Access.Returns.ret rfl
    · next h => exact absurd h haudio
    · next h => exact absurd h hvideo
    · intro m r m' hrun
      obtain ⟨r', hrun', hcmd⟩ := run_processCmd c m input.message.body.length
      rw [hrun'] at hrun
      cases hrun
      exact media_cmdStep hcmd
    · exact Access.Returns.ret rfl
  cases hrun : (rtmpProcessMessage c input.message.chunk input.message.body.length).run
      input.mem with
  | mk result m =>
    cases result with
    | error e => rw [serve_error (congrArg Prod.fst hrun)]; rfl
    | ok r => rw [serve_ok (congrArg Prod.fst hrun)]; exact hreturns _ _ _ hrun

/-- A message keeps what every call of the muxer keeps. -/
theorem serve_keeps {P : RtmpTots → Prop}
    (hcall : ∀ (t : RtmpTots) (call : Call) (ret : Int) (t' : RtmpTots), P t → call.HeadGiven →
      call.result t = .ok (ret, t') → P t')
    (h : P c.rtmpSavetots) (input : Input) : P (c.serve input).rtmpSavetots := by
  by_cases hvideo : input.message.messageType = 0x09
  · obtain ⟨effect, hproper, hserve⟩ := serve_video c hvideo
    rw [hserve c rfl rfl]
    cases effect with
    | none => exact h
    | store head len => exact h
    | frame pack m =>
      change P (c.handing pack m).rtmpSavetots
      unfold RtmpClient.handing
      split
      · next r hresult =>
        exact hcall _ (Call.mk c.getMillisecond64.1 pack m) r.1 _ h hproper.2 hresult
      · exact h
  · by_cases haudio : input.message.messageType = 0x08
    · obtain ⟨effect, hproper, hserve⟩ := serve_audio c haudio
      rw [hserve c rfl rfl]
      cases effect with
      | none => exact h
      | store head len => exact h
      | frame pack m head =>
        change P (c.handingAudio pack m head).rtmpSavetots
        unfold RtmpClient.handingAudio
        split
        · next r hresult =>
          exact hcall _ (Call.mk c.getMillisecond64.1 pack m) r.1 _ h hproper.2 hresult
        · exact h
    · have hkept := congrArg MediaState.rtmpSavetots (serve_other (c := c) haudio hvideo)
      change (c.serve input).rtmpSavetots = c.rtmpSavetots at hkept
      rwa [hkept]

/-- Messages keep what every call of the muxer keeps. -/
theorem foldl_serve_keeps {P : RtmpTots → Prop}
    (hcall : ∀ (t : RtmpTots) (call : Call) (ret : Int) (t' : RtmpTots), P t → call.HeadGiven →
      call.result t = .ok (ret, t') → P t')
    (h : P c.rtmpSavetots) (inputs : List Input) :
    P (inputs.foldl RtmpClient.serve c).rtmpSavetots := by
  induction inputs generalizing c with
  | nil => exact h
  | cons input inputs ih => exact ih (serve_keeps hcall h input)

end

end RtmpRecv.Client
