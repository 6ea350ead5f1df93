import RtmpRecv.Base.Unwinding
import RtmpRecv.Client.Program

/-!
# Two elementary streams

Library `Client`. The video packets of a run are those of its video messages alone, and the payloads
of its audio packets those of its audio messages alone. Only the times of the audio packets look at
the other stream.
-/

namespace RtmpRecv.Client
open RtmpRecv.Base RtmpRecv.Tots RtmpRecv.Wire

/-- The muxer of the client has emitted whole packets. -/
def Producing (c : RtmpClient) : Prop := ∃ ps, Muxed c.rtmpSavetots ps

/-- What the video stream is made of: the stored head, the file, and the packets so far. -/
@[ext]
structure VideoView where
  head : Mem
  headLen : Nat
  fileOpen : Bool
  units : List (List UInt8)

/-- The video stream of an output. -/
def MediaState.videoView (s : MediaState) : VideoView where
  head := s.videoHeadData
  headLen := s.videoHeadDataLen
  fileOpen := s.rtmpSavetots.muxer.fileOpen
  units := s.rtmpSavetots.muxer.video

/-- The video stream of a client. -/
def RtmpClient.videoView (c : RtmpClient) : VideoView := c.media.videoView

/-- What the audio stream is made of: the stored head, the file, and the payloads so far. -/
@[ext]
structure AudioView where
  head : Mem
  headLen : Nat
  fileOpen : Bool
  payloads : List (List UInt8)

/-- The audio stream of an output. -/
def MediaState.audioView (s : MediaState) : AudioView where
  head := s.audioHeadData
  headLen := s.audioHeadDataLen
  fileOpen := s.rtmpSavetots.muxer.fileOpen
  payloads := s.rtmpSavetots.muxer.audio.map pesPayload

/-- The audio stream of a client. -/
def RtmpClient.audioView (c : RtmpClient) : AudioView := c.media.audioView

/-! ### Handing a frame over -/

section

variable {c : RtmpClient} {pack : PackData} {m : Mem}

/-- A frame ends with a fault, or the muxer of the client takes it. -/
theorem handing_cases (hc : Producing c)
    (hgiven : pack.headData = none → pack.headDataLen = 0) :
    (Call.mk 0 pack m).Overruns ∧ c.handing pack m = c ∨
      ¬(Call.mk 0 pack m).Overruns ∧ ∃ t,
        c.handing pack m = { c.getMillisecond64.2 with rtmpSavetots := t } ∧
        (∃ ps, Muxed t ps) ∧ t.muxer = c.rtmpSavetots.muxer.take (Call.mk 0 pack m).frame := by
  obtain ⟨ps, hmuxed⟩ := hc
  have hhead : (Call.mk c.getMillisecond64.1 pack m).HeadGiven := hgiven
  obtain ⟨hover, hresult⟩ | ⟨hover, ret, t, qs, hresult, hmuxed', hmuxer⟩ :=
    hmuxed.result_cases hhead
  · left
    refine ⟨hover, ?_⟩
    unfold RtmpClient.handing
    rw [hresult]
  · right
    refine ⟨hover, t, ?_, ⟨ps ++ qs, hmuxed'⟩, hmuxer⟩
    unfold RtmpClient.handing
    rw [hresult]

/-- The same for an audio frame. -/
theorem handingAudio_cases (head : Mem) (hc : Producing c)
    (hgiven : pack.headData = none → pack.headDataLen = 0) :
    (Call.mk 0 pack m).Overruns ∧ c.handingAudio pack m head = c ∨
      ¬(Call.mk 0 pack m).Overruns ∧ ∃ t,
        c.handingAudio pack m head =
          { c.getMillisecond64.2 with audioHeadData := head, rtmpSavetots := t } ∧
        (∃ ps, Muxed t ps) ∧ t.muxer = c.rtmpSavetots.muxer.take (Call.mk 0 pack m).frame := by
  obtain ⟨ps, hmuxed⟩ := hc
  have hhead : (Call.mk c.getMillisecond64.1 pack m).HeadGiven := hgiven
  obtain ⟨hover, hresult⟩ | ⟨hover, ret, t, qs, hresult, hmuxed', hmuxer⟩ :=
    hmuxed.result_cases hhead
  · left
    refine ⟨hover, ?_⟩
    unfold RtmpClient.handingAudio
    rw [hresult]
  · right
    refine ⟨hover, t, ?_, ⟨ps ++ qs, hmuxed'⟩, hmuxer⟩
    unfold RtmpClient.handingAudio
    rw [hresult]

end

/-! ### What a frame adds -/

section

variable {s s' : Muxer} {frame : Frame}

/-- A frame that is no video frame adds nothing to the video stream. -/
theorem video_take_other (h : frame.type ≠ .h264) : (s.take frame).video = s.video :=
  if_neg fun hsent ↦ h hsent.2.1

/-- A video frame adds the same packet whatever the muxer has sent. -/
theorem video_take (h : frame.type = .h264) (hfile : s'.fileOpen = s.fileOpen)
    (hvideo : s'.video = s.video) : (s'.take frame).video = (s.take frame).video := by
  have hpes : frame.pes s'.lastVideo = frame.pes s.lastVideo := by
    unfold Frame.pes Frame.pts
    rw [h]
  unfold Muxer.take
  dsimp only
  rw [hfile, hvideo, hpes]

/-- A frame that is no AAC frame adds nothing to the audio stream. -/
theorem audio_take_other (h : frame.type ≠ .aac) : (s.take frame).audio = s.audio :=
  if_neg fun hsent ↦ h hsent.2.1

/-- The payload of an audio packet is the frame. -/
theorem pesPayload_pes (h : frame.type = .aac) (lastVideo : Nat) :
    pesPayload (frame.pes lastVideo) = frame.bytes := by
  unfold Frame.pes
  rw [h]
  rfl

/-- A frame adds the same payload whatever the muxer has sent. -/
theorem audio_take (hfile : s'.fileOpen = s.fileOpen)
    (haudio : s'.audio.map pesPayload = s.audio.map pesPayload) :
    (s'.take frame).audio.map pesPayload = (s.take frame).audio.map pesPayload := by
  unfold Muxer.take
  dsimp only
  rw [hfile]
  split
  · next hsent =>
    rw [List.map_append, List.map_append, haudio, List.map_singleton, List.map_singleton,
      pesPayload_pes hsent.2.1, pesPayload_pes hsent.2.1]
  · exact haudio

end

/-! ### One message -/

section

variable {c c' : RtmpClient} {input : Input}

/-- Every message leaves whole packets. -/
theorem Producing.serve (hc : Producing c) (input : Input) : Producing (c.serve input) := by
  apply serve_keeps (P := fun t ↦ ∃ ps, Muxed t ps) _ hc
  intro t call ret t' h _ hresult
  obtain ⟨ps, hmuxed⟩ := h
  obtain ⟨qs, hmuxed'⟩ := hmuxed.call hresult
  exact ⟨ps ++ qs, hmuxed'⟩

/-- An audio message leaves the video stream alone. -/
theorem videoView_audio (hc : Producing c) (htype : input.message.messageType = 0x08) :
    (c.serve input).videoView = c.videoView := by
  obtain ⟨effect, hproper, hserve⟩ := serve_audio c htype
  rw [hserve c rfl rfl]
  cases effect with
  | none => rfl
  | store head len => rfl
  | frame pack m head =>
    change (c.handingAudio pack m head).videoView = _
    obtain ⟨-, hfault⟩ | ⟨-, t, hsent, -, hmuxer⟩ :=
      handingAudio_cases (m := m) head hc hproper.2
    · rw [hfault]
    · rw [hsent]
      have hother : (Call.mk 0 pack m).frame.type ≠ .h264 := hproper.1
      have hfile : t.muxer.fileOpen = c.rtmpSavetots.muxer.fileOpen := by
        rw [hmuxer]
        rfl
      ext1
      · rfl
      · rfl
      · exact hfile
      · exact (congrArg Muxer.video hmuxer).trans (video_take_other hother)

/-- A video message leaves the audio stream alone. -/
theorem audioView_video (hc : Producing c) (htype : input.message.messageType = 0x09) :
    (c.serve input).audioView = c.audioView := by
  obtain ⟨effect, hproper, hserve⟩ := serve_video c htype
  rw [hserve c rfl rfl]
  cases effect with
  | none => rfl
  | store head len => rfl
  | frame pack m =>
    change (c.handing pack m).audioView = _
    obtain ⟨-, hfault⟩ | ⟨-, t, hsent, -, hmuxer⟩ := handing_cases (m := m) hc hproper.2
    · rw [hfault]
    · rw [hsent]
      have hother : (Call.mk 0 pack m).frame.type ≠ .aac := by
        change pack.type ≠ .aac
        rw [hproper.1]
        nofun
      have hfile : t.muxer.fileOpen = c.rtmpSavetots.muxer.fileOpen := by
        rw [hmuxer]
        rfl
      ext1
      · rfl
      · rfl
      · exact hfile
      · exact congrArg (List.map pesPayload)
          ((congrArg Muxer.audio hmuxer).trans (audio_take_other hother))

/-- Any other message leaves both streams alone. -/
private theorem views_other (haudio : input.message.messageType ≠ 0x08)
    (hvideo : input.message.messageType ≠ 0x09) :
    (c.serve input).videoView = c.videoView ∧ (c.serve input).audioView = c.audioView := by
  have hmedia := serve_other (c := c) haudio hvideo
  exact ⟨congrArg MediaState.videoView hmedia, congrArg MediaState.audioView hmedia⟩

/-- A video message does the same to the same video stream. -/
private theorem videoView_shown (hc : Producing c) (hc' : Producing c')
    (htype : input.message.messageType = 0x09) (hview : c.videoView = c'.videoView) :
    (c.serve input).videoView = (c'.serve input).videoView := by
  have hhead : c'.videoHeadData = c.videoHeadData := (congrArg VideoView.head hview).symm
  have hlen : c'.videoHeadDataLen = c.videoHeadDataLen := (congrArg VideoView.headLen hview).symm
  have hfile := congrArg VideoView.fileOpen hview
  have hunits := congrArg VideoView.units hview
  obtain ⟨effect, hproper, hserve⟩ := serve_video c htype
  rw [hserve c rfl rfl, hserve c' hhead hlen]
  cases effect with
  | none => exact hview
  | store head len =>
    ext1
    · rfl
    · rfl
    · exact hfile
    · exact hunits
  | frame pack m =>
    change (c.handing pack m).videoView = (c'.handing pack m).videoView
    obtain ⟨hover, hfault⟩ | ⟨hover, t, hsent, -, hmuxer⟩ := handing_cases (m := m) hc hproper.2
    · obtain ⟨-, hfault'⟩ | ⟨hover', -⟩ := handing_cases (m := m) hc' hproper.2
      · rw [hfault, hfault']
        exact hview
      · exact absurd hover hover'
    · obtain ⟨hover', -⟩ | ⟨-, t', hsent', -, hmuxer'⟩ := handing_cases (m := m) hc' hproper.2
      · exact absurd hover' hover
      · rw [hsent, hsent']
        ext1
        · exact hhead.symm
        · exact hlen.symm
        · exact ((congrArg Muxer.fileOpen hmuxer).trans hfile).trans
            (congrArg Muxer.fileOpen hmuxer').symm
        · have hvideo : (Call.mk 0 pack m).frame.type = .h264 := hproper.1
          have htake := video_take hvideo hfile hunits
          exact ((congrArg Muxer.video hmuxer).trans htake).trans
            (congrArg Muxer.video hmuxer').symm

/-- An audio message does the same to the same audio stream. -/
private theorem audioView_shown (hc : Producing c) (hc' : Producing c')
    (htype : input.message.messageType = 0x08) (hview : c.audioView = c'.audioView) :
    (c.serve input).audioView = (c'.serve input).audioView := by
  have hhead : c'.audioHeadData = c.audioHeadData := (congrArg AudioView.head hview).symm
  have hlen : c'.audioHeadDataLen = c.audioHeadDataLen := (congrArg AudioView.headLen hview).symm
  have hfile := congrArg AudioView.fileOpen hview
  have hpayloads := congrArg AudioView.payloads hview
  obtain ⟨effect, hproper, hserve⟩ := serve_audio c htype
  rw [hserve c rfl rfl, hserve c' hhead hlen]
  cases effect with
  | none => exact hview
  | store head len =>
    ext1
    · rfl
    · rfl
    · exact hfile
    · exact hpayloads
  | frame pack m head =>
    change (c.handingAudio pack m head).audioView = (c'.handingAudio pack m head).audioView
    obtain ⟨hover, hfault⟩ | ⟨hover, t, hsent, -, hmuxer⟩ :=
      handingAudio_cases (m := m) head hc hproper.2
    · obtain ⟨-, hfault'⟩ | ⟨hover', -⟩ := handingAudio_cases (m := m) head hc' hproper.2
      · rw [hfault, hfault']
        exact hview
      · exact absurd hover hover'
    · obtain ⟨hover', -⟩ | ⟨-, t', hsent', -, hmuxer'⟩ :=
        handingAudio_cases (m := m) head hc' hproper.2
      · exact absurd hover' hover
      · rw [hsent, hsent']
        ext1
        · rfl
        · exact hlen.symm
        · exact ((congrArg Muxer.fileOpen hmuxer).trans hfile).trans
            (congrArg Muxer.fileOpen hmuxer').symm
        · exact ((congrArg (fun s ↦ s.audio.map pesPayload) hmuxer).trans
            (audio_take hfile hpayloads)).trans
            (congrArg (fun s ↦ s.audio.map pesPayload) hmuxer').symm

end

/-- The video stream depends on the video messages alone. -/
theorem unwinds_video : Unwinds RtmpClient.serve Producing
    (fun input ↦ input.message.messageType = 0x09) RtmpClient.videoView where
  kept _ input hc := hc.serve input
  hidden c input hc hother := by
    by_cases haudio : input.message.messageType = 0x08
    · exact videoView_audio hc haudio
    · exact (views_other haudio hother).1
  shown _ _ _ hc hc' htype hview := videoView_shown hc hc' htype hview

/-- The audio stream depends on the audio messages alone. -/
theorem unwinds_audio : Unwinds RtmpClient.serve Producing
    (fun input ↦ input.message.messageType = 0x08) RtmpClient.audioView where
  kept _ input hc := hc.serve input
  hidden c input hc hother := by
    by_cases hvideo : input.message.messageType = 0x09
    · exact audioView_video hc hvideo
    · exact (views_other hother hvideo).2
  shown _ _ _ hc hc' htype hview := audioView_shown hc hc' htype hview

/-! ### Runs -/

/-- The message, in a memory of its own. -/
def Input.alone (input : Input) : Input where
  message := input.message
  mem := Mem.ofList input.message.body
  holds := Mem.slice_ofList input.message.body
  short := input.short

/-- A message in a memory of its own is served by its bytes. -/
theorem foldl_serve_alone (c : RtmpClient) (inputs : List Input) :
    (inputs.map Input.alone).foldl RtmpClient.serve c =
      (inputs.map Input.message).foldl RtmpClient.serveMessage c := by
  rw [List.foldl_map, List.foldl_map]
  rfl

private theorem filter_alone (type : Nat) (inputs : List Input) :
    (inputs.map Input.alone).filter (fun input ↦ decide (input.message.messageType = type)) =
      (inputs.filter fun input ↦ decide (input.message.messageType = type)).map Input.alone := by
  rw [List.filter_map]
  rfl

private theorem filter_message (type : Nat) (inputs : List Input) :
    (inputs.map Input.message).filter (fun m ↦ decide (m.messageType = type)) =
      (inputs.filter fun input ↦ decide (input.message.messageType = type)).map
        Input.message := by
  rw [List.filter_map]
  rfl

/-- The streams behind messages that suffice. -/
private theorem views_foldl {c : RtmpClient} (hc : Producing c) {inputs : List Input}
    (hwithin : AllWithin c (inputs.map Input.message)) :
    (inputs.foldl RtmpClient.serve c).videoView =
        (((inputs.map Input.message).filter fun m ↦ decide (m.messageType = 0x09)).foldl
          RtmpClient.serveMessage c).videoView ∧
      (inputs.foldl RtmpClient.serve c).audioView =
        (((inputs.map Input.message).filter fun m ↦ decide (m.messageType = 0x08)).foldl
          RtmpClient.serveMessage c).audioView := by
  rw [foldl_serve_eq hwithin, ← foldl_serve_alone, filter_message, filter_message,
    ← foldl_serve_alone, ← foldl_serve_alone, ← filter_alone, ← filter_alone]
  exact ⟨unwinds_video.purge hc hc rfl _, unwinds_audio.purge hc hc rfl _⟩

theorem Producing.of_media {c : RtmpClient} {s : MediaState} (h : c.media = s)
    {ps : List (List UInt8)} (hmuxed : Muxed s.rtmpSavetots ps) : Producing c := by
  subst h
  exact ⟨ps, hmuxed⟩

theorem producing_connecting {u : RtmpClient} (h : (rtmpStartPlay (rtmpClient u)).1 = 0)
    (rtmpUrl rtmpApp rtmpStream : List UInt8) :
    Producing (connecting (playing u rtmpUrl rtmpApp rtmpStream)) := by
  have hmedia := (media_handshake (playing u rtmpUrl rtmpApp rtmpStream)).2.trans
    (media_playing h rtmpUrl rtmpApp rtmpStream)
  exact .of_media hmedia (muxed_rtmpTots _ _ _)

/-- The video stream of a run is that of a client which is given the video messages alone, and the
payloads of its audio stream those of a client which is given the audio messages alone. -/
theorem rtmpRecvData_separates (u : RtmpClient) (h : (rtmpStartPlay (rtmpClient u)).1 = 0)
    (rtmpUrl rtmpApp rtmpStream : List UInt8) (mPBuffer : Mem) (segments : List (List UInt8)) :
    let c₀ := playing u rtmpUrl rtmpApp rtmpStream
    let c := (recvRun (rtmpRecvData c₀ mPBuffer) segments).client
    AllWithin (connecting c₀) c.rtmpMessages →
      c.videoView = ((c.rtmpMessages.filter fun m ↦ decide (m.messageType = 0x09)).foldl
        RtmpClient.serveMessage (connecting c₀)).videoView ∧
      c.audioView = ((c.rtmpMessages.filter fun m ↦ decide (m.messageType = 0x08)).foldl
        RtmpClient.serveMessage (connecting c₀)).audioView := by
  intro c₀ c hwithin
  obtain ⟨-, inputs, hinputs, hmedia⟩ :=
    media_recvRun u h rtmpUrl rtmpApp rtmpStream mPBuffer segments
  change inputs.map Input.message = c.rtmpMessages at hinputs
  change c.media = (inputs.foldl RtmpClient.serve (connecting c₀)).media at hmedia
  rw [← hinputs] at hwithin ⊢
  obtain ⟨hvideo, haudio⟩ :=
    views_foldl (producing_connecting h rtmpUrl rtmpApp rtmpStream) hwithin
  exact ⟨(congrArg MediaState.videoView hmedia).trans hvideo,
    (congrArg MediaState.audioView hmedia).trans haudio⟩

/-- The two streams of a client that is sent an AVC and an AAC stream, interleaved. -/
theorem rtmpRecvData_separates_avcAac :
    let c₀ := playing blankClient (ascii "rtmp://host/live") (ascii "live") []
    let c := (recvRun (rtmpRecvData c₀ fun _ ↦ 0)
      [zeroHandshake, (Sender.init 128 fun _ ↦ 0).stream avcAacChunks]).client
    c.rtmpMessages = avcAacMessages ∧
      c.videoView = ((c.rtmpMessages.filter fun m ↦ decide (m.messageType = 0x09)).foldl
        RtmpClient.serveMessage (connecting c₀)).videoView ∧
      c.audioView = ((c.rtmpMessages.filter fun m ↦ decide (m.messageType = 0x08)).foldl
        RtmpClient.serveMessage (connecting c₀)).audioView := by
  refine ⟨messages_avcAac, rtmpRecvData_separates blankClient (by decide)
    (ascii "rtmp://host/live") (ascii "live") [] (fun _ ↦ 0) _ ?_⟩
  rw [messages_avcAac]
  exact allWithin_avcAac _

end RtmpRecv.Client
