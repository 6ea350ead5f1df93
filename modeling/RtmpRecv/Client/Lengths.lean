import RtmpRecv.Client.Runs
import RtmpRecv.Client.Segments

/-!
# Lengths in the frame path

Library `Client`. The lengths that the media handlers compute for the muxer, in unsigned 32-bit
integers, against the numbers of bytes that they stand for.
-/

namespace RtmpRecv.Client
open RtmpRecv.Base RtmpRecv.Tots

/-! ### Exact lengths -/

/-- The length of the tag header: five bytes for AVC, two for AAC, one for other audio. -/
def tagLen (type : Nat) (m : Mem) : Nat :=
  if type = 0x09 then 5 else if m 0 >>> 4 = 10 then 2 else 1

/-- The offsets in `pes_buf` that head data and data are copied to. -/
def frameOffsets : DataType → List Nat
  | .aac => [14]
  | .h264 => [19, 25]
  | _ => []

/-- The lengths of a frame are those of its parts, and all that passes the check is copied inside
`pes_buf`. -/
structure FrameExact (type n : Nat) (m : Mem) (pack : PackData) : Prop where
  dataLen : (pack.dataLen : Int) = (n : Int) - tagLen type m
  esLen : esLen pack = pack.headDataLen + pack.dataLen
  copies : Tots.esLen pack ≤ esLimit pack.type → ∀ off ∈ frameOffsets pack.type,
    off + pack.headDataLen + pack.dataLen ≤ packetPesBuf

/-- An audio message that is handed over has its tag, and leaves room for the stored head. -/
def AudioLengths (c : RtmpClient) (n : Nat) (m : Mem) : Prop :=
  if m 0 >>> 4 = 10 then
    m 1 ≠ 0 → c.audioHeadDataLen ≠ 0 → 2 ≤ n ∧ c.audioHeadDataLen + (n - 2) < 4294967296
  else 1 ≤ n

/-- A video message that is handed over has its tag, and behind that of a key frame leaves room
for the stored head. -/
def VideoLengths (c : RtmpClient) (n : Nat) (m : Mem) : Prop :=
  m 0 &&& 0x0f = 7 → ¬(m 0 >>> 4 = 1 ∧ m 1 = 0) → 5 ≤ n ∧
    (m 0 >>> 4 = 1 → ¬UnitsRefused (m.slice 5 (n - 5)) →
      c.videoHeadDataLen + (n - 5) < 4294967296)

/-- A message whose lengths the handler computes right. -/
def LengthsFit (c : RtmpClient) (type n : Nat) (m : Mem) : Prop :=
  (type = 0x08 → AudioLengths c n m) ∧ (type = 0x09 → VideoLengths c n m)

/-- A frame that is copied without a wrap fits `pes_buf` when it passes the check. -/
theorem frameExact_iff {type n : Nat} {m : Mem} {pack : PackData} :
    FrameExact type n m pack ↔ (pack.dataLen : Int) = (n : Int) - tagLen type m ∧
      pack.headDataLen + pack.dataLen < 4294967296 := by
  constructor
  · intro h
    have hes := h.esLen
    unfold Tots.esLen at hes
    exact ⟨h.dataLen, by omega⟩
  · rintro ⟨hlen, hlt⟩
    have hes : esLen pack = pack.headDataLen + pack.dataLen := Nat.mod_eq_of_lt hlt
    refine ⟨hlen, hes, fun hcheck off hoff ↦ ?_⟩
    have hbuf : packetPesBuf = 4195328 := rfl
    rw [hes] at hcheck
    cases htype : pack.type with
    | unset =>
      rw [htype] at hoff
      cases hoff
    | mp3 =>
      rw [htype] at hoff
      cases hoff
    | aac =>
      rw [htype] at hoff hcheck
      have hlimit : esLimit .aac = packetPesBuf - 14 := rfl
      unfold frameOffsets at hoff
      rw [List.mem_singleton] at hoff
      omega
    | h264 =>
      rw [htype] at hoff hcheck
      have hlimit : esLimit .h264 = packetPesBuf - 25 := rfl
      unfold frameOffsets at hoff
      simp only [List.mem_cons, List.not_mem_nil, or_false] at hoff
      omega

/-! ### Audio -/

section

variable {c : RtmpClient} {chunk : RtmpChunk} {n : Nat} {m : Mem} {pack : PackData}

private theorem handsOver_audio (h8 : chunk.messageType = 0x08) :
    HandsOver c chunk n m pack ↔
      ∃ c' m', (rtmpProcessAudioFrame c chunk n).run m = (.ok (.frame pack c'), m') := by
  unfold HandsOver
  rw [h8]
  simp

private theorem handsOver_video (h9 : chunk.messageType = 0x09) :
    HandsOver c chunk n m pack ↔
      ∃ c' m', (rtmpProcessVideoFrame c chunk n).run m = (.ok (.frame pack c'), m') := by
  unfold HandsOver
  rw [h9]
  simp

/-- The frame of an AAC message. -/
def aacPack (c : RtmpClient) (chunk : RtmpChunk) (n : Nat) : PackData :=
  { type := .aac, decodeMs := chunk.timeStamp, pictureMs := chunk.timeStamp
    headData := some c.audioHeadData, headDataLen := c.audioHeadDataLen
    data := 2, dataLen := toUInt32 ((toUInt32 ((n : Int) - 1) : Int) - 1), isKeyframe := false }

/-- The frame of an audio message of another format. -/
def otherAudioPack (chunk : RtmpChunk) (n : Nat) : PackData :=
  { type := .unset, decodeMs := chunk.timeStamp, pictureMs := chunk.timeStamp
    headData := none, headDataLen := 0
    data := 1, dataLen := toUInt32 ((n : Int) - 1), isKeyframe := false }

/-- What the first part of the audio handler decides. -/
theorem audioFrame_run (c : RtmpClient) (chunk : RtmpChunk) (n : Nat) (m : Mem) :
    ∃ step, (rtmpProcessAudioFrame c chunk n).run m = (.ok step, m) ∧
      (m 0 >>> 4 ≠ 10 → step = .frame (otherAudioPack chunk n) c) ∧
      (m 0 >>> 4 = 10 → m 1 ≠ 0 ∧ c.audioHeadDataLen ≠ 0 → step = .frame (aacPack c chunk n) c) ∧
      (m 0 >>> 4 = 10 → ¬(m 1 ≠ 0 ∧ c.audioHeadDataLen ≠ 0) → ∃ c', step = .done 0 c') := by
  unfold rtmpProcessAudioFrame
  simp only [Access.bind_eq, Access.get_bind, Access.run_read]
  by_cases haac : m 0 >>> 4 = 10
  · rw [if_pos haac]
    simp only [Access.run_read]
    by_cases hignored : c.audioHeadDataLen = 0 ∧ m 1 ≠ 0
    · rw [if_pos hignored]
      refine ⟨_, rfl, fun h ↦ absurd haac h, fun _ h ↦ absurd hignored.1 h.2, fun _ _ ↦ ⟨c, rfl⟩⟩
    · rw [if_neg hignored]
      by_cases hheader : m 1 = 0
      · rw [if_pos hheader]
        refine ⟨_, rfl, fun h ↦ absurd haac h, fun _ h ↦ absurd hheader h.1, fun _ _ ↦ ⟨_, rfl⟩⟩
      · rw [if_neg hheader]
        refine ⟨_, rfl, fun h ↦ absurd haac h, fun _ _ ↦ rfl, fun _ h ↦ absurd ⟨hheader, ?_⟩ h⟩
        intro hlen
        exact hignored ⟨hlen, hheader⟩
  · rw [if_neg haac]
    exact ⟨_, rfl, fun _ ↦ rfl, fun h ↦ absurd h haac, fun h ↦ absurd h haac⟩

/-- The lengths of an audio message. -/
theorem audio_lengths (h8 : chunk.messageType = 0x08) (hn : n < 2147483648) :
    (∀ pack, HandsOver c chunk n m pack → FrameExact chunk.messageType n m pack) ↔
      AudioLengths c n m := by
  have htag : tagLen chunk.messageType m = if m 0 >>> 4 = 10 then 2 else 1 := by
    unfold tagLen
    rw [h8]
    rfl
  obtain ⟨step, hrun, hother, haac, hdone⟩ := audioFrame_run c chunk n m
  have hhands : (∀ pack, HandsOver c chunk n m pack → FrameExact chunk.messageType n m pack) ↔
      ∀ pack c', step = .frame pack c' → FrameExact chunk.messageType n m pack := by
    constructor
    · intro h pack c' hstep
      apply h pack
      rw [handsOver_audio h8, hrun, hstep]
      exact ⟨c', m, rfl⟩
    · intro h pack hpack
      rw [handsOver_audio h8, hrun] at hpack
      obtain ⟨c', m', heq⟩ := hpack
      injection heq with heq _
      injection heq with heq
      exact h pack c' heq
  rw [hhands]
  unfold AudioLengths
  by_cases hformat : m 0 >>> 4 = 10
  · rw [if_pos hformat] at htag ⊢
    by_cases hframe : m 1 ≠ 0 ∧ c.audioHeadDataLen ≠ 0
    · have hlen (h : 2 ≤ n) : toUInt32 ((toUInt32 ((n : Int) - 1) : Int) - 1) = n - 2 := by
        unfold toUInt32
        omega
      constructor
      · intro h _ _
        have hexact := frameExact_iff.1 (h _ _ (haac hformat hframe))
        rw [htag] at hexact
        change (toUInt32 ((toUInt32 ((n : Int) - 1) : Int) - 1) : Int) = _ ∧
          c.audioHeadDataLen + toUInt32 ((toUInt32 ((n : Int) - 1) : Int) - 1) < _ at hexact
        have h2 : 2 ≤ n := by omega
        rw [hlen h2] at hexact
        exact ⟨h2, hexact.2⟩
      · intro h pack c' hstep
        obtain ⟨h2, hlt⟩ := h hframe.1 hframe.2
        rw [haac hformat hframe] at hstep
        injection hstep with hpack
        rw [← hpack]
        apply frameExact_iff.2
        rw [htag]
        change (toUInt32 ((toUInt32 ((n : Int) - 1) : Int) - 1) : Int) = _ ∧
          c.audioHeadDataLen + toUInt32 ((toUInt32 ((n : Int) - 1) : Int) - 1) < _
        rw [hlen h2]
        exact ⟨by omega, hlt⟩
    · obtain ⟨c', hstep⟩ := hdone hformat hframe
      constructor
      · intro _ h1 h2
        exact absurd ⟨h1, h2⟩ hframe
      · intro _ pack c'' hframe'
        rw [hstep] at hframe'
        cases hframe'
  · rw [if_neg hformat] at htag ⊢
    constructor
    · intro h
      have hexact := (frameExact_iff.1 (h _ _ (hother hformat))).1
      rw [htag] at hexact
      change (toUInt32 ((n : Int) - 1) : Int) = _ at hexact
      omega
    · intro h pack c' hstep
      rw [hother hformat] at hstep
      injection hstep with hpack
      rw [← hpack]
      apply frameExact_iff.2
      rw [htag]
      have hlen : toUInt32 ((n : Int) - 1) = n - 1 := by
        unfold toUInt32
        omega
      change (toUInt32 ((n : Int) - 1) : Int) = _ ∧ 0 + toUInt32 ((n : Int) - 1) < _
      rw [hlen]
      omega

/-! ### Video -/

private theorem returns_appendVideoHead {t : RtmpTots} (c : RtmpClient) (hc : c.rtmpSavetots = t)
    (bytes : List UInt8) : (appendVideoHead c bytes).Returns fun c' ↦ c'.rtmpSavetots = t := by
  unfold appendVideoHead
  split
  · exact Access.Returns.fail
  · exact Access.Returns.ret hc

/-- A sequence header is not handed over, and leaves the muxer alone. -/
theorem returns_avcSequenceHeader (c : RtmpClient) (ptr : Nat) (dataLen : Int) :
    (avcSequenceHeader c ptr dataLen).Returns fun step ↦
      ∃ ret c', step = .done ret c' ∧ c'.rtmpSavetots = c.rtmpSavetots := by
  unfold avcSequenceHeader
  have hstart := returns_appendVideoHead { c with videoHeadDataLen := 0 } rfl [0, 0, 0, 1]
  refine Access.Returns.bind hstart fun c₁ h₁ ↦ ?_
  split
  · exact Access.Returns.ret ⟨_, _, rfl, h₁⟩
  · refine Access.Returns.bind_of_forall fun spsLen ↦ ?_
    dsimp only
    split
    · exact Access.Returns.ret ⟨_, _, rfl, h₁⟩
    · refine Access.Returns.bind_of_forall fun sps ↦ ?_
      refine Access.Returns.bind (returns_appendVideoHead _ h₁ _) fun c₂ h₂ ↦ ?_
      refine Access.Returns.bind (returns_appendVideoHead _ h₂ _) fun c₃ h₃ ↦ ?_
      refine Access.Returns.bind_of_forall fun ppsLen ↦ ?_
      split
      · exact Access.Returns.ret ⟨_, _, rfl, h₃⟩
      · refine Access.Returns.bind_of_forall fun pps ↦ ?_
        refine Access.Returns.bind (returns_appendVideoHead _ h₃ _) fun c₄ h₄ ↦ ?_
        exact Access.Returns.ret ⟨_, _, rfl, h₄⟩

/-- The frame of an AVC message whose body ends in the tag. -/
private theorem videoFrame_short (c : RtmpClient) (chunk : RtmpChunk) (hn : n < 5)
    (hcodec : m 0 &&& 0x0f = 7)
    (hrecord : ¬(m 0 >>> 4 = 1 ∧ m 1 = 0)) :
    ∃ pack, (rtmpProcessVideoFrame c chunk n).run m = (.ok (.frame pack c), m) ∧
      pack.dataLen = toUInt32 ((n : Int) - 5) := by
  have hstop : nalLoop (nalFuel ((n : Int) - 5)) 5 ((n : Int) - 5) = .ret true :=
    nalLoop_stop _ _ (by omega)
  unfold rtmpProcessVideoFrame
  simp only [Access.bind_eq, Access.get_bind, Access.run_read]
  rw [if_neg (not_not_intro hcodec)]
  simp only [Access.run_read, hstop, Access.ret_bind, if_true]
  by_cases htype : m 0 >>> 4 = 1
  · rw [if_pos htype]
    simp only [Access.run_read]
    rw [if_neg fun h ↦ hrecord ⟨htype, h⟩]
    exact ⟨_, rfl, rfl⟩
  · rw [if_neg htype]
    exact ⟨_, rfl, rfl⟩

private theorem videoFrame_header (hcodec : m 0 &&& 0x0f = 7) (hrecord : m 0 >>> 4 = 1 ∧ m 1 = 0) :
    (rtmpProcessVideoFrame c chunk n).run m = (avcSequenceHeader c 5 ((n : Int) - 5)).run m := by
  unfold rtmpProcessVideoFrame
  simp only [Access.bind_eq, Access.get_bind, Access.run_read]
  rw [if_neg (not_not_intro hcodec)]
  simp only [Access.run_read]
  rw [if_pos hrecord.1]
  simp only [Access.run_read]
  rw [if_pos hrecord.2]

/-- The lengths of a video message. -/
theorem video_lengths (h9 : chunk.messageType = 0x09) (hn : n < 2147483648) :
    (∀ pack, HandsOver c chunk n m pack → FrameExact chunk.messageType n m pack) ↔
      VideoLengths c n m := by
  have htag : tagLen chunk.messageType m = 5 := by
    unfold tagLen
    rw [h9]
    rfl
  have hnone (h : ∀ step m', (rtmpProcessVideoFrame c chunk n).run m = (.ok step, m') →
      ∃ ret c', step = .done ret c') (pack : PackData) : ¬HandsOver c chunk n m pack := by
    rw [handsOver_video h9]
    rintro ⟨c', m', hrun⟩
    obtain ⟨ret, c'', hstep⟩ := h _ _ hrun
    cases hstep
  have hframe {pack : PackData} {c' : RtmpClient} {m' : Mem}
      (hrun : (rtmpProcessVideoFrame c chunk n).run m = (.ok (.frame pack c'), m')) :
      (∀ pack, HandsOver c chunk n m pack → FrameExact chunk.messageType n m pack) ↔
        FrameExact chunk.messageType n m pack := by
    constructor
    · intro h
      exact h pack ((handsOver_video h9).2 ⟨c', m', hrun⟩)
    · intro h pack' hpack
      rw [handsOver_video h9, hrun] at hpack
      obtain ⟨c'', m'', heq⟩ := hpack
      injection heq with heq _
      injection heq with heq
      injection heq with heq _
      rw [← heq]
      exact h
  unfold VideoLengths
  by_cases hcodec : m 0 &&& 0x0f = 7
  · by_cases hrecord : m 0 >>> 4 = 1 ∧ m 1 = 0
    · refine iff_of_true (fun pack hpack ↦ absurd hpack (hnone ?_ pack)) fun _ h ↦ absurd hrecord h
      intro step m' hrun
      rw [videoFrame_header hcodec hrecord] at hrun
      obtain ⟨ret, c', hstep, -⟩ := returns_avcSequenceHeader c 5 ((n : Int) - 5) m step m' hrun
      exact ⟨ret, c', hstep⟩
    · by_cases h5 : 5 ≤ n
      · have hrun := (videoFrame_units c chunk h5 hn hcodec hrecord).1
        simp only [hcodec, hrecord, h5, true_and, not_false_eq_true, forall_const]
        by_cases hr : UnitsRefused (m.slice 5 (n - 5))
        · obtain ⟨⟨m₁, hdone⟩, -⟩ := unitsPart_refused c (videoPack c chunk m (n - 5)) h5 hn hr
          rw [hdone] at hrun
          refine iff_of_true (fun pack hpack ↦ absurd hpack (hnone ?_ pack)) fun _ h ↦ absurd hr h
          intro step m' hrun'
          rw [hrun] at hrun'
          injection hrun' with hstep _
          injection hstep with hstep
          exact ⟨-1, c, hstep.symm⟩
        · obtain ⟨m₁, htaken, -⟩ := unitsPart_taken c (videoPack c chunk m (n - 5)) h5 hn hr
          rw [htaken] at hrun
          rw [hframe hrun, frameExact_iff, htag]
          have hlen : (videoPack c chunk m (n - 5)).dataLen = n - 5 := rfl
          have hhead : (videoPack c chunk m (n - 5)).headDataLen =
              if m 0 >>> 4 = 1 then c.videoHeadDataLen else 0 := rfl
          rw [hlen, hhead]
          by_cases htype : m 0 >>> 4 = 1
          · simp only [htype, hr, if_true, not_false_eq_true, forall_const]
            omega
          · simp only [htype, if_false, false_implies, iff_true]
            omega
      · have hlt : n < 5 := Nat.lt_of_not_le h5
        obtain ⟨pack, hrun, hlen⟩ := videoFrame_short c chunk hlt hcodec hrecord
        rw [hframe hrun, frameExact_iff, htag, hlen]
        refine iff_of_false (fun h ↦ ?_) fun h ↦ h5 (h hcodec hrecord).1
        have hneg := h.1
        omega
  · refine iff_of_true (fun pack hpack ↦ absurd hpack (hnone ?_ pack)) fun h ↦ absurd h hcodec
    intro step m' hrun
    rw [(videoFrame_other c chunk (n := n) hcodec).1] at hrun
    injection hrun with hstep _
    injection hstep with hstep
    exact ⟨-1, c, hstep.symm⟩

end

/-! ### Runs -/

/-- The lengths of what the call hands to the muxer are exact. -/
def ChunkCall.LengthsExact (call : ChunkCall) : Prop :=
  ∀ c chunkId data dataLen,
    chunkStep call.client call.bufdata call.datalen = .message c chunkId data dataLen →
      ∀ pack, HandsOver c (c.rtmpChunk chunkId) dataLen (data.mem call.bufdata) pack →
        FrameExact (c.rtmpChunk chunkId).messageType dataLen.toNat (data.mem call.bufdata) pack

/-- The call hands a message to its handler whose lengths that computes right. -/
def ChunkCall.LengthsFit (call : ChunkCall) : Prop :=
  ∀ c chunkId data dataLen,
    chunkStep call.client call.bufdata call.datalen = .message c chunkId data dataLen →
      Client.LengthsFit c (c.rtmpChunk chunkId).messageType dataLen.toNat (data.mem call.bufdata)

/-- The lengths of a message. -/
theorem message_lengths {c : RtmpClient} {chunk : RtmpChunk} {n : Nat} {m : Mem}
    (hn : n < 2147483648) :
    (∀ pack, HandsOver c chunk n m pack → FrameExact chunk.messageType n m pack) ↔
      LengthsFit c chunk.messageType n m := by
  unfold LengthsFit
  by_cases h8 : chunk.messageType = 0x08
  · rw [audio_lengths h8 hn, h8]
    simp
  · by_cases h9 : chunk.messageType = 0x09
    · rw [video_lengths h9 hn, h9]
      simp
    · refine iff_of_true (fun pack hpack ↦ ?_) ⟨fun h ↦ absurd h h8, fun h ↦ absurd h h9⟩
      rcases hpack with ⟨h, -⟩ | ⟨h, -⟩
      · exact absurd h h8
      · exact absurd h h9

theorem ChunkCall.lengths_iff {call : ChunkCall} (hs : Sound call.client) :
    call.LengthsExact ↔ call.LengthsFit := by
  refine forall₄_congr fun c chunkId data dataLen ↦ forall_congr' fun hstep ↦ ?_
  obtain ⟨n, rfl, hn⟩ := chunkStep_message hs hstep
  exact message_lengths (by omega)

/-- In every run, all lengths that are handed to the muxer are exact if and only if every message
has lengths that its handler computes right. -/
theorem rtmpRecvData_lengths (u : RtmpClient) (h : (rtmpStartPlay (rtmpClient u)).1 = 0)
    (rtmpUrl rtmpApp rtmpStream : List UInt8) (mPBuffer : Mem) (segments : List (List UInt8)) :
    let s := recvRun (rtmpRecvData (playing u rtmpUrl rtmpApp rtmpStream) mPBuffer) segments
    (∀ call ∈ s.calls, call.LengthsExact) ↔ ∀ call ∈ s.calls, call.LengthsFit := by
  intro s
  refine forall₂_congr fun call hcall ↦ ?_
  exact call.lengths_iff (sound_calls h rtmpUrl rtmpApp rtmpStream mPBuffer segments hcall)

/-- The lengths of two audio messages. -/
theorem rtmpRecvData_lengths_audio :
    let s := recvRun (rtmpRecvData (playing blankClient [] [] []) fun _ ↦ 0)
      [zeroHandshake, audioChunks]
    (∀ call ∈ s.calls, call.LengthsExact) ↔ ∀ call ∈ s.calls, call.LengthsFit :=
  rtmpRecvData_lengths blankClient (by decide) [] [] [] (fun _ ↦ 0) [zeroHandshake, audioChunks]

/-- The step hands over an AAC message without the second byte of its tag. -/
def ChunkStep.AacCut (buf : Mem) : ChunkStep → Prop
  | .message c chunkId data dataLen =>
    (c.rtmpChunk chunkId).messageType = 0x08 ∧ data.mem buf 0 >>> 4 = 10 ∧
      data.mem buf 1 ≠ 0 ∧ c.audioHeadDataLen ≠ 0 ∧ dataLen < 2
  | _ => False

instance (buf : Mem) (step : ChunkStep) : Decidable (step.AacCut buf) :=
  match step with
  | .message c chunkId data dataLen => inferInstanceAs (Decidable
      ((c.rtmpChunk chunkId).messageType = 0x08 ∧ data.mem buf 0 >>> 4 = 10 ∧
        data.mem buf 1 ≠ 0 ∧ c.audioHeadDataLen ≠ 0 ∧ dataLen < 2))
  | .ret _ _ => isFalse id
  | .fault _ _ => isFalse id

private theorem not_lengthsFit_of_aacCut {call : ChunkCall}
    (h : (chunkStep call.client call.bufdata call.datalen).AacCut call.bufdata) :
    ¬call.LengthsFit := by
  intro hfit
  cases hstep : chunkStep call.client call.bufdata call.datalen with
  | ret r c =>
    rw [hstep] at h
    exact h
  | fault e c =>
    rw [hstep] at h
    exact h
  | message c chunkId data dataLen =>
    rw [hstep] at h
    obtain ⟨h8, haac, hraw, hhead, hshort⟩ := h
    have haudio := (hfit c chunkId data dataLen hstep).1 h8
    unfold AudioLengths at haudio
    rw [if_pos haac] at haudio
    have h2 := (haudio hraw hhead).1
    omega

/-- An AAC sequence header, and a message of the one byte `0xaf` in front of another chunk. -/
def cutAudioChunks : List UInt8 :=
  [4, 0, 0, 0, 0, 0, 4, 8, 0, 0, 0, 0, 0xaf, 0, 0x12, 0x10,
    4, 0, 0, 0, 0, 0, 1, 8, 0, 0, 0, 0, 0xaf, 4]

/-- The length of the AAC message wraps, and it is copied over the end of `pes_buf`. -/
theorem rtmpRecvData_wraps_length :
    let s := recvRun (rtmpRecvData (playing blankClient [] [] []) fun _ ↦ 0)
      [zeroHandshake, cutAudioChunks]
    s.fault = some .outOfBounds ∧ ¬∀ call ∈ s.calls, call.LengthsExact := by
  intro s
  constructor
  · decide +kernel
  · intro h
    have hcut : ∃ call ∈ s.calls,
        (chunkStep call.client call.bufdata call.datalen).AacCut call.bufdata := by
      decide +kernel
    obtain ⟨call, hcall, haac⟩ := hcut
    have hs := sound_calls (by decide) [] [] [] (fun _ ↦ 0) [zeroHandshake, cutAudioChunks] hcall
    exact not_lengthsFit_of_aacCut haac ((call.lengths_iff hs).1 (h call hcall))

end RtmpRecv.Client
