import RtmpRecv.Client.Aac
import RtmpRecv.Client.AnnexB
import RtmpRecv.Tots.Stamps

/-!
# Time stamps of a message

Library `Client`. What the PES packets of a message say about its time and its composition time.
The presentation time is a 32-bit sum that may wrap; in the 33 bits of a time stamp it does not
show, since 90 times `2 ^ 32` is a multiple of `2 ^ 33`.
-/

namespace RtmpRecv.Client
open RtmpRecv.Base RtmpRecv.Tots RtmpRecv.Wire

/-- The composition time of a video message, taken as zero above a second. -/
def compositionTime (m : Mem) : Nat :=
  if be24 (m 2) (m 3) (m 4) > 1000 then 0 else be24 (m 2) (m 3) (m 4)

theorem compositionTime_le (m : Mem) : compositionTime m ≤ 1000 := by
  unfold compositionTime
  split
  · exact Nat.zero_le _
  · omega

/-- The PES packet of a video message with time `t` and composition time `o`, and the transport
packet that starts it. -/
structure VideoTimed (t o : Nat) (pes first : List UInt8) : Prop where
  stamped : VideoStamped (90 * t) (90 * (t + o)) pes first
  apart : (pesPts pes + 8589934592 - pesDts pes) % 8589934592 = 90 * o

/-- What the handler decides about an audio message: a frame carries its time, and the muxer is not
touched. -/
inductive AudioDecided (c : RtmpClient) (t : Nat) : MediaStep → Prop where
  | done {ret : Int} {c' : RtmpClient} (hsame : c'.rtmpSavetots = c.rtmpSavetots) :
      AudioDecided c t (.done ret c')
  | frame {pack : PackData} (htype : pack.type ≠ .h264) (hpicture : pack.pictureMs = t) :
      AudioDecided c t (.frame pack c)

theorem audioDecided (c : RtmpClient) (chunk : RtmpChunk) (n : Nat) (m : Mem) :
    ∃ step, (rtmpProcessAudioFrame c chunk n).run m = (.ok step, m) ∧
      AudioDecided c chunk.timeStamp step := by
  unfold rtmpProcessAudioFrame
  simp only [Access.bind_eq, Access.get_bind, Access.run_read]
  by_cases haac : m 0 >>> 4 = 10
  · rw [if_pos haac]
    simp only [Access.run_read]
    by_cases hignored : c.audioHeadDataLen = 0 ∧ m 1 ≠ 0
    · rw [if_pos hignored]
      exact ⟨_, rfl, AudioDecided.done rfl⟩
    · rw [if_neg hignored]
      by_cases hheader : m 1 = 0
      · rw [if_pos hheader]
        exact ⟨_, rfl, AudioDecided.done rfl⟩
      · rw [if_neg hheader]
        exact ⟨_, rfl, AudioDecided.frame nofun rfl⟩
  · rw [if_neg haac]
    exact ⟨_, rfl, AudioDecided.frame nofun rfl⟩

/-- What the handler decides about a video message: a frame carries its times, and the muxer is
not touched. -/
inductive VideoDecided (c : RtmpClient) (t o : Nat) : MediaStep → Prop where
  | done {ret : Int} {c' : RtmpClient} (hsame : c'.rtmpSavetots = c.rtmpSavetots) :
      VideoDecided c t o (.done ret c')
  | frame {pack : PackData} (htype : pack.type = .h264) (hdecode : pack.decodeMs = t)
      (hpicture : pack.pictureMs = (t + o) % 4294967296) : VideoDecided c t o (.frame pack c)

theorem videoDecided (c : RtmpClient) (chunk : RtmpChunk) (n : Int) {m m' : Mem} {step : MediaStep}
    (hrun : (rtmpProcessVideoFrame c chunk n).run m = (.ok step, m')) :
    VideoDecided c chunk.timeStamp (compositionTime m) step := by
  have hloop (pack : PackData) (htype : pack.type = .h264)
      (hdecode : pack.decodeMs = chunk.timeStamp)
      (hpicture : pack.pictureMs = (chunk.timeStamp + compositionTime m) % 4294967296)
      (fuel : Nat) (d : Int) :
      ((nalLoop fuel 5 d).bind fun ok ↦ if ok then .ret (.frame pack c) else
        (.ret (.done (-1) c) : Access Fault MediaStep)).Returns
          (VideoDecided c chunk.timeStamp (compositionTime m)) := by
    apply Access.Returns.bind_of_forall
    intro ok
    split
    · exact Access.Returns.ret (VideoDecided.frame htype hdecode hpicture)
    · exact Access.Returns.ret (VideoDecided.done rfl)
  unfold rtmpProcessVideoFrame at hrun
  simp only [Access.bind_eq, Access.get_bind, Access.run_read] at hrun
  by_cases hcodec : m 0 &&& 0x0f = 7
  · rw [if_neg (not_not_intro hcodec)] at hrun
    simp only [Access.run_read] at hrun
    by_cases htype : m 0 >>> 4 = 1
    · rw [if_pos htype] at hrun
      simp only [Access.run_read] at hrun
      by_cases hkind : m 1 = 0
      · rw [if_pos hkind] at hrun
        obtain ⟨ret, c', rfl, hsame⟩ := returns_avcSequenceHeader c 5 _ m _ m' hrun
        exact VideoDecided.done hsame
      · rw [if_neg hkind] at hrun
        exact hloop _ rfl rfl rfl _ _ m _ m' hrun
    · rw [if_neg htype] at hrun
      exact hloop _ rfl rfl rfl _ _ m _ m' hrun
  · rw [if_pos hcodec] at hrun
    cases hrun
    exact VideoDecided.done rfl

section

variable {c c' : RtmpClient} {chunk : RtmpChunk} {n : Nat} {m : Mem} {ps : List (List UInt8)}

/-- What a video message emits carries its times. -/
private theorem video_timed (hmuxed : Muxed c.rtmpSavetots ps)
    (htime : chunk.timeStamp < 4294967296) {ret : Int}
    (hrun : ((rtmpProcessVideo c chunk n).run m).1 = .ok (ret, c')) :
    ∃ qs pess, packets c'.rtmpSavetots.output.emitted =
        packets c.rtmpSavetots.output.emitted ++ qs ∧
      unitsOf videoPid (packets c'.rtmpSavetots.output.emitted) =
        unitsOf videoPid (packets c.rtmpSavetots.output.emitted) ++ pess ∧
      List.Forall₂ (VideoTimed chunk.timeStamp (compositionTime m)) pess
        ((streamOf videoPid qs).filter packetStarts) := by
  have hle := compositionTime_le m
  cases hframe : (rtmpProcessVideoFrame c chunk n).run m with
  | mk result m' =>
    cases result with
    | error e =>
      rw [rtmpProcessVideo, Access.bind_eq, Access.run_bind_error hframe] at hrun
      cases hrun
    | ok step =>
      cases videoDecided c chunk n hframe with
      | done hsame =>
        rw [(video_done hframe).1] at hrun
        cases hrun
        refine ⟨[], [], ?_, ?_, List.Forall₂.nil⟩
        · rw [hsame, List.append_nil]
        · rw [hsame, List.append_nil]
      | @frame pack htype hdecode hpicture =>
        rw [processed_frame hframe] at hrun
        cases hresult : (Call.mk c.getMillisecond64.1 pack m').result c.rtmpSavetots with
        | error e =>
          rw [hresult] at hrun
          cases hrun
        | ok r =>
          rw [hresult] at hrun
          cases hrun
          obtain ⟨qs, pess, hpackets, hunits, hstamps⟩ :=
            hmuxed.videoStamps htype (by dsimp only; omega) hresult
          refine ⟨qs, pess, hpackets, hunits, hstamps.imp ?_⟩
          intro pes first h
          have hpts : (Call.mk c.getMillisecond64.1 pack m').pts c.rtmpSavetots =
              (chunk.timeStamp + compositionTime m) % 4294967296 * 90 := by
            rw [Call.pts, htype]
            dsimp only
            rw [hpicture]
            exact Nat.mod_eq_of_lt (by omega)
          have hdts : (Call.mk c.getMillisecond64.1 pack m').dts = chunk.timeStamp * 90 := by
            rw [Call.dts, hdecode]
            exact Nat.mod_eq_of_lt (by omega)
          have hptsRead := h.pts
          have hdtsRead := h.dts
          rw [hpts] at hptsRead
          rw [hdts] at hdtsRead
          constructor
          · exact { h with pts := by omega, dts := by omega }
          · omega

/-- What an audio message emits carries the time of its frame. -/
private theorem audio_timed (hmuxed : Muxed c.rtmpSavetots ps)
    (htime : chunk.timeStamp < 4294967296) {ret : Int}
    (hrun : ((rtmpProcessAudio c chunk n).run m).1 = .ok (ret, c')) :
    ∃ pess, unitsOf audioPid (packets c'.rtmpSavetots.output.emitted) =
        unitsOf audioPid (packets c.rtmpSavetots.output.emitted) ++ pess ∧
      ∀ pes ∈ pess, TimeStampMarked pes 9 2 ∧
        (audioPictureMs chunk.timeStamp c.rtmpSavetots.lastVideoPictureMs = chunk.timeStamp →
          pesPts pes = 90 * chunk.timeStamp % 8589934592) := by
  obtain ⟨step, hframe, hdecided⟩ := audioDecided c chunk n m
  cases hdecided with
  | @done ret c' hsame =>
    rw [rtmpProcessAudio, Access.bind_eq, Access.run_bind_ok hframe] at hrun
    cases hrun
    refine ⟨[], ?_, fun pes hpes ↦ absurd hpes List.not_mem_nil⟩
    rw [hsame, List.append_nil]
  | @frame pack htype hpicture =>
    rw [run_audio_frame hframe rfl] at hrun
    generalize hcall : Call.mk c.getMillisecond64.1
      (headed c ((pack.dataLen + c.audioHeadDataLen) % 4294967296) pack) m = call at hrun
    have htype' : call.pack.type ≠ .h264 := hcall ▸ htype
    have hpicture' : call.pack.pictureMs = chunk.timeStamp := hcall ▸ hpicture
    cases hresult : call.result c.rtmpSavetots with
    | error e =>
      rw [hresult] at hrun
      cases hrun
    | ok r =>
      rw [hresult] at hrun
      cases hrun
      obtain ⟨pess, hunits, hstamps⟩ := hmuxed.audioStamps htype' hresult
      refine ⟨pess, hunits, fun pes hpes ↦ ⟨(hstamps pes hpes).marked, fun hown ↦ ?_⟩⟩
      have hpts : call.pts c.rtmpSavetots = chunk.timeStamp * 90 := by
        unfold Call.pts
        split
        · rw [hpicture', hown]
          exact Nat.mod_eq_of_lt (by omega)
        · rw [hpicture']
          exact Nat.mod_eq_of_lt (by omega)
      rw [(hstamps pes hpes).pts, hpts, Nat.mul_comm]

end

/-- The PES packets that a video message leaves carry the presentation and decoding time of the
message modulo `2 ^ 33`, also where the 32-bit sum wraps, and the clock reference of the first
transport packet of each is its presentation time. The PES packets of an audio message that is sent
with its own time carry that time. -/
theorem rtmpProcessVideo_times (pesBuf : Mem) (tsFp : Bool) (start : Nat) {calls : List Call}
    {c : RtmpClient} (hmuxer : runCalls (rtmpTots pesBuf tsFp start) calls = .ok c.rtmpSavetots)
    {chunk : RtmpChunk} (htime : chunk.timeStamp < 4294967296) (n : Nat) (m : Mem) :
    (∀ ret c', ((rtmpProcessVideo c chunk n).run m).1 = .ok (ret, c') →
      ∃ qs pess, packets c'.rtmpSavetots.output.emitted =
          packets c.rtmpSavetots.output.emitted ++ qs ∧
        unitsOf videoPid (packets c'.rtmpSavetots.output.emitted) =
          unitsOf videoPid (packets c.rtmpSavetots.output.emitted) ++ pess ∧
        List.Forall₂ (VideoTimed chunk.timeStamp (compositionTime m)) pess
          ((streamOf videoPid qs).filter packetStarts)) ∧
      ∀ ret c', ((rtmpProcessAudio c chunk n).run m).1 = .ok (ret, c') →
        ∃ pess, unitsOf audioPid (packets c'.rtmpSavetots.output.emitted) =
            unitsOf audioPid (packets c.rtmpSavetots.output.emitted) ++ pess ∧
          ∀ pes ∈ pess, TimeStampMarked pes 9 2 ∧
            (audioPictureMs chunk.timeStamp c.rtmpSavetots.lastVideoPictureMs = chunk.timeStamp →
              pesPts pes = 90 * chunk.timeStamp % 8589934592) := by
  obtain ⟨ps, hmuxed⟩ := (muxed_rtmpTots pesBuf tsFp start).runCalls hmuxer
  exact ⟨fun _ _ hrun ↦ video_timed hmuxed htime hrun, fun _ _ hrun ↦ audio_timed hmuxed htime hrun⟩

/-- A chunk stream ten milliseconds before its 32-bit time wraps. -/
def lateChunk : RtmpChunk :=
  { RtmpChunk.zero with timeStamp := 4294967286 }

/-- A video frame that is shown 40 ms after it is decoded. -/
def lateFrame : Mem :=
  Mem.ofList [0x27, 1, 0, 0, 40, 0, 0, 0, 1, 0x41]

/-- The presentation time of the frame wraps. -/
theorem rtmpProcessVideo_times_wrapped :
    ∃ c' pes first, ((rtmpProcessVideo (rtmpClient blankClient) lateChunk 10).run lateFrame).1 =
        .ok (0, c') ∧
      unitsOf videoPid (packets c'.rtmpSavetots.output.emitted) = [pes] ∧
      VideoTimed 4294967286 40 pes first := by
  have hsome : ((rtmpProcessVideo (rtmpClient blankClient) lateChunk 10).run lateFrame).1.map
      (fun r ↦ (r.1, (unitsOf videoPid (packets r.2.rtmpSavetots.output.emitted)).length)) =
        .ok (0, 1) := by
    decide +kernel
  have hmuxer : runCalls (rtmpTots (fun _ ↦ 0) true 0) [] =
      .ok (rtmpClient blankClient).rtmpSavetots := rfl
  have hlate : lateChunk.timeStamp < 4294967296 := by decide
  have htimes := (rtmpProcessVideo_times (fun _ ↦ 0) true 0 hmuxer hlate 10 lateFrame).1
  cases hrun : ((rtmpProcessVideo (rtmpClient blankClient) lateChunk 10).run lateFrame).1 with
  | error e =>
    rw [hrun] at hsome
    cases hsome
  | ok r =>
    obtain ⟨qs, pess, -, hunits, htimed⟩ := htimes r.1 r.2 hrun
    have hnone : unitsOf videoPid
        (packets (rtmpClient blankClient).rtmpSavetots.output.emitted) = [] := rfl
    rw [hnone, List.nil_append] at hunits
    rw [hrun] at hsome
    injection hsome with hsome
    obtain ⟨hret, hlen⟩ := Prod.mk.inj hsome
    rw [hunits] at hlen
    obtain ⟨pes, rfl⟩ := List.length_eq_one_iff.1 hlen
    obtain ⟨first, -, hpes, -⟩ := List.forall₂_cons_left_iff.1 htimed
    have hoffset : compositionTime lateFrame = 40 := by decide
    rw [hoffset] at hpes
    have hok : (Except.ok (r.1, r.2) : Except Fault (Int × RtmpClient)) = .ok (0, r.2) := by
      rw [hret]
    exact ⟨r.2, pes, first, hok, hunits, hpes⟩

end RtmpRecv.Client
