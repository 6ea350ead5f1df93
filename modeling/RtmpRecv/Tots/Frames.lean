import RtmpRecv.Tots.Clock
import RtmpRecv.Tots.Runs

/-!
# The muxer from outside

Library `Tots`. What a muxer is for: it has a file or none, it knows the time of the last video
frame, and it has sent two lists of PES packets. A frame adds its packet to one of them. A call of
`rtmp_tots_packet_from_cache` does to the muxer what its frame does to these lists.
-/

namespace RtmpRecv.Tots
open RtmpRecv.Base RtmpRecv.Wire

/-- A frame: its kind, its two times, whether a delimiter goes in front of it, and its bytes. -/
structure Frame where
  type : DataType
  decodeMs : Nat
  pictureMs : Nat
  lacksDelimiter : Bool
  bytes : List UInt8
  deriving DecidableEq, Repr

/-- The presentation time that a frame gets behind a video frame of the time `lastVideo`. -/
def Frame.pts (frame : Frame) (lastVideo : Nat) : Nat :=
  (match frame.type with
    | .aac => audioPictureMs frame.pictureMs lastVideo
    | _ => frame.pictureMs) * 90 % 18446744073709551616

/-- The decoding time that a frame gets. -/
def Frame.dts (frame : Frame) : Nat := frame.decodeMs * 90 % 18446744073709551616

/-- The PES packet of a frame. -/
def Frame.pes (frame : Frame) (lastVideo : Nat) : List UInt8 :=
  match frame.type with
  | .aac => audioPesHeader frame.bytes.length (frame.pts lastVideo) ++ frame.bytes
  | _ => videoPesHeader ++ rtmpTotsPacketPesSetTime (frame.pts lastVideo) frame.dts ++
      ((if frame.lacksDelimiter then unitStart else []) ++ frame.bytes)

/-- The frame passes the size check. -/
def Frame.Short (frame : Frame) : Prop := frame.bytes.length ≤ esLimit frame.type

instance (frame : Frame) : Decidable frame.Short :=
  inferInstanceAs (Decidable (frame.bytes.length ≤ esLimit frame.type))

/-- What a muxer stands for. -/
@[ext]
structure Muxer where
  fileOpen : Bool
  lastVideo : Nat
  video : List (List UInt8)
  audio : List (List UInt8)

/-- A muxer that has sent nothing yet. -/
def Muxer.fresh (fileOpen : Bool) : Muxer := ⟨fileOpen, 0, [], []⟩

/-- A muxer takes a frame. -/
def Muxer.take (s : Muxer) (frame : Frame) : Muxer where
  fileOpen := s.fileOpen
  lastVideo := if frame.type = .h264 then frame.pictureMs else s.lastVideo
  video :=
    if s.fileOpen ∧ frame.type = .h264 ∧ frame.Short then s.video ++ [frame.pes s.lastVideo]
    else s.video
  audio :=
    if s.fileOpen ∧ frame.type = .aac ∧ frame.Short then s.audio ++ [frame.pes s.lastVideo]
    else s.audio

/-- The muxer of the client, from outside. -/
def RtmpTots.muxer (t : RtmpTots) : Muxer where
  fileOpen := t.tsFp
  lastVideo := t.lastVideoPictureMs
  video := unitsOf videoPid (packets t.output.emitted)
  audio := unitsOf audioPid (packets t.output.emitted)

theorem muxer_rtmpTots (pesBuf : Mem) (tsFp : Bool) (now : Nat) :
    (rtmpTots pesBuf tsFp now).muxer = Muxer.fresh tsFp := by
  have hpackets := (muxed_rtmpTots pesBuf tsFp now).packets
  unfold RtmpTots.muxer
  rw [hpackets]
  rfl

/-- The frame of a call. -/
def Call.frame (call : Call) : Frame where
  type := call.pack.type
  decodeMs := call.pack.decodeMs
  pictureMs := call.pack.pictureMs
  lacksDelimiter := lacksDelimiterAt (startTypeOf (startBytes call.pack call.mem))
    (delimiterBytes call.pack call.mem)
  bytes := frameBytes call.pack call.mem

/-- A call without head data does not count any. -/
def Call.HeadGiven (call : Call) : Prop :=
  call.pack.headData = none → call.pack.headDataLen = 0

section

variable {call : Call}

theorem length_frame (hhead : call.HeadGiven) :
    call.frame.bytes.length = call.pack.headDataLen + call.pack.dataLen := by
  change (frameBytes call.pack call.mem).length = _
  unfold frameBytes headBytes
  rw [List.length_append, Mem.length_slice]
  cases hdata : call.pack.headData with
  | none =>
    rw [hhead hdata]
    rfl
  | some head =>
    dsimp only
    rw [Mem.length_slice]

/-- A call fits exactly when its frame is sent and short. -/
theorem fits_iff (hhead : call.HeadGiven) :
    call.Fits ↔ (pidOf call.pack.type).isSome ∧ call.frame.Short := by
  unfold Call.Fits Frame.Short
  rw [length_frame hhead]
  rfl

/-- The first 19 bytes of a video PES packet. -/
private theorem slice_videoPes (dts pts : Nat) (pack : PackData) (t : RtmpTots) (m : Mem) :
    ((videoPes dts pts pack t m).pesBuf.slice 0 (videoPes dts pts pack t m).pesLen).take 19 =
      videoPesHeader ++ rtmpTotsPacketPesSetTime pts dts := by
  have hlong : 19 ≤ (videoPes dts pts pack t m).pesLen := by
    unfold videoPes
    split
    · dsimp only
      omega
    · dsimp only
      omega
  have hlen : (videoPesHeader ++ rtmpTotsPacketPesSetTime pts dts).length = 19 := rfl
  apply List.ext_getElem
  · rw [List.length_take, Mem.length_slice, hlen]
    omega
  · intro i hi hi'
    have hread := videoPes_header dts pts pack t m (i := i) (by omega)
    rw [List.getD_eq_getElem _ _ (by rw [Mem.length_slice]; omega),
      List.getD_eq_getElem _ _ hi'] at hread
    rw [List.getElem_take]
    exact hread

/-- The builders leave the PES packet of the frame. -/
theorem slice_built (hhead : call.HeadGiven) (hfits : call.Fits) (t : RtmpTots) :
    (call.built t).pesBuf.slice 0 (call.built t).pesLen = call.frame.pes t.lastVideoPictureMs := by
  have hsum : call.pack.headDataLen + call.pack.dataLen < 4294967296 :=
    Nat.lt_of_not_le hfits.not_wraps
  have hes : esLen call.pack = call.frame.bytes.length := by
    rw [length_frame hhead]
    exact Nat.mod_eq_of_lt hsum
  have hpts : call.pts t = call.frame.pts t.lastVideoPictureMs := rfl
  cases htype : call.pack.type with
  | unset =>
    have hsome := hfits.1
    rw [htype] at hsome
    cases hsome
  | mp3 =>
    have hsome := hfits.1
    rw [htype] at hsome
    cases hsome
  | aac =>
    have hbuilt : call.built t = audioPes (call.pts t) call.pack (call.noted t) call.mem := by
      simp [Call.built, htype]
    have hframe : call.frame.type = .aac := htype
    rw [hbuilt, slice_audioPes _ _ _ hhead hsum, hes, hpts]
    unfold Frame.pes
    rw [hframe]
    rfl
  | h264 =>
    have hframe : call.frame.type = .h264 := htype
    have hpayload := videoPes_payload call.dts (call.pts t) (call.noted t) call.mem hhead hsum
    rw [call.built_h264 htype, ← List.take_append_drop 19 (Mem.slice _ 0 _), slice_videoPes,
      hpayload, hpts]
    unfold Frame.pes
    rw [hframe]
    rfl

/-- Different kinds of frames have different packet identifiers. -/
private theorem pidOf_inj {type type' : DataType} {pid : Nat} (h : pidOf type = some pid)
    (h' : pidOf type' = some pid) : type' = type := by
  rcases pidOf_cases h with ⟨rfl, rfl⟩ | ⟨rfl, rfl⟩
  · rcases pidOf_cases h' with ⟨htype, -⟩ | ⟨-, hpid⟩
    · exact htype
    · exact absurd hpid (by decide)
  · rcases pidOf_cases h' with ⟨-, hpid⟩ | ⟨htype, -⟩
    · exact absurd hpid (by decide)
    · exact htype

/-- What a call adds to the stream of the frames of one kind. -/
private theorem Muxed.unitsOf_take {t t' : RtmpTots} {ps : List (List UInt8)} (h : Muxed t ps)
    (hhead : call.HeadGiven) {ret : Int} (hresult : call.result t = .ok (ret, t'))
    {type : DataType} {pid : Nat} (hpid : pidOf type = some pid) :
    unitsOf pid (Wire.packets t'.output.emitted) =
      if t.tsFp = true ∧ call.frame.type = type ∧ call.frame.Short then
        unitsOf pid (Wire.packets t.output.emitted) ++ [call.frame.pes t.lastVideoPictureMs]
      else unitsOf pid (Wire.packets t.output.emitted) := by
  have hstep := h.stepped call
  have hfitsIff := fits_iff hhead
  rw [hresult] at hstep
  cases hstep with
  | silent hnot hsame _ =>
    rw [hsame.output, if_neg]
    rintro ⟨hfp, htype, hshort⟩
    have hsome : (pidOf call.pack.type).isSome := by
      change (pidOf call.frame.type).isSome
      rw [htype, hpid]
      rfl
    exact hnot ⟨hfitsIff.2 ⟨hsome, hshort⟩, hfp⟩
  | @emitted pid' hpid' hfits hfp =>
    have hshort := (hfitsIff.1 hfits).2
    have hkept := sameFrame_afterStage call.now (call.pts t) pid' call.pack (call.built t)
    have hrun : Tots.runCalls t [call] =
        .ok (Tots.afterStage call.now (call.pts t) pid' call.pack (call.built t)) := by
      simp [Tots.runCalls, hresult]
    obtain ⟨qs, hstreams, hmuxed, -⟩ :=
      h.streams hfp false (fun hf ↦ absurd hf Bool.false_ne_true) hrun
    rw [h.packets, hmuxed.packets, hstreams.unitsOf ((pidOf_cases hpid).imp And.right And.right),
      builtFor, hresult]
    dsimp only
    rw [hkept.pesBuf, hkept.pesLen, slice_built hhead hfits t, builtFor]
    by_cases htype : call.frame.type = type
    · have hsent : pidOf call.pack.type = some pid := by
        rw [← hpid, ← htype]
        rfl
      rw [if_pos ⟨hfits, hsent⟩, if_pos ⟨hfp, htype, hshort⟩]
    · rw [if_neg fun hs ↦ htype (pidOf_inj hpid hs.2), if_neg fun hs ↦ htype hs.2.1,
        List.append_nil]

/-- A call of a muxer that has emitted whole packets does what its frame does. -/
theorem Muxed.muxer_call {t t' : RtmpTots} {ps : List (List UInt8)} (h : Muxed t ps)
    (hhead : call.HeadGiven) {ret : Int} (hresult : call.result t = .ok (ret, t')) :
    t'.muxer = t.muxer.take call.frame := by
  ext1
  · exact h.call_tsFp hresult
  · have hstep := h.stepped call
    rw [hresult] at hstep
    cases hstep with
    | silent _ _ hlast => exact hlast
    | @emitted pid _ _ _ =>
      have hkept := sameFrame_afterStage call.now (call.pts t) pid call.pack (call.built t)
      exact hkept.lastVideoPictureMs.trans (call.lastVideo_built t)
  · exact h.unitsOf_take hhead hresult rfl
  · exact h.unitsOf_take hhead hresult rfl

/-! ### Faults -/

/-- The offset of the frame of a call in its PES packet. -/
def Call.offset (call : Call) : Nat :=
  match call.pack.type with
  | .aac => 14
  | _ => if call.frame.lacksDelimiter then 25 else 19

/-- The size check lets the frame through, and the copies end outside of `pes_buf`. -/
def Call.Overruns (call : Call) : Prop :=
  (pidOf call.pack.type).isSome ∧ esLen call.pack ≤ esLimit call.pack.type ∧
    packetPesBuf < call.offset + call.pack.headDataLen + call.pack.dataLen

/-- A call ends with a fault, whatever the muxer holds. -/
theorem Call.result_overruns (h : call.Overruns) (t : RtmpTots) :
    call.result t = .error .outOfBounds := by
  obtain ⟨hsome, hes, hover⟩ := h
  have hrun := call.run_fromCache t
  unfold Call.result
  rw [hrun]
  cases htype : call.pack.type with
  | unset =>
    rw [htype] at hsome
    cases hsome
  | mp3 =>
    rw [htype] at hsome
    cases hsome
  | aac =>
    have hlimit : ¬esLen call.pack > packetPesBuf - 14 := by
      rw [htype] at hes
      exact Nat.not_lt.2 hes
    have hoffset : call.offset = 14 := by rw [Call.offset, htype]
    dsimp only
    rw [run_rtmpTotsPacketPesAudioHeader, if_neg hlimit, if_pos (by rwa [hoffset] at hover)]
  | h264 =>
    have hlimit : ¬esLen call.pack > packetPesBuf - 25 := by
      rw [htype] at hes
      exact Nat.not_lt.2 hes
    have hoffset : call.offset = videoOffset call.pack (call.noted t) call.mem := by
      rw [Call.offset, htype]
      rfl
    dsimp only
    rw [run_rtmpTotsPacketPesVideoHeader, if_neg hlimit, if_pos (by rwa [hoffset] at hover)]

/-- A call that is not sent, or refused by the size check, goes through. -/
private theorem Call.result_unsent (h : ¬((pidOf call.pack.type).isSome ∧
    esLen call.pack ≤ esLimit call.pack.type)) (t : RtmpTots) : ∃ r, call.result t = .ok r := by
  have hrun := call.run_fromCache t
  unfold Call.result
  rw [hrun]
  cases htype : call.pack.type with
  | unset => exact ⟨_, rfl⟩
  | mp3 => exact ⟨_, rfl⟩
  | aac =>
    rw [htype] at h
    have hlong : esLen call.pack > packetPesBuf - 14 := Nat.lt_of_not_le fun hle ↦ h ⟨rfl, hle⟩
    dsimp only
    rw [run_rtmpTotsPacketPesAudioHeader, if_pos hlong]
    exact ⟨_, rfl⟩
  | h264 =>
    rw [htype] at h
    have hlong : esLen call.pack > packetPesBuf - 25 := Nat.lt_of_not_le fun hle ↦ h ⟨rfl, hle⟩
    dsimp only
    rw [run_rtmpTotsPacketPesVideoHeader, if_pos hlong]
    exact ⟨_, rfl⟩

/-- Any other call of a muxer that has emitted whole packets goes through. -/
theorem Muxed.result_ok {t : RtmpTots} {ps : List (List UInt8)} (h : Muxed t ps)
    (hover : ¬call.Overruns) : ∃ r, call.result t = .ok r := by
  have hbuf : packetPesBuf < 4294967296 := by simp [packetPesBuf]
  have hstep := h.stepped call
  by_cases hsent : (pidOf call.pack.type).isSome ∧ esLen call.pack ≤ esLimit call.pack.type
  · cases hresult : call.result t with
    | ok r => exact ⟨r, rfl⟩
    | error e =>
      rw [hresult] at hstep
      cases hstep with
      | overrun hwraps =>
        unfold Call.Wraps at hwraps
        exact absurd ⟨hsent.1, hsent.2, by omega⟩ hover
  · exact Call.result_unsent hsent t

/-- A call overruns `pes_buf`, or does what its frame does. -/
theorem Muxed.result_cases {t : RtmpTots} {ps : List (List UInt8)} (h : Muxed t ps)
    (hhead : call.HeadGiven) :
    call.Overruns ∧ call.result t = .error .outOfBounds ∨
      ¬call.Overruns ∧ ∃ ret t' qs, call.result t = .ok (ret, t') ∧ Muxed t' (ps ++ qs) ∧
        t'.muxer = t.muxer.take call.frame := by
  by_cases hover : call.Overruns
  · exact Or.inl ⟨hover, Call.result_overruns hover t⟩
  · obtain ⟨⟨ret, t'⟩, hresult⟩ := h.result_ok hover
    obtain ⟨qs, hmuxed⟩ := h.call hresult
    exact Or.inr ⟨hover, ret, t', qs, hresult, hmuxed, h.muxer_call hhead hresult⟩

end

end RtmpRecv.Tots
