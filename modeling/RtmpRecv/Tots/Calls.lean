import RtmpRecv.Tots.Reads
import RtmpRecv.Tots.Cache

/-!
# Calls of the muxer

Library `Tots`. A call of `rtmp_tots_packet_from_cache` ignores the frame, refuses it, or builds
its PES packet and hands it to the transport stage. The stage sees what the builder left: the
output and the counters as they were, and the packet in `pes_buf`.
-/

namespace RtmpRecv.Tots
open RtmpRecv.Base RtmpRecv.Wire

/-! ### Building the PES packet -/

/-- `pes_buf` after head data and data have been copied to offset `off`. -/
def copiedFrame (buf : Mem) (off : Nat) (pack : PackData) (m : Mem) : Mem :=
  let buf := match pack.headData with
    | some head => buf.memcpy off (head.slice 0 pack.headDataLen)
    | none => buf
  buf.memcpy (off + pack.headDataLen) (m.slice pack.data pack.dataLen)

/-- The copies leave what is in front of them. -/
theorem copiedFrame_low (buf : Mem) {off i : Nat} (h : i < off) (pack : PackData) (m : Mem) :
    copiedFrame buf off pack m i = buf i := by
  unfold copiedFrame
  cases pack.headData with
  | none => exact Mem.memcpy_outside _ _ _ _ (Or.inl (by omega))
  | some head =>
    rw [Mem.memcpy_outside _ _ _ _ (Or.inl (by omega))]
    exact Mem.memcpy_outside _ _ _ _ (Or.inl h)

theorem run_copyToPes {off : Nat} {bytes : List UInt8} (h : off + bytes.length ≤ packetPesBuf)
    (t : RtmpTots) (m : Mem) :
    (copyToPes t off bytes).run m = (.ok { t with pesBuf := t.pesBuf.memcpy off bytes }, m) := by
  rw [copyToPes_fits t off bytes h, Access.run_ret]

/-- The copies of a frame go through exactly when they end inside `pes_buf`. -/
theorem run_copyFrame (t : RtmpTots) (off : Nat) (pack : PackData) (m : Mem) :
    (copyFrame t off pack).run m =
      (if off + pack.headDataLen + pack.dataLen > packetPesBuf then .error .outOfBounds
      else .ok { t with pesBuf := copiedFrame t.pesBuf off pack m }, m) := by
  have hbytes {β : Type} (f : List UInt8 → Access Fault β) :
      ((Access.getList pack.data pack.dataLen).bind f).run m =
        (f (m.slice pack.data pack.dataLen)).run m :=
    Access.run_bind_ok (Access.run_getList _ _ _) f
  by_cases hlong : off + pack.headDataLen + pack.dataLen > packetPesBuf
  · rw [if_pos hlong]
    by_cases hhead : off + pack.headDataLen > packetPesBuf
    · cases hdata : pack.headData with
      | none => simp [copyFrame, copyHead, hdata, hlong]
      | some head => simp [copyFrame, copyHead, hdata, hhead]
    · cases hdata : pack.headData with
      | none => simp [copyFrame, copyHead, hdata, hlong]
      | some head =>
        have hcopy := copyToPes_fits t off (head.slice 0 pack.headDataLen)
          (by rw [Mem.length_slice]; omega)
        simp [copyFrame, copyHead, hdata, hhead, hcopy, hlong]
  · have hhead : ¬off + pack.headDataLen > packetPesBuf := by omega
    rw [if_neg hlong]
    cases hdata : pack.headData with
    | none =>
      simp only [copyFrame, copyHead, hdata, Access.bind_eq, Access.pure_eq_ret, Access.ret_bind,
        if_neg hlong, hbytes, copiedFrame]
      exact run_copyToPes (by rw [Mem.length_slice]; omega) _ _
    | some head =>
      have hcopy := copyToPes_fits t off (head.slice 0 pack.headDataLen)
        (by rw [Mem.length_slice]; omega)
      simp only [copyFrame, copyHead, hdata, Access.bind_eq, if_neg hhead, hcopy,
        Access.ret_bind, if_neg hlong, hbytes, copiedFrame]
      exact run_copyToPes (by rw [Mem.length_slice]; omega) _ _

theorem run_sendPes (now pts : Nat) (t : RtmpTots) (m : Mem) :
    (sendPes now pts t).run m = (rtmpTotsPacketTsHeader now pts t, m) := by
  unfold sendPes
  cases rtmpTotsPacketTsHeader now pts t with
  | error e => rfl
  | ok r => rfl

/-- The muxer behind the audio builder. -/
def audioPes (pts : Nat) (pack : PackData) (t : RtmpTots) (m : Mem) : RtmpTots :=
  { t with
    pesBuf := copiedFrame (t.pesBuf.memcpy 0 (audioPesHeader (esLen pack) pts)) 14 pack m
    pesLen := esLen pack + 14 }

theorem run_rtmpTotsPacketPesAudioHeader (now pts : Nat) (pack : PackData) (t : RtmpTots)
    (m : Mem) :
    (rtmpTotsPacketPesAudioHeader now pts pack t).run m =
      (if esLen pack > packetPesBuf - 14 then
        .ok (-1, { t with pesBuf := t.pesBuf.memcpy 0 (audioPesHeader (esLen pack) pts) })
      else if 14 + pack.headDataLen + pack.dataLen > packetPesBuf then .error .outOfBounds
      else rtmpTotsPacketTsHeader now pts (audioPes pts pack t m), m) := by
  have hheader : 0 + (audioPesHeader (esLen pack) pts).length ≤ packetPesBuf := by
    change 0 + 14 ≤ packetPesBuf
    simp [packetPesBuf]
  unfold rtmpTotsPacketPesAudioHeader
  rw [copyToPes_fits t 0 _ hheader]
  simp only [Access.bind_eq, Access.ret_bind, Access.pure_eq_ret]
  by_cases hlong : esLen pack > packetPesBuf - 14
  · rw [if_pos hlong, if_pos hlong, Access.run_ret]
  · rw [if_neg hlong, if_neg hlong]
    have hrun := run_copyFrame
      { t with pesBuf := t.pesBuf.memcpy 0 (audioPesHeader (esLen pack) pts) } 14 pack m
    by_cases hover : 14 + pack.headDataLen + pack.dataLen > packetPesBuf
    · rw [if_pos hover] at hrun ⊢
      rw [Access.run_bind_error hrun]
    · rw [if_neg hover] at hrun ⊢
      rw [Access.run_bind_ok hrun, run_sendPes]
      rfl

/-- The test for an access unit delimiter, on the bytes it looks at. -/
def lacksDelimiterAt (unitType : EsUnitStartType) (p : Mem) : Bool :=
  match unitType with
  | .startcode3 => p 3 != 0x09
  | .startcode4 => p 4 != 0x09
  | _ => false

theorem run_lacksDelimiter (unitType : EsUnitStartType) (p : Pointer) (m : Mem) :
    (lacksDelimiter unitType p).run m = (.ok (lacksDelimiterAt unitType (p.bytes m)), m) := by
  cases unitType with
  | init => rfl
  | startcode3 => exact Access.run_bind_ok (run_at p 3 m) _
  | startcode4 => exact Access.run_bind_ok (run_at p 4 m) _
  | aac => rfl

/-- Where the test for a delimiter looks: into the head data if there is any, else into the
data. -/
def delimiterBytes (pack : PackData) (m : Mem) : Mem :=
  match pack.headData with
  | some head => if pack.headDataLen > 0 then head else m.shift pack.data
  | none => m.shift pack.data

/-- The muxer behind the video builder. -/
def videoPes (dts pts : Nat) (pack : PackData) (t : RtmpTots) (m : Mem) : RtmpTots :=
  if lacksDelimiterAt t.unitType (delimiterBytes pack m) then
    { t with
      pesBuf := copiedFrame ((videoPesStart dts pts t.pesBuf).memcpy 19 unitStart) 25 pack m
      pesLen := esLen pack + 25 }
  else
    { t with
      pesBuf := copiedFrame (videoPesStart dts pts t.pesBuf) 19 pack m
      pesLen := esLen pack + 19 }

/-- The offset of the frame in a video PES packet. -/
def videoOffset (pack : PackData) (t : RtmpTots) (m : Mem) : Nat :=
  if lacksDelimiterAt t.unitType (delimiterBytes pack m) then 25 else 19

theorem run_rtmpTotsPacketPesVideoHeader (now dts pts : Nat) (pack : PackData) (t : RtmpTots)
    (m : Mem) :
    (rtmpTotsPacketPesVideoHeader now dts pts pack t).run m =
      (if esLen pack > packetPesBuf - 25 then
        .ok (-1, { t with pesBuf := videoPesStart dts pts t.pesBuf })
      else if videoOffset pack t m + pack.headDataLen + pack.dataLen > packetPesBuf then
        .error .outOfBounds
      else rtmpTotsPacketTsHeader now pts (videoPes dts pts pack t m), m) := by
  have hunit : 19 + unitStart.length ≤ packetPesBuf := by
    change 19 + 6 ≤ packetPesBuf
    simp [packetPesBuf]
  let p : Pointer := match pack.headData with
    | some head => if pack.headDataLen > 0 then .head head else .data pack.data
    | none => .data pack.data
  have hpointer : p.bytes m = delimiterBytes pack m := by
    unfold delimiterBytes p
    cases pack.headData with
    | none => rfl
    | some head =>
      by_cases hlen : pack.headDataLen > 0
      · simp only [if_pos hlen]
        rfl
      · simp only [if_neg hlen]
        rfl
  rw [rtmpTotsPacketPesVideoHeader_eq now dts pts pack t p rfl]
  dsimp only
  by_cases hlong : esLen pack > packetPesBuf - 25
  · rw [if_pos hlong, if_pos hlong, Access.run_ret]
  · rw [if_neg hlong, if_neg hlong, Access.run_bind_ok (run_lacksDelimiter _ _ m), hpointer]
    unfold videoOffset videoPes
    by_cases hlacks : lacksDelimiterAt t.unitType (delimiterBytes pack m) = true
    · simp only [if_pos hlacks]
      rw [copyToPes_fits _ 19 _ hunit, Access.ret_bind]
      have hrun := run_copyFrame
        { t with pesBuf := (videoPesStart dts pts t.pesBuf).memcpy 19 unitStart } 25 pack m
      by_cases hover : 25 + pack.headDataLen + pack.dataLen > packetPesBuf
      · rw [if_pos hover] at hrun ⊢
        exact Access.run_bind_error hrun _
      · rw [if_neg hover] at hrun ⊢
        refine (Access.run_bind_ok hrun _).trans ?_
        rw [run_sendPes]
    · simp only [if_neg hlacks]
      have hrun := run_copyFrame
        { t with pesBuf := videoPesStart dts pts t.pesBuf } 19 pack m
      by_cases hover : 19 + pack.headDataLen + pack.dataLen > packetPesBuf
      · rw [if_pos hover] at hrun ⊢
        exact Access.run_bind_error hrun _
      · rw [if_neg hover] at hrun ⊢
        refine (Access.run_bind_ok hrun _).trans ?_
        rw [run_sendPes]

/-- The head data of a frame. -/
def headBytes (pack : PackData) : List UInt8 :=
  match pack.headData with
  | some head => head.slice 0 pack.headDataLen
  | none => []

/-- The head data and the data of a frame. -/
def frameBytes (pack : PackData) (m : Mem) : List UInt8 :=
  headBytes pack ++ m.slice pack.data pack.dataLen

/-- The copies put head data and data one behind the other. -/
theorem slice_copiedFrame (buf : Mem) (off : Nat) {pack : PackData} (m : Mem)
    (hhead : pack.headData = none → pack.headDataLen = 0) :
    (copiedFrame buf off pack m).slice off (pack.headDataLen + pack.dataLen) =
      frameBytes pack m := by
  have hdata (buf : Mem) : (buf.memcpy (off + pack.headDataLen)
      (m.slice pack.data pack.dataLen)).slice (off + pack.headDataLen) pack.dataLen =
        m.slice pack.data pack.dataLen := by
    have hcopy := Mem.slice_memcpy_same buf (off + pack.headDataLen)
      (m.slice pack.data pack.dataLen)
    rwa [Mem.length_slice] at hcopy
  unfold copiedFrame frameBytes headBytes
  rw [Mem.slice_add, hdata, Mem.slice_memcpy_outside _ _ _ _ _ (Or.inl (Nat.le_refl _))]
  cases hkind : pack.headData with
  | none => rw [hhead hkind, Mem.slice_zero]
  | some head =>
    have hcopy := Mem.slice_memcpy_same buf off (head.slice 0 pack.headDataLen)
    rw [Mem.length_slice] at hcopy
    dsimp only
    rw [hcopy]

/-- What stands behind the header of a video PES packet: the frame, behind a delimiter where it
lacks one. -/
theorem videoPes_payload (dts pts : Nat) {pack : PackData} (t : RtmpTots) (m : Mem)
    (hhead : pack.headData = none → pack.headDataLen = 0)
    (hsum : pack.headDataLen + pack.dataLen < 4294967296) :
    ((videoPes dts pts pack t m).pesBuf.slice 0 (videoPes dts pts pack t m).pesLen).drop 19 =
      (if lacksDelimiterAt t.unitType (delimiterBytes pack m) then unitStart else []) ++
        frameBytes pack m := by
  have hes : esLen pack = pack.headDataLen + pack.dataLen := Nat.mod_eq_of_lt hsum
  have hlow (buf : Mem) : (copiedFrame (buf.memcpy 19 unitStart) 25 pack m).slice 19 6 =
      unitStart := by
    have hcopy : (buf.memcpy 19 unitStart).slice 19 6 = unitStart :=
      Mem.slice_memcpy_same buf 19 unitStart
    refine Eq.trans ?_ hcopy
    rw [Mem.slice_eq_iff]
    intro i hi
    exact copiedFrame_low _ (by omega) pack m
  unfold videoPes
  split
  · dsimp only
    have hlen : esLen pack + 25 - 19 = 6 + (pack.headDataLen + pack.dataLen) := by omega
    rw [Mem.drop_slice, hlen, Nat.zero_add, Mem.slice_add, hlow, slice_copiedFrame _ _ _ hhead]
  · dsimp only
    have hlen : esLen pack + 19 - 19 = pack.headDataLen + pack.dataLen := by omega
    rw [Mem.drop_slice, hlen, Nat.zero_add, slice_copiedFrame _ _ _ hhead, List.nil_append]

/-- An audio PES packet is its header and the frame. -/
theorem slice_audioPes (pts : Nat) {pack : PackData} (t : RtmpTots) (m : Mem)
    (hhead : pack.headData = none → pack.headDataLen = 0)
    (hsum : pack.headDataLen + pack.dataLen < 4294967296) :
    (audioPes pts pack t m).pesBuf.slice 0 (audioPes pts pack t m).pesLen =
      audioPesHeader (esLen pack) pts ++ frameBytes pack m := by
  have hes : esLen pack = pack.headDataLen + pack.dataLen := Nat.mod_eq_of_lt hsum
  have hcopy : (t.pesBuf.memcpy 0 (audioPesHeader (esLen pack) pts)).slice 0 14 =
      audioPesHeader (esLen pack) pts := Mem.slice_memcpy_same _ _ _
  have hheader : (audioPes pts pack t m).pesBuf.slice 0 14 = audioPesHeader (esLen pack) pts := by
    rw [← hcopy, Mem.slice_eq_iff]
    intro i hi
    exact copiedFrame_low _ (by omega) pack m
  have hlen : (audioPes pts pack t m).pesLen = 14 + (pack.headDataLen + pack.dataLen) := by
    rw [← hes, Nat.add_comm]
    rfl
  rw [hlen, Mem.slice_add, hheader]
  exact congrArg _ (slice_copiedFrame _ 14 m hhead)

/-! ### One call -/

/-- A call of `rtmp_tots_packet_from_cache`: the clock, the frame, and the message the frame
lies in. -/
structure Call where
  now : Nat
  pack : PackData
  mem : Mem

/-- What a call returns, and the muxer after it. -/
def Call.result (call : Call) (t : RtmpTots) : Except Fault (Int × RtmpTots) :=
  ((rtmpTotsPacketFromCache call.now call.pack t).run call.mem).1

/-- Where the search for a start code looks. -/
def startBytes (pack : PackData) (m : Mem) : Mem :=
  match pack.headData with
  | some head => head
  | none => m.shift pack.data

/-- The muxer that has noted the frame of a call. -/
def Call.noted (call : Call) (t : RtmpTots) : RtmpTots :=
  { t with
    pesBuf := t.pesBuf.set 0 0
    pesLen := 0
    unitType := startTypeOf (startBytes call.pack call.mem)
    packData := some call.pack
    lastVideoPictureMs :=
      if call.pack.type = .h264 then call.pack.pictureMs else t.lastVideoPictureMs }

/-- The presentation time that the PES packet of a call gets. -/
def Call.pts (call : Call) (t : RtmpTots) : Nat :=
  (match call.pack.type with
    | .aac => audioPictureMs call.pack.pictureMs t.lastVideoPictureMs
    | _ => call.pack.pictureMs) * 90 % 18446744073709551616

/-- The decoding time that the PES packet of a call gets. -/
def Call.dts (call : Call) : Nat := call.pack.decodeMs * 90 % 18446744073709551616

/-- The muxer that the builder of a call hands to the transport stage. -/
def Call.built (call : Call) (t : RtmpTots) : RtmpTots :=
  match call.pack.type with
  | .aac => audioPes (call.pts t) call.pack (call.noted t) call.mem
  | _ => videoPes call.dts (call.pts t) call.pack (call.noted t) call.mem

/-- A video frame becomes a video PES packet. -/
theorem Call.built_h264 {call : Call} (h : call.pack.type = .h264) (t : RtmpTots) :
    call.built t = videoPes call.dts (call.pts t) call.pack (call.noted t) call.mem := by
  unfold built
  rw [h]

/-- The length that the size check compares with. -/
def esLimit : DataType → Nat
  | .aac => packetPesBuf - 14
  | _ => packetPesBuf - 25

/-- The four ends of a call. -/
inductive Handled (call : Call) (t : RtmpTots) : Except Fault (Int × RtmpTots) → Prop where
  | ignored (hpid : pidOf call.pack.type = none) : Handled call t (.ok (0, call.noted t))
  | refused (buf : Mem) (hlong : esLimit call.pack.type < esLen call.pack) :
      Handled call t (.ok (-1, { call.noted t with pesBuf := buf }))
  | overrun (hsum : 4294967296 ≤ call.pack.headDataLen + call.pack.dataLen) :
      Handled call t (.error .outOfBounds)
  | sent {pid : Nat} (hpid : pidOf call.pack.type = some pid)
      (hfits : call.pack.headDataLen + call.pack.dataLen ≤ esLimit call.pack.type) :
      Handled call t (rtmpTotsPacketTsHeader call.now (call.pts t) (call.built t))

/-- The size check lets a frame through that does not fit only when its length wraps. -/
private theorem wraps_of_overrun {pack : PackData} {off limit : Nat}
    (hoff : off + limit ≤ packetPesBuf) (hfits : ¬esLen pack > limit)
    (hover : off + pack.headDataLen + pack.dataLen > packetPesBuf) :
    4294967296 ≤ pack.headDataLen + pack.dataLen := by
  unfold esLen at hfits
  by_contra hlt
  rw [Nat.mod_eq_of_lt (by omega)] at hfits
  omega

private theorem fits_of_copied {pack : PackData} {off limit : Nat}
    (hlimit : packetPesBuf < 4294967296) (hfits : ¬esLen pack > limit)
    (hover : ¬off + pack.headDataLen + pack.dataLen > packetPesBuf) :
    pack.headDataLen + pack.dataLen ≤ limit := by
  unfold esLen at hfits
  rw [Nat.mod_eq_of_lt (by omega)] at hfits
  omega

theorem videoOffset_le (pack : PackData) (t : RtmpTots) (m : Mem) : videoOffset pack t m ≤ 25 := by
  unfold videoOffset
  split <;> omega

/-- A call notes its frame, and builds the PES packet of a video or AAC frame. -/
theorem Call.run_fromCache (call : Call) (t : RtmpTots) :
    (rtmpTotsPacketFromCache call.now call.pack t).run call.mem =
      match call.pack.type with
      | .aac => (rtmpTotsPacketPesAudioHeader call.now (call.pts t) call.pack
          (call.noted t)).run call.mem
      | .h264 => (rtmpTotsPacketPesVideoHeader call.now call.dts (call.pts t) call.pack
          (call.noted t)).run call.mem
      | _ => (.ok (0, call.noted t), call.mem) := by
  let p : Pointer := match call.pack.headData with
    | some head => .head head
    | none => .data call.pack.data
  have hbytes : p.bytes call.mem = startBytes call.pack call.mem := by
    unfold startBytes p
    cases call.pack.headData <;> rfl
  have hrun : (rtmpTotsPacketFromCache call.now call.pack t).run call.mem =
      ((unitStartType p).bind fun unitType ↦
        let t := { t with
          pesBuf := t.pesBuf.set 0 0
          pesLen := 0
          unitType := unitType
          packData := some call.pack }
        match call.pack.type with
        | .aac =>
          rtmpTotsPacketPesAudioHeader call.now (audioPictureMs call.pack.pictureMs
            t.lastVideoPictureMs * 90 % 18446744073709551616) call.pack t
        | .h264 =>
          rtmpTotsPacketPesVideoHeader call.now (call.pack.decodeMs * 90 % 18446744073709551616)
            (call.pack.pictureMs * 90 % 18446744073709551616) call.pack
            { t with lastVideoPictureMs := call.pack.pictureMs }
        | _ => .ret (0, t)).run call.mem := rfl
  rw [hrun, Access.run_bind_ok (run_unitStartType p call.mem), hbytes]
  unfold Call.noted Call.pts Call.dts
  cases htype : call.pack.type with
  | unset => simp
  | mp3 => simp
  | aac => simp
  | h264 => simp

/-- A call leaves the message alone. -/
theorem Call.mem_fromCache (call : Call) (t : RtmpTots) :
    ((rtmpTotsPacketFromCache call.now call.pack t).run call.mem).2 = call.mem := by
  rw [call.run_fromCache]
  cases call.pack.type with
  | unset => rfl
  | mp3 => rfl
  | aac =>
    dsimp only
    rw [run_rtmpTotsPacketPesAudioHeader]
  | h264 =>
    dsimp only
    rw [run_rtmpTotsPacketPesVideoHeader]

/-- Each call ends in one of the four ways. -/
theorem Call.handled (call : Call) (t : RtmpTots) : Handled call t (call.result t) := by
  have hbuf : packetPesBuf < 4294967296 := by simp [packetPesBuf]
  have hrun := call.run_fromCache t
  unfold Call.result
  cases htype : call.pack.type with
  | unset =>
    rw [htype] at hrun
    rw [hrun]
    exact Handled.ignored (by rw [htype]; rfl)
  | mp3 =>
    rw [htype] at hrun
    rw [hrun]
    exact Handled.ignored (by rw [htype]; rfl)
  | aac =>
    have hbuilt : call.built t = audioPes (call.pts t) call.pack (call.noted t) call.mem := by
      simp [Call.built, htype]
    have hlimit : esLimit call.pack.type = packetPesBuf - 14 := by rw [htype]; rfl
    have hroom : 14 + esLimit call.pack.type ≤ packetPesBuf := by
      rw [hlimit]
      simp [packetPesBuf]
    rw [htype] at hrun
    dsimp only at hrun
    rw [hrun, run_rtmpTotsPacketPesAudioHeader, ← hbuilt, ← hlimit]
    dsimp only
    split
    · next hlong => exact Handled.refused _ hlong
    · next hshort =>
      split
      · next hover => exact Handled.overrun (wraps_of_overrun hroom hshort hover)
      · next hfits =>
        exact Handled.sent (by rw [htype]; rfl) (fits_of_copied hbuf hshort hfits)
  | h264 =>
    have hbuilt : call.built t =
        videoPes call.dts (call.pts t) call.pack (call.noted t) call.mem := by
      simp [Call.built, htype]
    have hlimit : esLimit call.pack.type = packetPesBuf - 25 := by rw [htype]; rfl
    have hroom : videoOffset call.pack (call.noted t) call.mem + esLimit call.pack.type ≤
        packetPesBuf := by
      have hoffset := videoOffset_le call.pack (call.noted t) call.mem
      rw [hlimit]
      simp only [packetPesBuf]
      omega
    rw [htype] at hrun
    dsimp only at hrun
    rw [hrun, run_rtmpTotsPacketPesVideoHeader, ← hbuilt, ← hlimit]
    dsimp only
    split
    · next hlong => exact Handled.refused _ hlong
    · next hshort =>
      split
      · next hover => exact Handled.overrun (wraps_of_overrun hroom hshort hover)
      · next hfits =>
        exact Handled.sent (by rw [htype]; rfl) (fits_of_copied hbuf hshort hfits)

/-! ### Rounds of the transport stage -/

private theorem flushTsCache_ends (t : RtmpTots) (packet : Nat) :
    flushTsCache t packet ≠ .error .diverged := by
  unfold flushTsCache
  split
  · split
    · intro h
      cases h
    · intro h
      cases h
  · intro h
    cases h

/-- A round takes at least one byte, so a round for each byte is enough. -/
theorem tsPacketLoop_ends (pts pid fuel : Nat) (t : RtmpTots) (packet : Nat) (newPes : Bool)
    (p : Nat) {iSize : Int} (h : iSize ≤ fuel) :
    tsPacketLoop pts pid fuel t packet newPes p iSize ≠ .error .diverged := by
  have hstop (t : RtmpTots) : (Except.ok t : Except Fault RtmpTots) ≠ .error .diverged := by
    intro h
    cases h
  induction fuel generalizing t packet newPes p iSize with
  | zero =>
    unfold tsPacketLoop
    rw [if_pos (by omega)]
    exact hstop t
  | succ fuel ih =>
    unfold tsPacketLoop
    split
    · exact hstop t
    · next hpos =>
      dsimp only
      split
      · intro h
        cases h
      · rw [tsPacketHead_eq]
        dsimp only
        have hpos' : 0 < iSize.toNat := by omega
        have hcopy := packetCopy_bounds pid newPes hpos'
        split
        · next e hflush =>
          intro h
          rw [Except.error.inj h] at hflush
          exact flushTsCache_ends _ _ hflush
        · exact ih _ _ _ _ (by omega)

/-- The transport stage ends. -/
theorem rtmpTotsPacketTsHeader_ends (now pts : Nat) (t : RtmpTots) :
    rtmpTotsPacketTsHeader now pts t ≠ .error .diverged := by
  have hret (r : Int × RtmpTots) : (Except.ok r : Except Fault (Int × RtmpTots)) ≠
      .error .diverged := by
    intro h
    cases h
  have hcache (t : RtmpTots) (packet : Nat) (table : List UInt8) :
      cacheTable t packet table ≠ .error .diverged := by
    unfold cacheTable
    split
    · intro h
      cases h
    · exact flushTsCache_ends _ _
  unfold rtmpTotsPacketTsHeader
  split
  · exact hret _
  · split
    · exact hret _
    · dsimp only
      split
      · next e hcached =>
        intro h
        rw [Except.error.inj h] at hcached
        split at hcached
        · split at hcached
          · next hpat =>
            rw [Except.error.inj hcached] at hpat
            exact hcache _ _ _ hpat
          · exact hcache _ _ _ hcached
        · cases hcached
      · split
        · split
          · intro h
            cases h
          · exact hret _
        · split
          · next hloop =>
            intro h
            rw [Except.error.inj h] at hloop
            exact tsPacketLoop_ends _ _ _ _ _ _ _ (by omega) hloop
          · exact hret _

/-- Every call ends. -/
theorem Call.ends (call : Call) (t : RtmpTots) : call.result t ≠ .error .diverged := by
  have h := call.handled t
  generalize call.result t = end' at h
  cases h with
  | ignored _ =>
    intro h
    cases h
  | refused _ _ =>
    intro h
    cases h
  | overrun _ =>
    intro h
    cases h
  | sent _ _ => exact rtmpTotsPacketTsHeader_ends _ _ _

end RtmpRecv.Tots
