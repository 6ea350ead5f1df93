import RtmpRecv.Tots.Calls

/-!
# The transport stream of a run

Library `Tots`. A muxer stands for the packets it has emitted: they are well formed, the packets
of each PID are counted, and the muxer holds the counter of the next one. A call adds the packets
of its frame, behind the two tables where they are due.
-/

namespace RtmpRecv.Tots
open RtmpRecv.Base RtmpRecv.Wire

/-- The muxer `t` has emitted the packets `ps`. -/
structure Muxed (t : RtmpTots) (ps : List (List UInt8)) : Prop where
  ready : t.output.Ready
  emitted : t.output.emitted = ps.flatten
  wellFormed : ∀ p ∈ ps, WellFormedPacket p
  pat : CountedTo 0 t.patNum ps
  pmt : CountedTo 0x100 t.patNum ps
  video : CountedTo videoPid t.videoCount ps
  audio : CountedTo audioPid t.audioCount ps
  videoCount : t.videoCount < 0x10
  audioCount : t.audioCount < 0x10

/-- What a muxer has emitted is cut into its packets again. -/
theorem Muxed.packets {t : RtmpTots} {ps : List (List UInt8)} (h : Muxed t ps) :
    packets t.output.emitted = ps := by
  rw [h.emitted]
  exact packets_flatten fun p hp ↦ (h.wellFormed p hp).length

/-- Two muxers are the same for the transport stage, apart from the frame. -/
structure SameStage (t t' : RtmpTots) : Prop where
  output : t'.output = t.output
  patNum : t'.patNum = t.patNum
  frameNum : t'.frameNum = t.frameNum
  videoCount : t'.videoCount = t.videoCount
  audioCount : t'.audioCount = t.audioCount
  lastPsiTime : t'.lastPsiTime = t.lastPsiTime
  tsFp : t'.tsFp = t.tsFp

theorem Muxed.sameStage {t t' : RtmpTots} {ps : List (List UInt8)} (h : Muxed t ps)
    (hs : SameStage t t') : Muxed t' ps where
  ready := hs.output ▸ h.ready
  emitted := hs.output ▸ h.emitted
  wellFormed := h.wellFormed
  pat := hs.patNum ▸ h.pat
  pmt := hs.patNum ▸ h.pmt
  video := hs.videoCount ▸ h.video
  audio := hs.audioCount ▸ h.audio
  videoCount := hs.videoCount ▸ h.videoCount
  audioCount := hs.audioCount ▸ h.audioCount

theorem Call.sameStage_noted (call : Call) (t : RtmpTots) : SameStage t (call.noted t) :=
  ⟨rfl, rfl, rfl, rfl, rfl, rfl, rfl⟩

theorem Call.sameStage_built (call : Call) (t : RtmpTots) : SameStage t (call.built t) := by
  unfold Call.built
  split
  · exact ⟨rfl, rfl, rfl, rfl, rfl, rfl, rfl⟩
  · unfold videoPes
    split
    · exact ⟨rfl, rfl, rfl, rfl, rfl, rfl, rfl⟩
    · exact ⟨rfl, rfl, rfl, rfl, rfl, rfl, rfl⟩

/-- The video time is taken from the frame, even if the frame is refused later. -/
theorem Call.lastVideo_built (call : Call) (t : RtmpTots) :
    (call.built t).lastVideoPictureMs = (call.noted t).lastVideoPictureMs := by
  unfold Call.built
  split
  · rfl
  · unfold videoPes
    split
    · rfl
    · rfl

theorem Call.packData_built (call : Call) (t : RtmpTots) :
    (call.built t).packData = some call.pack := by
  unfold Call.built
  split
  · rfl
  · unfold videoPes
    split
    · rfl
    · rfl

/-- The PES packet of a frame that passed the size check fits in the buffer, and is not empty. -/
theorem Call.pesLen_built {call : Call} (t : RtmpTots) {pid : Nat}
    (hpid : pidOf call.pack.type = some pid)
    (hfits : call.pack.headDataLen + call.pack.dataLen ≤ esLimit call.pack.type) :
    0 < (call.built t).pesLen ∧ (call.built t).pesLen ≤ packetPesBuf := by
  have hbuf : packetPesBuf = 4195328 := rfl
  have hes : esLen call.pack ≤ call.pack.headDataLen + call.pack.dataLen := Nat.mod_le _ _
  unfold Call.built
  rcases pidOf_cases hpid with ⟨htype, -⟩ | ⟨htype, -⟩
  · rw [htype] at hfits ⊢
    have hlimit : esLimit .h264 = packetPesBuf - 25 := rfl
    dsimp only [videoPes]
    split
    · dsimp only
      omega
    · dsimp only
      omega
  · rw [htype] at hfits ⊢
    have hlimit : esLimit .aac = packetPesBuf - 14 := rfl
    dsimp only [audioPes]
    omega

/-! ### The stage -/

theorem patNum_setPidCount (t : RtmpTots) (pid count : Nat) :
    (setPidCount t pid count).patNum = t.patNum := by
  unfold setPidCount
  split
  · rfl
  · rfl

theorem videoCount_setPidCount (t : RtmpTots) (pid count : Nat) :
    (setPidCount t pid count).videoCount = if pid = videoPid then count else t.videoCount := by
  unfold setPidCount
  split
  · rfl
  · rfl

theorem audioCount_setPidCount (t : RtmpTots) (pid count : Nat) :
    (setPidCount t pid count).audioCount = if pid = videoPid then t.audioCount else count := by
  unfold setPidCount
  split
  · rfl
  · rfl

/-- The two packets of the tables: the first has PID 0 and the second has PID 0x100. -/
theorem tablePackets_read (t : RtmpTots) :
    ∃ pat pmt, tablePackets t = [pat, pmt] ∧
      (WellFormedPacket pat ∧ packetPid pat = 0 ∧ packetCounter pat = t.patNum % 16) ∧
      (WellFormedPacket pmt ∧ packetPid pmt = 0x100 ∧ packetCounter pmt = t.patNum % 16) := by
  refine ⟨_, _, rfl, ?_, ?_⟩
  · exact tablePacket_read 0x40 t.patNum (by decide)
  · exact tablePacket_read 0x41 t.patNum (by decide)

/-- The packets of a PES packet are well formed packets of its PID. -/
theorem pesPackets_carries {pid : Nat} (hpid : pid = videoPid ∨ pid = audioPid) (pts count : Nat)
    (pes : List UInt8) : Carries pid true (pesPackets pid pts count pes) pes :=
  carries_cutPes hpid pts count true (Nat.le_refl _)

/-- The tables in front of a frame. -/
def frontTables (now : Nat) (pack : PackData) (t : RtmpTots) : List (List UInt8) :=
  if wantsTables now pack t then tablePackets t else []

/-- The packets emitted behind the tables. -/
def framePackets (pts pid : Nat) (t : RtmpTots) : List (List UInt8) :=
  pesPackets pid pts (pidCount t pid) (t.pesBuf.slice 0 t.pesLen)

/-- The counter that the two tables share goes on with them. -/
def patNumAfter (now : Nat) (pack : PackData) (t : RtmpTots) : Nat :=
  if wantsTables now pack t then (t.patNum + 1) % 4294967296 else t.patNum

theorem patNum_afterStage (now pts pid : Nat) (pack : PackData) (t : RtmpTots) :
    (afterStage now pts pid pack t).patNum = patNumAfter now pack t := by
  change (setPidCount (if wantsTables now pack t then withTables now t else t) pid _).patNum = _
  rw [patNum_setPidCount]
  unfold patNumAfter
  split
  · rfl
  · rfl

theorem videoCount_afterStage (now pts pid : Nat) (pack : PackData) (t : RtmpTots) :
    (afterStage now pts pid pack t).videoCount =
      if pid = videoPid then (pidCount t pid + (framePackets pts pid t).length) % 0x10
      else t.videoCount := by
  change (setPidCount (if wantsTables now pack t then withTables now t else t) pid _).videoCount = _
  rw [videoCount_setPidCount]
  split
  · rfl
  · split
    · rfl
    · rfl

theorem audioCount_afterStage (now pts pid : Nat) (pack : PackData) (t : RtmpTots) :
    (afterStage now pts pid pack t).audioCount =
      if pid = videoPid then t.audioCount
      else (pidCount t pid + (framePackets pts pid t).length) % 0x10 := by
  change (setPidCount (if wantsTables now pack t then withTables now t else t) pid _).audioCount = _
  rw [audioCount_setPidCount]
  split
  · split
    · rfl
    · rfl
  · rfl

/-- Two muxers hold the same frame, file handle and video time. -/
structure SameFrame (t t' : RtmpTots) : Prop where
  pesBuf : t'.pesBuf = t.pesBuf
  pesLen : t'.pesLen = t.pesLen
  tsFp : t'.tsFp = t.tsFp
  lastVideoPictureMs : t'.lastVideoPictureMs = t.lastVideoPictureMs

theorem SameFrame.trans {t t' t'' : RtmpTots} (h : SameFrame t t') (h' : SameFrame t' t'') :
    SameFrame t t'' :=
  ⟨h'.pesBuf.trans h.pesBuf, h'.pesLen.trans h.pesLen, h'.tsFp.trans h.tsFp,
    h'.lastVideoPictureMs.trans h.lastVideoPictureMs⟩

/-- The stage leaves the frame as it is. -/
theorem sameFrame_afterStage (now pts pid : Nat) (pack : PackData) (t : RtmpTots) :
    SameFrame t (afterStage now pts pid pack t) := by
  have htables : SameFrame t (if wantsTables now pack t then withTables now t else t) := by
    split
    · exact ⟨rfl, rfl, rfl, rfl⟩
    · exact ⟨rfl, rfl, rfl, rfl⟩
  have hset (t : RtmpTots) (count : Nat) : SameFrame t (setPidCount t pid count) := by
    unfold setPidCount
    split
    · exact ⟨rfl, rfl, rfl, rfl⟩
    · exact ⟨rfl, rfl, rfl, rfl⟩
  have hcounted := htables.trans (hset _
    ((pidCount t pid + (framePackets pts pid t).length) % 0x10))
  exact ⟨hcounted.pesBuf, hcounted.pesLen, hcounted.tsFp, hcounted.lastVideoPictureMs⟩

/-- The tables of a frame go on with the two streams they belong to. -/
private theorem counted_frontTables (now : Nat) (pack : PackData) {t : RtmpTots}
    {ps : List (List UInt8)} {pid : Nat} (hpid : pid = 0 ∨ pid = 0x100)
    (h : CountedTo pid t.patNum ps) :
    CountedTo pid (patNumAfter now pack t) (ps ++ frontTables now pack t) := by
  unfold patNumAfter frontTables
  split
  · obtain ⟨pat, pmt, htables, ⟨-, hpat, hcount⟩, -, hpmt, hcount'⟩ := tablePackets_read t
    have hmod : (t.patNum + 1) % 16 = (t.patNum + 1) % 4294967296 % 16 := by omega
    have hsplit : ps ++ [pat, pmt] = (ps ++ [pat]) ++ [pmt] := by simp
    rw [htables, hsplit]
    rcases hpid with rfl | rfl
    · have hsame : ∀ q ∈ [pat], packetPid q = 0 := by simp [hpat]
      have hother : ∀ q ∈ [pmt], packetPid q ≠ 0 := by simp [hpmt]
      have hone := (h.append hsame ⟨hcount, trivial⟩).append_other hother
      exact hone.congr hmod
    · have hother : ∀ q ∈ [pat], packetPid q ≠ 0x100 := by simp [hpat]
      have hsame : ∀ q ∈ [pmt], packetPid q = 0x100 := by simp [hpmt]
      have hone := (h.append_other hother).append hsame ⟨hcount', trivial⟩
      exact hone.congr hmod
  · rw [List.append_nil]
    exact h

private theorem frontTables_other (now : Nat) (pack : PackData) (t : RtmpTots) {pid : Nat}
    (hpid : pid ≠ 0 ∧ pid ≠ 0x100) : ∀ p ∈ frontTables now pack t, packetPid p ≠ pid := by
  unfold frontTables
  split
  · obtain ⟨pat, pmt, htables, ⟨-, hpat, -⟩, -, hpmt, -⟩ := tablePackets_read t
    rw [htables]
    intro p hp
    rcases List.mem_cons.1 hp with rfl | hp
    · rw [hpat]
      exact hpid.1.symm
    · rw [List.mem_singleton.1 hp, hpmt]
      exact hpid.2.symm
  · intro p hp
    cases hp

theorem frontTables_wellFormed (now : Nat) (pack : PackData) (t : RtmpTots) :
    ∀ p ∈ frontTables now pack t, WellFormedPacket p := by
  unfold frontTables
  split
  · obtain ⟨pat, pmt, htables, ⟨hpat, -⟩, hpmt, -⟩ := tablePackets_read t
    rw [htables]
    intro p hp
    rcases List.mem_cons.1 hp with rfl | hp
    · exact hpat
    · rw [List.mem_singleton.1 hp]
      exact hpmt
  · intro p hp
    cases hp

/-- The stage emits the tables and then the packets of the frame. -/
theorem Muxed.afterStage {t : RtmpTots} {ps : List (List UInt8)} (h : Muxed t ps) {pid : Nat}
    (hpid : pid = videoPid ∨ pid = audioPid) (now pts : Nat) (pack : PackData) :
    Muxed (afterStage now pts pid pack t)
      (ps ++ (frontTables now pack t ++ framePackets pts pid t)) := by
  have hcarries := pesPackets_carries hpid pts (pidCount t pid) (t.pesBuf.slice 0 t.pesLen)
  have hframe := hcarries.wellFormed
  have hcounted : Counted (pidCount t pid) (framePackets pts pid t) :=
    counted_cutPes _ _ _ _ _ _
  have hwell : ∀ p ∈ frontTables now pack t ++ framePackets pts pid t, WellFormedPacket p := by
    intro p hp
    rcases List.mem_append.1 hp with hp | hp
    · exact frontTables_wellFormed now pack t p hp
    · exact (hframe p hp).1
  have htables : (0 : Nat) ≠ pid ∧ (0x100 : Nat) ≠ pid := by
    rcases hpid with rfl | rfl
    · decide
    · decide
  have hpat : ∀ p ∈ framePackets pts pid t, packetPid p ≠ 0 := fun p hp ↦ by
    rw [(hframe p hp).2]
    exact htables.1.symm
  have hpmt : ∀ p ∈ framePackets pts pid t, packetPid p ≠ 0x100 := fun p hp ↦ by
    rw [(hframe p hp).2]
    exact htables.2.symm
  have hother {n : Nat} (hn : n = videoPid ∨ n = audioPid) :
      ∀ p ∈ frontTables now pack t, packetPid p ≠ n :=
    frontTables_other now pack t (by rcases hn with rfl | rfl <;> decide)
  have hvideo : videoPid ≠ audioPid := by decide
  constructor
  · exact h.ready.foldl _
  · refine (Output.emitted_foldl t.output fun p hp ↦ (hwell p hp).length).trans ?_
    simp only [h.emitted, List.flatten_append]
  · intro p hp
    rcases List.mem_append.1 hp with hp | hp
    · exact h.wellFormed p hp
    · exact hwell p hp
  · rw [patNum_afterStage, ← List.append_assoc]
    exact (counted_frontTables now pack (Or.inl rfl) h.pat).append_other hpat
  · rw [patNum_afterStage, ← List.append_assoc]
    exact (counted_frontTables now pack (Or.inr rfl) h.pmt).append_other hpmt
  · rw [videoCount_afterStage, ← List.append_assoc]
    have hfront := h.video.append_other (hother (Or.inl rfl))
    rcases hpid with rfl | rfl
    · rw [if_pos rfl]
      exact (hfront.append (fun p hp ↦ (hframe p hp).2) hcounted).congr (Nat.mod_mod _ _).symm
    · rw [if_neg hvideo.symm]
      exact hfront.append_other fun p hp ↦ (hframe p hp).2 ▸ hvideo.symm
  · rw [audioCount_afterStage, ← List.append_assoc]
    have hfront := h.audio.append_other (hother (Or.inr rfl))
    rcases hpid with rfl | rfl
    · rw [if_pos rfl]
      exact hfront.append_other fun p hp ↦ (hframe p hp).2 ▸ hvideo
    · rw [if_neg hvideo.symm]
      exact (hfront.append (fun p hp ↦ (hframe p hp).2) hcounted).congr (Nat.mod_mod _ _).symm
  · rw [videoCount_afterStage]
    split
    · exact Nat.mod_lt _ (by decide)
    · exact h.videoCount
  · rw [audioCount_afterStage]
    split
    · exact h.audioCount
    · exact Nat.mod_lt _ (by decide)

private theorem Muxed.pidCount {t : RtmpTots} {ps : List (List UInt8)} (h : Muxed t ps)
    (pid : Nat) :
    pidCount t pid < 0x10 := by
  unfold Tots.pidCount
  split
  · exact h.videoCount
  · exact h.audioCount

/-! ### One call -/

/-- The frame of a call has one of the two types that are sent, and passes the size check. -/
def Call.Fits (call : Call) : Prop :=
  (pidOf call.pack.type).isSome ∧
    call.pack.headDataLen + call.pack.dataLen ≤ esLimit call.pack.type

instance (call : Call) : Decidable call.Fits :=
  inferInstanceAs (Decidable ((pidOf call.pack.type).isSome ∧
    call.pack.headDataLen + call.pack.dataLen ≤ esLimit call.pack.type))

/-- The length of the frame of a call does not fit in 32 bits. -/
def Call.Wraps (call : Call) : Prop :=
  4294967296 ≤ call.pack.headDataLen + call.pack.dataLen

instance (call : Call) : Decidable call.Wraps :=
  inferInstanceAs (Decidable (4294967296 ≤ call.pack.headDataLen + call.pack.dataLen))

theorem Call.Fits.not_wraps {call : Call} (h : call.Fits) : ¬call.Wraps := by
  have hlimit : esLimit call.pack.type < 4294967296 := by
    cases call.pack.type <;> decide
  have hlen := h.2
  unfold Call.Wraps
  omega

/-- What a call does to the stream. -/
inductive Stepped (call : Call) (t : RtmpTots) : Except Fault (Int × RtmpTots) → Prop where
  | silent {ret : Int} {t' : RtmpTots} (hfits : ¬(call.Fits ∧ t.tsFp = true))
      (hsame : SameStage t t')
      (hlast : t'.lastVideoPictureMs = (call.noted t).lastVideoPictureMs) :
      Stepped call t (.ok (ret, t'))
  | overrun (hwraps : call.Wraps) : Stepped call t (.error .outOfBounds)
  | emitted {pid : Nat} (hpid : pidOf call.pack.type = some pid) (hfits : call.Fits)
      (hfp : t.tsFp = true) :
      Stepped call t (.ok (0, afterStage call.now (call.pts t) pid call.pack (call.built t)))

/-- A frame that fits is handed to the transport stage. -/
theorem Call.result_of_fits {call : Call} (h : call.Fits) (t : RtmpTots) :
    call.result t = rtmpTotsPacketTsHeader call.now (call.pts t) (call.built t) := by
  have hwraps := h.not_wraps
  have hhandled := call.handled t
  obtain ⟨hsome, hfits⟩ := h
  generalize hresult : call.result t = result at hhandled
  cases hhandled with
  | ignored hpid =>
    rw [hpid] at hsome
    cases hsome
  | refused buf hlong =>
    have hes : esLen call.pack ≤ call.pack.headDataLen + call.pack.dataLen := Nat.mod_le _ _
    omega
  | overrun hsum => exact absurd hsum hwraps
  | sent => rfl

/-- Without an open file the transport stage does nothing. -/
theorem rtmpTotsPacketTsHeader_closed {now pts : Nat} {t : RtmpTots}
    (h : t.tsFp = false) : rtmpTotsPacketTsHeader now pts t = .ok (-1, t) := by
  unfold rtmpTotsPacketTsHeader
  rw [h]
  split
  · rfl
  · rfl

/-- A call of a muxer that has emitted whole packets. -/
theorem Muxed.stepped {t : RtmpTots} {ps : List (List UInt8)} (h : Muxed t ps) (call : Call) :
    Stepped call t (call.result t) := by
  have hsame := call.sameStage_built t
  have hhandled := call.handled t
  generalize hresult : call.result t = result at hhandled
  cases hhandled with
  | ignored hpid =>
    refine Stepped.silent ?_ (call.sameStage_noted t) rfl
    rintro ⟨⟨hsome, -⟩, -⟩
    rw [hpid] at hsome
    cases hsome
  | refused buf hlong =>
    refine Stepped.silent ?_ ⟨rfl, rfl, rfl, rfl, rfl, rfl, rfl⟩ rfl
    rintro ⟨⟨-, hfits⟩, -⟩
    have hes : esLen call.pack ≤ call.pack.headDataLen + call.pack.dataLen := Nat.mod_le _ _
    omega
  | overrun hsum => exact Stepped.overrun hsum
  | @sent pid hpid hfits =>
    cases hfp : t.tsFp with
    | false =>
      rw [rtmpTotsPacketTsHeader_closed (hsame.tsFp.trans hfp)]
      exact Stepped.silent (by simp [hfp]) hsame (call.lastVideo_built t)
    | true =>
      obtain ⟨-, hlen⟩ := call.pesLen_built t hpid hfits
      have hbuilt := h.sameStage hsame
      have hbuf : packetPesBuf < 2147483648 := by simp [packetPesBuf]
      rw [rtmpTotsPacketTsHeader_eq (call.packData_built t) hpid (hsame.tsFp.trans hfp)
        hbuilt.ready (hbuilt.pidCount pid) (by omega)]
      exact Stepped.emitted hpid ⟨by rw [hpid]; rfl, hfits⟩ hfp

end RtmpRecv.Tots
