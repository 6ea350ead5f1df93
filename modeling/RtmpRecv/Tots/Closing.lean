import RtmpRecv.Tots.Runs

/-!
# Closing the muxer

Library `Tots`. Models the destructor `rtmp_tots.cpp:10-13`. It closes the file without writing
what is left in `ts_cache`, so the file ends behind the last group of seven packets; how many
packets a run has emitted follows from its frames and its clock.
-/

namespace RtmpRecv.Tots
open RtmpRecv.Base RtmpRecv.Wire

/-- The destructor `~rtmp_tots`: the buffer is freed and the file is closed. -/
def rtmpTotsDestroy (t : RtmpTots) : RtmpTots := { t with tsFp := false }

/-! ### How many packets -/

/-- The packets of `n` bytes behind the first packet of a PES packet: a last packet cannot hold
183 bytes. -/
def restCount (n : Nat) : Nat :=
  n / 184 + if n % 184 = 0 then 0 else if n % 184 = 183 then 2 else 1

/-- The packets of a PES packet of `n` bytes. -/
def pesCount (pid n : Nat) : Nat :=
  if n = 0 then 0 else 1 + restCount (n - if pid = videoPid then 176 else 182)

/-- The length of the PES packet of a frame. -/
def Call.pesSize (call : Call) : Nat :=
  (match call.pack.type with
    | .aac => 14
    | _ =>
      if lacksDelimiterAt (startTypeOf (startBytes call.pack call.mem))
          (delimiterBytes call.pack call.mem) then 25
      else 19) + (call.pack.headDataLen + call.pack.dataLen)

/-- The packets of a frame. -/
def Call.packetCount (call : Call) : Nat :=
  match pidOf call.pack.type with
  | some pid => pesCount pid call.pesSize
  | none => 0

/-- The test for the two tables in front of the frame after `frameNum` others, where the last
tables went out at `lastPsiTime`. -/
def Call.wantsTables (call : Call) (frameNum lastPsiTime : Nat) : Bool :=
  call.pack.isKeyframe || frameNum == 0 ||
    (call.now + 18446744073709551616 - 300) % 18446744073709551616 > lastPsiTime

/-- The packets of all frames and of the tables in front of them. -/
def packetTotal : Nat → Nat → List Call → Nat
  | _, _, [] => 0
  | frameNum, lastPsiTime, call :: calls =>
    (if call.wantsTables frameNum lastPsiTime then 2 else 0) + call.packetCount +
      packetTotal ((frameNum + 1) % 4294967296)
        (if call.wantsTables frameNum lastPsiTime then call.now else lastPsiTime) calls

/-- A packet that continues a PES packet takes 184 bytes if there are so many. -/
private theorem packetCopy_rest (pid n : Nat) :
    packetCopy pid false n = if n = 183 then 182 else min n 184 := by
  unfold packetCopy
  simp only [Bool.false_or, Bool.false_eq_true, false_and, if_false, decide_eq_true_eq]
  split
  · split <;> split <;> omega
  · split <;> omega

private theorem restCount_step {n : Nat} (h : 0 < n) (pid : Nat) :
    restCount n = 1 + restCount (n - packetCopy pid false n) := by
  rw [packetCopy_rest]
  unfold restCount
  by_cases hlong : 184 ≤ n
  · have hne : n ≠ 183 := by omega
    have hmod : (n - 184) % 184 = n % 184 := (Nat.mod_eq_sub_mod hlong).symm
    have hdiv : n / 184 = (n - 184) / 184 + 1 := Nat.div_eq_sub_div (by decide) hlong
    rw [if_neg hne, Nat.min_eq_right hlong, hmod, hdiv]
    omega
  · have hmod : n % 184 = n := Nat.mod_eq_of_lt (by omega)
    have hdiv : n / 184 = 0 := Nat.div_eq_of_lt (by omega)
    rw [hmod, hdiv, if_neg (Nat.ne_of_gt h)]
    by_cases hfull : n = 183
    · subst hfull
      rfl
    · rw [if_neg hfull, if_neg hfull, Nat.min_eq_left (by omega), Nat.sub_self]
      rfl

/-- Bytes that continue a PES packet are cut into so many packets. -/
private theorem length_cutPes_rest (pid pts fuel count : Nat) {bytes : List UInt8}
    (h : bytes.length ≤ fuel) :
    (cutPes pid pts fuel count false bytes).length = restCount bytes.length := by
  induction fuel generalizing count bytes with
  | zero =>
    obtain rfl := List.eq_nil_of_length_eq_zero (Nat.le_zero.1 h)
    rfl
  | succ fuel ih =>
    by_cases hnil : bytes = []
    · rw [hnil, cutPes_nil]
      rfl
    · have hpos : 0 < bytes.length := List.length_pos_iff.2 hnil
      have hcopy := packetCopy_bounds pid false hpos
      rw [cutPes_cons hnil, List.length_cons, ih _ (by rw [List.length_drop]; omega),
        List.length_drop, restCount_step hpos pid, Nat.add_comm]

/-- A PES packet is cut into so many packets. -/
theorem length_pesPackets (pid pts count : Nat) (pes : List UInt8) :
    (pesPackets pid pts count pes).length = pesCount pid pes.length := by
  unfold pesPackets pesCount
  cases hlen : pes.length with
  | zero =>
    rw [List.eq_nil_of_length_eq_zero hlen]
    rfl
  | succ n =>
    have hne : pes ≠ [] := List.ne_nil_of_length_eq_add_one hlen
    have hpos : 0 < n + 1 := Nat.succ_pos n
    have hcopy := packetCopy_bounds pid true hpos
    have hfirst : n + 1 - packetCopy pid true (n + 1) =
        n + 1 - if pid = videoPid then 176 else 182 := by
      unfold packetCopy
      simp only [Bool.true_or, if_true, true_and]
      split
      · omega
      · split <;> omega
    have hrest : (pes.drop (packetCopy pid true pes.length)).length ≤ n := by
      rw [List.length_drop, hlen]
      omega
    rw [cutPes_cons hne, List.length_cons, length_cutPes_rest _ _ _ _ hrest, List.length_drop,
      hlen, hfirst, if_neg (Nat.ne_of_gt hpos), Nat.add_comm]

/-- The PES packet of a frame that fits has the length that the frame gives it. -/
theorem Call.pesLen_eq {call : Call} (h : call.Fits) (t : RtmpTots) :
    (call.built t).pesLen = call.pesSize := by
  have hes : esLen call.pack = call.pack.headDataLen + call.pack.dataLen :=
    Nat.mod_eq_of_lt (Nat.not_le.1 h.not_wraps)
  have haudio : (audioPes (call.pts t) call.pack (call.noted t) call.mem).pesLen =
      14 + (call.pack.headDataLen + call.pack.dataLen) := by
    rw [← hes]
    exact Nat.add_comm _ _
  have hvideo : (videoPes call.dts (call.pts t) call.pack (call.noted t) call.mem).pesLen =
      videoOffset call.pack (call.noted t) call.mem +
        (call.pack.headDataLen + call.pack.dataLen) := by
    rw [← hes]
    unfold videoPes videoOffset
    split
    · exact Nat.add_comm _ _
    · exact Nat.add_comm _ _
  unfold Call.built Call.pesSize
  cases call.pack.type with
  | unset => exact hvideo
  | mp3 => exact hvideo
  | aac => exact haudio
  | h264 => exact hvideo

theorem frameNum_afterStage (now pts pid : Nat) (pack : PackData) (t : RtmpTots) :
    (afterStage now pts pid pack t).frameNum = (t.frameNum + 1) % 4294967296 := rfl

theorem lastPsiTime_afterStage (now pts pid : Nat) (pack : PackData) (t : RtmpTots) :
    (afterStage now pts pid pack t).lastPsiTime =
      if Tots.wantsTables now pack t then now else t.lastPsiTime := by
  have hset (t : RtmpTots) (count : Nat) :
      (setPidCount t pid count).lastPsiTime = t.lastPsiTime := by
    unfold setPidCount
    split
    · rfl
    · rfl
  change (setPidCount (if Tots.wantsTables now pack t then withTables now t else t) pid
    _).lastPsiTime
    = _
  rw [hset]
  split
  · rfl
  · rfl

/-- A frame that fits emits its packets and its tables. -/
private theorem Muxed.sent {t : RtmpTots} {ps : List (List UInt8)} (h : Muxed t ps)
    (hfp : t.tsFp = true) {call : Call} (hfits : call.Fits) :
    ∃ t' qs, call.result t = .ok (0, t') ∧ Muxed t' (ps ++ qs) ∧ t'.tsFp = true ∧
      qs.length = (if call.wantsTables t.frameNum t.lastPsiTime then 2 else 0) +
        call.packetCount ∧
      t'.frameNum = (t.frameNum + 1) % 4294967296 ∧
      t'.lastPsiTime = if call.wantsTables t.frameNum t.lastPsiTime then call.now
        else t.lastPsiTime := by
  have hstep := h.stepped call
  generalize hresult : call.result t = result at hstep
  cases hstep with
  | silent hnot _ _ => exact absurd ⟨hfits, hfp⟩ hnot
  | overrun hwraps => exact absurd hwraps hfits.not_wraps
  | @emitted pid hpid _ _ =>
    have hsame := call.sameStage_built t
    have hvideo := (pidOf_cases hpid).imp And.right And.right
    have hwants : Tots.wantsTables call.now call.pack (call.built t) =
        call.wantsTables t.frameNum t.lastPsiTime := by
      unfold Tots.wantsTables Call.wantsTables
      rw [hsame.frameNum, hsame.lastPsiTime]
    refine ⟨_, frontTables call.now call.pack (call.built t) ++
      framePackets (call.pts t) pid (call.built t), rfl,
      (h.sameStage hsame).afterStage hvideo call.now (call.pts t) call.pack, ?_, ?_, ?_, ?_⟩
    · rw [(sameFrame_afterStage call.now (call.pts t) pid call.pack (call.built t)).tsFp,
        hsame.tsFp, hfp]
    · have hcount : call.packetCount = pesCount pid call.pesSize := by
        unfold Call.packetCount
        rw [hpid]
      unfold frontTables framePackets
      rw [List.length_append, length_pesPackets, Mem.length_slice, call.pesLen_eq hfits,
        hwants, hcount]
      split
      · rfl
      · rfl
    · rw [frameNum_afterStage, hsame.frameNum]
    · rw [lastPsiTime_afterStage, hwants, hsame.lastPsiTime]

/-- A run of frames that fit emits so many packets. -/
theorem Muxed.total {t : RtmpTots} {ps : List (List UInt8)} (h : Muxed t ps)
    (hfp : t.tsFp = true) {calls : List Call} (hfits : ∀ call ∈ calls, call.Fits) :
    ∃ t' qs, Tots.runCalls t calls = .ok t' ∧ Muxed t' (ps ++ qs) ∧
      qs.length = packetTotal t.frameNum t.lastPsiTime calls := by
  induction calls generalizing t ps with
  | nil => exact ⟨t, [], rfl, by rwa [List.append_nil], rfl⟩
  | cons call calls ih =>
    obtain ⟨t₁, qs, hresult, hmuxed, hfp', hlen, hnum, hpsi⟩ :=
      h.sent hfp (hfits call List.mem_cons_self)
    obtain ⟨t', rs, hrun, hmuxed', hlen'⟩ :=
      ih hmuxed hfp' fun c hc ↦ hfits c (List.mem_cons_of_mem _ hc)
    refine ⟨t', qs ++ rs, ?_, ?_, ?_⟩
    · rw [Tots.runCalls, hresult]
      exact hrun
    · rwa [← List.append_assoc]
    · rw [List.length_append, hlen, hlen', hnum, hpsi]
      rfl

/-! ### What is in the file -/

private theorem length_flatten_same {n : Nat} {ws : List (List UInt8)}
    (h : ∀ w ∈ ws, w.length = n) : ws.flatten.length = ws.length * n := by
  rw [List.length_flatten, List.map_congr_left h, List.map_const', List.sum_replicate_nat]

/-- The cache holds the packets behind the last group of seven. -/
theorem Muxed.cached {t : RtmpTots} {ps : List (List UInt8)} (h : Muxed t ps) :
    t.tsCacheLen = ps.length % 7 * tsPacketSize := by
  obtain ⟨k, hk, hlen⟩ := h.ready.whole
  have hcache : t.tsCacheLen = k * tsPacketSize := hlen
  have hemitted := congrArg List.length h.emitted
  unfold Output.emitted at hemitted
  rw [List.length_append, Mem.length_slice, hlen, length_flatten_same h.ready.written,
    length_flatten_same fun p hp ↦ (h.wellFormed p hp).length] at hemitted
  simp only [tsCacheSize, tsPacketSize, packetSize] at hemitted hcache ⊢
  have hmod : ps.length % 7 = k := by omega
  rw [hcache, hmod]

/-- The file holds all packets if and only if their number is a multiple of seven. -/
theorem Muxed.destroyed {t : RtmpTots} {ps : List (List UInt8)} (h : Muxed t ps) :
    (rtmpTotsDestroy t).file.flatten = ps.flatten ↔ 7 ∣ ps.length := by
  have hemitted : t.file.flatten ++ t.tsCache.slice 0 t.tsCacheLen = ps.flatten := h.emitted
  change t.file.flatten = ps.flatten ↔ _
  rw [← hemitted, h.cached]
  constructor
  · intro hsame
    have hlen := congrArg List.length hsame
    rw [List.length_append, Mem.length_slice] at hlen
    simp only [tsPacketSize] at hlen
    omega
  · intro hdvd
    rw [Nat.mod_eq_zero_of_dvd hdvd, Nat.zero_mul, Mem.slice_zero, List.append_nil]

/-- After the destructor the file holds all packets of the accepted frames if and only if the
frames and their tables come to a multiple of seven packets. -/
theorem rtmpTotsDestroy_complete (pesBuf : Mem) (start : Nat) (calls : List Call)
    (h : ∀ call ∈ calls, call.Fits) :
    ∃ t ps, runCalls (rtmpTots pesBuf true start) calls = .ok t ∧
      Streams true (rtmpTots pesBuf true start) calls ps ∧
      ((rtmpTotsDestroy t).file.flatten = ps.flatten ↔ 7 ∣ packetTotal 0 start calls) := by
  have hfresh := muxed_rtmpTots pesBuf true start
  obtain ⟨t, qs, hrun, hmuxed, hlen⟩ := hfresh.total rfl h
  obtain ⟨ps, hstreams, hmuxed', -⟩ := hfresh.streams rfl true (fun _ ↦ rfl) hrun
  obtain rfl : qs = ps := hmuxed.packets.symm.trans hmuxed'.packets
  refine ⟨t, qs, hrun, hstreams, ?_⟩
  have hfile := hmuxed.destroyed
  rw [List.nil_append, hlen] at hfile
  exact hfile

/-- The two tables and the five packets of an audio frame. -/
theorem rtmpTotsDestroy_complete_seven :
    ∃ t ps, runCalls (rtmpTots (fun _ ↦ 0) true 5) [smallCall .aac 864] = .ok t ∧
      Streams true (rtmpTots (fun _ ↦ 0) true 5) [smallCall .aac 864] ps ∧
      (rtmpTotsDestroy t).file.flatten = ps.flatten := by
  obtain ⟨t, ps, hrun, hstreams, hfile⟩ :=
    rtmpTotsDestroy_complete (fun _ ↦ 0) 5 [smallCall .aac 864] (by decide)
  exact ⟨t, ps, hrun, hstreams, hfile.mpr (by decide +kernel)⟩

/-- Of one small frame nothing is in the file, though it has come to three packets. -/
theorem rtmpTotsDestroy_loses :
    (runCalls (rtmpTots (fun _ ↦ 0) true 5) [smallCall .h264 0]).map (fun t ↦
      ((rtmpTotsDestroy t).file, (packets t.output.emitted).length)) = .ok ([], 3) := by
  decide +kernel

end RtmpRecv.Tots
