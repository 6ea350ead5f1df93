import RtmpRecv.Tots.Emit

/-!
# The packet cache

Library `Tots`. The cache and the file are one output to which packets are added. A round of
the loop of `rtmp_tots_packet_ts_header` adds one packet, so the stage as a whole adds the two
table packets, where they are due, and the packets a PES packet is cut into.
-/

namespace RtmpRecv.Tots
open RtmpRecv.Base RtmpRecv.Wire

/-! ### Output -/

/-- The part of the muxer that packets go to. -/
structure Output where
  cache : Mem
  len : Nat
  file : List (List UInt8)

/-- The output of a muxer. -/
def RtmpTots.output (t : RtmpTots) : Output := ⟨t.tsCache, t.tsCacheLen, t.file⟩

/-- A muxer with another output. -/
def RtmpTots.withOutput (t : RtmpTots) (o : Output) : RtmpTots :=
  { t with tsCache := o.cache, tsCacheLen := o.len, file := o.file }

/-- Add a packet; the seventh one in the cache makes it be written. -/
def Output.add (o : Output) (p : List UInt8) : Output :=
  if o.len + tsPacketSize = tsCacheSize then
    ⟨o.cache.memcpy o.len p, 0, o.file ++ [(o.cache.memcpy o.len p).slice 0 tsCacheSize]⟩
  else ⟨o.cache.memcpy o.len p, o.len + tsPacketSize, o.file⟩

/-- The bytes written so far and then those in the cache. -/
def Output.emitted (o : Output) : List UInt8 := o.file.flatten ++ o.cache.slice 0 o.len

/-- The cache holds at most six whole packets, and whole caches have been written. -/
structure Output.Ready (o : Output) : Prop where
  whole : ∃ k, k ≤ 6 ∧ o.len = k * tsPacketSize
  written : ∀ w ∈ o.file, w.length = tsCacheSize

@[simp] theorem output_withOutput (t : RtmpTots) (o : Output) : (t.withOutput o).output = o := rfl

@[simp] theorem withOutput_withOutput (t : RtmpTots) (o o' : Output) :
    (t.withOutput o).withOutput o' = t.withOutput o' := rfl

theorem Output.Ready.room {o : Output} (h : o.Ready) : o.len + tsPacketSize ≤ tsCacheSize := by
  obtain ⟨k, hk, hlen⟩ := h.whole
  simp only [tsCacheSize, tsPacketSize] at hlen ⊢
  omega

/-- Adding a packet keeps the output ready. -/
theorem Output.Ready.add {o : Output} (h : o.Ready) (p : List UInt8) : (o.add p).Ready := by
  obtain ⟨k, hk, hlen⟩ := h.whole
  unfold Output.add
  by_cases hfull : o.len + tsPacketSize = tsCacheSize
  · rw [if_pos hfull]
    constructor
    · exact ⟨0, by simp, by simp⟩
    · intro w hw
      rcases List.mem_append.1 hw with hw | hw
      · exact h.written w hw
      · rw [List.mem_singleton.1 hw, Mem.length_slice]
  · rw [if_neg hfull]
    constructor
    · simp only [tsCacheSize, tsPacketSize] at hfull hlen ⊢
      exact ⟨k + 1, by omega, by omega⟩
    · exact h.written

/-- An added packet is emitted behind everything else. -/
theorem Output.emitted_add (o : Output) {p : List UInt8} (hp : p.length = tsPacketSize) :
    (o.add p).emitted = o.emitted ++ p := by
  have hslice := Mem.slice_memcpy_append o.cache 0 o.len p
  rw [Nat.zero_add, hp] at hslice
  simp only [Output.add, Output.emitted]
  by_cases hfull : o.len + tsPacketSize = tsCacheSize
  · rw [if_pos hfull, ← hfull, hslice]
    simp
  · rw [if_neg hfull, hslice, List.append_assoc]

/-- A run of packets keeps the output ready. -/
theorem Output.Ready.foldl {o : Output} (h : o.Ready) (ps : List (List UInt8)) :
    (ps.foldl Output.add o).Ready := by
  induction ps generalizing o with
  | nil => exact h
  | cons p ps ih => exact ih (h.add p)

/-- A run of packets is emitted in order. -/
theorem Output.emitted_foldl (o : Output) {ps : List (List UInt8)}
    (h : ∀ p ∈ ps, p.length = tsPacketSize) :
    (ps.foldl Output.add o).emitted = o.emitted ++ ps.flatten := by
  induction ps generalizing o with
  | nil => simp
  | cons p ps ih =>
    rw [List.foldl_cons, ih _ fun q hq ↦ h q (List.mem_cons_of_mem _ hq),
      Output.emitted_add _ (h p List.mem_cons_self)]
    simp

/-- The flush behind a stored packet adds the packet to the output. -/
private theorem flushTsCache_add {t : RtmpTots} (p : List UInt8) :
    flushTsCache
        { t with
          tsCache := t.tsCache.memcpy t.tsCacheLen p
          tsCacheLen := t.tsCacheLen + tsPacketSize }
        (t.tsCacheLen + tsPacketSize) =
      .ok (t.withOutput (t.output.add p), (t.output.add p).len) := by
  unfold flushTsCache
  by_cases hfull : t.tsCacheLen + tsPacketSize = tsCacheSize
  · have hadd : t.output.add p = ⟨t.tsCache.memcpy t.tsCacheLen p, 0,
        t.file ++ [(t.tsCache.memcpy t.tsCacheLen p).slice 0 tsCacheSize]⟩ := if_pos hfull
    rw [if_pos hfull, if_pos hfull, hadd]
    rfl
  · have hadd : t.output.add p = ⟨t.tsCache.memcpy t.tsCacheLen p,
        t.tsCacheLen + tsPacketSize, t.file⟩ := if_neg hfull
    rw [if_neg hfull, hadd]
    rfl

/-- A table packet is added to the output. -/
theorem cacheTable_eq {t : RtmpTots} (h : t.output.Ready) (table : List UInt8) :
    cacheTable t t.tsCacheLen table =
      .ok (t.withOutput (t.output.add table), (t.output.add table).len) := by
  have hroom : t.tsCacheLen + tsPacketSize ≤ tsCacheSize := h.room
  rw [cacheTable, if_neg (Nat.not_lt.2 hroom)]
  exact flushTsCache_add table

/-! ### Cutting a PES packet -/

/-- The packets that the bytes of a PES packet are cut into. Each takes at least one byte, so
that as many rounds as there are bytes are enough. -/
def cutPes (pid pts : Nat) : Nat → Nat → Bool → List UInt8 → List (List UInt8)
  | 0, _, _, _ => []
  | fuel + 1, count, newPes, bytes =>
    if bytes = [] then []
    else
      let copied := bytes.take (packetCopy pid newPes bytes.length)
      let rest := bytes.drop (packetCopy pid newPes bytes.length)
      (packetHead pid count newPes pts bytes.length ++ copied) ::
        cutPes pid pts fuel ((count + 1) % 0x10) false rest

@[simp] theorem cutPes_nil (pid pts fuel count : Nat) (newPes : Bool) :
    cutPes pid pts fuel count newPes [] = [] := by
  cases fuel <;> simp [cutPes]

theorem cutPes_cons {pid pts fuel count : Nat} {newPes : Bool} {bytes : List UInt8}
    (h : bytes ≠ []) :
    cutPes pid pts (fuel + 1) count newPes bytes =
      (packetHead pid count newPes pts bytes.length ++
          bytes.take (packetCopy pid newPes bytes.length)) ::
        cutPes pid pts fuel ((count + 1) % 0x10) false
          (bytes.drop (packetCopy pid newPes bytes.length)) := by
  simp only [cutPes, if_neg h]

/-- The packets that bytes are cut into carry them. -/
theorem carries_cutPes {pid : Nat} (hpid : pid = videoPid ∨ pid = audioPid) (pts : Nat)
    {fuel : Nat} (count : Nat) (newPes : Bool) {bytes : List UInt8} (h : bytes.length ≤ fuel) :
    Carries pid newPes (cutPes pid pts fuel count newPes bytes) bytes := by
  induction fuel generalizing count newPes bytes with
  | zero =>
    obtain rfl := List.eq_nil_of_length_eq_zero (Nat.le_zero.1 h)
    exact Carries.nil newPes
  | succ fuel ih =>
    by_cases hnil : bytes = []
    · rw [hnil, cutPes_nil]
      exact Carries.nil newPes
    · have hpos : 0 < bytes.length := List.length_pos_iff.2 hnil
      have hcopy := packetCopy_bounds pid newPes hpos
      have hlen : (bytes.take (packetCopy pid newPes bytes.length)).length =
          packetCopy pid newPes bytes.length := List.length_take_of_le hcopy.2
      obtain ⟨hwell, hid, hstart, hpayload⟩ := packet_read hpid count newPes pts hpos hlen
      have hfuel : (bytes.drop (packetCopy pid newPes bytes.length)).length ≤ fuel := by
        rw [List.length_drop]
        omega
      have hrest := ih ((count + 1) % 0x10) false hfuel
      have hcons := Carries.cons hwell hid hstart hrest
      rw [hpayload, List.take_append_drop] at hcons
      rw [cutPes_cons hnil]
      exact hcons

/-- The packets that bytes are cut into are counted. -/
theorem counted_cutPes (pid pts fuel count : Nat) (newPes : Bool) (bytes : List UInt8) :
    Counted count (cutPes pid pts fuel count newPes bytes) := by
  induction fuel generalizing count newPes bytes with
  | zero => trivial
  | succ fuel ih =>
    by_cases hnil : bytes = []
    · rw [hnil, cutPes_nil]
      trivial
    · rw [cutPes_cons hnil]
      constructor
      · exact packetCounter_packet _ _ _ _ _ _
      · exact (Counted.congr (Nat.mod_mod _ _) _).1 (ih _ _ _)

@[simp] theorem setPidCount_same (t : RtmpTots) (pid : Nat) :
    setPidCount t pid (pidCount t pid) = t := by
  unfold setPidCount pidCount
  by_cases h : pid = videoPid
  · simp only [if_pos h]
  · simp only [if_neg h]

@[simp] theorem pidCount_setPidCount (t : RtmpTots) (pid count : Nat) :
    pidCount (setPidCount t pid count) pid = count := by
  unfold setPidCount pidCount
  by_cases h : pid = videoPid
  · simp only [if_pos h]
  · simp only [if_neg h]

@[simp] theorem setPidCount_setPidCount (t : RtmpTots) (pid count count' : Nat) :
    setPidCount (setPidCount t pid count) pid count' = setPidCount t pid count' := by
  unfold setPidCount
  by_cases h : pid = videoPid
  · simp only [if_pos h]
  · simp only [if_neg h]

theorem setPidCount_withOutput (t : RtmpTots) (pid count : Nat) (o : Output) :
    setPidCount (t.withOutput o) pid count = (setPidCount t pid count).withOutput o := by
  unfold setPidCount
  by_cases h : pid = videoPid
  · simp only [if_pos h]
    rfl
  · simp only [if_neg h]
    rfl

@[simp] theorem output_setPidCount (t : RtmpTots) (pid count : Nat) :
    (setPidCount t pid count).output = t.output := by
  unfold setPidCount
  by_cases h : pid = videoPid
  · rw [if_pos h]
    rfl
  · rw [if_neg h]
    rfl

@[simp] theorem pesBuf_setPidCount (t : RtmpTots) (pid count : Nat) :
    (setPidCount t pid count).pesBuf = t.pesBuf := by
  unfold setPidCount
  by_cases h : pid = videoPid
  · rw [if_pos h]
  · rw [if_neg h]

@[simp] theorem pidCount_withOutput (t : RtmpTots) (pid : Nat) (o : Output) :
    pidCount (t.withOutput o) pid = pidCount t pid := rfl

@[simp] theorem pesBuf_withOutput (t : RtmpTots) (o : Output) :
    (t.withOutput o).pesBuf = t.pesBuf := rfl

/-- A round of the loop adds one packet. -/
private theorem tsPacketLoop_succ {pts pid fuel : Nat} {t : RtmpTots} {newPes : Bool} {p n : Nat}
    (h : t.output.Ready) (hn : 0 < n) :
    tsPacketLoop pts pid (fuel + 1) t t.tsCacheLen newPes p n =
      let t' := (setPidCount t pid ((pidCount t pid + 1) % 0x10)).withOutput (t.output.add
        (packetHead pid (pidCount t pid) newPes pts n ++
          t.pesBuf.slice p (packetCopy pid newPes n)))
      tsPacketLoop pts pid fuel t' t'.tsCacheLen false (p + packetCopy pid newPes n)
        ((n - packetCopy pid newPes n : Nat) : Int) := by
  have hroom : ¬t.tsCacheLen + tsPacketSize > tsCacheSize := Nat.not_lt.2 h.room
  have hcopy := (packetCopy_bounds pid newPes hn).2
  have hlen := length_packetHead pid (pidCount t pid) newPes pts hn
  have hpos : ¬(n : Int) ≤ 0 := by omega
  have hsize : tsPacketSize - packetCopy pid newPes n =
      (packetHead pid (pidCount t pid) newPes pts n).length := by
    simp only [packetSize, tsPacketSize] at hlen ⊢
    omega
  have hleft : (n : Int) - (packetCopy pid newPes n : Nat) =
      ((n - packetCopy pid newPes n : Nat) : Int) := by omega
  have hflush := flushTsCache_add (t := setPidCount t pid ((pidCount t pid + 1) % 0x10))
    (packetHead pid (pidCount t pid) newPes pts n ++
      (setPidCount t pid ((pidCount t pid + 1) % 0x10)).pesBuf.slice p (packetCopy pid newPes n))
  have hcache : (setPidCount t pid ((pidCount t pid + 1) % 0x10)).tsCache = t.tsCache :=
    congrArg Output.cache (output_setPidCount _ _ _)
  have hcacheLen : (setPidCount t pid ((pidCount t pid + 1) % 0x10)).tsCacheLen = t.tsCacheLen :=
    congrArg Output.len (output_setPidCount _ _ _)
  rw [hcache, hcacheLen, output_setPidCount] at hflush
  rw [tsPacketLoop, if_neg hpos, if_neg hroom]
  simp only [tsPacketHead_eq, Int.toNat_natCast, hsize, Mem.memcpy_memcpy, hcacheLen,
    hleft]
  rw [hflush, pesBuf_setPidCount]
  rfl

/-- The loop adds the packets that the bytes left of the PES packet are cut into. -/
theorem tsPacketLoop_eq {pts pid fuel : Nat} {t : RtmpTots} {newPes : Bool} {p n : Nat}
    (h : t.output.Ready) (hcount : pidCount t pid < 0x10) (hn : n ≤ fuel) :
    tsPacketLoop pts pid fuel t t.tsCacheLen newPes p n =
      let ps := cutPes pid pts fuel (pidCount t pid) newPes (t.pesBuf.slice p n)
      .ok ((setPidCount t pid ((pidCount t pid + ps.length) % 0x10)).withOutput
        (ps.foldl Output.add t.output)) := by
  -- the induction is on the rounds left; each round leaves the output ready
  induction fuel generalizing t newPes p n with
  | zero =>
    obtain rfl : n = 0 := by omega
    simp [tsPacketLoop, Nat.mod_eq_of_lt hcount]
    rfl
  | succ fuel ih =>
    by_cases hz : n = 0
    · subst hz
      simp [tsPacketLoop, Nat.mod_eq_of_lt hcount]
      rfl
    · have hpos : 0 < n := Nat.pos_of_ne_zero hz
      have hcopy := packetCopy_bounds pid newPes hpos
      have hne : t.pesBuf.slice p n ≠ [] := by
        intro hnil
        have hlen := congrArg List.length hnil
        simp at hlen
        omega
      rw [tsPacketLoop_succ h hpos]
      dsimp only
      rw [ih (by simpa using h.add _) (by simpa using Nat.mod_lt _ (by decide)) (by omega)]
      have hmin : min (packetCopy pid newPes n) n = packetCopy pid newPes n :=
        Nat.min_eq_left hcopy.2
      have hmod (k : Nat) : ((pidCount t pid + 1) % 0x10 + k) % 0x10 =
          (pidCount t pid + (k + 1)) % 0x10 := by omega
      simp only [cutPes_cons hne, Mem.length_slice, Mem.take_slice, Mem.drop_slice, hmin,
        List.foldl_cons, List.length_cons, pidCount_withOutput, pidCount_setPidCount,
        output_withOutput, setPidCount_withOutput, setPidCount_setPidCount, pesBuf_withOutput,
        pesBuf_setPidCount, withOutput_withOutput, hmod]

/-! ### The stage -/

/-- The PID of the packets of a frame. -/
def pidOf : DataType → Option Nat
  | .h264 => some videoPid
  | .aac => some audioPid
  | _ => none

/-- The test for the two tables in front of a frame. -/
def wantsTables (now : Nat) (pack : PackData) (t : RtmpTots) : Bool :=
  pack.isKeyframe || t.frameNum == 0 ||
    (now + 18446744073709551616 - 300) % 18446744073709551616 > t.lastPsiTime

/-- The PAT packet and the PMT packet. -/
def tablePackets (t : RtmpTots) : List (List UInt8) :=
  [tablePacket 0x40 t.patNum patTable, tablePacket 0x41 t.patNum pmtTable]

/-- The packets of one PES packet, the first one with the counter `count`. -/
def pesPackets (pid pts count : Nat) (pes : List UInt8) : List (List UInt8) :=
  cutPes pid pts pes.length count true pes

/-- The packets the stage emits for the PES packet in `pes_buf`. -/
def stagePackets (now pts pid : Nat) (pack : PackData) (t : RtmpTots) : List (List UInt8) :=
  (if wantsTables now pack t then tablePackets t else []) ++
    pesPackets pid pts (pidCount t pid) (t.pesBuf.slice 0 t.pesLen)

/-- What the two tables change apart from the output. -/
def withTables (now : Nat) (t : RtmpTots) : RtmpTots :=
  { t with
    patPacket := tablePacket 0x40 t.patNum patTable
    pmtPacket := tablePacket 0x41 t.patNum pmtTable
    patNum := (t.patNum + 1) % 4294967296
    lastPsiTime := now }

/-- What the stage makes of the muxer. -/
def afterStage (now pts pid : Nat) (pack : PackData) (t : RtmpTots) : RtmpTots :=
  let tables := if wantsTables now pack t then withTables now t else t
  let counted := setPidCount tables pid ((pidCount t pid +
    (pesPackets pid pts (pidCount t pid) (t.pesBuf.slice 0 t.pesLen)).length) % 0x10)
  { counted with frameNum := (t.frameNum + 1) % 4294967296 }.withOutput
    ((stagePackets now pts pid pack t).foldl Output.add t.output)

theorem pidOf_cases {type : DataType} {pid : Nat} (h : pidOf type = some pid) :
    type = .h264 ∧ pid = videoPid ∨ type = .aac ∧ pid = audioPid := by
  cases type with
  | unset => cases h
  | mp3 => cases h
  | aac => exact Or.inr ⟨rfl, (Option.some.inj h).symm⟩
  | h264 => exact Or.inl ⟨rfl, (Option.some.inj h).symm⟩

private theorem setPidCount_frameNum (t : RtmpTots) (o : Output) (frameNum pid count : Nat) :
    setPidCount { t.withOutput o with frameNum := frameNum } pid count =
      { setPidCount t pid count with frameNum := frameNum }.withOutput o := by
  unfold setPidCount
  by_cases h : pid = videoPid
  · rw [if_pos h, if_pos h]
    rfl
  · rw [if_neg h, if_neg h]
    rfl

/-- The loop behind the tables: it starts a new PES packet with the output `o`. -/
private theorem stage_loop {t : RtmpTots} {o : Output} (h : o.Ready) (pts frameNum : Nat)
    {pid : Nat} (hcount : pidCount t pid < 0x10) :
    tsPacketLoop pts pid t.pesLen { t.withOutput o with frameNum := frameNum } o.len true 0
        t.pesLen =
      let ps := pesPackets pid pts (pidCount t pid) (t.pesBuf.slice 0 t.pesLen)
      .ok ({ setPidCount t pid ((pidCount t pid + ps.length) % 0x10) with
        frameNum := frameNum }.withOutput (ps.foldl Output.add o)) := by
  have hready : ({ t.withOutput o with frameNum := frameNum } : RtmpTots).output.Ready := h
  unfold pesPackets
  rw [Mem.length_slice]
  refine (tsPacketLoop_eq hready hcount (Nat.le_refl t.pesLen)).trans ?_
  dsimp only
  rw [setPidCount_frameNum]
  rfl

/-- The two tables are added to the output. -/
private theorem cacheTables_eq (now : Nat) {t : RtmpTots} (h : t.output.Ready) :
    ∃ t₁ : RtmpTots,
      cacheTable (rtmpTotsPacketTsPatTable { t with lastPsiTime := now }) t.tsCacheLen
          (rtmpTotsPacketTsPatTable { t with lastPsiTime := now }).patPacket =
        .ok (t₁, t₁.tsCacheLen) ∧
      cacheTable (rtmpTotsPacketTsPmtTable t₁) t₁.tsCacheLen
          (rtmpTotsPacketTsPmtTable t₁).pmtPacket =
        .ok ((withTables now t).withOutput ((tablePackets t).foldl Output.add t.output),
          ((tablePackets t).foldl Output.add t.output).len) := by
  have hpat := cacheTable_eq (t := rtmpTotsPacketTsPatTable { t with lastPsiTime := now }) h
    (rtmpTotsPacketTsPatTable { t with lastPsiTime := now }).patPacket
  refine ⟨_, hpat, (cacheTable_eq ?_ _).trans ?_⟩
  · exact h.add _
  · simp only [rtmpTotsPacketTsPatTable, rtmpTotsPacketTsPmtTable, withTables, tablePackets,
      RtmpTots.withOutput, RtmpTots.output, List.foldl_cons, List.foldl_nil]

/-- A frame of a stage with an open file: all its packets are emitted and none of the
assertions fails. -/
theorem rtmpTotsPacketTsHeader_eq {now pts pid : Nat} {pack : PackData} {t : RtmpTots}
    (hpack : t.packData = some pack) (hpid : pidOf pack.type = some pid) (hfp : t.tsFp = true)
    (hready : t.output.Ready) (hcount : pidCount t pid < 0x10) (hlen : t.pesLen < 2147483648) :
    rtmpTotsPacketTsHeader now pts t = .ok (0, afterStage now pts pid pack t) := by
  have hopen : ¬¬t.tsFp := by simp [hfp]
  have hsize : toInt32 t.pesLen = t.pesLen := toInt32_of_lt _ hlen
  have hmatch : (match pack.type with
      | .h264 => some videoPid
      | .aac => some audioPid
      | _ => none) = some pid := hpid
  unfold rtmpTotsPacketTsHeader afterStage stagePackets
  split
  · next hnone =>
    rw [hpack] at hnone
    cases hnone
  · next packData hsome =>
    obtain rfl : packData = pack := Option.some.inj (hsome.symm.trans hpack)
    rw [if_neg hopen]
    dsimp only
    rw [hsize, Int.toNat_natCast, List.foldl_append]
    by_cases hwants : wantsTables now packData t = true
    · have htest : (packData.isKeyframe || t.frameNum == 0 ||
        (now + 18446744073709551616 - 300) % 18446744073709551616 > t.lastPsiTime) = true := hwants
      have hloop := stage_loop (t := withTables now t)
        (hready.foldl (tablePackets t)) pts ((t.frameNum + 1) % 4294967296) hcount
      obtain ⟨t₁, hpat, hpmt⟩ := cacheTables_eq now hready
      rw [if_pos htest, if_pos hwants, if_pos hwants, hpat]
      dsimp only
      rw [hpmt]
      dsimp only
      split
      · next hnone => cases hnone.symm.trans hmatch
      · next pid' hsome' =>
        obtain rfl : pid' = pid := Option.some.inj (hsome'.symm.trans hmatch)
        split
        · next e he => cases he.symm.trans hloop
        · next t' ht =>
          rw [Except.ok.inj (ht.symm.trans hloop)]
          rfl
    · have htest : ¬(packData.isKeyframe || t.frameNum == 0 ||
        (now + 18446744073709551616 - 300) % 18446744073709551616 > t.lastPsiTime) = true := hwants
      have hloop := stage_loop hready pts ((t.frameNum + 1) % 4294967296) hcount
      rw [if_neg htest, if_neg hwants, if_neg hwants, List.foldl_nil]
      dsimp only
      split
      · next hnone => cases hnone.symm.trans hmatch
      · next pid' hsome' =>
        obtain rfl : pid' = pid := Option.some.inj (hsome'.symm.trans hmatch)
        split
        · next e he => cases he.symm.trans hloop
        · next t' ht => rw [Except.ok.inj (ht.symm.trans hloop)]

end RtmpRecv.Tots
