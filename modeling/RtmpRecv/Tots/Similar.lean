import RtmpRecv.Tots.Calls

/-!
# Muxers side by side

Library `Tots`. What a call emits depends neither on what `pes_buf` held before it nor on the bytes
behind the head data: two muxers that differ in these only, or in the frame they remember, stay
alike.
-/

namespace RtmpRecv.Tots
open RtmpRecv.Base

/-- The muxer with other bytes in `pes_buf` and another frame noted. -/
def RtmpTots.withPes (t : RtmpTots) (pesBuf : Mem) (packData : Option PackData) : RtmpTots :=
  { t with pesBuf := pesBuf, packData := packData }

/-- The results are alike: the same value or fault, and muxers that differ in `pes_buf` and the
noted frame only. -/
def SimilarResult (r r' : Except Fault (Int × RtmpTots)) : Prop :=
  ∃ pesBuf packData, r' = r.map fun x ↦ (x.1, x.2.withPes pesBuf packData)

/-- The frames have the same head data and data: head data is the same up to its length, and in its
first five bytes, which the muxer looks at in any case. -/
inductive SimilarPack : PackData → PackData → Prop where
  | bare (pack : PackData) (hhead : pack.headData = none) (hlen : pack.headDataLen = 0) :
      SimilarPack pack pack
  | head (pack : PackData) (head head' : Mem)
      (hsame : ∀ i, i < max pack.headDataLen 5 → head i = head' i) :
      SimilarPack { pack with headData := some head } { pack with headData := some head' }

/-! ### The transport stage -/

section

variable (t : RtmpTots) (pesBuf : Mem) (packData : Option PackData)

private theorem flushTsCache_withPes (packet : Nat) :
    flushTsCache (t.withPes pesBuf packData) packet =
      (flushTsCache t packet).map fun r ↦ (r.1.withPes pesBuf packData, r.2) := by
  unfold flushTsCache
  split
  · change (if t.tsCacheLen = tsCacheSize then _ else _) = _
    split
    · rfl
    · rfl
  · rfl

private theorem cacheTable_withPes (packet : Nat) (table : List UInt8) :
    cacheTable (t.withPes pesBuf packData) packet table =
      (cacheTable t packet table).map fun r ↦ (r.1.withPes pesBuf packData, r.2) := by
  unfold cacheTable
  split
  · rfl
  · exact flushTsCache_withPes { t with
      tsCache := t.tsCache.memcpy packet table
      tsCacheLen := t.tsCacheLen + tsPacketSize } pesBuf packData _

private theorem setPidCount_withPes (pid count : Nat) :
    setPidCount (t.withPes pesBuf packData) pid count =
      (setPidCount t pid count).withPes pesBuf packData := by
  unfold setPidCount
  split
  · rfl
  · rfl

end

section

variable {t : RtmpTots} {pesBuf : Mem} {packData : Option PackData}

private theorem pesBuf_flushTsCache {packet packet' : Nat} {t' : RtmpTots}
    (h : flushTsCache t packet = .ok (t', packet')) : t'.pesBuf = t.pesBuf := by
  unfold flushTsCache at h
  split at h
  · split at h
    · cases h
      rfl
    · cases h
  · cases h
    rfl

private theorem pesBuf_cacheTable {packet packet' : Nat} {table : List UInt8} {t' : RtmpTots}
    (h : cacheTable t packet table = .ok (t', packet')) : t'.pesBuf = t.pesBuf := by
  unfold cacheTable at h
  split at h
  · cases h
  · exact (pesBuf_flushTsCache h).trans rfl

variable (packData) in
/-- The loop reads the PES packet and nothing behind it. -/
private theorem tsPacketLoop_withPes (pts pid fuel : Nat) {t : RtmpTots} (packet : Nat)
    (newPes : Bool) (p : Nat) {iSize : Int} {n : Nat} (hpes : pesBuf.slice 0 n = t.pesBuf.slice 0 n)
    (hn : p + iSize ≤ n) :
    tsPacketLoop pts pid fuel (t.withPes pesBuf packData) packet newPes p iSize =
      (tsPacketLoop pts pid fuel t packet newPes p iSize).map (·.withPes pesBuf packData) := by
  induction fuel generalizing t packet newPes p iSize with
  | zero =>
    unfold tsPacketLoop
    split
    · rfl
    · rfl
  | succ fuel ih =>
    unfold tsPacketLoop
    by_cases hempty : iSize ≤ 0
    · rw [if_pos hempty, if_pos hempty]
      rfl
    · rw [if_neg hempty, if_neg hempty]
      dsimp only
      by_cases hfull : packet + tsPacketSize > tsCacheSize
      · rw [if_pos hfull, if_pos hfull]
        rfl
      · obtain ⟨-, hcopy⟩ := packetCopy_bounds pid newPes (show 0 < iSize.toNat by omega)
        have hcount : pidCount (t.withPes pesBuf packData) pid = pidCount t pid := rfl
        have hcache : (t.withPes pesBuf packData).tsCache = t.tsCache := rfl
        rw [if_neg hfull, if_neg hfull]
        simp only [tsPacketHead_eq, hcount, hcache, setPidCount_withPes, pesBuf_setPidCount]
        generalize packetCopy pid newPes iSize.toNat = k at hcopy ⊢
        have hbytes : pesBuf.slice p k = t.pesBuf.slice p k := by
          rw [Mem.slice_eq_iff] at hpes ⊢
          intro i hi
          have hat := hpes (p + i) (by omega)
          rwa [Nat.zero_add] at hat
        have hread : ((setPidCount t pid ((pidCount t pid + 1) % 0x10)).withPes pesBuf
            packData).pesBuf = pesBuf := rfl
        rw [hread, hbytes]
        have hkept := pesBuf_setPidCount t pid ((pidCount t pid + 1) % 0x10)
        generalize setPidCount t pid ((pidCount t pid + 1) % 0x10) = t₁ at hkept ⊢
        generalize (t.tsCache.memcpy packet _).memcpy _ _ = cache
        have hflush := flushTsCache_withPes
          { t₁ with tsCache := cache, tsCacheLen := t₁.tsCacheLen + tsPacketSize } pesBuf packData
          (packet + tsPacketSize)
        have hpesBuf {t₂ : RtmpTots} {packet' : Nat} (h : flushTsCache
            { t₁ with tsCache := cache, tsCacheLen := t₁.tsCacheLen + tsPacketSize }
            (packet + tsPacketSize) = .ok (t₂, packet')) : t₂.pesBuf = t.pesBuf :=
          (pesBuf_flushTsCache h).trans hkept
        unfold RtmpTots.withPes at hflush ih ⊢
        dsimp only at hflush ⊢
        rw [← hkept, hflush]
        generalize flushTsCache _ (packet + tsPacketSize) = cached at hpesBuf ⊢
        cases cached with
        | error e => rfl
        | ok r => exact ih r.2 false (p + k) (by rw [hpesBuf rfl]; exact hpes) (by omega)

private theorem toInt32_le (n : Nat) : toInt32 n ≤ n := by
  unfold toInt32
  split <;> omega

/-- The part of the stage that puts the two tables into the cache. -/
private def cachedTables (now : Nat) (t : RtmpTots) : Except Fault (RtmpTots × Nat) :=
  match cacheTable (rtmpTotsPacketTsPatTable { t with lastPsiTime := now }) t.tsCacheLen
      (rtmpTotsPacketTsPatTable { t with lastPsiTime := now }).patPacket with
  | .error e => .error e
  | .ok (t, packet) =>
    cacheTable (rtmpTotsPacketTsPmtTable t) packet (rtmpTotsPacketTsPmtTable t).pmtPacket

private theorem cachedTables_withPes (now : Nat) (t : RtmpTots) :
    cachedTables now (t.withPes pesBuf packData) =
      (cachedTables now t).map fun r ↦ (r.1.withPes pesBuf packData, r.2) := by
  have hpat := cacheTable_withPes (rtmpTotsPacketTsPatTable { t with lastPsiTime := now }) pesBuf
    packData t.tsCacheLen (rtmpTotsPacketTsPatTable { t with lastPsiTime := now }).patPacket
  have hsame : (rtmpTotsPacketTsPatTable { t with lastPsiTime := now }).withPes pesBuf packData =
      rtmpTotsPacketTsPatTable { t.withPes pesBuf packData with lastPsiTime := now } := rfl
  rw [hsame] at hpat
  unfold cachedTables
  change (match cacheTable (rtmpTotsPacketTsPatTable { t.withPes pesBuf packData with
      lastPsiTime := now }) t.tsCacheLen (rtmpTotsPacketTsPatTable { t with
        lastPsiTime := now }).patPacket with
    | .error e => (Except.error e : Except Fault (RtmpTots × Nat))
    | .ok (t, packet) => _) = _
  rw [hpat]
  generalize cacheTable (rtmpTotsPacketTsPatTable { t with lastPsiTime := now }) _ _ = cached
  cases cached with
  | error e => rfl
  | ok r => exact cacheTable_withPes (rtmpTotsPacketTsPmtTable r.1) pesBuf packData _ _

private theorem pesBuf_cachedTables {now packet : Nat} {t t' : RtmpTots}
    (h : cachedTables now t = .ok (t', packet)) : t'.pesBuf = t.pesBuf := by
  unfold cachedTables at h
  split at h
  · cases h
  · next t₁ packet₁ hpat =>
    have hpmt : t'.pesBuf = t₁.pesBuf := (pesBuf_cacheTable h).trans rfl
    have hpat' : t₁.pesBuf = t.pesBuf := (pesBuf_cacheTable hpat).trans rfl
    exact hpmt.trans hpat'

/-- The part of the stage behind the tables. -/
private def stagePes (pts : Nat) (type : DataType) (iSize : Int) (t : RtmpTots) (packet : Nat) :
    Except Fault (Int × RtmpTots) :=
  let t := { t with frameNum := (t.frameNum + 1) % 4294967296 }
  match pidOf type with
  | none => if 0 < iSize then .error .nullPointer else .ok (0, t)
  | some pid =>
    match tsPacketLoop pts pid iSize.toNat t packet true 0 iSize with
    | .error e => .error e
    | .ok t => .ok (0, t)

private theorem stagePes_withPes (pts : Nat) (type : DataType) {iSize : Int} (t : RtmpTots)
    (packet n : Nat) (hpes : pesBuf.slice 0 n = t.pesBuf.slice 0 n) (hn : iSize ≤ n) :
    stagePes pts type iSize (t.withPes pesBuf packData) packet =
      (stagePes pts type iSize t packet).map fun r ↦ (r.1, r.2.withPes pesBuf packData) := by
  unfold stagePes
  dsimp only
  cases pidOf type with
  | none =>
    dsimp only
    split
    · rfl
    · rfl
  | some pid =>
    have hloop := tsPacketLoop_withPes packData pts pid iSize.toNat
      (t := { t with frameNum := (t.frameNum + 1) % 4294967296 }) packet true 0 hpes
      (show ((0 : Nat) : Int) + iSize ≤ n by omega)
    change (match tsPacketLoop pts pid iSize.toNat (RtmpTots.withPes { t with
        frameNum := (t.frameNum + 1) % 4294967296 } pesBuf packData) packet true 0 iSize with
      | .error e => (Except.error e : Except Fault (Int × RtmpTots))
      | .ok t => .ok (0, t)) = _
    rw [hloop]
    dsimp only
    generalize tsPacketLoop pts pid iSize.toNat _ packet true 0 iSize = done
    cases done with
    | error e => rfl
    | ok t => rfl

/-- The stage reads the PES packet, and of the noted frame its type and whether it is a key
frame. -/
private theorem rtmpTotsPacketTsHeader_withPes (now pts : Nat) {pack pack' : PackData}
    (hpack : t.packData = some pack) (htype : pack'.type = pack.type)
    (hkey : pack'.isKeyframe = pack.isKeyframe)
    (hpes : pesBuf.slice 0 t.pesLen = t.pesBuf.slice 0 t.pesLen) :
    rtmpTotsPacketTsHeader now pts (t.withPes pesBuf (some pack')) =
      (rtmpTotsPacketTsHeader now pts t).map fun r ↦ (r.1, r.2.withPes pesBuf (some pack')) := by
  have hsize : toInt32 t.pesLen ≤ t.pesLen := toInt32_le t.pesLen
  have hstage {pack : PackData} {t : RtmpTots} (h : t.packData = some pack) (hfp : t.tsFp = true) :
      rtmpTotsPacketTsHeader now pts t =
        match (if wantsTables now pack t then cachedTables now t else .ok (t, t.tsCacheLen)) with
        | .error e => .error e
        | .ok (t', packet) => stagePes pts pack.type (toInt32 t.pesLen) t' packet := by
    unfold rtmpTotsPacketTsHeader
    split
    · next hnone =>
      rw [h] at hnone
      cases hnone
    · next packData hsome =>
      obtain rfl : packData = pack := Option.some.inj (hsome.symm.trans h)
      rw [if_neg (by simp [hfp])]
      rfl
  by_cases hfp : t.tsFp = true
  · rw [hstage hpack hfp]
    rw [hstage (t := t.withPes pesBuf (some pack')) rfl hfp, htype]
    have hwants :
        wantsTables now pack' (t.withPes pesBuf (some pack')) = wantsTables now pack t := by
      unfold wantsTables
      rw [hkey]
      rfl
    rw [hwants]
    by_cases htables : wantsTables now pack t = true
    · rw [if_pos htables, if_pos htables, cachedTables_withPes]
      cases hcached : cachedTables now t with
      | error e => rfl
      | ok r =>
        have hkept : r.1.pesBuf = t.pesBuf := pesBuf_cachedTables hcached
        exact stagePes_withPes pts pack.type r.1 r.2 t.pesLen (by rw [hkept]; exact hpes) hsize
    · rw [if_neg htables, if_neg htables]
      exact stagePes_withPes pts pack.type t t.tsCacheLen t.pesLen hpes hsize
  · have hclosed {pack : PackData} {t : RtmpTots} (h : t.packData = some pack)
        (hfp : ¬t.tsFp = true) : rtmpTotsPacketTsHeader now pts t = .ok (-1, t) := by
      unfold rtmpTotsPacketTsHeader
      rw [h]
      exact if_pos hfp
    rw [hclosed hpack hfp]
    exact hclosed rfl hfp

end

/-! ### Frames -/

theorem startTypeOf_congr {p p' : Mem} (h : ∀ i, i < 4 → p i = p' i) :
    startTypeOf p = startTypeOf p' := by
  unfold startTypeOf
  rw [h 0 (by decide), h 1 (by decide), h 2 (by decide), h 3 (by decide)]

section

variable {pack pack' : PackData}

/-- The fields that frames side by side share. -/
private theorem SimilarPack.fields (h : SimilarPack pack pack') :
    pack'.type = pack.type ∧ pack'.decodeMs = pack.decodeMs ∧ pack'.pictureMs = pack.pictureMs ∧
      pack'.headDataLen = pack.headDataLen ∧ pack'.dataLen = pack.dataLen ∧
      pack'.isKeyframe = pack.isKeyframe := by
  cases h <;> exact ⟨rfl, rfl, rfl, rfl, rfl, rfl⟩

private theorem SimilarPack.esLen (h : SimilarPack pack pack') : esLen pack' = esLen pack := by
  cases h <;> rfl

private theorem SimilarPack.head_length (h : SimilarPack pack pack') :
    (pack.headData = none → pack.headDataLen = 0) ∧
      (pack'.headData = none → pack'.headDataLen = 0) := by
  cases h with
  | bare _ _ hlen => exact ⟨fun _ ↦ hlen, fun _ ↦ hlen⟩
  | head _ _ _ _ => exact ⟨nofun, nofun⟩

private theorem SimilarPack.frameBytes (h : SimilarPack pack pack') (m : Mem) :
    frameBytes pack' m = frameBytes pack m := by
  cases h with
  | bare _ _ _ => rfl
  | head pack head head' hsame =>
    have hhead : head'.slice 0 pack.headDataLen = head.slice 0 pack.headDataLen := by
      rw [Mem.slice_eq_iff]
      intro i hi
      rw [Nat.zero_add]
      exact (hsame i (by omega)).symm
    exact congrArg (· ++ m.slice pack.data pack.dataLen) hhead

private theorem SimilarPack.startType (h : SimilarPack pack pack') (m : Mem) :
    startTypeOf (startBytes pack' m) = startTypeOf (startBytes pack m) := by
  cases h with
  | bare _ _ _ => rfl
  | head pack head head' hsame =>
    exact startTypeOf_congr fun i hi ↦ (hsame i (by omega)).symm

private theorem SimilarPack.lacksDelimiter (h : SimilarPack pack pack') (unitType : EsUnitStartType)
    (m : Mem) : lacksDelimiterAt unitType (delimiterBytes pack' m) =
      lacksDelimiterAt unitType (delimiterBytes pack m) := by
  cases h with
  | bare _ _ _ => rfl
  | head pack head head' hsame =>
    have h3 := hsame 3 (by omega)
    have h4 := hsame 4 (by omega)
    unfold delimiterBytes lacksDelimiterAt
    by_cases hpositive : pack.headDataLen > 0
    · simp only [if_pos hpositive, h3, h4]
    · simp only [if_neg hpositive]

/-- The copies of a frame make the packet the same up to their end. -/
private theorem SimilarPack.copied (h : SimilarPack pack pack') {buf buf' : Mem} {off : Nat}
    (hlow : buf'.slice 0 off = buf.slice 0 off) (m : Mem) {n : Nat}
    (hn : n = pack.headDataLen + pack.dataLen + off) :
    (copiedFrame buf' off pack' m).slice 0 n = (copiedFrame buf off pack m).slice 0 n := by
  have hkept (buf : Mem) (pack : PackData) :
      (copiedFrame buf off pack m).slice 0 off = buf.slice 0 off := by
    rw [Mem.slice_eq_iff]
    intro i hi
    exact copiedFrame_low buf (by omega) pack m
  obtain ⟨-, -, -, hhead, hdata, -⟩ := h.fields
  have hcopied := slice_copiedFrame buf off m h.head_length.1
  have hcopied' := slice_copiedFrame buf' off m h.head_length.2
  rw [hhead, hdata] at hcopied'
  rw [hn, Nat.add_comm _ off, Mem.slice_add _ 0 off, Mem.slice_add _ 0 off, hkept, hkept,
    Nat.zero_add, hcopied, hcopied', h.frameBytes, hlow]

/-- The builders leave muxers that differ behind the packet only. -/
private def BuiltAlike (pack' : PackData) (built built' : RtmpTots) : Prop :=
  ∃ pesBuf, built' = built.withPes pesBuf (some pack') ∧
    pesBuf.slice 0 built.pesLen = built.pesBuf.slice 0 built.pesLen

private theorem SimilarPack.audioPes (h : SimilarPack pack pack') (pts : Nat) (t : RtmpTots)
    (pesBuf m : Mem) (hsum : pack.headDataLen + pack.dataLen < 4294967296) :
    BuiltAlike pack' (audioPes pts pack t m)
      (audioPes pts pack' (t.withPes pesBuf (some pack')) m) := by
  have hlen : Tots.esLen pack + 14 = pack.headDataLen + pack.dataLen + 14 :=
    congrArg (· + 14) (Nat.mod_eq_of_lt hsum)
  have hstart (buf : Mem) : (buf.memcpy 0 (audioPesHeader (Tots.esLen pack) pts)).slice 0 14 =
      audioPesHeader (Tots.esLen pack) pts :=
    Mem.slice_memcpy_same buf 0 (audioPesHeader (Tots.esLen pack) pts)
  have hcopied := h.copied ((hstart pesBuf).trans (hstart t.pesBuf).symm) m hlen
  unfold Tots.audioPes
  rw [h.esLen]
  exact ⟨_, rfl, hcopied⟩

private theorem SimilarPack.videoPes (h : SimilarPack pack pack') (dts pts : Nat) (t : RtmpTots)
    (pesBuf m : Mem) (hsum : pack.headDataLen + pack.dataLen < 4294967296) :
    BuiltAlike pack' (videoPes dts pts pack t m)
      (videoPes dts pts pack' (t.withPes pesBuf (some pack')) m) := by
  have hes : Tots.esLen pack = pack.headDataLen + pack.dataLen := Nat.mod_eq_of_lt hsum
  have hstart (buf : Mem) : (videoPesStart dts pts buf).slice 0 19 =
      videoPesHeader ++ rtmpTotsPacketPesSetTime pts dts := by
    have hheader : (buf.memcpy 0 videoPesHeader).slice 0 9 = videoPesHeader :=
      Mem.slice_memcpy_same buf 0 videoPesHeader
    have htime := Mem.slice_memcpy_append (buf.memcpy 0 videoPesHeader) 0 9
      (rtmpTotsPacketPesSetTime pts dts)
    rw [hheader] at htime
    exact htime
  have hunit (buf : Mem) : ((videoPesStart dts pts buf).memcpy 19 unitStart).slice 0 25 =
      videoPesHeader ++ rtmpTotsPacketPesSetTime pts dts ++ unitStart := by
    have happend := Mem.slice_memcpy_append (videoPesStart dts pts buf) 0 19 unitStart
    rw [hstart] at happend
    exact happend
  unfold Tots.videoPes
  have hunitType : (t.withPes pesBuf (some pack')).unitType = t.unitType := rfl
  rw [hunitType, h.lacksDelimiter, h.esLen]
  by_cases hlacks : lacksDelimiterAt t.unitType (delimiterBytes pack m) = true
  · rw [if_pos hlacks, if_pos hlacks]
    exact ⟨_, rfl, h.copied ((hunit pesBuf).trans (hunit t.pesBuf).symm) m (by rw [← hes])⟩
  · rw [if_neg hlacks, if_neg hlacks]
    exact ⟨_, rfl, h.copied ((hstart pesBuf).trans (hstart t.pesBuf).symm) m (by rw [← hes])⟩

/-- The stage ends alike on muxers that the builders have left alike. -/
private theorem BuiltAlike.stage {built built' : RtmpTots} (h : BuiltAlike pack' built built')
    (hpack : SimilarPack pack pack') (hnoted : built.packData = some pack) (now pts : Nat) :
    SimilarResult (rtmpTotsPacketTsHeader now pts built)
      (rtmpTotsPacketTsHeader now pts built') := by
  obtain ⟨pesBuf, rfl, hpes⟩ := h
  obtain ⟨htype, -, -, -, -, hkey⟩ := hpack.fields
  exact ⟨_, _, rtmpTotsPacketTsHeader_withPes now pts hnoted htype hkey hpes⟩

private theorem packData_videoPes (dts pts : Nat) (pack : PackData) (t : RtmpTots) (m : Mem) :
    (videoPes dts pts pack t m).packData = t.packData := by
  unfold Tots.videoPes
  split
  · rfl
  · rfl

/-- Calls with frames side by side, on muxers that differ in `pes_buf` and the noted frame, end
alike. -/
theorem SimilarPack.result (h : SimilarPack pack pack') (now : Nat) (m : Mem) (t : RtmpTots)
    (pesBuf : Mem) (packData : Option PackData) :
    SimilarResult ((Call.mk now pack m).result t)
      ((Call.mk now pack' m).result (t.withPes pesBuf packData)) := by
  obtain ⟨htype, hdecode, hpicture, hhead, hdata, -⟩ := h.fields
  have hbuf : packetPesBuf < 4294967296 := by simp [packetPesBuf]
  have hnoted : (Call.mk now pack' m).noted (t.withPes pesBuf packData) =
      ((Call.mk now pack m).noted t).withPes (pesBuf.set 0 0) (some pack') := by
    unfold Call.noted
    dsimp only
    rw [h.startType, htype, hpicture]
    rfl
  have hpts : (Call.mk now pack' m).pts (t.withPes pesBuf packData) =
      (Call.mk now pack m).pts t := by
    unfold Call.pts
    dsimp only
    rw [htype, hpicture]
    rfl
  have hdts : (Call.mk now pack' m).dts = (Call.mk now pack m).dts := by
    unfold Call.dts
    dsimp only
    rw [hdecode]
  have hrun := (Call.mk now pack m).run_fromCache t
  have hrun' := (Call.mk now pack' m).run_fromCache (t.withPes pesBuf packData)
  rw [hnoted, hpts, hdts, htype] at hrun'
  have hpack : ((Call.mk now pack m).noted t).packData = some pack := rfl
  unfold Call.result
  rw [hrun, hrun']
  generalize (Call.mk now pack m).noted t = noted at hpack
  generalize (Call.mk now pack m).pts t = pts
  generalize (Call.mk now pack m).dts = dts
  dsimp only
  cases pack.type with
  | unset => exact ⟨_, _, rfl⟩
  | mp3 => exact ⟨_, _, rfl⟩
  | aac =>
    dsimp only
    rw [run_rtmpTotsPacketPesAudioHeader, run_rtmpTotsPacketPesAudioHeader, h.esLen, hhead, hdata]
    dsimp only
    split
    · exact ⟨_, _, rfl⟩
    · split
      · exact ⟨noted.pesBuf, none, rfl⟩
      · exact (h.audioPes pts noted _ m (by omega)).stage h hpack now pts
  | h264 =>
    have hoffset : videoOffset pack' (noted.withPes (pesBuf.set 0 0) (some pack')) m =
        videoOffset pack noted m := by
      unfold videoOffset
      rw [← h.lacksDelimiter]
      rfl
    dsimp only
    rw [run_rtmpTotsPacketPesVideoHeader, run_rtmpTotsPacketPesVideoHeader, h.esLen, hhead, hdata,
      hoffset]
    dsimp only
    split
    · exact ⟨_, _, rfl⟩
    · split
      · exact ⟨noted.pesBuf, none, rfl⟩
      · exact (h.videoPes dts pts noted _ m (by omega)).stage h
          ((packData_videoPes dts pts pack noted m).trans hpack) now pts

end

end RtmpRecv.Tots
