import RtmpRecv.Client.Media
import RtmpRecv.Wire.Units

/-!
# AVC sequence headers

Library `Client`. What the branch of `rtmp_process_video` for a sequence header reads, which
lengths it refuses, and that a good header leaves its SPS and PPS in `video_head_data`.
-/

namespace RtmpRecv.Client
open RtmpRecv.Base RtmpRecv.Amf0 RtmpRecv.Wire

/-- The client after a store to the end of `video_head_data`. -/
def RtmpClient.appended (c : RtmpClient) (bytes : List UInt8) : RtmpClient :=
  { c with
    videoHeadData := c.videoHeadData.memcpy c.videoHeadDataLen bytes
    videoHeadDataLen := c.videoHeadDataLen + bytes.length }

/-- What `video_head_data` holds. -/
def RtmpClient.videoHead (c : RtmpClient) : List UInt8 :=
  c.videoHeadData.slice 0 c.videoHeadDataLen

theorem videoHead_appended (c : RtmpClient) (bytes : List UInt8) :
    (c.appended bytes).videoHead = c.videoHead ++ bytes := by
  have h := Mem.slice_memcpy_append c.videoHeadData 0 c.videoHeadDataLen bytes
  rw [Nat.zero_add] at h
  exact h

/-- A store that fits. -/
theorem appendVideoHead_fits {c : RtmpClient} {bytes : List UInt8}
    (h : c.videoHeadDataLen + bytes.length ≤ 1024) :
    appendVideoHead c bytes = .ret (c.appended bytes) := by
  unfold appendVideoHead
  rw [if_neg (by omega)]
  rfl

/-- The head that starts with the first start code. -/
def RtmpClient.headStarted (c : RtmpClient) : RtmpClient :=
  { c with videoHeadDataLen := 0 }.appended [0, 0, 0, 1]

/-- The head with an SPS and the start code behind it. -/
def RtmpClient.headWithSps (c : RtmpClient) (sps : List UInt8) : RtmpClient :=
  (c.headStarted.appended sps).appended [0, 0, 0, 1]

theorem run_loadSwap2 (off : Nat) (m : Mem) :
    (loadSwap2 off).run m = (.ok (be16 (m off) (m (off + 1))), m) := by
  have hlow := (m off).toNat_lt
  have hhigh := (m (off + 1)).toNat_lt
  have hvalue : swap2Byte ((m off).toNat + (m (off + 1)).toNat * 256) =
      be16 (m off) (m (off + 1)) := by
    unfold swap2Byte be16
    omega
  rw [← hvalue]
  rfl

theorem within_loadSwap2 (off n : Nat) (m : Mem) : (loadSwap2 off).Within m n ↔ off + 2 ≤ n := by
  unfold loadSwap2
  simp only [Access.bind_eq, Access.get_bind, Access.within_read, Access.pure_eq_ret,
    Access.within_ret, and_true]
  omega

private theorem appendVideoHead_start (c : RtmpClient) :
    appendVideoHead { c with videoHeadDataLen := 0 } [0, 0, 0, 1] = .ret c.headStarted := by
  have hroom : 0 + 4 ≤ 1024 := by decide
  exact appendVideoHead_fits hroom

/-- The last part of the branch, behind the length of the PPS. -/
private def storePps (c : RtmpClient) (ptr pps : Nat) : Access Fault MediaStep :=
  if pps > 256 then .ret (.done (-1) c)
  else (Access.getList ptr pps).bind fun bytes ↦ (appendVideoHead c bytes).bind fun c ↦
    .ret (.done 0 c)

/-- The part of the branch behind the length of the SPS. -/
private def storeSps (c : RtmpClient) (ptr sps : Nat) : Access Fault MediaStep :=
  if sps > 256 then .ret (.done (-1) c)
  else (Access.getList ptr sps).bind fun bytes ↦ (appendVideoHead c bytes).bind fun c ↦
    (appendVideoHead c [0, 0, 0, 1]).bind fun c ↦ (loadSwap2 (ptr + sps + 1)).bind fun pps ↦
      storePps c (ptr + sps + 3) pps

/-- A header that is too short is refused. -/
private theorem avcSequenceHeader_short (c : RtmpClient) (ptr : Nat) {dataLen : Int}
    (h : dataLen < 8) : avcSequenceHeader c ptr dataLen = .ret (.done (-1) c.headStarted) := by
  unfold avcSequenceHeader
  rw [appendVideoHead_start]
  simp only [Access.bind_eq, Access.ret_bind]
  rw [if_pos h]
  rfl

private theorem avcSequenceHeader_eq (c : RtmpClient) (ptr : Nat) {dataLen : Int}
    (h : 8 ≤ dataLen) : avcSequenceHeader c ptr dataLen =
      (loadSwap2 (ptr + 6)).bind fun sps ↦ storeSps c.headStarted (ptr + 8) sps := by
  unfold avcSequenceHeader
  rw [appendVideoHead_start]
  simp only [Access.bind_eq, Access.ret_bind]
  rw [if_neg (by omega)]
  rfl

private theorem run_storePps {c : RtmpClient} (ptr : Nat) {pps : Nat} (m : Mem)
    (hlen : c.videoHeadDataLen + pps ≤ 1024) (hpps : pps ≤ 256) :
    (storePps c ptr pps).run m = (.ok (.done 0 (c.appended (m.slice ptr pps))), m) := by
  unfold storePps
  rw [if_neg (by omega), Access.run_bind_ok (Access.run_getList ptr pps m),
    appendVideoHead_fits (by rw [Mem.length_slice]; exact hlen)]
  rfl

private theorem within_storePps (c : RtmpClient) (ptr pps n : Nat) (m : Mem) :
    (storePps c ptr pps).Within m n ↔ 256 < pps ∨ pps = 0 ∨ ptr + pps ≤ n := by
  unfold storePps
  by_cases hpps : pps > 256
  · rw [if_pos hpps]
    exact iff_of_true (Access.within_ret _ _ _) (Or.inl hpps)
  · have hstore (bytes : List UInt8) (m' : Mem) : ((appendVideoHead c bytes).bind fun c ↦
        (.ret (.done 0 c) : Access Fault MediaStep)).Within m' n := by
      unfold appendVideoHead
      split
      · exact Access.within_fail _ _ _
      · exact Access.within_ret _ _ _
    rw [if_neg hpps, Access.within_bind_of_forall hstore, Access.within_getList]
    exact (or_iff_right hpps).symm

/-- The head that an SPS of at most 256 bytes leaves. -/
private theorem run_storeSps (c : RtmpClient) (ptr : Nat) {sps : Nat} (m : Mem)
    (hsps : sps ≤ 256) :
    (storeSps c.headStarted ptr sps).run m =
        (storePps (c.headWithSps (m.slice ptr sps)) (ptr + sps + 3)
          (be16 (m (ptr + sps + 1)) (m (ptr + sps + 2)))).run m ∧
      ∀ n, ((storeSps c.headStarted ptr sps).Within m n ↔
        ptr + sps + 3 ≤ n ∧ (storePps (c.headWithSps (m.slice ptr sps)) (ptr + sps + 3)
          (be16 (m (ptr + sps + 1)) (m (ptr + sps + 2)))).Within m n) := by
  have hlist := Access.run_getList ptr sps m (ε := Fault)
  have hload := run_loadSwap2 (ptr + sps + 1) m
  have hfirst : appendVideoHead c.headStarted (m.slice ptr sps) =
      .ret (c.headStarted.appended (m.slice ptr sps)) := by
    refine appendVideoHead_fits ?_
    rw [Mem.length_slice]
    change 0 + 4 + sps ≤ 1024
    omega
  have hsecond : appendVideoHead (c.headStarted.appended (m.slice ptr sps)) [0, 0, 0, 1] =
      .ret (c.headWithSps (m.slice ptr sps)) := by
    refine appendVideoHead_fits ?_
    change 0 + 4 + (m.slice ptr sps).length + 4 ≤ 1024
    rw [Mem.length_slice]
    omega
  unfold storeSps
  rw [if_neg (by omega)]
  constructor
  · rw [Access.run_bind_ok hlist, hfirst, Access.ret_bind, hsecond, Access.ret_bind,
      Access.run_bind_ok hload]
  · intro n
    rw [Access.within_bind_iff hlist, hfirst, Access.ret_bind, hsecond, Access.ret_bind,
      Access.within_bind_iff hload, Access.within_getList, within_loadSwap2]
    constructor
    · rintro ⟨-, h, h'⟩
      exact ⟨by omega, h'⟩
    · rintro ⟨h, h'⟩
      exact ⟨Or.inr (by omega), by omega, h'⟩

/-! ### Headers and their lengths -/

/-- The length of the SPS in the data of a sequence header. -/
def spsLen (data : List UInt8) : Nat := be16 (data.getD 6 0) (data.getD 7 0)

/-- The length of the PPS behind it. -/
def ppsLen (data : List UInt8) : Nat :=
  be16 (data.getD (spsLen data + 9) 0) (data.getD (spsLen data + 10) 0)

/-- The data of a sequence header holds what its lengths say. -/
def RecordFits (data : List UInt8) : Prop :=
  8 ≤ data.length ∧ spsLen data + 11 ≤ data.length ∧ spsLen data + 11 + ppsLen data ≤ data.length

/-- Data of a sequence header that is refused by its lengths, or holds what they say. -/
def RecordSuffices (data : List UInt8) : Prop :=
  data.length < 8 ∨ 256 < spsLen data ∨ spsLen data + 11 ≤ data.length ∧
    (256 < ppsLen data ∨ spsLen data + 11 + ppsLen data ≤ data.length)

private theorem spsLen_slice (ptr d : Nat) (m : Mem) (h : 8 ≤ d) :
    spsLen (m.slice ptr d) = be16 (m (ptr + 6)) (m (ptr + 7)) := by
  unfold spsLen
  rw [Mem.getD_slice _ _ _ _ _ (by omega), Mem.getD_slice _ _ _ _ _ (by omega)]

private theorem ppsLen_slice (ptr d : Nat) (m : Mem) (h : spsLen (m.slice ptr d) + 11 ≤ d) :
    ppsLen (m.slice ptr d) = be16 (m (ptr + 8 + spsLen (m.slice ptr d) + 1))
      (m (ptr + 8 + spsLen (m.slice ptr d) + 2)) := by
  have hhigh : ptr + (spsLen (m.slice ptr d) + 9) = ptr + 8 + spsLen (m.slice ptr d) + 1 := by omega
  have hlow : ptr + (spsLen (m.slice ptr d) + 10) = ptr + 8 + spsLen (m.slice ptr d) + 2 := by omega
  unfold ppsLen
  rw [Mem.getD_slice _ _ _ _ _ (by omega), Mem.getD_slice _ _ _ _ _ (by omega), hhigh, hlow]

/-- The branch for a sequence header stays inside the data exactly when the data suffices. -/
theorem within_avcSequenceHeader (c : RtmpClient) (ptr d : Nat) (m : Mem) :
    (avcSequenceHeader c ptr d).Within m (ptr + d) ↔ RecordSuffices (m.slice ptr d) := by
  unfold RecordSuffices
  rw [Mem.length_slice]
  by_cases h8 : 8 ≤ d
  · have hsps := spsLen_slice ptr d m h8
    rw [avcSequenceHeader_eq c ptr (by omega), Access.within_bind_iff (run_loadSwap2 _ m),
      within_loadSwap2]
    change _ ∧ (storeSps _ _ (be16 (m (ptr + 6)) (m (ptr + 7)))).Within _ _ ↔ _
    rw [← hsps]
    by_cases hlong : 256 < spsLen (m.slice ptr d)
    · unfold storeSps
      rw [if_pos hlong]
      exact iff_of_true ⟨by omega, Access.within_ret _ _ _⟩ (Or.inr (Or.inl hlong))
    · rw [(run_storeSps c (ptr + 8) m (Nat.le_of_not_lt hlong)).2, within_storePps]
      by_cases hroom : spsLen (m.slice ptr d) + 11 ≤ d
      · rw [← ppsLen_slice ptr d m hroom]
        omega
      · omega
  · rw [avcSequenceHeader_short c ptr (by omega)]
    exact iff_of_true (Access.within_ret _ _ _) (Or.inl (by omega))

/-- The client that has stored the SPS and the PPS of a sequence header. -/
def RtmpClient.headStored (c : RtmpClient) (sps pps : List UInt8) : RtmpClient :=
  (c.headWithSps sps).appended pps

theorem videoHead_headStarted (c : RtmpClient) : c.headStarted.videoHead = startCode := by
  unfold RtmpClient.headStarted
  rw [videoHead_appended]
  rfl

theorem videoHead_headWithSps (c : RtmpClient) (sps : List UInt8) :
    (c.headWithSps sps).videoHead = startCode ++ (sps ++ startCode) := by
  unfold RtmpClient.headWithSps
  rw [videoHead_appended, videoHead_appended, videoHead_headStarted, List.append_assoc]
  rfl

/-- The stored head is the two units, each behind a start code. -/
theorem videoHead_headStored (c : RtmpClient) (sps pps : List UInt8) :
    (c.headStored sps pps).videoHead = startCoded [sps, pps] := by
  unfold RtmpClient.headStored
  rw [videoHead_appended, videoHead_headWithSps]
  simp [startCoded]

/-- The client that has stored an SPS and a PPS, up to the length that is refused. -/
def RtmpClient.withUnits (c : RtmpClient) (sps pps : List UInt8) : RtmpClient :=
  if 256 < sps.length then c.headStarted
  else if 256 < pps.length then c.headWithSps sps
  else c.headStored sps pps

/-- The client behind a sequence header: the head gets its start code, its SPS and its PPS up to the
length that is refused. -/
def RtmpClient.headRead (c : RtmpClient) (ptr : Nat) (dataLen : Int) (m : Mem) : RtmpClient :=
  let sps := be16 (m (ptr + 6)) (m (ptr + 7))
  let pps := be16 (m (ptr + 8 + sps + 1)) (m (ptr + 8 + sps + 2))
  if dataLen < 8 ∨ 256 < sps then c.headStarted
  else if 256 < pps then c.headWithSps (m.slice (ptr + 8) sps)
  else c.headStored (m.slice (ptr + 8) sps) (m.slice (ptr + 8 + sps + 3) pps)

/-- What the branch for a sequence header returns. -/
def headRet (ptr : Nat) (dataLen : Int) (m : Mem) : Int :=
  let sps := be16 (m (ptr + 6)) (m (ptr + 7))
  let pps := be16 (m (ptr + 8 + sps + 1)) (m (ptr + 8 + sps + 2))
  if dataLen < 8 ∨ 256 < sps then -1 else if 256 < pps then -1 else 0

/-- The branch for a sequence header returns, and its result does not depend on the client. -/
theorem run_avcSequenceHeader_eq (c : RtmpClient) (ptr : Nat) (dataLen : Int) (m : Mem) :
    (avcSequenceHeader c ptr dataLen).run m =
      (.ok (.done (headRet ptr dataLen m) (c.headRead ptr dataLen m)), m) := by
  unfold RtmpClient.headRead headRet
  dsimp only
  by_cases h8 : 8 ≤ dataLen
  · have hload := run_loadSwap2 (ptr + 6) m
    generalize be16 (m (ptr + 6)) (m (ptr + 7)) = sps at hload ⊢
    rw [avcSequenceHeader_eq c ptr h8, Access.run_bind_ok hload]
    by_cases hlong : 256 < sps
    · rw [if_pos (Or.inr hlong), if_pos (Or.inr hlong), storeSps, if_pos hlong]
      rfl
    · have hnot : ¬(dataLen < 8 ∨ 256 < sps) := by omega
      rw [if_neg hnot, if_neg hnot, (run_storeSps c (ptr + 8) m (Nat.le_of_not_lt hlong)).1]
      by_cases hpps : 256 < be16 (m (ptr + 8 + sps + 1)) (m (ptr + 8 + sps + 2))
      · rw [if_pos hpps, if_pos hpps, storePps, if_pos hpps]
        rfl
      · have hhead :
            (c.headWithSps (m.slice (ptr + 8) sps)).videoHeadDataLen = 0 + 4 + sps + 4 := by
          change 0 + 4 + (Mem.slice _ _ _).length + 4 = _
          rw [Mem.length_slice]
        rw [if_neg hpps, if_neg hpps,
          run_storePps _ m (by rw [hhead]; omega) (Nat.le_of_not_lt hpps)]
        rfl
  · rw [if_pos (Or.inl (Int.not_le.1 h8)), if_pos (Or.inl (Int.not_le.1 h8)),
      avcSequenceHeader_short c ptr (Int.not_le.1 h8)]
    rfl

/-- Data that suffices is refused unless it holds what its lengths say. -/
theorem headRet_refused {ptr d : Nat} {m : Mem} (hs : RecordSuffices (m.slice ptr d))
    (hfits : ¬RecordFits (m.slice ptr d)) : headRet ptr d m = -1 := by
  unfold RecordSuffices at hs
  unfold RecordFits at hfits
  rw [Mem.length_slice] at hs hfits
  unfold headRet
  dsimp only
  by_cases h8 : 8 ≤ d
  · rw [← spsLen_slice ptr d m h8]
    by_cases hlong : 256 < spsLen (m.slice ptr d)
    · exact if_pos (Or.inr hlong)
    · rw [← ppsLen_slice ptr d m (by omega), if_neg (by omega)]
      exact if_pos (by omega)
  · exact if_pos (Or.inl (by omega))

theorem rtmpSavetots_appended (c : RtmpClient) (bytes : List UInt8) :
    (c.appended bytes).rtmpSavetots = c.rtmpSavetots := rfl

theorem rtmpSavetots_headStored (c : RtmpClient) (sps pps : List UInt8) :
    (c.headStored sps pps).rtmpSavetots = c.rtmpSavetots := by
  unfold RtmpClient.headStored RtmpClient.headWithSps RtmpClient.headStarted
  rw [rtmpSavetots_appended, rtmpSavetots_appended, rtmpSavetots_appended, rtmpSavetots_appended]

theorem rtmpSavetots_withUnits (c : RtmpClient) (sps pps : List UInt8) :
    (c.withUnits sps pps).rtmpSavetots = c.rtmpSavetots := by
  unfold RtmpClient.withUnits
  split
  · rfl
  · split
    · rfl
    · exact rtmpSavetots_headStored c sps pps

end RtmpRecv.Client
