import RtmpRecv.Tots.State
import RtmpRecv.Wire.Crc

/-!
# The CRC of the tables

Library `Tots`. The table of `rtmp_tots_packet_ts_crc32` holds eight shifts of each byte, so that
its loop computes the CRC-32 of MPEG-2 systems, and a section with its CRC checks to zero.
-/

namespace RtmpRecv.Tots
open RtmpRecv.Base RtmpRecv.Wire

/-- The polynomial of CRC-32/MPEG-2. -/
def crc32Polynomial : BitVec 32 := 0x04c11db7#32

/-- CRC-32/MPEG-2, bit by bit: all ones at the start, no reflection and no final xor. -/
def crc32Mpeg2 (data : List UInt8) : BitVec 32 :=
  crcBits crc32Polynomial 0xffffffff#32 (data.map UInt8.toBitVec)

/-- Each word of the table is eight shifts of its index. -/
theorem crc32table_eq (i : BitVec 8) :
    crc32table.getD i.toNat 0 = (crcShifts crc32Polynomial 8 (crcTop i)).toNat := by
  have hall : ∀ k : Fin 256, crc32table.getD k 0 =
      (crcShifts crc32Polynomial 8 (crcTop (BitVec.ofFin k : BitVec 8))).toNat := by
    decide +kernel
  exact hall i.toFin

/-- A round of the loop is eight shifts. -/
theorem crc32Step_eq (crc : BitVec 32) (data : UInt8) :
    crc32Step crc.toNat data = (crcByte crc32Polynomial crc data.toBitVec).toNat := by
  have hshift : crc.toNat * 256 % 4294967296 = (crc <<< 8).toNat := by
    rw [BitVec.toNat_shiftLeft, Nat.shiftLeft_eq]
  have htop : crc.toNat / 16777216 % 256 = (topByte crc).toNat := by
    simp [topByte, Nat.shiftRight_eq_div_pow]
  have hindex : (crc.toNat / 16777216 ^^^ data.toNat) % 256 =
      (topByte crc ^^^ data.toBitVec).toNat := by
    have hsmall : data.toNat % 2 ^ 8 = data.toNat := Nat.mod_eq_of_lt data.toNat_lt
    have hmod := Nat.xor_mod_two_pow (a := crc.toNat / 16777216) (b := data.toNat) (n := 8)
    rw [hsmall] at hmod
    rw [BitVec.toNat_xor, ← htop]
    exact hmod
  unfold crc32Step
  rw [hshift, hindex, crc32table_eq, crcByte_table (by decide), BitVec.toNat_xor]

/-- The loop goes on with the register. -/
private theorem foldl_crc32Step (data : List UInt8) (crc : BitVec 32) :
    data.foldl crc32Step crc.toNat =
      (crcBits crc32Polynomial crc (data.map UInt8.toBitVec)).toNat := by
  induction data generalizing crc with
  | nil => rfl
  | cons b data ih =>
    rw [List.foldl_cons, crc32Step_eq, ih]
    rfl

private theorem rtmpTotsPacketTsCrc32_toNat (data : List UInt8) :
    rtmpTotsPacketTsCrc32 data = (crc32Mpeg2 data).toNat :=
  foldl_crc32Step data 0xffffffff#32

/-- The byte at the top of a register that was moved up. -/
private theorem topByte_shiftLeft (crc : BitVec 32) {k : Nat} (hk : k ≤ 24) :
    topByte (crc <<< k) = BitVec.ofNat 8 (crc.toNat / 2 ^ (24 - k)) := by
  apply BitVec.eq_of_getLsbD_eq
  intro i hi
  have hsum : 24 + i - k = 24 - k + i := by omega
  have hlow : ¬24 + i < k := by omega
  have hhigh : 24 + i < 32 := by omega
  have htest : (crc.toNat / 2 ^ (24 - k)).testBit i = crc.getLsbD (24 - k + i) := by
    rw [Nat.testBit_div_two_pow, Nat.add_comm i]
    rfl
  rw [BitVec.getLsbD_ofNat, htest]
  simp only [topByte, BitVec.getLsbD_setWidth, BitVec.getLsbD_ushiftRight,
    BitVec.getLsbD_shiftLeft, hi, hhigh, hlow, hsum]
  rfl

/-- The four bytes that the builders store are those of the register. -/
private theorem map_be32Bytes (crc : BitVec 32) :
    (be32Bytes crc.toNat).map UInt8.toBitVec = registerBytes 4 crc := by
  have h0 := topByte_shiftLeft crc (k := 0) (by decide)
  have h8 := topByte_shiftLeft crc (k := 8) (by decide)
  have h16 := topByte_shiftLeft crc (k := 16) (by decide)
  have h24 := topByte_shiftLeft crc (k := 24) (by decide)
  rw [BitVec.shiftLeft_zero] at h0
  rw [Nat.sub_self, Nat.pow_zero, Nat.div_one] at h24
  simp only [registerBytes, ← BitVec.shiftLeft_add, Nat.reduceAdd, h0, h8, h16, h24]
  rfl

/-- Bytes with their CRC behind them check to zero. -/
private theorem rtmpTotsPacketTsCrc32_checked (data : List UInt8) :
    rtmpTotsPacketTsCrc32 (data ++ be32Bytes (rtmpTotsPacketTsCrc32 data)) = 0 := by
  have hchecked := crcBits_checked crc32Polynomial 0xffffffff#32 (data.map UInt8.toBitVec)
    (n := 4) rfl (by decide)
  rw [rtmpTotsPacketTsCrc32_toNat, rtmpTotsPacketTsCrc32_toNat, crc32Mpeg2, List.map_append,
    map_be32Bytes]
  exact congrArg BitVec.toNat hchecked

/-- The loop over the table computes CRC-32/MPEG-2, and bytes with their CRC behind them check to
zero; so do the sections of the table packets. -/
theorem rtmpTotsPacketTsCrc32_mpeg2 (data : List UInt8) :
    rtmpTotsPacketTsCrc32 data = (crc32Mpeg2 data).toNat ∧
      rtmpTotsPacketTsCrc32 (data ++ be32Bytes (rtmpTotsPacketTsCrc32 data)) = 0 ∧
      ∀ b1 patNum, rtmpTotsPacketTsCrc32
        (((tablePacket b1 patNum data).drop 5).take (data.length + 4)) = 0 := by
  refine ⟨rtmpTotsPacketTsCrc32_toNat data, rtmpTotsPacketTsCrc32_checked data, ?_⟩
  intro b1 patNum
  have hsection : ((tablePacket b1 patNum data).drop 5).take (data.length + 4) =
      data ++ be32Bytes (rtmpTotsPacketTsCrc32 data) := by
    have hlength : (data ++ be32Bytes (rtmpTotsPacketTsCrc32 data)).length = data.length + 4 := by
      rw [List.length_append, length_be32Bytes]
    unfold tablePacket
    dsimp only
    rw [List.append_assoc]
    exact List.take_left' hlength
  rw [hsection]
  exact rtmpTotsPacketTsCrc32_checked data

end RtmpRecv.Tots
