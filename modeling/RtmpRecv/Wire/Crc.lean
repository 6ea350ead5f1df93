import Mathlib.Tactic.Common

/-!
# Cyclic redundancy checks

Library `Wire`. A check register of any width that takes its input from the top: one bit at a time,
or one byte at a time from a table. Nothing here is translated from the client.
-/

namespace RtmpRecv.Wire

section

variable {w : Nat}

/-- One shift of the register: the bit that leaves it at the top selects the polynomial. -/
def crcShift (poly c : BitVec w) : BitVec w := c <<< 1 ^^^ if c.msb then poly else 0#w

/-- A row of shifts. -/
def crcShifts (poly : BitVec w) : Nat → BitVec w → BitVec w
  | 0, c => c
  | n + 1, c => crcShifts poly n (crcShift poly c)

/-- A register with a byte at its top and nothing below. -/
def crcTop (b : BitVec 8) : BitVec w := b.setWidth w <<< (w - 8)

/-- The byte at the top of a register. -/
def topByte (c : BitVec w) : BitVec 8 := (c >>> (w - 8)).setWidth 8

/-- The register after one more byte, bit by bit. -/
def crcByte (poly c : BitVec w) (b : BitVec 8) : BitVec w := crcShifts poly 8 (c ^^^ crcTop b)

/-- The check of a list of bytes, from an initial register. -/
def crcBits (poly init : BitVec w) (bytes : List (BitVec 8)) : BitVec w :=
  bytes.foldl (crcByte poly) init

/-! ### Shifts -/

theorem crcShift_xor (poly a b : BitVec w) :
    crcShift poly (a ^^^ b) = crcShift poly a ^^^ crcShift poly b := by
  have hpoly : (if (a ^^^ b).msb then poly else 0#w) =
      (if a.msb then poly else 0#w) ^^^ (if b.msb then poly else 0#w) := by
    rw [BitVec.msb_xor]
    cases a.msb with
    | false => cases b.msb <;> simp
    | true => cases b.msb <;> simp
  unfold crcShift
  rw [hpoly, BitVec.shiftLeft_xor_distrib]
  ac_rfl

theorem crcShifts_xor (poly : BitVec w) (n : Nat) (a b : BitVec w) :
    crcShifts poly n (a ^^^ b) = crcShifts poly n a ^^^ crcShifts poly n b := by
  induction n generalizing a b with
  | zero => rfl
  | succ n ih =>
    simp only [crcShifts]
    rw [crcShift_xor, ih]

@[simp] theorem crcShifts_zero (poly : BitVec w) (n : Nat) : crcShifts poly n 0#w = 0#w := by
  induction n with
  | zero => rfl
  | succ n ih => simpa [crcShifts, crcShift] using ih

/-- A register whose upper bits are clear is only moved up. -/
theorem crcShifts_clear (poly : BitVec w) (n : Nat) {c : BitVec w}
    (h : ∀ i, w - n ≤ i → c.getLsbD i = false) : crcShifts poly n c = c <<< n := by
  induction n generalizing c with
  | zero => simp [crcShifts]
  | succ n ih =>
    have hmsb : c.msb = false := by
      rw [BitVec.msb_eq_getLsbD_last]
      exact h _ (by omega)
    have hstep : crcShift poly c = c <<< 1 := by simp [crcShift, hmsb]
    have hclear : ∀ i, w - n ≤ i → (c <<< 1).getLsbD i = false := by
      intro i hi
      rw [BitVec.getLsbD_shiftLeft]
      by_cases hpos : i = 0
      · simp [hpos]
      · simp [h (i - 1) (by omega)]
    rw [crcShifts, hstep, ih hclear, ← BitVec.shiftLeft_add, Nat.add_comm]

/-! ### The top byte -/

theorem crcTop_xor (a b : BitVec 8) : (crcTop (a ^^^ b) : BitVec w) = crcTop a ^^^ crcTop b := by
  unfold crcTop
  rw [BitVec.setWidth_xor, BitVec.shiftLeft_xor_distrib]

/-- Nothing is left of a byte at the top when it is moved up. -/
theorem crcTop_shiftLeft (b : BitVec 8) : (crcTop b : BitVec w) <<< 8 = 0#w := by
  ext i hi
  have hlow : i - 8 < w - 8 ∨ i < 8 := by omega
  rcases hlow with hlow | hlow
  · simp [crcTop, hlow]
  · simp [crcTop, hlow]

/-- A register without its top byte. -/
theorem getLsbD_xor_topByte (hw : 8 ≤ w) (c : BitVec w) {i : Nat} (hi : w - 8 ≤ i) :
    (c ^^^ crcTop (topByte c)).getLsbD i = false := by
  by_cases hlt : i < w
  · have hback : w - 8 + (i - (w - 8)) = i := by omega
    have hbyte : i - (w - 8) < 8 := by omega
    have hlow : ¬i < w - 8 := by omega
    simp [crcTop, topByte, hlt, hlow, hback, hbyte]
  · exact BitVec.getLsbD_of_ge _ _ (by omega)

/-- A byte, bit by bit, is a step with a table of the values of `crcShifts`. -/
theorem crcByte_table (hw : 8 ≤ w) (poly c : BitVec w) (b : BitVec 8) :
    crcByte poly c b = c <<< 8 ^^^ crcShifts poly 8 (crcTop (topByte c ^^^ b)) := by
  have hsplit : c ^^^ crcTop b = (c ^^^ crcTop (topByte c)) ^^^ crcTop (topByte c ^^^ b) := by
    rw [crcTop_xor, BitVec.xor_assoc, ← BitVec.xor_assoc (crcTop (topByte c)), BitVec.xor_self,
      BitVec.zero_xor]
  unfold crcByte
  rw [hsplit, crcShifts_xor, crcShifts_clear poly 8 fun i hi ↦ getLsbD_xor_topByte hw c hi,
    BitVec.shiftLeft_xor_distrib, crcTop_shiftLeft, BitVec.xor_zero]

/-- A register that gets its own top byte is moved up. -/
theorem crcByte_topByte (hw : 8 ≤ w) (poly c : BitVec w) :
    crcByte poly c (topByte c) = c <<< 8 := by
  have hzero : (crcTop (0#8) : BitVec w) = 0#w := by simp [crcTop]
  rw [crcByte_table hw, BitVec.xor_self, hzero, crcShifts_zero, BitVec.xor_zero]

/-- The bytes of a register, the upper ones first. -/
def registerBytes : Nat → BitVec w → List (BitVec 8)
  | 0, _ => []
  | n + 1, c => topByte c :: registerBytes n (c <<< 8)

/-- A register that gets its own bytes is moved out. -/
theorem crcBits_registerBytes (hw : 8 ≤ w) (poly c : BitVec w) (n : Nat) :
    crcBits poly c (registerBytes n c) = c <<< (8 * n) := by
  induction n generalizing c with
  | zero => simp [crcBits, registerBytes]
  | succ n ih =>
    change crcBits poly (crcByte poly c (topByte c)) (registerBytes n (c <<< 8)) = _
    have hlength : 8 + 8 * n = 8 * (n + 1) := by omega
    rw [crcByte_topByte hw, ih, ← BitVec.shiftLeft_add, hlength]

/-- The check of bytes with their own check behind them is zero. -/
theorem crcBits_checked (poly init : BitVec w) (bytes : List (BitVec 8)) {n : Nat}
    (hn : w = 8 * n) (hpos : 0 < n) :
    crcBits poly init (bytes ++ registerBytes n (crcBits poly init bytes)) = 0#w := by
  have hw : 8 ≤ w := by omega
  have happend : crcBits poly init (bytes ++ registerBytes n (crcBits poly init bytes)) =
      crcBits poly (crcBits poly init bytes) (registerBytes n (crcBits poly init bytes)) :=
    List.foldl_append
  rw [happend, crcBits_registerBytes hw, ← hn, BitVec.shiftLeft_eq_zero (Nat.le_refl w)]

end

end RtmpRecv.Wire
