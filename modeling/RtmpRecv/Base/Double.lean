import Mathlib.Algebra.GroupWithZero.Nat
import Mathlib.Data.Nat.Log
import Mathlib.Tactic.Common

/-!
# Natural numbers as doubles

Library `Base`. The 64-bit patterns of natural numbers below `2 ^ 53` in the binary interchange
format: no sign, the exponent with its bias, and the fraction without its leading one. Nothing here
is translated from the client.
-/

namespace RtmpRecv.Base

/-- The pattern of a natural number. -/
def natDouble (n : Nat) : Nat :=
  if n = 0 then 0
  else (1023 + n.log2) * 4503599627370496 + (n * 2 ^ (52 - n.log2) - 4503599627370496)

example : natDouble 1 = 0x3ff0000000000000 := by decide

/-- The fraction of a natural number, with its leading one. -/
theorem fraction_bounds {n : Nat} (h0 : n ≠ 0) (h : n < 9007199254740992) :
    4503599627370496 ≤ n * 2 ^ (52 - n.log2) ∧ n * 2 ^ (52 - n.log2) < 9007199254740992 := by
  have hlow := Nat.log2_self_le h0
  have hhigh := Nat.lt_log2_self (n := n)
  have hlog : n.log2 < 53 := (Nat.log2_lt h0).2 h
  have hsum : 2 ^ n.log2 * 2 ^ (52 - n.log2) = 4503599627370496 := by
    rw [← Nat.pow_add]
    exact congrArg (2 ^ ·) (show n.log2 + (52 - n.log2) = 52 by omega)
  have hpos : 0 < 2 ^ (52 - n.log2) := Nat.two_pow_pos _
  constructor
  · calc 4503599627370496 = 2 ^ n.log2 * 2 ^ (52 - n.log2) := hsum.symm
      _ ≤ n * 2 ^ (52 - n.log2) := Nat.mul_le_mul_right _ hlow
  · calc n * 2 ^ (52 - n.log2) < 2 ^ (n.log2 + 1) * 2 ^ (52 - n.log2) :=
          Nat.mul_lt_mul_of_pos_right hhigh hpos
      _ = 2 * (2 ^ n.log2 * 2 ^ (52 - n.log2)) := by
          rw [Nat.pow_succ, Nat.mul_comm _ 2, Nat.mul_assoc]
      _ = 9007199254740992 := by rw [hsum]

/-- The fields of the pattern. -/
theorem natDouble_fields {n : Nat} (h0 : n ≠ 0) (h : n < 9007199254740992) :
    natDouble n / 4503599627370496 = 1023 + n.log2 ∧
      natDouble n % 4503599627370496 + 4503599627370496 = n * 2 ^ (52 - n.log2) := by
  obtain ⟨hlow, hhigh⟩ := fraction_bounds h0 h
  unfold natDouble
  rw [if_neg h0]
  omega

end RtmpRecv.Base
