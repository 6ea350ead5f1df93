import Mathlib.Data.List.Infix
import Mathlib.Tactic.Common

/-!
# C strings in arrays

Library `Base`. A C string is the list of its bytes without the NUL that ends it. An array of
characters has a fixed number of bytes; the copy functions of the C library either stay inside of
it or are errors. The string in an array ends at its first NUL, if it has one.
-/

namespace RtmpRecv.Base

/-! ### Searching -/

/-- `strstr`: the offset of the first occurrence of `needle`. -/
def strstr (needle : List UInt8) : List UInt8 → Option Nat
  | [] => if needle = [] then some 0 else none
  | b :: s => if needle <+: b :: s then some 0 else (strstr needle s).map (· + 1)

/-- The parts of a string in front of and behind the first occurrence of a byte. -/
def cutAt (b : UInt8) : List UInt8 → Option (List UInt8 × List UInt8)
  | [] => none
  | c :: s => if c = b then some ([], s) else (cutAt b s).map fun (x, y) ↦ (c :: x, y)

theorem cutAt_eq_some_iff {b : UInt8} {s x y : List UInt8} :
    cutAt b s = some (x, y) ↔ s = x ++ b :: y ∧ b ∉ x := by
  induction s generalizing x with
  | nil => simp [cutAt]
  | cons c s ih =>
    unfold cutAt
    by_cases hc : c = b
    · subst hc
      rw [if_pos rfl]
      constructor
      · intro h
        cases h
        exact ⟨rfl, List.not_mem_nil⟩
      · rintro ⟨h, hnot⟩
        cases x with
        | nil =>
          cases h
          rfl
        | cons d x =>
          cases h
          exact absurd List.mem_cons_self hnot
    · rw [if_neg hc]
      constructor
      · intro h
        obtain ⟨⟨x', y'⟩, hcut, hxy⟩ := Option.map_eq_some_iff.1 h
        cases hxy
        obtain ⟨rfl, hnot⟩ := ih.1 hcut
        refine ⟨rfl, fun hmem ↦ ?_⟩
        rcases List.mem_cons.1 hmem with rfl | hmem
        · exact hc rfl
        · exact hnot hmem
      · rintro ⟨h, hnot⟩
        cases x with
        | nil =>
          cases h
          exact absurd rfl hc
        | cons d x =>
          cases h
          rw [ih.2 ⟨rfl, fun hmem ↦ hnot (List.mem_cons_of_mem _ hmem)⟩]
          rfl

theorem cutAt_eq_none_iff {b : UInt8} {s : List UInt8} : cutAt b s = none ↔ b ∉ s := by
  induction s with
  | nil => simp [cutAt]
  | cons c s ih =>
    unfold cutAt
    by_cases hc : c = b
    · simp [hc]
    · rw [if_neg hc, Option.map_eq_none_iff, ih, List.mem_cons, not_or]
      exact (and_iff_right fun h ↦ hc h.symm).symm

/-- The first part of a string that is put together around a byte. -/
theorem cutAt_append {b : UInt8} {x : List UInt8} (h : b ∉ x) (y : List UInt8) :
    cutAt b (x ++ b :: y) = some (x, y) :=
  cutAt_eq_some_iff.2 ⟨rfl, h⟩

/-- The search for one byte cuts the string there. -/
theorem strstr_singleton (b : UInt8) (s : List UInt8) :
    strstr [b] s = (cutAt b s).map fun p ↦ p.1.length := by
  induction s with
  | nil => rfl
  | cons c s ih =>
    unfold strstr cutAt
    by_cases hc : c = b
    · subst hc
      rw [if_pos (List.cons_prefix_cons.2 ⟨rfl, List.nil_prefix⟩), if_pos rfl]
      rfl
    · rw [if_neg fun h ↦ hc (List.cons_prefix_cons.1 h).1.symm, if_neg hc, ih, Option.map_map,
        Option.map_map]
      rfl

/-- The search finds something exactly in the strings that contain it. -/
theorem isSome_strstr_iff {needle s : List UInt8} : (strstr needle s).isSome ↔ needle <:+: s := by
  induction s with
  | nil =>
    unfold strstr
    split
    · next h => simp [h]
    · next h => simp [h]
  | cons c s ih =>
    unfold strstr
    rw [List.infix_cons_iff]
    split
    · next h => simp [h]
    · next h => simpa [h] using ih

/-! ### Numbers -/

/-- The value of decimal digits behind a value. -/
def digitsValue (value : Nat) : List UInt8 → Nat
  | [] => value
  | b :: s => if 0x30 ≤ b ∧ b ≤ 0x39 then digitsValue (value * 10 + (b.toNat - 0x30)) s else value

/-- `isspace`. -/
def isSpace (b : UInt8) : Bool := b = 0x20 ∨ 0x09 ≤ b ∧ b ≤ 0x0d

/-- The value of digits behind a sign. -/
def signedValue : List UInt8 → Int
  | 0x2d :: digits => -digitsValue 0 digits
  | 0x2b :: digits => digitsValue 0 digits
  | digits => digitsValue 0 digits

/-- `atoi`: a sign and digits behind white space. The value is read as the nearest one of 64 bits
and cut to 32. -/
def atoi (s : List UInt8) : Int :=
  (max (-9223372036854775808) (min 9223372036854775807
    (signedValue (s.dropWhile isSpace)))).bmod 4294967296

/-- The value of a row of digits. -/
theorem atoi_digits {s : List UInt8} (h : ∀ b ∈ s, 0x30 ≤ b ∧ b ≤ 0x39)
    (hvalue : digitsValue 0 s < 2147483648) : atoi s = digitsValue 0 s := by
  have hspace : s.dropWhile isSpace = s := by
    cases s with
    | nil => rfl
    | cons b s =>
      have hb := (h b List.mem_cons_self).1
      rw [List.dropWhile_cons_of_neg]
      simp only [isSpace, decide_eq_true_eq, not_or, not_and]
      constructor
      · rintro rfl
        exact absurd hb (by decide)
      · intro _ hle
        exact absurd (UInt8.le_trans hb hle) (by decide)
  have hsign : signedValue s = digitsValue 0 s := by
    unfold signedValue
    split
    · exact absurd (h _ List.mem_cons_self).1 (by decide)
    · exact absurd (h _ List.mem_cons_self).1 (by decide)
    · rfl
  unfold atoi
  rw [hspace, hsign]
  have hmin : min (9223372036854775807 : Int) (digitsValue 0 s) = digitsValue 0 s := by omega
  have hmax : max (-9223372036854775808 : Int) (digitsValue 0 s) = digitsValue 0 s := by omega
  rw [hmin, hmax]
  exact Int.bmod_eq_of_le (by omega) (by omega)

/-! ### Arrays -/

/-- An array of `n` characters. -/
structure CharArray (n : Nat) where
  bytes : List UInt8
  length_bytes : bytes.length = n

namespace CharArray

variable {n : Nat}

@[ext] theorem ext {a b : CharArray n} (h : a.bytes = b.bytes) : a = b := by
  cases a
  cases b
  cases h
  rfl

/-- An array of zero bytes. -/
def zero (n : Nat) : CharArray n := ⟨List.replicate n 0, List.length_replicate⟩

/-- The bytes up to the first NUL. -/
def string (a : CharArray n) : List UInt8 := a.bytes.takeWhile (· ≠ 0)

/-- There is a NUL in the array. -/
def Terminated (a : CharArray n) : Prop := 0 ∈ a.bytes

instance (a : CharArray n) : Decidable a.Terminated := inferInstanceAs (Decidable (0 ∈ a.bytes))

/-- Read the string in an array; without a NUL the read leaves the array. -/
def read (a : CharArray n) : Option (List UInt8) := if a.Terminated then some a.string else none

/-- Store bytes from the start of the array on. -/
def store (a : CharArray n) (src : List UInt8) : Option (CharArray n) :=
  if h : src.length ≤ n then
    some ⟨src ++ a.bytes.drop src.length, by
      rw [List.length_append, List.length_drop, a.length_bytes]
      omega⟩
  else none

/-- What `strncpy` stores for `count` bytes of a string. -/
def padded (src : List UInt8) (count : Nat) : List UInt8 :=
  src.take count ++ List.replicate (count - src.length) 0

/-- `strncpy`: a negative count is a huge one. -/
def strncpy (a : CharArray n) (src : List UInt8) (count : Int) : Option (CharArray n) :=
  if count < 0 then none else a.store (padded src count.toNat)

/-- `strcpy`. -/
def strcpy (a : CharArray n) (src : List UInt8) : Option (CharArray n) := a.store (src ++ [0])

@[simp] theorem bytes_zero (n : Nat) : (zero n).bytes = List.replicate n 0 := rfl

@[simp] theorem length_padded (src : List UInt8) (count : Nat) :
    (padded src count).length = count := by
  unfold padded
  rw [List.length_append, List.length_take, List.length_replicate]
  omega

/-- A store succeeds exactly when the bytes fit, and leaves the bytes behind them. -/
theorem store_eq_some_iff {a a' : CharArray n} {src : List UInt8} :
    a.store src = some a' ↔ src.length ≤ n ∧ a'.bytes = src ++ a.bytes.drop src.length := by
  unfold store
  constructor
  · intro h
    split at h
    · next hle =>
      cases h
      exact ⟨hle, rfl⟩
    · cases h
  · rintro ⟨hle, hbytes⟩
    rw [dif_pos hle]
    exact congrArg some (ext hbytes.symm)

theorem exists_store (a : CharArray n) (src : List UInt8) (h : src.length ≤ n) :
    ∃ a' : CharArray n, a.store src = some a' ∧ a'.bytes = src ++ a.bytes.drop src.length :=
  ⟨_, dif_pos h, rfl⟩

theorem store_eq_none {a : CharArray n} {src : List UInt8} (h : n < src.length) :
    a.store src = none :=
  dif_neg (Nat.not_le.2 h)

/-- A string is read over, up to the first NUL behind it. -/
theorem string_append {a : CharArray n} {s rest : List UInt8} (hs : 0 ∉ s)
    (h : a.bytes = s ++ rest) : a.string = s ++ rest.takeWhile (· ≠ 0) := by
  have hall : ∀ b ∈ s, decide (b ≠ 0) = true := fun b hb ↦ by
    simp only [ne_eq, decide_not, Bool.not_eq_true', decide_eq_false_iff_not]
    rintro rfl
    exact hs hb
  unfold string
  rw [h, List.takeWhile_append_of_pos hall]

/-- The string in an array that starts with a string and a NUL. -/
theorem string_eq {a : CharArray n} {s rest : List UInt8} (hs : 0 ∉ s)
    (h : a.bytes = s ++ 0 :: rest) : a.string = s := by
  rw [string_append hs h]
  simp

/-- The string in an array that starts with a string in front of zeros alone. -/
theorem string_of_zeros {a : CharArray n} {s : List UInt8} (hs : 0 ∉ s) {k : Nat}
    (h : a.bytes = s ++ List.replicate k 0) : a.string = s := by
  rw [string_append hs h, List.takeWhile_replicate]
  simp

/-- A copy of at most as many bytes as a string has. -/
theorem padded_of_le {src : List UInt8} {count : Nat} (h : count ≤ src.length) :
    padded src count = src.take count := by
  unfold padded
  rw [Nat.sub_eq_zero_of_le h]
  exact List.append_nil _

/-- A copy of more bytes than a string has. -/
theorem padded_of_lt {src : List UInt8} {count : Nat} (h : src.length < count) :
    padded src count = src ++ 0 :: List.replicate (count - src.length - 1) 0 := by
  obtain ⟨k, rfl⟩ : ∃ k, count = src.length + (k + 1) := ⟨count - src.length - 1, by omega⟩
  unfold padded
  rw [List.take_of_length_le (by omega), Nat.add_sub_cancel_left, List.replicate_succ,
    Nat.add_sub_cancel]

theorem strncpy_nat (a : CharArray n) (src : List UInt8) (count : Nat) :
    a.strncpy src count = a.store (padded src count) := by
  unfold strncpy
  rw [if_neg (by omega), Int.toNat_natCast]

/-- An array that starts with a string and a NUL has a NUL. -/
theorem terminated_of_bytes {a : CharArray n} {s rest : List UInt8} (h : a.bytes = s ++ 0 :: rest) :
    a.Terminated := by
  unfold Terminated
  rw [h]
  exact List.mem_append_right _ List.mem_cons_self

theorem read_eq_some {a : CharArray n} (h : a.Terminated) : a.read = some a.string := if_pos h

theorem terminated_of_read {a : CharArray n} {s : List UInt8} (h : a.read = some s) :
    a.Terminated ∧ a.string = s := by
  unfold read at h
  split at h
  · next hterminated => exact ⟨hterminated, Option.some.inj h⟩
  · cases h

/-- An array in which a string is followed by the bytes of another array has a NUL where the other
array has one there. -/
theorem terminated_append_iff {a b : CharArray n} {s : List UInt8} (hs : 0 ∉ s)
    (h : a.bytes = s ++ b.bytes.drop s.length) :
    a.Terminated ↔ 0 ∈ b.bytes.drop s.length := by
  unfold Terminated
  rw [h, List.mem_append]
  exact or_iff_right hs

/-- A copy to an array of zero bytes leaves the string in front of zero bytes. -/
theorem exists_strncpy_zero (src : List UInt8) {count : Nat} (h : count ≤ n) :
    ∃ a : CharArray n, (zero n).strncpy src count = some a ∧
      a.bytes = src.take count ++ List.replicate (n - (src.take count).length) 0 := by
  obtain ⟨a, ha, hbytes⟩ := (zero n).exists_store (padded src count)
    (by rw [length_padded]; exact h)
  refine ⟨a, (strncpy_nat _ _ _).trans ha, ?_⟩
  have hzeros : count - src.length + (n - count) = n - (src.take count).length := by
    rw [List.length_take]
    omega
  rw [hbytes, length_padded, padded, bytes_zero, List.drop_replicate, List.append_assoc,
    List.replicate_append_replicate, hzeros]

/-- The string in front of zero bytes is read back if there is one. -/
theorem read_of_zeros {a : CharArray n} {s : List UInt8} (hs : 0 ∉ s) {k : Nat} (hk : 0 < k)
    (h : a.bytes = s ++ List.replicate k 0) : a.read = some s := by
  have hterminated : a.Terminated := by
    unfold Terminated
    rw [h]
    exact List.mem_append_right _ (List.mem_replicate.2 ⟨Nat.ne_of_gt hk, rfl⟩)
  rw [read_eq_some hterminated, string_of_zeros hs h]

end CharArray
end RtmpRecv.Base
