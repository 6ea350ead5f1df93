import Mathlib.Algebra.GroupWithZero.Nat
import Mathlib.Data.List.GetD
import Mathlib.Tactic.Common

/-!
# Byte memory

Library `Base`. A block of memory is the function from offsets to the bytes found
there. Reading past the end of an array is not an error of the model: it yields the
byte that happens to lie there, so a statement about such a read quantifies over it.
Slices give the list view of a window, and stores are described by their effect on slices.
-/

namespace RtmpRecv.Base

/-- Reading behind the first `k` elements of a list. -/
theorem getD_behind {l l' : List UInt8} {k : Nat} (hk : l.length = k) (i : Nat) :
    (l ++ l').getD (k + i) 0 = l'.getD i 0 := by
  rw [List.getD_append_right _ _ _ _ (by omega), ← hk, Nat.add_sub_cancel_left]

/-- Memory seen through one pointer: the byte at every offset from it. -/
abbrev Mem := Nat → UInt8

namespace Mem

/-- Pointer arithmetic: the memory seen from `k` bytes further on. -/
def shift (m : Mem) (k : Nat) : Mem := fun i ↦ m (k + i)

/-- The `n` bytes that start at offset `off`. -/
def slice (m : Mem) (off n : Nat) : List UInt8 := (List.range n).map fun i ↦ m (off + i)

/-- Store one byte. -/
def set (m : Mem) (i : Nat) (b : UInt8) : Mem := fun j ↦ if j = i then b else m j

/-- Store the bytes of `src` from offset `dst` on. -/
def memcpy (m : Mem) (dst : Nat) (src : List UInt8) : Mem := fun i ↦
  if dst ≤ i ∧ i < dst + src.length then src.getD (i - dst) 0 else m i

/-- Store `n` copies of one byte from offset `dst` on. -/
def memset (m : Mem) (dst : Nat) (b : UInt8) (n : Nat) : Mem :=
  m.memcpy dst (List.replicate n b)

/-- Memory that starts with the bytes of a list and continues with zero bytes. -/
def ofList (xs : List UInt8) : Mem := fun i ↦ xs.getD i 0

/-- Memory with a new front part: the first `k` bytes are kept from `m`, and `tail`
stands behind them. -/
def splice (m : Mem) (k : Nat) (tail : Mem) : Mem := fun i ↦ if i < k then m i else tail (i - k)

/-- Shifting by nothing leaves the view unchanged. -/
@[simp] theorem shift_zero (m : Mem) : m.shift 0 = m := by
  funext i
  simp [shift]

/-- Consecutive shifts add up. -/
@[simp] theorem shift_shift (m : Mem) (a b : Nat) : (m.shift a).shift b = m.shift (a + b) := by
  funext i
  simp [shift, Nat.add_assoc]

/-- A slice has the requested length. -/
@[simp] theorem length_slice (m : Mem) (off n : Nat) : (m.slice off n).length = n := by
  simp [slice]

/-- An empty slice. -/
@[simp] theorem slice_zero (m : Mem) (off : Nat) : m.slice off 0 = [] := rfl

/-- The byte at a position of a slice. -/
@[simp] theorem getElem_slice (m : Mem) (off n i : Nat) (h : i < (m.slice off n).length) :
    (m.slice off n)[i] = m (off + i) := by
  simp [slice]

/-- The byte at a position inside a slice, with the total list access. -/
theorem getD_slice (m : Mem) (off n i : Nat) (d : UInt8) (h : i < n) :
    (m.slice off n).getD i d = m (off + i) := by
  rw [List.getD_eq_getElem _ _ (by simpa using h), getElem_slice]

/-- A slice is its first byte and the slice behind it. -/
theorem slice_succ (m : Mem) (off n : Nat) :
    m.slice off (n + 1) = m off :: m.slice (off + 1) n := by
  simp only [slice, List.range_succ_eq_map, List.map_cons, List.map_map, Nat.add_zero]
  congr 1
  apply List.map_congr_left
  intro i _
  simp [Nat.add_comm, Nat.add_left_comm]

/-- Adjacent slices concatenate. -/
theorem slice_add (m : Mem) (off a b : Nat) :
    m.slice off (a + b) = m.slice off a ++ m.slice (off + a) b := by
  simp only [slice, List.range_add, List.map_append, List.map_map]
  congr 1
  apply List.map_congr_left
  intro i _
  simp [Nat.add_assoc]

/-- A slice of a shifted view. -/
@[simp] theorem slice_shift (m : Mem) (k off n : Nat) :
    (m.shift k).slice off n = m.slice (k + off) n := by
  simp [slice, shift, Nat.add_assoc]

/-- Slices agree exactly when the bytes do. -/
theorem slice_eq_iff (m m' : Mem) (off off' n : Nat) :
    m.slice off n = m'.slice off' n ↔ ∀ i, i < n → m (off + i) = m' (off' + i) := by
  constructor
  · intro h i hi
    have hb := congrArg (fun l ↦ l.getD i 0) h
    rwa [getD_slice _ _ _ _ _ hi, getD_slice _ _ _ _ _ hi] at hb
  · intro h
    apply List.ext_getElem (by simp)
    intro i hi _
    simp only [getElem_slice]
    exact h i (by simpa using hi)

/-- A prefix of a slice. -/
theorem take_slice (m : Mem) (off n k : Nat) : (m.slice off n).take k = m.slice off (min k n) := by
  apply List.ext_getElem (by simp)
  intro i _ _
  simp

/-- A suffix of a slice. -/
theorem drop_slice (m : Mem) (off n k : Nat) :
    (m.slice off n).drop k = m.slice (off + k) (n - k) := by
  apply List.ext_getElem (by simp)
  intro i _ _
  simp [Nat.add_assoc]

/-- If a window starts with `xs ++ ys`, it starts with `xs`, and `ys` follows. -/
theorem slice_append_iff (m : Mem) (off : Nat) (xs ys : List UInt8) :
    m.slice off (xs ++ ys).length = xs ++ ys ↔
      m.slice off xs.length = xs ∧ m.slice (off + xs.length) ys.length = ys := by
  rw [List.length_append, slice_add]
  constructor
  · intro h
    exact List.append_inj h (by simp)
  · rintro ⟨hx, hy⟩
    rw [hx, hy]

/-- A known slice gives the bytes one by one. -/
theorem apply_of_slice (m : Mem) (off : Nat) (xs : List UInt8) (h : m.slice off xs.length = xs)
    (i : Nat) (hi : i < xs.length) : m (off + i) = xs[i] := by
  have hb := congrArg (fun l ↦ l.getD i 0) h
  rw [getD_slice _ _ _ _ _ hi, List.getD_eq_getElem _ _ hi] at hb
  exact hb

/-- List memory starts with its list. -/
@[simp] theorem slice_ofList (xs : List UInt8) : (ofList xs).slice 0 xs.length = xs := by
  apply List.ext_getElem (by simp)
  intro i hi _
  rw [length_slice] at hi
  simp [ofList, hi]

/-- Storing one byte and reading it back. -/
@[simp] theorem set_same (m : Mem) (i : Nat) (b : UInt8) : m.set i b i = b := by
  simp [set]

/-- Storing one byte leaves the others. -/
theorem set_other (m : Mem) (i j : Nat) (b : UInt8) (h : j ≠ i) : m.set i b j = m j := by
  simp [set, h]

/-- A store outside a window leaves its slice. -/
theorem slice_set_outside (m : Mem) (i : Nat) (b : UInt8) (off n : Nat)
    (h : i < off ∨ off + n ≤ i) : (m.set i b).slice off n = m.slice off n := by
  rw [slice_eq_iff]
  intro j hj
  exact set_other _ _ _ _ (by omega)

/-- Copying bytes and reading them back. -/
theorem memcpy_inside (m : Mem) (dst : Nat) (src : List UInt8) (i : Nat) (h : i < src.length) :
    m.memcpy dst src (dst + i) = src[i] := by
  simp [memcpy, h]

/-- Copying bytes leaves what lies outside the destination. -/
theorem memcpy_outside (m : Mem) (dst : Nat) (src : List UInt8) (i : Nat)
    (h : i < dst ∨ dst + src.length ≤ i) : m.memcpy dst src i = m i := by
  have hn : ¬(dst ≤ i ∧ i < dst + src.length) := by omega
  simp only [memcpy, if_neg hn]

/-- Copying no bytes changes nothing. -/
@[simp] theorem memcpy_nil (m : Mem) (dst : Nat) : m.memcpy dst [] = m := by
  funext i
  exact memcpy_outside _ _ _ _ (by simp; omega)

/-- The destination of a copy holds the copied bytes. -/
theorem slice_memcpy_same (m : Mem) (dst : Nat) (src : List UInt8) :
    (m.memcpy dst src).slice dst src.length = src := by
  apply List.ext_getElem (by simp)
  intro i _ hi
  rw [getElem_slice, memcpy_inside _ _ _ _ hi]

/-- A window apart from the destination of a copy keeps its bytes. -/
theorem slice_memcpy_outside (m : Mem) (dst : Nat) (src : List UInt8) (off n : Nat)
    (h : off + n ≤ dst ∨ dst + src.length ≤ off) :
    (m.memcpy dst src).slice off n = m.slice off n := by
  rw [slice_eq_iff]
  intro j hj
  exact memcpy_outside _ _ _ _ (by omega)

/-- Copying to the end of a window appends to it. -/
theorem slice_memcpy_append (m : Mem) (off n : Nat) (src : List UInt8) :
    (m.memcpy (off + n) src).slice off (n + src.length) = m.slice off n ++ src := by
  rw [slice_add, slice_memcpy_outside _ _ _ _ _ (Or.inl (Nat.le_refl _)), slice_memcpy_same]

/-- Two copies, one behind the other, are one. -/
theorem memcpy_memcpy (m : Mem) (dst : Nat) (xs ys : List UInt8) :
    (m.memcpy dst xs).memcpy (dst + xs.length) ys = m.memcpy dst (xs ++ ys) := by
  funext i
  by_cases hlow : i < dst
  · rw [memcpy_outside _ _ _ _ (Or.inl (by omega)), memcpy_outside _ _ _ _ (Or.inl hlow),
      memcpy_outside _ _ _ _ (Or.inl hlow)]
  · obtain ⟨k, rfl⟩ := Nat.exists_eq_add_of_le (Nat.le_of_not_lt hlow)
    by_cases hx : k < xs.length
    · rw [memcpy_outside _ _ _ _ (Or.inl (by omega)), memcpy_inside _ _ _ _ hx,
        memcpy_inside _ _ _ _ (by rw [List.length_append]; omega), List.getElem_append_left hx]
    · obtain ⟨j, rfl⟩ := Nat.exists_eq_add_of_le (Nat.le_of_not_lt hx)
      by_cases hy : j < ys.length
      · rw [← Nat.add_assoc, memcpy_inside _ _ _ _ hy, Nat.add_assoc,
          memcpy_inside _ _ _ _ (by rw [List.length_append]; omega),
          List.getElem_append_right (Nat.le_add_right _ _)]
        simp only [Nat.add_sub_cancel_left]
      · rw [memcpy_outside _ _ _ _ (Or.inr (by omega)), memcpy_outside _ _ _ _ (Or.inr (by omega)),
          memcpy_outside _ _ _ _ (Or.inr (by rw [List.length_append]; omega))]

/-- A store is the copy of one byte. -/
theorem set_eq_memcpy (m : Mem) (i : Nat) (b : UInt8) : m.set i b = m.memcpy i [b] := by
  funext j
  by_cases h : j = i
  · subst h
    rw [set_same]
    exact (memcpy_inside m j [b] 0 Nat.zero_lt_one).symm
  · rw [set_other _ _ _ _ h, memcpy_outside]
    change j < i ∨ i + 1 ≤ j
    omega

/-- A store behind a copy is one copy. -/
theorem memcpy_set (m : Mem) (dst : Nat) (xs : List UInt8) (b : UInt8) :
    (m.memcpy dst xs).set (dst + xs.length) b = m.memcpy dst (xs ++ [b]) := by
  rw [set_eq_memcpy, memcpy_memcpy]

/-- The kept front part of a splice. -/
theorem splice_front (m : Mem) (k : Nat) (tail : Mem) (i : Nat) (h : i < k) :
    m.splice k tail i = m i := by
  simp [splice, h]

/-- The new tail of a splice. -/
@[simp] theorem splice_back (m : Mem) (k : Nat) (tail : Mem) (i : Nat) :
    m.splice k tail (k + i) = tail i := by
  have hn : ¬k + i < k := by omega
  simp only [splice, if_neg hn, Nat.add_sub_cancel_left]

/-- Putting back the view one took changes nothing. -/
@[simp] theorem splice_shift (m : Mem) (k : Nat) : m.splice k (m.shift k) = m := by
  funext i
  by_cases h : i < k
  · exact splice_front _ _ _ _ h
  · simp only [splice, if_neg h, shift]
    congr 1
    omega

/-- A copy to the view behind the front part. -/
theorem splice_memcpy (m : Mem) (k : Nat) (src : List UInt8) :
    m.splice k ((m.shift k).memcpy 0 src) = m.memcpy k src := by
  funext i
  by_cases hlow : i < k
  · rw [splice_front _ _ _ _ hlow, memcpy_outside _ _ _ _ (Or.inl hlow)]
  · obtain ⟨j, rfl⟩ := Nat.exists_eq_add_of_le (Nat.le_of_not_lt hlow)
    rw [splice_back]
    by_cases hj : j < src.length
    · rw [memcpy_inside _ _ _ _ hj]
      simpa using memcpy_inside (m.shift k) 0 src j hj
    · rw [memcpy_outside _ _ _ _ (Or.inr (by omega)), memcpy_outside _ _ _ _ (Or.inr (by omega))]
      rfl

/-- A slice behind the kept front part. -/
theorem slice_splice (m : Mem) (k : Nat) (tail : Mem) (off n : Nat) :
    (m.splice k tail).slice (k + off) n = tail.slice off n := by
  rw [slice_eq_iff]
  intro i _
  rw [Nat.add_assoc, splice_back]

/-- A splice that keeps nothing. -/
@[simp] theorem splice_zero (m tail : Mem) : m.splice 0 tail = tail := by
  funext i
  simp [splice]

/-- Copying to the end of a list. -/
theorem memcpy_ofList (xs ys : List UInt8) :
    (ofList xs).memcpy xs.length ys = ofList (xs ++ ys) := by
  funext i
  by_cases hx : i < xs.length
  · rw [memcpy_outside _ _ _ _ (Or.inl hx)]
    exact (List.getD_append _ _ _ _ hx).symm
  · obtain ⟨k, rfl⟩ := Nat.exists_eq_add_of_le (Nat.le_of_not_lt hx)
    have hright : ofList (xs ++ ys) (xs.length + k) = ys.getD k 0 := getD_behind rfl k
    by_cases hy : k < ys.length
    · rw [memcpy_inside _ _ _ _ hy, hright, List.getD_eq_getElem _ _ hy]
    · rw [memcpy_outside _ _ _ _ (Or.inr (by omega)), hright]
      unfold ofList
      rw [List.getD_eq_default _ _ (by omega), List.getD_eq_default _ _ (by omega)]

/-- Storing a byte at the end of a list. -/
theorem set_ofList (xs : List UInt8) (b : UInt8) :
    (ofList xs).set xs.length b = ofList (xs ++ [b]) := by
  rw [set_eq_memcpy, memcpy_ofList]

/-- Nothing stands behind a list. -/
theorem shift_ofList (xs : List UInt8) : (ofList xs).shift xs.length = ofList [] := by
  funext i
  unfold shift ofList
  rw [List.getD_eq_default _ _ (by omega)]
  rfl

/-- A list behind a list. -/
theorem splice_ofList (xs ys : List UInt8) :
    (ofList xs).splice xs.length (ofList ys) = ofList (xs ++ ys) := by
  rw [← memcpy_ofList]
  funext i
  by_cases hx : i < xs.length
  · rw [splice_front _ _ _ _ hx, memcpy_outside _ _ _ _ (Or.inl hx)]
  · obtain ⟨k, rfl⟩ := Nat.exists_eq_add_of_le (Nat.le_of_not_lt hx)
    rw [splice_back, memcpy_ofList]
    exact (getD_behind rfl k).symm

/-- Zero bytes at the end of a list change nothing. -/
theorem ofList_zeros (xs : List UInt8) (n : Nat) :
    ofList (xs ++ List.replicate n 0) = ofList xs := by
  funext i
  unfold ofList
  by_cases hx : i < xs.length
  · rw [List.getD_append _ _ _ _ hx]
  · rw [List.getD_append_right _ _ _ _ (by omega), List.getD_eq_default xs _ (by omega)]
    by_cases hn : i - xs.length < n
    · exact List.getD_replicate 0 hn
    · exact List.getD_eq_default _ _ (by rw [List.length_replicate]; omega)

/-- Storing over a part of a list. -/
theorem memcpy_ofList_middle (xs ys ys' zs : List UInt8) (h : ys.length = ys'.length) :
    (ofList (xs ++ ys ++ zs)).memcpy xs.length ys' = ofList (xs ++ ys' ++ zs) := by
  have hright (ws : List UInt8) (k : Nat) : ofList (xs ++ (ws ++ zs)) (xs.length + k) =
      (ws ++ zs).getD k 0 := getD_behind rfl k
  rw [List.append_assoc, List.append_assoc]
  funext i
  by_cases hlow : i < xs.length
  · rw [memcpy_outside _ _ _ _ (Or.inl hlow)]
    unfold ofList
    rw [List.getD_append _ _ _ _ hlow, List.getD_append _ _ _ _ hlow]
  · obtain ⟨k, rfl⟩ := Nat.exists_eq_add_of_le (Nat.le_of_not_lt hlow)
    rw [hright]
    by_cases hk : k < ys'.length
    · rw [memcpy_inside _ _ _ _ hk, List.getD_append _ _ _ _ hk, List.getD_eq_getElem _ _ hk]
    · rw [memcpy_outside _ _ _ _ (Or.inr (by omega)), hright,
        List.getD_append_right _ _ _ _ (by omega), List.getD_append_right _ _ _ _ (by omega), h]

end Mem

/-- The 16-bit value of two bytes, most significant first. -/
def be16 (a b : UInt8) : Nat := a.toNat * 256 + b.toNat

/-- The 24-bit value of three bytes, most significant first. -/
def be24 (a b c : UInt8) : Nat := a.toNat * 65536 + b.toNat * 256 + c.toNat

/-- The 32-bit value of four bytes, most significant first. -/
def be32 (a b c d : UInt8) : Nat :=
  a.toNat * 16777216 + b.toNat * 65536 + c.toNat * 256 + d.toNat

/-- The two bytes of a 16-bit value, most significant first. -/
def be16Bytes (n : Nat) : List UInt8 := [UInt8.ofNat (n / 256), UInt8.ofNat n]

/-- The three bytes of a 24-bit value, most significant first. -/
def be24Bytes (n : Nat) : List UInt8 :=
  [UInt8.ofNat (n / 65536), UInt8.ofNat (n / 256), UInt8.ofNat n]

/-- The four bytes of a 32-bit value, most significant first. -/
def be32Bytes (n : Nat) : List UInt8 :=
  [UInt8.ofNat (n / 16777216), UInt8.ofNat (n / 65536), UInt8.ofNat (n / 256), UInt8.ofNat n]

/-- Two bytes give a value below `2^16`. -/
theorem be16_lt (a b : UInt8) : be16 a b < 65536 := by
  have ha := a.toNat_lt
  have hb := b.toNat_lt
  unfold be16
  omega

/-- Three bytes give a value below `2^24`. -/
theorem be24_lt (a b c : UInt8) : be24 a b c < 16777216 := by
  have ha := a.toNat_lt
  have hb := b.toNat_lt
  have hc := c.toNat_lt
  unfold be24
  omega

/-- Four bytes give a value below `2^32`. -/
theorem be32_lt (a b c d : UInt8) : be32 a b c d < 4294967296 := by
  have ha := a.toNat_lt
  have hb := b.toNat_lt
  have hc := c.toNat_lt
  have hd := d.toNat_lt
  unfold be32
  omega

@[simp] theorem length_be16Bytes (n : Nat) : (be16Bytes n).length = 2 := rfl

@[simp] theorem length_be24Bytes (n : Nat) : (be24Bytes n).length = 3 := rfl

@[simp] theorem length_be32Bytes (n : Nat) : (be32Bytes n).length = 4 := rfl

/-- Reading back the bytes of a 16-bit value. -/
theorem be16_be16Bytes (n : Nat) (h : n < 65536) :
    be16 (UInt8.ofNat (n / 256)) (UInt8.ofNat n) = n := by
  simp only [be16, UInt8.toNat_ofNat']
  omega

/-- Reading back the bytes of a 24-bit value. -/
theorem be24_be24Bytes (n : Nat) (h : n < 16777216) :
    be24 (UInt8.ofNat (n / 65536)) (UInt8.ofNat (n / 256)) (UInt8.ofNat n) = n := by
  simp only [be24, UInt8.toNat_ofNat']
  omega

/-- Reading back the bytes of a 32-bit value. -/
theorem be32_be32Bytes (n : Nat) (h : n < 4294967296) :
    be32 (UInt8.ofNat (n / 16777216)) (UInt8.ofNat (n / 65536)) (UInt8.ofNat (n / 256))
      (UInt8.ofNat n) = n := by
  simp only [be32, UInt8.toNat_ofNat']
  omega

private theorem ofNat_of_mod {n : Nat} {x : UInt8} (h : n % 256 = x.toNat) : UInt8.ofNat n = x := by
  rw [← UInt8.toNat_inj, UInt8.toNat_ofNat', h]

/-- The bytes of the value that two bytes spell are these bytes. -/
theorem be16Bytes_be16 (a b : UInt8) : be16Bytes (be16 a b) = [a, b] := by
  have ha := a.toNat_lt
  have hb := b.toNat_lt
  have hhigh : be16 a b / 256 % 256 = a.toNat := by
    unfold be16
    omega
  have hlow : be16 a b % 256 = b.toNat := by
    unfold be16
    omega
  unfold be16Bytes
  rw [ofNat_of_mod hhigh, ofNat_of_mod hlow]

/-- The bytes of the value that four bytes spell are these bytes. -/
theorem be32Bytes_be32 (a b c d : UInt8) : be32Bytes (be32 a b c d) = [a, b, c, d] := by
  have ha := a.toNat_lt
  have hb := b.toNat_lt
  have hc := c.toNat_lt
  have hd := d.toNat_lt
  have h0 : be32 a b c d / 16777216 % 256 = a.toNat := by
    unfold be32
    omega
  have h1 : be32 a b c d / 65536 % 256 = b.toNat := by
    unfold be32
    omega
  have h2 : be32 a b c d / 256 % 256 = c.toNat := by
    unfold be32
    omega
  have h3 : be32 a b c d % 256 = d.toNat := by
    unfold be32
    omega
  unfold be32Bytes
  rw [ofNat_of_mod h0, ofNat_of_mod h1, ofNat_of_mod h2, ofNat_of_mod h3]

/-- Conversion to a 32-bit unsigned integer. -/
def toUInt32 (x : Int) : Nat := (x % 4294967296).toNat

/-- Conversion of an unsigned value to a 32-bit two's complement integer. -/
def toInt32 (n : Nat) : Int :=
  if n % 4294967296 < 2147483648 then (n % 4294967296 : Nat)
  else (n % 4294967296 : Nat) - 4294967296

/-- Conversions are exact below `2^31`. -/
theorem toInt32_of_lt (n : Nat) (h : n < 2147483648) : toInt32 n = n := by
  unfold toInt32
  rw [Nat.mod_eq_of_lt (by omega), if_pos h]

/-- The conversion of a nonnegative 32-bit value is exact. -/
theorem toUInt32_of_nonneg (n : Nat) (h : n < 4294967296) : toUInt32 n = n := by
  unfold toUInt32
  omega

/-- A nonnegative value never grows. -/
theorem toUInt32_le (x : Int) (h : 0 ≤ x) : (toUInt32 x : Int) ≤ x := by
  unfold toUInt32
  omega

end RtmpRecv.Base
