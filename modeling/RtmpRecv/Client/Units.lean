import RtmpRecv.Client.Media
import RtmpRecv.Wire.Units

/-!
# The loop over length-prefixed units

Library `Client`. What the loop of `rtmp_process_video` does to the units of a frame: it
stays inside the frame, it ends, it stops at a length that exceeds what is left, and over
well-formed units it puts start codes in the place of the lengths.
-/

namespace RtmpRecv.Client
open RtmpRecv.Base RtmpRecv.Amf0 RtmpRecv.Wire

/-- The length in front of the first unit. -/
def unitLen (data : List UInt8) : Nat :=
  be32 (data.getD 0 0) (data.getD 1 0) (data.getD 2 0) (data.getD 3 0)

/-- What is left behind the first unit. The loop has stored a start code over the length, and
where the length is `0xfffffffc` or more it goes on inside that start code. -/
def unitRest (data : List UInt8) : List UInt8 :=
  (startCode ++ data.drop 4).drop (nalAdvance (unitLen data))

/-- The loop meets a unit that exceeds what is left. -/
inductive UnitsRefused : List UInt8 → Prop
  | here {data : List UInt8} (h : 4 < data.length)
      (hexceeds : data.length < nalAdvance (unitLen data)) : UnitsRefused data
  | later {data : List UInt8} (h : 4 < data.length)
      (hfits : nalAdvance (unitLen data) ≤ data.length) (hrest : UnitsRefused (unitRest data)) :
      UnitsRefused data

theorem not_unitsRefused_of_le {data : List UInt8} (h : data.length ≤ 4) :
    ¬UnitsRefused data := by
  intro hr
  cases hr with
  | here h4 _ => omega
  | later h4 _ _ => omega

theorem unitsRefused_iff_rest {data : List UInt8} (h : 4 < data.length)
    (hfits : nalAdvance (unitLen data) ≤ data.length) :
    UnitsRefused data ↔ UnitsRefused (unitRest data) := by
  constructor
  · intro hr
    cases hr with
    | here _ hx => omega
    | later _ _ hrest => exact hrest
  · exact .later h hfits

/-! ### One round -/

theorem swap4Byte_le (b0 b1 b2 b3 : UInt8) :
    swap4Byte (b0.toNat + b1.toNat * 256 + b2.toNat * 65536 + b3.toNat * 16777216) =
      be32 b0 b1 b2 b3 := by
  have h0 := b0.toNat_lt
  have h1 := b1.toNat_lt
  have h2 := b2.toNat_lt
  have h3 := b3.toNat_lt
  unfold swap4Byte swap2Byte be32
  omega

theorem run_loadSwap4 (off n : Nat) (m : Mem) (hn : 4 ≤ n) :
    (loadSwap4 off).run m = (.ok (unitLen (m.slice off n)), m) := by
  have hlen : unitLen (m.slice off n) = be32 (m off) (m (off + 1)) (m (off + 2)) (m (off + 3)) := by
    unfold unitLen
    rw [Mem.getD_slice _ _ _ _ _ (by omega), Mem.getD_slice _ _ _ _ _ (by omega),
      Mem.getD_slice _ _ _ _ _ (by omega), Mem.getD_slice _ _ _ _ _ (by omega)]
    rfl
  rw [hlen, ← swap4Byte_le]
  rfl

theorem touched_loadSwap4 (off : Nat) (m : Mem) :
    (loadSwap4 off).touched m = [off, off + 1, off + 2, off + 3] := rfl

theorem run_putStartCode (off : Nat) (m : Mem) :
    (putStartCode off).run m = (.ok (), m.memcpy off startCode) := by
  have hm : (((m.set off 0).set (off + 1) 0).set (off + 2) 0).set (off + 3) 1 =
      m.memcpy off startCode := by
    funext i
    by_cases h : off ≤ i ∧ i < off + 4
    · have hcases : i = off ∨ i = off + 1 ∨ i = off + 2 ∨ i = off + 3 := by omega
      have hread (j : Nat) (hj : j < 4) : m.memcpy off startCode (off + j) = startCode[j] :=
        Mem.memcpy_inside m off startCode j hj
      rcases hcases with rfl | rfl | rfl | rfl
      · have hfirst := hread 0 (by decide)
        rw [Nat.add_zero] at hfirst
        rw [hfirst]
        simp [Mem.set, startCode]
      · rw [hread 1 (by decide)]
        simp [Mem.set, startCode]
      · rw [hread 2 (by decide)]
        simp [Mem.set, startCode]
      · rw [hread 3 (by decide)]
        simp [Mem.set, startCode]
    · rw [Mem.memcpy_outside _ _ _ _ (by change i < off ∨ off + 4 ≤ i; omega)]
      rw [Mem.set_other _ _ _ _ (by omega), Mem.set_other _ _ _ _ (by omega),
        Mem.set_other _ _ _ _ (by omega), Mem.set_other _ _ _ _ (by omega)]
  rw [← hm]
  rfl

theorem touched_putStartCode (off : Nat) (m : Mem) :
    (putStartCode off).touched m = [off, off + 1, off + 2, off + 3] := rfl

/-- The loop stops at four bytes or fewer. -/
theorem nalLoop_stop (fuel ptr : Nat) {dataLen : Int} (h : dataLen ≤ 4) :
    nalLoop fuel ptr dataLen = .ret true := by
  unfold nalLoop
  rw [if_neg (by omega)]
  rfl

/-- A round that refuses a unit. -/
theorem nalLoop_exceeds (fuel ptr n : Nat) (m : Mem) (h4 : 4 < n) (hn : n < 4294967296)
    (hx : n < nalAdvance (unitLen (m.slice ptr n))) :
    (nalLoop (fuel + 1) ptr n).run m = (.ok false, m) ∧
      (nalLoop (fuel + 1) ptr n).touched m = [ptr, ptr + 1, ptr + 2, ptr + 3] := by
  have hload := run_loadSwap4 ptr n m (by omega)
  unfold nalLoop
  rw [if_pos (by omega)]
  simp only [Access.bind_eq, toUInt32_of_nonneg n hn]
  rw [Access.run_bind_ok hload, Access.touched_bind_ok hload, if_pos hx, touched_loadSwap4]
  exact ⟨rfl, rfl⟩

/-- A round that stores a start code. -/
theorem nalLoop_unit (fuel ptr n : Nat) (m : Mem) (h4 : 4 < n) (hn : n < 4294967296)
    (hx : nalAdvance (unitLen (m.slice ptr n)) ≤ n) :
    (nalLoop (fuel + 1) ptr n).run m =
        (nalLoop fuel (ptr + nalAdvance (unitLen (m.slice ptr n)))
          (n - nalAdvance (unitLen (m.slice ptr n)) : Nat)).run (m.memcpy ptr startCode) ∧
      (nalLoop (fuel + 1) ptr n).touched m =
        [ptr, ptr + 1, ptr + 2, ptr + 3] ++ ([ptr, ptr + 1, ptr + 2, ptr + 3] ++
          (nalLoop fuel (ptr + nalAdvance (unitLen (m.slice ptr n)))
            (n - nalAdvance (unitLen (m.slice ptr n)) : Nat)).touched
              (m.memcpy ptr startCode)) := by
  have hload := run_loadSwap4 ptr n m (by omega)
  have hput := run_putStartCode ptr m
  have hsub : ((n : Int) - nalAdvance (unitLen (m.slice ptr n))) =
      ((n - nalAdvance (unitLen (m.slice ptr n)) : Nat) : Int) := by omega
  conv in (nalLoop (fuel + 1) ptr n).run m => unfold nalLoop
  conv in (nalLoop (fuel + 1) ptr n).touched m => unfold nalLoop
  rw [if_pos (by omega)]
  simp only [Access.bind_eq, toUInt32_of_nonneg n hn]
  rw [Access.run_bind_ok hload, Access.touched_bind_ok hload, if_neg (by omega),
    Access.run_bind_ok hput, Access.touched_bind_ok hput, touched_loadSwap4, touched_putStartCode,
    hsub]
  exact ⟨rfl, rfl⟩

/-- The frame behind a round is what is left behind its unit. -/
theorem slice_unitRest (ptr n : Nat) (m : Mem) (h4 : 4 < n) :
    (m.memcpy ptr startCode).slice (ptr + nalAdvance (unitLen (m.slice ptr n)))
        (n - nalAdvance (unitLen (m.slice ptr n))) = unitRest (m.slice ptr n) := by
  have hsplit : (m.memcpy ptr startCode).slice ptr n = startCode ++ (m.slice ptr n).drop 4 := by
    have hn : n = startCode.length + (n - 4) := by
      change n = 4 + (n - 4)
      omega
    have hdrop : (m.slice ptr n).drop 4 = m.slice (ptr + 4) (n - 4) := Mem.drop_slice _ _ _ _
    rw [hdrop]
    conv_lhs => rw [hn]
    rw [Mem.slice_add, Mem.slice_memcpy_same,
      Mem.slice_memcpy_outside _ _ _ _ _ (Or.inr (Nat.le_refl _))]
    rfl
  unfold unitRest
  rw [← hsplit, Mem.drop_slice]

/-! ### The whole loop -/

/-- A round that does not advance is followed by one that does. -/
theorem unitLen_unitRest {data : List UInt8} (h : nalAdvance (unitLen data) = 0) :
    unitLen (unitRest data) = 1 := by
  have hone : be32 0 0 0 1 = 1 := by decide
  unfold unitRest
  rw [h]
  exact hone

/-- Rounds that are enough for a frame. -/
def EnoughRounds (fuel : Nat) (data : List UInt8) : Prop :=
  2 * data.length + 1 ≤ fuel ∨ unitLen data = 1 ∧ 2 * data.length ≤ fuel

theorem length_unitRest {data : List UInt8} (h4 : 4 < data.length) :
    (unitRest data).length = data.length - nalAdvance (unitLen data) := by
  unfold unitRest
  rw [List.length_drop, List.length_append, List.length_drop]
  change 4 + _ - _ = _
  omega

theorem EnoughRounds.rest {fuel : Nat} {data : List UInt8} (h : EnoughRounds (fuel + 1) data)
    (h4 : 4 < data.length) (hfits : nalAdvance (unitLen data) ≤ data.length) :
    EnoughRounds fuel (unitRest data) := by
  have hlen := length_unitRest h4
  unfold EnoughRounds at h ⊢
  rw [hlen]
  rcases h with h | ⟨hone, h⟩
  · by_cases h0 : nalAdvance (unitLen data) = 0
    · exact Or.inr ⟨unitLen_unitRest h0, by omega⟩
    · exact Or.inl (by omega)
  · have hadv : nalAdvance (unitLen data) = 5 := by rw [hone]; rfl
    exact Or.inl (by omega)

/-- The loop ends with the rounds it is given: it returns whether no unit is refused, and
touches the frame alone. -/
theorem nalLoop_run (fuel ptr n : Nat) (m : Mem) (hn : n < 4294967296)
    (hfuel : EnoughRounds fuel (m.slice ptr n)) :
    ∃ b m', (nalLoop fuel ptr n).run m = (.ok b, m') ∧
      (b = false ↔ UnitsRefused (m.slice ptr n)) ∧
      ∀ i ∈ (nalLoop fuel ptr n).touched m, ptr ≤ i ∧ i < ptr + n := by
  have hstop (fuel ptr n : Nat) (m : Mem) (h4 : n ≤ 4) :
      ∃ b m', (nalLoop fuel ptr n).run m = (.ok b, m') ∧
        (b = false ↔ UnitsRefused (m.slice ptr n)) ∧
        ∀ i ∈ (nalLoop fuel ptr n).touched m, ptr ≤ i ∧ i < ptr + n := by
    have hnot : ¬UnitsRefused (m.slice ptr n) :=
      not_unitsRefused_of_le (by rw [Mem.length_slice]; exact h4)
    rw [nalLoop_stop fuel ptr (by omega)]
    exact ⟨true, m, rfl, ⟨fun h ↦ Bool.noConfusion h, fun h ↦ absurd h hnot⟩,
      fun i hi ↦ absurd hi List.not_mem_nil⟩
  induction fuel generalizing ptr n m with
  | zero =>
    refine hstop 0 ptr n m ?_
    unfold EnoughRounds at hfuel
    rw [Mem.length_slice] at hfuel
    omega
  | succ fuel ih =>
    by_cases h4 : 4 < n
    · have hlen : 4 < (m.slice ptr n).length := by
        rw [Mem.length_slice]
        exact h4
      by_cases hx : n < nalAdvance (unitLen (m.slice ptr n))
      · obtain ⟨hrun, htouched⟩ := nalLoop_exceeds fuel ptr n m h4 hn hx
        have hexceeds : (m.slice ptr n).length < nalAdvance (unitLen (m.slice ptr n)) := by
          rw [Mem.length_slice]
          exact hx
        refine ⟨false, m, hrun, ⟨fun _ ↦ .here hlen hexceeds, fun _ ↦ rfl⟩, fun i hi ↦ ?_⟩
        rw [htouched] at hi
        simp only [List.mem_cons, List.not_mem_nil, or_false] at hi
        omega
      · have hfits : nalAdvance (unitLen (m.slice ptr n)) ≤ (m.slice ptr n).length := by
          rw [Mem.length_slice]
          omega
        obtain ⟨hrun, htouched⟩ := nalLoop_unit fuel ptr n m h4 hn (by omega)
        have hslice := slice_unitRest ptr n m h4
        obtain ⟨b, m', hrest, hb, hinside⟩ :=
          ih (ptr + nalAdvance (unitLen (m.slice ptr n)))
            (n - nalAdvance (unitLen (m.slice ptr n))) (m.memcpy ptr startCode) (by omega)
            (by rw [hslice]; exact hfuel.rest hlen hfits)
        rw [hslice] at hb
        refine ⟨b, m', hrun.trans hrest, hb.trans (unitsRefused_iff_rest hlen hfits).symm,
          fun i hi ↦ ?_⟩
        rw [htouched] at hi
        simp only [List.mem_append, List.mem_cons, List.not_mem_nil, or_false] at hi
        rcases hi with hi | hi | hi
        · omega
        · omega
        · have hi' := hinside i hi
          omega
    · exact hstop (fuel + 1) ptr n m (by omega)

theorem enoughRounds_nalFuel (ptr n : Nat) (m : Mem) :
    EnoughRounds (nalFuel n) (m.slice ptr n) := by
  unfold EnoughRounds nalFuel
  rw [Mem.length_slice]
  exact Or.inl (by omega)

/-! ### Well-formed units -/

section

variable (unit rest : List UInt8)

/-- The first unit behind its length. -/
theorem unitLen_prefixed (h : unit.length < 4294967296) :
    unitLen (be32Bytes unit.length ++ (unit ++ rest)) = unit.length :=
  be32_be32Bytes unit.length h

theorem nalAdvance_prefixed (h : unit.length + 4 < 4294967296) :
    nalAdvance (unitLen (be32Bytes unit.length ++ (unit ++ rest))) = unit.length + 4 := by
  rw [unitLen_prefixed unit rest (by omega)]
  exact Nat.mod_eq_of_lt h

theorem unitRest_prefixed (h : unit.length + 4 < 4294967296) :
    unitRest (be32Bytes unit.length ++ (unit ++ rest)) = rest := by
  have hdrop : (be32Bytes unit.length ++ (unit ++ rest)).drop 4 = unit ++ rest :=
    List.drop_left' (length_be32Bytes _)
  unfold unitRest
  rw [nalAdvance_prefixed unit rest h, hdrop, ← List.append_assoc]
  have hlen : (startCode ++ unit).length = unit.length + 4 := by
    rw [List.length_append]
    exact Nat.add_comm _ _
  rw [← hlen]
  exact List.drop_left

end

theorem unitLen_lengthPrefixed (unit : List UInt8) (units : List (List UInt8))
    (h : unit.length < 4294967296) :
    unitLen (lengthPrefixed (unit :: units)) = unit.length := by
  rw [lengthPrefixed_cons]
  exact unitLen_prefixed unit _ h

theorem nalAdvance_lengthPrefixed (unit : List UInt8) (units : List (List UInt8))
    (h : unit.length + 4 < 4294967296) :
    nalAdvance (unitLen (lengthPrefixed (unit :: units))) = unit.length + 4 := by
  rw [lengthPrefixed_cons]
  exact nalAdvance_prefixed unit _ h

theorem unitRest_lengthPrefixed (unit : List UInt8) (units : List (List UInt8))
    (h : unit.length + 4 < 4294967296) :
    unitRest (lengthPrefixed (unit :: units)) = lengthPrefixed units := by
  rw [lengthPrefixed_cons]
  exact unitRest_prefixed unit _ h

/-- No unit of a well-formed frame is refused. -/
theorem not_unitsRefused_lengthPrefixed (units : List (List UInt8))
    (h : (lengthPrefixed units).length < 4294967296) :
    ¬UnitsRefused (lengthPrefixed units) := by
  induction units with
  | nil => exact not_unitsRefused_of_le (Nat.zero_le _)
  | cons unit units ih =>
    have hlen := length_lengthPrefixed_cons unit units
    by_cases h4 : 4 < (lengthPrefixed (unit :: units)).length
    · have hadv := nalAdvance_lengthPrefixed unit units (by omega)
      rw [unitsRefused_iff_rest h4 (by omega), unitRest_lengthPrefixed unit units (by omega)]
      exact ih (by omega)
    · exact not_unitsRefused_of_le (by omega)

/-- The loop over well-formed units that are not empty puts start codes over the lengths. -/
theorem nalLoop_lengthPrefixed (fuel ptr : Nat) (units : List (List UInt8)) (m : Mem)
    (hunits : ∀ unit ∈ units, unit ≠ [])
    (hn : (lengthPrefixed units).length < 4294967296)
    (hslice : m.slice ptr (lengthPrefixed units).length = lengthPrefixed units)
    (hfuel : EnoughRounds fuel (lengthPrefixed units)) :
    ∃ m', (nalLoop fuel ptr (lengthPrefixed units).length).run m = (.ok true, m') ∧
      m'.slice ptr (lengthPrefixed units).length = startCoded units := by
  induction units generalizing fuel ptr m with
  | nil =>
    rw [nalLoop_stop fuel ptr (by change (0 : Int) ≤ 4; decide)]
    exact ⟨m, rfl, rfl⟩
  | cons unit units ih =>
    have hlen := length_lengthPrefixed_cons unit units
    have hpos : 0 < unit.length := List.length_pos_iff.2 (hunits unit List.mem_cons_self)
    have h4 : 4 < (lengthPrefixed (unit :: units)).length := by omega
    have hadv := nalAdvance_lengthPrefixed unit units (by omega)
    cases fuel with
    | zero =>
      unfold EnoughRounds at hfuel
      omega
    | succ fuel =>
      obtain ⟨hrun, -⟩ := nalLoop_unit fuel ptr _ m h4 hn (by rw [hslice]; omega)
      have hrest := slice_unitRest ptr _ m h4
      have hmore := hfuel.rest h4 (by omega)
      rw [hslice] at hrun hrest
      rw [unitRest_lengthPrefixed unit units (by omega)] at hmore
      rw [unitRest_lengthPrefixed unit units (by omega), hadv, hlen] at hrest
      rw [hadv, hlen] at hrun
      have hsub : 4 + unit.length + (lengthPrefixed units).length - (unit.length + 4) =
          (lengthPrefixed units).length := by omega
      rw [hsub] at hrun hrest
      obtain ⟨m', hrun', hslice'⟩ := ih fuel (ptr + (unit.length + 4)) (m.memcpy ptr startCode)
        (fun u hu ↦ hunits u (List.mem_cons_of_mem _ hu)) (by omega) hrest hmore
      obtain ⟨_, _, -, -, hinside⟩ := nalLoop_run fuel (ptr + (unit.length + 4))
        (lengthPrefixed units).length (m.memcpy ptr startCode) (by omega)
        (by rw [hrest]; exact hmore)
      -- the rest of the loop leaves this start code and this unit alone
      have hkept : m'.slice ptr (4 + unit.length) =
          (m.memcpy ptr startCode).slice ptr (4 + unit.length) := by
        rw [Mem.slice_eq_iff]
        intro i hi
        have hframe := Access.run_frame (nalLoop fuel (ptr + (unit.length + 4))
          (lengthPrefixed units).length) (m.memcpy ptr startCode) (ptr + i)
          (fun ht ↦ by have hi' := hinside _ ht; omega)
        rw [hrun'] at hframe
        exact hframe
      have hunit : m.slice (ptr + 4) unit.length = unit := by
        rw [lengthPrefixed_cons] at hslice
        obtain ⟨-, htail⟩ := (Mem.slice_append_iff m ptr _ _).1 hslice
        exact ((Mem.slice_append_iff m _ _ _).1 htail).1
      have hfirst : (m.memcpy ptr startCode).slice ptr (4 + unit.length) = startCode ++ unit := by
        rw [Mem.slice_add]
        congr 1
        · exact Mem.slice_memcpy_same m ptr startCode
        · exact (Mem.slice_memcpy_outside m ptr startCode (ptr + 4) unit.length
            (Or.inr (Nat.le_refl _))).trans hunit
      rw [hlen]
      refine ⟨m', hrun.trans hrun', ?_⟩
      rw [Mem.slice_add, hkept, hfirst, startCoded_cons, List.append_assoc]
      have hoff : ptr + (4 + unit.length) = ptr + (unit.length + 4) := by omega
      rw [hoff, hslice']

end RtmpRecv.Client
