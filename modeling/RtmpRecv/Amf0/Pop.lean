import RtmpRecv.Amf0.Push
import RtmpRecv.Base.Access

/-!
# AMF0 decoders

Library `Amf0`. Models the pop functions of `rtmp_amf0.cpp:151-223` as programs over the
buffer of the message that is decoded. `src` is the offset of the pointer of that name;
a negative result carries no value.
-/

namespace RtmpRecv.Amf0
open RtmpRecv.Base

variable {ε : Type}

/-- `rtmp_amf0_pop_string`: `none` is the result `-1`, else the string and its `len + 3`. -/
def rtmpAmf0PopString (dstSize : Int) (src : Nat) (srcLen : Int) :
    Access ε (Option (List UInt8 × Nat)) :=
  if srcLen < 3 ∨ dstSize < 1 then pure none
  else do
    if (← Access.get src) ≠ 0x02 then pure none
    else
      let strLen := be16 (← Access.get (src + 1)) (← Access.get (src + 2))
      if (strLen : Int) + 3 > srcLen ∨ (strLen : Int) > dstSize - 1 then pure none
      else
        let dst ← Access.getList (src + 3) strLen
        pure (some (dst, strLen + 3))

/-- `rtmp_amf0_pop_number`: the 64-bit pattern and the length consumed. -/
def rtmpAmf0PopNumber (src : Nat) (srcLen : Int) : Access ε (Option (Nat × Nat)) :=
  if srcLen < 9 then pure none
  else do
    if (← Access.get src) ≠ 0x00 then pure none
    else
      let bytes ← Access.getList (src + 1) 8
      -- the bytes are copied in order and swapped as one 64-bit host word
      let t := bytes.foldr (fun b n ↦ n * 256 + b.toNat) 0
      pure (some (swap8Byte t, 9))

/-- `rtmp_amf0_pop_null`. -/
def rtmpAmf0PopNull (src : Nat) (srcLen : Int) : Access ε (Option Nat) :=
  if srcLen < 1 then pure none
  else do
    if (← Access.get src) ≠ 0x05 then pure none else pure (some 1)

/-- `rtmp_amf0_pop_object_begin`. -/
def rtmpAmf0PopObjectBegin (src : Nat) (srcLen : Int) : Access ε (Option Nat) :=
  if srcLen < 1 then pure none
  else do
    if (← Access.get src) ≠ 0x03 then pure none else pure (some 1)

/-- `rtmp_amf0_pop_object_end`: it fails only if all three bytes differ. -/
def rtmpAmf0PopObjectEnd (src : Nat) (srcLen : Int) : Access ε (Option Nat) :=
  if srcLen < 3 then pure none
  else do
    if (← Access.get src) ≠ 0x00 then
      if (← Access.get (src + 1)) ≠ 0x00 then
        if (← Access.get (src + 2)) ≠ 0x09 then pure none else pure (some 3)
      else pure (some 3)
    else pure (some 3)

/-- `rtmp_amf0_pop_object_prop_name`: `none` is the result `-1`, else the name and the result. The
result 0 stands for no name; `dst` is left alone then. -/
def rtmpAmf0PopObjectPropName (dstSize : Int) (src : Nat) (srcLen : Int) :
    Access ε (Option (List UInt8 × Nat)) :=
  if srcLen < 2 ∨ dstSize < 1 then pure none
  else do
    let strLen := be16 (← Access.get src) (← Access.get (src + 1))
    if strLen = 0 then pure (some ([], 0))
    else if (strLen : Int) + 2 > srcLen ∨ (strLen : Int) > dstSize - 1 then pure none
    else
      let dst ← Access.getList (src + 2) strLen
      pure (some (dst, strLen + 2))

/-! ### Bounds -/

/-- What is popped lies inside the source. -/
theorem stays_rtmpAmf0PopString (dstSize : Int) {src n : Nat} {srcLen : Int}
    (h : src + srcLen ≤ n) : (rtmpAmf0PopString dstSize src srcLen : Access ε _).Stays n := by
  unfold rtmpAmf0PopString
  simp only [Access.bind_eq, Access.get_bind]
  refine Access.Stays.ite (fun _ ↦ Access.Stays.ret) fun hlen ↦ ?_
  refine Access.Stays.read (by omega) fun b0 ↦ ?_
  refine Access.Stays.ite (fun _ ↦ Access.Stays.ret) fun _ ↦ ?_
  refine Access.Stays.read (by omega) fun b1 ↦ Access.Stays.read (by omega) fun b2 ↦ ?_
  refine Access.Stays.ite (fun _ ↦ Access.Stays.ret) fun hstr ↦ ?_
  exact Access.Stays.bind_of_forall (Access.Stays.getList (by omega)) fun _ ↦ Access.Stays.ret

/-- What is taken of the source is not more than there is. -/
theorem returns_rtmpAmf0PopString (dstSize : Int) (src : Nat) (srcLen : Int) :
    (rtmpAmf0PopString dstSize src srcLen : Access ε _).Returns fun r ↦
      ∀ s ret, r = some (s, ret) → (ret : Int) ≤ srcLen := by
  unfold rtmpAmf0PopString
  simp only [Access.bind_eq, Access.get_bind]
  split
  · exact Access.Returns.ret fun s ret h ↦ by cases h
  · refine Access.Returns.read fun b0 ↦ ?_
    split
    · exact Access.Returns.ret fun s ret h ↦ by cases h
    · refine Access.Returns.read fun b1 ↦ Access.Returns.read fun b2 ↦ ?_
      split
      · exact Access.Returns.ret fun s ret h ↦ by cases h
      · next hlen =>
        refine Access.Returns.bind_of_forall fun dst ↦ Access.Returns.ret fun s ret h ↦ ?_
        cases h
        omega

theorem stays_rtmpAmf0PopNumber {src n : Nat} {srcLen : Int} (h : src + srcLen ≤ n) :
    (rtmpAmf0PopNumber src srcLen : Access ε _).Stays n := by
  unfold rtmpAmf0PopNumber
  simp only [Access.bind_eq, Access.get_bind]
  refine Access.Stays.ite (fun _ ↦ Access.Stays.ret) fun hlen ↦ ?_
  refine Access.Stays.read (by omega) fun b0 ↦ ?_
  refine Access.Stays.ite (fun _ ↦ Access.Stays.ret) fun _ ↦ ?_
  exact Access.Stays.bind_of_forall (Access.Stays.getList (by omega)) fun _ ↦ Access.Stays.ret

/-- A number takes nine bytes, which must be there. -/
theorem ends_rtmpAmf0PopNumber (src : Nat) (srcLen : Int) :
    (rtmpAmf0PopNumber src srcLen : Access ε _).Ends fun r ↦
      ∀ t ret, r = some (t, ret) → ret = 9 ∧ 9 ≤ srcLen := by
  unfold rtmpAmf0PopNumber
  simp only [Access.bind_eq, Access.get_bind]
  split
  · exact Access.Ends.ret fun t ret h ↦ by cases h
  · next hlen =>
    refine Access.Ends.read fun b0 ↦ ?_
    split
    · exact Access.Ends.ret fun t ret h ↦ by cases h
    · refine Access.Ends.bind Access.Ends.getList fun bytes _ ↦ Access.Ends.ret fun t ret h ↦ ?_
      cases h
      exact ⟨rfl, by omega⟩

theorem stays_rtmpAmf0PopNull {src n : Nat} {srcLen : Int} (h : src + srcLen ≤ n) :
    (rtmpAmf0PopNull src srcLen : Access ε _).Stays n := by
  unfold rtmpAmf0PopNull
  simp only [Access.bind_eq, Access.get_bind]
  refine Access.Stays.ite (fun _ ↦ Access.Stays.ret) fun hlen ↦ ?_
  refine Access.Stays.read (by omega) fun b0 ↦ ?_
  exact Access.Stays.ite (fun _ ↦ Access.Stays.ret) fun _ ↦ Access.Stays.ret

/-- A null takes one byte, which must be there. -/
theorem ends_rtmpAmf0PopNull (src : Nat) (srcLen : Int) :
    (rtmpAmf0PopNull src srcLen : Access ε _).Ends fun r ↦
      ∀ ret, r = some ret → ret = 1 ∧ 1 ≤ srcLen := by
  unfold rtmpAmf0PopNull
  simp only [Access.bind_eq, Access.get_bind]
  split
  · exact Access.Ends.ret fun ret h ↦ by cases h
  · next hlen =>
    refine Access.Ends.read fun b0 ↦ ?_
    split
    · exact Access.Ends.ret fun ret h ↦ by cases h
    · refine Access.Ends.ret fun ret h ↦ ?_
      cases h
      exact ⟨rfl, by omega⟩

/-! ### Values -/

/-- The string at `src` and the bytes it takes. -/
def poppedString (dstSize : Int) (m : Mem) (src : Nat) (srcLen : Int) :
    Option (List UInt8 × Nat) :=
  if srcLen < 3 ∨ dstSize < 1 ∨ m src ≠ 0x02 then none
  else
    let strLen := be16 (m (src + 1)) (m (src + 2))
    if (strLen : Int) + 3 > srcLen ∨ (strLen : Int) > dstSize - 1 then none
    else some (m.slice (src + 3) strLen, strLen + 3)

/-- The pattern of the number at `src`. -/
def poppedNumber (m : Mem) (src : Nat) (srcLen : Int) : Option Nat :=
  if srcLen < 9 ∨ m src ≠ 0x00 then none
  else some (swap8Byte ((m.slice (src + 1) 8).foldr (fun b n ↦ n * 256 + b.toNat) 0))

/-- Whether there is a null at `src`. -/
def poppedNull (m : Mem) (src : Nat) (srcLen : Int) : Bool := 1 ≤ srcLen ∧ m src = 0x05

/-- Whether there is the start of an object at `src`. -/
def poppedObjectBegin (m : Mem) (src : Nat) (srcLen : Int) : Bool := 1 ≤ srcLen ∧ m src = 0x03

/-- Whether what stands at `src` passes for the end of an object. -/
def poppedObjectEnd (m : Mem) (src : Nat) (srcLen : Int) : Bool :=
  3 ≤ srcLen ∧ (m src = 0x00 ∨ m (src + 1) = 0x00 ∨ m (src + 2) = 0x09)

/-- The property name at `src` and the bytes it takes. -/
def poppedPropName (dstSize : Int) (m : Mem) (src : Nat) (srcLen : Int) :
    Option (List UInt8 × Nat) :=
  if srcLen < 2 ∨ dstSize < 1 then none
  else
    let strLen := be16 (m src) (m (src + 1))
    if strLen = 0 then some ([], 0)
    else if (strLen : Int) + 2 > srcLen ∨ (strLen : Int) > dstSize - 1 then none
    else some (m.slice (src + 2) strLen, strLen + 2)

theorem run_rtmpAmf0PopString (dstSize : Int) (src : Nat) (srcLen : Int) (m : Mem) :
    (rtmpAmf0PopString dstSize src srcLen : Access ε _).run m =
      (.ok (poppedString dstSize m src srcLen), m) := by
  unfold rtmpAmf0PopString poppedString
  simp only [Access.bind_eq, Access.get_bind, Access.pure_eq_ret]
  by_cases hlen : srcLen < 3 ∨ dstSize < 1
  · rw [if_pos hlen, if_pos (hlen.imp_right Or.inl)]
    rfl
  · rw [if_neg hlen, Access.run_read]
    by_cases htag : m src ≠ 0x02
    · rw [if_pos htag, if_pos (Or.inr (Or.inr htag))]
      rfl
    · rw [if_neg htag, if_neg fun h ↦ h.elim (fun h ↦ hlen (Or.inl h))
        fun h ↦ h.elim (fun h ↦ hlen (Or.inr h)) htag]
      simp only [Access.run_read]
      split
      · rfl
      · rw [Access.run_bind_ok (Access.run_getList _ _ _)]
        rfl

theorem run_rtmpAmf0PopNumber (src : Nat) (srcLen : Int) (m : Mem) :
    (rtmpAmf0PopNumber src srcLen : Access ε _).run m =
      (.ok ((poppedNumber m src srcLen).map fun t ↦ (t, 9)), m) := by
  unfold rtmpAmf0PopNumber poppedNumber
  simp only [Access.bind_eq, Access.get_bind, Access.pure_eq_ret]
  by_cases hlen : srcLen < 9
  · rw [if_pos hlen, if_pos (Or.inl hlen)]
    rfl
  · rw [if_neg hlen, Access.run_read]
    by_cases htag : m src ≠ 0x00
    · rw [if_pos htag, if_pos (Or.inr htag)]
      rfl
    · rw [if_neg htag, if_neg fun h ↦ h.elim hlen htag,
        Access.run_bind_ok (Access.run_getList _ _ _)]
      rfl

theorem run_rtmpAmf0PopNull (src : Nat) (srcLen : Int) (m : Mem) :
    (rtmpAmf0PopNull src srcLen : Access ε _).run m =
      (.ok (if poppedNull m src srcLen then some 1 else none), m) := by
  unfold rtmpAmf0PopNull poppedNull
  simp only [Access.bind_eq, Access.get_bind, Access.pure_eq_ret, decide_eq_true_eq]
  by_cases hlen : srcLen < 1
  · rw [if_pos hlen, if_neg fun h ↦ absurd h.1 (by omega)]
    rfl
  · rw [if_neg hlen, Access.run_read]
    by_cases htag : m src ≠ 0x05
    · rw [if_pos htag, if_neg fun h ↦ htag h.2]
      rfl
    · rw [if_neg htag, if_pos ⟨by omega, not_not.1 htag⟩]
      rfl

theorem run_rtmpAmf0PopObjectBegin (src : Nat) (srcLen : Int) (m : Mem) :
    (rtmpAmf0PopObjectBegin src srcLen : Access ε _).run m =
      (.ok (if poppedObjectBegin m src srcLen then some 1 else none), m) := by
  unfold rtmpAmf0PopObjectBegin poppedObjectBegin
  simp only [Access.bind_eq, Access.get_bind, Access.pure_eq_ret, decide_eq_true_eq]
  by_cases hlen : srcLen < 1
  · rw [if_pos hlen, if_neg fun h ↦ absurd h.1 (by omega)]
    rfl
  · rw [if_neg hlen, Access.run_read]
    by_cases htag : m src ≠ 0x03
    · rw [if_pos htag, if_neg fun h ↦ htag h.2]
      rfl
    · rw [if_neg htag, if_pos ⟨by omega, not_not.1 htag⟩]
      rfl

theorem run_rtmpAmf0PopObjectEnd (src : Nat) (srcLen : Int) (m : Mem) :
    (rtmpAmf0PopObjectEnd src srcLen : Access ε _).run m =
      (.ok (if poppedObjectEnd m src srcLen then some 3 else none), m) := by
  unfold rtmpAmf0PopObjectEnd poppedObjectEnd
  simp only [Access.bind_eq, Access.get_bind, Access.pure_eq_ret, decide_eq_true_eq]
  by_cases hlen : srcLen < 3
  · rw [if_pos hlen, if_neg fun h ↦ absurd h.1 (by omega)]
    rfl
  · have hroom : 3 ≤ srcLen := by omega
    rw [if_neg hlen, Access.run_read]
    by_cases h0 : m src = 0x00
    · simp [h0, hroom]
    · by_cases h1 : m (src + 1) = 0x00
      · simp [h0, h1, hroom]
      · by_cases h2 : m (src + 2) = 0x09
        · simp [h0, h1, h2, hroom]
        · simp [h0, h1, h2]

theorem run_rtmpAmf0PopObjectPropName (dstSize : Int) (src : Nat) (srcLen : Int) (m : Mem) :
    (rtmpAmf0PopObjectPropName dstSize src srcLen : Access ε _).run m =
      (.ok (poppedPropName dstSize m src srcLen), m) := by
  unfold rtmpAmf0PopObjectPropName poppedPropName
  simp only [Access.bind_eq, Access.get_bind, Access.pure_eq_ret]
  split
  · rfl
  · simp only [Access.run_read]
    split
    · rfl
    · split
      · rfl
      · rw [Access.run_bind_ok (Access.run_getList _ _ _)]
        rfl

end RtmpRecv.Amf0
