import RtmpRecv.Amf0.Encode
import RtmpRecv.Amf0.Pop

/-!
# Encoding and decoding in turn

Library `Amf0`. Values pushed one behind the other and popped in the same order. A push stores the
encoding of its value or, where the room does not hold it, nothing; the pop of the same kind takes
exactly what the push stored.
-/

namespace RtmpRecv.Amf0
open RtmpRecv.Base

variable {ε : Type}

/-- The kinds of values that have both a push function and a pop function. -/
inductive Kind where
  | string
  | number
  | null
  | objectBegin
  | propName
  deriving DecidableEq, Repr

/-- A value; a number is kept as its 64-bit pattern. -/
inductive Value where
  | string (text : List UInt8)
  | number (pattern : Nat)
  | null
  | objectBegin
  | propName (name : List UInt8)
  deriving DecidableEq, Repr

def Value.kind : Value → Kind
  | .string _ => .string
  | .number _ => .number
  | .null => .null
  | .objectBegin => .objectBegin
  | .propName _ => .propName

/-- The text of a value, which a pop copies to its destination. -/
def Value.text : Value → List UInt8
  | .string text => text
  | .propName name => name
  | _ => []

/-- A text is a C string of at most 65535 bytes, a name is not empty, and a number has 64 bits. -/
def Value.Fits : Value → Prop
  | .string text => text.length ≤ 65535 ∧ 0 ∉ text
  | .number pattern => pattern < 18446744073709551616
  | .null => True
  | .objectBegin => True
  | .propName name => name ≠ [] ∧ name.length ≤ 65535 ∧ 0 ∉ name

/-- The encoding of a value. -/
def Value.bytes : Value → List UInt8
  | .string text => stringBytes text
  | .number pattern => numberBytes pattern
  | .null => [0x05]
  | .objectBegin => [0x03]
  | .propName name => propNameBytes name

/-- The push function of a value. -/
def Value.push : Value → Mem → Int → Int × Mem
  | .string text => fun dst dstSize ↦ rtmpAmf0PushString dst dstSize text
  | .number pattern => fun dst dstSize ↦ rtmpAmf0PushNumber dst dstSize pattern
  | .null => rtmpAmf0PushNull
  | .objectBegin => rtmpAmf0PushObjectHeader
  | .propName name => fun dst dstSize ↦ rtmpAmf0PushObjectPropName dst dstSize name

/-- Push values one behind the other from offset `off` on, until a push returns -1: the results,
and the buffer. -/
def pushAll (m : Mem) (off : Nat) (room : Int) : List Value → List Int × Mem
  | [] => ([], m)
  | v :: vs =>
    let (ret, dst) := v.push (m.shift off) room
    if ret < 0 then ([ret], m.splice off dst)
    else
      let (rets, m) := pushAll (m.splice off dst) (off + ret.toNat) (room - ret) vs
      (ret :: rets, m)

/-- A pop: its kind and the size of its destination, where it has one. -/
structure Target where
  kind : Kind
  dstSize : Int

/-- The destination is larger than the text of the value. -/
def Value.FitsIn (v : Value) (target : Target) : Prop :=
  target.kind = v.kind ∧ (v.text.length : Int) < target.dstSize

/-- The pop function of a kind: `none` is the result -1, else the value and the result. -/
def Target.pop (target : Target) (src : Nat) (srcLen : Int) : Access ε (Option (Value × Nat)) :=
  match target.kind with
  | .string => do
    pure ((← rtmpAmf0PopString target.dstSize src srcLen).map fun (s, ret) ↦ (.string s, ret))
  | .number => do
    pure ((← rtmpAmf0PopNumber src srcLen).map fun (t, ret) ↦ (.number t, ret))
  | .null => do pure ((← rtmpAmf0PopNull src srcLen).map fun ret ↦ (.null, ret))
  | .objectBegin => do
    pure ((← rtmpAmf0PopObjectBegin src srcLen).map fun ret ↦ (.objectBegin, ret))
  | .propName => do
    pure ((← rtmpAmf0PopObjectPropName target.dstSize src srcLen).map
      fun (s, ret) ↦ (.propName s, ret))

/-- Pop values one behind the other, until a pop returns -1. -/
def popAll (src : Nat) (srcLen : Int) : List Target → Access ε (Option (List (Value × Nat)))
  | [] => pure (some [])
  | target :: targets => do
    match ← target.pop src srcLen with
    | none => pure none
    | some (v, ret) =>
      pure ((← popAll (src + ret) (srcLen - ret) targets).map ((v, ret) :: ·))

/-- The bytes of all values. -/
def bytesOf (values : List Value) : List UInt8 := values.flatMap Value.bytes

/-! ### Pushing -/

/-- A push that has room stores the encoding of its value. -/
theorem Value.push_eq {v : Value} (hv : v.Fits) {room : Int} (h : (v.bytes.length : Int) ≤ room)
    (dst : Mem) : v.push dst room = ((v.bytes.length : Int), dst.memcpy 0 v.bytes) := by
  cases v with
  | string text =>
    have hlen : ((stringBytes text).length : Int) ≤ room := h
    rw [length_stringBytes] at hlen
    exact rtmpAmf0PushString_eq (by omega) hv.1 dst
  | number pattern => exact rtmpAmf0PushNumber_eq h pattern dst
  | null => exact rtmpAmf0PushNull_eq h dst
  | objectBegin => exact rtmpAmf0PushObjectHeader_eq h dst
  | propName name =>
    have hlen : ((propNameBytes name).length : Int) ≤ room := h
    rw [length_propNameBytes] at hlen
    exact rtmpAmf0PushObjectPropName_eq (by omega) hv.2.1 dst

/-- A push that does not have the room returns -1 and stores nothing. -/
theorem Value.push_short {v : Value} {room : Int} (h : room < v.bytes.length) (dst : Mem) :
    v.push dst room = (-1, dst) := by
  cases v with
  | string text =>
    have hlen : room < ((stringBytes text).length : Int) := h
    rw [length_stringBytes] at hlen
    exact if_pos (Or.inl (by omega))
  | number pattern => exact if_pos h
  | null => exact if_pos h
  | objectBegin => exact if_pos h
  | propName name =>
    have hlen : room < ((propNameBytes name).length : Int) := h
    rw [length_propNameBytes] at hlen
    exact if_pos (Or.inl (by omega))

theorem pushAll_cons {v : Value} (hv : v.Fits) {room : Int} (h : (v.bytes.length : Int) ≤ room)
    (m : Mem) (off : Nat) (values : List Value) :
    pushAll m off room (v :: values) =
      (((v.bytes.length : Int)) ::
          (pushAll (m.memcpy off v.bytes) (off + v.bytes.length) (room - v.bytes.length) values).1,
        (pushAll (m.memcpy off v.bytes) (off + v.bytes.length) (room - v.bytes.length)
          values).2) := by
  have hpos : ¬((v.bytes.length : Int) < 0) := by omega
  rw [pushAll, v.push_eq hv h]
  dsimp only
  rw [if_neg hpos, Mem.splice_memcpy, Int.toNat_natCast]

theorem pushAll_short {v : Value} {room : Int} (h : room < v.bytes.length) (m : Mem) (off : Nat)
    (values : List Value) : pushAll m off room (v :: values) = ([-1], m) := by
  rw [pushAll, v.push_short h]
  dsimp only
  rw [if_pos (by decide), Mem.splice_shift]

/-- Pushes go through up to the first value that finds no room. -/
theorem pushAll_eq {before : List Value} (hbefore : ∀ v ∈ before, v.Fits) (after : List Value)
    {room : Int} (h : ((bytesOf before).length : Int) ≤ room) (m : Mem) (off : Nat) :
    pushAll m off room (before ++ after) =
      let rest := pushAll (m.memcpy off (bytesOf before)) (off + (bytesOf before).length)
        (room - (bytesOf before).length) after
      (before.map (fun v ↦ (v.bytes.length : Int)) ++ rest.1, rest.2) := by
  induction before generalizing m off room with
  | nil => simp [bytesOf]
  | cons v before ih =>
    have hbytes : bytesOf (v :: before) = v.bytes ++ bytesOf before := List.flatMap_cons
    rw [hbytes, List.length_append, Int.natCast_add] at h
    have hrest := ih (fun w hw ↦ hbefore w (List.mem_cons_of_mem _ hw))
      (show ((bytesOf before).length : Int) ≤ room - v.bytes.length by omega) (m.memcpy off v.bytes)
      (off + v.bytes.length)
    rw [Mem.memcpy_memcpy, ← hbytes] at hrest
    rw [List.cons_append, pushAll_cons (hbefore v List.mem_cons_self) (by omega), hrest, hbytes,
      List.length_append, Int.natCast_add, Nat.add_assoc, Int.sub_sub]
    rfl

/-! ### Popping -/

private theorem swap2Byte_swap2Byte {n : Nat} (h : n < 65536) : swap2Byte (swap2Byte n) = n := by
  have hdiv : n / 256 % 256 = n / 256 := Nat.mod_eq_of_lt (by omega)
  have hlow : (n % 256 * 256 + n / 256) % 256 = n / 256 := by omega
  have hhigh : (n % 256 * 256 + n / 256) / 256 % 256 = n % 256 := by omega
  unfold swap2Byte
  rw [hdiv, hlow, hhigh]
  omega

private theorem swap4Byte_swap4Byte {n : Nat} (h : n < 4294967296) :
    swap4Byte (swap4Byte n) = n := by
  have hlow := swap2Byte_lt (n % 65536)
  have hhigh := swap2Byte_lt (n / 65536 % 65536)
  have hmod : swap4Byte n % 65536 = swap2Byte (n / 65536 % 65536) := by
    unfold swap4Byte
    omega
  have hdiv : swap4Byte n / 65536 % 65536 = swap2Byte (n % 65536) := by
    unfold swap4Byte
    omega
  rw [swap4Byte, hmod, hdiv, swap2Byte_swap2Byte (by omega), swap2Byte_swap2Byte (by omega)]
  omega

/-- Swapping the bytes of a 64-bit value twice gives the value. -/
theorem swap8Byte_swap8Byte {n : Nat} (h : n < 18446744073709551616) :
    swap8Byte (swap8Byte n) = n := by
  have hlow := swap4Byte_lt (n % 4294967296)
  have hhigh := swap4Byte_lt (n / 4294967296 % 4294967296)
  have hmod : swap8Byte n % 4294967296 = swap4Byte (n / 4294967296 % 4294967296) := by
    unfold swap8Byte
    omega
  have hdiv : swap8Byte n / 4294967296 % 4294967296 = swap4Byte (n % 4294967296) := by
    unfold swap8Byte
    omega
  rw [swap8Byte, hmod, hdiv, swap4Byte_swap4Byte (by omega), swap4Byte_swap4Byte (by omega)]
  omega

theorem swap8Byte_lt (n : Nat) : swap8Byte n < 18446744073709551616 := by
  have hlow := swap4Byte_lt (n % 4294967296)
  have hhigh := swap4Byte_lt (n / 4294967296 % 4294967296)
  unfold swap8Byte
  omega

/-- The 64-bit value of eight bytes in memory. -/
def le64 (bytes : List UInt8) : Nat := bytes.foldr (fun b n ↦ n * 256 + b.toNat) 0

private theorem le64_le64Bytes {n : Nat} (h : n < 18446744073709551616) :
    le64 (le64Bytes n) = n := by
  simp only [le64, le64Bytes, le32Bytes, le16Bytes, List.cons_append, List.nil_append,
    List.foldr_cons, List.foldr_nil, UInt8.toNat_ofNat']
  omega

private theorem le64_lt (bytes : List UInt8) : le64 bytes < 256 ^ bytes.length := by
  induction bytes with
  | nil => decide
  | cons b bytes ih =>
    have hb := b.toNat_lt
    have hle : le64 (b :: bytes) = le64 bytes * 256 + b.toNat := rfl
    rw [hle, List.length_cons, Nat.pow_succ]
    omega

private theorem le64_inj {xs ys : List UInt8} (hlen : xs.length = ys.length)
    (h : le64 xs = le64 ys) : xs = ys := by
  induction xs generalizing ys with
  | nil => exact (List.eq_nil_of_length_eq_zero hlen.symm).symm
  | cons x xs ih =>
    cases ys with
    | nil => cases hlen
    | cons y ys =>
      have hx := x.toNat_lt
      have hy := y.toNat_lt
      have hboth : le64 xs * 256 + x.toNat = le64 ys * 256 + y.toNat := h
      have hbyte : x = y := UInt8.toNat_inj.1 (by omega)
      rw [hbyte, ih (Nat.succ.inj hlen) (by omega)]

/-- A byte of a window that is known. -/
private theorem byte_of_slice {m : Mem} {src : Nat} {bytes : List UInt8}
    (hm : m.slice src bytes.length = bytes) {i : Nat} (hi : i < bytes.length) :
    m (src + i) = bytes.getD i 0 := by
  rw [Mem.apply_of_slice m src _ hm i hi, List.getD_eq_getElem _ _ hi]

/-- A string is popped exactly where its encoding stands, if it fits the destination. -/
theorem poppedString_iff {dstSize : Int} {m : Mem} {src : Nat} {srcLen : Int} {s : List UInt8}
    {ret : Nat} :
    poppedString dstSize m src srcLen = some (s, ret) ↔
      s.length ≤ 65535 ∧ (s.length : Int) < dstSize ∧ ret = s.length + 3 ∧ (ret : Int) ≤ srcLen ∧
        m.slice src (s.length + 3) = stringBytes s := by
  constructor
  · intro h
    unfold poppedString at h
    split at h
    · cases h
    · next hshort =>
      dsimp only at h
      split at h
      · cases h
      · next hlong =>
        have hlt := be16_lt (m (src + 1)) (m (src + 2))
        cases h
        rw [Mem.length_slice]
        refine ⟨by omega, by omega, rfl, by omega, ?_⟩
        have htag : m src = 0x02 := by
          by_contra hne
          exact hshort (Or.inr (Or.inr hne))
        rw [stringBytes, Mem.length_slice, be16Bytes_be16, Nat.add_comm, Mem.slice_add, ← htag]
        rfl
  · rintro ⟨hlen, hdst, rfl, hsrc, hm⟩
    rw [← length_stringBytes] at hm
    have hsize := length_stringBytes s
    have h0 : m src = 0x02 := byte_of_slice hm (i := 0) (by omega)
    have h1 : m (src + 1) = UInt8.ofNat (s.length / 256) := byte_of_slice hm (i := 1) (by omega)
    have h2 : m (src + 2) = UInt8.ofNat s.length := byte_of_slice hm (i := 2) (by omega)
    have htext : m.slice (src + 3) s.length = s :=
      ((Mem.slice_append_iff m src (0x02 :: be16Bytes s.length) s).1 hm).2
    unfold poppedString
    rw [h0, h1, h2, be16_be16Bytes _ (by omega),
      if_neg (by simp only [ne_eq, not_true_eq_false, or_false]; omega)]
    dsimp only
    rw [htext, if_neg (by omega)]

/-- A number is popped exactly where its encoding stands. -/
theorem poppedNumber_iff {m : Mem} {src : Nat} {srcLen : Int} {pattern : Nat} :
    poppedNumber m src srcLen = some pattern ↔
      pattern < 18446744073709551616 ∧ 9 ≤ srcLen ∧ m.slice src 9 = numberBytes pattern := by
  have hsplit : m.slice src 9 = m src :: m.slice (src + 1) 8 := Mem.slice_succ m src 8
  unfold poppedNumber numberBytes
  rw [hsplit, ← le64Bytes_swap8Byte]
  constructor
  · intro h
    split at h
    · cases h
    · next hshort =>
      have htag : m src = 0x00 := by
        by_contra hne
        exact hshort (Or.inr hne)
      have hlt := le64_lt (m.slice (src + 1) 8)
      rw [Mem.length_slice] at hlt
      have hpattern : pattern = swap8Byte (le64 (m.slice (src + 1) 8)) := (Option.some.inj h).symm
      rw [hpattern]
      refine ⟨swap8Byte_lt _, by omega, ?_⟩
      rw [htag, swap8Byte_swap8Byte hlt]
      exact congrArg _ (le64_inj (Mem.length_slice _ _ _) (le64_le64Bytes hlt).symm)
  · rintro ⟨hpattern, hlen, hm⟩
    obtain ⟨htag, hbytes⟩ := List.cons.inj hm
    rw [htag, hbytes, if_neg fun h ↦ h.elim (Int.not_lt.2 hlen) fun hne ↦ hne rfl]
    exact congrArg some ((congrArg swap8Byte (le64_le64Bytes (swap8Byte_lt pattern))).trans
      (swap8Byte_swap8Byte hpattern))

/-- A property name is popped exactly where its encoding stands, if it fits the destination. -/
theorem poppedPropName_iff {dstSize : Int} {m : Mem} {src : Nat} {srcLen : Int}
    {name : List UInt8} {ret : Nat} (hret : ret ≠ 0) :
    poppedPropName dstSize m src srcLen = some (name, ret) ↔
      name ≠ [] ∧ name.length ≤ 65535 ∧ (name.length : Int) < dstSize ∧ ret = name.length + 2 ∧
        (ret : Int) ≤ srcLen ∧ m.slice src (name.length + 2) = propNameBytes name := by
  constructor
  · intro h
    unfold poppedPropName at h
    split at h
    · cases h
    · dsimp only at h
      split at h
      · cases h
        exact absurd rfl hret
      · next hempty =>
        split at h
        · cases h
        · next hlong =>
          have hlt := be16_lt (m src) (m (src + 1))
          cases h
          rw [Mem.length_slice]
          refine ⟨?_, by omega, by omega, rfl, by omega, ?_⟩
          · intro hnil
            have hlen := congrArg List.length hnil
            rw [Mem.length_slice] at hlen
            exact hempty hlen
          · rw [propNameBytes, Mem.length_slice, be16Bytes_be16, Nat.add_comm, Mem.slice_add]
            rfl
  · rintro ⟨hne, hlen, hdst, rfl, hsrc, hm⟩
    rw [← length_propNameBytes] at hm
    have hsize := length_propNameBytes name
    have h0 : m src = UInt8.ofNat (name.length / 256) := byte_of_slice hm (i := 0) (by omega)
    have h1 : m (src + 1) = UInt8.ofNat name.length := byte_of_slice hm (i := 1) (by omega)
    have hname : m.slice (src + 2) name.length = name :=
      ((Mem.slice_append_iff m src (be16Bytes name.length) name).1 hm).2
    have hpos : name.length ≠ 0 := fun hz ↦ hne (List.eq_nil_of_length_eq_zero hz)
    unfold poppedPropName
    rw [h0, h1, be16_be16Bytes _ (by omega), if_neg (by omega)]
    dsimp only
    rw [hname, if_neg hpos, if_neg (by omega)]

/-- A value is popped from its encoding. -/
theorem Target.pop_eq {v : Value} (hv : v.Fits) {target : Target} (ht : v.FitsIn target) {m : Mem}
    {src : Nat} (hm : m.slice src v.bytes.length = v.bytes) {srcLen : Int}
    (h : (v.bytes.length : Int) ≤ srcLen) :
    (target.pop src srcLen : Access ε _).run m = (.ok (some (v, v.bytes.length)), m) := by
  obtain ⟨hkind, hdst⟩ := ht
  unfold Target.pop
  rw [hkind]
  cases v with
  | string text =>
    have hsize : (Value.string text).bytes.length = text.length + 3 := length_stringBytes text
    rw [hsize] at hm h ⊢
    refine (Access.run_bind_ok (run_rtmpAmf0PopString _ _ _ _) _).trans ?_
    rw [poppedString_iff.2 ⟨hv.1, hdst, rfl, h, hm⟩]
    rfl
  | number pattern =>
    refine (Access.run_bind_ok (run_rtmpAmf0PopNumber _ _ _) _).trans ?_
    rw [poppedNumber_iff.2 ⟨hv, h, hm⟩]
    rfl
  | null =>
    have hpopped : poppedNull m src srcLen = true :=
      decide_eq_true ⟨h, byte_of_slice hm (i := 0) (by decide)⟩
    refine (Access.run_bind_ok (run_rtmpAmf0PopNull _ _ _) _).trans ?_
    rw [hpopped]
    rfl
  | objectBegin =>
    have hpopped : poppedObjectBegin m src srcLen = true :=
      decide_eq_true ⟨h, byte_of_slice hm (i := 0) (by decide)⟩
    refine (Access.run_bind_ok (run_rtmpAmf0PopObjectBegin _ _ _) _).trans ?_
    rw [hpopped]
    rfl
  | propName name =>
    have hsize : (Value.propName name).bytes.length = name.length + 2 := length_propNameBytes name
    rw [hsize] at hm h ⊢
    refine (Access.run_bind_ok (run_rtmpAmf0PopObjectPropName _ _ _ _) _).trans ?_
    rw [(poppedPropName_iff (Nat.succ_ne_zero _)).2 ⟨hv.1, hv.2.1, hdst, rfl, h, hm⟩]
    rfl

/-- The values of a row are popped from their encodings. -/
theorem popAll_eq {values : List Value} (hvalues : ∀ v ∈ values, v.Fits) {targets : List Target}
    (ht : List.Forall₂ Value.FitsIn values targets) {m : Mem} {src : Nat}
    (hm : m.slice src (bytesOf values).length = bytesOf values) {srcLen : Int}
    (h : ((bytesOf values).length : Int) ≤ srcLen) :
    (popAll src srcLen targets : Access ε _).run m =
      (.ok (some (values.map fun v ↦ (v, v.bytes.length))), m) := by
  induction ht generalizing src srcLen with
  | nil => rfl
  | @cons v target values targets hv _ ih =>
    have hbytes : bytesOf (v :: values) = v.bytes ++ bytesOf values := List.flatMap_cons
    rw [hbytes] at hm h
    obtain ⟨hfirst, hrest⟩ := (Mem.slice_append_iff m src _ _).1 hm
    rw [List.length_append, Int.natCast_add] at h
    have hpop := Target.pop_eq (ε := ε) (hvalues v List.mem_cons_self) hv hfirst
      (show (v.bytes.length : Int) ≤ srcLen by omega)
    have hnext := ih (fun w hw ↦ hvalues w (List.mem_cons_of_mem _ hw)) hrest
      (show ((bytesOf values).length : Int) ≤ srcLen - v.bytes.length by omega)
    refine (Access.run_bind_ok hpop _).trans ?_
    refine (Access.run_bind_ok hnext _).trans ?_
    rfl

/-! ### A row of values -/

/-- A row that does not fit has a first value that does not. -/
private theorem exists_short {values : List Value} {room : Nat}
    (h : room < (bytesOf values).length) :
    ∃ before v after, values = before ++ v :: after ∧ (bytesOf before).length ≤ room ∧
      room - (bytesOf before).length < v.bytes.length := by
  induction values generalizing room with
  | nil => exact absurd h (Nat.not_lt_zero room)
  | cons v values ih =>
    have hbytes (vs : List Value) : (bytesOf (v :: vs)).length =
        v.bytes.length + (bytesOf vs).length := by
      simp [bytesOf]
    by_cases hv : room < v.bytes.length
    · exact ⟨[], v, values, rfl, Nat.zero_le _, hv⟩
    · rw [hbytes] at h
      obtain ⟨before, w, after, rfl, hbefore, hshort⟩ := ih
        (show room - v.bytes.length < (bytesOf values).length by omega)
      refine ⟨v :: before, w, after, rfl, ?_, ?_⟩
      · rw [hbytes]
        omega
      · rw [hbytes]
        omega

/-- Either all values of a row are pushed, and then they are popped again and each takes the bytes
that its push has stored; or a push returns -1, where the room left is smaller than its encoding,
and only the values in front of it are stored. -/
theorem popAll_pushAll {values : List Value} (hvalues : ∀ v ∈ values, v.Fits) (m : Mem)
    (off room : Nat) :
    ((bytesOf values).length ≤ room ∧
      pushAll m off room values =
        (values.map fun v ↦ (v.bytes.length : Int), m.memcpy off (bytesOf values)) ∧
      ∀ targets, List.Forall₂ Value.FitsIn values targets →
        ∀ srcLen : Int, ((bytesOf values).length : Int) ≤ srcLen →
          (popAll off srcLen targets : Access ε _).run (pushAll m off room values).2 =
            (.ok (some (values.map fun v ↦ (v, v.bytes.length))),
              (pushAll m off room values).2)) ∨
    ∃ before v after, values = before ++ v :: after ∧
      (bytesOf before).length ≤ room ∧ room - (bytesOf before).length < v.bytes.length ∧
      pushAll m off room values =
        (before.map (fun v ↦ (v.bytes.length : Int)) ++ [-1],
          m.memcpy off (bytesOf before)) := by
  by_cases hroom : (bytesOf values).length ≤ room
  · left
    have hpush := pushAll_eq hvalues [] (Int.ofNat_le.2 hroom) m off
    rw [List.append_nil] at hpush
    have hpushed : pushAll m off room values =
        (values.map fun v ↦ (v.bytes.length : Int), m.memcpy off (bytesOf values)) := by
      rw [hpush]
      exact Prod.ext (List.append_nil _) rfl
    refine ⟨hroom, hpushed, fun targets ht srcLen hlen ↦ ?_⟩
    rw [hpushed]
    exact popAll_eq hvalues ht (Mem.slice_memcpy_same _ _ _) hlen
  · right
    obtain ⟨before, v, after, rfl, hbefore, hshort⟩ := exists_short (Nat.not_le.1 hroom)
    have hpush := pushAll_eq (fun w hw ↦ hvalues w (List.mem_append_left _ hw)) (v :: after)
      (Int.ofNat_le.2 hbefore) m off
    have hlast := pushAll_short
      (show (room : Int) - (bytesOf before).length < v.bytes.length by omega)
      (m.memcpy off (bytesOf before)) (off + (bytesOf before).length) after
    refine ⟨before, v, after, rfl, hbefore, hshort, ?_⟩
    rw [hpush, hlast]

/-- A name and its number, in a buffer that just holds them. -/
theorem popAll_pushAll_two :
    let values : List Value := [.propName [0x66, 0x70, 0x73], .number 4629137466983448576]
    (popAll 0 14 [⟨.propName, 4⟩, ⟨.number, 8⟩] : Access Unit _).run
        (pushAll (fun _ ↦ 0xff) 0 14 values).2 =
      (.ok (some [(.propName [0x66, 0x70, 0x73], 5), (.number 4629137466983448576, 9)]),
        (pushAll (fun _ ↦ 0xff) 0 14 values).2) := by
  intro values
  have hvalues : ∀ v ∈ values, v.Fits := by
    intro v hv
    rcases List.mem_cons.1 hv with rfl | hv
    · exact ⟨by decide, by decide, by decide⟩
    · rw [List.mem_singleton.1 hv]
      exact (by decide : 4629137466983448576 < 18446744073709551616)
  rcases popAll_pushAll (ε := Unit) hvalues (fun _ ↦ 0xff) 0 14 with ⟨-, -, hpop⟩ | hshort
  · exact hpop [⟨.propName, 4⟩, ⟨.number, 8⟩]
      (.cons ⟨rfl, by decide⟩ (.cons ⟨rfl, by decide⟩ .nil)) 14 (by decide)
  · obtain ⟨before, v, after, hsplit, hbefore, hlen, -⟩ := hshort
    have hall := congrArg (fun vs ↦ (bytesOf vs).length) hsplit
    have htotal : (bytesOf values).length = 14 := rfl
    simp only [bytesOf, List.flatMap_append, List.flatMap_cons,
      List.length_append] at hall hbefore hlen htotal
    omega

end RtmpRecv.Amf0
