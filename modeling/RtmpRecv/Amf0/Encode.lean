import RtmpRecv.Amf0.Push

/-!
# AMF0 values

Library `Amf0`. The encodings of AMF0 values as byte lists, and what the push functions store in
zeroed memory with room for them.
-/

namespace RtmpRecv.Amf0
open RtmpRecv.Base

/-- A string of at most 65535 bytes. -/
def stringBytes (s : List UInt8) : List UInt8 := 0x02 :: (be16Bytes s.length ++ s)

/-- A number, as a 64-bit pattern. -/
def numberBytes (value : Nat) : List UInt8 :=
  0x00 :: (be32Bytes (value / 4294967296) ++ be32Bytes (value % 4294967296))

/-- The name of a property of an object. -/
def propNameBytes (name : List UInt8) : List UInt8 := be16Bytes name.length ++ name

/-- A boolean. -/
def boolBytes (value : Int) : List UInt8 := [0x01, if value ≠ 0 then 1 else 0]

@[simp] theorem length_stringBytes (s : List UInt8) : (stringBytes s).length = s.length + 3 := by
  simp only [stringBytes, List.length_cons, List.length_append, length_be16Bytes]
  omega

@[simp] theorem length_numberBytes (value : Nat) : (numberBytes value).length = 9 := rfl

@[simp] theorem length_propNameBytes (name : List UInt8) :
    (propNameBytes name).length = name.length + 2 := by
  simp [propNameBytes, length_be16Bytes, Nat.add_comm]

@[simp] theorem length_boolBytes (value : Int) : (boolBytes value).length = 2 := rfl

/-! ### Byte order -/

private theorem ofNat_congr {a b : Nat} (h : a % 256 = b % 256) : UInt8.ofNat a = UInt8.ofNat b :=
  UInt8.toNat_inj.1 (by simpa using h)

theorem swap2Byte_lt (n : Nat) : swap2Byte n < 65536 := by
  unfold swap2Byte
  omega

theorem le16Bytes_swap2Byte (n : Nat) : le16Bytes (swap2Byte n) = be16Bytes n := by
  have hhigh : n / 256 % 256 < 256 := Nat.mod_lt _ (by decide)
  have hlow : swap2Byte n % 256 = n / 256 % 256 := by
    unfold swap2Byte
    omega
  have hdiv : swap2Byte n / 256 = n % 256 := by
    unfold swap2Byte
    generalize n / 256 % 256 = b at hhigh ⊢
    omega
  unfold le16Bytes be16Bytes
  congr 1
  · exact ofNat_congr hlow
  · rw [hdiv]
    congr 1
    exact ofNat_congr (Nat.mod_mod n 256)

private theorem be16Bytes_congr {a b : Nat} (h : a % 65536 = b % 65536) :
    be16Bytes a = be16Bytes b := by
  unfold be16Bytes
  congr 1
  · exact ofNat_congr (by omega)
  · congr 1
    exact ofNat_congr (by omega)

private theorem le16Bytes_congr {a b : Nat} (h : a % 65536 = b % 65536) :
    le16Bytes a = le16Bytes b := by
  unfold le16Bytes
  congr 1
  · exact ofNat_congr (by omega)
  · congr 1
    exact ofNat_congr (by omega)

/-- A 32-bit value is two 16-bit ones, the upper one first. -/
theorem be32Bytes_halves (n : Nat) : be32Bytes n = be16Bytes (n / 65536) ++ be16Bytes n := by
  unfold be32Bytes be16Bytes
  rw [Nat.div_div_eq_div_mul]
  rfl

theorem swap4Byte_lt (n : Nat) : swap4Byte n < 4294967296 := by
  have hlow := swap2Byte_lt (n % 65536)
  have hhigh := swap2Byte_lt (n / 65536 % 65536)
  unfold swap4Byte
  omega

theorem le32Bytes_swap4Byte (n : Nat) : le32Bytes (swap4Byte n) = be32Bytes n := by
  have hhigh := swap2Byte_lt (n / 65536 % 65536)
  have hlow : swap4Byte n % 65536 = swap2Byte (n / 65536 % 65536) % 65536 := by
    unfold swap4Byte
    omega
  have hdiv : swap4Byte n / 65536 = swap2Byte (n % 65536) := by
    unfold swap4Byte
    omega
  have hmod : n / 65536 % 65536 % 65536 = n / 65536 % 65536 := by omega
  have hmod' : n % 65536 % 65536 = n % 65536 := by omega
  unfold le32Bytes
  rw [le16Bytes_congr hlow, hdiv, le16Bytes_swap2Byte, le16Bytes_swap2Byte, be32Bytes_halves,
    be16Bytes_congr hmod, be16Bytes_congr hmod']

private theorem be32Bytes_congr {a b : Nat} (h : a % 4294967296 = b % 4294967296) :
    be32Bytes a = be32Bytes b := by
  have hlow : a % 65536 = b % 65536 := by omega
  have hhigh : a / 65536 % 65536 = b / 65536 % 65536 := by omega
  rw [be32Bytes_halves, be32Bytes_halves, be16Bytes_congr hlow, be16Bytes_congr hhigh]

theorem le64Bytes_swap8Byte (n : Nat) :
    le64Bytes (swap8Byte n) = be32Bytes (n / 4294967296) ++ be32Bytes (n % 4294967296) := by
  have hhigh := swap4Byte_lt (n / 4294967296 % 4294967296)
  have hdiv : swap8Byte n / 4294967296 = swap4Byte (n % 4294967296) := by
    unfold swap8Byte
    omega
  have hlow : le32Bytes (swap8Byte n) = le32Bytes (swap4Byte (n / 4294967296 % 4294967296)) := by
    have h16 : swap8Byte n % 65536 = swap4Byte (n / 4294967296 % 4294967296) % 65536 := by
      unfold swap8Byte
      omega
    have h32 : swap8Byte n / 65536 % 65536 =
        swap4Byte (n / 4294967296 % 4294967296) / 65536 % 65536 := by
      unfold swap8Byte
      omega
    unfold le32Bytes
    rw [le16Bytes_congr h16, le16Bytes_congr h32]
  have hmod : n / 4294967296 % 4294967296 % 4294967296 = n / 4294967296 % 4294967296 := by omega
  unfold le64Bytes
  rw [hlow, hdiv, le32Bytes_swap4Byte, le32Bytes_swap4Byte, be32Bytes_congr hmod]

/-! ### Pushes -/

theorem rtmpAmf0PushString_eq {s : List UInt8} {room : Int} (h : (s.length : Int) + 3 ≤ room)
    (hs : s.length ≤ 0xffff) (dst : Mem) :
    rtmpAmf0PushString dst room s =
      (((stringBytes s).length : Int), dst.memcpy 0 (stringBytes s)) := by
  have hlen : (dst.memcpy 0 [0x02]).memcpy 1 (be16Bytes s.length) =
      dst.memcpy 0 (0x02 :: be16Bytes s.length) := Mem.memcpy_memcpy dst 0 [0x02] _
  have hstr : (dst.memcpy 0 (0x02 :: be16Bytes s.length)).memcpy 3 s =
      dst.memcpy 0 (stringBytes s) := Mem.memcpy_memcpy dst 0 (0x02 :: be16Bytes s.length) s
  unfold rtmpAmf0PushString
  dsimp only
  rw [if_neg (by omega), le16Bytes_swap2Byte, Mem.set_eq_memcpy, hlen, hstr, length_stringBytes]
  rfl

theorem rtmpAmf0PushNumber_eq {room : Int} (h : 9 ≤ room) (value : Nat) (dst : Mem) :
    rtmpAmf0PushNumber dst room value =
      (((numberBytes value).length : Int), dst.memcpy 0 (numberBytes value)) := by
  unfold rtmpAmf0PushNumber
  rw [if_neg (by omega), le64Bytes_swap8Byte, Mem.set_eq_memcpy]
  exact congrArg (Prod.mk 9) (Mem.memcpy_memcpy dst 0 [0x00] _)

theorem rtmpAmf0PushObjectPropName_eq {name : List UInt8} {room : Int}
    (h : (name.length : Int) + 2 ≤ room) (hn : name.length ≤ 0xffff) (dst : Mem) :
    rtmpAmf0PushObjectPropName dst room name =
      (((propNameBytes name).length : Int), dst.memcpy 0 (propNameBytes name)) := by
  have hname : (dst.memcpy 0 (be16Bytes name.length)).memcpy 2 name =
      dst.memcpy 0 (propNameBytes name) := Mem.memcpy_memcpy dst 0 (be16Bytes name.length) name
  unfold rtmpAmf0PushObjectPropName
  dsimp only
  rw [if_neg (by omega), le16Bytes_swap2Byte, hname, length_propNameBytes]
  rfl

theorem rtmpAmf0PushObjectHeader_eq {room : Int} (h : 1 ≤ room) (dst : Mem) :
    rtmpAmf0PushObjectHeader dst room = (1, dst.memcpy 0 [0x03]) := by
  unfold rtmpAmf0PushObjectHeader
  rw [if_neg (by omega), Mem.set_eq_memcpy]

theorem rtmpAmf0PushObjectEnder_eq {room : Int} (h : 3 ≤ room) (dst : Mem) :
    rtmpAmf0PushObjectEnder dst room = (3, dst.memcpy 0 [0x00, 0x00, 0x09]) :=
  if_neg (by omega)

theorem rtmpAmf0PushBool_eq {room : Int} (h : 2 ≤ room) (value : Int) (dst : Mem) :
    rtmpAmf0PushBool dst room value = (2, dst.memcpy 0 (boolBytes value)) := by
  unfold rtmpAmf0PushBool
  rw [if_neg (by omega), Mem.set_eq_memcpy dst]
  exact congrArg (Prod.mk 2) (Mem.memcpy_set dst 0 [0x01] _)

theorem rtmpAmf0PushNull_eq {room : Int} (h : 1 ≤ room) (dst : Mem) :
    rtmpAmf0PushNull dst room = (1, dst.memcpy 0 [0x05]) := by
  unfold rtmpAmf0PushNull
  rw [if_neg (by omega), Mem.set_eq_memcpy]

/-! ### Pushes into zeroed memory -/

private theorem push_zeroed {f : Mem → Int × Mem} {ret : Int} {bytes : List UInt8}
    (h : ∀ dst, f dst = (ret, dst.memcpy 0 bytes)) :
    f (Mem.ofList []) = (ret, Mem.ofList bytes) :=
  (h _).trans (congrArg (Prod.mk ret) (Mem.memcpy_ofList [] bytes))

/-- A push into zeroed memory stores the bytes of a value. -/
theorem push_string {s : List UInt8} {room : Int} (h : (s.length : Int) + 3 ≤ room)
    (hs : s.length ≤ 0xffff) :
    rtmpAmf0PushString (Mem.ofList []) room s =
      (((stringBytes s).length : Int), Mem.ofList (stringBytes s)) :=
  push_zeroed fun dst ↦ rtmpAmf0PushString_eq h hs dst

theorem push_number {value : Nat} {room : Int} (h : 9 ≤ room) :
    rtmpAmf0PushNumber (Mem.ofList []) room value =
      (((numberBytes value).length : Int), Mem.ofList (numberBytes value)) :=
  push_zeroed fun dst ↦ rtmpAmf0PushNumber_eq h value dst

theorem push_propName {name : List UInt8} {room : Int} (h : (name.length : Int) + 2 ≤ room)
    (hn : name.length ≤ 0xffff) :
    rtmpAmf0PushObjectPropName (Mem.ofList []) room name =
      (((propNameBytes name).length : Int), Mem.ofList (propNameBytes name)) :=
  push_zeroed fun dst ↦ rtmpAmf0PushObjectPropName_eq h hn dst

theorem push_objectHeader {room : Int} (h : 1 ≤ room) :
    rtmpAmf0PushObjectHeader (Mem.ofList []) room = (1, Mem.ofList [0x03]) :=
  push_zeroed fun dst ↦ rtmpAmf0PushObjectHeader_eq h dst

theorem push_objectEnder {room : Int} (h : 3 ≤ room) :
    rtmpAmf0PushObjectEnder (Mem.ofList []) room = (3, Mem.ofList [0x00, 0x00, 0x09]) :=
  push_zeroed fun dst ↦ rtmpAmf0PushObjectEnder_eq h dst

theorem push_bool {room : Int} (h : 2 ≤ room) (value : Int) :
    rtmpAmf0PushBool (Mem.ofList []) room value = (2, Mem.ofList (boolBytes value)) :=
  push_zeroed fun dst ↦ rtmpAmf0PushBool_eq h value dst

theorem push_null {room : Int} (h : 1 ≤ room) :
    rtmpAmf0PushNull (Mem.ofList []) room = (1, Mem.ofList [0x05]) :=
  push_zeroed fun dst ↦ rtmpAmf0PushNull_eq h dst

end RtmpRecv.Amf0
