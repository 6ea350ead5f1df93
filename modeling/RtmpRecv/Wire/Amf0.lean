import RtmpRecv.Base.Mem

/-!
# AMF0 values

Library `Wire`. The values of the AMF0 format that a command message is made of, how they are
written, and a reader for them. An object is a row of named values; an empty name with `0x09`
behind it ends the row. A number is kept as its 64-bit pattern. Nothing here is translated from the
client.
-/

namespace RtmpRecv.Wire
open RtmpRecv.Base

mutual

/-- A value. -/
inductive Amf0Value where
  | number (pattern : Nat)
  | boolean (value : Bool)
  | string (text : List UInt8)
  | object (properties : Amf0Properties)
  | null

/-- The properties of an object, in the order in which they are written. -/
inductive Amf0Properties where
  | none
  | property (name : List UInt8) (value : Amf0Value) (rest : Amf0Properties)

end

/-- The properties with these names and values. -/
def Amf0Properties.ofList : List (List UInt8 × Amf0Value) → Amf0Properties
  | [] => .none
  | (name, value) :: rest => .property name value (ofList rest)

/-- Text behind its length. -/
def sizedBytes (text : List UInt8) : List UInt8 := be16Bytes text.length ++ text

/-- A 64-bit pattern, most significant byte first. -/
def doubleBytes (pattern : Nat) : List UInt8 :=
  be32Bytes (pattern / 4294967296) ++ be32Bytes (pattern % 4294967296)

mutual

/-- A value behind its type marker. -/
def Amf0Value.bytes : Amf0Value → List UInt8
  | .number pattern => 0x00 :: doubleBytes pattern
  | .boolean value => [0x01, if value then 1 else 0]
  | .string text => 0x02 :: sizedBytes text
  | .object properties => 0x03 :: properties.bytes
  | .null => [0x05]

/-- Each value behind its name, and the end of the object. -/
def Amf0Properties.bytes : Amf0Properties → List UInt8
  | .none => [0x00, 0x00, 0x09]
  | .property name value rest => sizedBytes name ++ (value.bytes ++ rest.bytes)

end

mutual

/-- The lengths and the patterns fit their fields, and no property is without a name. -/
def Amf0Value.Fits : Amf0Value → Prop
  | .number pattern => pattern < 18446744073709551616
  | .boolean _ => True
  | .string text => text.length ≤ 65535
  | .object properties => properties.Fits
  | .null => True

/-- What `Amf0Value.Fits` asks of the properties of an object. -/
def Amf0Properties.Fits : Amf0Properties → Prop
  | .none => True
  | .property name value rest =>
    name ≠ [] ∧ name.length ≤ 65535 ∧ value.Fits ∧ rest.Fits

end

/-! ### The reader -/

/-- The next `n` bytes. -/
def readBytes (n : Nat) (bytes : List UInt8) : Option (List UInt8 × List UInt8) :=
  if n ≤ bytes.length then some (bytes.take n, bytes.drop n) else none

/-- Text behind its length. -/
def readSized : List UInt8 → Option (List UInt8 × List UInt8)
  | a :: b :: rest => readBytes (be16 a b) rest
  | _ => none

/-- A 64-bit pattern. -/
def readDouble : List UInt8 → Option (Nat × List UInt8)
  | a :: b :: c :: d :: e :: f :: g :: h :: rest =>
    some (be32 a b c d * 4294967296 + be32 e f g h, rest)
  | _ => none

mutual

/-- The first value, and the bytes behind it. -/
def readValue : Nat → List UInt8 → Option (Amf0Value × List UInt8)
  | fuel + 1, marker :: rest =>
    if marker = 0x00 then (readDouble rest).map fun (pattern, rest) ↦ (.number pattern, rest)
    else if marker = 0x01 then
      (readBytes 1 rest).map fun (value, rest) ↦ (.boolean (value ≠ [0]), rest)
    else if marker = 0x02 then (readSized rest).map fun (text, rest) ↦ (.string text, rest)
    else if marker = 0x03 then
      (readProperties fuel rest).map fun (properties, rest) ↦ (.object properties, rest)
    else if marker = 0x05 then some (.null, rest)
    else none
  | _, _ => none

/-- The properties up to the end of their object, and the bytes behind it. -/
def readProperties : Nat → List UInt8 → Option (Amf0Properties × List UInt8)
  | fuel + 1, bytes => do
    let (name, bytes) ← readSized bytes
    if name = [] then
      match bytes with
      | 0x09 :: bytes => pure (.none, bytes)
      | _ => none
    else
      let (value, bytes) ← readValue fuel bytes
      let (rest, bytes) ← readProperties fuel bytes
      pure (.property name value rest, bytes)
  | 0, _ => none

end

/-- All values of a body: the whole body is read, and each value takes at least one byte. -/
def readValues : Nat → List UInt8 → Option (List Amf0Value)
  | fuel + 1, bytes =>
    if bytes = [] then some []
    else do
      let (value, bytes) ← readValue fuel bytes
      let values ← readValues fuel bytes
      pure (value :: values)
  | 0, _ => none

/-- The values of a message body with no byte left. -/
def readBody (body : List UInt8) : Option (List Amf0Value) := readValues (body.length + 1) body

/-! ### What is written is read -/

theorem readBytes_append (text rest : List UInt8) :
    readBytes text.length (text ++ rest) = some (text, rest) := by
  unfold readBytes
  simp

theorem readSized_append {text : List UInt8} (h : text.length ≤ 65535) (rest : List UInt8) :
    readSized (sizedBytes text ++ rest) = some (text, rest) := by
  have hlen := be16_be16Bytes text.length (by omega)
  rw [sizedBytes, List.append_assoc]
  change readBytes (be16 (UInt8.ofNat (text.length / 256)) (UInt8.ofNat text.length))
    (text ++ rest) = _
  rw [hlen]
  exact readBytes_append text rest

theorem readDouble_append {pattern : Nat} (h : pattern < 18446744073709551616)
    (rest : List UInt8) : readDouble (doubleBytes pattern ++ rest) = some (pattern, rest) := by
  have hhigh := be32_be32Bytes (pattern / 4294967296) (by omega)
  have hlow := be32_be32Bytes (pattern % 4294967296) (by omega)
  have hsum : pattern / 4294967296 * 4294967296 + pattern % 4294967296 = pattern :=
    Nat.div_add_mod' pattern 4294967296
  unfold doubleBytes be32Bytes
  dsimp only [List.cons_append, List.nil_append, readDouble]
  rw [hhigh, hlow, hsum]

mutual

/-- The rounds that the reader needs for a value. -/
def Amf0Value.depth : Amf0Value → Nat
  | .object properties => properties.depth + 1
  | _ => 1

/-- The rounds that the reader needs for the properties of an object. -/
def Amf0Properties.depth : Amf0Properties → Nat
  | .none => 1
  | .property _ value rest => value.depth + rest.depth + 1

end

mutual

/-- A value takes at least a byte for each round of the reader. -/
theorem Amf0Value.depth_le : ∀ v : Amf0Value, v.depth ≤ v.bytes.length
  | .number _ => by simp [Amf0Value.depth, Amf0Value.bytes]
  | .boolean _ => by simp [Amf0Value.depth, Amf0Value.bytes]
  | .string _ => by simp [Amf0Value.depth, Amf0Value.bytes]
  | .object properties => by
    have hrest := properties.depth_le
    rw [Amf0Value.depth, Amf0Value.bytes, List.length_cons]
    omega
  | .null => by simp [Amf0Value.depth, Amf0Value.bytes]

theorem Amf0Properties.depth_le : ∀ p : Amf0Properties, p.depth ≤ p.bytes.length
  | .none => by simp [Amf0Properties.depth, Amf0Properties.bytes]
  | .property name value rest => by
    have hvalue := value.depth_le
    have hrest := rest.depth_le
    rw [Amf0Properties.depth, Amf0Properties.bytes, List.length_append, List.length_append,
      sizedBytes, List.length_append, length_be16Bytes]
    omega

end

theorem Amf0Value.bytes_ne_nil (v : Amf0Value) : v.bytes ≠ [] := by
  cases v <;> simp [bytes]

mutual

/-- Reading is the inverse of writing, for each kind of value. -/
theorem readValue_bytes : ∀ (v : Amf0Value) (fuel : Nat) (rest : List UInt8),
    v.Fits → v.depth ≤ fuel → readValue fuel (v.bytes ++ rest) = some (v, rest)
  | .number pattern, fuel + 1, rest, hfits, _ => by
    have hread := readDouble_append hfits rest
    simp [Amf0Value.bytes, readValue, hread]
  | .boolean value, fuel + 1, rest, _, _ => by
    cases value <;> simp [Amf0Value.bytes, readValue, readBytes]
  | .string text, fuel + 1, rest, hfits, _ => by
    have hread := readSized_append hfits rest
    simp [Amf0Value.bytes, readValue, hread]
  | .object properties, fuel + 1, rest, hfits, hfuel => by
    have hread := readProperties_bytes properties fuel rest hfits (Nat.le_of_succ_le_succ hfuel)
    simp [Amf0Value.bytes, readValue, hread]
  | .null, fuel + 1, rest, _, _ => by
    simp [Amf0Value.bytes, readValue]
  | v, 0, _, _, hfuel => by
    cases v <;> simp [Amf0Value.depth] at hfuel

theorem readProperties_bytes : ∀ (p : Amf0Properties) (fuel : Nat) (rest : List UInt8),
    p.Fits → p.depth ≤ fuel → readProperties fuel (p.bytes ++ rest) = some (p, rest)
  | .none, fuel + 1, rest, _, _ => by
    simp [Amf0Properties.bytes, readProperties, readSized, readBytes, be16]
  | .property name value next, fuel + 1, rest, hfits, hfuel => by
    obtain ⟨hne, hlen, hvalue, hnext⟩ := hfits
    rw [Amf0Properties.depth] at hfuel
    have hname := readSized_append hlen (value.bytes ++ (next.bytes ++ rest))
    have hread := readValue_bytes value fuel (next.bytes ++ rest) hvalue (by omega)
    have hlater := readProperties_bytes next fuel rest hnext (by omega)
    rw [Amf0Properties.bytes, List.append_assoc, List.append_assoc]
    simp [readProperties, hname, hne, hread, hlater]
  | p, 0, _, _, hfuel => by
    cases p <;> simp [Amf0Properties.depth] at hfuel

end

/-- A row of values is read to its end. -/
theorem readValues_bytes (vs : List Amf0Value) (fuel : Nat) (hfits : ∀ v ∈ vs, v.Fits)
    (hfuel : (vs.flatMap Amf0Value.bytes).length < fuel) :
    readValues fuel (vs.flatMap Amf0Value.bytes) = some vs := by
  obtain ⟨fuel, rfl⟩ : ∃ k, fuel = k + 1 := ⟨fuel - 1, by omega⟩
  induction vs generalizing fuel with
  | nil => rfl
  | cons v vs ih =>
    rw [List.flatMap_cons] at hfuel ⊢
    rw [List.length_append] at hfuel
    have hdepth := v.depth_le
    have hpos := List.length_pos_iff.2 v.bytes_ne_nil
    have hread := readValue_bytes v fuel (vs.flatMap Amf0Value.bytes)
      (hfits v (List.mem_cons_self ..)) (by omega)
    have hlater := ih (fun w hw ↦ hfits w (List.mem_cons_of_mem _ hw)) (fuel - 1) (by omega)
    rw [Nat.sub_add_cancel (by omega)] at hlater
    have hne : v.bytes ++ vs.flatMap Amf0Value.bytes ≠ [] :=
      fun h ↦ v.bytes_ne_nil (List.append_eq_nil_iff.1 h).1
    rw [readValues, if_neg hne, hread]
    simp [hlater]

/-- The body that a row of values makes reads as these values. -/
theorem readBody_flatMap {vs : List Amf0Value} (hfits : ∀ v ∈ vs, v.Fits) :
    readBody (vs.flatMap Amf0Value.bytes) = some vs :=
  readValues_bytes vs _ hfits (Nat.lt_succ_self _)

end RtmpRecv.Wire
