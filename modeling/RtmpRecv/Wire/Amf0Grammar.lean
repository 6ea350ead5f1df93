import RtmpRecv.Wire.Amf0

/-!
# The grammar of AMF0

Library `Wire`. All values of the AMF0 format as byte strings: which byte strings are a complete
value, and which are the properties of an object with the three bytes that end it. No complete
value begins another one. The marker that switches to another version of the format is left out.
-/

namespace RtmpRecv.Wire
open RtmpRecv.Base

/-- The kinds of values. -/
inductive Amf0Kind where
  | number
  | boolean
  | string
  | object
  | null
  | undefined
  | reference
  | ecmaArray
  | strictArray
  | date
  | longString
  | unsupported
  | xmlDocument
  | typedObject
  deriving DecidableEq, Repr

/-- The type marker of a kind. -/
def Amf0Kind.marker : Amf0Kind → UInt8
  | .number => 0x00
  | .boolean => 0x01
  | .string => 0x02
  | .object => 0x03
  | .null => 0x05
  | .undefined => 0x06
  | .reference => 0x07
  | .ecmaArray => 0x08
  | .strictArray => 0x0a
  | .date => 0x0b
  | .longString => 0x0c
  | .unsupported => 0x0d
  | .xmlDocument => 0x0f
  | .typedObject => 0x10

/-- The bytes behind the marker, for the kinds that always have as many. -/
def Amf0Kind.size : Amf0Kind → Option Nat
  | .number => some 8
  | .boolean => some 1
  | .null => some 0
  | .undefined => some 0
  | .reference => some 2
  | .date => some 10
  | .unsupported => some 0
  | _ => none

/-- Text behind its 32-bit length. -/
def longSizedBytes (text : List UInt8) : List UInt8 := be32Bytes text.length ++ text

/-- The parts of a value: what is behind the marker of a kind, the properties of an object with
their end, and a number of values. -/
inductive Amf0Part where
  | payload (kind : Amf0Kind)
  | properties
  | values (count : Nat)

/-- The byte strings that are a part. -/
inductive IsPart : Amf0Part → List UInt8 → Prop
  | sized {kind : Amf0Kind} {bytes : List UInt8} (h : kind.size = some bytes.length) :
      IsPart (.payload kind) bytes
  | string {text : List UInt8} (h : text.length ≤ 65535) :
      IsPart (.payload .string) (sizedBytes text)
  | longString {text : List UInt8} (h : text.length < 4294967296) :
      IsPart (.payload .longString) (longSizedBytes text)
  | xmlDocument {text : List UInt8} (h : text.length < 4294967296) :
      IsPart (.payload .xmlDocument) (longSizedBytes text)
  | object {ps : List UInt8} (hps : IsPart .properties ps) : IsPart (.payload .object) ps
  | typedObject {name ps : List UInt8} (h : name.length ≤ 65535) (hps : IsPart .properties ps) :
      IsPart (.payload .typedObject) (sizedBytes name ++ ps)
  | ecmaArray {count ps : List UInt8} (h : count.length = 4) (hps : IsPart .properties ps) :
      IsPart (.payload .ecmaArray) (count ++ ps)
  | strictArray {count : Nat} {vs : List UInt8} (h : count < 4294967296)
      (hvs : IsPart (.values count) vs) : IsPart (.payload .strictArray) (be32Bytes count ++ vs)
  | ended : IsPart .properties [0x00, 0x00, 0x09]
  | property {name payload ps : List UInt8} {kind : Amf0Kind} (hne : name ≠ [])
      (h : name.length ≤ 65535) (hvalue : IsPart (.payload kind) payload)
      (hps : IsPart .properties ps) :
      IsPart .properties (sizedBytes name ++ kind.marker :: (payload ++ ps))
  | none : IsPart (.values 0) []
  | value {count : Nat} {payload vs : List UInt8} {kind : Amf0Kind}
      (hvalue : IsPart (.payload kind) payload) (hvs : IsPart (.values count) vs) :
      IsPart (.values (count + 1)) (kind.marker :: (payload ++ vs))

/-- A complete value. -/
def IsValue (bytes : List UInt8) : Prop :=
  ∃ kind payload, IsPart (.payload kind) payload ∧ bytes = kind.marker :: payload

/-- Properties, each a name that is not empty and a complete value, with the end of their object,
and any bytes behind them. -/
def IsBody (bytes : List UInt8) : Prop := ∃ ps more, IsPart .properties ps ∧ bytes = ps ++ more

/-! ### No part begins another one -/

/-- The kind of a marker. -/
def Amf0Kind.ofMarker (marker : UInt8) : Option Amf0Kind :=
  [number, boolean, string, object, null, undefined, reference, ecmaArray, strictArray, date,
    longString, unsupported, xmlDocument, typedObject].find? fun kind ↦ kind.marker = marker

theorem Amf0Kind.ofMarker_marker (kind : Amf0Kind) : ofMarker kind.marker = some kind := by
  cases kind <;> rfl

theorem Amf0Kind.marker_inj {kind kind' : Amf0Kind} (h : kind.marker = kind'.marker) :
    kind = kind' := by
  have hkind := congrArg ofMarker h
  rw [ofMarker_marker, ofMarker_marker] at hkind
  exact Option.some.inj hkind

theorem sizedBytes_append_inj {text text' x x' : List UInt8} (h : text.length ≤ 65535)
    (h' : text'.length ≤ 65535) (hx : sizedBytes text ++ x = sizedBytes text' ++ x') :
    text = text' ∧ x = x' := by
  have hread := readSized_append h x
  rw [hx, readSized_append h' x'] at hread
  cases hread
  exact ⟨rfl, rfl⟩

theorem be32Bytes_append_inj {n n' : Nat} {x x' : List UInt8} (h : n < 4294967296)
    (h' : n' < 4294967296) (hx : be32Bytes n ++ x = be32Bytes n' ++ x') : n = n' ∧ x = x' := by
  obtain ⟨hbytes, hrest⟩ := List.append_inj hx rfl
  obtain ⟨h0, h1, h2, h3, -⟩ : _ ∧ _ ∧ _ ∧ _ ∧ True := by simpa [be32Bytes] using hbytes
  refine ⟨?_, hrest⟩
  rw [← be32_be32Bytes n h, ← be32_be32Bytes n' h', h0, h1, h2, h3]

theorem longSizedBytes_append_inj {text text' x x' : List UInt8} (h : text.length < 4294967296)
    (h' : text'.length < 4294967296) (hx : longSizedBytes text ++ x = longSizedBytes text' ++ x') :
    text = text' ∧ x = x' := by
  unfold longSizedBytes at hx
  rw [List.append_assoc, List.append_assoc] at hx
  obtain ⟨hlen, hrest⟩ := be32Bytes_append_inj h h' hx
  exact List.append_inj hrest hlen

/-- A name that is not empty is not where an object ends. -/
theorem sizedBytes_append_ne_end {name x x' : List UInt8} (hne : name ≠ [])
    (h : name.length ≤ 65535) : sizedBytes name ++ x ≠ 0x00 :: 0x00 :: x' := by
  intro hx
  have hread := readSized_append h x
  rw [hx] at hread
  have hempty : readSized (0x00 :: 0x00 :: x') = some ([], x') := by
    simp [readSized, readBytes, be16]
  rw [hempty] at hread
  cases hread
  exact hne rfl

/-- Of two parts of one kind with bytes behind them, neither is longer. -/
theorem IsPart.append_inj {part : Amf0Part} {bytes bytes' x x' : List UInt8} (h : IsPart part bytes)
    (h' : IsPart part bytes') (hx : bytes ++ x = bytes' ++ x') : bytes = bytes' ∧ x = x' := by
  induction h generalizing bytes' x x' with
  | sized hsize =>
    cases h' with
    | sized hsize' => exact List.append_inj hx (Option.some.inj (hsize.symm.trans hsize'))
    | _ => cases hsize
  | string h =>
    cases h' with
    | sized hsize => cases hsize
    | string h' =>
      obtain ⟨rfl, hrest⟩ := sizedBytes_append_inj h h' hx
      exact ⟨rfl, hrest⟩
  | longString h =>
    cases h' with
    | sized hsize => cases hsize
    | longString h' =>
      obtain ⟨rfl, hrest⟩ := longSizedBytes_append_inj h h' hx
      exact ⟨rfl, hrest⟩
  | xmlDocument h =>
    cases h' with
    | sized hsize => cases hsize
    | xmlDocument h' =>
      obtain ⟨rfl, hrest⟩ := longSizedBytes_append_inj h h' hx
      exact ⟨rfl, hrest⟩
  | object _ ih =>
    cases h' with
    | sized hsize => cases hsize
    | object hps' => exact ih hps' hx
  | typedObject h _ ih =>
    cases h' with
    | sized hsize => cases hsize
    | typedObject h' hps' =>
      rw [List.append_assoc, List.append_assoc] at hx
      obtain ⟨rfl, hrest⟩ := sizedBytes_append_inj h h' hx
      obtain ⟨rfl, hmore⟩ := ih hps' hrest
      exact ⟨rfl, hmore⟩
  | ecmaArray h _ ih =>
    cases h' with
    | sized hsize => cases hsize
    | ecmaArray h' hps' =>
      rw [List.append_assoc, List.append_assoc] at hx
      obtain ⟨rfl, hrest⟩ := List.append_inj hx (h.trans h'.symm)
      obtain ⟨rfl, hmore⟩ := ih hps' hrest
      exact ⟨rfl, hmore⟩
  | strictArray h _ ih =>
    cases h' with
    | sized hsize => cases hsize
    | strictArray h' hvs' =>
      rw [List.append_assoc, List.append_assoc] at hx
      obtain ⟨rfl, hrest⟩ := be32Bytes_append_inj h h' hx
      obtain ⟨rfl, hmore⟩ := ih hvs' hrest
      exact ⟨rfl, hmore⟩
  | ended =>
    cases h' with
    | ended => exact ⟨rfl, List.append_cancel_left hx⟩
    | property hne h' _ _ =>
      rw [List.append_assoc] at hx
      exact absurd hx.symm (sizedBytes_append_ne_end hne h')
  | property hne h _ _ ihvalue ihps =>
    cases h' with
    | ended =>
      rw [List.append_assoc] at hx
      exact absurd hx (sizedBytes_append_ne_end hne h)
    | property hne' h' hvalue' hps' =>
      rw [List.append_assoc, List.append_assoc] at hx
      obtain ⟨rfl, hrest⟩ := sizedBytes_append_inj h h' hx
      obtain ⟨hmarker, hbehind⟩ := List.cons.inj hrest
      obtain rfl := Amf0Kind.marker_inj hmarker
      change _ ++ _ ++ x = _ ++ _ ++ x' at hbehind
      rw [List.append_assoc, List.append_assoc] at hbehind
      obtain ⟨rfl, hnext⟩ := ihvalue hvalue' hbehind
      obtain ⟨rfl, hmore⟩ := ihps hps' hnext
      exact ⟨rfl, hmore⟩
  | none =>
    cases h' with
    | none => exact ⟨rfl, hx⟩
  | value _ _ ihvalue ihvs =>
    cases h' with
    | value hvalue' hvs' =>
      obtain ⟨hmarker, hbehind⟩ := List.cons.inj hx
      obtain rfl := Amf0Kind.marker_inj hmarker
      change _ ++ _ ++ x = _ ++ _ ++ x' at hbehind
      rw [List.append_assoc, List.append_assoc] at hbehind
      obtain ⟨rfl, hnext⟩ := ihvalue hvalue' hbehind
      obtain ⟨rfl, hmore⟩ := ihvs hvs' hnext
      exact ⟨rfl, hmore⟩

/-- No complete value begins another one. -/
theorem IsValue.append_inj {bytes bytes' x x' : List UInt8} (h : IsValue bytes)
    (h' : IsValue bytes') (hx : bytes ++ x = bytes' ++ x') : bytes = bytes' ∧ x = x' := by
  obtain ⟨kind, payload, hpart, rfl⟩ := h
  obtain ⟨kind', payload', hpart', rfl⟩ := h'
  obtain ⟨hmarker, hbehind⟩ := List.cons.inj hx
  obtain rfl := Amf0Kind.marker_inj hmarker
  obtain ⟨rfl, hmore⟩ := hpart.append_inj hpart' hbehind
  exact ⟨rfl, hmore⟩

/-! ### Bodies -/

/-- Behind two zero bytes an object ends. -/
theorem isBody_zeros_iff {tail : List UInt8} :
    IsBody (0x00 :: 0x00 :: tail) ↔ tail.head? = some 0x09 := by
  constructor
  · rintro ⟨ps, more, hps, hbody⟩
    cases hps with
    | ended =>
      cases hbody
      rfl
    | property hne h _ _ =>
      rw [List.append_assoc] at hbody
      exact absurd hbody.symm (sizedBytes_append_ne_end hne h)
  · intro h
    obtain ⟨more, rfl⟩ := List.head?_eq_some_iff.1 h
    exact ⟨_, more, .ended, rfl⟩

/-- Behind a name stand a complete value and a body. -/
theorem isBody_property_iff {name x : List UInt8} (hne : name ≠ []) (h : name.length ≤ 65535) :
    IsBody (sizedBytes name ++ x) ↔
      ∃ value rest, IsValue value ∧ IsBody rest ∧ x = value ++ rest := by
  constructor
  · rintro ⟨ps, more, hps, hbody⟩
    cases hps with
    | ended => exact absurd hbody (sizedBytes_append_ne_end hne h)
    | @property name' payload ps kind _ h' hvalue hps =>
      rw [List.append_assoc] at hbody
      obtain ⟨-, rfl⟩ := sizedBytes_append_inj h h' hbody
      refine ⟨kind.marker :: payload, ps ++ more, ⟨kind, payload, hvalue, rfl⟩,
        ⟨ps, more, hps, rfl⟩, ?_⟩
      simp
  · rintro ⟨_, _, ⟨kind, payload, hvalue, rfl⟩, ⟨ps, more, hps, rfl⟩, rfl⟩
    refine ⟨_, more, .property hne h hvalue hps, ?_⟩
    simp

/-- Behind a complete value stands a body. -/
theorem IsValue.isBody_iff {value x : List UInt8} (h : IsValue value) :
    (∃ value' rest, IsValue value' ∧ IsBody rest ∧ value ++ x = value' ++ rest) ↔ IsBody x := by
  constructor
  · rintro ⟨value', rest, hvalue', hrest, hx⟩
    obtain ⟨-, rfl⟩ := h.append_inj hvalue' hx
    exact hrest
  · intro hx
    exact ⟨value, x, h, hx, rfl⟩

/-! ### The values that are written -/

mutual

/-- What is written for a value is complete. -/
theorem Amf0Value.isValue_bytes : ∀ v : Amf0Value, v.Fits → IsValue v.bytes
  | .number pattern, _ => ⟨.number, doubleBytes pattern, .sized rfl, rfl⟩
  | .boolean value, _ => ⟨.boolean, [if value then 1 else 0], .sized rfl, rfl⟩
  | .string text, hfits => ⟨.string, sizedBytes text, .string hfits, rfl⟩
  | .object properties, hfits =>
    ⟨.object, properties.bytes, .object (properties.isPart_bytes hfits), rfl⟩
  | .null, _ => ⟨.null, [], .sized rfl, rfl⟩

theorem Amf0Properties.isPart_bytes :
    ∀ p : Amf0Properties, p.Fits → IsPart .properties p.bytes
  | .none, _ => .ended
  | .property name value rest, ⟨hne, hlen, hvalue, hrest⟩ => by
    obtain ⟨kind, payload, hpart, hbytes⟩ := value.isValue_bytes hvalue
    rw [Amf0Properties.bytes, hbytes]
    exact .property hne hlen hpart (rest.isPart_bytes hrest)

end

end RtmpRecv.Wire
