import RtmpRecv.Client.Properties

/-!
# What the metadata parser rejects

Library `Client`. The parser accepts what it can cut into blocks. Compared with the grammar of the
format, it takes another name and as many bytes as that name for a property, and any byte behind
two zero bytes for the end of the object.
-/

namespace RtmpRecv.Client
open RtmpRecv.Base RtmpRecv.Amf0 RtmpRecv.Wire

/-! ### Metadata messages -/

/-- A string and the start of an object, complete properties and the end of the object where the
last of them ends. -/
def IsMetadata (bytes : List UInt8) : Prop :=
  ∃ text body, text.length ≤ 65535 ∧ IsBody body ∧ bytes = stringBytes text ++ 0x03 :: body

/-- Behind a string and the start of an object the rest decides. -/
theorem isMetadata_iff {text body : List UInt8} (h : text.length ≤ 65535) :
    IsMetadata (stringBytes text ++ 0x03 :: body) ↔ IsBody body := by
  constructor
  · rintro ⟨text', body', h', hbody, hbytes⟩
    obtain ⟨-, hobject⟩ := sizedBytes_append_inj h h' (List.cons.inj hbytes).2
    rw [(List.cons.inj hobject).2]
    exact hbody
  · intro hbody
    exact ⟨text, body, h, hbody, rfl⟩

/-- The value of a property is complete. -/
theorem PropertyValue.isValue_bytes {value : PropertyValue} (h : value.Fits) :
    IsValue value.bytes := by
  cases value with
  | text s =>
    have hlen : s.length ≤ 127 := h
    exact (Amf0Value.string s).isValue_bytes (show s.length ≤ 65535 by omega)
  | number pattern => exact (Amf0Value.number pattern).isValue_bytes h

/-- The messages with properties of the two types are metadata messages. -/
theorem PropertyRow.isMetadata_bytes (row : PropertyRow) : IsMetadata row.bytes := by
  have hbody : ∀ properties : List Property,
      (∀ p ∈ properties, p.name ≠ [] ∧ p.name.length ≤ 255 ∧ p.value.Fits) →
        IsBody (properties.flatMap Property.bytes ++ [0x00, 0x00, 0x09]) := by
    intro properties h
    induction properties with
    | nil => exact isBody_zeros_iff.2 rfl
    | cons p properties ih =>
      obtain ⟨⟨hne, hlen, hfits⟩, hrest⟩ := List.forall_mem_cons.1 h
      rw [List.flatMap_cons, Property.bytes, List.append_assoc, List.append_assoc]
      exact (isBody_property_iff hne (by omega)).2
        ⟨_, _, PropertyValue.isValue_bytes hfits, ih hrest, rfl⟩
  have hname : (ascii "onMetaData").length ≤ 65535 := by decide +kernel
  refine (isMetadata_iff hname).2 (hbody _ fun p hp ↦ ?_)
  exact ⟨(row.names p hp).1, (row.names p hp).2, row.values p hp⟩

/-! ### The cut and the grammar -/

/-- The blocks end where the object does. A known property is always complete. Behind another name
the bytes that the parser has taken are one complete value, and the rest ends right; or they are
none, and whatever value there is ends elsewhere and has a body behind it. -/
def EndsRight : List Block → List UInt8 → Prop
  | [], tail => tail.head? = some 0x09
  | .other _ filler :: blocks, tail =>
    (IsValue filler ∧ EndsRight blocks tail) ∨
      (¬IsValue filler ∧ ∃ value rest, IsValue value ∧ IsBody rest ∧
        filler ++ (blockBytes blocks ++ 0x00 :: 0x00 :: tail) = value ++ rest)
  | .text _ _ _ :: blocks, tail => EndsRight blocks tail
  | .number _ _ _ :: blocks, tail => EndsRight blocks tail

/-- If the parser can cut the bytes, the blocks end right. -/
def CutsRight (bytes : List UInt8) : Prop :=
  ∀ text blocks tail, IsCut bytes text blocks tail → EndsRight blocks tail

/-- A block with a complete value is a property. -/
private theorem isBody_block_iff {block : Block} (h : block.Fits) (hvalue : IsValue block.rest)
    {x : List UInt8} : IsBody (block.bytes ++ x) ↔ IsBody x := by
  obtain ⟨hne, hlen⟩ := h.name
  rw [Block.bytes, List.append_assoc]
  exact (isBody_property_iff hne (by omega)).trans hvalue.isBody_iff

/-- The blocks end right exactly where the grammar has a body. -/
theorem endsRight_iff {blocks : List Block} (h : ∀ block ∈ blocks, block.Fits)
    {tail : List UInt8} :
    EndsRight blocks tail ↔ IsBody (blockBytes blocks ++ 0x00 :: 0x00 :: tail) := by
  induction blocks with
  | nil => exact isBody_zeros_iff.symm
  | cons block blocks ih =>
    obtain ⟨hfits, hrest⟩ := List.forall_mem_cons.1 h
    rw [blockBytes_cons, List.append_assoc]
    cases block with
    | text name field s =>
      have hlen : s.length ≤ 127 := hfits.2.2.2
      have hvalue := (Amf0Value.string s).isValue_bytes (show s.length ≤ 65535 by omega)
      exact (ih hrest).trans (isBody_block_iff hfits hvalue).symm
    | number name field pattern =>
      have hvalue := (Amf0Value.number pattern).isValue_bytes hfits.2.2.2
      exact (ih hrest).trans (isBody_block_iff hfits hvalue).symm
    | other name filler =>
      by_cases hvalue : IsValue filler
      · rw [isBody_block_iff hfits hvalue, ← ih hrest]
        simp [EndsRight, hvalue]
      · obtain ⟨hne, hlen, -⟩ := hfits
        have hproperty := isBody_property_iff
          (x := filler ++ (blockBytes blocks ++ 0x00 :: 0x00 :: tail)) hne
          (show name.length ≤ 65535 by omega)
        rw [Block.bytes, List.append_assoc]
        refine Iff.trans ?_ hproperty.symm
        simp [EndsRight, hvalue]

/-- Where every name is known, the byte behind the two zero bytes decides. -/
theorem endsRight_iff_of_known {blocks : List Block} (h : ∀ block ∈ blocks, block.Fits)
    (hknown : ∀ block ∈ blocks, fieldOf (untilNul block.name) ≠ none) {tail : List UInt8} :
    EndsRight blocks tail ↔ tail.head? = some 0x09 := by
  induction blocks with
  | nil => rfl
  | cons block blocks ih =>
    obtain ⟨hfits, hrest⟩ := List.forall_mem_cons.1 h
    obtain ⟨hname, hnames⟩ := List.forall_mem_cons.1 hknown
    cases block with
    | text name field s => exact ih hrest hnames
    | number name field pattern => exact ih hrest hnames
    | other name filler => exact absurd hfits.2.2.1 hname

/-- Bytes that the parser can cut are a metadata message if the blocks end right. -/
theorem IsCut.isMetadata_iff {bytes text : List UInt8} {blocks : List Block} {tail : List UInt8}
    (h : IsCut bytes text blocks tail) : IsMetadata bytes ↔ EndsRight blocks tail := by
  obtain ⟨htext, hblocks, -, rfl⟩ := h
  exact (Client.isMetadata_iff (by omega)).trans (endsRight_iff hblocks).symm

/-! ### The parser -/

/-- The parser ends over any bytes. It accepts metadata messages alone, and rejects whatever is
none, exactly where the cut that it makes, if there is one, ends right. -/
theorem rtmpProcessCmd0x12OnmetadataResult_rejects (m : Mem) (off n : Nat) (data : RtmpMetadata) :
    ∃ ret data', (rtmpProcessCmd0x12OnmetadataResult data off n).run m = (.ok (ret, data'), m) ∧
      (ret = 0 ∨ ret = -1) ∧
      (((ret = 0 → IsMetadata (m.slice off n)) ∧ (¬IsMetadata (m.slice off n) → ret = -1)) ↔
        CutsRight (m.slice off n)) := by
  obtain ⟨ret, data', hrun, hret⟩ := rtmpProcessCmd0x12OnmetadataResult_ends data off n m
  refine ⟨ret, data', hrun, hret, ?_⟩
  constructor
  · rintro ⟨haccepts, -⟩ text blocks tail hcut
    have hslice : m.slice off (m.slice off n).length = m.slice off n := by rw [Mem.length_slice]
    have haccepted := run_of_isCut hcut hslice data
    rw [Mem.length_slice] at haccepted
    cases hrun.symm.trans haccepted
    exact hcut.isMetadata_iff.1 (haccepts rfl)
  · intro hright
    have haccepts : ret = 0 → IsMetadata (m.slice off n) := by
      rintro rfl
      obtain ⟨text, blocks, tail, hcut, -⟩ := isCut_of_run hrun
      exact hcut.isMetadata_iff.2 (hright text blocks tail hcut)
    exact ⟨haccepts, fun hnot ↦ hret.resolve_left fun h ↦ hnot (haccepts h)⟩

/-- An object with `0x01` where the end marker belongs. -/
def unendedMessage : List UInt8 := stringBytes (ascii "onMetaData") ++ [0x03, 0x00, 0x00, 0x01]

/-- An object that is cut off inside its only value, a string of 64 bytes. -/
def truncatedMessage : List UInt8 :=
  stringBytes (ascii "onMetaData") ++
    0x03 :: (propNameBytes (ascii "a") ++ [0x02, 0x00, 0x40, 0x00, 0x00, 0x09])

/-- A string that is cut off is not the beginning of a complete value. -/
private theorem not_isValue_of_short {x value rest : List UInt8} (h : readSized x = none)
    (hx : 0x02 :: x = value ++ rest) : ¬IsValue value := by
  rintro ⟨kind, payload, hpart, rfl⟩
  obtain ⟨hmarker, hpayload⟩ := List.cons.inj hx
  obtain rfl : Amf0Kind.string = kind := Amf0Kind.marker_inj hmarker
  cases hpart with
  | sized hsize => cases hsize
  | string hlen =>
    have hread := readSized_append hlen rest
    rw [hpayload] at h
    cases h.symm.trans hread

/-- The parser accepts both, and neither is a metadata message. -/
theorem rtmpProcessCmd0x12OnmetadataResult_accepts :
    (((rtmpProcessCmd0x12OnmetadataResult ⟨fun _ _ ↦ 0, fun _ ↦ 0⟩ 0 unendedMessage.length).run
        (Mem.ofList unendedMessage)).1.map Prod.fst = .ok 0 ∧ ¬IsMetadata unendedMessage) ∧
      ((rtmpProcessCmd0x12OnmetadataResult ⟨fun _ _ ↦ 0, fun _ ↦ 0⟩ 0 truncatedMessage.length).run
        (Mem.ofList truncatedMessage)).1.map Prod.fst = .ok 0 ∧ ¬IsMetadata truncatedMessage := by
  have hname : (ascii "onMetaData").length = 10 := by decide +kernel
  have hunended : IsCut unendedMessage (ascii "onMetaData") [] [0x01] :=
    ⟨by omega, fun block h ↦ absurd h List.not_mem_nil, List.cons_ne_nil _ _, rfl⟩
  have hother : (Block.other (ascii "a") [0x02, 0x00, 0x40]).Fits := by
    refine ⟨?_, ?_, ?_, ?_⟩ <;> decide +kernel
  have htruncated : IsCut truncatedMessage (ascii "onMetaData")
      [.other (ascii "a") [0x02, 0x00, 0x40]] [0x09] :=
    ⟨by omega, List.forall_mem_singleton.2 hother, List.cons_ne_nil _ _, rfl⟩
  refine ⟨⟨?_, ?_⟩, ?_, ?_⟩
  · rw [run_of_isCut hunended (Mem.slice_ofList _)]
    rfl
  · rw [hunended.isMetadata_iff]
    intro hright
    cases hright
  · rw [run_of_isCut htruncated (Mem.slice_ofList _)]
    rfl
  · have hfiller : readSized [0x00, 0x40] = none := by decide
    have hrest : readSized [0x00, 0x40, 0x00, 0x00, 0x09] = none := by decide
    rw [htruncated.isMetadata_iff]
    rintro (⟨hvalue, -⟩ | ⟨-, value, rest, hvalue, -, hbytes⟩)
    · exact not_isValue_of_short hfiller (List.append_nil _).symm hvalue
    · -- the three bytes that the parser takes for the end belong to the string
      exact not_isValue_of_short hrest hbytes hvalue

end RtmpRecv.Client
