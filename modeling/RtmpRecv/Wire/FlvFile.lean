import RtmpRecv.Wire.Amf0
import RtmpRecv.Wire.Flv

/-!
# FLV files

Library `Wire`. How a whole FLV file is read: the header, then tags to the end, of which the first
one holds the script data. Nothing here is translated from the client.
-/

namespace RtmpRecv.Wire
open RtmpRecv.Base

/-- Script data: a name and a row of named values, with their number. -/
structure ScriptData where
  name : List UInt8
  count : Nat
  properties : Amf0Properties

/-- What a file holds. -/
structure FlvFile where
  hasAudio : Bool
  hasVideo : Bool
  script : ScriptData
  tags : List FlvTag

/-- Script data as it is written: a string and an ECMA array. -/
def ScriptData.bytes (s : ScriptData) : List UInt8 :=
  (Amf0Value.string s.name).bytes ++ 0x08 :: (be32Bytes s.count ++ s.properties.bytes)

/-! ### The reader -/

/-- Script data without a byte left over. -/
def readScript : List UInt8 → Option ScriptData
  | 0x02 :: rest => do
    let (name, rest) ← readSized rest
    match rest with
    | 0x08 :: c0 :: c1 :: c2 :: c3 :: rest =>
      let (properties, rest) ← readProperties (rest.length + 1) rest
      if rest = [] then some ⟨name, be32 c0 c1 c2 c3, properties⟩ else none
    | _ => none
  | _ => none

/-- The tags to the end of a list of bytes, each with its own size behind it. -/
def flvTags : Nat → List UInt8 → Option (List FlvTag)
  | fuel + 1, bytes =>
    if bytes = [] then some []
    else do
      let (tag, behind) ← flvTag bytes
      if tag.previousTagSize = tag.dataSize + 11 then
        let tags ← flvTags fuel behind
        some (tag :: tags)
      else none
  | 0, _ => none

/-- A file of version 1: nine bytes of header, no tag before the first one, and script data in the
first one. -/
def flvFile : List UInt8 → Option FlvFile
  | 0x46 :: 0x4c :: 0x56 :: 1 :: flags :: 0 :: 0 :: 0 :: 9 :: 0 :: 0 :: 0 :: 0 :: rest => do
    match ← flvTags (rest.length + 1) rest with
    | first :: tags =>
      if first.tagType = 18 then
        let script ← readScript first.data
        some ⟨flags.toNat / 4 % 2 = 1, flags.toNat % 2 = 1, script, tags⟩
      else none
    | [] => none
  | _ => none

/-! ### Reading what was written -/

/-- The bytes are one tag with its size. -/
def IsTag (bytes : List UInt8) (tag : FlvTag) : Prop :=
  flvTag bytes = some (tag, []) ∧ tag.previousTagSize = tag.dataSize + 11

/-- A tag is read the same when more follows. -/
theorem flvTag_behind {bytes behind : List UInt8} {tag : FlvTag}
    (h : flvTag bytes = some (tag, behind)) (more : List UInt8) :
    flvTag (bytes ++ more) = some (tag, behind ++ more) := by
  unfold flvTag at h
  split at h
  · next type s0 s1 s2 t0 t1 t2 t3 i0 i1 i2 rest =>
    dsimp only at h
    split at h
    · next p0 p1 p2 p3 behind' hdrop =>
      cases h
      have hlen := congrArg List.length hdrop
      simp only [List.length_drop, List.length_cons] at hlen
      have hinside : be24 s0 s1 s2 ≤ rest.length := by omega
      simp only [List.cons_append, flvTag, List.drop_append_of_le_length hinside, hdrop,
        List.take_append_of_le_length hinside]
    · cases h
  · cases h

theorem IsTag.ne_nil {bytes : List UInt8} {tag : FlvTag} (h : IsTag bytes tag) : bytes ≠ [] := by
  rintro rfl
  cases h.1

/-- Tags one behind the other are read. -/
theorem flvTags_flatten {writes : List (List UInt8)} {tags : List FlvTag}
    (h : List.Forall₂ IsTag writes tags) {fuel : Nat} (hfuel : writes.flatten.length < fuel) :
    flvTags fuel writes.flatten = some tags := by
  induction h generalizing fuel with
  | nil =>
    obtain ⟨fuel, rfl⟩ : ∃ k, fuel = k + 1 := ⟨fuel - 1, by omega⟩
    rfl
  | @cons bytes tag writes tags hfirst _ ih =>
    obtain ⟨fuel, rfl⟩ : ∃ k, fuel = k + 1 := ⟨fuel - 1, by omega⟩
    have hpos := List.length_pos_iff.2 hfirst.ne_nil
    rw [List.flatten_cons, List.length_append] at hfuel
    have hrest : flvTags fuel writes.flatten = some tags := ih (by omega)
    have htag := flvTag_behind hfirst.1 writes.flatten
    rw [List.flatten_cons, flvTags, if_neg (List.append_ne_nil_of_left_ne_nil hfirst.ne_nil _)]
    simp [htag, hfirst.2, hrest]

/-- Script data is read as it was written. -/
theorem readScript_bytes {s : ScriptData} (hname : s.name.length ≤ 65535)
    (hcount : s.count < 4294967296) (hproperties : s.properties.Fits) :
    readScript s.bytes = some s := by
  have hdepth := s.properties.depth_le
  have hsized := readSized_append hname (0x08 :: (be32Bytes s.count ++ s.properties.bytes))
  have hread := readProperties_bytes s.properties (s.properties.bytes.length + 1) [] hproperties
    (by omega)
  have hnumber := be32_be32Bytes s.count hcount
  rw [List.append_nil] at hread
  simp only [be32Bytes, List.cons_append, List.nil_append] at hsized
  simp [ScriptData.bytes, Amf0Value.bytes, readScript, be32Bytes, hsized, hread, hnumber]

/-- A file is read as it was written. -/
theorem flvFile_flatten {flags : UInt8} {first : FlvTag} {writes : List (List UInt8)}
    {tags : List FlvTag} (h : List.Forall₂ IsTag writes (first :: tags))
    (htype : first.tagType = 18) {script : ScriptData}
    (hscript : readScript first.data = some script) :
    flvFile (0x46 :: 0x4c :: 0x56 :: 1 :: flags :: 0 :: 0 :: 0 :: 9 :: 0 :: 0 :: 0 :: 0 ::
      writes.flatten) = some ⟨flags.toNat / 4 % 2 = 1, flags.toNat % 2 = 1, script, tags⟩ := by
  have htags : flvTags (writes.flatten.length + 1) writes.flatten = some (first :: tags) :=
    flvTags_flatten h (Nat.lt_succ_self _)
  simp only [flvFile, htags, Option.bind_eq_bind, Option.bind_some, htype, if_true, hscript]

end RtmpRecv.Wire
