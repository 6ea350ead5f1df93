import RtmpRecv.Wire.Units

/-!
# AVC messages

Library `Wire`. The two kinds of video messages of codec 7 that carry something: a sequence header
with one SPS and one PPS, and a frame of units behind their lengths. Nothing here is translated
from the client.
-/

namespace RtmpRecv.Wire
open RtmpRecv.Base

/-- An AVC sequence header with one SPS and one PPS. -/
structure AvcHeader where
  time : List UInt8
  profile : List UInt8
  sps : List UInt8
  count : UInt8
  pps : List UInt8
  rest : List UInt8
  length_time : time.length = 3
  length_profile : profile.length = 6
  sps_pos : 0 < sps.length
  sps_le : sps.length ≤ 256
  pps_pos : 0 < pps.length
  pps_le : pps.length ≤ 256
  sps_first : sps.getD 0 0 ≠ 0x09

/-- The configuration record behind the tag. -/
def AvcHeader.record (h : AvcHeader) : List UInt8 :=
  h.profile ++ (be16Bytes h.sps.length ++ (h.sps ++ (h.count ::
    (be16Bytes h.pps.length ++ (h.pps ++ h.rest)))))

/-- The message body: frame type 1, codec 7, packet type 0. -/
def AvcHeader.body (h : AvcHeader) : List UInt8 := 0x17 :: 0x00 :: (h.time ++ h.record)

/-- The frame type of a key frame. -/
def keyType : Fin 16 := 1

/-- A frame of units that are neither empty nor access unit delimiters. -/
structure AvcFrame where
  frameType : Fin 16
  time : List UInt8
  units : List (List UInt8)
  length_time : time.length = 3
  units_ne : units ≠ []
  unit_ne : ∀ unit ∈ units, unit ≠ []
  unit_first : ∀ unit ∈ units, unit.getD 0 0 ≠ 0x09

/-- The message body: codec 7, packet type 1. -/
def AvcFrame.body (f : AvcFrame) : List UInt8 :=
  UInt8.ofNat (f.frameType * 16 + 7) :: 0x01 :: (f.time ++ lengthPrefixed f.units)

/-- The units in front of a frame: those of the header, if it is a key frame. -/
def AvcFrame.head (f : AvcFrame) (h : AvcHeader) : List (List UInt8) :=
  if f.frameType = keyType then [h.sps, h.pps] else []

/-- An access unit delimiter behind its start code. -/
def delimiter : List UInt8 := startCode ++ [0x09, 0x10]

/-- The stream that a frame becomes behind the header `h`. -/
def AvcFrame.annexB (f : AvcFrame) (h : AvcHeader) : List UInt8 :=
  delimiter ++ (startCoded (f.head h) ++ startCoded f.units)

theorem AvcFrame.length_annexB (f : AvcFrame) (h : AvcHeader) :
    (f.annexB h).length =
      6 + ((startCoded (f.head h)).length + (lengthPrefixed f.units).length) := by
  unfold AvcFrame.annexB
  rw [List.length_append, List.length_append, length_startCoded f.units]
  rfl

/-- The message body of a frame: codec 7, packet type 1. -/
def frameBody (frameType : Fin 16) (time : List UInt8) (units : List (List UInt8)) : List UInt8 :=
  UInt8.ofNat (frameType * 16 + 7) :: 0x01 :: (time ++ lengthPrefixed units)

theorem length_frameBody (frameType : Fin 16) {time : List UInt8} (h : time.length = 3)
    (units : List (List UInt8)) :
    (frameBody frameType time units).length = 5 + (lengthPrefixed units).length := by
  simp [frameBody, h]
  omega

theorem drop_frameBody (frameType : Fin 16) {time : List UInt8} (h : time.length = 3)
    (units : List (List UInt8)) :
    (frameBody frameType time units).drop 5 = lengthPrefixed units := by
  have hlen : (UInt8.ofNat (frameType * 16 + 7) :: 0x01 :: time).length = 5 := by simp [h]
  change ((UInt8.ofNat (frameType * 16 + 7) :: 0x01 :: time) ++ _).drop 5 = _
  exact List.drop_left' hlen

/-- The record of a sequence header stands behind its tag and its time. -/
theorem drop_headerBody {time : List UInt8} (h : time.length = 3) (record : List UInt8) :
    ((0x17 : UInt8) :: 0x00 :: (time ++ record)).drop 5 = record := by
  have hlen : ((0x17 : UInt8) :: 0x00 :: time).length = 5 := by simp [h]
  change ((0x17 :: 0x00 :: time) ++ _).drop 5 = _
  exact List.drop_left' hlen

/-- A configuration record with one SPS and one PPS. -/
def avcRecord (profile sps : List UInt8) (count : UInt8) (pps rest : List UInt8) : List UInt8 :=
  profile ++ (be16Bytes sps.length ++ (sps ++ (count :: (be16Bytes pps.length ++ (pps ++ rest)))))

/-- A sequence header whose SPS and PPS have any length that their length fields can say. -/
structure AvcRecord where
  time : List UInt8
  profile : List UInt8
  sps : List UInt8
  count : UInt8
  pps : List UInt8
  rest : List UInt8
  length_time : time.length = 3
  length_profile : profile.length = 6
  sps_lt : sps.length < 65536
  pps_lt : pps.length < 65536
  sps_first : sps.getD 0 0 ≠ 0x09
  pps_first : pps.getD 0 0 ≠ 0x09

/-- The configuration record behind the tag. -/
def AvcRecord.record (h : AvcRecord) : List UInt8 :=
  avcRecord h.profile h.sps h.count h.pps h.rest

/-- The message body: frame type 1, codec 7, packet type 0. -/
def AvcRecord.body (h : AvcRecord) : List UInt8 := 0x17 :: 0x00 :: (h.time ++ h.record)

/-- The units of the record that are stored: none behind an SPS of more than 256 bytes, and the
SPS alone behind a PPS of more. -/
def AvcRecord.storedUnits (h : AvcRecord) : List (List UInt8) :=
  if 256 < h.sps.length then [[]] else if 256 < h.pps.length then [h.sps, []] else [h.sps, h.pps]

/-- A frame of nonempty units, of which only the first may be an access unit delimiter. -/
structure AvcAccessUnit where
  frameType : Fin 16
  time : List UInt8
  units : List (List UInt8)
  length_time : time.length = 3
  units_ne : units ≠ []
  unit_ne : ∀ unit ∈ units, unit ≠ []
  delimiter_first : ∀ unit ∈ units.tail, unit.getD 0 0 ≠ 0x09

/-- The message body: codec 7, packet type 1. -/
def AvcAccessUnit.body (f : AvcAccessUnit) : List UInt8 := frameBody f.frameType f.time f.units

/-- The tag of a frame: its codec is 7, and its frame type stands in the high half. -/
theorem frameTag : ∀ frameType : Fin 16,
    UInt8.ofNat (frameType * 16 + 7) &&& 0x0f = 7 ∧
      (UInt8.ofNat (frameType * 16 + 7) >>> 4 = 1 ↔ frameType = keyType) := by
  decide

/-! ### Delimiters -/

/-- The unit is an access unit delimiter. -/
def IsDelimiter (unit : List UInt8) : Prop := unit.getD 0 0 = 0x09

/-- The first unit is a delimiter, and no other one is. -/
def OneDelimiter : List (List UInt8) → Prop
  | [] => False
  | unit :: units => IsDelimiter unit ∧ ∀ other ∈ units, ¬IsDelimiter other

/-- No unit has a start code inside, which no NAL unit does. -/
def NoCodeInside (units : List (List UInt8)) : Prop :=
  ∀ unit ∈ units, ¬[0, 0, 1] <:+: unit

/-- The first unit of a frame. -/
def AvcAccessUnit.first (f : AvcAccessUnit) : List UInt8 := f.units.headD []

theorem AvcAccessUnit.units_eq (f : AvcAccessUnit) : f.units = f.first :: f.units.tail := by
  obtain ⟨unit, units, hunits⟩ := List.exists_cons_of_ne_nil f.units_ne
  simp [AvcAccessUnit.first, hunits]

/-- A frame without a delimiter in front has none at all. -/
theorem AvcAccessUnit.no_delimiter_iff (f : AvcAccessUnit) :
    (∀ unit ∈ f.units, ¬IsDelimiter unit) ↔ ¬IsDelimiter f.first := by
  rw [f.units_eq, List.forall_mem_cons]
  exact and_iff_left f.delimiter_first

theorem AvcAccessUnit.oneDelimiter_iff (f : AvcAccessUnit) :
    OneDelimiter f.units ↔ IsDelimiter f.first := by
  rw [f.units_eq]
  exact and_iff_left f.delimiter_first

theorem oneDelimiter_append {front : List (List UInt8)} (hne : front ≠ [])
    (rest : List (List UInt8)) :
    OneDelimiter (front ++ rest) ↔ OneDelimiter front ∧ ∀ unit ∈ rest, ¬IsDelimiter unit := by
  obtain ⟨unit, units, rfl⟩ := List.exists_cons_of_ne_nil hne
  change _ ∧ (∀ other ∈ units ++ rest, _) ↔ (_ ∧ _) ∧ _
  rw [List.forall_mem_append, and_assoc]

theorem startCoded_append (front rest : List (List UInt8)) :
    startCoded (front ++ rest) = startCoded front ++ startCoded rest := by
  simp [startCoded]

theorem startCoded_eq_nil {units : List (List UInt8)} (h : startCoded units = []) : units = [] := by
  cases units with
  | nil => rfl
  | cons unit units =>
    rw [startCoded_cons] at h
    cases h

/-- The bytes are units behind start codes, and the first one is the only delimiter. -/
def WellDelimited (bytes : List UInt8) : Prop :=
  ∃ front, NoCodeInside front ∧ bytes = startCoded front ∧ OneDelimiter front

/-- The payload is the units, maybe behind others, and its first unit is the only delimiter. -/
def Delimited (payload : List UInt8) (units : List (List UInt8)) : Prop :=
  ∃ front, NoCodeInside front ∧ payload = startCoded (front ++ units) ∧
    OneDelimiter (front ++ units)

theorem wellDelimited_delimiter : WellDelimited delimiter := by
  refine ⟨[[0x09, 0x10]], ?_, rfl, rfl, ?_⟩
  · intro unit hunit
    rw [List.mem_singleton.1 hunit]
    decide
  · intro other hother
    cases hother

theorem delimited_alone (units : List (List UInt8)) :
    Delimited (startCoded units) units ↔ OneDelimiter units := by
  constructor
  · rintro ⟨front, -, heq, hone⟩
    rw [startCoded_append] at heq
    have hfront := startCoded_eq_nil (List.self_eq_append_left.1 heq)
    rwa [hfront] at hone
  · intro hone
    exact ⟨[], fun unit hunit ↦ absurd hunit List.not_mem_nil, rfl, hone⟩

/-- Behind something else the units are well delimited if that is, and none of them is a
delimiter. -/
theorem delimited_behind {held : List UInt8} (hne : held ≠ []) (units : List (List UInt8)) :
    Delimited (held ++ startCoded units) units ↔
      WellDelimited held ∧ ∀ unit ∈ units, ¬IsDelimiter unit := by
  have hfront {front : List (List UInt8)} (heq : held = startCoded front) : front ≠ [] := by
    rintro rfl
    exact hne heq
  constructor
  · rintro ⟨front, hfree, heq, hone⟩
    rw [startCoded_append] at heq
    have hheld := List.append_cancel_right heq
    obtain ⟨hone, hnone⟩ := (oneDelimiter_append (hfront hheld) units).1 hone
    exact ⟨⟨front, hfree, hheld, hone⟩, hnone⟩
  · rintro ⟨⟨front, hfree, hheld, hone⟩, hnone⟩
    refine ⟨front, hfree, ?_, (oneDelimiter_append (hfront hheld) units).2 ⟨hone, hnone⟩⟩
    rw [startCoded_append, hheld]

end RtmpRecv.Wire
