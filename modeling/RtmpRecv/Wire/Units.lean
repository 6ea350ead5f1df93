import RtmpRecv.Base.Mem

/-!
# Units of a video frame

Library `Wire`. The two ways of writing a list of units one behind the other: each behind its
length, as a message carries them, and each behind a start code, as a transport stream does.
Nothing here is translated from the client.
-/

namespace RtmpRecv.Wire
open RtmpRecv.Base

/-- The start code in front of a unit. -/
def startCode : List UInt8 := [0, 0, 0, 1]

/-- The units, each behind its length. -/
def lengthPrefixed (units : List (List UInt8)) : List UInt8 :=
  units.flatMap fun unit ↦ be32Bytes unit.length ++ unit

/-- The units, each behind a start code. -/
def startCoded (units : List (List UInt8)) : List UInt8 :=
  units.flatMap fun unit ↦ startCode ++ unit

theorem lengthPrefixed_cons (unit : List UInt8) (units : List (List UInt8)) :
    lengthPrefixed (unit :: units) = be32Bytes unit.length ++ (unit ++ lengthPrefixed units) := by
  unfold lengthPrefixed
  rw [List.flatMap_cons, List.append_assoc]

theorem startCoded_cons (unit : List UInt8) (units : List (List UInt8)) :
    startCoded (unit :: units) = startCode ++ (unit ++ startCoded units) := by
  unfold startCoded
  rw [List.flatMap_cons, List.append_assoc]

theorem length_lengthPrefixed_cons (unit : List UInt8) (units : List (List UInt8)) :
    (lengthPrefixed (unit :: units)).length =
      4 + unit.length + (lengthPrefixed units).length := by
  rw [lengthPrefixed_cons, List.length_append, List.length_append, length_be32Bytes]
  omega

/-- Both ways take the same room. -/
theorem length_startCoded (units : List (List UInt8)) :
    (startCoded units).length = (lengthPrefixed units).length := by
  induction units with
  | nil => rfl
  | cons unit units ih =>
    rw [length_lengthPrefixed_cons, startCoded_cons, List.length_append, List.length_append, ih]
    change 4 + _ = _
    omega

end RtmpRecv.Wire
