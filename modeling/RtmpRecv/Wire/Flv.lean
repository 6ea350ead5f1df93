import RtmpRecv.Base.Mem

/-!
# FLV tags

Library `Wire`. How a tag of an FLV file is read, together with the size of it that follows. Nothing
here is translated from the client.
-/

namespace RtmpRecv.Wire
open RtmpRecv.Base

/-- A tag and the field `PreviousTagSize` behind it. -/
structure FlvTag where
  tagType : Nat
  dataSize : Nat
  timeStamp : Nat
  streamId : Nat
  data : List UInt8
  previousTagSize : Nat
  deriving DecidableEq, Repr

/-- The tag at the start of a list of bytes, and the bytes behind it. The upper eight bits of the
time stamp follow the lower 24. -/
def flvTag : List UInt8 → Option (FlvTag × List UInt8)
  | type :: s0 :: s1 :: s2 :: t0 :: t1 :: t2 :: t3 :: i0 :: i1 :: i2 :: rest =>
    let dataSize := be24 s0 s1 s2
    match rest.drop dataSize with
    | p0 :: p1 :: p2 :: p3 :: behind =>
      some (⟨type.toNat, dataSize, be32 t3 t0 t1 t2, be24 i0 i1 i2, rest.take dataSize,
        be32 p0 p1 p2 p3⟩, behind)
    | _ => none
  | _ => none

/-- A tag that is put together from its fields. -/
theorem flvTag_append {type s0 s1 s2 t0 t1 t2 t3 i0 i1 i2 p0 p1 p2 p3 : UInt8} {data : List UInt8}
    (hsize : be24 s0 s1 s2 = data.length) (behind : List UInt8) :
    flvTag (type :: s0 :: s1 :: s2 :: t0 :: t1 :: t2 :: t3 :: i0 :: i1 :: i2 ::
      (data ++ p0 :: p1 :: p2 :: p3 :: behind)) =
        some (⟨type.toNat, data.length, be32 t3 t0 t1 t2, be24 i0 i1 i2, data,
          be32 p0 p1 p2 p3⟩, behind) := by
  simp only [flvTag, hsize, List.drop_left, List.take_left]

end RtmpRecv.Wire
