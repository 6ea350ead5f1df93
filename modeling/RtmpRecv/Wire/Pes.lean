import RtmpRecv.Base.Mem
import RtmpRecv.Wire.Transport

/-!
# PES headers

Library `Wire`. How the header of a PES packet is read: its length field, the place where its
payload starts, and the fixed bits around a time stamp. Nothing here is translated from the client.
-/

namespace RtmpRecv.Wire
open RtmpRecv.Base

/-- `PES_packet_length`. -/
def pesPacketLength (pes : List UInt8) : Nat := be16 (pes.getD 4 0) (pes.getD 5 0)

/-- The payload: it starts behind `PES_header_data_length` bytes of optional fields. -/
def pesPayload (pes : List UInt8) : List UInt8 := pes.drop (9 + (pes.getD 8 0).toNat)

/-- The five bytes from `off` on are a time stamp with the four bits `mark` in front and a marker
bit behind each of its three parts. -/
structure TimeStampMarked (pes : List UInt8) (off mark : Nat) : Prop where
  mark : (pes.getD off 0).toNat / 16 = mark
  high : (pes.getD off 0).toNat % 2 = 1
  middle : (pes.getD (off + 2) 0).toNat % 2 = 1
  low : (pes.getD (off + 4) 0).toNat % 2 = 1

end RtmpRecv.Wire
