import RtmpRecv.Tots.State

/-!
# Cutting a PES packet into transport packets

Library `Tots`. Models `rtmp_tots_packet_ts_header`, `rtmp_tots.cpp:286-426`. The cursor
of the loop is the offset `packet` in `ts_cache`, the offset `p` in `pes_buf` and the count
`i_size` of bytes left. A packet that would pass the end of `ts_cache` is a fault.
-/

namespace RtmpRecv.Tots
open RtmpRecv.Base

/-- The size of `ts_cache`. -/
def tsCacheSize : Nat := 7 * tsPacketSize

/-- The flush that follows each packet: at seven packets the cache is written and restarted.
Returns the new offset `packet`. -/
def flushTsCache (t : RtmpTots) (packet : Nat) : Except Fault (RtmpTots × Nat) :=
  if packet = tsCacheSize then
    if t.tsCacheLen = tsCacheSize then
      .ok ({ t with file := t.file ++ [t.tsCache.slice 0 tsCacheSize], tsCacheLen := 0 }, 0)
    else .error .assertion
  else .ok (t, packet)

/-- Copy a table packet to the cache and account for it. -/
def cacheTable (t : RtmpTots) (packet : Nat) (table : List UInt8) :
    Except Fault (RtmpTots × Nat) :=
  if packet + tsPacketSize > tsCacheSize then .error .outOfBounds
  else
    flushTsCache
      { t with
        tsCache := t.tsCache.memcpy packet table
        tsCacheLen := t.tsCacheLen + tsPacketSize }
      (packet + tsPacketSize)

/-- The six bytes of the adaptation field that carry the PCR, `rtmp_tots.cpp:369-385`. -/
def pcrBytes (pts : Nat) : List UInt8 :=
  let pcr := pts * 300 % 18446744073709551616
  let pcrBase := pcr / 300
  let pcrExt := pcr % 300
  [UInt8.ofNat (pcrBase / 33554432), UInt8.ofNat (pcrBase / 131072), UInt8.ofNat (pcrBase / 512),
    UInt8.ofNat (pcrBase / 2),
    UInt8.ofNat (pcrBase * 128 &&& 0x80 ||| 0x7E ||| pcrExt / 256 &&& 0x01),
    UInt8.ofNat (pcrExt &&& 0xFF)]

/-- The stores of one round of the loop into the packet at offset `packet`, before the
payload is copied: the memory, and `i_copy`. -/
def tsPacketHead (m : Mem) (packet pid count : Nat) (newPes : Bool) (pts iSize : Nat) :
    Mem × Nat :=
  let bAdaptationField := newPes || iSize < 184
  let m := m.set packet 0x47
  let m := m.set (packet + 1) (UInt8.ofNat ((if newPes then 0x40 else 0) ||| pid % 0x2000 / 256))
  let m := m.set (packet + 2) (UInt8.ofNat pid)
  let m := m.set (packet + 3)
    (UInt8.ofNat ((if bAdaptationField then 0x30 else 0x10) ||| count % 16))
  if bAdaptationField then
    if newPes ∧ pid = videoPid then
      let iCopy := min iSize 176
      let iStuffing := 176 - iCopy
      let m := m.set (packet + 4) (UInt8.ofNat (7 + iStuffing))
      let m := m.set (packet + 5) 0x10
      let m := m.memcpy (packet + 6) (pcrBytes pts)
      (m.memset (packet + 12) 0xff iStuffing, iCopy)
    else
      let iCopy := min iSize 184
      let iStuffing := 184 - iCopy
      if iStuffing > 1 then
        let m := m.set (packet + 4) (UInt8.ofNat (iStuffing - 1))
        let m := m.set (packet + 5) 0x00
        (m.memset (packet + 6) 0xff (iStuffing - 2), iCopy)
      else
        let m := m.set (packet + 4) 0x01
        (m.set (packet + 5) 0x00, 182)
  else (m, min iSize 184)

/-- The counter of the PID: `video_count` or `audio_count`. -/
def pidCount (t : RtmpTots) (pid : Nat) : Nat :=
  if pid = videoPid then t.videoCount else t.audioCount

/-- Store to the counter of the PID. -/
def setPidCount (t : RtmpTots) (pid : Nat) (count : Nat) : RtmpTots :=
  if pid = videoPid then { t with videoCount := count } else { t with audioCount := count }

/-- The loop over the packets of one PES. Each round takes at least one byte, so `i_size`
rounds are enough. -/
def tsPacketLoop (pts pid : Nat) : Nat → RtmpTots → Nat → Bool → Nat → Int → Except Fault RtmpTots
  | fuel, t, packet, newPes, p, iSize =>
    if iSize ≤ 0 then .ok t
    else
      match fuel with
      | 0 => .error .diverged
      | fuel + 1 =>
        if packet + tsPacketSize > tsCacheSize then .error .outOfBounds
        else
          let count := pidCount t pid
          let (m, iCopy) := tsPacketHead t.tsCache packet pid count newPes pts iSize.toNat
          let t := setPidCount t pid ((count + 1) % 0x10)
          let m := m.memcpy (packet + (tsPacketSize - iCopy)) (t.pesBuf.slice p iCopy)
          match flushTsCache
              { t with tsCache := m, tsCacheLen := t.tsCacheLen + tsPacketSize }
              (packet + tsPacketSize) with
          | .error e => .error e
          | .ok (t, packet) => tsPacketLoop pts pid fuel t packet false (p + iCopy) (iSize - iCopy)

/-- `rtmp_tots_packet_ts_header`; `now` is the value of `get_millisecond64`. -/
def rtmpTotsPacketTsHeader (now pts : Nat) (t : RtmpTots) : Except Fault (Int × RtmpTots) :=
  match t.packData with
  | none => .ok (-1, t)
  | some packData =>
    if ¬t.tsFp then .ok (-1, t)
    else
      let iSize := toInt32 t.pesLen
      let packet := t.tsCacheLen
      -- for another type the code keeps `pid = 0` and a null counter
      let pid? := match packData.type with
        | .h264 => some videoPid
        | .aac => some audioPid
        | _ => none
      let tables := packData.isKeyframe || t.frameNum == 0 ||
        (now + 18446744073709551616 - 300) % 18446744073709551616 > t.lastPsiTime
      let cached : Except Fault (RtmpTots × Nat) :=
        if tables then
          let t := rtmpTotsPacketTsPatTable { t with lastPsiTime := now }
          match cacheTable t packet t.patPacket with
          | .error e => .error e
          | .ok (t, packet) =>
            let t := rtmpTotsPacketTsPmtTable t
            cacheTable t packet t.pmtPacket
        else .ok (t, packet)
      match cached with
      | .error e => .error e
      | .ok (t, packet) =>
        let t := { t with frameNum := (t.frameNum + 1) % 4294967296 }
        match pid? with
        | none => if 0 < iSize then .error .nullPointer else .ok (0, t)
        | some pid =>
          match tsPacketLoop pts pid iSize.toNat t packet true 0 iSize with
          | .error e => .error e
          | .ok t => .ok (0, t)

end RtmpRecv.Tots
