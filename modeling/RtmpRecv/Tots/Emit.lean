import RtmpRecv.Tots.TsHeader
import RtmpRecv.Wire.Transport

/-!
# What the transport stage emits

Library `Tots`. The muxer stands for the bytes it has written and those in its cache. Each
packet of `rtmp_tots_packet_ts_header` appends 188 bytes to them, and the packets of one call
carry the PES packet in `pes_buf`.
-/

namespace RtmpRecv.Tots
open RtmpRecv.Base RtmpRecv.Wire

/-! ### The bytes of a packet -/

/-- `i_copy` of a round: how many bytes of the PES the packet takes. -/
def packetCopy (pid : Nat) (newPes : Bool) (iSize : Nat) : Nat :=
  if newPes || iSize < 184 then
    if newPes ∧ pid = videoPid then min iSize 176
    else if 184 - min iSize 184 > 1 then min iSize 184 else 182
  else min iSize 184

/-- The bytes in front of the payload. -/
def packetHead (pid count : Nat) (newPes : Bool) (pts iSize : Nat) : List UInt8 :=
  [0x47, UInt8.ofNat ((if newPes then 0x40 else 0) ||| pid % 0x2000 / 256), UInt8.ofNat pid,
    UInt8.ofNat ((if newPes || iSize < 184 then 0x30 else 0x10) ||| count % 16)] ++
  if newPes || iSize < 184 then
    if newPes ∧ pid = videoPid then
      [UInt8.ofNat (7 + (176 - min iSize 176)), 0x10] ++
        (pcrBytes pts ++ List.replicate (176 - min iSize 176) 0xff)
    else if 184 - min iSize 184 > 1 then
      [UInt8.ofNat (184 - min iSize 184 - 1), 0x00] ++
        List.replicate (184 - min iSize 184 - 2) 0xff
    else [0x01, 0x00]
  else []

private theorem set_four (m : Mem) (off : Nat) (b0 b1 b2 b3 : UInt8) :
    (((m.set off b0).set (off + 1) b1).set (off + 2) b2).set (off + 3) b3 =
      m.memcpy off [b0, b1, b2, b3] :=
  calc (((m.set off b0).set (off + 1) b1).set (off + 2) b2).set (off + 3) b3
      = (((m.memcpy off [b0]).set (off + 1) b1).set (off + 2) b2).set (off + 3) b3 := by
        rw [Mem.set_eq_memcpy m off b0]
    _ = ((m.memcpy off [b0, b1]).set (off + 2) b2).set (off + 3) b3 :=
        congrArg (fun m ↦ Mem.set (Mem.set m (off + 2) b2) (off + 3) b3)
          (Mem.memcpy_set m off [b0] b1)
    _ = (m.memcpy off [b0, b1, b2]).set (off + 3) b3 :=
        congrArg (fun m ↦ Mem.set m (off + 3) b3) (Mem.memcpy_set m off [b0, b1] b2)
    _ = m.memcpy off [b0, b1, b2, b3] := Mem.memcpy_set m off [b0, b1, b2] b3

/-- Two bytes of an adaptation field and what follows them. -/
private theorem set_field (m : Mem) (off : Nat) (head : List UInt8) (hlen : head.length = 4)
    (b4 b5 : UInt8) (rest : List UInt8) :
    (((m.memcpy off head).set (off + 4) b4).set (off + 5) b5).memcpy (off + 6) rest =
      m.memcpy off (head ++ ([b4, b5] ++ rest)) := by
  have h4 := Mem.memcpy_set m off head b4
  have h5 := Mem.memcpy_set m off (head ++ [b4]) b5
  have h6 := Mem.memcpy_memcpy m off (head ++ [b4] ++ [b5]) rest
  rw [List.length_append, hlen] at h5
  rw [List.length_append, List.length_append, hlen] at h6
  rw [hlen] at h4
  rw [h4]
  refine (congrArg (fun m ↦ Mem.memcpy m (off + 6) rest) h5).trans (h6.trans ?_)
  rw [List.append_assoc, List.append_assoc]
  rfl

/-- The stores of a round, before the payload, are one copy. -/
theorem tsPacketHead_eq (m : Mem) (packet pid count : Nat) (newPes : Bool) (pts iSize : Nat) :
    tsPacketHead m packet pid count newPes pts iSize =
      (m.memcpy packet (packetHead pid count newPes pts iSize), packetCopy pid newPes iSize) := by
  unfold tsPacketHead packetHead packetCopy
  by_cases hfield : (newPes || iSize < 184) = true
  · simp only [if_pos hfield, set_four]
    by_cases hpcr : newPes ∧ pid = videoPid
    · simp only [if_pos hpcr]
      have hlen : (pcrBytes pts).length = 6 := rfl
      have hnext := Mem.memcpy_memcpy
        (((m.memcpy packet [0x47, UInt8.ofNat ((if newPes then 0x40 else 0) ||| pid % 0x2000 / 256),
          UInt8.ofNat pid, UInt8.ofNat (0x30 ||| count % 16)]).set (packet + 4)
            (UInt8.ofNat (7 + (176 - min iSize 176)))).set (packet + 5) 0x10)
        (packet + 6) (pcrBytes pts) (List.replicate (176 - min iSize 176) 0xff)
      rw [hlen] at hnext
      exact Prod.ext (hnext.trans (set_field _ _ _ rfl _ _ _)) rfl
    · simp only [if_neg hpcr]
      by_cases hstuff : 184 - min iSize 184 > 1
      · simp only [if_pos hstuff]
        exact Prod.ext (set_field _ _ _ rfl _ _ _) rfl
      · simp only [if_neg hstuff]
        have hnil := set_field m packet [0x47, UInt8.ofNat ((if newPes then 0x40 else 0) |||
          pid % 0x2000 / 256), UInt8.ofNat pid, UInt8.ofNat (0x30 ||| count % 16)] rfl 0x01 0x00 []
        rw [Mem.memcpy_nil] at hnil
        exact Prod.ext hnil rfl
  · simp only [if_neg hfield, set_four]
    rw [List.append_nil]

theorem length_packetHead (pid count : Nat) (newPes : Bool) (pts : Nat) {iSize : Nat}
    (h : 0 < iSize) :
    (packetHead pid count newPes pts iSize).length + packetCopy pid newPes iSize = packetSize := by
  have hlen : (pcrBytes pts).length = 6 := rfl
  unfold packetHead packetCopy packetSize
  by_cases hfield : (newPes || iSize < 184) = true
  · simp only [if_pos hfield]
    by_cases hpcr : newPes ∧ pid = videoPid
    · simp only [if_pos hpcr, List.length_append, List.length_cons, List.length_nil,
        List.length_replicate, hlen]
      omega
    · simp only [if_neg hpcr]
      by_cases hstuff : 184 - min iSize 184 > 1
      · simp only [if_pos hstuff, List.length_append, List.length_cons, List.length_nil,
          List.length_replicate]
        omega
      · simp only [if_neg hstuff, List.length_append, List.length_cons, List.length_nil]
  · simp only [if_neg hfield, List.length_append, List.length_cons, List.length_nil]
    have hbig : ¬iSize < 184 := fun hlt ↦ hfield (by simp [hlt])
    omega

/-- A packet takes at least one byte of what is left, and no more than there is. -/
theorem packetCopy_bounds (pid : Nat) (newPes : Bool) {iSize : Nat} (h : 0 < iSize) :
    0 < packetCopy pid newPes iSize ∧ packetCopy pid newPes iSize ≤ iSize := by
  unfold packetCopy
  by_cases hfield : (newPes || iSize < 184) = true
  · simp only [if_pos hfield]
    by_cases hpcr : newPes ∧ pid = videoPid
    · simp only [if_pos hpcr]
      omega
    · simp only [if_neg hpcr]
      split <;> omega
  · simp only [if_neg hfield]
    omega

/-! ### Reading the packet back -/

private theorem control_bits : ∀ k : Fin 16,
    (UInt8.ofNat (0x30 ||| k)).toNat / 16 % 4 = 3 ∧
      (UInt8.ofNat (0x10 ||| k)).toNat / 16 % 4 = 1 := by
  decide

private theorem payloadStart_field {p : List UInt8} (count : Nat)
    (h3 : p.getD 3 0 = UInt8.ofNat (0x30 ||| count % 16)) :
    payloadStart p = some (5 + (p.getD 4 0).toNat) := by
  have hbits := (control_bits ⟨count % 16, Nat.mod_lt _ (by decide)⟩).1
  unfold payloadStart
  rw [h3, hbits]
  rfl

private theorem payloadStart_plain {p : List UInt8} (count : Nat)
    (h3 : p.getD 3 0 = UInt8.ofNat (0x10 ||| count % 16)) : payloadStart p = some 4 := by
  have hbits := (control_bits ⟨count % 16, Nat.mod_lt _ (by decide)⟩).2
  unfold payloadStart
  rw [h3, hbits]
  rfl

private theorem pid_bits : ∀ newPes : Bool, ∀ pid ∈ [videoPid, audioPid],
    (UInt8.ofNat ((if newPes then 0x40 else 0) ||| pid % 0x2000 / 256)).toNat % 32 * 256 +
        (UInt8.ofNat pid).toNat = pid ∧
      ((UInt8.ofNat ((if newPes then 0x40 else 0) ||| pid % 0x2000 / 256)).toNat / 64 % 2 == 1) =
        newPes := by
  decide

private theorem toNat_ofNat_lt {n : Nat} (h : n < 256) : (UInt8.ofNat n).toNat = n := by
  rw [UInt8.toNat_ofNat']
  exact Nat.mod_eq_of_lt h

/-- The payload starts behind the head. -/
private theorem payloadStart_packet (pid count : Nat) (newPes : Bool) (pts : Nat) {iSize : Nat}
    (h : 0 < iSize) (body : List UInt8) :
    payloadStart (packetHead pid count newPes pts iSize ++ body) =
      some (packetHead pid count newPes pts iSize).length := by
  have hlen : (pcrBytes pts).length = 6 := rfl
  unfold packetHead
  by_cases hfield : (newPes || iSize < 184) = true
  · simp only [if_pos hfield]
    by_cases hpcr : newPes ∧ pid = videoPid
    · simp only [if_pos hpcr]
      rw [payloadStart_field count rfl]
      change some (5 + (UInt8.ofNat (7 + (176 - min iSize 176))).toNat) = _
      rw [toNat_ofNat_lt (by omega)]
      simp only [List.length_append, List.length_cons, List.length_nil, List.length_replicate, hlen,
        Option.some.injEq]
      omega
    · simp only [if_neg hpcr]
      by_cases hstuff : 184 - min iSize 184 > 1
      · simp only [if_pos hstuff]
        rw [payloadStart_field count rfl]
        change some (5 + (UInt8.ofNat (184 - min iSize 184 - 1)).toNat) = _
        rw [toNat_ofNat_lt (by omega)]
        simp only [List.length_append, List.length_cons, List.length_nil, List.length_replicate,
          Option.some.injEq]
        omega
      · simp only [if_neg hstuff]
        rw [payloadStart_field count rfl]
        rfl
  · simp only [if_neg hfield]
    rw [payloadStart_plain count rfl]
    rfl

/-- A packet of the muxer is well formed, and it is read as it was written. -/
theorem packet_read {pid : Nat} (hpid : pid = videoPid ∨ pid = audioPid) (count : Nat)
    (newPes : Bool) (pts : Nat) {iSize : Nat} (h : 0 < iSize) {body : List UInt8}
    (hbody : body.length = packetCopy pid newPes iSize) :
    WellFormedPacket (packetHead pid count newPes pts iSize ++ body) ∧
      packetPid (packetHead pid count newPes pts iSize ++ body) = pid ∧
      packetStarts (packetHead pid count newPes pts iSize ++ body) = newPes ∧
      packetPayload (packetHead pid count newPes pts iSize ++ body) = body := by
  have hlen := length_packetHead pid count newPes pts h
  have hcopy := packetCopy_bounds pid newPes h
  have hstart := payloadStart_packet pid count newPes pts h body
  obtain ⟨hid, hstarts⟩ := pid_bits newPes pid (by simpa using hpid)
  refine ⟨⟨?_, rfl, _, hstart, by omega⟩, hid, hstarts, ?_⟩
  · rw [List.length_append, hbody, hlen]
  · unfold packetPayload
    rw [hstart]
    exact List.drop_left

private theorem counter_bits : ∀ k : Fin 16,
    (UInt8.ofNat (0x30 ||| k)).toNat % 16 = k ∧ (UInt8.ofNat (0x10 ||| k)).toNat % 16 = k := by
  decide

/-- The counter of a packet is read as it was written. -/
theorem packetCounter_packet (pid count : Nat) (newPes : Bool) (pts iSize : Nat)
    (body : List UInt8) :
    packetCounter (packetHead pid count newPes pts iSize ++ body) = count % 16 := by
  obtain ⟨hfield, hplain⟩ := counter_bits ⟨count % 16, Nat.mod_lt _ (by decide)⟩
  change (UInt8.ofNat ((if newPes || iSize < 184 then 0x30 else 0x10) ||| count % 16)).toNat % 16 =
    count % 16
  by_cases h : (newPes || iSize < 184) = true
  · rw [if_pos h]
    exact hfield
  · rw [if_neg h]
    exact hplain

/-! ### Table packets -/

/-- A table packet is well formed when its section fits; its PID and its counter are read as they
were written. -/
theorem tablePacket_read (b1 : UInt8) (patNum : Nat) {table : List UInt8}
    (h : table.length ≤ 179) :
    WellFormedPacket (tablePacket b1 patNum table) ∧
      packetPid (tablePacket b1 patNum table) = b1.toNat % 32 * 256 ∧
      packetCounter (tablePacket b1 patNum table) = patNum % 16 := by
  obtain ⟨-, hcounter⟩ := counter_bits ⟨patNum % 16, Nat.mod_lt _ (by decide)⟩
  have hlen : (tablePacket b1 patNum table).length = packetSize := by
    simp only [tablePacket, List.length_append, List.length_cons, List.length_nil,
      length_be32Bytes, List.length_replicate, tsPacketSize, packetSize]
    omega
  obtain ⟨rest, hhead⟩ : ∃ rest, tablePacket b1 patNum table =
      [0x47, b1, 0x00, UInt8.ofNat (0x10 ||| patNum % 0x10)] ++ rest := ⟨_, rfl⟩
  rw [hhead] at hlen ⊢
  have hstart : payloadStart ([0x47, b1, 0x00, UInt8.ofNat (0x10 ||| patNum % 0x10)] ++ rest) =
      some 4 := payloadStart_plain patNum rfl
  exact ⟨⟨hlen, rfl, 4, hstart, by simp [packetSize]⟩, by simp [packetPid], hcounter⟩

end RtmpRecv.Tots
