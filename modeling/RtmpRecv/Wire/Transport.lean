import Mathlib.Data.List.GetD
import Mathlib.Tactic.Common

/-!
# Transport packets

Library `Wire`. How an MPEG transport stream is read: it is cut into packets of 188 bytes, each
names its stream by a packet identifier, and the payloads of one stream, cut where a packet
announces a new unit, are its units. Nothing here is translated from the client.
-/

namespace RtmpRecv.Wire

/-- The size of a packet. -/
def packetSize : Nat := 188

/-- The 13 bits of the packet identifier. -/
def packetPid (p : List UInt8) : Nat :=
  (p.getD 1 0).toNat % 32 * 256 + (p.getD 2 0).toNat

/-- `payload_unit_start_indicator`. -/
def packetStarts (p : List UInt8) : Bool := (p.getD 1 0).toNat / 64 % 2 == 1

/-- `continuity_counter`. -/
def packetCounter (p : List UInt8) : Nat := (p.getD 3 0).toNat % 16

/-- Where the payload starts, by `adaptation_field_control` and `adaptation_field_length`; other
values of the control announce no payload. -/
def payloadStart (p : List UInt8) : Option Nat :=
  match (p.getD 3 0).toNat / 16 % 4 with
  | 1 => some 4
  | 3 => some (5 + (p.getD 4 0).toNat)
  | _ => none

/-- The base of the program clock reference, if the adaptation field carries one. -/
def packetPcr (p : List UInt8) : Option Nat :=
  if 2 ≤ (p.getD 3 0).toNat / 16 % 4 ∧ 7 ≤ (p.getD 4 0).toNat ∧
      (p.getD 5 0).toNat / 16 % 2 = 1 then
    some ((p.getD 6 0).toNat * 33554432 + (p.getD 7 0).toNat * 131072 +
      (p.getD 8 0).toNat * 512 + (p.getD 9 0).toNat * 2 + (p.getD 10 0).toNat / 128)
  else none

/-- The nine bits of the extension of the program clock reference. -/
def packetPcrExtension (p : List UInt8) : Nat :=
  (p.getD 10 0).toNat % 2 * 256 + (p.getD 11 0).toNat

/-- The 33 bits of a time stamp in the five bytes of a PES header from `off` on. -/
def timeStampAt (pes : List UInt8) (off : Nat) : Nat :=
  (pes.getD off 0).toNat / 2 % 8 * 1073741824 + (pes.getD (off + 1) 0).toNat * 4194304 +
    (pes.getD (off + 2) 0).toNat / 2 * 32768 + (pes.getD (off + 3) 0).toNat * 128 +
    (pes.getD (off + 4) 0).toNat / 2

/-- The presentation time of a PES packet. -/
def pesPts (pes : List UInt8) : Nat := timeStampAt pes 9

/-- The decoding time of a PES packet that carries both times. -/
def pesDts (pes : List UInt8) : Nat := timeStampAt pes 14

/-- A packet of full length that starts with the sync byte and carries a payload. -/
structure WellFormedPacket (p : List UInt8) : Prop where
  length : p.length = packetSize
  sync : p.getD 0 0 = 0x47
  start : ∃ n, payloadStart p = some n ∧ n < packetSize

/-- The payload: it ends where the packet ends. -/
def packetPayload (p : List UInt8) : List UInt8 := p.drop ((payloadStart p).getD p.length)

/-- The packets of a stream of bytes. -/
def packets (bytes : List UInt8) : List (List UInt8) :=
  (List.range (bytes.length / packetSize)).map fun i ↦ (bytes.drop (packetSize * i)).take packetSize

/-- A packet is added to the units of the stream `pid`: it starts a unit or continues the last
one, or belongs to another stream. -/
def addPacket (pid : Nat) (units : List (List UInt8)) (p : List UInt8) : List (List UInt8) :=
  if packetPid p ≠ pid then units
  else if packetStarts p then units ++ [packetPayload p]
  else units.dropLast ++ [units.getLastD [] ++ packetPayload p]

/-- The units of the stream `pid`. -/
def unitsOf (pid : Nat) (ps : List (List UInt8)) : List (List UInt8) :=
  ps.foldl (addPacket pid) []

/-! ### Cutting -/

/-- Packets of full length are cut apart again. -/
theorem packets_flatten {ps : List (List UInt8)} (h : ∀ p ∈ ps, p.length = packetSize) :
    packets ps.flatten = ps := by
  induction ps with
  | nil => rfl
  | cons p ps ih =>
    have hp := h p List.mem_cons_self
    have hrest := ih fun q hq ↦ h q (List.mem_cons_of_mem _ hq)
    have hpos : 0 < packetSize := by decide
    unfold packets at hrest ⊢
    rw [List.flatten_cons, List.length_append, hp, Nat.add_div_left _ hpos, List.range_succ_eq_map,
      List.map_cons, List.map_map]
    congr 1
    · rw [Nat.mul_zero, List.drop_zero, List.take_left' hp]
    · conv_rhs => rw [← hrest]
      refine List.map_congr_left fun i _ ↦ ?_
      have hdrop : packetSize * (i + 1) = p.length + packetSize * i := by
        rw [hp, Nat.mul_add, Nat.mul_one, Nat.add_comm]
      change ((p ++ ps.flatten).drop (packetSize * (i + 1))).take packetSize = _
      rw [hdrop, List.drop_append, List.drop_eq_nil_of_le (Nat.le_add_right _ _),
        List.nil_append, Nat.add_sub_cancel_left]

/-! ### Units -/

theorem unitsOf_append (pid : Nat) (ps qs : List (List UInt8)) :
    unitsOf pid (ps ++ qs) = qs.foldl (addPacket pid) (unitsOf pid ps) :=
  List.foldl_append

/-- Packets of other streams add nothing. -/
theorem unitsOf_other {pid : Nat} (ps : List (List UInt8)) {qs : List (List UInt8)}
    (h : ∀ q ∈ qs, packetPid q ≠ pid) : unitsOf pid (ps ++ qs) = unitsOf pid ps := by
  rw [unitsOf_append]
  generalize unitsOf pid ps = units
  induction qs with
  | nil => rfl
  | cons q qs ih =>
    rw [List.foldl_cons]
    have hq : addPacket pid units q = units := if_pos (h q List.mem_cons_self)
    rw [hq]
    exact ih fun r hr ↦ h r (List.mem_cons_of_mem _ hr)

/-- The packets of the stream `pid` carry the bytes of one unit; the first of them starts it when
`first` says so. -/
inductive Carries (pid : Nat) : Bool → List (List UInt8) → List UInt8 → Prop where
  | nil (first : Bool) : Carries pid first [] []
  | cons {first : Bool} {p : List UInt8} {ps : List (List UInt8)} {bytes : List UInt8}
      (hwell : WellFormedPacket p) (hpid : packetPid p = pid) (hstart : packetStarts p = first)
      (hrest : Carries pid false ps bytes) : Carries pid first (p :: ps) (packetPayload p ++ bytes)

theorem Carries.wellFormed {pid : Nat} {first : Bool} {ps : List (List UInt8)}
    {bytes : List UInt8} (h : Carries pid first ps bytes) :
    ∀ p ∈ ps, WellFormedPacket p ∧ packetPid p = pid := by
  induction h with
  | nil => exact fun p hp ↦ absurd hp List.not_mem_nil
  | cons hwell hpid _ _ ih =>
    intro q hq
    rcases List.mem_cons.1 hq with rfl | hq
    · exact ⟨hwell, hpid⟩
    · exact ih q hq

/-- Packets that carry the rest of a unit start none. -/
theorem Carries.starts {pid : Nat} {first : Bool} {ps : List (List UInt8)} {bytes : List UInt8}
    (h : Carries pid first ps bytes) (hf : first = false) : ∀ p ∈ ps, packetStarts p = false := by
  induction h with
  | nil => exact fun p hp ↦ absurd hp List.not_mem_nil
  | cons _ _ hstart _ ih =>
    intro q hq
    rcases List.mem_cons.1 hq with rfl | hq
    · exact hstart.trans hf
    · exact ih rfl q hq

private theorem foldl_carries {pid : Nat} {first : Bool} {ps : List (List UInt8)}
    {bytes : List UInt8} (h : Carries pid first ps bytes) (hf : first = false)
    (units : List (List UInt8)) (unit : List UInt8) :
    ps.foldl (addPacket pid) (units ++ [unit]) = units ++ [unit ++ bytes] := by
  induction h generalizing unit with
  | nil => rw [List.foldl_nil, List.append_nil]
  | @cons first p ps bytes _ hpid hstart _ ih =>
    have hadd : addPacket pid (units ++ [unit]) p = units ++ [unit ++ packetPayload p] := by
      unfold addPacket
      rw [if_neg (not_not_intro hpid), hstart, hf]
      rw [List.dropLast_concat, List.getLastD_concat]
      rfl
    rw [List.foldl_cons, hadd, ih rfl, List.append_assoc]

/-- Packets that carry a unit add it to the units of their stream. -/
theorem Carries.unitsOf {pid : Nat} {ps : List (List UInt8)} {bytes : List UInt8}
    (h : Carries pid true ps bytes) (hne : ps ≠ []) (qs : List (List UInt8)) :
    unitsOf pid (qs ++ ps) = unitsOf pid qs ++ [bytes] := by
  rw [unitsOf_append]
  cases h with
  | nil => exact absurd rfl hne
  | @cons _ p ps bytes _ hpid hstart hrest =>
    have hadd : addPacket pid (Wire.unitsOf pid qs) p =
        Wire.unitsOf pid qs ++ [packetPayload p] := by
      unfold addPacket
      rw [if_neg (not_not_intro hpid), hstart]
      rfl
    rw [List.foldl_cons, hadd]
    exact foldl_carries hrest rfl _ _

/-! ### Counters -/

/-- The packets are counted from `n` on, modulo 16. -/
def Counted : Nat → List (List UInt8) → Prop
  | _, [] => True
  | n, p :: ps => packetCounter p = n % 16 ∧ Counted (n + 1) ps

theorem Counted.congr {n n' : Nat} (h : n % 16 = n' % 16) (ps : List (List UInt8)) :
    Counted n ps ↔ Counted n' ps := by
  induction ps generalizing n n' with
  | nil => exact Iff.rfl
  | cons p ps ih =>
    have hnext : (n + 1) % 16 = (n' + 1) % 16 := by omega
    simp only [Counted, h, ih hnext]

/-- Counting goes on behind a list of packets. -/
theorem counted_append (n : Nat) (ps qs : List (List UInt8)) :
    Counted n (ps ++ qs) ↔ Counted n ps ∧ Counted (n + ps.length) qs := by
  induction ps generalizing n with
  | nil => simp [Counted]
  | cons p ps ih =>
    have hnext : n + 1 + ps.length = n + (ps.length + 1) := by omega
    simp only [List.cons_append, Counted, ih, List.length_cons, hnext, and_assoc]

/-- Neighbours of a counted list differ by one. -/
theorem Counted.isChain {n : Nat} {ps : List (List UInt8)} (h : Counted n ps) :
    ps.IsChain fun p q ↦ packetCounter q = (packetCounter p + 1) % 16 := by
  induction ps generalizing n with
  | nil => exact List.IsChain.nil
  | cons p ps ih =>
    cases ps with
    | nil => exact List.IsChain.singleton p
    | cons q ps =>
      apply List.IsChain.cons_cons
      · rw [h.2.1, h.1]
        omega
      · exact ih h.2

/-- The packets of the stream `pid`. -/
def streamOf (pid : Nat) (ps : List (List UInt8)) : List (List UInt8) :=
  ps.filter fun p ↦ packetPid p == pid

theorem streamOf_append (pid : Nat) (ps qs : List (List UInt8)) :
    streamOf pid (ps ++ qs) = streamOf pid ps ++ streamOf pid qs :=
  List.filter_append _ _

theorem streamOf_same {pid : Nat} {ps : List (List UInt8)} (h : ∀ p ∈ ps, packetPid p = pid) :
    streamOf pid ps = ps := by
  apply List.filter_eq_self.2
  intro p hp
  simp [h p hp]

theorem streamOf_other {pid : Nat} {ps : List (List UInt8)} (h : ∀ p ∈ ps, packetPid p ≠ pid) :
    streamOf pid ps = [] := by
  apply List.filter_eq_nil_iff.2
  intro p hp
  simp [h p hp]

/-- The packets of the stream `pid` are counted, and the next one gets `n`, modulo 16. -/
def CountedTo (pid n : Nat) (ps : List (List UInt8)) : Prop :=
  Counted 0 (streamOf pid ps) ∧ (streamOf pid ps).length % 16 = n % 16

/-- Packets of the stream that go on counting. -/
theorem CountedTo.append {pid n : Nat} {ps qs : List (List UInt8)} (h : CountedTo pid n ps)
    (hpid : ∀ q ∈ qs, packetPid q = pid) (hqs : Counted n qs) :
    CountedTo pid (n + qs.length) (ps ++ qs) := by
  constructor
  · rw [streamOf_append, streamOf_same hpid, counted_append, Nat.zero_add]
    exact ⟨h.1, (Counted.congr h.2 qs).2 hqs⟩
  · have hlen := h.2
    rw [streamOf_append, streamOf_same hpid, List.length_append]
    omega

/-- Packets of other streams. -/
theorem CountedTo.append_other {pid n : Nat} {ps qs : List (List UInt8)} (h : CountedTo pid n ps)
    (hpid : ∀ q ∈ qs, packetPid q ≠ pid) : CountedTo pid n (ps ++ qs) := by
  rw [CountedTo, streamOf_append, streamOf_other hpid, List.append_nil]
  exact h

theorem CountedTo.congr {pid n n' : Nat} {ps : List (List UInt8)} (h : CountedTo pid n ps)
    (hn : n % 16 = n' % 16) : CountedTo pid n' ps :=
  ⟨h.1, h.2.trans hn⟩

end RtmpRecv.Wire
