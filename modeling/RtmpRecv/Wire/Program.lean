import RtmpRecv.Wire.Crc
import RtmpRecv.Wire.Pes

/-!
# Programs

Library `Wire`. How a reader finds the streams of a program: the association table names the packet
identifier of the map table, and the map table those of the streams. Each table is a section with a
length and a checksum. Nothing here is translated from the client.
-/

namespace RtmpRecv.Wire
open RtmpRecv.Base

/-! ### Tables -/

/-- A field of twelve bits. -/
def field12 (b0 b1 : UInt8) : Nat := b0.toNat % 16 * 256 + b1.toNat

/-- A packet identifier of thirteen bits. -/
def field13 (b0 b1 : UInt8) : Nat := b0.toNat % 32 * 256 + b1.toNat

/-- The checksum over a section and its checksum is zero. -/
def SectionChecked (bytes : List UInt8) : Prop :=
  crcBits 0x04c11db7#32 0xffffffff#32 (bytes.map UInt8.toBitVec) = 0#32

instance (bytes : List UInt8) : Decidable (SectionChecked bytes) :=
  inferInstanceAs (Decidable (_ = _))

/-- The section that starts in a payload, behind the pointer field. -/
def sectionOf (payload : List UInt8) : Option (List UInt8) :=
  let rest := payload.drop (1 + (payload.getD 0 0).toNat)
  let bytes := rest.take (3 + field12 (rest.getD 1 0) (rest.getD 2 0))
  if bytes.length = 3 + field12 (rest.getD 1 0) (rest.getD 2 0) ∧ SectionChecked bytes then
    some bytes
  else none

/-- The programs of an association table: their numbers, and the packet identifiers of their map
tables. -/
def programsOf : List UInt8 → List (Nat × Nat)
  | n1 :: n0 :: p1 :: p0 :: rest => (be16 n1 n0, field13 p1 p0) :: programsOf rest
  | _ => []

/-- What an association table says. -/
def associations (bytes : List UInt8) : Option (List (Nat × Nat)) :=
  if bytes.getD 0 0 = 0x00 then some (programsOf ((bytes.drop 8).take (bytes.length - 12)))
  else none

/-- The streams of a map table: their types and their packet identifiers. -/
def streamsOf : Nat → List UInt8 → List (Nat × Nat)
  | fuel + 1, type :: p1 :: p0 :: l1 :: l0 :: rest =>
    (type.toNat, field13 p1 p0) :: streamsOf fuel (rest.drop (field12 l1 l0))
  | _, _ => []

/-- A program: the packet identifier of its clock reference, and its streams. -/
structure Program where
  clock : Nat
  streams : List (Nat × Nat)
  deriving DecidableEq, Repr

/-- What a map table says. -/
def programMap (bytes : List UInt8) : Option Program :=
  if bytes.getD 0 0 = 0x02 then
    some
      { clock := field13 (bytes.getD 8 0) (bytes.getD 9 0)
        streams := streamsOf bytes.length (((bytes.take (bytes.length - 4)).drop
          (12 + field12 (bytes.getD 10 0) (bytes.getD 11 0)))) }
  else none

/-- What a reader of sections takes from a packet. -/
def readTable {α : Type} (read : List UInt8 → Option α) (p : List UInt8) : Option α :=
  (sectionOf (packetPayload p)).bind read

/-- The first section with a packet identifier. -/
def firstSection (pid : Nat) (ps : List (List UInt8)) : Option (List UInt8) :=
  (streamOf pid ps).head?.bind fun p ↦ sectionOf (packetPayload p)

/-- The first program that the packets announce. -/
def programOf (ps : List (List UInt8)) : Option Program :=
  (firstSection 0 ps).bind fun table ↦
    (associations table).bind fun programs ↦
      programs.head?.bind fun program ↦ (firstSection program.2 ps).bind programMap

/-- Packets behind the first ones of both tables say nothing about the program. -/
theorem programOf_append {front : List (List UInt8)} {program : Program}
    (h : programOf front = some program) (rest : List (List UInt8)) :
    programOf (front ++ rest) = some program := by
  have hfirst {pid : Nat} {table : List UInt8} (h : firstSection pid front = some table) :
      firstSection pid (front ++ rest) = some table := by
    unfold firstSection at h ⊢
    obtain ⟨p, hp, htable⟩ := Option.bind_eq_some_iff.1 h
    rw [streamOf_append, List.head?_append, hp]
    exact htable
  obtain ⟨table, htable, h⟩ := Option.bind_eq_some_iff.1 h
  obtain ⟨programs, hprograms, h⟩ := Option.bind_eq_some_iff.1 h
  obtain ⟨number, hnumber, h⟩ := Option.bind_eq_some_iff.1 h
  obtain ⟨map, hmap, h⟩ := Option.bind_eq_some_iff.1 h
  unfold programOf
  rw [hfirst htable, Option.bind_some, hprograms, Option.bind_some, hnumber, Option.bind_some,
    hfirst hmap, Option.bind_some, h]

/-! ### Packets of a program -/

/-- Packets of a program: units of its streams, with a pair of tables in front of some, and of the
first. -/
inductive Multiplexed (IsTables : List (List UInt8) → Prop) (IsUnit : Nat → List UInt8 → Prop) :
    List (List UInt8) → Prop where
  | nil : Multiplexed IsTables IsUnit []
  | sent {ps tables frame : List (List UInt8)} {pid : Nat} {unit : List UInt8}
      (h : Multiplexed IsTables IsUnit ps) (htables : tables = [] ∨ IsTables tables)
      (hfirst : ps = [] → tables ≠ []) (hframe : Carries pid true frame unit) (hne : frame ≠ [])
      (hunit : IsUnit pid unit) : Multiplexed IsTables IsUnit (ps ++ (tables ++ frame))

namespace Multiplexed

variable {IsTables : List (List UInt8) → Prop} {IsUnit : Nat → List UInt8 → Prop}
  {ps : List (List UInt8)}

/-- The tables come first. -/
theorem tables_first (h : Multiplexed IsTables IsUnit ps) (hne : ps ≠ []) :
    ∃ tables rest, IsTables tables ∧ ps = tables ++ rest := by
  induction h with
  | nil => exact absurd rfl hne
  | @sent ps tables frame pid unit h htables hfirst hframe hnonempty hunit ih =>
    by_cases hps : ps = []
    · refine ⟨tables, frame, htables.resolve_left (hfirst hps), ?_⟩
      rw [hps, List.nil_append]
    · obtain ⟨front, rest, hfront, hps'⟩ := ih hps
      refine ⟨front, rest ++ (tables ++ frame), hfront, ?_⟩
      rw [← List.append_assoc front, ← hps']

/-- Every packet belongs to a table or to a stream that has units. -/
theorem packet_cases (h : Multiplexed IsTables IsUnit ps) :
    ∀ p ∈ ps, (∃ tables, IsTables tables ∧ p ∈ tables) ∨ ∃ unit, IsUnit (packetPid p) unit := by
  induction h with
  | nil => exact fun p hp ↦ absurd hp List.not_mem_nil
  | @sent ps tables frame pid unit h htables hfirst hframe hnonempty hunit ih =>
    intro p hp
    rcases List.mem_append.1 hp with hp | hp
    · exact ih p hp
    · rcases List.mem_append.1 hp with hp | hp
      · rcases htables with rfl | htables
        · exact absurd hp List.not_mem_nil
        · exact Or.inl ⟨tables, htables, hp⟩
      · right
        rw [(hframe.wellFormed p hp).2]
        exact ⟨unit, hunit⟩

/-- The units of a stream are units. -/
theorem units (h : Multiplexed IsTables IsUnit ps) {pid : Nat}
    (htables : ∀ tables, IsTables tables → ∀ p ∈ tables, packetPid p ≠ pid) :
    ∀ unit ∈ unitsOf pid ps, IsUnit pid unit := by
  induction h with
  | nil => exact fun unit hunit ↦ absurd hunit List.not_mem_nil
  | @sent ps tables frame pid' unit h hfront hfirst hframe hnonempty hunit ih =>
    have hskip : unitsOf pid (ps ++ tables) = unitsOf pid ps := by
      apply unitsOf_other
      rcases hfront with rfl | hfront
      · exact fun p hp ↦ absurd hp List.not_mem_nil
      · exact htables tables hfront
    rw [← List.append_assoc]
    by_cases hpid : pid' = pid
    · subst hpid
      rw [hframe.unitsOf hnonempty, hskip]
      intro other hother
      rcases List.mem_append.1 hother with hother | hother
      · exact ih other hother
      · rwa [List.mem_singleton.1 hother]
    · rw [unitsOf_other _ fun p hp ↦ (hframe.wellFormed p hp).2 ▸ hpid, hskip]
      exact ih

end Multiplexed

/-! ### Elementary packets -/

/-- A packet of an elementary stream with a presentation time: its start code and stream
identifier, its fixed bits, a header that ends inside, and the marker bits of its time stamps. -/
structure PesPacket (streamId : UInt8) (pes : List UInt8) : Prop where
  start : pes.take 4 = [0x00, 0x00, 0x01, streamId]
  fixed : (pes.getD 6 0).toNat / 64 = 2
  header : 9 + (pes.getD 8 0).toNat ≤ pes.length
  stamps : ((pes.getD 7 0).toNat / 64 = 2 ∧ 5 ≤ (pes.getD 8 0).toNat ∧ TimeStampMarked pes 9 2) ∨
    ((pes.getD 7 0).toNat / 64 = 3 ∧ 10 ≤ (pes.getD 8 0).toNat ∧ TimeStampMarked pes 9 3 ∧
      TimeStampMarked pes 14 1)

end RtmpRecv.Wire
