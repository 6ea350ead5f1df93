import Mathlib.Data.List.Infix
import RtmpRecv.Wire.Adts
import RtmpRecv.Wire.Avc
import RtmpRecv.Wire.Pes

/-!
# Playing a transport stream

Library `Wire`. What a player gets from the PES packets of the two streams: the units of an AVC
frame, which it finds by their start codes, and an AAC frame with its header, each with its times.
Nothing here is translated from the client.
-/

namespace RtmpRecv.Wire
open RtmpRecv.Base

/-! ### Units -/

/-- The units of a byte stream, of whose first one `unit` and then `zeros` zeros have been read. A
code of two or more zeros and a one ends a unit, and zeros at its end are no part of it. -/
def unitsFrom (unit : List UInt8) (zeros : Nat) : List UInt8 → List (List UInt8)
  | [] => [unit]
  | b :: rest =>
    if b = 0 then unitsFrom unit (zeros + 1) rest
    else if b = 1 ∧ 2 ≤ zeros then unit :: unitsFrom [] 0 rest
    else unitsFrom (unit ++ List.replicate zeros 0 ++ [b]) 0 rest

/-- The units of a byte stream, behind the first start code. -/
def annexB (bytes : List UInt8) : List (List UInt8) := (unitsFrom [] 0 bytes).tail

/-- A NAL unit: no start code inside, and no zero at its end. -/
structure NalUnit (unit : List UInt8) : Prop where
  noCode : ¬[0, 0, 1] <:+: unit
  last : unit.getLast?.getD 0 ≠ 0

instance (unit : List UInt8) : Decidable (NalUnit unit) :=
  decidable_of_iff (¬[0, 0, 1] <:+: unit ∧ unit.getLast?.getD 0 ≠ 0)
    ⟨fun h ↦ ⟨h.1, h.2⟩, fun h ↦ ⟨h.noCode, h.last⟩⟩

/-- A unit is read to its end. -/
private theorem unitsFrom_unit {rest : List UInt8} (unit : List UInt8) (front : List UInt8)
    (zeros : Nat) (hcode : ¬[0, 0, 1] <:+: List.replicate zeros 0 ++ unit)
    (hlast : unit.getLast?.getD 0 ≠ 0) :
    unitsFrom front zeros (unit ++ rest) =
      unitsFrom (front ++ (List.replicate zeros 0 ++ unit)) 0 rest := by
  induction unit generalizing front zeros with
  | nil => exact absurd rfl hlast
  | cons b unit ih =>
    rw [List.cons_append, unitsFrom]
    by_cases hzero : b = 0
    · -- a zero inside the unit
      subst hzero
      have hzeros : List.replicate zeros 0 ++ (0 : UInt8) :: unit =
          List.replicate (zeros + 1) 0 ++ unit := by
        rw [List.replicate_succ', List.append_assoc]
        rfl
      rw [if_pos rfl, hzeros]
      rw [hzeros] at hcode
      apply ih front (zeros + 1) hcode
      cases unit with
      | nil => exact absurd rfl hlast
      | cons other unit => simpa using hlast
    · have hnocode : ¬(b = 1 ∧ 2 ≤ zeros) := by
        rintro ⟨rfl, htwo⟩
        apply hcode
        refine ⟨List.replicate (zeros - 2) 0, unit, ?_⟩
        have hsplit : List.replicate zeros (0 : UInt8) =
            List.replicate (zeros - 2) 0 ++ [0, 0] := by
          have htwo' : zeros = (zeros - 2) + 2 := by omega
          have hpair : [0, 0] = List.replicate 2 (0 : UInt8) := rfl
          rw [hpair, List.replicate_append_replicate, ← htwo']
        rw [hsplit]
        simp
      rw [if_neg hzero, if_neg hnocode]
      cases unit with
      | nil => simp
      | cons other unit =>
        have hbehind : ¬[0, 0, 1] <:+: List.replicate 0 0 ++ (other :: unit) := by
          intro hinfix
          apply hcode
          refine hinfix.trans ⟨List.replicate zeros 0 ++ [b], [], ?_⟩
          simp
        rw [ih _ 0 hbehind (by simpa using hlast)]
        simp

/-- Units behind start codes are read as they are. -/
theorem annexB_startCoded {units : List (List UInt8)} (h : ∀ unit ∈ units, NalUnit unit) :
    annexB (startCoded units) = units := by
  have hread (units : List (List UInt8)) (h : ∀ unit ∈ units, NalUnit unit)
      (front : List UInt8) : unitsFrom front 0 (startCoded units) = front :: units := by
    induction units generalizing front with
    | nil => rfl
    | cons unit units ih =>
      obtain ⟨hunit, hunits⟩ := List.forall_mem_cons.1 h
      have hstart : unitsFrom front 0 (startCoded (unit :: units)) =
          front :: unitsFrom [] 0 (unit ++ startCoded units) := by
        rw [startCoded_cons]
        rfl
      rw [hstart, unitsFrom_unit unit [] 0 (by simpa using hunit.noCode) hunit.last, ih hunits]
      rfl
  unfold annexB
  rw [hread units h []]
  rfl

/-! ### Samples -/

/-- An AVC frame as a player gets it. -/
@[ext]
structure AvcSample where
  pts : Nat
  dts : Nat
  units : List (List UInt8)
  deriving DecidableEq, Repr

/-- An AAC frame as a player gets it. -/
@[ext]
structure AacSample where
  pts : Nat
  header : AdtsHeader
  raw : List UInt8
  deriving DecidableEq, Repr

/-- The frame of a PES packet of an AVC stream. -/
def readAvc (pes : List UInt8) : AvcSample := ⟨pesPts pes, pesDts pes, annexB (pesPayload pes)⟩

/-- The frame of a PES packet of an AAC stream. -/
def readAac (pes : List UInt8) : AacSample :=
  ⟨pesPts pes, adtsHeader (pesPayload pes), (pesPayload pes).drop 7⟩

end RtmpRecv.Wire
