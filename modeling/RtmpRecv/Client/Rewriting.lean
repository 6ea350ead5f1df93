import RtmpRecv.Base.Loops
import RtmpRecv.Client.Units

/-!
# The turns of the loop over units

Library `Client`. One turn of the loop of `rtmp_process_video`, `rtmp_lib.cpp:1156-1170`, in 32-bit
arithmetic, and the turns of a frame. The data that is left does not get shorter where a length is
`0xfffffffc`; the start code that the turn has stored is the length of the next one.
-/

namespace RtmpRecv.Client
open RtmpRecv.Base RtmpRecv.Wire

/-! ### One turn -/

/-- The body of the loop behind its condition. The 32-bit difference is an `int` again. -/
def nalTurn (ptr : Nat) (dataLen : Int) : Access Fault (Turn (Nat × Int) Bool) :=
  if dataLen > 4 then do
    let len ← loadSwap4 ptr
    if nalAdvance len > toUInt32 dataLen then pure (.done false)
    else do
      putStartCode ptr
      pure (.again (ptr + nalAdvance len,
        toInt32 ((toUInt32 dataLen + 4294967296 - nalAdvance len) % 4294967296)))
  else pure (.done true)

/-- The memory, the pointer and the length between two turns. -/
structure NalState where
  mem : Mem
  ptr : Nat
  dataLen : Int

/-- What the next turn comes to; the loop ends with a result and the memory. -/
def nalStep (s : NalState) : Turn NalState (Except Fault Bool × Mem) :=
  match (nalTurn s.ptr s.dataLen).run s.mem with
  | (.ok (.again (ptr, dataLen)), mem) => .again ⟨mem, ptr, dataLen⟩
  | (.ok (.done taken), mem) => .done (.ok taken, mem)
  | (.error e, mem) => .done (.error e, mem)

/-- The length is an `int` that is not negative. -/
def NalState.Ready (s : NalState) : Prop := 0 ≤ s.dataLen ∧ s.dataLen < 2147483648

/-- The data that is left. -/
def NalState.data (s : NalState) : List UInt8 := s.mem.slice s.ptr s.dataLen.toNat

/-- How far the next turn goes. -/
def NalState.advance (s : NalState) : Nat := nalAdvance (unitLen s.data)

/-- The state behind a turn that stores a start code. -/
def NalState.next (s : NalState) : NalState :=
  ⟨s.mem.memcpy s.ptr startCode, s.ptr + s.advance, s.dataLen - s.advance⟩

/-! ### What a turn can do -/

/-- The loop is left at four bytes or fewer. -/
theorem nalTurn_stop (ptr : Nat) {dataLen : Int} (h : dataLen ≤ 4) :
    nalTurn ptr dataLen = .ret (.done true) := by
  unfold nalTurn
  rw [if_neg (by omega)]
  rfl

/-- A turn that refuses a unit. -/
theorem run_nalTurn_exceeds (ptr n : Nat) (m : Mem) (h4 : 4 < n) (hn : n < 4294967296)
    (hx : n < nalAdvance (unitLen (m.slice ptr n))) :
    (nalTurn ptr n).run m = (.ok (.done false), m) := by
  have hload := run_loadSwap4 ptr n m (by omega)
  unfold nalTurn
  rw [if_pos (by omega)]
  simp only [Access.bind_eq, toUInt32_of_nonneg n hn]
  rw [Access.run_bind_ok hload, if_pos hx]
  rfl

/-- A turn that stores a start code. -/
theorem run_nalTurn_unit (ptr n : Nat) (m : Mem) (h4 : 4 < n) (hn : n < 2147483648)
    (hx : nalAdvance (unitLen (m.slice ptr n)) ≤ n) :
    (nalTurn ptr n).run m = (.ok (.again (ptr + nalAdvance (unitLen (m.slice ptr n)),
      (n : Int) - nalAdvance (unitLen (m.slice ptr n)))), m.memcpy ptr startCode) := by
  have hload := run_loadSwap4 ptr n m (by omega)
  have hput := run_putStartCode ptr m
  have hmod : (n + 4294967296 - nalAdvance (unitLen (m.slice ptr n))) % 4294967296 =
      n - nalAdvance (unitLen (m.slice ptr n)) := by
    omega
  have hint := toInt32_of_lt (n - nalAdvance (unitLen (m.slice ptr n))) (by omega)
  unfold nalTurn
  rw [if_pos (by omega)]
  simp only [Access.bind_eq, toUInt32_of_nonneg n (by omega)]
  rw [Access.run_bind_ok hload, if_neg (by omega), Access.run_bind_ok hput, hmod, hint,
    Int.ofNat_sub hx]
  rfl

/-- A turn reads and stores the four bytes of the length, and only where more than four are
left. -/
theorem mem_touched_nalTurn {ptr : Nat} {dataLen : Int} {m : Mem} {i : Nat}
    (hi : i ∈ (nalTurn ptr dataLen).touched m) : 4 < dataLen ∧ ptr ≤ i ∧ i < ptr + 4 := by
  by_cases h4 : dataLen > 4
  · unfold nalTurn at hi
    rw [if_pos h4] at hi
    simp only [Access.bind_eq, Access.touched_bind_ok (run_loadSwap4 ptr 4 m (Nat.le_refl 4)),
      touched_loadSwap4] at hi
    split at hi
    · simp only [Access.pure_eq_ret, Access.touched_ret, List.mem_append, List.mem_cons,
        List.not_mem_nil, or_false] at hi
      omega
    · simp only [Access.touched_bind_ok (run_putStartCode ptr m), touched_putStartCode,
        Access.pure_eq_ret, Access.touched_ret, List.mem_append, List.mem_cons, List.not_mem_nil,
        or_false] at hi
      omega
  · rw [nalTurn_stop ptr (by omega)] at hi
    cases hi

/-- The loop is left at four bytes or fewer and at a unit that exceeds what is left; any other turn
stores a start code and goes on behind the unit. -/
theorem NalState.step_cases {s : NalState} (h : s.Ready) :
    (s.dataLen ≤ 4 ∧ nalStep s = .done (.ok true, s.mem)) ∨
      (4 < s.dataLen ∧ s.dataLen < s.advance ∧ nalStep s = .done (.ok false, s.mem)) ∨
        (4 < s.dataLen ∧ s.advance ≤ s.dataLen ∧ nalStep s = .again s.next) := by
  obtain ⟨m, ptr, dataLen⟩ := s
  obtain ⟨h0, hint⟩ := h
  obtain ⟨n, rfl⟩ := Int.eq_ofNat_of_zero_le h0
  change (n : Int) < 2147483648 at hint
  by_cases h4 : (n : Int) ≤ 4
  · left
    refine ⟨h4, ?_⟩
    unfold nalStep
    rw [nalTurn_stop ptr h4]
    rfl
  · right
    by_cases hx : n < nalAdvance (unitLen (m.slice ptr n))
    · left
      have hrun := run_nalTurn_exceeds ptr n m (by omega) (by omega) hx
      refine ⟨Int.not_le.1 h4, Int.ofNat_lt.2 hx, ?_⟩
      unfold nalStep
      rw [hrun]
    · right
      have hrun := run_nalTurn_unit ptr n m (by omega) (by omega) (by omega)
      refine ⟨Int.not_le.1 h4, Int.ofNat_le.2 (Nat.le_of_not_lt hx), ?_⟩
      unfold nalStep
      rw [hrun]
      rfl

/-- Another turn follows only a unit that fits. -/
theorem NalState.of_again {s s' : NalState} (h : s.Ready) (hturn : nalStep s = .again s') :
    4 < s.dataLen ∧ s.advance ≤ s.dataLen ∧ s' = s.next := by
  rcases s.step_cases h with ⟨-, hstep⟩ | ⟨-, -, hstep⟩ | ⟨h4, hfits, hstep⟩
  · cases hstep.symm.trans hturn
  · cases hstep.symm.trans hturn
  · cases hstep.symm.trans hturn
    exact ⟨h4, hfits, rfl⟩

/-! ### The data that is left -/

/-- What is left behind a turn. -/
theorem NalState.data_next {s : NalState} (h4 : 4 < s.dataLen) :
    s.next.data = unitRest s.data := by
  have hrest := slice_unitRest s.ptr s.dataLen.toNat s.mem (by omega)
  have hlen : (s.dataLen - s.advance).toNat = s.dataLen.toNat - s.advance := by omega
  unfold data next
  dsimp only
  rw [hlen]
  exact hrest

/-- The turns that a state can take: two for each byte that is left, and one more unless its first
length is that of a start code. -/
def NalState.turnsLeft (s : NalState) : Nat :=
  2 * s.dataLen.toNat + if unitLen s.data = 1 then 0 else 1

/-- A turn lowers them: where the data does not get shorter, its length is overwritten. -/
theorem NalState.turnsLeft_next {s : NalState} (h4 : 4 < s.dataLen) :
    s.next.turnsLeft < s.turnsLeft := by
  have hdata := s.data_next h4
  have hlen : s.next.dataLen = s.dataLen - s.advance := rfl
  unfold turnsLeft
  rw [hdata, hlen]
  by_cases hzero : s.advance = 0
  · have hone : unitLen (unitRest s.data) = 1 := unitLen_unitRest hzero
    have hold : unitLen s.data ≠ 1 := by
      intro hold
      have hfive : s.advance = 5 := by
        unfold advance
        rw [hold]
        rfl
      omega
    rw [if_pos hone, if_neg hold]
    omega
  · split <;> split <;> omega

/-- The state is inside the data that the loop has begun with. -/
def NalState.Inside (first s : NalState) : Prop :=
  s.Ready ∧ first.ptr ≤ s.ptr ∧ s.ptr + s.dataLen = first.ptr + first.dataLen

/-- A turn stays inside. -/
theorem NalState.Inside.again {first s s' : NalState} (h : first.Inside s)
    (hturn : nalStep s = .again s') : first.Inside s' := by
  obtain ⟨hready, hptr, hend⟩ := h
  obtain ⟨h4, hfits, rfl⟩ := NalState.of_again hready hturn
  obtain ⟨h0, hint⟩ := hready
  have hlen : s.next.dataLen = s.dataLen - s.advance := rfl
  have hnext : s.next.ptr = s.ptr + s.advance := rfl
  refine ⟨⟨by omega, by omega⟩, by omega, by omega⟩

/-- A turn inside lowers the turns that are left. -/
theorem NalState.Inside.turnsLeft_lt {first s s' : NalState} (h : first.Inside s)
    (hturn : nalStep s = .again s') : s'.turnsLeft < s.turnsLeft := by
  obtain ⟨h4, -, rfl⟩ := NalState.of_again h.1 hturn
  exact s.turnsLeft_next h4

/-! ### The whole loop -/

/-- The loop takes the turn. -/
theorem run_nalLoop_again {s s' : NalState} (h : s.Ready) (hturn : nalStep s = .again s')
    (fuel : Nat) :
    (nalLoop (fuel + 1) s.ptr s.dataLen).run s.mem =
      (nalLoop fuel s'.ptr s'.dataLen).run s'.mem := by
  obtain ⟨h4, hfits, rfl⟩ := NalState.of_again h hturn
  obtain ⟨m, ptr, dataLen⟩ := s
  obtain ⟨h0, hint⟩ := h
  obtain ⟨n, rfl⟩ := Int.eq_ofNat_of_zero_le h0
  change (n : Int) < 2147483648 at hint
  have hx : nalAdvance (unitLen (m.slice ptr n)) ≤ n := Int.ofNat_le.1 hfits
  have hrun := (nalLoop_unit fuel ptr n m (Int.ofNat_lt.1 h4) (by omega) hx).1
  rw [Int.ofNat_sub hx] at hrun
  exact hrun

/-- The loop is left where the turn ends it, with a result and the memory as it is. -/
theorem run_nalLoop_done {s : NalState} {r : Except Fault Bool × Mem} (h : s.Ready)
    (hturn : nalStep s = .done r) :
    (∃ taken, r = (.ok taken, s.mem)) ∧
      ∀ fuel, (nalLoop (fuel + 1) s.ptr s.dataLen).run s.mem = r := by
  rcases s.step_cases h with ⟨hstop, hstep⟩ | ⟨h4, hx, hstep⟩ | ⟨-, -, hstep⟩
  · cases hstep.symm.trans hturn
    refine ⟨⟨true, rfl⟩, fun fuel ↦ ?_⟩
    rw [nalLoop_stop (fuel + 1) s.ptr hstop]
    rfl
  · cases hstep.symm.trans hturn
    refine ⟨⟨false, rfl⟩, fun fuel ↦ ?_⟩
    obtain ⟨m, ptr, dataLen⟩ := s
    obtain ⟨h0, hint⟩ := h
    obtain ⟨n, rfl⟩ := Int.eq_ofNat_of_zero_le h0
    change (n : Int) < 2147483648 at hint
    exact (nalLoop_exceeds fuel ptr n m (Int.ofNat_lt.1 h4) (by omega) (Int.ofNat_lt.1 hx)).1
  · cases hstep.symm.trans hturn

variable {first s : NalState} {n : Nat}

/-- The loop takes the turns one after the other. -/
theorem run_nalLoop_turns (hturns : Turns nalStep n first s) (h : first.Ready) (fuel : Nat) :
    (nalLoop (n + fuel) first.ptr first.dataLen).run first.mem =
      (nalLoop fuel s.ptr s.dataLen).run s.mem := by
  induction hturns with
  | refl s => rw [Nat.zero_add]
  | @again n s s₁ s' hturn hturns ih =>
    have hinside : s.Inside s₁ := NalState.Inside.again ⟨h, Nat.le_refl _, rfl⟩ hturn
    have hcount : n + 1 + fuel = n + fuel + 1 := by omega
    rw [hcount, run_nalLoop_again h hturn, ih hinside.1]

/-- Every state that the loop comes to is inside, after fewer turns than the rounds of the model. -/
theorem inside_of_turns (hturns : Turns nalStep n first s) (h : first.Ready) :
    first.Inside s ∧ n < nalFuel first.dataLen := by
  have hfirst : first.Inside first := ⟨h, Nat.le_refl _, rfl⟩
  have hkeep (s s' : NalState) (hs : first.Inside s) (hturn : nalStep s = .again s') :
      first.Inside s' := hs.again hturn
  have hcount := hturns.add_measure_le hkeep (fun _ _ hs hturn ↦ hs.turnsLeft_lt hturn) hfirst
  refine ⟨hturns.invariant hkeep hfirst, ?_⟩
  have hmost : first.turnsLeft ≤ 2 * first.dataLen.toNat + 1 := by
    unfold NalState.turnsLeft
    split <;> omega
  unfold nalFuel
  omega

/-- The loop ends: after some turns it is left with a result, which `nalLoop` gives for any larger
number of rounds. -/
theorem exists_turns (h : first.Ready) :
    ∃ n s taken, Turns nalStep n first s ∧ nalStep s = .done (.ok taken, s.mem) ∧
      ∀ fuel, n < fuel →
        (nalLoop fuel first.ptr first.dataLen).run first.mem = (.ok taken, s.mem) := by
  have hfirst : first.Inside first := ⟨h, Nat.le_refl _, rfl⟩
  obtain ⟨n, s, r, hturns, hdone⟩ :=
    Turns.exists_done (fun _ _ (hs : first.Inside _) hturn ↦ hs.again hturn)
      (fun _ _ hs hturn ↦ hs.turnsLeft_lt hturn) hfirst
  obtain ⟨hinside, -⟩ := inside_of_turns hturns h
  obtain ⟨⟨taken, rfl⟩, hrun⟩ := run_nalLoop_done hinside.1 hdone
  refine ⟨n, s, taken, hturns, hdone, fun fuel hfuel ↦ ?_⟩
  obtain ⟨more, rfl⟩ : ∃ more, fuel = n + (more + 1) := ⟨fuel - n - 1, by omega⟩
  rw [run_nalLoop_turns hturns h, hrun]

/-- Over any data the loop ends, and in every state that it comes to the length is not negative,
the data that is left lies in the data that the loop has begun with, and the bytes that the next
turn reads and stores lie in the data that is left. -/
theorem nalLoop_ends {ptr : Nat} {dataLen : Int} (h0 : 0 ≤ dataLen)
    (hint : dataLen < 2147483648) (m : Mem) :
    (∃ n s taken, Turns nalStep n ⟨m, ptr, dataLen⟩ s ∧ nalStep s = .done (.ok taken, s.mem) ∧
      ∀ fuel, n < fuel → (nalLoop fuel ptr dataLen).run m = (.ok taken, s.mem)) ∧
    ∀ n s, Turns nalStep n ⟨m, ptr, dataLen⟩ s →
      n < nalFuel dataLen ∧ 0 ≤ s.dataLen ∧ ptr ≤ s.ptr ∧ s.ptr + s.dataLen = ptr + dataLen ∧
        ∀ i ∈ (nalTurn s.ptr s.dataLen).touched s.mem,
          s.ptr ≤ i ∧ (i : Int) < s.ptr + s.dataLen := by
  have hready : NalState.Ready ⟨m, ptr, dataLen⟩ := ⟨h0, hint⟩
  refine ⟨exists_turns hready, fun n s hturns ↦ ?_⟩
  obtain ⟨⟨⟨hlen, -⟩, hptr, hend⟩, hcount⟩ := inside_of_turns hturns hready
  refine ⟨hcount, hlen, hptr, hend, fun i hi ↦ ?_⟩
  obtain ⟨h4, hlow, hhigh⟩ := mem_touched_nalTurn hi
  exact ⟨hlow, by omega⟩

/-- A frame whose first length is `0xfffffffc`. -/
def wrappingFrame : List UInt8 := [0xff, 0xff, 0xff, 0xfc, 0x65, 0x88, 0x84, 0x00, 0x21]

/-- The first turn does not advance over this frame, and the loop ends. -/
theorem nalLoop_ends_wrapping :
    nalAdvance (unitLen wrappingFrame) = 0 ∧
      ∃ n s taken, Turns nalStep n ⟨Mem.ofList wrappingFrame, 0, 9⟩ s ∧
        nalStep s = .done (.ok taken, s.mem) ∧ ∀ fuel, n < fuel →
          (nalLoop fuel 0 9).run (Mem.ofList wrappingFrame) = (.ok taken, s.mem) :=
  ⟨by decide, (nalLoop_ends (by decide) (by decide) (Mem.ofList wrappingFrame)).1⟩

end RtmpRecv.Client
