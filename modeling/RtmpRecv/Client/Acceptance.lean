import RtmpRecv.Client.AnnexB

/-!
# Which video bodies are taken

Library `Client`. The loop of `rtmp_process_video` is compared with the grammar of a frame: units,
each behind its length. It takes every such frame, and it takes some bytes that are none: it does
not look at the last four bytes or fewer, and the 32-bit sum of a length and four may wrap.
-/

namespace RtmpRecv.Client
open RtmpRecv.Base RtmpRecv.Tots RtmpRecv.Wire

/-! ### Frames and loose ends -/

/-- The data are units, each behind its length, and at least one. -/
def FilledByUnits (data : List UInt8) : Prop :=
  ∃ units, units ≠ [] ∧ data = lengthPrefixed units

/-- Units may stand in front of what is no unit and is not refused either: up to four bytes that
are not the length of an empty unit, or a length that wraps. Where it wraps, a start code is stored
over the length and what counts is the rest from inside of it on. -/
inductive LooseEnd : List UInt8 → Prop where
  | short {data : List UInt8} (hne : data ≠ []) (h4 : data.length ≤ 4)
      (hunit : data ≠ [0, 0, 0, 0]) : LooseEnd data
  | wrappedUnits {data : List UInt8} (h4 : 4 < data.length) (hwraps : 4294967292 ≤ unitLen data)
      (hrest : FilledByUnits (unitRest data)) : LooseEnd data
  | wrappedLoose {data : List UInt8} (h4 : 4 < data.length) (hwraps : 4294967292 ≤ unitLen data)
      (hrest : LooseEnd (unitRest data)) : LooseEnd data
  | behind {unit rest : List UInt8} (hrest : LooseEnd rest) :
      LooseEnd (be32Bytes unit.length ++ (unit ++ rest))

/-- A length that does not wrap and does not exceed the data. -/
private theorem split_unit {data : List UInt8} (h4 : 4 < data.length)
    (hlen : unitLen data < 4294967292) (hfits : nalAdvance (unitLen data) ≤ data.length) :
    ∃ unit, data = be32Bytes unit.length ++ (unit ++ unitRest data) := by
  have hadv : nalAdvance (unitLen data) = unitLen data + 4 := Nat.mod_eq_of_lt (by omega)
  refine ⟨(data.drop 4).take (unitLen data), ?_⟩
  have hunit : ((data.drop 4).take (unitLen data)).length = unitLen data := by
    rw [List.length_take, List.length_drop]
    omega
  have hrest : unitRest data = (data.drop 4).drop (unitLen data) := by
    have hstart : startCode.length = 4 := rfl
    unfold unitRest
    rw [hadv, List.drop_append, List.drop_eq_nil_of_le (by omega), List.nil_append, hstart,
      Nat.add_sub_cancel]
  have hfirst : be32Bytes (unitLen data) = data.take 4 := by
    unfold unitLen
    rw [be32Bytes_be32]
    apply List.ext_getElem
    · rw [List.length_take]
      change 4 = _
      omega
    · intro i hi _
      have hcases : i = 0 ∨ i = 1 ∨ i = 2 ∨ i = 3 := by
        change i < 4 at hi
        omega
      rw [List.getElem_take, ← List.getD_eq_getElem data 0 (by omega)]
      rcases hcases with rfl | rfl | rfl | rfl
      · rfl
      · rfl
      · rfl
      · rfl
  rw [hunit, hrest, List.take_append_drop, hfirst, List.take_append_drop]

/-- What is not refused is a frame, nothing, or has a loose end. -/
private theorem taken_cases (fuel : Nat) {data : List UInt8} (hfuel : EnoughRounds fuel data)
    (hn : data.length < 4294967296) (h : ¬UnitsRefused data) :
    data = [] ∨ FilledByUnits data ∨ LooseEnd data := by
  have hshort (data : List UInt8) (hle : data.length ≤ 4) :
      data = [] ∨ FilledByUnits data ∨ LooseEnd data := by
    by_cases hnil : data = []
    · exact Or.inl hnil
    · by_cases hunit : data = [0, 0, 0, 0]
      · exact Or.inr (Or.inl ⟨[[]], List.cons_ne_nil _ _, hunit⟩)
      · exact Or.inr (Or.inr (LooseEnd.short hnil hle hunit))
  induction fuel generalizing data with
  | zero =>
    apply hshort data
    unfold EnoughRounds at hfuel
    omega
  | succ fuel ih =>
    by_cases h4 : 4 < data.length
    · have hfits : nalAdvance (unitLen data) ≤ data.length :=
        Nat.le_of_not_lt fun hx ↦ h (UnitsRefused.here h4 hx)
      have hrest : ¬UnitsRefused (unitRest data) := fun hr ↦ h (UnitsRefused.later h4 hfits hr)
      have hlen : (unitRest data).length = data.length - nalAdvance (unitLen data) :=
        length_unitRest h4
      have hbelow : unitLen data < 4294967296 := be32_lt _ _ _ _
      have hcases := ih (hfuel.rest h4 hfits) (by omega) hrest
      by_cases hwraps : 4294967292 ≤ unitLen data
      · have hadv : nalAdvance (unitLen data) ≤ 3 := by
          unfold nalAdvance
          omega
        rcases hcases with hnil | hfilled | hloose
        · rw [hnil, List.length_nil] at hlen
          omega
        · exact Or.inr (Or.inr (LooseEnd.wrappedUnits h4 hwraps hfilled))
        · exact Or.inr (Or.inr (LooseEnd.wrappedLoose h4 hwraps hloose))
      · obtain ⟨unit, hsplit⟩ := split_unit h4 (Nat.lt_of_not_le hwraps) hfits
        rcases hcases with hnil | ⟨units, -, hunits⟩ | hloose
        · refine Or.inr (Or.inl ⟨[unit], List.cons_ne_nil _ _, ?_⟩)
          rw [lengthPrefixed_cons, hsplit, hnil]
          rfl
        · refine Or.inr (Or.inl ⟨unit :: units, List.cons_ne_nil _ _, ?_⟩)
          rw [lengthPrefixed_cons, ← hunits]
          exact hsplit
        · rw [hsplit]
          exact Or.inr (Or.inr (LooseEnd.behind hloose))
    · exact hshort data (by omega)

/-- A loose end is not refused. -/
private theorem not_refused_of_looseEnd {data : List UInt8} (h : LooseEnd data)
    (hn : data.length < 4294967296) : ¬UnitsRefused data := by
  have hwrapped {data : List UInt8} (h4 : 4 < data.length) (hwraps : 4294967292 ≤ unitLen data)
      (hrest : (unitRest data).length ≤ data.length → ¬UnitsRefused (unitRest data)) :
      ¬UnitsRefused data := by
    have hbelow : unitLen data < 4294967296 := be32_lt _ _ _ _
    have hadv : nalAdvance (unitLen data) ≤ 3 := by
      unfold nalAdvance
      omega
    have hlen := length_unitRest h4
    rw [unitsRefused_iff_rest h4 (by omega)]
    exact hrest (by omega)
  induction h with
  | short _ h4 _ => exact not_unitsRefused_of_le h4
  | wrappedUnits h4 hwraps hrest =>
    obtain ⟨units, -, hunits⟩ := hrest
    apply hwrapped h4 hwraps
    intro hle
    rw [hunits] at hle ⊢
    exact not_unitsRefused_lengthPrefixed units (by omega)
  | wrappedLoose h4 hwraps _ ih =>
    apply hwrapped h4 hwraps
    intro hle
    exact ih (by omega)
  | @behind unit rest _ ih =>
    have hlen : (be32Bytes unit.length ++ (unit ++ rest)).length =
        4 + (unit.length + rest.length) := by
      rw [List.length_append, List.length_append, length_be32Bytes]
    by_cases h4 : 4 < (be32Bytes unit.length ++ (unit ++ rest)).length
    · have hadv := nalAdvance_prefixed unit rest (by omega)
      rw [unitsRefused_iff_rest h4 (by omega), unitRest_prefixed unit rest (by omega)]
      exact ih (by omega)
    · exact not_unitsRefused_of_le (by omega)

/-- A frame has no loose end. -/
private theorem not_looseEnd_lengthPrefixed {data : List UInt8} (h : LooseEnd data)
    (hn : data.length < 4294967296) (units : List (List UInt8)) : data ≠ lengthPrefixed units := by
  have hwrapped {data : List UInt8} (hn : data.length < 4294967296) (h4 : 4 < data.length)
      (hwraps : 4294967292 ≤ unitLen data) (units : List (List UInt8)) :
      data ≠ lengthPrefixed units := by
    rintro rfl
    cases units with
    | nil => exact absurd h4 (by decide)
    | cons unit units =>
      have hlen := length_lengthPrefixed_cons unit units
      rw [unitLen_lengthPrefixed unit units (by omega)] at hwraps
      omega
  induction h generalizing units with
  | short hne h4 hunit =>
    rintro rfl
    exact hunit (lengthPrefixed_four h4 hne)
  | wrappedUnits h4 hwraps _ => exact hwrapped hn h4 hwraps units
  | wrappedLoose h4 hwraps _ _ => exact hwrapped hn h4 hwraps units
  | @behind unit rest _ ih =>
    have hlen : (be32Bytes unit.length ++ (unit ++ rest)).length =
        4 + (unit.length + rest.length) := by
      rw [List.length_append, List.length_append, length_be32Bytes]
    intro heq
    cases units with
    | nil =>
      have hnone := congrArg List.length heq
      rw [hlen] at hnone
      change _ = 0 at hnone
      omega
    | cons unit' units =>
      have hlen' := length_lengthPrefixed_cons unit' units
      rw [← heq] at hlen'
      have hfirst := congrArg unitLen heq
      have hrest := congrArg unitRest heq
      rw [unitLen_prefixed unit rest (by omega), unitLen_lengthPrefixed unit' units (by omega)]
        at hfirst
      rw [unitRest_prefixed unit rest (by omega), unitRest_lengthPrefixed unit' units (by omega)]
        at hrest
      exact ih (by omega) units hrest

/-- What is taken: a frame, nothing, or bytes with a loose end. -/
theorem not_unitsRefused_iff {data : List UInt8} (hn : data.length < 4294967296) :
    ¬UnitsRefused data ↔ data = [] ∨ FilledByUnits data ∨ LooseEnd data := by
  constructor
  · exact taken_cases (2 * data.length + 1) (Or.inl (Nat.le_refl _)) hn
  · rintro (rfl | ⟨units, -, rfl⟩ | hloose)
    · exact not_unitsRefused_of_le (Nat.zero_le _)
    · exact not_unitsRefused_lengthPrefixed units hn
    · exact not_refused_of_looseEnd hloose hn

/-! ### Messages -/

section

variable (c : RtmpClient) (chunk : RtmpChunk) (n : Nat) (m : Mem)

/-- The message is handed over as a frame, and the handler returns 0. A key frame comes behind the
stored head, which lies in its array. -/
structure AcceptsVideo : Prop where
  handed : ∃ pack m', (rtmpProcessVideoFrame c chunk n).run m = (.ok (.frame pack c), m')
  returns : (m 0 >>> 4 = 1 → c.videoHeadDataLen ≤ 1024) →
    ∃ c', ((rtmpProcessVideo c chunk n).run m).1 = .ok (0, c')

/-- The handler returns -1, hands nothing over and emits nothing. -/
structure RejectsVideo : Prop where
  kept : ∀ pack c' m', (rtmpProcessVideoFrame c chunk n).run m ≠ (.ok (.frame pack c'), m')
  returns : ∃ c', ((rtmpProcessVideo c chunk n).run m).1 = .ok (-1, c') ∧
    c'.rtmpSavetots = c.rtmpSavetots

/-- The message is accepted if and only if units fill what is behind the tag, and rejected
otherwise. -/
def JudgesUnits : Prop :=
  (AcceptsVideo c chunk n m ↔ FilledByUnits (m.slice 5 (n - 5))) ∧
    (¬FilledByUnits (m.slice 5 (n - 5)) → RejectsVideo c chunk n m)

end

section

variable {c : RtmpClient} {chunk : RtmpChunk} {n : Nat} {m : Mem}

private theorem rejects_of_refused (h5 : 5 ≤ n) (hn : n < 2147483648) (hcodec : m 0 &&& 0x0f = 7)
    (hkind : m 1 = 1) (hr : UnitsRefused (m.slice 5 (n - 5))) : RejectsVideo c chunk n m := by
  have hrecord : ¬(m 0 >>> 4 = 1 ∧ m 1 = 0) := by
    rw [hkind]
    exact fun h ↦ absurd h.2 (by decide)
  obtain ⟨hframe, -⟩ := videoFrame_units c chunk h5 hn hcodec hrecord
  obtain ⟨⟨m', hrun⟩, -⟩ := unitsPart_refused c (videoPack c chunk m (n - 5)) h5 hn hr
  rw [hrun] at hframe
  constructor
  · intro pack c' m'' h
    rw [hframe] at h
    cases h
  · exact ⟨c, congrArg Prod.fst (video_done hframe).1, rfl⟩

private theorem accepts_of_taken {ps : List (List UInt8)} (hmuxed : Muxed c.rtmpSavetots ps)
    (h5 : 5 ≤ n) (hn : n < 2147483648) (hcodec : m 0 &&& 0x0f = 7) (hkind : m 1 = 1)
    (hr : ¬UnitsRefused (m.slice 5 (n - 5))) : AcceptsVideo c chunk n m := by
  have hrecord : ¬(m 0 >>> 4 = 1 ∧ m 1 = 0) := by
    rw [hkind]
    exact fun h ↦ absurd h.2 (by decide)
  obtain ⟨hframe, -⟩ := videoFrame_units c chunk h5 hn hcodec hrecord
  obtain ⟨m', hrun, -⟩ := unitsPart_taken c (videoPack c chunk m (n - 5)) h5 hn hr
  rw [hrun] at hframe
  constructor
  · exact ⟨_, m', hframe⟩
  · intro hhead
    have hwraps : ¬(Call.mk c.getMillisecond64.1 (videoPack c chunk m (n - 5)) m').Wraps := by
      have hlen : (videoPack c chunk m (n - 5)).headDataLen +
          (videoPack c chunk m (n - 5)).dataLen =
          (if m 0 >>> 4 = 1 then c.videoHeadDataLen else 0) + (n - 5) := rfl
      unfold Call.Wraps
      dsimp only
      rw [hlen]
      split
      · next hkey =>
        have := hhead hkey
        omega
      · omega
    have hstep := hmuxed.stepped (Call.mk c.getMillisecond64.1 (videoPack c chunk m (n - 5)) m')
    rw [processed_frame hframe]
    generalize (Call.mk c.getMillisecond64.1 (videoPack c chunk m (n - 5)) m').result
      c.rtmpSavetots = result at hstep
    cases hstep with
    | silent => exact ⟨_, rfl⟩
    | overrun h => exact absurd h hwraps
    | emitted => exact ⟨_, rfl⟩

/-- A message is not accepted and rejected. -/
private theorem AcceptsVideo.not_rejects (h : AcceptsVideo c chunk n m) :
    ¬RejectsVideo c chunk n m := by
  intro hr
  obtain ⟨pack, m', hframe⟩ := h.handed
  exact hr.kept pack c m' hframe

end

/-- Messages are judged by their units exactly when something is behind the tag and it has no loose
end. -/
theorem rtmpProcessVideo_acceptance (pesBuf : Mem) (tsFp : Bool) (start : Nat) {calls : List Call}
    {c : RtmpClient} (hmuxer : runCalls (rtmpTots pesBuf tsFp start) calls = .ok c.rtmpSavetots)
    (chunk : RtmpChunk) {n : Nat} (h5 : 5 ≤ n) (hn : n < 2147483648) {m : Mem}
    (hcodec : m 0 &&& 0x0f = 7) (hkind : m 1 = 1) :
    JudgesUnits c chunk n m ↔ m.slice 5 (n - 5) ≠ [] ∧ ¬LooseEnd (m.slice 5 (n - 5)) := by
  obtain ⟨ps, hmuxed⟩ := (muxed_rtmpTots pesBuf tsFp start).runCalls hmuxer
  have hlen := Mem.length_slice m 5 (n - 5)
  have hdata : (m.slice 5 (n - 5)).length < 4294967296 := by omega
  have hiff := not_unitsRefused_iff hdata
  have haccepts : ¬UnitsRefused (m.slice 5 (n - 5)) → AcceptsVideo c chunk n m :=
    accepts_of_taken hmuxed h5 hn hcodec hkind
  have hrejects : UnitsRefused (m.slice 5 (n - 5)) → RejectsVideo c chunk n m :=
    rejects_of_refused h5 hn hcodec hkind
  unfold JudgesUnits
  generalize m.slice 5 (n - 5) = data at hiff haccepts hrejects hdata
  constructor
  · rintro ⟨htaken, -⟩
    have hfilled (h : data = [] ∨ FilledByUnits data ∨ LooseEnd data) :
        ∃ units, units ≠ [] ∧ data = lengthPrefixed units := htaken.1 (haccepts (hiff.2 h))
    constructor
    · intro hnil
      obtain ⟨units, hne, hunits⟩ := hfilled (Or.inl hnil)
      obtain ⟨unit, units, rfl⟩ := List.exists_cons_of_ne_nil hne
      have hpos := length_lengthPrefixed_cons unit units
      rw [← hunits, hnil, List.length_nil] at hpos
      omega
    · intro hloose
      obtain ⟨units, -, hunits⟩ := hfilled (Or.inr (Or.inr hloose))
      exact not_looseEnd_lengthPrefixed hloose hdata units hunits
  · rintro ⟨hne, hloose⟩
    have htaken : ¬UnitsRefused data ↔ FilledByUnits data := by
      rw [hiff]
      simp [hne, hloose]
    constructor
    · constructor
      · exact fun ha ↦ htaken.1 fun hr ↦ ha.not_rejects (hrejects hr)
      · exact fun hfilled ↦ haccepts (htaken.2 hfilled)
    · intro hnot
      by_cases hr : UnitsRefused data
      · exact hrejects hr
      · exact absurd (htaken.1 hr) hnot

/-- A frame of one unit with one byte. -/
theorem rtmpProcessVideo_acceptance_one :
    JudgesUnits (rtmpClient blankClient) RtmpChunk.zero 10
        (Mem.ofList [0x27, 1, 0, 0, 0, 0, 0, 0, 1, 0x41]) ↔
      (Mem.ofList [0x27, 1, 0, 0, 0, 0, 0, 0, 1, 0x41]).slice 5 (10 - 5) ≠ [] ∧
        ¬LooseEnd ((Mem.ofList [0x27, 1, 0, 0, 0, 0, 0, 0, 1, 0x41]).slice 5 (10 - 5)) := by
  have hmuxer : runCalls (rtmpTots (fun _ ↦ 0) true 0) [] =
      .ok (rtmpClient blankClient).rtmpSavetots := rfl
  exact rtmpProcessVideo_acceptance (fun _ ↦ 0) true 0 hmuxer RtmpChunk.zero (by decide) (by decide)
    (by decide) (by decide)

/-- Behind the tag, a length of `0xfffffffc` and one byte. -/
def wrappedLength : Mem :=
  Mem.ofList [0x27, 1, 0, 0, 0, 0xff, 0xff, 0xff, 0xfc, 0x41]

/-- The sum of the length and four is zero, so the unit is not refused: the frame is emitted. -/
theorem rtmpProcessVideo_accepts_wrapped :
    ¬FilledByUnits (wrappedLength.slice 5 5) ∧
      ¬JudgesUnits (rtmpClient blankClient) RtmpChunk.zero 10 wrappedLength ∧
      ∃ c', ((rtmpProcessVideo (rtmpClient blankClient) RtmpChunk.zero 10).run wrappedLength).1 =
        .ok (0, c') ∧ (unitsOf videoPid (packets c'.rtmpSavetots.output.emitted)).length = 1 := by
  have hfilled : ¬FilledByUnits (wrappedLength.slice 5 5) := by
    rintro ⟨units, hne, hunits⟩
    obtain ⟨unit, units, rfl⟩ := List.exists_cons_of_ne_nil hne
    have hlen := length_lengthPrefixed_cons unit units
    rw [← hunits, Mem.length_slice] at hlen
    have hread : unitLen (wrappedLength.slice 5 5) = 4294967292 := by decide
    rw [hunits, unitLen_lengthPrefixed unit units (by omega)] at hread
    omega
  have hsome : ((rtmpProcessVideo (rtmpClient blankClient) RtmpChunk.zero 10).run
      wrappedLength).1.map (fun r ↦
        (r.1, (unitsOf videoPid (packets r.2.rtmpSavetots.output.emitted)).length)) =
      .ok (0, 1) := by
    decide +kernel
  cases hrun : ((rtmpProcessVideo (rtmpClient blankClient) RtmpChunk.zero 10).run
    wrappedLength).1 with
  | error e =>
    rw [hrun] at hsome
    cases hsome
  | ok r =>
    rw [hrun] at hsome
    injection hsome with hsome
    obtain ⟨hret, hunits⟩ := Prod.mk.inj hsome
    refine ⟨hfilled, ?_, r.2, ?_, hunits⟩
    · rintro ⟨-, hrejects⟩
      obtain ⟨c', hreturns, -⟩ := (hrejects hfilled).returns
      change ((rtmpProcessVideo (rtmpClient blankClient) RtmpChunk.zero 10).run
        wrappedLength).1 = _ at hreturns
      rw [hrun] at hreturns
      have hneg := congrArg Prod.fst (Except.ok.inj hreturns)
      omega
    · have hok : (Except.ok (r.1, r.2) : Except Fault (Int × RtmpClient)) = .ok (0, r.2) := by
        rw [hret]
      exact hok

end RtmpRecv.Client
