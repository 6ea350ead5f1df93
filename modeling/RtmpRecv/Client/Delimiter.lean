import RtmpRecv.Client.AnnexB
import RtmpRecv.Tots.Clock
import RtmpRecv.Wire.Pes

/-!
# Access unit delimiters

Library `Client`. The test for a delimiter looks at the head data of a key frame and not at its
units. It finds out what the frame starts with for the other frames only.
-/

namespace RtmpRecv.Client
open RtmpRecv.Base RtmpRecv.Tots RtmpRecv.Wire

/-! ### Runs of sequence headers and frames -/

/-- A frame of a run: the client before and after it, and the units of the last sequence header
before it, if there was one. -/
structure Sent where
  before : RtmpClient
  head : Option (List (List UInt8))
  frame : AvcAccessUnit
  after : RtmpClient

/-- A run of sequence headers and frames on a fresh client, up to a client `c`, with the units of
the last sequence header and the frames so far. -/
inductive AvcRun (u : RtmpClient) : RtmpClient → Option (List (List UInt8)) → List Sent → Prop where
  | start (rtmpUrl rtmpApp rtmpStream : List UInt8) :
      AvcRun u (started u rtmpUrl rtmpApp rtmpStream) none []
  | header {c c' : RtmpClient} {head : Option (List (List UInt8))} {log : List Sent}
      {input : VideoInput} {h : AvcRecord} {ret : Int} (hrun : AvcRun u c head log)
      (hbody : input.body = h.body) (hstep : input.processed c = .ok (ret, c')) :
      AvcRun u c' (some h.storedUnits) log
  | frame {c c' : RtmpClient} {head : Option (List (List UInt8))} {log : List Sent}
      {input : VideoInput} {f : AvcAccessUnit} {ret : Int} (hrun : AvcRun u c head log)
      (hbody : input.body = f.body) (hlen : input.body.length < 2147483648)
      (hstep : input.processed c = .ok (ret, c')) :
      AvcRun u c' head (log ++ [⟨c, head, f, c'⟩])

/-- The video PES packets that a client has emitted. -/
def RtmpClient.videoUnits (c : RtmpClient) : List (List UInt8) :=
  unitsOf videoPid (packets c.rtmpSavetots.output.emitted)

/-- The video PES packets that a frame adds to those before. -/
def Sent.emitted (s : Sent) : List (List UInt8) :=
  s.after.videoUnits.drop s.before.videoUnits.length

/-- The units of the frame, behind those of the last sequence header for a key frame. -/
def Sent.units (s : Sent) : List (List UInt8) :=
  (if s.frame.frameType = keyType then s.head.getD [] else []) ++ s.frame.units

/-- The same for a key frame with empty head data, whose first unit is `first`: the start code,
which is of type `type`, is looked for in the memory of the head data all the same. -/
def EmptyHeadMeets (type : EsUnitStartType) (first : List UInt8) : Prop :=
  match type with
  | .startcode4 => True
  | .startcode3 => ¬IsDelimiter first
  | .init => IsDelimiter first
  | .aac => IsDelimiter first

/-- The condition for exactly one delimiter: a key frame behind a sequence header has none itself,
and none stands in the place of the first unit of the head data. Before any sequence header it
depends on what the memory of the head data holds. For other frames there is no condition. -/
def Sent.Meets (s : Sent) : Prop :=
  if s.frame.frameType = keyType then
    match s.head with
    | some _ => s.before.videoHeadData 4 ≠ 0x09 ∧ ¬IsDelimiter s.frame.first
    | none =>
      if s.before.videoHeadDataLen = 0 then
        EmptyHeadMeets (startTypeOf s.before.videoHeadData) s.frame.first
      else
        WellDelimited ((if lacksDelimiterAt (startTypeOf s.before.videoHeadData)
          s.before.videoHeadData then delimiter else []) ++ s.before.videoHead) ∧
          ¬IsDelimiter s.frame.first
  else True

/-! ### Sequence headers -/

/-- What is stored are whole units behind start codes. -/
theorem videoHead_withUnits (c : RtmpClient) (h : AvcRecord) :
    (c.withUnits h.sps h.pps).videoHead = startCoded h.storedUnits := by
  unfold RtmpClient.withUnits AvcRecord.storedUnits
  split
  · rw [videoHead_headStarted]
    rfl
  · split
    · rw [videoHead_headWithSps, startCoded_cons]
      rfl
    · exact videoHead_headStored c h.sps h.pps

/-- The stored units are at least one, and none of them is a delimiter. -/
theorem storedUnits_plain (h : AvcRecord) :
    h.storedUnits ≠ [] ∧ ∀ unit ∈ h.storedUnits, ¬IsDelimiter unit := by
  have hempty : ¬IsDelimiter [] := by
    unfold IsDelimiter
    decide
  have hsps : ¬IsDelimiter h.sps := h.sps_first
  have hpps : ¬IsDelimiter h.pps := h.pps_first
  unfold AvcRecord.storedUnits
  split
  · simp [hempty]
  · split
    · simp [hempty, hsps]
    · simp [hsps, hpps]

/-! ### Frames -/

/-- The head data and the data of the frame that a client hands over. -/
private theorem handed_frame {c c' : RtmpClient} {input : VideoInput} {f : AvcAccessUnit}
    (hbody : input.body = f.body) (hlen : input.body.length < 2147483648) {ret : Int}
    (hstep : input.processed c = .ok (ret, c')) :
    ∃ (m m' : Mem) (n : Nat) (r : Int × RtmpTots), (m 0 >>> 4 = 1 ↔ f.frameType = keyType) ∧
      m'.slice 5 n = startCoded f.units ∧
      (Call.mk c.getMillisecond64.1 (videoPack c input.chunk m n) m').result c.rtmpSavetots =
        .ok r ∧
      c' = { c.getMillisecond64.2 with rtmpSavetots := r.2 } := by
  obtain ⟨m', hframe, hslice, htype⟩ := videoFrame_frameBody hbody f.length_time f.unit_ne hlen c
  have hprocessed := processed_frame hframe
  change input.processed c = _ at hprocessed
  rw [hstep] at hprocessed
  generalize hresult : (Call.mk c.getMillisecond64.1 (videoPack c input.chunk input.mem
    (lengthPrefixed f.units).length) m').result c.rtmpSavetots = result at hprocessed
  cases result with
  | error e => cases hprocessed
  | ok r =>
    cases hprocessed
    exact ⟨_, m', _, r, htype, hslice, hresult, rfl⟩

/-- The two parts of a run that a frame relies on. -/
structure Settled (c : RtmpClient) (head : Option (List (List UInt8))) : Prop where
  head : ∀ units, head = some units →
    c.videoHead = startCoded units ∧ units ≠ [] ∧ ∀ unit ∈ units, ¬IsDelimiter unit
  muxed : ∃ ps, Muxed c.rtmpSavetots ps

section

variable {c : RtmpClient} {m m' : Mem} {n : Nat} {f : AvcAccessUnit}

private theorem headDataLen_videoPack (c : RtmpClient) (chunk : RtmpChunk) (m : Mem) (n : Nat) :
    (videoPack c chunk m n).headData = none → (videoPack c chunk m n).headDataLen = 0 := by
  by_cases hkey : m 0 >>> 4 = 1
  · simp [videoPack, hkey]
  · simp [videoPack, hkey]

/-- What the test for a delimiter says of a frame. -/
private def lacks (c : RtmpClient) (chunk : RtmpChunk) (m : Mem) (n : Nat) (m' : Mem) : Bool :=
  lacksDelimiterAt (startTypeOf (startBytes (videoPack c chunk m n) m'))
    (delimiterBytes (videoPack c chunk m n) m')

/-- What the muxer puts behind the header of the PES packet of a frame. -/
private def muxedPayload (c : RtmpClient) (chunk : RtmpChunk) (m : Mem) (n : Nat) (m' : Mem) :
    List UInt8 :=
  (if lacks c chunk m n m' then unitStart else []) ++ frameBytes (videoPack c chunk m n) m'

/-- The data of a frame starts with a start code and its first unit. -/
private theorem data_start (hslice : m'.slice 5 n = startCoded f.units) :
    startTypeOf (m'.shift 5) = .startcode4 ∧ (m'.shift 5) 3 = 1 ∧
      (m'.shift 5) 4 = f.first.getD 0 0 := by
  rw [f.units_eq] at hslice
  have hdata : (m'.shift 5).slice 0 n = startCoded (f.first :: f.units.tail) := by
    rw [Mem.slice_shift, hslice]
  obtain ⟨htype, hread⟩ := startCoded_start hdata
  have hne : f.first ≠ [] := f.unit_ne f.first (by rw [f.units_eq]; exact List.mem_cons_self)
  exact ⟨htype, (startTypeOf_startcode4 htype).2.2.2,
    hread 0 (List.length_pos_of_ne_nil hne)⟩

/-- A frame that is no key frame gets a delimiter if it has none. -/
private theorem lacks_other (chunk : RtmpChunk) (hkey : ¬m 0 >>> 4 = 1)
    (hslice : m'.slice 5 n = startCoded f.units) :
    lacks c chunk m n m' = true ↔ ¬IsDelimiter f.first := by
  obtain ⟨htype, -, hfirst⟩ := data_start hslice
  simp [lacks, startBytes, delimiterBytes, videoPack, hkey, htype, lacksDelimiterAt, hfirst,
    IsDelimiter]

/-- Behind stored units the test looks at the head data. -/
private theorem lacks_stored (chunk : RtmpChunk) (hkey : m 0 >>> 4 = 1)
    {units : List (List UInt8)} (hhead : c.videoHead = startCoded units) (hne : units ≠ []) :
    lacks c chunk m n m' = true ↔ c.videoHeadData 4 ≠ 0x09 := by
  obtain ⟨unit, rest, rfl⟩ := List.exists_cons_of_ne_nil hne
  obtain ⟨htype, -⟩ := startCoded_start hhead
  have hpos : 0 < c.videoHeadDataLen := by
    have hlen := congrArg List.length hhead
    have hstart : startCode.length = 4 := rfl
    rw [RtmpClient.videoHead, Mem.length_slice, startCoded_cons, List.length_append] at hlen
    omega
  simp [lacks, startBytes, delimiterBytes, videoPack, hkey, htype, lacksDelimiterAt, hpos]

/-- With memory of length zero as head data the start code is looked for there, and the delimiter in
the frame. -/
private theorem lacks_empty (chunk : RtmpChunk) (hkey : m 0 >>> 4 = 1)
    (hlen : c.videoHeadDataLen = 0) :
    lacks c chunk m n m' = lacksDelimiterAt (startTypeOf c.videoHeadData) (m'.shift 5) := by
  simp [lacks, startBytes, delimiterBytes, videoPack, hkey, hlen]

private theorem lacks_held (chunk : RtmpChunk) (hkey : m 0 >>> 4 = 1)
    (hlen : c.videoHeadDataLen ≠ 0) :
    lacks c chunk m n m' = lacksDelimiterAt (startTypeOf c.videoHeadData) c.videoHeadData := by
  have hpos : 0 < c.videoHeadDataLen := Nat.pos_of_ne_zero hlen
  simp [lacks, startBytes, delimiterBytes, videoPack, hkey, hpos]

/-- A key frame stands behind the head data. -/
private theorem muxedPayload_key (chunk : RtmpChunk) (hkey : m 0 >>> 4 = 1)
    (hslice : m'.slice 5 n = startCoded f.units) :
    muxedPayload c chunk m n m' = (if lacks c chunk m n m' then delimiter else []) ++
      (c.videoHead ++ startCoded f.units) := by
  unfold muxedPayload
  simp [frameBytes, headBytes, videoPack, hkey, hslice, RtmpClient.videoHead, unitStart, delimiter,
    startCode]

private theorem muxedPayload_other (chunk : RtmpChunk) (hkey : ¬m 0 >>> 4 = 1)
    (hslice : m'.slice 5 n = startCoded f.units) :
    muxedPayload c chunk m n m' = (if lacks c chunk m n m' then delimiter else []) ++
      startCoded f.units := by
  unfold muxedPayload
  simp [frameBytes, headBytes, videoPack, hkey, hslice, unitStart, delimiter, startCode]

/-- With a delimiter in front the units are well delimited if none of them is one. -/
private theorem delimited_inserted (units : List (List UInt8)) :
    Delimited (delimiter ++ startCoded units) units ↔ ∀ unit ∈ units, ¬IsDelimiter unit := by
  have hne : delimiter ≠ [] := by decide
  rw [delimited_behind hne]
  exact and_iff_right wellDelimited_delimiter

/-- A frame that is no key frame always gets one delimiter. -/
private theorem delimited_other (chunk : RtmpChunk) (hkey : ¬m 0 >>> 4 = 1)
    (hslice : m'.slice 5 n = startCoded f.units) :
    Delimited (muxedPayload c chunk m n m') f.units := by
  rw [muxedPayload_other chunk hkey hslice]
  by_cases hfirst : IsDelimiter f.first
  · have hlacks : ¬lacks c chunk m n m' = true := fun h ↦
      absurd hfirst ((lacks_other chunk hkey hslice).1 h)
    rw [if_neg hlacks, List.nil_append]
    exact (delimited_alone f.units).2 (f.oneDelimiter_iff.2 hfirst)
  · rw [if_pos ((lacks_other chunk hkey hslice).2 hfirst)]
    exact (delimited_inserted f.units).2 (f.no_delimiter_iff.2 hfirst)

/-- A key frame behind a sequence header gets one delimiter if it has none. -/
private theorem delimited_stored (chunk : RtmpChunk) (hkey : m 0 >>> 4 = 1)
    (hslice : m'.slice 5 n = startCoded f.units) {units : List (List UInt8)}
    (hhead : c.videoHead = startCoded units) (hne : units ≠ [])
    (hplain : ∀ unit ∈ units, ¬IsDelimiter unit) :
    Delimited (muxedPayload c chunk m n m') (units ++ f.units) ↔
      c.videoHeadData 4 ≠ 0x09 ∧ ¬IsDelimiter f.first := by
  rw [muxedPayload_key chunk hkey hslice, hhead, ← startCoded_append]
  by_cases hbyte : c.videoHeadData 4 = 0x09
  · have hlacks : ¬lacks c chunk m n m' = true := fun h ↦
      absurd hbyte ((lacks_stored chunk hkey hhead hne).1 h)
    obtain ⟨unit, rest, rfl⟩ := List.exists_cons_of_ne_nil hne
    rw [if_neg hlacks, List.nil_append, delimited_alone]
    constructor
    · intro hone
      exact absurd hone.1 (hplain unit List.mem_cons_self)
    · intro hmeets
      exact absurd hbyte hmeets.1
  · rw [if_pos ((lacks_stored chunk hkey hhead hne).2 hbyte)]
    rw [delimited_inserted, List.forall_mem_append, f.no_delimiter_iff]
    constructor
    · intro h
      exact ⟨hbyte, h.2⟩
    · intro h
      exact ⟨hplain, h.2⟩

/-- A key frame before any sequence header, with head data of length zero. -/
private theorem delimited_empty (chunk : RtmpChunk) (hkey : m 0 >>> 4 = 1)
    (hslice : m'.slice 5 n = startCoded f.units) (hlen : c.videoHeadDataLen = 0) :
    Delimited (muxedPayload c chunk m n m') f.units ↔
      EmptyHeadMeets (startTypeOf c.videoHeadData) f.first := by
  have hnone : c.videoHead = [] := by
    unfold RtmpClient.videoHead
    rw [hlen]
    rfl
  have halone := (delimited_alone f.units).trans f.oneDelimiter_iff
  have hinserted := (delimited_inserted f.units).trans f.no_delimiter_iff
  obtain ⟨-, hcode, hfirst⟩ := data_start hslice
  rw [muxedPayload_key chunk hkey hslice, hnone, List.nil_append, lacks_empty chunk hkey hlen]
  cases startTypeOf c.videoHeadData with
  | init => simpa [lacksDelimiterAt, EmptyHeadMeets] using halone
  | aac => simpa [lacksDelimiterAt, EmptyHeadMeets] using halone
  | startcode3 => simpa [lacksDelimiterAt, EmptyHeadMeets, hcode] using hinserted
  | startcode4 =>
    have htest : lacksDelimiterAt .startcode4 (m'.shift 5) = true ↔ ¬IsDelimiter f.first := by
      simp [lacksDelimiterAt, hfirst, IsDelimiter]
    by_cases hdel : IsDelimiter f.first
    · rw [if_neg fun h ↦ htest.1 h hdel, List.nil_append]
      exact iff_of_true (halone.2 hdel) trivial
    · rw [if_pos (htest.2 hdel)]
      exact iff_of_true (hinserted.2 hdel) trivial

/-- A key frame before any sequence header, behind what the memory holds. -/
private theorem delimited_held (chunk : RtmpChunk) (hkey : m 0 >>> 4 = 1)
    (hslice : m'.slice 5 n = startCoded f.units) (hlen : c.videoHeadDataLen ≠ 0) :
    Delimited (muxedPayload c chunk m n m') f.units ↔
      WellDelimited ((if lacksDelimiterAt (startTypeOf c.videoHeadData) c.videoHeadData
        then delimiter else []) ++ c.videoHead) ∧ ¬IsDelimiter f.first := by
  have hhead : c.videoHead ≠ [] := by
    apply List.ne_nil_of_length_pos
    rw [RtmpClient.videoHead, Mem.length_slice]
    exact Nat.pos_of_ne_zero hlen
  rw [muxedPayload_key chunk hkey hslice, lacks_held chunk hkey hlen, ← List.append_assoc,
    delimited_behind (List.append_ne_nil_of_right_ne_nil _ hhead), f.no_delimiter_iff]

end

/-- The payload that the muxer builds for a frame is well delimited just when the frame meets the
condition. -/
private theorem Settled.delimited_iff {s : Sent} (h : Settled s.before s.head) (chunk : RtmpChunk)
    {m m' : Mem} {n : Nat} (htype : m 0 >>> 4 = 1 ↔ s.frame.frameType = keyType)
    (hslice : m'.slice 5 n = startCoded s.frame.units) :
    Delimited (muxedPayload s.before chunk m n m') s.units ↔ s.Meets := by
  by_cases hframe : s.frame.frameType = keyType
  · have hkey := htype.2 hframe
    unfold Sent.units Sent.Meets
    rw [if_pos hframe, if_pos hframe]
    cases hhead : s.head with
    | some units =>
      obtain ⟨hvideo, hne, hplain⟩ := h.head units hhead
      exact delimited_stored chunk hkey hslice hvideo hne hplain
    | none =>
      by_cases hlen : s.before.videoHeadDataLen = 0
      · simp only [if_pos hlen]
        exact delimited_empty chunk hkey hslice hlen
      · simp only [if_neg hlen]
        exact delimited_held chunk hkey hslice hlen
  · have hkey : ¬m 0 >>> 4 = 1 := fun hk ↦ hframe (htype.1 hk)
    unfold Sent.units Sent.Meets
    rw [if_neg hframe, if_neg hframe]
    exact iff_of_true (delimited_other chunk hkey hslice) trivial

/-- What a frame adds to the packets. -/
private theorem emitted_of_append {s : Sent} {new : List (List UInt8)}
    (h : s.after.videoUnits = s.before.videoUnits ++ new) : s.emitted = new := by
  unfold Sent.emitted
  rw [h, List.drop_left]

/-- A frame of a run emits nothing, or one packet, which is well delimited just when the frame
meets the condition. -/
private theorem Settled.sent {c c' : RtmpClient} {head : Option (List (List UInt8))}
    (h : Settled c head) {input : VideoInput} {f : AvcAccessUnit} (hbody : input.body = f.body)
    (hlen : input.body.length < 2147483648) {ret : Int}
    (hstep : input.processed c = .ok (ret, c')) :
    Settled c' head ∧
      c'.videoUnits = c.videoUnits ++ (Sent.mk c head f c').emitted ∧
      ∀ pes ∈ (Sent.mk c head f c').emitted,
        (Delimited (pesPayload pes) (Sent.mk c head f c').units ↔
          (Sent.mk c head f c').Meets) := by
  obtain ⟨ps, hmuxed⟩ := h.muxed
  obtain ⟨m, m', n, r, hframeType, hslice, hresult, rfl⟩ := handed_frame hbody hlen hstep
  generalize hcall : Call.mk c.getMillisecond64.1 (videoPack c input.chunk m n) m' = call at hresult
  have htype : call.pack.type = .h264 := by
    rw [← hcall]
    rfl
  have hpid : pidOf call.pack.type = some videoPid := by
    rw [htype]
    rfl
  generalize hafter : { c.getMillisecond64.2 with rtmpSavetots := r.2 } = c'
  have hsettled : Settled c' head := by
    obtain ⟨qs, hqs⟩ := hmuxed.call hresult
    rw [← hafter]
    exact ⟨h.head, ps ++ qs, hqs⟩
  have hunits : c'.videoUnits = c.videoUnits ∨
      call.Fits ∧ c'.videoUnits = c.videoUnits ++ [(call.built c.rtmpSavetots).pesBuf.slice 0
        (call.built c.rtmpSavetots).pesLen] := by
    rw [← hafter]
    exact hmuxed.unitsOf_call hpid hresult
  refine ⟨hsettled, ?_⟩
  rcases hunits with hunits | ⟨hfits, hunits⟩
  · have hemitted : (Sent.mk c head f c').emitted = [] :=
      emitted_of_append (hunits.trans (List.append_nil _).symm)
    rw [hemitted, List.append_nil]
    exact ⟨hunits, fun pes hpes ↦ absurd hpes List.not_mem_nil⟩
  · have hemitted : (Sent.mk c head f c').emitted = [_] := emitted_of_append hunits
    rw [hemitted]
    refine ⟨hunits, fun pes hpes ↦ ?_⟩
    have hnone : call.pack.headData = none → call.pack.headDataLen = 0 := by
      rw [← hcall]
      exact headDataLen_videoPack c _ _ _
    rw [List.mem_singleton.1 hpes, pesPayload_built htype hfits hnone, ← hcall]
    have hsent : Settled (Sent.mk c head f c').before (Sent.mk c head f c').head := h
    exact hsent.delimited_iff input.chunk hframeType hslice

/-- In every run the head data are the units of the last sequence header, and the packets are those
of the frames. -/
private theorem AvcRun.settled {u c : RtmpClient} {head : Option (List (List UInt8))}
    {log : List Sent} (hrun : AvcRun u c head log) :
    Settled c head ∧ c.videoUnits = log.flatMap Sent.emitted := by
  induction hrun with
  | start rtmpUrl rtmpApp rtmpStream =>
    have hmuxed := muxed_started u rtmpUrl rtmpApp rtmpStream
    refine ⟨⟨fun units h ↦ absurd h (Option.some_ne_none units).symm, [], hmuxed⟩, ?_⟩
    unfold RtmpClient.videoUnits
    rw [hmuxed.packets]
    rfl
  | @header c c' head log input h ret hrun hbody hstep ih =>
    obtain ⟨⟨-, ps, hmuxed⟩, hunits⟩ := ih
    have hprocessed := processed_avcRecord hbody h.length_time h.length_profile h.sps_lt h.pps_lt c
    rw [hstep] at hprocessed
    cases hprocessed
    constructor
    · constructor
      · intro units hunits
        rw [← Option.some.inj hunits]
        exact ⟨videoHead_withUnits c h, storedUnits_plain h⟩
      · rw [rtmpSavetots_withUnits]
        exact ⟨ps, hmuxed⟩
    · unfold RtmpClient.videoUnits at hunits ⊢
      rw [rtmpSavetots_withUnits, hunits]
  | frame hrun hbody hlen hstep ih =>
    obtain ⟨hsettled, hunits⟩ := ih
    obtain ⟨hafter, hemitted, -⟩ := hsettled.sent hbody hlen hstep
    refine ⟨hafter, ?_⟩
    rw [hemitted, hunits, List.flatMap_append]
    simp

/-- The video PES packets of a run are those of its frames. The payload of each is the units of the
access unit with exactly one delimiter, in front, just when the frame meets the condition. -/
theorem rtmpProcessVideo_delimiter {u c : RtmpClient} {head : Option (List (List UInt8))}
    {log : List Sent} (hrun : AvcRun u c head log) :
    c.videoUnits = log.flatMap Sent.emitted ∧
      ∀ s ∈ log, ∀ pes ∈ s.emitted, (Delimited (pesPayload pes) s.units ↔ s.Meets) := by
  refine ⟨hrun.settled.2, ?_⟩
  induction hrun with
  | start =>
    intro s hs
    cases hs
  | header hrun hbody hstep ih => exact ih
  | frame hrun hbody hlen hstep ih =>
    intro s hs
    rcases List.mem_append.1 hs with hs | hs
    · exact ih s hs
    · obtain ⟨-, -, hmeets⟩ := hrun.settled.1.sent hbody hlen hstep
      rw [List.mem_singleton.1 hs]
      exact hmeets

/-! ### Three runs -/

/-- A frame that passes the size check is emitted if the file is open. -/
private theorem Settled.exists_sent {c : RtmpClient} {head : Option (List (List UInt8))}
    (h : Settled c head) (hfp : c.rtmpSavetots.tsFp = true) (f : AvcAccessUnit)
    (hfits : (if f.frameType = keyType then c.videoHeadDataLen else 0) +
      (lengthPrefixed f.units).length ≤ packetPesBuf - 25) :
    ∃ (c' : RtmpClient) (pes : List UInt8) (chunk : RtmpChunk) (m m' : Mem) (n : Nat),
      (VideoInput.ofBody f.body).processed c = .ok (0, c') ∧
      (Sent.mk c head f c').emitted = [pes] ∧ (m 0 >>> 4 = 1 ↔ f.frameType = keyType) ∧
      m'.slice 5 n = startCoded f.units ∧
      pesPayload pes = muxedPayload c chunk m n m' := by
  obtain ⟨ps, hmuxed⟩ := h.muxed
  have hbody : (VideoInput.ofBody f.body).body = frameBody f.frameType f.time f.units := rfl
  obtain ⟨call, t', hpack, hslice, htype, hprocessed, hkept, hcallFits, hemitted⟩ :=
    processed_frameBody hbody f.length_time f.unit_ne hmuxed hfits
  have hkind : call.pack.type = .h264 := by
    rw [hpack]
    rfl
  have hnone : call.pack.headData = none → call.pack.headDataLen = 0 := by
    rw [hpack]
    exact headDataLen_videoPack c _ _ _
  refine ⟨_, _, (VideoInput.ofBody f.body).chunk, (VideoInput.ofBody f.body).mem, call.mem, _,
    hprocessed, emitted_of_append (hemitted hfp), htype,
    hslice, ?_⟩
  rw [hkept.pesBuf, hkept.pesLen, pesPayload_built hkind hcallFits hnone, hpack]
  rfl

/-- A sequence header with an SPS of two bytes and a PPS of one byte. -/
def smallRecord : AvcRecord where
  time := [0, 0, 0]
  profile := [0x01, 0x42, 0x00, 0x1e, 0xff, 0xe1]
  sps := [0x67, 0x42]
  count := 0x01
  pps := [0x68]
  rest := []
  length_time := smallHeader.length_time
  length_profile := smallHeader.length_profile
  sps_lt := by decide
  pps_lt := by decide
  sps_first := smallHeader.sps_first
  pps_first := by decide

/-- A key frame without a delimiter. -/
def plainUnit : AvcAccessUnit where
  frameType := keyType
  time := [0, 0, 40]
  units := [[0x65]]
  length_time := keyFrame.length_time
  units_ne := by decide
  unit_ne := by decide
  delimiter_first := by decide

/-- A key frame behind its own delimiter. -/
def delimitedUnit : AvcAccessUnit where
  frameType := keyType
  time := [0, 0, 40]
  units := [[0x09, 0xf0], [0x65]]
  length_time := keyFrame.length_time
  units_ne := by decide
  unit_ne := by decide
  delimiter_first := by decide

/-- A client that has received the small sequence header. -/
def smallClient : RtmpClient := (started blankClient [] [] []).withUnits [0x67, 0x42] [0x68]

/-- A key frame behind a small sequence header: what is emitted, and which condition decides. -/
private theorem behind_small (f : AvcAccessUnit) (hkey : f.frameType = keyType)
    (hsmall : 11 + (lengthPrefixed f.units).length ≤ packetPesBuf - 25) :
    ∃ c' pes, AvcRun blankClient c' (some [[0x67, 0x42], [0x68]])
        [⟨smallClient, some [[0x67, 0x42], [0x68]], f, c'⟩] ∧
      (Sent.mk smallClient (some [[0x67, 0x42], [0x68]]) f c').emitted = [pes] ∧
      pesPayload pes = delimiter ++ startCoded ([[0x67, 0x42], [0x68]] ++ f.units) := by
  have hheaderBody : (VideoInput.ofBody smallRecord.body).body = smallRecord.body := rfl
  have hheader : (VideoInput.ofBody smallRecord.body).processed (started blankClient [] [] []) =
      .ok (0, smallClient) :=
    processed_avcRecord hheaderBody smallRecord.length_time smallRecord.length_profile
      smallRecord.sps_lt smallRecord.pps_lt (started blankClient [] [] [])
  have hrun := (AvcRun.start [] [] []).header hheaderBody hheader
  have hstored : smallRecord.storedUnits = [[0x67, 0x42], [0x68]] := by decide
  rw [hstored] at hrun
  have hsettled := hrun.settled.1
  have hhead := (hsettled.head _ rfl).1
  have hheadLen := congrArg List.length hhead
  rw [RtmpClient.videoHead, Mem.length_slice] at hheadLen
  have hfp : smallClient.rtmpSavetots.tsFp = true := by
    rw [smallClient, rtmpSavetots_withUnits]
    rfl
  have hcoded : (startCoded [[0x67, 0x42], [0x68]]).length = 11 := rfl
  have hbuf : packetPesBuf = 4195328 := rfl
  obtain ⟨c', pes, chunk, m, m', n, hprocessed, hemitted, htype, hslice, hpayload⟩ :=
    hsettled.exists_sent hfp f (by rw [if_pos hkey, hheadLen, hcoded]; exact hsmall)
  have hbody : (VideoInput.ofBody f.body).body = f.body := rfl
  have hlen : (VideoInput.ofBody f.body).body.length < 2147483648 := by
    change (frameBody _ _ _).length < _
    rw [length_frameBody _ f.length_time]
    omega
  have hbyte : smallClient.videoHeadData 4 ≠ 0x09 := by
    rw [(startCoded_start hhead).2 0 (by decide)]
    decide
  have hlacks : lacks _ chunk m n m' = true :=
    (lacks_stored chunk (htype.2 hkey) hhead (by decide)).2 hbyte
  refine ⟨c', pes, hrun.frame hbody hlen hprocessed, hemitted, ?_⟩
  rw [hpayload, muxedPayload_key chunk (htype.2 hkey) hslice, if_pos hlacks, hhead,
    startCoded_append]

/-- A key frame without a delimiter gets one behind a sequence header. -/
theorem rtmpProcessVideo_delimiter_key :
    ∃ c s pes, AvcRun blankClient c (some [[0x67, 0x42], [0x68]]) [s] ∧
      c.videoUnits = [pes] ∧ s.units = [[0x67, 0x42], [0x68], [0x65]] ∧
      Delimited (pesPayload pes) s.units := by
  obtain ⟨c', pes, hrun, hemitted, -⟩ := behind_small plainUnit rfl (by decide)
  obtain ⟨hunits, hdelimited⟩ := rtmpProcessVideo_delimiter hrun
  have hmem : pes ∈ (Sent.mk smallClient (some [[0x67, 0x42], [0x68]]) plainUnit c').emitted := by
    rw [hemitted]
    exact List.mem_singleton_self pes
  refine ⟨c', _, pes, hrun, ?_, rfl, (hdelimited _ (List.mem_singleton_self _) pes hmem).2 ?_⟩
  · rw [hunits, List.flatMap_singleton, hemitted]
  · have hbyte : smallClient.videoHeadData 4 = 0x67 := rfl
    have hkey : plainUnit.frameType = keyType := rfl
    have hfirst : plainUnit.first.getD 0 0 ≠ 0x09 := by decide
    unfold Sent.Meets
    rw [if_pos hkey]
    constructor
    · rw [hbyte]
      decide
    · exact hfirst

/-- Two runs without exactly one delimiter: a key frame with a delimiter of its own gets a second
one behind a sequence header, and a key frame on a client whose head data are zeros gets none. -/
theorem rtmpProcessVideo_delimiters :
    (∃ c s pes, AvcRun blankClient c (some [[0x67, 0x42], [0x68]]) [s] ∧ pes ∈ c.videoUnits ∧
      s.frame.units = [[0x09, 0xf0], [0x65]] ∧
      pesPayload pes = startCoded [[0x09, 0x10], [0x67, 0x42], [0x68], [0x09, 0xf0], [0x65]] ∧
      ¬Delimited (pesPayload pes) s.units) ∧
    ∃ c s pes, AvcRun blankClient c none [s] ∧ pes ∈ c.videoUnits ∧
      s.frame.units = [[0x65]] ∧ pesPayload pes = startCoded [[0x65]] ∧
      ¬Delimited (pesPayload pes) s.units := by
  constructor
  · obtain ⟨c', pes, hrun, hemitted, hpayload⟩ := behind_small delimitedUnit rfl (by decide)
    refine ⟨c', _, pes, hrun, ?_, rfl, hpayload, ?_⟩
    · rw [hrun.settled.2, List.flatMap_singleton, hemitted]
      exact List.mem_singleton_self pes
    · rw [hpayload]
      intro hdelimited
      have hnone := ((delimited_inserted _).1 hdelimited) [0x09, 0xf0] (by decide)
      exact hnone rfl
  · have hsettled := (AvcRun.start (u := blankClient) [] [] []).settled.1
    have hfp : (started blankClient [] [] []).rtmpSavetots.tsFp = true := rfl
    obtain ⟨c', pes, chunk, m, m', n, hprocessed, hemitted, htype, hslice, hpayload⟩ :=
      hsettled.exists_sent hfp plainUnit (by decide)
    have hbody : (VideoInput.ofBody plainUnit.body).body = plainUnit.body := rfl
    have hrun := (AvcRun.start [] [] []).frame hbody (by decide) hprocessed
    have hlacks : lacks (started blankClient [] [] []) chunk m n m' = false :=
      lacks_empty chunk (htype.2 rfl) rfl
    have hheld : (started blankClient [] [] []).videoHead = [] := rfl
    rw [muxedPayload_key chunk (htype.2 rfl) hslice, hlacks, hheld] at hpayload
    change pesPayload pes = startCoded [[0x65]] at hpayload
    refine ⟨c', _, pes, hrun, ?_, rfl, hpayload, ?_⟩
    · rw [hrun.settled.2]
      change pes ∈ List.flatMap Sent.emitted [_]
      rw [List.flatMap_singleton, hemitted]
      exact List.mem_singleton_self pes
    · rw [hpayload]
      intro hdelimited
      have hone := (delimited_alone [[0x65]]).1 hdelimited
      exact absurd hone.1 (by unfold IsDelimiter; decide)

end RtmpRecv.Client
