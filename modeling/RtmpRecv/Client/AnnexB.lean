import RtmpRecv.Client.Inside
import RtmpRecv.Client.Streams
import RtmpRecv.Tots.Runs
import RtmpRecv.Wire.Avc

/-!
# AVC messages become a stream with start codes

Library `Client`. A run of video messages on a fresh client: `video_head_data` always holds the
units of the latest sequence header, and each frame becomes one PES packet with its units behind
start codes.
-/

namespace RtmpRecv.Client
open RtmpRecv.Base RtmpRecv.Tots RtmpRecv.Wire

/-! ### Runs of video messages -/

/-- A video message: its `rtmp_chunk_t`, its body, and the memory it lies in. -/
structure VideoInput where
  chunk : RtmpChunk
  body : List UInt8
  mem : Mem
  holds : mem.slice 0 body.length = body

/-- What `rtmp_process_video` returns for a message, and the client after it. -/
def VideoInput.processed (input : VideoInput) (c : RtmpClient) : Except Fault (Int × RtmpClient) :=
  ((rtmpProcessVideo c input.chunk input.body.length).run input.mem).1

/-- The message has the tag of a sequence header. -/
def VideoInput.IsHeader (input : VideoInput) : Prop :=
  input.mem 0 &&& 0x0f = 7 ∧ input.mem 0 >>> 4 = 1 ∧ input.mem 1 = 0

/-- A run of video messages on a fresh client that starts with a sequence header, up to a client
`c`, where `h` is the latest sequence header. The other messages are any at all. -/
inductive VideoRun (u : RtmpClient) : RtmpClient → AvcHeader → Prop where
  | first {input : VideoInput} {h : AvcHeader} {ret : Int} {c : RtmpClient}
      {rtmpUrl rtmpApp rtmpStream : List UInt8} (hbody : input.body = h.body)
      (hstep : input.processed (started u rtmpUrl rtmpApp rtmpStream) = .ok (ret, c)) :
      VideoRun u c h
  | header {c c' : RtmpClient} {h h' : AvcHeader} {input : VideoInput} {ret : Int}
      (hrun : VideoRun u c h) (hbody : input.body = h'.body)
      (hstep : input.processed c = .ok (ret, c')) : VideoRun u c' h'
  | other {c c' : RtmpClient} {h : AvcHeader} {input : VideoInput} {ret : Int}
      (hrun : VideoRun u c h) (hother : ¬input.IsHeader)
      (hstep : input.processed c = .ok (ret, c')) : VideoRun u c' h

/-- The client holds the units of the sequence header `h`, and its muxer has emitted whole
packets. -/
structure Configured (c : RtmpClient) (h : AvcHeader) : Prop where
  head : c.videoHead = startCoded [h.sps, h.pps]
  muxed : ∃ ps, Muxed c.rtmpSavetots ps

/-! ### The messages -/

/-- The bytes of a message that the handler looks at. -/
theorem VideoInput.bytes (input : VideoInput) (h : 5 ≤ input.body.length) :
    input.mem 0 = input.body.getD 0 0 ∧ input.mem 1 = input.body.getD 1 0 ∧
      input.mem.slice 5 (input.body.length - 5) = input.body.drop 5 := by
  have h0 := getD_window input.mem (n := input.body.length) (i := 0) (by omega)
  have h1 := getD_window input.mem (n := input.body.length) (i := 1) (by omega)
  have h5 := drop_window input.mem input.body.length 5
  rw [input.holds] at h0 h1 h5
  exact ⟨h0.symm, h1.symm, h5.symm⟩

/-- What is read of a configuration record are its units and their lengths. -/
private theorem avcRecord_reads {m : Mem} {ptr : Nat} {profile sps pps : List UInt8} {count : UInt8}
    {rest : List UInt8} (hprofile : profile.length = 6) (hsps : sps.length < 65536)
    (hpps : pps.length < 65536)
    (h : m.slice ptr (avcRecord profile sps count pps rest).length =
      avcRecord profile sps count pps rest) :
    be16 (m (ptr + 6)) (m (ptr + 7)) = sps.length ∧
      be16 (m (ptr + 8 + sps.length + 1)) (m (ptr + 8 + sps.length + 2)) = pps.length ∧
      m.slice (ptr + 8) sps.length = sps ∧
      m.slice (ptr + 8 + sps.length + 3) pps.length = pps := by
  have hsplit : avcRecord profile sps count pps rest =
      profile ++ (be16Bytes sps.length ++ (sps ++ ([count] ++ (be16Bytes pps.length ++
        (pps ++ rest))))) := rfl
  rw [hsplit] at h
  obtain ⟨-, h⟩ := (Mem.slice_append_iff m _ _ _).1 h
  obtain ⟨hspsLen, h⟩ := (Mem.slice_append_iff m _ _ _).1 h
  obtain ⟨hspsRead, h⟩ := (Mem.slice_append_iff m _ _ _).1 h
  obtain ⟨-, h⟩ := (Mem.slice_append_iff m _ _ _).1 h
  obtain ⟨hppsLen, h⟩ := (Mem.slice_append_iff m _ _ _).1 h
  obtain ⟨hppsRead, -⟩ := (Mem.slice_append_iff m _ _ _).1 h
  have hread {off k : Nat} (hk : k < 65536)
      (h : m.slice off (be16Bytes k).length = be16Bytes k) : be16 (m off) (m (off + 1)) = k := by
    have h0 := Mem.apply_of_slice m off _ h 0 (by simp)
    have h1 := Mem.apply_of_slice m off _ h 1 (by simp)
    rw [Nat.add_zero] at h0
    rw [h0, h1]
    exact be16_be16Bytes k hk
  rw [hprofile] at hspsLen hspsRead hppsLen hppsRead
  exact ⟨hread hsps hspsLen, hread hpps hppsLen, hspsRead, hppsRead⟩

/-! ### Sequence headers -/

/-- A message with the tag of a sequence header runs the branch for one, on the record behind the
tag. -/
theorem videoFrame_recordBody {input : VideoInput} {time record : List UInt8}
    (hbody : input.body = 0x17 :: 0x00 :: (time ++ record)) (htime : time.length = 3)
    (c : RtmpClient) :
    (rtmpProcessVideoFrame c input.chunk input.body.length).run input.mem =
        (avcSequenceHeader c 5 record.length).run input.mem ∧
      input.mem.slice 5 record.length = record := by
  have hbodyLen : input.body.length = 5 + record.length := by
    simp [hbody, htime]
    omega
  obtain ⟨h0, h1, h5⟩ := input.bytes (by omega)
  have hn : 5 + record.length - 5 = record.length := by omega
  rw [hbody] at h0 h1
  rw [hbodyLen, hn, hbody, drop_headerBody htime] at h5
  have htag : ((0x17 : UInt8) :: 0x00 :: (time ++ record)).getD 0 0 = 0x17 := rfl
  have hcodec : input.mem 0 &&& 0x0f = 7 := by
    rw [h0, htag]
    decide
  have htype : input.mem 0 >>> 4 = 1 := by
    rw [h0, htag]
    decide
  obtain ⟨hframe, -⟩ := videoFrame_record c input.chunk (n := input.body.length) (by omega)
    hcodec htype h1
  rw [hbodyLen, hn, ← hbodyLen] at hframe
  exact ⟨hframe, h5⟩

/-- A sequence header is stored as far as its lengths are not refused. -/
theorem processed_avcRecord {input : VideoInput} {time profile sps pps : List UInt8} {count : UInt8}
    {rest : List UInt8}
    (hbody : input.body = 0x17 :: 0x00 :: (time ++ avcRecord profile sps count pps rest))
    (htime : time.length = 3) (hprofile : profile.length = 6) (hsps : sps.length < 65536)
    (hpps : pps.length < 65536) (c : RtmpClient) :
    input.processed c = .ok (if 256 < sps.length ∨ 256 < pps.length then -1 else 0,
      c.withUnits sps pps) := by
  obtain ⟨hframe, h5⟩ := videoFrame_recordBody hbody htime c
  obtain ⟨hspsLen, hppsLen, hspsRead, hppsRead⟩ := avcRecord_reads hprofile hsps hpps h5
  have hlong : ¬((avcRecord profile sps count pps rest).length : Int) < 8 := by
    simp [avcRecord, hprofile]
    omega
  have hret : headRet 5 (avcRecord profile sps count pps rest).length input.mem =
      if 256 < sps.length ∨ 256 < pps.length then -1 else 0 := by
    unfold headRet
    simp only [hspsLen, hppsLen, hlong, false_or]
    split_ifs with h1 h2 h3 h4 h5
    · rfl
    · omega
    · rfl
    · omega
    · omega
    · rfl
  have hhead : c.headRead 5 (avcRecord profile sps count pps rest).length input.mem =
      c.withUnits sps pps := by
    unfold RtmpClient.headRead RtmpClient.withUnits
    simp only [hspsLen, hppsLen, hspsRead, hppsRead, hlong, false_or]
  rw [run_avcSequenceHeader_eq, hret, hhead] at hframe
  exact congrArg Prod.fst (video_done hframe).1

/-- A sequence header is stored. -/
private theorem processed_header {input : VideoInput} {h : AvcHeader} (hbody : input.body = h.body)
    (c : RtmpClient) : input.processed c = .ok (0, c.headStored h.sps h.pps) := by
  have hsps := Nat.not_lt.2 h.sps_le
  have hpps := Nat.not_lt.2 h.pps_le
  have hprocessed := processed_avcRecord hbody h.length_time h.length_profile
    (show h.sps.length < 65536 by omega) (show h.pps.length < 65536 by omega) c
  rwa [if_neg (not_or.2 ⟨hsps, hpps⟩), RtmpClient.withUnits, if_neg hsps, if_neg hpps] at hprocessed

/-! ### Other messages -/

/-- A message without the tag of a sequence header leaves the client alone. -/
private theorem videoFrame_kept {c : RtmpClient} {chunk : RtmpChunk} {n : Int} {m m' : Mem}
    {step : MediaStep} (hother : ¬(m 0 &&& 0x0f = 7 ∧ m 0 >>> 4 = 1 ∧ m 1 = 0))
    (hrun : (rtmpProcessVideoFrame c chunk n).run m = (.ok step, m')) : step.client = c := by
  have hloop (pack : PackData) (fuel : Nat) (d : Int) :
      ((nalLoop fuel 5 d).bind fun ok ↦ if ok then .ret (.frame pack c) else
        (.ret (.done (-1) c) : Access Fault MediaStep)).Returns fun step ↦ step.client = c := by
    apply Access.Returns.bind_of_forall
    intro ok
    split
    · exact Access.Returns.ret rfl
    · exact Access.Returns.ret rfl
  unfold rtmpProcessVideoFrame at hrun
  simp only [Access.bind_eq, Access.get_bind, Access.run_read] at hrun
  by_cases hcodec : m 0 &&& 0x0f = 7
  · rw [if_neg (not_not_intro hcodec)] at hrun
    simp only [Access.run_read] at hrun
    by_cases htype : m 0 >>> 4 = 1
    · rw [if_pos htype] at hrun
      simp only [Access.run_read] at hrun
      rw [if_neg fun hkind ↦ hother ⟨hcodec, htype, hkind⟩] at hrun
      exact hloop _ _ _ m step m' hrun
    · rw [if_neg htype] at hrun
      exact hloop _ _ _ m step m' hrun
  · rw [if_pos hcodec] at hrun
    cases hrun
    rfl

/-- A frame that is handed over. -/
theorem processed_frame {c : RtmpClient} {chunk : RtmpChunk} {n : Int} {m m' : Mem}
    {pack : PackData} (hrun : (rtmpProcessVideoFrame c chunk n).run m = (.ok (.frame pack c), m')) :
    ((rtmpProcessVideo c chunk n).run m).1 =
      match (Call.mk c.getMillisecond64.1 pack m').result c.rtmpSavetots with
      | .error e => .error e
      | .ok r => .ok (0, { c.getMillisecond64.2 with rtmpSavetots := r.2 }) := by
  unfold rtmpProcessVideo
  dsimp only [Access.bind_eq]
  rw [Access.run_bind_ok hrun, Access.run_bind, run_handToTots]
  cases (Call.mk c.getMillisecond64.1 pack m').result c.rtmpSavetots with
  | error e => rfl
  | ok r => rfl

/-- Any other message keeps the stored head, and the muxer goes on. -/
private theorem Configured.other {c c' : RtmpClient} {h : AvcHeader} (hc : Configured c h)
    {input : VideoInput} (hother : ¬input.IsHeader) {ret : Int}
    (hstep : input.processed c = .ok (ret, c')) : Configured c' h := by
  obtain ⟨ps, hmuxed⟩ := hc.muxed
  unfold VideoInput.processed at hstep
  cases hframe : (rtmpProcessVideoFrame c input.chunk input.body.length).run input.mem with
  | mk result m' =>
    cases result with
    | error e =>
      rw [rtmpProcessVideo, Access.bind_eq, Access.run_bind_error hframe] at hstep
      cases hstep
    | ok step =>
      have hclient := videoFrame_kept hother hframe
      cases step with
      | done ret' c₁ =>
        have hsame : c₁ = c := hclient
        rw [hsame] at hframe
        rw [(video_done hframe).1] at hstep
        cases hstep
        exact hc
      | frame pack c₁ =>
        have hsame : c₁ = c := hclient
        rw [hsame] at hframe
        rw [processed_frame hframe] at hstep
        cases hresult : (Call.mk c.getMillisecond64.1 pack m').result c.rtmpSavetots with
        | error e =>
          rw [hresult] at hstep
          cases hstep
        | ok r =>
          rw [hresult] at hstep
          cases hstep
          obtain ⟨qs, hqs⟩ := hmuxed.call hresult
          exact ⟨hc.head, ps ++ qs, hqs⟩

/-- A fresh muxer has emitted nothing. -/
theorem muxed_started (u : RtmpClient) (rtmpUrl rtmpApp rtmpStream : List UInt8) :
    Muxed (started u rtmpUrl rtmpApp rtmpStream).rtmpSavetots [] := by
  have hfresh := muxed_rtmpTots u.rtmpSavetots.pesBuf u.rtmpSavetots.tsFp (u.host.millisecond 0)
  have hsame : (started u rtmpUrl rtmpApp rtmpStream).rtmpSavetots =
      (rtmpClient u).rtmpSavetots := by
    unfold started playing rtmpStartPlay
    split
    · rfl
    · split
      · rfl
      · unfold rtmpSendToServerC0C1
        dsimp only [RtmpClient.time, RtmpClient.send]
        split
        · rfl
        · rfl
  rw [hsame]
  exact hfresh

/-- A sequence header replaces the stored head. -/
private theorem configured_header {c c' : RtmpClient} {ps : List (List UInt8)}
    (hmuxed : Muxed c.rtmpSavetots ps) {input : VideoInput} {h : AvcHeader}
    (hbody : input.body = h.body) {ret : Int} (hstep : input.processed c = .ok (ret, c')) :
    Configured c' h := by
  rw [processed_header hbody c] at hstep
  have hc := (Prod.mk.inj (Except.ok.inj hstep)).2
  rw [← hc]
  constructor
  · exact videoHead_headStored c h.sps h.pps
  · rw [rtmpSavetots_headStored]
    exact ⟨ps, hmuxed⟩

/-- In every run the client holds the units of the latest sequence header. -/
theorem VideoRun.configured {u c : RtmpClient} {h : AvcHeader} (hrun : VideoRun u c h) :
    Configured c h := by
  induction hrun with
  | first hbody hstep => exact configured_header (muxed_started u _ _ _) hbody hstep
  | header hrun hbody hstep ih =>
    obtain ⟨ps, hmuxed⟩ := ih.muxed
    exact configured_header hmuxed hbody hstep
  | other hrun hother hstep ih => exact ih.other hother hstep

/-! ### Frames -/

/-- Units behind start codes start with one, and the bytes of the first unit follow. -/
theorem startCoded_start {p : Mem} {n : Nat} {unit : List UInt8} {units : List (List UInt8)}
    (h : p.slice 0 n = startCoded (unit :: units)) :
    startTypeOf p = .startcode4 ∧
      ∀ i < unit.length, p (4 + i) = unit.getD i 0 := by
  rw [startCoded_cons] at h
  have hlen := congrArg List.length h
  rw [Mem.length_slice, List.length_append, List.length_append] at hlen
  have hstart : startCode.length = 4 := rfl
  have hread (i : Nat) (hi : i < n) :
      p i = (startCode ++ (unit ++ startCoded units)).getD i 0 := by
    rw [← h, Mem.getD_slice _ _ _ _ _ hi, Nat.zero_add]
  constructor
  · have h0 : p 0 = 0 := hread 0 (by omega)
    have h1 : p 1 = 0 := hread 1 (by omega)
    have h2 : p 2 = 0 := hread 2 (by omega)
    have h3 : p 3 = 1 := hread 3 (by omega)
    simp [startTypeOf, h0, h1, h2, h3]
  · intro i hi
    rw [hread (4 + i) (by omega), getD_behind hstart i, List.getD_append _ _ _ _ hi]

/-- The first byte of the first unit stands behind the start code. -/
private theorem lacksDelimiter_startCoded {p : Mem} {n : Nat} {unit : List UInt8}
    {units : List (List UInt8)} (h : p.slice 0 n = startCoded (unit :: units))
    (hne : unit ≠ []) (hfirst : unit.getD 0 0 ≠ 0x09) :
    lacksDelimiterAt (startTypeOf p) p = true := by
  obtain ⟨htype, hread⟩ := startCoded_start h
  rw [htype]
  simpa [lacksDelimiterAt, hread 0 (List.length_pos_of_ne_nil hne)] using hfirst

/-- The frame of an AVC message is handed over with its units behind start codes. -/
theorem videoFrame_frameBody {input : VideoInput} {frameType : Fin 16} {time : List UInt8}
    {units : List (List UInt8)} (hbody : input.body = frameBody frameType time units)
    (htime : time.length = 3) (hne : ∀ unit ∈ units, unit ≠ [])
    (hlen : input.body.length < 2147483648) (c : RtmpClient) :
    ∃ m', (rtmpProcessVideoFrame c input.chunk input.body.length).run input.mem =
        (.ok (.frame (videoPack c input.chunk input.mem (lengthPrefixed units).length) c), m') ∧
      m'.slice 5 (lengthPrefixed units).length = startCoded units ∧
      (input.mem 0 >>> 4 = 1 ↔ frameType = keyType) := by
  have hbodyLen : input.body.length = 5 + (lengthPrefixed units).length := by
    rw [hbody, length_frameBody frameType htime]
  obtain ⟨h0, h1, h5⟩ := input.bytes (by omega)
  have hn : 5 + (lengthPrefixed units).length - 5 = (lengthPrefixed units).length := by omega
  rw [hbody] at h0 h1
  rw [hbodyLen, hn, hbody, drop_frameBody frameType htime] at h5
  have htag : (frameBody frameType time units).getD 0 0 = UInt8.ofNat (frameType * 16 + 7) := rfl
  have hkind : (frameBody frameType time units).getD 1 0 = 1 := rfl
  obtain ⟨hcodec, htype⟩ := frameTag frameType
  rw [htag] at h0
  rw [hkind] at h1
  rw [← h0] at hcodec htype
  have hrecord : ¬(input.mem 0 >>> 4 = 1 ∧ input.mem 1 = 0) := by
    rw [h1]
    exact fun h ↦ absurd h.2 (by decide)
  obtain ⟨hframe, -⟩ := videoFrame_units c input.chunk (n := input.body.length) (by omega)
    hlen hcodec hrecord
  have hfuel := enoughRounds_nalFuel 5 (lengthPrefixed units).length input.mem
  rw [h5] at hfuel
  obtain ⟨m', hloop, hslice⟩ := nalLoop_lengthPrefixed _ 5 units input.mem hne (by omega)
    h5 hfuel
  refine ⟨m', ?_, hslice, htype⟩
  rw [hframe, hbodyLen, hn]
  unfold unitsPart
  rw [Access.run_bind_ok hloop]
  rfl

/-- A frame that passes the size check is handed over, and the muxer takes it. -/
theorem processed_frameBody {input : VideoInput} {frameType : Fin 16} {time : List UInt8}
    {units : List (List UInt8)} (hbody : input.body = frameBody frameType time units)
    (htime : time.length = 3) (hne : ∀ unit ∈ units, unit ≠ []) {c : RtmpClient}
    {ps : List (List UInt8)} (hmuxed : Muxed c.rtmpSavetots ps)
    (hfits : (if frameType = keyType then c.videoHeadDataLen else 0) +
      (lengthPrefixed units).length ≤ packetPesBuf - 25) :
    ∃ (call : Call) (t' : RtmpTots),
      call.pack = videoPack c input.chunk input.mem (lengthPrefixed units).length ∧
      call.mem.slice 5 (lengthPrefixed units).length = startCoded units ∧
      (input.mem 0 >>> 4 = 1 ↔ frameType = keyType) ∧
      input.processed c = .ok (0, { c.getMillisecond64.2 with rtmpSavetots := t' }) ∧
      SameFrame (call.built c.rtmpSavetots) t' ∧ call.Fits ∧
      (c.rtmpSavetots.tsFp = true →
        unitsOf videoPid (packets t'.output.emitted) =
          unitsOf videoPid (packets c.rtmpSavetots.output.emitted) ++
            [t'.pesBuf.slice 0 t'.pesLen]) := by
  have hbuf : packetPesBuf = 4195328 := rfl
  have hlen : input.body.length < 2147483648 := by
    rw [hbody, length_frameBody frameType htime]
    omega
  obtain ⟨m', hframe, hslice, htype⟩ := videoFrame_frameBody hbody htime hne hlen c
  have hprocessed := processed_frame hframe
  change input.processed c = _ at hprocessed
  generalize hcall : Call.mk c.getMillisecond64.1 (videoPack c input.chunk input.mem
    (lengthPrefixed units).length) m' = call at hprocessed
  have hpack : call.pack = videoPack c input.chunk input.mem (lengthPrefixed units).length := by
    rw [← hcall]
  have hpid : pidOf call.pack.type = some videoPid := by
    rw [hpack]
    rfl
  have hcallFits : call.Fits := by
    constructor
    · rw [hpid]
      rfl
    · rw [hpack]
      change (if input.mem 0 >>> 4 = 1 then c.videoHeadDataLen else 0) +
        (lengthPrefixed units).length ≤ packetPesBuf - 25
      simpa only [htype] using hfits
  obtain ⟨ret, t', hresult, hkept, hemitted⟩ := hmuxed.sends hcallFits hpid
  rw [hresult] at hprocessed
  refine ⟨call, t', hpack, ?_, htype, hprocessed, hkept, hcallFits, hemitted⟩
  rw [← hcall]
  exact hslice

section

variable {c : RtmpClient} {h : AvcHeader} {f : AvcFrame} {m m' : Mem} {n : Nat}

/-- The head data of a frame are the units of the header, if it is a key frame. -/
private theorem headData_videoPack (hc : Configured c h) (chunk : RtmpChunk) (n : Nat)
    (htype : m 0 >>> 4 = 1 ↔ f.frameType = keyType) :
    (videoPack c chunk m n).headDataLen = (startCoded (f.head h)).length ∧
      headBytes (videoPack c chunk m n) = startCoded (f.head h) := by
  have hlen := congrArg List.length hc.head
  rw [RtmpClient.videoHead, Mem.length_slice] at hlen
  unfold headBytes videoPack AvcFrame.head
  by_cases hkey : f.frameType = keyType
  · simp only [htype.2 hkey, hkey, if_true]
    exact ⟨hlen, hc.head⟩
  · have hnot : ¬m 0 >>> 4 = 1 := fun hk ↦ hkey (htype.1 hk)
    simp only [hnot, hkey, if_false]
    exact ⟨rfl, rfl⟩

/-- The frame starts with a start code and lacks a delimiter. -/
private theorem lacksDelimiter_videoPack (hc : Configured c h) (chunk : RtmpChunk)
    (htype : m 0 >>> 4 = 1 ↔ f.frameType = keyType) (hslice : m'.slice 5 n = startCoded f.units) :
    lacksDelimiterAt (startTypeOf (startBytes (videoPack c chunk m n) m'))
      (delimiterBytes (videoPack c chunk m n) m') = true := by
  obtain ⟨unit, units, hunits⟩ := List.exists_cons_of_ne_nil f.units_ne
  have hmem : unit ∈ f.units := by
    rw [hunits]
    exact List.mem_cons_self
  by_cases hkey : f.frameType = keyType
  · have hpos : c.videoHeadDataLen > 0 := by
      have hlen := congrArg List.length hc.head
      have hstart : startCode.length = 4 := rfl
      rw [RtmpClient.videoHead, Mem.length_slice, startCoded_cons, List.length_append] at hlen
      omega
    simp only [startBytes, delimiterBytes, videoPack, htype.2 hkey, if_true, if_pos hpos]
    exact lacksDelimiter_startCoded hc.head (List.ne_nil_of_length_pos h.sps_pos) h.sps_first
  · have hdata : (m'.shift 5).slice 0 n = startCoded (unit :: units) := by
      rw [Mem.slice_shift, hslice, hunits]
    have hnot : ¬m 0 >>> 4 = 1 := fun hk ↦ hkey (htype.1 hk)
    simp only [startBytes, delimiterBytes, videoPack, hnot, if_false]
    exact lacksDelimiter_startCoded hdata (f.unit_ne unit hmem) (f.unit_first unit hmem)

end

/-- A frame whose PES packet fits in the buffer becomes one PES packet, which carries the units
of the frame behind start codes, and those of the latest sequence header in front of them if it
is a key frame. -/
theorem rtmpProcessVideo_annexB (u : RtmpClient) {c : RtmpClient} {h : AvcHeader}
    (hrun : VideoRun u c h) (input : VideoInput) (f : AvcFrame) (hbody : input.body = f.body)
    (hfits : 19 + (f.annexB h).length ≤ packetPesBuf) :
    ∃ c' pes, input.processed c = .ok (0, c') ∧
      c'.rtmpSavetots.pesBuf.slice 0 c'.rtmpSavetots.pesLen = pes ∧
      pes.drop 19 = f.annexB h ∧
      (c.rtmpSavetots.tsFp = true →
        unitsOf videoPid (packets c'.rtmpSavetots.output.emitted) =
          unitsOf videoPid (packets c.rtmpSavetots.output.emitted) ++ [pes]) := by
  have hc := hrun.configured
  obtain ⟨ps, hmuxed⟩ := hc.muxed
  have hbuf : packetPesBuf = 4195328 := rfl
  have hlen := f.length_annexB h
  have hheld : (if f.frameType = keyType then c.videoHeadDataLen else 0) =
      (startCoded (f.head h)).length := by
    have hhead := congrArg List.length hc.head
    rw [RtmpClient.videoHead, Mem.length_slice] at hhead
    unfold AvcFrame.head
    split
    · exact hhead
    · rfl
  obtain ⟨call, t', hpack, hslice, htype, hprocessed, hkept, hcallFits, hemitted⟩ :=
    processed_frameBody hbody f.length_time f.unit_ne hmuxed (by rw [hheld]; omega)
  obtain ⟨hheadLen, hhead⟩ :=
    headData_videoPack hc input.chunk (lengthPrefixed f.units).length htype
  have hlacks := lacksDelimiter_videoPack hc input.chunk htype hslice
  have hkind : call.pack.type = .h264 := by
    rw [hpack]
    rfl
  have hdata : call.pack.data = 5 ∧ call.pack.dataLen = (lengthPrefixed f.units).length := by
    rw [hpack]
    exact ⟨rfl, rfl⟩
  rw [← hpack] at hheadLen hhead hlacks
  have hnone : call.pack.headData = none → call.pack.headDataLen = 0 := by
    intro hnone
    rw [hheadLen, ← hhead, headBytes, hnone]
    rfl
  have hbuilt := call.built_h264 hkind c.rtmpSavetots
  have hpayload := videoPes_payload call.dts (call.pts c.rtmpSavetots)
    (call.noted c.rtmpSavetots) call.mem hnone (by rw [hheadLen, hdata.2]; omega)
  have hframeBytes : frameBytes call.pack call.mem =
      startCoded (f.head h) ++ startCoded f.units := by
    unfold frameBytes
    rw [hhead, hdata.1, hdata.2, hslice]
  have hunit : lacksDelimiterAt (call.noted c.rtmpSavetots).unitType
      (delimiterBytes call.pack call.mem) = true := hlacks
  rw [hunit, if_pos rfl, hframeBytes, ← hbuilt, ← hkept.pesBuf, ← hkept.pesLen] at hpayload
  exact ⟨{ c.getMillisecond64.2 with rtmpSavetots := t' }, _, hprocessed, rfl, hpayload, hemitted⟩

/-- A message whose body lies at the start of the memory. -/
def VideoInput.ofBody (body : List UInt8) : VideoInput where
  chunk := RtmpChunk.zero
  body := body
  mem := Mem.ofList body
  holds := Mem.slice_ofList body

/-- A sequence header with an SPS of two bytes and a PPS of one byte. -/
def smallHeader : AvcHeader where
  time := [0, 0, 0]
  profile := [0x01, 0x42, 0x00, 0x1e, 0xff, 0xe1]
  sps := [0x67, 0x42]
  count := 0x01
  pps := [0x68]
  rest := []
  length_time := rfl
  length_profile := rfl
  sps_pos := by decide
  sps_le := by decide
  pps_pos := by decide
  pps_le := by decide
  sps_first := by decide

/-- A key frame of two units. -/
def keyFrame : AvcFrame where
  frameType := keyType
  time := [0, 0, 40]
  units := [[0x06, 0x05], [0x65]]
  length_time := rfl
  units_ne := by decide
  unit_ne := by decide
  unit_first := by decide

/-- A key frame behind a sequence header. -/
theorem rtmpProcessVideo_annexB_key :
    ∃ c c' pes,
      (VideoInput.ofBody smallHeader.body).processed (started blankClient [] [] []) = .ok (0, c) ∧
      (VideoInput.ofBody keyFrame.body).processed c = .ok (0, c') ∧
      c'.rtmpSavetots.pesBuf.slice 0 c'.rtmpSavetots.pesLen = pes ∧
      pes.drop 19 = [0, 0, 0, 1, 0x09, 0x10, 0, 0, 0, 1, 0x67, 0x42, 0, 0, 0, 1, 0x68,
        0, 0, 0, 1, 0x06, 0x05, 0, 0, 0, 1, 0x65] ∧
      (c.rtmpSavetots.tsFp = true →
        unitsOf videoPid (packets c'.rtmpSavetots.output.emitted) =
          unitsOf videoPid (packets c.rtmpSavetots.output.emitted) ++ [pes]) := by
  have hbody : (VideoInput.ofBody smallHeader.body).body = smallHeader.body := rfl
  have hheader := processed_header hbody (started blankClient [] [] [])
  have hfits : 19 + (keyFrame.annexB smallHeader).length ≤ packetPesBuf := by decide
  obtain ⟨c', pes, hframe⟩ := rtmpProcessVideo_annexB blankClient
    (VideoRun.first hbody hheader) (VideoInput.ofBody keyFrame.body) keyFrame rfl
    hfits
  exact ⟨_, c', pes, hheader, hframe⟩

end RtmpRecv.Client
