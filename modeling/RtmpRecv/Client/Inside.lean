import RtmpRecv.Client.Message
import RtmpRecv.Client.Record
import RtmpRecv.Client.Units
import RtmpRecv.Tots.Calls

/-!
# What the handlers touch of a message

Library `Client`. Which bodies the handlers of `rtmp_process_message` treat without reading
or writing past their end, and without taking a malformed one for a good one.
-/

namespace RtmpRecv.Client
open RtmpRecv.Base RtmpRecv.Tots RtmpRecv.Wire RtmpRecv.Amf0

/-! ### What a body needs -/

/-- The first part of a media handler decides to hand `pack` to the muxer. -/
def HandsOver (c : RtmpClient) (chunk : RtmpChunk) (dataLen : Int) (m : Mem) (pack : PackData) :
    Prop :=
  (chunk.messageType = 0x08 ∧ ∃ c' m',
    (rtmpProcessAudioFrame c chunk dataLen).run m = (.ok (.frame pack c'), m')) ∨
  (chunk.messageType = 0x09 ∧ ∃ c' m',
    (rtmpProcessVideoFrame c chunk dataLen).run m = (.ok (.frame pack c'), m'))

/-- The message is rejected, or it is ignored: nothing is handed over and nothing is stored. -/
def Refused (c : RtmpClient) (chunk : RtmpChunk) (dataLen : Int) (m : Mem) : Prop :=
  ∃ ret c' m', (rtmpProcessMessage c chunk dataLen).run m = (.ok (ret, c'), m') ∧
    (ret = -1 ∨ ret = 0 ∧ c' = c ∧ ∀ pack, ¬HandsOver c chunk dataLen m pack)

/-- The data of a frame is a list of units behind their lengths. -/
def UnitsFit (data : List UInt8) : Prop := ∃ units, data = lengthPrefixed units

/-- The tag of a sequence header. -/
def IsRecord (body : List UInt8) : Prop := body.getD 0 0 >>> 4 = 1 ∧ body.getD 1 0 = 0

instance (body : List UInt8) : Decidable (IsRecord body) :=
  inferInstanceAs (Decidable (body.getD 0 0 >>> 4 = 1 ∧ body.getD 1 0 = 0))

/-- A video message that is too short or whose inner lengths exceed what is left. -/
def MalformedVideo (body : List UInt8) : Prop :=
  body.length < 1 ∨ body.getD 0 0 &&& 0x0f = 7 ∧
    (body.length < 5 ∨
      if IsRecord body then ¬RecordFits (body.drop 5) else ¬UnitsFit (body.drop 5))

/-- An audio message that is too short. -/
def MalformedAudio (body : List UInt8) : Prop :=
  body.length < 1 ∨ body.getD 0 0 >>> 4 = 10 ∧
    (body.length < 2 ∨ body.getD 1 0 = 0 ∧ body.length < 4)

/-- The length of the command name. -/
def nameLen (body : List UInt8) : Nat := be16 (body.getD 1 0) (body.getD 2 0)

/-- A command that is too short for its name, or for the answer to `createStream` that is
waited for. -/
def MalformedCommand (c : RtmpClient) (body : List UInt8) : Prop :=
  body.length < 3 ∨ body.length < 3 + nameLen body ∨
    c.rtmpStatus = .waitCreateStream ∧
      ((body.drop 3).take (nameLen body)).takeWhile (· ≠ 0) = ascii "_result" ∧
      body.length < 3 + nameLen body + 19

/-- A message too short for its type, or with an inner length that exceeds what is left. -/
def Malformed (c : RtmpClient) (type : Nat) (body : List UInt8) : Prop :=
  match type with
  | 0x01 => body.length < 4
  | 0x05 => body.length < 4
  | 0x06 => body.length < 4
  | 0x08 => MalformedAudio body
  | 0x09 => MalformedVideo body
  | 0x14 => MalformedCommand c body
  | _ => False

/-- The handler touches the body alone, and refuses it when it is malformed. -/
def StaysInside (c : RtmpClient) (chunk : RtmpChunk) (n : Nat) (m : Mem) : Prop :=
  (rtmpProcessMessage c chunk n).Within m n ∧
    (Malformed c chunk.messageType (m.slice 0 n) → Refused c chunk n m)

/-! ### Bodies that suffice -/

/-- Data of a frame: a unit is refused, or the search for a start code ends in the data or,
behind the stored head, in the head. -/
def FrameWithin (c : RtmpClient) (body : List UInt8) : Prop :=
  UnitsRefused (body.drop 5) ∨
    if body.getD 0 0 >>> 4 = 1 then
      c.videoHeadDataLen = 0 →
        DelimiterInside (startTypeOf c.videoHeadData) (body.drop 5).length
    else SearchInside (body.drop 5)

/-- A video message: another codec, or the tag is there and so is what it announces. -/
def VideoWithin (c : RtmpClient) (body : List UInt8) : Prop :=
  1 ≤ body.length ∧ (body.getD 0 0 &&& 0x0f = 7 → 5 ≤ body.length ∧
    if IsRecord body then RecordSuffices (body.drop 5) else FrameWithin c body)

/-- An audio message: the AAC tag and header are there, or the search for a start code ends. -/
def AudioSuffices (body : List UInt8) : Prop :=
  1 ≤ body.length ∧
    if body.getD 0 0 >>> 4 = 10 then 2 ≤ body.length ∧ (body.getD 1 0 = 0 → 4 ≤ body.length)
    else StartInside (body.drop 1)

/-- A body in which the handler finds all that it reads. -/
def BodyWithin (c : RtmpClient) (type : Nat) (body : List UInt8) : Prop :=
  match type with
  | 0x01 => 4 ≤ body.length
  | 0x05 => 4 ≤ body.length
  | 0x06 => 4 ≤ body.length
  | 0x08 => AudioSuffices body
  | 0x09 => VideoWithin c body
  | _ => True

/-- Data of a frame: a unit is refused, or the units fill the data. Then the search for a start
code must end in the data, or, behind the stored head, in the head. -/
def FrameSuffices (c : RtmpClient) (body : List UInt8) : Prop :=
  UnitsRefused (body.drop 5) ∨ UnitsFit (body.drop 5) ∧
    if body.getD 0 0 >>> 4 = 1 then
      c.videoHeadDataLen = 0 →
        DelimiterInside (startTypeOf c.videoHeadData) (body.drop 5).length
    else body.drop 5 ≠ []

/-- A video message: another codec, or the tag is there and the data suffices. -/
def VideoSuffices (c : RtmpClient) (body : List UInt8) : Prop :=
  1 ≤ body.length ∧ (body.getD 0 0 &&& 0x0f = 7 → 5 ≤ body.length ∧
    if IsRecord body then RecordSuffices (body.drop 5) else FrameSuffices c body)

/-- A body that is long enough for what the handler does with it. -/
def BodySuffices (c : RtmpClient) (type : Nat) (body : List UInt8) : Prop :=
  match type with
  | 0x01 => 4 ≤ body.length
  | 0x05 => 4 ≤ body.length
  | 0x06 => 4 ≤ body.length
  | 0x08 => AudioSuffices body
  | 0x09 => VideoSuffices c body
  | _ => True

/-! ### Control messages -/

theorem within_controlValue (m : Mem) (n : Nat) : controlValue.Within m n ↔ 4 ≤ n := by
  unfold controlValue
  simp only [Access.bind_eq, Access.get_bind, Access.within_read, Access.pure_eq_ret,
    Access.within_ret, and_true]
  omega

theorem within_controlValue_bind {β : Type} (f : Nat → β) (m : Mem) (n : Nat) :
    (controlValue.bind fun value ↦ .ret (f value)).Within m n ↔ 4 ≤ n := by
  rw [Access.within_bind_of_forall fun a m' ↦ Access.within_ret _ _ _]
  exact within_controlValue m n

/-! ### Audio -/

theorem within_handToTots (pack : PackData) (c : RtmpClient) (m : Mem) (n : Nat) :
    (handToTots pack c).Within m n ↔
      (rtmpTotsPacketFromCache c.getMillisecond64.1 pack c.getMillisecond64.2.rtmpSavetots).Within
        m n := by
  unfold handToTots
  exact Access.within_bind_of_forall fun a m' ↦ Access.within_ret _ _ _

/-- What is left of handing a frame over is a call of the muxer. -/
theorem run_handToTots (pack : PackData) (c : RtmpClient) (m : Mem) :
    (handToTots pack c).run m =
      (match (Call.mk c.getMillisecond64.1 pack m).result c.rtmpSavetots with
      | .error e => .error e
      | .ok r => .ok { c.getMillisecond64.2 with rtmpSavetots := r.2 }, m) := by
  have hmem := (Call.mk c.getMillisecond64.1 pack m).mem_fromCache c.rtmpSavetots
  unfold handToTots Call.result
  dsimp only [RtmpClient.getMillisecond64, Access.bind_eq] at hmem ⊢
  rw [Access.run_bind]
  generalize (rtmpTotsPacketFromCache _ pack _).run m = end' at hmem
  obtain ⟨result, m'⟩ := end'
  dsimp only at hmem
  subst hmem
  cases result with
  | error e => rfl
  | ok r => rfl

theorem getD_window (m : Mem) {n i : Nat} (h : i < n) : (m.slice 0 n).getD i 0 = m i := by
  rw [Mem.getD_slice _ _ _ _ _ h, Nat.zero_add]

theorem drop_window (m : Mem) (n k : Nat) : (m.slice 0 n).drop k = m.slice k (n - k) := by
  rw [Mem.drop_slice, Nat.zero_add]

theorem within_rtmpProcessAudio (c : RtmpClient) (chunk : RtmpChunk) (n : Nat) (m : Mem)
    (hn : n < 2147483648) :
    (rtmpProcessAudio c chunk n).Within m n ↔ AudioSuffices (m.slice 0 n) := by
  unfold rtmpProcessAudio rtmpProcessAudioFrame AudioSuffices
  simp only [Access.bind_eq, Access.get_bind, Access.read_bind, Access.within_read,
    Mem.length_slice]
  refine and_congr_right fun h1 ↦ ?_
  rw [getD_window m h1]
  by_cases haac : m 0 >>> 4 = 10
  · rw [if_pos haac, if_pos haac]
    simp only [Access.read_bind, Access.within_read]
    refine and_congr_right fun h2 ↦ ?_
    rw [getD_window m h2]
    by_cases hignored : c.audioHeadDataLen = 0 ∧ m 1 ≠ 0
    · rw [if_pos hignored]
      exact iff_of_true (Access.within_ret _ _ _) fun h ↦ absurd h hignored.2
    · rw [if_neg hignored]
      by_cases hheader : m 1 = 0
      · rw [if_pos hheader]
        simp only [Access.read_bind, Access.within_read, Access.pure_eq_ret, Access.ret_bind,
          Access.within_ret, hheader, forall_const, and_true]
        omega
      · rw [if_neg hheader]
        refine iff_of_true ?_ fun h ↦ absurd h hheader
        have hlen : toUInt32 ((toUInt32 ((n : Int) - 1) : Int) - 1) = n - 2 := by
          unfold toUInt32
          omega
        simp only [Access.pure_eq_ret, Access.ret_bind]
        rw [Access.within_bind_of_forall fun _ _ ↦ Access.within_ret _ _ _, within_handToTots]
        refine stays_fromCache_aac _ _ _ _ _ rfl rfl ?_ m
        dsimp only
        rw [hlen]
        omega
  · rw [if_neg haac, if_neg haac, drop_window]
    simp only [Access.pure_eq_ret, Access.ret_bind]
    rw [Access.within_bind_of_forall fun _ _ ↦ Access.within_ret _ _ _, within_handToTots]
    obtain ⟨d, rfl⟩ : ∃ d, n = 1 + d := ⟨n - 1, by omega⟩
    rw [Nat.add_sub_cancel_left]
    exact within_fromCache_unset _ d _ _ m rfl rfl

/-! ### Video -/

/-- The frame that `rtmp_process_video` hands over for a message of `d` bytes behind the tag. -/
def videoPack (c : RtmpClient) (chunk : RtmpChunk) (m : Mem) (d : Nat) : PackData :=
  let offsetTime := if be24 (m 2) (m 3) (m 4) > 1000 then 0 else be24 (m 2) (m 3) (m 4)
  { type := .h264, decodeMs := chunk.timeStamp
    pictureMs := (chunk.timeStamp + offsetTime) % 4294967296
    headData := if m 0 >>> 4 = 1 then some c.videoHeadData else none
    headDataLen := if m 0 >>> 4 = 1 then c.videoHeadDataLen else 0
    data := 5, dataLen := d, isKeyframe := decide (m 0 >>> 4 = 1) }

/-- The part of `rtmp_process_video` from the loop over the units on. -/
def unitsPart (c : RtmpClient) (pack : PackData) (d : Nat) : Access Fault MediaStep :=
  (nalLoop (nalFuel d) 5 d).bind fun ok ↦
    if ok then .ret (.frame pack c) else .ret (.done (-1) c)

section

variable {c : RtmpClient} {chunk : RtmpChunk} {n : Nat} {m : Mem}

theorem videoFrame_other (c : RtmpClient) (chunk : RtmpChunk) (hcodec : m 0 &&& 0x0f ≠ 7) :
    (rtmpProcessVideoFrame c chunk n).run m = (.ok (.done (-1) c), m) ∧
      ((rtmpProcessVideoFrame c chunk n).Within m n ↔ 1 ≤ n) := by
  unfold rtmpProcessVideoFrame
  simp only [Access.bind_eq, Access.get_bind, Access.run_read, Access.within_read]
  rw [if_pos hcodec]
  exact ⟨rfl, and_iff_left (Access.within_ret _ _ _)⟩

private theorem videoFrame_avc (hcodec : m 0 &&& 0x0f = 7)
    (h : (rtmpProcessVideoFrame c chunk n).Within m n) : 5 ≤ n := by
  unfold rtmpProcessVideoFrame at h
  simp only [Access.bind_eq, Access.get_bind, Access.within_read] at h
  rw [if_neg (not_not_intro hcodec)] at h
  simp only [Access.within_read] at h
  omega

theorem videoFrame_record (c : RtmpClient) (chunk : RtmpChunk) (h5 : 5 ≤ n)
    (hcodec : m 0 &&& 0x0f = 7)
    (htype : m 0 >>> 4 = 1) (hkind : m 1 = 0) :
    (rtmpProcessVideoFrame c chunk n).run m = (avcSequenceHeader c 5 (n - 5 : Nat)).run m ∧
      ((rtmpProcessVideoFrame c chunk n).Within m n ↔
        (avcSequenceHeader c 5 (n - 5 : Nat)).Within m n) := by
  have hsub : ((n : Int) - 5) = ((n - 5 : Nat) : Int) := by omega
  unfold rtmpProcessVideoFrame
  simp only [Access.bind_eq, Access.get_bind, Access.run_read, Access.within_read]
  rw [if_neg (not_not_intro hcodec), hsub]
  simp only [Access.run_read, Access.within_read]
  rw [if_pos htype]
  simp only [Access.run_read, Access.within_read]
  rw [if_pos hkind]
  refine ⟨rfl, ?_⟩
  constructor
  · exact fun h ↦ h.2.2.2.2.2
  · exact fun h ↦ ⟨by omega, by omega, by omega, by omega, by omega, h⟩

theorem videoFrame_units (c : RtmpClient) (chunk : RtmpChunk) (h5 : 5 ≤ n) (hn : n < 2147483648)
    (hcodec : m 0 &&& 0x0f = 7)
    (hrecord : ¬(m 0 >>> 4 = 1 ∧ m 1 = 0)) :
    (rtmpProcessVideoFrame c chunk n).run m =
        (unitsPart c (videoPack c chunk m (n - 5)) (n - 5)).run m ∧
      ((rtmpProcessVideoFrame c chunk n).Within m n ↔
        (unitsPart c (videoPack c chunk m (n - 5)) (n - 5)).Within m n) := by
  have hsub : ((n : Int) - 5) = ((n - 5 : Nat) : Int) := by omega
  unfold rtmpProcessVideoFrame videoPack unitsPart
  simp only [Access.bind_eq, Access.get_bind, Access.run_read, Access.within_read]
  rw [if_neg (not_not_intro hcodec), hsub]
  simp only [Access.run_read, Access.within_read,
    toUInt32_of_nonneg (n - 5) (by omega)]
  by_cases htype : m 0 >>> 4 = 1
  · simp only [htype, if_true, decide_true, Access.run_read, Access.within_read]
    rw [if_neg (fun h ↦ hrecord ⟨htype, h⟩)]
    refine ⟨rfl, ?_⟩
    constructor
    · exact fun h ↦ h.2.2.2.2.2
    · exact fun h ↦ ⟨by omega, by omega, by omega, by omega, by omega, h⟩
  · simp only [htype, if_false, decide_false]
    refine ⟨rfl, ?_⟩
    constructor
    · exact fun h ↦ h.2.2.2.2
    · exact fun h ↦ ⟨by omega, by omega, by omega, by omega, h⟩

/-- A frame with a unit that is refused. -/
theorem unitsPart_refused (c : RtmpClient) (pack : PackData) (h5 : 5 ≤ n) (hn : n < 2147483648)
    (hr : UnitsRefused (m.slice 5 (n - 5))) :
    (∃ m', (unitsPart c pack (n - 5)).run m = (.ok (.done (-1) c), m')) ∧
      (unitsPart c pack (n - 5)).Within m n := by
  obtain ⟨b, m', hrun, hb, hinside⟩ := nalLoop_run (nalFuel (n - 5 : Nat)) 5 (n - 5) m (by omega)
    (enoughRounds_nalFuel 5 (n - 5) m)
  have hfalse := hb.2 hr
  subst hfalse
  unfold unitsPart
  refine ⟨⟨m', Access.run_bind_ok hrun _⟩, Access.Within.bind hrun (fun i hi ↦ ?_)
    (Access.within_ret _ _ _)⟩
  have hi' := hinside i hi
  omega

/-- A frame without such a unit is handed over. The loop leaves a frame of four bytes alone. -/
theorem unitsPart_taken (c : RtmpClient) (pack : PackData) (h5 : 5 ≤ n) (hn : n < 2147483648)
    (hr : ¬UnitsRefused (m.slice 5 (n - 5))) :
    ∃ m', (unitsPart c pack (n - 5)).run m = (.ok (.frame pack c), m') ∧
      (unitsPart c pack (n - 5)).Within m n ∧ (n - 5 ≤ 4 → m' = m) := by
  obtain ⟨b, m', hrun, hb, hinside⟩ := nalLoop_run (nalFuel (n - 5 : Nat)) 5 (n - 5) m (by omega)
    (enoughRounds_nalFuel 5 (n - 5) m)
  have htrue : b = true := by
    cases b with
    | false => exact absurd (hb.1 rfl) hr
    | true => rfl
  subst htrue
  unfold unitsPart
  refine ⟨m', Access.run_bind_ok hrun _, Access.Within.bind hrun (fun i hi ↦ ?_)
    (Access.within_ret _ _ _), fun hshort ↦ ?_⟩
  · have hi' := hinside i hi
    omega
  · rw [nalLoop_stop _ _ (by omega)] at hrun
    cases hrun
    rfl

end

/-- The length field of the only unit that fits four bytes. -/
theorem lengthPrefixed_four {units : List (List UInt8)}
    (h : (lengthPrefixed units).length ≤ 4) (hne : lengthPrefixed units ≠ []) :
    lengthPrefixed units = [0, 0, 0, 0] := by
  cases units with
  | nil => exact absurd rfl hne
  | cons unit units =>
    have hlen := length_lengthPrefixed_cons unit units
    have hunit : unit = [] := List.length_eq_zero_iff.1 (by omega)
    cases units with
    | nil =>
      rw [hunit]
      decide
    | cons unit' units' =>
      have hlen' := length_lengthPrefixed_cons unit' units'
      omega

/-- In data that its units fill, the search for a start code ends unless there are none. -/
theorem searchInside_of_unitsFit {data : List UInt8} (h : UnitsFit data) :
    SearchInside data ↔ data ≠ [] := by
  obtain ⟨units, rfl⟩ := h
  constructor
  · exact fun h ↦ h.1.1
  · intro hne
    by_cases h4 : (lengthPrefixed units).length ≤ 4
    · rw [lengthPrefixed_four h4 hne]
      decide
    · exact searchInside_of_length (by omega)

section

variable {c c' : RtmpClient} {chunk : RtmpChunk} {n : Nat} {m m' : Mem}

theorem video_done {ret : Int}
    (hrun : (rtmpProcessVideoFrame c chunk n).run m = (.ok (.done ret c'), m')) :
    (rtmpProcessVideo c chunk n).run m = (.ok (ret, c'), m') ∧
      ((rtmpProcessVideo c chunk n).Within m n ↔ (rtmpProcessVideoFrame c chunk n).Within m n) := by
  unfold rtmpProcessVideo
  dsimp only [Access.bind_eq]
  rw [Access.run_bind_ok hrun, Access.within_bind_iff hrun]
  exact ⟨rfl, and_iff_left (Access.within_ret _ _ _)⟩

private theorem video_frame {pack : PackData}
    (hrun : (rtmpProcessVideoFrame c chunk n).run m = (.ok (.frame pack c'), m')) :
    (∀ ret c₁ m₁, (rtmpProcessVideo c chunk n).run m = (.ok (ret, c₁), m₁) → ret = 0) ∧
      ((rtmpProcessVideo c chunk n).Within m n ↔ (rtmpProcessVideoFrame c chunk n).Within m n ∧
        (handToTots pack c').Within m' n) := by
  unfold rtmpProcessVideo
  dsimp only [Access.bind_eq]
  rw [Access.run_bind_ok hrun, Access.within_bind_iff hrun]
  refine ⟨fun ret c₁ m₁ h ↦ ?_,
    and_congr_right fun _ ↦ Access.within_bind_of_forall fun _ _ ↦ Access.within_ret _ _ _⟩
  have hreturns : ((handToTots pack c').bind fun c ↦
      (.ret (0, c) : Access Fault (Int × RtmpClient))).Returns fun r ↦ r.1 = 0 :=
    Access.Returns.bind_of_forall fun _ ↦ Access.Returns.ret rfl
  exact hreturns m' _ m₁ h

theorem rtmpProcessMessage_video (htype : chunk.messageType = 0x09) :
    rtmpProcessMessage c chunk n = rtmpProcessVideo c chunk n := by
  unfold rtmpProcessMessage
  rw [htype]
  rfl

/-- A message whose frame is handed over is not refused. -/
private theorem not_refused_of_frame {pack : PackData} (htype : chunk.messageType = 0x09)
    (hrun : (rtmpProcessVideoFrame c chunk n).run m = (.ok (.frame pack c'), m')) :
    ¬Refused c chunk n m := by
  rintro ⟨ret, c₁, m₁, hret, hcases⟩
  rw [rtmpProcessMessage_video htype] at hret
  have hzero := (video_frame hrun).1 ret c₁ m₁ hret
  rcases hcases with hneg | ⟨-, -, hnone⟩
  · omega
  · exact hnone pack (Or.inr ⟨htype, c', m', hrun⟩)

/-- A frame: the handler stays inside exactly when a unit is refused or the search ends. -/
private theorem within_units (hn : n < 2147483648) (h5 : 5 ≤ n) (hcodec : m 0 &&& 0x0f = 7)
    (hrecord : ¬(m 0 >>> 4 = 1 ∧ m 1 = 0)) :
    (rtmpProcessVideo c chunk n).Within m n ↔
      UnitsRefused (m.slice 5 (n - 5)) ∨
        if m 0 >>> 4 = 1 then
          c.videoHeadDataLen = 0 → DelimiterInside (startTypeOf c.videoHeadData) (n - 5)
        else SearchInside (m.slice 5 (n - 5)) := by
  obtain ⟨hframe, hwithin⟩ := videoFrame_units c chunk h5 hn hcodec hrecord
  by_cases hr : UnitsRefused (m.slice 5 (n - 5))
  · obtain ⟨⟨m', hrun⟩, hinside⟩ :=
      unitsPart_refused c (videoPack c chunk m (n - 5)) h5 hn hr
    rw [hrun] at hframe
    exact iff_of_true ((video_done hframe).2.2 (hwithin.2 hinside)) (Or.inl hr)
  · obtain ⟨m', hrun, hinside, hm⟩ :=
      unitsPart_taken c (videoPack c chunk m (n - 5)) h5 hn hr
    rw [hrun] at hframe
    have hlen : (videoPack c chunk m (n - 5)).data + (videoPack c chunk m (n - 5)).dataLen = n := by
      change 5 + (n - 5) = n
      omega
    have hhead : (videoPack c chunk m (n - 5)).headData = none →
        (videoPack c chunk m (n - 5)).headDataLen = 0 := by
      unfold videoPack
      dsimp only
      split
      · intro h
        cases h
      · exact fun _ ↦ rfl
    have hiff := within_fromCache_h264 c.getMillisecond64.1 (videoPack c chunk m (n - 5))
      c.getMillisecond64.2.rtmpSavetots m' rfl hhead
    rw [hlen, ← within_handToTots] at hiff
    rw [(video_frame hframe).2, and_iff_right (hwithin.2 hinside), hiff, or_iff_right hr]
    unfold VideoInside videoPack
    by_cases hkey : m 0 >>> 4 = 1
    · simp only [hkey, if_true]
    · simp only [hkey, if_false]
      rw [searchInside_iff]
      by_cases hshort : n - 5 ≤ 4
      · rw [hm hshort]
      · -- the loop has written to the data, but both searches end in its first five bytes
        exact iff_of_true (searchInside_of_length (by rw [Mem.length_slice]; omega))
          (searchInside_of_length (by rw [Mem.length_slice]; omega))

private theorem staysInside_units (hn : n < 2147483648) (htype : chunk.messageType = 0x09)
    (h5 : 5 ≤ n) (hcodec : m 0 &&& 0x0f = 7) (hrecord : ¬(m 0 >>> 4 = 1 ∧ m 1 = 0)) :
    ((rtmpProcessVideo c chunk n).Within m n ∧
        (¬UnitsFit (m.slice 5 (n - 5)) → Refused c chunk n m)) ↔
      UnitsRefused (m.slice 5 (n - 5)) ∨ UnitsFit (m.slice 5 (n - 5)) ∧
        if m 0 >>> 4 = 1 then
          c.videoHeadDataLen = 0 → DelimiterInside (startTypeOf c.videoHeadData) (n - 5)
        else m.slice 5 (n - 5) ≠ [] := by
  obtain ⟨hframe, -⟩ := videoFrame_units c chunk h5 hn hcodec hrecord
  rw [within_units hn h5 hcodec hrecord]
  by_cases hr : UnitsRefused (m.slice 5 (n - 5))
  · obtain ⟨⟨m', hrun⟩, -⟩ := unitsPart_refused c (videoPack c chunk m (n - 5)) h5 hn hr
    rw [hrun] at hframe
    refine iff_of_true ⟨Or.inl hr, fun _ ↦ ⟨-1, c, m', ?_, Or.inl rfl⟩⟩ (Or.inl hr)
    rw [rtmpProcessMessage_video htype]
    exact (video_done hframe).1
  · obtain ⟨m', hrun, -⟩ := unitsPart_taken c (videoPack c chunk m (n - 5)) h5 hn hr
    rw [hrun] at hframe
    have hnot := not_refused_of_frame htype hframe
    rw [or_iff_right hr, or_iff_right hr]
    by_cases hfit : UnitsFit (m.slice 5 (n - 5))
    · rw [and_iff_left fun h ↦ absurd hfit h, and_iff_right hfit, searchInside_of_unitsFit hfit]
    · exact iff_of_false (fun h ↦ hnot (h.2 hfit)) fun h ↦ hfit h.1

/-- A sequence header: the handler stays inside exactly when what its lengths say is there. -/
private theorem within_record (h5 : 5 ≤ n) (hcodec : m 0 &&& 0x0f = 7) (htag : m 0 >>> 4 = 1)
    (hkind : m 1 = 0) :
    (rtmpProcessVideo c chunk n).Within m n ↔ RecordSuffices (m.slice 5 (n - 5)) := by
  obtain ⟨hframe, hwithin⟩ := videoFrame_record c chunk h5 hcodec htag hkind
  have hiff := within_avcSequenceHeader c 5 (n - 5) m
  have hlen : 5 + (n - 5) = n := by omega
  rw [hlen] at hiff
  constructor
  · exact fun h ↦ hiff.1 (hwithin.1 h.of_bind)
  · intro hs
    rw [run_avcSequenceHeader_eq] at hframe
    exact (video_done hframe).2.2 (hwithin.2 (hiff.2 hs))

private theorem staysInside_record (htype : chunk.messageType = 0x09) (h5 : 5 ≤ n)
    (hcodec : m 0 &&& 0x0f = 7) (htag : m 0 >>> 4 = 1) (hkind : m 1 = 0) :
    ((rtmpProcessVideo c chunk n).Within m n ∧
        (¬RecordFits (m.slice 5 (n - 5)) → Refused c chunk n m)) ↔
      RecordSuffices (m.slice 5 (n - 5)) := by
  rw [within_record h5 hcodec htag hkind]
  refine and_iff_left_of_imp fun hs hfits ↦ ?_
  obtain ⟨hframe, -⟩ := videoFrame_record c chunk h5 hcodec htag hkind
  rw [run_avcSequenceHeader_eq] at hframe
  refine ⟨_, c.headRead 5 (n - 5 : Nat) m, m, ?_, Or.inl (headRet_refused hs hfits)⟩
  rw [rtmpProcessMessage_video htype]
  exact (video_done hframe).1

private theorem isRecord_window (h5 : 5 ≤ n) :
    IsRecord (m.slice 0 n) ↔ m 0 >>> 4 = 1 ∧ m 1 = 0 := by
  unfold IsRecord
  rw [getD_window m (by omega), getD_window m (by omega)]

/-- A message of another codec is refused after its first byte. -/
private theorem within_other (hcodec : m 0 &&& 0x0f ≠ 7) :
    (rtmpProcessVideo c chunk n).run m = (.ok (-1, c), m) ∧
      ((rtmpProcessVideo c chunk n).Within m n ↔ 1 ≤ n) := by
  obtain ⟨hrun, hwithin⟩ := videoFrame_other c chunk (n := n) hcodec
  obtain ⟨hvideo, hiff⟩ := video_done hrun
  exact ⟨hvideo, hiff.trans hwithin⟩

/-- A video message: the handler stays inside exactly when it finds what it reads. -/
private theorem within_rtmpProcessVideo (hn : n < 2147483648) :
    (rtmpProcessVideo c chunk n).Within m n ↔ VideoWithin c (m.slice 0 n) := by
  unfold VideoWithin
  rw [Mem.length_slice]
  by_cases hcodec : m 0 &&& 0x0f = 7
  · by_cases h5 : 5 ≤ n
    · rw [and_iff_right (by omega), getD_window m (by omega), drop_window, and_iff_right h5]
      simp only [hcodec, forall_const]
      by_cases hr : IsRecord (m.slice 0 n)
      · obtain ⟨htag, hkind⟩ := (isRecord_window h5).1 hr
        rw [if_pos hr]
        exact within_record h5 hcodec htag hkind
      · rw [if_neg hr, within_units hn h5 hcodec fun h ↦ hr ((isRecord_window h5).2 h)]
        unfold FrameWithin
        rw [getD_window m (by omega), drop_window, Mem.length_slice]
    · refine iff_of_false (fun h ↦ h5 (videoFrame_avc hcodec h.of_bind)) ?_
      rintro ⟨h1, h⟩
      rw [getD_window m h1] at h
      exact h5 (h hcodec).1
  · rw [(within_other hcodec).2]
    refine (and_iff_left_of_imp fun h1 h ↦ ?_).symm
    rw [getD_window m h1] at h
    exact absurd h hcodec

/-- A video message. -/
private theorem staysInside_video (hn : n < 2147483648) (htype : chunk.messageType = 0x09) :
    StaysInside c chunk n m ↔ VideoSuffices c (m.slice 0 n) := by
  have hmalformed : Malformed c chunk.messageType (m.slice 0 n) = MalformedVideo (m.slice 0 n) := by
    rw [htype]
    rfl
  unfold StaysInside VideoSuffices
  rw [hmalformed, rtmpProcessMessage_video htype, Mem.length_slice]
  by_cases hcodec : m 0 &&& 0x0f = 7
  · by_cases h5 : 5 ≤ n
    · have hmal : MalformedVideo (m.slice 0 n) ↔
          if IsRecord (m.slice 0 n) then ¬RecordFits (m.slice 5 (n - 5))
          else ¬UnitsFit (m.slice 5 (n - 5)) := by
        unfold MalformedVideo
        rw [Mem.length_slice, getD_window m (by omega), drop_window]
        simp only [hcodec, true_and]
        rw [or_iff_right (by omega), or_iff_right (by omega)]
      have h1 : 1 ≤ n := by omega
      rw [hmal, getD_window m (by omega), drop_window]
      simp only [h1, h5, hcodec, true_and, forall_const]
      by_cases hr : IsRecord (m.slice 0 n)
      · rw [if_pos hr, if_pos hr]
        obtain ⟨htag, hkind⟩ := (isRecord_window h5).1 hr
        exact staysInside_record htype h5 hcodec htag hkind
      · rw [if_neg hr, if_neg hr]
        unfold FrameSuffices
        rw [getD_window m (by omega), drop_window, Mem.length_slice]
        exact staysInside_units hn htype h5 hcodec fun h ↦ hr ((isRecord_window h5).2 h)
    · refine iff_of_false (fun h ↦ h5 (videoFrame_avc hcodec h.1.of_bind)) ?_
      rintro ⟨h1, h⟩
      rw [getD_window m h1] at h
      exact h5 (h hcodec).1
  · obtain ⟨hvideo, hwithin⟩ :
        (rtmpProcessVideo c chunk n).run m = (.ok (-1, c), m) ∧
          ((rtmpProcessVideo c chunk n).Within m n ↔ 1 ≤ n) := within_other hcodec
    rw [hwithin]
    constructor
    · rintro ⟨h1, -⟩
      refine ⟨h1, fun h ↦ ?_⟩
      rw [getD_window m h1] at h
      exact absurd h hcodec
    · rintro ⟨h1, -⟩
      refine ⟨h1, fun _ ↦ ⟨-1, c, m, ?_, Or.inl rfl⟩⟩
      rw [rtmpProcessMessage_video htype]
      exact hvideo

end

/-! ### Commands -/

private theorem stays_createStreamResult (c : RtmpClient) {src n : Nat} {dataLen : Int}
    (h : src + dataLen ≤ n) : (rtmpProcessCmd0x14CreateStreamResult c src dataLen).Stays n := by
  unfold rtmpProcessCmd0x14CreateStreamResult
  refine Access.Stays.bind (stays_rtmpAmf0PopNumber h)
    (ends_rtmpAmf0PopNumber src dataLen).returns fun number hnumber ↦ ?_
  cases number with
  | none => exact Access.Stays.ret
  | some number =>
    obtain ⟨t, ret⟩ := number
    obtain ⟨rfl, hlen⟩ := hnumber t ret rfl
    dsimp only
    have hnull : ((src + 9 : Nat) : Int) + (dataLen - (9 : Nat)) ≤ n := by omega
    refine Access.Stays.bind (stays_rtmpAmf0PopNull hnull)
      (ends_rtmpAmf0PopNull _ _).returns fun null hnull' ↦ ?_
    cases null with
    | none => exact Access.Stays.ret
    | some null =>
      obtain ⟨rfl, hlen'⟩ := hnull' null rfl
      refine Access.Stays.bind_of_forall (stays_rtmpAmf0PopNumber (by omega)) fun id ↦ ?_
      cases id with
      | none => exact Access.Stays.ret
      | some id => exact Access.Stays.ret

/-- The command handler stays inside every message. -/
theorem stays_rtmpProcessCmd0x14 (c : RtmpClient) (n : Nat) :
    (rtmpProcessCmd0x14 c n).Stays n := by
  unfold rtmpProcessCmd0x14
  refine Access.Stays.bind (stays_rtmpAmf0PopString 256 (by omega))
    (returns_rtmpAmf0PopString 256 0 n) fun name hname ↦ ?_
  cases name with
  | none => exact Access.Stays.ret
  | some name =>
    obtain ⟨commandName, ret⟩ := name
    have hret := hname commandName ret rfl
    refine Access.Stays.ite (fun _ ↦ ?_) fun _ ↦ Access.Stays.ret
    refine Access.Stays.ite (fun _ ↦ Access.Stays.ret) fun _ ↦ ?_
    exact Access.Stays.ite (fun _ ↦ stays_createStreamResult c (by omega)) fun _ ↦ Access.Stays.ret

/-- An answer to `createStream` that is too short is rejected. -/
private theorem ends_createStreamResult (c : RtmpClient) (src : Nat) (dataLen : Int)
    (h : dataLen < 19) :
    (rtmpProcessCmd0x14CreateStreamResult c src dataLen).Ends fun r ↦ r.1 = -1 := by
  unfold rtmpProcessCmd0x14CreateStreamResult
  refine Access.Ends.bind (ends_rtmpAmf0PopNumber src dataLen) fun number hnumber ↦ ?_
  cases number with
  | none => exact Access.Ends.ret rfl
  | some number =>
    obtain ⟨t, ret⟩ := number
    obtain ⟨rfl, hlen⟩ := hnumber t ret rfl
    refine Access.Ends.bind (ends_rtmpAmf0PopNull _ _) fun null hnull ↦ ?_
    cases null with
    | none => exact Access.Ends.ret rfl
    | some null =>
      obtain ⟨rfl, hlen'⟩ := hnull null rfl
      refine Access.Ends.bind (ends_rtmpAmf0PopNumber _ _) fun id hid ↦ ?_
      cases id with
      | none => exact Access.Ends.ret rfl
      | some id =>
        obtain ⟨t', ret'⟩ := id
        obtain ⟨-, hlen''⟩ := hid t' ret' rfl
        omega

/-- A command that is too short is rejected. -/
private theorem run_rtmpProcessCmd0x14_short (c : RtmpClient) (n : Nat) (m : Mem)
    (h : MalformedCommand c (m.slice 0 n)) :
    ∃ c' m', (rtmpProcessCmd0x14 c n).run m = (.ok (-1, c'), m') := by
  unfold MalformedCommand at h
  rw [Mem.length_slice] at h
  unfold rtmpProcessCmd0x14 rtmpAmf0PopString
  simp only [Access.bind_eq, Access.get_bind]
  by_cases h3 : n < 3
  · rw [if_pos (by omega)]
    exact ⟨c, m, rfl⟩
  · rw [if_neg (by omega), Access.read_bind, Access.run_read]
    by_cases hmarker : m 0 = 0x02
    · rw [if_neg (not_not_intro hmarker)]
      simp only [Access.read_bind, Access.run_read]
      have hname : nameLen (m.slice 0 n) = be16 (m (0 + 1)) (m (0 + 2)) := by
        unfold nameLen
        rw [getD_window m (by omega), getD_window m (by omega)]
      rw [hname] at h
      by_cases hlong : ((be16 (m (0 + 1)) (m (0 + 2)) : Nat) : Int) + 3 > n ∨
          ((be16 (m (0 + 1)) (m (0 + 2)) : Nat) : Int) > 256 - 1
      · rw [if_pos hlong]
        exact ⟨c, m, rfl⟩
      · obtain ⟨hstatus, hresult, hlt⟩ := (h.resolve_left h3).resolve_left (by omega)
        have hcommand : (((m.slice 0 n).drop 3).take (be16 (m (0 + 1)) (m (0 + 2)))) =
            m.slice (0 + 3) (be16 (m (0 + 1)) (m (0 + 2))) := by
          rw [drop_window, Mem.take_slice, Nat.min_eq_left (by omega)]
        have hpop : ((Access.getList (0 + 3) (be16 (m (0 + 1)) (m (0 + 2)))).bind fun dst ↦
            (.ret (some (dst, be16 (m (0 + 1)) (m (0 + 2)) + 3)) :
              Access Fault (Option (List UInt8 × Nat)))).run m =
            (.ok (some (m.slice (0 + 3) (be16 (m (0 + 1)) (m (0 + 2))),
              be16 (m (0 + 1)) (m (0 + 2)) + 3)), m) :=
          Access.run_bind_ok (Access.run_getList _ _ m) _
        rw [hcommand] at hresult
        simp only [Access.pure_eq_ret]
        rw [if_neg hlong, Access.run_bind_ok hpop]
        dsimp only
        rw [if_pos hresult, if_neg (by rw [hstatus]; decide), if_pos hstatus]
        obtain ⟨r, m', hrun, hr⟩ := ends_createStreamResult c
          (be16 (m (0 + 1)) (m (0 + 2)) + 3)
          ((n : Int) - ((be16 (m (0 + 1)) (m (0 + 2)) + 3 : Nat) : Int)) (by omega) m
        exact ⟨r.2, m', by rw [hrun, ← hr]⟩
    · rw [if_pos hmarker]
      exact ⟨c, m, rfl⟩

/-! ### All messages -/

/-- The handler of a message stays inside its body exactly when it finds what it reads. -/
theorem within_rtmpProcessMessage (c : RtmpClient) (chunk : RtmpChunk) (n : Nat) (m : Mem)
    (hn : n < 2147483648) :
    (rtmpProcessMessage c chunk n).Within m n ↔ BodyWithin c chunk.messageType (m.slice 0 n) := by
  have hcontrol {β : Type} (f : Nat → β) :
      (controlValue.bind fun value ↦ .ret (f value)).Within m n ↔
        4 ≤ (m.slice 0 n).length := by
    rw [within_controlValue_bind, Mem.length_slice]
  unfold BodyWithin rtmpProcessMessage
  split
  · next h =>
    rw [h]
    exact hcontrol _
  · next h =>
    rw [h]
    exact hcontrol _
  · next h =>
    rw [h]
    exact hcontrol _
  · next h =>
    rw [h]
    exact within_rtmpProcessAudio c chunk n m hn
  · next h =>
    rw [h]
    exact within_rtmpProcessVideo hn
  · next h =>
    rw [h]
    exact iff_of_true (stays_rtmpProcessCmd0x14 c n m) trivial
  · next h1 h5 h6 h8 h9 _ =>
    refine iff_of_true (Access.within_ret _ _ _) ?_
    split
    · next h => exact absurd h h1
    · next h => exact absurd h h5
    · next h => exact absurd h h6
    · next h => exact absurd h h8
    · next h => exact absurd h h9
    · trivial

private theorem staysInside_control {β : Type} (f : Nat → β) (n : Nat) (m : Mem) {refused : Prop} :
    ((controlValue.bind fun value ↦ .ret (f value)).Within m n ∧
      ((m.slice 0 n).length < 4 → refused)) ↔ 4 ≤ (m.slice 0 n).length := by
  rw [within_controlValue_bind, Mem.length_slice]
  constructor
  · exact fun h ↦ h.1
  · exact fun h ↦ ⟨h, fun hlt ↦ by omega⟩

/-- A body that suffices is not malformed, so an audio message is never refused for that. -/
private theorem staysInside_audio {c : RtmpClient} {chunk : RtmpChunk} {n : Nat} {m : Mem}
    (hn : n < 2147483648) {refused : Prop} :
    ((rtmpProcessAudio c chunk n).Within m n ∧ (MalformedAudio (m.slice 0 n) → refused)) ↔
      AudioSuffices (m.slice 0 n) := by
  rw [within_rtmpProcessAudio c chunk n m hn]
  refine and_iff_left_of_imp fun hs hmal ↦ ?_
  unfold AudioSuffices at hs
  unfold MalformedAudio at hmal
  obtain ⟨h1, hs⟩ := hs
  rcases hmal with h0 | ⟨haac, h2⟩
  · omega
  · rw [if_pos haac] at hs
    rcases h2 with h2 | ⟨hheader, h4⟩
    · omega
    · have h4' := hs.2 hheader
      omega

/-- A message of another type is ignored. -/
private theorem ignored_other (c : RtmpClient) {chunk : RtmpChunk} (n : Int) (body : List UInt8)
    (h9 : chunk.messageType ≠ 0x09)
    (hknown : chunk.messageType ∉ [0x01, 0x05, 0x06, 0x08, 0x14]) :
    rtmpProcessMessage c chunk n = .ret (0, c) ∧ ¬Malformed c chunk.messageType body ∧
      BodySuffices c chunk.messageType body := by
  simp only [List.mem_cons, List.not_mem_nil, or_false, not_or] at hknown
  obtain ⟨h1, h5, h6, h8, h14⟩ := hknown
  refine ⟨?_, ?_, ?_⟩
  · unfold rtmpProcessMessage
    split
    · next h => exact absurd h h1
    · next h => exact absurd h h5
    · next h => exact absurd h h6
    · next h => exact absurd h h8
    · next h => exact absurd h h9
    · next h => exact absurd h h14
    · rfl
  · unfold Malformed
    split
    · next h => exact absurd h h1
    · next h => exact absurd h h5
    · next h => exact absurd h h6
    · next h => exact absurd h h8
    · next h => exact absurd h h9
    · next h => exact absurd h h14
    · exact not_false
  · unfold BodySuffices
    split
    · next h => exact absurd h h1
    · next h => exact absurd h h5
    · next h => exact absurd h h6
    · next h => exact absurd h h8
    · next h => exact absurd h h9
    · trivial

/-- A handler touches no byte behind the message, and refuses the message if it is malformed,
exactly when the body is long enough for what the handler does with it. -/
theorem rtmpProcessMessage_inside (c : RtmpClient) (chunk : RtmpChunk) (n : Nat) (m : Mem)
    (hn : n < 2147483648) :
    StaysInside c chunk n m ↔ BodySuffices c chunk.messageType (m.slice 0 n) := by
  by_cases h9 : chunk.messageType = 0x09
  · rw [staysInside_video hn h9, h9]
    rfl
  · by_cases hknown : chunk.messageType ∈ [0x01, 0x05, 0x06, 0x08, 0x14]
    · unfold StaysInside BodySuffices Malformed rtmpProcessMessage
      simp only [List.mem_cons, List.not_mem_nil, or_false] at hknown
      rcases hknown with h | h | h | h | h
      · rw [h]
        exact staysInside_control _ n m
      · rw [h]
        exact staysInside_control _ n m
      · rw [h]
        exact staysInside_control _ n m
      · rw [h]
        exact staysInside_audio hn
      · rw [h]
        refine iff_of_true ⟨stays_rtmpProcessCmd0x14 c n m, fun hmal ↦ ?_⟩ trivial
        obtain ⟨c', m', hrun⟩ := run_rtmpProcessCmd0x14_short c n m hmal
        refine ⟨-1, c', m', ?_, Or.inl rfl⟩
        unfold rtmpProcessMessage
        rw [h]
        exact hrun
    · obtain ⟨hrun, hmal, hsuffices⟩ := ignored_other c n (m.slice 0 n) h9 hknown
      unfold StaysInside
      rw [hrun]
      exact iff_of_true ⟨Access.within_ret _ _ _, fun h ↦ absurd h hmal⟩ hsuffices

/-- A Set Chunk Size message of four bytes. -/
theorem rtmpProcessMessage_inside_four_bytes :
    StaysInside blankClient { RtmpChunk.zero with messageType := 1 } 4 (fun _ ↦ 0) ↔
      BodySuffices blankClient 1 [0, 0, 0, 0] :=
  rtmpProcessMessage_inside blankClient { RtmpChunk.zero with messageType := 1 } 4 (fun _ ↦ 0)
    (by decide)

/-- A Set Chunk Size message without a body: four bytes behind it are read. -/
theorem rtmpProcessMessage_reads_behind :
    let chunk := { RtmpChunk.zero with messageType := 1 }
    let m : Mem := fun _ ↦ 7
    (rtmpProcessMessage blankClient chunk 0).touched m = [0, 1, 2, 3] ∧
      ¬StaysInside blankClient chunk 0 m := by
  have htouched :
      (rtmpProcessMessage blankClient { RtmpChunk.zero with messageType := 1 } 0).touched
      (fun _ ↦ 7) = [0, 1, 2, 3] := rfl
  refine ⟨htouched, fun h ↦ ?_⟩
  have hmem : 0 ∈ (rtmpProcessMessage blankClient { RtmpChunk.zero with messageType := 1 }
      ((0 : Nat) : Int)).touched (fun _ ↦ 7) := List.mem_cons_self
  exact absurd (h.1 0 hmem) (by decide)

end RtmpRecv.Client
