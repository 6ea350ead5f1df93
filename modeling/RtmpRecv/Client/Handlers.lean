import RtmpRecv.Client.Similar

/-!
# Handlers side by side

Library `Client`. The handlers of messages on two clients that differ in fields which nothing has
set yet: they do the same as long as they read none of these fields.
-/

namespace RtmpRecv.Client
open RtmpRecv.Base RtmpRecv.Amf0 RtmpRecv.Tots

/-- The handlers end the same: with the same fault, or with the same result and memory and clients
that are the same apart from the fields in `S`. -/
inductive SimilarEnd (S : UnsetField → Prop) :
    Except Fault (Int × RtmpClient) × Mem → Except Fault (Int × RtmpClient) × Mem → Prop where
  | error (e : Fault) (m : Mem) : SimilarEnd S (.error e, m) (.error e, m)
  | ok (ret : Int) (m : Mem) {c c' : RtmpClient} (h : Similar S c c') :
      SimilarEnd S (.ok (ret, c), m) (.ok (ret, c'), m)

/-- The first part of a media handler decides the same. -/
inductive SimilarMedia (S : UnsetField → Prop) : MediaStep → MediaStep → Prop where
  | done (ret : Int) {c c' : RtmpClient} (h : Similar S c c') :
      SimilarMedia S (.done ret c) (.done ret c')
  | frame {pack pack' : PackData} (hpack : SimilarPack pack pack') {c c' : RtmpClient}
      (h : Similar S c c') : SimilarMedia S (.frame pack c) (.frame pack' c')

section

variable {S : UnsetField → Prop} {c c' : RtmpClient}

/-- A handler that sets no field leaves what was unset. -/
theorem Similar.handled (h : Similar S c c') {type : Nat} {m : Mem} {dataLen : Int}
    (hsets : ∀ f, ¬HandlerSets type m dataLen f) :
    Similar (fun f ↦ S f ∧ ¬HandlerSets type m dataLen f) c c' :=
  h.mono fun f hf ↦ ⟨hf, hsets f⟩

/-! ### The muxer -/

private theorem similar_getMillisecond64 (h : Similar S c c') :
    c'.getMillisecond64.1 = c.getMillisecond64.1 ∧
      Similar S c.getMillisecond64.2 c'.getMillisecond64.2 := by
  unfold RtmpClient.getMillisecond64
  rw [h.millisecond]
  exact ⟨rfl, { h with millisecond := rfl }⟩

/-- The muxer takes frames that are the same. -/
private theorem similar_handToTots (h : Similar S c c') {pack pack' : PackData}
    (hpack : SimilarPack pack pack') (m : Mem) :
    (∃ e, (handToTots pack c).run m = (.error e, m) ∧ (handToTots pack' c').run m = (.error e, m)) ∨
      ∃ d d', (handToTots pack c).run m = (.ok d, m) ∧ (handToTots pack' c').run m = (.ok d', m) ∧
        Similar S d d' ∧ d.audioHeadData = c.audioHeadData ∧
        d.audioHeadDataLen = c.audioHeadDataLen ∧ d'.audioHeadData = c'.audioHeadData ∧
        d'.audioHeadDataLen = c'.audioHeadDataLen := by
  obtain ⟨htime, hnext⟩ := similar_getMillisecond64 h
  obtain ⟨pesBuf, packData, htots⟩ := h.tots
  obtain ⟨pesBuf', packData', hresult⟩ := hpack.result c.getMillisecond64.1 m c.rtmpSavetots
    pesBuf packData
  rw [run_handToTots, run_handToTots, htime, htots, hresult]
  cases (Call.mk c.getMillisecond64.1 pack m).result c.rtmpSavetots with
  | error e => exact Or.inl ⟨e, rfl, rfl⟩
  | ok r =>
    exact Or.inr ⟨_, _, rfl, rfl, { hnext with tots := ⟨pesBuf', packData', rfl⟩ },
      rfl, rfl, rfl, rfl⟩

/-! ### Audio -/

/-- Head data stays the same when the length is patched in. -/
private theorem SameHead.adtsLength {head head' : Mem} {len len' n : Nat}
    (h : SameHead head head' len len') (i : Nat) (hi : i < max len 5) :
    Client.adtsLength head n i = Client.adtsLength head' n i := by
  have h3 := h.bytes 3 (by omega)
  have hi := h.bytes i hi
  unfold Client.adtsLength Mem.set
  rw [h3, hi]

/-- Behind the call of the muxer the head has its third byte again. -/
private theorem SameHead.restored {head head' : Mem} {len len' n : Nat}
    (h : SameHead head head' len len') :
    SameHead ((Client.adtsLength head n).set 3 (head 3))
      ((Client.adtsLength head' n).set 3 (head' 3)) len len' := by
  refine ⟨h.length, fun i hi ↦ ?_⟩
  have h3 := h.bytes 3 (by omega)
  have hpatched := h.adtsLength (n := n) i hi
  unfold Mem.set
  rw [h3, hpatched]

/-- A sequence header makes the heads the same. -/
private theorem sameHead_adtsHead (head head' : Mem) (b2 b3 : UInt8) :
    SameHead (head.memcpy 0 (adtsHead b2 b3)) (head'.memcpy 0 (adtsHead b2 b3)) 7 7 := by
  refine ⟨rfl, fun i hi ↦ ?_⟩
  have hlen : (adtsHead b2 b3).length = 7 := rfl
  have hcopy := Mem.memcpy_inside head 0 (adtsHead b2 b3) i (by omega)
  have hcopy' := Mem.memcpy_inside head' 0 (adtsHead b2 b3) i (by omega)
  rw [Nat.zero_add] at hcopy hcopy'
  rw [hcopy, hcopy']

/-- What the first part of the audio handler decides on both. -/
private inductive SimilarAudio (S : UnsetField → Prop) (c c' : RtmpClient) :
    MediaStep → MediaStep → Prop where
  | done {d d' : RtmpClient} (h : Similar S d d') : SimilarAudio S c c' (.done 0 d) (.done 0 d')
  | bare (pack : PackData) (hhead : pack.headData = none) (hlen : pack.headDataLen = 0)
      (h : Similar S c c') : SimilarAudio S c c' (.frame pack c) (.frame pack c')
  | head (pack : PackData) (hsame : SameHead c.audioHeadData c'.audioHeadData c.audioHeadDataLen
      c'.audioHeadDataLen) (h : Similar S c c') :
      SimilarAudio S c c'
        (.frame { pack with
          headData := some c.audioHeadData, headDataLen := c.audioHeadDataLen } c)
        (.frame { pack with
          headData := some c'.audioHeadData, headDataLen := c'.audioHeadDataLen } c')

private theorem similar_audioFrame (h : Similar S c c') (chunk : RtmpChunk) (dataLen : Int)
    (m : Mem)
    (hread : IsAac m false → ¬S .audioHeadData) :
    ∃ step step', (rtmpProcessAudioFrame c chunk dataLen).run m = (.ok step, m) ∧
      (rtmpProcessAudioFrame c' chunk dataLen).run m = (.ok step', m) ∧
      SimilarAudio (fun f ↦ S f ∧ ¬HandlerSets 0x08 m dataLen f) c c' step step' := by
  have hnone (hheader : ¬IsAac m true) : ∀ f, ¬HandlerSets 0x08 m dataLen f := by
    intro f hf
    cases f with
    | acknowledgementSize => cases hf
    | audioHeadData => exact hheader hf.2
    | videoHeadData => cases hf.1
    | _ => exact hf
  unfold rtmpProcessAudioFrame
  simp only [Access.bind_eq, Access.get_bind, Access.run_read]
  by_cases haac : m 0 >>> 4 = 10
  · simp only [if_pos haac, Access.run_read]
    by_cases hheader : m 1 = 0
    · have hskip (len : Nat) : ¬(len = 0 ∧ m 1 ≠ 0) := fun h ↦ h.2 hheader
      simp only [if_neg (hskip _), if_pos hheader, Access.run_read]
      have hsame := sameHead_adtsHead c.audioHeadData c'.audioHeadData (m 2) (m 3)
      exact ⟨_, _, rfl, rfl, .done (Similar.sets { h with audioHead := fun _ ↦ hsame }
        False.elim False.elim False.elim nofun (fun _ ↦ hsame) nofun)⟩
    · have hhead := h.audioHead (hread ⟨haac, by simp [hheader]⟩)
      have hset := h.handled (hnone fun h ↦ hheader (h.2.2 rfl))
      rw [hhead.length]
      by_cases hempty : c.audioHeadDataLen = 0
      · simp only [if_pos (And.intro hempty hheader)]
        exact ⟨_, _, rfl, rfl, .done hset⟩
      · simp only [if_neg fun h : c.audioHeadDataLen = 0 ∧ m 1 ≠ 0 ↦ hempty h.1, if_neg hheader]
        refine ⟨_, _, rfl, rfl, ?_⟩
        have hframe := SimilarAudio.head
          { type := .aac, decodeMs := chunk.timeStamp, pictureMs := chunk.timeStamp
            headData := none, headDataLen := 0
            data := 2, dataLen := toUInt32 ((toUInt32 (dataLen - 1) : Int) - 1)
            isKeyframe := false } hhead hset
        rw [hhead.length] at hframe
        exact hframe
  · simp only [if_neg haac]
    exact ⟨_, _, rfl, rfl, .bare _ rfl rfl (h.handled (hnone fun h ↦ haac h.1))⟩

/-- The part of the audio handler behind its first part, for a frame of the length `n`. -/
private def handAudio (n : Nat) (pack : PackData) (c : RtmpClient) :
    Access Fault (Int × RtmpClient) :=
  (handToTots { pack with headData := pack.headData.map fun _ ↦ adtsLength c.audioHeadData n }
    { c with audioHeadData := adtsLength c.audioHeadData n }).bind fun d ↦
      .ret (0, { d with audioHeadData := d.audioHeadData.set 3 (c.audioHeadData 3) })

private theorem similar_handAudio (h : Similar S c c') {n n' : Nat}
    (hn : ¬S .audioHeadData → n' = n) {pack pack' : PackData}
    (hpack : SimilarPack
      { pack with headData := pack.headData.map fun _ ↦ adtsLength c.audioHeadData n }
      { pack' with headData := pack'.headData.map fun _ ↦ adtsLength c'.audioHeadData n' })
    (m : Mem) : SimilarEnd S ((handAudio n pack c).run m) ((handAudio n' pack' c').run m) := by
  have hpatched : Similar S { c with audioHeadData := adtsLength c.audioHeadData n }
      { c' with audioHeadData := adtsLength c'.audioHeadData n' } := by
    refine { h with audioHead := fun hS ↦ ?_ }
    have hsame := h.audioHead hS
    rw [hn hS]
    exact ⟨hsame.length, hsame.adtsLength⟩
  unfold handAudio
  rcases similar_handToTots hpatched hpack m with ⟨e, hrun, hrun'⟩ |
    ⟨d, d', hrun, hrun', hd, hhead, hheadLen, hhead', hheadLen'⟩
  · rw [Access.run_bind_error hrun, Access.run_bind_error hrun']
    exact .error e m
  · rw [Access.run_bind_ok hrun, Access.run_bind_ok hrun', hhead, hhead']
    refine .ok 0 m { hd with audioHead := fun hS ↦ ?_ }
    dsimp only
    rw [hheadLen, hheadLen', hn hS]
    exact (h.audioHead hS).restored

private theorem similar_processAudio (h : Similar S c c') (chunk : RtmpChunk) (dataLen : Int)
    (m : Mem) (hread : IsAac m false → ¬S .audioHeadData) :
    SimilarEnd (fun f ↦ S f ∧ ¬HandlerSets 0x08 m dataLen f)
      ((rtmpProcessAudio c chunk dataLen).run m) ((rtmpProcessAudio c' chunk dataLen).run m) := by
  obtain ⟨step, step', hrun, hrun', hstep⟩ := similar_audioFrame h chunk dataLen m hread
  unfold rtmpProcessAudio
  dsimp only [Access.bind_eq]
  rw [Access.run_bind_ok hrun, Access.run_bind_ok hrun']
  cases hstep with
  | done h => exact .ok 0 m h
  | bare pack hhead hlen h =>
    refine similar_handAudio h (fun hS ↦ by rw [(h.audioHead hS).length]) ?_ m
    rw [hhead]
    exact .bare _ rfl hlen
  | head pack hsame h =>
    refine similar_handAudio h (fun _ ↦ by rw [hsame.length]) ?_ m
    rw [hsame.length]
    exact .head { pack with headDataLen := c.audioHeadDataLen } _ _ hsame.adtsLength

/-! ### Video -/

/-- The heads have the same length and the same bytes up to `k`, which is not below it. -/
private structure SameTo (k : Nat) (c c' : RtmpClient) : Prop where
  length : c'.videoHeadDataLen = c.videoHeadDataLen
  le : c.videoHeadDataLen ≤ k
  bytes : ∀ i, i < k → c.videoHeadData i = c'.videoHeadData i

/-- A store to their end makes more of the heads the same. -/
private theorem SameTo.appended {k : Nat} (h : SameTo k c c') (bytes : List UInt8) {n : Nat}
    (hn : c.videoHeadDataLen + bytes.length = n) :
    SameTo (max k n) (c.appended bytes) (c'.appended bytes) := by
  have hle := h.le
  constructor
  · exact congrArg (· + bytes.length) h.length
  · change c.videoHeadDataLen + bytes.length ≤ _
    omega
  · intro i hi
    change c.videoHeadData.memcpy _ bytes i = c'.videoHeadData.memcpy _ bytes i
    rw [h.length]
    by_cases hin : c.videoHeadDataLen ≤ i ∧ i < c.videoHeadDataLen + bytes.length
    · obtain ⟨j, rfl⟩ := Nat.exists_eq_add_of_le hin.1
      rw [Mem.memcpy_inside _ _ _ _ (by omega), Mem.memcpy_inside _ _ _ _ (by omega)]
    · rw [Mem.memcpy_outside _ _ _ _ (by omega), Mem.memcpy_outside _ _ _ _ (by omega)]
      exact h.bytes i (by omega)

/-- Behind a sequence header the heads are the same as far as it has stored something, and as far
as they were before; a header whose SPS is stored leaves at least two start codes. -/
private theorem same_headRead {k : Nat} (h : ∀ i, i < k → c.videoHeadData i = c'.videoHeadData i)
    (ptr : Nat) (dataLen : Int) (m : Mem) :
    ∃ n, SameTo (max k n) (c.headRead ptr dataLen m) (c'.headRead ptr dataLen m) ∧
      (8 ≤ dataLen → be16 (m (ptr + 6)) (m (ptr + 7)) ≤ 256 → 8 ≤ n) := by
  have hempty : SameTo k { c with videoHeadDataLen := 0 } { c' with videoHeadDataLen := 0 } :=
    ⟨rfl, Nat.zero_le k, h⟩
  have hstarted : SameTo (max k 4) c.headStarted c'.headStarted := hempty.appended _ rfl
  unfold RtmpClient.headRead
  dsimp only
  generalize be16 (m (ptr + 6)) (m (ptr + 7)) = sps
  generalize be16 (m (ptr + 8 + sps + 1)) (m (ptr + 8 + sps + 2)) = pps
  have hsps := hstarted.appended (m.slice (ptr + 8) sps) rfl
  have hlen : (m.slice (ptr + 8) sps).length = sps := Mem.length_slice _ _ _
  have hcode := hsps.appended [0, 0, 0, 1] rfl
  have hpps := hcode.appended (m.slice (ptr + 8 + sps + 3) pps) rfl
  by_cases hshort : dataLen < 8 ∨ 256 < sps
  · rw [if_pos hshort, if_pos hshort]
    exact ⟨4, hstarted, fun h8 h256 ↦ by omega⟩
  · rw [if_neg hshort, if_neg hshort]
    by_cases hlong : 256 < pps
    · rw [if_pos hlong, if_pos hlong]
      rw [Nat.max_assoc, Nat.max_assoc] at hcode
      refine ⟨_, hcode, fun _ _ ↦ ?_⟩
      change 8 ≤ max 4 (max _ (0 + 4 + (m.slice (ptr + 8) sps).length + 4))
      omega
    · rw [if_neg hlong, if_neg hlong]
      rw [Nat.max_assoc, Nat.max_assoc, Nat.max_assoc] at hpps
      refine ⟨_, hpps, fun _ _ ↦ ?_⟩
      change 8 ≤ max 4 (max _ (max (0 + 4 + (m.slice (ptr + 8) sps).length + 4) _))
      omega

/-- Only the head of `d` is not that of `c`. -/
private def HeadOnly (c d : RtmpClient) : Prop :=
  d = { c with videoHeadData := d.videoHeadData, videoHeadDataLen := d.videoHeadDataLen }

private theorem HeadOnly.appended {d : RtmpClient} (h : HeadOnly c d) (bytes : List UInt8) :
    HeadOnly c (d.appended bytes) := by
  unfold HeadOnly at h
  rw [h]
  exact rfl

/-- A sequence header stores to the head only. -/
private theorem headRead_eq (c : RtmpClient) (ptr : Nat) (dataLen : Int) (m : Mem) :
    HeadOnly c (c.headRead ptr dataLen m) := by
  have hempty : HeadOnly c { c with videoHeadDataLen := 0 } := rfl
  have hstarted : HeadOnly c c.headStarted := hempty.appended _
  unfold RtmpClient.headRead
  dsimp only
  split
  · exact hstarted
  · split
    · exact (hstarted.appended _).appended _
    · exact ((hstarted.appended _).appended _).appended _

private theorem similar_headRead (h : Similar S c c') (dataLen : Int) (m : Mem) :
    Similar (fun f ↦ S f ∧ ¬HandlerSets 0x09 m dataLen f) (c.headRead 5 (dataLen - 5) m)
      (c'.headRead 5 (dataLen - 5) m) := by
  have hkept : ¬(S .videoHeadData ∧ ¬HandlerSets 0x09 m dataLen .videoHeadData) →
      SameHead (c.headRead 5 (dataLen - 5) m).videoHeadData
        (c'.headRead 5 (dataLen - 5) m).videoHeadData
        (c.headRead 5 (dataLen - 5) m).videoHeadDataLen
        (c'.headRead 5 (dataLen - 5) m).videoHeadDataLen := by
    intro hT
    by_cases hS : S .videoHeadData
    · have hsets : HandlerSets 0x09 m dataLen .videoHeadData :=
        not_not.1 fun hno ↦ hT ⟨hS, hno⟩
      obtain ⟨-, -, -, -, h13, h256⟩ := hsets
      obtain ⟨n, hsame, hn⟩ := same_headRead (k := 0) nofun 5 (dataLen - 5) m
      have h8 := hn (by omega) h256
      exact ⟨hsame.length, fun i hi ↦ hsame.bytes i (by have := hsame.le; omega)⟩
    · obtain ⟨n, hsame, -⟩ :=
        same_headRead (k := 5) (fun i hi ↦ (h.videoHead hS).bytes i (by omega))
        5 (dataLen - 5) m
      exact ⟨hsame.length, fun i hi ↦ hsame.bytes i (by have := hsame.le; omega)⟩
  rw [headRead_eq c, headRead_eq c'] at hkept ⊢
  exact { h with
    audioTime := fun hT ↦ h.audioTime fun hS ↦ hT ⟨hS, nofun⟩
    videoTime := fun hT ↦ h.videoTime fun hS ↦ hT ⟨hS, nofun⟩
    messageType := fun hT ↦ h.messageType fun hS ↦ hT ⟨hS, nofun⟩
    windowSize := fun hT ↦ h.windowSize fun hS ↦ hT ⟨hS, nofun⟩
    audioHead := fun hT ↦ h.audioHead fun hS ↦ hT ⟨hS, fun hs ↦ nomatch hs.1⟩
    videoHead := hkept }

/-- The first parts of the media handlers end the same, and leave the same memory. -/
private def SimilarParts (S : UnsetField → Prop) (m : Mem) (part part' : Access Fault MediaStep) :
    Prop :=
  (∃ e m', part.run m = (.error e, m') ∧ part'.run m = (.error e, m')) ∨
    ∃ step step' m', part.run m = (.ok step, m') ∧ part'.run m = (.ok step', m') ∧
      SimilarMedia S step step'

/-- The loop over the units does not look at the client. -/
private theorem similar_units (h : Similar S c c') (fuel ptr : Nat) (dataLen : Int) (m : Mem)
    {pack pack' : PackData}
    (hpack : ((nalLoop fuel ptr dataLen).run m).1 = .ok true → SimilarPack pack pack') :
    SimilarParts S m
      ((nalLoop fuel ptr dataLen).bind fun taken ↦
        if taken then .ret (.frame pack c) else .ret (.done (-1) c))
      ((nalLoop fuel ptr dataLen).bind fun taken ↦
        if taken then .ret (.frame pack' c') else .ret (.done (-1) c')) := by
  unfold SimilarParts
  cases hloop : (nalLoop fuel ptr dataLen).run m with
  | mk r m' =>
    rw [hloop] at hpack
    cases r with
    | error e =>
      rw [Access.run_bind_error hloop, Access.run_bind_error hloop]
      exact Or.inl ⟨e, m', rfl, rfl⟩
    | ok taken =>
      rw [Access.run_bind_ok hloop, Access.run_bind_ok hloop]
      cases taken with
      | false => exact Or.inr ⟨_, _, _, rfl, rfl, .done (-1) h⟩
      | true => exact Or.inr ⟨_, _, _, rfl, rfl, .frame (hpack rfl) h⟩

private theorem similar_videoFrame (h : Similar S c c') (chunk : RtmpChunk) (dataLen : Int)
    (m : Mem)
    (hread : IsKeyFrame m dataLen → ¬S .videoHeadData) :
    SimilarParts (fun f ↦ S f ∧ ¬HandlerSets 0x09 m dataLen f) m
      (rtmpProcessVideoFrame c chunk dataLen) (rtmpProcessVideoFrame c' chunk dataLen) := by
  have hnone (hheader : ¬IsAvcHeader m dataLen) : ∀ f, ¬HandlerSets 0x09 m dataLen f := by
    intro f hf
    cases f with
    | acknowledgementSize => cases hf
    | audioHeadData => cases hf.1
    | videoHeadData => exact hheader hf.2
    | _ => exact hf
  unfold rtmpProcessVideoFrame SimilarParts
  simp only [Access.bind_eq, Access.get_bind, Access.run_read]
  by_cases hcodec : m 0 &&& 0x0f = 7
  · simp only [if_neg (not_not_intro hcodec), Access.run_read]
    by_cases hkey : m 0 >>> 4 = 1
    · simp only [if_pos hkey, Access.run_read]
      by_cases hheader : m 1 = 0
      · simp only [if_pos hheader]
        exact Or.inr ⟨_, _, _, run_avcSequenceHeader_eq c 5 _ m, run_avcSequenceHeader_eq c' 5 _ m,
          .done _ (similar_headRead h dataLen m)⟩
      · simp only [if_neg hheader]
        apply similar_units (h.handled (hnone fun hs ↦ hheader hs.2.2.1))
        intro hloop
        have hhead := h.videoHead (hread ⟨hcodec, hkey, hheader, hloop⟩)
        rw [hhead.length]
        exact .head ⟨_, _, _, none, _, _, _, _⟩ _ _ hhead.bytes
    · simp only [if_neg hkey]
      apply similar_units (h.handled (hnone fun hs ↦ hkey hs.2.1))
      exact fun _ ↦ .bare _ rfl rfl
  · simp only [if_pos hcodec]
    exact Or.inr ⟨_, _, _, rfl, rfl, .done (-1) (h.handled (hnone fun hs ↦ hcodec hs.1))⟩

private theorem similar_processVideo (h : Similar S c c') (chunk : RtmpChunk) (dataLen : Int)
    (m : Mem) (hread : IsKeyFrame m dataLen → ¬S .videoHeadData) :
    SimilarEnd (fun f ↦ S f ∧ ¬HandlerSets 0x09 m dataLen f)
      ((rtmpProcessVideo c chunk dataLen).run m) ((rtmpProcessVideo c' chunk dataLen).run m) := by
  unfold rtmpProcessVideo
  dsimp only [Access.bind_eq]
  rcases similar_videoFrame h chunk dataLen m hread with ⟨e, m', hrun, hrun'⟩ |
    ⟨step, step', m', hrun, hrun', hstep⟩
  · rw [Access.run_bind_error hrun, Access.run_bind_error hrun']
    exact .error e m'
  · rw [Access.run_bind_ok hrun, Access.run_bind_ok hrun']
    cases hstep with
    | done ret h => exact .ok ret m' h
    | frame hpack h =>
      dsimp only
      rcases similar_handToTots h hpack m' with ⟨e, hrun, hrun'⟩ | ⟨d, d', hrun, hrun', hd, -⟩
      · rw [Access.run_bind_error hrun, Access.run_bind_error hrun']
        exact .error e m'
      · rw [Access.run_bind_ok hrun, Access.run_bind_ok hrun']
        exact .ok 0 m' hd

/-! ### Commands -/

/-- The same packet goes out. -/
theorem similar_send (h : Similar S c c') {bytes bytes' : List UInt8}
    (hbytes : SamePacket bytes bytes') :
    (c'.send bytes').1 = (c.send bytes).1 ∧ Similar S (c.send bytes).2 (c'.send bytes').2 := by
  unfold RtmpClient.send
  rw [h.sendResult]
  exact ⟨rfl, { h with
    sendResult := rfl
    sent := List.rel_append h.sent (.cons hbytes .nil) }⟩

private theorem similar_setStatus (h : Similar S c c') (status : RtmpStatus) :
    Similar S { c with rtmpStatus := status } { c' with rtmpStatus := status } :=
  { h with status := rfl }

private theorem similar_connected (h : Similar S c c') (hread : ¬S .acknowledgementSize) :
    Similar S (connected c) (connected c') := by
  rw [(connectResult_cases c).2, (connectResult_cases c').2, h.windowSize hread]
  have hsent := (similar_send h (.same (headerBytes 0x02 0x05 4 ++
    ([0, 0, 0, 0] ++ be32Bytes c.acknowledgementSize) ++
      (headerBytes 0x43 0x14 25 ++ createStreamBody) ++
        (headerBytes 0x43 0x14 21 ++ checkbwBody)))).2
  exact similar_setStatus hsent .waitCreateStream

private theorem similar_getStreamLength (h : Similar S c c') :
    Similar S (rtmpSendToServerGetStreamLength c).2 (rtmpSendToServerGetStreamLength c').2 := by
  unfold rtmpSendToServerGetStreamLength
  rw [h.stream]
  exact (similar_send h (.same _)).2

private theorem similar_play (h : Similar S c c') (hid : c'.rtmpNowStreamId = c.rtmpNowStreamId) :
    Similar S (rtmpSendToServerPlay c).2 (rtmpSendToServerPlay c').2 := by
  unfold rtmpSendToServerPlay
  rw [h.stream, hid]
  exact (similar_send h (.same _)).2

private theorem similar_setBufferLength (h : Similar S c c') :
    Similar S (rtmpSendToServerSetBufferLength c).2 (rtmpSendToServerSetBufferLength c').2 := by
  unfold rtmpSendToServerSetBufferLength
  exact (similar_send h (.same _)).2

private theorem asking_eq (c : RtmpClient) (id : Nat) :
    asking c id = { (rtmpSendToServerSetBufferLength (rtmpSendToServerPlay
      (rtmpSendToServerGetStreamLength { c with rtmpNowStreamId := id }).2).2).2 with
        rtmpStatus := .waitPlay } := rfl

private theorem rtmpNowStreamId_getStreamLength (c : RtmpClient) :
    (rtmpSendToServerGetStreamLength c).2.rtmpNowStreamId = c.rtmpNowStreamId := rfl

private theorem similar_asking (h : Similar S c c') (id : Nat) :
    Similar S (asking c id) (asking c' id) := by
  have hid : Similar S { c with rtmpNowStreamId := id } { c' with rtmpNowStreamId := id } :=
    { h with status := h.status }
  have hplay := similar_play (similar_getStreamLength hid)
    (by rw [rtmpNowStreamId_getStreamLength, rtmpNowStreamId_getStreamLength])
  rw [asking_eq, asking_eq]
  exact similar_setStatus (similar_setBufferLength hplay) .waitPlay

private theorem similar_createStreamResult (h : Similar S c c') (src : Nat) (dataLen : Int)
    (m : Mem) :
    SimilarEnd S ((rtmpProcessCmd0x14CreateStreamResult c src dataLen).run m)
      ((rtmpProcessCmd0x14CreateStreamResult c' src dataLen).run m) := by
  rw [run_createStreamResult, run_createStreamResult]
  cases streamIdAt m src dataLen with
  | none => exact .ok (-1) m h
  | some id => exact .ok 0 m (similar_asking h id)

private theorem similar_processCmd (h : Similar S c c') (dataLen : Int) (m : Mem)
    (hread : c.rtmpStatus = .waitConnect → resultArgs m dataLen ≠ none → ¬S .acknowledgementSize) :
    SimilarEnd S ((rtmpProcessCmd0x14 c dataLen).run m)
      ((rtmpProcessCmd0x14 c' dataLen).run m) := by
  unfold rtmpProcessCmd0x14
  simp only [Access.bind_eq, Access.pure_eq_ret]
  rw [Access.run_bind_ok (run_rtmpAmf0PopString _ _ _ _),
    Access.run_bind_ok (run_rtmpAmf0PopString _ _ _ _), h.status]
  cases hname : poppedString 256 m 0 dataLen with
  | none => exact .ok (-1) m h
  | some p =>
    obtain ⟨commandName, ret⟩ := p
    have hargs := resultArgs_of_some hname
    dsimp only
    by_cases hresult : commandName.takeWhile (· ≠ 0) = ascii "_result"
    · rw [if_pos hresult] at hargs
      rw [if_pos hresult, if_pos hresult]
      by_cases hconnect : c.rtmpStatus = .waitConnect
      · rw [if_pos hconnect, if_pos hconnect]
        have hsize := hread hconnect (by rw [hargs]; exact Option.some_ne_none _)
        rw [connectResult_eq, connectResult_eq]
        exact .ok 0 m (similar_connected h hsize)
      · rw [if_neg hconnect, if_neg hconnect]
        by_cases hcreate : c.rtmpStatus = .waitCreateStream
        · rw [if_pos hcreate, if_pos hcreate]
          exact similar_createStreamResult h ret (dataLen - ret) m
        · rw [if_neg hcreate, if_neg hcreate]
          exact .ok 0 m h
    · rw [if_neg hresult, if_neg hresult]
      exact .ok 0 m h

/-! ### Every message -/

theorem SimilarEnd.mono {T : UnsetField → Prop}
    {r r' : Except Fault (Int × RtmpClient) × Mem} (h : SimilarEnd S r r') (hST : ∀ f, S f → T f) :
    SimilarEnd T r r' := by
  cases h with
  | error e m => exact .error e m
  | ok ret m h => exact .ok ret m (h.mono hST)

/-- The handler of a message does the same unless it reads an unset field. -/
theorem similar_processMessage (h : Similar S c c') (chunk : RtmpChunk) (dataLen : Int) (m : Mem)
    (hread : ∀ f, S f → ¬HandlerReads c chunk.messageType m dataLen f) :
    SimilarEnd (fun f ↦ S f ∧ ¬HandlerSets chunk.messageType m dataLen f)
      ((rtmpProcessMessage c chunk dataLen).run m)
      ((rtmpProcessMessage c' chunk dataLen).run m) := by
  have hend {r r' : Except Fault (Int × RtmpClient) × Mem} (hr : SimilarEnd S r r')
      (h5 : chunk.messageType ≠ 0x05) (h8 : chunk.messageType ≠ 0x08)
      (h9 : chunk.messageType ≠ 0x09) :
      SimilarEnd (fun f ↦ S f ∧ ¬HandlerSets chunk.messageType m dataLen f) r r' := by
    refine hr.mono fun f hf ↦ ⟨hf, ?_⟩
    cases f with
    | acknowledgementSize => exact h5
    | audioHeadData => exact fun hs ↦ h8 hs.1
    | videoHeadData => exact fun hs ↦ h9 hs.1
    | _ => exact id
  unfold rtmpProcessMessage
  split
  · next h1 =>
    have hset : Similar S { c with rtmpChunkMaxSize := be32 (m 0) (m 1) (m 2) (m 3) }
        { c' with rtmpChunkMaxSize := be32 (m 0) (m 1) (m 2) (m 3) } :=
      { h with chunkSize := rfl }
    exact hend (.ok 0 m hset) (by omega) (by omega) (by omega)
  · next h5 =>
    rw [h5]
    exact .ok 0 m (Similar.sets { h with windowSize := fun _ ↦ rfl }
      False.elim False.elim False.elim (fun _ ↦ rfl) (fun hs ↦ nomatch hs.1)
      (fun hs ↦ nomatch hs.1))
  · next h6 =>
    have hset : Similar S { c with bandwidth := be32 (m 0) (m 1) (m 2) (m 3) }
        { c' with bandwidth := be32 (m 0) (m 1) (m 2) (m 3) } :=
      { h with status := h.status }
    exact hend (.ok 0 m hset) (by omega) (by omega) (by omega)
  · next h8 =>
    rw [h8] at hread ⊢
    exact similar_processAudio h chunk dataLen m fun haac hS ↦ hread _ hS ⟨rfl, haac⟩
  · next h9 =>
    rw [h9] at hread ⊢
    exact similar_processVideo h chunk dataLen m fun hkey hS ↦ hread _ hS ⟨rfl, hkey⟩
  · next h14 =>
    exact hend (similar_processCmd h dataLen m fun hstatus hargs hS ↦
      hread _ hS ⟨h14, hstatus, hargs⟩) (by omega) (by omega) (by omega)
  · next h1 h5 h6 h8 h9 h14 => exact hend (.ok 0 m h) h5 h8 h9

end

end RtmpRecv.Client
