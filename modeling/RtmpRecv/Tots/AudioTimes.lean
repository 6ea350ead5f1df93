import Mathlib.Data.List.Chain
import RtmpRecv.Tots.Clock

/-!
# Times of the audio frames

Library `Tots`. An audio frame is sent with its own time while the last video time is less than
100 ms away, and with the last video time otherwise. The times that are sent are computed from the
frames alone, and so is the condition under which they never go back.
-/

namespace RtmpRecv.Tots
open RtmpRecv.Base RtmpRecv.Wire

/-- The audio frames that pass the size check, each as its own time and the last video time before
it. -/
def audioTimes (lastVideo : Nat) : List Call → List (Nat × Nat)
  | [] => []
  | call :: calls =>
    if call.pack.type = .h264 then audioTimes call.pack.pictureMs calls
    else if call.pack.type = .aac ∧ call.Fits then
      (call.pack.pictureMs, lastVideo) :: audioTimes lastVideo calls
    else audioTimes lastVideo calls

/-- The time of a frame is within 100 ms of the last video time, if there is one. -/
def Near (times : Nat × Nat) : Prop :=
  times.2 = 0 ∨ (times.1 < times.2 + 100 ∧ times.2 < times.1 + 100)

instance (times : Nat × Nat) : Decidable (Near times) :=
  inferInstanceAs (Decidable (times.2 = 0 ∨ (times.1 < times.2 + 100 ∧ times.2 < times.1 + 100)))

/-- From one frame to the next the sent time does not go back where the choice changes: from the
own time to a video time, or from a video time to the own time. -/
def Forward (p q : Nat × Nat) : Prop :=
  (Near p → ¬Near q → p.1 ≤ q.2) ∧ (¬Near p → Near q → p.2 ≤ q.1)

instance : DecidableRel Forward := fun p q ↦
  inferInstanceAs (Decidable ((Near p → ¬Near q → p.1 ≤ q.2) ∧ (¬Near p → Near q → p.2 ≤ q.1)))

/-- The audio times and the video times never go back, and have the bits of the format. -/
structure TimesOrdered (calls : List Call) : Prop where
  audio : ((calls.filter fun call ↦ call.pack.type = .aac).map
    fun call ↦ call.pack.pictureMs).Pairwise (· ≤ ·)
  video : ((calls.filter fun call ↦ call.pack.type = .h264).map
    fun call ↦ call.pack.pictureMs).Pairwise (· ≤ ·)
  inRange : ∀ call ∈ calls, call.pack.pictureMs * 90 < 8589934592

/-! ### The times of a run -/

/-- The audio PES packets of a run carry the chosen times. -/
theorem Streams.audioTimes {first : Bool} {t : RtmpTots} {calls : List Call}
    {ps : List (List UInt8)} (h : Streams first t calls ps)
    (hrange : ∀ call ∈ calls, call.pack.pictureMs * 90 < 8589934592)
    (hlast : t.lastVideoPictureMs * 90 < 8589934592) :
    (builtFor audioPid t calls).map pesPts =
      (audioTimes t.lastVideoPictureMs calls).map fun p ↦ audioPictureMs p.1 p.2 * 90 := by
  induction h with
  | nil => rfl
  | @dropped first t t' call calls ret ps hfits hresult hkept hrest ih =>
    have hcall := hrange call List.mem_cons_self
    have hnot : ¬(call.Fits ∧ pidOf call.pack.type = some audioPid) := fun h ↦ hfits h.1
    have htimes : Tots.audioTimes t.lastVideoPictureMs (call :: calls) =
        Tots.audioTimes t'.lastVideoPictureMs calls := by
      rw [hkept, Tots.audioTimes, Call.noted]
      by_cases hvideo : call.pack.type = .h264
      · simp [hvideo]
      · simp [hvideo, hfits]
    have hlast' : t'.lastVideoPictureMs * 90 < 8589934592 := by
      rw [hkept]
      unfold Call.noted
      dsimp only
      split
      · exact hcall
      · exact hlast
    rw [builtFor, hresult]
    dsimp only
    rw [if_neg hnot, htimes]
    exact ih (fun call hmem ↦ hrange call (List.mem_cons_of_mem _ hmem)) hlast'
  | @sent first t t' call calls pid tables frame ps hfits hpid hresult htables hfront hframe hne
      hcut hkept hrest ih =>
    have hcall := hrange call List.mem_cons_self
    have ih := ih fun call hmem ↦ hrange call (List.mem_cons_of_mem _ hmem)
    have hnoted : t'.lastVideoPictureMs = (call.noted t).lastVideoPictureMs :=
      hkept.lastVideoPictureMs.trans (call.lastVideo_built t)
    rw [builtFor, hresult]
    dsimp only
    rcases pidOf_cases hpid with ⟨htype, rfl⟩ | ⟨htype, rfl⟩
    · have hother : ¬(call.Fits ∧ pidOf call.pack.type = some audioPid) := by
        rw [htype]
        exact fun h ↦ absurd h.2 (by decide)
      have hnew : t'.lastVideoPictureMs = call.pack.pictureMs := by
        simp [hnoted, Call.noted, htype]
      have htimes : Tots.audioTimes t.lastVideoPictureMs (call :: calls) =
          Tots.audioTimes t'.lastVideoPictureMs calls := by
        simp [Tots.audioTimes, htype, hnew]
      rw [if_neg hother, htimes]
      exact ih (hnew ▸ hcall)
    · have hsame : t'.lastVideoPictureMs = t.lastVideoPictureMs := by
        simp [hnoted, Call.noted, htype]
      have htimes : Tots.audioTimes t.lastVideoPictureMs (call :: calls) =
          (call.pack.pictureMs, t.lastVideoPictureMs) ::
            Tots.audioTimes t'.lastVideoPictureMs calls := by
        simp [Tots.audioTimes, htype, hfits, hsame]
      have hchosen : audioPictureMs call.pack.pictureMs t.lastVideoPictureMs * 90 < 8589934592 := by
        unfold audioPictureMs
        split
        · exact hcall
        · exact hlast
      have hpts : call.pts t = audioPictureMs call.pack.pictureMs t.lastVideoPictureMs * 90 := by
        rw [Call.pts, htype]
        dsimp only
        exact Nat.mod_eq_of_lt (by omega)
      have hbuilt : call.built t = audioPes (call.pts t) call.pack (call.noted t) call.mem := by
        rw [Call.built, htype]
      have hunit := pesPts_audioPes (hpts ▸ hchosen) call.pack (call.noted t) call.mem
      rw [← hbuilt, ← hkept.pesBuf, ← hkept.pesLen, hpts] at hunit
      rw [if_pos ⟨hfits, hpid⟩, htimes, List.map_cons, List.map_cons, hunit]
      exact congrArg _ (ih (hsame ▸ hlast))

/-! ### Order -/

/-- Where the times come from. -/
private theorem mem_audioTimes {lastVideo : Nat} {calls : List Call} {p : Nat × Nat}
    (h : p ∈ audioTimes lastVideo calls) :
    p.1 ∈ (calls.filter fun call ↦ call.pack.type = .aac).map (fun call ↦ call.pack.pictureMs) ∧
      (p.2 = lastVideo ∨ p.2 ∈ (calls.filter fun call ↦ call.pack.type = .h264).map
        fun call ↦ call.pack.pictureMs) := by
  induction calls generalizing lastVideo with
  | nil => cases h
  | cons call calls ih =>
    unfold audioTimes at h
    split at h
    · next hvideo =>
      have ih := ih h
      constructor
      · simpa [hvideo] using ih.1
      · right
        simpa [hvideo] using ih.2
    · next hvideo =>
      split at h
      · next haudio =>
        rcases List.mem_cons.1 h with rfl | h
        · simp [haudio.1]
        · have ih := ih h
          constructor
          · simp only [haudio.1, List.filter_cons, decide_true, if_true, List.map_cons]
            exact List.mem_cons_of_mem _ ih.1
          · simpa [hvideo] using ih.2
      · have ih := ih h
        constructor
        · by_cases haudio : call.pack.type = .aac
          · simp only [haudio, List.filter_cons, decide_true, if_true, List.map_cons]
            exact List.mem_cons_of_mem _ ih.1
          · simpa [haudio] using ih.1
        · simpa [hvideo] using ih.2

/-- Both times of the frames are ordered. -/
private theorem pairwise_audioTimes {lastVideo : Nat} {calls : List Call}
    (haudio : ((calls.filter fun call ↦ call.pack.type = .aac).map
      fun call ↦ call.pack.pictureMs).Pairwise (· ≤ ·))
    (hvideo : (lastVideo :: (calls.filter fun call ↦ call.pack.type = .h264).map
      fun call ↦ call.pack.pictureMs).Pairwise (· ≤ ·)) :
    (audioTimes lastVideo calls).Pairwise fun p q ↦ p.1 ≤ q.1 ∧ p.2 ≤ q.2 := by
  induction calls generalizing lastVideo with
  | nil => exact List.Pairwise.nil
  | cons call calls ih =>
    unfold audioTimes
    split
    · next htype =>
      apply ih
      · simpa [htype] using haudio
      · rw [List.filter_cons_of_pos (by simp [htype]), List.map_cons] at hvideo
        exact hvideo.of_cons
    · next hnot =>
      have hvideo' : (lastVideo :: (calls.filter fun call ↦ call.pack.type = .h264).map
          fun call ↦ call.pack.pictureMs).Pairwise (· ≤ ·) := by
        simpa [hnot] using hvideo
      split
      · next htype =>
        rw [List.filter_cons_of_pos (by simp [htype.1]), List.map_cons] at haudio
        have hrest := ih haudio.of_cons hvideo'
        apply List.pairwise_cons.2
        constructor
        · intro p hp
          have hmem := mem_audioTimes hp
          constructor
          · exact List.rel_of_pairwise_cons haudio hmem.1
          · rcases hmem.2 with hlast | hmem
            · exact Nat.le_of_eq hlast.symm
            · exact List.rel_of_pairwise_cons hvideo' hmem
        · exact hrest
      · apply ih
        · by_cases htype : call.pack.type = .aac
          · rw [List.filter_cons_of_pos (by simp [htype]), List.map_cons] at haudio
            exact haudio.of_cons
          · simpa [htype] using haudio
        · exact hvideo'

/-- The choice of the code, for times without wrap. -/
theorem audioPictureMs_eq {own lastVideo : Nat} (hown : own * 90 < 8589934592)
    (hstart : lastVideo ≠ 0 → 100 ≤ own) :
    audioPictureMs own lastVideo = if Near (own, lastVideo) then own else lastVideo := by
  unfold audioPictureMs Near sub64
  by_cases hlast : lastVideo = 0
  · simp [hlast]
  · have hfirst := hstart hlast
    have hsub : (own + 18446744073709551616 - 100) % 18446744073709551616 = own - 100 := by omega
    have hadd : (own + 100) % 18446744073709551616 = own + 100 := Nat.mod_eq_of_lt (by omega)
    have hnear : own - 100 < lastVideo ↔ own < lastVideo + 100 := by omega
    simp only [hsub, hadd, hnear, hlast, false_or]

/-- Two ordered frames are sent in order exactly when the choice does not set the time back. -/
private theorem le_iff_forward {p q : Nat × Nat} (h : p.1 ≤ q.1 ∧ p.2 ≤ q.2) :
    (if Near p then p.1 else p.2) ≤ (if Near q then q.1 else q.2) ↔ Forward p q := by
  unfold Forward
  by_cases hp : Near p
  · by_cases hq : Near q
    · simp [hp, hq, h.1]
    · simp [hp, hq]
  · by_cases hq : Near q
    · simp [hp, hq]
    · simp [hp, hq, h.2]

/-- Two relations that agree on ordered elements have the same chains. -/
private theorem isChain_iff_of_pairwise {α : Type} {R S T : α → α → Prop} {l : List α}
    (hl : l.Pairwise T) (h : ∀ p ∈ l, ∀ q ∈ l, T p q → (R p q ↔ S p q)) :
    l.IsChain R ↔ l.IsChain S := by
  rw [List.isChain_iff_getElem, List.isChain_iff_getElem]
  apply forall_congr'
  intro i
  apply forall_congr'
  intro hi
  apply h _ (List.getElem_mem _) _ (List.getElem_mem _)
  exact List.pairwise_iff_getElem.1 hl i (i + 1) _ _ (Nat.lt_succ_self i)

/-- Each audio frame is sent with its own time if that is near the last video time, and with the
last video time otherwise. The audio times that are sent never go back exactly when no change
between the two sets them back. Only the first 100 ms after the start of the clock are left out. -/
theorem rtmpTotsPacketFromCache_audioTimes (pesBuf : Mem) (start : Nat) (calls : List Call)
    (h : TimesOrdered calls) (hstart : ∀ p ∈ audioTimes 0 calls, p.2 ≠ 0 → 100 ≤ p.1) :
    RunsTo (rtmpTots pesBuf true start) calls fun t ↦
      let times := (unitsOf audioPid (packets t.output.emitted)).map pesPts
      times = ((audioTimes 0 calls).map fun p ↦ (if Near p then p.1 else p.2) * 90) ∧
        (times.IsChain (· ≤ ·) ↔ (audioTimes 0 calls).IsChain Forward) := by
  have hfresh := muxed_rtmpTots pesBuf true start
  apply hfresh.runsTo
  intro t hrun times
  obtain ⟨ps, hstreams, hmuxed, -⟩ := hfresh.streams rfl true (fun _ ↦ rfl) hrun
  have hunits := hstreams.unitsOf (Or.inr rfl) []
  have htimes := hstreams.audioTimes h.inRange (by simp [rtmpTots])
  rw [List.nil_append] at hmuxed
  change _ = [] ++ builtFor _ _ _ at hunits
  rw [List.nil_append, List.nil_append] at hunits
  have hlast : (rtmpTots pesBuf true start).lastVideoPictureMs = 0 := rfl
  have hchosen : ∀ p ∈ audioTimes 0 calls,
      audioPictureMs p.1 p.2 = if Near p then p.1 else p.2 := by
    intro p hp
    apply audioPictureMs_eq
    · obtain ⟨call, hmem, heq⟩ := List.mem_map.1 (mem_audioTimes hp).1
      rw [← heq]
      exact h.inRange call (List.mem_of_mem_filter hmem)
    · exact hstart p hp
  have hsent : times = ((audioTimes 0 calls).map fun p ↦ (if Near p then p.1 else p.2) * 90) := by
    change (unitsOf audioPid (packets t.output.emitted)).map pesPts = _
    rw [hmuxed.packets, hunits, htimes, hlast]
    apply List.map_congr_left
    intro p hp
    rw [hchosen p hp]
  constructor
  · exact hsent
  · have hpair := pairwise_audioTimes h.audio
      (List.pairwise_cons.2 ⟨fun _ _ ↦ Nat.zero_le _, h.video⟩)
    rw [hsent, List.isChain_map]
    apply isChain_iff_of_pairwise hpair
    intro p _ q _ hordered
    rw [← le_iff_forward hordered]
    omega

/-- A call with an audio frame of four bytes. -/
def audioCall (pictureMs : Nat) : Call where
  now := 40
  pack :=
    { type := .aac, decodeMs := pictureMs, pictureMs := pictureMs, headData := none
      headDataLen := 0, data := 0, dataLen := 4, isKeyframe := false }
  mem := Mem.ofList [1, 2, 3, 4]

/-- An audio frame near the last video time, and one that is sent with the video time. -/
theorem rtmpTotsPacketFromCache_audioTimes_four :
    RunsTo (rtmpTots (fun _ ↦ 0) true 5)
      [videoCall 500 500, audioCall 520, videoCall 560 560, audioCall 700] fun t ↦
      let times := (unitsOf audioPid (packets t.output.emitted)).map pesPts
      times = [520 * 90, 560 * 90] ∧ times.IsChain (· ≤ ·) := by
  have htimes := rtmpTotsPacketFromCache_audioTimes (fun _ ↦ 0) 5
    [videoCall 500 500, audioCall 520, videoCall 560 560, audioCall 700]
    ⟨by decide, by decide, by decide⟩ (by decide)
  apply htimes.imp
  intro t h
  constructor
  · exact h.1.trans (by decide)
  · exact h.2.2 (by decide)

/-- A video frame far behind the audio sets the time of the next audio frame back. -/
theorem rtmpTotsPacketFromCache_sets_back :
    TimesOrdered [audioCall 1000, videoCall 500 500, audioCall 1000] ∧
      ∃ ps, runPackets (rtmpTots (fun _ ↦ 0) true 5)
          [audioCall 1000, videoCall 500 500, audioCall 1000] = some ps ∧
        (unitsOf audioPid ps).map pesPts = [90000, 45000] ∧
        ¬((unitsOf audioPid ps).map pesPts).IsChain (· ≤ ·) := by
  have hrun : (runPackets (rtmpTots (fun _ ↦ 0) true 5)
      [audioCall 1000, videoCall 500 500, audioCall 1000]).map
        (fun ps ↦ (unitsOf audioPid ps).map pesPts) = some [90000, 45000] := by
    decide +kernel
  obtain ⟨ps, hps, htimes⟩ := Option.map_eq_some_iff.1 hrun
  refine ⟨⟨by decide, by decide, by decide⟩, ps, hps, htimes, ?_⟩
  rw [htimes]
  decide

/-! ### The rule -/

/-- The time that an audio frame should be sent with: its own one unless the last video frame is
100 ms or more away. -/
def alignedMs (own lastVideo : Nat) : Nat :=
  if lastVideo = 0 ∨ ((own : Int) - lastVideo).natAbs < 100 then own else lastVideo

/-- In the first 100 ms the subtraction of the code wraps, and the test for a close video time
fails. -/
theorem audioPictureMs_aligned {own : Nat} (lastVideo : Nat) (hown : own < 4294967296) :
    audioPictureMs own lastVideo = alignedMs own lastVideo ↔
      lastVideo = 0 ∨ 100 ≤ own ∨ own + 100 ≤ lastVideo ∨ own = lastVideo := by
  have hadd : (own + 100) % 18446744073709551616 = own + 100 := Nat.mod_eq_of_lt (by omega)
  unfold audioPictureMs alignedMs sub64
  rw [hadd]
  by_cases hlast : lastVideo = 0
  · simp [hlast]
  · by_cases hfirst : 100 ≤ own
    · have hsub : (own + 18446744073709551616 - 100) % 18446744073709551616 = own - 100 := by omega
      have hnear : own - 100 < lastVideo ∧ lastVideo < own + 100 ↔
          ((own : Int) - lastVideo).natAbs < 100 := by omega
      rw [hsub]
      simp [hlast, hfirst, hnear]
    · have hsub : (own + 18446744073709551616 - 100) % 18446744073709551616 =
          own + 18446744073709551516 := by omega
      have hfar : ¬(own + 18446744073709551516 < lastVideo ∧ lastVideo < own + 100) := by omega
      rw [hsub, if_neg (by simp [hlast, hfar])]
      by_cases hnear : ((own : Int) - lastVideo).natAbs < 100
      · rw [if_pos (Or.inr hnear)]
        omega
      · rw [if_neg (by simp [hlast, hnear])]
        omega

/-- The last video time of a muxer has the 32 bits of the times it is given. -/
private theorem lastVideo_runCalls {t t' : RtmpTots} {ps : List (List UInt8)} (h : Muxed t ps)
    (hlast : t.lastVideoPictureMs < 4294967296) {calls : List Call}
    (hcalls : ∀ call ∈ calls, call.pack.pictureMs < 4294967296)
    (hrun : runCalls t calls = .ok t') : t'.lastVideoPictureMs < 4294967296 := by
  induction calls generalizing t ps with
  | nil =>
    cases hrun
    exact hlast
  | cons call calls ih =>
    have hstep := h.stepped call
    have hcall := hcalls call List.mem_cons_self
    have hnoted : (call.noted t).lastVideoPictureMs < 4294967296 := by
      unfold Call.noted
      dsimp only
      split
      · exact hcall
      · exact hlast
    unfold runCalls at hrun
    cases hresult : call.result t with
    | error e =>
      rw [hresult] at hrun
      cases hrun
    | ok r =>
      obtain ⟨ret, t₁⟩ := r
      obtain ⟨qs, hmuxed⟩ := h.call hresult
      rw [hresult] at hrun hstep
      apply ih hmuxed _ (fun call hmem ↦ hcalls call (List.mem_cons_of_mem _ hmem)) hrun
      cases hstep with
      | silent _ _ hkept =>
        rw [hkept]
        exact hnoted
      | @emitted pid _ _ _ =>
        rw [(sameFrame_afterStage call.now (call.pts t) pid call.pack
          (call.built t)).lastVideoPictureMs, call.lastVideo_built t]
        exact hnoted

/-- Behind any calls, an audio frame is sent with the time that the rule names exactly when there is
no video time, or the frame is not one of the first 100 ms, or the video time is 100 ms ahead or
the same. -/
theorem rtmpTotsPacketFromCache_alignment (pesBuf : Mem) (tsFp : Bool) (start : Nat)
    {calls : List Call} (hcalls : ∀ call ∈ calls, call.pack.pictureMs < 4294967296)
    {t : RtmpTots} (hrun : runCalls (rtmpTots pesBuf tsFp start) calls = .ok t) (call : Call)
    (haac : call.pack.type = .aac) (hown : call.pack.pictureMs < 4294967296) :
    (rtmpTotsPacketFromCache call.now call.pack t).run call.mem =
        (rtmpTotsPacketPesAudioHeader call.now (call.pts t) call.pack (call.noted t)).run call.mem ∧
      (call.pts t = alignedMs call.pack.pictureMs t.lastVideoPictureMs * 90 ↔
        t.lastVideoPictureMs = 0 ∨ 100 ≤ call.pack.pictureMs ∨
          call.pack.pictureMs + 100 ≤ t.lastVideoPictureMs ∨
          call.pack.pictureMs = t.lastVideoPictureMs) := by
  have hlast :=
    lastVideo_runCalls (muxed_rtmpTots pesBuf tsFp start) (by simp [rtmpTots]) hcalls hrun
  have hsent : audioPictureMs call.pack.pictureMs t.lastVideoPictureMs < 4294967296 := by
    unfold audioPictureMs
    split
    · exact hown
    · exact hlast
  have hpts : call.pts t = audioPictureMs call.pack.pictureMs t.lastVideoPictureMs * 90 := by
    rw [Call.pts, haac]
    dsimp only
    exact Nat.mod_eq_of_lt (by omega)
  constructor
  · rw [call.run_fromCache, haac]
  · rw [← audioPictureMs_aligned t.lastVideoPictureMs hown, hpts]
    omega

/-- An audio frame at 700 ms behind a video frame at 500 ms. -/
theorem rtmpTotsPacketFromCache_alignment_far :
    ∃ t, runCalls (rtmpTots (fun _ ↦ 0) true 5) [videoCall 500 500] = .ok t ∧
      (rtmpTotsPacketFromCache 40 (audioCall 700).pack t).run (audioCall 700).mem =
        (rtmpTotsPacketPesAudioHeader 40 ((audioCall 700).pts t) (audioCall 700).pack
          ((audioCall 700).noted t)).run (audioCall 700).mem ∧
      ((audioCall 700).pts t = alignedMs 700 t.lastVideoPictureMs * 90 ↔
        t.lastVideoPictureMs = 0 ∨ 100 ≤ 700 ∨ 700 + 100 ≤ t.lastVideoPictureMs ∨
          700 = t.lastVideoPictureMs) := by
  have hsome : ((runCalls (rtmpTots (fun _ ↦ 0) true 5) [videoCall 500 500]).map fun _ ↦ ()) =
      .ok () := by
    decide +kernel
  cases hrun : runCalls (rtmpTots (fun _ ↦ 0) true 5) [videoCall 500 500] with
  | error e =>
    rw [hrun] at hsome
    cases hsome
  | ok t =>
    exact ⟨t, rfl, rtmpTotsPacketFromCache_alignment (fun _ ↦ 0) true 5 (by decide) hrun
      (audioCall 700) rfl (by decide)⟩

/-- A muxer behind one video frame at 60 ms sends an audio frame at 50 ms with the time of the
video. -/
theorem rtmpTotsPacketFromCache_misaligns :
    ∃ t, runCalls (rtmpTots (fun _ ↦ 0) true 5) [videoCall 60 60] = .ok t ∧
      t.lastVideoPictureMs = 60 ∧ (audioCall 50).pts t = 60 * 90 ∧ alignedMs 50 60 = 50 := by
  have hsome : ((runCalls (rtmpTots (fun _ ↦ 0) true 5) [videoCall 60 60]).map fun t ↦
      (t.lastVideoPictureMs, (audioCall 50).pts t)) = .ok (60, 5400) := by
    decide +kernel
  cases hrun : runCalls (rtmpTots (fun _ ↦ 0) true 5) [videoCall 60 60] with
  | error e =>
    rw [hrun] at hsome
    cases hsome
  | ok t =>
    rw [hrun] at hsome
    injection hsome with hsome
    injection hsome with hlast hpts
    exact ⟨t, rfl, hlast, hpts, by decide⟩

end RtmpRecv.Tots
