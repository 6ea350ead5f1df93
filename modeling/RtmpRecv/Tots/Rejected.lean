import RtmpRecv.Tots.Runs
import RtmpRecv.Tots.Similar

/-!
# Rejected frames

Library `Tots`. What a call that returns -1 leaves behind: a video frame has left its time in
`last_video_picture_ms` before its length is checked, and nothing else outlives the call.
-/

namespace RtmpRecv.Tots
open RtmpRecv.Base

/-- All that outlives a call is the same. -/
structure Unchanged (t t' : RtmpTots) : Prop extends SameStage t t' where
  lastVideoPictureMs : t'.lastVideoPictureMs = t.lastVideoPictureMs

/-- The muxer with other scratch fields. -/
def RtmpTots.withScratch (t : RtmpTots) (pesBuf : Mem) (pesLen : Nat) (packData : Option PackData)
    (unitType : EsUnitStartType) : RtmpTots :=
  { t with pesBuf := pesBuf, pesLen := pesLen, packData := packData, unitType := unitType }

/-- A frame without head data has no length for it. -/
def Call.NoHeadNoLength (call : Call) : Prop :=
  call.pack.headData = none → call.pack.headDataLen = 0

/-! ### The rejected call -/

/-- The transport stage refuses a frame before it does anything. -/
theorem rtmpTotsPacketTsHeader_refused {now pts : Nat} {t t' : RtmpTots}
    (h : rtmpTotsPacketTsHeader now pts t = .ok (-1, t')) : t' = t := by
  unfold rtmpTotsPacketTsHeader at h
  split at h
  · cases h
    rfl
  · split at h
    · cases h
      rfl
    · dsimp only at h
      split at h
      · cases h
      · split at h
        · split at h
          · cases h
          · cases h
        · split at h
          · cases h
          · cases h

/-- The fields that a call uses for its own frame. -/
private theorem scratch_built (call : Call) (t : RtmpTots) :
    ∃ pesBuf pesLen packData unitType,
      call.built t = { t with lastVideoPictureMs := (call.noted t).lastVideoPictureMs }.withScratch
        pesBuf pesLen packData unitType := by
  unfold Call.built
  split
  · exact ⟨_, _, _, _, rfl⟩
  · unfold videoPes
    split
    · exact ⟨_, _, _, _, rfl⟩
    · exact ⟨_, _, _, _, rfl⟩

/-- A rejected call changes its scratch fields and the time of the last video frame. -/
theorem Call.rejected {call : Call} {t t' : RtmpTots} (h : call.result t = .ok (-1, t')) :
    ∃ pesBuf pesLen packData unitType,
      t' = { t with lastVideoPictureMs := (call.noted t).lastVideoPictureMs }.withScratch pesBuf
        pesLen packData unitType := by
  have hend := call.handled t
  generalize call.result t = result at h hend
  cases hend with
  | ignored _ => cases h
  | refused buf _ =>
    cases h
    exact ⟨_, _, _, _, rfl⟩
  | overrun _ => cases h
  | sent _ _ =>
    rw [rtmpTotsPacketTsHeader_refused h]
    exact scratch_built call t

/-! ### Later calls -/

/-- A frame next to itself. -/
private theorem similar_self {call : Call} (h : call.NoHeadNoLength) :
    SimilarPack call.pack call.pack := by
  obtain ⟨now, pack, mem⟩ := call
  cases hhead : pack.headData with
  | none => exact .bare pack hhead (h hhead)
  | some head =>
    have hpack : { pack with headData := some head } = pack := by
      rw [← hhead]
    have hsame := SimilarPack.head pack head head fun _ _ ↦ rfl
    rw [hpack] at hsame
    exact hsame

/-- A call does not see the scratch fields of the calls before it. -/
theorem Call.result_withScratch {call : Call} (h : call.NoHeadNoLength) (t : RtmpTots)
    (pesBuf : Mem) (pesLen : Nat) (packData : Option PackData) (unitType : EsUnitStartType) :
    SimilarResult (call.result t)
      (call.result (t.withScratch pesBuf pesLen packData unitType)) :=
  (similar_self h).result call.now call.mem t pesBuf packData

/-- Nor does a row of calls. -/
theorem runCalls_withScratch {calls : List Call} (h : ∀ call ∈ calls, call.NoHeadNoLength)
    (t : RtmpTots) (pesBuf : Mem) (pesLen : Nat) (packData : Option PackData)
    (unitType : EsUnitStartType) :
    (runCalls (t.withScratch pesBuf pesLen packData unitType) calls).map RtmpTots.output =
      (runCalls t calls).map RtmpTots.output := by
  induction calls generalizing t pesBuf pesLen packData unitType with
  | nil => rfl
  | cons call calls ih =>
    obtain ⟨pesBuf', packData', hresult⟩ := call.result_withScratch
      (h call List.mem_cons_self) t pesBuf pesLen packData unitType
    unfold runCalls
    rw [hresult]
    cases call.result t with
    | error e => rfl
    | ok r =>
      exact ih (fun c hc ↦ h c (List.mem_cons_of_mem _ hc)) r.2 pesBuf' r.2.pesLen packData'
        r.2.unitType

/-- A rejected call leaves the muxer as it was, for all later calls too, if and only if its frame is
no video frame or has the time of the last one. -/
theorem rtmpTotsPacketFromCache_rejected {call : Call} {t t' : RtmpTots}
    (h : call.result t = .ok (-1, t')) :
    (Unchanged t t' ∧ ∀ later : List Call, (∀ c ∈ later, c.NoHeadNoLength) →
      (runCalls t' later).map RtmpTots.output = (runCalls t later).map RtmpTots.output) ↔
        (call.pack.type = .h264 → call.pack.pictureMs = t.lastVideoPictureMs) := by
  obtain ⟨pesBuf, pesLen, packData, unitType, rfl⟩ := call.rejected h
  constructor
  · intro hkept htype
    have htime : (call.noted t).lastVideoPictureMs = t.lastVideoPictureMs :=
      hkept.1.lastVideoPictureMs
    rw [← htime]
    exact (if_pos htype).symm
  · intro htime
    have hsame : (call.noted t).lastVideoPictureMs = t.lastVideoPictureMs := by
      change (if call.pack.type = .h264 then _ else _) = _
      split
      · next htype => exact htime htype
      · rfl
    rw [hsame]
    exact ⟨⟨⟨rfl, rfl, rfl, rfl, rfl, rfl, rfl⟩, rfl⟩, fun later hlater ↦
      runCalls_withScratch hlater t pesBuf pesLen packData unitType⟩

/-- A frame of five million bytes without head data. -/
def longCall (type : DataType) : Call where
  now := 0
  pack :=
    { type := type, decodeMs := 9000, pictureMs := 9000, headData := none, headDataLen := 0
      data := 5, dataLen := 5000000, isKeyframe := false }
  mem := fun _ ↦ 0

/-- A rejected audio frame leaves a fresh muxer as it was. -/
theorem rtmpTotsPacketFromCache_rejected_audio :
    ∃ t', (longCall .aac).result (rtmpTots (fun _ ↦ 0) true 0) = .ok (-1, t') ∧
      Unchanged (rtmpTots (fun _ ↦ 0) true 0) t' ∧
      ∀ later : List Call, (∀ c ∈ later, c.NoHeadNoLength) →
        (runCalls t' later).map RtmpTots.output =
          (runCalls (rtmpTots (fun _ ↦ 0) true 0) later).map RtmpTots.output := by
  have hresult : (longCall .aac).result (rtmpTots (fun _ ↦ 0) true 0) = .ok (-1, _) := rfl
  refine ⟨_, hresult, (rtmpTotsPacketFromCache_rejected hresult).mpr ?_⟩
  intro htype
  cases htype

/-- Behind a rejected video frame an audio frame gets the time of that frame. -/
theorem rtmpTotsPacketFromCache_leaks :
    ∃ t', (longCall .h264).result (rtmpTots (fun _ ↦ 0) true 0) = .ok (-1, t') ∧
      t'.lastVideoPictureMs = 9000 ∧
      (runCalls t' [smallCall .aac 7]).map (·.output.emitted) ≠
        (runCalls (rtmpTots (fun _ ↦ 0) true 0) [smallCall .aac 7]).map (·.output.emitted) := by
  refine ⟨_, rfl, rfl, ?_⟩
  decide +kernel

end RtmpRecv.Tots
