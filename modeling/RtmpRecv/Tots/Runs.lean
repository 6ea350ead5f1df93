import RtmpRecv.Tots.Stream

/-!
# Sequences of calls

Library `Tots`. The muxer is called again and again, with any clock, any frames and any message
memory. What it has emitted are the packets of the accepted frames, in order, and nothing else.
-/

namespace RtmpRecv.Tots
open RtmpRecv.Base RtmpRecv.Wire

/-- The muxer after a sequence of calls; a fault ends it. -/
def runCalls (t : RtmpTots) : List Call → Except Fault RtmpTots
  | [] => .ok t
  | call :: calls =>
    match call.result t with
    | .error e => .error e
    | .ok (_, t') => runCalls t' calls

/-- The muxer after the calls satisfies `P`. The run ends early only at a frame whose length does
not fit in 32 bits. -/
inductive RunsTo (t : RtmpTots) (calls : List Call) (P : RtmpTots → Prop) : Prop where
  | overrun (hrun : runCalls t calls = .error .outOfBounds)
      (hwraps : ∃ call ∈ calls, call.Wraps) : RunsTo t calls P
  | done {t' : RtmpTots} (hrun : runCalls t calls = .ok t') (h : P t') : RunsTo t calls P

theorem RunsTo.imp {t : RtmpTots} {calls : List Call} {P Q : RtmpTots → Prop}
    (h : RunsTo t calls P) (himp : ∀ t', P t' → Q t') : RunsTo t calls Q := by
  cases h with
  | overrun hrun hwraps => exact RunsTo.overrun hrun hwraps
  | done hrun h => exact RunsTo.done hrun (himp _ h)

/-- The packets that a sequence of calls emits, if no fault ends it. -/
def runPackets (t : RtmpTots) (calls : List Call) : Option (List (List UInt8)) :=
  match runCalls t calls with
  | .error _ => none
  | .ok t' => some (packets t'.output.emitted)

/-- The PES packets that the calls build for a PID: `pes_buf` up to `pes_len` after each of its
frames. -/
def builtFor (pid : Nat) (t : RtmpTots) : List Call → List (List UInt8)
  | [] => []
  | call :: calls =>
    match call.result t with
    | .error _ => []
    | .ok (_, t') =>
      if call.Fits ∧ pidOf call.pack.type = some pid then
        t'.pesBuf.slice 0 t'.pesLen :: builtFor pid t' calls
      else builtFor pid t' calls

/-- One PAT packet and one PMT packet. -/
def IsTables (tables : List (List UInt8)) : Prop :=
  ∃ n, tables = [tablePacket 0x40 n patTable, tablePacket 0x41 n pmtTable]

/-- The calls emit the packets `ps`, where `first` says that no frame has been sent yet. A frame
that is not accepted emits nothing. An accepted one emits the packets that carry its PES packet,
behind the two tables when it is a key frame or the first one, and maybe else. -/
inductive Streams : Bool → RtmpTots → List Call → List (List UInt8) → Prop where
  | nil (first : Bool) (t : RtmpTots) : Streams first t [] []
  | dropped {first : Bool} {t t' : RtmpTots} {call : Call} {calls : List Call} {ret : Int}
      {ps : List (List UInt8)} (hfits : ¬call.Fits) (hresult : call.result t = .ok (ret, t'))
      (hlast : t'.lastVideoPictureMs = (call.noted t).lastVideoPictureMs)
      (hrest : Streams first t' calls ps) : Streams first t (call :: calls) ps
  | sent {first : Bool} {t t' : RtmpTots} {call : Call} {calls : List Call} {pid : Nat}
      {tables frame ps : List (List UInt8)} (hfits : call.Fits)
      (hpid : pidOf call.pack.type = some pid) (hresult : call.result t = .ok (0, t'))
      (htables : tables = [] ∨ IsTables tables)
      (hfront : call.pack.isKeyframe = true ∨ first = true → tables ≠ [])
      (hframe : Carries pid true frame (t'.pesBuf.slice 0 t'.pesLen)) (hne : frame ≠ [])
      (hcut : frame = framePackets (call.pts t) pid (call.built t))
      (hkept : SameFrame (call.built t) t')
      (hrest : Streams false t' calls ps) : Streams first t (call :: calls) (tables ++ frame ++ ps)

/-- A fresh muxer has emitted nothing. -/
theorem muxed_rtmpTots (pesBuf : Mem) (tsFp : Bool) (now : Nat) :
    Muxed (rtmpTots pesBuf tsFp now) [] where
  ready := ⟨⟨0, by simp, rfl⟩, fun w hw ↦ absurd hw List.not_mem_nil⟩
  emitted := rfl
  wellFormed := fun p hp ↦ absurd hp List.not_mem_nil
  pat := ⟨trivial, rfl⟩
  pmt := ⟨trivial, rfl⟩
  video := ⟨trivial, rfl⟩
  audio := ⟨trivial, rfl⟩
  videoCount := by simp [rtmpTots]
  audioCount := by simp [rtmpTots]

/-- After a call the muxer has emitted some more packets. -/
theorem Muxed.call {t t' : RtmpTots} {ps : List (List UInt8)} (h : Muxed t ps) {call : Call}
    {ret : Int} (hresult : call.result t = .ok (ret, t')) : ∃ qs, Muxed t' (ps ++ qs) := by
  have hstep := h.stepped call
  rw [hresult] at hstep
  cases hstep with
  | silent hfits hsame _ =>
    refine ⟨[], ?_⟩
    rw [List.append_nil]
    exact h.sameStage hsame
  | emitted hpid hfits hfp =>
    exact ⟨_, (h.sameStage (call.sameStage_built t)).afterStage
      ((pidOf_cases hpid).imp And.right And.right) _ _ _⟩

/-- A call leaves the file handle alone. -/
theorem Muxed.call_tsFp {t t' : RtmpTots} {ps : List (List UInt8)} (h : Muxed t ps) {call : Call}
    {ret : Int} (hresult : call.result t = .ok (ret, t')) : t'.tsFp = t.tsFp := by
  have hstep := h.stepped call
  rw [hresult] at hstep
  cases hstep with
  | silent _ hsame _ => exact hsame.tsFp
  | @emitted pid _ _ _ =>
    rw [(sameFrame_afterStage call.now (call.pts t) pid call.pack (call.built t)).tsFp,
      (call.sameStage_built t).tsFp]

/-- After a sequence of calls a muxer has emitted whole packets too. -/
theorem Muxed.runCalls {t t' : RtmpTots} {ps : List (List UInt8)} (h : Muxed t ps)
    {calls : List Call} (hrun : runCalls t calls = .ok t') : ∃ qs, Muxed t' (ps ++ qs) := by
  induction calls generalizing t ps with
  | nil =>
    cases hrun
    exact ⟨[], by rwa [List.append_nil]⟩
  | cons call calls ih =>
    unfold Tots.runCalls at hrun
    cases hresult : call.result t with
    | error e =>
      rw [hresult] at hrun
      cases hrun
    | ok r =>
      rw [hresult] at hrun
      obtain ⟨qs, hqs⟩ := h.call hresult
      obtain ⟨rs, hrs⟩ := ih hqs hrun
      exact ⟨qs ++ rs, by rwa [← List.append_assoc]⟩

/-- A run ends early only at a frame whose length does not fit in 32 bits. -/
theorem Muxed.runsTo {t : RtmpTots} {ps : List (List UInt8)} (h : Muxed t ps) {calls : List Call}
    {P : RtmpTots → Prop} (hP : ∀ t', Tots.runCalls t calls = .ok t' → P t') :
    RunsTo t calls P := by
  induction calls generalizing t ps with
  | nil => exact RunsTo.done rfl (hP t rfl)
  | cons call calls ih =>
    have hstep := h.stepped call
    unfold Tots.runCalls at hP
    cases hresult : call.result t with
    | error e =>
      rw [hresult] at hstep
      cases hstep with
      | overrun hwraps =>
        apply RunsTo.overrun
        · rw [Tots.runCalls, hresult]
        · exact ⟨call, List.mem_cons_self, hwraps⟩
    | ok r =>
      rw [hresult] at hP
      obtain ⟨qs, hqs⟩ := h.call hresult
      have hrun : Tots.runCalls t (call :: calls) = Tots.runCalls r.2 calls := by
        rw [Tots.runCalls, hresult]
      cases ih hqs hP with
      | overrun hrest hwraps =>
        obtain ⟨call', hmem, hwraps⟩ := hwraps
        exact RunsTo.overrun (hrun.trans hrest) ⟨call', List.mem_cons_of_mem _ hmem, hwraps⟩
      | done hrest hp => exact RunsTo.done (hrun.trans hrest) hp

theorem framePackets_ne_nil (pts pid : Nat) {t : RtmpTots} (h : 0 < t.pesLen) :
    framePackets pts pid t ≠ [] := by
  obtain ⟨n, hn⟩ : ∃ n, t.pesLen = n + 1 := ⟨t.pesLen - 1, by omega⟩
  have hne : t.pesBuf.slice 0 (n + 1) ≠ [] := by
    rw [Mem.slice_succ]
    exact List.cons_ne_nil _ _
  unfold framePackets pesPackets
  rw [Mem.length_slice, hn, cutPes_cons hne]
  exact List.cons_ne_nil _ _

/-- A run with an open file emits the packets of the accepted frames. -/
theorem Muxed.streams {t t' : RtmpTots} {ps : List (List UInt8)} (h : Muxed t ps)
    (hfp : t.tsFp = true) (first : Bool) (hfirst : first = true → t.frameNum = 0)
    {calls : List Call} (hrun : Tots.runCalls t calls = .ok t') :
    ∃ qs, Streams first t calls qs ∧ Muxed t' (ps ++ qs) ∧ t'.tsFp = true := by
  induction calls generalizing t ps first with
  | nil =>
    cases hrun
    exact ⟨[], Streams.nil first _, by rwa [List.append_nil], hfp⟩
  | cons call calls ih =>
    have hstep := h.stepped call
    unfold Tots.runCalls at hrun
    cases hresult : call.result t with
    | error e =>
      rw [hresult] at hrun
      cases hrun
    | ok r =>
      rw [hresult] at hrun hstep
      cases hstep with
      | @silent ret t₁ hfits hsame hlast =>
        obtain ⟨qs, hstreams, hqs⟩ := ih (h.sameStage hsame) (hsame.tsFp.trans hfp)
          first (fun hf ↦ hsame.frameNum.trans (hfirst hf)) hrun
        exact ⟨qs, Streams.dropped (fun hf ↦ hfits ⟨hf, hfp⟩) hresult hlast hstreams, hqs⟩
      | @emitted pid hpid hfits _ =>
        have hsame := call.sameStage_built t
        have hvideo := (pidOf_cases hpid).imp And.right And.right
        have hafter := (h.sameStage hsame).afterStage hvideo call.now (call.pts t) call.pack
        have hkept := sameFrame_afterStage call.now (call.pts t) pid call.pack (call.built t)
        obtain ⟨qs, hstreams, hqs⟩ := ih hafter (hkept.tsFp.trans (hsame.tsFp.trans hfp))
          false (fun hf ↦ absurd hf Bool.false_ne_true) hrun
        refine ⟨frontTables call.now call.pack (call.built t) ++
          framePackets (call.pts t) pid (call.built t) ++ qs, ?_, by simpa using hqs.1, hqs.2⟩
        apply Streams.sent hfits hpid hresult
        · unfold frontTables
          split
          · exact Or.inr ⟨_, rfl⟩
          · exact Or.inl rfl
        · intro hfront
          have hwants : wantsTables call.now call.pack (call.built t) = true := by
            rcases hfront with hkey | hf
            · simp [wantsTables, hkey]
            · simp [wantsTables, hsame.frameNum, hfirst hf]
          unfold frontTables
          rw [if_pos hwants]
          exact List.cons_ne_nil _ _
        · rw [hkept.pesBuf, hkept.pesLen]
          exact pesPackets_carries hvideo _ _ _
        · exact framePackets_ne_nil _ _ (call.pesLen_built t hpid hfits.2).1
        · rfl
        · exact hkept
        · exact hstreams

/-! ### Units -/

theorem isTables_other {tables : List (List UInt8)}
    (h : tables = [] ∨ IsTables tables) {pid : Nat} (hpid : pid = videoPid ∨ pid = audioPid) :
    ∀ p ∈ tables, packetPid p ≠ pid := by
  rcases h with rfl | ⟨n, rfl⟩
  · intro p hp
    cases hp
  · have hlen : patTable.length ≤ 179 ∧ pmtTable.length ≤ 179 := by decide
    obtain ⟨-, hpat, -⟩ := tablePacket_read 0x40 n hlen.1
    obtain ⟨-, hpmt, -⟩ := tablePacket_read 0x41 n hlen.2
    intro p hp
    rcases List.mem_cons.1 hp with rfl | hp
    · rw [hpat]
      rcases hpid with rfl | rfl <;> decide
    · rw [List.mem_singleton.1 hp, hpmt]
      rcases hpid with rfl | rfl <;> decide

/-- The packets of a run carry the PES packets that the run builds. -/
theorem Streams.unitsOf {first : Bool} {t : RtmpTots} {calls : List Call}
    {ps : List (List UInt8)} (h : Streams first t calls ps) {pid : Nat}
    (hpid : pid = videoPid ∨ pid = audioPid) (qs : List (List UInt8)) :
    unitsOf pid (qs ++ ps) = unitsOf pid qs ++ builtFor pid t calls := by
  induction h generalizing qs with
  | nil => simp [builtFor]
  | @dropped first t t' call calls ret ps hfits hresult _ hrest ih =>
    have hnot : ¬(call.Fits ∧ pidOf call.pack.type = some pid) := fun h ↦ hfits h.1
    rw [builtFor, hresult]
    dsimp only
    rw [if_neg hnot]
    exact ih qs
  | @sent first t t' call calls pid' tables frame ps hfits hpid' hresult htables hfront hframe hne
      _ _ hrest ih =>
    have hassoc : qs ++ (tables ++ frame ++ ps) = (qs ++ tables) ++ frame ++ ps := by simp
    rw [builtFor, hresult, hassoc, ih]
    dsimp only
    by_cases hsame : pid' = pid
    · subst hsame
      rw [if_pos ⟨hfits, hpid'⟩, hframe.unitsOf hne, unitsOf_other _ (isTables_other htables hpid)]
      simp
    · have hnot : ¬(call.Fits ∧ pidOf call.pack.type = some pid) := by
        rintro ⟨-, h⟩
        exact hsame (Option.some.inj (hpid'.symm.trans h))
      rw [if_neg hnot, unitsOf_other _ fun p hp ↦ (hframe.wellFormed p hp).2 ▸ hsame,
        unitsOf_other _ (isTables_other htables hpid)]

/-- A call with a frame that fits leaves its PES packet in the buffer, and emits it if the file is
open. -/
theorem Muxed.sends {t : RtmpTots} {ps : List (List UInt8)} (h : Muxed t ps) {call : Call}
    (hfits : call.Fits) {pid : Nat} (hpid : pidOf call.pack.type = some pid) :
    ∃ ret t', call.result t = .ok (ret, t') ∧ SameFrame (call.built t) t' ∧
      (t.tsFp = true → unitsOf pid (Wire.packets t'.output.emitted) =
        unitsOf pid (Wire.packets t.output.emitted) ++ [t'.pesBuf.slice 0 t'.pesLen]) := by
  have hstep := h.stepped call
  cases hfp : t.tsFp with
  | false =>
    have hclosed : rtmpTotsPacketTsHeader call.now (call.pts t) (call.built t) =
        .ok (-1, call.built t) :=
      rtmpTotsPacketTsHeader_closed ((call.sameStage_built t).tsFp.trans hfp)
    refine ⟨-1, call.built t, (call.result_of_fits hfits t).trans hclosed,
      ⟨rfl, rfl, rfl, rfl⟩, fun h ↦ absurd h Bool.false_ne_true⟩
  | true =>
    generalize hresult : call.result t = result at hstep
    cases hstep with
    | silent hnot _ _ => exact absurd ⟨hfits, hfp⟩ hnot
    | overrun hwraps => exact absurd hwraps hfits.not_wraps
    | @emitted pid' hpid' _ _ =>
      refine ⟨0, _, rfl, sameFrame_afterStage call.now (call.pts t) pid' call.pack (call.built t),
        fun _ ↦ ?_⟩
      have hrun : Tots.runCalls t [call] = .ok (Tots.afterStage call.now (call.pts t) pid'
          call.pack (call.built t)) := by
        simp [Tots.runCalls, hresult]
      obtain ⟨qs, hstreams, hmuxed, -⟩ := h.streams hfp false (fun hf ↦ absurd hf
        Bool.false_ne_true) hrun
      have hunits := hstreams.unitsOf ((pidOf_cases hpid).imp And.right And.right) ps
      rw [h.packets, hmuxed.packets, hunits, builtFor, hresult]
      dsimp only
      rw [if_pos ⟨hfits, hpid⟩, builtFor]

/-- A call emits nothing for the PID of its frame, or the PES packet that it builds. -/
theorem Muxed.unitsOf_call {t t' : RtmpTots} {ps : List (List UInt8)} (h : Muxed t ps)
    {call : Call} {pid : Nat} (hpid : pidOf call.pack.type = some pid) {ret : Int}
    (hresult : call.result t = .ok (ret, t')) :
    unitsOf pid (Wire.packets t'.output.emitted) = unitsOf pid (Wire.packets t.output.emitted) ∨
      call.Fits ∧ unitsOf pid (Wire.packets t'.output.emitted) =
        unitsOf pid (Wire.packets t.output.emitted) ++
          [(call.built t).pesBuf.slice 0 (call.built t).pesLen] := by
  by_cases hsent : call.Fits ∧ t.tsFp = true
  · right
    obtain ⟨ret', t₁, hresult', hkept, hemitted⟩ := h.sends hsent.1 hpid
    rw [hresult] at hresult'
    cases hresult'
    rw [← hkept.pesBuf, ← hkept.pesLen]
    exact ⟨hsent.1, hemitted hsent.2⟩
  · left
    have hstep := h.stepped call
    rw [hresult] at hstep
    cases hstep with
    | silent _ hsame _ => rw [hsame.output]
    | emitted _ hfits hfp => exact absurd ⟨hfits, hfp⟩ hsent

/-- Frames that pass the size check: the run goes through, every packet it emits is well formed,
and the packets of the video PID and of the audio PID carry exactly the PES packets built for
them, in order. -/
theorem rtmpTotsPacketFromCache_units (pesBuf : Mem) (start : Nat) (calls : List Call)
    (h : ∀ call ∈ calls, call.Fits) :
    ∃ t, runCalls (rtmpTots pesBuf true start) calls = .ok t ∧
      t.output.emitted = (packets t.output.emitted).flatten ∧
      (∀ p ∈ packets t.output.emitted, WellFormedPacket p) ∧
      unitsOf videoPid (packets t.output.emitted) =
        builtFor videoPid (rtmpTots pesBuf true start) calls ∧
      unitsOf audioPid (packets t.output.emitted) =
        builtFor audioPid (rtmpTots pesBuf true start) calls := by
  have hfresh := muxed_rtmpTots pesBuf true start
  cases hfresh.runsTo fun _ ↦ id with
  | overrun _ hwraps =>
    obtain ⟨call, hmem, hwraps⟩ := hwraps
    exact absurd hwraps (h call hmem).not_wraps
  | @done t hrun _ =>
    obtain ⟨ps, hstreams, hmuxed, hfp⟩ := hfresh.streams rfl true (fun _ ↦ rfl) hrun
    rw [List.nil_append] at hmuxed
    refine ⟨t, hrun, ?_⟩
    rw [hmuxed.packets]
    refine ⟨hmuxed.emitted, hmuxed.wellFormed, ?_, ?_⟩
    · exact hstreams.unitsOf (Or.inl rfl) []
    · exact hstreams.unitsOf (Or.inr rfl) []

/-- A frame of four bytes behind `n` bytes of head data. -/
def smallCall (type : DataType) (n : Nat) : Call where
  now := 40
  pack :=
    { type := type, decodeMs := 20, pictureMs := 60, headData := some fun _ ↦ 0, headDataLen := n
      data := 1, dataLen := 4, isKeyframe := n = 0 }
  mem := Mem.ofList [0xaf, 1, 2, 3, 4]

/-- A key frame and two audio frames, of which the second does not fill one packet. -/
theorem rtmpTotsPacketFromCache_units_three :
    ∃ t, runCalls (rtmpTots (fun _ ↦ 0) true 5)
        [smallCall .h264 0, smallCall .aac 165, smallCall .aac 7] = .ok t ∧
      t.output.emitted = (packets t.output.emitted).flatten ∧
      (∀ p ∈ packets t.output.emitted, WellFormedPacket p) ∧
      unitsOf videoPid (packets t.output.emitted) = builtFor videoPid (rtmpTots (fun _ ↦ 0) true 5)
        [smallCall .h264 0, smallCall .aac 165, smallCall .aac 7] ∧
      unitsOf audioPid (packets t.output.emitted) = builtFor audioPid (rtmpTots (fun _ ↦ 0) true 5)
        [smallCall .h264 0, smallCall .aac 165, smallCall .aac 7] :=
  rtmpTotsPacketFromCache_units (fun _ ↦ 0) 5 _ (by decide)

/-! ### Counters -/

/-- Consecutive packets of one PID have consecutive counters, whatever the calls were. -/
theorem rtmpTotsPacketFromCache_counters (pesBuf : Mem) (tsFp : Bool) (start : Nat)
    (calls : List Call) :
    RunsTo (rtmpTots pesBuf tsFp start) calls fun t ↦
      ∀ pid ∈ [0x0000, 0x0100, videoPid, audioPid],
        (streamOf pid (packets t.output.emitted)).IsChain fun p q ↦
          packetCounter q = (packetCounter p + 1) % 16 := by
  have hfresh := muxed_rtmpTots pesBuf tsFp start
  apply hfresh.runsTo
  intro t hrun pid hpid
  obtain ⟨ps, hmuxed⟩ := hfresh.runCalls hrun
  rw [List.nil_append] at hmuxed
  rw [hmuxed.packets]
  simp only [List.mem_cons, List.not_mem_nil, or_false] at hpid
  rcases hpid with rfl | rfl | rfl | rfl
  · exact hmuxed.pat.1.isChain
  · exact hmuxed.pmt.1.isChain
  · exact hmuxed.video.1.isChain
  · exact hmuxed.audio.1.isChain

/-! ### The cache -/

/-- The cache holds whole packets, at most six, and every write was of seven packets; what was
written and what is cached are the packets of the accepted frames. A frame that fits enters the
transport stage with such a cache, the stage stays inside the cache and none of its assertions
fails, and it leaves such a cache. -/
theorem rtmpTotsPacketTsHeader_cache (pesBuf : Mem) (start : Nat) (calls : List Call) :
    RunsTo (rtmpTots pesBuf true start) calls fun t ↦
      t.output.Ready ∧
        Streams true (rtmpTots pesBuf true start) calls (packets t.output.emitted) ∧
        t.output.emitted = (packets t.output.emitted).flatten ∧
        ∀ call : Call, call.Fits →
          call.result t = rtmpTotsPacketTsHeader call.now (call.pts t) (call.built t) ∧
            (call.built t).output.Ready ∧
            ∃ t', rtmpTotsPacketTsHeader call.now (call.pts t) (call.built t) = .ok (0, t') ∧
              t'.output.Ready := by
  have hfresh := muxed_rtmpTots pesBuf true start
  apply hfresh.runsTo
  intro t hrun
  obtain ⟨ps, hstreams, hmuxed, hfp⟩ := hfresh.streams rfl true (fun _ ↦ rfl) hrun
  rw [List.nil_append] at hmuxed
  rw [hmuxed.packets]
  refine ⟨hmuxed.ready, hstreams, hmuxed.emitted, ?_⟩
  intro call hfits
  have hresult := call.result_of_fits hfits t
  have hready := (call.sameStage_built t).output ▸ hmuxed.ready
  refine ⟨hresult, hready, ?_⟩
  rw [← hresult]
  have hstep := hmuxed.stepped call
  generalize call.result t = result at hstep
  cases hstep with
  | silent hnot _ _ => exact absurd ⟨hfits, hfp⟩ hnot
  | overrun hwraps => exact absurd hwraps hfits.not_wraps
  | emitted => exact ⟨_, rfl, hready.foldl _⟩

end RtmpRecv.Tots
