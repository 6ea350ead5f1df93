import RtmpRecv.Tots.Clock

/-!
# Time stamps of one call

Library `Tots`. What the packets that a call emits say about the times of its frame. The times are
the 64-bit products that the muxer computes; the fields have 33 bits.
-/

namespace RtmpRecv.Tots
open RtmpRecv.Base RtmpRecv.Wire

/-- A video PES packet with both times, and the transport packet that starts it. -/
structure VideoStamped (dts pts : Nat) (pes first : List UInt8) : Prop where
  ptsMarked : TimeStampMarked pes 9 3
  pts : pesPts pes = pts % 8589934592
  dtsMarked : TimeStampMarked pes 14 1
  dts : pesDts pes = dts % 8589934592
  reference : packetPcr first = some (pesPts pes)
  extension : packetPcrExtension first = 0

/-- An audio PES packet with its time. -/
structure AudioStamped (pts : Nat) (pes : List UInt8) : Prop where
  marked : TimeStampMarked pes 9 2
  pts : pesPts pes = pts % 8589934592

/-- A call emits nothing, or the packets of its frame behind the tables, which may be there. -/
theorem Muxed.emits {t t' : RtmpTots} {ps : List (List UInt8)} (h : Muxed t ps) {call : Call}
    {ret : Int} (hresult : call.result t = .ok (ret, t')) :
    Wire.packets t'.output.emitted = Wire.packets t.output.emitted ∨
      ∃ pid tables, pidOf call.pack.type = some pid ∧ call.Fits ∧
        (tables = [] ∨ IsTables tables) ∧ Wire.packets t'.output.emitted =
          Wire.packets t.output.emitted ++
            (tables ++ framePackets (call.pts t) pid (call.built t)) := by
  have hstep := h.stepped call
  rw [hresult] at hstep
  cases hfp : t.tsFp with
  | false =>
    cases hstep with
    | silent _ hsame _ =>
      exact Or.inl (congrArg (fun out : Output ↦ Wire.packets out.emitted) hsame.output)
    | emitted _ _ hopen => exact absurd (hfp.symm.trans hopen) Bool.false_ne_true
  | true =>
    have hrun : Tots.runCalls t [call] = .ok t' := by
      simp [Tots.runCalls, hresult]
    obtain ⟨qs, hstreams, hmuxed, -⟩ := h.streams hfp false (fun hf ↦ absurd hf
      Bool.false_ne_true) hrun
    rw [hmuxed.packets, h.packets]
    cases hstreams with
    | dropped _ _ _ hrest =>
      cases hrest
      exact Or.inl (List.append_nil ps)
    | @sent _ _ _ _ _ pid tables _ _ hfits hpid _ htables _ _ _ hcut _ hrest =>
      cases hrest
      refine Or.inr ⟨pid, tables, hpid, hfits, htables, ?_⟩
      rw [List.append_nil, hcut]

/-- The units of the packets that a call emits. -/
private theorem units_emits {t : RtmpTots} {ps tables : List (List UInt8)}
    (htables : tables = [] ∨ IsTables tables) {pid : Nat} {call : Call} (hfits : call.Fits)
    (hpid : pidOf call.pack.type = some pid) :
    unitsOf pid (ps ++ (tables ++ framePackets (call.pts t) pid (call.built t))) =
      unitsOf pid ps ++ [(call.built t).pesBuf.slice 0 (call.built t).pesLen] := by
  have hvideo := (pidOf_cases hpid).imp And.right And.right
  have hcarries := pesPackets_carries hvideo (call.pts t) (pidCount (call.built t) pid)
    ((call.built t).pesBuf.slice 0 (call.built t).pesLen)
  rw [← List.append_assoc, framePackets, hcarries.unitsOf
    (framePackets_ne_nil _ _ (call.pesLen_built t hpid hfits.2).1),
    unitsOf_other _ (isTables_other htables hvideo)]

/-- What a video frame emits carries its times. -/
theorem Muxed.videoStamps {t t' : RtmpTots} {ps : List (List UInt8)} (h : Muxed t ps) {call : Call}
    (hvideo : call.pack.type = .h264) (hms : call.pack.pictureMs < 4294967296) {ret : Int}
    (hresult : call.result t = .ok (ret, t')) :
    ∃ qs pess, Wire.packets t'.output.emitted = Wire.packets t.output.emitted ++ qs ∧
      unitsOf videoPid (Wire.packets t'.output.emitted) =
        unitsOf videoPid (Wire.packets t.output.emitted) ++ pess ∧
      List.Forall₂ (VideoStamped call.dts (call.pts t)) pess
        ((streamOf videoPid qs).filter packetStarts) := by
  rcases h.emits hresult with hsame | ⟨pid, tables, hpid, hfits, htables, hpackets⟩
  · refine ⟨[], [], ?_, ?_, List.Forall₂.nil⟩
    · rw [hsame, List.append_nil]
    · rw [hsame, List.append_nil]
  · have hpid' : pid = videoPid := by
      rw [hvideo] at hpid
      exact (Option.some.inj hpid).symm
    subst hpid'
    have hpts : call.pts t = call.pack.pictureMs * 90 := by
      rw [Call.pts, hvideo]
      dsimp only
      exact Nat.mod_eq_of_lt (by omega)
    have hbuilt : call.built t =
        videoPes call.dts (call.pts t) call.pack (call.noted t) call.mem := by
      rw [Call.built, hvideo]
    obtain ⟨⟨hptsMarked, hptsRead⟩, hdtsMarked, hdtsRead⟩ :=
      stamps_videoPes call.dts (call.pts t) call.pack (call.noted t) call.mem rfl
    rw [← hbuilt] at hptsMarked hptsRead hdtsMarked hdtsRead
    have hclock : call.pts t * 300 < 18446744073709551616 := by omega
    obtain ⟨first, rest, hcons, ⟨hreference, hextension⟩, hstart, hrest⟩ :=
      framePackets_clock hclock (call.pesLen_built t hpid hfits.2).1
    have hcarries : Carries videoPid true (framePackets (call.pts t) videoPid (call.built t)) _ :=
      pesPackets_carries (Or.inl rfl) _ _ _
    have hstream : streamOf videoPid (tables ++ framePackets (call.pts t) videoPid (call.built t)) =
        first :: rest := by
      rw [streamOf_append, streamOf_other (isTables_other htables (Or.inl rfl)), List.nil_append,
        streamOf_same fun p hp ↦ (hcarries.wellFormed p hp).2, hcons]
    have hnone : rest.filter packetStarts = [] := by
      apply List.filter_eq_nil_iff.2
      intro p hp
      simp [(hrest p hp).2]
    refine ⟨_, [(call.built t).pesBuf.slice 0 (call.built t).pesLen], hpackets, ?_, ?_⟩
    · rw [hpackets]
      exact units_emits htables hfits hpid
    · rw [hstream, List.filter_cons_of_pos hstart, hnone]
      refine List.Forall₂.cons ?_ List.Forall₂.nil
      constructor
      · exact hptsMarked
      · exact hptsRead
      · exact hdtsMarked
      · exact hdtsRead
      · rw [hreference, hptsRead]
      · exact hextension

/-- What an audio frame emits carries the time of the call. -/
theorem Muxed.audioStamps {t t' : RtmpTots} {ps : List (List UInt8)} (h : Muxed t ps) {call : Call}
    (haudio : call.pack.type ≠ .h264) {ret : Int} (hresult : call.result t = .ok (ret, t')) :
    ∃ pess, unitsOf audioPid (Wire.packets t'.output.emitted) =
        unitsOf audioPid (Wire.packets t.output.emitted) ++ pess ∧
      ∀ pes ∈ pess, AudioStamped (call.pts t) pes := by
  rcases h.emits hresult with hsame | ⟨pid, tables, hpid, hfits, htables, hpackets⟩
  · refine ⟨[], ?_, fun pes hpes ↦ absurd hpes List.not_mem_nil⟩
    rw [hsame, List.append_nil]
  · rcases pidOf_cases hpid with ⟨hvideo, -⟩ | ⟨haac, rfl⟩
    · exact absurd hvideo haudio
    · have hbuilt : call.built t = audioPes (call.pts t) call.pack (call.noted t) call.mem := by
        rw [Call.built, haac]
      obtain ⟨hmarked, hread⟩ := stamp_audioPes (call.pts t) call.pack (call.noted t) call.mem rfl
      rw [← hbuilt] at hmarked hread
      refine ⟨[(call.built t).pesBuf.slice 0 (call.built t).pesLen], ?_, ?_⟩
      · rw [hpackets]
        exact units_emits htables hfits hpid
      · intro pes hpes
        rw [List.mem_singleton.1 hpes]
        exact ⟨hmarked, hread⟩

end RtmpRecv.Tots
