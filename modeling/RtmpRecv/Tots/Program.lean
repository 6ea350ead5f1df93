import RtmpRecv.Tots.Checksum
import RtmpRecv.Tots.Closing
import RtmpRecv.Tots.Stamps
import RtmpRecv.Wire.Program

/-!
# The program of a muxer

Library `Tots`. A muxer writes one program: two tables that announce a video and an audio stream,
and elementary packets of these two streams.
-/

namespace RtmpRecv.Tots
open RtmpRecv.Base RtmpRecv.Wire

/-- The program that the tables announce: AVC video, which carries the clock, and AAC audio with
ADTS headers. -/
def tsProgram : Program := ⟨videoPid, [(0x1b, videoPid), (0x0f, audioPid)]⟩

/-- A unit of one of the two streams. -/
inductive IsTsUnit : Nat → List UInt8 → Prop where
  | video {pes : List UInt8} (h : PesPacket 0xe0 pes) : IsTsUnit videoPid pes
  | audio {pes : List UInt8} (h : PesPacket 0xc0 pes) : IsTsUnit audioPid pes

/-- The muxer has emitted packets of its program, and before the first ones it will send tables. -/
structure Announces (t : RtmpTots) (ps : List (List UInt8)) : Prop where
  muxed : Muxed t ps
  program : Multiplexed IsTables IsTsUnit ps
  first : ps = [] → t.frameNum = 0

/-! ### Tables -/

/-- A table packet is the same for two counters with the same lower four bits. -/
private theorem tablePacket_mod (b1 : UInt8) (n : Nat) (table : List UInt8) :
    tablePacket b1 n table = tablePacket b1 (n % 16) table := by
  unfold tablePacket
  rw [Nat.mod_mod]

private theorem programOf_counted : ∀ k : Fin 16,
    programOf [tablePacket 0x40 k patTable, tablePacket 0x41 k pmtTable] = some tsProgram := by
  decide +kernel

/-- The two tables announce the program, whatever their counter is. -/
theorem programOf_tables {tables : List (List UInt8)} (h : IsTables tables) :
    programOf tables = some tsProgram := by
  obtain ⟨n, rfl⟩ := h
  rw [tablePacket_mod, tablePacket_mod 0x41]
  exact programOf_counted ⟨n % 16, Nat.mod_lt _ (by decide)⟩

private theorem readTables_counted : ∀ k : Fin 16,
    readTable associations (tablePacket 0x40 k patTable) = some [(1, 0x100)] ∧
      readTable programMap (tablePacket 0x41 k pmtTable) = some tsProgram := by
  decide +kernel

/-- A packet of the tables has the identifier of one of them, and this table can be read. -/
theorem readTable_tables {tables : List (List UInt8)} (h : IsTables tables) {p : List UInt8}
    (hp : p ∈ tables) :
    packetPid p = 0 ∧ readTable associations p = some [(1, 0x100)] ∨
      packetPid p = 0x100 ∧ readTable programMap p = some tsProgram := by
  obtain ⟨n, rfl⟩ := h
  have hlen : patTable.length ≤ 179 ∧ pmtTable.length ≤ 179 := by decide
  obtain ⟨hpat, hpmt⟩ := readTables_counted ⟨n % 16, Nat.mod_lt _ (by decide)⟩
  rw [← tablePacket_mod] at hpat hpmt
  rcases List.mem_cons.1 hp with rfl | hp
  · exact Or.inl ⟨(tablePacket_read 0x40 n hlen.1).2.1, hpat⟩
  · rw [List.mem_singleton.1 hp]
    exact Or.inr ⟨(tablePacket_read 0x41 n hlen.2).2.1, hpmt⟩

/-! ### Elementary packets -/

/-- The first four bytes of a packet. -/
private theorem take_four {pes : List UInt8} (hlen : 4 ≤ pes.length) {b0 b1 b2 b3 : UInt8}
    (h0 : pes.getD 0 0 = b0) (h1 : pes.getD 1 0 = b1) (h2 : pes.getD 2 0 = b2)
    (h3 : pes.getD 3 0 = b3) : pes.take 4 = [b0, b1, b2, b3] := by
  match pes, hlen with
  | a0 :: a1 :: a2 :: a3 :: rest, _ =>
    simp only [List.getD_cons_zero, List.getD_cons_succ] at h0 h1 h2 h3
    rw [h0, h1, h2, h3]
    rfl

/-- The packet that an audio frame is built into. -/
theorem pesPacket_audioPes (pts : Nat) (pack : PackData) (t : RtmpTots) (m : Mem) :
    PesPacket 0xc0
      ((audioPes pts pack t m).pesBuf.slice 0 (audioPes pts pack t m).pesLen) := by
  have hlen : ((audioPes pts pack t m).pesBuf.slice 0 (audioPes pts pack t m).pesLen).length =
      esLen pack + 14 := Mem.length_slice _ _ _
  obtain ⟨hmarked, -⟩ := stamp_audioPes pts pack t m rfl
  have hread {i : Nat} (h : i < 14) := audioPes_header pts pack t m h
  generalize (audioPes pts pack t m).pesBuf.slice 0 (audioPes pts pack t m).pesLen = pes at *
  have h6 : pes.getD 6 0 = 0x80 := hread (by decide)
  have h7 : pes.getD 7 0 = 0x80 := hread (by decide)
  have h8 : pes.getD 8 0 = 0x05 := hread (by decide)
  constructor
  · exact take_four (by omega) (hread (by decide)) (hread (by decide)) (hread (by decide))
      (hread (by decide))
  · rw [h6]
    decide
  · have hfive : (0x05 : UInt8).toNat = 5 := rfl
    rw [h8, hfive]
    omega
  · left
    rw [h7, h8]
    exact ⟨by decide, by decide, hmarked⟩

/-- The packet that a video frame is built into. -/
theorem pesPacket_videoPes (dts pts : Nat) (pack : PackData) (t : RtmpTots) (m : Mem) :
    PesPacket 0xe0
      ((videoPes dts pts pack t m).pesBuf.slice 0 (videoPes dts pts pack t m).pesLen) := by
  have hlen : 19 ≤ ((videoPes dts pts pack t m).pesBuf.slice 0
      (videoPes dts pts pack t m).pesLen).length := by
    rw [Mem.length_slice]
    unfold videoPes
    split
    · dsimp only
      omega
    · dsimp only
      omega
  obtain ⟨⟨hptsMarked, -⟩, hdtsMarked, -⟩ := stamps_videoPes dts pts pack t m rfl
  have hread {i : Nat} (h : i < 19) := videoPes_header dts pts pack t m h
  generalize (videoPes dts pts pack t m).pesBuf.slice 0 (videoPes dts pts pack t m).pesLen = pes
    at *
  have h6 : pes.getD 6 0 = 0x80 := hread (by decide)
  have h7 : pes.getD 7 0 = 0xc0 := hread (by decide)
  have h8 : pes.getD 8 0 = 0x0a := hread (by decide)
  constructor
  · exact take_four (by omega) (hread (by decide)) (hread (by decide)) (hread (by decide))
      (hread (by decide))
  · rw [h6]
    decide
  · have hten : (0x0a : UInt8).toNat = 10 := rfl
    rw [h8, hten]
    exact hlen
  · right
    rw [h7, h8]
    exact ⟨by decide, by decide, hptsMarked, hdtsMarked⟩

/-- What a call builds is a unit of the stream of its frame. -/
theorem isTsUnit_built {call : Call} {pid : Nat} (hpid : pidOf call.pack.type = some pid)
    (t : RtmpTots) :
    IsTsUnit pid ((call.built t).pesBuf.slice 0 (call.built t).pesLen) := by
  rcases pidOf_cases hpid with ⟨htype, rfl⟩ | ⟨htype, rfl⟩
  · rw [call.built_h264 htype]
    exact .video (pesPacket_videoPes _ _ _ _ _)
  · have hbuilt : call.built t = audioPes (call.pts t) call.pack (call.noted t) call.mem := by
      rw [Call.built, htype]
    rw [hbuilt]
    exact .audio (pesPacket_audioPes _ _ _ _)

/-! ### Calls -/

/-- A fresh muxer has announced nothing. -/
theorem announces_rtmpTots (pesBuf : Mem) (tsFp : Bool) (now : Nat) :
    Announces (rtmpTots pesBuf tsFp now) [] where
  muxed := muxed_rtmpTots pesBuf tsFp now
  program := .nil
  first := fun _ ↦ rfl

/-- A call goes on with the program. -/
theorem Announces.call {t t' : RtmpTots} {ps : List (List UInt8)} (h : Announces t ps)
    {call : Call} {ret : Int} (hresult : call.result t = .ok (ret, t')) :
    ∃ qs, Announces t' (ps ++ qs) := by
  have hstep := h.muxed.stepped call
  rw [hresult] at hstep
  cases hstep with
  | silent _ hsame _ =>
    refine ⟨[], ?_⟩
    rw [List.append_nil]
    exact ⟨h.muxed.sameStage hsame, h.program, fun hps ↦ hsame.frameNum.trans (h.first hps)⟩
  | @emitted pid hpid hfits hfp =>
    have hsame := call.sameStage_built t
    have hkinds := (pidOf_cases hpid).imp And.right And.right
    have hmuxed := (h.muxed.sameStage hsame).afterStage hkinds call.now (call.pts t) call.pack
    have hcarries : Carries pid true (framePackets (call.pts t) pid (call.built t)) _ :=
      pesPackets_carries hkinds _ _ _
    have hframe := framePackets_ne_nil (call.pts t) pid
      (call.pesLen_built t hpid hfits.2).1
    refine ⟨_, hmuxed, .sent h.program ?_ ?_ hcarries hframe (isTsUnit_built hpid t), ?_⟩
    · unfold frontTables
      split
      · exact Or.inr ⟨_, rfl⟩
      · exact Or.inl rfl
    · intro hps
      have hwants : wantsTables call.now call.pack (call.built t) = true := by
        simp [wantsTables, hsame.frameNum, h.first hps]
      rw [frontTables, if_pos hwants]
      exact List.cons_ne_nil _ _
    · intro hnil
      simp [hframe] at hnil

/-- A reader finds the program in what has been announced. -/
theorem Announces.programOf {t : RtmpTots} {ps : List (List UInt8)} (h : Announces t ps)
    (hne : ps ≠ []) : programOf ps = some tsProgram := by
  obtain ⟨tables, rest, htables, rfl⟩ := h.program.tables_first hne
  exact programOf_append (programOf_tables htables) rest

/-- The association table and the map table come first. -/
theorem Announces.first_pids {t : RtmpTots} {ps : List (List UInt8)} (h : Announces t ps)
    (hne : ps ≠ []) : (ps.take 2).map packetPid = [0, 0x100] := by
  obtain ⟨tables, rest, ⟨n, rfl⟩, rfl⟩ := h.program.tables_first hne
  have hlen : patTable.length ≤ 179 ∧ pmtTable.length ≤ 179 := by decide
  have hpat := (tablePacket_read 0x40 n hlen.1).2.1
  have hpmt := (tablePacket_read 0x41 n hlen.2).2.1
  change [packetPid (tablePacket 0x40 n patTable), packetPid (tablePacket 0x41 n pmtTable)] = _
  rw [hpat, hpmt]
  rfl

/-- Every packet of what has been announced is that of a table, which can be read, or of one of the
two streams. -/
theorem Announces.packet_cases {t : RtmpTots} {ps : List (List UInt8)} (h : Announces t ps)
    {p : List UInt8} (hp : p ∈ ps) :
    (packetPid p = 0 ∧ readTable associations p = some [(1, 0x100)] ∨
      packetPid p = 0x100 ∧ readTable programMap p = some tsProgram) ∨
    packetPid p = videoPid ∨ packetPid p = audioPid := by
  rcases h.program.packet_cases p hp with ⟨tables, htables, hp⟩ | ⟨unit, hunit⟩
  · exact Or.inl (readTable_tables htables hp)
  · right
    generalize packetPid p = pid at hunit
    cases hunit with
    | video _ => exact Or.inl rfl
    | audio _ => exact Or.inr rfl

/-- Every table packet of what has been announced can be read. -/
theorem Announces.tables_read {t : RtmpTots} {ps : List (List UInt8)} (h : Announces t ps)
    {p : List UInt8} (hp : p ∈ ps) :
    (packetPid p = 0 → readTable associations p = some [(1, 0x100)]) ∧
      (packetPid p = 0x100 → readTable programMap p = some tsProgram) := by
  rcases h.packet_cases hp with (⟨hpid, hread⟩ | ⟨hpid, hread⟩) | hpid | hpid
  · exact ⟨fun _ ↦ hread, fun hmap ↦ absurd (hpid.symm.trans hmap) (by decide)⟩
  · exact ⟨fun hassociation ↦ absurd (hpid.symm.trans hassociation) (by decide), fun _ ↦ hread⟩
  all_goals
    rw [hpid]
    exact ⟨fun h ↦ absurd h (by decide), fun h ↦ absurd h (by decide)⟩

/-- The packet identifiers of what has been announced. -/
theorem Announces.pids {t : RtmpTots} {ps : List (List UInt8)} (h : Announces t ps) :
    ∀ p ∈ ps, packetPid p ∈ [0, 0x100, videoPid, audioPid] := by
  intro p hp
  rcases h.packet_cases hp with (⟨hpid, -⟩ | ⟨hpid, -⟩) | hpid | hpid
  all_goals
    rw [hpid]
    decide

/-! ### The stream -/

/-- Bytes that are a transport stream with the program of the muxer, as far as it has begun: whole
packets of the two tables and the two streams, whose counters go on, where both tables come first,
each table packet holds a section with a right checksum that names the program, and every unit of a
stream is an elementary packet. -/
structure TsProgram (bytes : List UInt8) : Prop where
  whole : bytes = (packets bytes).flatten
  wellFormed : ∀ p ∈ packets bytes, WellFormedPacket p
  pids : ∀ p ∈ packets bytes, packetPid p ∈ [0, 0x100, videoPid, audioPid]
  counters : ∀ pid, (streamOf pid (packets bytes)).IsChain fun p q ↦
    packetCounter q = (packetCounter p + 1) % 16
  tables_first : packets bytes ≠ [] → ((packets bytes).take 2).map packetPid = [0, 0x100]
  announced : packets bytes ≠ [] → programOf (packets bytes) = some tsProgram
  pat : ∀ p ∈ packets bytes, packetPid p = 0 → readTable associations p = some [(1, 0x100)]
  pmt : ∀ p ∈ packets bytes, packetPid p = 0x100 → readTable programMap p = some tsProgram
  video : ∀ pes ∈ unitsOf videoPid (packets bytes), PesPacket 0xe0 pes
  audio : ∀ pes ∈ unitsOf audioPid (packets bytes), PesPacket 0xc0 pes

/-- What a muxer has emitted is such a stream. -/
theorem Announces.tsProgram {t : RtmpTots} {ps : List (List UInt8)} (h : Announces t ps) :
    TsProgram t.output.emitted := by
  have hpackets := h.muxed.packets
  have htables {pid : Nat} (hpid : pid = videoPid ∨ pid = audioPid) (tables : List (List UInt8))
      (h : IsTables tables) : ∀ p ∈ tables, packetPid p ≠ pid :=
    isTables_other (Or.inr h) hpid
  constructor
  · rw [hpackets]
    exact h.muxed.emitted
  · rw [hpackets]
    exact h.muxed.wellFormed
  · rw [hpackets]
    exact h.pids
  · intro pid
    rw [hpackets]
    by_cases hpid : pid ∈ [0, 0x100, videoPid, audioPid]
    · simp only [List.mem_cons, List.not_mem_nil, or_false] at hpid
      rcases hpid with rfl | rfl | rfl | rfl
      · exact h.muxed.pat.1.isChain
      · exact h.muxed.pmt.1.isChain
      · exact h.muxed.video.1.isChain
      · exact h.muxed.audio.1.isChain
    · have hnone : streamOf pid ps = [] := by
        apply streamOf_other
        rintro p hp rfl
        exact hpid (h.pids p hp)
      rw [hnone]
      exact List.IsChain.nil
  · rw [hpackets]
    exact h.first_pids
  · rw [hpackets]
    exact h.programOf
  · rw [hpackets]
    exact fun p hp ↦ (h.tables_read hp).1
  · rw [hpackets]
    exact fun p hp ↦ (h.tables_read hp).2
  · rw [hpackets]
    intro pes hpes
    have hunit := h.program.units (htables (Or.inl rfl)) pes hpes
    generalize hpid : videoPid = pid at hunit
    cases hunit with
    | video h => exact h
    | audio h => exact absurd hpid (by decide)
  · rw [hpackets]
    intro pes hpes
    have hunit := h.program.units (htables (Or.inr rfl)) pes hpes
    generalize hpid : audioPid = pid at hunit
    cases hunit with
    | video h => exact absurd hpid (by decide)
    | audio h => exact h

/-- The file holds all packets but those behind the last group of seven. -/
theorem Announces.file {t : RtmpTots} {ps : List (List UInt8)} (h : Announces t ps) :
    t.file.flatten = ((packets t.output.emitted).take
      (7 * ((packets t.output.emitted).length / 7))).flatten := by
  have hsplit : t.file.flatten ++ t.tsCache.slice 0 t.tsCacheLen =
      (ps.take (7 * (ps.length / 7))).flatten ++ (ps.drop (7 * (ps.length / 7))).flatten := by
    rw [← List.flatten_append, List.take_append_drop]
    exact h.muxed.emitted
  have hlen : (ps.drop (7 * (ps.length / 7))).flatten.length =
      (ps.length - 7 * (ps.length / 7)) * packetSize := by
    rw [List.length_flatten, List.map_congr_left fun p hp ↦
      (h.muxed.wellFormed p (List.mem_of_mem_drop hp)).length, List.map_const', List.length_drop,
      List.sum_replicate_nat]
  rw [h.muxed.packets]
  refine (List.append_inj' hsplit ?_).1
  rw [Mem.length_slice, h.muxed.cached, hlen]
  have hmod : ps.length - 7 * (ps.length / 7) = ps.length % 7 := by omega
  rw [hmod]
  rfl

end RtmpRecv.Tots
