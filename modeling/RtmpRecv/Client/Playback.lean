import RtmpRecv.Client.Deliveries
import RtmpRecv.Client.Remux
import RtmpRecv.Wire.Playback

/-!
# From the server to the player

Library `Client`. A server sends a presentation, and a player reads the transport stream that the
client has made of it. The player gets the frames of the presentation that have arrived: their
units, their raw bytes and their times.
-/

namespace RtmpRecv.Client
open RtmpRecv.Base RtmpRecv.Tots RtmpRecv.Wire

/-! ### What a player should get -/

/-- The parameter sets in front of a frame. -/
def Remuxer.parameterSets (r : Remuxer) (f : AvcAccessUnit) : List (List UInt8) :=
  if f.frameType = keyType then r.header.elim [] fun h ↦ [h.sps, h.pps] else []

/-- The delimiter in front of a frame, unless that is no key frame and begins with one. -/
def delimiterUnits (f : AvcAccessUnit) : List (List UInt8) :=
  if f.frameType = keyType ∨ f.first.getD 0 0 ≠ 0x09 then [[0x09, 0x10]] else []

/-- The sample of an AVC frame. -/
def Remuxer.avcSample (r : Remuxer) (time : Nat) : MediaItem → Option AvcSample
  | .avcFrame f => some
      { pts := (time + shownAfter f.time) % 4294967296 * 90 % 8589934592
        dts := time * 90 % 8589934592
        units := delimiterUnits f ++ r.parameterSets f ++ f.units }
  | _ => none

/-- The sample of an AAC frame behind a video frame of the time `lastVideo`. -/
def Remuxer.aacSample (r : Remuxer) (lastVideo time : Nat) : MediaItem → Option AacSample
  | .aacFrame a => r.config.map fun config ↦
      { pts := audioPictureMs time lastVideo * 90 % 8589934592
        header := config.header a.raw.length
        raw := a.raw }
  | _ => none

/-- The time of the last video frame behind an item. -/
def lastVideoAfter (lastVideo time : Nat) : MediaItem → Nat
  | .avcFrame f => (time + shownAfter f.time) % 4294967296
  | _ => lastVideo

/-- The samples of the AVC frames of a presentation. -/
def Remuxer.avcSamples (r : Remuxer) : List (Nat × MediaItem) → List AvcSample
  | [] => []
  | (time, item) :: rest => (r.avcSample time item).toList ++ (r.next item).avcSamples rest

/-- The samples of the AAC frames of a presentation. -/
def Remuxer.aacSamples (r : Remuxer) (lastVideo : Nat) : List (Nat × MediaItem) → List AacSample
  | [] => []
  | (time, item) :: rest => (r.aacSample lastVideo time item).toList ++
      (r.next item).aacSamples (lastVideoAfter lastVideo time item) rest

/-- An item that a player can read: its units are NAL units, the client has room for an AVC frame
behind start codes, and an AAC frame has a length of thirteen bits. -/
def Playable (r : Remuxer) : MediaItem → Prop
  | .avcHeader h => NalUnit h.sps ∧ NalUnit h.pps
  | .avcFrame f => (∀ unit ∈ f.units, NalUnit unit) ∧
    (startCoded (r.parameterSets f ++ f.units)).length ≤ esLimit .h264
  | .aacFrame a => a.raw.length + 7 < 8192
  | _ => True

/-- Every item of a presentation can be played. -/
def Remuxer.AllPlayable (r : Remuxer) (items : List (Nat × MediaItem)) : Prop :=
  r.Along Client.Playable items

/-- The sequence headers that a remuxer holds can be played. -/
structure Remuxer.Playable (r : Remuxer) : Prop where
  header : ∀ h ∈ r.header, NalUnit h.sps ∧ NalUnit h.pps
  config : ∀ config ∈ r.config, config.Framed ∧ config.frequencyIndex < 16

theorem Remuxer.playable_fresh : Remuxer.fresh.Playable := ⟨nofun, nofun⟩

theorem Remuxer.Playable.next {r : Remuxer} (h : r.Playable) {item : MediaItem}
    (hitem : Client.Playable r item) : (r.next item).Playable := by
  cases item with
  | avcHeader header =>
    refine ⟨?_, h.config⟩
    rintro other hother
    cases hother
    exact hitem
  | aacConfig a =>
    refine ⟨h.header, ?_⟩
    rintro config hconfig
    cases hconfig
    have h0 := a.b0.toNat_lt
    have h1 := a.b1.toNat_lt
    refine ⟨a.framed, ?_⟩
    simp only [AacConfig.config, AudioConfig.ofBytes]
    omega
  | avcFrame f => exact h
  | aacFrame a => exact h
  | other => exact h

/-! ### Reading a frame -/

private theorem nalUnit_delimiter : NalUnit [0x09, 0x10] := by decide

section

variable {r : Remuxer}

private theorem nalUnits_front (h : r.Playable) (f : AvcAccessUnit) :
    ∀ unit ∈ delimiterUnits f ++ r.parameterSets f, NalUnit unit := by
  rw [List.forall_mem_append]
  constructor
  · unfold delimiterUnits
    split
    · rintro unit hunit
      rw [List.mem_singleton.1 hunit]
      exact nalUnit_delimiter
    · nofun
  · unfold Remuxer.parameterSets
    split
    · cases hheader : r.header with
      | none => nofun
      | some header =>
        obtain ⟨hsps, hpps⟩ := h.header header hheader
        rintro unit hunit
        simp only [Option.elim_some, List.mem_cons, List.not_mem_nil, or_false] at hunit
        rcases hunit with rfl | rfl
        · exact hsps
        · exact hpps
    · nofun

/-- A time has 33 bits in the transport stream. -/
private theorem stamp_mod (ms : Nat) :
    ms * 90 % 18446744073709551616 % 8589934592 = ms * 90 % 8589934592 :=
  Nat.mod_mod_of_dvd _ (by decide)

/-- A player reads the sample of an AVC frame. -/
private theorem readAvc_frame (h : r.Playable) {f : AvcAccessUnit}
    (hunits : ∀ unit ∈ f.units, NalUnit unit) (time lastVideo : Nat) {frame : Frame}
    (hframe : r.frame time (.avcFrame f) = some frame) :
    readAvc (frame.pes lastVideo) =
      { pts := (time + shownAfter f.time) % 4294967296 * 90 % 8589934592
        dts := time * 90 % 8589934592
        units := delimiterUnits f ++ r.parameterSets f ++ f.units } := by
  cases hframe
  obtain ⟨hpts, hdts, hpayload⟩ := videoPesHeader_read
    ((time + shownAfter f.time) % 4294967296 * 90 % 18446744073709551616)
    (time * 90 % 18446744073709551616)
    (startCoded (delimiterUnits f ++ r.parameterSets f ++ f.units))
  have hbytes : (if decide (f.frameType = keyType ∨ f.first.getD 0 0 ≠ 0x09) = true then unitStart
        else []) ++ (startCoded (r.parameterSets f) ++ startCoded f.units) =
      startCoded (delimiterUnits f ++ r.parameterSets f ++ f.units) := by
    rw [startCoded_append, startCoded_append, List.append_assoc]
    congr 1
    unfold delimiterUnits
    simp only [decide_eq_true_eq]
    split
    · rfl
    · rfl
  have hnal : ∀ unit ∈ delimiterUnits f ++ r.parameterSets f ++ f.units, NalUnit unit :=
    List.forall_mem_append.2 ⟨nalUnits_front h f, hunits⟩
  rw [← hbytes] at hpts hdts hpayload
  ext1
  · exact hpts.trans (stamp_mod _)
  · exact hdts.trans (stamp_mod _)
  · refine (congrArg annexB hpayload).trans ?_
    rw [hbytes]
    exact annexB_startCoded hnal

/-- A player reads the sample of an AAC frame. -/
private theorem readAac_frame (h : r.Playable) {a : AacFrame} (ha : a.raw.length + 7 < 8192)
    (time lastVideo : Nat) {frame : Frame} (hframe : r.frame time (.aacFrame a) = some frame) :
    r.aacSample lastVideo time (.aacFrame a) = some (readAac (frame.pes lastVideo)) := by
  obtain ⟨config, hconfig, hmade⟩ := Option.map_eq_some_iff.1 hframe
  subst hmade
  obtain ⟨hframed, hindex⟩ := h.config config hconfig
  obtain ⟨hpts, hpayload⟩ := audioPesHeader_read
    ((config.header a.raw.length).bytes ++ a.raw).length
    (audioPictureMs time lastVideo * 90 % 18446744073709551616)
    ((config.header a.raw.length).bytes ++ a.raw)
  unfold Remuxer.aacSample
  dsimp only
  rw [hconfig, Option.map_some]
  congr 1
  ext1
  · exact ((hpts.trans (stamp_mod _))).symm
  · refine Eq.symm ((congrArg adtsHeader hpayload).trans ?_)
    exact adtsHeader_bytes (AudioConfig.header_fits hframed hindex ha) a.raw
  · exact (congrArg (List.drop 7) hpayload).symm

/-! ### What a muxer holds for a player -/

variable {m : Muxer}

/-- What a player reads behind the frame of an item. -/
private theorem read_frame (h : r.Playable) (hopen : m.fileOpen = true) {item : MediaItem}
    (hitem : Playable r item) (hready : r.Ready item) (time : Nat) {m' : Muxer}
    (hm : m' = (r.frame time item).toList.foldl Muxer.take m) :
    m'.fileOpen = true ∧ m'.lastVideo = lastVideoAfter m.lastVideo time item ∧
      m'.video.map readAvc = m.video.map readAvc ++ (r.avcSample time item).toList ∧
      m'.audio.map readAac =
        m.audio.map readAac ++ (r.aacSample m.lastVideo time item).toList := by
  have hsilent (hframe : r.frame time item = none) (havc : r.avcSample time item = none)
      (haac : r.aacSample m.lastVideo time item = none)
      (hlast : lastVideoAfter m.lastVideo time item = m.lastVideo) :
      m'.fileOpen = true ∧ m'.lastVideo = lastVideoAfter m.lastVideo time item ∧
        m'.video.map readAvc = m.video.map readAvc ++ (r.avcSample time item).toList ∧
        m'.audio.map readAac =
          m.audio.map readAac ++ (r.aacSample m.lastVideo time item).toList := by
    rw [hm, hframe, havc, haac, hlast]
    exact ⟨hopen, rfl, (List.append_nil _).symm, (List.append_nil _).symm⟩
  cases item with
  | avcHeader header => exact hsilent rfl rfl rfl rfl
  | aacConfig a => exact hsilent rfl rfl rfl rfl
  | other => exact hsilent rfl rfl rfl rfl
  | avcFrame f =>
    obtain ⟨frame, hframe⟩ : ∃ frame, r.frame time (.avcFrame f) = some frame := ⟨_, rfl⟩
    have hread := readAvc_frame h hitem.1 time m.lastVideo hframe
    have htype : frame.type = .h264 := by
      cases hframe
      rfl
    have htime : frame.pictureMs = (time + shownAfter f.time) % 4294967296 := by
      cases hframe
      rfl
    have hbytes : frame.bytes = startCoded (r.parameterSets f ++ f.units) := by
      cases hframe
      exact (startCoded_append _ _).symm
    have hshort : frame.Short := by
      unfold Frame.Short
      rw [hbytes, htype]
      exact hitem.2
    rw [hframe] at hm
    change m' = m.take frame at hm
    rw [hm]
    refine ⟨hopen, ?_, ?_, ?_⟩
    · change (if frame.type = .h264 then frame.pictureMs else m.lastVideo) = _
      rw [if_pos htype, htime]
      rfl
    · simp [Muxer.take, Remuxer.avcSample, hopen, htype, hshort, hread]
    · simp [Muxer.take, Remuxer.aacSample, htype]
  | aacFrame a =>
    obtain ⟨config, hconfig⟩ := Option.isSome_iff_exists.1 hready
    obtain ⟨frame, hframe⟩ : ∃ frame, r.frame time (.aacFrame a) = some frame := by
      unfold Remuxer.frame
      dsimp only
      rw [hconfig]
      exact ⟨_, rfl⟩
    have hread := readAac_frame h hitem time m.lastVideo hframe
    have htype : frame.type = .aac := by
      obtain ⟨config, -, hmade⟩ := Option.map_eq_some_iff.1 hframe
      rw [← hmade]
    have hshort : frame.Short := by
      obtain ⟨config, -, hmade⟩ := Option.map_eq_some_iff.1 hframe
      have hlimit : esLimit .aac = 4195314 := rfl
      have hlen : frame.bytes.length = a.raw.length + 7 := by
        rw [← hmade, List.length_append, AdtsHeader.length_bytes, Nat.add_comm]
      change a.raw.length + 7 < 8192 at hitem
      unfold Frame.Short
      rw [htype, hlen, hlimit]
      omega
    rw [hframe] at hm
    change m' = m.take frame at hm
    rw [hm, hread]
    refine ⟨hopen, ?_, ?_, ?_⟩
    · simp [Muxer.take, htype, lastVideoAfter]
    · simp [Muxer.take, htype, Remuxer.avcSample]
    · simp [Muxer.take, hopen, htype, hshort]

/-- What a player reads behind the frames of a presentation. -/
theorem read_frames (h : r.Playable) (hopen : m.fileOpen = true) {items : List (Nat × MediaItem)}
    (hitems : r.AllPlayable items) (hready : r.AllReady items) {m' : Muxer}
    (hm : m' = (r.frames items).foldl Muxer.take m) :
    m'.video.map readAvc = m.video.map readAvc ++ r.avcSamples items ∧
      m'.audio.map readAac = m.audio.map readAac ++ r.aacSamples m.lastVideo items := by
  induction items generalizing r m with
  | nil =>
    rw [hm]
    constructor
    · exact (List.append_nil _).symm
    · exact (List.append_nil _).symm
  | cons timed items ih =>
    obtain ⟨time, item⟩ := timed
    obtain ⟨hitem, hitems⟩ := hitems
    obtain ⟨hfirst, hrest⟩ := hready
    rw [Remuxer.frames, List.foldl_append] at hm
    obtain ⟨hopen', hlast, hvideo, haudio⟩ := read_frame h hopen hitem hfirst time rfl
    obtain ⟨hvideo', haudio'⟩ := ih (h.next hitem) hopen' hitems hrest hm
    rw [hvideo', haudio', hvideo, haudio, hlast, List.append_assoc, List.append_assoc]
    exact ⟨rfl, rfl⟩

end

/-! ### Runs -/

/-- The message of the server is an item of a presentation. -/
def Presents (d : Delivery) (timed : Nat × MediaItem) : Prop :=
  d.timestamp = timed.1 ∧ timed.2.Is d.message.type.toNat d.message.body

/-- A message that matches the server's carries its item. -/
theorem Presents.carries {d : Delivery} {timed : Nat × MediaItem} (h : Presents d timed)
    {due : Prop} (ht : due) {m : RtmpMessage} (hm : Matches due d m) : Carries m timed := by
  unfold Carries
  rw [hm.time ht, hm.type, hm.body]
  exact h

theorem carries_of_matches {due : Prop} (ht : due) {ds : List Delivery} {msgs : List RtmpMessage}
    (hm : List.Forall₂ (Matches due) ds msgs) {items : List (Nat × MediaItem)}
    (h : List.Forall₂ Presents ds items) : List.Forall₂ Carries msgs items := by
  induction hm generalizing items with
  | nil =>
    cases h
    exact .nil
  | cons hmatch _ ih =>
    cases h with
    | cons hfirst hrest => exact .cons (hfirst.carries ht hmatch) (ih hrest)

/-- Behind `data`, a player reads the items `taken` in the transport stream; while the loop runs,
these are all items whose chunks have arrived. -/
structure Plays (s₀ : Sender) (chunks : List Wire.Chunk) (data : List UInt8) (s : RecvState)
    (taken : List (Nat × MediaItem)) : Prop where
  video : (unitsOf videoPid (packets s.client.rtmpSavetots.output.emitted)).map readAvc =
    Remuxer.fresh.avcSamples taken
  audio : (unitsOf audioPid (packets s.client.rtmpSavetots.output.emitted)).map readAac =
    Remuxer.fresh.aacSamples 0 taken
  arrived : s.running = true → s.client.rtmpStatus ≠ .sendC0C1 →
    ∀ front behind, chunks = front ++ behind → 3073 + (s₀.stream front).length ≤ data.length →
      (s₀.deliveries front).length ≤ taken.length

/-- Chunks that have arrived have been read. -/
private theorem length_deliveries_le {s₀ : Sender} {done rest front behind : List Wire.Chunk}
    (hsplit : done ++ rest = front ++ behind) {n : Nat}
    (hmissing : ∀ chunk ∈ rest.head?, n < 3073 + (s₀.stream (done ++ [chunk])).length)
    (hfront : 3073 + (s₀.stream front).length ≤ n) :
    (s₀.deliveries front).length ≤ (s₀.deliveries done).length := by
  rcases List.append_eq_append_iff.1 hsplit with ⟨more, hmore, hrest⟩ | ⟨more, hmore, -⟩
  · cases more with
    | nil => exact Nat.le_of_eq (by rw [hmore, List.append_nil])
    | cons chunk more =>
      have hnext := hmissing chunk (by rw [hrest]; rfl)
      have hlong : (s₀.stream front).length =
          (s₀.stream (done ++ [chunk])).length +
            ((s₀.after (done ++ [chunk])).stream more).length := by
        rw [← List.length_append, ← Sender.stream_append, List.append_assoc, hmore]
        rfl
      omega
  · rw [hmore, Sender.deliveries_append, List.length_append]
    omega

section

variable (u : RtmpClient) (h : (rtmpStartPlay (rtmpClient u)).1 = 0)
  (hfile : u.rtmpSavetots.tsFp = true) (rtmpUrl rtmpApp rtmpStream : List UInt8) (mPBuffer : Mem)
  {latest : UInt8 → Nat}
  (hl : latest 8 = u.rtmpLastAudioTimestamp ∧ latest 9 = u.rtmpLastVideoTimestamp)
  {chunks : List Wire.Chunk} (hw : (Sender.init 128 latest).Along Sender.WellFormed chunks)
  (hp : (Sender.init 128 latest).Along Parsable chunks)
  (ht : (Sender.init 128 latest).Along InTime chunks) {items : List (Nat × MediaItem)}
  (hitems : List.Forall₂ Presents ((Sender.init 128 latest).deliveries chunks) items)
  (hplayable : Remuxer.fresh.AllPlayable items) (hready : Remuxer.fresh.AllReady items)
  {greeting : List UInt8} (hgreeting : greeting.length = 3073) (segments : List (List UInt8))
  (hsent : segments.flatten <+: greeting ++ (Sender.init 128 latest).stream chunks)
  (hcut : Uncut chunks (recvRun (rtmpRecvData (playing u rtmpUrl rtmpApp rtmpStream) mPBuffer)
    segments).calls)

include h hfile hl hw hp ht hitems hplayable hready hgreeting hsent hcut

end

/-- Both sequence headers, a frame and an AAC frame. -/
def smallItems : List (Nat × MediaItem) :=
  [(0, .avcHeader smallHeader), (0, .aacConfig ⟨Fin.last 15, 0x12, 0x10, [], by decide⟩),
    (40, .avcFrame plainUnit), (45, .aacFrame ⟨Fin.last 15, [0x21, 0x10]⟩)]

theorem allPlayable_small : Remuxer.fresh.AllPlayable smallItems := by
  have hheader : NalUnit smallHeader.sps ∧ NalUnit smallHeader.pps := by decide
  have hraw : ([0x21, 0x10] : List UInt8).length + 7 < 8192 := by decide
  exact ⟨hheader, trivial, ⟨by decide, by decide⟩, hraw, trivial⟩

/-- A chunk for each of these items. -/
def smallChunks : List Wire.Chunk :=
  [.start 6 (.fmt0 0 1) ⟨9, smallHeader.body⟩, .start 4 (.fmt0 0 1) ⟨8, [0xaf, 0, 0x12, 0x10]⟩,
    .start 6 (.fmt0 40 1) ⟨9, plainUnit.body⟩, .start 4 (.fmt0 45 1) ⟨8, [0xaf, 1, 0x21, 0x10]⟩]

end RtmpRecv.Client
