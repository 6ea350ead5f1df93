import RtmpRecv.Client.Delimiter
import RtmpRecv.Client.Separate
import RtmpRecv.Wire.Presentation

/-!
# Remuxing

Library `Client`. What the client is for: the frames of a presentation, message by message, become
frames of a transport stream. A remuxer holds the last sequence headers; the client does to its
muxer what the remuxer says, over all messages of a run.
-/

namespace RtmpRecv.Client
open RtmpRecv.Base RtmpRecv.Tots RtmpRecv.Wire

/-- The sequence headers that a presentation has shown. -/
structure Remuxer where
  header : Option AvcHeader
  config : Option AudioConfig

/-- Before the first sequence header. -/
def Remuxer.fresh : Remuxer := ⟨none, none⟩

/-- What is left of a composition time: more than a second is none at all. -/
def shownAfter (time : List UInt8) : Nat :=
  let composition := be24 (time.getD 0 0) (time.getD 1 0) (time.getD 2 0)
  if composition > 1000 then 0 else composition

/-- A frame as it goes into the transport stream: an AVC frame behind start codes, a key frame
behind the parameter sets, with a delimiter unless it begins with one; an AAC frame behind an ADTS
header. -/
def Remuxer.frame (r : Remuxer) (time : Nat) : MediaItem → Option Frame
  | .avcFrame f =>
    let head := if f.frameType = keyType then r.header.elim [] fun h ↦ [h.sps, h.pps] else []
    some
      { type := .h264, decodeMs := time, pictureMs := (time + shownAfter f.time) % 4294967296
        lacksDelimiter := f.frameType = keyType ∨ f.first.getD 0 0 ≠ 0x09
        bytes := startCoded head ++ startCoded f.units }
  | .aacFrame a => r.config.map fun config ↦
      { type := .aac, decodeMs := time, pictureMs := time, lacksDelimiter := false
        bytes := (config.header a.raw.length).bytes ++ a.raw }
  | _ => none

/-- The sequence headers behind a message. -/
def Remuxer.next (r : Remuxer) : MediaItem → Remuxer
  | .avcHeader h => { r with header := some h }
  | .aacConfig a => { r with config := some a.config }
  | _ => r

/-- A key frame has parameter sets, and an AAC frame a configuration. -/
def Remuxer.Ready (r : Remuxer) : MediaItem → Prop
  | .avcFrame f => f.frameType = keyType → r.header.isSome
  | .aacFrame _ => r.config.isSome
  | _ => True

/-- The frames of a presentation. -/
def Remuxer.frames (r : Remuxer) : List (Nat × MediaItem) → List Frame
  | [] => []
  | (time, item) :: rest => (r.frame time item).toList ++ (r.next item).frames rest

/-- Every item of a presentation meets `P` behind the sequence headers in front of it. -/
def Remuxer.Along (P : Remuxer → MediaItem → Prop) (r : Remuxer) : List (Nat × MediaItem) → Prop
  | [] => True
  | (_, item) :: rest => P r item ∧ (r.next item).Along P rest

theorem Remuxer.Along.left {P : Remuxer → MediaItem → Prop} {r : Remuxer}
    {items more : List (Nat × MediaItem)} (h : r.Along P (items ++ more)) : r.Along P items := by
  induction items generalizing r with
  | nil => trivial
  | cons timed items ih => exact ⟨h.1, ih h.2⟩

/-- Every frame of a presentation finds its sequence header. -/
def Remuxer.AllReady (r : Remuxer) (items : List (Nat × MediaItem)) : Prop :=
  r.Along Remuxer.Ready items

/-- The message carries an item of a presentation. -/
def Carries (m : RtmpMessage) (timed : Nat × MediaItem) : Prop :=
  m.timeStamp = timed.1 ∧ timed.2.Is m.messageType m.body

/-! ### The ADTS header -/

/-- The first bytes of the header of a configuration, with a zero length. -/
structure HeadWritten (config : AudioConfig) (head : Mem) : Prop where
  b0 : head 0 = 0xFF
  b1 : head 1 = 0xF1
  b2 : head 2 = UInt8.ofNat
    ((config.objectType - 1) * 64 + config.frequencyIndex * 4 + config.channels / 4)
  b3 : head 3 = UInt8.ofNat (config.channels % 4 * 64)
  b6 : head 6 = 0

private theorem adtsByte2 : ∀ b2 : Fin 256, ∀ p q : Fin 2,
    1 ≤ (b2 : Nat) / 8 → (b2 : Nat) / 8 ≤ 4 →
    (((((UInt8.ofNat b2 >>> 3) &&& 0x1F) - 1) &&& 0x03) <<< 6 |||
      ((((UInt8.ofNat b2 &&& 0x07) <<< 1) ||| UInt8.ofNat p) &&& 0x0F) <<< 2 |||
        UInt8.ofNat q) =
      UInt8.ofNat (((b2 : Nat) / 8 - 1) * 64 + ((b2 : Nat) % 8 * 2 + p) * 4 + q) := by
  decide +kernel

private theorem adtsByte3 : ∀ b3 : Fin 256,
    (UInt8.ofNat b3 >>> 7) &&& 0x01 = UInt8.ofNat ((b3 : Nat) / 128) ∧
      (((UInt8.ofNat b3 >>> 3) &&& 0x0F) >>> 2) &&& 0x01 = UInt8.ofNat ((b3 : Nat) / 32 % 2) ∧
      (((UInt8.ofNat b3 >>> 3) &&& 0x0F) &&& 0x03) <<< 6 =
        UInt8.ofNat ((b3 : Nat) / 8 % 4 * 64) := by
  decide +kernel

/-- A sequence header writes the header of its configuration. -/
theorem headWritten_adtsHead (head : Mem) {b0 b1 : UInt8} (h : (AudioConfig.ofBytes b0 b1).Framed) :
    HeadWritten (AudioConfig.ofBytes b0 b1) (head.memcpy 0 (adtsHead b0 b1)) := by
  have h0 := b0.toNat_lt
  have h1 := b1.toNat_lt
  obtain ⟨hlow, hhigh, hchannels⟩ := h
  simp only [AudioConfig.ofBytes] at hlow hhigh hchannels
  obtain ⟨htop, hbit, hlast⟩ := adtsByte3 ⟨b1.toNat, h1⟩
  have hbyte := adtsByte2 ⟨b0.toNat, h0⟩ ⟨b1.toNat / 128, by omega⟩ ⟨b1.toNat / 32 % 2, by omega⟩
    hlow hhigh
  simp only [UInt8.ofNat_toNat] at htop hbit hlast hbyte
  have hlen (i : Nat) (hi : i < 7) : i < (adtsHead b0 b1).length := hi
  have hread (i : Nat) (hi : i < 7) :
      head.memcpy 0 (adtsHead b0 b1) i = (adtsHead b0 b1).get ⟨i, hlen i hi⟩ := by
    have hcopy := Mem.memcpy_inside head 0 (adtsHead b0 b1) i hi
    rwa [Nat.zero_add] at hcopy
  have hchannel : b1.toNat / 8 % 16 / 4 = b1.toNat / 32 % 2 := by omega
  have hmod : b1.toNat / 8 % 16 % 4 = b1.toNat / 8 % 4 := by omega
  constructor
  · exact hread 0 (by decide)
  · exact hread 1 (by decide)
  · rw [hread 2 (by decide)]
    simp only [AudioConfig.ofBytes, hchannel]
    rw [← hbyte, ← htop, ← hbit]
    rfl
  · rw [hread 3 (by decide)]
    simp only [AudioConfig.ofBytes, hmod]
    rw [← hlast]
    rfl
  · exact hread 6 (by decide)

private theorem or_frameLength : ∀ a l : Fin 4,
    UInt8.ofNat ((a : Nat) * 64) ||| UInt8.ofNat l = UInt8.ofNat ((a : Nat) * 64 + l) := by
  decide

/-- With the length of a frame it is the header of the frame. -/
theorem HeadWritten.slice {config : AudioConfig} {head : Mem} (h : HeadWritten config head)
    (n : Nat) : (adtsLength head (n + 7)).slice 0 7 = (config.header n).bytes := by
  have hbytes : (adtsLength head (n + 7)).slice 0 7 =
      [head 0, head 1, head 2, head 3 ||| UInt8.ofNat ((n + 7) / 2048 % 4),
        UInt8.ofNat ((n + 7) / 8), UInt8.ofNat ((n + 7) % 8 * 32), head 6] := rfl
  have hor := or_frameLength ⟨config.channels % 4, by omega⟩ ⟨(n + 7) / 2048 % 4, by omega⟩
  dsimp only at hor
  rw [hbytes, h.b0, h.b1, h.b2, h.b3, h.b6, hor]
  simp [AudioConfig.header, AdtsHeader.bytes]

/-- A frame leaves the header as it was. -/
theorem HeadWritten.restored {config : AudioConfig} {head : Mem} (h : HeadWritten config head)
    (n : Nat) : HeadWritten config ((adtsLength head n).set 3 (head 3)) := by
  have hread (i : Nat) (hi : i < 4 ∨ 6 ≤ i) : (adtsLength head n).set 3 (head 3) i = head i := by
    by_cases h3 : i = 3
    · rw [h3, Mem.set_same]
    · unfold adtsLength
      rw [Mem.set_other _ _ _ _ h3, Mem.set_other _ _ _ _ (by omega),
        Mem.set_other _ _ _ _ (by omega), Mem.set_other _ _ _ _ h3]
  constructor
  · rw [hread 0 (by decide)]
    exact h.b0
  · rw [hread 1 (by decide)]
    exact h.b1
  · rw [hread 2 (by decide)]
    exact h.b2
  · rw [hread 3 (by decide)]
    exact h.b3
  · rw [hread 6 (by decide)]
    exact h.b6

/-! ### One message -/

/-- The client holds what the remuxer holds. -/
structure Holding (c : RtmpClient) (r : Remuxer) : Prop where
  producing : Producing c
  header : ∀ h ∈ r.header, c.videoHead = startCoded [h.sps, h.pps]
  config : ∀ config ∈ r.config, HeadWritten config c.audioHeadData ∧ c.audioHeadDataLen = 7

section

variable {c : RtmpClient} {r : Remuxer} {input : Input}

/-- The frame of a call goes to the muxer when 32 bits count its bytes. -/
theorem not_overruns {call : Call} (h : call.pack.headDataLen + call.pack.dataLen < 4294967296) :
    ¬call.Overruns := by
  rintro ⟨hsome, hes, hover⟩
  have hsum : esLen call.pack = call.pack.headDataLen + call.pack.dataLen := Nat.mod_eq_of_lt h
  rw [hsum] at hes
  have hbuf : packetPesBuf = 4195328 := rfl
  have haac : esLimit .aac = 4195314 := rfl
  have hvideo : esLimit .h264 = 4195303 := rfl
  unfold Call.offset at hover
  cases htype : call.pack.type with
  | unset =>
    rw [htype] at hsome
    cases hsome
  | mp3 =>
    rw [htype] at hsome
    cases hsome
  | aac =>
    rw [htype] at hes hover
    dsimp only at hover
    omega
  | h264 =>
    rw [htype] at hes hover
    dsimp only at hover
    split at hover
    · omega
    · omega

/-- The muxer of a producing client takes a frame that fits. -/
private theorem result_producing (hc : Producing c) {pack : PackData} {m : Mem}
    (hover : ¬(Call.mk 0 pack m).Overruns) :
    ∃ r, (Call.mk c.getMillisecond64.1 pack m).result c.rtmpSavetots = .ok r := by
  obtain ⟨ps, hmuxed⟩ := hc
  exact hmuxed.result_ok hover

/-- A client holds what another one with the same heads does. -/
theorem Holding.of_views {c' : RtmpClient} (h : Holding c r) (hc : Producing c')
    (hvideo : c'.videoHead = c.videoHead) (haudio : c'.audioHeadData = c.audioHeadData)
    (hlen : c'.audioHeadDataLen = c.audioHeadDataLen) : Holding c' r := by
  constructor
  · exact hc
  · rw [hvideo]
    exact h.header
  · rw [haudio, hlen]
    exact h.config

variable (input) in
/-- The memory of a message begins with its body. -/
theorem Input.mem_getD {i : Nat} (hi : i < input.message.body.length) :
    input.mem i = input.message.body.getD i 0 := by
  have hwindow := getD_window input.mem hi
  rw [input.holds] at hwindow
  exact hwindow.symm

variable (input) in
/-- The message, as the video handler is given it. -/
def Input.video : VideoInput where
  chunk := input.message.chunk
  body := input.message.body
  mem := input.mem
  holds := input.holds

/-- An AVC sequence header is stored. -/
theorem Holding.avcHeader (h : Holding c r) {header : AvcHeader}
    (htype : input.message.messageType = 9) (hbody : input.message.body = header.body) :
    Holding (c.serve input) { r with header := some header } ∧
      (c.serve input).rtmpSavetots.muxer = c.rtmpSavetots.muxer ∧ c.Takes input := by
  have hsps : ¬256 < header.sps.length := Nat.not_lt.2 header.sps_le
  have hpps : ¬256 < header.pps.length := Nat.not_lt.2 header.pps_le
  have hrecordBody : input.video.body = 0x17 :: 0x00 :: (header.time ++
      avcRecord header.profile header.sps header.count header.pps header.rest) := hbody
  have hprocessed : input.video.processed c = .ok (0, c.headStored header.sps header.pps) := by
    have hrecord := processed_avcRecord hrecordBody header.length_time header.length_profile
      (by omega) (by omega) c
    rwa [if_neg (not_or.2 ⟨hsps, hpps⟩), RtmpClient.withUnits, if_neg hsps, if_neg hpps] at hrecord
  have hserve : c.serve input = (c.headStored header.sps header.pps).application :=
    serve_ok ((handle_video c htype).trans hprocessed)
  have haudio := audioView_video h.producing htype
  refine ⟨?_, ?_, ⟨_, (handle_video c htype).trans hprocessed⟩⟩
  · constructor
    · exact h.producing.serve input
    · rintro other hother
      cases hother
      rw [hserve]
      exact videoHead_headStored c header.sps header.pps
    · have hhead : (c.serve input).audioHeadData = c.audioHeadData :=
        congrArg AudioView.head haudio
      have hlen : (c.serve input).audioHeadDataLen = c.audioHeadDataLen :=
        congrArg AudioView.headLen haudio
      rw [hhead, hlen]
      exact h.config
  · rw [hserve]
    exact congrArg RtmpTots.muxer (rtmpSavetots_headStored c header.sps header.pps)

/-- An AAC sequence header is written. -/
theorem Holding.aacConfig (h : Holding c r) {a : AacConfig}
    (htype : input.message.messageType = 8) (hbody : input.message.body = a.body) :
    Holding (c.serve input) { r with config := some a.config } ∧
      (c.serve input).rtmpSavetots.muxer = c.rtmpSavetots.muxer ∧ c.Takes input := by
  have hlen : 4 ≤ input.message.body.length := by
    rw [hbody]
    simp [AacConfig.body]
  have hread {i : Nat} (hi : i < 4) : input.mem i = a.body.getD i 0 := by
    rw [input.mem_getD (by omega), hbody]
  have htag : input.mem 0 >>> 4 = 10 := by
    rw [hread (by decide)]
    exact aacTag a.format
  have hrun : (rtmpProcessAudio c input.message.chunk input.message.body.length).run input.mem =
      (.ok (0, configured c input.mem), input.mem) :=
    run_audio_config htag (hread (by decide))
  have hserve : c.serve input = (configured c input.mem).application :=
    serve_ok ((handle_audio c htype).trans (congrArg Prod.fst hrun))
  have hvideo := videoView_audio h.producing htype
  refine ⟨?_, ?_, ⟨_, (handle_audio c htype).trans (congrArg Prod.fst hrun)⟩⟩
  · constructor
    · exact h.producing.serve input
    · have hhead : (c.serve input).videoHead = c.videoHead := by
        have hdata : (c.serve input).videoHeadData = c.videoHeadData :=
          congrArg VideoView.head hvideo
        have hcount : (c.serve input).videoHeadDataLen = c.videoHeadDataLen :=
          congrArg VideoView.headLen hvideo
        unfold RtmpClient.videoHead
        rw [hdata, hcount]
      rw [hhead]
      exact h.header
    · rintro config hconfig
      cases hconfig
      have hwritten := headWritten_adtsHead c.audioHeadData a.framed
      have h2 : input.mem 2 = a.b0 := hread (by decide)
      have h3 : input.mem 3 = a.b1 := hread (by decide)
      rw [← h2, ← h3] at hwritten
      rw [hserve]
      unfold AacConfig.config
      rw [← h2, ← h3]
      exact ⟨hwritten, rfl⟩
  · rw [hserve]
    rfl

/-- What the head of a key frame, or nothing, adds to a video frame. -/
private theorem headBytes_videoPack (h : Holding c r) (chunk : RtmpChunk) {m : Mem} (n : Nat)
    {f : AvcAccessUnit} (hkey : m 0 >>> 4 = 1 ↔ f.frameType = keyType)
    (hready : r.Ready (.avcFrame f)) :
    headBytes (videoPack c chunk m n) =
      startCoded
        (if f.frameType = keyType then r.header.elim [] fun h ↦ [h.sps, h.pps] else []) := by
  by_cases hframe : f.frameType = keyType
  · obtain ⟨header, hheader⟩ := Option.isSome_iff_exists.1 (hready hframe)
    have hhead := h.header header hheader
    simp [headBytes, videoPack, hkey.2 hframe, hframe, hheader, ← hhead, RtmpClient.videoHead]
  · have hother : ¬m 0 >>> 4 = 1 := fun hm ↦ hframe (hkey.1 hm)
    simp [headBytes, videoPack, hother, hframe, startCoded]

/-- The stored head is short. -/
private theorem headDataLen_holding (h : Holding c r) (chunk : RtmpChunk) {m : Mem} (n : Nat)
    {f : AvcAccessUnit} (hkey : m 0 >>> 4 = 1 ↔ f.frameType = keyType)
    (hready : r.Ready (.avcFrame f)) :
    (videoPack c chunk m n).headDataLen ≤ 520 := by
  by_cases hframe : f.frameType = keyType
  · obtain ⟨header, hheader⟩ := Option.isSome_iff_exists.1 (hready hframe)
    have hlen := congrArg List.length (h.header header hheader)
    have hsps := header.sps_le
    have hpps := header.pps_le
    simp [RtmpClient.videoHead, startCoded, startCode] at hlen
    simp [videoPack, hkey.2 hframe]
    omega
  · have hother : ¬m 0 >>> 4 = 1 := fun hm ↦ hframe (hkey.1 hm)
    simp [videoPack, hother]

/-- The test for a delimiter looks at the SPS of a key frame, and at the first unit of any other
frame. -/
private theorem lacks_videoPack (h : Holding c r) (chunk : RtmpChunk) {m m' : Mem} {n : Nat}
    {f : AvcAccessUnit} (hkey : m 0 >>> 4 = 1 ↔ f.frameType = keyType)
    (hready : r.Ready (.avcFrame f)) (hslice : m'.slice 5 n = startCoded f.units) :
    lacksDelimiterAt (startTypeOf (startBytes (videoPack c chunk m n) m'))
      (delimiterBytes (videoPack c chunk m n) m') =
        decide (f.frameType = keyType ∨ f.first.getD 0 0 ≠ 0x09) := by
  by_cases hframe : f.frameType = keyType
  · obtain ⟨header, hheader⟩ := Option.isSome_iff_exists.1 (hready hframe)
    have hhead := h.header header hheader
    obtain ⟨htype, hread⟩ := startCoded_start hhead
    have hfirst := hread 0 header.sps_pos
    have hpos : 0 < c.videoHeadDataLen := by
      have hlen := congrArg List.length hhead
      simp [RtmpClient.videoHead, startCoded, startCode] at hlen
      omega
    simpa [startBytes, delimiterBytes, videoPack, hkey.2 hframe, hpos, htype, lacksDelimiterAt,
      hfirst, hframe] using header.sps_first
  · have hother : ¬m 0 >>> 4 = 1 := fun hm ↦ hframe (hkey.1 hm)
    have hdata : (m'.shift 5).slice 0 n = startCoded (f.first :: f.units.tail) := by
      rw [Mem.slice_shift, hslice, ← f.units_eq]
    obtain ⟨htype, hread⟩ := startCoded_start hdata
    have hne : f.first ≠ [] := f.unit_ne f.first (by rw [f.units_eq]; exact List.mem_cons_self)
    have hfirst := hread 0 (List.length_pos_of_ne_nil hne)
    have hbne (b : UInt8) : (b != 9) = !decide (b = 9) := rfl
    simp [startBytes, delimiterBytes, videoPack, hother, htype, lacksDelimiterAt, hfirst, hframe,
      hbne]

/-- An AVC frame is handed to the muxer. -/
theorem Holding.avcFrame (h : Holding c r) {f : AvcAccessUnit}
    (htype : input.message.messageType = 9) (hbody : input.message.body = f.body)
    (hready : r.Ready (.avcFrame f)) :
    Holding (c.serve input) r ∧
      (c.serve input).rtmpSavetots.muxer =
        (r.frame input.message.timeStamp (.avcFrame f)).toList.foldl Muxer.take
          c.rtmpSavetots.muxer ∧ c.Takes input := by
  have hshort := input.short
  have hframeBody : input.video.body = frameBody f.frameType f.time f.units := hbody
  obtain ⟨m', hrun, hslice, hkey⟩ := videoFrame_frameBody hframeBody f.length_time f.unit_ne
    (by change input.message.body.length < _; omega) c
  change input.mem 0 >>> 4 = 1 ↔ f.frameType = keyType at hkey
  have hserve := serve_videoFrame htype hrun
  have hlen : input.message.body.length = 5 + (lengthPrefixed f.units).length := by
    rw [hbody]
    exact length_frameBody f.frameType f.length_time f.units
  have htime (i : Nat) (hi : i < 3) : input.mem (2 + i) = f.time.getD i 0 := by
    have htimeLen := f.length_time
    rw [input.mem_getD (by omega), hbody, Nat.add_comm 2 i]
    change (f.time ++ lengthPrefixed f.units).getD i 0 = _
    exact List.getD_append _ _ _ _ (by omega)
  generalize (lengthPrefixed f.units).length = n at *
  change c.serve input = (c.handing (videoPack c input.message.chunk input.mem n) m').application
    at hserve
  have hgiven : (videoPack c input.message.chunk input.mem n).headData = none →
      (videoPack c input.message.chunk input.mem n).headDataLen = 0 := by
    by_cases hm : input.mem 0 >>> 4 = 1
    · simp [videoPack, hm]
    · simp [videoPack, hm]
  have hframe : r.frame input.message.timeStamp (.avcFrame f) =
      some (Call.mk 0 (videoPack c input.message.chunk input.mem n) m').frame := by
    have hlacks := lacks_videoPack h input.message.chunk hkey hready hslice
    have hhead := headBytes_videoPack h input.message.chunk n hkey hready
    have hpicture : (videoPack c input.message.chunk input.mem n).pictureMs =
        (input.message.timeStamp + shownAfter f.time) % 4294967296 := by
      have h0 := htime 0 (by decide)
      have h1 := htime 1 (by decide)
      have h2 := htime 2 (by decide)
      unfold videoPack shownAfter
      rw [← h0, ← h1, ← h2]
      rfl
    have hdata : m'.slice (videoPack c input.message.chunk input.mem n).data
        (videoPack c input.message.chunk input.mem n).dataLen = startCoded f.units := hslice
    unfold Call.frame frameBytes Remuxer.frame
    dsimp only
    rw [hlacks, hhead, hpicture, hdata]
    rfl
  have hover : ¬(Call.mk 0 (videoPack c input.message.chunk input.mem n) m').Overruns := by
    have hhead := headDataLen_holding h input.message.chunk n hkey hready
    apply not_overruns
    change (videoPack c input.message.chunk input.mem n).headDataLen + n < _
    change (videoPack c input.message.chunk input.mem n).headDataLen ≤ _ at hhead
    omega
  obtain ⟨hover', -⟩ | ⟨-, t, hsent, -, hmuxer⟩ := handing_cases (m := m') h.producing hgiven
  · exact absurd hover' hover
  · rw [hsent] at hserve
    refine ⟨?_, ?_, takes_videoFrame htype hrun (result_producing h.producing hover)⟩
    · apply h.of_views (h.producing.serve input)
      · rw [hserve]
        rfl
      · rw [hserve]
        rfl
      · rw [hserve]
        rfl
    · rw [hframe, hserve]
      exact hmuxer

/-- An AAC frame is handed to the muxer. -/
theorem Holding.aacFrame (h : Holding c r) {a : AacFrame}
    (htype : input.message.messageType = 8) (hbody : input.message.body = a.body)
    (hready : r.Ready (.aacFrame a)) :
    Holding (c.serve input) r ∧
      (c.serve input).rtmpSavetots.muxer =
        (r.frame input.message.timeStamp (.aacFrame a)).toList.foldl Muxer.take
          c.rtmpSavetots.muxer ∧ c.Takes input := by
  obtain ⟨config, hconfig⟩ := Option.isSome_iff_exists.1 hready
  obtain ⟨hwritten, hseven⟩ := h.config config hconfig
  have hshort := input.short
  have hlen : input.message.body.length = a.raw.length + 2 := by
    rw [hbody]
    rfl
  have hread {i : Nat} (hi : i < 2) : input.mem i = a.body.getD i 0 := by
    rw [input.mem_getD (by omega), hbody]
  have htag : input.mem 0 >>> 4 = 10 := by
    rw [hread (by decide)]
    exact aacTag a.format
  have hraw : input.mem 1 ≠ 0 := by
    rw [hread (by decide)]
    exact (by decide : (1 : UInt8) ≠ 0)
  have hslice : input.mem.slice 2 a.raw.length = a.raw := by
    have hdrop := drop_window input.mem input.message.body.length 2
    rw [input.holds, hbody] at hdrop
    exact hdrop.symm
  obtain ⟨step, hrun, -, hstep, -⟩ :=
    audioFrame_run c input.message.chunk input.message.body.length input.mem
  rw [hstep htag ⟨hraw, by omega⟩, hlen] at hrun
  have hdata : toUInt32 ((toUInt32 (((a.raw.length + 2 : Nat) : Int) - 1) : Int) - 1) =
      a.raw.length := by
    unfold toUInt32
    omega
  have hlength : ((aacPack c input.message.chunk (a.raw.length + 2)).dataLen +
      c.audioHeadDataLen) % 4294967296 = a.raw.length + 7 := by
    rw [hseven]
    change (toUInt32 ((toUInt32 (((a.raw.length + 2 : Nat) : Int) - 1) : Int) - 1) + 7) % _ = _
    rw [hdata]
    exact Nat.mod_eq_of_lt (by omega)
  have hpack : headed c (a.raw.length + 7) (aacPack c input.message.chunk (a.raw.length + 2)) =
      rawPack c input.message.chunk (a.raw.length + 2) := by
    unfold headed aacPack rawPack
    rw [hdata, hseven]
    rfl
  have hserve := serve_audioFrame htype (by rw [hlen]; exact hrun) hlength
  have htakes := takes_audioFrame htype (by rw [hlen]; exact hrun) hlength
  rw [hpack] at hserve htakes
  have hframe : r.frame input.message.timeStamp (.aacFrame a) =
      some (Call.mk 0 (rawPack c input.message.chunk (a.raw.length + 2)) input.mem).frame := by
    have hstart : startTypeOf (adtsLength c.audioHeadData (a.raw.length + 7)) = .aac := by
      have h0 : adtsLength c.audioHeadData (a.raw.length + 7) 0 = 0xFF := hwritten.b0
      have h1 : adtsLength c.audioHeadData (a.raw.length + 7) 1 = 0xF1 := hwritten.b1
      have hlayer : (0xF1 : UInt8) &&& 0xf0 = 0xf0 := by decide
      simp [startTypeOf, h0, h1, hlayer]
    have hbytes : frameBytes (rawPack c input.message.chunk (a.raw.length + 2)) input.mem =
        (config.header a.raw.length).bytes ++ a.raw := by
      have hhead := hwritten.slice a.raw.length
      change (adtsLength c.audioHeadData (a.raw.length + 7)).slice 0 7 ++
        input.mem.slice 2 a.raw.length = _
      rw [hhead, hslice]
    have hcall : (Call.mk 0 (rawPack c input.message.chunk (a.raw.length + 2)) input.mem).frame =
        { type := .aac, decodeMs := input.message.timeStamp, pictureMs := input.message.timeStamp
          lacksDelimiter :=
            lacksDelimiterAt (startTypeOf (adtsLength c.audioHeadData (a.raw.length + 7)))
              (adtsLength c.audioHeadData (a.raw.length + 7))
          bytes := frameBytes (rawPack c input.message.chunk (a.raw.length + 2)) input.mem } := rfl
    rw [hcall, hstart, hbytes]
    unfold Remuxer.frame
    dsimp only
    rw [hconfig]
    rfl
  have hgiven : (rawPack c input.message.chunk (a.raw.length + 2)).headData = none →
      (rawPack c input.message.chunk (a.raw.length + 2)).headDataLen = 0 := by
    intro hnone
    cases hnone
  have hover : ¬(Call.mk 0 (rawPack c input.message.chunk (a.raw.length + 2))
      input.mem).Overruns := by
    apply not_overruns
    change 7 + (a.raw.length + 2 - 2) < _
    omega
  obtain ⟨hover', -⟩ | ⟨-, t, hsent, -, hmuxer⟩ :=
    handingAudio_cases (m := input.mem)
      ((adtsLength c.audioHeadData (a.raw.length + 7)).set 3 (c.audioHeadData 3)) h.producing hgiven
  · exact absurd hover' hover
  · rw [hsent] at hserve
    refine ⟨?_, ?_, htakes (result_producing h.producing hover)⟩
    · constructor
      · exact h.producing.serve input
      · rw [hserve]
        exact h.header
      · rintro other hother
        rw [hconfig] at hother
        cases hother
        rw [hserve]
        exact ⟨hwritten.restored _, hseven⟩
    · rw [hframe, hserve]
      exact hmuxer

/-- A message leaves what the remuxer holds behind its item, and the muxer takes the frame of the
item. The media handlers succeed. -/
theorem Holding.step (h : Holding c r) {timed : Nat × MediaItem}
    (hcarries : Carries input.message timed) (hready : r.Ready timed.2) :
    Holding (c.serve input) (r.next timed.2) ∧
      (c.serve input).rtmpSavetots.muxer =
        (r.frame timed.1 timed.2).toList.foldl Muxer.take c.rtmpSavetots.muxer ∧
      (input.message.messageType = 8 ∨ input.message.messageType = 9 → c.Takes input) := by
  obtain ⟨time, item⟩ := timed
  obtain ⟨htime, his⟩ := hcarries
  dsimp only at htime his hready ⊢
  rw [← htime]
  cases item with
  | avcHeader header =>
    obtain ⟨hholding, hmuxer, htakes⟩ := h.avcHeader his.1 his.2
    exact ⟨hholding, hmuxer, fun _ ↦ htakes⟩
  | avcFrame f =>
    obtain ⟨hholding, hmuxer, htakes⟩ := h.avcFrame his.1 his.2 hready
    exact ⟨hholding, hmuxer, fun _ ↦ htakes⟩
  | aacConfig a =>
    obtain ⟨hholding, hmuxer, htakes⟩ := h.aacConfig his.1 his.2
    exact ⟨hholding, hmuxer, fun _ ↦ htakes⟩
  | aacFrame a =>
    obtain ⟨hholding, hmuxer, htakes⟩ := h.aacFrame his.1 his.2 hready
    exact ⟨hholding, hmuxer, fun _ ↦ htakes⟩
  | other =>
    have hmedia : (c.serve input).media = c.media := serve_other his.1 his.2
    have hmuxer : (c.serve input).rtmpSavetots = c.rtmpSavetots :=
      congrArg MediaState.rtmpSavetots hmedia
    refine ⟨?_, congrArg RtmpTots.muxer hmuxer, fun htype ↦ htype.elim (absurd · his.1)
      (absurd · his.2)⟩
    · apply h.of_views (h.producing.serve input)
      · have hhead : (c.serve input).videoHeadData = c.videoHeadData :=
          congrArg MediaState.videoHeadData hmedia
        have hlen : (c.serve input).videoHeadDataLen = c.videoHeadDataLen :=
          congrArg MediaState.videoHeadDataLen hmedia
        unfold RtmpClient.videoHead
        rw [hhead, hlen]
      · exact congrArg MediaState.audioHeadData hmedia
      · exact congrArg MediaState.audioHeadDataLen hmedia

end

/-! ### Runs -/

/-- The muxer behind the messages of a presentation has taken its frames. -/
theorem foldl_serve_remuxes {c : RtmpClient} {r : Remuxer} (h : Holding c r) {inputs : List Input}
    {items : List (Nat × MediaItem)}
    (hcarries : List.Forall₂ Carries (inputs.map Input.message) items) (hready : r.AllReady items) :
    (inputs.foldl RtmpClient.serve c).rtmpSavetots.muxer =
      (r.frames items).foldl Muxer.take c.rtmpSavetots.muxer := by
  induction inputs generalizing c r items with
  | nil =>
    cases hcarries
    rfl
  | cons input inputs ih =>
    cases hcarries with
    | @cons _ timed _ rest hfirst hrest =>
      obtain ⟨hholding, hmuxer, -⟩ := h.step hfirst hready.1
      have hbehind := ih hholding hrest hready.2
      change (inputs.foldl RtmpClient.serve (c.serve input)).rtmpSavetots.muxer =
        ((r.frame timed.1 timed.2).toList ++ (r.next timed.2).frames rest).foldl Muxer.take _
      rw [List.foldl_append, ← hmuxer]
      exact hbehind

/-- A client that has sent nothing holds nothing. -/
theorem holding_fresh {c : RtmpClient} (hc : Producing c) : Holding c .fresh where
  producing := hc
  header := nofun
  config := nofun

theorem muxer_of_media {c : RtmpClient} {s : MediaState} (h : c.media = s) :
    c.rtmpSavetots.muxer = s.rtmpSavetots.muxer := by
  rw [← h]
  rfl

/-- The muxer of a run whose messages are a presentation. -/
theorem recvRun_remuxes {u : RtmpClient} (h : (rtmpStartPlay (rtmpClient u)).1 = 0)
    (rtmpUrl rtmpApp rtmpStream : List UInt8) (mPBuffer : Mem) (segments : List (List UInt8))
    {items : List (Nat × MediaItem)}
    (hcarries : List.Forall₂ Carries (recvRun (rtmpRecvData
      (playing u rtmpUrl rtmpApp rtmpStream) mPBuffer) segments).client.rtmpMessages items)
    (hready : Remuxer.fresh.AllReady items) :
    (recvRun (rtmpRecvData (playing u rtmpUrl rtmpApp rtmpStream) mPBuffer)
      segments).client.rtmpSavetots.muxer =
        (Remuxer.fresh.frames items).foldl Muxer.take (Muxer.fresh u.rtmpSavetots.tsFp) := by
  obtain ⟨hstart, inputs, hinputs, hmedia⟩ :=
    media_recvRun u h rtmpUrl rtmpApp rtmpStream mPBuffer segments
  have hholding := holding_fresh (producing_connecting h rtmpUrl rtmpApp rtmpStream)
  rw [← hinputs] at hcarries
  have hbehind := foldl_serve_remuxes hholding hcarries hready
  have hfresh : (rtmpClient u).media.rtmpSavetots.muxer = Muxer.fresh u.rtmpSavetots.tsFp :=
    muxer_rtmpTots _ _ _
  rw [muxer_of_media hstart, hfresh] at hbehind
  exact (muxer_of_media hmedia).trans hbehind

end RtmpRecv.Client
