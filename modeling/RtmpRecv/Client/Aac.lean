import RtmpRecv.Client.Lengths
import RtmpRecv.Tots.Clock
import RtmpRecv.Wire.Adts
import RtmpRecv.Wire.Pes

/-!
# AAC frames

Library `Client`. What `rtmp_process_audio` makes of AAC messages: a sequence header leaves an ADTS
header without a length in `audio_head_data`, and a raw frame is emitted behind that header with
its own length, which is taken out again as far as it shares a byte with other fields.
-/

namespace RtmpRecv.Client
open RtmpRecv.Base RtmpRecv.Tots RtmpRecv.Wire

/-- A call of `rtmp_process_audio`: its chunk stream, the memory of the message, and its length. -/
structure AudioMessage where
  chunk : RtmpChunk
  mem : Mem
  length : Nat

namespace AudioMessage

/-- The configuration in a sequence header. -/
def config (msg : AudioMessage) : AudioConfig := AudioConfig.ofBytes (msg.mem 2) (msg.mem 3)

/-- The bytes of a raw frame. -/
def raw (msg : AudioMessage) : List UInt8 := msg.mem.slice 2 (msg.length - 2)

/-- An AAC sequence header whose configuration fits into an ADTS header. -/
def IsConfig (msg : AudioMessage) : Prop :=
  msg.mem 0 >>> 4 = 10 ∧ msg.mem 1 = 0 ∧ 4 ≤ msg.length ∧ msg.config.Framed

instance (msg : AudioMessage) : Decidable msg.IsConfig :=
  inferInstanceAs (Decidable (_ ∧ _ ∧ _ ∧ msg.config.Framed))

/-- An AAC frame. -/
def IsRaw (msg : AudioMessage) : Prop :=
  msg.mem 0 >>> 4 = 10 ∧ msg.mem 1 ≠ 0 ∧ 2 ≤ msg.length

instance (msg : AudioMessage) : Decidable msg.IsRaw :=
  inferInstanceAs (Decidable (_ ∧ _ ∧ _))

end AudioMessage

/-- A message whose body is `body`. -/
def audioMessage (body : List UInt8) : AudioMessage :=
  ⟨RtmpChunk.zero, Mem.ofList body, body.length⟩

/-- Successive calls of `rtmp_process_audio`. -/
def processAudios (c : RtmpClient) : List AudioMessage → Except Fault RtmpClient
  | [] => .ok c
  | msg :: messages =>
    match ((rtmpProcessAudio c msg.chunk msg.length).run msg.mem).1 with
    | .error e => .error e
    | .ok (_, c) => processAudios c messages

/-! ### The stored header -/

/-- The header that is stored has the fields of the configuration. Its length fields are zero as
far as they share a byte with other fields; bytes 4 and 5 hold what an earlier frame left. -/
structure HeadStored (config : AudioConfig) (head : Mem) : Prop where
  b0 : head 0 = 0xFF
  b1 : head 1 = 0xF1
  profile : (head 2).toNat / 64 = config.objectType - 1
  frequencyIndex : (head 2).toNat / 4 % 16 = config.frequencyIndex
  channels : (head 2).toNat % 2 * 4 + (head 3).toNat / 64 = config.channels
  clear : (head 3).toNat % 64 = 0

private theorem adts_byte2 : ∀ b2 : Fin 256, ∀ p q : Fin 2,
    1 ≤ (b2 : Nat) / 8 → (b2 : Nat) / 8 ≤ 4 →
    ((((((UInt8.ofNat b2 >>> 3) &&& 0x1F) - 1) &&& 0x03) <<< 6 |||
      ((((UInt8.ofNat b2 &&& 0x07) <<< 1) ||| UInt8.ofNat p) &&& 0x0F) <<< 2 |||
        UInt8.ofNat q).toNat / 64 = (b2 : Nat) / 8 - 1 ∧
    (((((UInt8.ofNat b2 >>> 3) &&& 0x1F) - 1) &&& 0x03) <<< 6 |||
      ((((UInt8.ofNat b2 &&& 0x07) <<< 1) ||| UInt8.ofNat p) &&& 0x0F) <<< 2 |||
        UInt8.ofNat q).toNat / 4 % 16 = (b2 : Nat) % 8 * 2 + p ∧
    (((((UInt8.ofNat b2 >>> 3) &&& 0x1F) - 1) &&& 0x03) <<< 6 |||
      ((((UInt8.ofNat b2 &&& 0x07) <<< 1) ||| UInt8.ofNat p) &&& 0x0F) <<< 2 |||
        UInt8.ofNat q).toNat % 2 = q) := by
  decide +kernel

private theorem adts_byte3 : ∀ b3 : Fin 256,
    (UInt8.ofNat b3 >>> 7) &&& 0x01 = UInt8.ofNat ((b3 : Nat) / 128) ∧
      (((UInt8.ofNat b3 >>> 3) &&& 0x0F) >>> 2) &&& 0x01 = UInt8.ofNat ((b3 : Nat) / 32 % 2) ∧
      ((((UInt8.ofNat b3 >>> 3) &&& 0x0F) &&& 0x03) <<< 6).toNat = (b3 : Nat) / 8 % 4 * 64 := by
  decide +kernel

/-- A sequence header leaves the header of its configuration. -/
theorem headStored_adtsHead (head : Mem) (b2 b3 : UInt8)
    (h : (AudioConfig.ofBytes b2 b3).Framed) :
    HeadStored (AudioConfig.ofBytes b2 b3) (head.memcpy 0 (adtsHead b2 b3)) := by
  have h2 := b2.toNat_lt
  have h3 := b3.toNat_lt
  obtain ⟨hlow, hhigh, hchannels⟩ := h
  simp only [AudioConfig.ofBytes] at hlow hhigh hchannels
  obtain ⟨htop, hbit, hlast⟩ := adts_byte3 ⟨b3.toNat, h3⟩
  obtain ⟨hprofile, hindex, hq⟩ := adts_byte2 ⟨b2.toNat, h2⟩ ⟨b3.toNat / 128, by omega⟩
    ⟨b3.toNat / 32 % 2, by omega⟩ hlow hhigh
  simp only [UInt8.ofNat_toNat] at htop hbit hlast hprofile hindex hq
  rw [← htop, ← hbit] at hprofile hindex hq
  have hlen (i : Nat) (hi : i < 7) : i < (adtsHead b2 b3).length := hi
  have hread (i : Nat) (hi : i < 7) :
      head.memcpy 0 (adtsHead b2 b3) i = (adtsHead b2 b3).get ⟨i, hlen i hi⟩ := by
    have hcopy := Mem.memcpy_inside head 0 (adtsHead b2 b3) i hi
    rwa [Nat.zero_add] at hcopy
  constructor
  · exact hread 0 (by decide)
  · exact hread 1 (by decide)
  · rw [hread 2 (by decide)]
    exact hprofile
  · rw [hread 2 (by decide)]
    exact hindex
  · rw [hread 2 (by decide), hread 3 (by decide)]
    have hq' : ((adtsHead b2 b3).get ⟨2, hlen 2 (by decide)⟩).toNat % 2 = b3.toNat / 32 % 2 := hq
    have hlast' : ((adtsHead b2 b3).get ⟨3, hlen 3 (by decide)⟩).toNat =
        b3.toNat / 8 % 4 * 64 := hlast
    rw [hq', hlast']
    simp only [AudioConfig.ofBytes]
    omega
  · rw [hread 3 (by decide)]
    change ((((b3 >>> 3) &&& 0x0F) &&& 0x03) <<< 6).toNat % 64 = 0
    rw [hlast]
    omega

private theorem or_length : ∀ a l : Fin 4,
    (UInt8.ofNat ((a : Nat) * 64) ||| UInt8.ofNat l).toNat = (a : Nat) * 64 + l := by
  decide

/-- The length goes into bits that are zero. -/
private theorem byte3_adtsLength {head : Mem} (h : (head 3).toNat % 64 = 0)
    (aacFrameLength : Nat) :
    (head 3 ||| UInt8.ofNat (aacFrameLength / 2048 % 4)).toNat =
      (head 3).toNat + aacFrameLength / 2048 % 4 := by
  have h3 := (head 3).toNat_lt
  have hor := or_length ⟨(head 3).toNat / 64, by omega⟩ ⟨aacFrameLength / 2048 % 4, by omega⟩
  have heq : (head 3).toNat / 64 * 64 = (head 3).toNat := by omega
  simp only [heq, UInt8.ofNat_toNat] at hor
  exact hor

private theorem adtsLength_bytes (head : Mem) (aacFrameLength : Nat) (raw : List UInt8) :
    (adtsLength head aacFrameLength).slice 0 7 ++ raw =
      head 0 :: head 1 :: head 2 :: (head 3 ||| UInt8.ofNat (aacFrameLength / 2048 % 4)) ::
        UInt8.ofNat (aacFrameLength / 8) :: UInt8.ofNat (aacFrameLength % 8 * 32) :: head 6 ::
          raw := rfl

/-- The 13 bits of the length. -/
theorem frameLength_adtsLength {head : Mem} (h : (head 3).toNat % 64 = 0) (aacFrameLength : Nat)
    (raw : List UInt8) :
    (adtsHeader ((adtsLength head aacFrameLength).slice 0 7 ++ raw)).frameLength =
      aacFrameLength % 8192 := by
  have hbyte := byte3_adtsLength h aacFrameLength
  rw [adtsLength_bytes]
  simp only [adtsHeader, List.getD_cons_zero, List.getD_cons_succ, hbyte, UInt8.toNat_ofNat']
  omega

/-- The header with the length of a frame. -/
theorem adtsHeader_stored {config : AudioConfig} {head : Mem} (h : HeadStored config head)
    (aacFrameLength : Nat) (raw : List UInt8) :
    adtsHeader ((adtsLength head aacFrameLength).slice 0 7 ++ raw) =
      { config.header 0 with frameLength := aacFrameLength % 8192 } := by
  have hclear := h.clear
  have hchannels := h.channels
  have hbyte := byte3_adtsLength hclear aacFrameLength
  have hlength := frameLength_adtsLength hclear aacFrameLength raw
  rw [adtsLength_bytes] at hlength ⊢
  simp only [adtsHeader, List.getD_cons_zero, List.getD_cons_succ] at hlength
  simp only [adtsHeader, AudioConfig.header, List.getD_cons_zero, List.getD_cons_succ, h.b0, h.b1,
    h.profile, h.frequencyIndex, hlength, AdtsHeader.mk.injEq, true_and, and_true]
  refine ⟨by decide, by decide, ?_⟩
  rw [hbyte]
  omega

/-- What a frame leaves of the stored header. -/
theorem HeadStored.restored {config : AudioConfig} {head : Mem} (h : HeadStored config head)
    (aacFrameLength : Nat) :
    HeadStored config ((adtsLength head aacFrameLength).set 3 (head 3)) := by
  have hread (i : Nat) (hi : i < 4) :
      (adtsLength head aacFrameLength).set 3 (head 3) i = head i := by
    by_cases h3 : i = 3
    · rw [h3, Mem.set_same]
    · unfold adtsLength
      rw [Mem.set_other _ _ _ _ h3, Mem.set_other _ _ _ _ (by omega),
        Mem.set_other _ _ _ _ (by omega), Mem.set_other _ _ _ _ h3]
  constructor
  · rw [hread 0 (by decide)]
    exact h.b0
  · rw [hread 1 (by decide)]
    exact h.b1
  · rw [hread 2 (by decide)]
    exact h.profile
  · rw [hread 2 (by decide)]
    exact h.frequencyIndex
  · rw [hread 2 (by decide), hread 3 (by decide)]
    exact h.channels
  · rw [hread 3 (by decide)]
    exact h.clear

/-! ### One message -/

section

variable {c : RtmpClient} {chunk : RtmpChunk} {n : Nat} {m : Mem}

/-- The client that has stored the header of a configuration. -/
def configured (c : RtmpClient) (m : Mem) : RtmpClient :=
  { c with
    audioHeadData := c.audioHeadData.memcpy 0 (adtsHead (m 2) (m 3))
    audioHeadDataLen := 7 }

theorem run_audio_config (haac : m 0 >>> 4 = 10) (hconfig : m 1 = 0) :
    (rtmpProcessAudio c chunk n).run m = (.ok (0, configured c m), m) := by
  have hframe : (rtmpProcessAudioFrame c chunk n).run m = (.ok (.done 0 (configured c m)), m) := by
    unfold rtmpProcessAudioFrame
    simp [haac, hconfig, configured]
  unfold rtmpProcessAudio
  rw [Access.bind_eq, Access.run_bind_ok hframe]
  rfl

/-- A frame in front of the first configuration is ignored. -/
theorem run_audio_ignored (haac : m 0 >>> 4 = 10) (hraw : m 1 ≠ 0)
    (hlen : c.audioHeadDataLen = 0) : (rtmpProcessAudio c chunk n).run m = (.ok (0, c), m) := by
  have hframe : (rtmpProcessAudioFrame c chunk n).run m = (.ok (.done 0 c), m) := by
    unfold rtmpProcessAudioFrame
    simp [haac, hraw, hlen]
  unfold rtmpProcessAudio
  rw [Access.bind_eq, Access.run_bind_ok hframe]
  rfl

/-- The client behind a frame of `aacFrameLength` bytes with its header, with the muxer `t`. -/
def framed (c : RtmpClient) (aacFrameLength : Nat) (t : RtmpTots) : RtmpClient :=
  { c.getMillisecond64.2 with
    audioHeadData := (adtsLength c.audioHeadData aacFrameLength).set 3 (c.audioHeadData 3)
    rtmpSavetots := t }

/-- The frame with the header that holds its length. -/
def headed (c : RtmpClient) (aacFrameLength : Nat) (pack : PackData) : PackData :=
  { pack with headData := pack.headData.map fun _ ↦ adtsLength c.audioHeadData aacFrameLength }

/-- What is left of a frame is a call of the muxer. -/
theorem run_audio_frame {pack : PackData}
    (hframe : (rtmpProcessAudioFrame c chunk n).run m = (.ok (.frame pack c), m))
    {aacFrameLength : Nat}
    (hlength : (pack.dataLen + c.audioHeadDataLen) % 4294967296 = aacFrameLength) :
    (rtmpProcessAudio c chunk n).run m =
      (match (Call.mk c.getMillisecond64.1 (headed c aacFrameLength pack) m).result
        c.rtmpSavetots with
      | .error e => .error e
      | .ok r => .ok (0, framed c aacFrameLength r.2), m) := by
  have hhand : (handToTots (headed c aacFrameLength pack)
      { c with audioHeadData := adtsLength c.audioHeadData aacFrameLength }).run m =
      (match (Call.mk c.getMillisecond64.1 (headed c aacFrameLength pack) m).result
        c.rtmpSavetots with
      | .error e => .error e
      | .ok r => .ok { c.getMillisecond64.2 with
        audioHeadData := adtsLength c.audioHeadData aacFrameLength
        rtmpSavetots := r.2 }, m) := run_handToTots _ _ m
  unfold rtmpProcessAudio
  rw [Access.bind_eq, Access.run_bind_ok hframe]
  dsimp only
  rw [hlength, Access.bind_eq]
  cases hresult : (Call.mk c.getMillisecond64.1 (headed c aacFrameLength pack) m).result
    c.rtmpSavetots with
  | error e =>
    rw [hresult] at hhand
    exact Access.run_bind_error hhand _
  | ok r =>
    rw [hresult] at hhand
    exact Access.run_bind_ok hhand _

/-- The frame that a raw frame becomes. -/
def rawPack (c : RtmpClient) (chunk : RtmpChunk) (n : Nat) : PackData :=
  { type := .aac, decodeMs := chunk.timeStamp, pictureMs := chunk.timeStamp
    headData := some (adtsLength c.audioHeadData (n - 2 + 7)), headDataLen := 7
    data := 2, dataLen := n - 2, isKeyframe := false }

/-- The call of the muxer for a frame. -/
def rawCall (c : RtmpClient) (chunk : RtmpChunk) (n : Nat) (m : Mem) : Call :=
  ⟨c.getMillisecond64.1, rawPack c chunk n, m⟩

/-- The PES packet of a frame. -/
def rawPes (c : RtmpClient) (chunk : RtmpChunk) (n : Nat) (m : Mem) : List UInt8 :=
  audioPesHeader (n - 2 + 7) ((rawCall c chunk n m).pts c.rtmpSavetots) ++
    ((adtsLength c.audioHeadData (n - 2 + 7)).slice 0 7 ++ m.slice 2 (n - 2))

variable (chunk) in
/-- A frame that passes the size check is emitted as one PES packet. -/
theorem rawFrame_emitted {ps : List (List UInt8)} (hmuxed : Muxed c.rtmpSavetots ps)
    (hfp : c.rtmpSavetots.tsFp = true) (haac : m 0 >>> 4 = 10) (hraw : m 1 ≠ 0)
    (hlen : c.audioHeadDataLen = 7) (h2 : 2 ≤ n) (hfits : n - 2 + 7 ≤ packetPesBuf - 14) :
    ∃ t, (rtmpProcessAudio c chunk n).run m = (.ok (0, framed c (n - 2 + 7) t), m) ∧
      (∃ qs, Muxed t (ps ++ qs)) ∧ t.tsFp = true ∧
      unitsOf audioPid (packets t.output.emitted) =
        unitsOf audioPid (packets c.rtmpSavetots.output.emitted) ++ [rawPes c chunk n m] := by
  have hbuf : packetPesBuf = 4195328 := rfl
  have hdata : toUInt32 ((toUInt32 ((n : Int) - 1) : Int) - 1) = n - 2 := by
    unfold toUInt32
    omega
  have hlength : ((aacPack c chunk n).dataLen + c.audioHeadDataLen) % 4294967296 = n - 2 + 7 := by
    change (toUInt32 ((toUInt32 ((n : Int) - 1) : Int) - 1) + _) % _ = _
    rw [hdata, hlen]
    exact Nat.mod_eq_of_lt (by omega)
  have hpack : headed c (n - 2 + 7) (aacPack c chunk n) = rawPack c chunk n := by
    unfold headed aacPack rawPack
    rw [hdata, hlen]
    rfl
  obtain ⟨step, hframe, -, hstep, -⟩ := audioFrame_run c chunk n m
  rw [hstep haac ⟨hraw, by omega⟩] at hframe
  have hrun := run_audio_frame hframe hlength
  rw [hpack] at hrun
  have hcall : (rawCall c chunk n m).Fits := by
    constructor
    · rfl
    · change 7 + (n - 2) ≤ packetPesBuf - 14
      omega
  have hpid : pidOf (rawCall c chunk n m).pack.type = some audioPid := rfl
  obtain ⟨ret, t, hresult, hkept, hunits⟩ := hmuxed.sends hcall hpid
  have hbuilt : (rawCall c chunk n m).built c.rtmpSavetots =
      audioPes ((rawCall c chunk n m).pts c.rtmpSavetots) (rawPack c chunk n)
        ((rawCall c chunk n m).noted c.rtmpSavetots) m := rfl
  have hhead : (rawPack c chunk n).headData = none → (rawPack c chunk n).headDataLen = 0 :=
    fun h ↦ nomatch h
  have hslice := slice_audioPes ((rawCall c chunk n m).pts c.rtmpSavetots)
    ((rawCall c chunk n m).noted c.rtmpSavetots) m hhead (by change 7 + (n - 2) < _; omega)
  have hes : esLen (rawPack c chunk n) = n - 2 + 7 := by
    change (7 + (n - 2)) % 4294967296 = _
    omega
  rw [← hbuilt, ← hkept.pesBuf, ← hkept.pesLen, hes] at hslice
  refine ⟨t, ?_, hmuxed.call hresult, ?_, ?_⟩
  · change (Call.mk c.getMillisecond64.1 (rawPack c chunk n) m).result c.rtmpSavetots = _ at hresult
    rw [hresult] at hrun
    exact hrun
  · rw [hkept.tsFp, ((rawCall c chunk n m).sameStage_built c.rtmpSavetots).tsFp]
    exact hfp
  · rw [hunits hfp, hslice]
    rfl

/-- The payload of the PES packet of a frame. -/
theorem pesPayload_rawPes : pesPayload (rawPes c chunk n m) =
    (adtsLength c.audioHeadData (n - 2 + 7)).slice 0 7 ++ m.slice 2 (n - 2) := rfl

end

/-! ### Lengths -/

/-- The length fields of an audio PES packet say how long its payload and the packet are. -/
structure LengthsTrue (pes : List UInt8) : Prop where
  adts : (adtsHeader (pesPayload pes)).frameLength = (pesPayload pes).length
  pes : pesPacketLength pes = pes.length - 6

/-- A frame is too long for one of the two fields. -/
def TooLong (n : Nat) : Prop := 8192 ≤ n + 7 ∨ 65536 ≤ n + 15

/-- The frame is emitted in a PES packet whose length fields are true, or it is too long for them
and is not emitted. -/
def TellsLength (c : RtmpClient) (msg : AudioMessage) : Prop :=
  ∃ c' pess, ((rtmpProcessAudio c msg.chunk msg.length).run msg.mem).1 = .ok (0, c') ∧
    unitsOf audioPid (packets c'.rtmpSavetots.output.emitted) =
      unitsOf audioPid (packets c.rtmpSavetots.output.emitted) ++ pess ∧
    (TooLong msg.raw.length ∧ pess = [] ∨
      ¬TooLong msg.raw.length ∧ ∃ pes, pess = [pes] ∧ LengthsTrue pes)

section

variable {c : RtmpClient} {chunk : RtmpChunk} {n : Nat} {m : Mem}

/-- The length field of the PES packet of a frame has 16 bits. -/
theorem pesPacketLength_rawPes (hn : n - 2 + 15 < 65536) :
    pesPacketLength (rawPes c chunk n m) = (rawPes c chunk n m).length - 6 := by
  have hlen : (rawPes c chunk n m).length = 14 + (7 + (n - 2)) := by
    unfold rawPes
    rw [List.length_append, List.length_append, Mem.length_slice, Mem.length_slice]
    rfl
  have hand (k : Nat) : (k &&& 0xff) = k % 256 := Nat.and_two_pow_sub_one_eq_mod k 8
  rw [hlen]
  change be16 (UInt8.ofNat ((n - 2 + 7 + 8) % 4294967296 / 256))
    (UInt8.ofNat ((n - 2 + 7 + 8) % 4294967296 &&& 0xff)) = _
  simp only [be16, UInt8.toNat_ofNat', hand]
  omega

/-- What every audio message keeps: a stored header has no length in byte 3, and the muxer has an
open file and has emitted whole packets. -/
structure AudioReady (c : RtmpClient) : Prop where
  head : c.audioHeadDataLen = 0 ∨ c.audioHeadDataLen = 7 ∧ (c.audioHeadData 3).toNat % 64 = 0
  muxed : ∃ ps, Muxed c.rtmpSavetots ps
  fileOpen : c.rtmpSavetots.tsFp = true

private theorem AudioReady.frame (h : AudioReady c) {pack : PackData}
    (hframe : (rtmpProcessAudioFrame c chunk n).run m = (.ok (.frame pack c), m)) {ret : Int}
    {c' : RtmpClient} (hrun : ((rtmpProcessAudio c chunk n).run m).1 = .ok (ret, c')) :
    AudioReady c' := by
  rw [run_audio_frame hframe rfl] at hrun
  generalize hL : (pack.dataLen + c.audioHeadDataLen) % 4294967296 = aacFrameLength at hrun
  dsimp only at hrun
  cases hresult : (Call.mk c.getMillisecond64.1 (headed c aacFrameLength pack) m).result
    c.rtmpSavetots with
  | error e =>
    rw [hresult] at hrun
    cases hrun
  | ok r =>
    obtain ⟨ret', t⟩ := r
    rw [hresult] at hrun
    cases hrun
    obtain ⟨ps, hmuxed⟩ := h.muxed
    obtain ⟨qs, hmuxed'⟩ := hmuxed.call hresult
    constructor
    · rcases h.head with h0 | ⟨h7, hclear⟩
      · exact Or.inl h0
      · right
        have hbyte : (adtsLength c.audioHeadData aacFrameLength).set 3 (c.audioHeadData 3) 3 =
            c.audioHeadData 3 := Mem.set_same _ _ _
        refine ⟨h7, ?_⟩
        change ((adtsLength c.audioHeadData aacFrameLength).set 3 (c.audioHeadData 3) 3).toNat
          % 64 = 0
        rw [hbyte]
        exact hclear
    · exact ⟨_, hmuxed'⟩
    · exact (hmuxed.call_tsFp hresult).trans h.fileOpen

/-- Every audio message keeps the client ready. -/
theorem AudioReady.step (h : AudioReady c) {ret : Int} {c' : RtmpClient}
    (hrun : ((rtmpProcessAudio c chunk n).run m).1 = .ok (ret, c')) : AudioReady c' := by
  obtain ⟨step, hframe, hother, haac, -⟩ := audioFrame_run c chunk n m
  by_cases hformat : m 0 >>> 4 = 10
  · by_cases hraw : m 1 = 0
    · rw [run_audio_config hformat hraw] at hrun
      cases hrun
      constructor
      · right
        refine ⟨rfl, ?_⟩
        have hread := Mem.memcpy_inside c.audioHeadData 0 (adtsHead (m 2) (m 3)) 3
          (by change 3 < 7; decide)
        rw [Nat.zero_add] at hread
        have hlast := (adts_byte3 ⟨(m 3).toNat, (m 3).toNat_lt⟩).2.2
        simp only [UInt8.ofNat_toNat] at hlast
        change (c.audioHeadData.memcpy 0 (adtsHead (m 2) (m 3)) 3).toNat % 64 = 0
        rw [hread]
        change ((((m 3 >>> 3) &&& 0x0F) &&& 0x03) <<< 6).toNat % 64 = 0
        rw [hlast]
        omega
      · exact h.muxed
      · exact h.fileOpen
    · by_cases h0 : c.audioHeadDataLen = 0
      · rw [run_audio_ignored hformat hraw h0] at hrun
        cases hrun
        exact h
      · rw [haac hformat ⟨hraw, h0⟩] at hframe
        exact h.frame hframe hrun
  · rw [hother hformat] at hframe
    exact h.frame hframe hrun

end

theorem AudioReady.run {c c' : RtmpClient} (h : AudioReady c) {messages : List AudioMessage}
    (hrun : processAudios c messages = .ok c') : AudioReady c' := by
  induction messages generalizing c with
  | nil =>
    cases hrun
    exact h
  | cons msg messages ih =>
    unfold processAudios at hrun
    cases hstep : ((rtmpProcessAudio c msg.chunk msg.length).run msg.mem).1 with
    | error e =>
      rw [hstep] at hrun
      cases hrun
    | ok r =>
      rw [hstep] at hrun
      exact ih (h.step hstep) hrun

/-- Behind any audio messages, a frame that is accepted and passes the size check is emitted with
true lengths exactly when its 13-bit length field has room for it. -/
theorem rtmpProcessAudio_lengths (pesBuf : Mem) (start : Nat) {calls : List Call}
    {c₀ c : RtmpClient} (hmuxer : runCalls (rtmpTots pesBuf true start) calls = .ok c₀.rtmpSavetots)
    (hlen : c₀.audioHeadDataLen = 0) {messages : List AudioMessage}
    (hrun : processAudios c₀ messages = .ok c) {msg : AudioMessage} (hraw : msg.IsRaw)
    (haccepted : c.audioHeadDataLen ≠ 0) (hfits : msg.raw.length + 7 ≤ packetPesBuf - 14) :
    TellsLength c msg ↔ msg.raw.length ≤ 8184 := by
  obtain ⟨qs, -, hmuxed, hfp⟩ :=
    (muxed_rtmpTots pesBuf true start).streams rfl true (fun _ ↦ rfl) hmuxer
  have hready : AudioReady c := AudioReady.run ⟨Or.inl hlen, ⟨_, hmuxed⟩, hfp⟩ hrun
  obtain ⟨h7, hclear⟩ := hready.head.resolve_left haccepted
  obtain ⟨ps, hmuxed'⟩ := hready.muxed
  obtain ⟨haac, hpacket, h2⟩ := hraw
  have hlength : msg.raw.length = msg.length - 2 := Mem.length_slice _ _ _
  obtain ⟨t, hstep, -, -, hunits⟩ :=
    rawFrame_emitted msg.chunk hmuxed' hready.fileOpen haac hpacket h7 h2 (by omega)
  unfold TellsLength TooLong
  constructor
  · rintro ⟨c', pess, hstep', hunits', ⟨-, rfl⟩ | ⟨hshort, -⟩⟩
    · rw [hstep] at hstep'
      cases hstep'
      rw [List.append_nil] at hunits'
      change unitsOf audioPid (packets t.output.emitted) = _ at hunits'
      rw [hunits] at hunits'
      have hcount := congrArg List.length hunits'
      simp at hcount
    · omega
  · intro hle
    refine ⟨_, _, congrArg Prod.fst hstep, hunits, Or.inr ⟨by omega, _, rfl, ?_, ?_⟩⟩
    · rw [pesPayload_rawPes, frameLength_adtsLength hclear, List.length_append, Mem.length_slice,
        Mem.length_slice]
      omega
    · exact pesPacketLength_rawPes (by omega)

/-- An AAC sequence header: object type 2, 44100 Hz, two channels. -/
def aacConfig : AudioMessage := audioMessage [0xaf, 0, 0x12, 0x10]

/-- The client that has received the sequence header. -/
private theorem processAudios_aacConfig : processAudios (rtmpClient blankClient) [aacConfig] =
    .ok (configured (rtmpClient blankClient) aacConfig.mem) := by
  have hrun : (rtmpProcessAudio (rtmpClient blankClient) aacConfig.chunk aacConfig.length).run
      aacConfig.mem = (.ok (0, configured (rtmpClient blankClient) aacConfig.mem), aacConfig.mem) :=
    run_audio_config rfl rfl
  unfold processAudios
  rw [hrun]
  rfl

private theorem muxer_blank :
    runCalls (rtmpTots (fun _ ↦ 0) true 0) [] = .ok (rtmpClient blankClient).rtmpSavetots := rfl

/-- A frame of three bytes. -/
theorem rtmpProcessAudio_lengths_three :
    TellsLength (configured (rtmpClient blankClient) aacConfig.mem)
        (audioMessage [0xaf, 1, 1, 2, 3]) ↔
      (audioMessage [0xaf, 1, 1, 2, 3]).raw.length ≤ 8184 :=
  rtmpProcessAudio_lengths (fun _ ↦ 0) 0 muxer_blank rfl processAudios_aacConfig (by decide)
    (by decide) (by decide)

/-- A frame of 8185 zero bytes. -/
def longAudio : AudioMessage :=
  ⟨RtmpChunk.zero, Mem.ofList [0xaf, 1], 8187⟩

private theorem run_longAudio {c : RtmpClient} {ps : List (List UInt8)}
    (hmuxed : Muxed c.rtmpSavetots ps) (hfp : c.rtmpSavetots.tsFp = true)
    (hlen : c.audioHeadDataLen = 7) (hclear : (c.audioHeadData 3).toNat % 64 = 0) :
    ∃ c' pes, processAudios c [longAudio] = .ok c' ∧
      unitsOf audioPid (packets c'.rtmpSavetots.output.emitted) =
        unitsOf audioPid (packets c.rtmpSavetots.output.emitted) ++ [pes] ∧
      (pesPayload pes).length = 8192 ∧ (adtsHeader (pesPayload pes)).frameLength = 0 := by
  have hlong : longAudio.length = 8187 := rfl
  obtain ⟨t, hstep, -, -, hunits⟩ := rawFrame_emitted (n := longAudio.length) longAudio.chunk hmuxed
    hfp (m := longAudio.mem) rfl (by decide) hlen (by decide) (by decide)
  refine ⟨framed c (longAudio.length - 2 + 7) t, _, ?_, hunits, ?_, ?_⟩
  · unfold processAudios
    rw [hstep]
    rfl
  · rw [pesPayload_rawPes, List.length_append, Mem.length_slice, Mem.length_slice, hlong]
  · rw [pesPayload_rawPes, frameLength_adtsLength hclear, hlong]

/-- The ADTS header of a frame that is emitted with 8185 bytes says that it has no length. -/
theorem rtmpProcessAudio_loses_length :
    ∃ c c' pes, processAudios (rtmpClient blankClient) [aacConfig] = .ok c ∧
      longAudio.IsRaw ∧ longAudio.raw.length = 8185 ∧
      processAudios c [longAudio] = .ok c' ∧
      unitsOf audioPid (packets c'.rtmpSavetots.output.emitted) = [pes] ∧
      (pesPayload pes).length = 8192 ∧ (adtsHeader (pesPayload pes)).frameLength = 0 := by
  have hlength : longAudio.raw.length = 8185 := Mem.length_slice _ _ _
  have hmuxed : Muxed (configured (rtmpClient blankClient) aacConfig.mem).rtmpSavetots [] :=
    muxed_rtmpTots (fun _ ↦ 0) true 0
  obtain ⟨c', pes, hrun, hunits, hpayload, hheader⟩ := run_longAudio hmuxed rfl rfl (by decide)
  exact ⟨_, c', pes, processAudios_aacConfig, by decide, hlength, hrun, hunits, hpayload, hheader⟩

/-! ### Runs -/

/-- The raw frames behind the first sequence header, each with the latest configuration before
it. -/
def framesOf : Option AudioConfig → List AudioMessage → List (AudioConfig × List UInt8)
  | _, [] => []
  | config, msg :: messages =>
    if msg.mem 1 = 0 then framesOf (some msg.config) messages
    else
      match config with
      | none => framesOf none messages
      | some config => (config, msg.raw) :: framesOf (some config) messages

/-- The payload of the PES packet is an ADTS header for the frame and the frame. -/
structure CarriesFrame (frame : AudioConfig × List UInt8) (pes : List UInt8) : Prop where
  payload : ∃ head, head.length = 7 ∧ pesPayload pes = head ++ frame.2
  header : adtsHeader (pesPayload pes) = frame.1.header frame.2.length

/-- The client has seen no configuration, or holds the header of the latest one. -/
def Stores (c : RtmpClient) : Option AudioConfig → Prop
  | none => c.audioHeadDataLen = 0
  | some config => c.audioHeadDataLen = 7 ∧ HeadStored config c.audioHeadData

private theorem frames_run {c : RtmpClient} {config : Option AudioConfig} {ps : List (List UInt8)}
    (hmuxed : Muxed c.rtmpSavetots ps) (hfp : c.rtmpSavetots.tsFp = true)
    (hstores : Stores c config) {messages : List AudioMessage}
    (h : ∀ msg ∈ messages, msg.IsConfig ∨ msg.IsRaw ∧ msg.raw.length + 7 < 8192) :
    ∃ c' pess, processAudios c messages = .ok c' ∧
      unitsOf audioPid (packets c'.rtmpSavetots.output.emitted) =
        unitsOf audioPid (packets c.rtmpSavetots.output.emitted) ++ pess ∧
      List.Forall₂ CarriesFrame (framesOf config messages) pess := by
  induction messages generalizing c config ps with
  | nil => exact ⟨c, [], rfl, (List.append_nil _).symm, List.Forall₂.nil⟩
  | cons msg messages ih =>
    have hrest : ∀ msg ∈ messages, msg.IsConfig ∨ msg.IsRaw ∧ msg.raw.length + 7 < 8192 :=
      fun msg hmem ↦ h msg (List.mem_cons_of_mem _ hmem)
    unfold processAudios framesOf
    rcases h msg List.mem_cons_self with ⟨haac, hconfig, -, hframed⟩ | ⟨⟨haac, hraw, h2⟩, hshort⟩
    · have hnext : Stores (configured c msg.mem) (some msg.config) :=
        ⟨rfl, headStored_adtsHead c.audioHeadData (msg.mem 2) (msg.mem 3) hframed⟩
      rw [run_audio_config haac hconfig, if_pos hconfig]
      exact ih (c := configured c msg.mem) hmuxed hfp hnext hrest
    · rw [if_neg hraw]
      cases config with
      | none =>
        rw [run_audio_ignored haac hraw hstores]
        exact ih hmuxed hfp hstores hrest
      | some config =>
        have hraws : msg.raw.length = msg.length - 2 := Mem.length_slice _ _ _
        have hbuf : packetPesBuf = 4195328 := rfl
        obtain ⟨hlen, hstored⟩ := hstores
        obtain ⟨t, hrun, ⟨qs, hmuxed'⟩, hfp', hunits⟩ :=
          rawFrame_emitted msg.chunk hmuxed hfp haac hraw hlen h2 (by omega)
        have hnext : Stores (framed c (msg.length - 2 + 7) t) (some config) :=
          ⟨hlen, hstored.restored _⟩
        obtain ⟨c', pess, hrun', hunits', hframes⟩ :=
          ih (c := framed c (msg.length - 2 + 7) t) hmuxed' hfp' hnext hrest
        rw [hrun]
        refine ⟨c', rawPes c msg.chunk msg.length msg.mem :: pess, hrun', ?_, ?_⟩
        · rw [hunits']
          change unitsOf audioPid (packets t.output.emitted) ++ pess = _
          rw [hunits, List.append_assoc]
          rfl
        · refine List.Forall₂.cons ⟨?_, ?_⟩ hframes
          · exact ⟨_, Mem.length_slice _ _ _, pesPayload_rawPes⟩
          · rw [pesPayload_rawPes, adtsHeader_stored hstored, hraws,
              Nat.mod_eq_of_lt (by omega)]
            rfl

/-- Over any run of AAC messages, no frame is emitted before the first sequence header, and each
later frame is emitted as one PES packet: an ADTS header with the fields of the latest
configuration and the length of the frame, and the frame. -/
theorem rtmpProcessAudio_frames (pesBuf : Mem) (start : Nat) {calls : List Call} {c : RtmpClient}
    (hmuxer : runCalls (rtmpTots pesBuf true start) calls = .ok c.rtmpSavetots)
    (hlen : c.audioHeadDataLen = 0) {messages : List AudioMessage}
    (h : ∀ msg ∈ messages, msg.IsConfig ∨ msg.IsRaw ∧ msg.raw.length + 7 < 8192) :
    ∃ c' pess, processAudios c messages = .ok c' ∧
      unitsOf audioPid (packets c'.rtmpSavetots.output.emitted) =
        unitsOf audioPid (packets c.rtmpSavetots.output.emitted) ++ pess ∧
      List.Forall₂ CarriesFrame (framesOf none messages) pess := by
  obtain ⟨qs, -, hmuxed, hfp⟩ :=
    (muxed_rtmpTots pesBuf true start).streams rfl true (fun _ ↦ rfl) hmuxer
  have hstores : Stores c none := hlen
  exact frames_run hmuxed hfp hstores h

/-- A frame in front of any configuration, a configuration, and two frames. -/
def someAudio : List AudioMessage :=
  [audioMessage [0xaf, 1, 9], audioMessage [0xaf, 0, 0x12, 0x10], audioMessage [0xaf, 1, 1, 2, 3],
    audioMessage [0xaf, 1, 4]]

/-- Two of the four messages are emitted. -/
theorem rtmpProcessAudio_frames_two :
    ∃ c' pess, processAudios (rtmpClient blankClient) someAudio = .ok c' ∧
      unitsOf audioPid (packets c'.rtmpSavetots.output.emitted) =
        unitsOf audioPid (packets (rtmpClient blankClient).rtmpSavetots.output.emitted) ++ pess ∧
      List.Forall₂ CarriesFrame (framesOf none someAudio) pess := by
  have hmuxer : runCalls (rtmpTots (fun _ ↦ 0) true 0) [] =
    .ok (rtmpClient blankClient).rtmpSavetots := rfl
  exact rtmpProcessAudio_frames (fun _ ↦ 0) 0 hmuxer rfl (by decide)

end RtmpRecv.Client
