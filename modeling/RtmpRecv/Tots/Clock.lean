import Mathlib.Data.List.Forall2
import RtmpRecv.Tots.Runs
import RtmpRecv.Wire.Pes

/-!
# Clock reference and time stamps

Library `Tots`. The stage puts the presentation time of a video frame into the clock reference of
its first packet, and the builders put times into the PES headers. Both are read back from the
emitted packets by the rules of the format, which has 33 bits for each.
-/

namespace RtmpRecv.Tots
open RtmpRecv.Base RtmpRecv.Wire

/-! ### Reading the clock reference -/

private theorem pcr_last : ∀ a : Fin 2, ∀ b : Fin 2,
    ((a : Nat) * 128 ||| 0x7E ||| (b : Nat)) % 256 / 128 = a := by
  decide

private theorem and_0x80 (n : Nat) : n * 128 &&& 0x80 = n % 2 * 128 := by
  calc n * 128 &&& 0x80 = (n <<< 7) &&& (1 <<< 7) := by simp [Nat.shiftLeft_eq]
    _ = (n &&& 1) <<< 7 := Nat.shiftLeft_and_distrib.symm
    _ = n % 2 * 128 := by rw [Nat.and_one_is_mod, Nat.shiftLeft_eq]

/-- The bytes of a clock reference are those of its base. -/
theorem pcrBytes_read {pts : Nat} (h : pts * 300 < 18446744073709551616) :
    ((pcrBytes pts).getD 0 0).toNat * 33554432 + ((pcrBytes pts).getD 1 0).toNat * 131072 +
      ((pcrBytes pts).getD 2 0).toNat * 512 + ((pcrBytes pts).getD 3 0).toNat * 2 +
      ((pcrBytes pts).getD 4 0).toNat / 128 = pts % 8589934592 := by
  have hbase : pts * 300 % 18446744073709551616 / 300 = pts := by
    rw [Nat.mod_eq_of_lt h, Nat.mul_div_cancel _ (by decide)]
  have hlast := pcr_last ⟨pts % 2, Nat.mod_lt _ (by decide)⟩ 0
  have hext : pts * 300 % 18446744073709551616 % 300 = 0 := by
    rw [Nat.mod_eq_of_lt h, Nat.mul_mod_left]
  simp only [pcrBytes, hbase, hext, List.getD_cons_zero, List.getD_cons_succ,
    UInt8.toNat_ofNat', and_0x80]
  simp only [Fin.val_zero] at hlast
  change _ + (pts % 2 * 128 ||| 0x7E ||| 0) % 256 / 128 = _
  rw [hlast]
  clear hbase hext hlast h
  omega

private theorem pcr_extension : ∀ a : Fin 2, ((a : Nat) * 128 ||| 0x7E) % 256 % 2 = 0 := by
  decide

/-- The extension of a clock reference is zero. -/
theorem pcrBytes_extension {pts : Nat} (h : pts * 300 < 18446744073709551616) :
    ((pcrBytes pts).getD 4 0).toNat % 2 * 256 + ((pcrBytes pts).getD 5 0).toNat = 0 := by
  have hext : pts * 300 % 18446744073709551616 % 300 = 0 := by
    rw [Nat.mod_eq_of_lt h, Nat.mul_mod_left]
  have hbase : pts * 300 % 18446744073709551616 / 300 = pts := by
    rw [Nat.mod_eq_of_lt h, Nat.mul_div_cancel _ (by decide)]
  have hlast := pcr_extension ⟨pts % 2, Nat.mod_lt _ (by decide)⟩
  simp only [pcrBytes, hext, hbase, List.getD_cons_zero, List.getD_cons_succ, UInt8.toNat_ofNat',
    and_0x80]
  change (pts % 2 * 128 ||| 0x7E ||| 0) % 256 % 2 * 256 + 0 = 0
  rw [Nat.or_zero, hlast]

private theorem control_field : ∀ k : Fin 16,
    2 ≤ (UInt8.ofNat (0x30 ||| k)).toNat / 16 % 4 ∧
      ¬2 ≤ (UInt8.ofNat (0x10 ||| k)).toNat / 16 % 4 := by
  decide

/-- Only the first packet of a video frame carries a clock reference, and its base is the
presentation time of the frame. -/
theorem packetPcr_packet (pid count : Nat) (newPes : Bool) {pts : Nat}
    (hpts : pts * 300 < 18446744073709551616) (iSize : Nat) (body : List UInt8) :
    packetPcr (packetHead pid count newPes pts iSize ++ body) =
      if newPes ∧ pid = videoPid then some (pts % 8589934592) else none := by
  obtain ⟨hfield, hplain⟩ := control_field ⟨count % 16, Nat.mod_lt _ (by decide)⟩
  have hread := pcrBytes_read hpts
  unfold packetPcr packetHead
  by_cases hadapt : (newPes || iSize < 184) = true
  · simp only [if_pos hadapt]
    by_cases hpcr : newPes ∧ pid = videoPid
    · have hlen : 7 ≤ (UInt8.ofNat (7 + (176 - min iSize 176))).toNat := by
        rw [UInt8.toNat_ofNat', Nat.mod_eq_of_lt (by omega)]
        omega
      have hflag : (0x10 : UInt8).toNat / 16 % 2 = 1 := rfl
      simp only [if_pos hpcr]
      rw [if_pos ⟨hfield, hlen, hflag⟩]
      exact congrArg some hread
    · have hflag : ¬(0x00 : UInt8).toNat / 16 % 2 = 1 := by decide
      simp only [if_neg hpcr]
      by_cases hstuff : 184 - min iSize 184 > 1
      · simp only [if_pos hstuff]
        exact if_neg fun h ↦ hflag h.2.2
      · simp only [if_neg hstuff]
        exact if_neg fun h ↦ hflag h.2.2
  · have hnew : ¬(newPes = true ∧ pid = videoPid) := fun h ↦ hadapt (by simp [h.1])
    simp only [if_neg hadapt]
    rw [if_neg hnew]
    exact if_neg fun h ↦ hplain h.1

/-- The clock reference of a video frame has the extension zero. -/
theorem packetPcrExtension_packet (count : Nat) {pts : Nat}
    (hpts : pts * 300 < 18446744073709551616) (iSize : Nat) (body : List UInt8) :
    packetPcrExtension (packetHead videoPid count true pts iSize ++ body) = 0 :=
  pcrBytes_extension hpts

/-! ### Reading the time stamps -/

private theorem or_one_div (n : Nat) : (n ||| 0x01) / 2 = n / 2 := by
  rw [Nat.or_div_two]
  simp

/-- Of a number, only the bits of the mask count. -/
private theorem or_and_mod (k : Nat) {c mask : Nat} (hmask : 63 &&& mask = mask) :
    (k ||| c) &&& mask = (k % 64 ||| c) &&& mask := by
  have hlow (a : Nat) : a &&& mask = a % 64 &&& mask := by
    calc a &&& mask = a &&& (63 &&& mask) := by rw [hmask]
      _ = a &&& 63 &&& mask := (Nat.and_assoc a 63 mask).symm
      _ = a % 64 &&& mask := congrArg (· &&& mask) (Nat.and_two_pow_sub_one_eq_mod a 6)
  have hmod (a : Nat) : (a ||| c) % 64 = a % 64 ||| c % 64 := Nat.or_mod_two_pow (n := 6)
  rw [hlow (k ||| c), hlow (k % 64 ||| c), hmod, hmod, Nat.mod_mod]

private theorem high_bits : ∀ k : Fin 64,
    (((k : Nat) ||| 0x31) &&& 0x3f) / 16 = 3 ∧ (((k : Nat) ||| 0x11) &&& 0x1f) / 16 = 1 ∧
      (((k : Nat) ||| 0x21) &&& 0x2f) / 16 = 2 ∧
      ∀ b ∈ [((k : Nat) ||| 0x31) &&& 0x3f, ((k : Nat) ||| 0x11) &&& 0x1f,
        ((k : Nat) ||| 0x21) &&& 0x2f], b < 256 ∧ b % 2 = 1 ∧ b / 2 % 8 = k / 2 % 8 := by
  decide

/-- The first byte of a time stamp: the four bits `mark`, three bits of the time and a marker
bit. -/
private structure HighByte (k mark : Nat) (b : Nat) : Prop where
  lt : b < 256
  mark : b / 16 = mark
  marker : b % 2 = 1
  time : b / 2 % 8 = k / 2 % 8

private theorem pts_high (k : Nat) : HighByte k 3 ((k ||| 0x31) &&& 0x3f) := by
  obtain ⟨hmark, -, -, hbits⟩ := high_bits ⟨k % 64, Nat.mod_lt _ (by decide)⟩
  obtain ⟨hlt, hmarker, htime⟩ := hbits _ List.mem_cons_self
  rw [or_and_mod k (by decide)]
  exact ⟨hlt, hmark, hmarker, by dsimp only at htime; omega⟩

private theorem dts_high (k : Nat) : HighByte k 1 ((k ||| 0x11) &&& 0x1f) := by
  obtain ⟨-, hmark, -, hbits⟩ := high_bits ⟨k % 64, Nat.mod_lt _ (by decide)⟩
  obtain ⟨hlt, hmarker, htime⟩ := hbits _ (List.mem_cons_of_mem _ List.mem_cons_self)
  rw [or_and_mod k (by decide)]
  exact ⟨hlt, hmark, hmarker, by dsimp only at htime; omega⟩

private theorem audio_high (k : Nat) : HighByte k 2 ((k ||| 0x21) &&& 0x2f) := by
  obtain ⟨-, -, hmark, hbits⟩ := high_bits ⟨k % 64, Nat.mod_lt _ (by decide)⟩
  obtain ⟨hlt, hmarker, htime⟩ := hbits _
    (List.mem_cons_of_mem _ (List.mem_cons_of_mem _ List.mem_cons_self))
  rw [or_and_mod k (by decide)]
  exact ⟨hlt, hmark, hmarker, by dsimp only at htime; omega⟩

/-- The two low parts of a time stamp, with their marker bits. -/
private theorem low_parts (n : Nat) :
    (n / 16384 ||| 0x01) % 256 / 2 = n / 32768 % 128 ∧ (n * 2 ||| 0x01) % 256 / 2 = n % 128 := by
  have h := or_one_div (n / 16384)
  have h' := or_one_div (n * 2)
  constructor
  · omega
  · omega

/-- The five bytes of a time stamp whose first byte is `high`. -/
private def stampBytes (high n : Nat) : List UInt8 :=
  [UInt8.ofNat high, UInt8.ofNat (n / 4194304), UInt8.ofNat (n / 16384 ||| 0x01),
    UInt8.ofNat (n / 128), UInt8.ofNat (n * 2 ||| 0x01)]

/-- A time stamp is read as it was written, up to its 33 bits. -/
private theorem timeStamp_read {n mark high : Nat} (hhigh : HighByte (n / 536870912) mark high)
    {pes : List UInt8} {off : Nat}
    (hbytes : ∀ i < 5, pes.getD (off + i) 0 = (stampBytes high n).getD i 0) :
    TimeStampMarked pes off mark ∧ timeStampAt pes off = n % 8589934592 := by
  obtain ⟨h2, h4⟩ := low_parts n
  have hodd (a : Nat) : (a ||| 0x01) % 2 = 1 := Nat.or_mod_two_eq_one.2 (Or.inr rfl)
  have hmiddle := hodd (n / 16384)
  have hlow := hodd (n * 2)
  have hmark := hhigh.mark
  have hmarker := hhigh.marker
  have htime := hhigh.time
  have hlt := hhigh.lt
  have h0 : (pes.getD off 0).toNat = high := by
    have h := congrArg UInt8.toNat (hbytes 0 (by decide))
    exact h.trans ((UInt8.toNat_ofNat' ).trans (Nat.mod_eq_of_lt hlt))
  have hread (i : Nat) (hi : i < 5) (b : Nat)
      (hb : (stampBytes high n).getD i 0 = UInt8.ofNat b) :
      (pes.getD (off + i) 0).toNat = b % 256 := by
    rw [hbytes i hi, hb, UInt8.toNat_ofNat']
  have h1 := hread 1 (by decide) (n / 4194304) rfl
  have h2' := hread 2 (by decide) (n / 16384 ||| 0x01) rfl
  have h3 := hread 3 (by decide) (n / 128) rfl
  have h4' := hread 4 (by decide) (n * 2 ||| 0x01) rfl
  constructor
  · constructor
    · rw [h0, hmark]
    · rw [h0, hmarker]
    · rw [h2']
      omega
    · rw [h4']
      omega
  · rw [timeStampAt, h0, h1, h2', h3, h4', htime, h2, h4]
    omega

/-- The header of an audio PES packet. -/
theorem audioPes_header (pts : Nat) (pack : PackData) (t : RtmpTots) (m : Mem) {i : Nat}
    (h : i < 14) :
    ((audioPes pts pack t m).pesBuf.slice 0 (audioPes pts pack t m).pesLen).getD i 0 =
      (audioPesHeader (esLen pack) pts).getD i 0 := by
  have hlen : (audioPes pts pack t m).pesLen = esLen pack + 14 := rfl
  have hheader : (audioPesHeader (esLen pack) pts).length = 14 := rfl
  have hread := Mem.memcpy_inside t.pesBuf 0 (audioPesHeader (esLen pack) pts) i (by omega)
  rw [Mem.getD_slice _ _ _ _ _ (by omega), Nat.zero_add, List.getD_eq_getElem _ _ (by omega),
    ← hread, Nat.zero_add]
  exact copiedFrame_low _ h pack m

/-- The header of a video PES packet. -/
theorem videoPes_header (dts pts : Nat) (pack : PackData) (t : RtmpTots) (m : Mem) {i : Nat}
    (h : i < 19) :
    ((videoPes dts pts pack t m).pesBuf.slice 0 (videoPes dts pts pack t m).pesLen).getD i 0 =
      (videoPesHeader ++ rtmpTotsPacketPesSetTime pts dts).getD i 0 := by
  have hheader : (videoPesHeader ++ rtmpTotsPacketPesSetTime pts dts).length = 19 := rfl
  have hstart : videoPesStart dts pts t.pesBuf =
      t.pesBuf.memcpy 0 (videoPesHeader ++ rtmpTotsPacketPesSetTime pts dts) :=
    Mem.memcpy_memcpy t.pesBuf 0 videoPesHeader (rtmpTotsPacketPesSetTime pts dts)
  have hread := Mem.memcpy_inside t.pesBuf 0
    (videoPesHeader ++ rtmpTotsPacketPesSetTime pts dts) i (by omega)
  rw [← hstart, Nat.zero_add] at hread
  have hget := List.getD_eq_getElem (videoPesHeader ++ rtmpTotsPacketPesSetTime pts dts) 0
    (show i < _ by omega)
  rw [hget, ← hread]
  unfold videoPes
  split
  · dsimp only
    rw [Mem.getD_slice _ _ _ _ _ (by omega), Nat.zero_add, copiedFrame_low _ (by omega),
      Mem.memcpy_outside _ _ _ _ (Or.inl h)]
  · dsimp only
    rw [Mem.getD_slice _ _ _ _ _ (by omega), Nat.zero_add, copiedFrame_low _ h]

/-- The payload of a video PES packet is the frame, behind a delimiter where the test says that it
lacks one. -/
theorem pesPayload_built {call : Call} (htype : call.pack.type = .h264) (hfits : call.Fits)
    (hhead : call.pack.headData = none → call.pack.headDataLen = 0) (t : RtmpTots) :
    pesPayload ((call.built t).pesBuf.slice 0 (call.built t).pesLen) =
      (if lacksDelimiterAt (startTypeOf (startBytes call.pack call.mem))
          (delimiterBytes call.pack call.mem) then unitStart else []) ++
        frameBytes call.pack call.mem := by
  have hbuilt := call.built_h264 htype t
  have hsum : call.pack.headDataLen + call.pack.dataLen < 4294967296 := by
    have hlimit : esLimit .h264 = 4195303 := rfl
    have hle := hfits.2
    rw [htype, hlimit] at hle
    omega
  have hlength : ((call.built t).pesBuf.slice 0 (call.built t).pesLen).getD 8 0 = 0x0a := by
    rw [hbuilt, videoPes_header _ _ _ _ _ (by decide)]
    rfl
  unfold pesPayload
  rw [hlength, hbuilt]
  exact videoPes_payload call.dts (call.pts t) (call.noted t) call.mem hhead hsum

/-- The PES packet of an audio frame carries the time of the call. -/
theorem stamp_audioPes (pts : Nat) (pack : PackData) (t : RtmpTots) (m : Mem) {pes : List UInt8}
    (hpes : (audioPes pts pack t m).pesBuf.slice 0 (audioPes pts pack t m).pesLen = pes) :
    TimeStampMarked pes 9 2 ∧ pesPts pes = pts % 8589934592 := by
  apply timeStamp_read (audio_high (pts / 536870912))
  intro i hi
  have hsplit : audioPesHeader (esLen pack) pts = (audioPesHeader (esLen pack) pts).take 9 ++
      stampBytes ((pts / 536870912 ||| 0x21) &&& 0x2f) pts := rfl
  rw [← hpes, audioPes_header pts pack t m (show 9 + i < 14 by omega), hsplit]
  exact getD_behind rfl i

/-- The PES packet of a video frame carries both times of the call. -/
theorem stamps_videoPes (dts pts : Nat) (pack : PackData) (t : RtmpTots) (m : Mem)
    {pes : List UInt8}
    (hpes : (videoPes dts pts pack t m).pesBuf.slice 0 (videoPes dts pts pack t m).pesLen = pes) :
    (TimeStampMarked pes 9 3 ∧ pesPts pes = pts % 8589934592) ∧
      TimeStampMarked pes 14 1 ∧ pesDts pes = dts % 8589934592 := by
  constructor
  · apply timeStamp_read (pts_high (pts / 536870912))
    intro i hi
    have hsplit : rtmpTotsPacketPesSetTime pts dts =
        stampBytes ((pts / 536870912 ||| 0x31) &&& 0x3f) pts ++
          stampBytes ((dts / 536870912 ||| 0x11) &&& 0x1f) dts := rfl
    have hlen : videoPesHeader.length = 9 := rfl
    rw [← hpes, videoPes_header dts pts pack t m (show 9 + i < 19 by omega), getD_behind hlen,
      hsplit]
    exact List.getD_append _ _ _ _ hi
  · apply timeStamp_read (dts_high (dts / 536870912))
    intro i hi
    have hsplit : videoPesHeader ++ rtmpTotsPacketPesSetTime pts dts =
        videoPesHeader ++ stampBytes ((pts / 536870912 ||| 0x31) &&& 0x3f) pts ++
          stampBytes ((dts / 536870912 ||| 0x11) &&& 0x1f) dts := rfl
    rw [← hpes, videoPes_header dts pts pack t m (show 14 + i < 19 by omega), hsplit]
    exact getD_behind rfl i

/-- A time that the format has bits for is read back. -/
theorem pesPts_audioPes {pts : Nat} (h : pts < 8589934592) (pack : PackData) (t : RtmpTots)
    (m : Mem) :
    pesPts ((audioPes pts pack t m).pesBuf.slice 0 (audioPes pts pack t m).pesLen) = pts := by
  obtain ⟨-, hread⟩ := stamp_audioPes pts pack t m rfl
  rw [hread, Nat.mod_eq_of_lt h]

theorem times_videoPes {dts pts : Nat} (hd : dts < 8589934592) (hp : pts < 8589934592)
    (pack : PackData) (t : RtmpTots) (m : Mem) :
    pesPts ((videoPes dts pts pack t m).pesBuf.slice 0 (videoPes dts pts pack t m).pesLen) = pts ∧
      pesDts ((videoPes dts pts pack t m).pesBuf.slice 0
        (videoPes dts pts pack t m).pesLen) = dts := by
  obtain ⟨⟨-, hpts⟩, -, hdts⟩ := stamps_videoPes dts pts pack t m rfl
  rw [hpts, hdts]
  exact ⟨Nat.mod_eq_of_lt hp, Nat.mod_eq_of_lt hd⟩

/-- A time stamp behind other bytes. -/
private theorem timeStamp_behind {n mark high : Nat} (hhigh : HighByte (n / 536870912) mark high)
    {front : List UInt8} {off : Nat} (hfront : front.length = off) (rest : List UInt8) :
    timeStampAt (front ++ (stampBytes high n ++ rest)) off = n % 8589934592 := by
  refine (timeStamp_read hhigh fun i hi ↦ ?_).2
  rw [getD_behind hfront]
  exact List.getD_append _ _ _ _ hi

/-- The header of a video packet is read as it was written. -/
theorem videoPesHeader_read (pts dts : Nat) (payload : List UInt8) :
    pesPts (videoPesHeader ++ rtmpTotsPacketPesSetTime pts dts ++ payload) = pts % 8589934592 ∧
      pesDts (videoPesHeader ++ rtmpTotsPacketPesSetTime pts dts ++ payload) =
        dts % 8589934592 ∧
      pesPayload (videoPesHeader ++ rtmpTotsPacketPesSetTime pts dts ++ payload) = payload := by
  have hsplit : videoPesHeader ++ rtmpTotsPacketPesSetTime pts dts ++ payload =
      videoPesHeader ++ (stampBytes ((pts / 536870912 ||| 0x31) &&& 0x3f) pts ++
        (stampBytes ((dts / 536870912 ||| 0x11) &&& 0x1f) dts ++ payload)) := rfl
  refine ⟨?_, ?_, rfl⟩
  · rw [hsplit]
    exact timeStamp_behind (pts_high _) rfl _
  · rw [hsplit, ← List.append_assoc]
    exact timeStamp_behind (dts_high _) rfl _

/-- The header of an audio packet is read as it was written. -/
theorem audioPesHeader_read (n pts : Nat) (payload : List UInt8) :
    pesPts (audioPesHeader n pts ++ payload) = pts % 8589934592 ∧
      pesPayload (audioPesHeader n pts ++ payload) = payload := by
  have hsplit : audioPesHeader n pts ++ payload = (audioPesHeader n pts).take 9 ++
      (stampBytes ((pts / 536870912 ||| 0x21) &&& 0x2f) pts ++ payload) := rfl
  refine ⟨?_, rfl⟩
  rw [hsplit]
  exact timeStamp_behind (audio_high _) rfl _

/-! ### The clock of a run -/

private theorem packetPcr_rest {pts : Nat} (h : pts * 300 < 18446744073709551616)
    (pid fuel count : Nat)
    (bytes : List UInt8) :
    ∀ p ∈ cutPes pid pts fuel count false bytes, packetPcr p = none := by
  induction fuel generalizing count bytes with
  | zero =>
    intro p hp
    cases hp
  | succ fuel ih =>
    intro p hp
    by_cases hnil : bytes = []
    · rw [hnil, cutPes_nil] at hp
      cases hp
    · rw [cutPes_cons hnil] at hp
      rcases List.mem_cons.1 hp with rfl | hp
      · rw [packetPcr_packet _ _ _ h]
        simp
      · exact ih _ _ p hp

/-- The packets of a video frame carry one clock reference, in the packet that starts it. -/
theorem framePackets_clock {pts : Nat} (hpts : pts * 300 < 18446744073709551616) {t : RtmpTots}
    (h : 0 < t.pesLen) :
    ∃ first rest, framePackets pts videoPid t = first :: rest ∧
      (packetPcr first = some (pts % 8589934592) ∧ packetPcrExtension first = 0) ∧
      packetStarts first = true ∧ ∀ p ∈ rest, packetPcr p = none ∧ packetStarts p = false := by
  obtain ⟨n, hn⟩ : ∃ n, t.pesLen = n + 1 := ⟨t.pesLen - 1, by omega⟩
  have hne : t.pesBuf.slice 0 (n + 1) ≠ [] := by
    rw [Mem.slice_succ]
    exact List.cons_ne_nil _ _
  have hpos : 0 < (t.pesBuf.slice 0 (n + 1)).length := List.length_pos_iff.2 hne
  have hcopy := packetCopy_bounds videoPid true hpos
  unfold framePackets pesPackets
  rw [hn, Mem.length_slice, cutPes_cons hne]
  refine ⟨_, _, rfl, ?_, ?_, ?_⟩
  · constructor
    · rw [packetPcr_packet _ _ _ hpts, if_pos ⟨rfl, rfl⟩]
    · exact packetPcrExtension_packet _ hpts _ _
  · exact (packet_read (Or.inl rfl) _ true pts hpos (List.length_take_of_le hcopy.2)).2.2.1
  · intro p hp
    constructor
    · exact packetPcr_rest hpts _ _ _ _ p hp
    · refine (carries_cutPes (Or.inl rfl) pts _ false ?_).starts rfl p hp
      have hlen := Mem.length_slice t.pesBuf 0 (n + 1)
      rw [List.length_drop]
      omega

/-- The video frames that pass the size check. -/
def videoSent (calls : List Call) : List Call :=
  calls.filter fun call ↦ call.pack.type = .h264 ∧ call.Fits

/-- Times of the video frames that the format has bits for. -/
def VideoInRange (calls : List Call) : Prop :=
  ∀ call ∈ calls, call.pack.type = .h264 →
    call.pack.decodeMs * 90 < 8589934592 ∧ call.pack.pictureMs * 90 < 8589934592

/-- What the clock references and decoding times of a run are. -/
theorem Streams.clock {first : Bool} {t : RtmpTots} {calls : List Call} {ps : List (List UInt8)}
    (h : Streams first t calls ps) (hrange : VideoInRange calls) :
    (streamOf videoPid ps).filterMap packetPcr =
        (videoSent calls).map (fun call ↦ call.pack.pictureMs * 90) ∧
      ((streamOf videoPid ps).filter packetStarts).map packetPcr =
        (videoSent calls).map (fun call ↦ some (call.pack.pictureMs * 90)) ∧
      (builtFor videoPid t calls).map pesDts =
        (videoSent calls).map (fun call ↦ call.pack.decodeMs * 90) := by
  induction h with
  | nil => exact ⟨rfl, rfl, rfl⟩
  | @dropped first t t' call calls ret ps hfits hresult hlast hrest ih =>
    have hnot : ¬(call.Fits ∧ pidOf call.pack.type = some videoPid) := fun h ↦ hfits h.1
    have hsent : videoSent (call :: calls) = videoSent calls := by
      simp [videoSent, hfits]
    rw [hsent, builtFor, hresult]
    dsimp only
    rw [if_neg hnot]
    exact ih fun call hcall ↦ hrange call (List.mem_cons_of_mem _ hcall)
  | @sent first t t' call calls pid tables frame ps hfits hpid hresult htables hfront hframe hne
      hcut hkept hrest ih =>
    have ih := ih fun call hcall ↦ hrange call (List.mem_cons_of_mem _ hcall)
    have htable := streamOf_other (isTables_other htables (Or.inl rfl))
    have hsplit : streamOf videoPid (tables ++ frame ++ ps) =
        streamOf videoPid frame ++ streamOf videoPid ps := by
      rw [streamOf_append, streamOf_append, htable, List.nil_append]
    rw [hsplit, builtFor, hresult]
    dsimp only
    rcases pidOf_cases hpid with ⟨htype, rfl⟩ | ⟨htype, rfl⟩
    · obtain ⟨hdts, hpts⟩ := hrange call List.mem_cons_self htype
      have hcallPts : call.pts t = call.pack.pictureMs * 90 := by
        rw [Call.pts, htype]
        dsimp only
        exact Nat.mod_eq_of_lt (by omega)
      have hcallDts : call.dts = call.pack.decodeMs * 90 := Nat.mod_eq_of_lt (by omega)
      have hbuilt : call.built t =
          videoPes call.dts (call.pts t) call.pack (call.noted t) call.mem := by
        rw [Call.built, htype]
      obtain ⟨-, hunit⟩ := times_videoPes (hcallDts ▸ hdts) (hcallPts ▸ hpts) call.pack
        (call.noted t) call.mem
      rw [← hbuilt, ← hkept.pesBuf, ← hkept.pesLen, hcallDts] at hunit
      have hclock : call.pts t * 300 < 18446744073709551616 := by
        rw [hcallPts]
        omega
      obtain ⟨p, rest, hcons, ⟨hpcr, -⟩, hstart, hnone⟩ := framePackets_clock hclock
        (call.pesLen_built t hpid hfits.2).1
      rw [← hcut] at hcons
      rw [hcallPts, Nat.mod_eq_of_lt hpts] at hpcr
      have hsent : videoSent (call :: calls) = call :: videoSent calls := by
        simp [videoSent, htype, hfits]
      have hpcrs : rest.filterMap packetPcr = [] :=
        List.filterMap_eq_nil_iff.2 fun q hq ↦ (hnone q hq).1
      have hstarts : rest.filter packetStarts = [] := by
        apply List.filter_eq_nil_iff.2
        intro q hq
        simp [(hnone q hq).2]
      rw [streamOf_same fun q hq ↦ (hframe.wellFormed q hq).2, hsent, if_pos ⟨hfits, hpid⟩, hcons]
      refine ⟨?_, ?_, ?_⟩
      · simp [hpcr, hpcrs, ih.1]
      · simp [hpcr, hstart, hstarts, ih.2.1]
      · simp [hunit, ih.2.2]
    · have hother : audioPid ≠ videoPid := by decide
      have hnot : ¬(call.Fits ∧ pidOf call.pack.type = some videoPid) := by
        rintro ⟨-, hvideo⟩
        exact hother (Option.some.inj (hpid.symm.trans hvideo))
      have hsent : videoSent (call :: calls) = videoSent calls := by
        simp [videoSent, htype]
      rw [streamOf_other fun q hq ↦ (hframe.wellFormed q hq).2 ▸ hother, hsent, if_neg hnot,
        List.nil_append]
      exact ih

/-! ### The clock reference -/

/-- The clock references of the video packets never go back, and the one in the first packet of
a frame is not later than the decoding time of the frame. -/
def ClockValid (ps : List (List UInt8)) : Prop :=
  ((streamOf videoPid ps).filterMap packetPcr).IsChain (· ≤ ·) ∧
    List.Forall₂ (fun pcr dts ↦ ∃ c, pcr = some c ∧ c ≤ dts)
      (((streamOf videoPid ps).filter packetStarts).map packetPcr)
      ((unitsOf videoPid ps).map pesDts)

/-- The video frames come in the order of their decoding times, and each is shown at most a
second after it is decoded. -/
structure VideoOrdered (calls : List Call) : Prop where
  ordered : ((calls.filter fun call ↦ call.pack.type = .h264).map
    fun call ↦ call.pack.decodeMs).IsChain (· ≤ ·)
  near : ∀ call ∈ calls, call.pack.type = .h264 →
    call.pack.decodeMs ≤ call.pack.pictureMs ∧ call.pack.pictureMs ≤ call.pack.decodeMs + 1000
  inRange : VideoInRange calls

/-- Frames that are shown when they are decoded are sent in the order of their times. -/
private theorem isChain_videoSent {calls : List Call} (h : VideoOrdered calls)
    (heq : ∀ call ∈ videoSent calls, call.pack.pictureMs = call.pack.decodeMs) :
    ((videoSent calls).map fun call ↦ call.pack.pictureMs * 90).IsChain (· ≤ ·) := by
  have hsub : (videoSent calls).Sublist
      (calls.filter fun call ↦ call.pack.type = .h264) := by
    have hfilter : videoSent calls =
        (calls.filter fun call ↦ call.pack.type = .h264).filter fun call ↦ call.Fits := by
      simp [videoSent, List.filter_filter, Bool.and_comm]
    rw [hfilter]
    exact List.filter_sublist
  have hpair := List.isChain_iff_pairwise.1 h.ordered
  have hsent := List.pairwise_map.1 hpair |>.sublist hsub
  apply List.isChain_iff_pairwise.2
  apply List.pairwise_map.2
  apply hsent.imp_of_mem
  intro a b ha hb hab
  rw [heq a ha, heq b hb]
  omega

/-- The clock reference is a valid clock exactly when every video frame that is sent is shown
when it is decoded: what it carries is the presentation time. -/
theorem rtmpTotsPacketTsHeader_clock (pesBuf : Mem) (start : Nat) (calls : List Call)
    (h : VideoOrdered calls) :
    RunsTo (rtmpTots pesBuf true start) calls fun t ↦
      ClockValid (packets t.output.emitted) ↔
        ∀ call ∈ videoSent calls, call.pack.pictureMs = call.pack.decodeMs := by
  have hfresh := muxed_rtmpTots pesBuf true start
  apply hfresh.runsTo
  intro t hrun
  obtain ⟨ps, hstreams, hmuxed, -⟩ := hfresh.streams rfl true (fun _ ↦ rfl) hrun
  obtain ⟨hpcrs, hfirst, hdts⟩ := hstreams.clock h.inRange
  have hunits := hstreams.unitsOf (Or.inl rfl) []
  rw [List.nil_append] at hmuxed
  rw [hmuxed.packets]
  change _ = [] ++ builtFor _ _ _ at hunits
  rw [List.nil_append, List.nil_append] at hunits
  unfold ClockValid
  rw [hpcrs, hfirst, hunits, hdts, List.forall₂_map_left_iff, List.forall₂_map_right_iff,
    List.forall₂_same]
  constructor
  · rintro ⟨-, hle⟩ call hcall
    obtain ⟨c, hc, hcle⟩ := hle call hcall
    have hmem : call ∈ calls ∧ call.pack.type = .h264 := by
      have hsent := List.mem_filter.1 hcall
      exact ⟨hsent.1, by simpa using (of_decide_eq_true hsent.2).1⟩
    have hnear := (h.near call hmem.1 hmem.2).1
    have hpcr := Option.some.inj hc
    omega
  · intro heq
    refine ⟨isChain_videoSent h heq, ?_⟩
    intro call hcall
    exact ⟨_, rfl, Nat.le_of_eq (congrArg (· * 90) (heq call hcall))⟩

/-- A call with a video frame of four bytes. -/
def videoCall (decodeMs pictureMs : Nat) : Call where
  now := 40
  pack :=
    { type := .h264, decodeMs := decodeMs, pictureMs := pictureMs, headData := none
      headDataLen := 0, data := 0, dataLen := 4, isKeyframe := false }
  mem := Mem.ofList [1, 2, 3, 4]

/-- Two frames that are shown when they are decoded. -/
theorem rtmpTotsPacketTsHeader_clock_two :
    RunsTo (rtmpTots (fun _ ↦ 0) true 5) [videoCall 20 20, videoCall 60 60] fun t ↦
      ClockValid (packets t.output.emitted) ↔
        ∀ call ∈ videoSent [videoCall 20 20, videoCall 60 60],
          call.pack.pictureMs = call.pack.decodeMs :=
  rtmpTotsPacketTsHeader_clock (fun _ ↦ 0) 5 _
    ⟨by decide, by decide, by unfold VideoInRange; decide⟩

/-- A frame that is shown after the next one: its clock reference is later than its decoding time,
and the next clock reference goes back. -/
theorem rtmpTotsPacketTsHeader_clock_late :
    VideoOrdered [videoCall 20 100, videoCall 60 60] ∧
      ∃ ps, runPackets (rtmpTots (fun _ ↦ 0) true 5) [videoCall 20 100, videoCall 60 60] = some ps ∧
        (streamOf videoPid ps).filterMap packetPcr = [9000, 5400] ∧
        (unitsOf videoPid ps).map pesDts = [1800, 5400] ∧ ¬ClockValid ps := by
  have hrun : (runPackets (rtmpTots (fun _ ↦ 0) true 5) [videoCall 20 100, videoCall 60 60]).map
      (fun ps ↦ ((streamOf videoPid ps).filterMap packetPcr, (unitsOf videoPid ps).map pesDts)) =
        some ([9000, 5400], [1800, 5400]) := by
    decide +kernel
  obtain ⟨ps, hps, hvalues⟩ := Option.map_eq_some_iff.1 hrun
  obtain ⟨hpcrs, hdts⟩ := Prod.mk.inj hvalues
  refine ⟨⟨by decide, by decide, by unfold VideoInRange; decide⟩, ps, hps, hpcrs, hdts, ?_⟩
  rintro ⟨hchain, -⟩
  rw [hpcrs] at hchain
  exact absurd hchain (by decide)

end RtmpRecv.Tots
