import RtmpRecv.Tots.Pes

/-!
# What the muxer reads of a message

Library `Tots`. The muxer copies the data of a frame, and before that it looks for a start
code: in the head data when there is some, else in the data. Only the second search can go
past the end of the data.
-/

namespace RtmpRecv.Tots
open RtmpRecv.Base

/-- The bytes behind a pointer. -/
def Pointer.bytes (m : Mem) : Pointer → Mem
  | .head h => h
  | .data off => m.shift off

/-- The start that the tests of `rtmp_tots_packet_from_cache` find. -/
def startTypeOf (p : Mem) : EsUnitStartType :=
  if p 0 = 0x00 ∧ p 1 = 0x00 ∧ p 2 = 0x00 ∧ p 3 = 0x01 then .startcode4
  else if p 0 = 0x00 ∧ p 1 = 0x00 ∧ p 2 = 0x01 then .startcode3
  else if p 0 = 0xff ∧ p 1 &&& 0xf0 = 0xf0 then .aac
  else .init

theorem startTypeOf_startcode4 {p : Mem} (h : startTypeOf p = .startcode4) :
    p 0 = 0x00 ∧ p 1 = 0x00 ∧ p 2 = 0x00 ∧ p 3 = 0x01 := by
  by_contra h4
  unfold startTypeOf at h
  rw [if_neg h4] at h
  by_cases h3 : p 0 = 0x00 ∧ p 1 = 0x00 ∧ p 2 = 0x01
  · rw [if_pos h3] at h
    cases h
  · by_cases haac : p 0 = 0xff ∧ p 1 &&& 0xf0 = 0xf0
    · rw [if_neg h3, if_pos haac] at h
      cases h
    · rw [if_neg h3, if_neg haac] at h
      cases h

theorem startTypeOf_startcode3 {p : Mem} (h : startTypeOf p = .startcode3) :
    p 0 = 0x00 ∧ p 1 = 0x00 ∧ p 2 = 0x01 := by
  by_contra h3
  unfold startTypeOf at h
  rw [if_neg h3] at h
  by_cases h4 : p 0 = 0x00 ∧ p 1 = 0x00 ∧ p 2 = 0x00 ∧ p 3 = 0x01
  · rw [if_pos h4] at h
    cases h
  · by_cases haac : p 0 = 0xff ∧ p 1 &&& 0xf0 = 0xf0
    · rw [if_neg h4, if_pos haac] at h
      cases h
    · rw [if_neg h4, if_neg haac] at h
      cases h

theorem run_at (p : Pointer) (i : Nat) (m : Mem) : (p.at i).run m = (.ok (p.bytes m i), m) := by
  cases p <;> rfl

/-- The tests find what the bytes say. -/
theorem run_unitStartType (p : Pointer) (m : Mem) :
    (unitStartType p).run m = (.ok (startTypeOf (p.bytes m)), m) := by
  have hat (i : Nat) {β : Type} (f : UInt8 → Access Fault β) :
      ((p.at i).bind f).run m = (f (p.bytes m i)).run m := Access.run_bind_ok (run_at p i m) f
  unfold unitStartType startTypeOf
  simp only [Access.bind_eq, Access.pure_eq_ret, hat]
  by_cases h0 : p.bytes m 0 = 0
  · by_cases h1 : p.bytes m 1 = 0
    · by_cases h2 : p.bytes m 2 = 0
      · by_cases h3 : p.bytes m 3 = 1 <;> simp [hat, h0, h1, h2, h3]
      · by_cases h2' : p.bytes m 2 = 1 <;> simp [hat, h0, h1, h2, h2']
    · simp [hat, h0, h1]
  · by_cases hff : p.bytes m 0 = 0xff
    · by_cases h1 : p.bytes m 1 &&& 0xf0 = 0xf0 <;> simp [hat, hff, h1]
    · simp [hat, h0, hff]

theorem touched_head (h : Mem) (i : Nat) (m : Mem) :
    ((Pointer.head h).at i).touched m = [] := rfl

/-- The tests read nothing of the message when the pointer is to the head data. -/
theorem touched_unitStartType_head (h m : Mem) : (unitStartType (.head h)).touched m = [] := by
  have hat (i : Nat) {β : Type} (f : UInt8 → Access Fault β) :
      (((Pointer.head h).at i).bind f).touched m = (f (h i)).touched m := by
    rw [Access.touched_bind_ok (run_at (.head h) i m), touched_head, List.nil_append]
    rfl
  unfold unitStartType
  simp only [Access.bind_eq, Access.pure_eq_ret, hat]
  by_cases h0 : h 0 = 0
  · by_cases h1 : h 1 = 0
    · by_cases h2 : h 2 = 0
      · by_cases h3 : h 3 = 1 <;> simp [hat, h0, h1, h2, h3]
      · by_cases h2' : h 2 = 1 <;> simp [hat, h0, h1, h2, h2']
    · simp [hat, h0, h1]
  · by_cases hff : h 0 = 0xff
    · by_cases h1 : h 1 &&& 0xf0 = 0xf0 <;> simp [hat, hff, h1]
    · simp [hat, h0, hff]

/-- Data in which the search for a start code ends before the data does. -/
def StartInside (data : List UInt8) : Prop :=
  data ≠ [] ∧ data ≠ [0xff] ∧ data ≠ [0] ∧ data ≠ [0, 0] ∧ data ≠ [0, 0, 0]

instance (data : List UInt8) : Decidable (StartInside data) :=
  inferInstanceAs (Decidable (data ≠ [] ∧ data ≠ [0xff] ∧ data ≠ [0] ∧ data ≠ [0, 0] ∧
    data ≠ [0, 0, 0]))

/-- The number of bytes that the tests look at. -/
def startReach (p : Mem) : Nat :=
  if p 0 = 0xff then 2
  else if p 0 = 0 then if p 1 = 0 then if p 2 = 0 then 4 else 3 else 2
  else 1

private theorem within_unitStartType_data (off n : Nat) (m : Mem) :
    (unitStartType (.data off)).Within m n ↔ off + startReach (m.shift off) ≤ n := by
  unfold unitStartType startReach
  simp only [Access.bind_eq, Access.pure_eq_ret, Pointer.at, Access.get_bind,
    Access.within_read, Mem.shift, Nat.add_zero]
  by_cases h0 : m off = 0
  · by_cases h1 : m (off + 1) = 0
    · by_cases h2 : m (off + 2) = 0
      · by_cases h3 : m (off + 3) = 1 <;> simp [h0, h1, h2, h3] <;> omega
      · by_cases h2' : m (off + 2) = 1 <;> simp [h0, h1, h2, h2'] <;> omega
    · simp [h0, h1]
      omega
  · by_cases hff : m off = 0xff
    · by_cases h1 : m (off + 1) &&& 0xf0 = 0xf0 <;> simp [hff, h1] <;> omega
    · simp [h0, hff, Nat.add_one_le_iff]

private theorem startReach_bounds (p : Mem) : 1 ≤ startReach p ∧ startReach p ≤ 4 := by
  unfold startReach
  split_ifs <;> omega

/-- The tests stay inside the data exactly when the search ends there. -/
theorem within_unitStartType (off d : Nat) (m : Mem) :
    (unitStartType (.data off)).Within m (off + d) ↔ StartInside (m.slice off d) := by
  obtain ⟨hlow, hhigh⟩ := startReach_bounds (m.shift off)
  have hne : ¬(0xff : UInt8) = 0 := by decide
  have hne' : ¬(0 : UInt8) = 0xff := by decide
  rw [within_unitStartType_data, Nat.add_le_add_iff_left]
  match d with
  | 0 => exact iff_of_false (by omega) (fun h ↦ h.1 rfl)
  | 1 =>
    unfold StartInside startReach
    simp only [Mem.shift, Nat.add_zero, Mem.slice_succ, Mem.slice_zero]
    by_cases hff : m off = 0xff
    · simp [hff]
    · by_cases h0 : m off = 0
      · by_cases h1 : m (off + 1) = 0
        · by_cases h2 : m (off + 2) = 0 <;> simp [h0, h1, h2]
        · simp [h0, h1]
      · simp [h0, hff]
  | 2 =>
    unfold StartInside startReach
    simp only [Mem.shift, Nat.add_zero, Mem.slice_succ, Mem.slice_zero]
    by_cases hff : m off = 0xff
    · simp [hff]
    · by_cases h0 : m off = 0
      · by_cases h1 : m (off + 1) = 0
        · by_cases h2 : m (off + 2) = 0 <;> simp [h0, h1, h2]
        · simp [h0, h1]
      · simp [h0, hff]
  | 3 =>
    unfold StartInside startReach
    simp only [Mem.shift, Nat.add_zero, Mem.slice_succ, Mem.slice_zero]
    by_cases hff : m off = 0xff
    · simp [hff]
    · by_cases h0 : m off = 0
      · by_cases h1 : m (off + 1) = 0
        · by_cases h2 : m (off + 2) = 0 <;> simp [h0, h1, h2]
        · simp [h0, h1]
      · simp [h0, hff]
  | d + 4 =>
    refine iff_of_true (by omega) ?_
    unfold StartInside
    simp [Mem.slice_succ]

/-! ### Copies -/

theorem stays_copyToPes (t : RtmpTots) (off : Nat) (bytes : List UInt8) (n : Nat) :
    (copyToPes t off bytes).Stays n :=
  Access.Stays.ite (fun _ ↦ Access.Stays.fail) fun _ ↦ Access.Stays.ret

theorem stays_copyHead (t : RtmpTots) (off : Nat) (pack : PackData) (n : Nat) :
    (copyHead t off pack).Stays n := by
  unfold copyHead
  split
  · exact Access.Stays.ite (fun _ ↦ Access.Stays.fail) fun _ ↦ stays_copyToPes _ _ _ _
  · exact Access.Stays.ret

/-- The copies read the data and nothing else. -/
theorem stays_copyFrame (t : RtmpTots) (off : Nat) (pack : PackData) (n : Nat)
    (h : pack.data + pack.dataLen ≤ n) : (copyFrame t off pack).Stays n := by
  unfold copyFrame
  refine Access.Stays.bind_of_forall (stays_copyHead t off pack n) fun t ↦ ?_
  refine Access.Stays.ite (fun _ ↦ Access.Stays.fail) fun _ ↦ ?_
  exact Access.Stays.bind_of_forall (Access.Stays.getList h) fun bytes ↦ stays_copyToPes _ _ _ _

theorem stays_sendPes (now pts : Nat) (t : RtmpTots) (n : Nat) : (sendPes now pts t).Stays n := by
  unfold sendPes
  split
  · exact Access.Stays.fail
  · exact Access.Stays.ret

theorem stays_unitStartType_head (h : Mem) (n : Nat) : (unitStartType (.head h)).Stays n := by
  intro m i hi
  rw [touched_unitStartType_head] at hi
  cases hi

theorem stays_rtmpTotsPacketPesAudioHeader (now pts : Nat) (pack : PackData) (t : RtmpTots)
    (n : Nat) (h : pack.data + pack.dataLen ≤ n) :
    (rtmpTotsPacketPesAudioHeader now pts pack t).Stays n := by
  unfold rtmpTotsPacketPesAudioHeader
  refine Access.Stays.bind_of_forall (stays_copyToPes _ _ _ _) fun t ↦ ?_
  refine Access.Stays.ite (fun _ ↦ Access.Stays.ret) fun _ ↦ ?_
  exact Access.Stays.bind_of_forall (stays_copyFrame _ _ _ _ h) fun t ↦ stays_sendPes _ _ _ _

/-- An audio frame with head data: the muxer reads the data. -/
theorem stays_fromCache_aac (now : Nat) (pack : PackData) (t : RtmpTots) (n : Nat) (head : Mem)
    (htype : pack.type = .aac) (hhead : pack.headData = some head)
    (h : pack.data + pack.dataLen ≤ n) : (rtmpTotsPacketFromCache now pack t).Stays n := by
  unfold rtmpTotsPacketFromCache
  rw [hhead]
  refine Access.Stays.bind_of_forall (stays_unitStartType_head head n) fun unitType ↦ ?_
  rw [htype]
  exact stays_rtmpTotsPacketPesAudioHeader _ _ _ _ _ h

/-- A frame of no type: the muxer looks for a start code and reads nothing else. -/
theorem within_fromCache_unset (now d : Nat) (pack : PackData) (t : RtmpTots) (m : Mem)
    (htype : pack.type = .unset) (hhead : pack.headData = none) :
    (rtmpTotsPacketFromCache now pack t).Within m (pack.data + d) ↔
      StartInside (m.slice pack.data d) := by
  unfold rtmpTotsPacketFromCache
  rw [hhead]
  dsimp only [Access.bind_eq]
  rw [Access.within_bind_iff (run_unitStartType (.data pack.data) m), within_unitStartType, htype]
  exact and_iff_left (Access.within_ret _ _ _)

/-- The byte that the test for a delimiter looks at lies inside `d` bytes. -/
def DelimiterInside (unitType : EsUnitStartType) (d : Nat) : Prop :=
  (unitType = .startcode3 → 4 ≤ d) ∧ (unitType = .startcode4 → 5 ≤ d)

theorem stays_lacksDelimiter_head (unitType : EsUnitStartType) (h : Mem) (n : Nat) :
    (lacksDelimiter unitType (.head h)).Stays n := by
  unfold lacksDelimiter
  split
  · exact Access.Stays.ret
  · exact Access.Stays.ret
  · exact Access.Stays.ret

theorem within_lacksDelimiter_data (unitType : EsUnitStartType) (off d : Nat) (m : Mem) :
    (lacksDelimiter unitType (.data off)).Within m (off + d) ↔ DelimiterInside unitType d := by
  unfold lacksDelimiter DelimiterInside Pointer.at
  cases unitType with
  | startcode3 =>
    simp only [Access.bind_eq, Access.get_bind, Access.within_read, Access.pure_eq_ret,
      Access.within_ret, and_true, forall_const, reduceCtorEq, false_implies]
    omega
  | startcode4 =>
    simp only [Access.bind_eq, Access.get_bind, Access.within_read, Access.pure_eq_ret,
      Access.within_ret, and_true, true_and, forall_const, reduceCtorEq, false_implies]
    omega
  | init => simp
  | aac => simp

/-- A copy that fits. -/
theorem copyToPes_fits (t : RtmpTots) (off : Nat) (bytes : List UInt8)
    (h : off + bytes.length ≤ packetPesBuf) :
    copyToPes t off bytes = .ret { t with pesBuf := t.pesBuf.memcpy off bytes } := by
  unfold copyToPes
  rw [if_neg (by omega)]
  rfl

/-- The first bytes of a video PES packet. -/
def videoPesStart (dts pts : Nat) (buf : Mem) : Mem :=
  (buf.memcpy 0 videoPesHeader).memcpy 9 (rtmpTotsPacketPesSetTime pts dts)

/-- The two header copies of a video frame fit. -/
theorem rtmpTotsPacketPesVideoHeader_eq (now dts pts : Nat) (pack : PackData) (t : RtmpTots)
    (p : Pointer)
    (hp : p = match pack.headData with
      | some head => if pack.headDataLen > 0 then .head head else .data pack.data
      | none => .data pack.data) :
    rtmpTotsPacketPesVideoHeader now dts pts pack t =
      let t' := { t with pesBuf := videoPesStart dts pts t.pesBuf }
      if esLen pack > packetPesBuf - 25 then .ret (-1, t')
      else (lacksDelimiter t.unitType p).bind fun lacks ↦
        if lacks then
          (copyToPes t' 19 unitStart).bind fun t ↦ (copyFrame t 25 pack).bind fun t ↦
            sendPes now pts { t with pesLen := esLen pack + 25 }
        else
          (copyFrame t' 19 pack).bind fun t ↦
            sendPes now pts { t with pesLen := esLen pack + 19 } := by
  have hlow : 0 + videoPesHeader.length ≤ packetPesBuf := by decide
  have htime : 9 + (rtmpTotsPacketPesSetTime pts dts).length ≤ packetPesBuf := by
    change 9 + 10 ≤ packetPesBuf
    decide
  unfold rtmpTotsPacketPesVideoHeader
  rw [copyToPes_fits t 0 videoPesHeader hlow]
  simp only [Access.bind_eq, Access.ret_bind]
  rw [copyToPes_fits _ 9 _ htime, hp]
  rfl

private theorem stays_copies (now pts : Nat) (pack : PackData) (t : RtmpTots) (lacks : Bool)
    (n : Nat) (h : pack.data + pack.dataLen ≤ n) :
    (if lacks then
      (copyToPes t 19 unitStart).bind fun t ↦ (copyFrame t 25 pack).bind fun t ↦
        sendPes now pts { t with pesLen := esLen pack + 25 }
    else
      (copyFrame t 19 pack).bind fun t ↦
        sendPes now pts { t with pesLen := esLen pack + 19 }).Stays n := by
  refine Access.Stays.ite (fun _ ↦ ?_) fun _ ↦ ?_
  · refine Access.Stays.bind_of_forall (stays_copyToPes _ _ _ _) fun t ↦ ?_
    exact Access.Stays.bind_of_forall (stays_copyFrame _ _ _ _ h) fun t ↦ stays_sendPes _ _ _ _
  · exact Access.Stays.bind_of_forall (stays_copyFrame _ _ _ _ h) fun t ↦ stays_sendPes _ _ _ _

/-- With head data in front, the test for a delimiter does not look at the message. -/
theorem stays_rtmpTotsPacketPesVideoHeader (now dts pts : Nat) (pack : PackData) (t : RtmpTots)
    (head : Mem) (n : Nat) (hhead : pack.headData = some head) (hlen : 0 < pack.headDataLen)
    (h : pack.data + pack.dataLen ≤ n) :
    (rtmpTotsPacketPesVideoHeader now dts pts pack t).Stays n := by
  rw [rtmpTotsPacketPesVideoHeader_eq now dts pts pack t (.head head)
    (by rw [hhead]; dsimp only; rw [if_pos hlen])]
  refine Access.Stays.ite (fun _ ↦ Access.Stays.ret) fun _ ↦ ?_
  exact Access.Stays.bind_of_forall (stays_lacksDelimiter_head _ _ _) fun lacks ↦
    stays_copies now pts pack _ lacks n h

/-- Without head data, the test for a delimiter looks at the data. -/
theorem within_rtmpTotsPacketPesVideoHeader (now dts pts : Nat) (pack : PackData) (t : RtmpTots)
    (m : Mem) (hlen : pack.headDataLen = 0) :
    (rtmpTotsPacketPesVideoHeader now dts pts pack t).Within m (pack.data + pack.dataLen) ↔
      DelimiterInside t.unitType pack.dataLen := by
  rw [rtmpTotsPacketPesVideoHeader_eq now dts pts pack t (.data pack.data)
    (by cases pack.headData <;> simp [hlen])]
  dsimp only
  by_cases hlong : esLen pack > packetPesBuf - 25
  · have hbig : 5 ≤ pack.dataLen := by
      have hle : esLen pack ≤ 0 + pack.dataLen := by
        unfold esLen
        rw [hlen]
        exact Nat.mod_le _ _
      have hlimit : 5 ≤ packetPesBuf - 25 := by decide
      omega
    rw [if_pos hlong]
    exact iff_of_true (Access.within_ret _ _ _) ⟨fun _ ↦ by omega, fun _ ↦ hbig⟩
  · have hrun : ∃ lacks, (lacksDelimiter t.unitType (.data pack.data)).run m = (.ok lacks, m) := by
      unfold lacksDelimiter
      cases t.unitType <;> exact ⟨_, rfl⟩
    obtain ⟨lacks, hrun⟩ := hrun
    rw [if_neg hlong, Access.within_bind_iff hrun, within_lacksDelimiter_data]
    exact and_iff_left (stays_copies now pts pack _ lacks _ (Nat.le_refl _) m)

/-- What a video frame needs so that the muxer stays inside its data. -/
def VideoInside (pack : PackData) (m : Mem) : Prop :=
  match pack.headData with
  | some head => pack.headDataLen = 0 → DelimiterInside (startTypeOf head) pack.dataLen
  | none => StartInside (m.slice pack.data pack.dataLen) ∧
      DelimiterInside (startTypeOf (m.shift pack.data)) pack.dataLen

/-- A video frame: the muxer stays inside the data exactly when both searches do. -/
theorem within_fromCache_h264 (now : Nat) (pack : PackData) (t : RtmpTots) (m : Mem)
    (htype : pack.type = .h264) (hhead : pack.headData = none → pack.headDataLen = 0) :
    (rtmpTotsPacketFromCache now pack t).Within m (pack.data + pack.dataLen) ↔
      VideoInside pack m := by
  unfold rtmpTotsPacketFromCache VideoInside
  cases hh : pack.headData with
  | some head =>
    dsimp only [Access.bind_eq]
    rw [Access.within_bind_iff (run_unitStartType (.head head) m), htype]
    have hsearch := stays_unitStartType_head head (pack.data + pack.dataLen) m
    by_cases hlen : pack.headDataLen = 0
    · dsimp only
      rw [within_rtmpTotsPacketPesVideoHeader _ _ _ _ _ _ hlen]
      exact ⟨fun h _ ↦ h.2, fun h ↦ ⟨hsearch, h hlen⟩⟩
    · refine iff_of_true ⟨hsearch, ?_⟩ (fun h ↦ absurd h hlen)
      exact stays_rtmpTotsPacketPesVideoHeader _ _ _ _ _ head _ hh (by omega) (Nat.le_refl _) m
  | none =>
    dsimp only [Access.bind_eq]
    rw [Access.within_bind_iff (run_unitStartType (.data pack.data) m), within_unitStartType,
      htype]
    dsimp only
    rw [within_rtmpTotsPacketPesVideoHeader _ _ _ _ _ _ (hhead hh)]
    rfl

/-- Data in which the search for a start code and the test for a delimiter behind it end before
the data does. -/
def SearchInside (data : List UInt8) : Prop :=
  StartInside data ∧ data ≠ [0, 0, 1] ∧ data ≠ [0, 0, 0, 1]

instance (data : List UInt8) : Decidable (SearchInside data) :=
  inferInstanceAs (Decidable (StartInside data ∧ data ≠ [0, 0, 1] ∧ data ≠ [0, 0, 0, 1]))

theorem searchInside_of_length {data : List UInt8} (h : 5 ≤ data.length) : SearchInside data := by
  unfold SearchInside StartInside
  refine ⟨⟨?_, ?_, ?_, ?_, ?_⟩, ?_, ?_⟩ <;> rintro rfl <;> exact absurd h (by decide)

private theorem startTypeOf_of_startcode3 {p : Mem} (h0 : p 0 = 0x00) (h1 : p 1 = 0x00)
    (h2 : p 2 = 0x01) : startTypeOf p = .startcode3 := by
  unfold startTypeOf
  rw [h0, h1, h2]
  rfl

private theorem startTypeOf_of_startcode4 {p : Mem} (h0 : p 0 = 0x00) (h1 : p 1 = 0x00)
    (h2 : p 2 = 0x00) (h3 : p 3 = 0x01) : startTypeOf p = .startcode4 := by
  unfold startTypeOf
  rw [h0, h1, h2, h3]
  rfl

/-- The two searches stay inside data that is not one of a few short ones. -/
theorem searchInside_iff (off d : Nat) (m : Mem) :
    StartInside (m.slice off d) ∧ DelimiterInside (startTypeOf (m.shift off)) d ↔
      SearchInside (m.slice off d) := by
  refine and_congr_right fun hstart ↦ ?_
  have hbyte {l : List UInt8} (h : m.slice off d = l) (i : Nat) (hi : i < l.length) :
      m.shift off i = l.getD i 0 := by
    have hlen := congrArg List.length h
    rw [Mem.length_slice] at hlen
    rw [← h, Mem.getD_slice _ _ _ _ _ (by omega)]
    rfl
  constructor
  · rintro ⟨h3, h4⟩
    constructor
    · intro h
      have hlen := congrArg List.length h
      rw [Mem.length_slice] at hlen
      have hd := h3 (startTypeOf_of_startcode3 (hbyte h 0 (by decide)) (hbyte h 1 (by decide))
        (hbyte h 2 (by decide)))
      change d = 3 at hlen
      omega
    · intro h
      have hlen := congrArg List.length h
      rw [Mem.length_slice] at hlen
      have hd := h4 (startTypeOf_of_startcode4 (hbyte h 0 (by decide)) (hbyte h 1 (by decide))
        (hbyte h 2 (by decide)) (hbyte h 3 (by decide)))
      change d = 4 at hlen
      omega
  · rintro ⟨h3, h4⟩
    obtain ⟨hnil, -, hzero, hzeros, hzeros'⟩ := hstart
    constructor
    · intro h
      obtain ⟨h0, h1, h2⟩ := startTypeOf_startcode3 h
      unfold Mem.shift at h0 h1 h2
      rw [Nat.add_zero] at h0
      by_contra hd
      have hcases : d = 0 ∨ d = 1 ∨ d = 2 ∨ d = 3 := by omega
      rcases hcases with rfl | rfl | rfl | rfl <;>
        simp only [Mem.slice_succ, Mem.slice_zero, Nat.add_assoc, Nat.reduceAdd, h0, h1, h2,
          ne_eq, not_true_eq_false] at hnil hzero hzeros h3
    · intro h
      obtain ⟨h0, h1, h2, h3'⟩ := startTypeOf_startcode4 h
      unfold Mem.shift at h0 h1 h2 h3'
      rw [Nat.add_zero] at h0
      by_contra hd
      have hcases : d = 0 ∨ d = 1 ∨ d = 2 ∨ d = 3 ∨ d = 4 := by omega
      rcases hcases with rfl | rfl | rfl | rfl | rfl <;>
        simp only [Mem.slice_succ, Mem.slice_zero, Nat.add_assoc, Nat.reduceAdd, h0, h1, h2, h3',
          ne_eq, not_true_eq_false] at hnil hzero hzeros hzeros' h4

end RtmpRecv.Tots
