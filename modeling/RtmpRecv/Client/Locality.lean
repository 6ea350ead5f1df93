import RtmpRecv.Client.Inside
import RtmpRecv.Client.Step

/-!
# What a call depends on

Library `Client`. A call of `rtmp_process_chunk` depends on the bytes of its window and not on
what lies behind them, as long as its handler stays inside the message, and it does the same
wherever the window stands in the buffer.
-/

namespace RtmpRecv.Client
open RtmpRecv.Base

/-! ### The place of the window -/

/-- The client `k` bytes further on. -/
def RtmpClient.shifted (c : RtmpClient) (k : Int) : RtmpClient :=
  { c with mIParsePos := c.mIParsePos + k }

/-- The client at the start of its window. -/
def RtmpClient.rewound (c : RtmpClient) : RtmpClient := { c with mIParsePos := 0 }

theorem shifted_rewound (c : RtmpClient) : c.rewound.shifted c.mIParsePos = c := by
  unfold RtmpClient.shifted RtmpClient.rewound
  dsimp only
  rw [Int.zero_add]

theorem rewound_shifted (c : RtmpClient) (k : Int) : (c.shifted k).rewound = c.rewound := rfl

/-- The header step with its client `k` bytes further on. -/
def HeaderStep.shifted (k : Int) : HeaderStep → HeaderStep
  | .ret r c => .ret r (c.shifted k)
  | .parsed c chunkInfo hl => .parsed (c.shifted k) chunkInfo hl

/-- The step with its client `k` bytes further on. -/
def ChunkStep.shifted (k : Int) : ChunkStep → ChunkStep
  | .ret r c => .ret r (c.shifted k)
  | .fault e c => .fault e (c.shifted k)
  | .message c chunkId data dataLen => .message (c.shifted k) chunkId data dataLen

section

variable (c : RtmpClient) (k : Int) (chunkId : Nat) (buf : Mem) (datalen : Int)

private theorem setLast_shifted (type time : Nat) :
    setLast (c.shifted k) type time = (setLast c type time).shifted k := by
  unfold setLast
  split
  · rfl
  · split <;> rfl

private theorem addDelta_shifted (type time : Nat) :
    addDelta (c.shifted k) type time =
      ((addDelta c type time).1.shifted k, (addDelta c type time).2) := by
  unfold addDelta
  split
  · rfl
  · split <;> rfl

private theorem headerFmt0_shifted :
    headerFmt0 (c.shifted k) chunkId buf datalen =
      (headerFmt0 c chunkId buf datalen).shifted k := by
  have hsave : saveHeader (c.shifted k) chunkId (buf.slice 1 11) =
      (saveHeader c chunkId (buf.slice 1 11)).shifted k := rfl
  unfold headerFmt0
  rw [hsave]
  split
  · rfl
  · cases timeField buf datalen 11 12 with
    | none => rfl
    | some field =>
      dsimp only
      rw [setLast_shifted]
      rfl

private theorem headerFmt1_shifted :
    headerFmt1 (c.shifted k) chunkId buf datalen =
      (headerFmt1 c chunkId buf datalen).shifted k := by
  have hsave : saveHeader (c.shifted k) chunkId (buf.slice 1 7) =
      (saveHeader c chunkId (buf.slice 1 7)).shifted k := rfl
  unfold headerFmt1
  rw [hsave]
  split
  · rfl
  · cases timeField buf datalen 7 8 with
    | none => rfl
    | some field =>
      dsimp only
      rw [addDelta_shifted]
      rfl

private theorem headerFmt2_shifted :
    headerFmt2 (c.shifted k) buf datalen = (headerFmt2 c buf datalen).shifted k := by
  unfold headerFmt2
  split
  · rfl
  · cases timeField buf datalen 3 4 with
    | none => rfl
    | some field =>
      dsimp only
      rw [addDelta_shifted]
      rfl

theorem chunkHeader_shifted (fmt : Nat) :
    chunkHeader (c.shifted k) fmt chunkId buf datalen =
      (chunkHeader c fmt chunkId buf datalen).shifted k := by
  unfold chunkHeader
  split
  · exact headerFmt0_shifted c k chunkId buf datalen
  · exact headerFmt1_shifted c k chunkId buf datalen
  · exact headerFmt2_shifted c k buf datalen
  · unfold headerFmt3
    split <;> rfl
  · rfl

omit chunkId buf datalen in
private theorem advance_shifted (n : Nat) :
    (c.shifted k).advance n = (c.advance n).shifted k := by
  unfold RtmpClient.shifted RtmpClient.advance
  dsimp only
  rw [Int.add_right_comm]

private theorem copyBody_shifted (off len : Nat) :
    copyBody (c.shifted k) chunkId buf off len = (copyBody c chunkId buf off len).shifted k := by
  have hchunk : (c.shifted k).rtmpChunk = c.rtmpChunk := rfl
  have hstore (chunk : RtmpChunk) :
      ((c.shifted k).setChunk chunkId chunk).advance (off + len) =
        ((c.setChunk chunkId chunk).advance (off + len)).shifted k :=
    advance_shifted (c.setChunk chunkId chunk) k (off + len)
  unfold copyBody
  rw [hchunk]
  dsimp only
  cases (c.rtmpChunk chunkId).messageBuf with
  | none => rfl
  | some messageBuf =>
    dsimp only
    split
    · rfl
    · split
      · exact congrArg (ChunkStep.ret 0) (hstore _)
      · exact congrArg (fun c ↦ ChunkStep.message c chunkId _ _) (hstore _)

private theorem chunkBody_shifted (chunkInfo : RtmpChunk) (hl : Nat) :
    chunkBody (c.shifted k) chunkId chunkInfo hl buf datalen =
      (chunkBody c chunkId chunkInfo hl buf datalen).shifted k := by
  have hchunk : (c.shifted k).rtmpChunk = c.rtmpChunk := rfl
  have hlen : chunkLen (c.shifted k) chunkId chunkInfo = chunkLen c chunkId chunkInfo := rfl
  have hcopy (c : RtmpClient) (off len : Nat) := copyBody_shifted c k chunkId buf off len
  unfold chunkBody
  rw [hlen, hchunk]
  dsimp only
  split
  · rfl
  · split
    · rfl
    · split
      · split
        · exact congrArg (fun c ↦ ChunkStep.message c chunkId _ _)
            (advance_shifted (c.setChunk chunkId _) k _)
        · exact hcopy (c.newBuffer.2.setChunk chunkId _) _ _
      · exact hcopy c _ _

theorem chunkStep_shifted :
    chunkStep (c.shifted k) buf datalen = (chunkStep c buf datalen).shifted k := by
  unfold chunkStep
  rw [chunkHeader_shifted]
  split
  · rfl
  · split
    · rfl
    · cases chunkHeader c (chunkFmt buf) (chunkIdOf buf) buf datalen with
      | ret r c' => rfl
      | parsed c' chunkInfo hl =>
        exact chunkBody_shifted c' k (chunkIdOf buf) buf datalen chunkInfo hl

end

/-- The result of a handler with its client `k` bytes further on. -/
private def shiftedRun (k : Int) : Except Fault (Int × RtmpClient) × Mem →
    Except Fault (Int × RtmpClient) × Mem
  | (.ok (ret, c), m) => (.ok (ret, c.shifted k), m)
  | (.error e, m) => (.error e, m)

private theorem handlerRun_shifted (c : RtmpClient) (k : Int) (chunkId : Nat) (data : MessageData)
    (dataLen : Int) (buf : Mem) :
    handlerRun (c.shifted k) chunkId data dataLen buf =
      shiftedRun k (handlerRun c chunkId data dataLen buf) := by
  have hchunk : (c.shifted k).rtmpChunk = c.rtmpChunk := rfl
  have hmessage : messageOf (c.shifted k) chunkId data dataLen buf =
      messageOf c chunkId data dataLen buf := rfl
  unfold handlerRun
  rw [hchunk, hmessage]
  generalize messageOf c chunkId data dataLen buf = message
  by_cases ht : (c.rtmpChunk chunkId).messageType = 1
  · dsimp only
    rw [run_setChunkSize _ _ _ _ ht, run_setChunkSize _ _ _ _ ht]
    rfl
  · have hrel := handled_processMessage { c with rtmpMessages := c.rtmpMessages ++ [message] }
      { c.shifted k with rtmpMessages := c.rtmpMessages ++ [message] }
      (c.rtmpChunk chunkId) dataLen ht
    have hkept := returns_processMessage { c with rtmpMessages := c.rtmpMessages ++ [message] }
      (c.rtmpChunk chunkId) dataLen ht
    obtain ⟨a, b, m', ha, hb, hab⟩ | ⟨e, m', ha, hb⟩ := hrel.run (data.mem buf)
    · obtain ⟨-, -, hparser⟩ := hkept _ _ _ ha
      have hshift : b = (a.1, a.2.shifted k) := by
        rw [hab.parser]
        conv_rhs => rw [hparser]
        rfl
      rw [hshift] at hb
      exact hb.trans (congrArg (shiftedRun k) ha.symm)
    · exact hb.trans (congrArg (shiftedRun k) ha.symm)

private theorem deliver_shifted (c : RtmpClient) (k : Int) (chunkId : Nat) (data : MessageData)
    (dataLen : Int) (buf : Mem) :
    deliver (c.shifted k) chunkId data dataLen buf =
      ((deliver c chunkId data dataLen buf).1, (deliver c chunkId data dataLen buf).2.1.shifted k,
        (deliver c chunkId data dataLen buf).2.2) := by
  unfold deliver
  rw [handlerRun_shifted]
  cases handlerRun c chunkId data dataLen buf with
  | mk r m =>
    cases r with
    | error e => rfl
    | ok r => cases data <;> rfl

/-- A call does the same wherever its window stands. -/
theorem rtmpProcessChunk_shifted (c : RtmpClient) (k : Int) (buf : Mem) (datalen : Int) :
    rtmpProcessChunk (c.shifted k) buf datalen =
      ((rtmpProcessChunk c buf datalen).1, (rtmpProcessChunk c buf datalen).2.1.shifted k,
        (rtmpProcessChunk c buf datalen).2.2) := by
  unfold rtmpProcessChunk
  rw [chunkStep_shifted]
  cases chunkStep c buf datalen with
  | ret r c' => rfl
  | fault e c' => rfl
  | message c' chunkId data dataLen => exact deliver_shifted c' k chunkId data dataLen buf

/-! ### The bytes of the window -/

section

variable {buf buf' : Mem} {n : Nat}

private theorem slice_local (h : ∀ i, i < n → buf i = buf' i) (off len : Nat)
    (hle : off + len ≤ n) : buf.slice off len = buf'.slice off len := by
  rw [Mem.slice_eq_iff]
  exact fun i hi ↦ h (off + i) (by omega)

private theorem timeField_local (h : ∀ i, i < n → buf i = buf' i) (headerLen ext : Nat)
    (h4 : 4 ≤ n) (hext : ext + 4 = headerLen + 5) :
    timeField buf n headerLen ext = timeField buf' n headerLen ext := by
  unfold timeField
  rw [h 1 (by omega), h 2 (by omega), h 3 (by omega)]
  dsimp only
  by_cases htime : be24 (buf' 1) (buf' 2) (buf' 3) = 0xffffff
  · rw [if_pos htime, if_pos htime]
    by_cases hd : (n : Int) < headerLen + 5
    · rw [if_pos hd, if_pos hd]
    · rw [if_neg hd, if_neg hd, h ext (by omega), h (ext + 1) (by omega), h (ext + 2) (by omega),
        h (ext + 3) (by omega)]
  · rw [if_neg htime, if_neg htime]

private theorem headerFmt0_local (h : ∀ i, i < n → buf i = buf' i) (c : RtmpClient)
    (chunkId : Nat) : headerFmt0 c chunkId buf n = headerFmt0 c chunkId buf' n := by
  unfold headerFmt0
  by_cases hd : (n : Int) < 11 + 1
  · rw [if_pos hd, if_pos hd]
  · rw [if_neg hd, if_neg hd, timeField_local h 11 12 (by omega) (by omega),
      slice_local h 1 11 (by omega)]
    rw [h 4 (by omega), h 5 (by omega), h 6 (by omega), h 7 (by omega), h 8 (by omega),
      h 9 (by omega), h 10 (by omega), h 11 (by omega)]

private theorem headerFmt1_local (h : ∀ i, i < n → buf i = buf' i) (c : RtmpClient)
    (chunkId : Nat) : headerFmt1 c chunkId buf n = headerFmt1 c chunkId buf' n := by
  unfold headerFmt1
  by_cases hd : (n : Int) < 7 + 1
  · rw [if_pos hd, if_pos hd]
  · rw [if_neg hd, if_neg hd, timeField_local h 7 8 (by omega) (by omega),
      slice_local h 1 7 (by omega)]
    rw [h 4 (by omega), h 5 (by omega), h 6 (by omega), h 7 (by omega)]

private theorem headerFmt2_local (h : ∀ i, i < n → buf i = buf' i) (c : RtmpClient) :
    headerFmt2 c buf n = headerFmt2 c buf' n := by
  unfold headerFmt2
  by_cases hd : (n : Int) < 3 + 1
  · rw [if_pos hd, if_pos hd]
  · rw [if_neg hd, if_neg hd, timeField_local h 3 4 (by omega) (by omega)]

theorem chunkHeader_local (h : ∀ i, i < n → buf i = buf' i) (c : RtmpClient)
    (fmt chunkId : Nat) : chunkHeader c fmt chunkId buf n = chunkHeader c fmt chunkId buf' n := by
  unfold chunkHeader
  split
  · exact headerFmt0_local h c chunkId
  · exact headerFmt1_local h c chunkId
  · exact headerFmt2_local h c
  · rfl
  · rfl

private theorem copyBody_local (h : ∀ i, i < n → buf i = buf' i) (c : RtmpClient)
    (chunkId off len : Nat) (hle : off + len ≤ n) :
    copyBody c chunkId buf off len = copyBody c chunkId buf' off len := by
  unfold copyBody
  rw [slice_local h off len hle]

private theorem chunkBody_local (h : ∀ i, i < n → buf i = buf' i) (c : RtmpClient)
    (chunkId : Nat) (chunkInfo : RtmpChunk) (hl : Nat)
    (hlt : chunkLen c chunkId chunkInfo < 16777216) :
    chunkBody c chunkId chunkInfo hl buf n = chunkBody c chunkId chunkInfo hl buf' n := by
  have hint := toInt32_of_lt (chunkLen c chunkId chunkInfo) (by omega)
  unfold chunkBody
  dsimp only
  rw [hint]
  split
  · rfl
  · next hlen =>
    have hcopy (c' : RtmpClient) := copyBody_local h c' chunkId (hl + 1)
      (chunkLen c chunkId chunkInfo) (by omega)
    rw [hcopy, hcopy]

theorem chunkFmt_local (h : buf 0 = buf' 0) : chunkFmt buf = chunkFmt buf' := by
  unfold chunkFmt
  rw [h]

/-- A chunk stream id that is not refused stands in the first byte. -/
theorem chunkIdOf_local (h : buf 0 = buf' 0) (hid : chunkIdOf buf < maxChunkId) :
    chunkIdOf buf = chunkIdOf buf' := by
  unfold maxChunkId at hid
  unfold chunkIdOf at hid ⊢
  rw [h] at hid ⊢
  dsimp only at hid ⊢
  by_cases h0 : (buf' 0 &&& 0x3f).toNat = 0
  · rw [if_pos h0] at hid
    omega
  · by_cases h1 : (buf' 0 &&& 0x3f).toNat = 1
    · rw [if_neg h0, if_pos h1] at hid
      omega
    · rw [if_neg h0, if_neg h0, if_neg h1, if_neg h1]

/-- What a call does before any handler runs depends on the bytes of the window alone. -/
theorem chunkStep_local (h : ∀ i, i < n → buf i = buf' i) {c : RtmpClient} (hs : Sound c) :
    chunkStep c buf n = chunkStep c buf' n := by
  unfold chunkStep
  by_cases h0 : (n : Int) = 0
  · rw [if_pos h0, if_pos h0]
  · have hfirst : buf 0 = buf' 0 := h 0 (by omega)
    rw [if_neg h0, if_neg h0, chunkFmt_local hfirst]
    by_cases hid : chunkIdOf buf < maxChunkId
    · rw [← chunkIdOf_local hfirst hid, if_neg (by omega), if_neg (by omega),
        chunkHeader_local h c]
      have hf := fine_chunkHeader c (chunkFmt buf') (chunkIdOf buf) buf' n
      cases hp : chunkHeader c (chunkFmt buf') (chunkIdOf buf) buf' n with
      | ret r c' => rfl
      | parsed c' chunkInfo hl =>
        rw [hp] at hf
        obtain ⟨hk, hsize, -, -⟩ := hf
        have hlt := leftover_lt ((hs.headerKept hk) (chunkIdOf buf)) hsize
        dsimp only
        rw [chunkBody_local h c' (chunkIdOf buf) chunkInfo hl (by rw [chunkLen_eq]; omega)]
    · have hid' : ¬chunkIdOf buf' < maxChunkId := fun hlt ↦
        hid (by rw [← chunkIdOf_local hfirst.symm hlt]; exact hlt)
      rw [if_pos (by omega), if_pos (by omega)]

end

/-! ### The handler -/

/-- The handler that the call runs on its window finds all that it reads in the message. -/
def ChunkCall.Inside (call : ChunkCall) : Prop :=
  ∀ c chunkId off dataLen,
    chunkStep call.client call.bufdata call.datalen = .message c chunkId (.window off) dataLen →
      BodyWithin c (c.rtmpChunk chunkId).messageType (call.bufdata.slice off dataLen.toNat)

/-- A message in the window ends there. -/
theorem chunkStep_window {c c' : RtmpClient} {buf : Mem} {datalen dataLen : Int}
    {chunkId off : Nat} (hs : Sound c)
    (h : chunkStep c buf datalen = .message c' chunkId (.window off) dataLen) :
    ∃ k : Nat, dataLen = k ∧ k < 16777216 ∧ ((off + k : Nat) : Int) ≤ datalen := by
  have hc := callStep_chunkStep hs buf datalen
  rw [h] at hc
  cases hc with
  | taken c₁ chunkInfo hl hh hd hb =>
    have hlen := chunkLen_eq c₁ (chunkIdOf buf) chunkInfo
    unfold leftover at hlen
    cases hb with
    | single hlast hsize =>
      rw [if_pos hlast] at hlen
      exact ⟨_, rfl, hh.size, by omega⟩

private theorem handlerRun_local {c : RtmpClient} {chunkId off k n : Nat} {buf buf' : Mem}
    (h : ∀ i, i < n → buf i = buf' i) (hk : k < 16777216) (hle : off + k ≤ n)
    (hin : BodyWithin c (c.rtmpChunk chunkId).messageType (buf.slice off k)) :
    (handlerRun c chunkId (.window off) k buf').1 = (handlerRun c chunkId (.window off) k buf).1 ∧
      messageOf c chunkId (.window off) k buf' = messageOf c chunkId (.window off) k buf := by
  have hslice := slice_local h off k hle
  have hmessage : messageOf c chunkId (.window off) k buf' =
      messageOf c chunkId (.window off) k buf := by
    unfold messageOf MessageData.mem
    rw [Mem.slice_shift, Mem.slice_shift, Nat.add_zero, Int.toNat_natCast, hslice]
  unfold handlerRun
  rw [hmessage]
  generalize messageOf c chunkId (.window off) k buf = message
  have hbody : (buf.shift off).slice 0 k = buf.slice off k := by
    rw [Mem.slice_shift, Nat.add_zero]
  have hwithin := (within_rtmpProcessMessage { c with rtmpMessages := c.rtmpMessages ++ [message] }
    (c.rtmpChunk chunkId) k (buf.shift off) (by omega)).2 (by rw [hbody]; exact hin)
  exact ⟨(hwithin.run_eq fun i hi ↦ h (off + i) (by omega)).1, rfl⟩

private theorem deliver_local {c : RtmpClient} {chunkId off k n : Nat} {buf buf' : Mem}
    (h : ∀ i, i < n → buf i = buf' i) (hk : k < 16777216) (hle : off + k ≤ n)
    (hin : BodyWithin c (c.rtmpChunk chunkId).messageType (buf.slice off k)) :
    (deliver c chunkId (.window off) k buf').1 = (deliver c chunkId (.window off) k buf).1 ∧
      (deliver c chunkId (.window off) k buf').2.1 =
        (deliver c chunkId (.window off) k buf).2.1 := by
  obtain ⟨hrun, hmessage⟩ := handlerRun_local h hk hle hin
  unfold deliver
  rw [hmessage]
  generalize handlerRun c chunkId (.window off) k buf' = r' at hrun
  generalize handlerRun c chunkId (.window off) k buf = r at hrun
  obtain ⟨ret', m'⟩ := r'
  obtain ⟨ret, m⟩ := r
  dsimp only at hrun
  subst hrun
  cases ret' with
  | error e => exact ⟨rfl, rfl⟩
  | ok r => exact ⟨rfl, rfl⟩

/-- The result and the client of a call whose step on another window is the same. -/
theorem rtmpProcessChunk_of_step {call : ChunkCall} {buf' : Mem} {datalen' : Int} {n : Nat}
    (hs : Sound call.client) (hin : call.Inside) (hn : call.datalen = n)
    (h : ∀ i, i < n → call.bufdata i = buf' i)
    (hstep : chunkStep call.client buf' datalen' =
      chunkStep call.client call.bufdata call.datalen) :
    (rtmpProcessChunk call.client buf' datalen').1 =
        (rtmpProcessChunk call.client call.bufdata call.datalen).1 ∧
      (rtmpProcessChunk call.client buf' datalen').2.1 =
        (rtmpProcessChunk call.client call.bufdata call.datalen).2.1 := by
  unfold rtmpProcessChunk
  rw [hstep]
  cases hc : chunkStep call.client call.bufdata call.datalen with
  | ret r c => exact ⟨rfl, rfl⟩
  | fault e c => exact ⟨rfl, rfl⟩
  | message c chunkId data dataLen =>
    cases data with
    | window off =>
      obtain ⟨k, rfl, hk, hle⟩ := chunkStep_window hs hc
      have hbody := hin c chunkId off k hc
      rw [Int.toNat_natCast] at hbody
      exact deliver_local h hk (by omega) hbody
    | messageBuf m =>
      -- the handler works on the memory of the chunk stream and sees no window
      have hrun : handlerRun c chunkId (.messageBuf m) dataLen buf' =
          handlerRun c chunkId (.messageBuf m) dataLen call.bufdata := rfl
      dsimp only
      unfold deliver
      rw [hrun]
      cases handlerRun c chunkId (.messageBuf m) dataLen call.bufdata with
      | mk r m' =>
        cases r with
        | error e => exact ⟨rfl, rfl⟩
        | ok r => exact ⟨rfl, rfl⟩

end RtmpRecv.Client
