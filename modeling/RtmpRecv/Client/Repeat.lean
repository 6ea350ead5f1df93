import RtmpRecv.Base.Resume
import RtmpRecv.Client.Locality
import RtmpRecv.Client.Rounds

/-!
# Calls that are repeated

Library `Client`. A call of `rtmp_process_chunk` that takes a chunk does the same when more
bytes stand behind it. A call that asks for more bytes has stored what it read of the header;
it can be repeated unless it has added a delta to a timestamp.
-/

namespace RtmpRecv.Client
open RtmpRecv.Base

/-! ### Longer windows -/

section

variable {c c' : RtmpClient} {buf : Mem} {n n' : Int} {chunkInfo : RtmpChunk} {hl : Nat}

private theorem timeField_longer {headerLen ext : Nat} {field : Nat × Bool}
    (h : timeField buf n headerLen ext = some field) (hn : n ≤ n') :
    timeField buf n' headerLen ext = some field := by
  unfold timeField at h ⊢
  dsimp only at h ⊢
  by_cases htime : be24 (buf 1) (buf 2) (buf 3) = 0xffffff
  · rw [if_pos htime] at h ⊢
    by_cases hd : n < headerLen + 5
    · rw [if_pos hd] at h
      cases h
    · rw [if_neg hd] at h
      rw [if_neg (by omega)]
      exact h
  · rw [if_neg htime] at h ⊢
    exact h

private theorem headerFmt0_longer {chunkId : Nat}
    (h : headerFmt0 c chunkId buf n = .parsed c' chunkInfo hl) (hn : n ≤ n') :
    headerFmt0 c chunkId buf n' = .parsed c' chunkInfo hl := by
  unfold headerFmt0 at h ⊢
  by_cases hd : n < 11 + 1
  · rw [if_pos hd] at h
    cases h
  · rw [if_neg hd] at h
    rw [if_neg (by omega)]
    cases hf : timeField buf n 11 12 with
    | none =>
      rw [hf] at h
      cases h
    | some field =>
      rw [hf] at h
      rw [timeField_longer hf hn]
      exact h

private theorem headerFmt1_longer {chunkId : Nat}
    (h : headerFmt1 c chunkId buf n = .parsed c' chunkInfo hl) (hn : n ≤ n') :
    headerFmt1 c chunkId buf n' = .parsed c' chunkInfo hl := by
  unfold headerFmt1 at h ⊢
  by_cases hd : n < 7 + 1
  · rw [if_pos hd] at h
    cases h
  · rw [if_neg hd] at h
    rw [if_neg (by omega)]
    cases hf : timeField buf n 7 8 with
    | none =>
      rw [hf] at h
      cases h
    | some field =>
      rw [hf] at h
      rw [timeField_longer hf hn]
      exact h

private theorem headerFmt2_longer (h : headerFmt2 c buf n = .parsed c' chunkInfo hl)
    (hn : n ≤ n') : headerFmt2 c buf n' = .parsed c' chunkInfo hl := by
  unfold headerFmt2 at h ⊢
  by_cases hd : n < 3 + 1
  · rw [if_pos hd] at h
    cases h
  · rw [if_neg hd] at h
    rw [if_neg (by omega)]
    cases hf : timeField buf n 3 4 with
    | none =>
      rw [hf] at h
      cases h
    | some field =>
      rw [hf] at h
      rw [timeField_longer hf hn]
      exact h

private theorem headerFmt3_longer (h : headerFmt3 c n = .parsed c' chunkInfo hl) (hn : n ≤ n') :
    headerFmt3 c n' = .parsed c' chunkInfo hl := by
  unfold headerFmt3 at h ⊢
  by_cases hd : n < 1
  · rw [if_pos hd] at h
    cases h
  · rw [if_neg hd] at h
    rw [if_neg (by omega)]
    exact h

/-- A header that has been read is read the same with more bytes behind it. -/
theorem chunkHeader_longer {fmt chunkId : Nat}
    (h : chunkHeader c fmt chunkId buf n = .parsed c' chunkInfo hl) (hn : n ≤ n') :
    chunkHeader c fmt chunkId buf n' = .parsed c' chunkInfo hl := by
  unfold chunkHeader at h ⊢
  split at h
  · exact headerFmt0_longer h hn
  · exact headerFmt1_longer h hn
  · exact headerFmt2_longer h hn
  · exact headerFmt3_longer h hn
  · cases h

/-- Only a format that the `switch` does not know is rejected. -/
private theorem chunkHeader_reject {fmt chunkId : Nat}
    (h : chunkHeader c fmt chunkId buf n = .ret (-1) c') :
    chunkHeader c fmt chunkId buf n' = .ret (-1) c' := by
  have hone {c c' : RtmpClient} : HeaderStep.ret 1 c ≠ HeaderStep.ret (-1) c' := by
    intro h
    injection h with h
    exact absurd h (by decide)
  unfold chunkHeader at h ⊢
  split at h
  · unfold headerFmt0 at h
    split at h
    · exact absurd h hone
    · cases hf : timeField buf n 11 12 with
      | none => rw [hf] at h; exact absurd h hone
      | some field => rw [hf] at h; cases h
  · unfold headerFmt1 at h
    split at h
    · exact absurd h hone
    · cases hf : timeField buf n 7 8 with
      | none => rw [hf] at h; exact absurd h hone
      | some field => rw [hf] at h; cases h
  · unfold headerFmt2 at h
    split at h
    · exact absurd h hone
    · cases hf : timeField buf n 3 4 with
      | none => rw [hf] at h; exact absurd h hone
      | some field => rw [hf] at h; cases h
  · unfold headerFmt3 at h
    split at h
    · exact absurd h hone
    · cases h
  · exact h

private theorem chunkBody_longer {chunkId : Nat}
    (h : chunkBody c chunkId chunkInfo hl buf n ≠ .ret 1 c) (hn : n ≤ n') :
    chunkBody c chunkId chunkInfo hl buf n' = chunkBody c chunkId chunkInfo hl buf n := by
  unfold chunkBody at h ⊢
  dsimp only at h ⊢
  by_cases hd : n < toInt32 (chunkLen c chunkId chunkInfo) + ((hl + 1 : Nat) : Int)
  · rw [if_pos hd] at h
    exact absurd rfl h
  · rw [if_neg hd, if_neg (by omega)]

/-- A call that does not ask for more bytes does the same when there are more. -/
theorem chunkStep_longer (h : ∀ c', chunkStep c buf n ≠ .ret 1 c') (hn : n ≤ n') (h0 : 0 ≤ n) :
    chunkStep c buf n' = chunkStep c buf n := by
  unfold chunkStep at h ⊢
  by_cases hz : n = 0
  · rw [if_pos hz] at h
    exact absurd rfl (h c)
  · rw [if_neg hz] at h ⊢
    rw [if_neg (by omega)]
    by_cases hid : chunkIdOf buf ≥ maxChunkId
    · rw [if_pos hid, if_pos hid]
    · rw [if_neg hid] at h ⊢
      rw [if_neg hid]
      have hf := fine_chunkHeader c (chunkFmt buf) (chunkIdOf buf) buf n
      cases hp : chunkHeader c (chunkFmt buf) (chunkIdOf buf) buf n with
      | ret r c' =>
        rw [hp] at h hf
        obtain ⟨-, ⟨rfl, -⟩ | rfl⟩ := hf
        · exact absurd rfl (h c')
        · rw [chunkHeader_reject hp]
      | parsed c' chunkInfo hl =>
        rw [hp] at h
        rw [chunkHeader_longer hp hn]
        exact chunkBody_longer (h c') hn

end

/-! ### Repeated headers -/

/-- The type and the value of the relative timestamp that the header at the head of the window
has brought: a fmt 2 header has the type of the last header before it. -/
def chunkDelta (c : RtmpClient) (buf : Mem) (datalen : Int) : Option (Nat × Nat) :=
  match chunkFmt buf with
  | 1 => (timeField buf datalen 7 8).map fun field ↦ ((buf 7).toNat, field.1)
  | 2 => (timeField buf datalen 3 4).map fun field ↦ (c.rtmpLastMessageType, field.1)
  | _ => none

/-- The delta changes the timestamp of the latest audio or video message. -/
def ChangesLatest (delta : Nat × Nat) : Prop := (delta.1 = 8 ∨ delta.1 = 9) ∧ delta.2 ≠ 0

/-- The window ends in the body of its chunk, behind a delta that changes a timestamp. -/
def ChunkCall.CutBehindDelta (call : ChunkCall) : Prop :=
  (∃ n ∈ chunkSpan call.client call.bufdata call.datalen, call.datalen < n) ∧
    ∃ delta ∈ chunkDelta call.client call.bufdata call.datalen, ChangesLatest delta

/-- The header bytes are already in `rtmp_fmt0_buf`. -/
private theorem saveHeader_saved {c c' : RtmpClient} {chunkId : Nat} {bytes : List UInt8}
    (h : c'.rtmpChunk = (saveHeader c chunkId bytes).rtmpChunk) :
    saveHeader c' chunkId bytes = c' := by
  have hchunk : c'.rtmpChunk chunkId = { c.rtmpChunk chunkId with
      rtmpFmt0Buf := bytes ++ (c.rtmpChunk chunkId).rtmpFmt0Buf.drop bytes.length } := by
    rw [h]
    exact RtmpClient.setChunk_same _ _ _
  unfold saveHeader RtmpClient.setChunk
  rw [hchunk]
  dsimp only
  rw [List.drop_left, ← hchunk]
  have hsame : (fun i ↦ if i = chunkId then c'.rtmpChunk chunkId else c'.rtmpChunk i) =
      c'.rtmpChunk := by
    funext i
    split
    · next hi => rw [hi]
    · rfl
  rw [hsame]

private theorem lastType_addDelta (c : RtmpClient) (type delta : Nat) :
    (addDelta c type delta).1.rtmpLastMessageType = c.rtmpLastMessageType := by
  unfold addDelta
  split
  · rfl
  · split <;> rfl

private theorem setLast_again (c : RtmpClient) (type time lastType : Nat) :
    setLast { setLast c type time with rtmpLastMessageType := lastType } type time =
      { setLast c type time with rtmpLastMessageType := lastType } := by
  unfold setLast
  by_cases h8 : type = 8
  · simp only [h8, if_true]
  · by_cases h9 : type = 9
    · simp [h9]
    · simp only [h8, h9, if_false]

private theorem addDelta_again (c : RtmpClient) (type delta lastType : Nat)
    (h : ¬ChangesLatest (type, delta)) :
    addDelta { (addDelta c type delta).1 with rtmpLastMessageType := lastType } type delta =
      ({ (addDelta c type delta).1 with rtmpLastMessageType := lastType },
        (addDelta c type delta).2) := by
  have hz (h89 : type = 8 ∨ type = 9) : delta = 0 := by
    by_contra hz
    exact h ⟨h89, hz⟩
  unfold addDelta
  by_cases h8 : type = 8
  · simp [h8, hz (Or.inl h8)]
  · by_cases h9 : type = 9
    · simp [h9, hz (Or.inr h9)]
    · simp only [h8, h9, if_false]

section

variable {c c' : RtmpClient} {buf : Mem} {n n' : Int} {chunkId : Nat} {chunkInfo : RtmpChunk}
  {hl : Nat}

/-- A header that waits for its extended timestamp has been saved, and is saved again. -/
private theorem headerFmt0_waits (h : headerFmt0 c chunkId buf n = .ret 1 c') (hn : n ≤ n') :
    headerFmt0 c' chunkId buf n' = headerFmt0 c chunkId buf n' := by
  unfold headerFmt0 at h
  by_cases hd : n < 11 + 1
  · rw [if_pos hd] at h
    cases h
    rfl
  · rw [if_neg hd] at h
    cases hf : timeField buf n 11 12 with
    | none =>
      rw [hf] at h
      cases h
      unfold headerFmt0
      rw [if_neg (by omega), if_neg (by omega), saveHeader_saved rfl]
    | some field =>
      rw [hf] at h
      cases h

private theorem headerFmt1_waits (h : headerFmt1 c chunkId buf n = .ret 1 c') (hn : n ≤ n') :
    headerFmt1 c' chunkId buf n' = headerFmt1 c chunkId buf n' := by
  unfold headerFmt1 at h
  by_cases hd : n < 7 + 1
  · rw [if_pos hd] at h
    cases h
    rfl
  · rw [if_neg hd] at h
    cases hf : timeField buf n 7 8 with
    | none =>
      rw [hf] at h
      cases h
      unfold headerFmt1
      rw [if_neg (by omega), if_neg (by omega), saveHeader_saved rfl]
    | some field =>
      rw [hf] at h
      cases h

private theorem headerFmt2_waits (h : headerFmt2 c buf n = .ret 1 c') : c' = c := by
  unfold headerFmt2 at h
  by_cases hd : n < 3 + 1
  · rw [if_pos hd] at h
    cases h
    rfl
  · rw [if_neg hd] at h
    cases hf : timeField buf n 3 4 with
    | none =>
      rw [hf] at h
      cases h
      rfl
    | some field =>
      rw [hf] at h
      cases h

/-- A header that has not come completely is read the same when it has. -/
theorem chunkHeader_waits {fmt : Nat} (h : chunkHeader c fmt chunkId buf n = .ret 1 c')
    (hn : n ≤ n') : chunkHeader c' fmt chunkId buf n' = chunkHeader c fmt chunkId buf n' := by
  unfold chunkHeader at h ⊢
  split at h
  · exact headerFmt0_waits h hn
  · exact headerFmt1_waits h hn
  · rw [headerFmt2_waits h]
  · unfold headerFmt3 at h
    split at h
    · cases h
      rfl
    · cases h
  · injection h with h
    exact absurd h (by decide)

private theorem headerFmt0_again (h : headerFmt0 c chunkId buf n = .parsed c' chunkInfo hl) :
    headerFmt0 c' chunkId buf n = .parsed c' chunkInfo hl := by
  unfold headerFmt0 at h ⊢
  by_cases hd : n < 11 + 1
  · rw [if_pos hd] at h
    cases h
  · rw [if_neg hd] at h ⊢
    cases hf : timeField buf n 11 12 with
    | none =>
      rw [hf] at h
      cases h
    | some field =>
      rw [hf] at h
      dsimp only at h ⊢
      injection h with hc hinfo hlen
      have hsaved : saveHeader c' chunkId (buf.slice 1 11) = c' :=
        saveHeader_saved (by rw [← hc]; exact rtmpChunk_setLast _ _ _)
      have hlast : setLast c' (buf 7).toNat field.1 = c' := by
        rw [← hc]
        exact setLast_again _ _ _ _
      have htype : (buf 7).toNat = c'.rtmpLastMessageType := by rw [← hc]
      rw [hsaved, hlast, hinfo, hlen, htype]

private theorem headerFmt1_again (h : headerFmt1 c chunkId buf n = .parsed c' chunkInfo hl)
    (hdelta : ∀ field ∈ timeField buf n 7 8, ¬ChangesLatest ((buf 7).toNat, field.1)) :
    headerFmt1 c' chunkId buf n = .parsed c' chunkInfo hl := by
  unfold headerFmt1 at h ⊢
  by_cases hd : n < 7 + 1
  · rw [if_pos hd] at h
    cases h
  · rw [if_neg hd] at h ⊢
    cases hf : timeField buf n 7 8 with
    | none =>
      rw [hf] at h
      cases h
    | some field =>
      rw [hf] at h
      dsimp only at h ⊢
      injection h with hc hinfo hlen
      have hsaved : saveHeader c' chunkId (buf.slice 1 7) = c' :=
        saveHeader_saved (by rw [← hc]; exact rtmpChunk_addDelta _ _ _)
      have hadd : addDelta c' (buf 7).toNat field.1 =
          (c', (addDelta (saveHeader c chunkId (buf.slice 1 7)) (buf 7).toNat field.1).2) := by
        rw [← hc]
        exact addDelta_again _ _ _ _ (hdelta field hf)
      have htype : (buf 7).toNat = c'.rtmpLastMessageType := by rw [← hc]
      rw [hsaved, hadd]
      dsimp only
      rw [hinfo, hlen, htype]

private theorem headerFmt2_again (h : headerFmt2 c buf n = .parsed c' chunkInfo hl)
    (hdelta : ∀ field ∈ timeField buf n 3 4, ¬ChangesLatest (c.rtmpLastMessageType, field.1)) :
    headerFmt2 c' buf n = .parsed c' chunkInfo hl := by
  unfold headerFmt2 at h ⊢
  by_cases hd : n < 3 + 1
  · rw [if_pos hd] at h
    cases h
  · rw [if_neg hd] at h ⊢
    cases hf : timeField buf n 3 4 with
    | none =>
      rw [hf] at h
      cases h
    | some field =>
      rw [hf] at h
      dsimp only at h ⊢
      injection h with hc hinfo hlen
      have htype : c'.rtmpLastMessageType = c.rtmpLastMessageType := by
        rw [← hc]
        exact lastType_addDelta _ _ _
      have hadd := addDelta_again c c.rtmpLastMessageType field.1 c'.rtmpLastMessageType
        (hdelta field hf)
      rw [hc] at hadd
      rw [htype, hadd]
      dsimp only
      rw [hinfo, hlen]

/-- A header that has been read is read the same again, unless its delta changes a timestamp. -/
theorem chunkHeader_again
    (h : chunkHeader c (chunkFmt buf) chunkId buf n = .parsed c' chunkInfo hl)
    (hdelta : ∀ delta ∈ chunkDelta c buf n, ¬ChangesLatest delta) :
    chunkHeader c' (chunkFmt buf) chunkId buf n = .parsed c' chunkInfo hl := by
  unfold chunkDelta at hdelta
  unfold chunkHeader at h ⊢
  split at h
  · exact headerFmt0_again h
  · next hfmt =>
    rw [hfmt] at hdelta
    exact headerFmt1_again h fun field hf ↦ hdelta _ (Option.map_eq_some_iff.2 ⟨field, hf, rfl⟩)
  · next hfmt =>
    rw [hfmt] at hdelta
    exact headerFmt2_again h fun field hf ↦ hdelta _ (Option.map_eq_some_iff.2 ⟨field, hf, rfl⟩)
  · unfold headerFmt3 at h ⊢
    split at h
    · cases h
    · next hd =>
      cases h
      rw [if_neg hd]
  · cases h

end

/-! ### Repeated calls -/

/-- A call that asks for more bytes can be repeated with more bytes, unless it has added a delta
to a timestamp. -/
theorem chunkStep_again {call : ChunkCall} {c' : RtmpClient} {buf' : Mem} {n : Nat} {n' : Int}
    (hs : Sound call.client) (hn : call.datalen = n) (hn' : call.datalen ≤ n')
    (hbuf : ∀ i, i < n → call.bufdata i = buf' i)
    (h : chunkStep call.client call.bufdata call.datalen = .ret 1 c')
    (hcut : ¬call.CutBehindDelta) : chunkStep c' buf' n' = chunkStep call.client buf' n' := by
  obtain ⟨c, buf, datalen⟩ := call
  dsimp only at hn hn' hbuf h hs ⊢
  subst hn
  unfold chunkStep at h
  by_cases h0 : (n : Int) = 0
  · rw [if_pos h0] at h
    cases h
    rfl
  · rw [if_neg h0] at h
    have hfirst : buf 0 = buf' 0 := hbuf 0 (by omega)
    by_cases hid : chunkIdOf buf ≥ maxChunkId
    · rw [if_pos hid] at h
      injection h with h
      exact absurd h (by decide)
    · rw [if_neg hid] at h
      have hid' := chunkIdOf_local hfirst (by omega)
      have hf := fine_chunkHeader c (chunkFmt buf) (chunkIdOf buf) buf n
      have hsame : chunkHeader c' (chunkFmt buf) (chunkIdOf buf) buf' n' =
          chunkHeader c (chunkFmt buf) (chunkIdOf buf) buf' n' := by
        cases hp : chunkHeader c (chunkFmt buf) (chunkIdOf buf) buf n with
        | ret r c₁ =>
          rw [hp] at h
          cases h
          rw [chunkHeader_local hbuf c] at hp
          exact chunkHeader_waits hp hn'
        | parsed c₁ chunkInfo hl =>
          rw [hp] at h hf
          dsimp only at h
          obtain ⟨hk, hsize, hshort, hinside⟩ := hf
          have hsound := (hs.headerKept hk) (chunkIdOf buf)
          by_cases hd : (n : Int) < ((hl + 1 + chunkLen c₁ (chunkIdOf buf) chunkInfo : Nat) : Int)
          · rw [chunkBody_short (leftover_lt hsound hsize) hd] at h
            cases h
            have hh : HeaderDone c buf n c' chunkInfo hl :=
              ⟨hp, hk, by unfold maxChunkId at hid; omega, hsize, hshort, hinside⟩
            have hagain := chunkHeader_again hp fun delta hdelta hchanges ↦
              hcut ⟨⟨_, hh.span, hd⟩, delta, hdelta, hchanges⟩
            rw [chunkHeader_local hbuf] at hp hagain
            rw [chunkHeader_longer hp hn', chunkHeader_longer hagain hn']
          · have hb : BodyStep c₁ (chunkIdOf buf) chunkInfo hl buf _ :=
              bodyStep_chunkBody hsound hsize (Int.not_lt.1 hd)
            rw [h] at hb
            cases hb
      have hz : ¬n' = 0 := by omega
      unfold chunkStep
      rw [← chunkFmt_local hfirst, ← hid', hsame, if_neg hz, if_neg hz, if_neg hid, if_neg hid]

/-! ### Calls on the bytes of a window -/

/-- What the call that returns `ret` with the client `c` comes to, for a window at `pos`. -/
def callOutcome (pos : Int) (ret : Except Fault Int) (c : RtmpClient) :
    Outcome RtmpClient (Except Fault Int) :=
  match ret with
  | .error e => .stop (.error e) c.rewound
  | .ok ret =>
    if ret > 0 then .more c.rewound
    else if ret = 0 then .next c.rewound (c.mIParsePos - pos).toNat
    else .stop (.ok ret) c.rewound

/-- `rtmp_process_chunk` on the bytes of a window. -/
def outcome (c : RtmpClient) (window : List UInt8) : Outcome RtmpClient (Except Fault Int) :=
  let r := rtmpProcessChunk c (Mem.ofList window) window.length
  callOutcome c.mIParsePos r.1 r.2.1

theorem outcome_shifted (c : RtmpClient) (k : Int) (window : List UInt8) :
    outcome (c.shifted k) window = outcome c window := by
  unfold outcome
  rw [rtmpProcessChunk_shifted]
  generalize rtmpProcessChunk c (Mem.ofList window) window.length = r
  unfold callOutcome
  dsimp only
  rw [rewound_shifted]
  have hpos : (r.2.1.shifted k).mIParsePos - (c.shifted k).mIParsePos =
      r.2.1.mIParsePos - c.mIParsePos := by
    unfold RtmpClient.shifted
    dsimp only
    omega
  rw [hpos]

theorem outcome_rewound (c : RtmpClient) (window : List UInt8) :
    outcome c.rewound window = outcome c window := by
  rw [← outcome_shifted c.rewound c.mIParsePos, shifted_rewound]

theorem ChunkCall.length_window {call : ChunkCall} {n : Nat} (hn : call.datalen = n) :
    call.window.length = n := by
  unfold ChunkCall.window
  rw [Mem.length_slice, hn, Int.toNat_natCast]

private theorem ofList_window {call : ChunkCall} {n : Nat} (hn : call.datalen = n)
    (x : List UInt8) (i : Nat) (hi : i < n) :
    call.bufdata i = Mem.ofList (call.window ++ x) i := by
  have hlen := call.length_window hn
  unfold Mem.ofList
  rw [List.getD_append _ _ _ _ (by omega)]
  unfold ChunkCall.window
  rw [Mem.getD_slice _ _ _ _ _ (by omega), Nat.zero_add]

section

variable {call : ChunkCall} {n : Nat}

private theorem outcome_of_step (hs : Sound call.client) (hn : call.datalen = n)
    (hin : call.Inside) (x : List UInt8)
    (hstep : chunkStep call.client (Mem.ofList (call.window ++ x))
      ((call.window ++ x).length : Nat) = chunkStep call.client call.bufdata call.datalen) :
    outcome call.client (call.window ++ x) =
      callOutcome call.client.mIParsePos
        (rtmpProcessChunk call.client call.bufdata call.datalen).1
        (rtmpProcessChunk call.client call.bufdata call.datalen).2.1 := by
  obtain ⟨hret, hclient⟩ := rtmpProcessChunk_of_step hs hin hn (ofList_window hn x) hstep
  unfold outcome
  dsimp only
  rw [hret, hclient]

/-- A call on the bytes of its window alone. -/
theorem outcome_window (hs : Sound call.client) (hn : call.datalen = n) (hin : call.Inside) :
    outcome call.client call.window =
      callOutcome call.client.mIParsePos
        (rtmpProcessChunk call.client call.bufdata call.datalen).1
        (rtmpProcessChunk call.client call.bufdata call.datalen).2.1 := by
  have hstep : chunkStep call.client (Mem.ofList (call.window ++ []))
      ((call.window ++ []).length : Nat) = chunkStep call.client call.bufdata call.datalen := by
    rw [List.length_append, call.length_window hn, List.length_nil, Nat.add_zero,
      ← chunkStep_local (ofList_window hn []) hs, hn]
  have h := outcome_of_step hs hn hin [] hstep
  rwa [List.append_nil] at h

/-- A call that takes a chunk or stops does the same when more bytes stand behind its window. -/
theorem stable_outcome (hs : Sound call.client) (hn : call.datalen = n) (hin : call.Inside)
    (hret : (rtmpProcessChunk call.client call.bufdata call.datalen).1 ≠ .ok 1) :
    Resume.Stable outcome call.client call.window := by
  intro x
  have hbuf := ofList_window hn x
  have hlen := call.length_window hn
  have hmore (c' : RtmpClient) :
      chunkStep call.client (Mem.ofList (call.window ++ x)) n ≠ .ret 1 c' := by
    rw [← chunkStep_local hbuf hs, ← hn]
    intro h
    refine hret ?_
    unfold rtmpProcessChunk
    rw [h]
  have hstep : chunkStep call.client (Mem.ofList (call.window ++ x))
      ((call.window ++ x).length : Nat) = chunkStep call.client call.bufdata call.datalen := by
    rw [chunkStep_longer hmore (by rw [List.length_append]; omega) (by omega),
      ← chunkStep_local hbuf hs, hn]
  rw [outcome_of_step hs hn hin x hstep, outcome_window hs hn hin]

private theorem chunkStep_of_more {c c' : RtmpClient} {buf buf' : Mem} {datalen : Int}
    (h : rtmpProcessChunk c buf datalen = (.ok 1, c', buf')) :
    chunkStep c buf datalen = .ret 1 c' := by
  unfold rtmpProcessChunk at h
  cases hstep : chunkStep c buf datalen with
  | ret r c₁ =>
    rw [hstep] at h
    cases h
    rfl
  | fault e c₁ =>
    rw [hstep] at h
    cases h
  | message c₁ chunkId data dataLen =>
    rw [hstep] at h
    have hdel := delivered_deliver c₁ chunkId data dataLen buf
    have hret : (deliver c₁ chunkId data dataLen buf).1 = .ok 1 := congrArg Prod.fst h
    rcases hdel.result 1 hret with h1 | h1
    · exact absurd h1 (by decide)
    · exact absurd h1 (by decide)

/-- A call that returns `1` and is repeated with more bytes has the effect of one call, unless it
has added a delta to a timestamp. -/
theorem rtmpProcessChunk_again {c' : RtmpClient} {buf' m : Mem} {n' : Int}
    (hs : Sound call.client) (hn : call.datalen = n) (hn' : call.datalen ≤ n')
    (hbuf : ∀ i, i < n → call.bufdata i = buf' i)
    (h : rtmpProcessChunk call.client call.bufdata call.datalen = (.ok 1, c', m))
    (hcut : ¬call.CutBehindDelta) :
    rtmpProcessChunk c' buf' n' = rtmpProcessChunk call.client buf' n' := by
  unfold rtmpProcessChunk
  rw [chunkStep_again hs hn hn' hbuf (chunkStep_of_more h) hcut]

/-- A call that asks for more bytes and has added no delta can be repeated. -/
theorem alike_outcome {c' : RtmpClient} {m : Mem} (hs : Sound call.client)
    (hn : call.datalen = n)
    (h : rtmpProcessChunk call.client call.bufdata call.datalen = (.ok 1, c', m))
    (hpos : c'.mIParsePos = call.client.mIParsePos) (hcut : ¬call.CutBehindDelta) :
    Resume.Alike outcome call.window c' call.client := by
  intro x
  have hlen := call.length_window hn
  unfold outcome
  rw [rtmpProcessChunk_again hs hn (by rw [List.length_append]; omega) (ofList_window hn x) h hcut,
    hpos]

end

end RtmpRecv.Client
