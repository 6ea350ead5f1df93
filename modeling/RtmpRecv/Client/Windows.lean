import Mathlib.Data.List.Induction
import RtmpRecv.Client.Segments

/-!
# The windows of the chunk parser

Library `Client`. What `rtmp_recv_data` hands to `rtmp_process_chunk`: of all that has been
received, the bytes of the handshake are dropped, and what earlier calls have consumed.
-/

namespace RtmpRecv.Client
open RtmpRecv.Base

/-- How far the call moves `m_iParsePos`. -/
def ChunkCall.taken (call : ChunkCall) : Nat :=
  ((rtmpProcessChunk call.client call.bufdata call.datalen).2.1.mIParsePos -
    call.client.mIParsePos).toNat

/-- The number of chunk bytes that these calls have consumed. -/
def consumed (calls : List ChunkCall) : Nat := (calls.map ChunkCall.taken).sum

@[simp] theorem consumed_nil : consumed [] = 0 := rfl

@[simp] theorem consumed_cons (call : ChunkCall) (calls : List ChunkCall) :
    consumed (call :: calls) = call.taken + consumed calls := rfl

@[simp] theorem consumed_append (calls calls' : List ChunkCall) :
    consumed (calls ++ calls') = consumed calls + consumed calls' := by
  simp [consumed]

/-- Behind the calls `before`, the call is given all of `stream` that has not been dropped or
consumed, and `m_iParsePos` stays within the `size` bytes that are there. -/
structure ChunkCall.Framed (call : ChunkCall) (stream : List UInt8) (before : List ChunkCall)
    (size : Int) : Prop where
  window : call.window = stream.drop (3073 + consumed before)
  total : (3073 + consumed before : Nat) + call.datalen = stream.length
  low : 0 ≤ call.client.mIParsePos
  high : call.client.mIParsePos ≤ size
  datalen : call.datalen = size - call.client.mIParsePos
  after : call.client.mIParsePos + call.taken ≤ size

/-- The round in which `Receive` stores `bytes` makes the call, behind the calls `before`, with
`size` bytes from `pos` on. -/
structure RecvState.Makes (s : RecvState) (bytes : List UInt8) (before : List ChunkCall)
    (call : ChunkCall) (pos : Nat) (size : Int) : Prop where
  running : s.running = true
  earlier : s.calls <+: before
  later : before ++ [call] <+: (recvStep s bytes).calls
  split : (handshake s.client.rewound (s.size + bytes.length)).2 = some (pos, size)
  total : pos + size = s.size + bytes.length

/-! ### The inner loop -/

/-- A call moves `m_iParsePos` forward within the window. -/
theorem parsePos_rtmpProcessChunk (call : ChunkCall) (hs : Sound call.client)
    (h0 : 0 ≤ call.datalen) :
    call.client.mIParsePos ≤
        (rtmpProcessChunk call.client call.bufdata call.datalen).2.1.mIParsePos ∧
      (rtmpProcessChunk call.client call.bufdata call.datalen).2.1.mIParsePos ≤
        call.client.mIParsePos + call.datalen := by
  have h := callStep_chunkStep hs call.bufdata call.datalen
  unfold rtmpProcessChunk
  generalize chunkStep call.client call.bufdata call.datalen = step at h ⊢
  cases h with
  | wait c' hk _ =>
    have hpos := hk.parsePos
    constructor
    · exact Int.le_of_eq hpos.symm
    · change c'.mIParsePos ≤ _
      omega
  | reject c' hk =>
    have hpos := hk.parsePos
    constructor
    · exact Int.le_of_eq hpos.symm
    · change c'.mIParsePos ≤ _
      omega
  | short c' chunkInfo hl hh hd =>
    have hpos := hh.kept.parsePos
    constructor
    · exact Int.le_of_eq hpos.symm
    · change c'.mIParsePos ≤ _
      omega
  | taken c' chunkInfo hl hh hd hb =>
    have hpos := hb.parsePos
    rw [hh.kept.parsePos] at hpos
    rcases hb.cases with hret | ⟨data, dataLen, hmsg, -, -⟩
    · rw [hret]
      change call.client.mIParsePos ≤ step.client.mIParsePos ∧ step.client.mIParsePos ≤ _
      omega
    · have hdel := delivered_deliver step.client (chunkIdOf call.bufdata) data dataLen call.bufdata
      rw [hmsg]
      dsimp only
      rw [hdel.parsePos]
      omega

/-- The call stands `n` bytes behind the place `pos` where the window starts. -/
structure ChunkCall.At (call : ChunkCall) (window : List UInt8) (pos size : Int) (n : Nat) :
    Prop where
  window : call.window = window.drop n
  pos : call.client.mIParsePos = pos + n
  high : call.client.mIParsePos ≤ size
  datalen : call.datalen = size - call.client.mIParsePos
  after : call.client.mIParsePos + call.taken ≤ size

/-- The inner loop stops for want of bytes, `n` bytes behind the place `pos`. -/
structure LoopEnd.At (r : LoopEnd) (window : List UInt8) (pos size : Int) (n : Nat) : Prop where
  window : r.mem.slice r.client.mIParsePos.toNat (size - r.client.mIParsePos).toNat =
    window.drop n
  pos : r.client.mIParsePos = pos + n
  high : r.client.mIParsePos ≤ size

/-- A call moves `m_iParsePos` by what it takes. -/
theorem ChunkCall.parsePos_eq {call : ChunkCall} (hs : Sound call.client) (h0 : 0 ≤ call.datalen) :
    (rtmpProcessChunk call.client call.bufdata call.datalen).2.1.mIParsePos =
      call.client.mIParsePos + call.taken := by
  have hpos := parsePos_rtmpProcessChunk call hs h0
  unfold ChunkCall.taken
  omega

/-- The only call of a loop. -/
private theorem at_singleton {call : ChunkCall} {window : List UInt8} {pos size : Int}
    (h : call.At window pos size 0) (before : List ChunkCall) (call' : ChunkCall)
    (after : List ChunkCall) (heq : [call] = before ++ call' :: after) :
    call'.At window pos size (consumed before) := by
  cases before with
  | nil =>
    cases heq
    exact h
  | cons call'' before =>
    injection heq with _ heq
    cases before with
    | nil => cases heq
    | cons _ _ => cases heq

/-- The calls of the inner loop are given what is left of the window, and so is what lies behind
them when they ask for more. -/
theorem chunkLoop_windows (fuel : Nat) {c : RtmpClient} (hs : Sound c) (mem : Mem) (size : Int)
    (h0 : 0 ≤ c.mIParsePos) (hle : c.mIParsePos ≤ size) {window : List UInt8}
    (hw : mem.slice c.mIParsePos.toNat (size - c.mIParsePos).toNat = window) :
    (∀ before call after, (chunkLoop fuel c mem size).calls = before ++ call :: after →
      call.At window c.mIParsePos size (consumed before)) ∧
    ((chunkLoop fuel c mem size).ret = .ok 1 →
      (chunkLoop fuel c mem size).At window c.mIParsePos size
        (consumed (chunkLoop fuel c mem size).calls)) := by
  induction fuel generalizing c mem window with
  | zero =>
    constructor
    · intro before call after h
      cases before with
      | nil => cases h
      | cons call' before => cases h
    · intro h
      cases h
  | succ fuel ih =>
    rw [chunkLoop_succ]
    obtain ⟨call, hcall⟩ : ∃ call : ChunkCall,
      call = ⟨c, mem.shift c.mIParsePos.toNat, size - c.mIParsePos⟩ := ⟨_, rfl⟩
    have hclient : call.client = c := by rw [hcall]
    have hbuf : call.bufdata = mem.shift c.mIParsePos.toNat := by rw [hcall]
    have hdatalen : call.datalen = size - c.mIParsePos := by rw [hcall]
    have hwindow : call.window = window := by
      rw [← hw]
      unfold ChunkCall.window
      rw [hbuf, hdatalen, Mem.slice_shift, Nat.add_zero]
    have hsound : Sound call.client := by
      rw [hclient]
      exact hs
    have hsame : rtmpProcessChunk c (mem.shift c.mIParsePos.toNat) (size - c.mIParsePos) =
        rtmpProcessChunk call.client call.bufdata call.datalen := by rw [hcall]
    obtain ⟨hend, hsound', -⟩ := rtmpProcessChunk_end call hsound
    have hrange := parsePos_rtmpProcessChunk call hsound (by omega)
    have hpos := call.parsePos_eq hsound (by omega)
    dsimp only
    rw [← hcall, hsame]
    generalize rtmpProcessChunk call.client call.bufdata call.datalen = out at *
    obtain ⟨ret, c', m'⟩ := out
    dsimp only at hend hsound' hrange hpos ⊢
    rw [hclient] at hrange hpos
    have hhead : call.At window c.mIParsePos size 0 := by
      constructor
      · exact hwindow
      · rw [hclient]
        exact (Int.add_zero _).symm
      · rw [hclient]
        exact hle
      · rw [hclient]
        exact hdatalen
      · rw [hclient]
        omega
    cases hend with
    | more _ _ _ =>
      have hone : ¬(1 : Int) = 0 := by decide
      simp only [hone, if_false]
      refine ⟨at_singleton hhead, fun _ ↦ ?_⟩
      have hzero : call.taken = 0 := by
        rw [hclient] at *
        omega
      have hsum : consumed [call] = 0 := by simp [hzero]
      rw [hsum]
      have hstay : c'.mIParsePos = c.mIParsePos := by omega
      constructor
      · dsimp only
        rw [hstay, hbuf, Mem.splice_shift]
        exact hw
      · dsimp only
        omega
      · dsimp only
        omega
    | reject _ _ => exact ⟨at_singleton hhead, fun h ↦ by cases h⟩
    | failed _ _ _ hf =>
      cases ret with
      | error e => exact ⟨at_singleton hhead, fun h ↦ by cases h⟩
      | ok r =>
        have hneg := hf.ret
        subst hneg
        exact ⟨at_singleton hhead, fun h ↦ by cases h⟩
    | taken _ _ n hn hle' hp hm =>
      rw [hclient] at hp
      have hcount : call.taken = n := by omega
      have hslice : (mem.splice c.mIParsePos.toNat m').slice c'.mIParsePos.toNat
          (size - c'.mIParsePos).toNat = window.drop n := by
        have hto : c'.mIParsePos.toNat = c.mIParsePos.toNat + n := by omega
        have hlen : (size - c'.mIParsePos).toNat = (size - c.mIParsePos).toNat - n := by omega
        rw [← hw, Mem.drop_slice, hto, hlen, Mem.slice_splice, ← Mem.slice_shift, ← hbuf,
          Mem.slice_eq_iff]
        exact fun i _ ↦ hm (n + i) (by omega)
      obtain ⟨hcalls, hmore⟩ := ih hsound' (mem.splice c.mIParsePos.toNat m') (by omega)
        (by omega) hslice
      simp only [if_pos]
      constructor
      · intro before call' after h
        cases before with
        | nil =>
          cases h
          exact hhead
        | cons call'' before =>
          injection h with h1 h2
          have hat := hcalls before call' after h2
          have hat_pos := hat.pos
          rw [← h1, consumed_cons, hcount]
          exact ⟨by rw [hat.window, List.drop_drop], by omega, hat.high, hat.datalen, hat.after⟩
      · intro hret
        have hat := hmore hret
        have hat_pos := hat.pos
        rw [consumed_cons, hcount]
        exact ⟨by rw [← List.drop_drop]; exact hat.window, by dsimp only; omega, hat.high⟩

/-! ### Rounds -/

/-- What the buffer holds at the head of the loop once `data` has been received: all of it before
S0 and S1 are there, what has not been consumed behind the handshake. What has come of S2 is only
counted. -/
inductive RecvState.Holds (s : RecvState) (data : List UInt8) : Prop where
  | waitS0S1 (h : s.client.rtmpStatus = .sendC0C1 ∨
      s.client.rtmpStatus = .waitS0S1 ∧ data.length < 1537) (hsize : s.size = data.length)
      (hm : s.mPBuffer.slice 0 data.length = data) (hcalls : s.calls = [])
  | waitS2 (h : s.client.rtmpStatus = .waitS2) (hlow : 1537 ≤ data.length)
      (hhigh : data.length < 3073) (hsize : s.size = data.length - 1537) (hcalls : s.calls = [])
  | chunks (h : RtmpStatus.waitChunk.toNat < s.client.rtmpStatus.toNat) (hlow : 0 ≤ s.size)
      (htotal : (3073 + consumed s.calls : Nat) + s.size = data.length)
      (hm : s.mPBuffer.slice 0 s.size.toNat = data.drop (3073 + consumed s.calls))

/-- A round that parses what is left of `data`. -/
theorem holds_afterLoop {s : RecvState} {c : RtmpClient} {m : Mem} {pos : Nat} {size : Int}
    {data : List UInt8} {r : LoopEnd} (hs : Sound c)
    (hparse : RtmpStatus.waitChunk.toNat < c.rtmpStatus.toNat) (hpos : c.mIParsePos = 0)
    (h0 : 0 ≤ size) (htotal : (3073 + consumed s.calls : Nat) + size = data.length)
    (hm : (m.shift pos).slice 0 size.toNat = data.drop (3073 + consumed s.calls))
    (hr : chunkLoop (size.toNat + 1) c (m.shift pos) size = r) :
    ((s.afterLoop m pos size r).running = true →
      Sound (s.afterLoop m pos size r).client ∧ (s.afterLoop m pos size r).Holds data) ∧
    ∀ before call after, r.calls = before ++ call :: after →
      call.Framed data (s.calls ++ before) size := by
  have hend := chunkLoop_end (size.toNat + 1) hs (m.shift pos) size (by omega) (by omega) (by omega)
  have hwindow : (m.shift pos).slice c.mIParsePos.toNat (size - c.mIParsePos).toNat =
      (m.shift pos).slice 0 size.toNat := by
    rw [hpos, Int.sub_zero]
    rfl
  obtain ⟨hcalls, hmore⟩ := chunkLoop_windows (size.toNat + 1) hs (m.shift pos) size
    (by omega) (by omega) hwindow
  rw [hr] at hend hcalls hmore
  constructor
  · intro hrun
    cases hret : r.ret with
    | error e =>
      unfold RecvState.afterLoop at hrun
      rw [hret] at hrun
      cases hrun
    | ok ret =>
      by_cases hpositive : ret > 0
      · have hone : r.ret = .ok 1 := by
          rcases hend.result with ⟨h, -⟩ | h | ⟨call, -, hf⟩
          · exact h
          · rw [hret] at h
            cases h
            omega
          · rw [hret] at hf
            have hneg := hf.ret
            omega
        have hat := hmore hone
        have hat_pos := hat.pos
        have hat_high := hat.high
        have hsum : consumed (s.calls ++ r.calls) = consumed s.calls + consumed r.calls :=
          consumed_append _ _
        have hafter : s.afterLoop m pos size r =
            { client := r.client
              mPBuffer := (m.splice pos r.mem).memcpy 0 ((m.splice pos r.mem).slice
                (pos + r.client.mIParsePos.toNat) (size - r.client.mIParsePos).toNat)
              size := size - r.client.mIParsePos, running := true, fault := none
              calls := s.calls ++ r.calls } := by
          unfold RecvState.afterLoop
          rw [hone]
          rfl
        rw [hafter]
        refine ⟨hend.sound, .chunks (hend.status.parsing hparse) ?_ ?_ ?_⟩
        · dsimp only
          omega
        · dsimp only
          omega
        · dsimp only
          have hsame := Mem.slice_memcpy_same (m.splice pos r.mem) 0 ((m.splice pos r.mem).slice
            (pos + r.client.mIParsePos.toNat) (size - r.client.mIParsePos).toNat)
          rw [Mem.length_slice] at hsame
          rw [hsame, Mem.slice_splice, hat.window, hm, List.drop_drop, hsum, ← Nat.add_assoc]
      · unfold RecvState.afterLoop at hrun
        rw [hret] at hrun
        dsimp only at hrun
        rw [if_neg hpositive] at hrun
        cases hrun
  · intro before call after h
    have hat := hcalls before call after h
    have hat_pos := hat.pos
    have hat_high := hat.high
    have hat_len := hat.datalen
    have hsum : consumed (s.calls ++ before) = consumed s.calls + consumed before :=
      consumed_append _ _
    constructor
    · rw [hat.window, hm, List.drop_drop, hsum, ← Nat.add_assoc]
    · omega
    · omega
    · exact hat.high
    · exact hat.datalen
    · exact hat.after

section

variable {s : RecvState} {data : List UInt8}

theorem RecvState.Holds.low (hh : s.Holds data) : 0 ≤ s.size := by
  cases hh with
  | waitS0S1 _ hsize _ _ => omega
  | waitS2 _ hlow _ hsize _ => omega
  | chunks _ hlow _ _ => exact hlow

/-- Where a running loop can stand. -/
theorem RecvState.Holds.status (hh : s.Holds data) :
    s.client.rtmpStatus = .waitS0S1 ∨ s.client.rtmpStatus = .sendC0C1 ∨
      s.client.rtmpStatus = .waitS2 ∨
      RtmpStatus.waitChunk.toNat < s.client.rtmpStatus.toNat := by
  cases hh with
  | waitS0S1 h _ _ _ =>
    rcases h with h | h
    · exact Or.inr (Or.inl h)
    · exact Or.inl h.1
  | waitS2 h _ _ _ _ => exact Or.inr (Or.inr (Or.inl h))
  | chunks h _ _ _ => exact Or.inr (Or.inr (Or.inr h))

theorem RecvState.Holds.first (hh : s.Holds data)
    (h : s.client.rtmpStatus = .waitS0S1 ∨ s.client.rtmpStatus = .sendC0C1) :
    s.size = data.length ∧ s.mPBuffer.slice 0 data.length = data ∧ s.calls = [] := by
  cases hh with
  | waitS0S1 _ hsize hm hcalls => exact ⟨hsize, hm, hcalls⟩
  | waitS2 h2 _ _ _ _ =>
    rw [h2] at h
    exact absurd h (by decide)
  | chunks hparse _ _ _ =>
    rcases h with h | h
    · rw [h] at hparse
      exact absurd hparse (by decide)
    · rw [h] at hparse
      exact absurd hparse (by decide)

theorem RecvState.Holds.second (hh : s.Holds data) (h : s.client.rtmpStatus = .waitS2) :
    1537 ≤ data.length ∧ data.length < 3073 ∧ s.size = data.length - 1537 ∧ s.calls = [] := by
  cases hh with
  | waitS0S1 h1 _ _ _ =>
    rw [h] at h1
    exact absurd h1 (by simp)
  | waitS2 _ hlow hhigh hsize hcalls => exact ⟨hlow, hhigh, hsize, hcalls⟩
  | chunks hparse _ _ _ =>
    rw [h] at hparse
    exact absurd hparse (by decide)

theorem RecvState.Holds.parsed (hh : s.Holds data)
    (h : RtmpStatus.waitChunk.toNat < s.client.rtmpStatus.toNat) :
    (3073 + consumed s.calls : Nat) + s.size = data.length ∧
      s.mPBuffer.slice 0 s.size.toNat = data.drop (3073 + consumed s.calls) := by
  cases hh with
  | waitS0S1 h1 _ _ _ =>
    rcases h1 with h1 | h1
    · rw [h1] at h
      exact absurd h (by decide)
    · rw [h1.1] at h
      exact absurd h (by decide)
  | waitS2 h2 _ _ _ _ =>
    rw [h2] at h
    exact absurd h (by decide)
  | chunks _ _ htotal hm => exact ⟨htotal, hm⟩

end

private theorem no_call {calls before after : List ChunkCall} {call : ChunkCall}
    (h : calls = calls ++ before ++ call :: after) : False := by
  have hlen := congrArg List.length h
  simp only [List.length_append, List.length_cons] at hlen
  omega

/-- What a round leaves behind, and what it gives to its calls. -/
structure RecvState.RoundHolds (s s' : RecvState) (data : List UInt8) (n : Int)
    (split : Option (Nat × Int)) : Prop where
  holds : s'.running = true → Sound s'.client ∧ s'.Holds data
  calls : ∀ before call after, s'.calls = s.calls ++ before ++ call :: after →
    ∃ pos size, split = some (pos, size) ∧ pos + size = n ∧
      call.Framed data (s.calls ++ before) size

section

variable {s : RecvState} {data : List UInt8} {c : RtmpClient} {m : Mem} {n : Int} {pos : Nat}
  {size : Int}

/-- A round that waits. -/
private theorem roundHolds_wait {split : Option (Nat × Int)}
    (hwait : ¬RtmpStatus.waitChunk.toNat < c.rtmpStatus.toNat) (hs : Sound c)
    (hh : { s with client := c, mPBuffer := m, size := size : RecvState }.Holds data) :
    s.RoundHolds (afterHandshake s m n (c, some (pos, size))) data n split := by
  rw [afterHandshake_wait s m n pos size hwait]
  constructor
  · exact fun _ ↦ ⟨hs, hh⟩
  · intro before call after h
    exact (no_call h).elim

/-- A round that fails to send. -/
private theorem roundHolds_break {split : Option (Nat × Int)} :
    s.RoundHolds (afterHandshake s m n (c, none)) data n split := by
  constructor
  · intro h
    cases h
  · intro before call after h
    exact (no_call h).elim

/-- A round that parses. -/
private theorem roundHolds_parse (hs : Sound c)
    (hparse : RtmpStatus.waitChunk.toNat < c.rtmpStatus.toNat) (hpos : c.mIParsePos = 0)
    (h0 : 0 ≤ size) (hn : pos + size = n)
    (htotal : (3073 + consumed s.calls : Nat) + size = data.length)
    (hm : (m.shift pos).slice 0 size.toNat = data.drop (3073 + consumed s.calls)) :
    s.RoundHolds (afterHandshake s m n (c, some (pos, size))) data n (some (pos, size)) := by
  rw [afterHandshake_parse s m n pos size hparse]
  obtain ⟨hholds, hcalls⟩ := holds_afterLoop (s := s) hs hparse hpos h0 htotal hm rfl
  constructor
  · exact hholds
  · intro before call after h
    rw [RecvState.calls_afterLoop, List.append_assoc, List.append_cancel_left_eq] at h
    exact ⟨pos, size, rfl, hn, hcalls before call after h⟩

end

/-- A round keeps the account, and its calls are given what is left. -/
theorem roundHolds_recvStep {s : RecvState} {data : List UInt8} (hs : Sound s.client)
    (hr : s.running = true) (hh : s.Holds data) (bytes : List UInt8) :
    s.RoundHolds (recvStep s bytes) (data ++ bytes) (s.size + bytes.length)
      (handshake s.client.rewound (s.size + bytes.length)).2 := by
  have hlen : (data ++ bytes).length = data.length + bytes.length := List.length_append
  have hlow := hh.low
  obtain ⟨n, hn⟩ : ∃ n : Nat, s.size + bytes.length = n :=
    ⟨(s.size + bytes.length).toNat, by omega⟩
  obtain ⟨m, hm⟩ : ∃ m, m = s.mPBuffer.memcpy s.size.toNat bytes := ⟨_, rfl⟩
  have hsame : m.slice s.size.toNat bytes.length = bytes := by
    rw [hm]
    exact Mem.slice_memcpy_same _ _ _
  have happend : m.slice 0 (s.size.toNat + bytes.length) =
      s.mPBuffer.slice 0 s.size.toNat ++ bytes := by
    have h := Mem.slice_memcpy_append s.mPBuffer 0 s.size.toNat bytes
    rwa [Nat.zero_add, ← hm] at h
  have hsound (c : RtmpClient) (h : c.rtmpChunk = s.client.rtmpChunk) : Sound c := by
    intro i
    rw [h]
    exact hs i
  have hcount (h : s.calls = []) : 3073 + consumed s.calls = 3073 := by
    rw [h]
    rfl
  have hstep := handshakeStep_handshake (c := s.client.rewound) (n := n) hh.status
  rw [recvStep_eq hr, hn, ← hm]
  generalize handshake s.client.rewound n = out at hstep ⊢
  cases hstep with
  | waits h =>
    refine roundHolds_wait ?_ hs ?_
    · rcases h with h | h | h
      · rw [h]
        decide
      · rw [h.1]
        decide
      · rw [h.1]
        decide
    · have hfirst (h : s.client.rtmpStatus = .waitS0S1 ∨ s.client.rtmpStatus = .sendC0C1) :
          (n : Int) = (data ++ bytes).length ∧ m.slice 0 (data ++ bytes).length = data ++ bytes ∧
            s.calls = [] := by
        obtain ⟨hsize, hbuf, hcalls⟩ := hh.first h
        have hto : s.size.toNat = data.length := by omega
        refine ⟨by omega, ?_, hcalls⟩
        rw [hto, hbuf] at happend
        rw [hlen, happend]
      rcases h with h | ⟨h, h1⟩ | ⟨h, h2⟩
      · obtain ⟨hsize, hbuf, hcalls⟩ := hfirst (Or.inr h)
        exact .waitS0S1 (Or.inl h) hsize hbuf hcalls
      · obtain ⟨hsize, hbuf, hcalls⟩ := hfirst (Or.inl h)
        exact .waitS0S1 (Or.inr ⟨h, by omega⟩) hsize hbuf hcalls
      · obtain ⟨hlow', hhigh, hsize, hcalls⟩ := hh.second h
        exact .waitS2 h (by omega) (by omega) (by dsimp only; omega) hcalls
  | notAnswered _ _ _ => exact roundHolds_break
  | answers hstatus hn1 hn2 hret =>
    obtain ⟨hsize, -, hcalls⟩ := hh.first (Or.inl hstatus)
    have hs2 := status_answered hret
    refine roundHolds_wait ?_ (hsound _ (sendC2_cases s.client.rewound).1.chunk) ?_
    · rw [hs2]
      decide
    · exact .waitS2 hs2 (by omega) (by omega) (by dsimp only; omega) hcalls
  | notConnected _ _ _ _ => exact roundHolds_break
  | answersConnects hstatus hn1 hret hret' =>
    obtain ⟨hsize, hbuf, hcalls⟩ := hh.first (Or.inl hstatus)
    have hk := kept_connecting s.client.rewound
    refine roundHolds_parse (hsound _ hk.chunk) (status_connecting hret') hk.parsePos (by omega)
      (by omega) (by rw [hcount hcalls]; omega) ?_
    have hto : s.size.toNat = data.length := by omega
    have hnum : ((n : Int) - 3073).toNat = (data ++ bytes).length - 3073 := by omega
    have hdrop := Mem.drop_slice m 0 (data ++ bytes).length 3073
    rw [hto, hbuf] at happend
    rw [hlen, happend, ← hlen] at hdrop
    rw [hnum, hcount hcalls, Mem.slice_shift, hdrop]
  | notConnectedLater _ _ _ => exact roundHolds_break
  | connects hstatus hn1 hret =>
    obtain ⟨hlow', hhigh, hsize, hcalls⟩ := hh.second hstatus
    obtain ⟨hk, hcases⟩ := sendConnect_cases s.client.rewound
    refine roundHolds_parse (hsound _ hk.chunk) ?_ hk.parsePos (by omega)
      (by omega) (by rw [hcount hcalls]; omega) ?_
    · rw [hcases.resolve_left hret]
      decide
    · -- the bytes behind S2 are the last ones of `bytes`
      have hdrop := Mem.drop_slice m s.size.toNat bytes.length (3073 - data.length)
      have hoff : s.size.toNat + (3073 - data.length) = 1536 + 0 := by omega
      have hnum : bytes.length - (3073 - data.length) = ((n : Int) - 1536).toNat := by omega
      rw [hsame, hoff, hnum] at hdrop
      rw [hcount hcalls, List.drop_append, List.drop_eq_nil_of_le (by omega), List.nil_append,
        hdrop, Mem.slice_shift]
  | parses h =>
    obtain ⟨htotal, hbuf⟩ := hh.parsed h
    refine roundHolds_parse hs h rfl (by omega) (by omega) (by omega) ?_
    have hnum : (n : Int).toNat = s.size.toNat + bytes.length := by omega
    rw [Mem.shift_zero, hnum, happend, hbuf, List.drop_append_of_le_length (by omega)]

/-! ### Runs -/

theorem recvRun_append (s : RecvState) (received segments : List (List UInt8)) :
    recvRun s (received ++ segments) = recvRun (recvRun s received) segments := List.foldl_append

theorem recvStep_left {s : RecvState} (h : s.running = false) (bytes : List UInt8) :
    recvStep s bytes = s := recvRun_left h [bytes]

/-- A segment that the running loop gets is one it has asked for. -/
theorem Segmentation.accepts {s : RecvState} {received rest : List (List UInt8)}
    {bytes : List UInt8} (h : Segmentation s (received ++ bytes :: rest))
    (hr : (recvRun s received).running = true) : (recvRun s received).Accepts bytes := by
  induction received generalizing s with
  | nil => exact h.1 hr
  | cons _ _ ih => exact ih h.2 hr

section

variable {start : RecvState} (hs : Sound start.client) (hh : start.Holds [])

include hs hh

/-- A run keeps the account. -/
theorem holds_recvRun (segments : List (List UInt8))
    (hr : (recvRun start segments).running = true) :
    Sound (recvRun start segments).client ∧
      (recvRun start segments).Holds segments.flatten := by
  induction segments using List.reverseRecOn with
  | nil => exact ⟨hs, hh⟩
  | append_singleton segments bytes ih =>
    rw [recvRun_append] at hr ⊢
    change (recvStep (recvRun start segments) bytes).running = true at hr
    have hrun : (recvRun start segments).running = true := by
      by_contra hleft
      rw [Bool.not_eq_true] at hleft
      rw [recvStep_left hleft, hleft] at hr
      cases hr
    obtain ⟨hsound, hholds⟩ := ih hrun
    rw [List.flatten_append, List.flatten_singleton]
    exact (roundHolds_recvStep hsound hrun hholds bytes).holds hr

/-- Every call of a run is made in one of its rounds. -/
private theorem makes_recvRun (hcalls : start.calls = []) (segments : List (List UInt8))
    (before : List ChunkCall) (call : ChunkCall) (after : List ChunkCall)
    (h : (recvRun start segments).calls = before ++ call :: after) :
    ∃ received bytes rest pos size, segments = received ++ bytes :: rest ∧
      (recvRun start received).Makes bytes before call pos size ∧
      call.Framed (received.flatten ++ bytes) before size := by
  induction segments using List.reverseRecOn generalizing after with
  | nil =>
    change start.calls = _ at h
    rw [hcalls] at h
    cases before with
    | nil => cases h
    | cons _ _ => cases h
  | append_singleton segments bytes ih =>
    rw [recvRun_append] at h
    change (recvStep (recvRun start segments) bytes).calls = _ at h
    obtain ⟨l, hl⟩ := calls_recvRun (recvRun start segments) [bytes]
    change _ = (recvStep (recvRun start segments) bytes).calls at hl
    have hearlier (c : List ChunkCall)
        (hc : (recvRun start segments).calls = before ++ call :: c) :
        ∃ received bytes' rest pos size,
          segments ++ [bytes] = received ++ bytes' :: rest ∧
          (recvRun start received).Makes bytes' before call pos size ∧
          call.Framed (received.flatten ++ bytes') before size := by
      obtain ⟨received, bytes', rest, pos, size, hsplit, hmakes⟩ := ih c hc
      refine ⟨received, bytes', rest ++ [bytes], pos, size, ?_, hmakes⟩
      rw [hsplit, List.append_assoc, List.cons_append]
    have hlater (before' : List ChunkCall)
        (hb : before = (recvRun start segments).calls ++ before')
        (hnew : (recvStep (recvRun start segments) bytes).calls =
          (recvRun start segments).calls ++ before' ++ call :: after) :
        ∃ received bytes' rest pos size,
          segments ++ [bytes] = received ++ bytes' :: rest ∧
          (recvRun start received).Makes bytes' before call pos size ∧
          call.Framed (received.flatten ++ bytes') before size := by
      have hrun : (recvRun start segments).running = true := by
        by_contra hleft
        rw [Bool.not_eq_true] at hleft
        rw [recvStep_left hleft] at hnew
        exact no_call hnew
      obtain ⟨hsound, hholds⟩ := holds_recvRun hs hh segments hrun
      obtain ⟨pos, size, hsplit, htotal, hframed⟩ :=
        (roundHolds_recvStep hsound hrun hholds bytes).calls before' call after hnew
      rw [← hb] at hframed hnew
      refine ⟨segments, bytes, [], pos, size, rfl, ⟨hrun, ?_, ?_, hsplit, htotal⟩, hframed⟩
      · rw [hb]
        exact List.prefix_append _ _
      · rw [hnew]
        exact ⟨after, by simp⟩
    rw [← hl] at h
    rcases List.append_eq_append_iff.1 h with ⟨before', hb, hnew⟩ | ⟨c, hc, hnew⟩
    · refine hlater before' hb ?_
      rw [← hl, hnew, List.append_assoc]
    · cases c with
      | nil =>
        rw [List.append_nil] at hc
        rw [List.nil_append] at hnew
        refine hlater [] ?_ ?_
        · rw [hc, List.append_nil]
        · rw [← hl, hnew, List.append_nil]
      | cons first c =>
        injection hnew with h1 h2
        rw [← h1] at hc
        exact hearlier c hc

end

/-- In the run over these results of `Receive`, the region in use stays inside `m_pBuffer`, and
every call is made in a round with what has been received, not dropped and not consumed. -/
def RecvState.Windowed (start : RecvState) (segments : List (List UInt8)) : Prop :=
  (∀ received bytes rest, segments = received ++ bytes :: rest →
    (recvRun start received).running = true →
      0 ≤ (recvRun start received).size ∧
        (recvRun start received).size + bytes.length ≤ maxBufLen) ∧
  ∀ before call after, (recvRun start segments).calls = before ++ call :: after →
    ∃ received bytes rest pos size, segments = received ++ bytes :: rest ∧
      (recvRun start received).Makes bytes before call pos size ∧
      call.Framed (received.flatten ++ bytes) before size

/-- Whatever the server sends and however it is cut, every call of `rtmp_process_chunk` is given
exactly the bytes received behind the 3073 of the handshake that no earlier call has consumed. -/
theorem rtmpRecvData_windows (u : RtmpClient) (h : (rtmpStartPlay (rtmpClient u)).1 = 0)
    (rtmpUrl rtmpApp rtmpStream : List UInt8) (mPBuffer : Mem) (segments : List (List UInt8))
    (hseg : Segmentation (rtmpRecvData (playing u rtmpUrl rtmpApp rtmpStream) mPBuffer) segments) :
    (rtmpRecvData (playing u rtmpUrl rtmpApp rtmpStream) mPBuffer).Windowed segments := by
  have hf := fresh_playing h rtmpUrl rtmpApp rtmpStream
  generalize hstart : rtmpRecvData (playing u rtmpUrl rtmpApp rtmpStream) mPBuffer = start at hseg ⊢
  have hs : Sound start.client := by
    rw [← hstart]
    exact hf.sound
  have hh : start.Holds [] := by
    have hlow : ([] : List UInt8).length < 1537 := by decide
    rw [← hstart]
    refine .waitS0S1 ?_ rfl rfl rfl
    rcases hf.status with h | h
    · exact Or.inr ⟨h, hlow⟩
    · exact Or.inl h
  constructor
  · intro received bytes rest hsplit hr
    rw [hsplit] at hseg
    have haccepts : (bytes.length : Int) ≤ maxBufLen - (recvRun start received).size :=
      (hseg.accepts hr).2
    have hlow := (holds_recvRun hs hh received hr).2.low
    exact ⟨hlow, by omega⟩
  · apply makes_recvRun hs hh
    rw [← hstart]
    rfl

/-- S2 comes in three parts, and the last one brings a chunk whose end comes later. -/
theorem rtmpRecvData_windows_straddling :
    (rtmpRecvData (playing blankClient [] [] []) fun _ ↦ 0).Windowed
      [zeroHandshake.take 2000, (zeroHandshake.drop 2000).take 500,
        zeroHandshake.drop 2500 ++ dataChunk.take 5, dataChunk.drop 5] :=
  rtmpRecvData_windows blankClient (by decide) [] [] [] (fun _ ↦ 0) _ (by decide +kernel)

end RtmpRecv.Client
