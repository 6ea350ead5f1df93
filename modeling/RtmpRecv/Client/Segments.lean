import RtmpRecv.Client.Handshake
import RtmpRecv.Client.Repeat

/-!
# Streams and their segmentations

Library `Client`. What a server's bytes make of a client, as a whole, and that `rtmp_recv_data`
comes to that however the bytes are cut into results of `Receive`, as long as no handler reads
behind its message and no call is repeated that has added a delta to a timestamp.
-/

namespace RtmpRecv.Client
open RtmpRecv.Base RtmpRecv.Base.Resume

/-! ### The inner loop -/

/-- How the inner loop has ended, for a client that parses `data` from `c₀` on: with a call that
asks for more bytes, or with one that stops. -/
inductive LoopDone (c₀ : RtmpClient) (data : List UInt8) (size : Int) (r : LoopEnd) : Prop where
  | more (call : ChunkCall) (hlast : r.calls.getLast? = some call) (hret : r.ret = .ok 1)
      (hp : Pending outcome c₀ data call.client.rewound call.window)
      (hout : outcome call.client.rewound call.window = .more r.client.rewound)
      (hmem : r.mem.slice r.client.mIParsePos.toNat (size - r.client.mIParsePos).toNat =
        call.window)
      (hagain : ¬call.CutBehindDelta →
        Alike outcome call.window r.client.rewound call.client.rewound)
  | stop (s : RtmpClient) (window : List UInt8) (hp : Pending outcome c₀ data s window)
      (hout : outcome s window = .stop r.ret r.client.rewound)
      (hstable : Stable outcome s window) (hret : ∀ ret, r.ret = .ok ret → ret < 0)

private theorem rewound_alike {w : List UInt8} {c c' : RtmpClient} (h : Alike outcome w c c') :
    Alike outcome w c.rewound c'.rewound := by
  intro x
  rw [outcome_rewound, outcome_rewound]
  exact h x

private theorem getLast?_cons_of_some {α : Type} {a b : α} {l : List α}
    (h : l.getLast? = some b) : (a :: l).getLast? = some b := by
  rw [List.getLast?_cons, h]
  rfl

/-- How one call goes on from pending input. -/
inductive CallDone (c₀ : RtmpClient) (data : List UInt8) (call : ChunkCall) :
    Except Fault Int → RtmpClient → Mem → Prop where
  | more (c : RtmpClient) (hpos : c.mIParsePos = call.client.mIParsePos)
      (hout : outcome call.client.rewound call.window = .more c.rewound)
      (hagain : ¬call.CutBehindDelta →
        Alike outcome call.window c.rewound call.client.rewound) :
      CallDone c₀ data call (.ok 1) c call.bufdata
  | stop (ret : Except Fault Int) (c : RtmpClient) (m : Mem)
      (hout : outcome call.client.rewound call.window = .stop ret c.rewound)
      (hstable : Stable outcome call.client.rewound call.window)
      (hret : ∀ r, ret = .ok r → r < 0) : CallDone c₀ data call ret c m
  | next (c : RtmpClient) (m : Mem) (n : Nat) (hn : 0 < n) (hle : (n : Int) ≤ call.datalen)
      (hpos : c.mIParsePos = call.client.mIParsePos + n)
      (hm : ∀ i, n ≤ i → m i = call.bufdata i)
      (hp : Pending outcome c₀ data c.rewound (call.window.drop n)) :
      CallDone c₀ data call (.ok 0) c m

private theorem callDone {c₀ : RtmpClient} {data : List UInt8} {call : ChunkCall} {n : Nat}
    {ret : Except Fault Int} {c : RtmpClient} {m : Mem} (hs : Sound call.client)
    (hn : call.datalen = n) (hin : call.Inside)
    (hp : Pending outcome c₀ data call.client.rewound call.window)
    (hout : rtmpProcessChunk call.client call.bufdata call.datalen = (ret, c, m))
    (hend : CallEnd call ret c m) : CallDone c₀ data call ret c m := by
  have hwindow := outcome_window hs hn hin
  have hstable (hret : ret ≠ .ok 1) : Stable outcome call.client.rewound call.window := by
    intro x
    rw [outcome_rewound, outcome_rewound]
    exact stable_outcome hs hn hin (by rw [hout]; exact hret) x
  rw [hout, ← outcome_rewound] at hwindow
  cases hend with
  | more _ hpos _ =>
    exact .more c hpos hwindow fun hcut ↦ rewound_alike (alike_outcome hs hn hout hpos hcut)
  | reject _ _ =>
    refine .stop _ c m hwindow (hstable (by decide)) fun r hr ↦ ?_
    injection hr with hr
    omega
  | failed _ _ _ hf =>
    cases ret with
    | error e =>
      refine .stop _ c m hwindow (hstable fun h ↦ by cases h) fun r hr ↦ ?_
      cases hr
    | ok r =>
      have hneg := hf.ret
      subst hneg
      refine .stop _ c m hwindow (hstable (by decide)) fun r hr ↦ ?_
      injection hr with hr
      omega
  | taken _ _ k hk hle hpos hm =>
    have hnext : outcome call.client.rewound call.window = .next c.rewound k := by
      rw [hwindow]
      unfold callOutcome
      have hlen : (c.mIParsePos - call.client.mIParsePos).toNat = k := by omega
      simp [hlen]
    refine .next c m k hk hle hpos hm (hp.next hnext ?_ (hstable (by decide)))
    rw [call.length_window hn]
    omega

/-- The inner loop parses what it is given. -/
theorem chunkLoop_done (fuel : Nat) {c c₀ : RtmpClient} {data : List UInt8} (hs : Sound c)
    (mem : Mem) (size : Int) (h0 : 0 ≤ c.mIParsePos) (hle : c.mIParsePos ≤ size)
    (hfuel : size - c.mIParsePos < (fuel : Int))
    (hp : Pending outcome c₀ data c.rewound
      (mem.slice c.mIParsePos.toNat (size - c.mIParsePos).toNat))
    (hin : ∀ call ∈ (chunkLoop fuel c mem size).calls, call.Inside) :
    LoopDone c₀ data size (chunkLoop fuel c mem size) := by
  induction fuel generalizing c mem with
  | zero => omega
  | succ fuel ih =>
    rw [chunkLoop_succ] at hin ⊢
    obtain ⟨call, hcall⟩ : ∃ call : ChunkCall,
      call = ⟨c, mem.shift c.mIParsePos.toNat, size - c.mIParsePos⟩ := ⟨_, rfl⟩
    have hclient : call.client = c := by rw [hcall]
    have hdatalen : call.datalen = size - c.mIParsePos := by rw [hcall]
    have hwindow : call.window = mem.slice c.mIParsePos.toNat (size - c.mIParsePos).toNat := by
      rw [hcall]
      unfold ChunkCall.window
      rw [Mem.slice_shift, Nat.add_zero]
    rw [← hwindow, ← hclient] at hp
    rw [← hclient] at hs
    obtain ⟨hend, hsound, -⟩ := rtmpProcessChunk_end call hs
    dsimp only at hin ⊢
    have hbuf : call.bufdata = mem.shift c.mIParsePos.toNat := by rw [hcall]
    have hsame : rtmpProcessChunk c (mem.shift c.mIParsePos.toNat) (size - c.mIParsePos) =
        rtmpProcessChunk call.client call.bufdata call.datalen := by rw [hcall]
    rw [← hcall, hsame] at hin ⊢
    clear hsame
    generalize hr : rtmpProcessChunk call.client call.bufdata call.datalen = out at *
    obtain ⟨ret, c', m'⟩ := out
    dsimp only at hend hsound hin ⊢
    have hinside : call.Inside := by
      refine hin call ?_
      cases ret with
      | error e => exact List.mem_singleton_self _
      | ok ret =>
        dsimp only
        split
        · exact List.mem_cons_self
        · exact List.mem_singleton_self _
    have hdone := callDone hs (n := (size - c.mIParsePos).toNat) (by omega) hinside hp hr hend
    cases hdone with
    | more _ hpos hout hagain =>
      rw [hclient] at hpos
      have hone : ¬(1 : Int) = 0 := by decide
      simp only [hone, if_false]
      refine .more call rfl rfl hp hout ?_ hagain
      dsimp only
      rw [hpos, hwindow]
      rw [hbuf, Mem.splice_shift]
    | stop _ _ _ hout hstable hret =>
      cases ret with
      | error e => exact .stop _ _ hp hout hstable hret
      | ok r =>
        have hr0 : ¬r = 0 := by
          have hneg := hret r rfl
          omega
        simp only [if_neg hr0]
        exact .stop _ _ hp hout hstable hret
    | next _ _ n hn hle' hpos hm hp' =>
      rw [hclient] at hpos
      rw [hdatalen] at hle'
      simp only [if_pos] at hin ⊢
      have hslice : (mem.splice c.mIParsePos.toNat m').slice c'.mIParsePos.toNat
          (size - c'.mIParsePos).toNat = call.window.drop n := by
        have hto : c'.mIParsePos.toNat = c.mIParsePos.toNat + n := by omega
        have hlen : (size - c'.mIParsePos).toNat = (size - c.mIParsePos).toNat - n := by omega
        rw [hwindow, Mem.drop_slice, hto, hlen, Mem.slice_splice, ← Mem.slice_shift, ← hbuf,
          Mem.slice_eq_iff]
        exact fun i _ ↦ hm (n + i) (by omega)
      rw [← hslice] at hp'
      have hrest := ih hsound (mem.splice c.mIParsePos.toNat m') (by omega) (by omega) (by omega)
        hp' (fun call' hcall' ↦ hin call' (List.mem_cons_of_mem _ hcall'))
      cases hrest with
      | more call' hlast hret hp hout hmem hagain =>
        exact .more call' (getLast?_cons_of_some hlast) hret hp hout hmem hagain
      | stop s w hp hout hstable hret => exact .stop s w hp hout hstable hret

/-! ### Whole streams -/

/-- What the bytes `data` make of the client `c₀` that waits for them: nothing before S0 and S1
are there, the answer to these before S2 is there, and then what the chunks come to. -/
def Session (c₀ : RtmpClient) (data : List UInt8) (c : RtmpClient) : Prop :=
  if c₀.rtmpStatus ≠ .waitS0S1 ∨ data.length < 1537 then c = c₀
  else if (rtmpSendToServerC2 c₀).1 < 0 ∨ data.length < 3073 then c = answered c₀
  else if (rtmpSendToServerConnect (answered c₀)).1 < 0 then c = connecting c₀
  else
    ∃ s window, Pending outcome (connecting c₀) (data.drop 3073) s window ∧
      (outcome s window = .more c ∨ ∃ ret, outcome s window = .stop ret c)

/-- The bytes make one client. -/
theorem Session.unique {c₀ c c' : RtmpClient} {data : List UInt8} (h : Session c₀ data c)
    (h' : Session c₀ data c') : c = c' := by
  unfold Session at h h'
  split_ifs at h h'
  · rw [h, h']
  · rw [h, h']
  · rw [h, h']
  · obtain ⟨s, w, hp, hout⟩ := h
    obtain ⟨s', w', hp', hout'⟩ := h'
    have hne {c : RtmpClient} {o : Outcome RtmpClient (Except Fault Int)}
        (ho : o = .more c ∨ ∃ ret, o = .stop ret c) (c' : RtmpClient) (n : Nat) :
        o ≠ .next c' n := by
      rcases ho with rfl | ⟨ret, rfl⟩
      · intro h
        cases h
      · intro h
        cases h
    have heq := hp.unique hp' (hne hout) (hne hout')
    rcases hout with hout | ⟨ret, hout⟩
    · rcases hout' with hout' | ⟨ret', hout'⟩
      · rw [hout, hout'] at heq
        injection heq
      · rw [hout, hout'] at heq
        cases heq
    · rcases hout' with hout' | ⟨ret', hout'⟩
      · rw [hout, hout'] at heq
        cases heq
      · rw [hout, hout'] at heq
        injection heq

section

variable {c₀ c : RtmpClient} {data : List UInt8}

private theorem session_waiting (h : c₀.rtmpStatus = .waitS0S1 → data.length < 1537) :
    Session c₀ data c₀ := by
  unfold Session
  rw [if_pos]
  by_cases hstatus : c₀.rtmpStatus = .waitS0S1
  · exact Or.inr (h hstatus)
  · exact Or.inl hstatus

private theorem session_answered (hstatus : c₀.rtmpStatus = .waitS0S1)
    (hlow : 1537 ≤ data.length) (h : (rtmpSendToServerC2 c₀).1 < 0 ∨ data.length < 3073) :
    Session c₀ data (answered c₀) := by
  unfold Session
  rw [if_neg, if_pos h]
  rintro (h | h)
  · exact h hstatus
  · omega

private theorem session_connecting (hstatus : c₀.rtmpStatus = .waitS0S1)
    (hret : ¬(rtmpSendToServerC2 c₀).1 < 0) (hlow : 3073 ≤ data.length)
    (h : (rtmpSendToServerConnect (answered c₀)).1 < 0) : Session c₀ data (connecting c₀) := by
  unfold Session
  rw [if_neg, if_neg, if_pos h]
  · rintro (h | h)
    · exact hret h
    · omega
  · rintro (h | h)
    · exact h hstatus
    · omega

private theorem session_chunks {s : RtmpClient} {window : List UInt8}
    (hstatus : c₀.rtmpStatus = .waitS0S1) (hret : ¬(rtmpSendToServerC2 c₀).1 < 0)
    (hret' : ¬(rtmpSendToServerConnect (answered c₀)).1 < 0) (hlow : 3073 ≤ data.length)
    (hp : Pending outcome (connecting c₀) (data.drop 3073) s window)
    (hout : outcome s window = .more c ∨ ∃ ret, outcome s window = .stop ret c) :
    Session c₀ data c := by
  unfold Session
  rw [if_neg, if_neg, if_neg hret']
  · exact ⟨s, window, hp, hout⟩
  · rintro (h | h)
    · exact hret h
    · omega
  · rintro (h | h)
    · exact h hstatus
    · omega

end

/-- The loop runs, with a call behind it that asks for more bytes of the chunks `data`. -/
structure Parsing (c₀ : RtmpClient) (data : List UInt8) (s : RecvState) : Prop where
  sound : Sound s.client
  status : RtmpStatus.waitChunk.toNat < s.client.rtmpStatus.toNat
  low : 0 ≤ s.size
  call : ∃ call, s.calls.getLast? = some call ∧
    Pending outcome c₀ data call.client.rewound call.window ∧
    outcome call.client.rewound call.window = .more s.client.rewound ∧
    s.mPBuffer.slice 0 s.size.toNat = call.window ∧
    (¬call.CutBehindDelta →
      Alike outcome call.window s.client.rewound call.client.rewound)

/-- The loop has been left behind a call that stops. -/
def Stopped (c₀ : RtmpClient) (data : List UInt8) (s : RecvState) : Prop :=
  s.running = false ∧ ∃ c window ret, Pending outcome c₀ data c window ∧
    outcome c window = .stop ret s.client.rewound ∧ Stable outcome c window

/-- A round that parses goes on or stops. -/
theorem parsing_afterLoop {c c₀ : RtmpClient} {data : List UInt8} {m : Mem} {pos : Nat} {size : Int}
    {r : LoopEnd} (s : RecvState) (hs : Sound c)
    (hparse : RtmpStatus.waitChunk.toNat < c.rtmpStatus.toNat)
    (hpos : c.mIParsePos = 0) (h0 : 0 ≤ size)
    (hp : Pending outcome c₀ data c ((m.shift pos).slice 0 size.toNat))
    (hr : chunkLoop (size.toNat + 1) c (m.shift pos) size = r)
    (hin : ∀ call ∈ r.calls, call.Inside) :
    (s.afterLoop m pos size r).running = true ∧ Parsing c₀ data (s.afterLoop m pos size r) ∨
      Stopped c₀ data (s.afterLoop m pos size r) := by
  have hrewound := rewound_of_pos hpos
  have hend := chunkLoop_end (size.toNat + 1) hs (m.shift pos) size (by omega) (by omega) (by omega)
  have hdone := chunkLoop_done (size.toNat + 1) hs (m.shift pos) size (by omega) (by omega)
    (by omega) (by rw [hrewound, hpos, Int.sub_zero]; exact hp) (by rw [hr]; exact hin)
  rw [hr] at hend hdone
  cases hdone with
  | more call hlast hret hp hout hmem hagain =>
    have hrange : r.client.mIParsePos ≤ size ∧ 0 ≤ r.client.mIParsePos := by
      obtain ⟨hlo, hle, -⟩ := hend.incomplete hret (by decide)
      exact ⟨hle, by omega⟩
    left
    have hafter : s.afterLoop m pos size r =
        { client := r.client
          mPBuffer := (m.splice pos r.mem).memcpy 0 ((m.splice pos r.mem).slice
            (pos + r.client.mIParsePos.toNat) (size - r.client.mIParsePos).toNat)
          size := size - r.client.mIParsePos, running := true, fault := none
          calls := s.calls ++ r.calls } := by
      unfold RecvState.afterLoop
      rw [hret]
      rfl
    rw [hafter]
    refine ⟨rfl, hend.sound, hend.status.parsing hparse, by change 0 ≤ size - _; omega, call, ?_,
      hp, hout, ?_, hagain⟩
    · dsimp only
      rw [List.getLast?_append, hlast]
      rfl
    · dsimp only
      have hsame := Mem.slice_memcpy_same (m.splice pos r.mem) 0 ((m.splice pos r.mem).slice
        (pos + r.client.mIParsePos.toNat) (size - r.client.mIParsePos).toNat)
      rw [Mem.length_slice] at hsame
      rw [hsame, Mem.slice_splice, hmem]
  | stop c' window hp hout hstable hret =>
    right
    unfold RecvState.afterLoop
    cases hres : r.ret with
    | error e =>
      rw [hres] at hout
      exact ⟨rfl, c', window, _, hp, hout, hstable⟩
    | ok ret =>
      have hneg := hret ret hres
      rw [hres] at hout
      dsimp only
      rw [if_neg (by omega)]
      exact ⟨rfl, c', window, _, hp, hout, hstable⟩

/-! ### Rounds -/

/-- How far the loop has come that has been given `data`. -/
private inductive Progress (c₀ : RtmpClient) (data : List UInt8) (s : RecvState) : Prop where
  | waitS0S1 (hc : s.client.rewound = c₀)
      (hd : c₀.rtmpStatus = .waitS0S1 → data.length < 1537) (hsize : s.size = data.length)
      (hm : s.mPBuffer.slice 0 data.length = data) (hcalls : s.calls = [])
  | waitS2 (hstatus : c₀.rtmpStatus = .waitS0S1) (hret : ¬(rtmpSendToServerC2 c₀).1 < 0)
      (hc : s.client.rewound = answered c₀) (hlow : 1537 ≤ data.length)
      (hhigh : data.length < 3073) (hsize : s.size = data.length - 1537) (hcalls : s.calls = [])
  | chunks (hstatus : c₀.rtmpStatus = .waitS0S1) (hret : ¬(rtmpSendToServerC2 c₀).1 < 0)
      (hret' : ¬(rtmpSendToServerConnect (answered c₀)).1 < 0) (hlow : 3073 ≤ data.length)
      (hp : Parsing (connecting c₀) (data.drop 3073) s)

/-- A loop that runs has done to the client what the bytes say. -/
private theorem Progress.session {c₀ : RtmpClient} {data : List UInt8} {s : RecvState}
    (h : Progress c₀ data s) : Session c₀ data s.client.rewound := by
  cases h with
  | waitS0S1 hc hd _ _ _ =>
    rw [hc]
    exact session_waiting hd
  | waitS2 hstatus hret hc hlow hhigh _ _ =>
    rw [hc]
    exact session_answered hstatus hlow (Or.inr hhigh)
  | chunks hstatus hret hret' hlow hp =>
    obtain ⟨call, -, hpending, hout, -⟩ := hp.call
    exact session_chunks hstatus hret hret' hlow hpending (Or.inl hout)

/-- The loop has been left, and more bytes change nothing. -/
private def Left (c₀ : RtmpClient) (data : List UInt8) (s : RecvState) : Prop :=
  s.running = false ∧ ∀ x, Session c₀ (data ++ x) s.client.rewound

private theorem left_of_stopped {c₀ : RtmpClient} {data : List UInt8} {s : RecvState}
    (hstatus : c₀.rtmpStatus = .waitS0S1) (hret : ¬(rtmpSendToServerC2 c₀).1 < 0)
    (hret' : ¬(rtmpSendToServerConnect (answered c₀)).1 < 0) (hlow : 3073 ≤ data.length)
    (h : Stopped (connecting c₀) (data.drop 3073) s) : Left c₀ data s := by
  obtain ⟨hrun, c, window, ret, hp, hout, hstable⟩ := h
  refine ⟨hrun, fun x ↦ ?_⟩
  have hpending := hp.append x
  rw [← List.drop_append_of_le_length hlow] at hpending
  refine session_chunks hstatus hret hret' ?_ hpending (Or.inr ⟨ret, ?_⟩)
  · rw [List.length_append]
    omega
  · rw [hstable x, hout]

section

variable {c₀ : RtmpClient} {data bytes : List UInt8} {s : RecvState}

/-- A round that fails to send. -/
private theorem left_break {c : RtmpClient} (s : RecvState) (m : Mem) (n : Int)
    (hpos : c.mIParsePos = 0) (h : ∀ x, Session c₀ (data ++ x) c) :
    Left c₀ data (afterHandshake s m n (c, none)) := by
  refine ⟨rfl, fun x ↦ ?_⟩
  have hc : (afterHandshake s m n (c, none)).client = c := rfl
  rw [hc, rewound_of_pos hpos]
  exact h x

/-- The loop runs on or has been left. -/
private def Goes (c₀ : RtmpClient) (data : List UInt8) (s : RecvState) : Prop :=
  s.running = true ∧ Progress c₀ data s ∨ Left c₀ data s

/-- A round that parses. -/
private theorem goes_chunks (hstatus : c₀.rtmpStatus = .waitS0S1)
    (hret : ¬(rtmpSendToServerC2 c₀).1 < 0)
    (hret' : ¬(rtmpSendToServerConnect (answered c₀)).1 < 0) (hlow : 3073 ≤ data.length)
    {c : RtmpClient} {m : Mem} {n : Int} {pos : Nat} {size : Int} (h0 : 0 ≤ size) (hs : Sound c)
    (hparse : RtmpStatus.waitChunk.toNat < c.rtmpStatus.toNat) (hpos : c.mIParsePos = 0)
    (hp : Pending outcome (connecting c₀) (data.drop 3073) c ((m.shift pos).slice 0 size.toNat))
    (hin : ∀ call ∈ (afterHandshake s m n (c, some (pos, size))).calls, call.Inside) :
    Goes c₀ data (afterHandshake s m n (c, some (pos, size))) := by
  rw [afterHandshake_parse s m n pos size hparse] at hin ⊢
  rw [RecvState.calls_afterLoop] at hin
  rcases parsing_afterLoop s hs hparse hpos h0 hp rfl
    (fun call hcall ↦ hin call (List.mem_append_right _ hcall)) with ⟨hrun, hp'⟩ | hstop
  · exact Or.inl ⟨hrun, .chunks hstatus hret hret' hlow hp'⟩
  · exact Or.inr (left_of_stopped hstatus hret hret' hlow hstop)

/-- A round that looks for S2. -/
private theorem goes_s2 (hf : Fresh c₀) (hr : s.running = true) (hcalls : s.calls = [])
    (hstatus : c₀.rtmpStatus = .waitS0S1) (hret : ¬(rtmpSendToServerC2 c₀).1 < 0) {m : Mem}
    {n : Int} {pos : Nat} {size : Int} (hlow : 1537 ≤ data.length)
    (hsize : size = data.length - 1537)
    (hm : 3073 ≤ data.length →
      (m.shift (pos + 1536)).slice 0 (size - 1536).toNat = data.drop 3073)
    (hin : ∀ call ∈ (afterHandshake s m n (handshakeS2 (answered c₀) pos size)).calls,
      call.Inside) :
    Goes c₀ data (afterHandshake s m n (handshakeS2 (answered c₀) pos size)) := by
  have hs2 := status_answered hret
  have hpos : (answered c₀).rewound = answered c₀ :=
    rewound_of_pos ((sendC2_cases c₀).1.parsePos.trans hf.pos)
  by_cases hbig : 3073 ≤ data.length
  · have hcond : (answered c₀).rtmpStatus = .waitS2 ∧ size ≥ 1536 := ⟨hs2, by omega⟩
    by_cases hret' : (rtmpSendToServerConnect (answered c₀)).1 < 0
    · have hfail : handshakeS2 (answered c₀) pos size = (connecting c₀, none) := by
        unfold handshakeS2 connecting
        rw [if_pos hcond]
        generalize rtmpSendToServerConnect (answered c₀) = out at hret' ⊢
        exact if_pos hret'
      rw [hfail]
      refine Or.inr (left_break s m n ((kept_connecting c₀).parsePos.trans hf.pos) fun x ↦ ?_)
      exact session_connecting hstatus hret (by rw [List.length_append]; omega) hret'
    · have hconnect : handshakeS2 (answered c₀) pos size =
          (connecting c₀, some (pos + 1536, size - 1536)) := by
        unfold handshakeS2 connecting
        rw [if_pos hcond]
        generalize rtmpSendToServerConnect (answered c₀) = out at hret' ⊢
        exact if_neg hret'
      rw [hconnect] at hin ⊢
      refine goes_chunks hstatus hret hret' hbig (by omega) (sound_connecting hf)
        (status_connecting hret') ((kept_connecting c₀).parsePos.trans hf.pos) ?_ hin
      rw [hm hbig]
      exact Pending.start _ _
  · have hwait : handshakeS2 (answered c₀) pos size = (answered c₀, some (pos, size)) := by
      unfold handshakeS2
      rw [if_neg fun h ↦ hbig (by omega)]
    have hidle : ¬RtmpStatus.waitChunk.toNat < (answered c₀).rtmpStatus.toNat := by
      rw [hs2]
      decide
    rw [hwait, afterHandshake_wait s m n pos size hidle]
    exact Or.inl ⟨hr, .waitS2 hstatus hret hpos hlow (by omega) hsize hcalls⟩

/-- A round goes on or ends the loop. -/
private theorem goes_recvStep (hf : Fresh c₀) (hr : s.running = true) (h : Progress c₀ data s)
    (hin : ∀ call ∈ (recvStep s bytes).calls, call.Inside)
    (hcut : ∀ call ∈ s.calls, ¬call.CutBehindDelta) :
    Goes c₀ (data ++ bytes) (recvStep s bytes) := by
  have hlen : (data ++ bytes).length = data.length + bytes.length := List.length_append
  rw [recvStep_eq hr] at hin ⊢
  cases h with
  | waitS0S1 hc hd hsize hm hcalls =>
    have hbuf : (s.mPBuffer.memcpy s.size.toNat bytes).slice 0 (data ++ bytes).length =
        data ++ bytes := by
      have happend := Mem.slice_memcpy_append s.mPBuffer 0 data.length bytes
      rw [Nat.zero_add, hm] at happend
      rw [hsize, Int.toNat_natCast, hlen]
      exact happend
    have htotal : s.size + bytes.length = ((data ++ bytes).length : Nat) := by omega
    rw [hc, htotal] at hin ⊢
    by_cases hbig : c₀.rtmpStatus = .waitS0S1 ∧ 1537 ≤ (data ++ bytes).length
    · obtain ⟨hstatus, hlow⟩ := hbig
      by_cases hret : (rtmpSendToServerC2 c₀).1 < 0
      · rw [handshake_fails hstatus hlow hret]
        refine Or.inr (left_break s _ _ ((sendC2_cases c₀).1.parsePos.trans hf.pos) fun x ↦ ?_)
        exact session_answered hstatus (by rw [List.length_append]; omega) (Or.inl hret)
      · rw [handshake_answers hstatus hlow hret] at hin ⊢
        refine goes_s2 hf hr hcalls hstatus hret hlow rfl (fun hbig ↦ ?_) hin
        have hnum : (((data ++ bytes).length : Nat) - 1537 - 1536 : Int).toNat =
            (data ++ bytes).length - 3073 := by omega
        have hdrop := Mem.drop_slice (s.mPBuffer.memcpy s.size.toNat bytes) 0
          (data ++ bytes).length 3073
        rw [hbuf] at hdrop
        rw [hnum, Mem.slice_shift, hdrop]
    · have hwait : handshake c₀ ((data ++ bytes).length : Nat) =
          (c₀, some (0, ((data ++ bytes).length : Int))) := by
        refine handshake_waits (fun h ↦ ?_) fun hstatus ↦ ?_
        · rcases hf.status with hs | hs
          · rw [hs] at h
            cases h
          · rw [hs] at h
            cases h
        · have hlow : ¬1537 ≤ (data ++ bytes).length := fun hlow ↦ hbig ⟨hstatus, hlow⟩
          omega
      have hidle : ¬RtmpStatus.waitChunk.toNat < c₀.rtmpStatus.toNat := by
        rcases hf.status with hs | hs
        · rw [hs]
          decide
        · rw [hs]
          decide
      rw [hwait, afterHandshake_wait s _ _ _ _ hidle]
      refine Or.inl ⟨hr, .waitS0S1 (rewound_of_pos hf.pos) (fun hstatus ↦ ?_) rfl hbuf hcalls⟩
      by_contra hlow
      exact hbig ⟨hstatus, by omega⟩
  | waitS2 hstatus hret hc hlow hhigh hsize hcalls =>
    rw [hc, handshake_answered hret] at hin ⊢
    refine goes_s2 hf hr hcalls hstatus hret (by omega) (by omega) (fun hbig ↦ ?_) hin
    -- what has come of S2 lies at the start of the buffer, and its end lies in `bytes`
    have hsame := Mem.slice_memcpy_same s.mPBuffer s.size.toNat bytes
    have hdrop := Mem.drop_slice (s.mPBuffer.memcpy s.size.toNat bytes) s.size.toNat bytes.length
      (3073 - data.length)
    have hoff : s.size.toNat + (3073 - data.length) = 0 + 1536 + 0 := by omega
    have hnum : bytes.length - (3073 - data.length) = (s.size + bytes.length - 1536).toNat := by
      omega
    rw [hsame, hoff, hnum] at hdrop
    rw [List.drop_append, List.drop_eq_nil_of_le (by omega), List.nil_append, hdrop,
      Mem.slice_shift]
  | chunks hstatus hret hret' hlow hp =>
    obtain ⟨call, hlast, hpending, -, hm, hagain⟩ := hp.call
    have hsize := hp.low
    have hparse : RtmpStatus.waitChunk.toNat < s.client.rewound.rtmpStatus.toNat := hp.status
    rw [handshake_parsing _ _ hparse] at hin ⊢
    refine goes_chunks hstatus hret hret' (by omega) (by omega) hp.sound hparse rfl ?_ hin
    have happend := Mem.slice_memcpy_append s.mPBuffer 0 s.size.toNat bytes
    have hnum : (s.size + bytes.length).toNat = s.size.toNat + bytes.length := by omega
    rw [Nat.zero_add, hm] at happend
    rw [List.drop_append_of_le_length hlow, Mem.shift_zero, hnum, happend]
    exact hpending.more (hagain (hcut call (List.mem_of_getLast? hlast))) bytes

end

/-! ### Runs -/

/-- No handler reads behind its message in the window, and no call is repeated that has added a
delta to a timestamp. -/
def RecvState.Undisturbed (s : RecvState) : Prop :=
  (∀ call ∈ s.calls, call.Inside) ∧ ∀ call ∈ s.calls.dropLast, ¬call.CutBehindDelta

private theorem calls_chunkLoop (fuel : Nat) (c : RtmpClient) (mem : Mem) (size : Int) :
    (chunkLoop (fuel + 1) c mem size).calls ≠ [] := by
  rw [chunkLoop_succ]
  dsimp only
  split
  · exact List.cons_ne_nil _ _
  · split
    · exact List.cons_ne_nil _ _
    · exact List.cons_ne_nil _ _

/-- A round behind calls makes a further one, so none of these is the last. -/
private theorem calls_dropLast {c₀ : RtmpClient} {data : List UInt8} {s : RecvState}
    (hr : s.running = true) (h : Progress c₀ data s) (bytes : List UInt8)
    (segments : List (List UInt8)) {call : ChunkCall} (hcall : call ∈ s.calls) :
    call ∈ (recvRun (recvStep s bytes) segments).calls.dropLast := by
  cases h with
  | waitS0S1 _ _ _ _ hcalls =>
    rw [hcalls] at hcall
    cases hcall
  | waitS2 _ _ _ _ _ _ hcalls =>
    rw [hcalls] at hcall
    cases hcall
  | chunks _ _ _ _ hp =>
    have hparse : RtmpStatus.waitChunk.toNat < s.client.rewound.rtmpStatus.toNat := hp.status
    obtain ⟨l, hl⟩ := calls_recvRun (recvStep s bytes) segments
    rw [← hl, recvStep_eq hr, handshake_parsing _ _ hparse, afterHandshake_parse _ _ _ _ _ hparse,
      RecvState.calls_afterLoop, List.append_assoc]
    have hne := calls_chunkLoop (s.size + bytes.length).toNat s.client.rewound
      ((s.mPBuffer.memcpy s.size.toNat bytes).shift 0) (s.size + bytes.length)
    rw [List.dropLast_append_of_ne_nil (List.append_ne_nil_of_left_ne_nil hne l)]
    exact List.mem_append_left _ hcall

/-- A run does to the client what its bytes say. -/
private theorem session_recvRun {c₀ : RtmpClient} (hf : Fresh c₀) {s : RecvState}
    {data : List UInt8} (segments : List (List UInt8)) (h : Goes c₀ data s)
    (hu : (recvRun s segments).Undisturbed) :
    Session c₀ (data ++ segments.flatten) (recvRun s segments).client.rewound := by
  induction segments generalizing s data with
  | nil =>
    rcases h with ⟨-, hp⟩ | ⟨-, hsession⟩
    · rw [List.flatten_nil, List.append_nil]
      exact hp.session
    · exact hsession _
  | cons bytes rest ih =>
    rcases h with ⟨hr, hp⟩ | ⟨hr, hsession⟩
    · rw [List.flatten_cons, ← List.append_assoc]
      have hstep : Goes c₀ (data ++ bytes) (recvStep s bytes) := goes_recvStep hf hr hp
        (fun call hcall ↦ hu.1 call ((calls_recvRun (recvStep s bytes) rest).subset hcall))
        fun call hcall ↦ hu.2 call (calls_dropLast hr hp bytes rest hcall)
      exact ih hstep hu
    · rw [recvRun_left hr]
      exact hsession _

/-- `rtmp_recv_data` does the same however the bytes of the server are cut: it calls
`rtmp_process_message` with the same messages, sends the same commands, and ends with the same
timestamps and chunk streams, as long as no handler reads behind its message and no call is
repeated that has added a delta to a timestamp. -/
theorem rtmpRecvData_segmentation (u : RtmpClient) (h : (rtmpStartPlay (rtmpClient u)).1 = 0)
    (rtmpUrl rtmpApp rtmpStream : List UInt8)
    (mPBuffer mPBuffer' : Mem) (segments segments' : List (List UInt8))
    (hsame : segments.flatten = segments'.flatten) :
    let s := recvRun (rtmpRecvData (playing u rtmpUrl rtmpApp rtmpStream) mPBuffer) segments
    let s' := recvRun (rtmpRecvData (playing u rtmpUrl rtmpApp rtmpStream) mPBuffer') segments'
    s.Undisturbed → s'.Undisturbed →
      s.client.rtmpMessages = s'.client.rtmpMessages ∧ s.client.sent = s'.client.sent ∧
      s.client.rtmpLastAudioTimestamp = s'.client.rtmpLastAudioTimestamp ∧
      s.client.rtmpLastVideoTimestamp = s'.client.rtmpLastVideoTimestamp ∧
      s.client.rtmpChunk = s'.client.rtmpChunk := by
  intro s s' hu hu'
  have hf := fresh_playing h rtmpUrl rtmpApp rtmpStream
  have hstart (mPBuffer : Mem) : Goes (playing u rtmpUrl rtmpApp rtmpStream).rewound []
      (rtmpRecvData (playing u rtmpUrl rtmpApp rtmpStream) mPBuffer) :=
    Or.inl ⟨rfl, .waitS0S1 rfl (fun _ ↦ by decide) rfl rfl rfl⟩
  have hsession := session_recvRun hf segments (hstart mPBuffer) hu
  have hsession' := session_recvRun hf segments' (hstart mPBuffer') hu'
  rw [hsame] at hsession
  have hclient := hsession.unique hsession'
  have hfield {α : Type} (f : RtmpClient → α) : f s.client.rewound = f s'.client.rewound :=
    congrArg f hclient
  exact ⟨hfield RtmpClient.rtmpMessages, hfield RtmpClient.sent,
    hfield RtmpClient.rtmpLastAudioTimestamp, hfield RtmpClient.rtmpLastVideoTimestamp,
    hfield RtmpClient.rtmpChunk⟩

instance (delta : Nat × Nat) : Decidable (ChangesLatest delta) :=
  inferInstanceAs (Decidable ((delta.1 = 8 ∨ delta.1 = 9) ∧ delta.2 ≠ 0))

instance (call : ChunkCall) : Decidable call.CutBehindDelta :=
  inferInstanceAs (Decidable
    ((∃ n ∈ chunkSpan call.client call.bufdata call.datalen, call.datalen < n) ∧
      ∃ delta ∈ chunkDelta call.client call.bufdata call.datalen, ChangesLatest delta))

/-- The step hands no message to a handler, or one of a type above 9: a command, or a message that
is ignored. -/
def ChunkStep.Commands : ChunkStep → Prop
  | .message c chunkId _ _ => 9 < (c.rtmpChunk chunkId).messageType
  | _ => True

instance (step : ChunkStep) : Decidable step.Commands :=
  match step with
  | .message c chunkId _ _ => inferInstanceAs (Decidable (9 < (c.rtmpChunk chunkId).messageType))
  | .ret _ _ => isTrue trivial
  | .fault _ _ => isTrue trivial

/-- The handlers of these messages stay inside them. -/
theorem ChunkCall.inside_of_commands {call : ChunkCall}
    (h : (chunkStep call.client call.bufdata call.datalen).Commands) : call.Inside := by
  intro c chunkId off dataLen hstep
  rw [hstep] at h
  change 9 < (c.rtmpChunk chunkId).messageType at h
  unfold BodyWithin
  split
  · next ht => omega
  · next ht => omega
  · next ht => omega
  · next ht => omega
  · next ht => omega
  · trivial

private theorem undisturbed_of_commands {s : RecvState}
    (h : ∀ call ∈ s.calls, (chunkStep call.client call.bufdata call.datalen).Commands ∧
      ¬call.CutBehindDelta) : s.Undisturbed :=
  ⟨fun call hcall ↦ call.inside_of_commands (h call hcall).1,
    fun call hcall ↦ (h call (List.dropLast_subset _ hcall)).2⟩

/-- A message of four bytes in a chunk that starts with fmt 0. -/
def dataChunk : List UInt8 := [3, 0, 0, 100, 0, 0, 4, 0x12, 0, 0, 0, 0, 1, 2, 3, 4]

/-- A message in one segment, and cut in its header and in its body. -/
theorem rtmpRecvData_segmentation_three :
    let start := rtmpRecvData
      (playing blankClient (ascii "rtmp://host/live/a") (ascii "live") (ascii "a")) fun _ ↦ 0
    let s := recvRun start [zeroHandshake, dataChunk]
    let s' := recvRun start
      [zeroHandshake, dataChunk.take 5, (dataChunk.drop 5).take 9, dataChunk.drop 14]
    s.client.rtmpMessages = s'.client.rtmpMessages ∧ s.client.sent = s'.client.sent ∧
      s.client.rtmpLastAudioTimestamp = s'.client.rtmpLastAudioTimestamp ∧
      s.client.rtmpLastVideoTimestamp = s'.client.rtmpLastVideoTimestamp ∧
      s.client.rtmpChunk = s'.client.rtmpChunk := by
  refine rtmpRecvData_segmentation blankClient (by decide) (ascii "rtmp://host/live/a")
    (ascii "live") (ascii "a") (fun _ ↦ 0) (fun _ ↦ 0)
    [zeroHandshake, dataChunk]
    [zeroHandshake, dataChunk.take 5, (dataChunk.drop 5).take 9, dataChunk.drop 14] ?_ ?_ ?_
  · rfl
  · exact undisturbed_of_commands (by decide +kernel)
  · exact undisturbed_of_commands (by decide +kernel)

/-- An audio message of timestamp 100 that starts with fmt 0, and one with fmt 1 and delta 20. -/
def audioChunks : List UInt8 :=
  [3, 0, 0, 100, 0, 0, 4, 8, 0, 0, 0, 0, 0x20, 1, 2, 3, 0x43, 0, 0, 20, 0, 0, 4, 8, 0x20, 1, 2, 3]

/-- When the second message is cut behind its header, its delta is added twice. -/
theorem rtmpRecvData_adds_delta_twice :
    let s := rtmpRecvData (playing blankClient [] [] []) fun _ ↦ 0
    let segments := [zeroHandshake, audioChunks]
    let segments' := [zeroHandshake, audioChunks.take 26, audioChunks.drop 26]
    segments.flatten = segments'.flatten ∧ Segmentation s segments ∧ Segmentation s segments' ∧
      (recvRun s segments).client.rtmpMessages.map RtmpMessage.timeStamp = [100, 120] ∧
      (recvRun s segments').client.rtmpMessages.map RtmpMessage.timeStamp = [100, 140] ∧
      (recvRun s segments).client.rtmpLastAudioTimestamp = 120 ∧
      (recvRun s segments').client.rtmpLastAudioTimestamp = 140 := by
  decide +kernel

end RtmpRecv.Client
