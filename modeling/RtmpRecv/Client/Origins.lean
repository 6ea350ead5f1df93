import RtmpRecv.Client.Extended

/-!
# Where a message comes from

Library `Client`. The bytes that a message of the loop came from, on a chunk size of 128. A message
of up to 128 bytes stands behind a header that names its length. Of a longer one the first 128 bytes
stand in one piece, and with at least one header between its bytes it ends later than they alone
would.
-/

namespace RtmpRecv.Client
open RtmpRecv.Base

/-- A message is open that is longer than a chunk. Its first 128 bytes stood at some position from
`first` on, and since then at least its bytes have been consumed. -/
structure OpenFrom (mem : Mem) (first : Nat) (k : RtmpChunk) (pos : Int) : Prop where
  long : 128 < k.messageSize
  begun : 128 ≤ k.messageBufPos
  stood : ∃ m start, k.messageBuf = some m ∧ first ≤ start ∧
    mem.slice start 128 = m.slice 0 128 ∧ ((start + k.messageBufPos : Nat) : Int) ≤ pos

/-- The reader has chunk size 128, and all its open messages have begun in the bytes from `first`
on. -/
structure ReadsFrom (mem : Mem) (first : Nat) (c : RtmpClient) : Prop where
  chunkSize : c.rtmpChunkMaxSize = 128
  sound : Sound c
  pos : (first : Int) ≤ c.mIParsePos
  opens : ∀ i, 2 ≤ i → i < 64 → (c.rtmpChunk i).lastMessageSize ≠ 0 →
    OpenFrom mem first (c.rtmpChunk i) c.mIParsePos

/-- The header at `pos` names a length. -/
def NamesLength (mem : Mem) (pos hl : Nat) : Prop :=
  chunkFmt (mem.shift pos) = 0 ∧ 11 ≤ hl ∨ chunkFmt (mem.shift pos) = 1 ∧ (hl = 7 ∨ hl = 11)

/-- How the bytes of a message stood that was handed over by a call between the positions `before`
and `last`. -/
inductive Origin (mem : Mem) (first : Nat) (before last : Int) (body : List UInt8) : Prop where
  | single (pos hl : Nat) (hshort : body.length ≤ 128) (hpos : before ≤ pos)
      (hheader : body ≠ [] → NamesLength mem pos hl)
      (hbody : mem.slice (pos + (hl + 1)) body.length = body)
      (hlast : last = ((pos + (hl + 1) + body.length : Nat) : Int)) :
      Origin mem first before last body
  | final (start : Nat) (hlong : 128 < body.length) (hfirst : first ≤ start)
      (hbody : mem.slice start 128 = body.take 128)
      (hlast : ((start + body.length : Nat) : Int) < last) : Origin mem first before last body

theorem two_le_chunkIdOf (buf : Mem) : 2 ≤ chunkIdOf buf := by
  unfold chunkIdOf
  dsimp only
  split
  · omega
  · split
    · omega
    · omega

/-- Only the formats 0 and 1 name a length. -/
private theorem fmt_of_parsed {c c' : RtmpClient} {fmt chunkId : Nat} {buf : Mem}
    {datalen : Int} {chunkInfo : RtmpChunk} {hl : Nat}
    (h : chunkHeader c fmt chunkId buf datalen = .parsed c' chunkInfo hl)
    (hne : chunkInfo.messageSize ≠ 0) : fmt = 0 ∧ 11 ≤ hl ∨ fmt = 1 ∧ (hl = 7 ∨ hl = 11) := by
  unfold chunkHeader at h
  split at h
  · left
    refine ⟨rfl, ?_⟩
    unfold headerFmt0 at h
    split at h
    · cases h
    · dsimp only at h
      split at h
      · cases h
      · cases h
        split
        · decide
        · decide
  · right
    refine ⟨rfl, ?_⟩
    unfold headerFmt1 at h
    split at h
    · cases h
    · dsimp only at h
      split at h
      · cases h
      · cases h
        split
        · exact Or.inr rfl
        · exact Or.inl rfl
  · exfalso
    unfold headerFmt2 at h
    split at h
    · cases h
    · dsimp only at h
      split at h
      · cases h
      · cases h
        exact hne rfl
  · exfalso
    unfold headerFmt3 at h
    split at h
    · cases h
    · cases h
      exact hne rfl
  · cases h

section

variable {mem : Mem} {first : Nat}

theorem OpenFrom.mono {k : RtmpChunk} {pos pos' : Int} (h : OpenFrom mem first k pos)
    (hle : pos ≤ pos') : OpenFrom mem first k pos' := by
  obtain ⟨m, start, hm, hfirst, hstood, hpos⟩ := h.stood
  exact ⟨h.long, h.begun, m, start, hm, hfirst, hstood, Int.le_trans hpos hle⟩

/-- Without an open message. -/
theorem readsFrom_idle {c : RtmpClient} (hsize : c.rtmpChunkMaxSize = 128) (hs : Sound c)
    (hpos : (first : Int) ≤ c.mIParsePos)
    (hidle : ∀ i, 2 ≤ i → i < 64 → (c.rtmpChunk i).lastMessageSize = 0) :
    ReadsFrom mem first c :=
  ⟨hsize, hs, hpos, fun i h2 h64 hne ↦ absurd (hidle i h2 h64) hne⟩

theorem ReadsFrom.headerKept {c c' : RtmpClient} (h : ReadsFrom mem first c)
    (hk : HeaderKept c c') : ReadsFrom mem first c' where
  chunkSize := hk.chunkSize.trans h.chunkSize
  sound := h.sound.headerKept hk
  pos := by
    rw [hk.parsePos]
    exact h.pos
  opens i h2 h64 hlast := by
    obtain ⟨b, hb⟩ := hk.chunk i
    rw [hb] at hlast ⊢
    rw [hk.parsePos]
    have hopen := h.opens i h2 h64 hlast
    exact ⟨hopen.long, hopen.begun, hopen.stood⟩

/-- The other chunk streams, and this one with `k`. -/
private theorem ReadsFrom.setChunk {c c' : RtmpClient} (h : ReadsFrom mem first c) {i : Nat}
    {k : RtmpChunk} (hchunk : c'.rtmpChunk = (c.setChunk i k).rtmpChunk)
    (hsize : c'.rtmpChunkMaxSize = c.rtmpChunkMaxSize) (hs : Sound c')
    (hpos : c.mIParsePos ≤ c'.mIParsePos)
    (hk : k.lastMessageSize ≠ 0 → OpenFrom mem first k c'.mIParsePos) :
    ReadsFrom mem first c' where
  chunkSize := hsize.trans h.chunkSize
  sound := hs
  pos := Int.le_trans h.pos hpos
  opens j h2 h64 hlast := by
    rw [hchunk] at hlast ⊢
    by_cases hj : j = i
    · subst hj
      rw [RtmpClient.setChunk_same] at hlast ⊢
      exact hk hlast
    · rw [RtmpClient.setChunk_other _ _ _ _ hj] at hlast ⊢
      exact (h.opens j h2 h64 hlast).mono hpos

/-! ### A chunk -/

/-- Copying behind the first bytes leaves them. -/
private theorem slice_before {m : Mem} {dst n : Nat} (h : n ≤ dst) (src : List UInt8) :
    (m.memcpy dst src).slice 0 n = m.slice 0 n :=
  Mem.slice_memcpy_outside _ _ _ _ _ (Or.inl (by omega))

/-- What has stood of a message that a chunk completes. -/
inductive BodyFrom (mem : Mem) (first : Nat) (pos : Int) (chunkInfo : RtmpChunk) (hl : Nat)
    (buf : Mem) (body : List UInt8) (pos' : Int) : Prop where
  | single (hsize : chunkInfo.messageSize = body.length) (hshort : body.length ≤ 128)
      (hbody : buf.slice (hl + 1) body.length = body)
      (hpos : pos' = pos + ((hl + 1 + body.length : Nat) : Int)) :
      BodyFrom mem first pos chunkInfo hl buf body pos'
  | final (start : Nat) (hlong : 128 < body.length) (hfirst : first ≤ start)
      (hbody : mem.slice start 128 = body.take 128)
      (hlast : ((start + body.length : Nat) : Int) < pos') :
      BodyFrom mem first pos chunkInfo hl buf body pos'

/-- A chunk leaves its message open, or completes it. -/
private theorem readsFrom_bodyStep {c : RtmpClient} (h : ReadsFrom mem first c) {i hl : Nat}
    {chunkInfo : RtmpChunk} {buf : Mem} {step : ChunkStep}
    (hb : BodyStep c i chunkInfo hl buf step) (hi : 2 ≤ i ∧ i < 64)
    (hsize : chunkInfo.messageSize < 16777216)
    (hwindow : ∀ x n, buf.slice x n = mem.slice (c.mIParsePos.toNat + x) n) :
    ReadsFrom mem first step.client ∧
      (step = .ret 0 step.client ∨
        ∃ data dataLen, step = .message step.client i data dataLen ∧
          BodyFrom mem first c.mIParsePos chunkInfo hl buf
            (messageOf step.client i data dataLen buf).body step.client.mIParsePos) := by
  have hsound := hb.sound h.sound hsize
  have hmoved := hb.parsePos
  have hlen := chunkLen_eq c i chunkInfo
  have hchunk := h.chunkSize
  have hstart := h.pos
  unfold leftover at hlen
  cases hb with
  | single hlast hshort =>
    rw [if_pos hlast] at hlen
    refine ⟨h.setChunk rfl rfl hsound (by rw [hmoved]; omega) fun hne ↦ absurd rfl hne,
      Or.inr ⟨_, _, rfl, ?_⟩⟩
    have hbody (d : RtmpClient) : (messageOf d i (.window (hl + 1)) chunkInfo.messageSize
        buf).body.length = chunkInfo.messageSize := Mem.length_slice _ _ _
    apply BodyFrom.single
    · exact (hbody _).symm
    · rw [hbody]
      omega
    · rw [hbody]
      have hslice := Mem.slice_shift buf (hl + 1) 0 chunkInfo.messageSize
      rw [Nat.add_zero] at hslice
      exact hslice.symm
    · rw [hbody, hmoved, hlen, hchunk]
      omega
  | first hlast hlong =>
    rw [if_pos hlast] at hlen
    refine ⟨h.setChunk rfl rfl hsound (by rw [hmoved]; omega) fun _ ↦ ?_, Or.inl rfl⟩
    have hall : chunkLen c i chunkInfo = 128 := by omega
    have hpos : (((c.rtmpChunk i).opened chunkInfo c.newBuffer.1).copied c.newBuffer.1
        (buf.slice (hl + 1) (chunkLen c i chunkInfo))).messageBufPos = 128 := by
      change 0 + (buf.slice (hl + 1) (chunkLen c i chunkInfo)).length = 128
      rw [Mem.length_slice]
      omega
    constructor
    · change 128 < chunkInfo.messageSize
      omega
    · exact Nat.le_of_eq hpos.symm
    · refine ⟨_, c.mIParsePos.toNat + (hl + 1), rfl, by omega, ?_, ?_⟩
      · have hsame := Mem.slice_memcpy_same c.newBuffer.1 0
          (buf.slice (hl + 1) (chunkLen c i chunkInfo))
        rw [Mem.length_slice, hall] at hsame
        rw [← hwindow, hall]
        exact hsame.symm
      · rw [hpos, hmoved]
        omega
  | more m hlast hbuf hlong =>
    rw [if_neg hlast] at hlen
    have hopen := h.opens i hi.1 hi.2 hlast
    obtain ⟨m', start, hm, hfirst, hstood, hpos⟩ := hopen.stood
    cases hbuf.symm.trans hm
    refine ⟨h.setChunk rfl rfl hsound (by rw [hmoved]; omega) fun _ ↦ ?_, Or.inl rfl⟩
    constructor
    · exact hopen.long
    · exact Nat.le_trans hopen.begun (Nat.le_add_right _ _)
    · refine ⟨_, start, rfl, hfirst, ?_, ?_⟩
      · rw [slice_before hopen.begun]
        exact hstood
      · rw [hmoved]
        change ((start + ((c.rtmpChunk i).messageBufPos + (buf.slice _ _).length) : Nat) : Int) ≤ _
        rw [Mem.length_slice]
        omega
  | final m hlast hbuf hshort =>
    rw [if_neg hlast] at hlen
    have hopen := h.opens i hi.1 hi.2 hlast
    have hlong := hopen.long
    have hbegun := hopen.begun
    have hbefore := (h.sound i).pos hlast
    obtain ⟨m', start, hm, hfirst, hstood, hpos⟩ := hopen.stood
    cases hbuf.symm.trans hm
    refine ⟨h.setChunk rfl rfl hsound (by rw [hmoved]; omega) fun hne ↦ ?_,
      Or.inr ⟨_, _, rfl, ?_⟩⟩
    · exfalso
      apply hne
      change (c.rtmpChunk i).lastMessageSize - (buf.slice _ _).length = 0
      rw [Mem.length_slice]
      omega
    · have hbody (d : RtmpClient) : (messageOf d i (.messageBuf (m.memcpy
          (c.rtmpChunk i).messageBufPos (buf.slice (hl + 1) (chunkLen c i chunkInfo))))
            (c.rtmpChunk i).messageSize buf).body =
          (m.memcpy (c.rtmpChunk i).messageBufPos
            (buf.slice (hl + 1) (chunkLen c i chunkInfo))).slice 0
              (c.rtmpChunk i).messageSize := rfl
      rw [hbody]
      refine .final start ?_ hfirst ?_ ?_
      · rw [Mem.length_slice]
        exact hlong
      · rw [Mem.take_slice, Nat.min_eq_left (by omega), slice_before hbegun]
        exact hstood
      · rw [Mem.length_slice, hmoved]
        omega

/-- A handler leaves the open messages alone. -/
private theorem ReadsFrom.delivered {c c' : RtmpClient} {chunkId : Nat} {data : MessageData}
    {dataLen : Int} {buf buf' : Mem} {ret : Except Fault Int} (h : ReadsFrom mem first c)
    (hd : Delivered c chunkId data dataLen buf ret c' buf') (hret : ret = .ok 0)
    (htype : (c.rtmpChunk chunkId).messageType ≠ 1)
    (hlast : (c.rtmpChunk chunkId).lastMessageSize = 0) : ReadsFrom mem first c' where
  chunkSize := by
    rw [hd.chunkSize hret]
    unfold chunkSizeAfter
    rw [if_neg htype]
    exact h.chunkSize
  sound := hd.sound h.sound hlast
  pos := by
    rw [hd.parsePos]
    exact h.pos
  opens i h2 h64 hopen := by
    by_cases hi : i = chunkId
    · obtain ⟨b, hb⟩ := hd.same
      rw [hi, hb] at hopen
      exact absurd hlast hopen
    · rw [hd.other i hi] at hopen ⊢
      rw [hd.parsePos]
      exact h.opens i h2 h64 hopen

/-! ### The loop -/

theorem Origin.mono {before before' last : Int} {body : List UInt8}
    (h : Origin mem first before last body) (hle : before' ≤ before) :
    Origin mem first before' last body := by
  cases h with
  | single pos hl hshort hpos hheader hbody hlast =>
    exact .single pos hl hshort (Int.le_trans hle hpos) hheader hbody hlast
  | final start hlong hfirst hbody hlast => exact .final start hlong hfirst hbody hlast

/-- The bytes that are still to be read are those of `mem`. -/
def Unread (mem mem' : Mem) (c : RtmpClient) : Prop :=
  ∀ i, c.mIParsePos.toNat ≤ i → mem' i = mem i

/-- The next message, and the loop behind it. -/
structure NextMessage (mem : Mem) (first : Nat) (c : RtmpClient) (size : Int) (m : RtmpMessage)
    (rest : List RtmpMessage) (c' : RtmpClient) : Prop where
  origin : Origin mem first c.mIParsePos c'.mIParsePos m.body
  ahead : c.mIParsePos ≤ c'.mIParsePos
  inside : c'.mIParsePos ≤ size
  later : m.messageType ≠ 1 → rest ≠ [] → ReadsFrom mem first c' ∧ ∃ mem' fuel,
    Unread mem mem' c' ∧
      (chunkLoop fuel c' mem' size).client.rtmpMessages = c'.rtmpMessages ++ rest

private theorem not_more {xs : List RtmpMessage} {m : RtmpMessage} {rest : List RtmpMessage}
    (h : xs = xs ++ m :: rest) : False := by
  have hlen := congrArg List.length h
  rw [List.length_append, List.length_cons] at hlen
  omega

private theorem Unread.slice {mem' : Mem} {c : RtmpClient} (h : Unread mem mem' c) (x n : Nat) :
    (mem'.shift c.mIParsePos.toNat).slice x n = mem.slice (c.mIParsePos.toNat + x) n := by
  rw [Mem.slice_shift, Mem.slice_eq_iff]
  intro i _
  exact h _ (by omega)

/-- The message of a call in the bytes of `mem`. -/
private theorem origin_of_bodyFrom {c c' : RtmpClient} {mem' : Mem} {datalen pos' : Int}
    {chunkInfo : RtmpChunk} {hl : Nat} {body : List UInt8} (hunread : Unread mem mem' c)
    (hh : HeaderDone c (mem'.shift c.mIParsePos.toNat) datalen c' chunkInfo hl)
    (hpos : 0 ≤ c.mIParsePos)
    (h : BodyFrom mem first c'.mIParsePos chunkInfo hl (mem'.shift c.mIParsePos.toNat) body pos') :
    Origin mem first c.mIParsePos pos' body := by
  have hsame := hh.kept.parsePos
  cases h with
  | single hsize hshort hbody hend =>
    refine .single c.mIParsePos.toNat hl hshort (by omega) (fun hne ↦ ?_) ?_ (by omega)
    · have hfmt : chunkFmt (mem.shift c.mIParsePos.toNat) =
          chunkFmt (mem'.shift c.mIParsePos.toNat) := by
        have h0 : mem'.shift c.mIParsePos.toNat 0 = mem.shift c.mIParsePos.toNat 0 :=
          hunread _ (Nat.le_refl _)
        unfold chunkFmt
        rw [h0]
      unfold NamesLength
      rw [hfmt]
      apply fmt_of_parsed hh.parsed
      rw [hsize]
      exact Nat.ne_of_gt (List.length_pos_iff.2 hne)
    · rw [← hunread.slice]
      exact hbody
  | final start hlong hfirst hbody hlast => exact .final start hlong hfirst hbody hlast

/-- A call that hands over a message, and the loop behind it. -/
private theorem nextMessage_of_delivered (fuel : Nat) {c d : RtmpClient} {mem' : Mem} {size : Int}
    {m : RtmpMessage} {rest : List RtmpMessage} {chunkId : Nat} {data : MessageData} {dataLen : Int}
    (hstep : chunkStep c (mem'.shift c.mIParsePos.toNat) (size - c.mIParsePos) =
      .message d chunkId data dataLen)
    (hreads : ReadsFrom mem first d) (hmessages : d.rtmpMessages = c.rtmpMessages)
    (hunread : Unread mem mem' c) (hlast : (d.rtmpChunk chunkId).lastMessageSize = 0)
    (horigin : Origin mem first c.mIParsePos d.mIParsePos
      (messageOf d chunkId data dataLen (mem'.shift c.mIParsePos.toNat)).body)
    (hahead : c.mIParsePos ≤ d.mIParsePos) (hinside : d.mIParsePos ≤ size)
    (hpos : 0 ≤ c.mIParsePos)
    (hend : data.windowEnd dataLen ≤ d.mIParsePos.toNat - c.mIParsePos.toNat)
    (hfinal : (chunkLoop (fuel + 1) c mem' size).client.rtmpMessages =
      c.rtmpMessages ++ m :: rest) : ∃ c', NextMessage mem first c size m rest c' := by
  rw [chunkLoop_succ] at hfinal
  dsimp only at hfinal
  unfold rtmpProcessChunk at hfinal
  rw [hstep] at hfinal
  dsimp only at hfinal
  have hdelivered := delivered_deliver d chunkId data dataLen (mem'.shift c.mIParsePos.toNat)
  have hrecorded := hdelivered.messages
  rw [hmessages] at hrecorded
  have htype : (messageOf d chunkId data dataLen (mem'.shift c.mIParsePos.toNat)).messageType =
      (d.rtmpChunk chunkId).messageType := rfl
  generalize messageOf d chunkId data dataLen (mem'.shift c.mIParsePos.toNat) = m₀
    at hrecorded horigin htype
  generalize deliver d chunkId data dataLen (mem'.shift c.mIParsePos.toNat) = out
    at hdelivered hrecorded hfinal
  obtain ⟨ret, c', buf'⟩ := out
  dsimp only at hdelivered hrecorded hfinal
  have hparsePos : c'.mIParsePos = d.mIParsePos := hdelivered.parsePos
  have hsplit {msgs : List RtmpMessage}
      (hall : c'.rtmpMessages ++ msgs = c.rtmpMessages ++ m :: rest) : m = m₀ ∧ rest = msgs := by
    rw [hrecorded, List.append_assoc] at hall
    cases List.append_cancel_left hall
    exact ⟨rfl, rfl⟩
  have hstop (hall : c'.rtmpMessages = c.rtmpMessages ++ m :: rest) :
      NextMessage mem first c size m rest c' := by
    obtain ⟨hm, hrest⟩ := hsplit (by rw [List.append_nil]; exact hall)
    rw [← hm, ← hparsePos] at horigin
    exact ⟨horigin, by omega, by omega, fun _ hne ↦ absurd hrest hne⟩
  cases ret with
  | error e => exact ⟨c', hstop hfinal⟩
  | ok r =>
    dsimp only at hfinal
    by_cases hr : r = 0
    · rw [if_pos hr] at hfinal
      obtain ⟨msgs, hmsgs⟩ := chunkLoop_messages fuel (hdelivered.sound hreads.sound hlast)
        (mem'.splice c.mIParsePos.toNat buf') size
      obtain ⟨hm, hrest⟩ := hsplit (hmsgs.symm.trans hfinal)
      rw [← hm] at htype horigin
      rw [← hparsePos] at horigin
      refine ⟨c', horigin, by omega, by omega, fun hne _ ↦ ⟨hreads.delivered hdelivered
        (by rw [hr]) (htype ▸ hne) hlast, _, fuel, fun i hi ↦ ?_, by rw [hmsgs, hrest]⟩⟩
      obtain ⟨k, rfl⟩ := Nat.exists_eq_add_of_le (by omega : c.mIParsePos.toNat ≤ i)
      rw [Mem.splice_back, hdelivered.mem k (by omega)]
      exact hunread _ (by omega)
    · rw [if_neg hr] at hfinal
      exact ⟨c', hstop hfinal⟩

/-- Where the bytes of the next message that the loop hands over stood. -/
theorem next_message (fuel : Nat) {c : RtmpClient} {mem' : Mem} {size : Int} {m : RtmpMessage}
    {rest : List RtmpMessage} (h : ReadsFrom mem first c) (hunread : Unread mem mem' c)
    (hfinal : (chunkLoop fuel c mem' size).client.rtmpMessages = c.rtmpMessages ++ m :: rest) :
    ∃ c', NextMessage mem first c size m rest c' := by
  induction fuel generalizing c with
  | zero => exact (not_more hfinal).elim
  | succ fuel ih =>
    have hstart := h.pos
    have hcall := callStep_chunkStep h.sound (mem'.shift c.mIParsePos.toNat)
      (size - c.mIParsePos)
    obtain ⟨step, hstep⟩ : ∃ step, chunkStep c (mem'.shift c.mIParsePos.toNat)
      (size - c.mIParsePos) = step := ⟨_, rfl⟩
    rw [hstep] at hcall
    cases hcall with
    | wait c' hk hd =>
      rw [chunkLoop_stop fuel hstep (by decide), hk.messages] at hfinal
      exact (not_more hfinal).elim
    | reject c' hk =>
      rw [chunkLoop_stop fuel hstep (by decide), hk.messages] at hfinal
      exact (not_more hfinal).elim
    | short c' chunkInfo hl hh hd =>
      rw [chunkLoop_stop fuel hstep (by decide), hh.kept.messages] at hfinal
      exact (not_more hfinal).elim
    | taken c' chunkInfo hl hh hd hb =>
      have hsame := hh.kept.parsePos
      have hmoved := hb.parsePos
      have hmessages := hb.messages.trans hh.kept.messages
      obtain ⟨hreads, hret | ⟨data, dataLen, hmessage, hfrom⟩⟩ := readsFrom_bodyStep
        (h.headerKept hh.kept) hb ⟨two_le_chunkIdOf _, hh.chunkId⟩ hh.size
        (by rw [hsame]; exact hunread.slice)
      · -- the message stays open
        rw [chunkLoop_block fuel (hstep.trans hret), ← hmessages] at hfinal
        obtain ⟨c'', hnext⟩ := ih hreads (fun i hi ↦ hunread i (by omega)) hfinal
        have hahead := hnext.ahead
        exact ⟨c'', hnext.origin.mono (by omega), by omega, hnext.inside, hnext.later⟩
      · -- the message is complete
        obtain ⟨hlast, hend⟩ : (step.client.rtmpChunk
            (chunkIdOf (mem'.shift c.mIParsePos.toNat))).lastMessageSize = 0 ∧
              data.windowEnd dataLen ≤ hl + 1 + chunkLen c' (chunkIdOf _) chunkInfo := by
          rcases hb.cases with hret | ⟨data', dataLen', hmessage', hlast, hend⟩
          · exact absurd (hret.symm.trans hmessage) nofun
          · cases hmessage'.symm.trans hmessage
            exact ⟨hlast, hend⟩
        exact nextMessage_of_delivered fuel (hstep.trans hmessage) hreads hmessages hunread hlast
          (origin_of_bodyFrom hunread hh (by omega) hfrom) (by omega) (by omega) (by omega)
          (by omega) hfinal

end

end RtmpRecv.Client
