import RtmpRecv.Amf0.Push

/-!
# What the chunk splitter leaves

Library `Amf0`. The splitter opens a gap in front of every block but the first, from the last block
to the first, inside one buffer. A block moves to a place that no block still to be moved lies in.
-/

namespace RtmpRecv.Amf0
open RtmpRecv.Base

/-- A body cut into blocks of 128 bytes, with `ct` in front of each of the last `pages` blocks. -/
def chunked (ct : UInt8) : Nat → List UInt8 → List UInt8
  | 0, body => body
  | pages + 1, body => body.take 128 ++ ct :: chunked ct pages (body.drop 128)

/-- The number of blocks behind the first one. -/
def pageCount (len : Nat) : Nat := (len - 1) / 128

theorem length_chunked (ct : UInt8) (pages : Nat) (body : List UInt8)
    (h : pages * 128 ≤ body.length) : (chunked ct pages body).length = body.length + pages := by
  induction pages generalizing body with
  | zero => rfl
  | succ pages ih =>
    have hrest := ih (body.drop 128) (by rw [List.length_drop]; omega)
    rw [chunked, List.length_append, List.length_cons, hrest, List.length_take, List.length_drop]
    omega

/-- Bytes behind the last block stay behind it. -/
theorem chunked_append (ct : UInt8) (pages : Nat) (body rest : List UInt8)
    (h : pages * 128 ≤ body.length) :
    chunked ct pages (body ++ rest) = chunked ct pages body ++ rest := by
  induction pages generalizing body with
  | zero => rfl
  | succ pages ih =>
    rw [chunked, chunked, List.take_append_of_le_length (by omega),
      List.drop_append_of_le_length (by omega),
      ih (body.drop 128) (by rw [List.length_drop]; omega), List.append_assoc, List.cons_append]

/-- One block more. -/
theorem chunked_succ (ct : UInt8) (pages : Nat) (body block : List UInt8)
    (h : body.length = (pages + 1) * 128) :
    chunked ct (pages + 1) (body ++ block) = chunked ct pages body ++ ct :: block := by
  induction pages generalizing body with
  | zero =>
    have htake : (body ++ block).take 128 = body := List.take_left' (by omega)
    have hdrop : (body ++ block).drop 128 = block := List.drop_left' (by omega)
    change (body ++ block).take 128 ++ ct :: (body ++ block).drop 128 = body ++ ct :: block
    rw [htake, hdrop]
  | succ pages ih =>
    rw [chunked, List.take_append_of_le_length (by omega),
      List.drop_append_of_le_length (by omega),
      ih (body.drop 128) (by rw [List.length_drop]; omega), chunked, List.append_assoc,
      List.cons_append]

/-! ### The loop -/

/-- One round: the block moves to its place, with `ct` in front of it. -/
private theorem splitLoop_round (ct : UInt8) (pages off : Nat) (m : Mem) :
    ∃ block, block = m.slice (off + (pages + 1) * 128) 128 ∧ block.length = 128 ∧
      splitLoop ct (pages + 1) m (off + (pages + 1) * 128) (off + (pages + 1) * 129) =
        splitLoop ct pages
          ((m.memcpy (off + pages * 129 + 128 + 1) block).set (off + pages * 129 + 128) ct)
          (off + pages * 128) (off + pages * 129) := by
  have hsrc : off + (pages + 1) * 128 - 128 = off + pages * 128 := by omega
  have hdst : off + (pages + 1) * 129 - 129 = off + pages * 129 := by omega
  have hgap : off + (pages + 1) * 129 - 1 = off + pages * 129 + 128 := by omega
  have hplace : off + (pages + 1) * 129 = off + pages * 129 + 128 + 1 := by omega
  refine ⟨_, rfl, Mem.length_slice _ _ _, ?_⟩
  rw [splitLoop, hsrc, hdst, hgap, hplace]

/-- The loop changes nothing outside of the blocks that it moves. -/
private theorem splitLoop_outside (ct : UInt8) (pages off i : Nat) (m : Mem)
    (h : i < off + 128 ∨ off + pages * 129 + 128 ≤ i) :
    splitLoop ct pages m (off + pages * 128) (off + pages * 129) i = m i := by
  induction pages generalizing m with
  | zero => rfl
  | succ pages ih =>
    obtain ⟨block, -, hlen, hround⟩ := splitLoop_round ct pages off m
    have hcopy := Mem.memcpy_outside m (off + pages * 129 + 128 + 1) block i (by omega)
    have hset := Mem.set_other (m.memcpy (off + pages * 129 + 128 + 1) block)
      (off + pages * 129 + 128) i ct (by omega)
    rw [hround, ih _ (by omega), hset, hcopy]

/-- The loop opens a gap in front of every block behind the first one. No block that is still to
be moved is written to, since a block moves up by the number of gaps in front of it. -/
theorem slice_splitLoop (ct : UInt8) (pages off : Nat) (m : Mem) :
    (splitLoop ct pages m (off + pages * 128) (off + pages * 129)).slice off (pages * 129 + 128) =
      chunked ct pages (m.slice off (pages * 128 + 128)) := by
  induction pages generalizing m with
  | zero => rfl
  | succ pages ih =>
    obtain ⟨block, hblock, hlen, hround⟩ := splitLoop_round ct pages off m
    have hsize : (pages + 1) * 129 + 128 = pages * 129 + 128 + ([ct] ++ block).length := by
      rw [List.length_append, hlen, List.length_singleton]
      omega
    have hbody : m.slice off ((pages + 1) * 128 + 128) =
        m.slice off (pages * 128 + 128) ++ block := by
      have hsplit : (pages + 1) * 128 + 128 = pages * 128 + 128 + 128 := by omega
      have hplace : off + (pages * 128 + 128) = off + (pages + 1) * 128 := by
        rw [Nat.add_mul, Nat.one_mul]
      rw [hsplit, Mem.slice_add m off (pages * 128 + 128) 128, hplace, hblock]
    have hfront : (m.slice off (pages * 128 + 128)).length = (pages + 1) * 128 := by
      rw [Mem.length_slice]
      omega
    rw [hround, hsize, hbody, chunked_succ _ _ _ _ hfront]
    clear hround hbody hsize hblock
    generalize hm' : (m.memcpy (off + pages * 129 + 128 + 1) block).set
      (off + pages * 129 + 128) ct = m'
    have hbefore : m'.slice off (pages * 128 + 128) = m.slice off (pages * 128 + 128) := by
      rw [Mem.slice_eq_iff]
      intro i hi
      have hcopy := Mem.memcpy_outside m (off + pages * 129 + 128 + 1) block (off + i) (by omega)
      have hset := Mem.set_other (m.memcpy (off + pages * 129 + 128 + 1) block)
        (off + pages * 129 + 128) (off + i) ct (by omega)
      rw [← hm', hset, hcopy]
    have htail : m'.slice (off + pages * 129 + 128) ([ct] ++ block).length = [ct] ++ block := by
      rw [← hm', Mem.slice_append_iff]
      constructor
      · exact congrArg (· :: []) (Mem.set_same _ _ _)
      · have hkept := Mem.slice_set_outside (m.memcpy (off + pages * 129 + 128 + 1) block)
          (off + pages * 129 + 128) ct (off + pages * 129 + 128 + 1) block.length (by omega)
        exact hkept.trans (Mem.slice_memcpy_same _ _ _)
    rw [Mem.slice_add, ih m', hbefore, ← Nat.add_assoc]
    congr 1
    refine Eq.trans ?_ htail
    rw [Mem.slice_eq_iff]
    intro i _
    exact splitLoop_outside ct pages off _ m' (Or.inr (by omega))

/-- The splitter puts `ct` in front of every further block of a body of at least one byte and
leaves the header as it is. -/
theorem rtmpAmf0SplitePack_eq (ct : UInt8) (pagBuf : Mem) (header body : List UInt8)
    (hbody : body ≠ []) (h : pagBuf.slice 0 (header ++ body).length = header ++ body) :
    (rtmpAmf0SplitePack ct header.length pagBuf (header ++ body).length).1 =
        ((header ++ chunked ct (pageCount body.length) body).length : Nat) ∧
      (rtmpAmf0SplitePack ct header.length pagBuf (header ++ body).length).2.slice 0
        (header ++ chunked ct (pageCount body.length) body).length =
          header ++ chunked ct (pageCount body.length) body := by
  have hlen : 0 < body.length := List.length_pos_iff.2 hbody
  have hpages : pageCount body.length * 128 < body.length := by
    unfold pageCount
    omega
  have hlast : body.length ≤ pageCount body.length * 128 + 128 := by
    unfold pageCount
    omega
  have hlength := length_chunked ct (pageCount body.length) body (by omega)
  obtain ⟨hheader, hsource⟩ := (Mem.slice_append_iff pagBuf 0 header body).1 h
  rw [Nat.zero_add] at hsource
  have hcount : ((header ++ body).length - header.length - 1) / 128 = pageCount body.length := by
    rw [List.length_append, Nat.add_sub_cancel_left]
    rfl
  unfold rtmpAmf0SplitePack
  rw [if_neg (by rw [List.length_append]; omega), hcount]
  dsimp only
  generalize pageCount body.length = pages at hpages hlast hlength ⊢
  by_cases h0 : pages = 0
  · rw [if_pos h0, h0]
    exact ⟨rfl, h⟩
  · rw [if_neg h0]
    constructor
    · rw [List.length_append, List.length_append, hlength]
      push_cast
      omega
    · rw [Mem.slice_append_iff]
      constructor
      · refine Eq.trans ?_ hheader
        rw [Mem.slice_eq_iff]
        intro i hi
        exact splitLoop_outside ct pages header.length _ pagBuf (Or.inl (by omega))
      · -- the last block is moved with the bytes behind the body
        obtain ⟨junk, hjunk⟩ : ∃ junk, body.length + junk = pages * 128 + 128 :=
          ⟨pages * 128 + 128 - body.length, by omega⟩
        have hloop := slice_splitLoop ct pages header.length pagBuf
        have hsplit := Mem.slice_add pagBuf header.length body.length junk
        rw [hsource, hjunk] at hsplit
        rw [hsplit, chunked_append ct pages body _ (by omega)] at hloop
        have htake := congrArg (List.take (chunked ct pages body).length) hloop
        rw [List.take_left' rfl, Mem.take_slice, Nat.min_eq_left (by omega)] at htake
        rw [Nat.zero_add]
        exact htake

/-! ### The end of the buffer -/

/-- The first block that is moved is the one that comes closest to the end of the buffer. -/
private theorem splitLoopIn_eq (room : Nat) (ct : UInt8) (pages off : Nat) (m : Mem) :
    splitLoopIn room ct pages m (off + pages * 128) (off + pages * 129) =
      if pages = 0 ∨ off + pages * 129 + 128 ≤ room then
        some (splitLoop ct pages m (off + pages * 128) (off + pages * 129))
      else none := by
  induction pages generalizing m with
  | zero => rfl
  | succ pages ih =>
    have hsrc : off + (pages + 1) * 128 - 128 = off + pages * 128 := by omega
    have hdst : off + (pages + 1) * 129 - 129 = off + pages * 129 := by omega
    rw [splitLoopIn, splitLoop, hsrc, hdst, ih]
    by_cases hroom : off + (pages + 1) * 129 + 128 ≤ room
    · rw [if_pos ⟨by omega, hroom⟩, if_pos (Or.inr (by omega)), if_pos (Or.inr hroom)]
    · rw [if_neg fun h ↦ hroom h.2, if_neg fun h ↦ h.elim (Nat.succ_ne_zero pages) hroom]

/-- The splitter stays in its buffer if and only if there is nothing to move, or room for 128 bytes
where the last block goes. -/
theorem rtmpAmf0SplitePackIn_eq (room : Nat) (ct : UInt8) (headerLen : Nat) (pagBuf : Mem)
    {len : Nat} (hlen : 0 < len) :
    rtmpAmf0SplitePackIn room ct headerLen pagBuf (headerLen + len) =
      if len ≤ 128 ∨ headerLen + pageCount len * 129 + 128 ≤ room then
        some (rtmpAmf0SplitePack ct headerLen pagBuf (headerLen + len))
      else none := by
  have hcount : (headerLen + len - headerLen - 1) / 128 = pageCount len := by
    rw [Nat.add_sub_cancel_left]
    rfl
  have hzero : pageCount len = 0 ↔ len ≤ 128 := by
    unfold pageCount
    omega
  have hlonger : ¬headerLen + len ≤ headerLen := by omega
  unfold rtmpAmf0SplitePackIn rtmpAmf0SplitePack
  simp only [if_neg hlonger, hcount, splitLoopIn_eq]
  by_cases h0 : pageCount len = 0
  · rw [if_pos h0, if_pos h0, if_pos (Or.inl (hzero.1 h0))]
  · rw [if_neg h0, if_neg h0]
    simp only [hzero]
    by_cases hroom : len ≤ 128 ∨ headerLen + pageCount len * 129 + 128 ≤ room
    · rw [if_pos hroom, if_pos hroom]
      rfl
    · rw [if_neg hroom, if_neg hroom]
      rfl

end RtmpRecv.Amf0
