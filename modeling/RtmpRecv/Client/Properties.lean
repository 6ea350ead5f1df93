import RtmpRecv.Client.Metadata
import RtmpRecv.Wire.Amf0Grammar
import Mathlib.Data.List.Basic

/-!
# Properties of a metadata message

Library `Client`. The parser cuts the bytes of an object into blocks: a known name and its value,
or another name and as many bytes as that name has taken. Such a row of blocks, up to two zero
bytes and at least one more, is what it accepts, and the blocks say what it stores.
-/

namespace RtmpRecv.Client
open RtmpRecv.Base RtmpRecv.Amf0

/-! ### Blocks -/

/-- What the parser takes in one round. -/
inductive Block where
  | text (name : List UInt8) (field : TextField) (s : List UInt8)
  | number (name : List UInt8) (field : NumberField) (pattern : Nat)
  | other (name filler : List UInt8)

def Block.name : Block → List UInt8
  | .text name _ _ => name
  | .number name _ _ => name
  | .other name _ => name

/-- What stands behind the name. -/
def Block.rest : Block → List UInt8
  | .text _ _ s => stringBytes s
  | .number _ _ pattern => numberBytes pattern
  | .other _ filler => filler

def Block.bytes (block : Block) : List UInt8 := propNameBytes block.name ++ block.rest

/-- A known name has a value of its kind, and behind any other name stand as many bytes as the name
has taken. -/
def Block.Fits : Block → Prop
  | .text name field s =>
    name ≠ [] ∧ name.length ≤ 255 ∧ fieldOf (untilNul name) = some (.text field) ∧
      s.length ≤ 127
  | .number name field pattern =>
    name ≠ [] ∧ name.length ≤ 255 ∧ fieldOf (untilNul name) = some (.number field) ∧
      pattern < 18446744073709551616
  | .other name filler =>
    name ≠ [] ∧ name.length ≤ 255 ∧ fieldOf (untilNul name) = none ∧
      filler.length = name.length + 2

/-- What a block leaves in the record. -/
def Block.store (data : RtmpMetadata) : Block → RtmpMetadata
  | .text _ field s => data.setText field s
  | .number _ field pattern => data.setNumber field pattern
  | .other _ _ => data

/-- The bytes of a row of blocks. -/
def blockBytes (blocks : List Block) : List UInt8 := blocks.flatMap Block.bytes

@[simp] theorem blockBytes_nil : blockBytes [] = [] := rfl

@[simp] theorem blockBytes_cons (block : Block) (blocks : List Block) :
    blockBytes (block :: blocks) = block.bytes ++ blockBytes blocks := List.flatMap_cons

theorem Block.Fits.name {block : Block} (h : block.Fits) :
    block.name ≠ [] ∧ block.name.length ≤ 255 := by
  cases block with
  | text name field s => exact ⟨h.1, h.2.1⟩
  | number name field pattern => exact ⟨h.1, h.2.1⟩
  | other name filler => exact ⟨h.1, h.2.1⟩

theorem Block.length_rest_pos {block : Block} (h : block.Fits) : 0 < block.rest.length := by
  cases block with
  | text name field s =>
    change 0 < (stringBytes s).length
    rw [length_stringBytes]
    omega
  | number name field pattern => exact Nat.succ_pos 8
  | other name filler =>
    have hlen : filler.length = name.length + 2 := h.2.2.2
    change 0 < filler.length
    omega

theorem length_le_blockBytes {blocks : List Block} (h : ∀ block ∈ blocks, block.Fits) :
    blocks.length ≤ (blockBytes blocks).length := by
  induction blocks with
  | nil => exact Nat.le_refl 0
  | cons block blocks ih =>
    obtain ⟨hfits, hrest⟩ := List.forall_mem_cons.1 h
    have hpos := block.length_rest_pos hfits
    have hlen := ih hrest
    rw [blockBytes_cons, List.length_append, List.length_cons, Block.bytes, List.length_append]
    omega

/-! ### One round -/

/-- What a round does behind a name: the value of a known property is popped, and nothing is read
behind any other name. -/
def popBehind (data : RtmpMetadata) (name : List UInt8) (src : Nat) (srcLen : Int) :
    Access Fault (Option Nat × RtmpMetadata) :=
  match fieldOf (untilNul name) with
  | some field => popField data field src srcLen
  | none => pure (some (name.length + 2), data)

/-- What is behind a name is popped. -/
theorem Block.run_popBehind {block : Block} (h : block.Fits) (data : RtmpMetadata) {m : Mem}
    {src : Nat} (hm : m.slice src block.rest.length = block.rest) {srcLen : Int}
    (hlen : (block.rest.length : Int) ≤ srcLen) :
    (popBehind data block.name src srcLen).run m =
      (.ok (some block.rest.length, block.store data), m) := by
  unfold popBehind
  cases block with
  | text name field s =>
    obtain ⟨-, -, hfield, hs⟩ := h
    have hsize : (Block.text name field s).rest.length = s.length + 3 :=
      length_stringBytes s
    rw [hsize] at hm hlen ⊢
    change (match fieldOf (untilNul name) with
      | some field => popField data field src srcLen
      | none => _).run m = _
    rw [hfield]
    refine (Access.run_bind_ok (run_rtmpAmf0PopString _ _ _ _) _).trans ?_
    rw [poppedString_iff.2 ⟨by omega, by omega, rfl, hlen, hm⟩]
    rfl
  | number name field pattern =>
    obtain ⟨-, -, hfield, hpattern⟩ := h
    change (match fieldOf (untilNul name) with
      | some field => popField data field src srcLen
      | none => _).run m = _
    rw [hfield]
    refine (Access.run_bind_ok (run_rtmpAmf0PopNumber _ _ _) _).trans ?_
    rw [poppedNumber_iff.2 ⟨hpattern, hlen, hm⟩]
    rfl
  | other name filler =>
    obtain ⟨-, -, hfield, hfiller⟩ := h
    change (match fieldOf (untilNul name) with
      | some field => popField data field src srcLen
      | none => pure (some (name.length + 2), data)).run m =
        (.ok (some filler.length, data), m)
    rw [hfield, hfiller]
    rfl

/-- What a round takes behind a name makes a block with it. -/
theorem exists_block {name : List UInt8} (hne : name ≠ []) (hlen : name.length ≤ 255)
    {data data' : RtmpMetadata} {m m' : Mem} {src ret : Nat} {srcLen : Int}
    (h : (popBehind data name src srcLen).run m = (.ok (some ret, data'), m')) :
    m' = m ∧ ((ret : Int) ≤ srcLen → ∃ block : Block, block.Fits ∧ block.name = name ∧
      m.slice src ret = block.rest ∧ data' = block.store data) := by
  unfold popBehind at h
  cases hfield : fieldOf (untilNul name) with
  | none =>
    rw [hfield] at h
    cases h
    exact ⟨rfl, fun _ ↦ ⟨.other name (m.slice src (name.length + 2)),
      ⟨hne, hlen, hfield, Mem.length_slice _ _ _⟩, rfl, rfl, rfl⟩⟩
  | some field =>
    rw [hfield] at h
    cases field with
    | text field =>
      have hrun := (Access.run_bind_ok (run_rtmpAmf0PopString 128 src srcLen m) _).symm.trans h
      cases hpopped : poppedString 128 m src srcLen with
      | none =>
        rw [hpopped] at hrun
        cases hrun
      | some r =>
        obtain ⟨s, n⟩ := r
        rw [hpopped] at hrun
        cases hrun
        obtain ⟨-, hdst, rfl, -, hm⟩ := poppedString_iff.1 hpopped
        exact ⟨rfl, fun _ ↦ ⟨.text name field s, ⟨hne, hlen, hfield, by omega⟩, rfl, hm, rfl⟩⟩
    | number field =>
      have hrun := (Access.run_bind_ok (run_rtmpAmf0PopNumber src srcLen m) _).symm.trans h
      cases hpopped : poppedNumber m src srcLen with
      | none =>
        rw [hpopped] at hrun
        cases hrun
      | some pattern =>
        rw [hpopped] at hrun
        cases hrun
        obtain ⟨hpattern, -, hm⟩ := poppedNumber_iff.1 hpopped
        exact ⟨rfl, fun _ ↦ ⟨.number name field pattern, ⟨hne, hlen, hfield, hpattern⟩, rfl, hm,
          rfl⟩⟩

/-! ### The loop -/

/-- A round pops a name and what is behind it. -/
private theorem run_onmetadataLoop_succ (fuel : Nat) (data : RtmpMetadata) (src : Nat)
    {dataLen : Int} (h : 0 < dataLen) (m : Mem) :
    (onmetadataLoop (fuel + 1) data src dataLen).run m =
      match poppedPropName 256 m src dataLen with
      | none => (.ok (none, data), m)
      | some (name, ret) =>
        if ret = 0 then (.ok (some (src, dataLen), data), m)
        else
          ((popBehind data name (src + ret) (dataLen - ret)).bind fun r ↦
            match r.1 with
            | none => pure (none, r.2)
            | some ret' =>
              if ret' = 0 then pure (some (src + ret, dataLen - ret), r.2)
              else onmetadataLoop fuel r.2 (src + ret + ret') (dataLen - ret - ret')).run m := by
  have hpos : ¬dataLen ≤ 0 := by omega
  rw [onmetadataLoop, if_neg hpos]
  refine (Access.run_bind_ok (run_rtmpAmf0PopObjectPropName _ _ _ _) _).trans ?_
  cases hname : poppedPropName 256 m src dataLen with
  | none => rfl
  | some r =>
    obtain ⟨name, ret⟩ := r
    dsimp only
    by_cases hret : ret = 0
    · rw [if_pos hret, if_pos hret]
      rfl
    · obtain ⟨-, -, -, hsize, -⟩ := (poppedPropName_iff hret).1 hname
      rw [if_neg hret, if_neg hret]
      unfold popBehind
      cases fieldOf (untilNul name) with
      | none =>
        rw [← hsize]
        rfl
      | some field => rfl

/-- Over a row of blocks the loop stops at the two zero bytes and has stored the blocks. -/
theorem run_onmetadataLoop {blocks : List Block} (h : ∀ block ∈ blocks, block.Fits)
    (tail : List UInt8) {fuel : Nat} (hfuel : blocks.length < fuel) (data : RtmpMetadata) {m : Mem}
    {src : Nat} (hm : m.slice src (blockBytes blocks ++ 0 :: 0 :: tail).length =
      blockBytes blocks ++ 0 :: 0 :: tail) :
    (onmetadataLoop fuel data src (blockBytes blocks ++ 0 :: 0 :: tail).length).run m =
      (.ok (some (src + (blockBytes blocks).length, ((0 :: 0 :: tail : List UInt8).length : Int)),
        blocks.foldl Block.store data), m) := by
  obtain ⟨fuel, rfl⟩ : ∃ n, fuel = n + 1 := ⟨fuel - 1, by omega⟩
  induction blocks generalizing fuel data src with
  | nil =>
    have hlen : (blockBytes [] ++ 0 :: 0 :: tail).length = tail.length + 2 := rfl
    have hpos : (0 : Int) < (blockBytes [] ++ 0 :: 0 :: tail).length := by omega
    have hempty : poppedPropName 256 m src (blockBytes [] ++ 0 :: 0 :: tail).length =
        some ([], 0) := by
      have h0 : m (src + 0) = 0 := Mem.apply_of_slice m src _ hm 0 (by simp)
      have h1 : m (src + 1) = 0 := Mem.apply_of_slice m src _ hm 1 (by simp)
      rw [Nat.add_zero] at h0
      unfold poppedPropName
      rw [h0, h1, if_neg (by omega)]
      exact if_pos (by decide)
    rw [run_onmetadataLoop_succ _ _ _ hpos, hempty]
    rfl
  | cons block blocks ih =>
    obtain ⟨hfits, hrest⟩ := List.forall_mem_cons.1 h
    obtain ⟨hne, hname⟩ := hfits.name
    have hassoc : blockBytes (block :: blocks) ++ 0 :: 0 :: tail =
        propNameBytes block.name ++ (block.rest ++ (blockBytes blocks ++ 0 :: 0 :: tail)) := by
      simp [Block.bytes]
    obtain ⟨fuel, rfl⟩ : ∃ n, fuel = n + 1 := ⟨fuel - 1, by
      rw [List.length_cons] at hfuel
      omega⟩
    rw [hassoc] at hm ⊢
    obtain ⟨hpropName, hbehind⟩ := (Mem.slice_append_iff m src _ _).1 hm
    obtain ⟨hvalue, hnext⟩ := (Mem.slice_append_iff m _ _ _).1 hbehind
    rw [length_propNameBytes] at hpropName hbehind hvalue hnext
    have hlen : (propNameBytes block.name ++ (block.rest ++ (blockBytes blocks ++
        0 :: 0 :: tail))).length = block.name.length + 2 + (block.rest.length +
          (blockBytes blocks ++ 0 :: 0 :: tail).length) := by
      rw [List.length_append, List.length_append, length_propNameBytes]
    have hpopped : poppedPropName 256 m src (propNameBytes block.name ++ (block.rest ++
        (blockBytes blocks ++ 0 :: 0 :: tail))).length =
          some (block.name, block.name.length + 2) :=
      (poppedPropName_iff (Nat.succ_ne_zero _)).2
        ⟨hne, by omega, by omega, rfl, by omega, hpropName⟩
    have hpos := block.length_rest_pos hfits
    have hroom : (block.rest.length : Int) ≤ ((propNameBytes block.name ++ (block.rest ++
        (blockBytes blocks ++ 0 :: 0 :: tail))).length : Int) - (block.name.length + 2 : Nat) := by
      omega
    have hpop := block.run_popBehind hfits data hvalue hroom
    have hleft : ((propNameBytes block.name ++ (block.rest ++ (blockBytes blocks ++
        0 :: 0 :: tail))).length : Int) - (block.name.length + 2 : Nat) - block.rest.length =
          (blockBytes blocks ++ 0 :: 0 :: tail).length := by
      omega
    rw [run_onmetadataLoop_succ _ _ _ (by omega), hpopped]
    dsimp only
    rw [if_neg (Nat.succ_ne_zero _), Access.run_bind_ok hpop]
    dsimp only
    rw [if_neg (Nat.ne_of_gt hpos), hleft, ih hrest (block.store data) hnext fuel (by
      rw [List.length_cons] at hfuel
      omega)]
    have hplace : src + (block.name.length + 2) + block.rest.length + (blockBytes blocks).length =
        src + (blockBytes (block :: blocks)).length := by
      rw [blockBytes_cons, List.length_append, Block.bytes, List.length_append,
        length_propNameBytes]
      omega
    rw [hplace]
    rfl

/-- An empty name is two zero bytes. -/
private theorem zeros_of_emptyName {dstSize : Int} {m : Mem} {src : Nat} {srcLen : Int}
    {name : List UInt8} (h : poppedPropName dstSize m src srcLen = some (name, 0)) :
    m src = 0 ∧ m (src + 1) = 0 := by
  unfold poppedPropName at h
  split at h
  · cases h
  · dsimp only at h
    split at h
    · next hzero =>
      unfold be16 at hzero
      exact ⟨UInt8.toNat_inj.1 (by simpa using (by omega : (m src).toNat = 0)),
        UInt8.toNat_inj.1 (by simpa using (by omega : (m (src + 1)).toNat = 0))⟩
    · split at h
      · cases h
      · cases h

/-- A round that does not fail stops at an empty name, or pops a name and what is behind it; it
stops there if that is nothing. -/
private theorem round_cases {fuel : Nat} {data data' : RtmpMetadata} {m m' : Mem} {src src' : Nat}
    {dataLen left : Int} (hpos : 0 < dataLen)
    (h : (onmetadataLoop (fuel + 1) data src dataLen).run m =
      (.ok (some (src', left), data'), m')) :
    (m src = 0 ∧ m (src + 1) = 0 ∧ src' = src ∧ left = dataLen ∧ data' = data ∧ m' = m) ∨
      ∃ (name : List UInt8) (ret : Nat) (data₁ : RtmpMetadata), name ≠ [] ∧ name.length ≤ 255 ∧
        ((name.length + 2 : Nat) : Int) ≤ dataLen ∧
        m.slice src (name.length + 2) = propNameBytes name ∧
        (popBehind data name (src + (name.length + 2)) (dataLen - (name.length + 2 : Nat))).run m =
          (.ok (some ret, data₁), m) ∧
        ((ret = 0 ∧ left = dataLen - (name.length + 2 : Nat)) ∨
          (onmetadataLoop fuel data₁ (src + (name.length + 2) + ret)
            (dataLen - (name.length + 2 : Nat) - ret)).run m =
              (.ok (some (src', left), data'), m')) := by
  rw [run_onmetadataLoop_succ _ _ _ hpos] at h
  cases hname : poppedPropName 256 m src dataLen with
  | none =>
    rw [hname] at h
    cases h
  | some r =>
    obtain ⟨name, ret⟩ := r
    rw [hname] at h
    dsimp only at h
    by_cases hret : ret = 0
    · left
      rw [if_pos hret] at h
      cases h
      rw [hret] at hname
      obtain ⟨h0, h1⟩ := zeros_of_emptyName hname
      exact ⟨h0, h1, rfl, rfl, rfl, rfl⟩
    · right
      obtain ⟨hne, -, hdst, rfl, hfits, hm⟩ := (poppedPropName_iff hret).1 hname
      rw [if_neg hret] at h
      cases hpop : (popBehind data name (src + (name.length + 2))
          (dataLen - (name.length + 2 : Nat))).run m with
      | mk result m₁ =>
        cases result with
        | error e =>
          rw [Access.run_bind_error hpop] at h
          cases h
        | ok r =>
          obtain ⟨popped, data₁⟩ := r
          rw [Access.run_bind_ok hpop] at h
          cases popped with
          | none => cases h
          | some ret =>
            obtain ⟨rfl, -⟩ := exists_block hne (by omega) hpop
            refine ⟨name, ret, data₁, hne, by omega, hfits, hm, hpop, ?_⟩
            dsimp only at h
            by_cases hzero : ret = 0
            · rw [if_pos hzero] at h
              cases h
              exact Or.inl ⟨hzero, rfl⟩
            · rw [if_neg hzero] at h
              exact Or.inr h

/-- Where the loop leaves at least three bytes, it has taken a row of blocks up to two zero
bytes. -/
theorem blocks_of_onmetadataLoop {fuel : Nat} {data data' : RtmpMetadata} {m m' : Mem}
    {src src' : Nat} {dataLen left : Int} (hleft : 3 ≤ left)
    (h : (onmetadataLoop fuel data src dataLen).run m = (.ok (some (src', left), data'), m')) :
    m' = m ∧ ∃ blocks tail, (∀ block ∈ blocks, block.Fits) ∧ tail ≠ [] ∧
      m.slice src dataLen.toNat = blockBytes blocks ++ 0 :: 0 :: tail ∧
      data' = blocks.foldl Block.store data := by
  induction fuel generalizing data src dataLen with
  | zero =>
    unfold onmetadataLoop at h
    split at h
    · cases h
      omega
    · cases h
  | succ fuel ih =>
    by_cases hpos : 0 < dataLen
    · rcases round_cases hpos h with ⟨h0, h1, rfl, rfl, rfl, rfl⟩ |
        ⟨name, ret, data₁, hne, hname, hfits, hm, hpop, hnext⟩
      · obtain ⟨n, hn⟩ : ∃ n : Nat, left.toNat = n + 1 + 1 + 1 := ⟨left.toNat - 3, by omega⟩
        refine ⟨rfl, [], m'.slice (src' + 1 + 1) (n + 1), fun b hb ↦ absurd hb List.not_mem_nil,
          ?_, ?_, rfl⟩
        · rw [Mem.slice_succ]
          exact List.cons_ne_nil _ _
        · rw [hn, Mem.slice_succ, Mem.slice_succ, h0, h1]
          rfl
      · obtain ⟨-, hblock⟩ := exists_block hne hname hpop
        rcases hnext with ⟨hzero, hend⟩ | hnext
        · -- a block behind a name is never empty
          obtain ⟨block, hblockFits, -, hrest, -⟩ := hblock (by omega)
          have hpos' := block.length_rest_pos hblockFits
          rw [← hrest, Mem.length_slice] at hpos'
          omega
        · obtain ⟨rfl, blocks, tail, hblocks, htail, hslice, rfl⟩ := ih hnext
          have hover := congrArg List.length hslice
          rw [Mem.length_slice, List.length_append, List.length_cons] at hover
          obtain ⟨block, hblockFits, rfl, hrest, rfl⟩ := hblock (by omega)
          refine ⟨rfl, block :: blocks, tail, List.forall_mem_cons.2 ⟨hblockFits, hblocks⟩,
            htail, ?_, rfl⟩
          have hlen : dataLen.toNat = block.name.length + 2 + (ret +
              (dataLen - (block.name.length + 2 : Nat) - ret).toNat) := by
            omega
          rw [hlen, Mem.slice_add, hm, Mem.slice_add, hrest, hslice, blockBytes_cons, Block.bytes]
          simp
    · unfold onmetadataLoop at h
      rw [if_pos (by omega)] at h
      cases h
      omega

/-- A pop behind a name ends without a fault. -/
private theorem exists_popBehind (data : RtmpMetadata) (name : List UInt8) (src : Nat)
    (srcLen : Int) (m : Mem) : ∃ r, (popBehind data name src srcLen).run m = (.ok r, m) := by
  unfold popBehind
  cases fieldOf (untilNul name) with
  | none => exact ⟨_, rfl⟩
  | some field =>
    cases field with
    | text field =>
      cases hpopped : poppedString 128 m src srcLen with
      | none =>
        refine ⟨(none, data), (Access.run_bind_ok (run_rtmpAmf0PopString _ _ _ _) _).trans ?_⟩
        rw [hpopped]
        rfl
      | some r =>
        refine ⟨(some r.2, data.setText field r.1),
          (Access.run_bind_ok (run_rtmpAmf0PopString _ _ _ _) _).trans ?_⟩
        rw [hpopped]
        rfl
    | number field =>
      cases hpopped : poppedNumber m src srcLen with
      | none =>
        refine ⟨(none, data), (Access.run_bind_ok (run_rtmpAmf0PopNumber _ _ _) _).trans ?_⟩
        rw [hpopped]
        rfl
      | some pattern =>
        refine ⟨(some 9, data.setNumber field pattern),
          (Access.run_bind_ok (run_rtmpAmf0PopNumber _ _ _) _).trans ?_⟩
        rw [hpopped]
        rfl

/-- The loop ends over any bytes, since a round takes a name. -/
theorem exists_onmetadataLoop {fuel : Nat} {dataLen : Int} (hfuel : dataLen.toNat ≤ fuel)
    (data : RtmpMetadata) (src : Nat) (m : Mem) :
    ∃ r, (onmetadataLoop fuel data src dataLen).run m = (.ok r, m) := by
  induction fuel generalizing dataLen data src with
  | zero =>
    unfold onmetadataLoop
    rw [if_pos (by omega)]
    exact ⟨_, rfl⟩
  | succ fuel ih =>
    by_cases hpos : 0 < dataLen
    · rw [run_onmetadataLoop_succ _ _ _ hpos]
      cases hname : poppedPropName 256 m src dataLen with
      | none => exact ⟨_, rfl⟩
      | some r =>
        obtain ⟨name, ret⟩ := r
        dsimp only
        by_cases hret : ret = 0
        · rw [if_pos hret]
          exact ⟨_, rfl⟩
        · obtain ⟨⟨popped, data₁⟩, hpop⟩ :=
            exists_popBehind data name (src + ret) (dataLen - ret) m
          rw [if_neg hret, Access.run_bind_ok hpop]
          cases popped with
          | none => exact ⟨_, rfl⟩
          | some ret' =>
            dsimp only
            by_cases hret' : ret' = 0
            · rw [if_pos hret']
              exact ⟨_, rfl⟩
            · rw [if_neg hret']
              exact ih (by omega) data₁ _
    · unfold onmetadataLoop
      rw [if_pos (by omega)]
      exact ⟨_, rfl⟩

/-! ### The parser -/

/-- The bytes are a string, the start of an object, a row of blocks, two zero bytes and at least
one more. -/
def IsCut (bytes text : List UInt8) (blocks : List Block) (tail : List UInt8) : Prop :=
  text.length ≤ 255 ∧ (∀ block ∈ blocks, block.Fits) ∧ tail ≠ [] ∧
    bytes = stringBytes text ++ 0x03 :: (blockBytes blocks ++ 0x00 :: 0x00 :: tail)

/-- What the parser returns where the loop has left it. -/
private def answer (m : Mem) : Option (Nat × Int) → Int
  | none => -1
  | some (src, left) => if poppedObjectEnd m src left then 0 else -1

/-- Behind a string and the start of an object the loop and the check of the end decide. -/
private theorem run_onmetadataResult {m : Mem} {off : Nat} {dataLen : Int} {text : List UInt8}
    (hstring : poppedString 256 m off dataLen = some (text, text.length + 3))
    (hbegin : poppedObjectBegin m (off + (text.length + 3)) (dataLen - (text.length + 3 : Nat)) =
      true) {data data' : RtmpMetadata} {ended : Option (Nat × Int)}
    (hloop : (onmetadataLoop (dataLen - (text.length + 3 : Nat)).toNat data
      (off + (text.length + 3) + 1) (dataLen - (text.length + 3 : Nat) - (1 : Nat))).run m =
        (.ok (ended, data'), m)) :
    (rtmpProcessCmd0x12OnmetadataResult data off dataLen).run m =
      (.ok (answer m ended, data'), m) := by
  unfold rtmpProcessCmd0x12OnmetadataResult
  refine (Access.run_bind_ok (run_rtmpAmf0PopString _ _ _ _) _).trans ?_
  rw [hstring]
  refine (Access.run_bind_ok (run_rtmpAmf0PopObjectBegin _ _ _) _).trans ?_
  rw [if_pos hbegin]
  refine (Access.run_bind_ok hloop _).trans ?_
  cases ended with
  | none => rfl
  | some r =>
    obtain ⟨src, left⟩ := r
    refine (Access.run_bind_ok (run_rtmpAmf0PopObjectEnd _ _ _) _).trans ?_
    change _ = (Except.ok ((if poppedObjectEnd m src left then 0 else -1 : Int), data'), m)
    cases poppedObjectEnd m src left <;> rfl

/-- The parser ends: it answers -1 at a missing string or start of an object, and else as the loop
and the check of the end decide. -/
private theorem onmetadataResult_cases (data : RtmpMetadata) (off : Nat) (dataLen : Int) (m : Mem) :
    (rtmpProcessCmd0x12OnmetadataResult data off dataLen).run m = (.ok (-1, data), m) ∨
      ∃ (text : List UInt8) (ended : Option (Nat × Int)) (data' : RtmpMetadata),
        poppedString 256 m off dataLen = some (text, text.length + 3) ∧
        poppedObjectBegin m (off + (text.length + 3)) (dataLen - (text.length + 3 : Nat)) = true ∧
        (onmetadataLoop (dataLen - (text.length + 3 : Nat)).toNat data
          (off + (text.length + 3) + 1) (dataLen - (text.length + 3 : Nat) - (1 : Nat))).run m =
            (.ok (ended, data'), m) ∧
        (rtmpProcessCmd0x12OnmetadataResult data off dataLen).run m =
          (.ok (answer m ended, data'), m) := by
  cases hstring : poppedString 256 m off dataLen with
  | none =>
    left
    unfold rtmpProcessCmd0x12OnmetadataResult
    refine (Access.run_bind_ok (run_rtmpAmf0PopString _ _ _ _) _).trans ?_
    rw [hstring]
    rfl
  | some r =>
    obtain ⟨text, ret⟩ := r
    obtain ⟨-, -, rfl, -, -⟩ := poppedString_iff.1 hstring
    by_cases hbegin : poppedObjectBegin m (off + (text.length + 3))
        (dataLen - (text.length + 3 : Nat)) = true
    · right
      obtain ⟨⟨ended, data'⟩, hloop⟩ := exists_onmetadataLoop
        (show (dataLen - (text.length + 3 : Nat) - (1 : Nat)).toNat ≤
          (dataLen - (text.length + 3 : Nat)).toNat by omega) data (off + (text.length + 3) + 1) m
      exact ⟨text, ended, data', rfl, hbegin, hloop, run_onmetadataResult hstring hbegin hloop⟩
    · left
      unfold rtmpProcessCmd0x12OnmetadataResult
      refine (Access.run_bind_ok (run_rtmpAmf0PopString _ _ _ _) _).trans ?_
      rw [hstring]
      refine (Access.run_bind_ok (run_rtmpAmf0PopObjectBegin _ _ _) _).trans ?_
      rw [if_neg hbegin]
      rfl

/-- The parser returns 0 or -1. -/
theorem rtmpProcessCmd0x12OnmetadataResult_ends (data : RtmpMetadata) (off : Nat) (dataLen : Int)
    (m : Mem) :
    ∃ ret data', (rtmpProcessCmd0x12OnmetadataResult data off dataLen).run m =
      (.ok (ret, data'), m) ∧ (ret = 0 ∨ ret = -1) := by
  rcases onmetadataResult_cases data off dataLen m with hrun |
    ⟨text, ended, data', -, -, -, hrun⟩
  · exact ⟨-1, data, hrun, Or.inr rfl⟩
  · refine ⟨answer m ended, data', hrun, ?_⟩
    cases ended with
    | none => exact Or.inr rfl
    | some r =>
      obtain ⟨src, left⟩ := r
      unfold answer
      cases poppedObjectEnd m src left <;> simp

/-- What the parser accepts can be cut, and the blocks say what it stores. -/
theorem isCut_of_run {data data' : RtmpMetadata} {off n : Nat} {m : Mem}
    (h : (rtmpProcessCmd0x12OnmetadataResult data off n).run m = (.ok (0, data'), m)) :
    ∃ text blocks tail, IsCut (m.slice off n) text blocks tail ∧
      data' = blocks.foldl Block.store data := by
  rcases onmetadataResult_cases data off n m with hrun |
    ⟨text, ended, data₁, hstring, hbegin, hloop, hrun⟩
  · cases h.symm.trans hrun
  · obtain ⟨hret, rfl⟩ : (0 : Int) = answer m ended ∧ data' = data₁ := by
      simpa using h.symm.trans hrun
    obtain ⟨-, hlen, -, hroom, hm⟩ := poppedString_iff.1 hstring
    obtain ⟨hleast, hobject⟩ := of_decide_eq_true hbegin
    cases ended with
    | none => cases hret
    | some r =>
      obtain ⟨src, left⟩ := r
      change (0 : Int) = if poppedObjectEnd m src left then 0 else -1 at hret
      have hend : poppedObjectEnd m src left = true := by
        by_contra hnot
        rw [if_neg hnot] at hret
        cases hret
      have hleft : 3 ≤ left := (of_decide_eq_true hend).1
      obtain ⟨-, blocks, tail, hblocks, htail, hslice, rfl⟩ := blocks_of_onmetadataLoop hleft hloop
      refine ⟨text, blocks, tail, ⟨by omega, hblocks, htail, ?_⟩, rfl⟩
      have hsize : n = text.length + 3 + (((n : Int) - (text.length + 3 : Nat) - (1 : Nat)).toNat +
          1) := by
        omega
      rw [hsize, Mem.slice_add, hm, Mem.slice_succ, hobject, ← hslice]

/-- What can be cut is accepted. -/
theorem run_of_isCut {bytes text : List UInt8} {blocks : List Block} {tail : List UInt8}
    (h : IsCut bytes text blocks tail) {m : Mem} {off : Nat}
    (hm : m.slice off bytes.length = bytes) (data : RtmpMetadata) :
    (rtmpProcessCmd0x12OnmetadataResult data off bytes.length).run m =
      (.ok (0, blocks.foldl Block.store data), m) := by
  obtain ⟨htext, hblocks, htail, rfl⟩ := h
  have hpos : 0 < tail.length := List.length_pos_iff.2 htail
  have hcount := length_le_blockBytes hblocks
  have hbody : (blockBytes blocks ++ 0x00 :: 0x00 :: tail).length =
      (blockBytes blocks).length + (tail.length + 1 + 1) := by
    rw [List.length_append, List.length_cons, List.length_cons]
  have hlen : (stringBytes text ++ 0x03 :: (blockBytes blocks ++ 0x00 :: 0x00 :: tail)).length =
      text.length + 3 + ((blockBytes blocks ++ 0x00 :: 0x00 :: tail).length + 1) := by
    rw [List.length_append, length_stringBytes, List.length_cons]
  obtain ⟨hcommand, hobject⟩ := (Mem.slice_append_iff m off _ _).1 hm
  rw [length_stringBytes] at hcommand hobject
  rw [List.length_cons, Mem.slice_succ] at hobject
  obtain ⟨hbegin, hrow⟩ := List.cons.inj hobject
  have hloop := run_onmetadataLoop hblocks tail
    (show blocks.length < (((blockBytes blocks ++ 0x00 :: 0x00 :: tail).length + 1 : Nat)) by omega)
    data hrow
  obtain ⟨-, hzero⟩ := (Mem.slice_append_iff m _ _ _).1 hrow
  have hend : poppedObjectEnd m (off + (text.length + 3) + 1 + (blockBytes blocks).length)
      ((0 :: 0 :: tail : List UInt8).length : Int) = true :=
    decide_eq_true ⟨by simp; omega, Or.inl (Mem.apply_of_slice m _ _ hzero 0 (by simp))⟩
  have hanswer : answer m (some (off + (text.length + 3) + 1 + (blockBytes blocks).length,
      ((0 :: 0 :: tail : List UInt8).length : Int))) = 0 := if_pos hend
  have hleft : (((stringBytes text ++ 0x03 :: (blockBytes blocks ++
      0x00 :: 0x00 :: tail)).length : Int) - (text.length + 3 : Nat)).toNat =
        (blockBytes blocks ++ 0x00 :: 0x00 :: tail).length + 1 := by
    omega
  have hleft' : ((stringBytes text ++ 0x03 :: (blockBytes blocks ++
      0x00 :: 0x00 :: tail)).length : Int) - (text.length + 3 : Nat) - (1 : Nat) =
        (blockBytes blocks ++ 0x00 :: 0x00 :: tail).length := by
    omega
  rw [← hanswer]
  refine run_onmetadataResult (poppedString_iff.2 ⟨?_, ?_, rfl, ?_, hcommand⟩)
    (decide_eq_true ⟨?_, hbegin⟩) ?_
  · omega
  · omega
  · omega
  · omega
  · rw [hleft, hleft']
    exact hloop

/-! ### A metadata message -/

/-- The value of a property. -/
inductive PropertyValue where
  | text (s : List UInt8)
  | number (pattern : Nat)
  deriving DecidableEq

/-- A text fits an array of 128 bytes and a number has 64 bits. -/
def PropertyValue.Fits : PropertyValue → Prop
  | .text s => s.length ≤ 127
  | .number pattern => pattern < 18446744073709551616

def PropertyValue.bytes : PropertyValue → List UInt8
  | .text s => stringBytes s
  | .number pattern => numberBytes pattern

/-- The value has the type that the field expects. -/
def PropertyValue.Suits : PropertyValue → Field → Prop
  | .text _, .text _ => True
  | .number _, .number _ => True
  | _, _ => False

instance PropertyValue.decidableFits (value : PropertyValue) : Decidable value.Fits :=
  match value with
  | .text s => inferInstanceAs (Decidable (s.length ≤ 127))
  | .number pattern => inferInstanceAs (Decidable (pattern < 18446744073709551616))

instance PropertyValue.decidableSuits (value : PropertyValue) (field : Field) :
    Decidable (value.Suits field) :=
  match value, field with
  | .text _, .text _ => isTrue trivial
  | .number _, .number _ => isTrue trivial
  | .text _, .number _ => isFalse id
  | .number _, .text _ => isFalse id

/-- A property of the object. -/
structure Property where
  name : List UInt8
  value : PropertyValue

/-- The field of a property. -/
def Property.field (p : Property) : Option Field := fieldOf p.name

def Property.bytes (p : Property) : List UInt8 := propNameBytes p.name ++ p.value.bytes

/-- The properties of a metadata message: a known name occurs at most once and has a value of its
type. -/
structure PropertyRow where
  properties : List Property
  names : ∀ p ∈ properties, p.name ≠ [] ∧ p.name.length ≤ 255
  values : ∀ p ∈ properties, p.value.Fits
  expected : ∀ p ∈ properties, ∀ field ∈ p.field, p.value.Suits field
  once : (properties.filterMap Property.field).Nodup

/-- The bytes behind the start of the object. -/
def PropertyRow.objectBytes (row : PropertyRow) : List UInt8 :=
  row.properties.flatMap Property.bytes ++ [0x00, 0x00, 0x09]

/-- The message. -/
def PropertyRow.bytes (row : PropertyRow) : List UInt8 :=
  stringBytes (ascii "onMetaData") ++ 0x03 :: row.objectBytes

/-- A field of the record holds a value; a text ends with a NUL. -/
def RtmpMetadata.Holds (data : RtmpMetadata) : Field → PropertyValue → Prop
  | .text field, .text s =>
    (data.text field).slice 0 s.length = s ∧ data.text field s.length = 0
  | .number field, .number pattern => data.number field = pattern
  | _, _ => False

/-- Each field that a message names holds the value that the message gives it. -/
def RtmpMetadata.Gives (data : RtmpMetadata) (row : PropertyRow) : Prop :=
  ∀ p ∈ row.properties, ∀ field, p.field = some field → data.Holds field p.value

/-- The object can be cut into blocks up to two zero bytes and at least one more, and these blocks
leave the values of the message in its fields. -/
def PropertyRow.Cuts (row : PropertyRow) (data : RtmpMetadata) : Prop :=
  ∃ blocks tail, (∀ block ∈ blocks, block.Fits) ∧ tail ≠ [] ∧
    row.objectBytes = blockBytes blocks ++ 0x00 :: 0x00 :: tail ∧
    (blocks.foldl Block.store data).Gives row

/-! ### Rows that are cut as they are meant -/

/-- The known names have no NUL. -/
private theorem untilNul_known {name : List UInt8} {field : Field}
    (h : fieldOf name = some field) : untilNul name = name := by
  have hnames : ∀ known ∈ fieldNames, untilNul known.1 = known.1 := by decide +kernel
  obtain ⟨known, hmem, hname⟩ : ∃ known ∈ fieldNames, known.1 = name := by
    unfold fieldOf at h
    obtain ⟨before, after, hsplit, -⟩ := List.lookup_eq_some_iff.1 h
    exact ⟨(name, field), hsplit ▸ List.mem_append_right _ List.mem_cons_self, rfl⟩
  rw [← hname]
  exact hnames known hmem

/-- The block of a property whose value takes as many bytes as its name. -/
def Property.block (p : Property) : Block :=
  match p.field, p.value with
  | some (.text field), .text s => .text p.name field s
  | some (.number field), .number pattern => .number p.name field pattern
  | _, value => .other p.name value.bytes

/-- A property that the parser knows, or one whose value takes as many bytes as its name. -/
def Property.Aligned (p : Property) : Prop :=
  p.field = none →
    fieldOf (untilNul p.name) = none ∧ p.value.bytes.length = p.name.length + 2

variable (row : PropertyRow)

/-- The block of a property has its bytes. -/
private theorem PropertyRow.block_fits {p : Property} (hp : p ∈ row.properties)
    (h : p.Aligned) : p.block.Fits ∧ p.block.bytes = p.bytes := by
  obtain ⟨name, value⟩ := p
  obtain ⟨hne, hlen⟩ := row.names _ hp
  have hvalue := row.values _ hp
  have hexpected := row.expected _ hp
  unfold Property.Aligned Property.field at h
  unfold Property.block Property.field
  cases hfield : fieldOf name with
  | none =>
    obtain ⟨huntil, hsize⟩ := h hfield
    exact ⟨⟨hne, hlen, huntil, hsize⟩, rfl⟩
  | some field =>
    have hsuits := hexpected field hfield
    have hknown : fieldOf (untilNul name) = some field := by
      rw [untilNul_known hfield, hfield]
    cases field with
    | text field =>
      cases value with
      | text s => exact ⟨⟨hne, hlen, hknown, hvalue⟩, rfl⟩
      | number pattern => cases hsuits
    | number field =>
      cases value with
      | text s => cases hsuits
      | number pattern => exact ⟨⟨hne, hlen, hknown, hvalue⟩, rfl⟩

/-- The block of a known property leaves its value in its field. -/
private theorem holds_store {p : Property} {field : Field} (hfield : p.field = some field)
    (hsuits : p.value.Suits field) (data : RtmpMetadata) :
    (p.block.store data).Holds field p.value := by
  obtain ⟨name, value⟩ := p
  unfold Property.block
  rw [hfield]
  cases field with
  | text field =>
    cases value with
    | text s =>
      change (Function.update data.text field _ field).slice 0 s.length = s ∧
        Function.update data.text field _ field s.length = 0
      rw [Function.update_self]
      constructor
      · rw [Mem.slice_set_outside _ _ _ _ _ (Or.inr (by omega)), Mem.slice_memcpy_same]
      · exact Mem.set_same _ _ _
    | number pattern => cases hsuits
  | number field =>
    cases value with
    | text s => cases hsuits
    | number pattern => exact Function.update_self field pattern data.number

/-- A store to another field leaves a value where it is. -/
private theorem RtmpMetadata.Holds.setText {data : RtmpMetadata} {field : Field}
    {value : PropertyValue} (h : data.Holds field value) {field' : TextField}
    (hne : field ≠ .text field') (s : List UInt8) : (data.setText field' s).Holds field value := by
  cases field with
  | number field => cases value <;> exact h
  | text field =>
    have hother : field ≠ field' := fun he ↦ hne (congrArg Field.text he)
    have hsame : (data.setText field' s).text field = data.text field :=
      Function.update_of_ne hother _ _
    cases value with
    | number pattern => exact h
    | text s' =>
      change ((data.setText field' s).text field).slice 0 s'.length = s' ∧
        (data.setText field' s).text field s'.length = 0
      rw [hsame]
      exact h

private theorem RtmpMetadata.Holds.setNumber {data : RtmpMetadata} {field : Field}
    {value : PropertyValue} (h : data.Holds field value) {field' : NumberField}
    (hne : field ≠ .number field') (pattern : Nat) :
    (data.setNumber field' pattern).Holds field value := by
  cases field with
  | text field => cases value <;> exact h
  | number field =>
    have hother : field ≠ field' := fun he ↦ hne (congrArg Field.number he)
    cases value with
    | text s => exact h
    | number pattern' => exact (Function.update_of_ne hother pattern data.number).trans h

/-- The block of another property leaves a field alone. -/
private theorem holds_store_other {p : Property} {field : Field} (hfield : p.field ≠ some field)
    {data : RtmpMetadata} {value : PropertyValue} (h : data.Holds field value) :
    (p.block.store data).Holds field value := by
  obtain ⟨name, value'⟩ := p
  unfold Property.field at hfield
  unfold Property.block Property.field
  cases hname : fieldOf name with
  | none => exact h
  | some field' =>
    have hne : field ≠ field' := fun he ↦ hfield (he ▸ hname)
    cases field' with
    | text field' =>
      cases value' with
      | text s => exact h.setText hne s
      | number pattern => exact h
    | number field' =>
      cases value' with
      | text s => exact h
      | number pattern => exact h.setNumber hne pattern

/-- The blocks of a row leave each value in its field. -/
private theorem holds_foldl {properties : List Property} {data : RtmpMetadata} {field : Field}
    {value : PropertyValue}
    (h : data.Holds field value ∧ field ∉ properties.filterMap Property.field ∨
      (properties.filterMap Property.field).Nodup ∧
        ∃ p ∈ properties, p.field = some field ∧ p.value.Suits field ∧ p.value = value) :
    ((properties.map Property.block).foldl Block.store data).Holds field value := by
  induction properties generalizing data with
  | nil =>
    rcases h with ⟨h, -⟩ | ⟨-, p, hp, -⟩
    · exact h
    · cases hp
  | cons q properties ih =>
    apply ih
    rcases h with ⟨h, hnot⟩ | ⟨hnodup, p, hp, hfield, hsuits, rfl⟩
    · left
      have hq : q.field ≠ some field := by
        intro hq
        exact hnot (List.mem_filterMap.2 ⟨q, List.mem_cons_self, hq⟩)
      refine ⟨holds_store_other hq h, fun hmem ↦ hnot ?_⟩
      obtain ⟨r, hr, hrfield⟩ := List.mem_filterMap.1 hmem
      exact List.mem_filterMap.2 ⟨r, List.mem_cons_of_mem _ hr, hrfield⟩
    · rcases List.mem_cons.1 hp with rfl | hp
      · rw [List.filterMap_cons_some hfield] at hnodup
        exact Or.inl ⟨holds_store hfield hsuits data, (List.nodup_cons.1 hnodup).1⟩
      · refine Or.inr ⟨?_, p, hp, hfield, hsuits, rfl⟩
        cases hq : q.field with
        | none => rwa [List.filterMap_cons_none hq] at hnodup
        | some field' =>
          rw [List.filterMap_cons_some hq] at hnodup
          exact (List.nodup_cons.1 hnodup).2

/-- A row without other names, or in which the values of other names take as many bytes as the
names, is cut as it is meant. -/
theorem PropertyRow.cuts_of_aligned (h : ∀ p ∈ row.properties, p.Aligned) (data : RtmpMetadata) :
    row.Cuts data := by
  refine ⟨row.properties.map Property.block, [0x09], ?_, List.cons_ne_nil _ _, ?_, ?_⟩
  · intro block hblock
    obtain ⟨p, hp, rfl⟩ := List.mem_map.1 hblock
    exact (row.block_fits hp (h p hp)).1
  · have hbytes : blockBytes (row.properties.map Property.block) =
        row.properties.flatMap Property.bytes := by
      unfold blockBytes
      rw [List.flatMap_map]
      exact List.flatMap_congr fun p hp ↦ (row.block_fits hp (h p hp)).2
    rw [hbytes]
    rfl
  · intro p hp field hfield
    exact holds_foldl (Or.inr ⟨row.once, p, hp, hfield, row.expected p hp field hfield, rfl⟩)

/-! ### The parser over a row -/

/-- A cut of the message is a cut of its object. -/
theorem PropertyRow.isCut_iff {text : List UInt8} {blocks : List Block} {tail : List UInt8} :
    IsCut row.bytes text blocks tail ↔ text = ascii "onMetaData" ∧
      (∀ block ∈ blocks, block.Fits) ∧ tail ≠ [] ∧
        row.objectBytes = blockBytes blocks ++ 0x00 :: 0x00 :: tail := by
  have hname : (ascii "onMetaData").length = 10 := by decide +kernel
  constructor
  · rintro ⟨htext, hblocks, htail, hbytes⟩
    obtain ⟨hcommand, hobject⟩ := Wire.sizedBytes_append_inj (by omega) (by omega)
      (List.cons.inj hbytes).2
    exact ⟨hcommand.symm, hblocks, htail, (List.cons.inj hobject).2⟩
  · rintro ⟨rfl, hblocks, htail, hobject⟩
    refine ⟨by omega, hblocks, htail, ?_⟩
    rw [← hobject]
    rfl

/-- The parser accepts a metadata message and stores its values exactly when the object can be cut
into blocks that leave them. -/
theorem rtmpProcessCmd0x12OnmetadataResult_gives {m : Mem} {off : Nat}
    (hm : m.slice off row.bytes.length = row.bytes) (data : RtmpMetadata) :
    (∃ data', (rtmpProcessCmd0x12OnmetadataResult data off row.bytes.length).run m =
        (.ok (0, data'), m) ∧ data'.Gives row) ↔ row.Cuts data := by
  constructor
  · rintro ⟨data', hrun, hgives⟩
    obtain ⟨text, blocks, tail, hcut, rfl⟩ := isCut_of_run hrun
    rw [hm] at hcut
    obtain ⟨-, hblocks, htail, hobject⟩ := row.isCut_iff.1 hcut
    exact ⟨blocks, tail, hblocks, htail, hobject, hgives⟩
  · rintro ⟨blocks, tail, hblocks, htail, hobject, hgives⟩
    exact ⟨_, run_of_isCut (row.isCut_iff.2 ⟨rfl, hblocks, htail, hobject⟩) hm data, hgives⟩

/-- The frame rate and the server behind a property of seven letters, of which the parser knows
nothing. -/
def alignedRow : PropertyRow where
  properties := [⟨ascii "encoder", .number 0x3ff0000000000000⟩,
    ⟨ascii "fps", .number 0x4039000000000000⟩, ⟨ascii "Server", .text (ascii "SRS")⟩]
  names := by decide +kernel
  values := by decide +kernel
  expected := by decide +kernel
  once := by decide +kernel

/-- The frame rate and the server are stored. -/
theorem rtmpProcessCmd0x12OnmetadataResult_gives_aligned :
    ∃ data', (rtmpProcessCmd0x12OnmetadataResult ⟨fun _ _ ↦ 0, fun _ ↦ 0⟩ 0
      alignedRow.bytes.length).run (Mem.ofList alignedRow.bytes) =
        (.ok (0, data'), Mem.ofList alignedRow.bytes) ∧ data'.Gives alignedRow := by
  have haligned : ∀ p ∈ alignedRow.properties, p.field = none →
      fieldOf (untilNul p.name) = none ∧ p.value.bytes.length = p.name.length + 2 := by
    decide +kernel
  exact (rtmpProcessCmd0x12OnmetadataResult_gives alignedRow (Mem.slice_ofList _) _).mpr
    (alignedRow.cuts_of_aligned haligned _)

/-- The width behind a property of eight letters. -/
def shiftedRow : PropertyRow where
  properties := [⟨ascii "filesize", .number 0x4059000000000000⟩,
    ⟨ascii "width", .number 0x4084000000000000⟩]
  names := by decide +kernel
  values := by decide +kernel
  expected := by decide +kernel
  once := by decide +kernel

/-- The parser skips one byte too many behind the first name, and answers -1. -/
theorem rtmpProcessCmd0x12OnmetadataResult_shifted :
    ((rtmpProcessCmd0x12OnmetadataResult ⟨fun _ _ ↦ 0, fun _ ↦ 0⟩ 0
      shiftedRow.bytes.length).run (Mem.ofList shiftedRow.bytes)).1.map Prod.fst = .ok (-1) := by
  decide +kernel

end RtmpRecv.Client
