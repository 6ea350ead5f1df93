import RtmpRecv.Wire.Chunks

/-!
# Whole messages

Library `Wire`. Lists of chunks one behind the other, and the chunks of a single message. A sender
that has no message open has none open again behind them.
-/

namespace RtmpRecv.Wire
open RtmpRecv.Base

namespace Sender

/-- The connection after a list of chunks. -/
def after : Sender → List Chunk → Sender
  | s, [] => s
  | s, chunk :: rest => (s.next chunk).after rest

theorem stream_append (s : Sender) (chunks more : List Chunk) :
    s.stream (chunks ++ more) = s.stream chunks ++ (s.after chunks).stream more := by
  induction chunks generalizing s with
  | nil => rfl
  | cons chunk rest ih => simp only [List.cons_append, stream, after, ih, List.append_assoc]

theorem deliveries_append (s : Sender) (chunks more : List Chunk) :
    s.deliveries (chunks ++ more) = s.deliveries chunks ++ (s.after chunks).deliveries more := by
  induction chunks generalizing s with
  | nil => rfl
  | cons chunk rest ih => simp only [List.cons_append, deliveries, after, ih, List.append_assoc]

theorem after_append (s : Sender) (chunks more : List Chunk) :
    s.after (chunks ++ more) = (s.after chunks).after more := by
  induction chunks generalizing s with
  | nil => rfl
  | cons chunk rest ih => exact ih (s.next chunk)

theorem Along.append {p : Sender → Chunk → Prop} {s : Sender} {chunks more : List Chunk}
    (h : s.Along p chunks) (hmore : (s.after chunks).Along p more) :
    s.Along p (chunks ++ more) := by
  induction chunks generalizing s with
  | nil => exact hmore
  | cons chunk rest ih => exact ⟨h.1, ih h.2 hmore⟩

theorem Along.behind {p : Sender → Chunk → Prop} {s : Sender} {chunks more : List Chunk}
    (h : s.Along p (chunks ++ more)) : (s.after chunks).Along p more := by
  induction chunks generalizing s with
  | nil => exact h
  | cons chunk rest ih => exact ih h.2

theorem Along.of_forall {p : Sender → Chunk → Prop} {chunks : List Chunk}
    (h : ∀ chunk ∈ chunks, ∀ s, p s chunk) (s : Sender) : s.Along p chunks := by
  induction chunks generalizing s with
  | nil => trivial
  | cons chunk rest ih =>
    exact ⟨h chunk List.mem_cons_self s,
      ih (fun other hother ↦ h other (List.mem_cons_of_mem _ hother)) (s.next chunk)⟩

/-- No message is open. -/
structure Quiet (s : Sender) (chunkSize : Nat) : Prop where
  chunkSize : s.chunkSize = chunkSize
  pending : ∀ i, (s.lane i).pending = []

theorem quiet_init (chunkSize : Nat) (latest : UInt8 → Nat) :
    (Sender.init chunkSize latest).Quiet chunkSize :=
  ⟨rfl, fun _ ↦ rfl⟩

end Sender

/-- A body cut into blocks, with `head` in front of each of the last `pages` blocks. -/
def blocks (size : Nat) (head : UInt8) : Nat → List UInt8 → List UInt8
  | 0, body => body
  | pages + 1, body => body.take size ++ head :: blocks size head pages (body.drop size)

/-- The chunks of a message. -/
def chunksOf (chunkSize chunkId : Nat) (fmt : Fmt) (message : Message) : List Chunk :=
  .start chunkId fmt message ::
    List.replicate ((message.body.length - 1) / chunkSize) (.cont chunkId)

/-- The bytes of a message in chunks without extended timestamps. -/
def messageBytes (chunkSize chunkId : Nat) (fmt : Fmt) (message : Message) : List UInt8 :=
  basicHeader fmt.toNat chunkId :: (fmt.fields message ++ blocks chunkSize
    (basicHeader 3 chunkId) ((message.body.length - 1) / chunkSize) message.body)

/-- The list of chunks has these bytes and completes this message, and leaves none open. -/
structure Sends (s : Sender) (chunkSize chunkId : Nat) (message : Message) (chunks : List Chunk)
    (bytes : List UInt8) : Prop where
  wellFormed : s.Along Sender.WellFormed chunks
  stream : s.stream chunks = bytes
  deliveries : ∃ d, s.deliveries chunks = [d] ∧ d.chunkId = chunkId ∧ d.message = message
  quiet : (s.after chunks).Quiet chunkSize

/-- A part of a message is left on one chunk stream, and nothing on the others. -/
structure Midway (s : Sender) (chunkSize chunkId : Nat) (message : Message)
    (rest : List UInt8) : Prop where
  chunkSize : s.chunkSize = chunkSize
  message : (s.lane chunkId).message = message
  extended : (s.lane chunkId).extended = none
  pending : (s.lane chunkId).pending = rest
  other : ∀ i, i ≠ chunkId → (s.lane i).pending = []

section

variable {s : Sender} {chunkSize chunkId : Nat} {message : Message} {rest : List UInt8}

/-- The connection after a chunk of a message that is no Set Chunk Size. -/
private theorem next_eq (hsize : s.chunkSize = chunkSize) (chunk : Chunk)
    (hmessage : (s.laneAfter chunk).message = message) (htype : message.type ≠ 1) :
    (s.next chunk).chunkSize = chunkSize := by
  unfold Sender.next Sender.completes
  dsimp only
  rw [hmessage]
  by_cases hp : (s.laneAfter chunk).pending = []
  · rw [if_pos hp]
    dsimp only
    rw [if_neg htype, hsize]
  · rw [if_neg hp]
    exact hsize

/-- A chunk that completes its message. -/
private theorem deliveries_single {chunk : Chunk} (h : (s.laneAfter chunk).pending = []) :
    s.deliveries [chunk] = [⟨chunk.chunkId, (s.laneAfter chunk).message, (s.laneAfter chunk).fmt,
      (s.laneAfter chunk).streamId, (s.laneAfter chunk).timestamp⟩] := by
  change (s.completes chunk).toList ++ [] = _
  unfold Sender.completes
  rw [if_pos h]
  rfl

private theorem quiet_next (hsize : s.chunkSize = chunkSize) (chunk : Chunk)
    (hmessage : (s.laneAfter chunk).message = message) (htype : message.type ≠ 1)
    (hpending : (s.laneAfter chunk).pending = [])
    (hother : ∀ i, i ≠ chunk.chunkId → (s.lane i).pending = []) :
    (s.next chunk).Quiet chunkSize := by
  refine ⟨next_eq hsize chunk hmessage htype, fun i ↦ ?_⟩
  by_cases hi : i = chunk.chunkId
  · simp only [Sender.next, if_pos hi, hpending]
  · simp only [Sender.next, if_neg hi, hother i hi]

/-- One more chunk. -/
private theorem Midway.next (h : Midway s chunkSize chunkId message rest)
    (htype : message.type ≠ 1) :
    Midway (s.next (.cont chunkId)) chunkSize chunkId message (rest.drop chunkSize) := by
  have hlane : (s.next (.cont chunkId)).lane chunkId = (s.lane chunkId).cont s.chunkSize :=
    if_pos rfl
  constructor
  · exact next_eq h.chunkSize _ h.message htype
  · rw [hlane]
    exact h.message
  · rw [hlane]
    exact h.extended
  · rw [hlane, ← h.chunkSize, ← h.pending]
    rfl
  · intro i hi
    exact (congrArg Lane.pending (if_neg hi)).trans (h.other i hi)

private theorem Midway.pending_after (h : Midway s chunkSize chunkId message rest) :
    (s.laneAfter (.cont chunkId)).pending = rest.drop chunkSize := by
  rw [← h.chunkSize, ← h.pending]
  rfl

private theorem Midway.wellFormed (h : Midway s chunkSize chunkId message rest)
    (hid : 2 ≤ chunkId ∧ chunkId < 64) (hrest : 0 < rest.length) :
    s.WellFormed (.cont chunkId) := by
  refine ⟨hid, ?_⟩
  rw [h.pending]
  exact List.length_pos_iff.1 hrest

/-- The bytes of a further chunk. -/
private theorem Midway.bytes (h : Midway s chunkSize chunkId message rest) :
    s.bytes (.cont chunkId) = basicHeader 3 chunkId :: rest.take chunkSize := by
  change basicHeader 3 chunkId :: (extendedBytes (s.lane chunkId).extended ++
    (s.lane chunkId).pending.take s.chunkSize) = _
  rw [h.extended, h.pending, h.chunkSize]
  rfl

/-- The rest of the message goes out in further chunks. -/
theorem sends_conts (hid : 2 ≤ chunkId ∧ chunkId < 64) (htype : message.type ≠ 1) (pages : Nat)
    (h : Midway s chunkSize chunkId message rest) (hlow : pages * chunkSize < rest.length)
    (hhigh : rest.length ≤ (pages + 1) * chunkSize) :
    Sends s chunkSize chunkId message (List.replicate (pages + 1) (.cont chunkId))
      (basicHeader 3 chunkId :: blocks chunkSize (basicHeader 3 chunkId) pages rest) := by
  induction pages generalizing s rest with
  | zero =>
    have hdone : (s.laneAfter (.cont chunkId)).pending = [] := by
      rw [h.pending_after]
      exact List.drop_eq_nil_of_le (by omega)
    constructor
    · exact ⟨h.wellFormed hid (by omega), trivial⟩
    · change s.bytes (.cont chunkId) ++ [] = _
      rw [h.bytes, List.append_nil, List.take_of_length_le (by omega)]
      rfl
    · exact ⟨_, deliveries_single hdone, rfl, h.message⟩
    · exact quiet_next h.chunkSize _ h.message htype hdone h.other
  | succ pages ih =>
    have hpages : (pages + 1) * chunkSize = pages * chunkSize + chunkSize := Nat.succ_mul _ _
    have hpages' : (pages + 1 + 1) * chunkSize = (pages + 1) * chunkSize + chunkSize :=
      Nat.succ_mul _ _
    have hlength : (rest.drop chunkSize).length = rest.length - chunkSize := List.length_drop
    have hleft : (s.laneAfter (.cont chunkId)).pending ≠ [] := by
      rw [h.pending_after]
      exact List.length_pos_iff.1 (by omega)
    have hrest := ih (h.next htype) (by omega) (by omega)
    have hnone : s.completes (.cont chunkId) = none := if_neg hleft
    constructor
    · exact ⟨h.wellFormed hid (by omega), hrest.wellFormed⟩
    · change s.bytes (.cont chunkId) ++ (s.next (.cont chunkId)).stream _ = _
      rw [h.bytes, hrest.stream]
      rfl
    · change ∃ d, (s.completes (.cont chunkId)).toList ++
        (s.next (.cont chunkId)).deliveries _ = [d] ∧ _
      rw [hnone]
      exact hrest.deliveries
    · exact hrest.quiet

/-- A message goes out in its chunks. -/
theorem sends_chunksOf {fmt : Fmt} (hquiet : s.Quiet chunkSize) (hsize : 0 < chunkSize)
    (hid : 2 ≤ chunkId ∧ chunkId < 64) (htype : message.type ≠ 1)
    (hbody : message.body.length < 16777216) (hrange : fmt.InRange) (hfull : ¬fmt.Inherits)
    (hextended : fmt.extended (s.lane chunkId) = none) :
    Sends s chunkSize chunkId message (chunksOf chunkSize chunkId fmt message)
      (messageBytes chunkSize chunkId fmt message) := by
  have hstart : s.WellFormed (.start chunkId fmt message) :=
    ⟨hid, hquiet.pending chunkId, hbody, hrange, fun h ↦ absurd h htype, fun h ↦ absurd h hfull⟩
  have hbytes : s.bytes (.start chunkId fmt message) =
      basicHeader fmt.toNat chunkId :: (fmt.fields message ++ message.body.take chunkSize) := by
    change basicHeader fmt.toNat chunkId :: (fmt.fields message ++
      extendedBytes (fmt.extended (s.lane chunkId)) ++ message.body.take s.chunkSize) = _
    rw [hextended, hquiet.chunkSize]
    simp only [extendedBytes, List.append_nil]
  have hpending : (s.laneAfter (.start chunkId fmt message)).pending =
      message.body.drop chunkSize := by
    rw [← hquiet.chunkSize]
    rfl
  have hdiv := Nat.div_add_mod (message.body.length - 1) chunkSize
  have hmod := Nat.mod_lt (message.body.length - 1) hsize
  rw [Nat.mul_comm] at hdiv
  unfold chunksOf messageBytes
  generalize (message.body.length - 1) / chunkSize = pages at hdiv ⊢
  cases pages with
  | zero =>
    have hdone : (s.laneAfter (.start chunkId fmt message)).pending = [] := by
      rw [hpending]
      exact List.drop_eq_nil_of_le (by omega)
    constructor
    · exact ⟨hstart, trivial⟩
    · change s.bytes (.start chunkId fmt message) ++ [] = _
      rw [hbytes, List.append_nil, List.take_of_length_le (by omega)]
      rfl
    · exact ⟨_, deliveries_single hdone, rfl, rfl⟩
    · exact quiet_next hquiet.chunkSize _ rfl htype hdone fun i _ ↦ hquiet.pending i
  | succ pages =>
    have hpages : (pages + 1) * chunkSize = pages * chunkSize + chunkSize := Nat.succ_mul _ _
    have hlength : (message.body.drop chunkSize).length = message.body.length - chunkSize :=
      List.length_drop
    have hleft : (s.laneAfter (.start chunkId fmt message)).pending ≠ [] := by
      rw [hpending]
      exact List.length_pos_iff.1 (by omega)
    have hlane : (s.next (.start chunkId fmt message)).lane chunkId =
        (s.lane chunkId).start s.chunkSize fmt message := if_pos rfl
    have hmidway : Midway (s.next (.start chunkId fmt message)) chunkSize chunkId message
        (message.body.drop chunkSize) := by
      constructor
      · exact next_eq hquiet.chunkSize _ rfl htype
      · rw [hlane]
        rfl
      · rw [hlane]
        exact hextended
      · rw [hlane, ← hquiet.chunkSize]
        rfl
      · intro i hi
        exact (congrArg Lane.pending (if_neg hi)).trans (hquiet.pending i)
    have hrest := sends_conts hid htype pages hmidway (by omega) (by omega)
    have hnone : s.completes (.start chunkId fmt message) = none := if_neg hleft
    constructor
    · exact ⟨hstart, hrest.wellFormed⟩
    · change s.bytes (.start chunkId fmt message) ++ (s.next (.start chunkId fmt message)).stream _
        = _
      rw [hbytes, hrest.stream]
      simp only [blocks, List.cons_append, List.append_assoc]
    · change ∃ d, (s.completes (.start chunkId fmt message)).toList ++
        (s.next (.start chunkId fmt message)).deliveries _ = [d] ∧ _
      rw [hnone]
      exact hrest.deliveries
    · exact hrest.quiet

end

/-! ### Rows of messages -/

/-- A message with its chunk stream and the header that it starts with. -/
structure Outgoing where
  chunkId : Nat
  fmt : Fmt
  message : Message

/-- The chunks of the message. -/
def Outgoing.chunks (o : Outgoing) (chunkSize : Nat) : List Chunk :=
  chunksOf chunkSize o.chunkId o.fmt o.message

/-- The bytes of the message. -/
def Outgoing.bytes (o : Outgoing) (chunkSize : Nat) : List UInt8 :=
  messageBytes chunkSize o.chunkId o.fmt o.message

/-- The header names length and type and has no extended timestamp, and the message does not change
the chunk size. -/
structure Outgoing.Plain (o : Outgoing) : Prop where
  chunkId : 2 ≤ o.chunkId ∧ o.chunkId < 64
  type : o.message.type ≠ 1
  body : o.message.body.length < 16777216
  inRange : o.fmt.InRange
  full : ¬o.fmt.Inherits
  extended : ∀ l, o.fmt.extended l = none

/-- Messages that go out one behind the other. -/
theorem sends_row {s : Sender} {chunkSize : Nat} (hquiet : s.Quiet chunkSize)
    (hsize : 0 < chunkSize) {row : List Outgoing} (h : ∀ o ∈ row, o.Plain) :
    let chunks := row.flatMap (·.chunks chunkSize)
    s.Along Sender.WellFormed chunks ∧ s.stream chunks = row.flatMap (·.bytes chunkSize) ∧
      (s.deliveries chunks).map Delivery.message = row.map Outgoing.message ∧
      (s.after chunks).Quiet chunkSize := by
  induction row generalizing s with
  | nil => exact ⟨trivial, rfl, rfl, hquiet⟩
  | cons o rest ih =>
    have ho := h o List.mem_cons_self
    have hsends := sends_chunksOf hquiet hsize ho.chunkId ho.type ho.body ho.inRange ho.full
      (ho.extended _)
    obtain ⟨hw, hstream, hdeliveries, hafter⟩ :=
      ih hsends.quiet fun o' ho' ↦ h o' (List.mem_cons_of_mem _ ho')
    have hmessage : (s.deliveries (o.chunks chunkSize)).map Delivery.message = [o.message] := by
      obtain ⟨d, hd, -, hd'⟩ := hsends.deliveries
      rw [← hd', ← List.map_singleton, ← hd]
      rfl
    simp only [List.flatMap_cons, List.map_cons]
    refine ⟨hsends.wellFormed.append hw, ?_, ?_, ?_⟩
    · rw [Sender.stream_append]
      exact congrArg₂ (· ++ ·) hsends.stream hstream
    · rw [Sender.deliveries_append, List.map_append]
      exact congrArg₂ (· ++ ·) hmessage hdeliveries
    · rw [Sender.after_append]
      exact hafter

end RtmpRecv.Wire
