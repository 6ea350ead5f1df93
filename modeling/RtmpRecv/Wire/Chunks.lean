import RtmpRecv.Base.Mem

/-!
# Chunk stream rules

Library `Wire`. The sending side of the RTMP chunk stream, stated on its own: which bytes a
chunk has, what a message that starts with a compressed header takes from the message before
it, and which messages are complete after a list of chunks. Nothing here is translated from
the client; it is what the client is compared with.
-/

namespace RtmpRecv.Wire
open RtmpRecv.Base

/-- A message: its type and its body. -/
structure Message where
  type : UInt8
  body : List UInt8
  deriving DecidableEq, Repr

/-- The header of the chunk that starts a message. `fmt0` carries the absolute timestamp and
the message stream id, `fmt1` and `fmt2` a timestamp delta. -/
inductive Fmt where
  | fmt0 (timestamp streamId : Nat)
  | fmt1 (delta : Nat)
  | fmt2 (delta : Nat)
  | fmt3
  deriving DecidableEq, Repr

/-- The two bits of the basic header. -/
def Fmt.toNat : Fmt → Nat
  | .fmt0 _ _ => 0
  | .fmt1 _ => 1
  | .fmt2 _ => 2
  | .fmt3 => 3

/-- The header leaves length and type out. -/
def Fmt.Inherits : Fmt → Prop
  | .fmt0 _ _ => False
  | .fmt1 _ => False
  | .fmt2 _ => True
  | .fmt3 => True

/-- A chunk: the first one of a message, or a further one of the message that is open on its
chunk stream. -/
inductive Chunk where
  | start (chunkId : Nat) (fmt : Fmt) (message : Message)
  | cont (chunkId : Nat)
  deriving DecidableEq, Repr

/-- What both sides remember of one chunk stream: its latest message with the header it
started with, the part of the body not sent yet, and the inherited values. `extended` is the
extended timestamp of the latest header that has one. -/
structure Lane where
  begun : Bool
  message : Message
  fmt : Fmt
  pending : List UInt8
  streamId : Nat
  timestamp : Nat
  delta : Nat
  extended : Option Nat

/-- A chunk stream without a message so far. -/
def Lane.idle : Lane :=
  { begun := false, message := ⟨0, []⟩, fmt := .fmt3, pending := [], streamId := 0
    timestamp := 0, delta := 0, extended := none }

/-- The state of the connection: its chunk streams, the chunk size, and for each message type
the timestamp of the latest message of that type that was started on any chunk stream. -/
structure Sender where
  lane : Nat → Lane
  chunkSize : Nat
  latest : UInt8 → Nat

/-- No message yet. -/
def Sender.init (chunkSize : Nat) (latest : UInt8 → Nat) : Sender :=
  { lane := fun _ ↦ Lane.idle, chunkSize := chunkSize, latest := latest }

/-- A message that was sent completely, with the header it started with and the message stream
id and timestamp that the rules give it. -/
structure Delivery where
  chunkId : Nat
  message : Message
  fmt : Fmt
  streamId : Nat
  timestamp : Nat
  deriving DecidableEq, Repr

/-! ### Bytes -/

/-- The one-byte basic header. -/
def basicHeader (fmt chunkId : Nat) : UInt8 := UInt8.ofNat (fmt * 64 + chunkId)

/-- The 24-bit time field. -/
def timeBytes (time : Nat) : List UInt8 := be24Bytes (if time < 0xffffff then time else 0xffffff)

/-- The value that does not fit in the time field. -/
def extendedOf (time : Nat) : Option Nat := if time < 0xffffff then none else some time

/-- The extended timestamp, if there is one. -/
def extendedBytes : Option Nat → List UInt8
  | none => []
  | some time => be32Bytes time

/-- The extended timestamp that a header leaves on its chunk stream. -/
def Fmt.extended (l : Lane) : Fmt → Option Nat
  | .fmt0 timestamp _ => extendedOf timestamp
  | .fmt1 delta => extendedOf delta
  | .fmt2 delta => extendedOf delta
  | .fmt3 => l.extended

/-- The fields of the message header. -/
def Fmt.fields (message : Message) : Fmt → List UInt8
  | .fmt0 timestamp streamId =>
    timeBytes timestamp ++ be24Bytes message.body.length ++ [message.type] ++
      (be32Bytes streamId).reverse
  | .fmt1 delta => timeBytes delta ++ be24Bytes message.body.length ++ [message.type]
  | .fmt2 delta => timeBytes delta
  | .fmt3 => []

/-- The bytes of a chunk: basic header, message header, extended timestamp, and as much of
the body as the chunk size allows. A further chunk repeats the extended timestamp. -/
def Sender.bytes (s : Sender) : Chunk → List UInt8
  | .start chunkId fmt message =>
    basicHeader fmt.toNat chunkId :: (fmt.fields message ++
      extendedBytes (fmt.extended (s.lane chunkId)) ++ message.body.take s.chunkSize)
  | .cont chunkId =>
    basicHeader 3 chunkId :: (extendedBytes (s.lane chunkId).extended ++
      (s.lane chunkId).pending.take s.chunkSize)

/-! ### Steps -/

/-- The message stream id of a message that starts with `fmt`. -/
def Fmt.streamId (l : Lane) : Fmt → Nat
  | .fmt0 _ streamId => streamId
  | _ => l.streamId

/-- The timestamp of a message that starts with `fmt`. -/
def Fmt.timestamp (l : Lane) : Fmt → Nat
  | .fmt0 timestamp _ => timestamp
  | .fmt1 delta => (l.timestamp + delta) % 4294967296
  | .fmt2 delta => (l.timestamp + delta) % 4294967296
  | .fmt3 => (l.timestamp + l.delta) % 4294967296

/-- The delta that a following `fmt3` start repeats. -/
def Fmt.delta (l : Lane) : Fmt → Nat
  | .fmt0 timestamp _ => timestamp
  | .fmt1 delta => delta
  | .fmt2 delta => delta
  | .fmt3 => l.delta

/-- A message starts and its first chunk is sent. -/
def Lane.start (l : Lane) (chunkSize : Nat) (fmt : Fmt) (message : Message) : Lane :=
  { begun := true
    message := message
    fmt := fmt
    pending := message.body.drop chunkSize
    streamId := fmt.streamId l
    timestamp := fmt.timestamp l
    delta := fmt.delta l
    extended := fmt.extended l }

/-- A further chunk of the open message is sent. -/
def Lane.cont (l : Lane) (chunkSize : Nat) : Lane :=
  { l with pending := l.pending.drop chunkSize }

/-- The chunk stream of a chunk. -/
def Chunk.chunkId : Chunk → Nat
  | .start chunkId _ _ => chunkId
  | .cont chunkId => chunkId

/-- The chunk stream after a chunk on it. -/
def Sender.laneAfter (s : Sender) : Chunk → Lane
  | .start chunkId fmt message => (s.lane chunkId).start s.chunkSize fmt message
  | .cont chunkId => (s.lane chunkId).cont s.chunkSize

/-- The value of a Set Chunk Size body. -/
def chunkSizeValue (body : List UInt8) : Nat :=
  be32 (body.getD 0 0) (body.getD 1 0) (body.getD 2 0) (body.getD 3 0)

/-- The message that a chunk completes. -/
def Sender.completes (s : Sender) (chunk : Chunk) : Option Delivery :=
  let l := s.laneAfter chunk
  if l.pending = [] then some ⟨chunk.chunkId, l.message, l.fmt, l.streamId, l.timestamp⟩
  else none

/-- The connection after a chunk. A complete Set Chunk Size message takes effect. -/
def Sender.next (s : Sender) (chunk : Chunk) : Sender :=
  { lane := fun i ↦ if i = chunk.chunkId then s.laneAfter chunk else s.lane i
    chunkSize := match s.completes chunk with
      | some d => if d.message.type = 1 then chunkSizeValue d.message.body else s.chunkSize
      | none => s.chunkSize
    latest := match chunk with
      | .start _ _ message =>
        fun type ↦ if type = message.type then (s.laneAfter chunk).timestamp else s.latest type
      | .cont _ => s.latest }

/-! ### Runs -/

/-- The bytes of a list of chunks. -/
def Sender.stream : Sender → List Chunk → List UInt8
  | _, [] => []
  | s, chunk :: rest => s.bytes chunk ++ (s.next chunk).stream rest

/-- The messages that a list of chunks completes, in order of completion. -/
def Sender.deliveries : Sender → List Chunk → List Delivery
  | _, [] => []
  | s, chunk :: rest => (s.completes chunk).toList ++ (s.next chunk).deliveries rest

/-- Every chunk of the list satisfies `p` in the state it is sent in. -/
def Sender.Along (p : Sender → Chunk → Prop) : Sender → List Chunk → Prop
  | _, [] => True
  | s, chunk :: rest => p s chunk ∧ (s.next chunk).Along p rest

/-- The time values of a header are 32-bit values. -/
def Fmt.InRange : Fmt → Prop
  | .fmt0 timestamp streamId => timestamp < 4294967296 ∧ streamId < 4294967296
  | .fmt1 delta => delta < 4294967296
  | .fmt2 delta => delta < 4294967296
  | .fmt3 => True

/-- The chunk may be sent: its chunk stream has a one-byte basic header, a message starts when
none is open there, a length is a 24-bit value, a Set Chunk Size message has a four-byte body
of value at least one, and a header without length and type repeats those of the message
before. -/
def Sender.WellFormed (s : Sender) : Chunk → Prop
  | .start chunkId fmt message =>
    (2 ≤ chunkId ∧ chunkId < 64) ∧ (s.lane chunkId).pending = [] ∧
      message.body.length < 16777216 ∧ fmt.InRange ∧
      (message.type = 1 → message.body.length = 4 ∧ 1 ≤ chunkSizeValue message.body) ∧
      (fmt.Inherits → (s.lane chunkId).begun = true ∧
        message.type = (s.lane chunkId).message.type ∧
        message.body.length = (s.lane chunkId).message.body.length)
  | .cont chunkId => (2 ≤ chunkId ∧ chunkId < 64) ∧ (s.lane chunkId).pending ≠ []

/-! ### Decidability -/

instance : (fmt : Fmt) → Decidable fmt.Inherits
  | .fmt0 _ _ => inferInstanceAs (Decidable False)
  | .fmt1 _ => inferInstanceAs (Decidable False)
  | .fmt2 _ => inferInstanceAs (Decidable True)
  | .fmt3 => inferInstanceAs (Decidable True)

instance : (fmt : Fmt) → Decidable fmt.InRange
  | .fmt0 timestamp streamId =>
    inferInstanceAs (Decidable (timestamp < 4294967296 ∧ streamId < 4294967296))
  | .fmt1 delta => inferInstanceAs (Decidable (delta < 4294967296))
  | .fmt2 delta => inferInstanceAs (Decidable (delta < 4294967296))
  | .fmt3 => inferInstanceAs (Decidable True)

instance (s : Sender) : (chunk : Chunk) → Decidable (s.WellFormed chunk)
  | .start chunkId fmt message =>
    inferInstanceAs (Decidable ((2 ≤ chunkId ∧ chunkId < 64) ∧ (s.lane chunkId).pending = [] ∧
      message.body.length < 16777216 ∧ fmt.InRange ∧
      (message.type = 1 → message.body.length = 4 ∧ 1 ≤ chunkSizeValue message.body) ∧
      (fmt.Inherits → (s.lane chunkId).begun = true ∧
        message.type = (s.lane chunkId).message.type ∧
        message.body.length = (s.lane chunkId).message.body.length)))
  | .cont chunkId =>
    inferInstanceAs (Decidable ((2 ≤ chunkId ∧ chunkId < 64) ∧ (s.lane chunkId).pending ≠ []))

instance Sender.decidableAlong (p : Sender → Chunk → Prop) [∀ s chunk, Decidable (p s chunk)] :
    ∀ s chunks, Decidable (Sender.Along p s chunks)
  | _, [] => isTrue trivial
  | s, chunk :: rest =>
    have : Decidable ((s.next chunk).Along p rest) := Sender.decidableAlong p _ rest
    inferInstanceAs (Decidable (p s chunk ∧ (s.next chunk).Along p rest))

/-! ### Facts about runs -/

/-- Every chunk has a basic header. -/
theorem Sender.length_bytes_pos (s : Sender) (chunk : Chunk) : 0 < (s.bytes chunk).length := by
  cases chunk <;> exact Nat.succ_pos _

/-- A stream has at least one byte for each chunk. -/
theorem Sender.length_le_stream (s : Sender) (chunks : List Chunk) :
    chunks.length ≤ (s.stream chunks).length := by
  induction chunks generalizing s with
  | nil => exact Nat.le_refl _
  | cons chunk rest ih =>
    have hpos := s.length_bytes_pos chunk
    have hrest := ih (s.next chunk)
    simp only [Sender.stream, List.length_cons, List.length_append]
    omega

theorem Sender.Along.mono {p q : Sender → Chunk → Prop} (h : ∀ s chunk, p s chunk → q s chunk)
    {s : Sender} {chunks : List Chunk} (ha : s.Along p chunks) : s.Along q chunks := by
  induction chunks generalizing s with
  | nil => trivial
  | cons chunk rest ih => exact ⟨h s chunk ha.1, ih ha.2⟩

end RtmpRecv.Wire
