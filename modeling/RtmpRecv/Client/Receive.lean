import RtmpRecv.Client.Chunk

/-!
# Receive loop

Library `Client`. Models `rtmp_recv_data` (`rtmp_lib.cpp:1231-1283`). A run is driven by the
results of `Receive`; one step is one round of the outer loop. `calls` is a history: the
calls of `rtmp_process_chunk` so far.
-/

namespace RtmpRecv.Client
open RtmpRecv.Base

/-- One call of `rtmp_process_chunk`: the client before it and its two arguments. -/
structure ChunkCall where
  client : RtmpClient
  bufdata : Mem
  datalen : Int

/-- The bytes received that the call is given. -/
def ChunkCall.window (call : ChunkCall) : List UInt8 := call.bufdata.slice 0 call.datalen.toNat

/-- The inner loop stopped: the last result of `rtmp_process_chunk` or the fault that ended
it, the client, the memory at `pos`, and the calls made. -/
structure LoopEnd where
  ret : Except Fault Int
  client : RtmpClient
  mem : Mem
  calls : List ChunkCall

/-- The inner `while(1)` on the memory at `pos` with `size` bytes received. -/
def chunkLoop : Nat → RtmpClient → Mem → Int → LoopEnd
  | 0, c, mem, _ => ⟨.error .diverged, c, mem, []⟩
  | fuel + 1, c, mem, size =>
    let datalen := size - c.mIParsePos
    let window := mem.shift c.mIParsePos.toNat
    let call : ChunkCall := ⟨c, window, datalen⟩
    let (ret, c, window) := rtmpProcessChunk c window datalen
    let mem := mem.splice call.client.mIParsePos.toNat window
    match ret with
    | .error e => ⟨.error e, c, mem, [call]⟩
    | .ok ret =>
      if ret = 0 then
        let rest := chunkLoop fuel c mem size
        { rest with calls := call :: rest.calls }
      else ⟨.ok ret, c, mem, [call]⟩

/-- The local state of `rtmp_recv_data` at the head of its loop. `running` turns false when
the function is left, `fault` tells whether a fault ended it. -/
structure RecvState where
  client : RtmpClient
  mPBuffer : Mem
  size : Int
  running : Bool
  fault : Option Fault
  calls : List ChunkCall

/-- The start of `rtmp_recv_data`. -/
def rtmpRecvData (c : RtmpClient) (mPBuffer : Mem) : RecvState :=
  { client := c, mPBuffer := mPBuffer, size := 0, running := true, fault := none, calls := [] }

/-- The length that the next call of `Receive` asks for. -/
def RecvState.requested (s : RecvState) : Int := maxBufLen - s.size

/-- A result of `Receive` that leaves the loop running: at least one byte and at most as many
as were asked for. -/
def RecvState.Accepts (s : RecvState) (bytes : List UInt8) : Prop :=
  0 < bytes.length ∧ (bytes.length : Int) ≤ s.requested

/-- The part of a round that looks for S0 and S1: `none` where a failed `Send` breaks the loop,
else the client, the offset `pos` and `size`. -/
def handshakeS0S1 (c : RtmpClient) (size : Int) : RtmpClient × Option (Nat × Int) :=
  if c.rtmpStatus = .waitS0S1 ∧ size ≥ 1537 then
    let (ret, c) := rtmpSendToServerC2 c
    if ret < 0 then (c, none) else (c, some (1537, size - 1537))
  else (c, some (0, size))

/-- The part of a round that looks for S2, at the offset `pos`. -/
def handshakeS2 (c : RtmpClient) (pos : Nat) (size : Int) : RtmpClient × Option (Nat × Int) :=
  if c.rtmpStatus = .waitS2 ∧ size ≥ 1536 then
    let (ret, c) := rtmpSendToServerConnect c
    if ret < 0 then (c, none) else (c, some (pos + 1536, size - 1536))
  else (c, some (pos, size))

/-- The part of a round that looks for S0, S1 and S2. -/
def handshake (c : RtmpClient) (size : Int) : RtmpClient × Option (Nat × Int) :=
  match handshakeS0S1 c size with
  | (c, none) => (c, none)
  | (c, some (pos, size)) => handshakeS2 c pos size

/-- The inner loop has stopped with `r`, on the memory `m` with the window at `pos`: more bytes are
wanted, and what is left over moves to the start of `m_pBuffer`, or the function is left. -/
def RecvState.afterLoop (s : RecvState) (m : Mem) (pos : Nat) (size : Int) (r : LoopEnd) :
    RecvState :=
  let m := m.splice pos r.mem
  let calls := s.calls ++ r.calls
  match r.ret with
  | .error e =>
    { client := r.client, mPBuffer := m, size := size, running := false
      fault := some e, calls := calls }
  | .ok ret =>
    if ret > 0 then
      let left := size - r.client.mIParsePos
      { client := r.client
        mPBuffer := m.memcpy 0 (m.slice (pos + r.client.mIParsePos.toNat) left.toNat)
        size := left, running := true, fault := none, calls := calls }
    else
      { client := r.client, mPBuffer := m, size := size, running := false
        fault := none, calls := calls }

/-- One round of `rtmp_recv_data` in which `Receive` stores `bytes`. -/
def recvStep (s : RecvState) (bytes : List UInt8) : RecvState :=
  if ¬s.running then s
  else
    let c := { s.client with mIParsePos := 0 }
    let m := s.mPBuffer.memcpy s.size.toNat bytes
    let size := s.size + bytes.length
    match handshake c size with
    | (c, none) => { s with client := c, mPBuffer := m, size := size, running := false }
    | (c, some (pos, size)) =>
      if c.rtmpStatus.toNat > RtmpStatus.waitChunk.toNat then
        s.afterLoop m pos size (chunkLoop (size.toNat + 1) c (m.shift pos) size)
      else { s with client := c, mPBuffer := m, size := size }

/-- A run over successive results of `Receive`. -/
def recvRun (s : RecvState) (segments : List (List UInt8)) : RecvState :=
  segments.foldl recvStep s

/-- Every segment of a run is a possible result of its `Receive`, as long as the loop runs. -/
def Segmentation : RecvState → List (List UInt8) → Prop
  | _, [] => True
  | s, bytes :: rest => (s.running → s.Accepts bytes) ∧ Segmentation (recvStep s bytes) rest

end RtmpRecv.Client
