import RtmpRecv.Base.Double
import RtmpRecv.Client.Session

/-!
# The stream that is asked for

Library `Client`. The id in the answer to `createStream` crosses a double, an `int` and one byte
on its way into the header of `play`, and does not reach Set Buffer Length at all.
-/

namespace RtmpRecv.Client
open RtmpRecv.Base RtmpRecv.Amf0

/-- The message stream id of a chunk with a 12-byte header, least significant byte first. -/
def messageStreamId (packet : List UInt8) : Nat :=
  (packet.getD 8 0).toNat + (packet.getD 9 0).toNat * 256 + (packet.getD 10 0).toNat * 65536 +
    (packet.getD 11 0).toNat * 16777216

/-- The stream that a user control event behind an 8-byte header names. -/
def eventStreamId (packet : List UInt8) : Nat :=
  be32 (packet.getD 10 0) (packet.getD 11 0) (packet.getD 12 0) (packet.getD 13 0)

/-- The conversion of an id to `int` is exact. -/
theorem doubleToInt_natDouble {s : Nat} (hs : s < 2147483648) : doubleToInt (natDouble s) = s := by
  by_cases h0 : s = 0
  · subst h0
    decide
  · obtain ⟨hexponent, hfraction⟩ := natDouble_fields h0 (by omega)
    have hlog : s.log2 < 31 := (Nat.log2_lt h0).2 hs
    have hfield : natDouble s / 4503599627370496 % 2048 = 1023 + s.log2 := by
      rw [hexponent]
      omega
    have hsign : ¬natDouble s / 9223372036854775808 % 2 = 1 := by omega
    have hshift : 1075 - (1023 + s.log2) = 52 - s.log2 := by omega
    have hdiv : s * 2 ^ (52 - s.log2) / 2 ^ (52 - s.log2) = s :=
      Nat.mul_div_cancel s (Nat.two_pow_pos _)
    have hwhole : ¬1023 + s.log2 < 1023 := by omega
    have hsmall : 1023 + s.log2 < 1075 := by omega
    unfold doubleToInt
    dsimp only
    rw [hfield, hfraction, if_neg hsign, if_neg hwhole, if_pos hsmall, hshift, hdiv,
      if_pos (by omega)]

/-- The packet with `play` names the stream exactly when its id fits in a byte. -/
theorem messageStreamId_play {s : Nat} (hs : s < 4294967296) (messageLen : Nat)
    (body : List UInt8) :
    messageStreamId (streamHeader 0x08 0x14 messageLen
      (UInt8.ofNat (toUInt32 (doubleToInt (natDouble s)))) ++ body) = s ↔ s < 256 := by
  have hread (b : UInt8) : messageStreamId (streamHeader 0x08 0x14 messageLen b ++ body) =
      b.toNat := by
    have hbytes : messageStreamId (streamHeader 0x08 0x14 messageLen b ++ body) =
        b.toNat + 0 * 256 + 0 * 65536 + 0 * 16777216 := rfl
    rw [hbytes]
    omega
  rw [hread]
  constructor
  · intro h
    have hlt := UInt8.toNat_lt (UInt8.ofNat (toUInt32 (doubleToInt (natDouble s))))
    omega
  · intro hlt
    rw [doubleToInt_natDouble (by omega), toUInt32_of_nonneg s hs, UInt8.toNat_ofNat',
      Nat.mod_eq_of_lt hlt]

/-- The command is answered with the three packets, and `play` and Set Buffer Length name the
stream `s`. -/
def UsesStream (c : RtmpClient) (m : Mem) (dataLen : Int) (s : Nat) : Prop :=
  ∃ c' lengthRequest play event, (rtmpProcessCmd0x14 c dataLen).run m = (.ok (0, c'), m) ∧
    c'.sent = c.sent ++ [lengthRequest, play, event] ∧ messageStreamId play = s ∧
    eventStreamId event = s

/-- The packets of a client that asks for the stream. -/
private theorem sent_asking {c : RtmpClient} (hstream : c.rtmpStream.length ≤ 127) (id : Nat) :
    (asking c id).sent = c.sent ++
      [streamHeader 0x08 0x14 (getStreamLengthBody c.rtmpStream).length 0 ++
          getStreamLengthBody c.rtmpStream,
        streamHeader 0x08 0x14 (playBody c.rtmpStream).length
          (UInt8.ofNat (toUInt32 (doubleToInt id))) ++ playBody c.rtmpStream,
        headerBytes 0x42 0x04 setBufferLengthBody.length ++ setBufferLengthBody] := by
  have hsent : (asking c id).sent = c.sent ++ [getStreamLengthRequest c.rtmpStream] ++
      [playRequest id c.rtmpStream] ++ [setBufferLengthEvent] :=
    congrArg SessionState.sent (session_asking c id)
  rw [hsent, getStreamLengthRequest_eq hstream, playRequest_eq id hstream, setBufferLengthEvent_eq,
    List.append_assoc, List.append_assoc]
  rfl

section

variable {c : RtmpClient} {m : Mem} {dataLen : Int} {src s : Nat}

/-- The answer to `createStream` is taken. -/
private theorem run_answer (hstatus : c.rtmpStatus = .waitCreateStream)
    (hargs : resultArgs m dataLen = some src)
    (hid : streamIdAt m src (dataLen - src) = some (natDouble s)) :
    (rtmpProcessCmd0x14 c dataLen).run m = (.ok (0, asking c (natDouble s)), m) := by
  obtain ⟨r, hrun, hstep⟩ := run_processCmd c m dataLen
  rw [hrun]
  cases hstep with
  | other _ hnone => exact absurd (hargs.symm.trans hnone) nofun
  | late _ hlate => exact absurd hstatus hlate.2
  | connects _ hconnect => exact absurd (hstatus.symm.trans hconnect) nofun
  | refused hsome _ hnone =>
    cases hargs.symm.trans hsome
    exact absurd (hid.symm.trans hnone) nofun
  | asks hsome _ hsome' =>
    cases hargs.symm.trans hsome
    cases hid.symm.trans hsome'
    rfl

/-- Set Buffer Length always names stream 1. -/
private theorem eventStreamId_setBufferLength : eventStreamId
    (headerBytes 0x42 0x04 setBufferLengthBody.length ++ setBufferLengthBody) = 1 := by
  decide

private theorem eq_one_of_usesStream (hstatus : c.rtmpStatus = .waitCreateStream)
    (hstream : c.rtmpStream.length ≤ 127) (hargs : resultArgs m dataLen = some src)
    (hid : streamIdAt m src (dataLen - src) = some (natDouble s))
    (h : UsesStream c m dataLen s) : s = 1 := by
  obtain ⟨c', lengthRequest, play, event, hrun, hsent, -, hnamed⟩ := h
  rw [run_answer hstatus hargs hid] at hrun
  cases hrun
  rw [sent_asking hstream] at hsent
  have hpackets := List.append_cancel_left hsent
  injection hpackets with _ hpackets
  injection hpackets with _ hpackets
  injection hpackets with hpacket _
  rw [← hpacket, eventStreamId_setBufferLength] at hnamed
  exact hnamed.symm

/-- The packets behind the answer to `createStream` name its stream exactly when that is
stream 1. -/
theorem rtmpProcessCmd0x14_streamId (hstatus : c.rtmpStatus = .waitCreateStream)
    (hstream : c.rtmpStream.length ≤ 127) (hs : s < 4294967296)
    (hargs : resultArgs m dataLen = some src)
    (hid : streamIdAt m src (dataLen - src) = some (natDouble s)) :
    UsesStream c m dataLen s ↔ s = 1 := by
  constructor
  · exact eq_one_of_usesStream hstatus hstream hargs hid
  · intro hone
    have hplay := messageStreamId_play hs (playBody c.rtmpStream).length (playBody c.rtmpStream)
    have hevent := eventStreamId_setBufferLength
    refine ⟨asking c (natDouble s), _, _, _, run_answer hstatus hargs hid, sent_asking hstream _,
      hplay.2 (by omega), hevent.trans hone.symm⟩

end

/-- A client that waits for the answer to `createStream`. -/
def waitingClient : RtmpClient :=
  { blankClient with rtmpStatus := .waitCreateStream, rtmpStream := ascii "live" }

/-- The answer to `createStream` with the stream id `s`. -/
def createStreamAnswer (s : Nat) : Mem :=
  Mem.ofList (stringBytes (ascii "_result") ++ numberBytes 0x4000000000000000 ++ [0x05] ++
    numberBytes (natDouble s))

/-- The answer with stream 1. -/
theorem rtmpProcessCmd0x14_streamId_one :
    UsesStream waitingClient (createStreamAnswer 1) 29 1 ↔ 1 = 1 :=
  rtmpProcessCmd0x14_streamId rfl (by decide) (by decide)
    (show resultArgs (createStreamAnswer 1) 29 = some 10 by decide +kernel) (by decide +kernel)

/-- The answer with stream 2: Set Buffer Length does not name it. -/
theorem rtmpProcessCmd0x14_streamId_two :
    resultArgs (createStreamAnswer 2) 29 = some 10 ∧
      streamIdAt (createStreamAnswer 2) 10 (29 - 10) = some (natDouble 2) ∧
      ¬UsesStream waitingClient (createStreamAnswer 2) 29 2 := by
  have hargs : resultArgs (createStreamAnswer 2) 29 = some 10 := by decide +kernel
  have hid : streamIdAt (createStreamAnswer 2) 10 (29 - 10) = some (natDouble 2) := by
    decide +kernel
  refine ⟨hargs, hid, fun h ↦ ?_⟩
  have hone := eq_one_of_usesStream rfl (by decide) hargs hid h
  omega

end RtmpRecv.Client
