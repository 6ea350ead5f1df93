import RtmpRecv.Client.Locality
import RtmpRecv.Client.Rounds

/-!
# The handshake in the receive loop

Library `Client`. A round of `rtmp_recv_data` by the phase that it starts in: the client waits for
S0 and S1, or for S2, or parses chunks.
-/

namespace RtmpRecv.Client
open RtmpRecv.Base

/-! ### The client of the handshake -/

theorem rewound_of_pos {c : RtmpClient} (h : c.mIParsePos = 0) : c.rewound = c := by
  unfold RtmpClient.rewound
  rw [← h]

/-- The client that has got S0 and S1 and has sent its answer. -/
def answered (c₀ : RtmpClient) : RtmpClient := (rtmpSendToServerC2 c₀).2

/-- The client that has got S2 too and has asked for a connection. -/
def connecting (c₀ : RtmpClient) : RtmpClient := (rtmpSendToServerConnect (answered c₀)).2

/-! ### Rounds -/

/-- A round behind the handshake, on the memory `m`. -/
def afterHandshake (s : RecvState) (m : Mem) (size : Int) :
    RtmpClient × Option (Nat × Int) → RecvState
  | (c, none) => { s with client := c, mPBuffer := m, size := size, running := false }
  | (c, some (pos, size)) =>
    if c.rtmpStatus.toNat > RtmpStatus.waitChunk.toNat then
      s.afterLoop m pos size (chunkLoop (size.toNat + 1) c (m.shift pos) size)
    else { s with client := c, mPBuffer := m, size := size }

theorem recvStep_eq {s : RecvState} (hr : s.running = true) (bytes : List UInt8) :
    recvStep s bytes =
      afterHandshake s (s.mPBuffer.memcpy s.size.toNat bytes) (s.size + bytes.length)
        (handshake s.client.rewound (s.size + bytes.length)) := by
  unfold recvStep
  rw [if_neg (not_not_intro hr)]
  dsimp only
  have hc : { s.client with mIParsePos := 0 } = s.client.rewound := rfl
  rw [hc]
  cases handshake s.client.rewound (s.size + bytes.length) with
  | mk c o =>
    cases o with
    | none => rfl
    | some p => rfl

/-- A client that is about to receive its first byte. -/
structure Fresh (c₀ : RtmpClient) : Prop where
  pos : c₀.mIParsePos = 0
  sound : Sound c₀
  status : c₀.rtmpStatus = .waitS0S1 ∨ c₀.rtmpStatus = .sendC0C1

section

variable {c₀ : RtmpClient}

theorem status_answered (hret : ¬(rtmpSendToServerC2 c₀).1 < 0) :
    (answered c₀).rtmpStatus = .waitS2 :=
  (sendC2_cases c₀).2.resolve_left hret

theorem status_connecting (hret : ¬(rtmpSendToServerConnect (answered c₀)).1 < 0) :
    RtmpStatus.waitChunk.toNat < (connecting c₀).rtmpStatus.toNat := by
  have hstatus := (sendConnect_cases (answered c₀)).2.resolve_left hret
  unfold connecting
  rw [hstatus]
  decide

theorem kept_connecting (c₀ : RtmpClient) : HandshakeKept c₀ (connecting c₀) :=
  (sendC2_cases c₀).1.trans (sendConnect_cases (answered c₀)).1

theorem sound_connecting (h : Fresh c₀) : Sound (connecting c₀) := by
  intro i
  rw [(kept_connecting c₀).chunk]
  exact h.sound i

theorem afterHandshake_parse {c : RtmpClient} (s : RecvState) (m : Mem) (n : Int)
    (pos : Nat) (size : Int) (hparse : RtmpStatus.waitChunk.toNat < c.rtmpStatus.toNat) :
    afterHandshake s m n (c, some (pos, size)) =
      s.afterLoop m pos size (chunkLoop (size.toNat + 1) c (m.shift pos) size) :=
  if_pos hparse

theorem afterHandshake_wait {c : RtmpClient} (s : RecvState) (m : Mem) (n : Int)
    (pos : Nat) (size : Int) (hwait : ¬RtmpStatus.waitChunk.toNat < c.rtmpStatus.toNat) :
    afterHandshake s m n (c, some (pos, size)) =
      { s with client := c, mPBuffer := m, size := size } :=
  if_neg hwait

theorem handshake_fails {n : Nat} (hstatus : c₀.rtmpStatus = .waitS0S1) (hn : 1537 ≤ n)
    (hret : (rtmpSendToServerC2 c₀).1 < 0) : handshake c₀ n = (answered c₀, none) := by
  unfold handshake handshakeS0S1 answered
  rw [if_pos ⟨hstatus, by omega⟩]
  generalize rtmpSendToServerC2 c₀ = out at hret ⊢
  dsimp only
  rw [if_pos hret]

theorem handshake_answers {n : Nat} (hstatus : c₀.rtmpStatus = .waitS0S1) (hn : 1537 ≤ n)
    (hret : ¬(rtmpSendToServerC2 c₀).1 < 0) :
    handshake c₀ n = handshakeS2 (answered c₀) 1537 (n - 1537) := by
  unfold handshake handshakeS0S1 answered
  rw [if_pos ⟨hstatus, by omega⟩]
  generalize rtmpSendToServerC2 c₀ = out at hret ⊢
  dsimp only
  rw [if_neg hret]

theorem handshake_waits {n : Int} (h2 : c₀.rtmpStatus ≠ .waitS2)
    (hn : c₀.rtmpStatus = .waitS0S1 → n < 1537) : handshake c₀ n = (c₀, some (0, n)) := by
  unfold handshake handshakeS0S1
  rw [if_neg fun h ↦ absurd (hn h.1) (by omega)]
  exact if_neg fun h ↦ h2 h.1

theorem handshake_answered {n : Int} (hret : ¬(rtmpSendToServerC2 c₀).1 < 0) :
    handshake (answered c₀) n = handshakeS2 (answered c₀) 0 n := by
  have hs2 := status_answered hret
  unfold handshake handshakeS0S1
  rw [if_neg]
  rintro ⟨hs, -⟩
  rw [hs2] at hs
  cases hs

end

/-- What a round does before it parses, with `n` bytes in the buffer: it waits for more of S0 and
S1 or of S2, sends what they ask for, or has done so in an earlier round. -/
inductive HandshakeStep (c : RtmpClient) (n : Int) : RtmpClient × Option (Nat × Int) → Prop where
  | waits (h : c.rtmpStatus = .sendC0C1 ∨ c.rtmpStatus = .waitS0S1 ∧ n < 1537 ∨
      c.rtmpStatus = .waitS2 ∧ n < 1536) : HandshakeStep c n (c, some (0, n))
  | notAnswered (hstatus : c.rtmpStatus = .waitS0S1) (hn : 1537 ≤ n)
      (hret : (rtmpSendToServerC2 c).1 < 0) : HandshakeStep c n (answered c, none)
  | answers (hstatus : c.rtmpStatus = .waitS0S1) (hn : 1537 ≤ n) (hn' : n < 3073)
      (hret : ¬(rtmpSendToServerC2 c).1 < 0) :
      HandshakeStep c n (answered c, some (1537, n - 1537))
  | notConnected (hstatus : c.rtmpStatus = .waitS0S1) (hn : 3073 ≤ n)
      (hret : ¬(rtmpSendToServerC2 c).1 < 0)
      (hret' : (rtmpSendToServerConnect (answered c)).1 < 0) :
      HandshakeStep c n (connecting c, none)
  | answersConnects (hstatus : c.rtmpStatus = .waitS0S1) (hn : 3073 ≤ n)
      (hret : ¬(rtmpSendToServerC2 c).1 < 0)
      (hret' : ¬(rtmpSendToServerConnect (answered c)).1 < 0) :
      HandshakeStep c n (connecting c, some (3073, n - 3073))
  | notConnectedLater (hstatus : c.rtmpStatus = .waitS2) (hn : 1536 ≤ n)
      (hret : (rtmpSendToServerConnect c).1 < 0) :
      HandshakeStep c n ((rtmpSendToServerConnect c).2, none)
  | connects (hstatus : c.rtmpStatus = .waitS2) (hn : 1536 ≤ n)
      (hret : ¬(rtmpSendToServerConnect c).1 < 0) :
      HandshakeStep c n ((rtmpSendToServerConnect c).2, some (1536, n - 1536))
  | parses (h : RtmpStatus.waitChunk.toNat < c.rtmpStatus.toNat) :
      HandshakeStep c n (c, some (0, n))

theorem handshakeS2_connects {c : RtmpClient} {pos : Nat} {n : Int}
    (hstatus : c.rtmpStatus = .waitS2)
    (hn : 1536 ≤ n) :
    handshakeS2 c pos n = ((rtmpSendToServerConnect c).2,
      if (rtmpSendToServerConnect c).1 < 0 then none else some (pos + 1536, n - 1536)) := by
  unfold handshakeS2
  rw [if_pos ⟨hstatus, hn⟩]
  generalize rtmpSendToServerConnect c = out
  dsimp only
  split
  · rfl
  · rfl

theorem handshakeS2_waits {c : RtmpClient} {pos : Nat} {n : Int}
    (h : c.rtmpStatus = .waitS2 → n < 1536) : handshakeS2 c pos n = (c, some (pos, n)) := by
  unfold handshakeS2
  rw [if_neg fun hs ↦ absurd (h hs.1) (by omega)]

/-- Every round does one of these. -/
theorem handshakeStep_handshake {c : RtmpClient} {n : Nat}
    (h : c.rtmpStatus = .waitS0S1 ∨ c.rtmpStatus = .sendC0C1 ∨ c.rtmpStatus = .waitS2 ∨
      RtmpStatus.waitChunk.toNat < c.rtmpStatus.toNat) :
    HandshakeStep c n (handshake c n) := by
  rcases h with hstatus | hstatus | hstatus | hparse
  · by_cases hn : 1537 ≤ n
    · by_cases hret : (rtmpSendToServerC2 c).1 < 0
      · rw [handshake_fails hstatus hn hret]
        exact .notAnswered hstatus (by omega) hret
      · rw [handshake_answers hstatus hn hret]
        have hs2 := status_answered hret
        by_cases hn' : 3073 ≤ n
        · rw [handshakeS2_connects hs2 (by omega)]
          by_cases hret' : (rtmpSendToServerConnect (answered c)).1 < 0
          · rw [if_pos hret']
            exact .notConnected hstatus (by omega) hret hret'
          · rw [if_neg hret', Int.sub_sub]
            exact .answersConnects hstatus (by omega) hret hret'
        · rw [handshakeS2_waits fun _ ↦ by omega]
          exact .answers hstatus (by omega) (by omega) hret
    · have hs2 : c.rtmpStatus ≠ .waitS2 := by
        rw [hstatus]
        decide
      rw [handshake_waits hs2 fun _ ↦ by omega]
      exact .waits (Or.inr (Or.inl ⟨hstatus, by omega⟩))
  · have hs2 : c.rtmpStatus ≠ .waitS2 := by
      rw [hstatus]
      decide
    rw [handshake_waits hs2 fun h ↦ by rw [hstatus] at h; cases h]
    exact .waits (Or.inl hstatus)
  · have hs : handshake c n = handshakeS2 c 0 n := by
      unfold handshake handshakeS0S1
      rw [if_neg]
      rintro ⟨h, -⟩
      rw [hstatus] at h
      cases h
    rw [hs]
    by_cases hn : 1536 ≤ n
    · rw [handshakeS2_connects hstatus (by omega)]
      by_cases hret : (rtmpSendToServerConnect c).1 < 0
      · rw [if_pos hret]
        exact .notConnectedLater hstatus (by omega) hret
      · rw [if_neg hret, Nat.zero_add]
        exact .connects hstatus (by omega) hret
    · rw [handshakeS2_waits fun _ ↦ by omega]
      exact .waits (Or.inr (Or.inr ⟨hstatus, by omega⟩))
  · rw [handshake_parsing c n hparse]
    exact .parses hparse

/-! ### Runs -/

theorem calls_recvRun (s : RecvState) (segments : List (List UInt8)) :
    s.calls <+: (recvRun s segments).calls := by
  induction segments generalizing s with
  | nil => exact List.prefix_refl _
  | cons bytes rest ih =>
    refine List.IsPrefix.trans ?_ (ih (recvStep s bytes))
    unfold recvStep
    dsimp only
    split
    · exact List.prefix_refl _
    · split
      · exact List.prefix_refl _
      · split
        · rw [RecvState.calls_afterLoop]
          exact List.prefix_append _ _
        · exact List.prefix_refl _

theorem recvRun_left {s : RecvState} (h : s.running = false)
    (segments : List (List UInt8)) : recvRun s segments = s := by
  induction segments with
  | nil => rfl
  | cons bytes rest ih =>
    have hstep : recvStep s bytes = s := by
      unfold recvStep
      rw [if_pos (by rw [h]; decide)]
    change recvRun (recvStep s bytes) rest = s
    rw [hstep, ih]

/-! ### The start -/

/-- The first message of the client: the status moves on unless `Send` fails. -/
theorem sendC0C1_cases (c : RtmpClient) :
    HandshakeKept c (rtmpSendToServerC0C1 c).2 ∧
      ((rtmpSendToServerC0C1 c).2.rtmpStatus = .waitS0S1 ∨
        (rtmpSendToServerC0C1 c).2.rtmpStatus = .sendC0C1) := by
  unfold rtmpSendToServerC0C1
  dsimp only [RtmpClient.time, RtmpClient.send]
  split
  · exact ⟨⟨rfl, rfl, rfl⟩, Or.inr rfl⟩
  · exact ⟨⟨rfl, rfl, rfl⟩, Or.inl rfl⟩

/-- A client that has started waits for its first byte. -/
theorem fresh_startPlay {c : RtmpClient} (h : (rtmpStartPlay c).1 = 0)
    (hidle : ∀ i, (c.rtmpChunk i).lastMessageSize = 0) : Fresh (rtmpStartPlay c).2.rewound := by
  obtain ⟨hk, hstatus⟩ := sendC0C1_cases { c with rtmpChunkMaxSize := 128 }
  rw [rtmpStartPlay_eq h]
  constructor
  · rfl
  · apply sound_of_idle
    intro i
    change ((rtmpSendToServerC0C1 _).2.rtmpChunk i).lastMessageSize = 0
    rw [hk.chunk]
    exact hidle i
  · exact hstatus

theorem fresh_playing {u : RtmpClient} (h : (rtmpStartPlay (rtmpClient u)).1 = 0)
    (rtmpUrl rtmpApp rtmpStream : List UInt8) :
    Fresh (playing u rtmpUrl rtmpApp rtmpStream).rewound :=
  fresh_startPlay ((rtmpStartPlay_newClient u rtmpUrl rtmpApp rtmpStream).trans h) fun _ ↦ rfl

/-- S0, S1 and S2 of a server whose bytes are all zero. -/
def zeroHandshake : List UInt8 := List.replicate 3073 0

end RtmpRecv.Client
