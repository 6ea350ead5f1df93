import RtmpRecv.Client.Receive

/-!
# What the handlers leave alone

Library `Client`. No handler reads or writes the parser's own fields, except that Set Chunk
Size stores the chunk size, and no handler writes past the end of the body it is given.
-/

namespace RtmpRecv.Client
open RtmpRecv.Base RtmpRecv.Tots RtmpRecv.Amf0

/-- The client with the fields of the chunk parser taken from `d`. -/
def RtmpClient.withParser (c d : RtmpClient) : RtmpClient :=
  { c with
    rtmpLastVideoTimestamp := d.rtmpLastVideoTimestamp
    rtmpLastAudioTimestamp := d.rtmpLastAudioTimestamp
    rtmpLastMessageType := d.rtmpLastMessageType
    rtmpChunkMaxSize := d.rtmpChunkMaxSize
    mIParsePos := d.mIParsePos
    rtmpChunk := d.rtmpChunk
    rtmpMessages := d.rtmpMessages }

/-- The status is that of `c` or one in which chunks are parsed. -/
def StatusFrom (c c' : RtmpClient) : Prop :=
  c'.rtmpStatus = c.rtmpStatus ∨ RtmpStatus.waitChunk.toNat < c'.rtmpStatus.toNat

/-- The results of a handler on `c` and on `c` with the parser's fields of `d`: it returns `0`
or `-1`, and the parser's fields stay apart from what it does. -/
structure Handled (c d : RtmpClient) (r r' : Int × RtmpClient) : Prop where
  ret : r.1 = 0 ∨ r.1 = -1
  status : StatusFrom c r.2
  parser : r' = (r.1, r.2.withParser d)

/-! ### Command handlers -/

private theorem handled_connectResult (c d : RtmpClient) :
    Handled c d (rtmpProcessCmd0x14ConnectResult c)
      (rtmpProcessCmd0x14ConnectResult (c.withParser d)) := by
  have hack : (c.withParser d).acknowledgementSize = c.acknowledgementSize := rfl
  have hcreate : RtmpStatus.waitChunk.toNat < RtmpStatus.waitCreateStream.toNat := by decide
  unfold rtmpProcessCmd0x14ConnectResult
  rw [hack]
  split
  · exact ⟨Or.inr rfl, Or.inl rfl, rfl⟩
  · split
    · exact ⟨Or.inr rfl, Or.inl rfl, rfl⟩
    · split
      · exact ⟨Or.inr rfl, Or.inl rfl, rfl⟩
      · exact ⟨Or.inl rfl, Or.inr hcreate, rfl⟩

private theorem handled_createStreamResult (c d : RtmpClient) (src : Nat) (dataLen : Int) :
    (rtmpProcessCmd0x14CreateStreamResult c src dataLen).Rel (Handled c d)
      (rtmpProcessCmd0x14CreateStreamResult (c.withParser d) src dataLen) := by
  have hplay : RtmpStatus.waitChunk.toNat < RtmpStatus.waitPlay.toNat := by decide
  unfold rtmpProcessCmd0x14CreateStreamResult
  refine Access.Rel.bind_same fun number ↦ ?_
  cases number with
  | none => exact .ret ⟨Or.inr rfl, Or.inl rfl, rfl⟩
  | some number =>
    refine Access.Rel.bind_same fun null ↦ ?_
    cases null with
    | none => exact .ret ⟨Or.inr rfl, Or.inl rfl, rfl⟩
    | some null =>
      refine Access.Rel.bind_same fun id ↦ ?_
      cases id with
      | none => exact .ret ⟨Or.inr rfl, Or.inl rfl, rfl⟩
      | some id => exact .ret ⟨Or.inl rfl, Or.inr hplay, rfl⟩

private theorem handled_cmd (c d : RtmpClient) (dataLen : Int) :
    (rtmpProcessCmd0x14 c dataLen).Rel (Handled c d)
      (rtmpProcessCmd0x14 (c.withParser d) dataLen) := by
  unfold rtmpProcessCmd0x14
  refine Access.Rel.bind_same fun name ↦ ?_
  cases name with
  | none => exact .ret ⟨Or.inr rfl, Or.inl rfl, rfl⟩
  | some name =>
    refine Access.Rel.ite (fun _ ↦ ?_) fun _ ↦ .ret ⟨Or.inl rfl, Or.inl rfl, rfl⟩
    refine Access.Rel.ite (fun _ ↦ .ret (handled_connectResult c d)) fun _ ↦ ?_
    exact Access.Rel.ite (fun _ ↦ handled_createStreamResult c d _ _)
      fun _ ↦ .ret ⟨Or.inl rfl, Or.inl rfl, rfl⟩

/-! ### Media handlers -/

/-- The decisions of a media handler on `c` and on `c` with the parser's fields of `d`. -/
inductive StepHandled (c d : RtmpClient) : MediaStep → MediaStep → Prop where
  | done (ret : Int) (c₁ : RtmpClient) (hr : ret = 0 ∨ ret = -1)
      (hs : c₁.rtmpStatus = c.rtmpStatus) :
      StepHandled c d (.done ret c₁) (.done ret (c₁.withParser d))
  | frame (pack : PackData) (c₁ : RtmpClient) (hs : c₁.rtmpStatus = c.rtmpStatus) :
      StepHandled c d (.frame pack c₁) (.frame pack (c₁.withParser d))

/-- Two clients that differ in the parser's fields alone, with the status of `c`. -/
def Apart (c d c₁ c₂ : RtmpClient) : Prop :=
  c₁.rtmpStatus = c.rtmpStatus ∧ c₂ = c₁.withParser d

private theorem apart_appendVideoHead {c d c₁ c₂ : RtmpClient} (h : Apart c d c₁ c₂)
    (bytes : List UInt8) :
    (appendVideoHead c₁ bytes).Rel (Apart c d) (appendVideoHead c₂ bytes) := by
  obtain ⟨hs, rfl⟩ := h
  unfold appendVideoHead
  exact Access.Rel.ite (fun _ ↦ .fail) fun _ ↦ .ret ⟨hs, rfl⟩

private theorem stepHandled_avcSequenceHeader (c d : RtmpClient) (ptr : Nat) (dataLen : Int) :
    (avcSequenceHeader c ptr dataLen).Rel (StepHandled c d)
      (avcSequenceHeader (c.withParser d) ptr dataLen) := by
  have rejected {c₁ c₂ : RtmpClient} (h : Apart c d c₁ c₂) :
      (Access.ret (.done (-1) c₁) : Access Fault MediaStep).Rel (StepHandled c d)
        (Access.ret (.done (-1) c₂)) := by
    obtain ⟨hs, rfl⟩ := h
    exact .ret (.done _ _ (Or.inr rfl) hs)
  unfold avcSequenceHeader
  refine Access.Rel.bind (apart_appendVideoHead (c := c) (d := d) ⟨?_, ?_⟩ _) fun c₁ k₁ h₁ ↦ ?_
  · rfl
  · rfl
  refine Access.Rel.ite (fun _ ↦ rejected h₁) fun _ ↦ ?_
  refine Access.Rel.bind_same fun spsLen ↦ ?_
  refine Access.Rel.ite (fun _ ↦ rejected h₁) fun _ ↦ ?_
  refine Access.Rel.bind_same fun sps ↦ ?_
  refine Access.Rel.bind (apart_appendVideoHead h₁ sps) fun c₂ k₂ h₂ ↦ ?_
  refine Access.Rel.bind (apart_appendVideoHead h₂ _) fun c₃ k₃ h₃ ↦ ?_
  refine Access.Rel.bind_same fun ppsLen ↦ ?_
  refine Access.Rel.ite (fun _ ↦ rejected h₃) fun _ ↦ ?_
  refine Access.Rel.bind_same fun pps ↦ ?_
  refine Access.Rel.bind (apart_appendVideoHead h₃ pps) fun c₄ k₄ h₄ ↦ ?_
  obtain ⟨hs, rfl⟩ := h₄
  exact .ret (.done _ _ (Or.inl rfl) hs)

private theorem stepHandled_videoFrame (c d : RtmpClient) (chunk : RtmpChunk) (dataLen : Int) :
    (rtmpProcessVideoFrame c chunk dataLen).Rel (StepHandled c d)
      (rtmpProcessVideoFrame (c.withParser d) chunk dataLen) := by
  unfold rtmpProcessVideoFrame
  refine Access.Rel.read fun tag ↦ ?_
  dsimp only [Access.ret_bind, Access.bind_eq]
  refine Access.Rel.ite (fun _ ↦ .ret (.done _ _ (Or.inr rfl) rfl)) fun _ ↦ ?_
  refine Access.Rel.read fun t0 ↦ Access.Rel.read fun t1 ↦ Access.Rel.read fun t2 ↦ ?_
  dsimp only [Access.ret_bind]
  refine Access.Rel.ite (fun _ ↦ ?_) fun _ ↦ ?_
  · refine Access.Rel.read fun packetType ↦ ?_
    dsimp only [Access.ret_bind]
    refine Access.Rel.ite (fun _ ↦ stepHandled_avcSequenceHeader c d _ _) fun _ ↦ ?_
    refine Access.Rel.bind_same fun ok ↦ ?_
    exact Access.Rel.ite (fun _ ↦ .ret (.frame _ _ rfl))
      fun _ ↦ .ret (.done _ _ (Or.inr rfl) rfl)
  · refine Access.Rel.bind_same fun ok ↦ ?_
    exact Access.Rel.ite (fun _ ↦ .ret (.frame _ _ rfl))
      fun _ ↦ .ret (.done _ _ (Or.inr rfl) rfl)

private theorem stepHandled_audioFrame (c d : RtmpClient) (chunk : RtmpChunk) (dataLen : Int) :
    (rtmpProcessAudioFrame c chunk dataLen).Rel (StepHandled c d)
      (rtmpProcessAudioFrame (c.withParser d) chunk dataLen) := by
  unfold rtmpProcessAudioFrame
  refine Access.Rel.read fun tag ↦ ?_
  dsimp only [Access.ret_bind, Access.bind_eq]
  refine Access.Rel.ite (fun _ ↦ ?_) fun _ ↦ .ret (.frame _ _ rfl)
  refine Access.Rel.read fun packetType ↦ ?_
  dsimp only [Access.ret_bind]
  refine Access.Rel.ite (fun _ ↦ .ret (.done _ _ (Or.inl rfl) rfl)) fun _ ↦ ?_
  refine Access.Rel.ite (fun _ ↦ ?_) fun _ ↦ .ret (.frame _ _ rfl)
  exact .read fun b2 ↦ .read fun b3 ↦ .ret (.done _ _ (Or.inl rfl) rfl)

private theorem apart_handToTots {c d c₁ c₂ : RtmpClient} (pack : PackData)
    (h : Apart c d c₁ c₂) : (handToTots pack c₁).Rel (Apart c d) (handToTots pack c₂) := by
  obtain ⟨hs, rfl⟩ := h
  unfold handToTots
  exact Access.Rel.bind_same fun r ↦ .ret ⟨hs, rfl⟩

private theorem handled_video (c d : RtmpClient) (chunk : RtmpChunk) (dataLen : Int) :
    (rtmpProcessVideo c chunk dataLen).Rel (Handled c d)
      (rtmpProcessVideo (c.withParser d) chunk dataLen) := by
  unfold rtmpProcessVideo
  refine Access.Rel.bind (stepHandled_videoFrame c d chunk dataLen) fun step step' h ↦ ?_
  cases h with
  | done ret c₁ hr hs => exact .ret ⟨hr, Or.inl hs, rfl⟩
  | frame pack c₁ hs =>
    refine Access.Rel.bind (apart_handToTots pack ⟨hs, rfl⟩) fun c₂ k₂ h₂ ↦ ?_
    obtain ⟨hs₂, rfl⟩ := h₂
    exact .ret ⟨Or.inl rfl, Or.inl hs₂, rfl⟩

private theorem handled_audio (c d : RtmpClient) (chunk : RtmpChunk) (dataLen : Int) :
    (rtmpProcessAudio c chunk dataLen).Rel (Handled c d)
      (rtmpProcessAudio (c.withParser d) chunk dataLen) := by
  unfold rtmpProcessAudio
  refine Access.Rel.bind (stepHandled_audioFrame c d chunk dataLen) fun step step' h ↦ ?_
  cases h with
  | done ret c₁ hr hs => exact .ret ⟨hr, Or.inl hs, rfl⟩
  | frame pack c₁ hs =>
    refine Access.Rel.bind (apart_handToTots (c := c) (d := d) _ ⟨?_, ?_⟩) fun c₂ k₂ h₂ ↦ ?_
    · exact hs
    · rfl
    · obtain ⟨hs₂, rfl⟩ := h₂
      exact .ret ⟨Or.inl rfl, Or.inl hs₂, rfl⟩

/-- A handler other than Set Chunk Size does the same whatever the parser's fields hold. -/
theorem handled_processMessage (c d : RtmpClient) (chunk : RtmpChunk) (dataLen : Int)
    (h : chunk.messageType ≠ 1) :
    (rtmpProcessMessage c chunk dataLen).Rel (Handled c d)
      (rtmpProcessMessage (c.withParser d) chunk dataLen) := by
  unfold rtmpProcessMessage
  split
  · contradiction
  · exact Access.Rel.bind_same fun _ ↦ .ret ⟨Or.inl rfl, Or.inl rfl, rfl⟩
  · exact Access.Rel.bind_same fun _ ↦ .ret ⟨Or.inl rfl, Or.inl rfl, rfl⟩
  · exact handled_audio c d chunk dataLen
  · exact handled_video c d chunk dataLen
  · exact handled_cmd c d dataLen
  · exact .ret ⟨Or.inl rfl, Or.inl rfl, rfl⟩

/-- Set Chunk Size stores the value of the first four bytes. -/
theorem run_setChunkSize (c : RtmpClient) (chunk : RtmpChunk) (dataLen : Int) (m : Mem)
    (h : chunk.messageType = 1) :
    (rtmpProcessMessage c chunk dataLen).run m =
      (.ok (0, { c with rtmpChunkMaxSize := be32 (m 0) (m 1) (m 2) (m 3) }), m) := by
  unfold rtmpProcessMessage
  rw [h]
  rfl

/-- A handler other than Set Chunk Size keeps the parser's fields, and returns `0` or `-1`. -/
theorem returns_processMessage (c : RtmpClient) (chunk : RtmpChunk) (dataLen : Int)
    (h : chunk.messageType ≠ 1) :
    (rtmpProcessMessage c chunk dataLen).Returns fun r ↦
      (r.1 = 0 ∨ r.1 = -1) ∧ StatusFrom c r.2 ∧ r.2 = r.2.withParser c := by
  have hr := (handled_processMessage c c chunk dataLen h).returns
  exact hr.mono fun r hr ↦ ⟨hr.ret, hr.status, congrArg Prod.snd hr.parser⟩

/-! ### Writes to the message -/

private theorem keepsFrom_pointer (p : Pointer) (i n : Nat) : (p.at i).KeepsFrom n := by
  cases p with
  | head m => exact Access.KeepsFrom.ret
  | data off => exact Access.KeepsFrom.read fun _ ↦ Access.KeepsFrom.ret

private theorem keepsFrom_popString (dstSize : Int) (src : Nat) (srcLen : Int) (n : Nat) :
    (rtmpAmf0PopString dstSize src srcLen : Access Fault _).KeepsFrom n := by
  unfold rtmpAmf0PopString
  split
  · exact Access.KeepsFrom.ret
  · refine Access.KeepsFrom.read fun b0 ↦ ?_
    dsimp only [Access.ret_bind]
    split
    · exact Access.KeepsFrom.ret
    · refine Access.KeepsFrom.read fun b1 ↦ Access.KeepsFrom.read fun b2 ↦ ?_
      dsimp only [Access.ret_bind]
      split
      · exact Access.KeepsFrom.ret
      · exact Access.KeepsFrom.bind Access.KeepsFrom.getList fun _ ↦ Access.KeepsFrom.ret

private theorem keepsFrom_popNumber (src : Nat) (srcLen : Int) (n : Nat) :
    (rtmpAmf0PopNumber src srcLen : Access Fault _).KeepsFrom n := by
  unfold rtmpAmf0PopNumber
  split
  · exact Access.KeepsFrom.ret
  · refine Access.KeepsFrom.read fun b0 ↦ ?_
    dsimp only [Access.ret_bind]
    split
    · exact Access.KeepsFrom.ret
    · exact Access.KeepsFrom.bind Access.KeepsFrom.getList fun _ ↦ Access.KeepsFrom.ret

private theorem keepsFrom_popNull (src : Nat) (srcLen : Int) (n : Nat) :
    (rtmpAmf0PopNull src srcLen : Access Fault _).KeepsFrom n := by
  unfold rtmpAmf0PopNull
  split
  · exact Access.KeepsFrom.ret
  · refine Access.KeepsFrom.read fun b0 ↦ ?_
    dsimp only [Access.ret_bind]
    split
    · exact Access.KeepsFrom.ret
    · exact Access.KeepsFrom.ret

private theorem keepsFrom_cmd (c : RtmpClient) (dataLen : Int) (n : Nat) :
    (rtmpProcessCmd0x14 c dataLen).KeepsFrom n := by
  unfold rtmpProcessCmd0x14
  refine Access.KeepsFrom.bind (keepsFrom_popString _ _ _ n) fun name ↦ ?_
  split
  · exact Access.KeepsFrom.ret
  · split
    · split
      · exact Access.KeepsFrom.ret
      · split
        · unfold rtmpProcessCmd0x14CreateStreamResult
          refine Access.KeepsFrom.bind (keepsFrom_popNumber _ _ n) fun number ↦ ?_
          split
          · exact Access.KeepsFrom.ret
          · refine Access.KeepsFrom.bind (keepsFrom_popNull _ _ n) fun null ↦ ?_
            split
            · exact Access.KeepsFrom.ret
            · refine Access.KeepsFrom.bind (keepsFrom_popNumber _ _ n) fun id ↦ ?_
              split
              · exact Access.KeepsFrom.ret
              · exact Access.KeepsFrom.ret
        · exact Access.KeepsFrom.ret
    · exact Access.KeepsFrom.ret

private theorem keepsFrom_copyToPes (t : RtmpTots) (off : Nat) (bytes : List UInt8) (n : Nat) :
    (copyToPes t off bytes).KeepsFrom n := by
  unfold copyToPes
  split
  · exact Access.KeepsFrom.fail
  · exact Access.KeepsFrom.ret

private theorem keepsFrom_copyHead (t : RtmpTots) (off : Nat) (pack : PackData) (n : Nat) :
    (copyHead t off pack).KeepsFrom n := by
  unfold copyHead
  split
  · split
    · exact Access.KeepsFrom.fail
    · exact keepsFrom_copyToPes _ _ _ n
  · exact Access.KeepsFrom.ret

private theorem keepsFrom_copyFrame (t : RtmpTots) (off : Nat) (pack : PackData) (n : Nat) :
    (copyFrame t off pack).KeepsFrom n := by
  unfold copyFrame
  refine Access.KeepsFrom.bind (keepsFrom_copyHead _ _ _ n) fun t₁ ↦ ?_
  split
  · exact Access.KeepsFrom.fail
  · exact Access.KeepsFrom.bind Access.KeepsFrom.getList fun _ ↦ keepsFrom_copyToPes _ _ _ n

private theorem keepsFrom_sendPes (now pts : Nat) (t : RtmpTots) (n : Nat) :
    (sendPes now pts t).KeepsFrom n := by
  unfold sendPes
  split
  · exact Access.KeepsFrom.fail
  · exact Access.KeepsFrom.ret

private theorem keepsFrom_lacksDelimiter (unitType : EsUnitStartType) (p : Pointer) (n : Nat) :
    (lacksDelimiter unitType p).KeepsFrom n := by
  unfold lacksDelimiter
  split
  · exact Access.KeepsFrom.bind (keepsFrom_pointer p 3 n) fun _ ↦ Access.KeepsFrom.ret
  · exact Access.KeepsFrom.bind (keepsFrom_pointer p 4 n) fun _ ↦ Access.KeepsFrom.ret
  · exact Access.KeepsFrom.ret

private theorem keepsFrom_unitStartType (p : Pointer) (n : Nat) :
    (unitStartType p).KeepsFrom n := by
  have h0 := fun i ↦ keepsFrom_pointer p i n
  unfold unitStartType
  repeat' first
    | exact Access.KeepsFrom.ret
    | refine Access.KeepsFrom.bind (h0 _) fun _ ↦ ?_
    | split

/-- The muxer reads the message and never writes to it. -/
theorem keepsFrom_packetFromCache (now : Nat) (pack : PackData) (t : RtmpTots) (n : Nat) :
    (rtmpTotsPacketFromCache now pack t).KeepsFrom n := by
  unfold rtmpTotsPacketFromCache
  refine Access.KeepsFrom.bind (keepsFrom_unitStartType _ n) fun unitType ↦ ?_
  split
  · unfold rtmpTotsPacketPesAudioHeader
    refine Access.KeepsFrom.bind (keepsFrom_copyToPes _ _ _ n) fun t₁ ↦ ?_
    split
    · exact Access.KeepsFrom.ret
    · exact Access.KeepsFrom.bind (keepsFrom_copyFrame _ _ _ n) fun _ ↦ keepsFrom_sendPes _ _ _ n
  · unfold rtmpTotsPacketPesVideoHeader
    refine Access.KeepsFrom.bind (keepsFrom_copyToPes _ _ _ n) fun t₁ ↦ ?_
    refine Access.KeepsFrom.bind (keepsFrom_copyToPes _ _ _ n) fun t₂ ↦ ?_
    split
    · exact Access.KeepsFrom.ret
    · refine Access.KeepsFrom.bind (keepsFrom_lacksDelimiter _ _ n) fun lacks ↦ ?_
      split
      · refine Access.KeepsFrom.bind (keepsFrom_copyToPes _ _ _ n) fun t₃ ↦ ?_
        exact Access.KeepsFrom.bind (keepsFrom_copyFrame _ _ _ n)
          fun _ ↦ keepsFrom_sendPes _ _ _ n
      · exact Access.KeepsFrom.bind (keepsFrom_copyFrame _ _ _ n)
          fun _ ↦ keepsFrom_sendPes _ _ _ n
  · exact Access.KeepsFrom.ret

private theorem keepsFrom_handToTots (pack : PackData) (c : RtmpClient) (n : Nat) :
    (handToTots pack c).KeepsFrom n := by
  unfold handToTots
  exact Access.KeepsFrom.bind (keepsFrom_packetFromCache _ _ _ n) fun _ ↦ Access.KeepsFrom.ret

private theorem keepsFrom_loadSwap4 (off n : Nat) : (loadSwap4 off).KeepsFrom n :=
  Access.KeepsFrom.read fun _ ↦ Access.KeepsFrom.read fun _ ↦ Access.KeepsFrom.read
    fun _ ↦ Access.KeepsFrom.read fun _ ↦ Access.KeepsFrom.ret

private theorem keepsFrom_putStartCode (off n : Nat) (h : off + 4 ≤ n) :
    (putStartCode off).KeepsFrom n :=
  Access.KeepsFrom.write (by omega) (Access.KeepsFrom.write (by omega)
    (Access.KeepsFrom.write (by omega) (Access.KeepsFrom.write (by omega) Access.KeepsFrom.ret)))

/-- The unit loop writes inside the data it walks over. -/
theorem keepsFrom_nalLoop (fuel ptr : Nat) (dataLen : Int) :
    (nalLoop fuel ptr dataLen).KeepsFrom (ptr + dataLen.toNat) := by
  induction fuel generalizing ptr dataLen with
  | zero =>
    unfold nalLoop
    split
    · exact Access.KeepsFrom.fail
    · exact Access.KeepsFrom.ret
  | succ fuel ih =>
    unfold nalLoop
    split
    · next h =>
      refine Access.KeepsFrom.bind (keepsFrom_loadSwap4 _ _) fun len ↦ ?_
      split
      · exact Access.KeepsFrom.ret
      · next hs =>
        refine Access.KeepsFrom.bind (keepsFrom_putStartCode _ _ (by omega)) fun _ ↦ ?_
        -- the walk keeps the end `ptr + dataLen` of the data
        have hle := toUInt32_le dataLen (by omega)
        have he : ptr + dataLen.toNat =
            ptr + nalAdvance len + (dataLen - nalAdvance len).toNat := by omega
        rw [he]
        exact ih _ _
    · exact Access.KeepsFrom.ret

private theorem keepsFrom_appendVideoHead (c : RtmpClient) (bytes : List UInt8) (n : Nat) :
    (appendVideoHead c bytes).KeepsFrom n := by
  unfold appendVideoHead
  split
  · exact Access.KeepsFrom.fail
  · exact Access.KeepsFrom.ret

private theorem keepsFrom_loadSwap2 (off n : Nat) : (loadSwap2 off).KeepsFrom n :=
  Access.KeepsFrom.read fun _ ↦ Access.KeepsFrom.read fun _ ↦ Access.KeepsFrom.ret

private theorem keepsFrom_avcSequenceHeader (c : RtmpClient) (ptr : Nat) (dataLen : Int)
    (n : Nat) : (avcSequenceHeader c ptr dataLen).KeepsFrom n := by
  unfold avcSequenceHeader
  refine Access.KeepsFrom.bind (keepsFrom_appendVideoHead _ _ n) fun c₁ ↦ ?_
  split
  · exact Access.KeepsFrom.ret
  · refine Access.KeepsFrom.bind (keepsFrom_loadSwap2 _ n) fun spsLen ↦ ?_
    split
    · exact Access.KeepsFrom.ret
    · refine Access.KeepsFrom.bind Access.KeepsFrom.getList fun sps ↦ ?_
      refine Access.KeepsFrom.bind (keepsFrom_appendVideoHead _ _ n) fun c₂ ↦ ?_
      refine Access.KeepsFrom.bind (keepsFrom_appendVideoHead _ _ n) fun c₃ ↦ ?_
      refine Access.KeepsFrom.bind (keepsFrom_loadSwap2 _ n) fun ppsLen ↦ ?_
      split
      · exact Access.KeepsFrom.ret
      · refine Access.KeepsFrom.bind Access.KeepsFrom.getList fun pps ↦ ?_
        exact Access.KeepsFrom.bind (keepsFrom_appendVideoHead _ _ n)
          fun c₄ ↦ Access.KeepsFrom.ret

private theorem keepsFrom_frameOfLoop (pack : PackData) (c : RtmpClient) (dataLen : Int) (n : Nat)
    (h : dataLen.toNat ≤ n) :
    ((nalLoop (nalFuel (dataLen - 5)) 5 (dataLen - 5)).bind fun ok ↦
      if ok = true then (Access.ret (MediaStep.frame pack c) : Access Fault MediaStep)
      else Access.ret (MediaStep.done (-1) c)).KeepsFrom n := by
  refine Access.KeepsFrom.bind ?_ fun ok ↦ ?_
  · by_cases hd : dataLen - 5 > 4
    · intro m i hi
      exact keepsFrom_nalLoop _ _ _ m i (by omega)
    · unfold nalLoop
      rw [if_neg hd]
      exact Access.KeepsFrom.ret
  · split
    · exact Access.KeepsFrom.ret
    · exact Access.KeepsFrom.ret

private theorem keepsFrom_videoFrame (c : RtmpClient) (chunk : RtmpChunk) (dataLen : Int)
    (n : Nat) (h : dataLen.toNat ≤ n) :
    (rtmpProcessVideoFrame c chunk dataLen).KeepsFrom n := by
  unfold rtmpProcessVideoFrame
  refine Access.KeepsFrom.read fun tag ↦ ?_
  dsimp only [Access.ret_bind, Access.bind_eq]
  split
  · exact Access.KeepsFrom.ret
  · refine Access.KeepsFrom.read fun t0 ↦ Access.KeepsFrom.read fun t1 ↦
      Access.KeepsFrom.read fun t2 ↦ ?_
    dsimp only [Access.ret_bind]
    split
    · refine Access.KeepsFrom.read fun packetType ↦ ?_
      dsimp only [Access.ret_bind]
      split
      · exact keepsFrom_avcSequenceHeader c _ _ n
      · exact keepsFrom_frameOfLoop _ c dataLen n h
    · exact keepsFrom_frameOfLoop _ c dataLen n h

private theorem keepsFrom_audioFrame (c : RtmpClient) (chunk : RtmpChunk) (dataLen : Int)
    (n : Nat) : (rtmpProcessAudioFrame c chunk dataLen).KeepsFrom n := by
  unfold rtmpProcessAudioFrame
  refine Access.KeepsFrom.read fun tag ↦ ?_
  dsimp only [Access.ret_bind, Access.bind_eq]
  split
  · refine Access.KeepsFrom.read fun packetType ↦ ?_
    dsimp only [Access.ret_bind]
    split
    · exact Access.KeepsFrom.ret
    · split
      · exact Access.KeepsFrom.read fun b2 ↦ Access.KeepsFrom.read fun b3 ↦
          Access.KeepsFrom.ret
      · exact Access.KeepsFrom.ret
  · exact Access.KeepsFrom.ret

/-- A handler writes only inside the body it is given. -/
theorem keepsFrom_processMessage (c : RtmpClient) (chunk : RtmpChunk) (dataLen : Int) :
    (rtmpProcessMessage c chunk dataLen).KeepsFrom dataLen.toNat := by
  have hv : controlValue.KeepsFrom dataLen.toNat :=
    Access.KeepsFrom.read fun _ ↦ Access.KeepsFrom.read fun _ ↦ Access.KeepsFrom.read
      fun _ ↦ Access.KeepsFrom.read fun _ ↦ Access.KeepsFrom.ret
  unfold rtmpProcessMessage
  split
  · exact Access.KeepsFrom.bind hv fun _ ↦ Access.KeepsFrom.ret
  · exact Access.KeepsFrom.bind hv fun _ ↦ Access.KeepsFrom.ret
  · exact Access.KeepsFrom.bind hv fun _ ↦ Access.KeepsFrom.ret
  · unfold rtmpProcessAudio
    refine Access.KeepsFrom.bind (keepsFrom_audioFrame _ _ _ _) fun step ↦ ?_
    split
    · exact Access.KeepsFrom.ret
    · exact Access.KeepsFrom.bind (keepsFrom_handToTots _ _ _) fun _ ↦ Access.KeepsFrom.ret
  · unfold rtmpProcessVideo
    refine Access.KeepsFrom.bind (keepsFrom_videoFrame _ _ _ _ (Nat.le_refl _)) fun step ↦ ?_
    split
    · exact Access.KeepsFrom.ret
    · exact Access.KeepsFrom.bind (keepsFrom_handToTots _ _ _) fun _ ↦ Access.KeepsFrom.ret
  · exact keepsFrom_cmd c dataLen _
  · exact Access.KeepsFrom.ret

end RtmpRecv.Client
