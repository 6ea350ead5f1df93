import RtmpRecv.Client.Output
import RtmpRecv.Client.Served
import RtmpRecv.Tots.Program

/-!
# The program that a run writes

Library `Client`. The output of a run is what its messages make of the output of the constructor.
Whatever a server sends, it is a transport stream with one program.
-/

namespace RtmpRecv.Client
open RtmpRecv.Base RtmpRecv.Tots RtmpRecv.Wire

/-! ### The output of a run -/

theorem media_of_application {c c' : RtmpClient} (h : c.application = c'.application) :
    c.media = c'.media := by
  have hself (c : RtmpClient) : c.application.media = c.media := rfl
  rw [← hself c, h, hself c']

theorem rtmpSavetots_of_media {c c' : RtmpClient} (h : c.media = c'.media) :
    c.rtmpSavetots = c'.rtmpSavetots :=
  congrArg MediaState.rtmpSavetots h

/-- The handshake leaves the output alone. -/
theorem media_handshake (c : RtmpClient) :
    (answered c).media = c.media ∧ (connecting c).media = c.media := by
  have hanswered (c : RtmpClient) : (answered c).media = c.media := by
    unfold answered rtmpSendToServerC2
    dsimp only [RtmpClient.time, RtmpClient.send]
    split
    · rfl
    · rfl
  refine ⟨hanswered c, Eq.trans ?_ (hanswered c)⟩
  unfold connecting rtmpSendToServerConnect
  dsimp only [RtmpClient.send]
  split
  · rfl
  · rfl

/-- The start leaves the output as the constructor made it. -/
theorem media_playing {u : RtmpClient} (h : (rtmpStartPlay (rtmpClient u)).1 = 0)
    (rtmpUrl rtmpApp rtmpStream : List UInt8) :
    (playing u rtmpUrl rtmpApp rtmpStream).media = (rtmpClient u).media := by
  unfold playing
  rw [rtmpStartPlay_eq ((rtmpStartPlay_newClient u rtmpUrl rtmpApp rtmpStream).trans h)]
  unfold rtmpSendToServerC0C1
  dsimp only [RtmpClient.time, RtmpClient.send]
  split
  · rfl
  · rfl

/-- The output of a run is what its messages make of that of the constructor. -/
theorem media_recvRun (u : RtmpClient) (h : (rtmpStartPlay (rtmpClient u)).1 = 0)
    (rtmpUrl rtmpApp rtmpStream : List UInt8) (mPBuffer : Mem) (segments : List (List UInt8)) :
    let c₀ := playing u rtmpUrl rtmpApp rtmpStream
    let c := (recvRun (rtmpRecvData c₀ mPBuffer) segments).client
    (connecting c₀).media = (rtmpClient u).media ∧
      ∃ inputs : List Input, inputs.map Input.message = c.rtmpMessages ∧
        c.media = (inputs.foldl RtmpClient.serve (connecting c₀)).media := by
  intro c₀ c
  have hstart : c₀.media = (rtmpClient u).media := media_playing h rtmpUrl rtmpApp rtmpStream
  obtain ⟨hanswered, hconnecting⟩ := media_handshake c₀
  refine ⟨hconnecting.trans hstart, ?_⟩
  rcases serves_recvRun u h rtmpUrl rtmpApp rtmpStream mPBuffer segments with
    ⟨hempty, happ⟩ | ⟨inputs, hinputs, happ⟩
  · refine ⟨[], hempty.symm, ?_⟩
    change c.media = (connecting c₀).media
    rcases happ with happ | happ | happ
    · exact (media_of_application happ).trans hconnecting.symm
    · exact ((media_of_application happ).trans hanswered).trans hconnecting.symm
    · exact media_of_application happ
  · exact ⟨inputs, hinputs, media_of_application happ⟩

/-- What every call of the muxer keeps holds behind every run. -/
theorem recvRun_keeps {P : RtmpTots → Prop}
    (hcall : ∀ (t : RtmpTots) (call : Call) (ret : Int) (t' : RtmpTots), P t → call.HeadGiven →
      call.result t = .ok (ret, t') → P t')
    (hfresh : ∀ pesBuf tsFp now, P (rtmpTots pesBuf tsFp now))
    (u : RtmpClient) (h : (rtmpStartPlay (rtmpClient u)).1 = 0)
    (rtmpUrl rtmpApp rtmpStream : List UInt8) (mPBuffer : Mem) (segments : List (List UInt8)) :
    P (recvRun (rtmpRecvData (playing u rtmpUrl rtmpApp rtmpStream) mPBuffer)
      segments).client.rtmpSavetots := by
  obtain ⟨hstart, inputs, -, hmedia⟩ :=
    media_recvRun u h rtmpUrl rtmpApp rtmpStream mPBuffer segments
  rw [rtmpSavetots_of_media hmedia]
  apply foldl_serve_keeps hcall
  rw [rtmpSavetots_of_media hstart]
  exact hfresh _ _ _

/-! ### The program -/

/-- Whatever a server sends and however it is cut, what the client has emitted is a transport stream
with one program, and the file holds all of it but less than seven packets. -/
theorem rtmpRecvData_program (u : RtmpClient) (h : (rtmpStartPlay (rtmpClient u)).1 = 0)
    (rtmpUrl rtmpApp rtmpStream : List UInt8) (mPBuffer : Mem) (segments : List (List UInt8)) :
    let t := (recvRun (rtmpRecvData (playing u rtmpUrl rtmpApp rtmpStream) mPBuffer)
      segments).client.rtmpSavetots
    TsProgram t.output.emitted ∧
      t.file.flatten = ((packets t.output.emitted).take
        (7 * ((packets t.output.emitted).length / 7))).flatten := by
  intro t
  have hannounces : ∃ ps, Announces t ps := by
    refine recvRun_keeps (P := fun t ↦ ∃ ps, Announces t ps) ?_ ?_ u h rtmpUrl rtmpApp rtmpStream
      mPBuffer segments
    · rintro t call ret t' ⟨ps, hps⟩ - hresult
      obtain ⟨qs, hqs⟩ := hps.call hresult
      exact ⟨ps ++ qs, hqs⟩
    · exact fun pesBuf tsFp now ↦ ⟨[], announces_rtmpTots pesBuf tsFp now⟩
  obtain ⟨ps, hps⟩ := hannounces
  exact ⟨hps.tsProgram, hps.file⟩

/-- A sequence header and a raw frame of an audio stream, one chunk each. -/
def aacMessages : List UInt8 :=
  [4, 0, 0, 0, 0, 0, 4, 8, 0, 0, 0, 0, 0xaf, 0, 0x12, 0x10,
    4, 0, 0, 40, 0, 0, 4, 8, 0, 0, 0, 0, 0xaf, 1, 0x21, 0x10]

/-- The program of an audio stream: two tables, and a frame in one packet. -/
theorem rtmpRecvData_program_aac :
    let t := (recvRun (rtmpRecvData (playing blankClient [] [] []) fun _ ↦ 0)
      [zeroHandshake, aacMessages]).client.rtmpSavetots
    (TsProgram t.output.emitted ∧
      t.file.flatten = ((packets t.output.emitted).take
        (7 * ((packets t.output.emitted).length / 7))).flatten) ∧
      t.tsCacheLen = 3 * 188 := by
  have hlen : (recvRun (rtmpRecvData (playing blankClient [] [] []) fun _ ↦ 0)
      [zeroHandshake, aacMessages]).client.rtmpSavetots.tsCacheLen = 3 * 188 := by
    decide +kernel
  exact ⟨rtmpRecvData_program blankClient (by decide) [] [] [] (fun _ ↦ 0)
    [zeroHandshake, aacMessages], hlen⟩

end RtmpRecv.Client
