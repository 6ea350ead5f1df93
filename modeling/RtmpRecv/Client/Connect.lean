import RtmpRecv.Base.Double
import RtmpRecv.Client.Split
import RtmpRecv.Client.Writers
import RtmpRecv.Wire.Amf0

/-!
# The request connect

Library `Client`. What `rtmp_send_to_server_connect` puts into its buffer, what the splitter makes
of it, and what a reader of the bytes that are sent gets.
-/

namespace RtmpRecv.Client
open RtmpRecv.Base RtmpRecv.Amf0 RtmpRecv.Wire

/-! ### Rows of pushes -/

/-- The push stores these bytes wherever it finds room for them. -/
def PushStores (f : Mem → Int → Int × Mem) (src : List UInt8) : Prop :=
  ∀ room : Int, src.length ≤ room → f (Mem.ofList []) room = ((src.length : Int), Mem.ofList src)

theorem pushStores_string {s : List UInt8} (hs : s.length ≤ 0xffff) :
    PushStores (fun dst n ↦ rtmpAmf0PushString dst n s) (stringBytes s) := by
  intro room h
  rw [length_stringBytes] at h
  exact push_string (by omega) hs

theorem pushStores_number (value : Nat) :
    PushStores (fun dst n ↦ rtmpAmf0PushNumber dst n value) (numberBytes value) :=
  fun _ h ↦ push_number h

theorem pushStores_propName {name : List UInt8} (hn : name.length ≤ 0xffff) :
    PushStores (fun dst n ↦ rtmpAmf0PushObjectPropName dst n name) (propNameBytes name) := by
  intro room h
  rw [length_propNameBytes] at h
  exact push_propName (by omega) hn

theorem pushStores_bool (value : Int) :
    PushStores (fun dst n ↦ rtmpAmf0PushBool dst n value) (boolBytes value) :=
  fun _ h ↦ push_bool h value

theorem pushStores_objectHeader : PushStores rtmpAmf0PushObjectHeader [0x03] :=
  fun _ h ↦ push_objectHeader h

theorem pushStores_objectEnder : PushStores rtmpAmf0PushObjectEnder [0x00, 0x00, 0x09] :=
  fun _ h ↦ push_objectEnder h

namespace Writer

/-- No push of the row returns `-1`. -/
def PushesFit : List (Mem → Int → Int × Mem) → Writer → Prop
  | [], _ => True
  | f :: fs, w =>
    (f (w.buf.shift w.dataPtr.toNat) (w.size - w.dataPtr)).1 ≠ -1 ∧ PushesFit fs (w.push f)

/-- A row of pushes with room for all of them stores their bytes one behind the other. -/
theorem pushes_holding {size : Int} {fs : List (Mem → Int → Int × Mem)}
    {srcs : List (List UInt8)} (h : List.Forall₂ PushStores fs srcs) {bytes : List UInt8}
    (hroom : ((bytes ++ srcs.flatten).length : Int) ≤ size) :
    PushesFit fs (holding size bytes) ∧
      fs.foldl Writer.push (holding size bytes) = holding size (bytes ++ srcs.flatten) := by
  induction h generalizing bytes with
  | nil =>
    rw [List.flatten_nil, List.append_nil]
    exact ⟨trivial, rfl⟩
  | @cons f src fs srcs hf _ ih =>
    rw [List.flatten_cons, ← List.append_assoc] at hroom ⊢
    have hlen : (src.length : Int) ≤ size - bytes.length := by
      rw [List.length_append, List.length_append] at hroom
      omega
    have hstored := hf (size - bytes.length) hlen
    obtain ⟨hfit, hfold⟩ := ih hroom
    have hpush := push_holding hstored
    rw [List.foldl_cons, hpush]
    refine ⟨⟨?_, ?_⟩, hfold⟩
    · change (f ((Mem.ofList bytes).shift bytes.length) (size - bytes.length)).1 ≠ -1
      rw [Mem.shift_ofList, hstored]
      dsimp only
      omega
    · rw [hpush]
      exact hfit

end Writer

/-! ### The message -/

/-- The pushes of `rtmp_send_to_server_connect`, in order. -/
def connectPushes (rtmpApp rtmpUrl : List UInt8) : List (Mem → Int → Int × Mem) :=
  [fun dst n ↦ rtmpAmf0PushString dst n (ascii "connect"),
    fun dst n ↦ rtmpAmf0PushNumber dst n 0x3ff0000000000000,
    rtmpAmf0PushObjectHeader,
    fun dst n ↦ rtmpAmf0PushObjectPropName dst n (ascii "app"),
    fun dst n ↦ rtmpAmf0PushString dst n rtmpApp,
    fun dst n ↦ rtmpAmf0PushObjectPropName dst n (ascii "flashVer"),
    fun dst n ↦ rtmpAmf0PushString dst n (ascii "LNX 9,0,124,2"),
    fun dst n ↦ rtmpAmf0PushObjectPropName dst n (ascii "tcUrl"),
    fun dst n ↦ rtmpAmf0PushString dst n rtmpUrl,
    fun dst n ↦ rtmpAmf0PushObjectPropName dst n (ascii "fpad"),
    fun dst n ↦ rtmpAmf0PushBool dst n 0,
    fun dst n ↦ rtmpAmf0PushObjectPropName dst n (ascii "capabilities"),
    fun dst n ↦ rtmpAmf0PushNumber dst n 0x402e000000000000,
    fun dst n ↦ rtmpAmf0PushObjectPropName dst n (ascii "audioCodecs"),
    fun dst n ↦ rtmpAmf0PushNumber dst n 0x40afce0000000000,
    fun dst n ↦ rtmpAmf0PushObjectPropName dst n (ascii "videoCodecs"),
    fun dst n ↦ rtmpAmf0PushNumber dst n 0x406f800000000000,
    fun dst n ↦ rtmpAmf0PushObjectPropName dst n (ascii "videoFunction"),
    fun dst n ↦ rtmpAmf0PushNumber dst n 0x3ff0000000000000,
    rtmpAmf0PushObjectEnder]

/-- The values of the message. -/
def connectValues (rtmpApp rtmpUrl : List UInt8) : List Amf0Value :=
  [.string (ascii "connect"), .number (natDouble 1), .object (.ofList
    [(ascii "app", .string rtmpApp), (ascii "flashVer", .string (ascii "LNX 9,0,124,2")),
      (ascii "tcUrl", .string rtmpUrl), (ascii "fpad", .boolean false),
      (ascii "capabilities", .number (natDouble 15)),
      (ascii "audioCodecs", .number (natDouble 4071)),
      (ascii "videoCodecs", .number (natDouble 252)),
      (ascii "videoFunction", .number (natDouble 1))])]

/-- The message is what its pushes make of the header, with the length patched in behind them. -/
theorem connectPacket_pushes (rtmpApp rtmpUrl : List UInt8) :
    connectPacket rtmpApp rtmpUrl =
      ((connectPushes rtmpApp rtmpUrl).foldl Writer.push
        ((startHeader (1024 * 5) 0x03 0x14).skip 4)).patchMessageLen 12 := by
  simp only [connectPacket, connectPushes, List.foldl_cons, List.foldl_nil, Writer.pushString,
    Writer.pushNumber, Writer.pushObjectPropName]

/-- The bytes of the pushes. -/
private theorem pushStores_connectPushes {rtmpApp rtmpUrl : List UInt8}
    (happ : rtmpApp.length ≤ 31) (hurl : rtmpUrl.length ≤ 511) :
    ∃ srcs, List.Forall₂ PushStores (connectPushes rtmpApp rtmpUrl) srcs ∧
      srcs.flatten = connectBody rtmpApp rtmpUrl := by
  have hconnect : (ascii "connect").length ≤ 0xffff := by decide
  have happName : (ascii "app").length ≤ 0xffff := by decide
  have hflashVer : (ascii "flashVer").length ≤ 0xffff := by decide
  have hversion : (ascii "LNX 9,0,124,2").length ≤ 0xffff := by decide
  have htcUrl : (ascii "tcUrl").length ≤ 0xffff := by decide
  have hfpad : (ascii "fpad").length ≤ 0xffff := by decide
  have hcapabilities : (ascii "capabilities").length ≤ 0xffff := by decide
  have haudio : (ascii "audioCodecs").length ≤ 0xffff := by decide
  have hvideo : (ascii "videoCodecs").length ≤ 0xffff := by decide
  have hfunction : (ascii "videoFunction").length ≤ 0xffff := by decide
  unfold connectPushes connectBody
  generalize ascii "connect" = connect at hconnect ⊢
  generalize ascii "app" = app at happName ⊢
  generalize ascii "flashVer" = flashVer at hflashVer ⊢
  generalize ascii "LNX 9,0,124,2" = version at hversion ⊢
  generalize ascii "tcUrl" = tcUrl at htcUrl ⊢
  generalize ascii "fpad" = fpad at hfpad ⊢
  generalize ascii "capabilities" = capabilities at hcapabilities ⊢
  generalize ascii "audioCodecs" = audioCodecs at haudio ⊢
  generalize ascii "videoCodecs" = videoCodecs at hvideo ⊢
  generalize ascii "videoFunction" = videoFunction at hfunction ⊢
  refine ⟨_, .cons (pushStores_string hconnect) (.cons (pushStores_number _)
    (.cons pushStores_objectHeader
    (.cons (pushStores_propName happName) (.cons (pushStores_string (by omega))
    (.cons (pushStores_propName hflashVer) (.cons (pushStores_string hversion)
    (.cons (pushStores_propName htcUrl) (.cons (pushStores_string (by omega))
    (.cons (pushStores_propName hfpad) (.cons (pushStores_bool 0)
    (.cons (pushStores_propName hcapabilities) (.cons (pushStores_number _)
    (.cons (pushStores_propName haudio) (.cons (pushStores_number _)
    (.cons (pushStores_propName hvideo) (.cons (pushStores_number _)
    (.cons (pushStores_propName hfunction) (.cons (pushStores_number _)
    (.cons pushStores_objectEnder .nil))))))))))))))))))), ?_⟩
  simp only [List.flatten_cons, List.flatten_nil, List.append_nil, List.append_assoc]

/-- The body is a row of values. -/
theorem connectBody_values (rtmpApp rtmpUrl : List UInt8) :
    connectBody rtmpApp rtmpUrl = (connectValues rtmpApp rtmpUrl).flatMap Amf0Value.bytes := by
  have hstring (s : List UInt8) : (Amf0Value.string s).bytes = stringBytes s := by
    rw [Amf0Value.bytes]
    rfl
  have hnumber (n : Nat) : (Amf0Value.number n).bytes = numberBytes n := by
    rw [Amf0Value.bytes]
    rfl
  have hbool : (Amf0Value.boolean false).bytes = boolBytes 0 := by
    rw [Amf0Value.bytes]
    rfl
  have hone : natDouble 1 = 0x3ff0000000000000 := by decide
  have hcapabilities : natDouble 15 = 0x402e000000000000 := by decide
  have haudio : natDouble 4071 = 0x40afce0000000000 := by decide
  have hvideo : natDouble 252 = 0x406f800000000000 := by decide
  have hname (s : List UInt8) : sizedBytes s = propNameBytes s := rfl
  have hobject (p : Amf0Properties) : (Amf0Value.object p).bytes = [0x03] ++ p.bytes := by
    rw [Amf0Value.bytes]
    rfl
  unfold connectBody connectValues
  rw [hone, hcapabilities, haudio, hvideo]
  generalize ascii "connect" = connect
  generalize ascii "app" = app
  generalize ascii "flashVer" = flashVer
  generalize ascii "LNX 9,0,124,2" = version
  generalize ascii "tcUrl" = tcUrl
  generalize ascii "fpad" = fpad
  generalize ascii "capabilities" = capabilities
  generalize ascii "audioCodecs" = audioCodecs
  generalize ascii "videoCodecs" = videoCodecs
  generalize ascii "videoFunction" = videoFunction
  simp only [List.flatMap_cons, List.flatMap_nil, List.append_nil, Amf0Properties.ofList,
    Amf0Properties.bytes, hstring, hnumber, hbool, hname, hobject, List.append_assoc]

theorem connectValues_fits {rtmpApp rtmpUrl : List UInt8} (happ : rtmpApp.length ≤ 31)
    (hurl : rtmpUrl.length ≤ 511) : ∀ v ∈ connectValues rtmpApp rtmpUrl, v.Fits := by
  have hversion : (ascii "LNX 9,0,124,2").length ≤ 65535 := by decide
  have hname {s : List UInt8} {v : Amf0Value} {rest : Amf0Properties}
      (hs : s ≠ [] ∧ s.length ≤ 65535) (hv : v.Fits) (hrest : rest.Fits) :
      (Amf0Properties.property s v rest).Fits := by
    rw [Amf0Properties.Fits]
    exact ⟨hs.1, hs.2, hv, hrest⟩
  have hstring {s : List UInt8} (hs : s.length ≤ 65535) : (Amf0Value.string s).Fits := by
    rw [Amf0Value.Fits]
    exact hs
  have hnumber {n : Nat} (hn : natDouble n < 18446744073709551616) :
      (Amf0Value.number (natDouble n)).Fits := by
    rw [Amf0Value.Fits]
    exact hn
  have hobject {p : Amf0Properties} (hp : p.Fits) : (Amf0Value.object p).Fits := by
    rw [Amf0Value.Fits]
    exact hp
  have hbool : (Amf0Value.boolean false).Fits := by
    rw [Amf0Value.Fits]
    trivial
  have hnone : Amf0Properties.none.Fits := by
    rw [Amf0Properties.Fits]
    trivial
  intro v hv
  simp only [connectValues, List.mem_cons, List.not_mem_nil, or_false] at hv
  rcases hv with rfl | rfl | rfl
  · exact hstring (by decide)
  · exact hnumber (by decide)
  · apply hobject
    apply hname (by decide) (hstring (by omega))
    apply hname (by decide) (hstring hversion)
    apply hname (by decide) (hstring (by omega))
    apply hname (by decide) hbool
    apply hname (by decide) (hnumber (by decide))
    apply hname (by decide) (hnumber (by decide))
    apply hname (by decide) (hnumber (by decide))
    exact hname (by decide) (hnumber (by decide)) hnone

/-- The message in its buffer: every push has found room, and the length is that of the body. -/
theorem connectPacket_holding {rtmpApp rtmpUrl : List UInt8} (happ : rtmpApp.length ≤ 31)
    (hurl : rtmpUrl.length ≤ 511) :
    Writer.PushesFit (connectPushes rtmpApp rtmpUrl)
        ((startHeader (1024 * 5) 0x03 0x14).skip 4) ∧
      connectPacket rtmpApp rtmpUrl = .holding (1024 * 5)
        (streamHeader 0x03 0x14 (connectBody rtmpApp rtmpUrl).length 0 ++
          connectBody rtmpApp rtmpUrl) := by
  obtain ⟨srcs, hstores, hsrcs⟩ := pushStores_connectPushes happ hurl
  have hbody := length_connectBody rtmpApp rtmpUrl
  have hroom : ((([0x03, 0, 0, 0, 0, 0, 0, 0x14, 0, 0, 0, 0] : List UInt8) ++
      srcs.flatten).length : Int) ≤ 1024 * 5 := by
    rw [hsrcs, List.length_append, hbody]
    simp only [List.length_cons, List.length_nil]
    omega
  obtain ⟨hfit, hfold⟩ := Writer.pushes_holding hstores hroom
  have hheader : (startHeader (1024 * 5) 0x03 0x14).skip 4 =
      .holding (1024 * 5) [0x03, 0, 0, 0, 0, 0, 0, 0x14, 0, 0, 0, 0] := by
    rw [startHeader_holding, Writer.skip_four]
    rfl
  have hlen : 7 + ([0x14, 0, 0, 0, 0] ++ connectBody rtmpApp rtmpUrl).length =
      12 + (connectBody rtmpApp rtmpUrl).length := by
    rw [List.length_append]
    simp only [List.length_cons, List.length_nil]
    omega
  rw [connectPacket_pushes, hheader]
  refine ⟨hfit, ?_⟩
  rw [hfold, hsrcs]
  exact Writer.patchMessageLen_holding hlen (by omega)

/-! ### End to end -/

/-- The bytes that are sent. -/
theorem sent_connect (c : RtmpClient) (happ : c.rtmpApp.length ≤ 31)
    (hurl : c.rtmpUrl.length ≤ 511) :
    let w := connectPacket c.rtmpApp c.rtmpUrl
    let body := connectBody c.rtmpApp c.rtmpUrl
    let bytes := streamHeader 0x03 0x14 body.length 0 ++ chunked 0xc3 (pageCount body.length) body
    w.dataPtr.toNat = 12 + body.length ∧
      (rtmpAmf0SplitePack 0xc3 12 w.buf w.dataPtr.toNat).1 = bytes.length ∧
      (rtmpSendToServerConnect c).2.sent = c.sent ++ [bytes] := by
  intro w body bytes
  have hbody : body.length = c.rtmpApp.length + c.rtmpUrl.length + 166 := length_connectBody _ _
  have hheader : (streamHeader 0x03 0x14 body.length 0).length = 12 := rfl
  have hw : w = .holding (1024 * 5) (streamHeader 0x03 0x14 body.length 0 ++ body) :=
    (connectPacket_holding happ hurl).2
  have hbuf : w.buf = Mem.ofList (streamHeader 0x03 0x14 body.length 0 ++ body) := by
    rw [hw]
    rfl
  have hptr : w.dataPtr.toNat = (streamHeader 0x03 0x14 body.length 0 ++ body).length := by
    rw [hw, Writer.dataPtr_holding, Int.toNat_natCast]
  have hne : body ≠ [] := List.length_pos_iff.1 (by omega)
  obtain ⟨hret, hslice⟩ := rtmpAmf0SplitePack_eq 0xc3 w.buf (streamHeader 0x03 0x14 body.length 0)
    body hne (by rw [hbuf, Mem.slice_ofList])
  rw [hheader, ← hptr] at hret hslice
  refine ⟨by rw [hptr, List.length_append, hheader], hret, ?_⟩
  have hsent : (rtmpSendToServerConnect c).2.sent = c.sent ++
      [(rtmpAmf0SplitePack 0xc3 12 w.buf w.dataPtr.toNat).2.slice 0
        (rtmpAmf0SplitePack 0xc3 12 w.buf w.dataPtr.toNat).1.toNat] := by
    unfold rtmpSendToServerConnect
    dsimp only
    split <;> rfl
  rw [hsent, hret, Int.toNat_natCast]
  exact congrArg (c.sent ++ [·]) hslice

/-- The request `connect` from its pushes to its reader: every push finds room; what the splitter
moves, up to the end of its last block, and what is sent lie inside the buffer; and a reader with
no message open on chunk stream 3 gets one message from the bytes, of the type and the length that
they name, whose body reads as the values of the request. -/
theorem rtmpSendToServerConnect_parsed (c : RtmpClient) (happ : c.rtmpApp.length ≤ 31)
    (hurl : c.rtmpUrl.length ≤ 511) :
    let header := (startHeader (1024 * 5) 0x03 0x14).skip 4
    let pushes := connectPushes c.rtmpApp c.rtmpUrl
    let w := connectPacket c.rtmpApp c.rtmpUrl
    let split := rtmpAmf0SplitePack 0xc3 12 w.buf w.dataPtr.toNat
    w = (pushes.foldl Writer.push header).patchMessageLen 12 ∧ Writer.PushesFit pushes header ∧
      12 + pageCount (w.dataPtr.toNat - 12) * 129 + 128 ≤ 1024 * 5 ∧ split.1 ≤ 1024 * 5 ∧
      ∃ bytes : List UInt8, bytes.length = split.1 ∧
        (rtmpSendToServerConnect c).2.sent = c.sent ++ [bytes] ∧
        ∀ d : RtmpClient, d.rtmpChunkMaxSize = 128 → (d.rtmpChunk 3).lastMessageSize = 0 →
          0 ≤ d.mIParsePos → ∀ mem, mem.slice d.mIParsePos.toNat bytes.length = bytes →
            ∃ message : RtmpMessage, TakesMessage d (d.mIParsePos + bytes.length) message
                (chunkLoop (bytes.length + 1) d mem (d.mIParsePos + bytes.length)) ∧
              message.messageType = 0x14 ∧
              be24 (bytes.getD 4 0) (bytes.getD 5 0) (bytes.getD 6 0) = message.body.length ∧
              readBody message.body = some (connectValues c.rtmpApp c.rtmpUrl) := by
  intro header pushes w split
  obtain ⟨hptr, hret, hsent⟩ := sent_connect c happ hurl
  have hbody := length_connectBody c.rtmpApp c.rtmpUrl
  have hread : readBody (connectBody c.rtmpApp c.rtmpUrl) =
      some (connectValues c.rtmpApp c.rtmpUrl) := by
    rw [connectBody_values]
    exact readBody_flatMap (connectValues_fits happ hurl)
  generalize connectBody c.rtmpApp c.rtmpUrl = body at hptr hret hsent hbody hread
  have hpages : pageCount body.length ≤ 5 := by
    unfold pageCount
    omega
  have hlow : pageCount body.length * 128 ≤ body.length := by
    unfold pageCount
    omega
  have hlength := length_chunked 0xc3 (pageCount body.length) body hlow
  have hheader : (streamHeader 0x03 0x14 body.length 0).length = 12 := rfl
  have htotal : (streamHeader 0x03 0x14 body.length 0 ++
      chunked 0xc3 (pageCount body.length) body).length =
        12 + (body.length + pageCount body.length) := by
    rw [List.length_append, hheader, hlength]
  have hbytes : streamHeader 0x03 0x14 body.length 0 ++ chunked 0xc3 (pageCount body.length) body =
      messageHeader 3 0 0 ⟨0x14, body⟩ ++
        chunked (basicHeader 3 3) (pageCount body.length) body := rfl
  refine ⟨connectPacket_pushes _ _, (connectPacket_holding happ hurl).1, ?_, ?_,
    _, hret.symm, hsent, ?_⟩
  · rw [hptr, Nat.add_sub_cancel_left]
    omega
  · rw [hret, htotal]
    omega
  · intro d hsize hidle hpos mem hmem
    have hfuel : pageCount body.length + 2 ≤ (streamHeader 0x03 0x14 body.length 0 ++
        chunked 0xc3 (pageCount body.length) body).length + 1 := by omega
    have hpositive : 0 < (Message.mk 0x14 body).body.length := by
      change 0 < body.length
      omega
    have hlt : (Message.mk 0x14 body).body.length < 16777216 := by
      change body.length < 16777216
      omega
    obtain ⟨id, htakes⟩ := chunkLoop_chunked (by decide) (by decide) (by decide) hpositive hlt
      hsize hidle hpos hbytes hmem hfuel
    refine ⟨⟨3, 0x14, id, 0, body⟩, htakes, rfl, ?_, hread⟩
    exact be24_be24Bytes body.length (by omega)

/-- A fresh reader of the request. -/
theorem rtmpSendToServerConnect_parsed_live :
    let c := { blankClient with rtmpApp := ascii "live", rtmpUrl := ascii "rtmp://host/live" }
    let d := { blankClient with rtmpChunkMaxSize := 128 }
    ∃ bytes : List UInt8, (rtmpSendToServerConnect c).2.sent = [bytes] ∧
      ∃ message : RtmpMessage, TakesMessage d (0 + bytes.length) message
          (chunkLoop (bytes.length + 1) d (Mem.ofList bytes) (0 + bytes.length)) ∧
        readBody message.body = some (connectValues (ascii "live") (ascii "rtmp://host/live")) := by
  obtain ⟨-, -, -, -, bytes, -, hsent, hread⟩ := rtmpSendToServerConnect_parsed
    { blankClient with rtmpApp := ascii "live", rtmpUrl := ascii "rtmp://host/live" }
    (by decide) (by decide)
  obtain ⟨message, htakes, -, -, hvalues⟩ := hread { blankClient with rtmpChunkMaxSize := 128 }
    rfl rfl (by decide) (Mem.ofList bytes) (Mem.slice_ofList bytes)
  exact ⟨bytes, hsent, message, htakes, hvalues⟩

end RtmpRecv.Client
