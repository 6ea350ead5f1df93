import RtmpRecv.Amf0.Encode
import RtmpRecv.Client.Commands

/-!
# The bytes that are sent

Library `Client`. The packets of the client as byte lists: what the writers of the senders have
stored, field by field.
-/

namespace RtmpRecv.Client
open RtmpRecv.Base RtmpRecv.Amf0

namespace Writer

/-- A writer that has stored `bytes` in a zeroed buffer. -/
def holding (size : Int) (bytes : List UInt8) : Writer := ⟨Mem.ofList bytes, bytes.length, size⟩

@[simp] theorem start_holding (size : Int) : Writer.start size = holding size [] := rfl

@[simp] theorem size_holding (size : Int) (bytes : List UInt8) :
    (holding size bytes).size = size := rfl

@[simp] theorem dataPtr_holding (size : Int) (bytes : List UInt8) :
    (holding size bytes).dataPtr = bytes.length := rfl

@[simp] theorem bytes_holding (size : Int) (bytes : List UInt8) :
    (holding size bytes).bytes = bytes := by
  unfold Writer.bytes holding
  rw [Int.toNat_natCast, Mem.slice_ofList]

@[simp] theorem put_holding (size : Int) (bytes : List UInt8) (b : UInt8) :
    (holding size bytes).put b = holding size (bytes ++ [b]) := by
  unfold Writer.put holding
  rw [Int.toNat_natCast, Mem.set_ofList, List.length_append]
  rfl

theorem skip_holding (size : Int) (bytes : List UInt8) (n : Nat) :
    (holding size bytes).skip n = holding size (bytes ++ List.replicate n 0) := by
  unfold Writer.skip holding
  rw [Mem.ofList_zeros, List.length_append, List.length_replicate]
  rfl

@[simp] theorem skip_one (size : Int) (bytes : List UInt8) :
    (holding size bytes).skip 1 = holding size (bytes ++ [0]) := skip_holding size bytes 1

@[simp] theorem skip_three (size : Int) (bytes : List UInt8) :
    (holding size bytes).skip 3 = holding size (bytes ++ [0, 0, 0]) := skip_holding size bytes 3

@[simp] theorem skip_four (size : Int) (bytes : List UInt8) :
    (holding size bytes).skip 4 = holding size (bytes ++ [0, 0, 0, 0]) :=
  skip_holding size bytes 4

@[simp] theorem skip_six (size : Int) (bytes : List UInt8) :
    (holding size bytes).skip 6 = holding size (bytes ++ [0, 0, 0, 0, 0, 0]) :=
  skip_holding size bytes 6

@[simp] theorem copy_holding (size : Int) (bytes src : List UInt8) :
    (holding size bytes).copy src = holding size (bytes ++ src) := by
  unfold Writer.copy holding
  rw [Int.toNat_natCast, Mem.memcpy_ofList, List.length_append]
  rfl

/-- A push that finds room appends the bytes of its value. -/
theorem push_holding {size : Int} {bytes src : List UInt8} {f : Mem → Int → Int × Mem}
    (h : f (Mem.ofList []) (size - bytes.length) = ((src.length : Int), Mem.ofList src)) :
    (holding size bytes).push f = holding size (bytes ++ src) := by
  unfold Writer.push holding
  dsimp only
  rw [Int.toNat_natCast, Mem.shift_ofList, h, Mem.splice_ofList, List.length_append]
  rfl

variable {size : Int} {bytes : List UInt8}

theorem pushString_holding {s : List UInt8} (h : (bytes.length + s.length + 3 : Nat) ≤ size)
    (hs : s.length ≤ 0xffff) :
    (holding size bytes).pushString s = holding size (bytes ++ stringBytes s) :=
  push_holding (push_string (by omega) hs)

theorem pushNumber_holding {value : Nat} (h : (bytes.length + 9 : Nat) ≤ size) :
    (holding size bytes).pushNumber value = holding size (bytes ++ numberBytes value) :=
  push_holding (push_number (by omega))

theorem pushNull_holding (h : (bytes.length + 1 : Nat) ≤ size) :
    (holding size bytes).push rtmpAmf0PushNull = holding size (bytes ++ [0x05]) :=
  push_holding (push_null (by omega))

/-- The length bytes of a message of less than `2^24` bytes. -/
theorem patchMessageLen_holding {basic t0 t1 t2 l0 l1 l2 : UInt8} {rest : List UInt8}
    {headerLen n : Nat} (hn : 7 + rest.length = headerLen + n) (hlt : n < 16777216) :
    (holding size (basic :: t0 :: t1 :: t2 :: l0 :: l1 :: l2 :: rest)).patchMessageLen headerLen =
      holding size (basic :: t0 :: t1 :: t2 :: (be24Bytes n ++ rest)) := by
  have hlen : ((7 + rest.length : Nat) : Int) - headerLen = n := by omega
  have hconv : toUInt32 (((7 + rest.length : Nat) : Int) - headerLen) = n := by
    rw [hlen]
    exact toUInt32_of_nonneg n (by omega)
  have hbytes : (le32Bytes (swap4Byte n)).drop 1 = be24Bytes n := by
    rw [le32Bytes_swap4Byte]
    rfl
  have hmiddle := Mem.memcpy_ofList_middle [basic, t0, t1, t2] [l0, l1, l2] (be24Bytes n) rest rfl
  have hone : (basic :: t0 :: t1 :: t2 :: l0 :: l1 :: l2 :: rest).length = 7 + rest.length := by
    simp only [List.length_cons]
    omega
  have htwo : (basic :: t0 :: t1 :: t2 :: (be24Bytes n ++ rest)).length = 7 + rest.length := by
    simp only [List.length_cons, List.length_append, length_be24Bytes]
    omega
  unfold Writer.patchMessageLen holding
  dsimp only
  rw [hone, htwo, hconv, hbytes]
  exact congrArg (fun buf ↦ Writer.mk buf _ _) hmiddle

end Writer

/-- The start of a header: basic header, zero timestamp, message length, type. -/
def headerBytes (basic type : UInt8) (messageLen : Nat) : List UInt8 :=
  basic :: 0 :: 0 :: 0 :: (be24Bytes messageLen ++ [type])

@[simp] theorem length_headerBytes (basic type : UInt8) (messageLen : Nat) :
    (headerBytes basic type messageLen).length = 8 := rfl

theorem startHeader_holding (size : Int) (basic type : UInt8) :
    startHeader size basic type = .holding size [basic, 0, 0, 0, 0, 0, 0, type] := by
  unfold startHeader
  simp

/-- The packet behind a header of `headerLen` bytes, with its length. -/
theorem patch_header {size : Int} {basic type : UInt8} {rest : List UInt8} {headerLen n : Nat}
    (hn : 8 + rest.length = headerLen + n) (hlt : n < 16777216) :
    ((Writer.holding size ([basic, 0, 0, 0, 0, 0, 0, type] ++ rest)).patchMessageLen
      headerLen).bytes = headerBytes basic type n ++ rest := by
  have hlen : 7 + (type :: rest).length = headerLen + n := by
    rw [List.length_cons]
    omega
  have hpatch : (Writer.holding size ([basic, 0, 0, 0, 0, 0, 0, type] ++ rest)).patchMessageLen
      headerLen = .holding size (basic :: 0 :: 0 :: 0 :: (be24Bytes n ++ type :: rest)) :=
    Writer.patchMessageLen_holding hlen hlt
  rw [hpatch, Writer.bytes_holding]
  rfl

/-! ### Bodies -/

/-- The body of a request without arguments. -/
def requestBody (name : List UInt8) (number : Nat) : List UInt8 :=
  stringBytes name ++ numberBytes number ++ [0x05]

/-- The body of `connect`. -/
def connectBody (rtmpApp rtmpUrl : List UInt8) : List UInt8 :=
  stringBytes (ascii "connect") ++ numberBytes 0x3ff0000000000000 ++ [0x03] ++
    propNameBytes (ascii "app") ++ stringBytes rtmpApp ++
    propNameBytes (ascii "flashVer") ++ stringBytes (ascii "LNX 9,0,124,2") ++
    propNameBytes (ascii "tcUrl") ++ stringBytes rtmpUrl ++
    propNameBytes (ascii "fpad") ++ boolBytes 0 ++
    propNameBytes (ascii "capabilities") ++ numberBytes 0x402e000000000000 ++
    propNameBytes (ascii "audioCodecs") ++ numberBytes 0x40afce0000000000 ++
    propNameBytes (ascii "videoCodecs") ++ numberBytes 0x406f800000000000 ++
    propNameBytes (ascii "videoFunction") ++ numberBytes 0x3ff0000000000000 ++
    [0x00, 0x00, 0x09]

/-- The body of `createStream`. -/
def createStreamBody : List UInt8 := requestBody (ascii "createStream") 0x4000000000000000

/-- The body of `_checkbw`. -/
def checkbwBody : List UInt8 := requestBody (ascii "_checkbw") 0x4008000000000000

/-- The body of `getStreamLength`. -/
def getStreamLengthBody (rtmpStream : List UInt8) : List UInt8 :=
  requestBody (ascii "getStreamLength") 0x4010000000000000 ++ stringBytes rtmpStream

/-- The body of `play`. -/
def playBody (rtmpStream : List UInt8) : List UInt8 :=
  requestBody (ascii "play") 0x4014000000000000 ++ stringBytes rtmpStream ++
    numberBytes 0xc09f400000000000

/-- The body of the Set Buffer Length event. -/
def setBufferLengthBody : List UInt8 := [0, 3, 0, 0, 0, 1] ++ be32Bytes 3000

theorem length_connectBody (rtmpApp rtmpUrl : List UInt8) :
    (connectBody rtmpApp rtmpUrl).length = rtmpApp.length + rtmpUrl.length + 166 := by
  have h1 : (ascii "connect").length = 7 := by decide
  have h2 : (ascii "app").length = 3 := by decide
  have h3 : (ascii "flashVer").length = 8 := by decide
  have h4 : (ascii "LNX 9,0,124,2").length = 13 := by decide
  have h5 : (ascii "tcUrl").length = 5 := by decide
  have h6 : (ascii "fpad").length = 4 := by decide
  have h7 : (ascii "capabilities").length = 12 := by decide
  have h8 : (ascii "audioCodecs").length = 11 := by decide
  have h9 : (ascii "videoCodecs").length = 11 := by decide
  have h10 : (ascii "videoFunction").length = 13 := by decide
  unfold connectBody
  generalize ascii "connect" = s1 at h1 ⊢
  generalize ascii "app" = s2 at h2 ⊢
  generalize ascii "flashVer" = s3 at h3 ⊢
  generalize ascii "LNX 9,0,124,2" = s4 at h4 ⊢
  generalize ascii "tcUrl" = s5 at h5 ⊢
  generalize ascii "fpad" = s6 at h6 ⊢
  generalize ascii "capabilities" = s7 at h7 ⊢
  generalize ascii "audioCodecs" = s8 at h8 ⊢
  generalize ascii "videoCodecs" = s9 at h9 ⊢
  generalize ascii "videoFunction" = s10 at h10 ⊢
  simp only [List.length_append, length_stringBytes, length_numberBytes, length_propNameBytes,
    length_boolBytes, List.length_cons, List.length_nil]
  omega

@[simp] theorem length_createStreamBody : createStreamBody.length = 25 := by
  simp [createStreamBody, requestBody, ascii]

@[simp] theorem length_checkbwBody : checkbwBody.length = 21 := by
  simp [checkbwBody, requestBody, ascii]

theorem length_getStreamLengthBody (rtmpStream : List UInt8) :
    (getStreamLengthBody rtmpStream).length = rtmpStream.length + 31 := by
  simp [getStreamLengthBody, requestBody, ascii]
  omega

theorem length_playBody (rtmpStream : List UInt8) :
    (playBody rtmpStream).length = rtmpStream.length + 29 := by
  simp [playBody, requestBody, ascii]
  omega

@[simp] theorem length_setBufferLengthBody : setBufferLengthBody.length = 10 := rfl

/-! ### Packets -/

theorem rtmpSendToServerWinAckSize_eq {acknowledgementSize : Nat} {pagLen : Int}
    (h : 44 ≤ pagLen) :
    rtmpSendToServerWinAckSize acknowledgementSize pagLen =
      some (headerBytes 0x02 0x05 4 ++ ([0, 0, 0, 0] ++ be32Bytes acknowledgementSize)) := by
  unfold rtmpSendToServerWinAckSize
  rw [if_neg (by omega)]
  dsimp only
  rw [startHeader_holding, Writer.skip_four, Writer.copy_holding, le32Bytes_swap4Byte]
  have hlen : 8 + ([0, 0, 0, 0] ++ be32Bytes acknowledgementSize).length = 12 + 4 := by simp
  exact congrArg some (patch_header hlen (by decide))

/-- The pushes of a request without arguments. -/
theorem request_holding {size : Int} {bytes name : List UInt8} (number : Nat)
    (h : (bytes.length + name.length + 13 : Nat) ≤ size) (hname : name.length ≤ 0xffff) :
    (((Writer.holding size bytes).pushString name).pushNumber number).push rtmpAmf0PushNull =
      .holding size (bytes ++ requestBody name number) := by
  have hstring : (bytes ++ stringBytes name).length = bytes.length + name.length + 3 := by
    rw [List.length_append, length_stringBytes, Nat.add_assoc]
  have hnumber : (bytes ++ stringBytes name ++ numberBytes number).length =
      bytes.length + name.length + 12 := by
    rw [List.length_append, hstring, length_numberBytes]
  rw [Writer.pushString_holding (by omega) hname, Writer.pushNumber_holding (by omega),
    Writer.pushNull_holding (by omega)]
  simp only [requestBody, List.append_assoc]

theorem rtmpSendToServerRequest_eq {name : List UInt8} {number : Nat} {pagLen : Int}
    (h : (name.length + 28 : Nat) ≤ pagLen) (h40 : 40 ≤ pagLen) (hname : name.length ≤ 0xffff) :
    rtmpSendToServerRequest name number pagLen =
      some (headerBytes 0x43 0x14 (requestBody name number).length ++ requestBody name number) := by
  have hlen : (requestBody name number).length = name.length + 13 := by
    simp [requestBody]
  have hsum : 8 + (requestBody name number).length = 8 + (requestBody name number).length := rfl
  unfold rtmpSendToServerRequest
  rw [if_neg (by omega)]
  dsimp only
  rw [startHeader_holding, request_holding number (by change ((8 + _ + 13 : Nat) : Int) ≤ _; omega)
    hname]
  refine congrArg some (patch_header hsum ?_)
  rw [hlen]
  omega

/-- A header with its message stream id. -/
def streamHeader (basic type : UInt8) (messageLen : Nat) (streamId : UInt8) : List UInt8 :=
  headerBytes basic type messageLen ++ [streamId, 0, 0, 0]

/-- The packet behind a header with a message stream id. -/
private theorem patch_stream {size : Int} {basic type streamId : UInt8} {body : List UInt8}
    (hlt : body.length < 16777216) :
    ((Writer.holding size ([basic, 0, 0, 0, 0, 0, 0, type, streamId, 0, 0, 0] ++
      body)).patchMessageLen 12).bytes = streamHeader basic type body.length streamId ++ body := by
  have hsum : 8 + ([streamId, 0, 0, 0] ++ body).length = 12 + body.length := by
    rw [List.length_append]
    change 8 + (4 + _) = _
    omega
  rw [streamHeader, List.append_assoc]
  exact patch_header hsum hlt

/-- The packet with `getStreamLength`. -/
theorem rtmpSendToServerGetStreamLength_eq {c : RtmpClient} (h : c.rtmpStream.length ≤ 127) :
    rtmpSendToServerGetStreamLength c =
      c.send (streamHeader 0x08 0x14 (getStreamLengthBody c.rtmpStream).length 0 ++
        getStreamLengthBody c.rtmpStream) := by
  have hname : (ascii "getStreamLength").length = 15 := by decide
  have hlen := length_getStreamLengthBody c.rtmpStream
  have hrequest : ([0x08, 0, 0, 0, 0, 0, 0, 0x14] ++ [0, 0, 0, 0] ++
      requestBody (ascii "getStreamLength") 0x4010000000000000).length = 40 := by
    simp [requestBody, hname]
  unfold rtmpSendToServerGetStreamLength
  dsimp only
  rw [startHeader_holding, Writer.skip_four, request_holding _
    (by change ((12 + _ + 13 : Nat) : Int) ≤ _; omega) (by omega),
    Writer.pushString_holding (by omega) (by omega), List.append_assoc]
  have hlt : (getStreamLengthBody c.rtmpStream).length < 16777216 := by omega
  exact congrArg c.send (patch_stream hlt)

/-- The packet with `play`. -/
theorem rtmpSendToServerPlay_eq {c : RtmpClient} (h : c.rtmpStream.length ≤ 127) :
    rtmpSendToServerPlay c =
      c.send (streamHeader 0x08 0x14 (playBody c.rtmpStream).length
        (UInt8.ofNat (toUInt32 (doubleToInt c.rtmpNowStreamId))) ++ playBody c.rtmpStream) := by
  have hname : (ascii "play").length = 4 := by decide
  have hlt : (playBody c.rtmpStream).length < 16777216 := by
    rw [length_playBody]
    omega
  have hbody : requestBody (ascii "play") 0x4014000000000000 ++
      (stringBytes c.rtmpStream ++ numberBytes 0xc09f400000000000) = playBody c.rtmpStream :=
    (List.append_assoc _ _ _).symm
  unfold rtmpSendToServerPlay
  dsimp only
  generalize UInt8.ofNat (toUInt32 (doubleToInt c.rtmpNowStreamId)) = streamId
  have hrequest : ([0x08, 0, 0, 0, 0, 0, 0, 0x14] ++ [streamId] ++ [0, 0, 0] ++
      requestBody (ascii "play") 0x4014000000000000).length = 29 := by
    simp [requestBody, hname]
  have hstring : ([0x08, 0, 0, 0, 0, 0, 0, 0x14] ++ [streamId] ++ [0, 0, 0] ++
      requestBody (ascii "play") 0x4014000000000000 ++ stringBytes c.rtmpStream).length =
        29 + (c.rtmpStream.length + 3) := by
    rw [List.length_append, hrequest, length_stringBytes]
  rw [startHeader_holding, Writer.put_holding, Writer.skip_three, request_holding _
    (by change ((12 + _ + 13 : Nat) : Int) ≤ _; omega) (by omega),
    Writer.pushString_holding (by omega) (by omega), Writer.pushNumber_holding (by omega),
    List.append_assoc, List.append_assoc, hbody]
  exact congrArg c.send (patch_stream hlt)

/-- The packet with Set Buffer Length. -/
theorem rtmpSendToServerSetBufferLength_eq (c : RtmpClient) :
    rtmpSendToServerSetBufferLength c =
      c.send (headerBytes 0x42 0x04 setBufferLengthBody.length ++ setBufferLengthBody) := by
  have hsum : 8 + setBufferLengthBody.length = 8 + setBufferLengthBody.length := rfl
  unfold rtmpSendToServerSetBufferLength
  dsimp only
  rw [startHeader_holding, Writer.skip_one, Writer.put_holding, Writer.skip_three,
    Writer.put_holding, Writer.copy_holding, le32Bytes_swap4Byte]
  exact congrArg c.send (patch_header hsum (by decide))

end RtmpRecv.Client
