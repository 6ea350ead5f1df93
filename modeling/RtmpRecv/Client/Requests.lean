import RtmpRecv.Client.Connect
import RtmpRecv.Client.Order
import RtmpRecv.Client.Origins
import RtmpRecv.Client.Reader

/-!
# The requests on the wire

Library `Client`. What a reader of chunks gets from the bytes that the client sends after the
handshake. Only `connect` goes through the splitter: `getStreamLength` and `play` are sent in one
chunk, whatever the length of the stream name.
-/

namespace RtmpRecv.Client
open RtmpRecv.Base RtmpRecv.Amf0 RtmpRecv.Wire

/-- The messages that the client means to send after the handshake, with their types. -/
def sessionMessages (rtmpUrl rtmpApp rtmpStream : List UInt8) (acknowledgementSize : Nat) :
    List (Nat × List UInt8) :=
  [(0x14, connectBody rtmpApp rtmpUrl), (0x05, be32Bytes acknowledgementSize),
    (0x14, createStreamBody), (0x14, checkbwBody), (0x14, getStreamLengthBody rtmpStream),
    (0x14, playBody rtmpStream), (0x04, setBufferLengthBody)]

/-- The messages up to `createStream` and `_checkbw`. -/
def openingRow (rtmpUrl rtmpApp : List UInt8) (acknowledgementSize : Nat) : List Outgoing :=
  [⟨3, .fmt0 0 0, ⟨0x14, connectBody rtmpApp rtmpUrl⟩⟩,
    ⟨2, .fmt0 0 0, ⟨0x05, be32Bytes acknowledgementSize⟩⟩,
    ⟨3, .fmt1 0, ⟨0x14, createStreamBody⟩⟩, ⟨3, .fmt1 0, ⟨0x14, checkbwBody⟩⟩]

/-- The message stream id in the header of `play`. -/
def playStreamId (rtmpNowStreamId : Nat) : UInt8 :=
  UInt8.ofNat (toUInt32 (doubleToInt rtmpNowStreamId))

/-- The messages that ask for the stream. -/
def askingRow (rtmpStream : List UInt8) (streamId : UInt8) : List Outgoing :=
  [⟨8, .fmt0 0 0, ⟨0x14, getStreamLengthBody rtmpStream⟩⟩,
    ⟨8, .fmt0 0 streamId.toNat, ⟨0x14, playBody rtmpStream⟩⟩,
    ⟨2, .fmt1 0, ⟨0x04, setBufferLengthBody⟩⟩]

/-! ### Bytes -/

private theorem chunked_eq_blocks (head : UInt8) (pages : Nat) (body : List UInt8) :
    chunked head pages body = blocks 128 head pages body := by
  induction pages generalizing body with
  | zero => rfl
  | succ pages ih => rw [chunked, blocks, ih]

/-- A message that fits one chunk goes out as it is. -/
private theorem bytes_single {o : Outgoing} (h : o.message.body.length ≤ 128) :
    o.bytes 128 =
      basicHeader o.fmt.toNat o.chunkId :: (o.fmt.fields o.message ++ o.message.body) := by
  have hpages : (o.message.body.length - 1) / 128 = 0 := Nat.div_eq_of_lt (by omega)
  unfold Outgoing.bytes messageBytes
  rw [hpages]
  rfl

private theorem be32Bytes_toNat (b : UInt8) : be32Bytes b.toNat = [0, 0, 0, b] := by
  have hlt := b.toNat_lt
  have h3 : b.toNat / 16777216 = 0 := Nat.div_eq_of_lt (by omega)
  have h2 : b.toNat / 65536 = 0 := Nat.div_eq_of_lt (by omega)
  have h1 : b.toNat / 256 = 0 := Nat.div_eq_of_lt (by omega)
  unfold be32Bytes
  rw [h3, h2, h1, UInt8.ofNat_toNat]
  rfl

/-- A header with a message stream id. -/
private theorem streamHeader_fields {chunkId : Nat} {basic streamId : UInt8}
    (hbasic : basicHeader 0 chunkId = basic) (message : Message) :
    streamHeader basic message.type message.body.length streamId =
      basicHeader 0 chunkId :: (Fmt.fmt0 0 streamId.toNat).fields message := by
  rw [hbasic]
  unfold Fmt.fields
  dsimp only
  rw [be32Bytes_toNat]
  rfl

/-- The request `connect` goes out in its chunks. -/
theorem connectRequest_bytes {rtmpUrl rtmpApp : List UInt8} (happ : rtmpApp.length ≤ 31)
    (hurl : rtmpUrl.length ≤ 511) :
    connectRequest rtmpApp rtmpUrl =
      (Outgoing.mk 3 (.fmt0 0 0) ⟨0x14, connectBody rtmpApp rtmpUrl⟩).bytes 128 := by
  obtain ⟨-, -, hsent⟩ := sent_connect
    { blankClient with rtmpApp := rtmpApp, rtmpUrl := rtmpUrl, sent := [] } happ hurl
  unfold connectRequest packetOf
  rw [hsent, chunked_eq_blocks]
  rfl

theorem createStreamPacket_bytes (acknowledgementSize : Nat) :
    createStreamPacket acknowledgementSize =
      (Outgoing.mk 2 (.fmt0 0 0) ⟨0x05, be32Bytes acknowledgementSize⟩).bytes 128 ++
        ((Outgoing.mk 3 (.fmt1 0) ⟨0x14, createStreamBody⟩).bytes 128 ++
          (Outgoing.mk 3 (.fmt1 0) ⟨0x14, checkbwBody⟩).bytes 128) := by
  have hack : (be32Bytes acknowledgementSize).length ≤ 128 := by
    rw [length_be32Bytes]
    decide
  have hcreate : createStreamBody.length ≤ 128 := by
    rw [length_createStreamBody]
    decide
  have hcheck : checkbwBody.length ≤ 128 := by
    rw [length_checkbwBody]
    decide
  rw [createStreamPacket_eq, bytes_single hack, bytes_single hcreate, bytes_single hcheck]
  simp only [Fmt.fields, length_createStreamBody, length_checkbwBody, List.append_assoc]
  rfl

/-- The packets up to `createStream` and `_checkbw`. -/
theorem openingRow_bytes {rtmpUrl rtmpApp : List UInt8} (happ : rtmpApp.length ≤ 31)
    (hurl : rtmpUrl.length ≤ 511) (acknowledgementSize : Nat) :
    (openingRow rtmpUrl rtmpApp acknowledgementSize).flatMap (·.bytes 128) =
      connectRequest rtmpApp rtmpUrl ++ createStreamPacket acknowledgementSize := by
  rw [connectRequest_bytes happ hurl, createStreamPacket_bytes]
  simp only [openingRow, List.flatMap_cons, List.flatMap_nil, List.append_nil]

theorem getStreamLengthRequest_fields {rtmpStream : List UInt8} (h : rtmpStream.length ≤ 127) :
    getStreamLengthRequest rtmpStream = basicHeader 0 8 ::
      ((Fmt.fmt0 0 0).fields ⟨0x14, getStreamLengthBody rtmpStream⟩ ++
        getStreamLengthBody rtmpStream) := by
  rw [getStreamLengthRequest_eq h]
  have hbasic : basicHeader 0 8 = 0x08 := rfl
  exact congrArg (· ++ _) (streamHeader_fields hbasic ⟨0x14, getStreamLengthBody rtmpStream⟩)

theorem playRequest_fields (rtmpNowStreamId : Nat) {rtmpStream : List UInt8}
    (h : rtmpStream.length ≤ 127) :
    playRequest rtmpNowStreamId rtmpStream = basicHeader 0 8 ::
      ((Fmt.fmt0 0 (playStreamId rtmpNowStreamId).toNat).fields ⟨0x14, playBody rtmpStream⟩ ++
        playBody rtmpStream) := by
  rw [playRequest_eq _ h]
  have hbasic : basicHeader 0 8 = 0x08 := rfl
  exact congrArg (· ++ _) (streamHeader_fields hbasic ⟨0x14, playBody rtmpStream⟩)

theorem setBufferLengthEvent_bytes :
    setBufferLengthEvent = (Outgoing.mk 2 (.fmt1 0) ⟨0x04, setBufferLengthBody⟩).bytes 128 := by
  rw [setBufferLengthEvent_eq]
  rfl

/-- The packets that ask for the stream. -/
def askingBytes (rtmpStream : List UInt8) (rtmpNowStreamId : Nat) : List UInt8 :=
  getStreamLengthRequest rtmpStream ++
    (playRequest rtmpNowStreamId rtmpStream ++ setBufferLengthEvent)

/-- Stream names of up to 97 bytes leave room for the requests in one chunk. -/
theorem askingRow_bytes {rtmpStream : List UInt8} (h : rtmpStream.length ≤ 97)
    (rtmpNowStreamId : Nat) :
    (askingRow rtmpStream (playStreamId rtmpNowStreamId)).flatMap (·.bytes 128) =
      askingBytes rtmpStream rtmpNowStreamId := by
  have hlength : (getStreamLengthBody rtmpStream).length ≤ 128 := by
    rw [length_getStreamLengthBody]
    omega
  have hplay : (playBody rtmpStream).length ≤ 128 := by
    rw [length_playBody]
    omega
  unfold askingBytes
  rw [getStreamLengthRequest_fields (by omega), playRequest_fields _ (by omega),
    setBufferLengthEvent_bytes]
  simp only [askingRow, List.flatMap_cons, List.flatMap_nil, List.append_nil]
  rw [bytes_single hlength, bytes_single hplay]
  rfl

/-! ### What the reader gets -/

private theorem plain_fmt0 {chunkId streamId : Nat} {type : UInt8} {body : List UInt8}
    (hid : 2 ≤ chunkId ∧ chunkId < 64) (htype : type ≠ 1) (hbody : body.length < 16777216)
    (hstream : streamId < 4294967296) :
    (Outgoing.mk chunkId (.fmt0 0 streamId) ⟨type, body⟩).Plain where
  chunkId := hid
  type := htype
  body := hbody
  inRange := ⟨by decide, hstream⟩
  full := id
  extended _ := rfl

private theorem plain_fmt1 {chunkId : Nat} {type : UInt8} {body : List UInt8}
    (hid : 2 ≤ chunkId ∧ chunkId < 64) (htype : type ≠ 1) (hbody : body.length < 16777216) :
    (Outgoing.mk chunkId (.fmt1 0) ⟨type, body⟩).Plain where
  chunkId := hid
  type := htype
  body := hbody
  inRange := Nat.two_pow_pos 32
  full := id
  extended _ := rfl

theorem plain_openingRow {rtmpUrl rtmpApp : List UInt8} (happ : rtmpApp.length ≤ 31)
    (hurl : rtmpUrl.length ≤ 511) (acknowledgementSize : Nat) :
    ∀ o ∈ openingRow rtmpUrl rtmpApp acknowledgementSize, o.Plain := by
  have hconnect : (connectBody rtmpApp rtmpUrl).length < 16777216 := by
    rw [length_connectBody]
    omega
  have hcreate : createStreamBody.length < 16777216 := by
    rw [length_createStreamBody]
    decide
  have hcheck : checkbwBody.length < 16777216 := by
    rw [length_checkbwBody]
    decide
  have hack : (be32Bytes acknowledgementSize).length < 16777216 := by
    rw [length_be32Bytes]
    decide
  simp only [openingRow, List.forall_mem_cons, List.not_mem_nil, false_imp_iff, implies_true,
    and_true]
  exact ⟨plain_fmt0 (by decide) (by decide) hconnect (by decide),
    plain_fmt0 (by decide) (by decide) hack (by decide), plain_fmt1 (by decide) (by decide) hcreate,
    plain_fmt1 (by decide) (by decide) hcheck⟩

theorem plain_askingRow {rtmpStream : List UInt8} (h : rtmpStream.length ≤ 127)
    (streamId : UInt8) : ∀ o ∈ askingRow rtmpStream streamId, o.Plain := by
  have hlength : (getStreamLengthBody rtmpStream).length < 16777216 := by
    rw [length_getStreamLengthBody]
    omega
  have hplay : (playBody rtmpStream).length < 16777216 := by
    rw [length_playBody]
    omega
  have hid := streamId.toNat_lt
  simp only [askingRow, List.forall_mem_cons, List.not_mem_nil, false_imp_iff, implies_true,
    and_true]
  exact ⟨plain_fmt0 (by decide) (by decide) hlength (by decide),
    plain_fmt0 (by decide) (by decide) hplay (by omega),
    plain_fmt1 (by decide) (by decide) (by decide)⟩

private theorem passed_command {name rest body : List UInt8}
    (hbody : body = stringBytes name ++ rest)
    (hname : name.length ≤ 255) (hresult : name.takeWhile (· ≠ 0) ≠ ascii "_result") :
    Passed ⟨0x14, body⟩ :=
  Or.inr (Or.inr ⟨rfl, name, rest, hbody, hname, hresult⟩)

theorem passed_openingRow (rtmpUrl rtmpApp : List UInt8) (acknowledgementSize : Nat) :
    ∀ o ∈ openingRow rtmpUrl rtmpApp acknowledgementSize, Passed o.message := by
  have hconnect : ∃ rest, connectBody rtmpApp rtmpUrl = stringBytes (ascii "connect") ++ rest := by
    unfold connectBody
    simp only [List.append_assoc]
    exact ⟨_, rfl⟩
  obtain ⟨rest, hconnect⟩ := hconnect
  simp only [openingRow, List.forall_mem_cons, List.not_mem_nil, false_imp_iff, implies_true,
    and_true]
  exact ⟨passed_command hconnect (by decide) (by decide), Or.inr (Or.inl rfl),
    passed_command (List.append_assoc _ _ _) (by decide) (by decide),
    passed_command (List.append_assoc _ _ _) (by decide) (by decide)⟩

theorem passed_askingRow (rtmpStream : List UInt8) (streamId : UInt8) :
    ∀ o ∈ askingRow rtmpStream streamId, Passed o.message := by
  have hrequest (name : List UInt8) (number : Nat) (rest : List UInt8) :
      requestBody name number ++ rest =
        stringBytes name ++ (numberBytes number ++ ([0x05] ++ rest)) := by
    simp only [requestBody, List.append_assoc]
  have hplay : playBody rtmpStream = requestBody (ascii "play") 0x4014000000000000 ++
      (stringBytes rtmpStream ++ numberBytes 0xc09f400000000000) := List.append_assoc _ _ _
  simp only [askingRow, List.forall_mem_cons, List.not_mem_nil, false_imp_iff, implies_true,
    and_true]
  exact ⟨passed_command (hrequest _ _ _) (by decide) (by decide),
    passed_command (hplay.trans (hrequest _ _ _)) (by decide) (by decide), Or.inl rfl⟩

/-- The bytes behind the handshake. -/
def requestBytes (rtmpUrl rtmpApp rtmpStream : List UInt8)
    (acknowledgementSize rtmpNowStreamId : Nat) : List UInt8 :=
  connectRequest rtmpApp rtmpUrl ++ createStreamPacket acknowledgementSize ++
    askingBytes rtmpStream rtmpNowStreamId

/-- With a stream name of up to 97 bytes every message is read as it was meant. -/
theorem readMessages_requests {rtmpUrl rtmpApp rtmpStream : List UInt8}
    (happ : rtmpApp.length ≤ 31) (hurl : rtmpUrl.length ≤ 511) (hstream : rtmpStream.length ≤ 97)
    (acknowledgementSize rtmpNowStreamId : Nat) :
    (readMessages (requestBytes rtmpUrl rtmpApp rtmpStream acknowledgementSize
      rtmpNowStreamId)).map RtmpMessage.payload =
        sessionMessages rtmpUrl rtmpApp rtmpStream acknowledgementSize := by
  have hbytes : requestBytes rtmpUrl rtmpApp rtmpStream acknowledgementSize rtmpNowStreamId =
      (openingRow rtmpUrl rtmpApp acknowledgementSize ++
        askingRow rtmpStream (playStreamId rtmpNowStreamId)).flatMap (·.bytes 128) := by
    rw [List.flatMap_append, openingRow_bytes happ hurl, askingRow_bytes hstream]
    rfl
  rw [hbytes, readMessages_row]
  · rfl
  · intro o ho
    rcases List.mem_append.1 ho with ho | ho
    · exact plain_openingRow happ hurl _ o ho
    · exact plain_askingRow (by omega) _ o ho
  · intro o ho
    rcases List.mem_append.1 ho with ho | ho
    · exact passed_openingRow _ _ _ o ho
    · exact passed_askingRow _ _ o ho

/-! ### Where `play` begins -/

/-- `02 00 04`, which `play` begins with, stands at `k`. -/
def PlayAt (l : List UInt8) (k : Nat) : Prop :=
  l.getD k 0 = 0x02 ∧ l.getD (k + 1) 0 = 0x00 ∧ l.getD (k + 2) 0 = 0x04

/-- It begins nowhere in the list, whatever comes behind. -/
def Clear : List UInt8 → Prop
  | [] => True
  | [a] => a ≠ 0x02
  | [a, b] => (a ≠ 0x02 ∨ b ≠ 0x00) ∧ b ≠ 0x02
  | a :: b :: c :: rest => (a ≠ 0x02 ∨ b ≠ 0x00 ∨ c ≠ 0x04) ∧ Clear (b :: c :: rest)

instance decidableClear : (l : List UInt8) → Decidable (Clear l)
  | [] => isTrue trivial
  | [a] => inferInstanceAs (Decidable (a ≠ 0x02))
  | [a, b] => inferInstanceAs (Decidable ((a ≠ 0x02 ∨ b ≠ 0x00) ∧ b ≠ 0x02))
  | _ :: b :: c :: rest =>
    have : Decidable (Clear (b :: c :: rest)) := decidableClear _
    inferInstanceAs (Decidable (_ ∧ _))

/-- It does not begin at this byte. -/
private theorem playAt_cons {a : UInt8} {l : List UInt8} {k : Nat} (h : PlayAt (a :: l) k)
    (hne : a ≠ 0x02 ∨ l.getD 0 0 ≠ 0x00 ∨ l.getD 1 0 ≠ 0x04) : ∃ j, k = 1 + j ∧ PlayAt l j := by
  cases k with
  | zero =>
    rcases hne with hne | hne | hne
    · exact absurd h.1 hne
    · exact absurd h.2.1 hne
    · exact absurd h.2.2 hne
  | succ k => exact ⟨k, Nat.add_comm k 1, h⟩

/-- Nor in a list where it begins nowhere. -/
private theorem playAt_clear {l more : List UInt8} (hl : Clear l) {k : Nat}
    (h : PlayAt (l ++ more) k) : ∃ j, k = l.length + j ∧ PlayAt more j := by
  induction l generalizing k with
  | nil => exact ⟨k, (Nat.zero_add k).symm, h⟩
  | cons a l ih =>
    have hsplit : Clear l ∧
        (a ≠ 0x02 ∨ (l ++ more).getD 0 0 ≠ 0x00 ∨ (l ++ more).getD 1 0 ≠ 0x04) := by
      match l, hl with
      | [], hl => exact ⟨trivial, Or.inl hl⟩
      | [b], hl => exact ⟨hl.2, hl.1.imp_right Or.inl⟩
      | b :: c :: rest, hl => exact ⟨hl.2, hl.1⟩
    obtain ⟨j, rfl, hj⟩ := playAt_cons h hsplit.2
    obtain ⟨i, rfl, hi⟩ := ih hsplit.1 hj
    refine ⟨i, ?_, hi⟩
    rw [List.length_cons]
    omega

/-- Nor in a text. -/
private theorem playAt_text {text more : List UInt8} (htext : ∀ b ∈ text, b ≠ 0)
    (hmore : more.getD 0 0 ≠ 0x00 ∨ more.getD 1 0 ≠ 0x04) {k : Nat}
    (h : PlayAt (text ++ more) k) : ∃ j, k = text.length + j ∧ PlayAt more j := by
  induction text generalizing k with
  | nil => exact ⟨k, (Nat.zero_add k).symm, h⟩
  | cons a text ih =>
    have hnext : (text ++ more).getD 0 0 ≠ 0x00 ∨ (text ++ more).getD 1 0 ≠ 0x04 := by
      cases text with
      | nil => exact hmore
      | cons b text => exact Or.inl (htext b (List.mem_cons_of_mem _ List.mem_cons_self))
    obtain ⟨j, rfl, hj⟩ := playAt_cons h (Or.inr hnext)
    obtain ⟨i, rfl, hi⟩ := ih (fun b hb ↦ htext b (List.mem_cons_of_mem _ hb)) hj
    refine ⟨i, ?_, hi⟩
    rw [List.length_cons]
    omega

/-- Nor at the length of a text. -/
private theorem playAt_name {text more : List UInt8} (htext : ∀ b ∈ text, b ≠ 0)
    (hlow : 98 ≤ text.length) (hhigh : text.length ≤ 127)
    (hmore : more.getD 0 0 ≠ 0x00 ∨ more.getD 1 0 ≠ 0x04) {k : Nat}
    (h : PlayAt (stringBytes text ++ more) k) :
    ∃ j, k = 3 + text.length + j ∧ PlayAt more j := by
  have hsize : be16Bytes text.length = [0x00, UInt8.ofNat text.length] := by
    have hdiv : text.length / 256 = 0 := Nat.div_eq_of_lt (by omega)
    unfold be16Bytes
    rw [hdiv]
    rfl
  have hnat : (UInt8.ofNat text.length).toNat = text.length := by
    rw [UInt8.toNat_ofNat']
    omega
  have hne (b : UInt8) (hb : b.toNat < 98) : UInt8.ofNat text.length ≠ b := by
    intro heq
    rw [heq] at hnat
    omega
  unfold stringBytes at h
  rw [hsize] at h
  obtain ⟨j, rfl, hj⟩ := playAt_cons h (Or.inr (Or.inr (hne 0x04 (by decide))))
  obtain ⟨i, rfl, hi⟩ := playAt_cons hj (Or.inl (by decide))
  obtain ⟨n, rfl, hn⟩ := playAt_cons hi (Or.inl (hne 0x02 (by decide)))
  obtain ⟨r, rfl, hr⟩ := playAt_text htext hmore hn
  exact ⟨r, by omega, hr⟩

private theorem streamHeader_short {n : Nat} (hn : n < 256) (streamId : UInt8) :
    streamHeader 0x08 0x14 n streamId =
      [0x08, 0, 0, 0, 0, 0, UInt8.ofNat n, 0x14, streamId, 0, 0, 0] := by
  have h2 : n / 65536 = 0 := Nat.div_eq_of_lt (by omega)
  have h1 : n / 256 = 0 := Nat.div_eq_of_lt (by omega)
  unfold streamHeader headerBytes be24Bytes
  rw [h2, h1]
  rfl

/-- Nor in a header. -/
private theorem playAt_header {n : Nat} (hlow : 98 ≤ n) (hn : n < 256) {streamId : UInt8}
    {more : List UInt8} {k : Nat} (h : PlayAt (streamHeader 0x08 0x14 n streamId ++ more) k) :
    ∃ j, k = 12 + j ∧ PlayAt more j := by
  have hne : UInt8.ofNat n ≠ 0x02 := by
    intro heq
    have hnat := congrArg UInt8.toNat heq
    rw [UInt8.toNat_ofNat'] at hnat
    change n % 256 = 2 at hnat
    omega
  have hstart : Clear [0x08, 0, 0, 0, 0, 0] := by decide
  have hend : Clear [0, 0, 0] := by decide
  have hthird : (0 :: 0 :: 0 :: more).getD 1 0 ≠ 0x04 := by
    change (0 : UInt8) ≠ 0x04
    decide
  rw [streamHeader_short hn] at h
  obtain ⟨j, rfl, hj⟩ := playAt_clear hstart h
  obtain ⟨i, rfl, hi⟩ := playAt_cons hj (Or.inl hne)
  obtain ⟨r, rfl, hr⟩ := playAt_cons hi (Or.inl (by decide))
  obtain ⟨q, rfl, hq⟩ := playAt_cons hr (Or.inr (Or.inr hthird))
  obtain ⟨p, rfl, hp⟩ := playAt_clear hend hq
  refine ⟨p, ?_, hp⟩
  simp only [List.length_cons, List.length_nil]
  omega

/-- In these packets, `play` begins at one place. -/
theorem playAt_askingBytes {rtmpStream : List UInt8} (hnul : ∀ b ∈ rtmpStream, b ≠ 0)
    (hlow : 98 ≤ rtmpStream.length) (hhigh : rtmpStream.length ≤ 127) {rtmpNowStreamId k : Nat}
    (h : PlayAt (askingBytes rtmpStream rtmpNowStreamId) k) : k = rtmpStream.length + 55 := by
  have hlength := length_getStreamLengthBody rtmpStream
  have hplay := length_playBody rtmpStream
  have hget : Clear (requestBody (ascii "getStreamLength") 0x4010000000000000) := by
    decide +kernel
  have hgetLength : (requestBody (ascii "getStreamLength") 0x4010000000000000).length = 28 := by
    decide +kernel
  have hask : ∃ rest, requestBody (ascii "play") 0x4014000000000000 = 0x02 :: rest ∧ Clear rest :=
    ⟨_, rfl, by decide +kernel⟩
  have hend : Clear (numberBytes 0xc09f400000000000 ++ setBufferLengthEvent) := by
    rw [setBufferLengthEvent_eq]
    decide +kernel
  have hfirst : (numberBytes 0xc09f400000000000 ++ setBufferLengthEvent).getD 1 0 ≠ 0x04 := by
    rw [setBufferLengthEvent_eq]
    decide +kernel
  have hbasic (n : Nat) (streamId : UInt8) (more : List UInt8) :
      (streamHeader 0x08 0x14 n streamId ++ more).getD 0 0 ≠ 0x00 := by
    change (0x08 : UInt8) ≠ 0x00
    decide
  unfold askingBytes at h
  rw [getStreamLengthRequest_eq hhigh, playRequest_eq _ hhigh, List.append_assoc,
    List.append_assoc] at h
  obtain ⟨j, rfl, hj⟩ := playAt_header (by omega) (by omega) h
  have hbody : getStreamLengthBody rtmpStream = requestBody (ascii "getStreamLength")
      0x4010000000000000 ++ stringBytes rtmpStream := rfl
  rw [hbody, List.append_assoc] at hj
  obtain ⟨i, rfl, hi⟩ := playAt_clear hget hj
  obtain ⟨r, rfl, hr⟩ := playAt_name hnul hlow hhigh
    (Or.inl (hbasic _ _ _)) hi
  obtain ⟨q, rfl, hq⟩ := playAt_header (by omega) (by omega) hr
  rw [hgetLength]
  cases q with
  | zero => omega
  | succ q =>
    exfalso
    obtain ⟨rest, hrest, hclear⟩ := hask
    have hbody' : playBody rtmpStream = 0x02 :: (rest ++
        (stringBytes rtmpStream ++ numberBytes 0xc09f400000000000)) := by
      unfold playBody
      rw [hrest, List.append_assoc]
      rfl
    have hlater : PlayAt (rest ++ (stringBytes rtmpStream ++
        (numberBytes 0xc09f400000000000 ++ setBufferLengthEvent))) q := by
      rw [hbody'] at hq
      simp only [List.cons_append, List.append_assoc] at hq
      exact hq
    obtain ⟨p, rfl, hp⟩ := playAt_clear hclear hlater
    obtain ⟨o, rfl, ho⟩ := playAt_name hnul hlow hhigh (Or.inr hfirst) hp
    rw [← List.append_nil (numberBytes _ ++ _)] at ho
    obtain ⟨_, -, hnil⟩ := playAt_clear hend ho
    have hzero := hnil.1
    rw [List.getD_nil] at hzero
    exact absurd hzero (by decide)

/-! ### Longer stream names -/

theorem length_askingBytes {rtmpStream : List UInt8} (h : rtmpStream.length ≤ 127)
    (rtmpNowStreamId : Nat) :
    (askingBytes rtmpStream rtmpNowStreamId).length = 2 * rtmpStream.length + 102 := by
  have hheader (n : Nat) (streamId : UInt8) : (streamHeader 0x08 0x14 n streamId).length = 12 := rfl
  have hevent : setBufferLengthEvent.length = 18 := by
    rw [setBufferLengthEvent_eq]
    rfl
  unfold askingBytes
  rw [getStreamLengthRequest_eq h, playRequest_eq _ h]
  simp only [List.length_append, hheader, hevent, length_getStreamLengthBody, length_playBody]
  omega

/-- The header of `getStreamLength` begins no message body. -/
private theorem askingBytes_header {rtmpStream : List UInt8} (hlow : 98 ≤ rtmpStream.length)
    (hhigh : rtmpStream.length ≤ 127) (rtmpNowStreamId : Nat) {k : Nat} (hk : k < 12) :
    (askingBytes rtmpStream rtmpNowStreamId).getD k 0 ≠ 0x02 := by
  have hlength := length_getStreamLengthBody rtmpStream
  have hne : UInt8.ofNat (getStreamLengthBody rtmpStream).length ≠ 0x02 := by
    intro heq
    have hnat := congrArg UInt8.toNat heq
    rw [UInt8.toNat_ofNat'] at hnat
    change (getStreamLengthBody rtmpStream).length % 256 = 2 at hnat
    omega
  unfold askingBytes
  rw [getStreamLengthRequest_eq hhigh, streamHeader_short (by omega), List.append_assoc,
    List.getD_append _ _ _ _ (by simpa using hk), List.getD_eq_getElem _ _ (by simpa using hk)]
  intro heq
  have hmem := List.getElem_mem (l := [0x08, 0, 0, 0, 0, 0,
    UInt8.ofNat (getStreamLengthBody rtmpStream).length, 0x14, 0, 0, 0, 0]) (by simpa using hk)
  rw [heq] at hmem
  simp [hne.symm] at hmem

/-- The fifth byte of the header of `play`. -/
private theorem askingBytes_play {rtmpStream : List UInt8} (h : rtmpStream.length ≤ 127)
    (rtmpNowStreamId : Nat) :
    (askingBytes rtmpStream rtmpNowStreamId).getD (rtmpStream.length + 47) 0 = 0 := by
  have hlength := length_playBody rtmpStream
  have hfront : (getStreamLengthRequest rtmpStream).length = rtmpStream.length + 43 := by
    rw [getStreamLengthRequest_eq h, List.length_append, length_getStreamLengthBody]
    change 12 + _ = _
    omega
  have hbehind : (askingBytes rtmpStream rtmpNowStreamId).getD (rtmpStream.length + 43 + 4) 0 =
      (playRequest rtmpNowStreamId rtmpStream ++ setBufferLengthEvent).getD 4 0 :=
    getD_behind hfront 4
  rw [hbehind, playRequest_eq _ h, streamHeader_short (by omega)]
  rfl

private theorem getD_of_slice {mem : Mem} {x n j : Nat} {body : List UInt8}
    (h : mem.slice x n = body.take n) (hn : n ≤ body.length) (hj : j < n) :
    mem (x + j) = body.getD j 0 := by
  have hget : (mem.slice x n).getD j 0 = (body.take n).getD j 0 := by rw [h]
  rw [List.getD_eq_getElem _ _ (by rw [Mem.length_slice]; exact hj), Mem.getElem_slice,
    List.getD_eq_getElem _ _ (by rw [List.length_take]; omega), List.getElem_take,
    ← List.getD_eq_getElem _ 0] at hget
  exact hget

/-- No reader gets the three messages from the packets that ask for the stream. -/
private theorem asking_misread {front rtmpStream : List UInt8} (hnul : ∀ b ∈ rtmpStream, b ≠ 0)
    (hlow : 98 ≤ rtmpStream.length) (hhigh : rtmpStream.length ≤ 127) {rtmpNowStreamId : Nat}
    {c : RtmpClient} {mem : Mem} {fuel : Nat}
    (hreads : ReadsFrom (Mem.ofList (front ++ askingBytes rtmpStream rtmpNowStreamId))
      front.length c)
    (hunread : Unread (Mem.ofList (front ++ askingBytes rtmpStream rtmpNowStreamId)) mem c)
    {m₁ m₂ m₃ : RtmpMessage} (h₁ : m₁.payload = (0x14, getStreamLengthBody rtmpStream))
    (h₂ : m₂.payload = (0x14, playBody rtmpStream))
    (h₃ : m₃.payload = (0x04, setBufferLengthBody)) :
    (chunkLoop fuel c mem
      (front ++ askingBytes rtmpStream rtmpNowStreamId).length).client.rtmpMessages ≠
        c.rtmpMessages ++ [m₁, m₂, m₃] := by
  have hlength₁ := length_getStreamLengthBody rtmpStream
  have hlength₂ := length_playBody rtmpStream
  have htotal : (front ++ askingBytes rtmpStream rtmpNowStreamId).length =
      front.length + (2 * rtmpStream.length + 102) := by
    rw [List.length_append, length_askingBytes hhigh]
  have hbyte (k : Nat) : Mem.ofList (front ++ askingBytes rtmpStream rtmpNowStreamId)
      (front.length + k) = (askingBytes rtmpStream rtmpNowStreamId).getD k 0 := getD_behind rfl k
  have hplace {x n : Nat} (hx : front.length ≤ x)
      (hslice : (Mem.ofList (front ++ askingBytes rtmpStream rtmpNowStreamId)).slice x n =
        (playBody rtmpStream).take n) (hn : n ≤ (playBody rtmpStream).length) (h3 : 3 ≤ n) :
      x = front.length + (rtmpStream.length + 55) := by
    obtain ⟨k, rfl⟩ := Nat.exists_eq_add_of_le hx
    have h0 := getD_of_slice hslice hn (by omega : 0 < n)
    have h1 := getD_of_slice hslice hn (by omega : 1 < n)
    have h2 := getD_of_slice hslice hn (by omega : 2 < n)
    rw [Nat.add_assoc, hbyte] at h0 h1 h2
    have hk := playAt_askingBytes hnul hlow hhigh ⟨h0, h1, h2⟩
    omega
  generalize Mem.ofList (front ++ askingBytes rtmpStream rtmpNowStreamId) = whole
    at hreads hunread hbyte hplace
  intro hfinal
  rw [htotal] at hfinal
  have hbody₁ : m₁.body = getStreamLengthBody rtmpStream := congrArg Prod.snd h₁
  have hbody₂ : m₂.body = playBody rtmpStream := congrArg Prod.snd h₂
  have hbody₃ : m₃.body = setBufferLengthBody := congrArg Prod.snd h₃
  have htype₁ : m₁.messageType ≠ 1 := by
    have htype : m₁.messageType = 0x14 := congrArg Prod.fst h₁
    rw [htype]
    decide
  have htype₂ : m₂.messageType ≠ 1 := by
    have htype : m₂.messageType = 0x14 := congrArg Prod.fst h₂
    rw [htype]
    decide
  obtain ⟨c₁, hnext₁⟩ := next_message fuel hreads hunread hfinal
  -- `getStreamLength` has a header more than it was sent with
  have hpos₁ : ((front.length + (rtmpStream.length + 43) : Nat) : Int) < c₁.mIParsePos := by
    have horigin := hnext₁.origin
    rw [hbody₁] at horigin
    cases horigin with
    | single pos hl hshort _ _ _ _ => omega
    | final start hlong hfirst hbody hlast =>
      have h0 := getD_of_slice hbody (by omega) (by decide : 0 < 128)
      obtain ⟨k, rfl⟩ := Nat.exists_eq_add_of_le hfirst
      rw [Nat.add_zero, hbyte] at h0
      have hk : 12 ≤ k := by
        by_contra hlt
        exact askingBytes_header hlow hhigh rtmpNowStreamId (by omega) h0
      omega
  obtain ⟨hreads₁, mem₁, fuel₁, hunread₁, hfinal₁⟩ := hnext₁.later htype₁ (by simp)
  obtain ⟨c₂, hnext₂⟩ := next_message fuel₁ hreads₁ hunread₁ hfinal₁
  -- so has `play`, unless it fits a chunk; then there is no room for its header
  have hpos₂ : ((front.length + (2 * rtmpStream.length + 84) : Nat) : Int) < c₂.mIParsePos := by
    have horigin := hnext₂.origin
    rw [hbody₂] at horigin
    cases horigin with
    | single pos hl hshort hpos hheader hbody hlast =>
      exfalso
      have hx := hplace (by omega) (hbody.trans (List.take_length).symm) (Nat.le_refl _) (by omega)
      rcases hheader (List.length_pos_iff.1 (by omega)) with ⟨-, heleven⟩ | ⟨hfmt, hseven⟩
      · omega
      · have hzero : whole pos = 0 := by
          have hpos' : pos = front.length + (rtmpStream.length + 47) := by omega
          rw [hpos', hbyte]
          exact askingBytes_play hhigh _
        unfold chunkFmt Mem.shift at hfmt
        rw [Nat.add_zero, hzero] at hfmt
        exact absurd hfmt (by decide)
    | final start hlong hfirst hbody hlast =>
      have hx := hplace hfirst hbody (by omega) (by decide)
      omega
  obtain ⟨hreads₂, mem₂, fuel₂, hunread₂, hfinal₂⟩ := hnext₂.later htype₂ (by simp)
  obtain ⟨c₃, hnext₃⟩ := next_message fuel₂ hreads₂ hunread₂ hfinal₂
  -- Set Buffer Length does not fit in what is left
  have hinside := hnext₃.inside
  have horigin := hnext₃.origin
  rw [hbody₃] at horigin
  cases horigin with
  | single pos hl hshort hpos hheader hbody hlast =>
    rw [length_setBufferLengthBody] at hlast
    rcases hheader (by decide) with ⟨-, heleven⟩ | ⟨-, hseven⟩
    · omega
    · omega
  | final start hlong _ _ _ => exact absurd hlong (by decide)

/-- With a longer stream name the reader gets other messages. -/
theorem readMessages_long {rtmpUrl rtmpApp rtmpStream : List UInt8} (happ : rtmpApp.length ≤ 31)
    (hurl : rtmpUrl.length ≤ 511) (hnul : ∀ b ∈ rtmpStream, b ≠ 0)
    (hlow : 98 ≤ rtmpStream.length) (hhigh : rtmpStream.length ≤ 127)
    (acknowledgementSize rtmpNowStreamId : Nat) :
    (readMessages (requestBytes rtmpUrl rtmpApp rtmpStream acknowledgementSize
      rtmpNowStreamId)).map RtmpMessage.payload ≠
        sessionMessages rtmpUrl rtmpApp rtmpStream acknowledgementSize := by
  have hplain := plain_openingRow happ hurl acknowledgementSize
  obtain ⟨-, hstream, hdeliveries, hquiet⟩ :=
    sends_row (Sender.quiet_init 128 fun _ ↦ 0) (by decide) hplain
  obtain ⟨c, mem, fuel, hread, -, hmessages⟩ := reads_row hplain
    (passed_openingRow rtmpUrl rtmpApp acknowledgementSize) (askingBytes rtmpStream rtmpNowStreamId)
  rw [openingRow_bytes happ hurl] at hread hmessages hstream
  -- the reader stands between the packets, and no message is open
  have hpos : c.mIParsePos =
      (connectRequest rtmpApp rtmpUrl ++ createStreamPacket acknowledgementSize).length := by
    rw [hread.parsePos, hstream]
    exact Int.zero_add _
  have hidle : ∀ i, 2 ≤ i → i < 64 → (c.rtmpChunk i).lastMessageSize = 0 := by
    intro i h2 h64
    rw [(hread.rep.lane i h2 h64).last, hquiet.pending i]
    rfl
  obtain ⟨msgs, hmsgs, hmatch⟩ := hread.messages
  obtain ⟨more, hmore⟩ := chunkLoop_messages fuel hread.sound mem
    (connectRequest rtmpApp rtmpUrl ++ createStreamPacket acknowledgementSize ++
      askingBytes rtmpStream rtmpNowStreamId).length
  have hfour : msgs.map RtmpMessage.payload =
      (openingRow rtmpUrl rtmpApp acknowledgementSize).map fun o ↦ payloadOf o.message := by
    have hmap := congrArg (List.map payloadOf) hdeliveries
    rw [List.map_map, List.map_map] at hmap
    exact (payload_of_forall₂ hmatch).trans hmap
  intro hall
  unfold requestBytes at hall
  rw [hmessages, hmore, hmsgs, List.map_append, List.map_append, hfour] at hall
  have hthree : more.map RtmpMessage.payload = [(0x14, getStreamLengthBody rtmpStream),
      (0x14, playBody rtmpStream), (0x04, setBufferLengthBody)] := by
    have hsplit : sessionMessages rtmpUrl rtmpApp rtmpStream acknowledgementSize =
        (openingRow rtmpUrl rtmpApp acknowledgementSize).map (fun o ↦ payloadOf o.message) ++
          [(0x14, getStreamLengthBody rtmpStream), (0x14, playBody rtmpStream),
            (0x04, setBufferLengthBody)] := rfl
    rw [hsplit] at hall
    exact List.append_cancel_left hall
  obtain ⟨m₁, rest₁, rfl, h₁, hrest₁⟩ := List.map_eq_cons_iff.1 hthree
  obtain ⟨m₂, rest₂, rfl, h₂, hrest₂⟩ := List.map_eq_cons_iff.1 hrest₁
  obtain ⟨m₃, rest₃, rfl, h₃, hrest₃⟩ := List.map_eq_cons_iff.1 hrest₂
  rw [List.map_eq_nil_iff.1 hrest₃] at hmore
  exact asking_misread hnul hlow hhigh
    (readsFrom_idle (hread.rep.chunkSize.trans hquiet.chunkSize) hread.sound (by omega) hidle)
    hread.mem h₁ h₂ h₃ hmore

/-! ### Sessions -/

/-- The packets behind the handshake. -/
def requestPackets (rtmpUrl rtmpApp rtmpStream : List UInt8)
    (acknowledgementSize rtmpNowStreamId : Nat) : List (List UInt8) :=
  [connectRequest rtmpApp rtmpUrl, createStreamPacket acknowledgementSize,
    getStreamLengthRequest rtmpStream, playRequest rtmpNowStreamId rtmpStream, setBufferLengthEvent]

private theorem flatten_requestPackets (rtmpUrl rtmpApp rtmpStream : List UInt8)
    (acknowledgementSize rtmpNowStreamId : Nat) :
    (requestPackets rtmpUrl rtmpApp rtmpStream acknowledgementSize rtmpNowStreamId).flatten =
      requestBytes rtmpUrl rtmpApp rtmpStream acknowledgementSize rtmpNowStreamId := by
  unfold requestPackets requestBytes askingBytes
  simp only [List.flatten_cons, List.flatten_nil, List.append_nil, List.append_assoc]

/-- A session that has asked for its stream has sent the seven messages. A reader gets them from the
bytes behind the handshake if and only if the stream name has at most 97 bytes. -/
theorem rtmpRecvData_messages {u : RtmpClient} (h : (rtmpStartPlay (rtmpClient u)).1 = 0)
    (hsend : ∀ n, 0 ≤ u.host.sendResult n) {rtmpUrl rtmpApp rtmpStream : List UInt8}
    (happ : rtmpApp.length ≤ 31) (hurl : rtmpUrl.length ≤ 511) (hstream : rtmpStream.length ≤ 127)
    (hnul : ∀ b ∈ rtmpStream, b ≠ 0) (mPBuffer : Mem) (segments : List (List UInt8)) :
    let s := recvRun (rtmpRecvData (playing u rtmpUrl rtmpApp rtmpStream) mPBuffer) segments
    s.client.rtmpStatus = .waitPlay → ∃ acknowledgementSize rtmpNowStreamId,
      s.client.sent.drop 2 =
        requestPackets rtmpUrl rtmpApp rtmpStream acknowledgementSize rtmpNowStreamId ∧
      ((readMessages (s.client.sent.drop 2).flatten).map RtmpMessage.payload =
        sessionMessages rtmpUrl rtmpApp rtmpStream acknowledgementSize ↔
          rtmpStream.length ≤ 97) := by
  intro s hstatus
  have horder := ((keptByTrace_inOrder rtmpUrl rtmpApp rtmpStream 0).started
    ⟨inOrder_playing h hsend rtmpUrl rtmpApp rtmpStream, Nat.zero_le _⟩ mPBuffer segments).now.1
  obtain ⟨timeNow, timeNow', acknowledgementSize, rtmpNowStreamId, hsent⟩ := horder.sent
  have hpackets : s.client.sent.drop 2 =
      requestPackets rtmpUrl rtmpApp rtmpStream acknowledgementSize rtmpNowStreamId := by
    change s.client.sent = List.take s.client.rtmpStatus.packets _ at hsent
    rw [hsent, hstatus]
    rfl
  refine ⟨acknowledgementSize, rtmpNowStreamId, hpackets, ?_⟩
  rw [hpackets, flatten_requestPackets]
  constructor
  · intro hread
    by_contra hlong
    exact readMessages_long happ hurl hnul (by omega) hstream acknowledgementSize rtmpNowStreamId
      hread
  · intro hshort
    exact readMessages_requests happ hurl hshort acknowledgementSize rtmpNowStreamId

/-- A session for the stream `a` of the application `live`. -/
theorem rtmpRecvData_messages_named :
    let s := recvRun (rtmpRecvData
      (playing blankClient (ascii "rtmp://host/live") (ascii "live") (ascii "a")) fun _ ↦ 0)
        [zeroHandshake, repeatedReplies]
    s.client.rtmpStatus = .waitPlay ∧ ∃ acknowledgementSize rtmpNowStreamId,
      s.client.sent.drop 2 = requestPackets (ascii "rtmp://host/live") (ascii "live") (ascii "a")
        acknowledgementSize rtmpNowStreamId ∧
      ((readMessages (s.client.sent.drop 2).flatten).map RtmpMessage.payload =
        sessionMessages (ascii "rtmp://host/live") (ascii "live") (ascii "a")
          acknowledgementSize ↔ (ascii "a").length ≤ 97) := by
  have hstatus : (recvRun (rtmpRecvData
      (playing blankClient (ascii "rtmp://host/live") (ascii "live") (ascii "a")) fun _ ↦ 0)
        [zeroHandshake, repeatedReplies]).client.rtmpStatus = .waitPlay := by
    decide +kernel
  have hnul : ∀ b ∈ ascii "a", b ≠ 0 := by
    have hname : ascii "a" = [0x61] := by decide
    simp [hname]
  exact ⟨hstatus, rtmpRecvData_messages (u := blankClient) (by decide) (fun _ ↦ Int.le_refl 0)
    (by decide) (by decide) (by decide) hnul (fun _ ↦ 0) [zeroHandshake, repeatedReplies]
    hstatus⟩

/-- With a stream name of 98 bytes, the reader gets one message behind `_checkbw`, of type 127. -/
theorem rtmpRecvData_messages_misread :
    let s := recvRun (rtmpRecvData (playing blankClient [] [] (List.replicate 98 0x61)) fun _ ↦ 0)
      [zeroHandshake, repeatedReplies]
    s.client.rtmpStatus = .waitPlay ∧
      (readMessages (s.client.sent.drop 2).flatten).map RtmpMessage.messageType =
        [0x14, 0x05, 0x14, 0x14, 0x7f] ∧
      ∀ acknowledgementSize, (readMessages (s.client.sent.drop 2).flatten).map RtmpMessage.payload ≠
        sessionMessages [] [] (List.replicate 98 0x61) acknowledgementSize := by
  intro s
  have htypes : (readMessages (s.client.sent.drop 2).flatten).map RtmpMessage.messageType =
      [0x14, 0x05, 0x14, 0x14, 0x7f] := by
    decide +kernel
  refine ⟨by decide +kernel, htypes, fun acknowledgementSize heq ↦ ?_⟩
  have hcount := congrArg List.length htypes
  have hmessages := congrArg List.length heq
  rw [List.length_map] at hcount hmessages
  rw [hcount] at hmessages
  change 5 = 7 at hmessages
  omega

end RtmpRecv.Client
