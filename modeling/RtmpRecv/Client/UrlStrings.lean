import RtmpRecv.Client.Setup

/-!
# The strings of a URL

Library `Client`. A fresh client gets back the parts that a URL was put together from. A client that
was given another URL keeps some of its bytes.
-/

namespace RtmpRecv.Client
open RtmpRecv.Base

/-! ### A fresh client -/

/-- A port in decimal digits; zeros may lead. -/
structure PortText where
  digits : List UInt8
  decimal : ∀ b ∈ digits, 0x30 ≤ b ∧ b ≤ 0x39
  length_le : digits.length ≤ 31
  value_le : digitsValue 0 digits ≤ 65535

/-- The parts of a URL `rtmp://host[:port]/app/stream`. -/
structure UrlParts where
  host : List UInt8
  port : Option PortText
  app : List UInt8
  stream : List UInt8
  host_plain : 0 ∉ host ∧ colon ∉ host ∧ slash ∉ host
  app_plain : 0 ∉ app ∧ slash ∉ app
  stream_plain : 0 ∉ stream
  app_le : app.length ≤ 31
  stream_le : stream.length ≤ 123

namespace UrlParts

/-- Host and port as they stand in the URL. -/
def server (u : UrlParts) : List UInt8 :=
  match u.port with
  | none => u.host
  | some port => u.host ++ colon :: port.digits

/-- The URL. -/
def bytes (u : UrlParts) : List UInt8 :=
  ascii "rtmp://" ++ (u.server ++ slash :: (u.app ++ slash :: u.stream))

/-- The port that the URL asks for. -/
def portNumber (u : UrlParts) : Nat :=
  match u.port with
  | none => 1935
  | some port => digitsValue 0 port.digits

private theorem scheme_plain : (ascii "rtmp://").length = 7 ∧ 0 ∉ ascii "rtmp://" := by
  decide +kernel

private theorem port_plain (port : PortText) : 0 ∉ port.digits ∧ slash ∉ port.digits := by
  constructor
  · intro hmem
    exact absurd (port.decimal _ hmem).1 (by decide)
  · intro hmem
    exact absurd (port.decimal _ hmem).1 (by decide)

private theorem server_plain (u : UrlParts) : 0 ∉ u.server ∧ slash ∉ u.server := by
  obtain ⟨hzero, -, hslash⟩ := u.host_plain
  unfold server
  cases u.port with
  | none => exact ⟨hzero, hslash⟩
  | some port =>
    obtain ⟨hpzero, hpslash⟩ := port_plain port
    have hcolon : (0 : UInt8) ≠ colon ∧ slash ≠ colon := by decide
    simp [hzero, hslash, hpzero, hpslash, hcolon]

theorem zero_notMem_bytes (u : UrlParts) : 0 ∉ u.bytes := by
  have hslash : (0 : UInt8) ≠ slash := by decide
  unfold bytes
  simp [scheme_plain.2, u.server_plain.1, u.app_plain.1, u.stream_plain, hslash]

private theorem cutAt_bytes (u : UrlParts) :
    cutAt slash (u.bytes.drop 7) = some (u.server, u.app ++ slash :: u.stream) := by
  have hdrop : u.bytes.drop 7 = u.server ++ slash :: (u.app ++ slash :: u.stream) :=
    List.drop_left' scheme_plain.1
  rw [hdrop]
  exact cutAt_append u.server_plain.2 _

theorem pathText_bytes (u : UrlParts) : pathText u.bytes = some (u.app ++ slash :: u.stream) := by
  unfold pathText
  rw [cutAt_bytes]
  rfl

theorem serverText_bytes (u : UrlParts) : serverText u.bytes = u.server := by
  unfold serverText
  rw [cutAt_bytes]

theorem hostText_bytes (u : UrlParts) : hostText u.bytes = u.host := by
  unfold hostText serverHost
  rw [serverText_bytes, server]
  cases u.port with
  | none =>
    dsimp only
    rw [cutAt_eq_none_iff.2 u.host_plain.2.1]
  | some port =>
    dsimp only
    rw [cutAt_append u.host_plain.2.1]

theorem portText_bytes (u : UrlParts) :
    portText u.bytes = match u.port with
      | none => ascii "1935"
      | some port => port.digits := by
  unfold portText serverPort
  rw [serverText_bytes, server]
  cases u.port with
  | none =>
    dsimp only
    rw [cutAt_eq_none_iff.2 u.host_plain.2.1]
  | some port =>
    dsimp only
    rw [cutAt_append u.host_plain.2.1]

theorem appText_bytes (u : UrlParts) : appText u.bytes = u.app := by
  unfold appText
  rw [pathText_bytes]
  dsimp only
  rw [cutAt_append u.app_plain.2]

theorem streamText_bytes (u : UrlParts) : streamText u.bytes = streamName u.stream := by
  unfold streamText
  rw [pathText_bytes]
  dsimp only
  rw [cutAt_append u.app_plain.2]

/-- The number that the digits of the port are read as. -/
theorem atoi_portText (u : UrlParts) : atoi (portText u.bytes) = u.portNumber := by
  rw [portText_bytes]
  unfold portNumber
  cases u.port with
  | none => decide +kernel
  | some port =>
    have hvalue : digitsValue 0 port.digits < 2147483648 :=
      Nat.lt_of_le_of_lt port.value_le (by decide)
    exact atoi_digits port.decimal hvalue

private theorem length_streamName_le (s : List UInt8) :
    (streamName s).length ≤ s.length + 4 := by
  unfold streamName
  split
  · have hmp4 : (ascii "mp4:").length = 4 := by decide +kernel
    rw [List.length_append, hmp4, Nat.add_comm]
  · exact Nat.le_add_right _ _

/-- The parts of a URL that is short enough fit. -/
theorem partsFit (u : UrlParts) (hwhole : u.bytes.length ≤ 511) : PartsFit u.bytes where
  scheme := by
    unfold bytes
    rw [List.length_append, scheme_plain.1]
    exact Nat.le_add_right _ _
  whole := hwhole
  port := by
    rw [portText_bytes]
    cases u.port with
    | none => decide +kernel
    | some port => exact port.length_le
  app := by
    rw [appText_bytes]
    exact u.app_le
  stream := by
    have hname := length_streamName_le u.stream
    have hstream := u.stream_le
    rw [streamText_bytes]
    omega

/-- A URL with a port and with slashes and colons in the name of its stream. -/
def sample : UrlParts where
  host := ascii "192.168.1.1"
  port := some ⟨ascii "01936", by decide +kernel, by decide +kernel, by decide +kernel⟩
  app := ascii "vod"
  stream := ascii "a/b:c"
  host_plain := by decide +kernel
  app_plain := by decide +kernel
  stream_plain := by decide +kernel
  app_le := by decide +kernel
  stream_le := by decide +kernel

end UrlParts

/-- The array holds the string and its NUL. -/
def Holds {n : Nat} (a : CharArray n) (s : List UInt8) : Prop := ∃ rest, a.bytes = s ++ 0 :: rest

/-- A fresh client that is given a URL has its host, its port, its application and its stream. -/
theorem rtmpSetupurl_parts (u : UrlParts) (hwhole : u.bytes.length < 512) :
    ∃ c, rtmpSetupurl u.bytes u.bytes.length .fresh = .ok (0, c) ∧ Holds c.rtmpUrl u.bytes ∧
      Holds c.rtmpHost u.host ∧ c.rtmpPort = u.portNumber ∧ Holds c.rtmpApp u.app ∧
      Holds c.rtmpStream
        (if ascii "mp4" <:+: u.stream ∧ colon ∉ u.stream then ascii "mp4:" ++ u.stream
          else u.stream) := by
  have hurl := u.partsFit (Nat.le_of_lt_succ hwhole)
  obtain ⟨c, hresult, hsetUp⟩ := rtmpSetupurl_fits u.zero_notMem_bytes hurl
    (UrlFields.settled_fresh.endsBehind hurl)
  refine ⟨c, hresult, hsetUp.rtmpUrl, ?_, ?_, ?_, ?_⟩
  · rw [← u.hostText_bytes]
    exact hsetUp.rtmpHost
  · rw [← u.atoi_portText]
    exact hsetUp.rtmpPort
  · have happ := hsetUp.rtmpApp _ u.pathText_bytes
    rw [cutAt_append u.app_plain.2] at happ
    -- behind the application stand the zeros of the constructor
    obtain ⟨k, hk⟩ : ∃ k, 32 - u.app.length = k + 1 :=
      ⟨31 - u.app.length, Nat.succ_sub u.app_le⟩
    refine ⟨List.replicate k 0, ?_⟩
    rw [happ]
    change u.app ++ (List.replicate 32 0).drop u.app.length = _
    rw [List.drop_replicate, hk, List.replicate_succ]
  · have hstream := hsetUp.rtmpStream (by rw [u.pathText_bytes]; exact Option.some_ne_none _)
    rw [u.streamText_bytes] at hstream
    exact hstream

/-- A URL with a port, and a stream name that is not an MP4 file. -/
theorem rtmpSetupurl_parts_sample :
    ∃ c, rtmpSetupurl UrlParts.sample.bytes UrlParts.sample.bytes.length .fresh = .ok (0, c) ∧
      Holds c.rtmpUrl UrlParts.sample.bytes ∧ Holds c.rtmpHost (ascii "192.168.1.1") ∧
      c.rtmpPort = 1936 ∧ Holds c.rtmpApp (ascii "vod") ∧
      Holds c.rtmpStream (ascii "a/b:c") := by
  obtain ⟨c, hresult, hurl, hhost, hport, happ, hstream⟩ :=
    rtmpSetupurl_parts UrlParts.sample (by decide +kernel)
  have hnumber : UrlParts.sample.portNumber = 1936 := by decide +kernel
  have hname : ¬(ascii "mp4" <:+: UrlParts.sample.stream ∧ colon ∉ UrlParts.sample.stream) := by
    decide +kernel
  rw [hnumber] at hport
  rw [if_neg hname] at hstream
  exact ⟨c, hresult, hurl, hhost, hport, happ, hstream⟩

/-! ### A client with another URL -/

/-- Two clients have the same strings, each with its NUL, and the same port. -/
structure SameStrings (c c' : UrlFields) : Prop where
  terminated : c.Terminated ∧ c'.Terminated
  rtmpUrl : c.rtmpUrl.string = c'.rtmpUrl.string
  rtmpHost : c.rtmpHost.string = c'.rtmpHost.string
  rtmpApp : c.rtmpApp.string = c'.rtmpApp.string
  rtmpStream : c.rtmpStream.string = c'.rtmpStream.string
  rtmpPort : c.rtmpPort = c'.rtmpPort

/-- The second URL writes over what the first one leaves: a URL without a path writes neither an
application nor a stream, and one with both copies its application without a NUL. -/
def Forgets (url₁ url₂ : List UInt8) : Prop :=
  match pathText url₂ with
  | none => appText url₁ = [] ∧ streamText url₁ = []
  | some path => ∀ app s, cutAt slash path = some (app, s) →
      (appText url₁).length ≤ app.length

theorem Holds.string_eq {n : Nat} {a : CharArray n} {s : List UInt8} (h : Holds a s)
    (hs : 0 ∉ s) : a.string = s := by
  obtain ⟨rest, hbytes⟩ := h
  exact CharArray.string_eq hs hbytes

private theorem zero_notMem_hostText {url : List UInt8} (h : 0 ∉ url) : 0 ∉ hostText url := by
  have hserver := zero_notMem_serverText h
  unfold hostText serverHost
  cases hcut : cutAt colon (serverText url) with
  | none => exact hserver
  | some parts =>
    obtain ⟨hsplit, -⟩ := cutAt_eq_some_iff.1 hcut
    rw [hsplit] at hserver
    exact fun hmem ↦ hserver (List.mem_append_left _ hmem)

private theorem live_plain : (ascii "live").length = 4 ∧ 0 ∉ ascii "live" := by decide +kernel

/-- Neither the application nor the stream of a URL has a NUL. -/
private theorem zero_notMem_texts {url : List UInt8} (h : 0 ∉ url) :
    0 ∉ appText url ∧ 0 ∉ streamText url := by
  unfold appText streamText
  cases hpath : pathText url with
  | none => exact ⟨List.not_mem_nil, List.not_mem_nil⟩
  | some path =>
    have hzero := zero_notMem_pathText h hpath
    dsimp only
    cases hcut : cutAt slash path with
    | none => exact ⟨live_plain.2, List.not_mem_nil⟩
    | some parts =>
      obtain ⟨hsplit, -⟩ := cutAt_eq_some_iff.1 hcut
      rw [hsplit, List.mem_append, List.mem_cons, not_or, not_or] at hzero
      exact ⟨hzero.1, zero_notMem_streamName hzero.2.2⟩

/-- What a URL leaves in a fresh client, down to the bytes of the application. -/
private theorem SetUp.ofFresh {url : List UInt8} {c : UrlFields} (h : SetUp .fresh url c)
    (hurl : PartsFit url) :
    c.rtmpApp.bytes = appText url ++ List.replicate (32 - (appText url).length) 0 ∧
      Holds c.rtmpStream (streamText url) := by
  have hfit := hurl.app
  cases hpath : pathText url with
  | none =>
    obtain ⟨happ, hstream⟩ := h.kept hpath
    unfold appText streamText
    rw [hpath, happ, hstream]
    exact ⟨rfl, List.replicate 127 0, rfl⟩
  | some path =>
    refine ⟨?_, h.rtmpStream (by rw [hpath]; exact Option.some_ne_none _)⟩
    rw [h.rtmpApp path hpath]
    unfold appText at hfit ⊢
    rw [hpath] at hfit ⊢
    dsimp only at hfit ⊢
    cases hcut : cutAt slash path with
    | none =>
      dsimp only
      rw [live_plain.1]
      exact congrArg (ascii "live" ++ 0 :: ·) (List.drop_replicate ..)
    | some parts => exact congrArg (parts.1 ++ ·) (List.drop_replicate ..)

/-- An application is the whole string exactly when the one before it was not longer. -/
private theorem string_over_iff {a b : CharArray 32} {app before : List UInt8} (happ : 0 ∉ app)
    (hbefore : 0 ∉ before) {k : Nat} (hb : b.bytes = before ++ List.replicate k 0)
    (ha : a.bytes = app ++ b.bytes.drop app.length) :
    a.string = app ↔ before.length ≤ app.length := by
  have hbytes : a.bytes =
      (app ++ before.drop app.length) ++ List.replicate (k - (app.length - before.length)) 0 := by
    rw [ha, hb, List.drop_append, List.drop_replicate, List.append_assoc]
  have hzero : 0 ∉ app ++ before.drop app.length := by
    rw [List.mem_append, not_or]
    exact ⟨happ, fun hmem ↦ hbefore (List.mem_of_mem_drop hmem)⟩
  rw [CharArray.string_of_zeros hzero hbytes, List.append_right_eq_self, List.drop_eq_nil_iff]

/-- Two clients set up with one URL can only differ in the application and the stream, and the one
that was fresh holds those of the URL. -/
private theorem sameStrings_iff_texts {url : List UInt8} (hzero : 0 ∉ url) (hurl : PartsFit url)
    {c₁ c c' : UrlFields} (hends : c₁.EndsBehind url) (h : SetUp c₁ url c)
    (h' : SetUp .fresh url c') :
    SameStrings c c' ↔ c.rtmpApp.string = appText url ∧ c.rtmpStream.string = streamText url := by
  obtain ⟨happ', hstream'⟩ := h'.ofFresh hurl
  obtain ⟨hazero, hszero⟩ := zero_notMem_texts hzero
  have happString' := CharArray.string_of_zeros hazero happ'
  have hstreamString' := hstream'.string_eq hszero
  have hhost := zero_notMem_hostText hzero
  constructor
  · intro hsame
    rw [hsame.rtmpApp, hsame.rtmpStream]
    exact ⟨happString', hstreamString'⟩
  · rintro ⟨happ, hstream⟩
    exact ⟨⟨h.terminated hends, h'.terminated (UrlFields.settled_fresh.endsBehind hurl)⟩,
      (Holds.string_eq h.rtmpUrl hzero).trans (Holds.string_eq h'.rtmpUrl hzero).symm,
      (Holds.string_eq h.rtmpHost hhost).trans (Holds.string_eq h'.rtmpHost hhost).symm,
      happ.trans happString'.symm, hstream.trans hstreamString'.symm,
      h.rtmpPort.trans h'.rtmpPort.symm⟩

/-- What one URL leaves in the client on top of what the other one left. -/
private theorem sameStrings_iff {url₁ url₂ : List UInt8} (hzero₁ : 0 ∉ url₁) (hzero₂ : 0 ∉ url₂)
    (hurl₁ : PartsFit url₁) (hurl₂ : PartsFit url₂) {c₁ c c' : UrlFields}
    (h₁ : SetUp .fresh url₁ c₁) (h : SetUp c₁ url₂ c) (h' : SetUp .fresh url₂ c') :
    SameStrings c c' ↔ Forgets url₁ url₂ := by
  obtain ⟨happ₁, hstream₁⟩ := h₁.ofFresh hurl₁
  obtain ⟨hazero₁, hszero₁⟩ := zero_notMem_texts hzero₁
  obtain ⟨hazero₂, hszero₂⟩ := zero_notMem_texts hzero₂
  have hends := (h₁.settled UrlFields.settled_fresh hurl₁).endsBehind hurl₂
  rw [sameStrings_iff_texts hzero₂ hurl₂ hends h h']
  unfold Forgets
  cases hpath : pathText url₂ with
  | none =>
    obtain ⟨happ, hstream⟩ := h.kept hpath
    have htexts : appText url₂ = [] ∧ streamText url₂ = [] := by
      unfold appText streamText
      rw [hpath]
      exact ⟨rfl, rfl⟩
    rw [happ, hstream, CharArray.string_of_zeros hazero₁ happ₁, hstream₁.string_eq hszero₁,
      htexts.1, htexts.2]
  | some path =>
    have hstream : c.rtmpStream.string = streamText url₂ :=
      Holds.string_eq (h.rtmpStream (by rw [hpath]; exact Option.some_ne_none _)) hszero₂
    have happ := h.rtmpApp path hpath
    cases hcut : cutAt slash path with
    | none =>
      have hlive : appText url₂ = ascii "live" := by
        unfold appText
        simp only [hpath, hcut]
      rw [hcut] at happ
      rw [hlive, CharArray.string_eq live_plain.2 happ]
      constructor
      · intro _ app s hsome
        cases hcut.symm.trans hsome
      · intro _
        exact ⟨rfl, hstream⟩
    | some parts =>
      obtain ⟨app, s⟩ := parts
      have happText : appText url₂ = app := by
        unfold appText
        simp only [hpath, hcut]
      rw [hcut] at happ
      rw [happText] at hazero₂ ⊢
      have hover := string_over_iff hazero₂ hazero₁ happ₁ happ
      constructor
      · rintro ⟨hstring, -⟩ app' s' hsome
        cases hcut.symm.trans hsome
        exact hover.1 hstring
      · intro hle
        exact ⟨hover.2 (hle app s hcut), hstream⟩

/-- Two URLs that fit are set up one behind the other, and the client has the strings that the
second one alone leaves, if and only if the second one writes over the first one. -/
theorem rtmpSetupurl_forgets {url₁ url₂ : List UInt8} (hzero₁ : 0 ∉ url₁) (hzero₂ : 0 ∉ url₂)
    (hurl₁ : PartsFit url₁) (hurl₂ : PartsFit url₂) :
    (∃ c₁ c c', rtmpSetupurl url₁ url₁.length .fresh = .ok (0, c₁) ∧
      rtmpSetupurl url₂ url₂.length c₁ = .ok (0, c) ∧
      rtmpSetupurl url₂ url₂.length .fresh = .ok (0, c') ∧ SameStrings c c') ↔
        Forgets url₁ url₂ := by
  have hfresh := UrlFields.settled_fresh
  obtain ⟨c₁, hresult₁, h₁⟩ := rtmpSetupurl_fits hzero₁ hurl₁ (hfresh.endsBehind hurl₁)
  obtain ⟨c, hresult, h⟩ := rtmpSetupurl_fits hzero₂ hurl₂
    ((h₁.settled hfresh hurl₁).endsBehind hurl₂)
  obtain ⟨c', hresult', h'⟩ := rtmpSetupurl_fits hzero₂ hurl₂ (hfresh.endsBehind hurl₂)
  have hiff := sameStrings_iff hzero₁ hzero₂ hurl₁ hurl₂ h₁ h h'
  constructor
  · rintro ⟨d₁, d, d', hd₁, hd, hd', hsame⟩
    cases hresult₁.symm.trans hd₁
    cases hresult.symm.trans hd
    cases hresult'.symm.trans hd'
    exact hiff.1 hsame
  · intro hforgets
    exact ⟨c₁, c, c', hresult₁, hresult, hresult', hiff.2 hforgets⟩

/-- A longer application is written over a shorter one. -/
theorem rtmpSetupurl_forgets_longer :
    ∃ c₁ c c',
      rtmpSetupurl (ascii "rtmp://a/b/c") (ascii "rtmp://a/b/c").length .fresh = .ok (0, c₁) ∧
      rtmpSetupurl (ascii "rtmp://d/live/e") (ascii "rtmp://d/live/e").length c₁ = .ok (0, c) ∧
      rtmpSetupurl (ascii "rtmp://d/live/e") (ascii "rtmp://d/live/e").length .fresh =
        .ok (0, c') ∧ SameStrings c c' := by
  have hurl₁ : PartsFit (ascii "rtmp://a/b/c") :=
    ⟨by decide +kernel, by decide +kernel, by decide +kernel, by decide +kernel, by decide +kernel⟩
  have hurl₂ : PartsFit (ascii "rtmp://d/live/e") :=
    ⟨by decide +kernel, by decide +kernel, by decide +kernel, by decide +kernel, by decide +kernel⟩
  apply (rtmpSetupurl_forgets (by decide +kernel) (by decide +kernel) hurl₁ hurl₂).mpr
  have hcut : pathText (ascii "rtmp://d/live/e") = some (ascii "live/e") ∧
      cutAt slash (ascii "live/e") = some (ascii "live", ascii "e") := by
    decide +kernel
  unfold Forgets
  rw [hcut.1]
  intro app s hsome
  cases hcut.2.symm.trans hsome
  decide +kernel

/-- Behind the shorter application `live` the end of `webcast` stays. -/
theorem rtmpSetupurl_remembers :
    PartsFit (ascii "rtmp://a/webcast/c") ∧ PartsFit (ascii "rtmp://a/live/c") ∧
    ((rtmpSetupurl (ascii "rtmp://a/webcast/c") (ascii "rtmp://a/webcast/c").length .fresh).bind
      fun r ↦ (rtmpSetupurl (ascii "rtmp://a/live/c") (ascii "rtmp://a/live/c").length r.2).map
        fun r ↦ r.2.rtmpApp.string) = .ok (ascii "liveast") ∧
    ((rtmpSetupurl (ascii "rtmp://a/live/c") (ascii "rtmp://a/live/c").length .fresh).map
      fun r ↦ r.2.rtmpApp.string) = .ok (ascii "live") := by
  refine ⟨⟨?_, ?_, ?_, ?_, ?_⟩, ⟨?_, ?_, ?_, ?_, ?_⟩, ?_, ?_⟩ <;> decide +kernel

end RtmpRecv.Client
