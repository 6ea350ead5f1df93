import RtmpRecv.Client.Url

/-!
# The parts of a URL

Library `Client`. What `rtmp_setupurl` leaves in the client, in terms of the parts that the slashes
and the first colon cut a URL into, and when it leaves the arrays or leaves them without a NUL.
-/

namespace RtmpRecv.Client
open RtmpRecv.Base

/-! ### Parts -/

def slash : UInt8 := 0x2f

def colon : UInt8 := 0x3a

/-- Host and port, in front of the first slash behind the scheme. -/
def serverText (url : List UInt8) : List UInt8 :=
  match cutAt slash (url.drop 7) with
  | some (server, _) => server
  | none => url.drop 7

/-- What stands behind that slash. -/
def pathText (url : List UInt8) : Option (List UInt8) := (cutAt slash (url.drop 7)).map Prod.snd

/-- The host of a server text. -/
def serverHost (server : List UInt8) : List UInt8 :=
  match cutAt colon server with
  | some (host, _) => host
  | none => server

/-- The port of a server text, in digits. -/
def serverPort (server : List UInt8) : List UInt8 :=
  match cutAt colon server with
  | some (_, port) => port
  | none => ascii "1935"

def hostText (url : List UInt8) : List UInt8 := serverHost (serverText url)

def portText (url : List UInt8) : List UInt8 := serverPort (serverText url)

/-- The stream that is asked for: a file of type mp4 gets its type in front of it. -/
def streamName (s : List UInt8) : List UInt8 :=
  if ascii "mp4" <:+: s ∧ colon ∉ s then ascii "mp4:" ++ s else s

/-- The application that a URL leaves in a fresh client. -/
def appText (url : List UInt8) : List UInt8 :=
  match pathText url with
  | none => []
  | some path =>
    match cutAt slash path with
    | some (app, _) => app
    | none => ascii "live"

/-- The stream that a URL leaves in a fresh client. -/
def streamText (url : List UInt8) : List UInt8 :=
  match pathText url with
  | none => []
  | some path =>
    match cutAt slash path with
    | some (_, s) => streamName s
    | none => []

theorem ascii_slash : ascii "/" = [slash] := by decide +kernel

private theorem ascii_colon : ascii ":" = [colon] := by decide +kernel

private theorem zero_notMem_mp4 : (0 : UInt8) ∉ ascii "mp4:" := by decide +kernel

theorem zero_notMem_streamName {s : List UInt8} (h : 0 ∉ s) : 0 ∉ streamName s := by
  unfold streamName
  split
  · intro hmem
    rcases List.mem_append.1 hmem with hmem | hmem
    · exact zero_notMem_mp4 hmem
    · exact h hmem
  · exact h

/-! ### Copies -/

/-- The steps of a run that ends without a fault. -/
theorem ok_of_bind {α β : Type} {x : Except Fault α} {f : α → Except Fault β} {b : β}
    (h : x >>= f = .ok b) : ∃ a, x = .ok a ∧ f a = .ok b := by
  cases x with
  | error e => cases h
  | ok a => exact ⟨a, rfl, h⟩

/-- A step that stays inside its array. -/
theorem inside_eq_ok {α : Type} {o : Option α} {a : α} : inside o = .ok a ↔ o = some a := by
  cases o with
  | none => simp [inside]
  | some b => simp [inside]

/-! ### The path -/

/-- What the path of a URL leaves in the client. -/
structure PathLeft (c : UrlFields) (path : List UInt8) (c' : UrlFields) : Prop where
  rtmpUrl : c'.rtmpUrl = c.rtmpUrl
  rtmpHost : c'.rtmpHost = c.rtmpHost
  rtmpApp : c'.rtmpApp.bytes =
    match cutAt slash path with
    | some (app, _) => app ++ c.rtmpApp.bytes.drop app.length
    | none => ascii "live" ++ 0 :: c.rtmpApp.bytes.drop 5
  rtmpStream : ∃ rest, c'.rtmpStream.bytes =
    (match cutAt slash path with
      | some (_, s) => streamName s
      | none => []) ++ 0 :: rest

/-- The application and the stream fit, and there is a NUL behind the application. -/
def PathFits (c : UrlFields) (path : List UInt8) : Prop :=
  ∀ app s, cutAt slash path = some (app, s) →
    0 ∈ c.rtmpApp.bytes.drop app.length ∧ (streamName s).length ≤ 127

private theorem drop_behind_slash (app s : List UInt8) :
    (app ++ slash :: s).drop (app.length + 1) = s := by
  rw [← List.drop_drop, List.drop_left]
  rfl

/-- The copy of the stream, with its type where it lacks one. -/
def copyStream (c : UrlFields) (s : List UInt8) : Option (CharArray 128) :=
  if (strstr (ascii "mp4") s).isSome then
    if (strstr (ascii ":") s).isSome then c.rtmpStream.strncpy s 128
    else c.rtmpStream.strcpy (ascii "mp4:" ++ s)
  else c.rtmpStream.strncpy s 128

theorem copyStream_eq (c : UrlFields) (s : List UInt8) :
    copyStream c s =
      if ascii "mp4" <:+: s ∧ colon ∉ s then c.rtmpStream.store (streamName s ++ [0])
      else c.rtmpStream.store (CharArray.padded (streamName s) 128) := by
  have hcolon : (strstr (ascii ":") s).isSome = true ↔ colon ∈ s := by
    rw [isSome_strstr_iff, ascii_colon, List.singleton_infix_iff]
  have hcopy : c.rtmpStream.strncpy s 128 = c.rtmpStream.store (CharArray.padded s 128) :=
    CharArray.strncpy_nat _ _ 128
  unfold copyStream streamName
  by_cases hmp4 : ascii "mp4" <:+: s
  · rw [if_pos (isSome_strstr_iff.2 hmp4)]
    by_cases hc : colon ∈ s
    · have hnot : ¬(ascii "mp4" <:+: s ∧ colon ∉ s) := fun h ↦ h.2 hc
      rw [if_pos (hcolon.2 hc), if_neg hnot, if_neg hnot, hcopy]
    · rw [if_neg fun h ↦ hc (hcolon.1 h), if_pos ⟨hmp4, hc⟩, if_pos ⟨hmp4, hc⟩]
      rfl
  · have hnot : ¬(ascii "mp4" <:+: s ∧ colon ∉ s) := fun h ↦ hmp4 h.1
    rw [if_neg fun h ↦ hmp4 (isSome_strstr_iff.1 h), if_neg hnot, if_neg hnot, hcopy]

/-- A stream that fits is copied with its NUL. -/
theorem copyStream_fits {s : List UInt8} (h : (streamName s).length ≤ 127) (c : UrlFields) :
    ∃ a rest, copyStream c s = some a ∧ a.bytes = streamName s ++ 0 :: rest := by
  rw [copyStream_eq]
  split
  · obtain ⟨a, ha, hbytes⟩ := c.rtmpStream.exists_store (streamName s ++ [0]) (by
      rw [List.length_append, List.length_singleton]
      omega)
    exact ⟨a, _, ha, by rw [hbytes, List.append_assoc]; rfl⟩
  · obtain ⟨a, ha, hbytes⟩ := c.rtmpStream.exists_store
      (CharArray.padded (streamName s) 128) (by rw [CharArray.length_padded])
    rw [CharArray.padded_of_lt (by omega)] at hbytes
    exact ⟨a, _, ha, by rw [hbytes, List.append_assoc]; rfl⟩

/-- A stream that does not fit leaves the array, or leaves it without a NUL. -/
theorem fits_of_copyStream {s : List UInt8} (hs : 0 ∉ s) {c : UrlFields} {a : CharArray 128}
    (h : copyStream c s = some a) (hterminated : a.Terminated) : (streamName s).length ≤ 127 := by
  rw [copyStream_eq] at h
  split at h
  · have hlen := (CharArray.store_eq_some_iff.1 h).1
    rw [List.length_append, List.length_singleton] at hlen
    omega
  · obtain ⟨-, hbytes⟩ := CharArray.store_eq_some_iff.1 h
    by_contra hlong
    rw [CharArray.length_padded, List.drop_eq_nil_of_le (Nat.le_of_eq c.rtmpStream.length_bytes),
      List.append_nil, CharArray.padded_of_le (by omega)] at hbytes
    have hmem : 0 ∈ (streamName s).take 128 := hbytes ▸ hterminated
    exact zero_notMem_streamName hs (List.mem_of_mem_take hmem)

/-- The copies of a path with an application. -/
theorem copyPath_some {path app s : List UInt8} (hcut : cutAt slash path = some (app, s))
    (c : UrlFields) :
    copyPath path c = (inside (c.rtmpApp.store app)).bind fun rtmpApp ↦
      (inside (copyStream c s)).bind fun rtmpStream ↦
        .ok { c with rtmpApp := rtmpApp, rtmpStream := rtmpStream } := by
  obtain ⟨rfl, -⟩ := cutAt_eq_some_iff.1 hcut
  have happ : CharArray.padded (app ++ slash :: s) app.length = app := by
    rw [CharArray.padded_of_le (by simp), List.take_left]
  unfold copyPath copyStream
  rw [ascii_slash, strstr_singleton, hcut]
  simp only [Option.map_some, drop_behind_slash, CharArray.strncpy_nat, happ]
  cases inside (c.rtmpApp.store app) with
  | error e => rfl
  | ok rtmpApp =>
    change (_ : Except Fault UrlFields) = _
    split
    · split
      · rfl
      · rfl
    · rfl

/-- The copies of a path without an application. -/
theorem copyPath_none {path : List UInt8} (hcut : cutAt slash path = none)
    (c : UrlFields) :
    ∃ c', copyPath path c = .ok c' ∧ c'.rtmpApp.bytes =
      ascii "live" ++ 0 :: c.rtmpApp.bytes.drop 5 ∧
      c'.rtmpStream.bytes = 0 :: c.rtmpStream.bytes.drop 1 ∧ c'.rtmpUrl = c.rtmpUrl ∧
      c'.rtmpHost = c.rtmpHost ∧ c'.rtmpPort = c.rtmpPort := by
  have hlive : (ascii "live" ++ [0]).length = 5 := by decide +kernel
  obtain ⟨rtmpApp, happ, hbytes⟩ := c.rtmpApp.exists_store (ascii "live" ++ [0]) (by
    rw [hlive]
    decide)
  obtain ⟨rtmpStream, hstream, hsbytes⟩ := c.rtmpStream.exists_store ([] ++ [0]) (by decide)
  rw [hlive, List.append_assoc] at hbytes
  refine ⟨{ c with rtmpApp := rtmpApp, rtmpStream := rtmpStream }, ?_, hbytes, hsbytes, rfl, rfl,
    rfl⟩
  unfold copyPath CharArray.strcpy
  rw [ascii_slash, strstr_singleton, hcut, Option.map_none, happ, hstream]
  rfl

/-- A path that fits is copied, and the two strings end in their arrays. -/
theorem copyPath_fits {path : List UInt8} {c : UrlFields} (h : PathFits c path) :
    ∃ c', copyPath path c = .ok c' ∧ PathLeft c path c' := by
  cases hcut : cutAt slash path with
  | none =>
    obtain ⟨c', hcopy, happ, hstream, hurl, hhost, -⟩ := copyPath_none hcut c
    refine ⟨c', hcopy, ⟨hurl, hhost, ?_, ?_⟩⟩
    · rw [hcut]
      exact happ
    · rw [hcut]
      exact ⟨_, hstream⟩
  | some parts =>
    obtain ⟨app, s⟩ := parts
    obtain ⟨hzero, hlen⟩ := h app s hcut
    have happ : app.length ≤ 32 := by
      by_contra hlong
      rw [List.drop_eq_nil_of_le (by rw [c.rtmpApp.length_bytes]; omega)] at hzero
      cases hzero
    obtain ⟨rtmpApp, hstore, hbytes⟩ := c.rtmpApp.exists_store _ happ
    obtain ⟨rtmpStream, rest, hstream, hsbytes⟩ := copyStream_fits hlen c
    refine ⟨{ c with rtmpApp := rtmpApp, rtmpStream := rtmpStream }, ?_, ⟨rfl, rfl, ?_, ?_⟩⟩
    · rw [copyPath_some hcut, hstore, hstream]
      rfl
    · rw [hcut]
      exact hbytes
    · rw [hcut]
      exact ⟨rest, hsbytes⟩

/-- A path that is copied so that the two strings end in their arrays fits. -/
theorem fits_of_copyPath {path : List UInt8} (hpath : 0 ∉ path) {c c' : UrlFields}
    (h : copyPath path c = .ok c') (happ : c'.rtmpApp.Terminated)
    (hstream : c'.rtmpStream.Terminated) : PathFits c path := by
  intro app s hcut
  obtain ⟨hsplit, -⟩ := cutAt_eq_some_iff.1 hcut
  have hzero : 0 ∉ app ∧ 0 ∉ s := by
    rw [hsplit, List.mem_append, List.mem_cons] at hpath
    exact ⟨fun hmem ↦ hpath (Or.inl hmem), fun hmem ↦ hpath (Or.inr (Or.inr hmem))⟩
  rw [copyPath_some hcut] at h
  cases hstore : c.rtmpApp.store app with
  | none =>
    rw [hstore] at h
    cases h
  | some rtmpApp =>
    cases hcopy : copyStream c s with
    | none =>
      rw [hstore, hcopy] at h
      cases h
    | some rtmpStream =>
      rw [hstore, hcopy] at h
      cases h
      obtain ⟨-, hbytes⟩ := CharArray.store_eq_some_iff.1 hstore
      exact ⟨(CharArray.terminated_append_iff hzero.1 hbytes).1 happ,
        fits_of_copyStream hzero.2 hcopy hstream⟩

/-! ### The server -/

/-- What the server leaves in the client. -/
structure ServerLeft (c : UrlFields) (server : List UInt8) (c' : UrlFields) : Prop where
  rtmpUrl : c'.rtmpUrl = c.rtmpUrl
  rtmpApp : c'.rtmpApp = c.rtmpApp
  rtmpStream : c'.rtmpStream = c.rtmpStream
  rtmpHost : ∃ rest, c'.rtmpHost.bytes = serverHost server ++ 0 :: rest
  rtmpPort : c'.rtmpPort = atoi (serverPort server)

/-- The first bytes of a string are copied to an array of zero bytes and read back. -/
private theorem copied_zero {n : Nat} {s : List UInt8} (hs : 0 ∉ s) (rest : List UInt8)
    (hlen : s.length < n) :
    ∃ a : CharArray n, (CharArray.zero n).strncpy (s ++ rest) s.length = some a ∧
      a.read = some s := by
  obtain ⟨a, ha, hbytes⟩ := CharArray.exists_strncpy_zero (s ++ rest) (Nat.le_of_lt hlen)
  rw [List.take_left] at hbytes
  exact ⟨a, ha, CharArray.read_of_zeros hs (Nat.sub_pos_of_lt hlen) hbytes⟩

theorem length_serverHost_le (server : List UInt8) :
    (serverHost server).length ≤ server.length := by
  unfold serverHost
  split
  · next host port hcut =>
    obtain ⟨rfl, -⟩ := cutAt_eq_some_iff.1 hcut
    rw [List.length_append]
    omega
  · exact Nat.le_refl _

/-- The parts of a server text that fits are copied to the two local arrays. -/
private theorem cutServer_fits {server : List UInt8} (hzero : 0 ∉ server)
    (hlen : server.length ≤ 511) (hport : (serverPort server).length ≤ 31) :
    ∃ serverport serverhost, cutServer server server.length = .ok (serverport, serverhost) ∧
      serverport.read = some (serverPort server) ∧
      serverhost.read = some (serverHost server) := by
  unfold cutServer serverPort serverHost
  unfold serverPort at hport
  rw [ascii_colon, strstr_singleton]
  cases hcut : cutAt colon server with
  | none =>
    have hdefault : (ascii "1935" ++ [0]).length = 5 ∧ (0 : UInt8) ∉ ascii "1935" := by
      decide +kernel
    obtain ⟨serverport, hcopy, hbytes⟩ := (CharArray.zero 32).exists_store
      (ascii "1935" ++ [0]) (by rw [hdefault.1]; decide)
    obtain ⟨serverhost, hhost, hhostread⟩ := copied_zero (n := 512) hzero [] (by omega)
    rw [List.append_nil] at hhost
    rw [List.append_assoc] at hbytes
    refine ⟨serverport, serverhost, ?_, ?_, hhostread⟩
    · rw [Option.map_none]
      dsimp only
      rw [hhost, CharArray.strcpy, hcopy]
      rfl
    · rw [CharArray.read_eq_some (CharArray.terminated_of_bytes hbytes),
        CharArray.string_eq hdefault.2 hbytes]
  | some parts =>
    obtain ⟨host, port⟩ := parts
    rw [hcut] at hport
    dsimp only at hport
    obtain ⟨rfl, -⟩ := cutAt_eq_some_iff.1 hcut
    rw [List.mem_append, List.mem_cons, not_or, not_or] at hzero
    have hlength : (host ++ colon :: port).length = host.length + (port.length + 1) := by
      rw [List.length_append, List.length_cons]
    have hdrop : (host ++ colon :: port).drop (host.length + 1) = port := by
      rw [← List.drop_drop, List.drop_left]
      rfl
    have hcount : ((host ++ colon :: port).length : Int) - host.length =
        (port.length + 1 : Nat) := by
      omega
    obtain ⟨serverport, hcopy, hbytes⟩ := CharArray.exists_strncpy_zero port
      (show port.length + 1 ≤ 32 by omega)
    obtain ⟨serverhost, hhost, hhostread⟩ := copied_zero (n := 512) hzero.1 (colon :: port)
      (by omega)
    rw [List.take_of_length_le (Nat.le_succ _)] at hbytes
    refine ⟨serverport, serverhost, ?_, ?_, hhostread⟩
    · rw [Option.map_some]
      dsimp only
      rw [hdrop, hcount, hcopy, hhost]
      rfl
    · exact CharArray.read_of_zeros hzero.2.2 (by omega) hbytes

/-- A port that is copied fits its array. -/
private theorem fits_of_cutServer {server : List UInt8} {r : CharArray 32 × CharArray 512}
    (h : cutServer server server.length = .ok r) : (serverPort server).length ≤ 31 := by
  unfold cutServer at h
  unfold serverPort
  rw [ascii_colon, strstr_singleton] at h
  cases hcut : cutAt colon server with
  | none =>
    have hdefault : (ascii "1935").length ≤ 31 := by decide +kernel
    exact hdefault
  | some parts =>
    obtain ⟨host, port⟩ := parts
    rw [hcut, Option.map_some] at h
    obtain ⟨rfl, -⟩ := cutAt_eq_some_iff.1 hcut
    dsimp only at h ⊢
    have hlength : (host ++ colon :: port).length = host.length + (port.length + 1) := by
      rw [List.length_append, List.length_cons]
    have hcount : ((host ++ colon :: port).length : Int) - host.length =
        (port.length + 1 : Nat) := by
      omega
    rw [hcount, CharArray.strncpy_nat] at h
    by_contra hlong
    rw [CharArray.store_eq_none (by rw [CharArray.length_padded]; omega)] at h
    cases h

/-- A server text that fits is copied. -/
theorem copyServer_fits {server : List UInt8} (hzero : 0 ∉ server) (rest : List UInt8)
    (hlen : server.length ≤ 511) (hport : (serverPort server).length ≤ 31) (c : UrlFields) :
    ∃ c', copyServer (server ++ rest) server.length c = .ok c' ∧ ServerLeft c server c' := by
  obtain ⟨serverinfo, hinfo, hread⟩ := copied_zero (n := 1024) hzero rest (by omega)
  obtain ⟨serverport, serverhost, hcut, hportread, hhostread⟩ := cutServer_fits hzero hlen hport
  have hhostlen := length_serverHost_le server
  obtain ⟨rtmpHost, hstore, hbytes⟩ := c.rtmpHost.exists_store
    (serverHost server ++ [0]) (by rw [List.length_append, List.length_singleton]; omega)
  rw [List.append_assoc] at hbytes
  refine ⟨{ c with rtmpPort := atoi (serverPort server), rtmpHost := rtmpHost }, ?_,
    ⟨rfl, rfl, rfl, ⟨_, hbytes⟩, rfl⟩⟩
  unfold copyServer
  rw [hinfo]
  change (inside serverinfo.read >>= _) = _
  rw [hread]
  change (cutServer server server.length >>= _) = _
  rw [hcut]
  change (inside serverport.read >>= _) = _
  rw [hportread]
  change (inside serverhost.read >>= _) = _
  rw [hhostread]
  change (inside (c.rtmpHost.store (serverHost server ++ [0])) >>= _) = _
  rw [hstore]
  rfl

/-- A server text that is copied has a port that fits. -/
theorem fits_of_copyServer {server rest : List UInt8} (hzero : 0 ∉ server) {c c' : UrlFields}
    (hlen : server.length ≤ 511)
    (h : copyServer (server ++ rest) server.length c = .ok c') :
    (serverPort server).length ≤ 31 := by
  obtain ⟨serverinfo, hinfo, hread⟩ := copied_zero (n := 1024) hzero rest (by omega)
  unfold copyServer at h
  rw [hinfo] at h
  change (inside serverinfo.read >>= _) = _ at h
  rw [hread] at h
  change (cutServer server server.length >>= _) = _ at h
  cases hcut : cutServer server server.length with
  | error e =>
    rw [hcut] at h
    cases h
  | ok r => exact fits_of_cutServer hcut

end RtmpRecv.Client
