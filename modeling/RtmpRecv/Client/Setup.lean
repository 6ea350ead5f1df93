import RtmpRecv.Client.UrlParts

/-!
# Setting the URL

Library `Client`. `rtmp_setupurl` stays inside its arrays and ends every string in them exactly when
the parts of the URL fit; it never refuses a URL.
-/

namespace RtmpRecv.Client
open RtmpRecv.Base

/-- The URL has its scheme, and its parts fit the arrays. The host then fits too. -/
structure PartsFit (url : List UInt8) : Prop where
  scheme : 7 ≤ url.length
  whole : url.length ≤ 511
  port : (portText url).length ≤ 31
  app : (appText url).length ≤ 31
  stream : (streamText url).length ≤ 127

/-- All four strings end in their arrays. -/
structure UrlFields.Terminated (c : UrlFields) : Prop where
  rtmpUrl : c.rtmpUrl.Terminated
  rtmpHost : c.rtmpHost.Terminated
  rtmpApp : c.rtmpApp.Terminated
  rtmpStream : c.rtmpStream.Terminated

/-- What the client holds lets the strings end: behind a new application stands a NUL, and an
application and a stream that are kept end already. -/
def UrlFields.EndsBehind (c : UrlFields) (url : List UInt8) : Prop :=
  match pathText url with
  | none => c.rtmpApp.Terminated ∧ c.rtmpStream.Terminated
  | some path => ∀ app s, cutAt slash path = some (app, s) →
      0 ∈ c.rtmpApp.bytes.drop app.length

/-- What a URL leaves in the client. -/
structure SetUp (c : UrlFields) (url : List UInt8) (c' : UrlFields) : Prop where
  rtmpUrl : ∃ rest, c'.rtmpUrl.bytes = url ++ 0 :: rest
  rtmpHost : ∃ rest, c'.rtmpHost.bytes = hostText url ++ 0 :: rest
  rtmpPort : c'.rtmpPort = atoi (portText url)
  kept : pathText url = none → c'.rtmpApp = c.rtmpApp ∧ c'.rtmpStream = c.rtmpStream
  rtmpApp : ∀ path, pathText url = some path → c'.rtmpApp.bytes =
    match cutAt slash path with
    | some (app, _) => app ++ c.rtmpApp.bytes.drop app.length
    | none => ascii "live" ++ 0 :: c.rtmpApp.bytes.drop 5
  rtmpStream : pathText url ≠ none → ∃ rest, c'.rtmpStream.bytes = streamText url ++ 0 :: rest

/-! ### The parser -/

/-- The URL behind its scheme is the server and maybe a path behind a slash. -/
theorem drop_scheme (url : List UInt8) :
    url.drop 7 = serverText url ++ match pathText url with
      | some path => slash :: path
      | none => [] := by
  unfold serverText pathText
  cases hcut : cutAt slash (url.drop 7) with
  | none => exact (List.append_nil _).symm
  | some parts => exact (cutAt_eq_some_iff.1 hcut).1

theorem zero_notMem_serverText {url : List UInt8} (h : 0 ∉ url) : 0 ∉ serverText url := by
  intro hmem
  have hdrop : 0 ∈ url.drop 7 := by
    rw [drop_scheme]
    exact List.mem_append_left _ hmem
  exact h (List.mem_of_mem_drop hdrop)

theorem zero_notMem_pathText {url path : List UInt8} (h : 0 ∉ url)
    (hpath : pathText url = some path) :
    0 ∉ path := by
  intro hmem
  have hdrop : 0 ∈ url.drop 7 := by
    rw [drop_scheme, hpath]
    exact List.mem_append_right _ (List.mem_cons_of_mem _ hmem)
  exact h (List.mem_of_mem_drop hdrop)

theorem length_serverText_le (url : List UInt8) : (serverText url).length ≤ url.length - 7 := by
  have hlen := congrArg List.length (drop_scheme url)
  rw [List.length_drop, List.length_append] at hlen
  omega

/-- The stage of the parser that handles the path; both strings are printed behind it. -/
def pathStage (url : List UInt8) (c : UrlFields) : Except Fault UrlFields :=
  match pathText url with
  | none => .ok c
  | some path => do
    let c ← copyPath path c
    let _ ← inside c.rtmpApp.read
    let _ ← inside c.rtmpStream.read
    pure c

/-- The parser handles the path, and then the server. -/
theorem rtmpParseCurUrl_eq {url : List UInt8} (hscheme : 7 ≤ url.length) (c : UrlFields) :
    rtmpParseCurUrl url url.length c =
      (pathStage url c).bind fun c ↦
        (copyServer (url.drop 7) (serverText url).length c).bind fun c ↦ .ok (0, c) := by
  have hsuffix : suffix url 7 = .ok (url.drop 7) := if_pos hscheme
  unfold rtmpParseCurUrl pathStage pathText serverText
  simp only [hsuffix, ascii_slash, strstr_singleton, bind, Except.bind]
  cases hcut : cutAt slash (url.drop 7) with
  | none =>
    have hlen : (url.length : Int) - 7 = (url.drop 7).length := by
      rw [List.length_drop]
      omega
    rw [hlen]
    rfl
  | some parts =>
    obtain ⟨server, path⟩ := parts
    obtain ⟨hsplit, -⟩ := cutAt_eq_some_iff.1 hcut
    have hdrop : (url.drop 7).drop (server.length + 1) = path := by
      rw [hsplit, ← List.drop_drop, List.drop_left]
      rfl
    simp only [Option.map_some, hdrop]
    cases copyPath path c with
    | error e => rfl
    | ok c₁ =>
      dsimp only
      cases inside c₁.rtmpApp.read with
      | error e => rfl
      | ok app =>
        dsimp only
        cases inside c₁.rtmpStream.read with
        | error e => rfl
        | ok stream => rfl

/-! ### URLs whose parts fit -/

/-- Both strings of a path that fits end in their arrays. -/
private theorem PathLeft.terminated {c c' : UrlFields} {path : List UInt8}
    (h : PathLeft c path c') (hfits : PathFits c path) :
    c'.rtmpApp.Terminated ∧ c'.rtmpStream.Terminated := by
  obtain ⟨rest, hstream⟩ := h.rtmpStream
  refine ⟨?_, CharArray.terminated_of_bytes hstream⟩
  have happ := h.rtmpApp
  cases hcut : cutAt slash path with
  | none =>
    rw [hcut] at happ
    exact CharArray.terminated_of_bytes happ
  | some parts =>
    obtain ⟨app, s⟩ := parts
    rw [hcut] at happ
    have hmem : 0 ∈ c'.rtmpApp.bytes := by
      rw [happ]
      exact List.mem_append_right _ (hfits app s hcut).1
    exact hmem

/-- The path of a URL whose parts fit is handled. -/
private theorem pathStage_fits {url : List UInt8} (hurl : PartsFit url) {c : UrlFields}
    (hends : c.EndsBehind url) :
    ∃ c', pathStage url c = .ok c' ∧ c'.rtmpUrl = c.rtmpUrl ∧ c'.rtmpHost = c.rtmpHost ∧
      (pathText url = none → c' = c) ∧
      ∀ path, pathText url = some path → PathLeft c path c' := by
  have happ := hurl.app
  have hstream := hurl.stream
  unfold UrlFields.EndsBehind at hends
  unfold appText at happ
  unfold streamText at hstream
  unfold pathStage
  cases hpath : pathText url with
  | none =>
    exact ⟨c, rfl, rfl, rfl, fun _ ↦ rfl, fun path hsome ↦ by cases hsome⟩
  | some path =>
    rw [hpath] at hends happ hstream
    dsimp only at hends happ hstream
    have hfits : PathFits c path := by
      intro app s hcut
      rw [hcut] at hstream
      exact ⟨hends app s hcut, hstream⟩
    obtain ⟨c', hcopy, hleft⟩ := copyPath_fits hfits
    obtain ⟨hterminated, hsterminated⟩ := hleft.terminated hfits
    refine ⟨c', ?_, hleft.rtmpUrl, hleft.rtmpHost, ?_, ?_⟩
    · dsimp only
      rw [hcopy]
      change (inside c'.rtmpApp.read >>= _) = _
      rw [CharArray.read_eq_some hterminated]
      change (inside c'.rtmpStream.read >>= _) = _
      rw [CharArray.read_eq_some hsterminated]
      rfl
    · intro hnone
      cases hnone
    · intro path' hsome
      cases hsome
      exact hleft

/-- A URL whose parts fit is set up. -/
theorem rtmpSetupurl_fits {url : List UInt8} (hzero : 0 ∉ url) (hurl : PartsFit url)
    {c : UrlFields} (hends : c.EndsBehind url) :
    ∃ c', rtmpSetupurl url url.length c = .ok (0, c') ∧ SetUp c url c' := by
  have hwhole := hurl.whole
  have hserverlen := length_serverText_le url
  obtain ⟨rtmpUrl, hstore, hbytes⟩ := c.rtmpUrl.exists_store (CharArray.padded url 512)
    (by rw [CharArray.length_padded])
  rw [CharArray.padded_of_lt (by omega), List.append_assoc] at hbytes
  obtain ⟨urlRest, hbytes⟩ : ∃ rest, rtmpUrl.bytes = url ++ 0 :: rest := ⟨_, hbytes⟩
  obtain ⟨c₁, hpath, hurl₁, -, hkept, hleft⟩ :=
    pathStage_fits hurl (c := { c with rtmpUrl := rtmpUrl }) hends
  obtain ⟨c₂, hserver, hserverleft⟩ := copyServer_fits (zero_notMem_serverText hzero)
    (match pathText url with
      | some path => slash :: path
      | none => []) (by omega) hurl.port c₁
  rw [← drop_scheme] at hserver
  obtain ⟨rest, hhost⟩ := hserverleft.rtmpHost
  refine ⟨c₂, ?_, ?_, ⟨rest, hhost⟩, hserverleft.rtmpPort, ?_, ?_, ?_⟩
  · have hcopy : c.rtmpUrl.strncpy url 512 = some rtmpUrl :=
      (CharArray.strncpy_nat _ _ 512).trans hstore
    unfold rtmpSetupurl
    rw [hcopy]
    change (rtmpParseCurUrl url url.length { c with rtmpUrl := rtmpUrl } >>= _) = _
    rw [rtmpParseCurUrl_eq hurl.scheme, hpath]
    change ((copyServer (url.drop 7) (serverText url).length c₁).bind _ >>= _) = _
    rw [hserver]
    change (inside c₂.rtmpHost.read >>= _) = _
    rw [CharArray.read_eq_some (CharArray.terminated_of_bytes hhost)]
    rfl
  · refine ⟨urlRest, ?_⟩
    rw [hserverleft.rtmpUrl, hurl₁]
    exact hbytes
  · intro hnone
    rw [hserverleft.rtmpApp, hserverleft.rtmpStream, hkept hnone]
    exact ⟨rfl, rfl⟩
  · intro path hsome
    rw [hserverleft.rtmpApp]
    exact (hleft path hsome).rtmpApp
  · intro hne
    rw [hserverleft.rtmpStream]
    cases hsome : pathText url with
    | none => exact absurd hsome hne
    | some path =>
      obtain ⟨rest, hstream⟩ := (hleft path hsome).rtmpStream
      refine ⟨rest, ?_⟩
      rw [hstream]
      unfold streamText
      rw [hsome]

/-! ### URLs that are set up -/

/-- The copies of the path leave the other members alone. -/
private theorem copyPath_keeps {path : List UInt8} {c c' : UrlFields}
    (h : copyPath path c = .ok c') : c'.rtmpUrl = c.rtmpUrl := by
  cases hcut : cutAt slash path with
  | none =>
    obtain ⟨c₁, hcopy, -, -, hurl, -⟩ := copyPath_none hcut c
    rw [hcopy] at h
    cases h
    exact hurl
  | some parts =>
    rw [copyPath_some hcut] at h
    cases happ : c.rtmpApp.store parts.1 with
    | none =>
      rw [happ] at h
      cases h
    | some rtmpApp =>
      cases hstream : copyStream c parts.2 with
      | none =>
        rw [happ, hstream] at h
        cases h
      | some rtmpStream =>
        rw [happ, hstream] at h
        cases h
        rfl

/-- The copies of the server leave the other members alone. -/
private theorem copyServer_keeps {server : List UInt8} {posLen : Int} {c c' : UrlFields}
    (h : copyServer server posLen c = .ok c') :
    c'.rtmpUrl = c.rtmpUrl ∧ c'.rtmpApp = c.rtmpApp ∧ c'.rtmpStream = c.rtmpStream := by
  obtain ⟨serverinfo, -, h⟩ := ok_of_bind h
  obtain ⟨info, -, h⟩ := ok_of_bind h
  obtain ⟨parts, -, h⟩ := ok_of_bind h
  obtain ⟨port, -, h⟩ := ok_of_bind h
  obtain ⟨host, -, h⟩ := ok_of_bind h
  obtain ⟨rtmpHost, -, h⟩ := ok_of_bind h
  cases h
  exact ⟨rfl, rfl, rfl⟩

/-- The stage of the path leaves the URL alone, and a path that it handles fits. -/
private theorem fits_of_pathStage {url : List UInt8} (hzero : 0 ∉ url) {c c' : UrlFields}
    (h : pathStage url c = .ok c') :
    c'.rtmpUrl = c.rtmpUrl ∧ (pathText url = none → c' = c) ∧
      ∀ path, pathText url = some path → PathFits c path := by
  unfold pathStage at h
  cases hpath : pathText url with
  | none =>
    rw [hpath] at h
    cases h
    exact ⟨rfl, fun _ ↦ rfl, fun path hsome ↦ nomatch hsome⟩
  | some path =>
    rw [hpath] at h
    obtain ⟨c₁, hcopy, h⟩ := ok_of_bind h
    obtain ⟨app, happ, h⟩ := ok_of_bind h
    obtain ⟨stream, hstream, h⟩ := ok_of_bind h
    cases h
    refine ⟨copyPath_keeps hcopy, ?_, ?_⟩
    · intro hnone
      cases hnone
    · intro path' hsome
      cases hsome
      exact fits_of_copyPath (zero_notMem_pathText hzero hpath) hcopy
        (CharArray.terminated_of_read (inside_eq_ok.1 happ)).1
        (CharArray.terminated_of_read (inside_eq_ok.1 hstream)).1

/-- An application with a NUL behind it in its array fits. -/
private theorem length_app {c : UrlFields} {app : List UInt8}
    (h : 0 ∈ c.rtmpApp.bytes.drop app.length) : app.length ≤ 31 := by
  by_contra hlong
  rw [List.drop_eq_nil_of_le (by rw [c.rtmpApp.length_bytes]; omega)] at h
  cases h

/-- A URL that is set up so that all strings end in their arrays has parts that fit. -/
theorem fits_of_rtmpSetupurl {url : List UInt8} (hzero : 0 ∉ url) {c c' : UrlFields} {ret : Int}
    (h : rtmpSetupurl url url.length c = .ok (ret, c')) (hterminated : c'.Terminated) :
    ret = 0 ∧ PartsFit url ∧ c.EndsBehind url := by
  obtain ⟨rtmpUrl, hcopy, h⟩ := ok_of_bind h
  obtain ⟨⟨ret', c₂⟩, hparse, h⟩ := ok_of_bind h
  obtain ⟨host, -, h⟩ := ok_of_bind h
  cases h
  have hscheme : 7 ≤ url.length := by
    by_contra hshort
    have hsuffix : suffix url 7 = .error .outOfBounds := if_neg hshort
    unfold rtmpParseCurUrl at hparse
    rw [hsuffix] at hparse
    cases hparse
  rw [rtmpParseCurUrl_eq hscheme] at hparse
  obtain ⟨c₁, hpath, hparse⟩ := ok_of_bind hparse
  obtain ⟨c₃, hserver, hparse⟩ := ok_of_bind hparse
  cases hparse
  obtain ⟨hurl₁, hkept, hfits⟩ := fits_of_pathStage hzero hpath
  obtain ⟨hurl₂, happ₂, hstream₂⟩ := copyServer_keeps hserver
  have hwhole : url.length ≤ 511 := by
    by_contra hlong
    have hstore := (CharArray.strncpy_nat c.rtmpUrl url 512).symm.trans (inside_eq_ok.1 hcopy)
    obtain ⟨-, hbytes⟩ := CharArray.store_eq_some_iff.1 hstore
    rw [CharArray.length_padded, List.drop_eq_nil_of_le (Nat.le_of_eq c.rtmpUrl.length_bytes),
      List.append_nil, CharArray.padded_of_le (by omega)] at hbytes
    have hmem : 0 ∈ c'.rtmpUrl.bytes := hterminated.rtmpUrl
    rw [hurl₂, hurl₁, hbytes] at hmem
    exact hzero (List.mem_of_mem_take hmem)
  have hserverlen := length_serverText_le url
  rw [drop_scheme] at hserver
  have hport := fits_of_copyServer (zero_notMem_serverText hzero) (by omega) hserver
  refine ⟨rfl, ⟨hscheme, hwhole, hport, ?_, ?_⟩, ?_⟩
  · unfold appText
    cases hsome : pathText url with
    | none => exact Nat.zero_le _
    | some path =>
      dsimp only
      cases hcut : cutAt slash path with
      | none =>
        have hlive : (ascii "live").length ≤ 31 := by decide +kernel
        exact hlive
      | some parts => exact length_app (hfits path hsome parts.1 parts.2 hcut).1
  · unfold streamText
    cases hsome : pathText url with
    | none => exact Nat.zero_le _
    | some path =>
      dsimp only
      cases hcut : cutAt slash path with
      | none => exact Nat.zero_le _
      | some parts => exact (hfits path hsome parts.1 parts.2 hcut).2
  · unfold UrlFields.EndsBehind
    cases hnone : pathText url with
    | none =>
      have happ := hterminated.rtmpApp
      have hstream := hterminated.rtmpStream
      rw [happ₂, hkept hnone] at happ
      rw [hstream₂, hkept hnone] at hstream
      exact ⟨happ, hstream⟩
    | some path => exact fun app s hcut ↦ (hfits path hnone app s hcut).1

/-! ### Every URL -/

/-- The strings of a URL whose parts fit end in their arrays. -/
theorem SetUp.terminated {c c' : UrlFields} {url : List UInt8} (h : SetUp c url c')
    (hends : c.EndsBehind url) : c'.Terminated := by
  obtain ⟨_, hurl⟩ := h.rtmpUrl
  obtain ⟨_, hhost⟩ := h.rtmpHost
  have hpath : c'.rtmpApp.Terminated ∧ c'.rtmpStream.Terminated := by
    unfold UrlFields.EndsBehind at hends
    cases hsome : pathText url with
    | none =>
      obtain ⟨happ, hstream⟩ := h.kept hsome
      rw [hsome] at hends
      rw [happ, hstream]
      exact hends
    | some path =>
      obtain ⟨_, hstream⟩ := h.rtmpStream (by rw [hsome]; exact Option.some_ne_none path)
      refine ⟨?_, CharArray.terminated_of_bytes hstream⟩
      have happ := h.rtmpApp path hsome
      rw [hsome] at hends
      cases hcut : cutAt slash path with
      | none =>
        rw [hcut] at happ
        exact CharArray.terminated_of_bytes happ
      | some parts =>
        rw [hcut] at happ
        have hmem : 0 ∈ c'.rtmpApp.bytes := by
          rw [happ]
          exact List.mem_append_right _ (hends parts.1 parts.2 hcut)
        exact hmem
  exact ⟨CharArray.terminated_of_bytes hurl, CharArray.terminated_of_bytes hhost, hpath.1, hpath.2⟩

/-- A URL is handled inside of all arrays, leaves every string with its NUL and is refused where its
parts do not fit, if and only if its parts fit and what the client holds lets the strings end. -/
theorem rtmpSetupurl_bounded {url : List UInt8} (hzero : 0 ∉ url) (c : UrlFields) :
    (∃ ret c', rtmpSetupurl url url.length c = .ok (ret, c') ∧ c'.Terminated ∧
      (¬PartsFit url → ret = -1)) ↔ PartsFit url ∧ c.EndsBehind url := by
  constructor
  · rintro ⟨ret, c', hresult, hterminated, -⟩
    exact (fits_of_rtmpSetupurl hzero hresult hterminated).2
  · rintro ⟨hurl, hends⟩
    obtain ⟨c', hresult, hsetUp⟩ := rtmpSetupurl_fits hzero hurl hends
    exact ⟨0, c', hresult, hsetUp.terminated hends, fun hnot ↦ absurd hurl hnot⟩

/-- The part in front of a NUL in an array that ends with one. -/
private theorem zero_mem_drop {n : Nat} {a : CharArray n} (h : a.bytes.getLast? = some 0) {k : Nat}
    (hk : k < n) : 0 ∈ a.bytes.drop k := by
  apply List.mem_of_getLast?
  rw [List.getLast?_drop, if_neg (by rw [a.length_bytes]; omega), h]

/-- The array of the application ends with a NUL and the stream ends in its array. -/
structure UrlFields.Settled (c : UrlFields) : Prop where
  rtmpApp : c.rtmpApp.bytes.getLast? = some 0
  rtmpStream : c.rtmpStream.Terminated

theorem UrlFields.settled_fresh : UrlFields.fresh.Settled where
  rtmpApp := by decide
  rtmpStream := by decide

/-- Such a client lets every URL end whose parts fit. -/
theorem UrlFields.Settled.endsBehind {c : UrlFields} (h : c.Settled) {url : List UInt8}
    (hurl : PartsFit url) : c.EndsBehind url := by
  have happ := hurl.app
  unfold appText at happ
  unfold UrlFields.EndsBehind
  cases hsome : pathText url with
  | none =>
    have hmem := zero_mem_drop h.rtmpApp (k := 0) (by decide)
    exact ⟨hmem, h.rtmpStream⟩
  | some path =>
    intro app s hcut
    rw [hsome] at happ
    dsimp only at happ
    rw [hcut] at happ
    exact zero_mem_drop h.rtmpApp (Nat.lt_succ_of_le happ)

/-- It is such a client behind the URL, too. -/
theorem SetUp.settled {c c' : UrlFields} {url : List UInt8} (h : SetUp c url c')
    (hc : c.Settled) (hurl : PartsFit url) : c'.Settled := by
  refine ⟨?_, (h.terminated (hc.endsBehind hurl)).rtmpStream⟩
  have happ := hurl.app
  unfold appText at happ
  have hlast {k : Nat} (hk : k < 32) : (c.rtmpApp.bytes.drop k).getLast? = some 0 := by
    rw [List.getLast?_drop, if_neg (by rw [c.rtmpApp.length_bytes]; omega), hc.rtmpApp]
  cases hsome : pathText url with
  | none =>
    rw [(h.kept hsome).1]
    exact hc.rtmpApp
  | some path =>
    rw [h.rtmpApp path hsome]
    rw [hsome] at happ
    dsimp only at happ
    cases hcut : cutAt slash path with
    | none =>
      dsimp only
      rw [← List.singleton_append, List.getLast?_append, List.getLast?_append, hlast (by decide)]
      rfl
    | some parts =>
      rw [hcut] at happ
      dsimp only
      rw [List.getLast?_append, hlast (Nat.lt_succ_of_le happ)]
      rfl

/-- A URL for which the client was made. -/
theorem rtmpSetupurl_bounded_sample :
    ∃ ret c', rtmpSetupurl (ascii "rtmp://a:1/b/c.mp4") (ascii "rtmp://a:1/b/c.mp4").length .fresh =
      .ok (ret, c') ∧ c'.Terminated ∧ (¬PartsFit (ascii "rtmp://a:1/b/c.mp4") → ret = -1) := by
  have hurl : PartsFit (ascii "rtmp://a:1/b/c.mp4") :=
    ⟨by decide +kernel, by decide +kernel, by decide +kernel, by decide +kernel, by decide +kernel⟩
  exact (rtmpSetupurl_bounded (by decide +kernel) .fresh).mpr
    ⟨hurl, UrlFields.settled_fresh.endsBehind hurl⟩

/-- An application of forty letters is copied over the array behind its own. -/
theorem rtmpSetupurl_overflows :
    (rtmpSetupurl (ascii "rtmp://a/" ++ List.replicate 40 0x62 ++ ascii "/c")
      (ascii "rtmp://a/" ++ List.replicate 40 0x62 ++ ascii "/c").length .fresh).map Prod.fst =
        .error .outOfBounds := by
  decide +kernel

end RtmpRecv.Client
