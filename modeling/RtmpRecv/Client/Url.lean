import RtmpRecv.Base.CString
import RtmpRecv.Client.Commands

/-!
# The URL of a stream

Library `Client`. Models the constructor's URL fields and `rtmp_parse_cur_url` with
`rtmp_setupurl`, `rtmp_lib.cpp:4-16,25-89`. The URL is the C string it is given as; every read
behind its NUL, every store outside of an array and every read of an array without a NUL is a
fault. The two `printf` calls read the strings that they print.
-/

namespace RtmpRecv.Client
open RtmpRecv.Base

/-- The members of `rtmp_client` that `rtmp_setupurl` writes. -/
structure UrlFields where
  rtmpUrl : CharArray 512
  rtmpHost : CharArray 512
  rtmpApp : CharArray 32
  rtmpStream : CharArray 128
  rtmpPort : Int

/-- The members after the constructor `rtmp_client`. -/
def UrlFields.fresh : UrlFields :=
  { rtmpUrl := .zero 512, rtmpHost := .zero 512, rtmpApp := .zero 32, rtmpStream := .zero 128
    rtmpPort := 0 }

/-- A step of the C library that may leave an array. -/
def inside {α : Type} : Option α → Except Fault α
  | some a => .ok a
  | none => .error .outOfBounds

/-- The string at `url + k`. -/
def suffix (url : List UInt8) (k : Nat) : Except Fault (List UInt8) :=
  if k ≤ url.length then .ok (url.drop k) else .error .outOfBounds

/-- The copies of the application and of the stream; `path` is the string behind the first
slash. -/
def copyPath (path : List UInt8) (c : UrlFields) : Except Fault UrlFields :=
  match strstr (ascii "/") path with
  | some posApp => do
    let rtmpApp ← inside (c.rtmpApp.strncpy path posApp)
    let stream := path.drop (posApp + 1)
    let rtmpStream ←
      if (strstr (ascii "mp4") stream).isSome then
        if (strstr (ascii ":") stream).isSome then inside (c.rtmpStream.strncpy stream 128)
        else inside (c.rtmpStream.strcpy (ascii "mp4:" ++ stream))
      else inside (c.rtmpStream.strncpy stream 128)
    pure { c with rtmpApp := rtmpApp, rtmpStream := rtmpStream }
  | none => do
    let rtmpApp ← inside (c.rtmpApp.strcpy (ascii "live"))
    let rtmpStream ← inside (c.rtmpStream.strcpy [])
    pure { c with rtmpApp := rtmpApp, rtmpStream := rtmpStream }

/-- `serverport` and `serverhost`, cut out of the string in `serverinfo`. -/
def cutServer (info : List UInt8) (posLen : Int) :
    Except Fault (CharArray 32 × CharArray 512) :=
  match strstr (ascii ":") info with
  | some portLen => do
    let serverport ← inside ((CharArray.zero 32).strncpy (info.drop (portLen + 1))
      (posLen - portLen))
    let serverhost ← inside ((CharArray.zero 512).strncpy info portLen)
    pure (serverport, serverhost)
  | none => do
    let serverport ← inside ((CharArray.zero 32).strcpy (ascii "1935"))
    let serverhost ← inside ((CharArray.zero 512).strncpy info posLen)
    pure (serverport, serverhost)

/-- The copies of host and port; `server` is the string that starts with them, and they take
`posLen` bytes of it. -/
def copyServer (server : List UInt8) (posLen : Int) (c : UrlFields) : Except Fault UrlFields := do
  let serverinfo ← inside ((CharArray.zero 1024).strncpy server posLen)
  let info ← inside serverinfo.read
  let (serverport, serverhost) ← cutServer info posLen
  let port ← inside serverport.read
  let host ← inside serverhost.read
  let rtmpHost ← inside (c.rtmpHost.strcpy host)
  pure { c with rtmpPort := atoi port, rtmpHost := rtmpHost }

/-- `rtmp_parse_cur_url`. -/
def rtmpParseCurUrl (url : List UInt8) (urlLen : Int) (c : UrlFields) :
    Except Fault (Int × UrlFields) := do
  let server ← suffix url 7
  let (posLen, c) ← match strstr (ascii "/") server with
    | none => pure (urlLen - 7, c)
    | some posEnd => do
      let c ← copyPath (server.drop (posEnd + 1)) c
      let _ ← inside c.rtmpApp.read
      let _ ← inside c.rtmpStream.read
      pure ((posEnd : Int), c)
  let c ← copyServer server posLen c
  pure (0, c)

/-- `rtmp_setupurl`. -/
def rtmpSetupurl (url : List UInt8) (urlLen : Int) (c : UrlFields) :
    Except Fault (Int × UrlFields) := do
  let rtmpUrl ← inside (c.rtmpUrl.strncpy url 512)
  let (_, c) ← rtmpParseCurUrl url urlLen { c with rtmpUrl := rtmpUrl }
  let _ ← inside c.rtmpHost.read
  pure (0, c)

end RtmpRecv.Client
