import Vakil.PluginSys
import Vakil.Lib.Outcome

/-!
# The downstream session of an HTTP request

What the HTTP filters read and write of the proxy library's session and of the `http` crate: the
request header with its URI, and the replies written to the downstream connection. What those
libraries compute with text is a parameter, `HttpEnv`.

A reply is recorded with the header list the caller supplied; the headers the library adds by
itself (date, content length, ...) are not. The writes are modelled as far as the filters use them: the
status is a valid one, and neither the request's method (`HEAD`) nor the status (204, 304) takes the
body from a reply.
-/

namespace Vakil

/-- A URI, by its parts (`http::Uri`). -/
structure Uri where
  scheme : Option Str
  authority : Option Str
  path : Str
  query : Option Str
deriving DecidableEq, Repr

inductive Version where
  | http09
  | http10
  | http11
  | http2
  | http3
deriving DecidableEq, Repr

/-- `From<pingora_http::Version> for HttpVersion`. -/
def HttpVersion.ofVersion : Version → HttpVersion
  | .http09 => .http10
  | .http10 => .http10
  | .http11 => .http11
  | .http2 => .http2
  | .http3 => .http3

/-- A request header; header values are bytes. -/
structure RequestHeader where
  method : Str
  uri : Uri
  version : Version
  headers : List (Str × Bytes)
deriving DecidableEq, Repr

structure ResponseHeader where
  status : UInt16
  version : Version
  headers : List (Str × Bytes)
deriving DecidableEq, Repr

/-- `HeaderMap::insert`: the value takes the place of the first one of this name, and the others go. A
new name comes last. -/
def insertValue (name : Str) (value : Bytes) : List (Str × Bytes) → List (Str × Bytes)
  | [] => [(name, value)]
  | header :: headers =>
    if header.1 = name then (name, value) :: headers.filter (·.1 ≠ name)
    else header :: insertValue name value headers

/-- `insert_header`. -/
def RequestHeader.insertHeader (req : RequestHeader) (name : Str) (value : Bytes) : RequestHeader :=
  { req with headers := insertValue name value req.headers }

theorem insertValue_filter_self (name : Str) (value : Bytes) (headers : List (Str × Bytes)) :
    (insertValue name value headers).filter (·.1 = name) = [(name, value)] := by
  induction headers with
  | nil => simp [insertValue]
  | cons header headers ih =>
    by_cases hname : header.1 = name
    · simp [insertValue, hname, List.filter_filter]
    · rw [insertValue, if_neg hname, List.filter_cons_of_neg (by simpa using hname)]
      exact ih

/-- An upstream HTTP peer (`HttpPeer`): the address it was built from, TLS and SNI. -/
structure HttpPeer where
  host : Str
  port : UInt16
  tls : Bool
  sni : Str
deriving DecidableEq, Repr

/-- What the HTTP libraries compute with text. -/
structure HttpEnv where
  net : StdNet
  /-- `http::Uri::builder().path_and_query(s).build()`, `none` for an error. -/
  uriOfPathAndQuery : Str → Option Uri
  /-- The bytes of a header value made from text, `none` for an error. -/
  headerValue : Str → Option Bytes
  /-- Whether `HttpPeer::new` can resolve the address; it panics otherwise. -/
  resolves : Str → UInt16 → Bool

/-- `HttpPeer::new`, `none` for a panic. -/
def HttpPeer.new (env : HttpEnv) (host : Str) (port : UInt16) (tls : Bool) (sni : Str) :
    Option HttpPeer :=
  if env.resolves host port then some ⟨host, port, tls, sni⟩ else none

inductive PingoraError where
  /-- `Error::e_explain(HTTPStatus(code), context)`. -/
  | httpStatus (code : UInt16) (context : Str)
  /-- A reply could not be written downstream. -/
  | writeError
deriving DecidableEq, Repr

inductive Reply where
  /-- A local reply, written by a filter with `respond_error_with_body`. -/
  | localReply (status : UInt16) (headers : Headers) (body : Bytes)
  /-- The library's own reply to a request that failed. -/
  | hostError (status : UInt16)
  /-- The upstream's response. -/
  | upstreamResponse
deriving DecidableEq, Repr

structure Session where
  reqHeader : RequestHeader
  serverAddr : Option SocketAddr
  clientAddr : Option SocketAddr
  /-- Whether the downstream connection still takes data. -/
  isOpen : Bool
  replies : List Reply
deriving DecidableEq, Repr

namespace Session

def setUri (session : Session) (uri : Uri) : Session :=
  { session with reqHeader := { session.reqHeader with uri } }

/-- Write a reply, if the connection still takes data. Nothing may have been written before: the library
does not send a second response header. -/
def write (session : Session) (reply : Reply) : Session :=
  if session.isOpen then { session with replies := session.replies ++ [reply] } else session

/-- Write the upstream's response. The library drops it behind another one. -/
def writeUpstreamResponse (session : Session) : Session :=
  if session.replies = [] then session.write .upstreamResponse else session

/-- `session.respond_error_with_body(status, body)`, as the first thing that is written: there is no way
to pass headers. -/
def respondErrorWithBody (session : Session) (status : UInt16) (body : Bytes) :
    Outcome PingoraError Unit × Session :=
  if session.isOpen then (.ok (), session.write (.localReply status [] body))
  else (.err .writeError, session)

@[simp] theorem setUri_replies (session : Session) (uri : Uri) :
    (session.setUri uri).replies = session.replies := rfl

@[simp] theorem setUri_isOpen (session : Session) (uri : Uri) :
    (session.setUri uri).isOpen = session.isOpen := rfl

@[simp] theorem write_isOpen (session : Session) (reply : Reply) :
    (session.write reply).isOpen = session.isOpen := by
  unfold write; split <;> rfl

@[simp] theorem write_reqHeader (session : Session) (reply : Reply) :
    (session.write reply).reqHeader = session.reqHeader := by
  unfold write; split <;> rfl

theorem write_replies (session : Session) (reply : Reply) :
    (session.write reply).replies =
      session.replies ++ if session.isOpen then [reply] else [] := by
  unfold write; split <;> simp

theorem writeUpstreamResponse_replies (session : Session) :
    session.writeUpstreamResponse.replies =
      if session.replies = [] ∧ session.isOpen then [.upstreamResponse] else session.replies := by
  unfold writeUpstreamResponse
  by_cases hnone : session.replies = []
  · rw [if_pos hnone, write_replies, hnone]
    simp
  · rw [if_neg hnone, if_neg (fun h => hnone h.1)]

end Session

/-! ## The context a request starts with -/

/-- `HeaderValue::to_str`: the text of a value that is visible ASCII. -/
def headerToStr (value : Bytes) : Option Str :=
  if value.all fun b => (32 ≤ b && b < 127) || b == 9 then
    some (value.map fun b => Char.ofNat b.toNat)
  else none

/-- `From<RequestHeader> for Headers`: a value that is not visible ASCII is read as empty. -/
def Headers.ofRequestHeader (req : RequestHeader) : Headers :=
  req.headers.map fun (name, value) => ⟨name, (headerToStr value).getD []⟩

/-- `From<RequestHeader> for HttpRequest`; `streamId` is the random id it draws. -/
def HttpRequest.ofRequestHeader (streamId : ID) (req : RequestHeader) : HttpRequest where
  streamId := streamId
  version := .ofVersion req.version
  isTls := req.uri.scheme = some "https".toList
  method := req.method
  authority := req.uri.authority.getD []
  path := req.uri.path
  headers := Headers.ofRequestHeader req
  body := []

/-- `From<Session> for HttpContext`; `connectionId` and `streamId` are the random ids it draws. -/
def HttpContext.ofSession (net : StdNet) (connectionId streamId : ID) (session : Session) :
    HttpContext where
  request := some (.ofRequestHeader streamId session.reqHeader)
  response := none
  transport := some
    { connection :=
        { id := connectionId
          localAddr := (session.serverAddr.map (.ofSocketAddr net)).getD ⟨[], 0⟩
          peerAddr := session.clientAddr.map (.ofSocketAddr net)
          protocol := .tcp }
      direction := some .inbound
      route := {} }

end Vakil
