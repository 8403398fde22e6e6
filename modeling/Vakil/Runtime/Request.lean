import Vakil.Runtime.Http

/-!
# One request through the proxy library

The order in which the proxy library (`pingora_proxy`) runs the filters of a request, and what it
does with their results, as far as the theorems rely on it:

* `Ok(true)` from `request_filter` ends the request; so does an error of any filter, which the
  library answers with a reply of its own if the connection still takes one;
* the upstream request starts as the request header of the session; when `upstream_request_filter`
  returns `Ok` it is sent to the peer, then every request body chunk goes through
  `request_body_filter` and on to the peer, and the upstream's response goes through
  `response_filter` and `response_body_filter` and on to the client, unless the client has been
  written to already.

There is one upstream attempt, which succeeds; `Runtime.Attempts` has what the filters do in several.
-/

namespace Vakil

variable {W : Type}

/-- What the outside contributes to a request: the random ids, the client's body chunks and the
upstream's response (a chunk comes with its end-of-stream flag). -/
structure Exchange where
  connectionId : ID
  streamId : ID
  requestBody : List (Option Bytes)
  responseHeader : ResponseHeader
  responseBody : List (Option Bytes × Bool)

/-- How the filters up to `upstream_request_filter` end. -/
inductive RequestHead where
  /-- `request_filter` answered the request locally. -/
  | answered
  /-- A filter returned an error. -/
  | failed (e : PingoraError)
  /-- A filter panicked. -/
  | aborted
  /-- The request is to be sent to a peer, with this header. -/
  | ready (peer : HttpPeer) (upstreamRequest : RequestHeader)
deriving DecidableEq, Repr

/-- The upstream side of the filters: from the chosen peer on. -/
def upstreamHead (env : HttpEnv) (hooks : PluginProxyHooks W) (peer : HttpPeer)
    (s : HttpState W) : RequestHead × HttpState W :=
  match upstreamRequestFilter env hooks s s.session.reqHeader with
  | (.ok (), upstreamRequest, s) => (.ready peer upstreamRequest, s)
  | (.err e, _, s) => (.failed e, s)
  | (.panic, _, s) => (.aborted, s)

/-- The filters of a request from `request_filter` to `upstream_request_filter`. -/
def requestHead (env : HttpEnv) (hooks : PluginProxyHooks W) (s : HttpState W) :
    RequestHead × HttpState W :=
  match requestFilter env hooks s with
  | (.ok true, s) => (.answered, s)
  | (.err e, s) => (.failed e, s)
  | (.panic, s) => (.aborted, s)
  | (.ok false, s) =>
    match upstreamPeer env hooks s with
    | (.ok peer, s) => upstreamHead env hooks peer s
    | (.err e, s) => (.failed e, s)
    | (.panic, s) => (.aborted, s)

/-- The library's reply to a failed request. A downstream that cannot be written to gets none. -/
def failToProxy (e : PingoraError) (s : HttpState W) : HttpState W :=
  match e with
  | .httpStatus code _ => { s with session := s.session.write (.hostError code) }
  | .writeError => s

/-- The exchange with the upstream, once the request header has been sent. The three filters never
fail. -/
def relay (hooks : PluginProxyHooks W) (x : Exchange) (s : HttpState W) : HttpState W :=
  let s := x.requestBody.foldl (fun s chunk => (requestBodyFilter hooks chunk s).2.2) s
  let s := (responseFilter hooks x.responseHeader s).2.2
  let s := { s with session := s.session.writeUpstreamResponse }
  x.responseBody.foldl (fun s chunk => (responseBodyFilter hooks chunk.1 chunk.2 s).2.2) s

/-- A finished request: the peer it was sent to, with the header it was sent with, and the final
state. -/
structure RequestRun (W : Type) where
  forwarded : Option (HttpPeer × RequestHeader)
  state : HttpState W

def RequestRun.calls (run : RequestRun W) : List (HttpCall W) := run.state.calls

def RequestRun.replies (run : RequestRun W) : List Reply := run.state.session.replies

def finishRequest (hooks : PluginProxyHooks W) (x : Exchange) :
    RequestHead × HttpState W → RequestRun W
  | (.answered, s) => ⟨none, s⟩
  | (.failed e, s) => ⟨none, failToProxy e s⟩
  | (.aborted, s) => ⟨none, s⟩
  | (.ready peer upstreamRequest, s) => ⟨some (peer, upstreamRequest), relay hooks x s⟩

/-- The state a request starts in: nothing called, nothing written, the context still empty. -/
def HttpState.start (session : Session) (w : W) : HttpState W where
  session := { session with replies := [] }
  ctx := {}
  plugins := ⟨w, []⟩

/-- The state in which `request_filter` finds a request. -/
def requestStart (env : HttpEnv) (x : Exchange) (session : Session) (w : W) : HttpState W :=
  earlyRequestFilter env x.connectionId x.streamId (.start session w)

/-- A request with one upstream attempt. -/
def serveRequest (env : HttpEnv) (hooks : PluginProxyHooks W) (x : Exchange) (session : Session)
    (w : W) : RequestRun W :=
  finishRequest hooks x (requestHead env hooks (requestStart env x session w))

/-! ## A plain request

`GET /` over an open connection, in surroundings where every address resolves. The concrete runs
below the theorems use it. -/

namespace Plain

/-- Paths without a query and ASCII header values. -/
def env : HttpEnv where
  net := .loopback
  uriOfPathAndQuery path := some ⟨none, none, path, none⟩
  headerValue text := some (text.map fun c => c.toNat.toUInt8)
  resolves _ _ := true

def exchange : Exchange where
  connectionId := ⟨1⟩
  streamId := ⟨2⟩
  requestBody := []
  responseHeader := ⟨200, .http11, []⟩
  responseBody := [(none, true)]

def session : Session where
  reqHeader := ⟨"GET".toList, ⟨none, none, "/".toList, none⟩, .http11, []⟩
  serverAddr := some (.v4 localhost 80)
  clientAddr := some (.v4 localhost 5000)
  isOpen := true
  replies := []

/-- The request as `request_filter` finds it. -/
def start : HttpState Unit := requestStart env exchange session ()

def response : HttpResponse := ⟨⟨2⟩, .http11, 200, [], [111, 107]⟩

def upstream : SocketAddress := ⟨"127.0.0.1".toList, 8080⟩

def route : RouteDecision := { upstreamToSet := some upstream, httpPath := some "/".toList }

def onRoute : HttpHookFn Unit := fun _ ctx w =>
  (.ok ⟨.replace⟩, { ctx with transport := ctx.transport.map ({ · with route := route }) }, w)

/-- A module that sends every request to `upstream`. -/
def router : PluginHttpModule Unit := { PluginHttpModule.default with onRoute := some onRoute }

/-- A request with the HTTP modules `ms`, none of which keeps any state. -/
def serve (ms : List (PluginHttpModule Unit)) : RequestRun Unit :=
  serveRequest env ⟨ms, [], []⟩ exchange session ()

end Plain

end Vakil
