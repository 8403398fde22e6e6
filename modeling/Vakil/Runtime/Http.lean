import Vakil.Runtime.Hooks
import Vakil.Runtime.Session
import Vakil.Lib.ForLoop

/-!
# The HTTP filters (`vakil_runtime::http`)

`impl HttpProxyHooks for PluginProxyHooks`: every filter dispatches one or two kinds of callbacks
over the HTTP modules. A filter works on an `HttpState`: the downstream session, the request's
context and the plugins' state with the record of the calls. A call is recorded under its `HttpSite`,
the filter that made it and the hook it invoked.

`requestFilter` and `upstreamRequestFilter` contain the same loop over `on_request_headers`; it is
`answerRound` here, and the filter it runs in is its first argument.
-/

namespace Vakil

open ForLoop

/-- The filters that dispatch callbacks. -/
inductive HttpFilter where
  | requestFilter
  | upstreamPeer
  | upstreamRequestFilter
  | requestBodyFilter
  | responseFilter
  | responseBodyFilter
deriving DecidableEq, Repr

inductive HttpHook where
  | onRoute
  | onRequestHeaders
  | onRequestBody
  | onResponseHeaders
  | onResponseBody
  | onTrailers
  | onLocalReply
deriving DecidableEq, Repr

def PluginHttpModule.callback {W : Type} (m : PluginHttpModule W) :
    HttpHook → Option (HttpHookFn W)
  | .onRoute => m.onRoute
  | .onRequestHeaders => m.onRequestHeaders
  | .onRequestBody => m.onRequestBody
  | .onResponseHeaders => m.onResponseHeaders
  | .onResponseBody => m.onResponseBody
  | .onTrailers => m.onTrailers
  | .onLocalReply => m.onLocalReply

/-- Where a callback is invoked from. -/
structure HttpSite where
  filter : HttpFilter
  hook : HttpHook
deriving DecidableEq, Repr

abbrev HttpCall (W : Type) := Call HttpSite (PluginHttpModule W) HttpContext W

/-- What the filters of one request work on. -/
structure HttpState (W : Type) where
  session : Session
  ctx : HttpContext
  plugins : PluginState HttpSite (PluginHttpModule W) HttpContext W

variable {W : Type}

namespace HttpState

def calls (s : HttpState W) : List (HttpCall W) := s.plugins.calls

def world (s : HttpState W) : W := s.plugins.world

/-- Invoke a callback on the request's context. -/
def invoke (s : HttpState W) (site : HttpSite) (m : PluginHttpModule W) (cb : HttpHookFn W) :
    HookResult × HttpState W :=
  let (result, ctx, plugins) := s.plugins.call site m m.inst cb s.ctx
  (result, { s with ctx, plugins })

/-- Invoke a callback, if the module has it, and ignore its result. -/
def invokeIgnored (s : HttpState W) (site : HttpSite) (m : PluginHttpModule W)
    (cb : Option (HttpHookFn W)) : HttpState W :=
  match cb with
  | none => s
  | some cb => (s.invoke site m cb).2

section

variable (s : HttpState W) (site : HttpSite) (m : PluginHttpModule W) (cb : HttpHookFn W)

def callOf : HttpCall W where
  kind := site
  module := m
  seen := s.ctx
  result := (cb m.inst s.ctx s.world).1
  left := (cb m.inst s.ctx s.world).2.1
  worldLeft := (cb m.inst s.ctx s.world).2.2

@[simp] theorem invoke_result : (s.invoke site m cb).1 = (cb m.inst s.ctx s.world).1 := rfl

@[simp] theorem invoke_session : (s.invoke site m cb).2.session = s.session := rfl

@[simp] theorem invoke_ctx : (s.invoke site m cb).2.ctx = (cb m.inst s.ctx s.world).2.1 := rfl

@[simp] theorem invoke_world : (s.invoke site m cb).2.world = (cb m.inst s.ctx s.world).2.2 := rfl

@[simp] theorem invoke_calls :
    (s.invoke site m cb).2.calls = s.calls ++ [s.callOf site m cb] := rfl

@[simp] theorem callOf_kind : (s.callOf site m cb).kind = site := rfl

@[simp] theorem callOf_module : (s.callOf site m cb).module = m := rfl

@[simp] theorem callOf_result : (s.callOf site m cb).result = (cb m.inst s.ctx s.world).1 := rfl

@[simp] theorem callOf_left : (s.callOf site m cb).left = (cb m.inst s.ctx s.world).2.1 := rfl

@[simp] theorem callOf_worldLeft :
    (s.callOf site m cb).worldLeft = (cb m.inst s.ctx s.world).2.2 := rfl

end

end HttpState

/-! ## `early_request_filter` -/

/-- The context is made from the session; `connectionId` and `streamId` are random. -/
def earlyRequestFilter (env : HttpEnv) (connectionId streamId : ID) (s : HttpState W) :
    HttpState W :=
  { s with ctx := .ofSession env.net connectionId streamId s.session }

/-! ## `upstream_peer` -/

def isPortHttps (port : UInt16) : Bool := port = 443

/-- One round of the routing loop. It stops when the loop returns: with a peer, with the rejection,
or because an `unwrap` panics. -/
def routeRound (env : HttpEnv) (m : PluginHttpModule W) (s : HttpState W) :
    Step (HttpState W) (Outcome PingoraError HttpPeer) :=
  match m.onRoute with
  | none => .next s
  | some routeCb =>
    let (result, s) := s.invoke ⟨.upstreamPeer, .onRoute⟩ m routeCb
    let decision := HookResult.outcome result
    match s.ctx.route with
    | none => .next s
    | some route =>
      match decision.action with
      | .continue => .next s
      | .replace =>
        match route.upstreamToSet with
        | none => .next s
        | some upstream =>
          match route.httpPath with
          | none => .stop .panic s
          | some path =>
            match env.uriOfPathAndQuery path with
            | none => .stop .panic s
            | some newUri =>
              let s := { s with session := s.session.setUri newUri }
              match HttpPeer.new env upstream.host upstream.port (isPortHttps upstream.port)
                upstream.host with
              | none => .stop .panic s
              | some peer => .stop (.ok peer) s
      | .drop => .stop (.err (.httpStatus 503 "plugin rejected request".toList)) s

def upstreamPeer (env : HttpEnv) (hooks : PluginProxyHooks W) (s : HttpState W) :
    Outcome PingoraError HttpPeer × HttpState W :=
  match forEach (routeRound env) hooks.httpModules s with
  | .stop result s => (result, s)
  | .next s => (.err (.httpStatus 500 "no upstream was selected by plugins".toList), s)

/-! ## The local reply loop -/

/-- One round of the loop over `on_request_headers`. It stops (`break`) with the status and body of
the response that is present after the callback and, where that is due, the module's own
`on_local_reply`. -/
def answerRound (filter : HttpFilter) (m : PluginHttpModule W) (s : HttpState W) :
    Step (HttpState W) (UInt16 × Bytes) :=
  match m.onRequestHeaders with
  | none => .next s
  | some requestCb =>
    let (result, s) := s.invoke ⟨filter, .onRequestHeaders⟩ m requestCb
    let outcome := HookResult.outcome result
    if s.ctx.response.isSome ∨ outcome.action = .replace then
      let s := s.invokeIgnored ⟨filter, .onLocalReply⟩ m m.onLocalReply
      match s.ctx.response with
      | some response => .stop (response.status, response.body) s
      | none => .next s
    else .next s

/-! ## `request_filter` -/

/-- The URI of a request whose context already holds a route with a path: the path with the
request's query put right behind it. -/
def rewriteUri (env : HttpEnv) (s : HttpState W) : Option (HttpState W) :=
  match s.ctx.route.bind (·.httpPath) with
  | none => some s
  | some path =>
    let path := match s.session.reqHeader.uri.query with
      | some q => path ++ q
      | none => path
    (env.uriOfPathAndQuery path).map fun newUri =>
      { s with session := s.session.setUri newUri }

def requestFilter (env : HttpEnv) (hooks : PluginProxyHooks W) (s : HttpState W) :
    Outcome PingoraError Bool × HttpState W :=
  match rewriteUri env s with
  | none => (.panic, s)
  | some s =>
    match forEach (answerRound .requestFilter) hooks.httpModules s with
    | .next s => (.ok false, s)
    | .stop (status, body) s =>
      match s.session.respondErrorWithBody status body with
      | (.ok (), session) => (.ok true, { s with session })
      | (.err e, session) => (.err e, { s with session })
      | (.panic, session) => (.panic, { s with session })

/-! ## `upstream_request_filter` -/

/-- The `Host` header of the upstream request, from the route in the context. -/
def setHostHeader (env : HttpEnv) (s : HttpState W) (upstreamRequest : RequestHeader) :
    Option RequestHeader :=
  match s.ctx.route with
  | none => some upstreamRequest
  | some route =>
    match route.httpPath with
    | none => some upstreamRequest
    | some _ =>
      match route.upstreamToSet with
      | none => none
      | some upstream =>
        (env.headerValue upstream.host).map (upstreamRequest.insertHeader "host".toList)

def upstreamRequestFilter (env : HttpEnv) (hooks : PluginProxyHooks W) (s : HttpState W)
    (upstreamRequest : RequestHeader) :
    Outcome PingoraError Unit × RequestHeader × HttpState W :=
  match setHostHeader env s upstreamRequest with
  | none => (.panic, upstreamRequest, s)
  | some upstreamRequest =>
    match forEach (answerRound .upstreamRequestFilter) hooks.httpModules s with
    | .next s => (.ok (), upstreamRequest, s)
    | .stop (status, body) s =>
      match s.session.respondErrorWithBody status body with
      | (.ok (), session) => (.ok (), upstreamRequest, { s with session })
      | (.err e, session) => (.err e, upstreamRequest, { s with session })
      | (.panic, session) => (.panic, upstreamRequest, { s with session })

/-! ## The filters that ignore their callbacks' results -/

def populateReqBodyIntoCtx (body : Option Bytes) (ctx : HttpContext) : HttpContext :=
  match body, ctx.request with
  | some chunk, some req => { ctx with request := some { req with body := req.body ++ chunk } }
  | _, _ => ctx

def populateRespBodyIntoCtx (body : Option Bytes) (ctx : HttpContext) : HttpContext :=
  match body, ctx.response with
  | some chunk, some resp => { ctx with response := some { resp with body := resp.body ++ chunk } }
  | _, _ => ctx

/-- `request_body_filter`; the chunk it was given goes on unchanged. -/
def requestBodyFilter (hooks : PluginProxyHooks W) (body : Option Bytes) (s : HttpState W) :
    Outcome PingoraError Unit × Option Bytes × HttpState W :=
  let s := { s with ctx := populateReqBodyIntoCtx body s.ctx }
  let s := hooks.httpModules.foldl (fun s m =>
    s.invokeIgnored ⟨.requestBodyFilter, .onRequestBody⟩ m m.onRequestBody) s
  (.ok (), body, s)

/-- `response_filter`; the upstream's response header goes on unchanged. -/
def responseFilter (hooks : PluginProxyHooks W) (upstreamResponse : ResponseHeader)
    (s : HttpState W) : Outcome PingoraError Unit × ResponseHeader × HttpState W :=
  let s := hooks.httpModules.foldl (fun s m =>
    s.invokeIgnored ⟨.responseFilter, .onResponseHeaders⟩ m m.onResponseHeaders) s
  (.ok (), upstreamResponse, s)

/-- `response_body_filter`; the chunk it was given goes on unchanged. -/
def responseBodyFilter (hooks : PluginProxyHooks W) (body : Option Bytes) (endOfStream : Bool)
    (s : HttpState W) : Outcome PingoraError Unit × Option Bytes × HttpState W :=
  let s := { s with ctx := populateRespBodyIntoCtx body s.ctx }
  let s := hooks.httpModules.foldl (fun s m =>
    let s := s.invokeIgnored ⟨.responseBodyFilter, .onResponseBody⟩ m m.onResponseBody
    if endOfStream then s.invokeIgnored ⟨.responseBodyFilter, .onTrailers⟩ m m.onTrailers else s) s
  (.ok (), body, s)

end Vakil
