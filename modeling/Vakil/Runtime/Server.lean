import Vakil.Runtime.Request
import Vakil.Lib.Tasks

/-!
# Requests that are served at the same time

The proxy library serves requests concurrently, and they share the plugins and their state: between two
callbacks of one request, callbacks of others may run. A request is a task here, and every call of a
callback is one of its turns. A `Flow` is what belongs to the request alone.

The filters are those of `Runtime.Http`, in the order of `Runtime.Request`, with one upstream attempt for
each request.
-/

namespace Vakil

open ForLoop Tasks

variable {W : Type}

structure Flow (W : Type) where
  session : Session
  ctx : HttpContext
  calls : List (HttpCall W)

namespace Flow

/-- The flow as `request_filter` finds it. -/
def start (env : HttpEnv) (x : Exchange) (session : Session) : Flow W :=
  let session := { session with replies := [] }
  ⟨session, .ofSession env.net x.connectionId x.streamId session, []⟩

/-- Invoke a callback on the request's context. -/
def invoke (f : Flow W) (site : HttpSite) (m : PluginHttpModule W) (cb : HttpHookFn W) :
    Task W (HookResult × Flow W) :=
  .turn (fun w => (cb m.inst f.ctx w).2.2) fun w =>
    let (result, ctx, w') := cb m.inst f.ctx w
    .done (result, { f with ctx, calls := f.calls ++ [⟨site, m, f.ctx, result, ctx, w'⟩] })

/-- Invoke a callback, if the module has it, and ignore its result. -/
def invokeIgnored (f : Flow W) (site : HttpSite) (m : PluginHttpModule W)
    (cb : Option (HttpHookFn W)) : Task W (Flow W) :=
  match cb with
  | none => return f
  | some cb => do
    let (_, f) ← f.invoke site m cb
    return f

/-- The flow with no plugins: what the parts of the filters that call none of them work on. -/
def bare (f : Flow W) : HttpState Unit := ⟨f.session, f.ctx, ⟨(), []⟩⟩

/-! ## `upstream_peer` -/

def routeRound (env : HttpEnv) (m : PluginHttpModule W) (f : Flow W) :
    Task W (Step (Flow W) (Outcome PingoraError HttpPeer)) :=
  match m.onRoute with
  | none => return .next f
  | some routeCb => do
    let (result, f) ← f.invoke ⟨.upstreamPeer, .onRoute⟩ m routeCb
    let decision := HookResult.outcome result
    match f.ctx.route with
    | none => return .next f
    | some route =>
      match decision.action with
      | .continue => return .next f
      | .replace =>
        match route.upstreamToSet with
        | none => return .next f
        | some upstream =>
          match route.httpPath with
          | none => return .stop .panic f
          | some path =>
            match env.uriOfPathAndQuery path with
            | none => return .stop .panic f
            | some newUri =>
              let f := { f with session := f.session.setUri newUri }
              match HttpPeer.new env upstream.host upstream.port (isPortHttps upstream.port)
                upstream.host with
              | none => return .stop .panic f
              | some peer => return .stop (.ok peer) f
      | .drop => return .stop (.err (.httpStatus 503 "plugin rejected request".toList)) f

def upstreamPeer (env : HttpEnv) (hooks : PluginProxyHooks W) (f : Flow W) :
    Task W (Outcome PingoraError HttpPeer × Flow W) := do
  match ← Task.forEach (routeRound env) hooks.httpModules f with
  | .stop result f => return (result, f)
  | .next f =>
    return (.err (.httpStatus 500 "no upstream was selected by plugins".toList), f)

/-! ## `request_filter` and `upstream_request_filter` -/

def answerRound (filter : HttpFilter) (m : PluginHttpModule W) (f : Flow W) :
    Task W (Step (Flow W) (UInt16 × Bytes)) :=
  match m.onRequestHeaders with
  | none => return .next f
  | some requestCb => do
    let (result, f) ← f.invoke ⟨filter, .onRequestHeaders⟩ m requestCb
    let outcome := HookResult.outcome result
    if f.ctx.response.isSome ∨ outcome.action = .replace then do
      let f ← f.invokeIgnored ⟨filter, .onLocalReply⟩ m m.onLocalReply
      match f.ctx.response with
      | some response => return .stop (response.status, response.body) f
      | none => return .next f
    else return .next f

def requestFilter (env : HttpEnv) (hooks : PluginProxyHooks W) (f : Flow W) :
    Task W (Outcome PingoraError Bool × Flow W) :=
  match rewriteUri env f.bare with
  | none => return (.panic, f)
  | some s => do
    match ← Task.forEach (answerRound .requestFilter) hooks.httpModules
      { f with session := s.session } with
    | .next f => return (.ok false, f)
    | .stop (status, body) f =>
      match f.session.respondErrorWithBody status body with
      | (.ok (), session) => return (.ok true, { f with session })
      | (.err e, session) => return (.err e, { f with session })
      | (.panic, session) => return (.panic, { f with session })

def upstreamRequestFilter (env : HttpEnv) (hooks : PluginProxyHooks W) (f : Flow W)
    (upstreamRequest : RequestHeader) :
    Task W (Outcome PingoraError Unit × RequestHeader × Flow W) :=
  match setHostHeader env f.bare upstreamRequest with
  | none => return (.panic, upstreamRequest, f)
  | some upstreamRequest => do
    match ← Task.forEach (answerRound .upstreamRequestFilter) hooks.httpModules f with
    | .next f => return (.ok (), upstreamRequest, f)
    | .stop (status, body) f =>
      match f.session.respondErrorWithBody status body with
      | (.ok (), session) => return (.ok (), upstreamRequest, { f with session })
      | (.err e, session) => return (.err e, upstreamRequest, { f with session })
      | (.panic, session) => return (.panic, upstreamRequest, { f with session })

/-! ## The filters that ignore their callbacks' results -/

def requestBodyFilter (hooks : PluginProxyHooks W) (body : Option Bytes) (f : Flow W) :
    Task W (Flow W) :=
  hooks.httpModules.foldlM (fun f m =>
    f.invokeIgnored ⟨.requestBodyFilter, .onRequestBody⟩ m m.onRequestBody)
    { f with ctx := populateReqBodyIntoCtx body f.ctx }

def responseFilter (hooks : PluginProxyHooks W) (f : Flow W) : Task W (Flow W) :=
  hooks.httpModules.foldlM (fun f m =>
    f.invokeIgnored ⟨.responseFilter, .onResponseHeaders⟩ m m.onResponseHeaders) f

def responseBodyFilter (hooks : PluginProxyHooks W) (body : Option Bytes) (endOfStream : Bool)
    (f : Flow W) : Task W (Flow W) :=
  hooks.httpModules.foldlM (fun f m => do
    let f ← f.invokeIgnored ⟨.responseBodyFilter, .onResponseBody⟩ m m.onResponseBody
    if endOfStream then f.invokeIgnored ⟨.responseBodyFilter, .onTrailers⟩ m m.onTrailers
    else return f)
    { f with ctx := populateRespBodyIntoCtx body f.ctx }

/-! ## The whole request -/

def upstreamHead (env : HttpEnv) (hooks : PluginProxyHooks W) (peer : HttpPeer) (f : Flow W) :
    Task W (RequestHead × Flow W) := do
  match ← f.upstreamRequestFilter env hooks f.session.reqHeader with
  | (.ok (), upstreamRequest, f) => return (.ready peer upstreamRequest, f)
  | (.err e, _, f) => return (.failed e, f)
  | (.panic, _, f) => return (.aborted, f)

def requestHead (env : HttpEnv) (hooks : PluginProxyHooks W) (f : Flow W) :
    Task W (RequestHead × Flow W) := do
  match ← f.requestFilter env hooks with
  | (.ok true, f) => return (.answered, f)
  | (.err e, f) => return (.failed e, f)
  | (.panic, f) => return (.aborted, f)
  | (.ok false, f) =>
    match ← f.upstreamPeer env hooks with
    | (.ok peer, f) => f.upstreamHead env hooks peer
    | (.err e, f) => return (.failed e, f)
    | (.panic, f) => return (.aborted, f)

def relay (hooks : PluginProxyHooks W) (x : Exchange) (f : Flow W) : Task W (Flow W) := do
  let f ← x.requestBody.foldlM (fun f chunk => f.requestBodyFilter hooks chunk) f
  let f ← f.responseFilter hooks
  let f := { f with session := f.session.writeUpstreamResponse }
  x.responseBody.foldlM (fun f chunk => f.responseBodyFilter hooks chunk.1 chunk.2) f

end Flow

/-- A request that has been served: the peer it was sent to, with the header it was sent with. -/
structure Served (W : Type) where
  forwarded : Option (HttpPeer × RequestHeader)
  flow : Flow W

def Flow.finish (hooks : PluginProxyHooks W) (x : Exchange) :
    RequestHead × Flow W → Task W (Served W)
  | (.answered, f) => return ⟨none, f⟩
  | (.failed e, f) => return ⟨none, { f with session := (failToProxy e f.bare).session }⟩
  | (.aborted, f) => return ⟨none, f⟩
  | (.ready peer upstreamRequest, f) => do
    let f ← f.relay hooks x
    return ⟨some (peer, upstreamRequest), f⟩

/-- A request as a task: `serveRequest`, with its one upstream attempt and its calls as turns. -/
def serveTask (env : HttpEnv) (hooks : PluginProxyHooks W) (x : Exchange) (session : Session) :
    Task W (Served W) := do
  let head ← (Flow.start env x session).requestHead env hooks
  Flow.finish hooks x head

/-- A request as the outside gives it. -/
structure Arrival where
  exchange : Exchange
  session : Session

/-- The requests, before any of them has had a turn. -/
def requestPool {ι : Type} (env : HttpEnv) (hooks : PluginProxyHooks W) (requests : ι → Arrival)
    (w : W) : Pool ι W (Served W) where
  tasks i := serveTask env hooks (requests i).exchange (requests i).session
  world := w

end Vakil
