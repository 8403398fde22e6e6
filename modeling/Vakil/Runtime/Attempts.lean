import Vakil.Runtime.Request
import Vakil.Lib.Calls

/-!
# Upstream attempts

The proxy library may try the upstream of a request more than once. Every attempt asks
`upstream_peer` for a peer and then hands `upstream_request_filter` a copy of the session's request
header; body chunks may have been filtered before it is given up. The library does not touch the
context in between, so what an attempt finds there is what the callbacks of the attempts before it
left.
-/

namespace Vakil

variable {W : Type}

structure Attempt where
  /-- What `upstream_peer` returned, -/
  peer : Outcome PingoraError HttpPeer
  /-- and the route and the session's URI at that moment. -/
  route : Option RouteDecision
  uri : Uri
  /-- What `upstream_request_filter` returned, and the header it left; `none` without a peer. -/
  upstreamRequest : Option (Outcome PingoraError Unit × RequestHeader)

/-- One attempt, in which the chunks `body` get as far as `request_body_filter`. -/
def attempt (env : HttpEnv) (hooks : PluginProxyHooks W) (body : List (Option Bytes))
    (s : HttpState W) : Attempt × HttpState W :=
  match upstreamPeer env hooks s with
  | (.ok peer, s) =>
    let (result, header, t) := upstreamRequestFilter env hooks s s.session.reqHeader
    (⟨.ok peer, s.ctx.route, s.session.reqHeader.uri, some (result, header)⟩,
      body.foldl (fun s chunk => (requestBodyFilter hooks chunk s).2.2) t)
  | (result, s) => (⟨result, s.ctx.route, s.session.reqHeader.uri, none⟩, s)

/-- Attempts in sequence, each with the chunks filtered in it. -/
def serveAttempts (env : HttpEnv) (hooks : PluginProxyHooks W)
    (bodies : List (List (Option Bytes))) (s : HttpState W) :
    List (List (Option Bytes) × Attempt) × HttpState W :=
  Calls.serve (attempt env hooks) bodies s

end Vakil
