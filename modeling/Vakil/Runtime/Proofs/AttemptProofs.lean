import Vakil.Runtime.Proofs.RequestProofs
import Vakil.Runtime.Attempts

/-!
# Proofs: peer, URI and Host agree

The routing loop is left with a peer only in the round that found the route for it, so at the exit of
`upstream_peer` the context holds that route, complete with upstream and path. The next filter
computes the `Host` header from the context and therefore from the same route.
-/

namespace Vakil

open ForLoop Step

variable {W : Type}

/-- The route in the context is the one the peer was built from, and the session's URI is built from
its path. -/
structure RoutedTo (env : HttpEnv) (peer : HttpPeer) (route : Option RouteDecision) (uri : Uri) :
    Prop where
  route : ∃ decision upstream path, route = some decision ∧
    decision.upstreamToSet = some upstream ∧ decision.httpPath = some path ∧
    env.uriOfPathAndQuery path = some uri ∧
    HttpPeer.new env upstream.host upstream.port (isPortHttps upstream.port) upstream.host =
      some peer

theorem routeRound_routed {env : HttpEnv} {m : PluginHttpModule W} {s t : HttpState W}
    {peer : HttpPeer} (h : routeRound env m s = .stop (.ok peer) t) :
    RoutedTo env peer t.ctx.route t.session.reqHeader.uri := by
  unfold routeRound at h
  split at h
  · cases h
  · next routeCb hcb =>
    dsimp only at h
    split at h
    · cases h
    · next decision hroute =>
      split at h
      · cases h
      · split at h
        · cases h
        · next upstream hup =>
          split at h
          · cases h
          · next path hpath =>
            split at h
            · cases h
            · next uri huri =>
              split at h
              · cases h
              · next peer' hpeer =>
                cases h
                exact ⟨decision, upstream, path, hroute, hup, hpath, huri, hpeer⟩
      · cases h

/-- **At the exit of `upstream_peer`** with a peer, the context holds the route of that peer. -/
theorem upstreamPeer_routed {env : HttpEnv} {hooks : PluginProxyHooks W} {s t : HttpState W}
    {peer : HttpPeer} (h : upstreamPeer env hooks s = (.ok peer, t)) :
    RoutedTo env peer t.ctx.route t.session.reqHeader.uri := by
  unfold upstreamPeer at h
  cases hloop : forEach (routeRound env) hooks.httpModules s with
  | next s' => rw [hloop] at h; cases h
  | stop result s' =>
    rw [hloop] at h
    cases h
    obtain ⟨pre, m, post, s₁, -, -, hround⟩ := forEach_eq_stop_iff.mp hloop
    exact routeRound_routed hround

theorem HttpPeer.host_of_new {env : HttpEnv} {host sni : Str} {port : UInt16} {tls : Bool}
    {peer : HttpPeer} (h : HttpPeer.new env host port tls sni = some peer) :
    peer.host = host ∧ peer.port = port := by
  unfold HttpPeer.new at h
  split_ifs at h
  cases h
  exact ⟨rfl, rfl⟩

/-- With the route of a peer in the context, `upstream_request_filter` sets its host. -/
theorem setHostHeader_routed {env : HttpEnv} {peer : HttpPeer} {s : HttpState W} {uri : Uri}
    (h : RoutedTo env peer s.ctx.route uri) {value : Bytes}
    (hvalue : env.headerValue peer.host = some value) (req : RequestHeader) :
    setHostHeader env s req = some (req.insertHeader "host".toList value) := by
  obtain ⟨decision, upstream, path, hroute, hup, hpath, -, hpeer⟩ := h.route
  unfold setHostHeader
  rw [hroute]
  dsimp only
  rw [hpath, hup]
  dsimp only
  rw [← (HttpPeer.host_of_new hpeer).1, hvalue]
  rfl

theorem upstreamRequestFilter_host {env : HttpEnv} (hooks : PluginProxyHooks W) {s : HttpState W}
    {req req' : RequestHeader} (h : setHostHeader env s req = some req') :
    ∃ result t, upstreamRequestFilter env hooks s req = (result, req', t) ∧ result ≠ .panic := by
  rcases upstreamRequestFilter_cases env hooks s req with
      ⟨hnone, -⟩ | ⟨req'', t, new, hsome, hrun, -⟩ | ⟨req'', t, new, r, hsome, hrun, -⟩
  · rw [h] at hnone
    cases hnone
  · rw [h] at hsome
    cases hsome
    exact ⟨_, t, hrun, nofun⟩
  · rw [h] at hsome
    cases hsome
    refine ⟨_, t, hrun, ?_⟩
    split_ifs <;> nofun

/-- In an attempt that got a peer, `upstream_request_filter` did not panic, the request's URI is built
from the path of the peer's route, and its `Host` is the peer's host, if that is a valid header
value. -/
def Attempt.Agrees (env : HttpEnv) (a : Attempt) : Prop :=
  ∀ peer, a.peer = .ok peer → ∃ decision upstream path,
    a.route = some decision ∧ decision.upstreamToSet = some upstream ∧
    decision.httpPath = some path ∧ peer.host = upstream.host ∧ peer.port = upstream.port ∧
    env.uriOfPathAndQuery path = some a.uri ∧
    ∀ value, env.headerValue peer.host = some value →
      ∃ result header, a.upstreamRequest = some (result, header) ∧ result ≠ .panic ∧
        header.uri = a.uri ∧
        header.headers.filter (·.1 = "host".toList) = [("host".toList, value)]

/-- An attempt that gets a peer. -/
theorem attempt_of_peer {env : HttpEnv} {hooks : PluginProxyHooks W} {body : List (Option Bytes)}
    {s t t' : HttpState W} {peer : HttpPeer} {result : Outcome PingoraError Unit}
    {header : RequestHeader} (hpeer : upstreamPeer env hooks s = (.ok peer, t))
    (hfilter : upstreamRequestFilter env hooks t t.session.reqHeader = (result, header, t')) :
    (attempt env hooks body s).1 =
      ⟨.ok peer, t.ctx.route, t.session.reqHeader.uri, some (result, header)⟩ := by
  simp only [attempt, hpeer, hfilter]

theorem upstreamPeer_of_attempt {env : HttpEnv} {hooks : PluginProxyHooks W}
    {body : List (Option Bytes)} {s : HttpState W} {peer : HttpPeer}
    (h : (attempt env hooks body s).1.peer = .ok peer) :
    ∃ t, upstreamPeer env hooks s = (.ok peer, t) := by
  unfold attempt at h
  cases hrun : upstreamPeer env hooks s with
  | mk outcome t =>
  rw [hrun] at h
  cases outcome with
  | err e => cases h
  | panic => cases h
  | ok peer' =>
    cases h
    exact ⟨t, rfl⟩

theorem attempt_agrees (env : HttpEnv) (hooks : PluginProxyHooks W) (body : List (Option Bytes))
    (s : HttpState W) : (attempt env hooks body s).1.Agrees env := by
  intro peer hpeer
  obtain ⟨t, hrun⟩ := upstreamPeer_of_attempt hpeer
  have hrouted := upstreamPeer_routed hrun
  obtain ⟨decision, upstream, path, hroute, hup, hpath, huri, hnew⟩ := hrouted.route
  obtain ⟨hhost, hport⟩ := HttpPeer.host_of_new hnew
  cases hfilter : upstreamRequestFilter env hooks t t.session.reqHeader with
  | mk result rest =>
  obtain ⟨header, t'⟩ := rest
  rw [attempt_of_peer hrun hfilter]
  refine ⟨decision, upstream, path, hroute, hup, hpath, hhost, hport, huri, ?_⟩
  intro value hvalue
  have hset := setHostHeader_routed hrouted hvalue t.session.reqHeader
  obtain ⟨result', t'', hfilter', hresult⟩ := upstreamRequestFilter_host hooks hset
  rw [hfilter] at hfilter'
  cases hfilter'
  exact ⟨result, _, rfl, hresult, rfl, insertValue_filter_self _ _ _⟩

/-- **Peer, URI and Host agree on every attempt**, whatever the modules do and whatever routes
earlier attempts left in the context. -/
theorem serveAttempts_agree (env : HttpEnv) (hooks : PluginProxyHooks W)
    (bodies : List (List (Option Bytes))) (s : HttpState W) :
    ∀ body a, (body, a) ∈ (serveAttempts env hooks bodies s).1 → a.Agrees env := by
  intro body a hmem
  obtain ⟨pre, post, -, rfl⟩ := Calls.mem_serve_iff.mp hmem
  exact attempt_agrees env hooks body _

/-- A module that chooses 127.0.0.1 and then, for every further attempt, 127.0.0.2. -/
def failover : PluginHttpModule Nat :=
  { PluginHttpModule.default with
    onRoute := some fun _ ctx w =>
      let host := if w = 0 then "127.0.0.1".toList else "127.0.0.2".toList
      let route : RouteDecision := ⟨.keep, some ⟨host, 8080⟩, some "/".toList⟩
      (.ok ⟨.replace⟩, { ctx with transport := ctx.transport.map ({ · with route }) }, w + 1) }

/-- The second attempt goes to the second host, and its `Host` header names that host. -/
theorem serveAttempts_agree_failover :
    ∃ a, ([], a) ∈ (serveAttempts Plain.env ⟨[failover], [], []⟩ [[], []]
        (requestStart Plain.env Plain.exchange Plain.session 0)).1 ∧
      a.peer = .ok ⟨"127.0.0.2".toList, 8080, false, "127.0.0.2".toList⟩ ∧
      ∃ result header, a.upstreamRequest = some (result, header) ∧
        header.headers.filter (·.1 = "host".toList) =
          [("host".toList, [49, 50, 55, 46, 48, 46, 48, 46, 50])] := by
  refine ⟨_, List.mem_cons_of_mem _ List.mem_cons_self, rfl, ?_⟩
  obtain ⟨-, -, -, -, -, -, -, -, -, hhost⟩ := serveAttempts_agree Plain.env ⟨[failover], [], []⟩
    [[], []] (requestStart Plain.env Plain.exchange Plain.session 0) _ _
    (List.mem_cons_of_mem _ List.mem_cons_self) _ rfl
  obtain ⟨result, header, hrequest, -, -, hheader⟩ := hhost _ rfl
  exact ⟨result, header, hrequest, hheader⟩

end Vakil
