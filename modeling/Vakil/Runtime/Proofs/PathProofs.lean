import Vakil.Lib.Text
import Vakil.Runtime.Proofs.AttemptProofs
import Vakil.Runtime.Proofs.FirstMatchProofs

/-!
# Proofs: the path and the query of a forwarded request

`request_filter` would put the client's query behind the path of a route, but it looks for the route
before any callback could have set one. `upstream_peer` builds the URI from the path alone. So the
query that is forwarded is the one in the path the modules chose, if it has one.
-/

namespace Vakil

open ForLoop

variable {W : Type}

/-- The query that `http::Uri` finds in a path: what follows the first `?`, up to a `#`. -/
def queryOf (path : Str) : Option Str :=
  (Text.splitOnce '?' (path.takeWhile (· ≠ '#'))).map Prod.snd

/-- `q` is all of `query`, or one side or the middle of it, with `&` between. -/
def IsPartOf (q query : Str) : Prop :=
  ∃ a b, query = a ++ q ++ b ∧ (a = [] ∨ a.getLast? = some '&') ∧ (b = [] ∨ b.head? = some '&')

/-- The query of the request `incoming` is kept when it is sent under `path`: behind a path without a
query, as it is, or else as a part of the combined query. -/
def KeepsQuery (incoming : Uri) (path : Str) (forwarded : Uri) : Prop :=
  ∀ q, incoming.query = some q →
    match queryOf path with
    | none => forwarded.path = path ∧ forwarded.query = some q
    | some _ => ∃ query, forwarded.query = some query ∧ IsPartOf q query

theorem setHostHeader_uri {env : HttpEnv} {s : HttpState W} {req req' : RequestHeader}
    (h : setHostHeader env s req = some req') : req'.uri = req.uri := by
  unfold setHostHeader at h
  split at h
  · cases h
    rfl
  · split at h
    · cases h
      rfl
    · split at h
      · cases h
      · obtain ⟨value, -, rfl⟩ := Option.map_eq_some_iff.mp h
        rfl

/-- The calls between two states were all made by the filter `filter`. -/
def MadeBy (filter : HttpFilter) (s t : HttpState W) : Prop :=
  ∃ new, t.calls = s.calls ++ new ∧ ∀ c ∈ new, c.kind.filter = filter

theorem filter_of_kind {filter : HttpFilter} {calls : List (HttpCall W)}
    (h : ∀ c ∈ calls, c.kind = ⟨filter, .onRequestHeaders⟩ ∨ c.kind = ⟨filter, .onLocalReply⟩) :
    ∀ c ∈ calls, c.kind.filter = filter := by
  intro c hc
  rcases h c hc with hkind | hkind <;> rw [hkind]

theorem requestFilter_madeBy {env : HttpEnv} {hooks : PluginProxyHooks W} {s t : HttpState W}
    (h : requestFilter env hooks s = (.ok false, t)) : MadeBy .requestFilter s t := by
  rcases requestFilter_cases env hooks s with
      ⟨-, hrun⟩ | ⟨t', hs, hrun, hcalls, hun, -⟩ | ⟨t', hs, r, hrun, -⟩
  · rw [hrun] at h
    cases h
  · rw [hrun] at h
    cases h
    exact ⟨hs, hcalls, filter_of_kind hun.kind⟩
  · rw [hrun] at h
    obtain ⟨hresult, -⟩ := Prod.mk.inj h
    split_ifs at hresult
    cases hresult

theorem upstreamRequestFilter_madeBy {env : HttpEnv} {hooks : PluginProxyHooks W}
    {s t : HttpState W} {req header : RequestHeader}
    (h : upstreamRequestFilter env hooks s req = (.ok (), header, t)) :
    MadeBy .upstreamRequestFilter s t := by
  rcases upstreamRequestFilter_cases env hooks s req with
      ⟨-, hrun⟩ | ⟨req', t', us, -, hrun, hcalls, hus, -⟩ | ⟨req', t', us, r, -, hrun, hcalls, hus, -⟩
  · rw [hrun] at h
    cases h
  · rw [hrun] at h
    cases h
    exact ⟨us, hcalls, filter_of_kind hus.kind⟩
  · rw [hrun] at h
    obtain ⟨-, hrest⟩ := Prod.mk.inj h
    cases hrest
    exact ⟨us, hcalls, filter_of_kind hus.kind⟩

/-- A request that is sent goes to the peer of the one call that picked an upstream, with the URI of
the path that call left. -/
theorem requestHead_routed {env : HttpEnv} {hooks : PluginProxyHooks W} {peer : HttpPeer}
    {header : RequestHeader} {s t : HttpState W} (hnone : s.calls = [])
    (h : requestHead env hooks s = (.ready peer header, t)) :
    ∃ c₀ : HttpCall W, RoutedTo env peer c₀.left.route header.uri ∧
      ∀ c ∈ t.calls, c.kind = ⟨.upstreamPeer, .onRoute⟩ → c.PicksUpstream → c = c₀ := by
  obtain ⟨s₁, s₂, hfilter, hpeer, hready⟩ := requestHead_ready h
  obtain ⟨hs, hcalls₁, hhs⟩ := requestFilter_madeBy hfilter
  obtain ⟨us, hcalls₃, hus⟩ := upstreamRequestFilter_madeBy hready
  have hrouted := upstreamPeer_routed hpeer
  rcases upstreamPeer_cases env hooks s₁ with
      ⟨t', rs, code, context, hrun, -⟩ |
      ⟨t', rs, c₀, result, hrun, -, hcalls₂, hrs, -, -, hctx, -⟩
  · rw [hrun] at hpeer
    cases hpeer
  · rw [hrun] at hpeer
    cases hpeer
    refine ⟨c₀, ?_, ?_⟩
    · rw [← hctx, setHostHeader_uri (upstreamRequestFilter_header hready)]
      exact hrouted
    · intro c hc hkind hpick
      rw [hcalls₃, hcalls₂, hcalls₁, hnone] at hc
      simp only [List.nil_append, List.mem_append, List.mem_singleton] at hc
      rcases hc with (hc | hc | hc) | hc
      · have hfilter := hhs c hc
        rw [hkind] at hfilter
        cases hfilter
      · exact absurd hpick (hrs c hc).2
      · exact hc
      · have hfilter := hus c hc
        rw [hkind] at hfilter
        cases hfilter

/-- **The client's query is kept** exactly if the path has a query of its own of which it happens to
be a part; behind a path without one it is lost. -/
theorem forwardedQuery_kept_iff {env : HttpEnv}
    (hquery : ∀ path uri, env.uriOfPathAndQuery path = some uri → uri.query = queryOf path)
    (hooks : PluginProxyHooks W) (x : Exchange) (session : Session) (w : W) {peer : HttpPeer}
    {header : RequestHeader} {t : HttpState W}
    (hready : requestHead env hooks (requestStart env x session w) = (.ready peer header, t))
    {c : HttpCall W} (hc : c ∈ t.calls) (hkind : c.kind = ⟨.upstreamPeer, .onRoute⟩)
    (hpick : c.PicksUpstream) {path : Str} (hpath : c.left.route.bind (·.httpPath) = some path) :
    KeepsQuery session.reqHeader.uri path header.uri ↔
      ∀ q, session.reqHeader.uri.query = some q → ∃ own, queryOf path = some own ∧ IsPartOf q own := by
  obtain ⟨c₀, hrouted, hunique⟩ := requestHead_routed (requestStart_calls env x session w) hready
  obtain rfl := hunique c hc hkind hpick
  obtain ⟨decision, upstream, path', hroute, -, hpath', huri, -⟩ := hrouted.route
  obtain rfl : path' = path := by
    rw [hroute, Option.bind_some, hpath'] at hpath
    exact Option.some.inj hpath
  have hforwarded : header.uri.query = queryOf path' := hquery path' header.uri huri
  unfold KeepsQuery
  refine forall₂_congr ?_
  intro q _
  rw [hforwarded]
  cases hown : queryOf path' with
  | none => exact iff_of_false (fun h => nomatch h.2) nofun
  | some own => rfl

/-- Paths are split as `http::Uri` does. -/
def Plain.uriEnv : HttpEnv :=
  { Plain.env with
    uriOfPathAndQuery := fun path =>
      some ⟨none, none, (path.takeWhile (· ≠ '#')).takeWhile (· ≠ '?'), queryOf path⟩ }

/-- `GET /?id=7`. -/
def queryRequest : Session :=
  { Plain.session with reqHeader :=
      { Plain.session.reqHeader with uri := ⟨none, none, "/".toList, some "id=7".toList⟩ } }

/-- A module that sends every request to the path `path`. -/
def rewriter (path : Str) : PluginHttpModule Unit :=
  { PluginHttpModule.default with
    onRoute := some fun _ ctx w =>
      (.ok ⟨.replace⟩, { ctx with transport := ctx.transport.map ({ · with
        route := { upstreamToSet := some Plain.upstream, httpPath := some path } }) }, w) }

/-- A path that repeats the query of the request keeps it. -/
theorem forwardedQuery_kept_repeated : ∃ peer header t,
    requestHead Plain.uriEnv ⟨[rewriter "/v2?page=1&id=7".toList], [], []⟩
      (requestStart Plain.uriEnv Plain.exchange queryRequest ()) = (.ready peer header, t) ∧
    KeepsQuery queryRequest.reqHeader.uri "/v2?page=1&id=7".toList header.uri := by
  obtain ⟨peer, header, t, c, hready, hcalls, hkind, hpick, hpath⟩ : ∃ peer header t c,
      requestHead Plain.uriEnv ⟨[rewriter "/v2?page=1&id=7".toList], [], []⟩
        (requestStart Plain.uriEnv Plain.exchange queryRequest ()) = (.ready peer header, t) ∧
      t.calls = [c] ∧ c.kind = ⟨.upstreamPeer, .onRoute⟩ ∧ c.PicksUpstream ∧
      c.left.route.bind (·.httpPath) = some "/v2?page=1&id=7".toList :=
    ⟨_, _, _, _, rfl, rfl, rfl, ⟨rfl, rfl⟩, rfl⟩
  have hquery : ∀ path uri, Plain.uriEnv.uriOfPathAndQuery path = some uri →
      uri.query = queryOf path := by
    intro path uri h
    cases h
    rfl
  refine ⟨peer, header, t, hready, (forwardedQuery_kept_iff hquery _ _ _ _ hready
    (by rw [hcalls]; exact List.mem_singleton_self c) hkind hpick hpath).mpr ?_⟩
  intro q hq
  cases hq
  exact ⟨"page=1&id=7".toList, rfl, "page=1&".toList, [], rfl, .inr rfl, .inl rfl⟩

/-- Sent to `/v2`, the request loses its query. -/
theorem rewriter_loses_query : ∃ peer header t,
    requestHead Plain.uriEnv ⟨[rewriter "/v2".toList], [], []⟩
      (requestStart Plain.uriEnv Plain.exchange queryRequest ()) = (.ready peer header, t) ∧
    header.uri.path = "/v2".toList ∧ header.uri.query = none ∧
    ¬ KeepsQuery queryRequest.reqHeader.uri "/v2".toList header.uri := by
  refine ⟨_, _, _, rfl, rfl, rfl, ?_⟩
  intro h
  cases (h _ rfl).2

end Vakil
