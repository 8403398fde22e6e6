import Vakil.Runtime.Proofs.InterleavingProofs
import Vakil.Runtime.Proofs.PathProofs

/-!
# Proofs: what is sent to the peer

Of all that the callbacks of a request leave in the context, one route alone gets to the peer: that of the
first callback that picks an upstream. It gives the peer, the URI and the `Host` header, and everything
else of the request header is the client's (`served_forwards`), whatever requests are served meanwhile. A
request has one upstream attempt.
-/

namespace Vakil

open ForLoop Tasks

variable {V W : Type}

/-- The call `c` is the one of the calls that picks an upstream. -/
structure Decides (calls : List (HttpCall W)) (c : HttpCall W) : Prop where
  picks : c.PicksUpstream
  alone : ∃ pre post, calls = pre ++ c :: post ∧ c.kind = ⟨.upstreamPeer, .onRoute⟩ ∧
    ∀ d ∈ pre ++ post, d.kind = ⟨.upstreamPeer, .onRoute⟩ → ¬ d.PicksUpstream

/-- The client's header, sent to the peer of the route, under its path and with its host. -/
def Forwards (env : HttpEnv) (client : RequestHeader) (route : Option RouteDecision)
    (peer : HttpPeer) (header : RequestHeader) : Prop :=
  ∃ decision upstream path uri value, route = some decision ∧
    decision.upstreamToSet = some upstream ∧ decision.httpPath = some path ∧
    HttpPeer.new env upstream.host upstream.port (isPortHttps upstream.port) upstream.host =
      some peer ∧
    env.uriOfPathAndQuery path = some uri ∧ env.headerValue upstream.host = some value ∧
    header = { client with uri }.insertHeader "host".toList value

/-! ## One request -/

section Sequential

variable {env : HttpEnv} {hooks : PluginProxyHooks W} {s t : HttpState W} {peer : HttpPeer}
  {header : RequestHeader}

/-- A request that passes `request_filter` keeps its header, unless its context has a route already. -/
theorem requestFilter_session (hs : rewriteUri env s = some s)
    (h : requestFilter env hooks s = (.ok false, t)) : t.session = s.session := by
  obtain ⟨s', hs', hloop⟩ := requestFilter_passes h
  obtain rfl : s = s' := Option.some.inj (hs.symm.trans hs')
  have hsat := answerLoop_sat .requestFilter hooks.httpModules s
  rw [hloop] at hsat
  exact hsat.1

theorem routeRound_setUri {m : PluginHttpModule W} (h : routeRound env m s = .stop (.ok peer) t) :
    ∃ uri, t.session = s.session.setUri uri := by
  unfold routeRound at h
  split at h
  · cases h
  · dsimp only at h
    split at h
    · cases h
    · split at h
      · cases h
      · split at h
        · cases h
        · split at h
          · cases h
          · split at h
            · cases h
            · next uri huri =>
              split at h
              · cases h
              · cases h
                exact ⟨uri, rfl⟩
      · cases h

/-- Only the URI of the session is changed on the way to a peer. -/
theorem upstreamPeer_setUri (h : upstreamPeer env hooks s = (.ok peer, t)) :
    ∃ uri, t.session = s.session.setUri uri := by
  unfold upstreamPeer at h
  cases hloop : forEach (routeRound env) hooks.httpModules s with
  | next s' =>
    rw [hloop] at h
    cases h
  | stop result s' =>
    rw [hloop] at h
    cases h
    obtain ⟨pre, m, post, s₁, -, hpre, hround⟩ := forEach_eq_stop_iff.mp hloop
    have hsat := routeLoop_sat env pre s
    rw [hpre] at hsat
    obtain ⟨uri, huri⟩ := routeRound_setUri hround
    refine ⟨uri, ?_⟩
    rw [huri, hsat.1]

theorem forwards_of_routed {uri : Uri} {client : RequestHeader}
    (hrouted : RoutedTo env peer s.ctx.route uri)
    (hhost : setHostHeader env s { client with uri } = some header) :
    Forwards env client s.ctx.route peer header := by
  obtain ⟨decision, upstream, path, hroute, hup, hpath, huri, hpeer⟩ := hrouted.route
  unfold setHostHeader at hhost
  rw [hroute] at hhost
  dsimp only at hhost
  rw [hpath, hup] at hhost
  obtain ⟨value, hvalue, rfl⟩ := Option.map_eq_some_iff.mp hhost
  exact ⟨decision, upstream, path, uri, value, hroute, hup, hpath, hpeer, huri, hvalue, rfl⟩

theorem requestHead_forwards (hs : rewriteUri env s = some s) (hnone : s.calls = [])
    (h : requestHead env hooks s = (.ready peer header, t)) :
    ∃ c, Decides t.calls c ∧ Forwards env s.session.reqHeader c.left.route peer header := by
  obtain ⟨s₁, s₂, hfilter, hpeer, hready⟩ := requestHead_ready h
  have hsession₁ := requestFilter_session hs hfilter
  obtain ⟨uri, hsession₂⟩ := upstreamPeer_setUri hpeer
  have hrouted := upstreamPeer_routed hpeer
  have hhost := upstreamRequestFilter_header hready
  obtain ⟨hcs, hcalls₁, hhs⟩ := requestFilter_madeBy hfilter
  obtain ⟨us, hcalls₃, hus⟩ := upstreamRequestFilter_madeBy hready
  rcases upstreamPeer_cases env hooks s₁ with
      ⟨t', rs, code, context, hrun, -⟩ |
      ⟨t', rs, c, result, hrun, -, hcalls₂, hrs, hkind, hpick, hctx, -⟩
  · rw [hrun] at hpeer
    cases hpeer
  · rw [hrun] at hpeer
    cases hpeer
    refine ⟨c, ⟨hpick, hcs ++ rs, us, ?_, hkind, ?_⟩, ?_⟩
    · rw [hcalls₃, hcalls₂, hcalls₁, hnone]
      simp
    · intro d hd hdkind
      simp only [List.mem_append] at hd
      rcases hd with (hd | hd) | hd
      · have hfilter := hhs d hd
        rw [hdkind] at hfilter
        cases hfilter
      · exact (hrs d hd).2
      · have hfilter := hus d hd
        rw [hdkind] at hfilter
        cases hfilter
    · have huri : s₂.session.reqHeader.uri = uri := by rw [hsession₂]; rfl
      have hheader : s₂.session.reqHeader = { s.session.reqHeader with uri } := by
        rw [hsession₂, hsession₁]
        rfl
      rw [hheader] at hhost
      rw [huri] at hrouted
      rw [← hctx]
      exact forwards_of_routed hrouted hhost

theorem Decides.append {calls new : List (HttpCall W)} {c : HttpCall W} (h : Decides calls c)
    (hnew : ∀ d ∈ new, Relayed d) : Decides (calls ++ new) c := by
  obtain ⟨pre, post, rfl, hkind, hothers⟩ := h.alone
  refine ⟨h.picks, pre, post ++ new, by simp, hkind, ?_⟩
  intro d hd hdkind
  rw [← List.append_assoc] at hd
  rcases List.mem_append.mp hd with hd | hd
  · exact hothers d hd hdkind
  · have hrelayed := hnew d hd
    rw [Relayed, hdkind] at hrelayed
    rcases hrelayed with hfilter | hfilter | hfilter <;> cases hfilter

theorem serveRequest_forwards {x : Exchange} {session : Session} {w : W}
    (h : (serveRequest env hooks x session w).forwarded = some (peer, header)) :
    ∃ c, Decides (serveRequest env hooks x session w).calls c ∧
      Forwards env session.reqHeader c.left.route peer header := by
  unfold serveRequest at h ⊢
  cases hhead : requestHead env hooks (requestStart env x session w) with
  | mk head t =>
  rw [hhead] at h
  cases head with
  | answered => cases h
  | failed e => cases h
  | aborted => cases h
  | ready peer' header' =>
    cases h
    obtain ⟨c, hdecides, hforwards⟩ := requestHead_forwards
      (rewriteUri_requestStart env x session w) (requestStart_calls env x session w) hhead
    obtain ⟨-, new, hcalls, hnew⟩ := relay_spec hooks x t
    refine ⟨c, ?_, hforwards⟩
    show Decides (relay hooks x t).calls c
    rw [hcalls]
    exact hdecides.append hnew

end Sequential

/-! ## Among others -/

theorem Call.Through.picksUpstream_iff {view : View V W} {c : HttpCall W} {d : HttpCall V}
    (h : Call.Through view (PluginHttpModule.through view) c d) : d.PicksUpstream ↔ c.PicksUpstream := by
  unfold Call.PicksUpstream
  rw [h.result, h.left]

theorem forall₂_split {α β : Type} {R : α → β → Prop} {l : List α} {pre post : List β} {b : β}
    (h : List.Forall₂ R l (pre ++ b :: post)) :
    ∃ pre' a post', l = pre' ++ a :: post' ∧ R a b ∧ List.Forall₂ R (pre' ++ post') (pre ++ post) := by
  induction pre generalizing l with
  | nil =>
    cases h with
    | cons hab hrest => exact ⟨[], _, _, rfl, hab, hrest⟩
  | cons y pre ih =>
    cases h with
    | cons hxy hrest =>
      obtain ⟨pre', a, post', rfl, hab, hrest⟩ := ih hrest
      exact ⟨_ :: pre', a, post', rfl, hab, .cons hxy hrest⟩

theorem forall₂_exists_of_mem {α β : Type} {R : α → β → Prop} {l : List α} {l' : List β}
    (h : List.Forall₂ R l l') {a : α} (ha : a ∈ l) : ∃ b ∈ l', R a b := by
  obtain ⟨pre, post, rfl⟩ := List.append_of_mem ha
  obtain ⟨pre', b, post', rfl, hab, -⟩ := forall₂_split (R := fun b a => R a b) h.flip
  exact ⟨b, List.mem_append_right _ List.mem_cons_self, hab⟩

theorem Decides.through {view : View V W} {calls : List (HttpCall W)} {calls' : List (HttpCall V)}
    (hcalls : List.Forall₂ (Call.Through view (PluginHttpModule.through view)) calls calls') {d : HttpCall V}
    (h : Decides calls' d) : ∃ c, Call.Through view (PluginHttpModule.through view) c d ∧ Decides calls c := by
  obtain ⟨pre, post, rfl, hkind, hothers⟩ := h.alone
  obtain ⟨pre', c, post', rfl, hc, hrest⟩ := forall₂_split hcalls
  refine ⟨c, hc, hc.picksUpstream_iff.mp h.picks, pre', post', rfl, hc.kind ▸ hkind, ?_⟩
  intro e he hekind hpicks
  obtain ⟨e', he', hthrough⟩ := forall₂_exists_of_mem hrest he
  exact hothers e' he' (hthrough.kind.trans hekind) (hthrough.picksUpstream_iff.mpr hpicks)

/-- **What is sent to the peer** in a request's one attempt, in every run: the request header as the client
sent it, but for the URI and the `Host` of the one route that was decided on. -/
theorem served_forwards {ι : Type} [DecidableEq ι] {env : HttpEnv} {hooks : PluginProxyHooks W}
    {requests : ι → Arrival} {w : W} {schedule : List ι} {i : ι} {served : Served W}
    (h : ((requestPool env hooks requests w).after schedule).tasks i = .done served)
    {peer : HttpPeer} {header : RequestHeader} (hsent : served.forwarded = some (peer, header)) :
    ∃ c, Decides served.flow.calls c ∧
      Forwards env (requests i).session.reqHeader c.left.route peer header := by
  have hend := Task.runOn_replay w (feed_worldsFound h)
  obtain ⟨hforwarded, hshows⟩ := serveTask_runOn (.replay w) env hooks (requests i).exchange
    (requests i).session (worldsFound env hooks requests w schedule i)
  rw [hend] at hforwarded hshows
  rw [hsent] at hforwarded
  obtain ⟨d, hdecides, hforwards⟩ := serveRequest_forwards hforwarded
  obtain ⟨c, hthrough, hdecides'⟩ := hdecides.through hshows.calls
  refine ⟨c, hdecides', ?_⟩
  rw [← hthrough.left]
  exact hforwards

theorem plain_forwards : ∃ served peer header c,
    (Plain.pool.after [true, false]).tasks false = .done served ∧
      served.forwarded = some (peer, header) ∧ Decides served.flow.calls c ∧
      Forwards Plain.env Plain.session.reqHeader c.left.route peer header := by
  have hexists : ∃ served peer header, (Plain.pool.after [true, false]).tasks false = .done served ∧
      served.forwarded = some (peer, header) := ⟨_, _, _, rfl, rfl⟩
  obtain ⟨served, peer, header, hserved, hsent⟩ := hexists
  obtain ⟨c, hc⟩ := served_forwards hserved hsent
  exact ⟨served, peer, header, c, hserved, hsent, hc⟩

end Vakil
