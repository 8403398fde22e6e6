import Vakil.Runtime.Proofs.RoutingProofs

/-!
# Proofs: what decides the routing of a request

The first call that picks an upstream or drops the request decides, as long as the callbacks keep the
transport metadata and leave a valid path with every upstream. A `Drop` without transport metadata is
passed over, and an upstream without a valid path makes the filter panic.
-/

namespace Vakil

open ForLoop

variable {W : Type}

/-! ## First match -/

/-- The callback left the transport metadata, and a valid path with the upstream it picked, if any. -/
structure Call.LeavesRoute (env : HttpEnv) (c : HttpCall W) : Prop where
  transport : c.left.transport.isSome
  uri : c.PicksUpstream → (c.uri env).isSome

theorem Call.LeavesRoute.endsRouting_iff {env : HttpEnv} {c : HttpCall W} (h : c.LeavesRoute env) :
    c.EndsRouting ↔ c.PicksUpstream ∨ c.Drops := by
  simp [EndsRouting, h.transport]

/-- `upstream_peer` goes by the first call that picks an upstream or drops the request. -/
structure RoutesByFirstMatch (env : HttpEnv) (hooks : PluginProxyHooks W) (s : HttpState W) :
    Prop where
  /-- It returns a peer iff an upstream is picked before any `Drop`, -/
  picked : (∃ peer, (upstreamPeer env hooks s).1 = .ok peer) ↔
    ∃ pre c post, s.routeCalls hooks = pre ++ c :: post ∧ c.PicksUpstream ∧ ∀ d ∈ pre, ¬ d.Drops
  /-- the peer and the URI are those of the first pick, and no later callback is called. -/
  peer : ∀ pre c post, s.routeCalls hooks = pre ++ c :: post → c.PicksUpstream →
    (∀ d ∈ pre, ¬ d.PicksUpstream ∧ ¬ d.Drops) →
    ∃ u uri t, c.upstream = some u ∧ c.uri env = some uri ∧
      upstreamPeer env hooks s = (.ok (.ofUpstream u), t) ∧ t.session = s.session.setUri uri ∧
      t.calls = s.calls ++ (pre ++ [c])
  rejected : (upstreamPeer env hooks s).1 =
      .err (.httpStatus 503 "plugin rejected request".toList) ↔
    ∃ pre c post, s.routeCalls hooks = pre ++ c :: post ∧ c.Drops ∧ ∀ d ∈ pre, ¬ d.PicksUpstream
  unrouted : (upstreamPeer env hooks s).1 =
      .err (.httpStatus 500 "no upstream was selected by plugins".toList) ↔
    ∀ c ∈ s.routeCalls hooks, ¬ c.PicksUpstream ∧ ¬ c.Drops
  untouched : ∀ e, (upstreamPeer env hooks s).1 = .err e →
    (upstreamPeer env hooks s).2.session.reqHeader = s.session.reqHeader

section FirstDecision

variable {calls pre post : List (HttpCall W)} {c : HttpCall W}

/-- Behind a first decision to drop, no upstream is picked before every `Drop`. -/
theorem not_picked_of_drops (hcalls : calls = pre ++ c :: post)
    (hpre : ∀ d ∈ pre, ¬ (d.PicksUpstream ∨ d.Drops)) (hdrop : c.Drops) :
    ¬ ∃ pre' c' post', calls = pre' ++ c' :: post' ∧ c'.PicksUpstream ∧ ∀ d ∈ pre', ¬ d.Drops := by
  rintro ⟨pre', c', post', hcalls', hpick, hno⟩
  rcases first_unique (hcalls.symm.trans hcalls') hpre (.inl hpick) with ⟨-, rfl, -⟩ | hmem
  · exact hpick.not_drops hdrop
  · exact hno c hmem hdrop

/-- Behind a first decision for an upstream, there is no `Drop` before every pick. -/
theorem not_dropped_of_picks (hcalls : calls = pre ++ c :: post)
    (hpre : ∀ d ∈ pre, ¬ (d.PicksUpstream ∨ d.Drops)) (hpick : c.PicksUpstream) :
    ¬ ∃ pre' c' post', calls = pre' ++ c' :: post' ∧ c'.Drops ∧ ∀ d ∈ pre', ¬ d.PicksUpstream := by
  rintro ⟨pre', c', post', hcalls', hdrop, hno⟩
  rcases first_unique (hcalls.symm.trans hcalls') hpre (.inr hdrop) with ⟨-, rfl, -⟩ | hmem
  · exact hpick.not_drops hdrop
  · exact hno c hmem hpick

end FirstDecision

/-- **First-match routing.** The hypotheses are about every call of the chain, run to its end. -/
theorem upstreamPeer_first_match (env : HttpEnv) (hooks : PluginProxyHooks W) (s : HttpState W)
    (hleaves : ∀ c ∈ s.routeCalls hooks, c.LeavesRoute env)
    (hresolves : ∀ host port, env.resolves host port) : RoutesByFirstMatch env hooks s := by
  have hends : ∀ c ∈ s.routeCalls hooks, ¬ (c.PicksUpstream ∨ c.Drops) → ¬ c.EndsRouting :=
    fun c hc hno h => hno ((hleaves c hc).endsRouting_iff.mp h)
  have hpeer : ∀ pre c post, s.routeCalls hooks = pre ++ c :: post → c.PicksUpstream →
      (∀ d ∈ pre, ¬ d.PicksUpstream ∧ ¬ d.Drops) →
      ∃ u uri t, c.upstream = some u ∧ c.uri env = some uri ∧
        upstreamPeer env hooks s = (.ok (.ofUpstream u), t) ∧ t.session = s.session.setUri uri ∧
        t.calls = s.calls ++ (pre ++ [c]) := by
    intro pre c post hcalls hpick hpre
    obtain ⟨u, hu⟩ := hpick.upstream
    obtain ⟨uri, huri⟩ := Option.isSome_iff_exists.mp ((hleaves c (by simp [hcalls])).uri hpick)
    obtain ⟨t, hrun, hses, hcalls'⟩ := upstreamPeer_picked hcalls
      (fun d hd => hends d (by simp [hcalls, hd]) (not_or.mpr (hpre d hd))) hpick hu huri
      (hresolves u.host u.port)
    exact ⟨u, uri, t, hu, huri, hrun, hses, hcalls'⟩
  rcases exists_first (fun c => c.PicksUpstream ∨ c.Drops) (s.routeCalls hooks) with
    hno | ⟨pre, c, post, hcalls, hpre, hpick | hdrop⟩
  · -- no decision
    obtain ⟨t, hrun, hses, -⟩ := upstreamPeer_unrouted env fun c hc => hends c hc (hno c hc)
    refine ⟨?_, hpeer, ?_, ?_, ?_⟩ <;> rw [hrun]
    · refine iff_of_false (by simp) ?_
      rintro ⟨pre, c, post, hcalls, hpick, -⟩
      exact hno c (by simp [hcalls]) (.inl hpick)
    · refine iff_of_false (by simp) ?_
      rintro ⟨pre, c, post, hcalls, hdrop, -⟩
      exact hno c (by simp [hcalls]) (.inr hdrop)
    · exact iff_of_true rfl fun c hc => not_or.mp (hno c hc)
    · intro e _
      rw [hses]
  · -- the first decision is for an upstream
    obtain ⟨u, uri, t, -, -, hrun, -⟩ := hpeer pre c post hcalls hpick
      fun d hd => not_or.mp (hpre d hd)
    refine ⟨?_, hpeer, ?_, ?_, ?_⟩ <;> rw [hrun]
    · exact iff_of_true ⟨_, rfl⟩
        ⟨pre, c, post, hcalls, hpick, fun d hd => (not_or.mp (hpre d hd)).2⟩
    · exact iff_of_false (by simp) (not_dropped_of_picks hcalls hpre hpick)
    · exact iff_of_false (by simp) fun h => (h c (by simp [hcalls])).1 hpick
    · intro e he
      cases he
  · -- the first decision is to drop
    obtain ⟨t, hrun, hses, -⟩ := upstreamPeer_rejected env hcalls
      (fun d hd => hends d (by simp [hcalls, hd]) (hpre d hd)) hdrop
      (hleaves c (by simp [hcalls])).transport
    refine ⟨?_, hpeer, ?_, ?_, ?_⟩ <;> rw [hrun]
    · exact iff_of_false (by simp) (not_picked_of_drops hcalls hpre hdrop)
    · exact iff_of_true rfl
        ⟨pre, c, post, hcalls, hdrop, fun d hd => (not_or.mp (hpre d hd)).1⟩
    · exact iff_of_false (by simp) fun h => (h c (by simp [hcalls])).2 hdrop
    · intro e _
      rw [hses]

/-- A module that does nothing in `on_route`, and one that picks an upstream. -/
def routerSecond : PluginProxyHooks Unit where
  httpModules :=
    [{ PluginHttpModule.default with onRoute := some fun _ ctx w => (.ok {}, ctx, w) }, Plain.router]
  tcpModules := []
  udpModules := []

/-- The request goes to the upstream of the second module. -/
theorem routerSecond_first_match : ∃ peer,
    (upstreamPeer Plain.env routerSecond Plain.start).1 = .ok peer := by
  have hleaves : ∀ c ∈ Plain.start.routeCalls routerSecond, c.LeavesRoute Plain.env := by
    intro c hc
    rcases List.mem_cons.mp hc with rfl | hc
    · exact ⟨rfl, fun h => absurd h.1 (by decide)⟩
    · rw [List.mem_singleton.mp hc]
      exact ⟨rfl, fun _ => rfl⟩
  refine (upstreamPeer_first_match Plain.env routerSecond Plain.start hleaves fun _ _ => rfl).picked.mpr
    ⟨[_], _, [], rfl, ⟨rfl, rfl⟩, ?_⟩
  intro d hd
  rw [List.mem_singleton.mp hd]
  decide

/-! ## Rejections -/

/-- **A routing `Drop` is final** exactly if the callback leaves the transport metadata: otherwise the
loop takes the module for one that made no decision. -/
theorem routingDrop_final_iff (env : HttpEnv) (hooks : PluginProxyHooks W) (s : HttpState W)
    {pre post : List (HttpCall W)} {c : HttpCall W}
    (hreached : (upstreamPeer env hooks s).2.calls = s.calls ++ (pre ++ c :: post))
    (hdrop : c.Drops) :
    ((upstreamPeer env hooks s).1 = .err (.httpStatus 503 "plugin rejected request".toList) ∧
      post = []) ↔ c.left.transport.isSome := by
  have hends : ¬ c.EndsRouting → ¬ c.left.transport.isSome := fun hno h => hno (.inr ⟨hdrop, h⟩)
  rcases exists_first Call.EndsRouting (s.routeCalls hooks) with
    hno | ⟨pre₁, c₁, post₁, hcalls, hpre, hc₁⟩
  · obtain ⟨t, hrun, -, hcalls⟩ := upstreamPeer_unrouted env hno
    rw [hrun, hcalls] at hreached
    have hmem : c ∈ s.routeCalls hooks := by
      rw [List.append_cancel_left hreached]
      simp
    rw [hrun]
    exact iff_of_false (by simp) (hends (hno c hmem))
  · have hmade := upstreamPeer_routeCalls env hcalls hpre hc₁
    rw [hreached] at hmade
    have hsplit := List.append_cancel_left hmade
    rcases List.eq_nil_or_concat post with rfl | ⟨post', d, rfl⟩
    · -- the last call that was made
      obtain ⟨rfl, hlast⟩ := List.append_inj' hsplit rfl
      obtain rfl : c = c₁ := List.singleton_inj.mp hlast
      have htransport : c.left.transport.isSome :=
        hc₁.elim (fun hpick => absurd hdrop hpick.not_drops) And.right
      obtain ⟨t, hrun, -⟩ := upstreamPeer_rejected env hcalls hpre hdrop htransport
      rw [hrun]
      exact iff_of_true ⟨rfl, rfl⟩ htransport
    · -- an earlier one
      rw [List.concat_eq_append, ← List.cons_append, ← List.append_assoc] at hsplit
      have hmem : c ∈ pre₁ := by
        rw [← (List.append_inj' hsplit rfl).1]
        simp
      exact iff_of_false (fun h => by simpa using h.2) (hends (hpre c hmem))

/-- A module that takes the transport metadata out of the context and drops the request. -/
def clearingDropper : PluginHttpModule Unit :=
  { PluginHttpModule.default with
    onRoute := some fun _ ctx w => (.ok ⟨.drop⟩, { ctx with transport := none }, w) }

/-- A module that puts transport metadata of its own into the context, with its upstream. -/
def restoringRouter : PluginHttpModule Unit :=
  { PluginHttpModule.default with
    onRoute := some fun _ ctx w =>
      (.ok ⟨.replace⟩, { ctx with transport := some ⟨⟨⟨3⟩, Plain.upstream, none, .tcp⟩, none,
        Plain.route⟩ }, w) }

/-- A module that drops every request. -/
def dropper : PluginHttpModule Unit :=
  { PluginHttpModule.default with onRoute := some fun _ ctx w => (.ok ⟨.drop⟩, ctx, w) }

/-- Behind a `Drop` the router is not asked. -/
theorem dropper_final :
    (upstreamPeer Plain.env ⟨[dropper, Plain.router], [], []⟩ Plain.start).1 =
      .err (.httpStatus 503 "plugin rejected request".toList) :=
  ((@routingDrop_final_iff Unit Plain.env ⟨[dropper, Plain.router], [], []⟩ Plain.start [] [] _
    rfl rfl).mpr rfl).1

/-- Without the transport metadata the `Drop` is passed over, and the next module routes the
request. -/
theorem clearingDropper_routed :
    ∃ c post peer, (upstreamPeer Plain.env ⟨[clearingDropper, restoringRouter], [], []⟩
        Plain.start).2.calls = Plain.start.calls ++ ([] ++ c :: post) ∧ c.Drops ∧
      (upstreamPeer Plain.env ⟨[clearingDropper, restoringRouter], [], []⟩ Plain.start).1 =
        .ok peer :=
  ⟨_, _, _, rfl, rfl, rfl⟩

/-! ## Panics -/

/-- The routing loop ends at the call `c`. -/
def RoutingEndsAt (hooks : PluginProxyHooks W) (s : HttpState W) (c : HttpCall W) : Prop :=
  ∃ pre post, s.routeCalls hooks = pre ++ c :: post ∧ (∀ d ∈ pre, ¬ d.EndsRouting) ∧ c.EndsRouting

/-- Whatever route the deciding callback leaves, `upstream_peer` returns: with the peer and the
request's own URI if there is no path, with an error if the path is no URI path. -/
structure RoutesSafely (env : HttpEnv) (hooks : PluginProxyHooks W) (s : HttpState W) : Prop where
  returns : (upstreamPeer env hooks s).1 ≠ .panic
  withoutPath : ∀ c u, RoutingEndsAt hooks s c → c.PicksUpstream → c.upstream = some u →
    c.left.route.bind (·.httpPath) = none →
    (upstreamPeer env hooks s).1 = .ok (.ofUpstream u) ∧
      (upstreamPeer env hooks s).2.session = s.session
  withBadPath : ∀ c path, RoutingEndsAt hooks s c → c.PicksUpstream →
    c.left.route.bind (·.httpPath) = some path → env.uriOfPathAndQuery path = none →
    ∃ e, (upstreamPeer env hooks s).1 = .err e

/-- **Routing never panics** exactly if no upstream is picked without a valid path. -/
theorem routesSafely_iff (env : HttpEnv) (hooks : PluginProxyHooks W) (s : HttpState W)
    (hresolves : ∀ host port, env.resolves host port) : RoutesSafely env hooks s ↔
      ∀ c, RoutingEndsAt hooks s c → c.PicksUpstream → (c.uri env).isSome := by
  constructor
  · rintro h c ⟨pre, post, hcalls, hpre, -⟩ hpick
    by_contra hno
    exact h.returns (upstreamPeer_panics hcalls hpre hpick (Option.not_isSome_iff_eq_none.mp hno))
  · intro h
    refine ⟨?_, ?_, ?_⟩
    · rcases exists_first Call.EndsRouting (s.routeCalls hooks) with
        hno | ⟨pre, c, post, hcalls, hpre, hpick | ⟨hdrop, htransport⟩⟩
      · obtain ⟨t, hrun, -⟩ := upstreamPeer_unrouted env hno
        rw [hrun]
        nofun
      · obtain ⟨u, hu⟩ := hpick.upstream
        obtain ⟨uri, huri⟩ := Option.isSome_iff_exists.mp
          (h c ⟨pre, post, hcalls, hpre, .inl hpick⟩ hpick)
        obtain ⟨t, hrun, -⟩ := upstreamPeer_picked hcalls hpre hpick hu huri
          (hresolves u.host u.port)
        rw [hrun]
        nofun
      · obtain ⟨t, hrun, -⟩ := upstreamPeer_rejected env hcalls hpre hdrop
          htransport
        rw [hrun]
        nofun
    · intro c u hend hpick _ hpath
      have hsome := h c hend hpick
      rw [Call.uri, hpath] at hsome
      cases hsome
    · intro c path hend hpick hpath hbad
      have hsome := h c hend hpick
      rw [Call.uri, hpath, Option.bind_some, hbad] at hsome
      cases hsome

/-- The router of a plain request leaves a valid path. -/
theorem router_routesSafely : RoutesSafely Plain.env ⟨[Plain.router], [], []⟩ Plain.start := by
  refine (routesSafely_iff Plain.env ⟨[Plain.router], [], []⟩ Plain.start fun _ _ => rfl).mpr ?_
  rintro c ⟨pre, post, hcalls, -⟩ -
  have hmem : c ∈ Plain.start.routeCalls ⟨[Plain.router], [], []⟩ := by simp [hcalls]
  rw [List.mem_singleton.mp hmem]
  rfl

/-- A module that picks an upstream and leaves the path to the request. -/
def pathlessRouter : PluginHttpModule Unit :=
  { PluginHttpModule.default with
    onRoute := some fun _ ctx w =>
      (.ok ⟨.replace⟩, { ctx with transport := ctx.transport.map ({ · with
        route := { upstreamToSet := some Plain.upstream } }) }, w) }

/-- With it, `upstream_peer` panics. -/
theorem pathlessRouter_panics :
    ¬ RoutesSafely Plain.env ⟨[pathlessRouter], [], []⟩ Plain.start :=
  fun h => h.returns rfl

end Vakil
