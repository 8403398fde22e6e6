import Vakil.Runtime.Proofs.RequestProofs

/-!
# Proofs: first-match routing

`routeCalls` is what a chain of routing callbacks would do if it were run to its end. `upstream_peer`
runs it up to the first call that ends routing (`Call.EndsRouting`), and that call decides: by an
upstream, if the route says where to send the request and under which path, or by a `Drop`, if the
context still has transport metadata.
-/

namespace Vakil

open ForLoop

variable {W : Type}

/-- The calls of a chain of routing callbacks that is run to its end, threading the context and the
plugins' state. -/
def routeCalls : List (PluginHttpModule W) → HttpContext → W → List (HttpCall W)
  | [], _, _ => []
  | m :: ms, ctx, w =>
    match m.onRoute with
    | none => routeCalls ms ctx w
    | some cb =>
      let (result, ctx', w') := cb m.inst ctx w
      ⟨⟨.upstreamPeer, .onRoute⟩, m, ctx, result, ctx', w'⟩ :: routeCalls ms ctx' w'

/-- The calls of `routeCalls` in the state `s`. -/
def HttpState.routeCalls (s : HttpState W) (hooks : PluginProxyHooks W) : List (HttpCall W) :=
  Vakil.routeCalls hooks.httpModules s.ctx s.world

namespace Call

/-- The upstream in the route that a call left. -/
def upstream (c : HttpCall W) : Option SocketAddress := c.left.route.bind (·.upstreamToSet)

/-- The URI of the path in the route that a call left. -/
def uri (env : HttpEnv) (c : HttpCall W) : Option Uri :=
  (c.left.route.bind (·.httpPath)).bind env.uriOfPathAndQuery

/-- The routing loop is left at this call. -/
def EndsRouting (c : HttpCall W) : Prop :=
  c.PicksUpstream ∨ c.Drops ∧ c.left.transport.isSome

instance (c : HttpCall W) : Decidable c.EndsRouting := by unfold EndsRouting; infer_instance

theorem PicksUpstream.not_drops {c : HttpCall W} (h : c.PicksUpstream) : ¬ c.Drops := by
  intro hdrop
  have := h.1.symm.trans hdrop
  cases this

theorem PicksUpstream.upstream {c : HttpCall W} (h : c.PicksUpstream) :
    ∃ u, c.upstream = some u :=
  Option.isSome_iff_exists.mp h.2

end Call

/-- The peer for an upstream: TLS exactly for port 443, the host as SNI. -/
def HttpPeer.ofUpstream (u : SocketAddress) : HttpPeer := ⟨u.host, u.port, u.port = 443, u.host⟩

/-! ## One round -/

section Round

variable {env : HttpEnv} {m : PluginHttpModule W} {cb : HttpHookFn W} {s : HttpState W}

/-- A call that does not end routing is followed by the next round. -/
theorem routeRound_goes_on (h : m.onRoute = some cb)
    (hend : ¬ (s.callOf ⟨.upstreamPeer, .onRoute⟩ m cb).EndsRouting) :
    routeRound env m s = .next (s.invoke ⟨.upstreamPeer, .onRoute⟩ m cb).2 := by
  simp only [routeRound, h]
  cases hroute : (s.invoke ⟨.upstreamPeer, .onRoute⟩ m cb).2.ctx.route with
  | none => rfl
  | some route =>
    have htransport : (s.callOf ⟨.upstreamPeer, .onRoute⟩ m cb).left.transport.isSome := by
      obtain ⟨transport, ht, -⟩ := Option.map_eq_some_iff.mp hroute
      exact Option.isSome_iff_exists.mpr ⟨transport, ht⟩
    dsimp only
    cases hact : (HookResult.outcome (s.invoke ⟨.upstreamPeer, .onRoute⟩ m cb).1).action with
    | «continue» => rfl
    | drop => exact absurd (.inr ⟨hact, htransport⟩) hend
    | replace =>
      cases hup : route.upstreamToSet with
      | none => rfl
      | some u =>
        have hpick : (s.callOf ⟨.upstreamPeer, .onRoute⟩ m cb).PicksUpstream := by
          refine ⟨hact, ?_⟩
          rw [HttpState.callOf_left, ← HttpState.invoke_ctx s ⟨.upstreamPeer, .onRoute⟩ m cb, hroute,
            Option.bind_some, hup]
          rfl
        exact absurd (.inl hpick) hend

theorem routeRound_drops (h : m.onRoute = some cb)
    (hdrop : (s.callOf ⟨.upstreamPeer, .onRoute⟩ m cb).Drops)
    (htransport : (s.callOf ⟨.upstreamPeer, .onRoute⟩ m cb).left.transport.isSome) :
    routeRound env m s = .stop (.err (.httpStatus 503 "plugin rejected request".toList))
      (s.invoke ⟨.upstreamPeer, .onRoute⟩ m cb).2 := by
  obtain ⟨transport, ht⟩ := Option.isSome_iff_exists.mp htransport
  have hroute : (s.invoke ⟨.upstreamPeer, .onRoute⟩ m cb).2.ctx.route = some transport.route := by
    rw [HttpContext.route, HttpState.invoke_ctx, ← HttpState.callOf_left s ⟨.upstreamPeer, .onRoute⟩,
      ht, Option.map_some]
  have hact : (HookResult.outcome (s.invoke ⟨.upstreamPeer, .onRoute⟩ m cb).1).action = .drop :=
    hdrop
  simp only [routeRound, h, hroute, hact]

/-- The route that a call which picks an upstream left. -/
theorem Call.PicksUpstream.route {c : HttpCall W} (h : c.PicksUpstream) :
    ∃ route u, c.left.route = some route ∧ route.upstreamToSet = some u ∧ c.upstream = some u := by
  obtain ⟨u, hu⟩ := h.upstream
  obtain ⟨route, hroute, hup⟩ := Option.bind_eq_some_iff.mp hu
  exact ⟨route, u, hroute, hup, hu⟩

/-- Without a path, or with one that is no URI path, an `unwrap` fails. -/
theorem routeRound_no_uri (h : m.onRoute = some cb)
    (hpick : (s.callOf ⟨.upstreamPeer, .onRoute⟩ m cb).PicksUpstream)
    (huri : (s.callOf ⟨.upstreamPeer, .onRoute⟩ m cb).uri env = none) :
    routeRound env m s = .stop .panic (s.invoke ⟨.upstreamPeer, .onRoute⟩ m cb).2 := by
  obtain ⟨route, u, hroute, hup, -⟩ := hpick.route
  have hroute' : (s.invoke ⟨.upstreamPeer, .onRoute⟩ m cb).2.ctx.route = some route := hroute
  have hact : (HookResult.outcome (s.invoke ⟨.upstreamPeer, .onRoute⟩ m cb).1).action = .replace :=
    hpick.1
  simp only [routeRound, h, hroute', hact, hup]
  rw [Call.uri, hroute, Option.bind_some] at huri
  cases hpath : route.httpPath with
  | none => rfl
  | some path =>
    rw [hpath, Option.bind_some] at huri
    simp only [huri]

/-- With one, the loop ends with the peer. -/
theorem routeRound_picks (h : m.onRoute = some cb)
    (hpick : (s.callOf ⟨.upstreamPeer, .onRoute⟩ m cb).PicksUpstream) {u : SocketAddress} {uri : Uri}
    (hup : (s.callOf ⟨.upstreamPeer, .onRoute⟩ m cb).upstream = some u)
    (huri : (s.callOf ⟨.upstreamPeer, .onRoute⟩ m cb).uri env = some uri)
    (hresolves : env.resolves u.host u.port) :
    routeRound env m s = .stop (.ok (.ofUpstream u))
      { (s.invoke ⟨.upstreamPeer, .onRoute⟩ m cb).2 with session := s.session.setUri uri } := by
  obtain ⟨route, u', hroute, hup', hu'⟩ := hpick.route
  obtain rfl : u = u' := Option.some.inj (hup.symm.trans hu')
  have hroute' : (s.invoke ⟨.upstreamPeer, .onRoute⟩ m cb).2.ctx.route = some route := hroute
  have hact : (HookResult.outcome (s.invoke ⟨.upstreamPeer, .onRoute⟩ m cb).1).action = .replace :=
    hpick.1
  rw [Call.uri, hroute, Option.bind_some] at huri
  obtain ⟨path, hpath, hpathUri⟩ := Option.bind_eq_some_iff.mp huri
  have hpeer : HttpPeer.new env u.host u.port (isPortHttps u.port) u.host = some (.ofUpstream u) :=
    if_pos hresolves
  simp only [routeRound, h, hroute', hact, hup', hpath, hpathUri, hpeer]
  rfl

/-- A call that ends routing ends the loop, with whatever result. -/
theorem routeRound_ends (h : m.onRoute = some cb)
    (hend : (s.callOf ⟨.upstreamPeer, .onRoute⟩ m cb).EndsRouting) :
    ∃ result t, routeRound env m s = .stop result t := by
  rcases hend with hpick | ⟨hdrop, htransport⟩
  · rcases routeRound_cases env m s with ⟨hnone, -⟩ | ⟨cb', c, t, hcb', hc, -, -, hround⟩
    · rw [h] at hnone
      cases hnone
    · obtain rfl : cb = cb' := Option.some.inj (h.symm.trans hcb')
      rcases hround with ⟨hno, -⟩ | ⟨-, -, -, hstop | ⟨peer, hstop⟩⟩
      · rw [hc] at hno
        exact absurd hpick hno
      · exact ⟨_, _, hstop⟩
      · exact ⟨_, _, hstop⟩
  · exact ⟨_, _, routeRound_drops h hdrop htransport⟩

end Round

/-! ## The loop -/

/-- The call that a module makes in a state, if it has the callback. -/
def routeTurn (m : PluginHttpModule W) (s : HttpState W) : Option (HttpCall W) :=
  m.onRoute.map (s.callOf ⟨.upstreamPeer, .onRoute⟩ m)

/-- How a module leaves a state if the loop goes on. -/
def routeAfter (m : PluginHttpModule W) (s : HttpState W) : HttpState W :=
  s.invokeIgnored ⟨.upstreamPeer, .onRoute⟩ m m.onRoute

theorem routeTurn_eq_some {m : PluginHttpModule W} {s : HttpState W} {c : HttpCall W}
    (h : routeTurn m s = some c) :
    ∃ cb, m.onRoute = some cb ∧ s.callOf ⟨.upstreamPeer, .onRoute⟩ m cb = c :=
  Option.map_eq_some_iff.mp h

theorem routeCalls_eq_trace (ms : List (PluginHttpModule W)) (s : HttpState W) :
    routeCalls ms s.ctx s.world = trace routeTurn routeAfter ms s := by
  induction ms generalizing s with
  | nil => rfl
  | cons m ms ih =>
    rw [trace, ← ih (routeAfter m s)]
    unfold routeTurn routeAfter
    cases hcb : m.onRoute with
    | none => simp only [routeCalls, hcb]; rfl
    | some cb => simp only [routeCalls, hcb]; rfl

/-- The loop is left at the first call that ends routing, and until then the session is as it was. -/
theorem routeLoop_traced (env : HttpEnv) (s : HttpState W) :
    Traced (routeRound env) routeTurn routeAfter Call.EndsRouting
      (fun l t => t.session = s.session ∧ t.calls = s.calls ++ l) where
  goes_on m t h := by
    unfold routeAfter
    cases hcb : m.onRoute with
    | none => exact routeRound_none env hcb t
    | some cb => exact routeRound_goes_on hcb (h _ (by rw [routeTurn, hcb, Option.map_some]))
  ends m t c hturn hend := by
    obtain ⟨cb, hcb, rfl⟩ := routeTurn_eq_some hturn
    exact routeRound_ends hcb hend
  keeps l m t h _ := by
    obtain ⟨hses, hcalls⟩ := h
    refine ⟨(HttpState.invokeIgnored_session _ _ _ _).trans hses, ?_⟩
    rw [routeAfter, HttpState.invokeIgnored_calls, hcalls, List.append_assoc]
    rfl

/-- If no call ends routing, the loop makes all of them and touches nothing else. -/
theorem routeLoop_goes_on (env : HttpEnv) {ms : List (PluginHttpModule W)} {s : HttpState W}
    (hend : ∀ c ∈ routeCalls ms s.ctx s.world, ¬ c.EndsRouting) :
    ∃ t, forEach (routeRound env) ms s = .next t ∧ t.session = s.session ∧
      t.calls = s.calls ++ routeCalls ms s.ctx s.world := by
  rw [routeCalls_eq_trace] at hend ⊢
  exact (routeLoop_traced env s).next ⟨rfl, (List.append_nil _).symm⟩ hend

/-- The loop comes to the first call that ends routing, with the session as it was, and ends there. -/
theorem routeLoop_ends (env : HttpEnv) {ms : List (PluginHttpModule W)} {s : HttpState W}
    {pre post : List (HttpCall W)} {c : HttpCall W}
    (hcalls : routeCalls ms s.ctx s.world = pre ++ c :: post)
    (hpre : ∀ d ∈ pre, ¬ d.EndsRouting) (hc : c.EndsRouting) :
    ∃ m cb s₁, m.onRoute = some cb ∧ c = s₁.callOf ⟨.upstreamPeer, .onRoute⟩ m cb ∧
      s₁.session = s.session ∧ s₁.calls = s.calls ++ pre ∧
      forEach (routeRound env) ms s = routeRound env m s₁ := by
  rw [routeCalls_eq_trace] at hcalls
  obtain ⟨m, s₁, hturn, ⟨hses, hcalls₁⟩, hloop⟩ :=
    (routeLoop_traced env s).first ⟨rfl, (List.append_nil _).symm⟩ hcalls hpre hc
  obtain ⟨cb, hcb, rfl⟩ := routeTurn_eq_some hturn
  exact ⟨m, cb, s₁, hcb, rfl, hses, hcalls₁, hloop⟩

/-! ## `upstream_peer` -/

section UpstreamPeer

variable (env : HttpEnv) {hooks : PluginProxyHooks W} {s : HttpState W}
  {pre post : List (HttpCall W)} {c : HttpCall W}

/-- No call ends routing. -/
theorem upstreamPeer_unrouted (hend : ∀ c ∈ s.routeCalls hooks, ¬ c.EndsRouting) :
    ∃ t, upstreamPeer env hooks s =
        (.err (.httpStatus 500 "no upstream was selected by plugins".toList), t) ∧
      t.session = s.session ∧ t.calls = s.calls ++ s.routeCalls hooks := by
  obtain ⟨t, ht, hses, hcalls⟩ := routeLoop_goes_on env hend
  refine ⟨t, ?_, hses, hcalls⟩
  simp only [upstreamPeer, ht]

/-- The calls up to the first one that ends routing are the ones that are made. -/
theorem upstreamPeer_routeCalls (hcalls : s.routeCalls hooks = pre ++ c :: post)
    (hpre : ∀ d ∈ pre, ¬ d.EndsRouting) (hc : c.EndsRouting) :
    (upstreamPeer env hooks s).2.calls = s.calls ++ (pre ++ [c]) := by
  obtain ⟨m, cb, s₁, hcb, rfl, -, hcalls₁, hloop⟩ := routeLoop_ends env hcalls hpre hc
  rw [upstreamPeer_state, hloop, (routeRound_some env hcb s₁).1, hcalls₁, List.append_assoc]

/-- The first call that ends routing is a `Drop`. -/
theorem upstreamPeer_rejected (hcalls : s.routeCalls hooks = pre ++ c :: post)
    (hpre : ∀ d ∈ pre, ¬ d.EndsRouting) (hdrop : c.Drops) (htransport : c.left.transport.isSome) :
    ∃ t, upstreamPeer env hooks s =
        (.err (.httpStatus 503 "plugin rejected request".toList), t) ∧
      t.session = s.session ∧ t.calls = s.calls ++ (pre ++ [c]) := by
  obtain ⟨m, cb, s₁, hcb, rfl, hses, hcalls₁, hloop⟩ :=
    routeLoop_ends env hcalls hpre (.inr ⟨hdrop, htransport⟩)
  rw [routeRound_drops hcb hdrop htransport] at hloop
  refine ⟨(s₁.invoke ⟨.upstreamPeer, .onRoute⟩ m cb).2, ?_, hses, ?_⟩
  · simp only [upstreamPeer, hloop]
  · rw [HttpState.invoke_calls, hcalls₁, List.append_assoc]

/-- The first call that ends routing picks an upstream but leaves no valid path. -/
theorem upstreamPeer_panics {env : HttpEnv} (hcalls : s.routeCalls hooks = pre ++ c :: post)
    (hpre : ∀ d ∈ pre, ¬ d.EndsRouting) (hpick : c.PicksUpstream) (huri : c.uri env = none) :
    (upstreamPeer env hooks s).1 = .panic := by
  obtain ⟨m, cb, s₁, hcb, rfl, -, -, hloop⟩ := routeLoop_ends env hcalls hpre (.inl hpick)
  rw [routeRound_no_uri hcb hpick huri] at hloop
  simp only [upstreamPeer, hloop]

/-- The first call that ends routing picks an upstream and leaves a valid path. -/
theorem upstreamPeer_picked {env : HttpEnv} (hcalls : s.routeCalls hooks = pre ++ c :: post)
    (hpre : ∀ d ∈ pre, ¬ d.EndsRouting) (hpick : c.PicksUpstream) {u : SocketAddress} {uri : Uri}
    (hup : c.upstream = some u) (huri : c.uri env = some uri)
    (hresolves : env.resolves u.host u.port) :
    ∃ t, upstreamPeer env hooks s = (.ok (.ofUpstream u), t) ∧
      t.session = s.session.setUri uri ∧ t.calls = s.calls ++ (pre ++ [c]) := by
  obtain ⟨m, cb, s₁, hcb, rfl, hses, hcalls₁, hloop⟩ := routeLoop_ends env hcalls hpre (.inl hpick)
  rw [routeRound_picks hcb hpick hup huri hresolves] at hloop
  refine ⟨{ (s₁.invoke ⟨.upstreamPeer, .onRoute⟩ m cb).2 with session := s₁.session.setUri uri },
    ?_, by rw [hses], ?_⟩
  · simp only [upstreamPeer, hloop]
  · rw [← List.append_assoc, ← hcalls₁]
    rfl

end UpstreamPeer

end Vakil
