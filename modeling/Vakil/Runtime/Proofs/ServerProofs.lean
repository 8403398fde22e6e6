import Vakil.Runtime.Server

/-!
# Proofs: a request among others

The task of a request, run alone, is the request (`serveTask_run`). Run on a larger state, of which the
plugins see a part through a `View`, it is the request with the plugins' callbacks put behind that view;
for the view that replays a list of worlds this says what a request does that is served among others.
-/

namespace Vakil

open ForLoop Tasks

variable {V W : Type}

/-! ## Plugins behind a view -/

section Through

variable (view : View V W)

def HookFn.through {C : Type} (cb : HookFn C W) : HookFn C V := fun inst ctx v =>
  let (result, ctx, w) := cb inst ctx (view.get v)
  (result, ctx, view.put v w)

def PluginHttpModule.through (m : PluginHttpModule W) : PluginHttpModule V where
  inst := m.inst
  priority := m.priority
  init inst ctx := view.lift (m.init inst ctx)
  shutdown inst := view.lift (m.shutdown inst)
  onRoute := m.onRoute.map (HookFn.through view)
  onRequestHeaders := m.onRequestHeaders.map (HookFn.through view)
  onRequestBody := m.onRequestBody.map (HookFn.through view)
  onResponseHeaders := m.onResponseHeaders.map (HookFn.through view)
  onResponseBody := m.onResponseBody.map (HookFn.through view)
  onTrailers := m.onTrailers.map (HookFn.through view)
  onLocalReply := m.onLocalReply.map (HookFn.through view)

def PluginTcpModule.through (m : PluginTcpModule W) : PluginTcpModule V where
  inst := m.inst
  priority := m.priority
  init inst ctx := view.lift (m.init inst ctx)
  shutdown inst := view.lift (m.shutdown inst)
  onRoute := m.onRoute.map (HookFn.through view)
  onConnect := m.onConnect.map (HookFn.through view)
  onData := m.onData.map (HookFn.through view)
  onHalfClose := m.onHalfClose.map (HookFn.through view)
  onClose := m.onClose.map (HookFn.through view)

def PluginUdpModule.through (m : PluginUdpModule W) : PluginUdpModule V where
  inst := m.inst
  priority := m.priority
  init inst ctx := view.lift (m.init inst ctx)
  shutdown inst := view.lift (m.shutdown inst)
  onRoute := m.onRoute.map (HookFn.through view)
  onDatagram := m.onDatagram.map (HookFn.through view)
  onSessionStart := m.onSessionStart.map (HookFn.through view)
  onSessionEnd := m.onSessionEnd.map (HookFn.through view)

/-- The chains behind a view. -/
def PluginProxyHooks.through (hooks : PluginProxyHooks W) : PluginProxyHooks V where
  httpModules := hooks.httpModules.map (·.through view)
  tcpModules := hooks.tcpModules.map (·.through view)
  udpModules := hooks.udpModules.map (·.through view)

/-- The same call, seen behind the view, of a module that is `lift`ed there. -/
structure Call.Through {κ μ μ' C : Type} (lift : μ → μ') (c : Call κ μ C W) (d : Call κ μ' C V) :
    Prop where
  kind : d.kind = c.kind
  module : d.module = lift c.module
  seen : d.seen = c.seen
  result : d.result = c.result
  left : d.left = c.left
  worldLeft : ∃ v, d.worldLeft = view.put v c.worldLeft

/-- The flow in the state `v` is the request's state `s`. -/
structure Flow.Shows (v : V) (f : Flow W) (s : HttpState V) : Prop where
  session : s.session = f.session
  ctx : s.ctx = f.ctx
  world : s.world = v
  calls : List.Forall₂ (Call.Through view (PluginHttpModule.through view)) f.calls s.calls

end Through

namespace Flow.Shows

section Filters

variable {view : View V W} {v : V} {f : Flow W} {s : HttpState V}

/-- The two sides agree after a call. -/
theorem invoke (h : Shows view v f s) (site : HttpSite) (m : PluginHttpModule W)
    (cb : HttpHookFn W) :
    (s.invoke site (m.through view) (HookFn.through view cb)).1 =
        ((f.invoke site m cb).runOn view v).1.1 ∧
      Shows view ((f.invoke site m cb).runOn view v).2 ((f.invoke site m cb).runOn view v).1.2
        (s.invoke site (m.through view) (HookFn.through view cb)).2 := by
  have hseen : (s.callOf site (m.through view) (HookFn.through view cb)).seen = f.ctx := h.ctx
  have hworld : s.world = v := h.world
  have hcall : HookFn.through view cb m.inst s.ctx s.world =
      ((cb m.inst f.ctx (view.get v)).1, (cb m.inst f.ctx (view.get v)).2.1,
        view.put v (cb m.inst f.ctx (view.get v)).2.2) := by
    rw [h.ctx, hworld]
    rfl
  have hresult : (s.invoke site (m.through view) (HookFn.through view cb)).1 =
      (cb m.inst f.ctx (view.get v)).1 := congrArg (·.1) hcall
  have hctx : (s.invoke site (m.through view) (HookFn.through view cb)).2.ctx =
      (cb m.inst f.ctx (view.get v)).2.1 := congrArg (·.2.1) hcall
  have hleft : (s.invoke site (m.through view) (HookFn.through view cb)).2.world =
      view.put v (cb m.inst f.ctx (view.get v)).2.2 := congrArg (·.2.2) hcall
  refine ⟨hresult, ?_⟩
  refine ⟨h.session, hctx, hleft, ?_⟩
  rw [HttpState.invoke_calls]
  refine List.rel_append h.calls (.cons ?_ .nil)
  exact ⟨rfl, rfl, hseen, hresult, hctx, v, hleft⟩

theorem invokeIgnored (h : Shows view v f s) (site : HttpSite) (m : PluginHttpModule W)
    (cb : Option (HttpHookFn W)) :
    Shows view ((f.invokeIgnored site m cb).runOn view v).2
      ((f.invokeIgnored site m cb).runOn view v).1
      (s.invokeIgnored site (m.through view) (cb.map (HookFn.through view))) := by
  cases cb with
  | none => exact h
  | some cb =>
    rw [Flow.invokeIgnored, Task.runOn_bind]
    exact (h.invoke site m cb).2

/-- The session was changed on both sides. -/
theorem withSession (h : Shows view v f s) (session : Session) :
    Shows view v { f with session } { s with session } :=
  ⟨rfl, h.ctx, h.world, h.calls⟩

theorem withCtx (h : Shows view v f s) (ctx : HttpContext) :
    Shows view v { f with ctx } { s with ctx } :=
  ⟨h.session, rfl, h.world, h.calls⟩

theorem routeRound (h : Shows view v f s) (env : HttpEnv) (m : PluginHttpModule W) :
    Step.Rel (Shows view ((f.routeRound env m).runOn view v).2)
      ((f.routeRound env m).runOn view v).1 (Vakil.routeRound env (m.through view) s) := by
  cases hcb : m.onRoute with
  | none =>
    have hnone : (m.through view).onRoute = none := by simp [PluginHttpModule.through, hcb]
    simp only [Vakil.routeRound, Flow.routeRound, hcb, hnone]
    exact .next h
  | some cb =>
    have hsome : (m.through view).onRoute = some (HookFn.through view cb) := by
      simp [PluginHttpModule.through, hcb]
    obtain ⟨hresult, hshows⟩ := h.invoke ⟨.upstreamPeer, .onRoute⟩ m cb
    simp only [Vakil.routeRound, Flow.routeRound, hcb, hsome, Task.runOn_bind, hresult]
    generalize (f.invoke ⟨.upstreamPeer, .onRoute⟩ m cb).runOn view v = out at hshows ⊢
    obtain ⟨⟨result, f'⟩, v'⟩ := out
    generalize (s.invoke ⟨.upstreamPeer, .onRoute⟩ (m.through view) (HookFn.through view cb)).2 = s'
      at hshows ⊢
    dsimp only at hshows ⊢
    rw [hshows.ctx]
    cases f'.ctx.route with
    | none => exact .next hshows
    | some route =>
      cases hact : (HookResult.outcome result).action with
      | «continue» => exact .next hshows
      | drop => exact .stop _ hshows
      | replace =>
        dsimp only
        cases route.upstreamToSet with
        | none => exact .next hshows
        | some upstream =>
          dsimp only
          cases route.httpPath with
          | none => exact .stop _ hshows
          | some path =>
            dsimp only
            cases env.uriOfPathAndQuery path with
            | none => exact .stop _ hshows
            | some newUri =>
              have hset := hshows.withSession (f'.session.setUri newUri)
              rw [hshows.ctx] at hset
              dsimp only
              rw [hshows.session]
              cases HttpPeer.new env upstream.host upstream.port (isPortHttps upstream.port)
                upstream.host with
              | none => exact .stop _ hset
              | some peer => exact .stop _ hset

theorem upstreamPeer (h : Shows view v f s) (env : HttpEnv) (hooks : PluginProxyHooks W) :
    (Vakil.upstreamPeer env (hooks.through view) s).1 =
        ((f.upstreamPeer env hooks).runOn view v).1.1 ∧
      Shows view ((f.upstreamPeer env hooks).runOn view v).2
        ((f.upstreamPeer env hooks).runOn view v).1.2
        (Vakil.upstreamPeer env (hooks.through view) s).2 := by
  have hloop := Task.runOn_forEach view (R := Shows view)
    (fun m _ _ _ h => h.routeRound env m) hooks.httpModules h
  unfold Vakil.upstreamPeer Flow.upstreamPeer
  rw [Task.runOn_bind]
  rcases hloop.elim with ⟨f', s', hf, hs, h'⟩ | ⟨r, f', s', hf, hs, h'⟩
  · rw [hf]
    simp only [PluginProxyHooks.through, hs]
    exact ⟨rfl, h'⟩
  · rw [hf]
    simp only [PluginProxyHooks.through, hs]
    exact ⟨rfl, h'⟩

theorem answerRound (h : Shows view v f s) (filter : HttpFilter) (m : PluginHttpModule W) :
    Step.Rel (Shows view ((f.answerRound filter m).runOn view v).2)
      ((f.answerRound filter m).runOn view v).1
      (Vakil.answerRound filter (m.through view) s) := by
  cases hcb : m.onRequestHeaders with
  | none =>
    have hnone : (m.through view).onRequestHeaders = none := by
      simp [PluginHttpModule.through, hcb]
    simp only [Vakil.answerRound, Flow.answerRound, hcb, hnone]
    exact .next h
  | some cb =>
    have hsome : (m.through view).onRequestHeaders = some (HookFn.through view cb) := by
      simp [PluginHttpModule.through, hcb]
    obtain ⟨hresult, hshows⟩ := h.invoke ⟨filter, .onRequestHeaders⟩ m cb
    simp only [Vakil.answerRound, Flow.answerRound, hcb, hsome, Task.runOn_bind, hresult]
    generalize (f.invoke ⟨filter, .onRequestHeaders⟩ m cb).runOn view v = out at hshows ⊢
    obtain ⟨⟨result, f'⟩, v'⟩ := out
    generalize (s.invoke ⟨filter, .onRequestHeaders⟩ (m.through view)
      (HookFn.through view cb)).2 = s' at hshows ⊢
    dsimp only at hshows ⊢
    rw [hshows.ctx]
    split_ifs with hdue
    · have hreply := hshows.invokeIgnored ⟨filter, .onLocalReply⟩ m m.onLocalReply
      have hcallback : (m.through view).onLocalReply = m.onLocalReply.map (HookFn.through view) :=
        rfl
      rw [hcallback, Task.runOn_bind, hreply.ctx]
      generalize (f'.invokeIgnored ⟨filter, .onLocalReply⟩ m m.onLocalReply).runOn view v' = out
        at hreply ⊢
      cases out.1.ctx.response with
      | none => exact .next hreply
      | some response => exact .stop _ hreply
    · exact .next hshows

/-- The parts of a filter that call no plugin. -/
theorem rewriteUri (h : Shows view v f s) (env : HttpEnv) :
    Vakil.rewriteUri env s =
      (Vakil.rewriteUri env f.bare).map fun t => { s with session := t.session } := by
  obtain ⟨session, ctx, plugins⟩ := s
  obtain rfl : session = f.session := h.session
  obtain rfl : ctx = f.ctx := h.ctx
  unfold Vakil.rewriteUri Flow.bare
  dsimp only
  cases f.ctx.route.bind (·.httpPath) with
  | none => rfl
  | some path =>
    rw [Option.map_map]
    rfl

theorem setHostHeader (h : Shows view v f s) (env : HttpEnv) (req : RequestHeader) :
    Vakil.setHostHeader env s req = Vakil.setHostHeader env f.bare req := by
  unfold Vakil.setHostHeader Flow.bare
  rw [h.ctx]

theorem requestFilter (h : Shows view v f s) (env : HttpEnv) (hooks : PluginProxyHooks W) :
    (Vakil.requestFilter env (hooks.through view) s).1 =
        ((f.requestFilter env hooks).runOn view v).1.1 ∧
      Shows view ((f.requestFilter env hooks).runOn view v).2
        ((f.requestFilter env hooks).runOn view v).1.2
        (Vakil.requestFilter env (hooks.through view) s).2 := by
  unfold Vakil.requestFilter Flow.requestFilter
  rw [h.rewriteUri env]
  cases Vakil.rewriteUri env f.bare with
  | none => exact ⟨rfl, h⟩
  | some t =>
    have hloop := Task.runOn_forEach view (R := Shows view)
      (fun m _ _ _ h => h.answerRound .requestFilter m) hooks.httpModules
      (h.withSession t.session)
    simp only [Option.map_some, Task.runOn_bind]
    rcases hloop.elim with ⟨f', s', hf, hs, h'⟩ | ⟨⟨status, body⟩, f', s', hf, hs, h'⟩
    · rw [hf]
      simp only [PluginProxyHooks.through, hs]
      exact ⟨rfl, h'⟩
    · rw [hf]
      simp only [PluginProxyHooks.through, hs]
      rw [h'.session]
      generalize f'.session.respondErrorWithBody status body = reply
      obtain ⟨_ | _ | _, session⟩ := reply <;> exact ⟨rfl, h'.withSession session⟩

theorem upstreamRequestFilter (h : Shows view v f s) (env : HttpEnv) (hooks : PluginProxyHooks W)
    (req : RequestHeader) :
    (Vakil.upstreamRequestFilter env (hooks.through view) s req).1 =
        ((f.upstreamRequestFilter env hooks req).runOn view v).1.1 ∧
      (Vakil.upstreamRequestFilter env (hooks.through view) s req).2.1 =
        ((f.upstreamRequestFilter env hooks req).runOn view v).1.2.1 ∧
      Shows view ((f.upstreamRequestFilter env hooks req).runOn view v).2
        ((f.upstreamRequestFilter env hooks req).runOn view v).1.2.2
        (Vakil.upstreamRequestFilter env (hooks.through view) s req).2.2 := by
  unfold Vakil.upstreamRequestFilter Flow.upstreamRequestFilter
  rw [h.setHostHeader env req]
  cases Vakil.setHostHeader env f.bare req with
  | none => exact ⟨rfl, rfl, h⟩
  | some req' =>
    have hloop := Task.runOn_forEach view (R := Shows view)
      (fun m _ _ _ h => h.answerRound .upstreamRequestFilter m) hooks.httpModules h
    simp only [Task.runOn_bind]
    rcases hloop.elim with ⟨f', s', hf, hs, h'⟩ | ⟨⟨status, body⟩, f', s', hf, hs, h'⟩
    · rw [hf]
      simp only [PluginProxyHooks.through, hs]
      exact ⟨rfl, rfl, h'⟩
    · rw [hf]
      simp only [PluginProxyHooks.through, hs]
      rw [h'.session]
      generalize f'.session.respondErrorWithBody status body = reply
      obtain ⟨_ | _ | _, session⟩ := reply <;> exact ⟨rfl, rfl, h'.withSession session⟩

theorem upstreamHead (h : Shows view v f s) (env : HttpEnv) (hooks : PluginProxyHooks W)
    (peer : HttpPeer) :
    (Vakil.upstreamHead env (hooks.through view) peer s).1 =
        ((f.upstreamHead env hooks peer).runOn view v).1.1 ∧
      Shows view ((f.upstreamHead env hooks peer).runOn view v).2
        ((f.upstreamHead env hooks peer).runOn view v).1.2
        (Vakil.upstreamHead env (hooks.through view) peer s).2 := by
  obtain ⟨hresult, hreq, hshows⟩ := h.upstreamRequestFilter env hooks f.session.reqHeader
  unfold Vakil.upstreamHead Flow.upstreamHead
  rw [h.session, Task.runOn_bind]
  generalize (f.upstreamRequestFilter env hooks f.session.reqHeader).runOn view v = out
    at hresult hreq hshows ⊢
  generalize Vakil.upstreamRequestFilter env (hooks.through view) s f.session.reqHeader = out'
    at hresult hreq hshows ⊢
  obtain ⟨⟨result, req, f'⟩, v'⟩ := out
  obtain ⟨result', req', s'⟩ := out'
  dsimp only at hresult hreq hshows ⊢
  subst hresult hreq
  cases result' <;> exact ⟨rfl, hshows⟩

theorem requestHead (h : Shows view v f s) (env : HttpEnv) (hooks : PluginProxyHooks W) :
    (Vakil.requestHead env (hooks.through view) s).1 =
        ((f.requestHead env hooks).runOn view v).1.1 ∧
      Shows view ((f.requestHead env hooks).runOn view v).2
        ((f.requestHead env hooks).runOn view v).1.2
        (Vakil.requestHead env (hooks.through view) s).2 := by
  obtain ⟨hresult, hshows⟩ := h.requestFilter env hooks
  unfold Vakil.requestHead Flow.requestHead
  rw [Task.runOn_bind]
  generalize (f.requestFilter env hooks).runOn view v = out at hresult hshows ⊢
  generalize Vakil.requestFilter env (hooks.through view) s = out' at hresult hshows ⊢
  obtain ⟨⟨result, f'⟩, v'⟩ := out
  obtain ⟨result', s'⟩ := out'
  dsimp only at hresult hshows ⊢
  subst hresult
  cases result' with
  | err e => exact ⟨rfl, hshows⟩
  | panic => exact ⟨rfl, hshows⟩
  | ok answered =>
    cases answered with
    | true => exact ⟨rfl, hshows⟩
    | false =>
      obtain ⟨hpeer, hshows'⟩ := hshows.upstreamPeer env hooks
      dsimp only
      rw [Task.runOn_bind]
      generalize (f'.upstreamPeer env hooks).runOn view v' = out at hpeer hshows' ⊢
      generalize Vakil.upstreamPeer env (hooks.through view) s' = out' at hpeer hshows' ⊢
      obtain ⟨⟨peer, f''⟩, v''⟩ := out
      obtain ⟨peer', s''⟩ := out'
      dsimp only at hpeer hshows' ⊢
      subst hpeer
      cases peer' with
      | ok peer => exact hshows'.upstreamHead env hooks peer
      | err e => exact ⟨rfl, hshows'⟩
      | panic => exact ⟨rfl, hshows'⟩

theorem requestBodyFilter (h : Shows view v f s) (hooks : PluginProxyHooks W)
    (body : Option Bytes) :
    Shows view ((f.requestBodyFilter hooks body).runOn view v).2
      ((f.requestBodyFilter hooks body).runOn view v).1
      (Vakil.requestBodyFilter (hooks.through view) body s).2.2 := by
  unfold Vakil.requestBodyFilter Flow.requestBodyFilter
  rw [h.ctx]
  exact Task.runOn_foldlM view (fun m _ _ _ h => h.invokeIgnored _ m m.onRequestBody) _ (h.withCtx _)

theorem responseFilter (h : Shows view v f s) (hooks : PluginProxyHooks W)
    (upstreamResponse : ResponseHeader) :
    Shows view ((f.responseFilter hooks).runOn view v).2 ((f.responseFilter hooks).runOn view v).1
      (Vakil.responseFilter (hooks.through view) upstreamResponse s).2.2 :=
  Task.runOn_foldlM view (fun m _ _ _ h => h.invokeIgnored _ m m.onResponseHeaders) _ h

theorem responseBodyFilter (h : Shows view v f s) (hooks : PluginProxyHooks W)
    (body : Option Bytes) (endOfStream : Bool) :
    Shows view ((f.responseBodyFilter hooks body endOfStream).runOn view v).2
      ((f.responseBodyFilter hooks body endOfStream).runOn view v).1
      (Vakil.responseBodyFilter (hooks.through view) body endOfStream s).2.2 := by
  unfold Vakil.responseBodyFilter Flow.responseBodyFilter
  rw [h.ctx]
  refine Task.runOn_foldlM view ?_ _ (h.withCtx _)
  intro m f v s h
  have hbody := h.invokeIgnored ⟨.responseBodyFilter, .onResponseBody⟩ m m.onResponseBody
  rw [Task.runOn_bind]
  cases endOfStream with
  | false => exact hbody
  | true => exact hbody.invokeIgnored ⟨.responseBodyFilter, .onTrailers⟩ m m.onTrailers

theorem requestBody (h : Shows view v f s) (hooks : PluginProxyHooks W)
    (chunks : List (Option Bytes)) :
    Shows view
      ((chunks.foldlM (fun (f : Flow W) chunk => f.requestBodyFilter hooks chunk) f).runOn view v).2
      ((chunks.foldlM (fun (f : Flow W) chunk => f.requestBodyFilter hooks chunk) f).runOn view v).1
      (chunks.foldl (fun s chunk => (Vakil.requestBodyFilter (hooks.through view) chunk s).2.2)
        s) := by
  have hloop := Task.runOn_foldlM view (R := Shows view) (g := id)
    (f := fun (f : Flow W) chunk => f.requestBodyFilter hooks chunk)
    (k := fun s chunk => (Vakil.requestBodyFilter (hooks.through view) chunk s).2.2)
    (fun chunk _ _ _ h => h.requestBodyFilter hooks chunk) chunks h
  rwa [List.map_id] at hloop

theorem responseBody (h : Shows view v f s) (hooks : PluginProxyHooks W)
    (chunks : List (Option Bytes × Bool)) :
    Shows view
      ((chunks.foldlM (fun (f : Flow W) chunk =>
        f.responseBodyFilter hooks chunk.1 chunk.2) f).runOn view v).2
      ((chunks.foldlM (fun (f : Flow W) chunk =>
        f.responseBodyFilter hooks chunk.1 chunk.2) f).runOn view v).1
      (chunks.foldl (fun s chunk =>
        (Vakil.responseBodyFilter (hooks.through view) chunk.1 chunk.2 s).2.2) s) := by
  have hloop := Task.runOn_foldlM view (R := Shows view) (g := id)
    (f := fun (f : Flow W) chunk => f.responseBodyFilter hooks chunk.1 chunk.2)
    (k := fun s chunk =>
      (Vakil.responseBodyFilter (hooks.through view) chunk.1 chunk.2 s).2.2)
    (fun chunk _ _ _ h => h.responseBodyFilter hooks chunk.1 chunk.2) chunks h
  rwa [List.map_id] at hloop

theorem write (h : Shows view v f s) (reply : Reply) :
    Shows view v { f with session := f.session.write reply }
      { s with session := s.session.write reply } := by
  rw [h.session]
  exact h.withSession _

theorem writeUpstreamResponse (h : Shows view v f s) :
    Shows view v { f with session := f.session.writeUpstreamResponse }
      { s with session := s.session.writeUpstreamResponse } := by
  rw [h.session]
  exact h.withSession _

theorem relay (h : Shows view v f s) (hooks : PluginProxyHooks W) (x : Exchange) :
    Shows view ((f.relay hooks x).runOn view v).2 ((f.relay hooks x).runOn view v).1
      (Vakil.relay (hooks.through view) x s) := by
  have hrequest := h.requestBody hooks x.requestBody
  have hresponse := hrequest.responseFilter hooks x.responseHeader
  unfold Vakil.relay Flow.relay
  rw [Task.runOn_bind, Task.runOn_bind]
  exact hresponse.writeUpstreamResponse.responseBody hooks x.responseBody

/-- The reply to a failed request. -/
theorem failToProxy (h : Shows view v f s) (e : PingoraError) :
    Shows view v { f with session := (Vakil.failToProxy e f.bare).session }
      (Vakil.failToProxy e s) := by
  cases e with
  | httpStatus code context => exact h.write (.hostError code)
  | writeError => exact h

end Filters

end Flow.Shows

section Serve

variable (view : View V W) (env : HttpEnv) (hooks : PluginProxyHooks W) (x : Exchange)
  (session : Session)

theorem Flow.shows_start (v : V) :
    Flow.Shows view v (.start env x session) (requestStart env x session v) :=
  ⟨rfl, rfl, rfl, .nil⟩

/-- **A request alone**, on a state of which the plugins see a part, is the request with the plugins
behind that view. -/
theorem serveTask_runOn (v : V) :
    (serveRequest env (hooks.through view) x session v).forwarded =
        ((serveTask env hooks x session).runOn view v).1.forwarded ∧
      Flow.Shows view ((serveTask env hooks x session).runOn view v).2
        ((serveTask env hooks x session).runOn view v).1.flow
        (serveRequest env (hooks.through view) x session v).state := by
  obtain ⟨hresult, hshows⟩ := (Flow.shows_start view env x session v).requestHead env hooks
  unfold serveRequest serveTask
  rw [Task.runOn_bind]
  generalize ((Flow.start env x session).requestHead env hooks).runOn view v = out
    at hresult hshows ⊢
  generalize requestHead env (hooks.through view) (requestStart env x session v) = out'
    at hresult hshows ⊢
  obtain ⟨⟨head, f⟩, v'⟩ := out
  obtain ⟨head', s⟩ := out'
  dsimp only at hresult hshows ⊢
  subst hresult
  cases head' with
  | answered => exact ⟨rfl, hshows⟩
  | failed e => exact ⟨rfl, hshows.failToProxy e⟩
  | aborted => exact ⟨rfl, hshows⟩
  | ready peer req =>
    have hrelay := hshows.relay hooks x
    unfold Flow.finish finishRequest
    rw [Task.runOn_bind]
    exact ⟨rfl, hrelay⟩

end Serve

/-! ## Alone -/

section Alone

theorem PluginHttpModule.through_whole (m : PluginHttpModule W) : m.through .whole = m := by
  have hmap : ∀ cb : Option (HttpHookFn W), cb.map (HookFn.through .whole) = cb := by
    intro cb
    cases cb <;> rfl
  unfold PluginHttpModule.through
  simp only [hmap]
  rfl

theorem serveRequest_through_whole (env : HttpEnv) (hooks : PluginProxyHooks W) (x : Exchange)
    (session : Session) (w : W) :
    serveRequest env (hooks.through .whole) x session w = serveRequest env hooks x session w := by
  have hms : hooks.httpModules.map (·.through .whole) = hooks.httpModules := by
    simp [PluginHttpModule.through_whole]
  unfold PluginProxyHooks.through
  rw [hms]
  rfl

theorem Call.through_whole_iff {κ μ C : Type} {lift : μ → μ} (hlift : ∀ m, lift m = m)
    {c d : Call κ μ C W} : Call.Through .whole lift c d ↔ d = c := by
  constructor
  · rintro ⟨hkind, hmodule, hseen, hresult, hleft, _, hworld⟩
    rw [hlift] at hmodule
    cases c
    cases d
    simp_all [View.whole]
  · rintro rfl
    exact ⟨rfl, (hlift d.module).symm, rfl, rfl, rfl, d.worldLeft, rfl⟩

end Alone

/-- What belongs to a request alone, of its state. -/
def HttpState.flow (s : HttpState W) : Flow W := ⟨s.session, s.ctx, s.calls⟩

/-- **A request that is served alone** is served as `serveRequest` says. -/
theorem serveTask_run (env : HttpEnv) (hooks : PluginProxyHooks W) (x : Exchange) (session : Session)
    (w : W) : (serveTask env hooks x session).runOn .whole w =
      (⟨(serveRequest env hooks x session w).forwarded,
        (serveRequest env hooks x session w).state.flow⟩,
        (serveRequest env hooks x session w).state.world) := by
  obtain ⟨hforwarded, hshows⟩ := serveTask_runOn .whole env hooks x session w
  rw [serveRequest_through_whole] at hforwarded hshows
  have hcalls : (serveRequest env hooks x session w).state.calls =
      ((serveTask env hooks x session).runOn .whole w).1.flow.calls := by
    have hsame := hshows.calls.imp fun _ _ h =>
      ((Call.through_whole_iff PluginHttpModule.through_whole).mp h).symm
    rw [List.forall₂_eq_eq_eq] at hsame
    exact hsame.symm
  unfold HttpState.flow
  rw [hforwarded, hshows.session, hshows.ctx, hcalls, hshows.world]

end Vakil
