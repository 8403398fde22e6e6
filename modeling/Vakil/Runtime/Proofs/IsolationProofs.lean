import Vakil.Runtime.Proofs.InterleavingProofs

/-!
# Proofs: requests do not interfere

Where the plugins answer by a part of their state that none of them changes, a request among others ends
as it does alone (`served_isolated`): two flows of a request that agree, up to the state of the plugins,
still agree after every filter, whatever the plugins' state is on either side.
-/

namespace Vakil

open ForLoop Tasks

variable {W : Type}

/-- What the callback answers, and makes of the context, depends on the part `k` of the plugins' state
only, and it leaves that part as it is. -/
structure HookFn.Reads {C K : Type} (k : W → K) (cb : HookFn C W) : Prop where
  keeps : ∀ inst ctx w, k (cb inst ctx w).2.2 = k w
  result : ∀ inst ctx w w', k w = k w' → (cb inst ctx w).1 = (cb inst ctx w').1
  left : ∀ inst ctx w w', k w = k w' → (cb inst ctx w).2.1 = (cb inst ctx w').2.1

def PluginHttpModule.Reads {K : Type} (k : W → K) (m : PluginHttpModule W) : Prop :=
  ∀ hook cb, m.callback hook = some cb → HookFn.Reads k cb

/-- The same call, but for the state of the plugins. -/
structure Call.Agrees (c d : HttpCall W) : Prop where
  kind : c.kind = d.kind
  module : c.module = d.module
  seen : c.seen = d.seen
  result : c.result = d.result
  left : c.left = d.left

structure Flow.Agrees (f g : Flow W) : Prop where
  session : f.session = g.session
  ctx : f.ctx = g.ctx
  calls : List.Forall₂ Call.Agrees f.calls g.calls

structure Served.Agrees (a b : Served W) : Prop where
  forwarded : a.forwarded = b.forwarded
  flow : a.flow.Agrees b.flow

/-- The same value, with flows that agree. -/
def AgreeWith {α : Type} (a b : α × Flow W) : Prop := a.1 = b.1 ∧ a.2.Agrees b.2

namespace Flow.Agrees

variable {K : Type} {k : W → K} {κ : K} {f g : Flow W}

theorem withSession (h : f.Agrees g) (session : Session) :
    Flow.Agrees { f with session } { g with session } :=
  ⟨rfl, h.ctx, h.calls⟩

theorem withCtx (h : f.Agrees g) (ctx : HttpContext) :
    Flow.Agrees { f with ctx } { g with ctx } :=
  ⟨h.session, rfl, h.calls⟩

theorem bare (h : f.Agrees g) : f.bare = g.bare := by
  unfold Flow.bare
  rw [h.session, h.ctx]

theorem invoke (h : f.Agrees g) (site : HttpSite) (m : PluginHttpModule W) {cb : HttpHookFn W}
    (hcb : HookFn.Reads k cb) :
    Task.Alike (k · = κ) AgreeWith (f.invoke site m cb) (g.invoke site m cb) := by
  have hkeeps : ∀ (ctx : HttpContext) (w : W), k w = κ → k (cb m.inst ctx w).2.2 = κ :=
    fun ctx w hw => (hcb.keeps m.inst ctx w).trans hw
  refine .turn (hkeeps f.ctx) (hkeeps g.ctx) fun w w' hw hw' => .done ?_
  have hww : k w = k w' := hw.trans hw'.symm
  have hresult := hcb.result m.inst g.ctx w w' hww
  have hleft := hcb.left m.inst g.ctx w w' hww
  rw [h.ctx]
  refine ⟨hresult, h.session, hleft, ?_⟩
  exact List.rel_append h.calls (.cons ⟨rfl, rfl, rfl, hresult, hleft⟩ .nil)

theorem invokeIgnored (h : f.Agrees g) {m : PluginHttpModule W} (hm : m.Reads k)
    (filter : HttpFilter) (hook : HttpHook) :
    Task.Alike (k · = κ) Flow.Agrees (f.invokeIgnored ⟨filter, hook⟩ m (m.callback hook))
      (g.invokeIgnored ⟨filter, hook⟩ m (m.callback hook)) := by
  cases hcb : m.callback hook with
  | none => exact .done h
  | some cb =>
    refine (h.invoke _ m (hm hook cb hcb)).bind ?_
    intro a b hab
    exact .done hab.2

theorem routeRound (h : f.Agrees g) (env : HttpEnv) {m : PluginHttpModule W} (hm : m.Reads k) :
    Task.Alike (k · = κ) (Step.Rel Flow.Agrees) (f.routeRound env m) (g.routeRound env m) := by
  unfold Flow.routeRound
  cases hcb : m.onRoute with
  | none => exact .done (.next h)
  | some cb =>
    refine (h.invoke _ m (hm .onRoute cb hcb)).bind ?_
    rintro ⟨result, f⟩ ⟨_, g⟩ ⟨rfl, h⟩
    dsimp only at h ⊢
    rw [h.ctx, h.session]
    cases g.ctx.route with
    | none => exact .done (.next h)
    | some route =>
      cases (HookResult.outcome result).action with
      | «continue» => exact .done (.next h)
      | drop => exact .done (.stop _ h)
      | replace =>
        dsimp only
        cases route.upstreamToSet with
        | none => exact .done (.next h)
        | some upstream =>
          dsimp only
          cases route.httpPath with
          | none => exact .done (.stop _ h)
          | some path =>
            dsimp only
            cases env.uriOfPathAndQuery path with
            | none => exact .done (.stop _ h)
            | some uri =>
              have hset := h.withSession (g.session.setUri uri)
              rw [h.ctx] at hset
              dsimp only
              cases HttpPeer.new env upstream.host upstream.port (isPortHttps upstream.port)
                upstream.host <;> exact .done (.stop _ hset)

theorem answerRound (h : f.Agrees g) (filter : HttpFilter) {m : PluginHttpModule W}
    (hm : m.Reads k) :
    Task.Alike (k · = κ) (Step.Rel Flow.Agrees) (f.answerRound filter m)
      (g.answerRound filter m) := by
  unfold Flow.answerRound
  cases hcb : m.onRequestHeaders with
  | none => exact .done (.next h)
  | some cb =>
    refine (h.invoke _ m (hm .onRequestHeaders cb hcb)).bind ?_
    rintro ⟨result, f⟩ ⟨_, g⟩ ⟨rfl, h⟩
    dsimp only at h ⊢
    rw [h.ctx]
    split_ifs
    · refine (h.invokeIgnored hm filter .onLocalReply).bind ?_
      intro f g h
      rw [h.ctx]
      cases g.ctx.response with
      | none => exact .done (.next h)
      | some response => exact .done (.stop _ h)
    · exact .done (.next h)

/-- The reply of a filter that answers. -/
theorem respond (h : f.Agrees g) (status : UInt16) (body : Bytes) :
    f.session.respondErrorWithBody status body = g.session.respondErrorWithBody status body := by
  rw [h.session]

section Filters

variable (env : HttpEnv) {hooks : PluginProxyHooks W} (hms : ∀ m ∈ hooks.httpModules, m.Reads k)

include hms

theorem requestFilter (h : f.Agrees g) :
    Task.Alike (k · = κ) AgreeWith (f.requestFilter env hooks) (g.requestFilter env hooks) := by
  unfold Flow.requestFilter
  rw [h.bare]
  cases rewriteUri env g.bare with
  | none => exact .done ⟨rfl, h⟩
  | some s =>
    refine (Task.Alike.forEach (fun m hm f g h => h.answerRound .requestFilter (hms m hm))
      (h.withSession s.session)).bind ?_
    intro a b hab
    cases hab with
    | next h => exact .done ⟨rfl, h⟩
    | stop r h =>
      rename_i f g
      obtain ⟨status, body⟩ := r
      dsimp only
      rw [h.respond status body]
      generalize g.session.respondErrorWithBody status body = reply
      obtain ⟨_ | _ | _, session⟩ := reply <;> exact .done ⟨rfl, h.withSession session⟩

theorem upstreamPeer (h : f.Agrees g) :
    Task.Alike (k · = κ) AgreeWith (f.upstreamPeer env hooks) (g.upstreamPeer env hooks) := by
  refine (Task.Alike.forEach (fun m hm f g h => h.routeRound env (hms m hm)) h).bind ?_
  intro a b hab
  cases hab with
  | next h => exact .done ⟨rfl, h⟩
  | stop r h => exact .done ⟨rfl, h⟩

theorem upstreamRequestFilter (h : f.Agrees g) (req : RequestHeader) :
    Task.Alike (k · = κ)
      (fun a b => a.1 = b.1 ∧ a.2.1 = b.2.1 ∧ Flow.Agrees a.2.2 b.2.2)
      (f.upstreamRequestFilter env hooks req) (g.upstreamRequestFilter env hooks req) := by
  unfold Flow.upstreamRequestFilter
  rw [h.bare]
  cases setHostHeader env g.bare req with
  | none => exact .done ⟨rfl, rfl, h⟩
  | some req =>
    refine (Task.Alike.forEach (fun m hm f g h => h.answerRound .upstreamRequestFilter (hms m hm))
      h).bind ?_
    intro a b hab
    cases hab with
    | next h => exact .done ⟨rfl, rfl, h⟩
    | stop r h =>
      rename_i f g
      obtain ⟨status, body⟩ := r
      dsimp only
      rw [h.respond status body]
      generalize g.session.respondErrorWithBody status body = reply
      obtain ⟨_ | _ | _, session⟩ := reply <;> exact .done ⟨rfl, rfl, h.withSession session⟩

theorem upstreamHead (h : f.Agrees g) (peer : HttpPeer) :
    Task.Alike (k · = κ) AgreeWith (f.upstreamHead env hooks peer)
      (g.upstreamHead env hooks peer) := by
  unfold Flow.upstreamHead
  rw [h.session]
  refine (h.upstreamRequestFilter env hms g.session.reqHeader).bind ?_
  rintro ⟨result, req, f⟩ ⟨_, _, g⟩ ⟨rfl, rfl, h⟩
  cases result <;> exact .done ⟨rfl, h⟩

theorem requestHead (h : f.Agrees g) :
    Task.Alike (k · = κ) AgreeWith (f.requestHead env hooks) (g.requestHead env hooks) := by
  refine (h.requestFilter env hms).bind ?_
  rintro ⟨result, f⟩ ⟨_, g⟩ ⟨rfl, h⟩
  cases result with
  | err e => exact .done ⟨rfl, h⟩
  | panic => exact .done ⟨rfl, h⟩
  | ok answered =>
    cases answered with
    | true => exact .done ⟨rfl, h⟩
    | false =>
      refine (h.upstreamPeer env hms).bind ?_
      rintro ⟨peer, f⟩ ⟨_, g⟩ ⟨rfl, h⟩
      cases peer with
      | ok peer => exact h.upstreamHead env hms peer
      | err e => exact .done ⟨rfl, h⟩
      | panic => exact .done ⟨rfl, h⟩

theorem requestBodyFilter (h : f.Agrees g) (body : Option Bytes) :
    Task.Alike (k · = κ) Flow.Agrees (f.requestBodyFilter hooks body)
      (g.requestBodyFilter hooks body) := by
  unfold Flow.requestBodyFilter
  rw [h.ctx]
  exact Task.Alike.foldlM (fun m hm _ _ h => h.invokeIgnored (hms m hm) _ .onRequestBody)
    (h.withCtx _)

theorem responseFilter (h : f.Agrees g) :
    Task.Alike (k · = κ) Flow.Agrees (f.responseFilter hooks) (g.responseFilter hooks) :=
  Task.Alike.foldlM (fun m hm _ _ h => h.invokeIgnored (hms m hm) _ .onResponseHeaders) h

theorem responseBodyFilter (h : f.Agrees g) (body : Option Bytes) (endOfStream : Bool) :
    Task.Alike (k · = κ) Flow.Agrees (f.responseBodyFilter hooks body endOfStream)
      (g.responseBodyFilter hooks body endOfStream) := by
  unfold Flow.responseBodyFilter
  rw [h.ctx]
  refine Task.Alike.foldlM (fun m hm _ _ h => ?_) (h.withCtx _)
  refine (h.invokeIgnored (hms m hm) _ .onResponseBody).bind ?_
  intro f g h
  split_ifs
  · exact h.invokeIgnored (hms m hm) _ .onTrailers
  · exact .done h

theorem relay (h : f.Agrees g) (x : Exchange) :
    Task.Alike (k · = κ) Flow.Agrees (f.relay hooks x) (g.relay hooks x) := by
  refine (Task.Alike.foldlM (fun chunk _ f g h => h.requestBodyFilter hms chunk) h).bind ?_
  intro f g h
  refine (h.responseFilter hms).bind ?_
  intro f g h
  rw [h.session]
  have hwritten := h.withSession g.session.writeUpstreamResponse
  exact Task.Alike.foldlM (fun chunk _ f g h => h.responseBodyFilter hms chunk.1 chunk.2) hwritten

theorem serveTask (x : Exchange) (session : Session) :
    Task.Alike (k · = κ) Served.Agrees (serveTask env hooks x session)
      (Vakil.serveTask env hooks x session) := by
  have hstart : (Flow.start env x session : Flow W).Agrees (Flow.start env x session) :=
    ⟨rfl, rfl, .nil⟩
  refine (hstart.requestHead env hms).bind ?_
  rintro ⟨head, f⟩ ⟨_, g⟩ ⟨rfl, h⟩
  cases head with
  | answered => exact .done ⟨rfl, h⟩
  | aborted => exact .done ⟨rfl, h⟩
  | failed e =>
    have hfg : f.Agrees g := h
    have hfailed : Flow.Agrees { f with session := (failToProxy e f.bare).session }
        { g with session := (failToProxy e g.bare).session } := by
      rw [hfg.bare]
      exact hfg.withSession _
    exact .done ⟨rfl, hfailed⟩
  | ready peer req =>
    refine (h.relay hms x).bind ?_
    intro f g h
    exact .done ⟨rfl, h⟩

end Filters

end Flow.Agrees

/-- **Requests do not interfere through state that nothing changes.** If what the plugins answer depends
on a part of their state only that none of them changes, then a request among others ends as it does
alone, from any state with that part. -/
theorem served_isolated {ι K : Type} [DecidableEq ι] {k : W → K} {env : HttpEnv}
    {hooks : PluginProxyHooks W} (hms : ∀ m ∈ hooks.httpModules, m.Reads k)
    {requests : ι → Arrival} {w : W} {schedule : List ι} {i : ι} {served : Served W}
    (h : ((requestPool env hooks requests w).after schedule).tasks i = .done served) {w' : W}
    (hw' : k w' = k w) :
    let run := serveRequest env hooks (requests i).exchange (requests i).session w'
    served.Agrees ⟨run.forwarded, run.state.flow⟩ := by
  intro run
  have halike : ∀ j, Task.Alike (k · = k w) Served.Agrees
      (serveTask env hooks (requests j).exchange (requests j).session)
      (serveTask env hooks (requests j).exchange (requests j).session) :=
    fun j => Flow.Agrees.serveTask env hms _ _
  have hkeeps : (requestPool env hooks requests w).Sat (k · = k w) fun _ _ => True :=
    ⟨rfl, fun j => (halike j).sat rfl⟩
  have hfound : ∀ v ∈ worldsFound env hooks requests w schedule i, k v = k w := by
    intro v hv
    obtain ⟨pre, post, -, rfl⟩ := Pool.exists_of_mem_found hv
    exact (hkeeps.after pre).world
  have hagrees := (halike i).feed hfound (feed_worldsFound h) hw'
  rw [serveTask_run] at hagrees
  exact hagrees

/-- A module that sends every request to the upstream in the plugins' state, and counts them there. -/
def tallyingRouter : PluginHttpModule (SocketAddress × Nat) :=
  { PluginHttpModule.default with
    onRoute := some fun _ ctx w =>
      let route : RouteDecision := { upstreamToSet := some w.1, httpPath := some "/".toList }
      (.ok ⟨.replace⟩, { ctx with transport := ctx.transport.map ({ · with route := route }) },
        (w.1, w.2 + 1)) }

theorem tallyingRouter_reads : tallyingRouter.Reads Prod.fst := by
  intro hook cb hcb
  cases hook <;> cases hcb
  refine ⟨fun _ _ _ => rfl, fun _ _ _ _ _ => rfl, ?_⟩
  intro inst ctx w w' hw
  simp only [hw]

/-- Two plain requests. -/
def tallyingPool : Pool Bool (SocketAddress × Nat) (Served (SocketAddress × Nat)) :=
  requestPool Plain.env ⟨[tallyingRouter], [], []⟩ (fun _ => ⟨Plain.exchange, Plain.session⟩)
    (Plain.upstream, 0)

theorem tallyingRouter_isolated : ∃ served : Served (SocketAddress × Nat),
    (tallyingPool.after [true, false]).tasks false = .done served ∧
      let run := serveRequest Plain.env ⟨[tallyingRouter], [], []⟩ Plain.exchange Plain.session
        (Plain.upstream, 7)
      served.Agrees ⟨run.forwarded, run.state.flow⟩ := by
  have hexists : ∃ served, (tallyingPool.after [true, false]).tasks false = .done served := ⟨_, rfl⟩
  obtain ⟨served, hserved⟩ := hexists
  have hms : ∀ m ∈ [tallyingRouter], m.Reads Prod.fst := by
    intro m hm
    rw [List.mem_singleton.mp hm]
    exact tallyingRouter_reads
  have hsame : Prod.fst (Plain.upstream, 7) = Prod.fst (Plain.upstream, 0) := rfl
  exact ⟨served, hserved, served_isolated hms hserved hsame⟩

end Vakil
