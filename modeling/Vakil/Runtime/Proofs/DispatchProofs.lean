import Vakil.Runtime.Proofs.HttpProofs
import Vakil.Runtime.Request
import Vakil.Runtime.L4

/-!
# Proofs: the order of dispatch

The chains made by `fromLoaded` are the loaded modules in priority order, and every loop of the HTTP
and L4 hooks calls the callbacks of a hook in the order of its chain. A loop is described by what it
adds to the modules called from a site: the modules it consulted that have the callback.
-/

namespace Vakil

open ForLoop StableSort

variable {W : Type}

/-! ## The chains -/

/-- From `p` to `q`, the callbacks of the modules `consulted` were called from `kind`, each once and
in this order. -/
def Ran {κ μ C : Type} [DecidableEq κ] (kind : κ) (callback : μ → Option (HookFn C W))
    (consulted : List μ) (p q : PluginState κ μ C W) : Prop :=
  Call.modulesAt kind q.calls =
    Call.modulesAt kind p.calls ++ consulted.filter fun m => (callback m).isSome

namespace Ran

variable {κ μ C : Type} [DecidableEq κ] {kind : κ} {callback : μ → Option (HookFn C W)}
  {p q r : PluginState κ μ C W} {l l' : List μ}

theorem refl (p : PluginState κ μ C W) : Ran kind callback [] p p := by simp [Ran]

theorem trans (h : Ran kind callback l p q) (h' : Ran kind callback l' q r) :
    Ran kind callback (l ++ l') p r := by
  rw [Ran, h', h, List.filter_append, List.append_assoc]

/-- The modules called from `kind` since then. -/
theorem modulesAt_new {new : List (Call κ μ C W)} (h : Ran kind callback l p q)
    (hnew : q.calls = p.calls ++ new) :
    Call.modulesAt kind new = l.filter fun m => (callback m).isSome := by
  rw [Ran, hnew, Call.modulesAt_append] at h
  exact List.append_cancel_left h

theorem exists_call {new : List (Call κ μ C W)} (h : Ran kind callback l p q)
    (hnew : q.calls = p.calls ++ new) {m : μ} (hm : m ∈ l) (hcb : (callback m).isSome) :
    ∃ c ∈ new, c.kind = kind := by
  have hmem : m ∈ Call.modulesAt kind new := by
    rw [h.modulesAt_new hnew]
    exact List.mem_filter.mpr ⟨hm, hcb⟩
  exact Call.exists_of_mem_modulesAt hmem

theorem of_none {m : μ} (h : callback m = none) : Ran kind callback [m] p p := by simp [Ran, h]

theorem of_some {m : μ} {cb : HookFn C W} {c : Call κ μ C W} {tail : List (Call κ μ C W)}
    (h : callback m = some cb) (hcalls : q.calls = p.calls ++ c :: tail) (hkind : c.kind = kind)
    (hm : c.module = m) (htail : ∀ d ∈ tail, d.kind ≠ kind) : Ran kind callback [m] p q := by
  rw [Ran, hcalls, Call.modulesAt_append, Call.modulesAt_cons_self hkind, hm,
    Call.modulesAt_eq_nil htail]
  simp [h]

theorem callIgnored (kind : κ) (callback : μ → Option (HookFn C W)) (m : μ) (inst : PluginInstance)
    (ctx : C) (p : PluginState κ μ C W) :
    Ran kind callback [m] p (p.callIgnored kind m inst (callback m) ctx).2 := by
  cases h : callback m with
  | none => exact of_none h
  | some cb => exact of_some h (p.call_calls kind m inst cb ctx) rfl rfl (by simp)

/-- Calls from another site add nothing. -/
theorem callIgnored_ne {kind' : κ} (h : kind' ≠ kind) (m : μ) (inst : PluginInstance)
    (cb : Option (HookFn C W)) (ctx : C) (p : PluginState κ μ C W) :
    Ran kind callback [] p (p.callIgnored kind' m inst cb ctx).2 := by
  cases cb with
  | none => exact refl p
  | some cb =>
    rw [Ran, PluginState.callIgnored_some, PluginState.call_calls, Call.modulesAt_append]
    congr 1
    exact Call.modulesAt_eq_nil (by simpa using h)

theorem foldl {σ : Type} (plugins : σ → PluginState κ μ C W) {f : σ → μ → σ}
    (h : ∀ s m, Ran kind callback [m] (plugins s) (plugins (f s m))) (ms : List μ) (s : σ) :
    Ran kind callback ms (plugins s) (plugins (ms.foldl f s)) := by
  induction ms generalizing s with
  | nil => exact refl _
  | cons m ms ih => exact (h s m).trans (ih (f s m))

theorem foldl_ne {σ : Type} (plugins : σ → PluginState κ μ C W) {f : σ → μ → σ}
    (h : ∀ s m, Ran kind callback [] (plugins s) (plugins (f s m))) (ms : List μ) (s : σ) :
    Ran kind callback [] (plugins s) (plugins (ms.foldl f s)) := by
  refine List.foldlRecOn ms f (motive := fun t => Ran kind callback [] (plugins s) (plugins t))
    (refl _) ?_
  intro t ht m _
  exact ht.trans (h t m)

end Ran

/-- From `p` to `q` only calls with `P` were made. -/
def Grows {κ μ C : Type} (P : Call κ μ C W → Prop) (p q : PluginState κ μ C W) : Prop :=
  ∃ new, q.calls = p.calls ++ new ∧ ∀ c ∈ new, P c

theorem Grows.refl {κ μ C : Type} {P : Call κ μ C W → Prop} (p : PluginState κ μ C W) :
    Grows P p p := ⟨[], by simp, by simp⟩

theorem Grows.trans {κ μ C : Type} {P : Call κ μ C W → Prop} {p q r : PluginState κ μ C W}
    (h : Grows P p q) (h' : Grows P q r) : Grows P p r := by
  obtain ⟨new, hc, hP⟩ := h
  obtain ⟨new', hc', hP'⟩ := h'
  refine ⟨new ++ new', by rw [hc', hc, List.append_assoc], ?_⟩
  intro c hc
  rcases List.mem_append.1 hc with hc | hc
  · exact hP c hc
  · exact hP' c hc

/-- From `p` to `q` only calls from `kind` were made. -/
def Adds {κ μ C : Type} (kind : κ) (p q : PluginState κ μ C W) : Prop :=
  ∃ new, q.calls = p.calls ++ new ∧ ∀ c ∈ new, c.kind = kind

namespace Adds

variable {κ μ C : Type} {kind : κ} {p q r : PluginState κ μ C W}

theorem refl (p : PluginState κ μ C W) : Adds kind p p := Grows.refl p

theorem trans (h : Adds kind p q) (h' : Adds kind q r) : Adds kind p r := Grows.trans h h'

theorem callIgnored (kind : κ) (m : μ) (inst : PluginInstance) (cb : Option (HookFn C W)) (ctx : C)
    (p : PluginState κ μ C W) : Adds kind p (p.callIgnored kind m inst cb ctx).2 := by
  cases cb with
  | none => exact refl p
  | some cb => exact ⟨_, p.call_calls kind m inst cb ctx, by simp⟩

theorem foldl {σ : Type} (plugins : σ → PluginState κ μ C W) {f : σ → μ → σ}
    (h : ∀ s m, Adds kind (plugins s) (plugins (f s m))) (ms : List μ) (s : σ) :
    Adds kind (plugins s) (plugins (ms.foldl f s)) := by
  refine List.foldlRecOn ms f (motive := fun t => Adds kind (plugins s) (plugins t)) (refl _) ?_
  intro t ht m _
  exact ht.trans (h t m)

/-- Each of the modules with the callback was called once. -/
theorem since_length [DecidableEq κ] {callback : μ → Option (HookFn C W)} {ms : List μ}
    (h : Adds kind p q) (hran : Ran kind callback ms p q) :
    (p.since q).length = (ms.filter fun m => (callback m).isSome).length := by
  obtain ⟨new, hc, hk⟩ := h
  rw [PluginState.since_eq hc, ← hran.modulesAt_new hc, Call.length_modulesAt hk]

end Adds

/-! ## HTTP -/

theorem HttpState.invokeIgnored_plugins (s : HttpState W) (site : HttpSite)
    (m : PluginHttpModule W) (cb : Option (HttpHookFn W)) :
    (s.invokeIgnored site m cb).plugins = (s.plugins.callIgnored site m m.inst cb s.ctx).2 := by
  cases cb <;> rfl

theorem routeRound_ran (env : HttpEnv) (m : PluginHttpModule W) (s : HttpState W) :
    Ran ⟨.upstreamPeer, .onRoute⟩ (·.onRoute) [m] s.plugins (routeRound env m s).state.plugins := by
  cases h : m.onRoute with
  | none =>
    rw [routeRound_none env h]
    exact Ran.of_none h
  | some cb => exact Ran.of_some h (routeRound_some env h s).1 rfl rfl (by simp)

/-- **The routing loop** consults a prefix of the chain, all of it if it is not left early. -/
theorem routeLoop_order (env : HttpEnv) (ms : List (PluginHttpModule W)) (s : HttpState W) :
    ∃ consulted rest, ms = consulted ++ rest ∧
      ((forEach (routeRound env) ms s).result = none → rest = []) ∧
      Ran ⟨.upstreamPeer, .onRoute⟩ (·.onRoute) consulted s.plugins
        (forEach (routeRound env) ms s).state.plugins := by
  obtain ⟨pre, post, h, hran, hend⟩ := @forEach_history _ _ _ (routeRound env)
    (fun l (t : HttpState W) => Ran (⟨.upstreamPeer, .onRoute⟩ : HttpSite)
      (fun m : PluginHttpModule W => m.onRoute) l s.plugins t.plugins)
    ms s (Ran.refl _) fun l m _ t ht => Ran.trans ht (routeRound_ran env m t)
  exact ⟨pre, post, h, hend, hran⟩

/-- What one round of the local reply loop adds: the module, if it has the callback, and at most the
module to those whose `on_local_reply` was called. -/
theorem answerRound_ran (filter : HttpFilter) (m : PluginHttpModule W) (s : HttpState W) :
    Ran ⟨filter, .onRequestHeaders⟩ (·.onRequestHeaders) [m] s.plugins
        (answerRound filter m s).state.plugins ∧
      ∃ l, l.Sublist ([m].filter fun m => m.onLocalReply.isSome) ∧
        Call.modulesAt ⟨filter, .onLocalReply⟩ (answerRound filter m s).state.calls =
          Call.modulesAt ⟨filter, .onLocalReply⟩ s.calls ++ l := by
  cases hcb : m.onRequestHeaders with
  | none =>
    rw [answerRound_none hcb]
    exact ⟨Ran.of_none hcb, [], by simp, by simp⟩
  | some cb =>
    have hstate : (answerRound filter m s).state = settle filter m cb s := by
      rw [answerRound_some hcb]
      split <;> rfl
    rw [hstate]
    obtain ⟨tail, hcalls, htail⟩ := settle_calls filter m cb s
    refine ⟨Ran.of_some hcb hcalls rfl rfl ?_, Call.modulesAt ⟨filter, .onLocalReply⟩ tail, ?_, ?_⟩
    · rcases htail with rfl | ⟨_, d, -, rfl, hd, -⟩
      · simp
      · simp [hd]
    · rcases htail with rfl | ⟨replyCb, d, hreply, rfl, hd, hm⟩
      · simp
      · rw [Call.modulesAt_cons_self hd, hm]
        simp [hreply]
    · rw [hcalls, Call.modulesAt_append, Call.modulesAt_cons_ne (by simp)]

/-- **The local reply loop** consults a prefix of the chain, all of it if it is not left early. The
modules whose `on_local_reply` it calls are among the modules consulted, in the same order. -/
theorem answerLoop_order (filter : HttpFilter) (ms : List (PluginHttpModule W)) (s : HttpState W) :
    ∃ consulted rest, ms = consulted ++ rest ∧
      ((forEach (answerRound filter) ms s).result = none → rest = []) ∧
      Ran ⟨filter, .onRequestHeaders⟩ (·.onRequestHeaders) consulted s.plugins
        (forEach (answerRound filter) ms s).state.plugins ∧
      ∃ replied, replied.Sublist (consulted.filter fun m => m.onLocalReply.isSome) ∧
        Call.modulesAt ⟨filter, .onLocalReply⟩ (forEach (answerRound filter) ms s).state.calls =
          Call.modulesAt ⟨filter, .onLocalReply⟩ s.calls ++ replied := by
  obtain ⟨pre, post, h, ⟨hran, hreplied⟩, hend⟩ := @forEach_history _ _ _ (answerRound filter)
    (fun l t => Ran ⟨filter, .onRequestHeaders⟩ (·.onRequestHeaders) l s.plugins t.plugins ∧
      ∃ replied, replied.Sublist (l.filter fun m => m.onLocalReply.isSome) ∧
        Call.modulesAt ⟨filter, .onLocalReply⟩ t.calls =
          Call.modulesAt ⟨filter, .onLocalReply⟩ s.calls ++ replied)
    ms s ⟨Ran.refl _, [], by simp, by simp⟩ fun l m _ t ⟨ht, replied, hsub, hcalls⟩ => by
      obtain ⟨hm, l', hl', hcalls'⟩ := answerRound_ran filter m t
      refine ⟨ht.trans hm, replied ++ l', ?_, by rw [hcalls', hcalls, List.append_assoc]⟩
      rw [List.filter_append]
      exact hsub.append hl'
  exact ⟨pre, post, h, hend, hran, hreplied⟩

theorem HttpState.invokeIgnored_ran (site : HttpSite)
    (callback : PluginHttpModule W → Option (HttpHookFn W)) (m : PluginHttpModule W)
    (s : HttpState W) :
    Ran site callback [m] s.plugins (s.invokeIgnored site m (callback m)).plugins := by
  rw [invokeIgnored_plugins]
  exact Ran.callIgnored site callback m m.inst s.ctx s.plugins

theorem HttpState.invokeIgnored_ran_ne {site site' : HttpSite} (h : site' ≠ site)
    (callback : PluginHttpModule W → Option (HttpHookFn W)) (m : PluginHttpModule W)
    (cb : Option (HttpHookFn W)) (s : HttpState W) :
    Ran site callback [] s.plugins (s.invokeIgnored site' m cb).plugins := by
  rw [invokeIgnored_plugins]
  exact Ran.callIgnored_ne h m m.inst cb s.ctx s.plugins

theorem requestBodyFilter_order (hooks : PluginProxyHooks W) (body : Option Bytes)
    (s : HttpState W) :
    Ran ⟨.requestBodyFilter, .onRequestBody⟩ (·.onRequestBody) hooks.httpModules s.plugins
      (requestBodyFilter hooks body s).2.2.plugins :=
  Ran.foldl HttpState.plugins (fun s m => s.invokeIgnored_ran _ (·.onRequestBody) m)
    _ _

/-- The trailers callbacks run at the end of the stream only. -/
theorem responseBodyFilter_order (hooks : PluginProxyHooks W) (body : Option Bytes) (eos : Bool)
    (s : HttpState W) :
    Ran ⟨.responseBodyFilter, .onResponseBody⟩ (·.onResponseBody) hooks.httpModules s.plugins
        (responseBodyFilter hooks body eos s).2.2.plugins ∧
      Ran ⟨.responseBodyFilter, .onTrailers⟩ (·.onTrailers)
        (if eos then hooks.httpModules else []) s.plugins
        (responseBodyFilter hooks body eos s).2.2.plugins := by
  have hbody := fun (s : HttpState W) (m : PluginHttpModule W) =>
    s.invokeIgnored_ran ⟨.responseBodyFilter, .onResponseBody⟩ (·.onResponseBody) m
  have htrailers := fun (s : HttpState W) (m : PluginHttpModule W) =>
    s.invokeIgnored_ran ⟨.responseBodyFilter, .onTrailers⟩ (·.onTrailers) m
  have hne : (⟨.responseBodyFilter, .onTrailers⟩ : HttpSite) ≠
      ⟨.responseBodyFilter, .onResponseBody⟩ := by decide
  have hnobody := fun (s : HttpState W) (m : PluginHttpModule W) =>
    s.invokeIgnored_ran_ne hne (·.onResponseBody) m m.onTrailers
  have hnotrailers := fun (s : HttpState W) (m : PluginHttpModule W) =>
    s.invokeIgnored_ran_ne hne.symm (·.onTrailers) m m.onResponseBody
  cases eos with
  | false =>
    exact ⟨Ran.foldl HttpState.plugins hbody _ _,
      Ran.foldl_ne HttpState.plugins hnotrailers _ _⟩
  | true =>
    exact ⟨Ran.foldl HttpState.plugins (fun s m => (hbody s m).trans (hnobody _ m))
        _ _,
      Ran.foldl HttpState.plugins (fun s m => (hnotrailers s m).trans (htrailers _ m))
        _ _⟩

/-! ## L4 -/

theorem runTcp_ran (hook : TcpHook) (m : PluginTcpModule W) (s : TCPContext × TcpPlugins W) :
    Ran hook (·.callback hook) [m] s.2 (runTcp hook m s).2 :=
  Ran.callIgnored hook (·.callback hook) m m.inst s.1 s.2

theorem runTcp_ran_ne {hook hook' : TcpHook} (h : hook' ≠ hook)
    {callback : PluginTcpModule W → Option (TcpHookFn W)} (m : PluginTcpModule W)
    (s : TCPContext × TcpPlugins W) : Ran hook callback [] s.2 (runTcp hook' m s).2 :=
  Ran.callIgnored_ne h m m.inst (m.callback hook') s.1 s.2

theorem runUdp_ran (hook : UdpHook) (m : PluginUdpModule W) (s : UDPContext × UdpPlugins W) :
    Ran hook (·.callback hook) [m] s.2 (runUdp hook m s).2 :=
  Ran.callIgnored hook (·.callback hook) m m.inst s.1 s.2

theorem foldl_runTcp_order (hook : TcpHook) (ms : List (PluginTcpModule W))
    (s : TCPContext × TcpPlugins W) :
    Ran hook (·.callback hook) ms s.2 (ms.foldl (fun s m => runTcp hook m s) s).2 :=
  Ran.foldl Prod.snd (fun s m => runTcp_ran hook m s) ms s

theorem foldl_runUdp_order (hook : UdpHook) (ms : List (PluginUdpModule W))
    (s : UDPContext × UdpPlugins W) :
    Ran hook (·.callback hook) ms s.2 (ms.foldl (fun s m => runUdp hook m s) s).2 :=
  Ran.foldl Prod.snd (fun s m => runUdp_ran hook m s) ms s

/-- The init hook runs two callbacks of each module. -/
theorem tcpConnectionInit_order (hooks : PluginProxyHooks W) (ctx : TCPContext)
    (p : TcpPlugins W) :
    Ran .onRoute (·.onRoute) hooks.tcpModules p (hooks.tcpConnectionInit ctx p).2.2 ∧
      Ran .onConnect (·.onConnect) hooks.tcpModules p (hooks.tcpConnectionInit ctx p).2.2 :=
  ⟨Ran.foldl Prod.snd (fun s m =>
      (runTcp_ran .onRoute m s).trans (runTcp_ran_ne (by decide) m _)) hooks.tcpModules (ctx, p),
    Ran.foldl Prod.snd (fun s m =>
      (runTcp_ran_ne (by decide) m s).trans (runTcp_ran .onConnect m _)) hooks.tcpModules (ctx, p)⟩

/-! ## The dispatch loops of a chain -/

/-- Every TCP hook calls the callbacks of all modules in the order of the chain, each once. -/
structure TcpDispatch (hooks : PluginProxyHooks W) : Prop where
  init : ∀ (ctx : TCPContext) (p : TcpPlugins W),
    Ran .onRoute (·.onRoute) hooks.tcpModules p (hooks.tcpConnectionInit ctx p).2.2 ∧
      Ran .onConnect (·.onConnect) hooks.tcpModules p (hooks.tcpConnectionInit ctx p).2.2
  data : ∀ (ctx : TCPContext) (p : TcpPlugins W),
    Ran .onData (·.onData) hooks.tcpModules p (hooks.tcpDataReceived ctx p).2.2
  close : ∀ (ctx : TCPContext) (p : TcpPlugins W),
    Ran .onClose (·.onClose) hooks.tcpModules p (hooks.tcpConnectionClose ctx p).2.2

structure UdpDispatch (hooks : PluginProxyHooks W) : Prop where
  sessionStart : ∀ (ctx : UDPContext) (p : UdpPlugins W),
    Ran .onSessionStart (·.onSessionStart) hooks.udpModules p (hooks.udpSessionStart ctx p).2.2
  datagram : ∀ (ctx : UDPContext) (p : UdpPlugins W),
    Ran .onDatagram (·.onDatagram) hooks.udpModules p (hooks.udpDatagramReceived ctx p).2.2
  sessionEnd : ∀ (ctx : UDPContext) (p : UdpPlugins W),
    Ran .onSessionEnd (·.onSessionEnd) hooks.udpModules p (hooks.udpSessionClose ctx p).2.2

theorem tcpDispatch (hooks : PluginProxyHooks W) : TcpDispatch hooks where
  init ctx p := tcpConnectionInit_order hooks ctx p
  data ctx p := foldl_runTcp_order .onData hooks.tcpModules (ctx, p)
  close ctx p := foldl_runTcp_order .onClose hooks.tcpModules (ctx, p)

theorem udpDispatch (hooks : PluginProxyHooks W) : UdpDispatch hooks where
  sessionStart ctx p := foldl_runUdp_order .onSessionStart hooks.udpModules (ctx, p)
  datagram ctx p := foldl_runUdp_order .onDatagram hooks.udpModules (ctx, p)
  sessionEnd ctx p := foldl_runUdp_order .onSessionEnd hooks.udpModules (ctx, p)

/-! ## Load orders -/

end Vakil
