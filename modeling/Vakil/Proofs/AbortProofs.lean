import Vakil.ExampleNoop
import Vakil.Lib.Fuses
import Vakil.Runtime.Proofs.InvariantProofs
import Vakil.Runtime.Proofs.StartUpProofs

/-!
# Proofs: when the noop plugin aborts the process

Neither requests nor sockets abort a process that has loaded the noop plugin, in whatever order the
callbacks come. Every TCP connection does, with the first callback of this plugin: `on_connect` is called
before there is a chunk (`aborted_iff`).
-/

namespace Vakil.ExampleNoop

open ForLoop StableSort Tasks

variable {V : Type}

def Aborted (s : ProcessState V) : Prop := s.aborted = true

def NoChunk (ctx : TCPContext) : Prop := ctx.chunk = none

/-- What the host makes of the contexts while no connection has an upstream. -/
def contexts : Contexts := ⟨HasRequest, NoChunk, fun _ => True⟩

theorem contexts_hostMade : contexts.HostMade where
  http := hostKeeps_hasRequest
  connection _ _ _ := rfl
  socket _ _ _ := trivial
  datagram _ _ _ _ _ := trivial

/-- Called on a context with a request, no callback of the module aborts the process or takes the request
away. -/
def SparesHttp (m : PluginHttpModule (ProcessState V)) : Prop :=
  m.Ensures (fun _ => True) (Sparing Aborted) contexts.http

/-- Called on a context without a chunk, no callback of the module aborts the process or puts one there. -/
def SparesTcp (m : PluginTcpModule (ProcessState V)) : Prop :=
  m.Ensures (fun _ => True) (Sparing Aborted) contexts.tcp

/-- No callback of the module aborts the process. -/
def SparesUdp (m : PluginUdpModule (ProcessState V)) : Prop :=
  m.Ensures (fun _ => True) (Sparing Aborted) contexts.udp

theorem buildHttpModule_spares : SparesHttp (buildHttpModule (V := V)) := by
  have hevent : HookFn.Ensures (W := ProcessState V) (fun _ => True) (Sparing Aborted) HasRequest
      exampleOnHttpEvent := by
    intro inst ctx s hctx _
    obtain ⟨req, hreq⟩ := Option.isSome_iff_exists.mp hctx
    unfold exampleOnHttpEvent
    rw [hreq]
    dsimp only
    split_ifs
    · exact ⟨rfl, Iff.rfl⟩
    · exact ⟨hctx, Iff.rfl⟩
  intro hook cb hcb
  cases hook
  case onRoute => cases hcb
  all_goals
    obtain rfl := Option.some.inj hcb
    exact hevent

theorem buildUdpModule_spares : SparesUdp (buildUdpModule (V := V)) := by
  intro hook cb hcb inst ctx s hctx _
  cases hook
  case onRoute => cases hcb
  all_goals
    obtain rfl := Option.some.inj hcb
    exact ⟨hctx, Iff.rfl⟩

/-- The callbacks of the module that are called when a connection is made. -/
def initCallbacks (m : PluginTcpModule (ProcessState V)) : ℕ :=
  m.onRoute.toList.length + m.onConnect.toList.length

section Connections

variable {m : PluginTcpModule (ProcessState V)} {f : TcpFlow (ProcessState V)}

theorem call_waits (hm : SparesTcp m) (hook : TcpHook) (h : NoChunk f.ctx) :
    (f.call hook m m.inst (m.callback hook)).Waits Aborted (fun f => NoChunk f.ctx)
      (m.callback hook).toList.length := by
  cases hcb : m.callback hook with
  | none => exact .done h
  | some cb =>
    have hspares : HookFn.Ensures (fun _ => True) (Sparing Aborted) NoChunk cb := hm hook cb hcb
    exact .turn (fun s => (hspares m.inst f.ctx s h trivial).2)
      fun s => .done (hspares m.inst f.ctx s h trivial).1

theorem connectRound_waits (hm : SparesTcp m) (h : NoChunk f.ctx) :
    (TcpFlow.connectRound f m).Waits Aborted (fun f => NoChunk f.ctx) (initCallbacks m) :=
  (call_waits hm .onRoute h).bind fun _ h => call_waits hm .onConnect h

/-- The first callback of this plugin that a new connection comes to aborts the process. -/
theorem connectRound_noop (h : NoChunk f.ctx) :
    ∃ calls : ProcessState V → List (Call TcpHook (PluginTcpModule (ProcessState V)) TCPContext
      (ProcessState V)), TcpFlow.connectRound f buildTcpModule =
        .turn (fun s => { s with aborted := true }) fun s => .done ⟨f.ctx, calls s⟩ := by
  have hchunk : f.ctx.chunk = none := h
  have hevent : ∀ s : ProcessState V,
      exampleOnTcpEvent 0 f.ctx s = (.ok {}, f.ctx, { s with aborted := true }) := by
    intro s
    unfold exampleOnTcpEvent
    rw [hchunk]
  have hconnect : ∃ calls : ProcessState V → List (Call TcpHook (PluginTcpModule (ProcessState V))
      TCPContext (ProcessState V)), TcpFlow.connectRound f buildTcpModule =
      .turn (fun s => (exampleOnTcpEvent 0 f.ctx s).2.2)
        fun s => .done ⟨(exampleOnTcpEvent 0 f.ctx s).2.1, calls s⟩ := ⟨_, rfl⟩
  obtain ⟨calls, hconnect⟩ := hconnect
  refine ⟨calls, ?_⟩
  rw [hconnect]
  simp only [hevent]

theorem connectRound_keeping (hm : m = buildTcpModule ∨ SparesTcp m) (h : NoChunk f.ctx) :
    (TcpFlow.connectRound f m).Ensures (fun _ => True) (Keeping Aborted) fun f => NoChunk f.ctx := by
  rcases hm with rfl | hspares
  · obtain ⟨calls, hround⟩ := connectRound_noop h
    rw [hround]
    exact .turn (fun _ _ _ => rfl) fun _ _ => .done h
  · exact (connectRound_waits hspares h).ensures.keeping

/-- A new connection aborts the process behind the callbacks of the modules before this one. -/
theorem connectionInit_fuse {hooks : PluginProxyHooks (ProcessState V)}
    {pre post : List (PluginTcpModule (ProcessState V))}
    (hms : hooks.tcpModules = pre ++ buildTcpModule :: post) (hpre : ∀ m ∈ pre, SparesTcp m)
    (hpost : ∀ m ∈ post, m = buildTcpModule ∨ SparesTcp m) (h : NoChunk f.ctx) :
    (TcpFlow.connectionInit hooks f).Fuse Aborted (pre.map initCallbacks).sum := by
  rw [TcpFlow.connectionInit, hms, List.foldlM_append]
  have hwaits := Task.Waits.foldlM (fun m hm _ h => connectRound_waits (hpre m hm) h) h
  refine hwaits.bind_fuse (n := 0) ?_
  intro f h
  obtain ⟨calls, hround⟩ := connectRound_noop h
  rw [List.foldlM_cons, hround, Task.turn_bind]
  refine .fire (fun s => rfl) fun s => ?_
  rw [Task.done_bind]
  have hleft : NoChunk (⟨f.ctx, calls s⟩ : TcpFlow (ProcessState V)).ctx := h
  exact (Task.Ensures.foldlM (fun m hm _ h => connectRound_keeping (hpost m hm) h) hleft).forget

end Connections

/-- A connection over a stream that has a local address. -/
def IsConnection (client : Client) : Prop :=
  ∃ io addr, client = .connection io ∧ io.localAddr = .ok addr

/-- The fuse of a client's task, if the callbacks before this plugin's are `n`. -/
def fuse (n : ℕ) : Client → Option ℕ
  | .connection io => io.localAddr.toOption.map fun _ => n
  | .request _ => none
  | .socket _ => none

theorem fuse_eq_some_iff {n k : ℕ} {client : Client} :
    fuse n client = some k ↔ IsConnection client ∧ n = k := by
  unfold fuse IsConnection
  cases client with
  | request _ => simp
  | socket _ => simp
  | connection io =>
    cases haddr : io.localAddr with
    | error e => simp [Except.toOption, haddr]
    | ok addr => simp [Except.toOption, haddr]

/-- If anything aborts the process, it is this plugin; and the other modules do not drive it to that: they
take no request out of an HTTP context and put no chunk into a TCP context. -/
structure OnlyNoopAborts (hooks : PluginProxyHooks (ProcessState V)) : Prop where
  http : ∀ m ∈ hooks.httpModules, m = buildHttpModule ∨ SparesHttp m
  tcp : ∀ m ∈ hooks.tcpModules, m = buildTcpModule ∨ SparesTcp m
  udp : ∀ m ∈ hooks.udpModules, m = buildUdpModule ∨ SparesUdp m

section Traffic

variable {hooks : PluginProxyHooks (ProcessState V)} {pre post : List (PluginTcpModule (ProcessState V))}

theorem connectionTask_fuse (honly : OnlyNoopAborts hooks)
    (htcp : hooks.tcpModules = pre ++ buildTcpModule :: post) (hfirst : buildTcpModule ∉ pre)
    (net : StdNet) {io : TcpIo} {addr : SocketAddr} (haddr : io.localAddr = .ok addr) :
    (connectionTask net hooks io).Fuse Aborted (pre.map initCallbacks).sum := by
  have hmem : ∀ m ∈ pre ++ buildTcpModule :: post, m = buildTcpModule ∨ SparesTcp m :=
    htcp ▸ honly.tcp
  have hpre : ∀ m ∈ pre, SparesTcp m := by
    intro m hm
    rcases hmem m (List.mem_append_left _ hm) with rfl | hspares
    · exact absurd hm hfirst
    · exact hspares
  have hpost : ∀ m ∈ post, m = buildTcpModule ∨ SparesTcp m :=
    fun m hm => hmem m (List.mem_append_right _ (List.mem_cons_of_mem _ hm))
  have hstart : NoChunk (TcpProxyService.startCtx net io.connectionId addr) :=
    contexts_hostMade.connection net io.connectionId addr
  have hinit := connectionInit_fuse htcp hpre hpost
    (f := ⟨TcpProxyService.startCtx net io.connectionId addr, []⟩) hstart
  unfold connectionTask
  rw [haddr]
  exact hinit.bind fun _ => .done trivial

/-- The other clients leave the process as it is. -/
theorem clientTask_spares (honly : OnlyNoopAborts hooks) (env : HttpEnv) {client : Client}
    (h : ¬ IsConnection client) :
    (clientTask env hooks client).Ensures (fun _ => True) (Sparing Aborted) fun _ => True := by
  cases client with
  | request arrival =>
    have hms : ∀ m ∈ hooks.httpModules, SparesHttp m := by
      intro m hm
      rcases honly.http m hm with rfl | hspares
      · exact buildHttpModule_spares
      · exact hspares
    exact (Flow.Keeps.serveTask env hms contexts_hostMade.http _ _).ensures.bind
      fun _ _ => .done trivial
  | connection io =>
    cases haddr : io.localAddr with
    | error e =>
      show (connectionTask env.net hooks io >>= _).Ensures _ _ _
      rw [connectionTask, haddr]
      exact .done trivial
    | ok addr => exact absurd ⟨io, addr, rfl, haddr⟩ h
  | socket io =>
    have hms : ∀ m ∈ hooks.udpModules, SparesUdp m := by
      intro m hm
      rcases honly.udp m hm with rfl | hspares
      · exact buildUdpModule_spares
      · exact hspares
    exact (socketTask_ensures contexts_hostMade hms env.net io).ensures.bind fun _ _ => .done trivial

theorem traffic_fused (honly : OnlyNoopAborts hooks)
    (htcp : hooks.tcpModules = pre ++ buildTcpModule :: post) (hfirst : buildTcpModule ∉ pre)
    {ι : Type} (env : HttpEnv) (clients : ι → Client) (s : ProcessState V) :
    (traffic env hooks clients s).Fused Aborted
      fun i => fuse (pre.map initCallbacks).sum (clients i) := by
  refine ⟨fun i hi => clientTask_spares honly env ?_, fun i n hn => ?_⟩
  · intro hconnection
    have hfuse : fuse (pre.map initCallbacks).sum (clients i) = some _ :=
      fuse_eq_some_iff.mpr ⟨hconnection, rfl⟩
    rw [hi] at hfuse
    cases hfuse
  · obtain ⟨⟨io, addr, hclient, haddr⟩, rfl⟩ := fuse_eq_some_iff.mp hn
    show (clientTask env hooks (clients i)).Fuse Aborted _
    rw [hclient]
    exact (connectionTask_fuse honly htcp hfirst env.net haddr).bind fun _ => .done trivial

end Traffic

/-! ## From the start on -/

/-- The TCP module of the plugin gets into the chain. -/
theorem buildTcpModule_mem {p : Process (ProcessState V)} {cli : Cli} {s : ProcessState V}
    {runtime : Runtime (ProcessState V)} {host : Host (ProcessState V)}
    (hstart : p.start cli s = (.ok runtime, host)) {plugin : LoadedPlugin (ProcessState V)}
    (hplugin : plugin ∈ runtime.plugins) (hroot : plugin.root = getLibrary) :
    buildTcpModule ∈ (PluginProxyHooks.fromLoaded runtime.plugins).tcpModules := by
  obtain ⟨-, hload⟩ := Process.start_ok hstart
  obtain ⟨found, left, hat⟩ := loadedAt_of_loadPlugins hload plugin hplugin
  obtain ⟨t, -, -, hvetted⟩ := hat.vetted
  have hmade := hvetted.tcp
  rw [hroot] at hmade
  have hmodule : plugin.modules.tcp = some buildTcpModule := by
    generalize plugin.modules.tcp = module at hmade
    cases hmade with
    | made hmake _ =>
      cases hmake
      rfl
  have hmem : buildTcpModule ∈ runtime.plugins.filterMap (·.modules.tcp) :=
    List.mem_filterMap.mpr ⟨plugin, hplugin, hmodule⟩
  exact (sortByKey_perm _ _).mem_iff.mpr hmem

/-- **What aborts the process.** If the process has started with this plugin, and the other modules neither
abort it nor take requests or put chunks where this plugin looks for them, then whatever requests,
connections and sockets it serves at the same time, it is aborted as soon as some connection has had one
turn more than the modules before this plugin's have callbacks for a new connection, and not earlier. -/
theorem aborted_iff {p : Process (ProcessState V)} {cli : Cli} {s : ProcessState V}
    {runtime : Runtime (ProcessState V)} {host : Host (ProcessState V)}
    (hstart : p.start cli s = (.ok runtime, host)) {plugin : LoadedPlugin (ProcessState V)}
    (hplugin : plugin ∈ runtime.plugins) (hroot : plugin.root = getLibrary)
    (honly : OnlyNoopAborts (.fromLoaded runtime.plugins)) :
    ∃ pre post, (PluginProxyHooks.fromLoaded runtime.plugins).tcpModules =
        pre ++ buildTcpModule :: post ∧ buildTcpModule ∉ pre ∧
      ∀ (ι : Type) [DecidableEq ι] (env : HttpEnv) (clients : ι → Client) (schedule : List ι),
        Aborted ((traffic env (.fromLoaded runtime.plugins) clients host.world).after schedule).world ↔
          Aborted host.world ∨
            ∃ i, IsConnection (clients i) ∧ (pre.map initCallbacks).sum < schedule.count i := by
  obtain ⟨pre, post, htcp, hfirst⟩ :=
    List.eq_append_cons_of_mem (buildTcpModule_mem hstart hplugin hroot)
  refine ⟨pre, post, htcp, hfirst, ?_⟩
  intro ι _ env clients schedule
  have hfused := traffic_fused honly htcp hfirst env clients host.world
  have hburnt : Pool.Burnt (fun i => fuse (pre.map initCallbacks).sum (clients i)) schedule ↔
      ∃ i, IsConnection (clients i) ∧ (pre.map initCallbacks).sum < schedule.count i := by
    constructor
    · rintro ⟨i, n, hn, hcount⟩
      obtain ⟨hconnection, rfl⟩ := fuse_eq_some_iff.mp hn
      exact ⟨i, hconnection, hcount⟩
    · rintro ⟨i, hconnection, hcount⟩
      exact ⟨i, _, fuse_eq_some_iff.mpr ⟨hconnection, rfl⟩, hcount⟩
  rw [hfused.after_iff schedule, hburnt]
  rfl

/-- A module that routes every connection. -/
def tcpRouter : PluginTcpModule (ProcessState Unit) :=
  { PluginTcpModule.default with
    onRoute := some fun _ ctx s =>
      (.ok ⟨.replace⟩, { ctx with metadata := { ctx.metadata with route := Plain.route } }, s) }

theorem tcpRouter_spares : SparesTcp tcpRouter := by
  intro hook cb hcb inst ctx s hctx _
  cases hook
  case onRoute =>
    obtain rfl := Option.some.inj hcb
    exact ⟨hctx, Iff.rfl⟩
  all_goals cases hcb

def routerLibrary : PluginRootModule (ProcessState Unit) where
  manifest := ⟨"router".toList, ⟨0, 1, 0⟩⟩
  createHttp := none
  createTcp := some fun s => (.ok tcpRouter, s)
  createUdp := none

/-- A process with the two plugins. -/
def routedProcess : Process (ProcessState Unit) where
  vars := [⟨"VAKIL_PLUGIN_PATHS".toList, "noop.so;router.so".toList⟩]
  readToString _ := none
  fs := oneFile
  net := .loopback
  dlopen path s :=
    (.ok ⟨.ok fun s => (if path = "noop.so".toList then getLibrary else routerLibrary, s)⟩, s)
  parent _ := none

theorem routedProcess_chain : ∃ runtime host,
    routedProcess.start ⟨none⟩ ⟨(), false⟩ = (.ok runtime, host) ∧
      (∃ plugin ∈ runtime.plugins, plugin.root = getLibrary) ∧
      PluginProxyHooks.fromLoaded runtime.plugins =
        ⟨[buildHttpModule], [tcpRouter, buildTcpModule], [buildUdpModule]⟩ :=
  ⟨_, _, rfl, ⟨_, List.mem_cons_self, rfl⟩, rfl⟩

theorem aborted_iff_routed : ∃ runtime host, ∃ pre : List (PluginTcpModule (ProcessState Unit)),
    routedProcess.start ⟨none⟩ ⟨(), false⟩ = (.ok runtime, host) ∧ buildTcpModule ∉ pre ∧
      ∀ (clients : Bool → Client) (schedule : List Bool),
        Aborted ((traffic Plain.env (.fromLoaded runtime.plugins) clients host.world).after
          schedule).world ↔ Aborted host.world ∨
            ∃ i, IsConnection (clients i) ∧ (pre.map initCallbacks).sum < schedule.count i := by
  obtain ⟨runtime, host, hstart, ⟨plugin, hplugin, hroot⟩, hchain⟩ := routedProcess_chain
  have honly : OnlyNoopAborts (.fromLoaded runtime.plugins) := by
    rw [hchain]
    refine ⟨fun m hm => .inl (List.mem_singleton.mp hm), fun m hm => ?_,
      fun m hm => .inl (List.mem_singleton.mp hm)⟩
    rcases List.mem_cons.mp hm with rfl | hm
    · exact .inr tcpRouter_spares
    · exact .inl (List.mem_singleton.mp hm)
  obtain ⟨pre, post, -, hfirst, hiff⟩ := aborted_iff hstart hplugin hroot honly
  exact ⟨runtime, host, pre, hstart, hfirst, hiff Bool Plain.env⟩

end Vakil.ExampleNoop
