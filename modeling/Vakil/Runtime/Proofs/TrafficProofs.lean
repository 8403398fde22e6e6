import Vakil.Runtime.Traffic
import Vakil.Runtime.Proofs.InterleavingProofs

/-!
# Proofs: requests, connections and sockets together

The task of a connection or a socket, run on a state of which the plugins see a part, is the service
behind the chain hooks, with the plugins' callbacks put behind that view. So whatever the process serves at
the same time, everything is served as it would be alone, by plugins that find the worlds that its own
callbacks found (`traffic_replays`).
-/

namespace Vakil

open ForLoop Tasks

variable {V W : Type}

/-! ## Callbacks -/

namespace L4Flow

variable {κ μ μ' C : Type}

/-- The flow in the state `v` is the state of a hook chain whose modules are `lift`ed. -/
structure Shows (view : View V W) (lift : μ → μ') (v : V) (f : L4Flow κ μ C W)
    (s : C × PluginState κ μ' C V) : Prop where
  ctx : s.1 = f.ctx
  world : s.2.world = v
  calls : List.Forall₂ (Call.Through view lift) f.calls s.2.calls

variable {view : View V W} {lift : μ → μ'} {v : V} {f : L4Flow κ μ C W} {s : C × PluginState κ μ' C V}

theorem Shows.start (view : View V W) (lift : μ → μ') (v : V) (ctx : C) :
    Shows view lift v (⟨ctx, []⟩ : L4Flow κ μ C W) (ctx, ⟨v, []⟩) := ⟨rfl, rfl, .nil⟩

theorem Shows.withCtx (h : f.Shows view lift v s) (ctx : C) :
    Shows view lift v { f with ctx } (ctx, s.2) := ⟨rfl, h.world, h.calls⟩

theorem Shows.call (h : f.Shows view lift v s) (hook : κ) (m : μ) (inst : PluginInstance)
    (cb : Option (HookFn C W)) :
    Shows view lift ((f.call hook m inst cb).runOn view v).2 ((f.call hook m inst cb).runOn view v).1
      (s.2.callIgnored hook (lift m) inst (cb.map (HookFn.through view)) s.1) := by
  cases cb with
  | none => exact h
  | some cb =>
    have hcall : HookFn.through view cb inst s.1 s.2.world =
        ((cb inst f.ctx (view.get v)).1, (cb inst f.ctx (view.get v)).2.1,
          view.put v (cb inst f.ctx (view.get v)).2.2) := by
      rw [h.ctx, h.world]
      rfl
    have hresult := congrArg (·.1) hcall
    have hctx := congrArg (·.2.1) hcall
    have hworld := congrArg (·.2.2) hcall
    refine ⟨hctx, hworld, List.rel_append h.calls (.cons ?_ .nil)⟩
    exact ⟨rfl, rfl, h.ctx, hresult, hctx, v, hworld⟩

end L4Flow

theorem PluginUdpModule.through_callback (view : View V W) (m : PluginUdpModule W) (hook : UdpHook) :
    (m.through view).callback hook = (m.callback hook).map (HookFn.through view) := by
  cases hook <;> rfl

abbrev TcpFlow.Shows (view : View V W) (v : V) (f : TcpFlow W) (s : TCPContext × TcpPlugins V) : Prop :=
  L4Flow.Shows view (PluginTcpModule.through view) v f s

abbrev UdpFlow.Shows (view : View V W) (v : V) (f : UdpFlow W) (s : UDPContext × UdpPlugins V) : Prop :=
  L4Flow.Shows view (PluginUdpModule.through view) v f s

variable {view : View V W} {v : V}

/-! ## Connections -/

theorem TcpFlow.connectionInit_runOn (hooks : PluginProxyHooks W) {f : TcpFlow W}
    {s : TCPContext × TcpPlugins V} (h : TcpFlow.Shows view v f s) :
    TcpFlow.Shows view ((TcpFlow.connectionInit hooks f).runOn view v).2
      ((TcpFlow.connectionInit hooks f).runOn view v).1
      ((hooks.through view).tcpConnectionInit s.1 s.2).2 :=
  Task.runOn_foldlM view (R := TcpFlow.Shows view) (g := PluginTcpModule.through view)
    (f := TcpFlow.connectRound) (k := fun s m => runTcp .onConnect m (runTcp .onRoute m s))
    (fun m f v s h => by
      have hroute := h.call .onRoute m m.inst (m.callback .onRoute)
      have hconnect := hroute.call .onConnect m m.inst (m.callback .onConnect)
      rw [TcpFlow.connectRound, Task.runOn_bind]
      exact hconnect) hooks.tcpModules h

/-- The connection ended as the service's run did, whose plugins are behind a view. -/
structure Connected.EndsAs (view : View V W) (connected : Connected W) (run : TcpRun (TcpPlugins V)) :
    Prop where
  result : run.result = some connected.result
  calls : List.Forall₂ (Call.Through view (PluginTcpModule.through view)) connected.calls run.hooks.calls

/-- **A connection alone** is served as the TCP service serves it. -/
theorem connectionTask_runOn (view : View V W) (net : StdNet) (hooks : PluginProxyHooks W) (io : TcpIo)
    (v : V) : ((connectionTask net hooks io).runOn view v).1.EndsAs view
      (TcpProxyService.serve net (hooks.through view).tcpHooks io ⟨v, []⟩) := by
  unfold connectionTask
  cases haddr : io.localAddr with
  | error e =>
    unfold TcpProxyService.serve
    rw [haddr]
    exact ⟨rfl, .nil⟩
  | ok addr =>
    set ctx := TcpProxyService.startCtx net io.connectionId addr with hctx
    have hinit := TcpFlow.connectionInit_runOn hooks
      (L4Flow.Shows.start view (PluginTcpModule.through view) v ctx)
    have hserve : TcpProxyService.serve net (hooks.through view).tcpHooks io ⟨v, []⟩ =
        { result := some (.error .noUpstream)
          hooks := ((hooks.through view).tcpConnectionInit ctx ⟨v, []⟩).2.2 } := by
      unfold TcpProxyService.serve
      rw [haddr]
      rfl
    rw [hserve]
    dsimp only
    rw [Task.runOn_bind]
    exact ⟨rfl, hinit.calls⟩

/-! ## Sockets -/

theorem UdpFlow.runAll_runOn (hooks : PluginProxyHooks W) (hook : UdpHook) {f : UdpFlow W}
    {s : UDPContext × UdpPlugins V} (h : UdpFlow.Shows view v f s) :
    UdpFlow.Shows view ((UdpFlow.runAll hooks hook f).runOn view v).2
      ((UdpFlow.runAll hooks hook f).runOn view v).1
      ((hooks.through view).udpModules.foldl (fun s m => runUdp hook m s) s) :=
  Task.runOn_foldlM view (R := UdpFlow.Shows view) (g := PluginUdpModule.through view)
    (f := fun (f : UdpFlow W) m => f.call hook m m.inst (m.callback hook))
    (k := fun s m => runUdp hook m s) (fun m f v s h => by
      rw [runUdp, PluginUdpModule.through_callback]
      exact h.call hook m m.inst (m.callback hook)) hooks.udpModules h

/-- The receive loop in the state `v` is the loop of the service. -/
structure Receiving.Shows (view : View V W) (v : V) (r : Receiving W) (l : UdpLoop (UdpPlugins V)) :
    Prop where
  flow : UdpFlow.Shows view v r.flow (l.currCtx, l.hooks)
  sent : r.sent = l.datagrams.flatMap (·.sent)

theorem Receiving.datagramRound_runOn (net : StdNet) (hooks : PluginProxyHooks W) (udpCtx : UDPContext)
    (io : UdpIoRound) {r : Receiving W} {l : UdpLoop (UdpPlugins V)} (h : r.Shows view v l) :
    Step.Rel (Receiving.Shows view ((Receiving.datagramRound net hooks udpCtx io r).runOn view v).2)
      ((Receiving.datagramRound net hooks udpCtx io r).runOn view v).1
      (UdpProxyService.datagramRound net (hooks.through view).udpHooks udpCtx io l) := by
  unfold Receiving.datagramRound UdpProxyService.datagramRound
  cases io.recv with
  | error e => exact .stop _ h
  | ok received =>
    obtain ⟨payload, peer⟩ := received
    dsimp only
    by_cases hdata : (payload.take UdpProxyService.bufLen).length = 0
    · rw [if_pos hdata, if_pos hdata]
      exact .stop _ h
    · rw [if_neg hdata, if_neg hdata]
      have hctx : l.currCtx = r.flow.ctx := h.flow.ctx
      rw [hctx]
      set seen := UdpProxyService.withDatagram net r.flow.ctx
        (payload.take UdpProxyService.bufLen) peer with hseen
      have hrun := UdpFlow.runAll_runOn hooks .onDatagram (h.flow.withCtx seen)
      rw [Task.runOn_bind]
      generalize (UdpFlow.runAll hooks .onDatagram { r.flow with ctx := seen }).runOn view v = out
        at hrun ⊢
      obtain ⟨flow, v'⟩ := out
      have hhook : (hooks.through view).udpHooks.udpDatagramReceived seen l.hooks =
          (.ok (), (hooks.through view).udpModules.foldl (fun s m => runUdp .onDatagram m s)
            (seen, l.hooks)) := rfl
      rw [hhook]
      generalize (hooks.through view).udpModules.foldl (fun s m => runUdp .onDatagram m s)
        (seen, l.hooks) = left at hrun ⊢
      obtain ⟨left, plugins⟩ := left
      have hrecord : ∀ sent, Receiving.Shows view v' ⟨flow, r.sent ++ sent⟩ (l.record
          ⟨seen, l.hooks, .ok (), left, plugins, sent⟩) := by
        intro sent
        refine ⟨hrun, ?_⟩
        unfold UdpLoop.record
        rw [List.flatMap_append, List.flatMap_singleton, h.sent]
      have hunsent := hrecord []
      rw [List.append_nil] at hunsent
      dsimp only
      cases udpCtx.metadata.route.upstreamToSet with
      | none => exact .stop _ hunsent
      | some upstreamAddr =>
        dsimp only
        by_cases hfails : io.sendFails = true
        · rw [if_pos hfails, if_pos hfails]
          exact .stop _ hunsent
        · rw [if_neg hfails, if_neg hfails]
          exact .next (hrecord _)

/-- The socket was served as in the service's run, whose plugins are behind a view. -/
structure Received.EndsAs (view : View V W) (received : Received W) (run : UdpRun (UdpPlugins V)) :
    Prop where
  result : run.result = received.result
  calls : List.Forall₂ (Call.Through view (PluginUdpModule.through view)) received.calls run.hooks.calls
  sent : received.sent = run.datagrams.flatMap (·.sent)

/-- **A socket alone** is served as the UDP service serves it. -/
theorem socketTask_runOn (view : View V W) (net : StdNet) (hooks : PluginProxyHooks W) (io : UdpIo)
    (v : V) : ((socketTask net hooks io).runOn view v).1.EndsAs view
      (UdpProxyService.serve net (hooks.through view).udpHooks io ⟨v, []⟩) := by
  unfold socketTask UdpProxyService.serve
  cases io.localAddr with
  | error e => exact ⟨rfl, .nil, rfl⟩
  | ok addr =>
    dsimp only
    set udpCtx := UdpProxyService.startCtx net io.connectionId addr with hudpCtx
    have hsession := UdpFlow.runAll_runOn hooks .onSessionStart
      (L4Flow.Shows.start view (PluginUdpModule.through view) v udpCtx)
    rw [Task.runOn_bind]
    generalize (UdpFlow.runAll hooks .onSessionStart ⟨udpCtx, []⟩).runOn view v = out at hsession ⊢
    obtain ⟨session, v₁⟩ := out
    have hhook : (hooks.through view).udpHooks.udpSessionStart udpCtx ⟨v, []⟩ =
        (.ok (), (hooks.through view).udpModules.foldl (fun s m => runUdp .onSessionStart m s)
          (udpCtx, ⟨v, []⟩)) := rfl
    rw [hhook]
    generalize (hooks.through view).udpModules.foldl (fun s m => runUdp .onSessionStart m s)
      (udpCtx, ⟨v, []⟩) = left at hsession ⊢
    obtain ⟨left, plugins⟩ := left
    dsimp only
    have hshows : Receiving.Shows view v₁ ⟨{ session with ctx := udpCtx }, []⟩ ⟨udpCtx, plugins, []⟩ :=
      ⟨hsession.withCtx udpCtx, rfl⟩
    have hloop := Task.runOn_forEach view (R := Receiving.Shows view) (g := id)
      (fun io r v l h => Receiving.datagramRound_runOn net hooks udpCtx io h) io.rounds hshows
    rw [List.map_id] at hloop
    rw [Task.runOn_bind]
    generalize (Task.forEach (Receiving.datagramRound net hooks udpCtx) io.rounds
      ⟨{ session with ctx := udpCtx }, []⟩).runOn view v₁ = out at hloop ⊢
    obtain ⟨step, v₂⟩ := out
    rcases hloop.elim with ⟨r, l, hr, hl, h⟩ | ⟨result, r, l, hr, hl, h⟩
    · dsimp only at hr h
      rw [hl, hr]
      exact ⟨rfl, h.flow.calls, h.sent⟩
    · dsimp only at hr h
      rw [hl, hr]
      cases result with
      | err e => exact ⟨rfl, h.flow.calls, h.sent⟩
      | panic => exact ⟨rfl, h.flow.calls, h.sent⟩
      | ok u =>
        have hclose := UdpFlow.runAll_runOn hooks .onSessionEnd h.flow
        dsimp only
        rw [Task.runOn_bind]
        exact ⟨rfl, hclose.calls, h.sent⟩

/-! ## Everything that is served -/

/-- The client was served as the service for it serves it, with the plugins behind a view. -/
def Handled.EndsAs (view : View V W) (env : HttpEnv) (hooks : PluginProxyHooks W) (v : V) :
    Client → Handled W → Prop
  | .request arrival, .request served => served.EndsAs view
      (serveRequest env (hooks.through view) arrival.exchange arrival.session v)
  | .connection io, .connection connected => connected.EndsAs view
      (TcpProxyService.serve env.net (hooks.through view).tcpHooks io ⟨v, []⟩)
  | .socket io, .socket received => received.EndsAs view
      (UdpProxyService.serve env.net (hooks.through view).udpHooks io ⟨v, []⟩)
  | _, _ => False

theorem clientTask_runOn (view : View V W) (env : HttpEnv) (hooks : PluginProxyHooks W)
    (client : Client) (v : V) :
    Handled.EndsAs view env hooks v client ((clientTask env hooks client).runOn view v).1 := by
  cases client with
  | request arrival =>
    obtain ⟨hforwarded, hshows⟩ := serveTask_runOn view env hooks arrival.exchange arrival.session v
    unfold clientTask
    rw [Task.runOn_bind]
    exact ⟨hforwarded, hshows.session, hshows.ctx, hshows.calls⟩
  | connection io =>
    unfold clientTask
    rw [Task.runOn_bind]
    exact connectionTask_runOn view env.net hooks io v
  | socket io =>
    unfold clientTask
    rw [Task.runOn_bind]
    exact socketTask_runOn view env.net hooks io v

/-- **Everything is served as if alone.** Whatever the process serves at the same time, each request,
connection and socket ends as the service for it ends that runs alone, with plugins that find the worlds
that its own callbacks found. -/
theorem traffic_replays {ι : Type} [DecidableEq ι] {env : HttpEnv} {hooks : PluginProxyHooks W}
    {clients : ι → Client} {w : W} {schedule : List ι} {i : ι} {handled : Handled W}
    (h : ((traffic env hooks clients w).after schedule).tasks i = .done handled) :
    Handled.EndsAs (.replay w) env hooks (Pool.found i (traffic env hooks clients w) schedule)
      (clients i) handled := by
  rw [Pool.tasks_after] at h
  have hend : ((clientTask env hooks (clients i)).runOn (.replay w)
      (Pool.found i (traffic env hooks clients w) schedule)).1 = handled := Task.runOn_replay w h
  rw [← hend]
  exact clientTask_runOn (.replay w) env hooks (clients i) _

/-- A module that counts the connections. -/
def tallyTcp : PluginTcpModule ℕ :=
  { PluginTcpModule.default with onConnect := some fun _ ctx n => (.ok {}, ctx, n + 1) }

/-- A module that counts the datagrams. -/
def tallyUdp : PluginUdpModule ℕ :=
  { PluginUdpModule.default with onDatagram := some fun _ ctx n => (.ok {}, ctx, n + 1) }

def tallyHooks : PluginProxyHooks ℕ := ⟨[], [tallyTcp], [tallyUdp]⟩

/-- A request, a connection and a socket with one datagram. -/
def oneOfEach : Fin 3 → Client
  | 0 => .request ⟨Plain.exchange, Plain.session⟩
  | 1 => .connection ⟨⟨1⟩, .ok (.v4 localhost 9000), fun _ => .ok (), []⟩
  | 2 => .socket ⟨⟨2⟩, .ok (.v4 localhost 9000), [⟨.ok ([7], .v4 localhost 5000), false⟩]⟩

theorem traffic_replays_tally : ∃ handled,
    ((traffic Plain.env tallyHooks oneOfEach 3).after [1, 0, 2]).tasks 2 = .done handled ∧
      Handled.EndsAs (.replay 3) Plain.env tallyHooks
        (Pool.found 2 (traffic Plain.env tallyHooks oneOfEach 3) [1, 0, 2]) (oneOfEach 2) handled := by
  have hexists : ∃ handled,
      ((traffic Plain.env tallyHooks oneOfEach 3).after [1, 0, 2]).tasks 2 = .done handled := ⟨_, rfl⟩
  obtain ⟨handled, hhandled⟩ := hexists
  exact ⟨handled, hhandled, traffic_replays hhandled⟩

end Vakil
