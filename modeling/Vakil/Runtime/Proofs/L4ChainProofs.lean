import Vakil.Proofs.L4Proofs
import Vakil.Runtime.Proofs.DispatchProofs

/-!
# Proofs: the L4 chains behind the L4 services

The chain hooks never fail: what the callbacks return is dropped. The services route by their own
copy of the context, which no hook ever gets to change. So a routing decision takes effect only if it
is to have no upstream, and a verdict only if the modules and the context make it redundant.
-/

namespace Vakil

open ForLoop

variable {W : Type}

/-! ## TCP routing -/

/-- The connection goes to the upstream in the context `routed` that the init hook left, the
transfers and the close hook see its metadata, and only without an upstream does `serve` say so. -/
def TcpRoutingTakesEffect (net : StdNet) (routed : TCPContext) {σ : Type} (run : TcpRun σ) : Prop :=
  (∀ u, routed.metadata.route.upstreamToSet = some u →
    run.connects = [u.toSocketAddr net] ∧ ∀ ctx ∈ run.given, ctx.metadata = routed.metadata) ∧
  (run.result = some (.error .noUpstream) → routed.metadata.route.upstreamToSet = none)

/-- Behind the chain hooks a connection always ends without an upstream. -/
theorem TcpProxyService.serve_chain (net : StdNet) (hooks : PluginProxyHooks W) (id : ID)
    (addr : SocketAddr) (connect : SocketAddr → Except IoError Unit)
    (turns : List (FlowDirection × TransferIo)) (p : TcpPlugins W) :
    serve net hooks.tcpHooks ⟨id, .ok addr, connect, turns⟩ p =
      { result := some (.error .noUpstream)
        hooks := (hooks.tcpConnectionInit (startCtx net id addr) p).2.2 } := rfl

/-- **TCP routing takes effect** exactly if the chain chooses no upstream. -/
theorem tcpRoutingTakesEffect_iff (net : StdNet) (hooks : PluginProxyHooks W) (id : ID)
    (addr : SocketAddr) (connect : SocketAddr → Except IoError Unit)
    (turns : List (FlowDirection × TransferIo)) (p : TcpPlugins W) :
    TcpRoutingTakesEffect net
        (hooks.tcpConnectionInit (TcpProxyService.startCtx net id addr) p).2.1
        (TcpProxyService.serve net hooks.tcpHooks ⟨id, .ok addr, connect, turns⟩ p) ↔
      (hooks.tcpConnectionInit (TcpProxyService.startCtx net id addr) p).2.1.metadata.route.upstreamToSet
        = none := by
  rw [TcpProxyService.serve_chain]
  constructor
  · exact fun h => h.2 rfl
  · intro h
    refine ⟨?_, fun _ => h⟩
    intro u hu
    rw [h] at hu
    cases hu

/-- A TCP module that chooses the upstream in `on_route`. -/
def tcpRouter : PluginTcpModule Unit :=
  { PluginTcpModule.default with
    onRoute := some fun _ ctx w =>
      (.ok ⟨.replace⟩, { ctx with metadata := { ctx.metadata with route := Plain.route } }, w) }

/-- The upstream it chooses is not connected to. -/
theorem tcpRouter_ignored : ¬ TcpRoutingTakesEffect StdNet.loopback
    ((PluginProxyHooks.mk [] [tcpRouter] []).tcpConnectionInit
      (TcpProxyService.startCtx StdNet.loopback ⟨1⟩ (.v4 localhost 80)) ⟨(), []⟩).2.1
    (TcpProxyService.serve StdNet.loopback (PluginProxyHooks.mk [] [tcpRouter] []).tcpHooks
      ⟨⟨1⟩, .ok (.v4 localhost 80), fun _ => .ok (), []⟩ ⟨(), []⟩) := by
  intro h
  have hconnects := (h.1 Plain.upstream rfl).1
  exact absurd (congrArg List.length hconnects) (by decide)

/-! ## UDP forwarding -/

/-- A UDP module that chooses the upstream in `on_datagram`. -/
def udpRouter : PluginUdpModule Unit :=
  { PluginUdpModule.default with
    onDatagram := some fun _ ctx w =>
      (.ok {}, { ctx with metadata := { ctx.metadata with route := Plain.route } }, w) }

/-- The first error of the receiving socket. -/
def UdpIo.socketError (io : UdpIo) : Option IoError :=
  io.rounds.findSome? fun round =>
    match round.recv with
    | .error e => some e
    | .ok _ => none

/-- `serve` is running until the receiving socket fails, and then ends with that error. -/
def ServesUntilSocketError {σ : Type} (io : UdpIo) (run : UdpRun σ) : Prop :=
  run.result = io.socketError.map fun e => .err (.io e)

/-- Behind the chain hooks the first datagram ends `serve`: an empty one as if the session were over,
any other because the service's own context has no upstream. -/
theorem UdpProxyService.serve_chain_received (net : StdNet) (hooks : PluginProxyHooks W) (id : ID)
    (addr : SocketAddr) (payload : Bytes) (peer : SocketAddr) (sendFails : Bool)
    (rounds : List UdpIoRound) (p : UdpPlugins W) :
    (serve net hooks.udpHooks ⟨id, .ok addr, ⟨.ok (payload, peer), sendFails⟩ :: rounds⟩ p).result =
      some (if payload = [] then .ok () else .err .noUpstream) := by
  cases payload with
  | nil => rfl
  | cons b payload => rfl

theorem UdpProxyService.serve_chain_socketError (net : StdNet) (hooks : PluginProxyHooks W) (id : ID)
    (addr : SocketAddr) (e : IoError) (sendFails : Bool) (rounds : List UdpIoRound)
    (p : UdpPlugins W) :
    (serve net hooks.udpHooks ⟨id, .ok addr, ⟨.error e, sendFails⟩ :: rounds⟩ p).result =
      some (.err (.io e)) := rfl

/-- **The UDP service stays available** exactly if the socket is bound and nothing is received
before its first error. -/
theorem servesUntilSocketError_iff (net : StdNet) (hooks : PluginProxyHooks W) (io : UdpIo)
    (p : UdpPlugins W) :
    ServesUntilSocketError io (UdpProxyService.serve net hooks.udpHooks io p) ↔
      (∃ addr, io.localAddr = .ok addr) ∧
        ∀ round rounds, io.rounds = round :: rounds → ∃ e, round.recv = .error e := by
  obtain ⟨id, localAddr, rounds⟩ := io
  unfold ServesUntilSocketError
  cases localAddr with
  | error e =>
    have hpanic : (UdpProxyService.serve net hooks.udpHooks ⟨id, .error e, rounds⟩ p).result =
        some .panic := rfl
    rw [hpanic]
    constructor
    · intro h
      obtain ⟨e', -, he'⟩ := Option.map_eq_some_iff.mp h.symm
      cases he'
    · rintro ⟨⟨addr, haddr⟩, -⟩
      cases haddr
  | ok addr =>
    cases rounds with
    | nil => exact ⟨fun _ => ⟨⟨addr, rfl⟩, nofun⟩, fun _ => rfl⟩
    | cons round rounds =>
      obtain ⟨recv, sendFails⟩ := round
      cases recv with
      | error e =>
        rw [UdpProxyService.serve_chain_socketError]
        refine ⟨fun _ => ⟨⟨addr, rfl⟩, ?_⟩, fun _ => rfl⟩
        intro round rounds' hrounds
        cases hrounds
        exact ⟨e, rfl⟩
      | ok received =>
        obtain ⟨payload, peer⟩ := received
        rw [UdpProxyService.serve_chain_received]
        constructor
        · intro h
          obtain ⟨e, -, he⟩ := Option.map_eq_some_iff.mp h.symm
          split_ifs at he
          cases he
        · rintro ⟨-, h⟩
          obtain ⟨e, he⟩ := h _ _ rfl
          cases he

/-- A UDP module that chooses the upstream at the start of the session and for every datagram. -/
def udpSelector : PluginUdpModule Unit :=
  { udpRouter with onSessionStart := udpRouter.onDatagram }

def twoDatagrams : UdpIo where
  connectionId := ⟨1⟩
  localAddr := .ok (.v4 localhost 80)
  rounds := [⟨.ok ([7], .v4 localhost 5000), false⟩, ⟨.ok ([8], .v4 localhost 5001), false⟩]

/-- Every callback succeeds and selects an upstream, and still the first datagram ends the service
for all peers. -/
theorem udpSelector_stops :
    (∀ c ∈ (UdpProxyService.serve StdNet.loopback (PluginProxyHooks.mk [] [] [udpSelector]).udpHooks
        twoDatagrams ⟨(), []⟩).hooks.calls,
      ¬ HookResult.IsErr c.result ∧ c.left.metadata.route.upstreamToSet = some Plain.upstream) ∧
    ¬ ServesUntilSocketError twoDatagrams (UdpProxyService.serve StdNet.loopback
      (PluginProxyHooks.mk [] [] [udpSelector]).udpHooks twoDatagrams ⟨(), []⟩) := by
  constructor
  · intro c hc
    rcases List.mem_cons.mp hc with rfl | hc
    · exact ⟨id, rfl⟩
    · rw [List.mem_singleton.mp hc]
      exact ⟨id, rfl⟩
  · intro h
    cases h

/-! ## Verdicts -/

section Verdicts

variable {κ μ C : Type}

/-- After a callback that rejects, `nothing` is written, no later module is called, and for an error
the flow has `failed`. -/
def VerdictsHonoured (calls : List (Call κ μ C W)) (nothing failed : Prop) : Prop :=
  ∀ pre c post, calls = pre ++ c :: post → HookResult.Rejects c.result →
    nothing ∧ post = [] ∧ (HookResult.IsErr c.result → failed)

/-- No byte of a chunk is written after a rejection, no later module sees it, and an error fails the
hook and ends the transfer. -/
def TcpVerdictsHonoured (run : Step (Transfer (TcpPlugins W)) (Except AnyhowError Unit)) : Prop :=
  ∀ r ∈ run.state.chunks, VerdictsHonoured (r.hooksBefore.since r.hooksAfter) (r.output = [])
    (∃ e, r.outcome = .error e ∧ run.result = some (.error e))

/-- Nothing is sent for a datagram after a rejection, no later module sees it, and an error fails the
hook and ends `serve`. -/
def UdpVerdictsHonoured (run : UdpRun (UdpPlugins W)) : Prop :=
  ∀ r ∈ run.datagrams, VerdictsHonoured (r.hooksBefore.since r.hooksAfter) (r.sent = [])
    (∃ e, r.outcome = .error e ∧ run.result = some (.err e))

/-- A callback that rejects does so by `Drop`, it is the last of `turns` ones, and what it leaves
writes nothing. -/
def VerdictsHarmless (calls : List (Call κ μ C W)) (turns : Nat) (nothing : Prop) : Prop :=
  ∀ pre c post, calls = pre ++ c :: post → HookResult.Rejects c.result →
    ¬ HookResult.IsErr c.result ∧ pre.length + 1 = turns ∧ nothing

/-- Where every module has its turn and nothing ever fails, these are the same. -/
theorem verdictsHonoured_iff {calls : List (Call κ μ C W)} {turns : Nat}
    {nothing nothing' failed : Prop} (hturns : calls.length = turns) (hnothing : nothing ↔ nothing')
    (hfailed : ¬ failed) :
    VerdictsHonoured calls nothing failed ↔ VerdictsHarmless calls turns nothing' := by
  refine forall₅_congr ?_
  intro pre c post hsplit hrej
  have hlast : post = [] ↔ pre.length + 1 = turns := by
    rw [← hturns, hsplit, List.length_append, List.length_cons, ← List.length_eq_zero_iff]
    omega
  rw [hnothing, hlast]
  constructor
  · rintro ⟨hno, hturn, herr⟩
    exact ⟨fun h => hfailed (herr h), hturn, hno⟩
  · rintro ⟨herr, hturn, hno⟩
    exact ⟨hno, hturn, fun h => absurd h herr⟩

end Verdicts

theorem writeAll_eq_nil_iff (fails : Option (Nat × IoError)) (data : Bytes) :
    (writeAll fails data).2 = [] ↔ data = [] ∨ ∃ e, fails = some (0, e) := by
  unfold writeAll
  cases fails with
  | none => simp
  | some f =>
    obtain ⟨n, e⟩ := f
    dsimp only
    split
    · rename_i h
      refine ⟨.inl, ?_⟩
      rintro (h' | ⟨e', h'⟩)
      · exact h'
      · cases h'
        exact List.length_eq_zero_iff.1 (Nat.le_zero.1 h)
    · cases data <;> simp_all

/-- Nothing is due for a chunk that was cleared or emptied, or if the writer takes no byte. -/
theorem ChunkRecord.due_eq_nil_iff {σ : Type} (r : ChunkRecord σ) :
    r.due = [] ↔ ∀ data, r.left.chunk = some data →
      data = [] ∨ ∃ e, r.io.writeFails = some (0, e) := by
  unfold due
  cases r.left.chunk with
  | none => simp
  | some data => simp [writeAll_eq_nil_iff]

theorem tcpDataReceived_turns (hooks : PluginProxyHooks W) (ctx : TCPContext) (p : TcpPlugins W) :
    (p.since (hooks.tcpDataReceived ctx p).2.2).length =
      (hooks.tcpModules.filter fun m => m.onData.isSome).length :=
  Adds.since_length (Adds.foldl Prod.snd (fun s m =>
      Adds.callIgnored TcpHook.onData m m.inst m.onData s.1 s.2) hooks.tcpModules (ctx, p))
    ((tcpDispatch hooks).data ctx p)

theorem udpDatagramReceived_turns (hooks : PluginProxyHooks W) (ctx : UDPContext)
    (p : UdpPlugins W) :
    (p.since (hooks.udpDatagramReceived ctx p).2.2).length =
      (hooks.udpModules.filter fun m => m.onDatagram.isSome).length :=
  Adds.since_length (Adds.foldl Prod.snd (fun s m =>
      Adds.callIgnored UdpHook.onDatagram m m.inst m.onDatagram s.1 s.2) hooks.udpModules (ctx, p))
    ((udpDispatch hooks).datagram ctx p)

/-- What the data hook of the chain makes of a chunk of a transfer. -/
theorem ChunkRecord.Faithful.chain {hooks : PluginProxyHooks W}
    {r : ChunkRecord (TcpPlugins W)} (h : r.Faithful hooks.tcpHooks) :
    r.outcome = .ok () ∧ r.output = r.due ∧ (r.hooksBefore.since r.hooksAfter).length =
      (hooks.tcpModules.filter fun m => m.onData.isSome).length := by
  have hok : r.outcome = .ok () := (congrArg Prod.fst h.hook).symm
  have hafter : r.hooksAfter = (hooks.tcpDataReceived r.seen r.hooksBefore).2.2 :=
    (congrArg (fun x => x.2.2) h.hook).symm
  exact ⟨hok, h.output_ok hok, by rw [hafter, tcpDataReceived_turns]⟩

/-- What the datagram hook of the chain makes of a datagram. -/
theorem DatagramRecord.Faithful.chain {net : StdNet} {udpCtx : UDPContext}
    {hooks : PluginProxyHooks W} {r : DatagramRecord (UdpPlugins W)}
    (h : r.Faithful net hooks.udpHooks udpCtx) :
    r.outcome = .ok () ∧ (r.hooksBefore.since r.hooksAfter).length =
      (hooks.udpModules.filter fun m => m.onDatagram.isSome).length := by
  have hok : r.outcome = .ok () := (congrArg Prod.fst h.hook).symm
  have hafter : r.hooksAfter = (hooks.udpDatagramReceived r.seen r.hooksBefore).2.2 :=
    (congrArg (fun x => x.2.2) h.hook).symm
  exact ⟨hok, by rw [hafter, udpDatagramReceived_turns]⟩

/-- **L4 verdicts are honoured** exactly if no callback of the init hook rejects, and a data or
datagram callback rejects only by a `Drop` of the last module, with nothing left to write. -/
theorem l4_verdicts_honoured_iff (hooks : PluginProxyHooks W) :
    (∀ ctx p, ((∃ c ∈ p.since (hooks.tcpConnectionInit ctx p).2.2, HookResult.Rejects c.result) →
        ∃ e, (hooks.tcpConnectionInit ctx p).1 = .error e) ↔
      ∀ c ∈ p.since (hooks.tcpConnectionInit ctx p).2.2, ¬ HookResult.Rejects c.result) ∧
    (∀ direction ios ctx p,
      TcpVerdictsHonoured (tcpTransfer hooks.tcpHooks direction ios ⟨ctx, p, []⟩) ↔
      ∀ r ∈ (tcpTransfer hooks.tcpHooks direction ios ⟨ctx, p, []⟩).state.chunks,
        VerdictsHarmless (r.hooksBefore.since r.hooksAfter)
          (hooks.tcpModules.filter fun m => m.onData.isSome).length
          (∀ data, r.left.chunk = some data → data = [] ∨ ∃ e, r.io.writeFails = some (0, e))) ∧
    (∀ net io p,
      UdpVerdictsHonoured (UdpProxyService.serve net hooks.udpHooks io p) ↔
      ∀ r ∈ (UdpProxyService.serve net hooks.udpHooks io p).datagrams,
        VerdictsHarmless (r.hooksBefore.since r.hooksAfter)
          (hooks.udpModules.filter fun m => m.onDatagram.isSome).length True) := by
  refine ⟨?_, ?_, ?_⟩
  · intro ctx p
    constructor
    · intro h c hc hrej
      obtain ⟨e, he⟩ := h ⟨c, hc, hrej⟩
      cases he
    · rintro h ⟨c, hc, hrej⟩
      exact absurd hrej (h c hc)
  · intro direction ios ctx p
    refine forall₂_congr ?_
    intro r hr
    obtain ⟨hok, hout, hturns⟩ := (tcpTransfer_faithful hooks.tcpHooks direction ios
      (t := ⟨ctx, p, []⟩) (by simp) r hr).chain
    refine verdictsHonoured_iff hturns (by rw [hout, r.due_eq_nil_iff]) ?_
    rintro ⟨e, he, -⟩
    rw [hok] at he
    cases he
  · intro net io p
    refine forall₂_congr ?_
    intro r hr
    obtain ⟨addr, -, hfaithful⟩ := UdpProxyService.serve_faithful net hooks.udpHooks io p r hr
    obtain ⟨hok, hturns⟩ := hfaithful.chain
    refine verdictsHonoured_iff hturns
      (by simp [UdpProxyService.serve_never_sends net hooks.udpHooks io p r hr]) ?_
    rintro ⟨e, he, -⟩
    rw [hok] at he
    cases he

/-- A TCP module whose `on_data` fails. -/
def failingTcpModule : PluginTcpModule Unit :=
  { PluginTcpModule.default with onData := some fun _ ctx w => (.error ⟨none⟩, ctx, w) }

/-- The chunk for which it fails is written to the other side. -/
theorem failingTcpModule_ignored : ¬ TcpVerdictsHonoured
    (tcpTransfer (PluginProxyHooks.mk [] [failingTcpModule] []).tcpHooks .inbound
      [{ read := .ok [7] }]
      ⟨TcpProxyService.startCtx StdNet.loopback ⟨1⟩ (.v4 localhost 80), ⟨(), []⟩, []⟩) := by
  intro h
  have houtput := (h _ (List.mem_singleton.2 rfl) [] _ [] rfl trivial).1
  exact absurd (congrArg List.length houtput) (by decide)

end Vakil
