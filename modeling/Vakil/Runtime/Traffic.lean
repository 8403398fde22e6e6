import Vakil.Runtime.L4
import Vakil.Runtime.Server

/-!
# What the process serves at the same time

The TCP server (`run_tcp_server`) serves every connection that it accepts in a task of its own, the UDP
server (`run_udp_server`) its socket in one task; the proxy library does so with requests. All of them
share the plugins and their state. As with requests, every call of a callback is a turn of the task, and an
`L4Flow` is what belongs to one connection or socket alone.
-/

namespace Vakil

open ForLoop Tasks

variable {W : Type}

structure L4Flow (κ μ C W : Type) where
  ctx : C
  calls : List (Call κ μ C W)

abbrev TcpFlow (W : Type) := L4Flow TcpHook (PluginTcpModule W) TCPContext W

abbrev UdpFlow (W : Type) := L4Flow UdpHook (PluginUdpModule W) UDPContext W

/-- Invoke a callback, if the module has it, and ignore its result. -/
def L4Flow.call {κ μ C : Type} (hook : κ) (m : μ) (inst : PluginInstance) (cb : Option (HookFn C W))
    (f : L4Flow κ μ C W) : Task W (L4Flow κ μ C W) :=
  match cb with
  | none => return f
  | some cb => .turn (fun w => (cb inst f.ctx w).2.2) fun w =>
    let (result, ctx, w') := cb inst f.ctx w
    .done ⟨ctx, f.calls ++ [⟨hook, m, f.ctx, result, ctx, w'⟩]⟩

/-! ## Connections -/

namespace TcpFlow

def run (hook : TcpHook) (m : PluginTcpModule W) (f : TcpFlow W) : Task W (TcpFlow W) :=
  f.call hook m m.inst (m.callback hook)

/-- `on_route` and `on_connect` of one module. -/
def connectRound (f : TcpFlow W) (m : PluginTcpModule W) : Task W (TcpFlow W) := do
  let f ← TcpFlow.run .onRoute m f
  TcpFlow.run .onConnect m f

def connectionInit (hooks : PluginProxyHooks W) (f : TcpFlow W) : Task W (TcpFlow W) :=
  hooks.tcpModules.foldlM connectRound f

end TcpFlow

/-- A connection that has been served. -/
structure Connected (W : Type) where
  result : Except AnyhowError Unit
  calls : List (Call TcpHook (PluginTcpModule W) TCPContext W)

/-- A connection as a task. The context that the service routes by is its own, which starts without an
upstream and is not given to any callback; so the connection ends behind the init hook. -/
def connectionTask (net : StdNet) (hooks : PluginProxyHooks W) (io : TcpIo) :
    Task W (Connected W) :=
  match io.localAddr with
  | .error e => return ⟨.error (.io e), []⟩
  | .ok addr => do
    let f ← TcpFlow.connectionInit hooks ⟨TcpProxyService.startCtx net io.connectionId addr, []⟩
    return ⟨.error .noUpstream, f.calls⟩

/-! ## Sockets -/

namespace UdpFlow

/-- The callbacks of one hook, of all modules in order. -/
def runAll (hooks : PluginProxyHooks W) (hook : UdpHook) (f : UdpFlow W) : Task W (UdpFlow W) :=
  hooks.udpModules.foldlM (fun f m => f.call hook m m.inst (m.callback hook)) f

end UdpFlow

/-- The receive loop: its flow, and what it has sent. -/
structure Receiving (W : Type) where
  flow : UdpFlow W
  sent : List (SocketAddr × Bytes)

/-- One turn of the receive loop, as in `UdpProxyService.datagramRound`. -/
def Receiving.datagramRound (net : StdNet) (hooks : PluginProxyHooks W) (udpCtx : UDPContext)
    (io : UdpIoRound) (r : Receiving W) :
    Task W (Step (Receiving W) (Outcome AnyhowError Unit)) :=
  match io.recv with
  | .error e => return .stop (.err (.io e)) r
  | .ok (payload, peer) =>
    let data := payload.take UdpProxyService.bufLen
    if data.length = 0 then return .stop (.ok ()) r
    else do
      let ctx := UdpProxyService.withDatagram net r.flow.ctx data peer
      let flow ← UdpFlow.runAll hooks .onDatagram { r.flow with ctx }
      match udpCtx.metadata.route.upstreamToSet with
      | none => return .stop (.err .noUpstream) { r with flow }
      | some upstreamAddr =>
        if io.sendFails then return .stop .panic { r with flow }
        else return .next ⟨flow, r.sent ++ [(upstreamAddr.toSocketAddr net, data)]⟩

/-- A socket that has been served, or is waiting for what comes next. -/
structure Received (W : Type) where
  result : Option (Outcome AnyhowError Unit)
  calls : List (Call UdpHook (PluginUdpModule W) UDPContext W)
  sent : List (SocketAddr × Bytes)

/-- A socket as a task. -/
def socketTask (net : StdNet) (hooks : PluginProxyHooks W) (io : UdpIo) : Task W (Received W) :=
  match io.localAddr with
  | .error _ => return ⟨some .panic, [], []⟩
  | .ok addr => do
    let udpCtx := UdpProxyService.startCtx net io.connectionId addr
    let session ← UdpFlow.runAll hooks .onSessionStart ⟨udpCtx, []⟩
    match ← Task.forEach (Receiving.datagramRound net hooks udpCtx) io.rounds
      ⟨{ session with ctx := udpCtx }, []⟩ with
    | .next r => return ⟨none, r.flow.calls, r.sent⟩
    | .stop (.err e) r => return ⟨some (.err e), r.flow.calls, r.sent⟩
    | .stop .panic r => return ⟨some .panic, r.flow.calls, r.sent⟩
    | .stop (.ok ()) r => do
      let flow ← UdpFlow.runAll hooks .onSessionEnd r.flow
      return ⟨some (.ok ()), flow.calls, r.sent⟩

/-! ## All together -/

inductive Client where
  | request (arrival : Arrival)
  | connection (io : TcpIo)
  | socket (io : UdpIo)

inductive Handled (W : Type) where
  | request (served : Served W)
  | connection (connected : Connected W)
  | socket (received : Received W)

def clientTask (env : HttpEnv) (hooks : PluginProxyHooks W) : Client → Task W (Handled W)
  | .request arrival => do
    let served ← serveTask env hooks arrival.exchange arrival.session
    return .request served
  | .connection io => do
    let connected ← connectionTask env.net hooks io
    return .connection connected
  | .socket io => do
    let received ← socketTask env.net hooks io
    return .socket received

/-- The clients, before any of them has had a turn. -/
def traffic {ι : Type} (env : HttpEnv) (hooks : PluginProxyHooks W) (clients : ι → Client) (w : W) :
    Pool ι W (Handled W) where
  tasks i := clientTask env hooks (clients i)
  world := w

end Vakil
