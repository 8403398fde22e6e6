import Vakil.Runtime.Hooks
import Vakil.L4

/-!
# The L4 hook chains (`vakil_runtime::l4`)

`impl TcpProxyHooks for PluginProxyHooks` and `impl UdpProxyHooks for PluginProxyHooks`: every hook
runs its callbacks over all modules in order and drops what they return. `on_half_close` and the
UDP `on_route` are never run.
-/

namespace Vakil

inductive TcpHook where
  | onRoute
  | onConnect
  | onData
  | onHalfClose
  | onClose
deriving DecidableEq, Repr

inductive UdpHook where
  | onRoute
  | onDatagram
  | onSessionStart
  | onSessionEnd
deriving DecidableEq, Repr

variable {W : Type}

def PluginTcpModule.callback (m : PluginTcpModule W) : TcpHook → Option (TcpHookFn W)
  | .onRoute => m.onRoute
  | .onConnect => m.onConnect
  | .onData => m.onData
  | .onHalfClose => m.onHalfClose
  | .onClose => m.onClose

def PluginUdpModule.callback (m : PluginUdpModule W) : UdpHook → Option (UdpHookFn W)
  | .onRoute => m.onRoute
  | .onDatagram => m.onDatagram
  | .onSessionStart => m.onSessionStart
  | .onSessionEnd => m.onSessionEnd

/-- What the TCP hooks of a flow work on besides the context. -/
abbrev TcpPlugins (W : Type) := PluginState TcpHook (PluginTcpModule W) TCPContext W

@[inherit_doc TcpPlugins]
abbrev UdpPlugins (W : Type) := PluginState UdpHook (PluginUdpModule W) UDPContext W

def runTcp (hook : TcpHook) (m : PluginTcpModule W) (s : TCPContext × TcpPlugins W) :
    TCPContext × TcpPlugins W :=
  s.2.callIgnored hook m m.inst (m.callback hook) s.1

def runUdp (hook : UdpHook) (m : PluginUdpModule W) (s : UDPContext × UdpPlugins W) :
    UDPContext × UdpPlugins W :=
  s.2.callIgnored hook m m.inst (m.callback hook) s.1

namespace PluginProxyHooks

variable (hooks : PluginProxyHooks W)

def tcpConnectionInit (ctx : TCPContext) (p : TcpPlugins W) :
    Except AnyhowError Unit × TCPContext × TcpPlugins W :=
  (.ok (), hooks.tcpModules.foldl (fun s m => runTcp .onConnect m (runTcp .onRoute m s)) (ctx, p))

def tcpDataReceived (ctx : TCPContext) (p : TcpPlugins W) :
    Except AnyhowError Unit × TCPContext × TcpPlugins W :=
  (.ok (), hooks.tcpModules.foldl (fun s m => runTcp .onData m s) (ctx, p))

def tcpConnectionClose (ctx : TCPContext) (p : TcpPlugins W) :
    Except AnyhowError Unit × TCPContext × TcpPlugins W :=
  (.ok (), hooks.tcpModules.foldl (fun s m => runTcp .onClose m s) (ctx, p))

def udpSessionStart (ctx : UDPContext) (p : UdpPlugins W) :
    Except AnyhowError Unit × UDPContext × UdpPlugins W :=
  (.ok (), hooks.udpModules.foldl (fun s m => runUdp .onSessionStart m s) (ctx, p))

def udpDatagramReceived (ctx : UDPContext) (p : UdpPlugins W) :
    Except AnyhowError Unit × UDPContext × UdpPlugins W :=
  (.ok (), hooks.udpModules.foldl (fun s m => runUdp .onDatagram m s) (ctx, p))

def udpSessionClose (ctx : UDPContext) (p : UdpPlugins W) :
    Except AnyhowError Unit × UDPContext × UdpPlugins W :=
  (.ok (), hooks.udpModules.foldl (fun s m => runUdp .onSessionEnd m s) (ctx, p))

/-- `impl TcpProxyHooks for PluginProxyHooks`. -/
def tcpHooks : TcpProxyHooks (TcpPlugins W) where
  tcpConnectionInit := hooks.tcpConnectionInit
  tcpDataReceived := hooks.tcpDataReceived
  tcpConnectionClose := hooks.tcpConnectionClose

/-- `impl UdpProxyHooks for PluginProxyHooks`. -/
def udpHooks : UdpProxyHooks (UdpPlugins W) where
  udpSessionStart := hooks.udpSessionStart
  udpDatagramReceived := hooks.udpDatagramReceived
  udpSessionClose := hooks.udpSessionClose

end PluginProxyHooks

end Vakil
