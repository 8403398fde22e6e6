import Vakil.PluginApi

/-!
# The example plugin for all protocols (`example-noop`)

The plugin logs every event that it is told of, and answers `GET /local-reply` itself. What it logs is
left out, but not that there may be nothing to log: its callbacks unwrap the request, or the chunk, of
their context, and a panic at the boundary of an `extern "C"` function aborts the process.

The host never passes a null context.
-/

namespace Vakil.ExampleNoop

/-- The process with the plugin in it; `V` is what all the others keep there. A callback that comes after
the abort finds `aborted` set. -/
structure ProcessState (V : Type) where
  others : V
  aborted : Bool := false
deriving DecidableEq

variable {V : Type}

def exampleInit : PluginInitFn (ProcessState V) := fun _ _ s => (.ok (), s)

def exampleShutdown : ShutdownFn (ProcessState V) := fun _ s => (.ok (), s)

/-- Whether the plugin answers the request of the context itself. -/
def answers (ctx : HttpContext) (req : HttpRequest) : Bool :=
  req.method = "GET".toList && req.path = "/local-reply".toList && ctx.response.isNone

/-- `"hello from example-noop".as_bytes()`. -/
def hello : Bytes := "hello from example-noop".toList.map fun c => c.toNat.toUInt8

def exampleOnHttpEvent : HttpHookFn (ProcessState V) := fun _ ctx s =>
  match ctx.request with
  | none => (.ok {}, ctx, { s with aborted := true })
  | some req =>
    if answers ctx req then
      (.ok ⟨.replace⟩,
        { ctx with response := some ⟨req.streamId, req.version, 200, [], hello⟩ }, s)
    else (.ok {}, ctx, s)

def exampleOnTcpEvent : TcpHookFn (ProcessState V) := fun _ ctx s =>
  match ctx.chunk with
  | none => (.ok {}, ctx, { s with aborted := true })
  | some _ => (.ok {}, ctx, s)

/-- An absent peer or datagram is logged as empty. -/
def exampleOnUdpEvent : UdpHookFn (ProcessState V) := fun _ ctx s => (.ok {}, ctx, s)

def buildHttpModule : PluginHttpModule (ProcessState V) where
  inst := 0
  priority := 0
  init := exampleInit
  shutdown := exampleShutdown
  onRoute := none
  onRequestHeaders := some exampleOnHttpEvent
  onRequestBody := some exampleOnHttpEvent
  onResponseHeaders := some exampleOnHttpEvent
  onResponseBody := some exampleOnHttpEvent
  onTrailers := some exampleOnHttpEvent
  onLocalReply := some exampleOnHttpEvent

def buildTcpModule : PluginTcpModule (ProcessState V) where
  inst := 0
  priority := 1
  init := exampleInit
  shutdown := exampleShutdown
  onRoute := none
  onConnect := some exampleOnTcpEvent
  onData := some exampleOnTcpEvent
  onHalfClose := some exampleOnTcpEvent
  onClose := some exampleOnTcpEvent

def buildUdpModule : PluginUdpModule (ProcessState V) where
  inst := 0
  priority := 2
  init := exampleInit
  shutdown := exampleShutdown
  onRoute := none
  onDatagram := some exampleOnUdpEvent
  onSessionStart := some exampleOnUdpEvent
  onSessionEnd := some exampleOnUdpEvent

def createHttp : PluginFactoryFn (PluginHttpModule (ProcessState V)) (ProcessState V) :=
  fun s => (.ok buildHttpModule, s)

def createTcp : PluginFactoryFn (PluginTcpModule (ProcessState V)) (ProcessState V) :=
  fun s => (.ok buildTcpModule, s)

def createUdp : PluginFactoryFn (PluginUdpModule (ProcessState V)) (ProcessState V) :=
  fun s => (.ok buildUdpModule, s)

def getLibrary : PluginRootModule (ProcessState V) where
  manifest := ⟨"example-noop".toList, ⟨0, 1, 0⟩⟩
  createHttp := some createHttp
  createTcp := some createTcp
  createUdp := some createUdp

end Vakil.ExampleNoop
