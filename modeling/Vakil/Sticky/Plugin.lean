import Vakil.PluginHost
import Vakil.Lib.Boxes
import Vakil.Sticky.Init

/-!
# The sticky plugin's library (example-l4-sticky)

`getLibrary` is what the library exports: factories for a TCP and a UDP module. The instance of a module
is a box on the heap, with a handle of the static init slot in it; the shutdown of the module frees the
box. Whatever the host does with a module, the box is all that can be done wrong.

The plugin's own data is the first part of the process state, the second (`V`) is that of everything
else: the other plugins and the file system.
-/

namespace Vakil.Sticky

open Boxes

structure PluginWorld where
  heap : Heap
  /-- `GLOBAL_SHARED_INIT`. -/
  init : InitProcess
  /-- A panic got to the boundary of an `extern "C"` function. -/
  aborted : Bool := false

def PluginWorld.new : PluginWorld := ⟨{}, .new, false⟩

variable {V : Type}

/-- What the plugin's code gets from outside. -/
structure PluginEnv (V : Type) where
  allocator : Allocator
  fromToml : Str → Except Str FileConfig
  readToString : V → Str → Except Str Str
  /-- Where a new `Arc` is allocated. -/
  arcAddress : V → Nat

/-- `module_instance`. -/
def moduleInstance (env : PluginEnv V) (w : PluginWorld) : PluginInstance × PluginWorld :=
  ((w.heap.box env.allocator).1, { w with heap := (w.heap.box env.allocator).2 })

/-- `module_ref`: the box of a module instance is read, unless the pointer is null. -/
def moduleRef (inst : PluginInstance) (w : PluginWorld) : PluginWorld :=
  if inst = 0 then w else { w with heap := w.heap.read inst }

/-- `sticky_init`, as the host calls it: with an init context. -/
def initFn (env : PluginEnv V) : PluginInitFn (PluginWorld × V) := fun inst ctx s =>
  let w := moduleRef inst s.1
  match stickyInit env.fromToml ⟨inst, some ctx, env.readToString s.2, env.arcAddress s.2⟩ w.init with
  | (.ok (), init) => (.ok (), { w with init }, s.2)
  | (.err e, init) => (.error e, { w with init }, s.2)
  | (.panic, init) => (.error ⟨none⟩, { w with init, aborted := true }, s.2)

def stickyShutdown : ShutdownFn (PluginWorld × V) := fun inst s =>
  if inst = 0 then (.ok (), s) else (.ok (), { s.1 with heap := s.1.heap.free inst }, s.2)

/-! ## Hooks -/

def continueHook : HookOutcome := ⟨.continue⟩

/-- The hooks of the plugin look at nothing and change nothing. -/
def passHook {C : Type} : HookFn C (PluginWorld × V) := fun _ ctx s => (.ok continueHook, ctx, s)

def stickyOnTcpConnect : TcpHookFn (PluginWorld × V) := passHook

def stickyOnTcpData : TcpHookFn (PluginWorld × V) := passHook

def stickyOnTcpClose : TcpHookFn (PluginWorld × V) := passHook

def stickyOnTcpHalfClose : TcpHookFn (PluginWorld × V) := passHook

def stickyOnUdpDatagram : UdpHookFn (PluginWorld × V) := passHook

def stickyOnUdpSessionStart : UdpHookFn (PluginWorld × V) := passHook

def stickyOnUdpSessionEnd : UdpHookFn (PluginWorld × V) := passHook

/-! ## Modules -/

/-- The TCP module with the given instance. -/
def tcpModule (env : PluginEnv V) (inst : PluginInstance) : PluginTcpModule (PluginWorld × V) where
  inst := inst
  priority := 0
  init := initFn env
  onRoute := none
  onConnect := some stickyOnTcpConnect
  onData := some stickyOnTcpData
  onHalfClose := some stickyOnTcpHalfClose
  onClose := some stickyOnTcpClose
  shutdown := stickyShutdown

/-- The UDP module with the given instance. -/
def udpModule (env : PluginEnv V) (inst : PluginInstance) : PluginUdpModule (PluginWorld × V) where
  inst := inst
  priority := 0
  init := initFn env
  onRoute := none
  onDatagram := some stickyOnUdpDatagram
  onSessionStart := some stickyOnUdpSessionStart
  onSessionEnd := some stickyOnUdpSessionEnd
  shutdown := stickyShutdown

/-- `create_tcp`, which is `build_tcp_module`. -/
def createTcp (env : PluginEnv V) :
    PluginFactoryFn (PluginTcpModule (PluginWorld × V)) (PluginWorld × V) := fun s =>
  let (inst, w) := moduleInstance env s.1
  (.ok (tcpModule env inst), w, s.2)

/-- `create_udp`, which is `build_udp_module`. -/
def createUdp (env : PluginEnv V) :
    PluginFactoryFn (PluginUdpModule (PluginWorld × V)) (PluginWorld × V) := fun s =>
  let (inst, w) := moduleInstance env s.1
  (.ok (udpModule env inst), w, s.2)

/-- What `get_library` returns. -/
def root (env : PluginEnv V) : PluginRootModule (PluginWorld × V) where
  manifest := ⟨"example-l4-sticky".toList, ⟨0, 1, 0⟩⟩
  createHttp := none
  createTcp := some (createTcp env)
  createUdp := some (createUdp env)

def getLibrary (env : PluginEnv V) (s : PluginWorld × V) :
    PluginRootModule (PluginWorld × V) × (PluginWorld × V) :=
  (root env, s)

end Vakil.Sticky
