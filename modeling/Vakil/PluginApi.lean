import Vakil.PluginSys

/-!
# Protocol modules and their callbacks (`vakil-plugin-api`)

A plugin library exports up to three protocol modules: records of callbacks that share an opaque
instance pointer. A callback may read and rewrite the hook context it is given and may change any
state of any plugin: `W` is that state, as one value, and a callback is a function of it.

`Call` and `PluginState` record what the host did with the callbacks: every invocation, with the
context it was given, the one it left and its result. The source keeps no such record; the theorems
talk about it.
-/

namespace Vakil

/-- `*mut PluginInstanceOpaque`: an address, 0 for a null pointer. -/
abbrev PluginInstance := Nat

/-- Priority of execution for plugins. Lower priorities executed first. -/
abbrev Priority := UInt8

/-- A hook callback: the instance, the context it may rewrite and the plugins' state. -/
abbrev HookFn (C W : Type) := PluginInstance → C → W → HookResult × C × W

abbrev HttpHookFn (W : Type) := HookFn HttpContext W

abbrev TcpHookFn (W : Type) := HookFn TCPContext W

abbrev UdpHookFn (W : Type) := HookFn UDPContext W

abbrev PluginInitFn (W : Type) := PluginInstance → PluginInitContext → W → Except PluginError Unit × W

abbrev ShutdownFn (W : Type) := PluginInstance → W → Except PluginError Unit × W

structure PluginTcpModule (W : Type) where
  inst : PluginInstance
  priority : Priority
  init : PluginInitFn W
  shutdown : ShutdownFn W
  onRoute : Option (TcpHookFn W) := none
  onConnect : Option (TcpHookFn W) := none
  onData : Option (TcpHookFn W) := none
  onHalfClose : Option (TcpHookFn W) := none
  onClose : Option (TcpHookFn W) := none

structure PluginUdpModule (W : Type) where
  inst : PluginInstance
  priority : Priority
  init : PluginInitFn W
  shutdown : ShutdownFn W
  onRoute : Option (UdpHookFn W) := none
  onDatagram : Option (UdpHookFn W) := none
  onSessionStart : Option (UdpHookFn W) := none
  onSessionEnd : Option (UdpHookFn W) := none

structure PluginHttpModule (W : Type) where
  inst : PluginInstance
  priority : Priority
  init : PluginInitFn W
  shutdown : ShutdownFn W
  onRoute : Option (HttpHookFn W) := none
  onRequestHeaders : Option (HttpHookFn W) := none
  onRequestBody : Option (HttpHookFn W) := none
  onResponseHeaders : Option (HttpHookFn W) := none
  onResponseBody : Option (HttpHookFn W) := none
  onTrailers : Option (HttpHookFn W) := none
  onLocalReply : Option (HttpHookFn W) := none

abbrev PluginFactoryFn (M W : Type) := W → Except PluginError M × W

structure PluginRootModule (W : Type) where
  manifest : PluginManifest
  createHttp : Option (PluginFactoryFn (PluginHttpModule W) W)
  createTcp : Option (PluginFactoryFn (PluginTcpModule W) W)
  createUdp : Option (PluginFactoryFn (PluginUdpModule W) W)

/-! ## Default modules -/

section Default

variable {W : Type}

def defaultInit : PluginInitFn W := fun _ _ w => (.ok (), w)

def defaultShutdown : ShutdownFn W := fun _ w => (.ok (), w)

def PluginTcpModule.default : PluginTcpModule W where
  inst := 0
  priority := 0
  init := defaultInit
  shutdown := defaultShutdown

def PluginUdpModule.default : PluginUdpModule W where
  inst := 0
  priority := 0
  init := defaultInit
  shutdown := defaultShutdown

def PluginHttpModule.default : PluginHttpModule W where
  inst := 0
  priority := 0
  init := defaultInit
  shutdown := defaultShutdown

end Default

/-! ## Invocations -/

/-- One invocation of a callback: `κ` says which callback and from where, `μ` is the module type,
`C` the context type. -/
structure Call (κ μ C W : Type) where
  kind : κ
  module : μ
  /-- The context the callback was given. -/
  seen : C
  result : HookResult
  /-- The context and the plugins' state as the callback left them. -/
  left : C
  worldLeft : W

/-- The modules called from `kind`, in the order of the calls. -/
def Call.modulesAt {κ μ C W : Type} [DecidableEq κ] (kind : κ) (calls : List (Call κ μ C W)) :
    List μ :=
  (calls.filter (·.kind = kind)).map (·.module)

section ModulesAt

variable {κ μ C W : Type} [DecidableEq κ] {kind : κ}

@[simp] theorem Call.modulesAt_nil : modulesAt kind ([] : List (Call κ μ C W)) = [] := rfl

@[simp] theorem Call.modulesAt_append (calls calls' : List (Call κ μ C W)) :
    modulesAt kind (calls ++ calls') = modulesAt kind calls ++ modulesAt kind calls' := by
  simp [modulesAt]

theorem Call.modulesAt_cons_self {c : Call κ μ C W} (h : c.kind = kind)
    (calls : List (Call κ μ C W)) :
    modulesAt kind (c :: calls) = c.module :: modulesAt kind calls := by
  simp [modulesAt, h]

theorem Call.modulesAt_cons_ne {c : Call κ μ C W} (h : c.kind ≠ kind)
    (calls : List (Call κ μ C W)) : modulesAt kind (c :: calls) = modulesAt kind calls := by
  simp [modulesAt, h]

theorem Call.exists_of_mem_modulesAt {calls : List (Call κ μ C W)} {m : μ}
    (h : m ∈ modulesAt kind calls) : ∃ c ∈ calls, c.kind = kind := by
  obtain ⟨c, hc, -⟩ := List.mem_map.mp h
  obtain ⟨hc, hkind⟩ := List.mem_filter.mp hc
  exact ⟨c, hc, of_decide_eq_true hkind⟩

theorem Call.modulesAt_eq_nil {calls : List (Call κ μ C W)} (h : ∀ c ∈ calls, c.kind ≠ kind) :
    modulesAt kind calls = [] := by
  simpa [modulesAt, List.filter_eq_nil_iff] using h

theorem Call.length_modulesAt {calls : List (Call κ μ C W)} (h : ∀ c ∈ calls, c.kind = kind) :
    (modulesAt kind calls).length = calls.length := by
  rw [modulesAt, List.length_map, List.filter_eq_self.2 (by simpa using h)]

end ModulesAt

/-- The plugins' state, with the record of the invocations so far. -/
structure PluginState (κ μ C W : Type) where
  world : W
  calls : List (Call κ μ C W)

namespace PluginState

variable {κ μ C W : Type}

/-- Invoke the callback `cb` of module `m`, whose instance is `inst`, on the context `ctx`. -/
def call (p : PluginState κ μ C W) (kind : κ) (m : μ) (inst : PluginInstance) (cb : HookFn C W)
    (ctx : C) : HookResult × C × PluginState κ μ C W :=
  let (result, ctx', world') := cb inst ctx p.world
  (result, ctx', ⟨world', p.calls ++ [⟨kind, m, ctx, result, ctx', world'⟩]⟩)

variable (p : PluginState κ μ C W) (kind : κ) (m : μ) (inst : PluginInstance) (cb : HookFn C W)
  (ctx : C)

@[simp] theorem call_result : (p.call kind m inst cb ctx).1 = (cb inst ctx p.world).1 := rfl

@[simp] theorem call_ctx : (p.call kind m inst cb ctx).2.1 = (cb inst ctx p.world).2.1 := rfl

@[simp] theorem call_world :
    (p.call kind m inst cb ctx).2.2.world = (cb inst ctx p.world).2.2 := rfl

@[simp] theorem call_calls :
    (p.call kind m inst cb ctx).2.2.calls = p.calls ++
      [⟨kind, m, ctx, (cb inst ctx p.world).1, (cb inst ctx p.world).2.1,
        (cb inst ctx p.world).2.2⟩] := rfl

/-- The calls made from `p` to `q`. -/
def since (p q : PluginState κ μ C W) : List (Call κ μ C W) := q.calls.drop p.calls.length

theorem since_eq {p q : PluginState κ μ C W} {new : List (Call κ μ C W)}
    (h : q.calls = p.calls ++ new) : p.since q = new := by
  rw [since, h, List.drop_left]

/-- Invoke a callback, if the module has it, and drop what it returns. -/
def callIgnored (p : PluginState κ μ C W) (kind : κ) (m : μ) (inst : PluginInstance)
    (cb : Option (HookFn C W)) (ctx : C) : C × PluginState κ μ C W :=
  match cb with
  | none => (ctx, p)
  | some cb => (p.call kind m inst cb ctx).2

theorem callIgnored_some :
    p.callIgnored kind m inst (some cb) ctx = (p.call kind m inst cb ctx).2 := rfl

end PluginState

end Vakil
