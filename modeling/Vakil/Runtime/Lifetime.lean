import Vakil.Runtime.Hooks
import Vakil.Runtime.LoadPlugins

/-!
# The lifetime of the plugins (`Runtime`, `PluginProxyHooks`)

The clones of a `Runtime` share the list of the loaded plugins. The list is dropped with the last of
them, which drops the plugins in order. The hooks made from it have clones of the modules, that is
the raw pointers to their instances and their callbacks; none of these has a `Drop` of its own.

A `Lifetime` is what becomes of a runtime under the operations on it and on its hooks, in any order
that ownership admits. `LoadedPlugin::shutdown` needs an exclusive reference, which a list with
several owners does not give out; here it can be called as long as there is a list.
-/

namespace Vakil

open ForLoop

variable {W : Type}

structure Lifetime (W : Type) where
  /-- The content of the `Arc<Vec<LoadedPlugin>>`. -/
  plugins : List (LoadedPlugin W)
  strongCount : Nat
  /-- The copies of the hooks that have not been dropped. -/
  hooks : List (PluginProxyHooks W)
  host : Host W

inductive LifetimeOp where
  /-- `LoadedPlugin::shutdown` of the plugin at an index. -/
  | shutdown (i : Nat)
  | cloneRuntime
  | dropRuntime
  | fromLoaded
  | cloneHooks (i : Nat)
  | dropHooks (i : Nat)
deriving DecidableEq, Repr

namespace Lifetime

/-- `Runtime::build` with the plugins that it loaded. -/
def build (plugins : List (LoadedPlugin W)) (host : Host W) : Lifetime W where
  plugins := plugins
  strongCount := 1
  hooks := []
  host := host

def cloneHandle (l : Lifetime W) : Lifetime W := { l with strongCount := l.strongCount + 1 }

/-- Drop one handle of the list, and with the last one the list. -/
def dropHandle (l : Lifetime W) : Lifetime W :=
  if l.strongCount = 1 then
    { l with plugins := [], strongCount := 0, host := dropPlugins l.plugins l.host }
  else { l with strongCount := l.strongCount - 1 }

/-- `PluginProxyHooks::from_loaded(self.plugins.clone())`; the handle it is given is dropped when it
returns. -/
def fromLoaded (l : Lifetime W) : Lifetime W :=
  let l := l.cloneHandle
  { l with hooks := l.hooks ++ [PluginProxyHooks.fromLoaded l.plugins] }.dropHandle

def shutdown (i : Nat) (l : Lifetime W) : Lifetime W :=
  match l.plugins[i]? with
  | none => l
  | some plugin =>
    let (plugin, host) := plugin.shutdown l.host
    { l with plugins := l.plugins.set i plugin, host }

def cloneHooks (i : Nat) (l : Lifetime W) : Lifetime W :=
  { l with hooks := l.hooks ++ l.hooks[i]?.toList }

/-- The modules of the copy are dropped, which runs no code of a plugin. -/
def dropHooks (i : Nat) (l : Lifetime W) : Lifetime W := { l with hooks := l.hooks.eraseIdx i }

end Lifetime

/-- What the operation is on exists. -/
def LifetimeOp.possible (l : Lifetime W) : LifetimeOp → Bool
  | .shutdown i => i < l.plugins.length
  | .cloneRuntime | .dropRuntime | .fromLoaded => 0 < l.strongCount
  | .cloneHooks i | .dropHooks i => i < l.hooks.length

def LifetimeOp.apply : LifetimeOp → Lifetime W → Lifetime W
  | .shutdown i => Lifetime.shutdown i
  | .cloneRuntime => Lifetime.cloneHandle
  | .dropRuntime => Lifetime.dropHandle
  | .fromLoaded => Lifetime.fromLoaded
  | .cloneHooks i => Lifetime.cloneHooks i
  | .dropHooks i => Lifetime.dropHooks i

/-- One operation; a run is over at one that is not possible. -/
def Lifetime.step (op : LifetimeOp) (l : Lifetime W) : Step (Lifetime W) Unit :=
  if op.possible l then .next (op.apply l) else .stop () l

/-- The operations lead from `l` to `l'`. -/
def Lifetime.Reaches (l : Lifetime W) (ops : List LifetimeOp) (l' : Lifetime W) : Prop :=
  forEach Lifetime.step ops l = .next l'

end Vakil
