import Vakil.Sticky.SharedState
import Vakil.Lib.Text

/-!
# The sticky plugin's configuration (example-l4-sticky)

A configuration file, as read by `serde`, becomes a `LoadedConfig`: names and backends are trimmed and
must not be empty, a listener is listed at most once, and there is some pool.
-/

namespace Vakil.Sticky

structure ListenerConfig where
  name : Str
  backends : List Str
deriving DecidableEq, Repr

def defaultTtlSecs : UInt64 := 900

structure FileConfig where
  ttlSecs : UInt64 := defaultTtlSecs
  fallbackBackends : List Str := []
  listeners : List ListenerConfig := []
deriving DecidableEq, Repr

def pluginError (message : Str) : PluginError := ⟨some message⟩

def normalize (value field : Str) : Except PluginError Str :=
  if Text.trim value = [] then .error (pluginError (field ++ " cannot be empty".toList))
  else .ok (Text.trim value)

def normalizeBackends (values : List Str) (field : Str) : Except PluginError (List Str) :=
  values.mapM fun backend => normalize backend field

/-- One round of the loop over the listeners. -/
def addListener (listenerBackends : Std.HashMap Str (List Str)) (listener : ListenerConfig) :
    Except PluginError (Std.HashMap Str (List Str)) := do
  let name ← normalize listener.name "listener name".toList
  if listenerBackends.contains name then .error (pluginError ("duplicate listener ".toList ++ name))
  else do
    let backends ← normalizeBackends listener.backends ("listener ".toList ++ name)
    .ok (listenerBackends.insert name backends)

/-- `TryFrom<FileConfig> for LoadedConfig`. -/
def LoadedConfig.tryFrom (value : FileConfig) : Except PluginError LoadedConfig :=
  if value.ttlSecs = 0 then .error (pluginError "ttl_secs must be greater than zero".toList)
  else do
    let listenerBackends ← value.listeners.foldlM addListener ∅
    let fallbackBackends ← normalizeBackends value.fallbackBackends "fallback_backends".toList
    if listenerBackends.isEmpty && fallbackBackends.isEmpty then
      .error (pluginError
        "sticky config must define at least one listener pool or fallback backends".toList)
    else .ok ⟨.fromSecs value.ttlSecs, fallbackBackends, listenerBackends⟩

end Vakil.Sticky
