import Vakil.PluginApi
import Vakil.Sticky.Config

/-!
# The sticky plugin's initialisation (example-l4-sticky)

The TCP and the UDP module share one init slot, behind a mutex: the first `init` loads the
configuration, and the slot keeps either the state it made or the error it failed with.

What the file system answers and where the allocator puts a new state are inputs of each call; the
TOML parser is a parameter. `InitProcess.loads` records the loads; the source keeps no such record.
-/

namespace Vakil.Sticky

/-- `Arc<T>`: two handles share their value if they have the same address. -/
structure Arc (α : Type) where
  address : Nat
  value : α

structure SharedInitState where
  state : Option (Arc SharedState) := none
  initError : Option Str := none

/-- A call of `sticky_init` on a module instance (0 for a null pointer), with an init context
(`none` for a null pointer). -/
structure InitCall where
  inst : PluginInstance
  ctx : Option PluginInitContext
  /-- `fs::read_to_string`, by the text of a path: the content, or the text of an error. -/
  readToString : Str → Except Str Str
  /-- Where a new `Arc` is allocated. -/
  address : Nat

structure InitProcess where
  slot : Mutex SharedInitState
  loads : List (Except PluginError (Arc SharedState))

def InitProcess.new : InitProcess := ⟨.new {}, []⟩

def configEnv : Str := "VAKIL_L4_STICKY_CONFIG".toList

def configFileName : Str := "sticky-l4.toml".toList

def envValue (ctx : PluginInitContext) (name : Str) : Option Str :=
  (ctx.env.entries.find? fun entry => entry.name = name).map (·.value)

/-- `Path::join` with a relative path, on Unix. -/
def joinPath (dir file : Str) : Str :=
  if dir = [] ∨ dir.getLast? = some '/' then dir ++ file else dir ++ '/' :: file

def resolveConfigPath (ctx : PluginInitContext) : Str :=
  match envValue ctx configEnv with
  | some path => path
  | none =>
    match ctx.pluginDir with
    | some pluginDir => joinPath pluginDir configFileName
    | none => configFileName

/-- `load_state`; `fromToml` is `toml::from_str`, with the text of its error. -/
def loadState (fromToml : Str → Except Str FileConfig) (ctx : PluginInitContext) (call : InitCall) :
    Except PluginError (Arc SharedState) :=
  let configPath := resolveConfigPath ctx
  match call.readToString configPath with
  | .error error =>
    .error (pluginError
      ("failed to read sticky config ".toList ++ configPath ++ ": ".toList ++ error))
  | .ok configText =>
    match fromToml configText with
    | .error error =>
      .error (pluginError
        ("failed to parse sticky config ".toList ++ configPath ++ ": ".toList ++ error))
    | .ok fileConfig =>
      match LoadedConfig.tryFrom fileConfig with
      | .error error => .error error
      | .ok config => .ok ⟨call.address, .new config⟩

def ensureState (fromToml : Str → Except Str FileConfig) (ctx : PluginInitContext) (call : InitCall)
    (p : InitProcess) : Outcome PluginError (Arc SharedState) × InitProcess :=
  if p.slot.poisoned then (.panic, p)
  else
    match p.slot.value.state with
    | some state => (.ok state, p)
    | none =>
      match p.slot.value.initError with
      | some error => (.err (pluginError error), p)
      | none =>
        match loadState fromToml ctx call with
        | .ok state =>
          (.ok state, ⟨.new { p.slot.value with state := some state }, p.loads ++ [.ok state]⟩)
        | .error err =>
          (.err err,
            ⟨.new { p.slot.value with
                initError := some (err.message.getD "failed to load sticky config".toList) },
              p.loads ++ [.error err]⟩)

def stickyInit (fromToml : Str → Except Str FileConfig) (call : InitCall) (p : InitProcess) :
    Outcome PluginError Unit × InitProcess :=
  if call.inst = 0 then (.err (pluginError "missing module handle".toList), p)
  else
    match call.ctx with
    | none => (.err (pluginError "missing init context".toList), p)
    | some ctx =>
      match ensureState fromToml ctx call p with
      | (.ok _, p) => (.ok (), p)
      | (.err err, p) => (.err err, p)
      | (.panic, p) => (.panic, p)

/-- `current_state`: what the hooks of a module work with. -/
def InitProcess.currentState (p : InitProcess) : Option (Arc SharedState) :=
  if p.slot.poisoned then none else p.slot.value.state

/-- The calls in the order in which they take the slot's lock, each with its outcome. -/
def serveInits (fromToml : Str → Except Str FileConfig) (calls : List InitCall) (p : InitProcess) :
    List (InitCall × Outcome PluginError Unit) × InitProcess :=
  Calls.serve (stickyInit fromToml) calls p

end Vakil.Sticky
