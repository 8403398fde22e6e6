import Vakil.PluginApi

/-!
# Loading and unloading one plugin (`vakil-plugin-host`)

`LoadedPlugin.load` opens a library, checks its manifest and creates and initialises its protocol
modules. The operations thread a `Host`: the plugins' state together with the record of what was
done to which library. Values that Rust drops on an early return are dropped explicitly: the library
handle when `load` fails after opening it, and nothing when `loadModules` fails, since
`LoadedPluginModules` has no `Drop` of its own.
-/

namespace Vakil

inductive Protocol where
  | http
  | tcp
  | udp
deriving DecidableEq, Repr

/-- `stringify!($field_name)`. -/
def Protocol.fieldName : Protocol → Str
  | http => "http".toList
  | tcp => "tcp".toList
  | udp => "udp".toList

/-- An open library; every `Library::new` gives a fresh handle. -/
structure Library where
  handle : Nat
  path : Str
deriving DecidableEq, Repr

/-- What happens to the modules of a library. -/
inductive HostEvent where
  /-- The `init` callback of a module instance returned `Ok`. -/
  | initialised (lib : Library) (proto : Protocol) (inst : PluginInstance)
  /-- The `shutdown` callback was called on a module instance. -/
  | shutDown (lib : Library) (proto : Protocol) (inst : PluginInstance)
  | unloaded (lib : Library)
deriving DecidableEq, Repr

/-- The process state that loading changes: the plugins' state, the record of the host's dealings
with them and the handle the next library gets. -/
structure Host (W : Type) where
  world : W
  events : List HostEvent
  nextHandle : Nat

/-- What the dynamic loader finds in a library: its `get_library`, if it exports one. -/
structure DynLib (W : Type) where
  getLibrary : Except Str (W → PluginRootModule W × W)

/-- The outside of the process: `Library::new`, `Path::parent` and `std::env::vars`. -/
structure HostEnv (W : Type) where
  dlopen : Str → W → Except Str (DynLib W) × W
  parent : Str → Option Str
  vars : List KVPair

variable {W : Type}

namespace Host

def emit (h : Host W) (e : HostEvent) : Host W := { h with events := h.events ++ [e] }

def setWorld (h : Host W) (w : W) : Host W := { h with world := w }

@[simp] theorem emit_events (h : Host W) (e : HostEvent) : (h.emit e).events = h.events ++ [e] :=
  rfl

@[simp] theorem emit_world (h : Host W) (e : HostEvent) : (h.emit e).world = h.world := rfl

@[simp] theorem emit_nextHandle (h : Host W) (e : HostEvent) :
    (h.emit e).nextHandle = h.nextHandle := rfl

@[simp] theorem setWorld_events (h : Host W) (w : W) : (h.setWorld w).events = h.events := rfl

@[simp] theorem setWorld_world (h : Host W) (w : W) : (h.setWorld w).world = w := rfl

@[simp] theorem setWorld_nextHandle (h : Host W) (w : W) :
    (h.setWorld w).nextHandle = h.nextHandle := rfl

end Host

structure LoadedPluginModules (W : Type) where
  http : Option (PluginHttpModule W) := none
  tcp : Option (PluginTcpModule W) := none
  udp : Option (PluginUdpModule W) := none

structure LoadedPlugin (W : Type) where
  root : PluginRootModule W
  modules : LoadedPluginModules W
  library : Library

/-! ## Shutdown -/

/-- Call the `shutdown` callback of one module taken out of the plugin, if there is one. -/
def shutDownModule (lib : Library) (proto : Protocol) :
    Option (PluginInstance × ShutdownFn W) → Host W → Host W
  | none, h => h
  | some (inst, shutdown), h =>
    (h.setWorld (shutdown inst h.world).2).emit (.shutDown lib proto inst)

/-- `LoadedPluginModules::shutdown`: take each module out and shut it down. -/
def LoadedPluginModules.shutdown (lib : Library) (modules : LoadedPluginModules W) (h : Host W) :
    LoadedPluginModules W × Host W :=
  let h := shutDownModule lib .http (modules.http.map fun m => (m.inst, m.shutdown)) h
  let h := shutDownModule lib .tcp (modules.tcp.map fun m => (m.inst, m.shutdown)) h
  let h := shutDownModule lib .udp (modules.udp.map fun m => (m.inst, m.shutdown)) h
  ({}, h)

namespace LoadedPlugin

def shutdown (plugin : LoadedPlugin W) (h : Host W) : LoadedPlugin W × Host W :=
  let (modules, h) := plugin.modules.shutdown plugin.library h
  ({ plugin with modules }, h)

/-- `Drop for LoadedPlugin`: shut the modules down; the `library` field is dropped last. -/
def drop (plugin : LoadedPlugin W) (h : Host W) : Host W :=
  let (plugin, h) := plugin.shutdown h
  h.emit (.unloaded plugin.library)

end LoadedPlugin

/-! ## Loading -/

def hostAbiVersion : SemVer := ⟨0, 1, 0⟩

def validateManifest (manifest : PluginManifest) : Except Str Unit :=
  if manifest.version.major ≠ hostAbiVersion.major then
    .error ("plugin major version ".toList ++ (toString manifest.version.major).toList ++
      " is incompatible with host ABI ".toList ++ (toString hostAbiVersion.major).toList)
  else if manifest.version.minor > hostAbiVersion.minor then
    .error ("plugin minor version ".toList ++ (toString manifest.version.minor).toList ++
      " is newer than host ABI ".toList ++ (toString hostAbiVersion.minor).toList)
  else .ok ()

/-- `build_init_context`; the host version is the crate version 0.1.0. -/
def buildInitContext (env : HostEnv W) (path : Str) : PluginInitContext where
  libraryPath := path
  pluginDir := env.parent path
  hostVersion := ⟨0, 1, 0⟩
  env := ⟨env.vars⟩

/-- The `load_block!` macro for one protocol: run the factory, if the plugin exports one, and
initialise the module it made. -/
def loadBlock {M : Type} (lib : Library) (proto : Protocol) (inst : M → PluginInstance)
    (init : M → PluginInitFn W) (create : Option (PluginFactoryFn M W)) (ctx : PluginInitContext)
    (h : Host W) : Except Str (Option M) × Host W :=
  match create with
  | none => (.ok none, h)
  | some factory =>
    match factory h.world with
    | (.ok module, w) =>
      match init module (inst module) ctx w with
      | (.ok (), w) => (.ok (some module), (h.setWorld w).emit (.initialised lib proto (inst module)))
      | (.error _, w) => (.error (proto.fieldName ++ " module init failed".toList), h.setWorld w)
    | (.error _, w) => (.error (proto.fieldName ++ " module factory failed".toList), h.setWorld w)

/-- Load and initialize all protocol modules exposed by a plugin root. An early return drops the
modules made so far, which does not shut them down. -/
def loadModules (lib : Library) (root : PluginRootModule W) (ctx : PluginInitContext) (h : Host W) :
    Except Str (LoadedPluginModules W) × Host W :=
  match loadBlock lib .http (·.inst) (·.init) root.createHttp ctx h with
  | (.error e, h) => (.error e, h)
  | (.ok http, h) =>
    match loadBlock lib .tcp (·.inst) (·.init) root.createTcp ctx h with
    | (.error e, h) => (.error e, h)
    | (.ok tcp, h) =>
      match loadBlock lib .udp (·.inst) (·.init) root.createUdp ctx h with
      | (.error e, h) => (.error e, h)
      | (.ok udp, h) => (.ok { http, tcp, udp }, h)

namespace LoadedPlugin

/-- The part of `LoadedPlugin::load` that runs with the library open. -/
def loadOpened (env : HostEnv W) (path : Str) (library : Library) (dyn : DynLib W) (h : Host W) :
    Except Str (LoadedPlugin W) × Host W :=
  match dyn.getLibrary with
  | .error e => (.error ("failed to load plugin root symbol: ".toList ++ e), h)
  | .ok getLibrary =>
    let (root, w) := getLibrary h.world
    let h := h.setWorld w
    match validateManifest root.manifest with
    | .error e => (.error e, h)
    | .ok () =>
      match loadModules library root (buildInitContext env path) h with
      | (.error e, h) => (.error e, h)
      | (.ok modules, h) => (.ok { root, modules, library }, h)

/-- `LoadedPlugin::load`: load a plugin root module from a file path and run startup init for
supported modules. An early return after opening the library drops (closes) it. -/
def load (env : HostEnv W) (path : Str) (h : Host W) : Except Str (LoadedPlugin W) × Host W :=
  match env.dlopen path h.world with
  | (.error e, w) => (.error ("failed to open plugin library: ".toList ++ e), h.setWorld w)
  | (.ok dyn, w) =>
    let library : Library := ⟨h.nextHandle, path⟩
    let h : Host W := { h with world := w, nextHandle := h.nextHandle + 1 }
    match loadOpened env path library dyn h with
    | (.error e, h) => (.error e, h.emit (.unloaded library))
    | (.ok plugin, h) => (.ok plugin, h)

end LoadedPlugin

end Vakil
