import Mathlib.Data.List.Nodup
import Vakil.PluginHost

/-!
# Proofs: what loading and dropping a plugin records

A successful load records the `init` of each of the plugin's modules, a drop their `shutdown` and then
the unloading of the library. A failed load records the inits that had succeeded by then and the
unloading, but no `shutdown`: the modules are lost with the early return.
-/

namespace Vakil

variable {W : Type}

/-- The library that an event is about. -/
def HostEvent.library : HostEvent → Library
  | .initialised lib _ _ => lib
  | .shutDown lib _ _ => lib
  | .unloaded lib => lib

/-! ## The modules of a plugin -/

/-- The modules of a plugin by protocol, with their instances. -/
def LoadedPluginModules.instances (modules : LoadedPluginModules W) :
    List (Protocol × PluginInstance) :=
  (modules.http.map fun m => (Protocol.http, m.inst)).toList ++
    (modules.tcp.map fun m => (Protocol.tcp, m.inst)).toList ++
    (modules.udp.map fun m => (Protocol.udp, m.inst)).toList

/-- A plugin has at most one module of a protocol. -/
theorem LoadedPluginModules.instances_nodup (modules : LoadedPluginModules W) :
    modules.instances.Nodup := by
  rcases modules with ⟨_ | http, _ | tcp, _ | udp⟩ <;> simp [instances]

/-- The modules of a plugin come in the order HTTP, TCP, UDP. -/
theorem LoadedPluginModules.instances_ordered (modules : LoadedPluginModules W) :
    (modules.instances.map Prod.fst).Sublist [.http, .tcp, .udp] := by
  rcases modules with ⟨_ | http, _ | tcp, _ | udp⟩ <;> simp [instances]

namespace LoadedPlugin

def inits (plugin : LoadedPlugin W) : List HostEvent :=
  plugin.modules.instances.map fun (proto, inst) => .initialised plugin.library proto inst

def shutdowns (plugin : LoadedPlugin W) : List HostEvent :=
  plugin.modules.instances.map fun (proto, inst) => .shutDown plugin.library proto inst

theorem shutdowns_nodup (plugin : LoadedPlugin W) : plugin.shutdowns.Nodup := by
  refine plugin.modules.instances_nodup.map ?_
  rintro ⟨proto, inst⟩ ⟨proto', inst'⟩ h
  cases h
  rfl

theorem library_of_mem_inits {plugin : LoadedPlugin W} {e : HostEvent} (h : e ∈ plugin.inits) :
    e.library = plugin.library := by
  obtain ⟨_, -, rfl⟩ := List.mem_map.1 h
  rfl

theorem library_of_mem_shutdowns {plugin : LoadedPlugin W} {e : HostEvent}
    (h : e ∈ plugin.shutdowns) : e.library = plugin.library := by
  obtain ⟨_, -, rfl⟩ := List.mem_map.1 h
  rfl

/-- Each module is shut down once. -/
theorem count_shutdowns {plugin : LoadedPlugin W} {proto : Protocol} {inst : PluginInstance}
    (h : (proto, inst) ∈ plugin.modules.instances) :
    plugin.shutdowns.count (.shutDown plugin.library proto inst) = 1 :=
  List.count_eq_one_of_mem plugin.shutdowns_nodup (List.mem_map.2 ⟨_, h, rfl⟩)

theorem count_inits (plugin : LoadedPlugin W) (lib : Library) (proto : Protocol)
    (inst : PluginInstance) : plugin.inits.count (.shutDown lib proto inst) = 0 := by
  refine List.count_eq_zero.2 fun hmem => ?_
  obtain ⟨_, -, heq⟩ := List.mem_map.1 hmem
  cases heq

end LoadedPlugin

/-! ## What is recorded about a library -/

def eventsOf (lib : Library) (events : List HostEvent) : List HostEvent :=
  events.filter (·.library = lib)

section EventsOf

variable {lib : Library} {events : List HostEvent}

@[simp] theorem eventsOf_append (events events' : List HostEvent) :
    eventsOf lib (events ++ events') = eventsOf lib events ++ eventsOf lib events' := by
  simp [eventsOf]

theorem eventsOf_eq_self (h : ∀ e ∈ events, e.library = lib) : eventsOf lib events = events :=
  List.filter_eq_self.mpr fun e he => decide_eq_true (h e he)

theorem eventsOf_eq_nil (h : ∀ e ∈ events, e.library ≠ lib) : eventsOf lib events = [] :=
  List.filter_eq_nil_iff.mpr fun e he => by simpa using h e he

theorem count_eventsOf {e : HostEvent} (h : e.library = lib) :
    (eventsOf lib events).count e = events.count e :=
  List.count_filter (decide_eq_true h)

/-- Plugins with libraries of their own: what they record about one of them is what its plugin
records. -/
theorem eventsOf_flatMap {plugins : List (LoadedPlugin W)}
    {record : LoadedPlugin W → List HostEvent}
    (hrecord : ∀ plugin, ∀ e ∈ record plugin, e.library = plugin.library)
    (hnodup : (plugins.map (·.library)).Nodup) {plugin : LoadedPlugin W} (hp : plugin ∈ plugins) :
    eventsOf plugin.library (plugins.flatMap record) = record plugin := by
  obtain ⟨pre, post, rfl⟩ := List.append_of_mem hp
  rw [List.map_append, List.map_cons, List.nodup_middle, List.nodup_cons, ← List.map_append]
    at hnodup
  have hother : ∀ ps : List (LoadedPlugin W), (∀ p ∈ ps, p ∈ pre ++ post) →
      eventsOf plugin.library (ps.flatMap record) = [] := by
    intro ps hps
    refine eventsOf_eq_nil fun e he heq => ?_
    obtain ⟨p, hmem, he⟩ := List.mem_flatMap.mp he
    have hlib : p.library = plugin.library := (hrecord p e he).symm.trans heq
    exact hnodup.1 (List.mem_map.mpr ⟨p, hps p hmem, hlib⟩)
  rw [List.flatMap_append, List.flatMap_cons, eventsOf_append, eventsOf_append,
    hother pre fun p hp => List.mem_append_left post hp,
    hother post fun p hp => List.mem_append_right pre hp, eventsOf_eq_self (hrecord plugin)]
  simp

end EventsOf

theorem eventsOf_shutdowns (plugin : LoadedPlugin W) (lib : Library) :
    eventsOf lib plugin.shutdowns = if plugin.library = lib then plugin.shutdowns else [] := by
  split_ifs with h
  · exact eventsOf_eq_self fun e he => (LoadedPlugin.library_of_mem_shutdowns he).trans h
  · refine eventsOf_eq_nil fun e he heq => ?_
    exact h ((LoadedPlugin.library_of_mem_shutdowns he).symm.trans heq)

/-! ## Shutdown -/

theorem shutDownModule_events (lib : Library) (proto : Protocol)
    (m : Option (PluginInstance × ShutdownFn W)) (h : Host W) :
    (shutDownModule lib proto m h).events =
      h.events ++ (m.map fun m => HostEvent.shutDown lib proto m.1).toList := by
  rcases m with _ | ⟨inst, shutdown⟩ <;> simp [shutDownModule]

theorem LoadedPlugin.shutdown_events (plugin : LoadedPlugin W) (h : Host W) :
    (plugin.shutdown h).2.events = h.events ++ plugin.shutdowns := by
  rcases plugin with ⟨root, ⟨_ | http, _ | tcp, _ | udp⟩, library⟩ <;>
    simp [shutdown, LoadedPluginModules.shutdown, shutDownModule_events, shutdowns,
      LoadedPluginModules.instances]

/-- The shutdown callbacks of a plugin's modules, with their instances. -/
def LoadedPluginModules.callbacks (modules : LoadedPluginModules W) :
    List (PluginInstance × ShutdownFn W) :=
  (modules.http.map fun m => (m.inst, m.shutdown)).toList ++
    (modules.tcp.map fun m => (m.inst, m.shutdown)).toList ++
    (modules.udp.map fun m => (m.inst, m.shutdown)).toList

theorem shutDownModule_world (lib : Library) (proto : Protocol)
    (m : Option (PluginInstance × ShutdownFn W)) (h : Host W) :
    (shutDownModule lib proto m h).world = m.toList.foldl (fun w c => (c.2 c.1 w).2) h.world := by
  cases m with
  | none => rfl
  | some c => rfl

/-- A shutdown runs the callbacks, and nothing else of the plugin. -/
theorem LoadedPlugin.shutdown_world (plugin : LoadedPlugin W) (h : Host W) :
    (plugin.shutdown h).2.world =
      plugin.modules.callbacks.foldl (fun w c => (c.2 c.1 w).2) h.world := by
  unfold LoadedPluginModules.callbacks
  rw [List.foldl_append, List.foldl_append, ← shutDownModule_world plugin.library .http,
    ← shutDownModule_world plugin.library .tcp, ← shutDownModule_world plugin.library .udp]
  rfl

/-- **A drop** shuts the modules down and then unloads the library. -/
theorem LoadedPlugin.drop_events (plugin : LoadedPlugin W) (h : Host W) :
    (plugin.drop h).events = h.events ++ plugin.shutdowns ++ [.unloaded plugin.library] := by
  rw [← shutdown_events]
  rfl

/-! ## Loading -/

section LoadBlock

variable {M : Type} (lib : Library) (proto : Protocol) (inst : M → PluginInstance)
  (init : M → PluginInitFn W) (create : Option (PluginFactoryFn M W)) (ctx : PluginInitContext)
  (h : Host W)

theorem loadBlock_nextHandle :
    (loadBlock lib proto inst init create ctx h).2.nextHandle = h.nextHandle := by
  unfold loadBlock
  split
  · rfl
  · split
    · split <;> rfl
    · rfl

/-- A protocol step records the init of the module it made, if it made one. -/
theorem loadBlock_events : (loadBlock lib proto inst init create ctx h).2.events = h.events ++
    match (loadBlock lib proto inst init create ctx h).1 with
    | .ok (some m) => [.initialised lib proto (inst m)]
    | _ => [] := by
  unfold loadBlock
  split
  · simp
  · split
    · split <;> simp
    · simp

end LoadBlock

/-- `loadModules` fails after it has initialised a module. -/
def LoadModulesFailsLate (lib : Library) (root : PluginRootModule W) (ctx : PluginInitContext)
    (h : Host W) : Prop :=
  match loadBlock lib .http (·.inst) (·.init) root.createHttp ctx h with
  | (.error _, _) => False
  | (.ok http, h) =>
    match loadBlock lib .tcp (·.inst) (·.init) root.createTcp ctx h with
    | (.error _, _) => http.isSome
    | (.ok tcp, h) =>
      match loadBlock lib .udp (·.inst) (·.init) root.createUdp ctx h with
      | (.error _, _) => http.isSome ∨ tcp.isSome
      | (.ok _, _) => False

/-- What `loadModules` records: the inits of the modules it returns; if it fails, the inits of modules
that it does not return. -/
theorem loadModules_spec (lib : Library) (root : PluginRootModule W) (ctx : PluginInitContext)
    (h : Host W) : (loadModules lib root ctx h).2.nextHandle = h.nextHandle ∧
    match (loadModules lib root ctx h).1 with
    | .ok modules => ¬ LoadModulesFailsLate lib root ctx h ∧
        (loadModules lib root ctx h).2.events = h.events ++
          modules.instances.map fun (proto, inst) => .initialised lib proto inst
    | .error _ => ∃ lost : List (Protocol × PluginInstance),
        (loadModules lib root ctx h).2.events = h.events ++
          (lost.map fun (proto, inst) => .initialised lib proto inst) ∧
        (LoadModulesFailsLate lib root ctx h ↔ lost ≠ []) := by
  unfold loadModules LoadModulesFailsLate
  have hh := loadBlock_nextHandle lib .http (·.inst) (·.init) root.createHttp ctx h
  have eh := loadBlock_events lib .http (·.inst) (·.init) root.createHttp ctx h
  cases h₁ : loadBlock lib .http (·.inst) (·.init) root.createHttp ctx h with
  | mk http h' =>
  rw [h₁] at hh eh
  cases http with
  | error e => exact ⟨hh, [], by simpa using eh, by simp⟩
  | ok http =>
    have ht := loadBlock_nextHandle lib .tcp (·.inst) (·.init) root.createTcp ctx h'
    have et := loadBlock_events lib .tcp (·.inst) (·.init) root.createTcp ctx h'
    dsimp only at hh eh ⊢
    cases h₂ : loadBlock lib .tcp (·.inst) (·.init) root.createTcp ctx h' with
    | mk tcp h'' =>
    rw [h₂] at ht et
    cases tcp with
    | error e =>
      refine ⟨by rw [← hh, ← ht], (http.map fun m => (Protocol.http, m.inst)).toList, ?_, ?_⟩
      · rw [et, eh]
        cases http <;> simp
      · cases http <;> simp
    | ok tcp =>
      have hu := loadBlock_nextHandle lib .udp (·.inst) (·.init) root.createUdp ctx h''
      have eu := loadBlock_events lib .udp (·.inst) (·.init) root.createUdp ctx h''
      dsimp only at ht et ⊢
      cases h₃ : loadBlock lib .udp (·.inst) (·.init) root.createUdp ctx h'' with
      | mk udp h''' =>
      rw [h₃] at hu eu
      cases udp with
      | error e =>
        refine ⟨by rw [← hh, ← ht, ← hu], (http.map fun m => (Protocol.http, m.inst)).toList ++
          (tcp.map fun m => (Protocol.tcp, m.inst)).toList, ?_, ?_⟩
        · rw [eu, et, eh]
          cases http <;> cases tcp <;> simp
        · cases http <;> cases tcp <;> simp
      | ok udp =>
        refine ⟨by rw [← hh, ← ht, ← hu], not_false, ?_⟩
        rw [eu, et, eh]
        cases http <;> cases tcp <;> cases udp <;> simp [LoadedPluginModules.instances]

/-- The load of `path` fails after a module of the plugin has been initialised. -/
def LoadFailsLate (env : HostEnv W) (path : Str) (h : Host W) : Prop :=
  match env.dlopen path h.world with
  | (.error _, _) => False
  | (.ok dyn, w) =>
    match dyn.getLibrary with
    | .error _ => False
    | .ok getLibrary =>
      match validateManifest (getLibrary w).1.manifest with
      | .error _ => False
      | .ok () => LoadModulesFailsLate ⟨h.nextHandle, path⟩ (getLibrary w).1
          (buildInitContext env path)
          { h with world := (getLibrary w).2, nextHandle := h.nextHandle + 1 }

/-- **A load** that succeeds takes the next handle and records the plugin's inits. One that fails
records the inits of the modules it loses and the unloading of the library, if that was opened. -/
theorem LoadedPlugin.load_spec (env : HostEnv W) (path : Str) (h : Host W) :
    match (LoadedPlugin.load env path h).1 with
    | .ok plugin => ¬ LoadFailsLate env path h ∧ plugin.library = ⟨h.nextHandle, path⟩ ∧
        (LoadedPlugin.load env path h).2.nextHandle = h.nextHandle + 1 ∧
        (LoadedPlugin.load env path h).2.events = h.events ++ plugin.inits
    | .error _ => ∃ lost : List (Protocol × PluginInstance), ∃ closed : List HostEvent,
        (LoadedPlugin.load env path h).2.events = h.events ++
          (lost.map fun (proto, inst) => .initialised ⟨h.nextHandle, path⟩ proto inst) ++ closed ∧
        (closed = [] ∨ closed = [.unloaded ⟨h.nextHandle, path⟩]) ∧
        (LoadFailsLate env path h ↔ lost ≠ []) := by
  unfold LoadedPlugin.load LoadFailsLate
  cases hopen : env.dlopen path h.world with
  | mk result w =>
  cases result with
  | error e => exact ⟨[], [], by simp, .inl rfl, by simp⟩
  | ok dyn =>
    dsimp only
    unfold loadOpened
    cases hget : dyn.getLibrary with
    | error e => exact ⟨[], _, by simp, .inr rfl, by simp⟩
    | ok getLibrary =>
      dsimp only
      cases hval : validateManifest (getLibrary w).1.manifest with
      | error e =>
        exact ⟨[], _, by simp [Host.setWorld], .inr rfl, by simp⟩
      | ok u =>
        have hspec := loadModules_spec ⟨h.nextHandle, path⟩ (getLibrary w).1
          (buildInitContext env path)
          { h with world := (getLibrary w).2, nextHandle := h.nextHandle + 1 }
        simp only [Host.setWorld]
        cases hload : loadModules ⟨h.nextHandle, path⟩ (getLibrary w).1 (buildInitContext env path)
            { h with world := (getLibrary w).2, nextHandle := h.nextHandle + 1 } with
        | mk modules h' =>
        rw [hload] at hspec
        cases modules with
        | error e =>
          obtain ⟨-, lost, hevents, hlate⟩ := hspec
          dsimp only at hevents
          exact ⟨lost, [.unloaded ⟨h.nextHandle, path⟩], by simp only [Host.emit_events, hevents],
            .inr rfl, hlate⟩
        | ok modules =>
          obtain ⟨hnext, hlate, hevents⟩ := hspec
          exact ⟨hlate, rfl, hnext, hevents⟩

end Vakil
