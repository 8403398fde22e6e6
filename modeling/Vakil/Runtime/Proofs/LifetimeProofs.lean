import Vakil.Runtime.Lifetime
import Vakil.Runtime.Proofs.LoadPluginsProofs

/-!
# Proofs: shutting down exactly once

A shutdown takes the modules out of their plugin, so the next one finds none, and the drop of the
last handle shuts down what is left before it unloads the libraries. What is recorded about a library
is therefore known at every point of a lifetime: the inits, the shutdowns once they were called for
explicitly or by that drop, and the unloading after it.
-/

namespace Vakil

open ForLoop

variable {W : Type}

/-! ## The list of plugins -/

/-- The plugin after a shutdown: its modules are taken out. -/
def LoadedPlugin.emptied (plugin : LoadedPlugin W) : LoadedPlugin W :=
  { plugin with modules := {} }

section LeftAfter

variable {ops : List LifetimeOp} {plugins : List (LoadedPlugin W)}

theorem index_of_library (hnodup : (plugins.map (·.library)).Nodup) {i j : Nat}
    {plugin other : LoadedPlugin W} (hi : plugins[i]? = some plugin) (hj : plugins[j]? = some other)
    (h : plugin.library = other.library) : i = j := by
  have hlt : i < (plugins.map (·.library)).length := by
    rw [List.length_map]
    exact (List.getElem?_eq_some_iff.mp hi).1
  refine (List.getElem?_inj hlt hnodup).mp ?_
  rw [List.getElem?_map, List.getElem?_map, hi, hj, Option.map_some, Option.map_some, h]

/-- What the operations have left of the list: the plugins that were shut down have no modules. -/
def leftAfter (ops : List LifetimeOp) (plugins : List (LoadedPlugin W)) : List (LoadedPlugin W) :=
  plugins.mapIdx fun i plugin => if .shutdown i ∈ ops then plugin.emptied else plugin

theorem getElem?_leftAfter (i : Nat) : (leftAfter ops plugins)[i]? =
    plugins[i]?.map fun plugin => if .shutdown i ∈ ops then plugin.emptied else plugin :=
  List.getElem?_mapIdx

theorem leftAfter_nil : leftAfter [] plugins = plugins := by
  refine List.ext_getElem? fun i => ?_
  simp [getElem?_leftAfter]

theorem map_library_leftAfter (ops : List LifetimeOp) (plugins : List (LoadedPlugin W)) :
    (leftAfter ops plugins).map (·.library) = plugins.map (·.library) := by
  refine List.ext_getElem? fun i => ?_
  rw [List.getElem?_map, List.getElem?_map, getElem?_leftAfter, Option.map_map]
  refine congrArg (fun f => plugins[i]?.map f) (funext fun plugin => ?_)
  rw [Function.comp_apply]
  split_ifs <;> rfl

theorem leftAfter_concat {op : LifetimeOp} (hop : ∀ i, op ≠ .shutdown i) :
    leftAfter (ops ++ [op]) plugins = leftAfter ops plugins := by
  refine List.ext_getElem? fun i => ?_
  simp [getElem?_leftAfter, (hop i).symm]

theorem leftAfter_shutdown {i : Nat} {plugin : LoadedPlugin W} (h : plugins[i]? = some plugin) :
    leftAfter (ops ++ [.shutdown i]) plugins = (leftAfter ops plugins).set i plugin.emptied := by
  have hlt : i < (leftAfter ops plugins).length := by
    rw [leftAfter, List.length_mapIdx]
    exact (List.getElem?_eq_some_iff.mp h).1
  refine List.ext_getElem? fun j => ?_
  rw [getElem?_leftAfter]
  by_cases hij : i = j
  · subst hij
    rw [List.getElem?_set_self hlt, h]
    simp
  · rw [List.getElem?_set_ne hij, getElem?_leftAfter]
    simp [Ne.symm hij]

/-- A plugin in the list, as the operations have left it. -/
theorem exists_leftAfter (ops : List LifetimeOp) {i : Nat} {plugin : LoadedPlugin W}
    (h : plugins[i]? = some plugin) :
    ∃ left, (leftAfter ops plugins)[i]? = some left ∧ left.library = plugin.library ∧
      left.emptied = plugin.emptied ∧
      left.shutdowns = if .shutdown i ∈ ops then [] else plugin.shutdowns := by
  refine ⟨if .shutdown i ∈ ops then plugin.emptied else plugin, ?_, ?_⟩
  · rw [getElem?_leftAfter, h]
    rfl
  · split_ifs <;> exact ⟨rfl, rfl, rfl⟩

end LeftAfter

/-! ## Operations -/

namespace Lifetime

/-- The list of a lifetime and what it has recorded, in terms of the plugins it began with and the
operations so far. -/
structure Inv (plugins : List (LoadedPlugin W)) (ops : List LifetimeOp) (l : Lifetime W) :
    Prop where
  plugins_eq : l.plugins = if l.strongCount = 0 then [] else leftAfter ops plugins
  recorded : ∀ i plugin, plugins[i]? = some plugin →
    eventsOf plugin.library l.host.events =
      plugin.inits ++ (if .shutdown i ∈ ops ∨ l.strongCount = 0 then plugin.shutdowns else []) ++
        if l.strongCount = 0 then [.unloaded plugin.library] else []
  owned : ∀ e ∈ l.host.events, ∃ plugin ∈ plugins, e.library = plugin.library

section Steps

variable {plugins : List (LoadedPlugin W)} {ops : List LifetimeOp} {l l' : Lifetime W}

theorem Inv.build {host : Host W} (hevents : host.events = plugins.flatMap (·.inits))
    (hnodup : (plugins.map (·.library)).Nodup) : Inv plugins [] (.build plugins host) := by
  refine ⟨leftAfter_nil.symm, ?_, ?_⟩
  · intro i plugin hi
    show eventsOf plugin.library host.events = _
    have hcount : (Lifetime.build plugins host).strongCount = 1 := rfl
    rw [hevents, eventsOf_flatMap (fun _ _ => LoadedPlugin.library_of_mem_inits) hnodup
      (List.mem_of_getElem? hi)]
    simp [hcount]
  · intro e he
    have he : e ∈ plugins.flatMap (·.inits) := hevents ▸ he
    obtain ⟨plugin, hp, he⟩ := List.mem_flatMap.mp he
    exact ⟨plugin, hp, LoadedPlugin.library_of_mem_inits he⟩

/-- An operation that neither shuts down nor drops a plugin. -/
theorem Inv.frame {op : LifetimeOp} (h : Inv plugins ops l) (hop : ∀ i, op ≠ .shutdown i)
    (hplugins : l'.plugins = l.plugins) (hcount : l'.strongCount = 0 ↔ l.strongCount = 0)
    (hhost : l'.host = l.host) : Inv plugins (ops ++ [op]) l' := by
  refine ⟨?_, ?_, ?_⟩
  · rw [hplugins, h.plugins_eq, leftAfter_concat hop]
    simp only [hcount]
  · intro i plugin hi
    have hmem : .shutdown i ∈ ops ++ [op] ↔ .shutdown i ∈ ops := by simp [(hop i).symm]
    rw [hhost, h.recorded i plugin hi]
    simp only [hcount, hmem]
  · rw [hhost]
    exact h.owned

theorem shutdown_of_getElem? {i : Nat} {left : LoadedPlugin W} (h : l.plugins[i]? = some left) :
    l.shutdown i =
      { l with plugins := l.plugins.set i left.emptied, host := (left.shutdown l.host).2 } := by
  rw [Lifetime.shutdown, h]
  rfl

theorem Inv.plugins_of_ne (h : Inv plugins ops l) (hcount : l.strongCount ≠ 0) :
    l.plugins = leftAfter ops plugins := by
  rw [h.plugins_eq, if_neg hcount]

/-- A shutdown records those of the plugin's modules, if they have not been taken out already. -/
theorem Inv.shutdown (hnodup : (plugins.map (·.library)).Nodup) (h : Inv plugins ops l) {i : Nat}
    (hi : i < l.plugins.length) : Inv plugins (ops ++ [.shutdown i]) (l.shutdown i) := by
  have hcount : l.strongCount ≠ 0 := by
    intro hzero
    rw [h.plugins_eq, if_pos hzero] at hi
    cases hi
  have hplugins : l.plugins = leftAfter ops plugins := h.plugins_of_ne hcount
  obtain ⟨plugin, hplugin⟩ : ∃ plugin, plugins[i]? = some plugin := by
    rw [hplugins, leftAfter, List.length_mapIdx] at hi
    exact ⟨_, List.getElem?_eq_getElem hi⟩
  obtain ⟨left, hleft, hlib, hemptied, hshut⟩ := exists_leftAfter ops hplugin
  have hevents : (left.shutdown l.host).2.events = l.host.events ++ left.shutdowns :=
    left.shutdown_events l.host
  rw [shutdown_of_getElem? (hplugins ▸ hleft)]
  refine ⟨?_, ?_, ?_⟩
  · show l.plugins.set i left.emptied = if l.strongCount = 0 then [] else _
    rw [if_neg hcount, hplugins, hemptied, leftAfter_shutdown hplugin]
  · intro j other hj
    show eventsOf other.library (left.shutdown l.host).2.events = _
    rw [hevents, eventsOf_append, h.recorded j other hj, eventsOf_shutdowns, hlib]
    by_cases hij : i = j
    · subst hij
      obtain rfl : plugin = other := Option.some.inj (hplugin.symm.trans hj)
      rw [if_pos rfl, hshut]
      by_cases hbefore : .shutdown i ∈ ops <;> simp [hcount, hbefore]
    · have hne : plugin.library ≠ other.library :=
        fun heq => hij (index_of_library hnodup hplugin hj heq)
      rw [if_neg hne, List.append_nil]
      simp [Ne.symm hij]
  · intro e he
    have he : e ∈ (left.shutdown l.host).2.events := he
    rw [hevents] at he
    rcases List.mem_append.mp he with he | he
    · exact h.owned e he
    · exact ⟨plugin, List.mem_of_getElem? hplugin,
        (LoadedPlugin.library_of_mem_shutdowns he).trans hlib⟩

/-- The last drop records the shutdowns that are left and the unloading of the libraries. -/
theorem Inv.dropLast (hnodup : (plugins.map (·.library)).Nodup) (h : Inv plugins ops l)
    (hlast : l.strongCount = 1) : Inv plugins (ops ++ [.dropRuntime]) l.dropHandle := by
  have hcount : l.strongCount ≠ 0 := by omega
  have hplugins : l.plugins = leftAfter ops plugins := h.plugins_of_ne hcount
  have hevents : (dropPlugins l.plugins l.host).events =
      l.host.events ++ (leftAfter ops plugins).flatMap (·.drops) := by
    rw [dropPlugins_events, hplugins]
  rw [← map_library_leftAfter ops] at hnodup
  rw [dropHandle, if_pos hlast]
  refine ⟨rfl, ?_, ?_⟩
  · intro i plugin hi
    show eventsOf plugin.library (dropPlugins l.plugins l.host).events = _
    obtain ⟨left, hleft, hlib, -, hshut⟩ := exists_leftAfter ops hi
    have hdrops : eventsOf plugin.library ((leftAfter ops plugins).flatMap (·.drops)) =
        left.drops := by
      rw [← hlib]
      exact eventsOf_flatMap (fun _ _ => LoadedPlugin.library_of_mem_drops) hnodup
        (List.mem_of_getElem? hleft)
    rw [hevents, eventsOf_append, hdrops, h.recorded i plugin hi, LoadedPlugin.drops, hshut, hlib]
    by_cases hbefore : .shutdown i ∈ ops <;> simp [hcount, hbefore]
  · intro e he
    have he : e ∈ (dropPlugins l.plugins l.host).events := he
    rw [hevents] at he
    rcases List.mem_append.mp he with he | he
    · exact h.owned e he
    · obtain ⟨left, hleft, he⟩ := List.mem_flatMap.mp he
      have hmem : left.library ∈ plugins.map (·.library) := by
        rw [← map_library_leftAfter ops]
        exact List.mem_map.mpr ⟨left, hleft, rfl⟩
      obtain ⟨plugin, hp, hlib⟩ := List.mem_map.mp hmem
      exact ⟨plugin, hp, (LoadedPlugin.library_of_mem_drops he).trans hlib.symm⟩

/-- What `from_loaded` does, apart from its temporary handle. -/
theorem fromLoaded_eq (h : 0 < l.strongCount) :
    l.fromLoaded = { l with hooks := l.hooks ++ [PluginProxyHooks.fromLoaded l.plugins] } := by
  have hne : l.strongCount ≠ 0 := by omega
  simp [fromLoaded, cloneHandle, dropHandle, hne]

theorem dropHandle_of_two_le (h : 2 ≤ l.strongCount) :
    l.dropHandle = { l with strongCount := l.strongCount - 1 } := by
  have hne : ¬ l.strongCount = 1 := by omega
  rw [dropHandle, if_neg hne]

/-- **Every operation keeps the invariant.** -/
theorem Inv.step (hnodup : (plugins.map (·.library)).Nodup) {op : LifetimeOp}
    (h : Inv plugins ops l) (hstep : Lifetime.step op l = .next l') :
    Inv plugins (ops ++ [op]) l' := by
  unfold Lifetime.step at hstep
  split_ifs at hstep with hop
  cases hstep
  cases op with
  | shutdown i => exact h.shutdown hnodup (of_decide_eq_true hop)
  | cloneRuntime =>
    have hpos : 0 < l.strongCount := of_decide_eq_true hop
    exact h.frame nofun rfl (iff_of_false (Nat.succ_ne_zero _) hpos.ne') rfl
  | dropRuntime =>
    have hpos : 0 < l.strongCount := of_decide_eq_true hop
    by_cases hlast : l.strongCount = 1
    · exact h.dropLast hnodup hlast
    · have htwo : 2 ≤ l.strongCount := by omega
      rw [LifetimeOp.apply, dropHandle_of_two_le htwo]
      exact h.frame nofun rfl (iff_of_false (by dsimp only; omega) hpos.ne') rfl
  | fromLoaded =>
    rw [LifetimeOp.apply, fromLoaded_eq (of_decide_eq_true hop)]
    exact h.frame nofun rfl Iff.rfl rfl
  | cloneHooks i => exact h.frame nofun rfl Iff.rfl rfl
  | dropHooks i => exact h.frame nofun rfl Iff.rfl rfl

theorem Reaches.inv {ops' : List LifetimeOp} (hnodup : (plugins.map (·.library)).Nodup)
    (h : Inv plugins ops l) (hrun : l.Reaches ops' l') : Inv plugins (ops ++ ops') l' := by
  refine forEach_history_next (R := fun xs => Inv plugins (ops ++ xs)) ?_ ?_ hrun
  · rwa [List.append_nil]
  · intro xs op t t' ht hstep
    rw [← List.append_assoc]
    exact ht.step hnodup hstep

/-- How often a module was shut down. -/
theorem Inv.count_shutDown (h : Inv plugins ops l) {i : Nat} {plugin : LoadedPlugin W}
    (hi : plugins[i]? = some plugin) {proto : Protocol} {inst : PluginInstance}
    (hmodule : (proto, inst) ∈ plugin.modules.instances) :
    l.host.events.count (.shutDown plugin.library proto inst) =
      if .shutdown i ∈ ops ∨ l.strongCount = 0 then 1 else 0 := by
  rw [← count_eventsOf rfl, HostEvent.library, h.recorded i plugin hi, List.count_append,
    List.count_append, plugin.count_inits]
  split_ifs <;> simp [LoadedPlugin.count_shutdowns hmodule]

/-- Only modules of the plugins are shut down, each on its own instance. -/
theorem Inv.module_of_shutDown (h : Inv plugins ops l) {lib : Library} {proto : Protocol}
    {inst : PluginInstance} (hmem : .shutDown lib proto inst ∈ l.host.events) :
    ∃ plugin ∈ plugins, plugin.library = lib ∧ (proto, inst) ∈ plugin.modules.instances := by
  obtain ⟨plugin, hp, hlib⟩ := h.owned _ hmem
  obtain ⟨i, hi⟩ := List.getElem?_of_mem hp
  have hmem : .shutDown lib proto inst ∈ eventsOf plugin.library l.host.events :=
    List.mem_filter.mpr ⟨hmem, decide_eq_true hlib⟩
  have hshut : .shutDown lib proto inst ∈ plugin.shutdowns := by
    rw [h.recorded i plugin hi] at hmem
    rcases List.mem_append.mp hmem with hmem | hmem
    · rcases List.mem_append.mp hmem with hmem | hmem
      · obtain ⟨_, -, heq⟩ := List.mem_map.mp hmem
        cases heq
      · split_ifs at hmem
        · exact hmem
        · cases hmem
    · split_ifs at hmem <;> simp at hmem
  obtain ⟨module, hmodule, heq⟩ := List.mem_map.mp hshut
  cases heq
  exact ⟨plugin, hp, rfl, hmodule⟩

/-- However many handles there are, they can be dropped. -/
theorem reaches_dropAll (l : Lifetime W) :
    ∃ l', l.Reaches (List.replicate l.strongCount .dropRuntime) l' ∧ l'.strongCount = 0 := by
  induction hn : l.strongCount generalizing l with
  | zero => exact ⟨l, rfl, hn⟩
  | succ n ih =>
    have hcount : l.dropHandle.strongCount = n := by
      by_cases hlast : l.strongCount = 1
      · rw [dropHandle, if_pos hlast]
        dsimp only
        omega
      · rw [dropHandle, if_neg hlast]
        dsimp only
        omega
    obtain ⟨l', hrest, hzero⟩ := ih l.dropHandle hcount
    have hpos : LifetimeOp.dropRuntime.possible l = true := decide_eq_true (by omega)
    refine ⟨l', forEach_cons_eq_next_iff.mpr ⟨l.dropHandle, ?_, hrest⟩, hzero⟩
    rw [Lifetime.step, if_pos hpos]
    rfl

theorem Inv.shutDownOnce (h : Inv plugins ops l) (hend : l.strongCount = 0)
    {plugin : LoadedPlugin W} (hp : plugin ∈ plugins) {proto : Protocol} {inst : PluginInstance}
    (hmodule : (proto, inst) ∈ plugin.modules.instances) :
    ShutDownOnce l.host.events plugin.library proto inst := by
  obtain ⟨i, hi⟩ := List.getElem?_of_mem hp
  have hrecorded := h.recorded i plugin hi
  rw [if_pos (.inr hend), if_pos hend, List.append_assoc] at hrecorded
  exact shutDownOnce_of_eventsOf hrecorded hmodule

/-- **A lifetime can always be brought to its end**, and then every module has been shut down once,
after its init and before its library was unloaded. -/
theorem Inv.dropAll (hnodup : (plugins.map (·.library)).Nodup) (h : Inv plugins ops l) :
    ∃ l', l.Reaches (List.replicate l.strongCount .dropRuntime) l' ∧
      ∀ plugin ∈ plugins, ∀ proto inst, (proto, inst) ∈ plugin.modules.instances →
        ShutDownOnce l'.host.events plugin.library proto inst := by
  obtain ⟨l', hrun, hend⟩ := reaches_dropAll l
  exact ⟨l', hrun, fun _ hp _ _ => (hrun.inv hnodup h).shutDownOnce hend hp⟩

end Steps

end Lifetime

/-- The operations on the copies of the hooks. -/
def LifetimeOp.OnHooks : LifetimeOp → Prop
  | .fromLoaded | .cloneHooks _ | .dropHooks _ => True
  | _ => False

/-- They leave the process as it is. -/
theorem Lifetime.step_onHooks {op : LifetimeOp} {l l' : Lifetime W} (hop : op.OnHooks)
    (hstep : Lifetime.step op l = .next l') : l'.host = l.host := by
  unfold Lifetime.step at hstep
  split_ifs at hstep with hpossible
  cases hstep
  cases op with
  | fromLoaded =>
    rw [LifetimeOp.apply, Lifetime.fromLoaded_eq (of_decide_eq_true hpossible)]
  | cloneHooks i => rfl
  | dropHooks i => rfl
  | _ => cases hop

/-! ## What the shutdowns do -/

/-- The callback of a plugin's module of the protocol. -/
def LoadedPluginModules.shutdownOf (modules : LoadedPluginModules W) : Protocol → Option (ShutdownFn W)
  | .http => modules.http.map (·.shutdown)
  | .tcp => modules.tcp.map (·.shutdown)
  | .udp => modules.udp.map (·.shutdown)

/-- The callback of the plugin with the library. -/
def shutdownOf (plugins : List (LoadedPlugin W)) (lib : Library) (proto : Protocol) :
    Option (ShutdownFn W) :=
  (plugins.find? fun plugin => plugin.library = lib).bind fun plugin => plugin.modules.shutdownOf proto

/-- What a shutdown on the record has done to the plugins' state. -/
def HostEvent.effect (plugins : List (LoadedPlugin W)) : HostEvent → W → W
  | .shutDown lib proto inst, w =>
    match shutdownOf plugins lib proto with
    | some shutdown => (shutdown inst w).2
    | none => w
  | .initialised .., w => w
  | .unloaded _, w => w

section Replays

variable {plugins : List (LoadedPlugin W)}

/-- What has been recorded since `start` are shutdowns and unloadings, and the plugins' state is what
the callbacks of these shutdowns made of it, one after the other. -/
def Replays (plugins : List (LoadedPlugin W)) (start host : Host W) : Prop :=
  ∃ done, host.events = start.events ++ done ∧ (∀ lib proto inst, .initialised lib proto inst ∉ done) ∧
    host.world = done.foldl (fun w event => event.effect plugins w) start.world

theorem Replays.refl (host : Host W) : Replays plugins host host :=
  ⟨[], (List.append_nil _).symm, fun _ _ _ => List.not_mem_nil, rfl⟩

theorem Replays.trans {a b c : Host W} (hab : Replays plugins a b) (hbc : Replays plugins b c) :
    Replays plugins a c := by
  obtain ⟨done, hevents, hshut, hworld⟩ := hab
  obtain ⟨done', hevents', hshut', hworld'⟩ := hbc
  refine ⟨done ++ done', ?_, ?_, ?_⟩
  · rw [hevents', hevents, List.append_assoc]
  · intro lib proto inst hmem
    exact (List.mem_append.mp hmem).elim (hshut lib proto inst) (hshut' lib proto inst)
  · rw [List.foldl_append, ← hworld, hworld']

/-- The modules that are left in the plugin are those that the list has for its library. -/
def Known (plugins : List (LoadedPlugin W)) (plugin : LoadedPlugin W) : Prop :=
  ∀ proto shutdown, plugin.modules.shutdownOf proto = some shutdown →
    shutdownOf plugins plugin.library proto = some shutdown

theorem known_of_mem (hnodup : (plugins.map (·.library)).Nodup) {plugin : LoadedPlugin W}
    (hp : plugin ∈ plugins) : Known plugins plugin := by
  have hfind : (plugins.find? fun p => p.library = plugin.library) = some plugin := by
    obtain ⟨found, hfound⟩ : ∃ found, (plugins.find? fun p => p.library = plugin.library) = some found :=
      Option.isSome_iff_exists.mp (List.find?_isSome.mpr ⟨plugin, hp, decide_eq_true rfl⟩)
    have hlib : found.library = plugin.library := by simpa using List.find?_some hfound
    rw [hfound, List.inj_on_of_nodup_map hnodup (List.mem_of_find?_eq_some hfound) hp hlib]
  intro proto shutdown hshutdown
  rw [shutdownOf, hfind]
  exact hshutdown

theorem known_emptied (plugin : LoadedPlugin W) : Known plugins plugin.emptied := by
  intro proto shutdown hshutdown
  cases proto <;> cases hshutdown

theorem known_of_leftAfter (hnodup : (plugins.map (·.library)).Nodup) {ops : List LifetimeOp}
    {left : LoadedPlugin W} (h : left ∈ leftAfter ops plugins) : Known plugins left := by
  obtain ⟨i, hi⟩ := List.getElem?_of_mem h
  rw [getElem?_leftAfter] at hi
  obtain ⟨plugin, hplugin, rfl⟩ := Option.map_eq_some_iff.mp hi
  split_ifs
  · exact known_emptied plugin
  · exact known_of_mem hnodup (List.mem_of_getElem? hplugin)

/-- **A shutdown is the callbacks that it records.** -/
theorem Known.shutdown_replays {plugin : LoadedPlugin W} (h : Known plugins plugin) (host : Host W) :
    Replays plugins host (plugin.shutdown host).2 := by
  refine ⟨plugin.shutdowns, plugin.shutdown_events host, ?_, ?_⟩
  · intro lib proto inst hmem
    obtain ⟨_, -, heq⟩ := List.mem_map.mp hmem
    cases heq
  · have heffect : ∀ proto inst shutdown w, plugin.modules.shutdownOf proto = some shutdown →
        (HostEvent.shutDown plugin.library proto inst).effect plugins w = (shutdown inst w).2 := by
      intro proto inst shutdown w hshutdown
      rw [HostEvent.effect, h proto shutdown hshutdown]
    rw [LoadedPlugin.shutdown_world]
    unfold LoadedPlugin.shutdowns
    have hhttp := fun inst => heffect .http inst
    have htcp := fun inst => heffect .tcp inst
    have hudp := fun inst => heffect .udp inst
    rcases plugin with ⟨root, ⟨_ | http, _ | tcp, _ | udp⟩, library⟩ <;>
      simp_all [LoadedPluginModules.callbacks, LoadedPluginModules.instances,
        LoadedPluginModules.shutdownOf]

theorem Replays.unloaded (host : Host W) (lib : Library) :
    Replays plugins host (host.emit (.unloaded lib)) :=
  ⟨[.unloaded lib], rfl, by simp, rfl⟩

theorem dropPlugins_replays {left : List (LoadedPlugin W)} (h : ∀ plugin ∈ left, Known plugins plugin)
    (host : Host W) : Replays plugins host (dropPlugins left host) := by
  induction left generalizing host with
  | nil => exact .refl host
  | cons plugin left ih =>
    have hfirst : Replays plugins host (plugin.drop host) :=
      ((h plugin List.mem_cons_self).shutdown_replays host).trans (.unloaded _ _)
    exact hfirst.trans (ih (fun p hp => h p (List.mem_cons_of_mem _ hp)) _)

/-- **Every operation** runs the callbacks that it records. -/
theorem Lifetime.Inv.step_replays (hnodup : (plugins.map (·.library)).Nodup) {ops : List LifetimeOp}
    {op : LifetimeOp} {l l' : Lifetime W} (h : Lifetime.Inv plugins ops l)
    (hstep : Lifetime.step op l = .next l') : Replays plugins l.host l'.host := by
  have hknown : ∀ left ∈ l.plugins, Known plugins left := by
    intro left hleft
    rw [h.plugins_eq] at hleft
    split_ifs at hleft
    · cases hleft
    · exact known_of_leftAfter hnodup hleft
  by_cases hhooks : op.OnHooks
  · rw [Lifetime.step_onHooks hhooks hstep]
    exact .refl _
  · unfold Lifetime.step at hstep
    split_ifs at hstep with hop
    cases hstep
    cases op with
    | shutdown i =>
      have hlt : i < l.plugins.length := of_decide_eq_true hop
      have hget : l.plugins[i]? = some l.plugins[i] := List.getElem?_eq_getElem hlt
      rw [LifetimeOp.apply, Lifetime.shutdown_of_getElem? hget]
      exact (hknown _ (List.mem_of_getElem? hget)).shutdown_replays l.host
    | cloneRuntime => exact .refl _
    | dropRuntime =>
      rw [LifetimeOp.apply, Lifetime.dropHandle]
      split_ifs
      · exact dropPlugins_replays hknown l.host
      · exact .refl _
    | fromLoaded => exact absurd trivial hhooks
    | cloneHooks i => exact absurd trivial hhooks
    | dropHooks i => exact absurd trivial hhooks

theorem Lifetime.Reaches.replays (hnodup : (plugins.map (·.library)).Nodup) {l l' : Lifetime W}
    {ops ops' : List LifetimeOp} (h : Lifetime.Inv plugins ops l) (hrun : l.Reaches ops' l') :
    Replays plugins l.host l'.host := by
  refine (forEach_history_next (R := fun xs (t : Lifetime W) =>
    Lifetime.Inv plugins (ops ++ xs) t ∧ Replays plugins l.host t.host) ?_ ?_ hrun).2
  · rw [List.append_nil]
    exact ⟨h, .refl _⟩
  · rintro xs op t t' ⟨ht, hreplays⟩ hstep
    rw [← List.append_assoc]
    exact ⟨ht.step hnodup hstep, hreplays.trans (ht.step_replays hnodup hstep)⟩

end Replays

/-! ## Every lifetime -/

section Runs

variable {env : HostEnv W} {fs : FsEnv} {paths : List Str} {w : W} {plugins : List (LoadedPlugin W)}
  {host : Host W}

/-- What was loaded begins a lifetime in the invariant. -/
theorem loadPlugins_inv (h : loadPlugins env fs paths (.start w) = (.ok plugins, host)) :
    (plugins.map (·.library)).Nodup ∧ Lifetime.Inv plugins [] (.build plugins host) := by
  unfold loadPlugins at h
  split at h
  case h_1 l hloop =>
    cases h
    have hsound := sound_of_paths hloop
    exact ⟨hsound.library_nodup, .build hsound.events hsound.library_nodup⟩
  case h_2 => cases h

end Runs

/-- **Modules are shut down exactly once.** At every point of a lifetime, what is recorded about a
plugin are the inits of its modules, their shutdowns in the order HTTP, TCP, UDP if there was a call
for them or the last handle was dropped, and after these, if it was, the unloading of the library.
Each module is shut down once, on its own instance, and nothing else is; the plugins' state is what the
recorded callbacks have made of it, in the recorded order. The operations on the hooks shut nothing down.
However many handles are left, they can be dropped, and then every module has been shut down. -/
theorem shutDown_exactly_once (env : HostEnv W) (fs : FsEnv) (paths : List Str) (w : W)
    (plugins : List (LoadedPlugin W)) (host : Host W)
    (hload : loadPlugins env fs paths (.start w) = (.ok plugins, host)) (ops : List LifetimeOp)
    (l : Lifetime W) (hrun : (Lifetime.build plugins host).Reaches ops l) :
    (∀ i plugin, plugins[i]? = some plugin →
      eventsOf plugin.library l.host.events =
        plugin.inits ++ (if .shutdown i ∈ ops ∨ l.strongCount = 0 then plugin.shutdowns else []) ++
          (if l.strongCount = 0 then [.unloaded plugin.library] else []) ∧
      (plugin.modules.instances.map Prod.fst).Sublist [.http, .tcp, .udp] ∧
      ∀ proto inst, (proto, inst) ∈ plugin.modules.instances →
        l.host.events.count (.shutDown plugin.library proto inst) =
          if .shutdown i ∈ ops ∨ l.strongCount = 0 then 1 else 0) ∧
    (∀ lib proto inst, .shutDown lib proto inst ∈ l.host.events →
      ∃ plugin ∈ plugins, plugin.library = lib ∧ (proto, inst) ∈ plugin.modules.instances) ∧
    Replays plugins host l.host ∧
    (∀ pre op post, ops = pre ++ op :: post → op.OnHooks →
      ∃ before after, (Lifetime.build plugins host).Reaches pre before ∧
        (Lifetime.build plugins host).Reaches (pre ++ [op]) after ∧ after.host = before.host) ∧
    ∃ last, l.Reaches (List.replicate l.strongCount .dropRuntime) last ∧
      ∀ plugin ∈ plugins, ∀ proto inst, (proto, inst) ∈ plugin.modules.instances →
        ShutDownOnce last.host.events plugin.library proto inst := by
  obtain ⟨hnodup, hbuild⟩ := loadPlugins_inv hload
  have hinv : Lifetime.Inv plugins ops l := hrun.inv hnodup hbuild
  refine ⟨?_, fun _ _ _ => hinv.module_of_shutDown, hrun.replays hnodup hbuild, ?_,
    hinv.dropAll hnodup⟩
  · intro i plugin hi
    exact ⟨hinv.recorded i plugin hi, plugin.modules.instances_ordered,
      fun _ _ => hinv.count_shutDown hi⟩
  · rintro pre op post rfl hop
    obtain ⟨before, hpre, hrest⟩ := forEach_append_eq_next_iff.mp hrun
    obtain ⟨after, hstep, -⟩ := forEach_cons_eq_next_iff.mp hrest
    refine ⟨before, after, hpre, ?_, Lifetime.step_onHooks hop hstep⟩
    exact forEach_append_eq_next_iff.mpr ⟨before, hpre, (forEach_singleton op before).trans hstep⟩

/-- A plugin with an HTTP and a TCP module. -/
def twoModules {W : Type} : PluginRootModule W where
  manifest := ⟨"two".toList, ⟨0, 1, 0⟩⟩
  createHttp := some fun w => (.ok { PluginHttpModule.default with inst := 1 }, w)
  createTcp := some fun w => (.ok { PluginTcpModule.default with inst := 2 }, w)
  createUdp := none

def twoModulesEnv : HostEnv Unit where
  dlopen _ w := (.ok ⟨.ok fun w => (twoModules, w)⟩, w)
  parent _ := none
  vars := []

/-- Two explicit shutdowns, two handles and two copies of the hooks: one shutdown of each module. -/
theorem twoModules_shutDown_once :
    ∃ plugins host l,
      loadPlugins twoModulesEnv oneFile ["two.so".toList] (.start ()) = (.ok plugins, host) ∧
      (Lifetime.build plugins host).Reaches [.fromLoaded, .cloneRuntime, .shutdown 0, .cloneHooks 0,
        .dropRuntime, .shutdown 0, .dropHooks 1, .dropRuntime, .dropHooks 0] l ∧
      l.host.events.count (.shutDown ⟨0, "two.so".toList⟩ .http 1) = 1 ∧
      l.host.events.count (.shutDown ⟨0, "two.so".toList⟩ .tcp 2) = 1 := by
  refine ⟨_, _, _, rfl, rfl, ?_⟩
  have h := (shutDown_exactly_once twoModulesEnv oneFile ["two.so".toList] () _ _ rfl
    [.fromLoaded, .cloneRuntime, .shutdown 0, .cloneHooks 0, .dropRuntime, .shutdown 0,
      .dropHooks 1, .dropRuntime, .dropHooks 0] _ rfl).1 0 _ rfl
  exact ⟨h.2.2 .http 1 (by decide), h.2.2 .tcp 2 (by decide)⟩

end Vakil
