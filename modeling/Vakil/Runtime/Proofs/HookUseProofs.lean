import Vakil.Runtime.Proofs.LifetimeProofs

/-!
# Proofs: how long the hooks may be used

The hooks hold raw pointers to the instances of the modules and the addresses of their callbacks, but no
handle of the list of plugins. Their modules are in use as long as a clone of the runtime is left, and no
longer (`hooks_live_iff`).
-/

namespace Vakil

open ForLoop StableSort

variable {W : Type}

/-- A module may be called: its init has succeeded, it has not been shut down and its library is
loaded. -/
structure Live (events : List HostEvent) (lib : Library) (proto : Protocol) (inst : PluginInstance) :
    Prop where
  initialised : .initialised lib proto inst ∈ events
  kept : .shutDown lib proto inst ∉ events
  loaded : .unloaded lib ∉ events

/-- The module is that of one of the plugins. -/
def IsModuleOf {M : Type} (plugins : List (LoadedPlugin W)) (module : LoadedPluginModules W → Option M)
    (m : M) : Prop :=
  ∃ (i : Nat) (plugin : LoadedPlugin W), plugins[i]? = some plugin ∧ module plugin.modules = some m

structure PluginProxyHooks.MadeFrom (plugins : List (LoadedPlugin W)) (hooks : PluginProxyHooks W) :
    Prop where
  http : ∀ m ∈ hooks.httpModules, IsModuleOf plugins (·.http) m
  tcp : ∀ m ∈ hooks.tcpModules, IsModuleOf plugins (·.tcp) m
  udp : ∀ m ∈ hooks.udpModules, IsModuleOf plugins (·.udp) m

/-! ## Where the modules of the hooks come from -/

section MadeFrom

variable {plugins left : List (LoadedPlugin W)}

/-- The plugin is one of those that were loaded, or what a shutdown left of it. -/
def IsLeftOf (plugins : List (LoadedPlugin W)) (p : LoadedPlugin W) : Prop :=
  ∃ (i : Nat) (plugin : LoadedPlugin W), plugins[i]? = some plugin ∧ (p = plugin ∨ p = plugin.emptied)

theorem isLeftOf_of_mem_leftAfter {ops : List LifetimeOp} {p : LoadedPlugin W}
    (h : p ∈ leftAfter ops plugins) : IsLeftOf plugins p := by
  obtain ⟨i, hi⟩ := List.getElem?_of_mem h
  rw [getElem?_leftAfter] at hi
  obtain ⟨plugin, hplugin, rfl⟩ := Option.map_eq_some_iff.mp hi
  refine ⟨i, plugin, hplugin, ?_⟩
  split_ifs
  · exact .inr rfl
  · exact .inl rfl

theorem isModuleOf_of_mem_chain {M : Type} {priority : M → Nat}
    {module : LoadedPluginModules W → Option M} (hempty : module {} = none) {m : M}
    (hleft : ∀ p ∈ left, IsLeftOf plugins p)
    (hm : m ∈ sortByKey priority (left.filterMap fun p => module p.modules)) :
    IsModuleOf plugins module m := by
  rw [(sortByKey_perm priority _).mem_iff] at hm
  obtain ⟨p, hp, hmodule⟩ := List.mem_filterMap.mp hm
  obtain ⟨i, plugin, hi, rfl | rfl⟩ := hleft p hp
  · exact ⟨i, p, hi, hmodule⟩
  · rw [LoadedPlugin.emptied, hempty] at hmodule
    cases hmodule

theorem madeFrom_fromLoaded
    (hleft : ∀ p ∈ left, IsLeftOf plugins p) :
    (PluginProxyHooks.fromLoaded left).MadeFrom plugins :=
  ⟨fun _ => isModuleOf_of_mem_chain rfl hleft, fun _ => isModuleOf_of_mem_chain rfl hleft,
    fun _ => isModuleOf_of_mem_chain rfl hleft⟩

end MadeFrom

/-! ## Operations -/

namespace Lifetime

variable {plugins : List (LoadedPlugin W)} {ops : List LifetimeOp} {l l' : Lifetime W}

/-- `Inv`, with the handles counted and the copies of the hooks made from the plugins. -/
structure HooksInv (plugins : List (LoadedPlugin W)) (ops : List LifetimeOp) (l : Lifetime W) :
    Prop extends Inv plugins ops l where
  handles : l.strongCount + ops.count .dropRuntime = 1 + ops.count .cloneRuntime
  hooks : ∀ hooks ∈ l.hooks, hooks.MadeFrom plugins

theorem Inv.madeFrom (h : Inv plugins ops l) :
    (PluginProxyHooks.fromLoaded l.plugins).MadeFrom plugins := by
  refine madeFrom_fromLoaded fun p hp => ?_
  rw [h.plugins_eq] at hp
  split_ifs at hp
  · cases hp
  · exact isLeftOf_of_mem_leftAfter hp

theorem shutdown_strongCount (i : Nat) (l : Lifetime W) :
    (l.shutdown i).strongCount = l.strongCount := by
  unfold Lifetime.shutdown
  split <;> rfl

theorem shutdown_hooks (i : Nat) (l : Lifetime W) : (l.shutdown i).hooks = l.hooks := by
  unfold Lifetime.shutdown
  split <;> rfl

theorem dropHandle_hooks (l : Lifetime W) : l.dropHandle.hooks = l.hooks := by
  unfold dropHandle
  split_ifs <;> rfl

theorem dropHandle_strongCount (h : 0 < l.strongCount) :
    l.dropHandle.strongCount + 1 = l.strongCount := by
  unfold dropHandle
  split_ifs with hlast
  · exact hlast.symm
  · dsimp only
    omega

theorem HooksInv.step (hnodup : (plugins.map (·.library)).Nodup) {op : LifetimeOp}
    (h : HooksInv plugins ops l) (hstep : Lifetime.step op l = .next l') :
    HooksInv plugins (ops ++ [op]) l' := by
  have hinv : Inv plugins (ops ++ [op]) l' := h.toInv.step hnodup hstep
  have hhandles := h.handles
  unfold Lifetime.step at hstep
  split_ifs at hstep with hop
  cases hstep
  have hlast : ∀ o : LifetimeOp, (ops ++ [op]).count o = ops.count o + if op = o then 1 else 0 := by
    intro o
    rw [List.count_append, List.count_singleton]
    simp only [beq_iff_eq]
  refine ⟨hinv, ?_, ?_⟩
  · rw [hlast, hlast]
    cases op with
    | shutdown i => simpa [LifetimeOp.apply, shutdown_strongCount] using hhandles
    | cloneRuntime =>
      have hcount : (LifetimeOp.cloneRuntime.apply l).strongCount = l.strongCount + 1 := rfl
      rw [hcount]
      simp only [if_true, reduceCtorEq, if_false]
      omega
    | dropRuntime =>
      have hcount := dropHandle_strongCount (of_decide_eq_true hop)
      simp only [LifetimeOp.apply, if_true, reduceCtorEq, if_false]
      omega
    | fromLoaded =>
      rw [LifetimeOp.apply, fromLoaded_eq (of_decide_eq_true hop)]
      simpa using hhandles
    | cloneHooks i => simpa [LifetimeOp.apply, cloneHooks] using hhandles
    | dropHooks i => simpa [LifetimeOp.apply, dropHooks] using hhandles
  · intro hooks hmem
    cases op with
    | shutdown i =>
      rw [LifetimeOp.apply, shutdown_hooks] at hmem
      exact h.hooks hooks hmem
    | cloneRuntime => exact h.hooks hooks hmem
    | dropRuntime =>
      rw [LifetimeOp.apply, dropHandle_hooks] at hmem
      exact h.hooks hooks hmem
    | fromLoaded =>
      rw [LifetimeOp.apply, fromLoaded_eq (of_decide_eq_true hop)] at hmem
      rcases List.mem_append.mp hmem with hmem | hmem
      · exact h.hooks hooks hmem
      · rw [List.mem_singleton.mp hmem]
        exact h.toInv.madeFrom
    | cloneHooks i =>
      rcases List.mem_append.mp hmem with hmem | hmem
      · exact h.hooks hooks hmem
      · exact h.hooks hooks (List.mem_of_getElem? (Option.mem_toList.mp hmem))
    | dropHooks i => exact h.hooks hooks (List.mem_of_mem_eraseIdx hmem)

theorem HooksInv.reaches {ops' : List LifetimeOp} (hnodup : (plugins.map (·.library)).Nodup)
    (h : HooksInv plugins ops l) (hrun : l.Reaches ops' l') : HooksInv plugins (ops ++ ops') l' := by
  refine forEach_history_next (R := fun xs => HooksInv plugins (ops ++ xs)) ?_ ?_ hrun
  · rwa [List.append_nil]
  · intro xs op t t' ht hstep
    rw [← List.append_assoc]
    exact ht.step hnodup hstep

/-- When a module of a plugin may be called. -/
theorem Inv.live_iff (h : Inv plugins ops l) {i : Nat} {plugin : LoadedPlugin W}
    (hi : plugins[i]? = some plugin) {proto : Protocol} {inst : PluginInstance}
    (hmodule : (proto, inst) ∈ plugin.modules.instances) :
    Live l.host.events plugin.library proto inst ↔ .shutdown i ∉ ops ∧ l.strongCount ≠ 0 := by
  have hmem : ∀ e : HostEvent, e.library = plugin.library →
      (e ∈ l.host.events ↔ e ∈ eventsOf plugin.library l.host.events) := by
    intro e he
    rw [eventsOf, List.mem_filter, decide_eq_true he]
    simp
  have hinit : .initialised plugin.library proto inst ∈ plugin.inits :=
    List.mem_map.mpr ⟨_, hmodule, rfl⟩
  have hshut : .shutDown plugin.library proto inst ∈ plugin.shutdowns :=
    List.mem_map.mpr ⟨_, hmodule, rfl⟩
  have hrecorded := h.recorded i plugin hi
  constructor
  · rintro ⟨-, hkept, hloaded⟩
    rw [hmem _ rfl, hrecorded] at hkept hloaded
    refine ⟨fun hbefore => hkept ?_, fun hzero => hloaded ?_⟩
    · rw [if_pos (.inl hbefore)]
      exact List.mem_append_left _ (List.mem_append_right _ hshut)
    · rw [if_pos hzero]
      exact List.mem_append_right _ (List.mem_singleton_self _)
  · rintro ⟨hbefore, hcount⟩
    rw [if_neg (not_or.mpr ⟨hbefore, hcount⟩), if_neg hcount, List.append_nil, List.append_nil]
      at hrecorded
    refine ⟨?_, ?_, ?_⟩
    · rw [hmem _ rfl, hrecorded]
      exact hinit
    · rw [hmem _ rfl, hrecorded]
      exact List.count_eq_zero.mp (plugin.count_inits _ _ _)
    · rw [hmem _ rfl, hrecorded]
      intro hunloaded
      obtain ⟨_, -, heq⟩ := List.mem_map.mp hunloaded
      cases heq

/-- The module is that of a plugin, and may be called until this was shut down or the last handle was
dropped. -/
def LiveWhileHeld {M : Type} (plugins : List (LoadedPlugin W)) (ops : List LifetimeOp)
    (events : List HostEvent) (proto : Protocol) (module : LoadedPluginModules W → Option M)
    (inst : M → PluginInstance) (m : M) : Prop :=
  ∃ (i : Nat) (plugin : LoadedPlugin W), plugins[i]? = some plugin ∧ module plugin.modules = some m ∧
    (Live events plugin.library proto (inst m) ↔
      .shutdown i ∉ ops ∧ ops.count .dropRuntime ≤ ops.count .cloneRuntime)

theorem HooksInv.liveWhileHeld (h : HooksInv plugins ops l) {M : Type} {proto : Protocol}
    {module : LoadedPluginModules W → Option M} {inst : M → PluginInstance} {m : M}
    (hmem : ∀ modules : LoadedPluginModules W, module modules = some m →
      (proto, inst m) ∈ modules.instances)
    (hm : IsModuleOf plugins module m) :
    LiveWhileHeld plugins ops l.host.events proto module inst m := by
  obtain ⟨i, plugin, hi, hmodule⟩ := hm
  have hhandles := h.handles
  have hheld : l.strongCount ≠ 0 ↔ ops.count .dropRuntime ≤ ops.count .cloneRuntime := by omega
  refine ⟨i, plugin, hi, hmodule, ?_⟩
  rw [h.live_iff hi (hmem plugin.modules hmodule), hheld]

end Lifetime

/-- **The hooks may be used while a runtime is left.** At every point of a lifetime, every module of
every copy of the hooks is that of a loaded plugin, and it is initialised, not shut down and loaded just
as long as there was no explicit shutdown of the plugin and not every clone of the runtime was
dropped. -/
theorem hooks_live_iff (env : HostEnv W) (fs : FsEnv) (paths : List Str) (w : W)
    (plugins : List (LoadedPlugin W)) (host : Host W)
    (hload : loadPlugins env fs paths (.start w) = (.ok plugins, host)) (ops : List LifetimeOp)
    (l : Lifetime W) (hrun : (Lifetime.build plugins host).Reaches ops l)
    (hooks : PluginProxyHooks W) (hmem : hooks ∈ l.hooks) :
    (∀ m ∈ hooks.httpModules,
      Lifetime.LiveWhileHeld plugins ops l.host.events .http (·.http) (·.inst) m) ∧
    (∀ m ∈ hooks.tcpModules,
      Lifetime.LiveWhileHeld plugins ops l.host.events .tcp (·.tcp) (·.inst) m) ∧
    (∀ m ∈ hooks.udpModules,
      Lifetime.LiveWhileHeld plugins ops l.host.events .udp (·.udp) (·.inst) m) := by
  obtain ⟨hnodup, hbuild⟩ := loadPlugins_inv hload
  have hstart : Lifetime.HooksInv plugins [] (.build plugins host) :=
    ⟨hbuild, rfl, fun _ h => absurd h List.not_mem_nil⟩
  have hinv : Lifetime.HooksInv plugins ops l := hstart.reaches hnodup hrun
  have hfrom := hinv.hooks hooks hmem
  refine ⟨fun m hm => hinv.liveWhileHeld ?_ (hfrom.http m hm),
    fun m hm => hinv.liveWhileHeld ?_ (hfrom.tcp m hm),
    fun m hm => hinv.liveWhileHeld ?_ (hfrom.udp m hm)⟩
  all_goals
    intro modules hmodule
    simp [LoadedPluginModules.instances, hmodule]

/-- The runtime is dropped before a copy of its hooks. -/
theorem twoModules_liveWhileHeld : ∃ plugins host l,
    loadPlugins twoModulesEnv oneFile ["two.so".toList] (.start ()) = (.ok plugins, host) ∧
    (Lifetime.build plugins host).Reaches [.fromLoaded, .cloneHooks 0, .dropRuntime] l ∧
    ∃ hooks ∈ l.hooks, ∀ m ∈ hooks.httpModules,
      Lifetime.LiveWhileHeld plugins [.fromLoaded, .cloneHooks 0, .dropRuntime] l.host.events .http
        (·.http) (·.inst) m :=
  ⟨_, _, _, rfl, rfl, _, List.mem_cons_self,
    (hooks_live_iff twoModulesEnv oneFile ["two.so".toList] () _ _ rfl
      [.fromLoaded, .cloneHooks 0, .dropRuntime] _ rfl _ List.mem_cons_self).1⟩

end Vakil
