import Vakil.Runtime.Proofs.LifetimeProofs
import Vakil.Sticky.Plugin
import Vakil.Sticky.Proofs.InitProofs

/-!
# Proofs: the boxes of the sticky plugin

Whatever else is loaded, and in whatever order the plugins are shut down and the handles of the runtime
are dropped, the boxes on the plugin's heap are the instances of those of its modules that have not been
shut down: no box is read after it was freed or freed twice, and with the last handle all of them are
gone. A start that fails loses a box only if it is the plugin's own init that failed, and then one.
-/

namespace Vakil.Sticky

open Boxes ForLoop

variable {V : Type} {env : PluginEnv V} {path : Str} {host : HostEnv (PluginWorld × V)}

/-! ## Other plugins -/

/-- A factory, and the init and the shutdown of what it makes, leave the sticky plugin's data alone. -/
def LeavesAlone {M : Type} (inst : M → PluginInstance) (init : M → PluginInitFn (PluginWorld × V))
    (shutdown : M → ShutdownFn (PluginWorld × V))
    (factory : PluginFactoryFn M (PluginWorld × V)) : Prop :=
  ∀ s, (factory s).2.1 = s.1 ∧ ∀ m, (factory s).1 = .ok m →
    (∀ ctx s, (init m (inst m) ctx s).2.1 = s.1) ∧ ∀ s, (shutdown m (inst m) s).2.1 = s.1

structure Foreign (root : PluginRootModule (PluginWorld × V)) : Prop where
  http : ∀ factory, root.createHttp = some factory → LeavesAlone (·.inst) (·.init) (·.shutdown) factory
  tcp : ∀ factory, root.createTcp = some factory → LeavesAlone (·.inst) (·.init) (·.shutdown) factory
  udp : ∀ factory, root.createUdp = some factory → LeavesAlone (·.inst) (·.init) (·.shutdown) factory

/-- The library at `path` is that of the sticky plugin, and the others leave its data alone. -/
structure Hosting (env : PluginEnv V) (path : Str) (host : HostEnv (PluginWorld × V)) : Prop where
  dlopen : ∀ p s, (host.dlopen p s).2.1 = s.1
  sticky : ∀ s dyn, (host.dlopen path s).1 = .ok dyn → dyn.getLibrary = .ok (getLibrary env)
  foreign : ∀ p s dyn getLib, p ≠ path → (host.dlopen p s).1 = .ok dyn → dyn.getLibrary = .ok getLib →
    ∀ s, (getLib s).2.1 = s.1 ∧ Foreign (getLib s).1

/-! ## Handles -/

/-- The boxes that a plugin owns: the instances of its modules, if it is the sticky plugin. -/
def handlesOf (path : Str) (plugin : LoadedPlugin (PluginWorld × V)) : List PluginInstance :=
  if plugin.library.path = path then plugin.modules.callbacks.map Prod.fst else []

/-- A shutdown frees the boxes of the plugin, and nothing else happens to the sticky plugin's data. -/
def Behaves (path : Str) (plugin : LoadedPlugin (PluginWorld × V)) : Prop :=
  ∀ callback ∈ plugin.modules.callbacks,
    if plugin.library.path = path then callback.2 = stickyShutdown
    else ∀ s, (callback.2 callback.1 s).2.1 = s.1

/-- What the sticky plugin's data is like while it owns the boxes. -/
structure Sane (owned : List PluginInstance) (w : PluginWorld) : Prop where
  owns : w.heap.Owns owned
  running : w.aborted = false

theorem Sane.stickyShutdown {inst : PluginInstance} {owned : List PluginInstance}
    {s : PluginWorld × V} (h : Sane (inst :: owned) s.1) :
    Sane owned (stickyShutdown inst s).2.1 ∧ (Sticky.stickyShutdown inst s).2.1.init = s.1.init := by
  have hne : inst ≠ 0 := fun h0 => h.owns.ne_zero (h0 ▸ List.mem_cons_self)
  unfold Sticky.stickyShutdown
  rw [if_neg hne]
  exact ⟨⟨h.owns.free, h.running⟩, rfl⟩

theorem Sane.perm {owned owned' : List PluginInstance} {w : PluginWorld} (h : Sane owned w)
    (hp : owned.Perm owned') : Sane owned' w :=
  ⟨h.owns.perm hp, h.running⟩

/-- **Shutting a plugin down** frees its boxes. -/
theorem Behaves.shutdown {plugin : LoadedPlugin (PluginWorld × V)} (hb : Behaves path plugin)
    {owned : List PluginInstance} {h : Host (PluginWorld × V)}
    (hs : Sane (handlesOf path plugin ++ owned) h.world.1) :
    Sane owned (plugin.shutdown h).2.world.1 ∧
      (plugin.shutdown h).2.world.1.init = h.world.1.init := by
  rw [LoadedPlugin.shutdown_world]
  unfold handlesOf at hs
  unfold Behaves at hb
  generalize h.world = s at hs ⊢
  generalize plugin.modules.callbacks = cs at hb hs ⊢
  by_cases hpath : plugin.library.path = path
  · rw [if_pos hpath] at hs
    induction cs generalizing s with
    | nil => exact ⟨hs, rfl⟩
    | cons c cs ih =>
      have hc := hb c List.mem_cons_self
      rw [if_pos hpath] at hc
      obtain ⟨hfreed, hinit⟩ := Sane.stickyShutdown (s := s) hs
      rw [List.foldl_cons, hc]
      obtain ⟨hrest, hinit'⟩ := ih _ (fun c hmem => hb c (List.mem_cons_of_mem _ hmem)) hfreed
      exact ⟨hrest, hinit'.trans hinit⟩
  · rw [if_neg hpath, List.nil_append] at hs
    have hkeep : (cs.foldl (fun w c => (c.2 c.1 w).2) s).1 = s.1 := by
      clear hs
      induction cs generalizing s with
      | nil => rfl
      | cons c cs ih =>
        have hc := hb c List.mem_cons_self
        rw [if_neg hpath] at hc
        rw [List.foldl_cons, ih _ fun c hmem => hb c (List.mem_cons_of_mem _ hmem), hc]
    rw [hkeep]
    exact ⟨hs, rfl⟩

theorem Behaves.emptied {plugin : LoadedPlugin (PluginWorld × V)} : Behaves path plugin.emptied :=
  fun _ h => absurd h List.not_mem_nil

theorem handlesOf_emptied {plugin : LoadedPlugin (PluginWorld × V)} :
    handlesOf path plugin.emptied = [] := by
  unfold handlesOf
  split_ifs <;> rfl

/-! ## Lifetimes -/

/-- The boxes are those of the plugins. -/
structure Ledger (path : Str) (plugins : List (LoadedPlugin (PluginWorld × V))) (w : PluginWorld) :
    Prop where
  sane : Sane (plugins.flatMap (handlesOf path)) w
  behaves : ∀ plugin ∈ plugins, Behaves path plugin

theorem Ledger.shutdown {plugins : List (LoadedPlugin (PluginWorld × V))}
    {h : Host (PluginWorld × V)} (hl : Ledger path plugins h.world.1) {i : Nat}
    {plugin : LoadedPlugin (PluginWorld × V)} (hi : plugins[i]? = some plugin) :
    Ledger path (plugins.set i plugin.emptied) (plugin.shutdown h).2.world.1 := by
  obtain ⟨hlt, hget⟩ := List.getElem?_eq_some_iff.mp hi
  obtain ⟨pre, post, hsplit, hset⟩ : ∃ pre post, plugins = pre ++ plugin :: post ∧
      plugins.set i plugin.emptied = pre ++ plugin.emptied :: post := by
    obtain ⟨pre, post, hsplit, -, hset⟩ := List.exists_of_set hlt
    exact ⟨pre, post, hget ▸ hsplit, hset⟩
  have hbehaves : Behaves path plugin := hl.behaves plugin (List.mem_of_getElem? hi)
  have hp : (plugins.flatMap (handlesOf path)).Perm
      (handlesOf path plugin ++ (pre ++ post).flatMap (handlesOf path)) := by
    rw [hsplit, List.flatMap_append, List.flatMap_cons, List.flatMap_append]
    exact List.perm_append_comm_assoc _ _ _
  obtain ⟨hsane, -⟩ := hbehaves.shutdown (hl.sane.perm hp)
  rw [hset]
  refine ⟨?_, ?_⟩
  · rw [List.flatMap_append, List.flatMap_cons, handlesOf_emptied, List.nil_append,
      ← List.flatMap_append]
    exact hsane
  · intro other hmem
    rcases List.mem_append.mp hmem with hmem | hmem
    · exact hl.behaves other (hsplit ▸ List.mem_append_left _ hmem)
    · rcases List.mem_cons.mp hmem with rfl | hmem
      · exact Behaves.emptied
      · exact hl.behaves other (hsplit ▸ List.mem_append_right _ (List.mem_cons_of_mem _ hmem))

/-- **Dropping the plugins** frees all their boxes. -/
theorem dropPlugins_sane {plugins : List (LoadedPlugin (PluginWorld × V))}
    (hb : ∀ plugin ∈ plugins, Behaves path plugin) {owned : List PluginInstance}
    {h : Host (PluginWorld × V)}
    (hs : Sane (plugins.flatMap (handlesOf path) ++ owned) h.world.1) :
    Sane owned (dropPlugins plugins h).world.1 ∧
      (dropPlugins plugins h).world.1.init = h.world.1.init := by
  induction plugins generalizing h with
  | nil => exact ⟨hs, rfl⟩
  | cons plugin plugins ih =>
    rw [List.flatMap_cons, List.append_assoc] at hs
    obtain ⟨hfirst, hinit⟩ := (hb plugin List.mem_cons_self).shutdown hs
    have hdrop : (plugin.drop h).world = (plugin.shutdown h).2.world := rfl
    rw [← hdrop] at hfirst hinit
    obtain ⟨hrest, hinit'⟩ := ih (fun p hp => hb p (List.mem_cons_of_mem _ hp)) hfirst
    exact ⟨hrest, hinit'.trans hinit⟩

theorem Ledger.step {op : LifetimeOp} {l l' : Lifetime (PluginWorld × V)}
    (hl : Ledger path l.plugins l.host.world.1) (hstep : Lifetime.step op l = .next l') :
    Ledger path l'.plugins l'.host.world.1 := by
  unfold Lifetime.step at hstep
  split_ifs at hstep with hop
  cases hstep
  cases op with
  | shutdown i =>
    have hlt : i < l.plugins.length := of_decide_eq_true hop
    have hget : l.plugins[i]? = some l.plugins[i] := List.getElem?_eq_getElem hlt
    rw [LifetimeOp.apply, Lifetime.shutdown_of_getElem? hget]
    exact hl.shutdown hget
  | cloneRuntime => exact hl
  | dropRuntime =>
    rw [LifetimeOp.apply]
    unfold Lifetime.dropHandle
    by_cases hlast : l.strongCount = 1
    · rw [if_pos hlast]
      have hsane : Sane (l.plugins.flatMap (handlesOf path) ++ []) l.host.world.1 := by
        rw [List.append_nil]
        exact hl.sane
      exact ⟨(dropPlugins_sane hl.behaves hsane).1, fun _ h => absurd h List.not_mem_nil⟩
    · rw [if_neg hlast]
      exact hl
  | fromLoaded =>
    rw [LifetimeOp.apply, Lifetime.fromLoaded_eq (of_decide_eq_true hop)]
    exact hl
  | cloneHooks i => exact hl
  | dropHooks i => exact hl

theorem Ledger.reaches {ops : List LifetimeOp} {l l' : Lifetime (PluginWorld × V)}
    (hl : Ledger path l.plugins l.host.world.1) (hrun : l.Reaches ops l') :
    Ledger path l'.plugins l'.host.world.1 := by
  refine forEach_history_next
    (R := fun _ (l : Lifetime (PluginWorld × V)) => Ledger path l.plugins l.host.world.1) hl ?_ hrun
  intro _ op t t' ht hstep
  exact ht.step hstep

/-! ## Loading another plugin -/

section Foreign

variable (lib : Library) (proto : Protocol) (ctx : PluginInitContext) (h : Host (PluginWorld × V))

theorem loadBlock_foreign {M : Type} {inst : M → PluginInstance}
    {init : M → PluginInitFn (PluginWorld × V)} {shutdown : M → ShutdownFn (PluginWorld × V)}
    {create : Option (PluginFactoryFn M (PluginWorld × V))}
    (hf : ∀ factory, create = some factory → LeavesAlone inst init shutdown factory) :
    (loadBlock lib proto inst init create ctx h).2.world.1 = h.world.1 ∧
      ∀ m, (loadBlock lib proto inst init create ctx h).1 = .ok (some m) →
        ∀ s, (shutdown m (inst m) s).2.1 = s.1 := by
  unfold loadBlock
  cases create with
  | none => exact ⟨rfl, fun _ hm => by cases hm⟩
  | some factory =>
    dsimp only
    obtain ⟨hmake, hmodule⟩ := hf factory rfl h.world
    cases hmade : factory h.world with
    | mk made s =>
    rw [hmade] at hmake hmodule
    cases made with
    | error e => exact ⟨hmake, fun _ hm => by cases hm⟩
    | ok m =>
      obtain ⟨hinit, hshutdown⟩ := hmodule m rfl
      have hkeep := (hinit ctx s).trans hmake
      dsimp only
      cases hran : init m (inst m) ctx s with
      | mk result s' =>
      rw [hran] at hkeep
      cases result with
      | error e => exact ⟨hkeep, fun _ hm => by cases hm⟩
      | ok u =>
        refine ⟨hkeep, ?_⟩
        rintro m' ⟨⟩
        exact hshutdown

theorem loadModules_foreign {root : PluginRootModule (PluginWorld × V)} (hf : Foreign root) :
    (loadModules lib root ctx h).2.world.1 = h.world.1 ∧
      ∀ modules, (loadModules lib root ctx h).1 = .ok modules →
        ∀ c ∈ modules.callbacks, ∀ s, (c.2 c.1 s).2.1 = s.1 := by
  unfold loadModules
  obtain ⟨hkeep, hhttp⟩ := loadBlock_foreign lib .http ctx h hf.http
  cases hload : loadBlock lib .http (·.inst) (·.init) root.createHttp ctx h with
  | mk http h₁ =>
  rw [hload] at hkeep hhttp
  cases http with
  | error e => exact ⟨hkeep, fun _ hm => by cases hm⟩
  | ok http =>
    dsimp only
    obtain ⟨hkeep₁, htcp⟩ := loadBlock_foreign lib .tcp ctx h₁ hf.tcp
    cases hload₁ : loadBlock lib .tcp (·.inst) (·.init) root.createTcp ctx h₁ with
    | mk tcp h₂ =>
    rw [hload₁] at hkeep₁ htcp
    cases tcp with
    | error e => exact ⟨hkeep₁.trans hkeep, fun _ hm => by cases hm⟩
    | ok tcp =>
      dsimp only
      obtain ⟨hkeep₂, hudp⟩ := loadBlock_foreign lib .udp ctx h₂ hf.udp
      cases hload₂ : loadBlock lib .udp (·.inst) (·.init) root.createUdp ctx h₂ with
      | mk udp h₃ =>
      rw [hload₂] at hkeep₂ hudp
      have hkept := hkeep₂.trans (hkeep₁.trans hkeep)
      cases udp with
      | error e => exact ⟨hkept, fun _ hm => by cases hm⟩
      | ok udp =>
        refine ⟨hkept, ?_⟩
        rintro modules ⟨⟩ c hc
        unfold LoadedPluginModules.callbacks at hc
        rcases List.mem_append.mp hc with hc | hc
        · rcases List.mem_append.mp hc with hc | hc
          · obtain ⟨m, rfl, rfl⟩ := Option.map_eq_some_iff.mp (Option.mem_toList.mp hc)
            exact hhttp m rfl
          · obtain ⟨m, rfl, rfl⟩ := Option.map_eq_some_iff.mp (Option.mem_toList.mp hc)
            exact htcp m rfl
        · obtain ⟨m, rfl, rfl⟩ := Option.map_eq_some_iff.mp (Option.mem_toList.mp hc)
          exact hudp m rfl

/-- A load of another plugin does nothing to the sticky plugin's data. -/
theorem load_foreign (hhost : Hosting env path host) {p : Str} (hp : p ≠ path) :
    (LoadedPlugin.load host p h).2.world.1 = h.world.1 ∧
      ∀ plugin, (LoadedPlugin.load host p h).1 = .ok plugin →
        Behaves path plugin ∧ handlesOf path plugin = [] := by
  unfold LoadedPlugin.load
  have hkeep := hhost.dlopen p h.world
  have hforeign := hhost.foreign p h.world
  cases hopen : host.dlopen p h.world with
  | mk opened s =>
  rw [hopen] at hkeep hforeign
  cases opened with
  | error e => exact ⟨hkeep, fun _ hm => by cases hm⟩
  | ok dyn =>
    dsimp only
    unfold LoadedPlugin.loadOpened
    cases hget : dyn.getLibrary with
    | error e => exact ⟨hkeep, fun _ hm => by cases hm⟩
    | ok getLib =>
      obtain ⟨hroot, hf⟩ := hforeign dyn getLib hp rfl hget s
      dsimp only
      cases hvalid : validateManifest (getLib s).1.manifest with
      | error e => exact ⟨hroot.trans hkeep, fun _ hm => by cases hm⟩
      | ok u =>
        dsimp only
        obtain ⟨hmodules, hcallbacks⟩ := loadModules_foreign ⟨h.nextHandle, p⟩
          (buildInitContext host p)
          (Host.setWorld { h with world := s, nextHandle := h.nextHandle + 1 } (getLib s).2) hf
        cases hload : loadModules ⟨h.nextHandle, p⟩ (getLib s).1 (buildInitContext host p)
            (Host.setWorld { h with world := s, nextHandle := h.nextHandle + 1 } (getLib s).2) with
        | mk modules h₁ =>
        rw [hload] at hmodules hcallbacks
        have hkept := hmodules.trans (hroot.trans hkeep)
        cases modules with
        | error e => exact ⟨hkept, fun _ hm => by cases hm⟩
        | ok modules =>
          refine ⟨hkept, ?_⟩
          rintro plugin ⟨⟩
          refine ⟨?_, if_neg hp⟩
          intro c hc
          rw [if_neg hp]
          exact hcallbacks modules rfl c hc

end Foreign

/-! ## Loading the sticky plugin -/

/-- No load has failed yet. -/
def Ready (init : InitProcess) : Prop := init = .new ∨ ∃ state, init = decided (.ok state)

section Sticky

variable {owned : List PluginInstance}

theorem initFn_cases (env : PluginEnv V) {s : PluginWorld × V} (hs : Sane owned s.1)
    (hr : Ready s.1.init) {inst : PluginInstance} (hinst : inst ∈ owned) (ctx : PluginInitContext) :
    (∃ state, initFn env inst ctx s = (.ok (), { s.1 with init := decided (.ok state) }, s.2)) ∨
      ∃ e message, s.1.init = .new ∧
        initFn env inst ctx s = (.error e, { s.1 with init := decided (.error message) }, s.2) := by
  have hne : inst ≠ 0 := fun h0 => hs.owns.ne_zero (h0 ▸ hinst)
  have href : moduleRef inst s.1 = s.1 := by
    unfold moduleRef
    rw [if_neg hne, hs.owns.read hinst]
  unfold initFn
  rw [href]
  dsimp only
  have hon : InitCall.OnModule ⟨inst, some ctx, env.readToString s.2, env.arcAddress s.2⟩ ctx :=
    ⟨hne, rfl⟩
  rcases hr with hnew | ⟨state, hstate⟩
  · obtain ⟨result, hload, hensure⟩ := ensureState_new env.fromToml ctx
      ⟨inst, some ctx, env.readToString s.2, env.arcAddress s.2⟩
    rw [hnew, stickyInit_onModule hon hensure, hload]
    cases result with
    | ok state => exact .inl ⟨state, rfl⟩
    | error message => exact .inr ⟨_, message, rfl, rfl⟩
  · have hensure := ensureState_decided env.fromToml (.ok state) ctx
      ⟨inst, some ctx, env.readToString s.2, env.arcAddress s.2⟩
    rw [hstate, stickyInit_onModule hon hensure]
    exact .inl ⟨state, rfl⟩

/-- What a protocol block of the sticky plugin comes to: a box for the module, whose init fails only if
nothing has been decided before. -/
def BlockResult {M : Type} (mk : PluginInstance → M) (owned : List PluginInstance)
    (before : InitProcess) (run : Except Str (Option M) × Host (PluginWorld × V)) : Prop :=
  (∃ inst state h', run = (.ok (some (mk inst)), h') ∧ Sane (owned ++ [inst]) h'.world.1 ∧
    h'.world.1.init = decided (.ok state)) ∨
  ∃ e inst message h', run = (.error e, h') ∧ before = .new ∧ Sane (owned ++ [inst]) h'.world.1 ∧
    h'.world.1.init = decided (.error message)

theorem loadBlock_sticky {M : Type} (mk : PluginInstance → M) (instOf : M → PluginInstance)
    (init : M → PluginInitFn (PluginWorld × V)) (factory : PluginFactoryFn M (PluginWorld × V))
    (hinst : ∀ i, instOf (mk i) = i) (hinit : ∀ i, init (mk i) = initFn env)
    (hf : ∀ s, factory s = (.ok (mk (moduleInstance env s.1).1), (moduleInstance env s.1).2, s.2))
    (lib : Library) (proto : Protocol) (ctx : PluginInitContext) {h : Host (PluginWorld × V)}
    (hs : Sane owned h.world.1) (hr : Ready h.world.1.init) :
    BlockResult mk owned h.world.1.init (loadBlock lib proto instOf init (some factory) ctx h) := by
  have hbox : Sane (owned ++ [(moduleInstance env h.world.1).1]) (moduleInstance env h.world.1).2 :=
    ⟨hs.owns.box env.allocator, hs.running⟩
  have hmem : (moduleInstance env h.world.1).1 ∈ owned ++ [(moduleInstance env h.world.1).1] := by simp
  unfold loadBlock
  dsimp only
  rw [hf]
  dsimp only
  rw [hinst, hinit]
  rcases initFn_cases env (s := ((moduleInstance env h.world.1).2, h.world.2)) hbox hr hmem ctx with
    ⟨state, hran⟩ | ⟨e, message, hnew, hran⟩
  · rw [hran]
    exact .inl ⟨_, state, _, rfl, ⟨hbox.owns, hbox.running⟩, rfl⟩
  · rw [hran]
    exact .inr ⟨_, _, message, _, rfl, hnew, ⟨hbox.owns, hbox.running⟩, rfl⟩

/-- What the sticky plugin's data is like after loading has failed: if the plugin's own init failed,
there is one box more. -/
def Failed (owned : List PluginInstance) (w : PluginWorld) : Prop :=
  (Sane owned w ∧ Ready w.init) ∨
    ∃ inst message, Sane (owned ++ [inst]) w ∧ w.init = decided (.error message)

theorem loadModules_sticky (env : PluginEnv V) (lib : Library) (ctx : PluginInitContext) {h : Host (PluginWorld × V)}
    (hs : Sane owned h.world.1) (hr : Ready h.world.1.init) :
    (∃ tcp udp h', loadModules lib (root env) ctx h =
        (.ok { tcp := some (tcpModule env tcp), udp := some (udpModule env udp) }, h') ∧
      Sane (owned ++ [tcp, udp]) h'.world.1 ∧ Ready h'.world.1.init) ∨
    ∃ e h', loadModules lib (root env) ctx h = (.error e, h') ∧ Failed owned h'.world.1 := by
  have hhttp : loadBlock lib .http (·.inst) (·.init) (root env).createHttp ctx h = (.ok none, h) := rfl
  have htcp : BlockResult (tcpModule env) owned h.world.1.init
      (loadBlock lib .tcp (·.inst) (·.init) (root env).createTcp ctx h) :=
    loadBlock_sticky (tcpModule env) (·.inst) (·.init) (createTcp env) (fun _ => rfl) (fun _ => rfl)
      (fun _ => rfl) lib .tcp ctx hs hr
  unfold loadModules
  rw [hhttp]
  dsimp only
  rcases htcp with ⟨tcp, state, h₁, htcp, hs₁, hinit₁⟩ | ⟨e, tcp, message, h₁, htcp, -, hs₁, hinit₁⟩
  · rw [htcp]
    dsimp only
    have hudp : BlockResult (udpModule env) (owned ++ [tcp]) h₁.world.1.init
        (loadBlock lib .udp (·.inst) (·.init) (root env).createUdp ctx h₁) :=
      loadBlock_sticky (udpModule env) (·.inst) (·.init) (createUdp env) (fun _ => rfl)
        (fun _ => rfl) (fun _ => rfl) lib .udp ctx hs₁ (.inr ⟨state, hinit₁⟩)
    rcases hudp with ⟨udp, state', h₂, hudp, hs₂, hinit₂⟩ | ⟨e, udp, message, h₂, -, hnew, -, -⟩
    · rw [hudp]
      rw [List.append_assoc, List.singleton_append] at hs₂
      exact .inl ⟨tcp, udp, h₂, rfl, hs₂, .inr ⟨state', hinit₂⟩⟩
    · -- The TCP module's init has decided the slot.
      rw [hinit₁] at hnew
      cases hnew
  · rw [htcp]
    exact .inr ⟨e, h₁, rfl, .inr ⟨tcp, message, hs₁, hinit₁⟩⟩

/-- **A load of the sticky plugin** that succeeds gives the plugin its boxes. -/
theorem load_sticky (hhost : Hosting env path host) {h : Host (PluginWorld × V)}
    (hs : Sane owned h.world.1) (hr : Ready h.world.1.init) :
    (∃ plugin h', LoadedPlugin.load host path h = (.ok plugin, h') ∧ Behaves path plugin ∧
      Sane (owned ++ handlesOf path plugin) h'.world.1 ∧ Ready h'.world.1.init) ∨
    ∃ e h', LoadedPlugin.load host path h = (.error e, h') ∧ Failed owned h'.world.1 := by
  unfold LoadedPlugin.load
  have hkeep := hhost.dlopen path h.world
  have hsticky := hhost.sticky h.world
  cases hopen : host.dlopen path h.world with
  | mk opened s =>
  rw [hopen] at hkeep hsticky
  rw [← hkeep] at hs hr
  cases opened with
  | error e => exact .inr ⟨_, _, rfl, .inl ⟨hs, hr⟩⟩
  | ok dyn =>
    have hvalid : validateManifest (root env).manifest = .ok () := rfl
    dsimp only
    unfold LoadedPlugin.loadOpened
    rw [hsticky dyn rfl]
    dsimp only [getLibrary]
    rw [hvalid]
    dsimp only
    rcases loadModules_sticky env ⟨h.nextHandle, path⟩ (buildInitContext host path)
      (h := Host.setWorld { h with world := s, nextHandle := h.nextHandle + 1 } s) hs hr with
      ⟨tcp, udp, h₁, hload, hs₁, hr₁⟩ | ⟨e, h₁, hload, hfailed⟩
    · rw [hload]
      refine .inl ⟨_, h₁, rfl, ?_, ?_, hr₁⟩
      · intro c hc
        rw [if_pos rfl]
        rcases List.mem_cons.mp hc with rfl | hc
        · rfl
        · rw [List.mem_singleton.mp hc]
          rfl
      · have hhandles : handlesOf path ⟨root env,
            { tcp := some (tcpModule env tcp), udp := some (udpModule env udp) },
            ⟨h.nextHandle, path⟩⟩ = [tcp, udp] := if_pos rfl
        rw [hhandles]
        exact hs₁
    · rw [hload]
      exact .inr ⟨_, _, rfl, hfailed⟩

end Sticky

/-! ## Start-up -/

/-- Every load so far has succeeded. -/
structure LoadingLedger (path : Str) (l : Loading (PluginWorld × V)) : Prop where
  ledger : Ledger path l.plugins l.host.world.1
  ready : Ready l.host.world.1.init

/-- Loading was given up; the plugins loaded so far are still to be dropped. -/
structure GivenUp (path : Str) (l : Loading (PluginWorld × V)) : Prop where
  behaves : ∀ plugin ∈ l.plugins, Behaves path plugin
  failed : Failed (l.plugins.flatMap (handlesOf path)) l.host.world.1

section Loops

variable {fs : FsEnv} {l : Loading (PluginWorld × V)}

theorem LoadingLedger.giveUp (hl : LoadingLedger path l) : GivenUp path l :=
  ⟨hl.ledger.behaves, .inl ⟨hl.ledger.sane, hl.ready⟩⟩

theorem LoadingLedger.push {plugin : LoadedPlugin (PluginWorld × V)} {h : Host (PluginWorld × V)}
    (hl : LoadingLedger path l) (hb : Behaves path plugin)
    (hs : Sane (l.plugins.flatMap (handlesOf path) ++ handlesOf path plugin) h.world.1)
    (hr : Ready h.world.1.init) : LoadingLedger path ⟨l.plugins ++ [plugin], h⟩ := by
  refine ⟨⟨?_, ?_⟩, hr⟩
  · rw [List.flatMap_append, List.flatMap_singleton]
    exact hs
  · intro p hp
    rcases List.mem_append.mp hp with hp | hp
    · exact hl.ledger.behaves p hp
    · rw [List.mem_singleton.mp hp]
      exact hb

theorem pushLoaded_ledger (hhost : Hosting env path host) (p : Str) (hl : LoadingLedger path l) :
    (pushLoaded host p l).Sat (LoadingLedger path) fun _ => GivenUp path := by
  unfold pushLoaded
  by_cases hp : p = path
  · subst hp
    rcases load_sticky hhost hl.ledger.sane hl.ready with
      ⟨plugin, h, hload, hb, hs, hr⟩ | ⟨e, h, hload, hfailed⟩
    · rw [hload]
      exact hl.push hb hs hr
    · rw [hload]
      exact ⟨hl.ledger.behaves, hfailed⟩
  · obtain ⟨hkeep, hplugin⟩ := load_foreign l.host hhost hp
    cases hload : LoadedPlugin.load host p l.host with
    | mk result h =>
    rw [hload] at hkeep hplugin
    have hs : Sane (l.plugins.flatMap (handlesOf path)) h.world.1 := hkeep ▸ hl.ledger.sane
    have hr : Ready h.world.1.init := hkeep ▸ hl.ready
    cases result with
    | error e => exact ⟨hl.ledger.behaves, .inl ⟨hs, hr⟩⟩
    | ok plugin =>
      obtain ⟨hb, hhandles⟩ := hplugin plugin rfl
      refine hl.push hb ?_ hr
      rw [hhandles, List.append_nil]
      exact hs

theorem entryRound_ledger (hhost : Hosting env path host) (entry : Except Str Str)
    (hl : LoadingLedger path l) :
    (entryRound host fs entry l).Sat (LoadingLedger path) fun _ => GivenUp path := by
  unfold entryRound
  cases entry with
  | error e => exact hl.giveUp
  | ok candidate =>
    dsimp only
    split_ifs
    · exact pushLoaded_ledger hhost candidate hl
    · exact hl

theorem pathRound_ledger (hhost : Hosting env path host) (p : Str) (hl : LoadingLedger path l) :
    (pathRound host fs p l).Sat (LoadingLedger path) fun _ => GivenUp path := by
  unfold pathRound
  split_ifs
  · cases fs.readDir p with
    | error e => exact hl.giveUp
    | ok entries => exact forEach_sat (fun entry _ _ ht => entryRound_ledger hhost entry ht) hl
  · exact pushLoaded_ledger hhost p hl
  · exact hl

theorem pathLoop_ledger (hhost : Hosting env path host) (fs : FsEnv) (paths : List Str) (v : V) :
    (forEach (pathRound host fs) paths ⟨[], .start (.new, v)⟩).Sat (LoadingLedger path)
      fun _ => GivenUp path := by
  have hstart : LoadingLedger path ⟨[], .start (PluginWorld.new, v)⟩ :=
    ⟨⟨⟨.empty, rfl⟩, fun _ h => absurd h List.not_mem_nil⟩, .inl rfl⟩
  exact forEach_sat (fun p _ _ ht => pathRound_ledger hhost p ht) hstart

end Loops

/-- Dropping what was loaded before leaves what the failing load left. -/
theorem GivenUp.dropPlugins {l : Loading (PluginWorld × V)} (hl : GivenUp path l) :
    Failed [] (dropPlugins l.plugins l.host).world.1 := by
  rcases hl.failed with ⟨hs, hr⟩ | ⟨inst, message, hs, hinit⟩
  · rw [← List.append_nil (l.plugins.flatMap _)] at hs
    obtain ⟨hdropped, hinit⟩ := dropPlugins_sane hl.behaves hs
    exact .inl ⟨hdropped, hinit ▸ hr⟩
  · obtain ⟨hdropped, hinit'⟩ := dropPlugins_sane hl.behaves hs
    exact .inr ⟨inst, message, hdropped, hinit'.trans hinit⟩

/-- **No box is freed twice, used after it was freed or lost.** At every point of every lifetime, with
any other plugins, the boxes on the heap are the instances of the sticky plugin's modules that have not
been shut down, one for each; when the last handle of the runtime has been dropped there is none left. -/
theorem handles_balanced (env : PluginEnv V) (path : Str) (host : HostEnv (PluginWorld × V))
    (hhost : Hosting env path host) (fs : FsEnv) (paths : List Str) (v : V)
    (plugins : List (LoadedPlugin (PluginWorld × V))) (h : Host (PluginWorld × V))
    (hload : loadPlugins host fs paths (.start (.new, v)) = (.ok plugins, h))
    (ops : List LifetimeOp) (l : Lifetime (PluginWorld × V))
    (hrun : (Lifetime.build plugins h).Reaches ops l) :
    l.host.world.1.heap.Owns (l.plugins.flatMap (handlesOf path)) ∧
      l.host.world.1.aborted = false ∧
      (l.strongCount = 0 → l.host.world.1.heap.live = []) := by
  have hstart : Ledger path plugins h.world.1 := by
    have hloop := pathLoop_ledger hhost fs paths v
    unfold loadPlugins at hload
    cases hrounds : forEach (pathRound host fs) paths ⟨[], .start (.new, v)⟩ with
    | stop e l => rw [hrounds] at hload; cases hload
    | next l =>
      rw [hrounds] at hload hloop
      cases hload
      exact hloop.ledger
  have hl : Ledger path l.plugins l.host.world.1 := Ledger.reaches hstart hrun
  refine ⟨hl.sane.owns, hl.sane.running, fun hend => ?_⟩
  obtain ⟨hnodup, hbuild⟩ := loadPlugins_inv hload
  have hempty : l.plugins = [] := by
    rw [(hrun.inv hnodup hbuild).plugins_eq, if_pos hend]
  have howns := hl.sane.owns.live
  rw [hempty] at howns
  exact howns.eq_nil

/-- The sticky plugin in `sticky.so`, and no other. -/
def stickyEnv (fromToml : Str → Except Str FileConfig) : PluginEnv Unit where
  allocator := .bump
  fromToml := fromToml
  readToString _ _ := .ok []
  arcAddress _ := 1

def stickyHost (env : PluginEnv Unit) : HostEnv (PluginWorld × Unit) where
  dlopen p s :=
    (if p = "sticky.so".toList then .ok ⟨.ok (getLibrary env)⟩ else .error "not found".toList, s)
  parent _ := none
  vars := []

theorem hosting_stickyHost (env : PluginEnv Unit) :
    Hosting env "sticky.so".toList (stickyHost env) := by
  refine ⟨fun _ _ => rfl, ?_, ?_⟩
  · intro s dyn hdyn
    have hopen : ((stickyHost env).dlopen "sticky.so".toList s).1 = .ok ⟨.ok (getLibrary env)⟩ := rfl
    rw [hopen] at hdyn
    cases hdyn
    rfl
  · intro p s dyn getLib hp hdyn
    have hopen : ((stickyHost env).dlopen p s).1 = .error "not found".toList := if_neg hp
    rw [hopen] at hdyn
    cases hdyn

/-- The library is listed twice, and the first plugin is shut down twice. -/
theorem handles_balanced_twice : ∃ plugins h l,
    loadPlugins (stickyHost (stickyEnv fun _ => .ok oneBackend)) oneFile
      ["sticky.so".toList, "sticky.so".toList] (.start (.new, ())) = (.ok plugins, h) ∧
    (Lifetime.build plugins h).Reaches [.shutdown 0, .cloneRuntime, .shutdown 0, .dropRuntime,
      .dropRuntime] l ∧ h.world.1.heap.live = [4, 3, 2, 1] ∧ l.host.world.1.heap.live = [] := by
  refine ⟨_, _, _, rfl, rfl, rfl, ?_⟩
  exact (handles_balanced (stickyEnv fun _ => .ok oneBackend) "sticky.so".toList
    (stickyHost (stickyEnv fun _ => .ok oneBackend)) (hosting_stickyHost _) oneFile
    ["sticky.so".toList, "sticky.so".toList] () _ _ rfl
    [.shutdown 0, .cloneRuntime, .shutdown 0, .dropRuntime, .dropRuntime] _ rfl).2.2 rfl

/-- **A failed start loses at most one box**, and one exactly if it was the sticky plugin that failed to
load its configuration. -/
theorem failed_start_leak (env : PluginEnv V) (path : Str) (host : HostEnv (PluginWorld × V))
    (hhost : Hosting env path host) (fs : FsEnv) (paths : List Str) (v : V) (e : Str)
    (h : Host (PluginWorld × V))
    (hload : loadPlugins host fs paths (.start (.new, v)) = (.error e, h)) :
    h.world.1.heap.corrupt = false ∧ h.world.1.aborted = false ∧
      h.world.1.heap.live.length = if h.world.1.init.slot.value.initError.isSome then 1 else 0 := by
  have hfailed : Failed [] h.world.1 := by
    have hloop := pathLoop_ledger hhost fs paths v
    unfold loadPlugins at hload
    cases hrounds : forEach (pathRound host fs) paths ⟨[], .start (.new, v)⟩ with
    | next l => rw [hrounds] at hload; cases hload
    | stop e l =>
      rw [hrounds] at hload hloop
      cases hload
      exact hloop.dropPlugins
  rcases hfailed with ⟨hs, hr⟩ | ⟨inst, message, hs, hinit⟩
  · have hlive : h.world.1.heap.live = [] := hs.owns.live.eq_nil
    have hnone : h.world.1.init.slot.value.initError = none := by
      rcases hr with hnew | ⟨state, hstate⟩
      · rw [hnew]
        rfl
      · rw [hstate]
        rfl
    refine ⟨hs.owns.sound, hs.running, ?_⟩
    rw [hlive, hnone]
    rfl
  · have hlive : h.world.1.heap.live.length = 1 := hs.owns.live.length_eq
    refine ⟨hs.owns.sound, hs.running, ?_⟩
    rw [hlive, hinit]
    rfl

theorem failed_start_leak_unparsable : ∃ e h,
    loadPlugins (stickyHost (stickyEnv fun _ => .error "expected value".toList)) oneFile
      ["sticky.so".toList] (.start (.new, ())) = (.error e, h) ∧ h.world.1.heap.live.length = 1 := by
  refine ⟨_, _, rfl, ?_⟩
  exact (failed_start_leak (stickyEnv fun _ => .error "expected value".toList) "sticky.so".toList
    (stickyHost (stickyEnv fun _ => .error "expected value".toList)) (hosting_stickyHost _) oneFile
    ["sticky.so".toList] () _ _ rfl).2.2

end Vakil.Sticky
