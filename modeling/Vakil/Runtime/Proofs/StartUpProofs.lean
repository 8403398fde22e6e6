import Vakil.Runtime.StartUp
import Vakil.Runtime.Proofs.HookUseProofs

/-!
# Proofs: what the runtime starts with

A library gets into the hook chains only by way of its manifest, its factories and the inits of what
they made (`start_serves_vetted`). One whose manifest does not fit ends the start before any of its
factories is called (`start_refuses_incompatible`).
-/

namespace Vakil

open ForLoop StableSort

variable {W : Type}

/-! ## The environment -/

theorem envVar_setEnvVar (name value other : Str) (vars : List KVPair) :
    envVar (setEnvVar name value vars) other =
      if other = name then some value else envVar vars other := by
  induction vars with
  | nil =>
    by_cases hother : other = name
    · simp [setEnvVar, envVar, hother]
    · have hne : name ≠ other := Ne.symm hother
      simp [setEnvVar, envVar, hother, hne]
  | cons entry vars ih =>
    unfold envVar at ih ⊢
    rw [setEnvVar]
    by_cases hentry : entry.name = name
    · rw [if_pos hentry]
      by_cases hother : other = name
      · simp [hother]
      · have hne : name ≠ other := Ne.symm hother
        simp [hother, hne, hentry]
    · rw [if_neg hentry]
      by_cases hfound : entry.name = other
      · have hne : other ≠ name := fun h => hentry (hfound.trans h)
        simp [hfound, hne]
      · simp only [List.find?_cons, hfound, decide_false]
        exact ih

/-- A config file given on the command line takes the place of the one in the environment, and nothing
else in the environment changes. -/
theorem Process.envVar_environment (p : Process W) (cli : Cli) (name : Str) :
    envVar (p.environment cli) name =
      if name = configVar then cli.config.or (envVar p.vars name) else envVar p.vars name := by
  unfold environment
  cases hconfig : cli.config with
  | none => simp
  | some path =>
    dsimp only
    rw [envVar_setEnvVar]
    rfl

/-! ## One plugin -/

/-- The host may use a plugin with this manifest. -/
def Compatible (manifest : PluginManifest) : Prop :=
  manifest.version.major = hostAbiVersion.major ∧ manifest.version.minor ≤ hostAbiVersion.minor

theorem validateManifest_ok_iff {manifest : PluginManifest} :
    validateManifest manifest = .ok () ↔ Compatible manifest := by
  unfold validateManifest Compatible
  by_cases hmajor : manifest.version.major = hostAbiVersion.major
  · rw [if_neg (not_not.mpr hmajor)]
    by_cases hminor : manifest.version.minor ≤ hostAbiVersion.minor
    · rw [if_neg (UInt8.not_lt.mpr hminor)]
      exact iff_of_true rfl ⟨hmajor, hminor⟩
    · rw [if_pos (UInt8.not_le.mp hminor)]
      exact iff_of_false nofun fun h => hminor h.2
  · rw [if_pos hmajor]
    exact iff_of_false nofun fun h => hmajor h.1

/-- Opening the library at the path and calling its `get_library` gives the root; `w` and `w'` are the
plugins' state before and after. -/
def RootOf (env : HostEnv W) (path : Str) (w : W) (root : PluginRootModule W) (w' : W) : Prop :=
  ∃ dyn w₁ getLibrary, env.dlopen path w = (.ok dyn, w₁) ∧ dyn.getLibrary = .ok getLibrary ∧
    getLibrary w₁ = (root, w')

/-- The module of one protocol, if the root has a factory for it: the factory, called in the first
state, made it and its init succeeded, which left the last one. -/
inductive Made {M : Type} (inst : M → PluginInstance) (init : M → PluginInitFn W)
    (ctx : PluginInitContext) : W → Option (PluginFactoryFn M W) → Option M → W → Prop where
  | absent (w : W) : Made inst init ctx w none none w
  | made {factory : PluginFactoryFn M W} {m : M} {w w₁ w' : W} (hmake : factory w = (.ok m, w₁))
      (hinit : init m (inst m) ctx w₁ = (.ok (), w')) :
      Made inst init ctx w (some factory) (some m) w'

theorem made_of_loadBlock {M : Type} {lib : Library} {proto : Protocol} {inst : M → PluginInstance}
    {init : M → PluginInitFn W} {create : Option (PluginFactoryFn M W)} {ctx : PluginInitContext}
    {h h' : Host W} {module : Option M}
    (hload : loadBlock lib proto inst init create ctx h = (.ok module, h')) :
    Made inst init ctx h.world create module h'.world := by
  unfold loadBlock at hload
  cases create with
  | none =>
    cases hload
    exact .absent h.world
  | some factory =>
    dsimp only at hload
    cases hmake : factory h.world with
    | mk made w =>
    rw [hmake] at hload
    cases made with
    | error e => cases hload
    | ok m =>
      dsimp only at hload
      cases hinit : init m (inst m) ctx w with
      | mk result w' =>
      rw [hinit] at hload
      cases result with
      | error e => cases hload
      | ok u =>
        cases hload
        exact .made hmake hinit

/-- The states of the plugins while one of them is loaded. -/
structure LoadStates (W : Type) where
  found : W
  rooted : W
  afterHttp : W
  afterTcp : W
  left : W

/-- The state in which the factory for the protocol is called. -/
def LoadStates.before (t : LoadStates W) : Protocol → W
  | .http => t.rooted
  | .tcp => t.afterHttp
  | .udp => t.afterTcp

def LoadStates.after (t : LoadStates W) : Protocol → W
  | .http => t.afterHttp
  | .tcp => t.afterTcp
  | .udp => t.left

/-- What the host has checked about a plugin before it uses it. -/
structure Vetted (env : HostEnv W) (plugin : LoadedPlugin W) (t : LoadStates W) : Prop where
  root : RootOf env plugin.library.path t.found plugin.root t.rooted
  compatible : Compatible plugin.root.manifest
  http : Made (·.inst) (·.init) (buildInitContext env plugin.library.path) (t.before .http)
    plugin.root.createHttp plugin.modules.http (t.after .http)
  tcp : Made (·.inst) (·.init) (buildInitContext env plugin.library.path) (t.before .tcp)
    plugin.root.createTcp plugin.modules.tcp (t.after .tcp)
  udp : Made (·.inst) (·.init) (buildInitContext env plugin.library.path) (t.before .udp)
    plugin.root.createUdp plugin.modules.udp (t.after .udp)

theorem made_of_loadModules {lib : Library} {root : PluginRootModule W} {ctx : PluginInitContext}
    {h h' : Host W} {modules : LoadedPluginModules W}
    (hload : loadModules lib root ctx h = (.ok modules, h')) :
    ∃ w₁ w₂, Made (·.inst) (·.init) ctx h.world root.createHttp modules.http w₁ ∧
      Made (·.inst) (·.init) ctx w₁ root.createTcp modules.tcp w₂ ∧
      Made (·.inst) (·.init) ctx w₂ root.createUdp modules.udp h'.world := by
  unfold loadModules at hload
  cases hhttp : loadBlock lib .http (·.inst) (·.init) root.createHttp ctx h with
  | mk http h₁ =>
  rw [hhttp] at hload
  cases http with
  | error e => cases hload
  | ok http =>
    dsimp only at hload
    cases htcp : loadBlock lib .tcp (·.inst) (·.init) root.createTcp ctx h₁ with
    | mk tcp h₂ =>
    rw [htcp] at hload
    cases tcp with
    | error e => cases hload
    | ok tcp =>
      dsimp only at hload
      cases hudp : loadBlock lib .udp (·.inst) (·.init) root.createUdp ctx h₂ with
      | mk udp h₃ =>
      rw [hudp] at hload
      cases udp with
      | error e => cases hload
      | ok udp =>
        cases hload
        exact ⟨h₁.world, h₂.world, made_of_loadBlock hhttp, made_of_loadBlock htcp,
          made_of_loadBlock hudp⟩

theorem LoadedPlugin.load_vetted {env : HostEnv W} {path : Str} {h h' : Host W}
    {plugin : LoadedPlugin W} (hload : LoadedPlugin.load env path h = (.ok plugin, h')) :
    ∃ t : LoadStates W, t.found = h.world ∧ t.left = h'.world ∧ Vetted env plugin t := by
  unfold LoadedPlugin.load at hload
  cases hopen : env.dlopen path h.world with
  | mk opened w =>
  rw [hopen] at hload
  cases opened with
  | error e => cases hload
  | ok dyn =>
    dsimp only at hload
    unfold loadOpened at hload
    cases hget : dyn.getLibrary with
    | error e => rw [hget] at hload; cases hload
    | ok getLibrary =>
      rw [hget] at hload
      dsimp only at hload
      cases hvalid : validateManifest (getLibrary w).1.manifest with
      | error e => rw [hvalid] at hload; cases hload
      | ok u =>
        rw [hvalid] at hload
        dsimp only at hload
        cases hmodules : loadModules ⟨h.nextHandle, path⟩ (getLibrary w).1
            (buildInitContext env path)
            (Host.setWorld { h with world := w, nextHandle := h.nextHandle + 1 } (getLibrary w).2) with
        | mk modules h₁ =>
        rw [hmodules] at hload
        cases modules with
        | error e => cases hload
        | ok modules =>
          cases hload
          obtain ⟨w₁, w₂, hhttp, htcp, hudp⟩ := made_of_loadModules hmodules
          exact ⟨⟨h.world, (getLibrary w).2, w₁, w₂, h'.world⟩, rfl, rfl,
            ⟨dyn, w, getLibrary, hopen, hget, rfl⟩, validateManifest_ok_iff.mp hvalid, hhttp, htcp,
            hudp⟩

/-! ## The loads of a run -/

/-- Going through the paths from `w`, the host came to the plugin's library in the state `found`, and
`plugin` is what the load gave, which left the state `left`. -/
def LoadedAt (env : HostEnv W) (fs : FsEnv) (paths : List Str) (w : W) (plugin : LoadedPlugin W)
    (found left : Host W) : Prop :=
  ∃ before, ReachesLoad env fs paths (.start w) plugin.library.path ⟨before, found⟩ ∧
    LoadedPlugin.load env plugin.library.path found = (.ok plugin, left)

section LoadedAt

variable {env : HostEnv W} {fs : FsEnv}

theorem pushLoaded_new {path : Str} {l l' : Loading W} (h : pushLoaded env path l = .next l') :
    ∃ plugin, LoadedPlugin.load env path l.host = (.ok plugin, l'.host) ∧
      l'.plugins = l.plugins ++ [plugin] ∧ plugin.library.path = path := by
  have hspec := LoadedPlugin.load_spec env path l.host
  unfold pushLoaded at h
  cases hload : LoadedPlugin.load env path l.host with
  | mk result host =>
  rw [hload] at h hspec
  cases result with
  | error e => cases h
  | ok plugin =>
    cases h
    exact ⟨plugin, rfl, rfl, by rw [hspec.2.1]⟩

/-- The plugins that the entries of a directory add. -/
theorem entries_new {entries : List (Except Str Str)} {l l' : Loading W}
    (h : forEach (entryRound env fs) entries l = .next l') :
    ∀ plugin ∈ l'.plugins, plugin ∈ l.plugins ∨ ∃ pre post t left,
      entries = pre ++ .ok plugin.library.path :: post ∧ forEach (entryRound env fs) pre l = .next t ∧
        (fs.isFile plugin.library.path && isPluginLibrary fs plugin.library.path) = true ∧
        LoadedPlugin.load env plugin.library.path t.host = (.ok plugin, left) := by
  induction entries generalizing l with
  | nil =>
    cases h
    exact fun plugin hp => .inl hp
  | cons entry entries ih =>
    obtain ⟨l₁, hentry, hrest⟩ := forEach_cons_eq_next_iff.mp h
    intro plugin hp
    rcases ih hrest plugin hp with hp | ⟨pre, post, t, left, rfl, hpre, hlib, hload⟩
    · unfold entryRound at hentry
      cases entry with
      | error e => cases hentry
      | ok candidate =>
        dsimp only at hentry
        split_ifs at hentry with hlib
        · obtain ⟨new, hload, hplugins, rfl⟩ := pushLoaded_new hentry
          rw [hplugins] at hp
          rcases List.mem_append.mp hp with hp | hp
          · exact .inl hp
          · rw [List.mem_singleton.mp hp]
            exact .inr ⟨[], entries, l, l₁.host, rfl, rfl, hlib, hload⟩
        · cases hentry
          exact .inl hp
    · exact .inr ⟨entry :: pre, post, t, left, rfl,
        forEach_cons_eq_next_iff.mpr ⟨l₁, hentry, hpre⟩, hlib, hload⟩

theorem ReachesLoad.append {paths more : List Str} {h : Host W} {path : Str} {l : Loading W}
    (hr : ReachesLoad env fs paths h path l) : ReachesLoad env fs (paths ++ more) h path l := by
  obtain ⟨pre, p, post, l₀, rfl, hrest⟩ := hr
  exact ⟨pre, p, post ++ more, l₀, by simp, hrest⟩

/-- **Every plugin was loaded by the run.** -/
theorem loadedAt_of_paths {paths : List Str} {w : W} {l' : Loading W}
    (h : forEach (pathRound env fs) paths ⟨[], .start w⟩ = .next l') :
    ∀ plugin ∈ l'.plugins, ∃ found left, LoadedAt env fs paths w plugin found left := by
  -- the paths gone through so far, and the loads made for them
  refine (forEach_history_next (R := fun paths (l : Loading W) =>
    forEach (pathRound env fs) paths ⟨[], .start w⟩ = .next l ∧
      ∀ plugin ∈ l.plugins, ∃ found left, LoadedAt env fs paths w plugin found left)
    ⟨rfl, fun _ hp => absurd hp List.not_mem_nil⟩ ?_ h).2
  rintro paths path l l₁ ⟨hloop, hloaded⟩ hround
  refine ⟨forEach_append_eq_next_iff.mpr ⟨l, hloop, (forEach_singleton path l).trans hround⟩, ?_⟩
  have hbefore : ∀ plugin ∈ l.plugins, ∃ found left,
      LoadedAt env fs (paths ++ [path]) w plugin found left := by
    intro plugin hp
    obtain ⟨found, left, before, hreach, hload⟩ := hloaded plugin hp
    exact ⟨found, left, before, hreach.append, hload⟩
  intro plugin hp
  unfold pathRound at hround
  by_cases hdir : fs.isDir path = true
  · rw [if_pos hdir] at hround
    cases hread : fs.readDir path with
    | error e => rw [hread] at hround; cases hround
    | ok entries =>
      rw [hread] at hround
      rcases entries_new hround plugin hp with hp | ⟨pre, post, t, left, hentries, hpre, hlib, hload⟩
      · exact hbefore plugin hp
      · exact ⟨t.host, left, t.plugins, ⟨paths, path, [], l, rfl, hloop,
          .inr ⟨hdir, entries, pre, post, hread, hentries, hpre, hlib⟩⟩, hload⟩
  · rw [if_neg hdir] at hround
    split_ifs at hround with hfile
    · obtain ⟨new, hload, hplugins, rfl⟩ := pushLoaded_new hround
      rw [hplugins] at hp
      rcases List.mem_append.mp hp with hp | hp
      · exact hbefore plugin hp
      · rw [List.mem_singleton.mp hp]
        exact ⟨l.host, l₁.host, l.plugins, ⟨paths, new.library.path, [], l, rfl, hloop,
          .inl ⟨by simpa using hdir, hfile, rfl, rfl⟩⟩, hload⟩
    · cases hround
      exact hbefore plugin hp

theorem LoadedAt.vetted {paths : List Str} {w : W} {plugin : LoadedPlugin W} {found left : Host W}
    (h : LoadedAt env fs paths w plugin found left) :
    ∃ t : LoadStates W, t.found = found.world ∧ t.left = left.world ∧ Vetted env plugin t := by
  obtain ⟨before, -, hload⟩ := h
  exact LoadedPlugin.load_vetted hload

end LoadedAt

/-! ## The chains -/

/-- The module may be called, and it is what a factory of a compatible plugin made when the run from
`w` loaded it. -/
structure Serves {M : Type} (env : HostEnv W) (fs : FsEnv) (paths : List Str) (w : W)
    (events : List HostEvent) (proto : Protocol) (inst : M → PluginInstance)
    (init : M → PluginInitFn W) (create : PluginRootModule W → Option (PluginFactoryFn M W))
    (plugin : LoadedPlugin W) (t : LoadStates W) (m : M) : Prop where
  loaded : ∃ found left, LoadedAt env fs paths w plugin found left ∧ t.found = found.world ∧
    t.left = left.world
  vetted : Vetted env plugin t
  made : Made inst init (buildInitContext env plugin.library.path) (t.before proto)
    (create plugin.root) (some m) (t.after proto)
  live : Live events plugin.library proto (inst m)

/-- All the modules of a chain serve, and each plugin with a factory for the protocol has one in it. -/
def ChainServes {M : Type} (env : HostEnv W) (fs : FsEnv) (paths : List Str) (w : W)
    (events : List HostEvent) (proto : Protocol) (inst : M → PluginInstance)
    (init : M → PluginInitFn W) (create : PluginRootModule W → Option (PluginFactoryFn M W))
    (plugins : List (LoadedPlugin W)) (chain : List M) : Prop :=
  (∀ m ∈ chain, ∃ plugin ∈ plugins, ∃ t,
    Serves env fs paths w events proto inst init create plugin t m) ∧
    ∀ plugin ∈ plugins, (create plugin.root).isSome →
      ∃ m ∈ chain, ∃ t, Serves env fs paths w events proto inst init create plugin t m

theorem chainServes_of_vetted {M : Type} {env : HostEnv W} {fs : FsEnv} {paths : List Str} {w : W}
    {plugins : List (LoadedPlugin W)} {host : Host W} {proto : Protocol} {inst : M → PluginInstance}
    {init : M → PluginInitFn W} {create : PluginRootModule W → Option (PluginFactoryFn M W)}
    {module : LoadedPluginModules W → Option M} {priority : M → Nat}
    (hinv : Lifetime.Inv plugins [] (.build plugins host))
    (hloaded : ∀ plugin ∈ plugins, ∃ found left, LoadedAt env fs paths w plugin found left)
    (hmade : ∀ plugin t, Vetted env plugin t → Made inst init
      (buildInitContext env plugin.library.path) (t.before proto) (create plugin.root)
      (module plugin.modules) (t.after proto))
    (hmem : ∀ (modules : LoadedPluginModules W) (m : M), module modules = some m →
      (proto, inst m) ∈ modules.instances) :
    ChainServes env fs paths w host.events proto inst init create plugins
      (sortByKey priority (plugins.filterMap fun p => module p.modules)) := by
  have hserves : ∀ plugin ∈ plugins, ∀ m, module plugin.modules = some m →
      ∃ t, Serves env fs paths w host.events proto inst init create plugin t m := by
    intro plugin hp m hm
    obtain ⟨i, hi⟩ := List.getElem?_of_mem hp
    have hlive : Live host.events plugin.library proto (inst m) :=
      (hinv.live_iff hi (hmem plugin.modules m hm)).mpr ⟨List.not_mem_nil, Nat.one_ne_zero⟩
    obtain ⟨found, left, hat⟩ := hloaded plugin hp
    obtain ⟨t, hfound, hleft, hvetted⟩ := hat.vetted
    have hmade := hmade plugin t hvetted
    rw [hm] at hmade
    exact ⟨t, ⟨found, left, hat, hfound, hleft⟩, hvetted, hmade, hlive⟩
  have hchain : ∀ m, m ∈ sortByKey priority (plugins.filterMap fun p => module p.modules) ↔
      ∃ plugin ∈ plugins, module plugin.modules = some m := by
    intro m
    rw [(sortByKey_perm priority _).mem_iff]
    exact List.mem_filterMap
  constructor
  · intro m hm
    obtain ⟨plugin, hp, hmodule⟩ := (hchain m).mp hm
    exact ⟨plugin, hp, hserves plugin hp m hmodule⟩
  · intro plugin hp hfactory
    cases hmodule : module plugin.modules with
    | some m => exact ⟨m, (hchain m).mpr ⟨plugin, hp, hmodule⟩, hserves plugin hp m hmodule⟩
    | none =>
      obtain ⟨found, left, hat⟩ := hloaded plugin hp
      obtain ⟨t, -, -, hvetted⟩ := hat.vetted
      have hmade := hmade plugin t hvetted
      rw [hmodule] at hmade
      cases hcreate : create plugin.root with
      | none => rw [hcreate] at hfactory; cases hfactory
      | some factory => rw [hcreate] at hmade; cases hmade

/-! ## Start-up -/

theorem Process.start_ok {p : Process W} {cli : Cli} {w : W} {runtime : Runtime W} {host : Host W}
    (h : p.start cli w = (.ok runtime, host)) :
    p.config cli = .ok runtime.config ∧
      loadPlugins (p.hostEnv cli) p.fs runtime.config.pluginPaths (.start w) =
        (.ok runtime.plugins, host) := by
  unfold start at h
  cases hconfig : p.config cli with
  | error e => rw [hconfig] at h; cases h
  | ok config =>
    rw [hconfig] at h
    dsimp only at h
    unfold Runtime.build at h
    cases hload : loadPlugins (p.hostEnv cli) p.fs config.pluginPaths (.start w) with
    | mk plugins host' =>
    rw [hload] at h
    cases plugins with
    | error e => cases h
    | ok plugins =>
      cases h
      exact ⟨rfl, hload⟩

theorem loadedAt_of_loadPlugins {env : HostEnv W} {fs : FsEnv} {paths : List Str} {w : W}
    {host : Host W} {plugins : List (LoadedPlugin W)}
    (hload : loadPlugins env fs paths (.start w) = (.ok plugins, host)) :
    ∀ plugin ∈ plugins, ∃ found left, LoadedAt env fs paths w plugin found left := by
  unfold loadPlugins at hload
  cases hloop : forEach (pathRound env fs) paths ⟨[], .start w⟩ with
  | stop e l => rw [hloop] at hload; cases hload
  | next l =>
    rw [hloop] at hload
    cases hload
    exact loadedAt_of_paths hloop

/-- **Only vetted modules serve.** If the process starts, every module that the proxy can call is what
a factory of a library with a fitting manifest made when the start came to it, and its init has
succeeded with the environment of the process and the config file of the command line; it is not shut
down and its library is loaded. And no factory of a loaded library is left out. -/
theorem start_serves_vetted (p : Process W) (cli : Cli) (w : W) (runtime : Runtime W) (host : Host W)
    (h : p.start cli w = (.ok runtime, host)) :
    ChainServes (p.hostEnv cli) p.fs runtime.config.pluginPaths w host.events .http (·.inst) (·.init)
      (·.createHttp) runtime.plugins (PluginProxyHooks.fromLoaded runtime.plugins).httpModules ∧
    ChainServes (p.hostEnv cli) p.fs runtime.config.pluginPaths w host.events .tcp (·.inst) (·.init)
      (·.createTcp) runtime.plugins (PluginProxyHooks.fromLoaded runtime.plugins).tcpModules ∧
    ChainServes (p.hostEnv cli) p.fs runtime.config.pluginPaths w host.events .udp (·.inst) (·.init)
      (·.createUdp) runtime.plugins (PluginProxyHooks.fromLoaded runtime.plugins).udpModules ∧
    ∀ path name, envVar (buildInitContext (p.hostEnv cli) path).env.entries name =
      if name = configVar then cli.config.or (envVar p.vars name) else envVar p.vars name := by
  obtain ⟨-, hload⟩ := Process.start_ok h
  obtain ⟨-, hinv⟩ := loadPlugins_inv hload
  have hloaded := loadedAt_of_loadPlugins hload
  refine ⟨?_, ?_, ?_, fun _ name => p.envVar_environment cli name⟩
  · refine chainServes_of_vetted hinv hloaded (fun _ _ hvetted => hvetted.http) ?_
    intro modules m hm
    simp [LoadedPluginModules.instances, hm]
  · refine chainServes_of_vetted hinv hloaded (fun _ _ hvetted => hvetted.tcp) ?_
    intro modules m hm
    simp [LoadedPluginModules.instances, hm]
  · refine chainServes_of_vetted hinv hloaded (fun _ _ hvetted => hvetted.udp) ?_
    intro modules m hm
    simp [LoadedPluginModules.instances, hm]

/-- A process with one plugin file and a config file that does not name it. -/
def onePluginProcess (root : PluginRootModule Unit) : Process Unit where
  vars := [⟨"VAKIL_PLUGIN_PATHS".toList, "two.so".toList⟩, ⟨configVar, "old".toList⟩]
  readToString _ := some "# nothing".toList
  fs := oneFile
  net := .loopback
  dlopen _ w := (.ok ⟨.ok fun w => (root, w)⟩, w)
  parent _ := none

theorem twoModules_serve : ∃ runtime host,
    (onePluginProcess twoModules).start ⟨some "new".toList⟩ () = (.ok runtime, host) ∧
    ChainServes ((onePluginProcess twoModules).hostEnv ⟨some "new".toList⟩) oneFile
      runtime.config.pluginPaths () host.events .http (·.inst) (·.init) (·.createHttp) runtime.plugins
      (PluginProxyHooks.fromLoaded runtime.plugins).httpModules :=
  ⟨_, _, rfl, (start_serves_vetted (onePluginProcess twoModules) ⟨some "new".toList⟩ () _ _ rfl).1⟩

/-- Loading a library whose manifest does not fit: only its `get_library` is run. -/
theorem LoadedPlugin.load_incompatible {env : HostEnv W} {path : Str} {h : Host W} {dyn : DynLib W}
    {w : W} (hopen : env.dlopen path h.world = (.ok dyn, w)) {getLibrary : W → PluginRootModule W × W}
    (hget : dyn.getLibrary = .ok getLibrary) {e : Str}
    (he : validateManifest (getLibrary w).1.manifest = .error e) :
    LoadedPlugin.load env path h = (.error e, ⟨(getLibrary w).2,
      h.events ++ [.unloaded ⟨h.nextHandle, path⟩], h.nextHandle + 1⟩) := by
  unfold LoadedPlugin.load loadOpened
  rw [hopen]
  dsimp only
  rw [hget]
  dsimp only
  rw [he]
  rfl

/-- **An incompatible plugin ends the start.** When its turn comes, its library is opened and asked for
its root, and then closed again; the plugins loaded before it are shut down and unloaded in order.
Nothing else of the incompatible plugin is run and no plugin after it is opened. -/
theorem start_refuses_incompatible (p : Process W) (cli : Cli) (w : W) (config : RuntimeConfig)
    (hconfig : p.config cli = .ok config) (path : Str) (l : Loading W)
    (hreach : ReachesLoad (p.hostEnv cli) p.fs config.pluginPaths (.start w) path l)
    (dyn : DynLib W) (w' : W) (hopen : p.dlopen path l.host.world = (.ok dyn, w'))
    (getLibrary : W → PluginRootModule W × W) (hget : dyn.getLibrary = .ok getLibrary)
    (hbad : ¬ Compatible (getLibrary w').1.manifest) :
    ∃ e, validateManifest (getLibrary w').1.manifest = .error e ∧
      p.start cli w = (.error e, dropPlugins l.plugins ⟨(getLibrary w').2,
        l.host.events ++ [.unloaded ⟨l.host.nextHandle, path⟩], l.host.nextHandle + 1⟩) ∧
      (p.start cli w).2.events = l.plugins.flatMap (·.inits) ++
        .unloaded ⟨l.host.nextHandle, path⟩ :: l.plugins.flatMap (·.drops) := by
  cases he : validateManifest (getLibrary w').1.manifest with
  | ok u => exact absurd (validateManifest_ok_iff.mp he) hbad
  | error e =>
    have hload : LoadedPlugin.load (p.hostEnv cli) path l.host = (.error e, ⟨(getLibrary w').2,
        l.host.events ++ [.unloaded ⟨l.host.nextHandle, path⟩], l.host.nextHandle + 1⟩) :=
      LoadedPlugin.load_incompatible hopen hget he
    have hloop := hreach.stop hload
    have hstart : p.start cli w = (.error e, dropPlugins l.plugins ⟨(getLibrary w').2,
        l.host.events ++ [.unloaded ⟨l.host.nextHandle, path⟩], l.host.nextHandle + 1⟩) := by
      unfold Process.start
      rw [hconfig]
      dsimp only
      unfold Runtime.build loadPlugins
      rw [hloop]
    refine ⟨e, rfl, hstart, ?_⟩
    rw [hstart, dropPlugins_events, hreach.sound.events, List.append_assoc, List.singleton_append]

/-- A plugin of the next major version. -/
def nextMajor {W : Type} : PluginRootModule W :=
  { twoModules with manifest := ⟨"next".toList, ⟨1, 0, 0⟩⟩ }

/-- Three plugin files, of which the second does not fit. The state is the paths opened so far. -/
def threePluginsProcess : Process (List Str) where
  vars := [⟨"VAKIL_PLUGIN_PATHS".toList, "one.so;next.so;last.so".toList⟩]
  readToString _ := none
  fs := oneFile
  net := .loopback
  dlopen path opened :=
    (.ok ⟨.ok fun w => (if path = "next.so".toList then nextMajor else twoModules, w)⟩, opened ++ [path])
  parent _ := none

theorem nextMajor_refused : ∃ e,
    threePluginsProcess.start ⟨none⟩ [] = (.error e,
      ⟨["one.so".toList, "next.so".toList],
        [.initialised ⟨0, "one.so".toList⟩ .http 1, .initialised ⟨0, "one.so".toList⟩ .tcp 2,
          .unloaded ⟨1, "next.so".toList⟩, .shutDown ⟨0, "one.so".toList⟩ .http 1,
          .shutDown ⟨0, "one.so".toList⟩ .tcp 2, .unloaded ⟨0, "one.so".toList⟩], 2⟩) := by
  obtain ⟨e, -, hstart, -⟩ := start_refuses_incompatible threePluginsProcess ⟨none⟩ [] _ rfl
    "next.so".toList _ ⟨["one.so".toList], _, ["last.so".toList], _, rfl, rfl,
      .inl ⟨rfl, rfl, rfl, rfl⟩⟩ _ _ rfl _ rfl (fun h => absurd h.1 (by decide))
  exact ⟨e, hstart⟩

end Vakil
