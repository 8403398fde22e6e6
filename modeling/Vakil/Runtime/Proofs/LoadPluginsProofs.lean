import Vakil.Proofs.PluginHostProofs
import Vakil.Runtime.LoadPlugins

/-!
# Proofs: failed loading

When `load_plugins` fails, the plugins loaded so far are dropped, which shuts their modules down. What
the failing load itself had initialised is not: `load_modules` returns early without a value that would
be dropped.
-/

namespace Vakil

open ForLoop Step

variable {W : Type}

/-- The module instance was shut down exactly once: after its init and before its library was
unloaded. -/
def ShutDownOnce (events : List HostEvent) (lib : Library) (proto : Protocol)
    (inst : PluginInstance) : Prop :=
  ∃ a b c, events = a ++ .shutDown lib proto inst :: (b ++ .unloaded lib :: c) ∧
    .initialised lib proto inst ∈ a ∧ .shutDown lib proto inst ∉ a ++ b ++ c

/-- If the loading failed, every instance that was initialised has been shut down once. -/
def NoLiveInstance (run : Except Str (List (LoadedPlugin W)) × Host W) : Prop :=
  (∃ e, run.1 = .error e) → ∀ lib proto inst, .initialised lib proto inst ∈ run.2.events →
    ShutDownOnce run.2.events lib proto inst

/-- `load_plugins` gets to load the library `path`, in the state `l`: as a configured path itself or
as an entry of one. -/
def ReachesLoad (env : HostEnv W) (fs : FsEnv) (paths : List Str) (h : Host W) (path : Str)
    (l : Loading W) : Prop :=
  ∃ pre p post l₀, paths = pre ++ p :: post ∧ forEach (pathRound env fs) pre ⟨[], h⟩ = .next l₀ ∧
    ((fs.isDir p = false ∧ fs.isFile p = true ∧ path = p ∧ l = l₀) ∨
      (fs.isDir p = true ∧ ∃ entries pre' post', fs.readDir p = .ok entries ∧
        entries = pre' ++ .ok path :: post' ∧ forEach (entryRound env fs) pre' l₀ = .next l ∧
        (fs.isFile path && isPluginLibrary fs path) = true))

/-! ## States between two loads -/

/-- What is recorded so far are the inits of the plugins loaded so far, each with a handle of its
own. -/
structure Loading.Sound (l : Loading W) : Prop where
  events : l.host.events = l.plugins.flatMap (·.inits)
  handle_lt : ∀ plugin ∈ l.plugins, plugin.library.handle < l.host.nextHandle
  handle_nodup : (l.plugins.map (·.library.handle)).Nodup

/-- No two plugins have the same library. -/
theorem Loading.Sound.library_nodup {l : Loading W} (h : l.Sound) :
    (l.plugins.map (·.library)).Nodup := by
  have hhandles : ((l.plugins.map (·.library)).map (·.handle)).Nodup := by
    rw [List.map_map]
    exact h.handle_nodup
  exact hhandles.of_map

theorem Loading.Sound.start (w : W) : Loading.Sound ⟨[], Host.start w⟩ := ⟨rfl, by simp, by simp⟩

theorem pushLoaded_sat (env : HostEnv W) (path : Str) {l : Loading W} (hl : l.Sound) :
    (pushLoaded env path l).Sat Loading.Sound fun _ _ => True := by
  have hspec := LoadedPlugin.load_spec env path l.host
  unfold pushLoaded
  cases hload : LoadedPlugin.load env path l.host with
  | mk result host =>
  rw [hload] at hspec
  cases result with
  | error e => trivial
  | ok plugin =>
    obtain ⟨-, hlib, hnext, hevents⟩ := hspec
    have hhandle : plugin.library.handle = l.host.nextHandle := by rw [hlib]
    dsimp only at hnext hevents
    refine ⟨?_, ?_, ?_⟩
    · dsimp only
      rw [hevents, hl.events, List.flatMap_append, List.flatMap_singleton]
    · intro p hp
      dsimp only
      rw [hnext]
      rcases List.mem_append.1 hp with hp | hp
      · have := hl.handle_lt p hp
        omega
      · rw [List.mem_singleton.1 hp, hhandle]
        omega
    · dsimp only
      rw [List.map_append, List.nodup_append]
      refine ⟨hl.handle_nodup, by simp, ?_⟩
      intro a ha b hb
      obtain ⟨p, hp, rfl⟩ := List.mem_map.1 ha
      have := hl.handle_lt p hp
      simp only [List.map_cons, List.map_nil, List.mem_singleton] at hb
      omega

theorem entryRound_sat (env : HostEnv W) (fs : FsEnv) (entry : Except Str Str) {l : Loading W}
    (hl : l.Sound) : (entryRound env fs entry l).Sat Loading.Sound fun _ _ => True := by
  unfold entryRound
  split
  · trivial
  · split
    · exact pushLoaded_sat env _ hl
    · exact hl

theorem pathRound_sat (env : HostEnv W) (fs : FsEnv) (path : Str) {l : Loading W} (hl : l.Sound) :
    (pathRound env fs path l).Sat Loading.Sound fun _ _ => True := by
  unfold pathRound
  split
  · split
    · trivial
    · exact forEach_sat (fun entry _ t ht => entryRound_sat env fs entry ht) hl
  · split
    · exact pushLoaded_sat env path hl
    · exact hl

section Reached

variable {env : HostEnv W} {fs : FsEnv} {paths : List Str} {w : W} {path : Str} {l : Loading W}

theorem sound_of_paths (h : forEach (pathRound env fs) paths ⟨[], Host.start w⟩ = .next l) :
    l.Sound := by
  have hsat : (forEach (pathRound env fs) paths ⟨[], Host.start w⟩).Sat Loading.Sound
      fun _ _ => True :=
    forEach_sat (fun path _ t ht => pathRound_sat env fs path ht) (Loading.Sound.start w)
  rwa [h] at hsat

theorem sound_of_entries {entries : List (Except Str Str)} {l₀ : Loading W} (hl₀ : l₀.Sound)
    (h : forEach (entryRound env fs) entries l₀ = .next l) : l.Sound := by
  have hsat : (forEach (entryRound env fs) entries l₀).Sat Loading.Sound fun _ _ => True :=
    forEach_sat (fun entry _ t ht => entryRound_sat env fs entry ht) hl₀
  rwa [h] at hsat

theorem ReachesLoad.sound (h : ReachesLoad env fs paths (.start w) path l) : l.Sound := by
  obtain ⟨pre, p, post, l₀, rfl, hpre, ⟨-, -, -, rfl⟩ | ⟨-, entries, pre', post', -, -, hpre', -⟩⟩ := h
  · exact sound_of_paths hpre
  · exact sound_of_entries (sound_of_paths hpre) hpre'

theorem ReachesLoad.stop {h : Host W} (hr : ReachesLoad env fs paths h path l) {e : Str}
    {host : Host W} (hload : LoadedPlugin.load env path l.host = (.error e, host)) :
    forEach (pathRound env fs) paths ⟨[], h⟩ = .stop e ⟨l.plugins, host⟩ := by
  have hpush : pushLoaded env path l = .stop e ⟨l.plugins, host⟩ := by
    simp only [pushLoaded, hload]
  obtain ⟨pre, p, post, l₀, rfl, hpre, h⟩ := hr
  refine forEach_eq_stop_iff.2 ⟨pre, p, post, l₀, rfl, hpre, ?_⟩
  rcases h with ⟨hdir, hfile, rfl, rfl⟩ | ⟨hdir, entries, pre', post', hread, rfl, hpre', hlib⟩
  · simp only [pathRound, hdir, hfile]
    exact hpush
  · simp only [pathRound, hdir, hread]
    refine forEach_eq_stop_iff.2 ⟨pre', .ok path, post', l, rfl, hpre', ?_⟩
    simp only [entryRound, hlib]
    exact hpush

/-- Loading ends early because a directory or an entry cannot be read, or because a load fails. -/
theorem stop_cases {e : Str} {l' : Loading W}
    (h : forEach (pathRound env fs) paths ⟨[], Host.start w⟩ = .stop e l') :
    l'.Sound ∨ ∃ path l host, ReachesLoad env fs paths (.start w) path l ∧
      LoadedPlugin.load env path l.host = (.error e, host) ∧ l' = ⟨l.plugins, host⟩ := by
  have hpush : ∀ path (l : Loading W), pushLoaded env path l = .stop e l' →
      ∃ host, LoadedPlugin.load env path l.host = (.error e, host) ∧ l' = ⟨l.plugins, host⟩ := by
    intro path l h
    unfold pushLoaded at h
    split at h
    · cases h
    · rename_i e' host hload
      cases h
      exact ⟨host, hload, rfl⟩
  obtain ⟨pre, p, post, l₀, hpaths, hpre, hp⟩ := forEach_eq_stop_iff.1 h
  unfold pathRound at hp
  split at hp
  · rename_i hdir
    split at hp
    · cases hp
      exact .inl (sound_of_paths hpre)
    · rename_i entries hread
      obtain ⟨pre', entry, post', l₁, hentries, hpre', hentry⟩ := forEach_eq_stop_iff.1 hp
      unfold entryRound at hentry
      split at hentry
      · cases hentry
        exact .inl (sound_of_entries (sound_of_paths hpre) hpre')
      · rename_i candidate
        split at hentry
        · rename_i hlib
          obtain ⟨host, hload, rfl⟩ := hpush _ _ hentry
          exact .inr ⟨candidate, l₁, host, ⟨pre, p, post, l₀, hpaths, hpre,
            .inr ⟨hdir, entries, pre', post', hread, hentries, hpre', hlib⟩⟩, hload, rfl⟩
        · cases hentry
  · rename_i hdir
    split at hp
    · rename_i hfile
      obtain ⟨host, hload, rfl⟩ := hpush _ _ hp
      exact .inr ⟨p, l₀, host, ⟨pre, p, post, l₀, hpaths, hpre,
        .inl ⟨by simpa using hdir, hfile, rfl, rfl⟩⟩, hload, rfl⟩
    · cases hp

end Reached

/-! ## Dropping what was loaded -/

def LoadedPlugin.drops (plugin : LoadedPlugin W) : List HostEvent :=
  plugin.shutdowns ++ [.unloaded plugin.library]

theorem LoadedPlugin.library_of_mem_drops {plugin : LoadedPlugin W} {e : HostEvent}
    (h : e ∈ plugin.drops) : e.library = plugin.library := by
  rcases List.mem_append.1 h with h | h
  · exact library_of_mem_shutdowns h
  · rw [List.mem_singleton.1 h]
    rfl

theorem dropPlugins_events (plugins : List (LoadedPlugin W)) (h : Host W) :
    (dropPlugins plugins h).events = h.events ++ plugins.flatMap (·.drops) := by
  induction plugins generalizing h with
  | nil => simp [dropPlugins]
  | cons plugin plugins ih =>
    have hstep : dropPlugins (plugin :: plugins) h = dropPlugins plugins (plugin.drop h) := rfl
    rw [hstep, ih, LoadedPlugin.drop_events, List.flatMap_cons, LoadedPlugin.drops]
    simp

theorem shutDown_notMem_inits (plugins : List (LoadedPlugin W)) (lib : Library) (proto : Protocol)
    (inst : PluginInstance) : .shutDown lib proto inst ∉ plugins.flatMap (·.inits) := by
  simp [LoadedPlugin.inits]

theorem initialised_notMem_drops (plugins : List (LoadedPlugin W)) (lib : Library)
    (proto : Protocol) (inst : PluginInstance) :
    .initialised lib proto inst ∉ plugins.flatMap (·.drops) := by
  simp [LoadedPlugin.drops, LoadedPlugin.shutdowns]

/-- Plugins shut down the modules of their own libraries only. -/
theorem exists_of_shutDown_mem_drops {plugins : List (LoadedPlugin W)} {lib : Library}
    {proto : Protocol} {inst : PluginInstance}
    (h : .shutDown lib proto inst ∈ plugins.flatMap (·.drops)) :
    ∃ plugin ∈ plugins, plugin.library = lib := by
  obtain ⟨plugin, hplugin, hmem⟩ := List.mem_flatMap.1 h
  rcases List.mem_append.1 hmem with hmem | hmem
  · exact ⟨plugin, hplugin, (LoadedPlugin.library_of_mem_shutdowns hmem).symm⟩
  · simp at hmem

/-- If a plugin's inits and its drop are all that is recorded about its library, each of its modules
was shut down once. -/
theorem shutDownOnce_of_eventsOf {plugin : LoadedPlugin W} {events : List HostEvent}
    (h : eventsOf plugin.library events = plugin.inits ++ plugin.drops) {proto : Protocol}
    {inst : PluginInstance} (hmodule : (proto, inst) ∈ plugin.modules.instances) :
    ShutDownOnce events plugin.library proto inst := by
  have hcount : events.count (.shutDown plugin.library proto inst) = 1 := by
    rw [← count_eventsOf rfl, HostEvent.library, h, LoadedPlugin.drops, List.count_append,
      List.count_append, plugin.count_inits, LoadedPlugin.count_shutdowns hmodule]
    simp
  have hshut : .shutDown plugin.library proto inst ∈ plugin.shutdowns :=
    List.mem_map.2 ⟨_, hmodule, rfl⟩
  obtain ⟨x, y, hxy⟩ := List.append_of_mem hshut
  have hsplit : eventsOf plugin.library events = (plugin.inits ++ x) ++
      .shutDown plugin.library proto inst :: (y ++ [.unloaded plugin.library]) := by
    rw [h, LoadedPlugin.drops, hxy]
    simp
  obtain ⟨a₁, rest, rfl, ha, hrest⟩ := List.filter_eq_append_iff.1 hsplit
  obtain ⟨a₂, rest, rfl, -, -, hrest⟩ := List.filter_eq_cons_iff.1 hrest
  obtain ⟨b₁, rest, rfl, -, hrest⟩ := List.filter_eq_append_iff.1 hrest
  obtain ⟨b₂, c, rfl, -, -, -⟩ := List.filter_eq_cons_iff.1 hrest
  refine ⟨a₁ ++ a₂, b₁ ++ b₂, c, by simp, ?_, ?_⟩
  · have hinit : .initialised plugin.library proto inst ∈ plugin.inits :=
      List.mem_map.2 ⟨_, hmodule, rfl⟩
    have hmem := List.mem_append_left x hinit
    rw [← ha] at hmem
    exact List.mem_append_left a₂ (List.mem_filter.1 hmem).1
  · have hunloaded : (.unloaded plugin.library :: c).count (.shutDown plugin.library proto inst) =
        c.count (.shutDown plugin.library proto inst) := by
      simp
    rw [← List.count_eq_zero]
    simp only [List.count_append, List.count_cons_self, hunloaded] at hcount ⊢
    omega

/-- When nothing is lost, dropping the plugins shuts every instance down once. -/
theorem shutDownOnce_of_drop {plugins : List (LoadedPlugin W)} {closed : List HostEvent}
    (hnodup : (plugins.map (·.library)).Nodup)
    (hclosed : ∀ e ∈ closed, ∃ lib, e = .unloaded lib ∧ ∀ plugin ∈ plugins, plugin.library ≠ lib)
    {lib : Library} {proto : Protocol} {inst : PluginInstance}
    (h : .initialised lib proto inst ∈
      plugins.flatMap (·.inits) ++ closed ++ plugins.flatMap (·.drops)) :
    ShutDownOnce (plugins.flatMap (·.inits) ++ closed ++ plugins.flatMap (·.drops)) lib proto
      inst := by
  have hnotclosed : .initialised lib proto inst ∉ closed := by
    intro hmem
    obtain ⟨lib', heq, -⟩ := hclosed _ hmem
    cases heq
  have hinit : .initialised lib proto inst ∈ plugins.flatMap (·.inits) := by
    rcases List.mem_append.1 h with h | h
    · exact (List.mem_append.1 h).resolve_right hnotclosed
    · exact absurd h (initialised_notMem_drops _ _ _ _)
  obtain ⟨plugin, hplugin, hmem⟩ := List.mem_flatMap.1 hinit
  obtain ⟨⟨proto', inst'⟩, hmodule, heq⟩ := List.mem_map.1 hmem
  cases heq
  have hnone : eventsOf plugin.library closed = [] := by
    refine eventsOf_eq_nil fun e he heq => ?_
    obtain ⟨lib', rfl, hother⟩ := hclosed e he
    exact hother plugin hplugin heq.symm
  refine shutDownOnce_of_eventsOf ?_ hmodule
  rw [eventsOf_append, eventsOf_append, hnone,
    eventsOf_flatMap (fun _ _ => LoadedPlugin.library_of_mem_inits) hnodup hplugin,
    eventsOf_flatMap (fun _ _ => LoadedPlugin.library_of_mem_drops) hnodup hplugin, List.append_nil]

section Failed

variable {env : HostEnv W} {fs : FsEnv} {paths : List Str} {w : W}

/-- The first module that a failing load loses is never shut down. -/
theorem not_noLiveInstance_of_late {path : Str} {l : Loading W}
    (hreach : ReachesLoad env fs paths (.start w) path l) (hlate : LoadFailsLate env path l.host) :
    ¬ NoLiveInstance (loadPlugins env fs paths (.start w)) := by
  intro hno
  have hspec := LoadedPlugin.load_spec env path l.host
  cases hload : LoadedPlugin.load env path l.host with
  | mk result host =>
  rw [hload] at hspec
  cases result with
  | ok plugin => exact hspec.1 hlate
  | error e =>
    obtain ⟨lost, closed, hevents, hclosed, hlost⟩ := hspec
    dsimp only at hevents
    have hrun : loadPlugins env fs paths (.start w) = (.error e, dropPlugins l.plugins host) := by
      simp only [loadPlugins, hreach.stop hload]
    rw [hrun] at hno
    obtain ⟨⟨proto, inst⟩, rest, hcons⟩ := List.exists_cons_of_ne_nil (hlost.1 hlate)
    have hinit : .initialised ⟨l.host.nextHandle, path⟩ proto inst ∈
        (dropPlugins l.plugins host).events := by
      rw [dropPlugins_events, hevents, hcons]
      simp
    obtain ⟨a, b, c, habc, -, -⟩ := hno ⟨e, rfl⟩ ⟨l.host.nextHandle, path⟩ proto inst hinit
    have hshut : .shutDown ⟨l.host.nextHandle, path⟩ proto inst ∈
        (dropPlugins l.plugins host).events := by
      rw [habc]
      simp
    rw [dropPlugins_events, hevents, hreach.sound.events] at hshut
    simp only [List.mem_append] at hshut
    rcases hshut with ((hmem | hmem) | hmem) | hmem
    · exact shutDown_notMem_inits _ _ _ _ hmem
    · simp at hmem
    · rcases hclosed with rfl | rfl <;> simp at hmem
    · -- no plugin loaded before has the handle of the failing one
      obtain ⟨plugin, hplugin, hlib⟩ := exists_of_shutDown_mem_drops hmem
      have hlt := hreach.sound.handle_lt plugin hplugin
      rw [hlib] at hlt
      exact absurd hlt (Nat.lt_irrefl _)

/-- When no load loses a module, a failure shuts down the modules of the plugins loaded so far, and
there are no others. -/
theorem noLiveInstance_of_early
    (hearly : ∀ path l, ReachesLoad env fs paths (.start w) path l →
      ¬ LoadFailsLate env path l.host) :
    NoLiveInstance (loadPlugins env fs paths (.start w)) := by
  rintro ⟨e, he⟩ lib proto inst hinit
  cases hloop : forEach (pathRound env fs) paths ⟨[], Host.start w⟩ with
  | next l => simp [loadPlugins, hloop] at he
  | stop e' l' =>
    have hrun : loadPlugins env fs paths (.start w) =
        (.error e', dropPlugins l'.plugins l'.host) := by
      simp only [loadPlugins, hloop]
    rw [hrun] at hinit ⊢
    dsimp only at hinit ⊢
    rcases stop_cases hloop with hsound | ⟨path, l, host, hreach, hload, rfl⟩
    · rw [dropPlugins_events, hsound.events, ← List.append_nil (l'.plugins.flatMap _)] at hinit ⊢
      exact shutDownOnce_of_drop hsound.library_nodup (by simp) hinit
    · have hspec := LoadedPlugin.load_spec env path l.host
      rw [hload] at hspec
      obtain ⟨lost, closed, hevents, hclosed, hlost⟩ := hspec
      have hnone : lost = [] := by
        by_contra hne
        exact hearly path l hreach (hlost.2 hne)
      dsimp only at hevents hinit ⊢
      rw [hnone, List.map_nil, List.append_nil, hreach.sound.events] at hevents
      rw [dropPlugins_events, hevents] at hinit ⊢
      refine shutDownOnce_of_drop hreach.sound.library_nodup ?_ hinit
      intro event hevent
      rcases hclosed with rfl | rfl
      · cases hevent
      · refine ⟨_, List.mem_singleton.1 hevent, ?_⟩
        -- no plugin loaded before has the handle of the failing one
        intro plugin hplugin heq
        have hlt := hreach.sound.handle_lt plugin hplugin
        rw [heq] at hlt
        exact absurd hlt (Nat.lt_irrefl _)

end Failed

/-- **Failed loading leaves no live instance** exactly if no load fails after it has initialised a
module. -/
theorem noLiveInstance_iff (env : HostEnv W) (fs : FsEnv) (paths : List Str) (w : W) :
    NoLiveInstance (loadPlugins env fs paths (.start w)) ↔
      ∀ path l, ReachesLoad env fs paths (.start w) path l → ¬ LoadFailsLate env path l.host := by
  constructor
  · intro hno path l hreach hlate
    exact not_noLiveInstance_of_late hreach hlate hno
  · intro hearly
    exact noLiveInstance_of_early hearly

/-- A plugin whose HTTP module is initialised and whose TCP factory fails. -/
def halfPlugin : PluginRootModule Unit where
  manifest := ⟨"half".toList, ⟨0, 1, 0⟩⟩
  createHttp := some fun w => (.ok { PluginHttpModule.default with inst := 1 }, w)
  createTcp := some fun w => (.error ⟨none⟩, w)
  createUdp := none

/-- Every library is the half plugin. -/
def halfEnv : HostEnv Unit where
  dlopen _ w := (.ok ⟨.ok fun w => (halfPlugin, w)⟩, w)
  parent _ := none
  vars := []

/-- One file and no directory. -/
def oneFile : FsEnv where
  isDir _ := false
  isFile _ := true
  readDir _ := .ok []
  extension _ := some dllExtension

/-- The HTTP module of the half plugin is never shut down. -/
theorem halfPlugin_not_shutDown :
    ¬ NoLiveInstance (loadPlugins halfEnv oneFile ["half.so".toList] (.start ())) := by
  intro h
  have hevents : (loadPlugins halfEnv oneFile ["half.so".toList] (.start ())).2.events =
      [.initialised ⟨0, "half.so".toList⟩ .http 1, .unloaded ⟨0, "half.so".toList⟩] := by decide
  obtain ⟨a, b, c, habc, -, -⟩ := h ⟨"tcp module factory failed".toList, by rfl⟩
    ⟨0, "half.so".toList⟩ .http 1 (by rw [hevents]; simp)
  have hmem : .shutDown ⟨0, "half.so".toList⟩ .http 1 ∈
      (loadPlugins halfEnv oneFile ["half.so".toList] (.start ())).2.events := by rw [habc]; simp
  rw [hevents] at hmem
  simp at hmem

end Vakil
