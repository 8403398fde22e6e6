import Vakil.Runtime.Proofs.LoadPluginsProofs

/-!
# Proofs: which plugins are discovered

`Names` says which libraries a configured path stands for, `Loads` that libraries load one after the
other. `load_plugins` succeeds exactly if every path that exists can be read and all the libraries of
all the paths load; a path that does not exist stands for none.
-/

namespace Vakil

open ForLoop Step

variable {W : Type} {env : HostEnv W} {fs : FsEnv}

/-- The libraries among the entries of a directory. -/
def libraries (fs : FsEnv) (candidates : List Str) : List Str :=
  candidates.filter fun path => fs.isFile path && isPluginLibrary fs path

/-- The libraries that a configured path names: those of a directory, in enumeration order, if it and
its entries can be read, a file itself, nothing if there is neither. -/
inductive Names (fs : FsEnv) (path : Str) : List Str → Prop where
  | directory (candidates : List Str) (hdir : fs.isDir path = true)
      (hread : fs.readDir path = .ok (candidates.map .ok)) :
      Names fs path (libraries fs candidates)
  | file (hdir : fs.isDir path = false) (hfile : fs.isFile path = true) : Names fs path [path]
  | missing (hdir : fs.isDir path = false) (hfile : fs.isFile path = false) : Names fs path []

/-- Loading the libraries one after the other from `h` gives the plugins and ends in `h'`. -/
inductive Loads (env : HostEnv W) :
    List Str → Host W → List (LoadedPlugin W) → Host W → Prop where
  | nil (h : Host W) : Loads env [] h [] h
  | cons {path : Str} {paths : List Str} {h h₁ h' : Host W} {plugin : LoadedPlugin W}
      {plugins : List (LoadedPlugin W)} (hload : LoadedPlugin.load env path h = (.ok plugin, h₁))
      (hrest : Loads env paths h₁ plugins h') : Loads env (path :: paths) h (plugin :: plugins) h'

/-! ## Loading in sequence -/

theorem Loads.append {paths paths' : List Str} {h h₁ h' : Host W}
    {plugins plugins' : List (LoadedPlugin W)} (h₁₂ : Loads env paths h plugins h₁)
    (h₂₃ : Loads env paths' h₁ plugins' h') :
    Loads env (paths ++ paths') h (plugins ++ plugins') h' := by
  induction h₁₂ with
  | nil h => exact h₂₃
  | cons hload hrest ih => exact .cons hload (ih h₂₃)

theorem Loads.split {paths paths' : List Str} {h h' : Host W} {plugins : List (LoadedPlugin W)}
    (hl : Loads env (paths ++ paths') h plugins h') :
    ∃ plugins₁ plugins₂ h₁, plugins = plugins₁ ++ plugins₂ ∧ Loads env paths h plugins₁ h₁ ∧
      Loads env paths' h₁ plugins₂ h' := by
  induction paths generalizing h plugins with
  | nil => exact ⟨[], plugins, h, rfl, .nil h, hl⟩
  | cons path paths ih =>
    cases hl with
    | cons hload hrest =>
      obtain ⟨plugins₁, plugins₂, h₁, rfl, hfirst, hsecond⟩ := ih hrest
      exact ⟨_ :: plugins₁, plugins₂, h₁, rfl, .cons hload hfirst, hsecond⟩

/-- Each library is loaded once for each time it is named, in order. -/
theorem Loads.paths_eq {paths : List Str} {h h' : Host W} {plugins : List (LoadedPlugin W)}
    (hl : Loads env paths h plugins h') : plugins.map (·.library.path) = paths := by
  induction hl with
  | nil h => rfl
  | @cons path paths h h₁ h' plugin plugins hload hrest ih =>
    have hspec := LoadedPlugin.load_spec env path h
    rw [hload] at hspec
    rw [List.map_cons, ih, hspec.2.1]

/-- From `l` to `l'` the libraries were loaded. -/
def Loaded (env : HostEnv W) (paths : List Str) (l l' : Loading W) : Prop :=
  ∃ plugins, Loads env paths l.host plugins l'.host ∧ l'.plugins = l.plugins ++ plugins

theorem loaded_nil_iff {l l' : Loading W} : Loaded env [] l l' ↔ l' = l := by
  constructor
  · rintro ⟨plugins, hl, hplugins⟩
    obtain ⟨plugins', host'⟩ := l'
    cases hl
    rw [List.append_nil] at hplugins
    subst hplugins
    rfl
  · rintro rfl
    exact ⟨[], .nil _, (List.append_nil _).symm⟩

theorem loaded_append_iff {paths paths' : List Str} {l l' : Loading W} :
    Loaded env (paths ++ paths') l l' ↔
      ∃ l₁, Loaded env paths l l₁ ∧ Loaded env paths' l₁ l' := by
  constructor
  · rintro ⟨plugins, hl, hplugins⟩
    obtain ⟨plugins₁, plugins₂, h₁, rfl, hfirst, hsecond⟩ := hl.split
    refine ⟨⟨l.plugins ++ plugins₁, h₁⟩, ⟨plugins₁, hfirst, rfl⟩, plugins₂, hsecond, ?_⟩
    rw [hplugins, List.append_assoc]
  · rintro ⟨l₁, ⟨plugins₁, hfirst, h₁⟩, plugins₂, hsecond, h₂⟩
    exact ⟨plugins₁ ++ plugins₂, hfirst.append hsecond, by rw [h₂, h₁, List.append_assoc]⟩

/-! ## The loops -/

theorem pushLoaded_next_iff {path : Str} {l l' : Loading W} :
    pushLoaded env path l = .next l' ↔ Loaded env [path] l l' := by
  unfold pushLoaded
  cases hload : LoadedPlugin.load env path l.host with
  | mk result host =>
  cases result with
  | error e =>
    refine ⟨nofun, ?_⟩
    rintro ⟨plugins, hl, -⟩
    cases hl with
    | cons hload' hrest => rw [hload] at hload'; cases hload'
  | ok plugin =>
    constructor
    · intro h
      cases h
      exact ⟨[plugin], .cons hload (.nil _), rfl⟩
    · rintro ⟨plugins, hl, hplugins⟩
      obtain ⟨plugins', host'⟩ := l'
      cases hl with
      | cons hload' hrest =>
        rw [hload] at hload'
        cases hload'
        cases hrest
        dsimp only at hplugins ⊢
        rw [hplugins]

theorem entryRound_next_iff {entry : Except Str Str} {l l' : Loading W} :
    entryRound env fs entry l = .next l' ↔
      ∃ candidate, entry = .ok candidate ∧ Loaded env (libraries fs [candidate]) l l' := by
  unfold entryRound
  cases entry with
  | error e => exact ⟨nofun, fun ⟨_, h, _⟩ => nomatch h⟩
  | ok candidate =>
    simp only [Except.ok.injEq, exists_eq_left']
    by_cases hlib : (fs.isFile candidate && isPluginLibrary fs candidate) = true
    · have hone : libraries fs [candidate] = [candidate] := by simp [libraries, hlib]
      rw [if_pos hlib, pushLoaded_next_iff, hone]
    · have hnone : libraries fs [candidate] = [] := by simpa [libraries] using hlib
      rw [if_neg hlib, hnone, loaded_nil_iff]
      constructor
      · rintro ⟨⟩
        rfl
      · rintro rfl
        rfl

theorem entryLoop_next_iff {entries : List (Except Str Str)} {l l' : Loading W} :
    forEach (entryRound env fs) entries l = .next l' ↔
      ∃ candidates, entries = candidates.map .ok ∧
        Loaded env (libraries fs candidates) l l' := by
  induction entries generalizing l with
  | nil =>
    constructor
    · intro h
      cases h
      exact ⟨[], rfl, loaded_nil_iff.mpr rfl⟩
    · rintro ⟨candidates, hnil, h⟩
      rw [List.map_eq_nil_iff.mp hnil.symm] at h
      rw [loaded_nil_iff.mp h]
      rfl
  | cons entry entries ih =>
    have hcons : ∀ candidate candidates, libraries fs (candidate :: candidates) =
        libraries fs [candidate] ++ libraries fs candidates := by
      intro candidate candidates
      unfold libraries
      rw [← List.filter_append, List.singleton_append]
    rw [forEach_cons_eq_next_iff]
    constructor
    · rintro ⟨l₁, hentry, hrest⟩
      obtain ⟨candidate, rfl, hfirst⟩ := entryRound_next_iff.mp hentry
      obtain ⟨candidates, rfl, hsecond⟩ := ih.mp hrest
      refine ⟨candidate :: candidates, rfl, ?_⟩
      rw [hcons]
      exact loaded_append_iff.mpr ⟨l₁, hfirst, hsecond⟩
    · rintro ⟨candidates, hentries, h⟩
      obtain ⟨candidate, candidates, rfl, rfl, rfl⟩ := List.map_eq_cons_iff.mp hentries.symm
      rw [hcons] at h
      obtain ⟨l₁, hfirst, hsecond⟩ := loaded_append_iff.mp h
      exact ⟨l₁, entryRound_next_iff.mpr ⟨candidate, rfl, hfirst⟩, ih.mpr ⟨candidates, rfl, hsecond⟩⟩

theorem pathRound_next_iff {path : Str} {l l' : Loading W} :
    pathRound env fs path l = .next l' ↔ ∃ paths, Names fs path paths ∧ Loaded env paths l l' := by
  unfold pathRound
  cases hdir : fs.isDir path with
  | true =>
    rw [if_pos rfl]
    constructor
    · intro h
      cases hread : fs.readDir path with
      | error e => rw [hread] at h; cases h
      | ok entries =>
        rw [hread] at h
        obtain ⟨candidates, rfl, hloaded⟩ := entryLoop_next_iff.mp h
        exact ⟨_, .directory candidates hdir hread, hloaded⟩
    · rintro ⟨paths, hnames, h⟩
      cases hnames with
      | directory candidates _ hread =>
        rw [hread]
        exact entryLoop_next_iff.mpr ⟨candidates, rfl, h⟩
      | file hdir' _ => rw [hdir] at hdir'; cases hdir'
      | missing hdir' _ => rw [hdir] at hdir'; cases hdir'
  | false =>
    rw [if_neg Bool.false_ne_true]
    cases hfile : fs.isFile path with
    | true =>
      rw [if_pos rfl, pushLoaded_next_iff]
      constructor
      · exact fun h => ⟨_, .file hdir hfile, h⟩
      · rintro ⟨paths, hnames, h⟩
        cases hnames with
        | directory candidates hdir' _ => rw [hdir] at hdir'; cases hdir'
        | file _ _ => exact h
        | missing _ hfile' => rw [hfile] at hfile'; cases hfile'
    | false =>
      rw [if_neg Bool.false_ne_true]
      constructor
      · intro h
        cases h
        exact ⟨_, .missing hdir hfile, loaded_nil_iff.mpr rfl⟩
      · rintro ⟨paths, hnames, h⟩
        cases hnames with
        | directory candidates hdir' _ => rw [hdir] at hdir'; cases hdir'
        | file _ hfile' => rw [hfile] at hfile'; cases hfile'
        | missing _ _ => rw [loaded_nil_iff.mp h]

theorem pathLoop_next_iff {paths : List Str} {l l' : Loading W} :
    forEach (pathRound env fs) paths l = .next l' ↔
      ∃ named, List.Forall₂ (Names fs) paths named ∧ Loaded env named.flatten l l' := by
  induction paths generalizing l with
  | nil =>
    constructor
    · intro h
      cases h
      exact ⟨[], .nil, loaded_nil_iff.mpr rfl⟩
    · rintro ⟨named, hnamed, h⟩
      cases hnamed
      rw [loaded_nil_iff.mp h]
      rfl
  | cons path paths ih =>
    rw [forEach_cons_eq_next_iff]
    constructor
    · rintro ⟨l₁, hpath, hrest⟩
      obtain ⟨first, hfirst, hloaded⟩ := pathRound_next_iff.mp hpath
      obtain ⟨named, hnamed, hloaded'⟩ := ih.mp hrest
      refine ⟨first :: named, .cons hfirst hnamed, ?_⟩
      rw [List.flatten_cons]
      exact loaded_append_iff.mpr ⟨l₁, hloaded, hloaded'⟩
    · rintro ⟨named, hnamed, h⟩
      cases hnamed with
      | cons hfirst hrest =>
        rw [List.flatten_cons] at h
        obtain ⟨l₁, hloaded, hloaded'⟩ := loaded_append_iff.mp h
        exact ⟨l₁, pathRound_next_iff.mpr ⟨_, hfirst, hloaded⟩, ih.mpr ⟨_, hrest, hloaded'⟩⟩

/-! ## All or error -/

/-- **Plugin discovery.** `load_plugins` succeeds exactly if every listed directory can be read and
every library that the paths name loads, one after the other; a path that does not exist names none.
The plugins are then the libraries named, in path order, each once for every time it is named. In
every other case there is an error. -/
theorem loadPlugins_ok_iff (env : HostEnv W) (fs : FsEnv) (paths : List Str) (h : Host W) :
    (∀ plugins h', loadPlugins env fs paths h = (.ok plugins, h') ↔
      ∃ named, List.Forall₂ (Names fs) paths named ∧ Loads env named.flatten h plugins h' ∧
        plugins.map (·.library.path) = named.flatten) ∧
    ((∃ e, (loadPlugins env fs paths h).1 = .error e) ↔
      ¬ ∃ named plugins h', List.Forall₂ (Names fs) paths named ∧
        Loads env named.flatten h plugins h') := by
  have hok : ∀ plugins h', loadPlugins env fs paths h = (.ok plugins, h') ↔
      ∃ named, List.Forall₂ (Names fs) paths named ∧ Loads env named.flatten h plugins h' := by
    intro plugins h'
    have hloop : loadPlugins env fs paths h = (.ok plugins, h') ↔
        forEach (pathRound env fs) paths ⟨[], h⟩ = .next ⟨plugins, h'⟩ := by
      unfold loadPlugins
      cases forEach (pathRound env fs) paths ⟨[], h⟩ with
      | next l =>
        obtain ⟨plugins', h''⟩ := l
        simp
      | stop e l => simp
    rw [hloop, pathLoop_next_iff]
    simp [Loaded]
  refine ⟨?_, ?_⟩
  · intro plugins h'
    rw [hok]
    constructor
    · rintro ⟨named, hnamed, hl⟩
      exact ⟨named, hnamed, hl, hl.paths_eq⟩
    · rintro ⟨named, hnamed, hl, -⟩
      exact ⟨named, hnamed, hl⟩
  · cases hrun : loadPlugins env fs paths h with
    | mk result h' =>
    cases result with
    | ok plugins =>
      obtain ⟨named, hnamed, hl⟩ := (hok plugins h').mp hrun
      refine ⟨nofun, fun hnone => ?_⟩
      exact absurd ⟨named, plugins, h', hnamed, hl⟩ hnone
    | error e =>
      refine ⟨fun _ => ?_, fun _ => ⟨e, rfl⟩⟩
      rintro ⟨named, plugins, h', hnamed, hl⟩
      have hok' := (hok plugins h').mpr ⟨named, hnamed, hl⟩
      rw [hrun] at hok'
      cases hok'

/-- Loading succeeds exactly if every path exists and every library named loads. -/
def AllOrError (env : HostEnv W) (fs : FsEnv) (paths : List Str) (h : Host W) : Prop :=
  (∃ plugins h', loadPlugins env fs paths h = (.ok plugins, h')) ↔
    (∀ path ∈ paths, fs.isDir path = true ∨ fs.isFile path = true) ∧
      ∃ named plugins h', List.Forall₂ (Names fs) paths named ∧
        Loads env named.flatten h plugins h'

/-- A file system without plugins. -/
def noFiles : FsEnv where
  isDir _ := false
  isFile _ := false
  readDir path := .error ("no such directory: ".toList ++ path)
  extension _ := none

/-- A misspelled path is passed over, and the host starts without the plugin. -/
theorem missingPath_skipped :
    (loadPlugins halfEnv noFiles ["plugins/filter.so".toList] (.start ())).1 = .ok [] ∧
      ¬ AllOrError halfEnv noFiles ["plugins/filter.so".toList] (.start ()) := by
  refine ⟨rfl, ?_⟩
  intro h
  rcases (h.mp ⟨[], .start (), rfl⟩).1 _ List.mem_cons_self with hdir | hfile
  · cases hdir
  · cases hfile

end Vakil
