import Mathlib.Data.List.Nodup
import Mathlib.Data.List.Perm.Basic
import Vakil.Runtime.Config

/-!
# The config parser accepts exactly its grammar

The grammar says what a config file means without reading it in order: its significant lines are
settings (`IsSetting`), the settings are well formed as a set (`WellFormed`), and they denote the
overrides whose fields they name (`Denotes`). The parser's loop is followed with the settings read
so far as history: a round goes on exactly when its line is a setting that keeps them well formed.
-/

namespace Vakil

open ForLoop

/-! ## The grammar -/

def isSignificant (line : Str) : Bool := line ≠ [] && line.head? ≠ some '#'

/-- The trimmed lines of a file that are neither blank nor comments. -/
def significantLines (content : Str) : List Str :=
  ((Text.lines content).map Text.trim).filter isSignificant

/-- A line `key = "inner"`; the key ends at the first `=`. -/
def IsSetting (line : Str) (setting : Str × Str) : Prop :=
  ∃ key value, line = key ++ '=' :: value ∧ '=' ∉ key ∧ Text.trim key = setting.1 ∧
    Text.trim value = '"' :: (setting.2 ++ ['"'])

/-- The trimmed segments of a path list, none for a blank one. -/
def pathSegments (value : Str) : List Str :=
  if Text.trim value = [] then [] else (value.splitOn ';').map Text.trim

/-- A path list is blank or has no blank segment. -/
def IsPathList (value : Str) : Prop :=
  Text.trim value = [] ∨ ∀ segment ∈ value.splitOn ';', Text.trim segment ≠ []

/-- The settings of a file that is accepted, in any order. -/
structure WellFormed (net : StdNet) (settings : List (Str × Str)) : Prop where
  known : ∀ setting ∈ settings, setting.1 = httpListenAddrKey ∨ setting.1 = pluginPathsKey
  once : (settings.map Prod.fst).Nodup
  addr : ∀ value, (httpListenAddrKey, value) ∈ settings → (net.parseSocketAddr value).isSome
  paths : ∀ value, (pluginPathsKey, value) ∈ settings → IsPathList value

/-- The overrides hold what the settings say, and nothing for a key without a setting. -/
structure Denotes (settings : List (Str × Str)) (overrides : RuntimeOverrides) : Prop where
  addr : ∀ value, overrides.httpListenAddr = some value ↔ (httpListenAddrKey, value) ∈ settings
  paths : ∀ ps, overrides.pluginPaths = some ps ↔
    ∃ value, (pluginPathsKey, value) ∈ settings ∧ ps = pathSegments value

/-- The significant lines are settings, well formed together, that denote `overrides`. -/
def Describes (net : StdNet) (lines : List Str) (overrides : RuntimeOverrides) : Prop :=
  ∃ settings, List.Forall₂ IsSetting lines settings ∧ WellFormed net settings ∧
    Denotes settings overrides

variable {net : StdNet} {settings : List (Str × Str)} {o o' : RuntimeOverrides}

theorem Denotes.unique (h : Denotes settings o) (h' : Denotes settings o') : o = o' := by
  have haddr : o.httpListenAddr = o'.httpListenAddr :=
    Option.ext fun v => (h.addr v).trans (h'.addr v).symm
  have hpaths : o.pluginPaths = o'.pluginPaths :=
    Option.ext fun ps => (h.paths ps).trans (h'.paths ps).symm
  cases o
  cases o'
  exact congrArg₂ RuntimeOverrides.mk haddr hpaths

theorem WellFormed.of_append {more : List (Str × Str)} (h : WellFormed net (settings ++ more)) :
    WellFormed net settings where
  known s hs := h.known s (List.mem_append_left _ hs)
  once := (List.nodup_append.mp (List.map_append ▸ h.once)).1
  addr v hv := h.addr v (List.mem_append_left _ hv)
  paths v hv := h.paths v (List.mem_append_left _ hv)

theorem WellFormed.perm {settings' : List (Str × Str)} (hp : settings.Perm settings')
    (h : WellFormed net settings) : WellFormed net settings' where
  known s hs := h.known s (hp.mem_iff.mpr hs)
  once := (hp.map Prod.fst).nodup_iff.mp h.once
  addr v hv := h.addr v (hp.mem_iff.mpr hv)
  paths v hv := h.paths v (hp.mem_iff.mpr hv)

theorem Denotes.perm {settings' : List (Str × Str)} (hp : settings.Perm settings')
    (h : Denotes settings o) : Denotes settings' o where
  addr v := (h.addr v).trans hp.mem_iff
  paths ps := by simp only [h.paths ps, hp.mem_iff]

/-- **The order of the lines does not matter** to the grammar. -/
theorem Describes.perm {lines lines' : List Str} (hp : lines.Perm lines')
    (h : Describes net lines o) : Describes net lines' o := by
  obtain ⟨settings, hlines, hwell, hden⟩ := h
  obtain ⟨settings', hlines', hp'⟩ := List.perm_comp_forall₂ hp.symm hlines
  exact ⟨settings', hlines', hwell.perm hp'.symm, hden.perm hp'.symm⟩

/-! ## Values -/

theorem parseConfigValue_eq_ok_iff {input inner : Str} :
    parseConfigValue input = .ok inner ↔ input = '"' :: (inner ++ ['"']) := by
  have h : (Text.stripPrefix '"' input).bind (Text.stripSuffix '"') = some inner ↔
      input = '"' :: (inner ++ ['"']) := by
    rw [Option.bind_eq_some_iff]
    constructor
    · rintro ⟨t, ht, hi⟩
      rw [Text.stripPrefix_eq_some_iff.mp ht, Text.stripSuffix_eq_some_iff.mp hi]
    · intro h
      exact ⟨_, Text.stripPrefix_eq_some_iff.mpr h, Text.stripSuffix_eq_some_iff.mpr rfl⟩
  unfold parseConfigValue
  split
  · next hn => exact iff_of_false nofun (by rw [← h, hn]; nofun)
  · next s hs => rw [← h, hs, Except.ok.injEq, Option.some.injEq]

theorem pathEntries_eq_next_iff {segments : List Str} {i : Nat} {paths ps : List Str} :
    forEach pathEntryRound (segments.zipIdx i) paths = .next ps ↔
      (∀ segment ∈ segments, Text.trim segment ≠ []) ∧
        ps = paths ++ segments.map Text.trim := by
  induction segments generalizing i paths with
  | nil => simp [eq_comm (a := ps)]
  | cons s segments ih =>
    rw [List.zipIdx_cons]
    by_cases hs : Text.trim s = []
    · obtain ⟨e, hround⟩ : ∃ e, pathEntryRound (s, i) paths = .stop e paths := ⟨_, if_pos hs⟩
      rw [forEach_cons_stop hround]
      exact iff_of_false nofun fun h => h.1 s List.mem_cons_self hs
    · have hround : pathEntryRound (s, i) paths = .next (paths ++ [Text.trim s]) := if_neg hs
      rw [forEach_cons_next hround, ih]
      simp [hs]

theorem parsePluginPathsStrict_eq_ok_iff {raw : Str} {ps : List Str} :
    parsePluginPathsStrict raw = .ok ps ↔ IsPathList raw ∧ ps = pathSegments raw := by
  unfold parsePluginPathsStrict pathSegments IsPathList
  split_ifs with hraw
  · simp [hraw]
  · have h := @pathEntries_eq_next_iff (raw.splitOn ';') 0 [] ps
    rw [List.nil_append] at h
    split
    · next paths hp => simpa [hp, hraw] using h
    · next e paths hp => simpa [hp, hraw] using h

/-! ## One line -/

theorem keys_differ : httpListenAddrKey ≠ pluginPathsKey := by decide

/-- `settings` are the settings read so far. -/
structure Read (net : StdNet) (settings : List (Str × Str)) (o : RuntimeOverrides) : Prop where
  wellFormed : WellFormed net settings
  denotes : Denotes settings o

theorem Read.start : Read net [] ⟨none, none⟩ where
  wellFormed := ⟨nofun, List.nodup_nil, nofun, nofun⟩
  denotes := ⟨by simp, by simp⟩

theorem wellFormed_concat_iff {key value : Str} :
    WellFormed net (settings ++ [(key, value)]) ↔
      WellFormed net settings ∧ key ∉ settings.map Prod.fst ∧
        ((key = httpListenAddrKey ∧ (net.parseSocketAddr value).isSome) ∨
          (key = pluginPathsKey ∧ IsPathList value)) := by
  constructor
  · intro h
    have hmem : (key, value) ∈ settings ++ [(key, value)] := by simp
    have honce := h.once
    rw [List.map_append, List.nodup_append] at honce
    refine ⟨h.of_append, fun hk => honce.2.2 key hk key (by simp) rfl, ?_⟩
    rcases h.known _ hmem with hk | hk
    · exact .inl ⟨hk, h.addr value (hk ▸ hmem)⟩
    · exact .inr ⟨hk, h.paths value (hk ▸ hmem)⟩
  · rintro ⟨h, honce, hkey⟩
    refine ⟨?_, ?_, ?_, ?_⟩
    · intro s hs
      rcases List.mem_append.mp hs with hs | hs
      · exact h.known s hs
      · rw [List.mem_singleton.mp hs]
        exact hkey.imp And.left And.left
    · rw [List.map_append, List.nodup_append]
      refine ⟨h.once, List.nodup_singleton _, fun a ha b hb heq => honce ?_⟩
      have hb : b = key := by simpa using hb
      rwa [← hb, ← heq]
    · intro v hv
      rcases List.mem_append.mp hv with hv | hv
      · exact h.addr v hv
      · cases List.mem_singleton.mp hv
        rcases hkey with hk | hk
        · exact hk.2
        · exact absurd hk.1 keys_differ
    · intro v hv
      rcases List.mem_append.mp hv with hv | hv
      · exact h.paths v hv
      · cases List.mem_singleton.mp hv
        rcases hkey with hk | hk
        · exact absurd hk.1.symm keys_differ
        · exact hk.2

variable {path key value line : Str}

theorem applySetting_eq_next_iff :
    applySetting net path key value o = .next o' ↔
      (key = httpListenAddrKey ∧ o.httpListenAddr = none ∧ (net.parseSocketAddr value).isSome ∧
        o' = { o with httpListenAddr := some value }) ∨
      (key = pluginPathsKey ∧ o.pluginPaths = none ∧ IsPathList value ∧
        o' = { o with pluginPaths := some (pathSegments value) }) := by
  unfold applySetting
  by_cases hk : key = httpListenAddrKey
  · rw [if_pos hk]
    simp only [hk, keys_differ, true_and, false_and, or_false]
    cases ho : o.httpListenAddr with
    | some v => exact iff_of_false nofun fun h => nomatch h.1
    | none =>
      cases hv : net.parseSocketAddr value with
      | none => exact iff_of_false nofun fun h => nomatch h.2.1
      | some a => simp [eq_comm (a := o')]
  · rw [if_neg hk]
    by_cases hp : key = pluginPathsKey
    · rw [if_pos hp]
      simp only [hp, keys_differ.symm, true_and, false_and, false_or]
      cases ho : o.pluginPaths with
      | some v => exact iff_of_false nofun fun h => nomatch h.1
      | none =>
        have h := fun ps => @parsePluginPathsStrict_eq_ok_iff value ps
        cases hv : parsePluginPathsStrict value with
        | error e =>
          refine iff_of_false nofun ?_
          intro hl
          have := (h (pathSegments value)).mpr ⟨hl.2.1, rfl⟩
          rw [hv] at this
          cases this
        | ok ps =>
          obtain ⟨hl, rfl⟩ := (h ps).mp hv
          simp [hl, eq_comm (a := o')]
    · rw [if_neg hp]
      exact iff_of_false nofun fun h => h.elim (fun h => hk h.1) fun h => hp h.1

theorem Denotes.addr_eq_none_iff (h : Denotes settings o) :
    o.httpListenAddr = none ↔ httpListenAddrKey ∉ settings.map Prod.fst := by
  simp [Option.eq_none_iff_forall_ne_some, h.addr]

theorem Denotes.paths_eq_none_iff (h : Denotes settings o) :
    o.pluginPaths = none ↔ pluginPathsKey ∉ settings.map Prod.fst := by
  simp only [Option.eq_none_iff_forall_ne_some, ne_eq, h.paths, List.mem_map, Prod.exists]
  constructor
  · rintro hnone ⟨k, v, hv, rfl⟩
    exact hnone _ ⟨v, hv, rfl⟩
  · rintro hnone ps ⟨v, hv, -⟩
    exact hnone ⟨_, v, hv, rfl⟩

/-- A setting that is stored extends what was read. -/
theorem Read.concat (h : Read net settings o)
    (hn : applySetting net path key value o = .next o') :
    Read net (settings ++ [(key, value)]) o' := by
  rcases applySetting_eq_next_iff.mp hn with ⟨rfl, ho, hv, rfl⟩ | ⟨rfl, ho, hv, rfl⟩
  · have hnew := h.denotes.addr_eq_none_iff.mp ho
    refine ⟨wellFormed_concat_iff.mpr ⟨h.wellFormed, hnew, .inl ⟨rfl, hv⟩⟩, ?_, ?_⟩
    · intro v
      have hv : (httpListenAddrKey, v) ∉ settings := fun hm => hnew (List.mem_map_of_mem hm)
      simp [hv, eq_comm (a := v)]
    · intro ps
      simp [h.denotes.paths, keys_differ.symm]
  · have hnew := h.denotes.paths_eq_none_iff.mp ho
    refine ⟨wellFormed_concat_iff.mpr ⟨h.wellFormed, hnew, .inr ⟨rfl, hv⟩⟩, ?_, ?_⟩
    · intro v
      simp [h.denotes.addr, keys_differ]
    · intro ps
      have hold : ∀ v, (pluginPathsKey, v) ∉ settings := fun v hm => hnew (List.mem_map_of_mem hm)
      simp [hold, eq_comm (a := ps)]

/-- A setting that keeps the settings well formed is stored. -/
theorem Read.applySetting_goes_on (h : Read net settings o) (path : Str)
    (hw : WellFormed net (settings ++ [(key, value)])) :
    ∃ o', applySetting net path key value o = .next o' := by
  obtain ⟨-, hnew, hkey⟩ := wellFormed_concat_iff.mp hw
  rcases hkey with ⟨rfl, hv⟩ | ⟨rfl, hv⟩
  · exact ⟨_, applySetting_eq_next_iff.mpr
      (.inl ⟨rfl, h.denotes.addr_eq_none_iff.mpr hnew, hv, rfl⟩)⟩
  · exact ⟨_, applySetting_eq_next_iff.mpr
      (.inr ⟨rfl, h.denotes.paths_eq_none_iff.mpr hnew, hv, rfl⟩)⟩

/-- A round goes on with a setting, which it stores. -/
theorem settingRound_eq_next_iff :
    settingRound net path line o = .next o' ↔
      ∃ setting, IsSetting line setting ∧
        applySetting net path setting.1 setting.2 o = .next o' := by
  unfold settingRound
  constructor
  · intro h
    cases hs : Text.splitOnce '=' line with
    | none => rw [hs] at h; cases h
    | some kv =>
      obtain ⟨key, value⟩ := kv
      obtain ⟨hline, hkey⟩ := Text.splitOnce_eq_some_iff.mp hs
      rw [hs] at h
      dsimp only at h
      cases hv : parseConfigValue (Text.trim value) with
      | error e => rw [hv] at h; cases h
      | ok inner =>
        rw [hv] at h
        exact ⟨(Text.trim key, inner),
          ⟨key, value, hline, hkey, rfl, parseConfigValue_eq_ok_iff.mp hv⟩, h⟩
  · rintro ⟨⟨k, inner⟩, ⟨key, value, hline, hkey, rfl, hv⟩, h⟩
    rw [Text.splitOnce_eq_some_iff.mpr ⟨hline, hkey⟩]
    dsimp only
    rw [parseConfigValue_eq_ok_iff.mpr hv]
    exact h

/-! ## The file -/

/-- The loop over the significant lines, with the settings read before it. -/
theorem settings_eq_next_iff {lines : List Str} (h : Read net settings o) :
    forEach (settingRound net path) lines o = .next o' ↔
      ∃ more, List.Forall₂ IsSetting lines more ∧ Read net (settings ++ more) o' := by
  induction lines generalizing settings o with
  | nil =>
    constructor
    · rintro ⟨⟩
      exact ⟨[], .nil, by rwa [List.append_nil]⟩
    · rintro ⟨more, hmore, h'⟩
      cases hmore
      rw [List.append_nil] at h'
      rw [forEach_nil, h.denotes.unique h'.denotes]
  | cons line lines ih =>
    constructor
    · intro hloop
      cases hr : settingRound net path line o with
      | stop e o₁ => rw [forEach_cons_stop hr] at hloop; cases hloop
      | next o₁ =>
        rw [forEach_cons_next hr] at hloop
        obtain ⟨s, hs, happly⟩ := settingRound_eq_next_iff.mp hr
        obtain ⟨more, hmore, h'⟩ := (ih (h.concat happly)).mp hloop
        exact ⟨s :: more, .cons hs hmore, by rwa [List.append_assoc] at h'⟩
    · rintro ⟨more, hmore, h'⟩
      cases hmore with
      | @cons _ s _ more hs hmore =>
        rw [← List.singleton_append, ← List.append_assoc] at h'
        obtain ⟨o₁, happly⟩ := h.applySetting_goes_on path h'.wellFormed.of_append
        rw [forEach_cons_next (settingRound_eq_next_iff.mpr ⟨s, hs, happly⟩)]
        exact (ih (h.concat happly)).mpr ⟨more, hmore, h'⟩

variable {readToString : Str → Option Str}

theorem parseConfigFile_eq_ok_iff {content : Str} (hread : readToString path = some content) :
    parseConfigFile net readToString path = .ok o ↔
      Describes net (significantLines content) o := by
  have hskip : forEach (lineRound net path) (Text.lines content) ⟨none, none⟩ =
      forEach (settingRound net path) (significantLines content) ⟨none, none⟩ := by
    refine forEach_map_filter ?_ _ _
    intro x s
    unfold lineRound isSignificant
    by_cases hn : Text.trim x = []
    · simp [hn]
    · by_cases hc : (Text.trim x).head? = some '#' <;> simp [hn, hc]
  have hloop := @settings_eq_next_iff net [] ⟨none, none⟩ o path (significantLines content) .start
  have hdesc : Describes net (significantLines content) o ↔
      ∃ more, List.Forall₂ IsSetting (significantLines content) more ∧ Read net ([] ++ more) o :=
    exists_congr fun _ => and_congr_right fun _ => ⟨fun h => ⟨h.1, h.2⟩, fun h => ⟨h.1, h.2⟩⟩
  unfold parseConfigFile
  rw [hread, hdesc, ← hloop]
  dsimp only
  rw [hskip]
  cases forEach (settingRound net path) (significantLines content) ⟨none, none⟩ with
  | next o₁ => simp
  | stop e o₁ => exact iff_of_false nofun nofun

theorem significantLines_intercalate {ls : List Str} (hls : ∀ l ∈ ls, '\n' ∉ l) :
    significantLines (['\n'].intercalate ls) = (ls.map Text.trim).filter isSignificant := by
  have hsplit := Text.filter_lines (by decide : isSignificant [] = false) (['\n'].intercalate ls)
  cases ls with
  | nil => rfl
  | cons l ls => rwa [List.splitOn_intercalate '\n' hls (List.cons_ne_nil l ls)] at hsplit

/-- Permuting lines and inserting insignificant ones permutes the significant lines. -/
theorem significant_perm {ls ls' extra : List Str} (hp : ls'.Perm (ls ++ extra))
    (hextra : ∀ l ∈ extra, isSignificant (Text.trim l) = false) :
    ((ls'.map Text.trim).filter isSignificant).Perm ((ls.map Text.trim).filter isSignificant) := by
  have hnil : (extra.map Text.trim).filter isSignificant = [] := by
    rw [List.filter_eq_nil_iff]
    intro l hl
    obtain ⟨x, hx, rfl⟩ := List.mem_map.mp hl
    rw [hextra x hx]
    exact Bool.false_ne_true
  have h := (hp.map Text.trim).filter isSignificant
  rwa [List.map_append, List.filter_append, hnil, List.append_nil] at h

/-- Files with the same significant lines up to their order are read alike. -/
theorem parseConfigFile_congr {readToString' : Str → Option Str} {path' content content' : Str}
    (hread : readToString path = some content) (hread' : readToString' path' = some content')
    (hp : (significantLines content').Perm (significantLines content)) :
    parseConfigFile net readToString' path' = .ok o ↔
      parseConfigFile net readToString path = .ok o := by
  rw [parseConfigFile_eq_ok_iff hread, parseConfigFile_eq_ok_iff hread']
  exact ⟨.perm hp, .perm hp.symm⟩

/-- **The config parser accepts exactly its grammar**, and gives what the file describes. Permuting
the lines of a file and inserting blank and comment lines changes neither, whether the lines are
taken as `str::lines` gives them or as the text between newlines. -/
theorem parseConfigFile_accepts_grammar (net : StdNet) (readToString : Str → Option Str)
    (path : Str) :
    (∀ o, parseConfigFile net readToString path = .ok o ↔
      ∃ content, readToString path = some content ∧
        Describes net (significantLines content) o) ∧
    (∀ (readToString' : Str → Option Str) (path' content content' : Str) (extra : List Str),
      readToString path = some content → readToString' path' = some content' →
      (Text.lines content').Perm (Text.lines content ++ extra) →
      (∀ l ∈ extra, isSignificant (Text.trim l) = false) →
      ∀ o, parseConfigFile net readToString' path' = .ok o ↔
        parseConfigFile net readToString path = .ok o) ∧
    (∀ (readToString' : Str → Option Str) (path' : Str) (ls ls' extra : List Str),
      (∀ l ∈ ls', '\n' ∉ l) → readToString path = some (['\n'].intercalate ls) →
      readToString' path' = some (['\n'].intercalate ls') → ls'.Perm (ls ++ extra) →
      (∀ l ∈ extra, isSignificant (Text.trim l) = false) →
      ∀ o, parseConfigFile net readToString' path' = .ok o ↔
        parseConfigFile net readToString path = .ok o) := by
  refine ⟨?_, ?_, ?_⟩
  · intro o
    cases hread : readToString path with
    | none =>
      have hfail : parseConfigFile net readToString path =
          .error ("read runtime config file ".toList ++ path) := by
        unfold parseConfigFile
        rw [hread]
      rw [hfail]
      exact iff_of_false nofun fun ⟨_, h, _⟩ => nomatch h
    | some content =>
      rw [parseConfigFile_eq_ok_iff hread]
      constructor
      · intro h
        exact ⟨content, rfl, h⟩
      · rintro ⟨content', ⟨⟩, h⟩
        exact h
  · intro readToString' path' content content' extra hread hread' hp hextra o
    exact parseConfigFile_congr hread hread' (significant_perm hp hextra)
  · intro readToString' path' ls ls' extra hls' hread hread' hp hextra o
    have hls : ∀ l ∈ ls, '\n' ∉ l := by
      intro l hl
      exact hls' l (hp.mem_iff.mpr (List.mem_append_left _ hl))
    refine parseConfigFile_congr hread hread' ?_
    rw [significantLines_intercalate hls, significantLines_intercalate hls']
    exact significant_perm hp hextra

/-- Two settings and their file with the settings swapped, a comment and a blank line added. -/
def settingsFile : Str := "http_listen_addr = \"127.0.0.1:8080\"\nplugin_paths = \"a; b\"\n".toList

def swappedFile : Str :=
  "# plugins\nplugin_paths = \"a; b\"\n \nhttp_listen_addr = \"127.0.0.1:8080\"\n".toList

/-- Both files are accepted with the same result. -/
theorem parseConfigFile_swapped :
    parseConfigFile .loopback (fun _ => some swappedFile) [] =
      .ok ⟨some "127.0.0.1:8080".toList, some ["a".toList, "b".toList]⟩ := by
  refine (((parseConfigFile_accepts_grammar .loopback (fun _ => some settingsFile) []).2.1
    (fun _ => some swappedFile) [] settingsFile swappedFile ["# plugins".toList, " ".toList]
    rfl rfl ?_ ?_) _).mpr ?_
  · decide
  · decide
  · rfl

end Vakil
