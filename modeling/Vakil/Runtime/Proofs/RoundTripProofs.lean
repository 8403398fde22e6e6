import Vakil.Lib.Split
import Vakil.Runtime.Proofs.PathListProofs

/-!
# Proofs: settings are read back

A list of plugin paths is read back from its joined text, whatever the separator is
(`parsePluginPaths_eq_iff` says what is read of any text), a config file from any layout of its settings,
and a whole configuration from the environment variables, or the file, that hold it
(`fromEnv_roundTrip`).
-/

namespace Vakil

/-! ## Path lists with any separator -/

theorem trim_singleton (c : Char) :
    Text.trim [c] = if Text.isWhitespace c then [] else [c] := by
  unfold Text.trim
  by_cases hc : Text.isWhitespace c = true
  · simp [hc]
  · rw [if_neg hc]
    simp [hc, List.rdropWhile]

theorem mem_intercalate {sep p : Str} {ps : List Str} {c : Char} (hp : p ∈ ps) (hc : c ∈ p) :
    c ∈ sep.intercalate ps := by
  induction ps with
  | nil => cases hp
  | cons q ps ih =>
    cases ps with
    | nil =>
      rw [List.intercalate_singleton]
      rwa [List.mem_singleton.mp hp] at hc
    | cons r ps =>
      rw [List.intercalate_cons_cons]
      rcases List.mem_cons.mp hp with rfl | hp
      · exact List.mem_append_left _ (List.mem_append_left _ hc)
      · exact List.mem_append_right _ (ih hp)

/-- The characters of the pieces are characters of the text. -/
theorem mem_of_mem_splitStr {sep s p : Str} {c : Char} (hp : p ∈ Text.splitStr sep s) (hc : c ∈ p) :
    c ∈ s := by
  by_cases hsep : sep = []
  · rw [Text.splitStr, if_pos hsep] at hp
    rcases List.mem_append.mp hp with hp | hp
    · rcases List.mem_cons.mp hp with rfl | hp
      · cases hc
      · obtain ⟨d, hd, rfl⟩ := List.mem_map.mp hp
        rwa [List.mem_singleton.mp hc]
    · rw [List.mem_singleton.mp hp] at hc
      cases hc
  · have hjoin : sep.intercalate (Text.splitStr sep s) = s := ((Text.splitStr_eq_iff hsep).mp rfl).2
    rw [← hjoin]
    exact mem_intercalate hp hc

/-- The test for a blank text changes nothing. -/
theorem parsePluginPaths_eq (raw sep : Str) : parsePluginPaths raw sep =
    ((Text.splitStr sep raw).map Text.trim).filter fun entry => !entry.isEmpty := by
  rw [parsePluginPaths]
  split_ifs with hraw
  · symm
    rw [List.filter_eq_nil_iff]
    intro entry hentry
    obtain ⟨piece, hpiece, rfl⟩ := List.mem_map.mp hentry
    have hblank : Text.trim piece = [] := by
      rw [Text.trim_eq_nil_iff] at hraw ⊢
      exact fun c hc => hraw c (mem_of_mem_splitStr hpiece hc)
    simp [hblank]
  · rfl

/-- With the empty separator. -/
theorem parsePluginPaths_nil (raw : Str) :
    parsePluginPaths raw [] = (raw.filter fun c => !Text.isWhitespace c).map ([·]) := by
  have hchars : ((raw.map ([·])).map Text.trim).filter (fun entry => !entry.isEmpty) =
      (raw.filter fun c => !Text.isWhitespace c).map ([·]) := by
    induction raw with
    | nil => rfl
    | cons c raw ih =>
      rw [List.map_cons, List.map_cons, trim_singleton]
      by_cases hc : Text.isWhitespace c = true
      · rw [if_pos hc, List.filter_cons_of_neg (by simp), ih, List.filter_cons_of_neg (by simp [hc])]
      · rw [if_neg hc, List.filter_cons_of_pos (by simp), ih,
          List.filter_cons_of_pos (by simpa using hc), List.map_cons]
  have hends : Text.splitStr [] raw = [[]] ++ raw.map ([·]) ++ [[]] := rfl
  rw [parsePluginPaths_eq, hends, List.map_append, List.map_append, List.filter_append,
    List.filter_append, hchars]
  exact List.append_nil _

/-- **What is read of a path list**: with a separator, the trimmed pieces between its leftmost
occurrences that are not blank; with the empty one, every character that is not whitespace. -/
theorem parsePluginPaths_eq_iff (raw sep : Str) (ps : List Str) : parsePluginPaths raw sep = ps ↔
    if sep = [] then ps = (raw.filter fun c => !Text.isWhitespace c).map ([·])
    else ∃ segments, Text.IsSplit sep segments ∧ sep.intercalate segments = raw ∧
      ps = (segments.map Text.trim).filter fun segment => !segment.isEmpty := by
  split_ifs with hsep
  · rw [hsep, parsePluginPaths_nil]
    exact eq_comm
  · rw [parsePluginPaths_eq]
    constructor
    · rintro rfl
      obtain ⟨hsplit, hjoin⟩ := (Text.splitStr_eq_iff hsep).mp (rfl : Text.splitStr sep raw = _)
      exact ⟨_, hsplit, hjoin, rfl⟩
    · rintro ⟨segments, hsplit, hjoin, rfl⟩
      rw [(Text.splitStr_eq_iff hsep).mpr ⟨hsplit, hjoin⟩]

/-- **A path list is read back**, if the separator occurs in no path, nor across the end of one. -/
theorem parsePluginPaths_intercalate {sep : Str} {ps : List Str}
    (hps : ∀ p ∈ ps, p ≠ [] ∧ Text.trim p = p) (hsplit : ps ≠ [] → sep ≠ [] ∧ Text.IsSplit sep ps) :
    parsePluginPaths (sep.intercalate ps) sep = ps := by
  by_cases hne : ps = []
  · rw [hne]
    rfl
  · obtain ⟨hsep, hsplit⟩ := hsplit hne
    have htrim : ps.map Text.trim = ps := by
      calc ps.map Text.trim = ps.map id := List.map_congr_left fun p hp => (hps p hp).2
        _ = ps := List.map_id ps
    rw [parsePluginPaths_eq, (Text.splitStr_eq_iff hsep).mpr ⟨hsplit, rfl⟩, htrim]
    refine List.filter_eq_self.mpr ?_
    intro p hp
    simpa using (hps p hp).1

/-! ## Config files -/

/-- The text of a path list: the paths with any spaces around them, separated by `;`. -/
def IsPathText (ps : List Str) (value : Str) : Prop :=
  (ps = [] ∧ Text.trim value = []) ∨
    ∃ pieces, [';'].intercalate pieces = value ∧ pieces.map Text.trim = ps ∧
      ∀ piece ∈ pieces, ';' ∉ piece

/-- The settings that hold the overrides, with the text of the path list. -/
def RuntimeOverrides.settings (o : RuntimeOverrides) (pathText : Str) : List (Str × Str) :=
  (o.httpListenAddr.map fun value => (httpListenAddrKey, value)).toList ++
    (o.pluginPaths.map fun _ => (pluginPathsKey, pathText)).toList

/-- A config file can hold the overrides. -/
structure RuntimeOverrides.Writable (net : StdNet) (o : RuntimeOverrides) : Prop where
  addr : ∀ value, o.httpListenAddr = some value → (net.parseSocketAddr value).isSome
  paths : ∀ ps, o.pluginPaths = some ps → ∀ p ∈ ps, p ≠ []

/-- The lines of a file that holds the overrides: their settings, with any spaces around key, `=` and
value, and comments and blank lines, in any order. -/
structure RuntimeOverrides.Layout (o : RuntimeOverrides) where
  lines : List Str
  settingLines : List Str
  others : List Str
  pathText : Str
  oneLine : ∀ line ∈ lines, '\n' ∉ line
  perm : lines.Perm (settingLines ++ others)
  areSettings : List.Forall₂ IsSetting settingLines (o.settings pathText)
  arePaths : ∀ ps, o.pluginPaths = some ps → IsPathText ps pathText
  insignificant : ∀ line ∈ others, isSignificant (Text.trim line) = false

def RuntimeOverrides.Layout.content {o : RuntimeOverrides} (layout : o.Layout) : Str :=
  ['\n'].intercalate layout.lines

section IsSetting

variable {line : Str} {setting : Str × Str}

/-- Spaces around a line do not change what it sets. -/
theorem IsSetting.trim (h : IsSetting line setting) : IsSetting (Text.trim line) setting := by
  obtain ⟨key, value, rfl, hkey, hname, hquoted⟩ := h
  refine ⟨key.dropWhile Text.isWhitespace, value.rdropWhile Text.isWhitespace,
    Text.trim_append_cons (by decide) key value, ?_, ?_, ?_⟩
  · exact fun hmem => hkey ((List.dropWhile_sublist _).subset hmem)
  · rw [Text.trim_dropWhile, hname]
  · rw [Text.trim_rdropWhile, hquoted]

/-- A line that sets a known key is no comment. -/
theorem IsSetting.significant (h : IsSetting line setting)
    (hknown : setting.1 = httpListenAddrKey ∨ setting.1 = pluginPathsKey) :
    isSignificant (Text.trim line) = true := by
  obtain ⟨key, value, rfl, -, hname, -⟩ := h
  have hhead : (Text.trim (key ++ '=' :: value)).head? = setting.1.head?.or (some '=') := by
    rw [Text.trim_append_cons (by decide), List.head?_append, ← hname, Text.head?_trim, List.head?_cons]
  have hne : Text.trim (key ++ '=' :: value) ≠ [] := by
    rw [Text.trim_append_cons (by decide)]
    exact List.append_ne_nil_of_right_ne_nil _ (List.cons_ne_nil _ _)
  have hhash : (Text.trim (key ++ '=' :: value)).head? ≠ some '#' := by
    rw [hhead]
    rcases hknown with h | h
    · rw [h]
      decide
    · rw [h]
      decide
  simp [isSignificant, hne, hhash]

/-- Every line has its setting. -/
theorem exists_setting {lines : List Str} {settings : List (Str × Str)} {line : Str}
    (h : List.Forall₂ IsSetting lines settings) (hline : line ∈ lines) :
    ∃ setting ∈ settings, IsSetting line setting := by
  induction h with
  | nil => cases hline
  | cons hset _ ih =>
    rcases List.mem_cons.mp hline with rfl | hline
    · exact ⟨_, List.mem_cons_self, hset⟩
    · obtain ⟨setting, hmem, hset'⟩ := ih hline
      exact ⟨setting, List.mem_cons_of_mem _ hmem, hset'⟩

end IsSetting

/-- The parser's segments are the paths. -/
theorem IsPathText.isPathList {ps : List Str} {value : Str} (h : IsPathText ps value)
    (hps : ∀ p ∈ ps, p ≠ []) : IsPathList value ∧ pathSegments value = ps := by
  rcases h with ⟨rfl, hblank⟩ | ⟨pieces, rfl, rfl, hpieces⟩
  · exact ⟨.inl hblank, if_pos hblank⟩
  · by_cases hne : pieces = []
    · rw [hne]
      exact ⟨.inl rfl, rfl⟩
    · have hsplit : ([';'].intercalate pieces).splitOn ';' = pieces :=
        List.splitOn_intercalate ';' hpieces hne
      have hnonblank : ∀ piece ∈ pieces, Text.trim piece ≠ [] := fun piece hpiece =>
        hps _ (List.mem_map_of_mem hpiece)
      have htext : Text.trim ([';'].intercalate pieces) ≠ [] := by
        obtain ⟨piece, hpiece⟩ := List.exists_mem_of_ne_nil pieces hne
        intro hblank
        refine hnonblank piece hpiece (Text.trim_eq_nil_iff.mpr ?_)
        intro c hc
        exact Text.trim_eq_nil_iff.mp hblank c (mem_intercalate hpiece hc)
      rw [IsPathList, pathSegments, if_neg htext, hsplit]
      exact ⟨.inr hnonblank, rfl⟩

section Overrides

variable {net : StdNet} {o : RuntimeOverrides} {pathText : Str}

theorem addr_mem_settings_iff {value : Str} :
    (httpListenAddrKey, value) ∈ o.settings pathText ↔ o.httpListenAddr = some value := by
  simp [RuntimeOverrides.settings, keys_differ.symm]

theorem paths_mem_settings_iff {value : Str} :
    (pluginPathsKey, value) ∈ o.settings pathText ↔
      ∃ ps, o.pluginPaths = some ps ∧ pathText = value := by
  simp [RuntimeOverrides.settings, keys_differ]

theorem known_of_mem_settings {setting : Str × Str} (h : setting ∈ o.settings pathText) :
    setting.1 = httpListenAddrKey ∨ setting.1 = pluginPathsKey := by
  rcases List.mem_append.mp h with h | h
  · obtain ⟨value, -, rfl⟩ := Option.map_eq_some_iff.mp (Option.mem_toList.mp h)
    exact .inl rfl
  · obtain ⟨ps, -, rfl⟩ := Option.map_eq_some_iff.mp (Option.mem_toList.mp h)
    exact .inr rfl

theorem settings_wellFormed (h : o.Writable net) (layout : o.Layout) :
    WellFormed net (o.settings layout.pathText) where
  known _ hs := known_of_mem_settings hs
  once := by
    rcases o with ⟨_ | addr, _ | ps⟩ <;> simp [RuntimeOverrides.settings, keys_differ]
  addr value hv := h.addr value (addr_mem_settings_iff.mp hv)
  paths value hv := by
    obtain ⟨ps, hps, rfl⟩ := paths_mem_settings_iff.mp hv
    exact ((layout.arePaths ps hps).isPathList (h.paths ps hps)).1

theorem settings_denote (h : o.Writable net) (layout : o.Layout) :
    Denotes (o.settings layout.pathText) o where
  addr value := addr_mem_settings_iff.symm
  paths ps := by
    constructor
    · intro hps
      refine ⟨_, paths_mem_settings_iff.mpr ⟨ps, hps, rfl⟩, ?_⟩
      exact ((layout.arePaths ps hps).isPathList (h.paths ps hps)).2.symm
    · rintro ⟨value, hvalue, rfl⟩
      obtain ⟨ps, hps, rfl⟩ := paths_mem_settings_iff.mp hvalue
      rw [hps, ((layout.arePaths ps hps).isPathList (h.paths ps hps)).2]

/-- The significant lines of the file, trimmed, are the settings. -/
theorem settingLines_describe (h : o.Writable net) (layout : o.Layout) :
    Describes net ((layout.settingLines.map Text.trim).filter isSignificant) o := by
  refine ⟨o.settings layout.pathText, ?_, settings_wellFormed h layout, settings_denote h layout⟩
  have hall : (layout.settingLines.map Text.trim).filter isSignificant =
      layout.settingLines.map Text.trim := by
    refine List.filter_eq_self.mpr ?_
    intro line hline
    obtain ⟨rawLine, hraw, rfl⟩ := List.mem_map.mp hline
    obtain ⟨setting, hmem, hset⟩ := exists_setting layout.areSettings hraw
    exact hset.significant (known_of_mem_settings hmem)
  rw [hall, List.forall₂_map_left_iff]
  exact layout.areSettings.imp fun _ _ hset => hset.trim

/-- **Overrides are read back** from every layout of their settings. -/
theorem parseConfigFile_layout (h : o.Writable net) (layout : o.Layout)
    {readToString : Str → Option Str} {path : Str} (hread : readToString path = some layout.content) :
    parseConfigFile net readToString path = .ok o := by
  have hsame := significant_perm layout.perm layout.insignificant
  rw [parseConfigFile_eq_ok_iff hread, RuntimeOverrides.Layout.content,
    significantLines_intercalate layout.oneLine]
  exact (settingLines_describe h layout).perm hsame.symm

end Overrides

/-! ## Configurations -/

/-- The environment variables hold the configuration, with some separator between the paths. -/
structure RuntimeConfig.InVars (c : RuntimeConfig) (var : Str → Option Str) (sep : Str) : Prop where
  http : var "VAKIL_HTTP_LISTEN_ADDR".toList = some c.httpListenAddr
  tcp : var "VAKIL_TCP_LISTEN_ADDR".toList = some c.tcpListenAddr
  udp : var "VAKIL_UDP_LISTEN_ADDR".toList = some c.udpListenAddr
  paths : var "VAKIL_PLUGIN_PATHS".toList = some (sep.intercalate c.pluginPaths)
  separator : var "VAKIL_PATH_SEP".toList = some sep
  noFile : var "VAKIL_CONFIG".toList = none
  trimmed : ∀ p ∈ c.pluginPaths, p ≠ [] ∧ Text.trim p = p
  split : c.pluginPaths ≠ [] → sep ≠ [] ∧ Text.IsSplit sep c.pluginPaths

/-- A config file, in some layout, holds what the file can hold of the configuration. -/
structure RuntimeConfig.InFile (c : RuntimeConfig) (net : StdNet) (var readToString : Str → Option Str) :
    Prop where
  tcp : var "VAKIL_TCP_LISTEN_ADDR".toList = some c.tcpListenAddr
  udp : var "VAKIL_UDP_LISTEN_ADDR".toList = some c.udpListenAddr
  writable : RuntimeOverrides.Writable net ⟨some c.httpListenAddr, some c.pluginPaths⟩
  file : ∃ path, ∃ layout : RuntimeOverrides.Layout ⟨some c.httpListenAddr, some c.pluginPaths⟩,
    var "VAKIL_CONFIG".toList = some path ∧ readToString path = some layout.content

/-- **A configuration is read back** from the variables that hold it, and from the file that does,
whatever the variables say that the file overrides. -/
theorem fromEnv_roundTrip (net : StdNet) (var readToString : Str → Option Str) (c : RuntimeConfig)
    (h : (∃ sep, c.InVars var sep) ∨ c.InFile net var readToString) :
    RuntimeConfig.fromEnv net var readToString = .ok c := by
  unfold RuntimeConfig.fromEnv
  rcases h with ⟨sep, hvars⟩ | hfile
  · rw [hvars.noFile, hvars.http, hvars.tcp, hvars.udp, hvars.paths,
      hvars.separator]
    simp only [Option.getD_some]
    rw [parsePluginPaths_intercalate hvars.trimmed hvars.split]
  · obtain ⟨path, layout, hpath, hread⟩ := hfile.file
    rw [hpath, hfile.tcp, hfile.udp]
    simp only [Option.getD_some]
    rw [parseConfigFile_layout hfile.writable layout hread]
    rfl

/-- Every variable has the value `x`, but for the one that names the config file. -/
def oneFileVar (name : Str) : Option Str :=
  if name = "VAKIL_CONFIG".toList then some "vakil.conf".toList else some ['x']

/-- The settings with different spaces, and a comment between them. -/
def commentedFile : Str :=
  "plugin_paths=\"a; b\"\n# address\n  http_listen_addr  = \"127.0.0.1:8080\" ".toList

/-- The lines of the file. -/
def commentedLayout :
    RuntimeOverrides.Layout ⟨some "127.0.0.1:8080".toList, some ["a".toList, "b".toList]⟩ where
  lines := commentedFile.splitOn '\n'
  settingLines := ["  http_listen_addr  = \"127.0.0.1:8080\" ".toList, "plugin_paths=\"a; b\"".toList]
  others := ["# address".toList]
  pathText := "a; b".toList
  oneLine := by decide
  perm := by decide
  areSettings := by
    refine .cons ?_ (.cons ?_ .nil)
    · exact ⟨"  http_listen_addr  ".toList, " \"127.0.0.1:8080\" ".toList, by decide, by decide,
        by decide, by decide⟩
    · exact ⟨"plugin_paths".toList, "\"a; b\"".toList, by decide, by decide, by decide, by decide⟩
  arePaths := by
    rintro ps ⟨⟩
    exact .inr ⟨["a".toList, " b".toList], by decide, by decide, by decide⟩
  insignificant := by decide

theorem fromEnv_commentedFile :
    RuntimeConfig.fromEnv .loopback oneFileVar (fun _ => some commentedFile) =
      .ok ⟨"127.0.0.1:8080".toList, ['x'], ['x'], ["a".toList, "b".toList]⟩ := by
  have haddr : (StdNet.loopback.parseSocketAddr "127.0.0.1:8080".toList).isSome := by decide
  have hpaths : ∀ p ∈ ["a".toList, "b".toList], p ≠ [] := by decide
  have hcontent : commentedLayout.content = commentedFile := by decide
  have hwritable : RuntimeOverrides.Writable .loopback
      ⟨some "127.0.0.1:8080".toList, some ["a".toList, "b".toList]⟩ := by
    refine ⟨?_, ?_⟩
    · rintro value ⟨⟩
      exact haddr
    · rintro ps ⟨⟩
      exact hpaths
  exact fromEnv_roundTrip .loopback oneFileVar (fun _ => some commentedFile) _
    (.inr ⟨rfl, rfl, hwritable, _, commentedLayout, rfl, congrArg some hcontent.symm⟩)

end Vakil
