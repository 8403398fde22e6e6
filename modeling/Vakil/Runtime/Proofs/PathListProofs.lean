import Vakil.Runtime.Proofs.ConfigProofs

/-!
# Proofs: the two parsers of plugin path lists

The parser of the environment variable drops blank segments, the one of the config file refuses
them. On a list without blank segments they agree, and both read a list back that was joined with a
separator that is in none of its paths.
-/

namespace Vakil

/-- A list of paths that can be joined with `c`. -/
def Joinable (c : Char) (ps : List Str) : Prop :=
  ∀ p ∈ ps, p ≠ [] ∧ Text.trim p = p ∧ c ∉ p

/-- The trimmed segments of `raw` that are not blank. -/
def nonBlankSegments (c : Char) (raw : Str) : List Str :=
  ((raw.splitOn c).map Text.trim).filter fun segment => !segment.isEmpty

theorem parsePluginPaths_singleton (raw : Str) (c : Char) :
    parsePluginPaths raw [c] = if Text.trim raw = [] then [] else nonBlankSegments c raw := by
  rw [parsePluginPaths, Text.splitStr_singleton]
  rfl

theorem nonBlankSegments_of_forall {c : Char} {raw : Str}
    (h : ∀ segment ∈ raw.splitOn c, Text.trim segment ≠ []) :
    nonBlankSegments c raw = (raw.splitOn c).map Text.trim := by
  refine List.filter_eq_self.mpr ?_
  intro segment hsegment
  obtain ⟨s, hs, rfl⟩ := List.mem_map.mp hsegment
  simpa using h s hs

/-- Where the strict parser accepts, the lenient one has the same result. -/
theorem parsePluginPaths_eq_pathSegments {raw : Str} (h : IsPathList raw) :
    parsePluginPaths raw [';'] = pathSegments raw := by
  rw [parsePluginPaths_singleton, pathSegments]
  split_ifs with hraw
  · rfl
  · exact nonBlankSegments_of_forall (h.resolve_left hraw)

/-! ## Joined lists -/

section Joined

variable {c : Char} {ps : List Str}

/-- The pieces of the joined text are the paths. -/
theorem splitOn_joined (h : Joinable c ps) (hne : ps ≠ []) : ([c].intercalate ps).splitOn c = ps :=
  List.splitOn_intercalate c (fun p hp => (h p hp).2.2) hne

theorem map_trim_joinable (h : Joinable c ps) : ps.map Text.trim = ps := by
  calc ps.map Text.trim = ps.map id := List.map_congr_left fun p hp => (h p hp).2.1
    _ = ps := List.map_id ps

/-- The joined text is not blank: it starts with a path. -/
theorem trim_joined_ne_nil (h : Joinable c ps) (hne : ps ≠ []) :
    Text.trim ([c].intercalate ps) ≠ [] := by
  obtain ⟨p, rest, rfl⟩ := List.exists_cons_of_ne_nil hne
  obtain ⟨hp, htrim, -⟩ := h p List.mem_cons_self
  obtain ⟨tail, htail⟩ : ∃ tail, [c].intercalate (p :: rest) = p ++ tail := by
    cases rest with
    | nil => exact ⟨[], by rw [List.intercalate_singleton, List.append_nil]⟩
    | cons q rest => exact ⟨_, by rw [List.intercalate_cons_cons, List.append_assoc]⟩
  intro hblank
  rw [htail, Text.trim_eq_nil_iff] at hblank
  rw [← htrim, ne_eq, Text.trim_eq_nil_iff] at hp
  exact hp fun x hx => hblank x (List.mem_append_left tail hx)

/-- No segment of the joined text is blank. -/
theorem segments_joined (h : Joinable c ps) (hne : ps ≠ []) :
    ∀ segment ∈ ([c].intercalate ps).splitOn c, Text.trim segment ≠ [] := by
  rw [splitOn_joined h hne]
  intro p hp
  rw [(h p hp).2.1]
  exact (h p hp).1

theorem parsePluginPaths_joined (h : Joinable c ps) :
    parsePluginPaths ([c].intercalate ps) [c] = ps := by
  rw [parsePluginPaths_singleton]
  by_cases hne : ps = []
  · rw [hne]
    rfl
  · rw [if_neg (trim_joined_ne_nil h hne), nonBlankSegments_of_forall (segments_joined h hne),
      splitOn_joined h hne, map_trim_joinable h]

end Joined

/-! ## Agreement -/

/-- **The two parsers agree.** The strict one accepts exactly the blank texts and those without a
blank segment, with the result of the lenient one. On what it rejects, the lenient one has the
segments that are not blank. Either reads a joined list back. -/
theorem pluginPathParsers_agree :
    (∀ raw ps, parsePluginPathsStrict raw = .ok ps ↔
      (Text.trim raw = [] ∨ ∀ segment ∈ raw.splitOn ';', Text.trim segment ≠ []) ∧
        parsePluginPaths raw ";".toList = ps) ∧
    (∀ raw e, parsePluginPathsStrict raw = .error e →
      parsePluginPaths raw ";".toList =
        ((raw.splitOn ';').map Text.trim).filter fun segment => !segment.isEmpty) ∧
    (∀ c ps, (∀ p ∈ ps, p ≠ [] ∧ Text.trim p = p ∧ c ∉ p) →
      parsePluginPaths ([c].intercalate ps) [c] = ps) ∧
    (∀ ps, (∀ p ∈ ps, p ≠ [] ∧ Text.trim p = p ∧ ';' ∉ p) →
      parsePluginPathsStrict ([';'].intercalate ps) = .ok ps) := by
  have hiff : ∀ raw ps, parsePluginPathsStrict raw = .ok ps ↔
      IsPathList raw ∧ parsePluginPaths raw ";".toList = ps := by
    intro raw ps
    rw [parsePluginPathsStrict_eq_ok_iff, and_congr_right_iff]
    intro hraw
    have hlenient : parsePluginPaths raw ";".toList = pathSegments raw :=
      parsePluginPaths_eq_pathSegments hraw
    rw [hlenient, eq_comm]
  refine ⟨hiff, ?_, fun c ps => parsePluginPaths_joined, ?_⟩
  · intro raw e hrejected
    have hno : ¬ IsPathList raw := by
      intro hraw
      rw [(hiff raw _).mpr ⟨hraw, rfl⟩] at hrejected
      cases hrejected
    have hblank : Text.trim raw ≠ [] := fun hblank => hno (.inl hblank)
    exact (parsePluginPaths_singleton raw ';').trans (if_neg hblank)
  · intro ps h
    refine (hiff _ ps).mpr ⟨?_, parsePluginPaths_joined h⟩
    by_cases hne : ps = []
    · exact .inl (by rw [hne]; rfl)
    · exact .inr (segments_joined h hne)

/-- Two paths, joined and read back. -/
theorem twoPaths_agree :
    parsePluginPathsStrict "/tmp/one;/tmp/two".toList =
      .ok ["/tmp/one".toList, "/tmp/two".toList] :=
  pluginPathParsers_agree.2.2.2 ["/tmp/one".toList, "/tmp/two".toList] (by decide)

end Vakil
