import Vakil.SemVer
import Vakil.PluginHost

/-!
# Proofs: which versions can be read

`SemVer::from_string` takes the first three numbers of a version, each below 256, and panics unless there
are three; it does not know of pre-releases (`fromString_eq_some_iff`).
-/

namespace Vakil

open Text

/-- A piece of a version, in front of the rest. -/
theorem splitOn_number {s rest : Str} {n : ℕ} (h : Reads s n) :
    (s ++ '.' :: rest).splitOn '.' = s :: rest.splitOn '.' :=
  List.splitOn_append_cons_self_of_not_mem (h.not_mem (by decide) (by decide)) rest

/-- The last number may be followed by a dot and any text. -/
theorem splitOn_last {s tail : Str} {n : ℕ} (h : Reads s n) (htail : tail = [] ∨ ∃ t, tail = '.' :: t) :
    ∃ ps, (s ++ tail).splitOn '.' = s :: ps := by
  rcases htail with rfl | ⟨t, rfl⟩
  · refine ⟨[], ?_⟩
    rw [List.append_nil]
    exact List.splitOn_eq_singleton (h.not_mem (by decide) (by decide))
  · exact ⟨_, splitOn_number h⟩

/-- A text, by its first three pieces. -/
theorem eq_of_splitOn {s a b c : Str} {ps : List Str} (h : s.splitOn '.' = a :: b :: c :: ps) :
    ∃ tail, s = a ++ '.' :: (b ++ '.' :: (c ++ tail)) ∧ (tail = [] ∨ ∃ t, tail = '.' :: t) := by
  have hjoin : ['.'].intercalate (a :: b :: c :: ps) = s := by
    rw [← h]
    exact List.intercalate_splitOn '.'
  cases ps with
  | nil =>
    refine ⟨[], ?_, .inl rfl⟩
    rw [← hjoin]
    simp
  | cons p ps =>
    refine ⟨'.' :: ['.'].intercalate (p :: ps), ?_, .inr ⟨_, rfl⟩⟩
    rw [← hjoin]
    simp

/-- **A version is read** exactly if it starts with three numbers below 256, with dots between them, and
goes on with a dot, if at all. -/
theorem fromString_eq_some_iff (s : Str) (v : SemVer) :
    SemVer.fromString s = some v ↔ ∃ major minor patch tail,
      s = major ++ '.' :: (minor ++ '.' :: (patch ++ tail)) ∧ (tail = [] ∨ ∃ t, tail = '.' :: t) ∧
      Reads major v.major.toNat ∧ Reads minor v.minor.toNat ∧ Reads patch v.patch.toNat := by
  unfold SemVer.fromString
  constructor
  · intro h
    split at h
    · next a b c ps hsplit =>
      obtain ⟨major, hmajor, h⟩ := Option.bind_eq_some_iff.mp h
      obtain ⟨minor, hminor, h⟩ := Option.bind_eq_some_iff.mp h
      obtain ⟨patch, hpatch, h⟩ := Option.bind_eq_some_iff.mp h
      cases h
      obtain ⟨tail, hs, htail⟩ := eq_of_splitOn hsplit
      exact ⟨a, b, c, tail, hs, htail, parseU8_eq_some_iff.mp hmajor, parseU8_eq_some_iff.mp hminor,
        parseU8_eq_some_iff.mp hpatch⟩
    · cases h
  · rintro ⟨a, b, c, tail, rfl, htail, hmajor, hminor, hpatch⟩
    obtain ⟨ps, hlast⟩ := splitOn_last hpatch htail
    rw [splitOn_number hmajor, splitOn_number hminor, hlast]
    dsimp only
    rw [parseU8_eq_some_iff.mpr hmajor, parseU8_eq_some_iff.mpr hminor, parseU8_eq_some_iff.mpr hpatch]
    rfl

/-- The version of the host's package. -/
example {W : Type} (env : HostEnv W) (path : Str) :
    SemVer.fromString "0.1.0".toList = some (buildInitContext env path).hostVersion := rfl

/-- A pre-release panics. -/
example : SemVer.fromString "0.2.0-rc1".toList = none := by decide

end Vakil
