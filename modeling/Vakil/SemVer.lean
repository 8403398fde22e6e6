import Vakil.Lib.Text
import Vakil.PluginSys

/-!
# Versions as text (`SemVer::from_string`)

The version that the host gives to the plugins is read from the one of its package.
-/

namespace Vakil

/-- `SemVer::from_string`; `none` for a panic. What is behind the third piece is never parsed. -/
def SemVer.fromString (input : Str) : Option SemVer :=
  match input.splitOn '.' with
  | major :: minor :: patch :: _ => do
    let major ← Text.parseU8 major
    let minor ← Text.parseU8 minor
    let patch ← Text.parseU8 patch
    return ⟨major, minor, patch⟩
  | _ => none

end Vakil
