import Mathlib.Data.List.Nodup
import Vakil.Lib.Outcome

/-!
# Checks that accept and normalise values

`Accepts check p g`: `check` succeeds exactly on the values with `p`, and makes `g a` of `a`. Such
checks can be run over a list, where the first failure is the result. `table` is what a loop over a
list makes that enters a value for each element in a hash map and refuses a key it has seen.
-/

/-- A computation returns if its first part does and the rest does on what that returned. -/
theorem Except.bind_eq_ok_iff.{u, v} {ε : Type u} {α β : Type v} {x : Except ε α}
    {f : α → Except ε β} {b : β} : (x >>= f) = .ok b ↔ ∃ a, x = .ok a ∧ f a = .ok b := by
  refine ⟨Except.bind_ok, ?_⟩
  rintro ⟨a, rfl, h⟩
  exact h

namespace Validation

section Accepts

variable {ε α β : Type}

def Accepts (check : α → Except ε β) (p : α → Prop) (g : α → β) : Prop :=
  ∀ a b, check a = .ok b ↔ p a ∧ b = g a

variable {check : α → Except ε β} {p : α → Prop} {g : α → β}

theorem Accepts.exists_ok_iff (h : Accepts check p g) (a : α) : (∃ b, check a = .ok b) ↔ p a := by
  constructor
  · rintro ⟨b, hb⟩
    exact ((h a b).mp hb).1
  · intro ha
    exact ⟨g a, (h a _).mpr ⟨ha, rfl⟩⟩

/-- The checks of a list. -/
theorem Accepts.mapM_iff (h : Accepts check p g) {as : List α} {bs : List β} :
    as.mapM check = .ok bs ↔ (∀ a ∈ as, p a) ∧ bs = as.map g := by
  induction as generalizing bs with
  | nil =>
    rw [List.mapM_nil]
    constructor
    · rintro ⟨⟩
      exact ⟨nofun, rfl⟩
    · rintro ⟨-, rfl⟩
      rfl
  | cons a as ih =>
    rw [List.mapM_cons, Except.bind_eq_ok_iff, List.forall_mem_cons]
    constructor
    · rintro ⟨b, hb, hrest⟩
      obtain ⟨bs', hbs', hrest⟩ := Except.bind_ok hrest
      obtain ⟨ha, rfl⟩ := (h a b).mp hb
      obtain ⟨has, rfl⟩ := ih.mp hbs'
      cases hrest
      exact ⟨⟨ha, has⟩, rfl⟩
    · rintro ⟨⟨ha, has⟩, rfl⟩
      refine ⟨g a, (h a _).mpr ⟨ha, rfl⟩, ?_⟩
      exact Except.bind_eq_ok_iff.mpr ⟨as.map g, ih.mpr ⟨has, rfl⟩, rfl⟩

end Accepts

section Table

variable {ε α κ ν : Type} [BEq κ] [Hashable κ] [LawfulBEq κ] [LawfulHashable κ]

/-- The values of some entries, under their keys. -/
def table (key : α → κ) (val : α → ν) (as : List α) : Std.HashMap κ ν :=
  Std.HashMap.insertMany ∅ (as.map fun a => (key a, val a))

variable {key : α → κ} {val : α → ν} {as : List α}

theorem getElem?_table {a : α} (hkeys : (as.map key).Nodup) (ha : a ∈ as) :
    (table key val as)[key a]? = some (val a) := by
  have hdistinct : (as.map fun a => (key a, val a)).Pairwise fun x y => (x.1 == y.1) = false := by
    rw [List.pairwise_map]
    rw [List.Nodup, List.pairwise_map] at hkeys
    exact hkeys.imp beq_false_of_ne
  exact Std.HashMap.getElem?_insertMany_list_of_mem (beq_self_eq_true _) hdistinct
    (List.mem_map.mpr ⟨a, ha, rfl⟩)

theorem getElem?_table_of_forall_ne {k : κ} (h : ∀ a ∈ as, key a ≠ k) :
    (table key val as)[k]? = none := by
  have hno : ((as.map fun a => (key a, val a)).map Prod.fst).contains k = false := by
    simpa using h
  rw [table, Std.HashMap.getElem?_insertMany_list_of_contains_eq_false hno,
    Std.HashMap.getElem?_empty]

theorem isEmpty_table : (table key val as).isEmpty = as.isEmpty := by
  rw [table, Std.HashMap.isEmpty_insertMany_list]
  simp

/-- A loop that refuses keys that it has entered already, and values that fail a check. -/
theorem foldlM_insert_iff {step : Std.HashMap κ ν → α → Except ε (Std.HashMap κ ν)} {p : α → Prop}
    (hstep : ∀ m a m', step m a = .ok m' ↔ (p a ∧ key a ∉ m) ∧ m' = m.insert (key a) (val a))
    {m m' : Std.HashMap κ ν} :
    as.foldlM step m = .ok m' ↔ ((∀ a ∈ as, p a ∧ key a ∉ m) ∧ (as.map key).Nodup) ∧
      m' = m.insertMany (as.map fun a => (key a, val a)) := by
  induction as generalizing m with
  | nil => simp [pure, Except.pure, eq_comm]
  | cons a as ih =>
    have hmem : ∀ b, key b ∉ m.insert (key a) (val a) ↔ key a ≠ key b ∧ key b ∉ m := by
      simp [Std.HashMap.mem_insert]
    rw [List.foldlM_cons, Except.bind_eq_ok_iff, List.map_cons, List.map_cons, List.nodup_cons,
      Std.HashMap.insertMany_cons, List.forall_mem_cons]
    constructor
    · rintro ⟨m₁, hm₁, hrest⟩
      obtain ⟨ha, rfl⟩ := (hstep m a m₁).mp hm₁
      obtain ⟨⟨has, hkeys⟩, rfl⟩ := ih.mp hrest
      refine ⟨⟨⟨ha, fun b hb => ⟨(has b hb).1, ((hmem b).mp (has b hb).2).2⟩⟩, ?_, hkeys⟩, rfl⟩
      intro hin
      obtain ⟨b, hb, heq⟩ := List.mem_map.mp hin
      exact ((hmem b).mp (has b hb).2).1 heq.symm
    · rintro ⟨⟨⟨ha, has⟩, hkey, hkeys⟩, rfl⟩
      refine ⟨_, (hstep m a _).mpr ⟨ha, rfl⟩, ih.mpr ⟨⟨?_, hkeys⟩, rfl⟩⟩
      intro b hb
      have hne : key a ≠ key b := fun heq => hkey (List.mem_map.mpr ⟨b, hb, heq.symm⟩)
      exact ⟨(has b hb).1, (hmem b).mpr ⟨hne, (has b hb).2⟩⟩

/-- From an empty map, it makes the table. -/
theorem foldlM_table_iff {step : Std.HashMap κ ν → α → Except ε (Std.HashMap κ ν)} {p : α → Prop}
    (hstep : ∀ m a m', step m a = .ok m' ↔ (p a ∧ key a ∉ m) ∧ m' = m.insert (key a) (val a))
    {m : Std.HashMap κ ν} :
    as.foldlM step ∅ = .ok m ↔
      ((∀ a ∈ as, p a) ∧ (as.map key).Nodup) ∧ m = table key val as := by
  rw [foldlM_insert_iff hstep]
  simp only [Std.HashMap.not_mem_empty, not_false_eq_true, and_true]
  rfl

end Table

end Validation
