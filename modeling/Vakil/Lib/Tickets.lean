import Mathlib.Data.Int.CardIntervalMod
import Mathlib.Data.List.Nodup
import Mathlib.Logic.Function.Iterate
import Vakil.Lib.Tasks

/-!
# Tasks that draw tickets

A world has a counter, `count`, that a task may advance by `next`, once: it takes what it found there as
its ticket. In a pool of such tasks the tickets are drawn in turn, whatever the schedule is: the tasks
that have one can be listed in an order in which the `k`-th has the ticket that comes `k` steps after the
first.
-/

namespace Tasks

variable {ι W α β σ ρ N : Type}

/-- With the ticket `held`, if any, the task leaves the counter as it is or draws a ticket, unless it has
one, and it ends with a value that has `P` for its ticket. -/
inductive Task.Ticketed (count : W → N) (next : N → N) (P : Option N → α → Prop) :
    Option N → Task W α → Prop where
  | done {held : Option N} {a : α} (h : P held a) : Ticketed count next P held (.done a)
  | keep {held : Option N} {act : W → W} {rest : W → Task W α}
      (hact : ∀ w, count (act w) = count w) (hrest : ∀ w, Ticketed count next P held (rest w)) :
      Ticketed count next P held (.turn act rest)
  | draw {act : W → W} {rest : W → Task W α} (hact : ∀ w, count (act w) = next (count w))
      (hrest : ∀ w, Ticketed count next P (some (count w)) (rest w)) :
      Ticketed count next P none (.turn act rest)

namespace Task.Ticketed

variable {count : W → N} {next : N → N} {held : Option N}

theorem bind {Q : Option N → α → Prop} {P : Option N → β → Prop} {t : Task W α} {f : α → Task W β}
    (h : t.Ticketed count next Q held) (hf : ∀ held a, Q held a → (f a).Ticketed count next P held) :
    (t >>= f).Ticketed count next P held := by
  induction h with
  | done h => exact hf _ _ h
  | keep hact _ ih => exact .keep hact ih
  | draw hact _ ih => exact .draw hact ih

theorem mono {Q P : Option N → α → Prop} {t : Task W α} (h : t.Ticketed count next Q held)
    (hQP : ∀ held a, Q held a → P held a) : t.Ticketed count next P held := by
  induction h with
  | done h => exact .done (hQP _ _ h)
  | keep hact _ ih => exact .keep hact ih
  | draw hact _ ih => exact .draw hact ih

/-- A task with a ticket can only end with values that have `P` for it. -/
theorem exists_end [Nonempty W] {P : Option N → α → Prop} {t : Task W α}
    (h : t.Ticketed count next P held) :
    ∃ held' a, P held' a ∧ ∀ n, held = some n → held' = some n := by
  have w : W := Classical.choice inferInstance
  induction h with
  | @done held a h => exact ⟨held, a, h, fun _ h => h⟩
  | keep _ _ ih => exact ih w
  | draw _ _ ih =>
    obtain ⟨held', a, hP, -⟩ := ih w
    exact ⟨held', a, hP, nofun⟩

theorem foldlM {I : Option N → σ → Prop} {f : σ → α → Task W σ} {xs : List α}
    (hf : ∀ x ∈ xs, ∀ held s, I held s → (f s x).Ticketed count next I held) {s : σ}
    (h : I held s) : (xs.foldlM f s).Ticketed count next I held := by
  induction xs generalizing held s with
  | nil => exact .done h
  | cons x xs ih =>
    rw [List.foldlM_cons]
    refine (hf x List.mem_cons_self held s h).bind ?_
    intro held s h
    exact ih (fun y hy => hf y (List.mem_cons_of_mem _ hy)) h

end Task.Ticketed

/-- In `order` the tasks have drawn their tickets, from `first` on. -/
def HoldsInTurn (next : N → N) (first : N) (order : List ι) (i : ι) (held : Option N) : Prop :=
  (i ∉ order ∧ held = none) ∨ ∃ k, order[k]? = some i ∧ held = some (next^[k] first)

theorem HoldsInTurn.concat {next : N → N} {first : N} {order : List ι} {i j : ι} {held : Option N}
    (h : HoldsInTurn next first order j held) (hij : j ≠ i) :
    HoldsInTurn next first (order ++ [i]) j held := by
  rcases h with ⟨hj, hheld⟩ | ⟨k, hk, hheld⟩
  · left
    refine ⟨?_, hheld⟩
    intro hmem
    rcases List.mem_append.mp hmem with hmem | hmem
    · exact hj hmem
    · exact hij (List.mem_singleton.mp hmem)
  · right
    have hlt : k < order.length := (List.getElem?_eq_some_iff.mp hk).1
    exact ⟨k, (List.getElem?_append_left hlt).trans hk, hheld⟩

namespace Pool

variable {count : W → N} {next : N → N} {P : ι → Option N → α → Prop}

/-- The tasks of `order` hold a ticket each, in turn, and the others none; the counter is at the ticket
to come. -/
structure InTurn (count : W → N) (next : N → N) (P : ι → Option N → α → Prop) (first : N)
    (order : List ι) (p : Pool ι W α) : Prop where
  nodup : order.Nodup
  world : count p.world = next^[order.length] first
  tasks : ∀ i, ∃ held, HoldsInTurn next first order i held ∧
    (p.tasks i).Ticketed count next (P i) held

variable {first : N} {order : List ι} {p : Pool ι W α}

theorem InTurn.start (hcount : count p.world = first)
    (htasks : ∀ i, (p.tasks i).Ticketed count next (P i) none) :
    p.InTurn count next P first [] :=
  ⟨List.nodup_nil, hcount, fun i => ⟨none, .inl ⟨List.not_mem_nil, rfl⟩, htasks i⟩⟩

/-- A turn leaves the order as it is, or adds the task that has drawn a ticket. -/
theorem InTurn.step [DecidableEq ι] (h : p.InTurn count next P first order) (i : ι) :
    ∃ order', (p.step i).InTurn count next P first order' := by
  obtain ⟨held, hheld, hticketed⟩ := h.tasks i
  cases hi : p.tasks i with
  | done a =>
    rw [step_of_done hi]
    exact ⟨order, h⟩
  | turn act rest =>
    rw [hi] at hticketed
    rw [step_of_turn hi]
    cases hticketed with
    | keep hact hrest =>
      refine ⟨order, h.nodup, (hact p.world).trans h.world, fun j => ?_⟩
      show ∃ held, _ ∧ (Function.update p.tasks i (rest p.world) j).Ticketed count next (P j) held
      by_cases hji : j = i
      · subst hji
        rw [Function.update_self]
        exact ⟨held, hheld, hrest p.world⟩
      · rw [Function.update_of_ne hji]
        exact h.tasks j
    | draw hact hrest =>
      have hi' : i ∉ order := by
        rcases hheld with ⟨hi', -⟩ | ⟨k, -, hsome⟩
        · exact hi'
        · cases hsome
      have hnodup : (order ++ [i]).Nodup := by
        rw [← List.concat_eq_append]
        exact h.nodup.concat hi'
      have hworld : count (act p.world) = next^[(order ++ [i]).length] first := by
        rw [hact, h.world, List.length_append, List.length_singleton, Function.iterate_succ_apply']
      refine ⟨order ++ [i], hnodup, hworld, fun j => ?_⟩
      show ∃ held, _ ∧ (Function.update p.tasks i (rest p.world) j).Ticketed count next (P j) held
      by_cases hji : j = i
      · subst hji
        rw [Function.update_self]
        refine ⟨some (count p.world), .inr ⟨order.length, ?_, ?_⟩, hrest p.world⟩
        · exact List.getElem?_concat_length
        · rw [h.world]
      · rw [Function.update_of_ne hji]
        obtain ⟨held, hheld, hticketed⟩ := h.tasks j
        exact ⟨held, hheld.concat hji, hticketed⟩

theorem InTurn.after [DecidableEq ι] (h : p.InTurn count next P first order)
    (schedule : List ι) :
    ∃ order', (p.after schedule).InTurn count next P first order' := by
  induction schedule generalizing p order with
  | nil => exact ⟨order, h⟩
  | cons i schedule ih =>
    obtain ⟨order', h'⟩ := h.step i
    exact ih h'

/-- What a task has ended with has `P` for its ticket. -/
theorem InTurn.of_done (h : p.InTurn count next P first order) {i : ι} {a : α}
    (hi : p.tasks i = .done a) : ∃ held, HoldsInTurn next first order i held ∧ P i held a := by
  obtain ⟨held, hheld, hticketed⟩ := h.tasks i
  rw [hi] at hticketed
  cases hticketed with
  | done hP => exact ⟨held, hheld, hP⟩

end Pool

/-! ## Tickets in rotation -/

/-- Of consecutive numbers, each residue is that of equally many, to within one. -/
theorem count_residue_le (a m : ℕ) {b : ℕ} (hb : 0 < b) (r r' : ℕ) :
    Nat.count (fun k => a + k ≡ r [MOD b]) m ≤ Nat.count (fun k => a + k ≡ r' [MOD b]) m + 1 := by
  have hshift : ∀ r : ℕ, (fun k => a + k ≡ r [MOD b]) =
      fun k => k ≡ r + (b - 1) * a [MOD b] := by
    intro r
    have hsum : a + (r + (b - 1) * a) = r + b * a := by
      obtain ⟨b, rfl⟩ : ∃ c, b = c + 1 := ⟨b - 1, by omega⟩
      rw [Nat.add_sub_cancel]
      ring
    have hcancel : a + (r + (b - 1) * a) ≡ r [MOD b] := by
      rw [hsum]
      exact Nat.add_mul_mod_self_left r b a
    funext k
    refine propext ⟨fun h => ?_, fun h => ?_⟩
    · exact (h.trans hcancel.symm).add_left_cancel' a
    · exact (h.add_left a).trans hcancel
  have hcount : ∀ r : ℕ, m / b ≤ Nat.count (fun k => a + k ≡ r [MOD b]) m ∧
      Nat.count (fun k => a + k ≡ r [MOD b]) m ≤ m / b + 1 := by
    intro r
    simp only [hshift r]
    rw [Nat.count_modEq_card m hb]
    split_ifs <;> omega
  have hle := (hcount r).2
  have hge := (hcount r').1
  omega

/-- The members of a list with `P`, counted by their places. -/
theorem countP_eq_count {P : ι → Prop} {Q : ℕ → Prop} [DecidablePred P] [DecidablePred Q]
    {order : List ι} (h : ∀ k i, order[k]? = some i → (P i ↔ Q k)) :
    order.countP (fun i => P i) = Nat.count Q order.length := by
  induction order using List.reverseRecOn with
  | nil => rfl
  | append_singleton order i ih =>
    have hlast : P i ↔ Q order.length := h _ _ List.getElem?_concat_length
    have hbefore : ∀ k j, order[k]? = some j → (P j ↔ Q k) := by
      intro k j hk
      have hlt : k < order.length := (List.getElem?_eq_some_iff.mp hk).1
      exact h k j ((List.getElem?_append_left hlt).trans hk)
    rw [List.countP_append, ih hbefore, List.length_append, List.length_singleton,
      Nat.count_succ]
    by_cases hQ : Q order.length
    · rw [if_pos hQ, List.countP_singleton, if_pos (decide_eq_true (hlast.mpr hQ))]
    · have hP : ¬ P i := fun hP => hQ (hlast.mp hP)
      rw [if_neg hQ, List.countP_singleton, if_neg (by simpa using hP)]

end Tasks
