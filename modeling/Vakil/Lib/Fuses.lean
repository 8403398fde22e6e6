import Mathlib.Algebra.Ring.Nat
import Vakil.Lib.Tasks

/-!
# Tasks that set a latch at a known turn

A latch `S` is a property of the world that no turn takes back. A task has a fuse of length `n` for it, if
the turn behind its first `n` turns sets it and those before leave it as it is. If every task of a pool has
a fuse or leaves the latch as it is, then the schedule alone tells whether the latch is set
(`Pool.Fused.after_iff`).
-/

namespace Tasks

variable {ι W α β σ : Type}

/-- The latch is not taken back. -/
def Keeping (S : W → Prop) (w w' : W) : Prop := S w → S w'

/-- The latch is left as it is. -/
def Sparing (S : W → Prop) (w w' : W) : Prop := S w' ↔ S w

namespace Task

/-- The task takes `n` turns, which leave the latch as it is, and ends with `R`. -/
inductive Waits (S : W → Prop) (R : α → Prop) : ℕ → Task W α → Prop where
  | done {a : α} (h : R a) : Waits S R 0 (.done a)
  | turn {n : ℕ} {act : W → W} {rest : W → Task W α} (hact : ∀ w, Sparing S w (act w))
      (hrest : ∀ w, Waits S R n (rest w)) : Waits S R (n + 1) (.turn act rest)

inductive Fuse (S : W → Prop) : ℕ → Task W α → Prop where
  | wait {n : ℕ} {act : W → W} {rest : W → Task W α} (hact : ∀ w, Sparing S w (act w))
      (hrest : ∀ w, Fuse S n (rest w)) : Fuse S (n + 1) (.turn act rest)
  | fire {act : W → W} {rest : W → Task W α} (hact : ∀ w, S (act w))
      (hrest : ∀ w, (rest w).Ensures (fun _ => True) (Keeping S) fun _ => True) :
      Fuse S 0 (.turn act rest)

variable {S : W → Prop} {m n : ℕ}

theorem Waits.bind {Q : α → Prop} {R : β → Prop} {t : Task W α} {f : α → Task W β}
    (h : t.Waits S Q m) (hf : ∀ a, Q a → (f a).Waits S R n) : (t >>= f).Waits S R (m + n) := by
  induction h with
  | done h =>
    rw [Nat.zero_add]
    exact hf _ h
  | @turn m _ _ hact _ ih =>
    have hsum : m + 1 + n = m + n + 1 := by omega
    rw [hsum]
    exact .turn hact ih

theorem Waits.foldlM {R : σ → Prop} {f : σ → α → Task W σ} {turns : α → ℕ} {xs : List α}
    (hf : ∀ x ∈ xs, ∀ s, R s → (f s x).Waits S R (turns x)) {s : σ} (h : R s) :
    (xs.foldlM f s).Waits S R (xs.map turns).sum := by
  induction xs generalizing s with
  | nil => exact .done h
  | cons x xs ih =>
    rw [List.foldlM_cons, List.map_cons, List.sum_cons]
    refine (hf x List.mem_cons_self s h).bind ?_
    intro s h
    exact ih (fun y hy => hf y (List.mem_cons_of_mem _ hy)) h

theorem Waits.ensures {R : α → Prop} {t : Task W α} (h : t.Waits S R n) :
    t.Ensures (fun _ => True) (Sparing S) R := by
  induction h with
  | done h => exact .done h
  | turn hact _ ih => exact .turn (fun w _ => hact w) fun w _ => ih w

theorem Waits.bind_fuse {R : α → Prop} {t : Task W α} {f : α → Task W β} (h : t.Waits S R m)
    (hf : ∀ a, R a → (f a).Fuse S n) : (t >>= f).Fuse S (m + n) := by
  induction h with
  | done h =>
    rw [Nat.zero_add]
    exact hf _ h
  | @turn m _ _ hact _ ih =>
    have hsum : m + 1 + n = m + n + 1 := by omega
    rw [hsum]
    exact .wait hact ih

/-- What comes behind the fuse has to keep the latch. -/
theorem Fuse.bind {t : Task W α} {f : α → Task W β} (h : t.Fuse S n)
    (hf : ∀ a, (f a).Ensures (fun _ => True) (Keeping S) fun _ => True) : (t >>= f).Fuse S n := by
  induction h with
  | wait hact _ ih => exact .wait hact ih
  | fire hact hrest => exact .fire hact fun w => (hrest w).bind fun a _ => hf a

theorem Fuse.keeping {t : Task W α} (h : t.Fuse S n) :
    t.Ensures (fun _ => True) (Keeping S) fun _ => True := by
  induction h with
  | wait hact _ ih => exact .turn (fun w _ => (hact w).mpr) fun w _ => ih w
  | fire hact hrest => exact .turn (fun w _ _ => hact w) fun w _ => hrest w

theorem Ensures.keeping {Q : α → Prop} {t : Task W α}
    (h : t.Ensures (fun _ => True) (Sparing S) Q) : t.Ensures (fun _ => True) (Keeping S) Q :=
  h.mono (fun _ => id) (fun _ _ _ hspares => hspares.mpr) fun _ => id

theorem Ensures.sat {Q : α → Prop} {t : Task W α}
    (h : t.Ensures (fun _ => True) (Keeping S) Q) : t.Sat S Q :=
  h.mono (fun _ _ => trivial) (fun _ _ hw hkeeps => hkeeps hw) fun _ => id

end Task

namespace Pool

variable {S : W → Prop} {fuse : ι → Option ℕ} {p : Pool ι W α}

/-- The tasks have the given fuses; the others leave the latch as it is. -/
structure Fused (S : W → Prop) (fuse : ι → Option ℕ) (p : Pool ι W α) : Prop where
  spares : ∀ i, fuse i = none → (p.tasks i).Ensures (fun _ => True) (Sparing S) fun _ => True
  fuse : ∀ i n, fuse i = some n → (p.tasks i).Fuse S n

theorem Fused.keeping (h : p.Fused S fuse) (i : ι) :
    (p.tasks i).Ensures (fun _ => True) (Keeping S) fun _ => True := by
  cases hi : fuse i with
  | none => exact (h.spares i hi).keeping
  | some n => exact (h.fuse i n hi).keeping

variable [DecidableEq ι]

/-- In this schedule, some fuse has burnt down. -/
def Burnt (fuse : ι → Option ℕ) (schedule : List ι) : Prop :=
  ∃ i n, fuse i = some n ∧ n < schedule.count i

/-- The fuses after a turn of task `i`. -/
def shorten (fuse : ι → Option ℕ) (i : ι) : ι → Option ℕ :=
  Function.update fuse i ((fuse i).map (· - 1))

theorem shorten_self (i : ι) : shorten fuse i i = (fuse i).map (· - 1) :=
  Function.update_self i _ fuse

theorem shorten_of_ne {i j : ι} (h : j ≠ i) : shorten fuse i j = fuse j :=
  Function.update_of_ne h _ fuse

theorem burnt_cons_iff {i : ι} {schedule : List ι} (hi : fuse i ≠ some 0) :
    Burnt fuse (i :: schedule) ↔ Burnt (shorten fuse i) schedule := by
  constructor
  · rintro ⟨j, n, hj, hn⟩
    by_cases hji : j = i
    · subst hji
      have hpos : n ≠ 0 := fun h => hi (h ▸ hj)
      refine ⟨j, n - 1, ?_, ?_⟩
      · rw [shorten_self, hj, Option.map_some]
      · rw [List.count_cons_self] at hn
        omega
    · refine ⟨j, n, (shorten_of_ne hji).trans hj, ?_⟩
      rwa [List.count_cons_of_ne (Ne.symm hji)] at hn
  · rintro ⟨j, n, hj, hn⟩
    by_cases hji : j = i
    · subst hji
      rw [shorten_self] at hj
      obtain ⟨m, hm, rfl⟩ := Option.map_eq_some_iff.mp hj
      refine ⟨j, m, hm, ?_⟩
      rw [List.count_cons_self]
      omega
    · refine ⟨j, n, (shorten_of_ne hji).symm.trans hj, ?_⟩
      rwa [List.count_cons_of_ne (Ne.symm hji)]

theorem Fused.step_none (h : p.Fused S fuse) {i : ι} (hi : fuse i = none) :
    (((p.step i).tasks i).Ensures (fun _ => True) (Sparing S) fun _ => True) ∧
      Sparing S p.world (p.step i).world := by
  have htask := h.spares i hi
  cases hturn : p.tasks i with
  | done a =>
    rw [step_of_done hturn]
    exact ⟨htask, Iff.rfl⟩
  | turn act rest =>
    rw [hturn] at htask
    cases htask with
    | turn hact hrest =>
      rw [step_of_turn hturn]
      dsimp only
      rw [Function.update_self]
      exact ⟨hrest _ trivial, hact _ trivial⟩

theorem Fused.step_succ (h : p.Fused S fuse) {i : ι} {n : ℕ} (hi : fuse i = some (n + 1)) :
    ((p.step i).tasks i).Fuse S n ∧ Sparing S p.world (p.step i).world := by
  have htask := h.fuse i (n + 1) hi
  cases hturn : p.tasks i with
  | done a =>
    rw [hturn] at htask
    cases htask
  | turn act rest =>
    rw [hturn] at htask
    cases htask with
    | wait hact hrest =>
      rw [step_of_turn hturn]
      dsimp only
      rw [Function.update_self]
      exact ⟨hrest _, hact _⟩

/-- After a turn of task `i`, only this task has to be looked at. -/
theorem Fused.of_self (h : p.Fused S fuse) {i : ι}
    (hspares : shorten fuse i i = none →
      ((p.step i).tasks i).Ensures (fun _ => True) (Sparing S) fun _ => True)
    (hfuse : ∀ n, shorten fuse i i = some n → ((p.step i).tasks i).Fuse S n) :
    (p.step i).Fused S (shorten fuse i) := by
  refine ⟨fun j hj => ?_, fun j n hj => ?_⟩
  · by_cases hji : j = i
    · subst hji
      exact hspares hj
    · rw [shorten_of_ne hji] at hj
      rw [tasks_step_of_ne hji]
      exact h.spares j hj
  · by_cases hji : j = i
    · subst hji
      exact hfuse n hj
    · rw [shorten_of_ne hji] at hj
      rw [tasks_step_of_ne hji]
      exact h.fuse j n hj

/-- A turn that does not burn down the fuse of its task leaves the latch as it is. -/
theorem Fused.step (h : p.Fused S fuse) {i : ι} (hi : fuse i ≠ some 0) :
    (p.step i).Fused S (shorten fuse i) ∧ Sparing S p.world (p.step i).world := by
  cases hfuse : fuse i with
  | none =>
    obtain ⟨hself, hworld⟩ := h.step_none hfuse
    refine ⟨h.of_self (fun _ => hself) fun n hn => ?_, hworld⟩
    rw [shorten_self, hfuse] at hn
    cases hn
  | some n =>
    cases n with
    | zero => exact absurd hfuse hi
    | succ n =>
      obtain ⟨hself, hworld⟩ := h.step_succ hfuse
      refine ⟨h.of_self (fun hnone => ?_) fun m hm => ?_, hworld⟩
      · rw [shorten_self, hfuse] at hnone
        cases hnone
      · rw [shorten_self, hfuse] at hm
        obtain rfl : n = m := Option.some.inj hm
        exact hself

/-- A turn that burns down the fuse of its task sets the latch for good. -/
theorem Fused.step_sat (h : p.Fused S fuse) {i : ι} (hi : fuse i = some 0) :
    (p.step i).Sat S fun _ _ => True := by
  have htask := h.fuse i 0 hi
  cases hturn : p.tasks i with
  | done a =>
    rw [hturn] at htask
    cases htask
  | turn act rest =>
    rw [hturn] at htask
    cases htask with
    | fire hact hrest =>
      rw [step_of_turn hturn]
      refine ⟨hact _, fun j => ?_⟩
      show (Function.update p.tasks i (rest p.world) j).Sat S fun _ => True
      by_cases hji : j = i
      · subst hji
        rw [Function.update_self]
        exact (hrest _).sat
      · rw [Function.update_of_ne hji]
        exact (h.keeping j).sat

/-- **Fuse rule.** Once a pool has run, the latch is set if and only if it was set before or some fuse
has burnt down. -/
theorem Fused.after_iff (h : p.Fused S fuse) (schedule : List ι) :
    S (p.after schedule).world ↔ S p.world ∨ Burnt fuse schedule := by
  induction schedule generalizing p fuse with
  | nil =>
    have hnot : ¬ Burnt fuse [] := by
      rintro ⟨i, n, -, hn⟩
      exact absurd hn (Nat.not_lt_zero n)
    exact (or_iff_left hnot).symm
  | cons i schedule ih =>
    rw [after_cons]
    by_cases hi : fuse i = some 0
    · have hset : S ((p.step i).after schedule).world := ((h.step_sat hi).after schedule).world
      have hburnt : Burnt fuse (i :: schedule) := by
        refine ⟨i, 0, hi, ?_⟩
        rw [List.count_cons_self]
        omega
      exact ⟨fun _ => .inr hburnt, fun _ => hset⟩
    · obtain ⟨hstep, hworld⟩ := h.step hi
      have hspared : S (p.step i).world ↔ S p.world := hworld
      rw [ih hstep, hspared, burnt_cons_iff hi]

end Pool

end Tasks
