import Mathlib.Logic.Function.Basic
import Vakil.Lib.ForLoop

/-!
# Tasks that take turns at a shared world

A `Task W α` is a computation over a world that others change as well. It has ended with a value, or
its next turn is due: a turn finds the world as it is, changes it at once, and the task goes on with
what it has found. `Pool.after` runs a family of tasks under a schedule, in which the turns of different
tasks come in any order.

What a task does depends only on the worlds that its turns find (`Task.feed`), so a task in a pool does
what it would do alone in a world that replays them (`View.replay`). `Task.runOn` runs a task alone, on a
larger state of which it sees a part.
-/

namespace Tasks

open ForLoop

variable {ι V W α β σ ρ τ : Type}

inductive Task (W α : Type) where
  | done (a : α)
  /-- A turn in the world `w` makes `act w` of it; the task goes on with `rest w`. -/
  | turn (act : W → W) (rest : W → Task W α)

namespace Task

def bind : Task W α → (α → Task W β) → Task W β
  | done a, f => f a
  | turn act rest, f => turn act fun w => (rest w).bind f

instance : Monad (Task W) where
  pure := done
  bind := bind

@[simp] theorem pure_eq (a : α) : (pure a : Task W α) = done a := rfl

@[simp] theorem done_bind (a : α) (f : α → Task W β) : (done a >>= f) = f a := rfl

@[simp] theorem turn_bind (act : W → W) (rest : W → Task W α) (f : α → Task W β) :
    (turn act rest >>= f) = turn act fun w => rest w >>= f := rfl

/-- The loop `ForLoop.forEach` with a body that takes turns. -/
def forEach (body : α → σ → Task W (Step σ ρ)) : List α → σ → Task W (Step σ ρ)
  | [], s => done (.next s)
  | x :: xs, s => do
    match ← body x s with
    | .next s => forEach body xs s
    | .stop r s => return .stop r s

theorem bind_done (t : Task W α) {f : α → Task W α} (hf : ∀ a, f a = done a) : t >>= f = t := by
  induction t with
  | done a => exact hf a
  | turn act rest ih =>
    rw [turn_bind]
    congr 1
    funext w
    exact ih w

theorem bind_assoc {γ : Type} (t : Task W α) (f : α → Task W β) (g : β → Task W γ) :
    t >>= f >>= g = t >>= fun a => f a >>= g := by
  induction t with
  | done a => rfl
  | turn act rest ih =>
    simp only [turn_bind]
    congr 1
    funext w
    exact ih w

instance : LawfulMonad (Task W) :=
  .mk' (Task W) (fun t => bind_done t fun _ => rfl) (fun _ _ => rfl) (fun t f g => bind_assoc t f g)

theorem forEach_singleton (body : α → σ → Task W (Step σ ρ)) (x : α) (s : σ) :
    forEach body [x] s = body x s := by
  refine bind_done (body x s) ?_
  rintro (s | ⟨r, s⟩) <;> rfl

end Task

/-! ## One task alone -/

/-- How a part `W` of a state `V` is read and written. -/
structure View (V W : Type) where
  get : V → W
  put : V → W → V

namespace View

/-- A change of the part, as one of the state. -/
def lift (view : View V W) (f : W → α × W) (v : V) : α × V :=
  ((f (view.get v)).1, view.put v (f (view.get v)).2)

/-- All of the state. -/
def whole : View W W := ⟨id, fun _ w => w⟩

/-- A list of worlds to be found one after the other, whatever is made of them. -/
def replay (w₀ : W) : View (List W) W := ⟨fun ws => ws.headD w₀, fun ws _ => ws.tail⟩

end View

namespace Task

def runOn (view : View V W) : Task W α → V → α × V
  | done a, v => (a, v)
  | turn act rest, v => (rest (view.get v)).runOn view (view.put v (act (view.get v)))

variable (view : View V W)

@[simp] theorem runOn_done (a : α) (v : V) : (done a : Task W α).runOn view v = (a, v) := rfl

@[simp] theorem runOn_turn (act : W → W) (rest : W → Task W α) (v : V) :
    (turn act rest).runOn view v =
      (rest (view.get v)).runOn view (view.put v (act (view.get v))) := rfl

@[simp] theorem runOn_bind (t : Task W α) (f : α → Task W β) (v : V) :
    (t >>= f).runOn view v = (f (t.runOn view v).1).runOn view (t.runOn view v).2 := by
  induction t generalizing v with
  | done a => rfl
  | turn act rest ih => exact ih (view.get v) (view.put v (act (view.get v)))

/-- **A loop alone** is the loop with rounds that match those of its body. -/
theorem runOn_forEach {body : α → σ → Task W (Step σ ρ)} {body' : β → τ → Step τ ρ} {g : α → β}
    {R : V → σ → τ → Prop}
    (hbody : ∀ x s v t, R v s t → Step.Rel (R ((body x s).runOn view v).2)
      ((body x s).runOn view v).1 (body' (g x) t))
    (xs : List α) {s : σ} {v : V} {t : τ} (h : R v s t) :
    Step.Rel (R ((forEach body xs s).runOn view v).2) ((forEach body xs s).runOn view v).1
      (ForLoop.forEach body' (xs.map g) t) := by
  induction xs generalizing s v t with
  | nil => exact .next h
  | cons x xs ih =>
    have hx := hbody x s v t h
    rw [forEach, runOn_bind, List.map_cons]
    generalize hout : (body x s).runOn view v = out at hx
    obtain ⟨step, v'⟩ := out
    rcases hx.elim with ⟨s₁, t₁, hs, ht, h₁⟩ | ⟨r, s₁, t₁, hs, ht, h₁⟩
    · dsimp only at hs
      subst hs
      rw [ForLoop.forEach_cons_next ht]
      exact ih h₁
    · dsimp only at hs
      subst hs
      rw [ForLoop.forEach_cons_stop ht]
      exact .stop r h₁

theorem runOn_foldlM {f : σ → α → Task W σ} {k : τ → β → τ} {g : α → β} {R : V → σ → τ → Prop}
    (hf : ∀ x s v t, R v s t →
      R ((f s x).runOn view v).2 ((f s x).runOn view v).1 (k t (g x)))
    (xs : List α) {s : σ} {v : V} {t : τ} (h : R v s t) :
    R ((xs.foldlM f s).runOn view v).2 ((xs.foldlM f s).runOn view v).1
      ((xs.map g).foldl k t) := by
  induction xs generalizing s v t with
  | nil => exact h
  | cons x xs ih =>
    rw [List.foldlM_cons, runOn_bind, List.map_cons, List.foldl_cons]
    exact ih (hf x s v t h)

/-! ## What a task finds -/

/-- The task after turns that found the given worlds. -/
def feed : Task W α → List W → Task W α
  | t, [] => t
  | done a, _ :: _ => done a
  | turn _ rest, w :: ws => (rest w).feed ws

@[simp] theorem feed_nil (t : Task W α) : t.feed [] = t := by cases t <;> rfl

@[simp] theorem feed_done (a : α) (ws : List W) : (done a : Task W α).feed ws = done a := by
  cases ws <;> rfl

theorem feed_cons (t : Task W α) (w : W) (ws : List W) : t.feed (w :: ws) = (t.feed [w]).feed ws := by
  cases t with
  | done a => rw [feed_done, feed_done, feed_done]
  | turn act rest => rw [feed, feed, feed_nil]

/-- **A task that ends** ends so alone, too, if it finds the same worlds again. -/
theorem runOn_replay (w₀ : W) {t : Task W α} {ws : List W} {a : α} (h : t.feed ws = done a) :
    (t.runOn (.replay w₀) ws).1 = a := by
  induction t generalizing ws with
  | done b =>
    rw [feed_done] at h
    cases h
    rfl
  | turn act rest ih =>
    cases ws with
    | nil => cases h
    | cons w ws => exact ih w h

end Task

/-! ## Pools -/

/-- A family of tasks and the world that they share. -/
structure Pool (ι W α : Type) where
  tasks : ι → Task W α
  world : W

namespace Pool

variable [DecidableEq ι]

/-- Task `i` takes a turn, unless it has ended. -/
def step (p : Pool ι W α) (i : ι) : Pool ι W α :=
  match p.tasks i with
  | .done _ => p
  | .turn act rest => ⟨Function.update p.tasks i (rest p.world), act p.world⟩

def after (p : Pool ι W α) (schedule : List ι) : Pool ι W α := schedule.foldl step p

/-- The worlds that the turns of task `i` find. -/
def found (i : ι) : Pool ι W α → List ι → List W
  | _, [] => []
  | p, j :: schedule => if i = j then p.world :: found i (p.step j) schedule
      else found i (p.step j) schedule

variable {p : Pool ι W α} {i j : ι} {schedule : List ι}

theorem after_cons : p.after (i :: schedule) = (p.step i).after schedule := rfl

theorem step_of_done {a : α} (h : p.tasks i = .done a) : p.step i = p := by
  rw [step, h]

theorem step_of_turn {act : W → W} {rest : W → Task W α} (h : p.tasks i = .turn act rest) :
    p.step i = ⟨Function.update p.tasks i (rest p.world), act p.world⟩ := by
  rw [step, h]

theorem tasks_step_self : (p.step i).tasks i = (p.tasks i).feed [p.world] := by
  cases h : p.tasks i with
  | done a => rw [step_of_done h, h, Task.feed_done]
  | turn act rest =>
    rw [step_of_turn h, Task.feed, Task.feed_nil]
    exact Function.update_self i _ p.tasks

theorem tasks_step_of_ne (h : i ≠ j) : (p.step j).tasks i = p.tasks i := by
  cases hj : p.tasks j with
  | done a => rw [step_of_done hj]
  | turn act rest =>
    rw [step_of_turn hj]
    exact Function.update_of_ne h _ p.tasks

/-- **In a pool** a task is fed the worlds that its turns find. -/
theorem tasks_after (i : ι) (p : Pool ι W α) (schedule : List ι) :
    (p.after schedule).tasks i = (p.tasks i).feed (found i p schedule) := by
  induction schedule generalizing p with
  | nil => exact (Task.feed_nil _).symm
  | cons j schedule ih =>
    rw [after_cons, ih, found]
    by_cases hij : i = j
    · subst hij
      rw [if_pos rfl, tasks_step_self]
      exact (Task.feed_cons _ _ _).symm
    · rw [if_neg hij, tasks_step_of_ne hij]

/-- The worlds that the turns of a task find are those that the turns before them left. -/
theorem exists_of_mem_found {w : W} (h : w ∈ found i p schedule) :
    ∃ pre post, schedule = pre ++ i :: post ∧ (p.after pre).world = w := by
  induction schedule generalizing p with
  | nil => cases h
  | cons j schedule ih =>
    have hlater : w ∈ found i (p.step j) schedule →
        ∃ pre post, j :: schedule = pre ++ i :: post ∧ (p.after pre).world = w := by
      intro h
      obtain ⟨pre, post, rfl, hw⟩ := ih h
      exact ⟨j :: pre, post, rfl, hw⟩
    rw [found] at h
    split_ifs at h with hij
    · subst hij
      rcases List.mem_cons.mp h with rfl | h
      · exact ⟨[], schedule, rfl, rfl⟩
      · exact hlater h
    · exact hlater h

theorem length_found (i : ι) (p : Pool ι W α) (schedule : List ι) :
    (found i p schedule).length = schedule.count i := by
  induction schedule generalizing p with
  | nil => rfl
  | cons j schedule ih =>
    rw [found]
    by_cases hij : i = j
    · subst hij
      rw [if_pos rfl, List.length_cons, List.count_cons_self, ih]
    · rw [if_neg hij, List.count_cons_of_ne (Ne.symm hij), ih]

end Pool

/-! ## Tasks that end in time -/

namespace Task

/-- Whatever its turns find, the task ends with one of its first `n` turns. -/
inductive Within : ℕ → Task W α → Prop where
  | done (n : ℕ) (a : α) : Within n (done a)
  | turn {n : ℕ} {act : W → W} {rest : W → Task W α} (h : ∀ w, Within n (rest w)) :
      Within (n + 1) (turn act rest)

variable {m n : ℕ}

theorem Within.mono {t : Task W α} (h : t.Within m) (hmn : m ≤ n) : t.Within n := by
  induction h generalizing n with
  | done _ a => exact .done n a
  | @turn m _ _ _ ih =>
    obtain ⟨k, rfl⟩ : ∃ k, n = k + 1 := ⟨n - 1, by omega⟩
    have hmk : m ≤ k := by omega
    exact .turn fun w => ih w hmk

theorem Within.bind {t : Task W α} {f : α → Task W β} (h : t.Within m)
    (hf : ∀ a, (f a).Within n) : (t >>= f).Within (m + n) := by
  induction h with
  | done m a => exact (hf a).mono (Nat.le_add_left n m)
  | @turn m _ _ _ ih =>
    have hsum : m + 1 + n = m + n + 1 := by omega
    rw [hsum]
    exact .turn ih

theorem Within.forEach {body : α → σ → Task W (Step σ ρ)} (hbody : ∀ x s, (body x s).Within n)
    (xs : List α) (s : σ) : (Task.forEach body xs s).Within (xs.length * n) := by
  induction xs generalizing s with
  | nil => exact .done _ _
  | cons x xs ih =>
    rw [List.length_cons, Nat.succ_mul, Nat.add_comm]
    refine (hbody x s).bind ?_
    rintro (s | ⟨r, s⟩)
    · exact ih s
    · exact .done _ _

theorem Within.foldlM {f : σ → α → Task W σ} (hf : ∀ s x, (f s x).Within n) (xs : List α) (s : σ) :
    (xs.foldlM f s).Within (xs.length * n) := by
  induction xs generalizing s with
  | nil => exact .done _ _
  | cons x xs ih =>
    rw [List.foldlM_cons, List.length_cons, Nat.succ_mul, Nat.add_comm]
    exact (hf s x).bind ih

theorem Within.feed {t : Task W α} (h : t.Within n) {ws : List W} (hws : n ≤ ws.length) :
    ∃ a, t.feed ws = Task.done a := by
  induction h generalizing ws with
  | done _ a => exact ⟨a, feed_done a ws⟩
  | turn _ ih =>
    cases ws with
    | nil => exact absurd hws (Nat.not_succ_le_zero _)
    | cons w ws => exact ih w (Nat.le_of_succ_le_succ hws)

end Task

/-- **A task that ends in time** has ended once it has had its turns, whatever the others do. -/
theorem Pool.exists_done_of_within [DecidableEq ι] {p : Pool ι W α} {i : ι} {schedule : List ι}
    {n : ℕ} (h : (p.tasks i).Within n) (hturns : n ≤ schedule.count i) :
    ∃ a, (p.after schedule).tasks i = .done a := by
  rw [tasks_after]
  exact h.feed ((length_found i p schedule).symm ▸ hturns)

/-! ## Invariants -/

namespace Task

/-- Whatever worlds with `I` its turns find, they change them as `G` admits, and the task ends with
`Q`. -/
inductive Ensures (I : W → Prop) (G : W → W → Prop) (Q : α → Prop) : Task W α → Prop where
  | done {a : α} (h : Q a) : Ensures I G Q (done a)
  | turn {act : W → W} {rest : W → Task W α} (hact : ∀ w, I w → G w (act w))
      (hrest : ∀ w, I w → Ensures I G Q (rest w)) : Ensures I G Q (turn act rest)

/-- The turns keep `I`. -/
abbrev Sat (I : W → Prop) (Q : α → Prop) (t : Task W α) : Prop := t.Ensures I (fun _ w' => I w') Q

section Ensures

variable {I : W → Prop} {G : W → W → Prop} {Q : α → Prop}

theorem Ensures.bind {S : β → Prop} {t : Task W α} {f : α → Task W β} (h : t.Ensures I G Q)
    (hf : ∀ a, Q a → (f a).Ensures I G S) : (t >>= f).Ensures I G S := by
  induction h with
  | done ha => exact hf _ ha
  | turn hact _ ih => exact .turn hact ih

theorem Ensures.foldlM {P : σ → Prop} {f : σ → α → Task W σ} {xs : List α}
    (hf : ∀ x ∈ xs, ∀ s, P s → (f s x).Ensures I G P) {s : σ} (h : P s) :
    (xs.foldlM f s).Ensures I G P := by
  induction xs generalizing s with
  | nil => exact .done h
  | cons x xs ih =>
    rw [List.foldlM_cons]
    refine (hf x List.mem_cons_self s h).bind ?_
    intro s hs
    exact ih (fun y hy => hf y (List.mem_cons_of_mem _ hy)) hs

theorem Ensures.mono {I' : W → Prop} {G' : W → W → Prop} {Q' : α → Prop} {t : Task W α}
    (h : t.Ensures I G Q) (hI : ∀ w, I' w → I w) (hG : ∀ w w', I' w → G w w' → G' w w')
    (hQ : ∀ a, Q a → Q' a) : t.Ensures I' G' Q' := by
  induction h with
  | done ha => exact .done (hQ _ ha)
  | turn hact _ ih =>
    exact .turn (fun w hw => hG w _ hw (hact w (hI w hw))) fun w hw => ih w (hI w hw)

theorem Ensures.forget {t : Task W α} (h : t.Ensures I G Q) : t.Ensures I G fun _ => True :=
  h.mono (fun _ => id) (fun _ _ _ => id) fun _ _ => trivial

theorem Sat.of_feed {t : Task W α} (h : t.Sat (fun _ => True) Q) {ws : List W} {a : α}
    (ha : t.feed ws = .done a) : Q a := by
  induction h generalizing ws with
  | done hQ =>
    rw [feed_done] at ha
    cases ha
    exact hQ
  | turn _ _ ih =>
    cases ws with
    | nil => cases ha
    | cons w ws => exact ih w trivial ha

end Ensures

/-- `Ensures`, for a task whose turns have found the worlds `ws` so far: `Q` is told in the end what all its
turns have found. -/
inductive EnsuresFrom (I : W → Prop) (G : W → W → Prop) (Q : List W → α → Prop) :
    List W → Task W α → Prop where
  | done {ws : List W} {a : α} (h : Q ws a) : EnsuresFrom I G Q ws (done a)
  | turn {ws : List W} {act : W → W} {rest : W → Task W α} (hact : ∀ w, I w → G w (act w))
      (hrest : ∀ w, I w → EnsuresFrom I G Q (ws ++ [w]) (rest w)) : EnsuresFrom I G Q ws (turn act rest)

section EnsuresFrom

variable {I : W → Prop} {G : W → W → Prop} {Q : List W → α → Prop} {ws : List W}

theorem EnsuresFrom.bind {S : List W → β → Prop} {t : Task W α} {f : α → Task W β}
    (h : t.EnsuresFrom I G Q ws) (hf : ∀ ws a, Q ws a → (f a).EnsuresFrom I G S ws) :
    (t >>= f).EnsuresFrom I G S ws := by
  induction h with
  | done ha => exact hf _ _ ha
  | turn hact _ ih => exact .turn hact ih

theorem EnsuresFrom.forEach {P : List W → σ → Prop} {body : α → σ → Task W (Step σ ρ)} {xs : List α}
    (hbody : ∀ x ∈ xs, ∀ ws s, P ws s → (body x s).EnsuresFrom I G (fun ws step => P ws step.state) ws)
    {s : σ} (h : P ws s) :
    (Task.forEach body xs s).EnsuresFrom I G (fun ws step => P ws step.state) ws := by
  induction xs generalizing s ws with
  | nil => exact .done h
  | cons x xs ih =>
    refine (hbody x List.mem_cons_self ws s h).bind ?_
    rintro ws (s | ⟨r, s⟩) hs
    · exact ih (fun y hy => hbody y (List.mem_cons_of_mem _ hy)) hs
    · exact .done hs

theorem EnsuresFrom.foldlM {P : List W → σ → Prop} {f : σ → α → Task W σ} {xs : List α}
    (hf : ∀ x ∈ xs, ∀ ws s, P ws s → (f s x).EnsuresFrom I G P ws) {s : σ} (h : P ws s) :
    (xs.foldlM f s).EnsuresFrom I G P ws := by
  induction xs generalizing s ws with
  | nil => exact .done h
  | cons x xs ih =>
    rw [List.foldlM_cons]
    refine (hf x List.mem_cons_self ws s h).bind ?_
    intro ws s hs
    exact ih (fun y hy => hf y (List.mem_cons_of_mem _ hy)) hs

theorem EnsuresFrom.ensures {t : Task W α} (h : t.EnsuresFrom I G Q ws) :
    t.Ensures I G fun _ => True := by
  induction h with
  | done _ => exact .done trivial
  | turn hact _ ih => exact .turn hact ih

/-- A task that is fed worlds with `I` until it has ended has found some of them. -/
theorem EnsuresFrom.of_feed {t : Task W α} (h : t.EnsuresFrom I G Q ws) {found : List W}
    (hfound : ∀ w ∈ found, I w) {a : α} (ha : t.feed found = Task.done a) :
    ∃ used, used <+: found ∧ Q (ws ++ used) a := by
  induction h generalizing found with
  | @done ws b hQ =>
    rw [feed_done] at ha
    cases ha
    exact ⟨[], List.nil_prefix, (List.append_nil ws).symm ▸ hQ⟩
  | @turn ws act rest _ _ ih =>
    cases found with
    | nil => cases ha
    | cons w found =>
      have hw : I w := hfound w List.mem_cons_self
      obtain ⟨used, hused, hQ⟩ := ih w hw (fun w hw => hfound w (List.mem_cons_of_mem _ hw)) ha
      refine ⟨w :: used, List.cons_prefix_cons.mpr ⟨rfl, hused⟩, ?_⟩
      rw [List.append_cons]
      exact hQ

end EnsuresFrom

end Task

namespace Pool

variable {I : W → Prop} {Q : ι → α → Prop} {p : Pool ι W α}

/-- The world has `I`, the tasks keep it, and each ends with its `Q`. -/
structure Sat (I : W → Prop) (Q : ι → α → Prop) (p : Pool ι W α) : Prop where
  world : I p.world
  tasks : ∀ i, (p.tasks i).Sat I (Q i)

variable [DecidableEq ι]

theorem Sat.step (h : p.Sat I Q) (i : ι) : (p.step i).Sat I Q := by
  cases hi : p.tasks i with
  | done a =>
    rw [step_of_done hi]
    exact h
  | turn act rest =>
    have hturn : (Task.turn act rest).Sat I (Q i) := hi ▸ h.tasks i
    cases hturn with
    | turn hact hrest =>
      rw [step_of_turn hi]
      refine ⟨hact _ h.world, fun j => ?_⟩
      show (Function.update p.tasks i (rest p.world) j).Sat I (Q j)
      by_cases hji : j = i
      · subst hji
        rw [Function.update_self]
        exact hrest _ h.world
      · rw [Function.update_of_ne hji]
        exact h.tasks j

/-- **Invariant rule.** What every task keeps, every run of the pool keeps. -/
theorem Sat.after (h : p.Sat I Q) (schedule : List ι) : (p.after schedule).Sat I Q := by
  induction schedule generalizing p with
  | nil => exact h
  | cons i schedule ih => exact ih (h.step i)

/-- **Rely and guarantee.** If every task changes worlds with `I` as `G` admits, which keeps `I`, then the
world always has `I`, and a task that has ended has its `Q` of the first worlds that its turns found. -/
theorem ensuresFrom_after {G : W → W → Prop} {Q : ι → List W → α → Prop}
    (hG : ∀ w w', I w → G w w' → I w') (hworld : I p.world)
    (htasks : ∀ i, (p.tasks i).EnsuresFrom I G (Q i) []) (schedule : List ι) :
    I (p.after schedule).world ∧ ∀ i a, (p.after schedule).tasks i = .done a →
      ∃ used, used <+: found i p schedule ∧ Q i used a := by
  have hsat : p.Sat I fun _ _ => True :=
    ⟨hworld, fun i => (htasks i).ensures.mono (fun _ => id) hG fun _ => id⟩
  refine ⟨(hsat.after schedule).world, ?_⟩
  intro i a ha
  rw [tasks_after] at ha
  have hfound : ∀ w ∈ found i p schedule, I w := by
    intro w hw
    obtain ⟨pre, post, -, rfl⟩ := exists_of_mem_found hw
    exact (hsat.after pre).world
  obtain ⟨used, hused, hQ⟩ := (htasks i).of_feed hfound ha
  exact ⟨used, hused, hQ⟩

end Pool

/-! ## Tasks that do not depend on what they find -/

namespace Task

/-- The tasks keep `I`, and end in related values, whatever worlds with `I` the one and the other
find. -/
inductive Alike (I : W → Prop) (R : α → β → Prop) : Task W α → Task W β → Prop where
  | done {a : α} {b : β} (h : R a b) : Alike I R (done a) (done b)
  | turn {act act' : W → W} {rest : W → Task W α} {rest' : W → Task W β}
      (hact : ∀ w, I w → I (act w)) (hact' : ∀ w, I w → I (act' w))
      (h : ∀ w w', I w → I w' → Alike I R (rest w) (rest' w')) :
      Alike I R (turn act rest) (turn act' rest')

variable {I : W → Prop}

theorem Alike.bind {γ δ : Type} {R : α → β → Prop} {S : γ → δ → Prop} {t : Task W α}
    {t' : Task W β} {f : α → Task W γ} {f' : β → Task W δ} (h : Alike I R t t')
    (hf : ∀ a b, R a b → Alike I S (f a) (f' b)) : Alike I S (t >>= f) (t' >>= f') := by
  induction h with
  | done h => exact hf _ _ h
  | turn hact hact' _ ih => exact .turn hact hact' ih

theorem Alike.forEach {R : σ → τ → Prop} {body : α → σ → Task W (Step σ ρ)}
    {body' : α → τ → Task W (Step τ ρ)}
    {xs : List α} (hbody : ∀ x ∈ xs, ∀ s t, R s t → Alike I (Step.Rel R) (body x s) (body' x t))
    {s : σ} {t : τ} (h : R s t) :
    Alike I (Step.Rel R) (Task.forEach body xs s) (Task.forEach body' xs t) := by
  induction xs generalizing s t with
  | nil => exact .done (.next h)
  | cons x xs ih =>
    refine (hbody x List.mem_cons_self s t h).bind ?_
    intro a b hab
    cases hab with
    | next h => exact ih (fun y hy => hbody y (List.mem_cons_of_mem _ hy)) h
    | stop r h => exact .done (.stop r h)

theorem Alike.foldlM {R : σ → τ → Prop} {f : σ → α → Task W σ} {f' : τ → α → Task W τ}
    {xs : List α} (hf : ∀ x ∈ xs, ∀ s t, R s t → Alike I R (f s x) (f' t x)) {s : σ} {t : τ}
    (h : R s t) : Alike I R (xs.foldlM f s) (xs.foldlM f' t) := by
  induction xs generalizing s t with
  | nil => exact .done h
  | cons x xs ih =>
    rw [List.foldlM_cons, List.foldlM_cons]
    refine (hf x List.mem_cons_self s t h).bind ?_
    intro s t h
    exact ih (fun y hy => hf y (List.mem_cons_of_mem _ hy)) h

theorem Alike.sat {R : α → β → Prop} {t : Task W α} {t' : Task W β} (h : Alike I R t t') {w' : W}
    (hw' : I w') : t.Sat I fun _ => True := by
  induction h with
  | done _ => exact .done trivial
  | turn hact _ _ ih => exact .turn hact fun w hw => ih w w' hw hw'

/-- **A task that has ended** ends alike alone. -/
theorem Alike.feed {R : α → β → Prop} {t : Task W α} {t' : Task W β} (h : Alike I R t t')
    {ws : List W} (hws : ∀ w ∈ ws, I w) {a : α} (hfeed : t.feed ws = Task.done a) {w' : W}
    (hw' : I w') : R a (t'.runOn .whole w').1 := by
  induction h generalizing ws w' with
  | done h =>
    rw [feed_done] at hfeed
    cases hfeed
    exact h
  | turn _ hact' _ ih =>
    cases ws with
    | nil => cases hfeed
    | cons w ws =>
      have hw : I w := hws w List.mem_cons_self
      exact ih w w' hw hw' (fun w hw => hws w (List.mem_cons_of_mem _ hw)) hfeed (hact' w' hw')

end Task

end Tasks
