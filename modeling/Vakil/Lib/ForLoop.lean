import Mathlib.Data.List.Basic

/-!
# Loops with early exit

`forEach body xs s` runs `body x` on the elements of `xs` in order, threading a state `s`. A body
ends its round with `Step.next` (go on with the next element: falling off the end of the body, or a
`continue`) or with `Step.stop r` (leave the loop with `r`: a `break`, a `return` or an error).

The rules below are the ones a proof about such a loop needs: where a loop was left
(`forEach_eq_stop_iff`), an invariant rule (`forEach_sat`), one whose invariant knows the elements
consulted so far (`forEach_history`), the first turn at which a loop is left, in terms of the turns that
it would take without being left (`Traced.first`), the comparison of two loops round by round
(`forEach_rel`), and the effect of an extra element that does nothing (`forEach_insert_rel`).
-/

namespace ForLoop

variable {α β σ τ ρ : Type*}

/-- How one round of a loop body ends. -/
inductive Step (σ ρ : Type*) where
  | next (s : σ)
  | stop (r : ρ) (s : σ)

namespace Step

def state : Step σ ρ → σ
  | next s => s
  | stop _ s => s

def result : Step σ ρ → Option ρ
  | next _ => none
  | stop r _ => some r

/-- `P` holds of the state of a round that goes on, `Q` of the result and state of one that stops. -/
def Sat (P : σ → Prop) (Q : ρ → σ → Prop) : Step σ ρ → Prop
  | next s => P s
  | stop r s => Q r s

/-- Two rounds end the same way, in related states. -/
inductive Rel (R : σ → τ → Prop) : Step σ ρ → Step τ ρ → Prop where
  | next {s : σ} {t : τ} (h : R s t) : Rel R (next s) (next t)
  | stop {s : σ} {t : τ} (r : ρ) (h : R s t) : Rel R (stop r s) (stop r t)

@[simp] theorem state_next (s : σ) : (next s : Step σ ρ).state = s := rfl

@[simp] theorem state_stop (r : ρ) (s : σ) : (stop r s).state = s := rfl

@[simp] theorem result_next (s : σ) : (next s : Step σ ρ).result = none := rfl

@[simp] theorem result_stop (r : ρ) (s : σ) : (stop r s).result = some r := rfl

theorem Rel.elim {R : σ → τ → Prop} {a : Step σ ρ} {b : Step τ ρ} (h : Rel R a b) :
    (∃ s t, a = .next s ∧ b = .next t ∧ R s t) ∨
      ∃ r s t, a = .stop r s ∧ b = .stop r t ∧ R s t := by
  cases h with
  | next h => exact .inl ⟨_, _, rfl, rfl, h⟩
  | stop r h => exact .inr ⟨r, _, _, rfl, rfl, h⟩

end Step

open Step

/-- Run `body` on each element of the list, in order, until a round stops. -/
def forEach (body : α → σ → Step σ ρ) : List α → σ → Step σ ρ
  | [], s => next s
  | x :: xs, s =>
    match body x s with
    | next s' => forEach body xs s'
    | stop r s' => stop r s'

variable {body : α → σ → Step σ ρ}

@[simp] theorem forEach_nil (s : σ) : forEach body [] s = next s := rfl

theorem forEach_cons_next {x : α} {xs : List α} {s s' : σ} (h : body x s = next s') :
    forEach body (x :: xs) s = forEach body xs s' := by
  simp [forEach, h]

theorem forEach_cons_stop {x : α} {xs : List α} {s s' : σ} {r : ρ} (h : body x s = stop r s') :
    forEach body (x :: xs) s = stop r s' := by
  simp [forEach, h]

theorem forEach_cons_eq_next_iff {x : α} {xs : List α} {s s' : σ} :
    forEach body (x :: xs) s = next s' ↔ ∃ s₁, body x s = next s₁ ∧ forEach body xs s₁ = next s' := by
  cases hb : body x s with
  | next s₁ =>
    rw [forEach_cons_next hb]
    constructor
    · exact fun h => ⟨s₁, rfl, h⟩
    · rintro ⟨s₂, h₂, h⟩
      cases h₂
      exact h
  | stop r s₁ =>
    rw [forEach_cons_stop hb]
    exact ⟨nofun, fun ⟨_, h, _⟩ => nomatch h⟩

theorem forEach_singleton (x : α) (s : σ) : forEach body [x] s = body x s := by
  cases h : body x s with
  | next s' => rw [forEach_cons_next h, forEach_nil]
  | stop r s' => rw [forEach_cons_stop h]

theorem forEach_append (xs ys : List α) (s : σ) :
    forEach body (xs ++ ys) s =
      match forEach body xs s with
      | next s' => forEach body ys s'
      | stop r s' => stop r s' := by
  induction xs generalizing s with
  | nil => rfl
  | cons x xs ih =>
    cases hb : body x s with
    | next s₁ => rw [List.cons_append, forEach_cons_next hb, forEach_cons_next hb, ih]
    | stop r s₁ => rw [List.cons_append, forEach_cons_stop hb, forEach_cons_stop hb]

theorem forEach_append_next {xs ys : List α} {s s' : σ} (h : forEach body xs s = next s') :
    forEach body (xs ++ ys) s = forEach body ys s' := by
  rw [forEach_append, h]

theorem forEach_append_stop {xs ys : List α} {s s' : σ} {r : ρ}
    (h : forEach body xs s = stop r s') : forEach body (xs ++ ys) s = stop r s' := by
  rw [forEach_append, h]

theorem forEach_append_eq_next_iff {xs ys : List α} {s s' : σ} :
    forEach body (xs ++ ys) s = next s' ↔
      ∃ s₁, forEach body xs s = next s₁ ∧ forEach body ys s₁ = next s' := by
  rw [forEach_append]
  cases forEach body xs s with
  | next s₁ =>
    constructor
    · exact fun h => ⟨s₁, rfl, h⟩
    · rintro ⟨s₂, h₂, h⟩
      cases h₂
      exact h
  | stop r s₁ => exact ⟨nofun, fun ⟨_, h, _⟩ => nomatch h⟩

/-- A loop is left at the first element whose round stops: the rounds before it all went on. -/
theorem forEach_eq_stop_iff {xs : List α} {s s' : σ} {r : ρ} :
    forEach body xs s = stop r s' ↔
      ∃ pre x post s₁, xs = pre ++ x :: post ∧ forEach body pre s = next s₁ ∧
        body x s₁ = stop r s' := by
  constructor
  · intro h
    induction xs generalizing s with
    | nil => cases h
    | cons x xs ih =>
      cases hb : body x s with
      | next s₁ =>
        rw [forEach_cons_next hb] at h
        obtain ⟨pre, y, post, s₂, rfl, hpre, hy⟩ := ih h
        exact ⟨x :: pre, y, post, s₂, rfl, by rw [forEach_cons_next hb, hpre], hy⟩
      | stop r₁ s₁ =>
        rw [forEach_cons_stop hb] at h
        exact ⟨[], x, xs, s, rfl, rfl, by rw [hb, h]⟩
  · rintro ⟨pre, x, post, s₁, rfl, hpre, hx⟩
    rw [forEach_append_next hpre, forEach_cons_stop hx]

/-- A loop whose body first maps its element and skips the ones not kept is the loop over the mapped
elements that are. -/
theorem forEach_map_filter {f : α → β} {keep : β → Bool} {body' : β → σ → Step σ ρ}
    (h : ∀ x s, body x s = if keep (f x) then body' (f x) s else next s) (xs : List α) (s : σ) :
    forEach body xs s = forEach body' ((xs.map f).filter keep) s := by
  induction xs generalizing s with
  | nil => rfl
  | cons x xs ih =>
    have hx := h x s
    rw [List.map_cons]
    split_ifs at hx with hk
    · rw [List.filter_cons_of_pos hk]
      cases hb : body' (f x) s with
      | next s' => rw [forEach_cons_next (hx.trans hb), forEach_cons_next hb, ih]
      | stop r s' => rw [forEach_cons_stop (hx.trans hb), forEach_cons_stop hb]
    · rw [List.filter_cons_of_neg hk, forEach_cons_next hx, ih]

/-! ## The first element with a property -/

theorem exists_first (p : α → Prop) (l : List α) :
    (∀ x ∈ l, ¬ p x) ∨ ∃ pre x post, l = pre ++ x :: post ∧ (∀ y ∈ pre, ¬ p y) ∧ p x := by
  induction l with
  | nil => exact .inl nofun
  | cons a l ih =>
    by_cases ha : p a
    · exact .inr ⟨[], a, l, rfl, nofun, ha⟩
    · rcases ih with hno | ⟨pre, x, post, rfl, hpre, hx⟩
      · exact .inl (List.forall_mem_cons.mpr ⟨ha, hno⟩)
      · exact .inr ⟨a :: pre, x, post, rfl, List.forall_mem_cons.mpr ⟨ha, hpre⟩, hx⟩

/-- Another element with the property is the first one, or comes after it. -/
theorem first_unique {p : α → Prop} {pre pre' post post' : List α} {x y : α}
    (h : pre ++ x :: post = pre' ++ y :: post') (hpre : ∀ z ∈ pre, ¬ p z) (hy : p y) :
    (pre = pre' ∧ x = y ∧ post = post') ∨ x ∈ pre' := by
  rcases List.append_eq_append_iff.mp h with ⟨mid, rfl, hmid⟩ | ⟨mid, rfl, hmid⟩
  · cases mid with
    | nil =>
      cases hmid
      exact .inl ⟨by simp, rfl, rfl⟩
    | cons z mid =>
      cases hmid
      exact .inr (by simp)
  · cases mid with
    | nil =>
      cases hmid
      exact .inl ⟨by simp, rfl, rfl⟩
    | cons z mid =>
      cases hmid
      exact absurd hy (hpre y (by simp))

/-! ## Invariants -/

/-- **Invariant rule.** If every round keeps `P` or stops with `Q`, so does the loop. -/
theorem forEach_sat {P : σ → Prop} {Q : ρ → σ → Prop} {xs : List α}
    (hstep : ∀ x ∈ xs, ∀ s, P s → (body x s).Sat P Q) {s : σ} (h : P s) :
    (forEach body xs s).Sat P Q := by
  induction xs generalizing s with
  | nil => exact h
  | cons x xs ih =>
    have hx := hstep x (by simp) s h
    cases hb : body x s with
    | next s' =>
      rw [hb] at hx
      rw [forEach_cons_next hb]
      exact ih (fun y hy => hstep y (by simp [hy])) hx
    | stop r s' =>
      rw [hb] at hx
      rw [forEach_cons_stop hb]
      exact hx

theorem forEach_state {P : σ → Prop} {xs : List α}
    (hstep : ∀ x ∈ xs, ∀ s, P s → P (body x s).state) {s : σ} (h : P s) :
    P (forEach body xs s).state := by
  have hsat : (forEach body xs s).Sat P (fun _ => P) := by
    refine forEach_sat ?_ h
    intro x hx t ht
    have := hstep x hx t ht
    cases hb : body x t <;> simpa [Sat, hb] using this
  cases hf : forEach body xs s <;> simpa [Sat, hf] using hsat

/-! ## History -/

/-- **Invariant rule with history.** `R l s` says what is true once the elements `l` have had their
rounds. The elements consulted are a prefix of the list, and all of it if no round stopped. -/
theorem forEach_history {R : List α → σ → Prop} {xs : List α} {s : σ} (h : R [] s)
    (hstep : ∀ l, ∀ x ∈ xs, ∀ t, R l t → R (l ++ [x]) (body x t).state) :
    ∃ pre post, xs = pre ++ post ∧ R pre (forEach body xs s).state ∧
      ((forEach body xs s).result = none → post = []) := by
  induction xs generalizing s R with
  | nil => exact ⟨[], [], rfl, h, fun _ => rfl⟩
  | cons x xs ih =>
    have hx := hstep [] x (by simp) s h
    cases hb : body x s with
    | next s' =>
      rw [hb] at hx
      obtain ⟨pre, post, rfl, hR, hend⟩ := ih (R := fun l => R (x :: l)) hx
        fun l y hy t ht => hstep (x :: l) y (by simp [hy]) t ht
      rw [forEach_cons_next hb]
      exact ⟨x :: pre, post, rfl, hR, hend⟩
    | stop r s' =>
      rw [hb] at hx
      rw [forEach_cons_stop hb]
      exact ⟨[x], xs, rfl, hx, fun h => by cases h⟩

/-- The same for a loop that goes through the whole list. -/
theorem forEach_history_next {R : List α → σ → Prop} {xs : List α} {s s' : σ} (h : R [] s)
    (hstep : ∀ l x t t', R l t → body x t = next t' → R (l ++ [x]) t')
    (hrun : forEach body xs s = next s') : R xs s' := by
  induction xs generalizing s R with
  | nil =>
    cases hrun
    exact h
  | cons x xs ih =>
    obtain ⟨s₁, hx, hrest⟩ := forEach_cons_eq_next_iff.mp hrun
    exact ih (R := fun l => R (x :: l)) (hstep [] x s s₁ h hx)
      (fun l y t t' ht hy => hstep (x :: l) y t t' ht hy) hrest

/-! ## Traces -/

/-- The turns that the elements take if no round stops the loop: `turn` says what an element does in a
state, if anything, and `after` how it leaves it. -/
def trace (turn : α → σ → Option τ) (after : α → σ → σ) : List α → σ → List τ
  | [], _ => []
  | x :: xs, s => (turn x s).toList ++ trace turn after xs (after x s)

/-- The loop is left at the first turn with `P`, and until then `R l s` is true of the turns taken and
the state. -/
structure Traced (body : α → σ → Step σ ρ) (turn : α → σ → Option τ) (after : α → σ → σ)
    (P : τ → Prop) (R : List τ → σ → Prop) : Prop where
  goes_on : ∀ x s, (∀ t, turn x s = some t → ¬ P t) → body x s = next (after x s)
  ends : ∀ x s t, turn x s = some t → P t → ∃ r s', body x s = stop r s'
  keeps : ∀ l x s, R l s → (∀ t, turn x s = some t → ¬ P t) →
    R (l ++ (turn x s).toList) (after x s)

namespace Traced

variable {turn : α → σ → Option τ} {after : α → σ → σ} {P : τ → Prop} {R : List τ → σ → Prop}

/-- From a state in which the turns `l` have been taken. -/
theorem shift (h : Traced body turn after P R) (l : List τ) :
    Traced body turn after P (fun l' => R (l ++ l')) where
  goes_on := h.goes_on
  ends := h.ends
  keeps l' x s hR hx := by
    rw [← List.append_assoc]
    exact h.keeps (l ++ l') x s hR hx

/-- If no turn has `P`, the elements take all of them. -/
theorem next (h : Traced body turn after P R) {xs : List α} {s : σ} (hR : R [] s)
    (hno : ∀ t ∈ trace turn after xs s, ¬ P t) :
    ∃ s', forEach body xs s = .next s' ∧ R (trace turn after xs s) s' := by
  induction xs generalizing s R with
  | nil => exact ⟨s, rfl, hR⟩
  | cons x xs ih =>
    have hx : ∀ t, turn x s = some t → ¬ P t := fun t ht => hno t (by simp [trace, ht])
    rw [forEach_cons_next (h.goes_on x s hx)]
    exact ih (h.shift (turn x s).toList) (by simpa using h.keeps [] x s hR hx)
      fun t ht => hno t (by simp [trace, ht])

/-- The loop comes to every turn that has none with `P` before it. -/
theorem reaches (h : Traced body turn after P R) {xs : List α} {s : σ} {pre post : List τ} {t : τ}
    (hR : R [] s) (htrace : trace turn after xs s = pre ++ t :: post) (hpre : ∀ u ∈ pre, ¬ P u) :
    ∃ x xs' s₁, turn x s₁ = some t ∧ R pre s₁ ∧
      forEach body xs s = forEach body (x :: xs') s₁ := by
  induction xs generalizing s R pre with
  | nil => cases pre <;> cases htrace
  | cons x xs ih =>
    rw [trace] at htrace
    cases hturn : turn x s with
    | none =>
      have hx : ∀ t, turn x s = some t → ¬ P t := by simp [hturn]
      have hkeeps := h.keeps [] x s hR hx
      rw [hturn] at hkeeps htrace
      rw [forEach_cons_next (h.goes_on x s hx)]
      exact ih h hkeeps htrace hpre
    | some u =>
      rw [hturn, Option.toList_some, List.singleton_append] at htrace
      cases pre with
      | nil =>
        obtain ⟨rfl, -⟩ := List.cons.inj htrace
        exact ⟨x, xs, s, hturn, hR, rfl⟩
      | cons v pre =>
        obtain ⟨rfl, hrest⟩ := List.cons.inj htrace
        have hx : ∀ v, turn x s = some v → ¬ P v := by
          intro v hv
          obtain rfl : u = v := Option.some.inj (hturn.symm.trans hv)
          exact hpre u List.mem_cons_self
        have hkeeps := h.keeps [] x s hR hx
        rw [hturn] at hkeeps
        rw [forEach_cons_next (h.goes_on x s hx)]
        exact ih (h.shift [u]) hkeeps hrest fun v hv => hpre v (List.mem_cons_of_mem _ hv)

/-- The round of the first turn with `P` is the last. -/
theorem first (h : Traced body turn after P R) {xs : List α} {s : σ} {pre post : List τ} {t : τ}
    (hR : R [] s) (htrace : trace turn after xs s = pre ++ t :: post) (hpre : ∀ u ∈ pre, ¬ P u)
    (ht : P t) :
    ∃ x s₁, turn x s₁ = some t ∧ R pre s₁ ∧ forEach body xs s = body x s₁ := by
  obtain ⟨x, xs', s₁, hturn, hR₁, hloop⟩ := h.reaches hR htrace hpre
  obtain ⟨r, s', hstop⟩ := h.ends x s₁ t hturn ht
  refine ⟨x, s₁, hturn, hR₁, ?_⟩
  rw [hloop, forEach_cons_stop hstop, hstop]

end Traced

/-! ## Comparing two loops -/

/-- Two loops over appended lists: related first parts, then related second parts. -/
theorem forEach_append_rel {body' : β → τ → Step τ ρ} {R : σ → τ → Prop} {xs ys : List α}
    {xs' ys' : List β} {s : σ} {t : τ} (h : Rel R (forEach body xs s) (forEach body' xs' t))
    (h' : ∀ s₁ t₁, forEach body xs s = next s₁ → R s₁ t₁ →
      Rel R (forEach body ys s₁) (forEach body' ys' t₁)) :
    Rel R (forEach body (xs ++ ys) s) (forEach body' (xs' ++ ys') t) := by
  cases hs : forEach body xs s with
  | next s₁ =>
    rw [hs] at h
    cases ht : forEach body' xs' t with
    | next t₁ =>
      rw [ht] at h
      rw [forEach_append_next hs, forEach_append_next ht]
      cases h with
      | next h₁ => exact h' s₁ t₁ hs h₁
    | stop r t₁ => rw [ht] at h; cases h
  | stop r s₁ =>
    rw [hs] at h
    cases ht : forEach body' xs' t with
    | next t₁ => rw [ht] at h; cases h
    | stop r' t₁ =>
      rw [ht] at h
      rw [forEach_append_stop hs, forEach_append_stop ht]
      cases h with
      | stop _ h₁ => exact .stop _ h₁

/-- Two loops over the same list whose rounds stay related end the same way. -/
theorem forEach_rel {body' : α → τ → Step τ ρ} {R : σ → τ → Prop} {xs : List α}
    (hstep : ∀ x ∈ xs, ∀ s t, R s t → Rel R (body x s) (body' x t)) {s : σ} {t : τ} (h : R s t) :
    Rel R (forEach body xs s) (forEach body' xs t) := by
  induction xs generalizing s t with
  | nil => exact .next h
  | cons x xs ih =>
    have hx : Rel R (forEach body [x] s) (forEach body' [x] t) := by
      rw [forEach_singleton, forEach_singleton]
      exact hstep x (by simp) s t h
    rw [← List.singleton_append]
    refine forEach_append_rel hx ?_
    intro s₁ t₁ _ h₁
    exact ih (fun y hy => hstep y (by simp [hy])) h₁

/-- **Neutral insertion.** An element `y` whose round goes on and leaves related states related can
be inserted; only the states in which the loop can reach it matter. -/
theorem forEach_insert_rel {body' : α → τ → Step τ ρ} {R : σ → τ → Prop} {pre post : List α} {y : α}
    {s : σ} {t : τ} (hstep : ∀ x ∈ pre ++ post, ∀ s t, R s t → Rel R (body x s) (body' x t))
    (hy : ∀ s₁ t₁, forEach body pre s = next s₁ → R s₁ t₁ → ∃ t₂, body' y t₁ = next t₂ ∧ R s₁ t₂)
    (h : R s t) : Rel R (forEach body (pre ++ post) s) (forEach body' (pre ++ y :: post) t) := by
  refine forEach_append_rel (forEach_rel (fun x hx => hstep x (by simp [hx])) h) ?_
  intro s₁ t₁ hs₁ h₁
  obtain ⟨t₂, ht₂, h₂⟩ := hy s₁ t₁ hs₁ h₁
  rw [forEach_cons_next ht₂]
  exact forEach_rel (fun x hx => hstep x (by simp [hx])) h₂

end ForLoop
