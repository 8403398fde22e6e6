import Mathlib.Data.List.Basic

/-!
# Results of calls that may panic

`Outcome ε α` is what a call of a fallible function ends with: a value, an error value, or a panic.
A panic while a mutex is held poisons it (`Mutex.withLock`).
-/

inductive Outcome (ε α : Type*) where
  | ok (a : α)
  | err (e : ε)
  | panic
deriving DecidableEq, Repr

def Outcome.ofExcept {ε α : Type*} : Except ε α → Outcome ε α
  | .ok a => .ok a
  | .error e => .err e

/-- A computation that returns went through its first part. -/
theorem Except.bind_ok.{u, v} {ε : Type u} {α β : Type v} {x : Except ε α} {f : α → Except ε β}
    {b : β} (h : (x >>= f) = .ok b) : ∃ a, x = .ok a ∧ f a = .ok b := by
  cases x with
  | error e => cases h
  | ok a => exact ⟨a, rfl, h⟩

structure Mutex (σ : Type*) where
  value : σ
  /-- A holder of the lock panicked. -/
  poisoned : Bool

namespace Mutex

variable {ε α σ : Type*}

def new (s : σ) : Mutex σ := ⟨s, false⟩

/-- Run a critical section that expects the lock not to be poisoned. -/
def withLock (m : Mutex σ) (body : σ → Outcome ε α × σ) : Outcome ε α × Mutex σ :=
  if m.poisoned then (.panic, m)
  else
    match body m.value with
    | (.panic, s) => (.panic, ⟨s, true⟩)
    | (outcome, s) => (outcome, ⟨s, false⟩)

/-- A critical section that returns leaves the lock usable. -/
theorem withLock_ok {m : Mutex σ} {body : σ → Outcome ε α × σ} {a : α} {s : σ}
    (hm : m.poisoned = false) (hbody : body m.value = (.ok a, s)) :
    m.withLock body = (.ok a, .mk s false) := by
  unfold withLock
  rw [hm, hbody]
  rfl

/-- A critical section that panics poisons the lock. -/
theorem withLock_panic {m : Mutex σ} {body : σ → Outcome ε α × σ} {s : σ}
    (hm : m.poisoned = false) (hbody : body m.value = (.panic, s)) :
    m.withLock body = (.panic, .mk s true) := by
  unfold withLock
  rw [hm, hbody]
  rfl

/-- A poisoned lock makes every later use of it panic. -/
theorem withLock_poisoned {m : Mutex σ} {body : σ → Outcome ε α × σ} (hm : m.poisoned = true) :
    m.withLock body = (.panic, m) := by
  unfold withLock
  rw [hm]
  rfl

end Mutex
