import Mathlib.Data.List.Basic

/-!
# Monotonic clock readings

A reading has signed 64-bit seconds and nanoseconds below a second, as `std::time::Instant` has;
adding a duration to it can leave that range.
-/

namespace Clock

def nanosPerSec : Nat := 1000000000

theorem nanosPerSec_pos : 0 < nanosPerSec := by decide

/-- Where the seconds of a reading end. -/
def secsBound : Int := 9223372036854775808

/-- `std::time::Instant`. -/
structure Instant where
  secs : Int
  nanos : Nat
  secs_ge : -secsBound ≤ secs
  secs_lt : secs < secsBound
  nanos_lt : nanos < nanosPerSec
deriving DecidableEq, Repr

/-- `std::time::Duration`. -/
structure Duration where
  secs : UInt64
  nanos : Nat
  nanos_lt : nanos < nanosPerSec
deriving DecidableEq, Repr

def Duration.fromSecs (secs : UInt64) : Duration := ⟨secs, 0, nanosPerSec_pos⟩

/-- Earlier first: by seconds, then by nanoseconds. -/
instance : LT Instant where
  lt a b := a.secs < b.secs ∨ (a.secs = b.secs ∧ a.nanos < b.nanos)

instance (a b : Instant) : Decidable (a < b) :=
  inferInstanceAs (Decidable (a.secs < b.secs ∨ (a.secs = b.secs ∧ a.nanos < b.nanos)))

/-- `Instant::checked_add`: `none` if the seconds leave their range. -/
def Instant.checkedAdd (t : Instant) (d : Duration) : Option Instant :=
  if h : t.secs + d.secs.toNat + ((t.nanos + d.nanos) / nanosPerSec : Nat) < secsBound then
    some
      { secs := t.secs + d.secs.toNat + ((t.nanos + d.nanos) / nanosPerSec : Nat)
        nanos := (t.nanos + d.nanos) % nanosPerSec
        secs_ge := by
          rw [Int.add_assoc]
          exact Int.le_trans t.secs_ge (Int.le_add_of_nonneg_right
            (Int.add_nonneg (Int.natCast_nonneg _) (Int.natCast_nonneg _)))
        secs_lt := h
        nanos_lt := Nat.mod_lt _ nanosPerSec_pos }
  else none

/-- Adding whole seconds, at least one of them, gives a later reading. -/
theorem Instant.lt_checkedAdd {t t' : Instant} {secs : UInt64} (hsecs : secs ≠ 0)
    (h : t.checkedAdd (.fromSecs secs) = some t') : t < t' := by
  have hpos : 0 < secs.toNat := by
    have hne : secs.toNat ≠ 0 := fun h0 => hsecs (UInt64.toNat_inj.mp h0)
    omega
  unfold checkedAdd at h
  split_ifs at h
  cases h
  left
  have hcarry : (0 : Int) ≤ ((t.nanos + 0) / nanosPerSec : Nat) := Int.natCast_nonneg _
  exact Int.lt_of_lt_of_le (Int.lt_add_of_pos_right _ (Int.natCast_pos.mpr hpos))
    (Int.le_add_of_nonneg_right hcarry)

end Clock
