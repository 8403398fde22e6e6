import Mathlib.Data.List.Nodup
import Mathlib.Data.List.Perm.Basic

/-!
# Boxes on a heap

A box is known by its address. Reading or freeing an address where there is no box is undefined
behaviour; the heap is `corrupt` from then on. `Heap.Owns owned` says that the boxes are those of a
list of owners, one for each: what a box adds to the list and a free takes from it (`Owns.box`,
`Owns.free`), nothing else can change. A program that keeps `Owns` frees no box twice, reads none that
is gone and loses none.
-/

namespace Boxes

structure Heap where
  /-- The addresses of the boxes that are there. -/
  live : List Nat := []
  corrupt : Bool := false
deriving DecidableEq, Repr

/-- Where a new box goes: not to null and not where there is one. -/
structure Allocator where
  address : List Nat → Nat
  fresh : ∀ live, address live ∉ live
  ne_zero : ∀ live, address live ≠ 0

namespace Heap

def box (alloc : Allocator) (h : Heap) : Nat × Heap :=
  (alloc.address h.live, { h with live := alloc.address h.live :: h.live })

def read (address : Nat) (h : Heap) : Heap :=
  if address ∈ h.live then h else { h with corrupt := true }

def free (address : Nat) (h : Heap) : Heap :=
  if address ∈ h.live then { h with live := h.live.erase address } else { h with corrupt := true }

/-- The boxes are those of the owners, and nothing went wrong. -/
structure Owns (h : Heap) (owned : List Nat) : Prop where
  live : h.live.Perm owned
  nodup : owned.Nodup
  ne_zero : 0 ∉ owned
  sound : h.corrupt = false

namespace Owns

variable {h : Heap} {owned owned' : List Nat} {address : Nat}

theorem empty : Owns {} [] := ⟨.nil, List.nodup_nil, List.not_mem_nil, rfl⟩

theorem perm (ho : h.Owns owned) (hp : owned.Perm owned') : h.Owns owned' :=
  ⟨ho.live.trans hp, hp.nodup_iff.mp ho.nodup, fun h0 => ho.ne_zero (hp.mem_iff.mpr h0), ho.sound⟩

theorem box (ho : h.Owns owned) (alloc : Allocator) :
    (h.box alloc).2.Owns (owned ++ [(h.box alloc).1]) := by
  have hnew : (h.box alloc).1 ∉ owned := fun hmem => alloc.fresh h.live (ho.live.mem_iff.mpr hmem)
  have hp : ((h.box alloc).1 :: owned).Perm (owned ++ [(h.box alloc).1]) :=
    (List.perm_append_singleton _ _).symm
  refine perm ⟨ho.live.cons _, List.nodup_cons.mpr ⟨hnew, ho.nodup⟩, ?_, ho.sound⟩ hp
  rw [List.mem_cons, not_or]
  exact ⟨(alloc.ne_zero h.live).symm, ho.ne_zero⟩

theorem read (ho : h.Owns owned) (hmem : address ∈ owned) : h.read address = h :=
  if_pos (ho.live.mem_iff.mpr hmem)

theorem free (ho : h.Owns (address :: owned)) : (h.free address).Owns owned := by
  have hmem : address ∈ h.live := ho.live.mem_iff.mpr List.mem_cons_self
  have hfree : h.free address = { h with live := h.live.erase address } := if_pos hmem
  have herase : (h.live.erase address).Perm owned := by
    have hp := ho.live.erase address
    rwa [List.erase_cons_head] at hp
  rw [hfree]
  exact ⟨herase, (List.nodup_cons.mp ho.nodup).2, fun h0 => ho.ne_zero (List.mem_cons_of_mem _ h0),
    ho.sound⟩

end Owns

end Heap

/-- The address after the highest box. -/
def Allocator.bump : Allocator where
  address live := live.foldr max 0 + 1
  fresh live := by
    have hle : ∀ live : List Nat, ∀ a ∈ live, a ≤ live.foldr max 0 := by
      intro live
      induction live with
      | nil => exact fun a ha => absurd ha List.not_mem_nil
      | cons b live ih =>
        intro a ha
        rw [List.foldr_cons]
        rcases List.mem_cons.mp ha with rfl | ha
        · omega
        · have := ih a ha
          omega
    intro hmem
    have := hle live _ hmem
    omega
  ne_zero live := Nat.succ_ne_zero _

end Boxes
