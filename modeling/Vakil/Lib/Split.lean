import Vakil.Lib.Text

/-!
# Splitting at a text

What `str::split` with a text makes of a string: the pieces, put together again with the separator, are
the string, and each separator is the leftmost occurrence behind the one before it (`splitStr_eq_iff`).
For the empty separator the pieces are the characters.
-/

namespace Text

variable {sep s p : List Char} {ps : List (List Char)}

/-- The pieces of a text that is split at the leftmost places: there is no occurrence of the separator
in a piece, nor one that ends inside the separator behind it. -/
def IsSplit (sep : List Char) : List (List Char) → Prop
  | [] => False
  | [p] => ¬ sep <:+: p
  | p :: q :: ps => ¬ sep <:+: p ++ sep.dropLast ∧ IsSplit sep (q :: ps)

theorem dropLast_prefix_of_split (p sep rest : List Char) :
    p ++ sep.dropLast <+: p ++ (sep ++ rest) := by
  rw [List.prefix_append_right_inj]
  exact (List.dropLast_prefix sep).trans (List.prefix_append sep rest)

/-! ## Pieces -/

theorem pieces_skip (t : List Char) (sep rest : List Char) :
    pieces sep t.length (t ++ rest) = pieces sep 0 rest := by
  induction t with
  | nil => rfl
  | cons x t ih => rw [List.length_cons, List.cons_append, pieces, ih]

/-- The first piece, if the separator occurs. -/
theorem pieces_append (hsep : sep ≠ []) (h : ¬ sep <:+: p ++ sep.dropLast) (rest : List Char) :
    pieces sep 0 (p ++ (sep ++ rest)) = p :: pieces sep 0 rest := by
  induction p with
  | nil =>
    obtain ⟨x, t, rfl⟩ := List.exists_cons_of_ne_nil hsep
    have hprefix : (x :: t).isPrefixOf (x :: (t ++ rest)) = true :=
      List.isPrefixOf_iff_prefix.mpr (List.prefix_append (x :: t) rest)
    rw [List.nil_append, List.cons_append, pieces, if_pos hprefix, List.length_cons,
      Nat.add_sub_cancel, pieces_skip]
  | cons x p ih =>
    have hno : ¬ sep.isPrefixOf (x :: (p ++ (sep ++ rest))) = true := by
      intro hprefix
      have hshort : sep.length ≤ (x :: p ++ sep.dropLast).length := by
        rw [List.length_append, List.length_cons, List.length_dropLast]
        omega
      have hstart : sep <+: x :: p ++ (sep ++ rest) := List.isPrefixOf_iff_prefix.mp hprefix
      have hpiece := dropLast_prefix_of_split (x :: p) sep rest
      exact h (List.prefix_of_prefix_length_le hstart hpiece hshort).isInfix
    have hrest : ¬ sep <:+: p ++ sep.dropLast := fun hin => h (List.infix_cons hin)
    rw [List.cons_append, pieces, if_neg hno, ih hrest, List.modifyHead_cons]

theorem pieces_of_not_infix (h : ¬ sep <:+: s) : pieces sep 0 s = [s] := by
  induction s with
  | nil => rfl
  | cons x s ih =>
    have hno : ¬ sep.isPrefixOf (x :: s) = true :=
      fun hprefix => h (List.isPrefixOf_iff_prefix.mp hprefix).isInfix
    have hrest : ¬ sep <:+: s := fun hin => h (List.infix_cons hin)
    rw [pieces, if_neg hno, ih hrest, List.modifyHead_cons]

/-- The first place where a separator occurs. -/
theorem exists_first_infix (hsep : sep ≠ []) (h : sep <:+: s) :
    ∃ p rest, s = p ++ (sep ++ rest) ∧ ¬ sep <:+: p ++ sep.dropLast := by
  induction s with
  | nil => exact absurd (List.infix_nil.mp h) hsep
  | cons x s ih =>
    by_cases hprefix : sep <+: x :: s
    · obtain ⟨rest, hrest⟩ := hprefix
      refine ⟨[], rest, hrest.symm, ?_⟩
      intro hin
      have hle := hin.length_le
      have hpos : 0 < sep.length := List.length_pos_of_ne_nil hsep
      rw [List.nil_append, List.length_dropLast] at hle
      omega
    · have hin : sep <:+: s := (List.infix_cons_iff.mp h).resolve_left hprefix
      obtain ⟨p, rest, rfl, hfirst⟩ := ih hin
      refine ⟨x :: p, rest, rfl, ?_⟩
      intro hin
      rcases List.infix_cons_iff.mp hin with hstart | hlater
      · exact hprefix (hstart.trans (dropLast_prefix_of_split (x :: p) sep rest))
      · exact hfirst hlater

/-! ## Splitting and joining -/

theorem pieces_intercalate (hsep : sep ≠ []) (h : IsSplit sep ps) :
    pieces sep 0 (sep.intercalate ps) = ps := by
  induction ps with
  | nil => cases h
  | cons p ps ih =>
    cases ps with
    | nil =>
      rw [List.intercalate_singleton]
      exact pieces_of_not_infix h
    | cons q ps =>
      rw [List.intercalate_cons_cons, List.append_assoc, pieces_append hsep h.1, ih h.2]

theorem exists_isSplit (hsep : sep ≠ []) (s : List Char) :
    ∃ ps, IsSplit sep ps ∧ sep.intercalate ps = s := by
  induction hn : s.length using Nat.strong_induction_on generalizing s with
  | _ n ih =>
    subst hn
    by_cases hin : sep <:+: s
    · obtain ⟨p, rest, rfl, hfirst⟩ := exists_first_infix hsep hin
      have hpos : 0 < sep.length := List.length_pos_of_ne_nil hsep
      have hshort : rest.length < (p ++ (sep ++ rest)).length := by
        rw [List.length_append, List.length_append]
        omega
      obtain ⟨qs, hqs, hjoin⟩ := ih rest.length hshort rest rfl
      cases qs with
      | nil => cases hqs
      | cons q qs =>
        refine ⟨p :: q :: qs, ⟨hfirst, hqs⟩, ?_⟩
        rw [List.intercalate_cons_cons, hjoin, List.append_assoc]
    · exact ⟨[s], hin, List.intercalate_singleton⟩

/-- **Splitting at a text** is the inverse of joining pieces that the separator does not occur in, up to
its end. -/
theorem splitStr_eq_iff (hsep : sep ≠ []) :
    splitStr sep s = ps ↔ IsSplit sep ps ∧ sep.intercalate ps = s := by
  rw [splitStr, if_neg hsep]
  constructor
  · rintro rfl
    obtain ⟨ps, hps, rfl⟩ := exists_isSplit hsep s
    rw [pieces_intercalate hsep hps]
    exact ⟨hps, rfl⟩
  · rintro ⟨hps, rfl⟩
    exact pieces_intercalate hsep hps

end Text
