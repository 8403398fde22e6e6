import Mathlib.Data.List.DropRight

/-!
# Text

The operations of Rust's `str` that configuration parsers are made of, on lists of characters:
trimming, lines, splitting at every occurrence of a text or at the first or last one of a character,
stripping a character off either end, decimal numbers. `List.splitOn` is `str::split` with a
character, `Nat.toDigits 10` prints a number.
-/

namespace Text

/-- `char::is_whitespace`: the characters with the Unicode property `White_Space`. -/
def isWhitespace (c : Char) : Bool :=
  (9 ≤ c.toNat && c.toNat ≤ 13) || c.toNat = 32 || c.toNat = 0x85 || c.toNat = 0xA0 ||
    c.toNat = 0x1680 || (0x2000 ≤ c.toNat && c.toNat ≤ 0x200A) || c.toNat = 0x2028 ||
    c.toNat = 0x2029 || c.toNat = 0x202F || c.toNat = 0x205F || c.toNat = 0x3000

/-- `str::trim`. -/
def trim (s : List Char) : List Char := (s.dropWhile isWhitespace).rdropWhile isWhitespace

/-- `str::split_once`: the text before and after the first `c`. -/
def splitOnce (c : Char) : List Char → Option (List Char × List Char)
  | [] => none
  | x :: s => if x = c then some ([], s) else (splitOnce c s).map fun p => (x :: p.1, p.2)

/-- `str::rsplit_once`: the text before and after the last `c`. -/
def rsplitOnce (c : Char) : List Char → Option (List Char × List Char)
  | [] => none
  | x :: s =>
    match rsplitOnce c s with
    | some (a, b) => some (x :: a, b)
    | none => if x = c then some ([], s) else none

/-- `str::strip_prefix` of a character. -/
def stripPrefix (c : Char) : List Char → Option (List Char)
  | [] => none
  | x :: s => if x = c then some s else none

/-- `str::strip_suffix` of a character. -/
def stripSuffix (c : Char) (s : List Char) : Option (List Char) :=
  if s.getLast? = some c then some s.dropLast else none

/-- A line without the `\r` of its line ending. -/
def stripCarriageReturn (line : List Char) : List Char := (stripSuffix '\r' line).getD line

/-- `str::lines`: the lines end in `\n` or `\r\n`, and what follows the last ending is a line of its
own unless it is empty. -/
def lines (s : List Char) : List (List Char) :=
  (s.splitOn '\n').dropLast.map stripCarriageReturn ++
    (s.splitOn '\n').getLast?.toList.filter (· ≠ [])

/-- The pieces between the occurrences of `sep`, the first of them without the `skip` characters that
still belong to an occurrence. -/
def pieces (sep : List Char) : Nat → List Char → List (List Char)
  | _, [] => [[]]
  | skip + 1, _ :: s => pieces sep skip s
  | 0, x :: s =>
    if sep.isPrefixOf (x :: s) then [] :: pieces sep (sep.length - 1) s
    else (pieces sep 0 s).modifyHead (x :: ·)

/-- `str::split` with a text. The empty text occurs before every character and at the end. -/
def splitStr (sep s : List Char) : List (List Char) :=
  if sep = [] then [] :: s.map ([·]) ++ [[]] else pieces sep 0 s

/-- `u16::from_str`: decimal digits, perhaps after a `+`. -/
def parseU16 (s : List Char) : Option UInt16 :=
  let digits := (stripPrefix '+' s).getD s
  if (!digits.isEmpty && digits.all Char.isDigit) ∧ Nat.ofDigitChars 10 digits 0 < 65536 then
    some (.ofNat (Nat.ofDigitChars 10 digits 0))
  else none

/-- `u8::from_str`. -/
def parseU8 (s : List Char) : Option UInt8 :=
  let digits := (stripPrefix '+' s).getD s
  if (!digits.isEmpty && digits.all Char.isDigit) ∧ Nat.ofDigitChars 10 digits 0 < 256 then
    some (.ofNat (Nat.ofDigitChars 10 digits 0))
  else none

/-! ## Trimming -/

theorem trim_nil : trim [] = [] := rfl

/-- What trimming leaves nothing of is whitespace throughout. -/
theorem trim_eq_nil_iff {s : List Char} : trim s = [] ↔ ∀ c ∈ s, isWhitespace c := by
  rw [trim, List.rdropWhile_eq_nil_iff]
  constructor
  · intro h
    have hdrop : s.dropWhile isWhitespace = [] := by
      cases hd : s.dropWhile isWhitespace with
      | nil => rfl
      | cons c t =>
        have hhead : isWhitespace c = false := by
          simpa [hd] using List.head_dropWhile_not isWhitespace (l := s) (by simp [hd])
        rw [h c (by simp [hd])] at hhead
        cases hhead
    exact List.dropWhile_eq_nil_iff.mp hdrop
  · intro h c hc
    exact h c ((List.dropWhile_sublist isWhitespace).subset hc)

/-- A trailing whitespace character does not survive trimming. -/
theorem trim_concat {c : Char} (hc : isWhitespace c) (s : List Char) : trim (s ++ [c]) = trim s := by
  unfold trim
  rw [List.dropWhile_append]
  split_ifs with h
  · have hs : s.dropWhile isWhitespace = [] := by simpa using h
    simp [hs, hc]
  · exact List.rdropWhile_concat_pos _ _ _ hc

/-- Nor does any whitespace at the end. -/
theorem trim_append_whitespace {b : List Char} (hb : ∀ c ∈ b, isWhitespace c) (a : List Char) :
    trim (a ++ b) = trim a := by
  induction b using List.reverseRecOn with
  | nil => rw [List.append_nil]
  | append_singleton b c ih =>
    rw [← List.append_assoc, trim_concat (hb c (by simp))]
    exact ih fun d hd => hb d (List.mem_append_left _ hd)

theorem trim_rdropWhile (s : List Char) : trim (s.rdropWhile isWhitespace) = trim s := by
  have hend : ∀ c ∈ s.rtakeWhile isWhitespace, isWhitespace c := fun c hc =>
    List.mem_rtakeWhile_imp hc
  calc trim (s.rdropWhile isWhitespace)
      = trim (s.rdropWhile isWhitespace ++ s.rtakeWhile isWhitespace) :=
        (trim_append_whitespace hend _).symm
    _ = trim s := by rw [List.rdropWhile_append_rtakeWhile]

theorem trim_dropWhile (s : List Char) : trim (s.dropWhile isWhitespace) = trim s := by
  unfold trim
  rw [List.dropWhile_idempotent]

section Middle

variable {c : Char} (hc : ¬ isWhitespace c = true)

include hc

theorem dropWhile_append_cons (a b : List Char) :
    (a ++ c :: b).dropWhile isWhitespace = a.dropWhile isWhitespace ++ c :: b := by
  rw [List.dropWhile_append, List.dropWhile_cons_of_neg hc]
  split_ifs with ha
  · rw [List.isEmpty_iff.mp ha, List.nil_append]
  · rfl

theorem rdropWhile_append_cons (a b : List Char) :
    (a ++ c :: b).rdropWhile isWhitespace = a ++ c :: b.rdropWhile isWhitespace := by
  unfold List.rdropWhile
  rw [List.reverse_append, List.reverse_cons, List.append_assoc, List.singleton_append,
    dropWhile_append_cons hc]
  simp

/-- Around a character that is not whitespace, trimming drops what is outermost. -/
theorem trim_append_cons (a b : List Char) :
    trim (a ++ c :: b) = a.dropWhile isWhitespace ++ c :: b.rdropWhile isWhitespace := by
  rw [trim, dropWhile_append_cons hc, rdropWhile_append_cons hc]

end Middle

/-- Trimming keeps the first character that is not whitespace. -/
theorem head?_trim (s : List Char) : (trim s).head? = (s.dropWhile isWhitespace).head? := by
  unfold trim
  cases hdrop : s.dropWhile isWhitespace with
  | nil => rw [List.rdropWhile_nil]
  | cons c t =>
    have hhead : ¬ isWhitespace c = true := by
      simpa [hdrop] using List.head_dropWhile_not isWhitespace (l := s) (by simp [hdrop])
    rw [← List.nil_append (c :: t), rdropWhile_append_cons hhead, List.nil_append, List.nil_append,
      List.head?_cons, List.head?_cons]

theorem trim_stripCarriageReturn (line : List Char) :
    trim (stripCarriageReturn line) = trim line := by
  unfold stripCarriageReturn stripSuffix
  split_ifs with h
  · obtain ⟨s, rfl⟩ := List.getLast?_eq_some_iff.mp h
    rw [List.dropLast_concat, Option.getD_some, trim_concat (by decide)]
  · rfl

/-! ## Splitting -/

theorem splitOnce_eq_some_iff {c : Char} {s a b : List Char} :
    splitOnce c s = some (a, b) ↔ s = a ++ c :: b ∧ c ∉ a := by
  induction s generalizing a with
  | nil => simp [splitOnce]
  | cons x s ih =>
    unfold splitOnce
    split_ifs with hx
    · subst hx
      constructor
      · intro h
        cases h
        exact ⟨rfl, List.not_mem_nil⟩
      · rintro ⟨hs, hc⟩
        cases a with
        | nil => cases hs; rfl
        | cons y a => cases hs; exact absurd List.mem_cons_self hc
    · constructor
      · intro h
        obtain ⟨⟨a', b'⟩, hs, heq⟩ := Option.map_eq_some_iff.mp h
        cases heq
        obtain ⟨rfl, hc⟩ := ih.mp hs
        exact ⟨rfl, by simp [hc, Ne.symm hx]⟩
      · rintro ⟨hs, hc⟩
        cases a with
        | nil => cases hs; exact absurd rfl hx
        | cons y a =>
          cases hs
          rw [List.mem_cons, not_or] at hc
          rw [ih.mpr ⟨rfl, hc.2⟩]
          rfl

theorem rsplitOnce_eq_none_iff {c : Char} {s : List Char} : rsplitOnce c s = none ↔ c ∉ s := by
  induction s with
  | nil => simp [rsplitOnce]
  | cons x s ih =>
    unfold rsplitOnce
    cases hs : rsplitOnce c s with
    | none => simp [ih.mp hs, eq_comm]
    | some p =>
      have hmem : c ∈ s := by
        by_contra hc
        rw [ih.mpr hc] at hs
        cases hs
      simp [hmem]

/-- What follows the last `c` is the part without one. -/
theorem rsplitOnce_append {c : Char} {b : List Char} (hb : c ∉ b) (a : List Char) :
    rsplitOnce c (a ++ c :: b) = some (a, b) := by
  induction a with
  | nil =>
    rw [List.nil_append, rsplitOnce, rsplitOnce_eq_none_iff.mpr hb]
    exact if_pos rfl
  | cons x a ih => rw [List.cons_append, rsplitOnce, ih]

/-- Splitting with a text of one character is splitting with that character. -/
theorem splitStr_singleton (c : Char) (s : List Char) : splitStr [c] s = s.splitOn c := by
  rw [splitStr, if_neg (List.cons_ne_nil c []), List.splitOn_eq_splitOnP]
  induction s with
  | nil => rfl
  | cons x s ih =>
    rw [pieces, ih, List.splitOnP_cons_eq_if_modifyHead]
    by_cases hx : x = c
    · simp [hx, List.isPrefixOf, ih]
    · simp [hx, Ne.symm hx, List.isPrefixOf]

theorem stripPrefix_eq_some_iff {c : Char} {s t : List Char} :
    stripPrefix c s = some t ↔ s = c :: t := by
  cases s with
  | nil => simp [stripPrefix]
  | cons x s => simp [stripPrefix]

theorem stripSuffix_eq_some_iff {c : Char} {s t : List Char} :
    stripSuffix c s = some t ↔ s = t ++ [c] := by
  unfold stripSuffix
  split_ifs with h
  · obtain ⟨u, rfl⟩ := List.getLast?_eq_some_iff.mp h
    simp
  · constructor
    · nofun
    · rintro rfl
      exact absurd (by simp) h

/-! ## Numbers -/

/-- A `u16` is read back from its digits. -/
theorem parseU16_toDigits (n : UInt16) : parseU16 (Nat.toDigits 10 n.toNat) = some n := by
  have hdigits : ∀ c ∈ Nat.toDigits 10 n.toNat, c.isDigit := fun c hc =>
    Nat.isDigit_of_mem_toDigits (by decide) (by decide) hc
  have hnumber : (!(Nat.toDigits 10 n.toNat).isEmpty &&
      (Nat.toDigits 10 n.toNat).all Char.isDigit) = true := by
    simp only [Bool.and_eq_true, Bool.not_eq_true', List.isEmpty_eq_false_iff, List.all_eq_true]
    exact ⟨Nat.toDigits_ne_nil, hdigits⟩
  have hplus : stripPrefix '+' (Nat.toDigits 10 n.toNat) = none := by
    cases hs : stripPrefix '+' (Nat.toDigits 10 n.toNat) with
    | none => rfl
    | some t =>
      have := hdigits '+' (by rw [stripPrefix_eq_some_iff.mp hs]; exact List.mem_cons_self)
      exact absurd this (by decide)
  unfold parseU16
  rw [hplus, Option.getD_none]
  dsimp only
  rw [Nat.ofDigitChars_ten_toDigits, if_pos ⟨hnumber, n.toNat_lt⟩, UInt16.ofNat_toNat]

/-- The text is a number: decimal digits, perhaps after a `+`, and perhaps with zeros in front. -/
def Reads (s : List Char) (n : ℕ) : Prop :=
  ∃ digits, (s = digits ∨ s = '+' :: digits) ∧ digits ≠ [] ∧ (∀ c ∈ digits, c.isDigit = true) ∧
    Nat.ofDigitChars 10 digits 0 = n

/-- The digits of a number are what is behind the sign. -/
theorem reads_iff {s : List Char} {n : ℕ} :
    Reads s n ↔ ((!((stripPrefix '+' s).getD s).isEmpty &&
      ((stripPrefix '+' s).getD s).all Char.isDigit) = true ∧
        Nat.ofDigitChars 10 ((stripPrefix '+' s).getD s) 0 = n) := by
  have hdigits : ∀ digits, (s = digits ∨ s = '+' :: digits) → digits ≠ [] →
      (∀ c ∈ digits, c.isDigit = true) → (stripPrefix '+' s).getD s = digits := by
    rintro digits (rfl | rfl) - hall
    · cases hs : stripPrefix '+' s with
      | none => rfl
      | some t =>
        have hplus : '+' ∈ s := by
          rw [stripPrefix_eq_some_iff.mp hs]
          exact List.mem_cons_self
        exact absurd (hall '+' hplus) (by decide)
    · rw [stripPrefix_eq_some_iff.mpr rfl, Option.getD_some]
  simp only [Bool.and_eq_true, Bool.not_eq_true', List.isEmpty_eq_false_iff, List.all_eq_true]
  constructor
  · rintro ⟨digits, hs, hne, hall, rfl⟩
    rw [hdigits digits hs hne hall]
    exact ⟨⟨hne, hall⟩, rfl⟩
  · rintro ⟨⟨hne, hall⟩, hn⟩
    refine ⟨(stripPrefix '+' s).getD s, ?_, hne, hall, hn⟩
    cases hs : stripPrefix '+' s with
    | none => exact .inl rfl
    | some t => exact .inr (stripPrefix_eq_some_iff.mp hs)

theorem parseU8_eq_some_iff {s : List Char} {n : UInt8} : parseU8 s = some n ↔ Reads s n.toNat := by
  rw [reads_iff]
  unfold parseU8
  dsimp only
  split_ifs with h
  · obtain ⟨hnumber, hlt⟩ := h
    rw [Option.some_inj, ← UInt8.toNat_inj, UInt8.toNat_ofNat_of_lt' hlt]
    exact ⟨fun hn => ⟨hnumber, hn⟩, fun hn => hn.2⟩
  · constructor
    · intro hn
      cases hn
    · rintro ⟨hnumber, hn⟩
      refine absurd ⟨hnumber, ?_⟩ h
      rw [hn]
      exact n.toNat_lt

/-- No other character than a sign or a digit is in a number. -/
theorem Reads.not_mem {s : List Char} {n : ℕ} (h : Reads s n) {c : Char} (hplus : c ≠ '+')
    (hdigit : c.isDigit = false) : c ∉ s := by
  obtain ⟨digits, hs, -, hall, -⟩ := h
  have hnot : c ∉ digits := by
    intro hc
    rw [hall c hc] at hdigit
    cases hdigit
  rcases hs with rfl | rfl
  · exact hnot
  · intro hc
    rcases List.mem_cons.mp hc with hc | hc
    · exact hplus hc
    · exact hnot hc

theorem not_mem_toDigits {c : Char} (hc : c.isDigit = false) (n : Nat) :
    c ∉ Nat.toDigits 10 n := by
  intro hmem
  rw [Nat.isDigit_of_mem_toDigits (by decide) (by decide) hmem] at hc
  cases hc

/-! ## Lines -/

/-- The pieces between the newlines, trimmed, are the lines, trimmed, up to a last empty one. -/
theorem map_trim_splitOn (s : List Char) :
    ∃ rest, (s.splitOn '\n').map trim = (lines s).map trim ++ rest ∧ ∀ l ∈ rest, l = [] := by
  have hne : s.splitOn '\n' ≠ [] := List.splitOn_ne_nil '\n' s
  generalize hp : s.splitOn '\n' = pieces at hne
  obtain ⟨init, last, rfl⟩ := (List.eq_nil_or_concat pieces).resolve_left hne
  have htrim : (init.map stripCarriageReturn).map trim = init.map trim := by
    rw [List.map_map]
    exact List.map_congr_left fun l _ => trim_stripCarriageReturn l
  unfold lines
  rw [hp]
  by_cases hl : last = []
  · refine ⟨[[]], ?_, by simp⟩
    simp [htrim, hl, trim_nil]
  · refine ⟨[], ?_, by simp⟩
    simp [htrim, hl]

/-- **Only the pieces between the newlines matter** to a reader that trims each line and skips the
empty ones, among others. -/
theorem filter_lines {keep : List Char → Bool} (hkeep : keep [] = false) (s : List Char) :
    ((lines s).map trim).filter keep = ((s.splitOn '\n').map trim).filter keep := by
  obtain ⟨rest, hs, hrest⟩ := map_trim_splitOn s
  have hnil : rest.filter keep = [] := List.filter_eq_nil_iff.mpr fun l hl => by
    rw [hrest l hl, hkeep]
    exact Bool.false_ne_true
  rw [hs, List.filter_append, hnil, List.append_nil]

end Text
