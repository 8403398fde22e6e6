import Mathlib.Data.List.Induction

/-!
# Serial runs of calls

A component whose calls take effect one after the other, such as one whose state is behind a lock,
serves a list of calls from a state: `serve call calls s` has each call with its result, and the
state after them. A property of every such run is a property of every order in which concurrent
callers get their turns.
-/

namespace Calls

variable {ι ω σ : Type*}

def serve (call : ι → σ → ω × σ) : List ι → σ → List (ι × ω) × σ
  | [], s => ([], s)
  | i :: is, s => ((i, (call i s).1) :: (serve call is (call i s).2).1, (serve call is (call i s).2).2)

variable {call : ι → σ → ω × σ}

theorem map_fst_serve (is : List ι) (s : σ) : (serve call is s).1.map Prod.fst = is := by
  induction is generalizing s with
  | nil => rfl
  | cons i is ih => rw [serve, List.map_cons, ih]

theorem serve_append (is js : List ι) (s : σ) :
    serve call (is ++ js) s =
      ((serve call is s).1 ++ (serve call js (serve call is s).2).1,
        (serve call js (serve call is s).2).2) := by
  induction is generalizing s with
  | nil => rfl
  | cons i is ih => rw [List.cons_append, serve, ih]; rfl

theorem snd_serve_append (is js : List ι) (s : σ) :
    (serve call (is ++ js) s).2 = (serve call js (serve call is s).2).2 := by
  rw [serve_append]

/-- The state after one more call. -/
theorem snd_serve_concat (is : List ι) (i : ι) (s : σ) :
    (serve call (is ++ [i]) s).2 = (call i (serve call is s).2).2 :=
  snd_serve_append is [i] s

/-- The results of a run are those of its calls, each made in the state that the calls before it
left. -/
theorem mem_serve_iff {is : List ι} {s : σ} {i : ι} {o : ω} :
    (i, o) ∈ (serve call is s).1 ↔
      ∃ pre post, is = pre ++ i :: post ∧ (call i (serve call pre s).2).1 = o := by
  constructor
  · intro h
    induction is generalizing s with
    | nil => cases h
    | cons j is ih =>
      rcases List.mem_cons.mp h with heq | h
      · cases heq
        exact ⟨[], is, rfl, rfl⟩
      · obtain ⟨pre, post, rfl, ho⟩ := ih h
        exact ⟨j :: pre, post, rfl, ho⟩
  · rintro ⟨pre, post, rfl, rfl⟩
    rw [serve_append]
    exact List.mem_append_right _ List.mem_cons_self

/-- **Run rule.** If a call made in a state with `Inv` has a result with `Q` and keeps `Inv`, so do
all calls of a run. -/
theorem serve_sat {Inv : σ → Prop} {Q : ι → ω → Prop} {is : List ι}
    (hcall : ∀ i ∈ is, ∀ s, Inv s → Q i (call i s).1 ∧ Inv (call i s).2) {s : σ} (h : Inv s) :
    (∀ i o, (i, o) ∈ (serve call is s).1 → Q i o) ∧ Inv (serve call is s).2 := by
  induction is generalizing s with
  | nil => exact ⟨nofun, h⟩
  | cons i is ih =>
    obtain ⟨hQ, hInv⟩ := hcall i List.mem_cons_self s h
    obtain ⟨hrest, hend⟩ := ih (fun j hj => hcall j (List.mem_cons_of_mem _ hj)) hInv
    refine ⟨?_, hend⟩
    intro j o hj
    rcases List.mem_cons.mp hj with heq | hj
    · cases heq
      exact hQ
    · exact hrest j o hj

/-- What every call keeps, every run keeps. -/
theorem serve_keeps {P : σ → Prop} (hcall : ∀ i s, P s → P (call i s).2) (is : List ι) {s : σ}
    (h : P s) : P (serve call is s).2 := by
  have hsat : ∀ i ∈ is, ∀ s, P s → True ∧ P (call i s).2 := fun i _ s hs => ⟨trivial, hcall i s hs⟩
  exact (serve_sat (Q := fun _ _ => True) hsat h).2

end Calls
