import Vakil.Runtime.Proofs.BodyProofs
import Vakil.Runtime.Proofs.ForwardingProofs

/-!
# Proofs: what becomes of mutations

Every filter hands on the message it was given. What the callbacks make of the message in the
context is never looked at again, and a response never gets into the context to begin with. So the
messages that the callbacks leave are the ones that are passed on exactly if the callbacks have put
there themselves what is passed on: the request's headers byte for byte, with the host of the route as
`Host`, and the upstream's response.
-/

namespace Vakil

open ForLoop Step

variable {W : Type}

/-! ## Where the callbacks start from -/

/-- From `s` to `t`, nothing was called and the context is the same, or the first call was given the
context of `s`. -/
def Begins (s t : HttpState W) : Prop :=
  (t.calls = s.calls ∧ t.ctx = s.ctx) ∨ ∃ c rest, t.calls = s.calls ++ c :: rest ∧ c.seen = s.ctx

namespace Begins

variable {s t u : HttpState W}

theorem refl (s : HttpState W) : Begins s s := .inl ⟨rfl, rfl⟩

theorem trans (h : Begins s t) (h' : Begins t u) : Begins s u := by
  rcases h with ⟨hcalls, hctx⟩ | ⟨c, rest, hcalls, hseen⟩
  · rw [Begins, ← hcalls, ← hctx]
    exact h'
  · right
    rcases h' with ⟨hcalls', -⟩ | ⟨c', rest', hcalls', -⟩
    · exact ⟨c, rest, hcalls'.trans hcalls, hseen⟩
    · exact ⟨c, rest ++ c' :: rest', by rw [hcalls', hcalls, List.append_assoc]; rfl, hseen⟩

theorem invokeIgnored (s : HttpState W) (site : HttpSite) (m : PluginHttpModule W)
    (cb : Option (HttpHookFn W)) : Begins s (s.invokeIgnored site m cb) := by
  cases cb with
  | none => exact refl s
  | some cb => exact .inr ⟨s.callOf site m cb, [], HttpState.invoke_calls s site m cb, rfl⟩

theorem foldl {f : HttpState W → PluginHttpModule W → HttpState W} (h : ∀ s m, Begins s (f s m))
    (ms : List (PluginHttpModule W)) (s : HttpState W) : Begins s (ms.foldl f s) := by
  refine List.foldlRecOn ms f (refl s) ?_
  intro t ht m _
  exact ht.trans (h t m)

end Begins

def HttpContext.requestHeaders (ctx : HttpContext) : Option Headers := ctx.request.map (·.headers)

/-- The header list of a message with these entries. -/
def Headers.toWire (headers : Headers) : List (Str × Bytes) :=
  headers.map fun entry => (entry.name, asBytes entry.value)

theorem Decides.unique {calls : List (HttpCall W)} {c d : HttpCall W} (hc : Decides calls c)
    (hd : Decides calls d) : c = d := by
  obtain ⟨pre, post, hsplit, -, hothers⟩ := hc.alone
  obtain ⟨pre', post', hsplit', hkind, -⟩ := hd.alone
  have hmem : d ∈ pre ++ c :: post := by
    rw [← hsplit, hsplit']
    exact List.mem_append_right _ List.mem_cons_self
  rw [List.mem_append, List.mem_cons, or_left_comm, ← List.mem_append] at hmem
  rcases hmem with rfl | hmem
  · rfl
  · exact absurd hd.picks (hothers d hmem hkind)

end Vakil
