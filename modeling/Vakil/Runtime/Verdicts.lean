import Vakil.Runtime.Request

/-!
# What a recorded call says

Readings of the record of calls in which the properties of the HTTP filters are stated: the response
a module gives with its `on_request_headers`, the rejections, the choice of an upstream.
-/

namespace Vakil

variable {W : Type}

namespace Call

/-- The response in the context after a call of `on_request_headers` and, where it is due (a
response is present or the call returned `Replace`), the module's own `on_local_reply`. -/
def answer (c : HttpCall W) : Option HttpResponse :=
  if c.left.response.isSome ∨ (HookResult.outcome c.result).action = .replace then
    match c.module.onLocalReply with
    | none => c.left.response
    | some replyCb => (replyCb c.module.inst c.left c.worldLeft).2.1.response
  else none

/-- The callback failed during a request phase: it returned `Err`, or it is a headers or body hook
and asked for the flow to be dropped. -/
def Rejected (c : HttpCall W) : Prop :=
  match c.kind.hook with
  | .onRoute => HookResult.IsErr c.result
  | .onRequestHeaders => HookResult.Rejects c.result
  | .onRequestBody => HookResult.Rejects c.result
  | _ => False

instance (c : HttpCall W) : Decidable c.Rejected := by
  unfold Rejected; split <;> infer_instance

/-- The routing callback asked for the upstream to be replaced and left one in the context. -/
def PicksUpstream (c : HttpCall W) : Prop :=
  (HookResult.outcome c.result).action = .replace ∧
    (c.left.route.bind (·.upstreamToSet)).isSome

instance (c : HttpCall W) : Decidable c.PicksUpstream := by
  unfold PicksUpstream; infer_instance

/-- The callback asked for the flow to be dropped. -/
def Drops (c : HttpCall W) : Prop := (HookResult.outcome c.result).action = .drop

instance (c : HttpCall W) : Decidable c.Drops := by unfold Drops; infer_instance

theorem Rejected.hook {c : HttpCall W} (h : c.Rejected) :
    c.kind.hook = .onRoute ∨ c.kind.hook = .onRequestHeaders ∨ c.kind.hook = .onRequestBody := by
  unfold Rejected at h
  split at h
  · exact .inl ‹_›
  · exact .inr (.inl ‹_›)
  · exact .inr (.inr ‹_›)
  · exact h.elim

end Call

end Vakil
