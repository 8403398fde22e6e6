import Vakil.Runtime.Proofs.RequestProofs

/-!
# Proofs: local replies and forwarding

`request_filter` ends a request it has answered (`Ok(true)`). `upstream_request_filter` contains the
same loop, but returns `Ok` after writing its reply, so the request is sent upstream all the same. The
client does not get the upstream's response then, since the library sends one response only.
-/

namespace Vakil

variable {W : Type}

/-- Once a local reply has been written the request is not forwarded, and at most one reply is
written at all. -/
def ReplyExcludesForwarding (run : RequestRun W) : Prop :=
  (∀ status headers body, .localReply status headers body ∈ run.replies → run.forwarded = none) ∧
    run.replies.length ≤ 1

/-- No call of `on_request_headers` by `upstream_request_filter` leaves a response. -/
def NoLateAnswer (calls : List (HttpCall W)) : Prop :=
  ∀ c ∈ calls, c.kind = ⟨.upstreamRequestFilter, .onRequestHeaders⟩ → c.answer = none

theorem NoLateAnswer.append {l l' : List (HttpCall W)} (h : NoLateAnswer l)
    (h' : NoLateAnswer l') : NoLateAnswer (l ++ l') := by
  intro c hc
  rcases List.mem_append.1 hc with hc | hc
  · exact h c hc
  · exact h' c hc

theorem noLateAnswer_of_filter {l : List (HttpCall W)}
    (h : ∀ c ∈ l, c.kind.filter ≠ .upstreamRequestFilter) : NoLateAnswer l :=
  fun c hc hkind => absurd (by rw [hkind]) (h c hc)

theorem Unanswered.noLateAnswer {filter : HttpFilter} {l : List (HttpCall W)}
    (h : Unanswered filter l) : NoLateAnswer l := by
  intro c hc hkind
  rcases h c hc with ⟨-, hnone⟩ | hreply
  · exact hnone
  · rw [hkind] at hreply
    cases hreply

theorem Unrouted.noLateAnswer {l : List (HttpCall W)} (h : Unrouted l) : NoLateAnswer l :=
  noLateAnswer_of_filter fun c hc => by rw [(h c hc).1]; decide

theorem noLateAnswer_of_relayed {l : List (HttpCall W)} (h : ∀ c ∈ l, Relayed c) :
    NoLateAnswer l :=
  noLateAnswer_of_filter fun c hc => by
    rcases h c hc with h | h | h <;> rw [h] <;> decide

theorem AnsweredWith.not_noLateAnswer {r : HttpResponse} {l : List (HttpCall W)}
    (h : AnsweredWith .upstreamRequestFilter r l) : ¬ NoLateAnswer l := by
  obtain ⟨pre, c, tail, rfl, -, hkind, hans, -⟩ := h
  intro hno
  have hnone := hno c (by simp) hkind
  rw [hans] at hnone
  cases hnone

/-- **A local reply excludes forwarding** exactly as long as no module answers in
`upstream_request_filter` (a client that is gone gets no reply at all). -/
theorem replyExcludesForwarding_iff (env : HttpEnv) (hooks : PluginProxyHooks W) (x : Exchange)
    (session : Session) (w : W) :
    ReplyExcludesForwarding (serveRequest env hooks x session w) ↔
      (session.isOpen = true → NoLateAnswer (serveRequest env hooks x session w).calls) := by
  have hpick : ∀ c : HttpCall W, c.kind = ⟨.upstreamPeer, .onRoute⟩ → NoLateAnswer [c] := by
    intro c hc
    refine noLateAnswer_of_filter ?_
    intro d hd
    rw [List.mem_singleton.1 hd, hc]
    decide
  cases serveRequest_shape env hooks x session w with
  | answered hcalls hctx hlast hfwd hreplies =>
    refine iff_of_true ⟨fun _ _ _ _ => hfwd, ?_⟩ ?_
    · rw [hreplies]
      split <;> simp
    · intro _
      refine noLateAnswer_of_filter ?_
      intro c hc
      rcases hcalls.kind c hc with h | h <;> rw [h] <;> decide
  | unrouted hcalls hhs hrs hctx hhsTurns hrsTurns hfwd hreplies =>
    refine iff_of_true ⟨fun _ _ _ _ => hfwd, ?_⟩ ?_
    · rw [hreplies]
      split <;> simp
    · intro _
      rw [hcalls]
      exact hhs.noLateAnswer.append hrs.noLateAnswer
  | unsent hcalls hhs hrs hkind hc hus hfwd hreplies =>
    refine iff_of_true ⟨fun _ _ _ _ => hfwd, by simp [hreplies]⟩ ?_
    intro hopen
    have hnil := hus.resolve_right fun h => by simp [hopen] at h
    rw [hcalls, hnil, List.append_nil]
    exact hhs.noLateAnswer.append (hrs.noLateAnswer.append (hpick _ hkind))
  | @answeredAndSent hs rs us bs c r hcalls hhs hrs hkind hc hus hbs hfwd hopen hreplies =>
    refine iff_of_false ?_ ?_
    · -- the reply is written and the request sent
      intro h
      have hreply : .localReply r.status [] r.body ∈
          (serveRequest env hooks x session w).replies := by
        rw [hreplies]
        exact List.mem_singleton_self _
      rw [h.1 _ _ _ hreply] at hfwd
      cases hfwd
    · intro h
      refine hus.not_noLateAnswer ?_
      intro d hd
      refine h hopen d ?_
      rw [hcalls]
      simp [hd]
  | sent hcalls hhs hrs hkind hc hus hbs hfwd hreplies =>
    refine iff_of_true ⟨?_, ?_⟩ ?_
    · intro status headers body hmem
      rw [hreplies] at hmem
      split at hmem <;> simp at hmem
    · rw [hreplies]
      split <;> simp
    · intro _
      rw [hcalls]
      exact (hhs.noLateAnswer.append (hrs.noLateAnswer.append (hpick _ hkind))).append
        (hus.noLateAnswer.append (noLateAnswer_of_relayed hbs))

/-- A module that chooses the upstream in `on_route` and answers whatever has a route by then. -/
def lateAnswerer : PluginHttpModule Unit :=
  { PluginHttpModule.default with
    onRoute := some Plain.onRoute
    onRequestHeaders := some fun _ ctx w =>
      (.ok {}, if (ctx.route.bind (·.upstreamToSet)).isSome then
        { ctx with response := some Plain.response } else ctx, w) }

/-- The module lets the request pass `request_filter`, answers it in `upstream_request_filter`, and
the request is sent upstream. -/
theorem lateAnswerer_forwarded : ¬ ReplyExcludesForwarding (Plain.serve [lateAnswerer]) := by
  intro h
  have hreply : .localReply 200 [] [111, 107] ∈ (Plain.serve [lateAnswerer]).replies := by decide
  have hsent : (Plain.serve [lateAnswerer]).forwarded.isSome = true := by decide
  rw [h.1 _ _ _ hreply] at hsent
  cases hsent

end Vakil
