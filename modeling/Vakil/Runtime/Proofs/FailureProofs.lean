import Vakil.Runtime.Proofs.RequestProofs

/-!
# Proofs: failing HTTP callbacks

The hook ABI makes a callback that fails during a request phase fail the whole chain: nothing later
in the phase runs, nothing is forwarded, and the client gets the response a plugin has populated or
a fallback reply. The filters read an error as "continue" and act on `Drop` in the routing loop only,
so this holds just when the request ends that way without the failure.
-/

namespace Vakil

variable {W : Type}

/-- What the client of a failed chain is to get: the response in the context, in full, or a reply of
the host. -/
def HttpContext.FailureReply (ctx : HttpContext) (reply : Reply) : Prop :=
  match ctx.response with
  | some r => reply = .localReply r.status r.headers r.body
  | none => ∃ code, reply = .hostError code

/-- After every rejected callback no later callback of its hook runs, nothing is forwarded and the
client gets the one reply due. -/
def FailureHonoured (run : RequestRun W) : Prop :=
  ∀ pre c post, run.calls = pre ++ c :: post → c.Rejected →
    (∀ d ∈ post, d.kind.hook ≠ c.kind.hook) ∧ run.forwarded = none ∧
      ∃ reply, run.replies = [reply] ∧ run.state.ctx.FailureReply reply

/-- When `c` is called after the calls `pre`, every module of the chain that has its callback has
had its turn. -/
def Call.LastInTurn (ms : List (PluginHttpModule W)) (pre : List (HttpCall W)) (c : HttpCall W) :
    Prop :=
  (modulesAt c.kind (pre ++ [c])).length =
    (ms.filter fun m => (m.callback c.kind.hook).isSome).length

/-- The failed call answers the request in `request_filter` with a response without headers. -/
def Call.AnswersItself (c : HttpCall W) : Prop :=
  c.kind = ⟨.requestFilter, .onRequestHeaders⟩ ∧ ∃ r, c.answer = some r ∧ r.headers = []

/-- No callback picks an upstream, and the last one called leaves no response. -/
def EndsUnrouted (calls : List (HttpCall W)) : Prop :=
  (∀ d ∈ calls, d.kind.hook = .onRoute → ¬ d.PicksUpstream) ∧ responseAfter calls = none

/-- The client's connection takes a reply, and every failed callback answers the request itself or
is the last of its hook in a request for which no upstream is picked. -/
def FailuresHarmless (ms : List (PluginHttpModule W)) (isOpen : Bool) (calls : List (HttpCall W)) :
    Prop :=
  ∀ pre c post, calls = pre ++ c :: post → c.Rejected →
    isOpen = true ∧ (c.AnswersItself ∨ c.LastInTurn ms pre ∧ EndsUnrouted calls)

/-! ## Rejected calls -/

theorem Call.Rejected.ne_localReply {c : HttpCall W} (h : c.Rejected) :
    c.kind.hook ≠ .onLocalReply := by
  rcases h.hook with h | h | h <;> rw [h] <;> decide

/-- A rejected routing callback returned an error, which is not a drop. -/
theorem Call.Rejected.not_drop {c : HttpCall W} (h : c.Rejected) (hhook : c.kind.hook = .onRoute) :
    (HookResult.outcome c.result).action ≠ .drop := by
  unfold Rejected at h
  rw [hhook] at h
  cases hres : c.result with
  | ok o => rw [hres] at h; exact h.elim
  | error e => simp

theorem Unanswered.kind_of_rejected {filter : HttpFilter} {l : List (HttpCall W)}
    (h : Unanswered filter l) {c : HttpCall W} (hc : c ∈ l) (hrej : c.Rejected) :
    c.kind = ⟨filter, .onRequestHeaders⟩ ∧ c.answer = none := by
  rcases h c hc with h | hreply
  · exact h
  · exact absurd (by rw [hreply]) hrej.ne_localReply

/-! ## Counting turns -/

theorem length_modulesAt_split (kind : HttpSite) (pre post : List (HttpCall W)) (c : HttpCall W) :
    (Call.modulesAt kind (pre ++ c :: post)).length =
      (Call.modulesAt kind (pre ++ [c])).length + (Call.modulesAt kind post).length := by
  have h : pre ++ c :: post = (pre ++ [c]) ++ post := by simp
  rw [h, Call.modulesAt_append (pre ++ [c]) post, List.length_append]

/-- A call is the last of its site exactly if the calls up to it are as many as all. -/
theorem length_modulesAt_eq_iff {kind : HttpSite} {pre post : List (HttpCall W)}
    {c : HttpCall W} : (Call.modulesAt kind (pre ++ [c])).length =
      (Call.modulesAt kind (pre ++ c :: post)).length ↔ ∀ d ∈ post, d.kind ≠ kind := by
  have hsplit := length_modulesAt_split kind pre post c
  constructor
  · intro h d hd hkind
    have hmem : d.module ∈ Call.modulesAt kind post :=
      List.mem_map.2 ⟨d, List.mem_filter.2 ⟨hd, by simpa using hkind⟩, rfl⟩
    have := List.length_pos_of_mem hmem
    omega
  · intro h
    rw [hsplit, Call.modulesAt_eq_nil h, List.length_nil, Nat.add_zero]

/-- Of two elements of a list, either is the other one or comes before or behind it. -/
theorem append_cons_trichotomy {α : Type} {pre pre' post post' : List α} {a b : α}
    (h : pre ++ a :: post = pre' ++ b :: post') :
    a = b ∧ post = post' ∨ b ∈ pre ∧ a ∈ post' ∨ a ∈ pre' ∧ b ∈ post := by
  rcases List.append_eq_append_iff.1 h with ⟨l, hl, hl'⟩ | ⟨l, hl, hl'⟩
  · cases l with
    | nil => exact .inl (List.cons.inj hl')
    | cons d l =>
      obtain ⟨rfl, rfl⟩ := List.cons.inj hl'
      exact .inr (.inr ⟨by simp [hl], by simp⟩)
  · cases l with
    | nil => exact .inl ⟨(List.cons.inj hl').1.symm, (List.cons.inj hl').2.symm⟩
    | cons d l =>
      obtain ⟨rfl, rfl⟩ := List.cons.inj hl'
      exact .inr (.inl ⟨by simp [hl], by simp⟩)

theorem Unanswered.modulesAt_route {filter : HttpFilter} {l : List (HttpCall W)}
    (h : Unanswered filter l) : Call.modulesAt ⟨.upstreamPeer, .onRoute⟩ l = [] :=
  Call.modulesAt_eq_nil fun c hc => by rcases h.kind c hc with h | h <;> rw [h] <;> simp

theorem Unrouted.modulesAt_headers {filter : HttpFilter} {l : List (HttpCall W)}
    (h : Unrouted l) : Call.modulesAt ⟨filter, .onRequestHeaders⟩ l = [] :=
  Call.modulesAt_eq_nil fun c hc => by rw [(h c hc).1]; simp

/-! ## One rejected call -/

section Shapes

variable {ms : List (PluginHttpModule W)} {run : RequestRun W} {isOpen : Bool}
  {pre post : List (HttpCall W)} {c : HttpCall W}

/-- In a request that `request_filter` answers, the call that answers it may have failed; a failed
call before it is followed by it. -/
theorem honoured_iff_answered {r : HttpResponse} (hcalls : AnsweredWith .requestFilter r run.calls)
    (hctx : run.state.ctx.response = some r) (hlast : responseAfter run.calls = some r)
    (hfwd : run.forwarded = none)
    (hreplies : run.replies = if isOpen then [.localReply r.status [] r.body] else [])
    (hsplit : run.calls = pre ++ c :: post) (hrej : c.Rejected) :
    ((∀ d ∈ post, d.kind.hook ≠ c.kind.hook) ∧ run.forwarded = none ∧
        ∃ reply, run.replies = [reply] ∧ run.state.ctx.FailureReply reply) ↔
      isOpen = true ∧ (c.AnswersItself ∨ c.LastInTurn ms pre ∧ EndsUnrouted run.calls) := by
  have hkind : c.kind = ⟨.requestFilter, .onRequestHeaders⟩ :=
    (hcalls.kind c (by simp [hsplit])).resolve_right fun h => hrej.ne_localReply (by rw [h])
  have hdue : ∀ reply, run.state.ctx.FailureReply reply ↔
      reply = .localReply r.status r.headers r.body := by
    intro reply
    rw [HttpContext.FailureReply, hctx]
  obtain ⟨pre', c', tail, hsplit', hun, hkind', hans', htail⟩ := hcalls
  rw [hsplit'] at hsplit
  have hnotail : c ∉ tail := by
    intro hmem
    exact hrej.ne_localReply (by rw [htail c hmem])
  constructor
  · rintro ⟨hafter, -, reply, hrep, hreply⟩
    have hopen : isOpen = true := by
      cases isOpen with
      | true => rfl
      | false => rw [hreplies] at hrep; cases hrep
    refine ⟨hopen, .inl ⟨hkind, r, ?_, ?_⟩⟩
    · rcases append_cons_trichotomy hsplit with ⟨rfl, -⟩ | ⟨-, hpost⟩ | ⟨-, hmem⟩
      · exact hans'
      · -- the answering call comes after the failed one
        have hhook : c'.kind.hook = c.kind.hook := by rw [hkind, hkind']
        exact absurd hhook (hafter c' hpost)
      · exact absurd hmem hnotail
    · rw [hdue] at hreply
      rw [hreplies, if_pos hopen, List.singleton_inj, hreply] at hrep
      exact (Reply.localReply.inj hrep).2.1.symm
  · rintro ⟨hopen, ⟨-, r', hr', hheaders⟩ | ⟨-, -, hnone⟩⟩
    · have hnotin : c ∉ pre' := by
        intro hmem
        rw [(hun.kind_of_rejected hmem hrej).2] at hr'
        cases hr'
      obtain ⟨rfl, rfl⟩ : c' = c ∧ tail = post := by
        rcases append_cons_trichotomy hsplit with h | ⟨hmem, -⟩ | ⟨-, hmem⟩
        · exact h
        · exact absurd hmem hnotin
        · exact absurd hmem hnotail
      obtain rfl : r = r' := by
        rw [hans'] at hr'
        exact Option.some.inj hr'
      refine ⟨?_, hfwd, _, by rw [hreplies, if_pos hopen], ?_⟩
      · intro d hd
        rw [htail d hd, hkind]
        decide
      · rw [hdue, hheaders]
    · rw [hlast] at hnone
      cases hnone

/-- While no upstream is picked, the calls of one hook are all made from one site. -/
theorem hook_eq_iff_kind_eq {hs rs : List (HttpCall W)} (hhs : Unanswered .requestFilter hs)
    (hrs : Unrouted rs) {c d : HttpCall W} (hc : c ∈ hs ++ rs) (hd : d ∈ hs ++ rs) :
    d.kind.hook = c.kind.hook ↔ d.kind = c.kind := by
  have hkinds : ∀ e ∈ hs ++ rs, e.kind = ⟨.requestFilter, .onRequestHeaders⟩ ∨
      e.kind = ⟨.requestFilter, .onLocalReply⟩ ∨ e.kind = ⟨.upstreamPeer, .onRoute⟩ := by
    intro e he
    rcases List.mem_append.1 he with he | he
    · exact (hhs.kind e he).imp_right .inl
    · exact .inr (.inr (hrs e he).1)
  constructor
  · intro h
    rcases hkinds d hd with hd | hd | hd <;> rcases hkinds c hc with hc | hc | hc <;>
      rw [hd, hc] at h ⊢ <;> cases h
  · intro h
    rw [h]

/-- While no upstream is picked, a failed call without a later one from its site was the last in
turn: the routing loop can stop early at a drop only, which is no failure. -/
theorem last_iff_lastInTurn {hs rs : List (HttpCall W)} (hhs : Unanswered .requestFilter hs)
    (hrs : Unrouted rs)
    (hhsTurns : Call.modulesAt ⟨.requestFilter, .onRequestHeaders⟩ hs =
      ms.filter (fun m => m.onRequestHeaders.isSome))
    (hrsTurns : ∃ rest, ms.filter (fun m => m.onRoute.isSome) =
        Call.modulesAt ⟨.upstreamPeer, .onRoute⟩ rs ++ rest ∧
      (rest = [] ∨ ∃ pre c, rs = pre ++ [c] ∧ (HookResult.outcome c.result).action = .drop))
    (hsplit : hs ++ rs = pre ++ c :: post) (hrej : c.Rejected) :
    (∀ d ∈ post, d.kind ≠ c.kind) ↔ c.LastInTurn ms pre := by
  have hmem : c ∈ hs ++ rs := by rw [hsplit]; simp
  rw [← @length_modulesAt_eq_iff W c.kind pre post c, ← hsplit, Call.LastInTurn]
  rcases List.mem_append.1 hmem with h | h
  · have hall : Call.modulesAt ⟨.requestFilter, .onRequestHeaders⟩ (hs ++ rs) =
        ms.filter fun m => m.onRequestHeaders.isSome := by
      rw [Call.modulesAt_append, hrs.modulesAt_headers, List.append_nil, hhsTurns]
    rw [(hhs.kind_of_rejected h hrej).1, hall]
    rfl
  · obtain ⟨rest, hrsTurns, hrest⟩ := hrsTurns
    have hck := (hrs c h).1
    have hall : ms.filter (fun m => m.onRoute.isSome) =
        Call.modulesAt ⟨.upstreamPeer, .onRoute⟩ (hs ++ rs) ++ rest := by
      rw [Call.modulesAt_append, hhs.modulesAt_route, List.nil_append, hrsTurns]
    have hle := length_modulesAt_split ⟨.upstreamPeer, .onRoute⟩ pre post c
    rw [← hsplit] at hle
    rw [hck]
    show _ ↔ _ = (ms.filter fun m => m.onRoute.isSome).length
    rw [hall, List.length_append]
    constructor
    · intro hlast
      -- the routing loop did not stop at `c`, so it ran to the end
      have hnil : rest = [] := by
        refine hrest.resolve_right ?_
        rintro ⟨rs', c', rfl, hdrop⟩
        rw [hsplit, length_modulesAt_eq_iff] at hlast
        rw [← List.append_assoc] at hsplit
        rcases append_cons_trichotomy hsplit with ⟨rfl, -⟩ | ⟨-, hpost⟩ | ⟨-, hnil⟩
        · exact hrej.not_drop (by rw [hck]) hdrop
        · exact hlast c' hpost (hrs c' (by simp)).1
        · cases hnil
      rw [hnil, List.length_nil, Nat.add_zero, hlast]
    · intro hlast
      omega

/-- The host's error reply is the one due exactly if the client takes it and no response is left. -/
theorem hostError_due_iff {code : UInt16}
    (hctx : run.state.ctx.response = responseAfter run.calls)
    (hreplies : run.replies = if isOpen then [.hostError code] else []) :
    (∃ reply, run.replies = [reply] ∧ run.state.ctx.FailureReply reply) ↔
      isOpen = true ∧ responseAfter run.calls = none := by
  rw [hreplies, ← hctx]
  cases isOpen with
  | false => simp
  | true => cases hr : run.state.ctx.response <;> simp [HttpContext.FailureReply, hr]

/-- In a request for which no upstream is picked, a failed callback must have been the last of its
hook, and the host's error reply must be the one due. -/
theorem honoured_iff_unrouted {hs rs : List (HttpCall W)} {code : UInt16}
    (hcalls : run.calls = hs ++ rs) (hhs : Unanswered .requestFilter hs) (hrs : Unrouted rs)
    (hctx : run.state.ctx.response = responseAfter run.calls)
    (hhsTurns : Call.modulesAt ⟨.requestFilter, .onRequestHeaders⟩ hs =
      ms.filter (fun m => m.onRequestHeaders.isSome))
    (hrsTurns : ∃ rest, ms.filter (fun m => m.onRoute.isSome) =
        Call.modulesAt ⟨.upstreamPeer, .onRoute⟩ rs ++ rest ∧
      (rest = [] ∨ ∃ pre c, rs = pre ++ [c] ∧ (HookResult.outcome c.result).action = .drop))
    (hfwd : run.forwarded = none)
    (hreplies : run.replies = if isOpen then [.hostError code] else [])
    (hsplit : run.calls = pre ++ c :: post) (hrej : c.Rejected) :
    ((∀ d ∈ post, d.kind.hook ≠ c.kind.hook) ∧ run.forwarded = none ∧
        ∃ reply, run.replies = [reply] ∧ run.state.ctx.FailureReply reply) ↔
      isOpen = true ∧ (c.AnswersItself ∨ c.LastInTurn ms pre ∧ EndsUnrouted run.calls) := by
  have hmem : c ∈ hs ++ rs := by rw [← hcalls, hsplit]; simp
  have hnopick : ∀ d ∈ run.calls, d.kind.hook = .onRoute → ¬ d.PicksUpstream := by
    intro d hd hhook
    rw [hcalls] at hd
    rcases List.mem_append.1 hd with hd | hd
    · rcases hhs.kind d hd with h | h <;> rw [h] at hhook <;> cases hhook
    · exact (hrs d hd).2
  have hnoself : ¬ c.AnswersItself := by
    rintro ⟨hk, r, hr, -⟩
    rcases List.mem_append.1 hmem with h | h
    · rw [(hhs.kind_of_rejected h hrej).2] at hr
      cases hr
    · rw [(hrs c h).1] at hk
      cases hk
  have hturn : (∀ d ∈ post, d.kind.hook ≠ c.kind.hook) ↔ c.LastInTurn ms pre := by
    rw [← last_iff_lastInTurn hhs hrs hhsTurns hrsTurns (by rw [← hcalls, hsplit]) hrej]
    refine forall₂_congr fun d hd => not_congr (hook_eq_iff_kind_eq hhs hrs hmem ?_)
    rw [← hcalls, hsplit]
    simp [hd]
  rw [hturn, hostError_due_iff hctx hreplies]
  constructor
  · rintro ⟨hlast, -, hopen, hnone⟩
    exact ⟨hopen, .inr ⟨hlast, hnopick, hnone⟩⟩
  · rintro ⟨hopen, hself | ⟨hlast, -, hnone⟩⟩
    · exact absurd hself hnoself
    · exact ⟨hlast, hfwd, hopen, hnone⟩

/-- Once an upstream has been picked, no failure is honoured. -/
theorem honoured_iff_routed {hs rs bs : List (HttpCall W)} {c₀ : HttpCall W}
    (hcalls : run.calls = hs ++ (rs ++ [c₀]) ++ bs) (hhs : Unanswered .requestFilter hs)
    (hrs : Unrouted rs) (hkind : c₀.kind = ⟨.upstreamPeer, .onRoute⟩) (hc₀ : c₀.PicksUpstream)
    (hbs : ∀ d ∈ bs, d.kind.filter ≠ .requestFilter)
    (hlost : run.forwarded.isSome ∨ run.replies = [])
    (hsplit : run.calls = pre ++ c :: post) (hrej : c.Rejected) :
    ((∀ d ∈ post, d.kind.hook ≠ c.kind.hook) ∧ run.forwarded = none ∧
        ∃ reply, run.replies = [reply] ∧ run.state.ctx.FailureReply reply) ↔
      isOpen = true ∧ (c.AnswersItself ∨ c.LastInTurn ms pre ∧ EndsUnrouted run.calls) := by
  refine iff_of_false ?_ ?_
  · rintro ⟨-, hfwd, reply, hrep, -⟩
    rcases hlost with h | h
    · rw [hfwd] at h
      cases h
    · rw [h] at hrep
      cases hrep
  · rintro ⟨-, ⟨hk, r, hr, -⟩ | ⟨-, hno, -⟩⟩
    · have hmem : c ∈ hs ++ (rs ++ [c₀]) ++ bs := by rw [← hcalls, hsplit]; simp
      simp only [List.mem_append, List.mem_singleton] at hmem
      rcases hmem with (h | h | rfl) | h
      · rw [(hhs.kind_of_rejected h hrej).2] at hr
        cases hr
      · rw [(hrs c h).1] at hk
        cases hk
      · rw [hkind] at hk
        cases hk
      · exact hbs c h (by rw [hk])
    · exact hno c₀ (by simp [hcalls]) (by rw [hkind]) hc₀

end Shapes

theorem Relayed.filter_ne {c : HttpCall W} (h : Relayed c) : c.kind.filter ≠ .requestFilter := by
  rcases h with h | h | h <;> rw [h] <;> decide

theorem AnsweredWith.filter_ne {r : HttpResponse} {l : List (HttpCall W)}
    (h : AnsweredWith .upstreamRequestFilter r l) {c : HttpCall W} (hc : c ∈ l) :
    c.kind.filter ≠ .requestFilter := by
  rcases h.kind c hc with h | h <;> rw [h] <;> decide

theorem Unanswered.filter_ne {l : List (HttpCall W)} (h : Unanswered .upstreamRequestFilter l)
    {c : HttpCall W} (hc : c ∈ l) : c.kind.filter ≠ .requestFilter := by
  rcases h.kind c hc with h | h <;> rw [h] <;> decide

/-- **Failure semantics.** A failing callback is treated as the ABI says exactly if the failure is
harmless. -/
theorem failureHonoured_iff (env : HttpEnv) (hooks : PluginProxyHooks W) (x : Exchange)
    (session : Session) (w : W) :
    FailureHonoured (serveRequest env hooks x session w) ↔
      FailuresHarmless hooks.httpModules session.isOpen (serveRequest env hooks x session w).calls := by
  refine forall₅_congr ?_
  intro pre c post hsplit hrej
  cases serveRequest_shape env hooks x session w with
  | answered hcalls hctx hlast hfwd hreplies =>
    exact honoured_iff_answered hcalls hctx hlast hfwd hreplies hsplit hrej
  | unrouted hcalls hhs hrs hctx hhsTurns hrsTurns hfwd hreplies =>
    exact honoured_iff_unrouted hcalls hhs hrs hctx hhsTurns hrsTurns hfwd hreplies hsplit hrej
  | unsent hcalls hhs hrs hkind hc hus hfwd hreplies =>
    refine honoured_iff_routed hcalls hhs hrs hkind hc ?_ (.inr hreplies) hsplit hrej
    intro d hd
    rcases hus with rfl | ⟨-, r, hans⟩
    · cases hd
    · exact hans.filter_ne hd
  | answeredAndSent hcalls hhs hrs hkind hc hus hbs hfwd hopen hreplies =>
    refine honoured_iff_routed hcalls hhs hrs hkind hc ?_ (.inl hfwd) hsplit hrej
    intro d hd
    rcases List.mem_append.1 hd with hd | hd
    · exact hus.filter_ne hd
    · exact (hbs d hd).filter_ne
  | sent hcalls hhs hrs hkind hc hus hbs hfwd hreplies =>
    refine honoured_iff_routed hcalls hhs hrs hkind hc ?_ (.inl hfwd) hsplit hrej
    intro d hd
    rcases List.mem_append.1 hd with hd | hd
    · exact hus.filter_ne hd
    · exact (hbs d hd).filter_ne

/-- A module whose `on_request_headers` fails. -/
def failingModule : PluginHttpModule Unit :=
  { PluginHttpModule.default with onRequestHeaders := some fun _ ctx w => (.error ⟨none⟩, ctx, w) }

/-- A request whose first headers callback fails is sent upstream all the same. -/
theorem failingModule_forwarded : ¬ FailureHonoured (Plain.serve [failingModule, Plain.router]) := by
  intro h
  have hfwd := (h [] _ _ rfl trivial).2.1
  exact absurd (congrArg Option.isSome hfwd) (by decide)

end Vakil
