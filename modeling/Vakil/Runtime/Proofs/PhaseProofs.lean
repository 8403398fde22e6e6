import Vakil.Runtime.Proofs.MutationProofs

/-!
# Proofs: the order of the phases

`request_filter` calls `on_request_headers` before `upstream_peer` calls `on_route`, and
`upstream_request_filter` calls it once more. Without a module that has this callback, the only
other place where the order of the phases can break is `response_body_filter`, which at the end of
the stream calls `on_trailers` of a module before `on_response_body` of the next one.
-/

namespace Vakil

open ForLoop

variable {W : Type}

/-- The phases of a request, in their order. `on_local_reply` belongs to none. -/
def HttpHook.phase : HttpHook → Option Nat
  | .onRoute => some 0
  | .onRequestHeaders => some 1
  | .onRequestBody => some 2
  | .onResponseHeaders => some 3
  | .onResponseBody => some 4
  | .onTrailers => some 5
  | .onLocalReply => none

/-- No hook belongs to an earlier phase than one before it. -/
def InPhaseOrder (hooks : List HttpHook) : Prop :=
  hooks.Pairwise fun h h' => ∀ p ∈ h.phase, ∀ p' ∈ h'.phase, p ≤ p'

instance : DecidablePred InPhaseOrder := fun hooks => by
  unfold InPhaseOrder
  infer_instance

/-- The calls never go back to an earlier phase, and `on_request_headers` of each of the modules
`ms` that has it is called once. -/
structure PhaseOrder (ms : List (PluginHttpModule W)) (calls : List (HttpCall W)) : Prop where
  ordered : InPhaseOrder (calls.map (·.kind.hook))
  once : ((calls.filter (·.kind.hook = .onRequestHeaders)).map (·.module)).Perm
    (ms.filter fun m => m.onRequestHeaders.isSome)

/-- Hooks of one phase in front of hooks of that phase or later ones. -/
theorem inPhaseOrder_append_iff {l l' : List HttpHook} {p : Nat} (h : ∀ x ∈ l, x.phase = some p)
    (h' : ∀ y ∈ l', ∀ p' ∈ y.phase, p ≤ p') : InPhaseOrder (l ++ l') ↔ InPhaseOrder l' := by
  unfold InPhaseOrder
  rw [List.pairwise_append]
  constructor
  · exact fun hall => hall.2.1
  · intro hl'
    refine ⟨List.pairwise_of_forall_mem_list ?_, hl', ?_⟩
    · intro x hx y hy q hq q' hq'
      rw [h x hx] at hq
      rw [h y hy] at hq'
      cases hq
      cases hq'
      exact le_rfl
    · intro x hx y hy q hq q' hq'
      rw [h x hx] at hq
      cases hq
      exact h' y hy q' hq'

/-! ## Which hooks a filter calls -/

/-- From `s` to `t` callbacks of the hooks `l` were called, in this order. -/
def Hooked (l : List HttpHook) (s t : HttpState W) : Prop :=
  ∃ new, t.calls = s.calls ++ new ∧ new.map (·.kind.hook) = l

namespace Hooked

variable {l l' : List HttpHook} {s t u : HttpState W}

theorem refl (s : HttpState W) : Hooked [] s s := ⟨[], by simp, rfl⟩

theorem trans (h : Hooked l s t) (h' : Hooked l' t u) : Hooked (l ++ l') s u := by
  obtain ⟨new, hc, hl⟩ := h
  obtain ⟨new', hc', hl'⟩ := h'
  exact ⟨new ++ new', by rw [hc', hc, List.append_assoc], by rw [List.map_append, hl, hl']⟩

theorem foldl {β : Type} {f : HttpState W → β → HttpState W} {turn : β → List HttpHook}
    (h : ∀ s b, Hooked (turn b) s (f s b)) (bs : List β) (s : HttpState W) :
    Hooked (bs.flatMap turn) s (bs.foldl f s) := by
  induction bs generalizing s with
  | nil => exact refl s
  | cons b bs ih => exact (h s b).trans (ih (f s b))

end Hooked

/-- The hook of a module, if it has a callback for it. -/
def PluginHttpModule.turn (hook : HttpHook) (m : PluginHttpModule W) : List HttpHook :=
  if (m.callback hook).isSome then [hook] else []

/-- What `response_body_filter` calls of a module. -/
def PluginHttpModule.bodyTurn (eos : Bool) (m : PluginHttpModule W) : List HttpHook :=
  m.turn .onResponseBody ++ if eos then m.turn .onTrailers else []

theorem PluginHttpModule.mem_turn {hook h : HttpHook} {m : PluginHttpModule W} :
    h ∈ m.turn hook ↔ h = hook ∧ m.callback hook ≠ none := by
  unfold turn
  cases m.callback hook <;> simp

theorem HttpState.invokeIgnored_hooked (s : HttpState W) (filter : HttpFilter) (hook : HttpHook)
    (m : PluginHttpModule W) :
    Hooked (m.turn hook) s (s.invokeIgnored ⟨filter, hook⟩ m (m.callback hook)) := by
  unfold PluginHttpModule.turn
  cases m.callback hook with
  | none => exact .refl s
  | some cb => exact ⟨[s.callOf ⟨filter, hook⟩ m cb], rfl, rfl⟩

theorem requestBodyFilter_hooked (hooks : PluginProxyHooks W) (chunk : Option Bytes)
    (s : HttpState W) :
    Hooked (hooks.httpModules.flatMap (·.turn .onRequestBody)) s
      (requestBodyFilter hooks chunk s).2.2 :=
  Hooked.foldl (fun s m => s.invokeIgnored_hooked .requestBodyFilter .onRequestBody m) _
    { s with ctx := populateReqBodyIntoCtx chunk s.ctx }

theorem responseFilter_hooked (hooks : PluginProxyHooks W) (header : ResponseHeader)
    (s : HttpState W) :
    Hooked (hooks.httpModules.flatMap (·.turn .onResponseHeaders)) s
      (responseFilter hooks header s).2.2 :=
  Hooked.foldl (fun s m => s.invokeIgnored_hooked .responseFilter .onResponseHeaders m) _ s

theorem responseBodyFilter_hooked (hooks : PluginProxyHooks W) (chunk : Option Bytes) (eos : Bool)
    (s : HttpState W) :
    Hooked (hooks.httpModules.flatMap (·.bodyTurn eos)) s
      (responseBodyFilter hooks chunk eos s).2.2 := by
  refine Hooked.foldl ?_ hooks.httpModules { s with ctx := populateRespBodyIntoCtx chunk s.ctx }
  intro t m
  have hbody := t.invokeIgnored_hooked .responseBodyFilter .onResponseBody m
  unfold PluginHttpModule.bodyTurn
  cases eos with
  | false =>
    rw [if_neg (by decide), List.append_nil]
    exact hbody
  | true => exact hbody.trans (HttpState.invokeIgnored_hooked _ _ .onTrailers m)

/-- What the exchange with the upstream calls of the modules `ms`. -/
def relayTurns (ms : List (PluginHttpModule W)) (x : Exchange) : List HttpHook :=
  (x.requestBody.flatMap fun _ => ms.flatMap (·.turn .onRequestBody)) ++
    (ms.flatMap (·.turn .onResponseHeaders) ++
      x.responseBody.flatMap fun chunk => ms.flatMap (·.bodyTurn chunk.2))

theorem relay_hooked (hooks : PluginProxyHooks W) (x : Exchange) (s : HttpState W) :
    Hooked (relayTurns hooks.httpModules x) s (relay hooks x s) := by
  have hrequest : Hooked _ s (requestChunks hooks x.requestBody s) :=
    Hooked.foldl (fun s chunk => requestBodyFilter_hooked hooks chunk s) _ s
  have hheaders : Hooked _ _ (relayHeaders hooks x s) :=
    responseFilter_hooked hooks x.responseHeader (requestChunks hooks x.requestBody s)
  have hbody : Hooked _ _ (responseChunks hooks x.responseBody (relayHeaders hooks x s)) :=
    Hooked.foldl (fun s (chunk : Option Bytes × Bool) =>
      responseBodyFilter_hooked hooks chunk.1 chunk.2 s) _ _
  rw [relay_eq]
  exact hrequest.trans (hheaders.trans hbody)

/-! ## The order of the response body hooks -/

/-- A trailers callback of `m` is not called before a body callback of `m'`, for lack of one of
them. -/
def NoTrailersBefore (m m' : PluginHttpModule W) : Prop :=
  m.onTrailers = none ∨ m'.onResponseBody = none

/-- With a chunk that ends the stream, no module has a trailers callback that is called before a
body callback: of a module behind it, or of any module with a later chunk. -/
def TrailersLast (ms : List (PluginHttpModule W)) (chunks : List (Option Bytes × Bool)) : Prop :=
  (∀ chunk ∈ chunks, ms.Pairwise fun m m' => chunk.2 = true → NoTrailersBefore m m') ∧
  chunks.Pairwise fun chunk _ => ∀ m ∈ ms, ∀ m' ∈ ms, chunk.2 = true → NoTrailersBefore m m'

theorem PluginHttpModule.mem_bodyTurn {eos : Bool} {h : HttpHook} {m : PluginHttpModule W} :
    h ∈ m.bodyTurn eos ↔ (h = .onResponseBody ∧ m.onResponseBody ≠ none) ∨
      (h = .onTrailers ∧ eos = true ∧ m.onTrailers ≠ none) := by
  unfold bodyTurn
  rw [List.mem_append, mem_turn]
  cases eos with
  | false => simp [callback]
  | true =>
    rw [if_pos rfl, mem_turn]
    simp [callback]

theorem bodyTurn_inPhaseOrder (eos : Bool) (m : PluginHttpModule W) :
    InPhaseOrder (m.bodyTurn eos) := by
  unfold PluginHttpModule.bodyTurn PluginHttpModule.turn
  split_ifs <;> decide

/-- The turn of one module before that of another. -/
theorem bodyTurn_before_iff {eos eos' : Bool} {m m' : PluginHttpModule W} :
    (∀ h ∈ m.bodyTurn eos, ∀ h' ∈ m'.bodyTurn eos', ∀ p ∈ h.phase, ∀ p' ∈ h'.phase, p ≤ p') ↔
      (eos = true → NoTrailersBefore m m') := by
  constructor
  · intro hall heos
    by_contra hno
    obtain ⟨htrailers, hbody⟩ := not_or.mp hno
    have hle := hall .onTrailers (PluginHttpModule.mem_bodyTurn.mpr (.inr ⟨rfl, heos, htrailers⟩))
      .onResponseBody (PluginHttpModule.mem_bodyTurn.mpr (.inl ⟨rfl, hbody⟩)) 5 rfl 4 rfl
    omega
  · intro hno h hh h' hh' p hp p' hp'
    rcases PluginHttpModule.mem_bodyTurn.mp hh with ⟨rfl, -⟩ | ⟨rfl, heos, htrailers⟩
    · rcases PluginHttpModule.mem_bodyTurn.mp hh' with ⟨rfl, -⟩ | ⟨rfl, -, -⟩
      · cases hp
        cases hp'
        decide
      · cases hp
        cases hp'
        decide
    · rcases PluginHttpModule.mem_bodyTurn.mp hh' with ⟨rfl, hbody⟩ | ⟨rfl, -, -⟩
      · exact ((hno heos).elim htrailers hbody).elim
      · cases hp
        cases hp'
        decide

theorem response_inPhaseOrder_iff (ms : List (PluginHttpModule W))
    (chunks : List (Option Bytes × Bool)) :
    InPhaseOrder (chunks.flatMap fun chunk => ms.flatMap (·.bodyTurn chunk.2)) ↔
      TrailersLast ms chunks := by
  unfold InPhaseOrder TrailersLast
  rw [List.pairwise_flatMap]
  refine and_congr (forall₂_congr fun chunk _ => ?_) ?_
  · rw [List.pairwise_flatMap]
    simp only [bodyTurn_before_iff]
    exact and_iff_right fun m _ => bodyTurn_inPhaseOrder chunk.2 m
  · refine List.Pairwise.iff fun chunk chunk' => ?_
    constructor
    · intro hall m hm m' hm'
      exact bodyTurn_before_iff.mp fun h hh h' hh' =>
        hall h (List.mem_flatMap.mpr ⟨m, hm, hh⟩) h' (List.mem_flatMap.mpr ⟨m', hm', hh'⟩)
    · intro hall h hh h' hh'
      obtain ⟨m, hm, hh⟩ := List.mem_flatMap.mp hh
      obtain ⟨m', hm', hh'⟩ := List.mem_flatMap.mp hh'
      exact bodyTurn_before_iff.mpr (hall m hm m' hm') h hh h' hh'

theorem requestTurns_phase (ms : List (PluginHttpModule W)) (chunks : List (Option Bytes)) :
    ∀ h ∈ chunks.flatMap fun _ => ms.flatMap (·.turn .onRequestBody), h.phase = some 2 := by
  intro h hh
  obtain ⟨_, -, hh⟩ := List.mem_flatMap.mp hh
  obtain ⟨m, -, hh⟩ := List.mem_flatMap.mp hh
  rw [(PluginHttpModule.mem_turn.mp hh).1]
  rfl

theorem responseHeadersTurns_phase (ms : List (PluginHttpModule W)) :
    ∀ h ∈ ms.flatMap (·.turn .onResponseHeaders), h.phase = some 3 := by
  intro h hh
  obtain ⟨m, -, hh⟩ := List.mem_flatMap.mp hh
  rw [(PluginHttpModule.mem_turn.mp hh).1]
  rfl

theorem responseBodyTurns_phase (ms : List (PluginHttpModule W))
    (chunks : List (Option Bytes × Bool)) :
    ∀ h ∈ chunks.flatMap fun chunk => ms.flatMap (·.bodyTurn chunk.2), ∀ p ∈ h.phase, 3 ≤ p := by
  intro h hh p hp
  obtain ⟨_, -, hh⟩ := List.mem_flatMap.mp hh
  obtain ⟨m, -, hh⟩ := List.mem_flatMap.mp hh
  rcases PluginHttpModule.mem_bodyTurn.mp hh with ⟨rfl, -⟩ | ⟨rfl, -⟩
  · cases hp
    decide
  · cases hp
    decide

theorem responseTurns_phase (ms : List (PluginHttpModule W)) (chunks : List (Option Bytes × Bool)) :
    ∀ h ∈ ms.flatMap (·.turn .onResponseHeaders) ++
      chunks.flatMap fun chunk => ms.flatMap (·.bodyTurn chunk.2), ∀ p ∈ h.phase, 2 ≤ p := by
  intro h hh p hp
  rcases List.mem_append.mp hh with hh | hh
  · rw [responseHeadersTurns_phase ms h hh] at hp
    cases hp
    decide
  · have hle := responseBodyTurns_phase ms chunks h hh p hp
    omega

theorem relayTurns_phase (ms : List (PluginHttpModule W)) (x : Exchange) :
    ∀ h ∈ relayTurns ms x, ∀ p ∈ h.phase, 2 ≤ p := by
  intro h hh p hp
  rcases List.mem_append.mp hh with hh | hh
  · rw [requestTurns_phase ms x.requestBody h hh] at hp
    cases hp
    exact le_rfl
  · exact responseTurns_phase ms x.responseBody h hh p hp

/-- The hooks of the exchange with the upstream are in order as far as those of the response body
are. -/
theorem relayTurns_inPhaseOrder_iff (ms : List (PluginHttpModule W)) (x : Exchange) :
    InPhaseOrder (relayTurns ms x) ↔ TrailersLast ms x.responseBody := by
  unfold relayTurns
  rw [inPhaseOrder_append_iff (requestTurns_phase ms x.requestBody)
      (responseTurns_phase ms x.responseBody),
    inPhaseOrder_append_iff (responseHeadersTurns_phase ms)
      (responseBodyTurns_phase ms x.responseBody),
    response_inPhaseOrder_iff]

/-! ## A forwarded request -/

/-- Without a headers callback the local reply loops do nothing. -/
theorem answerLoop_of_none (filter : HttpFilter) {ms : List (PluginHttpModule W)}
    (h : ∀ m ∈ ms, m.onRequestHeaders = none) (s : HttpState W) :
    forEach (answerRound filter) ms s = .next s := by
  have hskip := answerLoop_skip filter h [] s
  rwa [List.append_nil] at hskip

theorem requestFilter_calls {env : HttpEnv} {hooks : PluginProxyHooks W} {s t : HttpState W}
    (h : requestFilter env hooks s = (.ok false, t)) :
    ∃ hs, t.calls = s.calls ++ hs ∧
      Call.modulesAt ⟨.requestFilter, .onRequestHeaders⟩ hs =
        hooks.httpModules.filter (fun m => m.onRequestHeaders.isSome) ∧
      ((∀ m ∈ hooks.httpModules, m.onRequestHeaders = none) → hs = []) := by
  rcases requestFilter_cases env hooks s with
      ⟨-, hrun⟩ | ⟨t', hs, hrun, hcalls, -, -, hturns, -⟩ | ⟨t', hs, r, hrun, -⟩
  · rw [hrun] at h
    cases h
  · rw [hrun] at h
    cases h
    refine ⟨hs, hcalls, hturns, ?_⟩
    intro hnone
    cases hu : rewriteUri env s with
    | none => simp [requestFilter, hu] at hrun
    | some s' =>
      rw [requestFilter_of_next hu (answerLoop_of_none .requestFilter hnone s')] at hrun
      cases hrun
      have hsame : t.calls = s.calls := congrArg PluginState.calls (rewriteUri_spec hu).2.1
      rw [hcalls] at hsame
      exact List.append_right_eq_self.mp hsame
  · rw [hrun] at h
    obtain ⟨hresult, -⟩ := Prod.mk.inj h
    split_ifs at hresult
    cases hresult

theorem upstreamPeer_calls {env : HttpEnv} {hooks : PluginProxyHooks W} {s t : HttpState W}
    {peer : HttpPeer} (h : upstreamPeer env hooks s = (.ok peer, t)) :
    ∃ rs, t.calls = s.calls ++ rs ∧ (∀ c ∈ rs, c.kind = ⟨.upstreamPeer, .onRoute⟩) ∧ rs ≠ [] := by
  rcases upstreamPeer_cases env hooks s with
      ⟨t', rs, code, context, hrun, -⟩ | ⟨t', rs, c, result, hrun, -, hcalls, hunrouted, hkind, -⟩
  · rw [hrun] at h
    cases h
  · rw [hrun] at h
    cases h
    refine ⟨rs ++ [c], hcalls, ?_, by simp⟩
    intro d hd
    rcases List.mem_append.mp hd with hd | hd
    · exact (hunrouted d hd).1
    · rw [List.mem_singleton.mp hd, hkind]

theorem upstreamRequestFilter_calls {env : HttpEnv} {hooks : PluginProxyHooks W} {s t : HttpState W}
    {req header : RequestHeader} (h : upstreamRequestFilter env hooks s req = (.ok (), header, t)) :
    ∃ us, t.calls = s.calls ++ us ∧
      ((∀ m ∈ hooks.httpModules, m.onRequestHeaders = none) → us = []) := by
  rcases upstreamRequestFilter_cases env hooks s req with
      ⟨-, hrun⟩ | ⟨req', t', us, hset, hrun, hcalls, -⟩ | ⟨req', t', us, r, hset, hrun, hcalls, -⟩
  · rw [hrun] at h
    cases h
  all_goals
    rw [hrun] at h
    obtain ⟨-, hrest⟩ := Prod.mk.inj h
    cases hrest
    refine ⟨us, hcalls, ?_⟩
    intro hnone
    rw [upstreamRequestFilter_of_next hset (answerLoop_of_none _ hnone s)] at hrun
    obtain ⟨-, hrest⟩ := Prod.mk.inj hrun
    cases hrest
    exact List.append_right_eq_self.mp hcalls.symm

/-- The calls up to the moment the request is sent: headers callbacks, then routing callbacks, then
headers callbacks again. -/
theorem requestHead_calls {env : HttpEnv} {hooks : PluginProxyHooks W} {peer : HttpPeer}
    {header : RequestHeader} {s t : HttpState W}
    (h : requestHead env hooks s = (.ready peer header, t)) :
    ∃ hs rs us, t.calls = s.calls ++ (hs ++ rs ++ us) ∧
      Call.modulesAt ⟨.requestFilter, .onRequestHeaders⟩ hs =
        hooks.httpModules.filter (fun m => m.onRequestHeaders.isSome) ∧
      (∀ c ∈ rs, c.kind = ⟨.upstreamPeer, .onRoute⟩) ∧ rs ≠ [] ∧
      ((∀ m ∈ hooks.httpModules, m.onRequestHeaders = none) → hs = [] ∧ us = []) := by
  obtain ⟨s₁, s₂, hfilter, hpeer, hready⟩ := requestHead_ready h
  obtain ⟨hs, hcalls₁, hturns, hhs⟩ := requestFilter_calls hfilter
  obtain ⟨rs, hcalls₂, hroutes, hne⟩ := upstreamPeer_calls hpeer
  obtain ⟨us, hcalls₃, hus⟩ := upstreamRequestFilter_calls hready
  refine ⟨hs, rs, us, ?_, hturns, hroutes, hne, fun hnone => ⟨hhs hnone, hus hnone⟩⟩
  rw [hcalls₃, hcalls₂, hcalls₁, List.append_assoc, List.append_assoc, List.append_assoc]

theorem serveRequest_of_forwarded {env : HttpEnv} {hooks : PluginProxyHooks W} {x : Exchange}
    {session : Session} {w : W} (h : (serveRequest env hooks x session w).forwarded.isSome) :
    ∃ peer header t,
      requestHead env hooks (requestStart env x session w) = (.ready peer header, t) ∧
      (serveRequest env hooks x session w).calls = (relay hooks x t).calls := by
  unfold serveRequest at h ⊢
  cases hhead : requestHead env hooks (requestStart env x session w) with
  | mk head t =>
  rw [hhead] at h
  cases head with
  | answered => cases h
  | failed e => cases h
  | aborted => cases h
  | ready peer header => exact ⟨peer, header, t, rfl, rfl⟩

/-- Without headers callbacks, the routing callbacks come first and then what the exchange with the
upstream calls. -/
theorem phaseOrder_routed_iff {ms : List (PluginHttpModule W)} {x : Exchange}
    {rs bs : List (HttpCall W)} (hroutes : ∀ c ∈ rs, c.kind = ⟨.upstreamPeer, .onRoute⟩)
    (hhooks : bs.map (·.kind.hook) = relayTurns ms x)
    (hnone : ∀ m ∈ ms, m.onRequestHeaders = none) :
    PhaseOrder ms (rs ++ bs) ↔ TrailersLast ms x.responseBody := by
  have hphase : ∀ h ∈ rs.map (·.kind.hook), h.phase = some 0 := by
    intro h hh
    obtain ⟨c, hc, rfl⟩ := List.mem_map.mp hh
    rw [hroutes c hc]
    rfl
  have hordered : InPhaseOrder ((rs ++ bs).map (·.kind.hook)) ↔ TrailersLast ms x.responseBody := by
    rw [List.map_append, hhooks, inPhaseOrder_append_iff hphase fun _ _ _ _ => Nat.zero_le _,
      relayTurns_inPhaseOrder_iff]
  have hcalled : (rs ++ bs).filter (·.kind.hook = .onRequestHeaders) = [] := by
    rw [List.filter_eq_nil_iff]
    intro c hc hhook
    have hhook : c.kind.hook = .onRequestHeaders := of_decide_eq_true hhook
    rcases List.mem_append.mp hc with hc | hc
    · rw [hroutes c hc] at hhook
      cases hhook
    · have hmem : c.kind.hook ∈ relayTurns ms x := by
        rw [← hhooks]
        exact List.mem_map_of_mem hc
      have hle := relayTurns_phase ms x _ hmem 1 (by rw [hhook]; rfl)
      omega
  have hhave : ms.filter (fun m => m.onRequestHeaders.isSome) = [] :=
    List.filter_eq_nil_iff.mpr fun m hm => by simp [hnone m hm]
  constructor
  · exact fun h => hordered.mp h.ordered
  · intro htrailers
    refine ⟨hordered.mpr htrailers, ?_⟩
    rw [hcalled, hhave]
    exact .refl _

/-- A headers callback before a routing callback is out of order. -/
theorem not_phaseOrder_of_headers {ms : List (PluginHttpModule W)} {hs rs rest : List (HttpCall W)}
    {c d : HttpCall W} (hc : c ∈ hs) (hchook : c.kind.hook = .onRequestHeaders) (hd : d ∈ rs)
    (hdhook : d.kind.hook = .onRoute) : ¬ PhaseOrder ms (hs ++ rs ++ rest) := by
  intro h
  have hordered := h.ordered
  rw [InPhaseOrder, List.append_assoc, List.map_append, List.pairwise_append] at hordered
  have hle := hordered.2.2 c.kind.hook (List.mem_map_of_mem hc) d.kind.hook
    (List.mem_map_of_mem (List.mem_append_left rest hd)) 1 (by rw [hchook]; rfl) 0
    (by rw [hdhook]; rfl)
  omega

/-- **Phase order.** A forwarded request goes through the phases in order, with every headers
callback called once, exactly if no module has a headers callback and no trailers callback comes
before a body callback. -/
theorem phaseOrder_iff {env : HttpEnv} {hooks : PluginProxyHooks W} {x : Exchange}
    {session : Session} {w : W} (h : (serveRequest env hooks x session w).forwarded.isSome) :
    PhaseOrder hooks.httpModules (serveRequest env hooks x session w).calls ↔
      (∀ m ∈ hooks.httpModules, m.onRequestHeaders = none) ∧
        TrailersLast hooks.httpModules x.responseBody := by
  obtain ⟨peer, header, t, hhead, hcalls⟩ := serveRequest_of_forwarded h
  obtain ⟨hs, rs, us, hbefore, hturns, hroutes, hne, hnil⟩ := requestHead_calls hhead
  obtain ⟨bs, hbs, hhooks⟩ := relay_hooked hooks x t
  rw [requestStart_calls, List.nil_append] at hbefore
  rw [hcalls, hbs, hbefore]
  by_cases hnone : ∀ m ∈ hooks.httpModules, m.onRequestHeaders = none
  · obtain ⟨rfl, rfl⟩ := hnil hnone
    rw [List.nil_append, List.append_nil, phaseOrder_routed_iff hroutes hhooks hnone]
    exact (and_iff_right hnone).symm
  · refine iff_of_false ?_ fun hiff => hnone hiff.1
    push Not at hnone
    obtain ⟨m, hm, hcb⟩ := hnone
    have hmem : m ∈ Call.modulesAt ⟨.requestFilter, .onRequestHeaders⟩ hs := by
      rw [hturns]
      exact List.mem_filter.mpr ⟨hm, Option.isSome_iff_ne_none.mpr hcb⟩
    obtain ⟨c, hc, hckind⟩ := Call.exists_of_mem_modulesAt hmem
    obtain ⟨d, hd⟩ := List.exists_mem_of_ne_nil rs hne
    rw [List.append_assoc]
    exact not_phaseOrder_of_headers hc (by rw [hckind]) hd (by rw [hroutes d hd])

/-- A module that looks at the response body and the trailers. -/
def bodyAndTrailers : PluginHttpModule Unit :=
  { PluginHttpModule.default with
    onResponseBody := some fun _ ctx w => (.ok {}, ctx, w)
    onTrailers := some fun _ ctx w => (.ok {}, ctx, w) }

/-- One such module behind the router is called in order. -/
theorem phaseOrder_bodyAndTrailers : PhaseOrder [Plain.router, bodyAndTrailers]
    (Plain.serve [Plain.router, bodyAndTrailers]).calls := by
  refine (@phaseOrder_iff Unit Plain.env ⟨[Plain.router, bodyAndTrailers], [], []⟩ Plain.exchange
    Plain.session () rfl).mpr ⟨?_, ?_, ?_⟩
  · intro m hm
    rcases List.mem_pair.mp hm with rfl | rfl <;> rfl
  · intro chunk _
    exact List.pairwise_pair.mpr fun _ => .inl rfl
  · exact List.pairwise_singleton _ _

/-- A module that looks at the request. -/
def requestObserver : PluginHttpModule Unit :=
  { PluginHttpModule.default with
    onRequestHeaders := some fun _ ctx w => (.ok {}, ctx, w)
    onRequestBody := some fun _ ctx w => (.ok {}, ctx, w) }

/-- A request that is forwarded has its headers callback called before it is routed, and again
afterwards; and with two modules, a trailers callback is called before a body callback. -/
theorem phases_out_of_order :
    ((Plain.serve [Plain.router, requestObserver]).forwarded.isSome ∧
      ¬ PhaseOrder [Plain.router, requestObserver]
        (Plain.serve [Plain.router, requestObserver]).calls) ∧
    (Plain.serve [Plain.router, bodyAndTrailers, bodyAndTrailers]).forwarded.isSome ∧
      ¬ PhaseOrder [Plain.router, bodyAndTrailers, bodyAndTrailers]
        (Plain.serve [Plain.router, bodyAndTrailers, bodyAndTrailers]).calls := by
  refine ⟨⟨rfl, ?_⟩, rfl, ?_⟩
  · intro h
    exact absurd h.ordered (by decide)
  · intro h
    exact absurd h.ordered (by decide)

end Vakil
