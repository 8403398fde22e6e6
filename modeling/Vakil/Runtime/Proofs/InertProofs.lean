import Vakil.Runtime.Proofs.RequestProofs

/-!
# Proofs: inserting a module that does nothing

Two runs of the filters of a request are compared, without and with an inert module somewhere in the
chain. `Agree` relates their states: the same session, context and plugin state, and the same calls up
to calls of the inert module. Every loop keeps it, except that the local reply loop stops at the first
module with a callback if the context holds a response already. In `request_filter` it cannot; in
`upstream_request_filter` a routing callback may have put one there.
-/

namespace Vakil

open ForLoop Step

variable {W : Type}

/-- A module none of whose callbacks does anything. -/
def Inert (m : PluginHttpModule W) : Prop :=
  ∀ hook cb, m.callback hook = some cb → ∀ ctx w, cb m.inst ctx w = (.ok {}, ctx, w)

/-- The second list of calls is the first with calls of `m` inserted. -/
inductive WithInert (m : PluginHttpModule W) : List (HttpCall W) → List (HttpCall W) → Prop where
  | nil : WithInert m [] []
  | both {l l' : List (HttpCall W)} (c : HttpCall W) (h : WithInert m l l') :
      WithInert m (c :: l) (c :: l')
  | extra {l l' : List (HttpCall W)} {c : HttpCall W} (hc : c.module = m) (h : WithInert m l l') :
      WithInert m l (c :: l')

namespace WithInert

variable {m : PluginHttpModule W} {l l' k k' : List (HttpCall W)}

theorem refl (l : List (HttpCall W)) : WithInert m l l := by
  induction l with
  | nil => exact nil
  | cons c l ih => exact both c ih

theorem append (h : WithInert m l l') (h' : WithInert m k k') : WithInert m (l ++ k) (l' ++ k') := by
  induction h with
  | nil => exact h'
  | both c _ ih => exact both c ih
  | extra hc _ ih => exact extra hc ih

theorem filter_eq (h : WithInert m l l') {p : HttpCall W → Bool}
    (hp : ∀ c, c.module = m → p c = false) : l.filter p = l'.filter p := by
  induction h with
  | nil => rfl
  | both c _ ih => rw [List.filter_cons, List.filter_cons, ih]
  | extra hc _ ih => rw [ih, List.filter_cons_of_neg (by simp [hp _ hc])]

end WithInert

/-- The states of two runs that differ by calls of `m` only. -/
structure Agree (m : PluginHttpModule W) (s t : HttpState W) : Prop where
  session : t.session = s.session
  ctx : t.ctx = s.ctx
  world : t.world = s.world
  calls : WithInert m s.calls t.calls

namespace Agree

variable {m : PluginHttpModule W} {s t : HttpState W}

theorem refl (s : HttpState W) : Agree m s s := ⟨rfl, rfl, rfl, .refl _⟩

theorem callOf (h : Agree m s t) (site : HttpSite) (m' : PluginHttpModule W) (cb : HttpHookFn W) :
    t.callOf site m' cb = s.callOf site m' cb := by
  simp only [HttpState.callOf, h.ctx, h.world]

theorem invoke (h : Agree m s t) (site : HttpSite) (m' : PluginHttpModule W) (cb : HttpHookFn W) :
    Agree m (s.invoke site m' cb).2 (t.invoke site m' cb).2 where
  session := h.session
  ctx := by simp only [HttpState.invoke_ctx, h.ctx, h.world]
  world := by simp only [HttpState.invoke_world, h.ctx, h.world]
  calls := by
    rw [HttpState.invoke_calls, HttpState.invoke_calls, h.callOf]
    exact h.calls.append (.refl _)

theorem invokeIgnored (h : Agree m s t) (site : HttpSite) (m' : PluginHttpModule W)
    (cb : Option (HttpHookFn W)) : Agree m (s.invokeIgnored site m' cb) (t.invokeIgnored site m' cb) := by
  cases cb with
  | none => exact h
  | some cb => exact h.invoke site m' cb

theorem invoke_inert (h : Agree m s t) (site : HttpSite) {cb : HttpHookFn W} (hm : Inert m)
    (hcb : m.callback site.hook = some cb) : Agree m s (t.invoke site m cb).2 where
  session := h.session
  ctx := by rw [HttpState.invoke_ctx, hm _ _ hcb, h.ctx]
  world := by rw [HttpState.invoke_world, hm _ _ hcb, h.world]
  calls := by
    rw [HttpState.invoke_calls]
    have := h.calls.append (.extra (c := t.callOf site m cb) rfl .nil)
    rwa [List.append_nil] at this

end Agree

/-! ## Routing -/

theorem routeRound_rel (env : HttpEnv) {m m' : PluginHttpModule W} {s t : HttpState W}
    (h : Agree m s t) : Rel (Agree m) (routeRound env m' s) (routeRound env m' t) := by
  cases hcb : m'.onRoute with
  | none =>
    rw [routeRound_none env hcb, routeRound_none env hcb]
    exact .next h
  | some cb =>
    have hres : (t.invoke ⟨.upstreamPeer, .onRoute⟩ m' cb).1 =
        (s.invoke ⟨.upstreamPeer, .onRoute⟩ m' cb).1 := by
      rw [HttpState.invoke_result, HttpState.invoke_result, h.ctx, h.world]
    have h₁ := h.invoke ⟨.upstreamPeer, .onRoute⟩ m' cb
    simp only [routeRound, hcb, hres]
    generalize (s.invoke ⟨.upstreamPeer, .onRoute⟩ m' cb).1 = result at *
    generalize (s.invoke ⟨.upstreamPeer, .onRoute⟩ m' cb).2 = s₁ at *
    generalize (t.invoke ⟨.upstreamPeer, .onRoute⟩ m' cb).2 = t₁ at *
    rw [h₁.ctx]
    cases s₁.ctx.route with
    | none => exact .next h₁
    | some route =>
      cases (HookResult.outcome result).action with
      | «continue» => exact .next h₁
      | drop => exact .stop _ h₁
      | replace =>
        cases hup : route.upstreamToSet with
        | none => simpa only [hup] using .next h₁
        | some upstream =>
          cases hpath : route.httpPath with
          | none => simpa only [hup, hpath] using .stop _ h₁
          | some path =>
            cases huri : env.uriOfPathAndQuery path with
            | none => simpa only [hup, hpath, huri] using .stop _ h₁
            | some uri =>
              simp only [hup, hpath, huri, h₁.session]
              have h₂ : Agree m { s₁ with session := s₁.session.setUri uri }
                  ⟨s₁.session.setUri uri, s₁.ctx, t₁.plugins⟩ := ⟨rfl, rfl, h₁.world, h₁.calls⟩
              cases HttpPeer.new env upstream.host upstream.port (isPortHttps upstream.port)
                  upstream.host with
              | none => exact .stop _ h₂
              | some peer => exact .stop _ h₂

/-- The inert module makes no routing decision. -/
theorem routeRound_inert (env : HttpEnv) {m : PluginHttpModule W} (hm : Inert m)
    {s t : HttpState W} (h : Agree m s t) : ∃ t', routeRound env m t = .next t' ∧ Agree m s t' := by
  cases hcb : m.onRoute with
  | none => exact ⟨t, routeRound_none env hcb t, h⟩
  | some cb =>
    refine ⟨_, ?_, h.invoke_inert ⟨.upstreamPeer, .onRoute⟩ hm hcb⟩
    simp only [routeRound, hcb, HttpState.invoke_result, hm .onRoute cb hcb, HookResult.outcome_ok]
    cases (t.invoke ⟨.upstreamPeer, .onRoute⟩ m cb).2.ctx.route <;> rfl

/-! ## The local reply loop -/

theorem settle_agree (filter : HttpFilter) {m : PluginHttpModule W} (m' : PluginHttpModule W)
    (cb : HttpHookFn W) {s t : HttpState W} (h : Agree m s t) :
    Agree m (settle filter m' cb s) (settle filter m' cb t) := by
  have h₁ := h.invoke ⟨filter, .onRequestHeaders⟩ m' cb
  simp only [settle, h.callOf]
  split
  · exact h₁.invokeIgnored _ _ _
  · exact h₁

theorem answerRound_rel {filter : HttpFilter} {m m' : PluginHttpModule W} {s t : HttpState W}
    (h : Agree m s t) :
    Rel (Agree m) (answerRound filter m' s) (answerRound filter m' t) := by
  cases hcb : m'.onRequestHeaders with
  | none =>
    rw [answerRound_none hcb, answerRound_none hcb]
    exact .next h
  | some cb =>
    have h₁ := settle_agree filter m' cb h
    rw [answerRound_some hcb, answerRound_some hcb, h₁.ctx]
    cases (settle filter m' cb s).ctx.response with
    | none => exact .next h₁
    | some r => exact .stop _ h₁

/-- A round of the inert module itself. -/
theorem settle_inert (filter : HttpFilter) {m : PluginHttpModule W} (hm : Inert m)
    {cb : HttpHookFn W} (hcb : m.onRequestHeaders = some cb) {s t : HttpState W} (h : Agree m s t) :
    Agree m s (settle filter m cb t) := by
  have h₁ := h.invoke_inert ⟨filter, .onRequestHeaders⟩ hm hcb
  simp only [settle]
  split
  · cases hreply : m.onLocalReply with
    | none => exact h₁
    | some replyCb => exact h₁.invoke_inert ⟨filter, .onLocalReply⟩ hm hreply
  · exact h₁

/-- In a context without a response the inert module gives none either. -/
theorem answerRound_inert {filter : HttpFilter} {m : PluginHttpModule W} (hm : Inert m)
    {s t : HttpState W} (hnone : s.ctx.response = none) (h : Agree m s t) :
    ∃ t', answerRound filter m t = .next t' ∧ Agree m s t' := by
  cases hcb : m.onRequestHeaders with
  | none => exact ⟨t, answerRound_none hcb, h⟩
  | some cb =>
    have h' := settle_inert filter hm hcb h
    exact ⟨_, by rw [answerRound_some hcb, h'.ctx, hnone], h'⟩

/-- In a context with a response the loop stops at the inert module. -/
theorem answerRound_inert_stop {filter : HttpFilter} {m : PluginHttpModule W} (hm : Inert m)
    {cb : HttpHookFn W} (hcb : m.onRequestHeaders = some cb) {r : HttpResponse} {s : HttpState W}
    (hr : s.ctx.response = some r) :
    answerRound filter m s = .stop (r.status, r.body) (settle filter m cb s) := by
  rw [answerRound_some hcb, (settle_inert filter hm hcb (.refl s)).ctx, hr]

/-- Past a module with the callback, or without a response to begin with, the context holds none. -/
theorem answerLoop_next_response {filter : HttpFilter} {ms : List (PluginHttpModule W)}
    {s s' : HttpState W} (h : forEach (answerRound filter) ms s = .next s')
    (hs : s.ctx.response = none ∨ ∃ m ∈ ms, m.onRequestHeaders.isSome) :
    s'.ctx.response = none := by
  induction ms generalizing s with
  | nil =>
    cases h
    exact hs.resolve_right (by simp)
  | cons m ms ih =>
    cases hcb : m.onRequestHeaders with
    | none =>
      rw [forEach_cons_next (answerRound_none hcb)] at h
      refine ih h (hs.imp_right ?_)
      rintro ⟨m', hm', hsome⟩
      rcases List.mem_cons.1 hm' with rfl | hm'
      · simp [hcb] at hsome
      · exact ⟨m', hm', hsome⟩
    | some cb =>
      have hround := @answerRound_some W filter _ cb s hcb
      cases hr : (settle filter m cb s).ctx.response with
      | none =>
        rw [hr] at hround
        rw [forEach_cons_next hround] at h
        exact ih h (.inl hr)
      | some r =>
        rw [hr] at hround
        rw [forEach_cons_stop hround] at h
        cases h

/-! ## The filters -/

section Filters

variable (env : HttpEnv) {m : PluginHttpModule W} {hooks hooks' : PluginProxyHooks W}
  {pre post : List (PluginHttpModule W)}

theorem rewriteUri_agree {s t : HttpState W} (h : Agree m s t) :
    (rewriteUri env s = none ∧ rewriteUri env t = none) ∨
      ∃ s' t', rewriteUri env s = some s' ∧ rewriteUri env t = some t' ∧ Agree m s' t' := by
  unfold rewriteUri
  rw [h.ctx, h.session]
  cases s.ctx.route.bind (·.httpPath) with
  | none => exact .inr ⟨s, t, rfl, rfl, h⟩
  | some path =>
    dsimp only
    generalize env.uriOfPathAndQuery _ = uri
    cases uri with
    | none => exact .inl ⟨rfl, rfl⟩
    | some uri =>
      exact .inr ⟨_, _, rfl, rfl, rfl, rfl, h.world, h.calls⟩

theorem Agree.write {s t : HttpState W} (h : Agree m s t) (reply : Reply) :
    Agree m { s with session := s.session.write reply }
      { t with session := t.session.write reply } := by
  rw [h.session]
  exact ⟨rfl, h.ctx, h.world, h.calls⟩

/-- Without a response to begin with, `request_filter` does not notice the inert module. -/
theorem requestFilter_agree (hooks hooks' : PluginProxyHooks W) (hm : Inert m)
    (hms : hooks.httpModules = pre ++ post) (hms' : hooks'.httpModules = pre ++ m :: post)
    {s t : HttpState W} (hnone : s.ctx.response = none) (h : Agree m s t) :
    (requestFilter env hooks' t).1 = (requestFilter env hooks s).1 ∧
      Agree m (requestFilter env hooks s).2 (requestFilter env hooks' t).2 := by
  rcases rewriteUri_agree env h with ⟨hs, ht⟩ | ⟨s', t', hs, ht, h'⟩
  · rw [requestFilter, requestFilter, hs, ht]
    exact ⟨rfl, h⟩
  · have hnone' : s'.ctx.response = none := by rw [(rewriteUri_spec hs).1, hnone]
    have hrel : Rel (Agree m) (forEach (answerRound .requestFilter) hooks.httpModules s')
        (forEach (answerRound .requestFilter) hooks'.httpModules t') := by
      rw [hms, hms']
      exact forEach_insert_rel (fun _ _ _ _ => answerRound_rel) (fun s₁ t₁ hs₁ h₁ =>
        answerRound_inert hm (answerLoop_next_response hs₁ (.inl hnone')) h₁) h'
    rcases hrel.elim with ⟨s₁, t₁, hs₁, ht₁, h₁⟩ | ⟨⟨status, body⟩, s₁, t₁, hs₁, ht₁, h₁⟩
    · rw [requestFilter_of_next hs hs₁, requestFilter_of_next ht ht₁]
      exact ⟨rfl, h₁⟩
    · rw [requestFilter_of_stop hs hs₁, requestFilter_of_stop ht ht₁]
      exact ⟨by rw [h₁.session], h₁.write _⟩

theorem upstreamPeer_agree (hooks hooks' : PluginProxyHooks W) (hm : Inert m)
    (hms : hooks.httpModules = pre ++ post) (hms' : hooks'.httpModules = pre ++ m :: post)
    {s t : HttpState W} (h : Agree m s t) :
    (upstreamPeer env hooks' t).1 = (upstreamPeer env hooks s).1 ∧
      Agree m (upstreamPeer env hooks s).2 (upstreamPeer env hooks' t).2 := by
  have hrel : Rel (Agree m) (forEach (routeRound env) hooks.httpModules s)
      (forEach (routeRound env) hooks'.httpModules t) := by
    rw [hms, hms']
    exact forEach_insert_rel (fun _ _ _ _ => routeRound_rel env)
      (fun s₁ t₁ _ h₁ => routeRound_inert env hm h₁) h
  rcases hrel.elim with ⟨s₁, t₁, hs₁, ht₁, h₁⟩ | ⟨result, s₁, t₁, hs₁, ht₁, h₁⟩ <;>
    simp only [upstreamPeer, hs₁, ht₁] <;> exact ⟨trivial, h₁⟩

theorem setHostHeader_agree {s t : HttpState W} (h : Agree m s t) (req : RequestHeader) :
    setHostHeader env t req = setHostHeader env s req := by
  simp only [setHostHeader, h.ctx]

/-- If the two loops end the same way, so does `upstream_request_filter`. -/
theorem upstreamHead_agree (peer : HttpPeer) {s t : HttpState W} (h : Agree m s t)
    (hrel : (setHostHeader env s s.session.reqHeader).isSome →
      Rel (Agree m) (forEach (answerRound .upstreamRequestFilter) hooks.httpModules s)
        (forEach (answerRound .upstreamRequestFilter) hooks'.httpModules t)) :
    (upstreamHead env hooks' peer t).1 = (upstreamHead env hooks peer s).1 ∧
      Agree m (upstreamHead env hooks peer s).2 (upstreamHead env hooks' peer t).2 := by
  have hhost := setHostHeader_agree env h t.session.reqHeader
  rw [h.session] at hhost
  cases hs : setHostHeader env s s.session.reqHeader with
  | none =>
    rw [hs] at hhost
    simp only [upstreamHead, upstreamRequestFilter, h.session, hhost, hs]
    exact ⟨trivial, h⟩
  | some req =>
    rw [hs] at hhost
    rcases (hrel (by rw [hs]; rfl)).elim with ⟨s₁, t₁, hs₁, ht₁, h₁⟩ |
        ⟨⟨status, body⟩, s₁, t₁, hs₁, ht₁, h₁⟩
    · rw [upstreamHead, upstreamHead, upstreamRequestFilter_of_next hs hs₁, h.session,
        upstreamRequestFilter_of_next hhost ht₁]
      exact ⟨rfl, h₁⟩
    · rw [upstreamHead, upstreamHead, upstreamRequestFilter_of_stop hs hs₁, h.session,
        upstreamRequestFilter_of_stop hhost ht₁, h₁.session]
      have hw := h₁.write (.localReply status [] body)
      rw [h₁.session] at hw
      cases s₁.session.isOpen <;> exact ⟨rfl, hw⟩

/-! ## The local reply loop of `upstream_request_filter` -/

/-- Where the loop does not notice the inert module: the context holds no response, or the module has
no headers callback, or one before it has, or it is itself the first one with it behind. -/
def LoopNeutral (m : PluginHttpModule W) (pre post : List (PluginHttpModule W)) (s : HttpState W) :
    Prop :=
  s.ctx.response = none ∨ m.onRequestHeaders = none ∨ (∃ m' ∈ pre, m'.onRequestHeaders.isSome) ∨
    post.find? (·.onRequestHeaders.isSome) = some m

theorem answerLoop_rel_of_neutral {filter : HttpFilter} (hm : Inert m) {s t : HttpState W}
    (h : Agree m s t) (hneutral : LoopNeutral m pre post s) :
    Rel (Agree m) (forEach (answerRound filter) (pre ++ post) s)
      (forEach (answerRound filter) (pre ++ m :: post) t) := by
  by_cases hearly : s.ctx.response = none ∨ ∃ m' ∈ pre, m'.onRequestHeaders.isSome
  · exact forEach_insert_rel (fun _ _ _ _ => answerRound_rel) (fun s₁ t₁ hs₁ h₁ =>
      answerRound_inert hm (answerLoop_next_response hs₁ hearly) h₁) h
  · obtain ⟨hresp, hpre⟩ := not_or.1 hearly
    rcases hneutral with hn | hn | hn | hn
    · exact absurd hn hresp
    · exact forEach_insert_rel (fun _ _ _ _ => answerRound_rel)
        (fun s₁ t₁ _ h₁ => ⟨t₁, answerRound_none hn, h₁⟩) h
    · exact absurd hn hpre
    · -- both loops stop at the inert module
      obtain ⟨hsome, l₁, l₂, rfl, hl₁⟩ := List.find?_eq_some_iff_append.1 hn
      obtain ⟨cb, hcb⟩ := Option.isSome_iff_exists.1 hsome
      obtain ⟨r, hr⟩ := Option.ne_none_iff_exists'.1 hresp
      have hskip : ∀ m' ∈ pre ++ l₁, m'.onRequestHeaders = none := by
        intro m' hm'
        rcases List.mem_append.1 hm' with h | h
        · exact Option.not_isSome_iff_eq_none.1 fun h' => hpre ⟨m', h, h'⟩
        · simpa using hl₁ m' h
      rw [← List.append_assoc, answerLoop_skip _ hskip,
        answerLoop_skip _ fun m' h => hskip m' (List.mem_append_left _ h),
        forEach_cons_stop (answerRound_inert_stop hm hcb hr),
        forEach_cons_stop (answerRound_inert_stop hm hcb (by rw [h.ctx, hr]))]
      exact .stop _ (settle_agree filter m cb h)

theorem upstreamHead_calls (peer : HttpPeer) {s : HttpState W}
    (hhost : (setHostHeader env s s.session.reqHeader).isSome) :
    (upstreamHead env hooks peer s).2.calls =
      (forEach (answerRound .upstreamRequestFilter) hooks.httpModules s).state.calls := by
  obtain ⟨req, hreq⟩ := Option.isSome_iff_exists.1 hhost
  cases hloop : forEach (answerRound .upstreamRequestFilter) hooks.httpModules s with
  | next t => rw [upstreamHead, upstreamRequestFilter_of_next hreq hloop]; rfl
  | stop reply t =>
    rw [upstreamHead, upstreamRequestFilter_of_stop hreq hloop]
    cases t.session.isOpen <;> rfl

/-- A loop calls the first module with a headers callback. -/
theorem answerLoop_calls_first (filter : HttpFilter) {ms : List (PluginHttpModule W)}
    {m' : PluginHttpModule W} (hfind : ms.find? (·.onRequestHeaders.isSome) = some m')
    (s : HttpState W) : ∃ c tail, c.module = m' ∧
      (forEach (answerRound filter) ms s).state.calls = s.calls ++ c :: tail := by
  obtain ⟨hsome, l₁, l₂, rfl, hl₁⟩ := List.find?_eq_some_iff_append.1 hfind
  obtain ⟨cb, hcb⟩ := Option.isSome_iff_exists.1 hsome
  rw [answerLoop_skip _ fun m' h => by simpa using hl₁ m' h]
  obtain ⟨tail, hcalls, -⟩ := settle_calls filter m' cb s
  have hround := @answerRound_some W filter _ cb s hcb
  cases hr : (settle filter m' cb s).ctx.response with
  | none =>
    rw [hr] at hround
    rw [forEach_cons_next hround]
    have htracks : Tracks (settle filter m' cb s)
        (forEach (answerRound filter) l₂ (settle filter m' cb s)).state :=
      forEach_state (fun _ _ _ h => h.trans answerRound_tracks) (.refl _)
    obtain ⟨new, hnew, -⟩ := htracks
    exact ⟨s.callOf ⟨filter, .onRequestHeaders⟩ m' cb, tail ++ new, rfl, by rw [hnew, hcalls]; simp⟩
  | some r =>
    rw [hr] at hround
    rw [forEach_cons_stop hround]
    exact ⟨_, tail, rfl, hcalls⟩

/-- A reply that only the run with the inert module gives shows. -/
theorem upstreamHead_differs_of_next (peer : HttpPeer) {s t t' : HttpState W} {status : UInt16}
    {body : Bytes} (h' : Agree m s t') (hhost : (setHostHeader env s s.session.reqHeader).isSome)
    (hhost' : (setHostHeader env t t.session.reqHeader).isSome)
    (hloop : forEach (answerRound .upstreamRequestFilter) hooks.httpModules s = .next s)
    (hloop' : forEach (answerRound .upstreamRequestFilter) hooks'.httpModules t =
      .stop (status, body) t') :
    ¬ ((upstreamHead env hooks' peer t).1 = (upstreamHead env hooks peer s).1 ∧
      Agree m (upstreamHead env hooks peer s).2 (upstreamHead env hooks' peer t).2) := by
  rintro ⟨hhead, hagree⟩
  obtain ⟨req, hreq⟩ := Option.isSome_iff_exists.1 hhost
  obtain ⟨req', hreq'⟩ := Option.isSome_iff_exists.1 hhost'
  rw [upstreamHead, upstreamHead, upstreamRequestFilter_of_next hreq hloop,
    upstreamRequestFilter_of_stop hreq' hloop'] at hhead hagree
  rw [h'.session] at hhead hagree
  cases hopen : s.session.isOpen with
  | false =>
    -- the reply cannot be written, which is an error
    rw [hopen] at hhead
    cases hhead
  | true =>
    rw [hopen] at hagree
    have hreplies := congrArg Session.replies hagree.session
    simp [Session.write_replies, hopen] at hreplies

/-- A call of another module that only the run without the inert module makes shows. -/
theorem upstreamHead_differs_of_first (peer : HttpPeer) {s t t' : HttpState W}
    {reply : UInt16 × Bytes} {m' : PluginHttpModule W} (h' : Agree m s t')
    (hhost : (setHostHeader env s s.session.reqHeader).isSome)
    (hhost' : (setHostHeader env t t.session.reqHeader).isSome) (hne : m' ≠ m)
    (hfind : hooks.httpModules.find? (·.onRequestHeaders.isSome) = some m')
    (hloop' : forEach (answerRound .upstreamRequestFilter) hooks'.httpModules t = .stop reply t') :
    ¬ Agree m (upstreamHead env hooks peer s).2 (upstreamHead env hooks' peer t).2 := by
  intro hagree
  obtain ⟨c, tail, hc, hcalls⟩ := answerLoop_calls_first .upstreamRequestFilter hfind s
  classical
  have hp : ∀ d : HttpCall W, d.module = m → decide (d.module ≠ m) = false := by simp
  have hfilter := hagree.calls.filter_eq hp
  rw [upstreamHead_calls env peer hhost, upstreamHead_calls env peer hhost', hloop', hcalls,
    state_stop, ← h'.calls.filter_eq hp] at hfilter
  have hlength := congrArg List.length hfilter
  simp [hc, hne] at hlength

/-- Where the loop notices the inert module, the two runs differ. -/
theorem upstreamHead_differs (hm : Inert m) (hms : hooks.httpModules = pre ++ post)
    (hms' : hooks'.httpModules = pre ++ m :: post) (peer : HttpPeer) {s t : HttpState W}
    (h : Agree m s t) (hhost : (setHostHeader env s s.session.reqHeader).isSome)
    (hnot : ¬ LoopNeutral m pre post s) :
    ¬ ((upstreamHead env hooks' peer t).1 = (upstreamHead env hooks peer s).1 ∧
      Agree m (upstreamHead env hooks peer s).2 (upstreamHead env hooks' peer t).2) := by
  simp only [LoopNeutral, not_or] at hnot
  obtain ⟨hresp, hmcb, hpre, hfind⟩ := hnot
  obtain ⟨r, hr⟩ := Option.ne_none_iff_exists'.1 hresp
  obtain ⟨cb, hcb⟩ := Option.ne_none_iff_exists'.1 hmcb
  have hskip : ∀ m' ∈ pre, m'.onRequestHeaders = none := by
    intro m' hmem
    by_contra hsome
    exact hpre ⟨m', hmem, Option.isSome_iff_ne_none.2 hsome⟩
  set t' := settle .upstreamRequestFilter m cb t with ht'
  have h' : Agree m s t' := settle_inert .upstreamRequestFilter hm hcb h
  have hloop' : forEach (answerRound .upstreamRequestFilter) hooks'.httpModules t =
      .stop (r.status, r.body) t' := by
    rw [hms', answerLoop_skip _ hskip,
      forEach_cons_stop (answerRound_inert_stop hm hcb (by rw [h.ctx, hr]))]
  have hhost' : (setHostHeader env t t.session.reqHeader).isSome := by
    rwa [setHostHeader_agree env h, h.session]
  cases hfirst : post.find? (·.onRequestHeaders.isSome) with
  | none =>
    -- without the module nothing is called, so nothing is replied
    have hnone : ∀ m' ∈ pre ++ post, m'.onRequestHeaders = none := by
      intro m' hmem
      rcases List.mem_append.1 hmem with h | h
      · exact hskip m' h
      · simpa using List.find?_eq_none.1 hfirst m' h
    have hloop : forEach (answerRound .upstreamRequestFilter) hooks.httpModules s = .next s := by
      have := answerLoop_skip .upstreamRequestFilter hnone [] s
      rwa [List.append_nil, ← hms] at this
    exact upstreamHead_differs_of_next env peer h' hhost hhost' hloop hloop'
  | some m' =>
    -- without the module the first one behind it is called
    have hne : m' ≠ m := by
      intro heq
      exact hfind (by rw [hfirst, heq])
    have hprenone : pre.find? (·.onRequestHeaders.isSome) = none := by
      rw [List.find?_eq_none]
      intro d hd
      simp [hskip d hd]
    have hfind' : hooks.httpModules.find? (·.onRequestHeaders.isSome) = some m' := by
      rw [hms, List.find?_append, hprenone, hfirst]
      rfl
    rintro ⟨-, hagree⟩
    exact upstreamHead_differs_of_first env peer h' hhost hhost' hne hfind' hloop' hagree

end Filters

/-- **Neutrality of an inert module.** Without and with it, the filters of a request end the same way
in the same session, context and plugin state, having made the same calls of other modules, exactly if
the local reply loop of `upstream_request_filter`, when it is reached, does not notice it. -/
theorem requestHead_insert_inert_iff (env : HttpEnv) {m : PluginHttpModule W} (hm : Inert m)
    (pre post : List (PluginHttpModule W)) (tcp : List (PluginTcpModule W))
    (udp : List (PluginUdpModule W)) (x : Exchange) (session : Session) (w : W) :
    ((requestHead env ⟨pre ++ m :: post, tcp, udp⟩ (requestStart env x session w)).1 =
        (requestHead env ⟨pre ++ post, tcp, udp⟩ (requestStart env x session w)).1 ∧
      Agree m (requestHead env ⟨pre ++ post, tcp, udp⟩ (requestStart env x session w)).2
        (requestHead env ⟨pre ++ m :: post, tcp, udp⟩ (requestStart env x session w)).2) ↔
    ∀ s₁ s₂ peer,
      requestFilter env ⟨pre ++ post, tcp, udp⟩ (requestStart env x session w) = (.ok false, s₁) →
      upstreamPeer env ⟨pre ++ post, tcp, udp⟩ s₁ = (.ok peer, s₂) →
      (setHostHeader env s₂ s₂.session.reqHeader).isSome → LoopNeutral m pre post s₂ := by
  set s := requestStart env x session w
  set hooks : PluginProxyHooks W := ⟨pre ++ post, tcp, udp⟩
  set hooks' : PluginProxyHooks W := ⟨pre ++ m :: post, tcp, udp⟩
  obtain ⟨he₁, ha₁⟩ := requestFilter_agree env hooks hooks' hm rfl rfl
    (requestStart_response env x session w) (.refl s)
  simp only [requestHead]
  cases hrf : requestFilter env hooks s with
  | mk o s₁ =>
  cases hrf' : requestFilter env hooks' s with
  | mk o' t₁ =>
  rw [hrf, hrf'] at he₁ ha₁
  obtain rfl : o' = o := he₁
  cases o' with
  | err e => exact iff_of_true ⟨rfl, ha₁⟩ fun _ _ _ h => by cases h
  | panic => exact iff_of_true ⟨rfl, ha₁⟩ fun _ _ _ h => by cases h
  | ok answered =>
    cases answered with
    | true => exact iff_of_true ⟨rfl, ha₁⟩ fun _ _ _ h => by cases h
    | false =>
      obtain ⟨he₂, ha₂⟩ := upstreamPeer_agree env hooks hooks' hm rfl rfl ha₁
      dsimp only
      cases hup : upstreamPeer env hooks s₁ with
      | mk p s₂ =>
      cases hup' : upstreamPeer env hooks' t₁ with
      | mk p' t₂ =>
      rw [hup, hup'] at he₂ ha₂
      obtain rfl : p' = p := he₂
      cases p' with
      | err e =>
        refine iff_of_true ⟨rfl, ha₂⟩ ?_
        intro s₁' s₂' peer h h'
        cases h
        rw [hup] at h'
        cases h'
      | panic =>
        refine iff_of_true ⟨rfl, ha₂⟩ ?_
        intro s₁' s₂' peer h h'
        cases h
        rw [hup] at h'
        cases h'
      | ok peer =>
        constructor
        · intro h s₁' s₂' peer' h₁ h₂ hhost
          cases h₁
          rw [hup] at h₂
          cases h₂
          by_contra hnot
          exact upstreamHead_differs env hm rfl rfl peer ha₂ hhost hnot h
        · intro h
          exact upstreamHead_agree env peer ha₂ fun hhost =>
            answerLoop_rel_of_neutral hm ha₂ (h s₁ s₂ peer rfl hup hhost)

/-- A module with every callback, none of which does anything. -/
def inertModule : PluginHttpModule Unit where
  inst := 0
  priority := 0
  init := defaultInit
  shutdown := defaultShutdown
  onRoute := some fun _ ctx w => (.ok {}, ctx, w)
  onRequestHeaders := some fun _ ctx w => (.ok {}, ctx, w)
  onRequestBody := some fun _ ctx w => (.ok {}, ctx, w)
  onResponseHeaders := some fun _ ctx w => (.ok {}, ctx, w)
  onResponseBody := some fun _ ctx w => (.ok {}, ctx, w)
  onTrailers := some fun _ ctx w => (.ok {}, ctx, w)
  onLocalReply := some fun _ ctx w => (.ok {}, ctx, w)

theorem inertModule_inert : Inert inertModule := by
  intro hook cb hcb ctx w
  cases hook <;> cases hcb <;> rfl

/-- Behind a router that leaves no response in the context, the inert module changes nothing. -/
theorem requestHead_insert_inert_routed :
    (requestHead Plain.env ⟨[Plain.router, inertModule], [], []⟩
        (requestStart Plain.env Plain.exchange Plain.session ())).1 =
      (requestHead Plain.env ⟨[Plain.router], [], []⟩
        (requestStart Plain.env Plain.exchange Plain.session ())).1 :=
  ((requestHead_insert_inert_iff Plain.env inertModule_inert [Plain.router] [] [] [] Plain.exchange
    Plain.session ()).2 fun _ _ _ h h' _ => by cases h; cases h'; exact .inl rfl).1

/-- A module whose routing callback chooses the upstream and puts a response into the context. -/
def cachingRouter : PluginHttpModule Unit :=
  { PluginHttpModule.default with
    onRoute := some fun inst ctx w =>
      Plain.onRoute inst { ctx with response := some Plain.response } w }

/-- Behind a router that leaves a response in the context, the inert module makes the host write it
to the client before the request is sent upstream. -/
theorem inertModule_not_neutral : Inert inertModule ∧
    ¬ ((requestHead Plain.env ⟨[cachingRouter] ++ inertModule :: [], [], []⟩
          (requestStart Plain.env Plain.exchange Plain.session ())).1 =
        (requestHead Plain.env ⟨[cachingRouter] ++ [], [], []⟩
          (requestStart Plain.env Plain.exchange Plain.session ())).1 ∧
      Agree inertModule
        (requestHead Plain.env ⟨[cachingRouter] ++ [], [], []⟩
          (requestStart Plain.env Plain.exchange Plain.session ())).2
        (requestHead Plain.env ⟨[cachingRouter] ++ inertModule :: [], [], []⟩
          (requestStart Plain.env Plain.exchange Plain.session ())).2) := by
  refine ⟨inertModule_inert, ?_⟩
  intro h
  exact absurd (congrArg Session.replies h.2.session) (by decide)

end Vakil
