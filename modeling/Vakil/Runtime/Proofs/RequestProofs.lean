import Vakil.Runtime.Proofs.DispatchProofs

/-!
# Proofs: the shape of a request

`serveRequest_shape` lists everything a whole request can do: which calls it records, in which
blocks, what was sent upstream and what was replied. The properties of requests are read off it.
-/

namespace Vakil

open ForLoop

variable {W : Type}

/-! ## The filters that ignore their callbacks' results -/

/-- From `s` to `t` only calls that satisfy `P` were made, and the session was not touched. -/
def Extends (P : HttpCall W → Prop) (s t : HttpState W) : Prop :=
  t.session = s.session ∧ ∃ new, t.calls = s.calls ++ new ∧ ∀ c ∈ new, P c

namespace Extends

variable {P : HttpCall W → Prop} {s t u : HttpState W}

theorem refl (s : HttpState W) : Extends P s s := ⟨rfl, Grows.refl s.plugins⟩

theorem trans (h : Extends P s t) (h' : Extends P t u) : Extends P s u :=
  ⟨h'.1.trans h.1, Grows.trans h.2 h'.2⟩

theorem foldl {β : Type} {f : HttpState W → β → HttpState W} (h : ∀ s b, Extends P s (f s b))
    (l : List β) (s : HttpState W) : Extends P s (l.foldl f s) := by
  refine List.foldlRecOn l f (refl s) ?_
  intro t ht b _
  exact ht.trans (h t b)

theorem invokeIgnored {site : HttpSite} {m : PluginHttpModule W} {cb : Option (HttpHookFn W)}
    (h : ∀ c : HttpCall W, c.kind = site → P c) : Extends P s (s.invokeIgnored site m cb) := by
  refine ⟨by simp, _, s.invokeIgnored_calls site m cb, ?_⟩
  intro c hc
  cases cb with
  | none => simp at hc
  | some cb =>
    rw [Option.map_some, Option.toList_some, List.mem_singleton] at hc
    exact h c (by rw [hc]; rfl)

theorem setCtx (ctx : HttpContext) : Extends P s { s with ctx } :=
  ⟨rfl, [], by simp [HttpState.calls], by simp⟩

end Extends

/-- The calls made while a request is exchanged with its upstream. -/
def Relayed (c : HttpCall W) : Prop :=
  c.kind.filter = .requestBodyFilter ∨ c.kind.filter = .responseFilter ∨
    c.kind.filter = .responseBodyFilter

theorem requestBodyFilter_extends (hooks : PluginProxyHooks W) (body : Option Bytes)
    (s : HttpState W) : Extends Relayed s (requestBodyFilter hooks body s).2.2 :=
  (Extends.setCtx _).trans (Extends.foldl (fun _ _ => .invokeIgnored fun c hc => by
    rw [Relayed, hc]; exact .inl rfl) _ _)

theorem responseFilter_extends (hooks : PluginProxyHooks W) (header : ResponseHeader)
    (s : HttpState W) : Extends Relayed s (responseFilter hooks header s).2.2 :=
  Extends.foldl (fun _ _ => .invokeIgnored fun c hc => by
    rw [Relayed, hc]; exact .inr (.inl rfl)) _ _

theorem responseBodyFilter_extends (hooks : PluginProxyHooks W) (body : Option Bytes) (eos : Bool)
    (s : HttpState W) : Extends Relayed s (responseBodyFilter hooks body eos s).2.2 := by
  have hsite : ∀ hook, ∀ c : HttpCall W, c.kind = ⟨.responseBodyFilter, hook⟩ → Relayed c :=
    fun hook c hc => by rw [Relayed, hc]; exact .inr (.inr rfl)
  refine (Extends.setCtx _).trans (Extends.foldl ?_ _ _)
  intro t m
  split
  · exact (Extends.invokeIgnored (hsite _)).trans (.invokeIgnored (hsite _))
  · exact .invokeIgnored (hsite _)

theorem relay_spec (hooks : PluginProxyHooks W) (x : Exchange) (s : HttpState W) :
    (relay hooks x s).session = s.session.writeUpstreamResponse ∧
      ∃ new, (relay hooks x s).calls = s.calls ++ new ∧ ∀ c ∈ new, Relayed c := by
  set s₁ := x.requestBody.foldl (fun s chunk => (requestBodyFilter hooks chunk s).2.2) s with hs₁
  set s₂ := (responseFilter hooks x.responseHeader s₁).2.2 with hs₂
  set s₃ : HttpState W := { s₂ with session := s₂.session.writeUpstreamResponse } with hs₃
  have h₁ : Extends Relayed s s₁ :=
    Extends.foldl (fun s chunk => requestBodyFilter_extends hooks chunk s) _ _
  have h₂ : Extends Relayed s s₂ := h₁.trans (responseFilter_extends hooks _ _)
  have h₃ : Extends Relayed s₃ (relay hooks x s) :=
    Extends.foldl (fun s (chunk : Option Bytes × Bool) =>
      responseBodyFilter_extends hooks chunk.1 chunk.2 s) _ _
  obtain ⟨hses₂, new₂, hc₂, hP₂⟩ := h₂
  obtain ⟨hses₃, new₃, hc₃, hP₃⟩ := h₃
  refine ⟨by rw [hses₃, hs₃, hses₂], new₂ ++ new₃, ?_, ?_⟩
  · rw [hc₃, ← List.append_assoc, ← hc₂]
    rfl
  · intro c hc
    rcases List.mem_append.1 hc with hc | hc
    · exact hP₂ c hc
    · exact hP₃ c hc

/-! ## One lemma per filter -/

theorem Session.respondErrorWithBody_eq (session : Session) (status : UInt16) (body : Bytes) :
    session.respondErrorWithBody status body =
      (if session.isOpen then .ok () else .err .writeError,
        session.write (.localReply status [] body)) := by
  unfold respondErrorWithBody
  by_cases h : session.isOpen <;> simp [h, write]

theorem rewriteUri_spec {env : HttpEnv} {s t : HttpState W} (h : rewriteUri env s = some t) :
    t.ctx = s.ctx ∧ t.plugins = s.plugins ∧ t.session.replies = s.session.replies ∧
      t.session.isOpen = s.session.isOpen := by
  unfold rewriteUri at h
  split at h
  · cases h; exact ⟨rfl, rfl, rfl, rfl⟩
  · simp only [Option.map_eq_some_iff] at h
    obtain ⟨uri, -, rfl⟩ := h
    exact ⟨rfl, rfl, rfl, rfl⟩

section Ends

variable {env : HttpEnv} {hooks : PluginProxyHooks W} {s t : HttpState W}

theorem requestFilter_of_next {s' : HttpState W} (hu : rewriteUri env s = some s')
    (hloop : forEach (answerRound .requestFilter) hooks.httpModules s' = .next t) :
    requestFilter env hooks s = (.ok false, t) := by
  simp only [requestFilter, hu, hloop]

theorem requestFilter_of_stop {s' : HttpState W} {status : UInt16} {body : Bytes}
    (hu : rewriteUri env s = some s')
    (hloop : forEach (answerRound .requestFilter) hooks.httpModules s' = .stop (status, body) t) :
    requestFilter env hooks s = (if t.session.isOpen then .ok true else .err .writeError,
      { t with session := t.session.write (.localReply status [] body) }) := by
  simp only [requestFilter, hu, hloop, Session.respondErrorWithBody_eq]
  cases t.session.isOpen <;> rfl

theorem upstreamRequestFilter_of_next {req req' : RequestHeader}
    (hu : setHostHeader env s req = some req')
    (hloop : forEach (answerRound .upstreamRequestFilter) hooks.httpModules s = .next t) :
    upstreamRequestFilter env hooks s req = (.ok (), req', t) := by
  simp only [upstreamRequestFilter, hu, hloop]

theorem upstreamRequestFilter_of_stop {req req' : RequestHeader} {status : UInt16} {body : Bytes}
    (hu : setHostHeader env s req = some req')
    (hloop : forEach (answerRound .upstreamRequestFilter) hooks.httpModules s =
      .stop (status, body) t) :
    upstreamRequestFilter env hooks s req =
      (if t.session.isOpen then .ok () else .err .writeError, req',
        { t with session := t.session.write (.localReply status [] body) }) := by
  simp only [upstreamRequestFilter, hu, hloop, Session.respondErrorWithBody_eq]
  cases t.session.isOpen <;> rfl

end Ends

/-- What `request_filter` can do: panic before it calls anything, let the request pass, or answer
it with the response of the last module called. -/
theorem requestFilter_cases (env : HttpEnv) (hooks : PluginProxyHooks W) (s : HttpState W) :
    (rewriteUri env s = none ∧ requestFilter env hooks s = (.panic, s)) ∨
    (∃ t new, requestFilter env hooks s = (.ok false, t) ∧ t.calls = s.calls ++ new ∧
      Unanswered .requestFilter new ∧ Tracks s t ∧
      Call.modulesAt ⟨.requestFilter, .onRequestHeaders⟩ new =
        hooks.httpModules.filter (fun m => m.onRequestHeaders.isSome) ∧
      t.session.replies = s.session.replies ∧ t.session.isOpen = s.session.isOpen) ∨
    (∃ t new r, requestFilter env hooks s =
        (if s.session.isOpen then .ok true else .err .writeError, t) ∧
      t.calls = s.calls ++ new ∧ AnsweredWith .requestFilter r new ∧ t.ctx.response = some r ∧
      Tracks s t ∧ t.session.replies = s.session.replies ++
        (if s.session.isOpen then [.localReply r.status [] r.body] else [])) := by
  cases hu : rewriteUri env s with
  | none => left; simp [requestFilter, hu]
  | some s₁ =>
    right
    obtain ⟨hctx, hplug, hrep, hopen⟩ := rewriteUri_spec hu
    have hcalls₁ : s₁.calls = s.calls := congrArg PluginState.calls hplug
    have hsat := answerLoop_sat .requestFilter hooks.httpModules s₁
    have hloops : Tracks s₁ (forEach (answerRound .requestFilter) hooks.httpModules s₁).state :=
      forEach_state (fun _ _ _ h => h.trans answerRound_tracks) (.refl s₁)
    have htracks := (Tracks.of_eq hplug hctx).trans hloops
    obtain ⟨consulted, rest, hms, hend, hran, -⟩ :=
      answerLoop_order .requestFilter hooks.httpModules s₁
    cases hloop : forEach (answerRound .requestFilter) hooks.httpModules s₁ with
    | next t =>
      left
      rw [hloop] at hsat htracks hend hran
      obtain ⟨hses, -, new, hcalls, hun⟩ := hsat
      refine ⟨t, new, requestFilter_of_next hu hloop, by rw [hcalls, hcalls₁], hun, htracks, ?_,
        by rw [hses, hrep], by rw [hses, hopen]⟩
      rw [hend rfl, List.append_nil] at hms
      rw [← hms] at hran
      exact hran.modulesAt_new hcalls
    | stop reply t =>
      right
      rw [hloop] at hsat htracks
      obtain ⟨hses, r, hr, hreply, new, hcalls, hans⟩ := hsat
      obtain ⟨status, body⟩ := reply
      obtain ⟨rfl, rfl⟩ := Prod.mk.inj hreply
      refine ⟨{ t with session := t.session.write (.localReply r.status [] r.body) }, new, r, ?_,
        by rw [← hcalls₁, ← hcalls]; rfl, hans, hr, htracks, ?_⟩
      · rw [requestFilter_of_stop hu hloop, hses, hopen]
      · rw [Session.write_replies, hses, hrep, hopen]

/-- What `upstream_peer` can do: fail without having touched the session because no callback picked
an upstream, or end (with a peer or a panic) at the first callback that picks one. -/
theorem upstreamPeer_cases (env : HttpEnv) (hooks : PluginProxyHooks W) (s : HttpState W) :
    (∃ t new code context, upstreamPeer env hooks s = (.err (.httpStatus code context), t) ∧
      t.calls = s.calls ++ new ∧ Unrouted new ∧ Tracks s t ∧
      (∃ rest, hooks.httpModules.filter (fun m => m.onRoute.isSome) =
          Call.modulesAt ⟨.upstreamPeer, .onRoute⟩ new ++ rest ∧
        (rest = [] ∨ ∃ pre c, new = pre ++ [c] ∧
          (HookResult.outcome c.result).action = .drop)) ∧ t.session = s.session) ∨
    (∃ t new c result, upstreamPeer env hooks s = (result, t) ∧
      (result = .panic ∨ ∃ peer, result = .ok peer) ∧ t.calls = s.calls ++ (new ++ [c]) ∧
      Unrouted new ∧ c.kind = ⟨.upstreamPeer, .onRoute⟩ ∧ c.PicksUpstream ∧ t.ctx = c.left ∧
      t.session.replies = s.session.replies ∧ t.session.isOpen = s.session.isOpen) := by
  have hsat := routeLoop_sat env hooks.httpModules s
  have htracks : Tracks s (forEach (routeRound env) hooks.httpModules s).state :=
    forEach_state (fun m _ t h => h.trans (routeRound_tracks env m t)) (.refl s)
  obtain ⟨consulted, rest, hms, hend, hran⟩ := routeLoop_order env hooks.httpModules s
  have hturns : ∀ new, (forEach (routeRound env) hooks.httpModules s).state.calls =
      s.calls ++ new → hooks.httpModules.filter (fun m => m.onRoute.isSome) =
        Call.modulesAt ⟨.upstreamPeer, .onRoute⟩ new ++ rest.filter fun m => m.onRoute.isSome := by
    intro new hnew
    rw [hran.modulesAt_new hnew, ← List.filter_append, ← hms]
  cases hloop : forEach (routeRound env) hooks.httpModules s with
  | next t =>
    left
    rw [hloop] at hsat htracks hend hturns
    obtain ⟨hses, new, hcalls, hun⟩ := hsat
    exact ⟨t, new, 500, "no upstream was selected by plugins".toList,
      by simp only [upstreamPeer, hloop], hcalls, hun, htracks,
      ⟨_, hturns new hcalls, .inl (by rw [hend rfl]; rfl)⟩, hses⟩
  | stop result t =>
    rw [hloop] at hsat htracks hturns
    obtain ⟨hrep, hopen, new, c, hcalls, hun, hkind, hctx, ⟨hres, hno, hdrop, hses⟩ | ⟨hres, hpick⟩⟩
      := hsat
    · left
      refine ⟨t, new ++ [c], 503, "plugin rejected request".toList,
        by simp only [upstreamPeer, hloop, hres], hcalls, hun.append ?_, htracks,
        ⟨_, hturns _ hcalls, .inr ⟨new, c, rfl, hdrop⟩⟩, hses⟩
      intro d hd
      rw [List.mem_singleton.1 hd]
      exact ⟨hkind, hno⟩
    · right
      exact ⟨t, new, c, result, by simp only [upstreamPeer, hloop], hres, hcalls, hun, hkind, hpick,
        hctx, hrep, hopen⟩

/-- What `upstream_request_filter` can do: panic before it calls anything, let the request pass, or
write the response of the last module called and then let the request pass all the same. -/
theorem upstreamRequestFilter_cases (env : HttpEnv) (hooks : PluginProxyHooks W) (s : HttpState W)
    (req : RequestHeader) :
    (setHostHeader env s req = none ∧ upstreamRequestFilter env hooks s req = (.panic, req, s)) ∨
    (∃ req' t new, setHostHeader env s req = some req' ∧
      upstreamRequestFilter env hooks s req = (.ok (), req', t) ∧ t.calls = s.calls ++ new ∧
      Unanswered .upstreamRequestFilter new ∧ t.session = s.session) ∨
    (∃ req' t new r, setHostHeader env s req = some req' ∧ upstreamRequestFilter env hooks s req =
        (if s.session.isOpen then .ok () else .err .writeError, req', t) ∧
      t.calls = s.calls ++ new ∧ AnsweredWith .upstreamRequestFilter r new ∧
      t.session = s.session.write (.localReply r.status [] r.body)) := by
  cases hu : setHostHeader env s req with
  | none => left; simp [upstreamRequestFilter, hu]
  | some req' =>
    right
    have hsat := answerLoop_sat .upstreamRequestFilter hooks.httpModules s
    cases hloop : forEach (answerRound .upstreamRequestFilter) hooks.httpModules s with
    | next t =>
      left
      rw [hloop] at hsat
      obtain ⟨hses, -, new, hcalls, hun⟩ := hsat
      exact ⟨req', t, new, rfl, upstreamRequestFilter_of_next hu hloop, hcalls, hun, hses⟩
    | stop reply t =>
      right
      rw [hloop] at hsat
      obtain ⟨hses, r, hr, hreply, new, hcalls, hans⟩ := hsat
      obtain ⟨status, body⟩ := reply
      obtain ⟨rfl, rfl⟩ := Prod.mk.inj hreply
      refine ⟨req', { t with session := t.session.write (.localReply r.status [] r.body) }, new, r,
        rfl, ?_, hcalls, hans, by rw [hses]⟩
      rw [upstreamRequestFilter_of_stop hu hloop, hses]

/-- A request that passes `request_filter` went through its loop. -/
theorem requestFilter_passes {env : HttpEnv} {hooks : PluginProxyHooks W} {s t : HttpState W}
    (h : requestFilter env hooks s = (.ok false, t)) :
    ∃ s', rewriteUri env s = some s' ∧
      forEach (answerRound .requestFilter) hooks.httpModules s' = .next t := by
  cases hu : rewriteUri env s with
  | none =>
    simp only [requestFilter, hu] at h
    cases h
  | some s' =>
    refine ⟨s', rfl, ?_⟩
    cases hloop : forEach (answerRound .requestFilter) hooks.httpModules s' with
    | next s₁ =>
      rw [requestFilter_of_next hu hloop] at h
      cases h
      rfl
    | stop reply s₁ =>
      rw [requestFilter_of_stop hu hloop] at h
      obtain ⟨hresult, -⟩ := Prod.mk.inj h
      split_ifs at hresult
      cases hresult

theorem upstreamPeer_state (env : HttpEnv) (hooks : PluginProxyHooks W) (s : HttpState W) :
    (upstreamPeer env hooks s).2 = (forEach (routeRound env) hooks.httpModules s).state := by
  unfold upstreamPeer
  cases forEach (routeRound env) hooks.httpModules s <;> rfl

theorem upstreamRequestFilter_ctx {env : HttpEnv} {hooks : PluginProxyHooks W} {s t : HttpState W}
    {req header : RequestHeader} (h : upstreamRequestFilter env hooks s req = (.ok (), header, t)) :
    t.ctx = (forEach (answerRound .upstreamRequestFilter) hooks.httpModules s).state.ctx := by
  cases hu : setHostHeader env s req with
  | none =>
    simp only [upstreamRequestFilter, hu] at h
    cases h
  | some req' =>
    cases hloop : forEach (answerRound .upstreamRequestFilter) hooks.httpModules s with
    | next s₁ =>
      rw [upstreamRequestFilter_of_next hu hloop] at h
      cases h
      rfl
    | stop reply s₁ =>
      rw [upstreamRequestFilter_of_stop hu hloop] at h
      obtain ⟨-, hrest⟩ := Prod.mk.inj h
      cases hrest
      rfl

/-- The header that `upstream_request_filter` hands on is the one with the `Host` it set. -/
theorem upstreamRequestFilter_header {env : HttpEnv} {hooks : PluginProxyHooks W}
    {req header : RequestHeader} {s t : HttpState W}
    (h : upstreamRequestFilter env hooks s req = (.ok (), header, t)) :
    setHostHeader env s req = some header := by
  rcases upstreamRequestFilter_cases env hooks s req with
      ⟨-, hrun⟩ | ⟨req', t', new, hset, hrun, -⟩ | ⟨req', t', new, r, hset, hrun, -⟩
  · rw [hrun] at h
    cases h
  · rw [hrun] at h
    cases h
    exact hset
  · rw [hrun] at h
    obtain ⟨-, hreq⟩ := Prod.mk.inj h
    cases hreq
    exact hset

theorem upstreamHead_ready {env : HttpEnv} {hooks : PluginProxyHooks W} {peer peer' : HttpPeer}
    {header : RequestHeader} {s t : HttpState W}
    (h : upstreamHead env hooks peer s = (.ready peer' header, t)) :
    upstreamRequestFilter env hooks s s.session.reqHeader = (.ok (), header, t) := by
  unfold upstreamHead at h
  split at h
  · next hrun =>
    cases h
    exact hrun
  · cases h
  · cases h

/-- A request that is to be sent went through all three filters. -/
theorem requestHead_ready {env : HttpEnv} {hooks : PluginProxyHooks W} {peer : HttpPeer}
    {header : RequestHeader} {s t : HttpState W}
    (h : requestHead env hooks s = (.ready peer header, t)) :
    ∃ s₁ s₂, requestFilter env hooks s = (.ok false, s₁) ∧
      upstreamPeer env hooks s₁ = (.ok peer, s₂) ∧
      upstreamRequestFilter env hooks s₂ s₂.session.reqHeader = (.ok (), header, t) := by
  unfold requestHead at h
  split at h
  · cases h
  · cases h
  · cases h
  · next s₁ hfilter =>
    split at h
    · next peer' s₂ hpeer =>
      have hready := upstreamHead_ready h
      rw [upstreamHead, hready] at h
      cases h
      exact ⟨s₁, s₂, hfilter, hpeer, hready⟩
    · cases h
    · cases h

/-! ## The shape of a request -/

/-- The response that the last of the calls left in the context. -/
def responseAfter (calls : List (HttpCall W)) : Option HttpResponse :=
  calls.getLast?.bind (·.left.response)

theorem Tracks.response {s t : HttpState W} (h : Tracks s t) (hcalls : s.calls = [])
    (hnone : s.ctx.response = none) : t.ctx.response = responseAfter t.calls := by
  obtain ⟨new, hc, hctx⟩ := h
  rw [hcalls, List.nil_append] at hc
  rw [hctx, hc, responseAfter]
  cases new.getLast? with
  | none => exact hnone
  | some c => rfl

/-- Everything a request can do, for the chain `ms`. `isOpen` says whether the client's connection
takes a reply. -/
inductive RequestShape (ms : List (PluginHttpModule W)) (isOpen : Bool) : RequestRun W → Prop where
  /-- `request_filter` answers it; the client gets the reply, or the write fails. -/
  | answered {run : RequestRun W} {r : HttpResponse}
      (hcalls : AnsweredWith .requestFilter r run.calls) (hctx : run.state.ctx.response = some r)
      (hlast : responseAfter run.calls = some r) (hfwd : run.forwarded = none)
      (hreplies : run.replies = if isOpen then [.localReply r.status [] r.body] else []) :
      RequestShape ms isOpen run
  /-- No routing callback picks an upstream; the host replies with an error. -/
  | unrouted {run : RequestRun W} {hs rs : List (HttpCall W)} {code : UInt16}
      (hcalls : run.calls = hs ++ rs) (hhs : Unanswered .requestFilter hs) (hrs : Unrouted rs)
      (hctx : run.state.ctx.response = responseAfter run.calls)
      (hhsTurns : Call.modulesAt ⟨.requestFilter, .onRequestHeaders⟩ hs =
        ms.filter (fun m => m.onRequestHeaders.isSome))
      (hrsTurns : ∃ rest, ms.filter (fun m => m.onRoute.isSome) =
          Call.modulesAt ⟨.upstreamPeer, .onRoute⟩ rs ++ rest ∧
        (rest = [] ∨ ∃ pre c, rs = pre ++ [c] ∧ (HookResult.outcome c.result).action = .drop))
      (hfwd : run.forwarded = none)
      (hreplies : run.replies = if isOpen then [.hostError code] else []) :
      RequestShape ms isOpen run
  /-- A routing callback picks an upstream, but the request is not sent: a filter panics, or
  `upstream_request_filter` fails to write a reply. -/
  | unsent {run : RequestRun W} {hs rs us : List (HttpCall W)} {c : HttpCall W}
      (hcalls : run.calls = hs ++ (rs ++ [c]) ++ us) (hhs : Unanswered .requestFilter hs)
      (hrs : Unrouted rs) (hkind : c.kind = ⟨.upstreamPeer, .onRoute⟩) (hc : c.PicksUpstream)
      (hus : us = [] ∨ isOpen = false ∧ ∃ r, AnsweredWith .upstreamRequestFilter r us)
      (hfwd : run.forwarded = none) (hreplies : run.replies = []) :
      RequestShape ms isOpen run
  /-- The request is sent upstream, after `upstream_request_filter` has written a reply, behind which the
  library drops the upstream's response. -/
  | answeredAndSent {run : RequestRun W} {hs rs us bs : List (HttpCall W)} {c : HttpCall W}
      {r : HttpResponse} (hcalls : run.calls = hs ++ (rs ++ [c]) ++ (us ++ bs))
      (hhs : Unanswered .requestFilter hs) (hrs : Unrouted rs)
      (hkind : c.kind = ⟨.upstreamPeer, .onRoute⟩) (hc : c.PicksUpstream)
      (hus : AnsweredWith .upstreamRequestFilter r us) (hbs : ∀ d ∈ bs, Relayed d)
      (hfwd : run.forwarded.isSome) (hopen : isOpen = true)
      (hreplies : run.replies = [.localReply r.status [] r.body]) :
      RequestShape ms isOpen run
  /-- The request is sent upstream and the response relayed. -/
  | sent {run : RequestRun W} {hs rs us bs : List (HttpCall W)} {c : HttpCall W}
      (hcalls : run.calls = hs ++ (rs ++ [c]) ++ (us ++ bs)) (hhs : Unanswered .requestFilter hs)
      (hrs : Unrouted rs) (hkind : c.kind = ⟨.upstreamPeer, .onRoute⟩) (hc : c.PicksUpstream)
      (hus : Unanswered .upstreamRequestFilter us) (hbs : ∀ d ∈ bs, Relayed d)
      (hfwd : run.forwarded.isSome)
      (hreplies : run.replies = if isOpen then [.upstreamResponse] else []) :
      RequestShape ms isOpen run

@[simp] theorem requestStart_calls (env : HttpEnv) (x : Exchange) (session : Session) (w : W) :
    (requestStart env x session w).calls = [] := rfl

@[simp] theorem requestStart_replies (env : HttpEnv) (x : Exchange) (session : Session) (w : W) :
    (requestStart env x session w).session.replies = [] := rfl

@[simp] theorem requestStart_isOpen (env : HttpEnv) (x : Exchange) (session : Session) (w : W) :
    (requestStart env x session w).session.isOpen = session.isOpen := rfl

@[simp] theorem requestStart_response (env : HttpEnv) (x : Exchange) (session : Session) (w : W) :
    (requestStart env x session w).ctx.response = none := rfl

/-- A request starts without a route, so `request_filter` does not rewrite its URI. -/
theorem rewriteUri_requestStart (env : HttpEnv) (x : Exchange) (session : Session) (w : W) :
    rewriteUri env (requestStart env x session w) = some (requestStart env x session w) := rfl

/-- Once a callback has picked an upstream and a peer is made, the request is sent unless a filter
panics or fails to write a reply. -/
theorem routed_shape (env : HttpEnv) (hooks : PluginProxyHooks W) (x : Exchange) (peer : HttpPeer)
    {ms : List (PluginHttpModule W)} {isOpen : Bool} {s : HttpState W} {hs rs : List (HttpCall W)}
    {c : HttpCall W} (hcalls : s.calls = hs ++ (rs ++ [c])) (hreplies : s.session.replies = [])
    (hopen : s.session.isOpen = isOpen) (hhs : Unanswered .requestFilter hs) (hrs : Unrouted rs)
    (hkind : c.kind = ⟨.upstreamPeer, .onRoute⟩) (hc : c.PicksUpstream) :
    RequestShape ms isOpen (finishRequest hooks x (upstreamHead env hooks peer s)) := by
  rcases upstreamRequestFilter_cases env hooks s s.session.reqHeader with
      ⟨-, hfilter⟩ | ⟨req', t, us, -, hfilter, hus, hun, hses⟩ |
      ⟨req', t, us, r, -, hfilter, hus, hans, hses⟩
  · have hrun : finishRequest hooks x (upstreamHead env hooks peer s) = ⟨none, s⟩ := by
      simp only [upstreamHead, hfilter, finishRequest]
    have hsame : s.calls = hs ++ (rs ++ [c]) ++ [] := by rw [List.append_nil, hcalls]
    rw [hrun]
    exact .unsent hsame hhs hrs hkind hc (.inl rfl) rfl hreplies
  · have hrun : finishRequest hooks x (upstreamHead env hooks peer s) =
        ⟨some (peer, req'), relay hooks x t⟩ := by
      simp only [upstreamHead, hfilter, finishRequest]
    obtain ⟨hrelay, bs, hbs, hrelayed⟩ := relay_spec hooks x t
    have hall : (relay hooks x t).calls = hs ++ (rs ++ [c]) ++ (us ++ bs) := by
      rw [hbs, hus, hcalls, List.append_assoc]
    rw [hrun]
    refine .sent hall hhs hrs hkind hc hun hrelayed rfl ?_
    simp only [RequestRun.replies, hrelay, hses, Session.writeUpstreamResponse_replies, hreplies, hopen]
    simp
  · rw [hopen] at hfilter
    cases isOpen with
    | false =>
      have hrun : finishRequest hooks x (upstreamHead env hooks peer s) = ⟨none, t⟩ := by
        simp [upstreamHead, hfilter, finishRequest, failToProxy]
      have hall : t.calls = hs ++ (rs ++ [c]) ++ us := by rw [hus, hcalls]
      rw [hrun]
      refine .unsent hall hhs hrs hkind hc (.inr ⟨rfl, r, hans⟩) rfl ?_
      simp only [RequestRun.replies, hses, Session.write_replies, hreplies, hopen]
      simp
    | true =>
      have hrun : finishRequest hooks x (upstreamHead env hooks peer s) =
          ⟨some (peer, req'), relay hooks x t⟩ := by
        simp [upstreamHead, hfilter, finishRequest]
      obtain ⟨hrelay, bs, hbs, hrelayed⟩ := relay_spec hooks x t
      have hall : (relay hooks x t).calls = hs ++ (rs ++ [c]) ++ (us ++ bs) := by
        rw [hbs, hus, hcalls, List.append_assoc]
      rw [hrun]
      refine .answeredAndSent hall hhs hrs hkind hc hans hrelayed rfl rfl ?_
      simp only [RequestRun.replies, hrelay, hses, Session.writeUpstreamResponse_replies,
        Session.write_replies, hreplies, hopen]
      simp

theorem serveRequest_shape (env : HttpEnv) (hooks : PluginProxyHooks W) (x : Exchange)
    (session : Session) (w : W) :
    RequestShape hooks.httpModules session.isOpen (serveRequest env hooks x session w) := by
  set s := requestStart env x session w with hs
  have hrun : serveRequest env hooks x session w = finishRequest hooks x (requestHead env hooks s) :=
    rfl
  have hopen : s.session.isOpen = session.isOpen := requestStart_isOpen env x session w
  rcases requestFilter_cases env hooks s with ⟨hu, -⟩ |
      ⟨s₁, hs₁, hf, hc₁, hun, htr₁, hturns₁, hrep₁, hopen₁⟩ |
      ⟨s₁, hs₁, r, hf, hc₁, hans, hr, htr₁, hrep₁⟩
  · rw [rewriteUri_requestStart] at hu
    cases hu
  · -- the request passes `request_filter`
    rw [requestStart_calls, List.nil_append] at hc₁
    rw [requestStart_replies] at hrep₁
    rw [hopen] at hopen₁
    rcases upstreamPeer_cases env hooks s₁ with
        ⟨s₂, rs, code, context, hp, hc₂, hunr, htr₂, hturns₂, hses₂⟩ |
        ⟨s₂, rs, c, result, hp, hres, hc₂, hunr, hkind, hpick, -, hrep₂, hopen₂⟩
    · have hfail : serveRequest env hooks x session w =
          ⟨none, failToProxy (.httpStatus code context) s₂⟩ := by
        simp only [hrun, requestHead, hf, hp, finishRequest]
      have hall : (failToProxy (.httpStatus code context) s₂).calls = hs₁ ++ rs := by
        rw [← hc₁, ← hc₂]
        rfl
      rw [hfail]
      refine @RequestShape.unrouted W _ _ _ hs₁ rs code hall hun hunr
        ((htr₁.trans htr₂).response rfl rfl) hturns₁ hturns₂ rfl ?_
      simp only [RequestRun.replies, failToProxy, Session.write_replies, hses₂, hrep₁, hopen₁]
      simp
    · rw [hc₁] at hc₂
      rw [hrep₁] at hrep₂
      rw [hopen₁] at hopen₂
      rcases hres with rfl | ⟨peer, rfl⟩
      · have hpanic : serveRequest env hooks x session w = ⟨none, s₂⟩ := by
          simp only [hrun, requestHead, hf, hp, finishRequest]
        have hall : s₂.calls = hs₁ ++ (rs ++ [c]) ++ [] := by rw [List.append_nil, hc₂]
        rw [hpanic]
        exact .unsent hall hun hunr hkind hpick (.inl rfl) rfl hrep₂
      · have hhead : serveRequest env hooks x session w =
            finishRequest hooks x (upstreamHead env hooks peer s₂) := by
          simp only [hrun, requestHead, hf, hp]
        rw [hhead]
        exact routed_shape env hooks x peer hc₂ hrep₂ hopen₂ hun hunr hkind hpick
  · -- `request_filter` answers
    rw [requestStart_calls, List.nil_append] at hc₁
    rw [requestStart_replies, List.nil_append] at hrep₁
    rw [hopen] at hf hrep₁
    have hanswered : serveRequest env hooks x session w = ⟨none, s₁⟩ := by
      cases ho : session.isOpen <;> rw [ho] at hf <;>
        simp [hrun, requestHead, hf, finishRequest, failToProxy]
    have hlast : responseAfter s₁.calls = some r := by
      rw [← hr]
      exact (htr₁.response rfl rfl).symm
    rw [hanswered]
    refine .answered ?_ hr hlast rfl hrep₁
    rw [RequestRun.calls, hc₁]
    exact hans

end Vakil
