import Vakil.Runtime.Proofs.RequestProofs

/-!
# Proofs: what the body callbacks see

`request_body_filter` and `response_body_filter` append the chunk they are given to the message body
in the context and never take it out again. As long as the callbacks leave the body alone, the body
they see with a chunk is therefore everything the context held before the first chunk, then all
chunks so far; and nothing at all if the context holds no message.

Both sides are one argument about a body seen through `view` and chunks that arrive by `step`.
-/

namespace Vakil

open ForLoop

variable {W : Type}

def HttpContext.requestBody (ctx : HttpContext) : Option Bytes := ctx.request.map (·.body)

def HttpContext.responseBody (ctx : HttpContext) : Option Bytes := ctx.response.map (·.body)

/-- The state after the chunks of a request body. -/
def requestChunks (hooks : PluginProxyHooks W) (chunks : List (Option Bytes)) (s : HttpState W) :
    HttpState W :=
  chunks.foldl (fun s chunk => (requestBodyFilter hooks chunk s).2.2) s

/-- The state in which the first chunk of the response arrives. -/
def relayHeaders (hooks : PluginProxyHooks W) (x : Exchange) (s : HttpState W) : HttpState W :=
  let s := (responseFilter hooks x.responseHeader (requestChunks hooks x.requestBody s)).2.2
  { s with session := s.session.writeUpstreamResponse }

/-- The state after the chunks of a response body. -/
def responseChunks (hooks : PluginProxyHooks W) (chunks : List (Option Bytes × Bool))
    (s : HttpState W) : HttpState W :=
  chunks.foldl (fun s chunk => (responseBodyFilter hooks chunk.1 chunk.2 s).2.2) s

theorem relay_eq (hooks : PluginProxyHooks W) (x : Exchange) (s : HttpState W) :
    relay hooks x s = responseChunks hooks x.responseBody (relayHeaders hooks x s) := rfl

/-- The callback `cb` of `m` does not change what `view` shows. -/
def Keeps (view : HttpContext → Option Bytes) (m : PluginHttpModule W)
    (cb : Option (HttpHookFn W)) : Prop :=
  ∀ f, cb = some f → ∀ ctx w, view (f m.inst ctx w).2.1 = view ctx

/-- From `s` to `t` every callback was given, and left, a context that shows `v`. -/
structure Shows (view : HttpContext → Option Bytes) (v : Option Bytes) (s t : HttpState W) :
    Prop where
  left : view t.ctx = v
  seen : Grows (fun c => view c.seen = v) s.plugins t.plugins

namespace Shows

variable {view : HttpContext → Option Bytes} {v : Option Bytes} {s t u : HttpState W}

theorem refl (h : view s.ctx = v) : Shows view v s s := ⟨h, .refl s.plugins⟩

theorem trans (h : Shows view v s t) (h' : Shows view v t u) : Shows view v s u :=
  ⟨h'.left, h.seen.trans h'.seen⟩

theorem of_populated (ctx : HttpContext) (h : Shows view v { s with ctx } t) : Shows view v s t :=
  ⟨h.left, h.seen⟩

theorem invokeIgnored {m : PluginHttpModule W} {cb : Option (HttpHookFn W)}
    (hkeeps : Keeps view m cb) (h : view s.ctx = v) (site : HttpSite) :
    Shows view v s (s.invokeIgnored site m cb) := by
  cases cb with
  | none => exact refl h
  | some f =>
    refine ⟨(hkeeps f rfl s.ctx s.world).trans h, [s.callOf site m f], rfl, ?_⟩
    intro c hc
    rw [List.mem_singleton.mp hc]
    exact h

theorem foldl {f : HttpState W → PluginHttpModule W → HttpState W} {ms : List (PluginHttpModule W)}
    (hstep : ∀ m ∈ ms, ∀ s, view s.ctx = v → Shows view v s (f s m)) (h : view s.ctx = v) :
    Shows view v s (ms.foldl f s) := by
  induction ms generalizing s with
  | nil => exact refl h
  | cons m ms ih =>
    have hm := hstep m List.mem_cons_self s h
    exact hm.trans (ih (fun m' hm' => hstep m' (List.mem_cons_of_mem m hm')) hm.left)

end Shows

/-! ## Chunk by chunk -/

/-- What one chunk does: each of the modules `ms` with the callback is called once, and the body in
the context has grown by the chunk before the first of them is. -/
structure Feeds (view : HttpContext → Option Bytes) (site : HttpSite)
    (callback : PluginHttpModule W → Option (HttpHookFn W)) (ms : List (PluginHttpModule W))
    (chunk : Option Bytes) (s t : HttpState W) : Prop where
  once : Ran site callback ms s.plugins t.plugins
  shows : Shows view ((view s.ctx).map (· ++ chunk.getD [])) s t

/-- With every chunk, each of the modules `ms` with the callback is called once, in a context whose
body is this chunk. -/
def SeesChunks {γ : Type} (view : HttpContext → Option Bytes) (site : HttpSite)
    (callback : PluginHttpModule W → Option (HttpHookFn W)) (ms : List (PluginHttpModule W))
    (chunkOf : γ → Option Bytes) (step : HttpState W → γ → HttpState W) (l : List γ)
    (s : HttpState W) : Prop :=
  ∀ pre g post, l = pre ++ g :: post →
    Ran site callback ms (pre.foldl step s).plugins (step (pre.foldl step s) g).plugins ∧
    ∀ chunk, chunkOf g = some chunk →
      ∀ c ∈ (pre.foldl step s).plugins.since (step (pre.foldl step s) g).plugins,
        c.kind = site → view c.seen = some chunk

/-- Before the first chunk the context holds a message with an empty body, and nothing comes before
a chunk but empty ones. -/
def Fresh (view : HttpContext → Option Bytes) (chunks : List (Option Bytes)) (s : HttpState W) :
    Prop :=
  ∀ pre chunk post, chunks = pre ++ some chunk :: post →
    view s.ctx = some [] ∧ pre.flatMap (·.getD []) = []

theorem fresh_iff_of_empty {view : HttpContext → Option Bytes} {s : HttpState W}
    (h : view s.ctx = some []) (chunks : List (Option Bytes)) :
    Fresh view chunks s ↔ ∀ pre chunk post, chunks = pre ++ some chunk :: post →
      pre.flatMap (·.getD []) = [] := by
  constructor
  · exact fun hfresh pre chunk post hsplit => (hfresh pre chunk post hsplit).2
  · exact fun hempty pre chunk post hsplit => ⟨h, hempty pre chunk post hsplit⟩

theorem fresh_iff_of_absent {view : HttpContext → Option Bytes} {s : HttpState W}
    (h : view s.ctx = none) (chunks : List (Option Bytes)) :
    Fresh view chunks s ↔ ∀ chunk ∈ chunks, chunk = none := by
  constructor
  · intro hfresh chunk hchunk
    obtain ⟨pre, post, rfl⟩ := List.append_of_mem hchunk
    cases chunk with
    | none => rfl
    | some bytes =>
      have hbody := (hfresh pre bytes post rfl).1
      rw [h] at hbody
      cases hbody
  · rintro habsent pre chunk post rfl
    have hnone := habsent (some chunk) (by simp)
    cases hnone

section Sees

variable {γ : Type} {view : HttpContext → Option Bytes} {site : HttpSite}
  {callback : PluginHttpModule W → Option (HttpHookFn W)} {ms : List (PluginHttpModule W)}
  {chunkOf : γ → Option Bytes} {step : HttpState W → γ → HttpState W}

/-- The body after some chunks: what was there before, then all of them. -/
theorem view_foldl (hstep : ∀ s g, Feeds view site callback ms (chunkOf g) s (step s g))
    (l : List γ) (s : HttpState W) :
    view (l.foldl step s).ctx =
      (view s.ctx).map (· ++ (l.map chunkOf).flatMap (·.getD [])) := by
  induction l generalizing s with
  | nil => simp
  | cons g l ih =>
    rw [List.foldl_cons, ih, (hstep s g).shows.left, Option.map_map, List.map_cons,
      List.flatMap_cons]
    congr 1
    funext b
    exact List.append_assoc _ _ _

/-- With a module that has the callback, some call with the chunk sees its effect on the body. -/
theorem Feeds.exists_call {chunk : Option Bytes} {s t : HttpState W}
    (h : Feeds view site callback ms chunk s t) {m : PluginHttpModule W} (hm : m ∈ ms)
    (hcb : (callback m).isSome) : ∃ c ∈ s.plugins.since t.plugins, c.kind = site := by
  obtain ⟨new, hnew, -⟩ := h.shows.seen
  rw [PluginState.since_eq hnew]
  exact h.once.exists_call hnew hm hcb

theorem Feeds.seen_eq {chunk : Option Bytes} {s t : HttpState W}
    (h : Feeds view site callback ms chunk s t) {c : HttpCall W}
    (hc : c ∈ s.plugins.since t.plugins) :
    view c.seen = (view s.ctx).map (· ++ chunk.getD []) := by
  obtain ⟨new, hnew, hseen⟩ := h.shows.seen
  rw [PluginState.since_eq hnew] at hc
  exact hseen c hc

theorem map_append_eq_some_iff {b : Option Bytes} {pre chunk : Bytes} :
    (b.map (· ++ pre)).map (· ++ chunk) = some chunk ↔ b = some [] ∧ pre = [] := by
  cases b with
  | none => simp
  | some b =>
    rw [Option.map_some, Option.map_some, Option.some_inj, Option.some_inj,
      List.append_left_eq_self, List.append_eq_nil_iff]

/-- **Chunk by chunk.** The callbacks see each chunk as it is exactly if there is no callback or the
context is fresh. -/
theorem seesChunks_iff (hstep : ∀ s g, Feeds view site callback ms (chunkOf g) s (step s g))
    (l : List γ) (s : HttpState W) :
    SeesChunks view site callback ms chunkOf step l s ↔
      (∀ m ∈ ms, callback m = none) ∨ Fresh view (l.map chunkOf) s := by
  constructor
  · intro h
    by_cases hnone : ∀ m ∈ ms, callback m = none
    · exact .inl hnone
    · right
      push Not at hnone
      obtain ⟨m, hm, hcb⟩ := hnone
      intro pre' chunk post' hsplit
      obtain ⟨pre, rest, rfl, rfl, hrest⟩ := List.map_eq_append_iff.mp hsplit
      obtain ⟨g, post, rfl, hg, rfl⟩ := List.map_eq_cons_iff.mp hrest
      have hfeeds := hstep (pre.foldl step s) g
      obtain ⟨c, hc, hkind⟩ := hfeeds.exists_call hm (Option.isSome_iff_ne_none.mpr hcb)
      have hseen := (h pre g post rfl).2 chunk hg c hc hkind
      rw [hfeeds.seen_eq hc, hg, view_foldl hstep] at hseen
      exact map_append_eq_some_iff.mp hseen
  · intro h pre g post hsplit
    have hfeeds := hstep (pre.foldl step s) g
    refine ⟨hfeeds.once, ?_⟩
    intro chunk hg c hc hkind
    rcases h with hnone | hfresh
    · -- no callback, no call
      obtain ⟨new, hnew, -⟩ := hfeeds.shows.seen
      have hnil := hfeeds.once.modulesAt_new hnew
      rw [List.filter_eq_nil_iff.mpr (by simpa using hnone)] at hnil
      rw [PluginState.since_eq hnew] at hc
      have hmem : c.module ∈ Call.modulesAt site new :=
        List.mem_map_of_mem (List.mem_filter.mpr ⟨hc, decide_eq_true hkind⟩)
      rw [hnil] at hmem
      cases hmem
    · rw [hfeeds.seen_eq hc, hg, view_foldl hstep]
      refine map_append_eq_some_iff.mpr (hfresh (pre.map chunkOf) chunk (post.map chunkOf) ?_)
      rw [hsplit, List.map_append, List.map_cons, hg]

end Sees

/-! ## The two filters -/

theorem populateReqBodyIntoCtx_requestBody (chunk : Option Bytes) (ctx : HttpContext) :
    (populateReqBodyIntoCtx chunk ctx).requestBody =
      ctx.requestBody.map (· ++ chunk.getD []) := by
  unfold populateReqBodyIntoCtx HttpContext.requestBody
  cases chunk with
  | none => simp [Function.comp_def]
  | some chunk =>
    cases hreq : ctx.request with
    | none => simp [hreq]
    | some req => rfl

theorem populateRespBodyIntoCtx_responseBody (chunk : Option Bytes) (ctx : HttpContext) :
    (populateRespBodyIntoCtx chunk ctx).responseBody =
      ctx.responseBody.map (· ++ chunk.getD []) := by
  unfold populateRespBodyIntoCtx HttpContext.responseBody
  cases chunk with
  | none => simp [Function.comp_def]
  | some chunk =>
    cases hresp : ctx.response with
    | none => simp [hresp]
    | some resp => rfl

theorem requestBodyFilter_feeds {hooks : PluginProxyHooks W}
    (hkeeps : ∀ m ∈ hooks.httpModules, Keeps HttpContext.requestBody m m.onRequestBody)
    (chunk : Option Bytes) (s : HttpState W) :
    Feeds HttpContext.requestBody ⟨.requestBodyFilter, .onRequestBody⟩ (·.onRequestBody)
      hooks.httpModules chunk s (requestBodyFilter hooks chunk s).2.2 := by
  refine ⟨requestBodyFilter_order hooks chunk s, ?_⟩
  rw [← populateReqBodyIntoCtx_requestBody]
  refine .of_populated (populateReqBodyIntoCtx chunk s.ctx) (Shows.foldl ?_ rfl)
  intro m hm t ht
  exact .invokeIgnored (hkeeps m hm) ht _

theorem responseBodyFilter_feeds {hooks : PluginProxyHooks W}
    (hkeeps : ∀ m ∈ hooks.httpModules, Keeps HttpContext.responseBody m m.onResponseBody ∧
      Keeps HttpContext.responseBody m m.onTrailers)
    (chunk : Option Bytes) (eos : Bool) (s : HttpState W) :
    Feeds HttpContext.responseBody ⟨.responseBodyFilter, .onResponseBody⟩ (·.onResponseBody)
      hooks.httpModules chunk s (responseBodyFilter hooks chunk eos s).2.2 := by
  refine ⟨(responseBodyFilter_order hooks chunk eos s).1, ?_⟩
  rw [← populateRespBodyIntoCtx_responseBody]
  refine .of_populated (populateRespBodyIntoCtx chunk s.ctx) (Shows.foldl ?_ rfl)
  intro m hm t ht
  have hbody : Shows HttpContext.responseBody _ t _ :=
    .invokeIgnored (hkeeps m hm).1 ht ⟨.responseBodyFilter, .onResponseBody⟩
  cases eos with
  | false => exact hbody
  | true => exact hbody.trans (.invokeIgnored (hkeeps m hm).2 hbody.left _)

/-- The `on_request_body` callbacks see each chunk of the request body as it is. -/
def RequestChunksSeen (hooks : PluginProxyHooks W) (chunks : List (Option Bytes))
    (s : HttpState W) : Prop :=
  SeesChunks HttpContext.requestBody ⟨.requestBodyFilter, .onRequestBody⟩ (·.onRequestBody)
    hooks.httpModules id (fun s chunk => (requestBodyFilter hooks chunk s).2.2) chunks s

/-- The `on_response_body` callbacks see each chunk of the response body as it is. -/
def ResponseChunksSeen (hooks : PluginProxyHooks W) (chunks : List (Option Bytes × Bool))
    (s : HttpState W) : Prop :=
  SeesChunks HttpContext.responseBody ⟨.responseBodyFilter, .onResponseBody⟩ (·.onResponseBody)
    hooks.httpModules Prod.fst (fun s chunk => (responseBodyFilter hooks chunk.1 chunk.2 s).2.2)
    chunks s

theorem requestChunksSeen_iff {hooks : PluginProxyHooks W}
    (hkeeps : ∀ m ∈ hooks.httpModules, Keeps HttpContext.requestBody m m.onRequestBody)
    (chunks : List (Option Bytes)) (s : HttpState W) :
    RequestChunksSeen hooks chunks s ↔ (∀ m ∈ hooks.httpModules, m.onRequestBody = none) ∨
      Fresh HttpContext.requestBody chunks s := by
  have hstep : ∀ s chunk, Feeds HttpContext.requestBody _ (·.onRequestBody) hooks.httpModules
      (id chunk) s (requestBodyFilter hooks chunk s).2.2 :=
    fun s chunk => requestBodyFilter_feeds hkeeps chunk s
  have h := seesChunks_iff hstep chunks s
  rwa [List.map_id] at h

theorem responseChunksSeen_iff {hooks : PluginProxyHooks W}
    (hkeeps : ∀ m ∈ hooks.httpModules, Keeps HttpContext.responseBody m m.onResponseBody ∧
      Keeps HttpContext.responseBody m m.onTrailers)
    (chunks : List (Option Bytes × Bool)) (s : HttpState W) :
    ResponseChunksSeen hooks chunks s ↔ (∀ m ∈ hooks.httpModules, m.onResponseBody = none) ∨
      Fresh HttpContext.responseBody (chunks.map Prod.fst) s :=
  seesChunks_iff (fun s (chunk : Option Bytes × Bool) =>
    responseBodyFilter_feeds hkeeps chunk.1 chunk.2 s) chunks s

/-- **Chunked bodies.** Callbacks that leave the body alone see each chunk of the message as it is
exactly if there is none of them or the context is fresh. -/
theorem bodyChunks_seen_iff {hooks : PluginProxyHooks W}
    (hrequest : ∀ m ∈ hooks.httpModules, Keeps HttpContext.requestBody m m.onRequestBody)
    (hresponse : ∀ m ∈ hooks.httpModules, Keeps HttpContext.responseBody m m.onResponseBody ∧
      Keeps HttpContext.responseBody m m.onTrailers) (s : HttpState W) :
    (∀ chunks, RequestChunksSeen hooks chunks s ↔
      (∀ m ∈ hooks.httpModules, m.onRequestBody = none) ∨
        Fresh HttpContext.requestBody chunks s) ∧
    ∀ chunks, ResponseChunksSeen hooks chunks s ↔
      (∀ m ∈ hooks.httpModules, m.onResponseBody = none) ∨
        Fresh HttpContext.responseBody (chunks.map Prod.fst) s :=
  ⟨fun chunks => requestChunksSeen_iff hrequest chunks s,
    fun chunks => responseChunksSeen_iff hresponse chunks s⟩

/-! ## Whole requests -/

section Requests

variable {view : HttpContext → Option Bytes}

theorem settle_keeps {m : PluginHttpModule W} (hkeeps : ∀ hook, Keeps view m (m.callback hook))
    {cb : HttpHookFn W} (hcb : m.onRequestHeaders = some cb) (filter : HttpFilter)
    (s : HttpState W) : view (settle filter m cb s).ctx = view s.ctx := by
  have hcall : view (s.invoke ⟨filter, .onRequestHeaders⟩ m cb).2.ctx = view s.ctx :=
    hkeeps .onRequestHeaders cb hcb s.ctx s.world
  unfold settle
  dsimp only
  split
  · exact (Shows.invokeIgnored (hkeeps .onLocalReply) hcall ⟨filter, .onLocalReply⟩).left
  · exact hcall

theorem answerRound_keeps {m : PluginHttpModule W} (hkeeps : ∀ hook, Keeps view m (m.callback hook))
    (filter : HttpFilter) (s : HttpState W) :
    view (answerRound filter m s).state.ctx = view s.ctx := by
  cases hcb : m.onRequestHeaders with
  | none =>
    rw [answerRound_none hcb]
    rfl
  | some cb =>
    rw [answerRound_some hcb]
    split <;> exact settle_keeps hkeeps hcb filter s

theorem routeRound_keeps (env : HttpEnv) {m : PluginHttpModule W}
    (hkeeps : ∀ hook, Keeps view m (m.callback hook)) (s : HttpState W) :
    view (routeRound env m s).state.ctx = view s.ctx := by
  cases hcb : m.onRoute with
  | none =>
    rw [routeRound_none env hcb]
    rfl
  | some cb =>
    rw [(routeRound_some env hcb s).2]
    exact hkeeps .onRoute cb hcb s.ctx s.world

variable {hooks : PluginProxyHooks W}
  (hkeeps : ∀ m ∈ hooks.httpModules, ∀ hook, Keeps view m (m.callback hook))

include hkeeps

theorem answerLoop_keeps (filter : HttpFilter) (s : HttpState W) :
    view (forEach (answerRound filter) hooks.httpModules s).state.ctx = view s.ctx := by
  refine forEach_state (P := fun t : HttpState W => view t.ctx = view s.ctx) ?_ rfl
  intro m hm t ht
  exact (answerRound_keeps (hkeeps m hm) filter t).trans ht

theorem routeLoop_keeps (env : HttpEnv) (s : HttpState W) :
    view (forEach (routeRound env) hooks.httpModules s).state.ctx = view s.ctx := by
  refine forEach_state (P := fun t : HttpState W => view t.ctx = view s.ctx) ?_ rfl
  intro m hm t ht
  exact (routeRound_keeps env (hkeeps m hm) t).trans ht

/-- Callbacks that leave the body alone bring it unchanged to the exchange with the upstream. -/
theorem requestHead_keeps {env : HttpEnv} {peer : HttpPeer} {header : RequestHeader}
    {s t : HttpState W} (h : requestHead env hooks s = (.ready peer header, t)) :
    view t.ctx = view s.ctx := by
  obtain ⟨s₁, s₂, hfilter, hpeer, hready⟩ := requestHead_ready h
  have h₁ : view s₁.ctx = view s.ctx := by
    obtain ⟨s', hu, hloop⟩ := requestFilter_passes hfilter
    have hs' := answerLoop_keeps hkeeps .requestFilter s'
    rw [hloop, (rewriteUri_spec hu).1] at hs'
    exact hs'
  have h₂ : view s₂.ctx = view s₁.ctx := by
    have hs₂ := upstreamPeer_state env hooks s₁
    rw [hpeer] at hs₂
    rw [show s₂ = _ from hs₂]
    exact routeLoop_keeps hkeeps env s₁
  rw [upstreamRequestFilter_ctx hready, answerLoop_keeps hkeeps, h₂, h₁]

end Requests

theorem populateReqBodyIntoCtx_responseBody (chunk : Option Bytes) (ctx : HttpContext) :
    (populateReqBodyIntoCtx chunk ctx).responseBody = ctx.responseBody := by
  unfold populateReqBodyIntoCtx
  split <;> rfl

section Responses

variable {hooks : PluginProxyHooks W}
  (hkeeps : ∀ m ∈ hooks.httpModules, ∀ hook, Keeps HttpContext.responseBody m (m.callback hook))

include hkeeps

theorem requestChunks_keeps (chunks : List (Option Bytes)) (s : HttpState W) :
    (requestChunks hooks chunks s).ctx.responseBody = s.ctx.responseBody := by
  induction chunks generalizing s with
  | nil => rfl
  | cons chunk chunks ih =>
    have hshows : Shows HttpContext.responseBody s.ctx.responseBody
        { s with ctx := populateReqBodyIntoCtx chunk s.ctx }
        (requestBodyFilter hooks chunk s).2.2 :=
      Shows.foldl (fun m hm t ht => .invokeIgnored (hkeeps m hm .onRequestBody) ht _)
        (populateReqBodyIntoCtx_responseBody chunk s.ctx)
    exact (ih (requestBodyFilter hooks chunk s).2.2).trans hshows.left

/-- What comes before the first chunk of the response does not touch the response's body. -/
theorem relayHeaders_keeps (x : Exchange) (s : HttpState W) :
    (relayHeaders hooks x s).ctx.responseBody = s.ctx.responseBody := by
  have hshows : Shows HttpContext.responseBody s.ctx.responseBody
      (requestChunks hooks x.requestBody s)
      (responseFilter hooks x.responseHeader (requestChunks hooks x.requestBody s)).2.2 :=
    Shows.foldl (fun m hm t ht => .invokeIgnored (hkeeps m hm .onResponseHeaders) ht _)
      (requestChunks_keeps hkeeps x.requestBody s)
  exact hshows.left

end Responses

/-- **The chunks of a whole request** that is sent upstream by modules that leave the bodies alone.
The host never puts a response into the context, so no chunk of it is ever seen. -/
theorem servedChunks_seen_iff {env : HttpEnv} {hooks : PluginProxyHooks W} {x : Exchange}
    {session : Session} {w : W} {peer : HttpPeer} {header : RequestHeader} {s : HttpState W}
    (hrequest : ∀ m ∈ hooks.httpModules, ∀ hook,
      Keeps HttpContext.requestBody m (m.callback hook))
    (hresponse : ∀ m ∈ hooks.httpModules, ∀ hook,
      Keeps HttpContext.responseBody m (m.callback hook))
    (h : requestHead env hooks (requestStart env x session w) = (.ready peer header, s)) :
    (RequestChunksSeen hooks x.requestBody s ↔
      (∀ m ∈ hooks.httpModules, m.onRequestBody = none) ∨
        ∀ pre chunk post, x.requestBody = pre ++ some chunk :: post →
          pre.flatMap (·.getD []) = []) ∧
    (ResponseChunksSeen hooks x.responseBody (relayHeaders hooks x s) ↔
      (∀ m ∈ hooks.httpModules, m.onResponseBody = none) ∨
        ∀ chunk ∈ x.responseBody, chunk.1 = none) := by
  have hs : s.ctx.requestBody = some [] := requestHead_keeps hrequest h
  have hnone : (relayHeaders hooks x s).ctx.responseBody = none := by
    rw [relayHeaders_keeps hresponse, requestHead_keeps hresponse h]
    rfl
  constructor
  · rw [requestChunksSeen_iff fun m hm => hrequest m hm .onRequestBody, fresh_iff_of_empty hs]
  · rw [responseChunksSeen_iff fun m hm =>
        ⟨hresponse m hm .onResponseBody, hresponse m hm .onTrailers⟩,
      fresh_iff_of_absent hnone, List.forall_mem_map]

/-- A module that looks at the bodies. -/
def observer : PluginHttpModule Unit :=
  { PluginHttpModule.default with
    onRequestBody := some fun _ ctx w => (.ok {}, ctx, w)
    onResponseBody := some fun _ ctx w => (.ok {}, ctx, w) }

theorem observer_keeps (view : HttpContext → Option Bytes) :
    Keeps view observer observer.onRequestBody ∧ Keeps view observer observer.onResponseBody ∧
      Keeps view observer observer.onTrailers := by
  refine ⟨?_, ?_, ?_⟩
  · rintro f hf ctx w
    cases hf
    rfl
  · rintro f hf ctx w
    cases hf
    rfl
  · exact nofun

def observedHooks : PluginProxyHooks Unit := ⟨[Plain.router, observer], [], []⟩

/-- The state in which a plain request, routed and observed, is sent to its peer. -/
def observed : HttpState Unit :=
  (requestHead Plain.env observedHooks (requestStart Plain.env Plain.exchange Plain.session ())).2

theorem observedHooks_keep (view : HttpContext → Option Bytes) :
    ∀ m ∈ observedHooks.httpModules, Keeps view m m.onRequestBody ∧
      Keeps view m m.onResponseBody ∧ Keeps view m m.onTrailers := by
  intro m hm
  rcases List.mem_pair.mp hm with rfl | rfl
  · exact ⟨nofun, nofun, nofun⟩
  · exact observer_keeps view

/-- The first chunk of a request is seen as it is. -/
theorem bodyChunks_seen_first : RequestChunksSeen observedHooks [some [1]] observed := by
  refine ((bodyChunks_seen_iff (fun m hm => (observedHooks_keep _ m hm).1)
    (fun m hm => (observedHooks_keep _ m hm).2) observed).1 [some [1]]).2 (.inr ?_)
  intro pre chunk post h
  cases pre with
  | nil => exact ⟨rfl, rfl⟩
  | cons c pre => simp at h

/-- With its second chunk the observer sees both, and of a response it never sees anything. -/
theorem observer_sees_no_chunks :
    (∀ m ∈ observedHooks.httpModules, Keeps HttpContext.requestBody m m.onRequestBody) ∧
    (∀ m ∈ observedHooks.httpModules, Keeps HttpContext.responseBody m m.onResponseBody ∧
      Keeps HttpContext.responseBody m m.onTrailers) ∧
    ¬ RequestChunksSeen observedHooks [some [1], some [2]] observed ∧
    ¬ ResponseChunksSeen observedHooks [(some [1], true)] observed := by
  refine ⟨fun m hm => (observedHooks_keep _ m hm).1, fun m hm => (observedHooks_keep _ m hm).2,
    ?_, ?_⟩
  · intro h
    have hseen := (h [some [1]] (some [2]) [] rfl).2 [2] rfl _ List.mem_cons_self rfl
    exact absurd hseen (by decide)
  · intro h
    have hseen := (h [] (some [1], true) [] rfl).2 [1] rfl _ List.mem_cons_self rfl
    exact absurd hseen (by decide)

end Vakil
