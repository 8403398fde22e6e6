import Vakil.Runtime.Proofs.RequestProofs

/-!
# Proofs: which module answers, and with what

`answerTurns` is what the modules would do in a local reply loop that is never left: a turn is the call
of `on_request_headers` and, where that is due, the module's own `on_local_reply`. A filter takes the
turns up to the first one that leaves a response, and writes the status and the body of that response
to the client, but none of its headers.
-/

namespace Vakil

open ForLoop

variable {W : Type}

/-- The turn of a module in a local reply loop. -/
structure Turn (W : Type) where
  headers : HttpCall W
  reply : Option (HttpCall W)

namespace Turn

def calls (t : Turn W) : List (HttpCall W) := t.headers :: t.reply.toList

/-- The context that the turn left. -/
def left (t : Turn W) : HttpContext := (t.reply.getD t.headers).left

def worldLeft (t : Turn W) : W := (t.reply.getD t.headers).worldLeft

/-- The module set a response, or returned `Replace`. -/
def ReplyIsDue (t : Turn W) : Prop :=
  t.headers.left.response.isSome ∨ (HookResult.outcome t.headers.result).action = .replace

end Turn

/-- The turn of the module `m` with the callback `cb`. -/
def answerTurn (filter : HttpFilter) (m : PluginHttpModule W) (cb : HttpHookFn W)
    (ctx : HttpContext) (w : W) : Turn W :=
  let (result, ctx', w') := cb m.inst ctx w
  { headers := ⟨⟨filter, .onRequestHeaders⟩, m, ctx, result, ctx', w'⟩
    reply :=
      if ctx'.response.isSome ∨ (HookResult.outcome result).action = .replace then
        m.onLocalReply.map fun replyCb =>
          let (result', ctx'', w'') := replyCb m.inst ctx' w'
          ⟨⟨filter, .onLocalReply⟩, m, ctx', result', ctx'', w''⟩
      else none }

def answerTurns (filter : HttpFilter) : List (PluginHttpModule W) → HttpContext → W → List (Turn W)
  | [], _, _ => []
  | m :: ms, ctx, w =>
    match m.onRequestHeaders with
    | none => answerTurns filter ms ctx w
    | some cb =>
      let t := answerTurn filter m cb ctx w
      t :: answerTurns filter ms t.left t.worldLeft

/-- The turns of `answerTurns` in the state `s`. -/
def HttpState.turns (s : HttpState W) (filter : HttpFilter) (hooks : PluginProxyHooks W) :
    List (Turn W) :=
  answerTurns filter hooks.httpModules s.ctx s.world

/-! ## The loop takes its turns -/

section Turns

variable {filter : HttpFilter}

/-- `on_local_reply` has its turn only where it is due. -/
theorem answerTurn_reply (m : PluginHttpModule W) (cb : HttpHookFn W) (ctx : HttpContext) (w : W)
    (h : (answerTurn filter m cb ctx w).reply.isSome) : (answerTurn filter m cb ctx w).ReplyIsDue := by
  by_contra hno
  have hnone : (answerTurn filter m cb ctx w).reply = none := if_neg hno
  rw [hnone] at h
  cases h

/-- A round of the loop settles as the turn of its module says. -/
theorem settle_eq_turn (filter : HttpFilter) (m : PluginHttpModule W) (cb : HttpHookFn W) (s : HttpState W) :
    (settle filter m cb s).calls = s.calls ++ (answerTurn filter m cb s.ctx s.world).calls ∧
      (settle filter m cb s).ctx = (answerTurn filter m cb s.ctx s.world).left ∧
      (settle filter m cb s).world = (answerTurn filter m cb s.ctx s.world).worldLeft := by
  by_cases hdue : (answerTurn filter m cb s.ctx s.world).ReplyIsDue
  · have hsettle : settle filter m cb s =
        (s.invoke ⟨filter, .onRequestHeaders⟩ m cb).2.invokeIgnored ⟨filter, .onLocalReply⟩ m
          m.onLocalReply := if_pos hdue
    have hreply : (answerTurn filter m cb s.ctx s.world).reply = m.onLocalReply.map fun replyCb =>
        (s.invoke ⟨filter, .onRequestHeaders⟩ m cb).2.callOf ⟨filter, .onLocalReply⟩ m replyCb :=
      if_pos hdue
    rw [hsettle, HttpState.invokeIgnored_calls, HttpState.invoke_calls, Turn.calls, Turn.left,
      Turn.worldLeft, hreply, List.append_assoc]
    cases m.onLocalReply <;> exact ⟨rfl, rfl, rfl⟩
  · have hsettle : settle filter m cb s = (s.invoke ⟨filter, .onRequestHeaders⟩ m cb).2 :=
      if_neg hdue
    have hreply : (answerTurn filter m cb s.ctx s.world).reply = none := if_neg hdue
    rw [hsettle, Turn.calls, Turn.left, Turn.worldLeft, hreply]
    exact ⟨rfl, rfl, rfl⟩

/-- Every module with the callback has one turn. -/
theorem answerTurns_modules (ms : List (PluginHttpModule W)) (ctx : HttpContext) (w : W) :
    (answerTurns filter ms ctx w).map (·.headers.module) =
      ms.filter fun m => m.onRequestHeaders.isSome := by
  induction ms generalizing ctx w with
  | nil => rfl
  | cons m ms ih =>
    cases hcb : m.onRequestHeaders with
    | none =>
      rw [List.filter_cons_of_neg (by simp [hcb])]
      simp only [answerTurns, hcb, ih]
    | some cb =>
      rw [List.filter_cons_of_pos (by simp [hcb])]
      simp only [answerTurns, hcb, List.map_cons, ih]
      rfl

/-- The turn that a module takes in a state, if it has the callback. -/
def turnOf (filter : HttpFilter) (m : PluginHttpModule W) (s : HttpState W) : Option (Turn W) :=
  m.onRequestHeaders.map fun cb => answerTurn filter m cb s.ctx s.world

/-- How a module leaves a state if the loop goes on. -/
def afterTurn (filter : HttpFilter) (m : PluginHttpModule W) (s : HttpState W) : HttpState W :=
  match m.onRequestHeaders with
  | none => s
  | some cb => settle filter m cb s

theorem turnOf_eq_some {m : PluginHttpModule W} {s : HttpState W} {t : Turn W}
    (h : turnOf filter m s = some t) :
    ∃ cb, m.onRequestHeaders = some cb ∧ answerTurn filter m cb s.ctx s.world = t :=
  Option.map_eq_some_iff.mp h

theorem answerTurns_eq_trace (ms : List (PluginHttpModule W)) (s : HttpState W) :
    answerTurns filter ms s.ctx s.world = trace (turnOf filter) (afterTurn filter) ms s := by
  induction ms generalizing s with
  | nil => rfl
  | cons m ms ih =>
    rw [trace, ← ih (afterTurn filter m s)]
    unfold turnOf afterTurn
    cases hcb : m.onRequestHeaders with
    | none =>
      simp only [answerTurns, hcb]
      rfl
    | some cb =>
      obtain ⟨-, hctx, hworld⟩ := settle_eq_turn filter m cb s
      simp only [answerTurns, hcb, hctx, hworld]
      rfl

/-- The loop is left at the first turn that leaves a response, and until then the session is as it
was. -/
theorem answerLoop_traced (filter : HttpFilter) (s : HttpState W) :
    Traced (answerRound filter) (turnOf filter) (afterTurn filter) (fun t => t.left.response ≠ none)
      (fun l t => t.session = s.session ∧ t.calls = s.calls ++ l.flatMap Turn.calls ∧
        (s.ctx.response = none → t.ctx.response = none)) where
  goes_on m t h := by
    unfold afterTurn
    cases hcb : m.onRequestHeaders with
    | none => exact answerRound_none hcb
    | some cb =>
      obtain ⟨-, hctx, -⟩ := settle_eq_turn filter m cb t
      have hnone := not_not.mp (h _ (by rw [turnOf, hcb, Option.map_some]))
      rw [answerRound_some hcb, hctx, hnone]
  ends m t turn hturn hne := by
    obtain ⟨cb, hcb, rfl⟩ := turnOf_eq_some hturn
    obtain ⟨r, hr⟩ := Option.ne_none_iff_exists'.mp hne
    obtain ⟨-, hctx, -⟩ := settle_eq_turn filter m cb t
    exact ⟨(r.status, r.body), settle filter m cb t, by rw [answerRound_some hcb, hctx, hr]⟩
  keeps l m t h hno := by
    obtain ⟨hses, hcalls, hresponse⟩ := h
    unfold turnOf at hno ⊢
    unfold afterTurn
    cases hcb : m.onRequestHeaders with
    | none => exact ⟨hses, by simpa using hcalls, hresponse⟩
    | some cb =>
      obtain ⟨hcalls', hctx, -⟩ := settle_eq_turn filter m cb t
      have hnone := not_not.mp (hno _ (by rw [hcb, Option.map_some]))
      refine ⟨(settle_session filter m cb t).trans hses, ?_, fun _ => by rw [hctx, hnone]⟩
      dsimp only
      rw [hcalls', hcalls, List.flatMap_append, List.append_assoc]
      simp

/-- If no turn leaves a response, the loop takes them all. -/
theorem answerLoop_goes_on {ms : List (PluginHttpModule W)} {s : HttpState W}
    (hnone : ∀ t ∈ answerTurns filter ms s.ctx s.world, t.left.response = none) :
    ∃ s', forEach (answerRound filter) ms s = .next s' ∧ s'.session = s.session ∧
      s'.calls = s.calls ++ (answerTurns filter ms s.ctx s.world).flatMap Turn.calls ∧
      (s.ctx.response = none → s'.ctx.response = none) := by
  rw [answerTurns_eq_trace] at hnone ⊢
  exact (answerLoop_traced filter s).next ⟨rfl, by simp, id⟩ fun t ht => not_not.mpr (hnone t ht)

/-- The loop is left at the first turn that leaves a response. -/
theorem answerLoop_ends {ms : List (PluginHttpModule W)} {s : HttpState W} {pre post : List (Turn W)}
    {t : Turn W} {r : HttpResponse}
    (hturns : answerTurns filter ms s.ctx s.world = pre ++ t :: post)
    (hpre : ∀ u ∈ pre, u.left.response = none) (hr : t.left.response = some r) :
    ∃ s', forEach (answerRound filter) ms s = .stop (r.status, r.body) s' ∧
      s'.session = s.session ∧ s'.calls = s.calls ++ (pre ++ [t]).flatMap Turn.calls := by
  rw [answerTurns_eq_trace] at hturns
  obtain ⟨m, s₁, hturn, ⟨hses, hcalls, -⟩, hloop⟩ := (answerLoop_traced filter s).first
    ⟨rfl, by simp, id⟩ hturns (fun u hu => not_not.mpr (hpre u hu)) (by rw [hr]; simp)
  obtain ⟨cb, hcb, rfl⟩ := turnOf_eq_some hturn
  obtain ⟨hcalls', hctx, -⟩ := settle_eq_turn filter m cb s₁
  refine ⟨settle filter m cb s₁, ?_, (settle_session filter m cb s₁).trans hses, ?_⟩
  · rw [hloop, answerRound_some hcb, hctx, hr]
  · rw [hcalls', hcalls, List.flatMap_append, List.append_assoc]
    simp

/-- Up to the first turn that leaves a response, every turn starts without one, and its `on_local_reply`
is called only where it is due. -/
theorem answerTurns_seen {ms : List (PluginHttpModule W)} {s : HttpState W}
    {pre post : List (Turn W)} {t : Turn W} (hresponse : s.ctx.response = none)
    (hturns : answerTurns filter ms s.ctx s.world = pre ++ t :: post)
    (hpre : ∀ u ∈ pre, u.left.response = none) :
    t.headers.seen.response = none ∧ (t.reply.isSome → t.ReplyIsDue) := by
  rw [answerTurns_eq_trace] at hturns
  obtain ⟨m, -, s₁, hturn, ⟨-, -, hnone⟩, -⟩ := (answerLoop_traced filter s).reaches
    ⟨rfl, by simp, id⟩ hturns fun u hu => not_not.mpr (hpre u hu)
  obtain ⟨cb, -, rfl⟩ := turnOf_eq_some hturn
  exact ⟨hnone hresponse, answerTurn_reply m cb s₁.ctx s₁.world⟩

end Turns

/-! ## Which module answers -/

/-- `request_filter` answers with the response of the first turn that leaves one. -/
structure AnswersByFirstTurn (env : HttpEnv) (hooks : PluginProxyHooks W) (s : HttpState W) :
    Prop where
  answered : (requestFilter env hooks s).1 = .ok true ↔
    ∃ t ∈ s.turns .requestFilter hooks, t.left.response.isSome
  /-- One reply is written, with the status and the body of that response, and no later module is
  called. -/
  reply : ∀ pre t post r, s.turns .requestFilter hooks = pre ++ t :: post →
    (∀ u ∈ pre, u.left.response = none) → t.left.response = some r →
    ∃ s', requestFilter env hooks s = (.ok true, s') ∧
      s'.session.replies = s.session.replies ++ [.localReply r.status [] r.body] ∧
      s'.calls = s.calls ++ (pre ++ [t]).flatMap Turn.calls
  /-- Without such a turn nothing is written, every module has had its turn, and no response is
  left. -/
  passed : (∀ t ∈ s.turns .requestFilter hooks, t.left.response = none) →
    ∃ s', requestFilter env hooks s = (.ok false, s') ∧ s'.session.replies = s.session.replies ∧
      s'.calls = s.calls ++ (s.turns .requestFilter hooks).flatMap Turn.calls ∧
      (s.turns .requestFilter hooks).map (·.headers.module) =
        hooks.httpModules.filter (fun m => m.onRequestHeaders.isSome) ∧
      s'.ctx.response = none
  /-- `on_local_reply` is called only for a module that set the response itself or returned
  `Replace`. -/
  replied : ∀ pre t post, s.turns .requestFilter hooks = pre ++ t :: post →
    (∀ u ∈ pre, u.left.response = none) →
    t.headers.seen.response = none ∧ (t.reply.isSome → t.ReplyIsDue)

/-- **Which module answers.** -/
theorem requestFilter_answers_by_first_turn (env : HttpEnv) (hooks : PluginProxyHooks W)
    (s : HttpState W) (hresponse : s.ctx.response = none)
    (hpath : s.ctx.route.bind (·.httpPath) = none) (hopen : s.session.isOpen) :
    AnswersByFirstTurn env hooks s := by
  have hrewrite : rewriteUri env s = some s := by
    unfold rewriteUri
    rw [hpath]
  have hreply : ∀ pre t post r, s.turns .requestFilter hooks = pre ++ t :: post →
      (∀ u ∈ pre, u.left.response = none) → t.left.response = some r →
      ∃ s', requestFilter env hooks s = (.ok true, s') ∧
        s'.session.replies = s.session.replies ++ [.localReply r.status [] r.body] ∧
        s'.calls = s.calls ++ (pre ++ [t]).flatMap Turn.calls := by
    intro pre t post r hturns hpre hr
    obtain ⟨s', hloop, hses, hcalls⟩ := answerLoop_ends hturns hpre hr
    have hopen' : s'.session.isOpen = true := by rw [hses, hopen]
    refine ⟨{ s' with session := s'.session.write (.localReply r.status [] r.body) }, ?_, ?_, hcalls⟩
    · rw [requestFilter_of_stop hrewrite hloop, if_pos hopen']
    · rw [Session.write_replies, if_pos hopen', hses]
  have hpassed : (∀ t ∈ s.turns .requestFilter hooks, t.left.response = none) →
      ∃ s', requestFilter env hooks s = (.ok false, s') ∧ s'.session.replies = s.session.replies ∧
        s'.calls = s.calls ++ (s.turns .requestFilter hooks).flatMap Turn.calls ∧
        (s.turns .requestFilter hooks).map (·.headers.module) =
          hooks.httpModules.filter (fun m => m.onRequestHeaders.isSome) ∧
        s'.ctx.response = none := by
    intro hnone
    obtain ⟨s', hloop, hses, hcalls, hleft⟩ := answerLoop_goes_on hnone
    exact ⟨s', requestFilter_of_next hrewrite hloop, by rw [hses], hcalls,
      answerTurns_modules _ _ _, hleft hresponse⟩
  refine ⟨?_, hreply, hpassed, fun pre t post => answerTurns_seen hresponse⟩
  rcases exists_first (fun t : Turn W => t.left.response ≠ none) (s.turns .requestFilter hooks) with
    hno | ⟨pre, t, post, hturns, hpre, ht⟩
  · have hnone : ∀ t ∈ s.turns .requestFilter hooks, t.left.response = none :=
      fun t ht => not_not.mp (hno t ht)
    obtain ⟨s', hrun, -⟩ := hpassed hnone
    rw [hrun]
    refine iff_of_false nofun ?_
    rintro ⟨t, ht, hsome⟩
    rw [hnone t ht] at hsome
    cases hsome
  · obtain ⟨r, hr⟩ := Option.ne_none_iff_exists'.mp ht
    obtain ⟨s', hrun, -⟩ := hreply pre t post r hturns (fun u hu => not_not.mp (hpre u hu)) hr
    rw [hrun]
    exact iff_of_true rfl ⟨t, by simp [hturns], by rw [hr]; rfl⟩

/-- A module that answers every request. -/
def answerer : PluginHttpModule Unit :=
  { PluginHttpModule.default with
    onRequestHeaders := some fun _ ctx w =>
      (.ok ⟨.replace⟩, { ctx with response := some Plain.response }, w) }

/-- It does answer the plain request. -/
theorem answerer_answers :
    (requestFilter Plain.env ⟨[answerer, Plain.router], [], []⟩ Plain.start).1 = .ok true :=
  (requestFilter_answers_by_first_turn Plain.env ⟨[answerer, Plain.router], [], []⟩ Plain.start
    rfl rfl rfl).answered.mpr ⟨_, List.mem_cons_self, rfl⟩

/-! ## What is written -/

/-- A request-phase loop, in `request_filter` or in `upstream_request_filter`, is left early and its
filter succeeds: it takes `s` to `t`. -/
inductive ShortCircuits (env : HttpEnv) (hooks : PluginProxyHooks W) (s t : HttpState W) : Prop where
  | requestFilter (h : requestFilter env hooks s = (.ok true, t))
  | upstreamRequestFilter {req header : RequestHeader}
      (h : upstreamRequestFilter env hooks s req = (.ok (), header, t))
      (hloop : (forEach (answerRound .upstreamRequestFilter) hooks.httpModules s).result.isSome)

/-- What is written for the response `r`: its status and its body. -/
def HttpResponse.reply (r : HttpResponse) : Reply := .localReply r.status [] r.body

/-- A filter that is left early writes one reply, for the response in the context. -/
theorem ShortCircuits.reply {env : HttpEnv} {hooks : PluginProxyHooks W} {s t : HttpState W}
    (h : ShortCircuits env hooks s t) : ∃ r, t.ctx.response = some r ∧
      t.session.replies = s.session.replies ++ [r.reply] := by
  cases h with
  | requestFilter h =>
    rcases requestFilter_cases env hooks s with
        ⟨-, hrun⟩ | ⟨t', new, hrun, -⟩ | ⟨t', new, r, hrun, -, -, hr, -, hreplies⟩
    · rw [hrun] at h
      cases h
    · rw [hrun] at h
      cases h
    · rw [hrun] at h
      cases hopen : s.session.isOpen with
      | false =>
        rw [hopen] at h
        cases h
      | true =>
        rw [hopen] at h hreplies
        cases h
        exact ⟨r, hr, hreplies⟩
  | upstreamRequestFilter h hloop =>
    have hset := upstreamRequestFilter_header h
    have hsat := answerLoop_sat .upstreamRequestFilter hooks.httpModules s
    cases hfor : forEach (answerRound .upstreamRequestFilter) hooks.httpModules s with
    | next s' =>
      rw [hfor] at hloop
      cases hloop
    | stop reply s' =>
      rw [hfor] at hsat
      obtain ⟨hses, r, hr, hreply, -⟩ := hsat
      obtain ⟨status, body⟩ := reply
      obtain ⟨rfl, rfl⟩ := Prod.mk.inj hreply
      rw [upstreamRequestFilter_of_stop hset hfor] at h
      cases hopen : s'.session.isOpen with
      | false =>
        rw [hopen] at h
        cases h
      | true =>
        obtain ⟨-, hrest⟩ := Prod.mk.inj h
        cases hrest
        refine ⟨r, hr, ?_⟩
        show (s'.session.write (.localReply r.status [] r.body)).replies = _
        rw [Session.write_replies, hopen, if_pos rfl, hses]
        rfl

/-- **A local reply is faithful** to the response in the context exactly if that has no headers; and
two replies differ exactly if the responses differ in status or body. -/
theorem localReply_faithful_iff {env : HttpEnv} {hooks : PluginProxyHooks W} {s t : HttpState W}
    (h : ShortCircuits env hooks s t) : ∃ r reply, t.ctx.response = some r ∧
      t.session.replies = s.session.replies ++ [reply] ∧
      (reply = .localReply r.status r.headers r.body ↔ r.headers = []) ∧
      ∀ (env' : HttpEnv) (hooks' : PluginProxyHooks W) (s' t' : HttpState W),
        ShortCircuits env' hooks' s' t' → ∃ r' reply', t'.ctx.response = some r' ∧
          t'.session.replies = s'.session.replies ++ [reply'] ∧
          (reply ≠ reply' ↔ r.status ≠ r'.status ∨ r.body ≠ r'.body) := by
  obtain ⟨r, hr, hreplies⟩ := h.reply
  refine ⟨r, r.reply, hr, hreplies, ?_, ?_⟩
  · simp [HttpResponse.reply, eq_comm]
  · intro env' hooks' s' t' h'
    obtain ⟨r', hr', hreplies'⟩ := h'.reply
    refine ⟨r', r'.reply, hr', hreplies', ?_⟩
    simp [HttpResponse.reply, imp_iff_not_or]

/-- The plain response has no headers and is written as it is. -/
theorem answerer_faithful : ∃ t,
    requestFilter Plain.env ⟨[answerer], [], []⟩ Plain.start = (.ok true, t) ∧
    t.session.replies = [.localReply Plain.response.status Plain.response.headers
      Plain.response.body] := by
  obtain ⟨t, hrun, hctx⟩ : ∃ t, requestFilter Plain.env ⟨[answerer], [], []⟩ Plain.start =
      (.ok true, t) ∧ t.ctx.response = some Plain.response := ⟨_, rfl, rfl⟩
  obtain ⟨r, reply, hr, hreplies, hfaithful, -⟩ := localReply_faithful_iff (.requestFilter hrun)
  obtain rfl : Plain.response = r := Option.some.inj (hctx.symm.trans hr)
  exact ⟨t, hrun, by rw [hreplies, hfaithful.mpr rfl]; rfl⟩

/-- A response with a header. -/
def Plain.redirect : HttpResponse :=
  { response with status := 302, headers := [⟨"location".toList, "/login".toList⟩], body := [] }

/-- A module that answers every request with it. -/
def redirector : PluginHttpModule Unit :=
  { PluginHttpModule.default with
    onRequestHeaders := some fun _ ctx w =>
      (.ok ⟨.replace⟩, { ctx with response := some Plain.redirect }, w) }

/-- The client gets the status, but not where to go. -/
theorem redirector_loses_header : ∃ t,
    requestFilter Plain.env ⟨[redirector], [], []⟩ Plain.start = (.ok true, t) ∧
    t.ctx.response = some Plain.redirect ∧
    .localReply Plain.redirect.status Plain.redirect.headers Plain.redirect.body ∉
      t.session.replies :=
  ⟨_, rfl, rfl, by decide⟩

end Vakil
