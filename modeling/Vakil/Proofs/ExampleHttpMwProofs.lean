import Vakil.ExampleHttpMw
import Vakil.Runtime.Server
import Vakil.Lib.Tickets

/-!
# Proofs: the HTTP example plugin among concurrent requests

However the requests are interleaved, those that the plugin does not answer itself draw consecutive
numbers, one each, and are sent where their number says (`served_in_turn`). So the three upstreams get
equally many of them, to within one (`upstreams_balanced`). This is so with one upstream attempt for each
request, which succeeds: every further attempt draws a number of its own.
-/

namespace Vakil.ExampleHttpMw

open ForLoop Tasks

/-- The hooks of a runtime that has loaded this plugin only. -/
def hooks : PluginProxyHooks RequestCounter := ⟨[buildHttpModule], [], []⟩

/-- The request that the plugin answers itself. -/
def IsLocal (session : Session) : Prop :=
  session.reqHeader.method = "GET".toList ∧ session.reqHeader.uri.path = "/local-reply".toList

/-- The URI and the peer for the number `n`; `none` if the path is not valid or the host has no
address. -/
def routed (env : HttpEnv) (n : UInt64) : Option (Uri × HttpPeer) := do
  let uri ← env.uriOfPathAndQuery (target n).2
  let peer ← HttpPeer.new env (target n).1 80 false (target n).1
  return (uri, peer)

/-- Where a request with the number `n` is sent, with its header; `none` if something that the plugin
made of the number is not valid. -/
def sentTo (env : HttpEnv) (session : Session) (n : UInt64) : Option (HttpPeer × RequestHeader) := do
  let (uri, peer) ← routed env n
  let value ← env.headerValue (target n).1
  return (peer, { session.reqHeader with uri }.insertHeader "host".toList value)

/-- How a request ends that has drawn the number `n`. -/
structure SentByNumber (env : HttpEnv) (session : Session) (n : UInt64)
    (served : Served RequestCounter) : Prop where
  forwarded : served.forwarded = sentTo env session n
  replies : served.flow.session.replies =
    if session.isOpen ∧ (sentTo env session n).isSome then [.upstreamResponse] else []

/-- How a request ends that the plugin answers itself. -/
structure AnsweredHere (session : Session) (served : Served RequestCounter) : Prop where
  forwarded : served.forwarded = none
  replies : served.flow.session.replies =
    if session.isOpen then [.localReply 200 [] hello] else []

/-- How a request ends, by the number that it has drawn, if any. -/
def EndsBy (env : HttpEnv) (session : Session) :
    Option UInt64 → Served RequestCounter → Prop
  | none, served => IsLocal session ∧ AnsweredHere session served
  | some n, served => ¬ IsLocal session ∧ SentByNumber env session n served

/-! ## The callbacks -/

section Callbacks

variable {session : Session} {ctx : HttpContext}

/-- The context has the request of the session, and no response. -/
structure Holds (session : Session) (ctx : HttpContext) : Prop where
  request : ∃ request, ctx.request = some request ∧
    request.method = session.reqHeader.method ∧ request.path = session.reqHeader.uri.path
  response : ctx.response = none

theorem httpOnRequestHeaders_of_local (hctx : Holds session ctx) (hlocal : IsLocal session) :
    ∃ response : HttpResponse, response.status = 200 ∧ response.body = hello ∧
      ∀ inst counter, httpOnRequestHeaders inst ctx counter =
        (.ok ⟨.replace⟩, { ctx with response := some response }, counter) := by
  obtain ⟨request, hreq, hmethod, hpath⟩ := hctx.request
  have his : isLocalReply request = true := by
    simp [isLocalReply, hmethod, hpath, hlocal.1, hlocal.2]
  refine ⟨⟨request.streamId, request.version, 200, [], hello⟩, rfl, rfl, fun inst counter => ?_⟩
  unfold httpOnRequestHeaders
  rw [hreq]
  dsimp only
  rw [if_pos his]

theorem httpOnRequestHeaders_of_not_local (hctx : Holds session ctx) (hlocal : ¬ IsLocal session)
    (inst : PluginInstance) (counter : RequestCounter) :
    httpOnRequestHeaders inst ctx counter = (.ok {}, ctx, counter) := by
  obtain ⟨request, hreq, hmethod, hpath⟩ := hctx.request
  have his : ¬ isLocalReply request = true := by
    intro his
    simp only [isLocalReply, Bool.and_eq_true, decide_eq_true_eq] at his
    exact hlocal ⟨hmethod ▸ his.1, hpath ▸ his.2⟩
  unfold httpOnRequestHeaders
  rw [hreq]
  dsimp only
  rw [if_neg his]

/-- The route that the plugin decides on. -/
def routeOf (n : UInt64) : RouteDecision :=
  ⟨.replaceUpstream, some ⟨(target n).1, 80⟩, some (target n).2⟩

theorem httpOnRoute_eq {transport : TransportContext} (hctx : Holds session ctx)
    (htransport : ctx.transport = some transport) (inst : PluginInstance)
    (counter : RequestCounter) : httpOnRoute inst ctx counter = (.ok ⟨.replace⟩,
      { ctx with transport := some { transport with route := routeOf counter } }, counter + 1) := by
  obtain ⟨request, hreq, -, -⟩ := hctx.request
  unfold httpOnRoute HttpContext.setRoute
  rw [hreq, htransport]
  rfl

end Callbacks

/-! ## The filters -/

/-- The task draws a number, at most, from the counter. -/
abbrev Draws {α : Type} (P : Option UInt64 → α → Prop) (held : Option UInt64)
    (t : Task RequestCounter α) : Prop := t.Ticketed id (· + 1) P held

section Filters

variable {env : HttpEnv} {session : Session} {f : Flow RequestCounter} {held : Option UInt64}
  {site : HttpSite} {m : PluginHttpModule RequestCounter} {cb : HttpHookFn RequestCounter}
  {result : HookResult}

theorem invoke_keeps {left : HttpContext}
    (hcb : ∀ counter, cb m.inst f.ctx counter = (result, left, counter)) :
    Draws (fun held' out => held' = held ∧ out.1 = result ∧ out.2.session = f.session ∧
      out.2.ctx = left) held (f.invoke site m cb) := by
  refine .keep (fun counter => ?_) fun counter => .done ?_
  · rw [hcb]
  · dsimp only
    rw [hcb]
    exact ⟨rfl, rfl, rfl, rfl⟩

theorem invoke_draws {left : UInt64 → HttpContext}
    (hcb : ∀ counter, cb m.inst f.ctx counter = (result, left counter, counter + 1)) :
    Draws (fun held' out => ∃ n, held' = some n ∧ out.1 = result ∧ out.2.session = f.session ∧
      out.2.ctx = left n) none (f.invoke site m cb) := by
  refine .draw (fun counter => ?_) fun counter => .done ?_
  · rw [hcb]
    rfl
  · dsimp only
    rw [hcb]
    exact ⟨counter, rfl, rfl, rfl, rfl⟩

/-- A callback that only logs leaves everything as it is. -/
theorem invokeIgnored_logged (f : Flow RequestCounter) (site : HttpSite) :
    Draws (fun held' g => held' = held ∧ g.session = f.session ∧ g.ctx = f.ctx) held
      (f.invokeIgnored site buildHttpModule (some logged)) := by
  have hcb : ∀ counter, logged buildHttpModule.inst f.ctx counter = (.ok {}, f.ctx, counter) :=
    fun _ => rfl
  refine (invoke_keeps hcb).bind ?_
  rintro held' ⟨result, g⟩ ⟨hheld, -, hsession, hctx⟩
  exact .done ⟨hheld, hsession, hctx⟩

theorem answerRound_of_local (filter : HttpFilter) (hctx : Holds session f.ctx)
    (hlocal : IsLocal session) :
    Draws (fun held' r => held' = held ∧ ∃ g, r = .stop (200, hello) g ∧ g.session = f.session) held
      (f.answerRound filter buildHttpModule) := by
  obtain ⟨response, hstatus, hbody, hcb⟩ := httpOnRequestHeaders_of_local hctx hlocal
  refine (invoke_keeps (hcb buildHttpModule.inst)).bind ?_
  rintro held' ⟨result, g⟩ ⟨rfl, rfl, hsession, hleft⟩
  have hdue : g.ctx.response.isSome ∨
      (HookResult.outcome (.ok ⟨.replace⟩)).action = .replace := .inr rfl
  dsimp only at hsession hleft ⊢
  rw [if_pos hdue]
  refine (invokeIgnored_logged g _).bind ?_
  rintro held' g' ⟨rfl, hsession', hctx'⟩
  have hresponse : g'.ctx.response = some response := by rw [hctx', hleft]
  rw [hresponse]
  refine .done ⟨rfl, g', ?_, hsession'.trans hsession⟩
  rw [← hstatus, ← hbody]

theorem answerRound_of_not_local (filter : HttpFilter) (hctx : Holds session f.ctx)
    (hlocal : ¬ IsLocal session) :
    Draws (fun held' r => held' = held ∧
      ∃ g, r = .next g ∧ g.session = f.session ∧ g.ctx = f.ctx) held
      (f.answerRound filter buildHttpModule) := by
  have hcb := httpOnRequestHeaders_of_not_local hctx hlocal buildHttpModule.inst
  refine (invoke_keeps hcb).bind ?_
  rintro held' ⟨result, g⟩ ⟨rfl, rfl, hsession, hleft⟩
  dsimp only at hsession hleft ⊢
  have hdue : ¬ (g.ctx.response.isSome ∨
      (HookResult.outcome (.ok {})).action = .replace) := by
    rw [hleft, hctx.response]
    simp
  rw [if_neg hdue]
  exact .done ⟨rfl, g, rfl, hsession, hleft⟩

/-- `request_filter` answers, or fails because the client cannot be written to. -/
theorem requestFilter_of_local (hctx : Holds session f.ctx)
    (hroute : f.ctx.route.bind (·.httpPath) = none) (hlocal : IsLocal session) :
    Draws (fun held' out => held' = held ∧
      (out.1, out.2.session) = if f.session.isOpen then
        (.ok true, f.session.write (.localReply 200 [] hello)) else (.err .writeError, f.session))
      held (f.requestFilter env hooks) := by
  have hsame : rewriteUri env f.bare = some f.bare := by
    unfold rewriteUri Flow.bare
    rw [hroute]
  unfold Flow.requestFilter
  rw [hsame]
  show Draws _ held (Task.forEach _ [buildHttpModule] f >>= _)
  rw [Task.forEach_singleton]
  refine (answerRound_of_local .requestFilter hctx hlocal).bind ?_
  rintro held' r ⟨rfl, g, rfl, hsession⟩
  dsimp only
  unfold Session.respondErrorWithBody
  rw [hsession]
  split_ifs
  · exact .done ⟨rfl, rfl⟩
  · exact .done ⟨rfl, rfl⟩

theorem requestFilter_of_not_local (hctx : Holds session f.ctx)
    (hroute : f.ctx.route.bind (·.httpPath) = none) (hlocal : ¬ IsLocal session) :
    Draws (fun held' out => held' = held ∧ out.1 = .ok false ∧ out.2.session = f.session ∧
      out.2.ctx = f.ctx) held (f.requestFilter env hooks) := by
  have hsame : rewriteUri env f.bare = some f.bare := by
    unfold rewriteUri Flow.bare
    rw [hroute]
  unfold Flow.requestFilter
  rw [hsame]
  show Draws _ held (Task.forEach _ [buildHttpModule] f >>= _)
  rw [Task.forEach_singleton]
  refine (answerRound_of_not_local .requestFilter hctx hlocal).bind ?_
  rintro held' r ⟨rfl, g, rfl, hsession, hleft⟩
  exact .done ⟨rfl, rfl, hsession, hleft⟩

/-- How `upstream_peer` ends with the number `n`. -/
structure RoutedBy (env : HttpEnv) (f : Flow RequestCounter) (n : UInt64)
    (out : Outcome PingoraError HttpPeer × Flow RequestCounter) : Prop where
  route : out.2.ctx.route = some (routeOf n)
  holds : ∀ session, Holds session f.ctx → Holds session out.2.ctx
  sent : ∀ uri peer, routed env n = some (uri, peer) →
    out.1 = .ok peer ∧ out.2.session = f.session.setUri uri
  unsent : routed env n = none → out.1 = .panic ∧
    ∃ reqHeader, out.2.session = { f.session with reqHeader }

theorem upstreamPeer_draws {transport : TransportContext} (hctx : Holds session f.ctx)
    (htransport : f.ctx.transport = some transport) :
    Draws (fun held' out => ∃ n, held' = some n ∧ RoutedBy env f n out) none
      (f.upstreamPeer env hooks) := by
  unfold Flow.upstreamPeer
  show Draws _ none (Task.forEach _ [buildHttpModule] f >>= _)
  rw [Task.forEach_singleton]
  refine Task.Ticketed.bind (Q := fun held' r => ∃ n out, held' = some n ∧
    r = .stop out.1 out.2 ∧ RoutedBy env f n out) ?_ ?_
  · refine (invoke_draws (httpOnRoute_eq hctx htransport buildHttpModule.inst)).bind ?_
    rintro held' ⟨result, g⟩ ⟨n, rfl, rfl, hsession, hleft⟩
    dsimp only at hsession hleft ⊢
    have hroute : g.ctx.route = some (routeOf n) := by
      rw [hleft]
      rfl
    have hholds : ∀ session, Holds session f.ctx → Holds session g.ctx := by
      rintro session ⟨hreq, hresp⟩
      rw [hleft]
      exact ⟨hreq, hresp⟩
    rw [hroute]
    dsimp only [routeOf, HookResult.outcome_ok]
    cases huri : env.uriOfPathAndQuery (target n).2 with
    | none =>
      have hnone : routed env n = none := by simp [routed, huri]
      refine .done ⟨n, (_, g), rfl, rfl, hroute, hholds, ?_, fun _ => ⟨rfl, ?_⟩⟩
      · intro uri peer h
        rw [hnone] at h
        cases h
      · exact ⟨f.session.reqHeader, hsession⟩
    | some uri =>
      have htls : isPortHttps 80 = false := rfl
      dsimp only
      rw [htls]
      cases hpeer : HttpPeer.new env (target n).1 80 false (target n).1 with
      | none =>
        have hnone : routed env n = none := by simp [routed, huri, hpeer]
        refine .done ⟨n, (_, _), rfl, rfl, hroute, hholds, ?_, fun _ => ⟨rfl, ?_⟩⟩
        · intro uri peer h
          rw [hnone] at h
          cases h
        · exact ⟨_, congrArg (·.setUri uri) hsession⟩
      | some peer =>
        have hsome : routed env n = some (uri, peer) := by simp [routed, huri, hpeer]
        refine .done ⟨n, (_, _), rfl, rfl, hroute, hholds, ?_, ?_⟩
        · intro uri' peer' h
          rw [hsome] at h
          cases h
          exact ⟨rfl, congrArg (·.setUri uri) hsession⟩
        · intro h
          rw [hsome] at h
          cases h
  · rintro held' r ⟨n, out, rfl, rfl, hrouted⟩
    exact .done ⟨n, rfl, hrouted⟩

/-- `upstream_request_filter` sets the `Host` header and passes. -/
theorem upstreamRequestFilter_passes {n : UInt64} (hctx : Holds session f.ctx)
    (hroute : f.ctx.route = some (routeOf n)) (hlocal : ¬ IsLocal session) (req : RequestHeader) :
    Draws (fun held' out => held' = held ∧ out.2.2.session = f.session ∧
      match env.headerValue (target n).1 with
      | none => out.1 = .panic
      | some value => out.1 = .ok () ∧ out.2.1 = req.insertHeader "host".toList value) held
      (f.upstreamRequestFilter env hooks req) := by
  have hhost : setHostHeader env f.bare req =
      (env.headerValue (target n).1).map (req.insertHeader "host".toList) := by
    unfold setHostHeader Flow.bare
    dsimp only
    rw [hroute]
    rfl
  unfold Flow.upstreamRequestFilter
  rw [hhost]
  cases env.headerValue (target n).1 with
  | none => exact .done ⟨rfl, rfl, rfl⟩
  | some value =>
    show Draws _ held (Task.forEach _ [buildHttpModule] f >>= _)
    rw [Task.forEach_singleton]
    refine (answerRound_of_not_local .upstreamRequestFilter hctx hlocal).bind ?_
    rintro held' r ⟨rfl, g, rfl, hsession, -⟩
    exact .done ⟨rfl, hsession, rfl, rfl⟩

/-- The callbacks of the body and response filters only log. -/
theorem relay_logged (f : Flow RequestCounter) (x : Exchange) :
    Draws (fun held' g => held' = held ∧ g.session = f.session.writeUpstreamResponse) held
      (f.relay hooks x) := by
  let Kept := fun (session : Session) (held' : Option UInt64) (g : Flow RequestCounter) =>
    held' = held ∧ g.session = session
  have hlogged : ∀ session site held' g, Kept session held' g →
      Draws (Kept session) held' (g.invokeIgnored site buildHttpModule (some logged)) := by
    rintro session site held' g ⟨rfl, rfl⟩
    refine (invokeIgnored_logged g site).bind ?_
    rintro held' g' ⟨rfl, hsession, -⟩
    exact .done ⟨rfl, hsession⟩
  have hrequest : ∀ session, ∀ chunk ∈ x.requestBody, ∀ held' g, Kept session held' g →
      Draws (Kept session) held' (g.requestBodyFilter hooks chunk) := by
    intro session chunk _ held' g h
    refine Task.Ticketed.foldlM (I := Kept session) ?_ h
    intro m hm held' g h
    rw [List.mem_singleton.mp hm]
    exact hlogged session _ held' g h
  have hheaders : ∀ session held' g, Kept session held' g →
      Draws (Kept session) held' (g.responseFilter hooks) := by
    intro session held' g h
    refine Task.Ticketed.foldlM (I := Kept session) ?_ h
    intro m hm held' g h
    rw [List.mem_singleton.mp hm]
    exact hlogged session _ held' g h
  have hresponse : ∀ session, ∀ chunk ∈ x.responseBody, ∀ held' g, Kept session held' g →
      Draws (Kept session) held' (g.responseBodyFilter hooks chunk.1 chunk.2) := by
    intro session chunk _ held' g h
    refine Task.Ticketed.foldlM (I := Kept session) ?_ h
    intro m hm held' g h
    rw [List.mem_singleton.mp hm]
    refine (hlogged session _ held' g h).bind ?_
    intro held' g h
    split_ifs
    · exact hlogged session _ held' g h
    · exact .done h
  refine (Task.Ticketed.foldlM (hrequest f.session) ⟨rfl, rfl⟩).bind ?_
  intro held' g h
  refine (hheaders f.session held' g h).bind ?_
  rintro held' g ⟨rfl, hsession⟩
  exact Task.Ticketed.foldlM (hresponse f.session.writeUpstreamResponse)
    ⟨rfl, congrArg (·.writeUpstreamResponse) hsession⟩

end Filters

/-! ## The request -/

section Request

variable (env : HttpEnv) (x : Exchange) (session : Session)

theorem start_holds : Holds session (Flow.start env x session : Flow RequestCounter).ctx :=
  ⟨⟨_, rfl, rfl, rfl⟩, rfl⟩

theorem serveTask_of_local (hlocal : IsLocal session) :
    Draws (EndsBy env session) none (serveTask env hooks x session) := by
  set f : Flow RequestCounter := Flow.start env x session with hf
  have hfilter : Draws _ none (f.requestFilter env hooks) :=
    requestFilter_of_local (start_holds env x session) rfl hlocal
  refine Task.Ticketed.bind (Q := fun held' out => held' = none ∧
    (out.1 = .answered ∧ f.session.isOpen = true ∧
        out.2.session = f.session.write (.localReply 200 [] hello) ∨
      out.1 = .failed .writeError ∧ f.session.isOpen = false ∧ out.2.session = f.session)) ?_ ?_
  · refine hfilter.bind ?_
    rintro held' ⟨result, g⟩ ⟨rfl, hout⟩
    cases hopen : f.session.isOpen with
    | true =>
      rw [if_pos hopen] at hout
      obtain ⟨rfl, hsession⟩ := Prod.mk.inj hout
      exact .done ⟨rfl, .inl ⟨rfl, rfl, hsession⟩⟩
    | false =>
      rw [if_neg (by rw [hopen]; exact Bool.false_ne_true)] at hout
      obtain ⟨rfl, hsession⟩ := Prod.mk.inj hout
      exact .done ⟨rfl, .inr ⟨rfl, rfl, hsession⟩⟩
  · rintro held' ⟨head, g⟩ ⟨rfl, ⟨rfl, hopen, hsession⟩ | ⟨rfl, hopen, hsession⟩⟩
    · refine .done ⟨hlocal, rfl, ?_⟩
      have hopen' : session.isOpen = true := hopen
      dsimp only at hsession ⊢
      rw [hsession, Session.write_replies, hopen, if_pos hopen', if_pos rfl]
      rfl
    · refine .done ⟨hlocal, rfl, ?_⟩
      have hopen' : ¬ session.isOpen = true := by
        intro h
        exact absurd (h.symm.trans hopen) nofun
      rw [if_neg hopen']
      show g.session.replies = []
      dsimp only at hsession
      rw [hsession]
      rfl

/-- How the filters up to `upstream_request_filter` end for a request with the number `n`. -/
structure HeadBy (n : UInt64) (out : RequestHead × Flow RequestCounter) : Prop where
  replies : out.2.session.replies = []
  isOpen : out.2.session.isOpen = session.isOpen
  head : out.1 = match sentTo env session n with
    | none => .aborted
    | some (peer, header) => .ready peer header

theorem upstreamHead_passes {n : UInt64} {uri : Uri} {peer : HttpPeer}
    {g : Flow RequestCounter} (hlocal : ¬ IsLocal session) (hrouted : routed env n = some (uri, peer))
    (hctx : Holds session g.ctx) (hroute : g.ctx.route = some (routeOf n))
    (hsession : g.session = { session with replies := [] }.setUri uri) :
    Draws (fun held' out => held' = some n ∧ HeadBy env session n out) (some n)
      (g.upstreamHead env hooks peer) := by
  refine (upstreamRequestFilter_passes hctx hroute hlocal g.session.reqHeader).bind ?_
  rintro held' ⟨result, req, g'⟩ ⟨rfl, hsession', hreq⟩
  have hreplies : g'.session.replies = [] := by
    dsimp only at hsession'
    rw [hsession', hsession]
    rfl
  have hopen : g'.session.isOpen = session.isOpen := by
    dsimp only at hsession'
    rw [hsession', hsession]
    rfl
  cases hvalue : env.headerValue (target n).1 with
  | none =>
    rw [hvalue] at hreq
    obtain rfl : result = .panic := hreq
    have hsent : sentTo env session n = none := by simp [sentTo, hrouted, hvalue]
    refine .done ⟨rfl, hreplies, hopen, ?_⟩
    rw [hsent]
  | some value =>
    rw [hvalue] at hreq
    obtain ⟨rfl, rfl⟩ : result = .ok () ∧ req = g.session.reqHeader.insertHeader "host".toList value :=
      hreq
    have hsent : sentTo env session n =
        some (peer, g.session.reqHeader.insertHeader "host".toList value) := by
      rw [hsession]
      simp [sentTo, hrouted, hvalue, Session.setUri]
    refine .done ⟨rfl, hreplies, hopen, ?_⟩
    rw [hsent]

theorem requestHead_of_not_local (hlocal : ¬ IsLocal session) :
    Draws (fun held' out => ∃ n, held' = some n ∧ HeadBy env session n out) none
      ((Flow.start env x session).requestHead env hooks) := by
  refine (requestFilter_of_not_local (start_holds env x session) rfl hlocal).bind ?_
  rintro held' ⟨result, f⟩ ⟨rfl, hresult, hsession, hctx⟩
  dsimp only at hresult hsession hctx
  subst hresult
  have hholds : Holds session f.ctx := hctx ▸ start_holds env x session
  have htransport : ∃ transport, f.ctx.transport = some transport := by
    rw [hctx]
    exact ⟨_, rfl⟩
  obtain ⟨transport, htransport⟩ := htransport
  refine (upstreamPeer_draws hholds htransport).bind ?_
  rintro held' ⟨peer, g⟩ ⟨n, rfl, hrouted⟩
  cases hdec : routed env n with
  | none =>
    obtain ⟨hpanic, reqHeader, hset⟩ := hrouted.unsent hdec
    have hsent : sentTo env session n = none := by simp [sentTo, hdec]
    dsimp only at hpanic hset
    subst hpanic
    rw [hsession] at hset
    refine .done ⟨n, rfl, ?_, ?_, ?_⟩
    · rw [hset]
      rfl
    · rw [hset]
      rfl
    · rw [hsent]
  | some out =>
    obtain ⟨uri, peer'⟩ := out
    obtain ⟨hpeer, hset⟩ := hrouted.sent uri peer' hdec
    dsimp only at hpeer hset
    subst hpeer
    rw [hsession] at hset
    have hholds' := hrouted.holds session hholds
    refine (upstreamHead_passes env session hlocal hdec hholds' hrouted.route hset).mono ?_
    intro held' out h
    exact ⟨n, h⟩

theorem serveTask_of_not_local (hlocal : ¬ IsLocal session) :
    Draws (EndsBy env session) none (serveTask env hooks x session) := by
  refine (requestHead_of_not_local env x session hlocal).bind ?_
  rintro held' ⟨head, g⟩ ⟨n, rfl, hreplies, hopen, hhead⟩
  cases hsent : sentTo env session n with
  | none =>
    rw [hsent] at hhead
    dsimp only at hreplies hhead
    subst hhead
    refine .done ⟨hlocal, hsent.symm, ?_⟩
    rw [hsent]
    simpa using hreplies
  | some out =>
    obtain ⟨peer, header⟩ := out
    rw [hsent] at hhead
    dsimp only at hreplies hhead hopen
    subst hhead
    refine (relay_logged g x).bind ?_
    rintro held' g' ⟨rfl, hsession⟩
    refine .done ⟨hlocal, hsent.symm, ?_⟩
    dsimp only
    rw [hsession, Session.writeUpstreamResponse_replies, hreplies, hopen, hsent]
    simp

theorem serveTask_draws : Draws (EndsBy env session) none (serveTask env hooks x session) := by
  by_cases hlocal : IsLocal session
  · exact serveTask_of_local env x session hlocal
  · exact serveTask_of_not_local env x session hlocal

end Request

/-! ## All requests -/

section All

variable {ι : Type} [DecidableEq ι] (env : HttpEnv) (requests : ι → Arrival) (n : UInt64)
  (schedule : List ι)

theorem iterate_succ (k : ℕ) : (· + 1)^[k] n = n + UInt64.ofNat k := by
  induction k with
  | zero => exact (UInt64.add_zero n).symm
  | succ k ih =>
    rw [Function.iterate_succ_apply', ih, UInt64.ofNat_add, UInt64.add_assoc]
    rfl

theorem exists_inTurn : ∃ order, ((requestPool env hooks requests n).after schedule).InTurn id (· + 1)
    (fun i => EndsBy env (requests i).session) n order := by
  have htasks : ∀ i, Draws (EndsBy env (requests i).session) none
      ((requestPool env hooks requests n).tasks i) :=
    fun i => serveTask_draws env (requests i).exchange (requests i).session
  have hstart : (requestPool env hooks requests n).InTurn id (· + 1)
      (fun i => EndsBy env (requests i).session) n [] := .start rfl htasks
  exact hstart.after schedule

/-- **Numbers are drawn in turn.** In every run there is an order of requests, none of them to be
answered here, in which the `k`-th has the number that comes `k` after the first and ends by it; the
counter is behind the last; and the other requests, once they have ended, were answered here. -/
theorem served_in_turn :
    let pool := (requestPool env hooks requests n).after schedule
    ∃ order : List ι, order.Nodup ∧ pool.world = n + UInt64.ofNat order.length ∧
      (∀ i ∈ order, ¬ IsLocal (requests i).session) ∧
      ∀ i served, pool.tasks i = .done served →
        (IsLocal (requests i).session ∧ AnsweredHere (requests i).session served) ∨
        ∃ k, order[k]? = some i ∧
          SentByNumber env (requests i).session (n + UInt64.ofNat k) served := by
  intro pool
  obtain ⟨order, h⟩ := exists_inTurn env requests n schedule
  refine ⟨order, h.nodup, ?_, ?_, ?_⟩
  · have hworld := h.world
    rw [iterate_succ] at hworld
    exact hworld
  · intro i hi
    obtain ⟨held, hheld, hticketed⟩ := h.tasks i
    rcases hheld with ⟨hi', -⟩ | ⟨k, -, rfl⟩
    · exact absurd hi hi'
    · obtain ⟨held', served, hends, hsome⟩ := hticketed.exists_end
      rw [hsome _ rfl] at hends
      exact hends.1
  · intro i served hserved
    obtain ⟨held, hheld, hends⟩ := h.of_done hserved
    rcases hheld with ⟨-, rfl⟩ | ⟨k, hk, rfl⟩
    · exact .inl hends
    · rw [iterate_succ] at hends
      exact .inr ⟨k, hk, hends.2⟩

end All

/-! ## The upstreams -/

/-- The host for a request whose number has the residue `r`. -/
def hostOf (r : UInt64) : Str :=
  if r = 1 then "httpbin.dev".toList
  else if r = 2 then "httpbin.org".toList
  else "echo.free.beeceptor.com".toList

theorem target_host (n : UInt64) : (target n).1 = hostOf (n % 3) := by
  unfold target hostOf
  split_ifs <;> rfl

theorem mod_three_cases (n : UInt64) : n % 3 = 0 ∨ n % 3 = 1 ∨ n % 3 = 2 := by
  have hlt : n.toNat % 3 < 3 := Nat.mod_lt _ (by omega)
  simp only [← UInt64.toNat_inj, UInt64.toNat_mod]
  show n.toNat % 3 = 0 ∨ n.toNat % 3 = 1 ∨ n.toNat % 3 = 2
  omega

theorem target_host_eq_iff (n n' : UInt64) :
    (target n).1 = (target n').1 ↔ n.toNat ≡ n'.toNat [MOD 3] := by
  have hmod : n.toNat ≡ n'.toNat [MOD 3] ↔ n % 3 = n' % 3 := by
    rw [← UInt64.toNat_inj, UInt64.toNat_mod, UInt64.toNat_mod]
    rfl
  rw [hmod, target_host, target_host]
  rcases mod_three_cases n with h | h | h <;> rcases mod_three_cases n' with h' | h' | h' <;>
    rw [h, h'] <;> decide

/-- What the plugin makes of every number is valid, and its hosts have addresses. -/
structure UpstreamsUsable (env : HttpEnv) : Prop where
  path : ∀ n, (env.uriOfPathAndQuery (target n).2).isSome
  host : ∀ n, (env.headerValue (target n).1).isSome
  resolves : ∀ n, env.resolves (target n).1 80

theorem sentTo_host {env : HttpEnv} (henv : UpstreamsUsable env) (session : Session) (n : UInt64) :
    (sentTo env session n).map (·.1.host) = some (target n).1 := by
  obtain ⟨uri, huri⟩ := Option.isSome_iff_exists.mp (henv.path n)
  obtain ⟨value, hvalue⟩ := Option.isSome_iff_exists.mp (henv.host n)
  simp [sentTo, routed, huri, hvalue, HttpPeer.new, henv.resolves n]

/-- The request was sent to this host. -/
def SentToHost (host : Str) (served : Served RequestCounter) : Prop :=
  served.forwarded.map (·.1.host) = some host

instance (host : Str) (served : Served RequestCounter) : Decidable (SentToHost host served) :=
  inferInstanceAs (Decidable (_ = _))

theorem toNat_add_ofNat {n : UInt64} {k : ℕ} (h : n.toNat + k < UInt64.size) :
    (n + UInt64.ofNat k).toNat = n.toNat + k := by
  have hk : k < UInt64.size := Nat.lt_of_le_of_lt (Nat.le_add_left k n.toNat) h
  rw [UInt64.toNat_add, UInt64.toNat_ofNat_of_lt' hk]
  exact Nat.mod_eq_of_lt h

/-- The requests that were sent to the host of the number `m`, counted by the numbers they drew. -/
theorem card_sentToHost {ι : Type} [Fintype ι] {env : HttpEnv} (henv : UpstreamsUsable env)
    {requests : ι → Arrival} {n : UInt64} {order : List ι}
    {pool : Pool ι RequestCounter (Served RequestCounter)}
    (h : pool.InTurn id (· + 1) (fun i => EndsBy env (requests i).session) n order)
    {served : ι → Served RequestCounter} (hdone : ∀ i, pool.tasks i = .done (served i))
    (hwrap : n.toNat + Fintype.card ι ≤ UInt64.size) (m : UInt64) :
    (Finset.univ.filter fun i => SentToHost (target m).1 (served i)).card =
      Nat.count (fun k => n.toNat + k ≡ m.toNat [MOD 3]) order.length := by
  classical
  have hsent : ∀ k i, order[k]? = some i →
      (SentToHost (target m).1 (served i) ↔ n.toNat + k ≡ m.toNat [MOD 3]) := by
    intro k i hk
    have hlt : k < order.length := (List.getElem?_eq_some_iff.mp hk).1
    have hle : order.length ≤ Fintype.card ι := h.nodup.length_le_card
    have hnumber := toNat_add_ofNat (n := n) (k := k) (by omega)
    obtain ⟨held, ⟨hi, -⟩ | ⟨k', hk', rfl⟩, hends⟩ := h.of_done (hdone i)
    · exact absurd (List.mem_of_getElem? hk) hi
    · have hsame : k = k' := (List.getElem?_inj hlt h.nodup).mp (hk.trans hk'.symm)
      subst hsame
      rw [iterate_succ] at hends
      obtain ⟨-, hforwarded, -⟩ := hends
      unfold SentToHost
      rw [hforwarded, sentTo_host henv, Option.some_inj, target_host_eq_iff, hnumber]
  have hothers : ∀ i, SentToHost (target m).1 (served i) → i ∈ order := by
    intro i hi
    obtain ⟨held, ⟨-, rfl⟩ | ⟨k, hk, -⟩, hends⟩ := h.of_done (hdone i)
    · obtain ⟨-, hforwarded, -⟩ := hends
      rw [SentToHost, hforwarded] at hi
      cases hi
    · exact List.mem_of_getElem? hk
  have hlist : (Finset.univ.filter fun i => SentToHost (target m).1 (served i)) =
      (order.filter fun i => SentToHost (target m).1 (served i)).toFinset := by
    ext i
    simp only [Finset.mem_filter, Finset.mem_univ, true_and, List.mem_toFinset, List.mem_filter,
      decide_eq_true_eq]
    exact ⟨fun hi => ⟨hothers i hi, hi⟩, fun hi => hi.2⟩
  rw [hlist, List.toFinset_card_of_nodup (h.nodup.filter _), ← List.countP_eq_length_filter]
  exact countP_eq_count hsent

/-- **The upstreams get equally many requests**, to within one, once all have ended, as long as the
counter does not wrap around. -/
theorem upstreams_balanced {ι : Type} [Fintype ι] [DecidableEq ι] {env : HttpEnv}
    (henv : UpstreamsUsable env) {requests : ι → Arrival} {n : UInt64} {schedule : List ι}
    {served : ι → Served RequestCounter}
    (hdone : ∀ i, ((requestPool env hooks requests n).after schedule).tasks i = .done (served i))
    (hwrap : n.toNat + Fintype.card ι ≤ UInt64.size) (m m' : UInt64) :
    (Finset.univ.filter fun i => SentToHost (target m).1 (served i)).card ≤
      (Finset.univ.filter fun i => SentToHost (target m').1 (served i)).card + 1 := by
  obtain ⟨order, h⟩ := exists_inTurn env requests n schedule
  rw [card_sentToHost henv h hdone hwrap m, card_sentToHost henv h hdone hwrap m']
  exact count_residue_le n.toNat order.length (by omega) m.toNat m'.toNat

theorem plain_usable : UpstreamsUsable Plain.env :=
  ⟨fun _ => rfl, fun _ => rfl, fun _ => rfl⟩

/-- Two plain requests, callback by callback, the counter at 5. -/
def plainPool : Pool Bool RequestCounter (Served RequestCounter) :=
  (requestPool Plain.env hooks (fun _ => ⟨Plain.exchange, Plain.session⟩) 5).after
    (List.replicate 6 [true, false]).flatten

theorem plain_balanced : ∃ served : Bool → Served RequestCounter,
    (∀ i, plainPool.tasks i = .done (served i)) ∧
      (5 : UInt64).toNat + Fintype.card Bool ≤ UInt64.size ∧
      ∀ m m' : UInt64, (Finset.univ.filter fun i => SentToHost (target m).1 (served i)).card ≤
        (Finset.univ.filter fun i => SentToHost (target m').1 (served i)).card + 1 := by
  have hexists : ∀ i, ∃ served, plainPool.tasks i = .done served := by
    intro i
    cases i <;> exact ⟨_, rfl⟩
  choose served hserved using hexists
  have hwrap : (5 : UInt64).toNat + Fintype.card Bool ≤ UInt64.size := by decide
  exact ⟨served, hserved, hwrap, upstreams_balanced plain_usable hserved hwrap⟩

end Vakil.ExampleHttpMw
