import Mathlib.Tactic.Ring
import Vakil.Runtime.Proofs.ServerProofs
import Vakil.Runtime.Proofs.RequestProofs

/-!
# Proofs: requests served at the same time

What holds of a request however its callbacks are interleaved with those of others: it is served as
alone, by plugins that find what the others left (`served_replays`), its client gets at most one reply
(`served_replies`), and it ends after a bounded number of its own callbacks (`served_within`). Each request
has one upstream attempt.
-/

namespace Vakil

open ForLoop Tasks

variable {W : Type}

/-- The request ended as the run did, whose plugins are those of the request behind a view. -/
structure Served.EndsAs {V : Type} (view : View V W) (served : Served W) (run : RequestRun V) :
    Prop where
  forwarded : run.forwarded = served.forwarded
  session : run.state.session = served.flow.session
  ctx : run.state.ctx = served.flow.ctx
  calls : List.Forall₂ (Call.Through view (PluginHttpModule.through view)) served.flow.calls run.calls

section Replay

variable {ι : Type} [DecidableEq ι] (env : HttpEnv) (hooks : PluginProxyHooks W)
  (requests : ι → Arrival) (w : W) (schedule : List ι) (i : ι)

/-- The worlds in which a request's callbacks were called. -/
def worldsFound : List W := Pool.found i (requestPool env hooks requests w) schedule

variable {env hooks requests w schedule i}

theorem feed_worldsFound {served : Served W}
    (h : ((requestPool env hooks requests w).after schedule).tasks i = .done served) :
    (serveTask env hooks (requests i).exchange (requests i).session).feed
      (worldsFound env hooks requests w schedule i) = .done served := by
  rw [Pool.tasks_after] at h
  exact h

/-- **A request among others** is served as alone, by plugins that find the worlds that its own
callbacks found. -/
theorem served_replays {served : Served W}
    (h : ((requestPool env hooks requests w).after schedule).tasks i = .done served) :
    ∃ found : List W,
      (∀ w' ∈ found, ∃ pre post, schedule = pre ++ i :: post ∧
        ((requestPool env hooks requests w).after pre).world = w') ∧
      served.EndsAs (.replay w) (serveRequest env (hooks.through (.replay w))
        (requests i).exchange (requests i).session found) := by
  have hfeed := feed_worldsFound h
  set found := worldsFound env hooks requests w schedule i with hfound
  have hend : ((serveTask env hooks (requests i).exchange (requests i).session).runOn
      (.replay w) found).1 = served := Task.runOn_replay w hfeed
  obtain ⟨hforwarded, hshows⟩ := serveTask_runOn (.replay w) env hooks (requests i).exchange
    (requests i).session found
  rw [hend] at hforwarded hshows
  refine ⟨found, ?_, hforwarded, hshows.session, hshows.ctx, hshows.calls⟩
  intro w' hw'
  exact Pool.exists_of_mem_found hw'

/-- **The client of a request among others** gets at most one reply. If the request was sent to a peer, it
is the peer's response or a local reply, and never missing on an open connection. -/
theorem served_replies {served : Served W}
    (h : ((requestPool env hooks requests w).after schedule).tasks i = .done served) :
    (served.forwarded = none → served.flow.session.replies = [] ∨
      ∃ reply, reply ≠ .upstreamResponse ∧ served.flow.session.replies = [reply]) ∧
    (served.forwarded.isSome →
      if (requests i).session.isOpen then served.flow.session.replies = [.upstreamResponse] ∨
        ∃ status body, served.flow.session.replies = [.localReply status [] body]
      else served.flow.session.replies = []) := by
  obtain ⟨found, -, hforwarded, hsession, -, -⟩ := served_replays h
  rw [← hforwarded, ← hsession]
  have hshape := serveRequest_shape env (hooks.through (.replay w)) (requests i).exchange
    (requests i).session found
  generalize serveRequest env (hooks.through (.replay w)) (requests i).exchange
    (requests i).session found = run at hshape ⊢
  cases hshape with
  | @answered r hcalls hctx hlast hfwd hreplies =>
    have hlocal : Reply.localReply r.status [] r.body ≠ .upstreamResponse := by rintro ⟨⟩
    rw [RequestRun.replies] at hreplies
    rw [hreplies, hfwd]
    refine ⟨fun _ => ?_, fun hsome => ?_⟩
    · split_ifs
      · exact .inr ⟨_, hlocal, rfl⟩
      · exact .inl rfl
    · cases hsome
  | @unrouted hs rs code hcalls hhs hrs hctx hhsTurns hrsTurns hfwd hreplies =>
    have hhost : Reply.hostError code ≠ .upstreamResponse := by rintro ⟨⟩
    rw [RequestRun.replies] at hreplies
    rw [hreplies, hfwd]
    refine ⟨fun _ => ?_, fun hsome => ?_⟩
    · split_ifs
      · exact .inr ⟨_, hhost, rfl⟩
      · exact .inl rfl
    · cases hsome
  | unsent hcalls hhs hrs hkind hc hus hfwd hreplies =>
    rw [hfwd]
    refine ⟨fun _ => .inl hreplies, fun hsome => ?_⟩
    cases hsome
  | @answeredAndSent hs rs us bs c r hcalls hhs hrs hkind hc hus hbs hfwd hopen hreplies =>
    refine ⟨fun hnone => ?_, fun _ => ?_⟩
    · rw [hnone] at hfwd
      cases hfwd
    · rw [if_pos hopen]
      exact .inr ⟨_, _, hreplies⟩
  | sent hcalls hhs hrs hkind hc hus hbs hfwd hreplies =>
    refine ⟨fun hnone => ?_, fun _ => ?_⟩
    · rw [hnone] at hfwd
      cases hfwd
    · rw [RequestRun.replies] at hreplies
      rw [hreplies]
      split_ifs
      · exact .inl rfl
      · rfl

end Replay

section Plain

/-- Two plain requests. -/
def Plain.pool : Pool Bool Unit (Served Unit) :=
  requestPool Plain.env ⟨[Plain.router], [], []⟩ (fun _ => ⟨Plain.exchange, Plain.session⟩) ()

theorem plain_replies : ∃ served : Served Unit,
    (Plain.pool.after [true, false]).tasks false = .done served ∧
      (served.forwarded = none → served.flow.session.replies = [] ∨
        ∃ reply, reply ≠ .upstreamResponse ∧ served.flow.session.replies = [reply]) ∧
      (served.forwarded.isSome →
        if Plain.session.isOpen then served.flow.session.replies = [.upstreamResponse] ∨
          ∃ status body, served.flow.session.replies = [.localReply status [] body]
        else served.flow.session.replies = []) := by
  have hexists : ∃ served, (Plain.pool.after [true, false]).tasks false = .done served := ⟨_, rfl⟩
  obtain ⟨served, hserved⟩ := hexists
  exact ⟨served, hserved, served_replies hserved⟩

end Plain

/-! ## Every request ends -/

namespace Flow

section Within

variable (env : HttpEnv) (hooks : PluginProxyHooks W) (f : Flow W)

theorem invoke_within (site : HttpSite) (m : PluginHttpModule W) (cb : HttpHookFn W) :
    (f.invoke site m cb).Within 1 :=
  .turn fun _ => .done _ _

theorem invokeIgnored_within (site : HttpSite) (m : PluginHttpModule W)
    (cb : Option (HttpHookFn W)) : (f.invokeIgnored site m cb).Within 1 := by
  cases cb with
  | none => exact .done _ _
  | some cb => exact (f.invoke_within site m cb).bind fun _ => .done 0 _

theorem routeRound_within (m : PluginHttpModule W) : (f.routeRound env m).Within 1 := by
  unfold routeRound
  cases m.onRoute with
  | none => exact .done _ _
  | some cb =>
    refine (f.invoke_within _ m cb).bind (n := 0) ?_
    rintro ⟨result, f⟩
    dsimp only
    split
    · exact .done _ _
    · split
      · exact .done _ _
      · split
        · exact .done _ _
        · split
          · exact .done _ _
          · split
            · exact .done _ _
            · split <;> exact .done _ _
      · exact .done _ _

theorem answerRound_within (filter : HttpFilter) (m : PluginHttpModule W) :
    (f.answerRound filter m).Within 2 := by
  unfold answerRound
  cases m.onRequestHeaders with
  | none => exact .done _ _
  | some cb =>
    refine (f.invoke_within _ m cb).bind (n := 1) ?_
    rintro ⟨result, f⟩
    dsimp only
    split_ifs
    · refine (f.invokeIgnored_within _ m _).bind (n := 0) ?_
      intro f
      split <;> exact .done _ _
    · exact .done _ _

theorem requestFilter_within :
    (f.requestFilter env hooks).Within (hooks.httpModules.length * 2) := by
  unfold requestFilter
  cases rewriteUri env f.bare with
  | none => exact .done _ _
  | some s =>
    refine (Task.Within.forEach (fun m f => answerRound_within f _ m) _ _).bind (n := 0) ?_
    rintro (f | ⟨⟨status, body⟩, f⟩)
    · exact .done _ _
    · dsimp only
      split <;> exact .done _ _

theorem upstreamPeer_within : (f.upstreamPeer env hooks).Within (hooks.httpModules.length * 1) := by
  refine (Task.Within.forEach (fun m f => routeRound_within env f m) _ _).bind (n := 0) ?_
  rintro (f | ⟨result, f⟩) <;> exact .done _ _

theorem upstreamRequestFilter_within (req : RequestHeader) :
    (f.upstreamRequestFilter env hooks req).Within (hooks.httpModules.length * 2) := by
  unfold upstreamRequestFilter
  cases setHostHeader env f.bare req with
  | none => exact .done _ _
  | some req =>
    refine (Task.Within.forEach (fun m f => answerRound_within f _ m) _ _).bind (n := 0) ?_
    rintro (f | ⟨⟨status, body⟩, f⟩)
    · exact .done _ _
    · dsimp only
      split <;> exact .done _ _

theorem upstreamHead_within (peer : HttpPeer) :
    (f.upstreamHead env hooks peer).Within (hooks.httpModules.length * 2) := by
  refine (f.upstreamRequestFilter_within env hooks _).bind (n := 0) ?_
  rintro ⟨_ | _ | _, req, f⟩ <;> exact .done _ _

theorem requestHead_within :
    (f.requestHead env hooks).Within (hooks.httpModules.length * 5) := by
  have hsum : hooks.httpModules.length * 5 = hooks.httpModules.length * 2 +
      (hooks.httpModules.length * 1 + hooks.httpModules.length * 2) := by omega
  rw [hsum]
  refine (f.requestFilter_within env hooks).bind ?_
  rintro ⟨(_ | _) | _ | _, f⟩
  · refine (f.upstreamPeer_within env hooks).bind ?_
    rintro ⟨peer | _ | _, f⟩
    · exact f.upstreamHead_within env hooks peer
    · exact .done _ _
    · exact .done _ _
  · exact .done _ _
  · exact .done _ _
  · exact .done _ _

theorem requestBodyFilter_within (body : Option Bytes) :
    (f.requestBodyFilter hooks body).Within (hooks.httpModules.length * 1) :=
  Task.Within.foldlM (fun f m => invokeIgnored_within f _ m _) _ _

theorem responseFilter_within : (f.responseFilter hooks).Within (hooks.httpModules.length * 1) :=
  Task.Within.foldlM (fun f m => invokeIgnored_within f _ m _) _ _

theorem responseBodyFilter_within (body : Option Bytes) (endOfStream : Bool) :
    (f.responseBodyFilter hooks body endOfStream).Within (hooks.httpModules.length * 2) := by
  refine Task.Within.foldlM (fun f m => ?_) _ _
  refine (f.invokeIgnored_within _ m _).bind (n := 1) ?_
  intro f
  split_ifs
  · exact f.invokeIgnored_within _ m _
  · exact .done _ _

/-- The turns of a request that is sent to a peer, with `k` modules. -/
def turnsToRelay (k : ℕ) (x : Exchange) : ℕ :=
  x.requestBody.length * (k * 1) + (k * 1 + x.responseBody.length * (k * 2))

theorem relay_within (x : Exchange) :
    (f.relay hooks x).Within (turnsToRelay hooks.httpModules.length x) := by
  refine (Task.Within.foldlM (fun f chunk => requestBodyFilter_within hooks f chunk) _ f).bind ?_
  intro f
  refine (f.responseFilter_within hooks).bind ?_
  intro f
  have hchunk : ∀ (f : Flow W) (chunk : Option Bytes × Bool),
      (f.responseBodyFilter hooks chunk.1 chunk.2).Within (hooks.httpModules.length * 2) :=
    fun f chunk => f.responseBodyFilter_within hooks chunk.1 chunk.2
  exact Task.Within.foldlM hchunk _ _

end Within

end Flow

theorem serveTask_within (env : HttpEnv) (hooks : PluginProxyHooks W) (x : Exchange)
    (session : Session) : (serveTask env hooks x session).Within
      (hooks.httpModules.length * (6 + x.requestBody.length + 2 * x.responseBody.length)) := by
  have hsum : hooks.httpModules.length * (6 + x.requestBody.length + 2 * x.responseBody.length) =
      hooks.httpModules.length * 5 + (Flow.turnsToRelay hooks.httpModules.length x + 0) := by
    unfold Flow.turnsToRelay
    ring
  rw [hsum]
  refine ((Flow.start env x session).requestHead_within env hooks).bind ?_
  rintro ⟨_ | _ | _ | ⟨peer, req⟩, f⟩
  · exact .done _ _
  · exact .done _ _
  · exact .done _ _
  · exact (f.relay_within hooks x).bind fun _ => .done _ _

/-- **No request waits for another.** A request with one upstream attempt ends with its callbacks, of which
it has at most six for each module and one, or two, more for each chunk of its body, or of the response. -/
theorem served_within {ι : Type} [DecidableEq ι] (env : HttpEnv) (hooks : PluginProxyHooks W)
    (requests : ι → Arrival) (w : W) (schedule : List ι) (i : ι)
    (h : hooks.httpModules.length * (6 + (requests i).exchange.requestBody.length +
      2 * (requests i).exchange.responseBody.length) ≤ schedule.count i) :
    ∃ served, ((requestPool env hooks requests w).after schedule).tasks i = .done served :=
  Pool.exists_done_of_within (serveTask_within env hooks _ _) h

theorem plain_within : 1 * (6 + 0 + 2 * 1) ≤ (List.replicate 8 false).count false ∧
    ∃ served, (Plain.pool.after (List.replicate 8 false)).tasks false = .done served :=
  ⟨by decide, served_within Plain.env ⟨[Plain.router], [], []⟩
    (fun _ => ⟨Plain.exchange, Plain.session⟩) () (List.replicate 8 false) false (by decide)⟩

end Vakil
