import Vakil.ExampleNoop
import Vakil.Runtime.Proofs.InterleavingProofs

/-!
# Proofs: the noop plugin's local reply

`GET /local-reply` is answered by this plugin, behind modules that decline it, whatever is served at the
same time (`local_reply_answered`).
-/

namespace Vakil.ExampleNoop

open ForLoop Tasks

variable {V : Type}

/-! ## The local reply -/

/-- The request that the plugin answers itself. -/
def IsLocal (session : Session) : Prop :=
  session.reqHeader.method = "GET".toList ∧ session.reqHeader.uri.path = "/local-reply".toList

/-- The plugin answers the request of the context. -/
def Unanswered (ctx : HttpContext) : Prop := ∃ req, ctx.request = some req ∧ answers ctx req = true

theorem unanswered_start (env : HttpEnv) (x : Exchange) {session : Session} (h : IsLocal session) :
    Unanswered (Flow.start env x session : Flow (ProcessState V)).ctx := by
  refine ⟨.ofRequestHeader x.streamId session.reqHeader, rfl, ?_⟩
  have hmethod : (HttpRequest.ofRequestHeader x.streamId session.reqHeader).method = "GET".toList := h.1
  have hpath : (HttpRequest.ofRequestHeader x.streamId session.reqHeader).path =
      "/local-reply".toList := h.2
  have hresponse : (Flow.start env x session : Flow (ProcessState V)).ctx.response = none := rfl
  simp [answers, hmethod, hpath, hresponse]

/-- Where this plugin would answer, the module does not, and leaves it the request. -/
def Declines (m : PluginHttpModule (ProcessState V)) : Prop :=
  ∀ cb, m.onRequestHeaders = some cb → ∀ inst ctx s, Unanswered ctx →
    Unanswered (cb inst ctx s).2.1 ∧ (HookResult.outcome (cb inst ctx s).1).action ≠ .replace

theorem Unanswered.response {ctx : HttpContext} (h : Unanswered ctx) : ctx.response = none := by
  obtain ⟨req, -, his⟩ := h
  unfold answers at his
  simp only [Bool.and_eq_true, Option.isNone_iff_eq_none] at his
  exact his.2

/-- The plugin's answer, when it is asked. -/
theorem exampleOnHttpEvent_answers {ctx : HttpContext} (h : Unanswered ctx) :
    ∃ response : HttpResponse, response.status = 200 ∧ response.body = hello ∧
      ∀ inst (s : ProcessState V), exampleOnHttpEvent inst ctx s =
        (.ok ⟨.replace⟩, { ctx with response := some response }, s) := by
  obtain ⟨req, hreq, his⟩ := h
  refine ⟨⟨req.streamId, req.version, 200, [], hello⟩, rfl, rfl, fun inst s => ?_⟩
  unfold exampleOnHttpEvent
  rw [hreq]
  dsimp only
  rw [if_pos his]

/-- Once there is a response, the callback leaves the context as it is. -/
theorem exampleOnHttpEvent_answered {ctx : HttpContext} (h : ctx.response.isSome)
    (inst : PluginInstance) (s : ProcessState V) : (exampleOnHttpEvent inst ctx s).2.1 = ctx := by
  unfold exampleOnHttpEvent
  cases ctx.request with
  | none => rfl
  | some req =>
    have hsome : ctx.response.isNone = false := by
      obtain ⟨response, hresponse⟩ := Option.isSome_iff_exists.mp h
      rw [hresponse]
      rfl
    have hnot : ¬ answers ctx req = true := by
      unfold answers
      rw [hsome, Bool.and_false]
      exact Bool.false_ne_true
    dsimp only
    rw [if_neg hnot]

section Answer

variable {pre : List (PluginHttpModule (ProcessState V))} {f : Flow (ProcessState V)}
  {session : Session}

/-- So far only modules up to this one were called, in `request_filter`. -/
structure Asked (pre : List (PluginHttpModule (ProcessState V))) (session : Session)
    (f : Flow (ProcessState V)) : Prop where
  session : f.session = session
  calls : ∀ c ∈ f.calls, c.kind.filter = .requestFilter ∧ c.module ∈ pre ++ [buildHttpModule]

theorem Asked.invoke (h : Asked pre session f) {m : PluginHttpModule (ProcessState V)}
    (hm : m ∈ pre ++ [buildHttpModule]) (hook : HttpHook) (cb : HttpHookFn (ProcessState V)) :
    (f.invoke ⟨.requestFilter, hook⟩ m cb).Sat (fun _ => True) fun out =>
      Asked pre session out.2 ∧ ∃ s, out = ((cb m.inst f.ctx s).1, out.2) ∧
        out.2.ctx = (cb m.inst f.ctx s).2.1 := by
  refine .turn (fun _ _ => trivial) fun s _ => .done ⟨⟨h.session, ?_⟩, s, rfl, rfl⟩
  intro c hc
  rcases List.mem_append.mp hc with hc | hc
  · exact h.calls c hc
  · rw [List.mem_singleton.mp hc]
    exact ⟨rfl, hm⟩

theorem answerRound_declines {m : PluginHttpModule (ProcessState V)} (hm : m ∈ pre)
    (hdeclines : Declines m) (h : Asked pre session f) (hctx : Unanswered f.ctx) :
    (f.answerRound .requestFilter m).Sat (fun _ => True) fun step =>
      ∃ g, step = .next g ∧ Asked pre session g ∧ Unanswered g.ctx := by
  unfold Flow.answerRound
  cases hcb : m.onRequestHeaders with
  | none => exact .done ⟨f, rfl, h, hctx⟩
  | some cb =>
    refine (h.invoke (List.mem_append_left _ hm) .onRequestHeaders cb).bind ?_
    rintro ⟨result, g⟩ ⟨hg, s, hresult, hleft⟩
    obtain ⟨rfl, -⟩ := Prod.mk.inj hresult
    obtain ⟨hctx', haction⟩ := hdeclines cb hcb m.inst f.ctx s hctx
    dsimp only at hleft
    rw [← hleft] at hctx'
    have hnot : ¬ (g.ctx.response.isSome ∨
        (HookResult.outcome (cb m.inst f.ctx s).1).action = .replace) := by
      rw [hctx'.response]
      rintro (hsome | haction')
      · cases hsome
      · exact haction haction'
    dsimp only
    rw [if_neg hnot]
    exact .done ⟨g, rfl, hg, hctx'⟩

theorem answerRound_answers (h : Asked pre session f) (hctx : Unanswered f.ctx) :
    (f.answerRound .requestFilter buildHttpModule).Sat (fun _ => True) fun step =>
      ∃ g, step = .stop (200, hello) g ∧ Asked pre session g := by
  have hmem : (buildHttpModule : PluginHttpModule (ProcessState V)) ∈ pre ++ [buildHttpModule] :=
    List.mem_append_right _ List.mem_cons_self
  obtain ⟨response, hstatus, hbody, hcb⟩ := exampleOnHttpEvent_answers (V := V) hctx
  refine (h.invoke hmem .onRequestHeaders exampleOnHttpEvent).bind ?_
  rintro ⟨result, g⟩ ⟨hg, s, hresult, hleft⟩
  rw [hcb] at hresult hleft
  obtain ⟨rfl, -⟩ := Prod.mk.inj hresult
  dsimp only at hleft ⊢
  rw [if_pos (.inr rfl)]
  refine ((hg.invoke hmem .onLocalReply exampleOnHttpEvent).bind
    (S := fun g => Asked pre session g ∧ g.ctx.response = some response) ?_).bind ?_
  · rintro ⟨result', g'⟩ ⟨hg', s', -, hleft'⟩
    refine .done ⟨hg', ?_⟩
    dsimp only at hleft'
    rw [hleft', exampleOnHttpEvent_answered (by rw [hleft]; rfl), hleft]
  · rintro g' ⟨hg', hresponse⟩
    rw [hresponse]
    refine .done ⟨g', ?_, hg'⟩
    rw [hstatus, hbody]

/-- The loop stops at this plugin. -/
theorem answerLoop_answers {pre' post : List (PluginHttpModule (ProcessState V))}
    (hpre : ∀ m ∈ pre', m ∈ pre ∧ Declines m) (h : Asked pre session f) (hctx : Unanswered f.ctx) :
    (Task.forEach (Flow.answerRound .requestFilter) (pre' ++ buildHttpModule :: post) f).Sat
      (fun _ => True) fun step => ∃ g, step = .stop (200, hello) g ∧ Asked pre session g := by
  induction pre' generalizing f with
  | nil =>
    refine (answerRound_answers h hctx).bind ?_
    rintro step ⟨g, rfl, hg⟩
    exact .done ⟨g, rfl, hg⟩
  | cons m pre' ih =>
    obtain ⟨hm, hdeclines⟩ := hpre m List.mem_cons_self
    refine (answerRound_declines hm hdeclines h hctx).bind ?_
    rintro step ⟨g, rfl, hg, hctx'⟩
    exact ih (fun m' hm' => hpre m' (List.mem_cons_of_mem _ hm')) hg hctx'

end Answer

/-- How a request ends that the plugin answers. -/
structure AnsweredHere (pre : List (PluginHttpModule (ProcessState V))) (session : Session)
    (served : Served (ProcessState V)) : Prop where
  forwarded : served.forwarded = none
  replies : served.flow.session.replies =
    if session.isOpen then [.localReply 200 [] hello] else []
  calls : ∀ c ∈ served.flow.calls, c.kind.filter = .requestFilter ∧ c.module ∈ pre ++ [buildHttpModule]

theorem serveTask_answers (env : HttpEnv) {hooks : PluginProxyHooks (ProcessState V)}
    {pre post : List (PluginHttpModule (ProcessState V))}
    (hms : hooks.httpModules = pre ++ buildHttpModule :: post) (hpre : ∀ m ∈ pre, Declines m)
    (x : Exchange) {session : Session} (hlocal : IsLocal session) :
    (serveTask env hooks x session).Sat (fun _ => True) (AnsweredHere pre session) := by
  set f : Flow (ProcessState V) := Flow.start env x session with hf
  have hasked : Asked pre f.session f := ⟨rfl, fun _ hc => absurd hc List.not_mem_nil⟩
  have hfilter : (f.requestFilter env hooks).Sat (fun _ => True) fun out =>
      Asked pre out.2.session out.2 ∧
        (out.1, out.2.session) = if f.session.isOpen then
          (.ok true, f.session.write (.localReply 200 [] hello)) else (.err .writeError, f.session) := by
    unfold Flow.requestFilter
    rw [show rewriteUri env f.bare = some f.bare from rfl, hms]
    refine (answerLoop_answers (fun m hm => ⟨hm, hpre m hm⟩) hasked
      (unanswered_start env x hlocal)).bind ?_
    rintro step ⟨g, rfl, hg⟩
    dsimp only
    unfold Session.respondErrorWithBody
    rw [hg.session]
    split_ifs
    · exact .done ⟨⟨rfl, hg.calls⟩, rfl⟩
    · exact .done ⟨⟨rfl, hg.calls⟩, rfl⟩
  refine Task.Ensures.bind (Q := fun out => Asked pre out.2.session out.2 ∧
    (out.1 = .answered ∧ f.session.isOpen = true ∧
        out.2.session = f.session.write (.localReply 200 [] hello) ∨
      out.1 = .failed .writeError ∧ ¬ f.session.isOpen = true ∧ out.2.session = f.session)) ?_ ?_
  · refine hfilter.bind ?_
    rintro ⟨result, g⟩ ⟨hg, hout⟩
    by_cases hopen : f.session.isOpen = true
    · rw [if_pos hopen] at hout
      obtain ⟨rfl, hsession⟩ := Prod.mk.inj hout
      exact .done ⟨hg, .inl ⟨rfl, hopen, hsession⟩⟩
    · rw [if_neg hopen] at hout
      obtain ⟨rfl, hsession⟩ := Prod.mk.inj hout
      exact .done ⟨hg, .inr ⟨rfl, hopen, hsession⟩⟩
  · rintro ⟨head, g⟩ ⟨hg, ⟨rfl, hopen, hsession⟩ | ⟨rfl, hopen, hsession⟩⟩
    · refine .done ⟨rfl, ?_, hg.calls⟩
      have hopen' : session.isOpen = true := hopen
      dsimp only at hsession
      show g.session.replies = _
      rw [hsession, Session.write_replies, if_pos hopen, if_pos hopen']
      rfl
    · refine .done ⟨rfl, ?_, hg.calls⟩
      have hopen' : ¬ session.isOpen = true := hopen
      dsimp only at hsession
      show g.session.replies = _
      rw [hsession, if_neg hopen']
      rfl

/-- **The plugin answers** `GET /local-reply` behind modules that decline it, whatever runs in between:
the request goes to no peer and no further module is asked. -/
theorem local_reply_answered {ι : Type} [DecidableEq ι] (env : HttpEnv)
    {hooks : PluginProxyHooks (ProcessState V)}
    {pre post : List (PluginHttpModule (ProcessState V))}
    (hms : hooks.httpModules = pre ++ buildHttpModule :: post) (hpre : ∀ m ∈ pre, Declines m)
    (requests : ι → Arrival) (s : ProcessState V) (schedule : List ι) {i : ι}
    (hlocal : IsLocal (requests i).session) {served : Served (ProcessState V)}
    (h : ((requestPool env hooks requests s).after schedule).tasks i = .done served) :
    AnsweredHere pre (requests i).session served := by
  have hanswers := serveTask_answers env hms hpre (requests i).exchange hlocal
  exact hanswers.of_feed (feed_worldsFound h)

/-- A module that has a look at every request. -/
def onlooker : PluginHttpModule (ProcessState Unit) :=
  { PluginHttpModule.default with onRequestHeaders := some fun _ ctx s => (.ok {}, ctx, s) }

theorem onlooker_declines : Declines onlooker := by
  intro cb hcb inst ctx s hctx
  obtain rfl := Option.some.inj hcb
  refine ⟨hctx, ?_⟩
  show HookAction.continue ≠ .replace
  decide

/-- A router as in the plain request. -/
def router : PluginHttpModule (ProcessState Unit) :=
  { PluginHttpModule.default with
    onRoute := some fun inst ctx s =>
      ((Plain.onRoute inst ctx ()).1, (Plain.onRoute inst ctx ()).2.1, s) }

/-- `GET /local-reply`. -/
def localSession : Session :=
  Plain.session.setUri ⟨none, none, "/local-reply".toList, none⟩

def localPool : Pool Bool (ProcessState Unit) (Served (ProcessState Unit)) :=
  requestPool Plain.env ⟨[onlooker, buildHttpModule, router], [], []⟩
    (fun _ => ⟨Plain.exchange, localSession⟩) ⟨(), false⟩

theorem local_reply_answered_twice : ∃ served,
    (localPool.after [true, false, false, true, false]).tasks false = .done served ∧
      AnsweredHere [onlooker] localSession served := by
  have hexists : ∃ served,
      (localPool.after [true, false, false, true, false]).tasks false = .done served := ⟨_, rfl⟩
  obtain ⟨served, hserved⟩ := hexists
  have hms : [onlooker, buildHttpModule, router] = [onlooker] ++ buildHttpModule :: [router] := rfl
  have hpre : ∀ m ∈ [onlooker], Declines m := by
    intro m hm
    rw [List.mem_singleton.mp hm]
    exact onlooker_declines
  have hlocal : IsLocal localSession := ⟨rfl, rfl⟩
  exact ⟨served, hserved, local_reply_answered Plain.env hms hpre
    (fun _ => ⟨Plain.exchange, localSession⟩) ⟨(), false⟩ _ hlocal hserved⟩

end Vakil.ExampleNoop
