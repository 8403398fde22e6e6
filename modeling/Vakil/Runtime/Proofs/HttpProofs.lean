import Vakil.Runtime.Verdicts

/-!
# Proofs: the rounds and loops of the HTTP filters

For each loop of the filters, what one round can do (`answerRound_cases`, `routeRound_cases`) and
from it what the whole loop does to the record of calls, the context and the session.
-/

namespace Vakil

open ForLoop

variable {W : Type}

theorem HttpState.invokeIgnored_calls (s : HttpState W) (site : HttpSite) (m : PluginHttpModule W)
    (cb : Option (HttpHookFn W)) :
    (s.invokeIgnored site m cb).calls =
      s.calls ++ (cb.map fun cb => s.callOf site m cb).toList := by
  cases cb <;> simp [invokeIgnored]

@[simp] theorem HttpState.invokeIgnored_session (s : HttpState W) (site : HttpSite)
    (m : PluginHttpModule W) (cb : Option (HttpHookFn W)) :
    (s.invokeIgnored site m cb).session = s.session := by
  cases cb <;> rfl

/-! ## The context between calls -/

/-- From `s` to `t` the context was changed by the calls made on the way only: it is the one that the
last of them left. -/
def Tracks (s t : HttpState W) : Prop :=
  ∃ new, t.calls = s.calls ++ new ∧ t.ctx = (new.getLast?.map (·.left)).getD s.ctx

namespace Tracks

variable {s t u : HttpState W}

theorem refl (s : HttpState W) : Tracks s s := ⟨[], by simp, rfl⟩

theorem trans (h : Tracks s t) (h' : Tracks t u) : Tracks s u := by
  obtain ⟨new, hc, hctx⟩ := h
  obtain ⟨new', hc', hctx'⟩ := h'
  refine ⟨new ++ new', by rw [hc', hc, List.append_assoc], ?_⟩
  rw [hctx', hctx, List.getLast?_append]
  cases new'.getLast? <;> rfl

theorem of_call {c : HttpCall W} (hcalls : t.calls = s.calls ++ [c]) (hctx : t.ctx = c.left) :
    Tracks s t := ⟨[c], hcalls, hctx⟩

/-- What the session is does not matter. -/
theorem of_eq (hplug : t.plugins = s.plugins) (hctx : t.ctx = s.ctx) : Tracks s t :=
  ⟨[], by simp [HttpState.calls, hplug], hctx⟩

theorem invokeIgnored (s : HttpState W) (site : HttpSite) (m : PluginHttpModule W)
    (cb : Option (HttpHookFn W)) : Tracks s (s.invokeIgnored site m cb) := by
  cases cb with
  | none => exact refl s
  | some cb => exact of_call (HttpState.invoke_calls s site m cb) rfl

end Tracks

/-! ## The local reply loop -/

/-- The state in which a round of the local reply loop leaves a module that has the callback `cb`:
after the callback and, where it is due, the module's own `on_local_reply`. -/
def settle (filter : HttpFilter) (m : PluginHttpModule W) (cb : HttpHookFn W) (s : HttpState W) :
    HttpState W :=
  let c := s.callOf ⟨filter, .onRequestHeaders⟩ m cb
  let s := (s.invoke ⟨filter, .onRequestHeaders⟩ m cb).2
  if c.left.response.isSome ∨ (HookResult.outcome c.result).action = .replace then
    s.invokeIgnored ⟨filter, .onLocalReply⟩ m m.onLocalReply
  else s

section Settle

variable {filter : HttpFilter} {m : PluginHttpModule W} {cb : HttpHookFn W} {s : HttpState W}

theorem settle_session (filter : HttpFilter) (m : PluginHttpModule W) (cb : HttpHookFn W)
    (s : HttpState W) : (settle filter m cb s).session = s.session := by
  unfold settle
  simp only
  split <;> simp

theorem settle_response (filter : HttpFilter) (m : PluginHttpModule W) (cb : HttpHookFn W)
    (s : HttpState W) :
    (settle filter m cb s).ctx.response = (s.callOf ⟨filter, .onRequestHeaders⟩ m cb).answer := by
  unfold settle Call.answer
  simp only
  split
  · simp only [HttpState.callOf_module]
    cases m.onLocalReply <;> rfl
  · rename_i hdue
    simpa using (not_or.1 hdue).1

/-- The calls of a round: the callback's, and at most one of the module's `on_local_reply`. -/
theorem settle_calls (filter : HttpFilter) (m : PluginHttpModule W) (cb : HttpHookFn W)
    (s : HttpState W) : ∃ tail, (settle filter m cb s).calls =
      s.calls ++ s.callOf ⟨filter, .onRequestHeaders⟩ m cb :: tail ∧
    (tail = [] ∨ ∃ replyCb d, m.onLocalReply = some replyCb ∧ tail = [d] ∧
      d.kind = ⟨filter, .onLocalReply⟩ ∧ d.module = m) := by
  unfold settle
  simp only
  split
  · rw [HttpState.invokeIgnored_calls]
    cases h : m.onLocalReply with
    | none => exact ⟨[], by simp, .inl rfl⟩
    | some replyCb =>
      refine ⟨[(s.invoke ⟨filter, .onRequestHeaders⟩ m cb).2.callOf ⟨filter, .onLocalReply⟩ m
        replyCb], by simp, .inr ⟨replyCb, _, rfl, rfl, rfl, rfl⟩⟩
  · exact ⟨[], by simp, .inl rfl⟩

theorem answerRound_none (h : m.onRequestHeaders = none) : answerRound filter m s = .next s := by
  simp only [answerRound, h]

/-- A round with a callback stops exactly if a response is there when it has settled. -/
theorem answerRound_some (h : m.onRequestHeaders = some cb) : answerRound filter m s =
    match (settle filter m cb s).ctx.response with
    | some r => .stop (r.status, r.body) (settle filter m cb s)
    | none => .next (settle filter m cb s) := by
  by_cases hdue : (s.callOf ⟨filter, .onRequestHeaders⟩ m cb).left.response.isSome ∨
      (HookResult.outcome (s.callOf ⟨filter, .onRequestHeaders⟩ m cb).result).action = .replace
  · have hs : settle filter m cb s =
        (s.invoke ⟨filter, .onRequestHeaders⟩ m cb).2.invokeIgnored ⟨filter, .onLocalReply⟩ m
          m.onLocalReply := if_pos hdue
    rw [hs]
    simp only [answerRound, h]
    exact if_pos hdue
  · have hs : settle filter m cb s = (s.invoke ⟨filter, .onRequestHeaders⟩ m cb).2 := if_neg hdue
    have hnone : (s.invoke ⟨filter, .onRequestHeaders⟩ m cb).2.ctx.response = none := by
      simpa using (not_or.1 hdue).1
    rw [hs, hnone]
    simp only [answerRound, h]
    exact if_neg hdue

theorem settle_tracks : Tracks s (settle filter m cb s) := by
  have hinv : Tracks s (s.invoke ⟨filter, .onRequestHeaders⟩ m cb).2 :=
    .of_call (HttpState.invoke_calls s _ m cb) rfl
  unfold settle
  simp only
  split
  · exact hinv.trans (.invokeIgnored _ _ _ _)
  · exact hinv

theorem answerRound_tracks : Tracks s (answerRound filter m s).state := by
  cases h : m.onRequestHeaders with
  | none =>
    rw [answerRound_none h]
    exact .refl s
  | some cb =>
    rw [answerRound_some h]
    split <;> exact settle_tracks

end Settle

/-- Calls of a local reply loop none of which left a response. -/
def Unanswered (filter : HttpFilter) (l : List (HttpCall W)) : Prop :=
  ∀ c ∈ l, (c.kind = ⟨filter, .onRequestHeaders⟩ ∧ c.answer = none) ∨
    c.kind = ⟨filter, .onLocalReply⟩

/-- Calls of a local reply loop of which the last `on_request_headers` left the response `r`, and
the ones before it none. -/
def AnsweredWith (filter : HttpFilter) (r : HttpResponse) (l : List (HttpCall W)) : Prop :=
  ∃ pre c tail, l = pre ++ c :: tail ∧ Unanswered filter pre ∧
    c.kind = ⟨filter, .onRequestHeaders⟩ ∧ c.answer = some r ∧
    ∀ d ∈ tail, d.kind = ⟨filter, .onLocalReply⟩

theorem Unanswered.append {filter : HttpFilter} {l l' : List (HttpCall W)}
    (h : Unanswered filter l) (h' : Unanswered filter l') : Unanswered filter (l ++ l') := by
  intro c hc
  rcases List.mem_append.1 hc with hc | hc
  · exact h c hc
  · exact h' c hc

theorem Unanswered.kind {filter : HttpFilter} {l : List (HttpCall W)} (h : Unanswered filter l) :
    ∀ c ∈ l, c.kind = ⟨filter, .onRequestHeaders⟩ ∨ c.kind = ⟨filter, .onLocalReply⟩ :=
  fun c hc => (h c hc).imp_left And.left

theorem AnsweredWith.kind {filter : HttpFilter} {r : HttpResponse} {l : List (HttpCall W)}
    (h : AnsweredWith filter r l) :
    ∀ c ∈ l, c.kind = ⟨filter, .onRequestHeaders⟩ ∨ c.kind = ⟨filter, .onLocalReply⟩ := by
  obtain ⟨pre, c, tail, rfl, hpre, hc, -, htail⟩ := h
  intro d hd
  rcases List.mem_append.1 hd with hd | hd
  · exact hpre.kind d hd
  · rcases List.mem_cons.1 hd with rfl | hd
    · exact .inl hc
    · exact .inr (htail d hd)

/-- **The local reply loop.** If it runs to the end, no call left a response; if it stops, it stops
with the response that the last call left, which is then the one in the context. -/
theorem answerLoop_sat (filter : HttpFilter) (ms : List (PluginHttpModule W)) (s : HttpState W) :
    (forEach (answerRound filter) ms s).Sat
      (fun t => t.session = s.session ∧ (s.ctx.response = none → t.ctx.response = none) ∧
        ∃ new, t.calls = s.calls ++ new ∧ Unanswered filter new)
      (fun reply t => t.session = s.session ∧ ∃ r, t.ctx.response = some r ∧
        reply = (r.status, r.body) ∧ ∃ new, t.calls = s.calls ++ new ∧ AnsweredWith filter r new) := by
  refine forEach_sat ?_ ⟨rfl, id, [], by simp, by simp [Unanswered]⟩
  intro m _ t ht
  obtain ⟨hses, hresp, new, hcalls, hun⟩ := ht
  cases hcb : m.onRequestHeaders with
  | none =>
    rw [answerRound_none hcb]
    exact ⟨hses, hresp, new, hcalls, hun⟩
  | some cb =>
    rw [answerRound_some hcb]
    obtain ⟨tail, htail, hkind⟩ := settle_calls filter m cb t
    have hres := settle_response filter m cb t
    have hs' := (settle_session filter m cb t).trans hses
    have htailk : ∀ d ∈ tail, d.kind = ⟨filter, .onLocalReply⟩ := by
      rintro d hd
      rcases hkind with rfl | ⟨_, e, -, rfl, he, -⟩
      · cases hd
      · rw [List.mem_singleton.1 hd, he]
    rw [hcalls, List.append_assoc] at htail
    cases hr : (settle filter m cb t).ctx.response with
    | none =>
      rw [hr] at hres
      refine ⟨hs', fun _ => hr, _, htail, hun.append ?_⟩
      intro c hc
      rcases List.mem_cons.1 hc with rfl | hc
      · exact .inl ⟨rfl, hres.symm⟩
      · exact .inr (htailk c hc)
    | some r =>
      rw [hr] at hres
      exact ⟨hs', r, hr, rfl, _, htail, new, _, tail, rfl, hun, rfl, hres.symm, htailk⟩

/-- Modules without the callback are skipped. -/
theorem answerLoop_skip (filter : HttpFilter) {ms : List (PluginHttpModule W)}
    (h : ∀ m ∈ ms, m.onRequestHeaders = none) (ms' : List (PluginHttpModule W)) (s : HttpState W) :
    forEach (answerRound filter) (ms ++ ms') s = forEach (answerRound filter) ms' s := by
  induction ms with
  | nil => rfl
  | cons m ms ih =>
    rw [List.cons_append, forEach_cons_next (answerRound_none (h m (by simp)))]
    exact ih fun m' hm' => h m' (by simp [hm'])

/-! ## The routing loop -/

/-- Calls of `on_route` by `upstream_peer` none of which picked an upstream. -/
def Unrouted (l : List (HttpCall W)) : Prop :=
  ∀ c ∈ l, c.kind = ⟨.upstreamPeer, .onRoute⟩ ∧ ¬ c.PicksUpstream

theorem Unrouted.append {l l' : List (HttpCall W)} (h : Unrouted l) (h' : Unrouted l') :
    Unrouted (l ++ l') := by
  intro c hc
  rcases List.mem_append.1 hc with hc | hc
  · exact h c hc
  · exact h' c hc

/-- One round of the routing loop. Without an upstream picked it goes on or rejects, and touches
the session in neither case; otherwise the loop ends with a peer or a panic. -/
theorem routeRound_cases (env : HttpEnv) (m : PluginHttpModule W) (s : HttpState W) :
    (m.onRoute = none ∧ routeRound env m s = .next s) ∨
    ∃ cb c s', m.onRoute = some cb ∧ c = s.callOf ⟨.upstreamPeer, .onRoute⟩ m cb ∧
      s'.calls = s.calls ++ [c] ∧ s'.ctx = c.left ∧
      ((¬ c.PicksUpstream ∧ s'.session = s.session ∧ (routeRound env m s = .next s' ∨
          (HookResult.outcome c.result).action = .drop ∧ routeRound env m s =
            .stop (.err (.httpStatus 503 "plugin rejected request".toList)) s')) ∨
        (c.PicksUpstream ∧ s'.session.replies = s.session.replies ∧
          s'.session.isOpen = s.session.isOpen ∧ (routeRound env m s = .stop .panic s' ∨
            ∃ peer, routeRound env m s = .stop (.ok peer) s'))) := by
  cases hcb : m.onRoute with
  | none => left; simp [routeRound, hcb]
  | some cb =>
    right
    set c := s.callOf ⟨.upstreamPeer, .onRoute⟩ m cb with hc
    set s₁ := (s.invoke ⟨.upstreamPeer, .onRoute⟩ m cb).2 with hs₁
    have hcalls : s₁.calls = s.calls ++ [c] := rfl
    have hctx : s₁.ctx = c.left := rfl
    have hact : (HookResult.outcome (s.invoke ⟨.upstreamPeer, .onRoute⟩ m cb).1).action =
        (HookResult.outcome c.result).action := rfl
    cases hroute : s₁.ctx.route with
    | none =>
      have hno : ¬ c.PicksUpstream := fun h => by simpa [← hctx, hroute] using h.2
      refine ⟨cb, c, s₁, rfl, rfl, hcalls, hctx, .inl ⟨hno, rfl, .inl ?_⟩⟩
      simp only [routeRound, hcb, ← hs₁, hroute]
    | some route =>
      cases ha : (HookResult.outcome c.result).action with
      | «continue» =>
        have hno : ¬ c.PicksUpstream := fun h => by simpa [ha] using h.1
        refine ⟨cb, c, s₁, rfl, rfl, hcalls, hctx, .inl ⟨hno, rfl, .inl ?_⟩⟩
        simp only [routeRound, hcb, ← hs₁, hroute, hact, ha]
      | drop =>
        have hno : ¬ c.PicksUpstream := fun h => by simpa [ha] using h.1
        refine ⟨cb, c, s₁, rfl, rfl, hcalls, hctx, .inl ⟨hno, rfl, .inr ⟨ha, ?_⟩⟩⟩
        simp only [routeRound, hcb, ← hs₁, hroute, hact, ha]
      | replace =>
        cases hup : route.upstreamToSet with
        | none =>
          have hno : ¬ c.PicksUpstream := fun h => by simpa [← hctx, hroute, hup] using h.2
          refine ⟨cb, c, s₁, rfl, rfl, hcalls, hctx, .inl ⟨hno, rfl, .inl ?_⟩⟩
          simp only [routeRound, hcb, ← hs₁, hroute, hact, ha, hup]
        | some upstream =>
          have hpick : c.PicksUpstream := ⟨ha, by simp [← hctx, hroute, hup]⟩
          cases hpath : route.httpPath with
          | none =>
            refine ⟨cb, c, s₁, rfl, rfl, hcalls, hctx, .inr ⟨hpick, rfl, rfl, .inl ?_⟩⟩
            simp only [routeRound, hcb, ← hs₁, hroute, hact, ha, hup, hpath]
          | some path =>
            cases huri : env.uriOfPathAndQuery path with
            | none =>
              refine ⟨cb, c, s₁, rfl, rfl, hcalls, hctx, .inr ⟨hpick, rfl, rfl, .inl ?_⟩⟩
              simp only [routeRound, hcb, ← hs₁, hroute, hact, ha, hup, hpath, huri]
            | some uri =>
              refine ⟨cb, c, { s₁ with session := s₁.session.setUri uri }, rfl, rfl, hcalls, hctx,
                .inr ⟨hpick, rfl, rfl, ?_⟩⟩
              cases hpeer : HttpPeer.new env upstream.host upstream.port
                  (isPortHttps upstream.port) upstream.host with
              | none =>
                left
                simp only [routeRound, hcb, ← hs₁, hroute, hact, ha, hup, hpath, huri, hpeer]
              | some peer =>
                right
                refine ⟨peer, ?_⟩
                simp only [routeRound, hcb, ← hs₁, hroute, hact, ha, hup, hpath, huri, hpeer]

/-- A round with a callback adds its call and leaves its context. -/
theorem routeRound_some (env : HttpEnv) {m : PluginHttpModule W} {cb : HttpHookFn W}
    (h : m.onRoute = some cb) (s : HttpState W) :
    (routeRound env m s).state.calls = s.calls ++ [s.callOf ⟨.upstreamPeer, .onRoute⟩ m cb] ∧
      (routeRound env m s).state.ctx = (s.callOf ⟨.upstreamPeer, .onRoute⟩ m cb).left := by
  rcases routeRound_cases env m s with ⟨hnone, -⟩ | ⟨cb', c, s', hcb, hc, hcalls, hctx, h'⟩
  · rw [h] at hnone
    cases hnone
  · obtain rfl : cb = cb' := Option.some.inj (h.symm.trans hcb)
    have hstate : (routeRound env m s).state = s' := by
      rcases h' with ⟨-, -, h' | ⟨-, h'⟩⟩ | ⟨-, -, -, h' | ⟨_, h'⟩⟩ <;> rw [h'] <;> rfl
    rw [hstate, ← hc]
    exact ⟨hcalls, hctx⟩

theorem routeRound_none (env : HttpEnv) {m : PluginHttpModule W} (h : m.onRoute = none)
    (s : HttpState W) : routeRound env m s = .next s := by
  simp only [routeRound, h]

theorem routeRound_tracks (env : HttpEnv) (m : PluginHttpModule W) (s : HttpState W) :
    Tracks s (routeRound env m s).state := by
  cases h : m.onRoute with
  | none =>
    rw [routeRound_none env h]
    exact .refl s
  | some cb => exact .of_call (routeRound_some env h s).1 (routeRound_some env h s).2

/-- **The routing loop.** It chooses a peer (or panics on the way) only by a call that picks an
upstream, and that is then its last; without one, it has not touched the session. -/
theorem routeLoop_sat (env : HttpEnv) (ms : List (PluginHttpModule W)) (s : HttpState W) :
    (forEach (routeRound env) ms s).Sat
      (fun t => t.session = s.session ∧ ∃ new, t.calls = s.calls ++ new ∧ Unrouted new)
      (fun result t => t.session.replies = s.session.replies ∧
        t.session.isOpen = s.session.isOpen ∧
        ∃ new c, t.calls = s.calls ++ (new ++ [c]) ∧ Unrouted new ∧
          c.kind = ⟨.upstreamPeer, .onRoute⟩ ∧ t.ctx = c.left ∧
          ((result = .err (.httpStatus 503 "plugin rejected request".toList) ∧
              ¬ c.PicksUpstream ∧ (HookResult.outcome c.result).action = .drop ∧
              t.session = s.session) ∨
            ((result = .panic ∨ ∃ peer, result = .ok peer) ∧ c.PicksUpstream))) := by
  refine forEach_sat ?_ ⟨rfl, [], by simp, by simp [Unrouted]⟩
  intro m _ t ht
  obtain ⟨hses, new, hcalls, hun⟩ := ht
  rcases routeRound_cases env m t with ⟨-, hr⟩ | ⟨cb, c, t', -, hc, hcalls', hctx, h⟩
  · rw [hr]
    exact ⟨hses, new, hcalls, hun⟩
  · rw [hcalls, List.append_assoc] at hcalls'
    have hkind : c.kind = ⟨.upstreamPeer, .onRoute⟩ := by rw [hc]; rfl
    rcases h with ⟨hno, hs', hr | ⟨hdrop, hr⟩⟩ | ⟨hpick, hrep, hopen, hr | ⟨peer, hr⟩⟩
    · rw [hr]
      exact ⟨hs'.trans hses, _, hcalls', hun.append (by simpa [Unrouted] using ⟨hkind, hno⟩)⟩
    · rw [hr]
      exact ⟨by rw [hs', hses], by rw [hs', hses], new, c, hcalls', hun, hkind, hctx,
        .inl ⟨rfl, hno, hdrop, hs'.trans hses⟩⟩
    · rw [hr]
      exact ⟨by rw [hrep, hses], by rw [hopen, hses], new, c, hcalls', hun, hkind, hctx,
        .inr ⟨.inl rfl, hpick⟩⟩
    · rw [hr]
      exact ⟨by rw [hrep, hses], by rw [hopen, hses], new, c, hcalls', hun, hkind, hctx,
        .inr ⟨.inr ⟨peer, rfl⟩, hpick⟩⟩

end Vakil
