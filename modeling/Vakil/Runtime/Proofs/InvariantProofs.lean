import Vakil.Runtime.Proofs.TrafficProofs

/-!
# Proofs: what the plugins keep, the host keeps

If every callback that is called in a state with `I` and on a context with `R` leaves a context with `R`
and changes the state as `G` admits, then so does a whole request, connection or socket, and so do all of
them together, however their callbacks are interleaved (`traffic_keeps`). A flow keeps this with respect to
the states that its callbacks have found, one for each call. The host's own part is to make contexts with
`R` and to add body chunks and datagrams to them (`Contexts.HostMade`).
-/

namespace Vakil

open ForLoop Tasks

variable {W : Type}

/-- Called in a state with `I` on a context with `R`, the callback leaves a context with `R` and changes
the state as `G` admits. -/
def HookFn.Ensures {C : Type} (I : W → Prop) (G : W → W → Prop) (R : C → Prop) (cb : HookFn C W) :
    Prop :=
  ∀ inst ctx w, R ctx → I w → R (cb inst ctx w).2.1 ∧ G w (cb inst ctx w).2.2

def PluginHttpModule.Ensures (I : W → Prop) (G : W → W → Prop) (R : HttpContext → Prop)
    (m : PluginHttpModule W) : Prop :=
  ∀ hook cb, m.callback hook = some cb → HookFn.Ensures I G R cb

/-- The callback, which found the state `w` with `I` and a context with `R`, did to them what it may. -/
structure Call.Keeps {κ μ C : Type} (I : W → Prop) (G : W → W → Prop) (R : C → Prop) (w : W)
    (c : Call κ μ C W) : Prop where
  seen : R c.seen
  left : R c.left
  found : I w
  changed : G w c.worldLeft

/-- What the host itself does to the contexts keeps `R`. -/
structure HostKeeps (R : HttpContext → Prop) : Prop where
  start : ∀ net connectionId streamId session, R (.ofSession net connectionId streamId session)
  requestBody : ∀ body ctx, R ctx → R (populateReqBodyIntoCtx body ctx)
  responseBody : ∀ body ctx, R ctx → R (populateRespBodyIntoCtx body ctx)

def HasRequest (ctx : HttpContext) : Prop := ctx.request.isSome

theorem hostKeeps_hasRequest : HostKeeps HasRequest where
  start _ _ _ _ := rfl
  requestBody body ctx h := by
    obtain ⟨req, hreq⟩ := Option.isSome_iff_exists.mp h
    unfold populateReqBodyIntoCtx
    rw [hreq]
    cases body with
    | none => exact h
    | some chunk => rfl
  responseBody body ctx h := by
    unfold populateRespBodyIntoCtx
    cases body with
    | none => exact h
    | some chunk => cases ctx.response <;> exact h

namespace Flow

variable {I : W → Prop} {G : W → W → Prop} {R : HttpContext → Prop}

/-- The context has `R`, and the callbacks of the flow, which found the states `ws`, did to it and to them
what they may. -/
structure Keeps (I : W → Prop) (G : W → W → Prop) (R : HttpContext → Prop) (ws : List W) (f : Flow W) :
    Prop where
  ctx : R f.ctx
  calls : List.Forall₂ (Call.Keeps I G R) ws f.calls

namespace Keeps

variable {ws : List W} {f : Flow W}

theorem withSession (h : f.Keeps I G R ws) (session : Session) : Keeps I G R ws { f with session } :=
  ⟨h.ctx, h.calls⟩

theorem withCtx (h : f.Keeps I G R ws) {ctx : HttpContext} (hctx : R ctx) :
    Keeps I G R ws { f with ctx } :=
  ⟨hctx, h.calls⟩

theorem invoke (h : f.Keeps I G R ws) (site : HttpSite) (m : PluginHttpModule W) {cb : HttpHookFn W}
    (hcb : HookFn.Ensures I G R cb) :
    (f.invoke site m cb).EnsuresFrom I G (fun ws out => out.2.Keeps I G R ws) ws := by
  refine .turn (fun w hw => (hcb m.inst f.ctx w h.ctx hw).2) fun w hw => .done ?_
  obtain ⟨hctx, hworld⟩ := hcb m.inst f.ctx w h.ctx hw
  exact ⟨hctx, List.rel_append h.calls (.cons ⟨h.ctx, hctx, hw, hworld⟩ .nil)⟩

theorem invokeIgnored (h : f.Keeps I G R ws) {m : PluginHttpModule W} (hm : m.Ensures I G R)
    (filter : HttpFilter) (hook : HttpHook) :
    (f.invokeIgnored ⟨filter, hook⟩ m (m.callback hook)).EnsuresFrom I G (Keeps I G R) ws := by
  cases hcb : m.callback hook with
  | none => exact .done h
  | some cb => exact (h.invoke _ m (hm hook cb hcb)).bind fun _ _ hout => .done hout

theorem routeRound (h : f.Keeps I G R ws) (env : HttpEnv) {m : PluginHttpModule W}
    (hm : m.Ensures I G R) :
    (f.routeRound env m).EnsuresFrom I G (fun ws step => step.state.Keeps I G R ws) ws := by
  unfold Flow.routeRound
  cases hcb : m.onRoute with
  | none => exact .done h
  | some cb =>
    refine (h.invoke _ m (hm .onRoute cb hcb)).bind ?_
    rintro ws ⟨result, f⟩ h
    dsimp only at h ⊢
    cases f.ctx.route with
    | none => exact .done h
    | some route =>
      cases (HookResult.outcome result).action with
      | «continue» => exact .done h
      | drop => exact .done h
      | replace =>
        dsimp only
        cases route.upstreamToSet with
        | none => exact .done h
        | some upstream =>
          dsimp only
          cases route.httpPath with
          | none => exact .done h
          | some path =>
            dsimp only
            cases env.uriOfPathAndQuery path with
            | none => exact .done h
            | some uri =>
              dsimp only
              cases HttpPeer.new env upstream.host upstream.port (isPortHttps upstream.port)
                upstream.host <;> exact .done (h.withSession _)

theorem answerRound (h : f.Keeps I G R ws) (filter : HttpFilter) {m : PluginHttpModule W}
    (hm : m.Ensures I G R) :
    (f.answerRound filter m).EnsuresFrom I G (fun ws step => step.state.Keeps I G R ws) ws := by
  unfold Flow.answerRound
  cases hcb : m.onRequestHeaders with
  | none => exact .done h
  | some cb =>
    refine (h.invoke _ m (hm .onRequestHeaders cb hcb)).bind ?_
    rintro ws ⟨result, f⟩ h
    dsimp only at h ⊢
    split_ifs
    · refine (h.invokeIgnored hm filter .onLocalReply).bind ?_
      intro ws f h
      cases f.ctx.response <;> exact .done h
    · exact .done h

section Filters

variable (env : HttpEnv) {hooks : PluginProxyHooks W}
  (hms : ∀ m ∈ hooks.httpModules, m.Ensures I G R)

include hms

theorem answers (h : f.Keeps I G R ws) (filter : HttpFilter) :
    (Task.forEach (fun m f => Flow.answerRound filter m f) hooks.httpModules f).EnsuresFrom I G
      (fun ws step => step.state.Keeps I G R ws) ws :=
  Task.EnsuresFrom.forEach (P := Keeps I G R) (fun m hm _ _ h => h.answerRound filter (hms m hm)) h

theorem routes (h : f.Keeps I G R ws) :
    (Task.forEach (fun m f => Flow.routeRound env m f) hooks.httpModules f).EnsuresFrom I G
      (fun ws step => step.state.Keeps I G R ws) ws :=
  Task.EnsuresFrom.forEach (P := Keeps I G R) (fun m hm _ _ h => h.routeRound env (hms m hm)) h

theorem requestFilter (h : f.Keeps I G R ws) :
    (f.requestFilter env hooks).EnsuresFrom I G (fun ws out => out.2.Keeps I G R ws) ws := by
  unfold Flow.requestFilter
  cases rewriteUri env f.bare with
  | none => exact .done h
  | some s =>
    refine (answers hms (h.withSession s.session) .requestFilter).bind ?_
    rintro ws (f | ⟨⟨status, body⟩, f⟩) h
    · exact .done h
    · dsimp only
      generalize f.session.respondErrorWithBody status body = reply
      obtain ⟨_ | _ | _, session⟩ := reply <;> exact .done (h.withSession session)

theorem upstreamPeer (h : f.Keeps I G R ws) :
    (f.upstreamPeer env hooks).EnsuresFrom I G (fun ws out => out.2.Keeps I G R ws) ws := by
  refine (routes env hms h).bind ?_
  rintro ws (f | ⟨result, f⟩) h <;> exact .done h

theorem upstreamRequestFilter (h : f.Keeps I G R ws) (req : RequestHeader) :
    (f.upstreamRequestFilter env hooks req).EnsuresFrom I G
      (fun ws out => out.2.2.Keeps I G R ws) ws := by
  unfold Flow.upstreamRequestFilter
  cases setHostHeader env f.bare req with
  | none => exact .done h
  | some req =>
    refine (answers hms h .upstreamRequestFilter).bind ?_
    rintro ws (f | ⟨⟨status, body⟩, f⟩) h
    · exact .done h
    · dsimp only
      generalize f.session.respondErrorWithBody status body = reply
      obtain ⟨_ | _ | _, session⟩ := reply <;> exact .done (h.withSession session)

theorem upstreamHead (h : f.Keeps I G R ws) (peer : HttpPeer) :
    (f.upstreamHead env hooks peer).EnsuresFrom I G (fun ws out => out.2.Keeps I G R ws) ws := by
  refine (h.upstreamRequestFilter env hms f.session.reqHeader).bind ?_
  rintro ws ⟨result, req, f⟩ h
  cases result <;> exact .done h

theorem requestHead (h : f.Keeps I G R ws) :
    (f.requestHead env hooks).EnsuresFrom I G (fun ws out => out.2.Keeps I G R ws) ws := by
  refine (h.requestFilter env hms).bind ?_
  rintro ws ⟨result, f⟩ h
  cases result with
  | err e => exact .done h
  | panic => exact .done h
  | ok answered =>
    cases answered with
    | true => exact .done h
    | false =>
      refine (Keeps.upstreamPeer env hms h).bind ?_
      rintro ws ⟨peer, f⟩ h
      cases peer with
      | ok peer => exact Keeps.upstreamHead env hms h peer
      | err e => exact .done h
      | panic => exact .done h

theorem responseFilter (h : f.Keeps I G R ws) :
    (f.responseFilter hooks).EnsuresFrom I G (Keeps I G R) ws :=
  Task.EnsuresFrom.foldlM (fun m hm _ _ h => h.invokeIgnored (hms m hm) _ .onResponseHeaders) h

variable (hhost : HostKeeps R)

include hhost

theorem requestBodyFilter (h : f.Keeps I G R ws) (body : Option Bytes) :
    (f.requestBodyFilter hooks body).EnsuresFrom I G (Keeps I G R) ws :=
  Task.EnsuresFrom.foldlM (fun m hm _ _ h => h.invokeIgnored (hms m hm) _ .onRequestBody)
    (h.withCtx (hhost.requestBody body f.ctx h.ctx))

theorem responseBodyFilter (h : f.Keeps I G R ws) (body : Option Bytes) (endOfStream : Bool) :
    (f.responseBodyFilter hooks body endOfStream).EnsuresFrom I G (Keeps I G R) ws := by
  refine Task.EnsuresFrom.foldlM (fun m hm _ _ h => ?_) (h.withCtx (hhost.responseBody body f.ctx h.ctx))
  refine (h.invokeIgnored (hms m hm) _ .onResponseBody).bind ?_
  intro ws f h
  split_ifs
  · exact h.invokeIgnored (hms m hm) _ .onTrailers
  · exact .done h

theorem relay (h : f.Keeps I G R ws) (x : Exchange) :
    (f.relay hooks x).EnsuresFrom I G (Keeps I G R) ws := by
  refine (Task.EnsuresFrom.foldlM (fun chunk _ _ f h => requestBodyFilter hms hhost h chunk) h).bind ?_
  intro ws f h
  refine (h.responseFilter hms).bind ?_
  intro ws f h
  have hwritten := h.withSession f.session.writeUpstreamResponse
  exact Task.EnsuresFrom.foldlM
    (fun chunk _ _ f h => responseBodyFilter hms hhost h chunk.1 chunk.2) hwritten

theorem serveTask (x : Exchange) (session : Session) :
    (Vakil.serveTask env hooks x session).EnsuresFrom I G (fun ws served => served.flow.Keeps I G R ws)
      [] := by
  have hstart : (Flow.start env x session : Flow W).Keeps I G R [] := ⟨hhost.start _ _ _ _, .nil⟩
  refine (hstart.requestHead env hms).bind ?_
  rintro ws ⟨head, f⟩ h
  cases head with
  | answered => exact .done h
  | aborted => exact .done h
  | failed e => exact .done (Keeps.withSession h _)
  | ready peer req => exact (Keeps.relay hms hhost h x).bind fun _ _ h => .done h

end Filters

end Keeps

end Flow

/-! ## Everything that is served -/

/-- A property of the contexts of each protocol. -/
structure Contexts where
  http : HttpContext → Prop
  tcp : TCPContext → Prop
  udp : UDPContext → Prop

/-- The contexts that the host makes have the property, and what it puts into them keeps it. -/
structure Contexts.HostMade (R : Contexts) : Prop where
  http : HostKeeps R.http
  connection : ∀ net id addr, R.tcp (TcpProxyService.startCtx net id addr)
  socket : ∀ net id addr, R.udp (UdpProxyService.startCtx net id addr)
  datagram : ∀ net ctx data peer, R.udp ctx → R.udp (UdpProxyService.withDatagram net ctx data peer)

def PluginTcpModule.Ensures (I : W → Prop) (G : W → W → Prop) (R : TCPContext → Prop)
    (m : PluginTcpModule W) : Prop :=
  ∀ hook cb, m.callback hook = some cb → HookFn.Ensures I G R cb

def PluginUdpModule.Ensures (I : W → Prop) (G : W → W → Prop) (R : UDPContext → Prop)
    (m : PluginUdpModule W) : Prop :=
  ∀ hook cb, m.callback hook = some cb → HookFn.Ensures I G R cb

structure PluginProxyHooks.Ensures (I : W → Prop) (G : W → W → Prop) (R : Contexts)
    (hooks : PluginProxyHooks W) : Prop where
  http : ∀ m ∈ hooks.httpModules, m.Ensures I G R.http
  tcp : ∀ m ∈ hooks.tcpModules, m.Ensures I G R.tcp
  udp : ∀ m ∈ hooks.udpModules, m.Ensures I G R.udp

namespace L4Flow

variable {κ μ C : Type} {I : W → Prop} {G : W → W → Prop} {R : C → Prop} {f : L4Flow κ μ C W}

@[inherit_doc Flow.Keeps]
structure Keeps (I : W → Prop) (G : W → W → Prop) (R : C → Prop) (ws : List W) (f : L4Flow κ μ C W) :
    Prop where
  ctx : R f.ctx
  calls : List.Forall₂ (Call.Keeps I G R) ws f.calls

variable {ws : List W}

theorem Keeps.start {ctx : C} (h : R ctx) : Keeps I G R [] (⟨ctx, []⟩ : L4Flow κ μ C W) := ⟨h, .nil⟩

theorem Keeps.withCtx (h : f.Keeps I G R ws) {ctx : C} (hctx : R ctx) : Keeps I G R ws { f with ctx } :=
  ⟨hctx, h.calls⟩

theorem Keeps.call (h : f.Keeps I G R ws) (hook : κ) (m : μ) (inst : PluginInstance)
    {cb : Option (HookFn C W)} (hcb : ∀ cb', cb = some cb' → HookFn.Ensures I G R cb') :
    (f.call hook m inst cb).EnsuresFrom I G (Keeps I G R) ws := by
  cases cb with
  | none => exact .done h
  | some cb =>
    have hcb' := hcb cb rfl
    refine .turn (fun w hw => (hcb' inst f.ctx w h.ctx hw).2) fun w hw => .done ?_
    obtain ⟨hctx, hworld⟩ := hcb' inst f.ctx w h.ctx hw
    exact ⟨hctx, List.rel_append h.calls (.cons ⟨h.ctx, hctx, hw, hworld⟩ .nil)⟩

end L4Flow

section Ensures

variable {I : W → Prop} {G : W → W → Prop} {R : Contexts} {hooks : PluginProxyHooks W} {ws : List W}

theorem TcpFlow.connectRound_ensures {m : PluginTcpModule W} (hm : m.Ensures I G R.tcp)
    {f : TcpFlow W} (h : f.Keeps I G R.tcp ws) :
    (TcpFlow.connectRound f m).EnsuresFrom I G (L4Flow.Keeps I G R.tcp) ws :=
  (h.call .onRoute m m.inst (hm .onRoute)).bind fun _ _ h => h.call .onConnect m m.inst (hm .onConnect)

/-- What a client leaves whose callbacks have found the states `ws`. -/
def Handled.Keeps (I : W → Prop) (G : W → W → Prop) (R : Contexts) (ws : List W) : Handled W → Prop
  | .request served => served.flow.Keeps I G R.http ws
  | .connection connected => List.Forall₂ (Call.Keeps I G R.tcp) ws connected.calls
  | .socket received => List.Forall₂ (Call.Keeps I G R.udp) ws received.calls

variable (hhost : R.HostMade)

include hhost

theorem connectionTask_ensures (hms : ∀ m ∈ hooks.tcpModules, m.Ensures I G R.tcp) (net : StdNet)
    (io : TcpIo) :
    (connectionTask net hooks io).EnsuresFrom I G
      (fun ws connected => List.Forall₂ (Call.Keeps I G R.tcp) ws connected.calls) [] := by
  unfold connectionTask
  cases io.localAddr with
  | error e => exact .done .nil
  | ok addr =>
    have hstart := L4Flow.Keeps.start (κ := TcpHook) (μ := PluginTcpModule W) (I := I) (G := G)
      (hhost.connection net io.connectionId addr)
    have hinit := Task.EnsuresFrom.foldlM
      (fun m hm _ f h => TcpFlow.connectRound_ensures (hms m hm) h) hstart
    exact hinit.bind fun _ f h => .done h.calls

section Sockets

variable (hms : ∀ m ∈ hooks.udpModules, m.Ensures I G R.udp)

include hms

omit hhost in
theorem UdpFlow.runAll_ensures (hook : UdpHook) {f : UdpFlow W} (h : f.Keeps I G R.udp ws) :
    (UdpFlow.runAll hooks hook f).EnsuresFrom I G (L4Flow.Keeps I G R.udp) ws :=
  Task.EnsuresFrom.foldlM (fun m hm _ _ h => h.call hook m m.inst (hms m hm hook)) h

theorem Receiving.datagramRound_ensures (net : StdNet) (udpCtx : UDPContext) (io : UdpIoRound)
    {r : Receiving W} (h : r.flow.Keeps I G R.udp ws) :
    (Receiving.datagramRound net hooks udpCtx io r).EnsuresFrom I G
      (fun ws step => step.state.flow.Keeps I G R.udp ws) ws := by
  unfold Receiving.datagramRound
  cases io.recv with
  | error e => exact .done h
  | ok received =>
    obtain ⟨payload, peer⟩ := received
    dsimp only
    by_cases hdata : (payload.take UdpProxyService.bufLen).length = 0
    · rw [if_pos hdata]
      exact .done h
    · rw [if_neg hdata]
      have hctx := hhost.datagram net r.flow.ctx (payload.take UdpProxyService.bufLen) peer h.ctx
      refine (UdpFlow.runAll_ensures hms .onDatagram (h.withCtx hctx)).bind ?_
      intro ws flow h
      cases udpCtx.metadata.route.upstreamToSet with
      | none => exact .done h
      | some upstreamAddr =>
        dsimp only
        split_ifs <;> exact .done h

theorem socketTask_ensures (net : StdNet) (io : UdpIo) :
    (socketTask net hooks io).EnsuresFrom I G
      (fun ws received => List.Forall₂ (Call.Keeps I G R.udp) ws received.calls) [] := by
  unfold socketTask
  cases io.localAddr with
  | error e => exact .done .nil
  | ok addr =>
    have hudpCtx : R.udp (UdpProxyService.startCtx net io.connectionId addr) :=
      hhost.socket net io.connectionId addr
    refine (UdpFlow.runAll_ensures hms .onSessionStart (.start hudpCtx)).bind ?_
    intro ws session h
    refine (Task.EnsuresFrom.forEach (P := fun ws (r : Receiving W) => r.flow.Keeps I G R.udp ws)
      (fun io _ _ r h => Receiving.datagramRound_ensures hhost hms net _ io h) ?_).bind ?_
    · exact h.withCtx hudpCtx
    · rintro ws (r | ⟨_ | _ | _, r⟩) h
      · exact .done h.calls
      · exact (UdpFlow.runAll_ensures hms .onSessionEnd h).bind fun _ flow h => .done h.calls
      · exact .done h.calls
      · exact .done h.calls

end Sockets

theorem clientTask_ensures (hms : hooks.Ensures I G R) (env : HttpEnv) (client : Client) :
    (clientTask env hooks client).EnsuresFrom I G (Handled.Keeps I G R) [] := by
  cases client with
  | request arrival =>
    exact (Flow.Keeps.serveTask env hms.http hhost.http _ _).bind fun _ _ h => .done h
  | connection io => exact (connectionTask_ensures hhost hms.tcp env.net io).bind fun _ _ h => .done h
  | socket io => exact (socketTask_ensures hhost hms.udp env.net io).bind fun _ _ h => .done h

end Ensures

/-- **What every callback keeps, the process keeps**, whatever requests, connections and sockets it
serves at the same time. The callbacks of a client that has ended found, one by one, the first of the states
that its turns found, and each changed the state that it found as `G` admits. -/
theorem traffic_keeps {ι : Type} [DecidableEq ι] {I : W → Prop} {G : W → W → Prop}
    (hG : ∀ w w', I w → G w w' → I w') {R : Contexts} (hhost : R.HostMade) (env : HttpEnv)
    {hooks : PluginProxyHooks W} (hms : hooks.Ensures I G R) (clients : ι → Client) {w : W} (hw : I w)
    (schedule : List ι) :
    I ((traffic env hooks clients w).after schedule).world ∧
      ∀ i handled, ((traffic env hooks clients w).after schedule).tasks i = .done handled →
        ∃ ws, ws <+: Pool.found i (traffic env hooks clients w) schedule ∧ handled.Keeps I G R ws :=
  Pool.ensuresFrom_after hG hw (fun i => clientTask_ensures hhost hms env (clients i)) schedule

/-- What the tallying modules leave of the contexts as they find it. -/
def tallyContexts : Contexts :=
  ⟨HasRequest, (·.chunk = none), (·.metadata.route.upstreamToSet = none)⟩

theorem traffic_keeps_tally :
    let pool := (traffic Plain.env tallyHooks oneOfEach 3).after [1, 0, 2]
    3 ≤ pool.world ∧ ∃ handled, pool.tasks 2 = .done handled ∧
      ∃ ws, ws <+: Pool.found 2 (traffic Plain.env tallyHooks oneOfEach 3) [1, 0, 2] ∧
        handled.Keeps (3 ≤ ·) (· ≤ ·) tallyContexts ws := by
  intro pool
  have hexists : ∃ handled, pool.tasks 2 = .done handled := ⟨_, rfl⟩
  obtain ⟨handled, hhandled⟩ := hexists
  have hhost : tallyContexts.HostMade :=
    ⟨hostKeeps_hasRequest, fun _ _ _ => rfl, fun _ _ _ => rfl, fun _ _ _ _ h => h⟩
  have htcp : tallyTcp.Ensures (3 ≤ ·) (· ≤ ·) tallyContexts.tcp := by
    intro hook cb hcb inst ctx n hctx hn
    cases hook
    case onConnect =>
      obtain rfl := Option.some.inj hcb
      exact ⟨hctx, Nat.le_succ n⟩
    all_goals cases hcb
  have hudp : tallyUdp.Ensures (3 ≤ ·) (· ≤ ·) tallyContexts.udp := by
    intro hook cb hcb inst ctx n hctx hn
    cases hook
    case onDatagram =>
      obtain rfl := Option.some.inj hcb
      exact ⟨hctx, Nat.le_succ n⟩
    all_goals cases hcb
  have hms : tallyHooks.Ensures (3 ≤ ·) (· ≤ ·) tallyContexts := by
    refine ⟨fun m hm => absurd hm List.not_mem_nil, fun m hm => ?_, fun m hm => ?_⟩
    · rw [List.mem_singleton.mp hm]
      exact htcp
    · rw [List.mem_singleton.mp hm]
      exact hudp
  have hkeeps := traffic_keeps (fun n n' hn hle => Nat.le_trans hn hle) hhost Plain.env hms
    oneOfEach (Nat.le_refl 3) [1, 0, 2]
  exact ⟨hkeeps.1, handled, hhandled, hkeeps.2 2 handled hhandled⟩

end Vakil
