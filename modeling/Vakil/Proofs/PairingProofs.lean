import Vakil.L4

/-!
# Proofs: connect and close hooks

Which hooks `TcpProxyService.serve` calls is seen by hooks that keep a log (`TcpProxyHooks.logged`).
The error exits of `serve` after a successful init hook all skip the close hook: only two transfers
that both end at EOF get to it.
-/

namespace Vakil

open ForLoop

variable {σ : Type}

/-- A call of a hook; for the init hook, whether it succeeded. -/
inductive TcpHookCall where
  | connectionInit (succeeded : Bool)
  | dataReceived
  | connectionClose
deriving DecidableEq, Repr

/-- The hooks with a log of their calls. -/
def TcpProxyHooks.logged (hooks : TcpProxyHooks σ) : TcpProxyHooks (σ × List TcpHookCall) where
  tcpConnectionInit ctx s :=
    let (result, ctx, hookState) := hooks.tcpConnectionInit ctx s.1
    (result, ctx, hookState, s.2 ++ [.connectionInit result.isOk])
  tcpDataReceived ctx s :=
    let (result, ctx, hookState) := hooks.tcpDataReceived ctx s.1
    (result, ctx, hookState, s.2 ++ [.dataReceived])
  tcpConnectionClose ctx s :=
    let (result, ctx, hookState) := hooks.tcpConnectionClose ctx s.1
    (result, ctx, hookState, s.2 ++ [.connectionClose])

theorem TcpProxyHooks.logged_init {hooks : TcpProxyHooks σ} {ctx ctx' : TCPContext} {s s' : σ}
    {result : Except AnyhowError Unit} (h : hooks.tcpConnectionInit ctx s = (result, ctx', s'))
    (log : List TcpHookCall) :
    hooks.logged.tcpConnectionInit ctx (s, log) =
      (result, ctx', s', log ++ [.connectionInit result.isOk]) := by
  simp only [logged, h]

/-- If the init hook succeeded, the close hook was called once before `serve` returned. -/
def ClosePaired (run : TcpRun (σ × List TcpHookCall)) : Prop :=
  run.result ≠ none → .connectionInit true ∈ run.hooks.2 →
    run.hooks.2.count .connectionClose = 1

/-! ## The transfers -/

/-- The log has grown by data calls only. -/
def OnlyData (log log' : List TcpHookCall) : Prop :=
  ∃ n, log' = log ++ List.replicate n .dataReceived

theorem OnlyData.refl (log : List TcpHookCall) : OnlyData log log := ⟨0, by simp⟩

theorem OnlyData.trans {a b c : List TcpHookCall} (h : OnlyData a b) (h' : OnlyData b c) :
    OnlyData a c := by
  obtain ⟨n, rfl⟩ := h
  obtain ⟨m, rfl⟩ := h'
  exact ⟨n + m, by rw [List.append_assoc, List.replicate_append_replicate]⟩

theorem OnlyData.count_close {log log' : List TcpHookCall} (h : OnlyData log log') :
    log'.count .connectionClose = log.count .connectionClose := by
  obtain ⟨n, rfl⟩ := h
  have hnone : TcpHookCall.connectionClose ∉ List.replicate n TcpHookCall.dataReceived := by
    intro hmem
    cases List.eq_of_mem_replicate hmem
  rw [List.count_append, List.count_eq_zero.mpr hnone, Nat.add_zero]

/-- A turn of a transfer calls the data hook at most once and no other hook. -/
theorem transferRound_onlyData (hooks : TcpProxyHooks σ) (direction : FlowDirection)
    (io : TransferIo) (t : Transfer (σ × List TcpHookCall)) :
    OnlyData t.hooks.2 (transferRound hooks.logged direction io t).state.hooks.2 := by
  unfold transferRound
  cases io.read with
  | error e => exact .refl _
  | ok data =>
    dsimp only
    by_cases hdata : data = []
    · rw [if_pos hdata]
      exact .refl _
    · rw [if_neg hdata]
      have hlog : OnlyData t.hooks.2
          (hooks.logged.tcpDataReceived (t.ctx.withChunk direction data) t.hooks).2.2.2 :=
        ⟨1, rfl⟩
      revert hlog
      generalize hooks.logged.tcpDataReceived (t.ctx.withChunk direction data) t.hooks = answer
      obtain ⟨result, left, s⟩ := answer
      intro hlog
      cases result with
      | error e => exact hlog
      | ok u =>
        dsimp only
        cases left.chunk with
        | none => exact hlog
        | some dataToWrite =>
          dsimp only
          generalize writeAll io.writeFails dataToWrite = write
          obtain ⟨result, output⟩ := write
          cases result with
          | ok u => exact hlog
          | error e => exact hlog

theorem joinRound_onlyData (hooks : TcpProxyHooks σ) (turn : FlowDirection × TransferIo)
    (j : Join (σ × List TcpHookCall)) :
    OnlyData j.hooks.2 (joinRound hooks.logged turn j).state.hooks.2 := by
  unfold joinRound
  dsimp only
  by_cases hended : (j.get turn.1).ended = true
  · rw [if_pos hended]
    exact .refl _
  · rw [if_neg hended]
    have hround := transferRound_onlyData hooks turn.1 turn.2
      ⟨(j.get turn.1).ctx, j.hooks, (j.get turn.1).chunks⟩
    revert hround
    generalize transferRound hooks.logged turn.1 turn.2
      ⟨(j.get turn.1).ctx, j.hooks, (j.get turn.1).chunks⟩ = round
    obtain ⟨direction, io⟩ := turn
    intro hround
    cases round with
    | next t => cases direction <;> exact hround
    | stop result t =>
      cases result with
      | error e => cases direction <;> exact hround
      | ok u =>
        dsimp only
        split <;> cases direction <;> exact hround

theorem joinLoop_onlyData (hooks : TcpProxyHooks σ) (turns : List (FlowDirection × TransferIo))
    (j : Join (σ × List TcpHookCall)) :
    OnlyData j.hooks.2 (forEach (joinRound hooks.logged) turns j).state.hooks.2 := by
  refine forEach_state (P := fun j' : Join (σ × List TcpHookCall) =>
    OnlyData j.hooks.2 j'.hooks.2) ?_ (.refl _)
  intro turn _ j' hj'
  exact hj'.trans (joinRound_onlyData hooks turn j')

namespace TcpProxyService

/-- **Once the upstream is connected**, the close hook is called exactly if both transfers end
without an error, and then once. -/
theorem proxyStreams_close (hooks : TcpProxyHooks σ) (io : TcpIo) (upstream : SocketAddr)
    (tcpCtx : TCPContext) (s : σ) (log : List TcpHookCall) :
    (proxyStreams hooks.logged io upstream tcpCtx (s, log)).hooks.2.count .connectionClose =
      log.count .connectionClose +
        if (forEach (joinRound hooks.logged) io.turns
          ⟨⟨tcpCtx, [], false⟩, ⟨tcpCtx, [], false⟩, (s, log)⟩).result = some (.ok ()) then 1
        else 0 := by
  have hjoin := (joinLoop_onlyData hooks io.turns
    ⟨⟨tcpCtx, [], false⟩, ⟨tcpCtx, [], false⟩, (s, log)⟩).count_close
  unfold proxyStreams
  revert hjoin
  generalize forEach (joinRound hooks.logged) io.turns
    ⟨⟨tcpCtx, [], false⟩, ⟨tcpCtx, [], false⟩, (s, log)⟩ = loop
  intro hjoin
  cases loop with
  | next j => simpa using hjoin
  | stop result j =>
    cases result with
    | error e => simpa using hjoin
    | ok u =>
      have hclose : (hooks.logged.tcpConnectionClose tcpCtx j.hooks).2.2.2 =
          j.hooks.2 ++ [.connectionClose] := rfl
      simpa [hclose] using hjoin

/-! ## Whole connections -/

/-- The init hook is called and succeeds. -/
def InitSucceeds (net : StdNet) (hooks : TcpProxyHooks σ) (io : TcpIo) (s : σ) : Prop :=
  ∃ addr, io.localAddr = .ok addr ∧
    (hooks.tcpConnectionInit (startCtx net io.connectionId addr) s).1 = .ok ()

/-- The service's own context never has an upstream: after a successful init hook `serve` returns at
once, and no other hook has been called. -/
theorem serve_init_ok {net : StdNet} {hooks : TcpProxyHooks σ} {io : TcpIo} {s : σ}
    (h : InitSucceeds net hooks io s) :
    (serve net hooks io s).result = some (.error .noUpstream) ∧
      (serve net hooks.logged io (s, [])).result = some (.error .noUpstream) ∧
      (serve net hooks.logged io (s, [])).hooks.2 = [.connectionInit true] := by
  obtain ⟨addr, haddr, hok⟩ := h
  obtain ⟨ctx, s', hinit⟩ : ∃ ctx s',
      hooks.tcpConnectionInit (startCtx net io.connectionId addr) s = (.ok (), ctx, s') :=
    ⟨_, _, Prod.ext hok rfl⟩
  have hlogged := TcpProxyHooks.logged_init hinit []
  unfold serve
  rw [haddr]
  dsimp only
  rw [hinit, hlogged]
  exact ⟨rfl, rfl, rfl⟩

theorem serve_init_failed {net : StdNet} {hooks : TcpProxyHooks σ} {io : TcpIo} {s : σ}
    (h : ¬ InitSucceeds net hooks io s) :
    .connectionInit true ∉ (serve net hooks.logged io (s, [])).hooks.2 := by
  unfold serve
  cases haddr : io.localAddr with
  | error e => exact List.not_mem_nil
  | ok addr =>
    dsimp only
    cases hinit : hooks.tcpConnectionInit (startCtx net io.connectionId addr) s with
    | mk result rest =>
    obtain ⟨ctx, s'⟩ := rest
    rw [TcpProxyHooks.logged_init hinit]
    cases result with
    | error e => simp [Except.isOk, Except.toBool]
    | ok u => exact absurd ⟨addr, haddr, by rw [hinit]⟩ h

/-- **Connect and close hooks pair up** exactly if the init hook does not succeed. -/
theorem closePaired_iff (net : StdNet) (hooks : TcpProxyHooks σ) (io : TcpIo) (s : σ) :
    ClosePaired (serve net hooks.logged io (s, [])) ↔ ¬ InitSucceeds net hooks io s := by
  constructor
  · intro hpaired hinit
    obtain ⟨-, hresult, hlog⟩ := serve_init_ok hinit
    have hcount := hpaired (by rw [hresult]; nofun) (by rw [hlog]; exact List.mem_cons_self)
    rw [hlog] at hcount
    cases hcount
  · intro hinit _ hmem
    exact absurd hmem (serve_init_failed hinit)

/-- The hooks that do nothing lose a connection: it is initialised and never closed. -/
theorem default_not_closePaired :
    (serve StdNet.loopback (TcpProxyHooks.logged ({} : TcpProxyHooks Unit))
      ⟨⟨1⟩, .ok (.v4 localhost 80), fun _ => .ok (), []⟩ ((), [])).hooks.2 =
        [.connectionInit true] ∧
    ¬ ClosePaired (serve StdNet.loopback (TcpProxyHooks.logged ({} : TcpProxyHooks Unit))
      ⟨⟨1⟩, .ok (.v4 localhost 80), fun _ => .ok (), []⟩ ((), [])) := by
  refine ⟨rfl, ?_⟩
  intro h
  exact absurd (h nofun List.mem_cons_self) (by decide)

end TcpProxyService

end Vakil
