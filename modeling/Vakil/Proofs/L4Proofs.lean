import Vakil.L4

/-!
# Proofs: the records of the L4 services

For any hooks: every chunk a transfer records was handed to the data hook, and what was written for it
is what the hook left; every datagram the UDP service records was handed to the datagram hook, and what
was sent for it went to the upstream in the service's own context.
-/

namespace Vakil

open ForLoop

variable {σ : Type}

/-- A list of records that got at most one more of the kind `P` has only records of that kind. -/
theorem forall_mem_of_recorded {α : Type} {P : α → Prop} {l l' : List α}
    (h : l' = l ∨ ∃ r, l' = l ++ [r] ∧ P r) (hl : ∀ r ∈ l, P r) : ∀ r ∈ l', P r := by
  intro r hr
  rcases h with rfl | ⟨r', rfl, hr'⟩
  · exact hl r hr
  · rcases List.mem_append.1 hr with hr | hr
    · exact hl r hr
    · rwa [List.mem_singleton.1 hr]

/-- The bytes a transfer writes for a chunk once the hook has succeeded. -/
def ChunkRecord.due (r : ChunkRecord σ) : Bytes :=
  match r.left.chunk with
  | none => []
  | some data => (writeAll r.io.writeFails data).2

/-- The record of a chunk is what the hook and the writer made of it. -/
structure ChunkRecord.Faithful (hooks : TcpProxyHooks σ) (r : ChunkRecord σ) : Prop where
  hook : hooks.tcpDataReceived r.seen r.hooksBefore = (r.outcome, r.left, r.hooksAfter)
  output_ok : r.outcome = .ok () → r.output = r.due
  output_error : ∀ e, r.outcome = .error e → r.output = []

theorem transferRound_chunks (hooks : TcpProxyHooks σ) (direction : FlowDirection)
    (io : TransferIo) (t : Transfer σ) :
    (transferRound hooks direction io t).state.chunks = t.chunks ∨
      ∃ r, (transferRound hooks direction io t).state.chunks = t.chunks ++ [r] ∧
        r.Faithful hooks := by
  unfold transferRound
  cases io.read with
  | error e => exact .inl rfl
  | ok data =>
    dsimp only
    by_cases hdata : data = []
    · rw [if_pos hdata]
      exact .inl rfl
    · rw [if_neg hdata]
      right
      cases hhook : hooks.tcpDataReceived (t.ctx.withChunk direction data) t.hooks with
      | mk outcome rest =>
      obtain ⟨left, s⟩ := rest
      cases outcome with
      | error e => exact ⟨_, rfl, hhook, nofun, fun _ _ => rfl⟩
      | ok u =>
        dsimp only
        cases hchunk : left.chunk with
        | none => exact ⟨_, rfl, hhook, fun _ => by simp [ChunkRecord.due, hchunk], nofun⟩
        | some dataToWrite =>
          dsimp only
          cases hwrite : writeAll io.writeFails dataToWrite with
          | mk result output =>
          cases result with
          | ok u =>
            exact ⟨_, rfl, hhook, fun _ => by simp [ChunkRecord.due, hchunk, hwrite], nofun⟩
          | error e =>
            exact ⟨_, rfl, hhook, fun _ => by simp [ChunkRecord.due, hchunk, hwrite], nofun⟩

/-- **Every chunk of a transfer** is recorded faithfully. -/
theorem tcpTransfer_faithful (hooks : TcpProxyHooks σ) (direction : FlowDirection)
    (ios : List TransferIo) {t : Transfer σ} (ht : ∀ r ∈ t.chunks, r.Faithful hooks) :
    ∀ r ∈ (tcpTransfer hooks direction ios t).state.chunks, r.Faithful hooks := by
  refine forEach_state (P := fun t : Transfer σ => ∀ r ∈ t.chunks, r.Faithful hooks) ?_ ht
  intro io _ t ht
  exact forall_mem_of_recorded (transferRound_chunks hooks direction io t) ht

/-! ## UDP -/

/-- The record of a datagram is what the hook made of it; it was sent to no one but the upstream of
the context `udpCtx`. -/
structure DatagramRecord.Faithful (net : StdNet) (hooks : UdpProxyHooks σ) (udpCtx : UDPContext)
    (r : DatagramRecord σ) : Prop where
  hook : hooks.udpDatagramReceived r.seen r.hooksBefore = (r.outcome, r.left, r.hooksAfter)
  sent : r.sent = [] ∨ ∃ u data, udpCtx.metadata.route.upstreamToSet = some u ∧
    r.seen.datagram = some data ∧ r.sent = [(u.toSocketAddr net, data)]

namespace UdpProxyService

theorem datagramRound_datagrams (net : StdNet) (hooks : UdpProxyHooks σ) (udpCtx : UDPContext)
    (io : UdpIoRound) (l : UdpLoop σ) :
    (datagramRound net hooks udpCtx io l).state.datagrams = l.datagrams ∨
      ∃ r, (datagramRound net hooks udpCtx io l).state.datagrams = l.datagrams ++ [r] ∧
        r.Faithful net hooks udpCtx := by
  unfold datagramRound
  cases io.recv with
  | error e => exact .inl rfl
  | ok received =>
    obtain ⟨payload, peer⟩ := received
    dsimp only
    by_cases hdata : (payload.take bufLen).length = 0
    · rw [if_pos hdata]
      exact .inl rfl
    · rw [if_neg hdata]
      right
      cases hhook : hooks.udpDatagramReceived
          (withDatagram net l.currCtx (payload.take bufLen) peer) l.hooks with
      | mk outcome rest =>
      obtain ⟨left, s⟩ := rest
      cases outcome with
      | error e => exact ⟨_, rfl, hhook, .inl rfl⟩
      | ok u =>
        dsimp only
        cases hup : udpCtx.metadata.route.upstreamToSet with
        | none => exact ⟨_, rfl, hhook, .inl rfl⟩
        | some upstream =>
          dsimp only
          cases io.sendFails with
          | true => exact ⟨_, rfl, hhook, .inl rfl⟩
          | false => exact ⟨_, rfl, hhook, .inr ⟨upstream, _, hup, rfl, rfl⟩⟩

theorem receiveLoop_faithful (net : StdNet) (hooks : UdpProxyHooks σ) (udpCtx : UDPContext)
    (rounds : List UdpIoRound) {l : UdpLoop σ}
    (hl : ∀ r ∈ l.datagrams, r.Faithful net hooks udpCtx) :
    ∀ r ∈ (forEach (datagramRound net hooks udpCtx) rounds l).state.datagrams,
      r.Faithful net hooks udpCtx := by
  refine forEach_state (P := fun l : UdpLoop σ => ∀ r ∈ l.datagrams,
    r.Faithful net hooks udpCtx) ?_ hl
  intro round _ l hl
  exact forall_mem_of_recorded (datagramRound_datagrams net hooks udpCtx round l) hl

/-- **Every datagram of a socket** is recorded faithfully. -/
theorem serve_faithful (net : StdNet) (hooks : UdpProxyHooks σ) (io : UdpIo) (s : σ) :
    ∀ r ∈ (serve net hooks io s).datagrams, ∃ addr, io.localAddr = .ok addr ∧
      r.Faithful net hooks (startCtx net io.connectionId addr) := by
  intro r hr
  cases haddr : io.localAddr with
  | error e => simp [serve, haddr] at hr
  | ok addr =>
    refine ⟨addr, rfl, ?_⟩
    simp only [serve, haddr] at hr
    cases hstart : hooks.udpSessionStart (startCtx net io.connectionId addr) s with
    | mk outcome rest =>
    obtain ⟨session, s'⟩ := rest
    rw [hstart] at hr
    cases outcome with
    | error e => simp at hr
    | ok u =>
      dsimp only at hr
      refine receiveLoop_faithful net hooks (startCtx net io.connectionId addr) io.rounds
        (l := ⟨startCtx net io.connectionId addr, s', []⟩) (by simp) r ?_
      -- however the loop ended, the records are those of its last state
      revert hr
      generalize forEach (datagramRound net hooks (startCtx net io.connectionId addr)) io.rounds
        ⟨startCtx net io.connectionId addr, s', []⟩ = step
      intro hr
      cases step with
      | next l => exact hr
      | stop result l =>
        cases result with
        | err e => exact hr
        | panic => exact hr
        | ok u =>
          dsimp only at hr
          split at hr <;> exact hr

/-- A socket starts without an upstream, and what it starts with is what it sends to. -/
theorem serve_never_sends (net : StdNet) (hooks : UdpProxyHooks σ) (io : UdpIo) (s : σ) :
    ∀ r ∈ (serve net hooks io s).datagrams, r.sent = [] := by
  intro r hr
  obtain ⟨addr, -, hfaithful⟩ := serve_faithful net hooks io s r hr
  exact hfaithful.sent.resolve_right fun ⟨u, _, hu, _⟩ => by cases hu

end UdpProxyService

end Vakil
