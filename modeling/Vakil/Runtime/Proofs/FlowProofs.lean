import Vakil.Proofs.StreamProofs
import Vakil.Runtime.Proofs.L4ChainProofs

/-!
# Proofs: the flows behind the L4 chains

What a TCP transfer writes behind a chain is what its modules, in order, made of the chunks read. What
a UDP client can tell of the other clients is whether one of them came first: the first datagram is
the only one that is ever handed to the chain.
-/

namespace Vakil

open ForLoop

variable {W : Type}

/-! ## TCP -/

/-- What the module makes of a chunk in the context and of the plugins' state. -/
def onChunk (s : TCPContext × W) (m : PluginTcpModule W) : TCPContext × W :=
  match m.onData with
  | none => s
  | some onData => (onData m.inst s.1 s.2).2

/-- What the modules, in order, make of the chunks, with the context and the state of the plugins that
they leave. -/
def chainPieces (ms : List (PluginTcpModule W)) (direction : FlowDirection) :
    List Bytes → TCPContext → W → List Bytes × TCPContext × W
  | [], ctx, w => ([], ctx, w)
  | data :: chunks, ctx, w =>
    let (left, w) := ms.foldl onChunk (ctx.withChunk direction data, w)
    let (pieces, rest) := chainPieces ms direction chunks left w
    (left.chunk.getD [] :: pieces, rest)

/-- The dispatch loop is the modules' callbacks, one after the other. -/
theorem foldl_runTcp_onData (ms : List (PluginTcpModule W)) (ctx : TCPContext) (p : TcpPlugins W) :
    ∃ p', ms.foldl (fun s m => runTcp .onData m s) (ctx, p) =
      ((ms.foldl onChunk (ctx, p.world)).1, p') ∧
        p'.world = (ms.foldl onChunk (ctx, p.world)).2 := by
  induction ms generalizing ctx p with
  | nil => exact ⟨p, rfl, rfl⟩
  | cons m ms ih =>
    have hround : (onChunk (ctx, p.world) m) =
        ((runTcp .onData m (ctx, p)).1, (runTcp .onData m (ctx, p)).2.world) := by
      unfold onChunk runTcp PluginTcpModule.callback
      cases m.onData with
      | none => rfl
      | some onData => rfl
    rw [List.foldl_cons, List.foldl_cons, hround]
    exact ih _ _

/-- The data hook of a chain never fails. -/
theorem feedChunks_chain (hooks : PluginProxyHooks W) (direction : FlowDirection)
    (chunks : List Bytes) (ctx : TCPContext) (p : TcpPlugins W) :
    ∃ p', feedChunks hooks.tcpHooks direction chunks ctx p =
        some ((chainPieces hooks.tcpModules direction chunks ctx p.world).1,
          (chainPieces hooks.tcpModules direction chunks ctx p.world).2.1, p') ∧
      p'.world = (chainPieces hooks.tcpModules direction chunks ctx p.world).2.2 ∧
      Ran .onData (·.onData) (chunks.flatMap fun _ => hooks.tcpModules) p p' := by
  induction chunks generalizing ctx p with
  | nil => exact ⟨p, rfl, rfl, .refl p⟩
  | cons data chunks ih =>
    obtain ⟨p₁, hfold, hworld⟩ :=
      foldl_runTcp_onData hooks.tcpModules (ctx.withChunk direction data) p
    have hran : Ran .onData (·.onData) hooks.tcpModules p p₁ := by
      have horder := foldl_runTcp_order .onData hooks.tcpModules (ctx.withChunk direction data, p)
      rwa [hfold] at horder
    have hhook : hooks.tcpHooks.tcpDataReceived (ctx.withChunk direction data) p =
        (.ok (), (hooks.tcpModules.foldl onChunk (ctx.withChunk direction data, p.world)).1, p₁) :=
      congrArg (Prod.mk (Except.ok ())) hfold
    obtain ⟨p', hfeed, hworld', hran'⟩ :=
      ih (hooks.tcpModules.foldl onChunk (ctx.withChunk direction data, p.world)).1 p₁
    rw [hworld] at hfeed hworld'
    refine ⟨p', ?_, hworld', hran.trans hran'⟩
    simp only [feedChunks, hhook, hfeed, Option.map_some]
    rfl

/-- **TCP stream fidelity.** A transfer writes, in order, what its hooks made of the chunks read, and
behind a chain that is what the callbacks of the modules made of them, each called once for each chunk.
If the chain acts byte by byte, what is written depends on the bytes of the stream only, not on how they
were cut into chunks. -/
theorem tcpTransfer_fidelity :
    (∀ {σ : Type} (hooks : TcpProxyHooks σ) (direction : FlowDirection) (ios : List TransferIo)
      (ctx : TCPContext) (s : σ), StreamFidelity hooks direction ios ctx s) ∧
    (∀ (hooks : PluginProxyHooks W) (direction : FlowDirection) (chunks : List Bytes)
      (ctx : TCPContext) (p : TcpPlugins W), ∃ p',
      feedChunks hooks.tcpHooks direction chunks ctx p =
          some ((chainPieces hooks.tcpModules direction chunks ctx p.world).1,
            (chainPieces hooks.tcpModules direction chunks ctx p.world).2.1, p') ∧
        p'.world = (chainPieces hooks.tcpModules direction chunks ctx p.world).2.2 ∧
        Ran .onData (·.onData) (chunks.flatMap fun _ => hooks.tcpModules) p p') ∧
    (∀ (hooks : PluginProxyHooks W) (f : UInt8 → UInt8), ActsBytewise hooks.tcpHooks f →
      ∀ (direction : FlowDirection) (chunks chunks' : List Bytes) (last last' : List TransferIo)
        (ctx ctx' : TCPContext) (p p' : TcpPlugins W), [] ∉ chunks → [] ∉ chunks' →
        EndOfReads last → EndOfReads last' → chunks.flatten = chunks'.flatten →
        (tcpTransfer hooks.tcpHooks direction (readTurns chunks last) ⟨ctx, p, []⟩).state.output =
          chunks.flatten.map f ∧
        (tcpTransfer hooks.tcpHooks direction (readTurns chunks' last') ⟨ctx', p', []⟩).state.output =
          chunks.flatten.map f) := by
  refine ⟨?_, feedChunks_chain, ?_⟩
  · intro σ hooks direction ios ctx s
    obtain ⟨chunks, pieces, ctx', s', pre, post, tail, hios, hpre, hne, hfeed, hends, hout⟩ :=
      tcpTransfer_stream hooks direction ios ⟨ctx, s, []⟩
    refine ⟨chunks, pieces, ctx', s', pre, post, tail, hios, hpre, hne, hfeed, hends, ?_⟩
    rw [hout]
    rfl
  · intro hooks f hbytewise direction chunks chunks' last last' ctx ctx' p p' hne hne' hlast hlast'
      hflatten
    have hout := tcpTransfer_bytewise hbytewise direction hne hlast ⟨ctx, p, []⟩
    have hout' := tcpTransfer_bytewise hbytewise direction hne' hlast' ⟨ctx', p', []⟩
    exact ⟨hout, by rw [hflatten]; exact hout'⟩

/-- A TCP module that flips the bits of every byte. -/
def maskingModule : PluginTcpModule Unit :=
  { PluginTcpModule.default with
    onData := some fun _ ctx w =>
      (.ok ⟨.replace⟩, { ctx with chunk := ctx.chunk.map fun data => data.map (~~~ ·) }, w) }

def masked : PluginProxyHooks Unit := ⟨[], [maskingModule], []⟩

def connectionCtx : TCPContext := TcpProxyService.startCtx .loopback ⟨1⟩ (.v4 localhost 80)

/-- Three bytes in two chunks and in one: the same bytes are written. -/
theorem masked_fidelity :
    (tcpTransfer masked.tcpHooks .inbound (readTurns [[1, 2], [3]] [])
        ⟨connectionCtx, ⟨(), []⟩, []⟩).state.output =
      (tcpTransfer masked.tcpHooks .inbound (readTurns [[1, 2, 3]] [])
        ⟨connectionCtx, ⟨(), []⟩, []⟩).state.output := by
  have hbytewise : ActsBytewise masked.tcpHooks (~~~ ·) := by
    intro ctx p data hdata
    refine ⟨_, _, rfl, ?_⟩
    show ctx.chunk.map _ = _
    rw [hdata]
    rfl
  obtain ⟨hout, hout'⟩ := (@tcpTransfer_fidelity Unit).2.2 masked (~~~ ·) hbytewise .inbound
    [[1, 2], [3]] [[1, 2, 3]] [] [] connectionCtx connectionCtx ⟨(), []⟩ ⟨(), []⟩ (by decide)
    (by decide) nofun nofun rfl
  rw [hout, hout']

/-! ## UDP -/

/-- The payload of the datagram, if it is one of the client `a`. -/
def UdpIoRound.payloadOf (a : SocketAddr) (io : UdpIoRound) : Option Bytes :=
  match io.recv with
  | .ok (payload, peer) => if peer = a then some payload else none
  | .error _ => none

/-- What the client `a` sends: its payloads, in order. -/
def payloadsOf (a : SocketAddr) (rounds : List UdpIoRound) : List Bytes :=
  rounds.filterMap (·.payloadOf a)

/-- The contexts that the datagram hook and its callbacks were given for a datagram. -/
def DatagramRecord.contexts (r : DatagramRecord (UdpPlugins W)) : List UDPContext :=
  r.seen :: (r.hooksBefore.since r.hooksAfter).map (·.seen)

/-- The contexts that were given for the datagrams of the client `a`. -/
def contextsFor (net : StdNet) (hooks : PluginProxyHooks W) (id : ID) (addr : SocketAddr)
    (p : UdpPlugins W) (a : SocketAddr) (rounds : List UdpIoRound) : List (List UDPContext) :=
  let run := UdpProxyService.serve net hooks.udpHooks ⟨id, .ok addr, rounds⟩ p
  ((rounds.zip run.datagrams).filter fun d => (d.1.payloadOf a).isSome).map (·.2.contexts)

/-- The first datagram is one of the client `a`, and not empty. -/
def ComesFirst (a : SocketAddr) : List UdpIoRound → Prop
  | [] => False
  | io :: _ => ∃ payload, io.payloadOf a = some payload ∧ payload ≠ []

theorem UdpIoRound.payloadOf_eq_some_iff {a : SocketAddr} {io : UdpIoRound} {payload : Bytes} :
    io.payloadOf a = some payload ↔ io.recv = .ok (payload, a) := by
  obtain ⟨recv, sendFails⟩ := io
  unfold payloadOf
  match recv with
  | .error e => simp
  | .ok (payload', peer) =>
    simp only [Option.ite_none_right_eq_some, Option.some.injEq, Except.ok.injEq, Prod.mk.injEq]
    exact and_comm

section

variable (net : StdNet) (hooks : PluginProxyHooks W) (id : ID) (addr : SocketAddr)
  (p : UdpPlugins W)

/-- What becomes of the first datagram behind the chain hooks. -/
def firstRecord (payload : Bytes) (peer : SocketAddr) : DatagramRecord (UdpPlugins W) :=
  let ctx := UdpProxyService.startCtx net id addr
  let s := (hooks.udpSessionStart ctx p).2.2
  let seen := UdpProxyService.withDatagram net ctx (payload.take UdpProxyService.bufLen) peer
  let (outcome, left, s') := hooks.udpDatagramReceived seen s
  ⟨seen, s, outcome, left, s', []⟩

/-- Behind the chain hooks, at most the first datagram is handed on. -/
theorem serve_chain_datagrams (io : UdpIoRound) (rest : List UdpIoRound) :
    (UdpProxyService.serve net hooks.udpHooks ⟨id, .ok addr, io :: rest⟩ p).datagrams =
      match io.recv with
      | .ok (b :: payload, peer) => [firstRecord net hooks id addr p (b :: payload) peer]
      | _ => [] := by
  obtain ⟨recv, sendFails⟩ := io
  match recv with
  | .error e => rfl
  | .ok ([], peer) => rfl
  | .ok (b :: payload, peer) => rfl

theorem contextsFor_comesFirst {a : SocketAddr} {io : UdpIoRound} {payload : Bytes}
    (rest : List UdpIoRound) (hio : io.payloadOf a = some payload) (hpayload : payload ≠ []) :
    contextsFor net hooks id addr p a (io :: rest) =
      [(firstRecord net hooks id addr p payload a).contexts] := by
  have hrecv := UdpIoRound.payloadOf_eq_some_iff.mp hio
  obtain ⟨b, payload, rfl⟩ := List.exists_cons_of_ne_nil hpayload
  simp only [contextsFor, serve_chain_datagrams, hrecv]
  simp [hio]

theorem contextsFor_eq_nil_iff {a : SocketAddr} {rounds : List UdpIoRound} :
    contextsFor net hooks id addr p a rounds = [] ↔ ¬ ComesFirst a rounds := by
  constructor
  · intro hnil hfirst
    obtain - | ⟨io, rest⟩ := rounds
    · exact hfirst
    · obtain ⟨payload, hio, hpayload⟩ := hfirst
      rw [contextsFor_comesFirst net hooks id addr p rest hio hpayload] at hnil
      exact List.cons_ne_nil _ _ hnil
  · intro hnot
    obtain - | ⟨io, rest⟩ := rounds
    · rfl
    · simp only [contextsFor, serve_chain_datagrams]
      match hrecv : io.recv with
      | .error e => rfl
      | .ok ([], peer) => rfl
      | .ok (b :: payload, peer) =>
        have hother : io.payloadOf a = none := by
          rw [Option.eq_none_iff_forall_ne_some]
          intro payload' hio
          have heq := hrecv.symm.trans (UdpIoRound.payloadOf_eq_some_iff.mp hio)
          cases heq
          exact hnot ⟨_, hio, List.cons_ne_nil _ _⟩
        simp [hother]

theorem contextsFor_congr {a : SocketAddr} {rounds rounds' : List UdpIoRound}
    (hsame : payloadsOf a rounds = payloadsOf a rounds') (h : ComesFirst a rounds)
    (h' : ComesFirst a rounds') :
    contextsFor net hooks id addr p a rounds = contextsFor net hooks id addr p a rounds' := by
  obtain - | ⟨io, rest⟩ := rounds
  · exact h.elim
  obtain - | ⟨io', rest'⟩ := rounds'
  · exact h'.elim
  obtain ⟨payload, hio, hpayload⟩ := h
  obtain ⟨payload', hio', hpayload'⟩ := h'
  have hfirst : payload = payload' := by
    simp only [payloadsOf, List.filterMap_cons, hio, hio'] at hsame
    exact (List.cons.inj hsame).1
  rw [contextsFor_comesFirst net hooks id addr p rest hio hpayload,
    contextsFor_comesFirst net hooks id addr p rest' hio' hpayload', hfirst]

/-- **UDP clients and the context.** Two runs in which the client `a` sends the same datagrams give
the same contexts for them exactly if it comes first in both or in neither. -/
theorem contextsFor_eq_iff {a : SocketAddr} {rounds rounds' : List UdpIoRound}
    (hsame : payloadsOf a rounds = payloadsOf a rounds') :
    contextsFor net hooks id addr p a rounds = contextsFor net hooks id addr p a rounds' ↔
      (ComesFirst a rounds ↔ ComesFirst a rounds') := by
  constructor
  · intro heq
    rw [← not_iff_not, ← contextsFor_eq_nil_iff net hooks id addr p,
      ← contextsFor_eq_nil_iff net hooks id addr p, heq]
  · intro hiff
    by_cases h : ComesFirst a rounds
    · exact contextsFor_congr net hooks id addr p hsame h (hiff.mp h)
    · rw [(contextsFor_eq_nil_iff net hooks id addr p).mpr h,
        (contextsFor_eq_nil_iff net hooks id addr p).mpr (mt hiff.mpr h)]

end

/-- A client, and another one. -/
def client : SocketAddr := .v4 localhost 5000
def stranger : SocketAddr := .v4 localhost 5001

/-- One datagram of the client, followed by what another one sends. -/
theorem client_first_contexts :
    contextsFor .loopback masked ⟨1⟩ (.v4 localhost 80) ⟨(), []⟩ client
        [⟨.ok ([7], client), false⟩] =
      contextsFor .loopback masked ⟨1⟩ (.v4 localhost 80) ⟨(), []⟩ client
        [⟨.ok ([7], client), false⟩, ⟨.ok ([8], stranger), false⟩] :=
  (contextsFor_eq_iff .loopback masked ⟨1⟩ (.v4 localhost 80) ⟨(), []⟩ rfl).mpr
    (iff_of_true ⟨[7], rfl, by decide⟩ ⟨[7], rfl, by decide⟩)

/-- Behind the datagram of another client, the same one is never handed on. -/
theorem stranger_first_contexts :
    payloadsOf client [⟨.ok ([7], client), false⟩] =
        payloadsOf client [⟨.ok ([8], stranger), false⟩, ⟨.ok ([7], client), false⟩] ∧
      contextsFor .loopback masked ⟨1⟩ (.v4 localhost 80) ⟨(), []⟩ client
          [⟨.ok ([7], client), false⟩] ≠
        contextsFor .loopback masked ⟨1⟩ (.v4 localhost 80) ⟨(), []⟩ client
          [⟨.ok ([8], stranger), false⟩, ⟨.ok ([7], client), false⟩] := by
  refine ⟨rfl, ?_⟩
  intro heq
  exact absurd (congrArg List.length heq) (by decide)

end Vakil
