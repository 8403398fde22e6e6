import Vakil.PluginSys
import Vakil.Lib.ForLoop
import Vakil.Lib.Outcome

/-!
# The L4 services (`vakil-l4`)

`TcpProxyService.serve` proxies one accepted connection, `UdpProxyService.serve` one bound socket,
both through injectable hooks over a state `σ` of their own. What the network does is a script: the
result of every read, write, connect, receive and send. A script that ends leaves the service
waiting, so a run is the run so far.

The services keep no record of what they did with a chunk or a datagram. The model does
(`ChunkRecord`, `DatagramRecord`): the theorems talk about it.
-/

namespace Vakil

open ForLoop

structure IoError where
  code : Nat
deriving DecidableEq, Repr

inductive AnyhowError where
  | msg (text : Str)
  | io (e : IoError)
deriving DecidableEq, Repr

def AnyhowError.noUpstream : AnyhowError := .msg "plugin did not select an upstream".toList

variable {σ : Type}

/-! ## Hooks -/

/-- `trait TcpProxyHooks`, with its default bodies. -/
structure TcpProxyHooks (σ : Type) where
  tcpConnectionInit : TCPContext → σ → Except AnyhowError Unit × TCPContext × σ :=
    fun ctx s => (.ok (), ctx, s)
  tcpDataReceived : TCPContext → σ → Except AnyhowError Unit × TCPContext × σ :=
    fun ctx s => (.ok (), ctx, s)
  tcpConnectionClose : TCPContext → σ → Except AnyhowError Unit × TCPContext × σ :=
    fun ctx s => (.ok (), ctx, s)

/-- `trait UdpProxyHooks`, with its default bodies. -/
structure UdpProxyHooks (σ : Type) where
  udpSessionStart : UDPContext → σ → Except AnyhowError Unit × UDPContext × σ :=
    fun ctx s => (.ok (), ctx, s)
  udpDatagramReceived : UDPContext → σ → Except AnyhowError Unit × UDPContext × σ :=
    fun ctx s => (.ok (), ctx, s)
  udpSessionClose : UDPContext → σ → Except AnyhowError Unit × UDPContext × σ :=
    fun ctx s => (.ok (), ctx, s)

/-- The metadata both services start a flow with: no peer, no direction and the default route. -/
def TransportContext.ofLocalAddr (net : StdNet) (id : ID) (protocol : TransportProtocol)
    (addr : SocketAddr) : TransportContext where
  connection :=
    { id := id
      localAddr := .ofSocketAddr net addr
      peerAddr := none
      protocol := protocol }
  direction := none
  route := {}

/-! ## `tcp_transfer` -/

/-- One turn of a transfer: what the read gives (no bytes at EOF), and after how many bytes a write
fails, if it does. -/
structure TransferIo where
  read : Except IoError Bytes
  writeFails : Option (Nat × IoError) := none

/-- `write_all`: the bytes the writer took, all of them or those before the failure. -/
def writeAll (fails : Option (Nat × IoError)) (data : Bytes) : Except IoError Unit × Bytes :=
  match fails with
  | none => (.ok (), data)
  | some (n, e) => if data.length ≤ n then (.ok (), data) else (.error e, data.take n)

/-- What a transfer did with one chunk it had read. -/
structure ChunkRecord (σ : Type) where
  io : TransferIo
  /-- The context the hook was given; its chunk is what was read. -/
  seen : TCPContext
  hooksBefore : σ
  outcome : Except AnyhowError Unit
  left : TCPContext
  hooksAfter : σ
  output : Bytes

structure Transfer (σ : Type) where
  ctx : TCPContext
  hooks : σ
  chunks : List (ChunkRecord σ) := []

namespace Transfer

def record (t : Transfer σ) (r : ChunkRecord σ) : Transfer σ where
  ctx := r.left
  hooks := r.hooksAfter
  chunks := t.chunks ++ [r]

@[simp] theorem record_ctx (t : Transfer σ) (r : ChunkRecord σ) : (t.record r).ctx = r.left := rfl

@[simp] theorem record_hooks (t : Transfer σ) (r : ChunkRecord σ) :
    (t.record r).hooks = r.hooksAfter := rfl

@[simp] theorem record_chunks (t : Transfer σ) (r : ChunkRecord σ) :
    (t.record r).chunks = t.chunks ++ [r] := rfl

end Transfer

/-- The context in which a chunk is handed to the hook. -/
def TCPContext.withChunk (ctx : TCPContext) (direction : FlowDirection) (data : Bytes) :
    TCPContext where
  chunk := some data
  metadata := { ctx.metadata with direction := some direction }

/-- One turn of the loop of `tcp_transfer`. -/
def transferRound (hooks : TcpProxyHooks σ) (direction : FlowDirection) (io : TransferIo)
    (t : Transfer σ) : Step (Transfer σ) (Except AnyhowError Unit) :=
  match io.read with
  | .error e => .stop (.error (.io e)) t
  | .ok data =>
    if data = [] then .stop (.ok ()) t
    else
      let seen := t.ctx.withChunk direction data
      match hooks.tcpDataReceived seen t.hooks with
      | (.error e, left, s) =>
        .stop (.error e) (t.record ⟨io, seen, t.hooks, .error e, left, s, []⟩)
      | (.ok (), left, s) =>
        match left.chunk with
        | none => .next (t.record ⟨io, seen, t.hooks, .ok (), left, s, []⟩)
        | some dataToWrite =>
          match writeAll io.writeFails dataToWrite with
          | (.ok (), output) => .next (t.record ⟨io, seen, t.hooks, .ok (), left, s, output⟩)
          | (.error e, output) =>
            .stop (.error (.io e)) (t.record ⟨io, seen, t.hooks, .ok (), left, s, output⟩)

/-- `tcp_transfer`, from the state `t` on. -/
def tcpTransfer (hooks : TcpProxyHooks σ) (direction : FlowDirection) (ios : List TransferIo)
    (t : Transfer σ) : Step (Transfer σ) (Except AnyhowError Unit) :=
  forEach (transferRound hooks direction) ios t

/-! ## `TcpProxyService` -/

/-- One of the two transfers of a connection: its context, its chunks and whether it has ended. -/
structure TransferEnd (σ : Type) where
  ctx : TCPContext
  chunks : List (ChunkRecord σ) := []
  ended : Bool := false

/-- The two transfers of a connection, over one hook state. -/
structure Join (σ : Type) where
  inbound : TransferEnd σ
  outbound : TransferEnd σ
  hooks : σ

namespace Join

def get (j : Join σ) : FlowDirection → TransferEnd σ
  | .inbound => j.inbound
  | .outbound => j.outbound

def set (j : Join σ) (s : σ) (e : TransferEnd σ) : FlowDirection → Join σ
  | .inbound => { j with inbound := e, hooks := s }
  | .outbound => { j with outbound := e, hooks := s }

end Join

/-- One turn of `try_join!`: the transfer of the given direction takes a turn. The join ends when
both have ended, or with the first error. -/
def joinRound (hooks : TcpProxyHooks σ) (turn : FlowDirection × TransferIo) (j : Join σ) :
    Step (Join σ) (Except AnyhowError Unit) :=
  let e := j.get turn.1
  if e.ended then .next j
  else
    match transferRound hooks turn.1 turn.2 ⟨e.ctx, j.hooks, e.chunks⟩ with
    | .next t => .next (j.set t.hooks ⟨t.ctx, t.chunks, false⟩ turn.1)
    | .stop (.error err) t => .stop (.error err) (j.set t.hooks ⟨t.ctx, t.chunks, true⟩ turn.1)
    | .stop (.ok ()) t =>
      let j := j.set t.hooks ⟨t.ctx, t.chunks, true⟩ turn.1
      if j.inbound.ended ∧ j.outbound.ended then .stop (.ok ()) j else .next j

/-- What the network does for one connection: the two transfers take turns in any order. -/
structure TcpIo where
  connectionId : ID
  localAddr : Except IoError SocketAddr
  connect : SocketAddr → Except IoError Unit
  turns : List (FlowDirection × TransferIo)

structure TcpRun (σ : Type) where
  /-- What `serve` returned; `none` while it is still running. -/
  result : Option (Except AnyhowError Unit)
  hooks : σ
  connects : List SocketAddr := []
  /-- The contexts the two transfers and the close hook were given. -/
  given : List TCPContext := []
  join : Option (Join σ) := none

namespace TcpProxyService

def startCtx (net : StdNet) (id : ID) (addr : SocketAddr) : TCPContext where
  chunk := none
  metadata := .ofLocalAddr net id .tcp addr

/-- `serve` once the upstream is connected: both transfers and the close hook get clones of the
service's own context. -/
def proxyStreams (hooks : TcpProxyHooks σ) (io : TcpIo) (upstream : SocketAddr)
    (tcpCtx : TCPContext) (s : σ) : TcpRun σ :=
  match forEach (joinRound hooks) io.turns ⟨⟨tcpCtx, [], false⟩, ⟨tcpCtx, [], false⟩, s⟩ with
  | .next j => ⟨none, j.hooks, [upstream], [tcpCtx, tcpCtx], some j⟩
  | .stop (.error e) j => ⟨some (.error e), j.hooks, [upstream], [tcpCtx, tcpCtx], some j⟩
  | .stop (.ok ()) j =>
    let (result, _, s) := hooks.tcpConnectionClose tcpCtx j.hooks
    ⟨some result, s, [upstream], [tcpCtx, tcpCtx, tcpCtx], some j⟩

/-- `TcpProxyService::serve`. The init hook gets a clone of the context; the clone is dropped. -/
def serve (net : StdNet) (hooks : TcpProxyHooks σ) (io : TcpIo) (s : σ) : TcpRun σ :=
  match io.localAddr with
  | .error e => { result := some (.error (.io e)), hooks := s }
  | .ok addr =>
    let tcpCtx := startCtx net io.connectionId addr
    match hooks.tcpConnectionInit tcpCtx s with
    | (.error e, _, s) => { result := some (.error e), hooks := s }
    | (.ok (), _, s) =>
      match tcpCtx.metadata.route.upstreamToSet with
      | none => { result := some (.error .noUpstream), hooks := s }
      | some upstreamAddr =>
        let upstream := upstreamAddr.toSocketAddr net
        match io.connect upstream with
        | .error e => { result := some (.error (.io e)), hooks := s, connects := [upstream] }
        | .ok () => proxyStreams hooks io upstream tcpCtx s

end TcpProxyService

/-! ## `UdpProxyService` -/

/-- One turn of the receive loop: what is received (a payload and its sender), and whether a send
fails. -/
structure UdpIoRound where
  recv : Except IoError (Bytes × SocketAddr)
  sendFails : Bool := false

structure UdpIo where
  connectionId : ID
  localAddr : Except IoError SocketAddr
  rounds : List UdpIoRound

structure DatagramRecord (σ : Type) where
  /-- The context the hook was given; its datagram is what was received. -/
  seen : UDPContext
  hooksBefore : σ
  outcome : Except AnyhowError Unit
  left : UDPContext
  hooksAfter : σ
  sent : List (SocketAddr × Bytes)

structure UdpLoop (σ : Type) where
  currCtx : UDPContext
  hooks : σ
  datagrams : List (DatagramRecord σ) := []

def UdpLoop.record (l : UdpLoop σ) (r : DatagramRecord σ) : UdpLoop σ where
  currCtx := r.left
  hooks := r.hooksAfter
  datagrams := l.datagrams ++ [r]

structure UdpRun (σ : Type) where
  /-- How `serve` ended; `none` while it is still running. -/
  result : Option (Outcome AnyhowError Unit)
  hooks : σ
  session : Option UDPContext := none
  datagrams : List (DatagramRecord σ) := []

namespace UdpProxyService

/-- The length of the receive buffer. -/
def bufLen : Nat := 4096

def startCtx (net : StdNet) (id : ID) (addr : SocketAddr) : UDPContext where
  datagram := none
  metadata := .ofLocalAddr net id .udp addr

def withDatagram (net : StdNet) (ctx : UDPContext) (data : Bytes) (peer : SocketAddr) :
    UDPContext where
  datagram := some data
  metadata := { ctx.metadata with
    connection := { ctx.metadata.connection with peerAddr := some (.ofSocketAddr net peer) } }

/-- One turn of the receive loop. What does not fit the buffer is cut off. The upstream is the one
in the service's own context `udpCtx`, the payload the service's own copy. -/
def datagramRound (net : StdNet) (hooks : UdpProxyHooks σ) (udpCtx : UDPContext) (io : UdpIoRound)
    (l : UdpLoop σ) : Step (UdpLoop σ) (Outcome AnyhowError Unit) :=
  match io.recv with
  | .error e => .stop (.err (.io e)) l
  | .ok (payload, peer) =>
    let data := payload.take bufLen
    if data.length = 0 then .stop (.ok ()) l
    else
      let seen := withDatagram net l.currCtx data peer
      match hooks.udpDatagramReceived seen l.hooks with
      | (.error e, left, s) => .stop (.err e) (l.record ⟨seen, l.hooks, .error e, left, s, []⟩)
      | (.ok (), left, s) =>
        match udpCtx.metadata.route.upstreamToSet with
        | none => .stop (.err .noUpstream) (l.record ⟨seen, l.hooks, .ok (), left, s, []⟩)
        | some upstreamAddr =>
          if io.sendFails then .stop .panic (l.record ⟨seen, l.hooks, .ok (), left, s, []⟩)
          else .next (l.record
            ⟨seen, l.hooks, .ok (), left, s, [(upstreamAddr.toSocketAddr net, data)]⟩)

/-- `UdpProxyService::serve`. The session start hook gets a clone of the context; the clone is
dropped. -/
def serve (net : StdNet) (hooks : UdpProxyHooks σ) (io : UdpIo) (s : σ) : UdpRun σ :=
  match io.localAddr with
  | .error _ => { result := some .panic, hooks := s }
  | .ok addr =>
    let udpCtx := startCtx net io.connectionId addr
    match hooks.udpSessionStart udpCtx s with
    | (.error e, session, s) => { result := some (.err e), hooks := s, session := some session }
    | (.ok (), session, s) =>
      match forEach (datagramRound net hooks udpCtx) io.rounds ⟨udpCtx, s, []⟩ with
      | .next l => ⟨none, l.hooks, some session, l.datagrams⟩
      | .stop (.err e) l => ⟨some (.err e), l.hooks, some session, l.datagrams⟩
      | .stop .panic l => ⟨some .panic, l.hooks, some session, l.datagrams⟩
      | .stop (.ok ()) l =>
        match hooks.udpSessionClose l.currCtx l.hooks with
        | (.error e, _, s) => ⟨some (.err e), s, some session, l.datagrams⟩
        | (.ok (), _, s) => ⟨some (.ok ()), s, some session, l.datagrams⟩

end UdpProxyService

end Vakil
