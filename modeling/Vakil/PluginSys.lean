import Mathlib.Data.List.Basic

/-!
# The plugin ABI types (`vakil-plugin-sys`)

The values that cross the boundary between the host and a plugin: addresses, HTTP messages, the
three hook contexts, routing decisions and hook outcomes. Text is a list of Unicode scalar values
(`Str`) and a byte buffer a list of bytes; stabby's options and vectors are `Option` and `List`.

What the standard library computes with addresses (printing and parsing them) is a parameter,
`StdNet`.
-/

namespace Vakil

abbrev Str := List Char

abbrev Bytes := List UInt8

/-- `str::as_bytes`. -/
def asBytes (s : Str) : Bytes := s.flatMap String.utf8EncodeChar

structure ID where
  val : UInt64
deriving DecidableEq, Repr

structure SemVer where
  major : UInt8
  minor : UInt8
  patch : UInt8
deriving DecidableEq, Repr

structure KVPair where
  name : Str
  value : Str
deriving DecidableEq, Repr

abbrev Headers := List KVPair

structure EnvSnapshot where
  entries : List KVPair
deriving DecidableEq, Repr

structure PluginManifest where
  name : Str
  version : SemVer
deriving DecidableEq, Repr

structure PluginInitContext where
  libraryPath : Str
  pluginDir : Option Str
  hostVersion : SemVer
  env : EnvSnapshot
deriving DecidableEq, Repr

structure PluginError where
  message : Option Str
deriving DecidableEq, Repr

/-! ## Addresses -/

/-- An IP address, by its octets (`std::net::IpAddr`). -/
inductive IpAddr where
  | v4 (octets : Vector UInt8 4)
  | v6 (octets : Vector UInt8 16)
deriving DecidableEq, Repr

/-- A socket address (`std::net::SocketAddr`). -/
inductive SocketAddr where
  | v4 (octets : Vector UInt8 4) (port : UInt16)
  | v6 (octets : Vector UInt8 16) (port : UInt16) (flowinfo : UInt32) (scopeId : UInt32)
deriving DecidableEq, Repr

namespace SocketAddr

def ip : SocketAddr → IpAddr
  | v4 octets _ => .v4 octets
  | v6 octets _ _ _ => .v6 octets

def port : SocketAddr → UInt16
  | v4 _ port => port
  | v6 _ port _ _ => port

/-- `SocketAddr::new`: a v6 address gets flow info and scope id 0. -/
def new : IpAddr → UInt16 → SocketAddr
  | .v4 octets, port => v4 octets port
  | .v6 octets, port => v6 octets port 0 0

end SocketAddr

/-- `Ipv4Addr::new(127, 0, 0, 1)`. -/
def localhost : Vector UInt8 4 := #v[127, 0, 0, 1]

/-- What the standard library computes with the text of addresses: `Display` and `FromStr` for
`IpAddr`, `FromStr` for `SocketAddr`. -/
structure StdNet where
  ipToString : IpAddr → Str
  parseIpAddr : Str → Option IpAddr
  parseSocketAddr : Str → Option SocketAddr

/-- Addresses of the host 127.0.0.1 only, for concrete runs. -/
def StdNet.loopback : StdNet where
  ipToString _ := "127.0.0.1".toList
  parseIpAddr s := if s = "127.0.0.1".toList then some (.v4 localhost) else none
  parseSocketAddr s :=
    if s = "127.0.0.1:8080".toList then some (.v4 localhost 8080) else none

/-- `Display` for `std::net::SocketAddr`: a v6 address is put in brackets, with its scope id if there
is one. The flow info is not printed. -/
def SocketAddr.toString (net : StdNet) : SocketAddr → Str
  | v4 octets port => net.ipToString (.v4 octets) ++ ':' :: Nat.toDigits 10 port.toNat
  | v6 octets port _ scopeId =>
    let scope := if scopeId = 0 then [] else '%' :: Nat.toDigits 10 scopeId.toNat
    '[' :: (net.ipToString (.v6 octets) ++ scope ++ ']' :: ':' :: Nat.toDigits 10 port.toNat)

structure SocketAddress where
  host : Str
  port : UInt16
deriving DecidableEq, Repr

/-- `From<&std::net::SocketAddr> for SocketAddress`. -/
def SocketAddress.ofSocketAddr (net : StdNet) (addr : SocketAddr) : SocketAddress where
  host := net.ipToString addr.ip
  port := addr.port

/-- `From<&SocketAddress> for std::net::SocketAddr`: a host that is no IP address is read as
127.0.0.1. -/
def SocketAddress.toSocketAddr (net : StdNet) (value : SocketAddress) : SocketAddr :=
  SocketAddr.new ((net.parseIpAddr value.host).getD (.v4 localhost)) value.port

/-- `From<SocketAddress> for String`. -/
def SocketAddress.toString (value : SocketAddress) : Str :=
  value.host ++ ':' :: Nat.toDigits 10 value.port.toNat

/-! ## Transport metadata -/

inductive TransportProtocol where
  | tcp
  | udp
deriving DecidableEq, Repr

structure ConnectionInfo where
  id : ID
  localAddr : SocketAddress
  peerAddr : Option SocketAddress
  protocol : TransportProtocol
deriving DecidableEq, Repr

inductive FlowDirection where
  | inbound
  | outbound
deriving DecidableEq, Repr

inductive RouteAction where
  | keep
  | replaceUpstream
  | reject
  | syntheticResponse
deriving DecidableEq, Repr

/-- Routing metadata passed from host runtime into plugin route hooks. -/
structure RouteDecision where
  action : RouteAction := .keep
  upstreamToSet : Option SocketAddress := none
  /-- Http path, ignored in TCP and UDP contexts. -/
  httpPath : Option Str := none
deriving DecidableEq, Repr

structure TransportContext where
  connection : ConnectionInfo
  direction : Option FlowDirection
  route : RouteDecision
deriving DecidableEq, Repr

/-! ## HTTP messages -/

inductive HttpVersion where
  | http10
  | http11
  | http2
  | http3
deriving DecidableEq, Repr

structure HttpRequest where
  streamId : ID
  version : HttpVersion
  isTls : Bool
  method : Str
  authority : Str
  path : Str
  headers : Headers
  body : Bytes
deriving DecidableEq, Repr

/-- HTTP response; `status` is the `u16` of `HttpStatus`. -/
structure HttpResponse where
  streamId : ID
  version : HttpVersion
  status : UInt16
  headers : Headers
  body : Bytes
deriving DecidableEq, Repr

/-! ## Hook contexts and outcomes -/

structure HttpContext where
  request : Option HttpRequest := none
  response : Option HttpResponse := none
  transport : Option TransportContext := none
deriving DecidableEq, Repr

namespace HttpContext

/-- The current route decision, when there is transport metadata to hold one. -/
def route (ctx : HttpContext) : Option RouteDecision :=
  ctx.transport.map (·.route)

/-- `set_route`: whether there was transport metadata to hold the decision, and the context with it. -/
def setRoute (ctx : HttpContext) (route : RouteDecision) : Bool × HttpContext :=
  match ctx.transport with
  | none => (false, ctx)
  | some transport => (true, { ctx with transport := some { transport with route := route } })

end HttpContext

structure TCPContext where
  chunk : Option Bytes
  metadata : TransportContext
deriving DecidableEq, Repr

structure UDPContext where
  datagram : Option Bytes
  metadata : TransportContext
deriving DecidableEq, Repr

inductive HookAction where
  | continue
  | replace
  | drop
deriving DecidableEq, Repr

structure HookOutcome where
  action : HookAction := .continue
deriving DecidableEq, Repr

abbrev HookResult := Except PluginError HookOutcome

namespace HookResult

/-- `match_owned(|outcome| outcome, |_| HookOutcome::default())`: an error counts as the default
outcome, which is to continue. -/
def outcome : HookResult → HookOutcome
  | .ok outcome => outcome
  | .error _ => {}

def IsErr : HookResult → Prop
  | .ok _ => False
  | .error _ => True

/-- The callback returned an error or asked for the flow to be dropped. -/
def Rejects : HookResult → Prop
  | .ok outcome => outcome.action = .drop
  | .error _ => True

instance : DecidablePred IsErr
  | .ok _ => .isFalse id
  | .error _ => .isTrue trivial

instance : DecidablePred Rejects
  | .ok outcome => inferInstanceAs (Decidable (outcome.action = .drop))
  | .error _ => .isTrue trivial

@[simp] theorem outcome_ok (o : HookOutcome) : outcome (.ok o) = o := rfl

@[simp] theorem outcome_error (e : PluginError) : outcome (.error e) = {} := rfl

end HookResult

end Vakil
