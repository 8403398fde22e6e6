import Vakil.PluginSys
import Vakil.Lib.Outcome
import Vakil.Lib.Clock
import Vakil.Lib.Calls

/-!
# The sticky plugin's backend selection (example-l4-sticky)

The TCP and the UDP module of the plugin share one `SharedState`: a loaded configuration and a cache
of the backends assigned to clients, behind a mutex. A call of `select_backend` reads the clock
before it takes the lock, so the readings need not come in the order of the calls.

The hash function is a parameter, from the bytes fed to it to its digest.
-/

namespace Vakil.Sticky

open Clock

/-- The iteration order of the maps is never observed, so neither is the hash of a key. -/
instance : Hashable Str where
  hash s := hash (String.ofList s)

structure LoadedConfig where
  ttl : Duration
  fallbackBackends : List Str
  listenerBackends : Std.HashMap Str (List Str)

structure StickyKey where
  listener : Str
  clientIp : IpAddr
deriving DecidableEq, Repr

instance : Hashable StickyKey where
  hash key := hash key.listener

structure StickyEntry where
  backend : Str
  expiresAt : Instant
deriving DecidableEq, Repr

abbrev Assignments := Std.HashMap StickyKey StickyEntry

structure SharedState where
  config : LoadedConfig
  assignments : Mutex Assignments

def SharedState.new (config : LoadedConfig) : SharedState := ⟨config, .new ∅⟩

def LoadedConfig.poolForListener (config : LoadedConfig) (listener : Str) : List Str :=
  (config.listenerBackends[listener]?).getD config.fallbackBackends

/-- `octets()` of either kind of address. -/
def octets : IpAddr → Bytes
  | .v4 octets => octets.toList
  | .v6 octets => octets.toList

/-- The backend a client hashes to, on a 64-bit target; `none` for the panic on an empty pool. -/
def chooseBackend (xxh3 : Bytes → UInt64) (listener : Str) (clientIp : IpAddr) (pool : List Str) :
    Option Str :=
  if pool.length = 0 then none
  else pool[(xxh3 (asBytes listener ++ octets clientIp)).toNat % pool.length]?

/-- `select_backend` while it holds the lock. -/
def assign (xxh3 : Bytes → UInt64) (config : LoadedConfig) (key : StickyKey) (now : Instant)
    (assignments : Assignments) : Outcome PluginError Str × Assignments :=
  let live := assignments.filter fun _ entry => now < entry.expiresAt
  let pool := config.poolForListener key.listener
  match live[key]?.filter fun entry => pool.contains entry.backend with
  | some entry => (.ok entry.backend, live)
  | none =>
    match chooseBackend xxh3 key.listener key.clientIp pool with
    | none => (.panic, live)
    | some backend =>
      match now.checkedAdd config.ttl with
      | none => (.panic, live)
      | some expiresAt => (.ok backend, live.insert key ⟨backend, expiresAt⟩)

/-- `select_backend`, with the clock reading it captured. -/
def SharedState.selectBackend (xxh3 : Bytes → UInt64) (listener : Str) (clientIp : IpAddr)
    (now : Instant) (state : SharedState) : Outcome PluginError Str × SharedState :=
  if state.config.poolForListener listener = [] then
    (.err ⟨some ("no backends configured for listener ".toList ++ listener)⟩, state)
  else
    let (outcome, assignments) :=
      state.assignments.withLock (assign xxh3 state.config ⟨listener, clientIp⟩ now)
    (outcome, ⟨state.config, assignments⟩)

/-- A call of `select_backend` by the TCP or the UDP module, for a peer with its port. -/
structure SelectCall where
  protocol : TransportProtocol
  listener : Str
  peer : SocketAddr
  now : Instant
deriving DecidableEq, Repr

/-- The calls in the order in which they enter the mutex, each with its outcome. -/
def serveCalls (xxh3 : Bytes → UInt64) (calls : List SelectCall) (state : SharedState) :
    List (SelectCall × Outcome PluginError Str) × SharedState :=
  Calls.serve (fun call => SharedState.selectBackend xxh3 call.listener call.peer.ip call.now) calls
    state

end Vakil.Sticky
