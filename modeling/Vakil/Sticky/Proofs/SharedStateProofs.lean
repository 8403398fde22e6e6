import Vakil.Lib.Bindings
import Vakil.Sticky.SharedState

/-!
# The sticky cache is transparent

Every assignment in the cache is the backend that the hash picks for its own key and pool
(`Chosen`). Eviction and hits keep that, and an insertion adds an assignment of that kind, so
whether a call finds an entry or not it returns what it would have chosen without a cache.
-/

namespace Vakil.Sticky

open Bindings

/-- The assignment is what the hash picks for its key. -/
def Chosen (xxh3 : Bytes → UInt64) (config : LoadedConfig) (key : StickyKey) (entry : StickyEntry) :
    Prop :=
  chooseBackend xxh3 key.listener key.clientIp (config.poolForListener key.listener) =
    some entry.backend

/-- What holds of the shared state between two calls. -/
structure Sound (xxh3 : Bytes → UInt64) (config : LoadedConfig) (state : SharedState) : Prop where
  config_eq : state.config = config
  usable : state.assignments.poisoned = false
  chosen : AllBindings (Chosen xxh3 config) state.assignments.value

variable {xxh3 : Bytes → UInt64} {config : LoadedConfig}

theorem sound_new : Sound xxh3 config (.new config) := ⟨rfl, rfl, allBindings_empty⟩

/-- A non-empty pool has a backend for every client. -/
theorem chooseBackend_mem (xxh3 : Bytes → UInt64) (listener : Str) (clientIp : IpAddr)
    {pool : List Str} (hp : pool ≠ []) :
    ∃ backend ∈ pool, chooseBackend xxh3 listener clientIp pool = some backend := by
  have hpos : 0 < pool.length := List.length_pos_of_ne_nil hp
  have hlt : (xxh3 (asBytes listener ++ octets clientIp)).toNat % pool.length < pool.length :=
    Nat.mod_lt _ hpos
  refine ⟨_, List.getElem_mem hlt, ?_⟩
  unfold chooseBackend
  rw [if_neg (Nat.ne_of_gt hpos), List.getElem?_eq_getElem hlt]

/-! ## One call -/

def SelectCall.key (call : SelectCall) : StickyKey := ⟨call.listener, call.peer.ip⟩

/-- The assignments that are live at a reading. -/
def retained (now : Clock.Instant) (m : Assignments) : Assignments :=
  m.filter fun _ entry => now < entry.expiresAt

theorem getElem?_retained_iff {now : Clock.Instant} {m : Assignments} {key : StickyKey}
    {entry : StickyEntry} :
    (retained now m)[key]? = some entry ↔ m[key]? = some entry ∧ now < entry.expiresAt := by
  unfold retained
  rw [Std.HashMap.getElem?_filter', Option.filter_eq_some_iff, decide_eq_true_iff]

/-- The call's client has no assignment that is live at the call's reading. -/
def SelectCall.Misses (call : SelectCall) (m : Assignments) : Prop :=
  ∀ entry, m[call.key]? = some entry → ¬ call.now < entry.expiresAt

theorem SelectCall.misses_iff {call : SelectCall} {m : Assignments} :
    call.Misses m ↔ (retained call.now m)[call.key]? = none := by
  rw [Option.eq_none_iff_forall_ne_some]
  simp only [ne_eq, getElem?_retained_iff, not_and, Misses]

/-- What a call can do in a sound state with assignments `m`: its outcome and the mutex it leaves. -/
inductive Selected (xxh3 : Bytes → UInt64) (config : LoadedConfig) (call : SelectCall)
    (m : Assignments) : Outcome PluginError Str → Mutex Assignments → Prop where
  | noPool (e : PluginError) (hp : config.poolForListener call.listener = []) :
      Selected xxh3 config call m (.err e) ⟨m, false⟩
  | hit (entry : StickyEntry) (hp : config.poolForListener call.listener ≠ [])
      (hget : m[call.key]? = some entry) (hlive : call.now < entry.expiresAt) :
      Selected xxh3 config call m (.ok entry.backend) ⟨retained call.now m, false⟩
  | miss (backend : Str) (expiresAt : Clock.Instant)
      (hp : config.poolForListener call.listener ≠ []) (hmiss : call.Misses m)
      (hb : Chosen xxh3 config call.key ⟨backend, expiresAt⟩)
      (hexp : call.now.checkedAdd config.ttl = some expiresAt) :
      Selected xxh3 config call m (.ok backend)
        ⟨(retained call.now m).insert call.key ⟨backend, expiresAt⟩, false⟩
  | overflow (hp : config.poolForListener call.listener ≠ []) (hmiss : call.Misses m)
      (hexp : call.now.checkedAdd config.ttl = none) :
      Selected xxh3 config call m .panic ⟨retained call.now m, true⟩

/-- A live assignment of a sound cache is found: its backend is in the pool, being what the hash
picks from it. -/
theorem assign_hit {call : SelectCall} {m : Assignments} {entry : StickyEntry}
    (hm : AllBindings (Chosen xxh3 config) m) (hp : config.poolForListener call.listener ≠ [])
    (hget : m[call.key]? = some entry) (hlive : call.now < entry.expiresAt) :
    assign xxh3 config call.key call.now m = (.ok entry.backend, retained call.now m) := by
  obtain ⟨backend, hmem, hb⟩ := chooseBackend_mem xxh3 call.listener call.peer.ip hp
  have hentry : some backend = some entry.backend := hb.symm.trans (hm call.key entry hget)
  have hfound : (retained call.now m)[call.key]? = some entry :=
    getElem?_retained_iff.mpr ⟨hget, hlive⟩
  have hcontains : (config.poolForListener call.key.listener).contains entry.backend = true := by
    rw [← Option.some.inj hentry]
    exact List.contains_iff_mem.mpr hmem
  unfold retained at hfound ⊢
  unfold assign
  simp only [hfound, Option.filter_some, hcontains, if_true]

/-- Without a live assignment the call makes one that expires after the time to live, -/
theorem assign_miss {call : SelectCall} {m : Assignments} {backend : Str}
    {expiresAt : Clock.Instant} (hmiss : call.Misses m)
    (hb : Chosen xxh3 config call.key ⟨backend, expiresAt⟩)
    (hexp : call.now.checkedAdd config.ttl = some expiresAt) :
    assign xxh3 config call.key call.now m =
      (.ok backend, (retained call.now m).insert call.key ⟨backend, expiresAt⟩) := by
  have hnone : (retained call.now m)[call.key]? = none := SelectCall.misses_iff.mp hmiss
  unfold Chosen at hb
  unfold retained at hnone ⊢
  unfold assign
  simp only [hnone, Option.filter_none, hb, hexp]

/-- and panics if the clock cannot represent that expiry. -/
theorem assign_overflow {call : SelectCall} {m : Assignments} {backend : Str}
    (hmiss : call.Misses m) (hb : Chosen xxh3 config call.key ⟨backend, call.now⟩)
    (hexp : call.now.checkedAdd config.ttl = none) :
    assign xxh3 config call.key call.now m = (.panic, retained call.now m) := by
  have hnone : (retained call.now m)[call.key]? = none := SelectCall.misses_iff.mp hmiss
  unfold Chosen at hb
  unfold retained at hnone ⊢
  unfold assign
  simp only [hnone, Option.filter_none, hb, hexp]

/-- A call for a non-empty pool is its critical section. -/
theorem selectBackend_of_pool {call : SelectCall} {lock mutex : Mutex Assignments}
    {outcome : Outcome PluginError Str} (hp : config.poolForListener call.listener ≠ [])
    (hlock : lock.withLock (assign xxh3 config call.key call.now) = (outcome, mutex)) :
    SharedState.selectBackend xxh3 call.listener call.peer.ip call.now ⟨config, lock⟩ =
      (outcome, ⟨config, mutex⟩) := by
  unfold SelectCall.key at hlock
  unfold SharedState.selectBackend
  simp only [if_neg hp, hlock]

/-- **Every call in a sound state.** -/
theorem selectBackend_cases {state : SharedState} (h : Sound xxh3 config state)
    (call : SelectCall) :
    ∃ outcome mutex,
      state.selectBackend xxh3 call.listener call.peer.ip call.now = (outcome, ⟨config, mutex⟩) ∧
      Selected xxh3 config call state.assignments.value outcome mutex := by
  obtain ⟨config', m, poisoned⟩ := state
  obtain rfl : config' = config := h.config_eq
  obtain rfl : poisoned = false := h.usable
  by_cases hp : config'.poolForListener call.listener = []
  · unfold SharedState.selectBackend
    rw [if_pos hp]
    exact ⟨_, _, rfl, .noPool _ hp⟩
  by_cases hmiss : call.Misses m
  · obtain ⟨backend, -, hb⟩ := chooseBackend_mem xxh3 call.listener call.peer.ip hp
    cases hexp : call.now.checkedAdd config'.ttl with
    | none =>
      have hlock := Mutex.withLock_panic (m := .mk m false) rfl (assign_overflow hmiss hb hexp)
      exact ⟨_, _, selectBackend_of_pool hp hlock, .overflow hp hmiss hexp⟩
    | some expiresAt =>
      have hlock := Mutex.withLock_ok (m := .mk m false) rfl (assign_miss hmiss hb hexp)
      exact ⟨_, _, selectBackend_of_pool hp hlock, .miss backend expiresAt hp hmiss hb hexp⟩
  · obtain ⟨entry, hentry⟩ := not_forall.mp hmiss
    rw [Classical.not_imp, not_not] at hentry
    obtain ⟨hget, hlive⟩ := hentry
    have hlock := Mutex.withLock_ok (m := .mk m false) rfl (assign_hit h.chosen hp hget hlive)
    exact ⟨_, _, selectBackend_of_pool hp hlock, .hit entry hp hget hlive⟩

/-- A call that does not panic leaves a sound state. -/
theorem Selected.sound {call : SelectCall} {m : Assignments} {outcome : Outcome PluginError Str}
    {mutex : Mutex Assignments} (hm : AllBindings (Chosen xxh3 config) m)
    (h : Selected xxh3 config call m outcome mutex) (hne : outcome ≠ .panic) :
    Sound xxh3 config ⟨config, mutex⟩ := by
  cases h with
  | noPool e hp => exact ⟨rfl, rfl, hm⟩
  | hit entry hp hget hlive => exact ⟨rfl, rfl, hm.filter _⟩
  | miss backend expiresAt hp hmiss hb hexp => exact ⟨rfl, rfl, (hm.filter _).insert hb⟩
  | overflow hp hmiss hexp => exact absurd rfl hne

theorem Selected.ne_panic {call : SelectCall} {m : Assignments}
    {outcome : Outcome PluginError Str} {mutex : Mutex Assignments}
    (h : Selected xxh3 config call m outcome mutex)
    (hnow : (call.now.checkedAdd config.ttl).isSome) : outcome ≠ .panic := by
  rintro rfl
  cases h with
  | overflow hp hmiss hexp => rw [hexp] at hnow; cases hnow

theorem selectBackend_spec {state : SharedState} {call : SelectCall}
    (h : Sound xxh3 config state) (hnow : (call.now.checkedAdd config.ttl).isSome) :
    (config.poolForListener call.listener ≠ [] →
      ∃ backend ∈ config.poolForListener call.listener,
        chooseBackend xxh3 call.listener call.peer.ip (config.poolForListener call.listener) =
          some backend ∧
        (state.selectBackend xxh3 call.listener call.peer.ip call.now).1 = .ok backend) ∧
    Sound xxh3 config (state.selectBackend xxh3 call.listener call.peer.ip call.now).2 := by
  obtain ⟨outcome, mutex, hrun, hsel⟩ := selectBackend_cases h call
  have hne : outcome ≠ .panic := hsel.ne_panic hnow
  rw [hrun]
  refine ⟨?_, hsel.sound h.chosen hne⟩
  intro hp
  obtain ⟨backend, hmem, hb⟩ := chooseBackend_mem xxh3 call.listener call.peer.ip hp
  refine ⟨backend, hmem, hb, ?_⟩
  cases hsel with
  | noPool e hp' => exact absurd hp' hp
  | hit entry hp' hget hlive =>
    have heq : some entry.backend = some backend := (h.chosen _ _ hget).symm.trans hb
    rw [Option.some.inj heq]
  | miss backend' expiresAt hp' hmiss hb' hexp =>
    have heq : some backend' = some backend := hb'.symm.trans hb
    rw [Option.some.inj heq]
  | overflow hp' hmiss hexp => exact absurd rfl hne

/-! ## Runs -/

/-- A call for a non-empty pool returned the member of the pool that its client hashes to. -/
def ReturnsChosen (xxh3 : Bytes → UInt64) (config : LoadedConfig) (call : SelectCall)
    (outcome : Outcome PluginError Str) : Prop :=
  config.poolForListener call.listener ≠ [] →
    ∃ backend ∈ config.poolForListener call.listener,
      chooseBackend xxh3 call.listener call.peer.ip (config.poolForListener call.listener) =
        some backend ∧
      outcome = .ok backend

theorem serveCalls_spec (xxh3 : Bytes → UInt64) {calls : List SelectCall}
    (hrep : ∀ call ∈ calls, (call.now.checkedAdd config.ttl).isSome) :
    (∀ call outcome, (call, outcome) ∈ (serveCalls xxh3 calls (.new config)).1 →
      ReturnsChosen xxh3 config call outcome) ∧
    Sound xxh3 config (serveCalls xxh3 calls (.new config)).2 := by
  refine Calls.serve_sat ?_ sound_new
  intro call hcall state h
  exact selectBackend_spec h (hrep call hcall)

/-- **The sticky cache is transparent.** However the calls of the TCP and UDP modules are
interleaved and whatever clock readings they captured, every call gets an outcome, and one for a
non-empty pool returns the member of the pool that the client hashes to. So two calls for the same
listener and client address agree. -/
theorem selectBackend_transparent (xxh3 : Bytes → UInt64) (config : LoadedConfig)
    (calls : List SelectCall) (hrep : ∀ call ∈ calls, (call.now.checkedAdd config.ttl).isSome) :
    (serveCalls xxh3 calls (.new config)).1.map Prod.fst = calls ∧
    ∀ call outcome, (call, outcome) ∈ (serveCalls xxh3 calls (.new config)).1 →
      config.poolForListener call.listener ≠ [] →
      (∃ backend ∈ config.poolForListener call.listener,
        chooseBackend xxh3 call.listener call.peer.ip (config.poolForListener call.listener) =
          some backend ∧ outcome = .ok backend) ∧
      ∀ call' outcome', (call', outcome') ∈ (serveCalls xxh3 calls (.new config)).1 →
        call'.listener = call.listener → call'.peer.ip = call.peer.ip → outcome' = outcome := by
  have hrun := (serveCalls_spec xxh3 hrep).1
  refine ⟨Calls.map_fst_serve calls _, ?_⟩
  intro call outcome hmem hp
  obtain ⟨backend, hb, hchoose, rfl⟩ := hrun call outcome hmem hp
  refine ⟨⟨backend, hb, hchoose, rfl⟩, ?_⟩
  intro call' outcome' hmem' hl hip
  obtain ⟨backend', -, hchoose', rfl⟩ := hrun call' outcome' hmem' (hl ▸ hp)
  rw [hl, hip, hchoose] at hchoose'
  rw [Option.some.inj hchoose']

/-- Two fallback backends and no listener pool. -/
def twoBackends : LoadedConfig :=
  ⟨.fromSecs 900, ["127.0.0.1:9001".toList, "127.0.0.1:9002".toList], ∅⟩

/-- A call for listener `dns` and client 192.0.2.10. -/
def dnsCall (protocol : TransportProtocol) (port : UInt16) (secs : Fin 1000) : SelectCall where
  protocol := protocol
  listener := "dns".toList
  peer := .v4 #v[192, 0, 2, 10] port
  now :=
    { secs := secs
      nanos := 0
      secs_ge := by unfold Clock.secsBound; omega
      secs_lt := by unfold Clock.secsBound; omega
      nanos_lt := Clock.nanosPerSec_pos }

/-- The digest of `dns` and 192.0.2.10. -/
def dnsDigest : UInt64 := 0x88abb8b7f89da826

/-- A UDP call gets the backend of a TCP call before it that had read the clock later. -/
theorem selectBackend_transparent_dns :
    ∃ outcome, (dnsCall .udp 40000 10, outcome) ∈ (serveCalls (fun _ => dnsDigest)
        [dnsCall .tcp 50000 20, dnsCall .udp 40000 10] (.new twoBackends)).1 ∧
      outcome = .ok "127.0.0.1:9001".toList := by
  obtain ⟨hcalls, hrun⟩ := selectBackend_transparent (fun _ => dnsDigest) twoBackends
    [dnsCall .tcp 50000 20, dnsCall .udp 40000 10] (by decide)
  have hmem : dnsCall .udp 40000 10 ∈ (serveCalls (fun _ => dnsDigest)
      [dnsCall .tcp 50000 20, dnsCall .udp 40000 10] (.new twoBackends)).1.map Prod.fst := by
    rw [hcalls]
    decide
  obtain ⟨⟨call, outcome⟩, h, rfl⟩ := List.mem_map.mp hmem
  have hpool : twoBackends.poolForListener "dns".toList = twoBackends.fallbackBackends := by
    simp [LoadedConfig.poolForListener, twoBackends]
  have hne : twoBackends.poolForListener "dns".toList ≠ [] := by
    rw [hpool]
    decide
  obtain ⟨backend, -, hb, rfl⟩ := (hrun _ outcome h hne).1
  have hfirst : chooseBackend (fun _ => dnsDigest) "dns".toList (.v4 #v[192, 0, 2, 10])
      twoBackends.fallbackBackends = some "127.0.0.1:9001".toList := by decide
  rw [← hpool] at hfirst
  exact ⟨_, h, by rw [Option.some.inj (hb.symm.trans hfirst)]⟩

end Vakil.Sticky
