import Vakil.Sticky.Config
import Vakil.Sticky.Proofs.SharedStateProofs

/-!
# How long sticky assignments live

An accepted configuration has a time to live of at least a second. So a call that finds no live
assignment makes one that expires after its own reading, and it is that assignment until a later
reading has passed its expiry: hits do not extend it and calls for other keys do not touch it.

The one thing that can go wrong is the expiry itself. The configuration bounds the time to live only
from below, and the addition is made while the lock is held.
-/

namespace Vakil.Sticky

open Bindings

variable {xxh3 : Bytes → UInt64} {fc : FileConfig} {config : LoadedConfig}

theorem LoadedConfig.tryFrom_ttl (h : tryFrom fc = .ok config) :
    fc.ttlSecs ≠ 0 ∧ config.ttl = .fromSecs fc.ttlSecs := by
  unfold tryFrom at h
  split_ifs at h with httl
  obtain ⟨listenerBackends, -, h⟩ := Except.bind_ok h
  obtain ⟨fallbackBackends, -, h⟩ := Except.bind_ok h
  split_ifs at h
  cases h
  exact ⟨httl, rfl⟩

/-- The shared state after some calls. -/
def reached (xxh3 : Bytes → UInt64) (config : LoadedConfig) (calls : List SelectCall) :
    SharedState :=
  (serveCalls xxh3 calls (.new config)).2

theorem reached_concat (calls : List SelectCall) (call : SelectCall) :
    reached xxh3 config (calls ++ [call]) =
      ((reached xxh3 config calls).selectBackend xxh3 call.listener call.peer.ip call.now).2 :=
  Calls.snd_serve_concat calls call _

/-! ## One call -/

/-- How a call with a non-empty pool changes the assignments. -/
structure KeepsTtl (config : LoadedConfig) (call : SelectCall) (before after : Assignments) :
    Prop where
  /-- Every assignment left is live at the reading. -/
  live : ∀ (key : StickyKey) (entry : StickyEntry), after[key]? = some entry →
    call.now < entry.expiresAt
  others : ∀ key, key ≠ call.key → ∀ entry : StickyEntry,
    after[key]? = some entry ↔ before[key]? = some entry ∧ call.now < entry.expiresAt
  kept : ∀ entry : StickyEntry, before[call.key]? = some entry → call.now < entry.expiresAt →
    after[call.key]? = some entry
  made : call.Misses before →
    ∃ entry, after[call.key]? = some entry ∧
      call.now.checkedAdd config.ttl = some entry.expiresAt

theorem Selected.keepsTtl {call : SelectCall} {m : Assignments}
    {outcome : Outcome PluginError Str} {mutex : Mutex Assignments}
    (httl : fc.ttlSecs ≠ 0 ∧ config.ttl = .fromSecs fc.ttlSecs)
    (hp : config.poolForListener call.listener ≠ []) (hne : outcome ≠ .panic)
    (h : Selected xxh3 config call m outcome mutex) : KeepsTtl config call m mutex.value := by
  cases h with
  | noPool e hp' => exact absurd hp' hp
  | overflow hp' hmiss hexp => exact absurd rfl hne
  | hit entry hp' hget hlive =>
    constructor
    case live => intro key entry h; exact (getElem?_retained_iff.mp h).2
    case others => intro key _ entry; exact getElem?_retained_iff
    case kept => intro entry hget hlive; exact getElem?_retained_iff.mpr ⟨hget, hlive⟩
    case made => intro hmiss; exact absurd hlive (hmiss entry hget)
  | miss backend expiresAt hp' hmiss hb hexp =>
    have hlater : call.now < expiresAt := Clock.Instant.lt_checkedAdd httl.1 (httl.2 ▸ hexp)
    constructor
    case live =>
      intro key entry h
      rw [Std.HashMap.getElem?_insert] at h
      split_ifs at h with hkey
      · cases h
        exact hlater
      · exact (getElem?_retained_iff.mp h).2
    case others =>
      intro key hkey entry
      have hbeq : (call.key == key) = false := beq_false_of_ne (Ne.symm hkey)
      show ((retained call.now m).insert call.key ⟨backend, expiresAt⟩)[key]? = some entry ↔ _
      rw [Std.HashMap.getElem?_insert, hbeq, if_neg Bool.false_ne_true]
      exact getElem?_retained_iff
    case kept => intro entry hget hlive; exact absurd hlive (hmiss entry hget)
    case made => intro _; exact ⟨_, Std.HashMap.getElem?_insert_self, hexp⟩

theorem Selected.unchanged {call : SelectCall} {m : Assignments}
    {outcome : Outcome PluginError Str} {mutex : Mutex Assignments}
    (h : Selected xxh3 config call m outcome mutex)
    (hp : config.poolForListener call.listener = []) : mutex.value = m := by
  cases h with
  | noPool e hp' => rfl
  | hit entry hp' hget hlive => exact absurd hp hp'
  | miss backend expiresAt hp' hmiss hb hexp => exact absurd hp hp'
  | overflow hp' hmiss hexp => exact absurd hp hp'

/-- An assignment that a call leaves was there before, or the call made it for its own key. -/
theorem Selected.left {call : SelectCall} {m : Assignments} {outcome : Outcome PluginError Str}
    {mutex : Mutex Assignments} {key : StickyKey} {entry : StickyEntry}
    (h : Selected xxh3 config call m outcome mutex) (hget : mutex.value[key]? = some entry) :
    m[key]? = some entry ∨
      (call.key = key ∧ config.poolForListener call.listener ≠ [] ∧ call.Misses m ∧
        call.now.checkedAdd config.ttl = some entry.expiresAt) := by
  cases h with
  | noPool e hp => exact .inl hget
  | hit entry' hp hget' hlive => exact .inl (getElem?_retained_iff.mp hget).1
  | overflow hp hmiss hexp => exact .inl (getElem?_retained_iff.mp hget).1
  | miss backend expiresAt hp hmiss hb hexp =>
    rw [Std.HashMap.getElem?_insert] at hget
    split_ifs at hget with hkey
    · rw [beq_iff_eq] at hkey
      cases hget
      exact .inr ⟨hkey, hp, hmiss, hexp⟩
    · exact .inl (getElem?_retained_iff.mp hget).1

/-! ## Runs -/

theorem reached_sound {calls : List SelectCall}
    (hrep : ∀ call ∈ calls, (call.now.checkedAdd config.ttl).isSome) :
    Sound xxh3 config (reached xxh3 config calls) :=
  (serveCalls_spec xxh3 hrep).2

/-- The last call of a run, as a step. -/
theorem reached_step {calls : List SelectCall} (h : Sound xxh3 config (reached xxh3 config calls))
    (call : SelectCall) :
    ∃ outcome, ((reached xxh3 config calls).selectBackend xxh3 call.listener call.peer.ip
        call.now).1 = outcome ∧
      Selected xxh3 config call (reached xxh3 config calls).assignments.value outcome
        (reached xxh3 config (calls ++ [call])).assignments := by
  obtain ⟨outcome, mutex, hrun, hsel⟩ := selectBackend_cases h call
  rw [reached_concat, hrun]
  exact ⟨outcome, rfl, hsel⟩

/-- The assignment was made by a call of the run that found none for its key, it expires the time to
live after that call's reading, and it has been there since. -/
def MadeIn (xxh3 : Bytes → UInt64) (config : LoadedConfig) (calls : List SelectCall)
    (key : StickyKey) (entry : StickyEntry) : Prop :=
  ∃ pre call mid, calls = pre ++ call :: mid ∧ call.key = key ∧
    config.poolForListener call.listener ≠ [] ∧
    call.Misses (reached xxh3 config pre).assignments.value ∧
    call.now.checkedAdd config.ttl = some entry.expiresAt ∧
    ∀ mid₁ mid₂, mid = mid₁ ++ mid₂ →
      (reached xxh3 config (pre ++ call :: mid₁)).assignments.value[key]? = some entry

theorem MadeIn.concat {calls : List SelectCall} {call : SelectCall} {key : StickyKey}
    {entry : StickyEntry} (h : MadeIn xxh3 config calls key entry)
    (hget : (reached xxh3 config (calls ++ [call])).assignments.value[key]? = some entry) :
    MadeIn xxh3 config (calls ++ [call]) key entry := by
  obtain ⟨pre, maker, mid, rfl, hkey, hp, hmiss, hexp, hsince⟩ := h
  refine ⟨pre, maker, mid ++ [call], by simp, hkey, hp, hmiss, hexp, ?_⟩
  intro mid₁ mid₂ hmid
  rcases List.eq_nil_or_concat mid₂ with rfl | ⟨mid₂, last, rfl⟩
  · rw [List.append_nil] at hmid
    rw [← hmid]
    simpa using hget
  · rw [List.concat_eq_append, ← List.append_assoc] at hmid
    exact hsince mid₁ mid₂ (List.append_inj' hmid rfl).1

/-- Every assignment of a reachable state was made in the run that reaches it. -/
theorem madeIn_of_reached {calls : List SelectCall}
    (hrep : ∀ call ∈ calls, (call.now.checkedAdd config.ttl).isSome) {key : StickyKey}
    {entry : StickyEntry}
    (hget : (reached xxh3 config calls).assignments.value[key]? = some entry) :
    MadeIn xxh3 config calls key entry := by
  induction calls using List.reverseRecOn generalizing entry with
  | nil => exact absurd hget (allBindings_empty (P := fun _ _ => False) key entry)
  | append_singleton calls call ih =>
    have hrep' : ∀ c ∈ calls, (c.now.checkedAdd config.ttl).isSome :=
      fun c hc => hrep c (List.mem_append_left _ hc)
    obtain ⟨outcome, -, hsel⟩ := reached_step (reached_sound hrep') call
    rcases hsel.left hget with hbefore | ⟨hkey, hp, hmiss, hexp⟩
    · exact (ih hrep' hbefore).concat hget
    · refine ⟨calls, call, [], rfl, hkey, hp, hmiss, hexp, ?_⟩
      intro mid₁ mid₂ hmid
      rw [(List.append_eq_nil_iff.mp hmid.symm).1]
      exact hget

/-- The step that a call of a run with representable expiries makes. -/
theorem reached_step_ok (xxh3 : Bytes → UInt64) {pre post : List SelectCall} {call : SelectCall}
    (hrep : ∀ c ∈ pre ++ call :: post, (c.now.checkedAdd config.ttl).isSome) :
    ∃ outcome, outcome ≠ .panic ∧
      Selected xxh3 config call (reached xxh3 config pre).assignments.value outcome
        (reached xxh3 config (pre ++ [call])).assignments := by
  have hsound : Sound xxh3 config (reached xxh3 config pre) :=
    reached_sound fun c hc => hrep c (List.mem_append_left _ hc)
  obtain ⟨outcome, -, hsel⟩ := reached_step hsound call
  exact ⟨outcome, hsel.ne_panic (hrep call (by simp)), hsel⟩

theorem reached_keepsTtl (xxh3 : Bytes → UInt64) {fc : FileConfig}
    (hfc : LoadedConfig.tryFrom fc = .ok config) {pre post : List SelectCall} {call : SelectCall}
    (hrep : ∀ c ∈ pre ++ call :: post, (c.now.checkedAdd config.ttl).isSome) :
    (config.poolForListener call.listener ≠ [] →
      KeepsTtl config call (reached xxh3 config pre).assignments.value
        (reached xxh3 config (pre ++ [call])).assignments.value) ∧
    (config.poolForListener call.listener = [] →
      (reached xxh3 config (pre ++ [call])).assignments.value =
        (reached xxh3 config pre).assignments.value) := by
  obtain ⟨outcome, hne, hsel⟩ := reached_step_ok xxh3 hrep
  have httl := LoadedConfig.tryFrom_ttl hfc
  exact ⟨fun hp => hsel.keepsTtl httl hp hne, hsel.unchanged⟩

/-- **Sticky assignments live exactly one time to live.** For every accepted configuration and every
order in which calls enter the critical section, a call with a non-empty pool leaves the live
assignments of other keys, its own live assignment, or else a new one that expires the time to live
after its reading, and nothing else; a call with an empty pool changes nothing. So every assignment
of a reachable state expires the time to live after the reading of the call that made it, and an
assignment that is live at a call's reading survives the call unchanged. -/
theorem assignments_live_one_ttl (xxh3 : Bytes → UInt64) (fc : FileConfig) (config : LoadedConfig)
    (hfc : LoadedConfig.tryFrom fc = .ok config) (calls : List SelectCall)
    (hrep : ∀ call ∈ calls, (call.now.checkedAdd config.ttl).isSome) :
    (∀ pre call post, calls = pre ++ call :: post →
      (config.poolForListener call.listener ≠ [] →
        KeepsTtl config call (reached xxh3 config pre).assignments.value
          (reached xxh3 config (pre ++ [call])).assignments.value) ∧
      (config.poolForListener call.listener = [] →
        (reached xxh3 config (pre ++ [call])).assignments.value =
          (reached xxh3 config pre).assignments.value)) ∧
    (∀ pre post, calls = pre ++ post → ∀ key entry,
      (reached xxh3 config pre).assignments.value[key]? = some entry →
        MadeIn xxh3 config pre key entry) ∧
    ∀ pre call post, calls = pre ++ call :: post → ∀ (key : StickyKey) (entry : StickyEntry),
      (reached xxh3 config pre).assignments.value[key]? = some entry →
      call.now < entry.expiresAt →
        (reached xxh3 config (pre ++ [call])).assignments.value[key]? = some entry := by
  refine ⟨?_, ?_, ?_⟩
  · intro pre call post hcalls
    exact reached_keepsTtl xxh3 hfc (hcalls ▸ hrep)
  · intro pre post hcalls key entry hget
    have hpre : ∀ call ∈ pre, (call.now.checkedAdd config.ttl).isSome := by
      intro call hcall
      exact hrep call (hcalls ▸ List.mem_append_left _ hcall)
    exact madeIn_of_reached hpre hget
  · intro pre call post hcalls key entry hget hlive
    obtain ⟨hpool, hempty⟩ := reached_keepsTtl xxh3 hfc (hcalls ▸ hrep)
    by_cases hp : config.poolForListener call.listener = []
    · rw [hempty hp]
      exact hget
    · by_cases hkey : key = call.key
      · subst hkey
        exact (hpool hp).kept entry hget hlive
      · exact ((hpool hp).others key hkey entry).mpr ⟨hget, hlive⟩

def dnsKey : StickyKey := (dnsCall .tcp 50000 20).key

/-- A later call with an earlier reading leaves the assignment of the first, which expires 900
seconds after its own reading. -/
theorem assignments_live_one_ttl_dns :
    ∃ entry : StickyEntry,
      (reached (fun _ => dnsDigest) twoBackends
        [dnsCall .tcp 50000 20, dnsCall .udp 40000 10]).assignments.value[dnsKey]? = some entry ∧
      entry.expiresAt.secs = 920 := by
  obtain ⟨hstep, -, hkeep⟩ := assignments_live_one_ttl (fun _ => dnsDigest)
    ⟨900, ["127.0.0.1:9001".toList, "127.0.0.1:9002".toList], []⟩ twoBackends rfl
    [dnsCall .tcp 50000 20, dnsCall .udp 40000 10] (by decide)
  have hempty : (dnsCall .tcp 50000 20).Misses
      (reached (fun _ => dnsDigest) twoBackends []).assignments.value := by
    intro entry h
    exact absurd h (allBindings_empty (P := fun _ _ => False) _ entry)
  have hpool : twoBackends.poolForListener "dns".toList ≠ [] := by
    simp [LoadedConfig.poolForListener, twoBackends]
  obtain ⟨entry, hget, hexp⟩ := ((hstep [] (dnsCall .tcp 50000 20) _ rfl).1 hpool).made hempty
  have hat : entry.expiresAt = (dnsCall .tcp 50000 920).now := by
    have h : (dnsCall .tcp 50000 20).now.checkedAdd twoBackends.ttl =
        some (dnsCall .tcp 50000 920).now := by decide
    exact Option.some.inj (hexp.symm.trans h)
  refine ⟨entry, ?_, by rw [hat]; rfl⟩
  refine hkeep [dnsCall .tcp 50000 20] (dnsCall .udp 40000 10) [] rfl _ entry hget ?_
  rw [hat]
  decide

/-! ## Overflow -/

/-- No call of the run panicked, the mutex was never poisoned, and a call was only refused for want
of a pool. -/
structure Unbroken (xxh3 : Bytes → UInt64) (config : LoadedConfig) (calls : List SelectCall) :
    Prop where
  no_panic : ∀ call, (call, .panic) ∉ (serveCalls xxh3 calls (.new config)).1
  usable : ∀ pre post, calls = pre ++ post →
    (reached xxh3 config pre).assignments.poisoned = false
  served : ∀ call outcome, (call, outcome) ∈ (serveCalls xxh3 calls (.new config)).1 →
    config.poolForListener call.listener ≠ [] → ∃ backend, outcome = .ok backend

/-- Every call that has to make an assignment has a reading to which the time to live can be
added. -/
def MissesRepresentable (xxh3 : Bytes → UInt64) (config : LoadedConfig) (calls : List SelectCall) :
    Prop :=
  ∀ pre call post, calls = pre ++ call :: post → config.poolForListener call.listener ≠ [] →
    call.Misses (reached xxh3 config pre).assignments.value →
      (call.now.checkedAdd config.ttl).isSome

theorem Selected.panics_iff {call : SelectCall} {m : Assignments}
    {outcome : Outcome PluginError Str} {mutex : Mutex Assignments}
    (h : Selected xxh3 config call m outcome mutex) :
    outcome = .panic ↔ config.poolForListener call.listener ≠ [] ∧ call.Misses m ∧
      call.now.checkedAdd config.ttl = none := by
  cases h with
  | noPool e hp => exact ⟨nofun, fun h => absurd hp h.1⟩
  | hit entry hp hget hlive => exact ⟨nofun, fun h => absurd hlive (h.2.1 entry hget)⟩
  | miss backend expiresAt hp hmiss hb hexp => rw [hexp]; exact ⟨nofun, fun h => nomatch h.2.2⟩
  | overflow hp hmiss hexp => exact ⟨fun _ => ⟨hp, hmiss, hexp⟩, fun _ => rfl⟩

theorem Selected.served {call : SelectCall} {m : Assignments}
    {outcome : Outcome PluginError Str} {mutex : Mutex Assignments}
    (h : Selected xxh3 config call m outcome mutex) (hne : outcome ≠ .panic)
    (hp : config.poolForListener call.listener ≠ []) : ∃ backend, outcome = .ok backend := by
  cases h with
  | noPool e hp' => exact absurd hp' hp
  | hit entry hp' hget hlive => exact ⟨_, rfl⟩
  | miss backend expiresAt hp' hmiss hb hexp => exact ⟨_, rfl⟩
  | overflow hp' hmiss hexp => exact absurd rfl hne

/-- A call poisons the mutex exactly if it panics. -/
theorem Selected.poisons_iff {call : SelectCall} {m : Assignments}
    {outcome : Outcome PluginError Str} {mutex : Mutex Assignments}
    (h : Selected xxh3 config call m outcome mutex) :
    mutex.poisoned = true ↔ outcome = .panic := by
  cases h with
  | overflow hp hmiss hexp => exact ⟨fun _ => rfl, fun _ => rfl⟩
  | _ => exact ⟨nofun, nofun⟩

/-- Once the mutex is poisoned, every call for a listener with a pool panics. -/
theorem selectBackend_of_poisoned (xxh3 : Bytes → UInt64) (call : SelectCall)
    {lock : Mutex Assignments} (hp : config.poolForListener call.listener ≠ [])
    (hlock : lock.poisoned = true) :
    SharedState.selectBackend xxh3 call.listener call.peer.ip call.now ⟨config, lock⟩ =
      (.panic, ⟨config, lock⟩) :=
  selectBackend_of_pool hp (Mutex.withLock_poisoned hlock)

/-- The mutex is poisoned. -/
def Broken (config : LoadedConfig) (state : SharedState) : Prop :=
  ∃ lock, lock.poisoned = true ∧ state = ⟨config, lock⟩

theorem Broken.selectBackend {state : SharedState} (h : Broken config state)
    (xxh3 : Bytes → UInt64) (call : SelectCall) :
    (state.selectBackend xxh3 call.listener call.peer.ip call.now).2 = state := by
  obtain ⟨lock, hlock, rfl⟩ := h
  by_cases hp : config.poolForListener call.listener = []
  · unfold SharedState.selectBackend
    rw [if_pos hp]
  · rw [selectBackend_of_poisoned xxh3 call hp hlock]

/-- A call in a sound state leaves a sound or a broken one. -/
theorem Sound.selectBackend {state : SharedState} (h : Sound xxh3 config state)
    (call : SelectCall) :
    Sound xxh3 config (state.selectBackend xxh3 call.listener call.peer.ip call.now).2 ∨
      Broken config (state.selectBackend xxh3 call.listener call.peer.ip call.now).2 := by
  obtain ⟨outcome, mutex, hrun, hsel⟩ := selectBackend_cases h call
  rw [hrun]
  by_cases hpanic : outcome = .panic
  · exact .inr ⟨mutex, hsel.poisons_iff.mpr hpanic, rfl⟩
  · exact .inl (hsel.sound h.chosen hpanic)

/-- The shared state is sound until it is broken. -/
theorem reached_cases (xxh3 : Bytes → UInt64) (config : LoadedConfig) (calls : List SelectCall) :
    Sound xxh3 config (reached xxh3 config calls) ∨ Broken config (reached xxh3 config calls) := by
  have hnew : Sound xxh3 config (.new config) ∨ Broken config (.new config) := .inl sound_new
  refine Calls.serve_keeps (P := fun state => Sound xxh3 config state ∨ Broken config state) ?_
    calls hnew
  rintro call state (hsound | hbroken)
  · exact hsound.selectBackend call
  · right
    show Broken config (state.selectBackend xxh3 call.listener call.peer.ip call.now).2
    rwa [hbroken.selectBackend]

theorem reached_sound_of_usable {calls : List SelectCall}
    (h : (reached xxh3 config calls).assignments.poisoned = false) :
    Sound xxh3 config (reached xxh3 config calls) := by
  rcases reached_cases xxh3 config calls with hsound | ⟨lock, hlock, heq⟩
  · exact hsound
  · rw [heq] at h
    exact absurd (hlock.symm.trans h) nofun

/-- A mutex that is not poisoned at the end of a run never was. -/
theorem reached_usable_of_append {pre post : List SelectCall}
    (h : (reached xxh3 config (pre ++ post)).assignments.poisoned = false) :
    (reached xxh3 config pre).assignments.poisoned = false := by
  rcases reached_cases xxh3 config pre with hsound | hbroken
  · exact hsound.usable
  · have hend : Broken config (reached xxh3 config (pre ++ post)) := by
      rw [reached, serveCalls, Calls.snd_serve_append]
      refine Calls.serve_keeps (P := Broken config) ?_ post hbroken
      intro call state hstate
      show Broken config (state.selectBackend xxh3 call.listener call.peer.ip call.now).2
      rwa [hstate.selectBackend]
    obtain ⟨lock, hlock, heq⟩ := hend
    rw [heq] at h
    exact absurd (hlock.symm.trans h) nofun

/-- The mutex is usable after a run exactly if each assignment made in it could expire. -/
theorem missesRepresentable_iff_usable {calls : List SelectCall} :
    MissesRepresentable xxh3 config calls ↔
      (reached xxh3 config calls).assignments.poisoned = false := by
  constructor
  · intro h
    induction calls using List.reverseRecOn with
    | nil => rfl
    | append_singleton calls call ih =>
      have hsound : Sound xxh3 config (reached xxh3 config calls) := by
        refine reached_sound_of_usable (ih ?_)
        rintro pre call' post rfl
        exact h pre call' (post ++ [call]) (by simp)
      obtain ⟨outcome, -, hsel⟩ := reached_step hsound call
      rw [Bool.eq_false_iff, ne_eq, hsel.poisons_iff, hsel.panics_iff]
      rintro ⟨hp, hmiss, hexp⟩
      have hsome := h calls call [] rfl hp hmiss
      rw [hexp] at hsome
      cases hsome
  · rintro h pre call post rfl hp hmiss
    rw [List.append_cons] at h
    have hafter : (reached xxh3 config (pre ++ [call])).assignments.poisoned = false :=
      reached_usable_of_append h
    obtain ⟨outcome, -, hsel⟩ :=
      reached_step (reached_sound_of_usable (reached_usable_of_append hafter)) call
    rw [Bool.eq_false_iff, ne_eq, hsel.poisons_iff, hsel.panics_iff] at hafter
    rw [Option.isSome_iff_ne_none]
    exact fun hexp => hafter ⟨hp, hmiss, hexp⟩

/-- **When the cache can break.** Whatever the order of the calls, no call panics, the mutex is never
poisoned and no call with a pool fails, exactly if the expiry of each assignment that has to be made
is in the range of the clock. -/
theorem selectBackend_unbroken_iff (xxh3 : Bytes → UInt64) (config : LoadedConfig)
    (calls : List SelectCall) :
    Unbroken xxh3 config calls ↔ MissesRepresentable xxh3 config calls := by
  rw [missesRepresentable_iff_usable]
  constructor
  · intro h
    exact h.usable calls [] (List.append_nil calls).symm
  · intro h
    have husable : ∀ pre post, calls = pre ++ post →
        (reached xxh3 config pre).assignments.poisoned = false := by
      rintro pre post rfl
      exact reached_usable_of_append h
    have houtcome : ∀ call outcome, (call, outcome) ∈ (serveCalls xxh3 calls (.new config)).1 →
        outcome ≠ .panic ∧ ∃ m mutex, Selected xxh3 config call m outcome mutex := by
      intro call outcome hmem
      obtain ⟨pre, post, hcalls, ho⟩ := Calls.mem_serve_iff.mp hmem
      obtain ⟨outcome', hrun, hsel⟩ :=
        reached_step (reached_sound_of_usable (husable pre _ hcalls)) call
      obtain rfl : outcome' = outcome := hrun.symm.trans ho
      refine ⟨fun hpanic => ?_, _, _, hsel⟩
      have hafter := husable (pre ++ [call]) post (by rw [hcalls, List.append_cons])
      exact absurd (hafter.symm.trans (hsel.poisons_iff.mpr hpanic)) nofun
    constructor
    case no_panic => intro call hmem; exact (houtcome call _ hmem).1 rfl
    case usable => exact husable
    case served =>
      intro call outcome hmem hp
      obtain ⟨hok, m, mutex, hsel⟩ := houtcome call outcome hmem
      exact hsel.served hok hp

/-- The first call of a client whose expiry is out of range poisons the mutex. -/
theorem selectBackend_new_overflow (xxh3 : Bytes → UInt64) (call : SelectCall)
    (hp : config.poolForListener call.listener ≠ [])
    (hexp : call.now.checkedAdd config.ttl = none) :
    ∃ lock, lock.poisoned = true ∧
      SharedState.selectBackend xxh3 call.listener call.peer.ip call.now (.new config) =
        (.panic, ⟨config, lock⟩) := by
  have hmiss : call.Misses (SharedState.new config).assignments.value := by
    intro entry h
    exact absurd h (allBindings_empty (P := fun _ _ => False) _ entry)
  have hnew : Sound xxh3 config (.new config) := sound_new
  obtain ⟨outcome, lock, hrun, hsel⟩ := selectBackend_cases hnew call
  have hpanic : outcome = .panic := hsel.panics_iff.mpr ⟨hp, hmiss, hexp⟩
  refine ⟨lock, ?_, hpanic ▸ hrun⟩
  cases hsel with
  | overflow hp hmiss hexp => rfl
  | _ => cases hpanic

/-- The configuration file of a cache whose assignments are never to expire. -/
def longestTtl : FileConfig where
  ttlSecs := 0xFFFFFFFFFFFFFFFF
  fallbackBackends := ["127.0.0.1:9001".toList]

def longestTtlConfig : LoadedConfig :=
  ⟨.fromSecs 0xFFFFFFFFFFFFFFFF, ["127.0.0.1:9001".toList], ∅⟩

/-- A call for another listener and another client. -/
def webCall : SelectCall :=
  { dnsCall .tcp 40000 30 with
    listener := "web".toList
    peer := .v4 #v[198, 51, 100, 7] 40000 }

/-- It is accepted. The first call then panics while it holds the lock, and so does the call of
another client for another listener after it. -/
theorem longestTtl_breaks :
    LoadedConfig.tryFrom longestTtl = .ok longestTtlConfig ∧
      (serveCalls (fun _ => dnsDigest) [dnsCall .tcp 50000 20, webCall]
        (.new longestTtlConfig)).1 =
        [(dnsCall .tcp 50000 20, .panic), (webCall, .panic)] ∧
      ¬ Unbroken (fun _ => dnsDigest) longestTtlConfig [dnsCall .tcp 50000 20, webCall] := by
  have hpool : ∀ listener, longestTtlConfig.poolForListener listener ≠ [] := by
    intro listener
    simp [LoadedConfig.poolForListener, longestTtlConfig]
  obtain ⟨lock, hlock, hfirst⟩ := selectBackend_new_overflow (fun _ => dnsDigest)
    (dnsCall .tcp 50000 20) (hpool _) (by decide)
  have hsecond := selectBackend_of_poisoned (fun _ => dnsDigest) webCall (hpool _) hlock
  have hrun : (serveCalls (fun _ => dnsDigest) [dnsCall .tcp 50000 20, webCall]
      (.new longestTtlConfig)).1 = [(dnsCall .tcp 50000 20, .panic), (webCall, .panic)] := by
    unfold serveCalls
    simp only [Calls.serve, hfirst, hsecond]
  refine ⟨rfl, hrun, ?_⟩
  intro h
  apply h.no_panic webCall
  rw [hrun]
  exact List.mem_cons_of_mem _ List.mem_cons_self

end Vakil.Sticky
