import Vakil.Lib.Validation
import Vakil.Sticky.Proofs.ExpiryProofs

/-!
# Proofs: the pools of a loaded configuration

A configuration file is accepted exactly if it is valid, and the pool of a name is then the list of
trimmed backends of its listener, or the fallback if it has none. A listener that is listed without
backends is valid: it shadows the fallback with an empty pool, so its flows are refused.
-/

namespace Vakil.Sticky

open Validation

/-! ## Validation -/

theorem normalize_accepts (field : Str) :
    Accepts (fun value => normalize value field) (fun value => Text.trim value ≠ []) Text.trim := by
  intro value trimmed
  show normalize value field = .ok trimmed ↔ _
  unfold normalize
  split_ifs with hblank
  · exact iff_of_false nofun fun h => h.1 hblank
  · rw [Except.ok.injEq, eq_comm, and_iff_right hblank]

theorem normalizeBackends_iff {values backends : List Str} {field : Str} :
    normalizeBackends values field = .ok backends ↔
      (∀ backend ∈ values, Text.trim backend ≠ []) ∧ backends = values.map Text.trim :=
  (normalize_accepts field).mapM_iff

namespace ListenerConfig

def trimmedName (listener : ListenerConfig) : Str := Text.trim listener.name

def trimmedBackends (listener : ListenerConfig) : List Str := listener.backends.map Text.trim

/-- Neither the name nor a backend is blank. -/
structure Valid (listener : ListenerConfig) : Prop where
  name : Text.trim listener.name ≠ []
  backends : ∀ backend ∈ listener.backends, Text.trim backend ≠ []

end ListenerConfig

/-- A round enters a listener that is valid and not listed yet. -/
theorem addListener_iff (listenerBackends : Std.HashMap Str (List Str)) (listener : ListenerConfig)
    (after : Std.HashMap Str (List Str)) :
    addListener listenerBackends listener = .ok after ↔
      (listener.Valid ∧ listener.trimmedName ∉ listenerBackends) ∧
        after = listenerBackends.insert listener.trimmedName listener.trimmedBackends := by
  unfold addListener
  rw [Except.bind_eq_ok_iff]
  constructor
  · rintro ⟨name, hname, h⟩
    obtain ⟨hblank, rfl⟩ := (normalize_accepts _ _ _).mp hname
    split_ifs at h with hlisted
    obtain ⟨backends, hbackends, h⟩ := Except.bind_ok h
    obtain ⟨hvalid, rfl⟩ := normalizeBackends_iff.mp hbackends
    cases h
    exact ⟨⟨⟨hblank, hvalid⟩, hlisted⟩, rfl⟩
  · rintro ⟨⟨⟨hblank, hvalid⟩, hlisted⟩, rfl⟩
    have hnew : ¬ listenerBackends.contains (Text.trim listener.name) = true :=
      mt Std.HashMap.contains_iff_mem.mp hlisted
    refine ⟨_, (normalize_accepts _ _ _).mpr ⟨hblank, rfl⟩, ?_⟩
    rw [if_neg hnew]
    exact Except.bind_eq_ok_iff.mpr ⟨_, normalizeBackends_iff.mpr ⟨hvalid, rfl⟩, rfl⟩

/-- The files that are accepted. -/
structure FileConfig.Valid (fc : FileConfig) : Prop where
  ttl : fc.ttlSecs ≠ 0
  listeners : ∀ listener ∈ fc.listeners, listener.Valid
  fallback : ∀ backend ∈ fc.fallbackBackends, Text.trim backend ≠ []
  distinct : (fc.listeners.map fun listener => Text.trim listener.name).Nodup
  some_pool : fc.listeners ≠ [] ∨ fc.fallbackBackends ≠ []

/-- What a valid file is loaded as. -/
def FileConfig.loaded (fc : FileConfig) : LoadedConfig :=
  ⟨.fromSecs fc.ttlSecs, fc.fallbackBackends.map Text.trim,
    table ListenerConfig.trimmedName ListenerConfig.trimmedBackends fc.listeners⟩

theorem LoadedConfig.tryFrom_accepts : Accepts tryFrom FileConfig.Valid FileConfig.loaded := by
  intro fc config
  have hempty : ((table ListenerConfig.trimmedName ListenerConfig.trimmedBackends
      fc.listeners).isEmpty && (fc.fallbackBackends.map Text.trim).isEmpty) = true ↔
        ¬ (fc.listeners ≠ [] ∨ fc.fallbackBackends ≠ []) := by
    rw [isEmpty_table]
    simp
  unfold tryFrom
  split_ifs with httl
  · exact iff_of_false nofun fun h => h.1.ttl httl
  rw [Except.bind_eq_ok_iff]
  constructor
  · rintro ⟨listenerBackends, hlisteners, h⟩
    obtain ⟨fallbackBackends, hfallback, h⟩ := Except.bind_ok h
    obtain ⟨⟨hvalid, hdistinct⟩, rfl⟩ := (foldlM_table_iff addListener_iff).mp hlisteners
    obtain ⟨hvalid', rfl⟩ := normalizeBackends_iff.mp hfallback
    split_ifs at h with hnone
    cases h
    rw [hempty, not_not] at hnone
    exact ⟨⟨httl, hvalid, hvalid', hdistinct, hnone⟩, rfl⟩
  · rintro ⟨hvalid, rfl⟩
    have hlisteners := (foldlM_table_iff addListener_iff).mpr
      ⟨⟨hvalid.listeners, hvalid.distinct⟩, rfl⟩
    refine ⟨_, hlisteners, ?_⟩
    refine Except.bind_eq_ok_iff.mpr ⟨_, normalizeBackends_iff.mpr ⟨hvalid.fallback, rfl⟩, ?_⟩
    rw [if_neg (mt hempty.mp (not_not_intro hvalid.some_pool))]
    rfl

/-! ## Pools -/

section Pools

variable {fc : FileConfig} {config : LoadedConfig} {name : Str}

theorem poolForListener_listed (h : LoadedConfig.tryFrom fc = .ok config)
    {listener : ListenerConfig} (hlisted : listener ∈ fc.listeners)
    (hname : Text.trim listener.name = name) :
    config.poolForListener name = listener.backends.map Text.trim := by
  obtain ⟨hvalid, rfl⟩ := (LoadedConfig.tryFrom_accepts fc config).mp h
  subst hname
  have hget : fc.loaded.listenerBackends[listener.trimmedName]? = some listener.trimmedBackends :=
    getElem?_table hvalid.distinct hlisted
  unfold LoadedConfig.poolForListener
  rw [show Text.trim listener.name = listener.trimmedName from rfl, hget]
  rfl

theorem poolForListener_unlisted (h : LoadedConfig.tryFrom fc = .ok config)
    (hname : ∀ listener ∈ fc.listeners, Text.trim listener.name ≠ name) :
    config.poolForListener name = fc.fallbackBackends.map Text.trim := by
  obtain ⟨-, rfl⟩ := (LoadedConfig.tryFrom_accepts fc config).mp h
  have hget : fc.loaded.listenerBackends[name]? = none := getElem?_table_of_forall_ne hname
  unfold LoadedConfig.poolForListener
  rw [hget]
  rfl

end Pools

/-- **Configurations are loaded as they are written.** A file is accepted exactly if its time to
live is not zero, nothing in it is blank, no name is listed twice and it has a listener or a fallback
backend. The pool of a name is then the trimmed backends of the listener with this name, or the
trimmed fallback backends if there is none. -/
theorem tryFrom_agrees_with_file (fc : FileConfig) :
    ((∃ config, LoadedConfig.tryFrom fc = .ok config) ↔ fc.Valid) ∧
      ∀ config, LoadedConfig.tryFrom fc = .ok config → ∀ name,
        (∀ listener ∈ fc.listeners, Text.trim listener.name = name →
          config.poolForListener name = listener.backends.map Text.trim) ∧
        ((∀ listener ∈ fc.listeners, Text.trim listener.name ≠ name) →
          config.poolForListener name = fc.fallbackBackends.map Text.trim) :=
  ⟨LoadedConfig.tryFrom_accepts.exists_ok_iff fc, fun _ h _ =>
    ⟨fun _ => poolForListener_listed h, poolForListener_unlisted h⟩⟩

/-- A file with spaces around its names and backends, and a backend listed twice. -/
def paddedFile : FileConfig where
  fallbackBackends := ["10.0.0.9:53".toList]
  listeners := [⟨" dns ".toList, ["10.0.0.1:53 ".toList, " 10.0.0.1:53".toList]⟩]

theorem paddedFile_valid : paddedFile.Valid := by
  refine ⟨by decide, ?_, by decide, by decide, .inl (by decide)⟩
  intro listener hlistener
  obtain rfl := List.mem_singleton.mp hlistener
  exact ⟨by decide, by decide⟩

theorem paddedFile_pools :
    ∃ config, LoadedConfig.tryFrom paddedFile = .ok config ∧
      config.poolForListener "dns".toList = ["10.0.0.1:53".toList, "10.0.0.1:53".toList] ∧
      config.poolForListener " dns ".toList = ["10.0.0.9:53".toList] := by
  obtain ⟨haccepted, hpools⟩ := tryFrom_agrees_with_file paddedFile
  obtain ⟨config, h⟩ := haccepted.mpr paddedFile_valid
  exact ⟨config, h, (hpools config h _).1 _ List.mem_cons_self (by decide),
    (hpools config h _).2 (by decide)⟩

/-! ## Service -/

section Service

variable {xxh3 : Bytes → UInt64} {config : LoadedConfig}

/-- What a call returns is in its pool. -/
theorem Selected.mem_pool {call : SelectCall} {m : Assignments} {backend : Str}
    {mutex : Mutex Assignments} (hm : Bindings.AllBindings (Chosen xxh3 config) m)
    (h : Selected xxh3 config call m (.ok backend) mutex) :
    backend ∈ config.poolForListener call.listener := by
  have hmem : ∀ entry, config.poolForListener call.listener ≠ [] →
      Chosen xxh3 config call.key entry → entry.backend ∈ config.poolForListener call.listener := by
    intro entry hp hchosen
    obtain ⟨backend', hmem, hchoose⟩ := chooseBackend_mem xxh3 call.listener call.peer.ip hp
    have heq : some backend' = some entry.backend := hchoose.symm.trans hchosen
    rwa [← Option.some.inj heq]
  cases h with
  | hit entry hp hget hlive => exact hmem entry hp (hm _ _ hget)
  | miss backend expiresAt hp hmiss hb hexp => exact hmem _ hp hb

/-- A call is served from its pool exactly if it has one, and the clock can represent the expiry of
every assignment that it and the calls before it had to make. -/
theorem selectBackend_served_iff (xxh3 : Bytes → UInt64) (config : LoadedConfig)
    (pre : List SelectCall) (call : SelectCall) :
    (∃ backend ∈ config.poolForListener call.listener,
        ((reached xxh3 config pre).selectBackend xxh3 call.listener call.peer.ip call.now).1 =
          .ok backend) ↔
      config.poolForListener call.listener ≠ [] ∧
        MissesRepresentable xxh3 config (pre ++ [call]) := by
  rw [missesRepresentable_iff_usable]
  constructor
  · rintro ⟨backend, hmem, hok⟩
    have hp : config.poolForListener call.listener ≠ [] := List.ne_nil_of_mem hmem
    refine ⟨hp, ?_⟩
    rcases reached_cases xxh3 config pre with hsound | ⟨lock, hlock, heq⟩
    · obtain ⟨outcome, hrun, hsel⟩ := reached_step hsound call
      rw [Bool.eq_false_iff, ne_eq, hsel.poisons_iff, ← hrun, hok]
      exact nofun
    · rw [heq, selectBackend_of_poisoned xxh3 call hp hlock] at hok
      cases hok
  · rintro ⟨hp, husable⟩
    have hsound : Sound xxh3 config (reached xxh3 config pre) :=
      reached_sound_of_usable (reached_usable_of_append husable)
    obtain ⟨outcome, hrun, hsel⟩ := reached_step hsound call
    rw [Bool.eq_false_iff, ne_eq, hsel.poisons_iff] at husable
    obtain ⟨backend, rfl⟩ := hsel.served husable hp
    exact ⟨backend, hsel.mem_pool hsound.chosen, hrun⟩

/-- Without a pool, a call is refused in every state. -/
theorem selectBackend_no_pool (xxh3 : Bytes → UInt64) {state : SharedState} (call : SelectCall)
    (hp : state.config.poolForListener call.listener = []) :
    state.selectBackend xxh3 call.listener call.peer.ip call.now =
      (.err (pluginError ("no backends configured for listener ".toList ++ call.listener)),
        state) := by
  unfold SharedState.selectBackend
  rw [if_pos hp]
  rfl

end Service

/-- **A listener is served exactly if it lists a backend.** In a configuration that was accepted,
the pool of a listener is empty exactly if its list in the file is, whatever the fallback. If it is
not, a call for it returns one of its backends after any calls, unless the expiry of an assignment
was out of the range of the clock. -/
theorem listener_served_iff (xxh3 : Bytes → UInt64) (fc : FileConfig) (config : LoadedConfig)
    (h : LoadedConfig.tryFrom fc = .ok config) :
    ∀ listener ∈ fc.listeners,
      (config.poolForListener (Text.trim listener.name) ≠ [] ↔ listener.backends ≠ []) ∧
      ∀ pre call, call.listener = Text.trim listener.name →
        ((∃ backend ∈ listener.backends.map Text.trim,
            ((reached xxh3 config pre).selectBackend xxh3 call.listener call.peer.ip call.now).1 =
              .ok backend) ↔
          listener.backends ≠ [] ∧ MissesRepresentable xxh3 config (pre ++ [call])) := by
  intro listener hlisted
  have hpool := poolForListener_listed h hlisted rfl
  have hne : config.poolForListener (Text.trim listener.name) ≠ [] ↔ listener.backends ≠ [] := by
    rw [hpool, ne_eq, List.map_eq_nil_iff]
  refine ⟨hne, ?_⟩
  intro pre call hcall
  rw [← hne, ← hpool, ← hcall]
  exact selectBackend_served_iff xxh3 config pre call

/-- A client of its listener is served, at the first call. -/
theorem paddedFile_served :
    ∃ backend ∈ ["10.0.0.1:53 ".toList, " 10.0.0.1:53".toList].map Text.trim,
      ((SharedState.new paddedFile.loaded).selectBackend (fun _ => dnsDigest) "dns".toList
        (.v4 #v[192, 0, 2, 10]) (dnsCall .tcp 50000 20).now).1 = .ok backend := by
  have hloaded : LoadedConfig.tryFrom paddedFile = .ok paddedFile.loaded :=
    (LoadedConfig.tryFrom_accepts _ _).mpr ⟨paddedFile_valid, rfl⟩
  have hrep : MissesRepresentable (fun _ => dnsDigest) paddedFile.loaded
      ([] ++ [dnsCall .tcp 50000 20]) := by
    intro pre call post hcalls _ _
    have hcall : call ∈ [dnsCall .tcp 50000 20] := by
      rw [List.nil_append] at hcalls
      rw [hcalls]
      exact List.mem_append_right pre List.mem_cons_self
    rw [List.mem_singleton.mp hcall]
    decide
  have hserved := listener_served_iff (fun _ => dnsDigest) paddedFile _ hloaded _ List.mem_cons_self
  exact (hserved.2 [] (dnsCall .tcp 50000 20) (by decide)).mpr ⟨by decide, hrep⟩

/-- A file whose only listener has no backends, next to a fallback. -/
def emptyListener : FileConfig where
  fallbackBackends := ["127.0.0.1:9001".toList]
  listeners := [⟨"dns".toList, []⟩]

/-- It is accepted, and every client of the listener is refused. -/
theorem emptyListener_refused :
    ∃ config, LoadedConfig.tryFrom emptyListener = .ok config ∧
      config.poolForListener "dns".toList = [] ∧
      ∀ call : SelectCall, call.listener = "dns".toList →
        ((SharedState.new config).selectBackend (fun _ => dnsDigest) call.listener call.peer.ip
          call.now).1 =
        .err (pluginError "no backends configured for listener dns".toList) := by
  have hvalid : emptyListener.Valid := by
    refine ⟨by decide, ?_, by decide, by decide, .inl (by decide)⟩
    intro listener hlistener
    obtain rfl := List.mem_singleton.mp hlistener
    exact ⟨by decide, by decide⟩
  have h : LoadedConfig.tryFrom emptyListener = .ok emptyListener.loaded :=
    (LoadedConfig.tryFrom_accepts _ _).mpr ⟨hvalid, rfl⟩
  have hpool : emptyListener.loaded.poolForListener "dns".toList = [] :=
    poolForListener_listed h List.mem_cons_self (by decide)
  refine ⟨_, h, hpool, ?_⟩
  intro call hcall
  rw [hcall, selectBackend_no_pool _ { call with listener := "dns".toList } hpool]
  rfl

end Vakil.Sticky
