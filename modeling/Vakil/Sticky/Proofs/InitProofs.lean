import Vakil.Lib.ForLoop
import Vakil.Sticky.Init

/-!
# Initialisation is decided once

Every error of `load_state` carries a message, so a failed load is always remembered. The slot is
therefore in one of three states: undecided, or decided by the state or by the error message of the
one load there was.
-/

namespace Vakil.Sticky

/-! ## Errors carry a message -/

/-- An error of the computation has a message. -/
def Explained {α : Type} (x : Except PluginError α) : Prop :=
  ∀ e, x = .error e → ∃ message, e = pluginError message

section Explained

variable {α β : Type} {x : Except PluginError α}

theorem explained_ok (a : α) : Explained (.ok a) := nofun

theorem explained_error (message : Str) :
    Explained (.error (pluginError message) : Except PluginError α) := by
  intro e h
  cases h
  exact ⟨message, rfl⟩

theorem Explained.bind {f : α → Except PluginError β} (hx : Explained x)
    (hf : ∀ a, Explained (f a)) : Explained (x >>= f) := by
  intro e h
  cases x with
  | error e' =>
    cases h
    exact hx e rfl
  | ok a => exact hf a e h

theorem explained_ite {p : Prop} [Decidable p] {y : Except PluginError α} (hx : Explained x)
    (hy : Explained y) : Explained (if p then x else y) := by
  split_ifs
  · exact hx
  · exact hy

theorem explained_foldlM {f : β → α → Except PluginError β} (hf : ∀ b a, Explained (f b a))
    (as : List α) (b : β) : Explained (as.foldlM f b) := by
  induction as generalizing b with
  | nil => exact explained_ok b
  | cons a as ih =>
    rw [List.foldlM_cons]
    exact (hf b a).bind ih

theorem explained_mapM {f : α → Except PluginError β} (hf : ∀ a, Explained (f a)) (as : List α) :
    Explained (as.mapM f) := by
  induction as with
  | nil => exact explained_ok []
  | cons a as ih =>
    rw [List.mapM_cons]
    exact (hf a).bind fun b => ih.bind fun bs => explained_ok _

end Explained

theorem explained_normalize (value field : Str) : Explained (normalize value field) :=
  explained_ite (explained_error _) (explained_ok _)

theorem explained_normalizeBackends (values : List Str) (field : Str) :
    Explained (normalizeBackends values field) :=
  explained_mapM (fun backend => explained_normalize backend field) values

theorem explained_addListener (listenerBackends : Std.HashMap Str (List Str))
    (listener : ListenerConfig) : Explained (addListener listenerBackends listener) := by
  refine (explained_normalize _ _).bind ?_
  intro name
  refine explained_ite (explained_error _) ?_
  exact (explained_normalizeBackends _ _).bind fun backends => explained_ok _

theorem LoadedConfig.explained_tryFrom (value : FileConfig) : Explained (tryFrom value) := by
  refine explained_ite (explained_error _) ?_
  refine (explained_foldlM explained_addListener _ _).bind ?_
  intro listenerBackends
  refine (explained_normalizeBackends _ _).bind ?_
  intro fallbackBackends
  exact explained_ite (explained_error _) (explained_ok _)

variable {fromToml : Str → Except Str FileConfig}

theorem explained_loadState (ctx : PluginInitContext) (call : InitCall) :
    Explained (loadState fromToml ctx call) := by
  unfold loadState
  dsimp only
  split
  · exact explained_error _
  · next configText hread =>
    split
    · exact explained_error _
    · next fileConfig hparse =>
      cases hconfig : LoadedConfig.tryFrom fileConfig with
      | error e =>
        obtain ⟨message, rfl⟩ := LoadedConfig.explained_tryFrom fileConfig e hconfig
        exact explained_error message
      | ok config => exact explained_ok _

/-! ## The slot -/

/-- The process once a load has ended with `result`, an error by its message. -/
def decided : Except Str (Arc SharedState) → InitProcess
  | .ok state => ⟨.new { state := some state }, [.ok state]⟩
  | .error message => ⟨.new { initError := some message }, [.error (pluginError message)]⟩

/-- A call on an undecided slot loads, and what it loads decides the slot. -/
theorem ensureState_new (fromToml : Str → Except Str FileConfig) (ctx : PluginInitContext)
    (call : InitCall) :
    ∃ result, loadState fromToml ctx call = result.mapError pluginError ∧
      ensureState fromToml ctx call .new =
        (.ofExcept (loadState fromToml ctx call), decided result) := by
  cases hload : loadState fromToml ctx call with
  | ok state =>
    refine ⟨.ok state, rfl, ?_⟩
    unfold ensureState
    rw [hload]
    rfl
  | error e =>
    obtain ⟨message, rfl⟩ := explained_loadState ctx call e hload
    refine ⟨.error message, rfl, ?_⟩
    unfold ensureState
    rw [hload]
    rfl

/-- A call on a decided slot returns what decided it and leaves the slot alone. -/
theorem ensureState_decided (fromToml : Str → Except Str FileConfig)
    (result : Except Str (Arc SharedState)) (ctx : PluginInitContext) (call : InitCall) :
    ensureState fromToml ctx call (decided result) =
      (.ofExcept (result.mapError pluginError), decided result) := by
  cases result with
  | ok state => rfl
  | error message => rfl

/-- A call of `init` with a module instance and an init context. -/
structure InitCall.OnModule (call : InitCall) (ctx : PluginInitContext) : Prop where
  inst : call.inst ≠ 0
  ctx : call.ctx = some ctx

theorem stickyInit_onModule {call : InitCall} {ctx : PluginInitContext} (h : call.OnModule ctx)
    {load : Except PluginError (Arc SharedState)} {p p' : InitProcess}
    (hensure : ensureState fromToml ctx call p = (.ofExcept load, p')) :
    stickyInit fromToml call p = (.ofExcept (load.map fun _ => ()), p') := by
  unfold stickyInit
  rw [if_neg h.inst, h.ctx]
  dsimp only
  rw [hensure]
  cases load with
  | ok state => rfl
  | error e => rfl

/-- A call without a module instance or without an init context does not get to the slot. -/
theorem stickyInit_of_not_onModule {call : InitCall} (h : ∀ ctx, ¬ call.OnModule ctx)
    (p : InitProcess) : (stickyInit fromToml call p).2 = p := by
  unfold stickyInit
  by_cases hinst : call.inst = 0
  · rw [if_pos hinst]
  · rw [if_neg hinst]
    cases hctx : call.ctx with
    | none => rfl
    | some ctx => exact absurd ⟨hinst, hctx⟩ (h ctx)

/-! ## Runs -/

/-- The process after some calls. -/
def afterInits (fromToml : Str → Except Str FileConfig) (calls : List InitCall) : InitProcess :=
  (serveInits fromToml calls .new).2

theorem afterInits_concat (calls : List InitCall) (call : InitCall) :
    afterInits fromToml (calls ++ [call]) =
      (stickyInit fromToml call (afterInits fromToml calls)).2 :=
  Calls.snd_serve_concat calls call _

theorem afterInits_undecided {calls : List InitCall}
    (h : ∀ call ∈ calls, ∀ ctx, ¬ call.OnModule ctx) : afterInits fromToml calls = .new := by
  induction calls using List.reverseRecOn with
  | nil => rfl
  | append_singleton calls call ih =>
    rw [afterInits_concat, ih fun c hc => h c (List.mem_append_left _ hc)]
    exact stickyInit_of_not_onModule (h call (by simp)) _

theorem stickyInit_keeps_decided (result : Except Str (Arc SharedState)) (call : InitCall) :
    (stickyInit fromToml call (decided result)).2 = decided result := by
  by_cases h : ∃ ctx, call.OnModule ctx
  · obtain ⟨ctx, hctx⟩ := h
    rw [stickyInit_onModule hctx (ensureState_decided fromToml result ctx call)]
  · exact stickyInit_of_not_onModule (not_exists.mp h) _

/-- From the first call on a module the slot is decided by what that call loads. -/
theorem afterInits_decided {pre : List InitCall} {first : InitCall} {ctx : PluginInitContext}
    (hpre : ∀ call ∈ pre, ∀ ctx, ¬ call.OnModule ctx) (hfirst : first.OnModule ctx)
    {result : Except Str (Arc SharedState)}
    (hresult : ensureState fromToml ctx first .new =
      (.ofExcept (loadState fromToml ctx first), decided result)) (mid : List InitCall) :
    afterInits fromToml (pre ++ first :: mid) = decided result := by
  have hdecided : afterInits fromToml (pre ++ [first]) = decided result := by
    rw [afterInits_concat, afterInits_undecided hpre, stickyInit_onModule hfirst hresult]
  have hend : (serveInits fromToml mid (afterInits fromToml (pre ++ [first]))).2 = decided result := by
    refine Calls.serve_keeps (P := (· = decided result)) ?_ mid hdecided
    rintro call process rfl
    exact stickyInit_keeps_decided result call
  rw [List.append_cons]
  exact (Calls.snd_serve_append _ mid _).trans hend

/-- A run is undecided, or it has a first call on a module. -/
theorem exists_first_onModule (calls : List InitCall) :
    (∀ call ∈ calls, ∀ ctx, ¬ call.OnModule ctx) ∨
      ∃ pre first post ctx, calls = pre ++ first :: post ∧
        (∀ call ∈ pre, ∀ ctx, ¬ call.OnModule ctx) ∧ first.OnModule ctx := by
  rcases ForLoop.exists_first (fun call : InitCall => ∃ ctx, call.OnModule ctx) calls with
    hnone | ⟨pre, first, post, hcalls, hpre, ctx, hfirst⟩
  · exact .inl fun call hcall => not_exists.mp (hnone call hcall)
  · have hbefore : ∀ call ∈ pre, ∀ ctx, ¬ call.OnModule ctx :=
      fun call hcall => not_exists.mp (hpre call hcall)
    exact .inr ⟨pre, first, post, ctx, hcalls, hbefore, hfirst⟩

theorem afterInits_cases (fromToml : Str → Except Str FileConfig) (calls : List InitCall) :
    afterInits fromToml calls = .new ∨
      ∃ result, ∀ later, afterInits fromToml (calls ++ later) = decided result := by
  rcases exists_first_onModule calls with hnone | ⟨pre, first, post, ctx, rfl, hpre, hfirst⟩
  · exact .inl (afterInits_undecided hnone)
  · obtain ⟨result, -, hresult⟩ := ensureState_new fromToml ctx first
    refine .inr ⟨result, ?_⟩
    intro later
    rw [List.append_assoc, List.cons_append]
    exact afterInits_decided hpre hfirst hresult _

/-- Every call on a module returns what the first one returned. -/
theorem serveInits_outcome {pre post : List InitCall} {first call : InitCall}
    {ctx ctx' : PluginInitContext} (hpre : ∀ call ∈ pre, ∀ ctx, ¬ call.OnModule ctx)
    (hfirst : first.OnModule ctx) (hcall : call.OnModule ctx') {outcome : Outcome PluginError Unit}
    (hmem : (call, outcome) ∈ (serveInits fromToml (pre ++ first :: post) .new).1) :
    outcome = .ofExcept ((loadState fromToml ctx first).map fun _ => ()) := by
  obtain ⟨result, hload, hresult⟩ := ensureState_new fromToml ctx first
  unfold serveInits at hmem
  rw [Calls.serve_append] at hmem
  rcases List.mem_append.mp hmem with hmem | hmem
  · have hin : call ∈ pre := by
      have hfst := List.mem_map_of_mem (f := Prod.fst) hmem
      rwa [Calls.map_fst_serve] at hfst
    exact absurd hcall (hpre call hin ctx')
  · obtain ⟨mid, rest, hsplit, rfl⟩ := Calls.mem_serve_iff.mp hmem
    cases mid with
    | nil =>
      cases hsplit
      have hrun := stickyInit_onModule hfirst hresult
      have hundecided : (Calls.serve (stickyInit fromToml) pre .new).2 = .new :=
        afterInits_undecided hpre
      rw [Calls.serve, hundecided, hrun]
    | cons first' mid =>
      obtain ⟨rfl, -⟩ := List.cons.inj hsplit
      have hrun := stickyInit_onModule hcall (ensureState_decided fromToml result ctx' call)
      have hdecided := afterInits_decided hpre hfirst hresult mid
      unfold afterInits serveInits at hdecided
      rw [Calls.serve_append] at hdecided
      rw [hdecided, hrun, ← hload]

/-- **Initialisation is decided once.** For every order of `init` calls, whatever contexts they come
with and whatever the file system answers at each of them, there is at most one load, the slot never
holds both a state and an error, and a state is never replaced. The load is that of the first call on
a module instance with an init context, and every such call returns its outcome: the one state, or an
error with its message. -/
theorem stickyInit_decided_once (fromToml : Str → Except Str FileConfig) :
    (∀ calls, (afterInits fromToml calls).loads.length ≤ 1 ∧
      ¬ ((afterInits fromToml calls).slot.value.state.isSome ∧
        (afterInits fromToml calls).slot.value.initError.isSome)) ∧
    (∀ calls later state, (afterInits fromToml calls).slot.value.state = some state →
      (afterInits fromToml (calls ++ later)).slot.value.state = some state) ∧
    ∀ pre first ctx, (∀ call ∈ pre, ∀ ctx, ¬ call.OnModule ctx) → first.OnModule ctx →
      (afterInits fromToml pre).loads = [] ∧
      (ensureState fromToml ctx first (afterInits fromToml pre)).1 =
        .ofExcept (loadState fromToml ctx first) ∧
      ∀ post,
        (afterInits fromToml (pre ++ first :: post)).loads = [loadState fromToml ctx first] ∧
        (afterInits fromToml (pre ++ first :: post)).currentState =
          (loadState fromToml ctx first).toOption ∧
        (∀ call ctx', call.OnModule ctx' →
          (ensureState fromToml ctx' call (afterInits fromToml (pre ++ first :: post))).1 =
            .ofExcept (loadState fromToml ctx first)) ∧
        ∀ call ctx' outcome, call.OnModule ctx' →
          (call, outcome) ∈ (serveInits fromToml (pre ++ first :: post) .new).1 →
          outcome = .ofExcept ((loadState fromToml ctx first).map fun _ => ()) := by
  refine ⟨?_, ?_, ?_⟩
  · intro calls
    rcases afterInits_cases fromToml calls with hnew | ⟨result, hdecided⟩
    · rw [hnew]
      exact ⟨Nat.zero_le 1, nofun⟩
    · have h := hdecided []
      rw [List.append_nil] at h
      rw [h]
      cases result with
      | ok state => exact ⟨Nat.le_refl 1, nofun⟩
      | error message => exact ⟨Nat.le_refl 1, nofun⟩
  · intro calls later state hstate
    rcases afterInits_cases fromToml calls with hnew | ⟨result, hdecided⟩
    · rw [hnew] at hstate
      cases hstate
    · have h := hdecided []
      rw [List.append_nil] at h
      rw [hdecided later, ← h]
      exact hstate
  · intro pre first ctx hpre hfirst
    obtain ⟨result, hload, hresult⟩ := ensureState_new fromToml ctx first
    have hundecided : afterInits fromToml pre = .new := afterInits_undecided hpre
    refine ⟨by rw [hundecided]; rfl, by rw [hundecided, hresult], ?_⟩
    intro post
    have hdecided := afterInits_decided hpre hfirst hresult post
    refine ⟨?_, ?_, ?_, ?_⟩
    · rw [hdecided, hload]
      cases result with
      | ok state => rfl
      | error message => rfl
    · rw [hdecided, hload]
      cases result with
      | ok state => rfl
      | error message => rfl
    · intro call ctx' _
      rw [hdecided, ensureState_decided, hload]
    · intro call ctx' outcome hcall hmem
      exact serveInits_outcome hpre hfirst hcall hmem

def oneBackend : FileConfig where
  fallbackBackends := ["127.0.0.1:9001".toList]

def readable (_ : Str) : Except Str FileConfig := .ok oneBackend

/-- A call on a module, with what reading the config file gives. -/
def initCall (file : Except Str Str) (address : Nat) : InitCall where
  inst := 1
  ctx := some ⟨"sticky.so".toList, none, ⟨0, 1, 0⟩, ⟨[]⟩⟩
  readToString _ := file
  address := address

theorem initCall_onModule (file : Except Str Str) (address : Nat) :
    (initCall file address).OnModule ⟨"sticky.so".toList, none, ⟨0, 1, 0⟩, ⟨[]⟩⟩ :=
  ⟨Nat.one_ne_zero, rfl⟩

/-- The file is missing at the first call and there at the second, and the other way round. -/
theorem stickyInit_decided_by_first :
    (∀ outcome, (initCall (.ok []) 2, outcome) ∈ (serveInits readable
        [initCall (.error "not found".toList) 1, initCall (.ok []) 2] .new).1 →
      outcome = .err (pluginError
        "failed to read sticky config sticky-l4.toml: not found".toList)) ∧
    (∀ outcome, (initCall (.error "not found".toList) 2, outcome) ∈ (serveInits readable
        [initCall (.ok []) 1, initCall (.error "not found".toList) 2] .new).1 → outcome = .ok ()) ∧
    (afterInits readable [initCall (.ok []) 1,
      initCall (.error "not found".toList) 2]).currentState.map (·.address) = some 1 := by
  have hnone : ∀ call ∈ ([] : List InitCall), ∀ ctx, ¬ call.OnModule ctx :=
    fun _ hcall => absurd hcall List.not_mem_nil
  obtain ⟨-, -, hmissing⟩ := (stickyInit_decided_once readable).2.2 [] _ _ hnone
    (initCall_onModule (.error "not found".toList) 1)
  obtain ⟨-, -, hthere⟩ := (stickyInit_decided_once readable).2.2 [] _ _ hnone
    (initCall_onModule (.ok []) 1)
  refine ⟨?_, ?_, ?_⟩
  · exact fun outcome => (hmissing [initCall (.ok []) 2]).2.2.2 _ _ outcome (initCall_onModule _ 2)
  · exact fun outcome => (hthere [initCall (.error "not found".toList) 2]).2.2.2 _ _ outcome
      (initCall_onModule _ 2)
  · exact congrArg (Option.map (·.address))
      (hthere [initCall (.error "not found".toList) 2]).2.1

end Vakil.Sticky
