import JetsonFabric.Lib.Transition
import JetsonFabric.Deployment.Manager

/-!
# The lifecycle of resident deployments

`managerSystem` runs one model manager under any interleaving of loads (registration, build,
completion), activations, drains and unloads. `ManagerInv` is its invariant.
-/

namespace JetsonFabric

open Std ModelManager

variable {ε : Type}

/-! ## What a call can do -/

variable {r : ResidentDeployment ε} {m : ModelManager ε} {key : DeploymentKey} {p : Nat}

theorem findKey_eq_some :
    m.findKey key = some (p, r) ↔ m.deployments[key]? = some p ∧ m.heap[p]? = some r := by
  simp only [findKey, Option.bind_eq_some_iff, Option.map_eq_some_iff, Prod.mk.injEq]
  constructor
  · rintro ⟨q, hq, r', hr, rfl, rfl⟩
    exact ⟨hq, hr⟩
  · rintro ⟨hp, hr⟩
    exact ⟨p, hp, r, hr, rfl, rfl⟩

theorem findExact_eq_some {i : DeploymentIdentity} :
    m.findExact i = some (p, r) ↔ m.findKey (keyFor i) = some (p, r) ∧ r.identity = i := by
  simp [findExact, Option.filter_eq_some_iff]

/-- All that an activation can do. -/
theorem activate_cases (m : ModelManager ε) (i : DeploymentIdentity) :
    (∃ res, m.activateResidentDeployment i = { manager := m, result := .ok res }) ∨
    (∃ p r res, m.findExact i = some (p, r) ∧ r.state = .active ∧
      m.activateResidentDeployment i =
        { manager := { m with preferred := some (keyFor i) }, result := .ok res }) ∨
    (∃ p r res, m.findExact i = some (p, r) ∧ r.state = .ready ∧ r.execution.isSome ∧
      m.activateResidentDeployment i =
        { manager := { m.store p { r with state := .active } with preferred := some (keyFor i) }
          requested := [(.ready, .active)]
          result := .ok res }) := by
  unfold activateResidentDeployment
  split
  · exact .inl ⟨_, rfl⟩
  split
  · exact .inl ⟨_, rfl⟩
  rename_i p r hf
  have hi : r.identity = i := (findExact_eq_some.mp hf).2
  rcases r with ⟨identity, state, cancel, residency, execution⟩
  subst hi
  cases state
  case active => exact .inr (.inl ⟨p, _, _, hf, rfl, rfl⟩)
  case ready =>
    cases execution with
    | none => exact .inl ⟨_, rfl⟩
    | some e => exact .inr (.inr ⟨p, _, _, hf, rfl, rfl, rfl⟩)
  all_goals exact .inl ⟨_, rfl⟩

/-- All that a drain can do. -/
theorem drain_cases (m : ModelManager ε) (i : DeploymentIdentity) :
    (∃ res, m.drainResidentDeployment i = { manager := m, result := .ok res }) ∨
    (∃ p r res, m.findExact i = some (p, r) ∧ r.state = .active ∧
      m.drainResidentDeployment i =
        { manager := m.store p { r with state := .draining }
          requested := [(.active, .draining)]
          result := .ok res }) := by
  unfold drainResidentDeployment
  split
  · exact .inl ⟨_, rfl⟩
  split
  · exact .inl ⟨_, rfl⟩
  rename_i p r hf
  rcases r with ⟨identity, state, cancel, residency, execution⟩
  cases state
  case active => exact .inr ⟨p, _, _, hf, rfl, rfl⟩
  all_goals exact .inl ⟨_, rfl⟩

/-- The states from which an unload removes a deployment. -/
def removable (state : ResidentDeploymentState) : Prop :=
  state ≠ .active ∧ state ≠ .unloading

/-- What an unload leaves of a removed object: nothing names it any more. -/
def removed (r : ResidentDeployment ε) : ResidentDeployment ε :=
  if r.state = .loading then { r with cancelRequested := true } else { r with state := .unloading }

/-- All that an unload can do. -/
theorem unload_cases (m : ModelManager ε) (i : DeploymentIdentity) :
    (∃ res, m.unloadResidentDeployment i = { manager := m, result := .ok res } ∧
      (res.ok = true → m.findExact i = none)) ∨
    (∃ p r res, m.findExact i = some (p, r) ∧ removable r.state ∧
      m.unloadResidentDeployment i =
        { manager := ((m.store p (removed r)).erase (keyFor i)).selectPreferredAfterErase
          requested := if r.state = .loading then [] else [(r.state, .unloading)]
          result := .ok res } ∧ res.ok = true) := by
  unfold unloadResidentDeployment
  split
  · rename_i invalid h
    refine .inl ⟨_, rfl, fun hok => ?_⟩
    simp only [validateOperationIdentity, Option.map_eq_some_iff] at h
    obtain ⟨e, -, rfl⟩ := h
    simp [operationError] at hok
  split
  · rename_i hf
    exact .inl ⟨_, rfl, fun _ => hf⟩
  rename_i p r hf
  have hi : r.identity = i := (findExact_eq_some.mp hf).2
  rcases r with ⟨identity, state, cancel, residency, execution⟩
  subst hi
  cases state
  case active => exact .inl ⟨_, rfl, fun h => by simp [operationError] at h⟩
  case unloading => exact .inl ⟨_, rfl, fun h => by simp [transitioningError, operationError] at h⟩
  all_goals exact .inr ⟨p, _, _, hf, ⟨by simp, by simp⟩, rfl, rfl⟩

/-- All that the registration of a load can do. -/
theorem register_cases (m : ModelManager ε) (nodeName : Bytes) (i : DeploymentIdentity)
    (a : StageAssignment) (hasBuilder : Bool) :
    (∃ res, m.registerLoad nodeName i a hasBuilder = .error res) ∨
    (m.findKey (keyFor i) = none ∧ requireManagedIdentity i = none ∧
      m.registerLoad nodeName i a hasBuilder =
      .ok ({ heap := m.heap ++ [{ identity := i, state := .loading }]
             deployments := m.deployments.insert (keyFor i) m.heap.length
             preferred := m.preferred.or (some (keyFor i)) },
        { nodeName, key := keyFor i, resident := m.heap.length, assignment := a })) := by
  unfold registerLoad
  split
  · exact .inl ⟨_, rfl⟩
  split
  · exact .inl ⟨_, rfl⟩
  split
  · exact .inl ⟨_, rfl⟩
  rename_i hm
  split
  · exact .inl ⟨_, rfl⟩
  rename_i hf
  exact .inr ⟨hf, hm, rfl⟩

theorem failLoad_loading {load : PendingLoad}
    (h : m.loadCanceled load r = false) (hs : r.state = .loading) (status code what : Bytes) :
    m.failLoad load r [] status code what =
      { manager := m.store load.resident { r with state := .failed }
        requested := [(.loading, .failed)]
        result := .ok (operationError status code what (some r.identity) (some .failed)) } := by
  simp [failLoad, h, transition, hs, isValidResidentDeploymentTransition]

theorem failLoad_canceled {load : PendingLoad}
    (h : m.loadCanceled load r = true) (status code what : Bytes) :
    m.failLoad load r [] status code what =
      { manager := m, result := .ok (canceledLoad r.identity) } := by
  simp [failLoad, h]

theorem completeLoad_canceled {load : PendingLoad} (hr : m.heap[load.resident]? = some r)
    (h : m.loadCanceled load r = true) (outcome : BuildOutcome ε) :
    m.completeLoad load outcome = { manager := m, result := .ok (canceledLoad r.identity) } := by
  cases outcome with
  | invalidArgument what => simp [completeLoad, hr, failInvalidArgument, failLoad_canceled h]
  | exception what => simp [completeLoad, hr, failException, failLoad_canceled h]
  | parts parts =>
    cases he : parts.executor with
    | none => simp [completeLoad, hr, he, failInvalidArgument, failLoad_canceled h]
    | some e => simp [completeLoad, hr, he, h]

/-- The object failed, or is ready with its execution. -/
def Completed (r r' : ResidentDeployment ε) : Prop :=
  r' = { r with state := .failed } ∨
    ∃ residency execution,
      r' = { r with state := .ready, modelResidency := residency, execution := some execution }

theorem completeLoad_wanted {load : PendingLoad}
    (hr : m.heap[load.resident]? = some r) (h : m.loadCanceled load r = false)
    (hs : r.state = .loading) (outcome : BuildOutcome ε) :
    ∃ r' res, Completed r r' ∧ m.completeLoad load outcome =
      { manager := m.store load.resident r'
        requested := [(.loading, r'.state)]
        result := .ok res } := by
  have failed (status code what : Bytes) :
      ∃ r' res, Completed r r' ∧ m.failLoad load r [] status code what =
        { manager := m.store load.resident r'
          requested := [(.loading, r'.state)]
          result := .ok res } :=
    ⟨_, _, .inl rfl, failLoad_loading h hs status code what⟩
  simp only [completeLoad, hr]
  cases outcome with
  | invalidArgument what => exact failed _ _ what
  | exception what => exact failed _ _ what
  | parts parts =>
    cases he : parts.executor with
    | none =>
      simp only [he]
      exact failed _ _ _
    | some e =>
      simp only [he, h, Bool.false_eq_true, if_false, transition, hs]
      exact ⟨_, _, .inr ⟨_, _, rfl⟩, rfl⟩

/-! ## The system -/

/-- A manager with the loads that are being built. -/
structure ManagerState (ε : Type) where
  manager : ModelManager ε := {}
  loads : List PendingLoad := []

/-- The critical sections that callers can enter. -/
inductive ManagerCall (ε : Type)
  | load (nodeName : Bytes) (i : DeploymentIdentity) (a : StageAssignment) (hasBuilder : Bool)
  | complete (load : PendingLoad) (outcome : BuildOutcome ε)
  | abandon (load : PendingLoad)
  | activate (i : DeploymentIdentity)
  | drain (i : DeploymentIdentity)
  | unload (i : DeploymentIdentity)

/-- The new state, the state changes asked for, and the answer. -/
structure ManagerEffect (ε : Type) where
  state : ManagerState ε
  requested : List (ResidentDeploymentState × ResidentDeploymentState) := []
  result : Option (Except Bytes DeploymentOperationResult) := none

/-- The effect of a call with its outcome and the loads that remain. -/
def Outcome.effect (o : Outcome ε) (loads : List PendingLoad) : ManagerEffect ε :=
  { state := { manager := o.manager, loads }, requested := o.requested, result := some o.result }

namespace ManagerState

/-- The effect of a critical section. -/
def perform (s : ManagerState ε) : ManagerCall ε → ManagerEffect ε
  | .load nodeName i a hasBuilder =>
    match s.manager.registerLoad nodeName i a hasBuilder with
    | .error res => { state := s, result := some (.ok res) }
    | .ok (m, load) => { state := { manager := m, loads := load :: s.loads } }
  | .complete load outcome => (s.manager.completeLoad load outcome).effect (s.loads.erase load)
  | .abandon load => { state := { s with loads := s.loads.erase load } }
  | .activate i => (s.manager.activateResidentDeployment i).effect s.loads
  | .drain i => (s.manager.drainResidentDeployment i).effect s.loads
  | .unload i => (s.manager.unloadResidentDeployment i).effect s.loads

/-- Only a load in progress can complete. -/
def Enabled (s : ManagerState ε) : ManagerCall ε → Prop
  | .complete load _ => load ∈ s.loads
  | .abandon load => load ∈ s.loads
  | _ => True

instance (s : ManagerState ε) (call : ManagerCall ε) : Decidable (s.Enabled call) := by
  unfold Enabled
  split <;> infer_instance

end ManagerState

/-- One model manager and its callers. -/
def managerSystem (ε : Type) : LTS (ManagerState ε) (ManagerCall ε) where
  init s :=
    s = {} ∨ ∃ nodeName i a parts m, insertActive nodeName i a parts = .ok m ∧ s = { manager := m }
  step s call s' := s.Enabled call ∧ s' = (s.perform call).state

theorem reachable_perform {s : ManagerState ε} (h : (managerSystem ε).Reachable s)
    (call : ManagerCall ε) (hc : s.Enabled call) :
    (managerSystem ε).Reachable (s.perform call).state :=
  h.step ⟨hc, rfl⟩

/-! ## The invariant -/

/-- The states of a deployment that has its execution. -/
def hasExecution (state : ResidentDeploymentState) : Prop :=
  state = .ready ∨ state = .active ∨ state = .draining

/-- What holds of every resident object. -/
structure ResidentDeployment.Sound (key : DeploymentKey) (r : ResidentDeployment ε) : Prop where
  key : keyFor r.identity = key
  resident : r.state ≠ .unloading
  execution : r.execution.isSome ↔ hasExecution r.state

/-- The invariant of a manager and the loads in progress. -/
structure ManagerInv (s : ManagerState ε) : Prop where
  sound : ∀ key p, s.manager.deployments[key]? = some p →
    ∃ r : ResidentDeployment ε, s.manager.heap[p]? = some r ∧ r.Sound key
  preferred : ∀ key, s.manager.preferred = some key → key ∈ s.manager.deployments
  vacant : s.manager.preferred = none → ∀ key, key ∉ s.manager.deployments
  -- a load in progress owns its object while the map still names it
  pending : ∀ load ∈ s.loads, ∃ r, s.manager.heap[load.resident]? = some r ∧
    keyFor r.identity = load.key ∧
    (s.manager.deployments[load.key]? = some load.resident → r.state = .loading)
  apart : (s.loads.map PendingLoad.resident).Nodup

variable {call : ManagerCall ε}

namespace ManagerInv

variable {s : ManagerState ε}

theorem sound_of_findKey (h : ManagerInv s)
    (hf : s.manager.findKey key = some (p, r)) : r.Sound key := by
  obtain ⟨hp, hr⟩ := findKey_eq_some.mp hf
  obtain ⟨r', hr', hs⟩ := h.sound key p hp
  rw [hr] at hr'
  exact Option.some.inj hr' ▸ hs

theorem loading_of_pending (h : ManagerInv s) {load : PendingLoad} (hl : load ∈ s.loads)
    (hf : s.manager.findKey key = some (load.resident, r)) : r.state = .loading := by
  obtain ⟨hp, hr⟩ := findKey_eq_some.mp hf
  obtain ⟨r', hr', hk, hs⟩ := h.pending load hl
  obtain rfl : r = r' := Option.some.inj (hr ▸ hr')
  rw [← hk, (h.sound_of_findKey hf).key] at hs
  exact hs hp

theorem store (h : ManagerInv s) {r' : ResidentDeployment ε}
    {loads : List PendingLoad} (hf : s.manager.findKey key = some (p, r)) (hr' : r'.Sound key)
    (hsub : loads.Sublist s.loads) (howner : ∀ load ∈ loads, load.resident ≠ p) :
    ManagerInv { manager := s.manager.store p r', loads } := by
  obtain ⟨hp, hr⟩ := findKey_eq_some.mp hf
  refine ⟨fun k q hq => ?_, h.preferred, h.vacant, fun load hl => ?_,
    h.apart.sublist (hsub.map _)⟩
  · obtain ⟨o, ho, hs⟩ := h.sound k q hq
    by_cases hqp : q = p
    · subst hqp
      obtain rfl : r = o := Option.some.inj (hr ▸ ho)
      obtain rfl : key = k := (h.sound_of_findKey hf).key ▸ hs.key
      have hlt : q < s.manager.heap.length := (List.getElem?_eq_some_iff.mp ho).1
      exact ⟨r', by simp [ModelManager.store, hlt], hr'⟩
    · exact ⟨o, by simpa [ModelManager.store, List.getElem?_set_ne (Ne.symm hqp)] using ho, hs⟩
  · obtain ⟨o, ho, hk, hs⟩ := h.pending load (hsub.subset hl)
    have hne := howner load hl
    exact ⟨o, by simpa [ModelManager.store, List.getElem?_set_ne (Ne.symm hne)] using ho, hk, hs⟩

theorem prefer (h : ManagerInv s) (hk : key ∈ s.manager.deployments) :
    ManagerInv { s with manager := { s.manager with preferred := some key } } := by
  refine ⟨h.sound, fun k e => ?_, fun e => by simp at e, h.pending, h.apart⟩
  obtain rfl : key = k := by simpa using e
  exact hk

theorem mem_of_findKey (hf : m.findKey key = some (p, r)) : key ∈ m.deployments :=
  ExtTreeMap.mem_iff_isSome_getElem?.mpr (by simp [(findKey_eq_some.mp hf).1])

theorem not_owner (h : ManagerInv s)
    (hf : s.manager.findKey key = some (p, r)) (hr : r.state ≠ .loading) :
    ∀ load ∈ s.loads, load.resident ≠ p := by
  rintro load hl rfl
  exact hr (h.loading_of_pending hl hf)

theorem activate (h : ManagerInv s) (i : DeploymentIdentity) :
    ManagerInv (s.perform (.activate i)).state := by
  simp only [ManagerState.perform, Outcome.effect]
  rcases activate_cases s.manager i with ⟨res, e⟩ | ⟨p, r, res, hf, hr, e⟩ |
    ⟨p, r, res, hf, hr, hx, e⟩
  · rw [e]
    exact h
  · rw [e]
    exact h.prefer (mem_of_findKey (findExact_eq_some.mp hf).1)
  · rw [e]
    have hk := (findExact_eq_some.mp hf).1
    have hs : ResidentDeployment.Sound (keyFor i) { r with state := .active } :=
      ⟨(h.sound_of_findKey hk).key, by simp, by simp [hx, hasExecution]⟩
    have hmem : keyFor i ∈ s.manager.deployments := mem_of_findKey hk
    exact (h.store hk hs (List.Sublist.refl _) (h.not_owner hk (by simp [hr]))).prefer hmem

theorem drain (h : ManagerInv s) (i : DeploymentIdentity) :
    ManagerInv (s.perform (.drain i)).state := by
  simp only [ManagerState.perform, Outcome.effect]
  rcases drain_cases s.manager i with ⟨res, e⟩ | ⟨p, r, res, hf, hr, e⟩
  · rw [e]
    exact h
  · rw [e]
    have hk := (findExact_eq_some.mp hf).1
    have hs := h.sound_of_findKey hk
    have hx : r.execution.isSome := hs.execution.mpr (by simp [hr, hasExecution])
    exact h.store hk ⟨hs.key, by simp, by simp [hx, hasExecution]⟩ (List.Sublist.refl _)
      (h.not_owner hk (by simp [hr]))

theorem selectPreferredAfterErase_mem
    (h : m.selectPreferredAfterErase.preferred = some key) : key ∈ m.deployments := by
  simp only [selectPreferredAfterErase, Option.or_eq_some_iff] at h
  have hrev : key ∈ m.keysReversed := by
    rcases h with h | ⟨-, h⟩
    · exact List.mem_of_find?_eq_some h
    · exact List.mem_of_mem_head? h
  simpa [keysReversed] using hrev

theorem selectPreferredAfterErase_vacant
    (h : m.selectPreferredAfterErase.preferred = none) (key : DeploymentKey) :
    key ∉ m.deployments := by
  simp only [selectPreferredAfterErase, Option.or_eq_none_iff] at h
  intro hk
  have hrev : key ∈ m.keysReversed := by simpa [keysReversed] using hk
  rw [List.head?_eq_none_iff.mp h.2] at hrev
  simp at hrev

theorem removed_identity (r : ResidentDeployment ε) : (removed r).identity = r.identity := by
  unfold removed
  split <;> rfl

theorem unload (h : ManagerInv s) (i : DeploymentIdentity) :
    ManagerInv (s.perform (.unload i)).state := by
  simp only [ManagerState.perform, Outcome.effect]
  rcases unload_cases s.manager i with ⟨res, e, -⟩ | ⟨p, r, res, hf, hr, e, -⟩
  · rw [e]
    exact h
  rw [e]
  obtain ⟨hp, hpr⟩ := findKey_eq_some.mp (findExact_eq_some.mp hf).1
  have hlt : p < s.manager.heap.length := (List.getElem?_eq_some_iff.mp hpr).1
  refine ⟨fun k q hq => ?_, fun k => selectPreferredAfterErase_mem,
    selectPreferredAfterErase_vacant, fun load hl => ?_, h.apart⟩
  · -- the erased key was the only one that named the changed object
    have hne : k ≠ keyFor i := by
      rintro rfl
      simp [selectPreferredAfterErase, erase] at hq
    have hq' : s.manager.deployments[k]? = some q := by
      simp only [selectPreferredAfterErase, erase, ModelManager.store] at hq
      grind
    obtain ⟨o, ho, hs⟩ := h.sound k q hq'
    have hqp : q ≠ p := by
      rintro rfl
      have hk := (h.sound_of_findKey (findExact_eq_some.mp hf).1).key
      rw [hpr] at ho
      exact hne ((Option.some.inj ho ▸ hs.key).symm.trans hk)
    exact ⟨o, by simpa [selectPreferredAfterErase, erase, ModelManager.store,
      List.getElem?_set_ne (Ne.symm hqp)] using ho, hs⟩
  · obtain ⟨o, ho, hk, hs⟩ := h.pending load hl
    by_cases hlp : load.resident = p
    · obtain rfl : r = o := by
        rw [hlp, hpr] at ho
        exact Option.some.inj ho
      refine ⟨removed r, by simp [selectPreferredAfterErase, erase, ModelManager.store, hlp, hlt],
        by rw [removed_identity, hk], fun hl' => ?_⟩
      have hi := (findExact_eq_some.mp hf).2
      rw [← hk, hi] at hl'
      simp [selectPreferredAfterErase, erase] at hl'
    · refine ⟨o, by simpa [selectPreferredAfterErase, erase, ModelManager.store,
        List.getElem?_set_ne (Ne.symm hlp)] using ho, hk, fun hl' => hs ?_⟩
      simp only [selectPreferredAfterErase, erase, ModelManager.store] at hl'
      grind

theorem fewer (h : ManagerInv s) {loads : List PendingLoad} (hsub : loads.Sublist s.loads) :
    ManagerInv { s with loads } :=
  ⟨h.sound, h.preferred, h.vacant, fun load hl => h.pending load (hsub.subset hl),
    h.apart.sublist (hsub.map _)⟩

theorem resident_ne_of_mem_erase (h : ManagerInv s) {load other : PendingLoad}
    (hl : load ∈ s.loads) (ho : other ∈ s.loads.erase load) : other.resident ≠ load.resident := by
  have hnodup : s.loads.Nodup := h.apart.of_map
  rw [hnodup.mem_erase_iff] at ho
  exact fun e => ho.1 (List.inj_on_of_nodup_map h.apart ho.2 hl e)

theorem loadCanceled_eq_false {load : PendingLoad} (hr : m.heap[load.resident]? = some r)
    (h : m.loadCanceled load r = false) : m.findKey load.key = some (load.resident, r) := by
  simp only [loadCanceled, Bool.or_eq_false_iff, bne_eq_false_iff_eq,
    Option.map_eq_some_iff] at h
  obtain ⟨-, ⟨p, r'⟩, hf, rfl⟩ := h
  obtain ⟨hp, hr'⟩ := findKey_eq_some.mp hf
  exact findKey_eq_some.mpr ⟨hp, hr⟩

/-- All that a completion can do to a load in progress. -/
theorem complete_cases (h : ManagerInv s) {load : PendingLoad} (hl : load ∈ s.loads)
    (outcome : BuildOutcome ε) :
    (∃ res, s.manager.completeLoad load outcome = { manager := s.manager, result := .ok res }) ∨
    (∃ r r' res, s.manager.findKey load.key = some (load.resident, r) ∧ r.state = .loading ∧
      Completed r r' ∧ s.manager.completeLoad load outcome =
        { manager := s.manager.store load.resident r'
          requested := [(.loading, r'.state)]
          result := .ok res }) := by
  obtain ⟨r, hr, -⟩ := h.pending load hl
  cases hc : s.manager.loadCanceled load r with
  | true => exact .inl ⟨_, completeLoad_canceled hr hc outcome⟩
  | false =>
    have hf := loadCanceled_eq_false hr hc
    have hs := h.loading_of_pending hl hf
    obtain ⟨r', res, hr', e⟩ := completeLoad_wanted hr hc hs outcome
    exact .inr ⟨r, r', res, hf, hs, hr', e⟩

theorem complete (h : ManagerInv s) {load : PendingLoad} (hl : load ∈ s.loads)
    (outcome : BuildOutcome ε) : ManagerInv (s.perform (.complete load outcome)).state := by
  simp only [ManagerState.perform, Outcome.effect]
  have hsub : (s.loads.erase load).Sublist s.loads := List.erase_sublist
  rcases h.complete_cases hl outcome with ⟨res, e⟩ | ⟨r, r', res, hf, hr, hr', e⟩
  · rw [e]
    exact h.fewer hsub
  rw [e]
  have hs := h.sound_of_findKey hf
  refine h.store hf ?_ hsub fun other ho => h.resident_ne_of_mem_erase hl ho
  rcases hr' with rfl | ⟨residency, execution, rfl⟩
  · have hx : r.execution.isSome = false := by simpa [hr, hasExecution] using hs.execution
    exact ⟨hs.key, by simp, by simp [hx, hasExecution]⟩
  · exact ⟨hs.key, by simp, by simp [hasExecution]⟩

theorem load (h : ManagerInv s) (nodeName : Bytes) (i : DeploymentIdentity) (a : StageAssignment)
    (hasBuilder : Bool) : ManagerInv (s.perform (.load nodeName i a hasBuilder)).state := by
  simp only [ManagerState.perform]
  rcases register_cases s.manager nodeName i a hasBuilder with ⟨res, e⟩ | ⟨hf, -, e⟩
  · rw [e]
    exact h
  simp only [e]
  have hold {p : Nat} {r : ResidentDeployment ε} (hp : s.manager.heap[p]? = some r)
      (new : ResidentDeployment ε) : (s.manager.heap ++ [new])[p]? = some r := by
    rw [List.getElem?_append_left (List.getElem?_eq_some_iff.mp hp).1, hp]
  refine ⟨fun k q hq => ?_, fun k hk => ?_, fun hk => by simp at hk, fun load hl => ?_, ?_⟩
  · by_cases hki : k = keyFor i
    · obtain rfl : s.manager.heap.length = q := by simpa [hki] using hq
      exact ⟨{ identity := i, state := .loading }, by simp, hki.symm, by simp,
        by simp [hasExecution]⟩
    · obtain ⟨o, ho, hs⟩ := h.sound k q (by grind)
      exact ⟨o, hold ho _, hs⟩
  · rcases hpref : s.manager.preferred with _ | key
    · obtain rfl : keyFor i = k := by simpa [hpref] using hk
      simp
    · obtain rfl : key = k := by simpa [hpref] using hk
      have := h.preferred key hpref
      grind
  · rcases List.mem_cons.mp hl with rfl | hl
    · exact ⟨{ identity := i, state := .loading }, by simp, rfl, fun _ => rfl⟩
    · obtain ⟨o, ho, hk, hs⟩ := h.pending load hl
      refine ⟨o, hold ho _, hk, fun hq => hs ?_⟩
      -- the new place is not the one of an older load
      have hlt : load.resident < s.manager.heap.length := (List.getElem?_eq_some_iff.mp ho).1
      simp only at hq
      grind
  · refine List.nodup_cons.mpr ⟨fun hmem => ?_, h.apart⟩
    obtain ⟨load, hl, hr⟩ := List.mem_map.mp hmem
    obtain ⟨o, ho, -⟩ := h.pending load hl
    have hlt : load.resident < s.manager.heap.length := (List.getElem?_eq_some_iff.mp ho).1
    exact absurd hr hlt.ne

/-- **Every critical section keeps the invariant.** -/
theorem step (h : ManagerInv s) (hc : s.Enabled call) :
    ManagerInv (s.perform call).state := by
  cases call with
  | load nodeName i a hasBuilder => exact h.load nodeName i a hasBuilder
  | complete load outcome => exact h.complete hc outcome
  | abandon load => exact h.fewer List.erase_sublist
  | activate i => exact h.activate i
  | drain i => exact h.drain i
  | unload i => exact h.unload i

theorem initial (h : (managerSystem ε).init s) : ManagerInv s := by
  rcases h with rfl | ⟨nodeName, i, a, parts, m, hm, rfl⟩
  · exact ⟨by simp, by simp, by simp, by simp, by simp⟩
  unfold insertActive at hm
  split at hm
  · cases hm
  · cases hm
  cases hm
  refine ⟨fun k q hq => ?_, fun k hk => ?_, by simp, by simp, by simp⟩
  · obtain ⟨hk, rfl⟩ : k = keyFor i ∧ 0 = q := by grind
    exact ⟨_, rfl, hk.symm, by simp, by simp [hasExecution]⟩
  · obtain rfl : keyFor i = k := by simpa using hk
    simp

/-- The invariant is inductive. -/
theorem isInductive : (managerSystem ε).Inductive ManagerInv where
  init _ h := initial h
  step s call s' h hs := by
    obtain ⟨hc, rfl⟩ := hs
    exact h.step hc

/-- Every state change asked for is allowed, and nothing throws. -/
theorem requested_valid (h : ManagerInv s) (hc : s.Enabled call) :
    (∀ q ∈ (s.perform call).requested,
      isValidResidentDeploymentTransition (some q.1) (some q.2) = true) ∧
    ∀ e, (s.perform call).result ≠ some (.error e) := by
  cases call with
  | load nodeName i a hasBuilder =>
    simp only [ManagerState.perform]
    split <;> simp
  | abandon load => simp [ManagerState.perform]
  | complete load outcome =>
    rcases h.complete_cases hc outcome with ⟨res, e⟩ | ⟨r, r', res, -, -, hr', e⟩
    · simp [ManagerState.perform, Outcome.effect, e]
    · rcases hr' with rfl | ⟨residency, execution, rfl⟩ <;>
        simp [ManagerState.perform, Outcome.effect, e, isValidResidentDeploymentTransition]
  | activate i =>
    rcases activate_cases s.manager i with ⟨res, e⟩ | ⟨p, r, res, -, -, e⟩ |
      ⟨p, r, res, -, -, -, e⟩ <;>
      simp [ManagerState.perform, Outcome.effect, e, isValidResidentDeploymentTransition]
  | drain i =>
    rcases drain_cases s.manager i with ⟨res, e⟩ | ⟨p, r, res, -, -, e⟩ <;>
      simp [ManagerState.perform, Outcome.effect, e, isValidResidentDeploymentTransition]
  | unload i =>
    rcases unload_cases s.manager i with ⟨res, e, -⟩ | ⟨p, r, res, -, hr, e, -⟩
    · simp [ManagerState.perform, Outcome.effect, e]
    · have hvalid : r.state ≠ .loading →
          isValidResidentDeploymentTransition (some r.state) (some .unloading) = true := by
        cases hst : r.state <;> simp_all [removable, isValidResidentDeploymentTransition]
      by_cases hload : r.state = .loading <;>
        simp_all [ManagerState.perform, Outcome.effect]

end ManagerInv

/-! ## Stale loads -/

/-- The map no longer names the object of the load. -/
structure Stale (load : PendingLoad) (m : ModelManager ε) : Prop where
  place : load.resident < m.heap.length
  dropped : m.deployments[load.key]? ≠ some load.resident

/-- An entry of the map is old or names the newest object. -/
theorem perform_deployments {s : ManagerState ε} (h : ManagerInv s) (hc : s.Enabled call) :
    s.manager.heap.length ≤ (s.perform call).state.manager.heap.length ∧
    ∀ (key : DeploymentKey) (p : Nat),
      (s.perform call).state.manager.deployments[key]? = some p →
      s.manager.deployments[key]? = some p ∨ p = s.manager.heap.length := by
  cases call with
  | load nodeName i a hasBuilder =>
    rcases register_cases s.manager nodeName i a hasBuilder with ⟨res, e⟩ | ⟨-, -, e⟩
    · simp only [ManagerState.perform, e]
      exact ⟨le_rfl, fun key p hp => .inl hp⟩
    · simp only [ManagerState.perform, e, List.length_append]
      refine ⟨by omega, fun key p hp => ?_⟩
      grind
  | abandon load => exact ⟨le_rfl, fun key p hp => .inl hp⟩
  | complete load outcome =>
    rcases h.complete_cases hc outcome with ⟨res, e⟩ | ⟨r, r', res, -, -, -, e⟩ <;>
      simp only [ManagerState.perform, Outcome.effect, e, store, List.length_set] <;>
      exact ⟨le_rfl, fun key p hp => .inl hp⟩
  | activate i =>
    rcases activate_cases s.manager i with ⟨res, e⟩ | ⟨p, r, res, -, -, e⟩ |
      ⟨p, r, res, -, -, -, e⟩ <;>
      simp only [ManagerState.perform, Outcome.effect, e, store, List.length_set] <;>
      exact ⟨le_rfl, fun key p hp => .inl hp⟩
  | drain i =>
    rcases drain_cases s.manager i with ⟨res, e⟩ | ⟨p, r, res, -, -, e⟩ <;>
      simp only [ManagerState.perform, Outcome.effect, e, store, List.length_set] <;>
      exact ⟨le_rfl, fun key p hp => .inl hp⟩
  | unload i =>
    rcases unload_cases s.manager i with ⟨res, e, -⟩ | ⟨p, r, res, -, -, e, -⟩
    · simp only [ManagerState.perform, Outcome.effect, e]
      exact ⟨le_rfl, fun key p hp => .inl hp⟩
    · simp only [ManagerState.perform, Outcome.effect, e, selectPreferredAfterErase, erase, store,
        List.length_set]
      refine ⟨le_rfl, fun key q hq => .inl ?_⟩
      grind

theorem Stale.step {s : ManagerState ε} {load : PendingLoad} (h : ManagerInv s)
    (hst : Stale load s.manager) (hc : s.Enabled call) :
    Stale load (s.perform call).state.manager := by
  obtain ⟨hlen, hmap⟩ := perform_deployments h hc
  refine ⟨hst.place.trans_le hlen, fun e => ?_⟩
  rcases hmap _ _ e with hold | hnew
  · exact hst.dropped hold
  · exact absurd hnew hst.place.ne

theorem Stale.run {s t : ManagerState ε} {load : PendingLoad} {calls : List (ManagerCall ε)}
    (hrun : (managerSystem ε).Run s calls t) (h : ManagerInv s) (hst : Stale load s.manager) :
    Stale load t.manager := by
  induction hrun with
  | nil => exact hst
  | cons hs _ ih =>
    obtain ⟨hc, rfl⟩ := hs
    exact ih (h.step hc) (hst.step h hc)

theorem Stale.completeLoad {load : PendingLoad} (h : Stale load m) (outcome : BuildOutcome ε) :
    ∃ i, m.completeLoad load outcome = { manager := m, result := .ok (canceledLoad i) } := by
  obtain ⟨r, hr⟩ : ∃ r, m.heap[load.resident]? = some r := ⟨_, List.getElem?_eq_getElem h.place⟩
  refine ⟨r.identity, completeLoad_canceled hr ?_ outcome⟩
  cases hc : m.loadCanceled load r with
  | true => rfl
  | false => exact absurd (findKey_eq_some.mp (ManagerInv.loadCanceled_eq_false hr hc)).1 h.dropped

theorem stale_of_unload {s : ManagerState ε} {load : PendingLoad} {i : DeploymentIdentity}
    {res : DeploymentOperationResult} (h : ManagerInv s)
    (hl : load ∈ s.loads) (hf : s.manager.findExact i = some (load.resident, r))
    (hres : (s.perform (.unload i)).result = some (.ok res)) (hok : res.ok = true) :
    Stale load (s.perform (.unload i)).state.manager := by
  obtain ⟨o, ho, hk, -⟩ := h.pending load hl
  have hi := findExact_eq_some.mp hf
  have hr := (findKey_eq_some.mp hi.1).2
  obtain rfl : r = o := Option.some.inj (hr ▸ ho)
  rcases unload_cases s.manager i with ⟨res', e, hnone⟩ | ⟨p, r', res', -, -, e, -⟩
  · simp only [ManagerState.perform, Outcome.effect, e] at hres
    cases hres
    simp [hnone hok] at hf
  · simp only [ManagerState.perform, Outcome.effect, e]
    refine ⟨?_, ?_⟩
    · simpa [selectPreferredAfterErase, erase, store] using (List.getElem?_eq_some_iff.mp ho).1
    · simp [selectPreferredAfterErase, erase, ← hk, hi.2]

/-! ## The lifecycle -/

/-- **The lifecycle of a model manager** keeps its objects, its transitions and its preferred key
valid. -/
theorem lifecycle {ε : Type} {s : ManagerState ε} (h : (managerSystem ε).Reachable s) :
    (∀ key ∈ s.manager.deployments, ∃ p r, s.manager.findKey key = some (p, r) ∧
      keyFor r.identity = key ∧ r.state ≠ .unloading ∧
      (r.execution.isSome ↔ r.state = .ready ∨ r.state = .active ∨ r.state = .draining)) ∧
    (∀ call, s.Enabled call →
      (∀ q ∈ (s.perform call).requested,
        isValidResidentDeploymentTransition (some q.1) (some q.2) = true) ∧
      ∀ e, (s.perform call).result ≠ some (.error e)) ∧
    (∀ load ∈ s.loads, ∀ i r res, s.manager.findExact i = some (load.resident, r) →
      (s.perform (.unload i)).result = some (.ok res) → res.ok = true →
      ∀ calls t, (managerSystem ε).Run (s.perform (.unload i)).state calls t → ∀ outcome,
        ∃ d, t.manager.completeLoad load outcome =
          { manager := t.manager, result := .ok (canceledLoad d) }) ∧
    (∀ key, s.manager.preferred = some key → key ∈ s.manager.deployments) ∧
    (s.manager.preferred.isSome ↔ ∃ key, key ∈ s.manager.deployments) := by
  have hinv : ManagerInv s := ManagerInv.isInductive.reachable h
  refine ⟨fun key hk => ?_, fun call hc => hinv.requested_valid hc, ?_, hinv.preferred, ?_, ?_⟩
  · obtain ⟨p, hp⟩ := Option.isSome_iff_exists.mp (ExtTreeMap.mem_iff_isSome_getElem?.mp hk)
    obtain ⟨r, hr, hs⟩ := hinv.sound key p hp
    exact ⟨p, r, findKey_eq_some.mpr ⟨hp, hr⟩, hs.key, hs.resident, hs.execution⟩
  · intro load hl i r res hf hres hok calls t hrun outcome
    have hstale := stale_of_unload hinv hl hf hres hok
    have hnext : ManagerInv (s.perform (.unload i)).state := hinv.unload i
    exact (hstale.run hrun hnext).completeLoad outcome
  · rw [Option.isSome_iff_exists]
    rintro ⟨key, hk⟩
    exact ⟨key, hinv.preferred key hk⟩
  · rintro ⟨key, hk⟩
    rw [Option.isSome_iff_ne_none]
    exact fun hnone => hinv.vacant hnone key hk

/-- An identity the manager accepts. -/
def sampleIdentity (deploymentId : Bytes) (epoch : UInt64) : DeploymentIdentity :=
  { deploymentId, epoch, modelId := str "m", modelSha256 := List.replicate 64 97 }

/-- A load of that identity. -/
def sampleLoad (deploymentId : Bytes) (epoch : UInt64) : ManagerCall Unit :=
  .load [] (sampleIdentity deploymentId epoch) { layerEnd := 1 } true

theorem lifecycle_loading :
    (({} : ManagerState Unit).perform (sampleLoad (str "a") 1)).state.loads.length = 1 ∧
      ((({} : ManagerState Unit).perform (sampleLoad (str "a") 1)).state.manager.preferred.isSome ↔
        ∃ key, key ∈
          (({} : ManagerState Unit).perform (sampleLoad (str "a") 1)).state.manager.deployments) := by
  have hreach := reachable_perform (.init (.inl rfl)) (sampleLoad (str "a") 1) trivial
  exact ⟨by decide, (lifecycle hreach).2.2.2.2⟩

end JetsonFabric
