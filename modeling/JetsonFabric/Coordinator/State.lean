import JetsonFabric.Plan.Builder

/-!
# The deployment state of the coordinator

`deploymentState` of `coordinator/deployment_state.go`, and the intent it stores
(`coordinator/deployment_intent.go`). Every method takes the state's lock for its whole length, so
each is one function on the state; `waitForEpoch`, which sleeps without the lock, is a relation
between the state it wakes in and its answer.
-/

namespace JetsonFabric

open Std

/-! ## Errors -/

/-- The sentinel errors of the coordinator. -/
inductive DeploymentError
  | transitioning
  | planInvalid
  | modelNotActive
  | unavailable
  deriving DecidableEq

/-- The text of an error. -/
def DeploymentError.text : DeploymentError → Bytes
  | .transitioning => str "deployment transition is in progress"
  | .planInvalid => str "deployment plan is invalid"
  | .modelNotActive => str "requested model is not active"
  | .unavailable => str "coordinator deployment is unavailable"

/-- An error: its text, and the sentinels that `errors.Is` finds in it. -/
structure Err where
  text : Bytes
  wraps : List DeploymentError := []
  deriving DecidableEq

/-- `errors.New`, and `fmt.Errorf` without `%w`. -/
def Err.of (text : Bytes) : Err := { text }

def DeploymentError.err (e : DeploymentError) : Err := { text := e.text, wraps := [e] }

/-- `fmt.Errorf("...%w", err)`. -/
def Err.wrap (before : Bytes) (e : Err) : Err := { e with text := before ++ e.text }

/-- `errors.Join`. -/
def joinErrors (errs : List (Option Err)) : Option Err :=
  match errs.filterMap id with
  | [] => none
  | found => some
      { text := join (str "\n") (found.map Err.text), wraps := found.flatMap Err.wraps }

/-! ## Data -/

inductive DeploymentPhase
  | unmanaged
  | preparing
  | active
  | draining
  | degraded
  | failed
  deriving DecidableEq

/-- What the last successful switch asked for. -/
structure DeploymentIntent where
  modelId : Bytes
  policy : Policy
  contextSize : Int
  threads : Int
  nGpuLayers : Int := 0
  nGpuLayersSet : Bool := false
  deriving DecidableEq

structure DeploymentState where
  phase : DeploymentPhase := .unmanaged
  active : Option DeploymentPlan := none
  preparing : Option DeploymentPlan := none
  draining : ExtTreeMap UInt64 DeploymentPlan := ∅
  inFlight : ExtTreeMap UInt64 Nat := ∅
  intent : Option DeploymentIntent := none
  lastError : Bytes := []
  lastEpoch : UInt64 := 0

structure DeploymentSnapshot where
  phase : DeploymentPhase
  active : Option DeploymentPlan
  preparing : Option DeploymentPlan
  draining : List DeploymentPlan
  inFlight : Nat
  inFlightByEpoch : ExtTreeMap UInt64 Nat
  lastError : Bytes
  proposedEpoch : UInt64

/-- An admitted session: its plan and epoch, and whether it is released. -/
structure Admission where
  plan : Option DeploymentPlan
  epoch : UInt64
  released : Bool := false
  deriving DecidableEq

/-- The epoch of a plan. -/
def DeploymentPlan.epoch (plan : DeploymentPlan) : UInt64 := plan.identity.epoch

namespace DeploymentState

variable (s : DeploymentState)

/-- `inFlight[epoch]`, zero when absent. -/
def inFlightAt (epoch : UInt64) : Nat := s.inFlight.getD epoch 0

/-- The epoch a session is pinned to; zero without an active plan. -/
def activeEpoch : UInt64 := (s.active.map DeploymentPlan.epoch).getD 0

/-- The state as it is reported. -/
def snapshot : DeploymentSnapshot where
  phase := s.phase
  active := s.active
  preparing := s.preparing
  draining := (s.draining.toList.map Prod.snd).insertionSort fun left right =>
    left.epoch ≤ right.epoch
  inFlight := (s.inFlight.toList.map Prod.snd).sum
  inFlightByEpoch := s.inFlight
  lastError := s.lastError
  proposedEpoch := s.lastEpoch + 1

/-! ## Sessions -/

/-- Admit a session to the active plan. -/
def admitSession (modelId : Bytes) : Except DeploymentError (Admission × DeploymentState) :=
  if s.phase = .degraded ∨ s.phase = .failed then .error .unavailable
  else if s.active.any fun plan => plan.model.modelId ≠ modelId then .error .modelNotActive
  else .ok
    ({ plan := s.active, epoch := s.activeEpoch },
      { s with inFlight := s.inFlight.insert s.activeEpoch (s.inFlightAt s.activeEpoch + 1) })

/-- The epoch is active or draining. -/
def epochTracked (epoch : UInt64) : Bool :=
  s.active.any (·.epoch = epoch) || s.preparing.any (·.epoch = epoch) || s.draining.contains epoch

/-- A session of the epoch is over. -/
def release (epoch : UInt64) : DeploymentState :=
  if s.inFlightAt epoch = 0 then s
  else if s.inFlightAt epoch = 1 ∧ ¬ s.epochTracked epoch then
    { s with inFlight := s.inFlight.erase epoch }
  else { s with inFlight := s.inFlight.insert epoch (s.inFlightAt epoch - 1) }

/-! ## Transitions -/

/-- `setServingPhaseLocked`. -/
def setServingPhase (healthy : Bool) : DeploymentState :=
  { s with
    phase :=
      if s.active.isNone then .failed
      else if !healthy then .degraded
      else if !s.draining.isEmpty then .draining
      else .active }

/-- `setErrorLocked`. -/
def setError (err : Option Err) : DeploymentState :=
  { s with lastError := (err.map Err.text).getD [] }

/-- The plan that is active until the next one, and the new state. -/
def beginTransition (next : DeploymentPlan) :
    Except Err (Option DeploymentPlan) × DeploymentState :=
  if s.preparing.isSome then (.error DeploymentError.transitioning.err, s)
  else if next.epoch ≠ s.lastEpoch + 1 then
    (.error (.of (str "deployment epoch changed while the plan was being built")), s)
  else
    (.ok s.active,
      { s with
        lastEpoch := next.epoch
        preparing := some next
        phase := .preparing
        lastError := [] })

/-- The plan that was active before, and the new state. -/
def publish (plan : DeploymentPlan) (intent : DeploymentIntent) :
    Option DeploymentPlan × DeploymentState :=
  (s.active,
    { s with
      draining := match s.active with
        | some previous => s.draining.insert previous.epoch previous
        | none => s.draining
      active := some plan
      preparing := none
      intent := some intent
      lastError := []
      phase := if s.active.isNone then .active else .draining })

/-- Give up the plan in preparation. -/
def rollback (plan : DeploymentPlan) (err : Err) (healthy cleanupPending : Bool) :
    DeploymentState :=
  let s := { s with
    preparing := none
    draining := if cleanupPending then s.draining.insert plan.epoch plan else s.draining }
  (s.setError (some err)).setServingPhase healthy

/-- Record the health of the active plan. -/
def recordReconcileError (err : Option Err) (healthy : Bool) : DeploymentState :=
  if s.preparing.isNone ∧ s.draining.isEmpty then (s.setError err).setServingPhase healthy
  else s.setError err

/-- Nothing once no session of the epoch is left, else an error. -/
def WaitForEpoch (epoch : UInt64) : Option Err → Prop
  | none => s.inFlightAt epoch = 0
  | some _ => 0 < s.inFlightAt epoch

/-- Forget an epoch that is cleaned up. -/
def finishDraining (epoch : UInt64) : DeploymentState :=
  let s := { s with
    draining := s.draining.erase epoch
    inFlight := if s.inFlightAt epoch = 0 then s.inFlight.erase epoch else s.inFlight }
  if s.draining.isEmpty ∧ s.preparing.isNone ∧ s.active.isSome then
    { s with phase := .active, lastError := [] }
  else s

/-- The intent of the active plan. -/
def activeIntent : Option DeploymentIntent := if s.active.isNone then none else s.intent

/-! ## What a method changes -/

variable {s}

/-- A transition begins, or it is refused and nothing changes. -/
theorem beginTransition_cases (s : DeploymentState) (next : DeploymentPlan) :
    (s.preparing = none ∧ next.epoch = s.lastEpoch + 1 ∧
      s.beginTransition next = (.ok s.active,
        { s with
          lastEpoch := next.epoch
          preparing := some next
          phase := .preparing
          lastError := [] })) ∨
    ∃ e, s.beginTransition next = (.error e, s) := by
  unfold beginTransition
  by_cases hp : s.preparing.isSome
  · rw [if_pos hp]
    exact .inr ⟨_, rfl⟩
  by_cases he : next.epoch ≠ s.lastEpoch + 1
  · rw [if_neg hp, if_pos he]
    exact .inr ⟨_, rfl⟩
  · rw [if_neg hp, if_neg he]
    exact .inl ⟨Option.not_isSome_iff_eq_none.mp hp, not_not.mp he, rfl⟩

theorem beginTransition_eq {next : DeploymentPlan} (hp : s.preparing = none)
    (he : next.epoch = s.lastEpoch + 1) :
    s.beginTransition next = (.ok s.active,
      { s with
        lastEpoch := next.epoch
        preparing := some next
        phase := .preparing
        lastError := [] }) := by
  unfold beginTransition
  rw [hp, if_neg (by simp), if_neg (not_not.mpr he)]

/-- A session is admitted at the active epoch, or it is refused. -/
theorem admitSession_eq_ok {modelId : Bytes} {admission : Admission} {t : DeploymentState}
    (h : s.admitSession modelId = .ok (admission, t)) :
    s.phase ≠ .degraded ∧ s.phase ≠ .failed ∧
      admission = { plan := s.active, epoch := s.activeEpoch } ∧
      t = { s with
        inFlight := s.inFlight.insert s.activeEpoch (s.inFlightAt s.activeEpoch + 1) } := by
  unfold admitSession at h
  split at h
  · cases h
  next hphase =>
  split at h
  · cases h
  cases h
  rw [not_or] at hphase
  exact ⟨hphase.1, hphase.2, rfl, rfl⟩

theorem inFlightAt_insert (e f : UInt64) (n : Nat) (t : DeploymentState)
    (ht : t.inFlight = s.inFlight.insert e n) :
    t.inFlightAt f = if f = e then n else s.inFlightAt f := by
  unfold inFlightAt
  rw [ht, ExtTreeMap.getD_insert]
  by_cases h : f = e
  · subst h
    simp
  · have h' : e ≠ f := fun x => h x.symm
    simp [h, h']

theorem inFlightAt_erase (e f : UInt64) (t : DeploymentState)
    (ht : t.inFlight = s.inFlight.erase e) :
    t.inFlightAt f = if f = e then 0 else s.inFlightAt f := by
  unfold inFlightAt
  rw [ht, ExtTreeMap.getD_erase]
  by_cases h : f = e
  · subst h
    simp
  · have h' : e ≠ f := fun x => h x.symm
    simp [h, h']

/-- A release lowers the count of its epoch by one, unless it is zero. -/
theorem inFlightAt_release (e f : UInt64) :
    (s.release e).inFlightAt f = if f = e then s.inFlightAt e - 1 else s.inFlightAt f := by
  unfold release
  split
  · next h =>
    by_cases hf : f = e
    · rw [if_pos hf, hf]
      omega
    · rw [if_neg hf]
  split
  · next h =>
    rw [inFlightAt_erase e f _ rfl, h.1]
  · exact inFlightAt_insert e f _ _ rfl

/-- A release changes nothing but the counts. -/
theorem release_eq (e : UInt64) : ∃ inFlight, s.release e = { s with inFlight } := by
  unfold release
  split
  · exact ⟨s.inFlight, rfl⟩
  split
  · exact ⟨_, rfl⟩
  · exact ⟨_, rfl⟩

/-- The end of a retirement leaves every count as it is. -/
theorem inFlightAt_finishDraining (e f : UInt64) :
    (s.finishDraining e).inFlightAt f = s.inFlightAt f := by
  have h : (s.finishDraining e).inFlight =
      if s.inFlightAt e = 0 then s.inFlight.erase e else s.inFlight := by
    simp only [finishDraining]
    split <;> rfl
  by_cases h0 : s.inFlightAt e = 0
  · rw [if_pos h0] at h
    rw [inFlightAt_erase e f _ h]
    by_cases hf : f = e
    · rw [if_pos hf, hf, h0]
    · rw [if_neg hf]
  · rw [if_neg h0] at h
    unfold inFlightAt
    rw [h]

/-- A retirement forgets the epoch; it may change the phase. -/
theorem finishDraining_eq (e : UInt64) :
    ∃ inFlight phase lastError, s.finishDraining e =
      { s with draining := s.draining.erase e, inFlight, phase, lastError } := by
  simp only [finishDraining]
  split
  · exact ⟨_, _, _, rfl⟩
  · exact ⟨_, s.phase, s.lastError, rfl⟩

/-- A reconciliation report changes the phase and the last error only. -/
theorem recordReconcileError_eq (err : Option Err) (healthy : Bool) :
    ∃ phase lastError, s.recordReconcileError err healthy = { s with phase, lastError } := by
  unfold recordReconcileError
  split
  · exact ⟨_, _, rfl⟩
  · exact ⟨s.phase, _, rfl⟩

/-- A rollback gives the plan up, or leaves it to be cleaned up. -/
theorem rollback_eq (plan : DeploymentPlan) (err : Err) (healthy cleanupPending : Bool) :
    ∃ phase lastError, s.rollback plan err healthy cleanupPending =
      { s with
        preparing := none
        draining := if cleanupPending then s.draining.insert plan.epoch plan else s.draining
        phase
        lastError } :=
  ⟨_, _, rfl⟩

end DeploymentState

end JetsonFabric
