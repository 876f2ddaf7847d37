import JetsonFabric.Coordinator.Scripted

/-!
# A switch is atomic

What a transition that fails leaves behind, and what it takes for a transition to publish, from
any state of the coordinator without a transition in progress and for any answers of runtimes,
members and clocks.
-/

namespace JetsonFabric

open Std Contract DeploymentController

variable {Out : Outside}

/-! ## Epochs are used once -/

variable {w w' : World Out}

theorem ControllerOp.lastEpoch_le_apply (o : ControllerOp) (s : DeploymentState) :
    s.lastEpoch ≤ (o.apply s).lastEpoch := by
  cases o with
  | beginTransition next =>
    rcases s.beginTransition_cases next with ⟨-, he, hs⟩ | ⟨e, hs⟩
    · rw [ControllerOp.apply, hs]
      exact UInt64.le_of_lt (DeploymentPlan.lt_epoch he)
    · rw [ControllerOp.apply, hs]
      exact UInt64.le_refl _
  | recordReconcileError err healthy =>
    obtain ⟨phase, lastError, hs⟩ := DeploymentState.recordReconcileError_eq (s := s) err healthy
    rw [ControllerOp.apply, hs]
    exact UInt64.le_refl _
  | finishDraining epoch =>
    obtain ⟨inFlight, phase, lastError, hs⟩ := DeploymentState.finishDraining_eq (s := s) epoch
    rw [ControllerOp.apply, hs]
    exact UInt64.le_refl _
  | _ => exact UInt64.le_refl _

theorem lastEpoch_le_step {e : CoordinatorEvent}
    (h : (deploymentMethods Out).step w e w') : w.state.lastEpoch ≤ w'.state.lastEpoch := by
  cases e with
  | op o a =>
    rw [h.1]
    exact o.lastEpoch_le_apply w.state
  | env e =>
    rw [(Quiet.env h).lastEpoch]
    exact UInt64.le_refl _

theorem lastEpoch_lt_begin {next : DeploymentPlan} {previous : Option DeploymentPlan}
    (h : (deploymentMethods Out).step w (.op (.beginTransition next) (.ok previous)) w') :
    w.state.lastEpoch < next.epoch := by
  obtain ⟨-, -, hanswer, -⟩ := h
  rcases w.state.beginTransition_cases next with ⟨-, he, -⟩ | ⟨e, hs⟩
  · exact DeploymentPlan.lt_epoch he
  · rw [hs] at hanswer
    cases hanswer

/-- **An epoch is used once.** -/
theorem lastEpoch_lt_later {h : List (World Out × CoordinatorEvent)}
    (hr : (deploymentMethods Out).History w h w') {y : World Out} {next : DeploymentPlan}
    {previous : Option DeploymentPlan}
    (hm : (y, .op (.beginTransition next) (.ok previous)) ∈ h) :
    w.state.lastEpoch < next.epoch := by
  induction hr with
  | nil => cases hm
  | cons hs _ ih =>
    rcases List.mem_cons.mp hm with he | hm
    · cases he
      exact lastEpoch_lt_begin hs
    · exact UInt64.lt_of_le_of_lt (lastEpoch_le_step hs) (ih hm)

/-! ## A failed switch -/

variable {plan : DeploymentPlan}

/-- What a transition that was begun and failed leaves behind. -/
structure SwitchUndone (plan : DeploymentPlan) (w w' : World Out)
    (events : List CoordinatorEvent) : Prop where
  active : w'.state.active = w.state.active
  intent : w'.state.intent = w.state.intent
  inFlight : ∀ e, w'.state.inFlightAt e + events.countP (releasesAt e) =
    w.state.inFlightAt e + events.countP (admitsAt e)
  preparing : w'.state.preparing = none
  epoch_used : ∀ h z, (deploymentMethods Out).History w' h z → ∀ y next previous,
    (y, .op (.beginTransition next) (.ok previous)) ∈ h → plan.epoch < next.epoch
  cleanedUp : CleanedUp plan (w'.state.draining[plan.epoch]? ≠ some plan) events

theorem FailedSwitch.undone
    {events : List CoordinatorEvent} (h : FailedSwitch w.state plan w'.state events) :
    SwitchUndone plan w w' events := by
  obtain ⟨t₀, t₁, s₁, rfl, hq₀, hnone, hepoch, hback⟩ := h
  obtain ⟨t₂, t₃, s₂, failure, healthy, pending, rfl, hq₁, hclean, hq₂⟩ := hback
  rw [DeploymentState.beginTransition_eq hnone hepoch] at hq₁
  have hlast : w'.state.lastEpoch = plan.epoch := hq₂.lastEpoch.trans hq₁.lastEpoch
  refine ⟨?_, ?_, ?_, hq₂.preparing, ?_, ?_⟩
  · exact hq₂.active.trans (hq₁.active.trans hq₀.active)
  · exact hq₂.intent.trans (hq₁.intent.trans hq₀.intent)
  · intro e
    have h₀ := hq₀.inFlight e
    have h₁ : s₂.inFlightAt e + t₂.countP (releasesAt e) =
      s₁.inFlightAt e + t₂.countP (admitsAt e) := hq₁.inFlight e
    have h₂ : w'.state.inFlightAt e + t₃.countP (releasesAt e) =
      s₂.inFlightAt e + t₃.countP (admitsAt e) := hq₂.inFlight e
    simp only [List.countP_append, List.countP_cons, releasesAt, admitsAt, Bool.false_eq_true,
      if_false]
    omega
  · intro h z hr y next previous hm
    rw [← hlast]
    exact lastEpoch_lt_later hr hm
  · have hkept : w'.state.draining[plan.epoch]? ≠ some plan → pending = false := by
      intro hdropped
      cases pending with
      | false => rfl
      | true =>
        refine absurd ?_ hdropped
        rw [hq₂.draining]
        simp [DeploymentState.rollback, DeploymentState.setError, DeploymentState.setServingPhase]
    have hall := persistent_cleanedUp plan _ _
      (.op (.rollback plan failure healthy pending) () :: t₃) (hclean.imp hkept)
    have hall := hall.prepend (t₀ ++ [.op (.beginTransition plan) (.ok s₁.active)])
    rwa [List.append_assoc, List.singleton_append] at hall

/-! ## Publishing -/

/-- The status is the one of the plan's stage, in the given state. -/
structure Acknowledges (status : RuntimeStatus) (plan : DeploymentPlan) (stage : Stage)
    (state : Bytes) : Prop where
  identity : status.deployment = some (runtimeDeploymentIdentity plan)
  state : status.state = state
  layers : ∃ memory, status.modelMemory = some memory ∧ memory.layerStart = stage.layerStart ∧
    memory.layerEnd = stage.layerEnd ∧ memory.layerCount = plan.model.layerCount

theorem layers_of_valid {status : RuntimeStatus} {stage : Stage}
    {active : Bool} (h : validateRuntimeModelMemory status plan stage active = none) :
    ∃ memory, status.modelMemory = some memory ∧ memory.layerStart = stage.layerStart ∧
      memory.layerEnd = stage.layerEnd ∧ memory.layerCount = plan.model.layerCount := by
  unfold validateRuntimeModelMemory at h
  cases hm : status.modelMemory with
  | none =>
    rw [hm] at h
    cases h
  | some memory =>
    rw [hm] at h
    simp only at h
    split at h
    · cases h
    next hrange =>
    split at h
    · cases h
    next hcount =>
    simp only [not_or, not_not] at hrange hcount
    exact ⟨memory, rfl, hrange.1, hrange.2, hcount⟩

theorem acknowledges_of_valid {status : RuntimeStatus} {stage : Stage}
    {state : Bytes} {active : Bool}
    (h : validateRuntimeStatus status plan stage state active = none) :
    Acknowledges status plan stage state := by
  unfold validateRuntimeStatus at h
  cases hd : status.deployment with
  | none =>
    rw [hd] at h
    cases h
  | some identity =>
    rw [hd] at h
    simp only at h
    split at h
    · cases h
    next hstatus =>
    split at h
    · cases h
    next hidentity =>
    have hmemory := Option.map_eq_none_iff.mp h
    simp only [not_or, not_not] at hstatus hidentity
    exact ⟨hd.trans (congrArg some hidentity), hstatus.2.2, layers_of_valid hmemory⟩

/-- Every stage acknowledged ready, and then every stage active. -/
def AcknowledgedByAll (plan : DeploymentPlan) (log : List CoordinatorEvent) : Prop :=
  ∃ before previous ready active,
    log = before ++ .op (.beginTransition plan) (.ok previous) :: (ready ++ active) ∧
      (∀ stage ∈ plan.stages, ∃ request status,
        .op (.receive stage.apiUrl (.load request)) (.ok status) ∈ ready ∧
          Acknowledges status plan stage (str "ready")) ∧
      ∀ stage ∈ plan.stages, ∃ status,
        .op (.receive stage.apiUrl (.activate (runtimeDeploymentIdentity plan))) (.ok status)
            ∈ active ∧
          Acknowledges status plan stage (str "active")

theorem Prepared.acknowledged {log : List CoordinatorEvent}
    (h : Prepared plan log) : AcknowledgedByAll plan log := by
  obtain ⟨before, previous, ready, active, hlog, hready, hactive, -⟩ := h
  refine ⟨before, previous, ready, active, hlog, fun stage hs => ?_, fun stage hs => ?_⟩
  · obtain ⟨request, status, hm, hv⟩ := hready stage hs
    exact ⟨request, status, hm, acknowledges_of_valid hv⟩
  · obtain ⟨status, hm, hv⟩ := hactive stage hs
    exact ⟨status, hm, acknowledges_of_valid hv⟩

/-! ## The result -/

variable (Out) in
/-- The guards of the controller alone. -/
def switchContract : Contract (coordinator Out).logged where
  inv _ := True
  guard o x := protocolGuard o x.1.state x.2
  inv_env _ _ := trivial
  inv_exec _ _ _ := trivial

theorem switchProtocol : Protocol (switchContract Out) := ⟨fun _ _ => Iff.rfl⟩

/-- **A switch is atomic**: if it fails, the old plan serves on and the new one is cleaned up. -/
theorem switch_atomic {c : DeploymentController} {build : DeploymentBuild} {spec : DeploymentSpec}
    {w w' : World Out} {events : List CoordinatorEvent} {q : Controlled TransitionOutcome}
    (hp : w.state.preparing = none)
    (hr : (coordinator Out).program.Run (c.transitionDeployment build spec, w) events (q, w')) :
    (∀ outcome previous, q = .done outcome → outcome.error.isSome →
      .op (.beginTransition build.result.plan) (.ok previous) ∈ events →
        SwitchUndone build.result.plan w w' events) ∧
    ∀ before plan intent previous after,
      events = before ++ .op (.publish plan intent) previous :: after →
        AcknowledgedByAll plan before := by
  have hsafe : (switchContract Out).Safe (TransitionEnd w.state build.result.plan [])
      (c.transitionDeployment build spec) (w, []) :=
    transitionDeployment_triple switchProtocol c build spec [] hp (w, []) trivial
      ⟨[], rfl, .refl _, fun _ hm => by cases hm⟩
  refine ⟨?_, ?_⟩
  · rintro outcome previous rfl herr hbegun
    obtain ⟨-, hend⟩ := hsafe.run (fun _ => True) (Shared.run_logged hr [])
    obtain ⟨-, hfailed⟩ := hend _ .refl
    obtain ⟨t, ht, hrefused | hfailed⟩ := hfailed (Option.isSome_iff_ne_none.mp herr)
    · cases (ht : events = t)
      exact (hrefused previous hbegun).elim
    · cases (ht : events = t)
      exact hfailed.undone
  · rintro before plan intent previous after rfl
    obtain ⟨x, y, hbefore, hs⟩ := hr.split
    obtain ⟨-, hx⟩ := hsafe.run (fun _ => True) (Shared.run_logged hbefore [])
    cases hs with
    | op _ =>
      obtain ⟨-, hprepared⟩ := hx.guard
      exact hprepared.acknowledged

/-- The sample cluster after a switch. -/
def servingWorld : World anyOutside :=
  sampleController.after (sampleScript fun _ => false) (.switchDeployment sampleSpec true) startWorld

/-- The runtime does not load. -/
def failsLoad : RuntimeRequest → Bool
  | .load _ => true
  | _ => false

/-- The build of the next switch of the sample cluster. -/
def servingBuild : Option DeploymentBuild :=
  ((sampleController.buildDeployment sampleSpec).eval (sampleScript failsLoad).answer
    servingWorld).1.toOption

/-- A transition of the sample cluster whose load fails. -/
def failedTransition (build : DeploymentBuild) : TransitionOutcome × World anyOutside :=
  (sampleController.transitionDeployment build sampleSpec).eval (sampleScript failsLoad).answer
    servingWorld

/-- The transition begins and fails. -/
def beginsAndFails (build : DeploymentBuild) : Bool :=
  (servingWorld.state.beginTransition build.result.plan).1.isOk &&
    (failedTransition build).1.error.isSome

theorem switch_atomic_failedTransition :
    servingWorld.state.activeEpoch = 1 ∧ ∃ build events, servingBuild = some build ∧
      (coordinator anyOutside).program.Run
        (sampleController.transitionDeployment build sampleSpec, servingWorld) events
        (.done (failedTransition build).1, (failedTransition build).2) ∧
      SwitchUndone build.result.plan servingWorld (failedTransition build).2 events := by
  refine ⟨by decide +kernel, ?_⟩
  have hfails : servingBuild.any beginsAndFails := by decide +kernel
  obtain ⟨build, hbuild, hfails⟩ := Option.any_eq_true _ _ |>.mp hfails
  obtain ⟨hbegins, herr⟩ := Bool.and_eq_true_iff.mp hfails
  have hr := Shared.run_eval (E := SessionEvent) (sampleScript failsLoad).exec_answer
    (sampleController.transitionDeployment build sampleSpec) servingWorld
  have hp : servingWorld.state.preparing.isNone := by decide +kernel
  refine ⟨build, _, hbuild, hr, ?_⟩
  cases hanswer : (servingWorld.state.beginTransition build.result.plan).1 with
  | error e =>
    rw [hanswer] at hbegins
    cases hbegins
  | ok previous =>
    refine (switch_atomic (Option.isNone_iff_eq_none.mp hp) hr).1 _ previous rfl herr ?_
    rw [← hanswer]
    exact List.mem_cons_self

end JetsonFabric
