import JetsonFabric.Coordinator.Scripted

/-!
# The phase of the deployment state

Six methods write the phase. Which steps keep it in agreement with the plans it describes, and
which steps keep a state that refuses sessions refusing them.
-/

namespace JetsonFabric

open Std

variable {Out : Outside}

/-! ## Agreement with the plans -/

/-- The phase describes the plans. -/
structure PhaseAgrees (s : DeploymentState) : Prop where
  preparing : s.phase = .preparing ↔ s.preparing.isSome
  active : s.phase = .active → s.active.isSome ∧ s.draining.isEmpty
  draining : s.phase = .draining → s.active.isSome ∧ ¬ s.draining.isEmpty
  failed : s.phase = .failed → s.active = none
  degraded : s.phase = .degraded → s.active.isSome

/-- A plan is published over one that is still to be cleaned up. -/
def PublishesOverDraining (s : DeploymentState) : CoordinatorEvent → Prop
  | .op (.publish _ _) _ => s.active = none ∧ ¬ s.draining.isEmpty
  | _ => False

variable {w w' : World Out}

namespace PhaseAgrees

variable {s t : DeploymentState}

theorem of_eq (h : PhaseAgrees s) (hph : t.phase = s.phase) (ha : t.active = s.active)
    (hp : t.preparing = s.preparing) (hd : t.draining = s.draining) : PhaseAgrees t := by
  constructor
  · rw [hph, hp]
    exact h.preparing
  · rw [hph, ha, hd]
    exact h.active
  · rw [hph, ha, hd]
    exact h.draining
  · rw [hph, ha]
    exact h.failed
  · rw [hph, ha]
    exact h.degraded

theorem setServingPhase (healthy : Bool) (hp : s.preparing = none) :
    PhaseAgrees (s.setServingPhase healthy) := by
  unfold DeploymentState.setServingPhase
  by_cases ha : s.active.isNone
  · rw [if_pos ha]
    constructor <;> simp [hp, Option.isNone_iff_eq_none.mp ha]
  have hsome : s.active.isSome := by rwa [Option.isSome_iff_ne_none, ← Option.isNone_iff_eq_none.ne]
  rw [if_neg ha]
  by_cases hh : (!healthy) = true
  · rw [if_pos hh]
    constructor <;> simp [hp, hsome]
  rw [if_neg hh]
  by_cases hd : (!s.draining.isEmpty) = true
  · rw [if_pos hd]
    constructor <;> simp_all
  · rw [if_neg hd]
    constructor <;> simp_all

theorem beginTransition (h : PhaseAgrees s) (next : DeploymentPlan) :
    PhaseAgrees (s.beginTransition next).2 := by
  rcases s.beginTransition_cases next with ⟨-, -, he⟩ | ⟨e, he⟩
  · rw [he]
    constructor <;> simp
  · rw [he]
    exact h

theorem publish_iff (plan : DeploymentPlan) (intent : DeploymentIntent) :
    PhaseAgrees (s.publish plan intent).2 ↔ ¬ (s.active = none ∧ ¬ s.draining.isEmpty) := by
  unfold DeploymentState.publish
  cases ha : s.active with
  | none =>
    constructor
    · rintro h ⟨-, hd⟩
      exact hd (h.active rfl).2
    · intro h
      have hd : s.draining.isEmpty := by simpa using h
      constructor <;> simp [hd]
  | some previous =>
    refine ⟨?_, fun _ => ?_⟩
    · rintro - ⟨⟨⟩, -⟩
    · constructor <;> simp

theorem recordReconcileError (h : PhaseAgrees s) (err : Option Err) (healthy : Bool) :
    PhaseAgrees (s.recordReconcileError err healthy) := by
  unfold DeploymentState.recordReconcileError
  split
  · next hs =>
    exact setServingPhase healthy (Option.isNone_iff_eq_none.mp hs.1)
  · exact h.of_eq rfl rfl rfl rfl

theorem finishDraining (h : PhaseAgrees s) (epoch : UInt64) :
    PhaseAgrees (s.finishDraining epoch) := by
  simp only [DeploymentState.finishDraining]
  split
  · next hs =>
    constructor <;> simp [hs]
  next hs =>
  -- a phase other than preparing means that nothing is in preparation
  have hnone : s.phase ≠ .preparing → s.preparing.isNone := by
    intro hph
    rw [Option.isNone_iff_eq_none, ← Option.not_isSome_iff_eq_none, ← h.preparing]
    exact hph
  constructor
  · exact h.preparing
  · intro hph
    obtain ⟨ha, hd⟩ := h.active hph
    rw [ExtTreeMap.isEmpty_iff] at hd
    exact ⟨ha, by simp [hd]⟩
  · intro hph
    obtain ⟨ha, -⟩ := h.draining hph
    refine ⟨ha, fun he => hs ⟨he, hnone ?_, ha⟩⟩
    rw [hph]
    decide
  · exact h.failed
  · exact h.degraded

theorem env (h : PhaseAgrees w.state) {e : SessionEvent} (hs : w.env e w') :
    PhaseAgrees w'.state :=
  have hq := Quiet.env hs
  h.of_eq hq.phase hq.active hq.preparing hq.draining

/-- **Every operation keeps the agreement**, except publishing over left-overs. -/
theorem exec_iff (h : PhaseAgrees w.state) {o : ControllerOp} {a : Answer o}
    (hs : w.exec o a w') : PhaseAgrees w'.state ↔ ¬ PublishesOverDraining w.state (.op o a) := by
  rw [hs.1]
  cases o with
  | publish plan intent => exact publish_iff plan intent
  | beginTransition next => exact iff_of_true (h.beginTransition next) id
  | rollback plan err healthy pending => exact iff_of_true (setServingPhase healthy rfl) id
  | recordReconcileError err healthy => exact iff_of_true (h.recordReconcileError err healthy) id
  | finishDraining epoch => exact iff_of_true (h.finishDraining epoch) id
  | _ => exact iff_of_true h id

end PhaseAgrees

/-- The event of a step of the coordinator publishes over left-overs. -/
def PublishesOver (x : Controlled Unit × World Out) :
    DeploymentController.Call ⊕ CoordinatorEvent → Prop
  | .inl _ => False
  | .inr e => PublishesOverDraining x.2.state e

/-- **The phase agrees with the plans exactly when no plan is published over left-overs.** -/
theorem phaseAgrees_throughout_iff {c : DeploymentController} {x y : Controlled Unit × World Out}
    (hx : (coordinatorServer Out c).init x)
    {h : List ((Controlled Unit × World Out) × (DeploymentController.Call ⊕ CoordinatorEvent))}
    (hr : (coordinatorServer Out c).History x h y) :
    LTS.Throughout (fun z => PhaseAgrees z.2.state) h y ↔ ∀ p ∈ h, ¬ PublishesOver p.1 p.2 := by
  refine hr.throughout_iff (L := fun _ => True) (K := fun z a => ¬ PublishesOver z a) ?_
    (fun _ _ => trivial) ?_
  · intro z a z' hs _ hz
    cases hs with
    | start call w => exact iff_of_true hz id
    | step hs =>
      cases hs with
      | op hop => exact hz.exec_iff hop
      | env henv => exact iff_of_true (hz.env henv) id
  · obtain ⟨-, hs, -⟩ := hx
    rw [hs]
    constructor <;> simp

/-- The first deployment and its unload fail, the second one succeeds. -/
def leftoverWorld : World anyOutside :=
  let fails : RuntimeRequest → Bool
    | .load _ => true
    | .unload _ => true
    | _ => false
  let w := sampleController.after (sampleScript fails) (.switchDeployment sampleSpec true) startWorld
  sampleController.after (sampleScript fun _ => false) (.switchDeployment sampleSpec true) w

theorem reachable_leftoverWorld :
    (coordinatorServer anyOutside sampleController).Reachable (.done (), leftoverWorld) :=
  reachable_call (reachable_call (reachable_start _) _ _) _ _

theorem phaseAgrees_throughout_leftoverWorld :
    ∃ x h, (coordinatorServer anyOutside sampleController).init x ∧
      (coordinatorServer anyOutside sampleController).History x h (.done (), leftoverWorld) ∧
      (LTS.Throughout (fun z => PhaseAgrees z.2.state) h (.done (), leftoverWorld) ↔
        ∀ p ∈ h, ¬ PublishesOver p.1 p.2) := by
  obtain ⟨x, h, hx, hr⟩ := reachable_leftoverWorld.history
  exact ⟨x, h, hx, hr, phaseAgrees_throughout_iff hx hr⟩

/-- A deployment is active while another one is to be cleaned up. -/
theorem active_phase_with_leftovers :
    (coordinatorServer anyOutside sampleController).Reachable (.done (), leftoverWorld) ∧
      leftoverWorld.state.phase = .active ∧ leftoverWorld.state.draining.keys = [1] ∧
      ¬ PhaseAgrees leftoverWorld.state := by
  have hphase : leftoverWorld.state.phase = .active := by decide
  have hkeys : leftoverWorld.state.draining.keys = [1] := by decide
  refine ⟨reachable_leftoverWorld, hphase, hkeys, fun h => ?_⟩
  have hd := (h.active hphase).2
  rw [ExtTreeMap.isEmpty_iff] at hd
  rw [hd] at hkeys
  cases hkeys

/-! ## Refusing sessions -/

/-- No session is admitted. -/
def Refuses (s : DeploymentState) : Prop := ∀ modelId, s.admitSession modelId = .error .unavailable

/-- A plan is published, or the active one is said to be healthy. -/
def Restores : CoordinatorEvent → Prop
  | .op (.publish _ _) _ => True
  | .op (.rollback _ _ healthy _) _ => healthy = true
  | .op (.recordReconcileError _ healthy) _ => healthy = true
  | _ => False

/-- The phase changes without a look at the health of the active plan. -/
def Forgets (s : DeploymentState) : CoordinatorEvent → Prop
  | .op (.beginTransition next) _ => s.preparing = none ∧ next.epoch = s.lastEpoch + 1
  | .op (.finishDraining epoch) _ =>
    (s.draining.erase epoch).isEmpty ∧ s.preparing = none ∧ s.active.isSome
  | _ => False

theorem refuses_iff {s : DeploymentState} :
    Refuses s ↔ s.phase = .degraded ∨ s.phase = .failed := by
  constructor
  · intro h
    by_contra hn
    have ha := h ((s.active.map fun plan => plan.model.modelId).getD [])
    unfold DeploymentState.admitSession at ha
    rw [if_neg hn, if_neg ?_] at ha
    · cases ha
    · cases s.active with
      | none => simp
      | some plan => simp
  · intro h modelId
    unfold DeploymentState.admitSession
    rw [if_pos h]

namespace Refuses

variable {s : DeploymentState}

theorem setServingPhase (s : DeploymentState) : Refuses (s.setServingPhase false) := by
  rw [refuses_iff]
  unfold DeploymentState.setServingPhase
  by_cases ha : s.active.isNone
  · rw [if_pos ha]
    exact .inr rfl
  · rw [if_neg ha]
    exact .inl rfl

theorem beginTransition_iff (h : Refuses s) (next : DeploymentPlan) :
    Refuses (s.beginTransition next).2 ↔ ¬ (s.preparing = none ∧ next.epoch = s.lastEpoch + 1) := by
  constructor
  · rintro h' ⟨hp, he⟩
    rw [DeploymentState.beginTransition_eq hp he, refuses_iff] at h'
    rcases h' with h' | h' <;> cases h'
  · intro hn
    rcases s.beginTransition_cases next with ⟨hp, he, -⟩ | ⟨e, he⟩
    · exact absurd ⟨hp, he⟩ hn
    · rw [he]
      exact h

theorem finishDraining_iff (h : Refuses s) (epoch : UInt64) :
    Refuses (s.finishDraining epoch) ↔
      ¬ ((s.draining.erase epoch).isEmpty ∧ s.preparing = none ∧ s.active.isSome) := by
  rw [← Option.isNone_iff_eq_none]
  simp only [DeploymentState.finishDraining]
  split
  · next hs =>
    refine iff_of_false ?_ (not_not.mpr hs)
    rw [refuses_iff]
    rintro (h' | h') <;> cases h'
  · next hs =>
    refine iff_of_true ?_ hs
    rw [refuses_iff] at h ⊢
    exact h

theorem recordReconcileError_iff (err : Option Err) :
    Refuses (s.recordReconcileError err false) ↔
      (s.preparing = none ∧ s.draining.isEmpty) ∨ Refuses s := by
  rw [← Option.isNone_iff_eq_none]
  unfold DeploymentState.recordReconcileError
  split
  · next hs => exact iff_of_true (setServingPhase _) (.inl hs)
  · next hs =>
    rw [refuses_iff, refuses_iff]
    exact ⟨.inr, fun h => h.resolve_left hs⟩

theorem env (h : Refuses w.state) {e : SessionEvent} (hs : w.env e w') :
    Refuses w'.state := by
  rw [refuses_iff] at h ⊢
  rw [(Quiet.env hs).phase]
  exact h

/-- **What a state that refuses sessions makes of an operation.** -/
theorem exec_iff (h : Refuses w.state) {o : ControllerOp} {a : Answer o}
    (hno : ¬ Restores (.op o a)) (hs : w.exec o a w') :
    Refuses w'.state ↔ ¬ Forgets w.state (.op o a) := by
  rw [hs.1]
  cases o with
  | publish plan intent => exact (hno trivial).elim
  | beginTransition next => exact h.beginTransition_iff next
  | rollback plan err healthy pending =>
    cases healthy with
    | true => exact (hno rfl).elim
    | false => exact iff_of_true (setServingPhase _) id
  | recordReconcileError err healthy =>
    cases healthy with
    | true => exact (hno rfl).elim
    | false => exact iff_of_true ((recordReconcileError_iff err).mpr (.inr h)) id
  | finishDraining epoch => exact h.finishDraining_iff epoch
  | _ => exact iff_of_true h id

end Refuses

theorem Refuses.throughout_iff {h : List (World Out × CoordinatorEvent)}
    (hw : Refuses w.state) (hr : (deploymentMethods Out).History w h w')
    (hno : ∀ p ∈ h, ¬ Restores p.2) :
    LTS.Throughout (fun z => Refuses z.state) h w' ↔ ∀ p ∈ h, ¬ Forgets p.1.state p.2 := by
  refine hr.throughout_iff (P := fun z => Refuses z.state) (L := fun e => ¬ Restores e)
    (K := fun z e => ¬ Forgets z.state e) ?_ hno hw
  intro z e z' hs hno hz
  cases e with
  | op o a => exact hz.exec_iff hno hs
  | env e => exact iff_of_true (hz.env hs) id

/-- **Degraded is sticky until a transition begins or the last older plan is retired.** -/
theorem degraded_throughout_iff {w w' : World Out} (hdegraded : w.state.phase = .degraded)
    {h : List (World Out × CoordinatorEvent)} (hr : (deploymentMethods Out).History w h w')
    (hno : ∀ p ∈ h, ¬ Restores p.2) :
    LTS.Throughout (fun z => Refuses z.state) h w' ↔ ∀ p ∈ h, ¬ Forgets p.1.state p.2 :=
  Refuses.throughout_iff (refuses_iff.mpr (.inl hdegraded)) hr hno

/-- The sample cluster lost its only node, and this was reported. -/
def degradedWorld : World anyOutside :=
  let w := sampleController.after (sampleScript fun _ => false)
    (.switchDeployment sampleSpec true) startWorld
  sampleController.after { sampleScript (fun _ => false) with members := [] } .reconcile w

/-- The node is back, and a switch has performed some of its operations. -/
def degradedSwitch (n : Nat) : Controlled Unit × World anyOutside :=
  sampleController.during (sampleScript fun _ => false) (.switchDeployment sampleSpec true) n
    degradedWorld

/-- The operation begins a transition. -/
def ControllerOp.begins : ControllerOp → Bool
  | .beginTransition _ => true
  | _ => false

theorem step_degradedSwitch : ∃ plan previous,
    (coordinatorServer anyOutside sampleController).step (degradedSwitch 5)
      (.inr (.op (.beginTransition plan) previous)) (degradedSwitch 6) := by
  have hnext : (degradedSwitch 5).1.next.any ControllerOp.begins := by decide
  obtain ⟨o, a, ho, hs⟩ := step_during hnext
  cases o with
  | beginTransition plan => exact ⟨plan, a, hs⟩
  | _ => cases ho

theorem degraded_throughout_degradedSwitch : ∃ plan previous,
    (degradedSwitch 5).2.state.phase = .degraded ∧
    (∀ h : List (World anyOutside × CoordinatorEvent),
      h = [((degradedSwitch 5).2, .op (.beginTransition plan) previous)] →
        (deploymentMethods anyOutside).History (degradedSwitch 5).2 h (degradedSwitch 6).2 ∧
        (LTS.Throughout (fun z => Refuses z.state) h (degradedSwitch 6).2 ↔
          ∀ p ∈ h, ¬ Forgets p.1.state p.2)) := by
  obtain ⟨plan, previous, hs⟩ := step_degradedSwitch
  have hphase : (degradedSwitch 5).2.state.phase = .degraded := by decide
  refine ⟨plan, previous, hphase, ?_⟩
  rintro h rfl
  have hr := LTS.History.cons (deploymentMethods_step hs) (.nil _)
  refine ⟨hr, degraded_throughout_iff hphase hr ?_⟩
  intro p hp
  rw [List.mem_singleton.mp hp]
  exact id

/-- A switch that begins in a degraded state lets sessions in. -/
theorem degraded_forgotten : ∃ plan previous,
    (coordinatorServer anyOutside sampleController).Reachable (degradedSwitch 5) ∧
    (degradedSwitch 5).2.state.phase = .degraded ∧
    (coordinatorServer anyOutside sampleController).step (degradedSwitch 5)
      (.inr (.op (.beginTransition plan) previous)) (degradedSwitch 6) ∧
    ((degradedSwitch 6).2.admitSession (str "model")).1 = some 1 := by
  obtain ⟨plan, previous, hs⟩ := step_degradedSwitch
  refine ⟨plan, previous, ?_, by decide, hs, by decide⟩
  exact reachable_during (reachable_call (reachable_call (reachable_start _) _ _) _ _) _ _ _

/-- **After an unhealthy report no session is admitted exactly when sessions were refused and no
step forgets it.** -/
theorem refuses_after_report_iff {c : DeploymentController} {x y : Controlled Unit × World Out}
    {err : Option Err} (hx : (coordinatorServer Out c).Reachable x)
    (hs : (coordinatorServer Out c).step x (.inr (.op (.recordReconcileError err false) ())) y)
    {w : World Out} {h : List (World Out × CoordinatorEvent)}
    (hr : (deploymentMethods Out).History y.2 h w) (hno : ∀ p ∈ h, ¬ Restores p.2) :
    LTS.Throughout (fun z => Refuses z.state) h w ↔
      (x.2.state.draining.isEmpty ∨ Refuses x.2.state) ∧ ∀ p ∈ h, ¬ Forgets p.1.state p.2 := by
  obtain ⟨log, -, hsafe⟩ := coordinator_reachable hx
  have hstate : y.2.state = x.2.state.recordReconcileError err false :=
    (deploymentMethods_step hs).1
  have hprep : x.2.state.preparing = none := by
    cases hs with
    | step hs =>
      cases hs with
      | op _ => exact hsafe.guard
  have hreport : Refuses y.2.state ↔ x.2.state.draining.isEmpty ∨ Refuses x.2.state := by
    rw [hstate, Refuses.recordReconcileError_iff, hprep]
    simp
  constructor
  · intro hall
    have hy := hr.start hall
    exact ⟨hreport.mp hy, (hy.throughout_iff hr hno).mp hall⟩
  · rintro ⟨hx, hforgets⟩
    exact ((hreport.mpr hx).throughout_iff hr hno).mpr hforgets

/-- The runtime does not unload. -/
def failsUnload : RuntimeRequest → Bool
  | .unload _ => true
  | _ => false

/-- Two switches, no node left, and a part of a reconciliation. -/
def drainingReport (n : Nat) : Controlled Unit × World anyOutside :=
  let w := sampleController.after (sampleScript fun _ => false)
    (.switchDeployment sampleSpec true) startWorld
  let w := sampleController.after (sampleScript failsUnload) (.switchDeployment sampleSpec true) w
  sampleController.during { sampleScript failsUnload with members := [] } .reconcile n w

/-- The operation reports an unhealthy plan. -/
def ControllerOp.reportsUnhealthy : ControllerOp → Bool
  | .recordReconcileError _ healthy => !healthy
  | _ => false

theorem reachable_drainingReport (n : Nat) :
    (coordinatorServer anyOutside sampleController).Reachable (drainingReport n) :=
  reachable_during (reachable_call (reachable_call (reachable_start _) _ _) _ _) _ _ _

theorem step_drainingReport : ∃ err,
    (coordinatorServer anyOutside sampleController).step (drainingReport 15)
      (.inr (.op (.recordReconcileError err false) ())) (drainingReport 16) := by
  have hnext : (drainingReport 15).1.next.any ControllerOp.reportsUnhealthy := by decide
  obtain ⟨o, a, ho, hs⟩ := step_during hnext
  cases o with
  | recordReconcileError err healthy =>
    cases healthy with
    | true => cases ho
    | false => exact ⟨err, hs⟩
  | _ => cases ho

theorem refuses_after_report_drainingReport :
    ∃ h w, (deploymentMethods anyOutside).History (drainingReport 16).2 h w ∧ h.length = 1 ∧
      (LTS.Throughout (fun z => Refuses z.state) h w ↔
        ((drainingReport 15).2.state.draining.isEmpty ∨ Refuses (drainingReport 15).2.state) ∧
          ∀ p ∈ h, ¬ Forgets p.1.state p.2) := by
  obtain ⟨err, hs⟩ := step_drainingReport
  have hadmitted : (deploymentMethods anyOutside).step (drainingReport 16).2
      (.env (.admitSession (str "model") ((drainingReport 16).2.admitSession (str "model")).1))
      ((drainingReport 16).2.admitSession (str "model")).2 := coordinator_admitSession _ _
  have hr := LTS.History.cons hadmitted (.nil _)
  refine ⟨_, _, hr, rfl, refuses_after_report_iff (reachable_drainingReport 15) hs hr ?_⟩
  intro p hp
  rw [List.mem_singleton.mp hp]
  exact id

/-- A session is admitted after an unhealthy report. -/
theorem admitted_after_report : ∃ err,
    (coordinatorServer anyOutside sampleController).Reachable (drainingReport 15) ∧
    (coordinatorServer anyOutside sampleController).step (drainingReport 15)
      (.inr (.op (.recordReconcileError err false) ())) (drainingReport 16) ∧
    (drainingReport 16).1.next.isNone ∧
    ((drainingReport 16).2.admitSession (str "model")).1 = some 2 := by
  obtain ⟨err, hs⟩ := step_drainingReport
  exact ⟨err, reachable_drainingReport 15, hs, by decide, by decide⟩

end JetsonFabric
