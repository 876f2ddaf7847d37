import JetsonFabric.Plan.Rebuild
import JetsonFabric.Coordinator.Scripted

/-!
# Reconciliation after a switch

A switch stores the intent it was asked for, and a reconciliation builds a plan from it again. Over
the same members and the same time that is the published plan under a new identity, so nothing new
is begun.
-/

namespace JetsonFabric

open Std Contract DeploymentController

variable {Out : Outside}

/-! ## Building again -/

variable {model : ModelProfile} {identity : PlanIdentity} {build : DeploymentBuild}

theorem deploymentPolicy_stageCount {base : Policy} {spec : DeploymentSpec}
    (h : ¬ 0 < (deploymentPolicy base spec).stageCount) :
    (deploymentPolicy base spec).stageCount = base.stageCount := by
  simp only [deploymentPolicy] at h ⊢
  split
  · next hcounts =>
    rw [if_pos hcounts] at h
    have := List.length_pos_of_ne_nil hcounts.1
    omega
  · next hcounts =>
    rw [if_neg hcounts] at h
    split
    · next hspec =>
      rw [if_pos hspec] at h
      exact absurd hspec h
    · rfl

theorem stageCount_again (base : Policy) (spec : DeploymentSpec) (p : Policy) :
    (deploymentPolicy base (intentFromSpec spec p).spec).stageCount =
      if p.stageLayerCounts ≠ [] ∧ p.stageCount = 0 then (p.stageLayerCounts.length : Int)
      else if 0 < p.stageCount then p.stageCount
      else base.stageCount :=
  rfl

theorem deploymentPolicy_refines (base : Policy) (spec : DeploymentSpec) :
    (deploymentPolicy base spec).Refines
      (deploymentPolicy base (intentFromSpec spec (deploymentPolicy base spec)).spec) := by
  refine ⟨?_, ?_, ?_⟩
  · simp [deploymentPolicy, intentFromSpec, DeploymentIntent.spec]
  · simp only [deploymentPolicy, intentFromSpec, DeploymentIntent.spec]
    by_cases hc : spec.stageLayerCounts = []
    · by_cases hb : base.stageLayerCounts = [] <;> simp [hc, hb]
    · simp [hc]
  · rw [stageCount_again]
    split
    · next hwritten => exact .inr ⟨hwritten.2, hwritten.1, rfl⟩
    · split
      · exact .inl rfl
      · next hpos => exact .inl (deploymentPolicy_stageCount hpos).symm

theorem mem_defaultDeploymentId (epoch : UInt64) (now : Time) :
    100 ∈ defaultDeploymentId epoch now := by
  unfold defaultDeploymentId
  rw [List.append_assoc, List.append_assoc]
  exact List.mem_append_left _ (by decide)

theorem planFor_eq_ok {c : DeploymentController} {spec : DeploymentSpec}
    {members : List Member} {now wallClock : Time} :
    c.planFor spec model identity members now wallClock = .ok build ↔
      c.platform.buildDeploymentPlan wallClock (c.buildRequest spec model identity members now) =
          .ok build.result ∧
        build = ⟨model, members, deploymentPolicy c.planPolicy spec, build.result⟩ := by
  simp only [planFor]
  constructor
  · intro h
    split at h
    · cases h
    · next hbuild =>
      cases h
      exact ⟨hbuild, rfl⟩
  · rintro ⟨hbuild, h⟩
    rw [hbuild, h]
    rfl

/-- **Building again** from the stored intent gives an equivalent plan. -/
theorem planFor_again {c : DeploymentController} {members : List Member} {now wallClock : Time}
    {spec : DeploymentSpec}
    (h : c.planFor spec model identity members now wallClock = .ok build) {epoch : UInt64}
    (hepoch : epoch ≠ 0) (start : Time) :
    ∃ again, c.planFor (intentFromSpec spec build.policy).spec model
        ⟨defaultDeploymentId epoch start, epoch⟩ members now wallClock = .ok again ∧
      plansEquivalent build.result.plan again.result.plan := by
  obtain ⟨hbuild, hfields⟩ := planFor_eq_ok.mp h
  have hpolicy : build.policy = deploymentPolicy c.planPolicy spec := by rw [hfields]
  have hid : trimSpace (⟨defaultDeploymentId epoch start, epoch⟩ : PlanIdentity).deploymentId ≠ [] :=
    trimSpace_ne_nil (mem_defaultDeploymentId epoch start)
  obtain ⟨again, hagain, -, hmodel, hstages⟩ := buildDeploymentPlan_refines
    (deploymentPolicy_refines c.planPolicy spec) rfl hbuild hid hepoch
  rw [hpolicy]
  exact ⟨⟨model, members, deploymentPolicy c.planPolicy
    (intentFromSpec spec (deploymentPolicy c.planPolicy spec)).spec, again⟩,
    planFor_eq_ok.mpr ⟨hagain, rfl⟩, by simp [plansEquivalent, hmodel, hstages]⟩

theorem planFor_epoch {c : DeploymentController} {spec : DeploymentSpec}
    {members : List Member} {now wallClock : Time}
    (h : c.planFor spec model identity members now wallClock = .ok build) :
    identity.epoch ≠ 0 := by
  obtain ⟨hbuild, -⟩ := planFor_eq_ok.mp h
  obtain ⟨engine, now', group, -, -, -, -, -, hplan, -⟩ := buildDeploymentPlan_eq_ok.mp hbuild
  obtain ⟨hidentity, -, -⟩ := newDeploymentPlan_eq_ok.mp hplan
  have hepoch := build.result.plan.epoch_ne_zero
  rw [DeploymentPlan.epoch, hidentity] at hepoch
  exact hepoch

/-! ## Operations that leave the plans -/

variable {o : ControllerOp}

/-- The operation neither begins nor publishes a plan. -/
def ControllerOp.KeepsPlan : ControllerOp → Prop
  | .beginTransition _ => False
  | .publish _ _ => False
  | _ => True

theorem Stretch.keepsPlan {U : DeploymentIdentity → Prop} (h : Stretch U o) :
    o.KeepsPlan := by
  cases o with
  | beginTransition _ => cases h.1
  | publish _ _ => cases h.1
  | _ => trivial

theorem keepsPlan_of_all {α : Type} {p : Controlled α} (h : p.All (Stretch fun _ => True)) :
    p.All ControllerOp.KeepsPlan :=
  h.imp fun _ => Stretch.keepsPlan

theorem keepsPlan_failuresOf (request : RuntimeRequest)
    (check : Stage → RuntimeStatus → Option Bytes) (stages : List Stage) :
    (failuresOf request check stages).All ControllerOp.KeepsPlan := by
  induction stages with
  | nil => exact trivial
  | cons stage stages ih =>
    refine .bind (.bind (.perform trivial) fun _ => .perform trivial) fun reply => ?_
    refine .bind ih fun failures => ?_
    cases reply with
    | error e => exact trivial
    | ok status => exact trivial

theorem keepsPlan_drainPlan (plan : DeploymentPlan) :
    (drainPlan plan).All ControllerOp.KeepsPlan :=
  .bind (keepsPlan_failuresOf _ _ _) fun _ => trivial

theorem keepsPlan_unloadPlan (plan : DeploymentPlan) :
    (unloadPlan plan).All ControllerOp.KeepsPlan :=
  .bind (keepsPlan_failuresOf _ _ _) fun _ => trivial

theorem keepsPlan_cleanupPlan (plan : DeploymentPlan) :
    (cleanupPlan plan).All ControllerOp.KeepsPlan := by
  refine .bind (keepsPlan_drainPlan plan) fun d => .bind (keepsPlan_unloadPlan plan) fun u => ?_
  cases d with
  | none => exact trivial
  | some d => cases u <;> exact trivial

theorem keepsPlan_retirePlan (plan : DeploymentPlan) :
    (retirePlan plan).All ControllerOp.KeepsPlan := by
  refine .bind (keepsPlan_drainPlan plan) fun d => .bind (.perform trivial) fun waitErr => ?_
  cases waitErr with
  | some e => exact trivial
  | none =>
    refine .bind (keepsPlan_unloadPlan plan) fun u => ?_
    split
    · exact trivial
    · exact .bind (.perform trivial) fun _ => trivial

theorem keepsPlan_retryDraining : retryDraining.All ControllerOp.KeepsPlan := by
  refine .bind (.perform trivial) fun snapshot => .bind ?_ fun _ => trivial
  induction snapshot.draining with
  | nil => exact trivial
  | cons plan plans ih => exact .bind (keepsPlan_retirePlan plan) fun _ => .bind ih fun _ => trivial

theorem keepsPlan_recordOutcome (c : DeploymentController) (pending : Option Err)
    (outcome : TransitionOutcome) :
    (c.recordOutcome pending outcome).All ControllerOp.KeepsPlan := by
  unfold recordOutcome
  split
  · exact .bind (.perform trivial) fun _ => trivial
  · refine .bind (.perform trivial) fun snapshot => ?_
    refine .bind (keepsPlan_of_all (all_activeHealthy c _)) fun healthy => ?_
    exact .bind (.perform trivial) fun _ => trivial

/-! ## What a switch publishes -/

/-- Nothing is published but the plan of the build. -/
def PublishesOnly (G : DeploymentPlan → DeploymentIntent → Prop) (o : ControllerOp) : Prop :=
  ∀ plan intent, o = .publish plan intent → G plan intent

theorem ControllerOp.KeepsPlan.publishesOnly {G : DeploymentPlan → DeploymentIntent → Prop}
    (h : o.KeepsPlan) : PublishesOnly G o := by
  rintro plan intent rfl
  exact h.elim

theorem keepsPlan_preparePlan (c : DeploymentController) (build : DeploymentBuild)
    (spec : DeploymentSpec) : (c.preparePlan build spec).All ControllerOp.KeepsPlan := by
  refine keepsPlan_of_all (.bind ?_ fun loadErr => ?_)
  · exact all_eachStage (fun stage => all_withMember _ stage fun member =>
      all_loadStage _ _ member stage spec) _
  cases loadErr with
  | some e => exact trivial
  | none =>
    refine .bind (all_probeDirectRuntimeEndpoints c _) fun probeErr => ?_
    cases probeErr with
    | some e => exact trivial
    | none =>
      refine .bind (all_eachStage (fun stage => all_activateStage _ stage) _) fun activateErr => ?_
      cases activateErr with
      | some e => exact trivial
      | none => exact trivial

theorem publishesOnly_of_keepsPlan {α : Type} {G : DeploymentPlan → DeploymentIntent → Prop}
    {p : Controlled α} (h : p.All ControllerOp.KeepsPlan) : p.All (PublishesOnly G) :=
  h.imp fun _ => ControllerOp.KeepsPlan.publishesOnly

theorem publishesOnly_transitionDeployment (c : DeploymentController) (build : DeploymentBuild)
    (spec : DeploymentSpec) :
    (c.transitionDeployment build spec).All (PublishesOnly fun plan intent =>
      plan = build.result.plan ∧ intent = intentFromSpec spec build.policy) := by
  refine .bind (.perform ?_) fun r => ?_
  · rintro plan intent ⟨⟩
  cases r with
  | error e => exact trivial
  | ok previous =>
    refine .bind (publishesOnly_of_keepsPlan (keepsPlan_preparePlan c build spec)) fun prepareErr => ?_
    cases prepareErr with
    | some e =>
      refine .bind (publishesOnly_of_keepsPlan ?_) fun _ => trivial
      refine .bind (keepsPlan_cleanupPlan _) fun cleanupErr => ?_
      refine .bind (keepsPlan_of_all (all_previousHealthy c previous)) fun healthy => ?_
      exact .bind (.perform trivial) fun _ => trivial
    | none =>
      refine .bind (.perform ?_) fun previous => ?_
      · rintro plan intent ⟨⟩
        exact ⟨rfl, rfl⟩
      cases previous with
      | none => exact trivial
      | some previous =>
        refine .bind (publishesOnly_of_keepsPlan (keepsPlan_retirePlan previous)) fun retireErr => ?_
        cases retireErr with
        | none => exact trivial
        | some e => exact publishesOnly_of_keepsPlan (.bind (.perform trivial) fun _ => trivial)

variable (Out) in
/-- Every published plan and intent are in `G`. -/
def publishContract (G : DeploymentPlan → DeploymentIntent → Prop) :
    Contract (coordinator Out) where
  inv _ := True
  guard o _ := PublishesOnly G o
  inv_env _ _ := trivial
  inv_exec _ _ _ := trivial

/-- What `buildDeployment` answers when the last epoch is in `E`. -/
def BuildAnswer (c : DeploymentController) (members : List Member) (now wallClock : Time)
    (E : UInt64 → Prop) (spec : DeploymentSpec) (r : Except Err DeploymentBuild) : Prop :=
  match c.registry.find spec.modelId, c.hasMemberSource with
  | some model, true => ∃ last id, E last ∧
      (spec.deploymentId = [] → id = defaultDeploymentId (last + 1) now) ∧
      r = c.planFor spec model ⟨id, last + 1⟩ members now wallClock
  | _, _ => ∃ e, r = .error e

section

variable {c : DeploymentController} {members : List Member} {now wallClock : Time}
  (hmembers : ∀ a, Out.members a → a = members) (hnow : ∀ a, Out.now a → a = now)
  (hwall : ∀ a, Out.wallClock a → a = wallClock) {C : Contract (coordinator Out)}
  (hguard : ∀ o w, Stretch (fun _ => True) o → C.inv w → C.guard o w)
include hmembers hnow hwall hguard

omit hmembers hnow hwall in
theorem read_triple (o : ControllerOp) (R : Answer o → Prop) (ho : o.outward)
    (hR : ∀ w a w', C.inv w → (coordinator Out).exec o w a w' → R a) :
    C.Triple (fun _ => True) (operation o) fun a _ => R a :=
  .perform (.const True) (fun a => .const (R a))
    (fun w hi _ => hguard o w ⟨ho, fun _ _ _ => trivial⟩ hi)
    fun w a w' hi _ hs => hR w a w' hi hs

theorem buildDeployment_triple {E : UInt64 → Prop} (hlast : ∀ w, C.inv w → E w.state.lastEpoch)
    (spec : DeploymentSpec) :
    C.Triple (fun _ => True) (c.buildDeployment spec) fun r _ =>
      BuildAnswer c members now wallClock E spec r := by
  unfold buildDeployment BuildAnswer
  cases hfind : c.registry.find spec.modelId with
  | none => exact .done (.const _) fun _ _ _ => ⟨_, rfl⟩
  | some model =>
    cases hsource : c.hasMemberSource with
    | false => exact .done (.const _) fun _ _ _ => ⟨_, rfl⟩
    | true =>
      refine (read_triple hguard .snapshot (fun a => ∃ last, E last ∧ a.proposedEpoch = last + 1) rfl
        ?_).bind fun snapshot => .of_fact ?_
      · rintro w a w' hi ⟨-, -, rfl, -⟩
        exact ⟨_, hlast w hi, rfl⟩
      rintro ⟨last, hE, hepoch⟩
      have hid : C.Triple (fun _ => True) (deploymentIdFor spec snapshot.proposedEpoch)
          fun id _ => spec.deploymentId = [] → id = defaultDeploymentId (last + 1) now := by
        unfold deploymentIdFor
        split
        · refine (read_triple hguard .now (· = now) rfl ?_).bind fun a => .of_fact ?_
          · rintro w a w' - ⟨-, -, ha, -⟩
            exact hnow a ha
          · rintro rfl
            exact .done (.const _) fun _ _ _ _ => by rw [hepoch]
        · next hne => exact .done (.const _) fun _ _ _ h => absurd h hne
      refine hid.bind fun id => .of_fact fun hid => ?_
      refine (read_triple hguard .members (· = members) rfl ?_).bind fun a => .of_fact ?_
      · rintro w a w' - ⟨-, -, ha, -⟩
        exact hmembers a ha
      rintro rfl
      refine (read_triple hguard .now (· = now) rfl ?_).bind fun a => .of_fact ?_
      · rintro w a w' - ⟨-, -, ha, -⟩
        exact hnow a ha
      rintro rfl
      refine (read_triple hguard .wallClock (· = wallClock) rfl ?_).bind fun a => .of_fact ?_
      · rintro w a w' - ⟨-, -, ha, -⟩
        exact hwall a ha
      rintro rfl
      exact .done (.const _) fun _ _ _ => ⟨last, id, hE, hid, by rw [hepoch]⟩

omit hguard

/-- A plan built from the members, with the intent of the request. -/
def Publishable (c : DeploymentController) (members : List Member) (now wallClock : Time)
    (spec : DeploymentSpec) (plan : DeploymentPlan) (intent : DeploymentIntent) : Prop :=
  ∃ model identity build, c.registry.find spec.modelId = some model ∧ c.hasMemberSource = true ∧
    c.planFor spec model identity members now wallClock = .ok build ∧
    plan = build.result.plan ∧ intent = intentFromSpec spec build.policy

theorem switchDeploymentLocked_publishes (spec : DeploymentSpec) (force : Bool) :
    (publishContract Out (Publishable c members now wallClock spec)).Triple (fun _ => True)
      (c.switchDeploymentLocked spec force) fun _ _ => True := by
  have hguard : ∀ o w, Stretch (fun _ => True) o →
      (publishContract Out (Publishable c members now wallClock spec)).inv w →
      (publishContract Out (Publishable c members now wallClock spec)).guard o w :=
    fun o w ho _ => ho.keepsPlan.publishesOnly
  refine (buildDeployment_triple hmembers hnow hwall hguard (E := fun _ => True)
    (fun _ _ => trivial) spec).bind fun r => .of_fact fun hr => ?_
  cases r with
  | error e => exact .done (.const True) fun _ _ h => h
  | ok build =>
    have hbuilt : Publishable c members now wallClock spec build.result.plan
        (intentFromSpec spec build.policy) := by
      unfold BuildAnswer at hr
      split at hr
      · next model hfind hsource =>
        obtain ⟨last, id, -, -, hplan⟩ := hr
        exact ⟨model, _, build, hfind, hsource, hplan.symm, rfl, rfl⟩
      · obtain ⟨e, he⟩ := hr
        cases he
    refine (read_triple hguard .snapshot (fun _ => True) rfl fun _ _ _ _ _ => trivial).bind
      fun current => ?_
    split
    · refine Triple.bind (Triple.of_all (publishesOnly_of_keepsPlan
        (keepsPlan_of_all (all_repairActivePlan _ _ _ _))) fun o w ho _ => ho) fun r => ?_
      cases r with
      | some e => exact .done (.const True) fun _ _ h => h
      | none => exact .done (.const True) fun _ _ h => h
    · refine Triple.of_all (publishesOnly_transitionDeployment c build spec) fun o w ho _ => ?_
      intro plan intent he
      obtain ⟨rfl, rfl⟩ := ho plan intent he
      exact hbuilt

end

/-! ## Reconciliation -/

theorem ControllerOp.KeepsPlan.apply (h : o.KeepsPlan) (s : DeploymentState) :
    (o.apply s).active = s.active ∧ (o.apply s).intent = s.intent ∧
      (o.apply s).lastEpoch = s.lastEpoch := by
  cases o with
  | beginTransition _ => exact h.elim
  | publish _ _ => exact h.elim
  | recordReconcileError err healthy =>
    obtain ⟨phase, lastError, hs⟩ := DeploymentState.recordReconcileError_eq (s := s) err healthy
    rw [ControllerOp.apply, hs]
    exact ⟨rfl, rfl, rfl⟩
  | finishDraining epoch =>
    obtain ⟨inFlight, phase, lastError, hs⟩ := DeploymentState.finishDraining_eq (s := s) epoch
    rw [ControllerOp.apply, hs]
    exact ⟨rfl, rfl, rfl⟩
  | _ => exact ⟨rfl, rfl, rfl⟩

variable (Out) in
/-- The active plan, the intent and the last epoch stay. -/
def keepContract (s : DeploymentState) : Contract (coordinator Out) where
  inv w := w.state.active = s.active ∧ w.state.intent = s.intent ∧
    w.state.lastEpoch = s.lastEpoch
  guard o _ := o.KeepsPlan
  inv_env := by
    rintro w e w' ⟨ha, hi, hl⟩ hs
    have hq := Quiet.env hs
    exact ⟨hq.active.trans ha, hq.intent.trans hi, hq.lastEpoch.trans hl⟩
  inv_exec := by
    rintro o w a w' ⟨ha, hi, hl⟩ hg hs
    rw [hs.1]
    obtain ⟨ha', hi', hl'⟩ := hg.apply w.state
    exact ⟨ha'.trans ha, hi'.trans hi, hl'.trans hl⟩

theorem keepContract_stretch {s : DeploymentState} (o : ControllerOp) (w : World Out)
    (ho : Stretch (fun _ => True) o) (_ : (keepContract Out s).inv w) :
    (keepContract Out s).guard o w :=
  ho.keepsPlan

section

variable {c : DeploymentController} {members : List Member} {now wallClock : Time}
  (hmembers : ∀ a, Out.members a → a = members) (hnow : ∀ a, Out.now a → a = now)
  (hwall : ∀ a, Out.wallClock a → a = wallClock) {s : DeploymentState} {spec : DeploymentSpec}
  {plan : DeploymentPlan} {intent : DeploymentIntent}
  (hpublished : Publishable c members now wallClock spec plan intent)
include hmembers hnow hwall hpublished

theorem buildDeployment_again :
    (keepContract Out s).Triple (fun _ => True) (c.buildDeployment intent.spec) fun r _ =>
      (s.lastEpoch + 1 ≠ 0 → ∃ build, r = .ok build) ∧
        ∀ build, r = .ok build → plansEquivalent plan build.result.plan := by
  obtain ⟨model, identity, built, hfind, hsource, hplan, rfl, rfl⟩ := hpublished
  have hlast : ∀ w, (keepContract Out s).inv w → w.state.lastEpoch = s.lastEpoch :=
    fun w hi => hi.2.2
  refine (buildDeployment_triple hmembers hnow hwall keepContract_stretch
    (E := (· = s.lastEpoch)) hlast _).consequence (fun _ _ h => h) ?_
  intro r _ hr
  have hfind' : c.registry.find (intentFromSpec spec built.policy).spec.modelId = some model := hfind
  simp only [BuildAnswer, hfind', hsource] at hr
  obtain ⟨last, id, rfl, hid, rfl⟩ := hr
  rw [hid rfl]
  have hagain : s.lastEpoch + 1 ≠ 0 → ∃ again, c.planFor _ model _ members now wallClock = .ok again ∧
      plansEquivalent built.result.plan again.result.plan :=
    fun hepoch => planFor_again hplan hepoch now
  refine ⟨fun hepoch => ?_, fun build hbuild => ?_⟩
  · obtain ⟨again, hok, -⟩ := hagain hepoch
    exact ⟨again, hok⟩
  · obtain ⟨again, hok, heq⟩ := hagain (planFor_epoch hbuild)
    rw [hbuild] at hok
    cases hok
    exact heq

theorem switchDeploymentLocked_again (hactive : s.active = some plan) :
    (keepContract Out s).Triple (fun _ => True) (c.switchDeploymentLocked intent.spec false)
      fun _ _ => True := by
  refine (buildDeployment_again hmembers hnow hwall hpublished).bind fun r => .of_fact ?_
  rintro ⟨-, hequiv⟩
  cases r with
  | error e => exact .done (.const True) fun _ _ h => h
  | ok build =>
    refine (read_triple keepContract_stretch .snapshot (fun a => a.active = some plan) rfl ?_).bind
      fun current => .of_fact fun hcurrent => ?_
    · rintro w a w' hi ⟨-, -, rfl, -⟩
      exact hi.1.trans hactive
    have hfilter : current.active.filter
        (fun active => !false && plansEquivalent active build.result.plan) = some plan := by
      rw [hcurrent, Option.filter_some, hequiv build rfl]
      rfl
    rw [hfilter]
    refine Triple.bind (Triple.of_all (keepsPlan_of_all (all_repairActivePlan _ _ _ _))
      fun o w ho _ => ho) fun r => ?_
    cases r with
    | some e => exact .done (.const True) fun _ _ h => h
    | none => exact .done (.const True) fun _ _ h => h

theorem reconcileAsLeader_again (hactive : s.active = some plan) (hintent : s.intent = some intent) :
    (keepContract Out s).Triple (fun _ => True) c.reconcileAsLeader fun _ _ => True := by
  refine (Triple.of_all keepsPlan_retryDraining fun o w ho _ => ho).bind fun pending => ?_
  refine (read_triple keepContract_stretch .activeIntent (· = some intent) rfl ?_).bind fun a => .of_fact ?_
  · rintro w a w' ⟨ha, hi, -⟩ ⟨-, -, rfl, -⟩
    rw [DeploymentState.activeIntent, ha, hactive, hi, hintent]
    rfl
  rintro rfl
  refine (switchDeploymentLocked_again hmembers hnow hwall hpublished hactive).bind fun outcome => ?_
  exact Triple.of_all (keepsPlan_recordOutcome c pending outcome) fun o w ho _ => ho

theorem reconcile_again (hactive : s.active = some plan) (hintent : s.intent = some intent) :
    (keepContract Out s).Triple (fun _ => True) c.reconcile fun _ _ => True := by
  have hleader := reconcileAsLeader_again hmembers hnow hwall hpublished hactive hintent
  unfold DeploymentController.reconcile
  split
  · refine (read_triple keepContract_stretch .now (fun _ => True) rfl
      fun _ _ _ _ _ => trivial).bind fun now => ?_
    refine (read_triple keepContract_stretch (.isLeader now) (fun _ => True) rfl
      fun _ _ _ _ _ => trivial).bind fun leader => ?_
    split
    · exact hleader
    · exact .done (.const True) fun _ _ h => h
  · exact hleader

omit hpublished

/-- **A reconciliation is a no-op right after a switch.** -/
theorem reconcile_noop {force : Bool} {w w' : World Out} {events : List CoordinatorEvent}
    {q : Controlled TransitionOutcome}
    (hr : (coordinator Out).program.Run (c.switchDeploymentLocked spec force, w) events (q, w'))
    {previous : Option DeploymentPlan} (hpub : .op (.publish plan intent) previous ∈ events) :
    intent = intentFromSpec spec (deploymentPolicy c.planPolicy spec) ∧
    (∀ w₁ w₂ events₁ r, w₁.state.lastEpoch + 1 ≠ 0 →
      (coordinator Out).program.Run (c.buildDeployment intent.spec, w₁) events₁ (.done r, w₂) →
        ∃ build, r = .ok build ∧ plansEquivalent plan build.result.plan) ∧
    ∀ w₁ w₂ events₁ q₁, w₁.state.active = some plan → w₁.state.intent = some intent →
      (coordinator Out).program.Run (c.reconcile, w₁) events₁ (q₁, w₂) →
        ∀ next answer, .op (.beginTransition next) answer ∉ events₁ := by
  have hswitch := switchDeploymentLocked_publishes (c := c) hmembers hnow hwall spec force
  obtain ⟨_, hguard⟩ := (hswitch w trivial trivial).guard_of_mem hr hpub
  have hpublished := hguard plan intent rfl
  refine ⟨?_, ?_, ?_⟩
  · obtain ⟨model, identity, build, -, -, hplan, -, rfl⟩ := hpublished
    obtain ⟨-, hfields⟩ := planFor_eq_ok.mp hplan
    rw [hfields]
  · intro w₁ w₂ events₁ r hepoch hrun
    have hagain := buildDeployment_again (s := w₁.state) hmembers hnow hwall hpublished
    obtain ⟨-, hend⟩ := (hagain w₁ ⟨rfl, rfl, rfl⟩ trivial).run (fun _ => True) hrun
    obtain ⟨hok, hequiv⟩ := hend w₂ .refl
    obtain ⟨build, rfl⟩ := hok hepoch
    exact ⟨build, rfl, hequiv build rfl⟩
  · intro w₁ w₂ events₁ q₁ hactive hintent hrun next answer hm
    have hagain := reconcile_again hmembers hnow hwall hpublished hactive hintent
    obtain ⟨_, hkeeps⟩ := (hagain w₁ ⟨rfl, rfl, rfl⟩ trivial).guard_of_mem hrun hm
    exact hkeeps

end

/-- Surroundings whose members and clocks are those of a script. -/
def steadyOutside (script : Script) : Outside :=
  { anyOutside with
    members := (· = script.members)
    now := (· = script.now)
    wallClock := (· = script.now) }

/-- The answers of a steady cluster. -/
def steadyAnswer (script : Script) (o : ControllerOp) (w : World (steadyOutside script)) :
    Answer o × World (steadyOutside script) :=
  (script.value w.state o, { w with state := o.apply w.state })

theorem exec_steadyAnswer (script : Script) (o : ControllerOp) (w : World (steadyOutside script)) :
    (coordinator (steadyOutside script)).exec o w (steadyAnswer script o w).1
      (steadyAnswer script o w).2 := by
  have hfits : script.Fits (steadyOutside script) w.fabric := by
    constructor <;> intros <;> first | rfl | trivial
  exact ⟨rfl, rfl, hfits.answers w.state o⟩

/-- The event publishes a plan. -/
def isPublish : CoordinatorEvent → Bool
  | .op (.publish _ _) _ => true
  | _ => false

/-- The events of the first switch of the sample cluster. -/
def sampleSwitchEvents : List CoordinatorEvent :=
  Shared.trace SessionEvent (steadyAnswer (sampleScript fun _ => false))
    (sampleController.switchDeploymentLocked sampleSpec true)
    { state := {}, admissions := [], fabric := () }

theorem reconcile_noop_sampleSwitch : ∃ plan previous,
    .op (.publish plan (intentFromSpec sampleSpec (deploymentPolicy {} sampleSpec))) previous
        ∈ sampleSwitchEvents ∧
      ∀ w₁ w₂ events₁ q₁, w₁.state.active = some plan →
        w₁.state.intent = some (intentFromSpec sampleSpec (deploymentPolicy {} sampleSpec)) →
        (coordinator (steadyOutside (sampleScript fun _ => false))).program.Run
          (sampleController.reconcile, w₁) events₁ (q₁, w₂) →
          ∀ next answer, .op (.beginTransition next) answer ∉ events₁ := by
  have hpublish : sampleSwitchEvents.any isPublish := by decide +kernel
  obtain ⟨event, hm, hevent⟩ := List.any_eq_true.mp hpublish
  have hr := Shared.run_eval (E := SessionEvent)
    (exec_steadyAnswer (sampleScript fun _ => false))
    (sampleController.switchDeploymentLocked sampleSpec true)
    { state := {}, admissions := [], fabric := () }
  cases event with
  | env e => cases hevent
  | op o a =>
    cases o with
    | publish plan intent =>
      obtain ⟨rfl, -, hnoop⟩ := reconcile_noop (fun _ h => h) (fun _ h => h) (fun _ h => h) hr hm
      exact ⟨plan, a, hm, hnoop⟩
    | _ => cases hevent

end JetsonFabric
