import JetsonFabric.Coordinator.Stretches

/-!
# The protocol of the controller

The controller's programs ask for the operations that change the deployment state only when their
guards hold: a plan is published or rolled back while it is in preparation, published only when
all its stages acknowledged it, waited for only while it drains, and unloaded only in preparation
or after the wait.
-/

namespace JetsonFabric

open Std Contract DeploymentController

variable {Out : Outside} {C : Contract (coordinator Out).logged}

/-- No transition is in progress, and the epochs are draining. -/
def Holding (epochs : List UInt64) (x : Logged Out) : Prop :=
  x.1.state.preparing = none ∧ ∀ e ∈ epochs, e ∈ x.1.state.draining

theorem quietStable_holding (epochs : List UInt64) :
    QuietStable (Holding epochs : Logged Out → Prop) := by
  rintro x y t ⟨hp, hd⟩ - hq
  refine ⟨hq.preparing.trans hp, fun e he => ?_⟩
  rw [hq.draining]
  exact hd e he

theorem done_holding {α : Type} (a : α) :
    C.Triple (Holding []) (.done a) fun _ => Holding [] :=
  .done (quietStable_holding _).stable fun _ _ hx => hx

/-- A plan in preparation was cleaned up and rolled back. -/
def RolledBack (s₀ : DeploymentState) (plan : DeploymentPlan) (s : DeploymentState)
    (events : List CoordinatorEvent) : Prop :=
  ∃ t₁ t₂ s₁ failure healthy pending,
    events = t₁ ++ .op (.rollback plan failure healthy pending) () :: t₂ ∧
      Quiet s₀ s₁ t₁ ∧ CleanedUp plan (pending = false) t₁ ∧
      Quiet (s₁.rollback plan failure healthy pending) s t₂

/-- The transition of the plan was refused. -/
def Refused (plan : DeploymentPlan) (events : List CoordinatorEvent) : Prop :=
  ∀ previous, .op (.beginTransition plan) (.ok previous) ∉ events

/-- The transition of the plan began and was rolled back. -/
def FailedSwitch (s₀ : DeploymentState) (plan : DeploymentPlan) (s : DeploymentState)
    (events : List CoordinatorEvent) : Prop :=
  ∃ t₀ t₁ s₁, events = t₀ ++ .op (.beginTransition plan) (.ok s₁.active) :: t₁ ∧
    Quiet s₀ s₁ t₀ ∧ s₁.preparing = none ∧ plan.epoch = s₁.lastEpoch + 1 ∧
    RolledBack (s₁.beginTransition plan).2 plan s t₁

/-- The transition has begun, and only stretches were run since. -/
def Begun (s₀ : DeploymentState) (plan : DeploymentPlan) (h : List CoordinatorEvent)
    (previous : Option DeploymentPlan) (x : Logged Out) : Prop :=
  ∃ s₁ t₀, Quiet s₀ s₁ t₀ ∧ previous = s₁.active ∧ s₁.preparing = none ∧
    plan.epoch = s₁.lastEpoch + 1 ∧
    Since (s₁.beginTransition plan).2
      (h ++ (t₀ ++ [.op (.beginTransition plan) (.ok s₁.active)])) NoUnload x

/-- Nothing is in preparation; an error means refused or rolled back. -/
def TransitionEnd (s₀ : DeploymentState) (plan : DeploymentPlan) (h : List CoordinatorEvent)
    (r : TransitionOutcome) (x : Logged Out) : Prop :=
  x.1.state.preparing = none ∧ (r.error ≠ none →
    ∃ t, x.2 = h ++ t ∧ (Refused plan t ∨ FailedSwitch s₀ plan x.1.state t))

theorem lasting_refused (U : DeploymentIdentity → Prop) (plan : DeploymentPlan) :
    Lasting U (Refused plan) := by
  intro t ht
  refine ⟨fun e previous hm => ?_, fun o a ho previous hm => ?_⟩
  · rcases List.mem_append.mp hm with hm | hm
    · exact ht previous hm
    · cases List.mem_singleton.mp hm
  · rcases List.mem_append.mp hm with hm | hm
    · exact ht previous hm
    · cases List.mem_singleton.mp hm
      cases ho.1

variable {s₀ s : DeploymentState} {plan : DeploymentPlan} {t : List CoordinatorEvent}

theorem RolledBack.preparing (h : RolledBack s₀ plan s t) : s.preparing = none := by
  obtain ⟨t₁, t₂, s₁, failure, healthy, pending, -, -, -, hq⟩ := h
  exact hq.preparing

theorem RolledBack.quiet {s' : DeploymentState}
    {u : List CoordinatorEvent} (h : RolledBack s₀ plan s t) (hq : Quiet s s' u) :
    RolledBack s₀ plan s' (t ++ u) := by
  obtain ⟨t₁, t₂, s₁, failure, healthy, pending, rfl, hq₁, hclean, hq₂⟩ := h
  refine ⟨t₁, t₂ ++ u, s₁, failure, healthy, pending, ?_, hq₁, hclean, hq₂.trans hq⟩
  rw [List.append_assoc, List.cons_append]

theorem quietStable_rolledBack (s₀ : DeploymentState) (plan : DeploymentPlan)
    (h : List CoordinatorEvent) :
    QuietStable fun x : Logged Out => ∃ t, x.2 = h ++ t ∧ RolledBack s₀ plan x.1.state t := by
  rintro x y u ⟨t, hx, hback⟩ hlog hq
  refine ⟨t ++ u, ?_, hback.quiet hq⟩
  rw [hlog, hx, List.append_assoc]

theorem FailedSwitch.quiet {s' : DeploymentState}
    {u : List CoordinatorEvent} (h : FailedSwitch s₀ plan s t) (hq : Quiet s s' u) :
    FailedSwitch s₀ plan s' (t ++ u) := by
  obtain ⟨t₀, t₁, s₁, rfl, hq₀, hp, he, hback⟩ := h
  refine ⟨t₀, t₁ ++ u, s₁, ?_, hq₀, hp, he, hback.quiet hq⟩
  rw [List.append_assoc, List.cons_append]

theorem TransitionEnd.stable (s₀ : DeploymentState) (plan : DeploymentPlan)
    (h : List CoordinatorEvent) (r : TransitionOutcome) : C.Stable (TransitionEnd s₀ plan h r) := by
  rintro x e y - ⟨hp, hr⟩ ⟨henv, hlog⟩
  have hq := Quiet.env henv
  refine ⟨hq.preparing.trans hp, fun he => ?_⟩
  obtain ⟨t, ht, hend⟩ := hr he
  refine ⟨t ++ [.env e], by rw [hlog, ht, List.append_assoc], ?_⟩
  rcases hend with href | hfail
  · exact .inl ((lasting_refused (fun _ => False) plan t href).1 e)
  · exact .inr (hfail.quiet hq)

section

variable (hC : Protocol C)
include hC

theorem operation_triple {o : ControllerOp} {P : Logged Out → Prop}
    {R : Answer o → Logged Out → Prop} (hP : QuietStable P) (hR : ∀ a, QuietStable (R a))
    (hg : ∀ x, P x → protocolGuard o x.1.state x.2)
    (hx : ∀ x a y, P x → x.1.exec o a y.1 → y.2 = x.2 ++ [.op o a] → R a y) :
    C.Triple P (operation o) R := by
  refine Triple.perform hP.stable (fun a => (hR a).stable) ?_ ?_
  · intro x _ hp
    rw [hC.guard]
    exact hg x hp
  · intro x a y _ hp hs
    exact hx x a y hp hs.1 hs.2

/-! ## Retiring a plan -/

theorem waitForEpoch_triple (plan : DeploymentPlan) (epochs : List UInt64) :
    C.Triple (Holding (plan.epoch :: epochs)) (operation (.waitForEpoch plan.identity.epoch))
      fun r x => Holding (plan.epoch :: epochs) x ∧
        (r = none → .op (.waitForEpoch plan.identity.epoch) none ∈ x.2) := by
  refine operation_triple hC (quietStable_holding _) ?_ ?_ ?_
  · rintro r x y t ⟨hx, hm⟩ hlog hq
    refine ⟨quietStable_holding _ x y t hx hlog hq, fun hr => ?_⟩
    rw [hlog]
    exact List.mem_append_left _ (hm hr)
  · intro x hx
    exact hx.2 plan.epoch List.mem_cons_self
  · intro x r y hx hs hlog
    refine ⟨?_, ?_⟩
    · rw [Holding, hs.1]
      exact hx
    · rintro rfl
      rw [hlog]
      exact List.mem_append_right _ List.mem_cons_self

theorem finishDraining_triple (epoch : UInt64) {epochs : List UInt64} (hne : epoch ∉ epochs) :
    C.Triple (Holding epochs) (operation (.finishDraining epoch)) fun _ => Holding epochs := by
  refine operation_triple hC (quietStable_holding _) (fun _ => quietStable_holding _)
    (fun _ _ => trivial) ?_
  intro x _ y hx hs _
  obtain ⟨inFlight, phase, lastError, he⟩ :=
    DeploymentState.finishDraining_eq (s := x.1.state) epoch
  rw [Holding, hs.1, ControllerOp.apply, he]
  refine ⟨hx.1, fun e hm => ?_⟩
  rw [ExtTreeMap.mem_erase]
  refine ⟨?_, hx.2 e hm⟩
  have : epoch ≠ e := fun h => hne (h ▸ hm)
  simpa using this

theorem retirePlan_triple (plan : DeploymentPlan) {epochs : List UInt64}
    (hne : plan.epoch ∉ epochs) :
    C.Triple (Holding (plan.epoch :: epochs)) (retirePlan plan) fun _ => Holding epochs := by
  have hsub : ∀ x : Logged Out, Holding (plan.epoch :: epochs) x → Holding epochs x :=
    fun x hx => ⟨hx.1, fun e he => hx.2 e (List.mem_cons_of_mem _ he)⟩
  refine ((drainPlan_gathers (U := fun _ => False) hC plan).keeps
    (quietStable_holding _) fun _ _ _ h => h.elim).bind fun drainErr => ?_
  refine (waitForEpoch_triple hC plan epochs).bind fun waitErr => ?_
  cases waitErr with
  | some e => exact .done (quietStable_holding _).stable fun x _ hx => hsub x hx.1
  | none =>
    -- the unloads are allowed by the wait, which stays in the log
    have hwaited : QuietStable fun x : Logged Out => Holding epochs x ∧
        .op (.waitForEpoch plan.identity.epoch) none ∈ x.2 := by
      rintro x y t ⟨hx, hm⟩ hlog hq
      refine ⟨quietStable_holding _ x y t hx hlog hq, ?_⟩
      rw [hlog]
      exact List.mem_append_left _ hm
    have hunload : C.Triple _ (unloadPlan plan) fun _ => _ :=
      (unloadPlan_gathers (U := (· = runtimeDeploymentIdentity plan)) hC rfl).keeps hwaited
        fun x hx identity hi => .inr (hi ▸ hx.2)
    refine (hunload.strengthen fun x _ hx => ⟨hsub x hx.1, hx.2 rfl⟩).bind fun unloadErr => ?_
    split
    · exact .done (quietStable_holding _).stable fun x _ hx => hx.1
    · refine ((finishDraining_triple hC plan.identity.epoch hne).strengthen
        fun x _ hx => hx.1).bind fun _ => ?_
      exact .done (quietStable_holding _).stable fun x _ hx => hx

theorem retirePlans_triple (plans : List DeploymentPlan)
    (hnodup : (plans.map DeploymentPlan.epoch).Nodup) :
    C.Triple (Holding (plans.map DeploymentPlan.epoch)) (retirePlans plans)
      fun _ => Holding [] := by
  induction plans with
  | nil => exact .done (quietStable_holding _).stable fun x _ hx => hx
  | cons plan plans ih =>
    rw [List.map_cons, List.nodup_cons] at hnodup
    refine (retirePlan_triple hC plan hnodup.1).bind fun e => ?_
    refine (ih hnodup.2).bind fun es => ?_
    exact .done (quietStable_holding _).stable fun x _ hx => hx

/-! ## Transitions -/

theorem recordReconcileError_triple (err : Option Err) (healthy : Bool) :
    C.Triple (Holding []) (operation (.recordReconcileError err healthy))
      fun _ => Holding [] := by
  refine operation_triple hC (quietStable_holding _) (fun _ => quietStable_holding _)
    (fun _ hx => hx.1) ?_
  intro x _ y hx hs _
  obtain ⟨phase, lastError, he⟩ :=
    DeploymentState.recordReconcileError_eq (s := x.1.state) err healthy
  rw [Holding, hs.1, ControllerOp.apply, he]
  exact hx

theorem rollback_triple (failure : Err) (healthy pending : Bool)
    (h : List CoordinatorEvent) (hp : s₀.preparing = some plan) :
    C.Triple (Since s₀ h (CleanedUp plan (pending = false)))
      (operation (.rollback plan failure healthy pending))
      fun _ x => ∃ t, x.2 = h ++ t ∧ RolledBack s₀ plan x.1.state t := by
  refine operation_triple hC (Since.quietStable (persistent_cleanedUp plan _))
    (fun _ => quietStable_rolledBack s₀ plan h) ?_ ?_
  · rintro x ⟨t, hlog, hq, -⟩
    exact hq.preparing.trans hp
  · rintro x a y ⟨t, hlog, hq, ht⟩ hs hlog'
    refine ⟨t ++ [.op (.rollback plan failure healthy pending) ()], ?_, t, [], x.1.state, failure,
      healthy, pending, rfl, hq, ht, ?_⟩
    · rw [hlog', hlog, List.append_assoc]
    · rw [hs.1]
      exact .refl _

theorem rollbackPreparedPlan_triple (c : DeploymentController)
    (previous : Option DeploymentPlan) (cause : Err)
    (h : List CoordinatorEvent) (hp : s₀.preparing = some plan) :
    C.Triple (Since s₀ h fun _ => True) (c.rollbackPreparedPlan plan previous cause)
      fun _ x => ∃ t, x.2 = h ++ t ∧ RolledBack s₀ plan x.1.state t := by
  have hU : ∀ identity, identity = runtimeDeploymentIdentity plan →
      Unloadable identity s₀ h := fun identity hi => .inl ⟨plan, hp, hi.symm⟩
  have htrue : Lasting (· = runtimeDeploymentIdentity plan) fun _ => True :=
    fun _ _ => ⟨fun _ => trivial, fun _ _ _ => trivial⟩
  have hclean : Gathers C (· = runtimeDeploymentIdentity plan) (cleanupPlan plan)
      fun r => CleanedUp plan (r = none) := cleanupPlan_gathers hC rfl
  refine (hclean.triple s₀ h _ hU htrue).bind fun cleanupErr => ?_
  refine ((Gathers.of_all hC (all_previousHealthy c previous)).triple s₀ h _ hU
    (htrue.and (persistent_cleanedUp plan _).lasting)).bind fun healthy => ?_
  refine ((rollback_triple hC _ healthy cleanupErr.isSome h hp).strengthen ?_).bind
    fun _ => .done (quietStable_rolledBack s₀ plan h).stable fun x _ hx => hx
  rintro x - ⟨t, hlog, hq, ⟨-, ht⟩, -⟩
  refine ⟨t, hlog, hq, ht.imp fun h => ?_⟩
  simpa using h

theorem beginTransition_triple (plan : DeploymentPlan) (h : List CoordinatorEvent) :
    C.Triple (Since s₀ h (Refused plan)) (operation (.beginTransition plan)) fun r x =>
      match r with
      | .error _ => Since s₀ h (Refused plan) x
      | .ok previous => Begun s₀ plan h previous x := by
  refine Triple.perform (Since.stable (lasting_refused (fun _ => False) plan)) ?_ ?_ ?_
  · intro r
    cases r with
    | error e => exact Since.stable (lasting_refused (fun _ => False) plan)
    | ok previous =>
      refine .exists fun s₁ => .exists fun t₀ => ?_
      exact .and (.const _) (.and (.const _) (.and (.const _) (.and (.const _)
        (Since.stable lasting_noUnload))))
  · intro x _ _
    rw [hC.guard]
    trivial
  · rintro x r y - ⟨t, hlog, hq, ht⟩ ⟨⟨hstate, -, hanswer, -⟩, hlog'⟩
    rcases x.1.state.beginTransition_cases plan with ⟨hnone, hepoch, he⟩ | ⟨e, he⟩
    · have hr : r = .ok x.1.state.active := by rw [hanswer, he]
      subst hr
      refine ⟨x.1.state, t, hq, rfl, hnone, hepoch, [], ?_, ?_, ?_⟩
      · rw [hlog', hlog, List.append_nil, List.append_assoc]
      · rw [hstate]
        exact .refl _
      · intro node identity hm
        cases hm
    · have hr : r = .error e := by rw [hanswer, he]
      subst hr
      refine ⟨t ++ [.op (.beginTransition plan) (.error e)], ?_, ?_, ?_⟩
      · rw [hlog', hlog, List.append_assoc]
      · refine hq.trans ?_
        rw [hstate, ControllerOp.apply, he]
        exact ⟨rfl, rfl, rfl, rfl, rfl, rfl, fun _ => rfl⟩
      · intro previous hm
        rcases List.mem_append.mp hm with hm | hm
        · exact ht previous hm
        · cases List.mem_singleton.mp hm

/-- What is known when a plan is published. -/
theorem publish_triple (intent : DeploymentIntent) {s₁ : DeploymentState}
    (h : List CoordinatorEvent) (hnone : s₁.preparing = none)
    (hepoch : plan.epoch = s₁.lastEpoch + 1) :
    C.Triple (Since (s₁.beginTransition plan).2
        (h ++ [.op (.beginTransition plan) (.ok s₁.active)])
        fun t => NoUnload t ∧ ∃ ready active, t = ready ++ active ∧ AllReady plan ready ∧
          AllActive plan active)
      (operation (.publish plan intent)) fun r =>
        Holding (r.map DeploymentPlan.epoch).toList := by
  have hprep : (s₁.beginTransition plan).2.preparing = some plan := by
    rw [DeploymentState.beginTransition_eq hnone hepoch]
  have hlast : Lasting (fun _ => False) fun t => NoUnload t ∧ ∃ ready active,
      t = ready ++ active ∧ AllReady plan ready ∧ AllActive plan active := by
    refine lasting_noUnload.and (Persistent.lasting ?_)
    rintro t u ⟨ready, active, rfl, hready, hactive⟩
    refine ⟨ready, active ++ u, List.append_assoc _ _ _, hready, ?_⟩
    exact Persistent.all (fun _ => persistent_confirmed _ _ _ _ _) active u hactive
  refine Triple.perform (Since.stable hlast) (fun r => (quietStable_holding _).stable) ?_ ?_
  · rintro x - ⟨t, hlog, hq, hno, ready, active, rfl, hready, hactive⟩
    rw [hC.guard]
    refine ⟨hq.preparing.trans hprep, h, s₁.active, ready, active, ?_, hready, hactive, hno⟩
    rw [hlog, List.append_assoc, List.singleton_append]
  · rintro x r y - - ⟨⟨hstate, -, hanswer, -⟩, -⟩
    rw [Holding, hstate, hanswer]
    refine ⟨rfl, fun e he => ?_⟩
    simp only [ControllerOp.apply, DeploymentState.publish] at he ⊢
    cases ha : x.1.state.active with
    | none =>
      rw [ha] at he
      cases he
    | some previous =>
      rw [ha] at he
      have he : e = previous.epoch := by simpa using he
      simp [he]

theorem transitionDeployment_triple (c : DeploymentController) (build : DeploymentBuild)
    (spec : DeploymentSpec) (h : List CoordinatorEvent)
    (hp : s₀.preparing = none) :
    C.Triple (Since s₀ h (Refused build.result.plan)) (c.transitionDeployment build spec)
      (TransitionEnd s₀ build.result.plan h) := by
  have hquiet : ∀ x : Logged Out, Holding [] x → TransitionEnd s₀ build.result.plan h {} x :=
    fun x hx => ⟨hx.1, fun he => absurd rfl he⟩
  refine (beginTransition_triple hC build.result.plan h).bind fun r => ?_
  cases r with
  | error e =>
    refine .done (TransitionEnd.stable _ _ _ _) ?_
    rintro x - ⟨t, hlog, hq, ht⟩
    exact ⟨hq.preparing.trans hp, fun _ => ⟨t, hlog, .inl ht⟩⟩
  | ok previous =>
    refine .exists_pre fun s₁ => .exists_pre fun t₀ => ?_
    rintro x hi ⟨hq₀, rfl, hnone, hepoch, hx⟩
    let h₁ := h ++ (t₀ ++ [.op (.beginTransition build.result.plan) (.ok s₁.active)])
    refine (?_ : C.Triple (Since (s₁.beginTransition build.result.plan).2 h₁ NoUnload) _ _) x hi hx
    have hprep : (s₁.beginTransition build.result.plan).2.preparing = some build.result.plan := by
      rw [DeploymentState.beginTransition_eq hnone hepoch]
    refine ((preparePlan_gathers hC c build spec).triple _ _ _ (fun _ hu => hu.elim)
      lasting_noUnload).bind fun prepareErr => ?_
    cases prepareErr with
    | some e =>
      refine ((rollbackPreparedPlan_triple hC c _ e h₁ hprep).strengthen ?_).bind fun failure => ?_
      · rintro y - ⟨t, hlog, hq, -⟩
        exact ⟨t, hlog, hq, trivial⟩
      · refine .done (TransitionEnd.stable _ _ _ _) ?_
        rintro y - ⟨t, hlog, hback⟩
        refine ⟨hback.preparing, fun _ => ⟨_, ?_, .inr ⟨t₀, t, s₁, rfl, hq₀, hnone, hepoch, hback⟩⟩⟩
        rw [hlog, List.append_assoc, List.append_assoc, List.singleton_append]
    | none =>
      have hh₁ : h₁ = (h ++ t₀) ++ [.op (.beginTransition build.result.plan) (.ok s₁.active)] :=
        (List.append_assoc _ _ _).symm
      rw [hh₁]
      refine ((publish_triple hC (intentFromSpec spec build.policy) (h ++ t₀) hnone hepoch).strengthen
        ?_).bind fun r => ?_
      · rintro y - ⟨t, hlog, hq, hno, hall⟩
        exact ⟨t, hlog, hq, hno, hall rfl⟩
      cases r with
      | none => exact .done (TransitionEnd.stable _ _ _ _) fun y _ hy => hquiet y hy
      | some previous =>
        refine (retirePlan_triple hC previous (List.not_mem_nil)).bind fun retireErr => ?_
        cases retireErr with
        | none => exact .done (TransitionEnd.stable _ _ _ _) fun y _ hy => hquiet y hy
        | some e =>
          refine (recordReconcileError_triple hC (some e) true).bind fun _ => ?_
          refine .done (TransitionEnd.stable _ _ _ _) fun y _ hy => ?_
          exact ⟨hy.1, fun he => absurd rfl he⟩

theorem keeps_holding {α : Type} {p : Controlled α} (hp : p.All (Stretch fun _ => False)) :
    C.Triple (Holding []) p fun _ => Holding [] :=
  (Gathers.of_all hC hp).keeps (quietStable_holding _) fun _ _ _ hu => hu.elim

theorem switchDeploymentLocked_triple (c : DeploymentController) (spec : DeploymentSpec)
    (force : Bool) :
    C.Triple (Holding []) (c.switchDeploymentLocked spec force) fun _ => Holding [] := by
  refine (keeps_holding hC (all_buildDeployment c spec)).bind fun r => ?_
  cases r with
  | error e => exact done_holding _
  | ok build =>
    refine (keeps_holding hC (all_read rfl fun _ _ h => by cases h)).bind fun current => ?_
    split
    · next active _ =>
      refine (keeps_holding hC (all_repairActivePlan active _ _ spec)).bind fun r => ?_
      cases r with
      | some e => exact done_holding _
      | none => exact done_holding _
    · intro x hi hx
      refine (transitionDeployment_triple hC c build spec x.2 hx.1).consequence
        (fun _ _ hy => hy) ?_ x hi ⟨[], by simp, .refl _, fun _ hm => by cases hm⟩
      exact fun r y hy => ⟨hy.1, fun e he => by cases he⟩

/-! ## Reconciliation -/

section

variable (hinv : ∀ x, C.inv x → PlanOrder x.1.state)
include hinv

theorem retryDraining_triple : C.Triple (Holding []) retryDraining fun _ => Holding [] := by
  have hsnapshot : C.Triple (Holding []) (operation .snapshot) fun r x =>
      (r.draining.map DeploymentPlan.epoch).Nodup ∧
        Holding (r.draining.map DeploymentPlan.epoch) x := by
    refine Triple.perform (quietStable_holding _).stable
      (fun r => .and (.const _) (quietStable_holding _).stable) ?_ ?_
    · intro x _ _
      rw [hC.guard]
      trivial
    · rintro x r y hi hx ⟨⟨hstate, -, rfl, -⟩, -⟩
      have hperm := (hinv x hi).perm_snapshot_draining
      refine ⟨hperm.nodup_iff.mpr ExtTreeMap.nodup_keys, ?_, fun e he => ?_⟩
      · rw [hstate]
        exact hx.1
      · rw [hstate]
        exact ExtTreeMap.mem_keys.mp (hperm.mem_iff.mp he)
  refine hsnapshot.bind fun snapshot => ?_
  intro x hi hx
  refine Triple.bind (retirePlans_triple hC snapshot.draining hx.1) (fun errs => ?_) x hi hx.2
  exact .done (quietStable_holding _).stable fun y _ hy => hy

theorem reconcileAsLeader_triple (c : DeploymentController) :
    C.Triple (Holding []) c.reconcileAsLeader fun _ => Holding [] := by
  refine (retryDraining_triple hC hinv).bind fun pending => ?_
  refine (keeps_holding hC (all_read rfl fun _ _ h => by cases h)).bind fun intent => ?_
  cases intent with
  | none => exact done_holding _
  | some intent =>
    refine (switchDeploymentLocked_triple hC c intent.spec false).bind fun outcome => ?_
    unfold recordOutcome
    split
    · exact (recordReconcileError_triple hC _ true).bind fun _ => done_holding _
    · refine (keeps_holding hC (all_read rfl fun _ _ h => by cases h)).bind fun snapshot => ?_
      refine (keeps_holding hC (all_activeHealthy c snapshot.active)).bind fun healthy => ?_
      exact (recordReconcileError_triple hC _ healthy).bind fun _ => done_holding _

theorem start_triple (c : DeploymentController) (call : Call) :
    C.Triple (Holding []) (c.start call) fun _ => Holding [] := by
  cases call with
  | switchDeployment spec force =>
    exact (switchDeploymentLocked_triple hC c spec force).bind fun _ => done_holding _
  | reconcile =>
    refine Triple.bind (R := fun _ => Holding []) ?_ fun _ => done_holding _
    unfold DeploymentController.reconcile
    split
    · refine (keeps_holding hC (all_read rfl fun _ _ h => by cases h)).bind fun now => ?_
      refine (keeps_holding hC (all_read rfl fun _ _ h => by cases h)).bind fun leader => ?_
      split
      · exact reconcileAsLeader_triple hC hinv c
      · exact done_holding _
    · exact reconcileAsLeader_triple hC hinv c

end

end

/-! ## The coordinator -/

variable (Out) in
/-- The guards of the controller with the order of epochs as invariant. -/
def coordinatorContract : Contract (coordinator Out).logged where
  inv x := EpochInv x.1
  guard o x := protocolGuard o x.1.state x.2
  inv_env h hs := h.env hs.1
  inv_exec h hg hs := by
    refine h.exec hs.1 ?_ ?_
    · rintro plan intent rfl
      exact hg.1
    · rintro plan err healthy pending rfl
      exact hg

theorem coordinatorProtocol : Protocol (coordinatorContract Out) := ⟨fun _ _ => Iff.rfl⟩

/-- The start of a log. -/
def LoggedInit (x : Logged Out) : Prop := x.1.Init ∧ x.2 = []

variable (Out) in
/-- The guarded operations, and the steps of sessions and fabric. -/
def coordinatorMachine : LTS (Logged Out) CoordinatorEvent :=
  (coordinatorContract Out).machine LoggedInit

/-- **The coordinator refines its machine.** -/
theorem coordinator_reachable {c : DeploymentController} {x : Controlled Unit × World Out}
    (h : (coordinatorServer Out c).Reachable x) :
    ∃ log, (coordinatorMachine Out).Reachable (x.2, log) ∧
      (coordinatorContract Out).Safe (fun _ => Holding []) x.1 (x.2, log) := by
  obtain ⟨log, hlog⟩ := Shared.reachable_logged h
  refine ⟨log, server_reachable ?_ (quietStable_holding _).stable ?_ hlog⟩
  · rintro y ⟨hy, hl⟩
    refine ⟨EpochInv.init hy, ?_, fun e he => by cases he⟩
    rw [hy.1]
  · exact start_triple coordinatorProtocol (fun y hy => hy.plans) c

theorem coordinatorMachine_inductive :
    (coordinatorMachine Out).Inductive fun x => EpochInv x.1 :=
  machine_inductive fun _ h => EpochInv.init h.1

end JetsonFabric
