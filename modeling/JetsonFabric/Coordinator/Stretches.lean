import JetsonFabric.Coordinator.Quiet

/-!
# What the controller's calls establish

One result for each program of the controller that leaves the deployment state alone: which calls
it has sent, and what the runtimes have acknowledged when it succeeds.
-/

namespace JetsonFabric

open Std Contract DeploymentController

variable {Out : Outside} {C : Contract (coordinator Out).logged} {U : DeploymentIdentity → Prop}

/-- The stages were sent the request, acknowledged if `acked`. -/
def Sent (stages : List Stage) (request : RuntimeRequest) (acked : Prop)
    (log : List CoordinatorEvent) : Prop :=
  ∀ stage ∈ stages, .op (.send stage.apiUrl request) () ∈ log ∧
    (acked → ∃ status, .op (.receive stage.apiUrl request) (.ok status) ∈ log)

/-- Every stage was sent a drain, and then an unload. -/
def CleanedUp (plan : DeploymentPlan) (acked : Prop) (log : List CoordinatorEvent) : Prop :=
  ∃ t₁ t₂, log = t₁ ++ t₂ ∧
    Sent plan.stages (.drain (runtimeDeploymentIdentity plan)) acked t₁ ∧
    Sent plan.stages (.unload (runtimeDeploymentIdentity plan)) acked t₂

theorem Sent.persistent (stages : List Stage) (request : RuntimeRequest) (acked : Prop) :
    Persistent (Sent stages request acked) := by
  intro t u ht stage hs
  obtain ⟨hsent, hack⟩ := ht stage hs
  refine ⟨List.mem_append_left _ hsent, fun h => ?_⟩
  obtain ⟨status, hm⟩ := hack h
  exact ⟨status, List.mem_append_left _ hm⟩

variable {request : RuntimeRequest} {log : List CoordinatorEvent}

theorem Sent.imp {stages : List Stage} {p q : Prop} (h : Sent stages request p log) (hpq : q → p) :
    Sent stages request q log :=
  fun stage hs => ⟨(h stage hs).1, fun hq => (h stage hs).2 (hpq hq)⟩

variable {plan : DeploymentPlan}

theorem CleanedUp.imp {p q : Prop}
    (h : CleanedUp plan p log) (hpq : q → p) : CleanedUp plan q log := by
  obtain ⟨t₁, t₂, rfl, h₁, h₂⟩ := h
  exact ⟨t₁, t₂, rfl, h₁.imp hpq, h₂.imp hpq⟩

/-- What was sent stays sent when earlier events are put in front. -/
theorem CleanedUp.prepend {acked : Prop}
    (h : CleanedUp plan acked log) (before : List CoordinatorEvent) :
    CleanedUp plan acked (before ++ log) := by
  obtain ⟨t₁, t₂, rfl, h₁, h₂⟩ := h
  refine ⟨before ++ t₁, t₂, (List.append_assoc _ _ _).symm, fun stage hs => ?_, h₂⟩
  obtain ⟨hsent, hack⟩ := h₁ stage hs
  refine ⟨List.mem_append_right _ hsent, fun h => ?_⟩
  obtain ⟨status, hm⟩ := hack h
  exact ⟨status, List.mem_append_right _ hm⟩

theorem persistent_cleanedUp (plan : DeploymentPlan) (acked : Prop) :
    Persistent (CleanedUp plan acked) := by
  rintro t u ⟨t₁, t₂, rfl, h₁, h₂⟩
  exact ⟨t₁, t₂ ++ u, List.append_assoc _ _ _, h₁, Sent.persistent _ _ _ t₂ u h₂⟩

/-! ## Programs that only read and call -/

theorem Stretch.of_outward {o : ControllerOp} (h : o.outward)
    (hn : ∀ node identity, o ≠ .send node (.unload identity)) : Stretch U o :=
  ⟨h, fun node identity he => absurd he (hn node identity)⟩

/-- A program of operations of a stretch adds nothing. -/
theorem Gathers.of_all {α : Type} (hC : Protocol C) {p : Controlled α} (hp : p.All (Stretch U)) :
    Gathers C U p fun _ _ => True where
  persistent := fun _ _ _ _ => trivial
  triple s₀ log T hU hT := by
    induction p with
    | done a =>
      refine Triple.done (Since.stable (hT.and fun _ _ => ⟨fun _ => trivial, fun _ _ _ => trivial⟩))
        ?_
      rintro x - ⟨t, hlog, hq, ht⟩
      exact ⟨t, hlog, hq, ht, trivial⟩
    | ask o k ih =>
      have hask := (Gathers.perform (D := fun _ _ => True) hC hp.1 (fun _ _ _ _ => trivial)
        fun _ _ => trivial).triple s₀ log T hU hT
      refine hask.bind (f := k) fun a => ?_
      refine (ih a (hp.2 a)).strengthen ?_
      rintro x - ⟨t, hlog, hq, ht, -⟩
      exact ⟨t, hlog, hq, ht⟩

theorem all_call (node : Bytes)
    (hr : ∀ identity, request ≠ .unload identity) : (call node request).All (Stretch U) := by
  refine .bind (.perform (.of_outward rfl ?_)) fun _ => .perform (.of_outward rfl ?_)
  · rintro n identity ⟨⟩
    exact hr identity rfl
  · rintro n identity ⟨⟩

theorem all_eachStage {body : Stage → Controlled (Option Err)}
    (h : ∀ stage, (body stage).All (Stretch U)) (stages : List Stage) :
    (eachStage body stages).All (Stretch U) := by
  induction stages with
  | nil => exact trivial
  | cons stage stages ih =>
    refine .bind (h stage) fun r => ?_
    cases r with
    | some e => exact trivial
    | none => exact ih

theorem all_withMember (members : List Member) (stage : Stage)
    {body : Member → Controlled (Option Err)} (h : ∀ m, (body m).All (Stretch U)) :
    (withMember members stage body).All (Stretch U) := by
  unfold withMember
  split
  · exact trivial
  · exact h _

theorem all_checkedCall (what : String) (plan : DeploymentPlan) (stage : Stage)
    (state : Bytes) (active : Bool)
    (hr : ∀ identity, request ≠ .unload identity) :
    (checkedCall what plan stage request state active).All (Stretch U) := by
  refine .bind (all_call _ hr) fun r => ?_
  cases r with
  | error e => exact trivial
  | ok status => exact trivial

theorem all_loadStage (plan : DeploymentPlan) (model : ModelProfile) (member : Member)
    (stage : Stage) (spec : DeploymentSpec) :
    (loadStage plan model member stage spec).All (Stretch U) :=
  all_checkedCall _ _ _ _ _ fun _ h => by cases h

theorem all_activateStage (plan : DeploymentPlan) (stage : Stage) :
    (activateStage plan stage).All (Stretch U) :=
  all_checkedCall _ _ _ _ _ fun _ h => by cases h

theorem all_repairStage (plan : DeploymentPlan) (model : ModelProfile) (member : Member)
    (stage : Stage) (spec : DeploymentSpec) (status : RuntimeStatus) :
    (repairStage plan model member stage spec status).All (Stretch U) := by
  unfold repairStage
  split
  · split
    · exact all_activateStage plan stage
    · exact trivial
  · refine .bind (all_loadStage plan model member stage spec) fun r => ?_
    cases r with
    | some e => exact trivial
    | none => exact all_activateStage plan stage

theorem all_repairActivePlan (plan : DeploymentPlan) (model : ModelProfile)
    (members : List Member) (spec : DeploymentSpec) :
    (repairActivePlan plan model members spec).All (Stretch U) := by
  refine all_eachStage (fun stage => all_withMember members stage fun member => ?_) plan.stages
  refine .bind (all_call _ fun _ h => by cases h) fun r => ?_
  cases r with
  | error e => exact trivial
  | ok status =>
    dsimp only
    split
    · exact trivial
    · exact all_repairStage plan model member stage spec status

theorem all_activeRuntimePlanHealthy (plan : DeploymentPlan) (stages : List Stage) :
    (activeRuntimePlanHealthy plan stages).All (Stretch U) := by
  induction stages with
  | nil => exact trivial
  | cons stage stages ih =>
    refine .bind (all_call _ fun _ h => by cases h) fun r => ?_
    cases r with
    | error e => exact trivial
    | ok status =>
      dsimp only
      split
      · exact trivial
      · exact ih

theorem all_read {o : ControllerOp} (h : o.outward)
    (hn : ∀ node identity, o ≠ .send node (.unload identity)) :
    (operation o).All (Stretch U) :=
  .perform (.of_outward h hn)

theorem all_members (c : DeploymentController) : c.members.All (Stretch U) := by
  unfold DeploymentController.members
  split
  · exact all_read rfl fun _ _ h => by cases h
  · exact trivial

theorem all_previousHealthy (c : DeploymentController) (previous : Option DeploymentPlan) :
    (c.previousHealthy previous).All (Stretch U) := by
  cases previous with
  | none => exact trivial
  | some plan =>
    refine .bind (all_members c) fun _ => .bind (all_read rfl fun _ _ h => by cases h) fun _ => ?_
    exact trivial

theorem all_activeHealthy (c : DeploymentController) (active : Option DeploymentPlan) :
    (c.activeHealthy active).All (Stretch U) := by
  cases active with
  | none => exact trivial
  | some plan =>
    refine .bind (all_members c) fun _ => .bind (all_read rfl fun _ _ h => by cases h) fun _ => ?_
    split
    · exact all_activeRuntimePlanHealthy plan plan.stages
    · exact trivial

theorem all_buildDeployment (c : DeploymentController) (spec : DeploymentSpec) :
    (c.buildDeployment spec).All (Stretch U) := by
  unfold buildDeployment
  split
  · exact trivial
  split
  · exact trivial
  refine .bind (all_read rfl fun _ _ h => by cases h) fun snapshot => ?_
  refine .bind ?_ fun id => ?_
  · unfold deploymentIdFor
    split
    · exact .bind (all_read rfl fun _ _ h => by cases h) fun _ => trivial
    · exact trivial
  refine .bind (all_read rfl fun _ _ h => by cases h) fun members => ?_
  refine .bind (all_read rfl fun _ _ h => by cases h) fun now => ?_
  exact .bind (all_read rfl fun _ _ h => by cases h) fun wallClock => trivial

theorem all_probeDirectRuntimeEndpoints (c : DeploymentController) (plan : DeploymentPlan) :
    (c.probeDirectRuntimeEndpoints plan).All (Stretch U) := by
  unfold probeDirectRuntimeEndpoints
  split
  · exact trivial
  refine all_eachStage (fun stage => ?_) plan.stages
  unfold probeStage
  split
  · exact trivial
  dsimp only
  split
  · exact trivial
  · exact .bind (all_read rfl fun _ _ h => by cases h) fun _ => trivial

/-! ## Preparing a plan -/

theorem eachStage_gathers {body : Stage → Controlled (Option Err)}
    {D : Stage → List CoordinatorEvent → Prop} (hp : ∀ stage, Persistent (D stage))
    (h : ∀ stage, Gathers C U (body stage) fun r t => r = none → D stage t)
    (stages : List Stage) :
    Gathers C U (eachStage body stages) fun r t => r = none → ∀ stage ∈ stages, D stage t := by
  induction stages with
  | nil => exact .done (fun _ => (Persistent.all hp).imp) fun t _ stage hs => by cases hs
  | cons stage stages ih =>
    refine (h stage).bind
      (fun a => (?_ : Gathers C U _ fun r t => r = none →
        a = none ∧ ∀ stage ∈ stages, D stage t)) ?_ fun r => (Persistent.all hp).imp
    · have hpers : ∀ r : Option Err, Persistent fun t =>
          r = none → a = none ∧ ∀ stage ∈ stages, D stage t :=
        fun r t u ht hr => ⟨(ht hr).1, Persistent.all hp t u (ht hr).2⟩
      cases a with
      | some e => exact .done hpers fun t h => by cases h
      | none => exact ih.weaken (fun r t ht hr => ⟨rfl, ht hr⟩) hpers
    · intro a r t hfirst hrest hr
      obtain ⟨ha, hall⟩ := hrest hr
      intro s hs
      rcases List.mem_cons.mp hs with rfl | hs
      · exact hfirst ha
      · exact hall s hs

theorem withMember_gathers (members : List Member) (stage : Stage)
    {body : Member → Controlled (Option Err)} {T : List CoordinatorEvent → Prop}
    (hp : Persistent T) (h : ∀ m, Gathers C U (body m) fun r t => r = none → T t) :
    Gathers C U (withMember members stage body) fun r t => r = none → T t := by
  unfold withMember
  split
  · exact .done (fun _ => hp.imp) fun t h => by cases h
  · exact h _

theorem persistent_ready (plan : DeploymentPlan) (stage : Stage) : Persistent fun t =>
    ∃ request, Confirmed plan stage (.load request) (str "ready") false t := by
  rintro t u ⟨request, h⟩
  exact ⟨request, persistent_confirmed _ _ _ _ _ t u h⟩

section

variable (hC : Protocol C)
include hC

theorem checkedCall_gathers (what : String) (plan : DeploymentPlan) (stage : Stage)
    (state : Bytes) (active : Bool)
    (hr : ∀ identity, request ≠ .unload identity) :
    Gathers C U (checkedCall what plan stage request state active) fun r t =>
      r = none → Confirmed plan stage request state active t := by
  refine (Gathers.call hC stage.apiUrl fun i h => absurd h (hr i)).bind
    (fun a => (?_ : Gathers C U _ fun r _ => r = none → ∃ status, a = .ok status ∧
      validateRuntimeStatus status plan stage state active = none)) ?_
    fun r => (persistent_confirmed plan stage request state active).imp
  · cases a with
    | error e => exact .done (fun _ _ _ h => h) fun t h => by cases h
    | ok status =>
      refine .done (fun _ _ _ h => h) fun t h => ⟨status, rfl, Option.map_eq_none_iff.mp h⟩
  · intro a r t hcall hval hnone
    obtain ⟨status, rfl, hv⟩ := hval hnone
    exact ⟨status, hcall.2, hv⟩

theorem loadPlan_gathers (plan : DeploymentPlan) (model : ModelProfile) (members : List Member)
    (spec : DeploymentSpec) :
    Gathers C U (loadPlan plan model members spec) fun r t => r = none → AllReady plan t := by
  refine eachStage_gathers (persistent_ready plan) (fun stage => ?_) plan.stages
  refine withMember_gathers members stage (persistent_ready plan stage) fun member => ?_
  refine (checkedCall_gathers hC _ plan stage (str "ready") false fun _ h => by cases h).weaken
    (fun r t ht hr => ⟨_, ht hr⟩) fun r => (persistent_ready plan stage).imp

theorem activatePlan_gathers (plan : DeploymentPlan) :
    Gathers C U (activatePlan plan) fun r t => r = none → AllActive plan t :=
  eachStage_gathers (fun stage => persistent_confirmed _ _ _ _ _)
    (fun stage => checkedCall_gathers hC _ plan stage _ _ fun _ h => by cases h) plan.stages

/-- A plan is prepared when every stage acknowledged ready and then active. -/
theorem preparePlan_gathers (c : DeploymentController) (build : DeploymentBuild)
    (spec : DeploymentSpec) :
    Gathers C U (c.preparePlan build spec) fun r t => r = none →
      ∃ ready active, t = ready ++ active ∧ AllReady build.result.plan ready ∧
        AllActive build.result.plan active := by
  have hactive : Persistent (AllActive build.result.plan) :=
    Persistent.all fun _ => persistent_confirmed _ _ _ _ _
  refine Gathers.weaken (D := fun r t => ∃ (a : Option Err) (t₁ t₂ : List CoordinatorEvent),
      t = t₁ ++ t₂ ∧ (a = none → AllReady build.result.plan t₁) ∧
      (r = none → a = none ∧ AllActive build.result.plan t₂)) ?_ ?_ ?_
  · refine (loadPlan_gathers hC _ _ _ _).seq
      fun a => (?_ : Gathers C U _ fun r t => r = none → a = none ∧ AllActive _ t)
    have hpers : ∀ r : Option Err, Persistent fun t =>
        r = none → a = none ∧ AllActive build.result.plan t :=
      fun r t u ht hr => ⟨(ht hr).1, hactive t u (ht hr).2⟩
    cases a with
    | some e => exact .done hpers fun t h => by cases h
    | none =>
      refine (Gathers.of_all hC (all_probeDirectRuntimeEndpoints c _)).bind
        (fun a => (?_ : Gathers C U _ fun r t => r = none → AllActive build.result.plan t))
        (fun a r t _ h hr => ⟨rfl, h hr⟩) hpers
      cases a with
      | some e => exact .done (fun _ => hactive.imp) fun t h => by cases h
      | none =>
        refine (activatePlan_gathers hC _).bind
          (fun a => (?_ : Gathers C U _ fun r _ => r = none → a = none))
          (fun a r t h ha hr => h (ha hr)) fun _ => hactive.imp
        cases a with
        | some e => exact .done (fun _ _ _ h => h) fun t h => by cases h
        | none => exact .done (fun _ _ _ h => h) fun t _ => rfl
  · rintro r t ⟨a, ready, active, rfl, hready, hrest⟩ hr
    obtain ⟨ha, hact⟩ := hrest hr
    exact ⟨ready, active, rfl, hready ha, hact⟩
  · intro r t u ht hr
    obtain ⟨ready, active, rfl, hready, hact⟩ := ht hr
    exact ⟨ready, active ++ u, List.append_assoc _ _ _, hready, hactive active u hact⟩

/-! ## Cleaning up a plan -/

theorem failuresOf_gathers (hr : ∀ identity, request = .unload identity → U identity)
    (check : Stage → RuntimeStatus → Option Bytes) (stages : List Stage) :
    Gathers C U (failuresOf request check stages) fun failures =>
      Sent stages request (failures = []) := by
  induction stages with
  | nil => exact .done (fun _ => Sent.persistent _ _ _) fun t stage hs => by cases hs
  | cons stage stages ih =>
    refine (Gathers.call hC stage.apiUrl hr).bind
      (fun a => (?_ : Gathers C U _ fun failures t => Sent stages request (failures = []) t ∧
        (failures = [] → ∃ status, a = .ok status))) ?_ fun _ => Sent.persistent _ _ _
    · have hpers : ∀ failures : List Bytes, Persistent fun t =>
          Sent stages request (failures = []) t ∧ (failures = [] → ∃ status, a = .ok status) :=
        fun failures t u ht => ⟨Sent.persistent _ _ _ t u ht.1, ht.2⟩
      refine ih.bind (fun fs => (?_ : Gathers C U _ fun failures _ =>
        failures = [] → fs = [] ∧ ∃ status, a = .ok status)) ?_ hpers
      · cases a with
        | error e => exact .done (fun _ _ _ h => h) fun t h => by cases h
        | ok status =>
          exact .done (fun _ _ _ h => h) fun t h => ⟨(List.append_eq_nil_iff.mp h).2, status, rfl⟩
      · intro fs failures t hsent hnil
        exact ⟨hsent.imp fun h => (hnil h).1, fun h => (hnil h).2⟩
    · rintro a failures t hcall ⟨hrest, hok⟩ s hs
      rcases List.mem_cons.mp hs with rfl | hs
      · refine ⟨hcall.1, fun h => ?_⟩
        obtain ⟨status, rfl⟩ := hok h
        exact ⟨status, hcall.2⟩
      · exact hrest s hs

omit hC in
theorem joinedFailures_gathers {p : Controlled (List Bytes)} {stages : List Stage}
    (h : Gathers C U p fun failures => Sent stages request (failures = [])) :
    Gathers C U (p.bind fun failures => .done (joinedFailures failures)) fun r =>
      Sent stages request (r = none) := by
  refine h.bind (fun fs => (?_ : Gathers C U _ fun r _ => r = none → fs = []))
    (fun fs r t hsent hnil => hsent.imp hnil) fun _ => Sent.persistent _ _ _
  refine .done (fun _ _ _ h => h) fun t hnone => ?_
  unfold joinedFailures at hnone
  split at hnone
  · assumption
  · cases hnone

theorem drainPlan_gathers (plan : DeploymentPlan) :
    Gathers C U (drainPlan plan) fun r =>
      Sent plan.stages (.drain (runtimeDeploymentIdentity plan)) (r = none) :=
  joinedFailures_gathers (failuresOf_gathers hC (fun _ h => by cases h) _ plan.stages)

theorem unloadPlan_gathers (hU : U (runtimeDeploymentIdentity plan)) :
    Gathers C U (unloadPlan plan) fun r =>
      Sent plan.stages (.unload (runtimeDeploymentIdentity plan)) (r = none) := by
  refine joinedFailures_gathers (failuresOf_gathers hC ?_ _ plan.stages)
  rintro identity ⟨⟩
  exact hU

/-- A cleanup sends every stage a drain and then an unload. -/
theorem cleanupPlan_gathers (hU : U (runtimeDeploymentIdentity plan)) :
    Gathers C U (cleanupPlan plan) fun r => CleanedUp plan (r = none) := by
  refine ((drainPlan_gathers hC plan).seq fun d => (?_ : Gathers C U _ fun r t =>
    Sent plan.stages (.unload (runtimeDeploymentIdentity plan)) (r = none) t ∧
      (r = none → d = none))).weaken ?_ fun _ => persistent_cleanedUp plan _
  · refine (unloadPlan_gathers hC hU).bind
      (fun u => (?_ : Gathers C U _ fun r _ => r = none → u = none ∧ d = none))
      (fun u r t hsent hnone => ⟨hsent.imp fun h => (hnone h).1, fun h => (hnone h).2⟩)
      fun _ t u ht => ⟨Sent.persistent _ _ _ t u ht.1, ht.2⟩
    cases d with
    | some d => cases u <;> exact .done (fun _ _ _ h => h) fun _ h => by cases h
    | none => exact .done (fun _ _ _ h => h) fun _ h => ⟨h, rfl⟩
  · rintro r t ⟨d, t₁, t₂, rfl, h₁, h₂, hd⟩
    exact ⟨t₁, t₂, rfl, h₁.imp hd, h₂⟩

end

end JetsonFabric
