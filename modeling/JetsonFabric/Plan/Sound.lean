import JetsonFabric.Plan.Groups
import JetsonFabric.Plan.Routes

/-!
# Sound plans

A plan that the builder returns covers the layers of its model, and every stage is on a member of the
request that may host it.

* **`buildDeploymentPlan_sound`**: the plans of the builder.
-/

namespace JetsonFabric

variable {P : Platform} {wallClock : Time} {model : ModelProfile} {members : List Member}
  {now : Time} {staleAfter : Int}

/-! ## Candidates -/

/-- The members that meet the memory and compute requirement of a model. -/
def eligibleMembers (model : ModelProfile) (members : List Member) : List Member :=
  members.filter fun member => memoryOk model member && computeOk model member

theorem placementForMember_nodeId (member : Member) :
    (P.placementForMember model member).nodeId = member.nodeId := by
  unfold Platform.placementForMember
  cases P.runtimeAssignment member <;> rfl

theorem placementForMember_apiUrl (member : Member) :
    (P.placementForMember model member).apiUrl = member.apiUrl := by
  unfold Platform.placementForMember
  cases P.runtimeAssignment member <;> rfl

theorem placementForMember_valid (member : Member) :
    (P.placementForMember model member).valid =
      (memoryOk model member && computeOk model member) := by
  unfold Platform.placementForMember
  cases P.runtimeAssignment member <;> rfl

theorem placementForMember_assigned (member : Member) :
    (P.placementForMember model member).runtimeStageAssigned =
      (P.runtimeAssignment member).isSome := by
  unfold Platform.placementForMember
  cases P.runtimeAssignment member <;> rfl

variable (P model members now staleAfter) in
/-- The placements of the fresh members that are eligible. -/
def Platform.eligiblePlacements : List Placement :=
  (eligibleMembers model (freshMembers members now staleAfter)).map (P.placementForMember model)

theorem candidatePlacements_eq :
    (P.candidatePlacements model members now staleAfter).2 =
      P.sort.run placementLess (P.eligiblePlacements model members now staleAfter) := by
  have hvalid : ((fun placement : Placement => placement.valid) ∘ P.placementForMember model) =
      fun member => memoryOk model member && computeOk model member :=
    funext placementForMember_valid
  simp only [Platform.candidatePlacements, Platform.eligiblePlacements, eligibleMembers,
    List.filter_map, hvalid]

/-! ## Plans -/

theorem validatePlanStages_cons {count : Nat} {layerCount : Int} {seen : List Bytes}
    {index start : Int} {stage : Stage} {stages : List Stage} :
    validatePlanStages count layerCount seen index start (stage :: stages) = none ↔
      ¬ (stage.stageIndex ≠ index ∨ stage.stageCount ≠ count) ∧ ¬ trimSpace stage.nodeId = [] ∧
        ¬ trimSpace stage.nodeId ∈ seen ∧ ¬ stage.layerStart ≠ start ∧
        ¬ stage.layerEnd ≤ stage.layerStart ∧
        validatePlanStages count layerCount (trimSpace stage.nodeId :: seen) (index + 1)
          stage.layerEnd stages = none := by
  iterate 4 refine Checks.ite_some_eq_none.trans (and_congr_right fun _ => ?_)
  exact Checks.ite_some_eq_none

/-- The stages of a plan: numbered, a partition, and on nodes that differ. -/
theorem validatePlanStages_eq_none {count : Nat} {layerCount : Int} {seen : List Bytes}
    {index start : Int} {stages : List Stage} :
    validatePlanStages count layerCount seen index start stages = none ↔
      NumberedStages count index stages ∧ Partitions layerCount start stages ∧
        (∀ stage ∈ stages, trimSpace stage.nodeId ≠ [] ∧ trimSpace stage.nodeId ∉ seen) ∧
        (stages.map fun stage => trimSpace stage.nodeId).Nodup := by
  induction stages generalizing seen index start with
  | nil =>
    refine Checks.ite_some_eq_none.trans ?_
    simp [NumberedStages, Partitions]
  | cons stage stages ih =>
    simp only [validatePlanStages_cons, not_or, not_not, not_le, ih, NumberedStages, Partitions,
      List.forall_mem_cons, List.map_cons, List.nodup_cons, List.mem_map, not_exists, not_and]
    simp only [List.mem_cons, not_or]
    constructor
    · rintro ⟨⟨hindex, hcount⟩, hname, hseen, rfl, hlt, hnumbered, hparts, hfresh, hnodup⟩
      exact ⟨⟨hindex, hcount, hnumbered⟩, ⟨rfl, hlt, hparts⟩,
        ⟨⟨hname, hseen⟩, fun s hs => ⟨(hfresh s hs).1, (hfresh s hs).2.2⟩⟩,
        fun s hs => (hfresh s hs).2.1, hnodup⟩
    · rintro ⟨⟨hindex, hcount, hnumbered⟩, ⟨rfl, hlt, hparts⟩, ⟨⟨hname, hseen⟩, hfresh⟩, hnot,
        hnodup⟩
      exact ⟨⟨hindex, hcount⟩, hname, hseen, rfl, hlt, hnumbered, hparts,
        fun s hs => ⟨(hfresh s hs).1, hnot s hs, (hfresh s hs).2⟩, hnodup⟩

theorem previewPipeline_stages (req : PlanRequest) :
    (P.previewPipeline wallClock req).stages = (P.preview wallClock req).stages := by
  simp only [Platform.previewPipeline]
  split_ifs <;> rfl

theorem previewPipeline_valid (req : PlanRequest) :
    (P.previewPipeline wallClock req).valid = (P.preview wallClock req).valid := by
  simp only [Platform.previewPipeline]
  split_ifs <;> rfl

/-- The request that the builder plans a group with. -/
def groupRequest (wallClock : Time) (req : DeploymentBuildRequest) (group : CompatibilityGroup) :
    PlanRequest where
  model := Platform.deployedModel req.model
  members := group.members
  now := planningTime wallClock req.now
  staleAfter := req.staleAfter
  policy := req.policy

theorem previewPipeline_mode {req : PlanRequest}
    (hvalid : (P.preview wallClock req).valid = true)
    (hmode : supportsMode req.model executionModePipelineParallel = true) :
    (P.previewPipeline wallClock req).mode = executionModePipelineParallel ∧
      1 ≤ (P.previewPipeline wallClock req).stageCount := by
  obtain ⟨chosen, hplanned, hroute⟩ := preview_valid_iff.1 hvalid
  have hends : EndsWith req.policy req.model.layerCount chosen (P.preview wallClock req) := by
    have hends := preview_ends P wallClock req
    rwa [hplanned] at hends
  have hsome := (validateStagePlan_eq_none.1 (routeError_eq_none.1 hroute).1).2.1
  have hlength : (P.preview wallClock req).stages.length = chosen.1.length := by
    rw [hends.stages, routeStages_length hsome]
  have hpos : 1 ≤ (P.preview wallClock req).stageCount := by
    rw [hends.stageCount, hends.stages]
    exact_mod_cast List.length_pos_of_ne_nil hsome
  simp only [Platform.previewPipeline, hvalid, hmode, not_true_eq_false, false_or, if_false]
  split_ifs with hother
  · refine ⟨hends.mode.resolve_right fun hone => ?_, hpos⟩
    rw [hends.stageCount, hlength, hone] at hother
    simp at hother
  · exact ⟨rfl, hpos⟩

/-- What a build that returned a plan went through. -/
structure Built (P : Platform) (wallClock : Time) (req : DeploymentBuildRequest)
    (result : DeploymentBuildResult) (engine : Bytes) (group : CompatibilityGroup)
    (chosen : List Placement × List Int) : Prop where
  selectsEngine : P.deploymentEngine (Platform.deployedModel req.model) = .ok engine
  selectsGroup : P.compatibleDeploymentMembers (Platform.deployedModel req.model) engine req.members
    (planningTime wallClock req.now) req.staleAfter (requiredDeploymentStages req.policy) =
      .ok group
  planned : P.planned wallClock (groupRequest wallClock req group) = .ok chosen
  route : routeError req.policy req.model.layerCount chosen = none
  stages : result.plan.stages = routeStages req.model.layerCount chosen

theorem built_of_eq_ok {req : DeploymentBuildRequest} {result : DeploymentBuildResult}
    (h : P.buildDeploymentPlan wallClock req = .ok result) :
    ∃ engine group chosen, Built P wallClock req result engine group chosen := by
  obtain ⟨engine, now, group, hselect, hpreview, hvalid, -, -, hplan, -⟩ :=
    buildDeploymentPlan_eq_ok.1 h
  obtain ⟨hengine, rfl, hgroup⟩ := selectMembers_eq_ok.1 hselect
  obtain ⟨-, -, hstages⟩ := newDeploymentPlan_eq_ok.1 hplan
  have hpreview : result.preview =
      P.previewPipeline wallClock (groupRequest wallClock req group) := hpreview
  rw [hpreview, previewPipeline_valid] at hvalid
  obtain ⟨chosen, hplanned, hroute⟩ := preview_valid_iff.1 hvalid
  refine ⟨engine, group, chosen, hengine, hgroup, hplanned, hroute, ?_⟩
  rw [hstages]
  show result.preview.stages = _
  rw [hpreview, previewPipeline_stages, preview_stages hplanned]
  rfl

theorem supportsMode_of_deploymentEngine {engine : Bytes}
    (h : P.deploymentEngine model = .ok engine) :
    supportsMode model executionModePipelineParallel = true := by
  unfold Platform.deploymentEngine at h
  cases hvalid : Platform.validateDeployedModel model with
  | some e =>
    simp only [hvalid] at h
    cases h
  | none =>
    unfold Platform.validateDeployedModel at hvalid
    split_ifs at hvalid with _ _ _ hmode
    exact hmode

/-- A build succeeds with a valid route and a valid plan. -/
theorem buildDeploymentPlan_of_preview {req : DeploymentBuildRequest} {engine : Bytes}
    {group : CompatibilityGroup} {plan : DeploymentPlan}
    (hengine : P.deploymentEngine (Platform.deployedModel req.model) = .ok engine)
    (hgroup : P.compatibleDeploymentMembers (Platform.deployedModel req.model) engine req.members
      (planningTime wallClock req.now) req.staleAfter (requiredDeploymentStages req.policy) =
        .ok group)
    (hvalid : (P.preview wallClock (groupRequest wallClock req group)).valid = true)
    (hplan : newDeploymentPlan (Platform.deploymentPlanSpec req.identity
      (Platform.deployedModel req.model) engine group
      (P.preview wallClock (groupRequest wallClock req group))) = .ok plan) :
    ∃ result, P.buildDeploymentPlan wallClock req = .ok result ∧ result.plan = plan := by
  have hmode := previewPipeline_mode hvalid (supportsMode_of_deploymentEngine hengine)
  refine ⟨⟨plan, P.previewPipeline wallClock (groupRequest wallClock req group),
    group.compatibility⟩, buildDeploymentPlan_eq_ok.2 ⟨engine, _, group,
      selectMembers_eq_ok.2 ⟨hengine, rfl, hgroup⟩, rfl, ?_, hmode.1, hmode.2, ?_, rfl⟩, rfl⟩
  · rw [previewPipeline_valid, hvalid]
  · rw [newDeploymentPlan_eq_ok] at hplan ⊢
    exact ⟨hplan.1, hplan.2.1, hplan.2.2.trans (previewPipeline_stages _).symm⟩

variable {req : DeploymentBuildRequest} {result : DeploymentBuildResult} {engine : Bytes}
  {group : CompatibilityGroup} {chosen : List Placement × List Int}

/-- The candidates of a selected group are its eligible members, sorted. -/
theorem eligible_group
    (h : P.compatibleDeploymentMembers (Platform.deployedModel req.model) engine req.members
      (planningTime wallClock req.now) req.staleAfter (requiredDeploymentStages req.policy) =
        .ok group) :
    P.eligible wallClock (groupRequest wallClock req group) =
      P.sort.run placementLess
        ((eligibleMembers req.model group.members).map (P.placementForMember req.model)) := by
  obtain ⟨key, hgroup⟩ := isGroup_of_compatibleDeploymentMembers h
  have hfresh : freshMembers group.members (planningTime wallClock req.now) req.staleAfter =
      group.members := freshMembers_of_fresh fun m hm => (hgroup.facts_of_mem hm).1
  unfold Platform.eligible groupRequest
  simp only [planningTime_idem]
  rw [candidatePlacements_eq, Platform.eligiblePlacements, hfresh]
  rfl

theorem eligible_group_perm
    (h : P.compatibleDeploymentMembers (Platform.deployedModel req.model) engine req.members
      (planningTime wallClock req.now) req.staleAfter (requiredDeploymentStages req.policy) =
        .ok group) :
    (P.eligible wallClock (groupRequest wallClock req group)).Perm
      ((eligibleMembers req.model group.members).map (P.placementForMember req.model)) := by
  rw [eligible_group h]
  exact P.sort.perm _ _

namespace Built

theorem branch (h : Built P wallClock req result engine group chosen) :
    Chosen (P.eligible wallClock (groupRequest wallClock req group))
      (Platform.deployedModel req.model) req.policy chosen :=
  chosen_of_eq_ok (planned_eq_ok.1 h.planned).2

theorem mem_group (h : Built P wallClock req result engine group chosen) {m : Member}
    (hm : m ∈ group.members) :
    ∃ member ∈ req.members, member.valid = true ∧
      member.isStale (planningTime wallClock req.now) req.staleAfter = false ∧
      m = member.normalize := by
  obtain ⟨key, hgroup⟩ := isGroup_of_compatibleDeploymentMembers h.selectsGroup
  exact mem_freshMembers.1 (hgroup.facts_of_mem hm).1

theorem eligible_perm (h : Built P wallClock req result engine group chosen) :
    (P.eligible wallClock (groupRequest wallClock req group)).Perm
      ((eligibleMembers req.model group.members).map (P.placementForMember req.model)) :=
  eligible_group_perm h.selectsGroup

theorem stages_ne_nil (h : Built P wallClock req result engine group chosen) :
    routeStages req.model.layerCount chosen ≠ [] :=
  (validateStagePlan_eq_none.1 (routeError_eq_none.1 h.route).1).2.1

theorem layerCount_pos (h : Built P wallClock req result engine group chosen) :
    0 < req.model.layerCount :=
  (validateStagePlan_eq_none.1 (routeError_eq_none.1 h.route).1).1

theorem length_stages (h : Built P wallClock req result engine group chosen) :
    result.plan.stages.length = chosen.1.length := by
  rw [h.stages, routeStages_length h.stages_ne_nil]

theorem member_of_stage (h : Built P wallClock req result engine group chosen) {stage : Stage}
    (hstage : stage ∈ result.plan.stages) :
    ∃ member ∈ req.members, member.valid = true ∧
      member.isStale (planningTime wallClock req.now) req.staleAfter = false ∧
      memoryOk req.model member = true ∧ computeOk req.model member = true ∧
      stage.nodeId = trimSpace member.nodeId ∧ stage.apiUrl = trimSpace member.apiUrl := by
  rw [h.stages] at hstage
  obtain ⟨placement, hplacement, index, range, rfl⟩ := mem_routeStages hstage
  have hcandidate := h.branch.subset placement hplacement
  rw [h.eligible_perm.mem_iff, List.mem_map] at hcandidate
  obtain ⟨m, hm, rfl⟩ := hcandidate
  simp only [eligibleMembers, List.mem_filter, Bool.and_eq_true] at hm
  obtain ⟨hmem, hmemory, hcompute⟩ := hm
  obtain ⟨member, hmember, hvalid, hstale, rfl⟩ := h.mem_group hmem
  exact ⟨member, hmember, hvalid, hstale, hmemory, hcompute, placementForMember_nodeId _,
    placementForMember_apiUrl _⟩

/-- The width that is left to the planner. -/
theorem automatic_width (h : Built P wallClock req result engine group chosen)
    (hcount : req.policy.stageCount = 0) (hcounts : req.policy.stageLayerCounts = [])
    (hunassigned : ∀ member ∈ eligibleMembers req.model group.members,
      P.runtimeAssignment member = none) :
    (result.plan.stages.length : Int) =
      min ((eligibleMembers req.model group.members).length : Int) req.model.layerCount := by
  have hassigned : hasRuntimeAssignments
      (P.eligible wallClock (groupRequest wallClock req group)) = false := by
    rw [hasRuntimeAssignments, List.any_eq_false]
    intro placement hplacement
    rw [h.eligible_perm.mem_iff, List.mem_map] at hplacement
    obtain ⟨member, hmember, rfl⟩ := hplacement
    simp [placementForMember_assigned, hunassigned member hmember]
  have hlength : (P.eligible wallClock (groupRequest wallClock req group)).length =
      (eligibleMembers req.model group.members).length := by
    rw [h.eligible_perm.length_eq, List.length_map]
  have hrequested : requestedStages req.policy
      (P.eligible wallClock (groupRequest wallClock req group)) req.model.layerCount =
        min ((eligibleMembers req.model group.members).length : Int) req.model.layerCount := by
    simp [requestedStages, policyStageCount, hcount, hcounts, hlength]
  have hpos := h.layerCount_pos
  rw [h.length_stages]
  cases h.branch with
  | advertised hfound =>
    rw [advertisedPipeline_of_unassigned hassigned] at hfound
    cases hfound
  | replica _ hsome =>
    rw [hassigned] at hsome
    cases hsome
  | single hfirst _ _ hsingle =>
    have hone : 0 < (eligibleMembers req.model group.members).length := by
      rw [← hlength]
      exact List.length_pos_of_mem (List.mem_of_head? hfirst)
    have hmode := supportsMode_of_deploymentEngine h.selectsEngine
    have hsingle := hsingle.resolve_left (not_not.2 hmode)
    rw [hlength] at hsingle
    rw [show (Platform.deployedModel req.model).layerCount = req.model.layerCount from rfl,
      hrequested] at hsingle
    rw [List.length_singleton]
    omega
  | spread _ _ _ htwo _ hle =>
    rw [spreadPlacements_length hle (zero_le_two.trans htwo)]
    exact hrequested

end Built

theorem DeploymentPlan.nodup_nodes (plan : DeploymentPlan) :
    (plan.stages.map (·.nodeId)).Nodup := by
  have hmodel := (validateDeploymentPlan_eq_none.1 plan.valid).2.2
  simp only [validatePlanModel, Checks.ite_some_eq_none] at hmodel
  -- the check of a plan compares the node ids without white space
  refine List.Nodup.of_map trimSpace ?_
  rw [List.map_map]
  exact (validatePlanStages_eq_none.1 hmodel.2.2.2.2.2.2.2.2.2.2).2.2.2

/-- **Sound plans**: numbered stages partition the layers over eligible members of their own. -/
theorem buildDeploymentPlan_sound (h : P.buildDeploymentPlan wallClock req = .ok result) :
    Partitions req.model.layerCount 0 result.plan.stages ∧
    NumberedStages result.plan.stages.length 0 result.plan.stages ∧
    (result.plan.stages.map (·.nodeId)).Nodup ∧
    (∀ stage ∈ result.plan.stages, ∃ member ∈ req.members, member.valid = true ∧
      member.isStale (planningTime wallClock req.now) req.staleAfter = false ∧
      memoryOk req.model member = true ∧ computeOk req.model member = true ∧
      stage.nodeId = trimSpace member.nodeId ∧ stage.apiUrl = trimSpace member.apiUrl) ∧
    ∃ engine group,
      P.selectMembers wallClock req = .ok (engine, planningTime wallClock req.now, group) ∧
      (req.policy.stageCount = 0 → req.policy.stageLayerCounts = [] →
        (∀ member ∈ eligibleMembers req.model group.members, P.runtimeAssignment member = none) →
        (result.plan.stages.length : Int) =
          min ((eligibleMembers req.model group.members).length : Int) req.model.layerCount) := by
  obtain ⟨engine, group, chosen, hbuilt⟩ := built_of_eq_ok h
  obtain ⟨-, -, -, hnumbered, hparts⟩ :=
    validateStagePlan_eq_none.1 (routeError_eq_none.1 hbuilt.route).1
  rw [← hbuilt.stages] at hnumbered hparts
  refine ⟨hparts, hnumbered, result.plan.nodup_nodes, fun stage => hbuilt.member_of_stage, engine,
    group, selectMembers_eq_ok.2 ⟨hbuilt.selectsEngine, rfl, hbuilt.selectsGroup⟩,
    hbuilt.automatic_width⟩

/-- A plan over two nodes. -/
theorem buildDeploymentPlan_sound_pair :
    ∃ result, samplePlatform.buildDeploymentPlan 0 (sampleRequest samplePair) = .ok result ∧
      Partitions 2 0 result.plan.stages ∧
      NumberedStages result.plan.stages.length 0 result.plan.stages ∧
      (result.plan.stages.map (·.nodeId)).Nodup := by
  obtain ⟨result, hresult⟩ := Checks.exists_of_toBool
    (show (samplePlatform.buildDeploymentPlan 0 (sampleRequest samplePair)).toBool = true by
      decide +kernel)
  obtain ⟨hparts, hnumbered, hnodup, -⟩ := buildDeploymentPlan_sound hresult
  exact ⟨result, hresult, hparts, hnumbered, hnodup⟩

end JetsonFabric
