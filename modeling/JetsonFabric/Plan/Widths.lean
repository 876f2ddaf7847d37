import JetsonFabric.Plan.Sound
import JetsonFabric.Plan.Spread

/-!
# The width of a route

A policy gives the number of stages, or the layers of each of them. The planner may still end with one
replica of the whole model, and an advertised pipeline keeps the ranges that it advertises.

* **`buildDeploymentPlan_width`**: when a plan has the stage count of its policy;
* **`preview_layerCounts`**: when a route has the layer counts of its policy;
* **`layerRanges_balanced`**: the widths of the ranges that the planner assigns itself.
-/

namespace JetsonFabric

variable {P : Platform} {wallClock : Time}

theorem advertisedPipeline_of_mode {candidates : List Placement} {model : ModelProfile}
    {policy : Policy} (hmode : supportsMode model executionModePipelineParallel = true) :
    advertisedPipeline candidates model policy =
      explicitPipelinePlacements candidates model.layerCount policy.stageCount := if_pos hmode

/-! ## Stage counts -/

/-- **A stage count** is kept exactly when it is one, advertised, or open to several members. -/
theorem buildDeploymentPlan_width {req : DeploymentBuildRequest} {result : DeploymentBuildResult}
    (h : P.buildDeploymentPlan wallClock req = .ok result) (hcount : 0 < req.policy.stageCount) :
    ∃ engine group,
      P.selectMembers wallClock req = .ok (engine, planningTime wallClock req.now, group) ∧
      ((result.plan.stages.length : Int) = req.policy.stageCount ↔
        req.policy.stageCount = 1 ∨
        (explicitPipelinePlacements (P.eligible wallClock (groupRequest wallClock req group))
          req.model.layerCount req.policy.stageCount).isSome = true ∨
        (Unassigned (P.eligible wallClock (groupRequest wallClock req group)) ∧
          (P.eligible wallClock (groupRequest wallClock req group)).length ≠ 1)) := by
  obtain ⟨engine, group, chosen, hbuilt⟩ := built_of_eq_ok h
  refine ⟨engine, group,
    selectMembers_eq_ok.2 ⟨hbuilt.selectsEngine, rfl, hbuilt.selectsGroup⟩, ?_⟩
  have hmode := supportsMode_of_deploymentEngine hbuilt.selectsEngine
  have hpolicy : policyStageCount req.policy = req.policy.stageCount := if_pos hcount.ne'
  have hrequested : ∀ candidates layerCount,
      requestedStages req.policy candidates layerCount = req.policy.stageCount := by
    intro candidates layerCount
    rw [requestedStages, hpolicy, if_neg hcount.ne']
  rw [hbuilt.length_stages, unassigned_iff]
  cases hbuilt.branch with
  | advertised hfound =>
    rw [advertisedPipeline_of_mode hmode] at hfound
    obtain ⟨stop, hchain, -⟩ := chain_of_explicitPipelinePlacements hfound
    exact iff_of_true (hchain.width hcount) (.inr (.inl (Option.isSome_of_eq_some hfound)))
  | replica hnone hassigned =>
    rw [advertisedPipeline_of_mode hmode] at hnone
    rw [show explicitPipelinePlacements _ req.model.layerCount req.policy.stageCount = none from
      hnone, hassigned]
    simp [eq_comm]
  | single _ hnone hassigned hsingle =>
    rw [advertisedPipeline_of_mode hmode] at hnone
    rw [show explicitPipelinePlacements _ req.model.layerCount req.policy.stageCount = none from
      hnone]
    rw [hrequested] at hsingle
    have hsingle := hsingle.resolve_left (not_not.2 hmode)
    simp only [List.length_singleton, Nat.cast_one, hassigned, true_and, Option.isSome_none,
      Bool.false_eq_true, false_or]
    omega
  | spread _ hassigned _ _ hmany hle =>
    rw [hrequested] at hle ⊢
    exact iff_of_true (spreadPlacements_length hle hcount.le) (.inr (.inr ⟨hassigned, hmany⟩))

/-- Two stages for two nodes. -/
def pairRequest : DeploymentBuildRequest := sampleRequest samplePair sampleModel { stageCount := 2 }

theorem buildDeploymentPlan_width_pair :
    ∃ result engine group,
      samplePlatform.buildDeploymentPlan 0 pairRequest = .ok result ∧
      samplePlatform.selectMembers 0 pairRequest = .ok (engine, 0, group) ∧
      ((result.plan.stages.length : Int) = 2 ↔ (2 : Int) = 1 ∨
        (explicitPipelinePlacements (samplePlatform.eligible 0 (groupRequest 0 pairRequest group))
          sampleModel.layerCount 2).isSome = true ∨
        (Unassigned (samplePlatform.eligible 0 (groupRequest 0 pairRequest group)) ∧
          (samplePlatform.eligible 0 (groupRequest 0 pairRequest group)).length ≠ 1)) := by
  obtain ⟨result, hresult⟩ := Checks.exists_of_toBool
    (show (samplePlatform.buildDeploymentPlan 0 pairRequest).toBool = true by decide)
  obtain ⟨engine, group, hselect, hwidth⟩ := buildDeploymentPlan_width hresult (by decide)
  exact ⟨result, engine, group, hresult, hselect, hwidth⟩

/-- **A stage count that is lost**: the model fits on one node. -/
theorem buildDeploymentPlan_loses_width :
    ((samplePlatform.buildDeploymentPlan 0
      (sampleRequest
        [sampleNode (str "a") (str "arm64"),
          sampleNode (str "b") (str "arm64") [(capabilityMemoryGb, .int 16)]]
        { sampleModel with minMemoryGb := .finite 8 } { stageCount := 2 })).toOption.map
          fun result => result.plan.stages.map (·.nodeId)) = some [str "b"] := by
  decide +kernel

/-! ## Layer counts -/

variable {counts : List Int} {layerCount : Int}

/-- The layers of a stage. -/
def Stage.layers (stage : Stage) : Int := stage.layerEnd - stage.layerStart

/-- The layers that a placement advertises. -/
def Placement.layers (placement : Placement) : Int :=
  placement.runtimeLayerEnd - placement.runtimeLayerStart

theorem configuredRangesFrom_layers {start stop : Int} (hstart : 0 ≤ start)
    (hlt : start < 2 ^ 63) (hint : ∀ count ∈ counts, IsInt64 count)
    (h : RangesPartition stop start (configuredRangesFrom start counts)) :
    (configuredRangesFrom start counts).map (fun range => range.stop - range.start) = counts := by
  induction counts generalizing start with
  | nil => rfl
  | cons count counts ih =>
    obtain ⟨⟨hlow, hhigh⟩, hrest⟩ := List.forall_mem_cons.1 hint
    simp only [configuredRangesFrom, RangesPartition, true_and] at h
    obtain ⟨hgrows, hparts⟩ := h
    have hsmall : start + count < 2 ^ 63 := by
      by_contra hlarge
      rw [wrap64, Int.bmod_def] at hgrows
      omega
    have hwrap : wrap64 (start + count) = start + count :=
      Int.bmod_eq_of_le (by omega) (by omega)
    rw [hwrap] at hgrows hparts
    simp only [configuredRangesFrom, List.map_cons, hwrap]
    rw [ih (by omega) (by omega) hrest hparts]
    simp

theorem planError_counts {model : ModelProfile} {policy : Policy} (h : planError model policy = none)
    (hcounts : policy.stageLayerCounts ≠ []) :
    policyStageCount policy = policy.stageLayerCounts.length ∧
      totalLayers 0 policy.stageLayerCounts = some model.layerCount := by
  unfold planError at h
  cases hplan : validatePlanningRequest model.layerCount (policyStageCount policy) with
  | some reason =>
    rw [hplan] at h
    cases h
  | none =>
    rw [hplan] at h
    simp only [validateStageLayerCounts, if_neg hcounts] at h
    split_ifs at h with hlength htotal
    exact ⟨not_not.1 hlength, htotal⟩

variable {req : PlanRequest} {candidates : List Placement} {model : ModelProfile} {policy : Policy}

theorem layers_of_single {chosen : List Placement × List Int}
    (hlength : chosen.1.length = 1) (h : validateStagePlan (routeStages layerCount chosen)
      layerCount = none) :
    (routeStages layerCount chosen).map Stage.layers = [layerCount] := by
  obtain ⟨-, hsome, -, -, hparts⟩ := validateStagePlan_eq_none.1 h
  have hone := routeStages_length hsome
  rw [hlength] at hone
  obtain ⟨stage, hstage⟩ := List.length_eq_one_iff.1 hone
  rw [hstage] at hparts ⊢
  obtain ⟨hstart, -, hend⟩ := hparts
  rw [List.map_singleton, Stage.layers, hstart, show stage.layerEnd = layerCount from hend, sub_zero]

theorem counts_of_single (hlength : counts.length = 1)
    (hint : ∀ count ∈ counts, IsInt64 count) (htotal : totalLayers 0 counts = some layerCount) :
    counts = [layerCount] := by
  obtain ⟨count, rfl⟩ := List.length_eq_one_iff.1 hlength
  obtain ⟨hlow, hhigh⟩ := hint count (List.mem_singleton.2 rfl)
  have hwrap : wrap64 (0 + count) = count := by
    rw [zero_add]
    exact Int.bmod_eq_of_le (by omega) (by omega)
  simp only [totalLayers, hwrap] at htotal
  split_ifs at htotal
  rw [Option.some.inj htotal]

theorem layers_of_advertised {found : List Placement}
    (hassigned : ∀ p ∈ found, p.runtimeStageAssigned = true)
    (hsome : routeStages layerCount (found, counts) ≠ []) :
    (routeStages layerCount (found, counts)).map Stage.layers = found.map Placement.layers :=
  routeStages_map_placements hsome fun p hp i range => by
    simp only [Stage.layers, stageAt, hassigned p hp, if_true, Placement.layers]

/-- Placements without assignments get the configured layers. -/
theorem layers_of_unassigned {placements : List Placement}
    (hunassigned : Unassigned placements) (hcounts : counts ≠ [])
    (hint : ∀ count ∈ counts, IsInt64 count)
    (h : validateStagePlan (routeStages layerCount (placements, counts)) layerCount = none) :
    (routeStages layerCount (placements, counts)).map Stage.layers = counts := by
  obtain ⟨-, hsome, -, -, hparts⟩ := validateStagePlan_eq_none.1 h
  have hlength := rangesFor_length hsome
  have hlayers : (routeStages layerCount (placements, counts)).map Stage.layers =
      (rangesFor (placements, counts) layerCount).map fun range => range.stop - range.start :=
    routeStages_map_ranges hsome fun p hp i range => by
      simp only [Stage.layers, stageAt, hunassigned p hp, Bool.false_eq_true, if_false]
  rw [routeStages_eq hlength, partitions_unassigned hunassigned hlength] at hparts
  rw [hlayers]
  have hranges : rangesFor (placements, counts) layerCount = configuredRangesFrom 0 counts := by
    have hne : rangesFor (placements, counts) layerCount ≠ [] := by
      refine List.ne_nil_of_length_pos ?_
      rw [hlength, ← routeStages_length hsome]
      exact List.length_pos_of_ne_nil hsome
    simp only [rangesFor, if_pos hcounts, assignConfiguredLayerRanges] at hne ⊢
    split_ifs at hne ⊢
    · exact absurd rfl hne
    · rfl
  rw [hranges] at hparts ⊢
  exact configuredRangesFrom_layers le_rfl (by decide) hint hparts

/-- **Layer counts** are kept exactly when advertised, single, or open to several members. -/
theorem preview_layerCounts (hvalid : (P.preview wallClock req).valid = true)
    (hcounts : req.policy.stageLayerCounts ≠ [])
    (hint : ∀ count ∈ req.policy.stageLayerCounts, IsInt64 count) :
    (P.preview wallClock req).stages.map Stage.layers = req.policy.stageLayerCounts ↔
      (∃ found, advertisedPipeline (P.eligible wallClock req) req.model req.policy = some found ∧
        found.map Placement.layers = req.policy.stageLayerCounts) ∨
      (advertisedPipeline (P.eligible wallClock req) req.model req.policy = none ∧
        (req.policy.stageLayerCounts.length = 1 ∨
          (Unassigned (P.eligible wallClock req) ∧
            supportsMode req.model executionModePipelineParallel = true ∧
            (P.eligible wallClock req).length ≠ 1))) := by
  obtain ⟨chosen, hplanned, hroute⟩ := preview_valid_iff.1 hvalid
  obtain ⟨hplan, hchosen⟩ := planned_eq_ok.1 hplanned
  obtain ⟨hlength, htotal⟩ := planError_counts hplan hcounts
  have hstages := (routeError_eq_none.1 hroute).1
  rw [preview_stages hplanned, unassigned_iff]
  have hrequested : requestedStages req.policy (P.eligible wallClock req) req.model.layerCount =
      req.policy.stageLayerCounts.length := by
    have hpos := List.length_pos_of_ne_nil hcounts
    rw [requestedStages, hlength, if_neg (by omega)]
  have hone : [req.model.layerCount] = req.policy.stageLayerCounts ↔
      req.policy.stageLayerCounts.length = 1 :=
    ⟨fun h => by rw [← h]; rfl, fun h => (counts_of_single h hint htotal).symm⟩
  cases chosen_of_eq_ok hchosen with
  | @advertised found hfound =>
    have hassigned : ∀ p ∈ found, p.runtimeStageAssigned = true := by
      have hexplicit := hfound
      unfold advertisedPipeline at hexplicit
      split_ifs at hexplicit
      obtain ⟨stop, hchain, -⟩ := chain_of_explicitPipelinePlacements hexplicit
      intro p hp
      obtain ⟨i, hi, rfl⟩ := List.getElem_of_mem hp
      exact (hchain.place i hi).1
    rw [layers_of_advertised hassigned (validateStagePlan_eq_none.1 hstages).2.1, hfound]
    simp
  | replica hnone hassigned =>
    rw [layers_of_single rfl hstages, hone, hnone, hassigned]
    simp
  | single _ hnone hassigned hsingle =>
    rw [layers_of_single rfl hstages, hone, hnone, hassigned]
    rw [hrequested] at hsingle
    have hpos := List.length_pos_of_ne_nil hcounts
    simp only [reduceCtorEq, false_and, exists_false, true_and, false_or]
    constructor
    · exact .inl
    · rintro (h | ⟨hmode, hmany⟩)
      · exact h
      · have := (hsingle.resolve_left (not_not.2 hmode)).resolve_right hmany
        omega
  | spread hnone hassigned hmode _ hmany =>
    refine iff_of_true ?_ (.inr ⟨hnone, .inr ⟨hassigned, hmode, hmany⟩⟩)
    exact layers_of_unassigned
      (fun p hp => unassigned_iff.2 hassigned p (spreadPlacements_subset hp)) hcounts hint hstages

/-- A place in a pipeline, as a runtime advertises it. -/
def sampleAssignment (index count start stop : Int) : List (Bytes × Capability) :=
  [(capabilityRuntimeStageIndex, .int index), (capabilityRuntimeStageCount, .int count),
    (capabilityRuntimeLayerStart, .int start), (capabilityRuntimeLayerEnd, .int stop)]

/-- Four layers in two equal parts over two nodes. -/
def evenRequest (a b : List (Bytes × Capability)) : PlanRequest where
  model := { sampleModel with layerCount := 4 }
  members := [sampleNode (str "a") (str "arm64") a, sampleNode (str "b") (str "arm64") b]
  now := 0
  staleAfter := 0
  policy := { stageLayerCounts := [2, 2] }

/-- Two equal parts over nodes that advertise nothing. -/
theorem preview_layerCounts_even :
    (samplePlatform.preview 0 (evenRequest [] [])).stages.map Stage.layers = [2, 2] :=
  (preview_layerCounts (P := samplePlatform) (by decide) (by decide)
    (by unfold IsInt64; decide)).2
    (.inr ⟨by decide, .inr (by unfold Unassigned; decide)⟩)

/-- **Layer counts that are overridden** by an advertised pipeline. -/
theorem preview_overrides_layerCounts :
    (samplePlatform.preview 0
      (evenRequest (sampleAssignment 0 2 0 1) (sampleAssignment 1 2 1 4))).valid = true ∧
    (samplePlatform.preview 0
      (evenRequest (sampleAssignment 0 2 0 1) (sampleAssignment 1 2 1 4))).stages.map
        Stage.layers = [1, 3] := by
  decide

/-! ## Assigned ranges -/

/-- The widths of ranges. -/
def rangeWidths (ranges : List LayerRange) : List Int :=
  ranges.map fun range => range.stop - range.start

theorem layerRangesFrom_widths (base remainder : Int) (n : Nat) (index start : Int) :
    rangeWidths (layerRangesFrom base remainder n index start) =
      (List.range n).map fun k : Nat => if index + k < remainder then base + 1 else base := by
  induction n generalizing index start with
  | zero => rfl
  | succ n ih =>
    have hwidth : ∀ width : Int, start + width - start = width := fun width => by omega
    have hrest := ih (index + 1) (start + if index < remainder then base + 1 else base)
    rw [rangeWidths] at hrest
    rw [layerRangesFrom, rangeWidths, List.map_cons, hrest, List.range_succ_eq_map, List.map_cons,
      List.map_map, hwidth]
    simp only [Nat.cast_zero, add_zero, List.cons.injEq, true_and]
    refine List.map_congr_left fun k _ => ?_
    simp only [Function.comp_apply, Nat.cast_succ, add_assoc, add_comm (1 : Int)]

theorem layerRangesFrom_balanced (base remainder : Int) (n : Nat) (index start : Int) :
    (rangeWidths (layerRangesFrom base remainder n index start)).Pairwise
      fun wide narrow => narrow ≤ wide ∧ wide ≤ narrow + 1 := by
  rw [layerRangesFrom_widths, List.pairwise_map]
  refine List.pairwise_lt_range.imp fun {i j} hij => ?_
  split_ifs <;> omega

theorem assignConfiguredLayerRanges_eq
    (hlt : layerCount < 2 ^ 63) (hpos : ∀ count ∈ counts, 0 < count)
    (hsum : counts.sum = layerCount) :
    assignConfiguredLayerRanges layerCount counts = configuredRangesFrom 0 counts := by
  have htotal : totalLayers 0 counts = some layerCount :=
    totalLayers_of_sum le_rfl hlt hpos (by rw [zero_add, hsum])
  have hvalid : validateStageLayerCounts layerCount counts.length counts = none := by
    simp [validateStageLayerCounts, htotal]
  rw [assignConfiguredLayerRanges, if_neg (not_not.2 hvalid)]

/-- **Assigned ranges** are balanced; given counts are the widths. -/
theorem layerRanges_balanced (layerCount : Int) :
    (∀ stageCount : Int, 0 < stageCount → stageCount ≤ layerCount →
      ((assignLayerRanges layerCount stageCount).length : Int) = stageCount ∧
      RangesPartition layerCount 0 (assignLayerRanges layerCount stageCount) ∧
      (rangeWidths (assignLayerRanges layerCount stageCount)).Pairwise
        fun wide narrow => narrow ≤ wide ∧ wide ≤ narrow + 1) ∧
    ∀ counts : List Int, (∀ count ∈ counts, 0 < count) → counts.sum = layerCount →
      layerCount < 2 ^ 63 →
      RangesPartition layerCount 0 (assignConfiguredLayerRanges layerCount counts) ∧
      rangeWidths (assignConfiguredLayerRanges layerCount counts) = counts := by
  constructor
  · intro stageCount hpos hle
    lift stageCount to Nat using hpos.le
    obtain ⟨hlength, hparts⟩ := assignLayerRanges_partition (by exact_mod_cast hpos) hle
    refine ⟨by exact_mod_cast hlength, hparts, ?_⟩
    rw [assignLayerRanges, if_neg (by omega)]
    exact layerRangesFrom_balanced _ _ _ _ _
  · intro counts hpos hsum hlt
    have hparts : RangesPartition layerCount 0 (configuredRangesFrom 0 counts) :=
      configuredRangesFrom_partition le_rfl hlt hpos (by rw [zero_add, hsum])
    have hint : ∀ count ∈ counts, IsInt64 count := by
      intro count hmem
      have hle := List.single_le_sum (fun c hc => (hpos c hc).le) count hmem
      have hcount := hpos count hmem
      exact ⟨by omega, by omega⟩
    rw [assignConfiguredLayerRanges_eq hlt hpos hsum]
    exact ⟨hparts, configuredRangesFrom_layers le_rfl (by decide) hint hparts⟩

/-- Seven layers over three stages, even and configured. -/
theorem layerRanges_balanced_seven :
    ((assignLayerRanges 7 3).length : Int) = 3 ∧
    rangeWidths (assignConfiguredLayerRanges 7 [4, 2, 1]) = [4, 2, 1] :=
  ⟨((layerRanges_balanced 7).1 3 (by decide) (by decide)).1,
    ((layerRanges_balanced 7).2 [4, 2, 1] (by decide) (by decide) (by decide)).2⟩

end JetsonFabric
