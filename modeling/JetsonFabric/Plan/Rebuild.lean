import JetsonFabric.Plan.Builder

/-!
# Rebuilding a plan

The planner reads a policy's stage count twice: derived from the layer counts when it is zero
(`policyStageCount`), and raw when it looks for advertised pipelines. `Policy.Refines` relates a
policy to one that writes the derived count out; a route that the first accepts is the route of
the second.
-/

namespace JetsonFabric

/-- The same policy, with a stage count written out. -/
structure Policy.Refines (p q : Policy) : Prop where
  allow : q.allowColocatedStages = p.allowColocatedStages
  counts : q.stageLayerCounts = p.stageLayerCounts
  stageCount : q.stageCount = p.stageCount ∨
    (p.stageCount = 0 ∧ p.stageLayerCounts ≠ [] ∧ q.stageCount = p.stageLayerCounts.length)

theorem Policy.Refines.policyStageCount {p q : Policy} (h : p.Refines q) :
    policyStageCount q = policyStageCount p := by
  rcases h.stageCount with e | ⟨hp, hc, e⟩
  · simp only [JetsonFabric.policyStageCount, e, h.counts]
  · have hq : q.stageCount ≠ 0 := by
      have := List.length_pos_of_ne_nil hc
      omega
    rw [JetsonFabric.policyStageCount, JetsonFabric.policyStageCount, if_pos hq,
      if_neg (not_not.mpr hp), e]

/-! ## Advertised pipelines -/

variable {width layerCount : Int} {candidates placements : List Placement}

/-- The widths of the pipelines some candidate advertises a part of. -/
def advertisedWidths (candidates : List Placement) : List Int :=
  (((advertised candidates 0).map (·.runtimeStageCount)).dedup).insertionSort (· ≤ ·)

/-- The complete advertised pipeline of one width. -/
def pipelineOfWidth (candidates : List Placement) (layerCount width : Int) :
    Option (List Placement) :=
  explicitPipelineOf ((advertised candidates 0).filter (·.runtimeStageCount = width)) layerCount
    width

theorem explicitPipelinePlacements_zero (candidates : List Placement) (layerCount : Int) :
    explicitPipelinePlacements candidates layerCount 0 =
      (advertisedWidths candidates).findSome? (pipelineOfWidth candidates layerCount) :=
  rfl

theorem mem_advertisedWidths :
    width ∈ advertisedWidths candidates ↔
      ∃ c ∈ advertised candidates 0, c.runtimeStageCount = width := by
  rw [advertisedWidths, List.mem_insertionSort, List.mem_dedup, List.mem_map]

theorem two_le_of_mem_widths (h : width ∈ advertisedWidths candidates) : 2 ≤ width := by
  obtain ⟨c, hc, rfl⟩ := mem_advertisedWidths.mp h
  simp only [advertised, List.mem_filter, Bool.and_eq_true, decide_eq_true_eq] at hc
  exact hc.2.1.2

theorem advertised_pos (candidates : List Placement) (h : 0 < width) :
    advertised candidates width =
      (advertised candidates 0).filter (·.runtimeStageCount = width) := by
  rw [advertised, advertised, List.filter_filter]
  apply List.filter_congr
  intro c _
  by_cases e : c.runtimeStageCount = width <;> simp [h, e]

theorem mapM_eq_some_iff {α β : Type} {f : α → Option β} {xs : List α} {ys : List β} :
    xs.mapM f = some ys ↔ List.Forall₂ (fun x y => f x = some y) xs ys := by
  induction xs generalizing ys with
  | nil => cases ys <;> simp
  | cons x xs ih =>
    rw [List.mapM_cons]
    cases ys with
    | nil =>
      constructor
      · intro h
        obtain ⟨y, -, h⟩ := Option.bind_eq_some_iff.mp h
        obtain ⟨zs, -, h⟩ := Option.bind_eq_some_iff.mp h
        cases h
      · nofun
    | cons y ys => simp [Option.bind_eq_some_iff, ← ih]

theorem orderedPlacements_length {found : List Placement} {n : Nat}
    (h : orderedPlacements placements n = some found) : found.length = n := by
  rw [← (mapM_eq_some_iff.1 h).length_eq, List.length_range]

theorem explicitPipelineOf_length {found : List Placement}
    (h : explicitPipelineOf placements layerCount width = some found) :
    found.length = width.toNat := by
  unfold explicitPipelineOf at h
  split at h
  · cases h
  · exact orderedPlacements_length (Option.filter_eq_some_iff.mp h).1

/-- The pipeline of a given width is the one among all. -/
theorem explicitPipelinePlacements_pos (candidates : List Placement) (layerCount : Int)
    (h : 0 < width) :
    explicitPipelinePlacements candidates layerCount width =
      if width ∈ advertisedWidths candidates then pipelineOfWidth candidates layerCount width
      else none := by
  simp only [explicitPipelinePlacements, advertised_pos candidates h]
  set listed := (advertised candidates 0).filter (·.runtimeStageCount = width) with hl
  have hall : ∀ c ∈ listed, c.runtimeStageCount = width := by
    intro c hc
    rw [hl, List.mem_filter] at hc
    simpa using hc.2
  have hself : listed.filter (·.runtimeStageCount = width) = listed := by
    rw [List.filter_eq_self]
    intro c hc
    simpa using hall c hc
  by_cases hw : width ∈ advertisedWidths candidates
  · obtain ⟨c, hc, hcw⟩ := mem_advertisedWidths.mp hw
    have hmem : c ∈ listed := by
      rw [hl, List.mem_filter]
      exact ⟨hc, by simpa using hcw⟩
    have hdedup : (listed.map (·.runtimeStageCount)).dedup = [width] := by
      have hrep : listed.map (·.runtimeStageCount) = List.replicate listed.length width := by
        rw [List.eq_replicate_iff]
        refine ⟨List.length_map _, ?_⟩
        intro b hb
        obtain ⟨d, hd, rfl⟩ := List.mem_map.mp hb
        exact hall d hd
      rw [hrep, List.replicate_dedup (List.length_pos_of_mem hmem).ne']
    rw [if_pos hw, hdedup]
    simp only [List.insertionSort_cons, List.insertionSort_nil, List.orderedInsert_nil,
      List.findSome?_cons, List.findSome?_nil, hself]
    rw [pipelineOfWidth, ← hl]
    cases explicitPipelineOf listed layerCount width <;> rfl
  · have hnil : listed = [] := by
      rw [List.eq_nil_iff_forall_not_mem]
      intro c hc
      refine hw (mem_advertisedWidths.mpr ⟨c, ?_, hall c hc⟩)
      exact (List.mem_filter.mp hc).1
    rw [if_neg hw, hnil]
    rfl

/-! ## Routes -/

variable {preview : RoutePreview}

theorem configuredRangesFrom_length (start : Int) (counts : List Int) :
    (configuredRangesFrom start counts).length = counts.length := by
  induction counts generalizing start with
  | nil => rfl
  | cons count counts ih => rw [configuredRangesFrom, List.length_cons, List.length_cons, ih]

theorem buildStages_mismatch {counts : List Int} (layerCount : Int)
    (hp : placements ≠ []) (hc : counts ≠ []) (hne : placements.length ≠ counts.length) :
    buildStages placements layerCount counts = [] := by
  have hlen : (assignConfiguredLayerRanges layerCount counts).length ≠ placements.length := by
    unfold assignConfiguredLayerRanges
    split
    · exact fun e => hp (List.length_eq_zero_iff.mp e.symm)
    · rw [configuredRangesFrom_length]
      exact hne.symm
  simp only [buildStages, if_pos hc, if_pos hlen]

theorem validateStagePlan_nil (layerCount : Int) : validateStagePlan [] layerCount ≠ none := by
  unfold validateStagePlan
  split <;> simp

theorem pipelinePreview_invalid {policy : Policy} (hv : preview.valid = false)
    (hs : buildStages placements layerCount policy.stageLayerCounts = []) :
    (pipelinePreview preview placements policy layerCount).valid = false := by
  simp only [pipelinePreview, hs]
  cases h : validateStagePlan [] layerCount with
  | none => exact absurd h (validateStagePlan_nil layerCount)
  | some reason => exact hv

variable {p q : Policy} (h : p.Refines q)
include h

theorem pipelinePreview_refines (preview : RoutePreview) (placements : List Placement)
    (layerCount : Int) :
    pipelinePreview preview placements q layerCount =
      pipelinePreview preview placements p layerCount := by
  simp only [pipelinePreview, h.allow, h.counts]

theorem assignedPreview_refines (preview : RoutePreview) (candidates : List Placement)
    (first : Placement) (model : ModelProfile) :
    assignedPreview preview candidates first model q =
      assignedPreview preview candidates first model p := by
  simp only [assignedPreview, h.policyStageCount, pipelinePreview_refines h]

/-- The pipeline for the raw stage count is that for the derived one. -/
theorem explicitPipelinePlacements_refines (hv : preview.valid = false)
    (hvalid : ∀ placements, explicitPipelinePlacements candidates layerCount p.stageCount =
      some placements → (pipelinePreview preview placements p layerCount).valid = true) :
    explicitPipelinePlacements candidates layerCount q.stageCount =
      explicitPipelinePlacements candidates layerCount p.stageCount := by
  rcases h.stageCount with e | ⟨hp, hc, e⟩
  · rw [e]
  have hpos : (0 : Int) < p.stageLayerCounts.length := by
    have := List.length_pos_of_ne_nil hc
    omega
  rw [hp, explicitPipelinePlacements_zero] at hvalid ⊢
  rw [e, explicitPipelinePlacements_pos candidates layerCount hpos]
  cases hfound : (advertisedWidths candidates).findSome?
      (pipelineOfWidth candidates layerCount) with
  | none =>
    rw [List.findSome?_eq_none_iff] at hfound
    split
    · next hw => exact hfound _ hw
    · rfl
  | some placements =>
    obtain ⟨width, hw, hof⟩ := List.exists_of_findSome?_eq_some hfound
    have hlen : placements.length = width.toNat := explicitPipelineOf_length hof
    have htwo := two_le_of_mem_widths hw
    -- another width than that of the layer counts would have left the route without stages
    have hsame : placements.length = p.stageLayerCounts.length := by
      by_contra hne
      have hnil : placements ≠ [] := by
        rintro rfl
        rw [List.length_nil] at hlen
        omega
      have hbad := pipelinePreview_invalid hv (buildStages_mismatch layerCount hnil hc hne)
      rw [hvalid placements hfound] at hbad
      cases hbad
    have hwidth : (p.stageLayerCounts.length : Int) = width := by omega
    rw [hwidth, if_pos hw, hof]

theorem routePreview_refines {model : ModelProfile} (hv : preview.valid = false)
    (hvalid : (routePreview preview candidates model p).valid = true) :
    routePreview preview candidates model q = routePreview preview candidates model p := by
  cases candidates with
  | nil => rfl
  | cons first others =>
    simp only [routePreview, pipelinePreview_refines h, assignedPreview_refines h] at hvalid ⊢
    by_cases hm : supportsMode model executionModePipelineParallel
    · simp only [hm, if_true] at hvalid ⊢
      rw [explicitPipelinePlacements_refines h hv]
      intro placements hfound
      simpa only [hfound] using hvalid
    · simp only [if_neg hm]

theorem preview_refines (P : Platform) (wallClock : Time) {req : PlanRequest}
    (hp : req.policy = p) (hvalid : (P.preview wallClock req).valid = true) :
    P.preview wallClock { req with policy := q } = P.preview wallClock req := by
  subst hp
  simp only [Platform.preview, h.policyStageCount, h.counts] at hvalid ⊢
  split
  · rfl
  · next hplan =>
    simp only [hplan] at hvalid
    split
    · rfl
    · next hcounts =>
      simp only [hcounts] at hvalid
      exact routePreview_refines h rfl hvalid

theorem previewPipeline_refines (P : Platform) (wallClock : Time) {req : PlanRequest}
    (hp : req.policy = p) (hvalid : (P.previewPipeline wallClock req).valid = true) :
    P.previewPipeline wallClock { req with policy := q } = P.previewPipeline wallClock req := by
  have hv : (P.preview wallClock req).valid = true := by
    unfold Platform.previewPipeline at hvalid
    by_contra hne
    simp [hne] at hvalid
  simp only [Platform.previewPipeline, preview_refines h P wallClock hp hv]

omit h

/-! ## Plans -/

variable {req : DeploymentBuildRequest}

/-- The time a request is planned at. -/
def planningTime (wallClock now : Time) : Time := if now = 0 then wallClock else now

theorem planningTime_idem (wallClock now : Time) :
    planningTime wallClock (planningTime wallClock now) = planningTime wallClock now := by
  unfold planningTime
  split_ifs <;> simp_all

theorem validateDeploymentPlan_eq_none {i : PlanIdentity} {model : DeploymentModelIdentity}
    {stages : List Stage} :
    validateDeploymentPlan i model stages = none ↔
      i.deploymentId ≠ [] ∧ i.epoch ≠ 0 ∧ validatePlanModel model stages = none := by
  unfold validateDeploymentPlan
  by_cases hid : i.deploymentId = []
  · simp [hid]
  by_cases hepoch : i.epoch = 0
  · simp [hid, hepoch]
  rw [if_neg hid, if_neg hepoch]
  exact ⟨fun h => ⟨hid, hepoch, h⟩, fun h => h.2.2⟩

theorem newDeploymentPlan_eq_ok {spec : DeploymentPlanSpec} {plan : DeploymentPlan} :
    newDeploymentPlan spec = .ok plan ↔
      plan.identity = spec.normalize.identity ∧ plan.model = spec.normalize.model ∧
        plan.stages = spec.stages := by
  unfold newDeploymentPlan
  split
  · next e he =>
    refine ⟨fun h => (by cases h), ?_⟩
    rintro ⟨hi, hm, hs⟩
    have hv := plan.valid
    rw [hi, hm, hs, show spec.stages = spec.normalize.stages from rfl, he] at hv
    cases hv
  · constructor
    · intro h
      cases h
      exact ⟨rfl, rfl, rfl⟩
    · rintro ⟨hi, hm, hs⟩
      rcases plan with ⟨identity, model, stages, valid⟩
      subst hi hm hs
      rfl

/-- All that a successful build went through. -/
theorem buildDeploymentPlan_eq_ok {P : Platform} {wallClock : Time}
    {result : DeploymentBuildResult} :
    P.buildDeploymentPlan wallClock req = .ok result ↔
      ∃ engine now group, P.selectMembers wallClock req = .ok (engine, now, group) ∧
        result.preview = P.previewPipeline wallClock
          { model := Platform.deployedModel req.model, members := group.members, now
            staleAfter := req.staleAfter, policy := req.policy } ∧
        result.preview.valid = true ∧
        result.preview.mode = executionModePipelineParallel ∧ 1 ≤ result.preview.stageCount ∧
        newDeploymentPlan (Platform.deploymentPlanSpec req.identity
          (Platform.deployedModel req.model) engine group result.preview) = .ok result.plan ∧
        result.compatibility = group.compatibility := by
  constructor
  · intro h
    simp only [Platform.buildDeploymentPlan] at h
    split at h
    · cases h
    next engine now group hselect =>
    split at h
    · cases h
    next hvalid =>
    split at h
    · cases h
    next hmode =>
    split at h
    · cases h
    next plan hplan =>
    cases h
    rw [not_or, not_not, not_lt] at hmode
    exact ⟨engine, now, group, hselect, rfl, by simpa using hvalid, hmode.1, hmode.2, hplan, rfl⟩
  · rintro ⟨engine, now, group, hselect, hpreview, hvalid, hmode, hcount, hplan, hcompat⟩
    obtain ⟨plan, preview, compatibility⟩ := result
    simp only at hpreview hvalid hmode hcount hplan hcompat
    subst hcompat
    simp only [Platform.buildDeploymentPlan, hselect, ← hpreview, hvalid, hmode, hplan]
    simp [hcount]

theorem selectMembers_refines {p q : Policy} (h : p.Refines q) (P : Platform) (wallClock : Time)
    (hp : req.policy = p) (identity : PlanIdentity) :
    P.selectMembers wallClock { req with policy := q, identity } =
      P.selectMembers wallClock req := by
  subst hp
  simp only [Platform.selectMembers, requiredDeploymentStages, h.policyStageCount]

/-- **Planning again with a written-out stage count gives the same stages.** -/
theorem buildDeploymentPlan_refines {p q : Policy} (h : p.Refines q) {P : Platform}
    {wallClock : Time} {result : DeploymentBuildResult}
    (hp : req.policy = p) (hbuild : P.buildDeploymentPlan wallClock req = .ok result)
    {identity : PlanIdentity} (hid : trimSpace identity.deploymentId ≠ [])
    (hepoch : identity.epoch ≠ 0) :
    ∃ again, P.buildDeploymentPlan wallClock { req with policy := q, identity } = .ok again ∧
      again.plan.identity = ⟨trimSpace identity.deploymentId, identity.epoch⟩ ∧
      again.plan.model = result.plan.model ∧ again.plan.stages = result.plan.stages := by
  obtain ⟨engine, now, group, hselect, hpreview, hvalid, hmode, hcount, hplan, hcompat⟩ :=
    buildDeploymentPlan_eq_ok.mp hbuild
  obtain ⟨-, hmodel, hstages⟩ := newDeploymentPlan_eq_ok.mp hplan
  have hchecked := validateDeploymentPlan_eq_none.mp result.plan.valid
  let plan : DeploymentPlan :=
    { identity := ⟨trimSpace identity.deploymentId, identity.epoch⟩
      model := result.plan.model
      stages := result.plan.stages
      valid := validateDeploymentPlan_eq_none.mpr ⟨hid, hepoch, hchecked.2.2⟩ }
  refine ⟨{ result with plan }, ?_, rfl, rfl, rfl⟩
  refine buildDeploymentPlan_eq_ok.mpr
    ⟨engine, now, group, ?_, ?_, hvalid, hmode, hcount, ?_, hcompat⟩
  · rw [selectMembers_refines h P wallClock hp, hselect]
  · rw [hpreview] at hvalid ⊢
    exact (previewPipeline_refines h P wallClock hp hvalid).symm
  · exact newDeploymentPlan_eq_ok.mpr ⟨rfl, hmodel, hstages⟩

end JetsonFabric
