import JetsonFabric.Plan.Advertised

/-!
# What a route is made of

The branches of the planner end in two ways: with placements that are turned into stages, or with a
reason. The choice of the placements is separated here from the checks on the stages.

* `routePreview_ends`, **`preview_valid_iff`**, `preview_stages`: the planner is the one after the
  other.
-/

namespace JetsonFabric

/-! ## Placements -/

/-- The advertised pipeline that the planner takes. -/
def advertisedPipeline (candidates : List Placement) (model : ModelProfile) (policy : Policy) :
    Option (List Placement) :=
  if supportsMode model executionModePipelineParallel then
    explicitPipelinePlacements candidates model.layerCount policy.stageCount
  else none

/-- The number of stages of a route without advertised assignments. -/
def requestedStages (policy : Policy) (candidates : List Placement) (layerCount : Int) : Int :=
  if policyStageCount policy = 0 then min (candidates.length : Int) layerCount
  else policyStageCount policy

/-- Candidates on distinct hosts if there are enough. -/
def spreadPlacements (candidates : List Placement) (count : Int) : List Placement :=
  if ((selectDistinctPhysicalHosts candidates count).length : Int) = count then
    selectDistinctPhysicalHosts candidates count
  else candidates.take count.toNat

/-- The placements of a route without advertised assignments. -/
def assignedPlacements (candidates : List Placement) (first : Placement) (model : ModelProfile)
    (policy : Policy) : Except Reason (List Placement × List Int) :=
  let requested := requestedStages policy candidates model.layerCount
  if ¬ supportsMode model executionModePipelineParallel ∨ requested ≤ 1 ∨
      candidates.length = 1 then .ok ([first], [])
  else if (candidates.length : Int) < requested then .error .insufficientStages
  else .ok (spreadPlacements candidates requested, policy.stageLayerCounts)

/-- The placements of a route, with their layer counts. -/
def chosenPlacements (candidates : List Placement) (model : ModelProfile) (policy : Policy) :
    Except Reason (List Placement × List Int) :=
  match candidates with
  | [] => .error .noEligibleMembers
  | first :: _ =>
    match advertisedPipeline candidates model policy with
    | some placements => .ok (placements, policy.stageLayerCounts)
    | none =>
      if hasRuntimeAssignments candidates then
        match verifiedFullModelReplica candidates model.layerCount with
        | some replica => .ok ([replica], [])
        | none => .error .incompleteRuntimeAssignments
      else assignedPlacements candidates first model policy

/-- The stages of chosen placements. -/
def routeStages (layerCount : Int) (chosen : List Placement × List Int) : List Stage :=
  buildStages chosen.1 layerCount chosen.2

/-- The reason why placements make no route. -/
def routeError (policy : Policy) (layerCount : Int) (chosen : List Placement × List Int) :
    Option Reason :=
  match validateStagePlan (routeStages layerCount chosen) layerCount with
  | some reason => some reason
  | none =>
    if (topologyForPlacements chosen.1 = .colocated ∧ 1 < chosen.1.length) ∧
        ¬ policy.allowColocatedStages then some .colocatedStagesDisallowed
    else none

/-! ## The planner in two steps -/

/-- A preview that ends with the chosen placements. -/
structure EndsWith (policy : Policy) (layerCount : Int) (chosen : List Placement × List Int)
    (preview : RoutePreview) : Prop where
  stages : preview.stages = routeStages layerCount chosen
  stageCount : preview.stageCount = preview.stages.length
  mode : preview.mode = executionModePipelineParallel ∨ chosen.1.length = 1
  reason : preview.reason = routeError policy layerCount chosen
  valid : preview.valid = (routeError policy layerCount chosen).isNone

variable {candidates : List Placement} {model : ModelProfile} {policy : Policy}
  {preview : RoutePreview} {layerCount : Int}

theorem dataParallelPreview_endsWith (hvalid : preview.valid = false)
    (hreason : preview.reason = none) (placement : Placement) :
    EndsWith policy layerCount ([placement], [])
      (dataParallelPreview preview placement layerCount) := by
  have hnot : ¬ ((topologyForPlacements [placement] = .colocated ∧
      1 < ([placement] : List Placement).length) ∧ ¬ policy.allowColocatedStages) := by
    rintro ⟨⟨-, hlength⟩, -⟩
    exact absurd hlength (by simp)
  cases h : validateStagePlan (buildStages [placement] layerCount) layerCount with
  | some reason =>
    have herror : routeError policy layerCount ([placement], []) = some reason := by
      simp only [routeError, routeStages, h]
    simp only [dataParallelPreview, h]
    exact ⟨rfl, rfl, .inr rfl, herror.symm, by rw [herror]; exact hvalid⟩
  | none =>
    have herror : routeError policy layerCount ([placement], []) = none := by
      simp only [routeError, routeStages, h, if_neg hnot]
    simp only [dataParallelPreview, h]
    exact ⟨rfl, rfl, .inr rfl, by rw [herror]; exact hreason, by rw [herror]; rfl⟩

theorem pipelinePreview_endsWith (hvalid : preview.valid = false) (hreason : preview.reason = none)
    (placements : List Placement) :
    EndsWith policy layerCount (placements, policy.stageLayerCounts)
      (pipelinePreview preview placements policy layerCount) := by
  cases h : validateStagePlan (buildStages placements layerCount policy.stageLayerCounts)
      layerCount with
  | some reason =>
    have herror : routeError policy layerCount (placements, policy.stageLayerCounts) =
        some reason := by simp only [routeError, routeStages, h]
    simp only [pipelinePreview, h]
    exact ⟨rfl, rfl, .inl rfl, herror.symm, by rw [herror]; exact hvalid⟩
  | none =>
    simp only [pipelinePreview, h]
    split_ifs with hrefused hcolocated
    · have herror : routeError policy layerCount (placements, policy.stageLayerCounts) =
          some .colocatedStagesDisallowed := by
        simp only [routeError, routeStages, h, if_pos hrefused]
      exact ⟨rfl, rfl, .inl rfl, herror.symm, by rw [herror]; exact hvalid⟩
    all_goals
      have herror : routeError policy layerCount (placements, policy.stageLayerCounts) = none := by
        simp only [routeError, routeStages, h, if_neg hrefused]
      exact ⟨rfl, rfl, .inl rfl, by rw [herror]; exact hreason, by rw [herror]; rfl⟩

/-- A route, or the reason why none was chosen. -/
def Ends (policy : Policy) (layerCount : Int) :
    Except Reason (List Placement × List Int) → RoutePreview → Prop
  | .error reason, preview =>
    preview.valid = false ∧ preview.reason = some reason ∧ preview.stages = []
  | .ok chosen, preview => EndsWith policy layerCount chosen preview

theorem assignedPreview_ends (hvalid : preview.valid = false) (hreason : preview.reason = none)
    (hstages : preview.stages = []) (first : Placement) :
    Ends policy model.layerCount (assignedPlacements candidates first model policy)
      (assignedPreview preview candidates first model policy) := by
  unfold assignedPlacements assignedPreview requestedStages
  generalize (if policyStageCount policy = 0 then min (candidates.length : Int) model.layerCount
    else policyStageCount policy) = requested
  simp only [spreadPlacements]
  split_ifs
  · exact dataParallelPreview_endsWith (by exact hvalid) (by exact hreason) first
  · exact dataParallelPreview_endsWith hvalid hreason first
  · exact ⟨hvalid, rfl, hstages⟩
  · exact pipelinePreview_endsWith hvalid hreason _
  · exact pipelinePreview_endsWith hvalid hreason _

/-- **The planner chooses placements and checks their stages.** -/
theorem routePreview_ends (hvalid : preview.valid = false) (hreason : preview.reason = none)
    (hstages : preview.stages = []) (candidates : List Placement) (model : ModelProfile)
    (policy : Policy) :
    Ends policy model.layerCount (chosenPlacements candidates model policy)
      (routePreview preview candidates model policy) := by
  cases candidates with
  | nil => exact ⟨hvalid, rfl, hstages⟩
  | cons first others =>
    simp only [chosenPlacements, routePreview, advertisedPipeline]
    generalize (if supportsMode model executionModePipelineParallel then
      explicitPipelinePlacements (first :: others) model.layerCount policy.stageCount
      else none) = explicit
    cases explicit with
    | some placements => exact pipelinePreview_endsWith hvalid hreason placements
    | none =>
      simp only
      split_ifs
      · cases verifiedFullModelReplica (first :: others) model.layerCount with
        | some replica =>
          exact dataParallelPreview_endsWith (by exact hvalid) (by exact hreason) replica
        | none => exact ⟨hvalid, rfl, hstages⟩
      · exact assignedPreview_ends hvalid hreason hstages first

/-! ## The branches -/

variable {chosen : List Placement × List Int} {count : Int}

/-- The branches that end with placements. -/
inductive Chosen (candidates : List Placement) (model : ModelProfile) (policy : Policy) :
    List Placement × List Int → Prop
  | advertised {placements : List Placement}
      (hfound : advertisedPipeline candidates model policy = some placements) :
      Chosen candidates model policy (placements, policy.stageLayerCounts)
  | replica {replica : Placement} (hnone : advertisedPipeline candidates model policy = none)
      (hassigned : hasRuntimeAssignments candidates = true)
      (hfound : verifiedFullModelReplica candidates model.layerCount = some replica) :
      Chosen candidates model policy ([replica], [])
  | single {first : Placement} (hfirst : candidates.head? = some first)
      (hnone : advertisedPipeline candidates model policy = none)
      (hassigned : hasRuntimeAssignments candidates = false)
      (hsingle : ¬ supportsMode model executionModePipelineParallel ∨
        requestedStages policy candidates model.layerCount ≤ 1 ∨ candidates.length = 1) :
      Chosen candidates model policy ([first], [])
  | spread (hnone : advertisedPipeline candidates model policy = none)
      (hassigned : hasRuntimeAssignments candidates = false)
      (hmode : supportsMode model executionModePipelineParallel = true)
      (htwo : 2 ≤ requestedStages policy candidates model.layerCount)
      (hmany : candidates.length ≠ 1)
      (hle : requestedStages policy candidates model.layerCount ≤ candidates.length) :
      Chosen candidates model policy
        (spreadPlacements candidates (requestedStages policy candidates model.layerCount),
          policy.stageLayerCounts)

theorem chosen_of_eq_ok (h : chosenPlacements candidates model policy = .ok chosen) :
    Chosen candidates model policy chosen := by
  cases candidates with
  | nil => cases h
  | cons first others =>
    simp only [chosenPlacements] at h
    cases hexplicit : advertisedPipeline (first :: others) model policy with
    | some placements =>
      rw [hexplicit] at h
      cases h
      exact .advertised hexplicit
    | none =>
      rw [hexplicit] at h
      simp only at h
      split_ifs at h with hassigned
      · cases hreplica : verifiedFullModelReplica (first :: others) model.layerCount with
        | some replica =>
          rw [hreplica] at h
          cases h
          exact .replica hexplicit hassigned hreplica
        | none =>
          rw [hreplica] at h
          cases h
      · have hassigned := Bool.eq_false_iff.2 hassigned
        simp only [assignedPlacements] at h
        split_ifs at h with hsingle hfew
        · cases h
          exact .single rfl hexplicit hassigned hsingle
        · cases h
          simp only [not_or, not_le, not_not] at hsingle
          exact .spread hexplicit hassigned hsingle.1 hsingle.2.1 hsingle.2.2 (not_lt.1 hfew)

theorem selectHostsFrom_subset {selected candidates : List Placement} {p : Placement}
    (h : p ∈ selectHostsFrom count selected candidates) : p ∈ selected ∨ p ∈ candidates := by
  induction candidates generalizing selected with
  | nil => exact .inl h
  | cons candidate candidates ih =>
    simp only [selectHostsFrom] at h
    have htaken : p ∈ selected ++ [candidate] → p ∈ selected ∨ p ∈ candidate :: candidates := by
      rw [List.mem_append, List.mem_singleton]
      rintro (hselected | rfl)
      · exact .inl hselected
      · exact .inr List.mem_cons_self
    split_ifs at h
    · exact (ih h).imp_right (List.mem_cons_of_mem _)
    · exact htaken h
    · rcases ih h with hselected | hrest
      · exact htaken hselected
      · exact .inr (List.mem_cons_of_mem _ hrest)

theorem spreadPlacements_subset {p : Placement}
    (h : p ∈ spreadPlacements candidates count) : p ∈ candidates := by
  unfold spreadPlacements at h
  split at h
  · exact (selectHostsFrom_subset h).resolve_left (List.not_mem_nil)
  · exact List.mem_of_mem_take h

theorem spreadPlacements_length (hle : count ≤ candidates.length)
    (hpos : 0 ≤ count) : ((spreadPlacements candidates count).length : Int) = count := by
  unfold spreadPlacements
  split
  · assumption
  · rw [List.length_take]
    omega

/-- The placements of a route are candidates. -/
theorem Chosen.subset
    (h : Chosen candidates model policy chosen) : ∀ p ∈ chosen.1, p ∈ candidates := by
  intro p hp
  cases h with
  | advertised hfound =>
    unfold advertisedPipeline at hfound
    split_ifs at hfound
    obtain ⟨stop, hchain, -⟩ := chain_of_explicitPipelinePlacements hfound
    exact hchain.mem p hp
  | replica _ _ hfound =>
    rw [List.mem_singleton] at hp
    subst hp
    exact List.mem_of_find?_eq_some hfound
  | single hfirst =>
    rw [List.mem_singleton] at hp
    subst hp
    exact List.mem_of_head? hfirst
  | spread => exact spreadPlacements_subset hp

/-- Candidates that advertise nothing make no advertised pipeline. -/
theorem advertisedPipeline_of_unassigned (h : hasRuntimeAssignments candidates = false) :
    advertisedPipeline candidates model policy = none := by
  by_contra hne
  obtain ⟨found, hfound⟩ := Option.ne_none_iff_exists'.1 hne
  unfold advertisedPipeline at hfound
  split_ifs at hfound
  obtain ⟨stop, hchain, -⟩ := chain_of_explicitPipelinePlacements hfound
  have hpos : 0 < found.length := by have := hchain.two; omega
  have hmem := hchain.mem _ (List.getElem_mem hpos)
  have hassigned := (hchain.place 0 hpos).1
  rw [hasRuntimeAssignments, List.any_eq_false] at h
  exact h _ hmem hassigned

/-! ## Requests -/

variable {P : Platform} {wallClock : Time} {req : PlanRequest}

/-- The candidates of a request. -/
def Platform.eligible (P : Platform) (wallClock : Time) (req : PlanRequest) : List Placement :=
  (P.candidatePlacements req.model req.members (planningTime wallClock req.now) req.staleAfter).2

/-- Why a request is refused before members are looked at. -/
def planError (model : ModelProfile) (policy : Policy) : Option Reason :=
  match validatePlanningRequest model.layerCount (policyStageCount policy) with
  | some reason => some reason
  | none =>
    validateStageLayerCounts model.layerCount (policyStageCount policy) policy.stageLayerCounts

/-- The placements of a request. -/
def Platform.planned (P : Platform) (wallClock : Time) (req : PlanRequest) :
    Except Reason (List Placement × List Int) :=
  match planError req.model req.policy with
  | some reason => .error reason
  | none => chosenPlacements (P.eligible wallClock req) req.model req.policy

theorem preview_ends (P : Platform) (wallClock : Time) (req : PlanRequest) :
    Ends req.policy req.model.layerCount (P.planned wallClock req) (P.preview wallClock req) := by
  simp only [Platform.planned, planError, Platform.preview]
  cases hplan : validatePlanningRequest req.model.layerCount (policyStageCount req.policy) with
  | some reason => exact ⟨rfl, rfl, rfl⟩
  | none =>
    cases hcounts : validateStageLayerCounts req.model.layerCount (policyStageCount req.policy)
        req.policy.stageLayerCounts with
    | some reason => exact ⟨rfl, rfl, rfl⟩
    | none => exact routePreview_ends rfl rfl rfl _ _ _

/-- **A preview is valid exactly when placements make a route.** -/
theorem preview_valid_iff :
    (P.preview wallClock req).valid = true ↔
      ∃ chosen, P.planned wallClock req = .ok chosen ∧
        routeError req.policy req.model.layerCount chosen = none := by
  have hends := preview_ends P wallClock req
  cases hplanned : P.planned wallClock req with
  | error reason =>
    rw [hplanned] at hends
    rw [hends.1]
    constructor
    · nofun
    · rintro ⟨_, h, -⟩
      cases h
  | ok chosen =>
    rw [hplanned] at hends
    rw [hends.valid, Option.isNone_iff_eq_none]
    constructor
    · intro h
      exact ⟨chosen, rfl, h⟩
    · rintro ⟨_, h, herror⟩
      cases h
      exact herror

theorem preview_stages (h : P.planned wallClock req = .ok chosen) :
    (P.preview wallClock req).stages = routeStages req.model.layerCount chosen := by
  have hends := preview_ends P wallClock req
  rw [h] at hends
  exact hends.stages

theorem planned_eq_ok :
    P.planned wallClock req = .ok chosen ↔ planError req.model req.policy = none ∧
      chosenPlacements (P.eligible wallClock req) req.model req.policy = .ok chosen := by
  unfold Platform.planned
  cases planError req.model req.policy with
  | none => exact ⟨fun h => ⟨rfl, h⟩, fun h => h.2⟩
  | some reason => exact ⟨nofun, nofun⟩

/-! ## Stages -/

variable {stages : List Stage}

/-- The ranges that stages without an advertised one get. -/
def rangesFor (chosen : List Placement × List Int) (layerCount : Int) : List LayerRange :=
  if chosen.2 ≠ [] then assignConfiguredLayerRanges layerCount chosen.2
  else assignLayerRanges layerCount chosen.1.length

theorem routeStages_eq (h : (rangesFor chosen layerCount).length = chosen.1.length) :
    routeStages layerCount chosen = (chosen.1.zip (rangesFor chosen layerCount)).zipIdx.map
      fun q => stageAt chosen.1.length q.2 q.1.1 q.1.2 := by
  unfold routeStages buildStages
  exact if_neg (not_not.2 h)

theorem routeStages_eq_nil (h : (rangesFor chosen layerCount).length ≠ chosen.1.length) :
    routeStages layerCount chosen = [] := by
  unfold routeStages buildStages
  exact if_pos h

theorem rangesFor_length (h : routeStages layerCount chosen ≠ []) :
    (rangesFor chosen layerCount).length = chosen.1.length := by
  by_contra hne
  exact h (routeStages_eq_nil hne)

theorem routeStages_length (h : routeStages layerCount chosen ≠ []) :
    (routeStages layerCount chosen).length = chosen.1.length := by
  have hranges := rangesFor_length h
  rw [routeStages_eq hranges]
  simp [hranges]

theorem routeStages_getElem {i : Nat}
    (hi : i < (routeStages layerCount chosen).length) (hp : i < chosen.1.length)
    (hr : i < (rangesFor chosen layerCount).length) :
    (routeStages layerCount chosen)[i] =
      stageAt chosen.1.length i chosen.1[i] (rangesFor chosen layerCount)[i] := by
  have hne : routeStages layerCount chosen ≠ [] := List.ne_nil_of_length_pos (by omega)
  have heq := routeStages_eq (rangesFor_length hne)
  rw [List.getElem_of_eq heq]
  simp

/-- What the stages take from their placements. -/
theorem routeStages_map_placements {β : Type}
    (h : routeStages layerCount chosen ≠ []) {f : Stage → β} {g : Placement → β}
    (hfg : ∀ p ∈ chosen.1, ∀ i range, f (stageAt chosen.1.length i p range) = g p) :
    (routeStages layerCount chosen).map f = chosen.1.map g := by
  have hranges := rangesFor_length h
  refine List.ext_getElem (by simp [routeStages_length h]) fun i hi hi' => ?_
  rw [List.length_map] at hi hi'
  rw [List.getElem_map, List.getElem_map, routeStages_getElem hi hi' (by omega)]
  exact hfg _ (List.getElem_mem hi') _ _

/-- What the stages take from their ranges. -/
theorem routeStages_map_ranges {β : Type}
    (h : routeStages layerCount chosen ≠ []) {f : Stage → β} {g : LayerRange → β}
    (hfg : ∀ p ∈ chosen.1, ∀ i range, f (stageAt chosen.1.length i p range) = g range) :
    (routeStages layerCount chosen).map f = (rangesFor chosen layerCount).map g := by
  have hranges := rangesFor_length h
  refine List.ext_getElem (by simp [routeStages_length h, hranges]) fun i hi hi' => ?_
  rw [List.length_map] at hi hi'
  rw [List.getElem_map, List.getElem_map, routeStages_getElem hi (by omega) hi']
  exact hfg _ (List.getElem_mem _) _ _

theorem mem_routeStages {stage : Stage} (h : stage ∈ routeStages layerCount chosen) :
    ∃ placement ∈ chosen.1, ∃ index range,
      stage = stageAt chosen.1.length index placement range := by
  have hne := List.ne_nil_of_mem h
  rw [routeStages_eq (rangesFor_length hne)] at h
  obtain ⟨⟨⟨placement, range⟩, index⟩, hmem, rfl⟩ := List.mem_map.mp h
  exact ⟨placement, (List.of_mem_zip (List.fst_mem_of_mem_zipIdx hmem)).1, index, range, rfl⟩

/-- The stages take consecutive layers up to `stop`. -/
def Partitions (stop : Int) : Int → List Stage → Prop
  | start, [] => start = stop
  | start, stage :: stages =>
    stage.layerStart = start ∧ start < stage.layerEnd ∧ Partitions stop stage.layerEnd stages

/-- The stages carry their place in a pipeline of `count` stages. -/
def NumberedStages (count : Int) : Int → List Stage → Prop
  | _, [] => True
  | index, stage :: stages =>
    stage.stageIndex = index ∧ stage.stageCount = count ∧ NumberedStages count (index + 1) stages

theorem Partitions.le {stop start : Int} (h : Partitions stop start stages) :
    start ≤ stop := by
  induction stages generalizing start with
  | nil => exact le_of_eq h
  | cons stage stages ih => exact h.2.1.le.trans (ih h.2.2)

theorem validateStagesFrom_eq_none {count : Nat} {index start : Int} :
    validateStagesFrom count layerCount index start stages = none ↔
      NumberedStages count index stages ∧ Partitions layerCount start stages := by
  induction stages generalizing index start with
  | nil => simp [validateStagesFrom, NumberedStages, Partitions]
  | cons stage stages ih =>
    simp only [validateStagesFrom, NumberedStages, Partitions]
    split_ifs with hindices hranges
    · simp only [false_iff]
      tauto
    · simp only [false_iff]
      rintro ⟨-, rfl, hlt, hrest⟩
      have hle := hrest.le
      omega
    · rw [ih]
      simp only [not_or, not_not] at hindices hranges
      obtain ⟨rfl, hend, -⟩ := hranges
      exact ⟨fun h => ⟨⟨hindices.1, hindices.2, h.1⟩, rfl, not_le.1 hend, h.2⟩,
        fun h => ⟨h.1.2.2, h.2.2.2⟩⟩

/-- The stages of an accepted route. -/
theorem validateStagePlan_eq_none :
    validateStagePlan stages layerCount = none ↔
      0 < layerCount ∧ stages ≠ [] ∧ (stages.length : Int) ≤ layerCount ∧
        NumberedStages stages.length 0 stages ∧ Partitions layerCount 0 stages := by
  unfold validateStagePlan
  split_ifs with hlayers hnil hmany
  · simp only [false_iff]
    omega
  · simp [hnil]
  · simp only [false_iff]
    omega
  · rw [validateStagesFrom_eq_none]
    exact ⟨fun h => ⟨not_le.1 hlayers, hnil, not_lt.1 hmany, h⟩, fun h => h.2.2.2⟩

theorem routeError_eq_none :
    routeError policy layerCount chosen = none ↔
      validateStagePlan (routeStages layerCount chosen) layerCount = none ∧
        (topologyForPlacements chosen.1 = .colocated → 1 < chosen.1.length →
          policy.allowColocatedStages = true) := by
  unfold routeError
  cases validateStagePlan (routeStages layerCount chosen) layerCount with
  | some reason => simp
  | none =>
    simp only [true_and, ite_eq_right_iff, reduceCtorEq, imp_false, not_and, not_not]
    tauto

end JetsonFabric
