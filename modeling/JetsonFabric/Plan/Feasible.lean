import JetsonFabric.Plan.Widths

/-!
# Groups that carry a route

The builder plans on one group of compatible members, the first of the largest. A build therefore
succeeds exactly when the eligible members of that group carry a route, whatever the other groups
would carry.

* **`buildDeploymentPlan_selected`**: when a build succeeds, on the assignments and the hosts of the
  selected group.
-/

namespace JetsonFabric

variable {policy : Policy} {model : ModelProfile} {candidates found placements : List Placement}
  {layerCount requested stop start : Int} {stages : List Stage} {counts : List Int}

/-! ## Advertised pipelines -/

/-- The narrowest pipeline over all layers that first candidates advertise. -/
structure Narrowest (candidates : List Placement) (requested layerCount : Int)
    (found : List Placement) : Prop where
  chain : Chain candidates requested layerCount found
  first : IsFirst candidates found
  least : ∀ other, Chain candidates requested layerCount other → IsFirst candidates other →
    found.length ≤ other.length

theorem IsFirst.eq_of_length {other : List Placement} (h : IsFirst candidates found)
    (hother : IsFirst candidates other) (hlength : found.length = other.length) :
    found = other := by
  refine List.ext_getElem hlength fun i hi hi' => ?_
  have hfirst := h i hi
  rw [hlength, hother i hi'] at hfirst
  exact (Option.some.inj hfirst).symm

theorem explicitPipelinePlacements_least (hlayers : 0 < layerCount)
    (h : explicitPipelinePlacements candidates layerCount requested = some found) :
    Narrowest candidates requested layerCount found := by
  obtain ⟨stop, hchain, hstop, hfirst⟩ := chain_of_explicitPipelinePlacements h
  obtain rfl := hstop.resolve_left (not_le.2 hlayers)
  refine ⟨hchain, hfirst, fun other hother hisFirst => ?_⟩
  by_cases hpos : 0 < requested
  · have hwidth := (hchain.width hpos).trans (hother.width hpos).symm
    exact (Nat.cast_injective hwidth).le
  have hmem := hother.mem_advertisedWidths
  have hsome : pipelineOfWidth candidates stop other.length = some other :=
    (pipelineOfWidth_eq_some (two_le_of_mem_widths hmem)).2
      ⟨rfl, hisFirst, stop, hother.covers, .inr rfl⟩
  rw [explicitPipelinePlacements_nonpos candidates stop (not_lt.1 hpos)] at h
  obtain ⟨before, width, after, hsplit, hfound, hnone⟩ := List.findSome?_eq_some_iff.1 h
  have hsorted : (advertisedWidths candidates).Pairwise (· ≤ ·) := List.pairwise_insertionSort _ _
  rw [hsplit] at hmem hsorted
  have hwidth : width ∈ advertisedWidths candidates := by simp [hsplit]
  have hlength := ((pipelineOfWidth_eq_some (two_le_of_mem_widths hwidth)).1 hfound).1
  rcases List.mem_append.1 hmem with hbefore | hafter
  · rw [hnone _ hbefore] at hsome
    cases hsome
  · have hle : width ≤ other.length := by
      rcases List.mem_cons.1 hafter with hsame | hafter
      · exact hsame.ge
      · exact (List.pairwise_cons.1 (List.pairwise_append.1 hsorted).2.1).1 _ hafter
    omega

theorem explicitPipelinePlacements_eq_some (hlayers : 0 < layerCount) :
    explicitPipelinePlacements candidates layerCount requested = some found ↔
      Narrowest candidates requested layerCount found := by
  refine ⟨explicitPipelinePlacements_least hlayers, fun h => ?_⟩
  obtain ⟨other, hother⟩ := Option.isSome_iff_exists.1
    (explicitPipelinePlacements_isSome h.chain (.inr rfl) h.first)
  have hleast := explicitPipelinePlacements_least hlayers hother
  rw [hother, h.first.eq_of_length hleast.first
    (le_antisymm (h.least _ hleast.chain hleast.first) (hleast.least _ h.chain h.first))]

/-! ## Stages -/

theorem numberedStages_of_getElem {count : Int} {k : Int}
    (h : ∀ i (hi : i < stages.length), stages[i].stageIndex = k + i ∧ stages[i].stageCount = count) :
    NumberedStages count k stages := by
  induction stages generalizing k with
  | nil => trivial
  | cons stage stages ih =>
    have hfirst := h 0 (Nat.succ_pos _)
    refine ⟨by simpa using hfirst.1, hfirst.2, ih fun i hi => ?_⟩
    have hnext := h (i + 1) (Nat.succ_lt_succ hi)
    simp only [List.getElem_cons_succ, Nat.cast_add, Nat.cast_one] at hnext
    exact ⟨by omega, hnext.2⟩

theorem partitions_iff_covers
    (h : stages.map (fun stage => (stage.layerStart, stage.layerEnd)) =
      placements.map fun p => (p.runtimeLayerStart, p.runtimeLayerEnd)) :
    Partitions stop start stages ↔ Covers stop start placements := by
  induction stages generalizing placements start with
  | nil =>
    obtain rfl := List.map_eq_nil_iff.1 h.symm
    exact Iff.rfl
  | cons stage stages ih =>
    obtain ⟨placement, placements, rfl, hfirst, hrest⟩ := List.map_eq_cons_iff.1 h.symm
    simp only [Prod.mk.injEq] at hfirst
    rw [Partitions, Covers, hfirst.1, hfirst.2, ih hrest.symm]

theorem Covers.length_le (h : Covers stop start placements) :
    start + placements.length ≤ stop := by
  induction placements generalizing start with
  | nil => simpa [Covers] using h.le
  | cons placement placements ih =>
    have hrest := ih h.2.2
    have hlt := h.2.1
    rw [List.length_cons]
    omega

theorem validateStagePlan_chain (hchain : Chain candidates requested layerCount found) :
    validateStagePlan (routeStages layerCount (found, counts)) layerCount = none ↔
      (rangesFor (found, counts) layerCount).length = found.length := by
  refine ⟨fun h => rangesFor_length (validateStagePlan_eq_none.1 h).2.1, fun hlength => ?_⟩
  have htwo := hchain.two
  have hwidth := hchain.covers.length_le
  have hstages : (routeStages layerCount (found, counts)).length = found.length := by
    rw [routeStages_eq hlength]
    simp [hlength]
  have hsome : routeStages layerCount (found, counts) ≠ [] :=
    List.ne_nil_of_length_pos (by omega)
  refine validateStagePlan_eq_none.2 ⟨by omega, hsome, by omega, ?_, ?_⟩
  · refine numberedStages_of_getElem fun i hi => ?_
    have hi' : i < found.length := hstages ▸ hi
    obtain ⟨hassigned, hcount, hindex⟩ := hchain.place i hi'
    rw [routeStages_getElem hi hi' (hlength ▸ hi'), hstages]
    simp [stageAt, hassigned, hcount, hindex]
  · refine (partitions_iff_covers (routeStages_map_placements hsome fun p hp i range => ?_)).2
      hchain.covers
    obtain ⟨j, hj, rfl⟩ := List.getElem_of_mem hp
    simp [stageAt, (hchain.place j hj).1]

theorem rangesFor_length_iff (hplan : planError model policy = none) (hpos : 0 < placements.length)
    (hle : (placements.length : Int) ≤ model.layerCount) :
    (rangesFor (placements, policy.stageLayerCounts) model.layerCount).length =
        placements.length ↔
      policy.stageLayerCounts = [] ∨ policy.stageLayerCounts.length = placements.length := by
  unfold rangesFor
  by_cases hnil : policy.stageLayerCounts = []
  · rw [if_neg (not_not.2 hnil)]
    exact iff_of_true (assignLayerRanges_partition hpos hle).1 (.inl hnil)
  · have hvalid : validateStageLayerCounts model.layerCount policy.stageLayerCounts.length
        policy.stageLayerCounts = none := by
      simp [validateStageLayerCounts, (planError_counts hplan hnil).2]
    rw [if_pos hnil, assignConfiguredLayerRanges, if_neg (not_not.2 hvalid),
      configuredRangesFrom_length, or_iff_right hnil]

theorem validateStagePlan_single {placement : Placement} (hlayers : 0 < layerCount)
    (h : placement.runtimeStageAssigned = true → Advertises 1 0 placement ∧
      placement.runtimeLayerStart = 0 ∧ placement.runtimeLayerEnd = layerCount) :
    validateStagePlan (routeStages layerCount ([placement], [])) layerCount = none := by
  obtain ⟨hlength, hparts⟩ : (rangesFor ([placement], []) layerCount).length = 1 ∧
      RangesPartition layerCount 0 (rangesFor ([placement], []) layerCount) :=
    assignLayerRanges_partition Nat.one_pos (show ((1 : Nat) : Int) ≤ layerCount by omega)
  obtain ⟨range, hrange⟩ := List.length_eq_one_iff.1 hlength
  rw [hrange] at hparts
  obtain ⟨hstart, -, hstop⟩ := hparts
  have hstage : routeStages layerCount ([placement], []) = [stageAt 1 0 placement range] := by
    rw [routeStages_eq hlength, hrange]
    rfl
  rw [validateStagePlan_eq_none, hstage]
  refine ⟨hlayers, List.cons_ne_nil _ _, by simp only [List.length_singleton]; omega, ?_⟩
  by_cases hassigned : placement.runtimeStageAssigned = true
  · obtain ⟨⟨-, hcount, hindex⟩, hfrom, hto⟩ := h hassigned
    simp [NumberedStages, Partitions, stageAt, hassigned, hcount, hindex, hfrom, hto, hlayers]
  · have hstop : range.stop = layerCount := hstop
    simp [NumberedStages, Partitions, stageAt, hassigned, hstart, hstop, hlayers]

/-! ## Counts -/

theorem Partitions.sum_layers (h : Partitions stop start stages) :
    (stages.map Stage.layers).sum = stop - start := by
  induction stages generalizing start with
  | nil =>
    obtain rfl : start = stop := h
    simp
  | cons stage stages ih =>
    rw [List.map_cons, List.sum_cons, ih h.2.2, Stage.layers, h.1]
    omega

theorem totalLayers_pos {total last : Int} (h : totalLayers total counts = some last) :
    ∀ count ∈ counts, 0 < count := by
  induction counts generalizing total with
  | nil => exact List.forall_mem_nil _
  | cons count counts ih =>
    rw [totalLayers] at h
    split_ifs at h with hpos
    exact List.forall_mem_cons.2 ⟨not_le.1 hpos, ih h⟩

theorem planError_bounds (h : planError model policy = none) :
    0 < model.layerCount ∧ 0 ≤ policyStageCount policy ∧
      policyStageCount policy ≤ model.layerCount := by
  have hplan : validatePlanningRequest model.layerCount (policyStageCount policy) = none := by
    unfold planError at h
    split at h
    · cases h
    · assumption
  unfold validatePlanningRequest at hplan
  split_ifs at hplan
  omega

theorem Policy.fits_of_planError (h : planError model policy = none)
    (htotal : policy.stageLayerCounts ≠ [] → policy.stageLayerCounts.sum = model.layerCount) :
    policy.Fits model.layerCount := by
  obtain ⟨-, hcount, hstages⟩ := planError_bounds h
  refine
    { stageCount := ?_
      stages := hstages
      length := fun hcounts => (planError_counts h hcounts).1
      positive := fun count hmem => ?_
      total := htotal }
  · unfold policyStageCount at hcount
    split_ifs at hcount <;> omega
  · exact totalLayers_pos (planError_counts h (List.ne_nil_of_mem hmem)).2 count hmem

/-! ## Routes -/

variable {chosen : List Placement × List Int}

/-- A whole model that a runtime already holds. -/
def IsReplica (layerCount : Int) (placement : Placement) : Prop :=
  Advertises 1 0 placement ∧ placement.runtimeLayerStart = 0 ∧
    placement.runtimeLayerEnd = layerCount

/-- A route: the narrowest advertised pipeline, else a replica, else as many stages as asked for. -/
inductive Feasible (policy : Policy) (layerCount : Int) (candidates : List Placement) : Prop
  | advertised {found : List Placement}
      (hfound : Narrowest candidates policy.stageCount layerCount found)
      (hwidth : policy.stageLayerCounts = [] ∨ policy.stageLayerCounts.length = found.length)
      (hhosts : (found.map (·.physicalHostId)).Nodup ∨ policy.allowColocatedStages = true)
      (hnodes : (found.map (·.nodeId)).Nodup)
  | replica {placement : Placement}
      (hnone : ∀ found, ¬ Narrowest candidates policy.stageCount layerCount found)
      (hmem : placement ∈ candidates) (hreplica : IsReplica layerCount placement)
  | single (hunassigned : Unassigned candidates) (hsome : candidates ≠ [])
      (hone : requestedStages policy candidates layerCount ≤ 1 ∨ candidates.length = 1)
  | spread (hunassigned : Unassigned candidates)
      (htwo : 2 ≤ requestedStages policy candidates layerCount)
      (hmany : requestedStages policy candidates layerCount ≤ candidates.length)
      (htotal : policy.stageLayerCounts ≠ [] → policy.stageLayerCounts.sum = layerCount)
      (hhosts : requestedStages policy candidates layerCount ≤ (hosts candidates).card ∨
        policy.allowColocatedStages = true)
      (hnodes : ((spreadPlacements candidates (requestedStages policy candidates layerCount)).map
        (·.nodeId)).Nodup)

theorem Chosen.eq_ok (h : Chosen candidates model policy chosen) :
    chosenPlacements candidates model policy = .ok chosen := by
  cases candidates with
  | nil =>
    have hnone : advertisedPipeline [] model policy = none := advertisedPipeline_of_unassigned rfl
    cases h with
    | advertised hfound => exact nomatch hnone.symm.trans hfound
    | replica _ hassigned => cases hassigned
    | single hfirst => cases hfirst
    | spread _ _ _ htwo _ hle =>
      have hlength : (([] : List Placement).length : Int) = 0 := rfl
      omega
  | cons first others =>
    cases h with
    | advertised hfound => simp only [chosenPlacements, hfound]
    | replica hnone hassigned hfound =>
      simp only [chosenPlacements, hnone, hassigned, if_true, hfound]
    | single hfirst hnone hassigned hsingle =>
      cases hfirst
      simp only [chosenPlacements, hnone, hassigned, Bool.false_eq_true, if_false,
        assignedPlacements, if_pos hsingle]
    | spread hnone hassigned hmode htwo hmany hle =>
      have hsingle : ¬ (¬ supportsMode model executionModePipelineParallel ∨
          requestedStages policy (first :: others) model.layerCount ≤ 1 ∨
          (first :: others).length = 1) := by
        simp only [hmode, not_true_eq_false, false_or, not_or]
        exact ⟨by omega, hmany⟩
      simp only [chosenPlacements, hnone, hassigned, Bool.false_eq_true, if_false,
        assignedPlacements, if_neg hsingle, if_neg (not_lt.2 hle)]

theorem replica_of_verified {placement : Placement}
    (h : verifiedFullModelReplica candidates layerCount = some placement) :
    placement ∈ candidates ∧ IsReplica layerCount placement := by
  refine ⟨List.mem_of_find?_eq_some h, ?_⟩
  have hfields := List.find?_some h
  simp only [Bool.and_eq_true, beq_iff_eq] at hfields
  obtain ⟨⟨⟨⟨hassigned, hindex⟩, hcount⟩, hstart⟩, hstop⟩ := hfields
  exact ⟨⟨hassigned, hcount, hindex⟩, hstart, hstop⟩

theorem verified_of_replica {placement : Placement} (hmem : placement ∈ candidates)
    (h : IsReplica layerCount placement) :
    ∃ replica, verifiedFullModelReplica candidates layerCount = some replica := by
  refine Option.isSome_iff_exists.1 (List.find?_isSome.2 ⟨placement, hmem, ?_⟩)
  obtain ⟨⟨hassigned, hcount, hindex⟩, hstart, hstop⟩ := h
  simp [hassigned, hcount, hindex, hstart, hstop]

theorem routeError_single {placement : Placement} (hlayers : 0 < layerCount)
    (h : placement.runtimeStageAssigned = true → IsReplica layerCount placement) :
    routeError policy layerCount ([placement], []) = none :=
  routeError_eq_none.2 ⟨validateStagePlan_single hlayers h, fun _ hmany => absurd hmany (by simp)⟩

theorem routeError_chain (hplan : planError model policy = none)
    (hchain : Chain candidates requested model.layerCount found) :
    routeError policy model.layerCount (found, policy.stageLayerCounts) = none ↔
      (policy.stageLayerCounts = [] ∨ policy.stageLayerCounts.length = found.length) ∧
        ((found.map (·.physicalHostId)).Nodup ∨ policy.allowColocatedStages = true) := by
  have htwo : 1 < found.length := hchain.two
  have hwidth := hchain.covers.length_le
  rw [routeError_eq_none, validateStagePlan_chain hchain,
    rangesFor_length_iff hplan (by omega) (by omega), topologyForPlacements_eq_colocated htwo,
    or_iff_not_imp_left (a := (found.map (·.physicalHostId)).Nodup)]
  exact and_congr_right fun _ => ⟨fun h hnot => h hnot htwo, fun h hnot _ => h hnot⟩

theorem routeError_spread_iff (hplan : planError model policy = none)
    (hbound : model.layerCount < 2 ^ 63) (hint : ∀ count ∈ policy.stageLayerCounts, IsInt64 count)
    (hunassigned : Unassigned candidates)
    (htwo : 2 ≤ requestedStages policy candidates model.layerCount)
    (hle : requestedStages policy candidates model.layerCount ≤ candidates.length) :
    routeError policy model.layerCount
        (spreadPlacements candidates (requestedStages policy candidates model.layerCount),
          policy.stageLayerCounts) = none ↔
      (policy.stageLayerCounts ≠ [] → policy.stageLayerCounts.sum = model.layerCount) ∧
        (requestedStages policy candidates model.layerCount ≤ (hosts candidates).card ∨
          policy.allowColocatedStages = true) := by
  constructor
  · intro hroute
    have hstages := (routeError_eq_none.1 hroute).1
    refine ⟨fun hcounts => ?_, (routeError_spread htwo hle hstages).1 hroute⟩
    have hsum := (validateStagePlan_eq_none.1 hstages).2.2.2.2.sum_layers
    rwa [layers_of_unassigned (fun p hp => hunassigned p (spreadPlacements_subset hp)) hcounts hint
      hstages, sub_zero] at hsum
  · rintro ⟨htotal, hhosts⟩
    have hfits := Policy.fits_of_planError hplan htotal
    have hrequested : requestedStages policy candidates model.layerCount ≤ model.layerCount ∧
        (policyStageCount policy = 0 ∨ policyStageCount policy =
          requestedStages policy candidates model.layerCount) := by
      unfold requestedStages
      split_ifs with hzero
      · exact ⟨min_le_right _ _, .inl hzero⟩
      · exact ⟨hfits.stages, .inr rfl⟩
    exact (routeError_spread htwo hle (validateStagePlan_spread hfits hbound hunassigned (by omega)
      hle hrequested.1 hrequested.2)).2 hhosts

/-- **The choice makes a route exactly when the candidates carry one.** -/
theorem exists_route_iff (hplan : planError model policy = none)
    (hmode : supportsMode model executionModePipelineParallel = true)
    (hbound : model.layerCount < 2 ^ 63)
    (hint : ∀ count ∈ policy.stageLayerCounts, IsInt64 count) :
    (∃ chosen, chosenPlacements candidates model policy = .ok chosen ∧
      routeError policy model.layerCount chosen = none ∧ (chosen.1.map (·.nodeId)).Nodup) ↔
        Feasible policy model.layerCount candidates := by
  have hlayers := (planError_bounds hplan).1
  have hpipeline : advertisedPipeline candidates model policy =
      explicitPipelinePlacements candidates model.layerCount policy.stageCount :=
    advertisedPipeline_of_mode hmode
  constructor
  · rintro ⟨chosen, hchosen, hroute, hnodes⟩
    cases chosen_of_eq_ok hchosen with
    | advertised hfound =>
      have hleast := (explicitPipelinePlacements_eq_some hlayers).1 (hpipeline.symm.trans hfound)
      obtain ⟨hwidth, hhosts⟩ := (routeError_chain hplan hleast.chain).1 hroute
      exact .advertised hleast hwidth hhosts hnodes
    | replica hnone _ hfound =>
      obtain ⟨hmem, hreplica⟩ := replica_of_verified hfound
      refine .replica (fun found hleast => ?_) hmem hreplica
      exact nomatch hnone.symm.trans
        (hpipeline.trans ((explicitPipelinePlacements_eq_some hlayers).2 hleast))
    | single hfirst _ hassigned hsingle =>
      refine .single (unassigned_iff.2 hassigned) ?_ (hsingle.resolve_left (not_not.2 hmode))
      rintro rfl
      cases hfirst
    | spread _ hassigned _ htwo _ hle =>
      have hunassigned := unassigned_iff.2 hassigned
      obtain ⟨htotal, hhosts⟩ :=
        (routeError_spread_iff hplan hbound hint hunassigned htwo hle).1 hroute
      exact .spread hunassigned htwo hle htotal hhosts hnodes
  · intro h
    cases h with
    | @advertised found hfound hwidth hhosts hnodes =>
      refine ⟨(found, policy.stageLayerCounts), Chosen.eq_ok (.advertised ?_),
        (routeError_chain hplan hfound.chain).2 ⟨hwidth, hhosts⟩, hnodes⟩
      rw [hpipeline, (explicitPipelinePlacements_eq_some hlayers).2 hfound]
    | @replica placement hnone hmem hreplica =>
      obtain ⟨replica, hfound⟩ := verified_of_replica hmem hreplica
      have hother : advertisedPipeline candidates model policy = none := by
        rw [hpipeline, Option.eq_none_iff_forall_ne_some]
        intro found hsome
        exact hnone found ((explicitPipelinePlacements_eq_some hlayers).1 hsome)
      refine ⟨([replica], []), Chosen.eq_ok (.replica hother ?_ hfound),
        routeError_single hlayers fun _ => (replica_of_verified hfound).2, List.nodup_singleton _⟩
      exact List.any_eq_true.2 ⟨placement, hmem, hreplica.1.1⟩
    | single hunassigned hsome hone =>
      have hassigned := unassigned_iff.1 hunassigned
      obtain ⟨first, others, rfl⟩ := List.exists_cons_of_ne_nil hsome
      refine ⟨([first], []), Chosen.eq_ok (.single rfl (advertisedPipeline_of_unassigned hassigned)
        hassigned (.inr hone)), routeError_single hlayers fun hself => ?_, List.nodup_singleton _⟩
      rw [hunassigned first List.mem_cons_self] at hself
      cases hself
    | spread hunassigned htwo hmany htotal hhosts hnodes =>
      have hassigned := unassigned_iff.1 hunassigned
      exact ⟨_, Chosen.eq_ok (.spread (advertisedPipeline_of_unassigned hassigned) hassigned hmode
        htwo (by omega) hmany), (routeError_spread_iff hplan hbound hint hunassigned htwo hmany).2
          ⟨htotal, hhosts⟩, hnodes⟩

/-! ## Plans -/

variable {P : Platform} {wallClock now : Time} {staleAfter requiredStages : Int} {engine : Bytes}
  {members : List Member} {group : CompatibilityGroup} {includeBackend : Bool}
  {known : List (Member × DeploymentCompatibility)} {req : DeploymentBuildRequest}

theorem IsGroup.exists_facts {key : Bytes} (h : IsGroup known includeBackend key group) :
    ∃ q ∈ known, compatibilityKey q.2 includeBackend = key ∧ q.2 = group.compatibility := by
  obtain ⟨q, hq, hfacts⟩ := Option.map_eq_some_iff.1 h.facts
  obtain ⟨hmem, hkey⟩ := List.mem_filter.1 (List.mem_of_head? hq)
  exact ⟨q, hmem, by simpa using hkey, hfacts⟩

theorem trimSpace_capabilityText (caps : Capabilities) (key : Bytes) :
    trimSpace (capabilityText caps key) = capabilityText caps key := by
  unfold capabilityText
  split
  · exact trimSpace_idem _
  · rfl

/-- The facts of a group that a plan writes down are not empty. -/
theorem facts_of_group
    (h : P.compatibleDeploymentMembers model engine members now staleAfter requiredStages =
      .ok group) :
    trimSpace group.compatibility.stageTransport ≠ [] ∧
      trimSpace group.compatibility.activationEncoding ≠ [] ∧
      trimSpace group.compatibility.kvCacheType ≠ [] := by
  obtain ⟨key, hgroup⟩ := isGroup_of_compatibleDeploymentMembers h
  obtain ⟨⟨member, facts⟩, hq, -, hcompatibility⟩ := hgroup.exists_facts
  have hmember := (mem_deploymentMembers.1 hq).2
  rw [← hcompatibility]
  clear hcompatibility
  unfold Platform.memberDeploymentCompatibility at hmember
  simp only [Option.bind_eq_bind, Option.ite_none_left_eq_some, Option.bind_eq_some_iff] at hmember
  obtain ⟨htexts, speculativeMax, -, parallelSessions, -, decodeBatchSize, -, -, -, -, -, -, -, -, -,
    hfacts⟩ := hmember
  cases hfacts
  simp only [not_or] at htexts
  simp only [trimSpace_capabilityText]
  exact ⟨htexts.2.2.1, htexts.2.2.2.1, htexts.2.2.2.2.1⟩

/-- The checks of a plan on the stages of a route. -/
theorem validatePlanStages_route
    (hstages : validateStagePlan (routeStages layerCount chosen) layerCount = none)
    (hids : ∀ p ∈ chosen.1, trimSpace p.nodeId = p.nodeId ∧ p.nodeId ≠ []) :
    validatePlanStages (routeStages layerCount chosen).length layerCount [] 0 0
        (routeStages layerCount chosen) = none ↔ (chosen.1.map (·.nodeId)).Nodup := by
  obtain ⟨-, hsome, -, hnumbered, hparts⟩ := validateStagePlan_eq_none.1 hstages
  have hnodes : (routeStages layerCount chosen).map (fun stage => trimSpace stage.nodeId) =
      chosen.1.map (·.nodeId) :=
    routeStages_map_placements hsome fun p hp _ _ => (hids p hp).1
  rw [validatePlanStages_eq_none, hnodes]
  refine ⟨fun h => h.2.2.2, fun h => ⟨hnumbered, hparts, fun stage hstage => ⟨?_, ?_⟩, h⟩⟩
  · obtain ⟨p, hp, index, range, rfl⟩ := mem_routeStages hstage
    show trimSpace p.nodeId ≠ []
    rw [(hids p hp).1]
    exact (hids p hp).2
  · exact List.not_mem_nil

theorem eligible_ids
    (h : P.compatibleDeploymentMembers (Platform.deployedModel req.model) engine req.members
      (planningTime wallClock req.now) req.staleAfter (requiredDeploymentStages req.policy) =
        .ok group) :
    ∀ p ∈ P.eligible wallClock (groupRequest wallClock req group),
      trimSpace p.nodeId = p.nodeId ∧ p.nodeId ≠ [] := by
  intro p hp
  rw [(eligible_group_perm h).mem_iff, List.mem_map] at hp
  obtain ⟨m, hm, rfl⟩ := hp
  obtain ⟨key, hgroup⟩ := isGroup_of_compatibleDeploymentMembers h
  obtain ⟨member, -, hvalid, -, rfl⟩ :=
    mem_freshMembers.1 (hgroup.facts_of_mem (List.mem_of_mem_filter hm)).1
  rw [placementForMember_nodeId]
  refine ⟨trimSpace_idem _, fun hnil => ?_⟩
  have hnil : trimSpace member.nodeId = [] := hnil
  simp [Member.valid, hnil] at hvalid

/-- The checks on the identity and the model. -/
structure Deployable (identity : PlanIdentity) (model : ModelProfile) (policy : Policy)
    (engine : Bytes) : Prop where
  deploymentId : trimSpace identity.deploymentId ≠ []
  epoch : identity.epoch ≠ 0
  modelId : trimSpace (Platform.deployedModel model).id ≠ []
  sha256 : validSha256 (toLower (trimSpace (Platform.deployedModel model).artifactSha256)) = true
  engine : trimSpace engine ≠ []
  planned : planError model policy = none

theorem Platform.Builds.deployable (h : P.Builds wallClock req)
    (hengine : P.deploymentEngine (Platform.deployedModel req.model) = .ok engine) :
    Deployable req.identity req.model req.policy engine := by
  obtain ⟨result, hresult⟩ := h
  obtain ⟨engine', group, chosen, hbuilt⟩ := built_of_eq_ok hresult
  obtain ⟨_, _, _, hselect, -, -, -, -, hplan, -⟩ := buildDeploymentPlan_eq_ok.1 hresult
  obtain ⟨hengine', -, -⟩ := selectMembers_eq_ok.1 hselect
  cases Except.ok.inj (hengine'.symm.trans hengine)
  obtain ⟨hidentity, hmodel, -⟩ := newDeploymentPlan_eq_ok.1 hplan
  obtain ⟨hid, hepoch, hchecked⟩ := validateDeploymentPlan_eq_none.1 result.plan.valid
  rw [hidentity] at hid hepoch
  rw [hmodel] at hchecked
  simp only [validatePlanModel, Checks.ite_some_eq_none, not_not] at hchecked
  exact ⟨hid, hepoch, hchecked.1, hchecked.2.1, hchecked.2.2.1,
    (planned_eq_ok.1 hbuilt.planned).1⟩

/-- A build succeeds exactly when the selected group carries a route. -/
theorem builds_iff (hbound : req.model.layerCount < 2 ^ 63)
    (hint : ∀ count ∈ req.policy.stageLayerCounts, IsInt64 count)
    (hengine : P.deploymentEngine (Platform.deployedModel req.model) = .ok engine)
    (hgroup : P.compatibleDeploymentMembers (Platform.deployedModel req.model) engine req.members
      (planningTime wallClock req.now) req.staleAfter (requiredDeploymentStages req.policy) =
        .ok group)
    (hdeployable : Deployable req.identity req.model req.policy engine) :
    P.Builds wallClock req ↔ Feasible req.policy req.model.layerCount (P.sort.run placementLess
      ((eligibleMembers req.model group.members).map (P.placementForMember req.model))) := by
  have hmode := supportsMode_of_deploymentEngine hengine
  have hplanned : planError (Platform.deployedModel req.model) req.policy = none :=
    hdeployable.planned
  have hids := eligible_ids hgroup
  rw [← eligible_group hgroup]
  refine Iff.trans ⟨?_, ?_⟩ (exists_route_iff hplanned hmode hbound hint)
  · rintro ⟨result, hresult⟩
    obtain ⟨engine', group', chosen, hbuilt⟩ := built_of_eq_ok hresult
    cases Except.ok.inj (hbuilt.selectsEngine.symm.trans hengine)
    cases Except.ok.inj (hbuilt.selectsGroup.symm.trans hgroup)
    refine ⟨chosen, (planned_eq_ok.1 hbuilt.planned).2, hbuilt.route, ?_⟩
    have hnodes := result.plan.nodup_nodes
    rw [hbuilt.stages] at hnodes
    have hsame : (routeStages req.model.layerCount chosen).map (·.nodeId) =
        chosen.1.map (·.nodeId) :=
      routeStages_map_placements hbuilt.stages_ne_nil fun p _ _ _ => rfl
    rwa [hsame] at hnodes
  · rintro ⟨chosen, hchosen, hroute, hnodes⟩
    have hstages := (routeError_eq_none.1 hroute).1
    have hplanned : P.planned wallClock (groupRequest wallClock req group) = .ok chosen :=
      planned_eq_ok.2 ⟨hdeployable.planned, hchosen⟩
    have hvalid := preview_valid_iff.2 ⟨chosen, hplanned, hroute⟩
    have hsubset := (chosen_of_eq_ok hchosen).subset
    have hnodes := (validatePlanStages_route hstages fun p hp => hids p (hsubset p hp)).2 hnodes
    obtain ⟨htransport, hencoding, hcache⟩ := facts_of_group hgroup
    have hplan : validateDeploymentPlan ⟨trimSpace req.identity.deploymentId, req.identity.epoch⟩
        (Platform.deploymentPlanSpec req.identity (Platform.deployedModel req.model) engine group
          (P.preview wallClock (groupRequest wallClock req group))).normalize.model
        (P.preview wallClock (groupRequest wallClock req group)).stages = none := by
      rw [preview_stages hplanned, validateDeploymentPlan_eq_none]
      refine ⟨hdeployable.deploymentId, hdeployable.epoch, ?_⟩
      simp only [validatePlanModel, Checks.ite_some_eq_none, not_not]
      refine ⟨hdeployable.modelId, hdeployable.sha256, hdeployable.engine, htransport, hencoding,
        hcache, not_le.2 (planError_bounds hdeployable.planned).1, fun h => ?_, fun h => h.2 rfl,
        (validateStagePlan_eq_none.1 hstages).2.1, hnodes⟩
      have hmode : executionModePipelineParallel = executionModeDataParallel := h.1
      exact absurd hmode (by decide)
    let plan : DeploymentPlan := ⟨_, _, _, hplan⟩
    obtain ⟨result, hresult, -⟩ := buildDeploymentPlan_of_preview hengine hgroup hvalid
      (newDeploymentPlan_eq_ok.2 (⟨rfl, rfl, rfl⟩ : plan.identity = _ ∧ plan.model = _ ∧ _))
    exact ⟨result, hresult⟩

/-- **The planner takes the first largest group, and succeeds exactly when it carries a route.** -/
theorem buildDeploymentPlan_selected (hbound : req.model.layerCount < 2 ^ 63)
    (hint : ∀ count ∈ req.policy.stageLayerCounts, IsInt64 count)
    (hengine : P.deploymentEngine (Platform.deployedModel req.model) = .ok engine)
    (hgroup : group ∈ P.groups (Platform.deployedModel req.model) engine req.members
      (planningTime wallClock req.now) req.staleAfter)
    (hbuilds : P.Builds wallClock { req with members := group.members }) :
    ∃ before selected after,
      P.groups (Platform.deployedModel req.model) engine req.members
        (planningTime wallClock req.now) req.staleAfter = before ++ selected :: after ∧
      (∀ other ∈ before, other.members.length < selected.members.length) ∧
      (∀ other ∈ after, other.members.length ≤ selected.members.length) ∧
      (P.Builds wallClock req ↔
        Feasible req.policy req.model.layerCount (P.sort.run placementLess
          ((eligibleMembers req.model selected.members).map (P.placementForMember req.model)))) := by
  obtain ⟨_, _, chosen, hbuilt⟩ := built_of_eq_ok hbuilds.choose_spec
  cases Except.ok.inj (hbuilt.selectsEngine.symm.trans hengine)
  have hlarge := ((compatibleDeploymentMembers_of_group hgroup).1 hbuilt.selectsGroup).2
  have hspec := selectGroup_spec (requiredDeploymentStages req.policy)
    (P.groups (Platform.deployedModel req.model) engine req.members
      (planningTime wallClock req.now) req.staleAfter)
  cases hselected : selectGroup (requiredDeploymentStages req.policy)
      (P.groups (Platform.deployedModel req.model) engine req.members
        (planningTime wallClock req.now) req.staleAfter) with
  | none =>
    rw [hselected] at hspec
    exact absurd hlarge (not_le.2 (hspec group hgroup))
  | some selected =>
    rw [hselected] at hspec
    obtain ⟨-, before, after, hsplit, hbefore, hafter⟩ := hspec
    -- what does not depend on the members was checked for the group alone
    have hdeployable : Deployable req.identity req.model req.policy engine :=
      hbuilds.deployable hengine
    exact ⟨before, selected, after, hsplit, hbefore, hafter,
      builds_iff hbound hint hengine (compatibleDeploymentMembers_eq_ok.2 hselected) hdeployable⟩

/-- Two small nodes of one build and a large one of another. -/
def unevenRequest : DeploymentBuildRequest :=
  sampleRequest
    [sampleNode (str "a") (str "amd64"), sampleNode (str "b") (str "amd64"),
      sampleNode (str "c") (str "arm64") [(capabilityMemoryGb, .int 16)]]
    { sampleModel with minMemoryGb := .finite 8 }

/-- **A group that is missed**: the model fits on the large node. -/
theorem buildDeploymentPlan_misses :
    samplePlatform.deploymentEngine (Platform.deployedModel unevenRequest.model) =
        .ok (str "synthetic") ∧
      ((samplePlatform.groups (Platform.deployedModel unevenRequest.model) (str "synthetic")
        unevenRequest.members 0 0).map fun group => (group.members.map (·.nodeId),
          (samplePlatform.buildDeploymentPlan 0
            { unevenRequest with members := group.members }).toBool)) =
        [([str "a", str "b"], false), ([str "c"], true)] ∧
      (samplePlatform.buildDeploymentPlan 0 unevenRequest).toBool = false := by
  decide +kernel

/-- The selection among the nodes of the request above. -/
theorem buildDeploymentPlan_selected_uneven :
    ∃ group ∈ samplePlatform.groups (Platform.deployedModel unevenRequest.model) (str "synthetic")
        unevenRequest.members 0 0,
      samplePlatform.Builds 0 { unevenRequest with members := group.members } ∧
      ∃ before selected after,
        samplePlatform.groups (Platform.deployedModel unevenRequest.model) (str "synthetic")
          unevenRequest.members 0 0 = before ++ selected :: after ∧
        (∀ other ∈ before, other.members.length < selected.members.length) ∧
        (∀ other ∈ after, other.members.length ≤ selected.members.length) ∧
        (samplePlatform.Builds 0 unevenRequest ↔
          Feasible {} 2 (samplePlatform.sort.run placementLess
            ((eligibleMembers unevenRequest.model selected.members).map
              (samplePlatform.placementForMember unevenRequest.model)))) := by
  have hbuilds : ∃ group ∈ samplePlatform.groups (Platform.deployedModel unevenRequest.model)
      (str "synthetic") unevenRequest.members 0 0,
      (samplePlatform.buildDeploymentPlan 0
        { unevenRequest with members := group.members }).toBool = true := by
    decide +kernel
  obtain ⟨group, hgroup, hbuilds⟩ := hbuilds
  have hbuilds : samplePlatform.Builds 0 { unevenRequest with members := group.members } :=
    Checks.exists_of_toBool hbuilds
  exact ⟨group, hgroup, hbuilds, buildDeploymentPlan_selected (by decide) (List.forall_mem_nil _)
    (by decide) hgroup hbuilds⟩

end JetsonFabric
