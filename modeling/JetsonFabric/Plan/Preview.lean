import JetsonFabric.Plan.Member

/-!
# Route previews

`Preview` of `clusterplan/plan.go` with its validation (`clusterplan/validation.go`) and
`PreviewPipeline` (`clusterplan/pipeline.go`): from the members of a cluster to an ordered list of
stages for one model.
-/

namespace JetsonFabric

/-! ## Data -/

inductive Topology
  | colocated
  | distributed
  deriving DecidableEq

/-- Why a route is as it is; the empty reason is `none`. -/
inductive Reason
  | candidate
  | noEligibleMembers
  | insufficientMemory
  | missingCompute
  | missingComputeBackend (backend : Bytes)
  | insufficientStages
  | colocatedStagesDisallowed
  | pipelineParallelUnsupported
  | invalidLayerCount
  | invalidStageCount
  | invalidStageLayerCounts
  | stageCountExceedsLayers
  | invalidStageIndices
  | invalidLayerRanges
  | incompleteRuntimeAssignments
  deriving DecidableEq

def Reason.text : Reason → Bytes
  | .candidate => str "candidate"
  | .noEligibleMembers => str "no_eligible_members"
  | .insufficientMemory => str "insufficient_memory"
  | .missingCompute => str "missing_compute"
  | .missingComputeBackend backend => str "missing_compute:" ++ backend
  | .insufficientStages => str "insufficient_stages"
  | .colocatedStagesDisallowed => str "colocated_stages_disallowed"
  | .pipelineParallelUnsupported => str "pipeline_parallel_unsupported"
  | .invalidLayerCount => str "invalid_layer_count"
  | .invalidStageCount => str "invalid_stage_count"
  | .invalidStageLayerCounts => str "invalid_stage_layer_counts"
  | .stageCountExceedsLayers => str "stage_count_exceeds_layers"
  | .invalidStageIndices => str "invalid_stage_indices"
  | .invalidLayerRanges => str "invalid_layer_ranges"
  | .incompleteRuntimeAssignments => str "incomplete_runtime_assignments"

def warningColocated : Bytes :=
  str "colocated stages validate orchestration, not distributed physical compute"

def warningUsingFullReplica : Bytes :=
  str "no complete explicit pipeline assignment found; using one full-model replica"

/-- What an operator asks of a route. -/
structure Policy where
  allowColocatedStages : Bool := false
  stageCount : Int := 0
  stageLayerCounts : List Int := []
  deriving DecidableEq

/-- A member as a place for a stage. -/
structure Placement where
  nodeId : Bytes
  nodeName : Bytes
  hostname : Bytes
  physicalHostId : Bytes
  apiUrl : Bytes
  runtimeUrl : Bytes
  valid : Bool
  memoryOk : Bool
  computeOk : Bool
  reason : Reason
  runtimeStageAssigned : Bool := false
  runtimeStageIndex : Int := 0
  runtimeStageCount : Int := 0
  runtimeLayerStart : Int := 0
  runtimeLayerEnd : Int := 0
  deriving DecidableEq

/-- One stage of a route. -/
structure Stage where
  stageIndex : Int
  stageCount : Int
  nodeId : Bytes
  nodeName : Bytes
  hostname : Bytes
  physicalHostId : Bytes
  apiUrl : Bytes
  runtimeUrl : Bytes
  layerStart : Int
  layerEnd : Int
  deriving DecidableEq

structure LayerRange where
  start : Int
  stop : Int
  deriving DecidableEq

/-- A planned route, or the reason why there is none. -/
structure RoutePreview where
  model : Bytes
  valid : Bool := false
  reason : Option Reason := none
  mode : Bytes := []
  topology : Option Topology := none
  stageCount : Int := 0
  logicalNodeCount : Nat := 0
  physicalHostCount : Nat := 0
  placements : List Placement := []
  stages : List Stage := []
  warnings : List Bytes := []
  deriving DecidableEq

structure PlanRequest where
  model : ModelProfile
  members : List Member
  now : Time
  staleAfter : Int
  policy : Policy

/-! ## Validation -/

def validatePlanningRequest (layerCount requestedStageCount : Int) : Option Reason :=
  if layerCount ≤ 0 then some .invalidLayerCount
  else if requestedStageCount < 0 then some .invalidStageCount
  else if layerCount < requestedStageCount then some .stageCountExceedsLayers
  else none

def policyStageCount (policy : Policy) : Int :=
  if policy.stageCount ≠ 0 then policy.stageCount else policy.stageLayerCounts.length

/-- The running total of positive counts. -/
def totalLayers (total : Int) : List Int → Option Int
  | [] => some total
  | count :: counts => if count ≤ 0 then none else totalLayers (wrap64 (total + count)) counts

def validateStageLayerCounts (layerCount stageCount : Int) (counts : List Int) : Option Reason :=
  if counts = [] then none
  else if stageCount ≠ counts.length then some .invalidStageLayerCounts
  else if totalLayers 0 counts = some layerCount then none
  else some .invalidStageLayerCounts

/-- The loop of `validateStagePlan`: the stages from the one at `index` on. -/
def validateStagesFrom (count : Nat) (layerCount : Int) :
    Int → Int → List Stage → Option Reason
  | _, expectedStart, [] =>
    if expectedStart ≠ layerCount then some .invalidLayerRanges else none
  | index, expectedStart, stage :: stages =>
    if stage.stageIndex ≠ index ∨ stage.stageCount ≠ count then some .invalidStageIndices
    else if stage.layerStart ≠ expectedStart ∨ stage.layerEnd ≤ stage.layerStart ∨
        layerCount < stage.layerEnd then some .invalidLayerRanges
    else validateStagesFrom count layerCount (index + 1) stage.layerEnd stages

def validateStagePlan (stages : List Stage) (layerCount : Int) : Option Reason :=
  if layerCount ≤ 0 then some .invalidLayerCount
  else if stages = [] then some .invalidStageCount
  else if layerCount < stages.length then some .stageCountExceedsLayers
  else validateStagesFrom stages.length layerCount 0 0 stages

def verifiedFullModelReplica (candidates : List Placement) (layerCount : Int) :
    Option Placement :=
  candidates.find? fun c =>
    c.runtimeStageAssigned && c.runtimeStageIndex == 0 && c.runtimeStageCount == 1 &&
      c.runtimeLayerStart == 0 && c.runtimeLayerEnd == layerCount

/-! ## Placements -/

/-- The stage a runtime says it holds. -/
structure RuntimeStageAssignment where
  stageIndex : Int
  stageCount : Int
  layerStart : Int
  layerEnd : Int

def memoryOk (model : ModelProfile) (member : Member) : Bool :=
  model.minMemoryGb.le (.finite 0) ||
    model.minMemoryGb.le (floatCapability member.capabilities capabilityMemoryGb)

def computeOk (model : ModelProfile) (member : Member) : Bool :=
  match model.preferredCompute with
  | none => true
  | some compute =>
    compute == [] || containsStringCapability member.capabilities capabilityComputeBackends compute

def placementReason (memoryOk computeOk : Bool) (compute : Option Bytes) : Reason :=
  if !memoryOk then .insufficientMemory
  else if !computeOk then
    match compute with
    | some backend => .missingComputeBackend backend
    | none => .missingCompute
  else .candidate

namespace Platform

variable (P : Platform)

def hostFromUrl (rawUrl : Bytes) : Bytes :=
  match P.parseUrl (trimSpace rawUrl) with
  | .error _ => []
  | .ok parsed =>
    if parsed.host = [] then []
    else if parsed.hostname ≠ [] then parsed.hostname
    else match P.splitHostPort parsed.host with
      | some (host, _) => host
      | none => parsed.host

def physicalHostId (member : Member) : Bytes :=
  if trimSpace member.hostname ≠ [] then trimSpace member.hostname
  else if P.hostFromUrl member.apiUrl ≠ [] then P.hostFromUrl member.apiUrl
  else if trimSpace member.nodeName ≠ [] then trimSpace member.nodeName
  else member.nodeId

def runtimeAssignment (member : Member) : Option RuntimeStageAssignment := do
  let stageIndex ← P.intCapability member.capabilities capabilityRuntimeStageIndex
  let stageCount ← P.intCapability member.capabilities capabilityRuntimeStageCount
  let layerStart ← P.intCapability member.capabilities capabilityRuntimeLayerStart
  let layerEnd ← P.intCapability member.capabilities capabilityRuntimeLayerEnd
  if stageCount ≤ 0 ∨ stageIndex < 0 ∨ stageCount ≤ stageIndex ∨ layerEnd ≤ layerStart then none
  else some { stageIndex, stageCount, layerStart, layerEnd }

def placementForMember (model : ModelProfile) (member : Member) : Placement :=
  let memory := memoryOk model member
  let compute := computeOk model member
  let placement : Placement :=
    { nodeId := member.nodeId
      nodeName := member.nodeName
      hostname := member.hostname
      physicalHostId := P.physicalHostId member
      apiUrl := member.apiUrl
      runtimeUrl := member.runtimeUrl
      valid := memory && compute
      memoryOk := memory
      computeOk := compute
      reason := placementReason memory compute model.preferredCompute }
  match P.runtimeAssignment member with
  | none => placement
  | some assignment =>
    { placement with
      runtimeStageAssigned := true
      runtimeStageIndex := assignment.stageIndex
      runtimeStageCount := assignment.stageCount
      runtimeLayerStart := assignment.layerStart
      runtimeLayerEnd := assignment.layerEnd }

end Platform

/-- The comparison of `sortPlacements`. -/
def placementLess (left right : Placement) : Bool :=
  if left.runtimeStageAssigned && right.runtimeStageAssigned &&
      left.runtimeStageCount == right.runtimeStageCount &&
      left.runtimeStageIndex != right.runtimeStageIndex then
    left.runtimeStageIndex < right.runtimeStageIndex
  else if left.physicalHostId ≠ right.physicalHostId then
    left.physicalHostId < right.physicalHostId
  else if left.nodeId ≠ right.nodeId then left.nodeId < right.nodeId
  else left.nodeName < right.nodeName

/-- All placements, and those that are candidates. -/
def Platform.candidatePlacements (P : Platform) (model : ModelProfile) (members : List Member)
    (now : Time) (staleAfter : Int) : List Placement × List Placement :=
  let placements := (freshMembers members now staleAfter).map (P.placementForMember model)
  (P.sort.run placementLess placements,
    P.sort.run placementLess (placements.filter (·.valid)))

def hasRuntimeAssignments (candidates : List Placement) : Bool :=
  candidates.any (·.runtimeStageAssigned)

/-- The ranges follow each other from `expectedStart` to the last layer. -/
def runtimeRangesCover (layerCount : Int) : Int → List Placement → Bool
  | expectedStart, [] => layerCount ≤ 0 || expectedStart == layerCount
  | expectedStart, placement :: placements =>
    if placement.runtimeLayerStart ≠ expectedStart ∨
        placement.runtimeLayerEnd ≤ placement.runtimeLayerStart then false
    else runtimeRangesCover layerCount placement.runtimeLayerEnd placements

def runtimeRangesCoverModel (placements : List Placement) (layerCount : Int) : Bool :=
  runtimeRangesCover layerCount 0 placements

/-- The candidates for a pipeline of the requested width. -/
def advertised (candidates : List Placement) (requestedStageCount : Int) : List Placement :=
  candidates.filter fun c =>
    c.runtimeStageAssigned && 2 ≤ c.runtimeStageCount &&
      !(0 < requestedStageCount && c.runtimeStageCount != requestedStageCount)

/-- The placements by their index, the first of each. -/
def orderedPlacements (placements : List Placement) (stageCount : Nat) : Option (List Placement) :=
  (List.range stageCount).mapM fun index : Nat =>
    placements.find? fun placement => placement.runtimeStageIndex = (index : Int)

/-- The complete advertised pipeline of one width. -/
def explicitPipelineOf (placements : List Placement) (layerCount stageCount : Int) :
    Option (List Placement) :=
  if (placements.length : Int) < stageCount then none
  else (orderedPlacements placements stageCount.toNat).filter
    (runtimeRangesCoverModel · layerCount)

/-- The narrowest complete advertised pipeline. -/
def explicitPipelinePlacements (candidates : List Placement)
    (layerCount requestedStageCount : Int) : Option (List Placement) :=
  let listed := advertised candidates requestedStageCount
  let stageCounts := ((listed.map (·.runtimeStageCount)).dedup).insertionSort (· ≤ ·)
  stageCounts.findSome? fun stageCount =>
    explicitPipelineOf (listed.filter (·.runtimeStageCount = stageCount)) layerCount stageCount

/-- The loop of `selectDistinctPhysicalHosts`. -/
def selectHostsFrom (count : Int) (selected : List Placement) : List Placement → List Placement
  | [] => selected
  | candidate :: candidates =>
    if selected.any (·.physicalHostId = candidate.physicalHostId) then
      selectHostsFrom count selected candidates
    else if ((selected ++ [candidate]).length : Int) = count then selected ++ [candidate]
    else selectHostsFrom count (selected ++ [candidate]) candidates

/-- The first candidate of each physical host, up to a number. -/
def selectDistinctPhysicalHosts (candidates : List Placement) (count : Int) : List Placement :=
  selectHostsFrom count [] candidates

/-! ## Stages -/

/-- The loop of `AssignConfiguredLayerRanges`. -/
def configuredRangesFrom (start : Int) : List Int → List LayerRange
  | [] => []
  | count :: counts =>
    { start, stop := wrap64 (start + count) } :: configuredRangesFrom (wrap64 (start + count)) counts

def assignConfiguredLayerRanges (layerCount : Int) (stageLayerCounts : List Int) :
    List LayerRange :=
  if validateStageLayerCounts layerCount stageLayerCounts.length stageLayerCounts ≠ none then []
  else configuredRangesFrom 0 stageLayerCounts

/-- The loop of `AssignLayerRanges`, for `n` stages. -/
def layerRangesFrom (base remainder : Int) : Nat → Int → Int → List LayerRange
  | 0, _, _ => []
  | n + 1, index, start =>
    let width := if index < remainder then base + 1 else base
    { start, stop := start + width } ::
      layerRangesFrom base remainder n (index + 1) (start + width)

def assignLayerRanges (layerCount stageCount : Int) : List LayerRange :=
  if layerCount ≤ 0 ∨ stageCount ≤ 0 ∨ layerCount < stageCount then []
  else layerRangesFrom (layerCount / stageCount) (layerCount % stageCount) stageCount.toNat 0 0

/-- The stage at a place; an advertised assignment goes first. -/
def stageAt (count : Nat) (index : Nat) (placement : Placement) (range : LayerRange) : Stage :=
  { stageIndex := if placement.runtimeStageAssigned then placement.runtimeStageIndex else index
    stageCount := if placement.runtimeStageAssigned then placement.runtimeStageCount else count
    nodeId := placement.nodeId
    nodeName := placement.nodeName
    hostname := placement.hostname
    physicalHostId := placement.physicalHostId
    apiUrl := placement.apiUrl
    runtimeUrl := placement.runtimeUrl
    layerStart := if placement.runtimeStageAssigned then placement.runtimeLayerStart
      else range.start
    layerEnd := if placement.runtimeStageAssigned then placement.runtimeLayerEnd else range.stop }

def buildStages (placements : List Placement) (layerCount : Int)
    (stageLayerCounts : List Int := []) : List Stage :=
  let ranges :=
    if stageLayerCounts ≠ [] then assignConfiguredLayerRanges layerCount stageLayerCounts
    else assignLayerRanges layerCount placements.length
  if ranges.length ≠ placements.length then []
  else (placements.zip ranges).zipIdx.map fun q => stageAt placements.length q.2 q.1.1 q.1.2

/-! ## Routes -/

/-- The loop over the physical hosts of a topology. -/
def topologyFrom (seen : List Bytes) : List Bytes → Topology
  | [] => if seen.length ≤ 1 then .colocated else .distributed
  | host :: hosts => if host ∈ seen then .colocated else topologyFrom (host :: seen) hosts

def topologyForStages (stages : List Stage) : Topology :=
  topologyFrom [] (stages.map (·.physicalHostId))

def topologyForPlacements (placements : List Placement) : Topology :=
  topologyFrom [] (placements.map (·.physicalHostId))

def finalizeTopology (preview : RoutePreview) : RoutePreview :=
  { preview with
    stageCount := preview.stages.length
    logicalNodeCount := (preview.stages.map (·.nodeId)).dedup.length
    physicalHostCount := (preview.stages.map (·.physicalHostId)).dedup.length
    topology := some (topologyForStages preview.stages) }

def dataParallelPreview (preview : RoutePreview) (placement : Placement) (layerCount : Int) :
    RoutePreview :=
  let preview := { preview with
    mode := executionModeDataParallel
    stages := buildStages [placement] layerCount }
  match validateStagePlan preview.stages layerCount with
  | some reason => finalizeTopology { preview with reason := some reason }
  | none => finalizeTopology { preview with valid := true }

def pipelinePreview (preview : RoutePreview) (placements : List Placement) (policy : Policy)
    (layerCount : Int) : RoutePreview :=
  let preview := { preview with
    mode := executionModePipelineParallel
    stages := buildStages placements layerCount policy.stageLayerCounts }
  let colocated := topologyForPlacements placements = .colocated ∧ 1 < placements.length
  match validateStagePlan preview.stages layerCount with
  | some reason => finalizeTopology { preview with reason := some reason }
  | none =>
    if colocated ∧ ¬ policy.allowColocatedStages then
      finalizeTopology { preview with
        reason := some .colocatedStagesDisallowed
        warnings := preview.warnings ++ [warningColocated] }
    else if colocated then
      finalizeTopology { preview with
        valid := true, warnings := preview.warnings ++ [warningColocated] }
    else finalizeTopology { preview with valid := true }

/-- The end of `Preview`, when no candidate advertises an assignment. -/
def assignedPreview (preview : RoutePreview) (candidates : List Placement) (first : Placement)
    (model : ModelProfile) (policy : Policy) : RoutePreview :=
  let pipelineSupported := supportsMode model executionModePipelineParallel
  let requestedStageCount :=
    if policyStageCount policy = 0 then min (candidates.length : Int) model.layerCount
    else policyStageCount policy
  if ¬ pipelineSupported ∨ requestedStageCount ≤ 1 ∨ candidates.length = 1 then
    let warnings :=
      if ¬ pipelineSupported ∧ 1 < requestedStageCount then
        preview.warnings ++ [Reason.pipelineParallelUnsupported.text]
      else preview.warnings
    dataParallelPreview { preview with warnings } first model.layerCount
  else if (candidates.length : Int) < requestedStageCount then
    { preview with reason := some .insufficientStages }
  else
    let distributed := selectDistinctPhysicalHosts candidates requestedStageCount
    if (distributed.length : Int) = requestedStageCount then
      pipelinePreview preview distributed policy model.layerCount
    else
      pipelinePreview preview (candidates.take requestedStageCount.toNat) policy model.layerCount

/-- The part of `Preview` that comes after its checks. -/
def routePreview (preview : RoutePreview) (candidates : List Placement) (model : ModelProfile)
    (policy : Policy) : RoutePreview :=
  match candidates with
  | [] => { preview with reason := some .noEligibleMembers }
  | first :: _ =>
    let explicit :=
      if supportsMode model executionModePipelineParallel then
        explicitPipelinePlacements candidates model.layerCount policy.stageCount
      else none
    match explicit with
    | some placements => pipelinePreview preview placements policy model.layerCount
    | none =>
      if hasRuntimeAssignments candidates then
        match verifiedFullModelReplica candidates model.layerCount with
        | some replica =>
          dataParallelPreview
            { preview with warnings := preview.warnings ++ [warningUsingFullReplica] }
            replica model.layerCount
        | none => { preview with reason := some .incompleteRuntimeAssignments }
      else assignedPreview preview candidates first model policy

namespace Platform

variable (P : Platform)

/-- The planner. The wall clock is read when the request carries no time. -/
def preview (wallClock : Time) (req : PlanRequest) : RoutePreview :=
  let now := if req.now = 0 then wallClock else req.now
  let (placements, candidates) := P.candidatePlacements req.model req.members now req.staleAfter
  let preview : RoutePreview := { model := req.model.id, placements }
  match validatePlanningRequest req.model.layerCount (policyStageCount req.policy) with
  | some reason => { preview with reason := some reason }
  | none =>
    match validateStageLayerCounts req.model.layerCount (policyStageCount req.policy)
        req.policy.stageLayerCounts with
    | some reason => { preview with reason := some reason }
    | none => routePreview preview candidates req.model req.policy

/-- The planner, with one stage over the whole model taken as a pipeline. -/
def previewPipeline (wallClock : Time) (req : PlanRequest) : RoutePreview :=
  let preview := P.preview wallClock req
  if ¬ preview.valid ∨ preview.stages.length ≠ 1 ∨ preview.stageCount ≠ 1 then preview
  else if ¬ supportsMode req.model executionModePipelineParallel then preview
  else { preview with mode := executionModePipelineParallel }

end Platform

end JetsonFabric
