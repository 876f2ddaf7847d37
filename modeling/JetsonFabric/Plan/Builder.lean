import JetsonFabric.Plan.Preview

/-!
# Deployment plans

`clusterplan/deployment.go` and `clusterplan/deployment_builder.go`: the immutable plan of one
epoch and its construction from a membership snapshot. A `DeploymentPlan` carries the check that
`NewDeploymentPlan` made, so every plan in the development is well formed.
-/

namespace JetsonFabric

/-! ## Plans -/

/-- The assignment of a plan, apart from the model it serves. -/
structure PlanIdentity where
  deploymentId : Bytes
  epoch : UInt64
  deriving DecidableEq

/-- What all stages of a plan share. -/
structure DeploymentModelIdentity where
  modelId : Bytes
  modelSha256 : Bytes
  engine : Bytes
  executionMode : Bytes
  stageTransport : Bytes
  activationEncoding : Bytes
  kvCacheType : Bytes
  layerCount : Int
  deriving DecidableEq

def validSha256 (value : Bytes) : Bool := value.length == 64 && value.all isXDigit

/-- The loop of `validateDeploymentPlan` from `index` on. -/
def validatePlanStages (count : Nat) (layerCount : Int) :
    List Bytes → Int → Int → List Stage → Option Bytes
  | _, _, expectedStart, [] =>
    if expectedStart ≠ layerCount then
      some (str "stage ranges end at " ++ decimal expectedStart ++ str ", want layer_count " ++
        decimal layerCount)
    else none
  | seenNodes, index, expectedStart, stage :: stages =>
    let nodeId := trimSpace stage.nodeId
    if stage.stageIndex ≠ index ∨ stage.stageCount ≠ count then
      some (str "stage " ++ decimal index ++ str " has inconsistent index or count")
    else if nodeId = [] then some (str "stage " ++ decimal index ++ str " node_id is required")
    else if nodeId ∈ seenNodes then
      some (str "node_id " ++ quote nodeId ++ str " is assigned more than once")
    else if stage.layerStart ≠ expectedStart then
      some (str "stage " ++ decimal index ++ str " layer range starts at " ++
        decimal stage.layerStart ++ str ", want " ++ decimal expectedStart)
    else if stage.layerEnd ≤ stage.layerStart then
      some (str "stage " ++ decimal index ++ str " layer range is empty or reversed")
    else
      validatePlanStages count layerCount (nodeId :: seenNodes) (index + 1) stage.layerEnd stages

/-- The checks of `validateDeploymentPlan` on the model and the stages. -/
def validatePlanModel (model : DeploymentModelIdentity) (stages : List Stage) : Option Bytes :=
  if model.modelId = [] then some (str "model_id is required")
  else if ¬ validSha256 model.modelSha256 then
    some (str "model_sha256 must be a 64-character hexadecimal digest")
  else if model.engine = [] then some (str "engine is required")
  else if model.stageTransport = [] then some (str "stage_transport is required")
  else if model.activationEncoding = [] then some (str "activation_encoding is required")
  else if model.kvCacheType = [] then some (str "kv_cache_type is required")
  else if model.layerCount ≤ 0 then some (str "layer_count must be positive")
  else if model.executionMode = executionModeDataParallel ∧ stages.length ≠ 1 then
    some (str "data_parallel deployment requires exactly one selected replica")
  else if model.executionMode ≠ executionModeDataParallel ∧
      model.executionMode ≠ executionModePipelineParallel then
    some (str "unsupported execution mode " ++ quote model.executionMode)
  else if stages = [] then some (str "deployment requires at least one stage")
  else validatePlanStages stages.length model.layerCount [] 0 0 stages

/-- The error of a malformed plan. -/
def validateDeploymentPlan (identity : PlanIdentity) (model : DeploymentModelIdentity)
    (stages : List Stage) : Option Bytes :=
  if identity.deploymentId = [] then some (str "deployment_id is required")
  else if identity.epoch = 0 then some (str "deployment epoch must be positive")
  else validatePlanModel model stages

/-- A plan that passed its check. -/
structure DeploymentPlan where
  identity : PlanIdentity
  model : DeploymentModelIdentity
  stages : List Stage
  valid : validateDeploymentPlan identity model stages = none
  deriving DecidableEq

/-- The constructor input of a plan. -/
structure DeploymentPlanSpec where
  identity : PlanIdentity
  model : DeploymentModelIdentity
  stages : List Stage

/-- A specification without the white space around its texts. -/
def DeploymentPlanSpec.normalize (spec : DeploymentPlanSpec) : DeploymentPlanSpec :=
  { identity :=
      { deploymentId := trimSpace spec.identity.deploymentId
        epoch := spec.identity.epoch }
    model :=
      { modelId := trimSpace spec.model.modelId
        modelSha256 := toLower (trimSpace spec.model.modelSha256)
        engine := trimSpace spec.model.engine
        executionMode := spec.model.executionMode
        stageTransport := trimSpace spec.model.stageTransport
        activationEncoding := trimSpace spec.model.activationEncoding
        kvCacheType := trimSpace spec.model.kvCacheType
        layerCount := spec.model.layerCount }
    stages := spec.stages }

def newDeploymentPlan (spec : DeploymentPlanSpec) : Except Bytes DeploymentPlan :=
  match valid : validateDeploymentPlan spec.normalize.identity spec.normalize.model
      spec.normalize.stages with
  | some e => .error e
  | none =>
    .ok
      { identity := spec.normalize.identity
        model := spec.normalize.model
        stages := spec.normalize.stages
        valid }

/-! ## Compatible members -/

/-- The runtime facts that the members of a deployment agree on. -/
structure DeploymentCompatibility where
  architecture : Bytes
  runtimeRevision : Bytes
  llamaCppRevision : Bytes
  stageTransport : Bytes
  activationEncoding : Bytes
  kvCacheType : Bytes
  speculativeDraft : Bytes
  speculativeMax : Int
  parallelSessions : Int
  decodeBatchSize : Int
  computeBackend : Bytes
  cudaActive : Bool
  deriving DecidableEq

structure DeploymentBuildRequest where
  identity : PlanIdentity
  model : ModelProfile
  members : List Member
  now : Time
  staleAfter : Int
  policy : Policy

structure DeploymentBuildResult where
  plan : DeploymentPlan
  preview : RoutePreview
  compatibility : DeploymentCompatibility
  deriving DecidableEq

def requiredDeploymentStages (policy : Policy) : Int :=
  if 0 < policyStageCount policy then policyStageCount policy else 1

def compatibilityKey (value : DeploymentCompatibility) (includeBackend : Bool) : Bytes :=
  join (str "|")
    [value.architecture, value.runtimeRevision, value.llamaCppRevision, value.stageTransport,
      value.activationEncoding, value.kvCacheType, value.speculativeDraft,
      decimal value.speculativeMax, decimal value.parallelSessions, decimal value.decodeBatchSize,
      if includeBackend then value.computeBackend else str "mixed",
      if includeBackend then boolText value.cudaActive else str "mixed"]

/-- A group of members under one key, with the facts of its first member. -/
structure CompatibilityGroup where
  members : List Member
  compatibility : DeploymentCompatibility

/-- The first group among the largest that are large enough. -/
def selectGroup (requiredStages : Int) (groups : List CompatibilityGroup) :
    Option CompatibilityGroup :=
  groups.foldl (fun selected group =>
    if (group.members.length : Int) < requiredStages then selected
    else match selected with
      | none => some group
      | some best => if best.members.length < group.members.length then some group else some best)
    none

namespace Platform

variable (P : Platform)

/-- Other nodes can reach the runtime at the host of the node's API. -/
def validDirectRuntimeEndpoint (member : Member) : Bool :=
  match P.parseUrl (trimSpace member.apiUrl), P.parseUrl (trimSpace member.runtimeUrl) with
  | .ok apiUrl, .ok runtimeUrl =>
    if apiUrl.scheme ≠ str "http" ∨ runtimeUrl.scheme ≠ str "http" ∨ apiUrl.hostname = [] ∨
        runtimeUrl.hostname = [] ∨ runtimeUrl.port = [] then false
    else if ¬ P.equalFold apiUrl.hostname runtimeUrl.hostname then false
    else if P.equalFold runtimeUrl.hostname (str "localhost") then false
    else match P.parseIp runtimeUrl.hostname with
      | none => true
      | some ip => !ip.isLoopback && !ip.isUnspecified
  | _, _ => false

/-- The runtime facts of a member that can host a stage. -/
def memberDeploymentCompatibility (model : ModelProfile) (engine : Bytes) (member : Member) :
    Option DeploymentCompatibility := do
  let caps := member.capabilities
  let architecture := trimSpace member.arch
  let runtimeRevision := capabilityText caps capabilityRuntimeRevision
  let llamaCppRevision := capabilityText caps capabilityRuntimeLlamaCppRevision
  let stageTransport := capabilityText caps capabilityRuntimeStageTransport
  let activationEncoding := capabilityText caps capabilityRuntimeActivationEncoding
  let kvCacheType := capabilityText caps capabilityRuntimeKvCacheType
  let speculativeDraft := capabilityText caps capabilityRuntimeSpeculativeDraft
  let backend := capabilityText caps capabilityRuntimeComputeBackend
  let cudaActive := capabilityBool caps capabilityRuntimeCudaActive
  if architecture = [] ∨ runtimeRevision = [] ∨ stageTransport = [] ∨ activationEncoding = [] ∨
      kvCacheType = [] ∨ speculativeDraft = [] then none
  else
    let speculativeMax ← P.intCapability caps capabilityRuntimeSpeculativeMax
    let parallelSessions ← P.intCapability caps capabilityRuntimeParallelSessions
    let decodeBatchSize ← P.intCapability caps capabilityRuntimeDecodeBatchSize
    if speculativeMax < 1 ∨ parallelSessions < 1 ∨ decodeBatchSize < 1 ∨
        parallelSessions < decodeBatchSize then none
    else if stageTransport = stageTransportHttpDirectV1 ∧ ¬ P.validDirectRuntimeEndpoint member then
      none
    else if capabilityText caps capabilityRuntimeEngine ≠ engine then none
    else if capabilityText caps capabilityRuntimeExecutionMode ≠ executionModePipelineParallel then
      none
    else if ¬ capabilityBool caps capabilityRuntimeStartsIdle then none
    else if engine = engineLlamaCpp ∧ llamaCppRevision = [] then none
    else if backend ≠ computeBackendCpu ∧ backend ≠ computeBackendCuda then none
    else if model.preferredCompute.any fun compute =>
        compute ≠ [] && (backend ≠ compute || (backend = computeBackendCuda && !cudaActive)) then
      none
    else some {
      architecture, runtimeRevision, llamaCppRevision, stageTransport, activationEncoding
      kvCacheType, speculativeDraft, speculativeMax, parallelSessions, decodeBatchSize
      computeBackend := backend, cudaActive }

/-- The fresh members that can host a stage, each with its runtime facts. -/
def deploymentMembers (model : ModelProfile) (engine : Bytes) (members : List Member) (now : Time)
    (staleAfter : Int) : List (Member × DeploymentCompatibility) :=
  (freshMembers members now staleAfter).filterMap fun member =>
    (P.memberDeploymentCompatibility model engine member).map fun facts => (member, facts)

/-- The groups by compatibility key, in the order of the keys. -/
def compatibilityGroups (found : List (Member × DeploymentCompatibility)) (includeBackend : Bool) :
    List CompatibilityGroup :=
  let keyOf := fun q : Member × DeploymentCompatibility => compatibilityKey q.2 includeBackend
  (sortStrings (found.map keyOf).dedup).filterMap fun key =>
    match found.filter (keyOf · = key) with
    | [] => none
    | first :: others =>
      some { members := (first :: others).map Prod.fst, compatibility := first.2 }

def compatibleDeploymentMembers (model : ModelProfile) (engine : Bytes) (members : List Member)
    (now : Time) (staleAfter : Int) (requiredStages : Int) : Except Bytes CompatibilityGroup :=
  let found := P.deploymentMembers model engine members now staleAfter
  match selectGroup requiredStages (compatibilityGroups found model.preferredCompute.isSome) with
  | some group => .ok group
  | none =>
    .error (str "need " ++ decimal requiredStages ++
      str (" fresh runtimes with matching architecture, runtime revision, engine revision, " ++
        "stage transport, activation encoding, KV cache type, session capacity, speculative " ++
        "configuration, execution mode, and compute compatibility"))

/-! ## The builder -/

def selectDeploymentEngine (model : ModelProfile) : Except Bytes Bytes :=
  let engines := (model.supportedEngines.map trimSpace).filter (· ≠ [])
  match P.sort.run (fun left right => left < right) engines with
  | [] => .error (str "model " ++ quote model.id ++ str " has no supported deployment engine")
  | engine :: _ => .ok engine

/-- The model of a request without the white space around its texts. -/
def deployedModel (model : ModelProfile) : ModelProfile :=
  { model with
    id := trimSpace model.id
    artifactPath := trimSpace model.artifactPath
    artifactSha256 := toLower (trimSpace model.artifactSha256) }

/-- The error of a model that cannot be deployed. -/
def validateDeployedModel (model : ModelProfile) : Option Bytes :=
  if model.id = [] then some (str "model_id is required")
  else if ¬ validSha256 model.artifactSha256 then
    some (str "model " ++ quote model.id ++ str " requires an exact artifact_sha256")
  else if model.layerCount ≤ 0 then
    some (str "model " ++ quote model.id ++ str " requires a positive layer_count")
  else if ¬ supportsMode model executionModePipelineParallel then
    some (str "model " ++ quote model.id ++ str " does not support pipeline_parallel")
  else none

/-- The members, the engine and the facts of a deployment. -/
def selectMembers (wallClock : Time) (req : DeploymentBuildRequest) :
    Except Bytes (Bytes × Time × CompatibilityGroup) := do
  let model := deployedModel req.model
  if let some e := validateDeployedModel model then throw e
  let engine ← P.selectDeploymentEngine model
  if engine = engineLlamaCpp ∧ model.artifactPath = [] then
    throw (str "model " ++ quote model.id ++
      str " requires artifact_path for llama.cpp deployment")
  let now := if req.now = 0 then wallClock else req.now
  let group ← P.compatibleDeploymentMembers model engine req.members now req.staleAfter
    (requiredDeploymentStages req.policy)
  return (engine, now, group)

/-- The plan of a route. -/
def deploymentPlanSpec (identity : PlanIdentity) (model : ModelProfile) (engine : Bytes)
    (group : CompatibilityGroup) (preview : RoutePreview) : DeploymentPlanSpec :=
  { identity
    model :=
      { modelId := model.id
        modelSha256 := model.artifactSha256
        engine
        executionMode := executionModePipelineParallel
        stageTransport := group.compatibility.stageTransport
        activationEncoding := group.compatibility.activationEncoding
        kvCacheType := group.compatibility.kvCacheType
        layerCount := model.layerCount }
    stages := preview.stages }

/-- `BuildDeploymentPlan`, with the wall clock for a missing time. -/
def buildDeploymentPlan (wallClock : Time) (req : DeploymentBuildRequest) :
    Except Bytes DeploymentBuildResult :=
  let model := deployedModel req.model
  match P.selectMembers wallClock req with
  | .error e => .error e
  | .ok (engine, now, group) =>
    let preview := P.previewPipeline wallClock
      { model, members := group.members, now, staleAfter := req.staleAfter, policy := req.policy }
    if ¬ preview.valid then
      .error (str "no valid deployment route for model " ++ quote model.id ++ str ": " ++
        (preview.reason.map Reason.text).getD [])
    else if preview.mode ≠ executionModePipelineParallel ∨ preview.stageCount < 1 then
      .error (str "deployment route must use pipeline_parallel with at least one stage")
    else match newDeploymentPlan (deploymentPlanSpec req.identity model engine group preview) with
      | .error e => .error e
      | .ok plan => .ok { plan, preview, compatibility := group.compatibility }

end Platform

/-! ## Samples -/

def samplePlatform : Platform where
  sort := insertionStable
  parseUrl _ := .error []
  urlString _ := []
  splitHostPort _ := none
  parseIp _ := none
  equalFold a b := a == b
  requestError _ := none
  unmarshalTexts _ := .error []
  convert _ := 0

def sampleModel : ModelProfile where
  id := str "model"
  supportedEngines := [str "synthetic"]
  layerCount := 2
  placementModes := [executionModePipelineParallel]
  artifactSha256 := List.replicate 64 97

def sampleCapabilities : List (Bytes × Capability) :=
  [(capabilityRuntimeRevision, .text (str "r1")),
    (capabilityRuntimeStageTransport, .text (str "http_binary_v1")),
    (capabilityRuntimeActivationEncoding, .text (str "f32")),
    (capabilityRuntimeKvCacheType, .text (str "f16")),
    (capabilityRuntimeSpeculativeDraft, .text (str "none")),
    (capabilityRuntimeSpeculativeMax, .int 1),
    (capabilityRuntimeParallelSessions, .int 1),
    (capabilityRuntimeDecodeBatchSize, .int 1),
    (capabilityRuntimeComputeBackend, .text computeBackendCpu),
    (capabilityRuntimeEngine, .text (str "synthetic")),
    (capabilityRuntimeExecutionMode, .text executionModePipelineParallel),
    (capabilityRuntimeStartsIdle, .bool true)]

def sampleMember : Member where
  clusterId := str "cluster"
  nodeId := str "node"
  hostname := str "host"
  apiUrl := str "http://node"
  arch := str "arm64"
  capabilities := Std.ExtTreeMap.ofList sampleCapabilities

/-- A node on a host of its own, with further capabilities. -/
def sampleNode (name arch : Bytes) (capabilities : List (Bytes × Capability) := []) : Member :=
  { sampleMember with
    nodeId := name
    hostname := name
    apiUrl := str "http://" ++ name
    arch
    capabilities := Std.ExtTreeMap.ofList (sampleCapabilities ++ capabilities) }

/-- Two nodes of the same build. -/
def samplePair : List Member :=
  [sampleNode (str "a") (str "arm64"), sampleNode (str "b") (str "arm64")]

def sampleRequest (members : List Member) (model : ModelProfile := sampleModel)
    (policy : Policy := {}) : DeploymentBuildRequest where
  identity := ⟨str "deployment", 1⟩
  model
  members
  now := 0
  staleAfter := 0
  policy

end JetsonFabric
