import JetsonFabric.Protocol.Stage
import JetsonFabric.Coordinator.State

/-!
# Messages to the runtimes

The records that the coordinator exchanges with the runtimes (`runtimebridge/deployment_client.go`)
and its checks of their answers (`coordinator/deployment_validation.go`).
-/

namespace JetsonFabric

/-! ## Records -/

structure ModelMemory where
  layerStart : Int
  layerEnd : Int
  layerCount : Int
  residentWeightBytes : UInt64
  totalWeightBytes : UInt64
  residentTensorCount : UInt64
  partitioned : Bool
  pinned : Bool
  deriving DecidableEq

/-- The status of a runtime's deployment as the coordinator decodes it. -/
structure RuntimeStatus where
  resident : Bool := false
  active : Bool := false
  state : Bytes := []
  deployment : Option DeploymentIdentity := none
  modelMemory : Option ModelMemory := none
  deriving DecidableEq

structure LoadDeploymentRequest where
  deploymentId : Bytes
  epoch : UInt64
  modelId : Bytes
  modelSha256 : Bytes
  engine : Bytes
  computeBackend : Bytes
  activationEncoding : Bytes
  kvCacheType : Bytes
  modelPath : Bytes
  ctxSize : Int
  nGpuLayers : Int
  threads : Int
  mode : Bytes
  stageIndex : Int
  stageCount : Int
  layerStart : Int
  layerEnd : Int
  deriving DecidableEq

/-- A call of the `DeploymentClient`. -/
inductive RuntimeRequest
  | status
  | load (request : LoadDeploymentRequest)
  | activate (identity : DeploymentIdentity)
  | drain (identity : DeploymentIdentity)
  | unload (identity : DeploymentIdentity)
  deriving DecidableEq

/-- What the health page of a runtime says. -/
structure DirectRuntimeHealth where
  status : Bytes
  engine : Bytes
  stageTransport : Bytes

/-- An error, or a response whose body may break off. -/
inductive ProbeAnswer
  | unreachable (error : Bytes)
  | response (code : Int) (status : Bytes) (body : Except Bytes Bytes)

/-! ## Checks -/

/-- The identity that a runtime knows a plan by. -/
def runtimeDeploymentIdentity (plan : DeploymentPlan) : DeploymentIdentity where
  deploymentId := plan.identity.deploymentId
  epoch := plan.identity.epoch
  modelId := plan.model.modelId
  modelSha256 := plan.model.modelSha256

/-- The runtime has the expected identity. -/
def runtimeDeploymentIdentityMatches (actual : Option DeploymentIdentity)
    (expected : DeploymentIdentity) : Bool :=
  actual == some expected

/-- `"[%d,%d)"`. -/
def rangeText (start stop : Int) : Bytes :=
  str "[" ++ decimal start ++ str "," ++ decimal stop ++ str ")"

/-- The error of a model memory that does not fit the stage. -/
def validateRuntimeModelMemory (status : RuntimeStatus) (plan : DeploymentPlan) (stage : Stage)
    (active : Bool) : Option Err :=
  match status.modelMemory with
  | none => some (.of (str "runtime omitted model_memory"))
  | some memory =>
    let partitioned := stage.layerStart ≠ 0 || stage.layerEnd ≠ plan.model.layerCount
    if memory.layerStart ≠ stage.layerStart ∨ memory.layerEnd ≠ stage.layerEnd then
      some (.of (str "reported layers " ++ rangeText memory.layerStart memory.layerEnd ++
        str ", want " ++ rangeText stage.layerStart stage.layerEnd))
    else if memory.layerCount ≠ plan.model.layerCount then
      some (.of (str "reported layer_count " ++ decimal memory.layerCount ++ str ", want " ++
        decimal plan.model.layerCount))
    else if memory.residentWeightBytes = 0 ∨ memory.totalWeightBytes = 0 ∨
        memory.residentTensorCount = 0 then
      some (.of (str "runtime reported empty model residency"))
    else if memory.partitioned ≠ partitioned then
      some (.of (str "reported partitioned=" ++ boolText memory.partitioned ++ str ", want " ++
        boolText partitioned))
    else if ¬ partitioned ∧ memory.residentWeightBytes ≠ memory.totalWeightBytes then
      some (.of (str "full-range stage retains " ++ decimal memory.residentWeightBytes.toNat ++
        str " bytes from a " ++ decimal memory.totalWeightBytes.toNat ++ str "-byte model"))
    else if partitioned ∧ memory.totalWeightBytes ≤ memory.residentWeightBytes then
      some (.of (str "partition retains " ++ decimal memory.residentWeightBytes.toNat ++
        str " bytes from a " ++ decimal memory.totalWeightBytes.toNat ++ str "-byte model"))
    else if memory.pinned ≠ active then
      some (.of (str "reported pinned=" ++ boolText memory.pinned ++ str ", want " ++
        boolText active))
    else none

/-- The error of another identity. -/
def wrongIdentity (actual expected : DeploymentIdentity) (stage : Stage) : Err :=
  let describe := fun i : DeploymentIdentity =>
    str "deployment " ++ quote i.deploymentId ++ str " epoch " ++ decimal i.epoch.toNat ++
      str " model " ++ quote i.modelId ++ str " sha256 " ++ quote i.modelSha256
  .of (str "runtime reports " ++ describe actual ++ str ", want " ++ describe expected ++
    str " for stage " ++ decimal stage.stageIndex)

/-- The error of a status that is not the expected one of the plan's stage. -/
def validateRuntimeStatus (status : RuntimeStatus) (plan : DeploymentPlan) (stage : Stage)
    (state : Bytes) (active : Bool) : Option Err :=
  match status.deployment with
  | some identity =>
    if ¬ status.resident ∨ status.active ≠ active ∨ status.state ≠ state then
      some (unexpectedStatus status)
    else if identity ≠ runtimeDeploymentIdentity plan then
      some (wrongIdentity identity (runtimeDeploymentIdentity plan) stage)
    else (validateRuntimeModelMemory status plan stage active).map
      (Err.wrap (str "stage " ++ decimal stage.stageIndex ++ str " model residency: "))
  | none => some (unexpectedStatus status)
where
  unexpectedStatus (status : RuntimeStatus) : Err :=
    .of (str "unexpected runtime status resident=" ++ boolText status.resident ++
      str " active=" ++ boolText status.active ++ str " state=" ++ quote status.state)

/-- The same model and stages. -/
def plansEquivalent (left right : DeploymentPlan) : Bool :=
  left.model = right.model && left.stages = right.stages

/-- The last member under a node id, as a map filled in order keeps it. -/
def memberOf (members : List Member) (nodeId : Bytes) : Option Member :=
  members.reverse.find? fun member => member.nodeId = nodeId

/-- Every stage's node is fresh and where the plan left it. -/
def activePlanHealthy (plan : DeploymentPlan) (members : List Member) (now : Time)
    (staleAfter : Int) : Bool :=
  plan.stages.all fun stage =>
    (memberOf (freshMembers members now staleAfter) stage.nodeId).any fun member =>
      member.apiUrl = stage.apiUrl

end JetsonFabric
