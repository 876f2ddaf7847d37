import JetsonFabric.Lib.Prog
import JetsonFabric.Coordinator.Runtime

/-!
# The deployment controller

`DeploymentController` (`coordinator/deployment_controller.go`, `deployment_transition.go`,
`deployment_runtime.go`, `reconciler.go`) as programs over its operations: the critical sections
of the deployment state, the reads of members and clocks, and the two halves of a call to a
runtime, its sending and its answer. Sessions are admitted and released between any two
operations.
-/

namespace JetsonFabric

/-! ## Operations -/

/-- What the controller asks of the rest of the system. -/
inductive ControllerOp
  | snapshot
  | beginTransition (next : DeploymentPlan)
  | publish (plan : DeploymentPlan) (intent : DeploymentIntent)
  | rollback (plan : DeploymentPlan) (err : Err) (healthy cleanupPending : Bool)
  | recordReconcileError (err : Option Err) (healthy : Bool)
  | waitForEpoch (epoch : UInt64)
  | finishDraining (epoch : UInt64)
  | activeIntent
  | members
  | now
  | wallClock
  | isLeader (now : Time)
  | probe (url : Bytes)
  | send (node : Bytes) (request : RuntimeRequest)
  | receive (node : Bytes) (request : RuntimeRequest)

/-- The answers to an operation. -/
abbrev Answer : ControllerOp → Type
  | .snapshot => DeploymentSnapshot
  | .beginTransition _ => Except Err (Option DeploymentPlan)
  | .publish _ _ => Option DeploymentPlan
  | .rollback _ _ _ _ => Unit
  | .recordReconcileError _ _ => Unit
  | .waitForEpoch _ => Option Err
  | .finishDraining _ => Unit
  | .activeIntent => Option DeploymentIntent
  | .members => List Member
  | .now => Time
  | .wallClock => Time
  | .isLeader _ => Bool
  | .probe _ => ProbeAnswer
  | .send _ _ => Unit
  | .receive _ _ => Except Err RuntimeStatus

/-- A program of the controller. -/
abbrev Controlled (α : Type) : Type := Prog ControllerOp Answer α

/-- One operation. -/
def operation (o : ControllerOp) : Controlled (Answer o) := Prog.perform o

/-- A call of the `DeploymentClient`. -/
def call (node : Bytes) (request : RuntimeRequest) : Controlled (Except Err RuntimeStatus) := do
  operation (.send node request)
  operation (.receive node request)

/-! ## Specifications and intents -/

/-- The input of a switch. -/
structure DeploymentSpec where
  deploymentId : Bytes := []
  modelId : Bytes
  stageCount : Int := 0
  stageLayerCounts : List Int := []
  allowColocatedStages : Bool := false
  contextSize : Int := 0
  threads : Int := 0
  nGpuLayers : Option Int := none
  deriving DecidableEq

/-- The policy of a specification. -/
def deploymentPolicy (base : Policy) (spec : DeploymentSpec) : Policy where
  stageCount :=
    if spec.stageLayerCounts ≠ [] ∧ spec.stageCount = 0 then spec.stageLayerCounts.length
    else if 0 < spec.stageCount then spec.stageCount
    else base.stageCount
  stageLayerCounts :=
    if spec.stageLayerCounts ≠ [] then spec.stageLayerCounts else base.stageLayerCounts
  allowColocatedStages := spec.allowColocatedStages || base.allowColocatedStages

/-- The intent of a specification. -/
def intentFromSpec (spec : DeploymentSpec) (policy : Policy) : DeploymentIntent where
  modelId := spec.modelId
  policy := policy
  contextSize := spec.contextSize
  threads := spec.threads
  nGpuLayers := spec.nGpuLayers.getD 0
  nGpuLayersSet := spec.nGpuLayers.isSome

/-- The specification of an intent. -/
def DeploymentIntent.spec (intent : DeploymentIntent) : DeploymentSpec where
  modelId := intent.modelId
  stageCount := intent.policy.stageCount
  stageLayerCounts := intent.policy.stageLayerCounts
  allowColocatedStages := intent.policy.allowColocatedStages
  contextSize := intent.contextSize
  threads := intent.threads
  nGpuLayers := if intent.nGpuLayersSet then some intent.nGpuLayers else none

/-- What a build found and planned. -/
structure DeploymentBuild where
  model : ModelProfile
  members : List Member
  policy : Policy
  result : DeploymentBuildResult

/-- The configuration of a controller. -/
structure DeploymentController where
  platform : Platform
  registry : Registry
  hasMemberSource : Bool := true
  memberStaleAfter : Int
  planPolicy : Policy
  hasLeaderCheck : Bool := false

namespace DeploymentController

variable (c : DeploymentController)

/-- The members, if there is a source. -/
def members : Controlled (List Member) :=
  if c.hasMemberSource then operation .members else pure []

/-! ## Building a plan -/

/-- `"deployment-%d-%d"`. -/
def defaultDeploymentId (epoch : UInt64) (now : Time) : Bytes :=
  str "deployment-" ++ decimal epoch.toNat ++ str "-" ++ decimal now.unixNano

/-- The request to the planner. -/
def buildRequest (spec : DeploymentSpec) (model : ModelProfile) (identity : PlanIdentity)
    (members : List Member) (now : Time) : DeploymentBuildRequest where
  identity := identity
  model := model
  members := members
  now := now
  staleAfter := c.memberStaleAfter
  policy := deploymentPolicy c.planPolicy spec

/-- The identifier of a new deployment. -/
def deploymentIdFor (spec : DeploymentSpec) (epoch : UInt64) : Controlled Bytes :=
  if spec.deploymentId = [] then do
    let now ← operation .now
    pure (defaultDeploymentId epoch now)
  else pure spec.deploymentId

/-- What `buildDeployment` makes of the members and the clocks it has read. -/
def planFor (spec : DeploymentSpec) (model : ModelProfile) (identity : PlanIdentity)
    (members : List Member) (now wallClock : Time) : Except Err DeploymentBuild :=
  let request := c.buildRequest spec model identity members now
  match c.platform.buildDeploymentPlan wallClock request with
  | .error e => .error (.of e)
  | .ok result => .ok { model, members, policy := request.policy, result }

/-- Build a plan with the next epoch. -/
def buildDeployment (spec : DeploymentSpec) : Controlled (Except Err DeploymentBuild) :=
  match c.registry.find spec.modelId with
  | none => pure (.error (.of (str "model " ++ quote spec.modelId ++
      str " is not in the registry")))
  | some model =>
    if ¬ c.hasMemberSource then pure (.error DeploymentError.unavailable.err)
    else do
      let snapshot ← operation .snapshot
      let deploymentId ← deploymentIdFor spec snapshot.proposedEpoch
      let members ← operation .members
      let now ← operation .now
      let wallClock ← operation .wallClock
      pure (c.planFor spec model { deploymentId, epoch := snapshot.proposedEpoch } members now
        wallClock)

/-! ## Calls to the stages of a plan -/

def defaultDeploymentContextSize : Int := 4096

/-- The load request of a stage. -/
def newRuntimeLoadRequest (plan : DeploymentPlan) (model : ModelProfile) (member : Member)
    (stage : Stage) (spec : DeploymentSpec) : LoadDeploymentRequest :=
  let backend := capabilityText member.capabilities capabilityRuntimeComputeBackend
  { deploymentId := plan.identity.deploymentId
    epoch := plan.identity.epoch
    modelId := model.id
    modelSha256 := plan.model.modelSha256
    engine := plan.model.engine
    computeBackend := backend
    activationEncoding := plan.model.activationEncoding
    kvCacheType := plan.model.kvCacheType
    modelPath := model.artifactPath
    ctxSize := if spec.contextSize = 0 then defaultDeploymentContextSize else spec.contextSize
    nGpuLayers := spec.nGpuLayers.getD (if backend = computeBackendCuda then 999 else 0)
    threads := spec.threads
    mode := plan.model.executionMode
    stageIndex := stage.stageIndex
    stageCount := stage.stageCount
    layerStart := stage.layerStart
    layerEnd := stage.layerEnd }

/-- `fmt.Errorf("... on node %q: %w", ...)`. -/
def onNode (what : String) (stage : Stage) (e : Err) : Err :=
  e.wrap (str what ++ str " on node " ++ quote stage.nodeId ++ str ": ")

/-- A call whose answer must show the stage in a state. -/
def checkedCall (what : String) (plan : DeploymentPlan) (stage : Stage) (request : RuntimeRequest)
    (state : Bytes) (active : Bool) : Controlled (Option Err) := do
  match ← call stage.apiUrl request with
  | .error e => pure (some (onNode what stage e))
  | .ok status => pure ((validateRuntimeStatus status plan stage state active).map
      (onNode what stage))

/-- Load one stage. -/
def loadStage (plan : DeploymentPlan) (model : ModelProfile) (member : Member) (stage : Stage)
    (spec : DeploymentSpec) : Controlled (Option Err) :=
  checkedCall "load deployment" plan stage
    (.load (newRuntimeLoadRequest plan model member stage spec)) (str "ready") false

/-- Activate one stage. -/
def activateStage (plan : DeploymentPlan) (stage : Stage) : Controlled (Option Err) :=
  checkedCall "activate deployment" plan stage (.activate (runtimeDeploymentIdentity plan))
    (str "active") true

/-- A loop over stages that stops at the first error. -/
def eachStage (body : Stage → Controlled (Option Err)) : List Stage → Controlled (Option Err)
  | [] => pure none
  | stage :: stages => do
    match ← body stage with
    | some e => pure (some e)
    | none => eachStage body stages

/-- The body of a loop that needs the member of a stage. -/
def withMember (members : List Member) (stage : Stage)
    (body : Member → Controlled (Option Err)) : Controlled (Option Err) :=
  match memberOf members stage.nodeId with
  | none => pure (some (.of (str "deployment member " ++ quote stage.nodeId ++
      str " disappeared from the immutable snapshot")))
  | some member => body member

/-- Load all stages. -/
def loadPlan (plan : DeploymentPlan) (model : ModelProfile) (members : List Member)
    (spec : DeploymentSpec) : Controlled (Option Err) :=
  eachStage (fun stage => withMember members stage fun member =>
    loadStage plan model member stage spec) plan.stages

/-- Activate all stages. -/
def activatePlan (plan : DeploymentPlan) : Controlled (Option Err) :=
  eachStage (activateStage plan) plan.stages

/-- Activate a ready stage, load and activate one that is gone. -/
def repairStage (plan : DeploymentPlan) (model : ModelProfile) (member : Member) (stage : Stage)
    (spec : DeploymentSpec) (status : RuntimeStatus) : Controlled (Option Err) :=
  if status.resident then
    if runtimeDeploymentIdentityMatches status.deployment (runtimeDeploymentIdentity plan) ∧
        validateRuntimeStatus status plan stage (str "ready") false = none then
      activateStage plan stage
    else pure (some (.of (str "node " ++ quote stage.nodeId ++ str " has resident state " ++
      quote status.state ++ str " that cannot be repaired in place")))
  else do
    match ← loadStage plan model member stage spec with
    | some e => pure (some e)
    | none => activateStage plan stage

/-- Repair the stages of the active plan. -/
def repairActivePlan (plan : DeploymentPlan) (model : ModelProfile) (members : List Member)
    (spec : DeploymentSpec) : Controlled (Option Err) :=
  eachStage (fun stage => withMember members stage fun member => do
    match ← call stage.apiUrl .status with
    | .error e => pure (some (onNode "inspect deployment" stage e))
    | .ok status =>
      if validateRuntimeStatus status plan stage (str "active") true = none then pure none
      else repairStage plan model member stage spec status) plan.stages

/-- Whether every stage is active and healthy. -/
def activeRuntimePlanHealthy (plan : DeploymentPlan) : List Stage → Controlled Bool
  | [] => pure true
  | stage :: stages => do
    match ← call stage.apiUrl .status with
    | .error _ => pure false
    | .ok status =>
      if validateRuntimeStatus status plan stage (str "active") true ≠ none then pure false
      else activeRuntimePlanHealthy plan stages

/-! ### Draining and unloading -/

/-- The failures of a loop over stages. -/
def joinedFailures (failures : List Bytes) : Option Err :=
  if failures = [] then none else some (.of (join (str "; ") (sortStrings failures)))

/-- A loop over stages that goes on after a failure and collects them. -/
def failuresOf (request : RuntimeRequest) (check : Stage → RuntimeStatus → Option Bytes) :
    List Stage → Controlled (List Bytes)
  | [] => pure []
  | stage :: stages => do
    let reply ← call stage.apiUrl request
    let failures ← failuresOf request check stages
    match reply with
    | .error e => pure ((str "node " ++ quote stage.nodeId ++ str ": " ++ e.text) :: failures)
    | .ok status => pure ((check stage status).toList ++ failures)

/-- The error of another identity. -/
def otherIdentity (stage : Stage) : Bytes :=
  str "node " ++ quote stage.nodeId ++ str " acknowledged a different deployment identity"

/-- Drain all stages. -/
def drainPlan (plan : DeploymentPlan) : Controlled (Option Err) := do
  let identity := runtimeDeploymentIdentity plan
  let failures ← failuresOf (.drain identity) (fun stage status =>
    if runtimeDeploymentIdentityMatches status.deployment identity then none
    else some (otherIdentity stage)) plan.stages
  pure (joinedFailures failures)

/-- Unload all stages. -/
def unloadPlan (plan : DeploymentPlan) : Controlled (Option Err) := do
  let identity := runtimeDeploymentIdentity plan
  let failures ← failuresOf (.unload identity) (fun stage status =>
    if ¬ runtimeDeploymentIdentityMatches status.deployment identity then some (otherIdentity stage)
    else if status.resident ∨ status.active ∨ status.state ≠ str "idle" then
      some (str "node " ++ quote stage.nodeId ++ str " did not release the deployment")
    else none) plan.stages
  pure (joinedFailures failures)

/-- Drain and unload all stages. -/
def cleanupPlan (plan : DeploymentPlan) : Controlled (Option Err) := do
  let drainErr ← drainPlan plan
  let unloadErr ← unloadPlan plan
  match drainErr, unloadErr with
  | some d, some u => pure (some (.of (str "drain: " ++ d.text ++ str "; unload: " ++ u.text)))
  | some d, none => pure (some d)
  | none, u => pure u

/-- An error with the plan it is about. -/
def wrappedPlanError (operation : String) (plan : DeploymentPlan) (err : Option Err) :
    Option Err :=
  err.map (Err.wrap (str operation ++ str " deployment " ++ quote plan.identity.deploymentId ++
    str ": "))

/-- Wait for the sessions, clean up, forget. -/
def retirePlan (plan : DeploymentPlan) : Controlled (Option Err) := do
  let drainErr ← drainPlan plan
  match ← operation (.waitForEpoch plan.identity.epoch) with
  | some e =>
    pure (joinErrors [drainErr, some (e.wrap (str "wait for deployment " ++
      quote plan.identity.deploymentId ++ str " sessions: "))])
  | none =>
    let unloadErr ← unloadPlan plan
    if drainErr.isSome ∨ unloadErr.isSome then
      pure (joinErrors
        [wrappedPlanError "drain" plan drainErr, wrappedPlanError "unload" plan unloadErr])
    else
      operation (.finishDraining plan.identity.epoch)
      pure none

/-! ## Probes -/

def maxRuntimeHealthBytes : Nat := 65536

/-- The health that a runtime answers. -/
def decodeDirectRuntimeHealth (body : Except Bytes Bytes) : Except Bytes DirectRuntimeHealth :=
  match body with
  | .error e => .error e
  | .ok payload =>
    if maxRuntimeHealthBytes < payload.length then .error (str "runtime health exceeds 64 KiB")
    else (c.platform.unmarshalTexts payload).map fun field =>
      { status := field (str "status")
        engine := field (str "engine")
        stageTransport := field (str "stage_transport") }

/-- The error of a probe's outcome. -/
def probeError (plan : DeploymentPlan) (stage : Stage) (answer : ProbeAnswer) : Option Err :=
  match answer with
  | .unreachable e => some (.of (str "direct runtime on node " ++ quote stage.nodeId ++
      str " is unreachable: " ++ e))
  | .response code status body =>
    if code < 200 ∨ 300 ≤ code then
      some (.of (str "direct runtime on node " ++ quote stage.nodeId ++ str " returned " ++ status))
    else match c.decodeDirectRuntimeHealth body with
      | .error e => some (.of (str "decode direct runtime health on node " ++ quote stage.nodeId ++
          str ": " ++ e))
      | .ok health =>
        if health.status ≠ str "ok" ∨ health.engine ≠ plan.model.engine ∨
            health.stageTransport ≠ plan.model.stageTransport then
          some (.of (str "direct runtime on node " ++ quote stage.nodeId ++
            str " is incompatible: status=" ++ quote health.status ++ str " engine=" ++
            quote health.engine ++ str " stage_transport=" ++ quote health.stageTransport))
        else none

/-- `strings.TrimRight(path, "/")`. -/
def trimSlashes (path : Bytes) : Bytes := (path.reverse.dropWhile (· = 47)).reverse

/-- Probe the runtime of one stage. -/
def probeStage (plan : DeploymentPlan) (stage : Stage) : Controlled (Option Err) :=
  match c.platform.parseUrl stage.runtimeUrl with
  | .error e => pure (some (.of (str "parse direct runtime URL for node " ++ quote stage.nodeId ++
      str ": " ++ e)))
  | .ok endpoint =>
    let url := c.platform.urlString
      { endpoint with path := trimSlashes endpoint.path ++ str "/healthz" }
    match c.platform.requestError url with
    | some e => pure (some (.of (str "create direct runtime probe for node " ++
        quote stage.nodeId ++ str ": " ++ e)))
    | none => do
      let answer ← operation (.probe url)
      pure (c.probeError plan stage answer)

/-- Probe the runtimes of a plan. -/
def probeDirectRuntimeEndpoints (plan : DeploymentPlan) : Controlled (Option Err) :=
  if plan.model.stageTransport ≠ stageTransportHttpDirectV1 then pure none
  else eachStage (c.probeStage plan) plan.stages

/-! ## Transitions -/

/-- Probe, load and activate a plan. -/
def preparePlan (build : DeploymentBuild) (spec : DeploymentSpec) : Controlled (Option Err) := do
  match ← loadPlan build.result.plan build.model build.members spec with
  | some e => pure (some (e.wrap (str "prepare deployment: ")))
  | none =>
    match ← c.probeDirectRuntimeEndpoints build.result.plan with
    | some e => pure (some (e.wrap (str "prepare deployment: ")))
    | none =>
      match ← activatePlan build.result.plan with
      | some e => pure (some (e.wrap (str "activate deployment: ")))
      | none => pure none

/-- Whether the nodes of the plan that stays active are still there. -/
def previousHealthy (previous : Option DeploymentPlan) : Controlled Bool :=
  match previous with
  | none => pure true
  | some plan => do
    let members ← c.members
    let now ← operation .now
    pure (activePlanHealthy plan members now c.memberStaleAfter)

/-- Undo a plan that was not published. -/
def rollbackPreparedPlan (plan : DeploymentPlan) (previous : Option DeploymentPlan) (cause : Err) :
    Controlled Err := do
  let cleanupErr ← cleanupPlan plan
  let healthy ← c.previousHealthy previous
  let failure := match cleanupErr with
    | some e => { cause with text := cause.text ++ str "; rollback cleanup: " ++ e.text }
    | none => cause
  operation (.rollback plan failure healthy cleanupErr.isSome)
  pure failure

/-- The errors of the cleanup and of the transition itself. -/
structure TransitionOutcome where
  cleanup : Option Err := none
  error : Option Err := none

/-- `transitionDeployment`. -/
def transitionDeployment (build : DeploymentBuild) (spec : DeploymentSpec) :
    Controlled TransitionOutcome := do
  match ← operation (.beginTransition build.result.plan) with
  | .error e => pure { error := some e }
  | .ok previous =>
    match ← c.preparePlan build spec with
    | some e =>
      let failure ← c.rollbackPreparedPlan build.result.plan previous e
      pure { error := some failure }
    | none =>
      match ← operation (.publish build.result.plan (intentFromSpec spec build.policy)) with
      | none => pure {}
      | some previous =>
        match ← retirePlan previous with
        | some e =>
          operation (.recordReconcileError (some e) true)
          pure { cleanup := some e }
        | none => pure {}

/-- `switchDeploymentLocked`. -/
def switchDeploymentLocked (spec : DeploymentSpec) (force : Bool) :
    Controlled TransitionOutcome := do
  match ← c.buildDeployment spec with
  | .error e =>
    pure { error := some { text := DeploymentError.planInvalid.text ++ str ": " ++ e.text
                           wraps := [.planInvalid] } }
  | .ok build =>
    let current ← operation .snapshot
    match current.active.filter fun active => !force && plansEquivalent active build.result.plan with
    | some active =>
      match ← repairActivePlan active build.model build.members spec with
      | some e => pure { error := some (e.wrap (str "repair active deployment: ")) }
      | none => pure {}
    | none => c.transitionDeployment build spec

/-! ## Reconciliation -/

/-- The loop of `retryDraining`. -/
def retirePlans : List DeploymentPlan → Controlled (List (Option Err))
  | [] => pure []
  | plan :: plans => do
    let e ← retirePlan plan
    let es ← retirePlans plans
    pure (e :: es)

/-- Clean up the plans that are draining. -/
def retryDraining : Controlled (Option Err) := do
  let snapshot ← operation .snapshot
  let errs ← retirePlans snapshot.draining
  pure (joinErrors errs)

/-- Whether the active plan is healthy, after a failure. -/
def activeHealthy (active : Option DeploymentPlan) : Controlled Bool :=
  match active with
  | none => pure false
  | some plan => do
    let members ← c.members
    let now ← operation .now
    if activePlanHealthy plan members now c.memberStaleAfter then
      activeRuntimePlanHealthy plan plan.stages
    else pure false

/-- The rest of `reconcile` after the switch. -/
def recordOutcome (pending : Option Err) (outcome : TransitionOutcome) :
    Controlled (Option Err) :=
  match outcome.error with
  | none => do
    let result := joinErrors [pending, outcome.cleanup]
    operation (.recordReconcileError result true)
    pure result
  | some e => do
    let snapshot ← operation .snapshot
    let healthy ← c.activeHealthy snapshot.active
    let result := joinErrors [pending, some e]
    operation (.recordReconcileError result healthy)
    pure result

/-- `reconcile` on a leader. -/
def reconcileAsLeader : Controlled (Option Err) := do
  let pending ← retryDraining
  match ← operation .activeIntent with
  | none => pure pending
  | some intent =>
    let outcome ← c.switchDeploymentLocked intent.spec false
    c.recordOutcome pending outcome

/-- `Reconcile`. -/
def reconcile : Controlled (Option Err) :=
  if c.hasLeaderCheck then do
    let now ← operation .now
    if ← operation (.isLeader now) then c.reconcileAsLeader else pure none
  else c.reconcileAsLeader

/-- The calls that hold `reconcileMu`. -/
inductive Call
  | switchDeployment (spec : DeploymentSpec) (force : Bool)
  | reconcile

/-- The program of a call. -/
def start : Call → Controlled Unit
  | .switchDeployment spec force => do
    let _ ← c.switchDeploymentLocked spec force
    pure ()
  | .reconcile => do
    let _ ← c.reconcile
    pure ()

end DeploymentController

end JetsonFabric
