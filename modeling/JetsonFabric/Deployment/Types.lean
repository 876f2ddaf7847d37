import JetsonFabric.Protocol.Stage

/-!
# Resident deployments

The data of `deployment/deployment.hpp` and `pipeline_parallel/stage_assignment.hpp`: the states
of a resident deployment with the transitions between them, and the records the lifecycle calls
return.
-/

namespace JetsonFabric

/-- The state of a resident deployment. -/
inductive ResidentDeploymentState
  | loading
  | ready
  | active
  | draining
  | unloading
  | failed
  deriving DecidableEq

/-- Whether the change is allowed; `none` is "not resident". -/
def isValidResidentDeploymentTransition :
    Option ResidentDeploymentState → Option ResidentDeploymentState → Bool
  | none, target => target == some .loading
  | some source, none => source == .unloading
  | some .loading, some target => target == .ready || target == .failed
  | some .ready, some target => target == .active || target == .unloading || target == .failed
  | some .active, some target => target == .draining || target == .failed
  | some .draining, some target => target == .unloading || target == .failed
  | some .unloading, some target => target == .failed
  | some .failed, some target => target == .unloading

/-- The layers and bytes an engine keeps resident. -/
structure ModelResidency where
  layerStart : Int := 0
  layerEnd : Int := 0
  layerCount : Int := 0
  residentWeightBytes : UInt64 := 0
  totalWeightBytes : UInt64 := 0
  residentTensorCount : UInt64 := 0
  deriving DecidableEq

/-- The status of a deployment, or of none. -/
structure DeploymentStatus where
  resident : Bool := false
  active : Bool := false
  state : Option ResidentDeploymentState := none
  identity : Option DeploymentIdentity := none
  modelResidency : Option ModelResidency := none
  deriving DecidableEq

/-- The answer of a lifecycle call. -/
structure DeploymentOperationResult where
  ok : Bool := false
  status : Bytes := []
  errorCode : Bytes := []
  errorMessage : Bytes := []
  identity : Option DeploymentIdentity := none
  state : Option ResidentDeploymentState := none
  deriving DecidableEq

/-- The stage and the layers a runtime executes. -/
structure StageAssignment where
  stageIndex : Int := 0
  stageCount : Int := 1
  layerStart : Int := 0
  layerEnd : Int := 0
  deriving DecidableEq

/-- The error of a malformed assignment; empty when there is none. -/
def validateStageAssignment (a : StageAssignment) : Bytes :=
  if a.stageCount < 1 then str "stage_count must be at least 1"
  else if a.stageIndex < 0 ∨ a.stageIndex ≥ a.stageCount then
    str "stage_index " ++ decimal a.stageIndex ++ str " is outside stage_count " ++
      decimal a.stageCount
  else if a.layerEnd ≤ a.layerStart then str "layer_end must be greater than layer_start"
  else []

end JetsonFabric
