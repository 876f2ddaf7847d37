import JetsonFabric.Bytes

/-!
# Stage messages

The records of `protocol/stage.hpp`, `protocol/generation.hpp` and
`pipeline_parallel/stage_result.hpp` that the runner, the model manager and the stages exchange.
Fields that only the wire format derives (`payload_bytes`, `payload_crc32`, `transport`,
`protocol_version`) are not part of these records.
-/

namespace JetsonFabric

/-- The identity of a deployment epoch on a runtime. -/
structure DeploymentIdentity where
  deploymentId : Bytes
  epoch : UInt64 := 0
  modelId : Bytes
  modelSha256 : Bytes
  deriving DecidableEq

/-- A request for one stage. -/
structure StageRequest where
  sessionId : Bytes := []
  requestId : Bytes := []
  modelId : Bytes := []
  deploymentId : Bytes := []
  deploymentEpoch : UInt64 := 0
  modelSha256 : Bytes := []
  phase : Bytes := str "prefill"
  decodeStep : Int := 0
  stageIndex : Int := 0
  stageCount : Int := 1
  nodeName : Bytes := []
  layerStart : Int := 0
  layerEnd : Int := 0
  payloadKind : Bytes := str "text"
  encoding : Bytes := str "utf-8"
  dtype : Bytes := []
  shape : List Int := []
  byteOrder : Bytes := []
  layout : Bytes := []
  payload : Bytes := []
  maxTokens : Int := 128
  rollbackTokens : Int := 0
  deriving DecidableEq

/-- The answer of one stage. -/
structure StageResponse where
  operation : Bytes := str "execute"
  sessionId : Bytes := []
  requestId : Bytes := []
  modelId : Bytes := []
  deploymentId : Bytes := []
  deploymentEpoch : UInt64 := 0
  modelSha256 : Bytes := []
  phase : Bytes := str "prefill"
  decodeStep : Int := 0
  stageIndex : Int := 0
  stageCount : Int := 1
  nodeName : Bytes := []
  layerStart : Int := 0
  layerEnd : Int := 0
  payloadKind : Bytes := str "text"
  encoding : Bytes := str "utf-8"
  dtype : Bytes := []
  shape : List Int := []
  byteOrder : Bytes := []
  layout : Bytes := []
  payload : Bytes := []
  bytesIn : Int := 0
  bytesOut : Int := 0
  promptTokens : Int := 0
  promptTokenIds : List UInt32 := []
  completionTokens : Int := 0
  executionBatchSize : Int := 1
  verificationWidth : Int := 1
  latencyMs : Int := 0
  executionUs : Int := 0
  activationDecodeUs : Int := 0
  activationEncodeUs : Int := 0
  stageTotalUs : Int := 0
  error : Bytes := []
  message : Bytes := []
  tokenTextOffsets : List UInt32 := []
  tokenEog : List UInt8 := []
  deriving DecidableEq

/-- What a stage call returns: a response, or a status with an error. -/
structure StageRunResult where
  ok : Bool := false
  status : Bytes := str "500 Internal Server Error"
  errorCode : Bytes := []
  errorMessage : Bytes := []
  response : StageResponse := {}
  remoteCallUs : Int := 0
  deriving DecidableEq

/-- A stage of the route of a generation. -/
structure GenerationStage where
  stageIndex : Int := 0
  stageCount : Int := 1
  nodeId : Bytes := []
  nodeName : Bytes := []
  apiUrl : Bytes := []
  runtimeUrl : Bytes := []
  layerStart : Int := 0
  layerEnd : Int := 0
  deriving DecidableEq

/-- A generation request. -/
structure GenerationRequest where
  requestId : Bytes := []
  sessionId : Bytes := []
  modelId : Bytes := []
  prompt : Bytes := []
  maxTokens : Int := 128
  deployment : Option DeploymentIdentity := none
  stages : List GenerationStage := []
  deriving DecidableEq

end JetsonFabric
