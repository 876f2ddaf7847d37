import JetsonFabric.Deployment.Types
import JetsonFabric.Inference.Executor

/-!
# The stage worker

`pipeline_parallel/stage_worker.cpp`: a stage request is checked against the assignment of the
runtime, its payload decoded and checked, the executor called, and what it returns checked, encoded
and put into a response. The times are what the clock measured.
-/

namespace JetsonFabric

open Checks

/-- A failed run. -/
def errorResult (status code message : Bytes) : StageRunResult :=
  { ok := false, status, errorCode := code, errorMessage := message }

/-- A run that is refused. -/
def badRequest (code message : Bytes) : StageRunResult :=
  errorResult (str "400 Bad Request") code message

/-- Microseconds of the parts of a stage. -/
structure StageTimings where
  executionUs : Int := 0
  activationDecodeUs : Int := 0
  activationEncodeUs : Int := 0
  stageTotalUs : Int := 0
  deriving DecidableEq

/-- Milliseconds, as an `int` holds them. -/
def elapsedMs (elapsedMicroseconds : Int) : Int :=
  (elapsedMicroseconds.tdiv 1000).bmod (2 ^ 32)

/-- The payload of a request. -/
def toInferencePayload (request : StageRequest) : Except Bytes Payload := do
  let kind ← parsePayloadKind request.payloadKind
  .ok { kind
        encoding := request.encoding
        tensor :=
          { dtype := request.dtype, shape := request.shape, byteOrder := request.byteOrder
            layout := request.layout }
        bytes := request.payload }

def toStageInput (request : StageRequest) : Except Bytes StageInput := do
  let phase ← parsePhase request.phase
  let payload ← toInferencePayload request
  .ok { sessionId := request.sessionId
        requestId := request.requestId
        modelId := request.modelId
        phase
        decodeStep := request.decodeStep
        position := { index := request.stageIndex, count := request.stageCount }
        layers := { start := request.layerStart, stop := request.layerEnd }
        payload
        maxTokens := request.maxTokens }

/-- A response with what it repeats of its request. -/
def baseResponse (request : StageRequest) : StageResponse :=
  { sessionId := request.sessionId
    requestId := request.requestId
    modelId := request.modelId
    deploymentId := request.deploymentId
    deploymentEpoch := request.deploymentEpoch
    modelSha256 := request.modelSha256
    phase := request.phase
    decodeStep := request.decodeStep
    stageIndex := request.stageIndex
    stageCount := request.stageCount
    nodeName := request.nodeName
    layerStart := request.layerStart
    layerEnd := request.layerEnd }

def toStageResponse (request : StageRequest) (output : StageOutput) (bytesIn : Int)
    (timings : StageTimings) : StageResponse :=
  { baseResponse request with
    payloadKind := output.payload.kind.toText
    encoding := output.payload.encoding
    dtype := output.payload.tensor.dtype
    shape := output.payload.tensor.shape
    byteOrder := output.payload.tensor.byteOrder
    layout := output.payload.tensor.layout
    payload := output.payload.bytes
    bytesIn
    bytesOut := output.payload.bytes.length
    promptTokens := output.promptTokens
    promptTokenIds := output.promptTokenIds
    completionTokens := output.completionTokens
    executionBatchSize := output.executionBatchSize
    verificationWidth := output.verificationWidth
    latencyMs := elapsedMs timings.executionUs
    executionUs := timings.executionUs
    activationDecodeUs := timings.activationDecodeUs
    activationEncodeUs := timings.activationEncodeUs
    stageTotalUs := timings.stageTotalUs
    message := output.tokenText
    tokenTextOffsets := output.tokenTextOffsets
    tokenEog := output.tokenEog }

def closeResponse (request : StageRequest) (durationUs : Int) : StageResponse :=
  { baseResponse request with
    payloadKind := str "text"
    encoding := str "utf-8"
    bytesIn := request.payload.length
    latencyMs := elapsedMs durationUs
    stageTotalUs := durationUs }

structure StageWorker (σ : Type) where
  nodeName : Bytes
  modelId : Bytes
  assignment : StageAssignment
  executor : Executor σ
  activationCodec : ActivationCodec

namespace StageWorker

variable {σ : Type} (worker : StageWorker σ) (request : StageRequest)

def validateRequest : Except Bytes Unit := do
  refuse (request.sessionId = []) (str "session_id is required")
  refuse (request.requestId = []) (str "request_id is required")
  refuse (request.modelId = []) (str "model_id is required")
  refuse (request.modelId ≠ worker.modelId) (str "request model_id " ++ request.modelId ++
    str " does not match runtime model_id " ++ worker.modelId)
  refuse (request.stageIndex ≠ worker.assignment.stageIndex)
    (str "request stage_index " ++ decimal request.stageIndex ++
      str " does not match runtime stage_index " ++ decimal worker.assignment.stageIndex)
  refuse (request.stageCount ≠ worker.assignment.stageCount)
    (str "request stage_count " ++ decimal request.stageCount ++
      str " does not match runtime stage_count " ++ decimal worker.assignment.stageCount)
  refuse (request.layerStart ≠ worker.assignment.layerStart ∨
      request.layerEnd ≠ worker.assignment.layerEnd)
    (str "request layer range [" ++ decimal request.layerStart ++ str ":" ++
      decimal request.layerEnd ++ str "] does not match runtime assignment [" ++
      decimal worker.assignment.layerStart ++ str ":" ++ decimal worker.assignment.layerEnd ++
      str "]")
  refuse (request.nodeName ≠ worker.nodeName) (str "request node_name " ++ request.nodeName ++
    str " does not match runtime node_name " ++ worker.nodeName)
  refuse (request.phase = []) (str "phase is required")
  refuse (request.payloadKind = []) (str "payload_kind is required")

/-- The checks that every call makes first. -/
def checkRequest : Except StageRunResult Unit := do
  let assignmentError := validateStageAssignment worker.assignment
  refuse (assignmentError ≠ []) (badRequest (str "invalid_stage_assignment") assignmentError)
  (worker.validateRequest request).mapError (badRequest (str "invalid_stage_request"))

/-- A payload that carries activations is decoded. -/
def decodeActivation (payload : Payload) : Except StageRunResult Payload :=
  if payload.kind = .activation then
    (worker.activationCodec.decode payload).mapError (badRequest (str "activation_decode_failed"))
  else .ok payload

/-- The input of an execution. -/
def prepare : Except StageRunResult StageInput := do
  worker.checkRequest request
  let input ← (toStageInput request).mapError (badRequest (str "invalid_stage_input"))
  (validatePayload input.payload).mapError (badRequest (str "invalid_stage_input"))
  let payload ← worker.decodeActivation input.payload
  (validateStageInput { input with payload }).mapError (badRequest (str "invalid_stage_input"))
  .ok { input with payload }

/-- The output of an execution as it goes on the wire. -/
def conclude (output : StageOutput) : Except StageRunResult StageOutput := do
  (validatePayload output.payload).mapError
    (errorResult (str "502 Bad Gateway") (str "invalid_stage_output"))
  if output.payload.kind = .activation then do
    let payload ← (worker.activationCodec.encode output.payload).mapError
      (errorResult (str "502 Bad Gateway") (str "activation_encode_failed"))
    (validatePayload payload).mapError
      (errorResult (str "502 Bad Gateway") (str "invalid_stage_output"))
    .ok { output with payload }
  else .ok output

/-- The times of a stage: those of the codec only when it ran. -/
def timingsOf (clock : StageTimings) (output : StageOutput) : StageTimings :=
  { clock with
    activationDecodeUs :=
      if request.payloadKind = str "activation" then clock.activationDecodeUs else 0
    activationEncodeUs :=
      if output.payload.kind = .activation then clock.activationEncodeUs else 0 }

def executionStatus (kind : ErrorKind) : Bytes :=
  if kind = .invalidInput then str "400 Bad Request" else str "502 Bad Gateway"

def run (clock : StageTimings) (engine : σ) : Except Thrown StageRunResult × σ :=
  match worker.prepare request with
  | .error result => (.ok result, engine)
  | .ok input =>
    match worker.executor.execute input engine with
    | (.error thrown, engine) => (.error thrown, engine)
    | (.ok (.error error), engine) =>
      (.ok (errorResult (executionStatus error.kind) error.code error.message), engine)
    | (.ok (.ok output), engine) =>
      match worker.conclude output with
      | .error result => (.ok result, engine)
      | .ok wire =>
        (.ok { ok := true
               status := str "200 OK"
               response := toStageResponse request wire request.payload.length
                 (timingsOf request clock output) }, engine)

def closeSession (clock : Int) (engine : σ) : StageRunResult × σ :=
  match worker.checkRequest request with
  | .error result => (result, engine)
  | .ok () =>
    match worker.executor.closeSession request.sessionId engine with
    | (.error thrown, engine) =>
      (errorResult (str "502 Bad Gateway") (str "stage_session_close_failed") thrown.what, engine)
    | (.ok (), engine) =>
      ({ ok := true, status := str "200 OK", response := closeResponse request clock }, engine)

def rollbackSession (clock : Int) (engine : σ) : StageRunResult × σ :=
  match worker.checkRequest request with
  | .error result => (result, engine)
  | .ok () =>
    if request.rollbackTokens ≤ 0 then
      (badRequest (str "invalid_rollback") (str "rollback_tokens must be greater than zero"), engine)
    else
      match worker.executor.rollbackSession request.sessionId request.rollbackTokens engine with
      | (.error (.invalidArgument what), engine) =>
        (badRequest (str "stage_session_rollback_rejected") what, engine)
      | (.error (.exception what), engine) =>
        (errorResult (str "502 Bad Gateway") (str "stage_session_rollback_failed") what, engine)
      | (.ok (), engine) =>
        ({ ok := true, status := str "200 OK", response := closeResponse request clock }, engine)

end StageWorker

end JetsonFabric
