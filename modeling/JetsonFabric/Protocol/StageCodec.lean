import JetsonFabric.Protocol.Frame
import JetsonFabric.Protocol.Stage

/-!
# Stage requests and responses on the wire

`protocol/stage.cpp` and `protocol/stage_control.cpp`: the metadata of a request and of a response,
with the checks both sides make.
-/

namespace JetsonFabric

open Checks Framing

/-! ## Checks -/

def maxStageTokens : Int := 1024

def stageOperationExecute : Bytes := str "execute"

def stageOperationCloseSession : Bytes := str "close_session"

def stageOperationRollbackSession : Bytes := str "rollback_session"

def validateStageOperationName (operation : Bytes) : Except Bytes Unit :=
  refuse (operation ≠ stageOperationExecute ∧ operation ≠ stageOperationCloseSession ∧
      operation ≠ stageOperationRollbackSession)
    (str "invalid stage operation: " ++ operation)

def validateStageOperation (operation : Bytes) (rollbackTokens : Int) : Except Bytes Unit := do
  validateStageOperationName operation
  refuse (operation = stageOperationRollbackSession ∧ rollbackTokens ≤ 0)
    (str "rollback_session requires positive rollback_tokens")
  refuse (operation ≠ stageOperationRollbackSession ∧ rollbackTokens ≠ 0)
    (str "rollback_tokens is only valid for rollback_session")

def validateMaxTokens (value : Int) : Except Bytes Int := do
  refuse (value ≤ 0 ∨ value > maxStageTokens) (str "max_tokens must be between 1 and 1024")
  .ok value

def validateDeploymentIdentity (deploymentId : Bytes) (deploymentEpoch : UInt64)
    (modelSha256 : Bytes) : Except Bytes Unit :=
  if deploymentId = [] ∧ deploymentEpoch = 0 ∧ modelSha256 = [] then .ok ()
  else do
    refuse (deploymentId = [] ∨ deploymentEpoch = 0)
      (str "managed stagewire identity requires deployment_id and positive deployment_epoch")
    refuse (modelSha256.length ≠ 64 ∨ ¬ modelSha256.all isXDigit)
      (str "managed stagewire identity requires a 64-character hexadecimal model_sha256")

/-- The bytes of one element. -/
def dtypeWidth (dtype : Bytes) : Except Bytes Nat :=
  if dtype = str "u8" ∨ dtype = str "i8" then .ok 1
  else if dtype = str "f16" ∨ dtype = str "bf16" then .ok 2
  else if dtype = str "i32" ∨ dtype = str "u32" ∨ dtype = str "f32" then .ok 4
  else if dtype = str "i64" ∨ dtype = str "u64" ∨ dtype = str "f64" then .ok 8
  else .error (str "unsupported dtype: " ++ dtype)

/-- `count` times the product of the dimensions, in 64 bits. -/
def shapeElements (count : Nat) : List Int → Except Bytes Nat
  | [] => .ok count
  | dim :: shape => do
    refuse (dim ≤ 0 ∨ count > maxPayloadBytes / dim.toNat) (str "invalid or oversized tensor shape")
    shapeElements (count * dim.toNat % 2 ^ 64) shape

def validateTensorMetadata (kind encoding dtype : Bytes) (shape : List Int)
    (byteOrder layout : Bytes) (payloadSize : Nat) : Except Bytes Unit :=
  if kind = str "text" then do
    refuse (encoding ≠ str "utf-8") (str "text payload encoding must be utf-8")
    refuse (dtype ≠ [] ∨ shape ≠ [] ∨ byteOrder ≠ [] ∨ layout ≠ [])
      (str "text payload must not declare tensor metadata")
  else do
    refuse (kind ≠ str "tokens" ∧ kind ≠ str "activation" ∧ kind ≠ str "sampled_token" ∧
      kind ≠ str "sampled_tokens") (str "invalid payload_kind: " ++ kind)
    refuse (dtype = [] ∨ shape = []) (str "tensor payload requires dtype and shape")
    refuse (byteOrder ≠ str "little" ∨ layout ≠ str "row_major")
      (str "tensor payload requires little byte order and row_major layout")
    let count ← shapeElements 1 shape
    let width ← dtypeWidth dtype
    refuse (count > maxPayloadBytes / width ∨ count * width % 2 ^ 64 ≠ payloadSize)
      (str "tensor shape and dtype do not match payload length")

/-! ## Requests -/

variable (json : Json.Codec isValidUtf8)

/-- The metadata of a request. -/
def requestValues (request : StageRequest) (operation : Bytes) : MetadataValues
  | .protocolVersion => some (.int stageWireVersion)
  | .operation => some (.string operation)
  | .sessionId => some (.string request.sessionId)
  | .requestId => some (.string request.requestId)
  | .modelId => some (.string request.modelId)
  | .deploymentId =>
    if request.deploymentId ≠ [] then some (.string request.deploymentId) else none
  | .deploymentEpoch =>
    if request.deploymentId ≠ [] then some (u64Json request.deploymentEpoch) else none
  | .modelSha256 =>
    if request.deploymentId ≠ [] then some (.string request.modelSha256) else none
  | .phase => some (.string request.phase)
  | .decodeStep => some (.int request.decodeStep)
  | .stageIndex => some (.int request.stageIndex)
  | .stageCount => some (.int request.stageCount)
  | .nodeName => some (.string request.nodeName)
  | .layerStart => some (.int request.layerStart)
  | .layerEnd => some (.int request.layerEnd)
  | .payloadKind => some (.string request.payloadKind)
  | .encoding => omitDefault [] request.encoding .string
  | .dtype => omitDefault [] request.dtype .string
  | .shape => omitDefault [] request.shape intArray
  | .byteOrder => omitDefault [] request.byteOrder .string
  | .layout => omitDefault [] request.layout .string
  | .payloadBytes => some (.int request.payload.length)
  | .payloadCrc32 => some (.int (crc32 request.payload).toNat)
  | .transport => some (.string stageWireTransport)
  | .maxTokens => some (.int request.maxTokens)
  | .rollbackTokens => omitDefault 0 request.rollbackTokens .int
  | _ => none

/-- `encode_stage_request`, the frame with its payload. -/
def encodeStageRequest (request : StageRequest) (operation : Bytes) : Except Bytes Bytes := do
  validateStageOperation operation request.rollbackTokens
  let _maxTokens ← validateMaxTokens request.maxTokens
  validateTensorMetadata request.payloadKind request.encoding request.dtype request.shape
    request.byteOrder request.layout request.payload.length
  validateDeploymentIdentity request.deploymentId request.deploymentEpoch request.modelSha256
  let front ← encodeFramePrefix json MetadataField.all (requestValues request operation)
    request.payload (crc32 request.payload)
  .ok (front ++ request.payload)

/-- The request of decoded metadata. -/
def requestOfValues (body : MetadataValues) (payload : Bytes) : Except Bytes StageRequest := do
  let _protocolVersion ← extractInt (body .protocolVersion) .protocolVersion 0
  let sessionId ← extractString (body .sessionId) .sessionId []
  let requestId ← extractString (body .requestId) .requestId []
  let modelId ← extractString (body .modelId) .modelId []
  let deploymentId ← extractString (body .deploymentId) .deploymentId []
  let deploymentEpoch ← extractU64 (body .deploymentEpoch) .deploymentEpoch 0
  let modelSha256 ← extractString (body .modelSha256) .modelSha256 []
  validateDeploymentIdentity deploymentId deploymentEpoch modelSha256
  let step ← extractInt (body .decodeStep) .decodeStep 0
  let phase ← extractString (body .phase) .phase (if step = 0 then str "prefill" else str "decode")
  let decodeStep ← extractInt (body .decodeStep) .decodeStep 0
  let stageIndex ← extractInt (body .stageIndex) .stageIndex 0
  let stageCount ← extractInt (body .stageCount) .stageCount 1
  let nodeName ← extractString (body .nodeName) .nodeName []
  let layerStart ← extractInt (body .layerStart) .layerStart 0
  let layerEnd ← extractInt (body .layerEnd) .layerEnd 0
  let payloadKind ← extractString (body .payloadKind) .payloadKind []
  let encoding ← extractString (body .encoding) .encoding []
  let dtype ← extractString (body .dtype) .dtype []
  let shape ← extractShape (body .shape)
  let byteOrder ← extractString (body .byteOrder) .byteOrder []
  let layout ← extractString (body .layout) .layout []
  let _transport ← extractString (body .transport) .transport []
  let requestedTokens ← extractInt (body .maxTokens) .maxTokens 128
  let maxTokens ← validateMaxTokens requestedTokens
  let rollbackTokens ← extractInt (body .rollbackTokens) .rollbackTokens 0
  validateTensorMetadata payloadKind encoding dtype shape byteOrder layout payload.length
  .ok { sessionId, requestId, modelId, deploymentId, deploymentEpoch, modelSha256, phase,
        decodeStep, stageIndex, stageCount, nodeName, layerStart, layerEnd, payloadKind, encoding,
        dtype, shape, byteOrder, layout, payload, maxTokens, rollbackTokens }

def decodeStageRequest (frame : Bytes) : Except Bytes StageRequest := do
  let decoded ← decodeFrame json frame
  requestOfValues decoded.metadata decoded.payload

/-- The type of a value, as the library names it. -/
def jsonTypeName : Json → Bytes
  | .null => str "null"
  | .bool _ => str "boolean"
  | .int _ => str "number"
  | .real _ => str "number"
  | .string _ => str "string"
  | .array _ => str "array"
  | .object _ => str "object"

/-- The operation in the metadata; a value that is no object has no fields. -/
def operationOfJson (metadata : Json) : Except Bytes Bytes := do
  let found :=
    match metadata with
    | .object fields => findField fields .operation
    | _ => none
  match optionalField found with
  | none => .error (str "stage operation is required")
  | some (.string operation) => do
    validateStageOperationName operation
    .ok operation
  | some value =>
    .error (str "[json.exception.type_error.302] type must be string, but is " ++
      jsonTypeName value)

def decodeStageOperation (frame : Bytes) : Except Bytes Bytes := do
  refuse (frame.length < headerSize) (str "truncated stagewire header")
  let metadataLength := (frameLengths (frame.take headerSize)).1
  refuse (metadataLength = 0 ∨ headerSize + metadataLength > frame.length)
    (str "invalid stagewire metadata length")
  let metadata ← json.parse ((frame.drop headerSize).take metadataLength)
  operationOfJson metadata

/-! ## Responses -/

/-- The order of the metadata of a response. -/
def responseOrder : List MetadataField :=
  [.protocolVersion, .operation, .sessionId, .requestId, .modelId, .deploymentId, .deploymentEpoch,
    .modelSha256, .phase, .decodeStep, .stageIndex, .stageCount, .nodeName, .layerStart, .layerEnd,
    .payloadKind, .encoding, .dtype, .shape, .byteOrder, .layout, .payloadBytes, .payloadCrc32,
    .transport, .bytesIn, .bytesOut, .promptTokens, .promptTokenIds, .completionTokens,
    .executionBatchSize, .verificationWidth, .latencyMs, .executionUs, .activationDecodeUs,
    .activationEncodeUs, .stageTotalUs, .error, .message, .messageBytes, .tokenTextOffsets,
    .tokenEog, .maxTokens, .rollbackTokens]

/-- The metadata of a response; a message may be an array of bytes. -/
def responseValues (response : StageResponse) : MetadataValues
  | .protocolVersion => some (.int stageWireVersion)
  | .operation => some (.string response.operation)
  | .sessionId => some (.string response.sessionId)
  | .requestId => some (.string response.requestId)
  | .modelId => some (.string response.modelId)
  | .deploymentId =>
    if response.deploymentId ≠ [] then some (.string response.deploymentId) else none
  | .deploymentEpoch =>
    if response.deploymentId ≠ [] then some (u64Json response.deploymentEpoch) else none
  | .modelSha256 =>
    if response.deploymentId ≠ [] then some (.string response.modelSha256) else none
  | .phase => some (.string response.phase)
  | .decodeStep => some (.int response.decodeStep)
  | .stageIndex => some (.int response.stageIndex)
  | .stageCount => some (.int response.stageCount)
  | .nodeName => some (.string response.nodeName)
  | .layerStart => some (.int response.layerStart)
  | .layerEnd => some (.int response.layerEnd)
  | .payloadKind => some (.string response.payloadKind)
  | .encoding => omitDefault [] response.encoding .string
  | .dtype => omitDefault [] response.dtype .string
  | .shape => omitDefault [] response.shape intArray
  | .byteOrder => omitDefault [] response.byteOrder .string
  | .layout => omitDefault [] response.layout .string
  | .payloadBytes => some (.int response.payload.length)
  | .payloadCrc32 => some (.int (crc32 response.payload).toNat)
  | .transport => some (.string stageWireTransport)
  | .bytesIn => omitDefault 0 response.bytesIn .int
  | .bytesOut => omitDefault 0 response.bytesOut .int
  | .promptTokens => omitDefault 0 response.promptTokens .int
  | .promptTokenIds => omitDefault [] response.promptTokenIds u32Array
  | .completionTokens => omitDefault 0 response.completionTokens .int
  | .executionBatchSize => omitDefault 1 response.executionBatchSize .int
  | .verificationWidth => omitDefault 1 response.verificationWidth .int
  | .latencyMs => omitDefault 0 response.latencyMs .int
  | .executionUs => omitDefault 0 response.executionUs .int
  | .activationDecodeUs => omitDefault 0 response.activationDecodeUs .int
  | .activationEncodeUs => omitDefault 0 response.activationEncodeUs .int
  | .stageTotalUs => omitDefault 0 response.stageTotalUs .int
  | .error => omitDefault [] response.error .string
  | .message =>
    if isValidUtf8 response.message then omitDefault [] response.message .string else none
  | .messageBytes =>
    if isValidUtf8 response.message then none
    else omitDefault [] response.message byteArray
  | .tokenTextOffsets => omitDefault [] response.tokenTextOffsets u32Array
  | .tokenEog => omitDefault [] response.tokenEog byteArray
  | .maxTokens => none
  | .rollbackTokens => none

def validateWidths (executionBatchSize verificationWidth : Int) : Except Bytes Unit :=
  refuse (executionBatchSize ≤ 0 ∨ verificationWidth ≤ 0)
    (str "stage response batch and verification widths must be positive")

/-- The payload of an error is not checked. -/
def validateResponsePayload (response : StageResponse) : Except Bytes Unit :=
  if response.error = [] then
    validateTensorMetadata response.payloadKind response.encoding response.dtype response.shape
      response.byteOrder response.layout response.payload.length
  else .ok ()

/-- `encode_stage_response`, the frame with its payload. -/
def encodeStageResponse (response : StageResponse) : Except Bytes Bytes := do
  validateStageOperationName response.operation
  validateWidths response.executionBatchSize response.verificationWidth
  validateResponsePayload response
  validateDeploymentIdentity response.deploymentId response.deploymentEpoch response.modelSha256
  let front ← encodeFramePrefix json responseOrder (responseValues response) response.payload
    (crc32 response.payload)
  .ok (front ++ response.payload)

/-- The message, from the array of bytes when there is one. -/
def extractMessage (body : MetadataValues) : Except Bytes Bytes := do
  let bytes ← extractByteString (body .messageBytes) .messageBytes
  if bytes = [] then extractString (body .message) .message [] else .ok bytes

/-- The response of decoded metadata. -/
def responseOfValues (body : MetadataValues) (payload : Bytes) : Except Bytes StageResponse := do
  let _protocolVersion ← extractInt (body .protocolVersion) .protocolVersion 0
  let operation ← extractString (body .operation) .operation []
  validateStageOperationName operation
  let sessionId ← extractString (body .sessionId) .sessionId []
  let requestId ← extractString (body .requestId) .requestId []
  let modelId ← extractString (body .modelId) .modelId []
  let deploymentId ← extractString (body .deploymentId) .deploymentId []
  let deploymentEpoch ← extractU64 (body .deploymentEpoch) .deploymentEpoch 0
  let modelSha256 ← extractString (body .modelSha256) .modelSha256 []
  validateDeploymentIdentity deploymentId deploymentEpoch modelSha256
  let step ← extractInt (body .decodeStep) .decodeStep 0
  let phase ← extractString (body .phase) .phase (if step = 0 then str "prefill" else str "decode")
  let decodeStep ← extractInt (body .decodeStep) .decodeStep 0
  let stageIndex ← extractInt (body .stageIndex) .stageIndex 0
  let stageCount ← extractInt (body .stageCount) .stageCount 1
  let nodeName ← extractString (body .nodeName) .nodeName []
  let layerStart ← extractInt (body .layerStart) .layerStart 0
  let layerEnd ← extractInt (body .layerEnd) .layerEnd 0
  let payloadKind ← extractString (body .payloadKind) .payloadKind []
  let encoding ← extractString (body .encoding) .encoding []
  let dtype ← extractString (body .dtype) .dtype []
  let shape ← extractShape (body .shape)
  let byteOrder ← extractString (body .byteOrder) .byteOrder []
  let layout ← extractString (body .layout) .layout []
  let _transport ← extractString (body .transport) .transport []
  let bytesIn ← extractInt64 (body .bytesIn) .bytesIn 0
  let bytesOut ← extractInt64 (body .bytesOut) .bytesOut 0
  let promptTokens ← extractInt (body .promptTokens) .promptTokens 0
  let promptTokenIds ← extractUnsignedArray (body .promptTokenIds) .promptTokenIds (2 ^ 32 - 1)
    UInt32.ofNat
  let completionTokens ← extractInt (body .completionTokens) .completionTokens 0
  let executionBatchSize ← extractInt (body .executionBatchSize) .executionBatchSize 1
  let verificationWidth ← extractInt (body .verificationWidth) .verificationWidth 1
  validateWidths executionBatchSize verificationWidth
  let latencyMs ← extractInt (body .latencyMs) .latencyMs 0
  let executionUs ← extractInt64 (body .executionUs) .executionUs 0
  let activationDecodeUs ← extractInt64 (body .activationDecodeUs) .activationDecodeUs 0
  let activationEncodeUs ← extractInt64 (body .activationEncodeUs) .activationEncodeUs 0
  let stageTotalUs ← extractInt64 (body .stageTotalUs) .stageTotalUs 0
  let error ← extractString (body .error) .error []
  let message ← extractMessage body
  let tokenTextOffsets ← extractUnsignedArray (body .tokenTextOffsets) .tokenTextOffsets
    (2 ^ 32 - 1) UInt32.ofNat
  let tokenEog ← extractUnsignedArray (body .tokenEog) .tokenEog 1 UInt8.ofNat
  let response : StageResponse :=
    { operation, sessionId, requestId, modelId, deploymentId, deploymentEpoch, modelSha256, phase,
      decodeStep, stageIndex, stageCount, nodeName, layerStart, layerEnd, payloadKind, encoding,
      dtype, shape, byteOrder, layout, payload, bytesIn, bytesOut, promptTokens, promptTokenIds,
      completionTokens, executionBatchSize, verificationWidth, latencyMs, executionUs,
      activationDecodeUs, activationEncodeUs, stageTotalUs, error, message, tokenTextOffsets,
      tokenEog }
  validateResponsePayload response
  .ok response

def decodeStageResponse (frame : Bytes) : Except Bytes StageResponse := do
  let decoded ← decodeFrame json frame
  responseOfValues decoded.metadata decoded.payload

/-! ## Values of the C++ types -/

/-- The numbers of a request are of their types. -/
structure StageRequest.Typed (request : StageRequest) : Prop where
  decodeStep : IsInt32 request.decodeStep
  stageIndex : IsInt32 request.stageIndex
  stageCount : IsInt32 request.stageCount
  layerStart : IsInt32 request.layerStart
  layerEnd : IsInt32 request.layerEnd
  shape : ∀ dim ∈ request.shape, IsInt64 dim
  maxTokens : IsInt32 request.maxTokens
  rollbackTokens : IsInt32 request.rollbackTokens

/-- The strings of a request are text. -/
structure StageRequest.Utf8 (request : StageRequest) : Prop where
  sessionId : isValidUtf8 request.sessionId = true
  requestId : isValidUtf8 request.requestId = true
  modelId : isValidUtf8 request.modelId = true
  deploymentId : isValidUtf8 request.deploymentId = true
  modelSha256 : isValidUtf8 request.modelSha256 = true
  phase : isValidUtf8 request.phase = true
  nodeName : isValidUtf8 request.nodeName = true
  payloadKind : isValidUtf8 request.payloadKind = true
  encoding : isValidUtf8 request.encoding = true
  dtype : isValidUtf8 request.dtype = true
  byteOrder : isValidUtf8 request.byteOrder = true
  layout : isValidUtf8 request.layout = true

/-- The numbers of a response are of their types. -/
structure StageResponse.Typed (response : StageResponse) : Prop where
  decodeStep : IsInt32 response.decodeStep
  stageIndex : IsInt32 response.stageIndex
  stageCount : IsInt32 response.stageCount
  layerStart : IsInt32 response.layerStart
  layerEnd : IsInt32 response.layerEnd
  shape : ∀ dim ∈ response.shape, IsInt64 dim
  bytesIn : IsInt64 response.bytesIn
  bytesOut : IsInt64 response.bytesOut
  promptTokens : IsInt32 response.promptTokens
  completionTokens : IsInt32 response.completionTokens
  executionBatchSize : IsInt32 response.executionBatchSize
  verificationWidth : IsInt32 response.verificationWidth
  latencyMs : IsInt32 response.latencyMs
  executionUs : IsInt64 response.executionUs
  activationDecodeUs : IsInt64 response.activationDecodeUs
  activationEncodeUs : IsInt64 response.activationEncodeUs
  stageTotalUs : IsInt64 response.stageTotalUs

/-- The strings of a response other than its message are text. -/
structure StageResponse.Utf8 (response : StageResponse) : Prop where
  sessionId : isValidUtf8 response.sessionId = true
  requestId : isValidUtf8 response.requestId = true
  modelId : isValidUtf8 response.modelId = true
  deploymentId : isValidUtf8 response.deploymentId = true
  modelSha256 : isValidUtf8 response.modelSha256 = true
  phase : isValidUtf8 response.phase = true
  nodeName : isValidUtf8 response.nodeName = true
  payloadKind : isValidUtf8 response.payloadKind = true
  encoding : isValidUtf8 response.encoding = true
  dtype : isValidUtf8 response.dtype = true
  byteOrder : isValidUtf8 response.byteOrder = true
  layout : isValidUtf8 response.layout = true
  error : isValidUtf8 response.error = true

end JetsonFabric
