import JetsonFabric.GoJson

/-!
# Stage frames in Go

`internal/stagewire`: the metadata as a Go structure with its tags, and the functions that
normalise, check, write and read a frame. A nil slice and an empty one are the same list. The JSON
package is a parameter; what it does with a structure (omitted fields, unknown fields, names in
another case) is modelled here.
-/

namespace JetsonFabric.Stagewire

open Checks Framing

/-! ## Data -/

/-- The metadata of a frame, with the identity of the deployment embedded. -/
structure Metadata where
  protocolVersion : UInt16 := 0
  operation : Bytes := []
  sessionId : Bytes := []
  requestId : Bytes := []
  modelId : Bytes := []
  deploymentId : Bytes := []
  deploymentEpoch : UInt64 := 0
  modelSha256 : Bytes := []
  phase : Bytes := []
  decodeStep : Int := 0
  stageIndex : Int := 0
  stageCount : Int := 0
  nodeName : Bytes := []
  layerStart : Int := 0
  layerEnd : Int := 0
  payloadKind : Bytes := []
  encoding : Bytes := []
  dtype : Bytes := []
  shape : List Int := []
  byteOrder : Bytes := []
  layout : Bytes := []
  payloadBytes : Int := 0
  payloadCrc32 : UInt32 := 0
  transport : Bytes := []
  maxTokens : Int := 0
  rollbackTokens : Int := 0
  bytesIn : Int := 0
  bytesOut : Int := 0
  promptTokens : Int := 0
  promptTokenIds : List UInt32 := []
  completionTokens : Int := 0
  executionBatchSize : Int := 0
  verificationWidth : Int := 0
  latencyMs : Int := 0
  executionUs : Int := 0
  activationDecodeUs : Int := 0
  activationEncodeUs : Int := 0
  stageTotalUs : Int := 0
  tokenTextOffsets : List UInt32 := []
  tokenEog : List UInt32 := []
  error : Bytes := []
  message : Bytes := []
  messageBytes : List Int := []
  deriving DecidableEq

/-- A frame in memory. -/
structure Frame extends Metadata where
  payload : Bytes := []
  deriving DecidableEq

def operationExecute : Bytes := str "execute"

def operationCloseSession : Bytes := str "close_session"

def operationRollback : Bytes := str "rollback_session"

def phasePrefill : Bytes := str "prefill"

def phaseDecode : Bytes := str "decode"

def version : UInt16 := 2

def maxMetadataBytes : Nat := 2 ^ 20

def maxPayloadBytes : Nat := 512 * 2 ^ 20

def transport : Bytes := str "http_binary_v1"

def isTensorKind (kind : Bytes) : Bool :=
  kind == str "tokens" || kind == str "activation" || kind == str "sampled_token" ||
    kind == str "sampled_tokens"

/-- `crc32.ChecksumIEEE`. -/
def checksumIEEE (payload : Bytes) : UInt32 := crc32 payload

/-! ## Normalising -/

def normalizeTelemetryDefaults (frame : Frame) : Frame :=
  { frame with
    executionBatchSize := if frame.executionBatchSize = 0 then 1 else frame.executionBatchSize
    verificationWidth := if frame.verificationWidth = 0 then 1 else frame.verificationWidth }

/-- The defaults of a frame that is sent. -/
def normalizeFrame (frame : Frame) : Frame :=
  let frame := normalizeTelemetryDefaults frame
  let operation := if frame.operation = [] then operationExecute else frame.operation
  { frame with
    protocolVersion := version
    operation
    maxTokens :=
      if operation = operationExecute ∧ frame.maxTokens = 0 then 128 else frame.maxTokens
    phase :=
      if frame.phase = [] then if frame.decodeStep = 0 then phasePrefill else phaseDecode
      else frame.phase
    encoding :=
      if frame.payloadKind = str "text" ∧ frame.encoding = [] then str "utf-8" else frame.encoding
    byteOrder :=
      if isTensorKind frame.payloadKind ∧ frame.byteOrder = [] then str "little"
      else frame.byteOrder
    layout :=
      if isTensorKind frame.payloadKind ∧ frame.layout = [] then str "row_major" else frame.layout
    payloadBytes := frame.payload.length
    payloadCrc32 := checksumIEEE frame.payload
    transport := transport }

/-! ## Checks -/

def validateDeploymentIdentity (m : Metadata) : Except Bytes Unit :=
  if m.deploymentId = [] ∧ m.deploymentEpoch = 0 ∧ m.modelSha256 = [] then .ok ()
  else do
    refuse (trimSpace m.deploymentId = [] ∨ m.deploymentEpoch = 0)
      (str "managed stagewire identity requires deployment_id and positive deployment_epoch")
    refuse (m.modelSha256.length ≠ 64)
      (str "managed stagewire identity requires a 64-character model_sha256")
    refuse (¬ m.modelSha256.all isXDigit)
      (str "managed stagewire identity requires a hexadecimal model_sha256")

/-- The bytes of one element. -/
def dtypeWidth (dtype : Bytes) : Option Nat :=
  if dtype = str "u8" ∨ dtype = str "i8" then some 1
  else if dtype = str "f16" ∨ dtype = str "bf16" then some 2
  else if dtype = str "i32" ∨ dtype = str "u32" ∨ dtype = str "f32" then some 4
  else if dtype = str "i64" ∨ dtype = str "u64" ∨ dtype = str "f64" then some 8
  else none

def errFrameTooLarge : Bytes := str "stagewire frame is too large"

/-- `count` times the product of the dimensions, as an `int64`. -/
def shapeElements (count : Int) : List Int → Except Bytes Int
  | [] => .ok count
  | dim :: shape => do
    refuse (dim ≤ 0) (str "shape dimensions must be positive, got " ++ decimal dim)
    refuse (count > (maxPayloadBytes : Int).tdiv dim) errFrameTooLarge
    shapeElements (wrap64 (count * dim)) shape

def tensorByteLength (dtype : Bytes) (shape : List Int) : Except Bytes Int :=
  match dtypeWidth dtype with
  | none => .error (str "unsupported dtype " ++ quote dtype)
  | some width => do
    let count ← shapeElements 1 shape
    refuse (count > (maxPayloadBytes : Int).tdiv width) errFrameTooLarge
    .ok (wrap64 (count * width))

def validatePayloadMetadata (m : Metadata) (payload : Bytes) : Except Bytes Unit :=
  if m.error ≠ [] then .ok ()
  else if m.payloadKind = str "text" then do
    refuse (m.encoding ≠ str "utf-8") (str "text payload encoding must be utf-8")
    refuse (m.shape.length ≠ 0 ∨ m.dtype ≠ [] ∨ m.byteOrder ≠ [] ∨ m.layout ≠ [])
      (str "text payload must not declare tensor metadata")
  else if isTensorKind m.payloadKind then do
    refuse (trimSpace m.dtype = []) (str "tensor payload dtype is required")
    refuse (m.shape.length = 0) (str "tensor payload shape is required")
    refuse (m.byteOrder ≠ str "little") (str "tensor payload byte_order must be little")
    refuse (m.layout ≠ str "row_major") (str "tensor payload layout must be row_major")
    let expected ← tensorByteLength m.dtype m.shape
    refuse (expected ≠ payload.length) (str "tensor metadata requires " ++ decimal expected ++
      str " bytes, got " ++ decimal payload.length)
  else .ok ()

/-- Eight hexadecimal digits, as `%08x` prints them. -/
def hex08 (n : Nat) : Bytes :=
  (List.range 8).map fun i => hexDigit (n / 16 ^ (7 - i) % 16)

def validatePosition (index count : Int) : Except Bytes Unit := do
  refuse (count ≤ 0) (str "stage count must be greater than zero")
  refuse (index < 0 ∨ index ≥ count) (str "stage index " ++ decimal index ++
    str " must be in [0," ++ decimal count ++ str ")")

def validate (frame : Frame) : Except Bytes Unit := do
  refuse (frame.protocolVersion ≠ version) (str "protocol_version must be " ++ decimal version.toNat)
  refuse (frame.operation ≠ operationExecute ∧ frame.operation ≠ operationCloseSession ∧
    frame.operation ≠ operationRollback) (str "invalid operation " ++ quote frame.operation)
  refuse (frame.operation = operationRollback ∧ frame.rollbackTokens ≤ 0)
    (str "rollback_session requires positive rollback_tokens")
  refuse (frame.operation ≠ operationRollback ∧ frame.rollbackTokens ≠ 0)
    (str "rollback_tokens is only valid for rollback_session")
  refuse (frame.maxTokens ≠ 0 ∧ (frame.maxTokens < 1 ∨ frame.maxTokens > 1024))
    (str "max_tokens must be between 1 and 1024")
  refuse (frame.executionBatchSize < 1) (str "execution_batch_size must be positive")
  refuse (frame.verificationWidth < 1) (str "verification_width must be positive")
  refuse (∃ value ∈ frame.tokenEog, value > 1) (str "token_eog values must be 0 or 1")
  refuse (∃ value ∈ frame.messageBytes, value < 0 ∨ value > 255)
    (str "message_bytes values must be between 0 and 255")
  refuse (trimSpace frame.sessionId = []) (str "session_id is required")
  refuse (trimSpace frame.requestId = []) (str "request_id is required")
  refuse (trimSpace frame.modelId = []) (str "model_id is required")
  validateDeploymentIdentity frame.toMetadata
  refuse (frame.phase ≠ phasePrefill ∧ frame.phase ≠ phaseDecode)
    (str "invalid phase " ++ quote frame.phase)
  validatePosition frame.stageIndex frame.stageCount
  refuse (frame.layerStart < 0 ∨ frame.layerEnd ≤ frame.layerStart)
    (str "invalid layer range [" ++ decimal frame.layerStart ++ str ":" ++
      decimal frame.layerEnd ++ str ")")
  refuse (frame.payloadKind ≠ str "text" ∧ ¬ isTensorKind frame.payloadKind)
    (str "invalid payload_kind " ++ quote frame.payloadKind)
  refuse (frame.payloadBytes ≠ frame.payload.length)
    (str "payload_bytes=" ++ decimal frame.payloadBytes ++ str " does not match payload length " ++
      decimal frame.payload.length)
  refuse (frame.payloadBytes > maxPayloadBytes) errFrameTooLarge
  refuse (checksumIEEE frame.payload ≠ frame.payloadCrc32)
    (str "stagewire payload checksum mismatch: metadata=" ++ hex08 frame.payloadCrc32.toNat ++
      str " actual=" ++ hex08 (checksumIEEE frame.payload).toNat)
  refuse (frame.transport ≠ transport) (str "transport must be " ++ quote transport)
  validatePayloadMetadata frame.toMetadata frame.payload

/-! ## Metadata as JSON -/

/-- The fields that `json.Marshal` writes, by the tags of the structure. -/
def metadataValues (m : Metadata) : MetadataValues
  | .protocolVersion => some (.int m.protocolVersion.toNat)
  | .operation => some (.string m.operation)
  | .sessionId => some (.string m.sessionId)
  | .requestId => some (.string m.requestId)
  | .modelId => some (.string m.modelId)
  | .deploymentId => omitDefault [] m.deploymentId .string
  | .deploymentEpoch => omitDefault 0 m.deploymentEpoch u64Json
  | .modelSha256 => omitDefault [] m.modelSha256 .string
  | .phase => some (.string m.phase)
  | .decodeStep => some (.int m.decodeStep)
  | .stageIndex => some (.int m.stageIndex)
  | .stageCount => some (.int m.stageCount)
  | .nodeName => some (.string m.nodeName)
  | .layerStart => some (.int m.layerStart)
  | .layerEnd => some (.int m.layerEnd)
  | .payloadKind => some (.string m.payloadKind)
  | .encoding => omitDefault [] m.encoding .string
  | .dtype => omitDefault [] m.dtype .string
  | .shape => omitDefault [] m.shape intArray
  | .byteOrder => omitDefault [] m.byteOrder .string
  | .layout => omitDefault [] m.layout .string
  | .payloadBytes => some (.int m.payloadBytes)
  | .payloadCrc32 => some (.int m.payloadCrc32.toNat)
  | .transport => some (.string m.transport)
  | .maxTokens => omitDefault 0 m.maxTokens .int
  | .rollbackTokens => omitDefault 0 m.rollbackTokens .int
  | .bytesIn => omitDefault 0 m.bytesIn .int
  | .bytesOut => omitDefault 0 m.bytesOut .int
  | .promptTokens => omitDefault 0 m.promptTokens .int
  | .promptTokenIds => omitDefault [] m.promptTokenIds u32Array
  | .completionTokens => omitDefault 0 m.completionTokens .int
  | .executionBatchSize => omitDefault 0 m.executionBatchSize .int
  | .verificationWidth => omitDefault 0 m.verificationWidth .int
  | .latencyMs => omitDefault 0 m.latencyMs .int
  | .executionUs => omitDefault 0 m.executionUs .int
  | .activationDecodeUs => omitDefault 0 m.activationDecodeUs .int
  | .activationEncodeUs => omitDefault 0 m.activationEncodeUs .int
  | .stageTotalUs => omitDefault 0 m.stageTotalUs .int
  | .tokenTextOffsets => omitDefault [] m.tokenTextOffsets u32Array
  | .tokenEog => omitDefault [] m.tokenEog u32Array
  | .error => omitDefault [] m.error .string
  | .message => omitDefault [] m.message .string
  | .messageBytes => omitDefault [] m.messageBytes intArray

/-- A field in the errors of the package. -/
def place (field : MetadataField) : Bytes := str "Metadata." ++ field.name

def goString (found : MetadataValues) (field : MetadataField) : Except Bytes Bytes :=
  fieldOf [] (stringOfJson (place field)) (found field)

/-- A field of type `int` or `int64`. -/
def goInt (found : MetadataValues) (goType : Bytes) (field : MetadataField) : Except Bytes Int :=
  fieldOf 0 (int64OfJson goType (place field)) (found field)

def goUint {α : Type} [OfNat α 0] (found : MetadataValues) (width : Nat) (cast : Nat → α)
    (goType : Bytes) (field : MetadataField) : Except Bytes α :=
  fieldOf 0 (unsignedOfJson width cast goType (place field)) (found field)

def goUint32s (found : MetadataValues) (field : MetadataField) : Except Bytes (List UInt32) :=
  fieldOf [] (listOfJson (str "[]uint32") (place field)
    (unsignedOfJson 32 UInt32.ofNat (str "uint32") (place field))) (found field)

def goInts (found : MetadataValues) (goType : Bytes) (field : MetadataField) :
    Except Bytes (List Int) :=
  fieldOf [] (listOfJson (str "[]" ++ goType) (place field) (int64OfJson goType (place field)))
    (found field)

/-- The operation, the session, the deployment and the stage. -/
def routeOfValues (found : MetadataValues) : Except Bytes Metadata := do
  let protocolVersion ← goUint found 16 UInt16.ofNat (str "uint16") .protocolVersion
  let operation ← goString found .operation
  let sessionId ← goString found .sessionId
  let requestId ← goString found .requestId
  let modelId ← goString found .modelId
  let deploymentId ← goString found .deploymentId
  let deploymentEpoch ← goUint found 64 UInt64.ofNat (str "uint64") .deploymentEpoch
  let modelSha256 ← goString found .modelSha256
  let phase ← goString found .phase
  let decodeStep ← goInt found (str "int") .decodeStep
  let stageIndex ← goInt found (str "int") .stageIndex
  let stageCount ← goInt found (str "int") .stageCount
  let nodeName ← goString found .nodeName
  let layerStart ← goInt found (str "int") .layerStart
  let layerEnd ← goInt found (str "int") .layerEnd
  .ok { protocolVersion, operation, sessionId, requestId, modelId, deploymentId, deploymentEpoch,
        modelSha256, phase, decodeStep, stageIndex, stageCount, nodeName, layerStart, layerEnd }

/-- The fields that describe the payload, and the limits of the request. -/
def payloadOfValues (found : MetadataValues) (m : Metadata) : Except Bytes Metadata := do
  let payloadKind ← goString found .payloadKind
  let encoding ← goString found .encoding
  let dtype ← goString found .dtype
  let shape ← goInts found (str "int64") .shape
  let byteOrder ← goString found .byteOrder
  let layout ← goString found .layout
  let payloadBytes ← goInt found (str "int64") .payloadBytes
  let payloadCrc32 ← goUint found 32 UInt32.ofNat (str "uint32") .payloadCrc32
  let transport ← goString found .transport
  let maxTokens ← goInt found (str "int") .maxTokens
  let rollbackTokens ← goInt found (str "int") .rollbackTokens
  .ok { m with
        payloadKind, encoding, dtype, shape, byteOrder, layout, payloadBytes, payloadCrc32,
        transport, maxTokens, rollbackTokens }

/-- The fields of an answer. -/
def answerOfValues (found : MetadataValues) (m : Metadata) : Except Bytes Metadata := do
  let bytesIn ← goInt found (str "int64") .bytesIn
  let bytesOut ← goInt found (str "int64") .bytesOut
  let promptTokens ← goInt found (str "int") .promptTokens
  let promptTokenIds ← goUint32s found .promptTokenIds
  let completionTokens ← goInt found (str "int") .completionTokens
  let executionBatchSize ← goInt found (str "int") .executionBatchSize
  let verificationWidth ← goInt found (str "int") .verificationWidth
  let latencyMs ← goInt found (str "int") .latencyMs
  let executionUs ← goInt found (str "int64") .executionUs
  let activationDecodeUs ← goInt found (str "int64") .activationDecodeUs
  let activationEncodeUs ← goInt found (str "int64") .activationEncodeUs
  let stageTotalUs ← goInt found (str "int64") .stageTotalUs
  let tokenTextOffsets ← goUint32s found .tokenTextOffsets
  let tokenEog ← goUint32s found .tokenEog
  let error ← goString found .error
  let message ← goString found .message
  let messageBytes ← goInts found (str "int") .messageBytes
  .ok { m with
        bytesIn, bytesOut, promptTokens, promptTokenIds, completionTokens, executionBatchSize,
        verificationWidth, latencyMs, executionUs, activationDecodeUs, activationEncodeUs,
        stageTotalUs, tokenTextOffsets, tokenEog, error, message, messageBytes }

/-- The structure that a decoder fills from the fields it finds. -/
def metadataOfValues (found : MetadataValues) : Except Bytes Metadata := do
  let route ← routeOfValues found
  let described ← payloadOfValues found route
  answerOfValues found described

/-- `Decoder.Decode` into the structure, with unknown fields refused. -/
def decodeMetadata (value : Json) : Except Bytes Metadata :=
  match value with
  | .null => .ok {}
  | .object fields => do
    let folded := fields.map fun (name, value) => (foldName name, value)
    match folded.find? fun (name, _) => MetadataField.all.all (·.name ≠ name) with
    | some (name, _) => .error (str "json: unknown field " ++ quote name)
    | none => metadataOfValues (findField folded)
  | value => .error (str "json: cannot unmarshal " ++ jsonKind value ++
      str " into Go value of type stagewire.Metadata")

/-- A `max_tokens` that is present is not zero. -/
def validateEncodedMaxTokens (value : Json) : Except Bytes Unit :=
  match value with
  | .object fields =>
    match findField fields .maxTokens with
    | none => .ok ()
    | some raw => do
      let tokens ← match int64OfJson (str "int") [] raw with
        | .ok tokens => .ok tokens
        | .error e => .error (str "decode max_tokens: " ++ e)
      refuse (tokens = 0) (str "max_tokens must be omitted or between 1 and 1024")
  | _ => .ok ()

/-! ## Frames -/

variable (json : Json.Codec isValidUtf8)

def headerSize : Nat := 20

def magic : Bytes := str "JFST"

def header (metadataLen payloadLen : Nat) : Bytes :=
  magic ++ bigEndian 2 version.toNat ++ bigEndian 2 0 ++ bigEndian 4 metadataLen ++
    bigEndian 8 payloadLen

/-- `Marshal`: the bytes that `Encode` writes. -/
def marshal (frame : Frame) : Except Bytes Bytes := do
  let frame := normalizeFrame frame
  validate frame
  let metadata ← match json.dump (.object (Json.record MetadataField.name MetadataField.all
      (metadataValues frame.toMetadata))) with
    | .ok metadata => .ok metadata
    | .error e => .error (str "encode stagewire metadata: " ++ e)
  refuse (metadata.length > maxMetadataBytes ∨ frame.payload.length > maxPayloadBytes)
    errFrameTooLarge
  .ok (header metadata.length frame.payload.length ++ metadata ++ frame.payload)

/-- `io.ReadFull`: the next bytes and the rest. -/
def readFull (n : Nat) (what input : Bytes) : Except Bytes (Bytes × Bytes) := do
  refuse (input.length < n) (str "truncated stagewire frame: " ++ what ++
    if input = [] then str ": EOF" else str ": unexpected EOF")
  .ok (input.take n, input.drop n)

/-- The metadata and the payload of a frame. -/
def readFrame (data : Bytes) : Except Bytes (Bytes × Bytes) := do
  let (head, rest) ← readFull headerSize (str "header") data
  refuse (head.take 4 ≠ magic) (str "invalid stagewire magic")
  let frameVersion := ofBigEndian ((head.drop 4).take 2)
  refuse (frameVersion ≠ version.toNat)
    (str "unsupported stagewire version: " ++ decimal frameVersion)
  let flags := ofBigEndian ((head.drop 6).take 2)
  refuse (flags ≠ 0) (str "stagewire flags must be zero, got " ++ decimal flags)
  let metadataLen := ofBigEndian ((head.drop 8).take 4)
  let payloadLen := ofBigEndian ((head.drop 12).take 8)
  refuse (metadataLen = 0 ∨ metadataLen > maxMetadataBytes ∨ payloadLen > maxPayloadBytes)
    errFrameTooLarge
  let (metadata, rest) ← readFull metadataLen (str "metadata") rest
  let (payload, rest) ← readFull payloadLen (str "payload") rest
  refuse (rest ≠ []) (str "stagewire frame has trailing data")
  .ok (metadata, payload)

/-- `Unmarshal`: `Decode` of bytes. -/
def unmarshal (data : Bytes) : Except Bytes Frame := do
  let (metadataBytes, payload) ← readFrame data
  let value ← match json.parse metadataBytes with
    | .ok value => .ok value
    | .error e => .error (str "decode stagewire metadata: " ++ e)
  let metadata ← match decodeMetadata value with
    | .ok metadata => .ok metadata
    | .error e => .error (str "decode stagewire metadata: " ++ e)
  validateEncodedMaxTokens value
  refuse (metadata.protocolVersion ≠ version)
    (str "metadata protocol_version " ++ decimal metadata.protocolVersion.toNat ++
      str " does not match frame version " ++ decimal version.toNat)
  let frame := normalizeTelemetryDefaults { toMetadata := metadata, payload }
  validate frame
  .ok frame

end JetsonFabric.Stagewire
