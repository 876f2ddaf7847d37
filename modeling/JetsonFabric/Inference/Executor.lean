import JetsonFabric.Inference.Stage
import JetsonFabric.Protocol.StageCodec

/-!
# Stage inputs, outputs and executors

The data of `inference/stage.hpp` with the checks of `inference/stage.cpp`, and the two interfaces
an engine and an activation codec implement.
-/

namespace JetsonFabric

open Checks

/-! ## Data -/

/-- The name of a kind. -/
def PayloadKind.toText : PayloadKind → Bytes
  | .text => str "text"
  | .tokens => str "tokens"
  | .activation => str "activation"
  | .sampledToken => str "sampled_token"
  | .sampledTokens => str "sampled_tokens"

/-- The layers from `start` to before `stop`. -/
structure StageLayerRange where
  start : Int := 0
  stop : Int := 0
  deriving DecidableEq

structure TensorDescriptor where
  dtype : Bytes := []
  shape : List Int := []
  byteOrder : Bytes := []
  layout : Bytes := []
  deriving DecidableEq

structure Payload where
  kind : PayloadKind := .text
  encoding : Bytes := []
  tensor : TensorDescriptor := {}
  bytes : Bytes := []
  deriving DecidableEq

/-- What an executor is asked to do. -/
structure StageInput where
  sessionId : Bytes := []
  requestId : Bytes := []
  modelId : Bytes := []
  phase : Phase := .prefill
  decodeStep : Int := 0
  position : StagePosition := {}
  layers : StageLayerRange := {}
  payload : Payload := {}
  maxTokens : Int := 128
  deriving DecidableEq

/-- What an execution leaves. -/
structure StageOutput where
  payload : Payload := {}
  promptTokens : Int := 0
  promptTokenIds : List UInt32 := []
  completionTokens : Int := 0
  executionBatchSize : Int := 1
  verificationWidth : Int := 1
  tokenText : Bytes := []
  tokenTextOffsets : List UInt32 := []
  tokenEog : List UInt8 := []
  endOfGeneration : Bool := false
  deriving DecidableEq

inductive ErrorKind
  | invalidInput
  | executionFailure
  deriving DecidableEq

structure ExecutionError where
  kind : ErrorKind := .executionFailure
  code : Bytes := []
  message : Bytes := []
  deriving DecidableEq

abbrev ExecutionResult : Type := Except ExecutionError StageOutput

/-- An invalid input. -/
def ExecutionResult.invalidInput (code message : Bytes) : ExecutionResult :=
  .error { kind := .invalidInput, code, message }

/-- A failed execution. -/
def ExecutionResult.failure (code message : Bytes) : ExecutionResult :=
  .error { kind := .executionFailure, code, message }

/-! ## Checks -/

/-- The bytes of one element; zero for a type that is not known. -/
def tensorWidth (dtype : Bytes) : Nat :=
  if dtype = str "u8" ∨ dtype = str "i8" then 1
  else if dtype = str "f16" ∨ dtype = str "bf16" then 2
  else if dtype = str "i32" ∨ dtype = str "u32" ∨ dtype = str "f32" then 4
  else if dtype = str "i64" ∨ dtype = str "u64" ∨ dtype = str "f64" then 8
  else 0

/-- The check of a payload. -/
def validatePayload (payload : Payload) : Except Bytes Unit :=
  if payload.kind = .text then do
    refuse (payload.encoding ≠ str "utf-8") (str "text payload encoding must be utf-8")
    refuse (payload.tensor.dtype ≠ [] ∨ payload.tensor.shape ≠ [] ∨ payload.tensor.byteOrder ≠ [] ∨
      payload.tensor.layout ≠ []) (str "text payload must not declare tensor metadata")
  else do
    refuse (payload.encoding ≠ []) (str "tensor payload must not declare text encoding")
    refuse (payload.tensor.dtype = [] ∨ payload.tensor.shape = [])
      (str "tensor payload requires dtype and shape")
    refuse (payload.tensor.byteOrder ≠ str "little" ∨ payload.tensor.layout ≠ str "row_major")
      (str "tensor payload requires little byte order and row_major layout")
    let width := tensorWidth payload.tensor.dtype
    refuse (width = 0) (str "unsupported tensor dtype: " ++ payload.tensor.dtype)
    let count ← shapeElements 1 payload.tensor.shape
    refuse (count > maxPayloadBytes / width ∨ count * width % 2 ^ 64 ≠ payload.bytes.length)
      (str "tensor shape and dtype do not match payload length")
    refuse (payload.kind = .sampledToken ∧ count ≠ 1)
      (str "sampled_token payload must contain exactly one element")
    refuse (payload.kind = .sampledTokens ∧ count < 2)
      (str "sampled_tokens payload must contain at least two elements")

/-- The checks of an input. -/
def validateStageInput (input : StageInput) : Except Bytes Unit := do
  refuse (input.sessionId = []) (str "session_id is required")
  refuse (input.requestId = []) (str "request_id is required")
  refuse (input.modelId = []) (str "model_id is required")
  refuse (input.position.count ≤ 0) (str "stage count must be greater than zero")
  refuse (input.position.index < 0 ∨ input.position.index ≥ input.position.count)
    (str "stage index must be within stage count")
  refuse (input.layers.stop ≤ input.layers.start)
    (str "layer range end must be greater than start")
  refuse (input.phase = .prefill ∧ input.decodeStep ≠ 0) (str "prefill requires decode_step 0")
  refuse (input.phase = .decode ∧ input.decodeStep ≤ 0)
    (str "decode requires a positive decode_step")
  refuse (input.maxTokens ≤ 0) (str "max_tokens must be greater than zero")
  validatePayload input.payload

theorem maxTokens_pos_of_validateStageInput {input : StageInput}
    (h : validateStageInput input = .ok ()) : 0 < input.maxTokens := by
  simp only [validateStageInput, Checks.bind_eq_ok, Checks.refuse_eq_ok, exists_const] at h
  exact not_le.1 h.2.2.2.2.2.2.2.2.1

/-! ## Interfaces -/

/-- An exception, by the class that handlers tell apart. -/
inductive Thrown
  | invalidArgument (what : Bytes)
  | exception (what : Bytes)
  deriving DecidableEq

/-- The text of an exception. -/
def Thrown.what : Thrown → Bytes
  | .invalidArgument what => what
  | .exception what => what

/-- `inference::Executor`, on the state of the engine. -/
structure Executor (σ : Type) where
  execute : StageInput → σ → Except Thrown ExecutionResult × σ
  closeSession : Bytes → σ → Except Thrown Unit × σ
  rollbackSession : Bytes → Int → σ → Except Thrown Unit × σ

/-- `activation::ActivationCodec`; an error is the text of an exception. -/
structure ActivationCodec where
  encode : Payload → Except Bytes Payload
  decode : Payload → Except Bytes Payload

end JetsonFabric
