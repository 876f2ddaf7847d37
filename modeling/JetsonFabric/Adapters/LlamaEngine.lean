import JetsonFabric.Inference.TokenPayload
import JetsonFabric.Lib.Stops

/-!
# The llama.cpp stage adapter: configuration, engine and outputs

The parts of `adapters/llama_cpp_stage_adapter.cpp` that its two modes share. The model and
llama.cpp are behind `LlamaEngine`: every call may answer anything, change the state of the library
and throw.
-/

namespace JetsonFabric

open Checks Stops

/-! ## Configuration -/

/-- `LlamaCppStageConfig` with what is asked of its model. -/
structure LlamaCppStageConfig where
  nEmbd : Nat
  nVocab : Nat
  ctxSize : Int := 4096
  ubatchSize : Int := 512
  decodeBatchSize : Int := 1
  maxParallelSessions : Int := 1
  speculativeMaxTokens : Int := 0
  position : StagePosition := {}
  layers : StageLayerRange := {}
  sessionIdleTtl : Int := 300000
  deriving DecidableEq

namespace LlamaCppStageConfig

variable (config : LlamaCppStageConfig)

/-- Whether decodes are batched. -/
def batchingEnabled : Bool := config.decodeBatchSize > 1

/-- The input is for the stage of the adapter. -/
def assignmentMatches (input : StageInput) : Bool :=
  input.position.index == config.position.index && input.position.count == config.position.count &&
    input.layers.start == config.layers.start && input.layers.stop == config.layers.stop

/-- No room for the rows, with the tokens to come of a prefill, as an `int`. -/
def contextExhausted (nextPosition : Int) (tokenCount : Nat) (input : StageInput) : Bool :=
  let requestedDecodePositions :=
    if input.phase = .prefill then max 0 (input.maxTokens - 1) else 0
  (nextPosition + tokenCount + requestedDecodePositions).bmod (2 ^ 32) > config.ctxSize

end LlamaCppStageConfig

/-! ## The library -/

/-- The parameters of a context that depend on the call. -/
structure ContextParams where
  nCtx : Nat
  nBatch : Nat
  nUbatch : Nat
  nSeqMax : Nat
  nOutputsMax : Nat
  embeddings : Bool
  deriving DecidableEq

inductive LlamaCell
  | token (token : Int32)
  | embedding (bytes : Bytes)
  deriving DecidableEq

/-- One row of a `llama_batch`. -/
structure LlamaRow where
  cell : LlamaCell
  position : Int
  sequenceId : Nat
  logits : Bool
  deriving DecidableEq

/-- The calls to llama.cpp on the state `κ`; `φ` holds the values of logits. -/
structure LlamaEngine (κ φ : Type) where
  less : φ → φ → Bool
  tokenize : Bytes → Stops Thrown κ (List Int32)
  tokenPiece : Int32 → Stops Thrown κ Bytes
  isEndToken : Int32 → Stops Thrown κ Bool
  createContext : ContextParams → Stops Thrown κ Nat
  decode : Nat → List LlamaRow → Stops Thrown κ Int
  getEmbeddings : Nat → Stops Thrown κ (Option (Nat → UInt8))
  getEmbeddingsIth : Nat → Int → Stops Thrown κ (Option (Nat → UInt8))
  getLogitsIth : Nat → Int → Stops Thrown κ (Option (Nat → φ))
  memorySeqRm : Nat → Nat → Int → Int → Stops Thrown κ Bool

/-- A part ends early with a result, or by an exception. -/
inductive Stop
  | result (error : ExecutionError)
  | thrown (thrown : Thrown)
  deriving DecidableEq

/-- An execution failure as an early end. -/
def Stop.failure (code message : Bytes) : Stop :=
  .result { kind := .executionFailure, code, message }

section

variable {κ φ σ α : Type}

/-- A call that may throw. -/
def engineCall (x : Stops Thrown σ α) : Stops Stop σ α := x.mapStop .thrown

/-- An exception as an early end. -/
def throwing (x : Except Thrown α) : Stops Stop σ α := ofExcept (x.mapError .thrown)

/-! ## Rows of an input -/

/-- The rows of an activation. -/
def activationTokenCount (payload : Payload) (nEmbd : Nat) : Except Thrown Nat :=
  match payload.tensor.shape with
  | [rows, hidden] =>
    if payload.tensor.dtype ≠ str "f32" ∨ hidden ≠ nEmbd ∨ rows ≤ 0 then
      .error (.invalidArgument
        (str "activation payload must be f32[sequence_length, hidden_size]"))
    else if payload.bytes.length ≠ rows.toNat * nEmbd * 4 % 2 ^ 64 then
      .error (.invalidArgument
        (str "activation payload byte count does not match its tensor shape"))
    else .ok rows.toNat
  | _ =>
    .error (.invalidArgument (str "activation payload must be f32[sequence_length, hidden_size]"))

/-- The rows of activations, each of so many bytes. -/
def embeddingCells (bytes : Bytes) (rowBytes count : Nat) : List LlamaCell :=
  (List.range count).map fun row => .embedding ((bytes.drop (row * rowBytes)).take rowBytes)

/-- Rows of floats as a payload. -/
def activationPayload (bytes : Bytes) (tokenCount nEmbd : Nat) : Payload :=
  { kind := .activation
    tensor :=
      { dtype := str "f32", shape := [tokenCount, nEmbd], byteOrder := str "little"
        layout := str "row_major" }
    bytes }

/-- The bytes that an exposed array of floats holds. -/
def copyFloats (values : Nat → UInt8) (count : Nat) : Bytes := (List.range (count * 4)).map values

variable (config : LlamaCppStageConfig) (engine : LlamaEngine κ φ)

/-- The tokens of an input of the first stage. -/
def inputTokens (input : StageInput) : Stops Stop κ (List Int32) :=
  match input.payload.kind with
  | .text => engineCall (engine.tokenize input.payload.bytes)
  | .tokens => throwing (decodeTokenIds input.payload)
  | .sampledToken => throwing ((decodeSingleToken input.payload).map ([·]))
  | _ =>
    stop (.thrown (.invalidArgument
      (str "first llama.cpp stage requires text, tokens, or sampled_token input")))

/-- The tokens of a prompt as they are reported. -/
def promptTokenIds (tokens : List Int32) : Except Thrown (List UInt32) :=
  if tokens.any (· < 0) then
    .error (.exception (str "llama.cpp returned a negative prompt token ID"))
  else .ok (tokens.map (·.toUInt32))

/-- `initialize_batch_common` for the given cells. -/
def batchRows (cells : List LlamaCell) (position : Int) (sequenceId : Nat)
    (finalStage allOutputs : Bool) : List LlamaRow :=
  cells.mapIdx fun index cell =>
    { cell
      position := position + index
      sequenceId
      logits := finalStage && (allOutputs || index + 1 == cells.length) }

/-! ## Outputs -/

/-- The index of the first largest value, as `std::max_element` finds it. -/
def maxElement (values : Nat → φ) (count : Nat) : Nat :=
  (List.range' 1 (count - 1)).foldl
    (fun best index => if engine.less (values best) (values index) then index else best) 0

/-- The most likely token. -/
def bestToken (logits : Nat → φ) : Int32 :=
  Int32.ofNat (maxElement engine logits config.nVocab)

/-- The output of one row. -/
def outputForRow (context : Nat) (row executionBatchSize : Int) : Stops Stop κ StageOutput :=
  if config.position.isLast = false then do
    match ← engineCall (engine.getEmbeddingsIth context row) with
    | none =>
      stop (.failure (str "llama_stage_activation_missing")
        (str "llama.cpp did not expose the stage activation"))
    | some hidden =>
      pure { payload := activationPayload (copyFloats hidden config.nEmbd) 1 config.nEmbd
             executionBatchSize }
  else do
    match ← engineCall (engine.getLogitsIth context row) with
    | none =>
      stop (.failure (str "llama_stage_logits_missing")
        (str "llama.cpp did not expose final-stage logits"))
    | some logits =>
      let token := bestToken config engine logits
      let output : StageOutput := { payload := sampledTokenPayload token, executionBatchSize }
      if ← engineCall (engine.isEndToken token) then pure { output with endOfGeneration := true }
      else
        let tokenText ← engineCall (engine.tokenPiece token)
        pure { output with tokenText, completionTokens := 1 }

/-- One row of a verification, added to the tokens and the output. -/
def addRow (context : Nat) (row : Nat) (tokens : List Int32) (output : StageOutput) :
    Stops Stop κ (List Int32 × StageOutput) := do
  match ← engineCall (engine.getLogitsIth context row) with
  | none =>
    stop (.failure (str "llama_stage_logits_missing")
      (str "llama.cpp did not expose speculative verification logits"))
  | some logits =>
    let token := bestToken config engine logits
    if ← engineCall (engine.isEndToken token) then
      pure (tokens ++ [token],
        { output with
          tokenEog := output.tokenEog ++ [1]
          tokenTextOffsets :=
            output.tokenTextOffsets ++ [UInt32.ofNat output.tokenText.length] })
    else
      let piece ← engineCall (engine.tokenPiece token)
      pure (tokens ++ [token],
        { output with
          tokenEog := output.tokenEog ++ [0]
          tokenText := output.tokenText ++ piece
          completionTokens := output.completionTokens + 1
          tokenTextOffsets :=
            output.tokenTextOffsets ++ [UInt32.ofNat (output.tokenText ++ piece).length] })

/-- The rows from `row` on. -/
def addRows (context : Nat) : Nat → Nat → List Int32 → StageOutput →
    Stops Stop κ (List Int32 × StageOutput)
  | 0, _, tokens, output => pure (tokens, output)
  | rest + 1, row, tokens, output => do
    let (tokens, output) ← addRow config engine context row tokens output
    addRows context rest (row + 1) tokens output

/-- The output of a verification. -/
def outputForRows (context rowCount : Nat) : Stops Stop κ StageOutput := do
  let (tokens, output) ← addRows config engine context rowCount 0 []
    { executionBatchSize := 1, verificationWidth := rowCount }
  let payload ← throwing (sampledTokensPayload tokens)
  pure { output with payload }

end

/-! ## Results of both modes -/

/-- An error of an invalid input. -/
def invalidInputError (code message : Bytes) : ExecutionError :=
  { kind := .invalidInput, code, message }

/-- The error of a full context. -/
def contextExhaustedError : ExecutionError :=
  invalidInputError (str "stage_context_exhausted")
    (str "prompt and requested completion exceed the llama.cpp stage context size")

/-- The error of an input without tokens. -/
def emptyStageTokensError : ExecutionError :=
  invalidInputError (str "empty_stage_tokens") (str "llama.cpp stage received no tokens")

/-- The error of an input for another stage. -/
def assignmentMismatchError : ExecutionError :=
  invalidInputError (str "llama_stage_assignment_mismatch")
    (str "stage input does not match the configured llama.cpp partition")

/-- The error of a second prefill. -/
def duplicateSessionError : ExecutionError :=
  invalidInputError (str "duplicate_stage_session")
    (str "prefill session already exists on this stage")

/-- The error of an unknown session. -/
def missingSessionError : ExecutionError :=
  invalidInputError (str "stage_session_not_found")
    (str "decode requires an existing non-expired prefill session")

/-- The error of another decode step. -/
def decodeStepMismatchError : ExecutionError :=
  invalidInputError (str "decode_step_mismatch")
    (str "decode_step does not match the stage session")

/-- The error of a failed `llama_decode`. -/
def decodeFailure (status : Int) : ExecutionError :=
  { kind := .executionFailure
    code := str "llama_stage_decode_failed"
    message := str "llama_decode failed for assigned layer range with code " ++ decimal status }

/-- The result that an exception becomes. -/
def thrownResult : Thrown → ExecutionResult
  | .invalidArgument what => .invalidInput (str "invalid_llama_stage_input") what
  | .exception what => .failure (str "llama_stage_execution_failed") what

end JetsonFabric
