import JetsonFabric.Adapters.LlamaEngine
import JetsonFabric.Engines.Qwen2Session

/-!
# The native stage executor

`NativeStageExecutor`: sessions of the native engine behind the interface of an executor.
-/

namespace JetsonFabric

open Stops

structure NativeStageConfig where
  params : Qwen2Params
  ctxSize : Int
  position : StagePosition := {}
  layers : StageLayerRange := {}
  deriving DecidableEq

namespace NativeStageConfig

variable (config : NativeStageConfig)

/-- The input is for the stage of the adapter. -/
def assignmentMatches (input : StageInput) : Bool :=
  input.position.index == config.position.index && input.position.count == config.position.count &&
    input.layers.start == config.layers.start && input.layers.stop == config.layers.stop

end NativeStageConfig

/-- The largest `std::size_t`. -/
def maxSize : Nat := 2 ^ 64 - 1

/-- The rows of an activation payload. -/
def activationView (payload : Payload) (embeddingLength : Nat) : Except Thrown ActivationView :=
  match payload.tensor.shape with
  | [rows, hidden] =>
    if payload.kind ≠ .activation ∨ payload.tensor.dtype ≠ str "f32" ∨ rows ≤ 0 ∨
        hidden ≠ embeddingLength then
      .error (.invalidArgument
        (str "native activation must be f32[sequence_length, hidden_size]"))
    else if embeddingLength = 0 ∨ rows.toNat > maxSize / embeddingLength then
      .error (.invalidArgument (str "native activation shape exceeds addressable memory"))
    else if rows.toNat * embeddingLength > maxSize / 4 then
      .error (.invalidArgument (str "native activation byte count exceeds addressable memory"))
    else if payload.bytes.length ≠ rows.toNat * embeddingLength * 4 then
      .error (.invalidArgument (str "native activation byte count does not match its shape"))
    else .ok { bytes := payload.bytes, tokenCount := rows.toNat }
  | _ =>
    .error (.invalidArgument (str "native activation must be f32[sequence_length, hidden_size]"))

/-- `activation_payload`. -/
def nativeActivationPayload (activation : ActivationView) (embeddingLength : Nat) :
    Except Thrown Payload :=
  if activation.bytes = [] ∨ activation.tokenCount = 0 ∨ embeddingLength = 0 ∨
      activation.bytes.length ≠ activation.tokenCount * embeddingLength * 4 then
    .error (.exception (str "native engine returned an invalid activation shape"))
  else .ok (activationPayload activation.bytes activation.tokenCount embeddingLength)

/-- A session of the engine with the decode step it expects. -/
structure NativeSessionState where
  session : Qwen2Session
  expectedDecodeStep : Int := 1
  deriving DecidableEq

abbrev NativeSessions : Type := AList fun _ : Bytes => NativeSessionState

section

variable {κ : Type} (config : NativeStageConfig) (library : NativeLibrary κ)

/-- The tokens of an input of the first stage. -/
def nativeInputTokens (input : StageInput) : Stops Stop κ (List Int32) :=
  match input.payload.kind with
  | .text => engineCall (library.tokenize input.payload.bytes)
  | .tokens => throwing (decodeTokenIds input.payload)
  | .sampledToken => throwing (decodeTokenIds input.payload)
  | _ =>
    stop (.thrown (.invalidArgument (str "native first stage requires text or token input")))

/-- The positions that a prefill asks for. -/
def sessionCapacity (promptTokens : Nat) (maxTokens : Int) : Except Thrown Nat :=
  let decodeInputs := (maxTokens - 1).toNat
  if promptTokens > maxSize - decodeInputs then
    .error (.invalidArgument (str "native session capacity overflow"))
  else if (promptTokens + decodeInputs : Int) > config.ctxSize then
    .error (.invalidArgument (str "native request exceeds configured context size"))
  else .ok (promptTokens + decodeInputs)

/-- The output of a sampled token. -/
def tokenOutput (token : Int32) : Stops Stop κ StageOutput := do
  let output : StageOutput := { payload := sampledTokenPayload token }
  if ← engineCall (library.isEndToken token) then pure { output with endOfGeneration := true }
  else
    let tokenText ← engineCall (library.tokenPiece token)
    pure { output with tokenText, completionTokens := 1 }

/-- `stage_output`. -/
def nativeOutput (result : StageResult) : Stops Stop κ StageOutput :=
  if result.hasSampledToken then tokenOutput library result.sampledToken
  else do
    let payload ← throwing
      (nativeActivationPayload result.activation config.params.embeddingLength)
    pure { payload, executionBatchSize := 1 }

/-- A call on the session of the engine. -/
def onSession {α : Type} (x : Stops Thrown (Qwen2Session × κ) α) :
    Stops Stop (NativeSessionState × κ) α := fun s =>
  let (result, session, k) := x (s.1.session, s.2)
  (result.mapError .thrown, { s.1 with session }, k)

/-! ## Prefill -/

/-- The tokens or the activations of a prefill. -/
def nativePrefillInput (input : StageInput) : Stops Stop κ (List Int32 × ActivationView) :=
  if config.position.isFirst then do
    let tokens ← nativeInputTokens library input
    pure (tokens, {})
  else do
    let activation ← throwing (activationView input.payload config.params.embeddingLength)
    pure ([], activation)

/-- The tokens of a prompt as they are reported. -/
def nativePromptIds (tokens : List Int32) : Except Thrown (List UInt32) :=
  if tokens.any (· < 0) then
    .error (.invalidArgument (str "native tokenizer returned a negative token"))
  else .ok (tokens.map (·.toUInt32))

/-- What follows the creation of the session. -/
def runNativePrefill (tokens : List Int32) (activation : ActivationView) :
    Stops Stop (NativeSessionState × κ) StageOutput := do
  let result ← onSession
    (if config.position.isFirst then Qwen2Session.prefillStageTokens config.params library tokens
     else Qwen2Session.prefillStageActivations config.params library activation)
  let output ← onSecond (nativeOutput config library result)
  if config.position.isFirst then
    let promptTokenIds ← throwing (nativePromptIds tokens)
    pure { output with promptTokens := tokens.length, promptTokenIds }
  else pure output

/-- `prefill`, with the session that is stored. -/
def nativePrefill (input : StageInput) : Stops Stop κ (StageOutput × NativeSessionState) := do
  let (tokens, activation) ← nativePrefillInput config library input
  let tokenCount := if config.position.isFirst then tokens.length else activation.tokenCount
  let capacity ← throwing (sessionCapacity config tokenCount input.maxTokens)
  let session ← engineCall (Qwen2Session.create config.params library capacity)
  fun k =>
    let (result, state, k) := runNativePrefill config library tokens activation ({ session }, k)
    (result.map fun output => (output, state), k)

/-! ## Decode -/

/-- A verification is refused. -/
def verificationUnsupported (message : Bytes) : Stop :=
  .result (invalidInputError (str "native_multi_token_verification_unsupported") message)

/-- The pass of the engine over one decode input. -/
def nativeDecodePass (input : StageInput) : Stops Stop (NativeSessionState × κ) StageResult :=
  if config.position.isFirst then do
    let tokens ← onSecond (nativeInputTokens library input)
    match tokens with
    | [token] => onSession (Qwen2Session.decodeStageToken config.params library token)
    | _ =>
      stop (verificationUnsupported
        (str "native serving currently accepts one decode token per pass"))
  else do
    let activation ← throwing (activationView input.payload config.params.embeddingLength)
    stopIf (activation.tokenCount ≠ 1)
      (verificationUnsupported (str "native decode activation must contain one token row"))
    onSession (Qwen2Session.decodeStageActivation config.params library activation)

/-- `decode`, on the session that was found. -/
def nativeDecode (input : StageInput) : Stops Stop (NativeSessionState × κ) StageOutput := do
  let state ← getFirst
  stopIf (input.decodeStep ≠ state.expectedDecodeStep)
    (.result (invalidInputError (str "unexpected_decode_step")
      (str "native decode step does not match session state")))
  let result ← nativeDecodePass config library input
  let state ← getFirst
  setFirst { state with expectedDecodeStep := state.expectedDecodeStep + 1 }
  onSecond (nativeOutput config library result)

/-! ## Calls -/

/-- The result that an exception becomes. -/
def nativeThrownResult : Thrown → ExecutionResult
  | .invalidArgument what => .invalidInput (str "invalid_native_stage_input") what
  | .exception what => .failure (str "native_stage_execution_failed") what

/-- The result of a part that may stop. -/
def nativeStopResult : Except Stop StageOutput → ExecutionResult
  | .ok output => .ok output
  | .error (.result error) => .error error
  | .error (.thrown thrown) => nativeThrownResult thrown

/-- `execute` for a prefill that was admitted. -/
def executeNativePrefill (input : StageInput) (s : NativeSessions × κ) :
    ExecutionResult × NativeSessions × κ :=
  if input.sessionId ∈ s.1 then
    (.error (invalidInputError (str "duplicate_stage_session")
      (str "prefill session already exists on this native stage")), s)
  else
    match nativePrefill config library input s.2 with
    | (.ok (output, state), k) => (.ok output, s.1.insert input.sessionId state, k)
    | (.error e, k) => (nativeStopResult (.error e), s.1, k)

/-- `execute` for a decode that was admitted. -/
def executeNativeDecode (input : StageInput) (s : NativeSessions × κ) :
    ExecutionResult × NativeSessions × κ :=
  match s.1.lookup input.sessionId with
  | none =>
    (.error (invalidInputError (str "stage_session_not_found")
      (str "decode requires an existing native prefill session")), s)
  | some state =>
    let (result, state, k) := nativeDecode config library input (state, s.2)
    (nativeStopResult result, s.1.insert input.sessionId state, k)

/-- `execute`. -/
def executeNative (input : StageInput) (s : NativeSessions × κ) :
    ExecutionResult × NativeSessions × κ :=
  match validateStageInput input with
  | .error error => (.invalidInput (str "invalid_native_stage_input") error, s)
  | .ok () =>
    if config.assignmentMatches input = false then
      (.error (invalidInputError (str "native_stage_assignment_mismatch")
        (str "stage input does not match the configured native assignment")), s)
    else if input.phase = .prefill then executeNativePrefill config library input s
    else executeNativeDecode config library input s

/-- `rollback_session` of the native stage. -/
def rollbackNative (sessionId : Bytes) (tokenCount : Int) :
    Stops Thrown (NativeSessions × κ) Unit := fun s =>
  if tokenCount ≤ 0 then
    (.error (.invalidArgument (str "rollback token count must be positive")), s)
  else
    match s.1.lookup sessionId with
    | none => (.error (.invalidArgument (str "native stage session not found")), s)
    | some state =>
      if tokenCount ≥ state.expectedDecodeStep then
        (.error (.invalidArgument (str "rollback exceeds the decoded native suffix")), s)
      else
        match Qwen2Session.rollback tokenCount.toNat (state.session, s.2) with
        | (.error thrown, session, k) =>
          (.error thrown, s.1.insert sessionId { state with session }, k)
        | (.ok (), session, k) =>
          (.ok (), s.1.insert sessionId
            { session, expectedDecodeStep := state.expectedDecodeStep - tokenCount }, k)

/-- `close_session`. -/
def closeNative (sessionId : Bytes) : Stops Thrown (NativeSessions × κ) Unit := fun s =>
  (.ok (), s.1.erase sessionId, s.2)

/-! ## Steps -/

/-- The calls of the executor. -/
inductive NativeStep
  | execute (input : StageInput)
  | close (sessionId : Bytes)
  | rollback (sessionId : Bytes) (tokenCount : Int)

/-- The state after a call. -/
def nativeAfter (s : NativeSessions × κ) : NativeStep → NativeSessions × κ
  | .execute input => (executeNative config library input s).2
  | .close sessionId => (closeNative sessionId s).2
  | .rollback sessionId tokenCount => (rollbackNative sessionId tokenCount s).2

/-- The executor from its construction on, with any state of the libraries. -/
def nativeMachine : LTS (NativeSessions × κ) NativeStep where
  init s := s.1 = ∅
  step s a t := t = nativeAfter config library s a

end

end JetsonFabric
