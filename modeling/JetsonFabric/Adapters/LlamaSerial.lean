import JetsonFabric.Adapters.LlamaEngine

/-!
# The llama.cpp stage adapter: serial mode

With a decode batch size of one every session has a context of its own.
-/

namespace JetsonFabric

open Stops

/-- A session; `prefillTokens` is recorded and not read. -/
structure SerialSession where
  context : Option Nat := none
  nextPosition : Int := 0
  expectedDecodeStep : Int := 1
  lastUsed : Int := 0
  prefillTokens : Nat := 0
  deriving DecidableEq

/-- The sessions by their identifiers. -/
abbrev SerialSessions : Type := AList fun _ : Bytes => SerialSession

variable {κ φ : Type} (config : LlamaCppStageConfig) (engine : LlamaEngine κ φ)

/-- `create_serial_context`. -/
def serialParams (prefillTokens : Nat) : ContextParams :=
  let nCtx : Int := max 32 config.ctxSize
  let batchSize : Int := min (max (max (prefillTokens : Int) (config.speculativeMaxTokens + 1)) 1) nCtx
  { nCtx := nCtx.toNat
    nBatch := batchSize.toNat
    nUbatch := (min batchSize config.ubatchSize).toNat
    nSeqMax := 1
    nOutputsMax :=
      if config.position.isLast then (max 1 (config.speculativeMaxTokens + 1)).toNat
      else batchSize.toNat
    embeddings := !config.position.isLast }

/-- The rows to decode, with the tokens they were made of. -/
def serialCells (input : StageInput) (prefill : Bool) : Stops Stop κ (List LlamaCell × List Int32) :=
  if config.position.isFirst then do
    let tokens ← inputTokens engine input
    stopIf (tokens = []) (.result emptyStageTokensError)
    pure (tokens.map .token, tokens)
  else do
    let tokenCount ← throwing (activationTokenCount input.payload config.nEmbd)
    let maxDecodeRows := (max 1 (config.speculativeMaxTokens + 1)).toNat
    stopIf (prefill = false ∧ (tokenCount = 0 ∨ tokenCount > maxDecodeRows))
      (.result (invalidInputError (str "invalid_decode_activation")
        (str "llama.cpp decode activation exceeds the configured verification width")))
    pure (embeddingCells input.payload.bytes (config.nEmbd * 4) tokenCount, [])

/-- What the first part of a call hands to the second. -/
structure Advanced where
  count : Nat
  tokens : List Int32
  context : Nat

/-- The context of a session, created with its first call. -/
def ensureContext (count : Nat) : Stops Stop (SerialSession × κ) Nat := do
  let session ← getFirst
  match session.context with
  | some context => pure context
  | none =>
    let context ← onSecond (engineCall (engine.createContext (serialParams config count)))
    setFirst { session with context := some context }
    pure context

/-- `run_serial` up to the advance of the position. -/
def advanceSerial (input : StageInput) (prefill : Bool) :
    Stops Stop (SerialSession × κ) Advanced := do
  let (cells, tokens) ← onSecond (serialCells config engine input prefill)
  let session ← getFirst
  stopIf (config.contextExhausted session.nextPosition cells.length input)
    (.result contextExhaustedError)
  let context ← ensureContext config engine cells.length
  let status ← onSecond (engineCall (engine.decode context
    (batchRows cells session.nextPosition 0 config.position.isLast !prefill)))
  stopIf (status ≠ 0) (.result (decodeFailure status))
  let session ← getFirst
  setFirst { session with
    nextPosition := session.nextPosition + cells.length
    prefillTokens := if prefill then cells.length else session.prefillTokens }
  pure { count := cells.length, tokens, context }

/-- The output of a prefill of the first stage reports the prompt. -/
def addPrompt (prefill : Bool) (advanced : Advanced) (output : StageOutput) :
    Stops Stop κ StageOutput :=
  if prefill ∧ config.position.isFirst then do
    let promptTokenIds ← throwing (promptTokenIds advanced.tokens)
    pure { output with promptTokens := advanced.count, promptTokenIds }
  else pure output

/-- `run_serial` after the advance of the position. -/
def serialOutput (prefill : Bool) (advanced : Advanced) : Stops Stop κ StageOutput :=
  if config.position.isLast = false then do
    match ← engineCall (engine.getEmbeddings advanced.context) with
    | none =>
      stop (.failure (str "llama_stage_activation_missing")
        (str "llama.cpp did not expose the stage activation"))
    | some hidden =>
      addPrompt config prefill advanced
        { payload := activationPayload (copyFloats hidden (advanced.count * config.nEmbd))
            advanced.count config.nEmbd
          executionBatchSize := 1
          verificationWidth := if prefill then 1 else advanced.count }
  else do
    let output ←
      if prefill = false ∧ advanced.count > 1 then
        outputForRows config engine advanced.context advanced.count
      else outputForRow config engine advanced.context (-1) 1
    addPrompt config prefill advanced output

/-- `run_serial`. -/
def runSerial (input : StageInput) (prefill : Bool) : Stops Stop (SerialSession × κ) StageOutput := do
  let advanced ← advanceSerial config engine input prefill
  onSecond (serialOutput config engine prefill advanced)

/-- The tokens that a decode input is taken to hold. -/
def decodedTokens (input : StageInput) : Int :=
  if input.payload.kind = .activation then input.payload.tensor.shape.headD 0
  else (input.payload.bytes.length / 4 : Nat)

/-- A session after a decode: only a good one moves the step. -/
def settleSerial (input : StageInput) (now : Int) (session : SerialSession) :
    Except Stop StageOutput → SerialSession
  | .ok _ =>
    { session with
      expectedDecodeStep := session.expectedDecodeStep + decodedTokens input
      lastUsed := now }
  | .error _ => session

/-- What is returned, or thrown, for the end of a run. -/
def stopResult : Except Stop StageOutput → Except Thrown ExecutionResult
  | .ok output => .ok (.ok output)
  | .error (.result error) => .ok (.error error)
  | .error (.thrown thrown) => .error thrown

/-- `execute_serial_locked`. -/
def executeSerialLocked (now : Int) (input : StageInput) :
    Stops Thrown (SerialSessions × κ) ExecutionResult := fun (sessions, k) =>
  if config.assignmentMatches input = false then (.ok (.error assignmentMismatchError), (sessions, k))
  else if input.phase = .prefill then
    if input.sessionId ∈ sessions then (.ok (.error duplicateSessionError), (sessions, k))
    else
      let (result, session, k) := runSerial config engine input true ({}, k)
      match result with
      | .ok _ =>
        (stopResult result, (sessions.insert input.sessionId { session with lastUsed := now }, k))
      | .error _ => (stopResult result, (sessions, k))
  else
    match sessions.lookup input.sessionId with
    | none => (.ok (.error missingSessionError), (sessions, k))
    | some session =>
      if input.decodeStep ≠ session.expectedDecodeStep then
        (.ok (.error decodeStepMismatchError), (sessions, k))
      else
        let (result, session, k) := runSerial config engine input false (session, k)
        (stopResult result,
          (sessions.insert input.sessionId (settleSerial input now session result), k))

/-- `rollback_session_locked` for a session of its own context. -/
def rollbackSerial (now : Int) (sessionId : Bytes) (tokenCount : Int) :
    Stops Thrown (SerialSessions × κ) Unit := fun (sessions, k) =>
  if tokenCount ≤ 0 then
    (.error (.invalidArgument (str "rollback token count must be greater than zero")), (sessions, k))
  else
    match sessions.lookup sessionId with
    | none => (.error (.invalidArgument (str "stage session not found")), (sessions, k))
    | some session =>
      if tokenCount > session.nextPosition ∨ tokenCount ≥ session.expectedDecodeStep then
        (.error (.invalidArgument (str "rollback exceeds the decoded session suffix")),
          (sessions, k))
      else
        let rollbackPosition := session.nextPosition - tokenCount
        match engine.memorySeqRm (session.context.getD 0) 0 rollbackPosition (-1) k with
        | (.error thrown, k) => (.error thrown, (sessions, k))
        | (.ok false, k) =>
          (.error (.exception (str "llama.cpp rejected session rollback")), (sessions, k))
        | (.ok true, k) =>
          (.ok (), (sessions.insert sessionId
            { session with
              nextPosition := rollbackPosition
              expectedDecodeStep := session.expectedDecodeStep - tokenCount
              lastUsed := now }, k))

/-- Whether a session has been idle for too long. -/
def LlamaCppStageConfig.expired (now lastUsed : Int) : Bool :=
  now - lastUsed ≥ config.sessionIdleTtl

/-- Drop the sessions that are idle. -/
def pruneSerial (now : Int) : Stops Thrown (SerialSessions × κ) Unit := fun (sessions, k) =>
  (.ok (), ((sessions.keys.filter fun id =>
    (sessions.lookup id).any fun session => config.expired now session.lastUsed).foldl
    (fun sessions id => sessions.erase id) sessions, k))

/-- Drop one session. -/
def closeSerial (sessionId : Bytes) : Stops Thrown (SerialSessions × κ) Unit := fun (sessions, k) =>
  (.ok (), (sessions.erase sessionId, k))

end JetsonFabric
