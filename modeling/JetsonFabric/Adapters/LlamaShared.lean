import JetsonFabric.Adapters.LlamaSerial

/-!
# The llama.cpp stage adapter: shared mode

With a larger decode batch size all sessions share one context, each under a sequence number.
-/

namespace JetsonFabric

open Stops

/-- A session; `prefillTokens` is recorded and not read. -/
structure SharedSession where
  sequenceId : Nat := 0
  nextPosition : Int := 0
  expectedDecodeStep : Int := 1
  lastUsed : Int := 0
  prefillTokens : Nat := 0
  deriving DecidableEq

abbrev SharedSessions : Type := AList fun _ : Bytes => SharedSession

structure SharedState where
  context : Option Nat := none
  sessions : SharedSessions := ∅
  /-- `shared_sequence_in_use`. -/
  inUse : List Bool := []

/-- The first free sequence, taken. -/
def allocateSequence (shared : SharedState) : Option (Nat × SharedState) :=
  match shared.inUse.findIdx? (· == false) with
  | some index => some (index, { shared with inUse := shared.inUse.set index true })
  | none => none

variable {κ φ : Type} (config : LlamaCppStageConfig) (engine : LlamaEngine κ φ)

/-- Give a sequence back. -/
def releaseSequence (sequenceId : Nat) : Stops Thrown (SharedState × κ) Unit := do
  let shared ← getFirst
  match shared.context with
  | some context =>
    let _ ← onSecond (engine.memorySeqRm context sequenceId (-1) (-1))
    setFirst { shared with inUse := shared.inUse.set sequenceId false }
  | none => setFirst { shared with inUse := shared.inUse.set sequenceId false }

/-- The batch size of the shared context. -/
def sharedBatchSize : Nat :=
  (min config.ctxSize (max config.ubatchSize config.decodeBatchSize)).toNat

/-- `create_shared_context`; the whole context fits 32 bits. -/
def sharedParams : Except Thrown ContextParams :=
  let totalContext := (max 32 config.ctxSize).toNat * config.maxParallelSessions.toNat
  if totalContext > 2 ^ 32 - 1 then
    .error (.invalidArgument (str "parallel llama.cpp context exceeds uint32 capacity"))
  else
    .ok { nCtx := totalContext
          nBatch := sharedBatchSize config
          nUbatch := min (sharedBatchSize config) config.ubatchSize.toNat
          nSeqMax := config.maxParallelSessions.toNat
          nOutputsMax :=
            if config.position.isLast then
              (max config.decodeBatchSize config.maxParallelSessions).toNat
            else sharedBatchSize config
          embeddings := !config.position.isLast }

/-! ## Prefill -/

/-- The activations of the rows of a chunk. -/
def chunkActivations (context : Nat) : Nat → Nat → Bytes → Stops Stop κ Bytes
  | 0, _, bytes => pure bytes
  | rest + 1, row, bytes => do
    match ← engineCall (engine.getEmbeddingsIth context row) with
    | none => stop (.thrown (.exception (str "llama.cpp did not expose a prefill activation row")))
    | some hidden => chunkActivations context rest (row + 1) (bytes ++ copyFloats hidden config.nEmbd)

/-- Decode one chunk of a prefill. -/
def decodeSharedPrefillChunk (context : Nat) (sequenceId : Nat) (position : Int)
    (chunk : List LlamaCell) (finalChunk : Bool) (bytes : Bytes) : Stops Stop κ Bytes := do
  let status ← engineCall (engine.decode context
    (batchRows chunk position sequenceId (config.position.isLast && finalChunk) false))
  stopIf (status ≠ 0) (.result (decodeFailure status))
  if config.position.isLast then pure bytes
  else chunkActivations config engine context chunk.length 0 bytes

/-- The chunks of the prefill, each of at most `limit` rows. -/
def decodeChunks (context sequenceId limit : Nat) (position : Int) (cells : List LlamaCell)
    (bytes : Bytes) : Stops Stop κ Bytes :=
  if h : cells = [] ∨ limit = 0 then pure bytes
  else do
    let chunk := cells.take limit
    let bytes ← decodeSharedPrefillChunk config engine context sequenceId position chunk
      (cells.drop limit).isEmpty bytes
    decodeChunks context sequenceId limit (position + chunk.length) (cells.drop limit) bytes
termination_by cells.length
decreasing_by
  simp only [not_or] at h
  have := List.length_pos_iff.mpr h.1
  simp only [List.length_drop]
  omega

/-- The shared context, created with the first prefill. -/
def ensureSharedContext : Stops Stop (SharedState × κ) Nat := do
  let shared ← getFirst
  match shared.context with
  | some context => pure context
  | none =>
    let params ← throwing (sharedParams config)
    let context ← onSecond (engineCall (engine.createContext params))
    setFirst { shared with context := some context }
    pure context

/-- The rows of a prefill, with the tokens they were made of. -/
def prefillCells (input : StageInput) : Stops Stop κ (List LlamaCell × List Int32) :=
  if config.position.isFirst then do
    let tokens ← inputTokens engine input
    pure (tokens.map .token, tokens)
  else do
    let tokenCount ← throwing (activationTokenCount input.payload config.nEmbd)
    pure (embeddingCells input.payload.bytes (config.nEmbd * 4) tokenCount, [])

/-- The rows of a prefill that is not empty and has room. -/
def admittedCells (nextPosition : Int) (input : StageInput) :
    Stops Stop κ (List LlamaCell × List Int32) := do
  let (cells, tokens) ← prefillCells config engine input
  stopIf (cells = []) (.result emptyStageTokensError)
  stopIf (config.contextExhausted nextPosition cells.length input) (.result contextExhaustedError)
  pure (cells, tokens)

/-- The output of a prefill whose rows are decoded. -/
def sharedPrefillOutput (context : Nat) (advanced : Advanced) (bytes : Bytes) :
    Stops Stop κ StageOutput := do
  if config.position.isLast = false then
    addPrompt config true advanced
      { payload := activationPayload bytes advanced.count config.nEmbd, executionBatchSize := 1 }
  else
    let output ← outputForRow config engine context (-1) 1
    addPrompt config true advanced output

/-- `run_shared_prefill`, with the session as it leaves it. -/
def runSharedPrefill (session : SharedSession) (input : StageInput) :
    Stops Stop (SharedState × κ) (StageOutput × SharedSession) := do
  let (cells, tokens) ← onSecond (admittedCells config engine session.nextPosition input)
  let context ← ensureSharedContext config engine
  let bytes ← onSecond (decodeChunks config engine context session.sequenceId
    (sharedBatchSize config) session.nextPosition cells [])
  let advanced : Advanced := { count := cells.length, tokens, context }
  let output ← onSecond (sharedPrefillOutput config engine context advanced bytes)
  pure (output,
    { session with
      nextPosition := session.nextPosition + cells.length, prefillTokens := cells.length })

/-- `execute_shared_prefill_locked`. -/
def executeSharedPrefillLocked (now : Int) (input : StageInput) :
    Stops Thrown (SharedState × κ) ExecutionResult := fun (shared, k) =>
  if config.assignmentMatches input = false then (.ok (.error assignmentMismatchError), (shared, k))
  else if input.sessionId ∈ shared.sessions then (.ok (.error duplicateSessionError), (shared, k))
  else
    match allocateSequence shared with
    | none =>
      (.ok (.failure (str "stage_session_capacity_exceeded")
        (str "all configured llama.cpp parallel session slots are in use")), (shared, k))
    | some (sequenceId, taken) =>
      match runSharedPrefill config engine { sequenceId } input (taken, k) with
      | (.ok (output, session), shared, k) =>
        (.ok (.ok output),
          ({ shared with
             sessions := shared.sessions.insert input.sessionId { session with lastUsed := now } }, k))
      | (.error (.result error), shared, k) =>
        match releaseSequence engine sequenceId (shared, k) with
        | (.ok (), shared, k) => (.ok (.error error), (shared, k))
        | (.error thrown, shared, k) => (.error thrown, (shared, k))
      | (.error (.thrown thrown), shared, k) => (.error thrown, (shared, k))

/-! ## Decode -/

/-- The checks of one input, with the sequences before it. -/
def sharedCheck (sessions : SharedSessions) (seen : List Nat) (input : StageInput) :
    Except ExecutionError SharedSession × List Nat :=
  if config.assignmentMatches input = false then (.error assignmentMismatchError, seen)
  else
    match sessions.lookup input.sessionId with
    | none => (.error missingSessionError, seen)
    | some session =>
      if input.decodeStep ≠ session.expectedDecodeStep then (.error decodeStepMismatchError, seen)
      else if session.sequenceId ∈ seen then
        (.error (invalidInputError (str "duplicate_batch_session")
          (str "a decode batch cannot contain the same session twice")), seen)
      else if config.contextExhausted session.nextPosition 1 input then
        (.error contextExhaustedError, session.sequenceId :: seen)
      else (.ok session, session.sequenceId :: seen)

/-- The checks of a decode batch. -/
def sharedChecks (sessions : SharedSessions) : List Nat → List StageInput →
    List (StageInput × Except ExecutionError SharedSession)
  | _, [] => []
  | seen, input :: inputs =>
    (input, (sharedCheck config sessions seen input).1) ::
      sharedChecks sessions (sharedCheck config sessions seen input).2 inputs

/-- The inputs that passed, with their sessions. -/
def validRows (checks : List (StageInput × Except ExecutionError SharedSession)) :
    List (StageInput × SharedSession) :=
  checks.filterMap fun check =>
    match check.2 with
    | .ok session => some (check.1, session)
    | .error _ => none

/-- The cell of a decode row. -/
def rowCell (payload : Payload) : Except Thrown LlamaCell :=
  if config.position.isFirst then (decodeSingleToken payload).map .token
  else
    match activationTokenCount payload config.nEmbd with
    | .error thrown => .error thrown
    | .ok 1 => .ok (.embedding (payload.bytes.take (config.nEmbd * 4)))
    | .ok _ =>
      .error (.invalidArgument
        (str "llama.cpp decode activation must contain exactly one token row"))

/-- The row of a decode in a batch. -/
def decodeRow (row : StageInput × SharedSession) : Except Thrown LlamaRow :=
  (rowCell config row.1.payload).map fun cell =>
    { cell
      position := row.2.nextPosition
      sequenceId := row.2.sequenceId
      logits := config.position.isLast }

/-- A session one token on. -/
def SharedSession.advance (session : SharedSession) (now : Int) : SharedSession :=
  { session with
    nextPosition := session.nextPosition + 1
    expectedDecodeStep := session.expectedDecodeStep + 1
    lastUsed := now }

/-- Move a session one token on. -/
def SharedState.advance (shared : SharedState) (sessionId : Bytes) (now : Int) : SharedState :=
  match shared.sessions.lookup sessionId with
  | some session =>
    { shared with sessions := shared.sessions.insert sessionId (session.advance now) }
  | none => shared

/-- One more result in front. -/
def consResult {σ : Type} (result : ExecutionResult) (rest : Except Thrown (List ExecutionResult) × σ) :
    Except Thrown (List ExecutionResult) × σ :=
  (rest.1.map (result :: ·), rest.2)

/-- The outputs of the rows from `row` on; each good one moves its session. -/
def rowOutputs (now : Int) (context : Nat) (batchSize : Nat) :
    Nat → List StageInput → Stops Thrown (SharedState × κ) (List ExecutionResult)
  | _, [] => pure []
  | row, input :: inputs => fun (shared, k) =>
    match outputForRow config engine context row batchSize k with
    | (.error (.thrown thrown), k) => (.error thrown, (shared, k))
    | (.error (.result error), k) =>
      consResult (.error error) (rowOutputs now context batchSize (row + 1) inputs (shared, k))
    | (.ok output, k) =>
      consResult (.ok output) (rowOutputs now context batchSize (row + 1) inputs
        (shared.advance input.sessionId now, k))

/-- Decode the rows of a batch. -/
def decodeSharedRows (now : Int) (valid : List (StageInput × SharedSession)) :
    Stops Thrown (SharedState × κ) (List ExecutionResult) := do
  let shared ← getFirst
  match shared.context with
  | none =>
    stop (.exception (str "shared llama.cpp context is missing after prefill"))
  | some context =>
    let rows ← ofExcept (valid.mapM (decodeRow config))
    let status ← onSecond (engine.decode context rows)
    if status ≠ 0 then pure (valid.map fun _ => .error (decodeFailure status))
    else rowOutputs config engine now context valid.length 0 (valid.map (·.1))

/-- A refused input has its own result, the others that of a row. -/
def mergeResults :
    List (StageInput × Except ExecutionError SharedSession) → List ExecutionResult →
      List ExecutionResult
  | [], _ => []
  | (_, .error error) :: checks, results => .error error :: mergeResults checks results
  | (_, .ok _) :: checks, result :: results => result :: mergeResults checks results
  | (_, .ok _) :: checks, [] => .error {} :: mergeResults checks []

/-- The result of a batch that is too large. -/
def batchTooLargeResult : ExecutionResult :=
  .invalidInput (str "decode_batch_too_large") (str "decode batch exceeds the configured maximum")

/-- `execute_shared_decode_locked`. -/
def executeSharedDecodeLocked (now : Int) (inputs : List StageInput) :
    Stops Thrown (SharedState × κ) (List ExecutionResult) := fun (shared, k) =>
  let checks := sharedChecks config shared.sessions [] inputs
  let valid := validRows checks
  if valid = [] then (.ok (mergeResults checks []), (shared, k))
  else if (valid.length : Int) > config.decodeBatchSize then
    (.ok (inputs.map fun _ => batchTooLargeResult), (shared, k))
  else
    match decodeSharedRows config engine now valid (shared, k) with
    | (.ok results, s) => (.ok (mergeResults checks results), s)
    | (.error thrown, s) => (.ok (mergeResults checks (valid.map fun _ => thrownResult thrown)), s)

/-! ## Calls -/

/-- One input of a batch that is not only made of decodes. -/
def executeSharedInput (now : Int) (input : StageInput) :
    Stops Thrown (SharedState × κ) ExecutionResult :=
  if input.phase = .prefill then executeSharedPrefillLocked config engine now input
  else do
    let results ← executeSharedDecodeLocked config engine now [input]
    pure (results.headD (.error {}))

/-- `execute_shared_locked`. -/
def executeSharedLocked (now : Int) (inputs : List StageInput) :
    Stops Thrown (SharedState × κ) (List ExecutionResult) :=
  if inputs = [] then pure []
  else if inputs.all (·.phase = .decode) then executeSharedDecodeLocked config engine now inputs
  else inputs.mapM (executeSharedInput config engine now)

/-- Drop one session and its sequence. -/
def closeShared (sessionId : Bytes) : Stops Thrown (SharedState × κ) Unit := do
  let shared ← getFirst
  match shared.sessions.lookup sessionId with
  | none => pure ()
  | some session =>
    releaseSequence engine session.sequenceId
    let shared ← getFirst
    setFirst { shared with sessions := shared.sessions.erase sessionId }

/-- `rollback_session_locked` for a session of the shared context. -/
def rollbackShared (now : Int) (sessionId : Bytes) (tokenCount : Int) :
    Stops Thrown (SharedState × κ) Unit := fun (shared, k) =>
  if tokenCount ≤ 0 then
    (.error (.invalidArgument (str "rollback token count must be greater than zero")), (shared, k))
  else
    match shared.sessions.lookup sessionId with
    | none => (.error (.invalidArgument (str "stage session not found")), (shared, k))
    | some session =>
      if tokenCount > session.nextPosition ∨ tokenCount ≥ session.expectedDecodeStep then
        (.error (.invalidArgument (str "rollback exceeds the decoded session suffix")), (shared, k))
      else
        let rollbackPosition := session.nextPosition - tokenCount
        match engine.memorySeqRm (shared.context.getD 0) session.sequenceId rollbackPosition (-1) k
        with
        | (.error thrown, k) => (.error thrown, (shared, k))
        | (.ok false, k) =>
          (.error (.exception (str "llama.cpp rejected session rollback")), (shared, k))
        | (.ok true, k) =>
          (.ok (), ({ shared with
            sessions := shared.sessions.insert sessionId
              { session with
                nextPosition := rollbackPosition
                expectedDecodeStep := session.expectedDecodeStep - tokenCount
                lastUsed := now } }, k))

/-- Close the sessions of a list that have been idle for too long. -/
def pruneSharedFrom (now : Int) : List Bytes → Stops Thrown (SharedState × κ) Unit
  | [] => pure ()
  | sessionId :: ids => do
    let shared ← getFirst
    if (shared.sessions.lookup sessionId).any fun session => config.expired now session.lastUsed then
      closeShared engine sessionId
      pruneSharedFrom now ids
    else pruneSharedFrom now ids

/-- Drop the sessions that are idle. -/
def pruneShared (now : Int) : Stops Thrown (SharedState × κ) Unit := do
  let shared ← getFirst
  pruneSharedFrom config engine now shared.sessions.keys

end JetsonFabric
