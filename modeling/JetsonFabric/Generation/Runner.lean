import JetsonFabric.Protocol.Stage
import JetsonFabric.Protocol.Utf8
import JetsonFabric.Inference.Stage

/-!
# The generation runner

`GenerationRunner::run` of `pipeline_parallel/generation_runner.cpp`. The stages are behind a stage
invoker, a state-passing function: its state is whatever the stages keep between calls. The sink
sees every token with the tokens before it.
-/

namespace JetsonFabric

/-! ## Data -/

inductive StageOperation
  | execute
  | closeSession
  | rollbackSession
  deriving DecidableEq

/-- A token as the sink receives it. -/
structure GenerationToken where
  token : UInt32 := 0
  text : Bytes
  index : Int := 0
  deriving DecidableEq

/-- The totals of one stage in one phase. -/
structure GenerationStageTiming where
  phase : Bytes
  stageIndex : Int := 0
  nodeName : Bytes
  remote : Bool := false
  calls : Int := 0
  batchItems : Int := 0
  maxExecutionBatchSize : Int := 1
  verificationItems : Int := 0
  maxVerificationWidth : Int := 1
  executionUs : Int := 0
  activationDecodeUs : Int := 0
  activationEncodeUs : Int := 0
  stageTotalUs : Int := 0
  remoteCallUs : Int := 0
  remoteOverheadUs : Int := 0
  bytesIn : Int := 0
  bytesOut : Int := 0
  deriving DecidableEq

/-- The result of a generation. -/
structure GenerationResult where
  ok : Bool := false
  status : Bytes := str "500 Internal Server Error"
  errorCode : Bytes := []
  errorMessage : Bytes := []
  finishReason : Bytes := []
  promptTokens : Int := 0
  completionTokens : Int := 0
  sampledTokens : List UInt32 := []
  stageCalls : Int := 0
  remoteStageCalls : Int := 0
  rollbackStageCalls : Int := 0
  remoteRollbackStageCalls : Int := 0
  rollbackStageUs : Int := 0
  rollbackRemoteCallUs : Int := 0
  bytesIn : Int := 0
  bytesOut : Int := 0
  stageTimings : List GenerationStageTiming := []
  targetDecodePasses : Int := 0
  speculativeDraftTokens : Int := 0
  speculativeAcceptedTokens : Int := 0
  deriving DecidableEq

/-- A call to one stage, with the state of the stages before and after it. -/
abbrev StageInvoker (σ : Type) : Type :=
  σ → GenerationStage → StageRequest → StageOperation → StageRunResult × σ

/-- The draft for a history, of at most so many tokens. -/
abbrev DraftStrategy : Type := List UInt32 → Nat → List UInt32

/-- Whether the receiver goes on after this token. -/
abbrev TokenSink : Type := List GenerationToken → GenerationToken → Bool

/-- A runner; its speculation bound is positive. -/
structure GenerationRunner (σ : Type) where
  invokeStage : StageInvoker σ
  draftStrategy : Option DraftStrategy := none
  speculativeMaxTokens : Int := 4
  positive : 0 < speculativeMaxTokens := by decide

variable {σ : Type}

/-- A result with an error. -/
def generationError (status code message : Bytes) : GenerationResult :=
  { status, errorCode := code, errorMessage := message }

/-! ## Payloads -/

/-- Four bytes, the lowest first. -/
def writeU32LE (v : UInt32) : Bytes :=
  [v.toUInt8, (v >>> 8).toUInt8, (v >>> 16).toUInt8, (v >>> 24).toUInt8]

/-- A word from four bytes. -/
def readU32LE (b0 b1 b2 b3 : UInt8) : UInt32 :=
  b0.toUInt32 ||| (b1.toUInt32 <<< 8) ||| (b2.toUInt32 <<< 16) ||| (b3.toUInt32 <<< 24)

theorem readU32LE_writeU32LE (v : UInt32) :
    readU32LE v.toUInt8 (v >>> 8).toUInt8 (v >>> 16).toUInt8 (v >>> 24).toUInt8 = v := by
  apply UInt32.toBitVec_inj.mp
  apply BitVec.eq_of_getLsbD_eq
  intro i hi
  simp only [readU32LE, UInt32.toBitVec_or, UInt32.toBitVec_shiftLeft, UInt8.toBitVec_toUInt32,
    UInt32.toBitVec_toUInt8, UInt32.toBitVec_shiftRight, BitVec.getLsbD_or,
    BitVec.getLsbD_setWidth]
  simp [BitVec.getLsbD_setWidth]
  grind

/-- A sampled token with its text and whether it ends the generation. -/
structure Sampled where
  token : UInt32
  text : Bytes
  endOfGeneration : Bool
  deriving DecidableEq

/-- The rows of a `sampled_tokens` payload from `textStart` on. -/
def readSampledRows (message : Bytes) :
    Nat → Bytes → List UInt32 → List UInt8 → Except Bytes (List Sampled)
  | textStart, b0 :: b1 :: b2 :: b3 :: payload, offset :: offsets, eog :: eogs =>
    if offset.toNat < textStart ∨ offset.toNat > message.length then
      .error (str "sampled_tokens text offsets are invalid")
    else
      match readSampledRows message offset.toNat payload offsets eogs with
      | .error e => .error e
      | .ok rows =>
        .ok (⟨readU32LE b0 b1 b2 b3, (message.drop textStart).take (offset.toNat - textStart),
          eog != 0⟩ :: rows)
  | textStart, _, _, _ =>
    if textStart ≠ message.length then
      .error (str "sampled_tokens text offsets do not consume the message")
    else .ok []

/-- The sampled tokens of a final response. -/
def readSampledBatch (response : StageResponse) : Except Bytes (List Sampled) :=
  if response.payloadKind = str "sampled_token" then
    match response.payload with
    | [b0, b1, b2, b3] =>
      .ok [⟨readU32LE b0 b1 b2 b3, response.message, response.completionTokens == 0⟩]
    | _ => .error (str "final stage returned an invalid sampled_token")
  else if response.payloadKind ≠ str "sampled_tokens" ∨ response.payload.length < 8 ∨
      response.payload.length % 4 ≠ 0 then
    .error (str "final stage did not return sampled token output")
  else if response.tokenTextOffsets.length ≠ response.payload.length / 4 ∨
      response.tokenEog.length ≠ response.payload.length / 4 then
    .error (str "sampled_tokens metadata does not match its payload")
  else
    readSampledRows response.message 0 response.payload response.tokenTextOffsets response.tokenEog

/-! ## Requests and responses -/

/-- The request of a pass, before it is addressed to a stage. -/
def initialRequest (request : GenerationRequest) (phase : Bytes) (decodeStep : Int)
    (decodeTokens : List UInt32) : StageRequest :=
  let addressed : StageRequest :=
    { sessionId := request.sessionId
      requestId := request.requestId ++ str "-" ++ phase ++ str "-" ++ decimal decodeStep
      modelId := request.modelId
      deploymentId := (request.deployment.map (·.deploymentId)).getD []
      deploymentEpoch := (request.deployment.map (·.epoch)).getD 0
      modelSha256 := (request.deployment.map (·.modelSha256)).getD []
      phase
      decodeStep
      maxTokens := request.maxTokens }
  if phase = str "prefill" then
    { addressed with
      payloadKind := str "text"
      encoding := str "utf-8"
      payload := request.prompt }
  else
    { addressed with
      payloadKind := if decodeTokens.length = 1 then str "sampled_token" else str "tokens"
      encoding := []
      dtype := str "u32"
      shape := [decodeTokens.length]
      byteOrder := str "little"
      layout := str "row_major"
      payload := decodeTokens.flatMap writeU32LE }

/-- A request for a stage. -/
def applyStage (stage : GenerationStage) (request : StageRequest) : StageRequest :=
  { request with
    requestId := request.requestId ++ str "-stage-" ++ decimal stage.stageIndex
    stageIndex := stage.stageIndex
    stageCount := stage.stageCount
    nodeName := stage.nodeName
    layerStart := stage.layerStart
    layerEnd := stage.layerEnd }

/-- The request after a response. -/
def applyResponse (request : StageRequest) (response : StageResponse) : StageRequest :=
  { request with
    payloadKind := response.payloadKind
    encoding := response.encoding
    dtype := response.dtype
    shape := response.shape
    byteOrder := response.byteOrder
    layout := response.layout
    payload := response.payload }

/-- The response names the request it answers. -/
def validateResponseIdentity (request : StageRequest) (response : StageResponse) : Bytes :=
  if response.sessionId ≠ request.sessionId ∨ response.requestId ≠ request.requestId ∨
      response.modelId ≠ request.modelId ∨ response.deploymentId ≠ request.deploymentId ∨
      response.deploymentEpoch ≠ request.deploymentEpoch ∨
      response.modelSha256 ≠ request.modelSha256 ∨ response.phase ≠ request.phase ∨
      response.decodeStep ≠ request.decodeStep ∨ response.stageIndex ≠ request.stageIndex ∨
      response.stageCount ≠ request.stageCount ∨ response.nodeName ≠ request.nodeName ∨
      response.layerStart ≠ request.layerStart ∨ response.layerEnd ≠ request.layerEnd then
    str "stage response identity does not match its request"
  else []

/-- A verification pass was answered with several samples. -/
def speculativeFinalOutput (request : StageRequest) (actual : PayloadKind) : Bool :=
  request.phase == str "decode" && request.stageCount > 0 &&
    request.stageIndex == request.stageCount - 1 && request.shape.head?.any (· > 1) &&
    actual == .sampledTokens

/-- The error of a response that does not fit its request. -/
def validateResponse (request : StageRequest) (response : StageResponse) : Bytes :=
  let identityError := validateResponseIdentity request response
  if identityError ≠ [] then identityError
  else
    match parsePayloadKind response.payloadKind with
    | .error e => e
    | .ok actual =>
      match parsePhase request.phase with
      | .error e => e
      | .ok phase =>
        match expectedOutput phase { index := request.stageIndex, count := request.stageCount } with
        | .error e => e
        | .ok expected =>
          if actual ≠ expected ∧ ¬ speculativeFinalOutput request actual then
            str "stage response violates the pipeline payload transition"
          else []

/-! ## Stage timings -/

/-- Add one call to the totals of a stage. -/
def GenerationStageTiming.add (t : GenerationStageTiming) (run : StageRunResult) :
    GenerationStageTiming :=
  { t with
    calls := t.calls + 1
    batchItems := t.batchItems + run.response.executionBatchSize
    maxExecutionBatchSize := max t.maxExecutionBatchSize run.response.executionBatchSize
    verificationItems := t.verificationItems + run.response.verificationWidth
    maxVerificationWidth := max t.maxVerificationWidth run.response.verificationWidth
    executionUs := t.executionUs + run.response.executionUs
    activationDecodeUs := t.activationDecodeUs + run.response.activationDecodeUs
    activationEncodeUs := t.activationEncodeUs + run.response.activationEncodeUs
    stageTotalUs := t.stageTotalUs + run.response.stageTotalUs
    remoteCallUs := t.remoteCallUs + run.remoteCallUs
    remoteOverheadUs := t.remoteOverheadUs +
      if run.remoteCallUs > run.response.stageTotalUs then
        run.remoteCallUs - run.response.stageTotalUs
      else 0
    bytesIn := t.bytesIn + run.response.bytesIn
    bytesOut := t.bytesOut + run.response.bytesOut }

/-- Add one call to the entry of its phase and stage. -/
def addStageTiming (stage : GenerationStage) (run : StageRunResult) :
    List GenerationStageTiming → List GenerationStageTiming
  | [] =>
    [({ phase := run.response.phase
        stageIndex := stage.stageIndex
        nodeName := stage.nodeName
        remote := stage.stageIndex != 0 } : GenerationStageTiming).add run]
  | t :: ts =>
    if t.phase = run.response.phase ∧ t.stageIndex = stage.stageIndex then t.add run :: ts
    else t :: addStageTiming stage run ts

/-- Count one call. -/
def recordStageTiming (result : GenerationResult) (stage : GenerationStage)
    (run : StageRunResult) : GenerationResult :=
  { result with stageTimings := addStageTiming stage run result.stageTimings }

/-! ## Calls to all stages -/

/-- An error or a final response, the totals, and the stages. -/
structure PassResult (σ : Type) where
  outcome : Except GenerationResult (StageResponse × List UInt32)
  result : GenerationResult
  world : σ

/-- Count one call of a stage in the totals. -/
def countStageCall (stage : GenerationStage) (result : GenerationResult) : GenerationResult :=
  { result with
    stageCalls := result.stageCalls + 1
    remoteStageCalls := result.remoteStageCalls + if stage.stageIndex ≠ 0 then 1 else 0 }

/-- Add an accepted answer of a stage to the totals. -/
def addStageRun (stage : GenerationStage) (run : StageRunResult) (result : GenerationResult) :
    GenerationResult :=
  let timed := recordStageTiming result stage run
  { timed with
    promptTokens := timed.promptTokens + run.response.promptTokens
    bytesIn := timed.bytesIn + run.response.bytesIn
    bytesOut := timed.bytesOut + run.response.bytesOut }

/-- The loop of `run_pass` over the stages that are left. -/
def runPassFrom (invoke : StageInvoker σ) (passRequestId : Bytes) :
    List GenerationStage → StageRequest → StageResponse → List UInt32 → GenerationResult → σ →
      PassResult σ
  | [], _, finalResponse, promptTokenIds, result, world =>
    { outcome := .ok (finalResponse, promptTokenIds), result, world }
  | stage :: stages, request, finalResponse, promptTokenIds, result, world =>
    let request := applyStage stage { request with requestId := passRequestId }
    let (run, world) := invoke world stage request .execute
    let result := countStageCall stage result
    if ¬ run.ok then
      { outcome := .error (generationError run.status
          (if run.errorCode = [] then str "generation_stage_failed" else run.errorCode)
          (str "stage " ++ decimal stage.stageIndex ++ str ": " ++ run.errorMessage))
        result, world }
    else
      let responseError := validateResponse request run.response
      if responseError ≠ [] then
        { outcome := .error (generationError (str "502 Bad Gateway")
            (str "invalid_stage_response") responseError)
          result, world }
      else
        let result := addStageRun stage run result
        let promptTokenIds :=
          if run.response.promptTokenIds ≠ [] then run.response.promptTokenIds else promptTokenIds
        if stage.stageIndex = stage.stageCount - 1 then
          runPassFrom invoke passRequestId stages request run.response promptTokenIds result world
        else
          runPassFrom invoke passRequestId stages (applyResponse request run.response)
            finalResponse promptTokenIds result world

/-- One pass over all stages. -/
def runPass (generation : GenerationRequest) (invoke : StageInvoker σ) (request : StageRequest)
    (result : GenerationResult) (world : σ) : PassResult σ :=
  runPassFrom invoke request.requestId generation.stages request {} [] result world

/-- The part of a session request that does not depend on the operation. -/
def sessionRequest (generation : GenerationRequest) (stage : GenerationStage) (name : Bytes) :
    StageRequest :=
  { sessionId := generation.sessionId
    requestId := generation.requestId ++ name ++ decimal stage.stageIndex
    modelId := generation.modelId
    deploymentId := (generation.deployment.map (·.deploymentId)).getD []
    deploymentEpoch := (generation.deployment.map (·.epoch)).getD 0
    modelSha256 := (generation.deployment.map (·.modelSha256)).getD []
    stageIndex := stage.stageIndex
    stageCount := stage.stageCount
    nodeName := stage.nodeName
    layerStart := stage.layerStart
    layerEnd := stage.layerEnd
    maxTokens := 1 }

/-- The request that closes a session. -/
def closeRequest (generation : GenerationRequest) (stage : GenerationStage) : StageRequest :=
  { sessionRequest generation stage (str "-close-stage-") with
    phase := str "prefill"
    payloadKind := str "text"
    encoding := str "utf-8" }

/-- The request that rolls back. -/
def rollbackRequest (generation : GenerationRequest) (stage : GenerationStage)
    (tokenCount : Int) : StageRequest :=
  { sessionRequest generation stage (str "-rollback-stage-") with
    phase := str "decode"
    decodeStep := 1
    payloadKind := str "sampled_token"
    dtype := str "u32"
    shape := [1]
    byteOrder := str "little"
    layout := str "row_major"
    rollbackTokens := tokenCount
    payload := writeU32LE 0 }

/-- The first error of a session call stays. -/
def firstSessionError (firstError : Bytes) (stage : GenerationStage) (request : StageRequest)
    (run : StageRunResult) : Bytes :=
  if ¬ run.ok ∧ firstError = [] then
    str "stage " ++ decimal stage.stageIndex ++ str ": " ++ run.errorMessage
  else if run.ok then
    let responseError := validateResponseIdentity request run.response
    if responseError ≠ [] ∧ firstError = [] then
      str "stage " ++ decimal stage.stageIndex ++ str ": " ++ responseError
    else firstError
  else firstError

/-- Close the session of every stage. -/
def closeSessionsFrom (generation : GenerationRequest) (invoke : StageInvoker σ) :
    List GenerationStage → Bytes → σ → Bytes × σ
  | [], firstError, world => (firstError, world)
  | stage :: stages, firstError, world =>
    let request := closeRequest generation stage
    let (run, world) := invoke world stage request .closeSession
    closeSessionsFrom generation invoke stages (firstSessionError firstError stage request run) world

/-- Close all sessions. -/
def closeSessions (generation : GenerationRequest) (invoke : StageInvoker σ) (world : σ) :
    Bytes × σ :=
  closeSessionsFrom generation invoke generation.stages [] world

/-- Add one rollback call to the totals. -/
def addRollback (stage : GenerationStage) (run : StageRunResult) (result : GenerationResult) :
    GenerationResult :=
  { result with
    rollbackStageCalls := result.rollbackStageCalls + 1
    rollbackStageUs := result.rollbackStageUs + run.response.stageTotalUs
    rollbackRemoteCallUs := result.rollbackRemoteCallUs + run.remoteCallUs
    remoteRollbackStageCalls :=
      result.remoteRollbackStageCalls + if stage.stageIndex ≠ 0 then 1 else 0 }

/-- Roll back the session of every stage. -/
def rollbackSessionsFrom (generation : GenerationRequest) (invoke : StageInvoker σ)
    (tokenCount : Int) :
    List GenerationStage → Bytes → GenerationResult → σ → Bytes × GenerationResult × σ
  | [], firstError, result, world => (firstError, result, world)
  | stage :: stages, firstError, result, world =>
    let request := rollbackRequest generation stage tokenCount
    let (run, world) := invoke world stage request .rollbackSession
    rollbackSessionsFrom generation invoke tokenCount stages
      (firstSessionError firstError stage request run) (addRollback stage run result) world

/-- Roll back all sessions. -/
def rollbackSessions (generation : GenerationRequest) (invoke : StageInvoker σ)
    (tokenCount : Int) (result : GenerationResult) (world : σ) : Bytes × GenerationResult × σ :=
  rollbackSessionsFrom generation invoke tokenCount generation.stages [] result world

/-! ## The run -/

/-- The local variables of a run, with the received tokens. -/
structure RunState (σ : Type) where
  result : GenerationResult := {}
  endOfGeneration : Bool := false
  previousToken : UInt32 := 0
  decodeStep : Int := 1
  recoverAfterRejection : Bool := false
  pendingText : Bytes := []
  history : List UInt32 := []
  emitted : List GenerationToken := []
  world : σ

/-- A run that has returned. -/
structure Finished (σ : Type) where
  result : GenerationResult
  emitted : List GenerationToken
  world : σ

variable {st st' : RunState σ}

section Run

variable (runner : GenerationRunner σ) (request : GenerationRequest) (sink : TokenSink)

/-- Close the sessions and return an error. -/
def failWith (st : RunState σ) (error : GenerationResult) : Finished σ :=
  let (cleanupError, world) := closeSessions request runner.invokeStage st.world
  { result :=
      if cleanupError ≠ [] then
        { error with errorMessage := error.errorMessage ++ str "; cleanup: " ++ cleanupError }
      else error
    emitted := st.emitted
    world }

/-- Close the sessions and fail. -/
def fail (st : RunState σ) (status code message : Bytes) : Finished σ :=
  failWith runner request st (generationError status code message)

/-- Hand a token to the sink, with whole characters. -/
def emit (st : RunState σ) (token : UInt32) (text : Bytes) :
    Except (Finished σ) (RunState σ) :=
  let pendingText := st.pendingText ++ text
  match completeUtf8Prefix pendingText with
  | .error e => .error (fail runner request st (str "502 Bad Gateway") (str "invalid_token_text") e)
  | .ok completeBytes =>
    let emission : GenerationToken :=
      { token, text := pendingText.take completeBytes, index := st.result.sampledTokens.length }
    let next : RunState σ :=
      { st with
        result :=
          { st.result with
            sampledTokens := st.result.sampledTokens ++ [token]
            completionTokens := st.result.completionTokens + 1 }
        previousToken := token
        pendingText := pendingText.drop completeBytes
        history := st.history ++ [token]
        emitted := st.emitted ++ [emission] }
    if sink st.emitted emission then .ok next
    else
      .error (fail runner request next (str "499 Client Closed Request")
        (str "generation_canceled") (str "generation token sink canceled the request"))

/-- The loop that emits the verified outputs of a pass. -/
def emitOutputs : List Sampled → RunState σ → Except (Finished σ) (RunState σ)
  | [], st => .ok st
  | output :: outputs, st =>
    if st.result.completionTokens < request.maxTokens then
      if output.endOfGeneration then .ok { st with endOfGeneration := true }
      else
        match emit runner request sink st output.token output.text with
        | .error f => .error f
        | .ok next => emitOutputs outputs next
    else .ok st

/-- The draft of the next pass. -/
def propose (st : RunState σ) : List UInt32 :=
  let remaining := request.maxTokens - st.result.completionTokens
  match runner.draftStrategy with
  | none => []
  | some draft =>
    if remaining > 1 ∧ ¬ st.recoverAfterRejection then
      draft st.history (min runner.speculativeMaxTokens (remaining - 1)).toNat
    else []

/-- How many tokens of the draft the target confirms. -/
def acceptedCount : List Sampled → List UInt32 → Nat
  | output :: target, token :: draft =>
    if ¬ output.endOfGeneration ∧ output.token = token then acceptedCount target draft + 1 else 0
  | _, _ => 0

/-- The rollback of the rejected part of a draft, when there is one. -/
def rollbackRejected (st : RunState σ) (rollbackTokens : Int) :
    Except (Finished σ) (RunState σ) :=
  if rollbackTokens > 0 then
    let (rollbackError, result, world) :=
      rollbackSessions request runner.invokeStage rollbackTokens st.result st.world
    let next : RunState σ := { st with result, world }
    if rollbackError ≠ [] then
      .error (fail runner request next (str "502 Bad Gateway") (str "generation_rollback_failed")
        rollbackError)
    else .ok { next with recoverAfterRejection := true }
  else .ok st

/-- Count the tokens of a draft and those that were accepted. -/
def countDraft (result : GenerationResult) (drafted accepted : Nat) : GenerationResult :=
  { result with
    speculativeDraftTokens := result.speculativeDraftTokens + drafted
    speculativeAcceptedTokens := result.speculativeAcceptedTokens + accepted }

/-- Compare with the draft, roll back and emit. -/
def verifyDraft (st : RunState σ) (draft : List UInt32) (target : List Sampled) :
    Except (Finished σ) (RunState σ) :=
  let accepted := acceptedCount target draft
  let counted : RunState σ := { st with result := countDraft st.result draft.length accepted }
  let rollbackTokens : Int := if accepted < draft.length then draft.length - accepted else 0
  match rollbackRejected runner request counted rollbackTokens with
  | .error f => .error f
  | .ok next =>
    let outputCount := if accepted < draft.length then accepted + 1 else target.length
    emitOutputs runner request sink (target.take outputCount)
      { next with decodeStep := next.decodeStep + (draft.length + 1) - rollbackTokens }

/-- The local variables after a decode pass. -/
def afterPass (st : RunState σ) (pass : PassResult σ) : RunState σ :=
  { st with
    result := { pass.result with targetDecodePasses := pass.result.targetDecodePasses + 1 }
    recoverAfterRejection := false
    world := pass.world }

/-- One round of the decode loop. -/
def decodeIteration (st : RunState σ) : Except (Finished σ) (RunState σ) :=
  let draft := propose runner request st
  let verificationTokens := st.previousToken :: draft
  let pass := runPass request runner.invokeStage
    (initialRequest request (str "decode") st.decodeStep verificationTokens) st.result st.world
  let next := afterPass st pass
  match pass.outcome with
  | .error error => .error (failWith runner request next error)
  | .ok (finalResponse, _) =>
    match readSampledBatch finalResponse with
    | .error e =>
      .error (fail runner request next (str "502 Bad Gateway") (str "invalid_sampled_token") e)
    | .ok target =>
      if target.length ≠ verificationTokens.length then
        .error (fail runner request next (str "502 Bad Gateway")
          (str "invalid_speculative_verification")
          (str "target output count does not match speculative verification input"))
      else verifyDraft runner request sink next draft target

/-! ### Progress -/

/-- A pass only changes the totals of the calls. -/
theorem runPassFrom_tokens (invoke : StageInvoker σ) (id : Bytes) :
    ∀ (stages : List GenerationStage) (r : StageRequest) (f : StageResponse) (ids : List UInt32)
      (result : GenerationResult) (world : σ),
      (runPassFrom invoke id stages r f ids result world).result.completionTokens =
          result.completionTokens ∧
        (runPassFrom invoke id stages r f ids result world).result.sampledTokens =
          result.sampledTokens
  | [], _, _, _, _, _ => ⟨rfl, rfl⟩
  | stage :: stages, r, f, ids, result, world => by
    simp only [runPassFrom]
    split
    · exact ⟨rfl, rfl⟩
    split
    · exact ⟨rfl, rfl⟩
    split
    · exact runPassFrom_tokens invoke id stages ..
    · exact runPassFrom_tokens invoke id stages ..

/-- A rollback only changes the totals of the calls. -/
theorem rollbackSessionsFrom_tokens (invoke : StageInvoker σ) (n : Int) :
    ∀ (stages : List GenerationStage) (e : Bytes) (result : GenerationResult) (world : σ),
      (rollbackSessionsFrom request invoke n stages e result world).2.1.completionTokens =
          result.completionTokens ∧
        (rollbackSessionsFrom request invoke n stages e result world).2.1.sampledTokens =
          result.sampledTokens
  | [], _, _, _ => ⟨rfl, rfl⟩
  | _ :: stages, _, _, _ => rollbackSessionsFrom_tokens invoke n stages ..

variable {runner request sink}

theorem emit_completionTokens {token : UInt32} {text : Bytes}
    (h : emit runner request sink st token text = .ok st') :
    st'.result.completionTokens = st.result.completionTokens + 1 := by
  simp only [emit] at h
  split at h
  · cases h
  · split at h
    · cases h
      rfl
    · cases h

theorem emitOutputs_completionTokens {outputs : List Sampled}
    (h : emitOutputs runner request sink outputs st = .ok st') :
    st.result.completionTokens ≤ st'.result.completionTokens := by
  induction outputs generalizing st with
  | nil =>
    cases h
    exact le_rfl
  | cons output outputs ih =>
    unfold emitOutputs at h
    split at h
    · split at h
      · cases h
        exact le_rfl
      · split at h
        · cases h
        · rename_i next hnext
          have hone := emit_completionTokens hnext
          have hrest := ih h
          omega
    · cases h
      exact le_rfl

theorem emitOutputs_progress {output : Sampled} {outputs : List Sampled}
    (hlt : st.result.completionTokens < request.maxTokens)
    (h : emitOutputs runner request sink (output :: outputs) st = .ok st') :
    st'.endOfGeneration = true ∨ st.result.completionTokens < st'.result.completionTokens := by
  unfold emitOutputs at h
  rw [if_pos hlt] at h
  split at h
  · cases h
    exact .inl rfl
  · split at h
    · cases h
    · rename_i next hnext
      have hone := emit_completionTokens hnext
      have hrest := emitOutputs_completionTokens h
      exact .inr (by omega)

theorem rollbackRejected_completionTokens {n : Int}
    (h : rollbackRejected runner request st n = .ok st') :
    st'.result.completionTokens = st.result.completionTokens := by
  unfold rollbackRejected at h
  split at h
  · simp only at h
    split at h
    · cases h
    · cases h
      exact (rollbackSessionsFrom_tokens request runner.invokeStage n request.stages []
        st.result st.world).1
  · cases h
    rfl

theorem verifyDraft_progress {draft : List UInt32} {target : List Sampled}
    (hlt : st.result.completionTokens < request.maxTokens) (htarget : target ≠ [])
    (h : verifyDraft runner request sink st draft target = .ok st') :
    st'.endOfGeneration = true ∨ st.result.completionTokens < st'.result.completionTokens := by
  simp only [verifyDraft] at h
  split at h
  · cases h
  rename_i next hnext
  have hcount := rollbackRejected_completionTokens hnext
  change next.result.completionTokens = st.result.completionTokens at hcount
  obtain ⟨output, target, rfl⟩ := List.exists_cons_of_ne_nil htarget
  generalize hn : (if acceptedCount (output :: target) draft < draft.length then
    acceptedCount (output :: target) draft + 1 else (output :: target).length) = n at h
  obtain ⟨n, rfl⟩ : ∃ k, n = k + 1 := by
    rw [List.length_cons] at hn
    exact ⟨n - 1, by split at hn <;> omega⟩
  rw [List.take_succ_cons] at h
  have hprogress := emitOutputs_progress (by simpa [hcount] using hlt) h
  rwa [hcount] at hprogress

/-- **Every round ends the generation or emits a token.** -/
theorem decodeIteration_progress (hlt : st.result.completionTokens < request.maxTokens)
    (h : decodeIteration runner request sink st = .ok st') :
    st'.endOfGeneration = true ∨ st.result.completionTokens < st'.result.completionTokens := by
  simp only [decodeIteration] at h
  split at h
  · cases h
  split at h
  · cases h
  split at h
  · cases h
  rename_i target _ hlen
  have hcount := (runPassFrom_tokens runner.invokeStage (initialRequest request (str "decode")
    st.decodeStep (st.previousToken :: propose runner request st)).requestId request.stages
      (initialRequest request (str "decode") st.decodeStep
        (st.previousToken :: propose runner request st)) {} [] st.result st.world).1
  rw [← hcount] at hlt ⊢
  refine verifyDraft_progress hlt ?_ h
  rintro rfl
  simp at hlen

variable (runner request sink)

/-- What is left to do before the decode loop ends. -/
def remainingTokens (st : RunState σ) : Nat :=
  if st.endOfGeneration then 0 else (request.maxTokens - st.result.completionTokens).toNat

/-- The decode loop. -/
def decodeLoop (st : RunState σ) : Except (Finished σ) (RunState σ) :=
  if hcond : st.result.completionTokens < request.maxTokens ∧ ¬ st.endOfGeneration then
    match hnext : decodeIteration runner request sink st with
    | .error f => .error f
    | .ok next => decodeLoop next
  else .ok st
termination_by remainingTokens request st
decreasing_by
  obtain ⟨hlt, hend⟩ := hcond
  simp only [Bool.not_eq_true] at hend
  rcases decodeIteration_progress hlt hnext with hstop | hmore
  · simp only [remainingTokens, hstop, hend]
    simp
    omega
  · simp only [remainingTokens, hend]
    split
    · simp
      omega
    · simp
      omega

variable {runner request sink} in
theorem decodeLoop_done
    (h : request.maxTokens ≤ st.result.completionTokens ∨ st.endOfGeneration = true) :
    decodeLoop runner request sink st = .ok st := by
  rw [decodeLoop, dif_neg]
  rintro ⟨hlt, hend⟩
  rcases h with h | h
  · omega
  · exact hend h

variable {runner request sink} in
theorem decodeLoop_next (hlt : st.result.completionTokens < request.maxTokens)
    (hend : st.endOfGeneration = false) :
    decodeLoop runner request sink st =
      (decodeIteration runner request sink st).bind (decodeLoop runner request sink) := by
  rw [decodeLoop, dif_pos ⟨hlt, by simp [hend]⟩]
  split <;> rename_i hnext <;> rw [hnext] <;> rfl

/-- The prefill pass and its token. -/
def prefill (world : σ) : Except (Finished σ) (RunState σ) :=
  let pass := runPass request runner.invokeStage
    (initialRequest request (str "prefill") 0 []) {} world
  let st : RunState σ := { result := pass.result, world := pass.world }
  match pass.outcome with
  | .error error => .error (failWith runner request st error)
  | .ok (finalResponse, promptTokenIds) =>
    match readSampledBatch finalResponse with
    | .error e =>
      .error (fail runner request st (str "502 Bad Gateway") (str "invalid_sampled_token") e)
    | .ok [output] =>
      let next : RunState σ :=
        { st with history := promptTokenIds, endOfGeneration := output.endOfGeneration }
      if output.endOfGeneration then .ok next
      else emit runner request sink next output.token output.text
    | .ok _ =>
      .error (fail runner request st (str "502 Bad Gateway") (str "invalid_sampled_token")
        (str "prefill returned multiple tokens"))

/-- Close the sessions of a run that has all its tokens. -/
def finish (st : RunState σ) : Finished σ :=
  let (cleanupError, world) := closeSessions request runner.invokeStage st.world
  { result :=
      if cleanupError ≠ [] then
        generationError (str "502 Bad Gateway") (str "generation_cleanup_failed") cleanupError
      else
        { st.result with
          ok := true
          status := str "200 OK"
          finishReason := if st.endOfGeneration then str "stop" else str "length" }
    emitted := st.emitted
    world }

end Run

/-- A run, from the state the stages are in. -/
def GenerationRunner.run (runner : GenerationRunner σ) (request : GenerationRequest)
    (sink : Option TokenSink) (world : σ) : Finished σ :=
  match sink with
  | none =>
    { result := generationError (str "500 Internal Server Error") (str "generation_sink_missing")
        (str "token sink is required")
      emitted := []
      world }
  | some sink =>
    match prefill runner request sink world with
    | .error f => f
    | .ok st =>
      match decodeLoop runner request sink st with
      | .error f => f
      | .ok st => finish runner request st

end JetsonFabric
