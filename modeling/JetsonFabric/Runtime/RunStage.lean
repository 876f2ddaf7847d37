import JetsonFabric.Deployment.Manager
import JetsonFabric.Inference.Worker

/-!
# Stage calls of the runtime

`RuntimeService::run_stage` with the entry points of the model manager it calls: the frame of a
request is decoded, the deployment of its identity looked up, the worker of that deployment called,
and the answer framed again, with what the request said where the call failed.
-/

namespace JetsonFabric

open Checks

inductive ExecutionMode
  | dataParallel
  | pipelineParallel
  | tensorParallel
  deriving DecidableEq

structure RuntimeResponse where
  status : Bytes
  contentType : Bytes
  body : Bytes
  deriving DecidableEq

def stageWireContentType : Bytes := str "application/vnd.jetsonfabric.stage.v2+octet-stream"

/-! ## The model manager -/

namespace ModelManager

variable {σ : Type} (m : ModelManager (Executor σ)) (codec : ActivationCodec)
  (request : StageRequest)

def hasActiveDeployment : Bool := m.deployments.keys.any m.executableKey

def noActiveDeployment : StageRunResult :=
  { status := str "503 Service Unavailable"
    errorCode := str "no_active_deployment"
    errorMessage := str "runtime has no executable deployment for the request identity" }

def unavailableFor (anyActive : Bool) : StageRunResult :=
  if ¬ managedRequest request ∨ ¬ anyActive then noActiveDeployment
  else
    { status := str "409 Conflict"
      errorCode := str "deployment_mismatch"
      errorMessage := str "stage request identity does not match a resident executable epoch" }

def validateStageDeployment (active : DeploymentIdentity) : Except StageRunResult Unit :=
  if active.epoch = 0 ∧ ¬ managedRequest request then .ok ()
  else
    refuse (requestIdentity request ≠ active)
      { status := str "409 Conflict"
        errorCode := str "deployment_mismatch"
        errorMessage :=
          str "stage request deployment identity does not match the selected runtime epoch" }

/-- The worker of a deployment. -/
def stageWorker (execution : ResidentExecution (Executor σ)) : StageWorker σ :=
  { nodeName := execution.nodeName
    modelId := execution.modelId
    assignment := execution.assignment
    executor := execution.executor
    activationCodec := codec }

/-- A call of the worker that serves the request. -/
def withDeployment (call : StageWorker σ → σ → Except Thrown StageRunResult × σ) (engine : σ) :
    Except Thrown StageRunResult × σ :=
  match m.deploymentFor request with
  | none => (.ok (unavailableFor request m.hasActiveDeployment), engine)
  | some deployment =>
    match validateStageDeployment request deployment.identity, deployment.execution with
    | .error mismatch, _ => (.ok mismatch, engine)
    -- an executable deployment has its execution
    | .ok (), none => (.ok noActiveDeployment, engine)
    | .ok (), some execution => call (stageWorker codec execution) engine

def runStage (clock : StageTimings) (engine : σ) : Except Thrown StageRunResult × σ :=
  m.withDeployment codec request (fun worker => worker.run request clock) engine

def closeSession (clock : Int) (engine : σ) : Except Thrown StageRunResult × σ :=
  m.withDeployment codec request
    (fun worker engine => (worker.closeSession request clock engine).map .ok id) engine

def rollbackSession (clock : Int) (engine : σ) : Except Thrown StageRunResult × σ :=
  m.withDeployment codec request
    (fun worker engine => (worker.rollbackSession request clock engine).map .ok id) engine

end ModelManager

/-! ## The service -/

section Service

variable {σ : Type} (json : Json.Codec isValidUtf8)

def jsonEscape (value : Bytes) : Except Bytes Bytes := do
  let dumped ← json.dump (.string value)
  .ok (if dumped.length ≥ 2 then (dumped.drop 1).take (dumped.length - 2) else dumped)

def jsonError (status code message : Bytes) : Except Bytes RuntimeResponse := do
  let code ← jsonEscape json code
  let message ← jsonEscape json message
  .ok { status
        contentType := str "application/json"
        body := str "\x7b\"error\":\"" ++ code ++ str "\",\"message\":\"" ++ message ++
          str "\"\x7d" }

def stageErrorResponse (request : StageRequest) (code message : Bytes) : StageResponse :=
  { sessionId := request.sessionId
    requestId := request.requestId
    modelId := request.modelId
    deploymentId := request.deploymentId
    deploymentEpoch := request.deploymentEpoch
    modelSha256 := request.modelSha256
    phase := request.phase
    decodeStep := request.decodeStep
    stageIndex := request.stageIndex
    stageCount := request.stageCount
    nodeName := request.nodeName
    layerStart := request.layerStart
    layerEnd := request.layerEnd
    payloadKind := request.payloadKind
    encoding := request.encoding
    dtype := request.dtype
    shape := request.shape
    byteOrder := request.byteOrder
    layout := request.layout
    bytesIn := request.payload.length
    error := code
    message }

/-- The operation and the request of a frame. -/
def decodeStageCall (body : Bytes) : Except Bytes (Bytes × StageRequest) := do
  let operation ← decodeStageOperation json body
  let request ← decodeStageRequest json body
  validateStageOperation operation request.rollbackTokens
  .ok (operation, request)

/-- The call of the model manager that an operation asks for. -/
def dispatch (m : ModelManager (Executor σ)) (codec : ActivationCodec) (operation : Bytes)
    (request : StageRequest) (clock : StageTimings) (engine : σ) :
    Except Thrown StageRunResult × σ :=
  if operation = stageOperationCloseSession then
    m.closeSession codec request clock.stageTotalUs engine
  else if operation = stageOperationRollbackSession then
    m.rollbackSession codec request clock.stageTotalUs engine
  else m.runStage codec request clock engine

/-- The response of an outcome. -/
def stageResponse (operation : Bytes) (request : StageRequest) (result : StageRunResult) :
    StageResponse :=
  if result.ok then { result.response with operation }
  else
    { stageErrorResponse request [] [] with
      operation
      error := result.errorCode
      message := result.errorMessage }

/-- `RuntimeService::run_stage`; an error is an exception that leaves it. -/
def runStage (mode : ExecutionMode) (m : ModelManager (Executor σ)) (codec : ActivationCodec)
    (clock : StageTimings) (body : Bytes) (engine : σ) : Except Bytes RuntimeResponse × σ :=
  if m.hasActiveDeployment ∧ mode ≠ .pipelineParallel then
    (jsonError json (str "400 Bad Request") (str "invalid_execution_mode")
      (str "stage execution requires pipeline_parallel mode"), engine)
  else
    match decodeStageCall json body with
    | .error what =>
      (jsonError json (str "400 Bad Request") (str "invalid_stage_request") what, engine)
    | .ok (operation, request) =>
      match dispatch m codec operation request clock engine with
      | (.error thrown, engine) => (.error thrown.what, engine)
      | (.ok result, engine) =>
        ((encodeStageResponse json (stageResponse operation request result)).map fun frame =>
          { status := if result.ok then str "200 OK" else result.status
            contentType := stageWireContentType
            body := frame }, engine)

end Service

/-! ## What a response repeats of its request -/

/-- The places of the request, and a kind that there is. -/
structure Echoes (request : StageRequest) (response : StageResponse) : Prop where
  sessionId : response.sessionId = request.sessionId
  requestId : response.requestId = request.requestId
  modelId : response.modelId = request.modelId
  deploymentId : response.deploymentId = request.deploymentId
  deploymentEpoch : response.deploymentEpoch = request.deploymentEpoch
  modelSha256 : response.modelSha256 = request.modelSha256
  phase : response.phase = request.phase
  decodeStep : response.decodeStep = request.decodeStep
  stageIndex : response.stageIndex = request.stageIndex
  stageCount : response.stageCount = request.stageCount
  nodeName : response.nodeName = request.nodeName
  layerStart : response.layerStart = request.layerStart
  layerEnd : response.layerEnd = request.layerEnd
  payloadKind : (∃ kind : PayloadKind, response.payloadKind = kind.toText) ∨
    response.payloadKind = request.payloadKind

/-- A call that succeeds answers its request. -/
def Answers (request : StageRequest) (outcome : Except Thrown StageRunResult) : Prop :=
  ∀ result, outcome = .ok result → result.ok = true → Echoes request result.response

section Answers

variable {σ : Type} {request : StageRequest}

theorem toStageResponse_echoes {output : StageOutput} {bytesIn : Int} {timings : StageTimings} :
    Echoes request (toStageResponse request output bytesIn timings) :=
  ⟨rfl, rfl, rfl, rfl, rfl, rfl, rfl, rfl, rfl, rfl, rfl, rfl, rfl, .inl ⟨_, rfl⟩⟩

theorem closeResponse_echoes {durationUs : Int} :
    Echoes request (closeResponse request durationUs) :=
  ⟨rfl, rfl, rfl, rfl, rfl, rfl, rfl, rfl, rfl, rfl, rfl, rfl, rfl, .inl ⟨.text, rfl⟩⟩

theorem stageErrorResponse_echoes {code message : Bytes} :
    Echoes request (stageErrorResponse request code message) :=
  ⟨rfl, rfl, rfl, rfl, rfl, rfl, rfl, rfl, rfl, rfl, rfl, rfl, rfl, .inr rfl⟩

theorem answers_of_not_ok {result : StageRunResult} (h : result.ok = false) :
    Answers request (.ok result) := by
  rintro _ ⟨⟩ hok
  rw [h] at hok
  cases hok

theorem answers_of_echoes {result : StageRunResult} (h : Echoes request result.response) :
    Answers request (.ok result) := by
  rintro _ ⟨⟩ -
  exact h

namespace StageWorker

variable (worker : StageWorker σ) (engine : σ)

/-- The result says that the call failed. -/
def Failed (result : StageRunResult) : Prop := result.ok = false

theorem checkRequest_errors : Errors Failed (worker.checkRequest request) :=
  errors_bind (errors_refuse rfl) fun _ => errors_mapError fun _ => rfl

theorem prepare_errors : Errors Failed (worker.prepare request) := by
  refine errors_bind worker.checkRequest_errors fun _ => ?_
  refine errors_bind (errors_mapError fun _ => rfl) fun input => ?_
  refine errors_bind (errors_mapError fun _ => rfl) fun _ => ?_
  refine errors_bind ?_ fun payload =>
    errors_bind (errors_mapError fun _ => rfl) fun _ => errors_ok _
  unfold decodeActivation
  split
  · exact errors_mapError fun _ => rfl
  · exact errors_ok _

theorem conclude_errors (output : StageOutput) : Errors Failed (worker.conclude output) := by
  refine errors_bind (errors_mapError fun _ => rfl) fun _ => ?_
  split
  · exact errors_bind (errors_mapError fun _ => rfl) fun _ =>
      errors_bind (errors_mapError fun _ => rfl) fun _ => errors_ok _
  · exact errors_ok _

theorem run_answers (clock : StageTimings) :
    Answers request (worker.run request clock engine).1 := by
  unfold run
  split
  · exact answers_of_not_ok (worker.prepare_errors _ ‹_›)
  · split
    · rintro _ ⟨⟩
    · exact answers_of_not_ok rfl
    · split
      · exact answers_of_not_ok (worker.conclude_errors _ _ ‹_›)
      · exact answers_of_echoes toStageResponse_echoes

theorem closeSession_answers (clock : Int) :
    Answers request (.ok (worker.closeSession request clock engine).1) := by
  unfold closeSession
  split
  · exact answers_of_not_ok (worker.checkRequest_errors _ ‹_›)
  · split
    · exact answers_of_not_ok rfl
    · exact answers_of_echoes closeResponse_echoes

theorem rollbackSession_answers (clock : Int) :
    Answers request (.ok (worker.rollbackSession request clock engine).1) := by
  unfold rollbackSession
  split
  · exact answers_of_not_ok (worker.checkRequest_errors _ ‹_›)
  · split
    · exact answers_of_not_ok rfl
    · split
      · exact answers_of_not_ok rfl
      · exact answers_of_not_ok rfl
      · exact answers_of_echoes closeResponse_echoes

end StageWorker

theorem ModelManager.validateStageDeployment_errors (active : DeploymentIdentity) :
    Errors StageWorker.Failed (validateStageDeployment request active) := by
  unfold validateStageDeployment
  split
  · exact errors_ok ()
  · exact errors_refuse rfl

theorem ModelManager.withDeployment_answers (m : ModelManager (Executor σ))
    (codec : ActivationCodec) {call : StageWorker σ → σ → Except Thrown StageRunResult × σ}
    (hcall : ∀ worker engine, Answers request (call worker engine).1) (engine : σ) :
    Answers request (m.withDeployment codec request call engine).1 := by
  unfold withDeployment
  split
  · refine answers_of_not_ok ?_
    unfold unavailableFor
    split <;> rfl
  · split
    · exact answers_of_not_ok (validateStageDeployment_errors _ _ ‹_›)
    · exact answers_of_not_ok rfl
    · exact hcall _ _

/-- **What any call returns answers its request.** -/
theorem dispatch_answers (m : ModelManager (Executor σ)) (codec : ActivationCodec)
    (operation : Bytes) (clock : StageTimings) (engine : σ) :
    Answers request (dispatch m codec operation request clock engine).1 := by
  unfold dispatch
  split
  · exact m.withDeployment_answers codec
      (fun worker engine => worker.closeSession_answers engine _) engine
  split
  · exact m.withDeployment_answers codec
      (fun worker engine => worker.rollbackSession_answers engine _) engine
  · exact m.withDeployment_answers codec (fun worker engine => worker.run_answers engine _) engine

theorem stageResponse_echoes {outcome : Except Thrown StageRunResult}
    (h : Answers request outcome) {result : StageRunResult} (hresult : outcome = .ok result)
    (operation : Bytes) : Echoes request (stageResponse operation request result) := by
  unfold stageResponse
  split
  · rename_i hok
    exact { h result hresult hok with }
  · have herror : Echoes request (stageErrorResponse request [] []) := stageErrorResponse_echoes
    exact { herror with }

end Answers

/-- What `run_stage` does before it answers with a frame. -/
theorem runStage_frame {σ : Type} {json : Json.Codec isValidUtf8} {mode : ExecutionMode}
    {m : ModelManager (Executor σ)} {codec : ActivationCodec} {clock : StageTimings} {body : Bytes}
    {engine engine' : σ} {answer : RuntimeResponse}
    (h : runStage json mode m codec clock body engine = (.ok answer, engine'))
    (hframe : answer.contentType = stageWireContentType) :
    ∃ operation request result, decodeStageCall json body = .ok (operation, request) ∧
      dispatch m codec operation request clock engine = (.ok result, engine') ∧
      encodeStageResponse json (stageResponse operation request result) = .ok answer.body := by
  have hjson : ∀ status code message, jsonError json status code message ≠ .ok answer := by
    intro status code message hanswer
    obtain ⟨_, -, hanswer⟩ := bind_eq_ok.1 hanswer
    obtain ⟨_, -, hanswer⟩ := bind_eq_ok.1 hanswer
    cases hanswer
    exact absurd hframe (show str "application/json" ≠ stageWireContentType by decide)
  unfold runStage at h
  split at h
  · exact absurd (Prod.mk.inj h).1 (hjson _ _ _)
  split at h
  · exact absurd (Prod.mk.inj h).1 (hjson _ _ _)
  · rename_i operation request hcall
    split at h
    · cases h
    · rename_i result engine'' hresult
      obtain ⟨hencode, rfl⟩ := Prod.mk.inj h
      cases hbytes : encodeStageResponse json (stageResponse operation request result) with
      | error e =>
        rw [hbytes] at hencode
        cases hencode
      | ok frame =>
        rw [hbytes] at hencode
        cases hencode
        exact ⟨operation, request, result, hcall, hresult, hbytes⟩

end JetsonFabric
