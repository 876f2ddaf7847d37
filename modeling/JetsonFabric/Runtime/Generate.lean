import JetsonFabric.Generation.Accounting
import JetsonFabric.Generation.Answers
import JetsonFabric.Transport.StageTransport

/-!
# Generation on the runtime

`engine/generation_service.cpp` and `RuntimeService::generate`: a request is decoded and checked
against the deployments of the runtime, its stages are called, the first one here and the others
over the transport, and the tokens and the end of the run are written as events.
-/

namespace JetsonFabric

open Checks

variable {σ : Type}

/-! ## The model manager -/

namespace ModelManager

variable {ε : Type} (m : ModelManager ε)

/-- The identity of a deployment that can execute stages. -/
def identityOf (found : Option (Nat × ResidentDeployment ε)) : Option DeploymentIdentity :=
  ((found.map Prod.snd).filter isExecutable).map (·.identity)

def activeDeploymentIdentity : Option DeploymentIdentity := identityOf m.preferredDeployment

def executableDeploymentIdentity (expected : DeploymentIdentity) : Option DeploymentIdentity :=
  identityOf (m.findExact expected)

end ModelManager

/-! ## The generation service -/

/-- The generation service, with the manager at a call. -/
structure GenerationService (σ : Type) where
  nodeName : Bytes
  executionMode : ExecutionMode
  manager : σ → ModelManager (Executor σ)
  activationCodec : ActivationCodec
  clock : σ → StageTimings
  transport : HttpStageTransport σ
  draftStrategy : Option DraftStrategy := none
  speculativeMaxTokens : Int := 4
  positive : 0 < speculativeMaxTokens := by decide

/-- An error of the service; its status is the default one. -/
def serviceError (code message : Bytes) : GenerationResult :=
  { errorCode := code, errorMessage := message }

namespace GenerationService

variable (service : GenerationService σ) (json : Json.Codec isValidUtf8)

def selectDeployment (request : GenerationRequest) (world : σ) : Option DeploymentIdentity :=
  match request.deployment with
  | some expected => (service.manager world).executableDeploymentIdentity expected
  | none => (service.manager world).activeDeploymentIdentity

/-- Why no deployment was selected. -/
def noDeployment (request : GenerationRequest) (world : σ) : GenerationResult :=
  if request.deployment.isSome ∧ (service.manager world).hasActiveDeployment then
    serviceError (str "deployment_mismatch")
      (str "generation deployment identity does not match an executable runtime epoch")
  else
    serviceError (str "no_active_deployment")
      (str "runtime has no executable deployment for the requested epoch")

/-- The request is sent to the runtime of its first stage. -/
def leads (request : GenerationRequest) : Bool :=
  request.stages.head?.any fun stage => stage.stageIndex == 0 && stage.nodeName == service.nodeName

/-- One logical stage, as a tensor parallel runtime has it. -/
def tensorRoute (request : GenerationRequest) : Bool :=
  request.stages.length == 1 && request.stages.head?.any (·.stageCount == 1)

def validateRequest (request : GenerationRequest) (selected : Option DeploymentIdentity)
    (world : σ) : Except GenerationResult Unit := do
  refuse (service.executionMode ≠ .pipelineParallel ∧ service.executionMode ≠ .tensorParallel)
    (serviceError (str "invalid_execution_mode")
      (str "runtime-owned generation requires pipeline_parallel or tensor_parallel mode"))
  match selected with
  | none => .error (service.noDeployment request world)
  | some selected => do
    refuse (selected.modelId ≠ request.modelId)
      (serviceError (str "deployment_mismatch")
        (str "generation model does not match the selected deployment"))
    refuse (selected.epoch > 0 ∧ request.deployment = none)
      (serviceError (str "deployment_identity_required")
        (str "managed runtime generation requires deployment identity"))
    refuse (request.deployment.any (· ≠ selected))
      (serviceError (str "deployment_mismatch")
        (str "generation deployment identity does not match an executable runtime epoch"))
    refuse (¬ service.leads request)
      (serviceError (str "invalid_generation_leader")
        (str "generation must be sent to the runtime assigned logical stage zero"))
    refuse (service.executionMode = .tensorParallel ∧ ¬ tensorRoute request)
      (serviceError (str "invalid_tensor_route")
        (str "tensor_parallel generation uses one logical runtime stage backed by its device mesh"))

/-- The call of a stage: the first one is local. -/
def invokeStage (stage : GenerationStage) (request : StageRequest) (operation : StageOperation)
    (world : σ) : Except Thrown StageRunResult × σ :=
  if stage.stageIndex = 0 then
    match operation with
    | .closeSession => (service.manager world).closeSession service.activationCodec request
        (service.clock world).stageTotalUs world
    | .rollbackSession => (service.manager world).rollbackSession service.activationCodec request
        (service.clock world).stageTotalUs world
    | .execute => (service.manager world).runStage service.activationCodec request
        (service.clock world) world
  else
    ((service.transport.invoke json stage request operation world).map .ok id)

def runner : GenerationRunner (Guarded σ) :=
  { invokeStage := guarded (service.invokeStage json)
    draftStrategy := service.draftStrategy
    speculativeMaxTokens := service.speculativeMaxTokens
    positive := service.positive }

/-- A result or an exception, and the tokens handed out. -/
def generate (request : GenerationRequest) (sink : TokenSink) (world : σ) :
    Except Thrown GenerationResult × List GenerationToken × σ :=
  match service.validateRequest request (service.selectDeployment request world) world with
  | .error result => (.ok result, [], world)
  | .ok () =>
    let f := (service.runner json).run request (some sink) { world }
    match f.world.thrown with
    | some thrown => (.error thrown, f.emitted, f.world.world)
    | none => (.ok f.result, f.emitted, f.world.world)

/-- The answers of the stages to the calls of a generation. -/
def answers (request : GenerationRequest) (sink : TokenSink) (world : σ) : List StageAnswer :=
  match service.validateRequest request (service.selectDeployment request world) world with
  | .error _ => []
  | .ok () => ((service.runner json).run request (some sink) { world }).world.answers

end GenerationService

/-! ## The stream of events -/

/-- Whether the receiver goes on, given the events before. -/
abbrev GenerationEventSink : Type := List Bytes → Bytes → Bool

def generationContentType : Bytes := str "application/x-ndjson"

def eventResponse (body : Bytes) : RuntimeResponse :=
  { status := str "200 OK", contentType := generationContentType, body }

/-- The token events, and a response or an exception. -/
structure Streamed (σ : Type) where
  events : List Bytes
  response : Except Bytes RuntimeResponse
  world : σ

section Stream

variable (json : Json.Codec isValidUtf8)

/-- The events of tokens, or the first exception. -/
def tokenEvents (tokens : List GenerationToken) : Except Bytes (List Bytes) :=
  tokens.mapM (encodeGenerationTokenEvent json)

/-- Tokens as they go to the receiver of events. -/
def tokenSink (sink : Option GenerationEventSink) : TokenSink :=
  fun before token =>
    match sink, tokenEvents json before, encodeGenerationTokenEvent json token with
    | some sink, .ok events, .ok event => sink events event
    | _, _, _ => false

/-- The terminal event of a result. -/
def terminalEvent (result : GenerationResult) : Except Bytes Bytes :=
  if ¬ result.ok then encodeGenerationErrorEvent json result.errorCode result.errorMessage
  else encodeGenerationDoneEvent json result

/-- `RuntimeService::generate`. -/
def RuntimeService.generate (service : GenerationService σ) (body : Bytes)
    (sink : Option GenerationEventSink) (world : σ) : Streamed σ :=
  match decodeGenerationRequest json body with
  | .error what =>
    { events := []
      response := (encodeGenerationErrorEvent json (str "invalid_generation_request") what).map
        eventResponse
      world }
  | .ok request =>
    match service.generate json request (tokenSink json sink) world with
    | (outcome, tokens, world) =>
      match if sink.isSome then tokenEvents json tokens else .ok [] with
      | .error what => { events := [], response := .error what, world }
      | .ok events =>
        { events
          response :=
            match outcome with
            | .error thrown => .error thrown.what
            | .ok result => (terminalEvent json result).map eventResponse
          world }

end Stream

/-! ## How a stream ends -/

/-- The text is the event with these fields. -/
def IsEvent (json : Json.Codec isValidUtf8) (values : EventField → Option Json) (text : Bytes) :
    Prop :=
  json.parse text = .ok (.object (eventSchema.entries values))

/-- Token events with indexes from zero on, and one terminal event. -/
structure EndsStream (json : Json.Codec isValidUtf8) (events : List Bytes) (last : Bytes) :
    Prop where
  tokens : ∃ tokens, Numbered 0 tokens ∧
    List.Forall₂ (fun token event => IsEvent json (tokenEventValues token) event) tokens events
  terminal : (∃ result, IsEvent json (doneEventValues result) last) ∨
    ∃ code message, IsEvent json (errorEventValues code message) last

section Events

variable {json : Json.Codec isValidUtf8}

theorem isEvent_of_dump {values : EventField → Option Json} {text : Bytes}
    (hwritten : (Json.object (eventSchema.entries values)).Written isValidUtf8)
    (h : json.dump (.object (eventSchema.entries values)) = .ok text) : IsEvent json values text :=
  json.parse_dump _ _ hwritten h

theorem written_errorEvent {code message : Bytes} (hcode : isValidUtf8 code = true)
    (hmessage : isValidUtf8 message = true) :
    (Json.object (eventSchema.entries (errorEventValues code message))).Written isValidUtf8 := by
  have htype : isValidUtf8 (str "error") = true := by decide +kernel
  refine eventSchema.written_entries fun field v hv => ?_
  cases field <;> cases hv <;> first | exact hcode | exact hmessage | exact htype

theorem tokenEvents_of_streamable {tokens : List GenerationToken}
    (h : ∀ token ∈ tokens, isValidUtf8 token.text = true) :
    ∃ events, tokenEvents json tokens = .ok events ∧
      List.Forall₂ (fun token event => IsEvent json (tokenEventValues token) event) tokens
        events := by
  induction tokens with
  | nil => exact ⟨[], rfl, .nil⟩
  | cons token tokens ih =>
    have hwritten := written_tokenEvent (h token List.mem_cons_self)
    obtain ⟨event, hevent⟩ := json.dump_written _ hwritten
    obtain ⟨events, hevents, hall⟩ := ih fun other hother => h other (List.mem_cons_of_mem _ hother)
    refine ⟨event :: events, ?_, .cons (isEvent_of_dump hwritten hevent) hall⟩
    unfold tokenEvents at hevents ⊢
    have hfirst : encodeGenerationTokenEvent json token = .ok event := hevent
    rw [List.mapM_cons, hfirst, ok_bind, hevents, ok_bind]
    rfl

theorem encodeGenerationErrorEvent_iff (hstrict : json.Strict) {code message : Bytes} :
    (∃ text, encodeGenerationErrorEvent json code message = .ok text) ↔
      isValidUtf8 code = true ∧ isValidUtf8 message = true := by
  constructor
  · rintro ⟨text, h⟩
    have hmem : ∀ field value, errorEventValues code message field = some (.string value) →
        isValidUtf8 value = true := fun field value hvalue =>
      hstrict _ text _ value h
        ((Json.mem_record _).2 ⟨field, eventSchema.mem_fields field, _, hvalue, rfl⟩)
    exact ⟨hmem .code code rfl, hmem .message message rfl⟩
  · rintro ⟨hcode, hmessage⟩
    exact json.dump_written _ (written_errorEvent hcode hmessage)

end Events

section Ends

variable {json : Json.Codec isValidUtf8} (service : GenerationService σ)

theorem serviceError_own {code message : Bytes} (hcode : IsAscii code)
    (hmessage : IsAscii message) : OwnError (serviceError code message) := ⟨rfl, hcode, hmessage⟩

theorem validateRequest_errors {request : GenerationRequest} {selected : Option DeploymentIdentity}
    {world : σ} : Errors OwnError (service.validateRequest request selected world) := by
  refine errors_bind (errors_refuse (serviceError_own (by decide) (by decide)))
    fun _ => ?_
  split
  · refine errors_error ?_
    unfold GenerationService.noDeployment
    split <;> exact serviceError_own (by decide) (by decide)
  · refine errors_bind (errors_refuse (serviceError_own (by decide) (by decide)))
      fun _ => ?_
    refine errors_bind (errors_refuse (serviceError_own (by decide) (by decide)))
      fun _ => ?_
    refine errors_bind (errors_refuse (serviceError_own (by decide) (by decide)))
      fun _ => ?_
    refine errors_bind (errors_refuse (serviceError_own (by decide) (by decide)))
      fun _ => ?_
    exact errors_refuse (serviceError_own (by decide) (by decide))

variable (json) in
theorem generate_returned {request : GenerationRequest}
    (hnames : ∀ stage ∈ request.stages, isValidUtf8 stage.nodeName = true) (sink : TokenSink)
    (world : σ) :
    Streamable (service.generate json request sink world).2.1 ∧
      ∀ result, (service.generate json request sink world).1 = .ok result → result.ok = true →
        result.Utf8 := by
  unfold GenerationService.generate
  split
  · rename_i result hresult
    refine ⟨⟨trivial, by simp⟩, fun other hother hok => ?_⟩
    cases hother
    rw [(validateRequest_errors service result hresult).notOk] at hok
    cases hok
  · have hrun : Returned request ((service.runner json).run request (some sink) { world }) :=
      run_returned hnames sink _
    dsimp only
    split
    · exact ⟨hrun.tokens, fun other hother => by cases hother⟩
    · refine ⟨hrun.tokens, fun other hother hok => ?_⟩
      cases hother
      exact (hrun.settled hok).utf8

/-- **A generation can be written exactly when the answers are whole.** -/
theorem generate_whole_iff (request : GenerationRequest) (sink : TokenSink) (world : σ) :
    (∃ result, (service.generate json request sink world).1 = .ok result ∧
      (result.ok = false → WholeError result)) ↔
      AnswersWhole (service.answers json request sink world) := by
  unfold GenerationService.generate GenerationService.answers
  split
  · rename_i result hresult
    exact iff_of_true ⟨result, rfl, fun _ => (validateRequest_errors service result hresult).whole⟩
      ⟨textsWhole_of_taken (by simp), by simp⟩
  · have hcalls : (service.runner json).invokeStage = guarded (service.invokeStage json) := rfl
    rw [← run_whole_iff hcalls]
    dsimp only
    split
    · rename_i thrown hthrown
      refine iff_of_false (fun ⟨result, hresult, _⟩ => by cases hresult) fun h => ?_
      rw [hthrown] at h
      cases h.1
    · rename_i hnone
      constructor
      · rintro ⟨result, hresult, hwhole⟩
        cases hresult
        exact ⟨hnone, hwhole⟩
      · intro h
        exact ⟨_, rfl, h.2⟩

/-- **The terminal event is written exactly when the result can be.** -/
theorem terminalEvent_iff (hstrict : json.Strict) {result : GenerationResult}
    (hdone : result.ok = true → result.Utf8) :
    (∃ text, terminalEvent json result = .ok text) ↔ (result.ok = false → WholeError result) := by
  unfold terminalEvent
  cases hok : result.ok with
  | false =>
    simp only [Bool.false_eq_true, not_false_eq_true, if_true, forall_true_left]
    rw [encodeGenerationErrorEvent_iff hstrict]
    exact ⟨fun h => ⟨h.1, h.2⟩, fun h => ⟨h.1, h.2⟩⟩
  | true =>
    simp only [not_true_eq_false, if_false, Bool.true_eq_false, false_imp_iff, iff_true]
    exact json.dump_written _ (written_doneEvent (hdone hok))

theorem isEvent_of_terminalEvent {result : GenerationResult} {text : Bytes}
    (hdone : result.ok = true → result.Utf8) (hwhole : result.ok = false → WholeError result)
    (h : terminalEvent json result = .ok text) :
    (∃ result, IsEvent json (doneEventValues result) text) ∨
      ∃ code message, IsEvent json (errorEventValues code message) text := by
  unfold terminalEvent at h
  split at h
  · rename_i hok
    have herror := hwhole (by simpa using hok)
    exact .inr ⟨_, _, isEvent_of_dump (written_errorEvent herror.errorCode herror.errorMessage) h⟩
  · rename_i hok
    exact .inl ⟨result, isEvent_of_dump (written_doneEvent (hdone (by simpa using hok))) h⟩

theorem streamedEvents_ok (json : Json.Codec isValidUtf8) (sink : Option GenerationEventSink)
    {tokens : List GenerationToken} (h : Streamable tokens) :
    ∃ events, (if sink.isSome then tokenEvents json tokens else .ok []) = .ok events ∧
      ∃ streamed, Numbered 0 streamed ∧
        List.Forall₂ (fun token event => IsEvent json (tokenEventValues token) event) streamed
          events := by
  cases sink with
  | none => exact ⟨[], rfl, [], trivial, .nil⟩
  | some _ =>
    obtain ⟨events, hevents, hall⟩ := tokenEvents_of_streamable h.whole
    exact ⟨events, hevents, tokens, h.numbered, hall⟩

/-- **A stream ends with one terminal event exactly when the answers of the stages are whole.** -/
theorem generate_ends_iff (hstrict : json.Strict) (hsound : json.Sound) (body : Bytes)
    (sink : Option GenerationEventSink) (world : σ) :
    (∃ response, (RuntimeService.generate json service body sink world).response = .ok response ∧
      EndsStream json (RuntimeService.generate json service body sink world).events
        response.body) ↔
    ∀ request, decodeGenerationRequest json body = .ok request →
      AnswersWhole (service.answers json request (tokenSink json sink) world) := by
  unfold RuntimeService.generate
  cases hdecode : decodeGenerationRequest json body with
  | error what =>
    have hwhat := (decodeGenerationRequest_errors what hdecode).isValidUtf8
    have hwritten := written_errorEvent
      (show isValidUtf8 (str "invalid_generation_request") = true by decide +kernel) hwhat
    obtain ⟨text, htext⟩ := json.dump_written _ hwritten
    refine ⟨fun _ request hrequest => (nomatch hrequest), fun _ => ⟨eventResponse text, ?_, ?_⟩⟩
    · show Except.map eventResponse (json.dump _) = _
      rw [htext]
      rfl
    · exact ⟨⟨[], trivial, .nil⟩, .inr ⟨_, _, isEvent_of_dump hwritten htext⟩⟩
  | ok request =>
    have hnames := nodeName_of_decodeGenerationRequest hsound hdecode
    have hreturned := generate_returned json service hnames (tokenSink json sink) world
    dsimp only
    rcases hg : service.generate json request (tokenSink json sink) world with
      ⟨outcome, tokens, after⟩
    rw [hg] at hreturned
    obtain ⟨htokens, hdone⟩ := hreturned
    obtain ⟨events, hevents, hstream⟩ := streamedEvents_ok json sink htokens
    simp only [hevents]
    constructor
    · rintro ⟨response, hresponse, -⟩ _ ⟨⟩
      rw [← generate_whole_iff, hg]
      cases outcome with
      | error thrown => cases hresponse
      | ok result =>
        change Except.map eventResponse (terminalEvent json result) = _ at hresponse
        refine ⟨result, rfl, (terminalEvent_iff hstrict (hdone result rfl)).1 ?_⟩
        cases htext : terminalEvent json result with
        | error e =>
          rw [htext] at hresponse
          cases hresponse
        | ok text => exact ⟨text, rfl⟩
    · intro h
      obtain ⟨result, hresult, hwhole⟩ := (generate_whole_iff service request _ world).2
        (h request rfl)
      rw [hg] at hresult
      cases hresult
      obtain ⟨text, htext⟩ := (terminalEvent_iff hstrict (hdone result rfl)).2 hwhole
      refine ⟨eventResponse text, ?_, hstream,
        isEvent_of_terminalEvent (hdone result rfl) hwhole htext⟩
      show Except.map eventResponse (terminalEvent json result) = _
      rw [htext]
      rfl

end Ends

/-! ## A peer that answers with other bytes -/

/-- A runtime with the first of two stages of the model. -/
def leaderManager : ModelManager (Executor Unit) :=
  (ModelManager.insertActive (str "a")
    { deploymentId := str "m", modelId := str "m", modelSha256 := [] }
    { stageCount := 2, layerEnd := 1 }
    { executor := some
        { execute := fun _ engine =>
            (.ok (.ok { payload :=
              { kind := .activation
                tensor := { dtype := str "f32", shape := [1], byteOrder := str "little"
                            layout := str "row_major" }
                bytes := [0, 0, 0, 0] } }), engine)
          closeSession := fun _ engine => (.ok (), engine)
          rollbackSession := fun _ _ engine => (.ok (), engine) }
      modelResidency := none }).toOption.getD {}

theorem leaderTokens_pos : (0 : Int) < 4 := by decide

/-- Its generation service, with a peer that fails with this body. -/
def leaderService (body : Bytes) : GenerationService Unit where
  nodeName := str "a"
  executionMode := .pipelineParallel
  positive := leaderTokens_pos
  manager _ := leaderManager
  activationCodec := { encode := .ok, decode := .ok }
  clock _ := {}
  transport :=
    { clusterToken := str "t"
      target := .nodeApi
      exchange := fun _ _ _ world =>
        (.ok { statusCode := 500, status := str "500 Internal Server Error", contentType := none
               body }, world)
      elapsedUs := fun _ => 0 }

/-- A request over the two stages. -/
def leaderBody : Bytes :=
  str "\x7b\"request_id\":\"r\",\"session_id\":\"s\",\"model_id\":\"m\",\"prompt\":\"p\"," ++
    str "\"max_tokens\":1,\"stages\":[\x7b\"stage_index\":0,\"stage_count\":2,\"node_id\":\"a\"," ++
    str "\"node_name\":\"a\",\"api_url\":\"http://a\",\"layer_start\":0,\"layer_end\":1\x7d," ++
    str "\x7b\"stage_index\":1,\"stage_count\":2,\"node_id\":\"b\",\"node_name\":\"b\"," ++
    str "\"api_url\":\"http://b\",\"layer_start\":1,\"layer_end\":2\x7d]\x7d"

/-- A library that refuses strings which are not UTF-8. -/
def strictJson : Json.Codec isValidUtf8 := (Json.compact isValidUtf8).checked

theorem strictJson_strict : strictJson.Strict := Json.compact_strict isValidUtf8

theorem strictJson_sound : strictJson.Sound := (Json.compact isValidUtf8).checked_sound

/-- The request, and the result with a peer that says no. -/
def leaderRequest : GenerationRequest :=
  (decodeGenerationRequest strictJson leaderBody).toOption.getD {}

def leaderResult : GenerationResult :=
  ((leaderService (str "no")).generate strictJson leaderRequest (tokenSink strictJson none)
    ()).1.toOption.getD {}

theorem generate_ends_leader :
    ∃ response, (RuntimeService.generate strictJson (leaderService (str "no")) leaderBody none
        ()).response = .ok response ∧
      EndsStream strictJson (RuntimeService.generate strictJson (leaderService (str "no"))
        leaderBody none ()).events response.body := by
  refine (generate_ends_iff (leaderService (str "no")) strictJson_strict strictJson_sound leaderBody
    none ()).2 fun request hrequest => ?_
  have hdecode : decodeGenerationRequest strictJson leaderBody = .ok leaderRequest := by
    decide +kernel
  have hresult : ((leaderService (str "no")).generate strictJson leaderRequest
      (tokenSink strictJson none) ()).1 = .ok leaderResult := by
    decide +kernel
  have hwhole : isValidUtf8 leaderResult.errorCode = true ∧
      isValidUtf8 leaderResult.errorMessage = true := by
    decide +kernel
  rw [hdecode] at hrequest
  obtain rfl := Except.ok.inj hrequest
  exact (generate_whole_iff _ _ _ _).1 ⟨leaderResult, hresult, fun _ => ⟨hwhole.1, hwhole.2⟩⟩

/-- **A peer whose body is a byte that is not UTF-8 makes the call throw.** -/
theorem peer_bytes_escape :
    strictJson.Strict ∧ strictJson.Sound ∧
      (decodeGenerationRequest strictJson leaderBody).toBool = true ∧
      (RuntimeService.generate strictJson (leaderService [0xff]) leaderBody none ()).response =
        .error [] :=
  ⟨strictJson_strict, strictJson_sound, by decide +kernel, by decide +kernel⟩

end JetsonFabric
