import JetsonFabric.Generation.Runner
import JetsonFabric.Protocol.Frame

/-!
# Generation requests and events

`protocol/generation.cpp`: the request that a coordinator sends to the first runtime of a route,
with the checks on its stages, and the events that the runtime streams back.
-/

namespace JetsonFabric

open Checks

/-! ## Names -/

/-- A field of a generation request. -/
inductive RequestField
  | requestId | sessionId | modelId | prompt | maxTokens | deployment | stages
  deriving DecidableEq

def RequestField.name : RequestField → Bytes
  | requestId => str "request_id"
  | sessionId => str "session_id"
  | modelId => str "model_id"
  | prompt => str "prompt"
  | maxTokens => str "max_tokens"
  | deployment => str "deployment"
  | stages => str "stages"

/-- A field of a deployment identity. -/
inductive IdentityField
  | deploymentId | epoch | modelId | modelSha256
  deriving DecidableEq

def IdentityField.name : IdentityField → Bytes
  | deploymentId => str "deployment_id"
  | epoch => str "epoch"
  | modelId => str "model_id"
  | modelSha256 => str "model_sha256"

/-- A field of a stage of a route. -/
inductive StageField
  | stageIndex | stageCount | nodeId | nodeName | apiUrl | runtimeUrl | layerStart | layerEnd
  deriving DecidableEq

def StageField.name : StageField → Bytes
  | stageIndex => str "stage_index"
  | stageCount => str "stage_count"
  | nodeId => str "node_id"
  | nodeName => str "node_name"
  | apiUrl => str "api_url"
  | runtimeUrl => str "runtime_url"
  | layerStart => str "layer_start"
  | layerEnd => str "layer_end"

/-- A field of an event. -/
inductive EventField
  | type | token | text | index | finishReason | promptTokens | completionTokens | sampledTokens
  | stageCalls | remoteStageCalls | rollbackStageCalls | remoteRollbackStageCalls
  | rollbackStageUs | rollbackRemoteCallUs | bytesIn | bytesOut | stageTimings
  | targetDecodePasses | speculativeDraftTokens | speculativeAcceptedTokens | code | message
  deriving DecidableEq

def EventField.name : EventField → Bytes
  | type => str "type"
  | token => str "token"
  | text => str "text"
  | index => str "index"
  | finishReason => str "finish_reason"
  | promptTokens => str "prompt_tokens"
  | completionTokens => str "completion_tokens"
  | sampledTokens => str "sampled_tokens"
  | stageCalls => str "stage_calls"
  | remoteStageCalls => str "remote_stage_calls"
  | rollbackStageCalls => str "rollback_stage_calls"
  | remoteRollbackStageCalls => str "remote_rollback_stage_calls"
  | rollbackStageUs => str "rollback_stage_us"
  | rollbackRemoteCallUs => str "rollback_remote_call_us"
  | bytesIn => str "bytes_in"
  | bytesOut => str "bytes_out"
  | stageTimings => str "stage_timings"
  | targetDecodePasses => str "target_decode_passes"
  | speculativeDraftTokens => str "speculative_draft_tokens"
  | speculativeAcceptedTokens => str "speculative_accepted_tokens"
  | code => str "code"
  | message => str "message"

/-- A field of the totals of a stage. -/
inductive TimingField
  | phase | stageIndex | nodeName | remote | calls | batchItems | maxExecutionBatchSize
  | verificationItems | maxVerificationWidth | executionUs | activationDecodeUs
  | activationEncodeUs | stageTotalUs | remoteCallUs | remoteOverheadUs | bytesIn | bytesOut
  deriving DecidableEq

def TimingField.name : TimingField → Bytes
  | phase => str "phase"
  | stageIndex => str "stage_index"
  | nodeName => str "node_name"
  | remote => str "remote"
  | calls => str "calls"
  | batchItems => str "batch_items"
  | maxExecutionBatchSize => str "max_execution_batch_size"
  | verificationItems => str "verification_items"
  | maxVerificationWidth => str "max_verification_width"
  | executionUs => str "execution_us"
  | activationDecodeUs => str "activation_decode_us"
  | activationEncodeUs => str "activation_encode_us"
  | stageTotalUs => str "stage_total_us"
  | remoteCallUs => str "remote_call_us"
  | remoteOverheadUs => str "remote_overhead_us"
  | bytesIn => str "bytes_in"
  | bytesOut => str "bytes_out"

theorem valid_names {F : Type} {name : F → Bytes} {fields : List F}
    (hmem : ∀ field, field ∈ fields)
    (h : (fields.all fun field => (name field).all (· ≤ 0x7f)) = true) (field : F) :
    isValidUtf8 (name field) = true :=
  isValidUtf8_of_ascii (List.all_eq_true.1 h field (hmem field))

def RequestField.all : List RequestField :=
  [requestId, sessionId, modelId, prompt, maxTokens, deployment, stages]

theorem RequestField.mem_all (field : RequestField) : field ∈ all := by cases field <;> decide

def requestSchema : Json.Schema isValidUtf8 RequestField where
  name := RequestField.name
  fields := RequestField.all
  mem_fields := RequestField.mem_all
  nodup_names := by decide
  valid_name := valid_names RequestField.mem_all (by decide)

def IdentityField.all : List IdentityField := [deploymentId, epoch, modelId, modelSha256]

theorem IdentityField.mem_all (field : IdentityField) : field ∈ all := by cases field <;> decide

def identitySchema : Json.Schema isValidUtf8 IdentityField where
  name := IdentityField.name
  fields := IdentityField.all
  mem_fields := IdentityField.mem_all
  nodup_names := by decide
  valid_name := valid_names IdentityField.mem_all (by decide)

def StageField.all : List StageField :=
  [stageIndex, stageCount, nodeId, nodeName, apiUrl, runtimeUrl, layerStart, layerEnd]

theorem StageField.mem_all (field : StageField) : field ∈ all := by cases field <;> decide

def stageSchema : Json.Schema isValidUtf8 StageField where
  name := StageField.name
  fields := StageField.all
  mem_fields := StageField.mem_all
  nodup_names := by decide
  valid_name := valid_names StageField.mem_all (by decide)

def EventField.all : List EventField :=
  [type, token, text, index, finishReason, promptTokens, completionTokens, sampledTokens,
    stageCalls, remoteStageCalls, rollbackStageCalls, remoteRollbackStageCalls, rollbackStageUs,
    rollbackRemoteCallUs, bytesIn, bytesOut, stageTimings, targetDecodePasses,
    speculativeDraftTokens, speculativeAcceptedTokens, code, message]

theorem EventField.mem_all (field : EventField) : field ∈ all := by cases field <;> decide

def eventSchema : Json.Schema isValidUtf8 EventField where
  name := EventField.name
  fields := EventField.all
  mem_fields := EventField.mem_all
  nodup_names := by decide
  valid_name := valid_names EventField.mem_all (by decide)

def TimingField.all : List TimingField :=
  [phase, stageIndex, nodeName, remote, calls, batchItems, maxExecutionBatchSize,
    verificationItems, maxVerificationWidth, executionUs, activationDecodeUs, activationEncodeUs,
    stageTotalUs, remoteCallUs, remoteOverheadUs, bytesIn, bytesOut]

theorem TimingField.mem_all (field : TimingField) : field ∈ all := by cases field <;> decide

def timingSchema : Json.Schema isValidUtf8 TimingField where
  name := TimingField.name
  fields := TimingField.all
  mem_fields := TimingField.mem_all
  nodup_names := by decide
  valid_name := valid_names TimingField.mem_all (by decide)

/-! ## Requests -/

def requireField (found : Option Json) (field : Bytes) : Except Bytes Json :=
  match optionalField found with
  | none => .error (field ++ str " is required")
  | some value => .ok value

def requireString (found : Option Json) (field : Bytes) : Except Bytes Bytes := do
  match ← requireField found field with
  | .string text => do
    refuse (text = []) (field ++ str " is required")
    .ok text
  | _ => .error (field ++ str " must be a string")

def optionalString (found : Option Json) (field : Bytes) : Except Bytes Bytes :=
  match optionalField found with
  | none => .ok []
  | some (.string text) => .ok text
  | some _ => .error (field ++ str " must be a string")

def requireInt (found : Option Json) (field : Bytes) : Except Bytes Int := do
  match ← requireField found field with
  | .int n => do
    refuse (int64Value n < -2 ^ 31 ∨ int64Value n > 2 ^ 31 - 1)
      (field ++ str " is outside int range")
    .ok (int64Value n)
  | _ => .error (field ++ str " must be an integer")

def requireEpoch (found : Option Json) : Except Bytes UInt64 := do
  match ← requireField found (str "epoch") with
  | .int n => do
    refuse (int64Value n ≤ 0) (str "epoch must be positive")
    .ok (UInt64.ofNat (int64Value n).toNat)
  | _ => .error (str "epoch must be a positive integer")

def validateSha256 (value : Bytes) : Except Bytes Unit :=
  refuse (value.length ≠ 64 ∨ ¬ value.all isXDigit)
    (str "model_sha256 must be a 64-character hexadecimal digest")

def decodeDeployment (body : IdentityField → Option Json) : Except Bytes DeploymentIdentity := do
  let deploymentId ← requireString (body .deploymentId) (str "deployment_id")
  let epoch ← requireEpoch (body .epoch)
  let modelId ← requireString (body .modelId) (str "model_id")
  let modelSha256 ← requireString (body .modelSha256) (str "model_sha256")
  validateSha256 modelSha256
  .ok { deploymentId, epoch, modelId, modelSha256 }

def stageOfValues (body : StageField → Option Json) : Except Bytes GenerationStage := do
  let stageIndex ← requireInt (body .stageIndex) (str "stage_index")
  let stageCount ← requireInt (body .stageCount) (str "stage_count")
  let nodeId ← requireString (body .nodeId) (str "node_id")
  let nodeName ← requireString (body .nodeName) (str "node_name")
  let apiUrl ← requireString (body .apiUrl) (str "api_url")
  let runtimeUrl ← optionalString (body .runtimeUrl) (str "runtime_url")
  let layerStart ← requireInt (body .layerStart) (str "layer_start")
  let layerEnd ← requireInt (body .layerEnd) (str "layer_end")
  .ok { stageIndex, stageCount, nodeId, nodeName, apiUrl, runtimeUrl, layerStart, layerEnd }

def decodeStage : Json → Except Bytes GenerationStage
  | .object entries => stageOfValues (stageSchema.find entries)
  | _ => .error (str "generation stage must be an object")

def usesHttp (url : Bytes) : Bool := (str "http://").isPrefixOf url

/-- The checks on the stages from `index` on, after the node ids `seen`. -/
def Protocol.validateStagesFrom (count : Nat) :
    Nat → List Bytes → Int → List GenerationStage → Except Bytes Unit
  | _, _, _, [] => .ok ()
  | index, seen, expectedStart, stage :: stages => do
    refuse (stage.stageIndex ≠ index ∨ stage.stageCount ≠ count)
      (str "generation stages have inconsistent indexes or counts")
    refuse (stage.nodeId ∈ seen) (str "generation stages must use distinct node IDs")
    refuse (¬ usesHttp stage.apiUrl) (str "generation stage api_url must use http://")
    refuse (stage.runtimeUrl ≠ [] ∧ ¬ usesHttp stage.runtimeUrl)
      (str "generation stage runtime_url must use http://")
    refuse (stage.layerStart ≠ expectedStart ∨ stage.layerEnd ≤ stage.layerStart)
      (str "generation stages must contain contiguous non-empty layer ranges")
    Protocol.validateStagesFrom count (index + 1) (stage.nodeId :: seen) stage.layerEnd stages

def Protocol.validateStages (stages : List GenerationStage) : Except Bytes Unit := do
  refuse (stages = [] ∨ stages.length > 64) (str "generation requires between 1 and 64 stages")
  Protocol.validateStagesFrom stages.length 0 [] 0 stages

theorem Protocol.validateStagesFrom_cons {count index : Nat} {seen : List Bytes} {start : Int}
    {stage : GenerationStage} {stages : List GenerationStage}
    (h : Protocol.validateStagesFrom count index seen start (stage :: stages) = .ok ()) :
    stage.stageIndex = index ∧
      Protocol.validateStagesFrom count (index + 1) (stage.nodeId :: seen) stage.layerEnd stages =
        .ok () := by
  obtain ⟨_, hnumber, h⟩ := bind_eq_ok.1 h
  obtain ⟨_, -, h⟩ := bind_eq_ok.1 h
  obtain ⟨_, -, h⟩ := bind_eq_ok.1 h
  obtain ⟨_, -, h⟩ := bind_eq_ok.1 h
  obtain ⟨_, -, h⟩ := bind_eq_ok.1 h
  exact ⟨not_not.1 (not_or.1 (refuse_eq_ok.1 hnumber)).1, h⟩

theorem Protocol.validateStagesFrom_countP {count index : Nat} {seen : List Bytes} {start : Int}
    {stages : List GenerationStage} (hindex : 0 < index)
    (h : Protocol.validateStagesFrom count index seen start stages = .ok ()) :
    stages.countP (·.stageIndex = 0) = 0 := by
  induction stages generalizing index seen start with
  | nil => rfl
  | cons stage stages ih =>
    obtain ⟨hnumber, hrest⟩ := Protocol.validateStagesFrom_cons h
    rw [List.countP_cons_of_neg (by simp only [hnumber, decide_eq_true_eq]; omega),
      ih (Nat.succ_pos index) hrest]

/-- The bounds on a limit: one that is not positive is the default. -/
def clampMaxTokens (maxTokens : Int) : Int :=
  let positive := if maxTokens ≤ 0 then 128 else maxTokens
  if positive > 1024 then 1024 else positive

/-- The deployment of a request, when it names one. -/
def deploymentOfValue (found : Option Json) (modelId : Bytes) :
    Except Bytes (Option DeploymentIdentity) :=
  match optionalField found with
  | none => .ok none
  | some (.object entries) => do
    let identity ← decodeDeployment (identitySchema.find entries)
    refuse (identity.modelId ≠ modelId)
      (str "deployment model_id does not match generation model_id")
    .ok (some identity)
  | some _ => .error (str "deployment must be an object")

def stagesOfValue (found : Option Json) : Except Bytes (List GenerationStage) := do
  match ← requireField found (str "stages") with
  | .array items => items.mapM decodeStage
  | _ => .error (str "stages must be an array")

def generationRequestOfValues (body : RequestField → Option Json) :
    Except Bytes GenerationRequest := do
  let requestId ← requireString (body .requestId) (str "request_id")
  let sessionId ← requireString (body .sessionId) (str "session_id")
  let modelId ← requireString (body .modelId) (str "model_id")
  let prompt ← requireString (body .prompt) (str "prompt")
  let maxTokens ← requireInt (body .maxTokens) (str "max_tokens")
  let deployment ← deploymentOfValue (body .deployment) modelId
  let stages ← stagesOfValue (body .stages)
  Protocol.validateStages stages
  .ok { requestId, sessionId, modelId, prompt, maxTokens := clampMaxTokens maxTokens, deployment
        stages }

variable (json : Json.Codec isValidUtf8)

def decodeGenerationRequest (body : Bytes) : Except Bytes GenerationRequest :=
  match json.parse body with
  | .error _ => .error (str "generation request body must be valid JSON")
  | .ok (.object entries) => generationRequestOfValues (requestSchema.find entries)
  | .ok _ => .error (str "generation request body must be an object")

/-! ### The errors of a request -/

section Errors

variable {found : Option Json} {field : Bytes} (hfield : IsAscii field)
include hfield

theorem requireField_errors : Errors IsAscii (requireField found field) := by
  unfold requireField
  split
  · exact errors_error (hfield.append (by decide))
  · exact errors_ok _

theorem requireString_errors : Errors IsAscii (requireString found field) := by
  refine errors_bind (requireField_errors hfield) fun value => ?_
  split
  · exact errors_bind (errors_refuse (hfield.append (by decide))) fun _ => errors_ok _
  · exact errors_error (hfield.append (by decide))

theorem optionalString_errors : Errors IsAscii (optionalString found field) := by
  unfold optionalString
  split
  · exact errors_ok _
  · exact errors_ok _
  · exact errors_error (hfield.append (by decide))

theorem requireInt_errors : Errors IsAscii (requireInt found field) := by
  refine errors_bind (requireField_errors hfield) fun value => ?_
  split
  · exact errors_bind (errors_refuse (hfield.append (by decide))) fun _ => errors_ok _
  · exact errors_error (hfield.append (by decide))

end Errors

theorem requireEpoch_errors {found : Option Json} : Errors IsAscii (requireEpoch found) := by
  refine errors_bind (requireField_errors (by decide)) fun value => ?_
  split
  · exact errors_bind (errors_refuse (by decide)) fun _ => errors_ok _
  · exact errors_error (by decide)

theorem deploymentOfValue_errors {found : Option Json} {modelId : Bytes} :
    Errors IsAscii (deploymentOfValue found modelId) := by
  unfold deploymentOfValue
  split
  · exact errors_ok _
  · refine errors_bind ?_ fun _ => errors_bind (errors_refuse (by decide)) fun _ =>
      errors_ok _
    refine errors_bind (requireString_errors (by decide)) fun _ => ?_
    refine errors_bind requireEpoch_errors fun _ => ?_
    refine errors_bind (requireString_errors (by decide)) fun _ => ?_
    refine errors_bind (requireString_errors (by decide)) fun _ => ?_
    exact errors_bind (errors_refuse (by decide)) fun _ => errors_ok _
  · exact errors_error (by decide)

theorem decodeStage_errors {value : Json} : Errors IsAscii (decodeStage value) := by
  unfold decodeStage
  split
  · refine errors_bind (requireInt_errors (by decide)) fun _ => ?_
    refine errors_bind (requireInt_errors (by decide)) fun _ => ?_
    refine errors_bind (requireString_errors (by decide)) fun _ => ?_
    refine errors_bind (requireString_errors (by decide)) fun _ => ?_
    refine errors_bind (requireString_errors (by decide)) fun _ => ?_
    refine errors_bind (optionalString_errors (by decide)) fun _ => ?_
    refine errors_bind (requireInt_errors (by decide)) fun _ => ?_
    exact errors_bind (requireInt_errors (by decide)) fun _ => errors_ok _
  · exact errors_error (by decide)

theorem Protocol.validateStagesFrom_errors {count index : Nat} {seen : List Bytes} {start : Int}
    {stages : List GenerationStage} :
    Errors IsAscii (Protocol.validateStagesFrom count index seen start stages) := by
  induction stages generalizing index seen start with
  | nil => exact errors_ok _
  | cons stage stages ih =>
    refine errors_bind (errors_refuse (by decide)) fun _ => ?_
    refine errors_bind (errors_refuse (by decide)) fun _ => ?_
    refine errors_bind (errors_refuse (by decide)) fun _ => ?_
    refine errors_bind (errors_refuse (by decide)) fun _ => ?_
    exact errors_bind (errors_refuse (by decide)) fun _ => ih

theorem stagesOfValue_errors {found : Option Json} : Errors IsAscii (stagesOfValue found) := by
  refine errors_bind (requireField_errors (by decide)) fun value => ?_
  split
  · exact errors_mapM fun _ _ => decodeStage_errors
  · exact errors_error (by decide)

/-- **A request that is refused is refused in plain words.** -/
theorem decodeGenerationRequest_errors {json : Json.Codec isValidUtf8} {body : Bytes} :
    Errors IsAscii (decodeGenerationRequest json body) := by
  unfold decodeGenerationRequest
  split
  · exact errors_error (by decide)
  · refine errors_bind (requireString_errors (by decide)) fun _ => ?_
    refine errors_bind (requireString_errors (by decide)) fun _ => ?_
    refine errors_bind (requireString_errors (by decide)) fun _ => ?_
    refine errors_bind (requireString_errors (by decide)) fun _ => ?_
    refine errors_bind (requireInt_errors (by decide)) fun _ => ?_
    refine errors_bind deploymentOfValue_errors fun _ => ?_
    refine errors_bind stagesOfValue_errors fun _ => ?_
    refine errors_bind ?_ fun _ => errors_ok _
    exact errors_bind (errors_refuse (by decide)) fun _ =>
      Protocol.validateStagesFrom_errors
  · exact errors_error (by decide)

/-! ### The names of a request -/

theorem requireField_eq_ok {found : Option Json} {field : Bytes} {value : Json}
    (h : requireField found field = .ok value) : found = some value := by
  unfold requireField at h
  split at h
  · cases h
  · rename_i other hother
    cases h
    unfold optionalField at hother
    split at hother
    · cases hother
    · exact hother

theorem requireString_eq_ok {found : Option Json} {field text : Bytes}
    (h : requireString found field = .ok text) : found = some (.string text) ∧ text ≠ [] := by
  obtain ⟨value, hvalue, h⟩ := bind_eq_ok.1 h
  split at h
  · obtain ⟨_, hne, h⟩ := bind_eq_ok.1 h
    cases h
    exact ⟨requireField_eq_ok hvalue, refuse_eq_ok.1 hne⟩
  · cases h

theorem nodeName_of_decodeStage {value : Json} {stage : GenerationStage}
    (h : decodeStage value = .ok stage) :
    ∃ entries, value = .object entries ∧
      stageSchema.find entries .nodeName = some (.string stage.nodeName) := by
  unfold decodeStage at h
  split at h
  · rename_i entries
    refine ⟨entries, rfl, ?_⟩
    obtain ⟨_, -, h⟩ := bind_eq_ok.1 h
    obtain ⟨_, -, h⟩ := bind_eq_ok.1 h
    obtain ⟨_, -, h⟩ := bind_eq_ok.1 h
    obtain ⟨nodeName, hname, h⟩ := bind_eq_ok.1 h
    obtain ⟨_, -, h⟩ := bind_eq_ok.1 h
    obtain ⟨_, -, h⟩ := bind_eq_ok.1 h
    obtain ⟨_, -, h⟩ := bind_eq_ok.1 h
    obtain ⟨_, -, h⟩ := bind_eq_ok.1 h
    cases h
    exact (requireString_eq_ok hname).1
  · cases h

theorem stages_of_decodeGenerationRequest {json : Json.Codec isValidUtf8} {body : Bytes}
    {request : GenerationRequest} (h : decodeGenerationRequest json body = .ok request) :
    ∃ entries items, json.parse body = .ok (.object entries) ∧
      requestSchema.find entries .stages = some (.array items) ∧
      items.mapM decodeStage = .ok request.stages ∧
      Protocol.validateStages request.stages = .ok () := by
  unfold decodeGenerationRequest at h
  split at h
  · cases h
  · rename_i entries hparse
    obtain ⟨_, -, h⟩ := bind_eq_ok.1 h
    obtain ⟨_, -, h⟩ := bind_eq_ok.1 h
    obtain ⟨_, -, h⟩ := bind_eq_ok.1 h
    obtain ⟨_, -, h⟩ := bind_eq_ok.1 h
    obtain ⟨_, -, h⟩ := bind_eq_ok.1 h
    obtain ⟨_, -, h⟩ := bind_eq_ok.1 h
    obtain ⟨stages, hstages, h⟩ := bind_eq_ok.1 h
    obtain ⟨_, hvalid, h⟩ := bind_eq_ok.1 h
    cases h
    obtain ⟨value, hvalue, hstages⟩ := bind_eq_ok.1 hstages
    split at hstages
    · exact ⟨entries, _, hparse, requireField_eq_ok hvalue, hstages, hvalid⟩
    · cases hstages
  · cases h

/-- **The names of the nodes of a request are text.** -/
theorem nodeName_of_decodeGenerationRequest {json : Json.Codec isValidUtf8} (hsound : json.Sound)
    {body : Bytes} {request : GenerationRequest}
    (h : decodeGenerationRequest json body = .ok request) :
    ∀ stage ∈ request.stages, isValidUtf8 stage.nodeName = true := by
  intro stage hstage
  obtain ⟨entries, items, hparse, hfound, hitems, -⟩ := stages_of_decodeGenerationRequest h
  obtain ⟨value, hvalue, hdecode⟩ := mem_of_mapM_eq_ok hitems hstage
  obtain ⟨fields, rfl, hname⟩ := nodeName_of_decodeStage hdecode
  have hstages := Json.allStrings_of_find? (hsound _ _ hparse) hfound
  have hfields := Json.allStrings_of_mem hstages hvalue
  exact Json.allStrings_of_find? hfields hname

/-! ## Events -/

def tokenEventValues (token : GenerationToken) : EventField → Option Json
  | .type => some (.string (str "token"))
  | .token => some (.int token.token.toNat)
  | .text => some (.string token.text)
  | .index => some (.int token.index)
  | _ => none

def timingValues (t : GenerationStageTiming) : TimingField → Option Json
  | .phase => some (.string t.phase)
  | .stageIndex => some (.int t.stageIndex)
  | .nodeName => some (.string t.nodeName)
  | .remote => some (.bool t.remote)
  | .calls => some (.int t.calls)
  | .batchItems => some (.int t.batchItems)
  | .maxExecutionBatchSize => some (.int t.maxExecutionBatchSize)
  | .verificationItems => some (.int t.verificationItems)
  | .maxVerificationWidth => some (.int t.maxVerificationWidth)
  | .executionUs => some (.int t.executionUs)
  | .activationDecodeUs => some (.int t.activationDecodeUs)
  | .activationEncodeUs => some (.int t.activationEncodeUs)
  | .stageTotalUs => some (.int t.stageTotalUs)
  | .remoteCallUs => some (.int t.remoteCallUs)
  | .remoteOverheadUs => some (.int t.remoteOverheadUs)
  | .bytesIn => some (.int t.bytesIn)
  | .bytesOut => some (.int t.bytesOut)

def timingJson (t : GenerationStageTiming) : Json := .object (timingSchema.entries (timingValues t))

def doneEventValues (result : GenerationResult) : EventField → Option Json
  | .type => some (.string (str "done"))
  | .finishReason => some (.string result.finishReason)
  | .promptTokens => some (.int result.promptTokens)
  | .completionTokens => some (.int result.completionTokens)
  | .sampledTokens => some (u32Array result.sampledTokens)
  | .stageCalls => some (.int result.stageCalls)
  | .remoteStageCalls => some (.int result.remoteStageCalls)
  | .rollbackStageCalls => some (.int result.rollbackStageCalls)
  | .remoteRollbackStageCalls => some (.int result.remoteRollbackStageCalls)
  | .rollbackStageUs => some (.int result.rollbackStageUs)
  | .rollbackRemoteCallUs => some (.int result.rollbackRemoteCallUs)
  | .bytesIn => some (.int result.bytesIn)
  | .bytesOut => some (.int result.bytesOut)
  | .stageTimings => some (.array (result.stageTimings.map timingJson))
  | .targetDecodePasses => some (.int result.targetDecodePasses)
  | .speculativeDraftTokens => some (.int result.speculativeDraftTokens)
  | .speculativeAcceptedTokens => some (.int result.speculativeAcceptedTokens)
  | _ => none

def errorEventValues (code message : Bytes) : EventField → Option Json
  | .type => some (.string (str "error"))
  | .code => some (.string code)
  | .message => some (.string message)
  | _ => none

def encodeGenerationTokenEvent (token : GenerationToken) : Except Bytes Bytes :=
  json.dump (.object (eventSchema.entries (tokenEventValues token)))

def encodeGenerationDoneEvent (result : GenerationResult) : Except Bytes Bytes :=
  json.dump (.object (eventSchema.entries (doneEventValues result)))

def encodeGenerationErrorEvent (code message : Bytes) : Except Bytes Bytes :=
  json.dump (.object (eventSchema.entries (errorEventValues code message)))

end JetsonFabric
