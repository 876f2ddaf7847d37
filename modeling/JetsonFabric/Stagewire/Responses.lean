import JetsonFabric.Runtime.RunStage
import JetsonFabric.Stagewire.Requests

/-!
# Responses from the runtime to Go

The frame that `run_stage` answers a Go request with, as Go reads it. The runtime leaves
`rollback_tokens` out of every response, and Go refuses a frame of `rollback_session` without them.
-/

namespace JetsonFabric.Stagewire

open Checks Framing

/-! ## Reading a response -/

/-- A response as Go holds it. -/
def responseFrame (response : StageResponse) : Frame :=
  { protocolVersion := version
    operation := response.operation
    sessionId := response.sessionId
    requestId := response.requestId
    modelId := response.modelId
    deploymentId := response.deploymentId
    deploymentEpoch := response.deploymentEpoch
    modelSha256 := response.modelSha256
    phase := response.phase
    decodeStep := response.decodeStep
    stageIndex := response.stageIndex
    stageCount := response.stageCount
    nodeName := response.nodeName
    layerStart := response.layerStart
    layerEnd := response.layerEnd
    payloadKind := response.payloadKind
    encoding := response.encoding
    dtype := response.dtype
    shape := response.shape
    byteOrder := response.byteOrder
    layout := response.layout
    payloadBytes := response.payload.length
    payloadCrc32 := crc32 response.payload
    transport
    bytesIn := response.bytesIn
    bytesOut := response.bytesOut
    promptTokens := response.promptTokens
    promptTokenIds := response.promptTokenIds
    completionTokens := response.completionTokens
    executionBatchSize := response.executionBatchSize
    verificationWidth := response.verificationWidth
    latencyMs := response.latencyMs
    executionUs := response.executionUs
    activationDecodeUs := response.activationDecodeUs
    activationEncodeUs := response.activationEncodeUs
    stageTotalUs := response.stageTotalUs
    tokenTextOffsets := response.tokenTextOffsets
    tokenEog := response.tokenEog.map (·.toUInt32)
    error := response.error
    message := if isValidUtf8 response.message then response.message else []
    messageBytes :=
      if isValidUtf8 response.message then [] else response.message.map fun b => (b.toNat : Int)
    payload := response.payload }

/-- A width as it is read: one of 1 was not written. -/
def widthRead (n : Int) : Int := if n = 1 then 0 else n

theorem widthRead_restore {n : Int} (h : 0 < n) :
    (if widthRead n = 0 then 1 else widthRead n) = n := by
  unfold widthRead
  split <;> split <;> omega

/-- The metadata before its defaults. -/
def responseMetadata (response : StageResponse) : Metadata :=
  { (responseFrame response).toMetadata with
    executionBatchSize := widthRead response.executionBatchSize
    verificationWidth := widthRead response.verificationWidth }

section Fields

variable {α : Type} {zero value : α} {read : Json → Except Bytes α} {c : Prop} [Decidable c]

theorem fieldOf_ite {written : Json} (h : read written = .ok value) (hzero : ¬ c → value = zero) :
    fieldOf zero read (if c then some written else none) = .ok value := by
  split
  · exact h
  · rw [hzero ‹_›]
    rfl

theorem fieldOf_width {goType place : Bytes} {n : Int} (h : IsInt64 n) :
    fieldOf 0 (int64OfJson goType place) (omitDefault 1 n .int) =
      .ok (widthRead n) := by
  unfold omitDefault widthRead
  split
  · rfl
  · exact int64OfJson_int h

theorem omitDefault_byteArray_u32 (bytes : Bytes) :
    omitDefault [] bytes byteArray = omitDefault [] (bytes.map (·.toUInt32)) u32Array := by
  simp [omitDefault, byteArray, u32Array, Function.comp_def]

theorem omitDefault_byteArray_int (bytes : Bytes) :
    omitDefault [] bytes byteArray =
      omitDefault [] (bytes.map fun b => (b.toNat : Int)) intArray := by
  simp [omitDefault, byteArray, intArray, Function.comp_def]

end Fields

theorem isInt64_messageBytes (message : Bytes) :
    ∀ n ∈ message.map fun b => (b.toNat : Int), IsInt64 n := by
  intro n hn
  obtain ⟨b, -, rfl⟩ := List.mem_map.1 hn
  have hlt := b.toNat_lt
  exact isInt64_natCast (by omega)

section Message

variable (response : StageResponse)

theorem fieldOf_message {place : Bytes} :
    fieldOf [] (stringOfJson place)
        (if isValidUtf8 response.message then omitDefault [] response.message .string else none) =
      .ok (responseFrame response).message := by
  show _ = Except.ok (if isValidUtf8 response.message then response.message else [])
  split
  · exact fieldOf_omitDefault (stringOfJson_string _)
  · rfl

theorem fieldOf_messageBytes {place goType itemType : Bytes} :
    fieldOf [] (listOfJson goType place (int64OfJson itemType place))
        (if isValidUtf8 response.message then none else omitDefault [] response.message byteArray) =
      .ok (responseFrame response).messageBytes := by
  show _ = Except.ok (if isValidUtf8 response.message then [] else
    response.message.map fun b => (b.toNat : Int))
  split
  · rfl
  · rw [omitDefault_byteArray_int]
    exact fieldOf_omitDefault (listOfJson_intArray (isInt64_messageBytes response.message))

end Message

/-- Go finds in the metadata of a response what the runtime has set. -/
theorem metadataOfValues_responseValues {response : StageResponse} (h : response.Typed)
    (hpayload : response.payload.length ≤ maxPayloadBytes)
    (hidentity : JetsonFabric.validateDeploymentIdentity response.deploymentId
      response.deploymentEpoch response.modelSha256 = .ok ()) :
    metadataOfValues (frameValues (responseValues response) response.payload
      (crc32 response.payload)) = .ok (responseMetadata response) := by
  have hepoch : ¬ response.deploymentId ≠ [] → response.deploymentEpoch = 0 := fun hid =>
    (validateDeploymentIdentity_nil hidentity (not_not.1 hid)).1
  have hsha : ¬ response.deploymentId ≠ [] → response.modelSha256 = [] := fun hid =>
    (validateDeploymentIdentity_nil hidentity (not_not.1 hid)).2
  have hlength : IsInt64 response.payload.length :=
    isInt64_natCast (lt_of_le_of_lt hpayload (by decide))
  have hversion : ∀ goType place : Bytes, unsignedOfJson 16 UInt16.ofNat goType place
      (.int stageWireVersion) = .ok version := fun _ _ =>
    unsignedOfJson_int (by decide) (by decide)
  rw [metadataOfValues]
  simp only [routeOfValues, goString, goInt, goUint, frameValues, responseValues, ok_bind,
    fieldOf_some, stringOfJson_string, hversion, fieldOf_ite (stringOfJson_string _) not_not.1,
    fieldOf_ite (stringOfJson_string _) hsha, fieldOf_ite (uint64OfJson _) hepoch,
    int64OfJson_int h.decodeStep.isInt64, int64OfJson_int h.stageIndex.isInt64,
    int64OfJson_int h.stageCount.isInt64, int64OfJson_int h.layerStart.isInt64,
    int64OfJson_int h.layerEnd.isInt64]
  simp only [payloadOfValues, goString, goInt, goUint, goInts, frameValues, responseValues, ok_bind,
    fieldOf_some, stringOfJson_string, fieldOf_omitDefault (stringOfJson_string _), uint32OfJson,
    fieldOf_omitDefault (listOfJson_intArray h.shape), int64OfJson_int hlength]
  have hnone : ∀ goType place : Bytes, fieldOf 0 (int64OfJson goType place) none = .ok 0 :=
    fun _ _ => rfl
  simp only [hnone, ok_bind, answerOfValues, goString, goInt, goUint32s, goInts, frameValues,
    responseValues, fieldOf_omitDefault (stringOfJson_string _),
    omitDefault_byteArray_u32 response.tokenEog,
    fieldOf_omitDefault (listOfJson_u32Array _), fieldOf_message, fieldOf_messageBytes,
    fieldOf_omitDefault (int64OfJson_int h.bytesIn),
    fieldOf_omitDefault (int64OfJson_int h.bytesOut),
    fieldOf_omitDefault (int64OfJson_int h.promptTokens.isInt64),
    fieldOf_omitDefault (int64OfJson_int h.completionTokens.isInt64),
    fieldOf_width h.executionBatchSize.isInt64, fieldOf_width h.verificationWidth.isInt64,
    fieldOf_omitDefault (int64OfJson_int h.latencyMs.isInt64),
    fieldOf_omitDefault (int64OfJson_int h.executionUs),
    fieldOf_omitDefault (int64OfJson_int h.activationDecodeUs),
    fieldOf_omitDefault (int64OfJson_int h.activationEncodeUs),
    fieldOf_omitDefault (int64OfJson_int h.stageTotalUs)]
  rfl

theorem normalizeTelemetryDefaults_responseMetadata {response : StageResponse}
    (hwidths : validateWidths response.executionBatchSize response.verificationWidth = .ok ()) :
    normalizeTelemetryDefaults
        { toMetadata := responseMetadata response, payload := response.payload } =
      responseFrame response := by
  rw [validateWidths, refuse_eq_ok] at hwidths
  have hfilled : normalizeTelemetryDefaults
      { toMetadata := responseMetadata response, payload := response.payload } =
        { responseFrame response with
          executionBatchSize := if widthRead response.executionBatchSize = 0 then 1 else
            widthRead response.executionBatchSize
          verificationWidth := if widthRead response.verificationWidth = 0 then 1 else
            widthRead response.verificationWidth } := rfl
  rw [hfilled, widthRead_restore (by omega), widthRead_restore (by omega)]
  rfl

section Encoded

variable {go cpp : Json.Codec isValidUtf8} {response : StageResponse} {frame : Bytes}

theorem isValidUtf8_of_encodeFramePrefix (hstrict : cpp.Strict) {order : List MetadataField}
    {values : MetadataValues} {payload front : Bytes} {checksum : UInt32}
    (h : encodeFramePrefix cpp order values payload checksum = .ok front) {field : MetadataField}
    (hfield : field ∈ order) {text : Bytes}
    (hvalue : frameValues values payload checksum field = some (.string text)) :
    isValidUtf8 text = true := by
  obtain ⟨_, hdump, -⟩ := bind_eq_ok.1 h
  exact hstrict _ _ field.name text hdump
    ((Json.mem_record MetadataField.name).2 ⟨field, hfield, _, hvalue, rfl⟩)

/-- What the runtime could print is text. -/
theorem utf8_of_encodeFramePrefix (hstrict : cpp.Strict) {front : Bytes}
    (h : encodeFramePrefix cpp responseOrder (responseValues response) response.payload
      (crc32 response.payload) = .ok front)
    (hidentity : JetsonFabric.validateDeploymentIdentity response.deploymentId
      response.deploymentEpoch response.modelSha256 = .ok ()) : response.Utf8 := by
  have hfield : ∀ field text, frameValues (responseValues response) response.payload
      (crc32 response.payload) field = some (.string text) → isValidUtf8 text = true :=
    fun field text => isValidUtf8_of_encodeFramePrefix hstrict h (mem_responseOrder field)
  have hnil : isValidUtf8 [] = true := isValidUtf8_of_ascii rfl
  have homitted : ∀ field text, frameValues (responseValues response) response.payload
      (crc32 response.payload) field = omitDefault [] text .string → isValidUtf8 text = true := by
    intro field text hvalue
    by_cases hempty : text = []
    · rw [hempty]
      exact hnil
    · exact hfield field text (hvalue.trans (if_neg hempty))
  have hmanaged : ∀ field text, (response.deploymentId = [] → text = []) →
      frameValues (responseValues response) response.payload (crc32 response.payload) field =
        (if response.deploymentId ≠ [] then some (.string text) else none) →
      isValidUtf8 text = true := by
    intro field text hempty hvalue
    by_cases hid : response.deploymentId = []
    · rw [hempty hid]
      exact hnil
    · exact hfield field text (hvalue.trans (if_pos hid))
  exact
    { sessionId := hfield .sessionId _ rfl
      requestId := hfield .requestId _ rfl
      modelId := hfield .modelId _ rfl
      deploymentId := hmanaged .deploymentId _ id rfl
      modelSha256 := hmanaged .modelSha256 _
        (fun hid => (validateDeploymentIdentity_nil hidentity hid).2) rfl
      phase := hfield .phase _ rfl
      nodeName := hfield .nodeName _ rfl
      payloadKind := hfield .payloadKind _ rfl
      encoding := homitted .encoding _ rfl
      dtype := homitted .dtype _ rfl
      byteOrder := homitted .byteOrder _ rfl
      layout := homitted .layout _ rfl
      error := homitted .error _ rfl }

/-- **Go reads what the runtime has set, and then checks it.** -/
theorem unmarshal_encodeStageResponse (hreads : go.Reads cpp) (hstrict : cpp.Strict)
    (htyped : response.Typed) (h : encodeStageResponse cpp response = .ok frame) :
    unmarshal go frame =
      validate (responseFrame response) >>= fun _ => .ok (responseFrame response) := by
  obtain ⟨_, hname, h⟩ := bind_eq_ok.1 h
  obtain ⟨_, hwidths, h⟩ := bind_eq_ok.1 h
  obtain ⟨_, -, h⟩ := bind_eq_ok.1 h
  obtain ⟨_, hidentity, h⟩ := bind_eq_ok.1 h
  obtain ⟨front, hfront, h⟩ := bind_eq_ok.1 h
  cases h
  have hutf8 := utf8_of_encodeFramePrefix hstrict hfront hidentity
  obtain ⟨text, rfl, htext, hmetadata, hpayload, hparse⟩ := encodeFramePrefix_parse hreads
    (writtenField_responseValues hutf8 (isValidUtf8_operation hname)) hfront
  have htokens : validateEncodedMaxTokens (.object (Json.record MetadataField.name responseOrder
      (frameValues (responseValues response) response.payload (crc32 response.payload)))) =
        .ok () := by
    simp only [validateEncodedMaxTokens, findField_record responseOrder_nodup mem_responseOrder,
      frameValues, responseValues]
  rw [List.append_assoc, ← header_eq, unmarshal_append htext hmetadata hpayload hparse
    responseOrder_nodup mem_responseOrder
    (metadataOfValues_responseValues htyped hpayload hidentity) rfl htokens,
    normalizeTelemetryDefaults_responseMetadata hwidths]

end Encoded

/-! ## Checking a response -/

section Checked

variable {frame : Frame} {maxTokens : Int} {response : StageResponse}

theorem isTensorKind_toText (kind : PayloadKind) :
    kind.toText = str "text" ∨ isTensorKind kind.toText = true := by
  cases kind <;> decide

theorem operation_of_name {operation : Bytes}
    (h : validateStageOperationName operation = .ok ()) :
    operation = operationExecute ∨ operation = operationCloseSession ∨
      operation = operationRollback := by
  rw [validateStageOperationName, refuse_eq_ok] at h
  simp only [ne_eq, not_and_or, not_not] at h
  exact h

theorem tokenEog_responseFrame (h : ∀ flag ∈ response.tokenEog, flag ≤ 1) :
    ∀ value ∈ (responseFrame response).tokenEog, value ≤ 1 := by
  intro value hvalue
  obtain ⟨flag, hflag, rfl⟩ := List.mem_map.1 hvalue
  have hle := h flag hflag
  rw [UInt8.le_iff_toNat_le] at hle
  rw [UInt32.le_iff_toNat_le]
  simpa using hle

theorem messageBytes_responseFrame (response : StageResponse) :
    ∀ value ∈ (responseFrame response).messageBytes, 0 ≤ value ∧ value ≤ 255 := by
  intro value hvalue
  change value ∈ (if isValidUtf8 response.message then [] else
    response.message.map fun b => (b.toNat : Int)) at hvalue
  split at hvalue
  · cases hvalue
  · obtain ⟨b, -, rfl⟩ := List.mem_map.1 hvalue
    have hlt := b.toNat_lt
    omega

theorem identity_of_echoes (h : Validated frame)
    (hechoes : Echoes (frame.stageRequest maxTokens) response) :
    validateDeploymentIdentity (responseFrame response).toMetadata = .ok () := by
  have hidentity := h.identity
  unfold validateDeploymentIdentity at hidentity ⊢
  have hid : (responseFrame response).deploymentId = frame.deploymentId := hechoes.deploymentId
  have hepoch : (responseFrame response).deploymentEpoch = frame.deploymentEpoch :=
    hechoes.deploymentEpoch
  have hsha : (responseFrame response).modelSha256 = frame.modelSha256 := hechoes.modelSha256
  rw [hid, hepoch, hsha]
  exact hidentity

theorem payloadKind_of_echoes (h : Validated frame)
    (hechoes : Echoes (frame.stageRequest maxTokens) response) :
    response.payloadKind = str "text" ∨ isTensorKind response.payloadKind = true := by
  obtain ⟨kind, hkind⟩ | hkind := hechoes.payloadKind
  · rw [hkind]
    exact isTensorKind_toText kind
  · rw [hkind]
    exact h.payloadKind

theorem payload_responseFrame (htensor : validateResponsePayload response = .ok ())
    (hkind : response.payloadKind = str "text" ∨ isTensorKind response.payloadKind = true) :
    validatePayloadMetadata (responseFrame response).toMetadata response.payload = .ok () := by
  by_cases herror : response.error = []
  · rw [validateResponsePayload, if_pos herror] at htensor
    exact (validatePayloadMetadata_iff (m := (responseFrame response).toMetadata) herror hkind).2
      htensor
  · exact if_pos herror

/-- **Go takes a response to a valid frame exactly when it does not roll back.** -/
theorem validate_responseFrame (h : Validated frame)
    (hechoes : Echoes (frame.stageRequest maxTokens) response)
    (hname : validateStageOperationName response.operation = .ok ())
    (hwidths : validateWidths response.executionBatchSize response.verificationWidth = .ok ())
    (htensor : validateResponsePayload response = .ok ())
    (hpayload : response.payload.length ≤ maxPayloadBytes) :
    validate (responseFrame response) = .ok () ↔
      response.operation ≠ operationRollback ∧ ∀ flag ∈ response.tokenEog, flag ≤ 1 := by
  rw [validate_eq_ok]
  constructor
  · intro hvalid
    refine ⟨fun hrollback => ?_, fun flag hflag => ?_⟩
    · -- the response has no tokens to roll back
      have hpositive : (0 : Int) < 0 := hvalid.rollback hrollback
      omega
    · have hle := hvalid.tokenEog flag.toUInt32 (List.mem_map_of_mem hflag)
      rw [UInt32.le_iff_toNat_le] at hle
      rw [UInt8.le_iff_toNat_le]
      simpa using hle
  · rintro ⟨hoperation, heog⟩
    rw [validateWidths, refuse_eq_ok] at hwidths
    have hkind := payloadKind_of_echoes h hechoes
    have hsession : (responseFrame response).sessionId = frame.sessionId := hechoes.sessionId
    have hrequest : (responseFrame response).requestId = frame.requestId := hechoes.requestId
    have hmodel : (responseFrame response).modelId = frame.modelId := hechoes.modelId
    have hphase : (responseFrame response).phase = frame.phase := hechoes.phase
    have hindex : (responseFrame response).stageIndex = frame.stageIndex := hechoes.stageIndex
    have hcount : (responseFrame response).stageCount = frame.stageCount := hechoes.stageCount
    have hstart : (responseFrame response).layerStart = frame.layerStart := hechoes.layerStart
    have hend : (responseFrame response).layerEnd = frame.layerEnd := hechoes.layerEnd
    exact
      { protocolVersion := rfl
        operation := operation_of_name hname
        rollback := fun hrollback => absurd hrollback hoperation
        noRollback := fun _ => rfl
        maxTokens := .inl rfl
        executionBatchSize := show 1 ≤ response.executionBatchSize by omega
        verificationWidth := show 1 ≤ response.verificationWidth by omega
        tokenEog := tokenEog_responseFrame heog
        messageBytes := messageBytes_responseFrame response
        sessionId := hsession ▸ h.sessionId
        requestId := hrequest ▸ h.requestId
        modelId := hmodel ▸ h.modelId
        identity := identity_of_echoes h hechoes
        phase := hphase ▸ h.phase
        position := by
          rw [hindex, hcount]
          exact h.position
        layers := by
          rw [hstart, hend]
          exact h.layers
        payloadKind := hkind
        payloadBytes := rfl
        payloadLimit := hpayload
        payloadCrc32 := rfl
        transport := rfl
        payload := payload_responseFrame htensor hkind }

end Checked

/-! ## Answers to a request -/

/-- Its flags are flags, and it is no `rollback_session`. -/
def ReadableByGo (response : StageResponse) : Prop :=
  response.operation ≠ operationRollback ∧ ∀ flag ∈ response.tokenEog, flag ≤ 1

theorem encodeStageResponse_checks {json : Json.Codec isValidUtf8} {response : StageResponse}
    {frame : Bytes} (h : encodeStageResponse json response = .ok frame) :
    validateStageOperationName response.operation = .ok () ∧
      validateWidths response.executionBatchSize response.verificationWidth = .ok () ∧
      validateResponsePayload response = .ok () ∧
      response.payload.length ≤ maxPayloadBytes := by
  obtain ⟨_, hname, h⟩ := bind_eq_ok.1 h
  obtain ⟨_, hwidths, h⟩ := bind_eq_ok.1 h
  obtain ⟨_, htensor, h⟩ := bind_eq_ok.1 h
  obtain ⟨_, -, h⟩ := bind_eq_ok.1 h
  obtain ⟨front, hfront, -⟩ := bind_eq_ok.1 h
  obtain ⟨_, -, hfront⟩ := bind_eq_ok.1 hfront
  obtain ⟨_, hsize, -⟩ := bind_eq_ok.1 hfront
  rw [refuse_eq_ok, not_or] at hsize
  exact ⟨hname, hwidths, htensor, not_lt.1 hsize.2⟩

/-- **Go accepts the answer to its request exactly when it does not roll back.** -/
theorem runStage_unmarshal_iff {σ : Type} (go cpp : Json.Codec isValidUtf8)
    (hcpp : cpp.Reads go) (hgo : go.Reads cpp) (hstrict : cpp.Strict)
    (mode : ExecutionMode) (m : ModelManager (Executor σ)) (codec : ActivationCodec)
    (clock : StageTimings) {frame : Frame} {data : Bytes} (htyped : frame.Typed)
    (hutf8 : frame.Utf8) (hdata : marshal go frame = .ok data) {engine engine' : σ}
    {answer : RuntimeResponse}
    (h : runStage cpp mode m codec clock data engine = (.ok answer, engine'))
    (hframe : answer.contentType = stageWireContentType) :
    ∃ operation request result, decodeStageCall cpp data = .ok (operation, request) ∧
      dispatch m codec operation request clock engine = (.ok result, engine') ∧
      ((stageResponse operation request result).Typed →
        ((∃ f, unmarshal go answer.body = .ok f) ↔
          ReadableByGo (stageResponse operation request result)) ∧
        ∀ f, unmarshal go answer.body = .ok f →
          f = responseFrame (stageResponse operation request result)) := by
  obtain ⟨operation, request, result, hcall, hresult, hencode⟩ := runStage_frame h hframe
  refine ⟨operation, request, result, hcall, hresult, fun hresponse => ?_⟩
  obtain ⟨hvalidate, -⟩ := marshal_parse hcpp hutf8 hdata
  have hvalid := validate_eq_ok.1 hvalidate
  obtain ⟨_, -, hcall⟩ := bind_eq_ok.1 hcall
  obtain ⟨decoded, hrequest, hcall⟩ := bind_eq_ok.1 hcall
  obtain ⟨_, -, hcall⟩ := bind_eq_ok.1 hcall
  cases hcall
  have hanswers : Answers request (dispatch m codec operation request clock engine).1 :=
    dispatch_answers m codec operation clock engine
  have hechoes : Echoes request (stageResponse operation request result) :=
    stageResponse_echoes hanswers (congrArg Prod.fst hresult) operation
  have hsame := marshal_decodeStageRequest_eq hcpp htyped hutf8 hdata hrequest
  subst hsame
  obtain ⟨hname, hwidths, htensor, hpayload⟩ := encodeStageResponse_checks hencode
  have hread := unmarshal_encodeStageResponse hgo hstrict hresponse hencode
  have hiff := validate_responseFrame hvalid hechoes hname hwidths htensor hpayload
  rw [hread]
  refine ⟨⟨?_, fun hreadable => ⟨_, by rw [hiff.2 hreadable, ok_bind]⟩⟩, ?_⟩
  · rintro ⟨f, hf⟩
    obtain ⟨_, hok, -⟩ := bind_eq_ok.1 hf
    exact hiff.1 hok
  · intro f hf
    obtain ⟨_, -, hf⟩ := bind_eq_ok.1 hf
    cases hf
    rfl

/-- An executor whose sessions can be closed and rolled back. -/
def sampleExecutor : Executor Unit where
  execute _ engine := (.ok (.failure (str "failed") (str "no model")), engine)
  closeSession _ engine := (.ok (), engine)
  rollbackSession _ _ engine := (.ok (), engine)

/-- A runtime with one deployment of the model. -/
def sampleManager : ModelManager (Executor Unit) :=
  (ModelManager.insertActive [] { deploymentId := str "m", modelId := str "m", modelSha256 := [] }
    { layerEnd := 1 } { executor := some sampleExecutor, modelResidency := none }).toOption.getD {}

def sampleCodec : ActivationCodec where
  encode := .ok
  decode := .ok

def sampleRollbackFrame : Frame :=
  { sampleFrame with operation := operationRollback, rollbackTokens := 1, payload := [] }

/-- The bytes of a frame and what the runtime answers to them. -/
def sampleData (frame : Frame) : Bytes :=
  (marshal (Json.compact isValidUtf8) frame).toOption.getD []

def sampleAnswer (frame : Frame) : Except Bytes RuntimeResponse :=
  (runStage (Json.compact isValidUtf8) .pipelineParallel sampleManager sampleCodec {}
    (sampleData frame) ()).1

/-- The request to close a session, and its outcome. -/
def sampleCloseRequest : StageRequest := (normalizeFrame sampleCloseFrame).stageRequest 128

def sampleCloseResult : StageRunResult :=
  { ok := true, status := str "200 OK", response := closeResponse sampleCloseRequest 0 }

theorem runStage_unmarshal_close :
    ∃ answer f, sampleAnswer sampleCloseFrame = .ok answer ∧
      unmarshal (Json.compact isValidUtf8) answer.body = .ok f := by
  obtain ⟨answer, hanswer⟩ : ∃ answer, sampleAnswer sampleCloseFrame = .ok answer :=
    exists_of_toBool (by decide +kernel)
  have hkind : (sampleAnswer sampleCloseFrame).map (·.contentType) = .ok stageWireContentType := by
    decide +kernel
  rw [hanswer] at hkind
  obtain ⟨operation, request, result, hcall, hresult, h⟩ :=
    runStage_unmarshal_iff (Json.compact isValidUtf8) (Json.compact isValidUtf8)
      (Json.compact isValidUtf8).parse_dump (Json.compact isValidUtf8).parse_dump
      (Json.compact_strict isValidUtf8) .pipelineParallel sampleManager sampleCodec {}
      (show sampleCloseFrame.Typed by
        constructor <;> simp [sampleCloseFrame, sampleFrame, IsInt64])
      (show sampleCloseFrame.Utf8 by
        constructor <;> exact isValidUtf8_of_ascii (by decide +kernel))
      (show marshal (Json.compact isValidUtf8) sampleCloseFrame =
        .ok (sampleData sampleCloseFrame) by decide +kernel)
      (Prod.ext hanswer rfl) (Except.ok.inj hkind)
  have hcall' : decodeStageCall (Json.compact isValidUtf8) (sampleData sampleCloseFrame) =
      .ok (operationCloseSession, sampleCloseRequest) := by decide +kernel
  rw [hcall'] at hcall
  cases hcall
  have hresult' : (dispatch sampleManager sampleCodec operationCloseSession sampleCloseRequest {}
      ()).1.toOption = some sampleCloseResult := by decide +kernel
  rw [hresult] at hresult'
  cases hresult'
  have htyped : (stageResponse operationCloseSession sampleCloseRequest sampleCloseResult).Typed := by
    constructor <;>
      simp [stageResponse, sampleCloseResult, closeResponse, baseResponse, sampleCloseRequest,
        Frame.stageRequest, normalizeFrame, normalizeTelemetryDefaults, sampleCloseFrame,
        sampleFrame, IsInt32, IsInt64, elapsedMs]
  obtain ⟨f, hf⟩ := (h htyped).1.2 ⟨by decide, by rintro _ ⟨⟩⟩
  exact ⟨answer, f, hanswer, hf⟩

/-- A session is rolled back, and Go refuses the answer. -/
theorem rollback_answer_refused :
    ∃ answer, marshal (Json.compact isValidUtf8) sampleRollbackFrame =
        .ok (sampleData sampleRollbackFrame) ∧
      sampleAnswer sampleRollbackFrame = .ok answer ∧ answer.status = str "200 OK" ∧
      answer.contentType = stageWireContentType ∧
      unmarshal (Json.compact isValidUtf8) answer.body =
        .error (str "rollback_session requires positive rollback_tokens") := by
  refine ⟨(sampleAnswer sampleRollbackFrame).toOption.getD ⟨[], [], []⟩, ?_⟩
  decide +kernel

end JetsonFabric.Stagewire
