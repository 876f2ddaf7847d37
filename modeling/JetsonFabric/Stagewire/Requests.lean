import JetsonFabric.Stagewire.Checks
import JetsonFabric.Stagewire.RoundTrip

/-!
# Requests from Go to the runtime

A frame that Go writes, as `decode_stage_operation` and `decode_stage_request` read it. Go leaves
`max_tokens` out for an operation that does not generate, and the runtime then takes its default.
-/

namespace JetsonFabric.Stagewire

open Checks Framing

/-- The request in a frame. -/
def Frame.stageRequest (frame : Frame) (maxTokens : Int) : StageRequest :=
  { sessionId := frame.sessionId
    requestId := frame.requestId
    modelId := frame.modelId
    deploymentId := frame.deploymentId
    deploymentEpoch := frame.deploymentEpoch
    modelSha256 := frame.modelSha256
    phase := frame.phase
    decodeStep := frame.decodeStep
    stageIndex := frame.stageIndex
    stageCount := frame.stageCount
    nodeName := frame.nodeName
    layerStart := frame.layerStart
    layerEnd := frame.layerEnd
    payloadKind := frame.payloadKind
    encoding := frame.encoding
    dtype := frame.dtype
    shape := frame.shape
    byteOrder := frame.byteOrder
    layout := frame.layout
    payload := frame.payload
    maxTokens
    rollbackTokens := frame.rollbackTokens }

/-- The numbers that the runtime holds in an `int` fit. -/
structure Metadata.Narrow (m : Metadata) : Prop where
  decodeStep : IsInt32 m.decodeStep
  stageIndex : IsInt32 m.stageIndex
  stageCount : IsInt32 m.stageCount
  layerStart : IsInt32 m.layerStart
  layerEnd : IsInt32 m.layerEnd
  maxTokens : IsInt32 m.maxTokens
  rollbackTokens : IsInt32 m.rollbackTokens

/-- The limit that the runtime takes from a frame. -/
def runtimeMaxTokens (m : Metadata) : Int := if m.maxTokens = 0 then 128 else m.maxTokens

theorem extractInt_maxTokens {m : Metadata} (h : IsInt32 m.maxTokens) :
    extractInt (omitDefault 0 m.maxTokens .int) .maxTokens 128 = .ok (runtimeMaxTokens m) := by
  unfold omitDefault runtimeMaxTokens
  split
  · rfl
  · exact extractInt_int h

theorem extractU64_omitDefault {field : MetadataField} (n : UInt64) :
    extractU64 (omitDefault 0 n u64Json) field 0 = .ok n := by
  unfold omitDefault
  split
  · subst_vars
    rfl
  · exact extractU64_int n

theorem validateMaxTokens_runtime {frame : Frame} (h : Validated frame) :
    validateMaxTokens (runtimeMaxTokens frame.toMetadata) =
      .ok (runtimeMaxTokens frame.toMetadata) := by
  have hrange := h.maxTokens
  have hok : ¬ (runtimeMaxTokens frame.toMetadata ≤ 0 ∨
      runtimeMaxTokens frame.toMetadata > maxStageTokens) := by
    unfold runtimeMaxTokens maxStageTokens
    split <;> omega
  rw [validateMaxTokens, refuse_of_not hok, ok_bind]

theorem isInt32_of_extractInt {field : MetadataField} {n fallback value : Int} (hn : IsInt64 n)
    (h : extractInt (some (.int n)) field fallback = .ok value) : IsInt32 n := by
  simp only [extractInt, optionalField, jsonInt64Value_int hn, ok_bind, bind_eq_ok,
    refuse_eq_ok] at h
  obtain ⟨_, hrange, -⟩ := h
  exact ⟨by omega, by omega⟩

theorem isInt32_of_omitDefault {field : MetadataField} {n fallback value : Int} (hn : IsInt64 n)
    (h : extractInt (omitDefault 0 n .int) field fallback = .ok value) : IsInt32 n := by
  unfold omitDefault at h
  split at h
  · rename_i hzero
    rw [hzero]
    exact ⟨by decide, by decide⟩
  · exact isInt32_of_extractInt hn h

section Metadata

variable {frame : Frame} (h : Validated frame) (hshape : ∀ dim ∈ frame.shape, IsInt64 dim)
include h hshape

theorem requestOfValues_metadataValues (hnarrow : frame.Narrow)
    (htensor : validateTensorMetadata frame.payloadKind frame.encoding frame.dtype frame.shape
      frame.byteOrder frame.layout frame.payload.length = .ok ()) :
    requestOfValues (metadataValues frame.toMetadata) frame.payload =
      .ok (frame.stageRequest (runtimeMaxTokens frame.toMetadata)) := by
  have hversion : IsInt32 frame.protocolVersion.toNat := by
    rw [h.protocolVersion]
    exact ⟨by decide, by decide⟩
  have hidentity := validateDeploymentIdentity_cpp h.identity
  simp only [requestOfValues, metadataValues, ok_bind, extractInt_int hversion,
    extractString_string, extractString_omitDefault, extractU64_omitDefault, hidentity,
    extractInt_int hnarrow.decodeStep, extractInt_int hnarrow.stageIndex,
    extractInt_int hnarrow.stageCount, extractInt_int hnarrow.layerStart,
    extractInt_int hnarrow.layerEnd, extractShape_omitDefault hshape,
    extractInt_maxTokens hnarrow.maxTokens, validateMaxTokens_runtime h,
    extractInt_omitDefault hnarrow.rollbackTokens, htensor]
  rfl

theorem requestOfValues_eq_ok {request : StageRequest} (htyped : frame.Typed)
    (hrequest : requestOfValues (metadataValues frame.toMetadata) frame.payload = .ok request) :
    request = frame.stageRequest (runtimeMaxTokens frame.toMetadata) := by
  have hversion : IsInt32 frame.protocolVersion.toNat := by
    rw [h.protocolVersion]
    exact ⟨by decide, by decide⟩
  have hrun := hrequest
  simp only [requestOfValues, metadataValues, ok_bind, extractInt_int hversion,
    extractString_string, extractString_omitDefault, extractU64_omitDefault,
    extractShape_omitDefault hshape, bind_eq_ok] at hrequest
  obtain ⟨_, -, _, hstep, _, -, _, hindex, _, hcount, _, hstart, _, hend, _, htokens, _, -, _,
    hrollback, _, htensor, -⟩ := hrequest
  have hnarrow : frame.Narrow :=
    ⟨isInt32_of_extractInt htyped.decodeStep hstep, isInt32_of_extractInt htyped.stageIndex hindex,
      isInt32_of_extractInt htyped.stageCount hcount,
      isInt32_of_extractInt htyped.layerStart hstart, isInt32_of_extractInt htyped.layerEnd hend,
      isInt32_of_omitDefault htyped.maxTokens htokens,
      isInt32_of_omitDefault htyped.rollbackTokens hrollback⟩
  rw [requestOfValues_metadataValues h hshape hnarrow htensor] at hrun
  cases hrun
  rfl

end Metadata

theorem validateStageOperation_of_validated {frame : Frame} (h : Validated frame) :
    validateStageOperationName frame.operation = .ok () ∧
      validateStageOperation frame.operation frame.rollbackTokens = .ok () := by
  have hname : validateStageOperationName frame.operation = .ok () := by
    have hknown : frame.operation = stageOperationExecute ∨
        frame.operation = stageOperationCloseSession ∨
        frame.operation = stageOperationRollbackSession := h.operation
    rw [validateStageOperationName, refuse_eq_ok]
    simpa only [ne_eq, not_and_or, not_not] using hknown
  refine ⟨hname, ?_⟩
  rw [validateStageOperation, hname, ok_bind,
    refuse_of_not fun hbad => not_lt.2 hbad.2 (h.rollback hbad.1), ok_bind,
    refuse_of_not fun hbad => hbad.2 (h.noRollback hbad.1)]

theorem normalizeFrame_maxTokens {frame : Frame}
    (h : (normalizeFrame frame).operation = operationExecute) :
    (normalizeFrame frame).maxTokens ≠ 0 := by
  have hlimit : (normalizeFrame frame).maxTokens =
      if (normalizeFrame frame).operation = operationExecute ∧ frame.maxTokens = 0 then 128
      else frame.maxTokens := rfl
  rw [hlimit]
  by_cases hzero : frame.maxTokens = 0
  · rw [if_pos ⟨h, hzero⟩]
    decide
  · rw [if_neg fun hboth => hzero hboth.2]
    exact hzero

section Frames

variable {go cpp : Json.Codec isValidUtf8} {frame : Frame} {data : Bytes}

theorem marshal_decodeFrame (hreads : cpp.Reads go) (hutf8 : frame.Utf8)
    (h : marshal go frame = .ok data) :
    decodeFrame cpp data = .ok ⟨metadataValues (normalizeFrame frame).toMetadata, frame.payload⟩ ∧
      decodeStageOperation cpp data =
        operationOfJson (.object (metadataJson (normalizeFrame frame).toMetadata)) := by
  obtain ⟨hvalid, hpayload, metadata, rfl, hne, hmetadata, hparse⟩ :=
    marshal_parse hreads hutf8 h
  have hfields : FrameFields (findField (metadataJson (normalizeFrame frame).toMetadata))
      frame.payload := by
    rw [findField_metadataJson]
    exact ⟨rfl, rfl, rfl, rfl⟩
  rw [header_eq, decodeFrame_append hne hmetadata hpayload hparse hfields, findField_metadataJson]
  exact ⟨rfl, decodeStageOperation_append hne hmetadata hpayload hparse⟩

/-- What the runtime decodes is the request in the frame. -/
theorem marshal_decodeStageRequest_eq (hreads : cpp.Reads go) (htyped : frame.Typed)
    (hutf8 : frame.Utf8) (h : marshal go frame = .ok data) {request : StageRequest}
    (hrequest : decodeStageRequest cpp data = .ok request) :
    request = (normalizeFrame frame).stageRequest
      (runtimeMaxTokens (normalizeFrame frame).toMetadata) := by
  obtain ⟨hvalidate, hpayload, -⟩ := marshal_parse hreads hutf8 h
  obtain ⟨hframe, -⟩ := marshal_decodeFrame hreads hutf8 h
  rw [decodeStageRequest, hframe, ok_bind] at hrequest
  exact requestOfValues_eq_ok (validate_eq_ok.1 hvalidate) htyped.shape
    (normalizeFrame_typed htyped hpayload) hrequest

end Frames

/-- **The runtime takes every request that Go writes.** -/
theorem marshal_decodeStageRequest (go cpp : Json.Codec isValidUtf8) (hreads : cpp.Reads go)
    {frame : Frame} {data : Bytes} (herror : frame.error = []) (htyped : frame.Typed)
    (hnarrow : frame.Narrow) (hutf8 : frame.Utf8) (h : marshal go frame = .ok data) :
    decodeStageOperation cpp data = .ok (normalizeFrame frame).operation ∧
      ∃ maxTokens,
        decodeStageRequest cpp data = .ok ((normalizeFrame frame).stageRequest maxTokens) ∧
        validateStageOperation (normalizeFrame frame).operation
          ((normalizeFrame frame).stageRequest maxTokens).rollbackTokens = .ok () ∧
        ((normalizeFrame frame).operation = operationExecute →
          maxTokens = (normalizeFrame frame).maxTokens) := by
  obtain ⟨hvalidate, -⟩ := marshal_parse hreads hutf8 h
  obtain ⟨hframe, hoperation⟩ := marshal_decodeFrame hreads hutf8 h
  have hvalid := validate_eq_ok.1 hvalidate
  obtain ⟨hname, hrollback⟩ := validateStageOperation_of_validated hvalid
  have hnormal : (normalizeFrame frame).Narrow :=
    { hnarrow with
      maxTokens := by
        have hrange := hvalid.maxTokens
        exact ⟨by omega, by omega⟩ }
  refine ⟨?_, runtimeMaxTokens (normalizeFrame frame).toMetadata, ?_, hrollback, ?_⟩
  · rw [hoperation]
    refine operationOfJson_object ?_ hname
    rw [findField_metadataJson]
    rfl
  · rw [decodeStageRequest, hframe, ok_bind]
    have hempty : (normalizeFrame frame).error = [] := herror
    exact requestOfValues_metadataValues hvalid htyped.shape hnormal
      ((validatePayloadMetadata_iff hempty hvalid.payloadKind).1 hvalid.payload)
  · intro hexecute
    rw [runtimeMaxTokens, if_neg (normalizeFrame_maxTokens hexecute)]

/-- A frame that closes a session, and so has no limit of its own. -/
def sampleCloseFrame : Frame :=
  { sampleFrame with operation := operationCloseSession, payload := [] }

theorem marshal_decodeStageRequest_sample :
    ∃ data maxTokens, marshal (Json.compact isValidUtf8) sampleCloseFrame = .ok data ∧
      decodeStageRequest (Json.compact isValidUtf8) data =
        .ok ((normalizeFrame sampleCloseFrame).stageRequest maxTokens) := by
  obtain ⟨data, hdata⟩ : ∃ data, marshal (Json.compact isValidUtf8) sampleCloseFrame = .ok data :=
    exists_of_toBool (by decide +kernel)
  obtain ⟨-, maxTokens, hrequest, -⟩ := marshal_decodeStageRequest (Json.compact isValidUtf8)
    (Json.compact isValidUtf8) (Json.compact isValidUtf8).parse_dump rfl
    (by constructor <;> simp [sampleCloseFrame, sampleFrame, IsInt64])
    (by constructor <;> simp [sampleCloseFrame, sampleFrame, IsInt32])
    (by constructor <;> exact isValidUtf8_of_ascii (by decide +kernel)) hdata
  exact ⟨data, maxTokens, hdata, hrequest⟩

end JetsonFabric.Stagewire
