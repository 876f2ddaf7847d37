import JetsonFabric.Stagewire.Tensors

/-!
# The checks of the two languages

Go checks a frame whole, before it is written and after it is read; the runtime checks the parts of
a message it uses. What the one accepts is compared with what the other accepts.
-/

namespace JetsonFabric.Stagewire

open Checks

/-- What `Validate` asks of a frame. -/
structure Validated (frame : Frame) : Prop where
  protocolVersion : frame.protocolVersion = version
  operation : frame.operation = operationExecute ∨ frame.operation = operationCloseSession ∨
    frame.operation = operationRollback
  rollback : frame.operation = operationRollback → 0 < frame.rollbackTokens
  noRollback : frame.operation ≠ operationRollback → frame.rollbackTokens = 0
  maxTokens : frame.maxTokens = 0 ∨ 1 ≤ frame.maxTokens ∧ frame.maxTokens ≤ 1024
  executionBatchSize : 1 ≤ frame.executionBatchSize
  verificationWidth : 1 ≤ frame.verificationWidth
  tokenEog : ∀ value ∈ frame.tokenEog, value ≤ 1
  messageBytes : ∀ value ∈ frame.messageBytes, 0 ≤ value ∧ value ≤ 255
  sessionId : trimSpace frame.sessionId ≠ []
  requestId : trimSpace frame.requestId ≠ []
  modelId : trimSpace frame.modelId ≠ []
  identity : validateDeploymentIdentity frame.toMetadata = .ok ()
  phase : frame.phase = phasePrefill ∨ frame.phase = phaseDecode
  position : 0 ≤ frame.stageIndex ∧ frame.stageIndex < frame.stageCount
  layers : 0 ≤ frame.layerStart ∧ frame.layerStart < frame.layerEnd
  payloadKind : frame.payloadKind = str "text" ∨ isTensorKind frame.payloadKind = true
  payloadBytes : frame.payloadBytes = frame.payload.length
  payloadLimit : frame.payload.length ≤ maxPayloadBytes
  payloadCrc32 : frame.payloadCrc32 = crc32 frame.payload
  transport : frame.transport = transport
  payload : validatePayloadMetadata frame.toMetadata frame.payload = .ok ()

theorem validatePosition_eq_ok {index count : Int} {u : Unit} :
    validatePosition index count = .ok u ↔ 0 ≤ index ∧ index < count := by
  simp only [validatePosition, bind_eq_ok, refuse_eq_ok, exists_const]
  omega

/-- **A frame is accepted exactly when it passes every check.** -/
theorem validate_eq_ok {frame : Frame} : validate frame = .ok () ↔ Validated frame := by
  simp only [validate, bind_eq_ok, refuse_eq_ok, validatePosition_eq_ok, exists_const]
  constructor
  · rintro ⟨h1, h2, h3, h4, h5, h6, h7, h8, h9, h10, h11, h12, _, h13, h14, h15, h16, h17, h18,
      h19, h20, h21, h22⟩
    exact
      { protocolVersion := not_not.1 h1
        operation := by simpa only [ne_eq, not_and_or, not_not] using h2
        rollback := fun h => not_le.1 fun hle => h3 ⟨h, hle⟩
        noRollback := fun h => not_not.1 fun hne => h4 ⟨h, hne⟩
        maxTokens := by omega
        executionBatchSize := not_lt.1 h6
        verificationWidth := not_lt.1 h7
        tokenEog := fun value hvalue => UInt32.not_lt.1 fun hlt => h8 ⟨value, hvalue, hlt⟩
        messageBytes := fun value hvalue => by
          have hrange : ¬ (value < 0 ∨ value > 255) := fun h => h9 ⟨value, hvalue, h⟩
          omega
        sessionId := h10
        requestId := h11
        modelId := h12
        identity := h13
        phase := by simpa only [ne_eq, not_and_or, not_not] using h14
        position := h15
        layers := by omega
        payloadKind := by simpa only [ne_eq, not_and_or, not_not] using h17
        payloadBytes := not_not.1 h18
        payloadLimit := by
          rw [not_not.1 h18] at h19
          exact_mod_cast not_lt.1 h19
        payloadCrc32 := (not_not.1 h20).symm
        transport := not_not.1 h21
        payload := h22 }
  · intro h
    obtain ⟨h1, h2, h3, h4, h5, h6, h7, h8, h9, h10, h11, h12, h13, h14, h15, h16, h17, h18, h19,
      h20, h21, h22⟩ := h
    have hlimit : ¬ frame.payloadBytes > maxPayloadBytes := by
      rw [h18]
      exact_mod_cast not_lt.2 h19
    refine ⟨not_not.2 h1, ?_, fun h => not_lt.2 h.2 (h3 h.1), fun h => h.2 (h4 h.1), by omega,
      not_lt.2 h6, not_lt.2 h7, ?_, ?_, h10, h11, h12, (), h13, ?_, h15, by omega, ?_,
      not_not.2 h18, hlimit, not_not.2 h20.symm, not_not.2 h21, h22⟩
    · simpa only [ne_eq, not_and_or, not_not] using h2
    · rintro ⟨value, hvalue, hlt⟩
      exact UInt32.not_lt.2 (h8 value hvalue) hlt
    · rintro ⟨value, hvalue, hrange⟩
      have hbyte := h9 value hvalue
      omega
    · simpa only [ne_eq, not_and_or, not_not] using h14
    · simpa only [ne_eq, not_and_or, not_not] using h17

/-! ## Payloads -/

/-- **The two languages agree on what a payload may be.** -/
theorem validatePayloadMetadata_iff {m : Metadata} {payload : Bytes} (herror : m.error = [])
    (hkind : m.payloadKind = str "text" ∨ isTensorKind m.payloadKind = true) :
    validatePayloadMetadata m payload = .ok () ↔
      validateTensorMetadata m.payloadKind m.encoding m.dtype m.shape m.byteOrder m.layout
        payload.length = .ok () := by
  by_cases htext : m.payloadKind = str "text"
  · rw [validatePayloadMetadata, if_neg (not_not.2 herror), validateTensorMetadata, if_pos htext,
      if_pos htext]
    simp only [bind_eq_ok, refuse_eq_ok, exists_const, List.length_eq_zero_iff, ne_eq]
    tauto
  · have htensor : isTensorKind m.payloadKind = true := hkind.resolve_left htext
    rw [validatePayloadMetadata_tensor herror htensor, validateTensorMetadata_tensor htensor]

/-! ## Identities -/

/-- An identity that Go accepts is one for the runtime. -/
theorem validateDeploymentIdentity_cpp {m : Metadata}
    (h : validateDeploymentIdentity m = .ok ()) :
    JetsonFabric.validateDeploymentIdentity m.deploymentId m.deploymentEpoch m.modelSha256 =
      .ok () := by
  unfold JetsonFabric.validateDeploymentIdentity
  unfold validateDeploymentIdentity at h
  split
  · rfl
  · rename_i hpresent
    rw [if_neg hpresent] at h
    simp only [bind_eq_ok, refuse_eq_ok, exists_const, not_or, not_not, ne_eq] at h ⊢
    obtain ⟨⟨hid, hepoch⟩, hlength, hdigits⟩ := h
    refine ⟨⟨?_, hepoch⟩, hlength, hdigits⟩
    rintro hnil
    rw [hnil] at hid
    exact hid rfl

end JetsonFabric.Stagewire
