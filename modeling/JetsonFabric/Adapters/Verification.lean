import JetsonFabric.Adapters.LlamaEngine
import JetsonFabric.Generation.Reference
import JetsonFabric.Inference.Worker
import JetsonFabric.Protocol.RoundTrip

/-!
# The way of a verification from the last stage to the runner

`output_for_rows` joins the texts of the rows of a verification and notes where each ends; the
response travels as a frame, and `read_sampled_batch` cuts the texts apart again.

* **`verification_returns`**: a response that fits a frame is read as the same rows.
-/

namespace JetsonFabric

open Checks Stops

/-! ## Rows of the engine -/

variable {count : Nat}

section

variable {κ φ : Type} (config : LlamaCppStageConfig) (engine : LlamaEngine κ φ)

/-- The token of a row; one that ends the generation has no text. -/
def sampledRow (context row : Nat) : Stops Stop κ Sampled := do
  match ← engineCall (engine.getLogitsIth context row) with
  | none =>
    stop (.failure (str "llama_stage_logits_missing")
      (str "llama.cpp did not expose speculative verification logits"))
  | some logits =>
    let token := bestToken config engine logits
    if ← engineCall (engine.isEndToken token) then pure ⟨token.toUInt32, [], true⟩
    else
      let piece ← engineCall (engine.tokenPiece token)
      pure ⟨token.toUInt32, piece, false⟩

/-- The samples of the rows. -/
def sampledRows (context : Nat) : Nat → Nat → Stops Stop κ (List Sampled)
  | 0, _ => pure []
  | rest + 1, row => do
    let sampled ← sampledRow config engine context row
    let rows ← sampledRows context rest (row + 1)
    pure (sampled :: rows)

/-- An output with one row more. -/
def StageOutput.addSampled (output : StageOutput) (o : Sampled) : StageOutput :=
  { output with
    tokenEog := output.tokenEog ++ [if o.endOfGeneration then 1 else 0]
    tokenText := output.tokenText ++ o.text
    completionTokens := output.completionTokens + if o.endOfGeneration then 0 else 1
    tokenTextOffsets :=
      output.tokenTextOffsets ++ [UInt32.ofNat (output.tokenText ++ o.text).length] }

variable {config engine}

theorem addRow_eq (context row : Nat) (tokens : List Int32) (output : StageOutput) :
    addRow config engine context row tokens output =
      (fun o => (tokens ++ [o.token.toInt32], output.addSampled o)) <$>
        sampledRow config engine context row := by
  simp only [addRow, sampledRow, map_bind]
  refine bind_congr fun answer => ?_
  cases answer with
  | none => rfl
  | some logits =>
    simp only [map_bind]
    refine bind_congr fun ends => ?_
    cases ends with
    | true =>
      simp [StageOutput.addSampled]
    | false =>
      simp [StageOutput.addSampled]

theorem addRows_eq (context count row : Nat) (tokens : List Int32) (output : StageOutput) :
    addRows config engine context count row tokens output =
      (fun rows : List Sampled => (tokens ++ rows.map (·.token.toInt32),
        rows.foldl StageOutput.addSampled output)) <$>
          sampledRows config engine context count row := by
  induction count generalizing row tokens output with
  | zero => simp [addRows, sampledRows]
  | succ count ih =>
    simp only [addRows, sampledRows, addRow_eq, ih, bind_map_left, map_bind, map_pure]
    refine bind_congr fun o => ?_
    rw [map_eq_pure_bind]
    simp

theorem length_sampledRows {context row : Nat} {rows : List Sampled} {world world' : κ}
    (h : sampledRows config engine context count row world = (.ok rows, world')) :
    rows.length = count := by
  induction count generalizing row rows world with
  | zero =>
    cases h
    rfl
  | succ count ih =>
    rw [sampledRows, bind_apply] at h
    split at h
    · rw [bind_apply] at h
      split at h
      · next hrest =>
        cases h
        exact congrArg (· + 1) (ih hrest)
      · cases h
    · cases h

theorem foldl_addSampled (rows : List Sampled) (output : StageOutput) :
    rows.foldl StageOutput.addSampled output =
      { output with
        tokenEog := output.tokenEog ++ eogFlags rows
        tokenText := output.tokenText ++ rows.flatMap Sampled.text
        completionTokens := output.completionTokens + rows.countP (!·.endOfGeneration)
        tokenTextOffsets :=
          output.tokenTextOffsets ++ textOffsets output.tokenText.length rows } := by
  induction rows generalizing output with
  | nil => simp [eogFlags, textOffsets]
  | cons o rows ih =>
    rw [List.foldl_cons, ih]
    cases heog : o.endOfGeneration with
    | true => simp [StageOutput.addSampled, eogFlags, textOffsets, heog, Nat.toUInt32]
    | false =>
      simp [StageOutput.addSampled, eogFlags, textOffsets, heog, Nat.toUInt32]
      omega

/-- The output of a verification with the given rows. -/
def verificationOutput (rows : List Sampled) : StageOutput :=
  { payload :=
      { kind := .sampledTokens
        tensor := tokenDescriptor rows.length
        bytes := rows.flatMap fun o => writeU32LE o.token }
    completionTokens := rows.countP (!·.endOfGeneration)
    executionBatchSize := 1
    verificationWidth := rows.length
    tokenText := rows.flatMap Sampled.text
    tokenTextOffsets := textOffsets 0 rows
    tokenEog := eogFlags rows }

theorem sampledTokensPayload_rows {rows : List Sampled} (h : 2 ≤ rows.length) :
    sampledTokensPayload (rows.map (·.token.toInt32)) = .ok (verificationOutput rows).payload := by
  rw [sampledTokensPayload, if_neg (by rw [List.length_map]; omega)]
  simp [verificationOutput, List.flatMap_map, appendI32LE]

theorem outputForRows_eq {context : Nat} {rows : List Sampled} {world world' : κ}
    (hcount : 2 ≤ count)
    (h : sampledRows config engine context count 0 world = (.ok rows, world')) :
    outputForRows config engine context count world = (.ok (verificationOutput rows), world') := by
  have hlength := length_sampledRows h
  subst hlength
  rw [outputForRows, addRows_eq, bind_map_left, bind_apply, h]
  simp only [List.nil_append, sampledTokensPayload_rows hcount, foldl_addSampled]
  simp [throwing, Stops.ofExcept, bind_apply, pure_apply, Except.mapError, verificationOutput]

end

/-! ## What the runner accepts -/

variable {response : StageResponse}

/-- At least two elements, with an offset and a flag each. -/
structure Batched (response : StageResponse) : Prop where
  two : 8 ≤ response.payload.length
  whole : response.payload.length % 4 = 0
  offsets : response.tokenTextOffsets.length = response.payload.length / 4
  flags : response.tokenEog.length = response.payload.length / 4
  ordered : response.tokenTextOffsets.Pairwise (· ≤ ·)
  ends : response.tokenTextOffsets.getLast?.map (·.toNat) = some response.message.length

theorem readSampledRows_cons_accepts {message payload : Bytes} {start : Nat}
    {b0 b1 b2 b3 eog : UInt8} {offset : UInt32} {offsets : List UInt32} {eogs : List UInt8} :
    (∃ rows, readSampledRows message start (b0 :: b1 :: b2 :: b3 :: payload) (offset :: offsets)
        (eog :: eogs) = .ok rows) ↔
      (start ≤ offset.toNat ∧ offset.toNat ≤ message.length) ∧
        ∃ rows, readSampledRows message offset.toNat payload offsets eogs = .ok rows := by
  rw [readSampledRows]
  split
  · next hbad =>
    refine iff_of_false (by simp) ?_
    rintro ⟨hgood, -⟩
    omega
  · next hgood =>
    rw [and_iff_right (by omega)]
    cases readSampledRows message offset.toNat payload offsets eogs <;> simp

theorem readSampledRows_accepts {message : Bytes} {start : Nat} {payload : Bytes}
    {offsets : List UInt32} {eogs : List UInt8} (hpayload : payload.length = 4 * offsets.length)
    (heogs : eogs.length = offsets.length) :
    (∃ rows, readSampledRows message start payload offsets eogs = .ok rows) ↔
      (∀ o ∈ offsets, start ≤ o.toNat) ∧ offsets.Pairwise (· ≤ ·) ∧
        (offsets.getLast?.map (·.toNat)).getD start = message.length := by
  induction offsets generalizing start payload eogs with
  | nil =>
    obtain rfl := List.eq_nil_of_length_eq_zero hpayload
    obtain rfl := List.eq_nil_of_length_eq_zero heogs
    by_cases hend : start = message.length <;> simp [readSampledRows, hend]
  | cons offset offsets ih =>
    obtain ⟨eog, eogs, rfl⟩ := List.exists_cons_of_length_eq_add_one heogs
    rcases payload with _ | ⟨b0, _ | ⟨b1, _ | ⟨b2, _ | ⟨b3, payload⟩⟩⟩⟩ <;>
      simp only [List.length_cons, List.length_nil] at hpayload heogs <;> try omega
    have hlast : ((offset :: offsets).getLast?.map (·.toNat)).getD start =
        (offsets.getLast?.map (·.toNat)).getD offset.toNat := by
      rw [List.getLast?_cons]
      cases offsets.getLast? <;> rfl
    rw [readSampledRows_cons_accepts, @ih offset.toNat payload eogs (by omega) (by omega), hlast,
      List.forall_mem_cons, List.pairwise_cons]
    constructor
    · rintro ⟨⟨hstart, _⟩, hle, hsorted, hend⟩
      refine ⟨⟨hstart, fun o ho => hstart.trans (hle o ho)⟩,
        ⟨fun o ho => UInt32.le_iff_toNat_le.2 (hle o ho), hsorted⟩, hend⟩
    · rintro ⟨⟨hstart, _⟩, ⟨hle, hsorted⟩, hend⟩
      have hle : ∀ o ∈ offsets, offset.toNat ≤ o.toNat :=
        fun o ho => UInt32.le_iff_toNat_le.1 (hle o ho)
      refine ⟨⟨hstart, ?_⟩, hle, hsorted, hend⟩
      -- The last offset is the length of the message, and none before it is larger.
      rw [← hend]
      cases hoffsets : offsets.getLast? with
      | none => exact le_refl _
      | some last => exact hle last (List.mem_of_getLast? hoffsets)

theorem readSampledBatch_accepts (hkind : response.payloadKind = str "sampled_tokens") :
    (∃ rows, readSampledBatch response = .ok rows) ↔ Batched response := by
  have hne : response.payloadKind ≠ str "sampled_token" := by
    rw [hkind]
    decide
  constructor
  · rintro ⟨rows, h⟩
    unfold readSampledBatch at h
    rw [if_neg hne] at h
    split at h
    · cases h
    · next hpayload =>
      split at h
      · cases h
      · next hlists =>
        obtain ⟨_, htwo, hwhole⟩ := not_or.1 hpayload |>.imp_right not_or.1
        obtain ⟨hoffsets, hflags⟩ := not_or.1 hlists
        have hpayload := @readSampledRows_accepts response.message 0 response.payload
          response.tokenTextOffsets response.tokenEog (by omega) (by omega)
        obtain ⟨-, hsorted, hend⟩ := hpayload.1 ⟨rows, h⟩
        refine ⟨by omega, by omega, by omega, by omega, hsorted, ?_⟩
        cases hlast : response.tokenTextOffsets.getLast? with
        | none =>
          rw [List.getLast?_eq_none_iff.1 hlast] at hoffsets
          simp only [List.length_nil] at hoffsets
          omega
        | some last =>
          rw [hlast] at hend
          exact congrArg some hend
  · rintro ⟨htwo, hwhole, hoffsets, hflags, hsorted, hend⟩
    rw [readSampledBatch_rows (n := response.payload.length / 4) hkind (by omega) (by omega)
      hoffsets hflags]
    refine (readSampledRows_accepts (by omega) (by omega)).2 ⟨fun _ _ => Nat.zero_le _, hsorted, ?_⟩
    rw [hend]
    rfl

/-! ## The response and its frame -/

variable {json : Json.Codec isValidUtf8}

/-- The metadata that the frame of a response starts with. -/
def responseMetadata (response : StageResponse) : Json :=
  .object (Json.record MetadataField.name responseOrder
    (frameValues (responseValues response) response.payload (crc32 response.payload)))

/-- Payload and metadata are within the limits of a frame. -/
def FitsFrame (json : Json.Codec isValidUtf8) (response : StageResponse) : Prop :=
  response.payload.length ≤ maxPayloadBytes ∧
    ∃ text, json.dump (responseMetadata response) = .ok text ∧ text.length ≤ maxMetadataBytes

theorem encodeFramePrefix_accepts :
    (∃ front, encodeFramePrefix json responseOrder (responseValues response) response.payload
      (crc32 response.payload) = .ok front) ↔ FitsFrame json response := by
  constructor
  · rintro ⟨front, h⟩
    obtain ⟨text, htext, h⟩ := bind_eq_ok.1 h
    obtain ⟨_, hsize, -⟩ := bind_eq_ok.1 h
    obtain ⟨hmetadata, hpayload⟩ := not_or.1 (refuse_eq_ok.1 hsize)
    exact ⟨by omega, text, htext, by omega⟩
  · rintro ⟨hpayload, text, htext, hmetadata⟩
    refine ⟨frameHeader text.length response.payload.length ++ text,
      bind_eq_ok.2 ⟨text, htext, bind_eq_ok.2 ⟨(), refuse_of_not ?_, rfl⟩⟩⟩
    omega

theorem encodeStageResponse_accepts (hname : validateStageOperationName response.operation = .ok ())
    (hwidths : validateWidths response.executionBatchSize response.verificationWidth = .ok ())
    (hpayload : response.payload.length ≤ maxPayloadBytes →
      validateResponsePayload response = .ok ())
    (hidentity : validateDeploymentIdentity response.deploymentId response.deploymentEpoch
      response.modelSha256 = .ok ()) :
    (∃ frame, encodeStageResponse json response = .ok frame) ↔ FitsFrame json response := by
  rw [← encodeFramePrefix_accepts]
  constructor
  · rintro ⟨frame, h⟩
    obtain ⟨_, _, h⟩ := bind_eq_ok.1 h
    obtain ⟨_, _, h⟩ := bind_eq_ok.1 h
    obtain ⟨_, _, h⟩ := bind_eq_ok.1 h
    obtain ⟨_, _, h⟩ := bind_eq_ok.1 h
    obtain ⟨front, hfront, _⟩ := bind_eq_ok.1 h
    exact ⟨front, hfront⟩
  · rintro ⟨front, hfront⟩
    have hfits := encodeFramePrefix_accepts.1 ⟨front, hfront⟩
    rw [encodeStageResponse, hname, ok_bind, hwidths, ok_bind, hpayload hfits.1, ok_bind, hidentity,
      ok_bind, hfront]
    exact ⟨_, rfl⟩

/-- The times of a stage are of their type. -/
structure StageTimings.Typed (timings : StageTimings) : Prop where
  executionUs : IsInt64 timings.executionUs
  activationDecodeUs : IsInt64 timings.activationDecodeUs
  activationEncodeUs : IsInt64 timings.activationEncodeUs
  stageTotalUs : IsInt64 timings.stageTotalUs

theorem isInt32_elapsedMs (elapsed : Int) : IsInt32 (elapsedMs elapsed) := by
  have hlow := Int.le_bmod (x := elapsed.tdiv 1000) (m := 2 ^ 32) (by decide)
  have hhigh := Int.bmod_lt (x := elapsed.tdiv 1000) (m := 2 ^ 32) (by decide)
  exact ⟨by unfold elapsedMs; omega, by unfold elapsedMs; omega⟩

/-- The answer to a request with the given rows. -/
def verificationResponse (request : StageRequest) (rows : List Sampled) (bytesIn : Int)
    (timings : StageTimings) : StageResponse :=
  toStageResponse request (verificationOutput rows) bytesIn timings

section

variable {request : StageRequest} {rows : List Sampled} {bytesIn : Int} {timings : StageTimings}

theorem verificationResponse_typed (hrequest : request.Typed) (hrows : rows.length < 2 ^ 31)
    (hbytes : IsInt64 bytesIn) (htimings : timings.Typed) :
    (verificationResponse request rows bytesIn timings).Typed := by
  have hpayload := length_flatMap_writeU32LE rows
  have hcount := List.countP_le_length (l := rows) (p := (!·.endOfGeneration))
  have hint (n : Nat) (hn : n < 2 ^ 31) : IsInt32 n := ⟨by omega, by omega⟩
  exact
    { decodeStep := hrequest.decodeStep
      stageIndex := hrequest.stageIndex
      stageCount := hrequest.stageCount
      layerStart := hrequest.layerStart
      layerEnd := hrequest.layerEnd
      shape := List.forall_mem_singleton.2 (isInt64_natCast (by omega))
      bytesIn := hbytes
      bytesOut := isInt64_natCast (hpayload.trans_lt (by omega))
      promptTokens := hint 0 (by decide)
      completionTokens := hint _ (by omega)
      executionBatchSize := hint 1 (by decide)
      verificationWidth := hint _ hrows
      latencyMs := isInt32_elapsedMs _
      executionUs := htimings.executionUs
      activationDecodeUs := htimings.activationDecodeUs
      activationEncodeUs := htimings.activationEncodeUs
      stageTotalUs := htimings.stageTotalUs }

theorem verificationResponse_utf8 (hrequest : request.Utf8) :
    (verificationResponse request rows bytesIn timings).Utf8 where
  sessionId := hrequest.sessionId
  requestId := hrequest.requestId
  modelId := hrequest.modelId
  deploymentId := hrequest.deploymentId
  modelSha256 := hrequest.modelSha256
  phase := hrequest.phase
  nodeName := hrequest.nodeName
  payloadKind := @isValidUtf8_of_ascii (str "sampled_tokens") (by decide)
  encoding := @isValidUtf8_of_ascii [] (by decide)
  dtype := @isValidUtf8_of_ascii (str "i32") (by decide)
  byteOrder := @isValidUtf8_of_ascii (str "little") (by decide)
  layout := @isValidUtf8_of_ascii (str "row_major") (by decide)
  error := @isValidUtf8_of_ascii [] (by decide)

theorem validateTensorMetadata_tokens {payloadSize : Nat} (hcount : 0 < count)
    (hsize : payloadSize = 4 * count) (hlimit : payloadSize ≤ maxPayloadBytes) :
    validateTensorMetadata (str "sampled_tokens") [] (str "i32") [(count : Int)] (str "little")
      (str "row_major") payloadSize = .ok () := by
  have hmax : maxPayloadBytes = 536870912 := rfl
  have helements : shapeElements 1 [(count : Int)] = .ok count := by
    have hfits : 1 ≤ maxPayloadBytes / count :=
      (Nat.le_div_iff_mul_le hcount).2 (by omega)
    rw [shapeElements, Int.toNat_natCast, refuse_of_not (by omega), ok_bind, shapeElements, one_mul,
      Nat.mod_eq_of_lt (by omega)]
  have hwidth : dtypeWidth (str "i32") = .ok 4 := by decide
  rw [validateTensorMetadata, if_neg (by decide), refuse_of_not (by decide), ok_bind,
    refuse_of_not (by simp; decide), ok_bind, refuse_of_not (by decide), ok_bind, helements, ok_bind,
    hwidth, ok_bind]
  exact refuse_of_not (by omega)

end

/-- **The rows of a verification reach the runner** exactly when they fit a frame. -/
theorem verification_returns (json : Json.Codec isValidUtf8) :
    (∀ {κ φ : Type} (config : LlamaCppStageConfig) (engine : LlamaEngine κ φ) (context k : Nat)
      (world world' : κ) (rows : List Sampled) (request : StageRequest) (bytesIn : Int)
      (timings : StageTimings), 2 ≤ k → k < 2 ^ 31 →
      sampledRows config engine context k 0 world = (.ok rows, world') →
      (rows.flatMap Sampled.text).length < 2 ^ 32 → request.Typed → request.Utf8 →
      validateDeploymentIdentity request.deploymentId request.deploymentEpoch
        request.modelSha256 = .ok () → IsInt64 bytesIn → timings.Typed →
      ∃ output, outputForRows config engine context k world = (.ok output, world') ∧
        ((∃ frame, encodeStageResponse json (toStageResponse request output bytesIn timings) =
            .ok frame) ↔ FitsFrame json (toStageResponse request output bytesIn timings)) ∧
        ∀ frame, encodeStageResponse json (toStageResponse request output bytesIn timings) =
            .ok frame →
          ∃ response, decodeStageResponse json frame = .ok response ∧
            readSampledBatch response = .ok rows) ∧
    ∀ response : StageResponse, response.payloadKind = str "sampled_tokens" →
      ((∃ rows, readSampledBatch response = .ok rows) ↔ Batched response) := by
  refine ⟨?_, fun response => readSampledBatch_accepts⟩
  intro κ φ config engine context k world world' rows request bytesIn timings hk hint hrows htext
    htyped hutf8 hidentity hbytes htimings
  have hlength := length_sampledRows hrows
  subst hlength
  have hpayload := length_flatMap_writeU32LE rows
  refine ⟨verificationOutput rows, outputForRows_eq hk hrows, ?_, fun frame hframe => ?_⟩
  · refine encodeStageResponse_accepts (by rfl) (refuse_of_not ?_) (fun hlimit => ?_) hidentity
    · simp only [toStageResponse, verificationOutput]
      omega
    · exact validateTensorMetadata_tokens (by omega) hpayload hlimit
  · have hdecoded := encodeStageResponse_roundTrip
      (verificationResponse_typed htyped hint hbytes htimings) (verificationResponse_utf8 hutf8)
      (fun flag hflag => ?_) hframe
    · refine ⟨_, hdecoded.1, ?_⟩
      rw [readSampledBatch_rows (n := rows.length) rfl hk hpayload (length_textOffsets 0 rows)
        (List.length_map _)]
      exact readSampledRows_outputs rows [] htext
    · obtain ⟨o, -, rfl⟩ := List.mem_map.1 hflag
      cases o.endOfGeneration <;> decide

/-- The rows give the tokens in order, with the given texts. -/
def sampleEngine (pieces : List Bytes) : LlamaEngine Unit Nat where
  less a b := decide (a < b)
  tokenize _ := pure []
  tokenPiece token := pure (pieces.getD token.toInt.toNat [])
  isEndToken token := pure (decide (token.toInt.toNat = pieces.length))
  createContext _ := pure 0
  decode _ _ := pure 0
  getEmbeddings _ := pure none
  getEmbeddingsIth _ _ := pure none
  getLogitsIth _ row := pure (some fun token => if (token : Int) = row then 1 else 0)
  memorySeqRm _ _ _ _ := pure true

/-- One stage with all layers. -/
def sampleLlamaConfig : LlamaCppStageConfig :=
  { nEmbd := 1, nVocab := 3 }

/-- Three rows, the last of which ends. -/
def sampleRows : List Sampled := [⟨0, [255], false⟩, ⟨1, str "b", false⟩, ⟨2, [], true⟩]

theorem verification_returns_sample :
    ∃ output frame response,
      outputForRows sampleLlamaConfig (sampleEngine [[255], str "b"]) 0 3 () = (.ok output, ()) ∧
      encodeStageResponse (Json.compact isValidUtf8)
        (toStageResponse sampleStageRequest output 0 {}) = .ok frame ∧
      decodeStageResponse (Json.compact isValidUtf8) frame = .ok response ∧
      readSampledBatch response = .ok sampleRows ∧
      Batched (toStageResponse sampleStageRequest output 0 {}) := by
  have hzero : IsInt64 0 := @isInt64_natCast 0 (by decide)
  have hall := verification_returns (Json.compact isValidUtf8)
  have hrows : sampledRows sampleLlamaConfig (sampleEngine [[255], str "b"]) 0 3 0 () =
      (.ok sampleRows, ()) := by rfl
  obtain ⟨output, houtput, -, hread⟩ := hall.1 sampleLlamaConfig (sampleEngine [[255], str "b"]) 0 3
    () () sampleRows sampleStageRequest 0 {} (by decide) (by decide) hrows (by decide)
    sampleStageRequest_typed sampleStageRequest_utf8 (by rfl) hzero ⟨hzero, hzero, hzero, hzero⟩
  have heq : output = verificationOutput sampleRows := by
    have h := houtput.symm.trans (outputForRows_eq (by decide) hrows)
    cases h
    rfl
  subst heq
  obtain ⟨frame, hframe⟩ := exists_of_toBool
    (show (encodeStageResponse (Json.compact isValidUtf8)
      (toStageResponse sampleStageRequest (verificationOutput sampleRows) 0 {})).toBool = true by
      decide +kernel)
  obtain ⟨response, hresponse, hbatch⟩ := hread frame hframe
  exact ⟨_, frame, response, houtput, hframe, hresponse, hbatch,
    (hall.2 _ rfl).1 ⟨sampleRows, by rfl⟩⟩

theorem length_message_le (htext : isValidUtf8 response.message = true)
    (hne : response.message ≠ []) :
    response.message.length ≤ (Json.text (responseMetadata response)).length := by
  have hvalue : responseValues response .message = some (.string response.message) := by
    rw [responseValues, htext, if_pos rfl, omitDefault, if_neg hne]
  have hfield := Json.length_le_fieldsText ((Json.mem_record MetadataField.name).2
    ⟨.message, mem_responseOrder .message, _, hvalue, rfl⟩)
  rw [responseMetadata, Json.text, List.length_cons]
  exact Nat.le_succ_of_le hfield

theorem encodeStageResponse_tooLarge {text : Bytes}
    (hname : validateStageOperationName response.operation = .ok ())
    (hwidths : validateWidths response.executionBatchSize response.verificationWidth = .ok ())
    (hpayload : validateResponsePayload response = .ok ())
    (hidentity : validateDeploymentIdentity response.deploymentId response.deploymentEpoch
      response.modelSha256 = .ok ())
    (htext : json.dump (responseMetadata response) = .ok text)
    (hlong : maxMetadataBytes < text.length) :
    encodeStageResponse json response = .error (str "stagewire frame is too large") := by
  rw [encodeStageResponse, hname, ok_bind, hwidths, ok_bind, hpayload, ok_bind, hidentity, ok_bind,
    encodeFramePrefix, ← responseMetadata, htext, ok_bind, refuse, if_pos (.inl hlong)]
  rfl

/-- **Two tokens whose texts fill a frame do not reach the runner.** -/
theorem verification_too_large :
    ∃ piece output rows,
      sampledRows sampleLlamaConfig (sampleEngine [piece, piece]) 0 2 0 () = (.ok rows, ()) ∧
      rows.length = 2 ∧ (rows.flatMap Sampled.text).length < 2 ^ 32 ∧
      outputForRows sampleLlamaConfig (sampleEngine [piece, piece]) 0 2 () = (.ok output, ()) ∧
      encodeStageResponse (Json.compact isValidUtf8)
        (toStageResponse sampleStageRequest output 0 {}) =
          .error (str "stagewire frame is too large") := by
  -- The piece is only known by its length, so that nothing evaluates it.
  obtain ⟨piece, hlength, hascii⟩ : ∃ piece : Bytes, piece.length = maxMetadataBytes ∧
      (piece ++ piece).all (· ≤ 0x7f) = true :=
    ⟨List.replicate maxMetadataBytes 97, List.length_replicate, by simp⟩
  have hmax : maxMetadataBytes = 1048576 := rfl
  have hrows : sampledRows sampleLlamaConfig (sampleEngine [piece, piece]) 0 2 0 () =
      (.ok [⟨0, piece, false⟩, ⟨1, piece, false⟩], ()) := by rfl
  have hmessage : [(⟨0, piece, false⟩ : Sampled), ⟨1, piece, false⟩].flatMap Sampled.text =
      piece ++ piece := by simp
  refine ⟨piece, _, _, hrows, rfl, ?_, outputForRows_eq (by decide) hrows, ?_⟩
  · rw [hmessage, List.length_append]
    omega
  · generalize hresponse : toStageResponse sampleStageRequest
      (verificationOutput [⟨0, piece, false⟩, ⟨1, piece, false⟩]) 0 {} = response
    have htext : response.message = piece ++ piece := by rw [← hresponse, ← hmessage]; rfl
    have hvalid : isValidUtf8 response.message = true := by
      rw [htext]
      exact isValidUtf8_of_ascii hascii
    have hlong := length_message_le hvalid (by
      rw [htext]
      exact List.ne_nil_of_length_pos (by rw [List.length_append]; omega))
    rw [htext, List.length_append] at hlong
    have hutf8 : response.Utf8 := hresponse ▸ verificationResponse_utf8 sampleStageRequest_utf8
    have hoperation : response.operation = str "execute" := by rw [← hresponse]; rfl
    refine encodeStageResponse_tooLarge (by rw [hoperation]; rfl) (by rw [← hresponse]; rfl) ?_
      (by rw [← hresponse]; rfl) (if_pos (written_frameValues responseOrder
        (writtenField_responseValues hutf8 ?_) _ _)) (by omega)
    · rw [← hresponse]
      exact @validateTensorMetadata_tokens 2 8 (by decide) (by decide) (by decide)
    · rw [hoperation]
      exact isValidUtf8_of_ascii (by decide)

end JetsonFabric
