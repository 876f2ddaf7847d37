import JetsonFabric.Lib.JsonText
import JetsonFabric.Protocol.StageCodec

/-!
# The stage codec gives back what it was given

Encoding leaves fields out at their default, writes a message in one of two ways and sets the
fields of the frame; decoding undoes all of it, on every message whose numbers are of their types
and whose strings are text.
-/

namespace JetsonFabric

open Checks Framing

/-! ## Requests -/

variable {text : Bytes} {request : StageRequest}

section

variable {field : MetadataField} {c : Prop} [Decidable c]

theorem extractString_ite (h : ¬ c → text = []) :
    extractString (if c then some (.string text) else none) field [] = .ok text := by
  split
  · rfl
  · rw [h ‹_›]
    rfl

theorem extractU64_ite {n : UInt64} (h : ¬ c → n = 0) :
    extractU64 (if c then some (u64Json n) else none) field 0 = .ok n := by
  split
  · exact extractU64_int n
  · rw [h ‹_›]
    rfl

end

/-- An identity without a deployment is empty. -/
theorem validateDeploymentIdentity_nil {deploymentId modelSha256 : Bytes} {epoch : UInt64}
    (h : validateDeploymentIdentity deploymentId epoch modelSha256 = .ok ())
    (hid : deploymentId = []) : epoch = 0 ∧ modelSha256 = [] := by
  unfold validateDeploymentIdentity at h
  split at h
  · rename_i hempty
    exact hempty.2
  · obtain ⟨_, hmissing, -⟩ := bind_eq_ok.1 h
    rw [refuse_eq_ok] at hmissing
    exact absurd (.inl hid) hmissing

theorem requestOfValues_requestValues (htyped : request.Typed) (operation : Bytes)
    (htokens : validateMaxTokens request.maxTokens = .ok request.maxTokens)
    (htensor : validateTensorMetadata request.payloadKind request.encoding request.dtype
      request.shape request.byteOrder request.layout request.payload.length = .ok ())
    (hidentity : validateDeploymentIdentity request.deploymentId request.deploymentEpoch
      request.modelSha256 = .ok ()) :
    requestOfValues (frameValues (requestValues request operation) request.payload
      (crc32 request.payload)) request.payload = .ok request := by
  have hversion : IsInt32 stageWireVersion := ⟨by decide, by decide⟩
  have hepoch : ¬ request.deploymentId ≠ [] → request.deploymentEpoch = 0 := fun h =>
    (validateDeploymentIdentity_nil hidentity (not_not.1 h)).1
  have hsha : ¬ request.deploymentId ≠ [] → request.modelSha256 = [] := fun h =>
    (validateDeploymentIdentity_nil hidentity (not_not.1 h)).2
  simp only [requestOfValues, frameValues, requestValues, ok_bind,
    extractInt_int hversion, extractString_string, extractString_ite not_not.1,
    extractU64_ite hepoch, extractString_ite hsha, hidentity,
    extractInt_int htyped.decodeStep, extractInt_int htyped.stageIndex,
    extractInt_int htyped.stageCount, extractInt_int htyped.layerStart,
    extractInt_int htyped.layerEnd, extractString_omitDefault,
    extractShape_omitDefault htyped.shape, extractInt_int htyped.maxTokens, htokens,
    extractInt_omitDefault htyped.rollbackTokens, htensor]


/-! ## Written metadata -/

variable {operation : Bytes} {response : StageResponse}

/-- A field is left out or has a value that the library takes. -/
def WrittenField (value : Option Json) : Prop := ∀ v, value = some v → v.Written isValidUtf8

theorem writtenField_none : WrittenField none := fun _ h => by cases h

theorem writtenField_int (n : Int) : WrittenField (some (.int n)) := by
  rintro _ ⟨⟩
  trivial

theorem writtenField_string (h : isValidUtf8 text = true) :
    WrittenField (some (.string text)) := by
  rintro _ ⟨⟩
  exact h

theorem writtenField_omitDefault {α : Type} [DecidableEq α] {default value : α} {write : α → Json}
    (h : WrittenField (some (write value))) : WrittenField (omitDefault default value write) := by
  unfold omitDefault
  split
  · exact writtenField_none
  · exact h

theorem writtenField_ite {c : Prop} [Decidable c] {value other : Option Json}
    (h : c → WrittenField value) (h' : ¬ c → WrittenField other) :
    WrittenField (if c then value else other) := by
  split
  · exact h ‹_›
  · exact h' ‹_›

theorem written_array_int {α : Type} (number : α → Int) (items : List α) :
    (Json.array (items.map fun item => .int (number item))).Written isValidUtf8 := by
  rw [Json.Written, Json.writtenItems_iff]
  intro item hitem
  obtain ⟨n, -, rfl⟩ := List.mem_map.1 hitem
  trivial

theorem writtenField_intArray (items : List Int) : WrittenField (some (intArray items)) := by
  rintro _ ⟨⟩
  exact written_array_int id items

theorem writtenField_u32Array (items : List UInt32) : WrittenField (some (u32Array items)) := by
  rintro _ ⟨⟩
  exact written_array_int (fun item => (item.toNat : Int)) items

theorem writtenField_byteArray (items : Bytes) : WrittenField (some (byteArray items)) := by
  rintro _ ⟨⟩
  exact written_array_int (fun item => (item.toNat : Int)) items

theorem writtenField_requestValues (h : request.Utf8)
    (hoperation : isValidUtf8 operation = true) (field : MetadataField) :
    WrittenField (requestValues request operation field) := by
  obtain ⟨_, _, _, _, _, _, _, _, _, _, _, _⟩ := h
  have htransport : isValidUtf8 stageWireTransport = true := isValidUtf8_of_ascii (by decide)
  cases field <;> first
    | exact writtenField_none
    | exact writtenField_int _
    | exact writtenField_string ‹_›
    | exact writtenField_omitDefault (writtenField_int _)
    | exact writtenField_omitDefault (writtenField_string ‹_›)
    | exact writtenField_omitDefault (writtenField_intArray _)
    | exact writtenField_ite (fun _ => writtenField_string ‹_›) fun _ => writtenField_none
    | exact writtenField_ite (fun _ => writtenField_int _) fun _ => writtenField_none

theorem writtenField_responseValues (h : response.Utf8)
    (hoperation : isValidUtf8 response.operation = true) (field : MetadataField) :
    WrittenField (responseValues response field) := by
  obtain ⟨_, _, _, _, _, _, _, _, _, _, _, _, _⟩ := h
  have htransport : isValidUtf8 stageWireTransport = true := isValidUtf8_of_ascii (by decide)
  cases field <;> first
    | exact writtenField_none
    | exact writtenField_int _
    | exact writtenField_string ‹_›
    | exact writtenField_omitDefault (writtenField_int _)
    | exact writtenField_omitDefault (writtenField_string ‹_›)
    | exact writtenField_omitDefault (writtenField_intArray _)
    | exact writtenField_omitDefault (writtenField_u32Array _)
    | exact writtenField_omitDefault (writtenField_byteArray _)
    | exact writtenField_ite (fun _ => writtenField_string ‹_›) fun _ => writtenField_none
    | exact writtenField_ite (fun _ => writtenField_int _) fun _ => writtenField_none
    | exact writtenField_ite (fun h => writtenField_omitDefault (writtenField_string h))
        fun _ => writtenField_none
    | exact writtenField_ite (fun _ => writtenField_none)
        fun _ => writtenField_omitDefault (writtenField_byteArray _)

theorem isValidUtf8_operation
    (h : validateStageOperationName operation = .ok ()) : isValidUtf8 operation = true := by
  rw [validateStageOperationName, refuse_eq_ok] at h
  have hnames : ([stageOperationExecute, stageOperationCloseSession,
      stageOperationRollbackSession].all fun name => name.all (· ≤ 0x7f)) = true := by
    decide
  have hmem : operation ∈ [stageOperationExecute, stageOperationCloseSession,
      stageOperationRollbackSession] := by
    simp only [List.mem_cons, List.not_mem_nil, or_false]
    tauto
  exact isValidUtf8_of_ascii (List.all_eq_true.1 hnames operation hmem)

/-! ## Responses -/

theorem extractMessage_responseValues (response : StageResponse) (payload : Bytes) (c : UInt32) :
    extractMessage (frameValues (responseValues response) payload c) = .ok response.message := by
  simp only [extractMessage, frameValues, responseValues]
  by_cases hutf8 : isValidUtf8 response.message = true
  · have hnone : extractByteString none .messageBytes = .ok [] := rfl
    simp only [if_pos hutf8, hnone, ok_bind, if_true, extractString_omitDefault]
  · have hne : response.message ≠ [] := by
      intro hnil
      rw [hnil] at hutf8
      exact hutf8 (isValidUtf8_of_ascii rfl)
    simp only [if_neg hutf8, extractByteString_byteArray, ok_bind, if_neg hne]

theorem responseOfValues_responseValues (htyped : response.Typed)
    (heog : ∀ flag ∈ response.tokenEog, flag ≤ 1)
    (hname : validateStageOperationName response.operation = .ok ())
    (hwidths : validateWidths response.executionBatchSize response.verificationWidth = .ok ())
    (htensor : validateResponsePayload response = .ok ())
    (hidentity : validateDeploymentIdentity response.deploymentId response.deploymentEpoch
      response.modelSha256 = .ok ()) :
    responseOfValues (frameValues (responseValues response) response.payload
      (crc32 response.payload)) response.payload = .ok response := by
  have hversion : IsInt32 stageWireVersion := ⟨by decide, by decide⟩
  have htokenEog : extractUnsignedArray (omitDefault [] response.tokenEog byteArray) .tokenEog 1
      UInt8.ofNat = .ok response.tokenEog := by
    refine extractUnsignedArray_byteArray (by decide) fun flag hflag => ?_
    exact_mod_cast UInt8.le_iff_toNat_le.1 (heog flag hflag)
  have hepoch : ¬ response.deploymentId ≠ [] → response.deploymentEpoch = 0 := fun h =>
    (validateDeploymentIdentity_nil hidentity (not_not.1 h)).1
  have hsha : ¬ response.deploymentId ≠ [] → response.modelSha256 = [] := fun h =>
    (validateDeploymentIdentity_nil hidentity (not_not.1 h)).2
  have hmessage := extractMessage_responseValues response response.payload (crc32 response.payload)
  simp only [responseOfValues, hmessage]
  simp only [frameValues, responseValues, ok_bind,
    extractInt_int hversion, extractString_string, extractString_ite not_not.1,
    extractU64_ite hepoch, extractString_ite hsha, hidentity, hname,
    extractInt_int htyped.decodeStep, extractInt_int htyped.stageIndex,
    extractInt_int htyped.stageCount, extractInt_int htyped.layerStart,
    extractInt_int htyped.layerEnd, extractString_omitDefault,
    extractShape_omitDefault htyped.shape, extractInt64_omitDefault htyped.bytesIn,
    extractInt64_omitDefault htyped.bytesOut, extractInt_omitDefault htyped.promptTokens,
    extractUnsignedArray_u32Array, extractInt_omitDefault htyped.completionTokens,
    extractInt_omitDefault htyped.executionBatchSize,
    extractInt_omitDefault htyped.verificationWidth, hwidths,
    extractInt_omitDefault htyped.latencyMs, extractInt64_omitDefault htyped.executionUs,
    extractInt64_omitDefault htyped.activationDecodeUs,
    extractInt64_omitDefault htyped.activationEncodeUs,
    extractInt64_omitDefault htyped.stageTotalUs, htokenEog]
  rw [htensor, ok_bind]

/-! ## Frames -/

variable {frame : Bytes}

variable {json : Json.Codec isValidUtf8}

theorem decodeStageOperation_append {payload : Bytes} {metadata : Json} (htext : text ≠ [])
    (hmetadata : text.length ≤ maxMetadataBytes) (hpayload : payload.length ≤ maxPayloadBytes)
    (hparse : json.parse text = .ok metadata) :
    decodeStageOperation json (frameHeader text.length payload.length ++ (text ++ payload)) =
      operationOfJson metadata := by
  have hlength := length_frameHeader text.length payload.length
  have hlengths := frameLengths_frameHeader hmetadata hpayload
  have hpos : text.length ≠ 0 := by simpa using htext
  generalize frameHeader text.length payload.length = header at *
  have hheader : (header ++ (text ++ payload)).take headerSize = header := List.take_left' hlength
  have hslice := slice_append header text payload hlength rfl
  have htotal : (header ++ (text ++ payload)).length =
      headerSize + text.length + payload.length := by
    simp [hlength, Nat.add_assoc]
  simp only [decodeStageOperation, hheader, hlengths, hslice, htotal, hparse, ok_bind]
  rw [refuse_of_not (by omega), ok_bind, refuse_of_not (by omega), ok_bind]

theorem operationOfJson_object {fields : List (Bytes × Json)}
    (hfound : findField fields .operation = some (.string operation))
    (hname : validateStageOperationName operation = .ok ()) :
    operationOfJson (.object fields) = .ok operation := by
  simp only [operationOfJson, hfound, optionalField, hname, ok_bind]

theorem responseOrder_nodup : responseOrder.Nodup := by decide

theorem mem_responseOrder (field : MetadataField) : field ∈ responseOrder := by
  cases field <;> decide

/-- Nothing that goes on from a frame or stops short of it is decoded. -/
def FrameExact (json : Json.Codec isValidUtf8) (frame : Bytes) : Prop :=
  ∀ other, (other <+: frame ∨ frame <+: other) → other ≠ frame →
    ∃ e, decodeFrame json other = .error e

theorem frameExact_of_decodeFrame {decoded : DecodedFrame}
    (h : decodeFrame json frame = .ok decoded) : FrameExact json frame :=
  fun _ hextends hne => decodeFrame_selfDelimiting.error_of_extends h hextends hne

/-- An encoded request, with its metadata as a reader finds it. -/
theorem encodeStageRequest_roundTrip (htyped : request.Typed) (hutf8 : request.Utf8)
    (h : encodeStageRequest json request operation = .ok frame) :
    decodeStageOperation json frame = .ok operation ∧
      decodeStageRequest json frame = .ok request ∧ FrameExact json frame := by
  have hreads : json.Reads json := json.parse_dump
  obtain ⟨_, hoperation, h⟩ := bind_eq_ok.1 h
  obtain ⟨tokens, htokens, h⟩ := bind_eq_ok.1 h
  obtain ⟨_, htensor, h⟩ := bind_eq_ok.1 h
  obtain ⟨_, hidentity, h⟩ := bind_eq_ok.1 h
  obtain ⟨front, hfront, h⟩ := bind_eq_ok.1 h
  cases h
  obtain ⟨_, hname, -⟩ := bind_eq_ok.1 hoperation
  have hsame : tokens = request.maxTokens := by
    obtain ⟨_, -, hvalue⟩ := bind_eq_ok.1 htokens
    cases hvalue
    rfl
  rw [hsame] at htokens
  have hwritten := writtenField_requestValues hutf8 (isValidUtf8_operation hname)
  have hdecoded := decodeFrame_encodeFramePrefix hreads MetadataField.all_nodup
    MetadataField.mem_all hwritten hfront
  refine ⟨?_, ?_, frameExact_of_decodeFrame hdecoded⟩
  · obtain ⟨text, rfl, htext, hmetadata, hpayload, hparse⟩ :=
      encodeFramePrefix_parse hreads hwritten hfront
    rw [List.append_assoc, decodeStageOperation_append htext hmetadata hpayload hparse]
    refine operationOfJson_object ?_ hname
    rw [findField_record MetadataField.all_nodup MetadataField.mem_all]
    rfl
  · rw [decodeStageRequest, hdecoded, ok_bind]
    exact requestOfValues_requestValues htyped operation htokens htensor hidentity

theorem encodeStageResponse_roundTrip (htyped : response.Typed) (hutf8 : response.Utf8)
    (heog : ∀ flag ∈ response.tokenEog, flag ≤ 1)
    (h : encodeStageResponse json response = .ok frame) :
    decodeStageResponse json frame = .ok response ∧ FrameExact json frame := by
  have hreads : json.Reads json := json.parse_dump
  obtain ⟨_, hname, h⟩ := bind_eq_ok.1 h
  obtain ⟨_, hwidths, h⟩ := bind_eq_ok.1 h
  obtain ⟨_, htensor, h⟩ := bind_eq_ok.1 h
  obtain ⟨_, hidentity, h⟩ := bind_eq_ok.1 h
  obtain ⟨front, hfront, h⟩ := bind_eq_ok.1 h
  cases h
  have hwritten := writtenField_responseValues hutf8 (isValidUtf8_operation hname)
  have hdecoded := decodeFrame_encodeFramePrefix hreads responseOrder_nodup mem_responseOrder
    hwritten hfront
  refine ⟨?_, frameExact_of_decodeFrame hdecoded⟩
  rw [decodeStageResponse, hdecoded, ok_bind]
  exact responseOfValues_responseValues htyped heog hname hwidths htensor hidentity

/-- **Encoded stage messages decode to themselves**, and their frames are exact. -/
theorem stageMessages_roundTrip (json : Json.Codec isValidUtf8) :
    (∀ (request : StageRequest) (operation frame : Bytes), request.Typed → request.Utf8 →
      encodeStageRequest json request operation = .ok frame →
        decodeStageOperation json frame = .ok operation ∧
          decodeStageRequest json frame = .ok request ∧ FrameExact json frame) ∧
    (∀ (response : StageResponse) (frame : Bytes), response.Typed → response.Utf8 →
      (∀ flag ∈ response.tokenEog, flag ≤ 1) →
      encodeStageResponse json response = .ok frame →
        decodeStageResponse json frame = .ok response ∧ FrameExact json frame) :=
  ⟨fun _ _ _ => encodeStageRequest_roundTrip, fun _ _ => encodeStageResponse_roundTrip⟩

/-- A managed prefill request. -/
def sampleStageRequest : StageRequest :=
  { sessionId := str "session", requestId := str "request", modelId := str "model"
    deploymentId := str "deployment", deploymentEpoch := 7, modelSha256 := List.replicate 64 97
    nodeName := str "node", layerEnd := 4, payload := str "Hello" }

/-- A failure whose message is no text. -/
def sampleStageResponse : StageResponse :=
  { sessionId := str "session", requestId := str "request", modelId := str "model"
    nodeName := str "node", layerEnd := 4, error := str "stage_failed", message := [255, 254] }

theorem sampleStageRequest_typed : sampleStageRequest.Typed := by
  constructor <;> first
    | exact ⟨by decide, by decide⟩
    | exact fun _ h => by cases h

theorem sampleStageRequest_utf8 : sampleStageRequest.Utf8 := by constructor <;> decide +kernel

theorem sampleStageResponse_typed : sampleStageResponse.Typed := by
  constructor <;> first
    | exact ⟨by decide, by decide⟩
    | exact fun _ h => by cases h

theorem sampleStageResponse_utf8 : sampleStageResponse.Utf8 := by constructor <;> decide +kernel

theorem stageMessages_roundTrip_sample :
    (∃ frame, encodeStageRequest (Json.compact isValidUtf8) sampleStageRequest
        stageOperationExecute = .ok frame ∧
      decodeStageRequest (Json.compact isValidUtf8) frame = .ok sampleStageRequest) ∧
    (∃ frame, encodeStageResponse (Json.compact isValidUtf8) sampleStageResponse = .ok frame ∧
      decodeStageResponse (Json.compact isValidUtf8) frame = .ok sampleStageResponse) := by
  have hall := stageMessages_roundTrip (Json.compact isValidUtf8)
  obtain ⟨frame, hframe⟩ := exists_of_toBool
    (show (encodeStageRequest (Json.compact isValidUtf8) sampleStageRequest
      stageOperationExecute).toBool = true by decide +kernel)
  obtain ⟨answer, hanswer⟩ := exists_of_toBool
    (show (encodeStageResponse (Json.compact isValidUtf8) sampleStageResponse).toBool = true by
      decide +kernel)
  have hrequest := hall.1 _ _ frame sampleStageRequest_typed sampleStageRequest_utf8 hframe
  have hresponse := hall.2 _ answer sampleStageResponse_typed sampleStageResponse_utf8
    (fun _ h => by cases h) hanswer
  exact ⟨⟨frame, hframe, hrequest.2.1⟩, ⟨answer, hanswer, hresponse.1⟩⟩

end JetsonFabric
