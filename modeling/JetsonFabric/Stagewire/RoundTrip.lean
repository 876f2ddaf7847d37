import JetsonFabric.Protocol.RoundTrip
import JetsonFabric.Stagewire.Frame

/-!
# The Go codec gives back what it was given

A frame is normalised before it is written, and only the defaults of its telemetry are filled in
again when it is read; the two agree on every frame that is written at all.
-/

namespace JetsonFabric.Stagewire

open Checks Framing

/-! ## Values of the Go types -/

/-- The numbers of the metadata are of their types. -/
structure Metadata.Typed (m : Metadata) : Prop where
  decodeStep : IsInt64 m.decodeStep
  stageIndex : IsInt64 m.stageIndex
  stageCount : IsInt64 m.stageCount
  layerStart : IsInt64 m.layerStart
  layerEnd : IsInt64 m.layerEnd
  shape : ∀ dim ∈ m.shape, IsInt64 dim
  payloadBytes : IsInt64 m.payloadBytes
  maxTokens : IsInt64 m.maxTokens
  rollbackTokens : IsInt64 m.rollbackTokens
  bytesIn : IsInt64 m.bytesIn
  bytesOut : IsInt64 m.bytesOut
  promptTokens : IsInt64 m.promptTokens
  completionTokens : IsInt64 m.completionTokens
  executionBatchSize : IsInt64 m.executionBatchSize
  verificationWidth : IsInt64 m.verificationWidth
  latencyMs : IsInt64 m.latencyMs
  executionUs : IsInt64 m.executionUs
  activationDecodeUs : IsInt64 m.activationDecodeUs
  activationEncodeUs : IsInt64 m.activationEncodeUs
  stageTotalUs : IsInt64 m.stageTotalUs
  messageBytes : ∀ value ∈ m.messageBytes, IsInt64 value

/-- The strings of the metadata are text. -/
structure Metadata.Utf8 (m : Metadata) : Prop where
  operation : isValidUtf8 m.operation = true
  sessionId : isValidUtf8 m.sessionId = true
  requestId : isValidUtf8 m.requestId = true
  modelId : isValidUtf8 m.modelId = true
  deploymentId : isValidUtf8 m.deploymentId = true
  modelSha256 : isValidUtf8 m.modelSha256 = true
  phase : isValidUtf8 m.phase = true
  nodeName : isValidUtf8 m.nodeName = true
  payloadKind : isValidUtf8 m.payloadKind = true
  encoding : isValidUtf8 m.encoding = true
  dtype : isValidUtf8 m.dtype = true
  byteOrder : isValidUtf8 m.byteOrder = true
  layout : isValidUtf8 m.layout = true
  transport : isValidUtf8 m.transport = true
  error : isValidUtf8 m.error = true
  message : isValidUtf8 m.message = true

/-! ## Metadata -/

/-- The metadata is read back. -/
theorem metadataOfValues_metadataValues {m : Metadata} (h : m.Typed) :
    metadataOfValues (metadataValues m) = .ok m := by
  rw [metadataOfValues]
  simp only [routeOfValues, goString, goInt, goUint, metadataValues, ok_bind,
    fieldOf_some, stringOfJson_string, uint16OfJson, fieldOf_omitDefault (stringOfJson_string _),
    fieldOf_omitDefault (uint64OfJson _), int64OfJson_int h.decodeStep,
    int64OfJson_int h.stageIndex, int64OfJson_int h.stageCount, int64OfJson_int h.layerStart,
    int64OfJson_int h.layerEnd]
  simp only [payloadOfValues, goString, goInt, goUint, goInts, metadataValues, ok_bind,
    fieldOf_some, stringOfJson_string, fieldOf_omitDefault (stringOfJson_string _), uint32OfJson,
    fieldOf_omitDefault (listOfJson_intArray h.shape), int64OfJson_int h.payloadBytes,
    fieldOf_omitDefault (int64OfJson_int h.maxTokens),
    fieldOf_omitDefault (int64OfJson_int h.rollbackTokens)]
  simp only [answerOfValues, goString, goInt, goUint32s, goInts, metadataValues, ok_bind,
    fieldOf_omitDefault (stringOfJson_string _), fieldOf_omitDefault (listOfJson_u32Array _),
    fieldOf_omitDefault (int64OfJson_int h.bytesIn),
    fieldOf_omitDefault (int64OfJson_int h.bytesOut),
    fieldOf_omitDefault (int64OfJson_int h.promptTokens),
    fieldOf_omitDefault (int64OfJson_int h.completionTokens),
    fieldOf_omitDefault (int64OfJson_int h.executionBatchSize),
    fieldOf_omitDefault (int64OfJson_int h.verificationWidth),
    fieldOf_omitDefault (int64OfJson_int h.latencyMs),
    fieldOf_omitDefault (int64OfJson_int h.executionUs),
    fieldOf_omitDefault (int64OfJson_int h.activationDecodeUs),
    fieldOf_omitDefault (int64OfJson_int h.activationEncodeUs),
    fieldOf_omitDefault (int64OfJson_int h.stageTotalUs),
    fieldOf_omitDefault (listOfJson_intArray h.messageBytes)]

theorem foldName_name (field : MetadataField) : foldName field.name = field.name := by
  have hnames : (MetadataField.all.all fun field => foldName field.name == field.name) = true := by
    decide
  simpa using List.all_eq_true.1 hnames field (MetadataField.mem_all field)

/-- The object that a writer makes of the metadata. -/
def metadataJson (m : Metadata) : List (Bytes × Json) :=
  Json.record MetadataField.name MetadataField.all (metadataValues m)

theorem findField_metadataJson (m : Metadata) : findField (metadataJson m) = metadataValues m :=
  findField_record MetadataField.all_nodup MetadataField.mem_all _

theorem decodeMetadata_record {order : List MetadataField} (hnodup : order.Nodup)
    (hcomplete : ∀ field, field ∈ order) (values : MetadataValues) :
    decodeMetadata (.object (Json.record MetadataField.name order values)) =
      metadataOfValues values := by
  have hfold : (Json.record MetadataField.name order values).map
      (fun entry => (foldName entry.1, entry.2)) =
        Json.record MetadataField.name order values := by
    refine (List.map_congr_left fun entry hentry => ?_).trans (List.map_id _)
    obtain ⟨field, -, value, -, rfl⟩ := (Json.mem_record MetadataField.name).1 hentry
    rw [foldName_name, id]
  have hknown : ((Json.record MetadataField.name order values).find? fun entry =>
      MetadataField.all.all (·.name ≠ entry.1)) = none := by
    rw [List.find?_eq_none]
    intro entry hentry
    obtain ⟨field, -, value, -, rfl⟩ := (Json.mem_record MetadataField.name).1 hentry
    simp only [List.all_eq_true, decide_eq_true_eq, not_forall, not_not]
    exact ⟨field, MetadataField.mem_all field, rfl⟩
  simp only [decodeMetadata, hfold, hknown, findField_record hnodup hcomplete]

theorem validateEncodedMaxTokens_metadataJson {m : Metadata} (h : IsInt64 m.maxTokens) :
    validateEncodedMaxTokens (.object (metadataJson m)) = .ok () := by
  simp only [validateEncodedMaxTokens, findField_metadataJson, metadataValues, omitDefault]
  by_cases hzero : m.maxTokens = 0
  · simp [hzero]
  · simp only [if_neg hzero, int64OfJson_int h]
    exact refuse_of_not hzero

theorem writtenField_metadataValues {m : Metadata} (h : m.Utf8) (field : MetadataField) :
    WrittenField (metadataValues m field) := by
  obtain ⟨_, _, _, _, _, _, _, _, _, _, _, _, _, _, _, _⟩ := h
  cases field <;> first
    | exact writtenField_int _
    | exact writtenField_string ‹_›
    | exact writtenField_omitDefault (writtenField_int _)
    | exact writtenField_omitDefault (writtenField_string ‹_›)
    | exact writtenField_omitDefault (writtenField_intArray _)
    | exact writtenField_omitDefault (writtenField_u32Array _)

/-! ## Frames -/

theorem header_eq (metadataLen payloadLen : Nat) :
    header metadataLen payloadLen = frameHeader metadataLen payloadLen := rfl

theorem readFull_append {n : Nat} {what front rest : Bytes} (h : front.length = n) :
    readFull n what (front ++ rest) = .ok (front, rest) := by
  have hlong : ¬ (front ++ rest).length < n := by simp [h]
  rw [readFull, refuse_of_not hlong, ok_bind, List.take_left' h, List.drop_left' h]

theorem header_fields {metadataLen payloadLen : Nat} (hmetadata : metadataLen ≤ maxMetadataBytes)
    (hpayload : payloadLen ≤ maxPayloadBytes) :
    let head := header metadataLen payloadLen
    head.length = headerSize ∧ head.take 4 = magic ∧
      ofBigEndian ((head.drop 4).take 2) = version.toNat ∧
      ofBigEndian ((head.drop 6).take 2) = 0 ∧
      ofBigEndian ((head.drop 8).take 4) = metadataLen ∧
      ofBigEndian ((head.drop 12).take 8) = payloadLen := by
  obtain ⟨hmagic, hversion, hflags⟩ := take_frameHeader metadataLen payloadLen []
  obtain ⟨hm, hp⟩ := Prod.mk.inj (frameLengths_frameHeader hmetadata hpayload)
  rw [List.append_nil] at hmagic hversion hflags
  exact ⟨length_frameHeader metadataLen payloadLen, hmagic, hversion, hflags, hm, hp⟩

theorem readFrame_append {metadata payload : Bytes} (hne : metadata ≠ [])
    (hmetadata : metadata.length ≤ maxMetadataBytes) (hpayload : payload.length ≤ maxPayloadBytes) :
    readFrame (header metadata.length payload.length ++ (metadata ++ payload)) =
      .ok (metadata, payload) := by
  obtain ⟨hlength, hmagic, hversion, hflags, hm, hp⟩ := header_fields hmetadata hpayload
  have hpos : metadata.length ≠ 0 := by simpa using hne
  have hlast : readFull payload.length (str "payload") payload = .ok (payload, []) := by
    have h : readFull payload.length (str "payload") (payload ++ []) = .ok (payload, []) :=
      readFull_append rfl
    rwa [List.append_nil] at h
  rw [readFrame, readFull_append hlength, ok_bind]
  simp only [hm, hp, hversion, hflags]
  rw [refuse_of_not (not_not.2 hmagic), ok_bind, refuse_of_not (not_not.2 rfl), ok_bind,
    refuse_of_not (not_not.2 rfl), ok_bind, refuse_of_not (by omega), ok_bind,
    readFull_append rfl, ok_bind]
  simp only [hlast, ok_bind]
  rw [refuse_of_not (not_not.2 rfl), ok_bind]

theorem readFrame_selfDelimiting :
    SelfDelimiting headerSize
      (fun head => headerSize + ofBigEndian ((head.drop 8).take 4) +
        ofBigEndian ((head.drop 12).take 8))
      (fun data => ∃ parts, readFrame data = .ok parts) := by
  rintro data ⟨parts, h⟩
  simp only [readFrame, readFull, bind_eq_ok, refuse_eq_ok, Except.ok.injEq] at h
  obtain ⟨_, ⟨_, hhead, rfl⟩, _, -, _, -, _, -, _, -, _, ⟨_, hm, rfl⟩, _, ⟨_, hp, rfl⟩, _, hrest,
    -⟩ := h
  simp only [not_not, List.drop_drop, List.drop_eq_nil_iff, List.length_drop] at hrest hm hp
  refine ⟨by omega, ?_⟩
  show data.length = headerSize + ofBigEndian (((data.take headerSize).drop 8).take 4) +
    ofBigEndian (((data.take headerSize).drop 12).take 8)
  omega

theorem unmarshal_selfDelimiting (json : Json.Codec isValidUtf8) :
    SelfDelimiting headerSize
      (fun head => headerSize + ofBigEndian ((head.drop 8).take 4) +
        ofBigEndian ((head.drop 12).take 8))
      (fun data => ∃ frame, unmarshal json data = .ok frame) := by
  refine readFrame_selfDelimiting.mono ?_
  rintro data ⟨frame, h⟩
  obtain ⟨parts, hparts, -⟩ := bind_eq_ok.1 h
  exact ⟨parts, hparts⟩

/-! ## Normal frames -/

theorem normalizeTelemetryDefaults_normalizeFrame (frame : Frame) :
    normalizeTelemetryDefaults (normalizeFrame frame) = normalizeFrame frame := by
  have hbatch : (normalizeFrame frame).executionBatchSize ≠ 0 := by
    simp only [normalizeFrame, normalizeTelemetryDefaults]
    split <;> simp_all
  have hwidth : (normalizeFrame frame).verificationWidth ≠ 0 := by
    simp only [normalizeFrame, normalizeTelemetryDefaults]
    split <;> simp_all
  rw [normalizeTelemetryDefaults, if_neg hbatch, if_neg hwidth]

theorem isInt64_ite {c : Prop} [Decidable c] {n m : Int} (hn : IsInt64 n) (hm : IsInt64 m) :
    IsInt64 (if c then n else m) := by
  split
  · exact hn
  · exact hm

theorem normalizeFrame_typed {frame : Frame} (h : frame.Typed)
    (hpayload : frame.payload.length ≤ maxPayloadBytes) : (normalizeFrame frame).Typed where
  decodeStep := h.decodeStep
  stageIndex := h.stageIndex
  stageCount := h.stageCount
  layerStart := h.layerStart
  layerEnd := h.layerEnd
  shape := h.shape
  payloadBytes := isInt64_natCast (lt_of_le_of_lt hpayload (by decide))
  maxTokens := isInt64_ite ⟨by decide, by decide⟩ h.maxTokens
  rollbackTokens := h.rollbackTokens
  bytesIn := h.bytesIn
  bytesOut := h.bytesOut
  promptTokens := h.promptTokens
  completionTokens := h.completionTokens
  executionBatchSize := isInt64_ite ⟨by decide, by decide⟩ h.executionBatchSize
  verificationWidth := isInt64_ite ⟨by decide, by decide⟩ h.verificationWidth
  latencyMs := h.latencyMs
  executionUs := h.executionUs
  activationDecodeUs := h.activationDecodeUs
  activationEncodeUs := h.activationEncodeUs
  stageTotalUs := h.stageTotalUs
  messageBytes := h.messageBytes

theorem isValidUtf8_ite {c : Prop} [Decidable c] {s t : Bytes} (hs : isValidUtf8 s = true)
    (ht : isValidUtf8 t = true) : isValidUtf8 (if c then s else t) = true := by
  split
  · exact hs
  · exact ht

theorem normalizeFrame_utf8 {frame : Frame} (h : frame.Utf8) : (normalizeFrame frame).Utf8 where
  operation := isValidUtf8_ite (isValidUtf8_of_ascii (by decide)) h.operation
  sessionId := h.sessionId
  requestId := h.requestId
  modelId := h.modelId
  deploymentId := h.deploymentId
  modelSha256 := h.modelSha256
  phase := isValidUtf8_ite (isValidUtf8_ite (isValidUtf8_of_ascii (by decide))
    (isValidUtf8_of_ascii (by decide))) h.phase
  nodeName := h.nodeName
  payloadKind := h.payloadKind
  encoding := isValidUtf8_ite (isValidUtf8_of_ascii (by decide)) h.encoding
  dtype := h.dtype
  byteOrder := isValidUtf8_ite (isValidUtf8_of_ascii (by decide)) h.byteOrder
  layout := isValidUtf8_ite (isValidUtf8_of_ascii (by decide)) h.layout
  transport := show isValidUtf8 transport = true from isValidUtf8_of_ascii (by decide)
  error := h.error
  message := h.message

/-! ## Whole frames -/

section Frames

variable {json reader : Json.Codec isValidUtf8} {frame : Frame} {data : Bytes}

/-- What a frame that was written looks like to a reader. -/
theorem marshal_parse (hreads : reader.Reads json) (hutf8 : frame.Utf8)
    (h : marshal json frame = .ok data) :
    validate (normalizeFrame frame) = .ok () ∧ frame.payload.length ≤ maxPayloadBytes ∧
      ∃ metadata, data = header metadata.length frame.payload.length ++
          (metadata ++ frame.payload) ∧
        metadata ≠ [] ∧ metadata.length ≤ maxMetadataBytes ∧
        reader.parse metadata = .ok (.object (metadataJson (normalizeFrame frame).toMetadata)) := by
  obtain ⟨_, hvalid, h⟩ := bind_eq_ok.1 h
  dsimp only at h
  split at h
  · rename_i metadata hdump
    rw [ok_bind] at h
    obtain ⟨_, hsize, h⟩ := bind_eq_ok.1 h
    cases h
    rw [refuse_eq_ok] at hsize
    change ¬ (metadata.length > maxMetadataBytes ∨ frame.payload.length > maxPayloadBytes) at hsize
    have hwritten : Json.Written isValidUtf8
        (.object (metadataJson (normalizeFrame frame).toMetadata)) :=
      Json.written_record MetadataField.isValidUtf8_name
        (writtenField_metadataValues (normalizeFrame_utf8 hutf8))
    exact ⟨hvalid, by omega, metadata, List.append_assoc _ _ _, json.dump_ne_nil _ _ hdump,
      by omega, hreads _ _ hwritten hdump⟩
  · cases h

/-- A frame with a right header: the checks come last. -/
theorem unmarshal_append {text payload : Bytes} {order : List MetadataField}
    {values : MetadataValues} {m : Metadata} (hne : text ≠ [])
    (hmetadata : text.length ≤ maxMetadataBytes) (hpayload : payload.length ≤ maxPayloadBytes)
    (hparse : reader.parse text = .ok (.object (Json.record MetadataField.name order values)))
    (hnodup : order.Nodup) (hcomplete : ∀ field, field ∈ order)
    (hread : metadataOfValues values = .ok m) (hversion : m.protocolVersion = version)
    (htokens : validateEncodedMaxTokens
      (.object (Json.record MetadataField.name order values)) = .ok ()) :
    unmarshal reader (header text.length payload.length ++ (text ++ payload)) =
      validate (normalizeTelemetryDefaults { toMetadata := m, payload }) >>= fun _ =>
        .ok (normalizeTelemetryDefaults { toMetadata := m, payload }) := by
  rw [unmarshal, readFrame_append hne hmetadata hpayload, ok_bind]
  simp only [hparse, ok_bind, decodeMetadata_record hnodup hcomplete, hread, htokens]
  rw [refuse_of_not (not_not.2 hversion), ok_bind]

end Frames

/-- **A frame that is written is read back**, and nothing longer or shorter is. -/
theorem unmarshal_marshal (json : Json.Codec isValidUtf8) {frame : Frame} {data : Bytes}
    (htyped : frame.Typed) (hutf8 : frame.Utf8) (h : marshal json frame = .ok data) :
    unmarshal json data = .ok (normalizeFrame frame) ∧
      ∀ other, (other <+: data ∨ data <+: other) → other ≠ data →
        ∃ e, unmarshal json other = .error e := by
  obtain ⟨hvalid, hpayload, metadata, rfl, hne, hmetadata, hparse⟩ :=
    marshal_parse json.parse_dump hutf8 h
  have hnormal := normalizeFrame_typed htyped hpayload
  have hframe : normalizeTelemetryDefaults
      { toMetadata := (normalizeFrame frame).toMetadata, payload := frame.payload } =
        normalizeFrame frame := normalizeTelemetryDefaults_normalizeFrame frame
  have hread : unmarshal json (header metadata.length frame.payload.length ++
      (metadata ++ frame.payload)) = .ok (normalizeFrame frame) := by
    rw [unmarshal_append hne hmetadata hpayload hparse MetadataField.all_nodup
      MetadataField.mem_all (metadataOfValues_metadataValues hnormal) rfl
      (validateEncodedMaxTokens_metadataJson hnormal.maxTokens), hframe, hvalid, ok_bind]
  exact ⟨hread, fun other hextends hother =>
    (unmarshal_selfDelimiting json).error_of_extends hread hextends hother⟩

/-- A request as a coordinator makes it, with the defaults left out. -/
def sampleFrame : Frame :=
  { sessionId := str "s", requestId := str "r", modelId := str "m", stageCount := 1, layerEnd := 1
    payloadKind := str "text", payload := str "hi" }

theorem unmarshal_marshal_sample :
    ∃ data, marshal (Json.compact isValidUtf8) sampleFrame = .ok data ∧
      unmarshal (Json.compact isValidUtf8) data = .ok (normalizeFrame sampleFrame) := by
  obtain ⟨data, hdata⟩ : ∃ data, marshal (Json.compact isValidUtf8) sampleFrame = .ok data :=
    exists_of_toBool (by decide +kernel)
  refine ⟨data, hdata, (unmarshal_marshal _ ?_ ?_ hdata).1⟩
  · constructor <;> simp [sampleFrame, IsInt64]
  · constructor <;> exact isValidUtf8_of_ascii (by decide +kernel)

end JetsonFabric.Stagewire
