import JetsonFabric.Lib.Checks
import JetsonFabric.Lib.Framing
import JetsonFabric.Lib.Json
import JetsonFabric.Protocol.Utf8

/-!
# Stage frames

The frame of `protocol/stage.cpp`: a header of 20 bytes with the lengths of what follows, a JSON
object with the metadata, and the payload. The JSON library is a parameter.
-/

namespace JetsonFabric

open Checks Framing

/-! ## Metadata -/

/-- A field of the metadata of a frame. -/
inductive MetadataField
  | protocolVersion | operation | sessionId | requestId | modelId
  | deploymentId | deploymentEpoch | modelSha256
  | phase | decodeStep | stageIndex | stageCount | nodeName | layerStart | layerEnd
  | payloadKind | encoding | dtype | shape | byteOrder | layout
  | payloadBytes | payloadCrc32 | transport | maxTokens | rollbackTokens
  | bytesIn | bytesOut | promptTokens | promptTokenIds | completionTokens
  | executionBatchSize | verificationWidth | latencyMs
  | executionUs | activationDecodeUs | activationEncodeUs | stageTotalUs
  | tokenTextOffsets | tokenEog | error | message | messageBytes
  deriving DecidableEq

namespace MetadataField

/-- The name of a field on the wire. -/
def name : MetadataField → Bytes
  | protocolVersion => str "protocol_version"
  | operation => str "operation"
  | sessionId => str "session_id"
  | requestId => str "request_id"
  | modelId => str "model_id"
  | deploymentId => str "deployment_id"
  | deploymentEpoch => str "deployment_epoch"
  | modelSha256 => str "model_sha256"
  | phase => str "phase"
  | decodeStep => str "decode_step"
  | stageIndex => str "stage_index"
  | stageCount => str "stage_count"
  | nodeName => str "node_name"
  | layerStart => str "layer_start"
  | layerEnd => str "layer_end"
  | payloadKind => str "payload_kind"
  | encoding => str "encoding"
  | dtype => str "dtype"
  | shape => str "shape"
  | byteOrder => str "byte_order"
  | layout => str "layout"
  | payloadBytes => str "payload_bytes"
  | payloadCrc32 => str "payload_crc32"
  | transport => str "transport"
  | maxTokens => str "max_tokens"
  | rollbackTokens => str "rollback_tokens"
  | bytesIn => str "bytes_in"
  | bytesOut => str "bytes_out"
  | promptTokens => str "prompt_tokens"
  | promptTokenIds => str "prompt_token_ids"
  | completionTokens => str "completion_tokens"
  | executionBatchSize => str "execution_batch_size"
  | verificationWidth => str "verification_width"
  | latencyMs => str "latency_ms"
  | executionUs => str "execution_us"
  | activationDecodeUs => str "activation_decode_us"
  | activationEncodeUs => str "activation_encode_us"
  | stageTotalUs => str "stage_total_us"
  | tokenTextOffsets => str "token_text_offsets"
  | tokenEog => str "token_eog"
  | error => str "error"
  | message => str "message"
  | messageBytes => str "message_bytes"

/-- The fields in the order of the declaration. -/
def all : List MetadataField :=
  [protocolVersion, operation, sessionId, requestId, modelId, deploymentId, deploymentEpoch,
    modelSha256, phase, decodeStep, stageIndex, stageCount, nodeName, layerStart, layerEnd,
    payloadKind, encoding, dtype, shape, byteOrder, layout, payloadBytes, payloadCrc32, transport,
    maxTokens, rollbackTokens, bytesIn, bytesOut, promptTokens, promptTokenIds, completionTokens,
    executionBatchSize, verificationWidth, latencyMs, executionUs, activationDecodeUs,
    activationEncodeUs, stageTotalUs, tokenTextOffsets, tokenEog, error, message, messageBytes]

theorem mem_all (field : MetadataField) : field ∈ all := by cases field <;> decide

theorem all_nodup : all.Nodup := by decide

theorem name_injective : Function.Injective name := by
  have hnames : (all.map name).Nodup := by decide +kernel
  exact fun a b h => List.inj_on_of_nodup_map hnames (mem_all a) (mem_all b) h

theorem isValidUtf8_name (field : MetadataField) : isValidUtf8 field.name = true := by
  have hnames : (all.all fun field => (name field).all (· ≤ 0x7f)) = true := by decide +kernel
  exact isValidUtf8_of_ascii (List.all_eq_true.1 hnames field (mem_all field))

end MetadataField

/-- The value of each field of the metadata, if it has one. -/
abbrev MetadataValues : Type := MetadataField → Option Json

/-- A value that is left out when it is the default. -/
def omitDefault {α : Type} [DecidableEq α] (default value : α) (json : α → Json) : Option Json :=
  if value = default then none else some (json value)

def u64Json (n : UInt64) : Json := .int n.toNat

def intArray (items : List Int) : Json := .array (items.map .int)

def u32Array (items : List UInt32) : Json := .array (items.map fun item => .int item.toNat)

def byteArray (items : Bytes) : Json := .array (items.map fun item => .int item.toNat)

/-- The fields of a JSON object, found by name. -/
def findField (body : List (Bytes × Json)) : MetadataValues := fun field =>
  Json.find? field.name body

variable {order : List MetadataField}

theorem findField_record (hnodup : order.Nodup)
    (hcomplete : ∀ field, field ∈ order) (values : MetadataValues) :
    findField (Json.record MetadataField.name order values) = values := by
  funext field
  exact Json.find?_record MetadataField.name_injective hnodup values (hcomplete field)

/-! ## Reading a field -/

/-- The number that `get<std::int64_t>` makes of a stored integer. -/
def int64Value (n : Int) : Int := Int.bmod n (2 ^ 64)

def jsonInt64Value (value : Json) (field : MetadataField) : Except Bytes Int :=
  match value with
  | .int n => .ok (int64Value n)
  | _ => .error (field.name ++ str " must be an integer")

section Extract

variable (found : Option Json) (field : MetadataField)

/-- The value of a field; an absent one and a null are the same. -/
def optionalField : Option Json → Option Json
  | some .null => none
  | value => value

def extractInt (fallback : Int) : Except Bytes Int :=
  match optionalField found with
  | none => .ok fallback
  | some value => do
    let parsed ← jsonInt64Value value field
    refuse (parsed < -2 ^ 31 ∨ parsed > 2 ^ 31 - 1) (field.name ++ str " is outside int range")
    .ok parsed

def extractInt64 (fallback : Int) : Except Bytes Int :=
  match optionalField found with
  | none => .ok fallback
  | some value => jsonInt64Value value field

def extractU32 (fallback : Int) : Except Bytes UInt32 := do
  let parsed ← extractInt64 found field fallback
  refuse (parsed < 0 ∨ parsed > 2 ^ 32 - 1) (field.name ++ str " is outside uint32 range")
  .ok (UInt32.ofNat parsed.toNat)

/-- A stored integer that is not negative is unsigned. -/
def extractU64 (fallback : UInt64) : Except Bytes UInt64 :=
  match optionalField found with
  | none => .ok fallback
  | some (.int n) =>
    if 0 ≤ n then .ok (UInt64.ofNat n.toNat)
    else .error (field.name ++ str " is outside uint64 range")
  | some _ => .error (field.name ++ str " must be an integer")

def extractString (fallback : Bytes) : Except Bytes Bytes :=
  match optionalField found with
  | none => .ok fallback
  | some (.string text) => .ok text
  | some _ => .error (field.name ++ str " must be a string")

/-- The items of an array, each read by `item`. -/
def extractArray {α : Type} (wrongKind : Bytes) (item : Json → Except Bytes α) :
    Except Bytes (List α) :=
  match optionalField found with
  | none => .ok []
  | some (.array items) => items.mapM item
  | some _ => .error (field.name ++ wrongKind)

def extractByteString : Except Bytes Bytes :=
  extractArray found field (str " must be a byte array") fun value => do
    let byte ← jsonInt64Value value field
    refuse (byte < 0 ∨ byte > 255) (field.name ++ str " contains a value outside byte range")
    .ok (UInt8.ofNat byte.toNat)

def extractUnsignedArray {α : Type} (maximum : Int) (cast : Nat → α) : Except Bytes (List α) :=
  extractArray found field (str " must be an array") fun value => do
    let parsed ← jsonInt64Value value field
    refuse (parsed < 0 ∨ parsed > maximum) (field.name ++ str " contains an out-of-range value")
    .ok (cast parsed.toNat)

def extractShape : Except Bytes (List Int) :=
  extractArray found .shape (str " must be an array") fun value => jsonInt64Value value .shape

end Extract

/-! ### Fields that a writer has set -/

/-- A number of C++ type `int`. -/
def IsInt32 (n : Int) : Prop := -2 ^ 31 ≤ n ∧ n < 2 ^ 31

/-- A number of C++ type `std::int64_t`. -/
def IsInt64 (n : Int) : Prop := -2 ^ 63 ≤ n ∧ n < 2 ^ 63

variable {n fallback : Int} {α : Type}

section Written

variable {field : MetadataField}

theorem IsInt32.isInt64 (h : IsInt32 n) : IsInt64 n := by
  obtain ⟨hlow, hhigh⟩ := h
  exact ⟨by omega, by omega⟩

theorem isInt64_natCast {n : Nat} (h : n < 2 ^ 63) : IsInt64 n := ⟨by omega, by omega⟩

theorem jsonInt64Value_int (h : IsInt64 n) :
    jsonInt64Value (.int n) field = .ok n := by
  obtain ⟨hlow, hhigh⟩ := h
  rw [jsonInt64Value, int64Value, Int.bmod_eq_of_le (by omega) (by omega)]

theorem extractInt_int (h : IsInt32 n) :
    extractInt (some (.int n)) field fallback = .ok n := by
  simp only [extractInt, optionalField, jsonInt64Value_int h.isInt64, ok_bind]
  obtain ⟨hlow, hhigh⟩ := h
  rw [refuse_of_not (by omega), ok_bind]

theorem extractInt_omitDefault (h : IsInt32 n) :
    extractInt (omitDefault fallback n .int) field fallback = .ok n := by
  unfold omitDefault
  split
  · subst_vars
    rfl
  · exact extractInt_int h

theorem extractInt64_int (h : IsInt64 n) :
    extractInt64 (some (.int n)) field fallback = .ok n := by
  simp only [extractInt64, optionalField, jsonInt64Value_int h]

theorem extractInt64_omitDefault (h : IsInt64 n) :
    extractInt64 (omitDefault fallback n .int) field fallback = .ok n := by
  unfold omitDefault
  split
  · subst_vars
    rfl
  · exact extractInt64_int h

theorem extractU32_int (n : UInt32) :
    extractU32 (some (.int n.toNat)) field fallback = .ok n := by
  have hlt := n.toNat_lt
  have hread : extractInt64 (some (.int n.toNat)) field fallback = .ok (n.toNat : Int) :=
    extractInt64_int (isInt64_natCast (by omega))
  rw [extractU32, hread, ok_bind, refuse_of_not (by omega), ok_bind, Int.toNat_natCast,
    UInt32.ofNat_toNat]

theorem extractU64_int (n : UInt64) {fallback : UInt64} :
    extractU64 (some (u64Json n)) field fallback = .ok n := by
  simp [extractU64, optionalField, u64Json]

theorem extractString_string (text : Bytes) {fallback : Bytes} :
    extractString (some (.string text)) field fallback = .ok text := rfl

theorem extractString_omitDefault (text : Bytes) :
    extractString (omitDefault [] text .string) field [] = .ok text := by
  unfold omitDefault
  split
  · subst_vars
    rfl
  · rfl

theorem mapM_map_ok {β : Type} {read : β → Except Bytes α} {write : α → β} {items : List α}
    (h : ∀ item ∈ items, read (write item) = .ok item) :
    (items.map write).mapM read = .ok items := by
  induction items with
  | nil => rfl
  | cons item items ih =>
    rw [List.map_cons, List.mapM_cons, h item List.mem_cons_self, ok_bind,
      ih fun other hother => h other (List.mem_cons_of_mem _ hother)]
    rfl

theorem extractArray_map {wrongKind : Bytes} {read : Json → Except Bytes α}
    {write : α → Json} {items : List α} (h : ∀ item ∈ items, read (write item) = .ok item) :
    extractArray (some (.array (items.map write))) field wrongKind read = .ok items := mapM_map_ok h

theorem extractShape_omitDefault {shape : List Int} (h : ∀ dim ∈ shape, IsInt64 dim) :
    extractShape (omitDefault [] shape intArray) = .ok shape := by
  unfold omitDefault
  split
  · subst_vars
    rfl
  · exact extractArray_map fun dim hdim => jsonInt64Value_int (h dim hdim)

theorem extractUnsignedArray_map {maximum : Int} {cast : Nat → α} {toNat : α → Nat}
    {items : List α} (hcast : ∀ item, cast (toNat item) = item) (hmaximum : maximum < 2 ^ 63)
    (h : ∀ item ∈ items, (toNat item : Int) ≤ maximum) :
    extractUnsignedArray (some (.array (items.map fun item => .int (toNat item)))) field maximum
      cast = .ok items := by
  refine extractArray_map fun item hitem => ?_
  have hle := h item hitem
  have hread : jsonInt64Value (.int (toNat item)) field = .ok (toNat item : Int) :=
    jsonInt64Value_int ⟨by omega, by omega⟩
  rw [hread, ok_bind, refuse_of_not (by omega), ok_bind, Int.toNat_natCast, hcast]

theorem extractUnsignedArray_u32Array (items : List UInt32) :
    extractUnsignedArray (omitDefault [] items u32Array) field (2 ^ 32 - 1) UInt32.ofNat =
      .ok items := by
  unfold omitDefault
  split
  · subst_vars
    rfl
  · refine extractUnsignedArray_map (fun item => UInt32.ofNat_toNat) (by decide) fun item _ => ?_
    have hlt := item.toNat_lt
    omega

theorem extractUnsignedArray_byteArray {items : Bytes} {maximum : Int} (hmaximum : maximum < 2 ^ 63)
    (h : ∀ item ∈ items, (item.toNat : Int) ≤ maximum) :
    extractUnsignedArray (omitDefault [] items byteArray) field maximum UInt8.ofNat =
      .ok items := by
  unfold omitDefault
  split
  · subst_vars
    rfl
  · exact extractUnsignedArray_map (fun item => UInt8.ofNat_toNat) hmaximum h

theorem extractByteString_byteArray (bytes : Bytes) :
    extractByteString (omitDefault [] bytes byteArray) field = .ok bytes := by
  unfold omitDefault
  split
  · subst_vars
    rfl
  · refine extractArray_map fun b _ => ?_
    have hlt := b.toNat_lt
    have hread : jsonInt64Value (.int b.toNat) field = .ok (b.toNat : Int) :=
      jsonInt64Value_int (isInt64_natCast (by omega))
    rw [hread, ok_bind, refuse_of_not (by omega), ok_bind, Int.toNat_natCast, UInt8.ofNat_toNat]

end Written

/-! ## The checksum -/

def crcBit (crc : UInt32) : UInt32 := (crc >>> 1) ^^^ (0xedb88320 &&& (0 - (crc &&& 1)))

/-- CRC-32 of IEEE 802.3. -/
def crc32 (payload : Bytes) : UInt32 :=
  ~~~ payload.foldl (fun crc value => crcBit^[8] (crc ^^^ value.toUInt32)) 0xffffffff

/-! ## Frames -/

def stageWireVersion : Nat := 2

def headerSize : Nat := 20

def maxMetadataBytes : Nat := 2 ^ 20

def maxPayloadBytes : Nat := 512 * 2 ^ 20

def stageWireTransport : Bytes := str "http_binary_v1"

def magic : Bytes := str "JFST"

/-- The header of a frame. -/
def frameHeader (metadataBytes payloadBytes : Nat) : Bytes :=
  magic ++ bigEndian 2 stageWireVersion ++ bigEndian 2 0 ++ bigEndian 4 metadataBytes ++
    bigEndian 8 payloadBytes

variable (json : Json.Codec isValidUtf8)

/-- The metadata with the fields that the frame itself sets. -/
def frameValues (metadata : MetadataValues) (payload : Bytes) (payloadChecksum : UInt32) :
    MetadataValues
  | .protocolVersion => some (.int stageWireVersion)
  | .payloadBytes => some (.int payload.length)
  | .payloadCrc32 => some (.int payloadChecksum.toNat)
  | .transport => some (.string stageWireTransport)
  | field => metadata field

def encodeFramePrefix (order : List MetadataField) (metadata : MetadataValues) (payload : Bytes)
    (payloadChecksum : UInt32) : Except Bytes Bytes := do
  let metadataText ← json.dump (.object (Json.record MetadataField.name order
    (frameValues metadata payload payloadChecksum)))
  refuse (metadataText.length > maxMetadataBytes ∨ payload.length > maxPayloadBytes)
    (str "stagewire frame is too large")
  .ok (frameHeader metadataText.length payload.length ++ metadataText)

/-- The lengths that a header gives. -/
def frameLengths (header : Bytes) : Nat × Nat :=
  (ofBigEndian ((header.drop 8).take 4), ofBigEndian ((header.drop 12).take 8))

/-- The texts of the metadata and of the payload of a frame. -/
def splitFrame (frame : Bytes) : Except Bytes (Bytes × Bytes) := do
  refuse (frame.length < headerSize) (str "truncated stagewire header")
  refuse (frame.take 4 ≠ magic) (str "invalid stagewire magic")
  let version := ofBigEndian ((frame.drop 4).take 2)
  refuse (version ≠ stageWireVersion) (str "unsupported stagewire version: " ++ decimal version)
  refuse (ofBigEndian ((frame.drop 6).take 2) ≠ 0) (str "stagewire flags must be zero")
  let (metadataLength, payloadLength) := frameLengths (frame.take headerSize)
  refuse (metadataLength = 0 ∨ metadataLength > maxMetadataBytes ∨ payloadLength > maxPayloadBytes)
    (str "stagewire frame is too large")
  let expected := headerSize + metadataLength + payloadLength
  refuse (expected ≠ frame.length)
    (if expected > frame.length then str "truncated stagewire frame"
      else str "stagewire frame has trailing data")
  .ok ((frame.drop headerSize).take metadataLength,
    (frame.drop (headerSize + metadataLength)).take payloadLength)

def parseMetadata (text : Bytes) : Except Bytes (List (Bytes × Json)) :=
  match json.parse text with
  | .ok (.object fields) => .ok fields
  | .ok _ => .error (str "stagewire metadata must be a JSON object")
  | .error e => .error (str "stagewire metadata must be valid JSON: " ++ e)

/-- The metadata and the payload of a frame. -/
structure DecodedFrame where
  metadata : MetadataValues
  payload : Bytes

def decodeFrame (frame : Bytes) : Except Bytes DecodedFrame := do
  let (metadataText, payload) ← splitFrame frame
  let body ← parseMetadata json metadataText
  let metadata := findField body
  let protocolVersion ← extractInt (metadata .protocolVersion) .protocolVersion 0
  refuse (protocolVersion ≠ stageWireVersion)
    (str "metadata protocol_version does not match frame version")
  let payloadBytes ← extractInt64 (metadata .payloadBytes) .payloadBytes 0
  refuse (payloadBytes ≠ payload.length) (str "payload_bytes does not match frame payload length")
  let payloadCrc32 ← extractU32 (metadata .payloadCrc32) .payloadCrc32 0
  refuse (payloadCrc32 ≠ crc32 payload) (str "stagewire payload checksum mismatch")
  let transport ← extractString (metadata .transport) .transport []
  refuse (transport ≠ stageWireTransport) (str "invalid stagewire transport")
  .ok { metadata, payload }

/-! ### Reading a frame back -/

variable {payload : Bytes} {metadata : MetadataValues}

theorem length_magic : magic.length = 4 := by decide

theorem length_frameHeader (m n : Nat) : (frameHeader m n).length = headerSize := by
  simp [frameHeader, headerSize, length_magic]

theorem frameLengths_frameHeader {m n : Nat} (hm : m ≤ maxMetadataBytes)
    (hn : n ≤ maxPayloadBytes) : frameLengths (frameHeader m n) = (m, n) := by
  have hm' : m < 256 ^ 4 := lt_of_le_of_lt hm (by decide)
  have hn' : n < 256 ^ 8 := lt_of_le_of_lt hn (by decide)
  have hmetadata : ((frameHeader m n).drop 8).take 4 = bigEndian 4 m := by
    have h := slice_append (magic ++ bigEndian 2 stageWireVersion ++ bigEndian 2 0)
      (bigEndian 4 m) (bigEndian 8 n) (show _ = 8 by simp [length_magic]) (length_bigEndian 4 m)
    simpa [frameHeader] using h
  have hpayload : ((frameHeader m n).drop 12).take 8 = bigEndian 8 n := by
    have h := slice_append (magic ++ bigEndian 2 stageWireVersion ++ bigEndian 2 0 ++ bigEndian 4 m)
      (bigEndian 8 n) [] (show _ = 12 by simp [length_magic]) (length_bigEndian 8 n)
    simpa [frameHeader] using h
  rw [frameLengths, hmetadata, hpayload, ofBigEndian_bigEndian hm', ofBigEndian_bigEndian hn']

/-- The front of a frame, whatever follows its header. -/
theorem take_frameHeader (m n : Nat) (rest : Bytes) :
    (frameHeader m n ++ rest).take 4 = magic ∧
      ofBigEndian (((frameHeader m n ++ rest).drop 4).take 2) = stageWireVersion ∧
      ofBigEndian (((frameHeader m n ++ rest).drop 6).take 2) = 0 := by
  have hversion := slice_append magic (bigEndian 2 stageWireVersion)
    (bigEndian 2 0 ++ bigEndian 4 m ++ bigEndian 8 n ++ rest) length_magic (length_bigEndian _ _)
  have hflags := slice_append (magic ++ bigEndian 2 stageWireVersion) (bigEndian 2 0)
    (bigEndian 4 m ++ bigEndian 8 n ++ rest) (show _ = 6 by simp [length_magic])
    (length_bigEndian _ _)
  refine ⟨?_, ?_, ?_⟩
  · simp [frameHeader, length_magic]
  · rw [← ofBigEndian_bigEndian (show stageWireVersion < 256 ^ 2 by decide), ← hversion]
    simp [frameHeader]
  · rw [← ofBigEndian_bigEndian (show 0 < 256 ^ 2 by decide), ← hflags]
    simp [frameHeader]

/-- The parts of a frame with a right header. -/
theorem splitFrame_append {text : Bytes} (htext : text ≠ [])
    (hmetadata : text.length ≤ maxMetadataBytes) (hpayload : payload.length ≤ maxPayloadBytes) :
    splitFrame (frameHeader text.length payload.length ++ (text ++ payload)) =
      .ok (text, payload) := by
  have hlength := length_frameHeader text.length payload.length
  have hlengths := frameLengths_frameHeader hmetadata hpayload
  obtain ⟨hmagic, hversion, hflags⟩ :=
    take_frameHeader text.length payload.length (text ++ payload)
  have hpos : text.length ≠ 0 := by simpa using htext
  generalize frameHeader text.length payload.length = header at *
  have htotal : (header ++ (text ++ payload)).length =
      headerSize + text.length + payload.length := by
    simp [hlength, Nat.add_assoc]
  have hheader : (header ++ (text ++ payload)).take headerSize = header := List.take_left' hlength
  have hslice := slice_append header text payload hlength rfl
  have hrest : ((header ++ (text ++ payload)).drop (headerSize + text.length)).take
      payload.length = payload := by
    have h := slice_append (header ++ text) payload []
      (show _ = headerSize + text.length by simp [hlength]) rfl
    simpa using h
  simp only [splitFrame, hmagic, hversion, hflags, hheader, hlengths, htotal, hslice, hrest]
  rw [refuse_of_not (by omega), refuse_of_not (by simp), refuse_of_not (by simp),
    refuse_of_not (by simp), refuse_of_not (by omega), refuse_of_not (by simp)]
  rfl

theorem splitFrame_selfDelimiting :
    SelfDelimiting headerSize
      (fun header => headerSize + (frameLengths header).1 + (frameLengths header).2)
      (fun frame => ∃ parts, splitFrame frame = .ok parts) := by
  rintro frame ⟨parts, h⟩
  simp only [splitFrame, bind_eq_ok, refuse_eq_ok] at h
  obtain ⟨_, hlong, _, -, _, -, _, -, _, -, _, hexpected, -⟩ := h
  exact ⟨by omega, by simpa [eq_comm] using hexpected⟩

variable {json}

theorem decodeFrame_selfDelimiting :
    SelfDelimiting headerSize
      (fun header => headerSize + (frameLengths header).1 + (frameLengths header).2)
      (fun frame => ∃ decoded, decodeFrame json frame = .ok decoded) := by
  refine splitFrame_selfDelimiting.mono ?_
  rintro frame ⟨decoded, h⟩
  obtain ⟨parts, hparts, -⟩ := bind_eq_ok.1 h
  exact ⟨parts, hparts⟩

/-- Metadata that agrees with the frame around it. -/
structure FrameFields (values : MetadataValues) (payload : Bytes) : Prop where
  protocolVersion : values .protocolVersion = some (.int stageWireVersion)
  payloadBytes : values .payloadBytes = some (.int payload.length)
  payloadCrc32 : values .payloadCrc32 = some (.int (crc32 payload).toNat)
  transport : values .transport = some (.string stageWireTransport)

/-- **A frame whose metadata agrees with it is decoded.** -/
theorem decodeFrame_append {text : Bytes} {body : List (Bytes × Json)}
    (htext : text ≠ []) (hmetadata : text.length ≤ maxMetadataBytes)
    (hpayload : payload.length ≤ maxPayloadBytes) (hparse : json.parse text = .ok (.object body))
    (hfields : FrameFields (findField body) payload) :
    decodeFrame json (frameHeader text.length payload.length ++ (text ++ payload)) =
      .ok ⟨findField body, payload⟩ := by
  have hversion : IsInt32 stageWireVersion := ⟨by decide, by decide⟩
  have hlength : IsInt64 payload.length :=
    isInt64_natCast (lt_of_le_of_lt hpayload (by decide))
  have hbody : parseMetadata json text = .ok body := by simp only [parseMetadata, hparse]
  rw [decodeFrame, splitFrame_append htext hmetadata hpayload, ok_bind]
  simp only [hbody, ok_bind, hfields.protocolVersion, hfields.payloadBytes, hfields.payloadCrc32,
    hfields.transport, extractInt_int hversion, extractInt64_int hlength, extractU32_int,
    extractString_string]
  rw [refuse_of_not (by simp), ok_bind, refuse_of_not (by simp), ok_bind, refuse_of_not (by simp),
    ok_bind, refuse_of_not (by simp), ok_bind]

theorem frameFields_frameValues (metadata : MetadataValues) (payload : Bytes) :
    FrameFields (frameValues metadata payload (crc32 payload)) payload :=
  ⟨rfl, rfl, rfl, rfl⟩

theorem written_frameValues (order : List MetadataField)
    (hwritten : ∀ field value, metadata field = some value → value.Written isValidUtf8)
    (payload : Bytes) (checksum : UInt32) :
    (Json.object (Json.record MetadataField.name order
      (frameValues metadata payload checksum))).Written isValidUtf8 := by
  refine Json.written_record MetadataField.isValidUtf8_name fun field value hvalue => ?_
  by_cases hset : field = .protocolVersion ∨ field = .payloadBytes ∨ field = .payloadCrc32 ∨
      field = .transport
  · rcases hset with rfl | rfl | rfl | rfl <;> cases hvalue
    · trivial
    · trivial
    · trivial
    · exact isValidUtf8_of_ascii (by decide)
  · refine hwritten field value ?_
    rw [← hvalue]
    cases field <;> simp_all [frameValues]

/-- The text of framed metadata, as a reader parses it. -/
theorem encodeFramePrefix_parse {reader : Json.Codec isValidUtf8} (hreads : reader.Reads json)
    {front : Bytes}
    (hwritten : ∀ field value, metadata field = some value → value.Written isValidUtf8)
    (h : encodeFramePrefix json order metadata payload (crc32 payload) = .ok front) :
    ∃ text, front = frameHeader text.length payload.length ++ text ∧ text ≠ [] ∧
      text.length ≤ maxMetadataBytes ∧ payload.length ≤ maxPayloadBytes ∧
      reader.parse text = .ok (.object (Json.record MetadataField.name order
        (frameValues metadata payload (crc32 payload)))) := by
  obtain ⟨text, hdump, h⟩ := bind_eq_ok.1 h
  obtain ⟨_, hsize, h⟩ := bind_eq_ok.1 h
  cases h
  rw [refuse_eq_ok] at hsize
  exact ⟨text, rfl, json.dump_ne_nil _ _ hdump, by omega, by omega,
    hreads _ text (written_frameValues order hwritten payload _) hdump⟩

/-- **What one side has framed the other one decodes.** -/
theorem decodeFrame_encodeFramePrefix {reader : Json.Codec isValidUtf8} (hreads : reader.Reads json)
    (hnodup : order.Nodup) (hcomplete : ∀ field, field ∈ order)
    {front : Bytes}
    (hwritten : ∀ field value, metadata field = some value → value.Written isValidUtf8)
    (h : encodeFramePrefix json order metadata payload (crc32 payload) = .ok front) :
    decodeFrame reader (front ++ payload) =
      .ok ⟨frameValues metadata payload (crc32 payload), payload⟩ := by
  obtain ⟨text, rfl, htext, hmetadata, hpayload, hparse⟩ :=
    encodeFramePrefix_parse hreads hwritten h
  have hfound := findField_record hnodup hcomplete (frameValues metadata payload (crc32 payload))
  have hfields := frameFields_frameValues metadata payload
  rw [← hfound] at hfields
  have hdecoded := decodeFrame_append htext hmetadata hpayload hparse hfields
  rw [hfound] at hdecoded
  rw [List.append_assoc]
  exact hdecoded

end JetsonFabric
