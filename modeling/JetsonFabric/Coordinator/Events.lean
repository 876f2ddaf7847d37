import JetsonFabric.GoJson
import JetsonFabric.Protocol.Generation
import JetsonFabric.Protocol.RoundTrip

/-!
# The events of a generation, as the coordinator reads them

`coordinator/generation_events.go`: the consumer of the stream that a runtime answers with. The
stream is the list of its JSON texts. A token extends what was received; the done event is checked
against it, and against the number of stages.
-/

namespace JetsonFabric

open Checks

/-! ## Events in Go -/

structure GenerationEvent where
  type : Bytes := []
  token : Option UInt32 := none
  text : Bytes := []
  index : Int := 0
  finishReason : Bytes := []
  promptTokens : Int := 0
  completionTokens : Int := 0
  sampledTokens : List UInt32 := []
  stageCalls : Int := 0
  remoteStageCalls : Int := 0
  rollbackStageCalls : Int := 0
  remoteRollbackStageCalls : Int := 0
  rollbackStageUs : Int := 0
  rollbackRemoteCallUs : Int := 0
  bytesIn : Int := 0
  bytesOut : Int := 0
  stageTimings : List GenerationStageTiming := []
  targetDecodePasses : Int := 0
  speculativeDraftTokens : Int := 0
  speculativeAcceptedTokens : Int := 0
  code : Bytes := []
  message : Bytes := []
  deriving DecidableEq

/-- A field of the totals of a stage that is an integer of the given type. -/
def timingInt (goType : Bytes) (found : TimingField → Option Json) (field : TimingField) :
    Except Bytes Int :=
  fieldOf 0 (int64OfJson goType (str "StageTiming." ++ field.name)) (found field)

/-- The totals of a stage from their fields. -/
def timingOfValues (found : TimingField → Option Json) : Except Bytes GenerationStageTiming := do
  let phase ← fieldOf [] (stringOfJson (str "StageTiming.phase")) (found .phase)
  let stageIndex ← timingInt (str "int") found .stageIndex
  let nodeName ← fieldOf [] (stringOfJson (str "StageTiming.node_name")) (found .nodeName)
  let remote ← fieldOf false (boolOfJson (str "StageTiming.remote")) (found .remote)
  let calls ← timingInt (str "int") found .calls
  let batchItems ← timingInt (str "int") found .batchItems
  let maxExecutionBatchSize ← timingInt (str "int") found .maxExecutionBatchSize
  let verificationItems ← timingInt (str "int") found .verificationItems
  let maxVerificationWidth ← timingInt (str "int") found .maxVerificationWidth
  let executionUs ← timingInt (str "int64") found .executionUs
  let activationDecodeUs ← timingInt (str "int64") found .activationDecodeUs
  let activationEncodeUs ← timingInt (str "int64") found .activationEncodeUs
  let stageTotalUs ← timingInt (str "int64") found .stageTotalUs
  let remoteCallUs ← timingInt (str "int64") found .remoteCallUs
  let remoteOverheadUs ← timingInt (str "int64") found .remoteOverheadUs
  let bytesIn ← timingInt (str "int64") found .bytesIn
  let bytesOut ← timingInt (str "int64") found .bytesOut
  .ok { phase, stageIndex, nodeName, remote, calls, batchItems, maxExecutionBatchSize
        verificationItems, maxVerificationWidth, executionUs, activationDecodeUs
        activationEncodeUs, stageTotalUs, remoteCallUs, remoteOverheadUs, bytesIn, bytesOut }

/-- The totals of a stage. -/
def timingOfJson : Json → Except Bytes GenerationStageTiming
  | .null => timingOfValues fun _ => none
  | .object entries => timingOfValues (findFolded timingSchema entries)
  | value => .error (unmarshalTypeError value (str "GenerationEvent.stage_timings")
      (str "chat.StageTiming"))

/-- The place of a field in an error. -/
def eventPlace (field : EventField) : Bytes := str "GenerationEvent." ++ field.name

/-- A field of an event that is an integer of the given type. -/
def eventInt (goType : Bytes) (found : EventField → Option Json) (field : EventField) :
    Except Bytes Int :=
  fieldOf 0 (int64OfJson goType (eventPlace field)) (found field)

/-- A field that is a string. -/
def eventString (found : EventField → Option Json) (field : EventField) : Except Bytes Bytes :=
  fieldOf [] (stringOfJson (eventPlace field)) (found field)

/-- A list of tokens, or of anything else, in an event. -/
def eventList {α : Type} (goType : Bytes) (item : Json → Except Bytes α)
    (found : EventField → Option Json) (field : EventField) : Except Bytes (List α) :=
  fieldOf [] (listOfJson goType (eventPlace field) item) (found field)

/-- The fields of a token event. -/
def tokenOfValues (found : EventField → Option Json) : Except Bytes GenerationEvent := do
  let type ← eventString found .type
  let token ← fieldOf none (pointerOfJson
    (unsignedOfJson 32 UInt32.ofNat (str "uint32") (eventPlace .token))) (found .token)
  let text ← eventString found .text
  let index ← eventInt (str "int") found .index
  .ok { type, token, text, index }

/-- The fields of a done event that count calls. -/
def callsOfValues (found : EventField → Option Json) (event : GenerationEvent) :
    Except Bytes GenerationEvent := do
  let stageCalls ← eventInt (str "int") found .stageCalls
  let remoteStageCalls ← eventInt (str "int") found .remoteStageCalls
  let rollbackStageCalls ← eventInt (str "int") found .rollbackStageCalls
  let remoteRollbackStageCalls ← eventInt (str "int") found .remoteRollbackStageCalls
  let rollbackStageUs ← eventInt (str "int64") found .rollbackStageUs
  let rollbackRemoteCallUs ← eventInt (str "int64") found .rollbackRemoteCallUs
  let bytesIn ← eventInt (str "int64") found .bytesIn
  let bytesOut ← eventInt (str "int64") found .bytesOut
  let stageTimings ← eventList (str "[]chat.StageTiming") timingOfJson found .stageTimings
  .ok { event with
        stageCalls, remoteStageCalls, rollbackStageCalls, remoteRollbackStageCalls, rollbackStageUs
        rollbackRemoteCallUs, bytesIn, bytesOut, stageTimings }

/-- The fields of a done event. -/
def doneOfValues (found : EventField → Option Json) (event : GenerationEvent) :
    Except Bytes GenerationEvent := do
  let finishReason ← eventString found .finishReason
  let promptTokens ← eventInt (str "int") found .promptTokens
  let completionTokens ← eventInt (str "int") found .completionTokens
  let sampledTokens ← eventList (str "[]uint32")
    (unsignedOfJson 32 UInt32.ofNat (str "uint32") (eventPlace .sampledTokens)) found .sampledTokens
  let event ← callsOfValues found event
  let targetDecodePasses ← eventInt (str "int") found .targetDecodePasses
  let speculativeDraftTokens ← eventInt (str "int") found .speculativeDraftTokens
  let speculativeAcceptedTokens ← eventInt (str "int") found .speculativeAcceptedTokens
  .ok { event with
        finishReason, promptTokens, completionTokens, sampledTokens, targetDecodePasses
        speculativeDraftTokens, speculativeAcceptedTokens }

/-- An event from its fields. -/
def eventOfValues (found : EventField → Option Json) : Except Bytes GenerationEvent := do
  let event ← tokenOfValues found
  let event ← doneOfValues found event
  let code ← eventString found .code
  let message ← eventString found .message
  .ok { event with code, message }

/-- An event of the stream. -/
def eventOfJson : Json → Except Bytes GenerationEvent
  | .null => .ok {}
  | .object entries => eventOfValues (findFolded eventSchema entries)
  | value => .error (unmarshalTypeError value [] (str "runtimebridge.GenerationEvent"))

variable (json : Json.Codec isValidUtf8)

/-- One event of the stream. -/
def decodeGenerationEvent (text : Bytes) : Except Bytes GenerationEvent :=
  match json.parse text >>= eventOfJson with
  | .ok event => .ok event
  | .error e => .error (str "decode runtime generation event: " ++ e)

/-! ## The consumer -/

structure RuntimeGenerationResult where
  generatedText : Bytes := []
  sampledTokens : List UInt32 := []
  finishReason : Bytes := []
  promptTokens : Int := 0
  completionTokens : Int := 0
  stageCalls : Int := 0
  remoteStageCalls : Int := 0
  rollbackStageCalls : Int := 0
  remoteRollbackStageCalls : Int := 0
  rollbackStageUs : Int := 0
  rollbackRemoteCallUs : Int := 0
  bytesIn : Int := 0
  bytesOut : Int := 0
  stageTimings : List GenerationStageTiming := []
  targetDecodePasses : Int := 0
  speculativeDraftTokens : Int := 0
  speculativeAcceptedTokens : Int := 0
  deriving DecidableEq

/-- A consumer; a plan has a stage, so the stage count is not zero. -/
structure GenerationEventConsumer where
  expectedStages : Nat
  result : RuntimeGenerationResult := {}
  deriving DecidableEq

/-- The first index at which the sampled tokens differ. -/
def sampledMismatch : Nat → List UInt32 → List UInt32 → Option Nat
  | index, token :: tokens, received :: rest =>
    if token ≠ received then some index else sampledMismatch (index + 1) tokens rest
  | _, _, _ => none

namespace GenerationEventConsumer

variable (c : GenerationEventConsumer) (event : GenerationEvent)

/-- A token event. -/
def acceptToken : Except Bytes GenerationEventConsumer :=
  match event.token with
  | none =>
    .error (str "runtime emitted an invalid token event at index " ++ decimal event.index)
  | some token => do
    refuse (event.index ≠ c.result.sampledTokens.length)
      (str "runtime emitted an invalid token event at index " ++ decimal event.index)
    .ok { c with result :=
          { c.result with
            sampledTokens := c.result.sampledTokens ++ [token]
            generatedText := c.result.generatedText ++ event.text } }

/-- The passes of a run, as the done event tells them. -/
def passes : Int :=
  if event.targetDecodePasses = 0 then
    c.result.sampledTokens.length + if event.finishReason = str "stop" then 1 else 0
  else wrap64 (1 + event.targetDecodePasses)

/-- The calls of all passes. -/
def expectedCalls : Int := wrap64 (c.passes event * c.expectedStages)

/-- The calls to other stages. -/
def expectedRemoteCalls : Int := wrap64 (c.passes event * (c.expectedStages - 1))

/-- The rollbacks of other stages. -/
def expectedRemoteRollbacks : Int :=
  wrap64 (event.rollbackStageCalls.tdiv c.expectedStages * (c.expectedStages - 1))

/-- The tokens of the done event are those received. -/
def checkSampledTokens : Except Bytes Unit := do
  refuse (event.sampledTokens.length ≠ c.result.sampledTokens.length)
    (str "runtime done event sampled-token count does not match token events")
  match sampledMismatch 0 event.sampledTokens c.result.sampledTokens with
  | some index => .error (str "runtime done event sampled token " ++ decimal index ++
      str " does not match token stream")
  | none => .ok ()

/-- The checks of a done event. -/
def checkDone : Except Bytes Unit := do
  refuse (event.finishReason ≠ str "stop" ∧ event.finishReason ≠ str "length")
    (str "runtime emitted invalid finish_reason " ++ quote event.finishReason)
  c.checkSampledTokens event
  refuse (event.promptTokens < 0)
    (str "runtime emitted invalid prompt token count " ++ decimal event.promptTokens)
  refuse (event.completionTokens ≠ c.result.sampledTokens.length)
    (str "runtime completion token count was " ++ decimal event.completionTokens ++
      str ", want " ++ decimal c.result.sampledTokens.length)
  refuse (event.stageCalls ≠ c.expectedCalls event ∨
      event.remoteStageCalls ≠ c.expectedRemoteCalls event)
    (str "runtime stage call accounting was stage_calls=" ++ decimal event.stageCalls ++
      str " remote_stage_calls=" ++ decimal event.remoteStageCalls ++ str ", want " ++
      decimal (c.expectedCalls event) ++ str " and " ++ decimal (c.expectedRemoteCalls event))
  refuse (event.rollbackStageCalls.tmod c.expectedStages ≠ 0)
    (str "runtime rollback stage calls=" ++ decimal event.rollbackStageCalls ++
      str " is not divisible by stage count " ++ decimal c.expectedStages)
  refuse (event.remoteRollbackStageCalls ≠ c.expectedRemoteRollbacks event)
    (str "runtime remote rollback stage calls=" ++ decimal event.remoteRollbackStageCalls ++
      str ", want " ++ decimal (c.expectedRemoteRollbacks event))

/-- The totals of a done event, next to the tokens received. -/
def complete : GenerationEventConsumer :=
  { c with
    result :=
      { c.result with
        finishReason := event.finishReason
        promptTokens := event.promptTokens
        completionTokens := event.completionTokens
        stageCalls := event.stageCalls
        remoteStageCalls := event.remoteStageCalls
        rollbackStageCalls := event.rollbackStageCalls
        remoteRollbackStageCalls := event.remoteRollbackStageCalls
        rollbackStageUs := event.rollbackStageUs
        rollbackRemoteCallUs := event.rollbackRemoteCallUs
        bytesIn := event.bytesIn
        bytesOut := event.bytesOut
        stageTimings := event.stageTimings
        targetDecodePasses := event.targetDecodePasses
        speculativeDraftTokens := event.speculativeDraftTokens
        speculativeAcceptedTokens := event.speculativeAcceptedTokens } }

/-- One event: whether it was the last one, and the consumer after it. -/
def accept : Except Bytes (Bool × GenerationEventConsumer) :=
  if event.type = str "token" then do
    let next ← c.acceptToken event
    .ok (false, next)
  else if event.type = str "done" then do
    c.checkDone event
    .ok (true, c.complete event)
  else if event.type = str "error" then .error (event.code ++ str ": " ++ event.message)
  else .error (str "runtime emitted unknown generation event type " ++ quote event.type)

end GenerationEventConsumer

/-- What is done with the tokens as they arrive. -/
abbrev OnToken : Type := GenerationEvent → Except Bytes Unit

/-- Hand a token event to the callback, when there is one. -/
def notifyToken (onToken : Option OnToken) (event : GenerationEvent) : Except Bytes Unit :=
  match onToken with
  | some callback => if event.type = str "token" then callback event else .ok ()
  | none => .ok ()

/-- The result after the stream, and the error that ended it. -/
def consumeDecodedGenerationEvents (onToken : Option OnToken) :
    GenerationEventConsumer → List Bytes → RuntimeGenerationResult × Option Bytes
  | c, [] => (c.result, some (str "runtime generation stream ended before a done event"))
  | c, text :: stream =>
    match decodeGenerationEvent json text with
    | .error e => (c.result, some e)
    | .ok event =>
      match c.accept event with
      | .error e => (c.result, some e)
      | .ok (done, next) =>
        match notifyToken onToken event with
        | .error e => (next.result, some e)
        | .ok () =>
          if done then (next.result, none)
          else consumeDecodedGenerationEvents onToken next stream

/-- `consumeGenerationEvents`. -/
def consumeGenerationEvents (stream : List Bytes) (expectedStages : Nat)
    (onToken : Option OnToken) : RuntimeGenerationResult × Option Bytes :=
  consumeDecodedGenerationEvents json onToken { expectedStages } stream

/-! ## Reading the events of a runtime -/

variable {r : GenerationResult} {token : GenerationToken} {t : GenerationStageTiming}

/-- Every number is one of its C++ type. -/
@[mk_iff]
structure GenerationStageTiming.Typed (t : GenerationStageTiming) : Prop where
  stageIndex : IsInt32 t.stageIndex
  calls : IsInt32 t.calls
  batchItems : IsInt32 t.batchItems
  maxExecutionBatchSize : IsInt32 t.maxExecutionBatchSize
  verificationItems : IsInt32 t.verificationItems
  maxVerificationWidth : IsInt32 t.maxVerificationWidth
  executionUs : IsInt64 t.executionUs
  activationDecodeUs : IsInt64 t.activationDecodeUs
  activationEncodeUs : IsInt64 t.activationEncodeUs
  stageTotalUs : IsInt64 t.stageTotalUs
  remoteCallUs : IsInt64 t.remoteCallUs
  remoteOverheadUs : IsInt64 t.remoteOverheadUs
  bytesIn : IsInt64 t.bytesIn
  bytesOut : IsInt64 t.bytesOut

/-- Every number is one of its C++ type. -/
@[mk_iff]
structure GenerationResult.Typed (r : GenerationResult) : Prop where
  promptTokens : IsInt32 r.promptTokens
  completionTokens : IsInt32 r.completionTokens
  stageCalls : IsInt32 r.stageCalls
  remoteStageCalls : IsInt32 r.remoteStageCalls
  rollbackStageCalls : IsInt32 r.rollbackStageCalls
  remoteRollbackStageCalls : IsInt32 r.remoteRollbackStageCalls
  rollbackStageUs : IsInt64 r.rollbackStageUs
  rollbackRemoteCallUs : IsInt64 r.rollbackRemoteCallUs
  bytesIn : IsInt64 r.bytesIn
  bytesOut : IsInt64 r.bytesOut
  stageTimings : ∀ t ∈ r.stageTimings, t.Typed
  targetDecodePasses : IsInt32 r.targetDecodePasses
  speculativeDraftTokens : IsInt32 r.speculativeDraftTokens
  speculativeAcceptedTokens : IsInt32 r.speculativeAcceptedTokens

instance (n : Int) : Decidable (IsInt32 n) := inferInstanceAs (Decidable (_ ∧ _))

instance (n : Int) : Decidable (IsInt64 n) := inferInstanceAs (Decidable (_ ∧ _))

instance (t : GenerationStageTiming) : Decidable t.Typed :=
  decidable_of_iff' _ (GenerationStageTiming.typed_iff t)

instance (r : GenerationResult) : Decidable r.Typed :=
  decidable_of_iff' _ (GenerationResult.typed_iff r)

theorem timingInt_some {goType : Bytes} {found : TimingField → Option Json} {field : TimingField}
    {n : Int} (hfound : found field = some (.int n)) (h : IsInt64 n) :
    timingInt goType found field = .ok n := by
  rw [timingInt, hfound, fieldOf_some, int64OfJson_int h]

theorem eventInt_some {goType : Bytes} {found : EventField → Option Json} {field : EventField}
    {n : Int} (hfound : found field = some (.int n)) (h : IsInt64 n) :
    eventInt goType found field = .ok n := by
  rw [eventInt, hfound, fieldOf_some, int64OfJson_int h]

theorem eventString_some {found : EventField → Option Json} {field : EventField} {text : Bytes}
    (hfound : found field = some (.string text)) : eventString found field = .ok text := by
  rw [eventString, hfound, fieldOf_some, stringOfJson_string]

theorem timingOfValues_timingValues (h : t.Typed) :
    timingOfValues (timingValues t) = .ok t := by
  unfold timingOfValues
  rw [timingInt_some rfl h.stageIndex.isInt64, timingInt_some rfl h.calls.isInt64,
    timingInt_some rfl h.batchItems.isInt64, timingInt_some rfl h.maxExecutionBatchSize.isInt64,
    timingInt_some rfl h.verificationItems.isInt64,
    timingInt_some rfl h.maxVerificationWidth.isInt64, timingInt_some rfl h.executionUs,
    timingInt_some rfl h.activationDecodeUs, timingInt_some rfl h.activationEncodeUs,
    timingInt_some rfl h.stageTotalUs, timingInt_some rfl h.remoteCallUs,
    timingInt_some rfl h.remoteOverheadUs, timingInt_some rfl h.bytesIn,
    timingInt_some rfl h.bytesOut]
  rfl

theorem foldName_timing (field : TimingField) :
    foldName (timingSchema.name field) = timingSchema.name field := by
  cases field <;> decide +kernel

theorem foldName_event (field : EventField) :
    foldName (eventSchema.name field) = eventSchema.name field := by
  cases field <;> decide +kernel

theorem timingOfJson_timingJson (h : t.Typed) :
    timingOfJson (timingJson t) = .ok t := by
  rw [timingJson, timingOfJson, findFolded_entries foldName_timing, timingOfValues_timingValues h]

/-- A token event in Go. -/
def GenerationToken.event (token : GenerationToken) : GenerationEvent :=
  { type := str "token", token := some token.token, text := token.text, index := token.index }

theorem eventOfValues_token (h : IsInt64 token.index) :
    eventOfValues (tokenEventValues token) = .ok token.event := by
  have htoken : pointerOfJson (unsignedOfJson 32 UInt32.ofNat (str "uint32") (eventPlace .token))
      (.int token.token.toNat) = .ok (some token.token) := by
    rw [pointerOfJson, uint32OfJson, ok_bind]
    exact fun hnull => by cases hnull
  have hread : tokenOfValues (tokenEventValues token) = .ok token.event := by
    unfold tokenOfValues
    rw [eventString_some rfl, eventString_some rfl, eventInt_some rfl h]
    simp only [tokenEventValues, fieldOf_some, htoken, ok_bind]
    rfl
  rw [eventOfValues, hread]
  rfl

/-- A done event in Go. -/
def GenerationResult.event (r : GenerationResult) : GenerationEvent :=
  { type := str "done"
    finishReason := r.finishReason
    promptTokens := r.promptTokens
    completionTokens := r.completionTokens
    sampledTokens := r.sampledTokens
    stageCalls := r.stageCalls
    remoteStageCalls := r.remoteStageCalls
    rollbackStageCalls := r.rollbackStageCalls
    remoteRollbackStageCalls := r.remoteRollbackStageCalls
    rollbackStageUs := r.rollbackStageUs
    rollbackRemoteCallUs := r.rollbackRemoteCallUs
    bytesIn := r.bytesIn
    bytesOut := r.bytesOut
    stageTimings := r.stageTimings
    targetDecodePasses := r.targetDecodePasses
    speculativeDraftTokens := r.speculativeDraftTokens
    speculativeAcceptedTokens := r.speculativeAcceptedTokens }

theorem callsOfValues_done (h : r.Typed) (event : GenerationEvent) :
    callsOfValues (doneEventValues r) event = .ok
      { event with
        stageCalls := r.stageCalls
        remoteStageCalls := r.remoteStageCalls
        rollbackStageCalls := r.rollbackStageCalls
        remoteRollbackStageCalls := r.remoteRollbackStageCalls
        rollbackStageUs := r.rollbackStageUs
        rollbackRemoteCallUs := r.rollbackRemoteCallUs
        bytesIn := r.bytesIn
        bytesOut := r.bytesOut
        stageTimings := r.stageTimings } := by
  have htimings : eventList (str "[]chat.StageTiming") timingOfJson (doneEventValues r)
      .stageTimings = .ok r.stageTimings :=
    mapM_map_ok fun t ht => timingOfJson_timingJson (h.stageTimings t ht)
  unfold callsOfValues
  rw [eventInt_some rfl h.stageCalls.isInt64, eventInt_some rfl h.remoteStageCalls.isInt64,
    eventInt_some rfl h.rollbackStageCalls.isInt64,
    eventInt_some rfl h.remoteRollbackStageCalls.isInt64,
    eventInt_some rfl h.rollbackStageUs, eventInt_some rfl h.rollbackRemoteCallUs,
    eventInt_some rfl h.bytesIn, eventInt_some rfl h.bytesOut, htimings]
  rfl

theorem eventOfValues_done (h : r.Typed) :
    eventOfValues (doneEventValues r) = .ok r.event := by
  have htokens : eventList (str "[]uint32")
      (unsignedOfJson 32 UInt32.ofNat (str "uint32") (eventPlace .sampledTokens))
      (doneEventValues r) .sampledTokens = .ok r.sampledTokens := by
    show fieldOf [] _ (some (u32Array r.sampledTokens)) = _
    rw [fieldOf_some, listOfJson_u32Array]
  have hfirst : tokenOfValues (doneEventValues r) = .ok { type := str "done" } := rfl
  have hread : doneOfValues (doneEventValues r) { type := str "done" } = .ok r.event := by
    unfold doneOfValues
    rw [eventString_some rfl, eventInt_some rfl h.promptTokens.isInt64,
      eventInt_some rfl h.completionTokens.isInt64, htokens, callsOfValues_done h,
      eventInt_some rfl h.targetDecodePasses.isInt64,
      eventInt_some rfl h.speculativeDraftTokens.isInt64,
      eventInt_some rfl h.speculativeAcceptedTokens.isInt64]
    rfl
  rw [eventOfValues, hfirst, ok_bind, hread]
  rfl

/-- The strings of a result are text. -/
structure GenerationResult.Utf8 (r : GenerationResult) : Prop where
  finishReason : isValidUtf8 r.finishReason = true
  stageTimings : ∀ t ∈ r.stageTimings, isValidUtf8 t.phase = true ∧ isValidUtf8 t.nodeName = true

theorem written_timingJson (hphase : isValidUtf8 t.phase = true)
    (hname : isValidUtf8 t.nodeName = true) : (timingJson t).Written isValidUtf8 := by
  refine timingSchema.written_entries fun field v hv => ?_
  cases field <;> cases hv <;> first | exact hphase | exact hname | exact trivial

theorem written_tokenEvent (htext : isValidUtf8 token.text = true) :
    (Json.object (eventSchema.entries (tokenEventValues token))).Written isValidUtf8 := by
  refine eventSchema.written_entries fun field v hv => ?_
  have htype : isValidUtf8 (str "token") = true := by decide +kernel
  cases field <;> cases hv <;> first | exact htext | exact htype | exact trivial

theorem written_doneEvent (h : r.Utf8) :
    (Json.object (eventSchema.entries (doneEventValues r))).Written isValidUtf8 := by
  refine eventSchema.written_entries fun field v hv => ?_
  have htype : isValidUtf8 (str "done") = true := by decide +kernel
  have hsampled := writtenField_u32Array r.sampledTokens _ rfl
  have htimings : (Json.array (r.stageTimings.map timingJson)).Written isValidUtf8 := by
    refine Json.writtenItems_iff.2 fun item hitem => ?_
    obtain ⟨t, ht, rfl⟩ := List.mem_map.1 hitem
    exact written_timingJson (h.stageTimings t ht).1 (h.stageTimings t ht).2
  cases field <;> cases hv <;>
    first | exact h.finishReason | exact htype | exact hsampled | exact htimings | exact trivial

section Stream

variable {go cpp : Json.Codec isValidUtf8} (hreads : go.Reads cpp)
include hreads

theorem decode_tokenEvent (hindex : IsInt64 token.index) (htext : isValidUtf8 token.text = true) :
    ∃ text, encodeGenerationTokenEvent cpp token = .ok text ∧
      decodeGenerationEvent go text = .ok token.event := by
  obtain ⟨text, hdump⟩ := cpp.dump_written _ (written_tokenEvent htext)
  have hparse := hreads _ _ (written_tokenEvent htext) hdump
  refine ⟨text, hdump, ?_⟩
  rw [decodeGenerationEvent, hparse, ok_bind, eventOfJson, findFolded_entries foldName_event,
    eventOfValues_token hindex]

theorem decode_doneEvent (htyped : r.Typed) (hutf8 : r.Utf8) :
    ∃ text, encodeGenerationDoneEvent cpp r = .ok text ∧
      decodeGenerationEvent go text = .ok r.event := by
  obtain ⟨text, hdump⟩ := cpp.dump_written _ (written_doneEvent hutf8)
  have hparse := hreads _ _ (written_doneEvent hutf8) hdump
  refine ⟨text, hdump, ?_⟩
  rw [decodeGenerationEvent, hparse, ok_bind, eventOfJson, findFolded_entries foldName_event,
    eventOfValues_done htyped]

end Stream

/-! ## The stream of a run -/

/-- Tokens numbered from `start` on. -/
def Numbered : Nat → List GenerationToken → Prop
  | _, [] => True
  | start, token :: tokens => token.index = start ∧ Numbered (start + 1) tokens

theorem numbered_snoc {start : Nat} {tokens : List GenerationToken}
    (h : Numbered start tokens) (htoken : token.index = (start + tokens.length : Nat)) :
    Numbered start (tokens ++ [token]) := by
  induction tokens generalizing start with
  | nil => exact ⟨htoken, trivial⟩
  | cons first tokens ih =>
    refine ⟨h.1, ih h.2 ?_⟩
    rw [htoken, List.length_cons]
    push_cast
    ring

/-- The callback takes every token. -/
def TakesAll (onToken : Option OnToken) : Prop :=
  ∀ callback, onToken = some callback → ∀ event, callback event = .ok ()

theorem TakesAll.notifyToken {onToken : Option OnToken} (h : TakesAll onToken)
    (event : GenerationEvent) : notifyToken onToken event = .ok () := by
  cases onToken with
  | none => rfl
  | some callback =>
    show (if _ then callback event else .ok ()) = _
    rw [h callback rfl event, ite_self]

namespace GenerationEventConsumer

/-- The consumer after these tokens. -/
def receive (c : GenerationEventConsumer) (tokens : List GenerationToken) :
    GenerationEventConsumer :=
  { c with
    result :=
      { c.result with
        sampledTokens := c.result.sampledTokens ++ tokens.map (·.token)
        generatedText := c.result.generatedText ++ tokens.flatMap (·.text) } }

theorem receive_nil (c : GenerationEventConsumer) : c.receive [] = c := by
  simp [receive]

theorem receive_cons (c : GenerationEventConsumer) (token : GenerationToken)
    (tokens : List GenerationToken) :
    c.receive (token :: tokens) = (c.receive [token]).receive tokens := by
  simp [receive]

theorem accept_token (c : GenerationEventConsumer)
    (h : token.index = c.result.sampledTokens.length) :
    c.accept token.event = .ok (false, c.receive [token]) := by
  have htoken : c.acceptToken token.event = .ok (c.receive [token]) := by
    show (refuse (token.index ≠ c.result.sampledTokens.length) _ >>= fun _ => _) = _
    rw [refuse_of_not (not_not.2 h), ok_bind, receive, List.flatMap_singleton]
    rfl
  have htype : token.event.type = str "token" := rfl
  rw [accept, if_pos htype, htoken, ok_bind]

theorem accept_done (c : GenerationEventConsumer) (h : c.checkDone r.event = .ok ()) :
    c.accept r.event = .ok (true, c.complete r.event) := by
  have htype : r.event.type = str "done" := rfl
  rw [accept, htype, if_neg (by decide +kernel), if_pos rfl, h, ok_bind]

end GenerationEventConsumer

section Consume

variable {go cpp : Json.Codec isValidUtf8} (hreads : go.Reads cpp) {onToken : Option OnToken}
  (hcallback : TakesAll onToken)
include hreads hcallback

/-- **Numbered tokens with whole texts are received.** -/
theorem consume_tokens {c : GenerationEventConsumer} {tokens : List GenerationToken}
    (hnumbered : Numbered c.result.sampledTokens.length tokens)
    (hindex : ∀ token ∈ tokens, IsInt64 token.index)
    (htext : ∀ token ∈ tokens, isValidUtf8 token.text = true) :
    ∃ texts, tokens.mapM (encodeGenerationTokenEvent cpp) = .ok texts ∧ ∀ rest,
      consumeDecodedGenerationEvents go onToken c (texts ++ rest) =
        consumeDecodedGenerationEvents go onToken (c.receive tokens) rest := by
  induction tokens generalizing c with
  | nil =>
    refine ⟨[], rfl, fun rest => ?_⟩
    rw [c.receive_nil, List.nil_append]
  | cons token tokens ih =>
    obtain ⟨text, hencode, hdecode⟩ := decode_tokenEvent hreads
      (hindex token List.mem_cons_self) (htext token List.mem_cons_self)
    have hlength : (c.receive [token]).result.sampledTokens.length =
        c.result.sampledTokens.length + 1 := by
      simp [GenerationEventConsumer.receive]
    obtain ⟨texts, hmap, hrest⟩ := ih (c := c.receive [token]) (by rw [hlength]; exact hnumbered.2)
      (fun other hother => hindex other (List.mem_cons_of_mem _ hother))
      (fun other hother => htext other (List.mem_cons_of_mem _ hother))
    refine ⟨text :: texts, ?_, fun rest => ?_⟩
    · rw [List.mapM_cons, hencode, ok_bind, hmap, ok_bind]
      rfl
    · rw [List.cons_append, consumeDecodedGenerationEvents]
      simp only [hdecode, c.accept_token hnumbered.1, hcallback.notifyToken]
      rw [if_neg Bool.false_ne_true, hrest, ← c.receive_cons]

/-- **The done event ends the stream**, when its totals are as expected. -/
theorem consume_done {c : GenerationEventConsumer} (htyped : r.Typed)
    (hutf8 : r.Utf8) (hcheck : c.checkDone r.event = .ok ()) :
    ∃ text, encodeGenerationDoneEvent cpp r = .ok text ∧
      consumeDecodedGenerationEvents go onToken c [text] = ((c.complete r.event).result, none) := by
  obtain ⟨text, hencode, hdecode⟩ := decode_doneEvent hreads htyped hutf8
  refine ⟨text, hencode, ?_⟩
  rw [consumeDecodedGenerationEvents]
  simp only [hdecode, c.accept_done hcheck, hcallback.notifyToken, if_true]

end Consume

end JetsonFabric
