import JetsonFabric.Inference.Executor
import JetsonFabric.Lib.Stops

/-!
# Sessions of the native engine

`Qwen2Session` of the native engine: the position of a session in its cache and the graphs that it
keeps. What ggml does with a graph is behind `NativeLibrary`: every call may answer anything, change
the state of the library and throw.
-/

namespace JetsonFabric

open Stops

/-! ## Graphs -/

/-- What a session knows of its model and of its layers. -/
structure Qwen2Params where
  contextLength : Nat
  embeddingLength : Nat
  layerCount : Nat
  layerStart : Nat
  layerEnd : Nat
  /-- The decode attention kernel is `Flash`. -/
  decodeFlash : Bool
  deriving DecidableEq

namespace Qwen2Params

variable (params : Qwen2Params)

/-- The session has the first layer. -/
def isFirst : Bool := params.layerStart == 0

/-- The session has the last layer. -/
def isLast : Bool := params.layerEnd == params.layerCount

end Qwen2Params

def flashAttentionKvAlignment : Nat := 256

/-- The slots of a cache; flash attention reads them in aligned pieces. -/
def physicalCacheCapacity (logicalCapacity modelContextLength : Nat) (decodeFlash : Bool) : Nat :=
  if decodeFlash = false then logicalCapacity
  else
    min ((logicalCapacity + flashAttentionKvAlignment - 1) / flashAttentionKvAlignment *
      flashAttentionKvAlignment) modelContextLength

theorem le_physicalCacheCapacity {capacity contextLength : Nat} (h : capacity ≤ contextLength)
    (decodeFlash : Bool) : capacity ≤ physicalCacheCapacity capacity contextLength decodeFlash := by
  unfold physicalCacheCapacity flashAttentionKvAlignment
  split
  · exact le_rfl
  · exact le_min (by omega) h

theorem physicalCacheCapacity_le {capacity contextLength : Nat} (h : capacity ≤ contextLength)
    (decodeFlash : Bool) : physicalCacheCapacity capacity contextLength decodeFlash ≤ contextLength := by
  unfold physicalCacheCapacity
  split
  · exact h
  · exact min_le_right _ _

inductive OutputKind
  | activations
  | greedyToken
  deriving DecidableEq

inductive InputKind
  | prefill
  | decode
  deriving DecidableEq

structure ForwardGraph where
  attentionLength : Nat
  tokenCount : Nat
  outputKind : OutputKind
  inputKind : InputKind
  deriving DecidableEq

/-- Rows of activations; also `ActivationBuffer`. -/
structure ActivationView where
  bytes : Bytes := []
  tokenCount : Nat := 0
  deriving DecidableEq

/-- What a stage computes: a token on the last one, activations before it. -/
structure StageResult where
  activation : ActivationView := {}
  sampledToken : Int32 := -1
  deriving DecidableEq

/-- A token was sampled. -/
def StageResult.hasSampledToken (result : StageResult) : Bool := result.sampledToken ≥ 0

/-- The calls to the tokenizer and to ggml on the state `κ`. -/
structure NativeLibrary (κ : Type) where
  tokenize : Bytes → Stops Thrown κ (List Int32)
  tokenPiece : Int32 → Stops Thrown κ Bytes
  isEndToken : Int32 → Stops Thrown κ Bool
  createCache : Nat → Stops Thrown κ Nat
  createScheduler : Nat → Stops Thrown κ Unit
  buildGraph : Nat → ForwardGraph → Stops Thrown κ Unit
  allocateGraph : Nat → ForwardGraph → Stops Thrown κ Unit
  graphCompute : Nat → ForwardGraph → List Int32 → ActivationView → Nat → Stops Thrown κ Unit
  readGreedyToken : Nat → ForwardGraph → Stops Thrown κ Int32
  readActivations : Nat → ForwardGraph → Stops Thrown κ (Nat → UInt8)

section

variable {κ : Type} (params : Qwen2Params) (library : NativeLibrary κ)

/-- The constructor of a graph. -/
def buildGraph (cache : Nat) (graph : ForwardGraph) : Stops Thrown κ ForwardGraph := do
  stopIf (graph.tokenCount = 0 ∨ graph.attentionLength < graph.tokenCount ∨
      graph.attentionLength > params.contextLength ∨ params.layerStart ≥ params.layerEnd ∨
      params.layerEnd > params.layerCount)
    (.invalidArgument (str "native Qwen2 token count is outside model context"))
  library.buildGraph cache graph
  pure graph

/-- The inputs fit the graph. -/
def inputMatches (graph : ForwardGraph) (tokens : List Int32) (activation : ActivationView) : Bool :=
  if params.isFirst then tokens.length == graph.tokenCount && activation.bytes.isEmpty
  else
    tokens.isEmpty && activation.tokenCount == graph.tokenCount &&
      activation.bytes.length == graph.tokenCount * params.embeddingLength * 4

/-- Compute a graph. -/
def compute (cache : Nat) (graph : ForwardGraph) (tokens : List Int32) (activation : ActivationView)
    (position : Nat) : Stops Thrown κ Unit := do
  library.allocateGraph cache graph
  -- the checks of `set_inputs`
  stopIf (inputMatches params graph tokens activation = false ∨
      position + graph.tokenCount > graph.attentionLength)
    (.invalidArgument (str "native Qwen2 graph token count changed"))
  stopIf (graph.inputKind = .prefill ∧ position ≠ 0)
    (.invalidArgument (str "native Qwen2 prefill graph must start at position zero"))
  library.graphCompute cache graph tokens activation position

/-- Compute the next token. -/
def computeGreedyToken (cache : Nat) (graph : ForwardGraph) (tokens : List Int32)
    (activation : ActivationView) (position : Nat) : Stops Thrown κ Int32 := do
  stopIf (graph.outputKind ≠ .greedyToken)
    (.exception (str "native Qwen2 graph does not produce a greedy token"))
  compute params library cache graph tokens activation position
  library.readGreedyToken cache graph

/-- Compute activations. -/
def computeActivations (cache : Nat) (graph : ForwardGraph) (tokens : List Int32)
    (activation : ActivationView) (position : Nat) : Stops Thrown κ ActivationView := do
  stopIf (graph.outputKind ≠ .activations)
    (.exception (str "native Qwen2 graph does not produce activations"))
  compute params library cache graph tokens activation position
  let values ← library.readActivations cache graph
  let count := graph.tokenCount * params.embeddingLength
  pure { bytes := (List.range (count * 4)).map values, tokenCount := graph.tokenCount }

end

/-! ## Sessions -/

structure Qwen2Session where
  cache : Nat
  capacity : Nat
  cacheCapacity : Nat
  position : Nat := 0
  prefillPosition : Nat := 0
  stagePrefillGraph : Option ForwardGraph := none
  stageDecodeGraph : Option ForwardGraph := none
  deriving DecidableEq

namespace Qwen2Session

variable {κ : Type} (params : Qwen2Params) (library : NativeLibrary κ)

/-- The constructor, behind the check of `NativeEngine::create_session`. -/
def create (capacity : Nat) : Stops Thrown κ Qwen2Session := do
  stopIf (capacity = 0 ∨ capacity > params.contextLength)
    (.invalidArgument (str "native session capacity is outside model context"))
  let cacheCapacity := physicalCacheCapacity capacity params.contextLength params.decodeFlash
  let cache ← library.createCache cacheCapacity
  library.createScheduler cache
  library.createScheduler cache
  pure { cache, capacity, cacheCapacity }

/-- Take positions back. -/
def rollback (tokenCount : Nat) : Stops Thrown (Qwen2Session × κ) Unit := do
  let session ← getFirst
  stopIf (tokenCount = 0 ∨ tokenCount > session.position - session.prefillPosition)
    (.invalidArgument (str "native Qwen2 rollback exceeds the decoded suffix"))
  setFirst { session with position := session.position - tokenCount }

/-- What the stage computes. -/
def stageOutputKind : OutputKind := if params.isLast then .greedyToken else .activations

/-- The check of an activation. -/
def validateStageActivation (activation : ActivationView) : Stops Thrown (Qwen2Session × κ) Unit :=
  stopIf (activation.tokenCount = 0 ∨ params.embeddingLength = 0 ∨
      activation.bytes.length ≠ activation.tokenCount * params.embeddingLength * 4)
    (.invalidArgument (str "native stage activation shape is invalid"))

/-- The check of a prefill. -/
def validatePrefillCount (tokenCount : Nat) : Stops Thrown (Qwen2Session × κ) Unit := do
  let session ← getFirst
  stopIf (session.position ≠ 0 ∨ tokenCount = 0 ∨ tokenCount > session.capacity)
    (.invalidArgument (str "native Qwen2 prefill is outside session capacity"))

/-- The check of a decode. -/
def validateDecode : Stops Thrown (Qwen2Session × κ) Unit := do
  let session ← getFirst
  stopIf (session.position = 0 ∨ session.position ≥ session.capacity)
    (.invalidArgument (str "native Qwen2 decode is outside session capacity"))

/-- A prefill of so many tokens attends to them only. -/
def prefillGraph (tokenCount : Nat) (outputKind : OutputKind) : ForwardGraph :=
  { attentionLength := tokenCount, tokenCount, outputKind, inputKind := .prefill }

/-- A decode of one token attends to the whole cache. -/
def decodeGraph (session : Qwen2Session) (outputKind : OutputKind) : ForwardGraph :=
  { attentionLength := session.cacheCapacity, tokenCount := 1, outputKind, inputKind := .decode }

/-- The position after a prefill. -/
def prefilled (session : Qwen2Session) (position : Nat) : Qwen2Session :=
  { session with position, prefillPosition := position }

/-- The position after a decode. -/
def advanced (session : Qwen2Session) : Qwen2Session :=
  { session with position := session.position + 1 }

/-- The result of a stage graph. -/
def stageCompute (session : Qwen2Session) (graph : ForwardGraph) (tokens : List Int32)
    (activation : ActivationView) (position : Nat) : Stops Thrown κ StageResult :=
  if params.isLast then do
    let sampledToken ←
      computeGreedyToken params library session.cache graph tokens activation position
    pure { sampledToken }
  else do
    let output ← computeActivations params library session.cache graph tokens activation position
    pure { activation := output }

/-- A prefill of the stage. -/
def runStagePrefill (tokens : List Int32) (activation : ActivationView) :
    Stops Thrown (Qwen2Session × κ) StageResult := do
  let tokenCount := if tokens.isEmpty then activation.tokenCount else tokens.length
  let session ← getFirst
  let graph ← onSecond
    (buildGraph params library session.cache (prefillGraph tokenCount (stageOutputKind params)))
  let session := { session with stagePrefillGraph := some graph }
  setFirst session
  let result ← onSecond (stageCompute params library session graph tokens activation 0)
  setFirst (session.prefilled tokenCount)
  pure result

/-- The graph of a decode, built once. -/
def stageDecodeGraphOf : Stops Thrown (Qwen2Session × κ) ForwardGraph := do
  let session ← getFirst
  match session.stageDecodeGraph with
  | some graph => pure graph
  | none =>
    let graph ← onSecond
      (buildGraph params library session.cache (session.decodeGraph (stageOutputKind params)))
    setFirst { session with stageDecodeGraph := some graph }
    pure graph

/-- A decode of the stage. -/
def runStageDecode (tokens : List Int32) (activation : ActivationView) :
    Stops Thrown (Qwen2Session × κ) StageResult := do
  let graph ← stageDecodeGraphOf params library
  let session ← getFirst
  let result ← onSecond
    (stageCompute params library session graph tokens activation session.position)
  setFirst session.advanced
  pure result

/-- Prefill with tokens. -/
def prefillStageTokens (tokens : List Int32) : Stops Thrown (Qwen2Session × κ) StageResult := do
  stopIf (params.isFirst = false)
    (.invalidArgument (str "only the first native stage accepts tokens"))
  validatePrefillCount tokens.length
  runStagePrefill params library tokens {}

/-- Prefill with activations. -/
def prefillStageActivations (activation : ActivationView) :
    Stops Thrown (Qwen2Session × κ) StageResult := do
  stopIf (params.isFirst = true)
    (.invalidArgument (str "the first native stage does not accept activations"))
  validateStageActivation params activation
  validatePrefillCount activation.tokenCount
  runStagePrefill params library [] activation

/-- Decode a token. -/
def decodeStageToken (token : Int32) : Stops Thrown (Qwen2Session × κ) StageResult := do
  stopIf (params.isFirst = false)
    (.invalidArgument (str "only the first native stage accepts decode tokens"))
  validateDecode
  runStageDecode params library [token] {}

/-- Decode an activation. -/
def decodeStageActivation (activation : ActivationView) :
    Stops Thrown (Qwen2Session × κ) StageResult := do
  stopIf (params.isFirst = true)
    (.invalidArgument (str "the first native stage does not accept decode activations"))
  validateStageActivation params activation
  stopIf (activation.tokenCount ≠ 1)
    (.invalidArgument (str "native decode activation must contain one token row"))
  validateDecode
  runStageDecode params library [] activation

end Qwen2Session

end JetsonFabric
