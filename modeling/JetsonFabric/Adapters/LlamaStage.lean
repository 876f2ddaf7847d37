import JetsonFabric.Adapters.LlamaShared

/-!
# The llama.cpp stage adapter

The calls of `LlamaCppStageAdapter`. Each holds the mutex of the adapter, so they follow one after
the other; the thread that reaps idle sessions makes one more kind of call.

* **`run_executeBatch`**: a call is a run of such steps.
-/

namespace JetsonFabric

open Stops

/-- The adapter with the state of the library. -/
structure AdapterState (κ : Type) where
  serial : SerialSessions := ∅
  shared : SharedState := {}
  llama : κ

namespace AdapterState

variable {κ φ α : Type}

/-- A computation of the serial mode. -/
def onSerial (x : Stops Thrown (SerialSessions × κ) α) : Stops Thrown (AdapterState κ) α := fun s =>
  let (result, serial, llama) := x (s.serial, s.llama)
  (result, { s with serial, llama })

/-- A computation of the shared mode. -/
def onShared (x : Stops Thrown (SharedState × κ) α) : Stops Thrown (AdapterState κ) α := fun s =>
  let (result, shared, llama) := x (s.shared, s.llama)
  (result, { s with shared, llama })

variable (config : LlamaCppStageConfig) (engine : LlamaEngine κ φ)

/-- `prune_expired_sessions_locked`. -/
def prune (now : Int) : Stops Thrown (AdapterState κ) Unit :=
  if config.batchingEnabled then onShared (pruneShared config engine now)
  else onSerial (pruneSerial config now)

/-- The inputs of a batch, after the idle sessions are gone. -/
def executeInputs (now : Int) (inputs : List StageInput) :
    Stops Thrown (AdapterState κ) (List ExecutionResult) :=
  if config.batchingEnabled then onShared (executeSharedLocked config engine now inputs)
  else inputs.mapM fun input => onSerial (executeSerialLocked config engine now input)

/-- `execute_batch`: an exception fails every input. -/
def executeBatch (now : Int) (inputs : List StageInput) (s : AdapterState κ) :
    List ExecutionResult × AdapterState κ :=
  match (do
    prune config engine now
    executeInputs config engine now inputs : Stops Thrown (AdapterState κ) _) s with
  | (.ok results, s) => (results, s)
  | (.error thrown, s) => (inputs.map fun _ => thrownResult thrown, s)

/-- `execute`. -/
def execute (now : Int) (input : StageInput) (s : AdapterState κ) :
    ExecutionResult × AdapterState κ :=
  ((executeBatch config engine now [input] s).1.headD (.error {}),
    (executeBatch config engine now [input] s).2)

/-- `close_session` in either mode. -/
def closeSession (sessionId : Bytes) : Stops Thrown (AdapterState κ) Unit :=
  if config.batchingEnabled then onShared (closeShared engine sessionId)
  else onSerial (closeSerial sessionId)

/-- `rollback_session` in either mode. -/
def rollbackSession (now : Int) (sessionId : Bytes) (tokenCount : Int) :
    Stops Thrown (AdapterState κ) Unit :=
  if config.batchingEnabled then onShared (rollbackShared engine now sessionId tokenCount)
  else onSerial (rollbackSerial engine now sessionId tokenCount)

/-- The adapter as it is constructed. -/
def start (llama : κ) : AdapterState κ :=
  { shared := { inUse := List.replicate config.maxParallelSessions.toNat false }, llama }

end AdapterState

/-! ## Steps -/

/-- The parts that the calls are made of. -/
inductive AdapterStep
  | prune (now : Int)
  | serialInput (now : Int) (input : StageInput)
  | sharedPrefill (now : Int) (input : StageInput)
  | sharedDecode (now : Int) (inputs : List StageInput)
  | close (sessionId : Bytes)
  | rollback (now : Int) (sessionId : Bytes) (tokenCount : Int)

section Machine

variable {κ φ : Type} (config : LlamaCppStageConfig) (engine : LlamaEngine κ φ)

/-- The mode that a step belongs to. -/
def AdapterStep.inMode : AdapterStep → Prop
  | .serialInput _ _ => config.batchingEnabled = false
  | .sharedPrefill _ input => config.batchingEnabled = true ∧ input.phase = .prefill
  | .sharedDecode _ inputs => config.batchingEnabled = true ∧ ∀ input ∈ inputs, input.phase = .decode
  | _ => True

/-- The state after a step. -/
def AdapterState.after (s : AdapterState κ) : AdapterStep → AdapterState κ
  | .prune now => (prune config engine now s).2
  | .serialInput now input => (onSerial (executeSerialLocked config engine now input) s).2
  | .sharedPrefill now input => (onShared (executeSharedPrefillLocked config engine now input) s).2
  | .sharedDecode now inputs => (onShared (executeSharedDecodeLocked config engine now inputs) s).2
  | .close sessionId => (closeSession config engine sessionId s).2
  | .rollback now sessionId tokenCount =>
    (rollbackSession config engine now sessionId tokenCount s).2

/-- The adapter from its construction on, with any state of the library. -/
def adapterMachine : LTS (AdapterState κ) AdapterStep where
  init s := ∃ llama, s = .start config llama
  step s a t := a.inMode config ∧ t = s.after config engine a

variable {config engine}

/-- The adapter with another shared state. -/
def AdapterState.withShared (base : AdapterState κ) (s : SharedState × κ) : AdapterState κ :=
  { base with shared := s.1, llama := s.2 }

theorem runsIn_sharedDecode (base : AdapterState κ) (now : Int) {inputs : List StageInput}
    (hmode : config.batchingEnabled = true) (hphase : ∀ input ∈ inputs, input.phase = .decode) :
    RunsIn (adapterMachine config engine) base.withShared
      (executeSharedDecodeLocked config engine now inputs) := fun _ =>
  ⟨[.sharedDecode now inputs], .cons ⟨⟨hmode, hphase⟩, rfl⟩ (.nil _)⟩

theorem runsIn_sharedInput (base : AdapterState κ) (now : Int)
    (hmode : config.batchingEnabled = true) (input : StageInput) :
    RunsIn (adapterMachine config engine) base.withShared
      (executeSharedInput config engine now input) := by
  unfold executeSharedInput
  cases hphase : input.phase with
  | prefill =>
    exact fun _ => ⟨[.sharedPrefill now input], .cons ⟨⟨hmode, hphase⟩, rfl⟩ (.nil _)⟩
  | decode =>
    exact (runsIn_sharedDecode base now hmode (by simpa using hphase)).bind fun _ => runsIn_pure _

theorem runsIn_executeInputs (now : Int) (inputs : List StageInput) :
    RunsIn (adapterMachine config engine) id
      (AdapterState.executeInputs config engine now inputs) := by
  unfold AdapterState.executeInputs
  split
  · rename_i hmode
    intro s
    have hshared : RunsIn (adapterMachine config engine) s.withShared
        (executeSharedLocked config engine now inputs) := by
      unfold executeSharedLocked
      split
      · exact runsIn_pure _
      split
      · rename_i hall
        exact runsIn_sharedDecode s now hmode (by simpa using hall)
      · exact RunsIn.mapM (runsIn_sharedInput s now hmode) inputs
    exact hshared (s.shared, s.llama)
  · rename_i hmode
    have hserial : config.batchingEnabled = false := by simpa using hmode
    have hinput : ∀ input, RunsIn (adapterMachine config engine) id
        (AdapterState.onSerial (executeSerialLocked config engine now input)) := fun input _ =>
      ⟨[.serialInput now input], .cons ⟨hserial, rfl⟩ (.nil _)⟩
    exact RunsIn.mapM hinput inputs

/-- **A call is a run of steps.** -/
theorem run_executeBatch (now : Int) (inputs : List StageInput) (s : AdapterState κ) :
    ∃ as, (adapterMachine config engine).Run s as
      (AdapterState.executeBatch config engine now inputs s).2 := by
  have hprune : RunsIn (adapterMachine config engine) id
      (AdapterState.prune config engine now) := fun t =>
    ⟨[.prune now], .cons ⟨trivial, rfl⟩ (.nil _)⟩
  obtain ⟨as, hrun⟩ := (hprune.bind fun _ => runsIn_executeInputs now inputs) s
  refine ⟨as, ?_⟩
  unfold AdapterState.executeBatch
  split <;> rename_i hbatch <;> rw [hbatch] at hrun <;> exact hrun

end Machine

/-! ## A small library -/

/-- One token for every text; the calls for logits in `missing` fail. -/
def smallEngine (missing : Nat → Bool) (piece : Nat → Except Thrown Bytes) :
    LlamaEngine Nat Nat where
  less a b := a < b
  tokenize _ := pure [1]
  tokenPiece _ := fun k => (piece k, k)
  isEndToken _ := pure false
  createContext _ := pure 0
  decode _ _ := pure 0
  getEmbeddings _ := pure (some fun _ => 0)
  getEmbeddingsIth _ _ := pure (some fun _ => 0)
  getLogitsIth _ _ := fun k => (.ok (if missing k then none else some id), k + 1)
  memorySeqRm _ _ _ _ := pure true

/-- One stage with all of a small model. -/
def smallConfig : LlamaCppStageConfig :=
  { nEmbd := 1, nVocab := 2, layers := { start := 0, stop := 1 } }

/-- The same with two sessions in one context. -/
def smallShared : LlamaCppStageConfig :=
  { smallConfig with decodeBatchSize := 2, maxParallelSessions := 2 }

/-- An input for the one stage. -/
def smallInput (session : Bytes) (phase : Phase) (decodeStep : Int) (payload : Payload) : StageInput :=
  { sessionId := session, requestId := str "r", modelId := str "m", phase, decodeStep
    layers := { start := 0, stop := 1 }, payload }

/-- A payload of text. -/
def textPayload (text : Bytes) : Payload := { kind := .text, encoding := str "utf-8", bytes := text }

end JetsonFabric
