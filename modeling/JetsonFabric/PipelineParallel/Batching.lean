import JetsonFabric.Inference.Executor
import JetsonFabric.Lib.Transition

/-!
# Continuous batching

`pipeline_parallel/continuous_batching_executor.cpp`: decode calls queue their input and wait for a
promise; one worker thread takes batches from the front of the queue, hands them to the delegate and
fulfils the promises. A condition variable wakes the worker. It is modelled as the standard defines
it: the worker evaluates the predicate of a wait under the mutex, then releases the mutex and blocks
in one step, and a notification reaches it only if it is blocked at that moment.
-/

namespace JetsonFabric

open Checks

/-! ## Configuration -/

structure ContinuousBatchingConfig where
  maxBatchSize : Nat := 1
  maxWaitUs : Int := 500
  deriving DecidableEq

/-- A configuration that the constructor takes. -/
structure BatchingConfig extends ContinuousBatchingConfig where
  two_le : 2 ≤ maxBatchSize
  wait_nonneg : 0 ≤ maxWaitUs

/-- The checks of the constructor, for a delegate that may be null. -/
def ContinuousBatchingConfig.check (config : ContinuousBatchingConfig) (delegate : Bool) :
    Except Bytes BatchingConfig :=
  if delegate = false then .error (str "continuous batching requires a layer executor")
  else if hsize : config.maxBatchSize < 2 then
    .error (str "continuous batching size must be at least two")
  else if hwait : config.maxWaitUs < 0 then
    .error (str "continuous batching wait must not be negative")
  else .ok { config with two_le := by omega, wait_nonneg := by omega }

/-! ## Threads -/

/-- A queued input; the number tells its promise from the others. -/
structure PendingExecution where
  id : Nat
  input : StageInput
  deriving DecidableEq

/-- A decode call after its input is queued. -/
inductive Caller
  | notifying
  | waiting
  | returned (result : ExecutionResult)

/-- The results of the delegate, or the text of an exception. -/
abbrev BatchOutcome : Type := Except Bytes (List ExecutionResult)

/-- A batch the delegate was given. -/
structure ExecutedBatch where
  pending : List PendingExecution
  outcome : BatchOutcome

/-- The results the promises of a batch get. -/
def batchResults (count : Nat) (outcome : BatchOutcome) : List ExecutionResult :=
  let results := match outcome with
    | .ok results => results
    | .error what =>
      List.replicate count (ExecutionResult.failure (str "continuous_batch_failed") what)
  if results.length ≠ count then
    List.replicate count (ExecutionResult.failure (str "continuous_batch_result_mismatch")
      (str "layer executor returned the wrong number of batch results"))
  else results

def stoppedFailure : ExecutionResult :=
  .failure (str "continuous_batch_stopped")
    (str "continuous batching executor stopped before execution")

/-- The promises that a batch fulfils, with their values. -/
def ExecutedBatch.due (batch : ExecutedBatch) : List (Nat × ExecutionResult) :=
  (batch.pending.map (·.id)).zip (batchResults batch.pending.length batch.outcome)

/-- Where the worker stands. -/
inductive WorkerPc
  /-- At the condition of the loop of `run`. -/
  | loop
  /-- At the lock of `next_batch`. -/
  | lock
  /-- At the predicate of the untimed wait. -/
  | evalReady
  /-- The predicate was false; the mutex is still held. -/
  | enterWait
  /-- Blocked in the untimed wait, woken or not. -/
  | blocked (woken : Bool)
  /-- At the stop check after the untimed wait. -/
  | checkReady
  /-- At the predicate of the timed wait. -/
  | evalFull
  | enterTimedWait
  | timedBlocked (woken : Bool)
  /-- At the stop check after the timed wait. -/
  | checkFull
  /-- About to call the delegate. -/
  | execute (pending : List PendingExecution)
  /-- Fulfilling the promises of a batch. -/
  | deliver (rest : List (Nat × ExecutionResult))
  /-- Out of the loop, before the lock of `fail_pending`. -/
  | leave
  /-- Failing what was abandoned. -/
  | abandon (rest : List PendingExecution)
  | finished

/-- The worker holds the mutex of the queue. -/
def WorkerPc.holdsMutex : WorkerPc → Bool
  | .evalReady | .enterWait | .checkReady | .evalFull | .enterTimedWait | .checkFull => true
  | _ => false

/-- The effect of a notification on the worker. -/
def WorkerPc.notify : WorkerPc → WorkerPc
  | .blocked _ => .blocked true
  | .timedBlocked _ => .timedBlocked true
  | pc => pc

/-- How far the destructor is. -/
inductive Stopping
  | running
  | requested
  | notified
  deriving DecidableEq

/-- The executor; the last five fields only record what happened. -/
structure BatchingState where
  worker : WorkerPc := .loop
  stopping : Stopping := .running
  queue : List PendingExecution := []
  callers : List Caller := []
  /-- Every input ever queued, in that order. -/
  arrivals : List PendingExecution := []
  /-- The calls to the delegate. -/
  batches : List ExecutedBatch := []
  /-- The promises fulfilled, each with its value. -/
  completions : List (Nat × ExecutionResult) := []
  /-- The queue when the worker left its loop. -/
  leftQueued : Option (List PendingExecution) := none
  /-- What `fail_pending` took from the queue. -/
  abandoned : List PendingExecution := []

/-- What can happen next. -/
inductive BatchingAction
  | push (input : StageInput)
  | notifyOne (id : Nat)
  | getResult (id : Nat)
  | worker
  | spuriousWake
  | timeout
  | delegate (outcome : BatchOutcome)
  | requestStop
  | notifyAll

namespace BatchingState

variable (config : BatchingConfig) (s : BatchingState)

def stopRequested : Bool := s.stopping ≠ .running

/-- The next step of the worker from its place in the code. -/
def workerStep : Option BatchingState :=
  match s.worker with
  | .loop =>
    some (if s.stopRequested then { s with worker := .leave, leftQueued := some s.queue }
      else { s with worker := .lock })
  | .lock => some { s with worker := .evalReady }
  | .evalReady =>
    some { s with
      worker := if s.stopRequested ∨ s.queue ≠ [] then .checkReady else .enterWait }
  | .enterWait => some { s with worker := .blocked false }
  | .blocked woken => if woken then some { s with worker := .evalReady } else none
  | .checkReady => some { s with worker := if s.stopRequested then .loop else .evalFull }
  | .evalFull =>
    some { s with
      worker := if s.stopRequested ∨ config.maxBatchSize ≤ s.queue.length then .checkFull
        else .enterTimedWait }
  | .enterTimedWait => some { s with worker := .timedBlocked false }
  | .timedBlocked woken => if woken then some { s with worker := .evalFull } else none
  | .checkFull =>
    let count := min config.maxBatchSize s.queue.length
    some (if s.stopRequested then { s with worker := .loop }
      else { s with worker := .execute (s.queue.take count), queue := s.queue.drop count })
  | .execute _ => none
  | .deliver [] => some { s with worker := .loop }
  | .deliver (due :: rest) =>
    some { s with worker := .deliver rest, completions := s.completions ++ [due] }
  | .leave =>
    some { s with worker := .abandon s.queue, abandoned := s.queue, queue := [] }
  | .abandon [] => some { s with worker := .finished }
  | .abandon (pending :: rest) =>
    some { s with
      worker := .abandon rest
      completions := s.completions ++ [(pending.id, stoppedFailure)] }
  | .finished => none

/-- A call queues its input under the mutex. -/
def push (input : StageInput) : BatchingState :=
  let pending := { id := s.callers.length, input }
  { s with
    queue := s.queue ++ [pending]
    arrivals := s.arrivals ++ [pending]
    callers := s.callers ++ [.notifying] }

/-- The state after an action, where it can happen. -/
def next : BatchingAction → Option BatchingState
  | .push input =>
    if input.phase = .decode ∧ s.worker.holdsMutex = false then some (s.push input) else none
  | .notifyOne id =>
    match s.callers[id]? with
    | some .notifying =>
      some { s with worker := s.worker.notify, callers := s.callers.set id .waiting }
    | _ => none
  | .getResult id =>
    match s.callers[id]?, s.completions.find? (·.1 == id) with
    | some .waiting, some completion =>
      some { s with callers := s.callers.set id (.returned completion.2) }
    | _, _ => none
  | .worker => s.workerStep config
  | .spuriousWake =>
    match s.worker with
    | .blocked _ => some { s with worker := .evalReady }
    | .timedBlocked _ => some { s with worker := .evalFull }
    | _ => none
  | .timeout =>
    match s.worker with
    | .timedBlocked _ => some { s with worker := .checkFull }
    | _ => none
  | .delegate outcome =>
    match s.worker with
    | .execute pending =>
      let batch := { pending, outcome }
      some { s with worker := .deliver batch.due, batches := s.batches ++ [batch] }
    | _ => none
  | .requestStop =>
    if s.stopping = .running then some { s with stopping := .requested } else none
  | .notifyAll =>
    if s.stopping = .requested then
      some { s with worker := s.worker.notify, stopping := .notified }
    else none

end BatchingState

/-- The executor from its construction on. -/
def batchingMachine (config : BatchingConfig) : LTS BatchingState BatchingAction :=
  .ofNext {} (BatchingState.next config)

end JetsonFabric
