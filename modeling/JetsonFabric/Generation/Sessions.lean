import JetsonFabric.Generation.Invariant

/-!
# The sessions of a run

A run makes calls to its stages; here they are recorded. Whatever the stages answer, whatever the
draft strategy proposes and whichever token the sink refuses, a run closes the session of every
stage once, after every other call, and returns.
-/

namespace JetsonFabric

variable {σ : Type}

/-- One call to a stage. -/
structure StageCall where
  stage : GenerationStage
  request : StageRequest
  operation : StageOperation

/-- An invoker that also records its calls, oldest first. -/
def recordCalls (invoke : StageInvoker σ) : StageInvoker (σ × List StageCall) :=
  fun world stage request operation =>
    let (run, next) := invoke world.1 stage request operation
    (run, next, world.2 ++ [⟨stage, request, operation⟩])

/-- The same runner over recorded calls. -/
def GenerationRunner.recorded (runner : GenerationRunner σ) :
    GenerationRunner (σ × List StageCall) :=
  { runner with invokeStage := recordCalls runner.invokeStage }

/-- The call that closes the session of a stage. -/
def closeCall (request : GenerationRequest) (stage : GenerationStage) : StageCall :=
  ⟨stage, closeRequest request stage, .closeSession⟩

/-- No session was closed. -/
def NoClose (calls : List StageCall) : Prop := ∀ call ∈ calls, call.operation ≠ .closeSession

/-- Every session was closed once, after all other calls. -/
def ClosedOnce (request : GenerationRequest) (calls : List StageCall) : Prop :=
  ∃ before, NoClose before ∧ calls = before ++ request.stages.map (closeCall request)

theorem NoClose.snoc {calls : List StageCall} {call : StageCall} (h : NoClose calls)
    (hcall : call.operation ≠ .closeSession) : NoClose (calls ++ [call]) := by
  intro other hother
  rcases List.mem_append.1 hother with hold | hnew
  · exact h other hold
  · rw [List.mem_singleton.1 hnew]
    exact hcall

/-! ## The loops over the stages -/

theorem runPassFrom_noClose (invoke : StageInvoker σ) (id : Bytes) {stages : List GenerationStage}
    {r : StageRequest} {f : StageResponse} {ids : List UInt32} {result : GenerationResult}
    {world : σ × List StageCall} (h : NoClose world.2) :
    NoClose (runPassFrom (recordCalls invoke) id stages r f ids result world).world.2 := by
  induction stages generalizing r f ids result world with
  | nil => exact h
  | cons stage stages ih =>
    have hcall : NoClose (recordCalls invoke world stage
        (applyStage stage { r with requestId := id }) .execute).2.2 := h.snoc (by simp)
    simp only [runPassFrom]
    split
    · exact hcall
    split
    · exact hcall
    split
    · exact ih hcall
    · exact ih hcall

theorem rollbackSessionsFrom_noClose (invoke : StageInvoker σ) (request : GenerationRequest)
    (n : Int) {stages : List GenerationStage} {e : Bytes} {result : GenerationResult}
    {world : σ × List StageCall} (h : NoClose world.2) :
    NoClose (rollbackSessionsFrom request (recordCalls invoke) n stages e result world).2.2.2 := by
  induction stages generalizing e result world with
  | nil => exact h
  | cons stage stages ih => exact ih (h.snoc (by simp))

theorem closeSessionsFrom_calls (invoke : StageInvoker σ) (request : GenerationRequest)
    (stages : List GenerationStage) (e : Bytes) (world : σ × List StageCall) :
    (closeSessionsFrom request (recordCalls invoke) stages e world).2.2 =
      world.2 ++ stages.map (closeCall request) := by
  induction stages generalizing e world with
  | nil => simp [closeSessionsFrom]
  | cons stage stages ih =>
    rw [closeSessionsFrom, ih, List.map_cons, List.append_cons]
    rfl

theorem closeSessions_calls (invoke : StageInvoker σ) (request : GenerationRequest)
    {world : σ × List StageCall} (h : NoClose world.2) :
    ClosedOnce request (closeSessions request (recordCalls invoke) world).2.2 :=
  ⟨world.2, h, closeSessionsFrom_calls invoke request request.stages [] world⟩

/-! ## The run -/

theorem noClose_invariant (runner : GenerationRunner σ) (request : GenerationRequest) :
    RunInvariant runner.recorded request (fun st => NoClose st.world.2)
      (fun st => NoClose st.world.2) (fun st => NoClose st.world.2)
      (fun f => ClosedOnce request f.world.2) where
  prefillFailed _ _ h _ := closeSessions_calls runner.invokeStage request h
  prefillStop _ _ h := h
  prefillToken _ _ _ _ _ h _ := h
  failed _ _ h _ := closeSessions_calls runner.invokeStage request h
  passFailed _ _ _ h _ _ :=
    closeSessions_calls runner.invokeStage request (runPassFrom_noClose runner.invokeStage _ h)
  pass _ _ _ h _ _ := runPassFrom_noClose runner.invokeStage _ h
  head _ h := h
  rollback _ n _ h _ := rollbackSessionsFrom_noClose runner.invokeStage request n h
  rollbackFailed _ n h := closeSessions_calls runner.invokeStage request
    (rollbackSessionsFrom_noClose runner.invokeStage request n h)
  counted _ _ _ h := h
  stepped _ _ h := h
  token _ _ _ _ h _ := h
  stop _ h := h
  finished _ h := closeSessions_calls runner.invokeStage request h

/-- **Every run closes each session once**, after its other calls. -/
theorem run_closes_once (runner : GenerationRunner σ) (request : GenerationRequest)
    (sink : TokenSink) (world : σ) :
    ClosedOnce request (runner.recorded.run request (some sink) (world, [])).world.2 := by
  have hpass : NoClose (runPass request (recordCalls runner.invokeStage)
      (initialRequest request (str "prefill") 0 []) {} (world, [])).world.2 :=
    runPassFrom_noClose runner.invokeStage _ (by simp [NoClose])
  exact (noClose_invariant runner request).run_leaves sink rfl
    (fun _ _ => closeSessions_calls runner.invokeStage request hpass) (fun _ _ => hpass)

end JetsonFabric
