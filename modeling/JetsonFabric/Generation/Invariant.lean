import JetsonFabric.Generation.Runner
import JetsonFabric.Lib.Checks

/-!
# The invariant rule of the runner

A run is a prefill pass, the rounds of the decode loop and the closing of the sessions, and it may
return from any of them. The rule takes one predicate for each place a run can be at (`K` after the
prefill pass, `I` before a round, `J` after the pass of a round) and one for returned runs.
-/

namespace JetsonFabric

variable {σ : Type}

/-- A part of a run goes on with `I` or has returned with `P`. -/
def Leaves (I : RunState σ → Prop) (P : Finished σ → Prop) :
    Except (Finished σ) (RunState σ) → Prop
  | .error f => P f
  | .ok st => I st

/-- After a token was handed out with `n` bytes of text. -/
def RunState.sampled (st : RunState σ) (token : UInt32) (text : Bytes) (n : Nat) : RunState σ :=
  { st with
    result :=
      { st.result with
        sampledTokens := st.result.sampledTokens ++ [token]
        completionTokens := st.result.completionTokens + 1 }
    previousToken := token
    pendingText := (st.pendingText ++ text).drop n
    history := st.history ++ [token]
    emitted := st.emitted ++
      [{ token, text := (st.pendingText ++ text).take n, index := st.result.sampledTokens.length }] }

/-- The request of a decode pass. -/
def decodeRequest (request : GenerationRequest) (st : RunState σ) (tokens : List UInt32) :
    StageRequest :=
  initialRequest request (str "decode") st.decodeStep tokens

/-- The local variables after the prefill pass. -/
def afterPrefill (pass : PassResult σ) : RunState σ :=
  { result := pass.result, world := pass.world }

/-- An error that the runner reports on its own account, in its own words. -/
structure OwnError (error : GenerationResult) : Prop where
  notOk : error.ok = false
  code : IsAscii error.errorCode
  message : IsAscii error.errorMessage

/-- What each step of a run has to keep. -/
structure RunInvariant (runner : GenerationRunner σ) (request : GenerationRequest)
    (K I J : RunState σ → Prop) (P : Finished σ → Prop) : Prop where
  prefillFailed : ∀ st error, K st → OwnError error → P (failWith runner request st error)
  prefillStop : ∀ st ids, K st → I { st with history := ids, endOfGeneration := true }
  prefillToken : ∀ st ids token text n, K st →
    completeUtf8Prefix (st.pendingText ++ text) = .ok n →
    I (({ st with history := ids } : RunState σ).sampled token text n)
  failed : ∀ st error, I st → OwnError error → P (failWith runner request st error)
  passFailed : ∀ st tokens error, I st → st.endOfGeneration = false →
    (runPass request runner.invokeStage (decodeRequest request st tokens)
      st.result st.world).outcome = .error error →
    P (failWith runner request (afterPass st (runPass request runner.invokeStage
      (decodeRequest request st tokens) st.result st.world)) error)
  pass : ∀ st tokens answer, I st → st.endOfGeneration = false →
    (runPass request runner.invokeStage (decodeRequest request st tokens)
      st.result st.world).outcome = .ok answer →
    J (afterPass st (runPass request runner.invokeStage (decodeRequest request st tokens)
      st.result st.world))
  head : ∀ st, J st → I st
  rollback : ∀ st tokenCount recovering, J st →
    (rollbackSessions request runner.invokeStage tokenCount st.result st.world).1 = [] →
    J { st with
      result := (rollbackSessions request runner.invokeStage tokenCount st.result st.world).2.1
      world := (rollbackSessions request runner.invokeStage tokenCount st.result st.world).2.2
      recoverAfterRejection := recovering }
  rollbackFailed : ∀ st tokenCount, J st →
    P (failWith runner request
      { st with
        result := (rollbackSessions request runner.invokeStage tokenCount st.result st.world).2.1
        world := (rollbackSessions request runner.invokeStage tokenCount st.result st.world).2.2 }
      (generationError (str "502 Bad Gateway") (str "generation_rollback_failed")
        (rollbackSessions request runner.invokeStage tokenCount st.result st.world).1))
  counted : ∀ st drafted accepted, J st →
    J { st with result := countDraft st.result drafted accepted }
  stepped : ∀ st step, J st → J { st with decodeStep := step }
  token : ∀ st token text n, J st → completeUtf8Prefix (st.pendingText ++ text) = .ok n →
    J (st.sampled token text n)
  stop : ∀ st, J st → J { st with endOfGeneration := true }
  finished : ∀ st, I st → P (finish runner request st)

/-- Handing a token to the sink, with its two ways to fail. -/
theorem emit_eq (runner : GenerationRunner σ) (request : GenerationRequest) (sink : TokenSink)
    (st : RunState σ) (token : UInt32) (text : Bytes) :
    emit runner request sink st token text =
      match completeUtf8Prefix (st.pendingText ++ text) with
      | .error e =>
        .error (fail runner request st (str "502 Bad Gateway") (str "invalid_token_text") e)
      | .ok n =>
        if sink st.emitted { token, text := (st.pendingText ++ text).take n
                             index := st.result.sampledTokens.length } then
          .ok (st.sampled token text n)
        else
          .error (fail runner request (st.sampled token text n)
            (str "499 Client Closed Request") (str "generation_canceled")
            (str "generation token sink canceled the request")) := rfl

/-! ## The errors of a run -/

theorem malformed_of_completeUtf8Prefix {value e : Bytes} (h : completeUtf8Prefix value = .error e) :
    e = malformedUtf8 := by
  fun_induction completeUtf8Prefix value with
  | case1 => cases h
  | case2 lead rest what hwidth =>
    cases h
    unfold sequenceWidth at hwidth
    split_ifs at hwidth
    exact (Except.error.inj hwidth).symm
  | case3 => cases h
  | case4 =>
    cases h
    rfl
  | case5 lead rest width hwidth hlong hsequence what hrest ih =>
    cases h
    exact ih hrest
  | case6 => cases h

theorem readSampledRows_errors {message : Bytes} {start : Nat} {payload : Bytes}
    {offsets : List UInt32} {eogs : List UInt8} :
    Checks.Errors IsAscii (readSampledRows message start payload offsets eogs) := by
  intro e h
  fun_induction readSampledRows message start payload offsets eogs with
  | case1 =>
    cases h
    decide
  | case2 start b0 b1 b2 b3 payload offset offsets eog eogs hoffset what hrows ih =>
    cases h
    exact ih hrows
  | case3 => cases h
  | case4 =>
    cases h
    decide
  | case5 => cases h

theorem readSampledBatch_errors {response : StageResponse} :
    Checks.Errors IsAscii (readSampledBatch response) := by
  intro e h
  unfold readSampledBatch at h
  split at h
  · split at h
    · cases h
    · cases h
      decide
  split at h
  · cases h
    decide
  split at h
  · cases h
    decide
  · exact readSampledRows_errors e h

theorem ownError {status code message : Bytes} (hcode : IsAscii code) (hmessage : IsAscii message) :
    OwnError (generationError status code message) := ⟨rfl, hcode, hmessage⟩

/-- A pass that fails reports a result that is not ok. -/
theorem runPassFrom_error {invoke : StageInvoker σ} {id : Bytes} {stages : List GenerationStage}
    {r : StageRequest} {f : StageResponse} {ids : List UInt32} {result error : GenerationResult}
    {world : σ} (h : (runPassFrom invoke id stages r f ids result world).outcome = .error error) :
    error.ok = false := by
  induction stages generalizing r f ids result world with
  | nil => cases h
  | cons stage stages ih =>
    simp only [runPassFrom] at h
    split at h
    · cases h
      rfl
    split at h
    · cases h
      rfl
    split at h
    · exact ih h
    · exact ih h

variable {st : RunState σ}

namespace RunInvariant

variable {runner : GenerationRunner σ} {request : GenerationRequest} (sink : TokenSink)
  {K I J : RunState σ → Prop} {P : Finished σ → Prop}

theorem emit_leaves {B : RunState σ → Prop} {token : UInt32} {text : Bytes}
    (hfail : ∀ error, OwnError error → P (failWith runner request st error))
    (hnext : ∀ n, completeUtf8Prefix (st.pendingText ++ text) = .ok n →
      B (st.sampled token text n))
    (hcancel : ∀ st error, B st → OwnError error → P (failWith runner request st error)) :
    Leaves B P (emit runner request sink st token text) := by
  rw [emit_eq]
  cases htext : completeUtf8Prefix (st.pendingText ++ text) with
  | error e =>
    rw [malformed_of_completeUtf8Prefix htext]
    exact hfail _ (ownError (by decide) (by decide))
  | ok n =>
    show Leaves B P (if _ then _ else _)
    split
    · exact hnext n htext
    · exact hcancel _ _ (hnext n htext) (ownError (by decide) (by decide))

variable (inv : RunInvariant runner request K I J P)
include inv

theorem emitOutputs_leaves {outputs : List Sampled} (h : J st) :
    Leaves J P (emitOutputs runner request sink outputs st) := by
  induction outputs generalizing st with
  | nil => exact h
  | cons output outputs ih =>
    unfold emitOutputs
    split
    · split
      · exact inv.stop st h
      · have hemit : Leaves J P (emit runner request sink st output.token output.text) :=
          emit_leaves sink (fun error => inv.failed st error (inv.head st h))
            (fun n => inv.token st _ _ n h)
            (fun next error hnext => inv.failed next error (inv.head next hnext))
        split
        · rename_i f hf
          rw [hf] at hemit
          exact hemit
        · rename_i next hnext
          rw [hnext] at hemit
          exact ih hemit
    · exact h

theorem rollbackRejected_leaves (h : J st) (n : Int) :
    Leaves J P (rollbackRejected runner request st n) := by
  unfold rollbackRejected
  split
  · simp only
    split_ifs with hdone
    · exact inv.rollbackFailed st n h
    · exact inv.rollback st n true h (not_not.1 hdone)
  · exact h

theorem verifyDraft_leaves (h : J st) (draft : List UInt32)
    (target : List Sampled) : Leaves J P (verifyDraft runner request sink st draft target) := by
  simp only [verifyDraft]
  have hrollback := inv.rollbackRejected_leaves
    (inv.counted st draft.length (acceptedCount target draft) h)
    (if acceptedCount target draft < draft.length then
      (draft.length : Int) - acceptedCount target draft else 0)
  split
  · rename_i f hf
    rw [hf] at hrollback
    exact hrollback
  · rename_i next hnext
    rw [hnext] at hrollback
    exact inv.emitOutputs_leaves sink (inv.stepped next _ hrollback)

/-- **A round keeps the invariant of the loop.** -/
theorem decodeIteration_leaves (h : I st) (hend : st.endOfGeneration = false) :
    Leaves I P (decodeIteration runner request sink st) := by
  have hpass := inv.pass st (st.previousToken :: propose runner request st)
  have hfailed := inv.passFailed st (st.previousToken :: propose runner request st)
  simp only [decodeIteration]
  unfold decodeRequest at hpass hfailed
  split
  · rename_i error herror
    exact hfailed error h hend herror
  · rename_i answer ids hanswer
    have hj := hpass (answer, ids) h hend hanswer
    split
    · rename_i e he
      exact inv.failed _ _ (inv.head _ hj)
        (ownError (by decide) (readSampledBatch_errors e he))
    split
    · exact inv.failed _ _ (inv.head _ hj) (ownError (by decide) (by decide))
    · have hverify := inv.verifyDraft_leaves sink hj (propose runner request st) ‹_›
      revert hverify
      cases verifyDraft runner request sink _ (propose runner request st) _ with
      | error f => exact id
      | ok next => exact inv.head next

/-- **The decode loop keeps the invariant**, by its rounds. -/
theorem decodeLoop_leaves (h : I st) :
    Leaves I P (decodeLoop runner request sink st) := by
  fun_induction decodeLoop runner request sink st with
  | case1 st hcond f hnext =>
    have hround := inv.decodeIteration_leaves sink h (by simpa using hcond.2)
    rw [hnext] at hround
    exact hround
  | case2 st hcond next hnext ih =>
    have hround := inv.decodeIteration_leaves sink h (by simpa using hcond.2)
    rw [hnext] at hround
    exact ih hround
  | case3 st hcond => exact h

/-- **Every run returns with `P`**, if its prefill pass does. -/
theorem run_leaves {world : σ} {pass : PassResult σ}
    (hpass : runPass request runner.invokeStage (initialRequest request (str "prefill") 0 []) {}
      world = pass)
    (herror : ∀ error, pass.outcome = .error error →
      P (failWith runner request (afterPrefill pass) error))
    (hok : ∀ answer, pass.outcome = .ok answer → K (afterPrefill pass)) :
    P (runner.run request (some sink) world) := by
  have hprefill : Leaves I P (prefill runner request sink world) := by
    simp only [prefill, hpass]
    split
    · exact herror _ ‹_›
    · rename_i answer ids hanswer
      have hk := hok _ hanswer
      split
      · rename_i e he
        exact inv.prefillFailed _ _ hk
          (ownError (by decide) (readSampledBatch_errors e he))
      · rename_i output _
        cases hend : output.endOfGeneration with
        | true => exact inv.prefillStop _ ids hk
        | false =>
          exact emit_leaves sink (fun error => inv.prefillFailed (afterPrefill pass) error hk)
            (fun n => inv.prefillToken (afterPrefill pass) ids _ _ n hk) inv.failed
      · exact inv.prefillFailed _ _ hk (ownError (by decide) (by decide))
  simp only [GenerationRunner.run]
  split
  · rename_i f hf
    rw [hf] at hprefill
    exact hprefill
  · rename_i st hst
    rw [hst] at hprefill
    have hloop := inv.decodeLoop_leaves sink hprefill
    split
    · rename_i f hf
      rw [hf] at hloop
      exact hloop
    · rename_i last hlast
      rw [hlast] at hloop
      exact inv.finished last hloop

end RunInvariant

end JetsonFabric
