import JetsonFabric.Coordinator.Events
import JetsonFabric.Generation.Invariant
import JetsonFabric.Generation.Reference

/-!
# The totals of a run

The runner counts its calls one by one; the coordinator computes them again from the number of
passes and of stages. The two agree on every run that succeeds, when one stage of the request is
local, whatever was drafted, accepted and rolled back.
-/

namespace JetsonFabric

open Checks

variable {σ : Type}

/-- The stages that are called over the network. -/
def remoteStages (stages : List GenerationStage) : Nat := stages.countP (·.stageIndex ≠ 0)

/-- The strings of the stage timings are text. -/
def WholeTimings (timings : List GenerationStageTiming) : Prop :=
  ∀ t ∈ timings, isValidUtf8 t.phase = true ∧ isValidUtf8 t.nodeName = true

/-- Stages whose prompt token counts are never negative. -/
def CountsPrompt (invoke : StageInvoker σ) : Prop :=
  ∀ world stage request operation,
    0 ≤ (invoke world stage request operation).1.response.promptTokens

/-! ## A pass -/

variable {stage : GenerationStage} {before after : GenerationResult}

/-- What calls to these stages add to the totals. -/
structure Called (stages : List GenerationStage) (before after : GenerationResult) : Prop where
  stageCalls : after.stageCalls = before.stageCalls + stages.length
  remoteStageCalls : after.remoteStageCalls = before.remoteStageCalls + remoteStages stages
  rollbackStageCalls : after.rollbackStageCalls = before.rollbackStageCalls
  remoteRollbackStageCalls : after.remoteRollbackStageCalls = before.remoteRollbackStageCalls
  targetDecodePasses : after.targetDecodePasses = before.targetDecodePasses
  stageTimings : WholeTimings before.stageTimings → WholeTimings after.stageTimings

theorem called_nil (result : GenerationResult) : Called [] result result where
  stageCalls := by simp
  remoteStageCalls := by simp [remoteStages]
  rollbackStageCalls := rfl
  remoteRollbackStageCalls := rfl
  targetDecodePasses := rfl
  stageTimings := id

theorem Called.cons {stages : List GenerationStage}
    {middle : GenerationResult} (hfirst : Called [stage] before middle)
    (hrest : Called stages middle after) : Called (stage :: stages) before after where
  stageCalls := by
    rw [hrest.stageCalls, hfirst.stageCalls, List.length_singleton, List.length_cons]
    push_cast
    ring
  remoteStageCalls := by
    have hcount : remoteStages (stage :: stages) = remoteStages [stage] + remoteStages stages := by
      unfold remoteStages
      rw [← List.countP_append, List.singleton_append]
    rw [hrest.remoteStageCalls, hfirst.remoteStageCalls, hcount]
    push_cast
    ring
  rollbackStageCalls := by rw [hrest.rollbackStageCalls, hfirst.rollbackStageCalls]
  remoteRollbackStageCalls := by
    rw [hrest.remoteRollbackStageCalls, hfirst.remoteRollbackStageCalls]
  targetDecodePasses := by rw [hrest.targetDecodePasses, hfirst.targetDecodePasses]
  stageTimings h := hrest.stageTimings (hfirst.stageTimings h)

theorem remoteStages_singleton (stage : GenerationStage) :
    (remoteStages [stage] : Int) = if stage.stageIndex ≠ 0 then 1 else 0 := by
  unfold remoteStages
  by_cases h : stage.stageIndex = 0 <;> simp [h]

theorem addStageTiming_whole {run : StageRunResult}
    (hphase : isValidUtf8 run.response.phase = true) (hname : isValidUtf8 stage.nodeName = true)
    {timings : List GenerationStageTiming} (h : WholeTimings timings) :
    WholeTimings (addStageTiming stage run timings) := by
  induction timings with
  | nil =>
    intro t ht
    rw [addStageTiming, List.mem_singleton] at ht
    rw [ht]
    exact ⟨hphase, hname⟩
  | cons first timings ih =>
    have hfirst := h first List.mem_cons_self
    have hrest := ih fun t ht => h t (List.mem_cons_of_mem _ ht)
    intro t ht
    rw [addStageTiming] at ht
    split at ht
    · rcases List.mem_cons.1 ht with rfl | ht
      · exact hfirst
      · exact h t (List.mem_cons_of_mem _ ht)
    · rcases List.mem_cons.1 ht with rfl | ht
      · exact hfirst
      · exact hrest t ht

theorem called_addStageRun {run : StageRunResult}
    (hphase : isValidUtf8 run.response.phase = true) (hname : isValidUtf8 stage.nodeName = true)
    (result : GenerationResult) :
    Called [stage] result (addStageRun stage run (countStageCall stage result)) where
  stageCalls := rfl
  remoteStageCalls := by
    rw [remoteStages_singleton]
    rfl
  rollbackStageCalls := rfl
  remoteRollbackStageCalls := rfl
  targetDecodePasses := rfl
  stageTimings h := addStageTiming_whole hphase hname h

/-- A response that is taken is in the phase of its request. -/
theorem phase_of_validateResponse {request : StageRequest} {response : StageResponse}
    (h : validateResponse request response = []) : response.phase = request.phase := by
  by_contra hphase
  have hidentity : validateResponseIdentity request response =
      str "stage response identity does not match its request" := by
    unfold validateResponseIdentity
    rw [if_pos]
    simp only [ne_eq, hphase, not_false_eq_true, true_or, or_true]
  rw [validateResponse, hidentity, if_pos (by decide)] at h
  revert h
  decide

/-- **A pass that succeeds has called each stage once.** -/
theorem runPassFrom_called {invoke : StageInvoker σ} {id : Bytes}
    {stages : List GenerationStage} (hnames : ∀ stage ∈ stages, isValidUtf8 stage.nodeName = true)
    {r : StageRequest} (hphase : isValidUtf8 r.phase = true) {f : StageResponse}
    {ids : List UInt32} {result : GenerationResult} {world : σ} {answer : StageResponse × List UInt32}
    (h : (runPassFrom invoke id stages r f ids result world).outcome = .ok answer) :
    Called stages result (runPassFrom invoke id stages r f ids result world).result := by
  induction stages generalizing r f ids result world with
  | nil => exact called_nil result
  | cons stage stages ih =>
    have hrest := fun other hother => hnames other (List.mem_cons_of_mem stage hother)
    simp only [runPassFrom] at h ⊢
    split at h
    · cases h
    rename_i hok
    rw [if_neg hok]
    split at h
    · cases h
    rename_i hresponse
    rw [if_neg hresponse]
    have hsame := phase_of_validateResponse (not_not.1 hresponse)
    have hfirst : Called [stage] result (addStageRun stage (invoke world stage
        (applyStage stage { r with requestId := id }) .execute).1 (countStageCall stage result)) :=
      called_addStageRun (by rw [hsame]; exact hphase) (hnames stage List.mem_cons_self) result
    split at h
    · rw [if_pos ‹_›]
      refine hfirst.cons (ih hrest ?_ h)
      exact hphase
    · rw [if_neg ‹_›]
      refine hfirst.cons (ih hrest ?_ h)
      exact hphase

theorem runPassFrom_promptTokens {invoke : StageInvoker σ} (hprompt : CountsPrompt invoke)
    {id : Bytes} {stages : List GenerationStage} {r : StageRequest} {f : StageResponse}
    {ids : List UInt32} {result : GenerationResult} {world : σ} (h : 0 ≤ result.promptTokens) :
    0 ≤ (runPassFrom invoke id stages r f ids result world).result.promptTokens := by
  induction stages generalizing r f ids result world with
  | nil => exact h
  | cons stage stages ih =>
    have hnext : 0 ≤ (addStageRun stage (invoke world stage
        (applyStage stage { r with requestId := id }) .execute).1
        (countStageCall stage result)).promptTokens := Int.add_nonneg h (hprompt ..)
    simp only [runPassFrom]
    split
    · exact h
    split
    · exact h
    split
    · exact ih hnext
    · exact ih hnext

/-! ## A rollback -/

/-- What a rollback of these stages adds to the totals. -/
structure RollbackCalled (stages : List GenerationStage) (before after : GenerationResult) :
    Prop where
  rollbackStageCalls : after.rollbackStageCalls = before.rollbackStageCalls + stages.length
  remoteRollbackStageCalls :
    after.remoteRollbackStageCalls = before.remoteRollbackStageCalls + remoteStages stages
  stageCalls : after.stageCalls = before.stageCalls
  remoteStageCalls : after.remoteStageCalls = before.remoteStageCalls
  targetDecodePasses : after.targetDecodePasses = before.targetDecodePasses
  promptTokens : after.promptTokens = before.promptTokens
  stageTimings : after.stageTimings = before.stageTimings

/-- **A rollback has called each stage once.** -/
theorem rollbackSessionsFrom_rollbackCalled (request : GenerationRequest) (invoke : StageInvoker σ)
    (n : Int) (stages : List GenerationStage) (e : Bytes) (result : GenerationResult) (world : σ) :
    RollbackCalled stages result
      (rollbackSessionsFrom request invoke n stages e result world).2.1 := by
  induction stages generalizing e result world with
  | nil => exact ⟨by simp [rollbackSessionsFrom], by simp [rollbackSessionsFrom, remoteStages],
      rfl, rfl, rfl, rfl, rfl⟩
  | cons stage stages ih =>
    have hrest := ih (firstSessionError e stage (rollbackRequest request stage n)
      (invoke world stage (rollbackRequest request stage n) .rollbackSession).1)
      (addRollback stage (invoke world stage (rollbackRequest request stage n) .rollbackSession).1
        result) (invoke world stage (rollbackRequest request stage n) .rollbackSession).2
    have hcount : (remoteStages (stage :: stages) : Int) =
        (if stage.stageIndex ≠ 0 then 1 else 0) + remoteStages stages := by
      rw [← remoteStages_singleton]
      unfold remoteStages
      rw [← List.singleton_append, List.countP_append]
      push_cast
      rfl
    refine ⟨?_, ?_, hrest.stageCalls, hrest.remoteStageCalls, hrest.targetDecodePasses,
      hrest.promptTokens, hrest.stageTimings⟩
    · refine hrest.rollbackStageCalls.trans ?_
      rw [List.length_cons]
      show result.rollbackStageCalls + 1 + _ = _
      push_cast
      ring
    · refine hrest.remoteRollbackStageCalls.trans ?_
      rw [hcount]
      show result.remoteRollbackStageCalls + _ + _ = _
      ring

/-! ## The totals of a run -/

variable {st : RunState σ}

/-- The totals that passes and rollbacks change. -/
structure CallTotals where
  stageCalls : Int
  remoteStageCalls : Int
  rollbackStageCalls : Int
  remoteRollbackStageCalls : Int
  stageTimings : List GenerationStageTiming

/-- The totals of the calls. -/
def GenerationResult.callTotals (r : GenerationResult) : CallTotals :=
  { stageCalls := r.stageCalls
    remoteStageCalls := r.remoteStageCalls
    rollbackStageCalls := r.rollbackStageCalls
    remoteRollbackStageCalls := r.remoteRollbackStageCalls
    stageTimings := r.stageTimings }

/-- The totals after so many passes and rollbacks. -/
structure Totals (stages : List GenerationStage) (passes rollbacks : Int) (t : CallTotals) :
    Prop where
  stageCalls : t.stageCalls = passes * stages.length
  remoteStageCalls : t.remoteStageCalls = passes * remoteStages stages
  rollbackStageCalls : t.rollbackStageCalls = rollbacks * stages.length
  remoteRollbackStageCalls : t.remoteRollbackStageCalls = rollbacks * remoteStages stages
  stageTimings : WholeTimings t.stageTimings

theorem totals_empty (stages : List GenerationStage) :
    Totals stages 0 0 (GenerationResult.callTotals {}) := by
  constructor <;> simp [WholeTimings, GenerationResult.callTotals]

theorem Totals.called {stages : List GenerationStage} {passes rollbacks : Int}
    (h : Totals stages passes rollbacks before.callTotals)
    (hcalled : Called stages before after) :
    Totals stages (passes + 1) rollbacks after.callTotals where
  stageCalls := by
    rw [add_mul, one_mul, ← h.stageCalls]
    exact hcalled.stageCalls
  remoteStageCalls := by
    rw [add_mul, one_mul, ← h.remoteStageCalls]
    exact hcalled.remoteStageCalls
  rollbackStageCalls := hcalled.rollbackStageCalls.trans h.rollbackStageCalls
  remoteRollbackStageCalls := hcalled.remoteRollbackStageCalls.trans h.remoteRollbackStageCalls
  stageTimings := hcalled.stageTimings h.stageTimings

theorem Totals.rollbackCalled {stages : List GenerationStage} {passes rollbacks : Int}
    (h : Totals stages passes rollbacks before.callTotals)
    (hrolled : RollbackCalled stages before after) :
    Totals stages passes (rollbacks + 1) after.callTotals where
  stageCalls := hrolled.stageCalls.trans h.stageCalls
  remoteStageCalls := hrolled.remoteStageCalls.trans h.remoteStageCalls
  rollbackStageCalls := by
    rw [add_mul, one_mul, ← h.rollbackStageCalls]
    exact hrolled.rollbackStageCalls
  remoteRollbackStageCalls := by
    rw [add_mul, one_mul, ← h.remoteRollbackStageCalls]
    exact hrolled.remoteRollbackStageCalls
  stageTimings := by
    show WholeTimings after.stageTimings
    rw [hrolled.stageTimings]
    exact h.stageTimings

/-- The sink received the tokens, numbered and with whole texts. -/
structure Emitted (sampled : List UInt32) (completionTokens : Int)
    (emitted : List GenerationToken) : Prop where
  sampledTokens : emitted.map (·.token) = sampled
  completionTokens : completionTokens = sampled.length
  numbered : Numbered 0 emitted
  whole : ∀ token ∈ emitted, isValidUtf8 token.text = true

theorem Emitted.snoc {sampled : List UInt32} {completionTokens : Int}
    {emitted : List GenerationToken} (h : Emitted sampled completionTokens emitted)
    (token : GenerationToken) (hindex : token.index = sampled.length)
    (hwhole : isValidUtf8 token.text = true) :
    Emitted (sampled ++ [token.token]) (completionTokens + 1) (emitted ++ [token]) where
  sampledTokens := by rw [List.map_append, List.map_singleton, h.sampledTokens]
  completionTokens := by simp [h.completionTokens]
  numbered := by
    refine numbered_snoc h.numbered ?_
    rw [hindex, ← h.sampledTokens, List.length_map, Nat.zero_add]
  whole other hother := by
    rcases List.mem_append.1 hother with hold | hnew
    · exact h.whole other hold
    · rw [List.mem_singleton.1 hnew]
      exact hwhole

theorem emitted_sampled
    (h : Emitted st.result.sampledTokens st.result.completionTokens st.emitted) {token : UInt32}
    {text : Bytes} {n : Nat} (hn : completeUtf8Prefix (st.pendingText ++ text) = .ok n) :
    Emitted (st.sampled token text n).result.sampledTokens
      (st.sampled token text n).result.completionTokens (st.sampled token text n).emitted := by
  have hwhole := isValidUtf8_take hn
  exact h.snoc ⟨token, (st.pendingText ++ text).take n, st.result.sampledTokens.length⟩ rfl hwhole

/-- The totals and the tokens of a run. -/
structure Accounted (stages : List GenerationStage) (result : GenerationResult)
    (emitted : List GenerationToken) (ended : Bool) : Prop where
  totals : ∃ rollbacks, Totals stages (1 + result.targetDecodePasses) rollbacks result.callTotals
  emitted : Emitted result.sampledTokens result.completionTokens emitted
  passes : 0 ≤ result.targetDecodePasses
  prefill : result.targetDecodePasses = 0 →
    result.sampledTokens.length = if ended then 0 else 1

/-- A run that succeeded, by its totals and tokens. -/
def Settled (request : GenerationRequest) (f : Finished σ) : Prop :=
  (f.result.finishReason = str "stop" ∨ f.result.finishReason = str "length") ∧
    Accounted request.stages f.result f.emitted (f.result.finishReason = str "stop")

/-- The strings of a settled result are text. -/
theorem Settled.utf8 {request : GenerationRequest} {f : Finished σ} (h : Settled request f) :
    f.result.Utf8 := by
  obtain ⟨hreason, haccounted⟩ := h
  obtain ⟨rollbacks, htotals⟩ := haccounted.totals
  refine ⟨?_, htotals.stageTimings⟩
  rcases hreason with hreason | hreason <;> rw [hreason] <;> decide +kernel

/-- Tokens as the sink receives them: numbered, and with whole texts. -/
structure Streamable (tokens : List GenerationToken) : Prop where
  numbered : Numbered 0 tokens
  whole : ∀ token ∈ tokens, isValidUtf8 token.text = true

/-- A run that has returned, settled when it succeeded. -/
structure Returned (request : GenerationRequest) (f : Finished σ) : Prop where
  tokens : Streamable f.emitted
  settled : f.result.ok = true → Settled request f

section Invariant

variable {runner : GenerationRunner σ} {request : GenerationRequest}

theorem failWith_ok {error : GenerationResult} (h : error.ok = false) :
    (failWith runner request st error).result.ok = false := by
  unfold failWith
  dsimp only
  split <;> exact h

theorem returned_failWith {error : GenerationResult} {sampled : List UInt32}
    {completionTokens : Int} (h : error.ok = false)
    (hemitted : Emitted sampled completionTokens st.emitted) :
    Returned request (failWith runner request st error) := by
  refine ⟨⟨hemitted.numbered, hemitted.whole⟩, fun hok => ?_⟩
  rw [failWith_ok h] at hok
  cases hok

theorem returned_finish (h : Accounted request.stages st.result st.emitted st.endOfGeneration) :
    Returned request (finish runner request st) := by
  refine ⟨⟨h.emitted.numbered, h.emitted.whole⟩, fun hok => ?_⟩
  have hstop : str "length" ≠ str "stop" := by decide
  unfold finish at hok ⊢
  dsimp only at hok ⊢
  split at hok
  · cases hok
  rename_i hclosed
  rw [if_neg hclosed]
  cases hend : st.endOfGeneration with
  | false =>
    refine ⟨.inr rfl, h.totals, h.emitted, h.passes, fun hpasses => ?_⟩
    simp only [h.prefill hpasses, hend, Bool.false_eq_true, if_false, hstop, decide_false]
  | true =>
    refine ⟨.inl rfl, h.totals, h.emitted, h.passes, fun hpasses => ?_⟩
    simp only [h.prefill hpasses, hend, if_true, decide_true]

/-- **Every step of a run keeps its totals.** -/
theorem accounted_invariant (hnames : ∀ stage ∈ request.stages, isValidUtf8 stage.nodeName = true) :
    RunInvariant runner request
      (fun st => Totals request.stages 1 0 st.result.callTotals ∧
        Emitted st.result.sampledTokens st.result.completionTokens st.emitted ∧
        st.result.sampledTokens = [] ∧ st.result.targetDecodePasses = 0 ∧
        st.endOfGeneration = false)
      (fun st => Accounted request.stages st.result st.emitted st.endOfGeneration)
      (fun st => Accounted request.stages st.result st.emitted st.endOfGeneration ∧
        0 < st.result.targetDecodePasses)
      (Returned request) where
  prefillFailed _ _ h herror := returned_failWith herror.notOk h.2.1
  prefillStop st ids h := by
    obtain ⟨htotals, hemitted, hsampled, hpasses, -⟩ := h
    refine ⟨⟨0, ?_⟩, hemitted, hpasses.ge, fun _ => ?_⟩
    · rw [hpasses]
      exact htotals
    · rw [hsampled]
      rfl
  prefillToken st ids token text n h hn := by
    obtain ⟨htotals, hemitted, hsampled, hpasses, hend⟩ := h
    refine ⟨⟨0, ?_⟩, emitted_sampled hemitted hn, hpasses.ge, fun _ => ?_⟩
    · show Totals request.stages (1 + st.result.targetDecodePasses) 0 _
      rw [hpasses]
      exact htotals
    · simp only [RunState.sampled, hsampled, hend]
      rfl
  failed _ _ h herror := returned_failWith herror.notOk h.emitted
  passFailed _ _ _ h _ herror := returned_failWith (runPassFrom_error herror) h.emitted
  pass st tokens answer h hend hanswer := by
    have hphase : isValidUtf8 (decodeRequest request st tokens).phase = true := by
      show isValidUtf8 (str "decode") = true
      decide +kernel
    have hcalled := runPassFrom_called hnames hphase hanswer
    have htokens := runPassFrom_tokens runner.invokeStage
      (decodeRequest request st tokens).requestId request.stages (decodeRequest request st tokens)
      {} [] st.result st.world
    have hpositive : 0 < (afterPass st (runPass request runner.invokeStage
        (decodeRequest request st tokens) st.result st.world)).result.targetDecodePasses := by
      have hpasses := h.passes
      have hsame := hcalled.targetDecodePasses
      show 0 < (runPass request runner.invokeStage (decodeRequest request st tokens)
        st.result st.world).result.targetDecodePasses + 1
      unfold runPass
      omega
    obtain ⟨rollbacks, htotals⟩ := h.totals
    refine ⟨⟨⟨rollbacks, ?_⟩, ?_, hpositive.le, fun hzero => absurd hzero hpositive.ne'⟩,
      hpositive⟩
    · have hnext := htotals.called hcalled
      rw [← hcalled.targetDecodePasses, add_assoc] at hnext
      exact hnext
    · have hemitted := h.emitted
      rw [← htokens.1, ← htokens.2] at hemitted
      exact hemitted
  head _ h := h.1
  rollback st n recovering h _ := by
    obtain ⟨⟨⟨rollbacks, htotals⟩, hemitted, -, -⟩, hpositive⟩ := h
    have hrolled := rollbackSessionsFrom_rollbackCalled request runner.invokeStage n request.stages []
      st.result st.world
    have htokens := rollbackSessionsFrom_tokens request runner.invokeStage n request.stages []
      st.result st.world
    have hnext := htotals.rollbackCalled hrolled
    rw [← hrolled.targetDecodePasses] at hnext hpositive
    rw [← htokens.1, ← htokens.2] at hemitted
    exact ⟨⟨⟨rollbacks + 1, hnext⟩, hemitted, hpositive.le,
      fun hzero => absurd hzero hpositive.ne'⟩, hpositive⟩
  rollbackFailed _ _ h := returned_failWith rfl h.1.emitted
  counted _ _ _ h := ⟨⟨h.1.totals, h.1.emitted, h.1.passes, h.1.prefill⟩, h.2⟩
  stepped _ _ h := h
  token st token text n h hn :=
    ⟨⟨h.1.totals, emitted_sampled h.1.emitted hn, h.1.passes,
      fun hzero => absurd hzero h.2.ne'⟩, h.2⟩
  stop _ h := ⟨⟨h.1.totals, h.1.emitted, h.1.passes, fun hzero => absurd hzero h.2.ne'⟩, h.2⟩
  finished _ h := returned_finish h

/-- **Every run returns with its tokens, and settled when it succeeds.** -/
theorem run_returned (hnames : ∀ stage ∈ request.stages, isValidUtf8 stage.nodeName = true)
    (sink : TokenSink) (world : σ) : Returned request (runner.run request (some sink) world) := by
  have hempty : Emitted ({} : GenerationResult).sampledTokens
      ({} : GenerationResult).completionTokens [] := ⟨rfl, rfl, trivial, by simp⟩
  refine (accounted_invariant hnames).run_leaves sink rfl
    (fun error herror => returned_failWith (runPassFrom_error herror) hempty)
    (fun answer hanswer => ?_)
  have hphase : isValidUtf8 (initialRequest request (str "prefill") 0 []).phase = true := by
    show isValidUtf8 (str "prefill") = true
    decide +kernel
  have hcalled := runPassFrom_called hnames hphase hanswer
  have htokens := runPassFrom_tokens runner.invokeStage
    (initialRequest request (str "prefill") 0 []).requestId request.stages
    (initialRequest request (str "prefill") 0 []) {} [] {} world
  refine ⟨(totals_empty request.stages).called hcalled, ?_, htokens.2, hcalled.targetDecodePasses,
    rfl⟩
  rw [← htokens.1, ← htokens.2] at hempty
  exact hempty

theorem promptTokens_invariant (hprompt : CountsPrompt runner.invokeStage) :
    RunInvariant runner request (fun st => 0 ≤ st.result.promptTokens)
      (fun st => 0 ≤ st.result.promptTokens) (fun st => 0 ≤ st.result.promptTokens)
      (fun f => f.result.ok = true → 0 ≤ f.result.promptTokens) where
  prefillFailed _ _ _ h hok := by rw [failWith_ok h.notOk] at hok; cases hok
  prefillStop _ _ h := h
  prefillToken _ _ _ _ _ h _ := h
  failed _ _ _ h hok := by rw [failWith_ok h.notOk] at hok; cases hok
  passFailed _ _ _ _ _ h hok := by rw [failWith_ok (runPassFrom_error h)] at hok; cases hok
  pass _ _ _ h _ _ := runPassFrom_promptTokens hprompt h
  head _ h := h
  rollback st n _ h _ := h.trans (rollbackSessionsFrom_rollbackCalled request runner.invokeStage n
    request.stages [] st.result st.world).promptTokens.ge
  rollbackFailed _ _ _ hok := by rw [failWith_ok rfl] at hok; cases hok
  counted _ _ _ h := h
  stepped _ _ h := h
  token _ _ _ _ h _ := h
  stop _ h := h
  finished st h hok := by
    unfold finish at hok ⊢
    dsimp only at hok ⊢
    split at hok
    · cases hok
    · rw [if_neg ‹_›]
      exact h

theorem run_promptTokens (hprompt : CountsPrompt runner.invokeStage) (sink : TokenSink)
    {world : σ} (hok : (runner.run request (some sink) world).result.ok = true) :
    0 ≤ (runner.run request (some sink) world).result.promptTokens :=
  (promptTokens_invariant hprompt).run_leaves sink rfl
    (fun error herror hok => by rw [failWith_ok (runPassFrom_error herror)] at hok; cases hok)
    (fun _ _ => runPassFrom_promptTokens hprompt le_rfl) hok

end Invariant

/-! ## The coordinator -/

theorem wrap64_of_isInt64 {n : Int} (h : IsInt64 n) : wrap64 n = n :=
  Int.bmod_eq_of_le (by have := h.1; omega) (by have := h.2; omega)

theorem sampledMismatch_self (index : Nat) (tokens : List UInt32) :
    sampledMismatch index tokens tokens = none := by
  induction tokens generalizing index with
  | nil => rfl
  | cons token tokens ih => rw [sampledMismatch, if_neg (not_not.2 rfl), ih]

theorem Numbered.index_lt {start : Nat} {tokens : List GenerationToken} (h : Numbered start tokens) :
    ∀ token ∈ tokens, 0 ≤ token.index ∧ token.index < (start + tokens.length : Nat) := by
  induction tokens generalizing start with
  | nil => simp
  | cons first tokens ih =>
    intro token htoken
    rw [List.length_cons]
    rcases List.mem_cons.1 htoken with rfl | hrest
    · have hindex := h.1
      omega
    · have hbounds := ih h.2 token hrest
      omega

theorem remoteStages_eq {stages : List GenerationStage}
    (h : stages.countP (·.stageIndex = 0) = 1) : (remoteStages stages : Int) = stages.length - 1 := by
  have hsplit := List.length_eq_countP_add_countP (fun stage : GenerationStage =>
    decide (stage.stageIndex = 0)) (l := stages)
  have hremote : remoteStages stages =
      stages.countP fun stage => decide ¬ decide (stage.stageIndex = 0) = true := by
    unfold remoteStages
    simp only [decide_eq_true_eq, ne_eq]
  rw [h, ← hremote] at hsplit
  omega

theorem countP_of_validateStages {stages : List GenerationStage}
    (h : Protocol.validateStages stages = .ok ()) : stages.countP (·.stageIndex = 0) = 1 := by
  obtain ⟨_, hbounds, hfrom⟩ := bind_eq_ok.1 h
  have hne : stages ≠ [] := fun hnil => refuse_eq_ok.1 hbounds (.inl hnil)
  obtain ⟨stage, stages, rfl⟩ := List.exists_cons_of_ne_nil hne
  obtain ⟨hindex, hrest⟩ := Protocol.validateStagesFrom_cons hfrom
  rw [List.countP_cons_of_pos (by simpa using hindex),
    Protocol.validateStagesFrom_countP (by omega) hrest]

section Check

variable {stages : List GenerationStage} {result : GenerationResult}
  {emitted : List GenerationToken}

/-- The consumer that has received these tokens. -/
def received (stages : List GenerationStage) (emitted : List GenerationToken) :
    GenerationEventConsumer :=
  ({ expectedStages := stages.length } : GenerationEventConsumer).receive emitted

theorem received_sampledTokens (h : Emitted result.sampledTokens result.completionTokens emitted) :
    (received stages emitted).result.sampledTokens = result.sampledTokens :=
  (List.nil_append _).trans h.sampledTokens

variable (hone : stages.countP (·.stageIndex = 0) = 1)
include hone

theorem one_le_length : (1 : Int) ≤ stages.length := by
  have hle := List.countP_le_length (p := fun stage : GenerationStage =>
    decide (stage.stageIndex = 0)) (l := stages)
  rw [hone] at hle
  exact_mod_cast hle

variable (h : Accounted stages result emitted (result.finishReason = str "stop"))
  (htyped : result.Typed)
include h htyped

theorem passes_received :
    (received stages emitted).passes result.event = 1 + result.targetDecodePasses := by
  obtain ⟨rollbacks, htotals⟩ := h.totals
  have hstages := one_le_length hone
  have hpasses := h.passes
  unfold GenerationEventConsumer.passes
  rw [received_sampledTokens h.emitted]
  show (if result.targetDecodePasses = 0 then (result.sampledTokens.length : Int) +
    (if result.finishReason = str "stop" then 1 else 0)
    else wrap64 (1 + result.targetDecodePasses)) = _
  split
  · rename_i hzero
    rw [h.prefill hzero, hzero]
    simp only [decide_eq_true_eq]
    split <;> rfl
  · -- the number of passes is at most the number of calls
    have hcalls : 1 + result.targetDecodePasses ≤ result.stageCalls := by
      have heq : result.stageCalls = _ := htotals.stageCalls
      rw [heq]
      exact le_mul_of_one_le_right (by omega) hstages
    have hbound := htyped.stageCalls.isInt64.2
    exact wrap64_of_isInt64 ⟨by omega, by omega⟩

theorem expectedCalls_received :
    (received stages emitted).expectedCalls result.event = result.stageCalls := by
  obtain ⟨rollbacks, htotals⟩ := h.totals
  have hcalls : result.stageCalls = (1 + result.targetDecodePasses) * stages.length :=
    htotals.stageCalls
  unfold GenerationEventConsumer.expectedCalls
  rw [passes_received hone h htyped]
  show wrap64 ((1 + result.targetDecodePasses) * stages.length) = _
  rw [← hcalls, wrap64_of_isInt64 htyped.stageCalls.isInt64]

theorem expectedRemoteCalls_received :
    (received stages emitted).expectedRemoteCalls result.event = result.remoteStageCalls := by
  obtain ⟨rollbacks, htotals⟩ := h.totals
  have hcalls : result.remoteStageCalls = (1 + result.targetDecodePasses) * (stages.length - 1) :=
    remoteStages_eq hone ▸ htotals.remoteStageCalls
  unfold GenerationEventConsumer.expectedRemoteCalls
  rw [passes_received hone h htyped]
  show wrap64 ((1 + result.targetDecodePasses) * (stages.length - 1)) = _
  rw [← hcalls, wrap64_of_isInt64 htyped.remoteStageCalls.isInt64]

theorem rollbacks_received :
    result.rollbackStageCalls.tmod stages.length = 0 ∧
      (received stages emitted).expectedRemoteRollbacks result.event =
        result.remoteRollbackStageCalls := by
  obtain ⟨rollbacks, htotals⟩ := h.totals
  have hstages := one_le_length hone
  have hcalls : result.rollbackStageCalls = rollbacks * stages.length := htotals.rollbackStageCalls
  have hremote : result.remoteRollbackStageCalls = rollbacks * (stages.length - 1) :=
    remoteStages_eq hone ▸ htotals.remoteRollbackStageCalls
  refine ⟨by rw [hcalls, Int.mul_tmod_left], ?_⟩
  unfold GenerationEventConsumer.expectedRemoteRollbacks
  show wrap64 (result.rollbackStageCalls.tdiv stages.length * (stages.length - 1)) = _
  rw [hcalls, Int.mul_tdiv_cancel _ (by omega), ← hremote,
    wrap64_of_isInt64 htyped.remoteRollbackStageCalls.isInt64]

/-- **The consumer finds the totals of a settled run as it expects them.** -/
theorem checkDone_received
    (hreason : result.finishReason = str "stop" ∨ result.finishReason = str "length")
    (hprompt : 0 ≤ result.promptTokens) :
    (received stages emitted).checkDone result.event = .ok () := by
  have hsampled : (received stages emitted).result.sampledTokens = result.sampledTokens :=
    received_sampledTokens h.emitted
  obtain ⟨hmod, hrollbacks⟩ := rollbacks_received hone h htyped
  have htokens : (received stages emitted).checkSampledTokens result.event = .ok () := by
    have hevent : result.event.sampledTokens = result.sampledTokens := rfl
    rw [GenerationEventConsumer.checkSampledTokens, hsampled, hevent, refuse_of_not (not_not.2 rfl),
      ok_bind, sampledMismatch_self]
  have hpositive : ¬ result.event.promptTokens < 0 := not_lt.2 hprompt
  have hcompletion : result.event.completionTokens = result.sampledTokens.length :=
    h.emitted.completionTokens
  unfold GenerationEventConsumer.checkDone
  rw [refuse_of_not, ok_bind, htokens, ok_bind, refuse_of_not hpositive, ok_bind, hsampled,
    refuse_of_not (not_not.2 hcompletion), ok_bind, expectedCalls_received hone h htyped,
    expectedRemoteCalls_received hone h htyped, refuse_of_not, ok_bind, refuse_of_not, ok_bind,
    refuse_of_not]
  · exact not_not.2 hrollbacks.symm
  · exact not_not.2 hmod
  · rintro (hne | hne) <;> exact hne rfl
  · rintro ⟨hstop, hlength⟩
    exact hreason.elim hstop hlength

end Check

/-- The result of a stream as the runner made it. -/
def Finished.runtimeResult (f : Finished σ) : RuntimeGenerationResult :=
  { generatedText := f.emitted.flatMap (·.text)
    sampledTokens := f.emitted.map (·.token)
    finishReason := f.result.finishReason
    promptTokens := f.result.promptTokens
    completionTokens := f.result.completionTokens
    stageCalls := f.result.stageCalls
    remoteStageCalls := f.result.remoteStageCalls
    rollbackStageCalls := f.result.rollbackStageCalls
    remoteRollbackStageCalls := f.result.remoteRollbackStageCalls
    rollbackStageUs := f.result.rollbackStageUs
    rollbackRemoteCallUs := f.result.rollbackRemoteCallUs
    bytesIn := f.result.bytesIn
    bytesOut := f.result.bytesOut
    stageTimings := f.result.stageTimings
    targetDecodePasses := f.result.targetDecodePasses
    speculativeDraftTokens := f.result.speculativeDraftTokens
    speculativeAcceptedTokens := f.result.speculativeAcceptedTokens }

/-- **The coordinator takes the events of every run that succeeds.** -/
theorem run_events_accepted {go cpp : Json.Codec isValidUtf8} (hreads : go.Reads cpp)
    (runner : GenerationRunner σ) {request : GenerationRequest} (sink : TokenSink) {world : σ}
    {onToken : Option OnToken} (hcallback : TakesAll onToken)
    (hprompt : CountsPrompt runner.invokeStage)
    (hnames : ∀ stage ∈ request.stages, isValidUtf8 stage.nodeName = true)
    (hone : request.stages.countP (·.stageIndex = 0) = 1)
    (hok : (runner.run request (some sink) world).result.ok = true)
    (htyped : (runner.run request (some sink) world).result.Typed) :
    ∃ tokens done,
      (runner.run request (some sink) world).emitted.mapM (encodeGenerationTokenEvent cpp) =
        .ok tokens ∧
      encodeGenerationDoneEvent cpp (runner.run request (some sink) world).result = .ok done ∧
      consumeGenerationEvents go (tokens ++ [done]) request.stages.length onToken =
        ((runner.run request (some sink) world).runtimeResult, none) := by
  have hsettled := (run_returned hnames sink world).settled hok
  have hcount := run_promptTokens hprompt sink hok
  generalize runner.run request (some sink) world = f at hsettled htyped hcount ⊢
  have h := hsettled.2
  have hindex : ∀ token ∈ f.emitted, IsInt64 token.index := by
    intro token htoken
    have hbounds := h.emitted.numbered.index_lt token htoken
    have hlength : (f.emitted.length : Int) = f.result.completionTokens := by
      rw [h.emitted.completionTokens, ← h.emitted.sampledTokens, List.length_map]
    have hcompletion := htyped.completionTokens.isInt64.2
    constructor <;> omega
  obtain ⟨tokens, htokens, hconsumed⟩ := consume_tokens hreads hcallback
    (c := { expectedStages := request.stages.length }) h.emitted.numbered hindex h.emitted.whole
  obtain ⟨done, hdone, hended⟩ := consume_done hreads hcallback htyped hsettled.utf8
    (checkDone_received hone h htyped hsettled.1 hcount)
  refine ⟨tokens, done, htokens, hdone, ?_⟩
  rw [consumeGenerationEvents, hconsumed]
  exact hended

/-- The generator of `sampleGeneration`, with drafts that are rejected. -/
def sampleRunner : GenerationRunner (List UInt32) :=
  ⟨referenceInvoke sampleNext [7, 7, 7], some sampleDraft, 4, by decide⟩

theorem referenceInvoke_countsPrompt (next : List UInt32 → Sampled) (prompt : List UInt32) :
    CountsPrompt (referenceInvoke next prompt) := by
  intro world stage request operation
  cases operation with
  | closeSession => exact le_rfl
  | rollbackSession => exact le_rfl
  | execute =>
    simp only [referenceInvoke]
    split
    · simp only [sampledResponse]
      split <;> exact le_rfl
    · exact le_rfl

theorem run_events_accepted_sample :
    0 < (sampleRunner.run sampleGeneration (some fun _ _ => true) []).result.rollbackStageCalls ∧
    ∃ tokens done,
      (sampleRunner.run sampleGeneration (some fun _ _ => true) []).emitted.mapM
        (encodeGenerationTokenEvent (Json.compact isValidUtf8)) = .ok tokens ∧
      encodeGenerationDoneEvent (Json.compact isValidUtf8)
        (sampleRunner.run sampleGeneration (some fun _ _ => true) []).result = .ok done ∧
      consumeGenerationEvents (Json.compact isValidUtf8) (tokens ++ [done]) 2 none =
        ((sampleRunner.run sampleGeneration (some fun _ _ => true) []).runtimeResult, none) :=
  ⟨by decide +kernel,
    run_events_accepted (Json.compact isValidUtf8).parse_dump sampleRunner (fun _ _ => true)
      (show TakesAll none from fun _ h => nomatch h)
      (referenceInvoke_countsPrompt sampleNext [7, 7, 7])
      (by decide +kernel) (by decide +kernel) (by decide +kernel) (by decide +kernel)⟩

/-- Two stages that both call themselves the only one. -/
def unnumberedGeneration : GenerationRequest :=
  { maxTokens := 1
    stages := [{ stageIndex := 0, stageCount := 1 }, { stageIndex := 0, stageCount := 1 }] }

/-- **Stages that are not numbered count as local**, and the totals are refused. -/
theorem unnumbered_events_refused :
    (sampleRunner.run unnumberedGeneration (some fun _ _ => true) []).result.ok = true ∧
    ((sampleRunner.run unnumberedGeneration (some fun _ _ => true) []).emitted.mapM
        (encodeGenerationTokenEvent (Json.compact isValidUtf8)) >>= fun tokens =>
      encodeGenerationDoneEvent (Json.compact isValidUtf8)
        (sampleRunner.run unnumberedGeneration (some fun _ _ => true) []).result >>= fun done =>
      .ok (consumeGenerationEvents (Json.compact isValidUtf8) (tokens ++ [done]) 2 none).2) =
      .ok (some (str "runtime stage call accounting was stage_calls=2 remote_stage_calls=0, " ++
        str "want 2 and 1")) := by
  decide +kernel

end JetsonFabric
