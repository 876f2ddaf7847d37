import JetsonFabric.Generation.Accounting

/-!
# The stage timings of a run

The runner keeps one entry of totals for each phase and stage, next to the totals of the whole run.
Here the two are related, over every run that succeeds, together with the counts of speculation.

* **`telemetry_adds_up`**: the totals of a successful run.
-/

namespace JetsonFabric

variable {σ : Type}

/-! ## Entries -/

/-- The phase and the stage of an entry. -/
def timingKey (t : GenerationStageTiming) : Bytes × Int := (t.phase, t.stageIndex)

/-- The entry to which the first call of a stage is added. -/
def freshTiming (stage : GenerationStage) (run : StageRunResult) : GenerationStageTiming :=
  { phase := run.response.phase
    stageIndex := stage.stageIndex
    nodeName := stage.nodeName
    remote := stage.stageIndex != 0 }

variable {timings : List GenerationStageTiming}

section Entries

variable {stage : GenerationStage} {run : StageRunResult}

theorem mem_timingKey_addStageTiming {key : Bytes × Int} :
    key ∈ (addStageTiming stage run timings).map timingKey ↔
      key ∈ timings.map timingKey ∨ key = (run.response.phase, stage.stageIndex) := by
  induction timings with
  | nil => simp [addStageTiming, timingKey, GenerationStageTiming.add]
  | cons t timings ih =>
    rw [addStageTiming]
    split
    next hsame =>
      have hkey : (run.response.phase, stage.stageIndex) = timingKey t := by
        rw [timingKey, hsame.1, hsame.2]
      have hadd : timingKey (t.add run) = timingKey t := rfl
      rw [List.map_cons, List.map_cons, hadd, hkey, List.mem_cons]
      tauto
    next =>
      rw [List.map_cons, List.map_cons, List.mem_cons, List.mem_cons, ih, or_assoc]

theorem nodup_addStageTiming (h : (timings.map timingKey).Nodup) :
    ((addStageTiming stage run timings).map timingKey).Nodup := by
  induction timings with
  | nil => simp [addStageTiming]
  | cons t timings ih =>
    rw [List.map_cons, List.nodup_cons] at h
    rw [addStageTiming]
    split
    next => exact List.nodup_cons.2 h
    next hother =>
      refine List.nodup_cons.2 ⟨?_, ih h.2⟩
      rw [mem_timingKey_addStageTiming]
      rintro (hmem | hkey)
      · exact h.1 hmem
      · exact hother (Prod.mk.injEq .. ▸ hkey)

theorem sum_addStageTiming (total : GenerationStageTiming → Int) (amount : Int)
    (hadd : ∀ t, timingKey t = (run.response.phase, stage.stageIndex) →
      total (t.add run) = total t + amount)
    (hfresh : total (freshTiming stage run) = 0) (timings : List GenerationStageTiming) :
    ((addStageTiming stage run timings).map total).sum = (timings.map total).sum + amount := by
  induction timings with
  | nil =>
    have hfirst := hadd (freshTiming stage run) rfl
    rw [hfresh] at hfirst
    change ([(freshTiming stage run).add run].map total).sum = _
    simpa using hfirst
  | cons t timings ih =>
    rw [addStageTiming]
    split
    next hsame =>
      have hfound := hadd t (by rw [timingKey, hsame.1, hsame.2])
      rw [List.map_cons, List.map_cons, List.sum_cons, List.sum_cons, hfound]
      ring
    next =>
      rw [List.map_cons, List.map_cons, List.sum_cons, List.sum_cons, ih]
      ring

end Entries

/-- The calls that are counted for a phase and a stage. -/
def callsOf (key : Bytes × Int) (timings : List GenerationStageTiming) : Int :=
  (timings.map fun t => if timingKey t = key then t.calls else 0).sum

theorem callsOf_timingKey
    (hnodup : (timings.map timingKey).Nodup) {t : GenerationStageTiming} (ht : t ∈ timings) :
    callsOf (timingKey t) timings = t.calls := by
  induction timings with
  | nil => cases ht
  | cons first timings ih =>
    rw [List.map_cons, List.nodup_cons] at hnodup
    obtain ⟨hfirst, hnodup⟩ := hnodup
    unfold callsOf at ih ⊢
    rw [List.map_cons, List.sum_cons]
    rcases List.mem_cons.1 ht with rfl | hmem
    · have hothers : ∀ other ∈ timings, timingKey other ≠ timingKey t := by
        intro other hother hkey
        exact hfirst (List.mem_map.2 ⟨other, hother, hkey⟩)
      have hrest : (timings.map fun other => if timingKey other = timingKey t then other.calls
          else 0).sum = 0 := by
        refine List.sum_eq_zero fun calls hcalls => ?_
        obtain ⟨other, hother, rfl⟩ := List.mem_map.1 hcalls
        exact if_neg (hothers other hother)
      rw [if_pos rfl, hrest, add_zero]
    · have hne : timingKey first ≠ timingKey t := fun hkey =>
        hfirst (List.mem_map.2 ⟨t, hmem, hkey.symm⟩)
      rw [if_neg hne, zero_add]
      exact ih hnodup hmem

/-! ## The totals -/

variable {stages : List GenerationStage}

/-- The totals of a run that are about its calls and its drafts. -/
structure Counters where
  stageTimings : List GenerationStageTiming
  stageCalls : Int
  bytesIn : Int
  bytesOut : Int
  rollbackStageCalls : Int
  targetDecodePasses : Int
  speculativeDraftTokens : Int
  speculativeAcceptedTokens : Int

/-- The counters of a result. -/
def GenerationResult.counters (r : GenerationResult) : Counters where
  stageTimings := r.stageTimings
  stageCalls := r.stageCalls
  bytesIn := r.bytesIn
  bytesOut := r.bytesOut
  rollbackStageCalls := r.rollbackStageCalls
  targetDecodePasses := r.targetDecodePasses
  speculativeDraftTokens := r.speculativeDraftTokens
  speculativeAcceptedTokens := r.speculativeAcceptedTokens

/-- A sum over the entries. -/
def Counters.sum (c : Counters) (total : GenerationStageTiming → Int) : Int :=
  (c.stageTimings.map total).sum

/-- What a pass over these stages adds to the totals. -/
structure PassAdds (phase : Bytes) (stages : List GenerationStage) (before after : Counters) :
    Prop where
  nodup : (before.stageTimings.map timingKey).Nodup → (after.stageTimings.map timingKey).Nodup
  mem_keys : ∀ key, key ∈ after.stageTimings.map timingKey ↔
    key ∈ before.stageTimings.map timingKey ∨
      key.1 = phase ∧ ∃ stage ∈ stages, stage.stageIndex = key.2
  callsOf : ∀ key, callsOf key after.stageTimings = callsOf key before.stageTimings +
    if key.1 = phase then (stages.countP (·.stageIndex = key.2) : Int) else 0
  stageCalls : after.stageCalls = before.stageCalls + stages.length
  calls : after.sum (·.calls) = before.sum (·.calls) + stages.length
  bytesIn : after.sum (·.bytesIn) - after.bytesIn = before.sum (·.bytesIn) - before.bytesIn
  bytesOut : after.sum (·.bytesOut) - after.bytesOut = before.sum (·.bytesOut) - before.bytesOut
  rollbackStageCalls : after.rollbackStageCalls = before.rollbackStageCalls
  targetDecodePasses : after.targetDecodePasses = before.targetDecodePasses
  speculativeDraftTokens : after.speculativeDraftTokens = before.speculativeDraftTokens
  speculativeAcceptedTokens : after.speculativeAcceptedTokens = before.speculativeAcceptedTokens

theorem passAdds_nil (phase : Bytes) (c : Counters) : PassAdds phase [] c c := by
  constructor <;> simp

theorem PassAdds.cons {phase : Bytes} {stage : GenerationStage}
    {before middle after : Counters} (hfirst : PassAdds phase [stage] before middle)
    (hrest : PassAdds phase stages middle after) : PassAdds phase (stage :: stages) before after where
  nodup h := hrest.nodup (hfirst.nodup h)
  mem_keys key := by
    rw [hrest.mem_keys, hfirst.mem_keys, List.exists_mem_cons_iff, List.exists_mem_cons_iff]
    simp only [List.not_mem_nil, false_and, exists_false, or_false]
    tauto
  callsOf key := by
    have hcount : (stage :: stages).countP (·.stageIndex = key.2) =
        [stage].countP (·.stageIndex = key.2) + stages.countP (·.stageIndex = key.2) := by
      rw [← List.countP_append, List.singleton_append]
    rw [hrest.callsOf, hfirst.callsOf, hcount]
    split_ifs <;> push_cast <;> ring
  stageCalls := by
    rw [hrest.stageCalls, hfirst.stageCalls, List.length_singleton, List.length_cons]
    push_cast
    ring
  calls := by
    rw [hrest.calls, hfirst.calls, List.length_singleton, List.length_cons]
    push_cast
    ring
  bytesIn := hrest.bytesIn.trans hfirst.bytesIn
  bytesOut := hrest.bytesOut.trans hfirst.bytesOut
  rollbackStageCalls := hrest.rollbackStageCalls.trans hfirst.rollbackStageCalls
  targetDecodePasses := hrest.targetDecodePasses.trans hfirst.targetDecodePasses
  speculativeDraftTokens := hrest.speculativeDraftTokens.trans hfirst.speculativeDraftTokens
  speculativeAcceptedTokens :=
    hrest.speculativeAcceptedTokens.trans hfirst.speculativeAcceptedTokens

/-- One accepted call. -/
theorem passAdds_addStageRun (stage : GenerationStage) (run : StageRunResult)
    (result : GenerationResult) :
    PassAdds run.response.phase [stage] result.counters
      (addStageRun stage run (countStageCall stage result)).counters where
  nodup h := nodup_addStageTiming h
  mem_keys key := by
    refine mem_timingKey_addStageTiming.trans (or_congr_right ?_)
    rw [Prod.ext_iff]
    simp [eq_comm]
  callsOf key := by
    have hcount : (if key.1 = run.response.phase then
        ([stage].countP (·.stageIndex = key.2) : Int) else 0) =
        if (run.response.phase, stage.stageIndex) = key then 1 else 0 := by
      obtain ⟨phase, index⟩ := key
      by_cases hphase : phase = run.response.phase
      · by_cases hindex : stage.stageIndex = index <;> simp [hphase, hindex]
      · simp [hphase, Ne.symm hphase]
    rw [hcount]
    refine sum_addStageTiming _ _ (fun t ht => ?_) ?_ _
    · change (if timingKey t = key then t.calls + 1 else 0) = _
      rw [ht]
      split_ifs <;> ring
    · exact ite_self 0
  stageCalls := rfl
  calls := sum_addStageTiming (·.calls) 1 (fun _ _ => rfl) rfl _
  bytesIn := by
    have hsum := sum_addStageTiming (·.bytesIn) run.response.bytesIn (fun _ _ => rfl)
      (rfl : (freshTiming stage run).bytesIn = 0) result.stageTimings
    change ((addStageTiming stage run result.stageTimings).map (·.bytesIn)).sum -
      (result.bytesIn + run.response.bytesIn) = _
    rw [hsum]
    exact add_sub_add_right_eq_sub _ _ _
  bytesOut := by
    have hsum := sum_addStageTiming (·.bytesOut) run.response.bytesOut (fun _ _ => rfl)
      (rfl : (freshTiming stage run).bytesOut = 0) result.stageTimings
    change ((addStageTiming stage run result.stageTimings).map (·.bytesOut)).sum -
      (result.bytesOut + run.response.bytesOut) = _
    rw [hsum]
    exact add_sub_add_right_eq_sub _ _ _
  rollbackStageCalls := rfl
  targetDecodePasses := rfl
  speculativeDraftTokens := rfl
  speculativeAcceptedTokens := rfl

/-- **A pass that succeeds adds one call for each stage.** -/
theorem runPassFrom_passAdds {invoke : StageInvoker σ} {id : Bytes}
    {r : StageRequest} {f : StageResponse} {ids : List UInt32} {result : GenerationResult}
    {world : σ} {answer : StageResponse × List UInt32}
    (h : (runPassFrom invoke id stages r f ids result world).outcome = .ok answer) :
    PassAdds r.phase stages result.counters
      (runPassFrom invoke id stages r f ids result world).result.counters := by
  induction stages generalizing r f ids result world with
  | nil => exact passAdds_nil r.phase result.counters
  | cons stage stages ih =>
    simp only [runPassFrom] at h ⊢
    split at h
    · cases h
    rename_i hok
    rw [if_neg hok]
    split at h
    · cases h
    rename_i hresponse
    rw [if_neg hresponse]
    have hphase := phase_of_validateResponse (not_not.1 hresponse)
    have hfirst := passAdds_addStageRun stage (invoke world stage
      (applyStage stage { r with requestId := id }) .execute).1 result
    rw [hphase] at hfirst
    split at h
    · rw [if_pos ‹_›]
      exact hfirst.cons (ih h)
    · rw [if_neg ‹_›]
      exact hfirst.cons (ih h)

/-! ## A round -/

/-- The totals after the draft of a pass was compared. -/
def Counters.compared (c : Counters) (stageCount drafted accepted : Nat) : Counters :=
  { c with
    rollbackStageCalls :=
      c.rollbackStageCalls + if accepted < drafted then (stageCount : Int) else 0
    speculativeDraftTokens := c.speculativeDraftTokens + drafted
    speculativeAcceptedTokens := c.speculativeAcceptedTokens + accepted }

theorem acceptedCount_le (target : List Sampled) (draft : List UInt32) :
    acceptedCount target draft ≤ draft.length := by
  fun_induction acceptedCount target draft with
  | case1 output target token draft hsame ih => exact Nat.succ_le_succ ih
  | case2 => exact Nat.zero_le _
  | case3 => exact Nat.zero_le _

section Round

variable {runner : GenerationRunner σ} {request : GenerationRequest} {sink : TokenSink}
variable {st st' : RunState σ}

theorem emit_counters {token : UInt32} {text : Bytes}
    (h : emit runner request sink st token text = .ok st') :
    st'.result.counters = st.result.counters := by
  rw [emit_eq] at h
  split at h
  · cases h
  · split at h
    · cases h
      rfl
    · cases h

theorem emitOutputs_counters {outputs : List Sampled}
    (h : emitOutputs runner request sink outputs st = .ok st') :
    st'.result.counters = st.result.counters := by
  induction outputs generalizing st with
  | nil =>
    cases h
    rfl
  | cons output outputs ih =>
    unfold emitOutputs at h
    split at h
    · split at h
      · cases h
        rfl
      · split at h
        · cases h
        · rename_i next hnext
          exact (ih h).trans (emit_counters hnext)
    · cases h
      rfl

theorem rollbackSessionsFrom_counters (invoke : StageInvoker σ) (n : Int)
    (stages : List GenerationStage) (e : Bytes) (result : GenerationResult) (world : σ) :
    (rollbackSessionsFrom request invoke n stages e result world).2.1.counters =
      { result.counters with
        rollbackStageCalls := result.rollbackStageCalls + stages.length } := by
  induction stages generalizing e result world with
  | nil => simp [rollbackSessionsFrom, GenerationResult.counters]
  | cons stage stages ih =>
    rw [rollbackSessionsFrom, ih]
    simp only [addRollback, GenerationResult.counters, List.length_cons]
    congr 1
    push_cast
    ring

theorem verifyDraft_counters {draft : List UInt32} {target : List Sampled}
    (h : verifyDraft runner request sink st draft target = .ok st') :
    st'.result.counters = st.result.counters.compared request.stages.length draft.length
      (acceptedCount target draft) := by
  have hle := acceptedCount_le target draft
  simp only [verifyDraft] at h
  split at h
  · cases h
  rename_i next hnext
  rw [emitOutputs_counters h]
  unfold rollbackRejected at hnext
  by_cases hrejected : acceptedCount target draft < draft.length
  · rw [if_pos hrejected, if_pos (by omega)] at hnext
    simp only at hnext
    split at hnext
    · cases hnext
    · cases hnext
      change (rollbackSessionsFrom request _ _ _ _ _ _).2.1.counters = _
      rw [rollbackSessionsFrom_counters, Counters.compared, if_pos hrejected]
      rfl
  · rw [if_neg hrejected, if_neg (by omega)] at hnext
    cases hnext
    change (countDraft st.result draft.length (acceptedCount target draft)).counters = _
    rw [Counters.compared, if_neg hrejected, add_zero]
    rfl

variable (runner request sink)

/-- The next draft and how much of it is accepted. -/
def roundOutcome (st : RunState σ) : Option (Nat × Nat) :=
  let draft := propose runner request st
  match (runPass request runner.invokeStage (decodeRequest request st (st.previousToken :: draft))
    st.result st.world).outcome with
  | .error _ => none
  | .ok (finalResponse, _) =>
    match readSampledBatch finalResponse with
    | .error _ => none
    | .ok target => some (draft.length, acceptedCount target draft)

/-- The rounds of the decode loop, by what each drafted and accepted. -/
inductive DecodeRounds : RunState σ → List (Nat × Nat) → RunState σ → Prop
  | done {st : RunState σ}
      (hcond : ¬(st.result.completionTokens < request.maxTokens ∧ ¬ st.endOfGeneration)) :
      DecodeRounds st [] st
  | round {st next last : RunState σ} {outcome : Nat × Nat} {rounds : List (Nat × Nat)}
      (hcond : st.result.completionTokens < request.maxTokens ∧ ¬ st.endOfGeneration)
      (hround : roundOutcome runner request st = some outcome)
      (hnext : decodeIteration runner request sink st = .ok next)
      (hrest : DecodeRounds next rounds last) : DecodeRounds st (outcome :: rounds) last

variable {runner request sink}

/-- **A round** makes one pass over the stages and compares its draft. -/
theorem decodeIteration_counters (h : decodeIteration runner request sink st = .ok st') :
    ∃ drafted accepted after, roundOutcome runner request st = some (drafted, accepted) ∧
      accepted ≤ drafted ∧ PassAdds (str "decode") request.stages st.result.counters after ∧
      st'.result.counters =
        ({ after with targetDecodePasses := after.targetDecodePasses + 1 } : Counters).compared
          request.stages.length drafted accepted := by
  simp only [decodeIteration] at h
  split at h
  · cases h
  rename_i answer ids hanswer
  split at h
  · cases h
  rename_i target htarget
  split at h
  · cases h
  have hround : roundOutcome runner request st =
      some ((propose runner request st).length,
        acceptedCount target (propose runner request st)) := by
    simp only [roundOutcome, decodeRequest, hanswer, htarget]
  refine ⟨_, _, _, hround, acceptedCount_le _ _, runPassFrom_passAdds hanswer, ?_⟩
  exact verifyDraft_counters h

end Round

/-! ## A run -/

/-- The totals after a prefill pass and these rounds. -/
structure Telemetry (stages : List GenerationStage) (rounds : List (Nat × Nat)) (c : Counters) :
    Prop where
  nodup : (c.stageTimings.map timingKey).Nodup
  mem_keys : ∀ key, key ∈ c.stageTimings.map timingKey ↔
    (key.1 = str "prefill" ∨ key.1 = str "decode" ∧ rounds ≠ []) ∧
      ∃ stage ∈ stages, stage.stageIndex = key.2
  callsOf : ∀ key, callsOf key c.stageTimings =
    ((if key.1 = str "prefill" then 1 else 0) + if key.1 = str "decode" then (rounds.length : Int)
      else 0) * stages.countP (·.stageIndex = key.2)
  stageCalls : c.stageCalls = stages.length * (1 + rounds.length)
  calls : c.sum (·.calls) = c.stageCalls
  bytesIn : c.sum (·.bytesIn) = c.bytesIn
  bytesOut : c.sum (·.bytesOut) = c.bytesOut
  rollbackStageCalls :
    c.rollbackStageCalls = stages.length * rounds.countP (fun round => round.2 < round.1)
  targetDecodePasses : c.targetDecodePasses = rounds.length
  accepted_le : c.speculativeAcceptedTokens ≤ c.speculativeDraftTokens

theorem prefill_ne_decode : str "prefill" ≠ str "decode" := by decide

theorem telemetry_prefill {c : Counters}
    (h : PassAdds (str "prefill") stages (GenerationResult.counters {}) c) :
    Telemetry stages [] c where
  nodup := h.nodup List.nodup_nil
  mem_keys key := by
    rw [h.mem_keys]
    simp [GenerationResult.counters]
  callsOf key := by
    rw [h.callsOf]
    simp [GenerationResult.counters, JetsonFabric.callsOf]
  stageCalls := by
    rw [h.stageCalls]
    simp [GenerationResult.counters]
  calls := by
    rw [h.calls, h.stageCalls]
    rfl
  bytesIn := sub_eq_zero.1 h.bytesIn
  bytesOut := sub_eq_zero.1 h.bytesOut
  rollbackStageCalls := by
    rw [h.rollbackStageCalls]
    simp [GenerationResult.counters]
  targetDecodePasses := h.targetDecodePasses
  accepted_le := by
    rw [h.speculativeAcceptedTokens, h.speculativeDraftTokens]
    exact le_rfl

/-- A round adds its pass, its draft and its rollback. -/
theorem Telemetry.round {rounds : List (Nat × Nat)}
    {before after : Counters} {drafted accepted : Nat} (h : Telemetry stages rounds before)
    (hpass : PassAdds (str "decode") stages before after) (hle : accepted ≤ drafted) :
    Telemetry stages (rounds ++ [(drafted, accepted)])
      (({ after with targetDecodePasses := after.targetDecodePasses + 1 } : Counters).compared
        stages.length drafted accepted) where
  nodup := hpass.nodup h.nodup
  mem_keys key := by
    refine (hpass.mem_keys key).trans ?_
    rw [h.mem_keys, and_iff_left (show rounds ++ [(drafted, accepted)] ≠ [] by simp)]
    constructor
    · rintro (⟨hprefill | ⟨hdecode, -⟩, hstage⟩ | ⟨hdecode, hstage⟩)
      · exact ⟨.inl hprefill, hstage⟩
      · exact ⟨.inr hdecode, hstage⟩
      · exact ⟨.inr hdecode, hstage⟩
    · rintro ⟨hprefill | hdecode, hstage⟩
      · exact .inl ⟨.inl hprefill, hstage⟩
      · exact .inr ⟨hdecode, hstage⟩
  callsOf key := by
    refine (hpass.callsOf key).trans ?_
    rw [h.callsOf, List.length_append, List.length_singleton]
    by_cases hdecode : key.1 = str "decode"
    · rw [if_pos hdecode, if_pos hdecode, if_pos hdecode]
      push_cast
      ring
    · rw [if_neg hdecode, if_neg hdecode, if_neg hdecode, add_zero]
  stageCalls := by
    refine hpass.stageCalls.trans ?_
    rw [h.stageCalls, List.length_append, List.length_singleton]
    push_cast
    ring
  calls := by
    refine hpass.calls.trans ?_
    rw [h.calls]
    exact hpass.stageCalls.symm
  bytesIn := sub_eq_zero.1 (hpass.bytesIn.trans (sub_eq_zero.2 h.bytesIn))
  bytesOut := sub_eq_zero.1 (hpass.bytesOut.trans (sub_eq_zero.2 h.bytesOut))
  rollbackStageCalls := by
    change after.rollbackStageCalls + _ = _
    rw [hpass.rollbackStageCalls, h.rollbackStageCalls, List.countP_append, List.countP_singleton]
    by_cases hrejected : accepted < drafted
    · simp only [hrejected, if_true, decide_true]
      push_cast
      ring
    · simp [hrejected]
  targetDecodePasses := by
    change after.targetDecodePasses + 1 = _
    rw [hpass.targetDecodePasses, h.targetDecodePasses, List.length_append, List.length_singleton]
    push_cast
    rfl
  accepted_le := by
    change after.speculativeAcceptedTokens + (accepted : Int) ≤
      after.speculativeDraftTokens + drafted
    rw [hpass.speculativeAcceptedTokens, hpass.speculativeDraftTokens]
    have := h.accepted_le
    omega

variable {f : Finished σ}

section Run

variable {runner : GenerationRunner σ} {request : GenerationRequest} {sink : TokenSink}

theorem Telemetry.rounds {st last : RunState σ} {earlier rounds : List (Nat × Nat)}
    (hrounds : DecodeRounds runner request sink st rounds last)
    (h : Telemetry request.stages earlier st.result.counters) :
    Telemetry request.stages (earlier ++ rounds) last.result.counters := by
  induction hrounds generalizing earlier with
  | done => rwa [List.append_nil]
  | round _ hround hnext _ ih =>
    obtain ⟨drafted, accepted, after, houtcome, hle, hpass, hcounters⟩ :=
      decodeIteration_counters hnext
    rw [hround] at houtcome
    obtain rfl := Option.some.inj houtcome
    have hstep := h.round hpass hle
    rw [← hcounters] at hstep
    simpa using ih hstep

theorem decodeRounds_of_decodeLoop {st last : RunState σ}
    (h : decodeLoop runner request sink st = .ok last) :
    ∃ rounds, DecodeRounds runner request sink st rounds last := by
  fun_induction decodeLoop runner request sink st with
  | case1 st hcond f hnext => cases h
  | case2 st hcond next hnext ih =>
    obtain ⟨rounds, hrounds⟩ := ih h
    obtain ⟨drafted, accepted, -, houtcome, -⟩ := decodeIteration_counters hnext
    exact ⟨_, .round hcond houtcome hnext hrounds⟩
  | case3 st hcond =>
    cases h
    exact ⟨[], .done hcond⟩

/-! ### Runs that stop early -/

theorem emit_error {st : RunState σ} {token : UInt32} {text : Bytes}
    (h : emit runner request sink st token text = .error f) : f.result.ok = false := by
  rw [emit_eq] at h
  split at h
  · cases h
    exact failWith_ok rfl
  · split at h
    · cases h
    · cases h
      exact failWith_ok rfl

theorem emitOutputs_error {outputs : List Sampled} {st : RunState σ}
    (h : emitOutputs runner request sink outputs st = .error f) : f.result.ok = false := by
  induction outputs generalizing st with
  | nil => cases h
  | cons output outputs ih =>
    unfold emitOutputs at h
    split at h
    · split at h
      · cases h
      · split at h
        · rename_i hemit
          cases h
          exact emit_error hemit
        · exact ih h
    · cases h

theorem rollbackRejected_error {st : RunState σ} {n : Int}
    (h : rollbackRejected runner request st n = .error f) : f.result.ok = false := by
  unfold rollbackRejected at h
  split at h
  · simp only at h
    split at h
    · cases h
      exact failWith_ok rfl
    · cases h
  · cases h

theorem verifyDraft_error {st : RunState σ} {draft : List UInt32} {target : List Sampled}
    (h : verifyDraft runner request sink st draft target = .error f) :
    f.result.ok = false := by
  simp only [verifyDraft] at h
  split at h
  · rename_i hrollback
    cases h
    exact rollbackRejected_error hrollback
  · exact emitOutputs_error h

theorem decodeIteration_error {st : RunState σ}
    (h : decodeIteration runner request sink st = .error f) : f.result.ok = false := by
  simp only [decodeIteration] at h
  split at h
  · rename_i herror
    cases h
    exact failWith_ok (runPassFrom_error herror)
  split at h
  · cases h
    exact failWith_ok rfl
  split at h
  · cases h
    exact failWith_ok rfl
  · exact verifyDraft_error h

theorem decodeLoop_error {st : RunState σ}
    (h : decodeLoop runner request sink st = .error f) : f.result.ok = false := by
  fun_induction decodeLoop runner request sink st with
  | case1 st hcond g hnext =>
    cases h
    exact decodeIteration_error hnext
  | case2 st hcond next hnext ih => exact ih h
  | case3 st hcond => cases h

theorem prefill_telemetry (world : σ) :
    Leaves (fun st => Telemetry request.stages [] st.result.counters)
      (fun f => f.result.ok = false) (prefill runner request sink world) := by
  simp only [prefill]
  split
  · rename_i herror
    exact failWith_ok (runPassFrom_error herror)
  rename_i answer ids hanswer
  have hstart := telemetry_prefill (runPassFrom_passAdds hanswer)
  split
  · exact failWith_ok rfl
  · split
    · exact hstart
    · cases hemit : emit runner request sink _ _ _ with
      | error f => exact emit_error hemit
      | ok next =>
        show Telemetry request.stages [] next.result.counters
        rw [emit_counters hemit]
        exact hstart
  · exact failWith_ok rfl

end Run

theorem telemetry_of_run (runner : GenerationRunner σ) (request : GenerationRequest)
    (sink : TokenSink) (world : σ)
    (hok : (runner.run request (some sink) world).result.ok = true) :
    ∃ st rounds last, prefill runner request sink world = .ok st ∧
      DecodeRounds runner request sink st rounds last ∧
      Telemetry request.stages rounds
        (runner.run request (some sink) world).result.counters := by
  have hstart := @prefill_telemetry σ runner request sink world
  simp only [GenerationRunner.run] at hok ⊢
  cases hprefill : prefill runner request sink world with
  | error f =>
    rw [hprefill] at hstart hok
    exact absurd hok (Bool.eq_false_iff.1 hstart)
  | ok st =>
    rw [hprefill] at hstart hok
    cases hloop : decodeLoop runner request sink st with
    | error f =>
      simp only [hloop] at hok
      exact absurd hok (Bool.eq_false_iff.1 (decodeLoop_error hloop))
    | ok last =>
      simp only [hloop] at hok ⊢
      obtain ⟨rounds, hrounds⟩ := decodeRounds_of_decodeLoop hloop
      refine ⟨st, rounds, last, rfl, hrounds, ?_⟩
      have htotals := Telemetry.rounds hrounds hstart
      unfold finish at hok ⊢
      dsimp only at hok ⊢
      split at hok
      · cases hok
      rename_i hclosed
      rw [if_neg hclosed]
      exact htotals

/-- **The telemetry of a run** has one entry for each phase and stage, and adds up to the totals. -/
theorem telemetry_adds_up (runner : GenerationRunner σ) (request : GenerationRequest)
    (sink : TokenSink) (world : σ) {result : GenerationResult}
    (hresult : (runner.run request (some sink) world).result = result) (hok : result.ok = true) :
    ∃ st rounds last, prefill runner request sink world = .ok st ∧
      DecodeRounds runner request sink st rounds last ∧
      result.targetDecodePasses = rounds.length ∧
      (result.stageTimings.map timingKey).Nodup ∧
      (∀ phase index, (phase, index) ∈ result.stageTimings.map timingKey ↔
        (phase = str "prefill" ∨ phase = str "decode" ∧ 0 < result.targetDecodePasses) ∧
          ∃ stage ∈ request.stages, stage.stageIndex = index) ∧
      (∀ t ∈ result.stageTimings,
        t.calls = (if t.phase = str "prefill" then 1 else result.targetDecodePasses) *
          request.stages.countP (·.stageIndex = t.stageIndex)) ∧
      ((request.stages.map (·.stageIndex)).Nodup → ∀ t ∈ result.stageTimings,
        t.calls = if t.phase = str "prefill" then 1 else result.targetDecodePasses) ∧
      (result.stageTimings.map (·.calls)).sum = result.stageCalls ∧
      result.stageCalls = request.stages.length * (1 + result.targetDecodePasses) ∧
      (result.stageTimings.map (·.bytesIn)).sum = result.bytesIn ∧
      (result.stageTimings.map (·.bytesOut)).sum = result.bytesOut ∧
      result.speculativeAcceptedTokens ≤ result.speculativeDraftTokens ∧
      result.rollbackStageCalls =
        request.stages.length * rounds.countP fun round => round.2 < round.1 := by
  subst hresult
  obtain ⟨st, rounds, last, hprefill, hrounds, h⟩ := telemetry_of_run runner request sink world hok
  generalize (runner.run request (some sink) world).result = result at h ⊢
  have hpasses : result.targetDecodePasses = rounds.length := h.targetDecodePasses
  have hentries : ∀ t ∈ result.stageTimings,
      t.calls = (if t.phase = str "prefill" then 1 else result.targetDecodePasses) *
        request.stages.countP (·.stageIndex = t.stageIndex) := by
    intro t ht
    have hphase := ((h.mem_keys (timingKey t)).1 (List.mem_map_of_mem ht)).1
    rw [← callsOf_timingKey h.nodup ht, hpasses]
    refine (h.callsOf (timingKey t)).trans (congrArg (· * _) ?_)
    rcases hphase with hprefill | ⟨hdecode, -⟩
    · rw [if_pos hprefill, if_neg (by rw [hprefill]; exact prefill_ne_decode), add_zero,
        if_pos (show t.phase = _ from hprefill)]
    · have hne : t.phase ≠ str "prefill" := fun heq => prefill_ne_decode (heq.symm.trans hdecode)
      rw [if_neg (show ¬(timingKey t).1 = _ from hne), if_pos hdecode, zero_add, if_neg hne]
  refine ⟨st, rounds, last, hprefill, hrounds, hpasses, h.nodup, ?_, hentries, ?_, h.calls, ?_,
    h.bytesIn, h.bytesOut, h.accepted_le, h.rollbackStageCalls⟩
  · intro phase index
    rw [hpasses, Nat.cast_pos, List.length_pos_iff]
    exact h.mem_keys (phase, index)
  · intro hdistinct t ht
    obtain ⟨stage, hstage, hindex⟩ := ((h.mem_keys (timingKey t)).1 (List.mem_map_of_mem ht)).2
    have hone : request.stages.countP (·.stageIndex = t.stageIndex) = 1 := by
      have hcount := List.count_eq_one_of_mem hdistinct (List.mem_map.2 ⟨stage, hstage, hindex⟩)
      rw [List.count_eq_countP, List.countP_map] at hcount
      rw [← hcount]
      exact List.countP_congr fun other _ => by simp [timingKey]
    rw [hentries t ht, hone, Nat.cast_one, mul_one]
  · rw [hpasses]
    exact h.stageCalls

/-- A run whose rounds reject a part of their drafts. -/
theorem telemetry_adds_up_sample :
    0 < (sampleRunner.run sampleGeneration (some fun _ _ => true) []).result.rollbackStageCalls ∧
    (sampleRunner.run sampleGeneration (some fun _ _ => true) []).result.stageCalls =
      2 * (1 + (sampleRunner.run sampleGeneration (some fun _ _ => true)
        []).result.targetDecodePasses) := by
  obtain ⟨-, -, -, -, -, -, -, -, -, -, -, hcalls, -⟩ := telemetry_adds_up sampleRunner
    sampleGeneration (fun _ _ => true) [] rfl (by decide +kernel)
  exact ⟨by decide +kernel, hcalls⟩

/-- **Two stages with one index** share an entry. -/
theorem telemetry_shared_entry :
    (sampleRunner.run unnumberedGeneration (some fun _ _ => true) []).result.ok = true ∧
    (sampleRunner.run unnumberedGeneration (some fun _ _ => true)
      []).result.stageTimings.map (fun t => (timingKey t, t.calls)) =
        [((str "prefill", 0), 2)] := by
  decide +kernel

end JetsonFabric
