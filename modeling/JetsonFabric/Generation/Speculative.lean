import JetsonFabric.Lib.Greedy
import JetsonFabric.Generation.Runner

/-!
# Speculative decoding is greedy decoding

A `GreedyTarget` says that the stages behind an invoker act together as one deterministic greedy
generator: what a pass, a rollback and a close do to the history they hold. Over such stages a run
emits the greedy stream of its prompt, whatever the draft strategy.
-/

namespace JetsonFabric

open Greedy

/-! ## The stream of a list of outputs -/

/-- Why a stream ends before its outputs do. -/
inductive Ending
  | stop
  | malformed (what : Bytes)

/-- The tokens of a stream, and an unfinished character. -/
structure Stream where
  pendingText : Bytes := []
  emitted : List GenerationToken := []

/-- One more output. -/
def emitOne (s : Stream) (output : Sampled) : Except (Ending × Stream) Stream :=
  if output.endOfGeneration then .error (.stop, s)
  else
    match completeUtf8Prefix (s.pendingText ++ output.text) with
    | .error e => .error (.malformed e, s)
    | .ok n =>
      .ok
        { pendingText := (s.pendingText ++ output.text).drop n
          emitted := s.emitted ++
            [{ token := output.token, text := (s.pendingText ++ output.text).take n
               index := s.emitted.length }] }

/-- The stream of a list of outputs. -/
def emitAll (s : Stream) (outputs : List Sampled) : Except (Ending × Stream) Stream :=
  outputs.foldlM emitOne s

theorem emitAll_cons (s : Stream) (output : Sampled) (outputs : List Sampled) :
    emitAll s (output :: outputs) = (emitOne s output).bind fun s => emitAll s outputs := rfl

theorem emitAll_append (s : Stream) (outputs more : List Sampled) :
    emitAll s (outputs ++ more) = (emitAll s outputs).bind fun s => emitAll s more :=
  List.foldlM_append

theorem not_endOfGeneration_of_emitAll {s s' : Stream} {outputs : List Sampled}
    (h : emitAll s outputs = .ok s') : ∀ output ∈ outputs, output.endOfGeneration = false := by
  induction outputs generalizing s with
  | nil => simp
  | cons output outputs ih =>
    rw [emitAll_cons] at h
    cases hone : emitOne s output with
    | error e => simp [hone, Except.bind] at h
    | ok next =>
      simp only [hone, Except.bind] at h
      have hout : output.endOfGeneration = false := by
        cases he : output.endOfGeneration with
        | false => rfl
        | true => simp [emitOne, he] at hone
      intro o ho
      rcases List.mem_cons.mp ho with rfl | ho
      · exact hout
      · exact ih h o ho

theorem emitAll_length {s s' : Stream} {outputs : List Sampled} (h : emitAll s outputs = .ok s') :
    s'.emitted.length = s.emitted.length + outputs.length := by
  induction outputs generalizing s with
  | nil =>
    cases h
    rfl
  | cons output outputs ih =>
    rw [emitAll_cons] at h
    cases hone : emitOne s output with
    | error e => simp [hone, Except.bind] at h
    | ok next =>
      simp only [hone, Except.bind] at h
      have hnext : next.emitted.length = s.emitted.length + 1 := by
        simp only [emitOne] at hone
        split at hone
        · cases hone
        · split at hone <;> cases hone
          simp
      rw [ih h, hnext, List.length_cons]
      omega

/-! ## The contract of the stages -/

section Target

variable {σ : Type}

/-- The stages act as one greedy generator; `holds` is its history. -/
structure GreedyTarget (invoke : StageInvoker σ) (request : GenerationRequest) where
  /-- The greedy token, its text and its flag for a history. -/
  next : List UInt32 → Sampled
  /-- The tokens of the prompt. -/
  prompt : List UInt32
  /-- The session is not open yet. -/
  fresh : σ → Prop
  holds : σ → List UInt32 → Prop
  /-- What closing the sessions reports; empty when it succeeds. -/
  closeError : Bytes
  prefill : ∀ world result, fresh world →
    ∃ response ids, (runPass request invoke (initialRequest request (str "prefill") 0 []) result
        world).outcome = .ok (response, ids) ∧
      readSampledBatch response = .ok [next prompt] ∧
      holds (runPass request invoke (initialRequest request (str "prefill") 0 []) result
        world).world prompt
  decode : ∀ world result h tokens, holds world h → tokens ≠ [] →
    (tokens.length : Int) ≤ request.maxTokens →
    ∃ response ids, (runPass request invoke (initialRequest request (str "decode")
        (1 + h.length - prompt.length) tokens) result world).outcome = .ok (response, ids) ∧
      readSampledBatch response = .ok (verify next h tokens) ∧
      holds (runPass request invoke (initialRequest request (str "decode")
        (1 + h.length - prompt.length) tokens) result world).world (h ++ tokens)
  rollback : ∀ world result h tokens, holds world (h ++ tokens) → tokens ≠ [] →
    prompt.length ≤ h.length →
    (rollbackSessions request invoke tokens.length result world).1 = [] ∧
      holds (rollbackSessions request invoke tokens.length result world).2.2 h
  close : ∀ world h, holds world h → (closeSessions request invoke world).1 = closeError

variable {runner : GenerationRunner σ} {request : GenerationRequest} {sink : TokenSink}

/-- The greedy outputs for a prompt. -/
def GreedyTarget.outputs {invoke : StageInvoker σ} (target : GreedyTarget invoke request) :
    List Sampled :=
  greedy target.next Sampled.token Sampled.endOfGeneration request.maxTokens.toNat target.prompt

/-- The outputs that a draft confirms, and the next one. -/
abbrev GreedyTarget.verified {invoke : StageInvoker σ} (target : GreedyTarget invoke request)
    (h : List UInt32) (v : UInt32) (draft : List UInt32) : List Sampled :=
  Greedy.verified target.next Sampled.token Sampled.endOfGeneration h v draft

/-- The history after the token `v` and the accepted part of a draft. -/
abbrev GreedyTarget.acceptedHistory {invoke : StageInvoker σ}
    (target : GreedyTarget invoke request) (h : List UInt32) (v : UInt32)
    (draft : List UInt32) : List UInt32 :=
  Greedy.acceptedHistory target.next Sampled.token Sampled.endOfGeneration h v draft

/-- The error of a run whose text is malformed. -/
def malformedText (closeError what : Bytes) : GenerationResult :=
  generationError (str "502 Bad Gateway") (str "invalid_token_text")
    (if closeError ≠ [] then what ++ str "; cleanup: " ++ closeError else what)

/-- The local variables of a run agree with a stream. -/
structure Follows (st : RunState σ) (s : Stream) : Prop where
  pending : st.pendingText = s.pendingText
  emitted : st.emitted = s.emitted
  sampled : st.result.sampledTokens = s.emitted.map GenerationToken.token
  completion : st.result.completionTokens = s.emitted.length

/-- A run, returned or not, agrees with a stream, ended or not. -/
inductive Agrees (target : GreedyTarget runner.invokeStage request) :
    Except (Ending × Stream) Stream → Except (Finished σ) (RunState σ) → Prop
  | running {s : Stream} {st : RunState σ} {h : List UInt32} (hst : Follows st s)
      (hopen : target.holds st.world h) (hend : st.endOfGeneration = false) :
      Agrees target (.ok s) (.ok st)
  | stopped {s : Stream} {st : RunState σ} {h : List UInt32} (hst : Follows st s)
      (hopen : target.holds st.world h) (hend : st.endOfGeneration = true) :
      Agrees target (.error (.stop, s)) (.ok st)
  | malformed {s : Stream} {what : Bytes} {f : Finished σ} (hemitted : f.emitted = s.emitted)
      (hresult : f.result = malformedText target.closeError what) :
      Agrees target (.error (.malformed what, s)) (.error f)

/-! ## The runner follows the stream -/

theorem fail_malformed (target : GreedyTarget runner.invokeStage request) {st : RunState σ}
    {h : List UInt32} (hopen : target.holds st.world h) (what : Bytes) :
    (fail runner request st (str "502 Bad Gateway") (str "invalid_token_text") what).result =
      malformedText target.closeError what := by
  simp only [fail, failWith, target.close _ _ hopen, malformedText, generationError]
  split <;> rfl

theorem emit_ok {st st' : RunState σ} {token : UInt32} {text : Bytes}
    (h : emit runner request sink st token text = .ok st') :
    st'.world = st.world ∧ st'.decodeStep = st.decodeStep ∧ st'.previousToken = token ∧
      st'.endOfGeneration = st.endOfGeneration := by
  simp only [emit] at h
  split at h
  · cases h
  · split at h
    · cases h
      exact ⟨rfl, rfl, rfl, rfl⟩
    · cases h

theorem emit_agrees (target : GreedyTarget runner.invokeStage request)
    (hsink : ∀ before token, sink before token = true) {st : RunState σ} {s : Stream}
    {h : List UInt32} (hst : Follows st s) (hopen : target.holds st.world h)
    (hend : st.endOfGeneration = false) {output : Sampled}
    (hout : output.endOfGeneration = false) :
    Agrees target (emitOne s output) (emit runner request sink st output.token output.text) := by
  simp only [emitOne, emit, hout, Bool.false_eq_true, if_false, hst.pending, hsink, if_true]
  cases completeUtf8Prefix (s.pendingText ++ output.text) with
  | error what => exact .malformed hst.emitted (fail_malformed target hopen what)
  | ok n =>
    refine .running ⟨rfl, ?_, ?_, ?_⟩ hopen hend
    · simp [hst.emitted, hst.sampled]
    · simp [hst.sampled]
    · simp [hst.completion]

theorem emitOutputs_frame {outputs : List Sampled} {st st' : RunState σ}
    (h : emitOutputs runner request sink outputs st = .ok st') :
    st'.world = st.world ∧ st'.decodeStep = st.decodeStep := by
  induction outputs generalizing st with
  | nil =>
    cases h
    exact ⟨rfl, rfl⟩
  | cons output outputs ih =>
    unfold emitOutputs at h
    split at h
    · split at h
      · cases h
        exact ⟨rfl, rfl⟩
      · split at h
        · cases h
        · rename_i next hnext
          obtain ⟨hworld, hstep, -⟩ := emit_ok hnext
          obtain ⟨hworld', hstep'⟩ := ih h
          exact ⟨hworld'.trans hworld, hstep'.trans hstep⟩
    · cases h
      exact ⟨rfl, rfl⟩

theorem emitOutputs_previousToken {outputs : List Sampled} {st st' : RunState σ}
    (h : emitOutputs runner request sink outputs st = .ok st')
    (hroom : st.result.completionTokens + outputs.length ≤ request.maxTokens)
    (hend : st'.endOfGeneration = false) {o : Sampled} (hlast : outputs.getLast? = some o) :
    st'.previousToken = o.token := by
  induction outputs generalizing st with
  | nil => simp at hlast
  | cons output outputs ih =>
    unfold emitOutputs at h
    rw [List.length_cons, Nat.cast_succ] at hroom
    rw [if_pos (by omega)] at h
    split at h
    · cases h
      cases hend
    split at h
    · cases h
    rename_i next hnext
    have hcount := emit_completionTokens hnext
    cases outputs with
    | nil =>
      cases h
      obtain rfl : output = o := by simpa using hlast
      exact (emit_ok hnext).2.2.1
    | cons output' outputs =>
      exact ih h (by omega) (by simpa [List.getLast?_cons_cons] using hlast)

/-- **Emitting outputs follows the stream.** -/
theorem emitOutputs_agrees (target : GreedyTarget runner.invokeStage request)
    (hsink : ∀ before token, sink before token = true) {outputs : List Sampled}
    {st : RunState σ} {s : Stream} {h : List UInt32} (hst : Follows st s)
    (hopen : target.holds st.world h) (hend : st.endOfGeneration = false)
    (hroom : st.result.completionTokens + outputs.length ≤ request.maxTokens) :
    Agrees target (emitAll s outputs) (emitOutputs runner request sink outputs st) := by
  induction outputs generalizing st s h with
  | nil => exact .running hst hopen hend
  | cons output outputs ih =>
    rw [List.length_cons, Nat.cast_succ] at hroom
    rw [emitAll_cons, emitOutputs, if_pos (by omega)]
    cases hout : output.endOfGeneration with
    | true =>
      have hstop : emitOne s output = .error (.stop, s) := by simp [emitOne, hout]
      rw [hstop]
      exact .stopped ⟨hst.pending, hst.emitted, hst.sampled, hst.completion⟩ hopen rfl
    | false =>
      have hone := emit_agrees target hsink hst hopen hend hout
      have hkeep (st' : RunState σ)
          (h' : emit runner request sink st output.token output.text = .ok st') :
          st'.result.completionTokens = st.result.completionTokens + 1 ∧
            st'.endOfGeneration = false :=
        ⟨emit_completionTokens h', (emit_ok h').2.2.2.trans hend⟩
      simp only [Bool.false_eq_true, if_false]
      generalize emitOne s output = r at hone
      generalize emit runner request sink st output.token output.text = x at hone hkeep
      cases hone with
      | running hst' hopen' hend' =>
        have hcount := (hkeep _ rfl).1
        exact ih hst' hopen' hend' (by omega)
      | stopped hst' hopen' hend' => simp [(hkeep _ rfl).2] at hend'
      | malformed hemitted hresult => exact .malformed hemitted hresult

/-! ## One round -/

/-- A draft strategy that keeps to the number of tokens asked for. -/
def Bounded (strategy : Option DraftStrategy) : Prop :=
  ∀ draft, strategy = some draft → ∀ history n, (draft history n).length ≤ n

/-- The session holds all tokens but the previous one. -/
structure Ready (target : GreedyTarget runner.invokeStage request) (st : RunState σ) (s : Stream)
    (h : List UInt32) : Prop where
  follows : Follows st s
  holds : target.holds st.world h
  running : st.endOfGeneration = false
  step : st.decodeStep = 1 + h.length - target.prompt.length
  long : target.prompt.length ≤ h.length

theorem acceptedCount_eq (outputs : List Sampled) (draft : List UInt32) :
    acceptedCount outputs draft =
      accepted Sampled.token Sampled.endOfGeneration outputs draft := by
  induction draft generalizing outputs with
  | nil => cases outputs <;> rfl
  | cons token draft ih =>
    cases outputs with
    | nil => rfl
    | cons output outputs => simp only [acceptedCount, accepted, ih]

theorem propose_length (hbound : Bounded runner.draftStrategy) (st : RunState σ)
    (hlt : st.result.completionTokens < request.maxTokens) :
    ((propose runner request st).length : Int) + 1 ≤
      request.maxTokens - st.result.completionTokens := by
  simp only [propose]
  split
  · simp
    omega
  rename_i draft hdraft
  split
  · have hlen := hbound draft hdraft st.history
      (min runner.speculativeMaxTokens
        (request.maxTokens - st.result.completionTokens - 1)).toNat
    have hpos := runner.positive
    omega
  · simp
    omega

theorem rollbackRejected_eq (target : GreedyTarget runner.invokeStage request) (st : RunState σ)
    {h rejected : List UInt32} (hopen : target.holds st.world (h ++ rejected))
    (hlong : target.prompt.length ≤ h.length) :
    ∃ result world recover,
      rollbackRejected runner request st rejected.length =
        .ok { st with result, world, recoverAfterRejection := recover } ∧
      target.holds world h ∧ result.completionTokens = st.result.completionTokens ∧
      result.sampledTokens = st.result.sampledTokens := by
  cases rejected with
  | nil =>
    exact ⟨st.result, st.world, st.recoverAfterRejection, by simp [rollbackRejected],
      by simpa using hopen, rfl, rfl⟩
  | cons token rejected =>
    obtain ⟨herror, hholds⟩ := target.rollback _ st.result h (token :: rejected) hopen (by simp)
      hlong
    have htokens := rollbackSessionsFrom_tokens request runner.invokeStage
      ((token :: rejected).length : Nat) request.stages [] st.result st.world
    refine ⟨_, _, true, ?_, hholds, htokens.1, htokens.2⟩
    have hpos : ((token :: rejected).length : Int) > 0 := by simp
    simp only [rollbackRejected, hpos, if_true, herror, ne_eq, not_true, if_false]
    rfl

theorem acceptedHistory_append_drop {invoke : StageInvoker σ} (target : GreedyTarget invoke request)
    (h draft : List UInt32) (v : UInt32) :
    h ++ v :: draft = target.acceptedHistory h v draft ++
      draft.drop (acceptedCount (verify target.next h (v :: draft)) draft) := by
  rw [GreedyTarget.acceptedHistory, Greedy.acceptedHistory, acceptedCount_eq, List.append_assoc,
    List.cons_append, List.take_append_drop]

variable (runner request sink) in
/-- After a pass the verified outputs are emitted. -/
theorem verifyDraft_eq {invoke : StageInvoker σ} (target : GreedyTarget invoke request)
    (st : RunState σ) (h draft : List UInt32) (v : UInt32) :
    ∃ result : GenerationResult,
      result.completionTokens = st.result.completionTokens ∧
      result.sampledTokens = st.result.sampledTokens ∧
      verifyDraft runner request sink st draft (verify target.next h (v :: draft)) =
        (rollbackRejected runner request { st with result }
          (draft.drop (acceptedCount (verify target.next h (v :: draft)) draft)).length).bind
          fun st' => emitOutputs runner request sink (target.verified h v draft)
            { st' with
              decodeStep := st'.decodeStep + (draft.length + 1) -
                (draft.drop (acceptedCount (verify target.next h (v :: draft)) draft)).length } := by
  have hle : acceptedCount (verify target.next h (v :: draft)) draft ≤ draft.length := by
    rw [acceptedCount_eq]
    exact accepted_le ..
  have htake : (verify target.next h (v :: draft)).take
      (if acceptedCount (verify target.next h (v :: draft)) draft < draft.length then
        acceptedCount (verify target.next h (v :: draft)) draft + 1
      else (verify target.next h (v :: draft)).length) = target.verified h v draft := by
    rw [GreedyTarget.verified, Greedy.verified, ← acceptedCount_eq]
    split
    · rfl
    · rw [List.take_of_length_le le_rfl, List.take_of_length_le]
      rw [length_verify, List.length_cons]
      omega
  simp only [verifyDraft, htake]
  generalize acceptedCount (verify target.next h (v :: draft)) draft = a at *
  have hrejected : (if a < draft.length then (draft.length : Int) - a else 0) =
      ((draft.drop a).length : Int) := by
    rw [List.length_drop]
    split <;> omega
  refine ⟨countDraft st.result draft.length a, rfl, rfl, ?_⟩
  rw [hrejected]
  cases rollbackRejected runner request _ _ <;> rfl

variable (sink) in
/-- A pass over a greedy target is read as the outputs along its tokens. -/
theorem decodeIteration_eq (target : GreedyTarget runner.invokeStage request) {st : RunState σ}
    {s : Stream} {h : List UInt32} (hready : Ready target st s h)
    (hlen : ((propose runner request st).length : Int) + 1 ≤ request.maxTokens) :
    ∃ st₁ : RunState σ, Follows st₁ s ∧ st₁.endOfGeneration = false ∧
      st₁.decodeStep = st.decodeStep ∧
      target.holds st₁.world (h ++ st.previousToken :: propose runner request st) ∧
      decodeIteration runner request sink st =
        verifyDraft runner request sink st₁ (propose runner request st)
          (verify target.next h (st.previousToken :: propose runner request st)) := by
  obtain ⟨response, ids, hpass, hread, hholds⟩ := target.decode st.world st.result h
    (st.previousToken :: propose runner request st) hready.holds (by simp) (by simpa using hlen)
  rw [← hready.step] at hpass hholds
  obtain ⟨hcompletion, hsampled⟩ := runPassFrom_tokens runner.invokeStage
    (initialRequest request (str "decode") st.decodeStep
      (st.previousToken :: propose runner request st)).requestId request.stages
    (initialRequest request (str "decode") st.decodeStep
      (st.previousToken :: propose runner request st)) {} [] st.result st.world
  refine ⟨afterPass st (runPass request runner.invokeStage (initialRequest request (str "decode")
    st.decodeStep (st.previousToken :: propose runner request st)) st.result st.world),
    ⟨hready.follows.pending, hready.follows.emitted, hsampled.trans hready.follows.sampled,
      hcompletion.trans hready.follows.completion⟩, hready.running, rfl, hholds, ?_⟩
  simp only [decodeIteration, hpass, hread, length_verify, ne_eq, not_true, if_false]

/-- **One round over a greedy target** emits the verified outputs. -/
theorem decodeIteration_agrees (target : GreedyTarget runner.invokeStage request)
    (hsink : ∀ before token, sink before token = true) (hbound : Bounded runner.draftStrategy)
    {st : RunState σ} {s : Stream} {h : List UInt32} (hready : Ready target st s h)
    (hlt : st.result.completionTokens < request.maxTokens) :
    ∃ draft, st.result.completionTokens + (target.verified h st.previousToken draft).length ≤
        request.maxTokens ∧
      Agrees target (emitAll s (target.verified h st.previousToken draft))
        (decodeIteration runner request sink st) ∧
      ∀ st' s', decodeIteration runner request sink st = .ok st' →
        st'.endOfGeneration = false → Follows st' s' →
        Ready target st' s' (target.acceptedHistory h st.previousToken draft) ∧
        st'.previousToken =
          (target.next (target.acceptedHistory h st.previousToken draft)).token := by
  have hlen := propose_length hbound st hlt
  have hcount : 0 ≤ st.result.completionTokens := by
    rw [hready.follows.completion]
    exact Int.natCast_nonneg _
  obtain ⟨st₁, hst₁, hend₁, hstep₁, hholds₁, heq⟩ :=
    decodeIteration_eq sink target hready (by omega)
  generalize propose runner request st = draft at *
  have hroom : st.result.completionTokens +
      (target.verified h st.previousToken draft).length ≤ request.maxTokens := by
    simp only [GreedyTarget.verified, Greedy.verified, List.length_take, length_verify,
      List.length_cons]
    omega
  have hsplit := acceptedHistory_append_drop target h draft st.previousToken
  have hlong : target.prompt.length ≤ (target.acceptedHistory h st.previousToken draft).length := by
    have := hready.long
    simp only [GreedyTarget.acceptedHistory, Greedy.acceptedHistory, List.length_append]
    omega
  obtain ⟨result₁, hcompletion₁, hsampled₁, hverify⟩ :=
    verifyDraft_eq runner request sink target st₁ h draft st.previousToken
  rw [hsplit] at hholds₁
  have hlength := congrArg List.length hsplit
  generalize hrej : draft.drop (acceptedCount (verify target.next h (st.previousToken :: draft))
    draft) = rejected at *
  obtain ⟨result₂, world₂, recover, hrollback, hholds₂, hcompletion₂, hsampled₂⟩ :=
    rollbackRejected_eq target { st₁ with result := result₁ } hholds₁ hlong
  rw [heq, hverify, hrollback]
  simp only [Except.bind]
  have hfollows : Follows { st₁ with
      result := result₂, world := world₂, recoverAfterRejection := recover
      decodeStep := st₁.decodeStep + (draft.length + 1) - rejected.length } s :=
    ⟨hst₁.pending, hst₁.emitted, (hsampled₂.trans hsampled₁).trans hst₁.sampled,
      (hcompletion₂.trans hcompletion₁).trans hst₁.completion⟩
  have hroom₂ : result₂.completionTokens + (target.verified h st.previousToken draft).length ≤
      request.maxTokens := by
    rw [hcompletion₂, hcompletion₁, hst₁.completion, ← hready.follows.completion]
    exact hroom
  refine ⟨draft, hroom, emitOutputs_agrees target hsink hfollows hholds₂ hend₁ hroom₂, ?_⟩
  intro st' s' hst' hend' hfollows'
  obtain ⟨hworld, hstep⟩ := emitOutputs_frame hst'
  refine ⟨⟨hfollows', hworld ▸ hholds₂, hend', ?_, hlong⟩, ?_⟩
  · rw [hstep, hstep₁, hready.step]
    simp only [List.length_append, List.length_cons] at hlength
    push_cast
    omega
  · exact emitOutputs_previousToken hst' hroom₂ hend' (getLast?_verified h st.previousToken draft)

/-! ## Whole runs -/

/-- **The decode loop follows the greedy stream.** -/
theorem decodeLoop_agrees (target : GreedyTarget runner.invokeStage request)
    (hsink : ∀ before token, sink before token = true) (hbound : Bounded runner.draftStrategy)
    (n : Nat) : ∀ {st : RunState σ} {s : Stream} {h : List UInt32}, Ready target st s h →
      request.maxTokens = st.result.completionTokens + n →
      Agrees target
        (emitAll s (greedy target.next Sampled.token Sampled.endOfGeneration n
          (h ++ [st.previousToken])))
        (decodeLoop runner request sink st) := by
  -- every round that goes on leaves less room
  induction n using Nat.strong_induction_on with
  | _ n ih =>
    intro st s h hready hn
    by_cases hlt : st.result.completionTokens < request.maxTokens
    · obtain ⟨draft, hroom, hagrees, hnext⟩ :=
        decodeIteration_agrees target hsink hbound hready hlt
      have hlen : (target.verified h st.previousToken draft).length ≤ n := by omega
      have hgreedy : greedy target.next Sampled.token Sampled.endOfGeneration n
          (h ++ [st.previousToken]) = target.verified h st.previousToken draft ++
            if (target.next (target.acceptedHistory h st.previousToken draft)).endOfGeneration
            then []
            else greedy target.next Sampled.token Sampled.endOfGeneration
              (n - (target.verified h st.previousToken draft).length)
              (target.acceptedHistory h st.previousToken draft ++
                [(target.next (target.acceptedHistory h st.previousToken draft)).token]) :=
        greedy_eq_verified h st.previousToken draft n hlen
      rw [decodeLoop_next hlt hready.running, hgreedy, emitAll_append]
      generalize hr : emitAll s (target.verified h st.previousToken draft) = r at hagrees ⊢
      generalize hx : decodeIteration runner request sink st = x at hagrees ⊢
      cases hagrees with
      | malformed hemitted hresult => exact .malformed hemitted hresult
      | stopped hfollows hholds hend =>
        simp only [Except.bind]
        rw [decodeLoop_done (.inr hend)]
        exact .stopped hfollows hholds hend
      | running hfollows hholds hend =>
        obtain ⟨hready', hprevious⟩ := hnext _ _ hx hend hfollows
        have hlast : target.next (target.acceptedHistory h st.previousToken draft) ∈
            target.verified h st.previousToken draft :=
          List.mem_of_getLast? (getLast?_verified h st.previousToken draft)
        have hgo := not_endOfGeneration_of_emitAll hr _ hlast
        have hmore := emitAll_length hr
        have hpos := List.length_pos_of_mem hlast
        have hcount := hready.follows.completion
        have hcount' := hfollows.completion
        simp only [hgo, Bool.false_eq_true, if_false, Except.bind]
        rw [← hprevious]
        exact ih _ (by omega) hready' (by omega)
    · obtain rfl : n = 0 := by omega
      rw [decodeLoop_done (.inl (by omega))]
      exact .running hready.follows hready.holds hready.running

/-- How a run ends for its caller. -/
inductive RunOutcome
  | success (finishReason : Bytes) (sampledTokens : List UInt32) (completionTokens : Int)
  | failure (status errorCode errorMessage : Bytes)
  deriving DecidableEq

/-- The outcome of a run. -/
def Finished.outcome (f : Finished σ) : RunOutcome :=
  if f.result.ok then
    .success f.result.finishReason f.result.sampledTokens f.result.completionTokens
  else .failure f.result.status f.result.errorCode f.result.errorMessage

/-- How a stream ends, given the error of the closings. -/
def streamOutcome (closeError : Bytes) : Except (Ending × Stream) Stream → RunOutcome
  | .ok s => finished (str "length") s
  | .error (.stop, s) => finished (str "stop") s
  | .error (.malformed what, _) =>
    .failure (str "502 Bad Gateway") (str "invalid_token_text")
      (if closeError ≠ [] then what ++ str "; cleanup: " ++ closeError else what)
where
  /-- A stream that has all its tokens. -/
  finished (finishReason : Bytes) (s : Stream) : RunOutcome :=
    if closeError ≠ [] then
      .failure (str "502 Bad Gateway") (str "generation_cleanup_failed") closeError
    else .success finishReason (s.emitted.map GenerationToken.token) s.emitted.length

/-- The tokens of a stream, ended or not. -/
def streamTokens : Except (Ending × Stream) Stream → List GenerationToken
  | .ok s => s.emitted
  | .error (_, s) => s.emitted

/-- The end of a run whose decode loop has returned. -/
def finishRun (runner : GenerationRunner σ) (request : GenerationRequest) :
    Except (Finished σ) (RunState σ) → Finished σ
  | .error f => f
  | .ok st => finish runner request st

theorem finish_outcome (target : GreedyTarget runner.invokeStage request) {st : RunState σ}
    {s : Stream} {h : List UInt32} (hst : Follows st s) (hopen : target.holds st.world h) :
    (finish runner request st).outcome = streamOutcome.finished target.closeError
      (if st.endOfGeneration then str "stop" else str "length") s := by
  simp only [finish, target.close _ _ hopen, streamOutcome.finished, Finished.outcome]
  split
  · rfl
  · simp [hst.sampled, hst.completion]

theorem agrees_finishRun {target : GreedyTarget runner.invokeStage request}
    {r : Except (Ending × Stream) Stream} {x : Except (Finished σ) (RunState σ)}
    (h : Agrees target r x) :
    (finishRun runner request x).emitted = streamTokens r ∧
      (finishRun runner request x).outcome = streamOutcome target.closeError r := by
  cases h with
  | running hst hopen hend =>
    refine ⟨hst.emitted, ?_⟩
    rw [finishRun, finish_outcome target hst hopen, hend]
    rfl
  | stopped hst hopen hend =>
    refine ⟨hst.emitted, ?_⟩
    rw [finishRun, finish_outcome target hst hopen, hend]
    rfl
  | malformed hemitted hresult =>
    refine ⟨hemitted, ?_⟩
    simp only [finishRun, Finished.outcome, hresult]
    rfl

variable (sink) in
theorem prefill_eq (target : GreedyTarget runner.invokeStage request) {world : σ}
    (hfresh : target.fresh world) :
    ∃ st : RunState σ, Follows st {} ∧ target.holds st.world target.prompt ∧ st.decodeStep = 1 ∧
      st.endOfGeneration = (target.next target.prompt).endOfGeneration ∧
      prefill runner request sink world =
        if (target.next target.prompt).endOfGeneration then .ok st
        else emit runner request sink st (target.next target.prompt).token
          (target.next target.prompt).text := by
  obtain ⟨response, ids, hpass, hread, hholds⟩ := target.prefill world {} hfresh
  obtain ⟨hcompletion, hsampled⟩ := runPassFrom_tokens runner.invokeStage
    (initialRequest request (str "prefill") 0 []).requestId request.stages
    (initialRequest request (str "prefill") 0 []) {} [] {} world
  refine ⟨{ result := (runPass request runner.invokeStage
      (initialRequest request (str "prefill") 0 []) {} world).result
            world := (runPass request runner.invokeStage
      (initialRequest request (str "prefill") 0 []) {} world).world
            history := ids
            endOfGeneration := (target.next target.prompt).endOfGeneration },
    ⟨rfl, rfl, hsampled, hcompletion⟩, hholds, rfl, rfl, ?_⟩
  simp only [prefill, hpass, hread]

/-- **A run over a greedy target follows the greedy stream of its prompt.** -/
theorem run_agrees (target : GreedyTarget runner.invokeStage request)
    (hsink : ∀ before token, sink before token = true) (hbound : Bounded runner.draftStrategy)
    (hmax : 1 ≤ request.maxTokens) {world : σ} (hfresh : target.fresh world) :
    Agrees target (emitAll {} target.outputs)
      ((prefill runner request sink world).bind (decodeLoop runner request sink)) := by
  obtain ⟨st, hst, hholds, hstep, hend, hprefill⟩ := prefill_eq sink target hfresh
  obtain ⟨m, hm⟩ : ∃ m : Nat, request.maxTokens.toNat = m + 1 :=
    ⟨request.maxTokens.toNat - 1, by omega⟩
  rw [hprefill, GreedyTarget.outputs, hm, greedy]
  cases hout : (target.next target.prompt).endOfGeneration with
  | true =>
    have hone : emitOne {} (target.next target.prompt) = .error (.stop, {}) := by
      simp [emitOne, hout]
    simp only [if_true, emitAll_cons, hone, Except.bind]
    rw [decodeLoop_done (.inr (hend.trans hout))]
    exact .stopped hst hholds (hend.trans hout)
  | false =>
    have hone := emit_agrees target hsink hst hholds (hend.trans hout) hout
    have hkeep (st' : RunState σ) (h' : emit runner request sink st
        (target.next target.prompt).token (target.next target.prompt).text = .ok st') :
        st'.result.completionTokens = 1 ∧ st'.world = st.world ∧ st'.decodeStep = 1 ∧
          st'.previousToken = (target.next target.prompt).token ∧ st'.endOfGeneration = false := by
      obtain ⟨hworld, hstep', hprevious, hend'⟩ := emit_ok h'
      have hcount := emit_completionTokens h'
      rw [hst.completion] at hcount
      exact ⟨by simpa using hcount, hworld, hstep'.trans hstep, hprevious,
        hend'.trans (hend.trans hout)⟩
    simp only [Bool.false_eq_true, if_false, emitAll_cons]
    generalize emitOne {} (target.next target.prompt) = r at hone
    generalize emit runner request sink st (target.next target.prompt).token
      (target.next target.prompt).text = x at hone hkeep
    cases hone with
    | malformed hemitted hresult => exact .malformed hemitted hresult
    | stopped hst' hopen' hend' => simp [(hkeep _ rfl).2.2.2.2] at hend'
    | running hst' hopen' hend' =>
      obtain ⟨hcount, hworld, hstep', hprevious, -⟩ := hkeep _ rfl
      simp only [Except.bind]
      rw [← hprevious]
      refine decodeLoop_agrees target hsink hbound m
        ⟨hst', hworld ▸ hholds, hend', by rw [hstep']; omega, le_rfl⟩ (by omega)

variable (runner) in
/-- What the caller sees of a run over a greedy target. -/
theorem run_eq_stream (target : GreedyTarget runner.invokeStage request)
    (hsink : ∀ before token, sink before token = true) (hbound : Bounded runner.draftStrategy)
    (hmax : 1 ≤ request.maxTokens) {world : σ} (hfresh : target.fresh world) :
    (runner.run request (some sink) world).emitted = streamTokens (emitAll {} target.outputs) ∧
      (runner.run request (some sink) world).outcome =
        streamOutcome target.closeError (emitAll {} target.outputs) := by
  have hrun : runner.run request (some sink) world = finishRun runner request
      ((prefill runner request sink world).bind (decodeLoop runner request sink)) := by
    simp only [GenerationRunner.run]
    cases prefill runner request sink world with
    | error f => rfl
    | ok st =>
      simp only [Except.bind]
      cases decodeLoop runner request sink st <;> rfl
  rw [hrun]
  exact agrees_finishRun (run_agrees target hsink hbound hmax hfresh)

end Target

end JetsonFabric
