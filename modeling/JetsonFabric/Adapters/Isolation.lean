import JetsonFabric.Adapters.DecodeRows
import JetsonFabric.Adapters.Slots

/-!
# Isolation of the sessions in a decode batch

The checks of a batch are made input by input, but its rows are built and read together: an
exception at one of them fails them all.

* **`batch_isolates_iff`**: a batch gives every input what it gets alone exactly if no row throws,
  or all rows throw the same.
-/

namespace JetsonFabric

open Stops

variable {κ φ : Type} {config : LlamaCppStageConfig} {engine : LlamaEngine κ φ}

/-- Every batch is decoded, and an output depends on its own row. -/
structure RowLocal (engine : LlamaEngine κ φ) where
  Exposes : κ → List LlamaRow → κ → Prop
  embeddings : κ → LlamaRow → Except Thrown (Option (Nat → UInt8))
  logits : κ → LlamaRow → Except Thrown (Option (Nat → φ))
  endToken : Int32 → Except Thrown Bool
  piece : Int32 → Except Thrown Bytes
  decode_eq : ∀ context rows k,
    (engine.decode context rows k).1 = .ok 0 ∧ Exposes k rows (engine.decode context rows k).2
  embeddings_eq : ∀ context k rows (i : Nat) row, rows[i]? = some row →
    Stops.Follows (Exposes k rows) (engine.getEmbeddingsIth context i)
      (.ofExcept (embeddings k row))
  logits_eq : ∀ context k rows (i : Nat) row, rows[i]? = some row →
    Stops.Follows (Exposes k rows) (engine.getLogitsIth context i) (.ofExcept (logits k row))
  endToken_eq : ∀ k rows token,
    Stops.Follows (Exposes k rows) (engine.isEndToken token) (.ofExcept (endToken token))
  piece_eq : ∀ k rows token,
    Stops.Follows (Exposes k rows) (engine.tokenPiece token) (.ofExcept (piece token))

variable {rows : List LlamaRow}

namespace RowLocal

/-- A library that knows one row only. -/
def rowEngine (L : RowLocal engine) (k : κ) (row : LlamaRow) : LlamaEngine Unit φ where
  less := engine.less
  tokenize _ := pure []
  tokenPiece token := Stops.ofExcept (L.piece token)
  isEndToken token := Stops.ofExcept (L.endToken token)
  createContext _ := pure 0
  decode _ _ := pure 0
  getEmbeddings _ := pure none
  getEmbeddingsIth _ _ := Stops.ofExcept (L.embeddings k row)
  getLogitsIth _ _ := Stops.ofExcept (L.logits k row)
  memorySeqRm _ _ _ _ := pure true

/-- The output of a row, by itself. -/
def output (L : RowLocal engine) (config : LlamaCppStageConfig) (k : κ) (row : LlamaRow)
    (batchSize : Int) : Except Stop StageOutput :=
  (outputForRow config (L.rowEngine k row) 0 0 batchSize ()).1

variable (config) in
theorem outputForRow_follows (L : RowLocal engine) {k : κ} {i : Nat}
    {row : LlamaRow} (context : Nat) (batchSize : Int) (hrow : rows[i]? = some row) :
    Stops.Follows (L.Exposes k rows) (outputForRow config engine context i batchSize)
      (outputForRow config (L.rowEngine k row) 0 0 batchSize) := by
  unfold outputForRow
  split
  · refine ((L.embeddings_eq context k rows i row hrow).mapStop _).bind ?_
    rintro (_ | hidden)
    · exact follows_stop _
    · exact follows_pure _
  · refine ((L.logits_eq context k rows i row hrow).mapStop _).bind ?_
    rintro (_ | logits)
    · exact follows_stop _
    · refine ((L.endToken_eq k rows _).mapStop _).bind ?_
      rintro (_ | _)
      · exact ((L.piece_eq k rows _).mapStop _).bind fun piece => follows_pure _
      · exact follows_pure _

end RowLocal

/-- How a row ends by itself. -/
def RowLocal.rowEnd (L : RowLocal engine) (config : LlamaCppStageConfig) (shared : SharedState) (k : κ)
    (batchSize : Int) (row : StageInput × SharedSession) : Except Thrown ExecutionResult :=
  match shared.context with
  | none => .error (.exception (str "shared llama.cpp context is missing after prefill"))
  | some _ =>
    match decodeRow config row with
    | .error thrown => .error thrown
    | .ok r => outputEnd (L.output config k r batchSize)

/-- The result apart from the size of the batch it was made in. -/
def withoutBatchSize (result : ExecutionResult) : ExecutionResult :=
  result.map fun output => { output with executionBatchSize := 0 }

/-! ## Results that are told apart -/

variable {thrown : Thrown} {row : StageInput × SharedSession}

theorem thrownResult_injective : Function.Injective thrownResult := by
  intro a b h
  cases a <;> cases b <;> simp [thrownResult, ExecutionResult.invalidInput,
    ExecutionResult.failure] at h <;> rw [h]

theorem outputForRow_missing (context : Nat) (row batchSize : Int) (k : κ) :
    (outputForRow config engine context row batchSize).Spec k fun r _ =>
      ∀ error, r = .error (.result error) → error.code = str "llama_stage_activation_missing" ∨
        error.code = str "llama_stage_logits_missing" := by
  unfold outputForRow
  split
  · refine spec_bind_mapStop (fun _ _ _ h => nomatch h) ?_
    rintro (_ | hidden) k
    · rintro error ⟨⟩
      exact .inl rfl
    · exact fun _ h => nomatch h
  · refine spec_bind_mapStop (fun _ _ _ h => nomatch h) ?_
    rintro (_ | logits) k
    · rintro error ⟨⟩
      exact .inr rfl
    · refine spec_bind_mapStop (fun _ _ _ h => nomatch h) ?_
      rintro (_ | _) k
      · exact spec_bind_mapStop (fun _ _ _ h => nomatch h) fun _ _ _ h => nomatch h
      · exact fun _ h => nomatch h

theorem outputForRow_batchSize (context : Nat) (row batchSize : Int) :
    outputForRow config engine context row batchSize =
      (fun output => { output with executionBatchSize := batchSize }) <$>
        outputForRow config engine context row 0 := by
  unfold outputForRow
  split
  · rw [map_bind]
    refine bind_congr ?_
    rintro (_ | hidden) <;> rfl
  · rw [map_bind]
    refine bind_congr ?_
    rintro (_ | logits)
    · rfl
    · rw [map_bind]
      refine bind_congr ?_
      rintro (_ | _)
      · rw [if_neg Bool.false_ne_true, if_neg Bool.false_ne_true, map_bind]
        rfl
      · rfl

theorem thrownResult_code (thrown : Thrown) :
    ∃ error : ExecutionError, thrownResult thrown = .error error ∧
      (error.code = str "invalid_llama_stage_input" ∨
        error.code = str "llama_stage_execution_failed") := by
  cases thrown with
  | invalidArgument what => exact ⟨_, rfl, .inl rfl⟩
  | exception what => exact ⟨_, rfl, .inr rfl⟩

theorem RowLocal.rowEnd_eq_error (L : RowLocal engine) {shared : SharedState} {k : κ}
    {batchSize : Int}
    (h : endResult (L.rowEnd config shared k batchSize row) = thrownResult thrown) :
    L.rowEnd config shared k batchSize row = .error thrown := by
  unfold RowLocal.rowEnd at h ⊢
  split at h
  · exact congrArg _ (thrownResult_injective h)
  split at h
  · exact congrArg _ (thrownResult_injective h)
  rename_i r _
  have hmissing : ∀ error, L.output config k r batchSize = .error (.result error) → _ :=
    outputForRow_missing 0 0 batchSize ()
  obtain ⟨error, herror, hcode⟩ := thrownResult_code thrown
  rcases hout : L.output config k r batchSize with (missing | other) | output <;> rw [hout] at h
  · cases h.trans herror
    rcases hmissing _ hout with hm | hm <;> rcases hcode with hc | hc <;>
      exact absurd (hm.symm.trans hc) (by decide)
  · exact congrArg _ (thrownResult_injective h)
  · cases h.trans herror

variable (config) in
theorem RowLocal.rowEnd_batchSize (L : RowLocal engine) (shared : SharedState) (k : κ)
    (m n : Int) (row : StageInput × SharedSession) :
    (L.rowEnd config shared k m row).map withoutBatchSize =
      (L.rowEnd config shared k n row).map withoutBatchSize := by
  have hsize : ∀ (r : LlamaRow) (size : Int), L.output config k r size =
      (L.output config k r 0).map fun output => { output with executionBatchSize := size } := by
    intro r size
    unfold RowLocal.output
    rw [outputForRow_batchSize, map_apply]
  unfold RowLocal.rowEnd
  split
  · rfl
  split
  · rfl
  · rename_i r _
    rw [hsize r m, hsize r n]
    rcases L.output config k r 0 with (error | thrown) | output <;> rfl

/-! ## The rows of a batch -/

variable {after : SharedState}

variable (config) in
theorem RowLocal.readOutputs_eq (L : RowLocal engine) {k : κ}
    (context batchSize : Nat) {before rest : List LlamaRow} (hrows : rows = before ++ rest) {k' : κ}
    (h : L.Exposes k rows k') :
    readOutputs config engine context batchSize rest.length before.length k' =
      rest.map fun row => L.output config k row batchSize := by
  induction rest generalizing before k' with
  | nil => rfl
  | cons row rest ih =>
    have hrow : rows[before.length]? = some row := by simp [hrows]
    obtain ⟨hout, hexposes⟩ := L.outputForRow_follows config context batchSize hrow k' h
    have hnext : rows = (before ++ [row]) ++ rest := by simp [hrows]
    have hrest := ih hnext hexposes
    rw [List.length_append] at hrest
    exact congrArg₂ List.cons hout hrest

theorem RowLocal.readRows_eq (L : RowLocal engine) {shared : SharedState} {context : Nat}
    (hcontext : shared.context = some context) {k k' : κ}
    {valid : List (StageInput × SharedSession)}
    (hrows : valid.mapM (decodeRow config) = .ok rows) (h : L.Exposes k rows k') :
    readRows config engine context valid k' =
      valid.map fun row => (row.1, L.rowEnd config shared k valid.length row) := by
  have hdecoded := Checks.forall₂_of_mapM_eq_ok hrows
  have houtputs := L.readOutputs_eq config context valid.length (List.nil_append rows).symm h
  rw [← hdecoded.length_eq, List.length_nil] at houtputs
  rw [readRows, houtputs, List.map_map]
  generalize valid.length = size
  clear hrows houtputs h
  induction hdecoded with
  | nil => rfl
  | cons hrow _ ih =>
    rw [List.map_cons, List.map_cons, List.zip_cons_cons, List.map_cons, ih]
    simp only [rowEnd, hcontext, hrow, Function.comp_apply]

/-- How a batch ends, from how each of its rows ends. -/
inductive OwnEnd (now : Int) (rows : List (StageInput × Except Thrown ExecutionResult))
    (shared : SharedState) : Except Thrown (List ExecutionResult) → SharedState → Prop
  | returned (hends : ∀ row ∈ rows, ∃ result, row.2 = .ok result) :
      OwnEnd now rows shared (.ok (rows.map fun row => endResult row.2)) (settleRows now rows shared)
  | thrown {after : SharedState} {thrown : Thrown} (hmem : ∃ row ∈ rows, row.2 = .error thrown)
      (hsame : (∀ row ∈ rows, ∃ other, row.2 = .error other) → after = shared) :
      OwnEnd now rows shared (.error thrown) after

theorem RowsEnd.ownEnd {now : Int} {rows : List (StageInput × Except Thrown ExecutionResult)}
    {shared : SharedState} {r : Except Thrown (List ExecutionResult)}
    (h : RowsEnd now rows shared r after) : OwnEnd now rows shared r after := by
  cases h with
  | returned hends => exact .returned hends
  | @thrown before _ input _ hrows hends =>
    refine .thrown ⟨_, by rw [hrows]; exact List.mem_append_right _ List.mem_cons_self, rfl⟩ ?_
    intro hall
    cases before with
    | nil => rfl
    | cons first before =>
      obtain ⟨result, hresult⟩ := hends first List.mem_cons_self
      obtain ⟨other, hother⟩ := hall first (by rw [hrows]; exact List.mem_cons_self)
      cases hresult.symm.trans hother

variable (config) in
/-- **How a decode batch ends**, from how each of its rows ends. -/
theorem RowLocal.decodeSharedRows_end (L : RowLocal engine) (now : Int)
    {valid : List (StageInput × SharedSession)} (hne : valid ≠ []) (shared : SharedState) (k : κ) :
    (decodeSharedRows config engine now valid).Spec (shared, k) fun r s =>
      OwnEnd now (valid.map fun row => (row.1, L.rowEnd config shared k valid.length row)) shared
        r s.1 := by
  unfold decodeSharedRows
  refine spec_bind_getFirst ?_
  split
  · rename_i hcontext
    dsimp only at hcontext
    obtain ⟨row, hrow⟩ := List.exists_mem_of_ne_nil valid hne
    refine spec_stop (.thrown ⟨_, List.mem_map_of_mem hrow, ?_⟩ fun _ => rfl)
    simp only [rowEnd, hcontext]
  · rename_i context hcontext
    dsimp only at hcontext
    refine spec_bind_ofExcept (fun thrown hthrown => ?_) fun rows hrows => ?_
    · obtain ⟨row, hrow, herror⟩ := Checks.exists_of_mapM_eq_error hthrown
      refine .thrown ⟨_, List.mem_map_of_mem hrow, ?_⟩ fun _ => rfl
      simp only [rowEnd, hcontext, herror]
    · refine spec_bind (R := fun status s => status = 0 ∧ s.1 = shared ∧ L.Exposes k rows s.2) ?_ ?_
      · obtain ⟨hok, hexposes⟩ := L.decode_eq context rows k
        unfold Spec onSecond
        rw [hok]
        exact ⟨rfl, rfl, hexposes⟩
      · rintro _ ⟨kept, k'⟩ ⟨rfl, hkept, hexposes⟩
        dsimp only at hkept
        subst hkept
        rw [if_neg (by simp)]
        refine (rowOutputs_walks now context valid.length _ 0 kept k').imp fun r s hwalk => ?_
        have hend := walkRows_end now (readRows config engine context valid k') kept
        rw [List.length_map, ← readRows] at hwalk
        rw [← hwalk, L.readRows_eq hcontext hrows hexposes] at hend
        exact hend.ownEnd

/-! ## The checks of a batch -/

variable {input : StageInput}

/-- The check of an input by itself. -/
def ownCheck (config : LlamaCppStageConfig) (sessions : SharedSessions) (input : StageInput) :
    Except ExecutionError SharedSession :=
  (sharedCheck config sessions [] input).1

variable (config) in
theorem sharedCheck_of_not_seen {sessions : SharedSessions} {seen : List Nat}
    (h : ∀ session, sessions.lookup input.sessionId = some session → session.sequenceId ∉ seen) :
    (sharedCheck config sessions seen input).1 = ownCheck config sessions input ∧
      ∀ n ∈ (sharedCheck config sessions seen input).2, n ∈ seen ∨
        ∃ session, sessions.lookup input.sessionId = some session ∧ n = session.sequenceId := by
  unfold ownCheck sharedCheck
  split
  · exact ⟨rfl, fun n hn => .inl hn⟩
  split
  · exact ⟨rfl, fun n hn => .inl hn⟩
  rename_i session hsome
  rw [if_neg (h session hsome), if_neg (List.not_mem_nil : session.sequenceId ∉ [])]
  have hown : ∀ n ∈ session.sequenceId :: seen, n ∈ seen ∨
      ∃ found, sessions.lookup input.sessionId = some found ∧ n = found.sequenceId := by
    intro n hn
    rcases List.mem_cons.mp hn with rfl | hn
    · exact .inr ⟨session, hsome, rfl⟩
    · exact .inl hn
  split
  · exact ⟨rfl, fun n hn => .inl hn⟩
  split
  · exact ⟨rfl, hown⟩
  · exact ⟨rfl, hown⟩

/-- Inputs of different sessions are checked each by itself. -/
theorem sharedChecks_eq {shared : SharedState} (hheld : shared.Slots Slots.Held)
    {inputs : List StageInput} (hnodup : (inputs.map (·.sessionId)).Nodup) :
    sharedChecks config shared.sessions [] inputs =
      inputs.map fun input => (input, ownCheck config shared.sessions input) := by
  have hfrom : ∀ (inputs : List StageInput) (seen : List Nat),
      (inputs.map (·.sessionId)).Nodup →
      (∀ input ∈ inputs, ∀ session, shared.sessions.lookup input.sessionId = some session →
        session.sequenceId ∉ seen) →
      sharedChecks config shared.sessions seen inputs =
        inputs.map fun input => (input, ownCheck config shared.sessions input) := by
    intro inputs
    induction inputs with
    | nil => exact fun _ _ _ => rfl
    | cons input inputs ih =>
      intro seen hnodup hseen
      obtain ⟨hnew, hrest⟩ := List.nodup_cons.mp hnodup
      obtain ⟨hcheck, hadded⟩ :=
        sharedCheck_of_not_seen config (hseen input List.mem_cons_self)
      rw [sharedChecks, List.map_cons, hcheck]
      refine congrArg _ (ih _ hrest fun other hother session hsession hn => ?_)
      rcases hadded _ hn with hold | ⟨own, hown, hsame⟩
      · exact hseen other (List.mem_cons_of_mem _ hother) session hsession hold
      · refine hnew (List.mem_map.mpr ⟨other, hother, ?_⟩)
        exact hheld.distinct other.sessionId input.sessionId session.sequenceId
          (by rw [SharedState.sequenceOf, hsession]; rfl)
          (by rw [SharedState.sequenceOf, hown, hsame]; rfl)
  exact hfrom inputs [] hnodup fun _ _ _ _ => List.not_mem_nil

/-- The result of an input whose row has the given one. -/
def inputResult (row : StageInput × SharedSession → ExecutionResult)
    (check : StageInput × Except ExecutionError SharedSession) : ExecutionResult :=
  match check.2 with
  | .error error => .error error
  | .ok session => row (check.1, session)

theorem inputResult_of_ok (row : StageInput × SharedSession → ExecutionResult)
    {check : Except ExecutionError SharedSession} {session : SharedSession}
    (h : check = .ok session) : inputResult row (input, check) = row (input, session) := by
  subst h
  rfl

theorem inputResult_of_error (row : StageInput × SharedSession → ExecutionResult)
    {check : Except ExecutionError SharedSession} {error : ExecutionError}
    (h : check = .error error) : inputResult row (input, check) = .error error := by
  subst h
  rfl

theorem mergeResults_map (checks : List (StageInput × Except ExecutionError SharedSession))
    (f : StageInput × SharedSession → ExecutionResult) :
    mergeResults checks ((validRows checks).map f) = checks.map (inputResult f) := by
  induction checks with
  | nil => rfl
  | cons check checks ih =>
    obtain ⟨input, error | session⟩ := check
    · exact congrArg _ ih
    · exact congrArg _ ih

/-! ## A batch and its inputs alone -/

section Alone

variable (L : RowLocal engine) (config : LlamaCppStageConfig) (shared : SharedState) (k : κ)

/-- The inputs that passed their own check, with their sessions. -/
def ownRows (inputs : List StageInput) : List (StageInput × SharedSession) :=
  validRows (inputs.map fun input => (input, ownCheck config shared.sessions input))

/-- The result of an input when no other row throws. -/
def ownResult (batchSize : Int) (input : StageInput) : ExecutionResult :=
  inputResult (fun row => endResult (L.rowEnd config shared k batchSize row))
    (input, ownCheck config shared.sessions input)

/-- The session of an input after it was executed alone. -/
def ownSession (now : Int) (input : StageInput) : Option SharedSession :=
  (shared.sessions.lookup input.sessionId).map (settled now · (ownResult L config shared k 1 input))

end Alone

variable {shared : SharedState} {k : κ} {inputs : List StageInput} {now : Int}

/-- How a batch ends for its inputs. -/
inductive BatchEnd (L : RowLocal engine) (config : LlamaCppStageConfig) (shared : SharedState)
    (k : κ) (now : Int) (inputs : List StageInput) (size : Nat) :
    List ExecutionResult → SharedState → Prop
  | returned {after : SharedState}
      (hends : ∀ row ∈ ownRows config shared inputs, ∃ result,
        L.rowEnd config shared k size row = .ok result)
      (hsettled : ∀ input ∈ inputs, after.sessions.lookup input.sessionId =
        (shared.sessions.lookup input.sessionId).map
          (settled now · (ownResult L config shared k size input))) :
      BatchEnd L config shared k now inputs size
        (inputs.map (ownResult L config shared k size)) after
  | thrown {after : SharedState} {thrown : Thrown}
      (hmem : ∃ row ∈ ownRows config shared inputs,
        L.rowEnd config shared k size row = .error thrown)
      (hsame : (∀ row ∈ ownRows config shared inputs, ∃ other,
        L.rowEnd config shared k size row = .error other) → after = shared) :
      BatchEnd L config shared k now inputs size
        (inputs.map fun input => inputResult (fun _ => thrownResult thrown)
          (input, ownCheck config shared.sessions input)) after

theorem mem_ownRows :
    row ∈ ownRows config shared inputs ↔
      row.1 ∈ inputs ∧ ownCheck config shared.sessions row.1 = .ok row.2 := by
  unfold ownRows validRows
  rw [List.mem_filterMap]
  constructor
  · rintro ⟨check, hmem, hrow⟩
    obtain ⟨input, hinput, rfl⟩ := List.mem_map.mp hmem
    dsimp only at hrow
    split at hrow
    · rename_i session hcheck
      cases hrow
      exact ⟨hinput, hcheck⟩
    · cases hrow
  · rintro ⟨hinput, hcheck⟩
    refine ⟨_, List.mem_map_of_mem hinput, ?_⟩
    dsimp only
    rw [hcheck]

theorem ownResult_of_ok (L : RowLocal engine) (size : Int)
    {session : SharedSession} (h : ownCheck config shared.sessions input = .ok session) :
    ownResult L config shared k size input =
      endResult (L.rowEnd config shared k size (input, session)) :=
  inputResult_of_ok _ h

theorem ownResult_of_error (L : RowLocal engine) (size : Int)
    {error : ExecutionError} (h : ownCheck config shared.sessions input = .error error) :
    ownResult L config shared k size input = .error error :=
  inputResult_of_error _ h

theorem settled_of_rows (L : RowLocal engine) (size : Int)
    (hnodup : (inputs.map (·.sessionId)).Nodup)
    (hmoved : Moved now ((ownRows config shared inputs).map (·.1.sessionId)) shared after)
    (hrows : ∀ row ∈ ownRows config shared inputs, after.sessions.lookup row.1.sessionId =
      (shared.sessions.lookup row.1.sessionId).map
        (settled now · (endResult (L.rowEnd config shared k size row))))
    (hinput : input ∈ inputs) :
    after.sessions.lookup input.sessionId = (shared.sessions.lookup input.sessionId).map
      (settled now · (ownResult L config shared k size input)) := by
  cases hcheck : ownCheck config shared.sessions input with
  | ok session =>
    rw [ownResult_of_ok L size hcheck]
    exact hrows (input, session) (mem_ownRows.mpr ⟨hinput, hcheck⟩)
  | error error =>
    rw [ownResult_of_error L size hcheck]
    refine (hmoved.others _ fun hmem => ?_).trans Option.map_id'.symm
    obtain ⟨row, hrow, hid⟩ := List.mem_map.mp hmem
    obtain ⟨hrow, hok⟩ := mem_ownRows.mp hrow
    rw [List.inj_on_of_nodup_map hnodup hrow hinput hid, hcheck] at hok
    cases hok

variable (config shared inputs) in
/-- The results of a batch whose rows have the given ones. -/
theorem mergeResults_ownRows (f : StageInput × SharedSession → ExecutionResult) :
    mergeResults (inputs.map fun input => (input, ownCheck config shared.sessions input))
        ((ownRows config shared inputs).map f) =
      inputs.map fun input => inputResult f (input, ownCheck config shared.sessions input) := by
  unfold ownRows
  rw [mergeResults_map, List.map_map]
  rfl

variable (config shared inputs) in
theorem length_ownRows_le : (ownRows config shared inputs).length ≤ inputs.length := by
  unfold ownRows validRows
  exact (List.length_filterMap_le _ _).trans_eq (List.length_map _)

variable (config inputs) in
/-- **How a batch of different sessions ends.** -/
theorem executeSharedDecodeLocked_end (L : RowLocal engine) (hheld : shared.Slots Slots.Held)
    (hnodup : (inputs.map (·.sessionId)).Nodup) (k : κ) (now : Int)
    (hlength : (inputs.length : Int) ≤ config.decodeBatchSize) :
    ∃ results, (executeSharedDecodeLocked config engine now inputs (shared, k)).1 = .ok results ∧
      BatchEnd L config shared k now inputs (ownRows config shared inputs).length results
        (executeSharedDecodeLocked config engine now inputs (shared, k)).2.1 := by
  have hmoved := executeSharedDecodeLocked_moved config engine now inputs shared k
  have hrows := nodup_sessionIds config shared.sessions inputs
  have hmerge := mergeResults_ownRows config shared inputs
  have hown : validRows (inputs.map fun input => (input, ownCheck config shared.sessions input)) =
      ownRows config shared inputs := rfl
  generalize hrun : executeSharedDecodeLocked config engine now inputs (shared, k) = run at hmoved ⊢
  simp only [executeSharedDecodeLocked, sharedChecks_eq hheld hnodup, hown] at hrun hmoved hrows
  split at hrun
  · rename_i hempty
    subst hrun
    have hnone : ∀ row, row ∉ ownRows config shared inputs := by simp [hempty]
    generalize (ownRows config shared inputs).length = size
    have hresults := hmerge fun row => endResult (L.rowEnd config shared k size row)
    rw [hempty] at hresults
    exact ⟨_, congrArg _ hresults, .returned (fun row h => (hnone row h).elim) fun input hinput =>
      settled_of_rows L _ hnodup hmoved (fun row h => (hnone row h).elim) hinput⟩
  split at hrun
  · rename_i hlarge
    have := length_ownRows_le config shared inputs
    omega
  rename_i hne _
  have hend := L.decodeSharedRows_end config now hne shared k
  unfold Spec at hend
  split at hrun <;> rename_i hdecode <;> rw [hdecode] at hend <;> subst hrun
  · rename_i results s
    generalize s.1 = after at hend hmoved
    cases hend with
    | returned hends =>
      refine ⟨_, congrArg _ ((congrArg _ (List.map_map)).trans (hmerge _)),
        .returned (fun row hrow => hends _ (List.mem_map_of_mem hrow)) fun input hinput => ?_⟩
      refine settled_of_rows L _ hnodup hmoved (fun row hrow => ?_) hinput
      refine lookup_settleRows now ?_ shared (List.mem_map_of_mem
        (f := fun row => (row.1, L.rowEnd config shared k (ownRows config shared inputs).length row))
        hrow)
      rw [List.map_map]
      exact hrows
  · rename_i thrown s
    generalize s.1 = after at hend hmoved
    cases hend with
    | thrown hmem hsame =>
      obtain ⟨_, hrow, hthrown⟩ := hmem
      obtain ⟨row, hvalid, rfl⟩ := List.mem_map.mp hrow
      refine ⟨_, congrArg _ (hmerge _), .thrown ⟨row, hvalid, hthrown⟩ fun hall => hsame ?_⟩
      exact fun _ hmem => (List.mem_map.mp hmem).elim fun row ⟨hrow, heq⟩ => heq ▸ hall row hrow

/-! ## When a batch isolates its sessions -/

theorem withoutBatchSize_thrownResult (thrown : Thrown) :
    withoutBatchSize (thrownResult thrown) = thrownResult thrown := by
  cases thrown <;> rfl

theorem eq_thrownResult {r : ExecutionResult}
    (h : withoutBatchSize r = thrownResult thrown) : r = thrownResult thrown := by
  obtain ⟨error, herror, -⟩ := thrownResult_code thrown
  rw [herror] at h ⊢
  cases r with
  | ok output => cases h
  | error other => exact h

theorem settled_thrownResult (session : SharedSession) (thrown : Thrown) :
    settled now session (thrownResult thrown) = session := by
  cases thrown <;> rfl

theorem settled_congr {r r' : ExecutionResult} (h : withoutBatchSize r = withoutBatchSize r')
    (session : SharedSession) : settled now session r = settled now session r' := by
  cases r <;> cases r' <;> first | rfl | cases h

theorem ends_of_withoutBatchSize {x y : Except Thrown ExecutionResult}
    (h : x.map withoutBatchSize = y.map withoutBatchSize) :
    (∀ thrown, x = .error thrown ↔ y = .error thrown) ∧
      withoutBatchSize (endResult x) = withoutBatchSize (endResult y) := by
  cases x with
  | error a =>
    cases y with
    | error b =>
      cases Except.error.inj h
      exact ⟨fun _ => Iff.rfl, rfl⟩
    | ok b => cases h
  | ok a =>
    cases y with
    | error b => cases h
    | ok b => exact ⟨fun _ => iff_of_false nofun nofun, Except.ok.inj h⟩

theorem RowLocal.rowEnd_error_iff (L : RowLocal engine) (m n : Int) :
    L.rowEnd config shared k m row = .error thrown ↔
      L.rowEnd config shared k n row = .error thrown :=
  (ends_of_withoutBatchSize (L.rowEnd_batchSize config shared k m n row)).1 thrown

theorem ownResult_batchSize (L : RowLocal engine) (m n : Int) (input : StageInput) :
    withoutBatchSize (ownResult L config shared k m input) =
      withoutBatchSize (ownResult L config shared k n input) := by
  cases hcheck : ownCheck config shared.sessions input with
  | error error => rw [ownResult_of_error L m hcheck, ownResult_of_error L n hcheck]
  | ok session =>
    rw [ownResult_of_ok L m hcheck, ownResult_of_ok L n hcheck]
    exact (ends_of_withoutBatchSize (L.rowEnd_batchSize config shared k m n _)).2

/-- No row throws, or all rows throw the same. -/
def RowLocal.Uniform (L : RowLocal engine) (config : LlamaCppStageConfig) (shared : SharedState)
    (k : κ) (inputs : List StageInput) : Prop :=
  (∀ row ∈ ownRows config shared inputs, ∃ result, L.rowEnd config shared k 1 row = .ok result) ∨
    ∃ thrown, ∀ row ∈ ownRows config shared inputs, L.rowEnd config shared k 1 row = .error thrown

/-- A batch gave its inputs what each gets by itself. -/
def OwnOutcomes (L : RowLocal engine) (config : LlamaCppStageConfig) (shared : SharedState) (k : κ)
    (now : Int) (inputs : List StageInput) (results : List ExecutionResult) (after : SharedState) :
    Prop :=
  ∀ (i : Nat) input, inputs[i]? = some input →
    results[i]?.map withoutBatchSize =
      some (withoutBatchSize (ownResult L config shared k 1 input)) ∧
    after.sessions.lookup input.sessionId = ownSession L config shared k now input

theorem BatchEnd.ownOutcomes_iff {L : RowLocal engine} {size : Nat} {results : List ExecutionResult}
    (h : BatchEnd L config shared k now inputs size results after) :
    OwnOutcomes L config shared k now inputs results after ↔ L.Uniform config shared k inputs := by
  cases h with
  | returned hends hsettled =>
    refine iff_of_true (fun i input hi => ⟨?_, ?_⟩) (.inl fun row hrow => ?_)
    · rw [List.getElem?_map, hi]
      exact congrArg some (ownResult_batchSize L size 1 input)
    · rw [hsettled input (List.mem_of_getElem? hi)]
      exact Option.map_congr fun session _ => settled_congr (ownResult_batchSize L size 1 input) session
    · cases hend : L.rowEnd config shared k 1 row with
      | ok result => exact ⟨result, rfl⟩
      | error thrown =>
        obtain ⟨result, hresult⟩ := hends row hrow
        cases hresult.symm.trans ((L.rowEnd_error_iff 1 size).mp hend)
  | @thrown _ thrown hmem hsame =>
    constructor
    · intro hown
      refine .inr ⟨thrown, fun row hrow => ?_⟩
      obtain ⟨hinput, hcheck⟩ := mem_ownRows.mp hrow
      obtain ⟨i, hi⟩ := List.mem_iff_getElem?.mp hinput
      have hresult := (hown i row.1 hi).1
      rw [List.getElem?_map, hi, ownResult_of_ok L 1 hcheck] at hresult
      have hsame := Option.some.inj hresult
      dsimp only at hsame
      rw [inputResult_of_ok _ hcheck, withoutBatchSize_thrownResult] at hsame
      exact L.rowEnd_eq_error (eq_thrownResult hsame.symm)
    · intro huniform
      obtain ⟨bad, hbad, hthrown⟩ := hmem
      have hthrown := (L.rowEnd_error_iff size 1).mp hthrown
      have hall : ∀ row ∈ ownRows config shared inputs,
          L.rowEnd config shared k 1 row = .error thrown := by
        rcases huniform with hok | ⟨other, hother⟩
        · obtain ⟨result, hresult⟩ := hok bad hbad
          cases hthrown.symm.trans hresult
        · cases hthrown.symm.trans (hother bad hbad)
          exact hother
      have hafter := hsame fun row hrow => ⟨thrown, (L.rowEnd_error_iff 1 size).mp (hall row hrow)⟩
      subst hafter
      intro i input hi
      rw [List.getElem?_map, hi, ownSession]
      cases hcheck : ownCheck config after.sessions input with
      | error error =>
        rw [ownResult_of_error L 1 hcheck]
        refine ⟨?_, Option.map_id'.symm⟩
        exact congrArg (fun r => some (withoutBatchSize r)) (inputResult_of_error _ hcheck)
      | ok session =>
        have hrow : (input, session) ∈ ownRows config after inputs :=
          mem_ownRows.mpr ⟨List.mem_of_getElem? hi, hcheck⟩
        rw [ownResult_of_ok L 1 hcheck, hall (input, session) hrow]
        refine ⟨congrArg (fun r => some (withoutBatchSize r)) (inputResult_of_ok _ hcheck), ?_⟩
        simp only [endResult, settled_thrownResult, Option.map_id']

theorem RowLocal.uniform_singleton (L : RowLocal engine) (input : StageInput) :
    L.Uniform config shared k [input] := by
  cases hcheck : ownCheck config shared.sessions input with
  | error error =>
    have hnone : ownRows config shared [input] = [] := by simp [ownRows, validRows, hcheck]
    exact .inl (by simp [hnone])
  | ok session =>
    have hone : ownRows config shared [input] = [(input, session)] := by
      simp [ownRows, validRows, hcheck]
    unfold Uniform
    rw [hone]
    cases hend : L.rowEnd config shared k 1 (input, session) with
    | ok result => exact .inl (by simp [hend])
    | error thrown => exact .inr ⟨thrown, by simp [hend]⟩

/-- Every input gets what it gets alone, but for the size of the batch. -/
def Isolated (config : LlamaCppStageConfig) (engine : LlamaEngine κ φ) (now : Int)
    (inputs : List StageInput) (s : AdapterState κ) : Prop :=
  ∀ (i : Nat) input, inputs[i]? = some input →
    (AdapterState.executeBatch config engine now inputs s).1[i]?.map withoutBatchSize =
      some (withoutBatchSize (AdapterState.execute config engine now input s).1) ∧
    (AdapterState.executeBatch config engine now inputs s).2.shared.sessions.lookup input.sessionId =
      (AdapterState.execute config engine now input s).2.shared.sessions.lookup input.sessionId

theorem executeBatch_of_prune_error {now : Int} {s pruned : AdapterState κ}
    (h : AdapterState.prune config engine now s = (.error thrown, pruned))
    (inputs : List StageInput) :
    AdapterState.executeBatch config engine now inputs s =
      (inputs.map fun _ => thrownResult thrown, pruned) := by
  unfold AdapterState.executeBatch
  simp only [bind_apply, h]

theorem executeBatch_of_prune {now : Int} {s pruned : AdapterState κ}
    (h : AdapterState.prune config engine now s = (.ok (), pruned))
    (hmode : config.batchingEnabled = true) {inputs : List StageInput} (hne : inputs ≠ [])
    (hphase : ∀ input ∈ inputs, input.phase = .decode) {results : List ExecutionResult}
    (hrun : (executeSharedDecodeLocked config engine now inputs
      (pruned.shared, pruned.llama)).1 = .ok results) :
    (AdapterState.executeBatch config engine now inputs s).1 = results ∧
      (AdapterState.executeBatch config engine now inputs s).2.shared =
        (executeSharedDecodeLocked config engine now inputs (pruned.shared, pruned.llama)).2.1 := by
  have hall : inputs.all (·.phase = .decode) = true := by simpa using hphase
  have hinputs : AdapterState.executeInputs config engine now inputs =
      AdapterState.onShared (executeSharedDecodeLocked config engine now inputs) := by
    unfold AdapterState.executeInputs executeSharedLocked
    rw [if_pos hmode, if_neg hne, if_pos hall]
  unfold AdapterState.executeBatch
  simp only [bind_apply, h, hinputs, AdapterState.onShared]
  rw [hrun]
  exact ⟨rfl, rfl⟩

/-- **A batch isolates its sessions exactly if no row throws by itself, or all throw the same.** -/
theorem batch_isolates_iff (config : LlamaCppStageConfig) (engine : LlamaEngine κ φ)
    (L : RowLocal engine) {s : AdapterState κ} (hs : (adapterMachine config engine).Reachable s)
    (hmode : config.batchingEnabled = true) (now : Int) {inputs : List StageInput}
    (hlength : (inputs.length : Int) ≤ config.decodeBatchSize)
    (hphase : ∀ input ∈ inputs, input.phase = .decode)
    (hnodup : (inputs.map (·.sessionId)).Nodup) :
    Isolated config engine now inputs s ↔
      ∀ pruned, AdapterState.prune config engine now s = (.ok (), pruned) →
        L.Uniform config pruned.shared pruned.llama inputs := by
  rcases hprune : AdapterState.prune config engine now s with ⟨thrown | _, pruned⟩
  · -- the exception of the reaping is the result of every input, alone or not
    refine iff_of_true (fun i input hi => ?_) fun _ h => nomatch h
    unfold AdapterState.execute
    rw [executeBatch_of_prune_error hprune, executeBatch_of_prune_error hprune,
      List.getElem?_map, hi]
    exact ⟨rfl, rfl⟩
  have hheld : pruned.shared.Slots Slots.Held :=
    held_step s (.prune now) pruned (held_of_reachable hs)
      ⟨trivial, (congrArg Prod.snd hprune).symm⟩
  rcases eq_or_ne inputs [] with rfl | hne
  · refine iff_of_true (fun i input hi => nomatch hi) fun _ _ => .inl fun row hrow => ?_
    cases (mem_ownRows.mp hrow).1
  obtain ⟨results, hresults, hend⟩ := executeSharedDecodeLocked_end config inputs L hheld hnodup
    pruned.llama now hlength
  obtain ⟨hbatch, hafter⟩ := executeBatch_of_prune hprune hmode hne hphase hresults
  have hown : Isolated config engine now inputs s ↔ OwnOutcomes L config pruned.shared pruned.llama
      now inputs results
        (executeSharedDecodeLocked config engine now inputs (pruned.shared, pruned.llama)).2.1 := by
    refine forall₃_congr fun i input hi => ?_
    have hone : 1 < config.decodeBatchSize := by
      simpa [LlamaCppStageConfig.batchingEnabled] using hmode
    have hinput := List.mem_of_getElem? hi
    obtain ⟨alone, halone, hend⟩ := executeSharedDecodeLocked_end config [input] L hheld
      (List.nodup_singleton _) pruned.llama now (by simp only [List.length_singleton]; omega)
    obtain ⟨hresult, hsession⟩ := hend.ownOutcomes_iff.mpr (L.uniform_singleton input) 0 input rfl
    obtain ⟨result, hget, hsame⟩ := Option.map_eq_some_iff.mp hresult
    have hhead : alone.headD (.error {}) = result := by
      rw [List.headD_eq_head?_getD, List.head?_eq_getElem?, hget]
      rfl
    obtain ⟨hfirst, hkept⟩ := executeBatch_of_prune hprune hmode (List.cons_ne_nil input [])
      (by simpa using hphase input hinput) halone
    unfold AdapterState.execute
    rw [hbatch, hafter, hfirst, hkept, hsession, hhead, hsame]
  rw [hown, hend.ownOutcomes_iff]
  exact ⟨fun h _ heq => by cases heq; exact h, fun h => h pruned rfl⟩

/-- A library with logits for every row and a text for every token. -/
abbrev plainEngine : LlamaEngine Nat Nat := smallEngine (fun _ => false) fun _ => .ok (str "x")

/-- Its outputs depend on nothing at all. -/
def plainRows : RowLocal plainEngine where
  Exposes _ _ _ := True
  embeddings _ _ := .ok (some fun _ => 0)
  logits _ _ := .ok (some id)
  endToken _ := .ok false
  piece _ := .ok (str "x")
  decode_eq _ _ _ := ⟨rfl, trivial⟩
  embeddings_eq _ _ _ _ _ _ _ _ := ⟨rfl, trivial⟩
  logits_eq _ _ _ _ _ _ _ _ := ⟨rfl, trivial⟩
  endToken_eq _ _ _ _ _ := ⟨rfl, trivial⟩
  piece_eq _ _ _ _ _ := ⟨rfl, trivial⟩

/-- A prefill of text. -/
def textPrefill (session : Bytes) : AdapterStep :=
  .sharedPrefill 0 (smallInput session .prefill 0 (textPayload (str "p")))

/-- Two sessions after their prefills. -/
def prefilledWith (engine : LlamaEngine Nat Nat) : AdapterState Nat :=
  ((AdapterState.start smallShared 0).after smallShared engine
    (textPrefill (str "a"))).after smallShared engine (textPrefill (str "b"))

/-- Two sessions after their prefills. -/
def twoSessions : AdapterState Nat := prefilledWith plainEngine

theorem twoSessions_reachable : (adapterMachine smallShared plainEngine).Reachable twoSessions := by
  have hstep : ∀ s session, (adapterMachine smallShared plainEngine).step s (textPrefill session)
      (s.after smallShared plainEngine (textPrefill session)) := fun _ _ => ⟨⟨rfl, rfl⟩, rfl⟩
  exact .step (.step (.init ⟨0, rfl⟩) (hstep _ (str "a"))) (hstep _ (str "b"))

/-- A decode of one sampled token. -/
def tokenDecode (session : Bytes) : StageInput :=
  smallInput session .decode 1 (sampledTokenPayload 1)

/-- Two decodes that are isolated. -/
theorem batch_isolates_sample :
    Isolated smallShared plainEngine 0 [tokenDecode (str "a"), tokenDecode (str "b")] twoSessions := by
  refine (batch_isolates_iff smallShared plainEngine plainRows twoSessions_reachable rfl 0
    (by decide) (by decide) (by decide)).mpr fun pruned hprune => .inl ?_
  have hends : ∀ row ∈ ownRows smallShared
      (AdapterState.prune smallShared plainEngine 0 twoSessions).2.shared
      [tokenDecode (str "a"), tokenDecode (str "b")],
      (plainRows.rowEnd smallShared
        (AdapterState.prune smallShared plainEngine 0 twoSessions).2.shared
        (AdapterState.prune smallShared plainEngine 0 twoSessions).2.llama 1 row).toBool = true := by
    decide +kernel
  rw [hprune] at hends
  exact fun row hrow => Checks.exists_of_toBool (hends row hrow)

/-- A decode of text: it passes the checks of an input. -/
def textDecode (session : Bytes) : StageInput :=
  smallInput session .decode 1 (textPayload (str "hi"))

/-- The malformed payload of one session fails the decode of another. -/
theorem malformed_decode_fails_batch :
    validateStageInput (textDecode (str "b")) = .ok () ∧
    (AdapterState.execute smallShared plainEngine 0 (tokenDecode (str "a")) twoSessions).1.isOk ∧
    ¬ Isolated smallShared plainEngine 0 [tokenDecode (str "a"), textDecode (str "b")]
      twoSessions := by
  refine ⟨by decide +kernel, by decide +kernel, fun h => ?_⟩
  have hfirst := (h 0 (tokenDecode (str "a")) rfl).1
  revert hfirst
  decide +kernel

end JetsonFabric
