import JetsonFabric.Adapters.LlamaStage

/-!
# What the parts of the llama.cpp adapter do to its sessions

One specification for each part, whatever llama.cpp answers.
-/

namespace JetsonFabric

open Stops

/-! ## Maps of sessions -/

section Maps

variable {α : Type} {P : α → Prop} {m : AList fun _ : Bytes => α}

/-- Every session satisfies `P`. -/
def AllSessions (P : α → Prop) (m : AList fun _ : Bytes => α) : Prop :=
  ∀ id x, m.lookup id = some x → P x

theorem AllSessions.insert (h : AllSessions P m) (id : Bytes) {x : α} (hx : P x) :
    AllSessions P (m.insert id x) := by
  intro id' x' hx'
  by_cases hid : id' = id
  · subst hid
    rw [AList.lookup_insert] at hx'
    cases hx'
    exact hx
  · rw [AList.lookup_insert_ne hid] at hx'
    exact h id' x' hx'

theorem AllSessions.erase (h : AllSessions P m) (id : Bytes) : AllSessions P (m.erase id) := by
  intro id' x' hx'
  by_cases hid : id' = id
  · subst hid
    rw [AList.lookup_erase] at hx'
    cases hx'
  · rw [AList.lookup_erase_ne hid] at hx'
    exact h id' x' hx'

theorem AllSessions.erase_all (h : AllSessions P m) (ids : List Bytes) :
    AllSessions P (ids.foldl (fun m id => m.erase id) m) := by
  induction ids generalizing m with
  | nil => exact h
  | cons id ids ih => exact ih (h.erase id)

theorem AllSessions.insert_iff (h : AllSessions P m) (id : Bytes) (x : α) :
    AllSessions P (m.insert id x) ↔ P x := by
  constructor
  · intro hall
    exact hall id x (AList.lookup_insert m)
  · exact h.insert id

end Maps

/-! ## Counters of a session -/

/-- The position, the expected step and the prefill fit together. -/
def CountersFit (config : LlamaCppStageConfig) (nextPosition expectedDecodeStep prefillTokens : Int) :
    Prop :=
  nextPosition = prefillTokens + expectedDecodeStep - 1 ∧ 1 ≤ expectedDecodeStep ∧
    nextPosition ≤ config.ctxSize

/-- The counters of a serial session agree. -/
def SerialSession.Agrees (config : LlamaCppStageConfig) (session : SerialSession) : Prop :=
  CountersFit config session.nextPosition session.expectedDecodeStep session.prefillTokens

/-- The counters of a shared session agree. -/
def SharedSession.Agrees (config : LlamaCppStageConfig) (session : SharedSession) : Prop :=
  CountersFit config session.nextPosition session.expectedDecodeStep session.prefillTokens

variable {κ φ : Type} {config : LlamaCppStageConfig} {engine : LlamaEngine κ φ}

/-- A check without overflow. -/
theorem room_of_contextExhausted {nextPosition : Int} {count : Nat} {input : StageInput}
    (h : config.contextExhausted nextPosition count input = false) (hpos : 0 ≤ nextPosition)
    (hmax : nextPosition + count +
      (if input.phase = .prefill then max 0 (input.maxTokens - 1) else 0) < 2 ^ 31) :
    nextPosition + count ≤ config.ctxSize := by
  have hnonneg : 0 ≤ if input.phase = .prefill then max 0 (input.maxTokens - 1) else 0 := by
    split <;> omega
  simp only [LlamaCppStageConfig.contextExhausted, gt_iff_lt, decide_eq_false_iff_not, not_lt] at h
  rw [Int.bmod_eq_of_le (by omega) (by omega)] at h
  omega

/-! ## Rows of an input -/

theorem pos_of_activationTokenCount {payload : Payload} {nEmbd count : Nat}
    (h : activationTokenCount payload nEmbd = .ok count) : 0 < count := by
  unfold activationTokenCount at h
  split at h
  · split at h
    · cases h
    split at h
    · cases h
    · cases h
      rename_i hbad _
      simp only [not_or, not_le] at hbad
      omega
  · cases h

theorem length_embeddingCells (bytes : Bytes) (rowBytes count : Nat) :
    (embeddingCells bytes rowBytes count).length = count := by
  simp [embeddingCells]

/-! ## Shared mode -/

/-- The sessions and the sequences are those of another state. -/
def SharedState.SameSessions (shared other : SharedState) : Prop :=
  shared.sessions = other.sessions ∧ shared.inUse = other.inUse

theorem ensureSharedContext_spec (shared : SharedState) (k : κ) :
    (ensureSharedContext config engine).Spec (shared, k) fun _ s => s.1.SameSessions shared := by
  unfold ensureSharedContext
  refine spec_bind_getFirst ?_
  split
  · exact ⟨rfl, rfl⟩
  · refine spec_bind_ofExcept (fun _ _ => ⟨rfl, rfl⟩) fun params _ => ?_
    refine spec_bind_onSecond (R := fun _ => True) (fun _ _ => trivial) (fun _ _ => ⟨rfl, rfl⟩) ?_
    intro context k _
    exact ⟨rfl, rfl⟩

variable (config engine) in
/-- A prefill does not touch the sessions. -/
theorem runSharedPrefill_spec (session : SharedSession) (input : StageInput) (shared : SharedState)
    (k : κ) :
    (runSharedPrefill config engine session input).Spec (shared, k) fun r s =>
      s.1.SameSessions shared ∧ ∀ output after, r = .ok (output, after) →
        after.sequenceId = session.sequenceId := by
  unfold runSharedPrefill
  refine spec_bind_onSecond (R := fun _ => True) (fun _ _ => trivial)
    (fun _ _ => ⟨⟨rfl, rfl⟩, fun _ _ h => nomatch h⟩) ?_
  rintro ⟨cells, tokens⟩ k -
  refine spec_bind (R := fun _ s => s.1.SameSessions shared) ?_ ?_
  · refine (ensureSharedContext_spec shared k).imp ?_
    rintro (e | context) s hsame
    · exact ⟨hsame, fun _ _ h => nomatch h⟩
    · exact hsame
  rintro context ⟨kept, k⟩ hsame
  refine spec_bind_onSecond (R := fun _ => True) (fun _ _ => trivial)
    (fun _ _ => ⟨hsame, fun _ _ h => nomatch h⟩) ?_
  intro bytes k _
  refine spec_bind_onSecond (R := fun _ => True) (fun _ _ => trivial)
    (fun _ _ => ⟨hsame, fun _ _ h => nomatch h⟩) ?_
  intro output k _
  refine spec_pure ⟨hsame, fun output' after h => ?_⟩
  cases h
  rfl

variable (engine) in
theorem releaseSequence_spec (sequenceId : Nat) (shared : SharedState) (k : κ) :
    (releaseSequence engine sequenceId).Spec (shared, k) fun r s =>
      s.1.sessions = shared.sessions ∧ s.1.inUse =
        match r with
        | .ok () => shared.inUse.set sequenceId false
        | .error _ => shared.inUse := by
  unfold releaseSequence
  refine spec_bind_getFirst ?_
  split
  · refine spec_bind_onSecond (R := fun _ => True) (fun _ _ => trivial) (fun _ _ => ⟨rfl, rfl⟩) ?_
    intro _ k _
    exact ⟨rfl, rfl⟩
  · exact ⟨rfl, rfl⟩

theorem allocateSequence_eq_some {shared taken : SharedState} {i : Nat}
    (h : allocateSequence shared = some (i, taken)) :
    shared.inUse[i]? = some false ∧ taken = { shared with inUse := shared.inUse.set i true } := by
  unfold allocateSequence at h
  split at h
  · rename_i index hfind
    cases h
    obtain ⟨hlt, hfree, -⟩ := List.findIdx?_eq_some_iff_getElem.mp hfind
    exact ⟨by rw [List.getElem?_eq_getElem hlt]; simpa using hfree, rfl⟩
  · cases h

theorem set_set_free {flags : List Bool} {i : Nat} (h : flags[i]? = some false) :
    (flags.set i true).set i false = flags := by
  obtain ⟨hlt, hfree⟩ := List.getElem?_eq_some_iff.mp h
  rw [List.set_set, ← hfree, List.set_getElem_self]

/-- How a prefill ends. -/
inductive PrefillEnd (input : StageInput) (shared : SharedState) :
    Except Thrown ExecutionResult → SharedState → Prop
  /-- Without a trace. -/
  | refused {result : ExecutionResult} {after : SharedState} (h : after.SameSessions shared) :
      PrefillEnd input shared (.ok result) after
  /-- With a new session on a free sequence. -/
  | stored {result : ExecutionResult} {after : SharedState} {session : SharedSession}
      (hfree : shared.inUse[session.sequenceId]? = some false)
      (hnew : input.sessionId ∉ shared.sessions)
      (hsessions : after.sessions = shared.sessions.insert input.sessionId session)
      (hinUse : after.inUse = shared.inUse.set session.sequenceId true) :
      PrefillEnd input shared (.ok result) after
  /-- By an exception that leaves a sequence taken. -/
  | thrown {thrown : Thrown} {after : SharedState} {i : Nat} (hfree : shared.inUse[i]? = some false)
      (hsessions : after.sessions = shared.sessions) (hinUse : after.inUse = shared.inUse.set i true) :
      PrefillEnd input shared (.error thrown) after

variable (config engine) in
theorem executeSharedPrefillLocked_spec (now : Int) (input : StageInput) (shared : SharedState)
    (k : κ) :
    (executeSharedPrefillLocked config engine now input).Spec (shared, k) fun r s =>
      PrefillEnd input shared r s.1 := by
  unfold Spec executeSharedPrefillLocked
  dsimp only
  split
  · exact .refused ⟨rfl, rfl⟩
  split
  · exact .refused ⟨rfl, rfl⟩
  rename_i hnew
  split
  · exact .refused ⟨rfl, rfl⟩
  rename_i i taken halloc
  obtain ⟨hfree, rfl⟩ := allocateSequence_eq_some halloc
  have hspec := runSharedPrefill_spec config engine { sequenceId := i } input
    { shared with inUse := shared.inUse.set i true } k
  unfold Spec at hspec
  split
  · rename_i output session kept k' hrun
    rw [hrun] at hspec
    obtain ⟨⟨hsessions, hinUse⟩, hafter⟩ := hspec
    have hsequence := hafter output session rfl
    refine .stored ?_ hnew (by rw [← hsessions]) ?_
    · exact hsequence ▸ hfree
    · exact hsequence ▸ hinUse
  · rename_i error kept k' hrun
    rw [hrun] at hspec
    obtain ⟨⟨hsessions, hinUse⟩, -⟩ := hspec
    have hrelease := releaseSequence_spec engine i kept k'
    unfold Spec at hrelease
    split
    · rename_i hr
      rw [hr] at hrelease
      refine .refused ⟨hrelease.1.trans hsessions, ?_⟩
      rw [hrelease.2, hinUse]
      exact set_set_free hfree
    · rename_i hr
      rw [hr] at hrelease
      exact .thrown hfree (hrelease.1.trans hsessions) (hrelease.2.trans hinUse)
  · rename_i thrown kept k' hrun
    rw [hrun] at hspec
    exact .thrown hfree hspec.1.1 hspec.1.2

/-! ### Decode batches -/

/-- What a row that passed the checks of a batch has. -/
structure ValidRow (config : LlamaCppStageConfig) (sessions : SharedSessions)
    (row : StageInput × SharedSession) : Prop where
  resident : sessions.lookup row.1.sessionId = some row.2
  room : config.contextExhausted row.2.nextPosition 1 row.1 = false

theorem sharedCheck_ok {sessions : SharedSessions} {seen : List Nat} {input : StageInput}
    {session : SharedSession} (h : (sharedCheck config sessions seen input).1 = .ok session) :
    ValidRow config sessions (input, session) ∧ session.sequenceId ∉ seen ∧
      (sharedCheck config sessions seen input).2 = session.sequenceId :: seen := by
  unfold sharedCheck at h ⊢
  split at h
  · cases h
  rename_i hassign
  rw [if_neg hassign]
  split at h
  · cases h
  rename_i found hsome
  split at h
  · cases h
  rename_i hstep
  rw [if_neg hstep]
  split at h
  · cases h
  rename_i hseen
  rw [if_neg hseen]
  split at h
  · cases h
  rename_i hroom
  rw [if_neg hroom]
  cases h
  exact ⟨⟨hsome, by simpa using hroom⟩, hseen, rfl⟩

variable (config) in
theorem seen_subset_sharedCheck (sessions : SharedSessions) (seen : List Nat) (input : StageInput) :
    seen ⊆ (sharedCheck config sessions seen input).2 := by
  unfold sharedCheck
  split
  · exact List.Subset.refl _
  split
  · exact List.Subset.refl _
  split_ifs
  · exact List.Subset.refl _
  · exact List.Subset.refl _
  · exact List.subset_cons_self _ _
  · exact List.subset_cons_self _ _

variable (config) in
/-- The rows are of different sequences, none of them seen before. -/
theorem validRows_spec (sessions : SharedSessions) (seen : List Nat) (inputs : List StageInput) :
    (∀ row ∈ validRows (sharedChecks config sessions seen inputs),
      ValidRow config sessions row ∧ row.2.sequenceId ∉ seen) ∧
    ((validRows (sharedChecks config sessions seen inputs)).map (·.2.sequenceId)).Nodup := by
  induction inputs generalizing seen with
  | nil => exact ⟨fun row h => (List.not_mem_nil h).elim, List.nodup_nil⟩
  | cons input inputs ih =>
    obtain ⟨hrows, hnodup⟩ := ih (sharedCheck config sessions seen input).2
    have hsub := seen_subset_sharedCheck config sessions seen input
    cases hcheck : (sharedCheck config sessions seen input).1 with
    | error e =>
      have heq : validRows (sharedChecks config sessions seen (input :: inputs)) =
          validRows (sharedChecks config sessions (sharedCheck config sessions seen input).2 inputs) := by
        simp [validRows, sharedChecks, hcheck]
      rw [heq]
      exact ⟨fun row h => ⟨(hrows row h).1, fun hseen => (hrows row h).2 (hsub hseen)⟩, hnodup⟩
    | ok session =>
      obtain ⟨hvalid, hnew, hseen⟩ := sharedCheck_ok hcheck
      have heq : validRows (sharedChecks config sessions seen (input :: inputs)) =
          (input, session) ::
            validRows (sharedChecks config sessions (sharedCheck config sessions seen input).2 inputs) := by
        simp [validRows, sharedChecks, hcheck]
      rw [heq]
      refine ⟨fun row h => ?_, List.nodup_cons.mpr ⟨fun hmem => ?_, hnodup⟩⟩
      · rcases List.mem_cons.mp h with rfl | h
        · exact ⟨hvalid, hnew⟩
        · exact ⟨(hrows row h).1, fun hold => (hrows row h).2 (hsub hold)⟩
      · obtain ⟨row, hrow, hid⟩ := List.mem_map.mp hmem
        exact (hrows row hrow).2 (by rw [hseen, hid]; exact List.mem_cons_self)

theorem mem_of_validRows {sessions : SharedSessions} {seen : List Nat} {inputs : List StageInput}
    {row : StageInput × SharedSession}
    (h : row ∈ validRows (sharedChecks config sessions seen inputs)) : row.1 ∈ inputs := by
  induction inputs generalizing seen with
  | nil => cases h
  | cons input inputs ih =>
    cases hcheck : (sharedCheck config sessions seen input).1 with
    | error e =>
      simp only [validRows, sharedChecks, hcheck, List.filterMap_cons] at h
      exact List.mem_cons_of_mem _ (ih h)
    | ok session =>
      simp only [validRows, sharedChecks, hcheck, List.filterMap_cons, List.mem_cons] at h
      rcases h with rfl | h
      · exact List.mem_cons_self
      · exact List.mem_cons_of_mem _ (ih h)

variable (config) in
theorem nodup_sessionIds (sessions : SharedSessions) (inputs : List StageInput) :
    ((validRows (sharedChecks config sessions [] inputs)).map (·.1.sessionId)).Nodup := by
  obtain ⟨hrows, hnodup⟩ := validRows_spec config sessions [] inputs
  rw [List.Nodup, List.pairwise_map] at hnodup ⊢
  refine hnodup.imp_of_mem fun {a b} ha hb hne hid => hne ?_
  have hsame := (hrows a ha).1.resident.symm.trans (hid ▸ (hrows b hb).1.resident)
  rw [Option.some.inj hsame]

/-- Some sessions in `ids` are one token on; nothing else has changed. -/
structure Moved (now : Int) (ids : List Bytes) (shared after : SharedState) : Prop where
  inUse : after.inUse = shared.inUse
  others : ∀ id ∉ ids, after.sessions.lookup id = shared.sessions.lookup id
  own : ∀ id ∈ ids, after.sessions.lookup id = shared.sessions.lookup id ∨
    ∃ session, shared.sessions.lookup id = some session ∧
      after.sessions.lookup id = some (session.advance now)

theorem Moved.refl (now : Int) (ids : List Bytes) (shared : SharedState) :
    Moved now ids shared shared :=
  ⟨rfl, fun _ _ => rfl, fun _ _ => .inl rfl⟩

theorem Moved.cons {now : Int} {ids : List Bytes} {shared after : SharedState} (id : Bytes)
    (h : Moved now ids shared after) : Moved now (id :: ids) shared after where
  inUse := h.inUse
  others other hother := h.others other fun hmem => hother (List.mem_cons_of_mem _ hmem)
  own other _ := by
    by_cases hmem : other ∈ ids
    · exact h.own other hmem
    · exact .inl (h.others other hmem)

theorem SharedState.advance_inUse (shared : SharedState) (id : Bytes) (now : Int) :
    (shared.advance id now).inUse = shared.inUse := by
  unfold SharedState.advance
  split <;> rfl

theorem SharedState.lookup_advance_ne (shared : SharedState) {id other : Bytes} (h : other ≠ id)
    (now : Int) : (shared.advance id now).sessions.lookup other = shared.sessions.lookup other := by
  unfold SharedState.advance
  split
  · exact AList.lookup_insert_ne h
  · rfl

theorem SharedState.lookup_advance (shared : SharedState) (id : Bytes) (now : Int) :
    (shared.advance id now).sessions.lookup id =
      (shared.sessions.lookup id).map (·.advance now) := by
  unfold SharedState.advance
  split
  · rename_i session hsome
    rw [hsome]
    exact AList.lookup_insert _
  · rename_i hnone
    rw [hnone]
    rfl

theorem Moved.advance {now : Int} {ids : List Bytes} {shared after : SharedState} {id : Bytes}
    (hid : id ∉ ids) (h : Moved now ids (shared.advance id now) after) :
    Moved now (id :: ids) shared after where
  inUse := h.inUse.trans (shared.advance_inUse id now)
  others other hother := by
    simp only [List.mem_cons, not_or] at hother
    exact (h.others other hother.2).trans (shared.lookup_advance_ne hother.1 now)
  own other hother := by
    by_cases heq : other = id
    · subst heq
      have hlookup := (h.others other hid).trans (shared.lookup_advance other now)
      cases hsession : shared.sessions.lookup other with
      | none =>
        rw [hsession] at hlookup
        exact .inl hlookup
      | some session =>
        rw [hsession] at hlookup
        exact .inr ⟨session, rfl, hlookup⟩
    · have hmem := (List.mem_cons.mp hother).resolve_left heq
      have hown := h.own other hmem
      rw [shared.lookup_advance_ne heq now] at hown
      exact hown

variable (config engine) in
theorem rowOutputs_moved (now : Int) (context batchSize : Nat) (inputs : List StageInput)
    (hnodup : (inputs.map (·.sessionId)).Nodup) (row : Nat) (shared : SharedState) (k : κ) :
    Moved now (inputs.map (·.sessionId)) shared
      (rowOutputs config engine now context batchSize row inputs (shared, k)).2.1 := by
  induction inputs generalizing row shared k with
  | nil => exact .refl now [] shared
  | cons input inputs ih =>
    obtain ⟨hid, hrest⟩ := List.nodup_cons.mp hnodup
    simp only [rowOutputs]
    split
    · exact .refl now _ shared
    · exact (ih hrest (row + 1) shared _).cons input.sessionId
    · exact .advance hid (ih hrest (row + 1) _ _)

variable (config engine) in
theorem decodeSharedRows_moved (now : Int) (valid : List (StageInput × SharedSession))
    (hnodup : (valid.map (·.1.sessionId)).Nodup) (shared : SharedState) (k : κ) :
    (decodeSharedRows config engine now valid).Spec (shared, k) fun _ s =>
      Moved now (valid.map (·.1.sessionId)) shared s.1 := by
  unfold decodeSharedRows
  refine spec_bind_getFirst ?_
  split
  · exact spec_stop (.refl now _ shared)
  · refine spec_bind_ofExcept (fun _ _ => .refl now _ shared) fun rows _ => ?_
    refine spec_bind_onSecond (R := fun _ => True) (fun _ _ => trivial)
      (fun _ _ => .refl now _ shared) ?_
    intro status k _
    split
    · exact spec_pure (.refl now _ shared)
    · have hmoved := rowOutputs_moved config engine now ‹Nat› valid.length
        (valid.map (·.1)) (by simpa [Function.comp_def] using hnodup) 0 shared k
      simpa only [Spec, List.map_map, Function.comp_def] using hmoved

variable (config engine) in
/-- **A decode batch** moves some of the sessions that passed the checks. -/
theorem executeSharedDecodeLocked_moved (now : Int) (inputs : List StageInput)
    (shared : SharedState) (k : κ) :
    Moved now ((validRows (sharedChecks config shared.sessions [] inputs)).map (·.1.sessionId))
      shared (executeSharedDecodeLocked config engine now inputs (shared, k)).2.1 := by
  unfold executeSharedDecodeLocked
  dsimp only
  split
  · exact .refl now _ shared
  split
  · exact .refl now _ shared
  have hmoved := decodeSharedRows_moved config engine now _
    (nodup_sessionIds config shared.sessions inputs) shared k
  unfold Spec at hmoved
  split <;> rename_i hrows <;> rw [hrows] at hmoved <;> exact hmoved

/-! ### Closing -/

/-- How a close of a session ends. -/
inductive CloseEnd (sessionId : Bytes) (shared : SharedState) : SharedState → Prop
  /-- There was none, or its sequence could not be given back. -/
  | kept {after : SharedState} (h : after.SameSessions shared) : CloseEnd sessionId shared after
  | closed {after : SharedState} {session : SharedSession}
      (hsome : shared.sessions.lookup sessionId = some session)
      (hsessions : after.sessions = shared.sessions.erase sessionId)
      (hinUse : after.inUse = shared.inUse.set session.sequenceId false) :
      CloseEnd sessionId shared after

variable (engine) in
theorem closeShared_spec (sessionId : Bytes) (shared : SharedState) (k : κ) :
    (closeShared engine sessionId).Spec (shared, k) fun _ s => CloseEnd sessionId shared s.1 := by
  unfold closeShared
  refine spec_bind_getFirst ?_
  split
  · exact spec_pure (.kept ⟨rfl, rfl⟩)
  · rename_i session hsome
    refine spec_bind (R := fun _ s => s.1.sessions = shared.sessions ∧
      s.1.inUse = shared.inUse.set session.sequenceId false) ?_ ?_
    · refine (releaseSequence_spec engine session.sequenceId shared k).imp ?_
      rintro (e | _) s ⟨hsessions, hinUse⟩
      · exact .kept ⟨hsessions, hinUse⟩
      · exact ⟨hsessions, hinUse⟩
    · rintro _ ⟨released, k⟩ ⟨hsessions, hinUse⟩
      dsimp only at hsessions hinUse
      refine spec_bind_getFirst ?_
      exact .closed hsome (by rw [← hsessions]; rfl) hinUse

/-- What every close keeps, the removal of idle sessions keeps. -/
theorem pruneShared_keeps {P : SharedState → Prop}
    (hclose : ∀ id shared after, CloseEnd id shared after → P shared → P after) (now : Int)
    (shared : SharedState) (k : κ) (h : P shared) :
    P (pruneShared config engine now (shared, k)).2.1 := by
  have hfrom : ∀ (ids : List Bytes) (shared : SharedState) (k : κ), P shared →
      (pruneSharedFrom config engine now ids).Spec (shared, k) fun _ s => P s.1 := by
    intro ids
    induction ids with
    | nil => exact fun _ _ h => h
    | cons id ids ih =>
      intro shared k h
      refine spec_bind_getFirst ?_
      split
      · refine spec_bind (R := fun _ s => P s.1) ?_ fun _ s hs => ih s.1 s.2 hs
        refine (closeShared_spec engine id shared k).imp ?_
        rintro (e | _) s hend
        · exact hclose id shared s.1 hend h
        · exact hclose id shared s.1 hend h
      · exact ih shared k h
  exact hfrom _ shared k h

end JetsonFabric
