import JetsonFabric.Adapters.SessionSpecs

/-!
# The rows of a decode batch

A decode batch of the shared mode builds its rows, decodes them and reads their outputs one after the
other: each good output moves its session, and the first exception ends the batch.
-/

namespace JetsonFabric

open Stops

/-! ## Ends of rows -/

/-- What the output of a row means for it: a result, or an exception. -/
def outputEnd : Except Stop StageOutput → Except Thrown ExecutionResult
  | .ok output => .ok (.ok output)
  | .error (.result error) => .ok (.error error)
  | .error (.thrown thrown) => .error thrown

/-- The result of a row that ended so. -/
def endResult : Except Thrown ExecutionResult → ExecutionResult
  | .ok result => result
  | .error thrown => thrownResult thrown

/-- A session after a row with the given result. -/
def settled (now : Int) (session : SharedSession) : ExecutionResult → SharedSession
  | .ok _ => session.advance now
  | .error _ => session

/-- A good result moves the session of its row. -/
def SharedState.settle (shared : SharedState) (sessionId : Bytes) (now : Int) :
    ExecutionResult → SharedState
  | .ok _ => shared.advance sessionId now
  | .error _ => shared

theorem SharedState.lookup_settle (shared : SharedState) (id : Bytes) (now : Int)
    (result : ExecutionResult) :
    (shared.settle id now result).sessions.lookup id =
      (shared.sessions.lookup id).map (settled now · result) := by
  cases result with
  | ok _ => exact shared.lookup_advance id now
  | error _ => exact Option.map_id'.symm

theorem SharedState.lookup_settle_ne (shared : SharedState) {id other : Bytes} (h : other ≠ id)
    (now : Int) (result : ExecutionResult) :
    (shared.settle id now result).sessions.lookup other = shared.sessions.lookup other := by
  cases result with
  | ok _ => exact shared.lookup_advance_ne h now
  | error _ => rfl

/-! ## Walks -/

variable {rows : List (StageInput × Except Thrown ExecutionResult)}

/-- The rows one after the other, from how each of them ends. -/
def walkRows (now : Int) : List (StageInput × Except Thrown ExecutionResult) → SharedState →
    Except Thrown (List ExecutionResult) × SharedState
  | [], shared => (.ok [], shared)
  | (_, .error thrown) :: _, shared => (.error thrown, shared)
  | (input, .ok result) :: rows, shared =>
    consResult result (walkRows now rows (shared.settle input.sessionId now result))

/-- Every row moves its session if its result is good. -/
def settleRows (now : Int) (rows : List (StageInput × Except Thrown ExecutionResult))
    (shared : SharedState) : SharedState :=
  rows.foldl (fun shared row => shared.settle row.1.sessionId now (endResult row.2)) shared

theorem lookup_settleRows_of_not_mem (now : Int) (shared : SharedState) {id : Bytes}
    (hid : id ∉ rows.map (·.1.sessionId)) :
    (settleRows now rows shared).sessions.lookup id = shared.sessions.lookup id := by
  induction rows generalizing shared with
  | nil => rfl
  | cons row rows ih =>
    simp only [List.map_cons, List.mem_cons, not_or] at hid
    exact (ih _ hid.2).trans (shared.lookup_settle_ne hid.1 now _)

theorem lookup_settleRows (now : Int)
    (hnodup : (rows.map (·.1.sessionId)).Nodup) (shared : SharedState)
    {row : StageInput × Except Thrown ExecutionResult} (hrow : row ∈ rows) :
    (settleRows now rows shared).sessions.lookup row.1.sessionId =
      (shared.sessions.lookup row.1.sessionId).map (settled now · (endResult row.2)) := by
  induction rows generalizing shared with
  | nil => cases hrow
  | cons first rows ih =>
    obtain ⟨hnew, hrest⟩ := List.nodup_cons.mp hnodup
    rcases List.mem_cons.mp hrow with rfl | hmem
    · exact (lookup_settleRows_of_not_mem now _ hnew).trans (shared.lookup_settle _ now _)
    · have hne : row.1.sessionId ≠ first.1.sessionId := fun heq =>
        hnew (List.mem_map.mpr ⟨row, hmem, heq⟩)
      refine (ih hrest (shared.settle first.1.sessionId now (endResult first.2)) hmem).trans ?_
      rw [shared.lookup_settle_ne hne]

/-- Every row has its result, or one throws after others were settled. -/
inductive RowsEnd (now : Int) (rows : List (StageInput × Except Thrown ExecutionResult))
    (shared : SharedState) : Except Thrown (List ExecutionResult) → SharedState → Prop
  | returned (hends : ∀ row ∈ rows, ∃ result, row.2 = .ok result) :
      RowsEnd now rows shared (.ok (rows.map fun row => endResult row.2))
        (settleRows now rows shared)
  | thrown {before after : List (StageInput × Except Thrown ExecutionResult)} {input : StageInput}
      {thrown : Thrown} (hrows : rows = before ++ (input, .error thrown) :: after)
      (hends : ∀ row ∈ before, ∃ result, row.2 = .ok result) :
      RowsEnd now rows shared (.error thrown) (settleRows now before shared)

theorem walkRows_end (now : Int) (rows : List (StageInput × Except Thrown ExecutionResult))
    (shared : SharedState) :
    RowsEnd now rows shared (walkRows now rows shared).1 (walkRows now rows shared).2 := by
  fun_induction walkRows now rows shared with
  | case1 => exact .returned (List.forall_mem_nil _)
  | case2 input thrown rows shared => exact .thrown (List.nil_append _).symm (List.forall_mem_nil _)
  | case3 input result rows shared ih =>
    generalize walkRows now rows (shared.settle input.sessionId now result) = walked at ih ⊢
    obtain ⟨r, after⟩ := walked
    dsimp only at ih
    cases ih with
    | returned hends => exact .returned (List.forall_mem_cons.mpr ⟨⟨result, rfl⟩, hends⟩)
    | thrown hrows hends =>
      have hcons := (congrArg (List.cons (input, .ok result)) hrows).trans List.cons_append.symm
      exact .thrown hcons (List.forall_mem_cons.mpr ⟨⟨result, rfl⟩, hends⟩)

/-! ## Batches -/

variable {κ φ : Type} (config : LlamaCppStageConfig) (engine : LlamaEngine κ φ)

/-- The outputs of so many rows from `row` on. -/
def readOutputs (context batchSize : Nat) : Nat → Nat → κ → List (Except Stop StageOutput)
  | 0, _, _ => []
  | rest + 1, row, k =>
    (outputForRow config engine context row batchSize k).1 ::
      readOutputs context batchSize rest (row + 1)
        (outputForRow config engine context row batchSize k).2

/-- The rows of a batch with how they end. -/
def readRows (context : Nat) (valid : List (StageInput × SharedSession)) (k : κ) :
    List (StageInput × Except Thrown ExecutionResult) :=
  (valid.map (·.1)).zip
    ((readOutputs config engine context valid.length valid.length 0 k).map outputEnd)

variable {config engine}

theorem rowOutputs_walks (now : Int) (context batchSize : Nat) (inputs : List StageInput)
    (row : Nat) (shared : SharedState) (k : κ) :
    (rowOutputs config engine now context batchSize row inputs).Spec (shared, k) fun r s =>
      (r, s.1) = walkRows now (inputs.zip
        ((readOutputs config engine context batchSize inputs.length row k).map outputEnd))
          shared := by
  unfold Spec
  induction inputs generalizing row shared k with
  | nil => rfl
  | cons input inputs ih =>
    simp only [rowOutputs, List.length_cons, readOutputs, List.map_cons, List.zip_cons_cons]
    split <;> rename_i hrun <;> rw [hrun]
    · rfl
    · exact congrArg (consResult _) (ih (row + 1) shared _)
    · exact congrArg (consResult _) (ih (row + 1) _ _)

end JetsonFabric
