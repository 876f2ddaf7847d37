import JetsonFabric.PipelineParallel.Batching

/-!
# What continuous batching delivers

* `BatchingInvariant`, **`batchingInvariant`**: what is queued, in flight, executed and owed;
* **`delivers_each_result_once`**: every call gets one result, that of its own place in its batch.
-/

namespace JetsonFabric

/-! ## What is queued, in flight and owed -/

/-- The inputs taken from the queue and not yet handed to the delegate. -/
def WorkerPc.inFlight : WorkerPc → List PendingExecution
  | .execute pending => pending
  | _ => []

/-- The promises the worker is about to fulfil. -/
def WorkerPc.owed : WorkerPc → List (Nat × ExecutionResult)
  | .deliver rest => rest
  | .abandon rest => rest.map fun pending => (pending.id, stoppedFailure)
  | _ => []

inductive WorkerPhase
  | looping
  | leaving
  | left
  deriving DecidableEq

def WorkerPc.phase : WorkerPc → WorkerPhase
  | .leave => .leaving
  | .abandon _ | .finished => .left
  | _ => .looping

/-- What a place of the worker says about the records. -/
def WorkerPc.load (pc : WorkerPc) :
    List PendingExecution × List (Nat × ExecutionResult) × WorkerPhase :=
  (pc.inFlight, pc.owed, pc.phase)

/-- What the queue of the moment of leaving the loop became. -/
def BatchingState.Exit (s : BatchingState) : WorkerPhase → Prop
  | .looping => s.leftQueued = none ∧ s.abandoned = []
  | .leaving => (∃ left, s.leftQueued = some left ∧ left <+: s.queue) ∧ s.abandoned = []
  | .left => ∃ left, s.leftQueued = some left ∧ left <+: s.abandoned

/-- A batch size the configuration allows. -/
def BatchingConfig.Fits (config : BatchingConfig) (pending : List PendingExecution) : Prop :=
  1 ≤ pending.length ∧ pending.length ≤ config.maxBatchSize

/-- What holds at each place of `next_batch`; a stop is never taken back. -/
def BatchingState.Place (config : BatchingConfig) (s : BatchingState) : WorkerPc → Prop
  | .enterWait => s.queue = []
  | .checkReady | .evalFull | .enterTimedWait | .timedBlocked _ | .checkFull =>
    s.stopRequested ∨ s.queue ≠ []
  | .execute pending => config.Fits pending
  | _ => True

structure BatchingInvariant (config : BatchingConfig) (s : BatchingState) : Prop where
  order : s.batches.flatMap (·.pending) ++ s.worker.inFlight ++ s.abandoned ++ s.queue = s.arrivals
  ids : s.arrivals.map (·.id) = List.range s.callers.length
  owed : s.completions ++ s.worker.owed =
    s.batches.flatMap (·.due) ++ s.abandoned.map fun pending => (pending.id, stoppedFailure)
  sizes : ∀ batch ∈ s.batches, config.Fits batch.pending
  place : s.Place config s.worker
  exit : s.Exit s.worker.phase
  returned : ∀ id result, s.callers[id]? = some (.returned result) → (id, result) ∈ s.completions

section Steps

variable {config : BatchingConfig} {s t : BatchingState}

/-- A step that only moves the worker. -/
theorem BatchingInvariant.move (h : BatchingInvariant config s) {pc : WorkerPc}
    (hload : pc.load = s.worker.load) (hplace : s.Place config pc) :
    BatchingInvariant config { s with worker := pc } := by
  simp only [WorkerPc.load, Prod.mk.injEq] at hload
  obtain ⟨hflight, howed, hphase⟩ := hload
  exact {
    order := by
      show _ ++ pc.inFlight ++ _ ++ _ = _
      rw [hflight]
      exact h.order
    ids := h.ids
    owed := by
      show _ ++ pc.owed = _
      rw [howed]
      exact h.owed
    sizes := h.sizes
    place := hplace
    exit := by
      show BatchingState.Exit _ pc.phase
      rw [hphase]
      exact h.exit
    returned := h.returned }

theorem BatchingInvariant.notify (h : BatchingInvariant config s) :
    BatchingInvariant config { s with worker := s.worker.notify } := by
  refine h.move ?_ ?_
  · cases s.worker <;> rfl
  · have hplace := h.place
    revert hplace
    cases s.worker <;> exact id

theorem BatchingInvariant.take (h : BatchingInvariant config s) (hw : s.worker = .checkFull)
    (hstop : s.stopRequested = false) {count : Nat}
    (hcount : count = min config.maxBatchSize s.queue.length) :
    BatchingInvariant config
      { s with worker := .execute (s.queue.take count), queue := s.queue.drop count } := by
  have hexit := h.exit
  have howed := h.owed
  have horder := h.order
  have hplace := h.place
  rw [hw] at hexit howed horder hplace
  exact {
    order := by
      simp only [WorkerPc.inFlight, hexit.2, List.append_nil] at horder ⊢
      rw [List.append_assoc, List.take_append_drop]
      exact horder
    ids := h.ids
    owed := howed
    sizes := h.sizes
    place := by
      have hne : s.queue ≠ [] := by simpa [BatchingState.Place, hstop] using hplace
      have hpos := List.length_pos_iff.mpr hne
      have htwo := config.two_le
      constructor <;> rw [List.length_take] <;> omega
    exit := hexit
    returned := h.returned }

theorem BatchingInvariant.fulfil (h : BatchingInvariant config s) {due : Nat × ExecutionResult}
    {pc : WorkerPc} (hload : s.worker.load = (pc.inFlight, due :: pc.owed, pc.phase))
    (hplace : s.Place config pc) :
    BatchingInvariant config { s with worker := pc, completions := s.completions ++ [due] } := by
  simp only [WorkerPc.load, Prod.mk.injEq] at hload
  obtain ⟨hflight, howed, hphase⟩ := hload
  exact {
    order := by
      show _ ++ pc.inFlight ++ _ ++ _ = _
      rw [← hflight]
      exact h.order
    ids := h.ids
    owed := by
      show s.completions ++ [due] ++ pc.owed = _
      rw [List.append_assoc, List.singleton_append, ← howed]
      exact h.owed
    sizes := h.sizes
    place := hplace
    exit := by
      show BatchingState.Exit _ pc.phase
      rw [← hphase]
      exact h.exit
    returned id result hr := List.mem_append_left _ (h.returned id result hr) }

theorem BatchingInvariant.leave (h : BatchingInvariant config s) (hw : s.worker = .loop) :
    BatchingInvariant config { s with worker := .leave, leftQueued := some s.queue } := by
  have hexit := h.exit
  have horder := h.order
  have howed := h.owed
  rw [hw] at hexit horder howed
  exact {
    order := horder
    ids := h.ids
    owed := howed
    sizes := h.sizes
    place := trivial
    exit := ⟨⟨_, rfl, List.prefix_rfl⟩, hexit.2⟩
    returned := h.returned }

theorem BatchingInvariant.swap (h : BatchingInvariant config s) (hw : s.worker = .leave) :
    BatchingInvariant config
      { s with worker := .abandon s.queue, abandoned := s.queue, queue := [] } := by
  have hexit := h.exit
  have horder := h.order
  have howed := h.owed
  rw [hw] at hexit
  obtain ⟨⟨left, hleft, hsub⟩, habandoned⟩ := hexit
  rw [hw, habandoned] at horder howed
  simp only [WorkerPc.owed, List.append_nil, List.map_nil] at howed
  exact {
    order := by simpa [WorkerPc.inFlight] using horder
    ids := h.ids
    owed := by
      show s.completions ++ _ = _
      rw [howed]
      rfl
    sizes := h.sizes
    place := trivial
    exit := ⟨left, hleft, hsub⟩
    returned := h.returned }

theorem BatchingInvariant.workerStep (h : BatchingInvariant config s)
    (hs : s.workerStep config = some t) : BatchingInvariant config t := by
  have hplace := h.place
  cases hw : s.worker with
  | loop =>
    simp only [BatchingState.workerStep, hw, Option.some.injEq] at hs
    split at hs <;> cases hs
    · exact h.leave hw
    · exact h.move (hw ▸ rfl) trivial
  | lock =>
    simp only [BatchingState.workerStep, hw, Option.some.injEq] at hs
    cases hs
    exact h.move (hw ▸ rfl) trivial
  | evalReady =>
    simp only [BatchingState.workerStep, hw, Option.some.injEq] at hs
    cases hs
    split
    · rename_i hcond
      exact h.move (hw ▸ rfl) hcond
    · rename_i hcond
      exact h.move (hw ▸ rfl) (by simp_all [BatchingState.Place])
  | enterWait =>
    simp only [BatchingState.workerStep, hw, Option.some.injEq] at hs
    cases hs
    exact h.move (hw ▸ rfl) trivial
  | blocked woken =>
    simp only [BatchingState.workerStep, hw, Option.ite_none_right_eq_some, Option.some.injEq] at hs
    obtain ⟨-, rfl⟩ := hs
    exact h.move (hw ▸ rfl) trivial
  | checkReady =>
    simp only [BatchingState.workerStep, hw, Option.some.injEq] at hs
    cases hs
    rw [hw] at hplace
    split
    · exact h.move (hw ▸ rfl) trivial
    · exact h.move (hw ▸ rfl) hplace
  | evalFull =>
    simp only [BatchingState.workerStep, hw, Option.some.injEq] at hs
    cases hs
    rw [hw] at hplace
    split <;> exact h.move (hw ▸ rfl) hplace
  | enterTimedWait =>
    simp only [BatchingState.workerStep, hw, Option.some.injEq] at hs
    cases hs
    rw [hw] at hplace
    exact h.move (hw ▸ rfl) hplace
  | timedBlocked woken =>
    simp only [BatchingState.workerStep, hw, Option.ite_none_right_eq_some, Option.some.injEq] at hs
    obtain ⟨-, rfl⟩ := hs
    rw [hw] at hplace
    exact h.move (hw ▸ rfl) hplace
  | checkFull =>
    simp only [BatchingState.workerStep, hw, Option.some.injEq] at hs
    split at hs <;> cases hs
    · exact h.move (hw ▸ rfl) trivial
    · rename_i hstop
      exact h.take hw (by simpa using hstop) rfl
  | execute pending => simp [BatchingState.workerStep, hw] at hs
  | deliver rest =>
    cases rest <;> simp only [BatchingState.workerStep, hw, Option.some.injEq] at hs <;> cases hs
    · exact h.move (hw ▸ rfl) trivial
    · exact h.fulfil (hw ▸ rfl) trivial
  | leave =>
    simp only [BatchingState.workerStep, hw, Option.some.injEq] at hs
    cases hs
    exact h.swap hw
  | abandon rest =>
    cases rest <;> simp only [BatchingState.workerStep, hw, Option.some.injEq] at hs <;> cases hs
    · exact h.move (hw ▸ rfl) trivial
    · exact h.fulfil (hw ▸ rfl) trivial
  | finished => simp [BatchingState.workerStep, hw] at hs

theorem BatchingInvariant.push (h : BatchingInvariant config s)
    (hfree : s.worker.holdsMutex = false) (input : StageInput) :
    BatchingInvariant config (s.push input) where
  order := by
    show _ ++ (s.queue ++ [_]) = s.arrivals ++ [_]
    rw [← h.order]
    simp only [List.append_assoc]
    rfl
  ids := by simp [BatchingState.push, h.ids, List.range_succ]
  owed := h.owed
  sizes := h.sizes
  place := by
    have hplace := h.place
    show BatchingState.Place config _ s.worker
    cases hw : s.worker <;> rw [hw] at hplace hfree <;>
      first
        | trivial
        | exact hplace
        | exact absurd hfree (by decide)
        | exact .inr (List.append_ne_nil_of_right_ne_nil _ (List.cons_ne_nil _ _))
  exit := by
    have hexit := h.exit
    show BatchingState.Exit _ s.worker.phase
    cases hp : s.worker.phase <;> rw [hp] at hexit
    · exact hexit
    · obtain ⟨⟨left, hleft, hsub⟩, habandoned⟩ := hexit
      exact ⟨⟨left, hleft, hsub.trans (List.prefix_append _ _)⟩, habandoned⟩
    · exact hexit
  returned id result hr := by
    refine h.returned id result ?_
    rw [BatchingState.push, List.getElem?_append] at hr
    split at hr
    · exact hr
    · rw [List.getElem?_singleton] at hr
      split at hr <;> cases hr

theorem BatchingInvariant.setCaller (h : BatchingInvariant config s) (id : Nat) {caller : Caller}
    (hc : ∀ result, caller = .returned result → (id, result) ∈ s.completions) :
    BatchingInvariant config { s with callers := s.callers.set id caller } where
  order := h.order
  ids := h.ids.trans (by simp)
  owed := h.owed
  sizes := h.sizes
  place := h.place
  exit := h.exit
  returned i result hr := by
    rw [List.getElem?_set] at hr
    split at hr
    · rename_i hi
      split at hr
      · exact hi ▸ hc result (Option.some.inj hr)
      · cases hr
    · exact h.returned i result hr

theorem BatchingInvariant.delegate (h : BatchingInvariant config s)
    {pending : List PendingExecution} (hw : s.worker = .execute pending) (outcome : BatchOutcome) :
    BatchingInvariant config
      { s with
        worker := .deliver (ExecutedBatch.mk pending outcome).due
        batches := s.batches ++ [⟨pending, outcome⟩] } := by
  have hexit := h.exit
  have horder := h.order
  have howed := h.owed
  have hplace := h.place
  rw [hw] at hexit horder howed hplace
  obtain ⟨hleft, habandoned⟩ := hexit
  exact {
    order := by
      rw [← horder]
      simp [WorkerPc.inFlight]
    ids := h.ids
    owed := by
      show s.completions ++ _ = _
      simp only [WorkerPc.owed, List.append_nil, habandoned, List.map_nil] at howed
      simp [WorkerPc.owed, howed, habandoned]
    sizes := by
      intro batch hb
      rcases List.mem_append.mp hb with hb | hb
      · exact h.sizes batch hb
      · cases List.mem_singleton.mp hb
        exact hplace
    place := trivial
    exit := ⟨hleft, habandoned⟩
    returned := h.returned }

theorem BatchingInvariant.stop (h : BatchingInvariant config s) {stopping : Stopping}
    (hstop : stopping ≠ .running) : BatchingInvariant config { s with stopping } where
  order := h.order
  ids := h.ids
  owed := h.owed
  sizes := h.sizes
  place := by
    have hplace := h.place
    show BatchingState.Place config _ s.worker
    cases hw : s.worker <;> rw [hw] at hplace <;>
      first
        | exact .inl (decide_eq_true hstop)
        | exact hplace
  exit := h.exit
  returned := h.returned

/-- **Every step keeps the invariant.** -/
theorem batchingInvariant (config : BatchingConfig) :
    (batchingMachine config).Inductive (BatchingInvariant config) where
  init s hs := by
    cases hs
    exact {
      order := rfl
      ids := rfl
      owed := rfl
      sizes := by simp
      place := trivial
      exit := ⟨rfl, rfl⟩
      returned := by simp }
  step s a t h hs := by
    change s.next config a = some t at hs
    cases a with
    | push input =>
      simp only [BatchingState.next, Option.ite_none_right_eq_some, Option.some.injEq] at hs
      obtain ⟨⟨-, hfree⟩, rfl⟩ := hs
      exact h.push hfree input
    | notifyOne id =>
      simp only [BatchingState.next] at hs
      split at hs <;> cases hs
      exact h.notify.setCaller id (by simp)
    | getResult id =>
      simp only [BatchingState.next] at hs
      split at hs <;> cases hs
      rename_i completion _ hfind
      refine h.setCaller id fun result hr => ?_
      have hid : completion.1 = id := by simpa using List.find?_some hfind
      cases hr
      exact hid ▸ List.mem_of_find?_eq_some hfind
    | worker => exact h.workerStep hs
    | spuriousWake =>
      have hplace := h.place
      simp only [BatchingState.next] at hs
      split at hs <;> cases hs
      · rename_i hw
        exact h.move (hw ▸ rfl) trivial
      · rename_i hw
        rw [hw] at hplace
        exact h.move (hw ▸ rfl) hplace
    | timeout =>
      have hplace := h.place
      simp only [BatchingState.next] at hs
      split at hs <;> cases hs
      rename_i hw
      rw [hw] at hplace
      exact h.move (hw ▸ rfl) hplace
    | delegate outcome =>
      simp only [BatchingState.next] at hs
      split at hs <;> cases hs
      rename_i hw
      exact h.delegate hw outcome
    | requestStop =>
      simp only [BatchingState.next, Option.ite_none_right_eq_some, Option.some.injEq] at hs
      obtain ⟨-, rfl⟩ := hs
      exact h.stop (by decide)
    | notifyAll =>
      simp only [BatchingState.next, Option.ite_none_right_eq_some, Option.some.injEq] at hs
      obtain ⟨-, rfl⟩ := hs
      exact h.notify.stop (by decide)

end Steps

/-! ## Each result once -/

theorem length_batchResults (count : Nat) (outcome : BatchOutcome) :
    (batchResults count outcome).length = count := by
  simp only [batchResults]
  split_ifs with hlength
  · exact List.length_replicate
  · exact not_not.mp hlength

theorem ExecutedBatch.map_fst_due (batch : ExecutedBatch) :
    batch.due.map (·.1) = batch.pending.map (·.id) := by
  refine List.map_fst_zip ?_
  rw [length_batchResults, List.length_map]

theorem batchResults_spec {count : Nat} {outcome : BatchOutcome} {i : Nat}
    {result : ExecutionResult} (hr : (batchResults count outcome)[i]? = some result) :
    (∀ results, outcome = .ok results → results.length = count → results[i]? = some result) ∧
    ((∀ results, outcome = .ok results → results.length ≠ count) →
      ∃ code message, result = .failure code message) := by
  have hfailure : ∀ code message,
      (List.replicate count (ExecutionResult.failure code message))[i]? = some result →
        ∃ code message, result = .failure code message := by
    intro code message h
    have := List.eq_of_mem_replicate (List.mem_of_getElem? h)
    exact ⟨code, message, this⟩
  cases outcome with
  | error what =>
    simp only [batchResults, List.length_replicate, ne_eq, not_true_eq_false, if_false] at hr
    exact ⟨fun results h => (nomatch h), fun _ => hfailure _ _ hr⟩
  | ok results =>
    by_cases hlength : results.length = count
    · simp only [batchResults, hlength, ne_eq, not_true_eq_false, if_false] at hr
      refine ⟨fun _ h _ => ?_, fun h => absurd hlength (h results rfl)⟩
      cases h
      exact hr
    · simp only [batchResults, hlength, ne_eq, not_false_eq_true, if_true] at hr
      refine ⟨fun _ h hl => ?_, fun _ => hfailure _ _ hr⟩
      cases h
      exact absurd hl hlength

variable {pending : PendingExecution}

section Delivery

variable {config : BatchingConfig} {s : BatchingState}

theorem BatchingInvariant.keys (h : BatchingInvariant config s) :
    (s.completions ++ s.worker.owed).map (·.1) =
      (s.batches.flatMap (·.pending) ++ s.abandoned).map (·.id) := by
  rw [h.owed]
  simp [List.map_flatMap, ExecutedBatch.map_fst_due, Function.comp_def]

theorem BatchingInvariant.nodup_keys (h : BatchingInvariant config s) :
    ((s.completions ++ s.worker.owed).map (·.1) ++ s.queue.map (·.id)).Nodup := by
  have hsub : (s.batches.flatMap (·.pending) ++ s.abandoned ++ s.queue).Sublist s.arrivals := by
    rw [← h.order]
    refine .append (.append ?_ (.refl _)) (.refl _)
    exact List.sublist_append_left _ s.worker.inFlight
  rw [h.keys, ← List.map_append]
  exact List.nodup_range.sublist (h.ids ▸ hsub.map _)

theorem BatchingInvariant.value_unique (h : BatchingInvariant config s) {id : Nat}
    {first second : ExecutionResult} (h1 : (id, first) ∈ s.completions ++ s.worker.owed)
    (h2 : (id, second) ∈ s.completions ++ s.worker.owed) : first = second :=
  (Prod.mk.inj (List.inj_on_of_nodup_map h.nodup_keys.of_append_left h1 h2 rfl)).2

theorem BatchingInvariant.not_completed (h : BatchingInvariant config s)
    (hp : pending ∈ s.queue) (result : ExecutionResult) :
    (pending.id, result) ∉ s.completions := by
  intro hmem
  have hkey := List.mem_map_of_mem (f := Prod.fst) (List.mem_append_left s.worker.owed hmem)
  exact (List.disjoint_of_nodup_append h.nodup_keys) hkey (List.mem_map_of_mem hp)

theorem BatchingInvariant.due_of_mem (h : BatchingInvariant config s) {batch : ExecutedBatch}
    (hb : batch ∈ s.batches) {due : Nat × ExecutionResult} (hd : due ∈ batch.due) :
    due ∈ s.completions ++ s.worker.owed := by
  rw [h.owed]
  exact List.mem_append_left _ (List.mem_flatMap.mpr ⟨batch, hb, hd⟩)

theorem BatchingInvariant.due_of_abandoned (h : BatchingInvariant config s)
    (hp : pending ∈ s.abandoned) :
    (pending.id, stoppedFailure) ∈ s.completions ++ s.worker.owed := by
  rw [h.owed]
  exact List.mem_append_right _ (List.mem_map_of_mem hp)

theorem BatchingInvariant.left_stopped (h : BatchingInvariant config s)
    {left : List PendingExecution} (hleft : s.leftQueued = some left)
    (hp : pending ∈ left) :
    (∀ result, (pending.id, result) ∈ s.completions → result = stoppedFailure) ∧
    (s.worker = .finished → (pending.id, stoppedFailure) ∈ s.completions) := by
  have hexit := h.exit
  cases hphase : s.worker.phase with
  | looping =>
    rw [hphase] at hexit
    exact absurd (hexit.1.symm.trans hleft) (by simp)
  | leaving =>
    rw [hphase] at hexit
    obtain ⟨⟨left', hleft', hsub⟩, -⟩ := hexit
    cases hleft.symm.trans hleft'
    refine ⟨fun result hr => absurd hr (h.not_completed (hsub.subset hp) result), fun hw => ?_⟩
    rw [hw] at hphase
    cases hphase
  | left =>
    rw [hphase] at hexit
    obtain ⟨left', hleft', hsub⟩ := hexit
    cases hleft.symm.trans hleft'
    have hdue := h.due_of_abandoned (hsub.subset hp)
    refine ⟨fun result hr => h.value_unique (List.mem_append_left _ hr) hdue, fun hw => ?_⟩
    rw [hw] at hdue
    simpa [WorkerPc.owed] using hdue

/-- What a state shows of the promise that results are delivered once. -/
structure DeliversOnce (config : BatchingConfig) (s : BatchingState) : Prop where
  /-- The promise of a call that returned was fulfilled once. -/
  once : ∀ id result, s.callers[id]? = some (.returned result) →
    (id, result) ∈ s.completions ∧ (s.completions.map (·.1)).count id = 1
  /-- The batches are consecutive runs of the order of the queue. -/
  runs : (s.batches.map (·.pending)).flatten <+: s.arrivals
  sizes : ∀ batch ∈ s.batches, 1 ≤ batch.pending.length ∧
    batch.pending.length ≤ config.maxBatchSize
  notTwice : (s.batches.map (·.pending)).flatten.Nodup
  /-- A call gets the result at its own place, or a failure. -/
  own : ∀ batch ∈ s.batches, ∀ (i : Nat) (pending : PendingExecution) result, batch.pending[i]? = some pending →
    (pending.id, result) ∈ s.completions →
      (∀ results, batch.outcome = .ok results → results.length = batch.pending.length →
        results[i]? = some result) ∧
      ((∀ results, batch.outcome = .ok results → results.length ≠ batch.pending.length) →
        ∃ code message, result = .failure code message)
  served : s.worker.owed = [] → ∀ batch ∈ s.batches, ∀ pending ∈ batch.pending,
    ∃ result, (pending.id, result) ∈ s.completions
  /-- What was queued when the worker left its loop gets the stopped failure. -/
  stopped : ∀ left, s.leftQueued = some left → ∀ pending ∈ left,
    (∀ result, (pending.id, result) ∈ s.completions → result = stoppedFailure) ∧
    (s.worker = .finished → (pending.id, stoppedFailure) ∈ s.completions)

theorem ExecutedBatch.mem_due {batch : ExecutedBatch} {i : Nat}
    (hi : batch.pending[i]? = some pending) :
    ∃ result, (batchResults batch.pending.length batch.outcome)[i]? = some result ∧
      (pending.id, result) ∈ batch.due := by
  obtain ⟨hlt, -⟩ := List.getElem?_eq_some_iff.mp hi
  have hlt' : i < (batchResults batch.pending.length batch.outcome).length := by
    rwa [length_batchResults]
  refine ⟨_, List.getElem?_eq_getElem hlt', ?_⟩
  refine List.mem_of_getElem? (i := i) ?_
  rw [ExecutedBatch.due, List.getElem?_zip_eq_some]
  exact ⟨by rw [List.getElem?_map, hi]; rfl, List.getElem?_eq_getElem hlt'⟩

theorem BatchingInvariant.deliversOnce (h : BatchingInvariant config s) :
    DeliversOnce config s := by
  have hruns : (s.batches.map (·.pending)).flatten <+: s.arrivals := by
    rw [← List.flatMap_def, ← h.order, List.append_assoc, List.append_assoc]
    exact List.prefix_append _ _
  have harrivals : s.arrivals.Nodup := .of_map (·.id) (h.ids ▸ List.nodup_range)
  exact {
    once := by
      intro id result hr
      have hmem := h.returned id result hr
      have hnodup := h.nodup_keys.of_append_left
      rw [List.map_append] at hnodup
      exact ⟨hmem, List.count_eq_one_of_mem hnodup.of_append_left
        (List.mem_map_of_mem (f := Prod.fst) hmem)⟩
    runs := hruns
    sizes := h.sizes
    notTwice := harrivals.sublist hruns.sublist
    own := by
      intro batch hb i pending result hi hr
      obtain ⟨value, hvalue, hdue⟩ := batch.mem_due hi
      have heq := h.value_unique (List.mem_append_left _ hr) (h.due_of_mem hb hdue)
      exact batchResults_spec (heq ▸ hvalue)
    served := by
      intro howed batch hb pending hp
      obtain ⟨i, hi⟩ := List.mem_iff_getElem?.mp hp
      obtain ⟨value, -, hdue⟩ := batch.mem_due hi
      have := h.due_of_mem hb hdue
      rw [howed, List.append_nil] at this
      exact ⟨value, this⟩
    stopped := fun left hleft pending hp => h.left_stopped hleft hp }

end Delivery

/-! ## The worker gets through its deliveries -/

section Progress

variable {config : BatchingConfig}

/-- The worker alone leads from `s` to `t`, and the delegate is not called. -/
def WorkerRun (config : BatchingConfig) (s t : BatchingState) : Prop :=
  (∃ n, (batchingMachine config).Run s (List.replicate n .worker) t) ∧
    t.batches = s.batches ∧ t.leftQueued = s.leftQueued

theorem WorkerRun.refl (s : BatchingState) : WorkerRun config s s := ⟨⟨0, .nil s⟩, rfl, rfl⟩

theorem WorkerRun.cons {s s' t : BatchingState} (hs : s.workerStep config = some s')
    (hb : s'.batches = s.batches) (hl : s'.leftQueued = s.leftQueued) (h : WorkerRun config s' t) :
    WorkerRun config s t := by
  obtain ⟨⟨n, hrun⟩, hbatches, hleft⟩ := h
  exact ⟨⟨n + 1, .cons hs hrun⟩, hbatches.trans hb, hleft.trans hl⟩

theorem run_deliver (rest : List (Nat × ExecutionResult)) {s : BatchingState}
    (hw : s.worker = .deliver rest) :
    ∃ t, WorkerRun config s t ∧ t.worker = .deliver [] := by
  induction rest generalizing s with
  | nil => exact ⟨s, .refl s, hw⟩
  | cons due rest ih =>
    have hs : s.workerStep config =
        some { s with worker := .deliver rest, completions := s.completions ++ [due] } := by
      rw [BatchingState.workerStep, hw]
    obtain ⟨t, hrun, ht⟩ := ih (s := { s with worker := .deliver rest, completions := _ }) rfl
    exact ⟨t, .cons hs rfl rfl hrun, ht⟩

variable (config) in
theorem run_abandon (rest : List PendingExecution) {s : BatchingState}
    (hw : s.worker = .abandon rest) :
    ∃ t, WorkerRun config s t ∧ t.worker = .finished := by
  induction rest generalizing s with
  | nil =>
    have hs : s.workerStep config = some { s with worker := .finished } := by
      rw [BatchingState.workerStep, hw]
    exact ⟨_, .cons hs rfl rfl (.refl _), rfl⟩
  | cons pending rest ih =>
    have hs : s.workerStep config =
        some { s with
          worker := .abandon rest
          completions := s.completions ++ [(pending.id, stoppedFailure)] } := by
      rw [BatchingState.workerStep, hw]
    obtain ⟨t, hrun, ht⟩ := ih (s := { s with worker := .abandon rest, completions := _ }) rfl
    exact ⟨t, .cons hs rfl rfl hrun, ht⟩

theorem run_settles {s : BatchingState} (h : BatchingInvariant config s) :
    ∃ t, WorkerRun config s t ∧ t.worker.owed = [] ∧
      (s.leftQueued ≠ none → t.worker = .finished) := by
  have hexit := h.exit
  cases hw : s.worker with
  | deliver rest =>
    obtain ⟨t, hrun, ht⟩ := run_deliver rest hw
    rw [hw] at hexit
    exact ⟨t, hrun, by rw [ht]; rfl, fun hleft => absurd hexit.1 hleft⟩
  | leave =>
    have hs : s.workerStep config =
        some { s with worker := .abandon s.queue, abandoned := s.queue, queue := [] } := by
      rw [BatchingState.workerStep, hw]
    obtain ⟨t, hrun, ht⟩ := run_abandon config s.queue
      (s := { s with worker := .abandon s.queue, abandoned := s.queue, queue := [] }) rfl
    exact ⟨t, .cons hs rfl rfl hrun, by rw [ht]; rfl, fun _ => ht⟩
  | abandon rest =>
    obtain ⟨t, hrun, ht⟩ := run_abandon config rest hw
    exact ⟨t, hrun, by rw [ht]; rfl, fun _ => ht⟩
  | finished => exact ⟨s, .refl s, by rw [hw]; rfl, fun _ => hw⟩
  | _ =>
    rw [hw] at hexit
    exact ⟨s, .refl s, by rw [hw]; rfl, fun hleft => absurd hexit.1 hleft⟩

end Progress

/-- **Each result is delivered once** in every interleaving, whatever the delegate does. -/
theorem delivers_each_result_once (config : BatchingConfig) {s : BatchingState}
    (hs : (batchingMachine config).Reachable s) :
    DeliversOnce config s ∧
    ∃ t, WorkerRun config s t ∧ DeliversOnce config t ∧ t.worker.owed = [] ∧
      (s.leftQueued ≠ none → t.worker = .finished) := by
  have h := (batchingInvariant config).reachable hs
  obtain ⟨t, hrun, howed, hfinished⟩ := run_settles h
  obtain ⟨n, hsteps⟩ := hrun.1
  have ht := (batchingInvariant config).reachable (hs.run hsteps)
  exact ⟨h.deliversOnce, t, hrun, ht.deliversOnce, howed, hfinished⟩

section Sample

def sampleBatching : BatchingConfig :=
  { maxBatchSize := 2, two_le := by decide, wait_nonneg := by decide }

/-- A batch of two with results, then a stop that fails the third. -/
def batchScript : List BatchingAction :=
  let input : StageInput := { phase := .decode }
  [.push input, .push input, .push input, .notifyOne 0, .worker, .worker, .worker, .worker, .worker,
    .worker, .delegate (.ok [.ok {}, .failure [] []]), .worker, .worker, .getResult 0, .worker,
    .requestStop, .worker, .worker, .worker, .worker, .notifyOne 2, .getResult 2, .notifyAll]

theorem delivers_each_result_once_sample :
    ∃ s, batchScript.foldlM (BatchingState.next sampleBatching) {} = some s ∧
      s.callers = [.returned (.ok {}), .notifying, .returned stoppedFailure] ∧
      DeliversOnce sampleBatching s := by
  refine ⟨_, rfl, rfl, ?_⟩
  have hs : (batchingMachine sampleBatching).Reachable _ :=
    LTS.reachable_of_foldlM (show batchScript.foldlM _ _ = some _ from rfl)
  exact (delivers_each_result_once sampleBatching hs).1

end Sample

end JetsonFabric
