import JetsonFabric.PipelineParallel.Delivery

/-!
# Stopping the batching worker

The destructor requests a stop and notifies, both without the mutex, and then joins the worker.

* **`stuck_after_notify_iff`**: when the destructor leaves the worker blocked.
-/

namespace JetsonFabric

/-- The destructor is through, and the worker waits for good. -/
structure Stuck (s : BatchingState) : Prop where
  notified : s.stopping = .notified
  idle : ∀ caller ∈ s.callers, ∃ result, caller = .returned result
  blocked : s.worker = .blocked false

section Stopping

variable {config : BatchingConfig}

theorem Stuck.next {s t : BatchingState} (h : Stuck s) {a : BatchingAction}
    (hs : s.next config a = some t) : a = .spuriousWake ∨ ∃ input, a = .push input := by
  cases a with
  | push input => exact .inr ⟨input, rfl⟩
  | spuriousWake => exact .inl rfl
  | notifyOne id =>
    simp only [BatchingState.next] at hs
    split at hs
    · rename_i hcaller
      obtain ⟨result, hresult⟩ := h.idle _ (List.mem_of_getElem? hcaller)
      cases hresult
    · cases hs
  | getResult id =>
    simp only [BatchingState.next] at hs
    split at hs
    · rename_i hcaller _
      obtain ⟨result, hresult⟩ := h.idle _ (List.mem_of_getElem? hcaller)
      cases hresult
    · cases hs
  | worker => simp [BatchingState.next, BatchingState.workerStep, h.blocked] at hs
  | timeout => simp [BatchingState.next, h.blocked] at hs
  | delegate outcome => simp [BatchingState.next, h.blocked] at hs
  | requestStop => simp [BatchingState.next, h.notified] at hs
  | notifyAll => simp [BatchingState.next, h.notified] at hs

/-- The notification of the destructor was in time. -/
structure Warned (s : BatchingState) : Prop where
  notified : s.stopping = .notified
  awake : s.worker ≠ .enterWait ∧ s.worker ≠ .blocked false

theorem Warned.move {s : BatchingState} (h : Warned s) {pc : WorkerPc}
    (hpc : pc ≠ .enterWait ∧ pc ≠ .blocked false) : Warned { s with worker := pc } :=
  ⟨h.notified, hpc⟩

theorem WorkerPc.notify_awake {pc : WorkerPc} (h : pc ≠ .enterWait) :
    pc.notify ≠ .enterWait ∧ pc.notify ≠ .blocked false := by
  cases pc <;> simp_all [WorkerPc.notify]

theorem Warned.workerStep {s t : BatchingState} (h : Warned s)
    (hs : s.workerStep config = some t) : Warned t := by
  have hstop : s.stopRequested = true := by simp [BatchingState.stopRequested, h.notified]
  cases hw : s.worker with
  | enterWait => exact absurd hw h.awake.1
  | deliver rest =>
    cases rest <;> simp only [BatchingState.workerStep, hw, Option.some.injEq] at hs <;> cases hs <;>
      exact ⟨h.notified, by simp⟩
  | abandon rest =>
    cases rest <;> simp only [BatchingState.workerStep, hw, Option.some.injEq] at hs <;> cases hs <;>
      exact ⟨h.notified, by simp⟩
  | blocked woken =>
    simp only [BatchingState.workerStep, hw, Option.ite_none_right_eq_some, Option.some.injEq] at hs
    obtain ⟨-, rfl⟩ := hs
    exact h.move (by simp)
  | timedBlocked woken =>
    simp only [BatchingState.workerStep, hw, Option.ite_none_right_eq_some, Option.some.injEq] at hs
    obtain ⟨-, rfl⟩ := hs
    exact h.move (by simp)
  | execute pending => simp [BatchingState.workerStep, hw] at hs
  | finished => simp [BatchingState.workerStep, hw] at hs
  | _ =>
    simp only [BatchingState.workerStep, hw, hstop, if_true, true_or, Option.some.injEq] at hs
    cases hs
    exact ⟨h.notified, by simp⟩

theorem Warned.step (s : BatchingState) (a : BatchingAction) (t : BatchingState) (h : Warned s)
    (hs : (batchingMachine config).step s a t) : Warned t := by
  change s.next config a = some t at hs
  cases a with
  | push input =>
    simp only [BatchingState.next, Option.ite_none_right_eq_some, Option.some.injEq] at hs
    obtain ⟨-, rfl⟩ := hs
    exact ⟨h.notified, h.awake⟩
  | notifyOne id =>
    simp only [BatchingState.next] at hs
    split at hs <;> cases hs
    exact ⟨h.notified, WorkerPc.notify_awake h.awake.1⟩
  | getResult id =>
    simp only [BatchingState.next] at hs
    split at hs <;> cases hs
    exact ⟨h.notified, h.awake⟩
  | worker => exact h.workerStep hs
  | spuriousWake =>
    simp only [BatchingState.next] at hs
    split at hs <;> cases hs <;> exact h.move (by simp)
  | timeout =>
    simp only [BatchingState.next] at hs
    split at hs <;> cases hs
    exact h.move (by simp)
  | delegate outcome =>
    simp only [BatchingState.next] at hs
    split at hs <;> cases hs
    exact ⟨h.notified, by simp⟩
  | requestStop => simp [BatchingState.next, h.notified] at hs
  | notifyAll => simp [BatchingState.next, h.notified] at hs

variable (config) in
/-- A call whose promise is fulfilled returns. -/
theorem run_caller {s : BatchingState} (hw : s.worker = .enterWait) {id : Nat}
    (hid : id < s.callers.length) (hc : ∃ result, (id, result) ∈ s.completions) :
    ∃ as result, (batchingMachine config).Run s as
      { s with callers := s.callers.set id (.returned result) } := by
  obtain ⟨result, hc⟩ := hc
  obtain ⟨completion, hfind⟩ : ∃ completion, s.completions.find? (·.1 == id) = some completion := by
    rw [← Option.isSome_iff_exists, List.find?_isSome]
    exact ⟨(id, result), hc, by simp⟩
  have hget : ∀ callers : List Caller, callers[id]? = some .waiting →
      { s with callers }.next config (.getResult id) =
        some { s with callers := callers.set id (.returned completion.2) } := by
    intro callers hcaller
    simp only [BatchingState.next, hcaller, hfind]
  cases hcaller : s.callers[id] with
  | notifying =>
    have hn : s.next config (.notifyOne id) =
        some { s with callers := s.callers.set id .waiting } := by
      simp [BatchingState.next, List.getElem?_eq_getElem hid, hcaller, hw, WorkerPc.notify]
    have hg := hget (s.callers.set id .waiting) (by simp [hid])
    rw [List.set_set] at hg
    exact ⟨_, _, .cons hn (.cons hg (.nil _))⟩
  | waiting =>
    have hg := hget s.callers (by rw [List.getElem?_eq_getElem hid, hcaller])
    exact ⟨_, _, .cons hg (.nil _)⟩
  | returned value =>
    refine ⟨[], value, ?_⟩
    rw [← hcaller, List.set_getElem_self]
    exact .nil s

variable (config) in
theorem run_callers {s : BatchingState} (hw : s.worker = .enterWait)
    (hc : ∀ id < s.callers.length, ∃ result, (id, result) ∈ s.completions) (n : Nat)
    (hn : n ≤ s.callers.length) :
    ∃ as callers, (batchingMachine config).Run s as { s with callers } ∧
      callers.length = s.callers.length ∧
      ∀ caller ∈ callers.take n, ∃ result, caller = .returned result := by
  induction n with
  | zero => exact ⟨[], s.callers, .nil s, rfl, by simp⟩
  | succ n ih =>
    obtain ⟨as, callers, hrun, hlength, hreturned⟩ := ih (by omega)
    have hlt : n < callers.length := by omega
    obtain ⟨bs, result, hstep⟩ := run_caller config (s := { s with callers }) hw hlt
      (hc n (by omega))
    refine ⟨as ++ bs, callers.set n (.returned result), hrun.append hstep, by simpa using hlength, ?_⟩
    intro caller hcaller
    rw [List.take_succ_eq_append_getElem (by simpa using hlt), List.take_set_of_le (le_refl n),
      List.getElem_set_self] at hcaller
    rcases List.mem_append.mp hcaller with hcaller | hcaller
    · exact hreturned caller hcaller
    · exact ⟨result, List.mem_singleton.mp hcaller⟩

/-- Before the untimed wait everything that was queued has been served. -/
theorem BatchingInvariant.served_all {s : BatchingState} (h : BatchingInvariant config s)
    (hw : s.worker = .enterWait) (id : Nat) (hid : id < s.callers.length) :
    ∃ result, (id, result) ∈ s.completions := by
  have horder := h.order
  have hexit := h.exit
  have hplace := h.place
  have howed : s.worker.owed = [] := by rw [hw]; rfl
  rw [hw] at horder hexit hplace
  have hqueue : s.queue = [] := hplace
  have harrivals : s.batches.flatMap (·.pending) = s.arrivals := by
    simpa [WorkerPc.inFlight, hexit.2, hqueue] using horder
  have hmem : id ∈ s.arrivals.map (·.id) := by
    rw [h.ids]
    exact List.mem_range.mpr hid
  obtain ⟨pending, hpending, rfl⟩ := List.mem_map.mp hmem
  rw [← harrivals] at hpending
  obtain ⟨batch, hb, hp⟩ := List.mem_flatMap.mp hpending
  exact h.deliversOnce.served howed batch hb pending hp

end Stopping

/-- **A stop leaves the worker blocked exactly if it falls between its check and its wait.** -/
theorem stuck_after_notify_iff (config : BatchingConfig) {s t : BatchingState}
    (hs : (batchingMachine config).Reachable s) (hn : (batchingMachine config).step s .notifyAll t) :
    (∃ as u, (batchingMachine config).Run t as u ∧ Stuck u) ↔ s.worker = .enterWait := by
  have hstep := hn
  change s.next config .notifyAll = some t at hstep
  simp only [BatchingState.next, Option.ite_none_right_eq_some, Option.some.injEq] at hstep
  obtain ⟨-, ht⟩ := hstep
  constructor
  · rintro ⟨as, u, hrun, hstuck⟩
    by_contra hw
    have hwarned : Warned t := by
      rw [← ht]
      exact ⟨rfl, WorkerPc.notify_awake hw⟩
    exact (hrun.keeps Warned.step hwarned).awake.2 hstuck.blocked
  · intro hw
    have htw : t.worker = .enterWait := by
      rw [← ht, hw]
      rfl
    have hinv := (batchingInvariant config).reachable (hs.step hn)
    obtain ⟨as, callers, hrun, hlength, hreturned⟩ := run_callers config htw
      (hinv.served_all htw) t.callers.length le_rfl
    rw [← hlength, List.take_length] at hreturned
    have hblock : (batchingMachine config).step { t with callers } .worker
        { t with callers, worker := .blocked false } := by
      show BatchingState.workerStep config _ = _
      simp only [BatchingState.workerStep, htw]
    refine ⟨as ++ [.worker], _, hrun.append (.cons hblock (.nil _)), ?_⟩
    exact { notified := by rw [← ht], idle := hreturned, blocked := rfl }

/-- The predicate is false, and the destructor is to notify. -/
def stopScript : List BatchingAction := [.worker, .worker, .worker, .requestStop]

theorem stuck_after_notify_sample :
    ∃ s t, (batchingMachine sampleBatching).Reachable s ∧
      (batchingMachine sampleBatching).step s .notifyAll t ∧
      ∃ as u, (batchingMachine sampleBatching).Run t as u ∧ Stuck u := by
  have hs : (batchingMachine sampleBatching).Reachable _ :=
    LTS.reachable_of_foldlM (show stopScript.foldlM _ _ = some _ from rfl)
  exact ⟨_, _, hs, rfl, (stuck_after_notify_iff sampleBatching hs rfl).mpr rfl⟩

/-- A stop between the predicate and the wait blocks the worker. -/
theorem stop_leaves_worker_stuck :
    ∃ s, (batchingMachine sampleBatching).Reachable s ∧ Stuck s ∧
      ∀ a t, s.next sampleBatching a = some t → a = .spuriousWake ∨ ∃ input, a = .push input := by
  let stuck : BatchingState := { worker := .blocked false, stopping := .notified }
  have hs : (batchingMachine sampleBatching).Reachable stuck :=
    LTS.reachable_of_foldlM
      (show (stopScript ++ [BatchingAction.notifyAll, BatchingAction.worker]).foldlM _ _ = some _
        from rfl)
  have hstuck : Stuck stuck := ⟨rfl, fun caller h => (List.not_mem_nil h).elim, rfl⟩
  exact ⟨stuck, hs, hstuck, fun a t h => hstuck.next h⟩

end JetsonFabric
