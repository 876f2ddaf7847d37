import JetsonFabric.PipelineParallel.Stopping

/-!
# Calls of a running executor return

A notification reaches the worker only if it is blocked at that moment, and a call notifies after it
has released the mutex. As long as nobody stops the executor, no wake-up is lost by that, and whatever
the threads do, the calls that are there come to their ends.

* **`calls_return`**: the steps come to an end, and then every call has returned.
-/

namespace JetsonFabric

/-- A step of a thread that is there, not a wake-up by chance. -/
def BatchingAction.continues : BatchingAction → Bool
  | .push _ | .spuriousWake | .requestStop | .notifyAll => false
  | _ => true

/-! ## Work that is left -/

/-- A bound of the steps from a place to the untimed wait. -/
def WorkerPc.work : WorkerPc → Nat
  | .blocked woken => if woken then 9 else 0
  | .enterWait => 1
  | .checkFull => 3
  | .timedBlocked woken => if woken then 7 else 4
  | .enterTimedWait => 5
  | .evalFull => 6
  | .checkReady => 7
  | .evalReady => 8
  | .lock => 9
  | .loop => 10
  | .deliver rest => 11 + rest.length
  | .execute pending => 12 + pending.length
  | .leave | .abandon _ | .finished => 0

def Caller.work : Caller → Nat
  | .notifying => 11
  | .waiting => 1
  | .returned _ => 0

/-- A queued input is worth a turn, a notification a look. -/
def BatchingState.work (s : BatchingState) : Nat :=
  s.worker.work + 11 * s.queue.length + (s.callers.map Caller.work).sum

theorem sum_work_set {callers : List Caller} {id : Nat} {caller : Caller}
    (h : callers[id]? = some caller) (caller' : Caller) :
    ((callers.set id caller').map Caller.work).sum + caller.work =
      (callers.map Caller.work).sum + caller'.work := by
  induction callers generalizing id with
  | nil => cases h
  | cons first callers ih =>
    cases id with
    | zero =>
      cases h
      simp only [List.set_cons_zero, List.map_cons, List.sum_cons]
      omega
    | succ id =>
      simp only [List.set_cons_succ, List.map_cons, List.sum_cons]
      have := ih h
      omega

theorem WorkerPc.notify_work (pc : WorkerPc) : pc.notify.work ≤ pc.work + 9 := by
  cases pc with
  | blocked woken => cases woken <;> decide
  | timedBlocked woken => cases woken <;> decide
  | _ => exact Nat.le_add_right _ _

section Running

variable {config : BatchingConfig} {s t : BatchingState}

/-- The worker blocks before a queue only with a notification coming. -/
structure Alert (s : BatchingState) : Prop where
  looping : s.worker.phase = .looping
  awake : s.worker = .blocked false → s.queue ≠ [] → Caller.notifying ∈ s.callers

theorem Alert.move {pc : WorkerPc} (hphase : pc.phase = .looping)
    (hidle : pc = .blocked false → s.queue = []) (hwork : pc.work < s.worker.work) :
    Alert { s with worker := pc } ∧ { s with worker := pc }.work < s.work :=
  ⟨⟨hphase, fun hblocked hqueue => absurd (hidle hblocked) hqueue⟩,
    Nat.add_lt_add_right (Nat.add_lt_add_right hwork _) _⟩

theorem BatchingInvariant.work_take (h : BatchingInvariant config s) (hw : s.worker = .checkFull)
    (hstop : s.stopRequested = false) {count : Nat}
    (hcount : count = min config.maxBatchSize s.queue.length) :
    { s with worker := .execute (s.queue.take count), queue := s.queue.drop count }.work < s.work := by
  have hplace := h.place
  rw [hw] at hplace
  have hne : s.queue ≠ [] := by simpa [BatchingState.Place, hstop] using hplace
  have hpos := List.length_pos_iff.mpr hne
  have htwo := config.two_le
  simp only [BatchingState.work, WorkerPc.work, hw, List.length_take, List.length_drop]
  omega

theorem BatchingInvariant.alert_workerStep (h : BatchingInvariant config s)
    (hstop : s.stopRequested = false) (hlooping : s.worker.phase = .looping)
    (hs : s.workerStep config = some t) : Alert t ∧ t.work < s.work := by
  have hplace := h.place
  cases hw : s.worker with
  | enterWait =>
    simp only [BatchingState.workerStep, hw, Option.some.injEq] at hs
    cases hs
    rw [hw] at hplace
    exact Alert.move rfl (fun _ => hplace) (by rw [hw]; decide)
  | blocked woken | timedBlocked woken =>
    simp only [BatchingState.workerStep, hw, Option.ite_none_right_eq_some, Option.some.injEq] at hs
    obtain ⟨rfl, rfl⟩ := hs
    exact Alert.move rfl (by simp) (by rw [hw]; decide)
  | checkFull =>
    simp only [BatchingState.workerStep, hw, hstop, Bool.false_eq_true, if_false,
      Option.some.injEq] at hs
    cases hs
    exact ⟨⟨rfl, by simp⟩, h.work_take hw hstop rfl⟩
  | execute pending => simp [BatchingState.workerStep, hw] at hs
  | deliver rest =>
    cases rest <;> simp only [BatchingState.workerStep, hw, Option.some.injEq] at hs <;> cases hs
    · exact Alert.move rfl (by simp) (by rw [hw]; decide)
    · exact ⟨⟨rfl, by simp⟩, by simp [BatchingState.work, WorkerPc.work, hw]⟩
  | leave | abandon _ | finished => simp [WorkerPc.phase, hw] at hlooping
  | evalReady | evalFull =>
    simp only [BatchingState.workerStep, hw, Option.some.injEq] at hs
    cases hs
    split <;> exact Alert.move rfl (by simp) (by rw [hw]; decide)
  | _ =>
    simp only [BatchingState.workerStep, hw, hstop, Bool.false_eq_true, if_false,
      Option.some.injEq] at hs
    cases hs
    exact Alert.move rfl (by simp) (by rw [hw]; decide)

theorem Alert.notify (h : Alert s) {callers : List Caller} :
    Alert { s with worker := s.worker.notify, callers } := by
  obtain ⟨hlooping, -⟩ := h
  constructor
  · revert hlooping
    cases s.worker <;> exact id
  · cases s.worker <;> simp [WorkerPc.notify]

theorem Alert.getResult (h : Alert s) {id : Nat} (hcaller : s.callers[id]? = some .waiting)
    (result : ExecutionResult) : Alert { s with callers := s.callers.set id (.returned result) } := by
  refine ⟨h.looping, fun hblocked hqueue => ?_⟩
  obtain ⟨i, hi⟩ := List.mem_iff_getElem?.mp (h.awake hblocked hqueue)
  have hne : id ≠ i := by
    rintro rfl
    cases hcaller.symm.trans hi
  exact List.mem_iff_getElem?.mpr ⟨i, by rw [List.getElem?_set_ne hne, hi]⟩

theorem next_stopping {a : BatchingAction} (hs : s.next config a = some t) :
    t.stopping = s.stopping ∨ t.stopping ≠ .running ∧ a.continues = false := by
  unfold BatchingState.next BatchingState.workerStep at hs
  grind [BatchingAction.continues, BatchingState.push]

/-- **One step** loses no wake-up and leaves less to do. -/
theorem Alert.next (halert : Alert s) (h : BatchingInvariant config s)
    (hrunning : s.stopping = .running) {a : BatchingAction} (hs : s.next config a = some t)
    (hafter : t.stopping = .running) : Alert t ∧ (a.continues = true → t.work < s.work) := by
  cases a with
  | push input =>
    simp only [BatchingState.next, Option.ite_none_right_eq_some, Option.some.injEq] at hs
    obtain ⟨-, rfl⟩ := hs
    exact ⟨⟨halert.looping, fun _ _ => List.mem_append_right _ List.mem_cons_self⟩, by
      simp [BatchingAction.continues]⟩
  | notifyOne id =>
    simp only [BatchingState.next] at hs
    split at hs <;> cases hs
    rename_i hcaller
    have hsum := sum_work_set hcaller .waiting
    have hnotify := s.worker.notify_work
    refine ⟨halert.notify, fun _ => ?_⟩
    simp only [BatchingState.work, Caller.work] at hsum ⊢
    omega
  | getResult id =>
    simp only [BatchingState.next] at hs
    split at hs <;> cases hs
    rename_i completion hcaller _
    have hsum := sum_work_set hcaller (.returned completion.2)
    refine ⟨halert.getResult hcaller _, fun _ => ?_⟩
    simp only [BatchingState.work, Caller.work] at hsum ⊢
    omega
  | worker =>
    have hstop : s.stopRequested = false := by simp [BatchingState.stopRequested, hrunning]
    obtain ⟨halert', hwork⟩ := h.alert_workerStep hstop halert.looping hs
    exact ⟨halert', fun _ => hwork⟩
  | spuriousWake =>
    simp only [BatchingState.next] at hs
    split at hs <;> cases hs <;> exact ⟨⟨rfl, by simp⟩, by simp [BatchingAction.continues]⟩
  | timeout =>
    simp only [BatchingState.next] at hs
    split at hs <;> cases hs
    rename_i woken hw
    have hwork : WorkerPc.checkFull.work < s.worker.work := by
      rw [hw]
      cases woken <;> decide
    obtain ⟨halert', hwork⟩ := Alert.move rfl (by simp) hwork
    exact ⟨halert', fun _ => hwork⟩
  | delegate outcome =>
    simp only [BatchingState.next] at hs
    split at hs <;> cases hs
    rename_i pending hw
    refine ⟨⟨rfl, by simp⟩, fun _ => ?_⟩
    simp only [BatchingState.work, WorkerPc.work, hw, ExecutedBatch.due, List.length_zip,
      List.length_map]
    omega
  | requestStop | notifyAll =>
    simp only [BatchingState.next, Option.ite_none_right_eq_some, Option.some.injEq] at hs
    obtain ⟨-, rfl⟩ := hs
    cases hafter

variable (config) in
theorem alertInvariant : (batchingMachine config).Inductive fun s =>
    BatchingInvariant config s ∧ (s.stopping = .running → Alert s) where
  init s hs := by
    refine ⟨(batchingInvariant config).init s hs, fun _ => ?_⟩
    cases hs
    exact ⟨rfl, by simp⟩
  step s a t h hs := by
    refine ⟨(batchingInvariant config).step s a t h.1 hs, fun hafter => ?_⟩
    rcases next_stopping hs with hsame | ⟨hstopped, -⟩
    · have hrunning := hsame.symm.trans hafter
      exact ((h.2 hrunning).next h.1 hrunning hs hafter).1
    · exact absurd hafter hstopped

theorem run_work {as : List BatchingAction}
    (h : BatchingInvariant config s ∧ (s.stopping = .running → Alert s))
    (hrunning : s.stopping = .running) (hrun : (batchingMachine config).Run s as t)
    (hcontinues : ∀ a ∈ as, a.continues = true) :
    as.length + t.work ≤ s.work ∧ t.stopping = .running := by
  induction hrun with
  | nil => exact ⟨by simp, hrunning⟩
  | cons hs _ ih =>
    rw [List.forall_mem_cons] at hcontinues
    have hafter := ((next_stopping hs).resolve_right fun hstopped => by
      simp [hcontinues.1] at hstopped).trans hrunning
    have hwork := ((h.2 hrunning).next h.1 hrunning hs hafter).2 hcontinues.1
    obtain ⟨hlength, hend⟩ := ih ((alertInvariant config).step _ _ _ h hs) hafter hcontinues.2
    exact ⟨by rw [List.length_cons]; omega, hend⟩

/-- Where no thread can go on, every call has returned. -/
theorem BatchingInvariant.returned_of_quiet (h : BatchingInvariant config s) (halert : Alert s)
    (hquiet : ∀ a, a.continues = true → s.next config a = none) :
    ∀ caller ∈ s.callers, ∃ result, caller = .returned result := by
  have hworker := hquiet .worker rfl
  have hlooping := halert.looping
  have hblocked : s.worker = .blocked false := by
    cases hw : s.worker with
    | blocked woken =>
      cases woken with
      | false => rfl
      | true => simp [BatchingState.next, BatchingState.workerStep, hw] at hworker
    | timedBlocked woken => simpa [BatchingState.next, hw] using hquiet .timeout rfl
    | execute pending => simpa [BatchingState.next, hw] using hquiet (.delegate (.ok [])) rfl
    | deliver rest =>
      cases rest <;> simp [BatchingState.next, BatchingState.workerStep, hw] at hworker
    | leave | abandon _ | finished => simp [WorkerPc.phase, hw] at hlooping
    | _ => simp [BatchingState.next, BatchingState.workerStep, hw] at hworker
  intro caller hmem
  obtain ⟨id, hid, rfl⟩ := List.mem_iff_getElem.mp hmem
  have hnotifying : Caller.notifying ∉ s.callers := by
    intro hmem
    obtain ⟨i, hi⟩ := List.mem_iff_getElem?.mp hmem
    simpa [BatchingState.next, hi] using hquiet (.notifyOne i) rfl
  have hqueue : s.queue = [] := not_not.mp fun hqueue => hnotifying (halert.awake hblocked hqueue)
  -- the worker looked at this queue just before it blocked, so all of it has been served
  have hwait : BatchingInvariant config { s with worker := .enterWait } :=
    h.move (by rw [hblocked]; rfl) hqueue
  have hserved : ∃ result, (id, result) ∈ s.completions := hwait.served_all rfl id hid
  cases hcaller : s.callers[id] with
  | notifying => exact absurd (hcaller ▸ hmem) hnotifying
  | returned result => exact ⟨result, rfl⟩
  | waiting =>
    obtain ⟨result, hresult⟩ := hserved
    obtain ⟨completion, hfind⟩ : ∃ completion, s.completions.find? (·.1 == id) = some completion := by
      rw [← Option.isSome_iff_exists, List.find?_isSome]
      exact ⟨(id, result), hresult, by simp⟩
    simpa [BatchingState.next, List.getElem?_eq_getElem hid, hcaller, hfind] using
      hquiet (.getResult id) rfl

end Running

/-- **Calls return** in a bounded number of steps, unless the executor is stopped. -/
theorem calls_return (config : BatchingConfig) {s t : BatchingState} {as : List BatchingAction}
    (hs : (batchingMachine config).Reachable s) (hrunning : s.stopping = .running)
    (hrun : (batchingMachine config).Run s as t) (hcontinues : ∀ a ∈ as, a.continues = true) :
    as.length ≤ s.work ∧
    ((∀ a, a.continues = true → t.next config a = none) →
      ∀ caller ∈ t.callers, ∃ result, caller = .returned result) := by
  obtain ⟨hlength, hend⟩ :=
    run_work ((alertInvariant config).reachable hs) hrunning hrun hcontinues
  obtain ⟨hinv, halert⟩ := (alertInvariant config).reachable (hs.run hrun)
  exact ⟨by omega, hinv.returned_of_quiet (halert hend)⟩

/-- The worker is blocked, and a call has queued its input. -/
def blockedCall : BatchingState :=
  BatchingState.push { worker := .blocked false } { phase := .decode }

/-- The worker takes the batch after the timed wait. -/
def returnScript : List BatchingAction :=
  [.notifyOne 0, .worker, .worker, .worker, .worker, .worker, .timeout, .worker,
    .delegate (.ok [.ok {}]), .worker, .worker, .getResult 0, .worker, .worker, .worker, .worker]

theorem calls_return_sample :
    ∃ s t, (batchingMachine sampleBatching).Run s returnScript t ∧ returnScript.length ≤ s.work ∧
      ∀ caller ∈ t.callers, ∃ result, caller = .returned result := by
  have hs : (batchingMachine sampleBatching).Reachable blockedCall :=
    LTS.reachable_of_foldlM (show [BatchingAction.worker, .worker, .worker, .worker,
      .push { phase := .decode }].foldlM _ _ = some _ from rfl)
  have hrun : (batchingMachine sampleBatching).Run blockedCall returnScript _ :=
    LTS.run_of_foldlM (show returnScript.foldlM _ blockedCall = some _ from rfl)
  obtain ⟨hlength, hreturned⟩ := calls_return sampleBatching hs rfl hrun (by decide)
  refine ⟨_, _, hrun, hlength, hreturned fun a ha => ?_⟩
  cases a with
  | notifyOne id | getResult id => rcases id with _ | id <;> rfl
  | worker | timeout | delegate => rfl
  | push | spuriousWake | requestStop | notifyAll => cases ha

end JetsonFabric
