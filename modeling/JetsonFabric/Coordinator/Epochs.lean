import JetsonFabric.Coordinator.World

/-!
# Epochs and sessions

`EpochInv` is what the coordinator keeps about its epochs and its counts of sessions, whatever the
runtimes do: epochs only grow, a plan is never active and draining at once, and `inFlight` counts
the admissions that are not yet released.
-/

namespace JetsonFabric

open Std

variable {Out : Outside}

/-- The admissions of an epoch that are not released. -/
def World.unreleased (w : World Out) (epoch : UInt64) : Nat :=
  w.admissions.countP fun a => a.epoch = epoch ∧ a.released = false

/-- The epochs of the plans are in order. -/
structure PlanOrder (s : DeploymentState) : Prop where
  keyed : ∀ (e : UInt64) (p : DeploymentPlan), s.draining[e]? = some p → p.epoch = e
  draining_le : ∀ e ∈ s.draining, e ≤ s.lastEpoch
  active_le : ∀ p, s.active = some p → p.epoch ≤ s.lastEpoch
  active_draining : ∀ p, s.active = some p → p.epoch ∉ s.draining
  preparing_eq : ∀ p, s.preparing = some p → p.epoch = s.lastEpoch
  preparing_draining : ∀ p, s.preparing = some p → p.epoch ∉ s.draining
  preparing_active : ∀ p q, s.preparing = some p → s.active = some q → q.epoch < p.epoch

/-- The epochs are in order, and the counts are exact. -/
structure EpochInv (w : World Out) : Prop where
  plans : PlanOrder w.state
  counted : ∀ e, w.state.inFlightAt e = w.unreleased e
  sorted : (w.admissions.map Admission.epoch).Pairwise (· ≤ ·)
  bounded : ∀ a ∈ w.admissions, a.epoch ≤ w.state.activeEpoch

theorem DeploymentPlan.epoch_ne_zero (plan : DeploymentPlan) : plan.epoch ≠ 0 := by
  have h := plan.valid
  unfold validateDeploymentPlan at h
  split at h
  · cases h
  split at h
  · cases h
  · assumption

variable {plan : DeploymentPlan}

theorem DeploymentPlan.lt_epoch {last : UInt64}
    (h : plan.epoch = last + 1) : last < plan.epoch := by
  have := plan.epoch_ne_zero
  grind

/-! ## Plans -/

namespace PlanOrder

variable {s t : DeploymentState}

theorem of_eq (h : PlanOrder s) (ha : t.active = s.active) (hp : t.preparing = s.preparing)
    (hd : t.draining = s.draining) (hl : t.lastEpoch = s.lastEpoch) : PlanOrder t := by
  constructor
  · rw [hd]
    exact h.keyed
  · rw [hd, hl]
    exact h.draining_le
  · rw [ha, hl]
    exact h.active_le
  · rw [ha, hd]
    exact h.active_draining
  · rw [hp, hl]
    exact h.preparing_eq
  · rw [hp, hd]
    exact h.preparing_draining
  · rw [hp, ha]
    exact h.preparing_active

theorem beginTransition (h : PlanOrder s) (next : DeploymentPlan) :
    PlanOrder (s.beginTransition next).2 := by
  rcases s.beginTransition_cases next with ⟨-, he, hs⟩ | ⟨e, hs⟩
  · have hlt := DeploymentPlan.lt_epoch he
    rw [hs]
    constructor
    · exact h.keyed
    · intro e hd
      exact UInt64.le_trans (h.draining_le e hd) (UInt64.le_of_lt hlt)
    · intro p ha
      exact UInt64.le_trans (h.active_le p ha) (UInt64.le_of_lt hlt)
    · exact h.active_draining
    · rintro p ⟨⟩
      rfl
    · rintro p ⟨⟩ hd
      exact absurd (h.draining_le _ hd) (UInt64.not_le.mpr hlt)
    · rintro p q ⟨⟩ ha
      exact UInt64.lt_of_le_of_lt (h.active_le q ha) hlt
  · rw [hs]
    exact h

theorem publish (h : PlanOrder s) (intent : DeploymentIntent)
    (hp : s.preparing = some plan) : PlanOrder (s.publish plan intent).2 := by
  have hnone : ∀ p : DeploymentPlan, (none : Option DeploymentPlan) = some p → False := by
    rintro p ⟨⟩
  have heq := h.preparing_eq plan hp
  have hnot := h.preparing_draining plan hp
  cases ha : s.active with
  | none =>
    simp only [DeploymentState.publish, ha]
    refine ⟨h.keyed, h.draining_le, ?_, ?_, ?_, ?_, ?_⟩
    · rintro p ⟨⟩
      exact UInt64.le_of_eq heq
    · rintro p ⟨⟩
      exact hnot
    · exact fun p hp => (hnone p hp).elim
    · exact fun p hp => (hnone p hp).elim
    · exact fun p _ hp => (hnone p hp).elim
  | some previous =>
    have hlt := h.preparing_active plan previous hp ha
    simp only [DeploymentState.publish, ha]
    refine ⟨?_, ?_, ?_, ?_, ?_, ?_, ?_⟩
    · intro e p hd
      rw [ExtTreeMap.getElem?_insert] at hd
      split at hd
      · next he =>
        cases hd
        simpa using he
      · exact h.keyed e p hd
    · intro e hd
      rw [ExtTreeMap.mem_insert] at hd
      rcases hd with he | hd
      · have he : previous.epoch = e := by simpa using he
        exact he ▸ h.active_le previous ha
      · exact h.draining_le e hd
    · rintro p ⟨⟩
      exact UInt64.le_of_eq heq
    · rintro p ⟨⟩ hd
      rw [ExtTreeMap.mem_insert] at hd
      rcases hd with he | hd
      · have he : previous.epoch = plan.epoch := by simpa using he
        exact UInt64.ne_of_lt hlt he
      · exact hnot hd
    · exact fun p hp => (hnone p hp).elim
    · exact fun p hp => (hnone p hp).elim
    · exact fun p _ hp => (hnone p hp).elim

theorem rollback (h : PlanOrder s) (err : Err) (healthy pending : Bool)
    (hp : s.preparing = some plan) : PlanOrder (s.rollback plan err healthy pending) := by
  obtain ⟨phase, lastError, hs⟩ := DeploymentState.rollback_eq (s := s) plan err healthy pending
  have hnone : ∀ p : DeploymentPlan, (none : Option DeploymentPlan) = some p → False := by
    rintro p ⟨⟩
  rw [hs]
  cases pending with
  | false =>
    exact ⟨h.keyed, h.draining_le, h.active_le, h.active_draining,
      fun p hp => (hnone p hp).elim, fun p hp => (hnone p hp).elim,
      fun p _ hp => (hnone p hp).elim⟩
  | true =>
    refine ⟨?_, ?_, h.active_le, ?_, fun p hp => (hnone p hp).elim,
      fun p hp => (hnone p hp).elim, fun p _ hp => (hnone p hp).elim⟩
    · intro e p hd
      rw [if_pos rfl, ExtTreeMap.getElem?_insert] at hd
      split at hd
      · next he =>
        cases hd
        simpa using he
      · exact h.keyed e p hd
    · intro e hd
      rw [if_pos rfl, ExtTreeMap.mem_insert] at hd
      rcases hd with he | hd
      · have he : plan.epoch = e := by simpa using he
        exact he ▸ UInt64.le_of_eq (h.preparing_eq plan hp)
      · exact h.draining_le e hd
    · intro q ha hd
      rw [if_pos rfl, ExtTreeMap.mem_insert] at hd
      rcases hd with he | hd
      · have he : plan.epoch = q.epoch := by simpa using he
        exact UInt64.ne_of_lt (h.preparing_active plan q hp ha) he.symm
      · exact h.active_draining q ha hd

theorem finishDraining (h : PlanOrder s) (epoch : UInt64) :
    PlanOrder (s.finishDraining epoch) := by
  obtain ⟨inFlight, phase, lastError, hs⟩ := DeploymentState.finishDraining_eq (s := s) epoch
  have hsub : ∀ e, e ∈ s.draining.erase epoch → e ∈ s.draining := fun e he =>
    (ExtTreeMap.mem_erase.mp he).2
  rw [hs]
  refine ⟨?_, ?_, h.active_le, ?_, h.preparing_eq, ?_, h.preparing_active⟩
  · intro e p hd
    rw [ExtTreeMap.getElem?_erase] at hd
    split at hd
    · cases hd
    · exact h.keyed e p hd
  · exact fun e hd => h.draining_le e (hsub e hd)
  · exact fun p ha hd => h.active_draining p ha (hsub _ hd)
  · exact fun p hp hd => h.preparing_draining p hp (hsub _ hd)

theorem map_epoch_draining (h : PlanOrder s) :
    (s.draining.toList.map Prod.snd).map DeploymentPlan.epoch = s.draining.keys := by
  rw [← ExtTreeMap.map_fst_toList_eq_keys, List.map_map]
  apply List.map_congr_left
  rintro ⟨e, p⟩ hm
  exact h.keyed e p (ExtTreeMap.mem_toList_iff_getElem?_eq_some.mp hm)

theorem perm_snapshot_draining (h : PlanOrder s) :
    (s.snapshot.draining.map DeploymentPlan.epoch).Perm s.draining.keys := by
  rw [← h.map_epoch_draining]
  exact (List.perm_insertionSort _ _).map _

/-- A plan in preparation is newer than the active one. -/
theorem activeEpoch_lt (h : PlanOrder s)
    (hp : s.preparing = some plan) : s.activeEpoch < plan.epoch := by
  unfold DeploymentState.activeEpoch
  cases ha : s.active with
  | none => exact UInt64.pos_iff_ne_zero.mpr plan.epoch_ne_zero
  | some active => exact h.preparing_active plan active hp ha

end PlanOrder

/-! ## Sessions -/

theorem countP_set_released {admissions : List Admission} {i : Nat} {a : Admission}
    (ha : admissions[i]? = some a) (hr : a.released = false) (e : UInt64) :
    (admissions.set i { a with released := true }).countP
        (fun a => a.epoch = e ∧ a.released = false) =
      if e = a.epoch then
        admissions.countP (fun a => a.epoch = e ∧ a.released = false) - 1
      else admissions.countP fun a => a.epoch = e ∧ a.released = false := by
  obtain ⟨hi, rfl⟩ := List.getElem?_eq_some_iff.mp ha
  rw [List.countP_set hi]
  by_cases he : e = admissions[i].epoch
  · simp [he, hr]
  · have he' : admissions[i].epoch ≠ e := fun x => he x.symm
    simp [he, he']

theorem map_epoch_set_released {admissions : List Admission} {i : Nat} {a : Admission}
    (ha : admissions[i]? = some a) :
    (admissions.set i { a with released := true }).map Admission.epoch =
      admissions.map Admission.epoch := by
  obtain ⟨hi, rfl⟩ := List.getElem?_eq_some_iff.mp ha
  rw [List.map_set]
  apply List.ext_getElem
  · simp
  · intro j h₁ h₂
    by_cases hj : i = j
    · subst hj
      simp
    · simp [hj]

namespace EpochInv

variable {w w' : World Out}

theorem init (h : w.Init) : EpochInv w := by
  obtain ⟨hs, ha, -⟩ := h
  refine ⟨?_, ?_, ?_, ?_⟩
  · rw [hs]
    constructor <;> simp
  · intro e
    rw [hs, World.unreleased, ha]
    rfl
  · rw [ha]
    exact .nil
  · rw [ha]
    intro a h
    cases h

theorem admitSession (h : EpochInv w) (modelId : Bytes) : EpochInv (w.admitSession modelId).2 := by
  unfold World.admitSession
  cases ha : w.state.admitSession modelId with
  | error e => exact h
  | ok q =>
    obtain ⟨admission, state⟩ := q
    obtain ⟨-, -, rfl, rfl⟩ := DeploymentState.admitSession_eq_ok ha
    refine ⟨h.plans.of_eq rfl rfl rfl rfl, ?_, ?_, ?_⟩
    · intro e
      have hcount := h.counted e
      rw [DeploymentState.inFlightAt_insert (s := w.state) _ e _ _ rfl]
      simp only [World.unreleased, List.countP_append, List.countP_singleton] at hcount ⊢
      by_cases he : e = w.state.activeEpoch
      · subst he
        rw [if_pos rfl, hcount]
        simp
      · have he' : w.state.activeEpoch ≠ e := fun x => he x.symm
        rw [if_neg he, hcount]
        simp [he']
    · rw [List.map_append, List.pairwise_append]
      refine ⟨h.sorted, List.pairwise_singleton _ _, ?_⟩
      intro x hx y hy
      obtain ⟨a, ha, rfl⟩ := List.mem_map.mp hx
      rw [List.map_singleton, List.mem_singleton] at hy
      subst hy
      exact h.bounded a ha
    · intro a ha
      rcases List.mem_append.mp ha with ha | ha
      · exact h.bounded a ha
      · rw [List.mem_singleton] at ha
        subst ha
        exact UInt64.le_refl _

theorem release (h : EpochInv w) (index : Nat) : EpochInv (w.release index).2 := by
  unfold World.release
  cases ha : w.admissions[index]? with
  | none => exact h
  | some a =>
    dsimp only
    by_cases hr : a.released
    · rw [if_pos hr]
      exact h
    rw [if_neg hr]
    obtain ⟨inFlight, hs⟩ := DeploymentState.release_eq (s := w.state) a.epoch
    have hr' : a.released = false := by simpa using hr
    have hmap := map_epoch_set_released ha
    refine ⟨?_, ?_, ?_, ?_⟩
    · rw [hs]
      exact h.plans.of_eq rfl rfl rfl rfl
    · intro e
      have hcount := h.counted
      simp only [World.unreleased] at hcount ⊢
      rw [DeploymentState.inFlightAt_release, countP_set_released ha hr', hcount, hcount]
      split
      · next he => rw [he]
      · rfl
    · rw [hmap]
      exact h.sorted
    · intro b hb
      have hmem : b.epoch ∈ w.admissions.map Admission.epoch := by
        rw [← hmap]
        exact List.mem_map_of_mem hb
      obtain ⟨d, hd, hde⟩ := List.mem_map.mp hmem
      have hbound := h.bounded d hd
      rw [hs, ← hde]
      exact hbound

theorem env (h : EpochInv w) {e : SessionEvent} (hs : w.env e w') : EpochInv w' := by
  cases e with
  | admitSession modelId epoch =>
    rw [show w' = (w.admitSession modelId).2 from congrArg Prod.snd hs]
    exact h.admitSession modelId
  | release index epoch =>
    rw [show w' = (w.release index).2 from congrArg Prod.snd hs]
    exact h.release index
  | fabric =>
    obtain ⟨f, -, rfl⟩ := hs
    exact ⟨h.plans, h.counted, h.sorted, h.bounded⟩

/-! ## Operations -/

theorem of_state (h : EpochInv w) (hp : PlanOrder w'.state)
    (hc : ∀ e, w'.state.inFlightAt e = w.state.inFlightAt e)
    (ha : w'.admissions = w.admissions) (hle : w.state.activeEpoch ≤ w'.state.activeEpoch) :
    EpochInv w' := by
  refine ⟨hp, ?_, ?_, ?_⟩
  · intro e
    rw [hc, h.counted, World.unreleased, World.unreleased, ha]
  · rw [ha]
    exact h.sorted
  · rw [ha]
    exact fun a hm => UInt64.le_trans (h.bounded a hm) hle

/-- **Every operation keeps the order of epochs and the counts.** -/
theorem exec (h : EpochInv w) {o : ControllerOp} {a : Answer o} (hs : w.exec o a w')
    (hpub : ∀ plan intent, o = .publish plan intent → w.state.preparing = some plan)
    (hroll : ∀ plan err healthy pending, o = .rollback plan err healthy pending →
      w.state.preparing = some plan) : EpochInv w' := by
  obtain ⟨hstate, hadm, -⟩ := hs
  have hle := UInt64.le_refl w.state.activeEpoch
  cases o with
  | beginTransition next =>
    have hplans : PlanOrder w'.state := hstate ▸ h.plans.beginTransition next
    rcases w.state.beginTransition_cases next with ⟨-, -, he⟩ | ⟨e, he⟩
    all_goals
      simp only [ControllerOp.apply, he] at hstate
      refine h.of_state hplans ?_ hadm ?_ <;> rw [hstate]
      · exact fun e => rfl
      · exact hle
  | publish plan intent =>
    have hp := hpub plan intent rfl
    refine h.of_state (hstate ▸ h.plans.publish intent hp) ?_ hadm ?_ <;> rw [hstate]
    · exact fun e => rfl
    · exact UInt64.le_of_lt (h.plans.activeEpoch_lt hp)
  | rollback plan err healthy pending =>
    have hp := hroll plan err healthy pending rfl
    refine h.of_state (hstate ▸ h.plans.rollback err healthy pending hp) ?_ hadm ?_ <;> rw [hstate]
    · exact fun e => rfl
    · exact hle
  | recordReconcileError err healthy =>
    obtain ⟨phase, lastError, he⟩ :=
      DeploymentState.recordReconcileError_eq (s := w.state) err healthy
    simp only [ControllerOp.apply, he] at hstate
    refine h.of_state ?_ ?_ hadm ?_ <;> rw [hstate]
    · exact h.plans.of_eq rfl rfl rfl rfl
    · exact fun e => rfl
    · exact hle
  | finishDraining epoch =>
    refine h.of_state (hstate ▸ h.plans.finishDraining epoch) ?_ hadm ?_ <;> rw [hstate]
    · exact DeploymentState.inFlightAt_finishDraining epoch
    · obtain ⟨inFlight, phase, lastError, he⟩ :=
        DeploymentState.finishDraining_eq (s := w.state) epoch
      simp only [ControllerOp.apply, he]
      exact hle
  | _ =>
    refine h.of_state ?_ ?_ hadm ?_ <;> rw [hstate]
    · exact h.plans
    · exact fun e => rfl
    · exact hle

end EpochInv

end JetsonFabric
