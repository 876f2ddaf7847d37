import JetsonFabric.Deployment.Status

/-!
# Cleaning up a deployment

A coordinator that gives up a deployment drains it and unloads it, whatever state it is in and
whatever its load is doing (`cleanupPlan`). Both calls succeed, and can be repeated.

* **`cleanup_repeatable`**: a drain and an unload remove a deployment for good.
-/

namespace JetsonFabric

open Std ModelManager

variable {ε : Type} {s t : ManagerState ε} {i : DeploymentIdentity}

/-! ## What a call leaves resident -/

variable {p : Nat} {r' r : ResidentDeployment ε} {m : ModelManager ε} {call : ManagerCall ε}

theorem findKey_store {q : Nat} {r₁ : ResidentDeployment ε}
    {key : DeploymentKey} (hf : (m.store p r₁).findKey key = some (q, r'))
    (hr : m.heap[p]? = some r) (hidentity : r₁.identity = r.identity) :
    ∃ o, m.findKey key = some (q, o) ∧ o.identity = r'.identity ∧ (r' = o ∨ r' = r₁) := by
  obtain ⟨hq, hr'⟩ := findKey_eq_some.mp hf
  simp only [store] at hq hr'
  by_cases hqp : q = p
  · subst hqp
    obtain ⟨hlt, heq⟩ := List.getElem?_eq_some_iff.mp hr'
    rw [List.getElem_set_self] at heq
    exact ⟨r, findKey_eq_some.mpr ⟨hq, hr⟩, by rw [← heq, hidentity], .inr heq.symm⟩
  · rw [List.getElem?_set_ne (Ne.symm hqp)] at hr'
    exact ⟨r', findKey_eq_some.mpr ⟨hq, hr'⟩, rfl, .inl rfl⟩

theorem heap_of_findExact (hf : m.findExact i = some (p, r)) : m.heap[p]? = some r :=
  (findKey_eq_some.mp (findExact_eq_some.mp hf).1).2

/-- A resident deployment was registered just now, or was resident before. -/
theorem perform_findKey (h : ManagerInv s) (hc : s.Enabled call) {key : DeploymentKey}
    (hf : (s.perform call).state.manager.findKey key = some (p, r')) :
    (∃ nodeName a hasBuilder, call = .load nodeName r'.identity a hasBuilder ∧
      r'.state = .loading) ∨
    ∃ r, s.manager.findKey key = some (p, r) ∧ r.identity = r'.identity ∧
      (r' = r ∨ r'.state ≠ .active ∨ call = .activate r'.identity) := by
  cases call with
  | load nodeName j a hasBuilder =>
    rcases register_cases s.manager nodeName j a hasBuilder with ⟨res, e⟩ | ⟨-, -, e⟩
    · simp only [ManagerState.perform, e] at hf
      exact .inr ⟨r', hf, rfl, .inl rfl⟩
    · simp only [ManagerState.perform, e] at hf
      obtain ⟨hp, hr'⟩ := findKey_eq_some.mp hf
      rw [ExtTreeMap.getElem?_insert] at hp
      split_ifs at hp with hkey
      · obtain rfl := Option.some.inj hp
        rw [List.getElem?_concat_length] at hr'
        obtain rfl := Option.some.inj hr'
        exact .inl ⟨nodeName, a, hasBuilder, rfl, rfl⟩
      · obtain ⟨o, ho, -⟩ := h.sound key p hp
        have hlt := (List.getElem?_eq_some_iff.mp ho).1
        rw [List.getElem?_append_left hlt] at hr'
        exact .inr ⟨r', findKey_eq_some.mpr ⟨hp, hr'⟩, rfl, .inl rfl⟩
  | abandon load => exact .inr ⟨r', hf, rfl, .inl rfl⟩
  | complete load outcome =>
    rcases h.complete_cases hc outcome with ⟨res, e⟩ | ⟨r, r₁, res, hload, -, hdone, e⟩
    · simp only [ManagerState.perform, Outcome.effect, e] at hf
      exact .inr ⟨r', hf, rfl, .inl rfl⟩
    · simp only [ManagerState.perform, Outcome.effect, e] at hf
      have hr₁ : r₁.identity = r.identity ∧ r₁.state ≠ .active := by
        rcases hdone with rfl | ⟨residency, execution, rfl⟩ <;> simp
      obtain ⟨o, ho, hid, hor⟩ := findKey_store hf (findKey_eq_some.mp hload).2 hr₁.1
      exact .inr ⟨o, ho, hid, hor.imp_right fun hnew => .inl (by rw [hnew]; exact hr₁.2)⟩
  | activate j =>
    rcases activate_cases s.manager j with ⟨res, e⟩ | ⟨q, r, res, -, -, e⟩ |
      ⟨q, r, res, hfound, -, -, e⟩
    · simp only [ManagerState.perform, Outcome.effect, e] at hf
      exact .inr ⟨r', hf, rfl, .inl rfl⟩
    · simp only [ManagerState.perform, Outcome.effect, e] at hf
      exact .inr ⟨r', hf, rfl, .inl rfl⟩
    · simp only [ManagerState.perform, Outcome.effect, e] at hf
      have hstore : (s.manager.store q { r with state := .active }).findKey key = some (p, r') := hf
      obtain ⟨o, ho, hid, hor⟩ := findKey_store hstore (heap_of_findExact hfound) rfl
      refine .inr ⟨o, ho, hid, hor.imp_right fun hnew => .inr ?_⟩
      rw [hnew, (findExact_eq_some.mp hfound).2]
  | drain j =>
    rcases drain_cases s.manager j with ⟨res, e⟩ | ⟨q, r, res, hfound, -, e⟩
    · simp only [ManagerState.perform, Outcome.effect, e] at hf
      exact .inr ⟨r', hf, rfl, .inl rfl⟩
    · simp only [ManagerState.perform, Outcome.effect, e] at hf
      obtain ⟨o, ho, hid, hor⟩ := findKey_store hf (heap_of_findExact hfound) rfl
      exact .inr ⟨o, ho, hid, hor.imp_right fun hnew => .inl (by rw [hnew]; simp)⟩
  | unload j =>
    rcases unload_cases s.manager j with ⟨res, e, -⟩ | ⟨q, r, res, hfound, -, e, -⟩
    · simp only [ManagerState.perform, Outcome.effect, e] at hf
      exact .inr ⟨r', hf, rfl, .inl rfl⟩
    · simp only [ManagerState.perform, Outcome.effect, e] at hf
      have hstore : (s.manager.store q (removed r)).findKey key = some (p, r') := by
        obtain ⟨hp, hr'⟩ := findKey_eq_some.mp hf
        simp only [selectPreferredAfterErase, erase] at hp hr'
        rw [ExtTreeMap.getElem?_erase] at hp
        split_ifs at hp
        exact findKey_eq_some.mpr ⟨hp, hr'⟩
      obtain ⟨o, ho, hid, hor⟩ :=
        findKey_store hstore (heap_of_findExact hfound) (ManagerInv.removed_identity r)
      refine .inr ⟨o, ho, hid, hor.imp_right fun hnew => .inl ?_⟩
      rw [hnew, removed]
      split_ifs with hloading <;> simp [hloading]

/-! ## One deployment among others -/

variable {calls : List (ManagerCall ε)}

/-- The calls of a cleanup of `i`, and the end of a load of it. -/
def ManagerCall.OnlyOn (s : ManagerState ε) (i : DeploymentIdentity) : ManagerCall ε → Prop
  | .drain j | .unload j => j = i
  | .complete pending _ | .abandon pending =>
    ∃ r, s.manager.heap[pending.resident]? = some r ∧ r.identity = i
  | .load _ _ _ _ | .activate _ => False

/-- The runs of a manager in which only the cleanup of `i` goes on. -/
def cleanupSystem (ε : Type) (i : DeploymentIdentity) : LTS (ManagerState ε) (ManagerCall ε) where
  init := (managerSystem ε).Reachable
  step s call t := (managerSystem ε).step s call t ∧ call.OnlyOn s i

theorem resident_store {r₁ : ResidentDeployment ε}
    (hr : m.heap[p]? = some r) (hid : r.identity = i) (hid₁ : r₁.identity = i)
    (hother : r'.identity ≠ i) : (m.store p r₁).Resident r' ↔ m.Resident r' := by
  constructor
  · rintro ⟨key, q, hf⟩
    obtain ⟨o, ho, -, rfl | rfl⟩ := findKey_store hf hr (hid₁.trans hid.symm)
    · exact ⟨key, q, ho⟩
    · exact absurd hid₁ hother
  · rintro ⟨key, q, hf⟩
    obtain ⟨hq, hr'⟩ := findKey_eq_some.mp hf
    have hqp : q ≠ p := by
      rintro rfl
      exact hother (Option.some.inj (hr.symm.trans hr') ▸ hid)
    exact ⟨key, q, findKey_eq_some.mpr ⟨hq, (List.getElem?_set_ne (Ne.symm hqp)).trans hr'⟩⟩

theorem others_kept_step (h : ManagerInv s) (hc : s.Enabled call)
    (honly : call.OnlyOn s i) (hother : r'.identity ≠ i) :
    (s.perform call).state.manager.Resident r' ↔ s.manager.Resident r' := by
  cases call with
  | load | activate => exact honly.elim
  | abandon load => exact Iff.rfl
  | complete load outcome =>
    obtain ⟨r, hr, hid⟩ := honly
    rcases h.complete_cases hc outcome with ⟨res, e⟩ | ⟨o, r₁, res, hload, -, hdone, e⟩
    · simp only [ManagerState.perform, Outcome.effect, e]
    · simp only [ManagerState.perform, Outcome.effect, e]
      obtain rfl : r = o := Option.some.inj (hr.symm.trans (findKey_eq_some.mp hload).2)
      refine resident_store hr hid ?_ hother
      rcases hdone with rfl | ⟨residency, execution, rfl⟩ <;> exact hid
  | drain j =>
    obtain rfl : j = i := honly
    rcases drain_cases s.manager j with ⟨res, e⟩ | ⟨p, r, res, hfound, -, e⟩
    · simp only [ManagerState.perform, Outcome.effect, e]
    · simp only [ManagerState.perform, Outcome.effect, e]
      have hid := (findExact_eq_some.mp hfound).2
      exact resident_store (heap_of_findExact hfound) hid hid hother
  | unload j =>
    obtain rfl : j = i := honly
    rcases unload_cases s.manager j with ⟨res, e, -⟩ | ⟨p, r, res, hfound, -, e, -⟩
    · simp only [ManagerState.perform, Outcome.effect, e]
    · simp only [ManagerState.perform, Outcome.effect, e, resident_unload h hfound,
        and_iff_left hother]

theorem others_kept (h : ManagerInv s) (hrun : (cleanupSystem ε i).Run s calls t)
    (hother : r'.identity ≠ i) : t.manager.Resident r' ↔ s.manager.Resident r' := by
  induction hrun with
  | nil => exact Iff.rfl
  | cons hstep _ ih =>
    obtain ⟨⟨hc, rfl⟩, honly⟩ := hstep
    exact (ih (h.step hc)).trans (others_kept_step h hc honly hother)

/-! ## Drain and unload -/

section Calls

variable (hvalid : requireManagedIdentity i = none)
include hvalid

theorem drain_succeeds (h : ManagerInv s) :
    (∃ state, (s.perform (.drain i)).result =
      some (.ok (operationSuccess (str "200 OK") i state))) ∧
    ∀ p r, (s.perform (.drain i)).state.manager.findExact i = some (p, r) → r.state ≠ .active := by
  simp only [ManagerState.perform, Outcome.effect, drainResidentDeployment,
    validateOperationIdentity, hvalid, Option.map_none]
  cases hf : s.manager.findExact i with
  | none => exact ⟨⟨none, rfl⟩, fun p r hfound => by rw [hf] at hfound; cases hfound⟩
  | some found =>
    obtain ⟨p, r⟩ := found
    obtain ⟨hkey, hid⟩ := findExact_eq_some.mp hf
    have hresident := (h.sound_of_findKey hkey).resident
    have hkept (hactive : r.state ≠ .active) (q : Nat) (r' : ResidentDeployment ε)
        (hfound : s.manager.findExact i = some (q, r')) : r'.state ≠ .active := by
      rw [hf] at hfound
      cases hfound
      exact hactive
    rcases r with ⟨identity, state, cancel, residency, execution⟩
    obtain rfl : identity = i := hid
    cases state
    case unloading => exact absurd rfl hresident
    case active =>
      refine ⟨⟨_, rfl⟩, fun q r' hfound => ?_⟩
      have hstored : (s.manager.store p ⟨identity, .draining, cancel, residency, execution⟩).findKey
          (keyFor identity) = some (q, r') := (findExact_eq_some.mp hfound).1
      obtain ⟨hq, hr'⟩ := findKey_eq_some.mp hstored
      obtain rfl : p = q := Option.some.inj ((findKey_eq_some.mp hkey).1.symm.trans hq)
      have hlt := (List.getElem?_eq_some_iff.mp (heap_of_findExact hf)).1
      rw [store, List.getElem?_set_self hlt] at hr'
      rw [← Option.some.inj hr']
      simp
    all_goals exact ⟨⟨_, rfl⟩, hkept (by simp)⟩

theorem unload_succeeds (h : ManagerInv s)
    (hidle : ∀ p r, s.manager.findExact i = some (p, r) → r.state ≠ .active) :
    (s.perform (.unload i)).result = some (.ok (operationSuccess (str "200 OK") i none)) ∧
      (s.perform (.unload i)).state.manager.findExact i = none := by
  cases hf : s.manager.findExact i with
  | none =>
    simp only [ManagerState.perform, Outcome.effect, unloadResidentDeployment,
      validateOperationIdentity, hvalid, Option.map_none, hf, and_self]
  | some found =>
    obtain ⟨p, r⟩ := found
    obtain ⟨hkey, hid⟩ := findExact_eq_some.mp hf
    have hresident := (h.sound_of_findKey hkey).resident
    have hactive := hidle p r hf
    have hgone (m : ModelManager ε) :
        (m.erase (keyFor i)).selectPreferredAfterErase.findExact i = none := by
      simp [findExact, findKey, selectPreferredAfterErase, erase]
    simp only [ManagerState.perform, Outcome.effect, unloadResidentDeployment,
      validateOperationIdentity, hvalid, Option.map_none, hf]
    rcases r with ⟨identity, state, cancel, residency, execution⟩
    obtain rfl : identity = i := hid
    cases state
    case active => exact absurd rfl hactive
    case unloading => exact absurd rfl hresident
    all_goals exact ⟨rfl, hgone _⟩

theorem repeat_changes_nothing (hgone : s.manager.findExact i = none)
    (hcall : call = .drain i ∨ call = .unload i) :
    (s.perform call).result = some (.ok (operationSuccess (str "200 OK") i none)) ∧
      (s.perform call).state = s := by
  rcases hcall with rfl | rfl <;>
    simp only [ManagerState.perform, Outcome.effect, drainResidentDeployment,
      unloadResidentDeployment, validateOperationIdentity, hvalid, Option.map_none, hgone, and_self]

end Calls

theorem idle_run (h : ManagerInv s)
    (hrun : (managerSystem ε).Run s calls t) (hcalls : .activate i ∉ calls)
    (hidle : ∀ p r, s.manager.findExact i = some (p, r) → r.state ≠ .active) :
    ∀ p r, t.manager.findExact i = some (p, r) → r.state ≠ .active := by
  induction hrun with
  | nil => exact hidle
  | cons hstep _ ih =>
    obtain ⟨hc, rfl⟩ := hstep
    refine ih (h.step hc) (fun hmem => hcalls (List.mem_cons_of_mem _ hmem)) fun p r hf => ?_
    obtain ⟨hkey, hid⟩ := findExact_eq_some.mp hf
    rcases perform_findKey h hc hkey with ⟨_, _, _, -, hloading⟩ | ⟨o, ho, hido, hr⟩
    · rw [hloading]
      simp
    · rcases hr with rfl | hr | rfl
      · exact hidle p r (findExact_eq_some.mpr ⟨ho, hid⟩)
      · exact hr
      · exact absurd (List.mem_cons_self ..) (hid ▸ hcalls)

theorem gone_run (h : ManagerInv s) (hrun : (managerSystem ε).Run s calls t)
    (hcalls : ∀ nodeName a hasBuilder, .load nodeName i a hasBuilder ∉ calls)
    (hgone : s.manager.findExact i = none) : t.manager.findExact i = none := by
  induction hrun with
  | nil => exact hgone
  | cons hstep _ ih =>
    obtain ⟨hc, rfl⟩ := hstep
    refine ih (h.step hc) (fun n a b hmem => hcalls n a b (List.mem_cons_of_mem _ hmem)) ?_
    rw [Option.eq_none_iff_forall_not_mem]
    rintro ⟨p, r⟩ hf
    obtain ⟨hkey, hid⟩ := findExact_eq_some.mp hf
    rcases perform_findKey h hc hkey with ⟨n, a, b, rfl, -⟩ | ⟨o, ho, hido, -⟩
    · exact hcalls n a b (hid ▸ List.mem_cons_self ..)
    · rw [findExact_eq_some.mpr ⟨ho, hido.trans hid⟩] at hgone
      cases hgone

theorem unnamed_run (h : ManagerInv s)
    (hrun : (managerSystem ε).Run s calls t) (hplace : p < s.manager.heap.length)
    (hdropped : ∀ key : DeploymentKey, s.manager.deployments[key]? ≠ some p) (key : DeploymentKey) :
    t.manager.deployments[key]? ≠ some p := by
  induction hrun with
  | nil => exact hdropped key
  | cons hstep _ ih =>
    obtain ⟨hc, rfl⟩ := hstep
    obtain ⟨hlen, hmap⟩ := perform_deployments h hc
    refine ih (h.step hc) (hplace.trans_le hlen) fun key hkey => ?_
    exact (hmap key p hkey).elim (hdropped key) hplace.ne

theorem unload_identity (hr : s.manager.heap[p]? = some r) :
    ∃ r', (s.perform (.unload i)).state.manager.heap[p]? = some r' ∧ r'.identity = r.identity := by
  rcases unload_cases s.manager i with ⟨res, e, -⟩ | ⟨q, o, res, hfound, -, e, -⟩
  · exact ⟨r, by simpa only [ManagerState.perform, Outcome.effect, e] using hr, rfl⟩
  · simp only [ManagerState.perform, Outcome.effect, e, selectPreferredAfterErase, erase, store]
    have ho := heap_of_findExact hfound
    by_cases hqp : q = p
    · subst hqp
      obtain rfl : r = o := Option.some.inj (hr.symm.trans ho)
      have hlt := (List.getElem?_eq_some_iff.mp hr).1
      exact ⟨removed r, List.getElem?_set_self hlt, ManagerInv.removed_identity r⟩
    · exact ⟨r, (List.getElem?_set_ne hqp).trans hr, rfl⟩

/-- **A cleanup can be repeated**: a drain and an unload succeed and touch no other deployment. -/
theorem cleanup_repeatable {ε : Type} {s : ManagerState ε} (h : (managerSystem ε).Reachable s)
    {i : DeploymentIdentity} (hvalid : requireManagedIdentity i = none) :
    (∃ state, (s.perform (.drain i)).result =
      some (.ok (operationSuccess (str "200 OK") i state))) ∧
    (∀ between t, (managerSystem ε).Run (s.perform (.drain i)).state between t →
      .activate i ∉ between →
      (t.perform (.unload i)).result = some (.ok (operationSuccess (str "200 OK") i none)) ∧
      (t.perform (.unload i)).state.manager.findExact i = none ∧
      (∀ load ∈ t.loads, ∀ r, t.manager.heap[load.resident]? = some r → r.identity = i →
        ∀ after u, (managerSystem ε).Run (t.perform (.unload i)).state after u →
          ∀ key : DeploymentKey, u.manager.deployments[key]? ≠ some load.resident) ∧
      ∀ after u, (managerSystem ε).Run (t.perform (.unload i)).state after u →
        (∀ nodeName a hasBuilder, .load nodeName i a hasBuilder ∉ after) →
        ∀ call, call = .drain i ∨ call = .unload i →
          (u.perform call).result = some (.ok (operationSuccess (str "200 OK") i none)) ∧
          (u.perform call).state = u) ∧
    ∀ calls t, (cleanupSystem ε i).Run s calls t → ∀ r, r.identity ≠ i →
      (t.manager.Resident r ↔ s.manager.Resident r) := by
  have hinv : ManagerInv s := ManagerInv.isInductive.reachable h
  obtain ⟨hdrain, hactive⟩ := drain_succeeds hvalid hinv
  refine ⟨hdrain, fun between t hrun hbetween => ?_,
    fun calls t hrun r => others_kept hinv hrun⟩
  have hdrained : ManagerInv (s.perform (.drain i)).state := hinv.drain i
  have ht : ManagerInv t :=
    ManagerInv.isInductive.reachable ((reachable_perform h (.drain i) trivial).run hrun)
  have hidle := idle_run hdrained hrun hbetween hactive
  obtain ⟨hresult, hgone⟩ := unload_succeeds hvalid ht hidle
  have hunloaded : ManagerInv (t.perform (.unload i)).state := ht.unload i
  refine ⟨hresult, hgone, fun load hload r hr hid after u hafter => ?_, fun after u hafter hcalls
    call => repeat_changes_nothing hvalid (gone_run hunloaded hafter hcalls hgone)⟩
  obtain ⟨r', hr', hid'⟩ := unload_identity (i := i) hr
  refine unnamed_run hunloaded hafter (List.getElem?_eq_some_iff.mp hr').1 fun key hkey => ?_
  -- the object under a key has the identity of that key
  have hfound := findKey_eq_some.mpr ⟨hkey, hr'⟩
  have hkeyFor := (hunloaded.sound_of_findKey hfound).key
  rw [hid', hid] at hkeyFor
  rw [← hkeyFor] at hfound
  rw [findExact_eq_some.mpr ⟨hfound, hid'.trans hid⟩] at hgone
  cases hgone

theorem cleanup_repeatable_active :
    (∃ state, ((sampleHandoff (str "a") (str "z")).perform
        (.drain (sampleIdentity (str "z") 2))).result =
      some (.ok (operationSuccess (str "200 OK") (sampleIdentity (str "z") 2) state))) ∧
    (((sampleHandoff (str "a") (str "z")).perform
        (.drain (sampleIdentity (str "z") 2))).state.perform
        (.unload (sampleIdentity (str "z") 2))).state.manager.findExact
      (sampleIdentity (str "z") 2) = none := by
  obtain ⟨hdrain, hunload, -⟩ := cleanup_repeatable sampleHandoff_reachable.1
    (show requireManagedIdentity (sampleIdentity (str "z") 2) = none by decide)
  exact ⟨hdrain, (hunload [] _ (.nil _) (by simp)).2.1⟩

end JetsonFabric
