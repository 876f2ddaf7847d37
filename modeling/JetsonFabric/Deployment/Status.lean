import JetsonFabric.Deployment.Lifecycle

/-!
# The status of a model manager after an unload

With no identity, `deploymentStatus` reports the preferred deployment. An unload that removes a
deployment prefers the executable deployment with the last key, be it active or draining; an
unload that finds nothing leaves the preference alone.
-/

namespace JetsonFabric

open Std ModelManager

variable {ε : Type}

/-- The object is resident. -/
def ModelManager.Resident (m : ModelManager ε) (r : ResidentDeployment ε) : Prop :=
  ∃ key p, m.findKey key = some (p, r)

/-- The last of the executable deployments other than `i` is active. -/
def ServingLast (m : ModelManager ε) (i : DeploymentIdentity) : Prop :=
  ∃ r, m.Resident r ∧ r.identity ≠ i ∧ r.state = .active ∧
    ∀ r', m.Resident r' → r'.identity ≠ i → r'.state = .active ∨ r'.state = .draining →
      (keyCmp (keyFor r'.identity) (keyFor r.identity)).isLE

/-! ## The preferred deployment -/

/-- The greatest element with the property is found. -/
theorem find?_reverse_eq_some_iff {α : Type} {cmp : α → α → Ordering} [TransCmp cmp]
    [LawfulEqCmp cmp] {l : List α} (h : l.Pairwise fun a b => cmp a b = .lt) {p : α → Bool}
    {a : α} :
    l.reverse.find? p = some a ↔ a ∈ l ∧ p a ∧ ∀ b ∈ l, p b → (cmp b a).isLE := by
  induction l with
  | nil => simp
  | cons x l ih =>
    obtain ⟨hx, hl⟩ := List.pairwise_cons.mp h
    simp only [List.reverse_cons, List.find?_append, Option.or_eq_some_iff, ih hl]
    constructor
    · rintro (⟨ha, hp, hmax⟩ | ⟨hnone, hfind⟩)
      · refine ⟨List.mem_cons_of_mem x ha, hp, fun b hb hpb => ?_⟩
        rcases List.mem_cons.mp hb with rfl | hb
        · simp [hx a ha]
        · exact hmax b hb hpb
      · obtain ⟨hp, rfl⟩ : p x ∧ x = a := by simpa [List.find?_singleton] using hfind
        refine ⟨List.mem_cons_self, hp, fun b hb hpb => ?_⟩
        rcases List.mem_cons.mp hb with rfl | hb
        · simp [ReflCmp.compare_self]
        · exact absurd hpb (List.find?_eq_none.mp hnone b (by simpa using hb))
    · rintro ⟨ha, hp, hmax⟩
      rcases List.mem_cons.mp ha with rfl | ha
      · refine .inr ⟨List.find?_eq_none.mpr fun b hb hpb => ?_, by simp [hp]⟩
        -- a later element with the property would be greater
        have hle := hmax b (List.mem_cons_of_mem _ (by simpa using hb)) hpb
        have hgt : cmp b a = .gt := OrientedCmp.gt_of_lt (hx b (by simpa using hb))
        simp [hgt] at hle
      · exact .inl ⟨ha, hp, fun b hb => hmax b (List.mem_cons_of_mem x hb)⟩

section Inv

variable {s : ManagerState ε}

theorem findKey_of_resident (h : ManagerInv s) {r : ResidentDeployment ε}
    (hr : s.manager.Resident r) : ∃ p, s.manager.findKey (keyFor r.identity) = some (p, r) := by
  obtain ⟨key, p, hf⟩ := hr
  exact ⟨p, (h.sound_of_findKey hf).key ▸ hf⟩

theorem executableKey_iff (h : ManagerInv s) (key : DeploymentKey) :
    s.manager.executableKey key = true ↔ ∃ r, s.manager.Resident r ∧ keyFor r.identity = key ∧
      (r.state = .active ∨ r.state = .draining) := by
  simp only [executableKey, Option.any_eq_true, isExecutable, Bool.and_eq_true, Bool.or_eq_true,
    beq_iff_eq, Prod.exists]
  constructor
  · rintro ⟨p, r, hf, -, hst⟩
    exact ⟨r, ⟨key, p, hf⟩, (h.sound_of_findKey hf).key, hst⟩
  · rintro ⟨r, hr, rfl, hst⟩
    obtain ⟨p, hf⟩ := findKey_of_resident h hr
    refine ⟨p, r, hf, (h.sound_of_findKey hf).execution.mpr ?_, hst⟩
    rcases hst with hst | hst <;> simp [hasExecution, hst]

theorem selectPreferredAfterErase_eq (h : ManagerInv s) (key : DeploymentKey) :
    s.manager.keysReversed.find? s.manager.executableKey = some key ↔
      s.manager.executableKey key = true ∧
        ∀ key', s.manager.executableKey key' = true → (keyCmp key' key).isLE := by
  have hmem (k : DeploymentKey) (hk : s.manager.executableKey k = true) :
      k ∈ s.manager.deployments.keys := by
    obtain ⟨r, hr, rfl, -⟩ := (executableKey_iff h k).mp hk
    obtain ⟨p, hf⟩ := findKey_of_resident h hr
    exact ExtTreeMap.mem_keys.mpr (ManagerInv.mem_of_findKey hf)
  rw [keysReversed, find?_reverse_eq_some_iff ExtTreeMap.ordered_keys]
  constructor
  · rintro ⟨-, hk, hmax⟩
    exact ⟨hk, fun k hk' => hmax k (hmem k hk') hk'⟩
  · rintro ⟨hk, hmax⟩
    exact ⟨hmem key hk, hk, fun k _ => hmax k⟩

theorem deploymentStatus_active {m : ModelManager ε} :
    m.deploymentStatus.state = some .active ↔
      ∃ key p r, m.preferred = some key ∧ m.findKey key = some (p, r) ∧ r.state = .active := by
  simp only [deploymentStatus, preferredDeployment]
  constructor
  · intro h
    rcases hpref : m.preferred with _ | key
    · simp [hpref, statusFor] at h
    rcases hf : m.findKey key with _ | ⟨p, r⟩
    · simp [hpref, hf, statusFor] at h
    · exact ⟨key, p, r, rfl, hf, by simpa [hpref, hf, statusFor] using h⟩
  · rintro ⟨key, p, r, hpref, hf, hr⟩
    simp [hpref, hf, statusFor, hr]

/-- After a removal the last executable deployment is reported. -/
theorem status_active_iff (h : ManagerInv s)
    (hpref : s.manager.preferred = s.manager.selectPreferredAfterErase.preferred) :
    s.manager.deploymentStatus.state = some .active ↔
      ∃ r, s.manager.Resident r ∧ r.state = .active ∧
        ∀ r', s.manager.Resident r' → r'.state = .active ∨ r'.state = .draining →
          (keyCmp (keyFor r'.identity) (keyFor r.identity)).isLE := by
  rw [deploymentStatus_active]
  simp only [hpref, selectPreferredAfterErase]
  constructor
  · rintro ⟨key, p, r, hkey, hf, hr⟩
    obtain rfl := (h.sound_of_findKey hf).key
    have hexec : s.manager.executableKey (keyFor r.identity) = true :=
      (executableKey_iff h _).mpr ⟨r, ⟨_, p, hf⟩, rfl, .inl hr⟩
    have hfind : s.manager.keysReversed.find? s.manager.executableKey =
        some (keyFor r.identity) := by
      rcases Option.or_eq_some_iff.mp hkey with hfind | ⟨hnone, hhead⟩
      · exact hfind
      · exact absurd hexec (List.find?_eq_none.mp hnone _ (List.mem_of_mem_head? hhead))
    refine ⟨r, ⟨_, p, hf⟩, hr, fun r' hr' hst => ?_⟩
    exact ((selectPreferredAfterErase_eq h _).mp hfind).2 _
      ((executableKey_iff h _).mpr ⟨r', hr', rfl, hst⟩)
  · rintro ⟨r, hres, hr, hmax⟩
    obtain ⟨p, hf⟩ := findKey_of_resident h hres
    have hfind : s.manager.keysReversed.find? s.manager.executableKey =
        some (keyFor r.identity) := by
      refine (selectPreferredAfterErase_eq h _).mpr
        ⟨(executableKey_iff h _).mpr ⟨r, hres, rfl, .inl hr⟩, fun k hk => ?_⟩
      obtain ⟨r', hr', rfl, hst⟩ := (executableKey_iff h k).mp hk
      exact hmax r' hr' hst
    exact ⟨keyFor r.identity, p, r, by simp [hfind], hf, hr⟩

end Inv

/-! ## After an unload -/

/-- A removal leaves every other deployment resident. -/
theorem resident_unload {s : ManagerState ε} (h : ManagerInv s) {i : DeploymentIdentity} {p : Nat}
    {r : ResidentDeployment ε} (hf : s.manager.findExact i = some (p, r))
    (r' : ResidentDeployment ε) :
    ((s.manager.store p (removed r)).erase (keyFor i)).selectPreferredAfterErase.Resident r' ↔
      s.manager.Resident r' ∧ r'.identity ≠ i := by
  obtain ⟨hk, hi⟩ := findExact_eq_some.mp hf
  obtain ⟨hp, hr⟩ := findKey_eq_some.mp hk
  simp only [Resident, findKey_eq_some, selectPreferredAfterErase, erase, store]
  constructor
  · rintro ⟨key, q, hq, hr'⟩
    have hne : key ≠ keyFor i := by
      rintro rfl
      simp at hq
    have hq' : s.manager.deployments[key]? = some q := by grind
    obtain ⟨o, ho, hs⟩ := h.sound key q hq'
    -- two keys never share an object
    have hqp : q ≠ p := by
      rintro rfl
      rw [hr] at ho
      exact hne ((Option.some.inj ho ▸ hs.key).symm.trans (h.sound_of_findKey hk).key)
    rw [List.getElem?_set_ne (Ne.symm hqp)] at hr'
    refine ⟨⟨key, q, hq', hr'⟩, fun hi' => hne ?_⟩
    rw [hr'] at ho
    rw [← hi', Option.some.inj ho, hs.key]
  · rintro ⟨⟨key, q, hq, hr'⟩, hi'⟩
    have hkey := (h.sound_of_findKey (findKey_eq_some.mpr ⟨hq, hr'⟩)).key
    have hqp : q ≠ p := by
      rintro rfl
      rw [hr] at hr'
      exact hi' (Option.some.inj hr' ▸ hi)
    have hne : key ≠ keyFor i := by
      rintro rfl
      rw [hp] at hq
      exact hqp (Option.some.inj hq).symm
    exact ⟨key, q, by grind, by rw [List.getElem?_set_ne (Ne.symm hqp), hr']⟩

theorem active_unload_iff {s : ManagerState ε} (h : ManagerInv s) {i : DeploymentIdentity}
    {res : DeploymentOperationResult}
    (hres : (s.perform (.unload i)).result = some (.ok res)) (hok : res.ok = true) :
    (∃ r, (s.perform (.unload i)).state.manager.Resident r ∧ r.state = .active) ↔
      ∃ r, s.manager.Resident r ∧ r.identity ≠ i ∧ r.state = .active := by
  simp only [ManagerState.perform, Outcome.effect] at hres ⊢
  rcases unload_cases s.manager i with ⟨res', e, hnone⟩ | ⟨p, r, res', hf, hrem, e, -⟩
  · simp only [e, Option.some.injEq, Except.ok.injEq] at hres ⊢
    subst hres
    constructor
    · rintro ⟨r, hr, hst⟩
      refine ⟨r, hr, fun hi => ?_, hst⟩
      obtain ⟨p, hf⟩ := findKey_of_resident h hr
      have hexact : s.manager.findExact i = some (p, r) := findExact_eq_some.mpr ⟨hi ▸ hf, hi⟩
      simp [hnone hok] at hexact
    · rintro ⟨r, hr, -, hst⟩
      exact ⟨r, hr, hst⟩
  · simp only [e, resident_unload h hf, and_assoc]

/-- **The status after an unload** is active exactly when the last executable deployment is. -/
theorem status_after_unload_iff {ε : Type} {s : ManagerState ε} {i : DeploymentIdentity}
    {res : DeploymentOperationResult} (h : (managerSystem ε).Reachable s)
    (hres : (s.perform (.unload i)).result = some (.ok res)) (hok : res.ok = true) :
    ((∃ r, (s.perform (.unload i)).state.manager.Resident r ∧ r.state = .active) →
      (s.perform (.unload i)).state.manager.deploymentStatus.state = some .active) ↔
    ((∃ r, s.manager.Resident r ∧ r.identity ≠ i ∧ r.state = .active) →
      if (s.manager.findExact i).isSome then ServingLast s.manager i
      else s.manager.deploymentStatus.state = some .active) := by
  have hinv : ManagerInv s := ManagerInv.isInductive.reachable h
  rw [active_unload_iff hinv hres hok]
  refine imp_congr_right fun _ => ?_
  have hnext : ManagerInv (s.perform (.unload i)).state := hinv.unload i
  simp only [ManagerState.perform, Outcome.effect] at hres hnext ⊢
  rcases unload_cases s.manager i with ⟨res', e, hnone⟩ | ⟨p, r, res', hf, -, e, -⟩
  · simp only [e, Option.some.injEq, Except.ok.injEq] at hres ⊢
    subst hres
    simp [hnone hok]
  · simp only [e] at hnext ⊢
    rw [status_active_iff hnext rfl]
    simp only [resident_unload hinv hf, hf, Option.isSome_some, if_true, ServingLast, and_assoc,
      and_imp]

/-- The state after a list of calls. -/
def ManagerState.performAll (s : ManagerState ε) (calls : List (ManagerCall ε)) : ManagerState ε :=
  calls.foldl (fun s call => (s.perform call).state) s

/-- Every call of the list is enabled when its turn comes. -/
def ManagerState.EnabledAll (s : ManagerState ε) : List (ManagerCall ε) → Prop
  | [] => True
  | call :: calls => s.Enabled call ∧ (s.perform call).state.EnabledAll calls

theorem reachable_performAll {s : ManagerState ε} (h : (managerSystem ε).Reachable s)
    {calls : List (ManagerCall ε)} (hc : s.EnabledAll calls) :
    (managerSystem ε).Reachable (s.performAll calls) := by
  induction calls generalizing s with
  | nil => exact h
  | cons call calls ih => exact ih (reachable_perform h call hc.1) hc.2

/-- The completion of a sample load, with an executor. -/
def sampleComplete (deploymentId : Bytes) (epoch : UInt64) (place : Nat) : ManagerCall Unit :=
  .complete ⟨[], keyFor (sampleIdentity deploymentId epoch), place, { layerEnd := 1 }⟩
    (.parts { executor := some (), modelResidency := none })

/-- Epoch 1 of `old` drains, 2 of `new` serves, 3 of `b` is loading. -/
def sampleHandoff (old new : Bytes) : ManagerState Unit :=
  ({} : ManagerState Unit).performAll
    [sampleLoad old 1, sampleComplete old 1 0, .activate (sampleIdentity old 1),
      sampleLoad new 2, sampleComplete new 2 1, .activate (sampleIdentity new 2),
      .drain (sampleIdentity old 1), sampleLoad (str "b") 3]

/-- The handoff from `a` to `z`, and the one from `z` to `a`. -/
theorem sampleHandoff_reachable :
    (managerSystem Unit).Reachable (sampleHandoff (str "a") (str "z")) ∧
      (managerSystem Unit).Reachable (sampleHandoff (str "z") (str "a")) := by
  constructor <;> refine reachable_performAll (.init (.inl rfl))
    ⟨trivial, ?_, trivial, trivial, ?_, trivial, trivial, trivial, trivial⟩ <;> decide

theorem status_after_unload_kept :
    ServingLast (sampleHandoff (str "a") (str "z")).manager (sampleIdentity (str "b") 3) ∧
    ((sampleHandoff (str "a") (str "z")).perform
      (.unload (sampleIdentity (str "b") 3))).state.manager.deploymentStatus.state =
        some .active := by
  have hstatus : ((sampleHandoff (str "a") (str "z")).perform
      (.unload (sampleIdentity (str "b") 3))).state.manager.deploymentStatus.state =
        some .active := by decide
  have hres : ((sampleHandoff (str "a") (str "z")).perform
      (.unload (sampleIdentity (str "b") 3))).result =
        some (.ok (operationSuccess (str "200 OK") (sampleIdentity (str "b") 3) none)) := rfl
  refine ⟨?_, hstatus⟩
  exact (status_after_unload_iff sampleHandoff_reachable.1 hres rfl).mp (fun _ => hstatus)
    ⟨_, ⟨keyFor (sampleIdentity (str "z") 2), 1, rfl⟩, by decide, rfl⟩

/-- **An unload can hide the serving deployment.** -/
theorem unload_hides_active :
    (managerSystem Unit).Reachable (sampleHandoff (str "z") (str "a")) ∧
    (sampleHandoff (str "z") (str "a")).manager.deploymentStatus.state = some .active ∧
    ((sampleHandoff (str "z") (str "a")).perform (.unload (sampleIdentity (str "b") 3))).result =
      some (.ok (operationSuccess (str "200 OK") (sampleIdentity (str "b") 3) none)) ∧
    (∃ r, ((sampleHandoff (str "z") (str "a")).perform
      (.unload (sampleIdentity (str "b") 3))).state.manager.Resident r ∧ r.state = .active) ∧
    ((sampleHandoff (str "z") (str "a")).perform
      (.unload (sampleIdentity (str "b") 3))).state.manager.deploymentStatus.state =
        some .draining := by
  refine ⟨sampleHandoff_reachable.2, by decide, rfl, ?_, by decide⟩
  exact ⟨_, ⟨keyFor (sampleIdentity (str "a") 2), 1, rfl⟩, rfl⟩

end JetsonFabric
