import JetsonFabric.Coordinator.Scripted

/-!
# Epoch discipline and exact accounting

Over every run of the coordinator, with sessions coming and going between any two operations of
the controller, the epochs of the plans and of the sessions are in order and the counters of
sessions are exact. No bound on the number of transitions is needed: the epoch of a valid plan is
not zero, so the transition at which `lastEpoch` would wrap is refused.
-/

namespace JetsonFabric

open Std

variable {Out : Outside}

/-- The order of the epochs, and the counters, at one point of a run. -/
structure EpochDiscipline (c : DeploymentController) (x : Controlled Unit × World Out) : Prop where
  publish_lt : ∀ plan intent previous y,
    (coordinatorServer Out c).step x (.inr (.op (.publish plan intent) previous)) y →
      x.2.state.activeEpoch < y.2.state.activeEpoch
  pinned_sorted : (x.2.admissions.map Admission.epoch).Pairwise (· ≤ ·)
  active_le : ∀ plan, x.2.state.active = some plan → plan.epoch ≤ x.2.state.lastEpoch
  preparing_le : ∀ plan, x.2.state.preparing = some plan → plan.epoch ≤ x.2.state.lastEpoch
  draining_le : ∀ epoch ∈ x.2.state.draining, epoch ≤ x.2.state.lastEpoch
  active_not_draining : ∀ plan, x.2.state.active = some plan → plan.epoch ∉ x.2.state.draining
  counted : ∀ epoch, x.2.state.inFlightAt epoch = x.2.unreleased epoch

/-- **Epoch discipline and exact accounting** in every reachable state. -/
theorem epoch_discipline {c : DeploymentController} {x : Controlled Unit × World Out}
    (h : (coordinatorServer Out c).Reachable x) : EpochDiscipline c x := by
  obtain ⟨log, hreach, hsafe⟩ := coordinator_reachable h
  have hinv : EpochInv x.2 := coordinatorMachine_inductive.reachable hreach
  refine ⟨?_, hinv.sorted, hinv.plans.active_le, ?_, hinv.plans.draining_le,
    hinv.plans.active_draining, hinv.counted⟩
  · intro plan intent previous y hs
    cases hs with
    | step hs =>
      cases hs with
      | op hx =>
        -- the controller publishes the plan in preparation only
        obtain ⟨hp, -⟩ := hsafe.guard
        rw [hx.1]
        exact hinv.plans.activeEpoch_lt hp
  · intro plan hp
    exact UInt64.le_of_eq (hinv.plans.preparing_eq plan hp)

/-- The sample cluster after a switch, with one session over. -/
def accountedWorld : World anyOutside :=
  let w := sampleController.after (sampleScript fun _ => false)
    (.switchDeployment sampleSpec true) startWorld
  (((w.admitSession (str "model")).2.admitSession (str "model")).2.release 0).2

theorem epoch_discipline_accountedWorld :
    accountedWorld.state.activeEpoch = 1 ∧ accountedWorld.admissions.map Admission.epoch = [1, 1] ∧
      accountedWorld.state.inFlightAt 1 = 1 ∧
      EpochDiscipline sampleController (.done (), accountedWorld) := by
  refine ⟨by decide +kernel, by decide +kernel, by decide +kernel, epoch_discipline ?_⟩
  exact reachable_release (reachable_admitSession (reachable_admitSession
    (reachable_call (reachable_start _) _ _) _) _) _

end JetsonFabric
