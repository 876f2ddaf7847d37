import JetsonFabric.Lib.Contract
import JetsonFabric.Coordinator.Controller

/-!
# The coordinator and its surroundings

The shared state that the controller's programs run on: the deployment state, the admitted
sessions, and a fabric of runtimes. What the members, the clocks, the leader check, the probes and
the runtimes may answer is an `Outside`; a result for every `Outside` holds for every behaviour of
runtimes and membership.
-/

namespace JetsonFabric

open Std

/-- What the reads may answer, and the runtimes of the network. -/
structure Outside where
  Fabric : Type
  init : Fabric → Prop
  members : List Member → Prop
  now : Time → Prop
  wallClock : Time → Prop
  isLeader : Time → Bool → Prop
  probe : Bytes → ProbeAnswer → Prop
  send : Fabric → Bytes → RuntimeRequest → Fabric → Prop
  reply : Fabric → Bytes → RuntimeRequest → Except Err RuntimeStatus → Fabric → Prop
  step : Fabric → Fabric → Prop

/-- The coordinator with its sessions and the runtimes. -/
structure World (Out : Outside) where
  state : DeploymentState
  admissions : List Admission
  fabric : Out.Fabric

/-- An admission, a `Release`, or a move of the fabric. -/
inductive SessionEvent
  | admitSession (modelId : Bytes) (epoch : Option UInt64)
  | release (index : Nat) (epoch : Option UInt64)
  | fabric
  deriving DecidableEq

/-- What an operation does to the deployment state. -/
def ControllerOp.apply : ControllerOp → DeploymentState → DeploymentState
  | .beginTransition next, s => (s.beginTransition next).2
  | .publish plan intent, s => (s.publish plan intent).2
  | .rollback plan err healthy cleanupPending, s => s.rollback plan err healthy cleanupPending
  | .recordReconcileError err healthy, s => s.recordReconcileError err healthy
  | .finishDraining epoch, s => s.finishDraining epoch
  | _, s => s

namespace Outside

variable (Out : Outside)

/-- What an operation may answer, and the fabric after it. -/
def Answers (s : DeploymentState) (f : Out.Fabric) :
    (o : ControllerOp) → Answer o → Out.Fabric → Prop
  | .snapshot, a, f' => a = s.snapshot ∧ f' = f
  | .beginTransition next, a, f' => a = (s.beginTransition next).1 ∧ f' = f
  | .publish plan intent, a, f' => a = (s.publish plan intent).1 ∧ f' = f
  | .rollback _ _ _ _, _, f' => f' = f
  | .recordReconcileError _ _, _, f' => f' = f
  | .waitForEpoch epoch, a, f' => s.WaitForEpoch epoch a ∧ f' = f
  | .finishDraining _, _, f' => f' = f
  | .activeIntent, a, f' => a = s.activeIntent ∧ f' = f
  | .members, a, f' => Out.members a ∧ f' = f
  | .now, a, f' => Out.now a ∧ f' = f
  | .wallClock, a, f' => Out.wallClock a ∧ f' = f
  | .isLeader now, a, f' => Out.isLeader now a ∧ f' = f
  | .probe url, a, f' => Out.probe url a ∧ f' = f
  | .send node request, _, f' => Out.send f node request f'
  | .receive node request, a, f' => Out.reply f node request a f'

end Outside

variable {Out : Outside}

namespace World

/-- An operation of the controller. -/
def exec (o : ControllerOp) (w : World Out) (a : Answer o) (w' : World Out) : Prop :=
  w'.state = o.apply w.state ∧ w'.admissions = w.admissions ∧
    Out.Answers w.state w.fabric o a w'.fabric

/-- A session asks for admission. -/
def admitSession (w : World Out) (modelId : Bytes) : Option UInt64 × World Out :=
  match w.state.admitSession modelId with
  | .error _ => (none, w)
  | .ok (admission, state) =>
    (some admission.epoch, { w with state, admissions := w.admissions ++ [admission] })

/-- A `Release` is called; only the first call of an admission counts. -/
def release (w : World Out) (index : Nat) : Option UInt64 × World Out :=
  match w.admissions[index]? with
  | none => (none, w)
  | some admission =>
    if admission.released then (none, w)
    else
      (if w.state.inFlightAt admission.epoch = 0 then none else some admission.epoch,
        { w with
          state := w.state.release admission.epoch
          admissions := w.admissions.set index { admission with released := true } })

/-- A step of the sessions or of the fabric. -/
def env (w : World Out) : SessionEvent → World Out → Prop
  | .admitSession modelId epoch, w' => (epoch, w') = w.admitSession modelId
  | .release index epoch, w' => (epoch, w') = w.release index
  | .fabric, w' => ∃ f, Out.step w.fabric f ∧ w' = { w with fabric := f }

/-- A coordinator that has just started. -/
def Init (w : World Out) : Prop := w.state = {} ∧ w.admissions = [] ∧ Out.init w.fabric

end World

variable (Out) in
/-- The shared state of the controller's programs. -/
def coordinator : Shared ControllerOp Answer (World Out) SessionEvent where
  exec := World.exec
  env := World.env

theorem coordinator_admitSession (w : World Out) (modelId : Bytes) :
    (coordinator Out).env w (.admitSession modelId (w.admitSession modelId).1) (w.admitSession modelId).2 := rfl

theorem coordinator_release (w : World Out) (index : Nat) :
    (coordinator Out).env w (.release index (w.release index).1) (w.release index).2 := rfl

variable (Out) in
/-- The controller, one call at a time, with sessions coming and going. -/
def coordinatorServer (c : DeploymentController) :
    LTS (Controlled Unit × World Out)
      (DeploymentController.Call ⊕ Event ControllerOp Answer SessionEvent) :=
  (coordinator Out).server World.Init c.start

/-- An event of a run of the coordinator. -/
abbrev CoordinatorEvent : Type := Event ControllerOp Answer SessionEvent

variable (Out) in
/-- The methods of the deployment state in any order, and the sessions. -/
def deploymentMethods : LTS (World Out) CoordinatorEvent where
  init := World.Init
  step w e w' := match e with
    | .op o a => w.exec o a w'
    | .env e => w.env e w'

/-- The coordinator calls the methods. -/
theorem deploymentMethods_step {c : DeploymentController} {x y : Controlled Unit × World Out}
    {e : CoordinatorEvent} (h : (coordinatorServer Out c).step x (.inr e) y) :
    (deploymentMethods Out).step x.2 e y.2 := by
  cases h with
  | step h =>
    cases h with
    | op h => exact h
    | env h => exact h

/-- The world with the events so far. -/
abbrev Logged (Out : Outside) : Type := World Out × List CoordinatorEvent

end JetsonFabric
