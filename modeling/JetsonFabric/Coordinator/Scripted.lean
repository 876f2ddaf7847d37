import JetsonFabric.Coordinator.Protocol

/-!
# Scripted surroundings

Surroundings that may answer anything, and scripts that fix their answers. A call of the
controller under a script can be evaluated, and the world it ends in is reachable.
-/

namespace JetsonFabric

open Std DeploymentController

/-- Surroundings that may answer anything. -/
def anyOutside : Outside where
  Fabric := Unit
  init _ := True
  members _ := True
  now _ := True
  wallClock _ := True
  isLeader _ _ := True
  probe _ _ := True
  send _ _ _ _ := True
  reply _ _ _ _ _ := True
  step _ _ := True

/-- Fixed answers of the surroundings. -/
structure Script where
  members : List Member
  now : Time := 1
  leader : Bool := true
  probe : Bytes → ProbeAnswer := fun _ => .unreachable []
  reply : Bytes → RuntimeRequest → Except Err RuntimeStatus
  waitError : Err := .of (str "context deadline exceeded")

namespace Script

variable (script : Script)

/-- The answer to an operation in a deployment state. -/
def value (s : DeploymentState) : (o : ControllerOp) → Answer o
  | .snapshot => s.snapshot
  | .beginTransition next => (s.beginTransition next).1
  | .publish plan intent => (s.publish plan intent).1
  | .rollback _ _ _ _ => ()
  | .recordReconcileError _ _ => ()
  | .waitForEpoch epoch => if s.inFlightAt epoch = 0 then none else some script.waitError
  | .finishDraining _ => ()
  | .activeIntent => s.activeIntent
  | .members => script.members
  | .now => script.now
  | .wallClock => script.now
  | .isLeader _ => script.leader
  | .probe url => script.probe url
  | .send _ _ => ()
  | .receive node request => script.reply node request

/-- The answer to an operation, and the world after it. -/
def answer (o : ControllerOp) (w : World anyOutside) : Answer o × World anyOutside :=
  (script.value w.state o, { w with state := o.apply w.state })

/-- The surroundings allow the answers of the script and stay as they are. -/
structure Fits (Out : Outside) (f : Out.Fabric) : Prop where
  members : Out.members script.members
  now : Out.now script.now
  wallClock : Out.wallClock script.now
  isLeader : ∀ now, Out.isLeader now script.leader
  probe : ∀ url, Out.probe url (script.probe url)
  send : ∀ node request, Out.send f node request f
  reply : ∀ node request, Out.reply f node request (script.reply node request) f

variable {script}

theorem Fits.answers {Out : Outside} {f : Out.Fabric} (h : script.Fits Out f)
    (s : DeploymentState) (o : ControllerOp) : Out.Answers s f o (script.value s o) f := by
  cases o with
  | waitForEpoch epoch =>
    refine ⟨?_, rfl⟩
    show s.WaitForEpoch epoch (if _ then _ else _)
    by_cases hcount : s.inFlightAt epoch = 0
    · rw [if_pos hcount]
      exact hcount
    · rw [if_neg hcount]
      exact Nat.pos_of_ne_zero hcount
  | members => exact ⟨h.members, rfl⟩
  | now => exact ⟨h.now, rfl⟩
  | wallClock => exact ⟨h.wallClock, rfl⟩
  | isLeader now => exact ⟨h.isLeader now, rfl⟩
  | probe url => exact ⟨h.probe url, rfl⟩
  | send node request => exact h.send node request
  | receive node request => exact h.reply node request
  | rollback _ _ _ _ => rfl
  | recordReconcileError _ _ => rfl
  | finishDraining _ => rfl
  | snapshot => exact ⟨rfl, rfl⟩
  | beginTransition _ => exact ⟨rfl, rfl⟩
  | publish _ _ => exact ⟨rfl, rfl⟩
  | activeIntent => exact ⟨rfl, rfl⟩

variable (script)

theorem exec_answer (o : ControllerOp) (w : World anyOutside) :
    (coordinator anyOutside).exec o w (script.answer o w).1 (script.answer o w).2 := by
  have hfits : script.Fits anyOutside w.fabric := by
    constructor <;> intros <;> trivial
  exact ⟨rfl, rfl, hfits.answers w.state o⟩

end Script

/-- A coordinator that has just started. -/
def startWorld : World anyOutside := { state := {}, admissions := [], fabric := () }

theorem reachable_start (c : DeploymentController) :
    (coordinatorServer anyOutside c).Reachable (.done (), startWorld) :=
  .init ⟨rfl, rfl, rfl, trivial⟩

/-- The world after a call under a script. -/
def DeploymentController.after (c : DeploymentController) (script : Script) (call : Call)
    (w : World anyOutside) : World anyOutside :=
  ((c.start call).eval script.answer w).2

variable {c : DeploymentController} {w : World anyOutside}

/-- **A call under a script is a run of the coordinator.** -/
theorem reachable_call
    (h : (coordinatorServer anyOutside c).Reachable (.done (), w)) (script : Script) (call : Call) :
    (coordinatorServer anyOutside c).Reachable (.done (), c.after script call w) := by
  have hstart := h.step (.start call w)
  exact Shared.reachable_run hstart (Shared.run_eval script.exec_answer (c.start call) w)

/-- A call under a script after some of its operations. -/
def DeploymentController.during (c : DeploymentController) (script : Script) (call : Call) (n : Nat)
    (w : World anyOutside) : Controlled Unit × World anyOutside :=
  (Prog.advance script.answer)^[n] (c.start call, w)

theorem reachable_during
    (h : (coordinatorServer anyOutside c).Reachable (.done (), w)) (script : Script) (call : Call)
    (n : Nat) : (coordinatorServer anyOutside c).Reachable (c.during script call n w) := by
  have hstart := h.step (.start call w)
  obtain ⟨events, hr⟩ := Shared.run_advance script.exec_answer n (c.start call, w)
  exact Shared.reachable_run hstart hr

/-- The next operation under a script is a step of the coordinator. -/
theorem step_during {script : Script} {call : Call} {n : Nat} {q : ControllerOp → Bool}
    (h : (c.during script call n w).1.next.any q) :
    ∃ o a, q o ∧ (coordinatorServer anyOutside c).step (c.during script call n w) (.inr (.op o a))
      (c.during script call (n + 1) w) := by
  obtain ⟨o, ho, hq⟩ := Option.any_eq_true _ _ |>.mp h
  refine ⟨o, (script.answer o (c.during script call n w).2).1, hq, ?_⟩
  have hsucc : c.during script call (n + 1) w =
      Prog.advance script.answer (c.during script call n w) :=
    Function.iterate_succ_apply' _ n _
  rw [hsucc]
  exact .step (Shared.step_advance script.exec_answer ho)

/-- A session asks for admission in a reachable world. -/
theorem reachable_admitSession
    (h : (coordinatorServer anyOutside c).Reachable (.done (), w)) (modelId : Bytes) :
    (coordinatorServer anyOutside c).Reachable (.done (), (w.admitSession modelId).2) :=
  h.step (.step (.env (coordinator_admitSession w modelId)))

/-- A `Release` is called in a reachable world. -/
theorem reachable_release
    (h : (coordinatorServer anyOutside c).Reachable (.done (), w)) (index : Nat) :
    (coordinatorServer anyOutside c).Reachable (.done (), (w.release index).2) :=
  h.step (.step (.env (coordinator_release w index)))

/-! ## A cluster of one node -/

/-- A controller with one member. -/
def sampleController : DeploymentController where
  platform := samplePlatform
  registry := { models := [sampleModel] }
  memberStaleAfter := 0
  planPolicy := {}

/-- The status of the sample model on the only node. -/
def sampleStatus (identity : DeploymentIdentity) (state : Bytes) (active : Bool) : RuntimeStatus where
  resident := true
  active := active
  state := state
  deployment := some identity
  modelMemory := some
    { layerStart := 0, layerEnd := 2, layerCount := 2
      residentWeightBytes := 1, totalWeightBytes := 1, residentTensorCount := 1
      partitioned := false, pinned := active }

/-- The answer of a runtime that does what it is asked. -/
def sampleReply : RuntimeRequest → RuntimeStatus
  | .status => {}
  | .load r => sampleStatus ⟨r.deploymentId, r.epoch, r.modelId, r.modelSha256⟩ (str "ready") false
  | .activate i => sampleStatus i (str "active") true
  | .drain i => { deployment := some i }
  | .unload i => { deployment := some i, state := str "idle" }

/-- The node fails the requests that `fails` names. -/
def sampleScript (fails : RuntimeRequest → Bool) : Script where
  members := [sampleMember]
  reply _ request :=
    if fails request then .error (.of (str "unreachable")) else .ok (sampleReply request)

/-- A specification of the sample model. -/
def sampleSpec : DeploymentSpec where
  deploymentId := str "deployment"
  modelId := str "model"

end JetsonFabric
