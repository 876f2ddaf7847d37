import JetsonFabric.Coordinator.Epochs

/-!
# Programs that only talk to the outside

Between two changes of the deployment state the controller reads members and clocks and calls
runtimes. `Quiet` is what such a stretch leaves unchanged; `Gathers` is the form of the results
about it: the program keeps what is known of the events so far and adds to it.
-/

namespace JetsonFabric

open Std Contract

variable {Out : Outside}

/-! ## Guards -/

/-- The plan is in preparation, or its sessions are over. -/
def Unloadable (identity : DeploymentIdentity) (s : DeploymentState)
    (log : List CoordinatorEvent) : Prop :=
  (∃ plan, s.preparing = some plan ∧ runtimeDeploymentIdentity plan = identity) ∨
    .op (.waitForEpoch identity.epoch) none ∈ log

/-- A stage acknowledged with a status that passed the check. -/
def Confirmed (plan : DeploymentPlan) (stage : Stage) (request : RuntimeRequest) (state : Bytes)
    (active : Bool) (log : List CoordinatorEvent) : Prop :=
  ∃ status, .op (.receive stage.apiUrl request) (.ok status) ∈ log ∧
    validateRuntimeStatus status plan stage state active = none

/-- Every stage acknowledged that it is ready. -/
def AllReady (plan : DeploymentPlan) (log : List CoordinatorEvent) : Prop :=
  ∀ stage ∈ plan.stages, ∃ request, Confirmed plan stage (.load request) (str "ready") false log

/-- Every stage acknowledged that it is active. -/
def AllActive (plan : DeploymentPlan) (log : List CoordinatorEvent) : Prop :=
  ∀ stage ∈ plan.stages, Confirmed plan stage (.activate (runtimeDeploymentIdentity plan))
    (str "active") true log

/-- No unload was sent. -/
def NoUnload (log : List CoordinatorEvent) : Prop :=
  ∀ node identity, .op (.send node (.unload identity)) () ∉ log

/-- Every stage acknowledged ready and then active. -/
def Prepared (plan : DeploymentPlan) (log : List CoordinatorEvent) : Prop :=
  ∃ before previous ready active,
    log = before ++ .op (.beginTransition plan) (.ok previous) :: (ready ++ active) ∧
      AllReady plan ready ∧ AllActive plan active ∧ NoUnload (ready ++ active)

/-- When the controller asks for an operation. -/
def protocolGuard (o : ControllerOp) (s : DeploymentState) (log : List CoordinatorEvent) : Prop :=
  match o with
  | .publish plan _ => s.preparing = some plan ∧ Prepared plan log
  | .rollback plan _ _ _ => s.preparing = some plan
  | .recordReconcileError _ _ => s.preparing = none
  | .waitForEpoch epoch => epoch ∈ s.draining
  | .send _ (.unload identity) => Unloadable identity s log
  | _ => True

/-- A contract with the guards of the controller. -/
structure Protocol (C : Contract (coordinator Out).logged) : Prop where
  guard : ∀ o x, C.guard o x ↔ protocolGuard o x.1.state x.2

/-! ## Quiet stretches -/

/-- The operation leaves the deployment state alone. -/
def ControllerOp.outward : ControllerOp → Bool
  | .snapshot | .activeIntent | .members | .now | .wallClock | .isLeader _ | .probe _
  | .send _ _ | .receive _ _ => true
  | _ => false

theorem ControllerOp.apply_outward {o : ControllerOp} (h : o.outward) (s : DeploymentState) :
    o.apply s = s := by
  cases o <;> first | rfl | cases h

/-- The event admits a session at the epoch. -/
def admitsAt (epoch : UInt64) : CoordinatorEvent → Bool
  | .env (.admitSession _ (some e)) => e = epoch
  | _ => false

/-- The event lowers the count of the epoch. -/
def releasesAt (epoch : UInt64) : CoordinatorEvent → Bool
  | .env (.release _ (some e)) => e = epoch
  | _ => false

/-- The state after events that only admit and release sessions. -/
structure Quiet (s₀ s : DeploymentState) (events : List CoordinatorEvent) : Prop where
  phase : s.phase = s₀.phase
  active : s.active = s₀.active
  preparing : s.preparing = s₀.preparing
  draining : s.draining = s₀.draining
  intent : s.intent = s₀.intent
  lastEpoch : s.lastEpoch = s₀.lastEpoch
  inFlight : ∀ e, s.inFlightAt e + events.countP (releasesAt e) =
    s₀.inFlightAt e + events.countP (admitsAt e)

namespace Quiet

variable {s₀ s₁ s : DeploymentState} {t u : List CoordinatorEvent}

theorem refl (s : DeploymentState) : Quiet s s [] :=
  ⟨rfl, rfl, rfl, rfl, rfl, rfl, fun _ => rfl⟩

theorem trans (h : Quiet s₀ s₁ t) (h' : Quiet s₁ s u) : Quiet s₀ s (t ++ u) := by
  refine ⟨h'.phase.trans h.phase, h'.active.trans h.active, h'.preparing.trans h.preparing,
    h'.draining.trans h.draining, h'.intent.trans h.intent, h'.lastEpoch.trans h.lastEpoch, ?_⟩
  intro e
  have h₁ := h.inFlight e
  have h₂ := h'.inFlight e
  rw [List.countP_append, List.countP_append]
  omega

theorem exec {w w' : World Out} {o : ControllerOp} {a : Answer o} (ho : o.outward)
    (h : w.exec o a w') : Quiet w.state w'.state [.op o a] := by
  rw [h.1, ControllerOp.apply_outward ho]
  exact ⟨rfl, rfl, rfl, rfl, rfl, rfl, fun _ => rfl⟩

theorem admitSession (w : World Out) (modelId : Bytes) :
    Quiet w.state (w.admitSession modelId).2.state [.env (.admitSession modelId (w.admitSession modelId).1)] := by
  unfold World.admitSession
  cases ha : w.state.admitSession modelId with
  | error e => exact ⟨rfl, rfl, rfl, rfl, rfl, rfl, fun _ => rfl⟩
  | ok q =>
    obtain ⟨admission, state⟩ := q
    obtain ⟨-, -, rfl, rfl⟩ := DeploymentState.admitSession_eq_ok ha
    refine ⟨rfl, rfl, rfl, rfl, rfl, rfl, ?_⟩
    intro e
    rw [DeploymentState.inFlightAt_insert (s := w.state) _ e _ _ rfl]
    by_cases he : e = w.state.activeEpoch
    · subst he
      simp [releasesAt, admitsAt]
    · have he' : w.state.activeEpoch ≠ e := fun x => he x.symm
      simp [releasesAt, admitsAt, he, he']

theorem release (w : World Out) (index : Nat) :
    Quiet w.state (w.release index).2.state [.env (.release index (w.release index).1)] := by
  unfold World.release
  cases ha : w.admissions[index]? with
  | none => exact ⟨rfl, rfl, rfl, rfl, rfl, rfl, fun _ => rfl⟩
  | some a =>
    dsimp only
    by_cases hr : a.released
    · rw [if_pos hr]
      exact ⟨rfl, rfl, rfl, rfl, rfl, rfl, fun _ => rfl⟩
    rw [if_neg hr]
    obtain ⟨inFlight, hs⟩ := DeploymentState.release_eq (s := w.state) a.epoch
    refine ⟨?_, ?_, ?_, ?_, ?_, ?_, ?_⟩
    case refine_7 =>
      intro e
      rw [DeploymentState.inFlightAt_release]
      by_cases h0 : w.state.inFlightAt a.epoch = 0
      · by_cases he : e = a.epoch
        · simp [releasesAt, admitsAt, he, h0]
        · simp [releasesAt, admitsAt, he, h0]
      · by_cases he : e = a.epoch
        · simp [releasesAt, admitsAt, he, h0]
          omega
        · have he' : a.epoch ≠ e := fun x => he x.symm
          simp [releasesAt, admitsAt, he, he', h0]
    all_goals rw [hs]

theorem env {w w' : World Out} {e : SessionEvent} (h : w.env e w') :
    Quiet w.state w'.state [.env e] := by
  cases e with
  | admitSession modelId epoch =>
    obtain ⟨rfl, rfl⟩ := Prod.mk.inj (h : (epoch, w') = w.admitSession modelId)
    exact admitSession w modelId
  | release index epoch =>
    obtain ⟨rfl, rfl⟩ := Prod.mk.inj (h : (epoch, w') = w.release index)
    exact release w index
  | fabric =>
    obtain ⟨f, -, rfl⟩ := h
    exact ⟨rfl, rfl, rfl, rfl, rfl, rfl, fun _ => rfl⟩

end Quiet

/-! ## What a stretch adds -/

/-- The property of the events holds on after more of them. -/
def Persistent (T : List CoordinatorEvent → Prop) : Prop := ∀ t u, T t → T (t ++ u)

/-- The operations of a stretch that unloads only what `U` names. -/
def Stretch (U : DeploymentIdentity → Prop) (o : ControllerOp) : Prop :=
  o.outward ∧ ∀ node identity, o = .send node (.unload identity) → U identity

/-- The property of the events holds on during a stretch. -/
def Lasting (U : DeploymentIdentity → Prop) (T : List CoordinatorEvent → Prop) : Prop :=
  ∀ t, T t → (∀ e, T (t ++ [.env e])) ∧ ∀ o a, Stretch U o → T (t ++ [.op o a])

/-- A stretch of events since a state and its log. -/
def Since (s₀ : DeploymentState) (h : List CoordinatorEvent) (T : List CoordinatorEvent → Prop)
    (x : Logged Out) : Prop :=
  ∃ t, x.2 = h ++ t ∧ Quiet s₀ x.1.state t ∧ T t

/-- A stretch keeps the assertion. -/
def QuietStable (P : Logged Out → Prop) : Prop :=
  ∀ x y t, P x → y.2 = x.2 ++ t → Quiet x.1.state y.1.state t → P y

variable {U : DeploymentIdentity → Prop}

theorem Persistent.lasting {T : List CoordinatorEvent → Prop} (h : Persistent T) : Lasting U T :=
  fun t ht => ⟨fun _ => h t _ ht, fun _ _ _ => h t _ ht⟩

theorem Lasting.and {T T' : List CoordinatorEvent → Prop} (h : Lasting U T)
    (h' : Lasting U T') : Lasting U fun t => T t ∧ T' t := by
  rintro t ⟨ht, ht'⟩
  refine ⟨fun e => ⟨(h t ht).1 e, (h' t ht').1 e⟩, fun o a ho => ?_⟩
  exact ⟨(h t ht).2 o a ho, (h' t ht').2 o a ho⟩

theorem persistent_mem (e : CoordinatorEvent) : Persistent fun t => e ∈ t :=
  fun _ _ h => List.mem_append_left _ h

theorem Persistent.imp {p : Prop} {T : List CoordinatorEvent → Prop} (h : Persistent T) :
    Persistent fun t => p → T t :=
  fun t u ht hp => h t u (ht hp)

theorem Persistent.all {α : Type} {xs : List α} {T : α → List CoordinatorEvent → Prop}
    (h : ∀ x, Persistent (T x)) : Persistent fun t => ∀ x ∈ xs, T x t :=
  fun t u ht x hx => h x t u (ht x hx)

theorem persistent_confirmed (plan : DeploymentPlan) (stage : Stage) (request : RuntimeRequest)
    (state : Bytes) (active : Bool) : Persistent (Confirmed plan stage request state active) := by
  rintro t u ⟨status, hm, hv⟩
  exact ⟨status, List.mem_append_left _ hm, hv⟩

theorem lasting_noUnload : Lasting (fun _ => False) NoUnload := by
  intro t ht
  refine ⟨fun e node identity hm => ?_, fun o a ho node identity hm => ?_⟩
  · rcases List.mem_append.mp hm with hm | hm
    · exact ht node identity hm
    · cases List.mem_singleton.mp hm
  · rcases List.mem_append.mp hm with hm | hm
    · exact ht node identity hm
    · cases List.mem_singleton.mp hm
      exact ho.2 node identity rfl

theorem Unloadable.mono {identity : DeploymentIdentity} {s₀ s : DeploymentState}
    {h t : List CoordinatorEvent} (hu : Unloadable identity s₀ h) (hq : Quiet s₀ s t) :
    Unloadable identity s (h ++ t) := by
  rcases hu with ⟨plan, hp, hi⟩ | hm
  · exact .inl ⟨plan, hq.preparing.trans hp, hi⟩
  · exact .inr (List.mem_append_left _ hm)

variable (C : Contract (coordinator Out).logged)

/-- During a stretch the program adds `D` to what is known. -/
structure Gathers {α : Type} (U : DeploymentIdentity → Prop) (p : Controlled α)
    (D : α → List CoordinatorEvent → Prop) : Prop where
  persistent : ∀ r, Persistent (D r)
  triple : ∀ s₀ h T, (∀ identity, U identity → Unloadable identity s₀ h) → Lasting U T →
    C.Triple (Since s₀ h T) p fun r => Since s₀ h fun t => T t ∧ D r t

variable {C}

theorem Since.stable {s₀ : DeploymentState} {h : List CoordinatorEvent}
    {T : List CoordinatorEvent → Prop} (hT : Lasting U T) : C.Stable (Since s₀ h T) := by
  rintro x e y - ⟨t, hx, hq, ht⟩ ⟨henv, hlog⟩
  refine ⟨t ++ [.env e], ?_, hq.trans (.env henv), (hT t ht).1 e⟩
  rw [hlog, hx, List.append_assoc]

theorem Since.exec {s₀ : DeploymentState} {h : List CoordinatorEvent}
    {T T' : List CoordinatorEvent → Prop} {x y : Logged Out} {o : ControllerOp} {a : Answer o}
    (hs : Since s₀ h T x) (ho : o.outward) (hx : (coordinator Out).logged.exec o x a y)
    (hT : ∀ t, T t → T' (t ++ [.op o a])) : Since s₀ h T' y := by
  obtain ⟨t, hlog, hq, ht⟩ := hs
  refine ⟨t ++ [.op o a], ?_, hq.trans (.exec ho hx.1), hT t ht⟩
  rw [hx.2, hlog, List.append_assoc]

theorem Since.quietStable {s₀ : DeploymentState} {h : List CoordinatorEvent}
    {T : List CoordinatorEvent → Prop} (hT : Persistent T) :
    QuietStable (Since s₀ h T : Logged Out → Prop) := by
  rintro x y u ⟨t, hx, hq, ht⟩ hlog hu
  refine ⟨t ++ u, ?_, hq.trans hu, hT t u ht⟩
  rw [hlog, hx, List.append_assoc]

theorem QuietStable.stable {P : Logged Out → Prop} (h : QuietStable P) : C.Stable P :=
  fun x e y _ hx hs => h x y [.env e] hx hs.2 (.env hs.1)

namespace Gathers

variable {α β : Type} {D : α → List CoordinatorEvent → Prop}

theorem weaken {D' : α → List CoordinatorEvent → Prop} {p : Controlled α} (h : Gathers C U p D)
    (hD : ∀ r t, D r t → D' r t) (hp : ∀ r, Persistent (D' r)) : Gathers C U p D' where
  persistent := hp
  triple s₀ log T hU hT := (h.triple s₀ log T hU hT).consequence (fun _ _ hx => hx) (by
    rintro r x ⟨t, hlog, hq, ht, hd⟩
    exact ⟨t, hlog, hq, ht, hD r t hd⟩)

theorem done {a : α} (hp : ∀ r, Persistent (D r)) (h : ∀ t, D a t) :
    Gathers C U (.done a) D where
  persistent := hp
  triple s₀ log T hU hT := by
    refine Triple.done (Since.stable (hT.and (hp a).lasting)) ?_
    rintro x - ⟨t, hlog, hq, ht⟩
    exact ⟨t, hlog, hq, ht, h t⟩

theorem bind {p : Controlled α} {f : α → Controlled β} {D₁ : α → List CoordinatorEvent → Prop}
    {D₂ : α → β → List CoordinatorEvent → Prop} {D : β → List CoordinatorEvent → Prop}
    (hp : Gathers C U p D₁) (hf : ∀ a, Gathers C U (f a) (D₂ a))
    (hD : ∀ a r t, D₁ a t → D₂ a r t → D r t) (hpers : ∀ r, Persistent (D r)) :
    Gathers C U (p.bind f) D where
  persistent := hpers
  triple s₀ log T hU hT := by
    refine (hp.triple s₀ log T hU hT).bind fun a => ?_
    refine ((hf a).triple s₀ log _ hU (hT.and (hp.persistent a).lasting)).consequence
      (fun _ _ hx => hx) ?_
    rintro r x ⟨t, hlog, hq, ⟨ht, hd₁⟩, hd₂⟩
    exact ⟨t, hlog, hq, ht, hD a r t hd₁ hd₂⟩

/-- One stretch after another, with the order of their events. -/
theorem seq {p : Controlled α} {f : α → Controlled β} {D₁ : α → List CoordinatorEvent → Prop}
    {D₂ : α → β → List CoordinatorEvent → Prop} (hp : Gathers C U p D₁)
    (hf : ∀ a, Gathers C U (f a) (D₂ a)) :
    Gathers C U (p.bind f) fun r t => ∃ a t₁ t₂, t = t₁ ++ t₂ ∧ D₁ a t₁ ∧ D₂ a r t₂ where
  persistent := by
    rintro r t u ⟨a, t₁, t₂, rfl, h₁, h₂⟩
    exact ⟨a, t₁, t₂ ++ u, List.append_assoc _ _ _, h₁, (hf a).persistent r _ _ h₂⟩
  triple s₀ log T hU hT := by
    refine (hp.triple s₀ log T hU hT).bind fun a => ?_
    rintro x hi ⟨t₁, hlog, hq, ht, hd₁⟩
    have hT₂ : Lasting U fun t => T (t₁ ++ t) := by
      intro t ht
      simp only [← List.append_assoc]
      exact hT (t₁ ++ t) ht
    have hU₂ : ∀ identity, U identity → Unloadable identity x.1.state (log ++ t₁) :=
      fun identity hu => (hU identity hu).mono hq
    have htriple := (hf a).triple x.1.state (log ++ t₁) _ hU₂ hT₂
    refine (htriple.consequence (fun _ _ hx => hx) ?_) x hi
      ⟨[], by rw [hlog, List.append_nil], .refl _, by simpa using ht⟩
    rintro r y ⟨t₂, hlog₂, hq₂, ht₂, hd₂⟩
    refine ⟨t₁ ++ t₂, ?_, hq.trans hq₂, ht₂, a, t₁, t₂, rfl, hd₁, hd₂⟩
    rw [hlog₂, List.append_assoc]

section

variable (hC : Protocol C)
include hC

theorem perform {o : ControllerOp} {D : Answer o → List CoordinatorEvent → Prop}
    (ho : Stretch U o) (hp : ∀ a, Persistent (D a)) (h : ∀ a t, D a (t ++ [.op o a])) :
    Gathers C U (operation o) D where
  persistent := hp
  triple s₀ log T hU hT := by
    refine Triple.perform (Since.stable hT)
      (fun a => Since.stable (hT.and (hp a).lasting)) ?_ ?_
    · rintro x - ⟨t, hlog, hq, ht⟩
      rw [hC.guard, hlog]
      cases o with
      | send node request =>
        cases request with
        | unload identity => exact (hU identity (ho.2 node identity rfl)).mono hq
        | _ => trivial
      | publish _ _ => cases ho.1
      | rollback _ _ _ _ => cases ho.1
      | recordReconcileError _ _ => cases ho.1
      | waitForEpoch _ => cases ho.1
      | _ => trivial
    · intro x a y _ hx hexec
      exact hx.exec ho.1 hexec fun t ht => ⟨(hT t ht).2 o a ho, h a t⟩

/-- A call is sent and answered. -/
theorem call (node : Bytes) {request : RuntimeRequest}
    (hr : ∀ identity, request = .unload identity → U identity) :
    Gathers C U (call node request) fun r t =>
      .op (.send node request) () ∈ t ∧ .op (.receive node request) r ∈ t := by
  have hsend : Stretch U (.send node request) := by
    refine ⟨rfl, fun n identity he => hr identity ?_⟩
    cases he
    rfl
  have hreceive : Stretch U (.receive node request) := ⟨rfl, fun n identity he => by cases he⟩
  have hfirst : Gathers C U (operation (.send node request))
      fun _ t => .op (.send node request) () ∈ t :=
    perform hC hsend (fun _ => persistent_mem _) fun a t => by simp
  have hthen : Gathers C U (operation (.receive node request))
      fun r t => .op (.receive node request) r ∈ t :=
    perform hC hreceive (fun r => persistent_mem _) fun a t => by simp
  refine hfirst.bind (fun _ => hthen) (fun _ r t h₁ h₂ => ⟨h₁, h₂⟩) ?_
  exact fun r t u h => ⟨persistent_mem _ t u h.1, persistent_mem _ t u h.2⟩

end

/-- During a stretch an assertion that such stretches keep is kept. -/
theorem keeps {p : Controlled α} {P : Logged Out → Prop} (h : Gathers C U p D)
    (hP : QuietStable P)
    (hU : ∀ x, P x → ∀ identity, U identity → Unloadable identity x.1.state x.2) :
    C.Triple P p fun _ => P := by
  intro x hi hx
  have htriple := h.triple x.1.state x.2 (fun _ => True) (hU x hx)
    fun _ _ => ⟨fun _ => trivial, fun _ _ _ => trivial⟩
  refine (htriple.consequence (fun _ _ hy => hy) ?_) x hi ⟨[], by simp, .refl _, trivial⟩
  rintro r y ⟨t, hlog, hq, -⟩
  exact hP x y t hx hlog hq

end Gathers

end JetsonFabric
