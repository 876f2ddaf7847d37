import JetsonFabric.Lib.Prog

/-!
# Contracts of programs

Rely-guarantee rules for a program on a shared state. A `Contract` names an invariant that the
steps of the others keep and that each operation keeps under its guard; a `Triple` says that a
program, started where its precondition holds, asks for an operation only when its guard holds
and ends where its postcondition holds, whatever the others do in between.
-/

variable {O : Type} {A : O → Type} {σ E α β : Type}

/-- An invariant of the shared state, and the guards of operations. -/
structure Contract (S : Shared O A σ E) where
  inv : σ → Prop
  guard : O → σ → Prop
  inv_env : ∀ {s e s'}, inv s → S.env s e s' → inv s'
  inv_exec : ∀ {o s a s'}, inv s → guard o s → S.exec o s a s' → inv s'

namespace Contract

variable {S : Shared O A σ E} (C : Contract S)

/-- The others keep the assertion. -/
def Stable (P : σ → Prop) : Prop := ∀ s e s', C.inv s → P s → S.env s e s' → P s'

/-- From a state the program keeps the contract and ends in `Q`. -/
def Safe (Q : α → σ → Prop) : Prog O A α → σ → Prop
  | .done a, s => ∀ s', Relation.ReflTransGen (fun x y => ∃ e, S.env x e y) s s' → Q a s'
  | .ask o k, s => ∀ s', Relation.ReflTransGen (fun x y => ∃ e, S.env x e y) s s' →
      C.guard o s' ∧ ∀ a t, S.exec o s' a t → Safe Q (k a) t

/-- The program keeps the contract from every state in `P` and ends in `Q`. -/
def Triple (P : σ → Prop) (p : Prog O A α) (Q : α → σ → Prop) : Prop :=
  ∀ s, C.inv s → P s → C.Safe Q p s

variable {C}

theorem Stable.and {P Q : σ → Prop} (hP : C.Stable P) (hQ : C.Stable Q) :
    C.Stable fun s => P s ∧ Q s :=
  fun s e s' hi h he => ⟨hP s e s' hi h.1 he, hQ s e s' hi h.2 he⟩

theorem Stable.exists {ι : Type} {P : ι → σ → Prop} (h : ∀ i, C.Stable (P i)) :
    C.Stable fun s => ∃ i, P i s := by
  rintro s e s' hi ⟨i, hp⟩ he
  exact ⟨i, h i s e s' hi hp he⟩

theorem Stable.const (P : Prop) : C.Stable fun _ : σ => P := fun _ _ _ _ h _ => h

theorem Stable.envs {P : σ → Prop} (hP : C.Stable P) {s s' : σ} (hi : C.inv s) (h : P s)
    (he : Relation.ReflTransGen (fun x y => ∃ e, S.env x e y) s s') : C.inv s' ∧ P s' := by
  induction he with
  | refl => exact ⟨hi, h⟩
  | tail _ hs ih =>
    obtain ⟨e, hs⟩ := hs
    exact ⟨C.inv_env ih.1 hs, hP _ e _ ih.1 ih.2 hs⟩

variable {p : Prog O A α}

theorem Safe.envs {Q : α → σ → Prop} {s s' : σ} (h : C.Safe Q p s)
    (he : Relation.ReflTransGen (fun x y => ∃ e, S.env x e y) s s') : C.Safe Q p s' := by
  cases p with
  | done a => exact fun t ht => h t (he.trans ht)
  | ask o k => exact fun t ht => h t (he.trans ht)

variable {x y : Prog O A α × σ}

theorem Safe.step {Q : α → σ → Prop} {e : Event O A E}
    (h : C.Safe Q x.1 x.2) (hs : S.Step x e y) : C.Safe Q y.1 y.2 := by
  cases hs with
  | op hx => exact (h _ .refl).2 _ _ hx
  | env he => exact h.envs (.single ⟨_, he⟩)

/-- The guard of an operation that a safe program takes. -/
theorem Safe.guard {Q : α → σ → Prop} {o : O} {k : A o → Prog O A α} {s : σ}
    (h : C.Safe Q (.ask o k) s) : C.guard o s :=
  (h s .refl).1

namespace Triple

variable {P P' : σ → Prop} {Q Q' : α → σ → Prop}

theorem done {a : α} (hQ : C.Stable (Q a)) (h : ∀ s, C.inv s → P s → Q a s) :
    C.Triple P (.done a) Q := by
  intro s hi hp s' he
  exact (hQ.envs hi (h s hi hp) he).2

theorem ask {o : O} {k : A o → Prog O A α} (R : A o → σ → Prop) (hP : C.Stable P)
    (hg : ∀ s, C.inv s → P s → C.guard o s)
    (hx : ∀ s a s', C.inv s → P s → S.exec o s a s' → R a s')
    (hk : ∀ a, C.Triple (R a) (k a) Q) : C.Triple P (.ask o k) Q := by
  intro s hi hp s' he
  obtain ⟨hi', hp'⟩ := hP.envs hi hp he
  have hguard := hg s' hi' hp'
  refine ⟨hguard, fun a t ht => ?_⟩
  exact hk a t (C.inv_exec hi' hguard ht) (hx s' a t hi' hp' ht)

/-- One operation. -/
theorem perform {o : O} {R : A o → σ → Prop} (hP : C.Stable P) (hR : ∀ a, C.Stable (R a))
    (hg : ∀ s, C.inv s → P s → C.guard o s)
    (hx : ∀ s a s', C.inv s → P s → S.exec o s a s' → R a s') :
    C.Triple P (Prog.perform o) R :=
  ask R hP hg hx fun a => done (hR a) fun _ _ h => h

theorem bind {f : α → Prog O A β} {R : α → σ → Prop} {Q : β → σ → Prop}
    (hp : C.Triple P p R) (hf : ∀ a, C.Triple (R a) (f a) Q) : C.Triple P (p.bind f) Q := by
  intro s hi hs
  have hsafe := hp s hi hs
  clear hs hp
  induction p generalizing s with
  | done a => exact hf a s hi (hsafe s .refl)
  | ask o k ih =>
    intro s' he
    obtain ⟨hg, hk⟩ := hsafe s' he
    have hi' : C.inv s' :=
      ((Stable.const True).envs hi trivial he).1
    exact ⟨hg, fun a t ht => ih a t (C.inv_exec hi' hg ht) (hk a t ht)⟩

theorem consequence (h : C.Triple P p Q) (hP : ∀ s, C.inv s → P' s → P s)
    (hQ : ∀ a s, Q a s → Q' a s) : C.Triple P' p Q' := by
  intro s hi hp
  have hsafe := h s hi (hP s hi hp)
  clear hp h
  induction p generalizing s with
  | done a => exact fun s' he => hQ a s' (hsafe s' he)
  | ask o k ih =>
    intro s' he
    obtain ⟨hg, hk⟩ := hsafe s' he
    have hi' : C.inv s' := ((Stable.const True).envs hi trivial he).1
    exact ⟨hg, fun a t ht => ih a t (C.inv_exec hi' hg ht) (hk a t ht)⟩

theorem strengthen (h : C.Triple P p Q) (hP : ∀ s, C.inv s → P' s → P s) :
    C.Triple P' p Q :=
  fun s hi hp => h s hi (hP s hi hp)

/-- A program whose operations are allowed keeps the contract. -/
theorem of_all {ok : O → Prop} (hp : p.All ok) (hg : ∀ o s, ok o → C.inv s → C.guard o s) :
    C.Triple (fun _ => True) p fun _ _ => True := by
  induction p with
  | done a => exact .done (.const True) fun _ _ h => h
  | ask o k ih =>
    exact .ask (fun _ _ => True) (.const True) (fun s hi _ => hg o s hp.1 hi)
      (fun _ _ _ _ _ _ => trivial) fun a => ih a (hp.2 a)

theorem of_fact {F : Prop} (h : F → C.Triple (fun _ => True) p Q) :
    C.Triple (fun _ => F) p Q :=
  fun s hi hf => h hf s hi trivial

theorem exists_pre {ι : Type} {P : ι → σ → Prop}
    (h : ∀ i, C.Triple (P i) p Q) : C.Triple (fun s => ∃ i, P i s) p Q := by
  rintro s hi ⟨i, hp⟩
  exact h i s hi hp

end Triple

/-! ## Runs -/

variable (C) in
/-- Guarded operations and steps of the others, without programs. -/
inductive MachineStep : σ → Event O A E → σ → Prop
  | op {o : O} {s s' : σ} {a : A o} (hg : C.guard o s) (h : S.exec o s a s') :
      MachineStep s (.op o a) s'
  | env {s s' : σ} {e : E} (h : S.env s e s') : MachineStep s (.env e) s'

variable (C) in
/-- The system of the guarded operations. -/
def machine (init : σ → Prop) : LTS σ (Event O A E) where
  init := init
  step := C.MachineStep

/-- The invariant of a contract is one of its machine. -/
theorem machine_inductive {init : σ → Prop} (h0 : ∀ s, init s → C.inv s) :
    (C.machine init).Inductive C.inv where
  init := h0
  step := by
    intro s e s' hi hs
    cases hs with
    | op hg h => exact C.inv_exec hi hg h
    | env h => exact C.inv_env hi h

theorem Safe.machineStep {Q : α → σ → Prop} {e : Event O A E}
    (h : C.Safe Q x.1 x.2) (hs : S.Step x e y) : C.MachineStep x.2 e y.2 := by
  cases hs with
  | op hx => exact .op h.guard hx
  | env he => exact .env he

/-- A run of a safe program is a run of the machine. -/
theorem Safe.run {Q : α → σ → Prop} {events : List (Event O A E)}
    (h : C.Safe Q x.1 x.2) (init : σ → Prop) (hr : S.program.Run x events y) :
    (C.machine init).Run x.2 events y.2 ∧ C.Safe Q y.1 y.2 := by
  induction hr with
  | nil x => exact ⟨.nil _, h⟩
  | cons hs _ ih =>
    obtain ⟨hrun, hsafe⟩ := ih (h.step hs)
    exact ⟨.cons (h.machineStep hs) hrun, hsafe⟩

/-- The guard of every operation of a safe program held. -/
theorem Safe.guard_of_mem {Q : α → σ → Prop} {events : List (Event O A E)}
    (h : C.Safe Q x.1 x.2) (hr : S.program.Run x events y) {o : O} {a : A o}
    (hm : .op o a ∈ events) : ∃ s, C.guard o s := by
  obtain ⟨before, after, rfl⟩ := List.append_of_mem hm
  obtain ⟨u, v, hbefore, hs⟩ := hr.split
  obtain ⟨-, hu⟩ := h.run (fun _ => True) hbefore
  cases hs with
  | op _ => exact ⟨_, hu.guard⟩

/-- **A server of programs that keep a contract refines its machine.** -/
theorem server_reachable {T : Type} {init : σ → Prop} {start : T → Prog O A Unit} {P : σ → Prop}
    (h0 : ∀ s, init s → C.inv s ∧ P s) (hP : C.Stable P)
    (hstart : ∀ c, C.Triple P (start c) fun _ => P) {x : Prog O A Unit × σ}
    (hr : (S.server init start).Reachable x) :
    (C.machine init).Reachable x.2 ∧ C.Safe (fun _ => P) x.1 x.2 := by
  have hmachine : (C.machine init).Inductive C.inv := machine_inductive fun s hs => (h0 s hs).1
  induction hr with
  | @init x h =>
    obtain ⟨p, s⟩ := x
    obtain ⟨rfl, hs⟩ := h
    refine ⟨.init hs, fun s' he => (hP.envs (h0 s hs).1 (h0 s hs).2 he).2⟩
  | step _ hs ih =>
    obtain ⟨hreach, hsafe⟩ := ih
    cases hs with
    | start c s => exact ⟨hreach, hstart c s (hmachine.reachable hreach) (hsafe s .refl)⟩
    | step h => exact ⟨hreach.step (hsafe.machineStep h), hsafe.step h⟩

end Contract
