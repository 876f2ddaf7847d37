import Mathlib

/-!
# Labelled transition systems

Initial states, a step relation whose labels say what happened, and the ways the developments
below use them: invariants of the reachable states (`LTS.Inductive`), properties of the labels of
a run (`LTS.Run`) and of all its states (`LTS.History`). A step function gives such a system
(`LTS.ofNext`).
-/

/-- A labelled transition system. -/
structure LTS (σ A : Type*) where
  init : σ → Prop
  step : σ → A → σ → Prop

namespace LTS

variable {σ A : Type*} (M : LTS σ A)

/-- The states some run from an initial state reaches. -/
inductive Reachable : σ → Prop
  | init {s : σ} (h : M.init s) : Reachable s
  | step {s s' : σ} {a : A} (h : Reachable s) (hs : M.step s a s') : Reachable s'

/-- A finite run with its labels, in order. -/
inductive Run : σ → List A → σ → Prop
  | nil (s : σ) : Run s [] s
  | cons {s s' t : σ} {a : A} {as : List A} (hs : M.step s a s') (h : Run s' as t) :
      Run s (a :: as) t

/-- An inductive invariant: true at the start and kept by every step. -/
structure Inductive (I : σ → Prop) : Prop where
  init : ∀ s, M.init s → I s
  step : ∀ s a s', I s → M.step s a s' → I s'

variable {M}

variable {I : σ → Prop}

/-- **The invariant rule.** -/
theorem Inductive.reachable (h : M.Inductive I) {s : σ} (hr : M.Reachable s) :
    I s := by
  induction hr with
  | init h0 => exact h.init _ h0
  | step _ hs ih => exact h.step _ _ _ ih hs

/-- A run up to one of its steps. -/
theorem Run.split {s t : σ} {a : A} {pre post : List A} (h : M.Run s (pre ++ a :: post) t) :
    ∃ u v, M.Run s pre u ∧ M.step u a v := by
  induction pre generalizing s with
  | nil =>
    cases h with
    | cons hs _ => exact ⟨s, _, .nil s, hs⟩
  | cons b pre ih =>
    cases h with
    | cons hs h =>
      obtain ⟨u, v, hr, hstep⟩ := ih h
      exact ⟨u, v, .cons hs hr, hstep⟩

variable {as : List A}

theorem Run.append {s t u : σ} {bs : List A} (h : M.Run s as t) (h' : M.Run t bs u) :
    M.Run s (as ++ bs) u := by
  induction h with
  | nil => exact h'
  | cons hs _ ih => exact .cons hs (ih h')

/-- What every step keeps, a run keeps. -/
theorem Run.keeps (hstep : ∀ s a t, I s → M.step s a t → I t) {s t : σ}
    (h : M.Run s as t) (h0 : I s) : I t := by
  induction h with
  | nil => exact h0
  | cons hs _ ih => exact ih (hstep _ _ _ h0 hs)

theorem Reachable.run {s t : σ} (h : M.Reachable s) (hr : M.Run s as t) :
    M.Reachable t :=
  hr.keeps (I := M.Reachable) (fun _ _ _ h hs => h.step hs) h

/-! ## Step functions -/

/-- The system of a step function. -/
def ofNext (start : σ) (next : σ → A → Option σ) : LTS σ A where
  init s := s = start
  step s a t := next s a = some t

theorem run_of_foldlM {start s t : σ} {next : σ → A → Option σ}
    (h : as.foldlM next s = some t) : (ofNext start next).Run s as t := by
  induction as generalizing s with
  | nil =>
    cases h
    exact .nil _
  | cons a as ih =>
    rw [List.foldlM_cons] at h
    obtain ⟨s', hs, h⟩ := Option.bind_eq_some_iff.mp h
    exact .cons hs (ih h)

/-- Labels that can be followed lead to a reachable state. -/
theorem reachable_of_foldlM {start t : σ} {next : σ → A → Option σ}
    (h : as.foldlM next start = some t) : (ofNext start next).Reachable t :=
  (Reachable.init rfl).run (run_of_foldlM h)

/-! ## Runs with their states -/

variable {h : List (σ × A)} {P : σ → Prop}

variable (M) in
/-- A finite run: each label with the state it left. -/
inductive History : σ → List (σ × A) → σ → Prop
  | nil (s : σ) : History s [] s
  | cons {s s' t : σ} {a : A} {h : List (σ × A)} (hs : M.step s a s') (ht : History s' h t) :
      History s ((s, a) :: h) t

/-- `P` holds in the states that a run leaves and in the one it ends in. -/
def Throughout (P : σ → Prop) (h : List (σ × A)) (t : σ) : Prop := (∀ x ∈ h, P x.1) ∧ P t

theorem History.start {s t : σ} (hr : M.History s h t) (hP : Throughout P h t) : P s := by
  cases hr with
  | nil => exact hP.2
  | cons => exact hP.1 _ List.mem_cons_self

theorem History.snoc {s t u : σ} {a : A} (hr : M.History s h t)
    (hs : M.step t a u) : M.History s (h ++ [(t, a)]) u := by
  induction hr with
  | nil s => exact .cons hs (.nil u)
  | cons h1 _ ih => exact .cons h1 (ih hs)

theorem Reachable.history {t : σ} (h : M.Reachable t) :
    ∃ s hist, M.init s ∧ M.History s hist t := by
  induction h with
  | init h => exact ⟨_, [], h, .nil _⟩
  | step _ hs ih =>
    obtain ⟨s, hist, h0, hr⟩ := ih
    exact ⟨s, _, h0, hr.snoc hs⟩

/-- An invariant of the steps holds throughout a run. -/
theorem History.throughout (hstep : ∀ s a t, I s → M.step s a t → I t) {s t : σ}
    (hr : M.History s h t) (h0 : I s) : Throughout I h t := by
  induction hr with
  | nil => exact ⟨fun x hx => (List.not_mem_nil hx).elim, h0⟩
  | cons hs _ ih =>
    obtain ⟨hmem, hend⟩ := ih (hstep _ _ _ h0 hs)
    exact ⟨List.forall_mem_cons.mpr ⟨h0, hmem⟩, hend⟩

theorem Throughout.congr {Q : σ → Prop} {t : σ}
    (hiff : Throughout (fun s => P s ↔ Q s) h t) : Throughout P h t ↔ Throughout Q h t :=
  and_congr (forall₂_congr hiff.1) hiff.2

/-- **What a run keeps**: `P` throughout exactly when each step is in `K`. -/
theorem History.throughout_iff {L : A → Prop} {K : σ → A → Prop}
    (hstep : ∀ s a t, M.step s a t → L a → P s → (P t ↔ K s a)) {s t : σ}
    (hr : M.History s h t) (hall : ∀ x ∈ h, L x.2) (h0 : P s) :
    Throughout P h t ↔ ∀ x ∈ h, K x.1 x.2 := by
  induction hr with
  | nil s =>
    constructor
    · intro _ x hx
      cases hx
    · intro _
      exact ⟨fun x hx => (List.not_mem_nil hx).elim, h0⟩
  | @cons s s' t a h hs ht ih =>
    rw [List.forall_mem_cons] at hall ⊢
    have hiff := hstep s a s' hs hall.1 h0
    rw [Throughout, List.forall_mem_cons]
    constructor
    · rintro ⟨⟨-, hP⟩, hend⟩
      have hs' : P s' := ht.start ⟨hP, hend⟩
      exact ⟨hiff.mp hs', (ih hall.2 hs').mp ⟨hP, hend⟩⟩
    · rintro ⟨hok, hrest⟩
      obtain ⟨hP, hend⟩ := (ih hall.2 (hiff.mpr hok)).mpr hrest
      exact ⟨⟨h0, hP⟩, hend⟩

end LTS
