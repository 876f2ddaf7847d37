import Mathlib

/-!
# Checks in order

Functions that check their input step by step and stop at the first check that fails.
-/

namespace Checks

universe u

variable {ε : Type*} {α β : Type u}

/-- Fail when the condition holds. -/
def refuse (bad : Prop) [Decidable bad] (error : ε) : Except ε Unit :=
  if bad then .error error else .ok ()

variable {bad : Prop}

theorem refuse_eq_ok [Decidable bad] {error : ε} {u : Unit} :
    refuse bad error = .ok u ↔ ¬ bad := by
  unfold refuse
  split <;> simp_all

theorem refuse_of_not [Decidable bad] {error : ε} (h : ¬ bad) :
    refuse bad error = .ok () := if_neg h

theorem ok_bind (a : α) (f : α → Except ε β) : ((Except.ok a : Except ε α) >>= f) = f a := rfl

variable {x : Except ε α} {f : α → Except ε β}

theorem bind_eq_ok {b : β} :
    (x >>= f) = .ok b ↔ ∃ a, x = .ok a ∧ f a = .ok b := by
  cases x with
  | error e =>
    constructor
    · intro h
      cases h
    · rintro ⟨a, h, -⟩
      cases h
  | ok a =>
    constructor
    · intro h
      exact ⟨a, rfl, h⟩
    · rintro ⟨_, h, hf⟩
      cases h
      exact hf

theorem exists_of_toBool (h : x.toBool = true) : ∃ a, x = .ok a := by
  cases x with
  | error e => cases h
  | ok a => exact ⟨a, rfl⟩

theorem toOption_eq_some {a : α} : x.toOption = some a ↔ x = .ok a := by
  cases x <;> simp [Except.toOption]

theorem ite_some_eq_none [Decidable bad] {error : ε} {rest : Option ε} :
    (if bad then some error else rest) = none ↔ ¬ bad ∧ rest = none := by
  split_ifs with h <;> simp [h]

/-! ## Errors -/

variable {P : ε → Prop}

/-- Every error that a sequence stops at satisfies `P`. -/
def Errors (P : ε → Prop) (x : Except ε α) : Prop := ∀ e, x = .error e → P e

theorem errors_ok (a : α) : Errors P (.ok a : Except ε α) := by
  rintro _ ⟨⟩

theorem errors_refuse [Decidable bad] {error : ε} (h : P error) :
    Errors P (refuse bad error) := by
  intro e he
  unfold refuse at he
  split at he
  · cases he
    exact h
  · cases he

theorem errors_bind (hx : Errors P x) (hf : ∀ a, Errors P (f a)) : Errors P (x >>= f) := by
  cases x with
  | error e =>
    rintro _ ⟨⟩
    exact hx e rfl
  | ok a => exact hf a

theorem mapError_eq_ok {ε' : Type*} {g : ε → ε'} {a : α}
    (h : x.mapError g = .ok a) : x = .ok a := by
  cases x with
  | error e => cases h
  | ok b => exact congrArg Except.ok (Except.ok.inj h)

theorem errors_mapError {ε' : Type*} {P : ε' → Prop} {g : ε → ε'}
    (h : ∀ e, P (g e)) : Errors P (x.mapError g) := by
  cases x with
  | error e =>
    rintro _ ⟨⟩
    exact h e
  | ok a => exact errors_ok a

theorem errors_error {e : ε} (h : P e) : Errors P (.error e : Except ε α) := by
  rintro _ ⟨⟩
  exact h

/-! ## Lists -/

variable {items : List α}

theorem errors_mapM (h : ∀ item ∈ items, Errors P (f item)) : Errors P (items.mapM f) := by
  induction items with
  | nil => exact errors_ok []
  | cons item items ih =>
    rw [List.mapM_cons]
    exact errors_bind (h item List.mem_cons_self) fun _ =>
      errors_bind (ih fun other hother => h other (List.mem_cons_of_mem _ hother)) fun _ =>
        errors_ok _

theorem forall₂_of_mapM_eq_ok {results : List β} (h : items.mapM f = .ok results) :
    List.Forall₂ (fun item result => f item = .ok result) items results := by
  induction items generalizing results with
  | nil =>
    cases h
    exact .nil
  | cons item items ih =>
    rw [List.mapM_cons] at h
    obtain ⟨first, hfirst, h⟩ := bind_eq_ok.1 h
    obtain ⟨rest, hrest, h⟩ := bind_eq_ok.1 h
    cases h
    exact .cons hfirst (ih hrest)

theorem exists_of_mapM_eq_error {e : ε}
    (h : items.mapM f = .error e) : ∃ item ∈ items, f item = .error e :=
  errors_mapM (P := fun e => ∃ item ∈ items, f item = .error e)
    (fun item hitem _ he => ⟨item, hitem, he⟩) e h

/-- Every result of a sequence is the result of one of its items. -/
theorem mem_of_mapM_eq_ok {results : List β}
    (h : items.mapM f = .ok results) {result : β} (hmem : result ∈ results) :
    ∃ item ∈ items, f item = .ok result := by
  have hall := forall₂_of_mapM_eq_ok h
  clear h
  induction hall with
  | nil => cases hmem
  | cons hfirst _ ih =>
    rcases List.mem_cons.1 hmem with rfl | hmem
    · exact ⟨_, List.mem_cons_self, hfirst⟩
    · obtain ⟨other, hother, hresult⟩ := ih hmem
      exact ⟨other, List.mem_cons_of_mem _ hother, hresult⟩

end Checks
