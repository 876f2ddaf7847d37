import Mathlib

/-!
# Slots and their owners

A table of flags says which slots are taken; owners hold at most one slot each. A slot is taken for
a new owner or given back with its owner; when it is taken without an owner it is lost.
-/

namespace Slots

variable {ι : Type*} {flags : List Bool} {owner : ι → Option Nat}

/-- Every owner holds a taken slot, and no two the same. -/
structure Held (flags : List Bool) (owner : ι → Option Nat) : Prop where
  taken : ∀ i n, owner i = some n → flags[n]? = some true
  distinct : ∀ i j n, owner i = some n → owner j = some n → i = j

/-- Every taken slot has an owner. -/
def Covered (flags : List Bool) (owner : ι → Option Nat) : Prop :=
  ∀ n, flags[n]? = some true → ∃ i, owner i = some n

/-- A slot is taken exactly if it has one owner, and one only. -/
structure Consistent (flags : List Bool) (owner : ι → Option Nat) : Prop where
  taken_iff : ∀ n < flags.length, flags[n]? = some true ↔ ∃! i, owner i = some n
  distinct : ∀ i j n, owner i = some n → owner j = some n → i = j

theorem Held.consistent_iff (h : Held flags owner) : Consistent flags owner ↔ Covered flags owner := by
  constructor
  · intro hc n hn
    obtain ⟨hlt, -⟩ := List.getElem?_eq_some_iff.mp hn
    exact ((hc.taken_iff n hlt).mp hn).exists
  · intro hc
    refine ⟨fun n _ => ⟨fun hn => ?_, fun ⟨i, hi, _⟩ => h.taken i n hi⟩, h.distinct⟩
    obtain ⟨i, hi⟩ := hc n hn
    exact ⟨i, hi, fun j hj => h.distinct j i n hj hi⟩

variable {n : Nat}

theorem Held.not_owner (h : Held flags owner) (hfree : flags[n]? = some false) (j : ι) :
    owner j ≠ some n := by
  intro hj
  have := (h.taken j n hj).symm.trans hfree
  cases this

theorem getElem?_set_ne {m : Nat} (b : Bool) (h : m ≠ n) : (flags.set n b)[m]? = flags[m]? :=
  List.getElem?_set_ne (Ne.symm h)

theorem getElem?_set_self_of {b c : Bool} (h : flags[n]? = some b) : (flags.set n c)[n]? = some c := by
  obtain ⟨hlt, -⟩ := List.getElem?_eq_some_iff.mp h
  simp [hlt]

theorem Held.lose (h : Held flags owner) (hfree : flags[n]? = some false) :
    Held (flags.set n true) owner := by
  refine ⟨fun j m hj => ?_, h.distinct⟩
  by_cases hm : m = n
  · subst hm
    exact absurd hj (h.not_owner hfree j)
  · rw [getElem?_set_ne true hm]
    exact h.taken j m hj

theorem not_covered_of_lost (h : Held flags owner) (hfree : flags[n]? = some false) :
    ¬ Covered (flags.set n true) owner := by
  intro hc
  obtain ⟨j, hj⟩ := hc n (getElem?_set_self_of hfree)
  exact h.not_owner hfree j hj

section Owner

variable [DecidableEq ι] {i : ι}

theorem Held.take (h : Held flags owner) (hfree : flags[n]? = some false) :
    Held (flags.set n true) (Function.update owner i (some n)) := by
  refine ⟨fun j m hj => ?_, fun j k m hj hk => ?_⟩
  · by_cases hji : j = i
    · subst hji
      rw [Function.update_self] at hj
      cases hj
      exact getElem?_set_self_of hfree
    · rw [Function.update_of_ne hji] at hj
      exact (h.lose hfree).taken j m hj
  · by_cases hji : j = i <;> by_cases hki : k = i
    · rw [hji, hki]
    · subst hji
      rw [Function.update_self] at hj
      rw [Function.update_of_ne hki] at hk
      cases hj
      exact absurd hk (h.not_owner hfree k)
    · subst hki
      rw [Function.update_self] at hk
      rw [Function.update_of_ne hji] at hj
      cases hk
      exact absurd hj (h.not_owner hfree j)
    · rw [Function.update_of_ne hji] at hj
      rw [Function.update_of_ne hki] at hk
      exact h.distinct j k m hj hk

theorem Covered.take (hc : Covered flags owner) (hnew : owner i = none) :
    Covered (flags.set n true) (Function.update owner i (some n)) := by
  intro m hm
  by_cases hmn : m = n
  · exact ⟨i, by rw [hmn, Function.update_self]⟩
  · rw [getElem?_set_ne true hmn] at hm
    obtain ⟨j, hj⟩ := hc m hm
    have hji : j ≠ i := by
      rintro rfl
      cases hnew.symm.trans hj
    exact ⟨j, by rw [Function.update_of_ne hji, hj]⟩

theorem Held.release (h : Held flags owner) (hi : owner i = some n) :
    Held (flags.set n false) (Function.update owner i none) := by
  refine ⟨fun j m hj => ?_, fun j k m hj hk => ?_⟩
  · by_cases hji : j = i
    · subst hji
      rw [Function.update_self] at hj
      cases hj
    · rw [Function.update_of_ne hji] at hj
      have hmn : m ≠ n := by
        rintro rfl
        exact hji (h.distinct j i m hj hi)
      rw [getElem?_set_ne false hmn]
      exact h.taken j m hj
  · have hji : j ≠ i := by
      rintro rfl
      rw [Function.update_self] at hj
      cases hj
    have hki : k ≠ i := by
      rintro rfl
      rw [Function.update_self] at hk
      cases hk
    rw [Function.update_of_ne hji] at hj
    rw [Function.update_of_ne hki] at hk
    exact h.distinct j k m hj hk

theorem Covered.release (hc : Covered flags owner) (hi : owner i = some n) :
    Covered (flags.set n false) (Function.update owner i none) := by
  intro m hm
  have hmn : m ≠ n := by
    rintro rfl
    rw [List.getElem?_set] at hm
    split at hm
    · split at hm <;> cases hm
    · exact absurd rfl ‹_›
  rw [getElem?_set_ne false hmn] at hm
  obtain ⟨j, hj⟩ := hc m hm
  have hji : j ≠ i := by
    rintro rfl
    exact hmn (Option.some.inj (hj.symm.trans hi))
  exact ⟨j, by rw [Function.update_of_ne hji, hj]⟩

/-! ## Kept properties -/

/-- Kept by whatever happens to a slot. -/
structure Kept (P : List Bool → (ι → Option Nat) → Prop) : Prop where
  take : ∀ {flags owner i n}, flags[n]? = some false → P flags owner →
    P (flags.set n true) (Function.update owner i (some n))
  lose : ∀ {flags owner n}, flags[n]? = some false → P flags owner → P (flags.set n true) owner
  release : ∀ {flags owner i n}, owner i = some n → P flags owner →
    P (flags.set n false) (Function.update owner i none)

theorem kept_held : Kept (@Held ι) where
  take hfree h := h.take hfree
  lose hfree h := h.lose hfree
  release hi h := h.release hi

/-- All slots are taken and nobody has one. -/
def Exhausted (flags : List Bool) (owner : ι → Option Nat) : Prop :=
  false ∉ flags ∧ ∀ i, owner i = none

theorem kept_exhausted : Kept (@Exhausted ι) where
  take hfree h := absurd (List.mem_of_getElem? hfree) h.1
  lose hfree h := absurd (List.mem_of_getElem? hfree) h.1
  release {flags owner i n} hi h := by cases (h.2 i).symm.trans hi

/-- The slot is taken and has no owner. -/
def Lost (n : Nat) (flags : List Bool) (owner : ι → Option Nat) : Prop :=
  flags[n]? = some true ∧ ∀ i, owner i ≠ some n

/-- A lost slot is never given back: only an owner could. -/
theorem kept_lost (n : Nat) : Kept (@Lost ι n) where
  take {flags owner i m} hfree h := by
    have hne : n ≠ m := by
      rintro rfl
      cases h.1.symm.trans hfree
    refine ⟨by rw [getElem?_set_ne true hne, h.1], fun j hj => ?_⟩
    by_cases hji : j = i
    · rw [hji, Function.update_self] at hj
      exact hne (Option.some.inj hj).symm
    · rw [Function.update_of_ne hji] at hj
      exact h.2 j hj
  lose {flags owner m} hfree h := by
    have hne : n ≠ m := by
      rintro rfl
      cases h.1.symm.trans hfree
    exact ⟨by rw [getElem?_set_ne true hne, h.1], h.2⟩
  release {flags owner i m} hi h := by
    have hne : n ≠ m := by
      rintro rfl
      exact h.2 i hi
    refine ⟨by rw [getElem?_set_ne false hne, h.1], fun j hj => ?_⟩
    by_cases hji : j = i
    · rw [hji, Function.update_self] at hj
      cases hj
    · rw [Function.update_of_ne hji] at hj
      exact h.2 j hj

end Owner

end Slots
