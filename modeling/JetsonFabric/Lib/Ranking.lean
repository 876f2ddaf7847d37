import Mathlib

/-!
# Rankings by several criteria

A comparison that looks at one criterion after another. It is a strict weak order when each of them
is one where the criteria before it do not tell.
-/

namespace Ranking

variable {α β : Type*} {r : β → β → Prop} {f : α → β} {s : α → α → Prop}

/-- Compare by `f`, and by `s` what `f` does not tell apart. -/
def ByKey (r : β → β → Prop) (f : α → β) (s : α → α → Prop) (a b : α) : Prop :=
  r (f a) (f b) ∨ f a = f b ∧ s a b

theorem byKey_iff_ite [DecidableEq β] [Std.Irrefl r] {a b : α} :
    ByKey r f s a b ↔ if f a ≠ f b then r (f a) (f b) else s a b := by
  unfold ByKey
  split_ifs with h
  · simp [h]
  · simp [not_not.1 h, Std.Irrefl.irrefl (r := r) (f b)]

theorem ByKey.eq_of_incomp [IsStrictTotalOrder β r] {a b : α} (hab : ¬ByKey r f s a b)
    (hba : ¬ByKey r f s b a) : f a = f b ∧ ¬s a b ∧ ¬s b a := by
  have heq : f a = f b := by
    rcases trichotomous_of r (f a) (f b) with h | h | h
    · exact absurd (.inl h) hab
    · exact h
    · exact absurd (.inl h) hba
  exact ⟨heq, fun h => hab (.inr ⟨heq, h⟩), fun h => hba (.inr ⟨heq.symm, h⟩)⟩

/-- **One more criterion.** -/
theorem ByKey.isStrictWeakOrder [IsStrictTotalOrder β r]
    (hs : ∀ b, IsStrictWeakOrder {a // f a = b} fun x y => s x y) :
    IsStrictWeakOrder α (ByKey r f s) where
  irrefl a h := by
    rcases h with h | ⟨-, h⟩
    · exact irrefl_of r (f a) h
    · exact (hs (f a)).irrefl ⟨a, rfl⟩ h
  trans a b c hab hbc := by
    rcases hab with hab | ⟨hfab, hab⟩
    · rcases hbc with hbc | ⟨hfbc, -⟩
      · exact .inl (trans_of r hab hbc)
      · exact .inl (hfbc ▸ hab)
    · rcases hbc with hbc | ⟨hfbc, hbc⟩
      · exact .inl (hfab ▸ hbc)
      · refine .inr ⟨hfab.trans hfbc, ?_⟩
        exact (hs (f c)).trans ⟨a, hfab.trans hfbc⟩ ⟨b, hfbc⟩ ⟨c, rfl⟩ hab hbc
  incomp_trans a b c hab hbc := by
    obtain ⟨hfab, hab, hba⟩ := ByKey.eq_of_incomp hab.1 hab.2
    obtain ⟨hfbc, hbc, hcb⟩ := ByKey.eq_of_incomp hbc.1 hbc.2
    have hfac : f a = f c := hfab.trans hfbc
    obtain ⟨hac, hca⟩ :=
      (hs (f c)).incomp_trans ⟨a, hfac⟩ ⟨b, hfbc⟩ ⟨c, rfl⟩ ⟨hab, hba⟩ ⟨hbc, hcb⟩
    constructor
    · rintro (h | ⟨-, h⟩)
      · exact irrefl_of r (f c) (hfac ▸ h)
      · exact hac h
    · rintro (h | ⟨-, h⟩)
      · exact irrefl_of r (f c) (hfac ▸ h)
      · exact hca h

/-- Elements are ranked by a key. -/
theorem isStrictWeakOrder_key (h : IsStrictWeakOrder β r) (f : α → β) :
    IsStrictWeakOrder α fun a b => r (f a) (f b) where
  irrefl a := h.irrefl (f a)
  trans a b c := h.trans (f a) (f b) (f c)
  incomp_trans a b c := h.incomp_trans (f a) (f b) (f c)

theorem isStrictWeakOrder_of_total [IsStrictTotalOrder β r] : IsStrictWeakOrder β r where
  incomp_trans a b c hab hbc := by
    obtain rfl : a = b := Std.Trichotomous.trichotomous a b hab.1 hab.2
    exact hbc

instance isStrictTotalOrder_uint8 : IsStrictTotalOrder UInt8 (· < ·) where
  trichotomous _ _ hab hba := UInt8.le_antisymm (UInt8.not_lt.1 hba) (UInt8.not_lt.1 hab)
  irrefl := UInt8.lt_irrefl
  trans _ _ _ := UInt8.lt_trans

/-- Lists are compared from the left. -/
instance isStrictTotalOrder_list {γ : Type*} [LT γ] [h : IsStrictTotalOrder γ (· < ·)] :
    IsStrictTotalOrder (List γ) (· < ·) where
  trichotomous _ _ hab hba := List.le_antisymm (List.not_lt.1 hba) (List.not_lt.1 hab)
  irrefl l := List.lt_irrefl l
  trans _ _ _ := @List.lt_trans _ _ ⟨fun {a b c} => h.trans a b c⟩ _ _ _

/-- The first of a sorted list that has a property is the best that has it. -/
theorem find?_of_pairwise {less : α → α → Bool} {p : α → Bool} {xs : List α} {a : α}
    (hsorted : xs.Pairwise fun x y => less y x = false) (h : xs.find? p = some a) {b : α}
    (hb : b ∈ xs) (hp : p b = true) : b = a ∨ less b a = false := by
  obtain ⟨-, before, after, rfl, hbefore⟩ := List.find?_eq_some_iff_append.1 h
  rcases List.mem_append.1 hb with hb | hb
  · simpa [hp] using hbefore b hb
  · rcases List.mem_cons.1 hb with rfl | hb
    · exact .inl rfl
    · exact .inr ((List.pairwise_cons.1 (List.pairwise_append.1 hsorted).2.1).1 b hb)

end Ranking
