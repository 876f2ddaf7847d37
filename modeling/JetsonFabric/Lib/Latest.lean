import Mathlib

/-!
# Searches from the end

A loop that counts down and stops at the first number with a property finds the largest one.
-/

/-- The largest number below `k` that satisfies `P`, or that there is none. -/
inductive Latest (P : ℕ → Prop) (k : ℕ) : Option ℕ → Prop
  | none (h : ∀ i < k, ¬ P i) : Latest P k none
  | some {i : ℕ} (hi : i < k) (hP : P i) (hmax : ∀ j < k, P j → j ≤ i) : Latest P k (some i)

namespace Latest

variable {P : ℕ → Prop} {k i : ℕ} {o : Option ℕ}

theorem zero : Latest P 0 .none := .none fun i hi => absurd hi i.not_lt_zero

theorem hit (hP : P k) : Latest P (k + 1) (.some k) :=
  .some k.lt_succ_self hP fun _ hj _ => Nat.lt_succ_iff.1 hj

/-- The next number does not have it. -/
theorem skip (hP : ¬ P k) (h : Latest P k o) : Latest P (k + 1) o := by
  have hlt : ∀ j < k + 1, P j → j < k := fun j hj hPj =>
    (Nat.lt_succ_iff.1 hj).lt_of_ne fun heq => hP (heq ▸ hPj)
  cases h with
  | none h => exact .none fun j hj hPj => h j (hlt j hj hPj) hPj
  | some hi hPi hmax => exact .some (hi.trans k.lt_succ_self) hPi fun j hj hPj => hmax j (hlt j hj hPj) hPj

theorem isGreatest (hbound : ∀ j, P j → j < k) (h : Latest P k (.some i)) : IsGreatest {j | P j} i := by
  cases h with
  | some _ hP hmax => exact ⟨hP, fun j hj => hmax j (hbound j hj) hj⟩

theorem not_of_none (hbound : ∀ j, P j → j < k) (h : Latest P k .none) (j : ℕ) : ¬ P j := by
  cases h with
  | none h => exact fun hj => h j (hbound j hj) hj

end Latest
