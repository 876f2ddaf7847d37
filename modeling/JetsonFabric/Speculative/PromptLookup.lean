import JetsonFabric.Generation.Reference
import JetsonFabric.Inference.Executor
import JetsonFabric.Lib.Latest

/-!
# Drafts from the prompt

`PromptLookupDraft`: the end of a history is looked for further back, longest first and latest first,
and what followed it there is the draft.

* `Repeats`, **`propose_spec`**: the draft by the longest and then latest repetition.
-/

namespace JetsonFabric

/-! ## The search -/

/-- `PromptLookupDraft`; its constructor refuses other bounds. -/
structure PromptLookupDraft where
  maxNgram : Nat := 4
  minNgram : Nat := 2
  positive : 0 < minNgram := by decide
  ordered : minNgram ≤ maxNgram := by decide

/-- The tokens in `[first, last)`, if these are places of the history. -/
def slice (history : List UInt32) (first last : Nat) : Option (List UInt32) :=
  if first ≤ last ∧ last ≤ history.length then some ((history.drop first).take (last - first))
  else none

namespace PromptLookupDraft

variable (draft : PromptLookupDraft) (history : List UInt32) (maxTokens : Nat)

/-- `std::equal` on the candidate and the suffix. -/
def equalAt (candidate ngram suffixStart : Nat) : Option Bool := do
  let found ← slice history candidate (candidate + ngram)
  let suffix ← slice history suffixStart (suffixStart + ngram)
  pure (found == suffix)

/-- The loop over the candidates; `some none` if none matches. -/
def candidateLoop (ngram suffixStart : Nat) : Nat → Option (Option (List UInt32))
  | 0 => some none
  | candidate + 1 =>
    if candidate + ngram > suffixStart then candidateLoop ngram suffixStart candidate
    else do
      if ← equalAt history candidate ngram suffixStart then
        let proposalStart := candidate + ngram
        let proposalCount := min maxTokens (history.length - proposalStart)
        some <$> slice history proposalStart (proposalStart + proposalCount)
      else candidateLoop ngram suffixStart candidate

/-- The loop over the lengths, down to the least one. -/
def ngramLoop : Nat → Option (List UInt32)
  | 0 => some []
  | ngram + 1 =>
    if ngram + 1 < draft.minNgram then some []
    else do
      let suffixStart := history.length - (ngram + 1)
      match ← candidateLoop history maxTokens (ngram + 1) suffixStart suffixStart with
      | some proposal => pure proposal
      | none => if ngram + 1 = draft.minNgram then pure [] else ngramLoop ngram

/-- `propose`; `none` would be a read outside of the history. -/
def propose : Option (List UInt32) :=
  if maxTokens = 0 ∨ history.length ≤ draft.minNgram then some []
  else
    let largestNgram := min draft.maxNgram (history.length - 1)
    ngramLoop draft history maxTokens largestNgram

end PromptLookupDraft

/-! ## What it finds -/

/-- The last `n` tokens also stand at `c`, before they start at the end. -/
def Repeats (history : List UInt32) (n c : Nat) : Prop :=
  c + n ≤ history.length - n ∧ (history.drop c).take n = history.drop (history.length - n)

section Search

variable {history : List UInt32} {maxTokens n c : Nat}

theorem slice_eq_some {first last : Nat} (hle : first ≤ last) (hlast : last ≤ history.length) :
    slice history first last = some ((history.drop first).take (last - first)) :=
  if_pos ⟨hle, hlast⟩

theorem slice_add {first : Nat} (h : first + n ≤ history.length) :
    slice history first (first + n) = some ((history.drop first).take n) := by
  rw [slice_eq_some (Nat.le_add_right ..) h, Nat.add_sub_cancel_left]

theorem equalAt_eq (hn : n ≤ history.length) (hc : c + n ≤ history.length - n) :
    PromptLookupDraft.equalAt history c n (history.length - n) =
      some ((history.drop c).take n == history.drop (history.length - n)) := by
  have hsuffix : (history.drop (history.length - n)).take n = history.drop (history.length - n) :=
    List.take_of_length_le (by rw [List.length_drop]; omega)
  unfold PromptLookupDraft.equalAt
  rw [slice_add (by omega), slice_add (by omega), hsuffix]
  rfl

variable (history maxTokens) in
theorem slice_proposal (hc : c + n ≤ history.length) :
    slice history (c + n) (c + n + min maxTokens (history.length - (c + n))) =
      some ((history.drop (c + n)).take maxTokens) := by
  rw [slice_add (by omega), ← List.length_drop, ← List.take_eq_take_min]

variable (maxTokens) in
theorem candidateLoop_spec (hn : n ≤ history.length) (k : Nat) :
    ∃ o, Latest (Repeats history n) k o ∧
      PromptLookupDraft.candidateLoop history maxTokens n (history.length - n) k =
        some (o.map fun c => (history.drop (c + n)).take maxTokens) := by
  induction k with
  | zero => exact ⟨none, .zero, rfl⟩
  | succ k ih =>
    obtain ⟨o, ho, hloop⟩ := ih
    unfold PromptLookupDraft.candidateLoop
    by_cases hfits : k + n > history.length - n
    · rw [if_pos hfits]
      exact ⟨o, ho.skip fun h => absurd h.1 (by omega), hloop⟩
    rw [if_neg hfits, equalAt_eq hn (not_lt.1 hfits)]
    by_cases hequal : (history.drop k).take n = history.drop (history.length - n)
    · refine ⟨some k, .hit ⟨not_lt.1 hfits, hequal⟩, ?_⟩
      have hslice := slice_proposal history maxTokens (c := k) (n := n) (by omega)
      simp only [hequal, beq_self_eq_true, Option.bind_some, Option.bind_eq_bind, if_true, hslice]
      rfl
    · refine ⟨o, ho.skip fun h => hequal h.2, ?_⟩
      simpa only [beq_eq_false_iff_ne.2 hequal, Option.bind_some, Option.bind_eq_bind,
        Bool.false_eq_true, if_false] using hloop

theorem Repeats.lt (hn : 0 < n) (h : Repeats history n c) : c < history.length - n :=
  lt_of_lt_of_le (Nat.lt_add_of_pos_right hn) h.1

variable (draft : PromptLookupDraft)

/-- A length at which the draft looks, with a repetition. -/
def Matching (draft : PromptLookupDraft) (history : List UInt32) (n : Nat) : Prop :=
  draft.minNgram ≤ n ∧ ∃ c, Repeats history n c

variable (maxTokens) in
/-- The loop over the lengths finds the longest repetition. -/
theorem ngramLoop_spec {largest : Nat} (hlargest : largest ≤ history.length) :
    ∃ o, Latest (Matching draft history) (largest + 1) o ∧
      match o with
      | none => draft.ngramLoop history maxTokens largest = some []
      | some n => ∃ c, IsGreatest {c | Repeats history n c} c ∧
        draft.ngramLoop history maxTokens largest = some ((history.drop (c + n)).take maxTokens) := by
  induction largest with
  | zero =>
    refine ⟨none, .none fun n hn hmatch => ?_, rfl⟩
    have := draft.positive.trans_le hmatch.1
    omega
  | succ ngram ih =>
    unfold PromptLookupDraft.ngramLoop
    by_cases hshort : ngram + 1 < draft.minNgram
    · rw [if_pos hshort]
      refine ⟨none, .none fun n hn hmatch => ?_, rfl⟩
      have := hmatch.1
      omega
    rw [if_neg hshort]
    obtain ⟨o, ho, hcandidates⟩ := candidateLoop_spec maxTokens hlargest
      (history.length - (ngram + 1))
    have hbound : ∀ c, Repeats history (ngram + 1) c → c < history.length - (ngram + 1) :=
      fun c hc => hc.lt ngram.succ_pos
    dsimp only
    rw [hcandidates]
    cases o with
    | some c =>
      have hgreatest := ho.isGreatest hbound
      exact ⟨some (ngram + 1), .hit ⟨not_lt.1 hshort, c, hgreatest.1⟩, c, hgreatest, rfl⟩
    | none =>
      have hnone : ¬ Matching draft history (ngram + 1) := fun hmatch =>
        hmatch.2.elim (ho.not_of_none hbound)
      simp only [Option.map_none, Option.bind_some, Option.bind_eq_bind]
      split
      · next hleast =>
        refine ⟨none, .none fun n hn hmatch => hnone ?_, rfl⟩
        obtain rfl : n = ngram + 1 := by
          have := hmatch.1
          omega
        exact hmatch
      · obtain ⟨o, ho, hrest⟩ := ih (Nat.le_of_succ_le hlargest)
        exact ⟨o, ho.skip hnone, hrest⟩

/-- **The draft** is what follows the latest of the longest repetitions. -/
theorem propose_spec (history : List UInt32) (maxTokens : Nat) :
    (∀ n c, 0 < maxTokens →
      IsGreatest {n | draft.minNgram ≤ n ∧ n ≤ min draft.maxNgram (history.length - 1) ∧
        ∃ c, Repeats history n c} n →
      IsGreatest {c | Repeats history n c} c →
      draft.propose history maxTokens = some ((history.drop (c + n)).take maxTokens) ∧
        (history.drop (c + n)).take maxTokens ≠ []) ∧
    ((maxTokens = 0 ∨ ¬ ∃ n, draft.minNgram ≤ n ∧
        n ≤ min draft.maxNgram (history.length - 1) ∧ ∃ c, Repeats history n c) →
      draft.propose history maxTokens = some []) := by
  unfold PromptLookupDraft.propose
  by_cases hearly : maxTokens = 0 ∨ history.length ≤ draft.minNgram
  · rw [if_pos hearly]
    refine ⟨fun n c htokens hn _ => ?_, fun _ => rfl⟩
    obtain ⟨⟨hmin, hmax, -⟩, -⟩ := hn
    have := draft.positive
    omega
  rw [if_neg hearly]
  rw [not_or, not_le] at hearly
  have hlargest : min draft.maxNgram (history.length - 1) ≤ history.length := by omega
  obtain ⟨o, ho, hloop⟩ := ngramLoop_spec maxTokens draft hlargest
  cases o with
  | none =>
    have hnone : ¬ ∃ n, draft.minNgram ≤ n ∧ n ≤ min draft.maxNgram (history.length - 1) ∧
        ∃ c, Repeats history n c := by
      rintro ⟨n, hmin, hmax, hrepeats⟩
      cases ho with
      | none h => exact h n (Nat.lt_succ_iff.2 hmax) ⟨hmin, hrepeats⟩
    exact ⟨fun n c _ hn _ => absurd ⟨n, hn.1⟩ hnone, fun _ => hloop⟩
  | some longest =>
    obtain ⟨latest, hlatest, hloop⟩ := hloop
    have hlongest : IsGreatest {n | draft.minNgram ≤ n ∧
        n ≤ min draft.maxNgram (history.length - 1) ∧ ∃ c, Repeats history n c} longest := by
      cases ho with
      | some hlt hmatch hmax =>
        refine ⟨⟨hmatch.1, Nat.lt_succ_iff.1 hlt, hmatch.2⟩, ?_⟩
        rintro n ⟨hmin, hle, hrepeats⟩
        exact hmax n (Nat.lt_succ_iff.2 hle) ⟨hmin, hrepeats⟩
    constructor
    · intro n c htokens hn hc
      obtain rfl := hn.unique hlongest
      obtain rfl := hc.unique hlatest
      refine ⟨hloop, ?_⟩
      have hplace := hc.1.1
      have hpositive := draft.positive.trans_le hn.1.1
      rw [ne_eq, List.take_eq_nil_iff, List.drop_eq_nil_iff]
      omega
    · rintro (hzero | hnone)
      · exact absurd hzero hearly.1
      · exact absurd ⟨longest, hlongest.1⟩ hnone

-- the end `1, 2` repeats at the start, where `3, 1, 2` follows
example : ({} : PromptLookupDraft).propose [1, 2, 3, 1, 2] 2 = some [3, 1] := by decide

end Search

end JetsonFabric
