import Mathlib

/-!
# Greedy streams and drafts

A deterministic generator gives the next output for a history of tokens; an output carries a token
or ends the stream. `greedy` follows its own tokens. `verify` asks for the outputs along a given
list of tokens at once, and `accepted` counts how far a draft agrees with the outputs.
-/

namespace Greedy

variable {α β : Type*} (next : List α → β) (tok : β → α) (stop : β → Bool)

/-- At most `n` outputs, up to one that ends the stream. -/
def greedy : Nat → List α → List β
  | 0, _ => []
  | n + 1, h =>
    if stop (next h) then [next h] else next h :: greedy n (h ++ [tok (next h)])

/-- The outputs along the tokens `vs` after a history. -/
def verify : List α → List α → List β
  | _, [] => []
  | h, v :: vs => next (h ++ [v]) :: verify (h ++ [v]) vs

/-- How many tokens of a draft agree with the outputs. -/
def accepted [DecidableEq α] : List β → List α → Nat
  | o :: os, d :: ds => if ¬ stop o ∧ tok o = d then accepted os ds + 1 else 0
  | _, _ => 0

@[simp] theorem length_verify (h vs : List α) : (verify next h vs).length = vs.length := by
  induction vs generalizing h with
  | nil => rfl
  | cons v vs ih => simp [verify, ih]

variable [DecidableEq α]

theorem accepted_le (os : List β) (ds : List α) : accepted tok stop os ds ≤ ds.length := by
  induction ds generalizing os with
  | nil => cases os <;> simp [accepted]
  | cons d ds ih =>
    cases os with
    | nil => simp [accepted]
    | cons o os =>
      simp only [accepted, List.length_cons]
      split
      · have := ih os
        omega
      · omega

/-- The history after the accepted part of a draft. -/
def acceptedHistory (h : List α) (v : α) (draft : List α) : List α :=
  h ++ v :: draft.take (accepted tok stop (verify next h (v :: draft)) draft)

variable {next tok stop}

theorem acceptedHistory_cons_of_agree {h draft : List α} {v d : α}
    (hd : stop (next (h ++ [v])) = false ∧ tok (next (h ++ [v])) = d) :
    acceptedHistory next tok stop h v (d :: draft) =
      acceptedHistory next tok stop (h ++ [v]) d draft := by
  simp [acceptedHistory, verify, accepted, hd]

theorem acceptedHistory_cons_of_disagree {h draft : List α} {v d : α}
    (hd : ¬ (stop (next (h ++ [v])) = false ∧ tok (next (h ++ [v])) = d)) :
    acceptedHistory next tok stop h v (d :: draft) = h ++ [v] := by
  simp [acceptedHistory, verify, accepted, hd]

/-- The outputs that a draft confirms, and the first one after them. -/
def verified (next : List α → β) (tok : β → α) (stop : β → Bool) (h : List α) (v : α)
    (draft : List α) : List β :=
  (verify next h (v :: draft)).take
    (accepted tok stop (verify next h (v :: draft)) draft + 1)

theorem verified_cons_of_agree {h draft : List α} {v d : α}
    (hd : stop (next (h ++ [v])) = false ∧ tok (next (h ++ [v])) = d) :
    verified next tok stop h v (d :: draft) =
      next (h ++ [v]) :: verified next tok stop (h ++ [v]) d draft := by
  simp [verified, verify, accepted, hd]

theorem verified_cons_of_disagree {h draft : List α} {v d : α}
    (hd : ¬ (stop (next (h ++ [v])) = false ∧ tok (next (h ++ [v])) = d)) :
    verified next tok stop h v (d :: draft) = [next (h ++ [v])] := by
  simp [verified, verify, accepted, hd]

theorem verified_nil (h : List α) (v : α) :
    verified next tok stop h v [] = [next (h ++ [v])] := by
  simp [verified, verify]

theorem acceptedHistory_nil (h : List α) (v : α) :
    acceptedHistory next tok stop h v [] = h ++ [v] := by
  simp [acceptedHistory]

/-- The last of the verified outputs is the one for the accepted history. -/
theorem getLast?_verified (h : List α) (v : α) (draft : List α) :
    (verified next tok stop h v draft).getLast? =
      some (next (acceptedHistory next tok stop h v draft)) := by
  induction draft generalizing h v with
  | nil => simp [verified_nil, acceptedHistory_nil]
  | cons d draft ih =>
    by_cases hd : stop (next (h ++ [v])) = false ∧ tok (next (h ++ [v])) = d
    · rw [verified_cons_of_agree hd, acceptedHistory_cons_of_agree hd, List.getLast?_cons, ih]
      rfl
    · rw [verified_cons_of_disagree hd, acceptedHistory_cons_of_disagree hd]
      rfl

/-- **The verified outputs are the greedy ones.** -/
theorem greedy_eq_verified (h : List α) (v : α) (draft : List α) (n : Nat) :
    (verified next tok stop h v draft).length ≤ n →
    greedy next tok stop n (h ++ [v]) = verified next tok stop h v draft ++
      if stop (next (acceptedHistory next tok stop h v draft)) then []
      else greedy next tok stop (n - (verified next tok stop h v draft).length)
        (acceptedHistory next tok stop h v draft ++
          [tok (next (acceptedHistory next tok stop h v draft))]) := by
  have single (h : List α) (v : α) (n : Nat) (hn : 1 ≤ n) :
      greedy next tok stop n (h ++ [v]) = [next (h ++ [v])] ++
        if stop (next (h ++ [v])) then []
        else greedy next tok stop (n - 1) (h ++ [v] ++ [tok (next (h ++ [v]))]) := by
    obtain ⟨n, rfl⟩ : ∃ k, n = k + 1 := ⟨n - 1, by omega⟩
    simp only [greedy, Nat.add_sub_cancel]
    split <;> rfl
  induction draft generalizing h v n with
  | nil =>
    intro hn
    rw [verified_nil, acceptedHistory_nil] at *
    exact single h v n hn
  | cons d draft ih =>
    by_cases hd : stop (next (h ++ [v])) = false ∧ tok (next (h ++ [v])) = d
    · rw [verified_cons_of_agree hd, acceptedHistory_cons_of_agree hd]
      intro hn
      rw [List.length_cons] at hn ⊢
      obtain ⟨n, rfl⟩ : ∃ k, n = k + 1 := ⟨n - 1, by omega⟩
      have hrest := ih (h ++ [v]) d n (by omega)
      simp only [greedy, hd.1, Bool.false_eq_true, if_false, hd.2, hrest, List.cons_append,
        Nat.add_sub_add_right]
    · rw [verified_cons_of_disagree hd, acceptedHistory_cons_of_disagree hd]
      exact single h v n

end Greedy
