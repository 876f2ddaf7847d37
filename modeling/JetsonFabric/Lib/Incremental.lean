import Mathlib

/-!
# Reading a stream in pieces

A reader keeps what has arrived in a buffer, decides on the whole buffer each time, and waits for the
next piece as long as it cannot decide. What it reads does not depend on the pieces when a decision on
a prefix of the stream is the decision on the stream.
-/

namespace Incremental

variable {α : Type*}

/-! ## The first place of a pattern -/

variable {text : List α}

section Find

variable [DecidableEq α]

/-- The first position at which the pattern stands. -/
def findAt (pattern : List α) : List α → Option ℕ
  | [] => if pattern = [] then some 0 else none
  | a :: rest => if pattern <+: a :: rest then some 0 else (findAt pattern rest).map (· + 1)

variable {pattern : List α}

theorem findAt_eq_some {i : ℕ} :
    findAt pattern text = some i ↔
      i ≤ text.length ∧ pattern <+: text.drop i ∧ ∀ j < i, ¬ pattern <+: text.drop j := by
  induction text generalizing i with
  | nil =>
    by_cases h : pattern = []
    · subst h
      rw [findAt, if_pos rfl, Option.some.injEq]
      constructor
      · rintro rfl
        simp
      · rintro ⟨hle, -⟩
        exact (Nat.le_zero.1 hle).symm
    · simp [findAt, h]
  | cons a rest ih =>
    rw [findAt]
    by_cases hhere : pattern <+: a :: rest
    · rw [if_pos hhere, Option.some.injEq]
      constructor
      · rintro rfl
        exact ⟨Nat.zero_le _, hhere, by simp⟩
      · rintro ⟨-, -, hbefore⟩
        by_contra hne
        exact hbefore 0 (by omega) hhere
    · rw [if_neg hhere, Option.map_eq_some_iff]
      constructor
      · rintro ⟨k, hk, rfl⟩
        obtain ⟨hle, hat, hbefore⟩ := ih.1 hk
        refine ⟨Nat.succ_le_succ hle, hat, fun j hj => ?_⟩
        cases j with
        | zero => exact hhere
        | succ j => exact hbefore j (by omega)
      · rintro ⟨hle, hat, hbefore⟩
        cases i with
        | zero => exact absurd hat hhere
        | succ i =>
          refine ⟨i, ih.2 ⟨Nat.le_of_succ_le_succ hle, hat, fun j hj => ?_⟩, rfl⟩
          exact hbefore (j + 1) (by omega)

theorem findAt_of_prefix (h : pattern <+: text) : findAt pattern text = some 0 :=
  findAt_eq_some.2 ⟨Nat.zero_le _, h, by simp⟩

theorem findAt_cons_of_not {a : α} (h : ¬ pattern <+: a :: text) :
    findAt pattern (a :: text) = (findAt pattern text).map (· + 1) := by
  rw [findAt, if_neg h]

/-- Text without the first element of the pattern is passed. -/
theorem findAt_pass {p : α} {skipped : List α} (h : p ∉ skipped) (text : List α) :
    findAt (p :: pattern) (skipped ++ text) =
      (findAt (p :: pattern) text).map (· + skipped.length) := by
  induction skipped with
  | nil => simp
  | cons a skipped ih =>
    obtain ⟨hne, hrest⟩ := not_or.1 (mt List.mem_cons.2 h)
    have hnot : ¬ p :: pattern <+: a :: (skipped ++ text) := fun hprefix =>
      hne (List.cons_prefix_cons.1 hprefix).1
    rw [List.cons_append, findAt_cons_of_not hnot, ih hrest, Option.map_map]
    congr 1

theorem isSome_findAt : (findAt pattern text).isSome ↔ pattern <:+: text := by
  induction text with
  | nil => by_cases h : pattern = [] <;> simp [findAt, h]
  | cons a text ih =>
    rw [findAt, List.infix_cons_iff, ← ih]
    by_cases h : pattern <+: a :: text <;> simp [h]

theorem findAt_end {i : ℕ} (h : findAt pattern text = some i) :
    i + pattern.length ≤ text.length := by
  obtain ⟨hle, hat, -⟩ := findAt_eq_some.1 h
  have := hat.length_le
  rw [List.length_drop] at this
  omega

/-- More text does not move the first place. -/
theorem findAt_append {i : ℕ} (h : findAt pattern text = some i) (more : List α) :
    findAt pattern (text ++ more) = some i := by
  have hend := findAt_end h
  obtain ⟨hle, hat, hbefore⟩ := findAt_eq_some.1 h
  refine findAt_eq_some.2 ⟨by rw [List.length_append]; omega, ?_, fun j hj hj' => ?_⟩
  · rw [List.drop_append_of_le_length hle]
    exact hat.trans (List.prefix_append _ _)
  · refine hbefore j hj ?_
    rw [List.drop_append_of_le_length (by omega)] at hj'
    exact List.prefix_of_prefix_length_le hj' (List.prefix_append _ _)
      (by rw [List.length_drop]; omega)

/-- A place in a front of the text is its place in the text. -/
theorem findAt_of_append {more : List α} {i : ℕ}
    (h : findAt pattern (text ++ more) = some i) (hend : i + pattern.length ≤ text.length) :
    findAt pattern text = some i := by
  obtain ⟨-, hat, hbefore⟩ := findAt_eq_some.1 h
  refine findAt_eq_some.2 ⟨by omega, ?_, fun j hj hj' => ?_⟩
  · rw [List.drop_append_of_le_length (by omega)] at hat
    exact List.prefix_of_prefix_length_le hat (List.prefix_append _ _)
      (by rw [List.length_drop]; omega)
  · refine hbefore j hj ?_
    rw [List.drop_append_of_le_length (by omega)]
    exact hj'.trans (List.prefix_append _ _)

end Find

/-! ## The reader -/

/-- Nothing yet, the size of what is complete, or an error. -/
inductive Decision (ε : Type*) where
  | more
  | done (size : ℕ)
  | fail (error : ε)

/-- What was complete and the rest, an error, or the end. -/
inductive Outcome (α ε : Type*) where
  | frame (front rest : List α) (pieces : List (List α))
  | failed (error : ε)
  | ended (buffer : List α)

variable {ε : Type*}

def readPieces (decide : List α → Decision ε) : List (List α) → List α → Outcome α ε
  | pieces, buffer =>
    match decide buffer with
    | .done size => .frame (buffer.take size) (buffer.drop size) pieces
    | .fail error => .failed error
    | .more =>
      match pieces with
      | [] => .ended buffer
      | piece :: pieces => readPieces decide pieces (buffer ++ piece)

namespace Decision

/-- The decision `d` on a front remains `d'` on more of the stream. -/
def Final (length : ℕ) (d d' : Decision ε) : Prop :=
  d ≠ more → d' = d ∧ ∀ size, d = done size → size ≤ length

variable {length : ℕ} {d d' : Decision ε}

theorem final_more : Final length more d := fun h => absurd rfl h

theorem final_fail (error : ε) : Final length (fail error) (fail error) :=
  fun _ => ⟨rfl, fun _ h => nomatch h⟩

theorem final_done {size : ℕ} (h : size ≤ length) : Final length (done size : Decision ε) (done size) :=
  fun _ => ⟨rfl, fun _ hsize => (done.inj hsize) ▸ h⟩

end Decision

/-- The decision on a front is that on the stream. -/
def Settles (decide : List α → Decision ε) (stream : List α) : Prop :=
  ∀ front, front <+: stream → (decide front).Final front.length (decide stream)

/-- What a stream of this decision leaves. -/
def Outcome.Reads (stream : List α) (pieces : List (List α)) (outcome : Outcome α ε) :
    Decision ε → Prop
  | .more => outcome = .ended stream
  | .fail error => outcome = .failed error
  | .done size => ∃ rest later, outcome = .frame (stream.take size) rest later ∧
      rest ++ later.flatten = stream.drop size ∧ later <:+ pieces

theorem Outcome.Reads.mono {stream : List α} {pieces pieces' : List (List α)}
    {outcome : Outcome α ε} {decision : Decision ε} (h : outcome.Reads stream pieces decision)
    (hpieces : pieces <:+ pieces') : outcome.Reads stream pieces' decision := by
  cases decision with
  | more => exact h
  | fail error => exact h
  | done size =>
    obtain ⟨rest, later, houtcome, hrest, hlater⟩ := h
    exact ⟨rest, later, houtcome, hrest, hlater.trans hpieces⟩

/-- **The reader.** What it reads is decided by the stream. -/
theorem readPieces_spec {decide : List α → Decision ε} {pieces : List (List α)} {buffer : List α}
    (h : Settles decide (buffer ++ pieces.flatten)) :
    (readPieces decide pieces buffer).Reads (buffer ++ pieces.flatten) pieces
      (decide (buffer ++ pieces.flatten)) := by
  induction pieces generalizing buffer with
  | nil =>
    rw [List.flatten_nil, List.append_nil, readPieces]
    split
    · next size hdone =>
      rw [hdone]
      exact ⟨_, _, rfl, by simp, List.suffix_rfl⟩
    · next error hfail =>
      rw [hfail]
      rfl
    · next hmore =>
      rw [hmore]
      rfl
  | cons piece pieces ih =>
    have hstream : buffer ++ (piece :: pieces).flatten = (buffer ++ piece) ++ pieces.flatten := by
      rw [List.flatten_cons, List.append_assoc]
    have hprefix : buffer <+: buffer ++ (piece :: pieces).flatten := List.prefix_append _ _
    rw [readPieces]
    split
    · next size hdone =>
      obtain ⟨hsame, hsize⟩ := h buffer hprefix (by rw [hdone]; exact fun h => nomatch h)
      have hle := hsize size hdone
      rw [hsame, hdone]
      refine ⟨_, _, by rw [List.take_append_of_le_length hle], ?_, List.suffix_rfl⟩
      rw [List.drop_append_of_le_length hle]
    · next error hfail =>
      obtain ⟨hsame, -⟩ := h buffer hprefix (by rw [hfail]; exact fun h => nomatch h)
      rw [hsame, hfail]
      rfl
    · next hmore =>
      rw [hstream] at h ⊢
      exact (ih h).mono (List.suffix_cons _ _)

end Incremental
