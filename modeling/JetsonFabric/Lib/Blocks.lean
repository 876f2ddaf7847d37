import Mathlib

/-!
# Input taken block by block

A function that is folded over the complete blocks of a stream, whatever the pieces are in which
the stream arrives.
-/

namespace Blocks

variable {α σ : Type*} (width : ℕ) (f : σ → List α → σ)

/-- One more element of the stream. -/
def push (s : σ × List α) (a : α) : σ × List α :=
  if s.2.length + 1 = width then (f s.1 (s.2 ++ [a]), []) else (s.1, s.2 ++ [a])

/-- The state after the complete blocks of an input, and the open block. -/
def absorb (s : σ × List α) (input : List α) : σ × List α := input.foldl (push width f) s

/-- Block `i` of an input. -/
def block (input : List α) (i : ℕ) : List α := (input.drop (width * i)).take width

@[simp] theorem absorb_nil (s : σ × List α) : absorb width f s [] = s := rfl

theorem absorb_cons (s : σ × List α) (a : α) (input : List α) :
    absorb width f s (a :: input) = absorb width f (push width f s a) input := rfl

theorem absorb_append (s : σ × List α) (front back : List α) :
    absorb width f s (front ++ back) = absorb width f (absorb width f s front) back :=
  List.foldl_append

variable {width}

/-- A piece that fits in the open block is only kept. -/
theorem absorb_short (state : σ) (rest piece : List α) (h : rest.length + piece.length < width) :
    absorb width f (state, rest) piece = (state, rest ++ piece) := by
  induction piece generalizing rest with
  | nil => simp
  | cons a piece ih =>
    rw [List.length_cons] at h
    have hpush : push width f (state, rest) a = (state, rest ++ [a]) :=
      if_neg (by dsimp only; omega)
    have hkeep := ih (rest ++ [a]) (by rw [List.length_append, List.length_singleton]; omega)
    rw [absorb_cons, hpush, hkeep, List.append_assoc, List.singleton_append]

/-- A piece that fills the open block closes it. -/
theorem absorb_fill (state : σ) (rest piece : List α) (h : rest.length + piece.length = width)
    (hne : piece ≠ []) : absorb width f (state, rest) piece = (f state (rest ++ piece), []) := by
  obtain ⟨front, a, rfl⟩ := List.eq_nil_or_concat piece |>.resolve_left hne
  rw [List.concat_eq_append] at h ⊢
  rw [List.length_append, List.length_singleton] at h
  rw [absorb_append, absorb_short f state rest front (by omega)]
  have hlast : (rest ++ front).length + 1 = width := by rw [List.length_append]; omega
  rw [absorb_cons, absorb_nil, push, if_pos hlast, List.append_assoc]

/-- The open block holds what the blocks before it leave. -/
theorem length_absorb (state : σ) (rest input : List α) (h : rest.length < width) :
    (absorb width f (state, rest) input).2.length = (rest.length + input.length) % width := by
  induction input generalizing state rest with
  | nil => rw [absorb_nil, List.length_nil, Nat.add_zero, Nat.mod_eq_of_lt h]
  | cons a input ih =>
    rw [absorb_cons, push, List.length_cons]
    dsimp only
    split_ifs with hfull
    · rw [ih _ [] (by rw [List.length_nil]; omega), List.length_nil, Nat.zero_add,
        show rest.length + (input.length + 1) = input.length + width by omega, Nat.add_mod_right]
    · have hlength : (rest ++ [a]).length = rest.length + 1 := by simp
      rw [ih _ _ (by omega), hlength, Nat.add_right_comm, Nat.add_assoc]

/-- **Whole blocks** are folded, and none is left open. -/
theorem absorb_blocks (hwidth : 0 < width) (n : ℕ) (state : σ) (input : List α)
    (h : input.length = width * n) :
    absorb width f (state, []) input =
      ((List.range n).foldl (fun state i => f state (block width input i)) state, []) := by
  induction n generalizing input with
  | zero =>
    obtain rfl : input = [] := List.eq_nil_of_length_eq_zero (by simpa using h)
    rfl
  | succ n ih =>
    -- All blocks but the last, and the last one.
    rw [Nat.mul_succ] at h
    have hfront : (input.take (width * n)).length = width * n := by simp [h]
    have hback : (input.drop (width * n)).length = width := by simp [h]
    have hne : input.drop (width * n) ≠ [] := List.ne_nil_of_length_pos (hback.symm ▸ hwidth)
    have hlast : block width input n = input.drop (width * n) := List.take_of_length_le hback.le
    have hsame : ∀ i ∈ List.range n,
        block width (input.take (width * n)) i = block width input i := by
      intro i hi
      have hle : width * (i + 1) ≤ width * n := Nat.mul_le_mul_left _ (List.mem_range.1 hi)
      rw [Nat.mul_succ] at hle
      rw [block, block, List.drop_take, List.take_take, min_eq_left (by omega)]
    conv_lhs => rw [← List.take_append_drop (width * n) input]
    rw [absorb_append, ih _ hfront, absorb_fill f _ _ _ (by simpa using hback) hne,
      List.range_succ, List.foldl_append, List.foldl_cons, List.foldl_nil, hlast, List.nil_append]
    congr 2
    exact List.foldl_ext _ _ _ fun state i hi => by rw [hsame i hi]

end Blocks
