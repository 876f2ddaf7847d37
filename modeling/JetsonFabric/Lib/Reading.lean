import JetsonFabric.Lib.Checks

/-!
# Checked reading

Programs that read from buffers at places they compute. An access outside its buffer stops the
program apart from all the errors it returns, so that "no access is outside" can be said.
-/

namespace Reading

open Checks

/-- An access outside a buffer, or an error. -/
inductive Stop (ε : Type*)
  | outside
  | refused (error : ε)
  deriving DecidableEq

variable {ε : Type} {α β σ : Type}

/-- The elements of a buffer from `start` on. -/
def piece (data : List α) (start length : ℕ) : Except (Stop ε) (List α) :=
  if start + length ≤ data.length then .ok ((data.drop start).take length) else .error .outside

/-- One element of a buffer. -/
def item (data : List α) (i : ℕ) : Except (Stop ε) α :=
  match data[i]? with
  | some a => .ok a
  | none => .error .outside

/-- The error of a part is replaced by one of the whole. -/
def instead (x : Except (Stop ε) α) (error : ε) : Except (Stop ε) α :=
  match x with
  | .error (.refused _) => .error (.refused error)
  | _ => x

/-- The number that a list of bytes gives, lowest first. -/
def ofLittleEndian (bytes : List UInt8) : ℕ := bytes.foldr (fun b n => b.toNat + 256 * n) 0

theorem ofLittleEndian_lt (bytes : List UInt8) : ofLittleEndian bytes < 256 ^ bytes.length := by
  induction bytes with
  | nil => exact Nat.one_pos
  | cons b bytes ih =>
    have hb := b.toNat_lt
    rw [List.length_cons, pow_succ]
    change b.toNat + 256 * ofLittleEndian bytes < _
    omega

/-! ## What a program ensures -/

/-- No access is outside, and a result satisfies `P`. -/
def Ensures (x : Except (Stop ε) α) (P : α → Prop) : Prop :=
  x ≠ .error .outside ∧ ∀ a, x = .ok a → P a

variable {x : Except (Stop ε) α} {P Q : α → Prop} {R : β → Prop}

theorem Ensures.mono (h : Ensures x P) (hPQ : ∀ a, P a → Q a) : Ensures x Q :=
  ⟨h.1, fun a ha => hPQ a (h.2 a ha)⟩

theorem ensures_ok {a : α} (h : P a) : Ensures (.ok a : Except (Stop ε) α) P := by
  refine ⟨nofun, ?_⟩
  rintro _ ⟨⟩
  exact h

theorem ensures_refused (e : ε) : Ensures (.error (.refused e) : Except (Stop ε) α) P :=
  ⟨nofun, nofun⟩

theorem ensures_bind {f : α → Except (Stop ε) β} (hx : Ensures x P)
    (hf : ∀ a, P a → Ensures (f a) R) : Ensures (x >>= f) R := by
  cases x with
  | error e =>
    refine ⟨fun h => hx.1 ?_, nofun⟩
    cases h
    rfl
  | ok a => exact hf a (hx.2 a rfl)

theorem ensures_refuse {bad : Prop} [Decidable bad] (e : ε) :
    Ensures (refuse bad (.refused e : Stop ε)) fun _ => ¬bad := by
  unfold refuse
  split_ifs with h
  · exact ensures_refused e
  · exact ensures_ok h

theorem ensures_instead (h : Ensures x P) (e : ε) : Ensures (instead x e) P := by
  match x with
  | .ok a => exact h
  | .error .outside => exact h
  | .error (.refused _) => exact ensures_refused e

theorem ensures_piece {data : List α} {start length : ℕ} (h : start + length ≤ data.length) :
    Ensures (piece data start length : Except (Stop ε) _) fun read =>
      read = (data.drop start).take length := by
  rw [piece, if_pos h]
  exact ensures_ok rfl

theorem ensures_item {data : List α} {i : ℕ} (h : i < data.length) :
    Ensures (item data i : Except (Stop ε) _) fun a => data[i]? = some a := by
  rw [item, List.getElem?_eq_getElem h]
  exact ensures_ok rfl

/-! ## Counted loops -/

/-- A loop of `n` turns. -/
def times (turn : σ → Except ε σ) : ℕ → σ → Except ε σ
  | 0, s => .ok s
  | n + 1, s => turn s >>= times turn n

/-- **The loop rule.** -/
theorem ensures_times {turn : σ → Except (Stop ε) σ} {I : ℕ → σ → Prop}
    (hturn : ∀ k s, I k s → Ensures (turn s) (I (k + 1))) (n : ℕ) {k : ℕ} {s : σ} (h : I k s) :
    Ensures (times turn n s) (I (k + n)) := by
  induction n generalizing k s with
  | zero => exact ensures_ok h
  | succ n ih =>
    refine ensures_bind (hturn k s h) fun s' hs' => ?_
    rw [Nat.add_succ, ← Nat.succ_add]
    exact ih hs'

end Reading
