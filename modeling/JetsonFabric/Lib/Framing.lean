import Mathlib

/-!
# Length-prefixed frames

Numbers in network order, and messages whose header says how long they are.
-/

namespace Framing

/-- The last `width` bytes of a number, highest first. -/
def bigEndian : Nat → Nat → List UInt8
  | 0, _ => []
  | width + 1, n => (n / 256 ^ width).toUInt8 :: bigEndian width n

/-- The number that a list of bytes gives, highest first. -/
def ofBigEndian (bytes : List UInt8) : Nat := bytes.foldl (fun n b => 256 * n + b.toNat) 0

@[simp] theorem length_bigEndian (width n : Nat) : (bigEndian width n).length = width := by
  induction width with
  | zero => rfl
  | succ width ih => rw [bigEndian, List.length_cons, ih]

theorem foldl_bigEndian (width n start : Nat) :
    (bigEndian width n).foldl (fun n b => 256 * n + b.toNat) start =
      256 ^ width * start + n % 256 ^ width := by
  induction width generalizing start with
  | zero => simp [bigEndian, Nat.mod_one]
  | succ width ih =>
    have hbyte : (n / 256 ^ width).toUInt8.toNat = n / 256 ^ width % 256 := by simp
    have hmod : n % 256 ^ (width + 1) =
        256 ^ width * (n / 256 ^ width % 256) + n % 256 ^ width := by
      rw [pow_succ, Nat.mod_mul]
      ring
    rw [bigEndian, List.foldl_cons, ih, hbyte, hmod]
    ring

theorem ofBigEndian_bigEndian {width n : Nat} (h : n < 256 ^ width) :
    ofBigEndian (bigEndian width n) = n := by
  rw [ofBigEndian, foldl_bigEndian, Nat.mod_eq_of_lt h]
  simp

theorem bigEndian_mod {width limit : Nat} (h : width ≤ limit) (n : Nat) :
    bigEndian width (n % 256 ^ limit) = bigEndian width n := by
  induction width with
  | zero => rfl
  | succ width ih =>
    have hlimit : 256 ^ limit = 256 ^ width * (256 * 256 ^ (limit - width - 1)) := by
      rw [← pow_succ', ← pow_add]
      congr 1
      omega
    have hbyte : (n % 256 ^ limit / 256 ^ width).toUInt8 = (n / 256 ^ width).toUInt8 := by
      rw [← UInt8.toNat_inj, hlimit, Nat.mod_mul_right_div_self]
      simp
    rw [bigEndian, bigEndian, ih (by omega), hbyte]

/-! ## Frames -/

variable {α : Type*}

/-- A field of a message, cut out by its place and its length. -/
theorem slice_append (front field back : List α) {start length : Nat}
    (hstart : front.length = start) (hlength : field.length = length) :
    ((front ++ (field ++ back)).drop start).take length = field := by
  rw [List.drop_left' hstart, List.take_left' hlength]

/-- The first `header` elements give the length of the input. -/
def SelfDelimiting (header : Nat) (size : List α → Nat) (accepts : List α → Prop) : Prop :=
  ∀ input, accepts input → header ≤ input.length ∧ input.length = size (input.take header)

theorem SelfDelimiting.eq_of_extends {header : Nat} {size : List α → Nat} {accepts : List α → Prop}
    (h : SelfDelimiting header size accepts) {a b : List α} (ha : accepts a) (hb : accepts b)
    (hextends : a <+: b) : a = b := by
  obtain ⟨hlong, hsize⟩ := h a ha
  obtain ⟨-, hsize'⟩ := h b hb
  refine hextends.eq_of_length ?_
  obtain ⟨rest, rfl⟩ := hextends
  rw [hsize, hsize', List.take_append_of_le_length hlong]

theorem SelfDelimiting.mono {header : Nat} {size : List α → Nat} {accepts accepts' : List α → Prop}
    (h : SelfDelimiting header size accepts) (hle : ∀ input, accepts' input → accepts input) :
    SelfDelimiting header size accepts' :=
  fun input hinput => h input (hle input hinput)

/-- What goes on from an input, or stops short of it, is refused. -/
theorem SelfDelimiting.error_of_extends {ε β : Type*} {header : Nat} {size : List α → Nat}
    {read : List α → Except ε β}
    (h : SelfDelimiting header size fun input => ∃ value, read input = .ok value)
    {a b : List α} {value : β} (ha : read a = .ok value) (hextends : b <+: a ∨ a <+: b)
    (hne : b ≠ a) : ∃ error, read b = .error error := by
  cases hb : read b with
  | error error => exact ⟨error, rfl⟩
  | ok value' =>
    exfalso
    rcases hextends with hback | hforth
    · exact hne (h.eq_of_extends ⟨value', hb⟩ ⟨value, ha⟩ hback)
    · exact hne (h.eq_of_extends ⟨value, ha⟩ ⟨value', hb⟩ hforth).symm

end Framing
