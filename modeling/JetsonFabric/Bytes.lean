import Mathlib

/-!
# Byte strings

The strings of both halves of the system (`std::string` in the runtime, `string` in the
coordinator) are byte strings: they are compared byte by byte and may hold any bytes.
-/

namespace JetsonFabric

/-- A byte string. -/
abbrev Bytes : Type := List UInt8

/-- The bytes of a literal of the source. -/
def str (s : String) : Bytes := s.toUTF8.data.toList

/-- An integer in decimal, as `std::to_string` and `%d` print it. -/
def decimal (n : Int) : Bytes := str (toString n)

/-- One lower-case hexadecimal digit. -/
def hexDigit (n : Nat) : UInt8 := if n < 10 then 48 + n.toUInt8 else 87 + n.toUInt8

/-- The escape of one byte inside a `%q` string. -/
def quoteByte (b : UInt8) : Bytes :=
  if b = 34 ∨ b = 92 then [92, b]
  else if b = 7 then str "\\a"
  else if b = 8 then str "\\b"
  else if b = 9 then str "\\t"
  else if b = 10 then str "\\n"
  else if b = 11 then str "\\v"
  else if b = 12 then str "\\f"
  else if b = 13 then str "\\r"
  else if b < 32 ∨ b = 127 then str "\\x" ++ [hexDigit (b.toNat / 16), hexDigit (b.toNat % 16)]
  else [b]

/-- A quoted string, as `%q` prints it. -/
def quote (s : Bytes) : Bytes := 34 :: s.flatMap quoteByte ++ [34]

/-- A hexadecimal digit, as `std::isxdigit` and `hex.DecodeString` take it. -/
def isXDigit (b : UInt8) : Bool :=
  (48 ≤ b && b ≤ 57) || (65 ≤ b && b ≤ 70) || (97 ≤ b && b ≤ 102)

/-! ## Decimal numbers -/

theorem str_ofList {l : List Char} (h : ∀ c ∈ l, c.val ≤ 0x7f) :
    str (String.ofList l) = l.map fun c => c.val.toUInt8 := by
  unfold str String.toUTF8
  rw [String.toByteArray_ofList, List.utf8Encode, List.data_toByteArray, List.toList_toArray]
  induction l with
  | nil => rfl
  | cons c l ih =>
    obtain ⟨hc, hl⟩ := List.forall_mem_cons.1 h
    rw [List.flatMap_cons, String.utf8EncodeChar_eq_singleton (Char.utf8Size_eq_one_iff.2 hc),
      ih hl, List.map_cons, List.singleton_append]

theorem digit_of_mem_toDigits {n : Nat} {c : Char} (hc : c ∈ Nat.toDigits 10 n) :
    48 ≤ c.val.toNat ∧ c.val.toNat ≤ 57 := by
  have hdigit := Nat.isDigit_of_mem_toDigits (by decide) (by decide) hc
  simp only [Char.isDigit, Bool.and_eq_true, decide_eq_true_eq, UInt32.le_iff_toNat_le] at hdigit
  exact hdigit

theorem str_repr (n : Nat) :
    str (Nat.repr n) = (Nat.toDigits 10 n).map fun c => c.val.toUInt8 := by
  refine str_ofList fun c hc => UInt32.le_iff_toNat_le.2 ?_
  have := digit_of_mem_toDigits hc
  exact this.2.trans (by decide)

theorem toNat_digit {c : Char} (h : 48 ≤ c.val.toNat ∧ c.val.toNat ≤ 57) :
    c.val.toUInt8.toNat = c.val.toNat := by
  rw [UInt32.toNat_toUInt8]
  omega

theorem mem_str_repr {n : Nat} {b : UInt8} (h : b ∈ str (Nat.repr n)) : 48 ≤ b ∧ b ≤ 57 := by
  rw [str_repr] at h
  obtain ⟨c, hc, rfl⟩ := List.mem_map.1 h
  have hdigit := digit_of_mem_toDigits hc
  rw [UInt8.le_iff_toNat_le, UInt8.le_iff_toNat_le, toNat_digit hdigit]
  exact hdigit

/-- The digits of a number give it back. -/
theorem foldl_str_repr (n : Nat) :
    (str (Nat.repr n)).foldl (fun m b => 10 * m + (b.toNat - 48)) 0 = n := by
  conv_rhs => rw [← Nat.ofDigitChars_ten_toDigits (n := n)]
  rw [str_repr, List.foldl_map, Nat.ofDigitChars]
  refine List.foldl_ext _ _ _ fun m c hc => ?_
  rw [toNat_digit (digit_of_mem_toDigits hc)]
  rfl

theorem str_repr_ne_nil (n : Nat) : str (Nat.repr n) ≠ [] := by
  rw [str_repr]
  exact fun h => Nat.toDigits_ne_nil (List.map_eq_nil_iff.1 h)

theorem decimal_negSucc (n : Nat) : decimal (.negSucc n) = 45 :: str (Nat.repr (n + 1)) := by
  show str ("-" ++ Nat.repr (n + 1)) = _
  simp [str, String.toUTF8]
  rfl

/-- The bytes of an integer in decimal are digits and the sign. -/
theorem mem_decimal {n : Int} {b : UInt8} (h : b ∈ decimal n) : b = 45 ∨ 48 ≤ b ∧ b ≤ 57 := by
  cases n with
  | ofNat m => exact .inr (mem_str_repr h)
  | negSucc m =>
    rw [decimal_negSucc, List.mem_cons] at h
    exact h.imp_right mem_str_repr

theorem str_injective : Function.Injective str := by
  intro s t h
  unfold str String.toUTF8 at h
  exact String.toByteArray_inj.1 (ByteArray.ext (Array.toList_inj.1 h))

theorem decimal_injective : Function.Injective decimal := by
  intro m n h
  have hrepr : m.repr = n.repr := str_injective h
  have hread := congrArg String.toInt? hrepr
  rw [Int.toInt?_repr, Int.toInt?_repr] at hread
  exact Option.some.inj hread

end JetsonFabric
