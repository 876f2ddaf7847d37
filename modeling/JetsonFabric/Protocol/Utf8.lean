import JetsonFabric.Bytes

/-!
# Complete UTF-8 prefixes

`protocol/utf8.cpp`: the length of the longest prefix of a byte string that is made of whole
characters, or an error when the bytes are malformed.
-/

namespace JetsonFabric

def malformedUtf8 : Bytes := str "token text contains malformed UTF-8"

def isContinuation (b : UInt8) : Bool := b &&& 0xc0 == 0x80

/-- The width of the character that starts with this byte. -/
def sequenceWidth (lead : UInt8) : Except Bytes Nat :=
  if lead ≤ 0x7f then .ok 1
  else if 0xc2 ≤ lead ∧ lead ≤ 0xdf then .ok 2
  else if 0xe0 ≤ lead ∧ lead ≤ 0xef then .ok 3
  else if 0xf0 ≤ lead ∧ lead ≤ 0xf4 then .ok 4
  else .error malformedUtf8

/-- Continuations follow, the second in the range of the first. -/
def validateSequence (lead : UInt8) (rest : Bytes) : Bool :=
  rest.all isContinuation && match rest with
    | [] => true
    | second :: _ =>
      !((lead == 0xe0 && second < 0xa0) || (lead == 0xed && second > 0x9f) ||
        (lead == 0xf0 && second < 0x90) || (lead == 0xf4 && second > 0x8f))

/-- The length of the prefix of whole characters. -/
def completeUtf8Prefix : Bytes → Except Bytes Nat
  | [] => .ok 0
  | lead :: rest =>
    match sequenceWidth lead with
    | .error e => .error e
    | .ok width =>
      if rest.length + 1 < width then .ok 0
      else if width > 1 ∧ ¬ validateSequence lead (rest.take (width - 1)) then
        .error malformedUtf8
      else
        match completeUtf8Prefix (rest.drop (width - 1)) with
        | .error e => .error e
        | .ok n => .ok (width + n)
termination_by value => value.length
decreasing_by simp

/-- Whether the bytes are whole characters to their end. -/
def isValidUtf8 (value : Bytes) : Bool :=
  match completeUtf8Prefix value with
  | .ok n => n == value.length
  | .error _ => false

variable {value : Bytes}

theorem completeUtf8Prefix_of_ascii (h : ∀ b ∈ value, b ≤ 0x7f) :
    completeUtf8Prefix value = .ok value.length := by
  induction value with
  | nil => rw [completeUtf8Prefix, List.length_nil]
  | cons lead rest ih =>
    have hlead : sequenceWidth lead = .ok 1 := if_pos (h lead List.mem_cons_self)
    have hrest := ih fun b hb => h b (List.mem_cons_of_mem _ hb)
    rw [completeUtf8Prefix, hlead]
    simp [hrest, Nat.add_comm]

/-- Text of ASCII characters is valid. -/
theorem isValidUtf8_of_ascii (h : value.all (· ≤ 0x7f) = true) :
    isValidUtf8 value = true := by
  have hascii : ∀ b ∈ value, b ≤ 0x7f := by simpa using h
  simp [isValidUtf8, completeUtf8Prefix_of_ascii hascii]

/-- A text of ASCII characters. -/
def IsAscii (text : Bytes) : Prop := text.all (· ≤ 0x7f) = true

instance (text : Bytes) : Decidable (IsAscii text) := inferInstanceAs (Decidable (_ = true))

theorem IsAscii.append {text rest : Bytes} (h : IsAscii text) (hrest : IsAscii rest) :
    IsAscii (text ++ rest) := by
  unfold IsAscii at h hrest ⊢
  rw [List.all_append, h, hrest]
  rfl

theorem IsAscii.isValidUtf8 {text : Bytes} (h : IsAscii text) : isValidUtf8 text = true :=
  isValidUtf8_of_ascii h

theorem isValidUtf8_eq :
    isValidUtf8 value = true ↔ completeUtf8Prefix value = .ok value.length := by
  unfold isValidUtf8
  cases completeUtf8Prefix value <;> simp

theorem sequenceWidth_pos {lead : UInt8} {width : Nat} (h : sequenceWidth lead = .ok width) :
    0 < width := by
  unfold sequenceWidth at h
  split_ifs at h <;> cases h <;> decide

/-- Whole characters before a text only move its prefix. -/
theorem completeUtf8Prefix_append (h : isValidUtf8 value = true) (rest : Bytes) :
    completeUtf8Prefix (value ++ rest) =
      (completeUtf8Prefix rest).map (value.length + ·) := by
  rw [isValidUtf8_eq] at h
  fun_induction completeUtf8Prefix value with
  | case1 =>
    rw [List.nil_append]
    cases completeUtf8Prefix rest <;> simp [Except.map]
  | case2 => cases h
  | case3 => cases h
  | case4 => cases h
  | case5 => cases h
  | case6 lead tail width hwidth hlong hsequence m htail ih =>
    have hpositive := sequenceWidth_pos hwidth
    have hm : m = (tail.drop (width - 1)).length := by
      simp only [List.length_cons, Except.ok.injEq] at h
      rw [List.length_drop]
      omega
    have hrest := ih (by rw [htail, hm])
    -- the first character is the same, whatever follows
    have htake : (tail ++ rest).take (width - 1) = tail.take (width - 1) := by
      rw [List.take_append_of_le_length (by omega)]
    have hdrop : (tail ++ rest).drop (width - 1) = tail.drop (width - 1) ++ rest := by
      rw [List.drop_append_of_le_length (by omega)]
    rw [List.cons_append, completeUtf8Prefix, hwidth]
    simp only [htake, hdrop, hrest, List.length_append, if_neg hsequence]
    rw [if_neg (by omega)]
    cases completeUtf8Prefix rest with
    | error e => rfl
    | ok n =>
      simp only [Except.map, Except.ok.injEq, List.length_cons, List.length_drop]
      omega

theorem isValidUtf8_append_iff {rest : Bytes} (h : isValidUtf8 value = true) :
    isValidUtf8 (value ++ rest) = true ↔ isValidUtf8 rest = true := by
  rw [isValidUtf8_eq, completeUtf8Prefix_append h, isValidUtf8_eq, List.length_append]
  cases completeUtf8Prefix rest <;> simp [Except.map]

theorem isValidUtf8_append {rest : Bytes} (h : isValidUtf8 value = true)
    (hrest : isValidUtf8 rest = true) : isValidUtf8 (value ++ rest) = true :=
  (isValidUtf8_append_iff h).2 hrest

theorem isValidUtf8_ascii_append {rest : Bytes} (h : IsAscii value) :
    isValidUtf8 (value ++ rest) = true ↔ isValidUtf8 rest = true :=
  isValidUtf8_append_iff h.isValidUtf8

theorem isContinuation_ascii {b : UInt8} (h : b ≤ 0x7f) : isContinuation b = false := by
  revert b
  decide +kernel

theorem completeUtf8Prefix_cons {lead : UInt8} {rest : Bytes} {width : Nat}
    (hwidth : sequenceWidth lead = .ok width)
    (h : completeUtf8Prefix (lead :: rest) = .ok (rest.length + 1)) :
    width ≤ rest.length + 1 ∧ (1 < width → validateSequence lead (rest.take (width - 1)) = true) ∧
      completeUtf8Prefix (rest.drop (width - 1)) = .ok (rest.drop (width - 1)).length := by
  have hpositive := sequenceWidth_pos hwidth
  rw [completeUtf8Prefix, hwidth] at h
  dsimp only at h
  split_ifs at h with hshort hbad
  · cases h
  · cases hrest : completeUtf8Prefix (rest.drop (width - 1)) with
    | error e =>
      rw [hrest] at h
      cases h
    | ok n =>
      rw [hrest] at h
      have hlength : width + n = rest.length + 1 := Except.ok.inj h
      refine ⟨by omega, fun hlong => ?_, by rw [List.length_drop]; congr 1; omega⟩
      simpa [hlong] using hbad

/-- A text ends before an ASCII character. -/
theorem isValidUtf8_of_append_ascii {rest : Bytes} {b : UInt8} (hb : b ≤ 0x7f)
    (h : isValidUtf8 (value ++ b :: rest) = true) : isValidUtf8 value = true := by
  rw [isValidUtf8_eq] at h ⊢
  induction hn : value.length using Nat.strong_induction_on generalizing value with
  | _ n ih =>
  cases value with
  | nil =>
    subst hn
    rw [completeUtf8Prefix, List.length_nil]
  | cons lead tail =>
    cases hwidth : sequenceWidth lead with
    | error e =>
      rw [List.cons_append, completeUtf8Prefix, hwidth] at h
      cases h
    | ok width =>
      have hpositive := sequenceWidth_pos hwidth
      rw [List.cons_append] at h
      obtain ⟨hle, hvalid, hrest⟩ := completeUtf8Prefix_cons hwidth h
      -- the characters of the text do not reach over the ASCII one
      have hfits : width ≤ tail.length + 1 := by
        by_contra hlong
        have hmem : b ∈ (tail ++ b :: rest).take (width - 1) := by
          rw [List.take_append]
          refine List.mem_append_right _ ?_
          obtain ⟨m, hm⟩ : ∃ m, width - 1 - tail.length = m + 1 := ⟨width - 2 - tail.length, by omega⟩
          rw [hm, List.take_succ_cons]
          exact List.mem_cons_self
        have hall := hvalid (by omega)
        unfold validateSequence at hall
        rw [Bool.and_eq_true, List.all_eq_true] at hall
        have hcontinuation := hall.1 b hmem
        rw [isContinuation_ascii hb] at hcontinuation
        cases hcontinuation
      rw [List.drop_append_of_le_length (by omega)] at hrest
      rw [List.take_append_of_le_length (by omega)] at hvalid
      rw [List.length_cons] at hn
      have htail := ih (tail.drop (width - 1)).length (by rw [List.length_drop]; omega) hrest rfl
      rw [completeUtf8Prefix, hwidth]
      dsimp only
      rw [if_neg (by omega), if_neg (fun hbad => hbad.2 (hvalid hbad.1)), htail]
      simp only [List.length_drop, Except.ok.injEq]
      omega

/-- The prefix of whole characters is valid. -/
theorem isValidUtf8_take {n : Nat} (h : completeUtf8Prefix value = .ok n) :
    isValidUtf8 (value.take n) = true := by
  fun_induction completeUtf8Prefix value generalizing n with
  | case1 =>
    simp [isValidUtf8_eq, completeUtf8Prefix]
  | case2 => cases h
  | case3 =>
    cases h
    simp [isValidUtf8_eq, completeUtf8Prefix]
  | case4 => cases h
  | case5 => cases h
  | case6 lead rest width hwidth hlong hsequence m hrest ih =>
    cases h
    have hpositive := sequenceWidth_pos hwidth
    have htail := isValidUtf8_eq.1 (ih hrest)
    -- the first character is kept whole, and the rest is the prefix of the rest
    have htake : (lead :: rest).take (width + m) = lead :: rest.take (width - 1 + m) := by
      rw [show width + m = (width - 1 + m) + 1 by omega, List.take_succ_cons]
    have hfirst : (rest.take (width - 1 + m)).take (width - 1) = rest.take (width - 1) := by
      rw [List.take_take, Nat.min_eq_left (by omega)]
    have hdrop : (rest.take (width - 1 + m)).drop (width - 1) = (rest.drop (width - 1)).take m := by
      rw [List.drop_take, Nat.add_sub_cancel_left]
    have hlength := congrArg List.length hdrop
    rw [List.length_drop, List.length_take] at hlength
    rw [htake, isValidUtf8_eq, completeUtf8Prefix, hwidth]
    simp only [hfirst, hdrop, htail]
    rw [if_neg, if_neg hsequence]
    · simp only [List.length_cons, List.length_take, Except.ok.injEq] at hlength ⊢
      omega
    · rw [List.length_take]
      omega

theorem sequenceWidth_le {lead : UInt8} {width : Nat} (h : sequenceWidth lead = .ok width) :
    width ≤ 4 := by
  unfold sequenceWidth at h
  split_ifs at h <;> cases h <;> decide

/-- At most three bytes follow the prefix of whole characters. -/
theorem completeUtf8Prefix_bounds {n : Nat} (h : completeUtf8Prefix value = .ok n) :
    n ≤ value.length ∧ value.length ≤ n + 3 := by
  fun_induction completeUtf8Prefix value generalizing n with
  | case1 =>
    cases h
    exact ⟨le_rfl, Nat.zero_le _⟩
  | case2 => cases h
  | case3 lead rest width hwidth hshort =>
    cases h
    have := sequenceWidth_le hwidth
    exact ⟨Nat.zero_le _, by rw [List.length_cons]; omega⟩
  | case4 => cases h
  | case5 => cases h
  | case6 lead rest width hwidth hlong hsequence m hrest ih =>
    cases h
    have hpositive := sequenceWidth_pos hwidth
    have hbounds := ih hrest
    rw [List.length_drop] at hbounds
    rw [List.length_cons]
    omega

end JetsonFabric
