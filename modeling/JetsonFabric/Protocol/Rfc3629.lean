import JetsonFabric.Protocol.Utf8

/-!
# The check of UTF-8 texts

`is_valid_utf8` accepts the encodings of texts and nothing else, and its scan reads no byte past the
end.

* **`isValidUtf8_iff`**: a text is valid exactly if it encodes Unicode scalar values.
-/

namespace JetsonFabric

/-! ## One character -/

/-- The bytes of one character, as the scan accepts them. -/
def IsSequence : Bytes → Prop
  | [] => False
  | lead :: rest => sequenceWidth lead = .ok (rest.length + 1) ∧ validateSequence lead rest = true

theorem isContinuation_iff {b : UInt8} :
    isContinuation b = true ↔ 0x80 ≤ b.toNat ∧ b.toNat ≤ 0xbf := by
  revert b
  decide +kernel

theorem sequenceWidth_eq_ok {lead : UInt8} {width : Nat} :
    sequenceWidth lead = .ok width ↔
      (width = 1 ∧ lead.toNat ≤ 0x7f) ∨ (width = 2 ∧ 0xc2 ≤ lead.toNat ∧ lead.toNat ≤ 0xdf) ∨
      (width = 3 ∧ 0xe0 ≤ lead.toNat ∧ lead.toNat ≤ 0xef) ∨
      (width = 4 ∧ 0xf0 ≤ lead.toNat ∧ lead.toNat ≤ 0xf4) := by
  simp only [sequenceWidth, UInt8.le_iff_toNat_le, UInt8.reduceToNat]
  split_ifs <;> simp only [Except.ok.injEq, false_iff] <;> omega

/-- The second byte is in the range that the first one leaves. -/
def SecondFits (lead second : Nat) : Prop :=
  (lead = 0xe0 → 0xa0 ≤ second) ∧ (lead = 0xed → second ≤ 0x9f) ∧
    (lead = 0xf0 → 0x90 ≤ second) ∧ (lead = 0xf4 → second ≤ 0x8f)

theorem validateSequence_cons {lead second : UInt8} {rest : Bytes} :
    validateSequence lead (second :: rest) = true ↔
      (∀ b ∈ second :: rest, 0x80 ≤ b.toNat ∧ b.toNat ≤ 0xbf) ∧
        SecondFits lead.toNat second.toNat := by
  simp only [validateSequence, Bool.and_eq_true, List.all_eq_true, isContinuation_iff]
  refine and_congr_right fun _ => ?_
  simp only [SecondFits, Bool.not_eq_true', Bool.or_eq_false_iff, Bool.and_eq_false_imp, beq_iff_eq,
    decide_eq_false_iff_not, UInt8.lt_iff_toNat_lt, gt_iff_lt, ← UInt8.toNat_inj, UInt8.reduceToNat,
    not_lt]
  tauto

theorem exists_char {n : Nat} (h : n.isValidChar) : ∃ c : Char, c.val.toNat = n :=
  ⟨Char.ofNatAux n h, rfl⟩

theorem ofNat_eq_of_toNat {n : Nat} {b : UInt8} (h : n = b.toNat) : UInt8.ofNat n = b := by
  rw [h, UInt8.ofNat_toNat]

/-- What the scan accepts encodes a character. -/
theorem IsSequence.exists_char {bytes : Bytes} (h : IsSequence bytes) :
    ∃ c : Char, bytes = String.utf8EncodeChar c := by
  match bytes, h with
  | [a], ⟨hwidth, _⟩ =>
    rw [sequenceWidth_eq_ok] at hwidth
    simp only [List.length_nil] at hwidth
    obtain ⟨c, hc⟩ := JetsonFabric.exists_char (n := a.toNat) (.inl (by omega))
    refine ⟨c, ?_⟩
    simp only [String.utf8EncodeChar, hc]
    rw [if_pos (by omega), UInt8.ofNat_toNat]
  | [a, b], ⟨hwidth, hvalid⟩ =>
    rw [sequenceWidth_eq_ok] at hwidth
    rw [validateSequence_cons] at hvalid
    simp only [List.length_cons, List.length_nil, List.mem_singleton, forall_eq] at hwidth hvalid
    obtain ⟨c, hc⟩ := JetsonFabric.exists_char
      (n := (a.toNat - 0xc0) * 64 + (b.toNat - 0x80)) (.inl (by omega))
    refine ⟨c, ?_⟩
    simp only [String.utf8EncodeChar, hc]
    rw [if_neg (by omega), if_pos (by omega), ofNat_eq_of_toNat (b := a) (by omega),
      ofNat_eq_of_toNat (b := b) (by omega)]
  | [a, b, c], ⟨hwidth, hvalid⟩ =>
    rw [sequenceWidth_eq_ok] at hwidth
    rw [validateSequence_cons] at hvalid
    simp only [List.length_cons, List.length_nil, List.forall_mem_cons, List.mem_singleton,
      forall_eq, SecondFits] at hwidth hvalid
    obtain ⟨char, hchar⟩ := JetsonFabric.exists_char
      (n := (a.toNat - 0xe0) * 4096 + (b.toNat - 0x80) * 64 + (c.toNat - 0x80))
      (by unfold Nat.isValidChar; omega)
    refine ⟨char, ?_⟩
    simp only [String.utf8EncodeChar, hchar]
    rw [if_neg (by omega), if_neg (by omega), if_pos (by omega),
      ofNat_eq_of_toNat (b := a) (by omega), ofNat_eq_of_toNat (b := b) (by omega),
      ofNat_eq_of_toNat (b := c) (by omega)]
  | [a, b, c, d], ⟨hwidth, hvalid⟩ =>
    rw [sequenceWidth_eq_ok] at hwidth
    rw [validateSequence_cons] at hvalid
    simp only [List.length_cons, List.length_nil, List.forall_mem_cons, List.mem_singleton,
      forall_eq, SecondFits] at hwidth hvalid
    obtain ⟨char, hchar⟩ := JetsonFabric.exists_char
      (n := (a.toNat - 0xf0) * 262144 + (b.toNat - 0x80) * 4096 + (c.toNat - 0x80) * 64 +
        (d.toNat - 0x80)) (by unfold Nat.isValidChar; omega)
    refine ⟨char, ?_⟩
    simp only [String.utf8EncodeChar, hchar]
    rw [if_neg (by omega), if_neg (by omega), if_neg (by omega),
      ofNat_eq_of_toNat (b := a) (by omega), ofNat_eq_of_toNat (b := b) (by omega),
      ofNat_eq_of_toNat (b := c) (by omega), ofNat_eq_of_toNat (b := d) (by omega)]
  | a :: b :: c :: d :: e :: rest, ⟨hwidth, _⟩ =>
    rw [sequenceWidth_eq_ok] at hwidth
    simp only [List.length_cons] at hwidth
    omega

theorem toNat_ofNat_of_lt {n : Nat} (h : n < 256) : (UInt8.ofNat n).toNat = n := by
  rw [UInt8.toNat_ofNat', Nat.mod_eq_of_lt h]

/-- The encoding of a character is accepted. -/
theorem isSequence_utf8EncodeChar (c : Char) : IsSequence (String.utf8EncodeChar c) := by
  have hvalid : c.val.toNat < 0xd800 ∨ (0xdfff < c.val.toNat ∧ c.val.toNat < 0x110000) := c.valid
  simp only [String.utf8EncodeChar]
  generalize c.val.toNat = v at hvalid
  split_ifs
  · refine ⟨?_, rfl⟩
    rw [sequenceWidth_eq_ok, toNat_ofNat_of_lt (by omega)]
    exact .inl ⟨rfl, by omega⟩
  · refine ⟨?_, ?_⟩
    · rw [sequenceWidth_eq_ok, toNat_ofNat_of_lt (by omega)]
      exact .inr (.inl ⟨rfl, by omega, by omega⟩)
    · rw [validateSequence_cons]
      simp only [List.forall_mem_singleton, SecondFits]
      rw [toNat_ofNat_of_lt (by omega), toNat_ofNat_of_lt (by omega)]
      omega
  · refine ⟨?_, ?_⟩
    · rw [sequenceWidth_eq_ok, toNat_ofNat_of_lt (by omega)]
      exact .inr (.inr (.inl ⟨rfl, by omega, by omega⟩))
    · rw [validateSequence_cons]
      simp only [List.mem_cons, List.not_mem_nil, or_false, forall_eq_or_imp, forall_eq, SecondFits]
      rw [toNat_ofNat_of_lt (by omega), toNat_ofNat_of_lt (by omega), toNat_ofNat_of_lt (by omega)]
      omega
  · refine ⟨?_, ?_⟩
    · rw [sequenceWidth_eq_ok, toNat_ofNat_of_lt (by omega)]
      exact .inr (.inr (.inr ⟨rfl, by omega, by omega⟩))
    · rw [validateSequence_cons]
      simp only [List.mem_cons, List.not_mem_nil, or_false, forall_eq_or_imp, forall_eq, SecondFits]
      rw [toNat_ofNat_of_lt (by omega), toNat_ofNat_of_lt (by omega), toNat_ofNat_of_lt (by omega),
        toNat_ofNat_of_lt (by omega)]
      omega

/-! ## Texts -/

theorem IsSequence.isValidUtf8 {bytes : Bytes} (h : IsSequence bytes) :
    isValidUtf8 bytes = true := by
  match bytes, h with
  | lead :: rest, ⟨hwidth, hvalid⟩ =>
    have htake : rest.take (rest.length + 1 - 1) = rest := List.take_length
    have hdrop : rest.drop (rest.length + 1 - 1) = [] := List.drop_length
    rw [isValidUtf8_eq, completeUtf8Prefix, hwidth]
    simp only [htake, hdrop, hvalid, lt_self_iff_false, if_false, not_true, and_false,
      completeUtf8Prefix, List.length_cons, Nat.add_zero]

theorem isSequence_take {lead : UInt8} {rest : Bytes} {width : Nat}
    (hwidth : sequenceWidth lead = .ok width) (hlong : ¬ rest.length + 1 < width)
    (hsequence : ¬ (width > 1 ∧ ¬ validateSequence lead (rest.take (width - 1)))) :
    IsSequence (lead :: rest.take (width - 1)) := by
  have hpositive := sequenceWidth_pos hwidth
  constructor
  · rw [hwidth, List.length_take, Nat.min_eq_left (by omega), Nat.sub_add_cancel hpositive]
  · by_cases hone : width > 1
    · simpa using fun hinvalid => hsequence ⟨hone, hinvalid⟩
    · rw [Nat.sub_eq_zero_of_le (not_lt.1 hone), List.take_zero]
      rfl

theorem exists_sequences {value : Bytes} (h : isValidUtf8 value = true) :
    ∃ pieces : List Bytes, (∀ piece ∈ pieces, IsSequence piece) ∧ value = pieces.flatten := by
  rw [isValidUtf8_eq] at h
  fun_induction completeUtf8Prefix value with
  | case1 => exact ⟨[], by simp, rfl⟩
  | case2 => cases h
  | case3 => cases h
  | case4 => cases h
  | case5 => cases h
  | case6 lead rest width hwidth hlong hsequence m hrest ih =>
    have hpositive := sequenceWidth_pos hwidth
    have hm : m = (rest.drop (width - 1)).length := by
      simp only [List.length_cons, Except.ok.injEq] at h
      rw [List.length_drop]
      omega
    obtain ⟨pieces, hpieces, hflatten⟩ := ih (by rw [hrest, hm])
    refine ⟨(lead :: rest.take (width - 1)) :: pieces, ?_, ?_⟩
    · exact List.forall_mem_cons.2 ⟨isSequence_take hwidth hlong hsequence, hpieces⟩
    · rw [List.flatten_cons, ← hflatten, List.cons_append, List.take_append_drop]

theorem isValidUtf8_iff_sequences {value : Bytes} :
    isValidUtf8 value = true ↔
      ∃ pieces : List Bytes, (∀ piece ∈ pieces, IsSequence piece) ∧ value = pieces.flatten := by
  refine ⟨exists_sequences, ?_⟩
  rintro ⟨pieces, hpieces, rfl⟩
  induction pieces with
  | nil => simp [isValidUtf8_eq, completeUtf8Prefix]
  | cons piece pieces ih =>
    rw [List.forall_mem_cons] at hpieces
    exact isValidUtf8_append hpieces.1.isValidUtf8 (ih hpieces.2)

theorem exists_chars_iff {value : Bytes} :
    (∃ pieces : List Bytes, (∀ piece ∈ pieces, IsSequence piece) ∧ value = pieces.flatten) ↔
      ∃ chars : List Char, value = chars.flatMap String.utf8EncodeChar := by
  constructor
  · rintro ⟨pieces, hpieces, rfl⟩
    induction pieces with
    | nil => exact ⟨[], rfl⟩
    | cons piece pieces ih =>
      rw [List.forall_mem_cons] at hpieces
      obtain ⟨c, rfl⟩ := hpieces.1.exists_char
      obtain ⟨chars, hchars⟩ := ih hpieces.2
      exact ⟨c :: chars, by rw [List.flatten_cons, hchars, List.flatMap_cons]⟩
  · rintro ⟨chars, rfl⟩
    refine ⟨chars.map String.utf8EncodeChar, ?_, List.flatMap_def⟩
    intro piece hpiece
    obtain ⟨c, -, rfl⟩ := List.mem_map.1 hpiece
    exact isSequence_utf8EncodeChar c

/-! ## Reads -/

/-- The loop of `validate_sequence`; `none` is a read past the end. -/
def continuationLoop (value : Bytes) (offset index : Nat) : Nat → Option Bool
  | 0 => some true
  | remaining + 1 => do
    let b ← value[offset + index]?
    if isContinuation b then continuationLoop value offset (index + 1) remaining else some false

/-- `validate_sequence`, whether it returns. -/
def validateSequenceAt (value : Bytes) (offset width : Nat) : Option Bool := do
  let lead ← value[offset]?
  if ← continuationLoop value offset 1 (width - 1) then
    let second ← value[offset + 1]?
    pure !((lead == 0xe0 && second < 0xa0) || (lead == 0xed && second > 0x9f) ||
      (lead == 0xf0 && second < 0x90) || (lead == 0xf4 && second > 0x8f))
  else pure false

/-- The loop of `complete_utf8_prefix` from an offset on. -/
def scanFrom (value : Bytes) : (fuel offset : Nat) → Option (Except Bytes Nat)
  | 0, _ => none
  | fuel + 1, offset =>
    if offset < value.length then do
      let lead ← value[offset]?
      match sequenceWidth lead with
      | .error e => some (.error e)
      | .ok width =>
        if value.length - offset < width then some (.ok offset)
        else if width > 1 then
          if ← validateSequenceAt value offset width then scanFrom value fuel (offset + width)
          else some (.error malformedUtf8)
        else scanFrom value fuel (offset + width)
    else some (.ok offset)

/-- `complete_utf8_prefix` by offsets. -/
def scan (value : Bytes) : Option (Except Bytes Nat) := scanFrom value (value.length + 1) 0

section Reads

variable {value rest : Bytes} {lead : UInt8} {offset width : Nat}

theorem continuationLoop_eq {index remaining : Nat}
    (h : offset + index + remaining ≤ value.length) :
    continuationLoop value offset index remaining =
      some (((value.drop (offset + index)).take remaining).all isContinuation) := by
  induction remaining generalizing index with
  | zero => rfl
  | succ remaining ih =>
    have hread : offset + index < value.length := by omega
    rw [continuationLoop, List.getElem?_eq_getElem hread, List.drop_eq_getElem_cons hread,
      List.take_succ_cons, List.all_cons]
    simp only [Option.bind_some, Option.bind_eq_bind]
    split
    · next hcontinuation =>
      rw [ih (by omega), hcontinuation, Bool.true_and, Nat.add_assoc]
    · next hcontinuation =>
      rw [Bool.not_eq_true] at hcontinuation
      rw [hcontinuation, Bool.false_and]

theorem drop_eq_cons (h : value.drop offset = lead :: rest) :
    value[offset]? = some lead ∧ value.drop (offset + 1) = rest ∧
      value.length = offset + (rest.length + 1) := by
  have hlength := congrArg List.length h
  rw [List.length_drop, List.length_cons] at hlength
  refine ⟨?_, ?_, by omega⟩
  · rw [← List.head?_drop, h, List.head?_cons]
  · rw [← List.tail_drop, h, List.tail_cons]

theorem validateSequenceAt_eq (h : value.drop offset = lead :: rest) (hwide : 1 < width)
    (hlong : width ≤ rest.length + 1) :
    validateSequenceAt value offset width =
      some (validateSequence lead (rest.take (width - 1))) := by
  obtain ⟨hlead, hrest, hlength⟩ := drop_eq_cons h
  obtain ⟨second, tail, rfl⟩ := List.exists_cons_of_length_pos (l := rest) (by omega)
  have hsecond := (drop_eq_cons hrest).1
  rw [validateSequenceAt, hlead, continuationLoop_eq (by omega), hrest, hsecond]
  obtain ⟨n, rfl⟩ : ∃ n, width = n + 2 := ⟨width - 2, by omega⟩
  simp only [Option.bind_some, Option.bind_eq_bind, validateSequence,
    List.take_succ_cons, show n + 2 - 1 = n + 1 from rfl]
  cases ((second :: tail.take n).all isContinuation) <;> rfl

theorem scanFrom_eq {fuel : Nat} (hfuel : value.length - offset < fuel)
    (hoffset : offset ≤ value.length) :
    scanFrom value fuel offset =
      some ((completeUtf8Prefix (value.drop offset)).map (offset + ·)) := by
  induction fuel generalizing offset with
  | zero => exact absurd hfuel (Nat.not_lt_zero _)
  | succ fuel ih =>
    rw [scanFrom]
    cases hdrop : value.drop offset with
    | nil =>
      have hend := List.drop_eq_nil_iff.1 hdrop
      rw [if_neg (by omega), completeUtf8Prefix]
      rfl
    | cons lead rest =>
      obtain ⟨hlead, hrest, hlength⟩ := drop_eq_cons hdrop
      rw [if_pos (by omega), hlead, completeUtf8Prefix]
      simp only [Option.bind_some, Option.bind_eq_bind]
      cases hwidth : sequenceWidth lead with
      | error e => rfl
      | ok width =>
        have hpositive := sequenceWidth_pos hwidth
        simp only
        by_cases hshort : rest.length + 1 < width
        · rw [if_pos hshort, if_pos (by omega)]
          rfl
        rw [if_neg hshort, if_neg (by omega)]
        -- the scan goes on behind the character
        have hnext : rest.drop (width - 1) = value.drop (offset + width) := by
          rw [← hrest, List.drop_drop]
          congr 1
          omega
        have hscan : scanFrom value fuel (offset + width) = some
            ((match completeUtf8Prefix (rest.drop (width - 1)) with
              | .error e => .error e
              | .ok n => .ok (width + n) : Except Bytes Nat).map (offset + ·)) := by
          rw [ih (by omega) (by omega), hnext]
          cases completeUtf8Prefix (value.drop (offset + width)) with
          | error e => rfl
          | ok n => exact congrArg (fun n => some (Except.ok n)) (Nat.add_assoc ..)
        by_cases hwide : width > 1
        · rw [if_pos hwide, validateSequenceAt_eq hdrop hwide (by omega), Option.bind_some]
          cases hvalid : validateSequence lead (rest.take (width - 1)) with
          | false =>
            rw [if_neg Bool.false_ne_true, if_pos ⟨hwide, Bool.false_ne_true⟩]
            rfl
          | true =>
            rw [if_pos rfl, if_neg fun h => h.2 rfl]
            exact hscan
        · rw [if_neg hwide, if_neg fun h => hwide h.1]
          exact hscan

/-- **No read past the end** in the scan by offsets. -/
theorem scan_eq (value : Bytes) : scan value = some (completeUtf8Prefix value) := by
  rw [scan, scanFrom_eq (by omega) (Nat.zero_le _), List.drop_zero]
  cases completeUtf8Prefix value with
  | error e => rfl
  | ok n => exact congrArg (fun n => some (Except.ok n)) (Nat.zero_add n)

end Reads

/-- **The check of UTF-8** is that of encoded Unicode scalar values. -/
theorem isValidUtf8_iff (value : Bytes) :
    (isValidUtf8 value = true ↔ ∃ chars : List Char, value = chars.flatMap String.utf8EncodeChar) ∧
      scan value = some (completeUtf8Prefix value) :=
  ⟨isValidUtf8_iff_sequences.trans exists_chars_iff, scan_eq value⟩

end JetsonFabric
