import JetsonFabric.Lib.Json

/-!
# Compact JSON text

A printer of JSON without spaces and a recursive-descent parser for it. The parser is given as much
fuel as its input has bytes, which is enough: every call eats at least one.
-/

namespace Json

/-! ## Printing -/

/-- One lower-case hexadecimal digit. -/
def hexByte (n : Nat) : UInt8 := if n < 10 then 48 + n.toUInt8 else 87 + n.toUInt8

/-- A byte inside a string, escaped if it must be. -/
def escape (b : UInt8) : List UInt8 :=
  if b = 34 ∨ b = 92 then [92, b]
  else if b < 32 then [92, 117, 48, 48, hexByte (b.toNat / 16), hexByte (b.toNat % 16)]
  else [b]

def quoted (text : List UInt8) : List UInt8 := 34 :: text.flatMap escape ++ [34]

/-- The decimal digits of a number below the fuel. -/
def digitsText : Nat → Nat → List UInt8
  | 0, _ => []
  | fuel + 1, n =>
    if n < 10 then [48 + n.toUInt8] else digitsText fuel (n / 10) ++ [48 + (n % 10).toUInt8]

def naturalText (n : Nat) : List UInt8 := digitsText (n + 1) n

def intText : Int → List UInt8
  | .ofNat n => naturalText n
  | .negSucc n => 45 :: naturalText (n + 1)

mutual

/-- A value without spaces. -/
def text : Json → List UInt8
  | null => [110, 117, 108, 108]
  | bool true => [116, 114, 117, 101]
  | bool false => [102, 97, 108, 115, 101]
  | int n => intText n
  | real literal => literal
  | string s => quoted s
  | array items => 91 :: itemsText items
  | object fields => 123 :: fieldsText fields

/-- The items of an array and its closing bracket. -/
def itemsText : List Json → List UInt8
  | [] => [93]
  | [item] => text item ++ [93]
  | item :: next :: items => text item ++ 44 :: itemsText (next :: items)

/-- The fields of an object and its closing brace. -/
def fieldsText : List (List UInt8 × Json) → List UInt8
  | [] => [125]
  | [(name, value)] => quoted name ++ 58 :: text value ++ [125]
  | (name, value) :: next :: fields =>
    quoted name ++ 58 :: text value ++ 44 :: fieldsText (next :: fields)

end

/-! ## Parsing -/

def hexValue (b : UInt8) : Nat := if b < 58 then b.toNat - 48 else b.toNat - 87

/-- The bytes of a string up to its closing quote, and what follows it. -/
def readString : List UInt8 → Option (List UInt8 × List UInt8)
  | [] => none
  | b :: rest =>
    if b = 34 then some ([], rest)
    else if b = 92 then
      match rest with
      | 117 :: _ :: _ :: high :: low :: rest =>
        (readString rest).map fun (s, rest) =>
          ((16 * hexValue high + hexValue low).toUInt8 :: s, rest)
      | escaped :: rest => (readString rest).map fun (s, rest) => (escaped :: s, rest)
      | [] => none
    else (readString rest).map fun (s, rest) => (b :: s, rest)

def isDigit (b : UInt8) : Bool := 48 ≤ b && b ≤ 57

/-- The number that the digits at the front denote, and what follows them. -/
def readNatural (input : List UInt8) : Option (Nat × List UInt8) :=
  match input.span isDigit with
  | ([], _) => none
  | (digits, rest) => some (digits.foldl (fun n b => 10 * n + (b.toNat - 48)) 0, rest)

/-- A value that is written by a fixed word. -/
def readWord (word : List UInt8) (value : Json) (input : List UInt8) :
    Option (Json × List UInt8) :=
  if word.isPrefixOf input then some (value, input.drop word.length) else none

mutual

/-- The value at the front of the input, and what follows it. -/
def readValue : Nat → List UInt8 → Option (Json × List UInt8)
  | 0, _ => none
  | _, [] => none
  | fuel + 1, b :: rest =>
    if b = 34 then (readString rest).map fun (s, rest) => (string s, rest)
    else if b = 91 then (readItems fuel rest).map fun (items, rest) => (array items, rest)
    else if b = 123 then (readFields fuel rest).map fun (fields, rest) => (object fields, rest)
    else if b = 110 then readWord [117, 108, 108] null rest
    else if b = 116 then readWord [114, 117, 101] (bool true) rest
    else if b = 102 then readWord [97, 108, 115, 101] (bool false) rest
    else if b = 45 then (readNatural rest).map fun (n, rest) => (int (-n), rest)
    else (readNatural (b :: rest)).map fun (n, rest) => (int n, rest)

/-- The items of an array up to its closing bracket. -/
def readItems : Nat → List UInt8 → Option (List Json × List UInt8)
  | 0, _ => none
  | fuel + 1, input =>
    if input.head? = some 93 then some ([], input.tail)
    else
      match readValue fuel input with
      | some (item, 44 :: rest) =>
        (readItems fuel rest).map fun (items, rest) => (item :: items, rest)
      | some (item, 93 :: rest) => some ([item], rest)
      | _ => none

/-- The fields of an object up to its closing brace. -/
def readFields : Nat → List UInt8 → Option (List (List UInt8 × Json) × List UInt8)
  | 0, _ => none
  | fuel + 1, input =>
    if input.head? = some 125 then some ([], input.tail)
    else
      match readString input.tail with
      | some (name, 58 :: rest) =>
        match readValue fuel rest with
        | some (value, 44 :: rest) =>
          (readFields fuel rest).map fun (fields, rest) => ((name, value) :: fields, rest)
        | some (value, 125 :: rest) => some ([(name, value)], rest)
        | _ => none
      | _ => none

end

/-- The value that is the whole input. -/
def parseText (input : List UInt8) : Option Json :=
  match readValue (input.length + 1) input with
  | some (value, []) => some value
  | _ => none

/-! ## Strings -/

theorem hexValue_hexByte {n : Nat} (h : n < 16) : hexValue (hexByte n) = n := by
  revert n
  decide

theorem readString_escape (b : UInt8) (t : List UInt8) :
    readString (escape b ++ t) = (readString t).map fun (s, rest) => (b :: s, rest) := by
  unfold escape
  split
  · rename_i hb
    rcases hb with rfl | rfl
    · simp [readString]
    · simp [readString]
  · rename_i hb
    obtain ⟨hquote, hslash⟩ := not_or.1 hb
    split
    · rename_i hcontrol
      have hlt : b.toNat < 32 := hcontrol
      have hbyte : (16 * (b.toNat / 16) + b.toNat % 16).toUInt8 = b := by
        rw [Nat.div_add_mod]
        exact UInt8.ofNat_toNat
      simp [readString, hexValue_hexByte (show b.toNat / 16 < 16 by omega),
        hexValue_hexByte (show b.toNat % 16 < 16 by omega), hbyte]
    · show readString (b :: t) = _
      rw [readString.eq_def]
      simp [hquote, hslash]

theorem readString_quoted (s rest : List UInt8) :
    readString (s.flatMap escape ++ 34 :: rest) = some (s, rest) := by
  induction s with
  | nil =>
    rw [readString.eq_def]
    simp
  | cons b s ih => rw [List.flatMap_cons, List.append_assoc, readString_escape, ih]; rfl

/-! ## Numbers -/

theorem isDigit_digit {d : Nat} (h : d < 10) : isDigit (48 + d.toUInt8) = true := by
  revert d
  decide

theorem toNat_digit {d : Nat} (h : d < 10) : (48 + d.toUInt8).toNat - 48 = d := by
  revert d
  decide

theorem isDigit_digitsText (fuel n : Nat) : ∀ b ∈ digitsText fuel n, isDigit b = true := by
  induction fuel generalizing n with
  | zero => simp [digitsText]
  | succ fuel ih =>
    intro b hb
    rw [digitsText] at hb
    split at hb
    · rw [List.mem_singleton.1 hb]
      exact isDigit_digit ‹_›
    · rcases List.mem_append.1 hb with hold | hlast
      · exact ih _ b hold
      · rw [List.mem_singleton.1 hlast]
        exact isDigit_digit (Nat.mod_lt n (by decide))

theorem foldl_digitsText {fuel n : Nat} (h : n < fuel) :
    (digitsText fuel n).foldl (fun n b => 10 * n + (b.toNat - 48)) 0 = n := by
  induction fuel generalizing n with
  | zero => omega
  | succ fuel ih =>
    rw [digitsText]
    split
    · simpa using toNat_digit ‹_›
    · rw [List.foldl_append, ih (by omega), List.foldl_cons, List.foldl_nil,
        toNat_digit (Nat.mod_lt n (by decide))]
      omega

theorem isDigit_naturalText (n : Nat) : ∀ b ∈ naturalText n, isDigit b = true :=
  isDigit_digitsText (n + 1) n

theorem naturalText_ne_nil (n : Nat) : naturalText n ≠ [] := by
  rw [naturalText, digitsText]
  split <;> simp

/-- The text that follows a number. -/
def NoDigit (rest : List UInt8) : Prop := ∀ b ∈ rest.head?, isDigit b = false

theorem readNatural_text (n : Nat) {rest : List UInt8} (h : NoDigit rest) :
    readNatural (naturalText n ++ rest) = some (n, rest) := by
  have hspan : (naturalText n ++ rest).span isDigit = (naturalText n, rest) := by
    rw [List.span_eq_takeWhile_dropWhile, List.takeWhile_append_of_pos (isDigit_naturalText n),
      List.dropWhile_append_of_pos (isDigit_naturalText n)]
    cases rest with
    | nil => simp
    | cons b rest => simp [h b rfl]
  rw [readNatural, hspan]
  have hvalue : (naturalText n).foldl (fun n b => 10 * n + (b.toNat - 48)) 0 = n :=
    foldl_digitsText n.lt_succ_self
  obtain ⟨b, digits, hcons⟩ := List.exists_cons_of_ne_nil (naturalText_ne_nil n)
  rw [hcons] at hvalue ⊢
  exact congrArg (fun m => some (m, rest)) hvalue


/-! ## Values -/

theorem head_text {valid : List UInt8 → Bool} {v : Json} (h : Written valid v) :
    ∃ b rest, text v = b :: rest ∧ b ≠ 93 := by
  cases v with
  | null => exact ⟨110, _, rfl, by decide⟩
  | bool b => cases b <;> exact ⟨_, _, rfl, by decide⟩
  | int n =>
    cases n with
    | ofNat n =>
      obtain ⟨b, digits, hcons⟩ := List.exists_cons_of_ne_nil (naturalText_ne_nil n)
      refine ⟨b, digits, by rw [text, intText, hcons], ?_⟩
      rintro rfl
      exact absurd (isDigit_naturalText n 93 (by simp [hcons])) (by decide)
    | negSucc n => exact ⟨45, _, by rw [text, intText], by decide⟩
  | real literal => exact h.elim
  | string s => exact ⟨34, _, by rw [text, quoted]; rfl, by decide⟩
  | array items => exact ⟨91, _, by rw [text], by decide⟩
  | object fields => exact ⟨123, _, by rw [text], by decide⟩

theorem readValue_int (fuel : Nat) (n : Int) {rest : List UInt8} (h : NoDigit rest) :
    readValue (fuel + 1) (intText n ++ rest) = some (int n, rest) := by
  cases n with
  | ofNat n =>
    have hread := readNatural_text n h
    obtain ⟨b, digits, hcons⟩ := List.exists_cons_of_ne_nil (naturalText_ne_nil n)
    have hdigit : isDigit b = true := isDigit_naturalText n b (by simp [hcons])
    have hne : ∀ c : UInt8, isDigit c = false → b ≠ c := by
      rintro c hc rfl
      exact absurd hdigit (by simp [hc])
    rw [hcons, List.cons_append] at hread
    rw [intText, hcons, List.cons_append, readValue, if_neg (hne 34 rfl), if_neg (hne 91 rfl),
      if_neg (hne 123 rfl), if_neg (hne 110 rfl), if_neg (hne 116 rfl), if_neg (hne 102 rfl),
      if_neg (hne 45 rfl), hread]
    rfl
  | negSucc n =>
    have hread := readNatural_text (n + 1) h
    rw [intText, List.cons_append, readValue]
    simp [hread]
    omega

mutual

theorem readValue_text {valid : List UInt8 → Bool} (fuel : Nat) (v : Json) (hv : Written valid v)
    (rest : List UInt8) (hrest : NoDigit rest) (hfuel : (text v).length ≤ fuel) :
    readValue fuel (text v ++ rest) = some (v, rest) := by
  obtain ⟨fuel, rfl⟩ : ∃ k, fuel = k + 1 := by
    obtain ⟨b, t, ht, -⟩ := head_text hv
    rw [ht, List.length_cons] at hfuel
    exact ⟨fuel - 1, by omega⟩
  match v with
  | null => simp [text, readValue, readWord]
  | bool true => simp [text, readValue, readWord]
  | bool false => simp [text, readValue, readWord]
  | int n => simpa [text] using readValue_int fuel n hrest
  | string s =>
    rw [text, quoted, List.cons_append, List.cons_append, readValue, if_pos rfl,
      List.append_assoc]
    simp [readString_quoted]
  | array items =>
    rw [text, List.cons_append, readValue]
    rw [text, List.length_cons] at hfuel
    simp [readItems_text fuel items hv rest (by omega)]
  | object fields =>
    rw [text, List.cons_append, readValue]
    rw [text, List.length_cons] at hfuel
    simp [readFields_text fuel fields hv rest (by omega)]

theorem readItems_text {valid : List UInt8 → Bool} (fuel : Nat) (items : List Json)
    (hv : WrittenItems valid items) (rest : List UInt8)
    (hfuel : (itemsText items).length ≤ fuel) :
    readItems fuel (itemsText items ++ rest) = some (items, rest) := by
  match items with
  | [] =>
    obtain ⟨fuel, rfl⟩ : ∃ k, fuel = k + 1 := ⟨fuel - 1, by simp [itemsText] at hfuel; omega⟩
    simp [itemsText, readItems]
  | [item] =>
    rw [itemsText, List.length_append, List.length_singleton] at hfuel
    obtain ⟨fuel, rfl⟩ : ∃ k, fuel = k + 1 := ⟨fuel - 1, by omega⟩
    have hitem := readValue_text fuel item hv.1 (93 :: rest) (by simp [NoDigit, isDigit])
      (by omega)
    obtain ⟨b, t, ht, hb⟩ := head_text hv.1
    rw [itemsText, List.append_assoc, List.singleton_append, readItems, hitem]
    simp [ht, hb]
  | item :: next :: items =>
    rw [itemsText, List.length_append, List.length_cons] at hfuel
    obtain ⟨fuel, rfl⟩ : ∃ k, fuel = k + 1 := ⟨fuel - 1, by omega⟩
    have hitem := readValue_text fuel item hv.1 (44 :: (itemsText (next :: items) ++ rest))
      (by simp [NoDigit, isDigit]) (by omega)
    have hitems := readItems_text fuel (next :: items) hv.2 rest (by omega)
    obtain ⟨b, t, ht, hb⟩ := head_text hv.1
    rw [itemsText, List.append_assoc, List.cons_append, readItems, hitem]
    simp [ht, hb, hitems]

theorem readFields_text {valid : List UInt8 → Bool} (fuel : Nat)
    (fields : List (List UInt8 × Json)) (hv : WrittenFields valid fields) (rest : List UInt8)
    (hfuel : (fieldsText fields).length ≤ fuel) :
    readFields fuel (fieldsText fields ++ rest) = some (fields, rest) := by
  match fields with
  | [] =>
    obtain ⟨fuel, rfl⟩ : ∃ k, fuel = k + 1 := ⟨fuel - 1, by simp [fieldsText] at hfuel; omega⟩
    simp [fieldsText, readFields]
  | [(name, value)] =>
    simp only [fieldsText, List.length_append, List.length_cons, List.length_nil] at hfuel
    obtain ⟨fuel, rfl⟩ : ∃ k, fuel = k + 1 := ⟨fuel - 1, by omega⟩
    have hvalue := readValue_text fuel value hv.2.1 (125 :: rest) (by simp [NoDigit, isDigit])
      (by omega)
    simp [fieldsText, quoted, readFields, readString_quoted, hvalue]
  | (name, value) :: next :: fields =>
    simp only [fieldsText, List.length_append, List.length_cons] at hfuel
    obtain ⟨fuel, rfl⟩ : ∃ k, fuel = k + 1 := ⟨fuel - 1, by omega⟩
    have hvalue := readValue_text fuel value hv.2.1 (44 :: (fieldsText (next :: fields) ++ rest))
      (by simp [NoDigit, isDigit]) (by omega)
    have hfields := readFields_text fuel (next :: fields) hv.2.2 rest (by omega)
    simp [fieldsText, quoted, readFields, readString_quoted, hvalue, hfields]

end

/-- **The parser inverts the printer.** -/
theorem parseText_text {valid : List UInt8 → Bool} {v : Json} (hv : Written valid v) :
    parseText (text v) = some v := by
  have hread := readValue_text ((text v).length + 1) v hv [] (by simp [NoDigit]) (by omega)
  rw [List.append_nil] at hread
  rw [parseText, hread]

/-- The two as a library that refuses what is not written. -/
def compact (valid : List UInt8 → Bool) : Codec valid where
  dump v := if Written valid v then .ok (text v) else .error []
  parse input :=
    match parseText input with
    | some v => .ok v
    | none => .error []
  dump_written v hv := ⟨text v, if_pos hv⟩
  dump_ne_nil v input h := by
    split at h
    · obtain ⟨b, rest, htext, -⟩ := head_text ‹_›
      cases h
      simp [htext]
    · cases h
  parse_dump v input hv h := by
    rw [if_pos hv] at h
    cases h
    rw [parseText_text hv]

theorem compact_strict (valid : List UInt8 → Bool) : (compact valid).Strict := by
  intro fields input name value hdump hmem
  change (if Written valid (object fields) then _ else _) = _ at hdump
  split at hdump
  · rename_i hwritten
    rw [Written, writtenFields_iff] at hwritten
    exact (hwritten _ hmem).2
  · cases hdump

/-! ## Lengths -/

theorem length_le_quoted (s : List UInt8) : s.length ≤ (quoted s).length := by
  have hescape (b : UInt8) : 1 ≤ (escape b).length := by
    unfold escape
    split_ifs <;> simp
  have hmap : s.length ≤ (s.flatMap escape).length := by
    induction s with
    | nil => exact le_refl _
    | cons b s ih =>
      have := hescape b
      rw [List.flatMap_cons, List.length_append, List.length_cons]
      omega
  simp only [quoted, List.cons_append, List.length_cons, List.length_append]
  omega

/-- No string of an object is longer than its text. -/
theorem length_le_fieldsText {fields : List (List UInt8 × Json)} {name s : List UInt8}
    (h : (name, string s) ∈ fields) : s.length ≤ (fieldsText fields).length := by
  have hquoted := length_le_quoted s
  induction fields with
  | nil => cases h
  | cons field fields ih =>
    obtain ⟨key, value⟩ := field
    match fields, List.mem_cons.1 h with
    | [], .inl hfield =>
      cases hfield
      simp only [fieldsText, text, List.length_append]
      simp only [List.length_cons]
      omega
    | next :: fields, .inl hfield =>
      cases hfield
      simp only [fieldsText, text, List.length_append, List.length_cons]
      omega
    | next :: fields, .inr hrest =>
      have := ih hrest
      simp only [fieldsText, List.length_append, List.length_cons] at this ⊢
      omega

end Json
