import JetsonFabric.Lib.Incremental
import JetsonFabric.Transport.StageTransport

/-!
# The text of HTTP messages

What `api/http_server.cpp` and `transport/http_stage_transport.cpp` share in reading a message: the
lines of its head, the fields on them and the numbers in those. `recv` is modelled by what its calls
return, in order; after these the peer has closed the connection.
-/

namespace JetsonFabric

open Incremental

/-- The exceptions that reading a message throws. -/
inductive HttpError
  | invalidArgument (what : Bytes)
  | outOfRange (what : Bytes)
  | runtimeError (what : Bytes)
  deriving DecidableEq

/-- What `recv` returns; no bytes at the end. -/
inductive RecvResult
  | received (bytes : Bytes)
  | failed (errno : Int)
  deriving DecidableEq

/-- Pieces of a stream: not empty, within the buffer. -/
def Cuts (bufferSize : Nat) (stream : Bytes) (pieces : List Bytes) : Prop :=
  pieces.flatten = stream ∧ ∀ piece ∈ pieces, piece ≠ [] ∧ piece.length ≤ bufferSize

instance (bufferSize : Nat) (stream : Bytes) (pieces : List Bytes) :
    Decidable (Cuts bufferSize stream pieces) := inferInstanceAs (Decidable (_ ∧ _))

/-! ## Numbers -/

/-- The bases that the readers ask for. -/
inductive Radix
  | ten
  | sixteen
  deriving DecidableEq

namespace Radix

def base : Radix → Nat
  | .ten => 10
  | .sixteen => 16

def isDigit : Radix → UInt8 → Bool
  | .ten, b => 48 ≤ b && b ≤ 57
  | .sixteen, b => isXDigit b

/-- The value of a digit, in either case. -/
def digitValue (b : UInt8) : Nat :=
  if b ≤ 57 then b.toNat - 48 else if b ≤ 70 then b.toNat - 55 else b.toNat - 87

def valueOf (radix : Radix) (digits : Bytes) : Nat :=
  digits.foldl (fun n b => radix.base * n + digitValue b) 0

/-- What follows `0x`, which `strtoull` passes in base 16. -/
def skipMark : Radix → Bytes → Bytes
  | .sixteen, 48 :: x :: b :: rest =>
    if (x = 120 ∨ x = 88) ∧ isXDigit b then b :: rest else 48 :: x :: b :: rest
  | _, text => text

end Radix

/-- `isspace`, as `strtoull` passes it. -/
def Ctype.isSpace (b : UInt8) : Bool := (9 ≤ b && b ≤ 13) || b == 32

/-- An optional sign, and what follows it. -/
def scanSign : Bytes → Bool × Bytes
  | 45 :: rest => (true, rest)
  | 43 :: rest => (false, rest)
  | text => (false, text)

/-- The minus, the digits, and what follows them. -/
def scanInteger (radix : Radix) (text : Bytes) : Option (Bool × Nat × Bytes) :=
  let (negative, unsigned) := scanSign (text.dropWhile Ctype.isSpace)
  let numeral := radix.skipMark unsigned
  let digits := numeral.takeWhile radix.isDigit
  if digits = [] then none
  else some (negative, radix.valueOf digits, numeral.dropWhile radix.isDigit)

/-- `std::stoull`, with the number of characters that it read. -/
def stoull (radix : Radix) (text : Bytes) : Except HttpError (Nat × Nat) :=
  match scanInteger radix text with
  | none => .error (.invalidArgument (str "stoull"))
  | some (negative, magnitude, rest) =>
    if 2 ^ 64 ≤ magnitude then .error (.outOfRange (str "stoull"))
    else
      .ok (if negative then (2 ^ 64 - magnitude) % 2 ^ 64 else magnitude,
        text.length - rest.length)

section Numbers

variable {radix : Radix}

theorem Radix.isXDigit_of_isDigit {b : UInt8} (h : radix.isDigit b = true) : isXDigit b = true := by
  cases radix with
  | ten =>
    rw [Radix.isDigit] at h
    rw [isXDigit, h]
    rfl
  | sixteen => exact h

/-- A digit is no blank, no sign and no `x`. -/
theorem plain_of_isXDigit {b : UInt8} (h : isXDigit b = true) :
    Ctype.isSpace b = false ∧ b ≠ 45 ∧ b ≠ 43 ∧ b ≠ 120 ∧ b ≠ 88 := by
  simp only [isXDigit, Bool.or_eq_true, Bool.and_eq_true, decide_eq_true_eq, UInt8.le_iff_toNat_le]
    at h
  simp only [Ctype.isSpace, Bool.or_eq_false_iff, Bool.and_eq_false_iff, decide_eq_false_iff_not,
    beq_eq_false_iff_ne, ne_eq, ← UInt8.toNat_inj, UInt8.le_iff_toNat_le]
  simp only [UInt8.reduceToNat] at h ⊢
  omega

theorem Radix.skipMark_of_digits {digits : Bytes} (h : ∀ b ∈ digits, radix.isDigit b = true) :
    radix.skipMark digits = digits := by
  unfold Radix.skipMark
  split
  · next x b rest =>
    obtain ⟨-, -, -, hx, hX⟩ := plain_of_isXDigit (Radix.isXDigit_of_isDigit (h x (by simp)))
    rw [if_neg (by simp [hx, hX])]
  · rfl

theorem scanInteger_digits {digits : Bytes} (hne : digits ≠ [])
    (h : ∀ b ∈ digits, radix.isDigit b = true) :
    scanInteger radix digits = some (false, radix.valueOf digits, []) := by
  obtain ⟨b, rest, rfl⟩ := List.exists_cons_of_ne_nil hne
  obtain ⟨hspace, hminus, hplus, -⟩ :=
    plain_of_isXDigit (Radix.isXDigit_of_isDigit (h b (by simp)))
  have hblank : (b :: rest).dropWhile Ctype.isSpace = b :: rest := by simp [hspace]
  have hsign : scanSign (b :: rest) = (false, b :: rest) := by
    unfold scanSign
    split <;> simp_all
  have htake : (b :: rest).takeWhile radix.isDigit = b :: rest := List.takeWhile_eq_self_iff.2 h
  have hdrop : (b :: rest).dropWhile radix.isDigit = [] := List.dropWhile_eq_nil_iff.2 h
  simp only [scanInteger, hblank, hsign, Radix.skipMark_of_digits h, htake, hdrop]
  rw [if_neg hne]

theorem stoull_digits {digits : Bytes} (hne : digits ≠ [])
    (h : ∀ b ∈ digits, radix.isDigit b = true) (hvalue : radix.valueOf digits < 2 ^ 64) :
    stoull radix digits = .ok (radix.valueOf digits, digits.length) := by
  rw [stoull, scanInteger_digits hne h]
  simp only [if_neg (not_le.2 hvalue)]
  rfl

end Numbers

/-! ## The lines of a head -/

/-- `std::getline` until it fails. -/
def getlines : Bytes → List Bytes
  | [] => []
  | b :: rest =>
    if b = 10 then [] :: getlines rest
    else
      match getlines rest with
      | [] => [[b]]
      | line :: lines => (b :: line) :: lines

/-- A line without a carriage return at its end. -/
def withoutReturn (line : Bytes) : Bytes := if line.getLast? = some 13 then line.dropLast else line

def headerLines (headers : Bytes) : List Bytes := (getlines headers).map withoutReturn

/-- The name of a field in lower case, and its value. -/
def headerField (line : Bytes) : Option (Bytes × Bytes) :=
  if 58 ∈ line then
    some (lower (line.takeWhile (· ≠ 58)),
      ((line.dropWhile (· ≠ 58)).drop 1).dropWhile fun b => b == 32 || b == 9)
  else none

/-- A field is read back as its name, in lower case, and its value. -/
theorem headerField_written {name blanks value : Bytes} (hname : 58 ∉ name)
    (hblanks : ∀ b ∈ blanks, b = 32 ∨ b = 9) (hvalue : ∀ b ∈ value.head?, b ≠ 32 ∧ b ≠ 9) :
    headerField (name ++ 58 :: (blanks ++ value)) = some (lower name, value) := by
  have hname' : ∀ b ∈ name, (decide (b ≠ 58)) = true := fun b hb =>
    decide_eq_true fun h => hname (h ▸ hb)
  have hblank : ∀ b ∈ blanks, (b == 32 || b == 9) = true := fun b hb => by simpa using hblanks b hb
  have hstop : value.dropWhile (fun b => b == 32 || b == 9) = value := by
    cases value with
    | nil => rfl
    | cons b rest =>
      obtain ⟨hspace, htab⟩ := hvalue b rfl
      simp [hspace, htab]
  rw [headerField, if_pos (by simp), List.takeWhile_append_of_pos hname',
    List.dropWhile_append_of_pos hname', List.takeWhile_cons_of_neg (by simp),
    List.dropWhile_cons_of_neg (by simp), List.append_nil, List.drop_one, List.tail_cons,
    List.dropWhile_append_of_pos hblank, hstop]

/-- `"\r\n\r\n"`. -/
def headMarker : Bytes := [13, 10, 13, 10]

/-- The lines of a head with `"\r\n"` between them. -/
def headText : List Bytes → Bytes
  | [] => []
  | [line] => line
  | line :: lines => line ++ 13 :: 10 :: headText lines

/-- A line that may stand in a head. -/
def IsHeadLine (line : Bytes) : Prop := line ≠ [] ∧ 13 ∉ line ∧ 10 ∉ line

instance (line : Bytes) : Decidable (IsHeadLine line) := inferInstanceAs (Decidable (_ ∧ _ ∧ _))

theorem getlines_append {line : Bytes} (h : 10 ∉ line) (rest : Bytes) :
    getlines (line ++ 10 :: rest) = line :: getlines rest := by
  induction line with
  | nil => rw [List.nil_append, getlines, if_pos rfl]
  | cons b line ih =>
    obtain ⟨hne, hline⟩ := not_or.1 (mt List.mem_cons.2 h)
    rw [List.cons_append, getlines, if_neg (Ne.symm hne), ih hline]

theorem getlines_last {line : Bytes} (hne : line ≠ []) (h : 10 ∉ line) : getlines line = [line] := by
  induction line with
  | nil => exact absurd rfl hne
  | cons b line ih =>
    obtain ⟨hb, hline⟩ := not_or.1 (mt List.mem_cons.2 h)
    rw [getlines, if_neg (Ne.symm hb)]
    by_cases hnil : line = []
    · rw [hnil, getlines]
    · rw [ih hnil hline]

theorem withoutReturn_append (line : Bytes) : withoutReturn (line ++ [13]) = line := by
  simp [withoutReturn]

theorem withoutReturn_of_not_mem {line : Bytes} (h : 13 ∉ line) : withoutReturn line = line :=
  if_neg fun hlast => h (List.mem_of_getLast? hlast)

/-- **Lines.** The lines of a head are read back as they were written. -/
theorem headerLines_headText {lines : List Bytes} (h : ∀ line ∈ lines, IsHeadLine line) :
    headerLines (headText lines) = lines := by
  fun_induction headText lines with
  | case1 => rfl
  | case2 line =>
    obtain ⟨hne, hreturn, hnewline⟩ := h line (by simp)
    rw [headerLines, getlines_last hne hnewline, List.map_singleton,
      withoutReturn_of_not_mem hreturn]
  | case3 line lines _ ih =>
    obtain ⟨hne, hreturn, hnewline⟩ := h line (by simp)
    have hline : (10 : UInt8) ∉ line ++ [13] := by simpa using hnewline
    have hrest := ih fun l hl => h l (List.mem_cons_of_mem _ hl)
    rw [headerLines, List.append_cons, getlines_append hline, List.map_cons, withoutReturn_append]
    exact congrArg (line :: ·) hrest

/-- **The end of a head** is where its lines end. -/
theorem findAt_headText {lines : List Bytes} (hne : lines ≠ [])
    (h : ∀ line ∈ lines, IsHeadLine line) (rest : Bytes) :
    findAt headMarker (headText lines ++ headMarker ++ rest) = some (headText lines).length := by
  fun_induction headText lines with
  | case1 => exact absurd rfl hne
  | case2 line =>
    obtain ⟨-, hreturn, -⟩ := h line (by simp)
    rw [List.append_assoc, headMarker, findAt_pass hreturn,
      findAt_of_prefix (List.prefix_append _ _)]
    simp
  | case3 line lines hlines ih =>
    obtain ⟨-, hreturn, -⟩ := h line (by simp)
    obtain ⟨next, others, rfl⟩ := List.exists_cons_of_ne_nil hlines
    have hfound := ih hlines fun l hl => h l (List.mem_cons_of_mem _ hl)
    -- The line end is no marker: the next line is there, and starts with no carriage return.
    have hend : ¬ headMarker <+: 13 :: 10 :: (headText (next :: others) ++ headMarker ++ rest) := by
      obtain ⟨hnext, hreturn', -⟩ := h next (by simp)
      obtain ⟨b, text, rfl⟩ := List.exists_cons_of_ne_nil hnext
      have hb : b ≠ 13 := fun hb => hreturn' (by simp [hb])
      cases others with
      | nil => simp [headMarker, headText, Ne.symm hb]
      | cons _ _ => simp [headMarker, headText, Ne.symm hb]
    have hnewline : ¬ headMarker <+: 10 :: (headText (next :: others) ++ headMarker ++ rest) := by
      simp [headMarker]
    rw [List.append_assoc, List.append_assoc, List.cons_append, List.cons_append, headMarker,
      findAt_pass hreturn, ← headMarker, ← List.append_assoc, findAt_cons_of_not hend,
      findAt_cons_of_not hnewline, hfound]
    simp only [Option.map_some, List.length_append, List.length_cons, Option.some.injEq]
    omega

end JetsonFabric
