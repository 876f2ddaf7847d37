import JetsonFabric.Bytes

/-!
# What the coordinator takes from Go

Values and functions of the Go language and its standard library that the planner and the
deployment controller use. An `int` is an `Int`; `wrap64` stands where an addition may leave the
64-bit range. What Go documents without fixing its result on every input (parsing of URLs and
addresses, conversions out of range, `sort.SliceStable` on a comparison that is no order) is a
field of `Platform`, and the results below hold for every platform.
-/

namespace JetsonFabric

/-! ## Integers -/

/-- The 64-bit integer with the same low bits. -/
def wrap64 (n : Int) : Int := n.bmod (2 ^ 64)

/-! ## Strings -/

/-- A one-byte white space character. -/
def isSpace (a : UInt8) : Bool := (9 ≤ a && a ≤ 13) || a == 32

/-- The encoding of a two-byte white space character: U+0085 and U+00A0. -/
def isSpace2 (a b : UInt8) : Bool := a == 0xC2 && (b == 0x85 || b == 0xA0)

/-- The encoding of a three-byte white space character. -/
def isSpace3 (a b c : UInt8) : Bool :=
  (a == 0xE1 && b == 0x9A && c == 0x80) ||
  (a == 0xE2 && b == 0x80 && ((0x80 ≤ c && c ≤ 0x8A) || c == 0xA8 || c == 0xA9 || c == 0xAF)) ||
  (a == 0xE2 && b == 0x81 && c == 0x9F) ||
  (a == 0xE3 && b == 0x80 && c == 0x80)

/-- Drop the characters at the front that the three predicates accept. -/
def dropSpaces (two : UInt8 → UInt8 → Bool) (three : UInt8 → UInt8 → UInt8 → Bool) :
    Bytes → Bytes
  | a :: b :: c :: s =>
    if isSpace a then dropSpaces two three (b :: c :: s)
    else if two a b then dropSpaces two three (c :: s)
    else if three a b c then dropSpaces two three s
    else a :: b :: c :: s
  | [a, b] =>
    if isSpace a then dropSpaces two three [b]
    else if two a b then []
    else [a, b]
  | [a] => if isSpace a then [] else [a]
  | [] => []

/-- `strings.TrimSpace`. -/
def trimSpace (s : Bytes) : Bytes :=
  let rest := dropSpaces isSpace2 isSpace3 s
  (dropSpaces (fun a b => isSpace2 b a) (fun a b c => isSpace3 c b a) rest.reverse).reverse

theorem mem_dropSpaces {two : UInt8 → UInt8 → Bool} {three : UInt8 → UInt8 → UInt8 → Bool}
    {x : UInt8} (h₁ : isSpace x = false) (h₂ : ∀ a, two x a = false ∧ two a x = false)
    (h₃ : ∀ a b, three x a b = false ∧ three a x b = false ∧ three a b x = false) {s : Bytes}
    (h : x ∈ s) : x ∈ dropSpaces two three s := by
  fun_induction dropSpaces two three s with
  | case1 a b c s ha ih => grind
  | case2 a b c s ha hb ih => grind
  | case3 a b c s ha hb hc ih => grind
  | case4 a b c s ha hb hc => exact h
  | case5 a b ha ih => grind
  | case6 a b ha hb => grind
  | case7 a b ha hb => exact h
  | case8 a ha => grind
  | case9 a ha => exact h
  | case10 => exact h

/-- A text with a letter `d` is not white space. -/
theorem trimSpace_ne_nil {s : Bytes} (h : 100 ∈ s) : trimSpace s ≠ [] := by
  have hfront : 100 ∈ dropSpaces isSpace2 isSpace3 s :=
    mem_dropSpaces (by decide) (by simp [isSpace2]) (by simp [isSpace3]) h
  have hback : 100 ∈ trimSpace s := by
    rw [trimSpace, List.mem_reverse]
    refine mem_dropSpaces (by decide) (by simp [isSpace2]) (by simp [isSpace3]) ?_
    rwa [List.mem_reverse]
  exact List.ne_nil_of_mem hback

section Trim

variable {two : UInt8 → UInt8 → Bool} {three : UInt8 → UInt8 → UInt8 → Bool} {s t : Bytes}

/-- No character at the front is accepted by the predicates. -/
structure Trimmed (two : UInt8 → UInt8 → Bool) (three : UInt8 → UInt8 → UInt8 → Bool) (s : Bytes) :
    Prop where
  one : ∀ a, [a] <+: s → isSpace a = false
  two : ∀ a b, [a, b] <+: s → two a b = false
  three : ∀ a b c, [a, b, c] <+: s → three a b c = false

theorem Trimmed.of_isPrefix (h : Trimmed two three s) (ht : t <+: s) : Trimmed two three t :=
  ⟨fun a ha => h.one a (ha.trans ht), fun a b hab => h.two a b (hab.trans ht),
    fun a b c habc => h.three a b c (habc.trans ht)⟩

theorem trimmed_dropSpaces (two : UInt8 → UInt8 → Bool) (three : UInt8 → UInt8 → UInt8 → Bool)
    (s : Bytes) : Trimmed two three (dropSpaces two three s) := by
  fun_induction dropSpaces two three s with
  | case4 a b c s ha hb hc =>
    constructor <;> simp_all [List.cons_prefix_cons]
  | case7 a b ha hb => constructor <;> simp_all [List.cons_prefix_cons]
  | case9 a ha => constructor <;> simp_all [List.cons_prefix_cons]
  | case6 | case8 | case10 => constructor <;> simp
  | case1 _ _ _ _ _ ih | case2 _ _ _ _ _ _ ih | case3 _ _ _ _ _ _ _ ih | case5 _ _ _ ih => exact ih

theorem Trimmed.dropSpaces_eq (h : Trimmed two three s) : dropSpaces two three s = s := by
  match s with
  | [] => rfl
  | [a] =>
    have ha := h.one a (List.prefix_refl _)
    simp [dropSpaces, ha]
  | [a, b] =>
    have ha := h.one a ⟨[b], rfl⟩
    have hb := h.two a b (List.prefix_refl _)
    simp [dropSpaces, ha, hb]
  | a :: b :: c :: s =>
    have ha := h.one a ⟨b :: c :: s, rfl⟩
    have hb := h.two a b ⟨c :: s, rfl⟩
    have hc := h.three a b c ⟨s, rfl⟩
    simp [dropSpaces, ha, hb, hc]

theorem dropSpaces_suffix (two : UInt8 → UInt8 → Bool) (three : UInt8 → UInt8 → UInt8 → Bool)
    (s : Bytes) : dropSpaces two three s <:+ s := by
  fun_induction dropSpaces two three s with
  | case1 a b c s ha ih => exact ih.trans (List.suffix_cons _ _)
  | case2 a b c s ha hb ih => exact ih.trans ⟨[a, b], rfl⟩
  | case3 a b c s ha hb hc ih => exact ih.trans ⟨[a, b, c], rfl⟩
  | case5 a b ha ih => exact ih.trans (List.suffix_cons _ _)
  | case6 | case8 => exact List.nil_suffix
  | case4 | case7 | case9 | case10 => exact List.suffix_refl _

/-- Trimming a trimmed text changes nothing. -/
theorem trimSpace_idem (s : Bytes) : trimSpace (trimSpace s) = trimSpace s := by
  have hbegin : trimSpace s <+: dropSpaces isSpace2 isSpace3 s := by
    rw [trimSpace, ← List.reverse_suffix, List.reverse_reverse]
    exact dropSpaces_suffix _ _ _
  have hfront := ((trimmed_dropSpaces isSpace2 isSpace3 s).of_isPrefix hbegin).dropSpaces_eq
  have hback : dropSpaces (fun a b => isSpace2 b a) (fun a b c => isSpace3 c b a)
      (trimSpace s).reverse = (trimSpace s).reverse := by
    rw [trimSpace, List.reverse_reverse]
    exact (trimmed_dropSpaces _ _ _).dropSpaces_eq
  rw [trimSpace, hfront, hback, List.reverse_reverse]

end Trim

/-- `strings.ToLower` on a digest, of which only the ASCII letters matter. -/
def toLower (s : Bytes) : Bytes := s.map fun b => if 65 ≤ b ∧ b ≤ 90 then b + 32 else b

/-- `%t`. -/
def boolText (b : Bool) : Bytes := if b then str "true" else str "false"

/-- `strings.Join`. -/
def join (separator : Bytes) (parts : List Bytes) : Bytes := separator.intercalate parts

/-- `sort.Strings`. -/
def sortStrings (strings : List Bytes) : List Bytes := strings.insertionSort (· ≤ ·)

/-! ## Numbers -/

/-- A `float64` without the sign of zero. -/
inductive Float64
  | nan
  | inf (negative : Bool)
  | finite (value : ℚ)
  deriving DecidableEq

namespace Float64

/-- `n` rounded to 53 significant bits, to even in the middle. -/
def round (n : Nat) : Nat :=
  let k := n.log2 - 52
  let q := n / 2 ^ k
  let r := n % 2 ^ k
  if 2 ^ k < 2 * r ∨ (2 ^ k = 2 * r ∧ q % 2 = 1) then (q + 1) * 2 ^ k else q * 2 ^ k

/-- The conversion of an integer. -/
def ofInt (n : Int) : Float64 := .finite (n.sign * round n.natAbs)

/-- The comparison `x <= y`; it fails on a NaN. -/
def le : Float64 → Float64 → Bool
  | .nan, _ => false
  | _, .nan => false
  | .inf true, _ => true
  | .inf false, .inf false => true
  | .inf false, _ => false
  | .finite _, .inf negative => !negative
  | .finite x, .finite y => x ≤ y

/-- The integer part of a value in the range of `int`. -/
def truncate? : Float64 → Option Int
  | .finite x =>
    let n := if 0 ≤ x then x.floor else x.ceil
    if -2 ^ 63 ≤ n ∧ n < 2 ^ 63 then some n else none
  | _ => none

end Float64

/-! ## Time -/

/-- Nanoseconds from the zero `time.Time`, or a `time.Duration`. -/
abbrev Time : Type := Int

namespace Time

/-- `Time.Sub`: the difference, or the nearest duration. -/
def sub (t u : Time) : Int := max (-2 ^ 63) (min (t - u) (2 ^ 63 - 1))

/-- `Time.UnixNano`. -/
def unixNano (t : Time) : Int := wrap64 (t - 62135596800 * 10 ^ 9)

end Time

/-! ## The platform -/

/-- The result of `url.Parse`. -/
structure Url where
  scheme : Bytes
  host : Bytes
  hostname : Bytes
  port : Bytes
  path : Bytes
  rest : Bytes := []
  deriving DecidableEq

/-- What `net.ParseIP` finds. -/
structure Ip where
  isLoopback : Bool
  isUnspecified : Bool
  deriving DecidableEq

/-- A comparison is a strict weak order on the elements of a list. -/
abbrev StrictWeakOn {α : Type} (less : α → α → Bool) (xs : List α) : Prop :=
  IsStrictWeakOrder {a // a ∈ xs} fun a b => less a b = true

/-- Stable on strict weak orders, a permutation for any other. -/
structure StableSort where
  run {α : Type} (less : α → α → Bool) (xs : List α) : List α
  perm {α : Type} (less : α → α → Bool) (xs : List α) : (run less xs).Perm xs
  sorted {α : Type} (less : α → α → Bool) (xs : List α) :
    StrictWeakOn less xs → (run less xs).Pairwise fun a b => less b a = false
  stable {α : Type} (less : α → α → Bool) (xs ys : List α) :
    StrictWeakOn less xs → ys.Sublist xs → ys.Pairwise (fun a b => less b a = false) →
      ys.Sublist (run less xs)

theorem isTrans_of_less {α : Type} (less : α → α → Bool)
    [h : IsStrictWeakOrder α fun a b => less a b = true] :
    IsTrans α fun a b => less b a = false := by
  constructor
  intro a b c hab hbc
  by_contra hca
  have hca : less c a = true := by simpa using hca
  by_cases h1 : less a b = true
  · have := h.trans c a b hca h1
    simp [this] at hbc
  by_cases h2 : less b c = true
  · have := h.trans b c a h2 hca
    simp [this] at hab
  exact (h.incomp_trans a b c ⟨h1, by simp [hab]⟩ ⟨h2, by simp [hbc]⟩).2 hca

theorem total_of_less {α : Type} (less : α → α → Bool)
    [h : IsStrictWeakOrder α fun a b => less a b = true] :
    Std.Total fun a b => less b a = false := by
  constructor
  intro a b
  by_cases hba : less b a = true
  · right
    by_contra hab
    exact h.irrefl a (h.trans a b a (by simpa using hab) hba)
  · left
    simpa using hba

/-- Insertion sort is such a sort. -/
def insertionStable : StableSort where
  run less xs := xs.insertionSort fun a b => less b a = false
  perm less xs := List.perm_insertionSort _ xs
  sorted less xs _ := by
    have htrans := isTrans_of_less fun a b : {a // a ∈ xs} => less a b
    have htotal := total_of_less fun a b : {a // a ∈ xs} => less a b
    have hsorted := List.pairwise_insertionSort
      (fun a b : {a // a ∈ xs} => less b a = false) xs.attach
    have hmap := List.map_insertionSort (fun a b : {a // a ∈ xs} => less b a = false)
      (fun a b => less b a = false) Subtype.val xs.attach fun _ _ _ _ => Iff.rfl
    rw [List.attach_map_subtype_val] at hmap
    rw [← hmap, List.pairwise_map]
    exact hsorted
  stable less xs ys _ hs hp := List.sublist_insertionSort hp hs

/-- The functions of the standard library whose results a platform decides. -/
structure Platform where
  sort : StableSort
  parseUrl : Bytes → Except Bytes Url
  urlString : Url → Bytes
  splitHostPort : Bytes → Option (Bytes × Bytes)
  parseIp : Bytes → Option Ip
  equalFold : Bytes → Bytes → Bool
  /-- The error of `http.NewRequestWithContext` for a URL. -/
  requestError : Bytes → Option Bytes
  /-- `json.Unmarshal` of a record of texts: the text of each field. -/
  unmarshalTexts : Bytes → Except Bytes (Bytes → Bytes)
  /-- The conversion of a `float64` out of the range of `int`. -/
  convert : Float64 → Int

end JetsonFabric
