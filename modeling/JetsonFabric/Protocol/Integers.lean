import JetsonFabric.Protocol.Generation

/-!
# Integers of the wire

The JSON parser of the runtime stores an integer literal as a signed or an unsigned 64-bit number.
Most decoders read either of them as an `std::int64_t` and check the range afterwards, when an
unsigned number of 2^63 or more has become negative already.

* **`wire_integers_kept_iff`**: when each decoder keeps an integer.
-/

namespace JetsonFabric

open Checks

/-- The integers that the parser stores in 64 bits, signed or unsigned. -/
def Stored (v : Int) : Prop := -2 ^ 63 ≤ v ∧ v < 2 ^ 64

/-- A decoder that returns a value returns the one that is stored. -/
def Keeps {α β : Type} (decoded : Except Bytes α) (value : α → β) (v : β) : Prop :=
  ∀ result, decoded = .ok result → value result = v

theorem int64Value_of_stored {v : Int} (hv : Stored v) :
    int64Value v = if v < 2 ^ 63 then v else v - 2 ^ 64 := by
  obtain ⟨hlow, hhigh⟩ := hv
  rw [int64Value, Int.bmod_def]
  split_ifs <;> omega

theorem keeps_error {α β : Type} (message : Bytes) (value : α → β) (v : β) :
    Keeps (.error message : Except Bytes α) value v := by
  intro result h
  cases h

/-- Convert a stored integer, check the range, and narrow it. -/
def readChecked {α : Type} (refused : Int → Prop) [DecidablePred refused] (message : Bytes)
    (cast : Int → α) (v : Int) : Except Bytes α := do
  refuse (refused (int64Value v)) message
  .ok (cast (int64Value v))

theorem keeps_readChecked {α : Type} {refused : Int → Prop} [DecidablePred refused] (low high : Int)
    {message : Bytes} {cast : Int → α} {value : α → Int} {v : Int} (hv : Stored v)
    (hrange : ∀ n < 2 ^ 63, ¬ refused n ↔ low ≤ n ∧ n ≤ high) (hlow : -2 ^ 63 ≤ low)
    (hhigh : -1 ≤ high) (hcast : ∀ n, low ≤ n → n ≤ high → value (cast n) = n) :
    Keeps (readChecked refused message cast v) value v ↔ v < 2 ^ 64 + low := by
  have hvalue := int64Value_of_stored hv
  obtain ⟨hsmall, hlarge⟩ := hv
  constructor
  · intro hkeeps
    by_contra hcarried
    have hnegative : int64Value v = v - 2 ^ 64 := by
      rw [hvalue, if_neg (by omega)]
    have hpass := (hrange (int64Value v) (by omega)).2 ⟨by omega, by omega⟩
    have hresult := hkeeps (cast (int64Value v)) (by
      rw [readChecked, refuse_of_not hpass, ok_bind])
    rw [hcast _ (by omega) (by omega)] at hresult
    omega
  · intro hkept result h
    obtain ⟨_, hpass, h⟩ := bind_eq_ok.1 h
    have hfits : int64Value v < 2 ^ 63 := by
      rw [hvalue]
      split_ifs <;> omega
    obtain ⟨hmin, hmax⟩ := (hrange _ hfits).1 (refuse_eq_ok.1 hpass)
    cases h
    rw [hcast _ hmin hmax]
    rw [hvalue] at hmin ⊢
    split_ifs at hmin ⊢ <;> omega

/-! ## The decoders -/

section Decoders

variable {v : Int} {field : MetadataField}

theorem keeps_extractInt (hv : Stored v) (fallback : Int) :
    Keeps (extractInt (some (.int v)) field fallback) id v ↔ v < 2 ^ 64 - 2 ^ 31 := by
  have hread : extractInt (some (.int v)) field fallback =
      readChecked (fun n => n < -2 ^ 31 ∨ n > 2 ^ 31 - 1)
        (field.name ++ str " is outside int range") id v := rfl
  rw [hread]
  refine (keeps_readChecked (-2 ^ 31) (2 ^ 31 - 1) hv ?_ (by decide) (by decide) ?_).trans ?_
  · omega
  · exact fun _ _ _ => rfl
  · omega

theorem keeps_requireInt (hv : Stored v) (name : Bytes) :
    Keeps (requireInt (some (.int v)) name) id v ↔ v < 2 ^ 64 - 2 ^ 31 := by
  have hread : requireInt (some (.int v)) name =
      readChecked (fun n => n < -2 ^ 31 ∨ n > 2 ^ 31 - 1) (name ++ str " is outside int range") id
        v := rfl
  rw [hread]
  refine (keeps_readChecked (-2 ^ 31) (2 ^ 31 - 1) hv ?_ (by decide) (by decide) ?_).trans ?_
  · omega
  · exact fun _ _ _ => rfl
  · omega

theorem keeps_extractU32 (hv : Stored v) (fallback : Int) :
    Keeps (extractU32 (some (.int v)) field fallback) (fun n => (n.toNat : Int)) v := by
  have hread : extractU32 (some (.int v)) field fallback =
      readChecked (fun n => n < 0 ∨ n > 2 ^ 32 - 1) (field.name ++ str " is outside uint32 range")
        (fun n => UInt32.ofNat n.toNat) v := rfl
  rw [hread]
  refine (keeps_readChecked 0 (2 ^ 32 - 1) hv (fun n _ => by omega) (by decide) (by decide) ?_).2
    hv.2
  intro n hlow hhigh
  rw [UInt32.toNat_ofNat_of_lt' (show _ < 2 ^ 32 by omega), Int.toNat_of_nonneg hlow]

theorem keeps_requireEpoch (hv : Stored v) :
    Keeps (requireEpoch (some (.int v))) (fun n => (n.toNat : Int)) v := by
  have hread : requireEpoch (some (.int v)) =
      readChecked (fun n => n ≤ 0) (str "epoch must be positive") (fun n => UInt64.ofNat n.toNat)
        v := rfl
  rw [hread]
  refine (keeps_readChecked 1 (2 ^ 63 - 1) hv (fun n hn => by omega) (by decide) (by decide) ?_).2
    (hv.2.trans (by decide))
  intro n hlow hhigh
  rw [UInt64.toNat_ofNat_of_lt' (show _ < 2 ^ 64 by omega), Int.toNat_of_nonneg (by omega)]

theorem keeps_extractU64 (hv : Stored v) (fallback : UInt64) :
    Keeps (extractU64 (some (.int v)) field fallback) (fun n => (n.toNat : Int)) v := by
  obtain ⟨-, hlt⟩ := hv
  simp only [extractU64, optionalField]
  split
  next hpos =>
    intro result h
    cases h
    change ((UInt64.ofNat v.toNat).toNat : Int) = v
    rw [UInt64.toNat_ofNat_of_lt' (show _ < 2 ^ 64 by omega), Int.toNat_of_nonneg hpos]
  next => exact keeps_error _ _ _

theorem keeps_extractInt64 (hv : Stored v) (fallback : Int) :
    Keeps (extractInt64 (some (.int v)) field fallback) id v ↔ v < 2 ^ 63 := by
  have hread : extractInt64 (some (.int v)) field fallback = .ok (int64Value v) := rfl
  have hvalue := int64Value_of_stored hv
  constructor
  · intro hkeeps
    have hsame : int64Value v = v := hkeeps _ hread
    by_contra hlarge
    rw [hvalue, if_neg hlarge] at hsame
    omega
  · intro hsmall result h
    rw [hread, hvalue, if_pos hsmall] at h
    cases h
    rfl

theorem keeps_extractArray {α : Type} {wrongKind : Bytes} {read : Json → Except Bytes α}
    {value : α → Int} {items : List Int} (h : ∀ v ∈ items, Keeps (read (.int v)) value v) :
    Keeps (extractArray (some (intArray items)) field wrongKind read) (List.map value) items := by
  intro results hread
  have hall := forall₂_of_mapM_eq_ok (show (items.map Json.int).mapM read = .ok results from hread)
  rw [List.forall₂_map_left_iff] at hall
  clear hread
  induction hall with
  | nil => rfl
  | cons hfirst _ ih =>
    obtain ⟨hitem, hrest⟩ := List.forall_mem_cons.1 h
    rw [List.map_cons, hitem _ hfirst, ih hrest]

theorem keeps_extractUnsignedArray {α : Type} {maximum : Int} {cast : Nat → α} {toNat : α → Nat}
    {items : List Int} (hitems : ∀ v ∈ items, Stored v) (hmaximum : 0 ≤ maximum)
    (hcast : ∀ n : Nat, (n : Int) ≤ maximum → toNat (cast n) = n) :
    Keeps (extractUnsignedArray (some (intArray items)) field maximum cast)
      (List.map fun item => (toNat item : Int)) items := by
  refine keeps_extractArray fun v hv => ?_
  change Keeps (readChecked (fun n => n < 0 ∨ n > maximum)
    (field.name ++ str " contains an out-of-range value") (fun n => cast n.toNat) v) _ v
  refine (keeps_readChecked 0 maximum (hitems v hv) (fun n _ => by omega) (by decide) (by omega)
    ?_).2 (hitems v hv).2
  intro n hlow hhigh
  rw [hcast n.toNat (by omega), Int.toNat_of_nonneg hlow]

theorem extractShape_intArray (items : List Int) :
    extractShape (some (intArray items)) = .ok (items.map int64Value) := by
  change (items.map Json.int).mapM (fun value => jsonInt64Value value .shape) = _
  induction items with
  | nil => rfl
  | cons item items ih =>
    rw [List.map_cons, List.mapM_cons, ih]
    rfl

theorem keeps_extractShape {items : List Int} (hitems : ∀ v ∈ items, Stored v) :
    Keeps (extractShape (some (intArray items))) id items ↔ ∀ v ∈ items, v < 2 ^ 63 := by
  have hread := extractShape_intArray items
  constructor
  · intro hkeeps v hv
    have hsame : items.map int64Value = items := hkeeps _ hread
    have hv' : int64Value v = v :=
      List.map_inj_left.1 (hsame.trans (List.map_id' items).symm) v hv
    rw [int64Value_of_stored (hitems v hv)] at hv'
    split_ifs at hv' with hsmall
    · exact hsmall
    · omega
  · intro hsmall result h
    rw [hread] at h
    cases h
    refine (List.map_congr_left fun v hv => ?_).trans (List.map_id' items)
    rw [int64Value_of_stored (hitems v hv), if_pos (hsmall v hv)]

end Decoders

/-- **Integers of the wire**: which ones the decoders keep. -/
theorem wire_integers_kept_iff {v : Int} (hv : Stored v) (items : List Int)
    (hitems : ∀ v ∈ items, Stored v) (field : MetadataField) (name : Bytes) :
    (∀ fallback, Keeps (extractInt (some (.int v)) field fallback) id v ↔ v < 2 ^ 64 - 2 ^ 31) ∧
    (∀ fallback, Keeps (extractInt64 (some (.int v)) field fallback) id v ↔ v < 2 ^ 63) ∧
    (∀ fallback,
      Keeps (extractU32 (some (.int v)) field fallback) (fun n => (n.toNat : Int)) v) ∧
    (∀ fallback,
      Keeps (extractU64 (some (.int v)) field fallback) (fun n => (n.toNat : Int)) v) ∧
    (∀ maximum : Int, 0 ≤ maximum → maximum < 2 ^ 32 →
      Keeps (extractUnsignedArray (some (intArray items)) field maximum UInt32.ofNat)
        (List.map fun n => (n.toNat : Int)) items) ∧
    (∀ maximum : Int, 0 ≤ maximum → maximum < 2 ^ 8 →
      Keeps (extractUnsignedArray (some (intArray items)) field maximum UInt8.ofNat)
        (List.map fun n => (n.toNat : Int)) items) ∧
    (Keeps (extractShape (some (intArray items))) id items ↔ ∀ v ∈ items, v < 2 ^ 63) ∧
    (Keeps (requireInt (some (.int v)) name) id v ↔ v < 2 ^ 64 - 2 ^ 31) ∧
    Keeps (requireEpoch (some (.int v))) (fun n => (n.toNat : Int)) v := by
  refine ⟨keeps_extractInt hv, keeps_extractInt64 hv, keeps_extractU32 hv, keeps_extractU64 hv,
    ?_, ?_, keeps_extractShape hitems, keeps_requireInt hv name, keeps_requireEpoch hv⟩
  · intro maximum hlow hhigh
    exact keeps_extractUnsignedArray hitems hlow fun n hn =>
      UInt32.toNat_ofNat_of_lt' (show _ < 2 ^ 32 by omega)
  · intro maximum hlow hhigh
    exact keeps_extractUnsignedArray hitems hlow fun n hn =>
      UInt8.toNat_ofNat_of_lt' (show _ < 2 ^ 8 by omega)

/-- The stored integer 7. -/
theorem wire_integers_kept_seven :
    Keeps (extractInt (some (.int 7)) .decodeStep 0) id 7 :=
  ((wire_integers_kept_iff (v := 7) (by unfold Stored; decide) [7]
    (by unfold Stored; decide) .decodeStep (str "max_tokens")).1 0).2 (by decide)

/-- **An altered integer**: the largest is read as minus one. -/
theorem wire_integers_altered :
    extractInt (some (.int (2 ^ 64 - 1))) .decodeStep 0 = .ok (-1) ∧
    extractInt64 (some (.int (2 ^ 64 - 1))) .bytesIn 0 = .ok (-1) ∧
    extractShape (some (intArray [2 ^ 64 - 1])) = .ok [-1] ∧
    requireInt (some (.int (2 ^ 64 - 1))) (str "max_tokens") = .ok (-1) :=
  ⟨rfl, rfl, rfl, rfl⟩

end JetsonFabric
