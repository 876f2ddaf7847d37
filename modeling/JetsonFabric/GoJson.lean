import JetsonFabric.Go
import JetsonFabric.Protocol.Frame

/-!
# JSON values in Go structures

What `encoding/json` does with a value once it is parsed: fields are found by their tags in any
case, a null changes nothing, a field without a value stays at its zero, and a value of another
kind or out of range is an error.
-/

namespace JetsonFabric

open Checks

/-- What a JSON value is called in the errors of the package. -/
def jsonKind : Json → Bytes
  | .null => str "null"
  | .bool _ => str "bool"
  | .int n => str "number " ++ decimal n
  | .real literal => str "number " ++ literal
  | .string _ => str "string"
  | .array _ => str "array"
  | .object _ => str "object"

/-- `UnmarshalTypeError`, for a field of a structure or a value of its own. -/
def unmarshalTypeError (value : Json) (place goType : Bytes) : Bytes :=
  str "json: cannot unmarshal " ++ jsonKind value ++
    (if place = [] then str " into Go value of type " else
      str " into Go struct field " ++ place ++ str " of type ") ++ goType

/-- An integer of a Go type with the given range; a null changes nothing. -/
def intOfJson (low high : Int) (goType place : Bytes) (value : Json) : Except Bytes Int :=
  match value with
  | .null => .ok 0
  | .int n => if low ≤ n ∧ n < high then .ok n else .error (unmarshalTypeError value place goType)
  | value => .error (unmarshalTypeError value place goType)

/-- An `int64`, or the error of Go. -/
def int64OfJson (goType place : Bytes) (value : Json) : Except Bytes Int :=
  intOfJson (-2 ^ 63) (2 ^ 63) goType place value

/-- An unsigned integer of `width` bits. -/
def unsignedOfJson {α : Type} (width : Nat) (cast : Nat → α) (goType place : Bytes)
    (value : Json) : Except Bytes α := do
  let n ← intOfJson 0 (2 ^ width) goType place value
  .ok (cast n.toNat)

/-- A string, or the error of Go. -/
def stringOfJson (place : Bytes) (value : Json) : Except Bytes Bytes :=
  match value with
  | .null => .ok []
  | .string text => .ok text
  | value => .error (unmarshalTypeError value place (str "string"))

/-- A flag, or the error of Go. -/
def boolOfJson (place : Bytes) (value : Json) : Except Bytes Bool :=
  match value with
  | .null => .ok false
  | .bool b => .ok b
  | value => .error (unmarshalTypeError value place (str "bool"))

/-- A pointer, nil for a null. -/
def pointerOfJson {α : Type} (read : Json → Except Bytes α) : Json → Except Bytes (Option α)
  | .null => .ok none
  | value => do
    let item ← read value
    .ok (some item)

/-- A slice, or the error of Go. -/
def listOfJson {α : Type} (goType place : Bytes) (item : Json → Except Bytes α) (value : Json) :
    Except Bytes (List α) :=
  match value with
  | .null => .ok []
  | .array items => items.mapM item
  | value => .error (unmarshalTypeError value place goType)

/-- A field of the structure; without a value it stays at its zero. -/
def fieldOf {α : Type} (zero : α) (read : Json → Except Bytes α) : Option Json → Except Bytes α
  | none => .ok zero
  | some value => read value

/-- A name with its letters in lower case, U+017F and U+212A among them. -/
def foldName : Bytes → Bytes
  | 0xC5 :: 0xBF :: rest => 115 :: foldName rest
  | 0xE2 :: 0x84 :: 0xAA :: rest => 107 :: foldName rest
  | b :: rest => (if 65 ≤ b ∧ b ≤ 90 then b + 32 else b) :: foldName rest
  | [] => []

/-- The fields that a decoder finds for the tags of a structure. -/
def findFolded {F : Type} (schema : Json.Schema isValidUtf8 F) (entries : List (Bytes × Json)) :
    F → Option Json :=
  schema.find (entries.map fun (name, value) => (foldName name, value))

/-- Tags in lower case are found as they were written. -/
theorem findFolded_entries {F : Type} {schema : Json.Schema isValidUtf8 F}
    (hfold : ∀ field, foldName (schema.name field) = schema.name field)
    (values : F → Option Json) : findFolded schema (schema.entries values) = values := by
  have hentries : (schema.entries values).map (fun entry => (foldName entry.1, entry.2)) =
      schema.entries values := by
    refine (List.map_congr_left fun entry hentry => ?_).trans (List.map_id _)
    obtain ⟨field, -, value, -, rfl⟩ := (Json.mem_record schema.name).1 hentry
    rw [hfold, id]
  unfold findFolded
  rw [hentries, schema.find_entries]

/-! ## Values that a writer has set -/

section Fields

variable {place goType : Bytes}

theorem fieldOf_some {α : Type} {zero : α} {read : Json → Except Bytes α} {value : Json} :
    fieldOf zero read (some value) = read value := by rw [fieldOf]

theorem fieldOf_omitDefault {α : Type} [DecidableEq α] {zero value : α}
    {read : Json → Except Bytes α} {write : α → Json} (h : read (write value) = .ok value) :
    fieldOf zero read (omitDefault zero value write) = .ok value := by
  unfold omitDefault
  split
  · subst_vars
    rfl
  · exact h

theorem int64OfJson_int {n : Int} (h : IsInt64 n) : int64OfJson goType place (.int n) = .ok n :=
  if_pos h

theorem stringOfJson_string (text : Bytes) : stringOfJson place (.string text) = .ok text := by
  rw [stringOfJson]

/-- An unsigned number is read by the type that holds it. -/
theorem unsignedOfJson_int {α : Type} {width : Nat} {cast : Nat → α} {n : Nat} {value : α}
    (hlt : n < 2 ^ width) (hcast : cast n = value) :
    unsignedOfJson width cast goType place (.int n) = .ok value := by
  have hrange : (0 : Int) ≤ n ∧ (n : Int) < 2 ^ width := ⟨by omega, by exact_mod_cast hlt⟩
  rw [unsignedOfJson, intOfJson, if_pos hrange, ok_bind, Int.toNat_natCast, hcast]

theorem uint32OfJson (n : UInt32) :
    unsignedOfJson 32 UInt32.ofNat goType place (.int n.toNat) = .ok n :=
  unsignedOfJson_int n.toNat_lt UInt32.ofNat_toNat

theorem uint64OfJson (n : UInt64) :
    unsignedOfJson 64 UInt64.ofNat goType place (u64Json n) = .ok n :=
  unsignedOfJson_int n.toNat_lt UInt64.ofNat_toNat

theorem uint16OfJson (n : UInt16) :
    unsignedOfJson 16 UInt16.ofNat goType place (.int n.toNat) = .ok n :=
  unsignedOfJson_int n.toNat_lt UInt16.ofNat_toNat

theorem listOfJson_intArray {itemType : Bytes} {items : List Int} (h : ∀ n ∈ items, IsInt64 n) :
    listOfJson goType place (int64OfJson itemType place) (intArray items) = .ok items :=
  mapM_map_ok fun n hn => int64OfJson_int (h n hn)

theorem listOfJson_u32Array {itemType : Bytes} (items : List UInt32) :
    listOfJson goType place (unsignedOfJson 32 UInt32.ofNat itemType place) (u32Array items) =
      .ok items :=
  mapM_map_ok fun n _ => uint32OfJson n

end Fields

end JetsonFabric
