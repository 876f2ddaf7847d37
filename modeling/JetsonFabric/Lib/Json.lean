import Mathlib

/-!
# JSON values and the libraries that write and read them

A JSON value has byte strings and integers of any size; other numbers are kept by their literal.
An object keeps its fields in order, and a reader that looks a field up takes the last one of that
name.
-/

/-- A JSON value. -/
inductive Json
  | null
  | bool (value : Bool)
  | int (value : Int)
  | real (literal : List UInt8)
  | string (text : List UInt8)
  | array (items : List Json)
  | object (fields : List (List UInt8 × Json))

namespace Json

/-! ## Written values -/

mutual

/-- Its strings are valid, and its numbers are integers. -/
def Written (valid : List UInt8 → Bool) : Json → Prop
  | null => True
  | bool _ => True
  | int _ => True
  | real _ => False
  | string text => valid text = true
  | array items => WrittenItems valid items
  | object fields => WrittenFields valid fields

def WrittenItems (valid : List UInt8 → Bool) : List Json → Prop
  | [] => True
  | item :: items => Written valid item ∧ WrittenItems valid items

def WrittenFields (valid : List UInt8 → Bool) : List (List UInt8 × Json) → Prop
  | [] => True
  | (name, value) :: fields =>
    valid name = true ∧ Written valid value ∧ WrittenFields valid fields

end

mutual

def decidableWritten (valid : List UInt8 → Bool) : (v : Json) → Decidable (Written valid v)
  | null => isTrue trivial
  | bool _ => isTrue trivial
  | int _ => isTrue trivial
  | real _ => isFalse id
  | string text => inferInstanceAs (Decidable (valid text = true))
  | array items => decidableWrittenItems valid items
  | object fields => decidableWrittenFields valid fields

def decidableWrittenItems (valid : List UInt8 → Bool) :
    (items : List Json) → Decidable (WrittenItems valid items)
  | [] => isTrue trivial
  | item :: items => @instDecidableAnd _ _ (decidableWritten valid item)
      (decidableWrittenItems valid items)

def decidableWrittenFields (valid : List UInt8 → Bool) :
    (fields : List (List UInt8 × Json)) → Decidable (WrittenFields valid fields)
  | [] => isTrue trivial
  | (_, value) :: fields => @instDecidableAnd _ _ inferInstance
      (@instDecidableAnd _ _ (decidableWritten valid value) (decidableWrittenFields valid fields))

end

instance (valid : List UInt8 → Bool) (v : Json) : Decidable (Written valid v) :=
  decidableWritten valid v

theorem writtenItems_iff {valid : List UInt8 → Bool} {items : List Json} :
    WrittenItems valid items ↔ ∀ item ∈ items, Written valid item := by
  induction items with
  | nil => simp [WrittenItems]
  | cons item items ih => simp [WrittenItems, ih]

theorem writtenFields_iff {valid : List UInt8 → Bool} {fields : List (List UInt8 × Json)} :
    WrittenFields valid fields ↔
      ∀ field ∈ fields, valid field.1 = true ∧ Written valid field.2 := by
  induction fields with
  | nil => simp [WrittenFields]
  | cons field fields ih => simp [WrittenFields, ih, and_assoc]

/-! ## Strings -/

mutual

/-- Every string of the value is valid, names of fields apart. -/
def allStrings (valid : List UInt8 → Bool) : Json → Bool
  | null => true
  | bool _ => true
  | int _ => true
  | real _ => true
  | string text => valid text
  | array items => allStringsItems valid items
  | object fields => allStringsFields valid fields

def allStringsItems (valid : List UInt8 → Bool) : List Json → Bool
  | [] => true
  | item :: items => allStrings valid item && allStringsItems valid items

def allStringsFields (valid : List UInt8 → Bool) : List (List UInt8 × Json) → Bool
  | [] => true
  | (_, value) :: fields => allStrings valid value && allStringsFields valid fields

end

mutual

theorem allStrings_of_written {valid : List UInt8 → Bool} (v : Json) (h : Written valid v) :
    allStrings valid v = true :=
  match v with
  | null => rfl
  | bool _ => rfl
  | int _ => rfl
  | real _ => rfl
  | string _ => h
  | array items => allStringsItems_of_written items h
  | object fields => allStringsFields_of_written fields h

theorem allStringsItems_of_written {valid : List UInt8 → Bool} (items : List Json)
    (h : WrittenItems valid items) : allStringsItems valid items = true :=
  match items with
  | [] => rfl
  | item :: items => by
    rw [allStringsItems, allStrings_of_written item h.1, allStringsItems_of_written items h.2]
    rfl

theorem allStringsFields_of_written {valid : List UInt8 → Bool}
    (fields : List (List UInt8 × Json)) (h : WrittenFields valid fields) :
    allStringsFields valid fields = true :=
  match fields with
  | [] => rfl
  | (_, value) :: fields => by
    rw [allStringsFields, allStrings_of_written value h.2.1,
      allStringsFields_of_written fields h.2.2]
    rfl

end

theorem allStrings_of_mem {valid : List UInt8 → Bool} {items : List Json}
    (h : allStringsItems valid items = true) {item : Json} (hmem : item ∈ items) :
    allStrings valid item = true := by
  induction items with
  | nil => cases hmem
  | cons first items ih =>
    rw [allStringsItems, Bool.and_eq_true] at h
    rcases List.mem_cons.1 hmem with rfl | hmem
    · exact h.1
    · exact ih h.2 hmem

/-! ## Objects -/

/-- The last field of that name. -/
def find? (name : List UInt8) : List (List UInt8 × Json) → Option Json
  | [] => none
  | (key, value) :: fields =>
    match find? name fields with
    | some found => some found
    | none => if key = name then some value else none

theorem allStrings_of_find? {valid : List UInt8 → Bool} {fields : List (List UInt8 × Json)}
    (h : allStringsFields valid fields = true) {name : List UInt8} {v : Json}
    (hfind : find? name fields = some v) : allStrings valid v = true := by
  induction fields generalizing v with
  | nil => cases hfind
  | cons entry fields ih =>
    rw [allStringsFields, Bool.and_eq_true] at h
    rw [find?] at hfind
    split at hfind
    · cases hfind
      exact ih h.2 ‹_›
    · split at hfind
      · cases hfind
        exact h.1
      · cases hfind

section Record

variable {F : Type*} (name : F → List UInt8)

/-- The fields of a record in order, without those that have no value. -/
def record (fields : List F) (value : F → Option Json) : List (List UInt8 × Json) :=
  fields.filterMap fun field => (value field).map (name field, ·)

theorem mem_record {fields : List F} {value : F → Option Json} {entry : List UInt8 × Json} :
    entry ∈ record name fields value ↔
      ∃ field ∈ fields, ∃ v, value field = some v ∧ entry = (name field, v) := by
  simp [record, eq_comm]

theorem find?_eq_none {key : List UInt8} {fields : List (List UInt8 × Json)}
    (h : ∀ entry ∈ fields, entry.1 ≠ key) : find? key fields = none := by
  induction fields with
  | nil => rfl
  | cons entry fields ih =>
    rw [find?, ih fun other hother => h other (List.mem_cons_of_mem _ hother),
      if_neg (h entry List.mem_cons_self)]

variable {name}

/-- A record gives back the value of each of its fields. -/
theorem find?_record (hname : Function.Injective name) {fields : List F} (hfields : fields.Nodup)
    (value : F → Option Json) {field : F} (hfield : field ∈ fields) :
    find? (name field) (record name fields value) = value field := by
  induction fields with
  | nil => cases hfield
  | cons first fields ih =>
    obtain ⟨hfirst, hrest⟩ := List.nodup_cons.1 hfields
    rcases List.mem_cons.1 hfield with rfl | hmem
    · -- no later field has this name
      have hnone : find? (name field) (record name fields value) = none := by
        refine find?_eq_none fun entry hentry => ?_
        obtain ⟨other, hother, v, -, rfl⟩ := (mem_record name).1 hentry
        exact fun heq => hfirst (hname heq ▸ hother)
      cases hvalue : value field with
      | none => simpa [record, hvalue] using hnone
      | some v =>
        have hcons : record name (field :: fields) value =
            (name field, v) :: record name fields value := by simp [record, hvalue]
        rw [hcons, find?, hnone, if_pos rfl]
    · have hne : name first ≠ name field := fun heq => hfirst (hname heq ▸ hmem)
      cases hvalue : value first with
      | none => simpa [record, hvalue] using ih hrest hmem
      | some v =>
        have hcons : record name (first :: fields) value =
            (name first, v) :: record name fields value := by simp [record, hvalue]
        rw [hcons, find?, ih hrest hmem, if_neg hne]
        cases value field <;> rfl

/-- A record is written when its names and its values are. -/
theorem written_record {valid : List UInt8 → Bool} {fields : List F} {value : F → Option Json}
    (hname : ∀ field, valid (name field) = true)
    (hvalue : ∀ field v, value field = some v → Written valid v) :
    Written valid (object (record name fields value)) := by
  rw [Written, writtenFields_iff]
  intro entry hentry
  obtain ⟨field, -, v, hv, rfl⟩ := (mem_record name).1 hentry
  exact ⟨hname field, hvalue field v hv⟩

end Record

/-! ## Schemas -/

/-- The named fields of a kind of object, in order. -/
structure Schema (valid : List UInt8 → Bool) (F : Type) where
  name : F → List UInt8
  fields : List F
  mem_fields : ∀ field, field ∈ fields
  nodup_names : (fields.map name).Nodup
  valid_name : ∀ field, valid (name field) = true

namespace Schema

variable {valid : List UInt8 → Bool} {F : Type} (schema : Schema valid F)

/-- The fields of an object, as they are written. -/
def entries (value : F → Option Json) : List (List UInt8 × Json) :=
  record schema.name schema.fields value

/-- The fields of an object, found by name. -/
def find (entries : List (List UInt8 × Json)) (field : F) : Option Json :=
  find? (schema.name field) entries

theorem name_injective : Function.Injective schema.name := fun a b h =>
  List.inj_on_of_nodup_map schema.nodup_names (schema.mem_fields a) (schema.mem_fields b) h

theorem find_entries (value : F → Option Json) : schema.find (schema.entries value) = value := by
  funext field
  exact find?_record schema.name_injective schema.nodup_names.of_map value (schema.mem_fields field)

theorem written_entries {value : F → Option Json}
    (h : ∀ field v, value field = some v → Written valid v) :
    Written valid (object (schema.entries value)) :=
  written_record schema.valid_name h

end Schema

/-! ## Libraries -/

/-- A printer of written values, and a parser that reads them back. -/
structure Codec (valid : List UInt8 → Bool) where
  dump : Json → Except (List UInt8) (List UInt8)
  parse : List UInt8 → Except (List UInt8) Json
  dump_written : ∀ v, Written valid v → ∃ text, dump v = .ok text
  dump_ne_nil : ∀ v text, dump v = .ok text → text ≠ []
  parse_dump : ∀ v text, Written valid v → dump v = .ok text → parse text = .ok v

/-- The parser refuses a text with a string that the printer does not take. -/
def Codec.Sound {valid : List UInt8 → Bool} (codec : Codec valid) : Prop :=
  ∀ text v, codec.parse text = .ok v → allStrings valid v = true

/-- The same library, with a parser that refuses such texts. -/
def Codec.checked {valid : List UInt8 → Bool} (codec : Codec valid) : Codec valid where
  dump := codec.dump
  parse text :=
    match codec.parse text with
    | .ok v => if allStrings valid v then .ok v else .error []
    | .error e => .error e
  dump_written := codec.dump_written
  dump_ne_nil := codec.dump_ne_nil
  parse_dump v text hv h := by
    simp only [codec.parse_dump v text hv h, allStrings_of_written v hv, if_true]

theorem Codec.checked_sound {valid : List UInt8 → Bool} (codec : Codec valid) :
    codec.checked.Sound := by
  intro text v h
  simp only [checked] at h
  split at h
  · split at h
    · cases h
      assumption
    · cases h
  · cases h

/-- One library reads what another one has written. -/
def Codec.Reads {valid : List UInt8 → Bool} (reader writer : Codec valid) : Prop :=
  ∀ v text, Written valid v → writer.dump v = .ok text → reader.parse text = .ok v

/-- The printer refuses an object with a string that it does not take. -/
def Codec.Strict {valid : List UInt8 → Bool} (codec : Codec valid) : Prop :=
  ∀ fields text name value, codec.dump (.object fields) = .ok text →
    (name, .string value) ∈ fields → valid value = true

end Json
