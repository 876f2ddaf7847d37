import JetsonFabric.Engines.Sha256
import JetsonFabric.Lib.Reading

/-!
# Files of a model package

`runtime/engines/native/src/engine.c` and `format.h`: the parts of the loader that map a file. The
directory answers every call with anything. Reads of buffers are checked, so that one outside its
buffer is `Stop.outside`; every error that the loader returns is a `JfStatus`.
-/

namespace JetsonFabric

open Checks Reading

/-! ## Status -/

/-- `jf_status_code`, but for the code of success. -/
inductive JfStatusCode
  | invalidArgument
  | ioError
  | formatError
  | notFound
  | outOfMemory
  deriving DecidableEq

structure JfStatus where
  code : JfStatusCode
  message : Bytes
  deriving DecidableEq

/-- `status_error`: the text is cut to the array that holds it. -/
def statusError (code : JfStatusCode) (text : Bytes) : Stop JfStatus :=
  .refused { code, message := text.take 255 }

abbrev Loading := Except (Stop JfStatus)

/-! ## The host -/

/-- The process that loads a package. -/
structure LoaderHost where
  /-- `POSIX_FADV_DONTNEED` is defined. -/
  evicts : Bool := true

/-- What the calls on a file of a package answer. -/
structure PackageFile where
  bytes : Bytes
  regular : Bool := true
  statError : Option Bytes := none
  adviceError : Option Bytes := none
  mapError : Option Bytes := none

structure PackageDirectory where
  file : Bytes → Except Bytes PackageFile

/-! ## Helpers -/

def sizeMax : Nat := 2 ^ 64 - 1

def uint64Max : Nat := 2 ^ 64 - 1

/-- A range inside of a size. -/
def rangeFits (offset length size : Nat) : Prop := offset ≤ size ∧ length ≤ size - offset

instance (offset length size : Nat) : Decidable (rangeFits offset length size) :=
  inferInstanceAs (Decidable (_ ∧ _))

/-- All bytes are zero. -/
def bytesAreZero (bytes : Bytes) : Bool := bytes.all (· == 0)

/-- A sum in 64 bits. -/
def addU64 (left right : Nat) : Option Nat :=
  if left > uint64Max - right then none else some (left + right)

/-- A product in 64 bits. -/
def multiplyU64 (left right : Nat) : Option Nat :=
  if left ≠ 0 ∧ right > uint64Max / left then none else some (left * right)

/-- Four bytes at a place. -/
def readU32Le (data : Bytes) (place : Nat) : Loading Nat := ofLittleEndian <$> piece data place 4

/-- The same bits as a signed number. -/
def readI32Le (data : Bytes) (place : Nat) : Loading Int :=
  (fun n : Nat => (n : Int).bmod (2 ^ 32)) <$> readU32Le data place

/-- Eight bytes at a place. -/
def readU64Le (data : Bytes) (place : Nat) : Loading Nat := ofLittleEndian <$> piece data place 8

/-! ## Segments -/

/-- `jf_segment_kind`. -/
inductive SegmentKind
  | shared
  | input
  | layer
  | output
  | metadata
  deriving DecidableEq

structure ManifestSegment where
  kind : SegmentKind
  layer : Int
  tensorCount : Nat
  tensorBytes : Nat
  fileSize : Nat
  sha256 : Bytes
  path : Bytes
  deriving DecidableEq

/-- `jf_mapping`: the bytes at its address. -/
structure Mapping where
  bytes : Bytes
  nonempty : bytes ≠ []

/-- The page cache is told to drop a file before it is mapped. -/
def evictFile (host : LoaderHost) (file : PackageFile) (path : Bytes) (evictBeforeOpen : Bool) :
    Loading Unit :=
  if evictBeforeOpen = false then .ok ()
  else if host.evicts = false then
    .error (statusError .ioError (str "page-cache eviction is unsupported"))
  else
    match file.adviceError with
    | some text =>
      .error (statusError .ioError (str "evict " ++ path ++ str " from page cache: " ++ text))
    | none => .ok ()

/-- The hash of a mapped file is the one of the manifest. -/
def verifyFile (bytes : Bytes) (descriptor : ManifestSegment) (verifyHash : Bool) : Loading Unit :=
  if verifyHash = false then .ok ()
  else
    match jfSha256Buffer bytes with
    | none => .error .outside
    | some digest =>
      refuse (digest ≠ descriptor.sha256)
        (statusError .formatError (descriptor.path ++ str " checksum does not match manifest"))

/-- The error of a file of another size. -/
def sizeMismatch (path : Bytes) : Stop JfStatus :=
  statusError .formatError (path ++ str " size or file type does not match manifest")

/-- The calls of `map_package_file` on an open file. -/
def mapFile (host : LoaderHost) (file : PackageFile) (descriptor : ManifestSegment)
    (verifyHash evictBeforeOpen : Bool) : Loading Mapping :=
  match file.statError with
  | some text =>
    .error (statusError .ioError (str "stat " ++ descriptor.path ++ str ": " ++ text))
  | none =>
    if hempty : file.bytes = [] then .error (sizeMismatch descriptor.path)
    else do
      refuse (file.regular = false ∨ file.bytes.length ≠ descriptor.fileSize ∨
        descriptor.fileSize > sizeMax) (sizeMismatch descriptor.path)
      evictFile host file descriptor.path evictBeforeOpen
      match file.mapError with
      | some text =>
        .error (statusError .ioError (str "map " ++ descriptor.path ++ str ": " ++ text))
      | none => do
        verifyFile file.bytes descriptor verifyHash
        .ok ⟨file.bytes, hempty⟩

/-- `map_package_file`. -/
def mapPackageFile (host : LoaderHost) (directory : PackageDirectory) (descriptor : ManifestSegment)
    (verifyHash evictBeforeOpen : Bool) : Loading Mapping :=
  -- The path is copied to an array of 256 bytes, with a terminator.
  if descriptor.path.length ≥ 256 then .error .outside
  else
    match directory.file descriptor.path with
    | .error text =>
      .error (statusError .ioError (str "open " ++ descriptor.path ++ str ": " ++ text))
    | .ok file => mapFile host file descriptor verifyHash evictBeforeOpen

/-! ## Tensor types -/

/-- The elements of a block by type. -/
def layoutElements : List Nat := [
  0, 1, 1, 32, 32, 32, 32, 32, 32,
  256, 256, 256, 256, 256, 256, 256, 256, 256,
  256, 32, 256, 256, 256, 1, 1, 1, 1, 1, 256,
  1, 256, 256, 32, 64, 128, 64]

/-- The bytes of a block by type. -/
def layoutBytes : List Nat := [
  0, 4, 2, 18, 20, 22, 24, 34, 36,
  84, 110, 144, 176, 210, 292, 66, 74, 98,
  50, 18, 110, 82, 136, 1, 2, 4, 8, 8, 56,
  2, 54, 66, 17, 36, 18, 18]

/-- The elements and the bytes of a storage block of a type. -/
def jfTensorTypeLayout (type : Nat) : Loading (Nat × Nat) := do
  refuse (type = 0 ∨ type ≥ layoutElements.length)
    (statusError .formatError (str "unsupported JFM tensor type " ++ decimal type))
  return (← item layoutElements type, ← item layoutBytes type)

/-! ## What the helpers ensure -/

variable {data : Bytes} {place : Nat}

theorem addU64_eq_some {left right sum : Nat} (hright : right ≤ uint64Max) :
    addU64 left right = some sum ↔ sum = left + right ∧ left + right ≤ uint64Max := by
  unfold addU64
  split_ifs with h
  · simp only [false_iff]
    omega
  · simp only [Option.some.injEq]
    omega

theorem multiplyU64_eq_some {left right product : Nat} :
    multiplyU64 left right = some product ↔ product = left * right ∧ left * right ≤ uint64Max := by
  unfold multiplyU64
  rcases Nat.eq_zero_or_pos left with rfl | hleft
  · simp [eq_comm]
  · have hle : right > uint64Max / left ↔ ¬left * right ≤ uint64Max := by
      rw [gt_iff_lt, Nat.div_lt_iff_lt_mul hleft, Nat.mul_comm, not_le]
    split_ifs with h
    · simp only [false_iff, not_and]
      exact fun _ => hle.1 h.2
    · have hfit : left * right ≤ uint64Max := by
        by_contra hover
        exact h ⟨hleft.ne', hle.2 hover⟩
      simp [eq_comm, hfit]

/-- The unsigned number in the four bytes at a place. -/
def u32At (data : Bytes) (place : Nat) : Nat := ofLittleEndian ((data.drop place).take 4)

/-- The signed number in the four bytes at a place. -/
def i32At (data : Bytes) (place : Nat) : Int := (u32At data place : Int).bmod (2 ^ 32)

/-- The unsigned number in the eight bytes at a place. -/
def u64At (data : Bytes) (place : Nat) : Nat := ofLittleEndian ((data.drop place).take 8)

theorem u64At_le (data : Bytes) (place : Nat) : u64At data place ≤ uint64Max := by
  have hlt := ofLittleEndian_lt ((data.drop place).take 8)
  have hpow : 256 ^ ((data.drop place).take 8).length ≤ 256 ^ 8 :=
    Nat.pow_le_pow_right (by omega) (List.length_take_le _ _)
  unfold u64At uint64Max
  omega

theorem piece_eq {start length : Nat} (h : start + length ≤ data.length) :
    (piece data start length : Loading Bytes) = .ok ((data.drop start).take length) := if_pos h

theorem readU32Le_eq (h : place + 4 ≤ data.length) :
    readU32Le data place = .ok (u32At data place) := by
  rw [readU32Le, piece_eq h]
  rfl

theorem readI32Le_eq (h : place + 4 ≤ data.length) :
    readI32Le data place = .ok (i32At data place) := by
  rw [readI32Le, readU32Le_eq h]
  rfl

theorem readU64Le_eq (h : place + 8 ≤ data.length) :
    readU64Le data place = .ok (u64At data place) := by
  rw [readU64Le, piece_eq h]
  rfl

end JetsonFabric
