import JetsonFabric.Engines.Segment

/-!
# The form of a tensor segment

`docs/jfm-v2-format.md` describes a tensor segment byte for byte. The loader checks all of it but two
parts: the bytes after a name, and the end of the file.

* **`mapTensorSegment_documented_iff`**: when a segment that the loader accepts has this form.
-/

namespace JetsonFabric

open Checks Reading

/-! ## The documented form -/

/-- The next multiple of sixty-four. -/
def alignSixtyFour (n : Nat) : Nat := (n + 63) / 64 * 64

/-- The bytes of a file from one place to another are zero. -/
def ZeroBetween (bytes : Bytes) (start stop : Nat) : Prop :=
  ∀ place, start ≤ place → place < stop → bytes[place]? = some 0

/-- The end of the last payload, or the start of the data if there is none. -/
def payloadEnd (start : Nat) (tensors : List JfTensor) : Nat :=
  (tensors.getLast?.map JfTensor.dataEnd).getD start

/-- The payloads behind an index that ends at `indexEnd`. -/
structure PlacedPayloads (bytes : Bytes) (indexEnd : Nat) (tensors : List JfTensor) : Prop where
  data_start : alignSixtyFour indexEnd ≤ bytes.length
  aligned : ∀ tensor ∈ tensors, tensor.dataOffset % 64 = 0
  after_index : ∀ tensor ∈ tensors, alignSixtyFour indexEnd ≤ tensor.dataOffset
  ordered : tensors.Pairwise fun first second => first.dataEnd ≤ second.dataOffset
  inside : ∀ tensor ∈ tensors, tensor.dataEnd ≤ bytes.length

/-- The form that the document gives to such a segment. -/
structure DocumentedSegment (bytes : Bytes) (indexEnd : Nat) (tensors : List JfTensor) : Prop
    extends PlacedPayloads bytes indexEnd tensors where
  padding : ∀ tensor ∈ tensors, ZeroBetween bytes tensor.nameEnd (alignEight tensor.nameEnd)
  size : bytes.length = alignSixtyFour (payloadEnd (alignSixtyFour indexEnd) tensors)

/-! ## Runs over the index -/

variable {descriptor : ManifestSegment} {bytes : Bytes} {indexEnd : Nat}

theorem dataStart_eq (indexEnd : Nat) : dataStart indexEnd = alignSixtyFour indexEnd := by
  unfold dataStart alignSixtyFour formatAlignment
  omega

theorem segmentIndex_ordered {s t : Nat × Nat} {tensors : List JfTensor}
    (h : (segmentIndex descriptor bytes indexEnd).Run s tensors t) :
    (∀ tensor ∈ tensors, s.2 ≤ tensor.dataOffset) ∧
      tensors.Pairwise (fun first second => first.dataEnd ≤ second.dataOffset) ∧
      t.2 = payloadEnd s.2 tensors := by
  induction h with
  | nil s => exact ⟨nofun, .nil, rfl⟩
  | @cons s s' t tensor tensors hs _ ih =>
    obtain ⟨hentry, hafter, rfl⟩ := hs
    obtain ⟨hlater, hpairs, hend⟩ := ih
    refine ⟨List.forall_mem_cons.2 ⟨hafter, fun other hother => ?_⟩, .cons hlater hpairs, ?_⟩
    · have hle : tensor.dataOffset ≤ tensor.dataEnd := Nat.le_add_right _ _
      exact (hafter.trans hle).trans (hlater other hother)
    · rw [hend]
      cases tensors with
      | nil => rfl
      | cons next tensors => simp [payloadEnd, List.getLast?_cons]

theorem segmentIndex_entry {s t : Nat × Nat} {tensors : List JfTensor}
    (h : (segmentIndex descriptor bytes indexEnd).Run s tensors t) {tensor : JfTensor}
    (hmem : tensor ∈ tensors) : ∃ start, EntryAt descriptor bytes indexEnd start tensor := by
  induction h with
  | nil s => cases hmem
  | @cons s s' t first tensors hs _ ih =>
    rcases List.mem_cons.1 hmem with rfl | hmem
    · exact ⟨s.1, hs.1⟩
    · exact ih hmem

theorem SegmentOf.placed {mapping : Nat} {tensors : List JfTensor}
    (h : SegmentOf descriptor bytes mapping tensors) :
    PlacedPayloads bytes (segmentHeaderSize + u64At bytes 16) tensors := by
  obtain ⟨dataEnd, hrun⟩ := h.index
  obtain ⟨hafter, hordered, -⟩ := segmentIndex_ordered hrun
  rw [dataStart_eq] at hafter
  refine ⟨dataStart_eq _ ▸ h.data_inside, fun tensor hmem => ?_, hafter, hordered,
    fun tensor hmem => ?_⟩
  · obtain ⟨start, hentry⟩ := segmentIndex_entry hrun hmem
    exact hentry.aligned
  · obtain ⟨start, hentry⟩ := segmentIndex_entry hrun hmem
    exact hentry.data_inside

/-! ## What the loader accepts -/

variable {host : LoaderHost} {directory : PackageDirectory} {mapping tensorCapacity : Nat}
  {tensors all : List JfTensor} {verifyHash evictBeforeOpen : Bool} {region : Mapping}

/-- **A segment is as documented exactly if its padding is zero and nothing follows.** -/
theorem mapTensorSegment_documented_iff
    (h : mapTensorSegment host directory descriptor mapping tensorCapacity tensors verifyHash
      evictBeforeOpen = .ok (region, all)) :
    ∃ added, all = tensors ++ added ∧ SegmentOf descriptor region.bytes mapping added ∧
      PlacedPayloads region.bytes (segmentHeaderSize + u64At region.bytes 16) added ∧
      (DocumentedSegment region.bytes (segmentHeaderSize + u64At region.bytes 16) added ↔
        (∀ tensor ∈ added,
          ZeroBetween region.bytes tensor.nameEnd (alignEight tensor.nameEnd)) ∧
        region.bytes.length = alignSixtyFour
          (payloadEnd (alignSixtyFour (segmentHeaderSize + u64At region.bytes 16)) added)) := by
  obtain ⟨_, _, h⟩ := bind_eq_ok.1 h
  obtain ⟨_, hread, h⟩ := bind_eq_ok.1 h
  cases h
  obtain ⟨added, hall, hsegment, -⟩ := (readTensorSegment_ensures _ _ _ _ _).2 _ hread
  have hplaced := hsegment.placed
  exact ⟨added, hall, hsegment, hplaced, fun hform => ⟨hform.padding, hform.size⟩,
    fun ⟨hpadding, hsize⟩ => ⟨hplaced, hpadding, hsize⟩⟩

/-! ## Segments of one tensor -/

/-- One tensor, with given bytes after the name and at the end. -/
def sampleSegment (name : UInt8) (layer : Bytes) (padding : UInt8) (trailing : Bytes) : Bytes :=
  segmentMagic ++ [2, 0, 0, 0, 1, 0, 0, 0] ++ [88, 0, 0, 0, 0, 0, 0, 0] ++
    [4, 0, 0, 0, 0, 0, 0, 0] ++ List.replicate 32 0 ++
    -- The record: a tensor of one `F32`.
    [1, 0, 0, 0, 1, 0, 0, 0] ++ layer ++ [0, 0, 0, 0] ++
    [1, 0, 0, 0, 0, 0, 0, 0, 1, 0, 0, 0, 0, 0, 0, 0] ++
    [1, 0, 0, 0, 0, 0, 0, 0, 1, 0, 0, 0, 0, 0, 0, 0] ++
    [192, 0, 0, 0, 0, 0, 0, 0, 4, 0, 0, 0, 0, 0, 0, 0] ++
    [1, 0, 0, 0, 1, 0, 0, 0, 4, 0, 0, 0, 0, 0, 0, 0] ++
    -- Its name, and the bytes up to the data.
    [name] ++ List.replicate 7 padding ++ List.replicate 40 0 ++
    [0, 0, 128, 63] ++ List.replicate 60 0 ++ trailing

/-- The layer of a segment that belongs to none. -/
def noLayer : Bytes := [255, 255, 255, 255]

def sampleTensor : JfTensor where
  mapping := 0
  nameOffset := 144
  name := [119]
  type := 1
  rank := 1
  storageBlockElements := 1
  storageBlockBytes := 4
  shape := [1, 1, 1, 1]
  layer := -1
  dataOffset := 192
  size := 4

/-- The record of a manifest for a file. -/
def sampleSegmentRecord (bytes : Bytes) : ManifestSegment where
  kind := .input
  layer := -1
  tensorCount := 1
  tensorBytes := 4
  fileSize := bytes.length
  sha256 := Fips180.sha256 bytes
  path := str "input.jfs"

def sampleSegmentDirectory (bytes : Bytes) : PackageDirectory where
  file := fun _ => .ok { bytes }

def samplePackageHost : LoaderHost := {}

theorem mapTensorSegment_sample (bytes : Bytes) (tensors : List JfTensor) (hne : bytes ≠ [])
    (hsize : bytes.length ≤ sizeMax)
    (hread : readTensorSegment (sampleSegmentRecord bytes) bytes 0 1 [] = .ok tensors) :
    mapTensorSegment samplePackageHost (sampleSegmentDirectory bytes) (sampleSegmentRecord bytes) 0 1
      [] true false = .ok (⟨bytes, hne⟩, tensors) := by
  have hverify : verifyFile bytes (sampleSegmentRecord bytes) true = .ok () := by
    rw [verifyFile, if_neg nofun, jfSha256Buffer_eq]
    exact refuse_of_not (not_not.2 rfl)
  have hfile : mapPackageFile samplePackageHost (sampleSegmentDirectory bytes)
      (sampleSegmentRecord bytes) true false = .ok ⟨bytes, hne⟩ := by
    have hpath : ¬(sampleSegmentRecord bytes).path.length ≥ 256 :=
      show ¬(str "input.jfs").length ≥ 256 by decide
    rw [mapPackageFile, if_neg hpath]
    simp only [sampleSegmentDirectory, mapFile, dif_neg hne]
    rw [refuse_of_not (by simp [sampleSegmentRecord, hsize]), ok_bind, evictFile, if_pos rfl, ok_bind,
      hverify, ok_bind]
  rw [mapTensorSegment, hfile, ok_bind, hread]
  rfl

theorem mapTensorSegment_documented_sample :
    ∃ region added, mapTensorSegment samplePackageHost
        (sampleSegmentDirectory (sampleSegment 119 noLayer 0 []))
        (sampleSegmentRecord (sampleSegment 119 noLayer 0 [])) 0 1 [] true false =
          .ok (region, added) ∧
      PlacedPayloads region.bytes (segmentHeaderSize + u64At region.bytes 16) added := by
  have hall := mapTensorSegment_sample (sampleSegment 119 noLayer 0 []) [sampleTensor]
    (by decide) (by decide +kernel) (by decide +kernel)
  obtain ⟨added, hadded, -, hplaced, -⟩ := mapTensorSegment_documented_iff hall
  exact ⟨_, _, hall, hadded ▸ hplaced⟩

/-- Other bytes after a name or after the payloads are accepted. -/
theorem mapTensorSegment_unpadded :
    (∃ region added, mapTensorSegment samplePackageHost
        (sampleSegmentDirectory (sampleSegment 119 noLayer 7 []))
        (sampleSegmentRecord (sampleSegment 119 noLayer 7 [])) 0 1 [] true false =
          .ok (region, added) ∧
      ¬DocumentedSegment region.bytes (segmentHeaderSize + u64At region.bytes 16) added) ∧
    ∃ region added, mapTensorSegment samplePackageHost
        (sampleSegmentDirectory (sampleSegment 119 noLayer 0 (List.replicate 64 1)))
        (sampleSegmentRecord (sampleSegment 119 noLayer 0 (List.replicate 64 1))) 0 1 [] true false =
          .ok (region, added) ∧
      ¬DocumentedSegment region.bytes (segmentHeaderSize + u64At region.bytes 16) added := by
  constructor
  · refine ⟨_, _, mapTensorSegment_sample (sampleSegment 119 noLayer 7 []) [sampleTensor]
      (by decide) (by decide +kernel) (by decide +kernel), fun hform => ?_⟩
    have hzero := hform.padding sampleTensor List.mem_cons_self 145 (by decide) (by decide)
    exact absurd hzero (by decide +kernel)
  · refine ⟨_, _, mapTensorSegment_sample (sampleSegment 119 noLayer 0 (List.replicate 64 1))
      [sampleTensor] (by decide) (by decide +kernel) (by decide +kernel), fun hform => ?_⟩
    exact absurd hform.size (by decide +kernel)

end JetsonFabric
