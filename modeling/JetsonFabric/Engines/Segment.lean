import JetsonFabric.Engines.Package
import JetsonFabric.Lib.Transition

/-!
# Segments of a model package

`map_tensor_segment` of `runtime/engines/native/src/engine.c`.
-/

namespace JetsonFabric

open Checks Reading

/-! ## The code -/

def modelFormatVersion : Nat := 2
def segmentHeaderSize : Nat := 64
def tensorRecordSize : Nat := 80
def formatAlignment : Nat := 64

def segmentMagic : Bytes := str "JFSEGM02"

/-- The fixed part of an entry of the index. -/
structure TensorRecord where
  type : Nat
  rank : Nat
  layer : Int
  flags : Nat
  shape : List Nat
  dataOffset : Nat
  dataLength : Nat
  nameLength : Nat
  blockElements : Nat
  blockBytes : Nat
  reserved : Nat
  deriving DecidableEq

/-- `jf_tensor`, with offsets in a mapping for pointers. -/
structure JfTensor where
  mapping : Nat
  nameOffset : Nat
  name : Bytes
  type : Nat
  rank : Nat
  storageBlockElements : Nat
  storageBlockBytes : Nat
  shape : List Nat
  layer : Int
  dataOffset : Nat
  size : Nat
  deriving DecidableEq

/-- The record of a tensor. -/
def readTensorRecord (bytes : Bytes) (cursor : Nat) : Loading TensorRecord := do
  let type ← readU32Le bytes cursor
  let rank ← readU32Le bytes (cursor + 4)
  let layer ← readI32Le bytes (cursor + 8)
  let dataOffset ← readU64Le bytes (cursor + 48)
  let dataLength ← readU64Le bytes (cursor + 56)
  let nameLength ← readU32Le bytes (cursor + 64)
  let blockElements ← readU32Le bytes (cursor + 68)
  let blockBytes ← readU32Le bytes (cursor + 72)
  let flags ← readU32Le bytes (cursor + 12)
  let reserved ← readU32Le bytes (cursor + 76)
  let extent0 ← readU64Le bytes (cursor + 16)
  let extent1 ← readU64Le bytes (cursor + 24)
  let extent2 ← readU64Le bytes (cursor + 32)
  let extent3 ← readU64Le bytes (cursor + 40)
  return { type, rank, layer, flags, shape := [extent0, extent1, extent2, extent3], dataOffset,
           dataLength, nameLength, blockElements, blockBytes, reserved }

/-- The loop over the index of a segment. -/
structure IndexScan where
  cursor : Nat
  previousDataEnd : Nat
  tensorBytes : Nat
  tensors : List JfTensor

/-- The checks of a record against the type table, the index and the file. -/
def checkRecord (record : TensorRecord) (cursor indexEnd fileSize previousDataEnd : Nat) :
    Loading Unit := do
  let (canonicalElements, canonicalBytes) ← instead (jfTensorTypeLayout record.type)
    { code := .formatError, message := str "tensor segment contains an invalid record" }
  refuse (record.blockElements ≠ canonicalElements ∨ record.blockBytes ≠ canonicalBytes ∨
      record.flags ≠ 0 ∨ record.reserved ≠ 0 ∨ record.rank = 0 ∨ record.rank > 4 ∨
      record.nameLength = 0 ∨ record.nameLength > 1024 ∨ record.blockElements = 0 ∨
      record.blockBytes = 0 ∨ ¬rangeFits cursor record.nameLength indexEnd ∨
      record.dataOffset > sizeMax ∨ record.dataLength > sizeMax ∨
      record.dataOffset % formatAlignment ≠ 0 ∨ record.dataOffset < previousDataEnd ∨
      ¬rangeFits record.dataOffset record.dataLength fileSize)
    (statusError .formatError (str "tensor segment contains an invalid record"))

/-- The layer that the tensors of a segment carry. -/
def segmentLayer (descriptor : ManifestSegment) : Int :=
  if descriptor.kind = .layer then descriptor.layer else -1

/-- The loop over the dimensions: how many rows a tensor has. -/
def countRows (rank : Nat) : Nat → Nat → List Nat → Loading Nat
  | _, rowCount, [] => .ok rowCount
  | dimension, rowCount, extent :: extents => do
    refuse (extent = 0 ∨ (dimension ≥ rank ∧ extent ≠ 1))
      (statusError .formatError (str "tensor shape is invalid"))
    if dimension = 0 then countRows rank (dimension + 1) rowCount extents
    else
      match multiplyU64 rowCount extent with
      | none => .error (statusError .formatError (str "tensor shape overflows"))
      | some rowCount => countRows rank (dimension + 1) rowCount extents

/-- The bytes of a tensor of `rowCount` rows, if they can be counted. -/
def storageBytes (record : TensorRecord) (rowCount : Nat) : Option Nat :=
  let rowElements := record.shape.headD 0
  if rowElements % record.blockElements ≠ 0 then none
  else do
    let rowBytes ← multiplyU64 (rowElements / record.blockElements) record.blockBytes
    multiplyU64 rowBytes rowCount

/-- The ends of the data, if the sizes are consistent. -/
def placeData (record : TensorRecord) (rowCount tensorBytes : Nat) : Option (Nat × Nat) := do
  let expectedBytes ← storageBytes record rowCount
  if expectedBytes ≠ record.dataLength then none
  else
    let dataEnd ← addU64 record.dataOffset record.dataLength
    let tensorBytes ← addU64 tensorBytes record.dataLength
    return (dataEnd, tensorBytes)

/-- The next multiple of eight. -/
def alignEight (n : Nat) : Nat := (n + 7) / 8 * 8

/-- What the model keeps of a record. -/
def TensorRecord.tensor (record : TensorRecord) (mapping nameOffset : Nat) (name : Bytes) :
    JfTensor where
  mapping := mapping
  nameOffset := nameOffset
  name := name
  type := record.type
  rank := record.rank
  storageBlockElements := record.blockElements
  storageBlockBytes := record.blockBytes
  shape := record.shape
  layer := record.layer
  dataOffset := record.dataOffset
  size := record.dataLength

/-- One turn of the loop over the index. -/
def scanTensor (descriptor : ManifestSegment) (bytes : Bytes) (indexEnd mapping tensorCapacity : Nat)
    (scan : IndexScan) : Loading IndexScan := do
  refuse (¬rangeFits scan.cursor tensorRecordSize indexEnd)
    (statusError .formatError (str "tensor record is truncated"))
  let record ← readTensorRecord bytes scan.cursor
  let cursor := scan.cursor + tensorRecordSize
  checkRecord record cursor indexEnd bytes.length scan.previousDataEnd
  refuse (record.layer ≠ segmentLayer descriptor)
    (statusError .formatError (str "tensor layer does not match its segment"))
  refuse (scan.tensors.length ≥ tensorCapacity)
    (statusError .formatError (str "segment declares too many tensors"))
  let rowCount ← countRows record.rank 0 1 record.shape
  match placeData record rowCount scan.tensorBytes with
  | none => .error (statusError .formatError (str "tensor storage size is inconsistent"))
  | some (previousDataEnd, tensorBytes) => do
    let name ← piece bytes cursor record.nameLength
    return { cursor := alignEight (cursor + record.nameLength), previousDataEnd, tensorBytes
             tensors := scan.tensors ++ [record.tensor mapping cursor name] }

/-- Where the data of a segment start. -/
def dataStart (indexEnd : Nat) : Nat :=
  (indexEnd + formatAlignment - 1) / formatAlignment * formatAlignment

/-- `map_tensor_segment`, once the file is mapped. -/
def readTensorSegment (descriptor : ManifestSegment) (bytes : Bytes) (mapping tensorCapacity : Nat)
    (tensors : List JfTensor) : Loading (List JfTensor) := do
  let fileSize := bytes.length
  refuse (fileSize < segmentHeaderSize) (statusError .formatError (str "tensor segment is truncated"))
  let magic ← piece bytes 0 8
  let version ← readU32Le bytes 8
  let headerRest ← piece bytes 32 (segmentHeaderSize - 32)
  refuse (magic ≠ segmentMagic ∨ version ≠ modelFormatVersion ∨ bytesAreZero headerRest = false)
    (statusError .formatError (str "tensor segment has an unsupported header"))
  let tensorCount ← readU32Le bytes 12
  let indexBytes ← readU64Le bytes 16
  let payloadBytes ← readU64Le bytes 24
  refuse (tensorCount ≠ descriptor.tensorCount ∨ payloadBytes ≠ descriptor.tensorBytes ∨
      indexBytes > sizeMax ∨ ¬rangeFits segmentHeaderSize indexBytes fileSize)
    (statusError .formatError (str "tensor segment has an invalid index"))
  let indexEnd := segmentHeaderSize + indexBytes
  refuse (indexEnd > sizeMax - (formatAlignment - 1))
    (statusError .formatError (str "tensor segment index overflows"))
  refuse (dataStart indexEnd > fileSize)
    (statusError .formatError (str "tensor segment data starts past end of file"))
  let scan ← times (scanTensor descriptor bytes indexEnd mapping tensorCapacity) tensorCount
    { cursor := segmentHeaderSize, previousDataEnd := dataStart indexEnd, tensorBytes := 0, tensors }
  refuse (scan.cursor ≠ indexEnd ∨ scan.tensorBytes ≠ descriptor.tensorBytes)
    (statusError .formatError (str "tensor index or payload total does not match manifest"))
  return scan.tensors

/-- `map_tensor_segment`. -/
def mapTensorSegment (host : LoaderHost) (directory : PackageDirectory) (descriptor : ManifestSegment)
    (mapping tensorCapacity : Nat) (tensors : List JfTensor) (verifyHash evictBeforeOpen : Bool) :
    Loading (Mapping × List JfTensor) := do
  let region ← mapPackageFile host directory descriptor verifyHash evictBeforeOpen
  let tensors ← readTensorSegment descriptor region.bytes mapping tensorCapacity tensors
  return (region, tensors)

/-! ## Records -/

variable {bytes : Bytes}

/-- The fields of the record at a place. -/
def recordAt (bytes : Bytes) (cursor : Nat) : TensorRecord where
  type := u32At bytes cursor
  rank := u32At bytes (cursor + 4)
  layer := i32At bytes (cursor + 8)
  flags := u32At bytes (cursor + 12)
  shape := [u64At bytes (cursor + 16), u64At bytes (cursor + 24), u64At bytes (cursor + 32),
    u64At bytes (cursor + 40)]
  dataOffset := u64At bytes (cursor + 48)
  dataLength := u64At bytes (cursor + 56)
  nameLength := u32At bytes (cursor + 64)
  blockElements := u32At bytes (cursor + 68)
  blockBytes := u32At bytes (cursor + 72)
  reserved := u32At bytes (cursor + 76)

theorem readTensorRecord_eq {cursor : Nat} (h : cursor + tensorRecordSize ≤ bytes.length) :
    readTensorRecord bytes cursor = .ok (recordAt bytes cursor) := by
  unfold tensorRecordSize at h
  rw [readTensorRecord, readU32Le_eq (by omega), ok_bind, readU32Le_eq (by omega), ok_bind,
    readI32Le_eq (by omega), ok_bind, readU64Le_eq (by omega), ok_bind, readU64Le_eq (by omega),
    ok_bind, readU32Le_eq (by omega), ok_bind, readU32Le_eq (by omega), ok_bind,
    readU32Le_eq (by omega), ok_bind, readU32Le_eq (by omega), ok_bind, readU32Le_eq (by omega),
    ok_bind, readU64Le_eq (by omega), ok_bind, readU64Le_eq (by omega), ok_bind,
    readU64Le_eq (by omega), ok_bind, readU64Le_eq (by omega), ok_bind]
  rfl

/-- The block of a type, as the table has it. -/
structure HasLayout (type elements bytes : Nat) : Prop where
  elements_eq : layoutElements[type]? = some elements
  bytes_eq : layoutBytes[type]? = some bytes

theorem jfTensorTypeLayout_ensures (type : Nat) :
    Ensures (jfTensorTypeLayout type) fun layout => HasLayout type layout.1 layout.2 := by
  unfold jfTensorTypeLayout
  refine ensures_bind (ensures_refuse _) fun _ hknown => ?_
  have htype : type < layoutElements.length := by omega
  refine ensures_bind (ensures_item htype) fun elements helements => ?_
  refine ensures_bind (ensures_item htype) fun bytes hbytes => ?_
  exact ensures_ok ⟨helements, hbytes⟩

/-- What a record satisfies that goes through the checks. -/
structure RecordFits (record : TensorRecord) (cursor indexEnd fileSize previousDataEnd : Nat) :
    Prop where
  layout : HasLayout record.type record.blockElements record.blockBytes
  flags : record.flags = 0
  reserved : record.reserved = 0
  rank : 0 < record.rank ∧ record.rank ≤ 4
  nameLength : 0 < record.nameLength ∧ record.nameLength ≤ 1024
  blocks : 0 < record.blockElements ∧ 0 < record.blockBytes
  name_inside : cursor + record.nameLength ≤ indexEnd
  aligned : record.dataOffset % formatAlignment = 0
  ordered : previousDataEnd ≤ record.dataOffset
  data_inside : record.dataOffset + record.dataLength ≤ fileSize

theorem checkRecord_ensures (record : TensorRecord) (cursor indexEnd fileSize previousDataEnd : Nat) :
    Ensures (checkRecord record cursor indexEnd fileSize previousDataEnd) fun _ =>
      RecordFits record cursor indexEnd fileSize previousDataEnd := by
  unfold checkRecord
  refine ensures_bind (ensures_instead (jfTensorTypeLayout_ensures _) _) fun layout hlayout => ?_
  refine (ensures_refuse _).mono fun _ hfits => ?_
  simp only [not_or, not_not, rangeFits] at hfits
  obtain ⟨helements, hbytes, hflags, hreserved, hrank, hrank', hname, hname', hblock, hblock',
    hinside, -, -, haligned, hordered, hdata⟩ := hfits
  exact
    { layout := helements ▸ hbytes ▸ hlayout
      flags := hflags
      reserved := hreserved
      rank := by omega
      nameLength := by omega
      blocks := by omega
      name_inside := by omega
      aligned := haligned
      ordered := by omega
      data_inside := by omega }

/-- Every extent counts; those the rank does not use are one. -/
def ShapeFits (rank : Nat) : Nat → List Nat → Prop
  | _, [] => True
  | dimension, extent :: extents =>
    0 < extent ∧ (rank ≤ dimension → extent = 1) ∧ ShapeFits rank (dimension + 1) extents

theorem countRows_ensures (rank : Nat) {dimension : Nat} (hdimension : 0 < dimension)
    (rowCount : Nat) (extents : List Nat) :
    Ensures (countRows rank dimension rowCount extents) fun rows =>
      rows = rowCount * extents.prod ∧ ShapeFits rank dimension extents := by
  induction extents generalizing dimension rowCount with
  | nil => exact ensures_ok ⟨(Nat.mul_one _).symm, trivial⟩
  | cons extent extents ih =>
    rw [countRows]
    refine ensures_bind (ensures_refuse _) fun _ hextent => ?_
    rw [if_neg hdimension.ne']
    split
    · exact ensures_refused _
    · rename_i product hproduct
      obtain ⟨rfl, -⟩ := multiplyU64_eq_some.1 hproduct
      refine (ih (Nat.succ_pos _) _).mono fun rows ⟨hrows, hrest⟩ => ⟨?_, by omega, ?_, hrest⟩
      · rw [hrows, List.prod_cons, Nat.mul_assoc]
      · intro hunused
        by_contra hne
        exact hextent (.inr ⟨hunused, hne⟩)

theorem countRows_shape (rank : Nat) {shape : List Nat} (hshape : shape ≠ []) :
    Ensures (countRows rank 0 1 shape) fun rows =>
      rows = shape.tail.prod ∧ ShapeFits rank 0 shape := by
  obtain ⟨extent, extents, rfl⟩ := List.exists_cons_of_ne_nil hshape
  rw [countRows]
  refine ensures_bind (ensures_refuse _) fun _ hextent => ?_
  rw [if_pos rfl]
  refine (countRows_ensures rank Nat.one_pos _ _).mono fun rows ⟨hrows, hrest⟩ =>
    ⟨by rw [hrows, Nat.one_mul, List.tail_cons], by omega, ?_, hrest⟩
  intro hunused
  by_contra hne
  exact hextent (.inr ⟨hunused, hne⟩)

/-- The bytes of a tensor in blocks, without a bound. -/
def blockStorage (shape : List Nat) (blockElements blockBytes : Nat) : Nat :=
  shape.headD 0 / blockElements * blockBytes * shape.tail.prod

theorem placeData_eq_some {record : TensorRecord} {rowCount tensorBytes dataEnd total : Nat}
    (hlength : record.dataLength ≤ uint64Max)
    (h : placeData record rowCount tensorBytes = some (dataEnd, total)) :
    record.shape.headD 0 % record.blockElements = 0 ∧
      record.dataLength = record.shape.headD 0 / record.blockElements * record.blockBytes * rowCount ∧
      dataEnd = record.dataOffset + record.dataLength ∧
      total = tensorBytes + record.dataLength := by
  obtain ⟨expected, hexpected, h⟩ := Option.bind_eq_some_iff.1 h
  split_ifs at h with hsame
  obtain ⟨stop, hstop, h⟩ := Option.bind_eq_some_iff.1 h
  obtain ⟨sum, hsum, h⟩ := Option.bind_eq_some_iff.1 h
  cases h
  unfold storageBytes at hexpected
  dsimp only at hexpected
  split_ifs at hexpected with hwhole
  obtain ⟨rowBytes, hrow, hall⟩ := Option.bind_eq_some_iff.1 hexpected
  obtain ⟨rfl, -⟩ := multiplyU64_eq_some.1 hrow
  obtain ⟨rfl, -⟩ := multiplyU64_eq_some.1 hall
  exact ⟨not_not.1 hwhole, (not_not.1 hsame).symm, ((addU64_eq_some hlength).1 hstop).1,
    ((addU64_eq_some hlength).1 hsum).1⟩

/-! ## The index of a segment -/

variable {descriptor : ManifestSegment} {indexEnd mapping : Nat}

/-- The record that describes a tensor. -/
def JfTensor.record (tensor : JfTensor) : TensorRecord where
  type := tensor.type
  rank := tensor.rank
  layer := tensor.layer
  flags := 0
  shape := tensor.shape
  dataOffset := tensor.dataOffset
  dataLength := tensor.size
  nameLength := tensor.name.length
  blockElements := tensor.storageBlockElements
  blockBytes := tensor.storageBlockBytes
  reserved := 0

theorem TensorRecord.record_tensor {record : TensorRecord} {name : Bytes} (mapping nameOffset : Nat)
    (hflags : record.flags = 0) (hreserved : record.reserved = 0)
    (hname : name.length = record.nameLength) :
    (record.tensor mapping nameOffset name).record = record := by
  cases record
  dsimp only at hflags hreserved hname
  rw [hflags, hreserved, ← hname]
  rfl

/-- Where the name of a tensor ends. -/
def JfTensor.nameEnd (tensor : JfTensor) : Nat := tensor.nameOffset + tensor.name.length

/-- Where the data of a tensor end. -/
def JfTensor.dataEnd (tensor : JfTensor) : Nat := tensor.dataOffset + tensor.size

/-- A tensor whose entry starts at a place of the index. -/
structure EntryAt (descriptor : ManifestSegment) (bytes : Bytes) (indexEnd start : Nat)
    (tensor : JfTensor) : Prop where
  record : recordAt bytes start = tensor.record
  nameOffset : tensor.nameOffset = start + tensorRecordSize
  name : tensor.name = (bytes.drop tensor.nameOffset).take tensor.name.length
  name_inside : tensor.nameEnd ≤ indexEnd
  name_length : 0 < tensor.name.length ∧ tensor.name.length ≤ 1024
  layout : HasLayout tensor.type tensor.storageBlockElements tensor.storageBlockBytes
  blocks : 0 < tensor.storageBlockElements ∧ 0 < tensor.storageBlockBytes
  rank : 0 < tensor.rank ∧ tensor.rank ≤ 4
  shape_length : tensor.shape.length = 4
  shape : ShapeFits tensor.rank 0 tensor.shape
  layer : tensor.layer = segmentLayer descriptor
  aligned : tensor.dataOffset % formatAlignment = 0
  data_inside : tensor.dataEnd ≤ bytes.length
  whole_blocks : tensor.shape.headD 0 % tensor.storageBlockElements = 0
  size : tensor.size =
    blockStorage tensor.shape tensor.storageBlockElements tensor.storageBlockBytes

/-- The place in the index and the end of the data. -/
def segmentIndex (descriptor : ManifestSegment) (bytes : Bytes) (indexEnd : Nat) :
    LTS (Nat × Nat) JfTensor where
  init s := s = (segmentHeaderSize, dataStart indexEnd)
  step s tensor t := EntryAt descriptor bytes indexEnd s.1 tensor ∧ s.2 ≤ tensor.dataOffset ∧
    t = (alignEight tensor.nameEnd, tensor.dataEnd)

/-- One turn of the loop adds one tensor. -/
theorem scanTensor_ensures
    {tensorCapacity : Nat} (hindex : indexEnd ≤ bytes.length) (scan : IndexScan) :
    Ensures (scanTensor descriptor bytes indexEnd mapping tensorCapacity scan) fun next =>
      ∃ tensor, (segmentIndex descriptor bytes indexEnd).step (scan.cursor, scan.previousDataEnd)
          tensor (next.cursor, next.previousDataEnd) ∧
        tensor.mapping = mapping ∧ next.tensors = scan.tensors ++ [tensor] ∧
        next.tensorBytes = scan.tensorBytes + tensor.size ∧
        scan.tensors.length < tensorCapacity := by
  unfold scanTensor
  refine ensures_bind (ensures_refuse _) fun _ hrecord => ?_
  rw [not_not, rangeFits] at hrecord
  rw [readTensorRecord_eq (by omega), ok_bind]
  generalize hread : recordAt bytes scan.cursor = record
  have hfour : record.shape.length = 4 := hread ▸ rfl
  have hfit : record.dataLength ≤ uint64Max := hread ▸ u64At_le _ _
  refine ensures_bind (checkRecord_ensures _ _ _ _ _) fun _ hfits => ?_
  refine ensures_bind (ensures_refuse _) fun _ hlayer => ?_
  refine ensures_bind (ensures_refuse _) fun _ hroom => ?_
  refine ensures_bind (countRows_shape _ (List.ne_nil_of_length_pos (by omega)))
    fun rows ⟨hrows, hshape⟩ => ?_
  split
  · exact ensures_refused _
  · rename_i dataEnd total hplace
    have hname := hfits.name_inside
    obtain ⟨hwhole, hsize, rfl, rfl⟩ := placeData_eq_some hfit hplace
    refine ensures_bind (ensures_piece (by omega)) fun name hbytes => ?_
    have hlength : name.length = record.nameLength := by
      rw [hbytes, List.length_take, List.length_drop]
      omega
    refine ensures_ok ⟨_, ⟨?_, hfits.ordered, ?_⟩, rfl, rfl, rfl, by omega⟩
    · exact
        { record := by rw [hread, TensorRecord.record_tensor _ _ hfits.flags hfits.reserved hlength]
          nameOffset := rfl
          name := hbytes.trans (by rw [← hlength]; rfl)
          name_inside := (congrArg (_ + ·) hlength).trans_le hname
          name_length := hlength.symm ▸ hfits.nameLength
          layout := hfits.layout
          blocks := hfits.blocks
          rank := hfits.rank
          shape_length := hfour
          shape := hshape
          layer := not_not.1 hlayer
          aligned := hfits.aligned
          data_inside := hfits.data_inside
          whole_blocks := hwhole
          size := hsize.trans (by rw [hrows]; rfl) }
    · rw [← hlength]
      rfl

/-- What the loop over the index has read after `k` turns. -/
structure Scanned (descriptor : ManifestSegment) (bytes : Bytes) (indexEnd mapping : Nat)
    (tensors : List JfTensor) (k : Nat) (scan : IndexScan) (added : List JfTensor) : Prop where
  run : (segmentIndex descriptor bytes indexEnd).Run (segmentHeaderSize, dataStart indexEnd) added
    (scan.cursor, scan.previousDataEnd)
  tensors : scan.tensors = tensors ++ added
  length : added.length = k
  mapping : ∀ tensor ∈ added, tensor.mapping = mapping
  total : scan.tensorBytes = (added.map JfTensor.size).sum

theorem Scanned.next
    {tensors : List JfTensor} {k : Nat} {scan next : IndexScan} {added : List JfTensor}
    {tensor : JfTensor} (h : Scanned descriptor bytes indexEnd mapping tensors k scan added)
    (hstep : (segmentIndex descriptor bytes indexEnd).step (scan.cursor, scan.previousDataEnd)
      tensor (next.cursor, next.previousDataEnd)) (hmapping : tensor.mapping = mapping)
    (htensors : next.tensors = scan.tensors ++ [tensor])
    (htotal : next.tensorBytes = scan.tensorBytes + tensor.size) :
    Scanned descriptor bytes indexEnd mapping tensors (k + 1) next (added ++ [tensor]) where
  run := h.run.append (.cons hstep (.nil _))
  tensors := by rw [htensors, h.tensors, List.append_assoc]
  length := by rw [List.length_append, h.length, List.length_singleton]
  mapping := by
    intro other hother
    rcases List.mem_append.1 hother with hold | hnew
    · exact h.mapping other hold
    · rw [List.mem_singleton.1 hnew, hmapping]
  total := by rw [htotal, h.total, List.map_append, List.sum_append, List.map_singleton,
    List.sum_singleton]

theorem scanIndex_ensures {tensorCapacity : Nat} {tensors : List JfTensor}
    (hindex : indexEnd ≤ bytes.length) (count : Nat) :
    Ensures (times (scanTensor descriptor bytes indexEnd mapping tensorCapacity) count
      { cursor := segmentHeaderSize, previousDataEnd := dataStart indexEnd, tensorBytes := 0
        tensors }) fun scan =>
      ∃ added, Scanned descriptor bytes indexEnd mapping tensors count scan added ∧
        (added = [] ∨ scan.tensors.length ≤ tensorCapacity) := by
  have hall := @ensures_times _ _ (scanTensor descriptor bytes indexEnd mapping tensorCapacity)
    (fun k scan => ∃ added, Scanned descriptor bytes indexEnd mapping tensors k scan added ∧
      (added = [] ∨ scan.tensors.length ≤ tensorCapacity)) ?_ count 0
    { cursor := segmentHeaderSize, previousDataEnd := dataStart indexEnd, tensorBytes := 0
      tensors } ?_
  · simpa using hall
  · rintro k scan ⟨added, hscan, -⟩
    refine (scanTensor_ensures hindex scan).mono ?_
    rintro next ⟨tensor, hstep, hmapping, htensors, htotal, hroom⟩
    refine ⟨_, hscan.next hstep hmapping htensors htotal, .inr ?_⟩
    rw [htensors, List.length_append, List.length_singleton]
    omega
  · exact ⟨[], ⟨.nil _, (List.append_nil _).symm, rfl, nofun, rfl⟩, .inl rfl⟩

/-! ## Segments -/

/-- The header of a segment, and the tensors that its index lists. -/
structure SegmentOf (descriptor : ManifestSegment) (bytes : Bytes) (mapping : Nat)
    (tensors : List JfTensor) : Prop where
  header : segmentHeaderSize ≤ bytes.length
  magic : bytes.take 8 = segmentMagic
  version : u32At bytes 8 = modelFormatVersion
  reserved : bytesAreZero ((bytes.drop 32).take 32) = true
  count : u32At bytes 12 = descriptor.tensorCount ∧ tensors.length = descriptor.tensorCount
  payload : u64At bytes 24 = descriptor.tensorBytes ∧
    (tensors.map JfTensor.size).sum = descriptor.tensorBytes
  data_inside : dataStart (segmentHeaderSize + u64At bytes 16) ≤ bytes.length
  mapping_eq : ∀ tensor ∈ tensors, tensor.mapping = mapping
  index : ∃ dataEnd, (segmentIndex descriptor bytes (segmentHeaderSize + u64At bytes 16)).Run
    (segmentHeaderSize, dataStart (segmentHeaderSize + u64At bytes 16)) tensors
    (segmentHeaderSize + u64At bytes 16, dataEnd)

/-- **Segments**: no read is outside the file, and its index is read. -/
theorem readTensorSegment_ensures (descriptor : ManifestSegment) (bytes : Bytes)
    (mapping tensorCapacity : Nat) (tensors : List JfTensor) :
    Ensures (readTensorSegment descriptor bytes mapping tensorCapacity tensors) fun all =>
      ∃ added, all = tensors ++ added ∧ SegmentOf descriptor bytes mapping added ∧
        (added = [] ∨ all.length ≤ tensorCapacity) := by
  unfold readTensorSegment
  refine ensures_bind (ensures_refuse _) fun _ hheader => ?_
  have hsize : 64 ≤ bytes.length := by unfold segmentHeaderSize at hheader; omega
  rw [piece_eq (by omega), ok_bind, readU32Le_eq (by omega), ok_bind,
    piece_eq (by unfold segmentHeaderSize; omega), ok_bind]
  refine ensures_bind (ensures_refuse _) fun _ hmagic => ?_
  rw [readU32Le_eq (by omega), ok_bind, readU64Le_eq (by omega), ok_bind, readU64Le_eq (by omega),
    ok_bind]
  refine ensures_bind (ensures_refuse _) fun _ hindex => ?_
  refine ensures_bind (ensures_refuse _) fun _ _ => ?_
  refine ensures_bind (ensures_refuse _) fun _ hstart => ?_
  simp only [not_or, not_not, not_lt, rangeFits] at hmagic hindex hstart
  have hend : segmentHeaderSize + u64At bytes 16 ≤ bytes.length := by omega
  refine ensures_bind (scanIndex_ensures hend _) fun scan ⟨added, hscan, hroom⟩ => ?_
  refine ensures_bind (ensures_refuse _) fun _ htotal => ?_
  simp only [not_or, not_not] at htotal
  refine ensures_ok ⟨added, hscan.tensors, ?_, ?_⟩
  · exact
      { header := hsize
        magic := by simpa using hmagic.1
        version := hmagic.2.1
        reserved := eq_true_of_ne_false hmagic.2.2
        count := ⟨hindex.1, hscan.length.trans hindex.1⟩
        payload := ⟨hindex.2.1, hscan.total.symm.trans htotal.2⟩
        data_inside := hstart
        mapping_eq := hscan.mapping
        index := ⟨scan.previousDataEnd, htotal.1 ▸ hscan.run⟩ }
  · exact hroom

end JetsonFabric
