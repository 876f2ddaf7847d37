import JetsonFabric.Inference.Executor
import JetsonFabric.Stagewire.Frame

/-!
# The three checks of a tensor

A tensor is checked by Go before it is sent and after it is read, by the codec of the runtime and
once more around every execution. Each check multiplies the dimensions in a machine integer and tests
by a division, before every product, that it stays in range.

* **`tensor_validators_agree`**: what the three checks accept.
-/

namespace JetsonFabric

open Checks

/-! ## Tensors -/

variable {dtype : Bytes} {width : Nat}

/-- The element types with their widths. -/
def dtypes : List (Bytes × Nat) :=
  [(str "u8", 1), (str "i8", 1), (str "f16", 2), (str "bf16", 2), (str "i32", 4), (str "u32", 4),
    (str "f32", 4), (str "i64", 8), (str "u64", 8), (str "f64", 8)]

/-- Positive dimensions that give the payload, at most 512 MiB. -/
def TensorFits (dtype : Bytes) (shape : List Int) (length : Nat) : Prop :=
  ∃ width : Nat, (dtype, width) ∈ dtypes ∧ shape ≠ [] ∧ (∀ dim ∈ shape, 0 < dim) ∧
    shape.prod * width ≤ 512 * 2 ^ 20 ∧ shape.prod * width = length

theorem width_of_mem_dtypes (h : (dtype, width) ∈ dtypes) :
    1 ≤ width ∧ width ≤ 8 := by
  have hall : ∀ entry ∈ dtypes, 1 ≤ entry.2 ∧ entry.2 ≤ 8 := by decide
  exact hall _ h

theorem name_of_mem_dtypes (h : (dtype, width) ∈ dtypes) :
    trimSpace dtype ≠ [] ∧ dtype ≠ [] := by
  have hall : ∀ entry ∈ dtypes, trimSpace entry.1 ≠ [] ∧ entry.1 ≠ [] := by decide
  exact hall _ h

/-! ## Element types -/

theorem dtypeWidth_eq_ok :
    dtypeWidth dtype = .ok width ↔ (dtype, width) ∈ dtypes := by
  constructor
  · intro h
    unfold dtypeWidth at h
    split_ifs at h with h1 h2 h4 h8
    · cases h
      rcases h1 with rfl | rfl <;> decide
    · cases h
      rcases h2 with rfl | rfl <;> decide
    · cases h
      rcases h4 with rfl | rfl | rfl <;> decide
    · cases h
      rcases h8 with rfl | rfl | rfl <;> decide
  · intro h
    have hall : ∀ entry ∈ dtypes, dtypeWidth entry.1 = .ok entry.2 := by decide
    exact hall _ h

theorem Stagewire.dtypeWidth_eq_some :
    Stagewire.dtypeWidth dtype = some width ↔ (dtype, width) ∈ dtypes := by
  rw [← dtypeWidth_eq_ok]
  unfold Stagewire.dtypeWidth JetsonFabric.dtypeWidth
  repeat' split
  all_goals simp

theorem tensorWidth_eq (hwidth : width ≠ 0) :
    tensorWidth dtype = width ↔ (dtype, width) ∈ dtypes := by
  rw [← dtypeWidth_eq_ok]
  unfold tensorWidth dtypeWidth
  repeat' split
  all_goals simp [hwidth.symm]

/-! ## Shapes -/

variable {shape : List Int} {count : Int}

theorem one_le_prod (h : ∀ dim ∈ shape, 0 < dim) : 1 ≤ shape.prod :=
  Int.add_one_le_iff.2 (List.prod_pos h)

theorem le_tdiv_iff {dim limit : Int} (hdim : 0 < dim) (hlimit : 0 ≤ limit) :
    count ≤ limit.tdiv dim ↔ count * dim ≤ limit := by
  rw [Int.tdiv_eq_ediv_of_nonneg hlimit, Int.le_ediv_iff_mul_le hdim]

theorem mul_le_of_prod_le {dim limit : Int} (hcount : 0 < count)
    (hdim : 0 < dim) (hshape : ∀ dim ∈ shape, 0 < dim)
    (h : count * (dim * shape.prod) ≤ limit) : count * dim ≤ limit :=
  calc count * dim = count * dim * 1 := (mul_one _).symm
    _ ≤ count * dim * shape.prod :=
      mul_le_mul_of_nonneg_left (one_le_prod hshape) (mul_pos hcount hdim).le
    _ = count * (dim * shape.prod) := mul_assoc ..
    _ ≤ limit := h

theorem wrap64_of_le {n : Int} (hpos : 0 < n) (hle : n ≤ 512 * 2 ^ 20) : wrap64 n = n := by
  unfold wrap64
  rw [Int.bmod_eq_of_le] <;> omega

/-- **The loop of Go.** -/
theorem Stagewire.shapeElements_eq_ok {n : Int} (hcount : 0 < count) (hle : count ≤ 512 * 2 ^ 20) :
    Stagewire.shapeElements count shape = .ok n ↔
      (∀ dim ∈ shape, 0 < dim) ∧ count * shape.prod ≤ 512 * 2 ^ 20 ∧ n = count * shape.prod := by
  induction shape generalizing count with
  | nil =>
    rw [List.prod_nil, mul_one]
    constructor
    · rintro ⟨⟩
      exact ⟨nofun, hle, rfl⟩
    · rintro ⟨-, -, rfl⟩
      rfl
  | cons dim shape ih =>
    simp only [Stagewire.shapeElements, bind_eq_ok, refuse_eq_ok, exists_const, not_le, gt_iff_lt,
      not_lt, List.forall_mem_cons, List.prod_cons]
    constructor
    · rintro ⟨hdim, hnext, hrest⟩
      have hprod : count * dim ≤ 512 * 2 ^ 20 := (le_tdiv_iff hdim (by decide)).1 hnext
      have hpos : 0 < count * dim := mul_pos hcount hdim
      rw [wrap64_of_le hpos hprod, ih hpos hprod, mul_assoc] at hrest
      exact ⟨⟨hdim, hrest.1⟩, hrest.2⟩
    · rintro ⟨⟨hdim, hshape⟩, hlimit, hn⟩
      have hprod := mul_le_of_prod_le hcount hdim hshape hlimit
      have hpos : 0 < count * dim := mul_pos hcount hdim
      refine ⟨hdim, (le_tdiv_iff hdim (by decide)).2 hprod, ?_⟩
      rw [wrap64_of_le hpos hprod, ih hpos hprod, mul_assoc]
      exact ⟨hshape, hlimit, hn⟩

/-- **The loop of the runtime.** It is that of Go in an unsigned integer. -/
theorem shapeElements_eq_ok {count n : Nat} (hcount : 0 < count) (hle : count ≤ 512 * 2 ^ 20) :
    shapeElements count shape = .ok n ↔ Stagewire.shapeElements count shape = .ok (n : Int) := by
  induction shape generalizing count with
  | nil => simp [shapeElements, Stagewire.shapeElements]
  | cons dim shape ih =>
    simp only [shapeElements, Stagewire.shapeElements, bind_eq_ok, refuse_eq_ok, exists_const,
      not_or, not_le, gt_iff_lt, not_lt, and_assoc]
    refine and_congr_right fun hdim => ?_
    obtain ⟨dim, rfl⟩ := Int.eq_ofNat_of_zero_le hdim.le
    have hdim : 0 < dim := by exact_mod_cast hdim
    have hdiv : (count : Int) ≤ (Stagewire.maxPayloadBytes : Int).tdiv dim ↔
        count * dim ≤ 512 * 2 ^ 20 := by
      rw [le_tdiv_iff (by exact_mod_cast hdim) (by decide)]
      exact_mod_cast Iff.rfl
    rw [Int.toNat_natCast, hdiv, show maxPayloadBytes = 512 * 2 ^ 20 from rfl,
      Nat.le_div_iff_mul_le hdim]
    refine and_congr_right fun hprod => ?_
    have hpos : 0 < count * dim := Nat.mul_pos hcount hdim
    rw [Nat.mod_eq_of_lt (by omega), wrap64_of_le (by exact_mod_cast hpos) (by exact_mod_cast hprod)]
    exact_mod_cast ih hpos hprod

theorem shapeElements_one {n : Nat} :
    shapeElements 1 shape = .ok n ↔
      (∀ dim ∈ shape, 0 < dim) ∧ shape.prod ≤ 512 * 2 ^ 20 ∧ (n : Int) = shape.prod := by
  rw [shapeElements_eq_ok (by decide) (by decide), Stagewire.shapeElements_eq_ok (by decide)
    (by decide), Nat.cast_one, one_mul]

/-! ## Checks -/

variable {length : Nat} {kind : Bytes}

theorem bytes_fit_iff {count : Nat} (hwidth : 1 ≤ width ∧ width ≤ 8) :
    ¬ (count > maxPayloadBytes / width ∨ count * width % 2 ^ 64 ≠ length) ↔
      (count : Int) * width ≤ 512 * 2 ^ 20 ∧ (count : Int) * width = length := by
  rw [not_or, not_lt, not_not, Nat.le_div_iff_mul_le (by omega),
    show maxPayloadBytes = 512 * 2 ^ 20 from rfl]
  constructor
  · rintro ⟨hle, hlength⟩
    rw [Nat.mod_eq_of_lt (by omega)] at hlength
    exact ⟨by exact_mod_cast hle, by exact_mod_cast hlength⟩
  · rintro ⟨hle, hlength⟩
    have hle : count * width ≤ 512 * 2 ^ 20 := by exact_mod_cast hle
    rw [Nat.mod_eq_of_lt (by omega)]
    exact ⟨hle, by exact_mod_cast hlength⟩

theorem tensorFits_iff (hdtype : (dtype, width) ∈ dtypes) :
    (shape ≠ [] ∧ ∃ count, shapeElements 1 shape = .ok count ∧
      ¬ (count > maxPayloadBytes / width ∨ count * width % 2 ^ 64 ≠ length)) ↔
      TensorFits dtype shape length := by
  have hwidth := width_of_mem_dtypes hdtype
  simp only [shapeElements_one, bytes_fit_iff hwidth]
  constructor
  · rintro ⟨hshape, count, ⟨hpos, -, hcount⟩, hle, hlength⟩
    rw [hcount] at hle hlength
    exact ⟨width, hdtype, hshape, hpos, hle, hlength⟩
  · rintro ⟨width', hdtype', hshape, hpos, hle, hlength⟩
    obtain rfl : width' = width := by
      rw [← dtypeWidth_eq_ok] at hdtype hdtype'
      exact Except.ok.inj (hdtype'.symm.trans hdtype)
    have hone := one_le_prod hpos
    obtain ⟨count, hcount⟩ := Int.eq_ofNat_of_zero_le (zero_le_one.trans hone)
    have hprod : shape.prod ≤ shape.prod * width' :=
      le_mul_of_one_le_right (zero_le_one.trans hone) (by exact_mod_cast hwidth.1)
    refine ⟨hshape, count, ⟨hpos, hprod.trans hle, hcount.symm⟩, ?_⟩
    rw [← hcount]
    exact ⟨hle, hlength⟩

theorem Stagewire.isTensorKind_iff : isTensorKind kind = true ↔
    kind = str "tokens" ∨ kind = str "activation" ∨ kind = str "sampled_token" ∨
      kind = str "sampled_tokens" := by
  simp [isTensorKind, or_assoc]

theorem Stagewire.isTensorKind_ne_text (h : isTensorKind kind = true) :
    kind ≠ str "text" := by
  rintro rfl
  revert h
  decide

/-- The codec of the runtime. -/
theorem validateTensorMetadata_tensor {encoding byteOrder layout : Bytes}
    (hkind : Stagewire.isTensorKind kind = true) :
    validateTensorMetadata kind encoding dtype shape byteOrder layout length = .ok () ↔
      byteOrder = str "little" ∧ layout = str "row_major" ∧ TensorFits dtype shape length := by
  have hname := Stagewire.isTensorKind_iff.1 hkind
  rw [validateTensorMetadata, if_neg (Stagewire.isTensorKind_ne_text hkind)]
  simp only [bind_eq_ok, refuse_eq_ok, exists_const, not_or, dtypeWidth_eq_ok]
  constructor
  · rintro ⟨-, ⟨-, hshape⟩, ⟨horder, hlayout⟩, count, hcount, width, hdtype, hsize⟩
    exact ⟨not_not.1 horder, not_not.1 hlayout,
      (tensorFits_iff hdtype).1 ⟨hshape, count, hcount, not_or.2 hsize⟩⟩
  · rintro ⟨horder, hlayout, hfits⟩
    obtain ⟨width, hdtype, -⟩ := id hfits
    obtain ⟨hshape, count, hcount, hsize⟩ := (tensorFits_iff hdtype).2 hfits
    exact ⟨by tauto, ⟨(name_of_mem_dtypes hdtype).2, hshape⟩, ⟨not_not.2 horder, not_not.2 hlayout⟩,
      count, hcount, width, hdtype, not_or.1 hsize⟩

/-- The check around an execution, which also counts the sampled tokens. -/
theorem validatePayload_tensor {payload : Payload} (hkind : payload.kind ≠ .text) :
    validatePayload payload = .ok () ↔
      (payload.encoding = [] ∧ payload.tensor.byteOrder = str "little" ∧
        payload.tensor.layout = str "row_major" ∧
        TensorFits payload.tensor.dtype payload.tensor.shape payload.bytes.length) ∧
      (payload.kind = .sampledToken → payload.tensor.shape.prod = 1) ∧
      (payload.kind = .sampledTokens → 2 ≤ payload.tensor.shape.prod) := by
  rw [validatePayload, if_neg hkind]
  simp only [bind_eq_ok, refuse_eq_ok, exists_const, not_or, not_not, not_and, not_lt]
  constructor
  · rintro ⟨hencoding, ⟨-, hshape⟩, ⟨horder, hlayout⟩, hwidth, count, hcount, hsize, hone, htwo⟩
    have hfits := (tensorFits_iff ((tensorWidth_eq hwidth).1 rfl)).1
      ⟨hshape, count, hcount, not_or.2 ⟨not_lt.2 hsize.1, not_not.2 hsize.2⟩⟩
    rw [← (shapeElements_one.1 hcount).2.2]
    exact ⟨⟨hencoding, horder, hlayout, hfits⟩, fun h => by exact_mod_cast hone h,
      fun h => by exact_mod_cast htwo h⟩
  · rintro ⟨⟨hencoding, horder, hlayout, hfits⟩, hone, htwo⟩
    obtain ⟨width, hdtype, -⟩ := id hfits
    have hwidth := width_of_mem_dtypes hdtype
    have heq : tensorWidth payload.tensor.dtype = width := (tensorWidth_eq (by omega)).2 hdtype
    obtain ⟨hshape, count, hcount, hsize⟩ := (tensorFits_iff hdtype).2 hfits
    rw [← (shapeElements_one.1 hcount).2.2] at hone htwo
    rw [heq]
    exact ⟨hencoding, ⟨(name_of_mem_dtypes hdtype).2, hshape⟩, ⟨horder, hlayout⟩, by omega, count,
      hcount, ⟨not_lt.1 (not_or.1 hsize).1, not_not.1 (not_or.1 hsize).2⟩,
      fun h => by exact_mod_cast hone h, fun h => by exact_mod_cast htwo h⟩

/-- The bytes that Go computes for a tensor. -/
theorem Stagewire.tensorByteLength_eq_ok {size : Int} :
    tensorByteLength dtype shape = .ok size ↔
      ∃ width : Nat, (dtype, width) ∈ dtypes ∧ (∀ dim ∈ shape, 0 < dim) ∧
        shape.prod * width ≤ 512 * 2 ^ 20 ∧ shape.prod * width = size := by
  unfold tensorByteLength
  split
  · rename_i hnone
    constructor
    · intro h
      cases h
    · rintro ⟨width, hdtype, -⟩
      rw [← dtypeWidth_eq_some, hnone] at hdtype
      cases hdtype
  · rename_i width hwidth
    have hdtype := dtypeWidth_eq_some.1 hwidth
    have hrange := width_of_mem_dtypes hdtype
    have hpos : (0 : Int) < width := by exact_mod_cast hrange.1
    simp only [bind_eq_ok, refuse_eq_ok, exists_const, gt_iff_lt, not_lt,
      Stagewire.shapeElements_eq_ok one_pos (by decide), one_mul, Except.ok.injEq,
      le_tdiv_iff hpos (show (0 : Int) ≤ maxPayloadBytes by decide)]
    constructor
    · rintro ⟨count, ⟨hshape, -, rfl⟩, hle, hsize⟩
      rw [wrap64_of_le (mul_pos (one_le_prod hshape) hpos) hle] at hsize
      exact ⟨width, hdtype, hshape, hle, hsize⟩
    · rintro ⟨width', hdtype', hshape, hle, hsize⟩
      obtain rfl : width' = width := by
        rw [← dtypeWidth_eq_some] at hdtype hdtype'
        exact Option.some.inj (hdtype'.symm.trans hdtype)
      have hone := one_le_prod hshape
      have hprod : shape.prod ≤ shape.prod * width' :=
        le_mul_of_one_le_right (zero_le_one.trans hone) (by exact_mod_cast hrange.1)
      refine ⟨_, ⟨hshape, hprod.trans hle, rfl⟩, hle, ?_⟩
      rw [wrap64_of_le (mul_pos hone hpos) hle, hsize]

/-- The check of Go. -/
theorem Stagewire.validatePayloadMetadata_tensor {m : Metadata} {payload : Bytes}
    (herror : m.error = []) (hkind : isTensorKind m.payloadKind = true) :
    validatePayloadMetadata m payload = .ok () ↔
      m.byteOrder = str "little" ∧ m.layout = str "row_major" ∧
        TensorFits m.dtype m.shape payload.length := by
  rw [validatePayloadMetadata, if_neg (not_not.2 herror), if_neg (isTensorKind_ne_text hkind),
    if_pos hkind]
  simp only [bind_eq_ok, refuse_eq_ok, exists_const, List.length_eq_zero_iff, not_not,
    tensorByteLength_eq_ok]
  constructor
  · rintro ⟨-, hshape, horder, hlayout, _, ⟨width, hdtype, hpos, hle, rfl⟩, hsize⟩
    exact ⟨horder, hlayout, width, hdtype, hshape, hpos, hle, hsize⟩
  · rintro ⟨horder, hlayout, width, hdtype, hshape, hpos, hle, hsize⟩
    exact ⟨(name_of_mem_dtypes hdtype).1, hshape, horder, hlayout, _,
      ⟨width, hdtype, hpos, hle, rfl⟩, hsize⟩

/-! ## Agreement -/

theorem isTensorKind_toText {kind : PayloadKind} (hkind : kind ≠ .text) :
    Stagewire.isTensorKind kind.toText = true := by
  cases kind with
  | text => exact absurd rfl hkind
  | tokens | activation | sampledToken | sampledTokens => decide

/-- **The three checks agree** on the tensors that fit their payload. -/
theorem tensor_validators_agree (kind : PayloadKind) (hkind : kind ≠ .text) (dtype : Bytes)
    (shape : List Int) (payload : Bytes) (m : Stagewire.Metadata) :
    (Stagewire.validatePayloadMetadata
        { m with error := [], payloadKind := kind.toText, encoding := [], dtype, shape,
                 byteOrder := str "little", layout := str "row_major" } payload = .ok () ↔
      TensorFits dtype shape payload.length) ∧
    (validateTensorMetadata kind.toText [] dtype shape (str "little") (str "row_major")
        payload.length = .ok () ↔ TensorFits dtype shape payload.length) ∧
    (validatePayload
        { kind, tensor := { dtype, shape, byteOrder := str "little", layout := str "row_major" },
          bytes := payload } = .ok () ↔
      TensorFits dtype shape payload.length ∧ (kind = .sampledToken → shape.prod = 1) ∧
        (kind = .sampledTokens → 2 ≤ shape.prod)) := by
  have htensor := isTensorKind_toText hkind
  refine ⟨?_, ?_, ?_⟩
  · rw [Stagewire.validatePayloadMetadata_tensor rfl htensor]
    exact ⟨fun h => h.2.2, fun h => ⟨rfl, rfl, h⟩⟩
  · rw [validateTensorMetadata_tensor htensor]
    exact ⟨fun h => h.2.2, fun h => ⟨rfl, rfl, h⟩⟩
  · rw [validatePayload_tensor hkind]
    exact and_congr_left fun _ => ⟨fun h => h.2.2.2, fun h => ⟨rfl, rfl, rfl, h⟩⟩

/-- Two sampled tokens. -/
theorem tensor_validators_agree_sampled :
    validatePayload { kind := .sampledTokens,
                      tensor := { dtype := str "i32", shape := [2, 1], byteOrder := str "little",
                                  layout := str "row_major" },
                      bytes := List.replicate 8 7 } = .ok () :=
  (tensor_validators_agree .sampledTokens (by decide) (str "i32") [2, 1] (List.replicate 8 7)
    {}).2.2.2 ⟨⟨4, by decide, by decide, by decide, by decide, by decide⟩, nofun, by decide⟩

end JetsonFabric
