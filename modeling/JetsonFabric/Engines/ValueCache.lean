import JetsonFabric.Engines.SessionSpecs
import JetsonFabric.Go

/-!
# The cells of the value cache

Values are cached transposed: a row of the cache holds one element of the values at all positions. A
graph scatters the values of its tokens by a list of cells that `build_value_cache_indices` makes.

* **`valueCacheCells_exact`**: the cells are those of the new positions, each once, and they survive the
  conversion to 32 bits exactly when the last one does.
-/

namespace JetsonFabric

open Stops

/-! ## Metadata -/

/-- What the session reads of the metadata. -/
structure Qwen2HParams where
  layerCount : UInt32
  embeddingLength : UInt32
  contextLength : UInt32
  feedForwardLength : UInt32
  headCount : UInt32
  kvHeadCount : UInt32
  ropeDimensionCount : UInt32
  ropeFrequencyBase : Float64
  rmsEpsilon : Float64

namespace Qwen2HParams

variable (params : Qwen2HParams)

/-- The elements of a head. -/
def headLength : UInt32 := params.embeddingLength / params.headCount

/-- The elements of the values at one position. -/
def kvLength : Nat := params.headLength.toNat * params.kvHeadCount.toNat

end Qwen2HParams

/-- The checks of the metadata. -/
def validateHparams (params : Qwen2HParams) : Except Thrown Unit := do
  Checks.refuse (params.layerCount = 0 ∨ params.embeddingLength = 0 ∨
      params.feedForwardLength = 0 ∨ params.headCount = 0 ∨ params.kvHeadCount = 0 ∨
      params.contextLength = 0)
    (.exception (str "Qwen2 metadata dimensions must be positive"))
  Checks.refuse (params.embeddingLength % params.headCount ≠ 0 ∨
      params.headCount % params.kvHeadCount ≠ 0)
    (.exception (str "Qwen2 attention dimensions are inconsistent"))
  Checks.refuse (params.ropeDimensionCount ≠ params.headLength ∨
      params.rmsEpsilon.le (.finite 0) = true ∨ params.ropeFrequencyBase.le (.finite 0) = true)
    (.exception (str "Qwen2 RoPE or RMS metadata is unsupported"))

theorem toNat_pos_of_ne {n : UInt32} (h : n ≠ 0) : 0 < n.toNat :=
  Nat.pos_of_ne_zero fun hzero => h (UInt32.toNat_inj.1 hzero)

theorem toNat_dvd_of_mod {m n : UInt32} (h : m % n = 0) : n.toNat ∣ m.toNat := by
  refine Nat.dvd_of_mod_eq_zero ?_
  rw [← UInt32.toNat_mod, h]
  rfl

/-- The dimensions that the check accepts. -/
structure Qwen2HParams.Dimensions (params : Qwen2HParams) : Prop where
  embedding : 0 < params.embeddingLength.toNat
  head : 0 < params.headCount.toNat
  kvHead : 0 < params.kvHeadCount.toNat
  head_dvd : params.headCount.toNat ∣ params.embeddingLength.toNat
  kvHead_dvd : params.kvHeadCount.toNat ∣ params.headCount.toNat

theorem dimensions_of_validateHparams {params : Qwen2HParams}
    (h : validateHparams params = .ok ()) : params.Dimensions := by
  simp only [validateHparams, Checks.bind_eq_ok, Checks.refuse_eq_ok, exists_const, not_or,
    not_not] at h
  obtain ⟨⟨-, hembedding, -, hhead, hkvHead, -⟩, ⟨hmod, hkvMod⟩, -⟩ := h
  exact ⟨toNat_pos_of_ne hembedding, toNat_pos_of_ne hhead,
    toNat_pos_of_ne hkvHead, toNat_dvd_of_mod hmod, toNat_dvd_of_mod hkvMod⟩

namespace Qwen2HParams.Dimensions

variable {params : Qwen2HParams} (h : params.Dimensions)

include h

theorem kvLength_pos : 0 < params.kvLength := by
  refine Nat.mul_pos ?_ h.kvHead
  rw [headLength, UInt32.toNat_div]
  exact Nat.div_pos (Nat.le_of_dvd h.embedding h.head_dvd) h.head

theorem kvLength_le : params.kvLength ≤ params.embeddingLength.toNat :=
  calc params.headLength.toNat * params.kvHeadCount.toNat
      ≤ params.headLength.toNat * params.headCount.toNat :=
        Nat.mul_le_mul_left _ (Nat.le_of_dvd h.head h.kvHead_dvd)
    _ = params.embeddingLength.toNat / params.headCount.toNat * params.headCount.toNat := by
        rw [headLength, UInt32.toNat_div]
    _ ≤ params.embeddingLength.toNat := Nat.div_mul_le_self _ _

end Qwen2HParams.Dimensions

/-! ## Loops that fill a list -/

theorem foldl_set_range {α : Type} (f : Nat → α) (xs : List α) {k : Nat} (hk : k ≤ xs.length) :
    (List.range k).foldl (fun xs i => xs.set i (f i)) xs = (List.range k).map f ++ xs.drop k := by
  induction k with
  | zero => rfl
  | succ k ih =>
    rw [List.range_succ, List.foldl_append, ih (Nat.le_of_succ_le hk), List.foldl_cons,
      List.foldl_nil, List.map_append, List.append_assoc]
    have hlength : ((List.range k).map f).length = k := by simp
    rw [List.set_append_right _ _ hlength.le, hlength, Nat.sub_self,
      List.drop_eq_getElem_cons hk, List.set_cons_zero]
    rfl

theorem flatMap_range {α : Type} (f : Nat → Nat → α) (m n : Nat) :
    (List.range m).flatMap (fun i => (List.range n).map (f i)) =
      (List.range (m * n)).map fun k => f (k / n) (k % n) := by
  induction m with
  | zero => simp
  | succ m ih =>
    rw [List.range_succ, List.flatMap_append, ih, Nat.succ_mul, List.range_add, List.map_append,
      List.flatMap_singleton, List.map_map]
    refine congrArg _ (List.map_congr_left fun j hj => ?_)
    have hj : j < n := List.mem_range.1 hj
    have hn : 0 < n := Nat.zero_lt_of_lt hj
    simp only [Function.comp_apply, Nat.mul_add_mod_self_right, Nat.mod_eq_of_lt hj]
    rw [Nat.add_comm, Nat.add_mul_div_right _ _ hn, Nat.div_eq_of_lt hj, Nat.zero_add]

/-! ## The list of cells -/

section Cells

variable (params : Qwen2HParams) (tokenCount stride position : Nat)

/-- The cell of one element at a position (`build_value_cache_indices`). -/
def valueCacheIndex (stride position element : Nat) : Nat := position + stride * element

theorem valueCacheIndex_inj {stride p q e f : Nat} (hp : p < stride) (hq : q < stride)
    (h : valueCacheIndex stride p e = valueCacheIndex stride q f) : p = q ∧ e = f := by
  unfold valueCacheIndex at h
  have hmod := congrArg (· % stride) h
  simp only [Nat.add_mul_mod_self_left, Nat.mod_eq_of_lt hp, Nat.mod_eq_of_lt hq] at hmod
  subst hmod
  exact ⟨rfl, Nat.eq_of_mul_eq_mul_left (by omega) (Nat.add_left_cancel h)⟩

/-- The place in the list and the cell, for each assignment of the loops. -/
def valueCacheWrites : List (Nat × Nat) :=
  (List.range tokenCount).flatMap fun token =>
    (List.range params.kvHeadCount.toNat).flatMap fun head =>
      (List.range params.headLength.toNat).map fun element =>
        (token * params.kvLength + head * params.headLength.toNat + element,
          valueCacheIndex stride (position + token) (head * params.headLength.toNat + element))

/-- `build_value_cache_indices`. -/
def buildValueCacheIndices : List Int32 :=
  (valueCacheWrites params tokenCount stride position).foldl
    (fun indices write => indices.set write.1 (Int32.ofNat write.2))
    (List.replicate (tokenCount * params.kvLength) 0)

/-- The cells before their conversion, in the order of the list. -/
def valueCacheCells : List Nat :=
  (List.range (tokenCount * params.kvLength)).map fun i =>
    valueCacheIndex stride (position + i / params.kvLength) (i % params.kvLength)

/-- **The loops write each place once, in order.** -/
theorem valueCacheWrites_eq :
    valueCacheWrites params tokenCount stride position =
      (List.range (tokenCount * params.kvLength)).map fun i =>
        (i, valueCacheIndex stride (position + i / params.kvLength) (i % params.kvLength)) := by
  -- the loops over heads and elements count through the elements of a position
  have hinner : ∀ token, (List.range params.kvHeadCount.toNat).flatMap (fun head =>
      (List.range params.headLength.toNat).map fun element =>
        (token * params.kvLength + head * params.headLength.toNat + element,
          valueCacheIndex stride (position + token) (head * params.headLength.toNat + element))) =
      (List.range params.kvLength).map fun k =>
        (token * params.kvLength + k, valueCacheIndex stride (position + token) k) := by
    intro token
    rw [flatMap_range, Nat.mul_comm params.kvHeadCount.toNat]
    refine List.map_congr_left fun k _ => ?_
    rw [Nat.add_assoc, Nat.div_add_mod']
  unfold valueCacheWrites
  rw [List.flatMap_congr fun token _ => hinner token, flatMap_range]
  exact List.map_congr_left fun k _ => by rw [Nat.div_add_mod']

theorem buildValueCacheIndices_eq :
    buildValueCacheIndices params tokenCount stride position =
      (valueCacheCells params tokenCount stride position).map Int32.ofNat := by
  unfold buildValueCacheIndices valueCacheCells
  rw [valueCacheWrites_eq, List.foldl_map, foldl_set_range _ _ (by simp), List.map_map]
  simp only [List.drop_replicate, Nat.sub_self, List.replicate_zero, List.append_nil]
  rfl

variable {params tokenCount stride position}

theorem mem_valueCacheCells {cell : Nat} :
    cell ∈ valueCacheCells params tokenCount stride position ↔
      ∃ p, position ≤ p ∧ p < position + tokenCount ∧
        ∃ element < params.kvLength, cell = valueCacheIndex stride p element := by
  unfold valueCacheCells
  rw [List.mem_map]
  constructor
  · rintro ⟨i, hi, rfl⟩
    have hi : i < tokenCount * params.kvLength := List.mem_range.1 hi
    have hkv : 0 < params.kvLength := Nat.pos_of_mul_pos_left (Nat.zero_lt_of_lt hi)
    refine ⟨position + i / params.kvLength, Nat.le_add_right .., ?_, _, Nat.mod_lt _ hkv, rfl⟩
    exact Nat.add_lt_add_left (Nat.div_lt_of_lt_mul (Nat.mul_comm .. ▸ hi)) _
  · rintro ⟨p, hp, hlt, element, helement, rfl⟩
    have hkv : 0 < params.kvLength := Nat.zero_lt_of_lt helement
    refine ⟨(p - position) * params.kvLength + element, List.mem_range.2 ?_, ?_⟩
    · calc (p - position) * params.kvLength + element
          < (p - position) * params.kvLength + params.kvLength := Nat.add_lt_add_left helement _
        _ = (p - position + 1) * params.kvLength := (Nat.succ_mul ..).symm
        _ ≤ tokenCount * params.kvLength := Nat.mul_le_mul_right _ (by omega)
    · rw [Nat.mul_add_mod_self_right, Nat.mod_eq_of_lt helement, Nat.add_comm (_ * _),
        Nat.add_mul_div_right _ _ hkv, Nat.div_eq_of_lt helement, Nat.zero_add,
        Nat.add_sub_cancel' hp]

theorem nodup_valueCacheCells (hroom : position + tokenCount ≤ stride) :
    (valueCacheCells params tokenCount stride position).Nodup := by
  refine List.Nodup.map_on ?_ List.nodup_range
  intro i hi j hj heq
  have hplace : ∀ i ∈ List.range (tokenCount * params.kvLength),
      position + i / params.kvLength < stride := by
    intro i hi
    have hdiv : i / params.kvLength < tokenCount :=
      Nat.div_lt_of_lt_mul (Nat.mul_comm .. ▸ List.mem_range.1 hi)
    omega
  obtain ⟨hdiv, hmod⟩ := valueCacheIndex_inj (hplace i hi) (hplace j hj) heq
  rw [← Nat.div_add_mod i params.kvLength, ← Nat.div_add_mod j params.kvLength,
    Nat.add_left_cancel hdiv, hmod]

theorem valueCacheIndex_lt {p element length : Nat} (hp : p < stride) (helement : element < length) :
    valueCacheIndex stride p element < stride * length :=
  calc p + stride * element < stride + stride * element := Nat.add_lt_add_right hp _
    _ = stride * (element + 1) := by rw [Nat.mul_succ, Nat.add_comm]
    _ ≤ stride * length := Nat.mul_le_mul_left _ helement

end Cells

/-! ## The conversion to 32 bits -/

theorem toInt_ofNat_eq_iff {n : Nat} : (Int32.ofNat n).toInt = n ↔ n < 2 ^ 31 := by
  constructor
  · intro h
    have hlt := Int32.toInt_lt (Int32.ofNat n)
    omega
  · exact Int32.toInt_ofNat_of_lt

theorem cells_fit_iff {params : Qwen2HParams} {tokenCount stride position : Nat}
    (hkv : 0 < params.kvLength) :
    (∀ cell ∈ valueCacheCells params tokenCount stride position,
        (Int32.ofNat cell).toInt = cell) ↔
      tokenCount = 0 ∨
        valueCacheIndex stride (position + tokenCount - 1) (params.kvLength - 1) < 2 ^ 31 := by
  simp only [toInt_ofNat_eq_iff, mem_valueCacheCells]
  constructor
  · intro h
    refine or_iff_not_imp_left.2 fun hcount => h _ ⟨_, ?_, ?_, _, Nat.sub_one_lt hkv.ne', rfl⟩ <;>
      omega
  · rintro hlast cell ⟨p, hp, hlt, element, helement, rfl⟩
    have hlast := hlast.resolve_left (by omega)
    calc p + stride * element
        ≤ position + tokenCount - 1 + stride * (params.kvLength - 1) :=
          Nat.add_le_add (by omega) (Nat.mul_le_mul_left _ (by omega))
      _ < 2 ^ 31 := hlast

/-! ## Sessions -/

/-- What a session of the model knows. -/
def Qwen2HParams.sessionParams (params : Qwen2HParams) (layerStart layerEnd : Nat)
    (decodeFlash : Bool) : Qwen2Params where
  contextLength := params.contextLength.toNat
  embeddingLength := params.embeddingLength.toNat
  layerCount := params.layerCount.toNat
  layerStart := layerStart
  layerEnd := layerEnd
  decodeFlash := decodeFlash

/-- **The cells of a graph** are exact, and 32 bits keep them exactly if they keep the last one. -/
theorem valueCacheCells_exact {κ : Type} {params : Qwen2HParams}
    (hparams : validateHparams params = .ok ()) {layerStart layerEnd : Nat} {decodeFlash : Bool}
    {library : NativeLibrary κ} {capacity : Nat} {k : κ} {session : Qwen2Session}
    (hcreate : (Qwen2Session.create (params.sessionParams layerStart layerEnd decodeFlash) library
      capacity k).1 = .ok session) (position tokenCount : Nat)
    (hroom : position + tokenCount ≤ session.capacity) :
    let cells := valueCacheCells params tokenCount session.cacheCapacity position
    buildValueCacheIndices params tokenCount session.cacheCapacity position =
        cells.map Int32.ofNat ∧
      cells.length = tokenCount * params.kvLength ∧ cells.Nodup ∧
      (∀ cell ∈ cells, cell < session.cacheCapacity * params.kvLength ∧ cell < 2 ^ 64) ∧
      (∀ cell, cell ∈ cells ↔ ∃ p, position ≤ p ∧ p < position + tokenCount ∧
        ∃ element < params.kvLength, cell = valueCacheIndex session.cacheCapacity p element) ∧
      ((∀ cell ∈ cells, (Int32.ofNat cell).toInt = cell) ↔ tokenCount = 0 ∨
        valueCacheIndex session.cacheCapacity (position + tokenCount - 1) (params.kvLength - 1) <
          2 ^ 31) := by
  have hdims := dimensions_of_validateHparams hparams
  have hcreated := Qwen2Session.create_created _ library capacity k session hcreate
  have hcache : position + tokenCount ≤ session.cacheCapacity := by
    rw [hcreated.cacheCapacity]
    exact (hroom.trans hcreated.capacity.le).trans (le_physicalCacheCapacity hcreated.bounded _)
  have hcontext : session.cacheCapacity ≤ params.contextLength.toNat := by
    rw [hcreated.cacheCapacity]
    exact physicalCacheCapacity_le hcreated.bounded _
  have hsize : session.cacheCapacity * params.kvLength < 2 ^ 64 :=
    calc session.cacheCapacity * params.kvLength
        ≤ params.contextLength.toNat * params.embeddingLength.toNat :=
          Nat.mul_le_mul hcontext hdims.kvLength_le
      _ ≤ (2 ^ 32 - 1) * (2 ^ 32 - 1) :=
          Nat.mul_le_mul (Nat.le_sub_one_of_lt params.contextLength.toNat_lt)
            (Nat.le_sub_one_of_lt params.embeddingLength.toNat_lt)
      _ < 2 ^ 64 := by decide
  refine ⟨buildValueCacheIndices_eq .., by simp [valueCacheCells], nodup_valueCacheCells hcache, ?_,
    fun _ => mem_valueCacheCells, cells_fit_iff hdims.kvLength_pos⟩
  intro cell hcell
  obtain ⟨p, -, hp, element, helement, rfl⟩ := mem_valueCacheCells.1 hcell
  have hlt := valueCacheIndex_lt (hp.trans_le hcache) helement
  exact ⟨hlt, hlt.trans hsize⟩

/-- A model with one head of two elements. -/
def twoElements (contextLength : UInt32) : Qwen2HParams where
  layerCount := 1
  embeddingLength := 2
  contextLength := contextLength
  feedForwardLength := 1
  headCount := 1
  kvHeadCount := 1
  ropeDimensionCount := 2
  ropeFrequencyBase := .finite 10000
  rmsEpsilon := .finite (1 / 1000000)

/-- The session of such a model with its whole context. -/
def twoElementsSession (contextLength : UInt32) : Except Thrown Qwen2Session :=
  (Qwen2Session.create ((twoElements contextLength).sessionParams 0 1 false)
    (smallLibrary fun _ => .ok []) contextLength.toNat 0).1

/-- Two tokens in a cache of eight positions. -/
theorem valueCacheCells_exact_small :
    valueCacheCells (twoElements 8) 2 8 3 = [3, 11, 4, 12] ∧
      (valueCacheCells (twoElements 8) 2 8 3).Nodup := by
  refine ⟨by decide +kernel, ?_⟩
  obtain ⟨session, hsession⟩ : ∃ session, twoElementsSession 8 = .ok session :=
    Checks.exists_of_toBool (by decide +kernel)
  have hplace : (twoElementsSession 8).map (fun s => (s.capacity, s.cacheCapacity)) = .ok (8, 8) := by
    decide +kernel
  rw [hsession] at hplace
  have hcapacity : session.capacity = 8 := congrArg Prod.fst (Except.ok.inj hplace)
  have hcache : session.cacheCapacity = 8 := congrArg Prod.snd (Except.ok.inj hplace)
  have hvalid : validateHparams (twoElements 8) = .ok () := by decide +kernel
  have hexact := valueCacheCells_exact hvalid hsession 3 2 (by rw [hcapacity]; decide)
  rw [hcache] at hexact
  exact hexact.2.2.1

/-- **A cell past 32 bits** is negative. -/
theorem valueCacheCells_narrowed :
    validateHparams (twoElements 0x80000000) = .ok () ∧
      (twoElementsSession 0x80000000).map (fun s => (s.capacity, s.cacheCapacity)) =
        .ok (2 ^ 31, 2 ^ 31) ∧
      valueCacheCells (twoElements 0x80000000) 1 (2 ^ 31) 0 = [0, 2 ^ 31] ∧
      buildValueCacheIndices (twoElements 0x80000000) 1 (2 ^ 31) 0 = [0, -2 ^ 31] := by
  decide +kernel

end JetsonFabric
