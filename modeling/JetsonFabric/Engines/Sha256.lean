import JetsonFabric.Bytes
import JetsonFabric.Lib.Fips180

/-!
# The hash of the package files

`runtime/engines/native/src/sha256.c`. Loops have fuel and the copy into the buffer is checked, so
that `none` is a loop that goes on or a write outside the buffer.
-/

namespace JetsonFabric

open Blocks Framing Fips180

/-! ## The code -/

/-- `round_constants`. -/
def sha256RoundConstants : List UInt32 := [
  0x428a2f98, 0x71374491, 0xb5c0fbcf, 0xe9b5dba5, 0x3956c25b, 0x59f111f1, 0x923f82a4, 0xab1c5ed5,
  0xd807aa98, 0x12835b01, 0x243185be, 0x550c7dc3, 0x72be5d74, 0x80deb1fe, 0x9bdc06a7, 0xc19bf174,
  0xe49b69c1, 0xefbe4786, 0x0fc19dc6, 0x240ca1cc, 0x2de92c6f, 0x4a7484aa, 0x5cb0a9dc, 0x76f988da,
  0x983e5152, 0xa831c66d, 0xb00327c8, 0xbf597fc7, 0xc6e00bf3, 0xd5a79147, 0x06ca6351, 0x14292967,
  0x27b70a85, 0x2e1b2138, 0x4d2c6dfc, 0x53380d13, 0x650a7354, 0x766a0abb, 0x81c2c92e, 0x92722c85,
  0xa2bfe8a1, 0xa81a664b, 0xc24b8b70, 0xc76c51a3, 0xd192e819, 0xd6990624, 0xf40e3585, 0x106aa070,
  0x19a4c116, 0x1e376c08, 0x2748774c, 0x34b0bcb5, 0x391c0cb3, 0x4ed8aa4a, 0x5b9cca4f, 0x682e6ff3,
  0x748f82ee, 0x78a5636f, 0x84c87814, 0x8cc70208, 0x90befffa, 0xa4506ceb, 0xbef9a3f7, 0xc67178f2]

/-- `jf_sha256_context`. -/
structure Sha256Context where
  state : Vector UInt32 8
  bitCount : UInt64
  buffer : Vector UInt8 64
  bufferSize : Nat

/-- Rotate to the right. -/
def rotateRight (value count : UInt32) : UInt32 := (value >>> count) ||| (value <<< (32 - count))

/-- `read_u32_be`, at a place of a block. -/
def readU32Be (block : Vector UInt8 64) (place : Nat) : UInt32 :=
  (block.toList.getD place 0).toUInt32 <<< 24 |||
    (block.toList.getD (place + 1) 0).toUInt32 <<< 16 |||
    (block.toList.getD (place + 2) 0).toUInt32 <<< 8 |||
    (block.toList.getD (place + 3) 0).toUInt32

/-- A word in network order. -/
def writeU32Be (value : UInt32) : Bytes :=
  [(value >>> 24).toUInt8, (value >>> 16).toUInt8, (value >>> 8).toUInt8, value.toUInt8]

/-- One turn of the loop that goes on from the words of the block. -/
def extendWords (words : List UInt32) (index : Nat) : List UInt32 :=
  let word15 := words.getD (index - 15) 0
  let word2 := words.getD (index - 2) 0
  let s0 := rotateRight word15 7 ^^^ rotateRight word15 18 ^^^ (word15 >>> 3)
  let s1 := rotateRight word2 17 ^^^ rotateRight word2 19 ^^^ (word2 >>> 10)
  words ++ [words.getD (index - 16) 0 + s0 + words.getD (index - 7) 0 + s1]

/-- The array `words` of `transform`. -/
def transformWords (block : Vector UInt8 64) : List UInt32 :=
  (List.range' 16 48).foldl extendWords
    ((List.range 16).map fun index => readU32Be block (index * 4))

/-- One turn of the loop over the rounds. -/
def transformRound (words : List UInt32) (r : Registers UInt32) (index : Nat) : Registers UInt32 :=
  let sum1 := rotateRight r.e 6 ^^^ rotateRight r.e 11 ^^^ rotateRight r.e 25
  let choose := (r.e &&& r.f) ^^^ (~~~r.e &&& r.g)
  let temporary1 := r.h + sum1 + choose + sha256RoundConstants.getD index 0 + words.getD index 0
  let sum0 := rotateRight r.a 2 ^^^ rotateRight r.a 13 ^^^ rotateRight r.a 22
  let majority := (r.a &&& r.b) ^^^ (r.a &&& r.c) ^^^ (r.b &&& r.c)
  let temporary2 := sum0 + majority
  { h := r.g, g := r.f, f := r.e, e := r.d + temporary1, d := r.c, c := r.b, b := r.a,
    a := temporary1 + temporary2 }

/-- The variables `a` to `h` of `transform` at first. -/
def stateRegisters (state : Vector UInt32 8) : Registers UInt32 :=
  ⟨state[0], state[1], state[2], state[3], state[4], state[5], state[6], state[7]⟩

/-- `transform`, on the state of the context. -/
def transform (state : Vector UInt32 8) (block : Vector UInt8 64) : Vector UInt32 8 :=
  let r := (List.range 64).foldl (transformRound (transformWords block)) (stateRegisters state)
  #v[state[0] + r.a, state[1] + r.b, state[2] + r.c, state[3] + r.d, state[4] + r.e,
    state[5] + r.f, state[6] + r.g, state[7] + r.h]

/-- `jf_sha256_init`. -/
def jfSha256Init : Sha256Context where
  state := #v[0x6a09e667, 0xbb67ae85, 0x3c6ef372, 0xa54ff53a, 0x510e527f, 0x9b05688c, 0x1f83d9ab,
    0x5be0cd19]
  bitCount := 0
  buffer := Vector.replicate 64 0
  bufferSize := 0

/-- `memcpy` into the buffer, from `start` on. -/
def copyIntoBuffer (buffer : Vector UInt8 64) (start : Nat) (bytes : Bytes) :
    Option (Vector UInt8 64) :=
  if h : start + bytes.length ≤ 64 then
    let after := buffer.toList.drop (start + bytes.length)
    some ⟨(buffer.toList.take start ++ (bytes ++ after)).toArray, by simp [after]; omega⟩
  else none

/-- The loop of `jf_sha256_update`. -/
def updateLoop : Nat → Sha256Context → Bytes → Option Sha256Context
  | 0, _, _ => none
  | fuel + 1, context, bytes =>
    if bytes.length > 0 then do
      let available := 64 - context.bufferSize
      let count := if bytes.length < available then bytes.length else available
      let buffer ← copyIntoBuffer context.buffer context.bufferSize (bytes.take count)
      let bufferSize := context.bufferSize + count
      if bufferSize = 64 then
        let state := transform context.state buffer
        updateLoop fuel { context with state, buffer, bufferSize := 0 } (bytes.drop count)
      else updateLoop fuel { context with buffer, bufferSize } (bytes.drop count)
    else some context

/-- `jf_sha256_update`. -/
def jfSha256Update (context : Sha256Context) (data : Bytes) : Option Sha256Context :=
  updateLoop (data.length + 1)
    { context with bitCount := context.bitCount + UInt64.ofNat data.length * 8 } data

/-- The padding loop of `jf_sha256_final`. -/
def padLoop : Nat → Sha256Context → Option Sha256Context
  | 0, _ => none
  | fuel + 1, context =>
    if context.bufferSize ≠ 56 then do padLoop fuel (← jfSha256Update context [0])
    else some context

/-- The array `length` of `jf_sha256_final`. -/
def lengthBytes (bitCount : UInt64) : Bytes :=
  (List.range 8).reverse.map fun index => (bitCount >>> (index * 8).toUInt64).toUInt8

/-- The context after `memset`. -/
def clearedContext : Sha256Context where
  state := Vector.replicate 8 0
  bitCount := 0
  buffer := Vector.replicate 64 0
  bufferSize := 0

/-- `jf_sha256_final`: the digest, and the cleared context. -/
def jfSha256Final (context : Sha256Context) : Option (Bytes × Sha256Context) := do
  let originalBitCount := context.bitCount
  let marked ← jfSha256Update context [0x80]
  let padded ← padLoop 64 marked
  let closed ← jfSha256Update padded (lengthBytes originalBitCount)
  return (closed.state.toList.flatMap writeU32Be, clearedContext)

/-- `jf_sha256_buffer`. -/
def jfSha256Buffer (data : Bytes) : Option Bytes := do
  let context ← jfSha256Update jfSha256Init data
  return (← jfSha256Final context).1

/-! ## Words and bytes -/

theorem toBitVec_shiftRight (value count : UInt32) (h : count.toNat < 32) :
    (value >>> count).toBitVec = value.toBitVec >>> count.toNat := by
  have hcount : (count.toBitVec % 32).toNat = count.toNat := by
    simpa using Nat.mod_eq_of_lt h
  rw [UInt32.toBitVec_shiftRight, BitVec.ushiftRight_eq', hcount]

theorem toBitVec_rotateRight (value count : UInt32) (h : 0 < count.toNat) (hlt : count.toNat < 32) :
    (rotateRight value count).toBitVec = value.toBitVec.rotateRight count.toNat := by
  have hback : ((32 - count).toBitVec % 32).toNat = 32 - count.toNat % 32 := by
    simp
    omega
  rw [BitVec.rotateRight_def, rotateRight, UInt32.toBitVec_or, toBitVec_shiftRight _ _ hlt,
    UInt32.toBitVec_shiftLeft, BitVec.shiftLeft_eq', hback, Nat.mod_eq_of_lt hlt]

/-- Four shifted bytes are a number in network order. -/
theorem toNat_shifted (a b c d : UInt8) :
    (a.toUInt32 <<< 24 ||| b.toUInt32 <<< 16 ||| c.toUInt32 <<< 8 ||| d.toUInt32).toNat =
      ofBigEndian [a, b, c, d] := by
  have ha := a.toNat_lt
  have hb := b.toNat_lt
  have hc := c.toNat_lt
  have hd := d.toNat_lt
  have hcd : c.toNat <<< 8 ||| d.toNat = c.toNat * 2 ^ 8 + d.toNat := by
    rw [← Nat.shiftLeft_add_eq_or_of_lt (by omega), Nat.shiftLeft_eq]
  have hbcd : b.toNat <<< 16 ||| (c.toNat * 2 ^ 8 + d.toNat) =
      b.toNat * 2 ^ 16 + (c.toNat * 2 ^ 8 + d.toNat) := by
    rw [← Nat.shiftLeft_add_eq_or_of_lt (by omega), Nat.shiftLeft_eq]
  have habcd : a.toNat <<< 24 ||| (b.toNat * 2 ^ 16 + (c.toNat * 2 ^ 8 + d.toNat)) =
      a.toNat * 2 ^ 24 + (b.toNat * 2 ^ 16 + (c.toNat * 2 ^ 8 + d.toNat)) := by
    rw [← Nat.shiftLeft_add_eq_or_of_lt (by omega), Nat.shiftLeft_eq]
  have hfit : ∀ (byte : UInt8) (k : ℕ), k ≤ 24 → byte.toNat <<< k < 4294967296 := by
    intro byte k hk
    have hpow : 2 ^ k ≤ 2 ^ 24 := Nat.pow_le_pow_right (by omega) hk
    have := byte.toNat_lt
    rw [Nat.shiftLeft_eq]
    nlinarith
  simp only [UInt32.toNat_or, UInt32.toNat_shiftLeft, UInt8.toNat_toUInt32, UInt32.reduceToNat,
    Nat.reduceMod, Nat.reducePow, Nat.mod_eq_of_lt (hfit a 24 (by omega)),
    Nat.mod_eq_of_lt (hfit b 16 (by omega)), Nat.mod_eq_of_lt (hfit c 8 (by omega))]
  rw [Nat.lor_assoc, Nat.lor_assoc, hcd, hbcd, habcd]
  simp only [ofBigEndian, List.foldl_cons, List.foldl_nil]
  omega

theorem take_drop_eq_map {α : Type*} (l : List α) (default : α) {start count : ℕ}
    (h : start + count ≤ l.length) :
    (l.drop start).take count = (List.range count).map fun i => l.getD (start + i) default := by
  apply List.ext_getElem
  · simp
    omega
  · intro i hi _
    have hin : start + i < l.length := by simp at hi; omega
    simp [List.getD_eq_getElem?_getD, List.getElem?_eq_getElem hin]

theorem readU32Be_eq (block : Vector UInt8 64) {t : ℕ} (h : t < 16) :
    (readU32Be block (t * 4)).toBitVec = word block.toList t := by
  have hbytes : ofBigEndian ((block.toList.drop (4 * t)).take 4) =
      (readU32Be block (t * 4)).toNat := by
    rw [take_drop_eq_map _ 0 (by simp; omega), readU32Be, toNat_shifted, Nat.mul_comm]
    rfl
  rw [word, hbytes, ← UInt32.toNat_toBitVec, BitVec.ofNat_toNat, BitVec.setWidth_eq]

theorem toUInt8_shiftRight (value count : UInt32) (h : count.toNat < 32) :
    (value >>> count).toUInt8 = (value.toNat / 2 ^ count.toNat).toUInt8 := by
  apply UInt8.toNat_inj.1
  simp [Nat.shiftRight_eq_div_pow, Nat.mod_eq_of_lt h]

theorem writeU32Be_eq (value : UInt32) : writeU32Be value = bigEndian 4 value.toBitVec.toNat := by
  rw [writeU32Be, toUInt8_shiftRight _ _ (by decide), toUInt8_shiftRight _ _ (by decide),
    toUInt8_shiftRight _ _ (by decide)]
  simp [bigEndian]

theorem lengthBytes_eq (bitCount : UInt64) : lengthBytes bitCount = bigEndian 8 bitCount.toNat := by
  simp only [lengthBytes, bigEndian, List.range, List.range.loop, List.reverse_cons,
    List.reverse_nil, List.nil_append, List.cons_append, List.map_cons, List.map_nil]
  congr 8
  all_goals
    apply UInt8.toNat_inj.1
    simp [Nat.shiftRight_eq_div_pow]

/-! ## One block -/

/-- The words of the standard that the registers hold. -/
def registerWords (r : Registers UInt32) : Registers Word :=
  ⟨r.a.toBitVec, r.b.toBitVec, r.c.toBitVec, r.d.toBitVec, r.e.toBitVec, r.f.toBitVec,
    r.g.toBitVec, r.h.toBitVec⟩

/-- The hash value that the state of a context holds. -/
def hashValue (state : Vector UInt32 8) : Registers Word := registerWords (stateRegisters state)

/-- The first `n` words of the schedule. -/
def scheduleWords (block : Vector UInt8 64) (n : ℕ) : List UInt32 :=
  (List.range n).map fun t => UInt32.ofBitVec (schedule block.toList t)

theorem scheduleWords_getD (block : Vector UInt8 64) {t n : ℕ} (h : t < n) :
    ((scheduleWords block n).getD t 0).toBitVec = schedule block.toList t := by
  simp [scheduleWords, List.getD_eq_getElem?_getD, List.getElem?_range h]

theorem extendWords_scheduleWords (block : Vector UInt8 64) {t : ℕ} (h : 16 ≤ t) :
    extendWords (scheduleWords block t) t = scheduleWords block (t + 1) := by
  have h2 := scheduleWords_getD block (show t - 2 < t by omega)
  have h7 := scheduleWords_getD block (show t - 7 < t by omega)
  have h15 := scheduleWords_getD block (show t - 15 < t by omega)
  have h16 := scheduleWords_getD block (show t - 16 < t by omega)
  have hnext : scheduleWords block (t + 1) =
      scheduleWords block t ++ [UInt32.ofBitVec (schedule block.toList t)] := by
    rw [scheduleWords, List.range_succ, List.map_append]
    rfl
  rw [extendWords, hnext]
  congr 2
  apply UInt32.toBitVec_inj.1
  rw [schedule_of_le _ h]
  simp (disch := decide) only [UInt32.toBitVec_add, UInt32.toBitVec_xor, toBitVec_rotateRight,
    toBitVec_shiftRight, UInt32.reduceToNat, smallSigma0, smallSigma1, h2, h7, h15, h16]
  ring

theorem transformWords_eq (block : Vector UInt8 64) :
    transformWords block = scheduleWords block 64 := by
  have hfirst : ((List.range 16).map fun index => readU32Be block (index * 4)) =
      scheduleWords block 16 := by
    refine List.map_congr_left fun t ht => ?_
    have ht := List.mem_range.1 ht
    rw [schedule_of_lt _ ht, ← readU32Be_eq block ht]
  have hrest : ∀ n, (List.range' 16 n).foldl extendWords (scheduleWords block 16) =
      scheduleWords block (16 + n) := by
    intro n
    induction n with
    | zero => rfl
    | succ n ih =>
      rw [List.range'_concat, List.foldl_append, ih, Nat.one_mul]
      exact extendWords_scheduleWords block (by omega)
  rw [transformWords, hfirst, hrest]

theorem sha256RoundConstants_eq :
    sha256RoundConstants.map UInt32.toBitVec = roundConstants := by
  decide +kernel

theorem transformRound_eq (block : Vector UInt8 64) (r : Registers UInt32) {t : ℕ} (h : t < 64) :
    registerWords (transformRound (transformWords block) r t) =
      roundStep block.toList (registerWords r) t := by
  have hword := scheduleWords_getD block h
  have hconstant : roundConstants.getD t 0 = (sha256RoundConstants.getD t 0).toBitVec := by
    rw [← sha256RoundConstants_eq]
    exact List.getD_map _ _ _
  rw [transformWords_eq, roundStep, hconstant, ← hword]
  simp (disch := decide) only [registerWords, transformRound, ch, maj, bigSigma0, bigSigma1,
    UInt32.toBitVec_add, UInt32.toBitVec_xor, UInt32.toBitVec_and, UInt32.toBitVec_not,
    toBitVec_rotateRight, UInt32.reduceToNat]

theorem hashValue_add (state : Vector UInt32 8) (r : Registers UInt32) :
    hashValue #v[state[0] + r.a, state[1] + r.b, state[2] + r.c, state[3] + r.d, state[4] + r.e,
        state[5] + r.f, state[6] + r.g, state[7] + r.h] =
      ⟨(registerWords r).a + (hashValue state).a, (registerWords r).b + (hashValue state).b,
        (registerWords r).c + (hashValue state).c, (registerWords r).d + (hashValue state).d,
        (registerWords r).e + (hashValue state).e, (registerWords r).f + (hashValue state).f,
        (registerWords r).g + (hashValue state).g, (registerWords r).h + (hashValue state).h⟩ := by
  simp [hashValue, stateRegisters, registerWords, BitVec.add_comm]

/-- **One block.** `transform` is the computation of the standard over a block. -/
theorem transform_eq (state : Vector UInt32 8) (block : Vector UInt8 64) :
    hashValue (transform state block) = compress (hashValue state) block.toList := by
  have hrounds : ∀ (turns : List ℕ) (r : Registers UInt32), (∀ t ∈ turns, t < 64) →
      registerWords (turns.foldl (transformRound (transformWords block)) r) =
        turns.foldl (roundStep block.toList) (registerWords r) := by
    intro turns
    induction turns with
    | nil => exact fun r _ => rfl
    | cons t turns ih =>
      intro r hturns
      rw [List.foldl_cons, List.foldl_cons, ih _ fun t ht => hturns t (List.mem_cons_of_mem _ ht),
        transformRound_eq block r (hturns t List.mem_cons_self)]
  rw [transform, hashValue_add, compress, hrounds _ _ fun t ht => List.mem_range.1 ht]
  rfl

/-! ## The stream -/

variable {message : Bytes} {context : Sha256Context}

/-- A context has taken the complete blocks and keeps the open one. -/
structure Buffered (message : Bytes) (context : Sha256Context) : Prop where
  blocks : absorb 64 compress (initialHash, []) message =
    (hashValue context.state, context.buffer.toList.take context.bufferSize)
  size_lt : context.bufferSize < 64

theorem hashValue_init : hashValue jfSha256Init.state = initialHash := by
  decide +kernel

theorem buffered_init : Buffered [] jfSha256Init where
  blocks := by rw [absorb_nil, hashValue_init]; rfl
  size_lt := by decide

theorem Buffered.size_eq
    (h : Buffered message context) : context.bufferSize = message.length % 64 := by
  have hlength := length_absorb compress initialHash [] message (show 0 < 64 by omega)
  have hsize := h.size_lt
  rw [h.blocks] at hlength
  simpa [Nat.min_eq_left hsize.le] using hlength

theorem copyIntoBuffer_eq (buffer : Vector UInt8 64) {start : ℕ} {bytes : Bytes}
    (h : start + bytes.length ≤ 64) :
    ∃ buffer', copyIntoBuffer buffer start bytes = some buffer' ∧
      buffer'.toList.take (start + bytes.length) = buffer.toList.take start ++ bytes := by
  refine ⟨_, dif_pos h, ?_⟩
  rw [Vector.toList_mk, ← List.append_assoc]
  exact List.take_left' (by simp; omega)

theorem Buffered.turn (h : Buffered message context) (piece : Bytes) (hne : piece ≠ [])
    (hfit : context.bufferSize + piece.length ≤ 64) :
    ∃ buffer, copyIntoBuffer context.buffer context.bufferSize piece = some buffer ∧
      if context.bufferSize + piece.length = 64 then
        Buffered (message ++ piece)
          { context with state := transform context.state buffer, buffer, bufferSize := 0 }
      else Buffered (message ++ piece)
        { context with buffer, bufferSize := context.bufferSize + piece.length } := by
  obtain ⟨buffer, hcopy, htake⟩ := copyIntoBuffer_eq context.buffer hfit
  have hkept : (context.buffer.toList.take context.bufferSize).length = context.bufferSize := by
    simp [h.size_lt.le]
  refine ⟨buffer, hcopy, ?_⟩
  split_ifs with hfull
  · refine ⟨?_, Nat.zero_lt_succ _⟩
    have hall : context.buffer.toList.take context.bufferSize ++ piece = buffer.toList := by
      rw [← htake, hfull, List.take_of_length_le (by simp)]
    rw [absorb_append, h.blocks, absorb_fill compress _ _ _ (by rw [hkept, hfull]) hne, hall,
      transform_eq]
    rfl
  · refine ⟨?_, by dsimp only; omega⟩
    rw [absorb_append, h.blocks, absorb_short compress _ _ _ (by omega), htake]

/-- The loop takes all of its input. -/
theorem Buffered.loop (fuel : ℕ) (context : Sha256Context) (bytes : Bytes)
    (h : Buffered message context) (hfuel : bytes.length < fuel) :
    ∃ context', updateLoop fuel context bytes = some context' ∧
      Buffered (message ++ bytes) context' ∧ context'.bitCount = context.bitCount := by
  induction fuel generalizing message context bytes with
  | zero => exact absurd hfuel (Nat.not_lt_zero _)
  | succ fuel ih =>
    rw [updateLoop]
    by_cases hbytes : bytes.length > 0
    · rw [if_pos hbytes]
      dsimp only
      generalize hcount : (if bytes.length < 64 - context.bufferSize then bytes.length
        else 64 - context.bufferSize) = count
      -- The piece is not empty: the buffer has room at the head of the loop.
      have hsize := h.size_lt
      have hpositive : 0 < count ∧ count ≤ bytes.length ∧ context.bufferSize + count ≤ 64 := by
        split_ifs at hcount <;> omega
      obtain ⟨hpos, hle, hfit⟩ := hpositive
      have hpiece : (bytes.take count).length = count := by simp [hle]
      have hrest : (bytes.drop count).length < fuel := by rw [List.length_drop]; omega
      have hwhole : message ++ bytes = message ++ bytes.take count ++ bytes.drop count := by
        rw [List.append_assoc, List.take_append_drop]
      obtain ⟨buffer, hcopy, hturn⟩ := h.turn (bytes.take count)
        (List.ne_nil_of_length_pos (by omega)) (by omega)
      rw [hpiece] at hturn
      rw [hcopy, hwhole, Option.bind_eq_bind, Option.bind_some]
      split_ifs at hturn ⊢ with hfull
      · exact ih _ _ hturn hrest
      · exact ih _ _ hturn hrest
    · obtain rfl : bytes = [] := List.eq_nil_of_length_eq_zero (by omega)
      exact ⟨context, rfl, by rwa [List.append_nil], rfl⟩

/-- A context has taken a message. -/
structure Absorbed (message : Bytes) (context : Sha256Context) : Prop extends
    Buffered message context where
  count : context.bitCount = UInt64.ofNat (8 * message.length)

theorem absorbed_init : Absorbed [] jfSha256Init := ⟨buffered_init, rfl⟩

theorem Absorbed.update (h : Absorbed message context)
    (data : Bytes) : ∃ context', jfSha256Update context data = some context' ∧
      Absorbed (message ++ data) context' := by
  obtain ⟨context', hloop, hbuffered, hcount⟩ := Buffered.loop (data.length + 1)
    { context with bitCount := context.bitCount + UInt64.ofNat data.length * 8 } data
    ⟨h.blocks, h.size_lt⟩ (Nat.lt_succ_self _)
  refine ⟨context', hloop, hbuffered, ?_⟩
  rw [hcount, h.count, List.length_append, Nat.mul_add, UInt64.ofNat_add,
    Nat.mul_comm 8 data.length, UInt64.ofNat_mul data.length]
  rfl

theorem Absorbed.padded (fuel zeros : ℕ)
    (h : Absorbed message context) (hzeros : (message.length + zeros) % 64 = 56)
    (hleast : zeros < 64) (hfuel : zeros < fuel) :
    ∃ context', padLoop fuel context = some context' ∧
      Absorbed (message ++ List.replicate zeros 0) context' := by
  have hsize := h.size_eq
  induction fuel generalizing message context zeros with
  | zero => exact absurd hfuel (Nat.not_lt_zero _)
  | succ fuel ih =>
    rw [padLoop]
    by_cases hstop : context.bufferSize = 56
    · obtain rfl : zeros = 0 := by omega
      rw [if_neg (not_not.2 hstop), List.replicate_zero, List.append_nil]
      exact ⟨context, rfl, h⟩
    · obtain ⟨left, rfl⟩ : ∃ left, zeros = left + 1 := ⟨zeros - 1, by omega⟩
      obtain ⟨next, hupdate, hnext⟩ := h.update [0]
      have hlength : (message ++ [0]).length = message.length + 1 := by simp
      rw [if_pos hstop, hupdate, Option.bind_eq_bind, Option.bind_some, List.replicate_succ,
        List.append_cons]
      exact ih left hnext (by rw [hlength]; omega) (by omega) (by omega) hnext.size_eq

theorem digest_hashValue (state : Vector UInt32 8) :
    digest (hashValue state) = state.toList.flatMap writeU32Be := by
  have hwords : state.toList = (stateRegisters state).words := by
    obtain ⟨⟨words⟩, hsize⟩ := state
    match words, hsize with
    | [_, _, _, _, _, _, _, _], _ => rfl
  rw [hwords]
  simp only [digest, hashValue, registerWords, Registers.words, List.flatMap_cons, writeU32Be_eq]
  rfl

theorem Absorbed.final (h : Absorbed message context) :
    jfSha256Final context = some (sha256 message, clearedContext) := by
  obtain ⟨marked, hmarked, hmark⟩ := h.update [0x80]
  have hlength : (message ++ [0x80]).length = message.length + 1 := by simp
  obtain ⟨padded, hpadded, hpad⟩ := hmark.padded 64 (zeros message.length)
    (by rw [hlength]; exact length_zeros _) (Nat.mod_lt _ (by omega)) (Nat.mod_lt _ (by omega))
  obtain ⟨closed, hclosed, hclose⟩ := hpad.update (lengthBytes context.bitCount)
  have hbytes : lengthBytes context.bitCount = bigEndian 8 (8 * message.length) := by
    rw [lengthBytes_eq, h.count, UInt64.toNat_ofNat']
    exact bigEndian_mod le_rfl _
  have hmessage : message ++ [0x80] ++ List.replicate (zeros message.length) 0 ++
      lengthBytes context.bitCount = pad message := by
    rw [hbytes]
    simp [pad]
  rw [hmessage] at hclose
  have hdigest : closed.state.toList.flatMap writeU32Be = sha256 message := by
    rw [sha256_eq_absorb, hclose.blocks, digest_hashValue]
  rw [jfSha256Final, hmarked, Option.bind_eq_bind, Option.bind_some, hpadded, Option.bind_some,
    hclosed, Option.bind_some, hdigest]
  rfl

theorem Absorbed.updates (h : Absorbed message context)
    (chunks : List Bytes) : ∃ context', chunks.foldlM jfSha256Update context = some context' ∧
      Absorbed (message ++ chunks.flatten) context' := by
  induction chunks generalizing message context with
  | nil => exact ⟨context, rfl, by rwa [List.flatten_nil, List.append_nil]⟩
  | cons chunk chunks ih =>
    obtain ⟨next, hnext, hchunk⟩ := h.update chunk
    rw [List.foldlM_cons, hnext, Option.bind_eq_bind, Option.bind_some, List.flatten_cons,
      ← List.append_assoc]
    exact ih hchunk

/-- **Hashing in pieces** returns, keeps to the buffer, and gives the hash of the message. -/
theorem sha256_chunks (chunks : List Bytes) :
    ∃ context, chunks.foldlM jfSha256Update jfSha256Init = some context ∧ context.bufferSize < 64 ∧
      jfSha256Final context = some (sha256 chunks.flatten, clearedContext) := by
  obtain ⟨context, hupdates, htaken⟩ := absorbed_init.updates chunks
  exact ⟨context, hupdates, htaken.size_lt, htaken.final⟩

theorem jfSha256Buffer_eq (data : Bytes) : jfSha256Buffer data = some (sha256 data) := by
  obtain ⟨context, hupdate, htaken⟩ := absorbed_init.update data
  rw [jfSha256Buffer, hupdate, Option.bind_eq_bind, Option.bind_some, htaken.final]
  rfl

-- The digest that the standard gives for `abc`.
example : jfSha256Buffer [97, 98, 99] = some [
    0xba, 0x78, 0x16, 0xbf, 0x8f, 0x01, 0xcf, 0xea, 0x41, 0x41, 0x40, 0xde, 0x5d, 0xae, 0x22, 0x23,
    0xb0, 0x03, 0x61, 0xa3, 0x96, 0x17, 0x7a, 0x9c, 0xb4, 0x10, 0xff, 0x61, 0xf2, 0x00, 0x15,
    0xad] := by
  decide +kernel

end JetsonFabric
