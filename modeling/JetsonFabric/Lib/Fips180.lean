import JetsonFabric.Lib.Blocks
import JetsonFabric.Lib.Framing

/-!
# SHA-256 as FIPS 180-4 defines it

The hash of a byte string, in the standard's own terms: functions on 32-bit words (section 4.1.2),
constants (4.2.2 and 5.3.3), padding (5.1.1), and the computation over the blocks of the padded
message (6.2.2). The message is a string of bytes, so that the `1` bit and the first zeros after it
are the byte `0x80`.
-/

namespace Fips180

/-- A word of 32 bits. -/
abbrev Word := BitVec 32

/-! ## Functions and constants -/

/-- Of one register where `x` has ones, else of the other. -/
def ch (x y z : Word) : Word := (x &&& y) ^^^ (~~~x &&& z)

/-- The bits that most of the three words have. -/
def maj (x y z : Word) : Word := (x &&& y) ^^^ (x &&& z) ^^^ (y &&& z)

/-- `Σ₀`. -/
def bigSigma0 (x : Word) : Word := x.rotateRight 2 ^^^ x.rotateRight 13 ^^^ x.rotateRight 22

/-- `Σ₁`. -/
def bigSigma1 (x : Word) : Word := x.rotateRight 6 ^^^ x.rotateRight 11 ^^^ x.rotateRight 25

/-- `σ₀`. -/
def smallSigma0 (x : Word) : Word := x.rotateRight 7 ^^^ x.rotateRight 18 ^^^ x >>> 3

/-- `σ₁`. -/
def smallSigma1 (x : Word) : Word := x.rotateRight 17 ^^^ x.rotateRight 19 ^^^ x >>> 10

/-- The first 32 bits of the fractional part of the root of order `k`. -/
def rootBits (k n : ℕ) : Word := BitVec.ofNat 32 (Nat.nthRoot k (n * 2 ^ (32 * k)))

/-- The first sixty-four primes. -/
def primes : List ℕ := (List.range 312).filter fun n => n.Prime

/-- The constants `K`, from the cube roots of the first sixty-four primes. -/
def roundConstants : List Word := primes.map (rootBits 3)

/-- The eight words of a hash value, and the working variables. -/
structure Registers (α : Type*) where
  a : α
  b : α
  c : α
  d : α
  e : α
  f : α
  g : α
  h : α
  deriving DecidableEq

/-- The words of a hash value in their order. -/
def Registers.words {α : Type*} (r : Registers α) : List α :=
  [r.a, r.b, r.c, r.d, r.e, r.f, r.g, r.h]

/-- From the square roots of the first eight primes. -/
def initialHash : Registers Word :=
  ⟨rootBits 2 2, rootBits 2 3, rootBits 2 5, rootBits 2 7, rootBits 2 11, rootBits 2 13,
    rootBits 2 17, rootBits 2 19⟩

/-! ## Padding -/

/-- The fewest that leave eight bytes to a whole block. -/
def zeros (length : ℕ) : ℕ := (119 - length % 64) % 64

/-- The message with its padding. -/
def pad (message : List UInt8) : List UInt8 :=
  message ++ (0x80 :: (List.replicate (zeros message.length) 0 ++
    Framing.bigEndian 8 (8 * message.length)))

theorem length_zeros (length : ℕ) : (length + 1 + zeros length) % 64 = 56 := by
  unfold zeros
  omega

theorem length_pad (message : List UInt8) :
    (pad message).length = 64 * ((pad message).length / 64) := by
  have h : (pad message).length = message.length + 1 + zeros message.length + 8 := by
    simp only [pad, List.length_append, List.length_cons, List.length_replicate,
      Framing.length_bigEndian]
    omega
  have := length_zeros message.length
  omega

/-! ## The hash -/

/-- Word `t` of a block. -/
def word (block : List UInt8) (t : ℕ) : Word :=
  BitVec.ofNat 32 (Framing.ofBigEndian ((block.drop (4 * t)).take 4))

/-- The message schedule `W`. -/
def schedule (block : List UInt8) (t : ℕ) : Word :=
  if t < 16 then word block t
  else smallSigma1 (schedule block (t - 2)) + schedule block (t - 7) +
    smallSigma0 (schedule block (t - 15)) + schedule block (t - 16)

/-- Step `t` of the main loop. -/
def roundStep (block : List UInt8) (r : Registers Word) (t : ℕ) : Registers Word :=
  let t₁ := r.h + bigSigma1 r.e + ch r.e r.f r.g + roundConstants.getD t 0 + schedule block t
  let t₂ := bigSigma0 r.a + maj r.a r.b r.c
  ⟨t₁ + t₂, r.a, r.b, r.c, r.d + t₁, r.e, r.f, r.g⟩

/-- The hash value after one more block. -/
def compress (value : Registers Word) (block : List UInt8) : Registers Word :=
  let r := (List.range 64).foldl (roundStep block) value
  ⟨r.a + value.a, r.b + value.b, r.c + value.c, r.d + value.d, r.e + value.e, r.f + value.f,
    r.g + value.g, r.h + value.h⟩

/-- The bytes of a hash value. -/
def digest (value : Registers Word) : List UInt8 :=
  value.words.flatMap fun word => Framing.bigEndian 4 word.toNat

/-- The SHA-256 hash of a message. -/
def sha256 (message : List UInt8) : List UInt8 :=
  let padded := pad message
  digest ((List.range (padded.length / 64)).foldl
    (fun value i => compress value (Blocks.block 64 padded i)) initialHash)

theorem sha256_eq_absorb (message : List UInt8) :
    sha256 message = digest (Blocks.absorb 64 compress (initialHash, []) (pad message)).1 := by
  rw [Blocks.absorb_blocks compress (by omega) _ _ _ (length_pad message)]
  rfl

theorem schedule_of_lt (block : List UInt8) {t : ℕ} (h : t < 16) :
    schedule block t = word block t := by
  rw [schedule, if_pos h]

theorem schedule_of_le (block : List UInt8) {t : ℕ} (h : 16 ≤ t) :
    schedule block t = smallSigma1 (schedule block (t - 2)) + schedule block (t - 7) +
      smallSigma0 (schedule block (t - 15)) + schedule block (t - 16) := by
  rw [schedule, if_neg (by omega)]

end Fips180
