import SecureEngine.Algorithm
import SecureEngine.Bytes

/-! # The SHA-2 hash functions

One construction over words of 32 or 64 bits: the message is padded to whole blocks, and each block
is folded into a state of eight words.

* **`Sha2.Word`** — what the construction needs of a word: size, mixing functions, round constants.
* **`Sha2.schedule`**, **`Sha2.compress`** — the words of a block, and one block folded into a state.
* **`Sha2.pad`** — a message padded to whole blocks.
* **`HashAlgorithm.digest`** — the digest; its length is the digest size (`length_digest`). -/

namespace SecureEngine

namespace Sha2

/-! ## (1) Words -/

/-- **The words a hash function works on.** -/
class Word (ω : Type) extends Add ω, AndOp ω, XorOp ω, Complement ω, Inhabited ω where
  /-- The number of bytes of a word. -/
  size : Nat
  /-- The word with a numeric value. -/
  ofNat : Nat → ω
  /-- The numeric value of a word. -/
  toNat : ω → Nat
  /-- Mixes the first word of a state. -/
  upperMix₀ : ω → ω
  /-- Mixes the fifth word of a state. -/
  upperMix₁ : ω → ω
  /-- Mixes the word fifteen places back in a schedule. -/
  lowerMix₀ : ω → ω
  /-- Mixes the word two places back in a schedule. -/
  lowerMix₁ : ω → ω
  /-- One constant for each round. -/
  constants : List ω

/-- A 32-bit word rotated to the right. -/
def rotate32 (w n : UInt32) : UInt32 := (w >>> n) ||| (w <<< (32 - n))

/-- A 64-bit word rotated to the right. -/
def rotate64 (w n : UInt64) : UInt64 := (w >>> n) ||| (w <<< (64 - n))

/-- The round constants: the first 64 bits of the fractional parts of the cube roots of the first
eighty primes. -/
def roundConstants : List UInt64 :=
  [
    0x428a2f98d728ae22, 0x7137449123ef65cd, 0xb5c0fbcfec4d3b2f, 0xe9b5dba58189dbbc,
    0x3956c25bf348b538, 0x59f111f1b605d019, 0x923f82a4af194f9b, 0xab1c5ed5da6d8118,
    0xd807aa98a3030242, 0x12835b0145706fbe, 0x243185be4ee4b28c, 0x550c7dc3d5ffb4e2,
    0x72be5d74f27b896f, 0x80deb1fe3b1696b1, 0x9bdc06a725c71235, 0xc19bf174cf692694,
    0xe49b69c19ef14ad2, 0xefbe4786384f25e3, 0x0fc19dc68b8cd5b5, 0x240ca1cc77ac9c65,
    0x2de92c6f592b0275, 0x4a7484aa6ea6e483, 0x5cb0a9dcbd41fbd4, 0x76f988da831153b5,
    0x983e5152ee66dfab, 0xa831c66d2db43210, 0xb00327c898fb213f, 0xbf597fc7beef0ee4,
    0xc6e00bf33da88fc2, 0xd5a79147930aa725, 0x06ca6351e003826f, 0x142929670a0e6e70,
    0x27b70a8546d22ffc, 0x2e1b21385c26c926, 0x4d2c6dfc5ac42aed, 0x53380d139d95b3df,
    0x650a73548baf63de, 0x766a0abb3c77b2a8, 0x81c2c92e47edaee6, 0x92722c851482353b,
    0xa2bfe8a14cf10364, 0xa81a664bbc423001, 0xc24b8b70d0f89791, 0xc76c51a30654be30,
    0xd192e819d6ef5218, 0xd69906245565a910, 0xf40e35855771202a, 0x106aa07032bbd1b8,
    0x19a4c116b8d2d0c8, 0x1e376c085141ab53, 0x2748774cdf8eeb99, 0x34b0bcb5e19b48a8,
    0x391c0cb3c5c95a63, 0x4ed8aa4ae3418acb, 0x5b9cca4f7763e373, 0x682e6ff3d6b2b8a3,
    0x748f82ee5defb2fc, 0x78a5636f43172f60, 0x84c87814a1f0ab72, 0x8cc702081a6439ec,
    0x90befffa23631e28, 0xa4506cebde82bde9, 0xbef9a3f7b2c67915, 0xc67178f2e372532b,
    0xca273eceea26619c, 0xd186b8c721c0c207, 0xeada7dd6cde0eb1e, 0xf57d4f7fee6ed178,
    0x06f067aa72176fba, 0x0a637dc5a2c898a6, 0x113f9804bef90dae, 0x1b710b35131c471b,
    0x28db77f523047d84, 0x32caab7b40c72493, 0x3c9ebe0a15c9bebc, 0x431d67c49c100d4c,
    0x4cc5d4becb3e42b6, 0x597f299cfc657e2a, 0x5fcb6fab3ad6faec, 0x6c44198c4a475817]

instance : Word UInt64 where
  size := 8
  ofNat := UInt64.ofNat
  toNat := UInt64.toNat
  upperMix₀ w := rotate64 w 28 ^^^ rotate64 w 34 ^^^ rotate64 w 39
  upperMix₁ w := rotate64 w 14 ^^^ rotate64 w 18 ^^^ rotate64 w 41
  lowerMix₀ w := rotate64 w 1 ^^^ rotate64 w 8 ^^^ (w >>> 7)
  lowerMix₁ w := rotate64 w 19 ^^^ rotate64 w 61 ^^^ (w >>> 6)
  constants := roundConstants

/-- The upper half of a 64-bit word. -/
def upperHalf (w : UInt64) : UInt32 := (w >>> 32).toUInt32

/-- The lower half of a 64-bit word. -/
def lowerHalf (w : UInt64) : UInt32 := w.toUInt32

/-- The narrow functions use the first 32 bits of the first sixty-four constants. -/
instance : Word UInt32 where
  size := 4
  ofNat := UInt32.ofNat
  toNat := UInt32.toNat
  upperMix₀ w := rotate32 w 2 ^^^ rotate32 w 13 ^^^ rotate32 w 22
  upperMix₁ w := rotate32 w 6 ^^^ rotate32 w 11 ^^^ rotate32 w 25
  lowerMix₀ w := rotate32 w 7 ^^^ rotate32 w 18 ^^^ (w >>> 3)
  lowerMix₁ w := rotate32 w 17 ^^^ rotate32 w 19 ^^^ (w >>> 10)
  constants := (roundConstants.take 64).map upperHalf

/-! ## (2) States -/

/-- **The eight words of a running hash.** -/
structure State (ω : Type) where
  a : ω
  b : ω
  c : ω
  d : ω
  e : ω
  f : ω
  g : ω
  h : ω

namespace State

variable {ω : Type}

/-- A function applied to every word. -/
def map {β : Type} (s : State ω) (f : ω → β) : State β :=
  ⟨f s.a, f s.b, f s.c, f s.d, f s.e, f s.f, f s.g, f s.h⟩

/-- The words in order. -/
def toList (s : State ω) : List ω := [s.a, s.b, s.c, s.d, s.e, s.f, s.g, s.h]

variable [Word ω]

/-- Two states added word by word. -/
def add (s t : State ω) : State ω :=
  ⟨s.a + t.a, s.b + t.b, s.c + t.c, s.d + t.d, s.e + t.e, s.f + t.f, s.g + t.g, s.h + t.h⟩

/-- One round with a schedule word and a constant. -/
def round (s : State ω) (word constant : ω) : State ω :=
  let choice := (s.e &&& s.f) ^^^ (~~~s.e &&& s.g)
  let majority := (s.a &&& s.b) ^^^ (s.a &&& s.c) ^^^ (s.b &&& s.c)
  let t₁ := s.h + Word.upperMix₁ s.e + choice + constant + word
  let t₂ := Word.upperMix₀ s.a + majority
  ⟨t₁ + t₂, s.a, s.b, s.c, s.d + t₁, s.e, s.f, s.g⟩

/-- The bytes of a state, most significant byte of each word first. -/
def toBytes (s : State ω) : Bytes :=
  s.toList.flatMap fun w => Bytes.ofNatBE (Word.size ω) (Word.toNat w)

/-- A state has the bytes of eight words. -/
@[simp] theorem length_toBytes (s : State ω) : s.toBytes.length = 8 * Word.size ω := by
  simp [toBytes, toList]
  omega

end State

/-- The initial state of the widest function: the first 64 bits of the fractional parts of the
square roots of the first eight primes. -/
def initial512 : State UInt64 :=
  ⟨
    0x6a09e667f3bcc908, 0xbb67ae8584caa73b, 0x3c6ef372fe94f82b, 0xa54ff53a5f1d36f1,
    0x510e527fade682d1, 0x9b05688c2b3e6c1f, 0x1f83d9abfb41bd6b, 0x5be0cd19137e2179⟩

/-- The same for the ninth to the sixteenth prime. -/
def initial384 : State UInt64 :=
  ⟨
    0xcbbb9d5dc1059ed8, 0x629a292a367cd507, 0x9159015a3070dd17, 0x152fecd8f70e5939,
    0x67332667ffc00b31, 0x8eb44a8768581511, 0xdb0c2e0d64f98fa7, 0x47b5481dbefa4fa4⟩

/-- The first halves of the words of `initial512`. -/
def initial256 : State UInt32 := initial512.map upperHalf

/-- The second halves of the words of `initial384`. -/
def initial224 : State UInt32 := initial384.map lowerHalf

/-! ## (3) Messages -/

section

variable (ω : Type) [Word ω]

/-- The number of bytes of a block: sixteen words. -/
def blockSize : Nat := 16 * Word.size ω

/-- The number of zero bytes between the end marker and the length. -/
def paddingZeros (length : Nat) : Nat :=
  (blockSize ω - (length + 1 + 2 * Word.size ω) % blockSize ω) % blockSize ω

/-- **A padded message**: an end marker, zeros, and the number of bits in two words. -/
def pad (message : Bytes) : Bytes :=
  message ++ 0x80 :: (Bytes.blank (paddingZeros ω message.length)
    ++ Bytes.ofNatBE (2 * Word.size ω) (8 * message.length))

end

variable {ω : Type} [Word ω]

/-- The words of a block. -/
def blockWords (block : Bytes) : List ω :=
  (block.chunks (Word.size ω)).map fun bytes => Word.ofNat (Bytes.toNatBE bytes)

/-- One more word of a schedule, from the sixteen before it. Schedules grow at the front, so the word
`n` places back is found without counting from the other end. -/
def extend (words : List ω) : List ω :=
  let back (n : Nat) : ω := words.getD (n - 1) default
  (Word.lowerMix₁ (back 2) + back 7 + Word.lowerMix₀ (back 15) + back 16) :: words

/-- **The words of a block, one for each round.** -/
def schedule (block : Bytes) : List ω :=
  (Nat.repeat extend ((Word.constants : List ω).length - 16) (blockWords block).reverse).reverse

/-- **Folds one block into a state.** -/
def compress (s : State ω) (block : Bytes) : State ω :=
  s.add (((schedule block).zip Word.constants).foldl (fun s (word, constant) =>
    s.round word constant) s)

/-- The state after a whole message. -/
def run (initial : State ω) (message : Bytes) : State ω :=
  ((pad ω message).chunks (blockSize ω)).foldl compress initial

end Sha2

namespace HashAlgorithm

/-- The number of bytes in a block of a hash function. -/
def blockSize : HashAlgorithm → Nat
  | sha224 | sha256 => Sha2.blockSize UInt32
  | sha384 | sha512 => Sha2.blockSize UInt64

/-- **The digest of a message.** The short functions cut the state off. -/
def digest (h : HashAlgorithm) (message : Bytes) : Bytes :=
  match h with
  | sha224 => (Sha2.run Sha2.initial224 message).toBytes.take h.digestSize
  | sha256 => (Sha2.run Sha2.initial256 message).toBytes
  | sha384 => (Sha2.run Sha2.initial384 message).toBytes.take h.digestSize
  | sha512 => (Sha2.run Sha2.initial512 message).toBytes

/-- Every digest has the size of its function. -/
@[simp] theorem length_digest (h : HashAlgorithm) (message : Bytes) :
    (h.digest message).length = h.digestSize := by
  cases h <;> simp [digest, digestSize, Sha2.Word.size]

end HashAlgorithm

end SecureEngine
