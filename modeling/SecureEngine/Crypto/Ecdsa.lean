import SecureEngine.Algorithm
import SecureEngine.Crypto.CurvePoint
import SecureEngine.Crypto.Generator
import SecureEngine.Crypto.Hmac

/-! # ECDSA

Signatures on the two curves, each with the hash function of its size. Nonces are derived from the
key and the digest, so signing is a function.

* **`Curve.generateKey`** — a private key drawn from a generator, with its public key.
* **`Curve.digestOf?`** — what is signed: the hash of a message, or a digest given as such.
* **`Curve.sign?`**, **`Curve.verifies`** — signing and checking, over byte strings.
* **`Curve.PublicKey.ofBytes?`** — the byte strings that are public keys. -/

namespace SecureEngine.Curve

/-! ## (1) Scalars -/

/-- The hash function that goes with a curve. -/
def hash : Curve → HashAlgorithm
  | p256 => .sha256
  | p384 => .sha384

/-- How many draws may be refused for lying outside the range of private scalars. -/
def maxRefusals : Nat := 64

/-- **Draws a scalar from 1 up to the order of the base point.** Draws outside the range are refused.
Cryptographic libraries go on until a draw is in range, and nothing bounds how long that takes for an
arbitrary `next`; here the draw after `refusals` refusals is folded into the range, so that the recursion
ends. Both orders miss their power of two by less than one part in `2 ^ 31`, so a run of `maxRefusals`
refusals, where the two would differ, has a probability below `2 ^ (-1900)`. -/
def drawScalar {σ : Type} (c : Curve) (next : σ → Nat × σ) : (refusals : Nat) → σ → Nat × σ
  | 0, state =>
    let (n, state) := next state
    (n % (c.order - 1) + 1, state)
  | refusals + 1, state =>
    let (n, state) := next state
    if 0 < n ∧ n < c.order then (n, state) else drawScalar c next refusals state

/-- The bytes of a scalar. -/
def scalarBytes (c : Curve) (n : Nat) : Bytes := Bytes.ofNatBE c.fieldSize n

/-- The scalar that a private key spells, if it is in range. -/
def privateScalar? (c : Curve) (material : Bytes) : Option Nat :=
  let n := Bytes.toNatBE material
  if 0 < n ∧ n < c.order then some n else none

/-! ## (2) Keys -/

/-- The bytes of two coordinates. -/
def pointBytes (c : Curve) (x y : c.Coordinate) : Bytes :=
  Bytes.ofNatBE c.fieldSize x ++ Bytes.ofNatBE c.fieldSize y

/-- The public key of a private scalar. -/
def publicKey (c : Curve) (scalar : Nat) : Bytes :=
  match ((Point.generator c).times scalar).coordinates? with
  | some (x, y) => c.pointBytes x y
  | none => Bytes.blank (2 * c.fieldSize)

/-- **A new private key with its public key.** -/
def generateKey (c : Curve) (g : Generator) : (Bytes × Bytes) × Generator :=
  let next (g : Generator) : Nat × Generator :=
    (Bytes.toNatBE (g.bytes c.fieldSize), g.advance c.fieldSize)
  let (scalar, g) := c.drawScalar next maxRefusals g
  ((c.scalarBytes scalar, c.publicKey scalar), g)

/-- **A point of the curve** as a public key. -/
structure PublicKey (c : Curve) where
  x : c.Coordinate
  y : c.Coordinate
  /-- Only points of the curve are keys. -/
  contains : c.contains x y

/-- The `Coordinate` that a byte string spells, if it is below the prime. -/
def coordinate? (c : Curve) (bytes : Bytes) : Option c.Coordinate :=
  if h : Bytes.toNatBE bytes < c.prime then some ⟨Bytes.toNatBE bytes, h⟩ else none

/-- **The `PublicKey` that a byte string spells**: exactly two coordinates of a point. -/
def PublicKey.ofBytes? (c : Curve) (bytes : Bytes) : Option (PublicKey c) := do
  if bytes.length ≠ 2 * c.fieldSize then none
  let x ← c.coordinate? (bytes.take c.fieldSize)
  let y ← c.coordinate? (bytes.drop c.fieldSize)
  if h : c.contains x y then some ⟨x, y, h⟩ else none

/-! ## (3) Signatures -/

/-- **What is signed.** A message is hashed. A digest has at least half the size of a coordinate; a
short one is filled up with zeros in front, a long one is cut off. -/
def digestOf? (c : Curve) (isDigest : Bool) (input : Bytes) : Option Bytes :=
  if !isDigest then some (c.hash.digest input)
  else if input.length < c.fieldSize / 2 then none
  else some (Bytes.blank (c.fieldSize - input.length) ++ input.take c.fieldSize)

/-- The source of nonces: a key and a value, each renewed from both. -/
structure NonceSource where
  key : Bytes
  value : Bytes
deriving DecidableEq, Repr

namespace NonceSource

/-- Renews the key, and with it the value, from a mark and further data. -/
def renew (h : HashAlgorithm) (s : NonceSource) (mark : UInt8) (data : Bytes) : NonceSource :=
  let key := h.hmac s.key (s.value ++ mark :: data)
  ⟨key, h.hmac key s.value⟩

/-- The source for a seed. -/
def ofSeed (h : HashAlgorithm) (seed : Bytes) : NonceSource :=
  let start : NonceSource := ⟨Bytes.blank h.digestSize, List.replicate h.digestSize 1⟩
  (start.renew h 0 seed).renew h 1 seed

/-- The next candidate, and the source after it. -/
def next (h : HashAlgorithm) (s : NonceSource) : Nat × NonceSource :=
  let value := h.hmac s.key s.value
  (Bytes.toNatBE value, NonceSource.renew h ⟨s.key, value⟩ 0 [])

end NonceSource

/-- The nonce for a key and a digest. -/
def nonce (c : Curve) (scalar : Nat) (digest : Bytes) : Nat :=
  (c.drawScalar (NonceSource.next c.hash) maxRefusals
    (NonceSource.ofSeed c.hash (c.scalarBytes scalar ++ digest))).1

/-- **The signature of a digest under a private scalar**: two scalars, neither of them zero. -/
def signDigest? (c : Curve) (scalar : Nat) (digest : Bytes) : Option Bytes := do
  -- The nonce comes from the digest as it is, the signature from its residue.
  let k := c.nonce scalar digest
  let (x, _) ← ((Point.generator c).times k).coordinates?
  let r := c.reduce x
  let s := modularInverse (c.reduce k) * (c.reduce (Bytes.toNatBE digest) + r * c.reduce scalar)
  if r = 0 ∨ s = 0 then none else some (c.scalarBytes r ++ c.scalarBytes s)

/-- **Signs a message or a digest** with a private key. -/
def sign? (c : Curve) (material : Bytes) (isDigest : Bool) (input : Bytes) : Option Bytes := do
  let scalar ← c.privateScalar? material
  let digest ← c.digestOf? isDigest input
  c.signDigest? scalar digest

/-- The two scalars of a signature, if it has the right size and they are in range. -/
def signatureScalars? (c : Curve) (signature : Bytes) : Option (Nat × Nat) := do
  if signature.length ≠ 2 * c.fieldSize then none
  let r ← c.privateScalar? (signature.take c.fieldSize)
  let s ← c.privateScalar? (signature.drop c.fieldSize)
  return (r, s)

/-- **Whether a signature is one of a message or a digest** under a `PublicKey`. -/
def verifies (c : Curve) (key : PublicKey c) (isDigest : Bool) (input signature : Bytes) : Bool :=
  match c.signatureScalars? signature, c.digestOf? isDigest input with
  | some (r, s), some digest =>
    let inverse := modularInverse (c.reduce s)
    let u := c.reduce (Bytes.toNatBE digest) * inverse
    let v := c.reduce r * inverse
    let sum := ((Point.generator c).times u).add ((Point.ofCoordinates key.x key.y).times v)
    match sum.coordinates? with
    | some (x, _) => x.val % c.order == r
    | none => false
  | _, _ => false

/-- A signature has the size of two scalars. -/
theorem length_of_signDigest? {c : Curve} {scalar : Nat} {digest signature : Bytes}
    (h : c.signDigest? scalar digest = some signature) : signature.length = 2 * c.fieldSize := by
  simp only [signDigest?, Option.bind_eq_bind, Option.bind_eq_some_iff] at h
  obtain ⟨_, _, h⟩ := h
  split at h
  · exact absurd h (by simp)
  · cases h
    simp only [scalarBytes, List.length_append, Bytes.length_ofNatBE]
    omega

end SecureEngine.Curve
