import SecureEngine.KeyType

/-! # Algorithms by number

* **`HashAlgorithm`**, **`MacAlgorithm`**, **`CipherMode`** — algorithms with the byte that selects
  each on the wire.
* **`SignatureScheme`** — the two signature schemes; each firmware generation has its own number
  for a scheme. -/

namespace SecureEngine

/-- **A hash function of the SHA-2 family.** -/
inductive HashAlgorithm
  | sha224
  | sha256
  | sha384
  | sha512
deriving DecidableEq, Repr

namespace HashAlgorithm

/-- Every hash function. -/
def all : List HashAlgorithm := [sha224, sha256, sha384, sha512]

/-- The byte that selects a hash function. -/
def code : HashAlgorithm → UInt8
  | sha224 => 0
  | sha256 => 1
  | sha384 => 2
  | sha512 => 3

/-- The hash function that a byte selects. -/
def ofCode? (code : UInt8) : Option HashAlgorithm := all.find? (·.code == code)

/-- The size of a digest in bytes. -/
def digestSize : HashAlgorithm → Nat
  | sha224 => 28
  | sha256 => 32
  | sha384 => 48
  | sha512 => 64

end HashAlgorithm

/-- **A message authentication algorithm.** -/
inductive MacAlgorithm
  | cmac
  | hmac (hash : HashAlgorithm)
deriving DecidableEq, Repr

namespace MacAlgorithm

/-- Every authentication algorithm. -/
def all : List MacAlgorithm := cmac :: HashAlgorithm.all.map hmac

/-- The byte that selects an authentication algorithm. -/
def code : MacAlgorithm → UInt8
  | cmac => 1
  | hmac h => h.code + 5

/-- The authentication algorithm that a byte selects. -/
def ofCode? (code : UInt8) : Option MacAlgorithm := all.find? (·.code == code)

end MacAlgorithm

/-- **A mode of block encryption.** -/
inductive CipherMode
  | ecb
  | cbc
deriving DecidableEq, Repr

namespace CipherMode

/-- Every mode. -/
def all : List CipherMode := [ecb, cbc]

/-- The byte that selects a mode. -/
def code : CipherMode → UInt8
  | ecb => 0
  | cbc => 1

/-- The mode that a byte selects. -/
def ofCode? (code : UInt8) : Option CipherMode := all.find? (·.code == code)

end CipherMode

/-- **A signature scheme**: ECDSA with the hash function that goes with the curve. -/
inductive SignatureScheme
  | ecdsaP256Sha256
  | ecdsaP384Sha384
deriving DecidableEq, Repr

namespace SignatureScheme

/-- Every scheme. -/
def all : List SignatureScheme := [ecdsaP256Sha256, ecdsaP384Sha384]

/-- The number of a scheme for legacy firmware. -/
def legacyId : SignatureScheme → UInt8
  | ecdsaP256Sha256 => 0x02
  | ecdsaP384Sha384 => 0x03

/-- The number of a scheme for PSA firmware. -/
def psaId : SignatureScheme → UInt32
  | ecdsaP256Sha256 => 0x06000609
  | ecdsaP384Sha384 => 0x0600060A

/-- The scheme with a legacy number. -/
def ofLegacyId? (id : UInt8) : Option SignatureScheme := all.find? (·.legacyId == id)

/-- The scheme with a PSA number. -/
def ofPsaId? (id : UInt32) : Option SignatureScheme := all.find? (·.psaId == id)

/-- `ofLegacyId?` finds every scheme by its legacy identifier. -/
@[simp] theorem ofLegacyId?_legacyId (s : SignatureScheme) : ofLegacyId? s.legacyId = some s := by
  cases s <;> rfl

/-- `ofPsaId?` finds every scheme by its PSA identifier. -/
@[simp] theorem ofPsaId?_psaId (s : SignatureScheme) : ofPsaId? s.psaId = some s := by
  cases s <;> rfl

/-- The name of a scheme. -/
def name : SignatureScheme → String
  | ecdsaP256Sha256 => "EcdsaP256Sha256"
  | ecdsaP384Sha384 => "EcdsaP384Sha384"

/-- The curve a scheme signs on. -/
def curve : SignatureScheme → Curve
  | ecdsaP256Sha256 => .p256
  | ecdsaP384Sha384 => .p384

/-- The size of a signature: two scalars. -/
def signatureSize (s : SignatureScheme) : Nat := 2 * s.curve.fieldSize

end SignatureScheme

end SecureEngine
