/-! # Key types

* **`Curve`** — the elliptic curves that keys and signatures use.
* **`KeyType`** — the types of key an engine stores, with the byte of each and the exact size of
  its material.
* **`KeyType.isAes`**, **`KeyType.isHmac`** — which keys a cipher and a MAC accept. -/

namespace SecureEngine

/-- **An elliptic curve**, by the size of its field. -/
inductive Curve
  | p256
  | p384
deriving DecidableEq, Repr

/-- The size of a coordinate or scalar, in bytes. -/
def Curve.fieldSize : Curve → Nat
  | p256 => 32
  | p384 => 48

/-- **A type of key.** -/
inductive KeyType
  | ecdsa (curve : Curve)
  | aes128
  | aes192
  | aes256
  | hmac224
  | hmac256
  | hmac384
  | hmac512
  | she
deriving DecidableEq, Repr

namespace KeyType

/-- Every `KeyType`. -/
def all : List KeyType :=
  [ecdsa .p256, ecdsa .p384, aes128, aes192, aes256, hmac224, hmac256, hmac384, hmac512, she]

/-- The byte of a `KeyType` on the wire. -/
def code : KeyType → UInt8
  | ecdsa .p256 => 0x02
  | ecdsa .p384 => 0x03
  | aes128 => 0x30
  | aes192 => 0x31
  | aes256 => 0x32
  | hmac224 => 0x60
  | hmac256 => 0x61
  | hmac384 => 0x62
  | hmac512 => 0x63
  | she => 0xF9

/-- The `KeyType` that a byte names, if there is one. -/
def ofCode? (code : UInt8) : Option KeyType := all.find? (·.code == code)

/-- Bytes name key types uniquely. -/
@[simp] theorem ofCode?_code (t : KeyType) : ofCode? t.code = some t := by
  cases t with
  | ecdsa c => cases c <;> rfl
  | _ => rfl

/-- The size of the key material in bytes. -/
def size : KeyType → Nat
  | ecdsa c => c.fieldSize
  | aes128 | she => 16
  | aes192 => 24
  | aes256 => 32
  | hmac224 => 28
  | hmac256 => 32
  | hmac384 => 48
  | hmac512 => 64

/-- The curve of an asymmetric key. -/
def curve? : KeyType → Option Curve
  | ecdsa c => some c
  | _ => none

/-- The size of the public key that generating an asymmetric key returns: both coordinates. -/
def publicKeySize? (t : KeyType) : Option Nat := t.curve?.map (2 * ·.fieldSize)

/-- Whether a key works for block encryption. -/
def isAes : KeyType → Bool
  | aes128 | aes192 | aes256 | she => true
  | _ => false

/-- Whether a key works for hashed message authentication. -/
def isHmac : KeyType → Bool
  | hmac224 | hmac256 | hmac384 | hmac512 => true
  | _ => false

end KeyType

end SecureEngine
