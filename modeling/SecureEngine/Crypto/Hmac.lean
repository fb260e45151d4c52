import SecureEngine.Crypto.Sha2

/-! # Hashed message authentication

* **`HashAlgorithm.hmac`** — the authentication code of a message under a key; it is as long as a
  digest (`length_hmac`).
* **`HashAlgorithm.acceptsTag`** — whether a tag is the front of that code. -/

namespace SecureEngine.HashAlgorithm

/-- A key as long as a block: padded with zeros, or hashed first if it is longer than a block. -/
def blockKey (h : HashAlgorithm) (key : Bytes) : Bytes :=
  Bytes.overlay (Bytes.blank h.blockSize) (if key.length ≤ h.blockSize then key else h.digest key)

/-- **The authentication code of a message.** -/
def hmac (h : HashAlgorithm) (key message : Bytes) : Bytes :=
  let inner := h.digest ((h.blockKey key).map (· ^^^ 0x36) ++ message)
  h.digest ((h.blockKey key).map (· ^^^ 0x5C) ++ inner)

/-- An authentication code is as long as a digest. -/
@[simp] theorem length_hmac (h : HashAlgorithm) (key message : Bytes) :
    (h.hmac key message).length = h.digestSize :=
  length_digest h _

/-- **Whether a tag is the front of the authentication code.** The empty tag is not accepted, and
neither is one longer than the code. -/
def acceptsTag (h : HashAlgorithm) (key message tag : Bytes) : Bool :=
  !tag.isEmpty && (h.hmac key message).take tag.length == tag

end SecureEngine.HashAlgorithm
