import SecureEngine.Algorithm
import SecureEngine.Crypto.Aes
import SecureEngine.EngineError

/-! # Modes of block encryption

* **`Direction`** — encrypting or decrypting.
* **`Aes.Key.codebook`** — every block on its own.
* **`Aes.Key.encryptChain`**, **`Aes.Key.decryptChain`** — every block combined with the ciphertext
  of the one before it.
* **`CipherMode.apply`** — a mode on whole byte strings, with the sizes it refuses. -/

namespace SecureEngine

/-- **Which way a cipher works.** -/
inductive Direction
  | encrypt
  | decrypt
deriving DecidableEq, Repr

namespace Aes

/-- The blocks of a byte string. -/
def blocks (data : Bytes) : List Block := (data.chunks blockSize).map Block.ofBytes

/-- The bytes of some blocks. -/
def unblocks (blocks : List Block) : Bytes := blocks.flatMap Block.toBytes

namespace Key

/-- **Every block on its own.** -/
def codebook (key : Key) : Direction → List Block → List Block
  | .encrypt => List.map key.encrypt
  | .decrypt => List.map key.decrypt

/-- **Encrypts a chain**: each block is combined with the ciphertext before it. -/
def encryptChain (key : Key) : (previous : Block) → List Block → List Block
  | _, [] => []
  | previous, b :: rest =>
    let c := key.encrypt (b.xor previous)
    c :: encryptChain key c rest

/-- **Decrypts a chain.** -/
def decryptChain (key : Key) : (previous : Block) → List Block → List Block
  | _, [] => []
  | previous, c :: rest => (key.decrypt c).xor previous :: decryptChain key c rest

/-- A chain either way. -/
def chain (key : Key) : Direction → (previous : Block) → List Block → List Block
  | .encrypt => key.encryptChain
  | .decrypt => key.decryptChain

end Key

end Aes

namespace CipherMode

open Aes

/-- **A mode on whole byte strings.** Data must be whole blocks, a chain needs an initial block, and
the key a size that AES has. -/
def apply (mode : CipherMode) (direction : Direction) (material iv data : Bytes) :
    Except EngineError Bytes := do
  if data.length % blockSize ≠ 0 then throw Reason.invalidParam.toError
  if mode = .cbc ∧ iv.length ≠ blockSize then throw Reason.invalidParam.toError
  match Key.ofBytes? material with
  | none => throw Reason.keyNotSupported.toError
  | some key => return unblocks <| match mode with
    | ecb => key.codebook direction (blocks data)
    | cbc => key.chain direction (Block.ofBytes iv) (blocks data)

end CipherMode

end SecureEngine
