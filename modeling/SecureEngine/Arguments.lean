import SecureEngine.Algorithm
import SecureEngine.Wire.Request
import SecureEngine.Wire.Response

/-! # Arguments of requests

What a caller hands over with a command, and where results come back. Identifiers of algorithms
are kept as the bytes on the wire, known or not.

* **`Arguments`** — one variant for each kind of request; closing anything takes none.
* **`Arguments.output?`** — the buffer the engine writes into, if the kind of request has one.
* **`Arguments.withOutput`** — the arguments with that buffer replaced. -/

namespace SecureEngine

/-- Opening a session; `session` is set on success. -/
structure SessionOpening where
  request : Wire.OpenSession
  session : UInt32 := 0
deriving DecidableEq, Repr

/-- Opening a key store; `handle` is set on success. -/
structure KeyStoreOpening where
  identifier : UInt32
  password : UInt32
  flags : UInt8
  handle : UInt32 := 0
deriving DecidableEq, Repr

/-- Opening a service; `handle` is set on success. -/
structure ServiceOpening where
  flags : UInt8
  handle : UInt32 := 0
deriving DecidableEq, Repr

/-- Generating a key: the public key goes to `publicKey`, `identifier` is requested and then
assigned. -/
structure KeyGeneration where
  identifier : UInt32
  publicKey : Bytes
  flags : UInt8
  keyType : UInt8
  group : UInt16
  info : UInt16
  minMacLength : UInt8
deriving DecidableEq, Repr

/-- Importing a key; `identifier` is requested and then assigned. -/
structure KeyImport where
  identifier : UInt32
  material : Bytes
  flags : UInt8
  keyType : UInt8
  group : UInt16
  info : UInt16
deriving DecidableEq, Repr

/-- Deleting a key. -/
structure KeyDeletion where
  identifier : UInt32
  flags : UInt8
deriving DecidableEq, Repr

/-- Installing a key wrapped under `wrappingKey`; `destination` is requested and then assigned. -/
structure KeyInstallation where
  destination : UInt32
  wrappingKey : UInt32
  material : Bytes
  flags : UInt8
  keyType : UInt8
  group : UInt16
  info : UInt16
deriving DecidableEq, Repr

/-- Generating or verifying a MAC; `status` is set on success. -/
structure MacOperation where
  key : UInt32
  payload : Bytes
  mac : Bytes
  flags : UInt8
  algorithm : UInt8
  status : UInt32 := 0
deriving DecidableEq, Repr

/-- Whether the MAC is written rather than compared. -/
def MacOperation.isGeneration (a : MacOperation) : Bool := a.flags &&& 1 != 0

/-- Encrypting or decrypting; `outputSize` is set on success. -/
structure CipherOperation where
  key : UInt32
  iv : Bytes
  input : Bytes
  output : Bytes
  mode : UInt8
  flags : UInt8
  /-- Whether every buffer is staged in the secure-memory window. -/
  secure : Bool := false
  outputSize : UInt32 := 0
deriving DecidableEq, Repr

/-- Hashing. -/
structure HashOperation where
  input : Bytes
  output : Bytes
  algorithm : UInt8
  flags : UInt8
deriving DecidableEq, Repr

/-- Signing; `signatureSize` is set on success. -/
structure SignOperation where
  key : UInt32
  message : Bytes
  signature : Bytes
  scheme : SignatureScheme
  flags : UInt8
  signatureSize : UInt16 := 0
deriving DecidableEq, Repr

/-- Announcing a signature. -/
structure SignPreparation where
  scheme : SignatureScheme
  flags : UInt8
deriving DecidableEq, Repr

/-- Checking a signature; `status` is set on success. -/
structure VerifyOperation where
  publicKey : Bytes
  message : Bytes
  signature : Bytes
  scheme : SignatureScheme
  flags : UInt8
  status : UInt32 := 0
deriving DecidableEq, Repr

/-- The number of a SHE key from its two parts. -/
def sheKeyNumber (extension key : UInt8) : UInt16 := extension.toUInt16 ||| key.toUInt16

/-- Generating a MAC with a SHE key. -/
structure SheMacGeneration where
  extension : UInt8
  key : UInt8
  message : Bytes
  mac : Bytes
deriving DecidableEq, Repr

/-- Verifying the first `macLength` bytes of a MAC with a SHE key; `status` is set on success. -/
structure SheMacVerification where
  extension : UInt8
  key : UInt8
  message : Bytes
  mac : Bytes
  macLength : UInt8
  status : UInt32 := 0
deriving DecidableEq, Repr

/-- Asking for the identity of the engine; `identity` is set on success. -/
structure SheIdentification where
  challenge : Vector UInt8 16
  mac : Bytes
  identity : Wire.Identity := ⟨Vector.replicate 15 0, 0⟩
deriving DecidableEq, Repr

/-- **The arguments and results of a request.** -/
inductive Arguments
  | openSession (a : SessionOpening)
  | sharedBuffer (window : Wire.Window)
  | openKeyStore (a : KeyStoreOpening)
  | openService (a : ServiceOpening)
  | close
  | generateKey (a : KeyGeneration)
  | importKey (a : KeyImport)
  | deleteKey (a : KeyDeletion)
  | manageKey (a : KeyInstallation)
  | mac (a : MacOperation)
  | cipher (a : CipherOperation)
  | hash (a : HashOperation)
  | sign (a : SignOperation)
  | prepareSign (a : SignPreparation)
  | verify (a : VerifyOperation)
  | random (output : Bytes)
  | sheGenerateMac (a : SheMacGeneration)
  | sheVerifyMac (a : SheMacVerification)
  | sheInitRng
  | sheExtendSeed (entropy : Bytes)
  | sheRandom (output : Bytes)
  | sheStatus (register : UInt8)
  | sheIdentity (a : SheIdentification)
deriving DecidableEq, Repr

namespace Arguments

/-- **The buffer the engine writes into**, if the kind of request has one. -/
def output? : Arguments → Option Bytes
  | generateKey a => some a.publicKey
  | mac a => some a.mac
  | cipher a => some a.output
  | hash a => some a.output
  | sign a => some a.signature
  | random output => some output
  | sheGenerateMac a => some a.mac
  | sheRandom output => some output
  | sheIdentity a => some a.mac
  | _ => none

/-- **The arguments with another output buffer**; without one they stay as they are. -/
def withOutput (buffer : Bytes) : Arguments → Arguments
  | generateKey a => generateKey { a with publicKey := buffer }
  | mac a => mac { a with mac := buffer }
  | cipher a => cipher { a with output := buffer }
  | hash a => hash { a with output := buffer }
  | sign a => sign { a with signature := buffer }
  | random _ => random buffer
  | sheGenerateMac a => sheGenerateMac { a with mac := buffer }
  | sheRandom _ => sheRandom buffer
  | sheIdentity a => sheIdentity { a with mac := buffer }
  | a => a

end Arguments

end SecureEngine
