import SecureEngine.Crypto.BlockMode
import SecureEngine.Crypto.Ecdsa
import SecureEngine.Emulator.Engine

/-! # Data services of the engine

MACs, ciphers, hashes and signatures over buffers that the client staged. Every handler looks its
key up first, loads its inputs next, and stores its output last.

* **`Engine.SignTask`** — what the two layouts of signing requests have in common. -/

namespace SecureEngine.Engine

open Handling

/-- The key that a service works with. -/
def serviceKey (service : UInt32) (kind : Service) (key : UInt32) : Handling KeyEntry := do
  let (_, store) ← lift ((← engine).serviceStore service kind)
  lift (store.get key)

/-! ## (1) MACs -/

/-- The status of a MAC that has been verified. -/
def macVerified : UInt32 := 0x6C1AA1C6

/-- The hash function of an algorithm that the engine implements. -/
def implementedHash? : Option MacAlgorithm → Option HashAlgorithm
  | some (.hmac hash) => some hash
  | _ => none

/-- **Generates or verifies a MAC.** A generated MAC is cut off at the size of its buffer; a shorter
tag is verified against the front of the MAC, if the key allows its length. -/
def mac (m : Wire.Mac) : Handling UInt32 := do
  let key ← serviceKey m.service .mac m.key
  let algorithm := MacAlgorithm.ofCode? m.algorithm
  demand (algorithm == some .cmac || key.keyType.isHmac) .keyNotSupported
  let payload ← load m.payloadAddress.toUInt64 m.payloadSize.toNat
  let size := m.macSize.toNat
  let address := m.macAddress.toUInt64
  if m.flags &&& 1 ≠ 0 then
    -- A MAC is made to the size of its buffer.
    let hash ← known (implementedHash? algorithm) .featureNotSupported
    demand (0 < size && size ≤ hash.digestSize) .invalidParam
    store address ((hash.hmac key.material payload).take size)
    return 0
  else
    -- The size of the tag is judged before the tag is read.
    demand (key.minMacLength.toNat ≤ size) .invalidParam
    let tag ← load address size
    demand (!tag.isEmpty) .invalidParam
    let hash ← known (implementedHash? algorithm) .featureNotSupported
    return if hash.acceptsTag key.material payload tag then macVerified else 0

/-! ## (2) Ciphers -/

/-- The `Direction` that the flags of a cipher request ask for. -/
def direction? : UInt8 → Option Direction
  | 0 => some .decrypt
  | 1 => some .encrypt
  | _ => none

/-- **Encrypts or decrypts.** -/
def cipher (m : Wire.Cipher) : Handling UInt32 := do
  let key ← serviceKey m.service .cipher m.key
  demand key.keyType.isAes .keyNotSupported
  let direction ← known (direction? m.flags) .invalidParam
  demand (m.inputSize ≤ m.outputSize) .outTooSmall
  let data ← load m.inputAddress.toUInt64 m.inputSize.toNat
  let mode ← known (CipherMode.ofCode? m.mode) .featureNotSupported
  let iv ← match mode with
    | .ecb => pure []
    | .cbc => load m.ivAddress.toUInt64 m.ivSize.toNat
  let result ← lift (mode.apply direction key.material iv data)
  store m.outputAddress.toUInt64 result
  return m.inputSize

/-! ## (3) Hashes -/

/-- **Hashes a message.** Only whole messages are hashed, so the flag for them is required. -/
def hash (m : Wire.Hash) : Handling Unit := do
  let _ ← lift ((← engine).serviceParent m.service .hash)
  demand (m.flags &&& 1 != 0) .featureNotSupported
  let message ← load m.inputAddress.toUInt64 m.inputSize.toNat
  let algorithm ← known (HashAlgorithm.ofCode? m.algorithm) .invalidParam
  demand (algorithm.digestSize ≤ m.outputSize.toNat) .outTooSmall
  store m.outputAddress.toUInt64 (algorithm.digest message)

/-! ## (4) Signatures -/

/-- The status of a signature that has been verified. -/
def signatureVerified : UInt32 := 0x5A3CC3A5

/-- Whether the flags of a request say that its input is a digest. -/
def inputIsDigest (flags : UInt8) : Bool := flags &&& 1 == 0

/-- **A signing request**, whichever layout it came in. -/
structure SignTask where
  service : UInt32
  key : UInt32
  messageAddress : UInt32
  signatureAddress : UInt32
  messageSize : UInt32
  signatureSize : UInt16
  scheme : SignatureScheme
  flags : UInt8
deriving DecidableEq, Repr

/-- The task of a legacy request, if it names a scheme. -/
def SignTask.ofLegacy? (m : Wire.SignLegacy) : Option SignTask :=
  (SignatureScheme.ofLegacyId? m.scheme).map fun scheme =>
    { service := m.service, key := m.key, messageAddress := m.messageAddress,
      signatureAddress := m.signatureAddress, messageSize := m.messageSize,
      signatureSize := m.signatureSize, scheme, flags := m.flags }

/-- The task of a PSA request, if it names a scheme. -/
def SignTask.ofPsa? (m : Wire.SignPsa) : Option SignTask :=
  (SignatureScheme.ofPsaId? m.scheme).map fun scheme =>
    { service := m.service, key := m.key, messageAddress := m.messageAddress,
      signatureAddress := m.signatureAddress, messageSize := m.messageSize,
      signatureSize := m.signatureSize, scheme, flags := m.flags }

/-- **Signs** and returns the size of the signature. -/
def sign (task : SignTask) : Handling UInt16 := do
  let key ← serviceKey task.service .signatureGeneration task.key
  let curve := task.scheme.curve
  demand (key.keyType.curve? == some curve) .keyNotSupported
  demand (task.scheme.signatureSize ≤ task.signatureSize.toNat) .outTooSmall
  let message ← load task.messageAddress.toUInt64 task.messageSize.toNat
  let signature ← known (curve.sign? key.material (inputIsDigest task.flags) message) .invalidParam
  store task.signatureAddress.toUInt64 signature
  return UInt16.ofNat signature.length

/-- Signs for a legacy request, whose response does not tell the size. -/
def signLegacy (m : Wire.SignLegacy) : Handling Unit := do
  let task ← known (SignTask.ofLegacy? m) .invalidParam
  let _ ← sign task

/-- Signs for a PSA request. -/
def signPsa (m : Wire.SignPsa) : Handling Wire.SignatureSize := do
  let task ← known (SignTask.ofPsa? m) .invalidParam
  return { size := ← sign task }

/-- Accepts the announcement of a signature. -/
def prepareSign (m : Wire.PrepareSign) : Handling Unit := do
  let _ ← lift ((← engine).serviceParent m.service .signatureGeneration)
  let _ ← known (SignatureScheme.ofLegacyId? m.scheme) .invalidParam

/-- **Checks a signature.** -/
def verify (m : Wire.Verify) : Handling UInt32 := do
  let _ ← lift ((← engine).serviceParent m.service .signatureVerification)
  let scheme ← known (SignatureScheme.ofLegacyId? m.scheme) .invalidParam
  let key ← load m.keyAddress.toUInt64 m.keySize.toNat
  let message ← load m.messageAddress.toUInt64 m.messageSize.toNat
  let signature ← load m.signatureAddress.toUInt64 m.signatureSize.toNat
  let key ← known (Curve.PublicKey.ofBytes? scheme.curve key) .invalidParam
  return if scheme.curve.verifies key (inputIsDigest m.flags) message signature then
    signatureVerified else 0

end SecureEngine.Engine
