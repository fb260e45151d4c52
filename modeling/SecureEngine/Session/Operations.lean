import SecureEngine.Session

/-! # Operations of a session

One function for each operation on an open service, and random bytes from the session itself. The
arguments come back with the output buffer as the operation left it. Buffers that are too small for
what the engine would write are refused before anything is sent. -/

namespace SecureEngine.Session

variable {σ : Type} [Transport σ]

/-- An operation refused before anything is sent. -/
def refuse {α : Type} (complaint : Complaint) (arguments : Arguments) : Operation σ α :=
  fun s => ((.error (.validation complaint), arguments), s)

/-- An operation with the value that its arguments hold afterwards. -/
def yielding {α : Type} (operation : Operation σ Unit) (value : Arguments → Option α) :
    Operation σ α := fun s =>
  let ((outcome, arguments), s) := operation s
  let valued : Except ClientError α := do
    outcome
    match value arguments with
    | some a => return a
    | none => throw (.validation .argumentsMismatch)
  ((valued, arguments), s)

/-! ## (1) Keys -/

/-- Whether a buffer is too small for the public key of a key type. -/
def lacksPublicKeyRoom (a : KeyGeneration) : Bool :=
  match (KeyType.ofCode? a.keyType).bind KeyType.publicKeySize? with
  | some size => a.publicKey.length < size
  | none => false

/-- Generates a key by one of the two commands for it. -/
def generateBy (c : Command) (handle : ServiceHandle) (a : KeyGeneration) : Operation σ UInt32 :=
  if lacksPublicKeyRoom a then refuse .publicKeyBufferTooSmall (.generateKey a)
  else yielding (call handle .keyManagement c (.generateKey a)) fun
    | .generateKey a => some a.identifier
    | _ => none

/-- **Generates a key**; the public key of an asymmetric one goes to the output buffer. -/
def generateKey (handle : ServiceHandle) (a : KeyGeneration) : Operation σ UInt32 :=
  generateBy .generateKey handle a

/-- **Generates a key** with a bound on the length of the MACs it verifies. -/
def generateKeyExt (handle : ServiceHandle) (a : KeyGeneration) : Operation σ UInt32 :=
  generateBy .generateKeyExt handle a

/-- **Imports a key in the clear.** -/
def importKey (handle : ServiceHandle) (a : KeyImport) : Operation σ UInt32 :=
  if a.material.isEmpty then refuse .noKeyMaterial (.importKey a)
  else yielding (call handle .keyManagement .importKey (.importKey a)) fun
    | .importKey a => some a.identifier
    | _ => none

/-- **Deletes a key.** -/
def deleteKey (handle : ServiceHandle) (a : KeyDeletion) : Operation σ Unit :=
  call handle .keyManagement .deleteKey (.deleteKey a)

/-- **Installs a wrapped key.** -/
def manageKey (handle : ServiceHandle) (a : KeyInstallation) : Operation σ UInt32 :=
  yielding (call handle .keyManagement .manageKey (.manageKey a)) fun
    | .manageKey a => some a.destination
    | _ => none

/-! ## (2) Data -/

/-- **Generates or verifies a MAC.** The status says something for verification only. -/
def mac (handle : ServiceHandle) (a : MacOperation) : Operation σ UInt32 :=
  if a.mac.isEmpty then refuse .emptyMacBuffer (.mac a)
  else yielding (call handle .mac .mac (.mac a)) fun
    | .mac a => some a.status
    | _ => none

/-- **Encrypts or decrypts** and returns the number of bytes written. -/
def cipher (handle : ServiceHandle) (a : CipherOperation) : Operation σ UInt32 :=
  if a.output.length < a.input.length then refuse .cipherOutputTooSmall (.cipher a)
  else yielding (call handle .cipher .cipher (.cipher a)) fun
    | .cipher a => some a.outputSize
    | _ => none

/-- Whether a buffer is too small for the digest of a hash function. -/
def lacksDigestRoom (a : HashOperation) : Bool :=
  match HashAlgorithm.ofCode? a.algorithm with
  | some algorithm => a.output.length < algorithm.digestSize
  | none => false

/-- **Hashes a message.** -/
def hash (handle : ServiceHandle) (a : HashOperation) : Operation σ Unit :=
  if lacksDigestRoom a then refuse .digestBufferTooSmall (.hash a)
  else call handle .hash .hash (.hash a)

/-! ## (3) Signatures -/

/-- **Signs** and returns the size of the signature. Legacy firmware tells none, so the whole buffer
counts as written. -/
def sign (handle : ServiceHandle) (a : SignOperation) : Operation σ UInt16 :=
  if a.signature.length < a.scheme.signatureSize then refuse .signatureBufferTooSmall (.sign a)
  else yielding (call handle .signatureGeneration .sign (.sign a)) fun
    | .sign a => some a.signatureSize
    | _ => none

/-- **Announces a signature.** -/
def prepareSign (handle : ServiceHandle) (a : SignPreparation) : Operation σ Unit :=
  call handle .signatureGeneration .prepareSign (.prepareSign a)

/-- **Checks a signature.** One that does not match is no failure: the status tells. -/
def verify (handle : ServiceHandle) (a : VerifyOperation) : Operation σ UInt32 :=
  if a.publicKey.isEmpty || a.signature.isEmpty then refuse .missingKeyOrSignature (.verify a)
  else yielding (call handle .signatureVerification .verify (.verify a)) fun
    | .verify a => some a.status
    | _ => none

/-! ## (4) The session itself -/

/-- A request addressed to the session. -/
def ask (c : Command) (arguments : Arguments) : Operation σ Unit := fun s =>
  match s.address with
  | .ok engineHandle => process c engineHandle arguments s
  | .error e => ((.error e, arguments), s)

/-- **Fills a buffer with random bytes.** There is nothing to do for an empty one. -/
def random (output : Bytes) : Operation σ Unit :=
  if output.isEmpty then fun s => ((.ok (), .random output), s)
  else ask .random (.random output)

end SecureEngine.Session
