import SecureEngine.Session.Operations

/-! # The secure hardware extension from a session

MACs, random values and status are requests to the session. Encryption goes through a cipher service
that is open for one operation only, with the key of a SHE slot. -/

namespace SecureEngine.Session

variable {σ : Type} [Transport σ]

/-- **Generates a SHE MAC.** -/
def sheGenerateMac (a : SheMacGeneration) : Operation σ Unit :=
  ask .sheGenerateMac (.sheGenerateMac a)

/-- **Verifies the front of a SHE MAC.** Status zero means that it matches. -/
def sheVerifyMac (a : SheMacVerification) : Operation σ UInt32 :=
  if a.macLength = 0 then refuse .sheMacLengthZero (.sheVerifyMac a)
  else yielding (ask .sheVerifyMac (.sheVerifyMac a)) fun
    | .sheVerifyMac a => some a.status
    | _ => none

/-- **Starts the SHE generator.** -/
def sheInitRng : Operation σ Unit := ask .sheInitRng .sheInitRng

/-- **Folds entropy into the generator.** -/
def sheExtendSeed (entropy : Bytes) : Operation σ Unit := ask .sheExtendSeed (.sheExtendSeed entropy)

/-- **Fills a buffer with a random value.** -/
def sheRandom (output : Bytes) : Operation σ Unit := ask .sheRandom (.sheRandom output)

/-- **The SHE status register.** -/
def sheStatus : Operation σ UInt8 :=
  yielding (ask .sheStatus (.sheStatus 0)) fun
    | .sheStatus register => some register
    | _ => none

/-- **The `Identity` of the engine**, authenticated over a challenge. On failure the MAC buffer is filled
with zeros. -/
def sheIdentity (a : SheIdentification) : Operation σ Wire.Identity := fun s =>
  let ((outcome, arguments), s) := yielding (ask .sheIdentity (.sheIdentity a)) (fun
    | .sheIdentity a => some a.identity
    | _ => none) s
  match outcome with
  | .ok identity => ((.ok identity, arguments), s)
  | .error e => ((.error e, arguments.withOutput (Bytes.blank a.mac.length)), s)

/-! ## Encryption -/

/-- The size of a block and of an initial block. -/
def sheBlockSize : Nat := 16

/-- A block operation with the key in a SHE slot. -/
structure SheCipher where
  extension : UInt8
  key : UInt8
  mode : CipherMode
  encrypts : Bool
  iv : Bytes
  input : Bytes
  output : Bytes
deriving DecidableEq, Repr

/-- The `CipherOperation` that a SHE operation amounts to. Only chaining has an initial block. -/
def SheCipher.operation (a : SheCipher) : CipherOperation where
  key := (sheKeyNumber a.extension a.key).toUInt32
  iv := if a.mode = .cbc then a.iv else []
  input := a.input
  output := a.output
  mode := a.mode.code
  flags := if a.encrypts then 1 else 0

/-- What is wrong with the sizes of a SHE operation. -/
def SheCipher.complaint? (a : SheCipher) : Option Complaint :=
  if a.input.length % sheBlockSize ≠ 0 then some .sheDataSize
  else if a.mode = .cbc ∧ a.iv.length ≠ sheBlockSize then some .sheIvSize
  else none

/-- **Encrypts or decrypts with a SHE key.** The service it goes through is closed again whatever
happened; failing to close it counts as a general error of the engine. -/
def sheCipher (a : SheCipher) : Operation σ Unit := fun s =>
  let arguments : Arguments := .cipher a.operation
  match a.complaint? with
  | some complaint => refuse complaint arguments s
  | none =>
    match (openService .cipher).run s with
    | (.error e, s) => ((.error e, arguments), s)
    | (.ok handle, s) =>
      let ((outcome, arguments), s) := cipher handle a.operation s
      match (closeService handle .cipher).run s with
      | (.ok (), s) => ((outcome.map fun _ => (), arguments), s)
      | (.error _, s) => ((.error (.engine Reason.generalError.toError), arguments), s)

end SecureEngine.Session
