import SecureEngine.Arguments
import SecureEngine.Transport
import SecureEngine.Wire.Frame

/-! # Preparing requests

From arguments to a request: check the arguments, register the buffers in order, and name the
buffers in the request by the addresses they got.

* **`Registering`** — computations that register buffers with a transport and may fail.
* **`Prepared`** — the request, and where the engine will write its output.
* **`Command.prepare`** — the preparation of each command. Sizes are checked before the first
  buffer is registered; empty buffers are not registered and have address zero. -/

namespace SecureEngine

/-- **Registering buffers with a transport of state `σ`.** -/
abbrev Registering (σ : Type) := ExceptT ClientError (StateM σ)

/-- **A request ready to be framed.** -/
structure Prepared (flavor : Flavor) (c : Command) where
  /-- The content of the request. -/
  request : c.Request flavor
  /-- The address of the registered output buffer, if there is one. -/
  output : Option Address := none

/-- The length of a buffer as a half word. -/
def halfSize (what : SizedBuffer) (buffer : Bytes) : Except ClientError UInt16 :=
  if buffer.length < UInt16.size then .ok (UInt16.ofNat buffer.length)
  else .error (.validation (.tooLarge what))

/-- The length of a buffer as a word. -/
def wordSize (what : SizedBuffer) (buffer : Bytes) : Except ClientError UInt32 :=
  if buffer.length < UInt32.size then .ok (UInt32.ofNat buffer.length)
  else .error (.validation (.tooLarge what))

section

variable {σ : Type} [Transport σ]

/-- A check that registers nothing. -/
def Registering.check {α : Type} (r : Except ClientError α) : Registering σ α :=
  ExceptT.mk (pure r)

/-- A `Complaint` about the arguments unless a condition holds. -/
def Registering.demand (condition : Bool) (complaint : Complaint) : Registering σ Unit :=
  if condition then pure () else throw (.validation complaint)

/-- **Registers a buffer** for this round trip; an empty buffer is left out. -/
def register (buffer : Bytes) (use : BufferUse) : Registering σ (Option Address) :=
  if buffer.isEmpty then pure none
  else ExceptT.mk fun state =>
    let (result, state) := Transport.dataBuffer state buffer use
    (match result with
      | .ok address => .ok (some address)
      | .error e => .error (.transport e), state)

/-- The `Address` of a buffer in messages: zero if it was left out. -/
def wireAddress (address : Option Address) : Address := address.getD 0

/-! ## Preparation of each group of commands -/

/-- Registers the public key buffer and describes the key to generate. -/
def prepareGeneration (handle : UInt32) (a : KeyGeneration) :
    Registering σ (Wire.GenerateKey × Option Address) := do
  let outputSize ← Registering.check (halfSize .publicKeyBuffer a.publicKey)
  let output ← register a.publicKey { output := true }
  return ({ service := handle, identifier := a.identifier, outputSize, flags := a.flags,
            keyType := a.keyType, group := a.group, info := a.info,
            outputAddress := (wireAddress output).low }, output)

/-- Registers the key material of an import. -/
def prepareImport (handle : UInt32) (a : KeyImport) : Registering σ Wire.ImportKey := do
  let inputSize ← Registering.check (halfSize .importedKey a.material)
  let input ← register a.material { input := true }
  return { service := handle, identifier := a.identifier, group := a.group, flags := a.flags,
           keyType := a.keyType, info := a.info, inputSize,
           inputAddress := (wireAddress input).low }

/-- Registers the wrapped key of an installation. -/
def prepareInstallation (handle : UInt32) (a : KeyInstallation) : Registering σ Wire.ManageKey := do
  let inputSize ← Registering.check (halfSize .wrappedKey a.material)
  let input ← register a.material { input := true }
  return { service := handle, destination := a.destination, wrappingKey := a.wrappingKey,
           inputSize, flags := a.flags, keyType := a.keyType, group := a.group, info := a.info,
           inputAddress := (wireAddress input).low }

/-- Registers payload and MAC. The MAC is an output only when it is generated. -/
def prepareMac (handle : UInt32) (a : MacOperation) :
    Registering σ (Wire.Mac × Option Address) := do
  let payloadSize ← Registering.check (halfSize .macPayload a.payload)
  let macSize ← Registering.check (halfSize .macBuffer a.mac)
  let payload ← register a.payload { input := true }
  let mac ← register a.mac { input := !a.isGeneration, output := a.isGeneration }
  return ({ service := handle, key := a.key, payloadAddress := (wireAddress payload).low,
            macAddress := (wireAddress mac).low, payloadSize, macSize, flags := a.flags,
            algorithm := a.algorithm },
          if a.isGeneration then mac else none)

/-- Registers initialisation vector, input and output, all in the same memory. -/
def prepareCipher (handle : UInt32) (a : CipherOperation) :
    Registering σ (Wire.Cipher × Option Address) := do
  let ivSize ← Registering.check (halfSize .iv a.iv)
  let inputSize ← Registering.check (wordSize .cipherInput a.input)
  let outputSize ← Registering.check (wordSize .cipherOutput a.output)
  let iv ← register a.iv { input := true, secure := a.secure }
  let input ← register a.input { input := true, secure := a.secure }
  let output ← register a.output { output := true, secure := a.secure }
  return ({ service := handle, key := a.key, ivAddress := (wireAddress iv).low, ivSize,
            mode := a.mode, flags := a.flags, inputAddress := (wireAddress input).low,
            outputAddress := (wireAddress output).low, inputSize, outputSize }, output)

/-- Registers input and digest buffer. -/
def prepareHash (handle : UInt32) (a : HashOperation) :
    Registering σ (Wire.Hash × Option Address) := do
  let inputSize ← Registering.check (wordSize .hashInput a.input)
  let outputSize ← Registering.check (wordSize .hashOutput a.output)
  let input ← register a.input { input := true }
  let output ← register a.output { output := true }
  return ({ service := handle, inputAddress := (wireAddress input).low,
            outputAddress := (wireAddress output).low, inputSize, outputSize,
            algorithm := a.algorithm, flags := a.flags }, output)

/-- Registers message and signature buffer; the request depends on the firmware. -/
def prepareSigning (flavor : Flavor) (handle : UInt32) (a : SignOperation) :
    Registering σ (Prepared flavor .sign) := do
  let messageSize ← Registering.check (wordSize .message a.message)
  let signatureSize ← Registering.check (halfSize .signatureBuffer a.signature)
  let message ← register a.message { input := true }
  let signature ← register a.signature { output := true }
  let messageAddress := (wireAddress message).low
  let signatureAddress := (wireAddress signature).low
  return match flavor with
    | .legacy =>
      { request := { service := handle, key := a.key, messageAddress, signatureAddress,
                     messageSize, signatureSize, scheme := a.scheme.legacyId, flags := a.flags }
        output := signature }
    | .psa =>
      { request := { service := handle, key := a.key, messageAddress, signatureAddress,
                     messageSize, signatureSize, flags := a.flags, scheme := a.scheme.psaId }
        output := signature }

/-- Registers public key, message and signature. -/
def prepareVerification (handle : UInt32) (a : VerifyOperation) : Registering σ Wire.Verify := do
  let keySize ← Registering.check (halfSize .publicKey a.publicKey)
  let signatureSize ← Registering.check (halfSize .signature a.signature)
  let messageSize ← Registering.check (wordSize .message a.message)
  let key ← register a.publicKey { input := true }
  let message ← register a.message { input := true }
  let signature ← register a.signature { input := true }
  return { service := handle, keyAddress := (wireAddress key).low,
           messageAddress := (wireAddress message).low,
           signatureAddress := (wireAddress signature).low, keySize, signatureSize, messageSize,
           scheme := a.scheme.legacyId, flags := a.flags }

/-- Registers the output of a draw of random bytes. -/
def prepareRandom (handle : UInt32) (output : Bytes) :
    Registering σ (Wire.Random × Option Address) := do
  let size ← Registering.check (wordSize .randomBuffer output)
  let address ← register output { output := true }
  return ({ session := handle, outputAddress := (wireAddress address).low, size }, address)

/-- Registers message and MAC in secure memory, named by their offsets. -/
def prepareSheGenerateMac (a : SheMacGeneration) :
    Registering σ (Wire.SheGenerateMac × Option Address) := do
  Registering.demand (a.mac.length == 16) .sheMacBufferSize
  let messageSize ← Registering.check (halfSize .sheMessage a.message)
  let message ← register a.message { input := true, secure := true, short := true }
  let mac ← register a.mac { output := true, secure := true, short := true }
  return ({ key := sheKeyNumber a.extension a.key, messageSize,
            messageOffset := (wireAddress message).short,
            macOffset := (wireAddress mac).short }, mac)

/-- Registers message and MAC in secure memory, both to be read. -/
def prepareSheVerifyMac (a : SheMacVerification) : Registering σ Wire.SheVerifyMac := do
  Registering.demand (a.mac.length == 16) .sheMacBufferSize
  Registering.demand (a.macLength ≤ 16) .sheMacLengthTooLong
  let messageSize ← Registering.check (halfSize .sheMessage a.message)
  let message ← register a.message { input := true, secure := true, short := true }
  let mac ← register a.mac { input := true, secure := true, short := true }
  return { key := sheKeyNumber a.extension a.key, messageSize,
           messageOffset := (wireAddress message).short, macOffset := (wireAddress mac).short,
           macLength := a.macLength }

/-- Registers sixteen bytes of entropy. -/
def prepareSheExtendSeed (entropy : Bytes) : Registering σ Wire.SplitBuffer := do
  Registering.demand (entropy.length == 16) .sheEntropySize
  let address ← register entropy { input := true, secure := true }
  return { high := (wireAddress address).high, low := (wireAddress address).low,
           size := UInt32.ofNat entropy.length }

/-- Registers a buffer for sixteen random bytes. -/
def prepareSheRandom (output : Bytes) : Registering σ (Wire.SplitBuffer × Option Address) := do
  Registering.demand (output.length == 16) .sheRandomSize
  let address ← register output { output := true, secure := true }
  return ({ high := (wireAddress address).high, low := (wireAddress address).low,
            size := UInt32.ofNat output.length }, address)

/-- Registers the MAC buffer of an identification. -/
def prepareSheIdentity (a : SheIdentification) :
    Registering σ (Wire.SheIdentity × Option Address) := do
  Registering.demand (a.mac.length == 16) .sheMacBufferSize
  let address ← register a.mac { output := true, secure := true }
  return ({ challenge := a.challenge, high := (wireAddress address).high,
            low := (wireAddress address).low }, address)

/-- A request with the `Address` of its output. -/
def Prepared.ofPair {flavor : Flavor} {c : Command} (p : c.Request flavor × Option Address) :
    Prepared flavor c :=
  ⟨p.1, p.2⟩

/-- A request without output. -/
def Prepared.ofRequest {flavor : Flavor} {c : Command} (request : c.Request flavor) :
    Prepared flavor c :=
  ⟨request, none⟩

/-- **Preparing a command** addressed to `handle`. Requests that only name a handle, and those
without content, need no arguments and take any. -/
def Command.prepare (flavor : Flavor) (handle : UInt32) :
    (c : Command) → Arguments → Registering σ (Prepared flavor c)
  | .openSession, .openSession a => pure (.ofRequest a.request)
  | .closeSession, _ => pure (.ofRequest handle)
  | .sharedBuffer, _ => pure (.ofRequest handle)
  | .openKeyStore, .openKeyStore a =>
    pure (.ofRequest { session := handle, identifier := a.identifier, password := a.password,
                       flags := a.flags })
  | .closeKeyStore, _ => pure (.ofRequest handle)
  | .openService _, .openService a => pure (.ofRequest { parent := handle, flags := a.flags })
  | .closeService _, _ => pure (.ofRequest handle)
  | .generateKey, .generateKey a => .ofPair <$> prepareGeneration handle a
  | .generateKeyExt, .generateKey a => do
    let (request, output) ← prepareGeneration handle a
    return ⟨{ request with minMacLength := a.minMacLength }, output⟩
  | .importKey, .importKey a => .ofRequest <$> prepareImport handle a
  | .deleteKey, .deleteKey a =>
    pure (.ofRequest { service := handle, identifier := a.identifier, flags := a.flags })
  | .manageKey, .manageKey a => .ofRequest <$> prepareInstallation handle a
  | .mac, .mac a => .ofPair <$> prepareMac handle a
  | .cipher, .cipher a => .ofPair <$> prepareCipher handle a
  | .hash, .hash a => .ofPair <$> prepareHash handle a
  | .sign, .sign a => prepareSigning flavor handle a
  | .prepareSign, .prepareSign a =>
    pure (.ofRequest { service := handle, scheme := a.scheme.legacyId, flags := a.flags })
  | .verify, .verify a => .ofRequest <$> prepareVerification handle a
  | .random, .random output => .ofPair <$> prepareRandom handle output
  | .sheGenerateMac, .sheGenerateMac a => .ofPair <$> prepareSheGenerateMac a
  | .sheVerifyMac, .sheVerifyMac a => .ofRequest <$> prepareSheVerifyMac a
  | .sheInitRng, _ => pure (.ofRequest ())
  | .sheExtendSeed, .sheExtendSeed entropy => .ofRequest <$> prepareSheExtendSeed entropy
  | .sheRandom, .sheRandom output => .ofPair <$> prepareSheRandom output
  | .sheStatus, _ => pure (.ofRequest ())
  | .sheIdentity, .sheIdentity a => .ofPair <$> prepareSheIdentity a
  | _, _ => throw (.validation .argumentsMismatch)

/-- **Preparing a command for a buffer of `room` bytes**: the request has to fit. -/
def Command.prepareWithin (flavor : Flavor) (handle : UInt32) (room : Nat) (c : Command)
    (arguments : Arguments) : Registering σ (Prepared flavor c) := do
  let prepared ← c.prepare flavor handle arguments
  Registering.demand (c.requestSize flavor ≤ room) .requestTooLong
  return prepared

end

end SecureEngine
