import SecureEngine.Crypto.Hmac
import SecureEngine.Emulator.SessionRequests

/-! # The secure hardware extension of the engine

SHE requests name no service: keys are looked up in whichever key store is open, and buffers are
named by short or split addresses. MACs are the first sixteen bytes of an HMAC. -/

namespace SecureEngine.Engine

open Handling

/-- The size of SHE MACs, entropy and random values. -/
def sheSize : Nat := 16

/-- The open key stores, by handle. -/
def openStores (engine : Engine) : List KeyStore :=
  engine.objects.values.filterMap fun
    | .keyStore _ identifier => engine.keyStores.find? identifier
    | _ => none

/-- **The SHE key under an identifier**: the one in the first open key store that has any key under
it, if that key works for block encryption. -/
def sheKey? (engine : Engine) (id : UInt32) : Option KeyEntry :=
  (engine.openStores.findSome? (·.keys.find? id)).filter (·.keyType.isAes)

/-- The SHE MAC of a message. -/
def sheMac (key : KeyEntry) (message : Bytes) : Bytes :=
  (HashAlgorithm.sha256.hmac key.material message).take sheSize

/-- The status register: one bit tells whether the generator has been started. -/
def statusRegister (engine : Engine) : UInt8 := if engine.sheStarted then 0x20 else 0

/-- Refuses requests for a generator that has not been started. -/
def checkStarted : Handling Unit := do demand (← engine).sheStarted .rngNotStarted

/-- **Generates a SHE MAC.** -/
def sheGenerateMac (m : Wire.SheGenerateMac) : Handling Unit := do
  let key ← known ((← engine).sheKey? m.key.toUInt32) .unknownId
  let message ← load (SharedMemory.ofShort m.messageOffset) m.messageSize.toNat
  store (SharedMemory.ofShort m.macOffset) (sheMac key message)

/-- **Verifies the front of a SHE MAC**; zero is the status of a match. -/
def sheVerifyMac (m : Wire.SheVerifyMac) : Handling UInt32 := do
  let key ← known ((← engine).sheKey? m.key.toUInt32) .unknownId
  let message ← load (SharedMemory.ofShort m.messageOffset) m.messageSize.toNat
  let tag ← load (SharedMemory.ofShort m.macOffset) m.macLength.toNat
  demand (!tag.isEmpty && tag.length ≤ sheSize) .invalidParam
  return if HashAlgorithm.sha256.acceptsTag key.material message tag then 0 else 1

/-- Starts the SHE generator. -/
def sheInitRng : Handling Unit := modifyEngine fun e => { e with sheStarted := true }

/-- The `Generator` that random bytes and entropy of the client are folded to. -/
def reseeded (drawn entropy : Bytes) : Generator :=
  let seed := HashAlgorithm.sha256.digest (drawn ++ entropy)
  .ofSeed (Vector.ofFn fun i : Fin 32 => seed.getD i 0)

/-- **Folds entropy of the client into the generator.** -/
def sheExtendSeed (m : Wire.SplitBuffer) : Handling Unit := do
  checkStarted
  demand (m.size.toNat == sheSize) .invalidParam
  let entropy ← load (Address.join m.high m.low) sheSize
  let drawn ← draw 32
  modifyEngine fun e => { e with generator := reseeded drawn entropy }

/-- **A random value.** -/
def sheRandom (m : Wire.SplitBuffer) : Handling Unit := do
  checkStarted
  demand (m.size.toNat == sheSize) .invalidParam
  drawInto (Address.join m.high m.low) sheSize

/-- The SHE status register. -/
def sheStatus : Handling Wire.StatusRegister := return { value := (← engine).statusRegister }

/-- The key slot that authenticates the identity. -/
def masterKey : UInt32 := 1

/-- **The `Identity` of the engine**, with a MAC over challenge, identity and status register; without a
master key the MAC is zero. -/
def sheIdentity (m : Wire.SheIdentity) : Handling Wire.Identity := do
  let e ← engine
  let identity : Wire.Identity := { uid := e.settings.uid, register := e.statusRegister }
  let message := m.challenge.toList ++ identity.uid.toList ++ [identity.register]
  let mac := match e.sheKey? masterKey with
    | some key => sheMac key message
    | none => Bytes.blank sheSize
  store (Address.join m.high m.low) mac
  return identity

end SecureEngine.Engine
