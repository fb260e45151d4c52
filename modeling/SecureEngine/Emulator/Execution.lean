import SecureEngine.Emulator.DataRequests
import SecureEngine.Emulator.KeyRequests
import SecureEngine.Emulator.SheRequests
import SecureEngine.ResponseCode

/-! # Executing requests

* **`Engine.handle`** — the handler of each command.
* **`Engine.accept`** — checks a header and names the command.
* **`Engine.execute`** — one request: the handler's response under the success code, or a bare
  status with the failure code. -/

namespace SecureEngine.Engine

open Handling

/-- **The handler of each command.** -/
def handle (flavor : Flavor) : (c : Command) → c.Request flavor → Handling (c.Response flavor)
  | .openSession, _ => openSession
  | .closeSession, m => closeSession m
  | .sharedBuffer, m => sharedBuffer m
  | .openKeyStore, m => openKeyStore m
  | .closeKeyStore, m => closeKeyStore m
  | .openService kind, m => openService kind m.parent
  | .closeService kind, m => closeService kind m
  | .generateKey, m => generateKey m 0
  | .generateKeyExt, m => generateKey m.toGenerateKey m.minMacLength
  | .importKey, m => importKey m
  | .deleteKey, m => deleteKey m
  | .manageKey, m => manageKey m
  | .mac, m => mac m
  | .cipher, m => cipher m
  | .hash, m => hash m
  | .sign, m => match flavor, m with
    | .legacy, m => signLegacy m
    | .psa, m => signPsa m
  | .prepareSign, m => prepareSign m
  | .verify, m => verify m
  | .random, m => random m
  | .sheGenerateMac, m => sheGenerateMac m
  | .sheVerifyMac, m => sheVerifyMac m
  | .sheInitRng, _ => sheInitRng
  | .sheExtendSeed, m => sheExtendSeed m
  | .sheRandom, m => sheRandom m
  | .sheStatus, _ => sheStatus
  | .sheIdentity, m => sheIdentity m

/-- **A response ready to be sent.** -/
structure Reply where
  bytes : Bytes
  /-- Whether the response ends in a checksum. -/
  isSealed : Bool
deriving DecidableEq, Repr

/-- The command byte of a request; one that is missing counts as zero. -/
def commandByte (request : Bytes) : UInt8 := request.getD 2 0

/-- A response with its header. -/
def reply (engine : Engine) (command : UInt8) (isSealed : Bool) (response : Bytes) : Reply :=
  ⟨Wire.finish engine.settings.unit.version engine.settings.unit.responseTag command isSealed
    response, isSealed⟩

/-- A response without content. -/
def statusReply (engine : Engine) (command : UInt8) (code : UInt32) : Reply :=
  engine.reply command false (Bytes.blank Wire.headerSize ++ Bytes.ofWord code)

/-- **The command of a request whose header is as expected.** -/
def accept (engine : Engine) (request : Bytes) : Except EngineError Command :=
  let header : Wire.Header := Wire.Message.decode request
  if request.length < Wire.headerSize ∨ header.version ≠ engine.settings.unit.version
      ∨ header.tag ≠ engine.settings.unit.commandTag
      ∨ 4 * header.size.toNat ≠ request.length then
    .error Reason.invalidMessage.toError
  else match Command.ofCode? header.command with
    | some c => .ok c
    | none => .error Reason.cmdNotSupported.toError

/-- A request from its bytes to the response without its header. -/
def answer (request : Bytes) : Handling (Command × Bytes) := do
  let engine ← engine
  let c ← lift (engine.accept request)
  let m ← lift (Command.decodeRequest engine.settings.flavor c request)
  let response ← handle engine.settings.flavor c m
  return (c, c.encodeResponse ResponseCode.success response)

/-- **Executes a request.** -/
def execute (request : Bytes) : StateM Machine Reply := do
  let outcome ← (answer request).run
  let engine := (← get).engine
  match outcome with
  | .ok (c, response) => return engine.reply (commandByte request) c.responseSealed response
  | .error e => return engine.statusReply (commandByte request) (ResponseCode.failure e)

end SecureEngine.Engine
