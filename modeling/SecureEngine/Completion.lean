import SecureEngine.Preparation

/-! # Completing requests

From a response back to the arguments.

* **`Command.complete`** — reads the content of a response and puts it where the arguments keep
  results. Commands whose response has no content look at neither response nor arguments. -/

namespace SecureEngine

/-- **Completing a command.** The arguments are checked before the response is read; a failure
changes nothing. -/
def Command.complete (flavor : Flavor) (c : Command) (bytes : Bytes) (arguments : Arguments) :
    Except ClientError Arguments :=
  match c, arguments with
  | .openSession, .openSession a => do
    let session ← Command.decodeResponse flavor .openSession bytes
    return .openSession { a with session }
  | .sharedBuffer, .sharedBuffer _ => do
    let window ← Command.decodeResponse flavor .sharedBuffer bytes
    return .sharedBuffer window
  | .openKeyStore, .openKeyStore a => do
    let handle ← Command.decodeResponse flavor .openKeyStore bytes
    return .openKeyStore { a with handle }
  | .openService s, .openService a => do
    let handle ← Command.decodeResponse flavor (.openService s) bytes
    return .openService { a with handle }
  | .generateKey, .generateKey a => do
    let identifier ← Command.decodeResponse flavor .generateKey bytes
    return .generateKey { a with identifier }
  | .generateKeyExt, .generateKey a => do
    let identifier ← Command.decodeResponse flavor .generateKeyExt bytes
    return .generateKey { a with identifier }
  | .importKey, .importKey a => do
    let identifier ← Command.decodeResponse flavor .importKey bytes
    return .importKey { a with identifier }
  | .manageKey, .manageKey a => do
    let destination ← Command.decodeResponse flavor .manageKey bytes
    return .manageKey { a with destination }
  | .mac, .mac a => do
    let status ← Command.decodeResponse flavor .mac bytes
    return .mac { a with status }
  | .cipher, .cipher a => do
    let outputSize ← Command.decodeResponse flavor .cipher bytes
    return .cipher { a with outputSize }
  | .sign, .sign a =>
    match flavor with
    | .legacy => do
      let signatureSize ← halfSize .signatureBuffer a.signature
      return .sign { a with signatureSize }
    | .psa => do
      let m ← Command.decodeResponse .psa .sign bytes
      return .sign { a with signatureSize := m.size }
  | .verify, .verify a => do
    let status ← Command.decodeResponse flavor .verify bytes
    return .verify { a with status }
  | .sheVerifyMac, .sheVerifyMac a => do
    let status ← Command.decodeResponse flavor .sheVerifyMac bytes
    return .sheVerifyMac { a with status }
  | .sheStatus, .sheStatus _ => do
    let register ← Command.decodeResponse flavor .sheStatus bytes
    return .sheStatus register.value
  | .sheIdentity, .sheIdentity a => do
    let identity ← Command.decodeResponse flavor .sheIdentity bytes
    return .sheIdentity { a with identity }
  | .closeSession, a | .closeKeyStore, a | .closeService _, a | .deleteKey, a | .hash, a
  | .prepareSign, a | .random, a | .sheGenerateMac, a | .sheInitRng, a | .sheExtendSeed, a
  | .sheRandom, a => .ok a
  | _, _ => .error (.validation .argumentsMismatch)

end SecureEngine
