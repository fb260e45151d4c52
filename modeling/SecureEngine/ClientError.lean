import SecureEngine.Checksum
import SecureEngine.EngineError

/-! # Errors a client reports

* **`TransportError`** — a failure of the transport, with its code.
* **`Complaint`** — what is wrong with an argument or with the form of a response.
* **`ClientError`** — every way in which a request can fail, with its text and the engine error
  that stands for it. -/

namespace SecureEngine

/-- **A failure of the transport itself.** -/
structure TransportError where
  /-- The code, kept for diagnosis. -/
  code : Int32
deriving DecidableEq, Repr

/-- The text of a transport failure. -/
def TransportError.message (e : TransportError) : String :=
  "transport failure (code " ++ toString e.code.toInt ++ ")"

/-- **A buffer whose length has to fit a size field.** -/
inductive SizedBuffer
  | publicKeyBuffer
  | importedKey
  | wrappedKey
  | macPayload
  | macBuffer
  | iv
  | cipherInput
  | cipherOutput
  | hashInput
  | hashOutput
  | message
  | signatureBuffer
  | publicKey
  | signature
  | randomBuffer
  | sheMessage
deriving DecidableEq, Repr

/-- What a buffer is called. -/
def SizedBuffer.name : SizedBuffer → String
  | publicKeyBuffer => "public key buffer"
  | importedKey => "imported key"
  | wrappedKey => "wrapped key"
  | macPayload => "MAC payload"
  | macBuffer => "MAC buffer"
  | iv => "IV"
  | cipherInput => "cipher input"
  | cipherOutput => "cipher output"
  | hashInput => "hash input"
  | hashOutput => "hash output"
  | message => "message"
  | signatureBuffer => "signature buffer"
  | publicKey => "public key"
  | signature => "signature"
  | randomBuffer => "random buffer"
  | sheMessage => "SHE message"

/-- **What is wrong with an argument or a response.** -/
inductive Complaint
  | argumentsMismatch
  | requestTooLong
  | responseTooShort
  | tooLarge (buffer : SizedBuffer)
  | sheMacBufferSize
  | sheMacLengthTooLong
  | sheMacLengthZero
  | sheEntropySize
  | sheRandomSize
  | sheDataSize
  | sheIvSize
  | nullSession
  | cipherOutputTooSmall
  | digestBufferTooSmall
  | publicKeyBufferTooSmall
  | signatureBufferTooSmall
  | noKeyMaterial
  | emptyMacBuffer
  | missingKeyOrSignature
  | unknownFamily
  | other (text : String)
deriving DecidableEq, Repr

/-- The text of a `Complaint`. -/
def Complaint.text : Complaint → String
  | argumentsMismatch => "arguments do not match message"
  | requestTooLong => "request does not fit message buffer"
  | responseTooShort => "response shorter than its layout"
  | tooLarge buffer => buffer.name ++ " too large"
  | sheMacBufferSize => "SHE MAC buffer must be 16 bytes"
  | sheMacLengthTooLong => "SHE MAC length exceeds MAC size"
  | sheMacLengthZero => "SHE MAC length must be non-zero"
  | sheEntropySize => "SHE entropy must be 16 bytes"
  | sheRandomSize => "SHE random buffer must be 16 bytes"
  | sheDataSize => "SHE data must be whole AES blocks"
  | sheIvSize => "SHE IV must be 16 bytes"
  | nullSession => "engine returned a null session"
  | cipherOutputTooSmall => "cipher output shorter than input"
  | digestBufferTooSmall => "digest buffer too small"
  | publicKeyBufferTooSmall => "public key buffer too small"
  | signatureBufferTooSmall => "signature buffer too small"
  | noKeyMaterial => "no key material"
  | emptyMacBuffer => "empty MAC buffer"
  | missingKeyOrSignature => "missing key or signature"
  | unknownFamily => "unknown service family"
  | other text => text

/-- **Why a request failed.** -/
inductive ClientError
  /-- The transport failed. -/
  | transport (e : TransportError)
  /-- The checksum of a response does not match. -/
  | integrityFailure (mismatch : Checksum.Mismatch)
  /-- A response answers another command or carries another tag. -/
  | unexpectedResponse (expected actual : UInt8)
  /-- A handle does not stand for an open service of the needed kind. -/
  | unknownHandle
  /-- The family of a message is not enabled. -/
  | notSupported (code : UInt8)
  /-- An argument or a response has the wrong form. -/
  | validation (complaint : Complaint)
  /-- The handle table is full. -/
  | outOfHandles
  /-- The engine reported a failure. -/
  | engine (e : EngineError)
deriving DecidableEq

namespace ClientError

/-- **The text of an error.** -/
def message : ClientError → String
  | transport e => e.message
  | integrityFailure m =>
    "response checksum mismatch: computed " ++ Text.hexadecimal 8 m.computed.toNat
      ++ ", carried " ++ Text.hexadecimal 8 m.carried.toNat
  | unexpectedResponse expected actual =>
    "unexpected response header: expected command " ++ Text.hexadecimal 2 expected.toNat
      ++ ", got " ++ Text.hexadecimal 2 actual.toNat
  | unknownHandle => "unknown handle"
  | notSupported code =>
    "message " ++ Text.hexadecimal 2 code.toNat ++ " is not supported by this client"
  | validation complaint => "invalid argument: " ++ complaint.text
  | outOfHandles => "no room to track another service"
  | engine e => "engine reported " ++ e.message

/-- **The `EngineError` that stands for an error.** -/
def toEngineError : ClientError → EngineError
  | engine e => e
  | unknownHandle => Reason.unknownHandle.toError
  | notSupported _ => Reason.cmdNotSupported.toError
  | _ => Reason.generalError.toError

end ClientError

end SecureEngine
