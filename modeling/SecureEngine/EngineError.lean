import SecureEngine.Text.Hexadecimal

/-! # Errors an engine reports

The engine names a failure by a code. Catalogued codes are single bytes, the *rating* that a
response carries; a code made outside the catalogue may be any non-zero word.

* **`Reason`** — the catalogue, with the code and the name of each entry.
* **`EngineError`** — any non-zero code.
* **`EngineError.ofRating`** — the error behind a rating byte; a byte without a meaning, zero
  included, is a general error.
* **`EngineError.rating`** — the byte for an error; wider codes have the rating of a general error.
* **`EngineError.message`** — name and code, or the bare code. -/

namespace SecureEngine

/-- **Catalogued failure reasons.** -/
inductive Reason
  | invalidMessage
  | invalidAddress
  | unknownId
  | invalidParam
  | nvmError
  | outOfMemory
  | unknownHandle
  | unknownKeyStore
  | keyStoreAuth
  | keyStoreError
  | idConflict
  | rngNotStarted
  | cmdNotSupported
  | invalidLifecycle
  | keyStoreConflict
  | keyStoreCounter
  | featureNotSupported
  | selfTestFailure
  | notReady
  | featureDisabled
  | keyGroupFull
  | cannotRetrieveKeyGroup
  | keyNotSupported
  | cannotDeletePermanentKey
  | outTooSmall
  | fatalFailure
  | crcCheckErr
  | servicesDisabled
  | unknownWarning
  | signatureInvalid
  | unknownError
  | generalError
deriving DecidableEq, Repr

namespace Reason

/-- Every reason, by increasing code. -/
def all : List Reason :=
  [invalidMessage, invalidAddress, unknownId, invalidParam, nvmError, outOfMemory, unknownHandle,
    unknownKeyStore, keyStoreAuth, keyStoreError, idConflict, rngNotStarted, cmdNotSupported,
    invalidLifecycle, keyStoreConflict, keyStoreCounter, featureNotSupported, selfTestFailure,
    notReady, featureDisabled, keyGroupFull, cannotRetrieveKeyGroup, keyNotSupported,
    cannotDeletePermanentKey, outTooSmall, fatalFailure, crcCheckErr, servicesDisabled,
    unknownWarning, signatureInvalid, unknownError, generalError]

/-- The rating byte of a reason. -/
def code : Reason → UInt8
  | invalidMessage => 0x01
  | invalidAddress => 0x02
  | unknownId => 0x03
  | invalidParam => 0x04
  | nvmError => 0x05
  | outOfMemory => 0x06
  | unknownHandle => 0x07
  | unknownKeyStore => 0x08
  | keyStoreAuth => 0x09
  | keyStoreError => 0x0A
  | idConflict => 0x0B
  | rngNotStarted => 0x0C
  | cmdNotSupported => 0x0D
  | invalidLifecycle => 0x0E
  | keyStoreConflict => 0x0F
  | keyStoreCounter => 0x10
  | featureNotSupported => 0x11
  | selfTestFailure => 0x12
  | notReady => 0x13
  | featureDisabled => 0x14
  | keyGroupFull => 0x19
  | cannotRetrieveKeyGroup => 0x1A
  | keyNotSupported => 0x1B
  | cannotDeletePermanentKey => 0x1C
  | outTooSmall => 0x1D
  | fatalFailure => 0x29
  | crcCheckErr => 0xB9
  | servicesDisabled => 0xF4
  | unknownWarning => 0xFC
  | signatureInvalid => 0xFD
  | unknownError => 0xFE
  | generalError => 0xFF

/-- The name a reason is reported under. -/
def name : Reason → String
  | invalidMessage => "INVALID_MESSAGE"
  | invalidAddress => "INVALID_ADDRESS"
  | unknownId => "UNKNOWN_ID"
  | invalidParam => "INVALID_PARAM"
  | nvmError => "NVM_ERROR"
  | outOfMemory => "OUT_OF_MEMORY"
  | unknownHandle => "UNKNOWN_HANDLE"
  | unknownKeyStore => "UNKNOWN_KEY_STORE"
  | keyStoreAuth => "KEY_STORE_AUTH"
  | keyStoreError => "KEY_STORE_ERROR"
  | idConflict => "ID_CONFLICT"
  | rngNotStarted => "RNG_NOT_STARTED"
  | cmdNotSupported => "CMD_NOT_SUPPORTED"
  | invalidLifecycle => "INVALID_LIFECYCLE"
  | keyStoreConflict => "KEY_STORE_CONFLICT"
  | keyStoreCounter => "KEY_STORE_COUNTER"
  | featureNotSupported => "FEATURE_NOT_SUPPORTED"
  | selfTestFailure => "SELF_TEST_FAILURE"
  | notReady => "NOT_READY"
  | featureDisabled => "FEATURE_DISABLED"
  | keyGroupFull => "KEY_GROUP_FULL"
  | cannotRetrieveKeyGroup => "CANNOT_RETRIEVE_KEY_GROUP"
  | keyNotSupported => "KEY_NOT_SUPPORTED"
  | cannotDeletePermanentKey => "CANNOT_DELETE_PERMANENT_KEY"
  | outTooSmall => "OUT_TOO_SMALL"
  | fatalFailure => "FATAL_FAILURE"
  | crcCheckErr => "CRC_CHECK_ERR"
  | servicesDisabled => "SERVICES_DISABLED"
  | unknownWarning => "UNKNOWN_WARNING"
  | signatureInvalid => "SIGNATURE_INVALID"
  | unknownError => "UNKNOWN_ERROR"
  | generalError => "GENERAL_ERROR"

/-- The catalogue is complete. -/
theorem mem_all (r : Reason) : r ∈ all := by cases r <;> decide

/-- No catalogued code is zero. -/
theorem code_ne_zero (r : Reason) : r.code ≠ 0 := by cases r <;> decide

/-- The reason behind a rating byte, if it has a meaning. -/
def ofCode? (code : UInt8) : Option Reason := all.find? (·.code == code)

/-- Codes name reasons uniquely. -/
@[simp] theorem ofCode?_code (r : Reason) : ofCode? r.code = some r := by cases r <;> rfl

end Reason

/-- **An error code of the engine**: any non-zero word. -/
structure EngineError where
  /-- The code. -/
  code : UInt32
  /-- Zero is no error. -/
  code_ne_zero : code ≠ 0
deriving DecidableEq

/-- The catalogued error for a reason. -/
def Reason.toError (r : Reason) : EngineError where
  code := r.code.toUInt32
  code_ne_zero := by cases r <;> decide

namespace EngineError

/-- The error with a given code, unless the code is zero. -/
def ofCode? (code : UInt32) : Option EngineError :=
  if h : code ≠ 0 then some ⟨code, h⟩ else none

/-- The reason an error stands for, if it is catalogued. -/
def reason? (e : EngineError) : Option Reason :=
  Reason.all.find? (·.code.toUInt32 == e.code)

/-- The name of an error, if it is catalogued. -/
def name? (e : EngineError) : Option String := e.reason?.map Reason.name

/-- **The error behind a rating byte.** Total: bytes without a meaning are general errors. -/
def ofRating (rating : UInt8) : EngineError :=
  ((Reason.ofCode? rating).getD .generalError).toError

/-- **The rating byte of an error.** -/
def rating (e : EngineError) : UInt8 :=
  if e.code < 0x100 then e.code.toUInt8 else 0xFF

/-- **The text of an error**: its name and code, or the bare code. -/
def message (e : EngineError) : String :=
  match e.name? with
  | some name => name ++ " (" ++ Text.hexadecimal 2 e.code.toNat ++ ")"
  | none => Text.hexadecimal 1 e.code.toNat

/-- Each catalogued error is the error behind its own rating. -/
@[simp] theorem ofRating_code (r : Reason) : ofRating r.code = r.toError := by
  simp [ofRating]

end EngineError

end SecureEngine
