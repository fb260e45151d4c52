import SecureEngine.Family
import SecureEngine.Service

/-! # Commands

The catalogue of requests a client can send, with the byte that names each on the wire.

* **`Command`** — the commands; opening and closing a service is one command for each service.
* **`Command.code`**, **`Command.ofCode?`** — the byte of a command and back; bytes name commands
  uniquely (`ofCode?_code`).
* **`Command.family`** — the family that a command belongs to.
* **`Flavor`** — the two generations of firmware; only signing differs between them. -/

namespace SecureEngine

/-- **The generation of the firmware's message layouts.** -/
inductive Flavor
  | legacy
  | psa
deriving DecidableEq, Repr

/-- **A request in the catalogue.** -/
inductive Command
  | openSession
  | closeSession
  | sharedBuffer
  | openKeyStore
  | closeKeyStore
  | openService (service : Service)
  | closeService (service : Service)
  | generateKey
  | manageKey
  | importKey
  | deleteKey
  | generateKeyExt
  | mac
  | cipher
  | sign
  | prepareSign
  | verify
  | hash
  | random
  | sheGenerateMac
  | sheVerifyMac
  | sheInitRng
  | sheExtendSeed
  | sheRandom
  | sheStatus
  | sheIdentity
deriving DecidableEq, Repr

namespace Command

/-- The byte that opens a service; the next byte closes it. -/
def openingCode : Service → UInt8
  | .keyManagement => 0x40
  | .mac => 0x50
  | .cipher => 0x60
  | .hash => 0xA0
  | .signatureGeneration => 0x70
  | .signatureVerification => 0x80

/-- **The byte of a command on the wire.** -/
def code : Command → UInt8
  | openSession => 0x10
  | closeSession => 0x11
  | sharedBuffer => 0x12
  | openKeyStore => 0x30
  | closeKeyStore => 0x31
  | openService s => openingCode s
  | closeService s => openingCode s + 1
  | generateKey => 0x42
  | manageKey => 0x43
  | importKey => 0x44
  | deleteKey => 0x45
  | generateKeyExt => 0x46
  | mac => 0x52
  | cipher => 0x62
  | sign => 0x72
  | prepareSign => 0x73
  | verify => 0x82
  | hash => 0xA2
  | random => 0xCD
  | sheGenerateMac => 0xE0
  | sheVerifyMac => 0xE1
  | sheInitRng => 0xE2
  | sheExtendSeed => 0xE3
  | sheRandom => 0xE4
  | sheStatus => 0xE5
  | sheIdentity => 0xE6

/-- Every command. -/
def all : List Command :=
  [openSession, closeSession, sharedBuffer, openKeyStore, closeKeyStore, generateKey, manageKey,
    importKey, deleteKey, generateKeyExt, mac, cipher, sign, prepareSign, verify, hash, random,
    sheGenerateMac, sheVerifyMac, sheInitRng, sheExtendSeed, sheRandom, sheStatus, sheIdentity]
    ++ Service.all.map openService ++ Service.all.map closeService

/-- The catalogue is complete. -/
theorem mem_all (c : Command) : c ∈ all := by
  cases c with
  | openService s => cases s <;> decide
  | closeService s => cases s <;> decide
  | _ => decide

/-- **The command that a byte names**, if there is one. -/
def ofCode? (code : UInt8) : Option Command := all.find? (·.code == code)

/-- Bytes name commands uniquely. -/
@[simp] theorem ofCode?_code (c : Command) : ofCode? c.code = some c := by
  cases c with
  | openService s => cases s <;> rfl
  | closeService s => cases s <;> rfl
  | _ => rfl

/-- A byte that names a command is the code of that command. -/
theorem code_of_ofCode? {byte : UInt8} {c : Command} (h : ofCode? byte = some c) :
    c.code = byte := by
  have hc := List.find?_some h
  simpa using hc

/-- The family whose services a kind of service belongs to. -/
def serviceFamily : Service → Family
  | .keyManagement => .keyManagement
  | .mac => .mac
  | .cipher => .cipher
  | .hash => .hash
  | .signatureGeneration => .signGen
  | .signatureVerification => .verifySign

/-- **The family of a command.** -/
def family : Command → Family
  | openSession | closeSession | sharedBuffer => .session
  | openKeyStore | closeKeyStore => .keyStore
  | openService s | closeService s => serviceFamily s
  | generateKey | manageKey | importKey | deleteKey | generateKeyExt => .keyManagement
  | mac => .mac
  | cipher => .cipher
  | sign | prepareSign => .signGen
  | verify => .verifySign
  | hash => .hash
  | random => .rng
  | sheGenerateMac | sheVerifyMac | sheInitRng | sheExtendSeed | sheRandom | sheStatus
  | sheIdentity => .she

end Command

/-- The command that opens what a handle stands for. -/
def HandleKind.opening : HandleKind → Command
  | keyStore => .openKeyStore
  | service s => .openService s

/-- The command that closes what a handle stands for. -/
def HandleKind.closing : HandleKind → Command
  | keyStore => .closeKeyStore
  | service s => .closeService s

end SecureEngine
