/-! # Services of an engine

A session opens services: hashing and signature checking need no key and hang off the session, the
others work on the keys of a key store.

* **`Service`** — the six kinds of service.
* **`Service.Scope`** — what a service is opened on.
* **`HandleKind`** — what a client tracks: the key store itself or a service. -/

namespace SecureEngine

/-- **A kind of service.** -/
inductive Service
  | keyManagement
  | mac
  | cipher
  | hash
  | signatureGeneration
  | signatureVerification
deriving DecidableEq, Repr

namespace Service

/-- Every kind of service. -/
def all : List Service :=
  [keyManagement, mac, cipher, hash, signatureGeneration, signatureVerification]

/-- The kinds of service are complete. -/
theorem mem_all (s : Service) : s ∈ all := by cases s <;> decide

/-- What a service is opened on. -/
inductive Scope
  | session
  | keyStore
deriving DecidableEq, Repr

/-- Hashing and signature checking are opened on the session, all else on the key store. -/
def scope : Service → Scope
  | hash | signatureVerification => .session
  | _ => .keyStore

end Service

/-- **What a client holds handles of**: the key store of the session, or a service. -/
inductive HandleKind
  | keyStore
  | service (service : Service)
deriving DecidableEq, Repr

/-- The name of a kind. -/
def HandleKind.name : HandleKind → String
  | keyStore => "KeyStore"
  | service .keyManagement => "KeyManagement"
  | service .mac => "Mac"
  | service .cipher => "Cipher"
  | service .hash => "Hash"
  | service .signatureGeneration => "SignatureGeneration"
  | service .signatureVerification => "SignatureVerification"

end SecureEngine
