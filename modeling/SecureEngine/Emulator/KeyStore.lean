import SecureEngine.EngineError
import SecureEngine.Bytes
import SecureEngine.IdMap
import SecureEngine.KeyType

/-! # Key stores

A key store keeps keys under identifiers, behind a password.

* **`KeyEntry`** — a key with its attributes; **`KeyStore`** — the password and the keys.
* **`KeyStore.choose`** — the identifier an entry goes to: creating needs a free one, updating one
  that holds a key of the same type.
* **`KeyStore.insert`** — stores an entry, if its group has room.
* **`KeyStore.remove`** — deletes a key, unless it is permanent. -/

namespace SecureEngine

/-- **A key.** -/
structure KeyEntry where
  keyType : KeyType
  group : UInt16
  info : UInt16
  /-- The least length of a MAC that is verified with the key. -/
  minMacLength : UInt8
  material : Bytes
deriving DecidableEq, Repr

/-- Whether a key may not be deleted. -/
def KeyEntry.isPermanent (entry : KeyEntry) : Bool := entry.info &&& 1 != 0

/-- How a key is stored. -/
structure StorageFlags where
  /-- The identifier has to be free. -/
  create : Bool
  /-- The identifier has to hold a key of the same type. -/
  update : Bool
deriving DecidableEq, Repr

/-- The flags in a byte of a request. -/
def StorageFlags.ofByte (b : UInt8) : StorageFlags where
  create := b &&& 2 != 0
  update := b &&& 1 != 0

/-- **A password and the keys behind it.** -/
structure KeyStore where
  password : UInt32
  keys : IdMap KeyEntry := .empty

namespace KeyStore

/-- How many keys a group has room for. -/
def groupCapacity : Nat := 32

/-- The key under an identifier. -/
def get (store : KeyStore) (id : UInt32) : Except EngineError KeyEntry :=
  match store.keys.find? id with
  | some entry => .ok entry
  | none => .error Reason.unknownId.toError

/-- **The identifier that an entry is stored under.** Creating wins over updating; creating under
zero picks the least free identifier above it. -/
def choose (store : KeyStore) (id : UInt32) (flags : StorageFlags) (entry : KeyEntry) :
    Except EngineError UInt32 :=
  if flags.create then
    if id = 0 then
      match store.keys.firstFree? 1 with
      | some id => .ok id
      | none => .error Reason.keyGroupFull.toError
    else if store.keys.contains id then .error Reason.idConflict.toError
    else .ok id
  else if flags.update then do
    let held ← store.get id
    if held.keyType = entry.keyType then return id else throw Reason.keyNotSupported.toError
  else .error Reason.invalidParam.toError

/-- The number of keys of a group under other identifiers. -/
def othersInGroup (store : KeyStore) (group : UInt16) (id : UInt32) : Nat :=
  (store.keys.filter fun other entry => entry.group == group && other != id).size

/-- **Stores an entry** and returns its identifier. -/
def insert (store : KeyStore) (id : UInt32) (flags : StorageFlags) (entry : KeyEntry) :
    Except EngineError (UInt32 × KeyStore) := do
  let id ← store.choose id flags entry
  if groupCapacity ≤ store.othersInGroup entry.group id then throw Reason.keyGroupFull.toError
  return (id, { store with keys := store.keys.insert id entry })

/-- **Deletes a key.** -/
def remove (store : KeyStore) (id : UInt32) : Except EngineError KeyStore := do
  let entry ← store.get id
  if entry.isPermanent then throw Reason.cannotDeletePermanentKey.toError
  return { store with keys := store.keys.erase id }

end KeyStore

end SecureEngine
