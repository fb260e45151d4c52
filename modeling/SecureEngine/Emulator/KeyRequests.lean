import SecureEngine.Crypto.BlockMode
import SecureEngine.Crypto.Ecdsa
import SecureEngine.Emulator.Engine

/-! # Key management of the engine

Keys are generated, imported in the clear, or installed wrapped under another key; all of them end
in `Engine.storeKey`. -/

namespace SecureEngine.Engine

open Handling

/-- **Stores a key** in the key store that a key management service works on. -/
def storeKey (service identifier : UInt32) (flags : UInt8) (entry : KeyEntry) :
    Handling UInt32 := do
  let (name, store) ← lift ((← engine).serviceStore service .keyManagement)
  let (identifier, store) ← lift (store.insert identifier (.ofByte flags) entry)
  modifyEngine fun e => { e with keyStores := e.keyStores.insert name store }
  return identifier

/-- New key material, and the public key if the type has one. -/
def generateMaterial (keyType : KeyType) : Handling (Bytes × Bytes) := do
  match keyType.curve? with
  | some curve =>
    let (keys, generator) := curve.generateKey (← engine).generator
    modifyEngine fun e => { e with generator }
    return keys
  | none => return (← draw keyType.size, [])

/-- **Generates a key.** The key is stored before its public key is handed out. -/
def generateKey (m : Wire.GenerateKey) (minMacLength : UInt8) : Handling UInt32 := do
  let keyType ← known (KeyType.ofCode? m.keyType) .keyNotSupported
  let (material, publicKey) ← generateMaterial keyType
  -- A buffer that is too small is found before the key is stored, but after the draw.
  demand (publicKey.length ≤ m.outputSize.toNat) .outTooSmall
  let identifier ← storeKey m.service m.identifier m.flags
    { keyType, group := m.group, info := m.info, minMacLength, material }
  store m.outputAddress.toUInt64 publicKey
  return identifier

/-- An entry for given material, which must have the size of its type. -/
def checkedEntry (keyType : UInt8) (group info : UInt16) (material : Bytes) :
    Handling KeyEntry := do
  let keyType ← known (KeyType.ofCode? keyType) .keyNotSupported
  demand (material.length == keyType.size) .invalidParam
  return { keyType, group, info, minMacLength := 0, material }

/-- **Imports a key in the clear.** -/
def importKey (m : Wire.ImportKey) : Handling UInt32 := do
  let material ← load m.inputAddress.toUInt64 m.inputSize.toNat
  let entry ← checkedEntry m.keyType m.group m.info material
  storeKey m.service m.identifier m.flags entry

/-- **Deletes a key.** -/
def deleteKey (m : Wire.DeleteKey) : Handling Unit := do
  let (name, store) ← lift ((← engine).serviceStore m.service .keyManagement)
  let store ← lift (store.remove m.identifier)
  modifyEngine fun e => { e with keyStores := e.keyStores.insert name store }

/-- Unwraps key material under a key of the same store; under key zero it is in the clear. -/
def unwrapMaterial (store : KeyStore) (wrappingKey : UInt32) (material : Bytes) : Handling Bytes := do
  if wrappingKey = 0 then return material
  else
    let key ← lift (store.get wrappingKey)
    demand key.keyType.isAes .keyNotSupported
    lift (CipherMode.ecb.apply .decrypt key.material [] material)

/-- **Installs a key that may be wrapped.** -/
def manageKey (m : Wire.ManageKey) : Handling UInt32 := do
  let wrapped ← load m.inputAddress.toUInt64 m.inputSize.toNat
  let (_, store) ← lift ((← engine).serviceStore m.service .keyManagement)
  let material ← unwrapMaterial store m.wrappingKey wrapped
  let entry ← checkedEntry m.keyType m.group m.info material
  storeKey m.service m.destination m.flags entry

end SecureEngine.Engine
