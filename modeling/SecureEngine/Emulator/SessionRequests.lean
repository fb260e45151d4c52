import SecureEngine.Emulator.Engine

/-! # Sessions, key stores and services of the engine

* **`Engine.openKeyStore`** — opens a key store for whoever knows its password, once at a time;
  with the creation flag, an unknown key store is created first.
* **`Engine.openService`**, **`Engine.closeService`** — services on a session or on a key store.
* **`Engine.random`** — random bytes for a session. -/

namespace SecureEngine.Engine

open Handling

/-- Opens a session. -/
def openSession : Handling UInt32 := record .session

/-- Closes a session with everything below it. -/
def closeSession (handle : UInt32) : Handling Unit := do
  lift ((← engine).checkSession handle)
  modifyEngine (·.removeTree handle)

/-- Grants the secure-memory window to a session. -/
def sharedBuffer (handle : UInt32) : Handling Wire.Window := do
  lift ((← engine).checkSession handle)
  return (← engine).settings.window

/-- Whether opening a key store may create it. -/
def allowsCreation (m : Wire.OpenKeyStore) : Bool := m.flags &&& 1 != 0

/-- **Opens a key store on a session.** A key store that is created stays, even if there is no
room for its handle. -/
def openKeyStore (m : Wire.OpenKeyStore) : Handling UInt32 := do
  lift ((← engine).checkSession m.session)
  -- A key store that is open is refused before its password is looked at.
  demand (!(← engine).isOpen m.identifier) .keyStoreConflict
  match (← engine).keyStores.find? m.identifier with
  | some store => demand (store.password == m.password) .keyStoreAuth
  | none =>
    demand (allowsCreation m) .unknownKeyStore
    modifyEngine fun e =>
      { e with keyStores := e.keyStores.insert m.identifier { password := m.password } }
  record (.keyStore m.session m.identifier)

/-- Closes a key store with its services. -/
def closeKeyStore (handle : UInt32) : Handling Unit := do
  let _ ← lift ((← engine).keyStoreAt handle)
  modifyEngine (·.removeTree handle)

/-- **Opens a service.** -/
def openService (kind : Service) (parent : UInt32) : Handling UInt32 := do
  match kind.scope with
  | .session => lift ((← engine).checkSession parent)
  | .keyStore =>
    let _ ← lift ((← engine).keyStoreAt parent)
  record (.service kind parent)

/-- **Closes a service.** -/
def closeService (kind : Service) (handle : UInt32) : Handling Unit := do
  let _ ← lift ((← engine).serviceParent handle kind)
  modifyEngine (·.removeTree handle)

/-- Draws random bytes into a buffer of the client. The generator moves on by all of them, also
when the buffer cannot be written. -/
def drawInto (address : Address) (n : Nat) : Handling Unit := do
  let generator := (← engine).generator
  modifyEngine fun e => { e with generator := generator.advance n }
  -- No byte is made for a buffer that cannot be written.
  let memory := (← get).memory
  demand (← checked (if n = 0 then some true else memory.writable? address n)) .invalidAddress
  store address (generator.bytes n)

/-- **Random bytes for a session.** -/
def random (m : Wire.Random) : Handling Unit := do
  lift ((← engine).checkSession m.session)
  drawInto m.outputAddress.toUInt64 m.size.toNat

end SecureEngine.Engine
