import SecureEngine.Crypto.Generator
import SecureEngine.Emulator.KeyStore
import SecureEngine.Emulator.SharedMemory
import SecureEngine.Wire.Frame

/-! # The state of the engine

Open sessions, key stores and services are objects under handles; each but a session has a parent.

* **`EngineObject`** — what is open, with the handle of its parent.
* **`EngineSettings`** — what does not change; **`Engine`** — the whole state.
* **`Engine.allocate`** — records an object under the least free handle.
* **`Engine.removeTree`** — removes an object and everything opened below it.
* **`Machine`** — the engine with the memory it shares; **`Handling`** — computations of handlers. -/

namespace SecureEngine

/-! ## (1) Objects -/

/-- **Something open.** -/
inductive EngineObject
  | session
  | keyStore (parent : UInt32) (identifier : UInt32)
  | service (kind : Service) (parent : UInt32)
deriving DecidableEq, Repr

/-- The handle an object was opened on. -/
def EngineObject.parent? : EngineObject → Option UInt32
  | .session => none
  | .keyStore parent _ => some parent
  | .service _ parent => some parent

/-- **What does not change while an engine runs.** -/
structure EngineSettings where
  /-- The header values of messages. -/
  unit : Wire.MessageUnit := .standard
  /-- The generation of the message layouts. -/
  flavor : Flavor := .legacy
  /-- The start of the random generator. -/
  seed : UInt64 := 0x5EED
  /-- The identity of the engine. -/
  uid : Vector UInt8 15 := Vector.replicate 15 0x5A
  /-- The secure-memory window granted to sessions. -/
  window : Wire.Window := ⟨0x0400, 0x0C00⟩
  /-- How many objects may be open at once. -/
  maxObjects : Nat := 64
deriving DecidableEq, Repr

/-- **The state of the engine.** -/
structure Engine where
  settings : EngineSettings
  /-- What is open, by handle. -/
  objects : IdMap EngineObject := .empty
  /-- The key stores, open or not, by identifier. -/
  keyStores : IdMap KeyStore := .empty
  generator : Generator
  /-- Whether the SHE generator has been started. -/
  sheStarted : Bool := false
  /-- Whether a sum of an address and a length did not fit 64 bits. An engine that checks its sums has
  ended there without an answer; one that lets them wrap around refuses the access and goes on. -/
  overflowed : Bool := false

namespace Engine

/-- The engine at its start. -/
def start (settings : EngineSettings) : Engine :=
  { settings, generator := .ofNumber settings.seed }

/-- The engine after a sum that did not fit. -/
def overflow (engine : Engine) : Engine := { engine with overflowed := true }

/-- The lowest handle. -/
def handleBase : UInt32 := 0x100

/-- **Records an object** under the least free handle. -/
def allocate (engine : Engine) (object : EngineObject) :
    Except EngineError (UInt32 × Engine) :=
  if engine.settings.maxObjects ≤ engine.objects.size then .error Reason.outOfMemory.toError
  else match engine.objects.firstFree? handleBase with
    | some handle => .ok (handle, { engine with objects := engine.objects.insert handle object })
    | none => .error Reason.outOfMemory.toError

/-- Whether the chain of parents from a handle, its own handle included, comes by `root` within
`steps` objects. -/
def leadsTo (objects : IdMap EngineObject) (root : UInt32) : (steps : Nat) → UInt32 → Bool
  | 0, _ => false
  | steps + 1, handle =>
    handle == root ||
      match (objects.find? handle).bind EngineObject.parent? with
      | some parent => leadsTo objects root steps parent
      | none => false

/-- **Removes an object and everything below it.** A chain without repetition visits every object
at most once, so the number of objects bounds the search. -/
def removeTree (engine : Engine) (root : UInt32) : Engine :=
  let below (handle : UInt32) : Bool := leadsTo engine.objects root engine.objects.size handle
  { engine with objects := engine.objects.filter fun handle _ => !(below handle) }

/-- The number of open services of a kind. -/
def countServices (engine : Engine) (kind : Service) : Nat :=
  (engine.objects.values.filter fun
    | .service k _ => k == kind
    | _ => false).length

/-- Whether a key store is open. -/
def isOpen (engine : Engine) (identifier : UInt32) : Bool :=
  engine.objects.values.any fun
    | .keyStore _ other => other == identifier
    | _ => false

/-! ## (2) Looking up handles -/

/-- Refuses handles that are no session. -/
def checkSession (engine : Engine) (handle : UInt32) : Except EngineError Unit :=
  match engine.objects.find? handle with
  | some .session => .ok ()
  | _ => .error Reason.unknownHandle.toError

/-- The key store behind the handle of an open one. -/
def keyStoreAt (engine : Engine) (handle : UInt32) : Except EngineError UInt32 :=
  match engine.objects.find? handle with
  | some (.keyStore _ identifier) => .ok identifier
  | _ => .error Reason.unknownHandle.toError

/-- What a service of a kind was opened on. -/
def serviceParent (engine : Engine) (handle : UInt32) (kind : Service) :
    Except EngineError UInt32 :=
  match engine.objects.find? handle with
  | some (.service k parent) => if k = kind then .ok parent else .error Reason.unknownHandle.toError
  | _ => .error Reason.unknownHandle.toError

/-- The `KeyStore` that a service of a kind works on, with its identifier. -/
def serviceStore (engine : Engine) (handle : UInt32) (kind : Service) :
    Except EngineError (UInt32 × KeyStore) := do
  let parent ← engine.serviceParent handle kind
  let identifier ← engine.keyStoreAt parent
  match engine.keyStores.find? identifier with
  | some store => return (identifier, store)
  | none => throw Reason.unknownKeyStore.toError

end Engine

/-! ## (3) Handlers -/

/-- **The engine with the memory it shares.** -/
structure Machine where
  engine : Engine
  memory : SharedMemory := {}

/-- The machine after sums of which one did not fit, or all did. -/
def Machine.noting (machine : Machine) (overflows : Bool) : Machine :=
  if overflows then { machine with engine := machine.engine.overflow } else machine

/-- **Computations of handlers.** A failure does not take back what was done before it. -/
abbrev Handling := ExceptT EngineError (StateM Machine)

namespace Handling

/-- A failure for a catalogued reason. -/
def fail {α : Type} (r : Reason) : Handling α := throw r.toError

/-- Fails for a reason unless a condition holds. -/
def demand (condition : Bool) (r : Reason) : Handling Unit :=
  if condition then pure () else fail r

/-- The value of a look-up, or its failure. -/
def lift {α : Type} (r : Except EngineError α) : Handling α := ExceptT.mk (pure r)

/-- The value behind a number, or a failure for a reason. -/
def known {α : Type} (a : Option α) (r : Reason) : Handling α :=
  match a with
  | some a => pure a
  | none => fail r

/-- The engine as it is. -/
def engine : Handling Engine := return (← get).engine

/-- Changes the engine. -/
def modifyEngine (f : Engine → Engine) : Handling Unit :=
  modify fun m => { m with engine := f m.engine }

/-- Records an object. -/
def record (object : EngineObject) : Handling UInt32 := do
  let (handle, engine) ← lift ((← engine).allocate object)
  modifyEngine fun _ => engine
  return handle

/-- What is computed by sums that fit 64 bits. One that does not fit ends the handler, and the engine
remembers it. -/
def checked {α : Type} (outcome : Option α) : Handling α := do
  modify (·.noting outcome.isNone)
  known outcome .invalidAddress

/-- Loads bytes that a client staged. -/
def load (address : Address) (n : Nat) : Handling Bytes := do
  lift (← checked ((← get).memory.load? address n))

/-- Stores bytes for a client. -/
def store (address : Address) (data : Bytes) : Handling Unit := do
  let memory ← lift (← checked ((← get).memory.store? address data))
  modify fun m => { m with memory }

/-- Draws random bytes. -/
def draw (n : Nat) : Handling Bytes := do
  let (bytes, generator) := (← engine).generator.draw n
  modifyEngine fun e => { e with generator }
  return bytes

end Handling

end SecureEngine
