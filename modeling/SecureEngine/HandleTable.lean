import SecureEngine.ClientError
import SecureEngine.Command

/-! # Handle tables

A session tracks its open services in a table of slots. Callers hold handles that name the table,
the slot and the generation of the slot, never the engine's own handle values; so a value that the
engine hands out again cannot stand for a service that was closed.

* **`ServiceHandle`** — a reference to an open service; **`PendingService`** — a slot reserved for
  a service whose opening is under way.
* **`ServiceContext`** — what is recorded for an open service.
* **`HandleTable.add`**, **`activate`**, **`deletePending`**, **`delete`** — the life of a slot:
  reserved, then open or released, then released.
* **`HandleTable.resolve`** — what an open handle stands for.
* **`HandleTable.newestFirst`** — the open services, by decreasing time of activation. -/

namespace SecureEngine

/-- **A reference to an open service.** -/
structure ServiceHandle where
  /-- The table that issued the handle. -/
  table : UInt32
  /-- The slot. -/
  index : UInt16
  /-- How often the slot had been released when the handle was issued. -/
  generation : UInt32
deriving DecidableEq, Repr

/-- **A slot reserved for a service that is being opened.** It is handed back once, by activating
or releasing it. -/
structure PendingService where
  /-- The handle that the service will have. -/
  handle : ServiceHandle
deriving DecidableEq, Repr

/-- **What is recorded for an open service.** -/
structure ServiceContext where
  /-- What is open. -/
  kind : HandleKind
  /-- The handle the engine assigned. -/
  engineHandle : UInt32
  /-- The service it was opened on; absent for services on the session itself. -/
  parent : Option ServiceHandle
deriving DecidableEq, Repr

/-- The state of a slot. -/
inductive SlotState
  | vacant
  | pending (kind : HandleKind) (parent : Option ServiceHandle)
  | active (context : ServiceContext) (opened : Nat)
deriving DecidableEq, Repr

namespace SlotState

/-- Whether a slot may be reserved. -/
def isVacant : SlotState → Bool
  | vacant => true
  | _ => false

/-- The record of an open service. -/
def context? : SlotState → Option ServiceContext
  | active context _ => some context
  | _ => none

end SlotState

/-- A slot of a handle table. -/
structure Slot where
  /-- How often the slot has been released. -/
  generation : UInt32 := 0
  /-- What the slot is used for. -/
  state : SlotState := .vacant
deriving DecidableEq, Repr

/-- **A table of services.** -/
structure HandleTable where
  /-- The identifier of the table, unique among all tables. -/
  id : UInt32
  /-- The slots, by index. -/
  slots : List Slot := []
  /-- How many slots there may be. -/
  capacity : Nat
  /-- How many services have been activated so far. There is one call of `HandleTable.activate` for each
  (`Chronicle.Listed.opened_le`), so 64 bits hold the number for as long as any table lives. -/
  opened : Nat := 0
deriving DecidableEq, Repr

namespace HandleTable

/-- The most slots that any table has. -/
def maxSlots : Nat := 65535

/-- The handle for a slot as it is now. -/
def handleAt (table : HandleTable) (index : Nat) (generation : UInt32) : ServiceHandle :=
  ⟨table.id, UInt16.ofNat index, generation⟩

/-- The table with the slot at an index changed. -/
def update (table : HandleTable) (index : Nat) (f : Slot → Slot) : HandleTable :=
  { table with slots := table.slots.modify index f }

/-- **Reserves a slot**: the first vacant one, or a new one while there is room. -/
def add (table : HandleTable) (kind : HandleKind) (parent : Option ServiceHandle) :
    Except ClientError (PendingService × HandleTable) :=
  let reserve : Slot → Slot := fun slot => { slot with state := .pending kind parent }
  match table.slots.findIdx? (·.state.isVacant) with
  | some index =>
    -- The generation counts releases, so reserving the slot keeps it.
    let generation := (table.slots.getD index {}).generation
    .ok (⟨table.handleAt index generation⟩, table.update index reserve)
  | none =>
    if table.slots.length < min table.capacity maxSlots then
      .ok (⟨table.handleAt table.slots.length 0⟩,
        { table with slots := table.slots ++ [reserve {}] })
    else .error .outOfHandles

/-- **Records the engine handle of a service that has opened.** The slot is looked up by its index
alone, and only a reserved slot becomes active. -/
def activate (table : HandleTable) (pending : PendingService) (engineHandle : UInt32) :
    ServiceHandle × HandleTable :=
  let opened := table.opened + 1
  let table := table.update pending.handle.index.toNat fun slot =>
    match slot.state with
    | .pending kind parent =>
      { slot with state := .active ⟨kind, engineHandle, parent⟩ opened }
    | _ => slot
  (pending.handle, { table with opened })

/-- Releases the slot at an index. -/
def release (table : HandleTable) (index : UInt16) : HandleTable :=
  table.update index.toNat fun slot => { generation := slot.generation + 1, state := .vacant }

/-- **Releases the slot of a service that did not open.** -/
def deletePending (table : HandleTable) (pending : PendingService) : HandleTable :=
  table.release pending.handle.index

/-- **What an open handle stands for.** The handle must be of this table and of the current
generation of its slot. -/
def resolve (table : HandleTable) (handle : ServiceHandle) : Except ClientError ServiceContext :=
  if handle.table ≠ table.id then .error .unknownHandle
  else match table.slots[handle.index.toNat]? with
    | some slot =>
      match slot.state with
      | .active context _ =>
        if slot.generation = handle.generation then .ok context else .error .unknownHandle
      | _ => .error .unknownHandle
    | none => .error .unknownHandle

/-- The engine handle behind a handle that must stand for a given kind. -/
def resolveKind (table : HandleTable) (handle : ServiceHandle) (kind : HandleKind) :
    Except ClientError UInt32 := do
  let context ← table.resolve handle
  if context.kind = kind then return context.engineHandle else throw .unknownHandle

/-- **Forgets an open service** and returns what was recorded for it. -/
def delete (table : HandleTable) (handle : ServiceHandle) :
    Except ClientError (ServiceContext × HandleTable) := do
  let context ← table.resolve handle
  return (context, table.release handle.index)

/-- The open services with their times of activation, by slot. -/
def activations (table : HandleTable) : List (Nat × ServiceHandle) :=
  table.slots.zipIdx.filterMap fun (slot, index) =>
    match slot.state with
    | .active _ opened => some (opened, table.handleAt index slot.generation)
    | _ => none

/-- **The open services, most recently activated first.** -/
def newestFirst (table : HandleTable) : List ServiceHandle :=
  (table.activations.mergeSort fun a b => b.1 ≤ a.1).map (·.2)

/-- The number of open services. -/
def size (table : HandleTable) : Nat :=
  (table.slots.filter (·.state.context?.isSome)).length

/-- Whether no service is open. -/
def isEmpty (table : HandleTable) : Bool := table.size == 0

end HandleTable

end SecureEngine
