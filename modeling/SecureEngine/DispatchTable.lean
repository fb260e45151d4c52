import SecureEngine.Completion

/-! # Dispatch tables

A client serves the commands of the families it has enabled; every other byte is refused before
anything is sent.

* **`DispatchTable`** — for each of the 256 message bytes, the command it stands for if its family
  is enabled.
* **`DispatchTable.enable`** — installs the commands of some families and leaves every other entry
  alone.
* **`DispatchTable.prepare`**, **`DispatchTable.complete`** — preparing and completing by message
  byte. -/

namespace SecureEngine

/-- **What each message byte stands for.** -/
structure DispatchTable where
  /-- The command of each byte, for enabled families. -/
  entries : Vector (Option Command) 256
  /-- The families enabled so far. -/
  families : FamilySet

namespace DispatchTable

/-- The table without families. -/
def empty : DispatchTable := ⟨Vector.replicate 256 none, .empty⟩

/-- **Installs the commands of some families.** -/
def enable (table : DispatchTable) (families : FamilySet) : DispatchTable where
  entries := Vector.ofFn fun i : Fin 256 =>
    match Command.ofCode? (UInt8.ofNat i.val) with
    | some c => if c.family ∈ families then some c else table.entries.get i
    | none => table.entries.get i
  families := table.families ∪ families

/-- The table of some families, enabled one after the other. -/
def ofFamilies (families : FamilySet) : DispatchTable :=
  families.toList.foldl (fun table f => table.enable (.single f)) empty

/-- The command that a message byte stands for. -/
def get? (table : DispatchTable) (code : UInt8) : Option Command :=
  table.entries.get code.toFin

variable {σ : Type} [Transport σ]

/-- **Preparing a message**: the command and its request. -/
def prepare (table : DispatchTable) (flavor : Flavor) (code : UInt8) (handle : UInt32)
    (room : Nat) (arguments : Arguments) :
    Registering σ ((c : Command) × Prepared flavor c) :=
  match table.get? code with
  | some c => do
    let prepared ← c.prepareWithin flavor handle room arguments
    return ⟨c, prepared⟩
  | none => throw (.notSupported code)

/-- **Completing a message.** A byte without a command has nothing to complete. -/
def complete (table : DispatchTable) (flavor : Flavor) (code : UInt8) (bytes : Bytes)
    (arguments : Arguments) : Except ClientError Arguments :=
  match table.get? code with
  | some c => c.complete flavor bytes arguments
  | none => .error (.notSupported 0)

end DispatchTable

end SecureEngine
