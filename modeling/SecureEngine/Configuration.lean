import SecureEngine.ClientError
import SecureEngine.Family
import SecureEngine.Wire.Frame

/-! # Session configurations

* **`Configuration`** — the header values of the message unit, what a session is opened with, its
  key store, the families to enable and how many services may be open.
* **`Configuration.serviceFamilies`** — the families a session needs to come up and the listed
  ones, if every listed name is known. -/

namespace SecureEngine

/-- **The key store that a session opens first.** By default it is created if it does not exist. -/
structure KeyStoreParameters where
  identifier : UInt32 := 1
  password : UInt32 := 0
  flags : UInt8 := 1
deriving DecidableEq, Repr

/-- **A session configuration.** By default every family is enabled. -/
structure Configuration where
  /-- The header values of messages. -/
  unit : Wire.MessageUnit := .standard
  /-- What the session is opened with. -/
  session : Wire.OpenSession := ⟨0, 0, 0, 0, 0, 0⟩
  /-- The key store to open. -/
  keyStore : KeyStoreParameters := {}
  /-- The names of the families to enable. -/
  families : List String := Family.all.map (·.name.map Char.toLower)
  /-- Whether the firmware uses the PSA layouts. -/
  psaCompliant : Bool := false
  /-- How many services may be open at once, the key store included. -/
  maxServices : Nat := 16
deriving DecidableEq, Repr

namespace Configuration

/-- The generation of the firmware. -/
def flavor (c : Configuration) : Flavor := if c.psaCompliant then .psa else .legacy

/-- The families of some names, together with those of a set; the first unknown name is refused. -/
def familiesOf : (names : List String) → FamilySet → Except ClientError FamilySet
  | [], set => .ok set
  | name :: rest, set =>
    match Family.ofName? name with
    | some f => familiesOf rest (set ∪ .single f)
    | none => .error (.validation .unknownFamily)

/-- **The families that a session enables.** -/
def serviceFamilies (c : Configuration) : Except ClientError FamilySet :=
  familiesOf c.families .required

end Configuration

end SecureEngine
