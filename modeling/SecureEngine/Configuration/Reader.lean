import SecureEngine.Bytes
import SecureEngine.Configuration
import SecureEngine.Text.Quoted
import SecureEngine.Toml.Document

/-! # Reading session configurations

* **`Configuration.ofTable?`** — the configuration that a table describes. What the table leaves out
  keeps its default, and keys without a meaning are ignored.
* **`Configuration.check`** — a configuration that can be used.
* **`Configuration.ofText`** — the configuration in a text, **`Configuration.load`** — in a file. -/

namespace SecureEngine

/-- **What is wrong with the text of a configuration.** -/
inductive ConfigurationError
  /-- The text is no document, or a value does not have the right type. -/
  | malformed
  /-- No service may be open. -/
  | noServices
  /-- A name is not the name of a family. -/
  | unknownFamily (name : String)
deriving DecidableEq, Repr

/-- The text of a `ConfigurationError`. -/
def ConfigurationError.message : ConfigurationError → String
  | malformed => "Failed to parse session config"
  | noServices => "max_services must be at least 1"
  | unknownFamily name => "Unknown service family " ++ Text.quoted name

/-- **Why a configuration file cannot be used.** -/
inductive LoadError
  /-- The file does not exist or is no text. -/
  | unreadable
  /-- The text is refused. -/
  | refused (reason : ConfigurationError)
deriving DecidableEq, Repr

/-- The texts of a `LoadError` for a file, the outermost first. -/
def LoadError.messages (path : String) : LoadError → List String
  | unreadable => ["Failed to read the config file " ++ path]
  | refused reason => ["Failed to load config file " ++ path, reason.message]

namespace Configuration

open Toml (Value Entries)

/-! ## (1) Values -/

/-- An integer of a given range. -/
def natural? (bound : Nat) : Value → Option Nat
  | .integer n => if 0 ≤ n ∧ n < bound then some n.toNat else none
  | _ => none

/-- A byte. -/
def byte? (v : Value) : Option UInt8 := (natural? UInt8.size v).map Nat.toUInt8

/-- A word. -/
def word? (v : Value) : Option UInt32 := (natural? UInt32.size v).map Nat.toUInt32

/-- A truth value. -/
def boolean? : Value → Option Bool
  | .boolean b => some b
  | _ => none

/-- A text. -/
def string? : Value → Option String
  | .string text => some text
  | _ => none

/-- A list of texts. -/
def strings? : Value → Option (List String)
  | .array items => items.mapM string?
  | _ => none

/-- What a value decodes to, or the default if there is no value. -/
def orDefault {α : Type} (default : α) (decode : Value → Option α) : Option Value → Option α
  | none => some default
  | some v => decode v

/-- The values in a section, by position and name. An array goes by position, and a date or time has
no values. -/
def section? : Value → Option ((position : Nat) → (name : String) → Option Value)
  | .table _ entries => some fun _ name => entries.lookup name
  | .array items => some fun position _ => items[position]?
  | .tables list => some fun position _ => list[position]?.map (Value.table .header)
  | .dateTime => some fun _ _ => none
  | _ => none

/-! ## (2) Sections -/

/-- The header values of messages. -/
def unit? (v : Value) : Option Wire.MessageUnit := do
  let default := Wire.MessageUnit.standard
  let field ← section? v
  let version ← orDefault default.version byte? (field 0 "version")
  let commandTag ← orDefault default.commandTag byte? (field 1 "cmd_tag")
  let responseTag ← orDefault default.responseTag byte? (field 2 "rsp_tag")
  some { version, commandTag, responseTag }

/-- What a session is opened with. -/
def session? (v : Value) : Option Wire.OpenSession := do
  let field ← section? v
  let muId ← orDefault 0 byte? (field 0 "mu_id")
  let interruptIndex ← orDefault 0 byte? (field 1 "interrupt_idx")
  let tz ← orDefault 0 byte? (field 2 "tz")
  let did ← orDefault 0 byte? (field 3 "did")
  let priority ← orDefault 0 byte? (field 4 "priority")
  let operatingMode ← orDefault 0 byte? (field 5 "operating_mode")
  some { muId, interruptIndex, tz, did, priority, operatingMode }

/-- The key store. -/
def keyStore? (v : Value) : Option KeyStoreParameters := do
  let default : KeyStoreParameters := {}
  let field ← section? v
  let identifier ← orDefault default.identifier word? (field 0 "id")
  let password ← orDefault default.password word? (field 1 "password")
  let flags ← orDefault default.flags byte? (field 2 "flags")
  some { identifier, password, flags }

/-- **The `Configuration` that a table describes.** -/
def ofTable? (entries : Entries) : Option Configuration := do
  let default : Configuration := {}
  let unit ← orDefault default.unit unit? (entries.lookup "mu")
  let session ← orDefault default.session session? (entries.lookup "session")
  let keyStore ← orDefault default.keyStore keyStore? (entries.lookup "key_store")
  let families ← orDefault default.families strings? (entries.lookup "families")
  let psaCompliant ← orDefault default.psaCompliant boolean? (entries.lookup "psa_compliant")
  let maxServices ←
    orDefault default.maxServices (natural? UInt64.size) (entries.lookup "max_services")
  some { unit, session, keyStore, families, psaCompliant, maxServices }

/-! ## (3) Texts -/

/-- **A `Configuration` that can be used**: some service may be open, and every listed family is known. -/
def check (c : Configuration) : Except ConfigurationError Configuration :=
  if c.maxServices = 0 then .error .noServices
  else
    match c.families.find? fun name => (Family.ofName? name).isNone with
    | some name => .error (.unknownFamily name)
    | none => .ok c

/-- **The `Configuration` in a text.** -/
def ofText (text : String) : Except ConfigurationError Configuration :=
  match (Toml.read text).bind ofTable? with
  | some c => c.check
  | none => .error .malformed

/-- **The `Configuration` in a file**, given what the file contains if it can be read. -/
def load (contents : Option Bytes) : Except LoadError Configuration :=
  match contents.bind fun bytes => String.fromUTF8? ⟨bytes.toArray⟩ with
  | none => .error .unreadable
  | some text =>
    match ofText text with
    | .ok c => .ok c
    | .error reason => .error (.refused reason)

end Configuration

end SecureEngine
