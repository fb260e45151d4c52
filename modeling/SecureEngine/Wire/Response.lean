import SecureEngine.Command
import SecureEngine.Wire.Layout

/-! # Responses on the wire

The content of each response, between the response code and the checksum that one response ends
in.

* **`Command.Response`** — the content of the successful response to a command: nothing, a word (a
  handle, key identifier, verification status or size), or one of the structures here.
* **`Command.responseSealed`** — only the identity of the engine is protected by a checksum. -/

namespace SecureEngine

namespace Wire

/-- The secure-memory window granted to a session. -/
structure Window where
  offset : UInt16
  size : UInt16
deriving DecidableEq, Repr

instance : Message Window where
  layout := [.half, .half]
  toValues m := (m.offset, m.size, ())
  ofValues := fun (offset, size, _) => { offset, size }
  ofValues_toValues _ := rfl

/-- The size of a signature. -/
structure SignatureSize where
  size : UInt16
deriving DecidableEq, Repr

instance : Message SignatureSize where
  layout := [.half, .half]
  toValues m := (m.size, 0, ())
  ofValues := fun (size, _) => { size }
  ofValues_toValues _ := rfl

/-- The SHE status register. -/
structure StatusRegister where
  value : UInt8
deriving DecidableEq, Repr

instance : Message StatusRegister where
  layout := [.byte, .block 3]
  toValues m := (m.value, Vector.replicate 3 0, ())
  ofValues := fun (value, _) => { value }
  ofValues_toValues _ := rfl

/-- The identity of the engine with its SHE status register. -/
structure Identity where
  uid : Vector UInt8 15
  register : UInt8
deriving DecidableEq, Repr

instance : Message Identity where
  layout := [.block 15, .byte]
  toValues m := (m.uid, m.register, ())
  ofValues := fun (uid, register, _) => { uid, register }
  ofValues_toValues _ := rfl

end Wire

namespace Command

open Wire (Message)

/-- **The content of the response to a command.** -/
@[reducible] def Response (flavor : Flavor) : Command → Type
  | openSession | openKeyStore | openService _ | generateKey | generateKeyExt | manageKey
  | importKey | mac | cipher | verify | sheVerifyMac => UInt32
  | sharedBuffer => Wire.Window
  | sign => match flavor with
    | .legacy => Unit
    | .psa => Wire.SignatureSize
  | sheStatus => Wire.StatusRegister
  | sheIdentity => Wire.Identity
  | closeSession | closeKeyStore | closeService _ | deleteKey | hash | prepareSign | random
  | sheGenerateMac | sheInitRng | sheExtendSeed | sheRandom => Unit

/-- The layout of the response to a command. -/
instance (flavor : Flavor) : (c : Command) → Message (c.Response flavor)
  | openSession => inferInstanceAs (Message UInt32)
  | openKeyStore => inferInstanceAs (Message UInt32)
  | openService _ => inferInstanceAs (Message UInt32)
  | generateKey => inferInstanceAs (Message UInt32)
  | generateKeyExt => inferInstanceAs (Message UInt32)
  | manageKey => inferInstanceAs (Message UInt32)
  | importKey => inferInstanceAs (Message UInt32)
  | mac => inferInstanceAs (Message UInt32)
  | cipher => inferInstanceAs (Message UInt32)
  | verify => inferInstanceAs (Message UInt32)
  | sheVerifyMac => inferInstanceAs (Message UInt32)
  | sharedBuffer => inferInstanceAs (Message Wire.Window)
  | sign => match flavor with
    | .legacy => inferInstanceAs (Message Unit)
    | .psa => inferInstanceAs (Message Wire.SignatureSize)
  | sheStatus => inferInstanceAs (Message Wire.StatusRegister)
  | sheIdentity => inferInstanceAs (Message Wire.Identity)
  | closeSession => inferInstanceAs (Message Unit)
  | closeKeyStore => inferInstanceAs (Message Unit)
  | closeService _ => inferInstanceAs (Message Unit)
  | deleteKey => inferInstanceAs (Message Unit)
  | hash => inferInstanceAs (Message Unit)
  | prepareSign => inferInstanceAs (Message Unit)
  | random => inferInstanceAs (Message Unit)
  | sheGenerateMac => inferInstanceAs (Message Unit)
  | sheInitRng => inferInstanceAs (Message Unit)
  | sheExtendSeed => inferInstanceAs (Message Unit)
  | sheRandom => inferInstanceAs (Message Unit)

/-- **Whether the response to a command ends in a checksum.** -/
def responseSealed : Command → Bool
  | sheIdentity => true
  | _ => false

end Command

end SecureEngine
