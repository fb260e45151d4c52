import SecureEngine.Command
import SecureEngine.Wire.Layout

/-! # Requests on the wire

The content of each request, between the header and the checksum that some requests end in.

* One structure for each content, with its layout. Requests addressed to a handle alone are a
  single word, requests without content the unit.
* **`Command.Request`** — the content that goes with a command. Only signing depends on the
  generation of the firmware.
* **`Command.requestSealed`** — whether a request ends in a checksum. -/

namespace SecureEngine

namespace Wire

/-- Opening a session. -/
structure OpenSession where
  muId : UInt8
  interruptIndex : UInt8
  tz : UInt8
  did : UInt8
  priority : UInt8
  operatingMode : UInt8
deriving DecidableEq, Repr

instance : Message OpenSession where
  layout := [.byte, .byte, .byte, .byte, .byte, .byte, .half]
  toValues m := (m.muId, m.interruptIndex, m.tz, m.did, m.priority, m.operatingMode, 0, ())
  ofValues := fun (muId, interruptIndex, tz, did, priority, operatingMode, _) =>
    { muId, interruptIndex, tz, did, priority, operatingMode }
  ofValues_toValues _ := rfl

/-- Opening a key store on a session. -/
structure OpenKeyStore where
  session : UInt32
  identifier : UInt32
  password : UInt32
  flags : UInt8
deriving DecidableEq, Repr

instance : Message OpenKeyStore where
  layout := [.word, .word, .word, .word, .word, .byte, .block 3]
  toValues m := (m.session, m.identifier, m.password, 0, 0, m.flags, Vector.replicate 3 0, ())
  ofValues := fun (session, identifier, password, _, _, flags, _) =>
    { session, identifier, password, flags }
  ofValues_toValues _ := rfl

/-- Opening a service on its parent. -/
structure OpenService where
  parent : UInt32
  flags : UInt8
deriving DecidableEq, Repr

instance : Message OpenService where
  layout := [.word, .word, .word, .byte, .block 3]
  toValues m := (m.parent, 0, 0, m.flags, Vector.replicate 3 0, ())
  ofValues := fun (parent, _, _, flags, _) => { parent, flags }
  ofValues_toValues _ := rfl

/-- Generating a key. -/
structure GenerateKey where
  service : UInt32
  identifier : UInt32
  outputSize : UInt16
  flags : UInt8
  keyType : UInt8
  group : UInt16
  info : UInt16
  outputAddress : UInt32
deriving DecidableEq, Repr

instance : Message GenerateKey where
  layout := [.word, .word, .half, .byte, .byte, .half, .half, .word]
  toValues m := (m.service, m.identifier, m.outputSize, m.flags, m.keyType, m.group, m.info,
    m.outputAddress, ())
  ofValues := fun (service, identifier, outputSize, flags, keyType, group, info,
      outputAddress, _) =>
    { service, identifier, outputSize, flags, keyType, group, info, outputAddress }
  ofValues_toValues _ := rfl

/-- Generating a key with a bound on the length of the MACs it verifies. -/
structure GenerateKeyExt extends GenerateKey where
  minMacLength : UInt8
deriving DecidableEq, Repr

instance : Message GenerateKeyExt where
  layout := [.word, .word, .half, .byte, .byte, .half, .half, .word, .byte, .block 3]
  toValues m := (m.service, m.identifier, m.outputSize, m.flags, m.keyType, m.group, m.info,
    m.outputAddress, m.minMacLength, Vector.replicate 3 0, ())
  ofValues := fun (service, identifier, outputSize, flags, keyType, group, info,
      outputAddress, minMacLength, _) =>
    { service, identifier, outputSize, flags, keyType, group, info, outputAddress, minMacLength }
  ofValues_toValues _ := rfl

/-- Importing a key in the clear. -/
structure ImportKey where
  service : UInt32
  identifier : UInt32
  group : UInt16
  flags : UInt8
  keyType : UInt8
  info : UInt16
  inputSize : UInt16
  inputAddress : UInt32
deriving DecidableEq, Repr

instance : Message ImportKey where
  layout := [.word, .word, .half, .byte, .byte, .half, .half, .word]
  toValues m := (m.service, m.identifier, m.group, m.flags, m.keyType, m.info, m.inputSize,
    m.inputAddress, ())
  ofValues := fun (service, identifier, group, flags, keyType, info, inputSize,
      inputAddress, _) =>
    { service, identifier, group, flags, keyType, info, inputSize, inputAddress }
  ofValues_toValues _ := rfl

/-- Deleting a key. -/
structure DeleteKey where
  service : UInt32
  identifier : UInt32
  flags : UInt8
deriving DecidableEq, Repr

instance : Message DeleteKey where
  layout := [.word, .word, .byte, .block 3]
  toValues m := (m.service, m.identifier, m.flags, Vector.replicate 3 0, ())
  ofValues := fun (service, identifier, flags, _) => { service, identifier, flags }
  ofValues_toValues _ := rfl

/-- Installing a key that may be wrapped under another key. -/
structure ManageKey where
  service : UInt32
  destination : UInt32
  wrappingKey : UInt32
  inputSize : UInt16
  flags : UInt8
  keyType : UInt8
  group : UInt16
  info : UInt16
  inputAddress : UInt32
deriving DecidableEq, Repr

instance : Message ManageKey where
  layout := [.word, .word, .word, .half, .byte, .byte, .half, .half, .word]
  toValues m := (m.service, m.destination, m.wrappingKey, m.inputSize, m.flags, m.keyType,
    m.group, m.info, m.inputAddress, ())
  ofValues := fun (service, destination, wrappingKey, inputSize, flags, keyType, group, info,
      inputAddress, _) =>
    { service, destination, wrappingKey, inputSize, flags, keyType, group, info, inputAddress }
  ofValues_toValues _ := rfl

/-- Generating or verifying a MAC. -/
structure Mac where
  service : UInt32
  key : UInt32
  payloadAddress : UInt32
  macAddress : UInt32
  payloadSize : UInt16
  macSize : UInt16
  flags : UInt8
  algorithm : UInt8
deriving DecidableEq, Repr

instance : Message Mac where
  layout := [.word, .word, .word, .word, .half, .half, .byte, .byte, .half]
  toValues m := (m.service, m.key, m.payloadAddress, m.macAddress, m.payloadSize, m.macSize,
    m.flags, m.algorithm, 0, ())
  ofValues := fun (service, key, payloadAddress, macAddress, payloadSize, macSize, flags,
      algorithm, _) =>
    { service, key, payloadAddress, macAddress, payloadSize, macSize, flags, algorithm }
  ofValues_toValues _ := rfl

/-- Encrypting or decrypting. -/
structure Cipher where
  service : UInt32
  key : UInt32
  ivAddress : UInt32
  ivSize : UInt16
  mode : UInt8
  flags : UInt8
  inputAddress : UInt32
  outputAddress : UInt32
  inputSize : UInt32
  outputSize : UInt32
deriving DecidableEq, Repr

instance : Message Cipher where
  layout := [.word, .word, .word, .half, .byte, .byte, .word, .word, .word, .word]
  toValues m := (m.service, m.key, m.ivAddress, m.ivSize, m.mode, m.flags, m.inputAddress,
    m.outputAddress, m.inputSize, m.outputSize, ())
  ofValues := fun (service, key, ivAddress, ivSize, mode, flags, inputAddress, outputAddress,
      inputSize, outputSize, _) =>
    { service, key, ivAddress, ivSize, mode, flags, inputAddress, outputAddress, inputSize,
      outputSize }
  ofValues_toValues _ := rfl

/-- Hashing. -/
structure Hash where
  service : UInt32
  inputAddress : UInt32
  outputAddress : UInt32
  inputSize : UInt32
  outputSize : UInt32
  algorithm : UInt8
  flags : UInt8
deriving DecidableEq, Repr

instance : Message Hash where
  layout := [.word, .word, .word, .word, .word, .byte, .byte, .half]
  toValues m := (m.service, m.inputAddress, m.outputAddress, m.inputSize, m.outputSize,
    m.algorithm, m.flags, 0, ())
  ofValues := fun (service, inputAddress, outputAddress, inputSize, outputSize, algorithm,
      flags, _) =>
    { service, inputAddress, outputAddress, inputSize, outputSize, algorithm, flags }
  ofValues_toValues _ := rfl

/-- Signing, as legacy firmware reads it: the scheme is a byte. -/
structure SignLegacy where
  service : UInt32
  key : UInt32
  messageAddress : UInt32
  signatureAddress : UInt32
  messageSize : UInt32
  signatureSize : UInt16
  scheme : UInt8
  flags : UInt8
deriving DecidableEq, Repr

instance : Message SignLegacy where
  layout := [.word, .word, .word, .word, .word, .half, .byte, .byte]
  toValues m := (m.service, m.key, m.messageAddress, m.signatureAddress, m.messageSize,
    m.signatureSize, m.scheme, m.flags, ())
  ofValues := fun (service, key, messageAddress, signatureAddress, messageSize, signatureSize,
      scheme, flags, _) =>
    { service, key, messageAddress, signatureAddress, messageSize, signatureSize, scheme, flags }
  ofValues_toValues _ := rfl

/-- Signing, as PSA firmware reads it: the scheme is a word. -/
structure SignPsa where
  service : UInt32
  key : UInt32
  messageAddress : UInt32
  signatureAddress : UInt32
  messageSize : UInt32
  signatureSize : UInt16
  flags : UInt8
  scheme : UInt32
deriving DecidableEq, Repr

instance : Message SignPsa where
  layout := [.word, .word, .word, .word, .word, .half, .byte, .byte, .word]
  toValues m := (m.service, m.key, m.messageAddress, m.signatureAddress, m.messageSize,
    m.signatureSize, m.flags, 0, m.scheme, ())
  ofValues := fun (service, key, messageAddress, signatureAddress, messageSize, signatureSize,
      flags, _, scheme, _) =>
    { service, key, messageAddress, signatureAddress, messageSize, signatureSize, flags, scheme }
  ofValues_toValues _ := rfl

/-- Announcing a signature. -/
structure PrepareSign where
  service : UInt32
  scheme : UInt8
  flags : UInt8
deriving DecidableEq, Repr

instance : Message PrepareSign where
  layout := [.word, .byte, .byte, .half]
  toValues m := (m.service, m.scheme, m.flags, 0, ())
  ofValues := fun (service, scheme, flags, _) => { service, scheme, flags }
  ofValues_toValues _ := rfl

/-- Checking a signature against a public key. -/
structure Verify where
  service : UInt32
  keyAddress : UInt32
  messageAddress : UInt32
  signatureAddress : UInt32
  keySize : UInt16
  signatureSize : UInt16
  messageSize : UInt32
  scheme : UInt8
  flags : UInt8
deriving DecidableEq, Repr

instance : Message Verify where
  layout := [.word, .word, .word, .word, .half, .half, .word, .byte, .byte, .half]
  toValues m := (m.service, m.keyAddress, m.messageAddress, m.signatureAddress, m.keySize,
    m.signatureSize, m.messageSize, m.scheme, m.flags, 0, ())
  ofValues := fun (service, keyAddress, messageAddress, signatureAddress, keySize,
      signatureSize, messageSize, scheme, flags, _) =>
    { service, keyAddress, messageAddress, signatureAddress, keySize, signatureSize, messageSize,
      scheme, flags }
  ofValues_toValues _ := rfl

/-- Drawing random bytes. -/
structure Random where
  session : UInt32
  outputAddress : UInt32
  size : UInt32
deriving DecidableEq, Repr

instance : Message Random where
  layout := [.word, .word, .word]
  toValues m := (m.session, m.outputAddress, m.size, ())
  ofValues := fun (session, outputAddress, size, _) => { session, outputAddress, size }
  ofValues_toValues _ := rfl

/-- Generating a MAC with a SHE key; buffers are offsets into secure memory. -/
structure SheGenerateMac where
  key : UInt16
  messageSize : UInt16
  messageOffset : UInt16
  macOffset : UInt16
deriving DecidableEq, Repr

instance : Message SheGenerateMac where
  layout := [.half, .half, .half, .half]
  toValues m := (m.key, m.messageSize, m.messageOffset, m.macOffset, ())
  ofValues := fun (key, messageSize, messageOffset, macOffset, _) =>
    { key, messageSize, messageOffset, macOffset }
  ofValues_toValues _ := rfl

/-- Verifying the front of a MAC with a SHE key. -/
structure SheVerifyMac where
  key : UInt16
  messageSize : UInt16
  messageOffset : UInt16
  macOffset : UInt16
  macLength : UInt8
deriving DecidableEq, Repr

instance : Message SheVerifyMac where
  layout := [.half, .half, .half, .half, .byte, .block 3]
  toValues m := (m.key, m.messageSize, m.messageOffset, m.macOffset, m.macLength,
    Vector.replicate 3 0, ())
  ofValues := fun (key, messageSize, messageOffset, macOffset, macLength, _) =>
    { key, messageSize, messageOffset, macOffset, macLength }
  ofValues_toValues _ := rfl

/-- A buffer named by the two halves of its address, and its size. -/
structure SplitBuffer where
  high : UInt32
  low : UInt32
  size : UInt32
deriving DecidableEq, Repr

instance : Message SplitBuffer where
  layout := [.word, .word, .word]
  toValues m := (m.high, m.low, m.size, ())
  ofValues := fun (high, low, size, _) => { high, low, size }
  ofValues_toValues _ := rfl

/-- Asking for the identity of the engine, authenticated over a challenge. -/
structure SheIdentity where
  challenge : Vector UInt8 16
  high : UInt32
  low : UInt32
deriving DecidableEq, Repr

instance : Message SheIdentity where
  layout := [.block 16, .word, .word]
  toValues m := (m.challenge, m.high, m.low, ())
  ofValues := fun (challenge, high, low, _) => { challenge, high, low }
  ofValues_toValues _ := rfl

end Wire

namespace Command

open Wire (Message)

/-- **The content of the request that goes with a command.** -/
@[reducible] def Request (flavor : Flavor) : Command → Type
  | openSession => Wire.OpenSession
  | closeSession | sharedBuffer | closeKeyStore | closeService _ => UInt32
  | openKeyStore => Wire.OpenKeyStore
  | openService _ => Wire.OpenService
  | generateKey => Wire.GenerateKey
  | generateKeyExt => Wire.GenerateKeyExt
  | manageKey => Wire.ManageKey
  | importKey => Wire.ImportKey
  | deleteKey => Wire.DeleteKey
  | mac => Wire.Mac
  | cipher => Wire.Cipher
  | hash => Wire.Hash
  | sign => match flavor with
    | .legacy => Wire.SignLegacy
    | .psa => Wire.SignPsa
  | prepareSign => Wire.PrepareSign
  | verify => Wire.Verify
  | random => Wire.Random
  | sheGenerateMac => Wire.SheGenerateMac
  | sheVerifyMac => Wire.SheVerifyMac
  | sheInitRng | sheStatus => Unit
  | sheExtendSeed | sheRandom => Wire.SplitBuffer
  | sheIdentity => Wire.SheIdentity

/-- The layout of the request that goes with a command. -/
instance (flavor : Flavor) : (c : Command) → Message (c.Request flavor)
  | openSession => inferInstanceAs (Message Wire.OpenSession)
  | closeSession => inferInstanceAs (Message UInt32)
  | sharedBuffer => inferInstanceAs (Message UInt32)
  | closeKeyStore => inferInstanceAs (Message UInt32)
  | closeService _ => inferInstanceAs (Message UInt32)
  | openKeyStore => inferInstanceAs (Message Wire.OpenKeyStore)
  | openService _ => inferInstanceAs (Message Wire.OpenService)
  | generateKey => inferInstanceAs (Message Wire.GenerateKey)
  | generateKeyExt => inferInstanceAs (Message Wire.GenerateKeyExt)
  | manageKey => inferInstanceAs (Message Wire.ManageKey)
  | importKey => inferInstanceAs (Message Wire.ImportKey)
  | deleteKey => inferInstanceAs (Message Wire.DeleteKey)
  | mac => inferInstanceAs (Message Wire.Mac)
  | cipher => inferInstanceAs (Message Wire.Cipher)
  | hash => inferInstanceAs (Message Wire.Hash)
  | sign => match flavor with
    | .legacy => inferInstanceAs (Message Wire.SignLegacy)
    | .psa => inferInstanceAs (Message Wire.SignPsa)
  | prepareSign => inferInstanceAs (Message Wire.PrepareSign)
  | verify => inferInstanceAs (Message Wire.Verify)
  | random => inferInstanceAs (Message Wire.Random)
  | sheGenerateMac => inferInstanceAs (Message Wire.SheGenerateMac)
  | sheVerifyMac => inferInstanceAs (Message Wire.SheVerifyMac)
  | sheInitRng => inferInstanceAs (Message Unit)
  | sheStatus => inferInstanceAs (Message Unit)
  | sheExtendSeed => inferInstanceAs (Message Wire.SplitBuffer)
  | sheRandom => inferInstanceAs (Message Wire.SplitBuffer)
  | sheIdentity => inferInstanceAs (Message Wire.SheIdentity)

/-- **Whether the request of a command ends in a checksum.** -/
def requestSealed : Command → Bool
  | openKeyStore | openService _ | generateKey | generateKeyExt | manageKey | importKey | mac
  | cipher | hash | sign | verify | sheIdentity => true
  | _ => false

end Command

end SecureEngine
