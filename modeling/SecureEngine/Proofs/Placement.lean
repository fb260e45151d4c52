import SecureEngine.Proofs.Framing

/-! # Where buffers are placed

A request names the buffers of its arguments by the addresses they were staged at.

* **`Command.attachments`** — the buffers that a command stages, in order, and how its request names
  them; **`Command.references`** — the buffers that a request names, as an engine reads it.
* **`Placement`**, **`Placed`** — a buffer with the address it got; a transport passes from one state to
  another by staging some buffers successfully.
* **`Registering.Places`** — a computation that succeeds has staged buffers, each successfully.
* **`Attached`** — a request names the buffers of its arguments, and its output is the one buffer that
  was staged as an output. -/

namespace SecureEngine

/-! ## (1) Buffers of requests -/

/-- **The forms that an address takes in a request**, from each of which the engine computes an `Address`
again. -/
inductive AddressForm
  /-- The lower word. -/
  | low
  /-- Both words. -/
  | split
  /-- The offset in the secure RAM. -/
  | short
deriving DecidableEq, Repr

/-- The `Address` that an engine reads where a request carries an address in some form. -/
def AddressForm.resolve : AddressForm → Address → Address
  | low, a => a.low.toUInt64
  | split, a => .join a.high a.low
  | short, a => SharedMemory.ofShort a.short

/-- **A buffer that goes with a request**, with its `BufferUse` and the `AddressForm` that names it. -/
structure Attachment where
  buffer : Bytes
  use : BufferUse
  /-- How the request carries the address. -/
  form : AddressForm := .low
  /-- The size that the request tells. -/
  size : Nat := buffer.length
deriving DecidableEq, Repr

/-- **The buffers that a command stages**, in this order: one `Attachment` for each that its `Arguments`
have. -/
def Command.attachments : Command → Arguments → List Attachment
  | .generateKey, .generateKey a => [{ buffer := a.publicKey, use := { output := true } }]
  | .generateKeyExt, .generateKey a => [{ buffer := a.publicKey, use := { output := true } }]
  | .importKey, .importKey a => [{ buffer := a.material, use := { input := true } }]
  | .manageKey, .manageKey a => [{ buffer := a.material, use := { input := true } }]
  | .mac, .mac a =>
    [{ buffer := a.payload, use := { input := true } },
      { buffer := a.mac, use := { input := !a.isGeneration, output := a.isGeneration } }]
  | .cipher, .cipher a =>
    [{ buffer := a.iv, use := { input := true, secure := a.secure } },
      { buffer := a.input, use := { input := true, secure := a.secure } },
      { buffer := a.output, use := { output := true, secure := a.secure } }]
  | .hash, .hash a =>
    [{ buffer := a.input, use := { input := true } },
      { buffer := a.output, use := { output := true } }]
  | .sign, .sign a =>
    [{ buffer := a.message, use := { input := true } },
      { buffer := a.signature, use := { output := true } }]
  | .verify, .verify a =>
    [{ buffer := a.publicKey, use := { input := true } },
      { buffer := a.message, use := { input := true } },
      { buffer := a.signature, use := { input := true } }]
  | .random, .random output => [{ buffer := output, use := { output := true } }]
  | .sheGenerateMac, .sheGenerateMac a =>
    [{ buffer := a.message, use := { input := true, secure := true, short := true }, form := .short },
      { buffer := a.mac, use := { output := true, secure := true, short := true }, form := .short }]
  | .sheVerifyMac, .sheVerifyMac a =>
    [{ buffer := a.message, use := { input := true, secure := true, short := true }, form := .short },
      -- Only the front of this MAC is asked for.
      { buffer := a.mac, use := { input := true, secure := true, short := true }, form := .short,
        size := a.macLength.toNat }]
  | .sheExtendSeed, .sheExtendSeed entropy =>
    [{ buffer := entropy, use := { input := true, secure := true }, form := .split }]
  | .sheRandom, .sheRandom output =>
    [{ buffer := output, use := { output := true, secure := true }, form := .split }]
  | .sheIdentity, .sheIdentity a =>
    [{ buffer := a.mac, use := { output := true, secure := true }, form := .split }]
  | _, _ => []

/-- **A buffer that a request names**, as an engine reads it: an `Address`, a size, and the direction. -/
structure BufferReference where
  address : Address
  size : Nat
  /-- Whether the engine writes there. -/
  output : Bool
deriving DecidableEq, Repr

/-- **The buffers that a request names**, in the order of their registration. The request for an
identity does not tell the size of its MAC, which is fixed. -/
@[simp]
def Command.references {flavor : Flavor} : (c : Command) → c.Request flavor → List BufferReference
  | .generateKey, m => [⟨m.outputAddress.toUInt64, m.outputSize.toNat, true⟩]
  | .generateKeyExt, m => [⟨m.outputAddress.toUInt64, m.outputSize.toNat, true⟩]
  | .importKey, m => [⟨m.inputAddress.toUInt64, m.inputSize.toNat, false⟩]
  | .manageKey, m => [⟨m.inputAddress.toUInt64, m.inputSize.toNat, false⟩]
  | .mac, m =>
    [⟨m.payloadAddress.toUInt64, m.payloadSize.toNat, false⟩,
      ⟨m.macAddress.toUInt64, m.macSize.toNat, m.flags &&& 1 != 0⟩]
  | .cipher, m =>
    [⟨m.ivAddress.toUInt64, m.ivSize.toNat, false⟩,
      ⟨m.inputAddress.toUInt64, m.inputSize.toNat, false⟩,
      ⟨m.outputAddress.toUInt64, m.outputSize.toNat, true⟩]
  | .hash, m =>
    [⟨m.inputAddress.toUInt64, m.inputSize.toNat, false⟩,
      ⟨m.outputAddress.toUInt64, m.outputSize.toNat, true⟩]
  | .sign, m =>
    match flavor, m with
    | .legacy, m =>
      [⟨m.messageAddress.toUInt64, m.messageSize.toNat, false⟩,
        ⟨m.signatureAddress.toUInt64, m.signatureSize.toNat, true⟩]
    | .psa, m =>
      [⟨m.messageAddress.toUInt64, m.messageSize.toNat, false⟩,
        ⟨m.signatureAddress.toUInt64, m.signatureSize.toNat, true⟩]
  | .verify, m =>
    [⟨m.keyAddress.toUInt64, m.keySize.toNat, false⟩,
      ⟨m.messageAddress.toUInt64, m.messageSize.toNat, false⟩,
      ⟨m.signatureAddress.toUInt64, m.signatureSize.toNat, false⟩]
  | .random, m => [⟨m.outputAddress.toUInt64, m.size.toNat, true⟩]
  | .sheGenerateMac, m =>
    [⟨SharedMemory.ofShort m.messageOffset, m.messageSize.toNat, false⟩,
      ⟨SharedMemory.ofShort m.macOffset, Engine.sheSize, true⟩]
  | .sheVerifyMac, m =>
    [⟨SharedMemory.ofShort m.messageOffset, m.messageSize.toNat, false⟩,
      ⟨SharedMemory.ofShort m.macOffset, m.macLength.toNat, false⟩]
  | .sheExtendSeed, m => [⟨.join m.high m.low, m.size.toNat, false⟩]
  | .sheRandom, m => [⟨.join m.high m.low, m.size.toNat, true⟩]
  | .sheIdentity, m => [⟨.join m.high m.low, Engine.sheSize, true⟩]
  | _, _ => []

/-! ## (2) Placements -/

/-- **A buffer with the `Address` it was staged at**; an empty buffer is left out and has none. -/
structure Placement where
  attachment : Attachment
  address : Option Address
deriving DecidableEq, Repr

namespace Placement

/-- Whether the engine writes the buffer, by the `BufferUse` of its `Attachment`. -/
def isOutput (q : Placement) : Bool := q.attachment.use.output

/-- How a request names the buffer of a `Placement`: the address in its form, or a null one for an empty
buffer. -/
def reference (q : Placement) : BufferReference :=
  ⟨q.attachment.form.resolve (wireAddress q.address), q.attachment.size, q.isOutput⟩

end Placement

section

variable {σ : Type} [Transport σ]

/-- **A transport passes from one state to another by staging buffers successfully**: one
`Transport.dataBuffer` for each `Placement` that is not empty. -/
inductive Placed : σ → List Placement → σ → Prop
  | nil (s : σ) : Placed s [] s
  /-- An empty buffer is left out. -/
  | leftOut {s t : σ} {attachment : Attachment} {rest : List Placement}
      (h : attachment.buffer = []) (hrest : Placed s rest t) :
      Placed s (⟨attachment, none⟩ :: rest) t
  | staged {s t u : σ} {attachment : Attachment} {address : Address} {rest : List Placement}
      (h : attachment.buffer ≠ [])
      (hd : Transport.dataBuffer s attachment.buffer attachment.use = (.ok address, t))
      (hrest : Placed t rest u) : Placed s (⟨attachment, some address⟩ :: rest) u

/-- Buffers that are `Placed` after others are placed with them, in this order. -/
theorem Placed.append {s t u : σ} {first second : List Placement} (h₁ : Placed s first t)
    (h₂ : Placed t second u) : Placed s (first ++ second) u := by
  induction h₁ with
  | nil => exact h₂
  | leftOut h _ ih => exact .leftOut h (ih h₂)
  | staged h hd _ ih => exact .staged h hd (ih h₂)

end

/-- **The output that a client reads back** is the one buffer that was staged as an output, if any. -/
inductive OutputPlaced (arguments : Arguments) (placements : List Placement) :
    Option Address → Prop
  | none (h : placements.filter Placement.isOutput = []) :
      OutputPlaced arguments placements none
  | one {q : Placement} {output : Option Address} (h : placements.filter Placement.isOutput = [q])
      (haddress : output = q.address) (hout : arguments.output? = some q.attachment.buffer) :
      OutputPlaced arguments placements output

/-- **A request names the buffers of its arguments** where they were staged: its references are those of
the `Placement`s, and the output among them is read back. -/
structure Attached (arguments : Arguments) (attachments : List Attachment)
    (references : List BufferReference) (output : Option Address) (placements : List Placement) :
    Prop where
  attachments_eq : placements.map Placement.attachment = attachments
  references_eq : placements.map Placement.reference = references
  /-- No more than the buffer is asked for. -/
  fits : ∀ q ∈ placements, q.attachment.size ≤ q.attachment.buffer.length
  output : OutputPlaced arguments placements output

/-- **A `Prepared` request names the buffers of its arguments** where they were staged. -/
def Prepared.Attaches {flavor : Flavor} {c : Command} (p : Prepared flavor c) (arguments : Arguments)
    (placements : List Placement) : Prop :=
  Attached arguments (c.attachments arguments) (c.references p.request) p.output placements

/-- A request tells the sizes that its arguments ask for, buffer by buffer of `Command.attachments`. -/
theorem Prepared.Attaches.sizes_eq {flavor : Flavor} {c : Command} {p : Prepared flavor c}
    {arguments : Arguments} {placements : List Placement} (h : p.Attaches arguments placements) :
    (c.references p.request).map BufferReference.size = (c.attachments arguments).map Attachment.size := by
  rw [← h.references_eq, ← h.attachments_eq, List.map_map, List.map_map]
  rfl

/-! ## (3) Registering buffers -/

namespace Registering

variable {σ α β : Type} [Transport σ]

/-- **A computation stages buffers, each successfully, or fails.** No failure is about messages that
were not understood. -/
def Places (Q : α → List Placement → Prop) (x : Registering σ α) : Prop :=
  ∀ s, (∀ a, (x.run s).1 = .ok a → ∃ placements, Placed s placements (x.run s).2 ∧ Q a placements) ∧
    ∀ e, (x.run s).1 = .error e → e.isFraming = false

/-- Returning a value places no buffers, so `Places` has the empty list for it. -/
theorem places_pure {Q : α → List Placement → Prop} {a : α} (h : Q a []) :
    Places (σ := σ) Q (pure a) := by
  refine fun s => ⟨fun b hb => ?_, nofun⟩
  cases hb
  exact ⟨[], .nil s, h⟩

/-- A failure that is not about messages places no buffers: `Places` asks nothing else of a `throw`. -/
theorem places_throw {Q : α → List Placement → Prop} {e : ClientError} (h : e.isFraming = false) :
    Places (σ := σ) Q (throw e) := by
  refine fun s => ⟨nofun, fun e' he => ?_⟩
  cases he
  exact h

/-- A sequence stages what its parts stage: `Places` appends the placements of the second part to those of
the first. -/
theorem places_bind {P : α → List Placement → Prop} {Q : β → List Placement → Prop}
    {x : Registering σ α} {f : α → Registering σ β} (hx : Places P x)
    (hf : ∀ a first, P a first → Places (fun b rest => Q b (first ++ rest)) (f a)) :
    Places Q (x >>= f) := by
  intro s
  obtain ⟨hok, herror⟩ := hx s
  rw [run_bind]
  -- The placements of `f` come after those of `x`.
  rcases hrun : x.run s with ⟨e | a, t⟩
  · rw [hrun] at herror
    exact ⟨nofun, fun e' he => herror e' (by cases he; rfl)⟩
  · rw [hrun] at hok
    obtain ⟨first, hfirst, hp⟩ := hok a rfl
    obtain ⟨hok, herror⟩ := hf a first hp t
    refine ⟨fun b hb => ?_, herror⟩
    obtain ⟨rest, hrest, hq⟩ := hok b hb
    exact ⟨first ++ rest, hfirst.append hrest, hq⟩

/-- A result may be made of what was placed: `Places` carries the function over to its property. -/
theorem places_map {Q : β → List Placement → Prop} {f : α → β} {x : Registering σ α}
    (h : Places (fun a placements => Q (f a) placements) x) : Places Q (f <$> x) :=
  places_bind h fun a first ha => places_pure (by rw [List.append_nil]; exact ha)

/-- What follows a `demand` of the arguments may rely on it, and does all the placing. -/
theorem places_demand {Q : β → List Placement → Prop} {condition : Bool} {complaint : Complaint}
    {f : Unit → Registering σ β}
    (hc : (ClientError.validation complaint).isFraming = false)
    (hf : condition = true → Places Q (f ())) : Places Q (demand condition complaint >>= f) := by
  unfold demand
  split
  · rename_i h
    exact hf h
  · exact fun s => places_throw hc s

end Registering

end SecureEngine
