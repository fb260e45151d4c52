import SecureEngine.Proofs.Registrations
import SecureEngine.Proofs.Serving

/-! # Buffers across shared memory

What a client stages is what the engine loads, and what the engine stores is what the client reads back.

* **`AddressForm.resolve_eq`** — the address of a buffer survives every form that a request has for it.
* **`Placement.Seen`**, **`Device.seen_placed`** — placed buffers can be seen where the request says they
  are, and `Device.registrations_placed`: nothing else was registered.
* **`Attached.loaded`**, **`Attached.leaves`** — what a handler that keeps to its buffers loads, and what
  the client finds in its output afterwards.
* **`Channel.Transparent`**, **`Channel.process_transparent`** — both, for a round trip. -/

namespace SecureEngine

/-! ## (1) Addresses in requests -/

namespace Address

/-- An `Address` is joined again from its two words, whatever it is. -/
theorem join_high_low (a : Address) : join a.high a.low = a := by
  -- The halves do not overlap, so joining them by an or adds them.
  have hlow : a.toNat % 2 ^ 32 < 2 ^ 32 := Nat.mod_lt _ (by decide)
  have hhigh : a.toNat / 2 ^ 32 < 2 ^ 32 := Nat.div_lt_of_lt_mul a.toNat_lt
  have hshift : a.toNat / 2 ^ 32 * 2 ^ 32 < 2 ^ 64 := by omega
  apply UInt64.toNat_inj.mp
  rw [join, high, low, UInt64.toNat_or, UInt64.toNat_shiftLeft, UInt32.toNat_toUInt64,
    UInt64.toNat_toUInt32, UInt64.toNat_shiftRight, UInt32.toNat_toUInt64, UInt64.toNat_toUInt32]
  change (a.toNat >>> 32 % 2 ^ 32) <<< 32 % 2 ^ 64 ||| a.toNat % 2 ^ 32 = a.toNat
  rw [Nat.shiftRight_eq_div_pow, Nat.mod_eq_of_lt hhigh, Nat.shiftLeft_eq, Nat.mod_eq_of_lt hshift,
    ← Nat.shiftLeft_eq, ← Nat.shiftLeft_add_eq_or_of_lt hlow, Nat.shiftLeft_eq]
  exact Nat.div_add_mod' a.toNat (2 ^ 32)

/-- An `Address` that fits one word is its lower word. -/
theorem toUInt64_low {a : Address} (h : a.toNat < UInt32.size) : a.low.toUInt64 = a := by
  apply UInt64.toNat_inj.mp
  rw [UInt32.toNat_toUInt64, low, UInt64.toNat_toUInt32]
  exact Nat.mod_eq_of_lt h

/-- The short form of an address is what the mask `0xFFFF` leaves of it. -/
theorem toUInt64_short (a : Address) : a.short.toUInt64 = a &&& 0xFFFF := by
  apply UInt64.toNat_inj.mp
  rw [UInt16.toNat_toUInt64, short, UInt64.toNat_toUInt16, UInt64.toNat_and]
  exact (Nat.and_two_pow_sub_one_eq_mod a.toNat 16).symm

/-- An `Address` is made of what a mask hides and what it leaves. -/
theorem and_not_or_and (a mask : Address) : (a &&& ~~~mask) ||| (a &&& mask) = a := by
  apply UInt64.toBitVec_inj.mp
  ext i hi
  simp only [UInt64.toBitVec_or, UInt64.toBitVec_and, UInt64.toBitVec_not, BitVec.getElem_or,
    BitVec.getElem_and, BitVec.getElem_not]
  cases a.toBitVec[i] <;> cases mask.toBitVec[i] <;> rfl

end Address

/-- An `Address` of which the mask leaves the base of the secure RAM is made of the base and its
offset. -/
theorem SharedMemory.ofShort_short {a : Address}
    (h : a &&& ~~~(0xFFFF : UInt64) = Region.secure.base) : ofShort a.short = a := by
  rw [ofShort, a.toUInt64_short, ← h, a.and_not_or_and]

/-- **The address of a registered buffer survives every form that a request has for it**:
`AddressForm.resolve` gives it back. Short forms are for buffers that were registered for them. -/
theorem AddressForm.resolve_eq {m : SharedMemory} {data : Bytes} {use : BufferUse} {a : Address}
    (h : m.Shows data use a) {form : AddressForm} (hshort : form = .short → use.short = true) :
    form.resolve a = a := by
  cases form with
  | low =>
    obtain ⟨i, hi, -⟩ := h.held
    exact Address.toUInt64_low (Region.toNat_lt_of_position? hi)
  | split => exact a.join_high_low
  | short => exact SharedMemory.ofShort_short (h.short (hshort rfl))

/-- Buffers that a request names by short forms are registered for them: the `BufferUse` of such an
`Attachment` is `short`. -/
theorem Command.use_short {c : Command} {arguments : Arguments} :
    ∀ attachment ∈ c.attachments arguments, attachment.form = .short →
      attachment.use.short = true := by
  unfold attachments
  split <;> simp

/-! ## (2) Placed buffers -/

namespace Placement

/-- **A buffer can be seen where it was placed**; one that was left out is empty. -/
def Seen (m : SharedMemory) (q : Placement) : Prop :=
  match q.address with
  | none => q.attachment.buffer = []
  | some a => m.Shows q.attachment.buffer q.attachment.use a

/-- The `Registration` of a buffer that was staged. -/
def registration? (q : Placement) : Option Registration :=
  q.address.map fun a => ⟨a, q.attachment.buffer.length, q.attachment.use⟩

variable {m : SharedMemory} {q : Placement}

/-- A buffer that was placed at an `Address` shows there. -/
theorem seen_of_some {a : Address} (h : q.Seen m) (ha : q.address = some a) :
    m.Shows q.attachment.buffer q.attachment.use a := by
  unfold Seen at h
  rwa [ha] at h

/-- The `Address` that a request has for a placed buffer is the one it was placed at. -/
theorem address_reference (h : q.Seen m)
    (hshort : q.attachment.form = .short → q.attachment.use.short = true) {a : Address}
    (ha : q.address = some a) : q.reference.address = a := by
  rw [reference, ha]
  exact AddressForm.resolve_eq (seen_of_some h ha) hshort

/-- **The engine loads the front of the buffer** that a request names, as much of it as the request asks
for. -/
theorem load_reference (h : q.Seen m)
    (hshort : q.attachment.form = .short → q.attachment.use.short = true)
    (hfits : q.attachment.size ≤ q.attachment.buffer.length) :
    m.load q.reference.address q.reference.size = .ok (q.attachment.buffer.take q.attachment.size) := by
  have hsize : q.reference.size = q.attachment.size := rfl
  rw [hsize]
  cases ha : q.address with
  | none =>
    -- Nothing is asked for, and nothing is loaded.
    unfold Seen at h
    rw [ha] at h
    have hempty : q.attachment.buffer = [] := h
    have hzero : q.attachment.size = 0 := by
      rw [hempty] at hfits
      exact Nat.le_zero.mp hfits
    rw [hempty, List.take_nil, SharedMemory.load_exact, if_pos hzero]
  | some a =>
    rw [address_reference h hshort ha]
    exact (seen_of_some h ha).load_eq hfits

end Placement

namespace Device

variable {d t : Device} {placements : List Placement}

/-- A device stages a buffer by registering it in its shared memory: `Transport.dataBuffer` of a `Device`
is a case of `Registers`. -/
theorem registers_of_dataBuffer {buffer : Bytes} {use : BufferUse} {a : Address}
    (h : Transport.dataBuffer d buffer use = (.ok a, t)) :
    d.machine.memory.Registers buffer use a t.machine.memory := by
  change d.outcome (d.machine.memory.register buffer use) = (.ok a, t) at h
  cases hregister : d.machine.memory.register buffer use with
  | none =>
    rw [hregister] at h
    cases h
  | some registered =>
    rw [hregister] at h
    cases h
    exact SharedMemory.registers_of_register hregister

/-- What could be seen can still be seen when other buffers have been `Placed`. -/
theorem shows_placed (hp : Placed d placements t) {data : Bytes} {use : BufferUse} {a : Address}
    (h : d.machine.memory.Shows data use a) : t.machine.memory.Shows data use a := by
  induction hp with
  | nil => exact h
  | leftOut _ _ ih => exact ih h
  | staged _ hd _ ih => exact ih (h.registers (registers_of_dataBuffer hd))

/-- **Placed buffers can be `Seen`**, the first of them after all the others have been `Placed`. -/
theorem seen_placed (hp : Placed d placements t) : ∀ q ∈ placements, q.Seen t.machine.memory := by
  induction hp with
  | nil => nofun
  | leftOut hempty _ ih => exact List.forall_mem_cons.mpr ⟨hempty, ih⟩
  | staged _ hd hrest ih =>
    refine List.forall_mem_cons.mpr ⟨?_, ih⟩
    exact shows_placed hrest (registers_of_dataBuffer hd).shows

/-- **Nothing but `Placed` buffers is registered.** -/
theorem registrations_placed (hp : Placed d placements t) :
    t.machine.memory.registrations =
      d.machine.memory.registrations ++ placements.filterMap Placement.registration? := by
  induction hp with
  | nil => exact (List.append_nil _).symm
  | leftOut _ _ ih => exact ih
  | staged _ hd _ ih =>
    rw [ih, (registers_of_dataBuffer hd).registrations_eq]
    exact List.append_assoc _ _ _

end Device

/-! ## (3) Loads and stores of a handler -/

/-- The bytes that an `Access` stores; a load stores none. -/
def Access.data : Access → Bytes
  | load _ _ _ => []
  | store _ data => data

namespace SharedMemory

/-- Storing no bytes succeeds at any `Address`, and changes nothing. -/
theorem store_nil (m : SharedMemory) (a : Address) : m.store a [] = .ok m := rfl

/-- Without an output among the registrations only nothing can be stored: `SharedMemory.store` succeeds
for no other bytes. -/
theorem eq_nil_of_store {m after : SharedMemory} {a : Address} {data : Bytes}
    (hnone : ∀ r ∈ m.registrations, ¬r.use.output = true) (h : m.store a data = .ok after) :
    data = [] := by
  rw [store_exact] at h
  split at h
  · rename_i hempty
    exact List.isEmpty_iff.mp hempty
  split at h
  · rename_i hwritable
    obtain ⟨r, hr, hcovers⟩ := List.any_eq_true.mp hwritable
    exact absurd (Bool.and_eq_true_iff.mp hcovers).1 (hnone r hr)
  · cases h

/-- **What a client finds in its output buffer**: what is read back, or what was there if nothing is. -/
def Leaves (m : SharedMemory) (output : Option Address) (out found : Bytes) : Prop :=
  match output with
  | none => found = out
  | some a => m.readBack a out.length = some found

end SharedMemory

namespace Attached

variable {α : Type} {arguments : Arguments} {attachments : List Attachment}
  {references : List BufferReference} {output : Option Address} {placements : List Placement}
  {length : Option Nat} {m after : Machine} {loads stores : List Access} {result : Except EngineError α}

/-- The buffer at a position of a request was placed: `Attached` gives the `Placement` behind each
reference. -/
theorem exists_placement_at (h : Attached arguments attachments references output placements) {i : Nat}
    {r : BufferReference} (hr : references[i]? = some r) : ∃ q : Placement,
      placements[i]? = some q ∧ attachments[i]? = some q.attachment ∧ q.reference = r := by
  rw [← h.references_eq, List.getElem?_map, Option.map_eq_some_iff] at hr
  obtain ⟨q, hq, rfl⟩ := hr
  refine ⟨q, hq, ?_, rfl⟩
  rw [← h.attachments_eq, List.getElem?_map, hq]
  rfl

/-- A buffer that a request names was placed, and is named at the position it was placed at. -/
theorem exists_placement (h : Attached arguments attachments references output placements)
    {r : BufferReference} (hr : r ∈ references) : ∃ (i : Nat) (q : Placement),
      placements[i]? = some q ∧ references[i]? = some r ∧ attachments[i]? = some q.attachment ∧
        q.reference = r := by
  obtain ⟨i, hi⟩ := List.mem_iff_getElem?.mp hr
  obtain ⟨q, hq, hattachment, hreference⟩ := h.exists_placement_at hi
  exact ⟨i, q, hq, hi, hattachment, hreference⟩

/-- **What a handler loads are the buffers of the arguments**, in full or as far as the request asks. -/
theorem loaded (h : Attached arguments attachments references output placements)
    (hshort : ∀ attachment ∈ attachments, attachment.form = .short → attachment.use.short = true)
    (hseen : ∀ q ∈ placements, q.Seen m.memory)
    (hconducted : Handling.Conducted length references m loads stores result after) :
    ∀ access ∈ loads, ∃ (i : Nat) (r : BufferReference) (attachment : Attachment),
      references[i]? = some r ∧ attachments[i]? = some attachment ∧
      r.size = attachment.size ∧ attachment.size ≤ attachment.buffer.length ∧
      access = .load r.address r.size (.ok (attachment.buffer.take attachment.size)) := by
  intro access haccess
  obtain ⟨r, hr, rfl⟩ := hconducted.loaded access haccess
  -- What is loaded is one of the references, which is that of the placement at the same position.
  obtain ⟨i, q, hq, hi, hattachment, rfl⟩ := h.exists_placement hr
  have hmem := List.mem_of_getElem? hq
  have hfits := h.fits q hmem
  refine ⟨i, _, _, hi, hattachment, rfl, hfits, ?_⟩
  rw [q.load_reference (hseen q hmem) (hshort _ (List.mem_of_getElem? hattachment)) hfits]

/-- Where a handler stores, an output was placed: only outputs are named as such. -/
theorem exists_output (h : Attached arguments attachments references output placements)
    {r : BufferReference} (hr : r ∈ references) (hout : r.output = true) :
    ∃ q ∈ placements.filter Placement.isOutput, q.reference = r := by
  obtain ⟨i, q, hq, -, -, rfl⟩ := h.exists_placement hr
  exact ⟨q, List.mem_filter.mpr ⟨List.mem_of_getElem? hq, hout⟩, rfl⟩

/-- Only an output that was placed is registered as one: a `Registration` for the engine to write is that
of a `Placement.isOutput`. -/
theorem exists_registration {r : Registration}
    (hr : r ∈ placements.filterMap Placement.registration?) (hout : r.use.output = true) :
    ∃ q ∈ placements.filter Placement.isOutput, q.registration? = some r := by
  obtain ⟨q, hq, hregistration⟩ := List.mem_filterMap.mp hr
  obtain ⟨a, -, rfl⟩ := Option.map_eq_some_iff.mp hregistration
  exact ⟨q, List.mem_filter.mpr ⟨hq, hout⟩, hregistration⟩

/-- A handler that succeeds has stored something where an output was placed, or nothing at all. -/
theorem exists_stored (h : Attached arguments attachments references output placements) {a : α}
    (hconducted : Handling.Conducted length references m loads stores (.ok a) after) :
    ∃ data, stores.flatMap Access.data = data ∧ (data = [] ∧ after.memory = m.memory ∨
      ∃ q ∈ placements.filter Placement.isOutput,
        m.memory.store q.reference.address data = .ok after.memory) := by
  rcases hconducted.stored with ⟨rfl, hmemory⟩ | ⟨r, hr, hr', data, rfl, -, hstore⟩
  · exact ⟨[], rfl, Or.inl ⟨rfl, hmemory⟩⟩
  · obtain ⟨q, hq, rfl⟩ := h.exists_output hr hr'
    exact ⟨data, List.append_nil data, Or.inr ⟨q, hq, hstore a rfl⟩⟩

/-- **What a handler stores is what the client finds** in front of what was there before, whether its
output is empty or not. -/
theorem leaves (h : Attached arguments attachments references output placements)
    (hshort : ∀ attachment ∈ attachments, attachment.form = .short → attachment.use.short = true)
    (hseen : ∀ q ∈ placements, q.Seen m.memory)
    (hregistrations : m.memory.registrations = placements.filterMap Placement.registration?)
    {a : α} (hconducted : Handling.Conducted length references m loads stores (.ok a) after)
    {out : Bytes} (hout : arguments.output? = some out) :
    (stores.flatMap Access.data).length ≤ out.length ∧
      after.memory.Leaves output out (stores.flatMap Access.data ++
        out.drop (stores.flatMap Access.data).length) := by
  obtain ⟨data, hdata, hstored⟩ := h.exists_stored hconducted
  rw [hdata]
  -- Without a registered output every store is empty, since there is nowhere it could go.
  have hnothing (houtput : output = none)
      (hnone : ∀ q ∈ placements.filter Placement.isOutput, q.address = none) :
      data.length ≤ out.length ∧ after.memory.Leaves output out (data ++ out.drop data.length) := by
    have hempty : data = [] := by
      rcases hstored with ⟨hempty, -⟩ | ⟨q, -, hstore⟩
      · exact hempty
      refine SharedMemory.eq_nil_of_store (fun r hr hr' => ?_) hstore
      obtain ⟨q, hq, hregistration⟩ := exists_registration (hregistrations ▸ hr) hr'
      rw [Placement.registration?, hnone q hq] at hregistration
      cases hregistration
    subst houtput hempty
    exact ⟨Nat.zero_le _, rfl⟩
  -- A command has one output buffer at most.
  cases h.output with
  | none hnone => exact hnothing rfl (by rw [hnone]; nofun)
  | @one q _ hone haddress hbuffer =>
    obtain rfl := Option.some.inj (hout.symm.trans hbuffer)
    have hunique {q' : Placement} (hq' : q' ∈ placements.filter Placement.isOutput) : q' = q := by
      rw [hone] at hq'
      exact List.mem_singleton.mp hq'
    cases ha : q.address with
    | none => exact hnothing (haddress.trans ha) fun q' hq' => hunique hq' ▸ ha
    | some a =>
      obtain ⟨hmem, hq⟩ := List.mem_filter.mp (hone ▸ List.mem_singleton_self q)
      have hform := hshort q.attachment (h.attachments_eq ▸ List.mem_map_of_mem hmem)
      rw [haddress, ha]
      refine (Placement.seen_of_some (hseen q hmem) ha).readBack_store hq (fun r hr hr' => ?_) ?_
      · obtain ⟨q', hq', hregistration⟩ := exists_registration (hregistrations ▸ hr) hr'
        rw [hunique hq', Placement.registration?, ha] at hregistration
        exact (Option.some.inj hregistration).symm
      · -- Storing nothing leaves the memory as storing no bytes does.
        rcases hstored with ⟨rfl, hmemory⟩ | ⟨q', hq', hstore⟩
        · rw [hmemory, SharedMemory.store_nil]
        · rw [← hstore, hunique hq', Placement.address_reference (hseen q hmem) hform ha]

end Attached

/-! ## (4) Round trips -/

/-- The output of arguments is what `withOutput` puts there, if they have one. -/
theorem Arguments.output?_withOutput {arguments : Arguments} {out : Bytes}
    (h : arguments.output? = some out) (buffer : Bytes) :
    (arguments.withOutput buffer).output? = some buffer := by
  cases arguments <;> first | rfl | cases h

namespace Command

variable {flavor : Flavor} {c : Command} {response : Bytes} {arguments completed : Arguments}

/-- What a response is made into has the output of the arguments it is made for. -/
theorem output?_bind_decodeResponse {f : c.Response flavor → Arguments}
    (h : (do return f (← c.decodeResponse flavor response) : Except ClientError Arguments) =
      .ok completed) {output : Option Bytes} (hf : ∀ content, (f content).output? = output) :
    completed.output? = output := by
  cases hd : c.decodeResponse flavor response with
  | error e =>
    rw [hd] at h
    cases h
  | ok content =>
    rw [hd] at h
    cases h
    exact hf content

/-- **Completing arguments leaves their output alone**: `complete` fills in identifiers, sizes and
statuses. -/
theorem output?_complete (h : c.complete flavor response arguments = .ok completed) :
    completed.output? = arguments.output? := by
  -- Completing sets other fields than the output.
  unfold complete at h
  split at h
  case h_11 a =>
    cases flavor with
    | psa => exact output?_bind_decodeResponse (c := .sign) h fun _ => rfl
    | legacy =>
      dsimp only at h
      unfold halfSize at h
      split at h <;> cases h
      rfl
  all_goals first
    | exact output?_bind_decodeResponse h fun _ => rfl
    | (cases h <;> rfl)

end Command

namespace Channel

variable {channel : Channel} {c : Command} {output : Option Address} {response : Bytes}
  {arguments : Arguments} {d : Device} {out found : Bytes}

/-- Concluding a success leaves the output of the arguments alone, whether the response is intact or
not. -/
theorem output?_conclude {code : UInt8} :
    (channel.conclude code response arguments).2.output? = arguments.output? := by
  unfold conclude
  cases hc : channel.table.complete channel.flavor code response arguments with
  | error e => rfl
  | ok completed =>
    unfold DispatchTable.complete at hc
    split at hc
    · exact Command.output?_complete hc
    · cases hc

/-- **A client that settles a success has what it finds in its output buffer.** -/
theorem output?_settle {code : UInt8} (hout : arguments.output? = some out)
    (hlength : found.length = out.length) (hleaves : d.machine.memory.Leaves output out found)
    (h : (channel.settle code output response arguments d).1.1 = .ok ()) :
    (channel.settle code output response arguments d).1.2.output? = some found := by
  unfold settle at h ⊢
  rw [hout] at h ⊢
  -- Without an address, what was found is what the caller had.
  cases output with
  | none =>
    obtain rfl : found = out := hleaves
    rw [← hout]
    exact output?_conclude
  | some address =>
    have hread : Transport.readDataBuffer d address out = (.ok found, d) := by
      have hfound : d.machine.memory.readBack address out.length = some found := hleaves
      simp only [Transport.readDataBuffer, hfound]
    dsimp only at h ⊢
    rw [hread] at h ⊢
    dsimp only at h ⊢
    rw [output?_conclude, Bytes.overlay_of_length_eq hlength, Arguments.output?_withOutput hout]

/-- **Shared memory is transparent to a round trip**: the handler runs with these loads and stores, and
the round trip has this outcome and leaves the device so. -/
structure Transparent (channel : Channel) (arguments : Arguments) {c : Command}
    (p : Prepared channel.flavor c) (t : Device) (loads stores : List Access)
    (outcome : (Except ClientError Unit × Arguments) × Device) : Prop where
  /-- The handler loads first, then stores, and that is what the engine does. -/
  performed : ∃ result after, Handling.Performs (Engine.handle channel.flavor c p.request) t.machine
    (loads ++ stores) result after ∧ outcome.2.machine = ⟨after.engine, after.memory.reset⟩
  /-- Every load is of a buffer of the arguments, as far as the request asks for it. -/
  loaded : ∀ access ∈ loads, ∃ (i : Nat) (r : BufferReference) (attachment : Attachment),
    (c.references p.request)[i]? = some r ∧ (c.attachments arguments)[i]? = some attachment ∧
    r.size = attachment.size ∧ attachment.size ≤ attachment.buffer.length ∧
    access = .load r.address r.size (.ok (attachment.buffer.take attachment.size))
  /-- Nothing is stored but an output. -/
  stored : stores = [] ∨ ∃ r ∈ c.references p.request, r.output = true ∧
    ∃ data, stores = [.store r.address data]
  /-- A success brings the client what was stored, before what its buffer held there. -/
  returned : outcome.1.1 = .ok () → ∀ out, arguments.output? = some out →
    (stores.flatMap Access.data).length ≤ out.length ∧
    outcome.1.2.output? =
      some (stores.flatMap Access.data ++ out.drop (stores.flatMap Access.data).length)
  /-- A failure of the engine leaves the buffer alone. -/
  refused : ∀ e, outcome.1.1 = .error (.engine e) → outcome.1.2.output? = arguments.output?

/-- **Shared memory is `Transparent`**: with any table of commands, whatever the message, the handle and
the arguments, if all buffers were registered with a device that serves the client and had nothing
registered before. -/
theorem process_transparent {channel : Channel} {sets : List FamilySet}
    (htable : channel.table = .enabling sets) {d t : Device} (h : d.Serves channel)
    (hempty : d.machine.memory.registrations = []) {code : UInt8} {handle : UInt32}
    {arguments : Arguments} {c : Command} {p : Prepared channel.flavor c}
    (hprepare : (channel.table.prepare channel.flavor code handle Wire.maxMessageSize
      arguments).run d = (.ok ⟨c, p⟩, t)) :
    ∃ loads stores, channel.Transparent arguments p t loads stores
      ((channel.process code handle arguments).run d) := by
  have hl : channel.table.Lawful := htable ▸ DispatchTable.lawful_enabling sets
  obtain ⟨hc, placements, hplaced, hattached⟩ := DispatchTable.placed_of_prepare hprepare
  have hseen := Device.seen_placed hplaced
  have hregistrations := Device.registrations_placed hplaced
  rw [hempty, List.nil_append] at hregistrations
  -- The engine's side: what the handler loads and stores, on whatever memory it is given.
  obtain ⟨loads, stores, result, after, hperforms, hconducted⟩ :=
    Engine.conducts_handle c p.request t.machine
  -- The client's side: the exchange either fails with the handler or succeeds with it.
  obtain ⟨u, hserved, hfinal⟩ := Device.served hl h hprepare
  generalize (channel.process code handle arguments).run d = final at hserved hfinal ⊢
  obtain ⟨outcome, final⟩ := final
  obtain rfl : final = Transport.resetDataBuffers u := hfinal
  change Device.Served channel p arguments t outcome u at hserved
  refine ⟨loads, stores, ⟨result, after, hperforms, ?_⟩,
    hattached.loaded Command.use_short hseen hconducted, ?_, ?_, ?_⟩
  · cases hserved with
    | failed hrun | succeeded hrun =>
      rw [hperforms.run_eq] at hrun
      cases hrun
      rfl
  · exact hconducted.stored.imp And.left fun ⟨r, hr, hr', data, hs, _⟩ => ⟨r, hr, hr', data, hs⟩
  · -- A successful call copies back all that was stored.
    intro hok out hout
    cases hserved with
    | failed => cases hok
    | succeeded hrun =>
      rw [hperforms.run_eq] at hrun
      cases hrun
      obtain ⟨hle, hleaves⟩ :=
        hattached.leaves Command.use_short hseen hregistrations hconducted hout
      refine ⟨hle, output?_settle hout ?_ hleaves hok⟩
      rw [List.length_append, List.length_drop]
      exact Nat.add_sub_cancel' hle
  · -- A call the engine refuses does not reach the buffer.
    intro e he
    cases hserved with
    | failed => rfl
    | succeeded => exact absurd he (Device.settle_ne_engine rfl e)

/-- A device with an open hash service hashes the input of a client: `Channel.process` leaves the digest
in the buffer, with the buffer's old tail behind it. -/
theorem process_transparent_hash :
    let channel : Channel := ⟨.enabling [.full], .standard, .legacy⟩
    let d : Device := { machine := { engine := { Engine.start {} with
      objects := (IdMap.empty.insert 0x100 .session).insert 0x101 (.service .hash 0x100) } } }
    let arguments := Arguments.hash ⟨[1, 2, 3], Bytes.blank 40, HashAlgorithm.sha256.code, 1⟩
    d.Serves channel ∧ d.machine.memory.registrations = [] ∧
      ∃ (c : Command) (p : Prepared channel.flavor c) (t : Device) (loads stores : List Access),
        (channel.table.prepare channel.flavor Command.hash.code 0x101 Wire.maxMessageSize
          arguments).run d = (.ok ⟨c, p⟩, t) ∧
        channel.Transparent arguments p t loads stores
          ((channel.process Command.hash.code 0x101 arguments).run d) := by
  intro channel d arguments
  have hserves : d.Serves channel := ⟨rfl, rfl, rfl, rfl⟩
  have hempty : d.machine.memory.registrations = [] := rfl
  -- That the request is prepared is evaluated; what is prepared stays a variable.
  obtain ⟨⟨c, p⟩, hp⟩ := exists_eq_ok (r := ((channel.table.prepare channel.flavor
    Command.hash.code 0x101 Wire.maxMessageSize arguments).run d).1) (by decide +kernel)
  rcases hrun : (channel.table.prepare channel.flavor Command.hash.code 0x101 Wire.maxMessageSize
    arguments).run d with ⟨prepared, t⟩
  rw [hrun] at hp
  obtain rfl : prepared = .ok ⟨c, p⟩ := hp
  obtain ⟨loads, stores, htransparent⟩ := process_transparent rfl hserves hempty hrun
  exact ⟨hserves, hempty, c, p, t, loads, stores, rfl, htransparent⟩

end Channel

end SecureEngine
