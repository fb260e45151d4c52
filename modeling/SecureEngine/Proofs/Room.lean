import SecureEngine.Proofs.Flavors
import SecureEngine.Proofs.Replies
import SecureEngine.Proofs.Residue
import SecureEngine.Proofs.Transparency

/-! # Room for buffers

Buffers are staged one behind the other, by whole words. Where there is room for all of them, preparing a
request does not fail.

* **`stagedSize`** — how much room some buffers take; **`SharedMemory.Offers`** — how much there is.
* **`SharedMemory.Offers.exists_register`** — a buffer that fits is staged, and leaves the rest of the room.
* **`Registering.Succeeds`** — a computation succeeds where there is room for some buffers.
* **`Placement.store_reference`** — what the engine stores at an output, and the client finds there.
* **`Prepared.Presented`** — a request with its buffers in shared memory: `load_eq`, `exists_store`.
* **`Device.Serves.process_succeeded`**, **`process_failed`** — what the client makes of the handler. -/

namespace SecureEngine

/-- **The room that some buffers take** in the area they are staged in: `wholeWords` of each of them. -/
def stagedSize (buffers : List Bytes) : Nat :=
  buffers.foldr (fun buffer rest => wholeWords buffer.length + rest) 0

/-- Buffers take the whole words of each of them: `stagedSize` is a sum of `wholeWords`. -/
theorem stagedSize_cons (buffer : Bytes) (rest : List Bytes) :
    stagedSize (buffer :: rest) = wholeWords buffer.length + stagedSize rest := rfl

/-- Each of them is not longer than that: `stagedSize` is at least the length of every buffer. -/
theorem length_le_stagedSize {buffer : Bytes} {buffers : List Bytes} (h : buffer ∈ buffers) :
    buffer.length ≤ stagedSize buffers := by
  induction buffers with
  | nil => cases h
  | cons first rest ih =>
    rw [stagedSize_cons]
    rcases List.mem_cons.mp h with rfl | hrest
    · exact Nat.le_trans (SharedMemory.le_wholeWords _) (Nat.le_add_right _ _)
    · exact Nat.le_trans (ih hrest) (Nat.le_add_left _ _)

/-! ## (1) Room in shared memory -/

namespace SharedMemory

variable {m after : SharedMemory} {region : Region} {n rest : Nat} {data : Bytes} {use : BufferUse}

/-- **A memory has room for `n` bytes** behind what is staged in an area. -/
structure Offers (m : SharedMemory) (region : Region) (n : Nat) : Prop where
  base_le : region.base.toNat ≤ (m.cursor region).toNat
  fits : ∃ limit, m.limit? region = some limit ∧ (m.cursor region).toNat + n ≤ limit ∧
    limit ≤ region.base.toNat + areaSize

/-- An area that `Offers` some room offers less. -/
theorem Offers.mono (h : m.Offers region n) (hrest : rest ≤ n) : m.Offers region rest := by
  obtain ⟨limit, hlimit, hfits, hend⟩ := h.fits
  exact ⟨h.base_le, limit, hlimit, by omega, hend⟩

/-- A short form reaches all of the secure RAM: `Region.secure` is aligned to its size, so masking an
address gives its base. -/
theorem and_eq_base {a : Address} (hbase : Region.secure.base.toNat ≤ a.toNat)
    (hend : a.toNat < Region.secure.base.toNat + areaSize) :
    a &&& ~~~(0xFFFF : UInt64) = Region.secure.base := by
  have hmask : (~~~(0xFFFF : UInt64)).toBitVec = BitVec.allOnes 64 <<< 16 := by decide
  have hsecure : Region.secure.base.toNat = 0x20000000 := rfl
  have harea : areaSize = 0x10000 := rfl
  -- The mask cuts the address down to a multiple of the size of the area.
  apply UInt64.toNat_inj.mp
  rw [← UInt64.toNat_toBitVec, UInt64.toBitVec_and, hmask, ← BitVec.shiftLeft_ushiftRight,
    BitVec.toNat_shiftLeft, BitVec.toNat_ushiftRight, Nat.shiftLeft_eq, Nat.shiftRight_eq_div_pow,
    UInt64.toNat_toBitVec]
  omega

/-- **A buffer is staged where there is room for it**, and leaves the room behind it. Only a buffer of the
secure RAM can have a short address. -/
theorem Offers.exists_register (h : m.Offers (regionOf use) (wholeWords data.length + rest))
    (hne : data ≠ []) (hshort : use.short = true → use.secure = true) :
    ∃ a after, m.register data use = some (a, after) ∧ after.Offers (regionOf use) rest := by
  obtain ⟨limit, hlimit, hfits, hend⟩ := h.fits
  have hbase := h.base_le
  have hwords := le_wholeWords data.length
  have hpos := List.length_pos_iff.mpr hne
  have hposition : (regionOf use).position? (m.cursor (regionOf use)) data.length =
      some ((m.cursor (regionOf use)).toNat - (regionOf use).base.toNat) := by
    rw [Region.position?_eq_some_iff]
    omega
  refine ⟨_, _, register_eq_some_iff.mpr ⟨⟨rfl, ⟨limit, hlimit, by omega⟩, ?_, _, hposition⟩, _,
    hposition, rfl⟩, ?_⟩
  · intro hs
    have hregion : regionOf use = .secure := if_pos (hshort hs)
    rw [hregion] at hbase hfits hend ⊢
    exact and_eq_base hbase (by omega)
  · -- The cursor moves by whole words, and stays below the limit.
    have hsmall : limit < UInt64.size := by
      have harea : ∀ region : Region, region.base.toNat + areaSize < UInt64.size := by
        intro region
        cases region <;> decide
      exact Nat.lt_of_le_of_lt hend (harea _)
    have hlt : (m.cursor (regionOf use)).toNat + wholeWords data.length < UInt64.size :=
      Nat.lt_of_le_of_lt (by omega) hsmall
    refine ⟨?_, limit, ?_, ?_, hend⟩
    · rw [toNat_cursor_staged hlt]
      omega
    · rw [limit?_of_window_eq window_staged, hlimit]
    · rw [toNat_cursor_staged hlt]
      omega

end SharedMemory

/-! ## (2) Preparing where there is room -/

namespace Registering

variable {α β : Type} {region : Region} {buffers : List Bytes} {buffer : Bytes}

/-- **A computation succeeds where there is room for some buffers** in an area, and its result has a given
property. -/
def Succeeds (region : Region) (buffers : List Bytes) (Q : α → Prop) (x : Registering Device α) : Prop :=
  ∀ d : Device, d.machine.memory.Offers region (stagedSize buffers) →
    ∃ a t, x.run d = (.ok a, t) ∧ Q a

/-- Returning a value `Succeeds` whatever room there is. -/
theorem succeeds_pure {Q : α → Prop} {a : α} (h : Q a) : Succeeds region buffers Q (pure a) :=
  fun d _ => ⟨a, d, rfl, h⟩

/-- A result may be made of what has been registered: `Succeeds` passes through `<$>`. -/
theorem succeeds_map {Q : β → Prop} {f : α → β} {x : Registering Device α}
    (h : Succeeds region buffers (fun a => Q (f a)) x) : Succeeds region buffers Q (f <$> x) := by
  intro d hd
  obtain ⟨a, t, hrun, ha⟩ := h d hd
  exact ⟨f a, t, by rw [run_map, hrun], ha⟩

/-- A size that fits its field is told: `halfSize` then succeeds with it, and what follows `Succeeds` with
the buffers as before. -/
theorem succeeds_halfSize {what : SizedBuffer} {Q : β → Prop} {f : UInt16 → Registering Device β}
    (h : buffer.length < UInt16.size)
    (hf : Succeeds region buffers Q (f (UInt16.ofNat buffer.length))) :
    Succeeds region buffers Q (check (halfSize what buffer) >>= f) := by
  intro d hd
  have hcheck : (check (halfSize what buffer) : Registering Device UInt16).run d =
      (.ok (UInt16.ofNat buffer.length), d) := by
    rw [halfSize, if_pos h]
    rfl
  rw [run_bind_ok hcheck]
  exact hf d hd

/-- `wordSize` succeeds for a length that fits a word, and hands it on. -/
theorem succeeds_wordSize {what : SizedBuffer} {Q : β → Prop} {f : UInt32 → Registering Device β}
    (h : buffer.length < UInt32.size)
    (hf : Succeeds region buffers Q (f (UInt32.ofNat buffer.length))) :
    Succeeds region buffers Q (check (wordSize what buffer) >>= f) := by
  intro d hd
  have hcheck : (check (wordSize what buffer) : Registering Device UInt32).run d =
      (.ok (UInt32.ofNat buffer.length), d) := by
    rw [wordSize, if_pos h]
    rfl
  rw [run_bind_ok hcheck]
  exact hf d hd

/-- What is demanded is the case, so `demand` passes and what follows `Succeeds`. -/
theorem succeeds_demand {condition : Bool} {complaint : Complaint} {Q : β → Prop}
    {f : Unit → Registering Device β} (h : condition = true) (hf : Succeeds region buffers Q (f ())) :
    Succeeds region buffers Q (demand condition complaint >>= f) := by
  rw [h]
  exact hf

/-- **A buffer is registered where there is room for it** and for the buffers behind it. -/
theorem succeeds_register {use : BufferUse} {Q : β → Prop} {f : Option Address → Registering Device β}
    (hregion : SharedMemory.regionOf use = region) (hshort : use.short = true → use.secure = true)
    (hf : ∀ address, Succeeds region buffers Q (f address)) :
    Succeeds region (buffer :: buffers) Q (register buffer use >>= f) := by
  intro d hd
  rw [stagedSize_cons] at hd
  unfold register
  split
  · -- An empty buffer takes no room.
    exact hf none d (hd.mono (Nat.le_add_left _ _))
  · rename_i hnonempty
    subst hregion
    obtain ⟨a, after, hregister, hrest⟩ :=
      hd.exists_register (fun hnil => hnonempty (List.isEmpty_iff.mpr hnil)) hshort
    have hdata : Transport.dataBuffer d buffer use = (.ok a, d.withMemory after) := by
      change d.outcome (d.machine.memory.register buffer use) = _
      rw [hregister]
      rfl
    rw [run_bind]
    dsimp only [ExceptT.run, ExceptT.mk]
    rw [hdata]
    exact hf (some a) (d.withMemory after) hrest

end Registering

/-! ## (3) Storing at an output -/

namespace Placement

variable {m : SharedMemory} {q : Placement}

/-- **What the engine stores at an output is what the client finds** in front of what was there. It may
store as much as the buffer has. -/
theorem store_reference (h : q.Seen m)
    (hshort : q.attachment.form = .short → q.attachment.use.short = true)
    (hout : q.isOutput = true)
    (hone : ∀ r ∈ m.registrations, r.use.output = true → q.registration? = some r) {data : Bytes}
    (hfits : data.length ≤ q.attachment.buffer.length) :
    ∃ after, m.store q.reference.address data = .ok after ∧
      after.Leaves q.address q.attachment.buffer (data ++ q.attachment.buffer.drop data.length) := by
  cases ha : q.address with
  | none =>
    -- An empty buffer was left out, and nothing is stored.
    unfold Seen at h
    rw [ha] at h
    have hempty : q.attachment.buffer = [] := h
    rw [hempty] at hfits ⊢
    obtain rfl := List.length_eq_zero_iff.mp (Nat.le_zero.mp hfits)
    exact ⟨m, rfl, rfl⟩
  | some a =>
    have hshows := seen_of_some h ha
    have hthis (r : Registration) (hr : r ∈ m.registrations) (hr' : r.use.output = true) :
        r = ⟨a, q.attachment.buffer.length, q.attachment.use⟩ := by
      have hregistration := hone r hr hr'
      rw [registration?, ha] at hregistration
      exact (Option.some.inj hregistration).symm
    rw [address_reference h hshort ha]
    obtain ⟨after, hstore⟩ : ∃ after, m.store a data = .ok after := by
      by_cases hne : data = []
      · exact ⟨m, by rw [hne, SharedMemory.store_nil]⟩
      · obtain ⟨i, hi, -⟩ := hshows.held
        have hposition : (SharedMemory.regionOf q.attachment.use).position? a data.length = some i := by
          rw [Region.position?_eq_some_iff] at hi ⊢
          omega
        refine ⟨_, (SharedMemory.store_eq_ok_iff hne).mpr
          ⟨⟨_, hshows.registered, hout, ?_⟩, _, i, hposition, rfl⟩⟩
        exact Registration.covers_eq_true_iff.mpr ⟨Nat.le_refl _, Nat.add_le_add_left hfits _⟩
    exact ⟨after, hstore, (hshows.readBack_store hout hthis hstore).2⟩

end Placement

/-! ## (4) Requests with their buffers -/

/-- **A `Prepared` request whose buffers are in shared memory**, where it names them, and nothing else
with them. -/
def Prepared.Presented {flavor : Flavor} {c : Command} (p : Prepared flavor c) (arguments : Arguments)
    (m : SharedMemory) : Prop :=
  ∃ placements, p.Attaches arguments placements ∧ (∀ q ∈ placements, q.Seen m) ∧
    m.registrations = placements.filterMap Placement.registration?

namespace Prepared.Presented

variable {flavor : Flavor} {c : Command} {p : Prepared flavor c} {arguments : Arguments}
  {m : SharedMemory} {i : Nat} {r : BufferReference} {attachment : Attachment}

/-- **The engine loads the buffers of the arguments** where the request names them: `Presented` gives
`SharedMemory.load` at each of its references. -/
theorem load_eq (h : p.Presented arguments m) (hr : (c.references p.request)[i]? = some r)
    (ha : (c.attachments arguments)[i]? = some attachment) :
    m.load r.address r.size = .ok (attachment.buffer.take attachment.size) := by
  obtain ⟨placements, hattached, hseen, -⟩ := h
  obtain ⟨q, hq, hattachment, rfl⟩ := hattached.exists_placement_at hr
  obtain rfl := Option.some.inj (ha.symm.trans hattachment)
  have hmem := List.mem_of_getElem? hq
  exact q.load_reference (hseen q hmem) (Command.use_short _ (List.mem_of_getElem? ha))
    (hattached.fits q hmem)

/-- **The engine can store at the output** of the arguments, and the client finds it there. -/
theorem exists_store (h : p.Presented arguments m) (hr : (c.references p.request)[i]? = some r)
    (ha : (c.attachments arguments)[i]? = some attachment) (hout : r.output = true) {data : Bytes}
    (hfits : data.length ≤ attachment.buffer.length) :
    ∃ after, m.store r.address data = .ok after ∧
      after.Leaves p.output attachment.buffer (data ++ attachment.buffer.drop data.length) := by
  -- The reference is that of one placement, and no other placement is of an output.
  obtain ⟨placements, hattached, hseen, hregistrations⟩ := h
  obtain ⟨q, hq, hattachment, rfl⟩ := hattached.exists_placement_at hr
  obtain rfl := Option.some.inj (ha.symm.trans hattachment)
  have hplaced := List.mem_of_getElem? hq
  have hmem : q ∈ placements.filter Placement.isOutput := List.mem_filter.mpr ⟨hplaced, hout⟩
  have houtput := hattached.output
  generalize p.output = output at houtput ⊢
  cases houtput with
  | none hnone =>
    rw [hnone] at hmem
    cases hmem
  | @one other _ hone haddress =>
    have hunique {p : Placement} (hp : p ∈ placements.filter Placement.isOutput) : p = other := by
      rw [hone] at hp
      exact List.mem_singleton.mp hp
    obtain rfl := hunique hmem
    rw [haddress]
    refine q.store_reference (hseen q hplaced) (Command.use_short _ (List.mem_of_getElem? ha)) hout
      (fun r hr hr' => ?_) hfits
    obtain ⟨p, hp, hregistration⟩ := Attached.exists_registration (hregistrations ▸ hr) hr'
    rwa [hunique hp] at hregistration

end Prepared.Presented

/-! ## (5) Round trips -/

namespace Channel

/-- **The output is fetched as the engine left it**: what a memory `Leaves` at the address is what
`Channel.fetch` puts into the arguments. -/
theorem fetch_of_leaves {arguments : Arguments} {output : Option Address} {out found : Bytes}
    {d : Device} (hout : arguments.output? = some out) (hlength : found.length = out.length)
    (hleaves : d.machine.memory.Leaves output out found) :
    (fetch output arguments d).1 = .ok (arguments.withOutput found) := by
  cases output with
  | none =>
    obtain rfl : found = out := hleaves
    -- Without an address, what was found is what the caller had.
    have hself : arguments.withOutput found = arguments := by
      cases arguments <;> cases hout <;> rfl
    rw [hself]
    rfl
  | some address =>
    have hread : Transport.readDataBuffer d address out = (.ok found, d) := by
      have hfound : d.machine.memory.readBack address out.length = some found := hleaves
      simp only [Transport.readDataBuffer, hfound]
    unfold fetch
    simp only [hout, hread]
    rw [Bytes.overlay_of_length_eq hlength]

end Channel

namespace Device

variable {channel : Channel} {d t : Device} {code : UInt8} {handle : UInt32} {arguments : Arguments}
  {c : Command} {p : Prepared channel.flavor c} {after : Machine}

/-- **A request that has been prepared is `Presented`**, if nothing was registered before. -/
theorem presented_of_prepare (hempty : d.machine.memory.registrations = [])
    (hprepare : (channel.table.prepare channel.flavor code handle Wire.maxMessageSize
      arguments).run d = (.ok ⟨c, p⟩, t)) :
    p.Presented arguments t.machine.memory ∧ t.machine.engine = d.machine.engine := by
  obtain ⟨-, placements, hplaced, hattached⟩ := DispatchTable.placed_of_prepare hprepare
  have hregistrations := registrations_placed hplaced
  rw [hempty, List.nil_append] at hregistrations
  exact ⟨⟨placements, hattached, seen_placed hplaced, hregistrations⟩,
    engine_of_core_eq (core_placed hplaced)⟩

/-- **A failure of the handler is told to the client**, whose arguments stay as they are. -/
theorem Serves.process_failed (hl : channel.table.Lawful) (h : d.Serves channel)
    (hprepare : (channel.table.prepare channel.flavor code handle Wire.maxMessageSize
      arguments).run d = (.ok ⟨c, p⟩, t)) {e : EngineError}
    (hrun : (Engine.handle channel.flavor c p.request).run t.machine = (.error e, after)) :
    ((channel.process code handle arguments).run d).1 =
        (.error (.engine (EngineError.ofRating e.code.toUInt8)), arguments) ∧
      ((channel.process code handle arguments).run d).2.machine.engine = after.engine := by
  obtain ⟨u, hserved, hfinal⟩ := served hl h hprepare
  rw [hfinal]
  generalize ((channel.process code handle arguments).run d).1 = result at hserved ⊢
  -- The exchange is that of the handler, which failed.
  cases hserved with
  | failed hrun' =>
    rw [hrun] at hrun'
    cases hrun'
    exact ⟨rfl, rfl⟩
  | succeeded hrun' =>
    rw [hrun] at hrun'
    cases hrun'

/-- **A success of the handler is concluded from what it responded**, with the output as it left it. -/
theorem Serves.process_succeeded (hl : channel.table.Lawful) (h : d.Serves channel)
    (hprepare : (channel.table.prepare channel.flavor code handle Wire.maxMessageSize
      arguments).run d = (.ok ⟨c, p⟩, t)) {content : c.Response channel.flavor}
    (hrun : (Engine.handle channel.flavor c p.request).run t.machine = (.ok content, after))
    {fetched : Arguments} (hfetch : ∀ u : Device, u.machine = after →
      (Channel.fetch p.output arguments u).1 = .ok fetched) :
    (∃ response, c.decodeResponse channel.flavor response = .ok content ∧
        ((channel.process code handle arguments).run d).1 = channel.conclude c.code response fetched) ∧
      ((channel.process code handle arguments).run d).2.machine.engine = after.engine := by
  obtain ⟨u, hserved, hfinal⟩ := served hl h hprepare
  rw [hfinal]
  generalize ((channel.process code handle arguments).run d).1 = result at hserved ⊢
  cases hserved with
  | failed hrun' =>
    rw [hrun] at hrun'
    cases hrun'
  | @succeeded content' after' log response hrun' hdecode =>
    rw [hrun] at hrun'
    cases hrun'
    refine ⟨⟨response, hdecode, ?_⟩, rfl⟩
    have hfetched := hfetch { t with machine := after, log } rfl
    rw [Channel.settle_eq_fetch]
    rcases hf : Channel.fetch p.output arguments ({ t with machine := after, log } : Device) with
      ⟨_ | _, v⟩
    all_goals
      rw [hf] at hfetched
      cases hfetched
    rfl

end Device

end SecureEngine
