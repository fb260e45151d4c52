import SecureEngine.Proofs.AddressSums

/-! # Calls on shared memory

Shared memory as a client and an engine see it: what each call answers, and which bytes it leaves.

* **`Address.Spans`** — the addresses of some bytes; **`Registration.Holds`** — those of a buffer;
  **`SharedMemory.byteAt?`** — the byte at an address.
* **`SharedMemory.bytesAt?_congr`** — what is read depends on the bytes that are spanned, and on no
  others.
* **`SharedMemory.setWindow_eq_some_iff`**, **`SharedMemory.register_eq_some_iff`** — which windows are
  accepted, and which buffers are staged.
* **`SharedMemory.Writes`** — the bytes after a write: staging a buffer and storing are such
  (`Registers.writes`, `writes_of_store`).
* **`SharedMemory.Operation`**, **`SharedMemory.Answer`**, **`SharedMemory.perform`** — the calls;
  **`SharedMemory.answers`** — what a sequence of them is answered.
* **`SharedMemory.Step`** — what a call does; **`Step.byteAt?_eq`** — it leaves the bytes that it wrote
  and all others as they were; **`Step.eq_of_fails`** — one that fails changes nothing. -/

namespace SecureEngine

/-! ## (1) Bytes and their addresses -/

/-- **One of the `n` bytes at `a` has address `x`.** -/
def Address.Spans (a : Address) (n x : Nat) : Prop := a.toNat ≤ x ∧ x < a.toNat + n

instance (a : Address) (n x : Nat) : Decidable (a.Spans n x) :=
  inferInstanceAs (Decidable (_ ∧ _))

/-- An address that is spanned is less than `n` bytes behind the first. -/
theorem Address.Spans.sub_lt {a : Address} {n x : Nat} (h : a.Spans n x) : x - a.toNat < n := by
  obtain ⟨hfirst, hlast⟩ := h
  omega

namespace Registration

variable {r : Registration} {a : Address} {n x : Nat}

/-- **A byte of the buffer has address `x`.** -/
def Holds (r : Registration) (x : Nat) : Prop := r.address.Spans r.length x

/-- A registration holds every byte of what it `covers`. -/
theorem holds_of_covers (h : r.covers a n = true) (hx : a.Spans n x) : r.Holds x := by
  obtain ⟨hfirst, hlast⟩ := covers_eq_true_iff.mp h
  obtain ⟨hx, hx'⟩ := hx
  exact ⟨Nat.le_trans hfirst hx, Nat.lt_of_lt_of_le hx' hlast⟩

end Registration

/-- The byte at a position of a buffer into which data was written with `patch`: one of the data where
that is, or what was there. -/
theorem Bytes.getElem?_patch {base data : Bytes} {start : Nat} (h : start + data.length ≤ base.length)
    (j : Nat) : (patch base start data)[j]? =
      if start ≤ j ∧ j < start + data.length then data[j - start]? else base[j]? := by
  have hl : (base.take start).length = start := by rw [List.length_take]; omega
  rw [patch]
  -- Three pieces: before the patch, in it, and behind it.
  by_cases hbefore : j < start
  · rw [if_neg (by omega), List.getElem?_append_left (by omega), List.getElem?_take_of_lt hbefore]
  rw [List.getElem?_append_right (by omega), hl]
  by_cases hinside : j < start + data.length
  · rw [if_pos (by omega), List.getElem?_append_left (by omega)]
  · rw [if_neg (by omega), List.getElem?_append_right (by omega), List.getElem?_drop]
    congr 1
    omega

namespace Area

/-- The byte at a position of an area into which data was written with `Area.write`. -/
theorem getElem?_write {area : Area} {start : Nat} {data : Bytes} (h : start + data.length ≤ areaSize)
    (j : Nat) : (area.write start data).cells[j]? =
      if start ≤ j ∧ j < start + data.length then data[j - start]? else area.cells[j]? := by
  rw [write, dif_pos h]
  exact Bytes.getElem?_patch (by rw [area.length_cells]; exact h) j

/-- The bytes that `Area.read` finds are those of the area from `start` on. -/
theorem getElem?_read {area : Area} {start n k : Nat} (hk : k < n) :
    (area.read start n)[k]? = area.cells[start + k]? := by
  rw [read, Bytes.slice, List.getElem?_take_of_lt hk, List.getElem?_drop]

end Area

namespace Region

/-- The DMA area lies behind the secure RAM, so no address belongs to both. -/
theorem secure_end_le : secure.base.toNat + areaSize ≤ dma.base.toNat := by decide

/-- Bytes have no `Region.position?` in an area just if they do not all lie in it. -/
theorem position?_eq_none_iff {region : Region} {a : Address} {n : Nat} : region.position? a n = none ↔
    ¬(region.base.toNat ≤ a.toNat ∧ a.toNat - region.base.toNat + n ≤ areaSize) := by
  simp only [Option.eq_none_iff_forall_ne_some, ne_eq, position?_eq_some_iff]
  constructor
  · intro h hinside
    exact h (a.toNat - region.base.toNat) (by omega)
  · intro h i hi
    exact h (by omega)

/-- An address lies in one area only, and at one position of it: the areas of the two `Region`s do not
overlap. -/
theorem eq_of_base_add_eq {region other : Region} {i j : Nat} (hi : i < areaSize) (hj : j < areaSize)
    (h : region.base.toNat + i = other.base.toNat + j) : region = other := by
  have hend := secure_end_le
  cases region <;> cases other <;> first | rfl | omega

end Region

namespace SharedMemory

variable {m after : SharedMemory} {region : Region} {a : Address} {n i x : Nat} {data : Bytes}

/-- **The byte at an address**, if it lies in an area, whichever `Region` that is. -/
def byteAt? (m : SharedMemory) (x : Nat) : Option UInt8 :=
  if Region.dma.base.toNat ≤ x then m.dma.cells[x - Region.dma.base.toNat]?
  else if Region.secure.base.toNat ≤ x then m.secure.cells[x - Region.secure.base.toNat]?
  else none

/-- `byteAt?` finds a byte of an area at its distance from the base. -/
theorem byteAt?_of_lt (m : SharedMemory) (region : Region) (h : i < areaSize) :
    m.byteAt? (region.base.toNat + i) = (m.area region).cells[i]? := by
  have hend := Region.secure_end_le
  unfold byteAt?
  cases region with
  | dma => rw [if_pos (Nat.le_add_right _ i), Nat.add_sub_cancel_left, area]
  | secure =>
    rw [if_neg (by omega), if_pos (Nat.le_add_right _ i), Nat.add_sub_cancel_left, area]

/-- `byteAt?` finds nothing at an address that lies in no area. -/
theorem byteAt?_eq_none (h : ∀ (region : Region) (i : Nat), i < areaSize → x ≠ region.base.toNat + i) :
    m.byteAt? x = none := by
  -- An offset behind the area is not one of its cells.
  have hcells (region : Region) (hx : region.base.toNat ≤ x) :
      (m.area region).cells[x - region.base.toNat]? = none := by
    rw [List.getElem?_eq_none_iff, (m.area region).length_cells]
    exact Nat.not_lt.mp fun hlt => h region _ hlt (Nat.add_sub_cancel' hx).symm
  unfold byteAt?
  split
  · rename_i hx
    exact hcells .dma hx
  split
  · rename_i hx
    exact hcells .secure hx
  · rfl

/-- The bytes of a memory are those of its areas: window, cursors and registrations are no part of
them. -/
theorem byteAt?_congr (h : ∀ region, after.area region = m.area region) (x : Nat) :
    after.byteAt? x = m.byteAt? x := by
  have hdma : after.dma = m.dma := h .dma
  have hsecure : after.secure = m.secure := h .secure
  rw [byteAt?, byteAt?, hdma, hsecure]

/-! ## (2) Reading -/

/-- Bytes that have a position in an area are read from there: `bytesAt?` is `Area.read` at what
`Region.position?` gives. -/
theorem bytesAt?_of_position? (m : SharedMemory) (h : region.position? a n = some i) :
    m.bytesAt? a n = some ((m.area region).read i n) := by
  rw [bytesAt?, Region.ofAddress?_of_position? h]
  simp only [Option.bind_eq_bind, Option.bind_some, h]
  rfl

/-- Bytes that `bytesAt?` finds lie in an area. -/
theorem position?_of_bytesAt? {bytes : Bytes} (h : m.bytesAt? a n = some bytes) :
    ∃ (region : Region) (i : Nat), region.position? a n = some i := by
  obtain ⟨region, -, h⟩ := Option.bind_eq_some_iff.mp h
  obtain ⟨i, hi, -⟩ := Option.bind_eq_some_iff.mp h
  exact ⟨region, i, hi⟩

/-- **What is read is the bytes that are spanned**, as many as were asked for and in their order. -/
theorem getElem?_bytesAt? {bytes : Bytes} (h : m.bytesAt? a n = some bytes) :
    bytes.length = n ∧ ∀ k < n, bytes[k]? = m.byteAt? (a.toNat + k) := by
  obtain ⟨region, i, hi⟩ := position?_of_bytesAt? h
  rw [bytesAt?_of_position? m hi, Option.some.injEq] at h
  obtain ⟨-, hle, ha⟩ := Region.position?_eq_some_iff.mp hi
  subst h
  refine ⟨Area.length_read hle, fun k hk => ?_⟩
  rw [Area.getElem?_read hk, ha, Nat.add_assoc, byteAt?_of_lt m region (by omega)]

/-- **What is read depends on the bytes that are spanned**, and on no others. -/
theorem bytesAt?_congr (h : ∀ x, a.Spans n x → after.byteAt? x = m.byteAt? x) :
    after.bytesAt? a n = m.bytesAt? a n := by
  -- Whether the bytes lie in a region is a matter of the address; inside, they are compared one by one.
  by_cases hposition : ∃ (region : Region) (i : Nat), region.position? a n = some i
  · obtain ⟨region, i, hi⟩ := hposition
    have hafter := bytesAt?_of_position? after hi
    have hbefore := bytesAt?_of_position? m hi
    obtain ⟨hlength, hbytes⟩ := getElem?_bytesAt? hafter
    obtain ⟨hlength', hbytes'⟩ := getElem?_bytesAt? hbefore
    rw [hafter, hbefore]
    congr 1
    apply List.ext_getElem?
    intro k
    by_cases hk : k < n
    · rw [hbytes k hk, hbytes' k hk, h _ ⟨by omega, by omega⟩]
    · rw [List.getElem?_eq_none (by omega), List.getElem?_eq_none (by omega)]
  · have hnone (m : SharedMemory) : m.bytesAt? a n = none :=
      Option.eq_none_iff_forall_ne_some.mpr fun bytes hb => hposition (position?_of_bytesAt? hb)
    rw [hnone, hnone]

/-- A load comes to some bytes just if a registration covers them, whatever its use, and the memory holds
them there. -/
theorem load_eq_ok_iff (hn : 0 < n) {bytes : Bytes} :
    m.load a n = .ok bytes ↔
      (∃ r ∈ m.registrations, r.covers a n = true) ∧ m.bytesAt? a n = some bytes := by
  rw [load_exact, if_neg (by omega), ← List.any_eq_true]
  split
  · cases m.bytesAt? a n <;> simp_all
  · simp_all

/-- A read-back comes to some bytes just if they are all of a staged output, and the memory holds them
there. -/
theorem readBack_eq_some_iff {bytes : Bytes} :
    m.readBack a n = some bytes ↔
      (∃ r ∈ m.registrations, r.address = a ∧ r.length = n ∧ r.use.output = true) ∧
        m.bytesAt? a n = some bytes := by
  have hknown : (m.registrations.any fun r => r.address == a && r.length == n && r.use.output) = true ↔
      ∃ r ∈ m.registrations, r.address = a ∧ r.length = n ∧ r.use.output = true := by
    simp only [List.any_eq_true, Bool.and_eq_true, beq_iff_eq, and_assoc]
  rw [readBack, ← hknown]
  split
  · rename_i h
    exact ⟨fun hbytes => ⟨h, hbytes⟩, fun hbytes => hbytes.2⟩
  · rename_i h
    constructor
    · intro hbytes
      cases hbytes
    · exact fun hbytes => absurd hbytes.1 h

/-! ## (3) Staging -/

/-- **A window is accepted** just if it has a byte and lies in the secure RAM. Staging then goes on at
its front. -/
theorem setWindow_eq_some_iff {offset size : UInt32} : m.setWindow offset size = some after ↔
    (0 < size.toNat ∧ offset.toNat + size.toNat ≤ areaSize) ∧
      ∃ first last : Address, first.toNat = Region.secure.base.toNat + offset.toNat ∧
        last.toNat = first.toNat + size.toNat ∧
        after = { m with window := some (first, last), secureCursor := first } := by
  have hbase : Region.secure.base.toNat = 0x20000000 := rfl
  have hoffset := offset.toNat_lt
  have hsize := size.toNat_lt
  -- Neither sum reaches the last address.
  have hfirst : (Region.secure.base + offset.toUInt64).toNat =
      Region.secure.base.toNat + offset.toNat := by
    rw [UInt64.toNat_add, UInt32.toNat_toUInt64]
    exact Nat.mod_eq_of_lt (by omega)
  have hlast : (Region.secure.base + offset.toUInt64 + size.toUInt64).toNat =
      (Region.secure.base + offset.toUInt64).toNat + size.toNat := by
    rw [UInt64.toNat_add, UInt32.toNat_toUInt64]
    exact Nat.mod_eq_of_lt (by omega)
  have hrefused : (size = 0 ∨
      Region.secure.position? (Region.secure.base + offset.toUInt64) size.toNat = none) ↔
      ¬(0 < size.toNat ∧ offset.toNat + size.toNat ≤ areaSize) := by
    rw [← UInt32.toNat_inj, UInt32.toNat_zero, Region.position?_eq_none_iff, hfirst]
    omega
  unfold setWindow
  dsimp only
  constructor
  · intro h
    split at h
    · cases h
    · rename_i haccepted
      cases h
      exact ⟨Decidable.not_not.mp (mt hrefused.mpr haccepted), _, _, hfirst, hlast, rfl⟩
  · rintro ⟨haccepted, first, last, hfirst', hlast', rfl⟩
    obtain rfl := UInt64.toNat_inj.mp (hfirst'.trans hfirst.symm)
    obtain rfl := UInt64.toNat_inj.mp (hlast'.trans hlast.symm)
    exact if_neg fun h => hrefused.mp h haccepted

/-- **A buffer of `n` bytes can be staged at `a`**, whatever the bytes are. -/
structure Admits (m : SharedMemory) (n : Nat) (use : BufferUse) (a : Address) : Prop where
  cursor_eq : m.cursor (regionOf use) = a
  fits : ∃ limit, m.limit? (regionOf use) = some limit ∧ a.toNat + wholeWords n ≤ limit
  short : use.short = true → a &&& ~~~(0xFFFF : UInt64) = Region.secure.base
  inside : ∃ i, (regionOf use).position? a n = some i

/-- **The memory with a buffer staged** at a position of its area: the bytes written, the cursor moved on
by whole words, and a new `Registration`. -/
def staged (m : SharedMemory) (data : Bytes) (use : BufferUse) (i : Nat) : SharedMemory :=
  let a := m.cursor (regionOf use)
  let written := m.withArea ((m.area (regionOf use)).write i data) (regionOf use)
  let moved := written.withCursor (a + UInt64.ofNat (wholeWords data.length)) (regionOf use)
  moved.withRegistration ⟨a, data.length, use⟩

/-- A buffer is registered at an address just if it can be staged there, and the memory is then `staged`.
The address is where its area goes on. -/
theorem register_eq_some_iff {use : BufferUse} :
    m.register data use = some (a, after) ↔
      m.Admits data.length use a ∧
        ∃ i, (regionOf use).position? a data.length = some i ∧ after = m.staged data use i := by
  unfold register
  rw [← regionOf]
  constructor
  · -- The checks, in the order in which they are made: the window, the room in it, the short form, the
    -- place in the region.
    intro h
    obtain ⟨limit, hlimit, h⟩ := Option.bind_eq_some_iff.mp h
    dsimp only at h
    split at h
    · cases h
    rename_i hroom
    split at h
    · cases h
    rename_i hshort
    obtain ⟨i, hi, h⟩ := Option.bind_eq_some_iff.mp h
    cases h
    refine ⟨⟨rfl, ⟨limit, hlimit, Nat.not_lt.mp hroom⟩, fun hs => ?_, i, hi⟩, i, hi, rfl⟩
    exact Decidable.not_not.mp fun hne => hshort ⟨hs, hne⟩
  · rintro ⟨⟨rfl, ⟨limit, hlimit, hle⟩, hshort, -⟩, i, hi, rfl⟩
    simp only [hlimit, Option.bind_eq_bind, Option.bind_some, hi]
    rw [if_neg (Nat.not_lt.mpr hle), if_neg fun h => h.2 (hshort h.1)]
    rfl

/-- `staged` keeps the window that has been granted. -/
theorem window_staged {use : BufferUse} : (m.staged data use i).window = m.window := by
  unfold staged
  dsimp only
  rw [window_withRegistration]
  cases regionOf use <;> rfl

/-- `staged` moves the cursor of the area behind the whole words of the buffer, and no other cursor. -/
theorem cursor_staged {use : BufferUse} : (m.staged data use i).cursor (regionOf use) =
    m.cursor (regionOf use) + UInt64.ofNat (wholeWords data.length) := by
  unfold staged
  dsimp only
  rw [cursor_withRegistration, cursor_withCursor]

/-- That does not wrap around where there is room for the buffer, as every caller of `staged` has made
sure. -/
theorem toNat_cursor_staged {use : BufferUse}
    (h : (m.cursor (regionOf use)).toNat + wholeWords data.length < UInt64.size) :
    ((m.staged data use i).cursor (regionOf use)).toNat =
      (m.cursor (regionOf use)).toNat + wholeWords data.length := by
  rw [cursor_staged, UInt64.toNat_add,
    UInt64.toNat_ofNat_of_lt' (Nat.lt_of_le_of_lt (Nat.le_add_left _ _) h)]
  exact Nat.mod_eq_of_lt h

/-! ## (4) Writing -/

/-- **The bytes after a write**: the data where it was written, and all others as they were. -/
def Writes (m : SharedMemory) (a : Address) (data : Bytes) (after : SharedMemory) : Prop :=
  ∀ x, after.byteAt? x = if a.Spans data.length x then data[x - a.toNat]? else m.byteAt? x

/-- Writing nothing changes no byte, at any `Address`. -/
theorem Writes.refl (m : SharedMemory) (a : Address) : m.Writes a [] m := by
  intro x
  rw [if_neg fun h => absurd (Nat.lt_of_le_of_lt h.1 h.2) (Nat.lt_irrefl _)]

/-- **Writing into an area** is a write, at the address whose position it is. -/
theorem writes_withArea (m : SharedMemory) (h : region.position? a data.length = some i) :
    m.Writes a data (m.withArea ((m.area region).write i data) region) := by
  obtain ⟨-, hle, ha⟩ := Region.position?_eq_some_iff.mp h
  intro x
  have hspan : a.Spans data.length x ↔
      region.base.toNat + i ≤ x ∧ x < region.base.toNat + i + data.length := by
    rw [Address.Spans, ha]
  by_cases hx : ∃ (other : Region) (j : Nat), j < areaSize ∧ x = other.base.toNat + j
  · obtain ⟨other, j, hj, rfl⟩ := hx
    rw [byteAt?_of_lt _ other hj, byteAt?_of_lt _ other hj]
    by_cases hother : other = region
    · subst hother
      rw [area_withArea, Area.getElem?_write hle]
      have hinside : a.Spans data.length (other.base.toNat + j) ↔ i ≤ j ∧ j < i + data.length := by
        rw [hspan]
        omega
      simp only [hinside, ha, Nat.add_sub_add_left]
    · rw [area_withArea_of_ne hother, if_neg]
      -- What is spanned lies in the other area.
      intro hs
      have hinside := hspan.mp hs
      have hk : other.base.toNat + j - region.base.toNat < areaSize := by omega
      exact hother (Region.eq_of_base_add_eq hj hk (by omega))
  · have hnone (m : SharedMemory) : m.byteAt? x = none := byteAt?_eq_none fun other j hj hxj =>
      hx ⟨other, j, hj, hxj⟩
    rw [hnone, hnone, if_neg]
    intro hs
    have hinside := hspan.mp hs
    exact hx ⟨region, x - region.base.toNat, by omega, by omega⟩

/-- **Staging a buffer writes it** at the address it is staged at, and no other byte. -/
theorem Registers.writes {use : BufferUse} (h : m.Registers data use a after) :
    m.Writes a data after := by
  obtain ⟨i, hi, hwritten⟩ := h.written
  intro x
  rw [← writes_withArea m hi x]
  refine byteAt?_congr (fun region => ?_) x
  by_cases hregion : region = regionOf use
  · rw [hregion, hwritten, area_withArea]
  · rw [(h.others region hregion).1, area_withArea_of_ne hregion]

/-- **What a store does** if it has something to store: an output covers it, and it lies in an area. -/
theorem store_eq_ok_iff (hne : data ≠ []) :
    m.store a data = .ok after ↔
      (∃ r ∈ m.registrations, r.use.output = true ∧ r.covers a data.length = true) ∧
      ∃ (region : Region) (i : Nat), region.position? a data.length = some i ∧
        after = m.withArea ((m.area region).write i data) region := by
  have hwritable : m.writable a data.length = true ↔
      ∃ r ∈ m.registrations, r.use.output = true ∧ r.covers a data.length = true := by
    simp only [writable, List.any_eq_true, Bool.and_eq_true]
  -- A store that is not empty is judged by the registrations first and by the region after.
  rw [← hwritable, store_exact, if_neg (by rwa [List.isEmpty_iff])]
  constructor
  · intro h
    split at h
    · rename_i hw
      split at h
      · rename_i region _
        split at h
        · rename_i i hi
          cases h
          exact ⟨hw, region, i, hi, rfl⟩
        · cases h
      · cases h
    · cases h
  · rintro ⟨hw, region, i, hi, rfl⟩
    rw [if_pos hw, Region.ofAddress?_of_position? hi]
    dsimp only
    rw [hi]

/-- **Storing with `store` writes the data** at the address it was stored at, and no other byte. -/
theorem writes_of_store (h : m.store a data = .ok after) : m.Writes a data after := by
  by_cases hne : data = []
  · subst hne
    cases h
    exact .refl m a
  · obtain ⟨-, region, i, hi, rfl⟩ := (store_eq_ok_iff hne).mp h
    exact writes_withArea m hi

/-! ## (5) Calls -/

/-- **What can be asked of shared memory**, by a client or an engine. Each `Operation` is one of the calls
of `SharedMemory`. -/
inductive Operation
  | setWindow (offset size : UInt32)
  | register (data : Bytes) (use : BufferUse)
  | load (a : Address) (n : Nat)
  | store (a : Address) (data : Bytes)
  | readBack (a : Address) (n : Nat)
  | reset
deriving DecidableEq

/-- **What is answered** to an `Operation`, at the client or at the engine. -/
inductive Answer
  /-- It is done. -/
  | done
  /-- The buffer is at this address. -/
  | placed (a : Address)
  /-- The bytes that were asked for. -/
  | found (bytes : Bytes)
  /-- The client is refused. -/
  | refused
  /-- The engine gets an error. -/
  | failed (e : EngineError)
deriving DecidableEq

/-- Whether an answer tells of a failure: `refused` at the client, or `failed` at the engine. -/
def Answer.fails : Answer → Bool
  | refused | failed _ => true
  | _ => false

/-- **One call**, with its answer and the memory afterwards. A call whose `Answer` is a failure leaves the
memory as it was. -/
def perform (m : SharedMemory) : Operation → Answer × SharedMemory
  | .setWindow offset size =>
    match m.setWindow offset size with
    | some after => (.done, after)
    | none => (.refused, m)
  | .register data use =>
    match m.register data use with
    | some (a, after) => (.placed a, after)
    | none => (.refused, m)
  | .load a n =>
    match m.load a n with
    | .ok bytes => (.found bytes, m)
    | .error e => (.failed e, m)
  | .store a data =>
    match m.store a data with
    | .ok after => (.done, after)
    | .error e => (.failed e, m)
  | .readBack a n =>
    match m.readBack a n with
    | some bytes => (.found bytes, m)
    | none => (.refused, m)
  | .reset => (.done, m.reset)

/-- **What a sequence of calls is answered**, each by `perform` in the memory that the one before it
left. -/
def answers (m : SharedMemory) : List Operation → List Answer
  | [] => []
  | op :: rest => (m.perform op).1 :: answers (m.perform op).2 rest

/-- **A call that was made**, with its answer: an `Operation` and the `Answer` to it. -/
structure Call where
  operation : Operation
  answer : Answer
deriving DecidableEq

/-- What a call wrote, and where: a buffer that was registered, or bytes that were stored. -/
def Call.written? : Call → Option (Address × Bytes)
  | ⟨.register data _, .placed a⟩ => some (a, data)
  | ⟨.store a data, .done⟩ => some (a, data)
  | _ => none

/-- The `Call` that an operation is in a memory: the operation, with what `perform` answers. -/
def callOf (m : SharedMemory) (op : Operation) : Call := ⟨op, (m.perform op).1⟩

/-- **What a call does**, and the memory that it leaves: a window, a registration, a store or a reset, and
nothing otherwise. -/
inductive Step (m : SharedMemory) : Call → SharedMemory → Prop
  | windowSet {offset size : UInt32} {after : SharedMemory}
      (h : m.setWindow offset size = some after) : Step m ⟨.setWindow offset size, .done⟩ after
  | registered {data : Bytes} {use : BufferUse} {a : Address} {after : SharedMemory}
      (h : m.register data use = some (a, after)) : Step m ⟨.register data use, .placed a⟩ after
  | stored {a : Address} {data : Bytes} {after : SharedMemory} (h : m.store a data = .ok after) :
      Step m ⟨.store a data, .done⟩ after
  | reset : Step m ⟨.reset, .done⟩ m.reset
  /-- Whatever else is answered leaves the memory as it is. -/
  | unchanged {call : Call} (h : call.written? = none) : Step m call m

/-- What `perform` does is a `Step`, for every operation. -/
theorem step_perform (m : SharedMemory) (op : Operation) :
    m.Step (m.callOf op) (m.perform op).2 := by
  unfold callOf perform
  cases op with
  | setWindow offset size =>
    dsimp only
    cases h : m.setWindow offset size with
    | none => exact .unchanged rfl
    | some after => exact .windowSet h
  | register data use =>
    dsimp only
    cases h : m.register data use with
    | none => exact .unchanged rfl
    | some placed => exact .registered h
  | load a n =>
    dsimp only
    cases m.load a n <;> exact .unchanged rfl
  | store a data =>
    dsimp only
    cases h : m.store a data with
    | error e => exact .unchanged rfl
    | ok after => exact .stored h
  | readBack a n =>
    dsimp only
    cases m.readBack a n <;> exact .unchanged rfl
  | reset => exact .reset

variable {call : Call}

/-- **A call that fails changes nothing**, neither a byte nor a registration nor the window. -/
theorem Step.eq_of_fails (h : m.Step call after) (hfails : call.answer.fails = true) :
    after = m := by
  cases h with
  | unchanged => rfl
  | _ => cases hfails

/-- Setting the window with `setWindow` changes no byte. -/
theorem byteAt?_setWindow {offset size : UInt32} (h : m.setWindow offset size = some after) (x : Nat) :
    after.byteAt? x = m.byteAt? x := by
  obtain ⟨-, first, last, -, -, rfl⟩ := setWindow_eq_some_iff.mp h
  exact byteAt?_congr (fun region => by cases region <;> rfl) x

/-- **A call leaves the bytes that it wrote**, and all others as they were. -/
theorem Step.byteAt?_eq (h : m.Step call after) (x : Nat) :
    after.byteAt? x = match call.written? with
      | some (a, data) => if a.Spans data.length x then data[x - a.toNat]? else m.byteAt? x
      | none => m.byteAt? x := by
  cases h with
  | windowSet h => exact byteAt?_setWindow h x
  | registered h => exact (registers_of_register h).writes x
  | stored h => exact writes_of_store h x
  | reset => exact byteAt?_congr (fun region => by cases region <;> rfl) x
  | unchanged h => rw [h]

end SharedMemory

end SecureEngine
