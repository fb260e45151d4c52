import SecureEngine.Proofs.Searches

/-! # What registered buffers hold

* **`SharedMemory.Registers`** — what registering a buffer does: the buffer is written at the cursor of
  its area, and the cursor passes it.
* **`SharedMemory.Shows`** — a buffer can be seen at the address it was registered at;
  **`Registers.shows`**, **`Shows.registers`** — so it can at once, and still when others have been
  registered.
* **`Shows.load_eq`** — the engine loads the front of such a buffer.
* **`Shows.readBack_store`** — what the engine stores there is read back, before what was there. -/

namespace SecureEngine

/-! ## (1) Byte strings -/

/-- Data written into a buffer comes before what it does not cover: `slice` sees the two in a row. -/
theorem Bytes.slice_patch_of_le {base data : Bytes} {start n : Nat} (hn : data.length ≤ n)
    (h : start + n ≤ base.length) :
    slice (patch base start data) start n = data ++ (slice base start n).drop data.length := by
  have hl : (base.take start).length = start := by rw [List.length_take]; omega
  rw [slice, patch, List.drop_left' hl, List.take_append, List.take_of_length_le hn, slice,
    List.drop_take, List.drop_drop]

/-- Data written behind some bytes leaves them as they were: `slice` does not see it. -/
theorem Bytes.slice_patch_of_before {base data : Bytes} {start first n : Nat} (hn : first + n ≤ start)
    (h : start ≤ base.length) : slice (patch base start data) first n = slice base first n := by
  have hl : (base.take start).length = start := by rw [List.length_take]; omega
  rw [slice, patch, List.drop_append_of_le_length (by omega), List.take_append_of_le_length,
    List.drop_take, List.take_take, Nat.min_eq_left (by omega), slice]
  rw [List.length_drop]
  omega

namespace Area

/-- As many bytes are read from an area as were asked for, if they lie in it. -/
theorem length_read {area : Area} {start n : Nat} (h : start + n ≤ areaSize) :
    (area.read start n).length = n := by
  rw [read, Bytes.slice, List.length_take, List.length_drop, area.length_cells]
  omega

/-- What was written at the front of some bytes is read in front of the rest of them. -/
theorem read_write_of_le {area : Area} {start n : Nat} {data : Bytes} (hn : data.length ≤ n)
    (h : start + n ≤ areaSize) :
    (area.write start data).read start n = data ++ (area.read start n).drop data.length := by
  rw [write, dif_pos (by omega), read, Bytes.slice_patch_of_le hn (by rw [area.length_cells]; exact h),
    read]

/-- What was written behind some bytes is not read with them: `Area.read` in front of an `Area.write` is
as before. -/
theorem read_write_of_before {area : Area} {start first n : Nat} {data : Bytes}
    (hn : first + n ≤ start) : (area.write start data).read first n = area.read first n := by
  unfold write
  split
  · rename_i h
    rw [read, Bytes.slice_patch_of_before hn (by rw [area.length_cells]; omega), read]
  · rfl

end Area

/-! ## (2) Areas of a memory -/

namespace Region

/-- An `Address` that has a position in an area belongs to that area and to no other. -/
theorem ofAddress?_of_position? {r : Region} {a : Address} {n i : Nat} (h : r.position? a n = some i) :
    ofAddress? a = some r := by
  unfold position? at h
  split at h
  · rename_i hc
    obtain ⟨hbase, hle⟩ := hc
    rw [UInt64.le_iff_toNat_le] at hbase
    unfold ofAddress?
    cases r with
    | dma => rw [if_pos (UInt64.le_iff_toNat_le.mpr hbase)]
    | secure =>
      -- The memory for DMA begins behind the end of the secure one.
      have hsecure : secure.base.toNat = 0x20000000 := rfl
      have hdma : dma.base.toNat = 0x80000000 := rfl
      have hsize : areaSize = 0x10000 := rfl
      rw [if_neg, if_pos (UInt64.le_iff_toNat_le.mpr hbase)]
      rw [UInt64.le_iff_toNat_le]
      omega
  · cases h

/-- Positions in an area are counted from its base, and `n` bytes from there on have to lie in it. -/
theorem position?_eq_some_iff {r : Region} {a : Address} {n i : Nat} :
    r.position? a n = some i ↔ r.base.toNat ≤ a.toNat ∧ i + n ≤ areaSize ∧
      a.toNat = r.base.toNat + i := by
  unfold position?
  split
  · rename_i hc
    rw [UInt64.le_iff_toNat_le] at hc
    rw [Option.some.injEq]
    omega
  · rename_i hc
    rw [UInt64.le_iff_toNat_le] at hc
    exact ⟨nofun, fun h => absurd ⟨h.1, by omega⟩ hc⟩

/-- Areas end long before addresses do, even before those of a single word: base and `areaSize` stay below
`UInt32.size`. -/
theorem end_lt (region : Region) : region.base.toNat + areaSize < UInt32.size := by
  cases region <;> decide

/-- Bytes that lie in an area end before addresses do, so the sum of `Address.add?` fits. -/
theorem end_lt_of_position? {region : Region} {a : Address} {n i : Nat}
    (h : region.position? a n = some i) : a.toNat + n < UInt64.size := by
  obtain ⟨-, hle, ha⟩ := position?_eq_some_iff.mp h
  have hend := region.end_lt
  have hsize : UInt32.size ≤ UInt64.size := by decide
  omega

/-- Areas lie below the addresses of two words, so a request can name what is staged in one word. -/
theorem toNat_lt_of_position? {r : Region} {a : Address} {n i : Nat} (h : r.position? a n = some i) :
    a.toNat < UInt32.size := by
  obtain ⟨-, hle, ha⟩ := position?_eq_some_iff.mp h
  have hsize : areaSize = 0x10000 := rfl
  have hword : UInt32.size = 0x100000000 := rfl
  -- Both regions end below `2 ^ 32`.
  cases r with
  | dma =>
    have hbase : dma.base.toNat = 0x80000000 := rfl
    omega
  | secure =>
    have hbase : secure.base.toNat = 0x20000000 := rfl
    omega

end Region

namespace SharedMemory

variable {m : SharedMemory} {region other : Region}

/-- The content of an area is what `withArea` puts there. -/
@[simp] theorem area_withArea (m : SharedMemory) (area : Area) (region : Region) :
    (m.withArea area region).area region = area := by
  cases region <;> rfl

/-- `withArea` leaves the other area as it was. -/
theorem area_withArea_of_ne (h : other ≠ region) (area : Area) :
    (m.withArea area region).area other = m.area other := by
  cases region <;> cases other <;> first | rfl | exact absurd rfl h

/-- `withArea` does not move any cursor. -/
@[simp] theorem cursor_withArea (m : SharedMemory) (area : Area) (region other : Region) :
    (m.withArea area region).cursor other = m.cursor other := by
  cases region <;> cases other <;> rfl

/-- `withArea` changes what the buffers hold, and not which ones are staged. -/
@[simp] theorem registrations_withArea (m : SharedMemory) (area : Area) (region : Region) :
    (m.withArea area region).registrations = m.registrations := by
  cases region <;> rfl

/-- `withCursor` does not change what an area holds. -/
@[simp] theorem area_withCursor (m : SharedMemory) (cursor : Address) (region other : Region) :
    (m.withCursor cursor region).area other = m.area other := by
  cases region <;> cases other <;> rfl

/-- The cursor of an area is where `withCursor` moves it. -/
@[simp] theorem cursor_withCursor (m : SharedMemory) (cursor : Address) (region : Region) :
    (m.withCursor cursor region).cursor region = cursor := by
  cases region <;> rfl

/-- `withCursor` leaves the cursor of the other area where it was. -/
theorem cursor_withCursor_of_ne (h : other ≠ region) (cursor : Address) :
    (m.withCursor cursor region).cursor other = m.cursor other := by
  cases region <;> cases other <;> first | rfl | exact absurd rfl h

/-- `withRegistration` does not change what an area holds. -/
@[simp] theorem area_withRegistration (m : SharedMemory) (r : Registration) (region : Region) :
    (m.withRegistration r).area region = m.area region := by
  unfold withRegistration
  split
  · cases region <;> rfl
  · rfl

/-- `withRegistration` does not move any cursor: that is done beside it. -/
@[simp] theorem cursor_withRegistration (m : SharedMemory) (r : Registration) (region : Region) :
    (m.withRegistration r).cursor region = m.cursor region := by
  unfold withRegistration
  split
  · cases region <;> rfl
  · rfl

/-- `withRegistration` does not change the granted window. -/
@[simp] theorem window_withRegistration (m : SharedMemory) (r : Registration) :
    (m.withRegistration r).window = m.window := by
  unfold withRegistration
  split <;> rfl

/-- A registration that `Ends` is recorded behind the others; any other one is not recorded at all. -/
theorem registrations_withRegistration {r : Registration} (h : r.Ends) :
    (m.withRegistration r).registrations = m.registrations ++ [r] := by
  rw [withRegistration, dif_pos h]

/-- `withCursor` does not change which buffers are staged. -/
@[simp] theorem registrations_withCursor (m : SharedMemory) (cursor : Address) (region : Region) :
    (m.withCursor cursor region).registrations = m.registrations := by
  cases region <;> rfl

/-! ## (3) Registering -/

/-- The area that a buffer is staged in: `Region.secure` if its use asks for it, otherwise
`Region.dma`. -/
def regionOf (use : BufferUse) : Region := if use.secure then .secure else .dma

/-- **What registering a buffer does**: it is written at the cursor of its `regionOf`, the cursor moves
on, and a `Registration` is added. -/
structure Registers (m : SharedMemory) (data : Bytes) (use : BufferUse) (a : Address)
    (after : SharedMemory) : Prop where
  cursor_eq : m.cursor (regionOf use) = a
  /-- The buffer is written at the cursor, in its area. -/
  written : ∃ i, (regionOf use).position? a data.length = some i ∧
    after.area (regionOf use) = (m.area (regionOf use)).write i data
  others : ∀ other, other ≠ regionOf use →
    after.area other = m.area other ∧ after.cursor other = m.cursor other
  /-- The cursor passes the buffer. -/
  passed : a.toNat + data.length ≤ (after.cursor (regionOf use)).toNat
  registrations_eq : after.registrations = m.registrations ++ [⟨a, data.length, use⟩]
  short : use.short = true → a &&& ~~~(0xFFFF : UInt64) = Region.secure.base

/-- Rounding up to whole words makes no length smaller, so a buffer ends at or before where `wholeWords`
of it do. -/
theorem le_wholeWords (n : Nat) : n ≤ wholeWords n := by
  unfold wholeWords
  omega

/-- **What `SharedMemory.register` does when it succeeds**, as the fields of `Registers` tell it one by
one. -/
theorem registers_of_register {data : Bytes} {use : BufferUse} {a : Address} {after : SharedMemory}
    (h : m.register data use = some (a, after)) : m.Registers data use a after := by
  unfold register at h
  rw [← regionOf] at h
  obtain ⟨limit, hlimit, h⟩ := Option.bind_eq_some_iff.mp h
  dsimp only at h
  split at h
  · cases h
  rename_i hroom
  split at h
  · cases h
  rename_i hshort
  obtain ⟨i, hi, h⟩ := Option.bind_eq_some_iff.mp h
  cases h
  -- The sum stays below the limit of the area, so it does not wrap around.
  have hlt : limit < UInt64.size := by
    revert hlimit
    cases regionOf use with
    | dma =>
      rintro ⟨⟩
      decide
    | secure =>
      intro hlimit
      obtain ⟨window, -, rfl⟩ := Option.map_eq_some_iff.mp hlimit
      exact window.2.toNat_lt
  have hwords := le_wholeWords data.length
  have hsum : (m.cursor (regionOf use) + UInt64.ofNat (wholeWords data.length)).toNat =
      (m.cursor (regionOf use)).toNat + wholeWords data.length := by
    have hsmall : wholeWords data.length < UInt64.size := Nat.lt_of_le_of_lt (by omega) hlt
    rw [UInt64.toNat_add, UInt64.toNat_ofNat_of_lt' hsmall]
    exact Nat.mod_eq_of_lt (Nat.lt_of_le_of_lt (Nat.not_lt.mp hroom) hlt)
  refine ⟨rfl, ⟨i, hi, ?_⟩, fun other hne => ⟨?_, ?_⟩, ?_, ?_, fun hs => ?_⟩
  · rw [area_withRegistration, area_withCursor, area_withArea]
  · rw [area_withRegistration, area_withCursor, area_withArea_of_ne hne]
  · rw [cursor_withRegistration, cursor_withCursor_of_ne hne, cursor_withArea]
  · rw [cursor_withRegistration, cursor_withCursor, hsum]
    exact Nat.add_le_add_left hwords _
  · rw [registrations_withRegistration (Region.end_lt_of_position? hi), registrations_withCursor,
      registrations_withArea]
  · exact Decidable.not_not.mp fun hne => hshort ⟨hs, hne⟩

/-! ## (4) Buffers that can be seen -/

/-- **A buffer can be seen at an `Address`**, for some use. -/
structure Shows (m : SharedMemory) (data : Bytes) (use : BufferUse) (a : Address) : Prop where
  registered : ⟨a, data.length, use⟩ ∈ m.registrations
  held : ∃ i, (regionOf use).position? a data.length = some i ∧
    (m.area (regionOf use)).read i data.length = data
  /-- What is registered later is written behind it. -/
  passed : a.toNat + data.length ≤ (m.cursor (regionOf use)).toNat
  short : use.short = true → a &&& ~~~(0xFFFF : UInt64) = Region.secure.base

/-- A registered buffer can be seen at the address that `register` has told. -/
theorem Registers.shows {data : Bytes} {use : BufferUse} {a : Address} {after : SharedMemory}
    (h : m.Registers data use a after) : after.Shows data use a := by
  obtain ⟨i, hi, hwritten⟩ := h.written
  refine ⟨?_, ⟨i, hi, ?_⟩, h.passed, h.short⟩
  · rw [h.registrations_eq]
    exact List.mem_append_right _ (List.mem_singleton_self _)
  · rw [hwritten, Area.read_write (Region.position?_le hi)]

/-- **It can still be seen when another buffer has been registered**: `Shows` survives `Registers`, as the
other lies behind the cursor. -/
theorem Shows.registers {data data' : Bytes} {use use' : BufferUse} {a a' : Address}
    {after : SharedMemory} (h : m.Shows data use a) (hr : m.Registers data' use' a' after) :
    after.Shows data use a := by
  obtain ⟨i, hi, hread⟩ := h.held
  have hregistered : ⟨a, data.length, use⟩ ∈ after.registrations := by
    rw [hr.registrations_eq]
    exact List.mem_append_left _ h.registered
  by_cases hregion : regionOf use = regionOf use'
  · -- The other buffer is behind this one in the same area.
    obtain ⟨j, hj, hwritten⟩ := hr.written
    have hpassed := h.passed
    rw [hregion, hr.cursor_eq] at hpassed
    refine ⟨hregistered, ⟨i, hi, ?_⟩, ?_, h.short⟩
    · rw [hregion, hwritten, Area.read_write_of_before, ← hregion, hread]
      rw [hregion] at hi
      have hi' := (Region.position?_eq_some_iff.mp hi).2.2
      have hj' := (Region.position?_eq_some_iff.mp hj).2.2
      omega
    · have hpassed' := hr.passed
      rw [hregion]
      omega
  · obtain ⟨harea, hcursor⟩ := hr.others _ hregion
    exact ⟨hregistered, ⟨i, hi, harea ▸ hread⟩, hcursor ▸ h.passed, h.short⟩

section

variable {data : Bytes} {use : BufferUse} {a : Address}

/-- The front of a buffer that can be seen is what the memory holds at its address. -/
theorem Shows.bytesAt?_eq (h : m.Shows data use a) {n : Nat} (hn : n ≤ data.length) :
    m.bytesAt? a n = some (data.take n) := by
  obtain ⟨i, hi, hread⟩ := h.held
  have hposition : (regionOf use).position? a n = some i := by
    rw [Region.position?_eq_some_iff] at hi ⊢
    omega
  -- The front of what is held is the front of what was written.
  have hfront : (m.area (regionOf use)).read i n = data.take n := by
    rw [← hread, Area.read, Area.read, Bytes.slice, Bytes.slice, List.take_take,
      Nat.min_eq_left hn]
  rw [bytesAt?, Region.ofAddress?_of_position? hi]
  simp only [Option.bind_eq_bind, Option.bind_some, hposition, hfront]
  rfl

/-- **The engine loads the front of a buffer that can be seen**: its registration covers these bytes, and
no sum overflows. -/
theorem Shows.load_eq (h : m.Shows data use a) {n : Nat} (hn : n ≤ data.length) :
    m.load a n = .ok (data.take n) := by
  rw [load_exact]
  split
  · rename_i hzero
    rw [hzero, List.take_zero]
  rw [if_pos, h.bytesAt?_eq hn]
  refine List.any_eq_true.mpr ⟨_, h.registered, ?_⟩
  exact Registration.covers_eq_true_iff.mpr ⟨Nat.le_refl _, Nat.add_le_add_left hn _⟩

/-- An output is read back as what the memory holds, since its registration allows for it. -/
theorem Shows.readBack_eq (h : m.Shows data use a) (hout : use.output = true) :
    m.readBack a data.length = m.bytesAt? a data.length := by
  rw [readBack, if_pos]
  refine List.any_eq_true.mpr ⟨_, h.registered, ?_⟩
  simp [hout]

/-- **What the engine stores at an output is read back**, before what it does not cover. It can only store
as much as the buffer holds. -/
theorem Shows.readBack_store (h : m.Shows data use a) (hout : use.output = true)
    (hone : ∀ r ∈ m.registrations, r.use.output = true → r = ⟨a, data.length, use⟩)
    {stored : Bytes} {after : SharedMemory} (hs : m.store a stored = .ok after) :
    stored.length ≤ data.length ∧
      after.readBack a data.length = some (stored ++ data.drop stored.length) := by
  obtain ⟨i, hi, hread⟩ := h.held
  have hregion := Region.ofAddress?_of_position? hi
  rw [store_exact] at hs
  split at hs
  · -- Nothing is stored.
    rename_i hempty
    obtain rfl := List.isEmpty_iff.mp hempty
    cases hs
    refine ⟨Nat.zero_le _, ?_⟩
    rw [h.readBack_eq hout, h.bytesAt?_eq (Nat.le_refl _), List.take_length]
    rfl
  split at hs
  · rename_i hwritable
    obtain ⟨r, hr, hcovers⟩ := List.any_eq_true.mp hwritable
    rw [Bool.and_eq_true] at hcovers
    obtain rfl := hone r hr hcovers.1
    have hle : stored.length ≤ data.length := by
      have hend := (Registration.covers_eq_true_iff.mp hcovers.2).2
      exact Nat.le_of_add_le_add_left hend
    have hposition : (regionOf use).position? a stored.length = some i := by
      rw [Region.position?_eq_some_iff] at hi ⊢
      omega
    rw [hregion] at hs
    dsimp only at hs
    rw [hposition] at hs
    cases hs
    refine ⟨hle, ?_⟩
    rw [readBack, registrations_withArea, if_pos, bytesAt?, hregion]
    · simp only [Option.bind_eq_bind, Option.bind_some, hi, area_withArea]
      rw [Area.read_write_of_le hle (Region.position?_le hi), hread]
      rfl
    · refine List.any_eq_true.mpr ⟨_, h.registered, ?_⟩
      simp [hout]
  · cases hs

end

end SharedMemory

end SecureEngine
