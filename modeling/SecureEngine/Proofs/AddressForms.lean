import SecureEngine.Proofs.Isolation
import SecureEngine.Proofs.Room

/-! # Addresses that messages can carry

A message has room for the lower word of an address, for both of its words, or for an offset in the
secure RAM. What staging hands out can be told in each of these forms.

* **`SharedMemory.ofShort_short_iff`** — an offset names the addresses of the secure RAM, and no others;
  **`SharedMemory.exists_register_short_iff`** — staging asks for just this.
* **`SharedMemory.Confined`** — staging goes on inside what is granted, and that lies in an area:
  `Reachable.confined`, also if the window is set anew while buffers are registered.
* **`SharedMemory.Confined.exists_register_iff`** — bytes are staged in a window just if they fit, short
  addresses or not.
* **`SharedMemory.Lossless`**, **`SharedMemory.lossless_afterAll`** — no form loses an address, whatever
  has been called before. -/

namespace SecureEngine

namespace SharedMemory

variable {m after : SharedMemory} {region : Region} {limit : Nat} {a : Address} {data : Bytes}
  {use : BufferUse}

/-! ## (1) Offsets in the secure RAM -/

/-- **An offset names the addresses of the secure RAM**, and no others: going through `Address.short` and
back by `SharedMemory.ofShort` is the identity on that area only. -/
theorem ofShort_short_iff : ofShort a.short = a ↔
    Region.secure.base.toNat ≤ a.toNat ∧ a.toNat < Region.secure.base.toNat + areaSize := by
  have hshort : a.short.toNat = a.toNat % 0x10000 := UInt64.toNat_toUInt16 a
  have hsize : areaSize = 0x10000 := rfl
  -- The base is a multiple of the size of the area, so the remainder is the position in it.
  have hbase : Region.secure.base.toNat % 0x10000 = 0 := by decide
  rw [← UInt64.toNat_inj, toNat_ofShort, hshort, hsize]
  omega

/-- **What staging asks of an address that is to be short** is that the short form does not lose it. -/
theorem masked_eq_base_iff :
    a &&& ~~~(0xFFFF : UInt64) = Region.secure.base ↔ ofShort a.short = a := by
  refine ⟨ofShort_short, fun h => ?_⟩
  obtain ⟨hbase, hend⟩ := ofShort_short_iff.mp h
  exact and_eq_base hbase hend

/-- **Asking for an offset is refused just where it would lose the address**: what is staged without one
is staged with one, at the same address, if that address lies in the secure RAM. -/
theorem exists_register_short_iff (h : m.register data use = some (a, after)) :
    (∃ after, m.register data { use with short := true } = some (a, after)) ↔ ofShort a.short = a := by
  obtain ⟨hadmits, i, hi, -⟩ := register_eq_some_iff.mp h
  constructor
  · rintro ⟨after, hregister⟩
    exact masked_eq_base_iff.mp ((registers_of_register hregister).short rfl)
  · intro hnamed
    have hshort : m.Admits data.length { use with short := true } a :=
      ⟨hadmits.cursor_eq, hadmits.fits, fun _ => masked_eq_base_iff.mpr hnamed, hadmits.inside⟩
    exact ⟨_, register_eq_some_iff.mpr ⟨hshort, i, hi, rfl⟩⟩

/-! ## (2) Where staging goes on -/

/-- **Staging goes on inside what is granted, or right behind it**, and grants lie in their areas. -/
structure Confined (m : SharedMemory) : Prop where
  granted : ∀ region front limit, m.grant? region = some (front, limit) →
    region.base.toNat ≤ front ∧ limit ≤ region.base.toNat + areaSize
  staging : ∀ region front limit, m.grant? region = some (front, limit) →
    front ≤ (m.cursor region).toNat ∧ (m.cursor region).toNat ≤ limit

/-- Nothing is granted or registered at the start, so there is nothing to lie outside. -/
theorem confined_start : Confined {} where
  granted region _ _ h := by
    cases region <;> cases h
    exact ⟨Nat.le_refl _, Nat.le_refl _⟩
  staging region _ _ h := by
    cases region <;> cases h
    exact ⟨Nat.le_refl _, Nat.le_add_right _ _⟩

/-- A window may be set with `setWindow` at any time. -/
theorem Confined.setWindow {offset size : UInt32} (h : m.Confined)
    (hset : m.setWindow offset size = some after) : after.Confined := by
  obtain ⟨⟨-, hinside⟩, first, last, hfirst, hlast, rfl⟩ := setWindow_eq_some_iff.mp hset
  constructor
  · intro region front limit hgrant
    -- The memory for DMA is not touched; the secure one has a new front, where its cursor is put.
    cases region with
    | dma => exact h.granted .dma front limit hgrant
    | secure =>
      cases hgrant
      omega
  · intro region front limit hgrant
    cases region with
    | dma => exact h.staging .dma front limit hgrant
    | secure =>
      cases hgrant
      exact ⟨Nat.le_refl _, hlast ▸ Nat.le_add_right _ _⟩

/-- **Staging passes the buffer**, but not the end of what is granted: `Confined` holds again after every
`SharedMemory.register` that succeeds. -/
theorem Confined.register (h : m.Confined) (hregister : m.register data use = some (a, after)) :
    after.Confined := by
  have hregisters := registers_of_register hregister
  obtain ⟨hadmits, i, -, rfl⟩ := register_eq_some_iff.mp hregister
  have hgrants := grant?_of_window_eq (window_staged : (m.staged data use i).window = m.window)
  refine ⟨fun region front limit hgrant => ?_, fun region front limit hgrant => ?_⟩
  · exact h.granted region front limit (hgrants region ▸ hgrant)
  · rw [hgrants] at hgrant
    obtain ⟨hfront, hlimit⟩ := h.staging region front limit hgrant
    -- Only the cursor of the region that is staged into moves, and the room was checked to be there.
    by_cases hregion : region = regionOf use
    · subst hregion
      obtain ⟨last, hlast, hfits⟩ := hadmits.fits
      obtain ⟨_, hgrant'⟩ := grant?_of_limit? hlast
      obtain ⟨-, rfl⟩ := Prod.mk.inj (Option.some.inj (hgrant.symm.trans hgrant'))
      obtain ⟨-, hend⟩ := h.granted _ front limit hgrant
      have hlt := (regionOf use).end_lt
      have hwide : UInt32.size ≤ UInt64.size := by decide
      rw [← hadmits.cursor_eq] at hfits
      rw [toNat_cursor_staged (by omega)]
      omega
    · rw [(hregisters.others region hregion).2]
      exact ⟨hfront, hlimit⟩

/-- What changes neither window nor cursors changes nothing about where staging goes on, so `Confined`
carries over. -/
theorem Confined.of_eq (h : m.Confined) (hwindow : after.window = m.window)
    (hcursor : ∀ region, after.cursor region = m.cursor region) : after.Confined := by
  have hgrants := grant?_of_window_eq hwindow
  exact ⟨by simpa only [hgrants] using h.granted, by simpa only [hgrants, hcursor] using h.staging⟩

/-- A store grants and registers nothing, so what was `Confined` still is. -/
theorem Confined.store (h : m.Confined) (hstore : m.store a data = .ok after) : after.Confined := by
  rcases exists_withArea_of_store hstore with rfl | ⟨area, region, rfl⟩
  · exact h
  · refine h.of_eq ?_ (cursor_withArea m area region)
    cases region <;> rfl

/-- A `reset` goes back to the front of what is granted. -/
theorem Confined.reset (h : m.Confined) : m.reset.Confined := by
  have hgrants (region : Region) : m.reset.grant? region = m.grant? region :=
    grant?_of_window_eq rfl region
  refine ⟨by simpa only [hgrants] using h.granted, fun region front limit hgrant => ?_⟩
  rw [hgrants] at hgrant
  obtain ⟨hfront, hlimit⟩ := h.staging region front limit hgrant
  cases region with
  | secure =>
    obtain ⟨⟨first, last⟩, hwindow, hpair⟩ := Option.map_eq_some_iff.mp hgrant
    cases hpair
    have hcursor : m.reset.cursor .secure = first := by rw [cursor, SharedMemory.reset, hwindow]
    rw [hcursor]
    exact ⟨Nat.le_refl _, Nat.le_trans hfront hlimit⟩
  | dma =>
    cases hgrant
    exact ⟨Nat.le_refl _, Nat.le_add_right _ _⟩

/-- **In every memory that can come about** staging goes on inside what is granted. -/
theorem Reachable.confined (h : m.Reachable) : m.Confined := by
  induction h with
  | start => exact confined_start
  | setWindow _ hset ih => exact ih.setWindow hset
  | register _ hregister ih => exact ih.register hregister
  | store _ hstore ih => exact ih.store hstore
  | reset _ ih => exact ih.reset

/-! ## (3) Staging in a window -/

/-- **There is room up to the end of what is granted**: a buffer that ends at or before
`SharedMemory.limit?` is one that the memory `Offers` room for. -/
theorem Confined.offers (h : m.Confined) (hlimit : m.limit? region = some limit) {n : Nat}
    (hfits : (m.cursor region).toNat + n ≤ limit) : m.Offers region n := by
  obtain ⟨front, hgrant⟩ := grant?_of_limit? hlimit
  obtain ⟨hbase, hend⟩ := h.granted region front limit hgrant
  obtain ⟨hfront, -⟩ := h.staging region front limit hgrant
  exact ⟨Nat.le_trans hbase hfront, limit, hlimit, hfits, hend⟩

/-- **Bytes are staged in a window just if they fit**: up to its last byte, no `Address` in it is too long
to be short. -/
theorem Confined.exists_register_iff (h : m.Confined) {first last : Address}
    (hwindow : m.window = some (first, last)) (hne : data ≠ []) (hsecure : use.secure = true) :
    (∃ a after, m.register data use = some (a, after)) ↔
      m.secureCursor.toNat + wholeWords data.length ≤ last.toNat := by
  have hregion : regionOf use = .secure := if_pos hsecure
  have hlimit : m.limit? .secure = some last.toNat := by
    rw [limit?, hwindow]
    rfl
  constructor
  · rintro ⟨a, after, hregister⟩
    obtain ⟨⟨rfl, ⟨limit, hsome, hfits⟩, -, -⟩, -⟩ := register_eq_some_iff.mp hregister
    rw [hregion, hlimit] at hsome
    cases hsome
    rwa [hregion] at hfits
  · intro hfits
    have hoffers : m.Offers (regionOf use) (wholeWords data.length + 0) :=
      hregion ▸ h.offers hlimit hfits
    obtain ⟨a, after, hregister, -⟩ := hoffers.exists_register hne fun _ => hsecure
    exact ⟨a, after, hregister⟩

/-- **What is staged first in a window begins at its front**, which its offset names. -/
theorem Confined.exists_register_of_setWindow (h : m.Confined) {offset size : UInt32}
    (hset : m.setWindow offset size = some after) (hne : data ≠ []) (hsecure : use.secure = true)
    (hfits : wholeWords data.length ≤ size.toNat) :
    ∃ filled, after.register data use = some (ofShort offset.toUInt16, filled) := by
  have hconfined := h.setWindow hset
  obtain ⟨⟨hpos, hinside⟩, first, last, hfirst, hlast, rfl⟩ := setWindow_eq_some_iff.mp hset
  obtain ⟨a, filled, hregister⟩ := (hconfined.exists_register_iff rfl hne hsecure).mpr
    (Nat.le_trans (Nat.add_le_add_left hfits _) (Nat.le_of_eq hlast.symm))
  -- The cursor stands at the front of a new window, and the front is the offset in short form.
  have hcursor : first = a := by
    have hcursor := (registers_of_register hregister).cursor_eq
    rwa [regionOf, if_pos hsecure] at hcursor
  have hfront : first = ofShort offset.toUInt16 := by
    have hsize : areaSize = 0x10000 := rfl
    have hoffset : offset.toUInt16.toNat = offset.toNat :=
      (UInt32.toNat_toUInt16 offset).trans (Nat.mod_eq_of_lt (by omega))
    rw [← UInt64.toNat_inj, toNat_ofShort, hoffset, hfirst]
  exact ⟨filled, hfront ▸ hcursor ▸ hregister⟩

/-! ## (4) After any calls -/

/-- The memory that a sequence of calls leaves, each performed by `SharedMemory.perform` on what the one
before it left. -/
def afterAll (m : SharedMemory) : List Operation → SharedMemory
  | [] => m
  | op :: rest => afterAll (m.perform op).2 rest

/-- A call leads from a `Reachable` memory to a reachable one. -/
theorem Reachable.step {call : Call} (h : m.Reachable) (hstep : m.Step call after) :
    after.Reachable := by
  cases hstep with
  | windowSet hset => exact h.setWindow hset
  | registered hregister => exact h.register hregister
  | stored hstore => exact h.store hstore
  | reset => exact h.reset
  | unchanged => exact h

/-- Any sequence of calls leads from a `Reachable` memory to a reachable one. -/
theorem Reachable.afterAll (h : m.Reachable) (ops : List Operation) : (m.afterAll ops).Reachable := by
  induction ops generalizing m with
  | nil => exact h
  | cons op rest ih => exact ih (h.step (m.step_perform op))

/-- **No form loses an address that staging hands out**: neither the low word `Address.low`, nor the
offset `Address.short` where a buffer was staged to be named by one. -/
structure Lossless (m : SharedMemory) : Prop where
  /-- One word is enough for it. -/
  low : ∀ data use a after, m.register data use = some (a, after) →
    a.toNat < UInt32.size ∧ a.low.toUInt64 = a
  /-- An offset is, if the buffer was staged for one. -/
  short : ∀ data use a after, m.register data use = some (a, after) → use.short = true →
    ofShort a.short = a
  /-- Any other could have been staged for one, just if an offset names its address. -/
  short_iff : ∀ data use a after, m.register data use = some (a, after) →
    ((∃ after, m.register data { use with short := true } = some (a, after)) ↔ ofShort a.short = a)
  /-- Offsets cost no room: whatever the window and wherever it ends, bytes are staged just if they fit. -/
  room : ∀ first last, m.window = some (first, last) → ∀ data use, data ≠ [] → use.secure = true →
    ((∃ a after, m.register data use = some (a, after)) ↔
      m.secureCursor.toNat + wholeWords data.length ≤ last.toNat)
  /-- Every window that is accepted can be filled from its front. -/
  filled : ∀ offset size opened, m.setWindow offset size = some opened →
    ∀ data use, data ≠ [] → use.secure = true → wholeWords data.length ≤ size.toNat →
      ∃ after, opened.register data use = some (ofShort offset.toUInt16, after)

/-- **Addresses survive every form that a message has for them**, whatever has been called before. Two
words are enough for any `Address`. -/
theorem lossless_afterAll (ops : List Operation) :
    (afterAll {} ops).Lossless ∧ ∀ a : Address, .join a.high a.low = a := by
  have hconfined := (Reachable.start.afterAll ops).confined
  -- The short form loses nothing after any calls; the window needs the invariant of `Confined`.
  refine ⟨⟨?_, ?_, fun _ _ _ _ => exists_register_short_iff, ?_, ?_⟩, Address.join_high_low⟩
  · intro data use a after hregister
    obtain ⟨i, hi, -⟩ := (registers_of_register hregister).written
    have hlt := Region.toNat_lt_of_position? hi
    exact ⟨hlt, Address.toUInt64_low hlt⟩
  · intro data use a after hregister hshort
    exact ofShort_short ((registers_of_register hregister).short hshort)
  · intro first last hwindow data use hne hsecure
    exact hconfined.exists_register_iff hwindow hne hsecure
  · intro offset size opened hset data use hne hsecure hfits
    exact hconfined.exists_register_of_setWindow hset hne hsecure hfits

/-- A window that ends with the secure RAM, and a buffer that is staged in its last word. -/
theorem lossless_afterAll_lastWord :
    let use : BufferUse := { input := true, secure := true, short := true }
    let m := afterAll {} [.setWindow 0xfff0 16, .register (Bytes.blank 12) use]
    (∃ after, m.register [1, 2, 3, 4] use = some (0x2000fffc, after)) ∧
      ofShort (Address.short 0x2000fffc) = 0x2000fffc ∧ m.Lossless := by
  intro use m
  have hlossless : m.Lossless := (lossless_afterAll _).1
  have hplaced : (m.register [1, 2, 3, 4] use).map (·.1) = some 0x2000fffc := by decide
  obtain ⟨⟨a, after⟩, hregister, rfl⟩ := Option.map_eq_some_iff.mp hplaced
  exact ⟨⟨after, hregister⟩, hlossless.short _ _ _ _ hregister rfl, hlossless⟩

end SharedMemory

end SecureEngine
