import SecureEngine.Proofs.MemoryCalls

/-! # Buffers in shared memory do not meet

As long as the window is only set while nothing is registered, every registered buffer has its bytes to
itself.

* **`Registration.Covers`**, **`Registration.Apart`** — bytes that a buffer has, and buffers that share
  none.
* **`SharedMemory.grant?`** — the addresses that buffers of an area are staged at.
* **`SharedMemory.LaidOut`** — how the buffers lie: apart, each inside the grant of its area and behind
  all that were registered before; `LaidOut.step`: every call in its time keeps it so.
* **`SharedMemory.Traced`** — a memory with the calls that have led to it; **`SharedMemory.lastWritten`** —
  the byte that they wrote last at an address.
* **`SharedMemory.Isolated`**, **`SharedMemory.isolated_of_traced`** — what loads and stores are
  answered, and what they find and leave. -/

namespace SecureEngine

/-! ## (1) The addresses of a buffer -/

namespace Registration

variable {r s : Registration} {a : Address} {n x : Nat}

/-- **All of the `n` bytes at `a` are bytes of the buffer.** -/
def Covers (r : Registration) (a : Address) (n : Nat) : Prop := ∀ x, a.Spans n x → r.Holds x

/-- **Two buffers share no byte**: there is no address that both `Registration`s hold. -/
def Apart (r s : Registration) : Prop := ∀ x, ¬(r.Holds x ∧ s.Holds x)

/-- Two buffers share no byte in either order, so `Apart` may be used from either of them. -/
theorem Apart.symm (h : r.Apart s) : s.Apart r := fun x hx => h x hx.symm

/-- Comparing the ends, as `Registration.covers` does, is asking for every byte. -/
theorem covers_iff (hn : 0 < n) : r.covers a n = true ↔ r.Covers a n := by
  constructor
  · exact fun h x hx => holds_of_covers h hx
  · intro h
    rw [covers_eq_true_iff]
    obtain ⟨hfirst, -⟩ := h a.toNat ⟨Nat.le_refl _, by omega⟩
    obtain ⟨-, hlast⟩ := h (a.toNat + n - 1) ⟨by omega, by omega⟩
    exact ⟨hfirst, by omega⟩

/-- Buffers that both cover some bytes are not `Apart`. -/
theorem Covers.not_apart (hr : r.Covers a n) (hs : s.Covers a n) (hn : 0 < n) : ¬r.Apart s := by
  have hfirst : a.Spans n a.toNat := ⟨Nat.le_refl _, by omega⟩
  exact fun h => h _ ⟨hr _ hfirst, hs _ hfirst⟩

/-- Among buffers that are pairwise `Apart`, any two are the same or apart. -/
theorem eq_or_apart {rs : List Registration} (h : rs.Pairwise Apart) (hr : r ∈ rs) (hs : s ∈ rs) :
    r = s ∨ r.Apart s := by
  obtain ⟨i, hi, rfl⟩ := List.mem_iff_getElem.mp hr
  obtain ⟨j, hj, rfl⟩ := List.mem_iff_getElem.mp hs
  rw [List.pairwise_iff_getElem] at h
  rcases Nat.lt_trichotomy i j with hlt | rfl | hlt
  · exact Or.inr (h i j hi hj hlt)
  · exact Or.inl rfl
  · exact Or.inr (h j i hj hi hlt).symm

end Registration

namespace SharedMemory

variable {m after : SharedMemory} {region : Region} {a : Address} {n x front limit : Nat}
  {data : Bytes} {use : BufferUse} {calls : List Call} {call : Call} {r : Registration}

/-! ## (2) How buffers lie -/

/-- **The addresses that buffers of an area are staged at**: the first, and the one after the last. For
the secure RAM that is the window, if it has been set. -/
def grant? (m : SharedMemory) : Region → Option (Nat × Nat)
  | .secure => m.window.map fun (first, last) => (first.toNat, last.toNat)
  | .dma => some (Region.dma.base.toNat, Region.dma.base.toNat + areaSize)

/-- **A buffer lies inside the grant of its area**: between the front and the limit that
`SharedMemory.grant?` has for the `BufferUse`. -/
def Grants (m : SharedMemory) (r : Registration) : Prop :=
  ∃ front limit, m.grant? (regionOf r.use) = some (front, limit) ∧
    front ≤ r.address.toNat ∧ r.address.toNat + r.length ≤ limit

/-- **How buffers lie in shared memory**: inside what is granted, one behind the other by the cursor of
their area, and `Apart` from each other. -/
structure LaidOut (m : SharedMemory) : Prop where
  /-- The window lies in the secure RAM. -/
  window_inside : ∀ front limit, m.grant? .secure = some (front, limit) →
    Region.secure.base.toNat ≤ front ∧ limit ≤ Region.secure.base.toNat + areaSize
  /-- Staging goes on inside the grant. -/
  front_le : ∀ region front limit, m.grant? region = some (front, limit) →
    front ≤ (m.cursor region).toNat
  inside : ∀ r ∈ m.registrations, m.Grants r
  /-- It goes on behind what has been registered. -/
  passed : ∀ r ∈ m.registrations, r.address.toNat + r.length ≤ (m.cursor (regionOf r.use)).toNat
  apart : m.registrations.Pairwise Registration.Apart

/-- Grants lie in their areas: what `SharedMemory.grant?` gives of a `Region` begins and ends in its
`areaSize` bytes. -/
theorem LaidOut.grant_inside (h : m.LaidOut) (hgrant : m.grant? region = some (front, limit)) :
    region.base.toNat ≤ front ∧ limit ≤ region.base.toNat + areaSize := by
  cases region with
  | secure => exact h.window_inside front limit hgrant
  | dma =>
    obtain ⟨rfl, rfl⟩ := Prod.mk.inj (Option.some.inj hgrant)
    exact ⟨Nat.le_refl _, Nat.le_refl _⟩

/-- A buffer inside its grant lies in an area, the one that `regionOf` tells for its use. -/
theorem LaidOut.inArea (h : m.LaidOut) (hr : r ∈ m.registrations) : r.InArea := by
  obtain ⟨front, limit, hgrant, hfront, hlimit⟩ := h.inside r hr
  obtain ⟨hbase, hend⟩ := h.grant_inside hgrant
  refine ⟨regionOf r.use, r.address.toNat - (regionOf r.use).base.toNat, ?_⟩
  rw [Region.position?_eq_some_iff]
  omega

/-- **Buffers of different areas are `Apart`**: the secure RAM ends below the DMA area. -/
theorem LaidOut.apart_of_regionOf_ne (h : m.LaidOut) {r s : Registration} (hr : m.Grants r)
    (hs : m.Grants s) (hne : regionOf r.use ≠ regionOf s.use) : r.Apart s := by
  obtain ⟨front, limit, hgrant, hfront, hlimit⟩ := hr
  obtain ⟨front', limit', hgrant', hfront', hlimit'⟩ := hs
  obtain ⟨hbase, hend⟩ := h.grant_inside hgrant
  obtain ⟨hbase', hend'⟩ := h.grant_inside hgrant'
  rintro x ⟨⟨hx, hx'⟩, hy, hy'⟩
  refine hne (Region.eq_of_base_add_eq (i := x - (regionOf r.use).base.toNat)
    (j := x - (regionOf s.use).base.toNat) ?_ ?_ ?_) <;> omega

/-! ## (3) Calls keep it so -/

/-- Nothing is registered at the start, and there is no window, so the empty memory is `LaidOut`. -/
theorem laidOut_start : LaidOut {} where
  window_inside _ _ h := by cases h
  front_le region _ _ h := by
    cases region <;> cases h
    exact Nat.le_refl _
  inside := nofun
  passed := nofun
  apart := .nil

/-- Setting the window with `setWindow` while nothing is registered leaves nothing outside of it. -/
theorem LaidOut.setWindow {offset size : UInt32} (h : m.LaidOut) (hempty : m.registrations = [])
    (hset : m.setWindow offset size = some after) : after.LaidOut := by
  obtain ⟨⟨-, hinside⟩, first, last, hfirst, hlast, rfl⟩ := setWindow_eq_some_iff.mp hset
  refine ⟨?_, ?_, ?_, ?_, ?_⟩
  · rintro front limit ⟨⟩
    omega
  · intro region front limit hgrant
    cases region with
    | secure =>
      cases hgrant
      exact Nat.le_refl _
    | dma => exact h.front_le .dma front limit hgrant
  -- The other fields speak of registrations, of which there are none.
  all_goals simp only [hempty, List.not_mem_nil, false_implies, implies_true, List.Pairwise.nil]

/-- The grants of a memory depend on its window only: `SharedMemory.grant?` reads neither bytes nor
registrations. -/
theorem grant?_of_window_eq (h : after.window = m.window) (region : Region) :
    after.grant? region = m.grant? region := by
  cases region with
  | secure => rw [grant?, grant?, h]
  | dma => rfl

/-- Where staging may go on up to a limit, there is a grant that ends there. -/
theorem grant?_of_limit? (h : m.limit? region = some limit) :
    ∃ front, m.grant? region = some (front, limit) := by
  cases region with
  | secure =>
    obtain ⟨window, hwindow, rfl⟩ := Option.map_eq_some_iff.mp h
    exact ⟨window.1.toNat, by rw [grant?, hwindow]; rfl⟩
  | dma =>
    cases h
    exact ⟨_, rfl⟩

/-- **A buffer is registered behind the others**, inside the grant of its area, so `SharedMemory.register`
keeps the memory `LaidOut`. -/
theorem LaidOut.register (h : m.LaidOut) (hregister : m.register data use = some (a, after)) :
    after.LaidOut := by
  have hregisters := registers_of_register hregister
  obtain ⟨hadmits, i, hi, hafter⟩ := register_eq_some_iff.mp hregister
  have hgrants := grant?_of_window_eq (hafter ▸ window_staged : after.window = m.window)
  obtain ⟨limit, hlimit, hle⟩ := hadmits.fits
  have hpassed := hregisters.passed
  have ha : (m.cursor (regionOf use)).toNat = a.toNat := by rw [hregisters.cursor_eq]
  -- The cursor of every area stays or moves on.
  have hcursor (region : Region) : (m.cursor region).toNat ≤ (after.cursor region).toNat := by
    by_cases hregion : region = regionOf use
    · rw [hregion, ha]
      omega
    · exact Nat.le_of_eq (congrArg UInt64.toNat (hregisters.others region hregion).2.symm)
  have hnew : m.Grants ⟨a, data.length, use⟩ := by
    obtain ⟨front, hgrant⟩ := grant?_of_limit? hlimit
    exact ⟨front, limit, hgrant, ha ▸ h.front_le _ front limit hgrant,
      Nat.le_trans (Nat.add_le_add_left (le_wholeWords _) _) hle⟩
  have hmem (r : Registration) : r ∈ after.registrations →
      r ∈ m.registrations ∨ r = ⟨a, data.length, use⟩ := by
    rw [hregisters.registrations_eq, List.mem_append, List.mem_singleton]
    exact id
  refine ⟨?_, ?_, ?_, ?_, ?_⟩
  · intro front limit hgrant
    exact h.window_inside front limit (hgrants .secure ▸ hgrant)
  · intro region front limit hgrant
    exact Nat.le_trans (h.front_le region front limit (hgrants region ▸ hgrant)) (hcursor region)
  · intro r hr
    rw [Grants, hgrants]
    rcases hmem r hr with hr | rfl
    · exact h.inside r hr
    · exact hnew
  · intro r hr
    rcases hmem r hr with hr | rfl
    · exact Nat.le_trans (h.passed r hr) (hcursor _)
    · exact hpassed
  · rw [hregisters.registrations_eq, List.pairwise_append]
    refine ⟨h.apart, List.pairwise_singleton _ _, fun r hr s hs => ?_⟩
    obtain rfl := List.mem_singleton.mp hs
    by_cases hregion : regionOf r.use = regionOf use
    · -- In the same area the new buffer begins behind the other one.
      have hbehind := h.passed r hr
      rw [hregion, ha] at hbehind
      rintro x ⟨⟨-, hx⟩, hx', -⟩
      exact absurd hx (Nat.not_lt.mpr (Nat.le_trans hbehind hx'))
    · exact h.apart_of_regionOf_ne (h.inside r hr) hnew hregion

/-- What changes neither window nor cursors nor registrations changes nothing about how buffers lie. -/
theorem LaidOut.of_eq (h : m.LaidOut) (hwindow : after.window = m.window)
    (hcursor : ∀ region, after.cursor region = m.cursor region)
    (hregistrations : after.registrations = m.registrations) : after.LaidOut := by
  have hgrants := grant?_of_window_eq hwindow
  refine ⟨?_, ?_, ?_, ?_, ?_⟩
  · simpa only [hgrants] using h.window_inside
  · simpa only [hgrants, hcursor] using h.front_le
  · simpa only [Grants, hgrants, hregistrations] using h.inside
  · simpa only [hcursor, hregistrations] using h.passed
  · simpa only [hregistrations] using h.apart

/-- A store changes the content of one area with `withArea`, if anything. -/
theorem exists_withArea_of_store (h : m.store a data = .ok after) :
    after = m ∨ ∃ area region, after = m.withArea area region := by
  by_cases hne : data = []
  · subst hne
    cases h
    exact Or.inl rfl
  · obtain ⟨-, region, i, -, rfl⟩ := (store_eq_ok_iff hne).mp h
    exact Or.inr ⟨_, region, rfl⟩

/-- A store changes what buffers hold, and not where they lie, so `SharedMemory.store` keeps the memory
`LaidOut`. -/
theorem LaidOut.store (h : m.LaidOut) (hstore : m.store a data = .ok after) : after.LaidOut := by
  rcases exists_withArea_of_store hstore with rfl | ⟨area, region, rfl⟩
  · exact h
  · refine h.of_eq ?_ (cursor_withArea m area region) (registrations_withArea m area region)
    cases region <;> rfl

/-- After a `reset` no buffers are left to lie anywhere, and the cursors are back at the front. -/
theorem LaidOut.reset (h : m.LaidOut) : m.reset.LaidOut := by
  have hgrants (region : Region) : m.reset.grant? region = m.grant? region :=
    grant?_of_window_eq rfl region
  refine ⟨?_, ?_, nofun, nofun, .nil⟩
  · simpa only [hgrants] using h.window_inside
  · intro region front limit hgrant
    rw [hgrants] at hgrant
    -- The cursors go back to the front of what is granted, and no registration is left to keep apart.
    cases region with
    | secure =>
      obtain ⟨⟨first, last⟩, hwindow, hpair⟩ := Option.map_eq_some_iff.mp hgrant
      cases hpair
      exact Nat.le_of_eq (by rw [cursor, SharedMemory.reset, hwindow])
    | dma =>
      cases hgrant
      exact Nat.le_refl _

/-- **The window is only set while nothing is registered**; every other `Operation` may come at any
time. -/
def Operation.Timely (m : SharedMemory) : Operation → Prop
  | .setWindow _ _ => m.registrations = []
  | _ => True

/-- **Every call in its time leaves buffers laid out**: one case per `Operation`. -/
theorem LaidOut.step (h : m.LaidOut) (hstep : m.Step call after) (ht : call.operation.Timely m) :
    after.LaidOut := by
  cases hstep with
  | windowSet hset => exact h.setWindow ht hset
  | registered hregister => exact h.register hregister
  | stored hstore => exact h.store hstore
  | reset => exact h.reset
  | unchanged => exact h

/-! ## (4) What calls have written -/

/-- **A memory with the calls that have led to it**, from its start on, the last one first. -/
inductive Traced : SharedMemory → List Call → Prop
  | start : Traced {} []
  | call {m : SharedMemory} {calls : List Call} (h : Traced m calls) (op : Operation)
      (ht : op.Timely m) : Traced (m.perform op).2 (m.callOf op :: calls)

/-- **The byte that calls wrote last at an address**, the last call first, or nothing if none of their
`Call.written?` spans it. -/
def lastWritten (x : Nat) : List Call → Option UInt8
  | [] => none
  | call :: earlier => match call.written? with
    | some (a, data) => if a.Spans data.length x then data[x - a.toNat]? else lastWritten x earlier
    | none => lastWritten x earlier

/-- Whatever timely calls have led to a memory, its buffers are `LaidOut`, by induction on the calls. -/
theorem Traced.laidOut (h : Traced m calls) : m.LaidOut := by
  induction h with
  | start => exact laidOut_start
  | call _ op ht ih => exact ih.step (step_perform _ op) ht

/-- **Memory holds what was written last**, by the client when it registered a buffer or by the engine
when it stored. -/
theorem Traced.byteAt?_eq (h : Traced m calls) {b : UInt8} :
    lastWritten x calls = some b → m.byteAt? x = some b := by
  induction h with
  | start => nofun
  | @call m calls _ op _ ih =>
    intro hb
    unfold lastWritten at hb
    rw [(m.step_perform op).byteAt?_eq x]
    cases hwritten : (m.callOf op).written? with
    | none =>
      rw [hwritten] at hb
      exact ih hb
    | some written =>
      rw [hwritten] at hb
      dsimp only at hb ⊢
      split at hb
      · rename_i hspan
        rw [if_pos hspan, hb]
      · rename_i hspan
        rw [if_neg hspan, ih hb]

/-- What is registered after a call was registered before, or by the call: then the `Registration` is of
the bytes in `Call.written?`. -/
theorem Step.mem_registrations (h : m.Step call after) (hr : r ∈ after.registrations) :
    r ∈ m.registrations ∨ ∃ a data, call.written? = some (a, data) ∧
      r.address = a ∧ r.length = data.length := by
  -- Only `register` adds a registration: that of the buffer it has written.
  cases h with
  | windowSet hset => exact Or.inl (registrations_of_setWindow hset ▸ hr)
  | registered hregister =>
    rw [(registers_of_register hregister).registrations_eq, List.mem_append,
      List.mem_singleton] at hr
    refine hr.imp id ?_
    rintro rfl
    exact ⟨_, _, rfl, rfl, rfl⟩
  | stored hstore => exact Or.inl (registrations_of_store hstore ▸ hr)
  | reset => cases hr
  | unchanged => exact Or.inl hr

/-- **Every byte of a registered buffer has been written**, at the latest when it was registered. -/
theorem Traced.exists_lastWritten (h : Traced m calls) :
    ∀ r ∈ m.registrations, ∀ x, r.Holds x → ∃ b, lastWritten x calls = some b := by
  induction h with
  | start => nofun
  | @call m calls _ op _ ih =>
    intro r hr x hx
    unfold lastWritten
    have hbefore (hmem : r ∈ m.registrations) := ih r hmem x hx
    rcases (m.step_perform op).mem_registrations hr with hmem | ⟨a, data, hwritten, rfl, hlength⟩
    · -- A later write has written the byte anew, or left it alone.
      obtain ⟨b, hb⟩ := hbefore hmem
      split
      · rename_i a data _
        split
        · rename_i hspan
          exact ⟨_, List.getElem?_eq_getElem hspan.sub_lt⟩
        · exact ⟨b, hb⟩
      · exact ⟨b, hb⟩
    · rw [Registration.Holds, hlength] at hx
      rw [hwritten]
      dsimp only
      rw [if_pos hx]
      exact ⟨_, List.getElem?_eq_getElem (Address.Spans.sub_lt hx)⟩

/-! ## (5) Isolation -/

/-- **One registered buffer, and no other, has all of the `n` bytes at `a`**, and the use of it is as
asked. -/
def CoveredOnce (m : SharedMemory) (p : BufferUse → Prop) (a : Address) (n : Nat) : Prop :=
  ∃ r ∈ m.registrations, p r.use ∧ r.Covers a n ∧ ∀ s ∈ m.registrations, s.Covers a n → s = r

/-- Where buffers are apart, the first one that covers some bytes is the only one. -/
theorem LaidOut.coveredOnce_iff (h : m.LaidOut) (p : BufferUse → Prop) (hn : 0 < n) :
    m.CoveredOnce p a n ↔ ∃ r ∈ m.registrations, p r.use ∧ r.covers a n = true := by
  constructor
  · rintro ⟨r, hr, hp, hcovers, -⟩
    exact ⟨r, hr, hp, (Registration.covers_iff hn).mpr hcovers⟩
  · rintro ⟨r, hr, hp, hcovers⟩
    rw [Registration.covers_iff hn] at hcovers
    refine ⟨r, hr, hp, hcovers, fun s hs hcovers' => ?_⟩
    exact (Registration.eq_or_apart h.apart hs hr).resolve_right (hcovers'.not_apart hcovers hn)

/-- What a registered buffer covers lies in an area, so it has a position there and can be read. -/
theorem LaidOut.exists_position? (h : m.LaidOut) (hr : r ∈ m.registrations)
    (hcovers : r.covers a n = true) : ∃ (region : Region) (i : Nat),
      region.position? a n = some i := by
  obtain ⟨region, i, -, hi⟩ := (h.inArea hr).position?_of_covers hcovers
  exact ⟨region, i, hi⟩

/-- A load of some bytes succeeds just if one registered buffer covers them, whatever its use. -/
theorem LaidOut.load_ok_iff (h : m.LaidOut) (hn : 0 < n) :
    (∃ bytes, m.load a n = .ok bytes) ↔ m.CoveredOnce (fun _ => True) a n := by
  rw [h.coveredOnce_iff _ hn]
  constructor
  · rintro ⟨bytes, hload⟩
    obtain ⟨⟨r, hr, hcovers⟩, -⟩ := (load_eq_ok_iff hn).mp hload
    exact ⟨r, hr, trivial, hcovers⟩
  · rintro ⟨r, hr, -, hcovers⟩
    obtain ⟨region, i, hi⟩ := h.exists_position? hr hcovers
    exact ⟨_, (load_eq_ok_iff hn).mpr ⟨⟨r, hr, hcovers⟩, bytesAt?_of_position? m hi⟩⟩

/-- A store of some bytes succeeds just if one registered buffer covers them, and that one is an
output. -/
theorem LaidOut.store_ok_iff (h : m.LaidOut) (hne : data ≠ []) :
    (∃ after, m.store a data = .ok after) ↔
      m.CoveredOnce (fun use => use.output = true) a data.length := by
  rw [h.coveredOnce_iff _ (List.length_pos_iff.mpr hne)]
  constructor
  · rintro ⟨after, hstore⟩
    exact ((store_eq_ok_iff hne).mp hstore).1
  · rintro ⟨r, hr, hout, hcovers⟩
    obtain ⟨region, i, hi⟩ := h.exists_position? hr hcovers
    exact ⟨_, (store_eq_ok_iff hne).mpr ⟨⟨r, hr, hout, hcovers⟩, region, i, hi, rfl⟩⟩

/-- **What is read where a buffer covers it is what was written there last.** -/
theorem Traced.bytesAt?_eq (h : Traced m calls) (hr : r ∈ m.registrations) (hcovers : r.Covers a n)
    {bytes : Bytes} (hbytes : m.bytesAt? a n = some bytes) {k : Nat} (hk : k < n) :
    bytes[k]? = lastWritten (a.toNat + k) calls := by
  obtain ⟨b, hb⟩ := h.exists_lastWritten r hr (a.toNat + k)
    (hcovers _ ⟨Nat.le_add_right _ k, Nat.add_lt_add_left hk _⟩)
  rw [(getElem?_bytesAt? hbytes).2 k hk, hb, h.byteAt?_eq hb]

/-- A store changes no byte outside of what it stores, in neither area: `byteAt?` is the same at every
address that it does not span. -/
theorem byteAt?_store (h : m.store a data = .ok after) (hx : ¬a.Spans data.length x) :
    after.byteAt? x = m.byteAt? x := by
  rw [writes_of_store h x, if_neg hx]

/-- **A store leaves what another buffer covers**, since no byte belongs to both: `bytesAt?` is the same
for every range that a second `Registration` covers. -/
theorem LaidOut.bytesAt?_store (h : m.LaidOut) (hstore : m.store a data = .ok after)
    (hr : r ∈ m.registrations) (hother : ¬r.Covers a data.length) {b : Address}
    (hcovers : r.Covers b n) : after.bytesAt? b n = m.bytesAt? b n := by
  refine bytesAt?_congr fun x hx => byteAt?_store hstore fun hspan => ?_
  have hne : data ≠ [] := by
    rintro rfl
    exact absurd (Nat.lt_of_le_of_lt hspan.1 hspan.2) (Nat.lt_irrefl _)
  -- The buffer that is stored to has the byte as well.
  obtain ⟨⟨s, hs, -, hcovers'⟩, -⟩ := (store_eq_ok_iff hne).mp hstore
  rw [Registration.covers_iff (List.length_pos_iff.mpr hne)] at hcovers'
  rcases Registration.eq_or_apart h.apart hs hr with rfl | hapart
  · exact hother hcovers'
  · exact hapart x ⟨hcovers' x hspan, hcovers x hx⟩

/-- Loads see the registrations and the bytes that they span, and nothing else of a memory. -/
theorem load_congr (hregistrations : after.registrations = m.registrations)
    (hbytes : after.bytesAt? a n = m.bytesAt? a n) : after.load a n = m.load a n := by
  rw [load_exact, load_exact, hregistrations, hbytes]

/-- Read-backs see no more of a memory than loads do: `readBack` depends on the registrations and on the
bytes that are read. -/
theorem readBack_congr (hregistrations : after.registrations = m.registrations)
    (hbytes : after.bytesAt? a n = m.bytesAt? a n) : after.readBack a n = m.readBack a n := by
  rw [readBack, readBack, hregistrations, hbytes]

/-- **Every registered buffer has its bytes to itself**, and holds what `calls` wrote there last. -/
structure Isolated (m : SharedMemory) (calls : List Call) : Prop where
  apart : m.registrations.Pairwise Registration.Apart
  granted : ∀ r ∈ m.registrations, m.Grants r
  load_ok_iff : ∀ a n, 0 < n →
    ((∃ bytes, m.load a n = .ok bytes) ↔ m.CoveredOnce (fun _ => True) a n)
  loaded : ∀ a n bytes, m.load a n = .ok bytes →
    bytes.length = n ∧ ∀ k < n, bytes[k]? = lastWritten (a.toNat + k) calls
  readBack : ∀ a n bytes, m.readBack a n = some bytes →
    bytes.length = n ∧ ∀ k < n, bytes[k]? = lastWritten (a.toNat + k) calls
  store_ok_iff : ∀ a data, data ≠ [] →
    ((∃ after, m.store a data = .ok after) ↔
      m.CoveredOnce (fun use => use.output = true) a data.length)
  /-- A store changes no byte outside of what it stores. -/
  store_outside : ∀ a data after, m.store a data = .ok after →
    ∀ x, ¬a.Spans data.length x → after.byteAt? x = m.byteAt? x
  /-- So it changes nothing that is read of another buffer. -/
  store_others : ∀ a data after, m.store a data = .ok after →
    ∀ r ∈ m.registrations, ¬r.Covers a data.length → ∀ b n, r.Covers b n →
      after.load b n = m.load b n ∧ after.readBack b n = m.readBack b n
  failing : ∀ op, (m.perform op).1.fails = true → (m.perform op).2 = m

/-- **Shared memory keeps buffers isolated**, whatever calls are made, each in its time: `Isolated` tells
in which respects. -/
theorem isolated_of_traced (h : Traced m calls) : m.Isolated calls where
  apart := h.laidOut.apart
  granted := h.laidOut.inside
  load_ok_iff _ _ hn := h.laidOut.load_ok_iff hn
  loaded a n bytes hload := by
    rcases Nat.eq_zero_or_pos n with rfl | hn
    · -- An empty load is granted everywhere.
      cases hload
      exact ⟨rfl, nofun⟩
    · obtain ⟨⟨r, hr, hcovers⟩, hbytes⟩ := (load_eq_ok_iff hn).mp hload
      rw [Registration.covers_iff hn] at hcovers
      exact ⟨(getElem?_bytesAt? hbytes).1, fun k hk => h.bytesAt?_eq hr hcovers hbytes hk⟩
  readBack a n bytes hread := by
    obtain ⟨⟨r, hr, rfl, rfl, -⟩, hbytes⟩ := readBack_eq_some_iff.mp hread
    have hcovers : r.Covers r.address r.length := fun x hx => hx
    exact ⟨(getElem?_bytesAt? hbytes).1, fun k hk => h.bytesAt?_eq hr hcovers hbytes hk⟩
  store_ok_iff _ _ hne := h.laidOut.store_ok_iff hne
  store_outside _ _ _ hstore _ hx := byteAt?_store hstore hx
  store_others a data after hstore r hr hother b n hcovers := by
    have hregistrations := registrations_of_store hstore
    have hbytes := h.laidOut.bytesAt?_store hstore hr hother hcovers
    exact ⟨load_congr hregistrations hbytes, readBack_congr hregistrations hbytes⟩
  failing op hfails := (m.step_perform op).eq_of_fails hfails

/-- One secure buffer and two in the DMA area, with a store into the last of them: each has its place, and
holds what was written there last. -/
theorem isolated_of_traced_stored : ∃ (m : SharedMemory) (calls : List Call), m.Traced calls ∧
    m.registrations.map (·.address) = [0x20000100, 0x80000000, 0x80000004] ∧
    lastWritten 0x20000101 calls = some 2 ∧ lastWritten 0x80000005 calls = some 8 ∧
    m.Isolated calls := by
  have htraced := ((((Traced.start.call (.setWindow 0x100 64) rfl).call
    (.register [1, 2, 3] { secure := true }) trivial).call
    (.register [4, 5, 6] {}) trivial).call
    (.register (Bytes.blank 8) { output := true }) trivial).call (.store 0x80000004 [7, 8]) trivial
  exact ⟨_, _, htraced, by decide, by decide, by decide, isolated_of_traced htraced⟩

end SharedMemory

end SecureEngine
