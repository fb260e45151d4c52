import SecureEngine.Proofs.MemoryCalls

/-! # Nothing is left over after a reset

A reset leaves the bytes of shared memory as they are. Even so nothing of them can be seen afterwards:
a buffer is overwritten when it is registered, and only what one buffer covers is ever read.

* **`SharedMemory.Alike`** — two memories of the same shape that agree on the bytes of every registered
  buffer; `Alike.perform`: a call has the same answer in both, and leaves them alike.
* **`SharedMemory.answers_reset_eq`** — after a reset, the answers depend on the window alone. -/

namespace SecureEngine

namespace SharedMemory

variable {m other after after' : SharedMemory} {a : Address} {n : Nat} {data : Bytes}
  {use : BufferUse} {r : Registration}

/-! ## (1) Memories that are alike -/

/-- **Two memories differ only in bytes that no registered buffer has**, and in a cursor that nothing is
staged at. -/
structure Alike (m other : SharedMemory) : Prop where
  window_eq : m.window = other.window
  cursor_eq : ∀ region, m.limit? region ≠ none → m.cursor region = other.cursor region
  registrations_eq : m.registrations = other.registrations
  held : ∀ r ∈ m.registrations, ∀ x, r.Holds x → m.byteAt? x = other.byteAt? x

/-- `limit?` depends on the window only. -/
theorem limit?_of_window_eq (h : m.window = other.window) (region : Region) :
    m.limit? region = other.limit? region := by
  cases region with
  | secure => rw [limit?, limit?, h]
  | dma => rfl

/-- Two memories are `Alike` in either order. -/
theorem Alike.symm (h : m.Alike other) : other.Alike m where
  window_eq := h.window_eq.symm
  cursor_eq region hlimit :=
    (h.cursor_eq region (limit?_of_window_eq h.window_eq region ▸ hlimit)).symm
  registrations_eq := h.registrations_eq.symm
  held r hr x hx := (h.held r (h.registrations_eq ▸ hr) x hx).symm

/-- **A `reset` leaves nothing but the window.** -/
theorem alike_reset (h : m.window = other.window) : m.reset.Alike other.reset := by
  refine ⟨h, fun region hlimit => ?_, rfl, nofun⟩
  cases region with
  | dma => rfl
  | secure =>
    rw [cursor, cursor, reset, reset, ← h]
    cases hwindow : m.window with
    | some window => rfl
    | none =>
      -- Without a window nothing is staged in the secure RAM.
      refine absurd ?_ hlimit
      rw [limit?, reset, hwindow]
      rfl

/-! ## (2) Reading -/

/-- What a buffer covers is the same in both: `bytesAt?` gives equal bytes for every range of a
`Registration`. -/
theorem Alike.bytesAt?_eq (h : m.Alike other) (hr : r ∈ m.registrations)
    (hcovers : r.covers a n = true) : m.bytesAt? a n = other.bytesAt? a n :=
  bytesAt?_congr fun x hx => h.held r hr x (Registration.holds_of_covers hcovers hx)

/-- Memories that are `Alike` load the same, an error included. -/
theorem Alike.load_eq (h : m.Alike other) (a : Address) (n : Nat) : m.load a n = other.load a n := by
  rw [SharedMemory.load_exact, SharedMemory.load_exact, ← h.registrations_eq]
  by_cases hcovered : (m.registrations.any fun r => r.covers a n) = true
  · obtain ⟨r, hr, hcovers⟩ := List.any_eq_true.mp hcovered
    rw [h.bytesAt?_eq hr hcovers]
  · rw [if_neg hcovered, if_neg hcovered]

/-- Memories that are `Alike` read back the same, or refuse it both. -/
theorem Alike.readBack_eq (h : m.Alike other) (a : Address) (n : Nat) :
    m.readBack a n = other.readBack a n := by
  unfold readBack
  rw [← h.registrations_eq]
  split
  · -- What is read back is what one registration covers exactly.
    rename_i hknown
    obtain ⟨r, hr, hexact⟩ := List.any_eq_true.mp hknown
    simp only [Bool.and_eq_true, beq_iff_eq] at hexact
    obtain ⟨⟨rfl, rfl⟩, -⟩ := hexact
    exact h.bytesAt?_eq hr (Registration.covers_eq_true_iff.mpr ⟨Nat.le_refl _, Nat.le_refl _⟩)
  · rfl

/-! ## (3) Writing -/

/-- **The same write leaves memories `Alike`**, if what is registered afterwards was registered before or
is written by it. -/
theorem Alike.writes (h : m.Alike other) (hm : m.Writes a data after) (ho : other.Writes a data after')
    (hwindow : after.window = after'.window)
    (hcursor : ∀ region, after.limit? region ≠ none → after.cursor region = after'.cursor region)
    (hregistrations : after.registrations = after'.registrations)
    (hwritten : ∀ r ∈ after.registrations, r ∈ m.registrations ∨
      r.address = a ∧ r.length = data.length) : after.Alike after' := by
  refine ⟨hwindow, hcursor, hregistrations, fun r hr x hx => ?_⟩
  rw [hm x, ho x]
  split
  · rfl
  · rename_i houtside
    -- Outside of what is written, a registration held alike before; the new one has been written all
    -- over.
    rcases hwritten r hr with hbefore | ⟨rfl, hlength⟩
    · exact h.held r hbefore x hx
    · rw [Registration.Holds, hlength] at hx
      exact absurd hx houtside

/-- Memories that are `Alike` admit the same buffers at the same addresses, as `Admits` looks at window
and cursors. -/
theorem Alike.admits_iff (h : m.Alike other) : m.Admits n use a ↔ other.Admits n use a := by
  have hlimit := limit?_of_window_eq h.window_eq (regionOf use)
  constructor
  · rintro ⟨rfl, ⟨limit, hsome, hle⟩, hshort, hinside⟩
    have hcursor := h.cursor_eq (regionOf use) (by rw [hsome]; nofun)
    exact ⟨hcursor.symm, ⟨limit, hlimit ▸ hsome, hle⟩, hshort, hinside⟩
  · rintro ⟨rfl, ⟨limit, hsome, hle⟩, hshort, hinside⟩
    have hcursor := h.cursor_eq (regionOf use) (by rw [hlimit, hsome]; nofun)
    exact ⟨hcursor, ⟨limit, hlimit ▸ hsome, hle⟩, hshort, hinside⟩

/-- **A buffer that is registered in one of them is registered in the other**, at the same address. -/
theorem Alike.register (h : m.Alike other) (hregister : m.register data use = some (a, after)) :
    ∃ after', other.register data use = some (a, after') ∧ after.Alike after' := by
  obtain ⟨hadmits, i, hi, rfl⟩ := register_eq_some_iff.mp hregister
  have hregister' : other.register data use = some (a, other.staged data use i) :=
    register_eq_some_iff.mpr ⟨h.admits_iff.mp hadmits, i, hi, rfl⟩
  refine ⟨_, hregister', ?_⟩
  have hregisters := registers_of_register hregister
  have hregisters' := registers_of_register hregister'
  -- Both memories stage at the same place, since their cursors agree.
  have hcursor : m.cursor (regionOf use) = other.cursor (regionOf use) :=
    hregisters.cursor_eq.trans hregisters'.cursor_eq.symm
  refine h.writes hregisters.writes hregisters'.writes ?_ (fun region hlimit => ?_) ?_ fun r hr => ?_
  · rw [window_staged, window_staged, h.window_eq]
  · by_cases hregion : region = regionOf use
    · rw [hregion, cursor_staged, cursor_staged, hcursor]
    · rw [(hregisters.others region hregion).2, (hregisters'.others region hregion).2]
      rw [limit?_of_window_eq window_staged] at hlimit
      exact h.cursor_eq region hlimit
  · rw [hregisters.registrations_eq, hregisters'.registrations_eq, h.registrations_eq]
  · rw [hregisters.registrations_eq, List.mem_append, List.mem_singleton] at hr
    refine hr.imp id ?_
    rintro rfl
    exact ⟨rfl, rfl⟩

/-- Where one of two `Alike` memories stores, so does the other, and they are alike afterwards. -/
theorem Alike.store (h : m.Alike other) (hstore : m.store a data = .ok after) :
    ∃ after', other.store a data = .ok after' ∧ after.Alike after' := by
  by_cases hne : data = []
  · subst hne
    cases hstore
    exact ⟨other, rfl, h⟩
  obtain ⟨hcovered, region, i, hi, rfl⟩ := (store_eq_ok_iff hne).mp hstore
  have hstore' : other.store a data =
      .ok (other.withArea ((other.area region).write i data) region) :=
    (store_eq_ok_iff hne).mpr ⟨h.registrations_eq ▸ hcovered, region, i, hi, rfl⟩
  have hwindow (m : SharedMemory) (area : Area) : (m.withArea area region).window = m.window := by
    cases region <;> rfl
  refine ⟨_, hstore', h.writes (writes_of_store hstore) (writes_of_store hstore') ?_
    (fun other hlimit => ?_) ?_ fun r hr => Or.inl ?_⟩
  · rw [hwindow, hwindow, h.window_eq]
  · rw [cursor_withArea, cursor_withArea]
    rw [limit?_of_window_eq (hwindow _ _)] at hlimit
    exact h.cursor_eq other hlimit
  · rw [registrations_withArea, registrations_withArea, h.registrations_eq]
  · rwa [registrations_withArea] at hr

/-- Whether a window is refused does not depend on the memory, and two memories that are `Alike` stay so
under `setWindow`. -/
theorem Alike.setWindow {offset size : UInt32} (h : m.Alike other)
    (hset : m.setWindow offset size = some after) :
    ∃ after', other.setWindow offset size = some after' ∧ after.Alike after' := by
  obtain ⟨haccepted, first, last, hfirst, hlast, rfl⟩ := setWindow_eq_some_iff.mp hset
  refine ⟨_, setWindow_eq_some_iff.mpr ⟨haccepted, first, last, hfirst, hlast, rfl⟩, rfl,
    fun region _ => ?_, h.registrations_eq, h.held⟩
  cases region with
  | secure => rfl
  | dma => exact h.cursor_eq .dma nofun

/-! ## (4) Answers -/

/-- **A call has the same answer in both**, and leaves them `Alike`. -/
theorem Alike.perform (h : m.Alike other) (op : Operation) :
    (m.perform op).1 = (other.perform op).1 ∧ (m.perform op).2.Alike (other.perform op).2 := by
  unfold SharedMemory.perform
  -- The relation is symmetric, so what one memory refuses the other refuses too: if it did not, the
  -- case of success would apply the other way round.
  cases op with
  | setWindow offset size =>
    dsimp only
    cases hm : m.setWindow offset size with
    | some after =>
      obtain ⟨after', ho, halike⟩ := h.setWindow hm
      rw [ho]
      exact ⟨rfl, halike⟩
    | none =>
      cases ho : other.setWindow offset size with
      | none => exact ⟨rfl, h⟩
      | some after' =>
        obtain ⟨_, hm', -⟩ := h.symm.setWindow ho
        exact absurd (hm.symm.trans hm') nofun
  | register data use =>
    dsimp only
    cases hm : m.register data use with
    | some placed =>
      obtain ⟨after', ho, halike⟩ := h.register hm
      rw [ho]
      exact ⟨rfl, halike⟩
    | none =>
      cases ho : other.register data use with
      | none => exact ⟨rfl, h⟩
      | some placed =>
        obtain ⟨_, hm', -⟩ := h.symm.register ho
        exact absurd (hm.symm.trans hm') nofun
  | load a n =>
    dsimp only
    rw [h.load_eq]
    cases other.load a n <;> exact ⟨rfl, h⟩
  | store a data =>
    dsimp only
    cases hm : m.store a data with
    | ok after =>
      obtain ⟨after', ho, halike⟩ := h.store hm
      rw [ho]
      exact ⟨rfl, halike⟩
    | error e =>
      cases ho : other.store a data with
      | error e' =>
        rw [store_error hm, store_error ho]
        exact ⟨rfl, h⟩
      | ok after' =>
        obtain ⟨_, hm', -⟩ := h.symm.store ho
        exact absurd (hm.symm.trans hm') nofun
  | readBack a n =>
    dsimp only
    rw [h.readBack_eq]
    cases other.readBack a n <;> exact ⟨rfl, h⟩
  | reset => exact ⟨rfl, alike_reset h.window_eq⟩

/-- **Alike memories answer `Alike`**, however many calls are made. -/
theorem Alike.answers_eq (h : m.Alike other) (ops : List Operation) :
    m.answers ops = other.answers ops := by
  induction ops generalizing m other with
  | nil => rfl
  | cons op rest ih =>
    obtain ⟨hanswer, halike⟩ := h.perform op
    rw [answers, answers, hanswer, ih halike]

/-- **Nothing that was staged before a `reset` can be seen after it**: whatever is asked then, memories
with the same window answer the same. -/
theorem answers_reset_eq (h : m.window = other.window) (ops : List Operation) :
    m.reset.answers ops = other.reset.answers ops :=
  (alike_reset h).answers_eq ops

/-- The bytes are still there, but a buffer registered over them shows its own. -/
theorem answers_reset_eq_overlaid :
    let staged := (({} : SharedMemory).perform (.register [1, 2, 3, 4] { input := true })).2
    let ops : List Operation := [.load 0x80000000 4, .register [9] { output := true },
      .load 0x80000000 1, .load 0x80000000 2, .readBack 0x80000000 1]
    staged.reset.byteAt? 0x80000001 = some 2 ∧
      staged.reset.answers ops = ({} : SharedMemory).reset.answers ops := by
  intro staged ops
  have hwindow : staged.window = ({} : SharedMemory).window := by decide
  have hbyte : staged.reset.byteAt? 0x80000001 = some 2 := by decide +kernel
  exact ⟨hbyte, answers_reset_eq hwindow ops⟩

end SharedMemory

end SecureEngine
