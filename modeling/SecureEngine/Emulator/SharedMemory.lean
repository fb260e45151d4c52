import SecureEngine.Transport

/-! # Memory shared with a client

A secure RAM, of which a window is granted, and a DMA area for everything else. A client stages
buffers by registering them; the engine touches registered ranges only.

* **`Region`** — the two areas and where they lie; **`Area`** — the content of one.
* **`Registration`** — a staged buffer and what it may be used for; **`Registration.covers?`** — whether
  bytes lie in it, by sums of 64 bits that may not fit.
* **`SharedMemory.register`** — stages a buffer at the cursor of its area.
* **`SharedMemory.load?`**, **`SharedMemory.store?`** — what the engine does: a range is accessible
  when one registration covers all of it, and writable when that registration is an output.
* **`SharedMemory.load`**, **`SharedMemory.store`** — the same, with a refusal where a sum does not fit.
* **`SharedMemory.readBack`** — what the client does with an output.
* **`SharedMemory.reset`** — drops every registration.

Only the search for a registration may add beyond 64 bits. Every other sum of an address and a length
is bounded or checked, and is taken in `Nat`. -/

namespace SecureEngine

/-! ## (1) Areas -/

/-- The number of bytes of each area. -/
def areaSize : Nat := 0x10000

/-- **An area of shared memory.** -/
inductive Region
  | secure
  | dma
deriving DecidableEq, Repr

namespace Region

/-- The `Address` of the first byte of an area. -/
def base : Region → Address
  | secure => 0x20000000
  | dma => 0x80000000

/-- The area an `Address` belongs to: the last one that begins at or before it. -/
def ofAddress? (a : Address) : Option Region :=
  if dma.base ≤ a then some dma
  else if secure.base ≤ a then some secure
  else none

/-- The position in an area of `n` bytes at an address, if they all lie in the area. -/
def position? (r : Region) (a : Address) (n : Nat) : Option Nat :=
  if r.base ≤ a ∧ a.toNat - r.base.toNat + n ≤ areaSize then some (a.toNat - r.base.toNat)
  else none

/-- Bytes that have a position lie inside the area. -/
theorem position?_le {r : Region} {a : Address} {n i : Nat} (h : r.position? a n = some i) :
    i + n ≤ areaSize := by
  unfold position? at h
  split at h
  · rename_i hc
    cases h
    exact hc.2
  · exact absurd h (by simp)

end Region

/-- **The content of an area.** -/
structure Area where
  /-- The bytes from the base of the area. -/
  cells : Bytes
  /-- An area never grows or shrinks. -/
  length_cells : cells.length = areaSize
deriving DecidableEq

namespace Area

/-- An area of zeros. -/
def blank : Area := ⟨Bytes.blank areaSize, Bytes.length_blank _⟩

/-- Writes data at a position. What lies outside the area is not written. -/
def write (area : Area) (start : Nat) (data : Bytes) : Area :=
  if h : start + data.length ≤ areaSize then
    ⟨Bytes.patch area.cells start data, by
      rw [Bytes.length_patch (by rw [area.length_cells]; exact h), area.length_cells]⟩
  else area

/-- Reads bytes from a position. -/
def read (area : Area) (start n : Nat) : Bytes := Bytes.slice area.cells start n

/-- What was written inside the area is read back. -/
theorem read_write {area : Area} {start : Nat} {data : Bytes}
    (h : start + data.length ≤ areaSize) :
    (area.write start data).read start data.length = data := by
  rw [write, dif_pos h, read]
  exact Bytes.slice_patch (by rw [area.length_cells]; exact h)

end Area

/-! ## (2) Registrations -/

/-- **The `Address` behind some bytes**, if it fits 64 bits. -/
def Address.add? (a : Address) (n : Nat) : Option Address :=
  if a.toNat + n < UInt64.size then some (a + UInt64.ofNat n) else none

/-- **A buffer staged for the engine.** -/
structure Registration where
  /-- Where the buffer was placed. -/
  address : Address
  /-- How many bytes it has. -/
  length : Nat
  /-- What it may be used for. -/
  use : BufferUse
deriving DecidableEq, Repr

namespace Registration

/-- The buffer ends before addresses do. -/
def Ends (r : Registration) : Prop := r.address.toNat + r.length < UInt64.size

instance (r : Registration) : Decidable r.Ends := inferInstanceAs (Decidable (_ < _))

/-- **Whether `n` bytes at an address all lie in a registration.** There is no answer if where the
bytes or the registration end does not fit 64 bits. -/
def covers? (r : Registration) (a : Address) (n : Nat) : Option Bool :=
  if r.address ≤ a then do
    let last ← a.add? n
    let limit ← r.address.add? r.length
    return last ≤ limit
  else some false

/-- Whether one of some registrations covers `n` bytes at an address. The search is over with the first
that does, and with a sum that does not fit. -/
def covered? (rs : List Registration) (a : Address) (n : Nat) : Option Bool :=
  rs.anyM (·.covers? a n)

end Registration

/-- **Shared memory with its registrations.** -/
structure SharedMemory where
  /-- The secure RAM. -/
  secure : Area := .blank
  /-- The DMA area. -/
  dma : Area := .blank
  /-- The first address of the granted window and the one after its last. -/
  window : Option (Address × Address) := none
  /-- Where the next secure buffer goes. -/
  secureCursor : Address := 0
  /-- Where the next buffer of the DMA area goes. -/
  dmaCursor : Address := Region.dma.base
  /-- The staged buffers, oldest first. -/
  registrations : List Registration := []
  /-- Every staged buffer ends before addresses do. -/
  ends : ∀ r ∈ registrations, r.Ends := by exact List.forall_mem_nil _
deriving DecidableEq

/-- A length rounded up to whole words. -/
def wholeWords (n : Nat) : Nat := (n + 3) / 4 * 4

namespace SharedMemory

/-- The content of an area. -/
def area (m : SharedMemory) : Region → Area
  | .secure => m.secure
  | .dma => m.dma

/-- The memory with the content of one area replaced. -/
def withArea (m : SharedMemory) (area : Area) : Region → SharedMemory
  | .secure => { m with secure := area }
  | .dma => { m with dma := area }

/-- Where the next buffer of an area goes. -/
def cursor (m : SharedMemory) : Region → Address
  | .secure => m.secureCursor
  | .dma => m.dmaCursor

/-- The memory with the cursor of one area moved. -/
def withCursor (m : SharedMemory) (cursor : Address) : Region → SharedMemory
  | .secure => { m with secureCursor := cursor }
  | .dma => { m with dmaCursor := cursor }

/-- The memory with one more registration. A buffer that ends behind the last address is not
recorded. -/
def withRegistration (m : SharedMemory) (r : Registration) : SharedMemory :=
  if h : r.Ends then
    { m with
      registrations := m.registrations ++ [r]
      ends := by
        intro s hs
        rcases List.mem_append.mp hs with hs | hs
        · exact m.ends s hs
        · exact List.mem_singleton.mp hs ▸ h }
  else m

/-- The address after the last one that may be staged to: the end of the window or of the DMA
area. -/
def limit? (m : SharedMemory) : Region → Option Nat
  | .secure => m.window.map (·.2.toNat)
  | .dma => some (Region.dma.base.toNat + areaSize)

/-! ## (3) The client side -/

/-- **Limits secure staging to a window** of the secure RAM; staging starts at its front. An empty
window, or one that does not lie in the secure RAM, is refused. -/
def setWindow (m : SharedMemory) (offset size : UInt32) : Option SharedMemory :=
  let first := Region.secure.base + offset.toUInt64
  let last := first + size.toUInt64
  if size = 0 ∨ Region.secure.position? first size.toNat = none then none
  else some { m with window := some (first, last), secureCursor := first }

/-- **Stages a buffer** and returns its `Address`. Refused are buffers that do not fit the area, and short
addresses outside the part of the secure RAM that they reach. -/
def register (m : SharedMemory) (data : Bytes) (use : BufferUse) :
    Option (Address × SharedMemory) := do
  let region := if use.secure then Region.secure else .dma
  let limit ← m.limit? region
  let address := m.cursor region
  -- Staging goes by whole words, so the padding has to fit as well.
  if limit < address.toNat + wholeWords data.length then none
  else if use.short ∧ address &&& ~~~(0xFFFF : UInt64) ≠ Region.secure.base then none
  else
    let position ← region.position? address data.length
    let staged := m.withArea ((m.area region).write position data) region
    let moved := staged.withCursor (address + UInt64.ofNat (wholeWords data.length)) region
    return (address, moved.withRegistration ⟨address, data.length, use⟩)

/-- The bytes at an `Address`, if they lie in one area. -/
def bytesAt? (m : SharedMemory) (a : Address) (n : Nat) : Option Bytes := do
  let region ← Region.ofAddress? a
  let position ← region.position? a n
  return (m.area region).read position n

/-- **Reads an output back**: an output registration must have exactly this `Address` and length. -/
def readBack (m : SharedMemory) (a : Address) (n : Nat) : Option Bytes :=
  if m.registrations.any fun r => r.address == a && r.length == n && r.use.output then
    m.bytesAt? a n
  else none

/-- **Drops every registration**; staging starts at the front again. -/
def reset (m : SharedMemory) : SharedMemory where
  secure := m.secure
  dma := m.dma
  window := m.window
  secureCursor := match m.window with
    | some (first, _) => first
    | none => m.secureCursor
  dmaCursor := Region.dma.base
  registrations := []

/-! ## (4) The engine side -/

/-- **Loads bytes for the engine.** No bytes are always there; others must lie in one registration, and
there is no outcome if a sum of the search does not fit. -/
def load? (m : SharedMemory) (a : Address) (n : Nat) : Option (Except EngineError Bytes) :=
  if n = 0 then some (.ok [])
  else (Registration.covered? m.registrations a n).map fun covered =>
    if covered then
      match m.bytesAt? a n with
      | some bytes => .ok bytes
      | none => .error Reason.invalidAddress.toError
    else .error Reason.invalidAddress.toError

/-- Whether the engine may write `n` bytes at an address. -/
def writable? (m : SharedMemory) (a : Address) (n : Nat) : Option Bool :=
  Registration.covered? (m.registrations.filter (·.use.output)) a n

/-- **Stores bytes for the engine.** No bytes always succeed; others must lie in one output
registration, and there is no outcome if a sum of the search does not fit. -/
def store? (m : SharedMemory) (a : Address) (data : Bytes) :
    Option (Except EngineError SharedMemory) :=
  if data.isEmpty then some (.ok m)
  else (m.writable? a data.length).map fun writable =>
    if writable then
      match Region.ofAddress? a with
      | some region =>
        match region.position? a data.length with
        | some position => .ok (m.withArea ((m.area region).write position data) region)
        | none => .error Reason.invalidAddress.toError
      | none => .error Reason.invalidAddress.toError
    else .error Reason.invalidAddress.toError

/-- What a load comes to, with a refusal where a sum does not fit. -/
def load (m : SharedMemory) (a : Address) (n : Nat) : Except EngineError Bytes :=
  (m.load? a n).getD (.error Reason.invalidAddress.toError)

/-- What a store comes to, with a refusal where a sum does not fit. -/
def store (m : SharedMemory) (a : Address) (data : Bytes) : Except EngineError SharedMemory :=
  (m.store? a data).getD (.error Reason.invalidAddress.toError)

/-- The secure-RAM address of a short form. -/
def ofShort (offset : UInt16) : Address := Region.secure.base ||| offset.toUInt64

end SharedMemory

end SecureEngine
