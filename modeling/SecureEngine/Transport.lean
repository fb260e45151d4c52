import SecureEngine.Bytes
import SecureEngine.ClientError

/-! # Transports

The boundary between messages and the message unit: one exchange at a time, and the registration of
buffers that the engine reads or writes.

* **`BufferUse`** — what a buffer is registered for.
* **`Address`** — the forms that a 64-bit engine address takes inside messages.
* **`Transport`** — the operations of a transport on its own state. -/

namespace SecureEngine

/-- **What a buffer is registered for.** -/
structure BufferUse where
  /-- The engine reads the buffer. -/
  input : Bool := false
  /-- The engine writes the buffer. -/
  output : Bool := false
  /-- The buffer is staged in the shared secure-memory window. -/
  secure : Bool := false
  /-- The message carries the address in its 16-bit form. -/
  short : Bool := false
deriving DecidableEq, Repr

namespace BufferUse

/-- The numeric form of a use, one bit for each aspect. -/
def bits (use : BufferUse) : Nat :=
  use.input.toNat + 2 * use.output.toNat + 4 * use.secure.toNat + 8 * use.short.toNat

/-- The use with a numeric form; further bits are dropped. -/
def ofBits (n : Nat) : BufferUse :=
  { input := n.testBit 0, output := n.testBit 1, secure := n.testBit 2, short := n.testBit 3 }

end BufferUse

/-- **A 64-bit address of the engine.** -/
abbrev Address := UInt64

namespace Address

/-- The upper word of an `Address`. -/
def high (a : Address) : UInt32 := (a >>> 32).toUInt32

/-- The lower word of an `Address`, as most requests carry it. -/
def low (a : Address) : UInt32 := a.toUInt32

/-- The 16-bit form of a secure-memory address. -/
def short (a : Address) : UInt16 := a.toUInt16

/-- The `Address` with these two words. -/
def join (high low : UInt32) : Address := (high.toUInt64 <<< 32) ||| low.toUInt64

end Address

/-- **The operations of a transport**, on states of type `σ`. -/
class Transport (σ : Type) where
  /-- Sends a request and returns the bytes left at the front of a blank response buffer of the
  given size. After a failure the bytes mean nothing. -/
  sendAndReceive : σ → (request : Bytes) → (size : Nat) → (Except TransportError Unit × Bytes) × σ
  /-- Shows a buffer to the engine and returns the address the engine should use. -/
  dataBuffer : σ → Bytes → BufferUse → Except TransportError Address × σ
  /-- Reads as many bytes as `out` has from where the engine wrote them. -/
  readDataBuffer : σ → Address → (out : Bytes) → Except TransportError Bytes × σ
  /-- Drops every registration. -/
  resetDataBuffers : σ → σ
  /-- Sets the secure-memory window that the engine granted. -/
  configureWindow : σ → (offset size : UInt32) → Except TransportError Unit × σ
  /-- Releases the channel. -/
  close : σ → σ

end SecureEngine
