import SecureEngine.Bytes

/-! # Message layouts

A layout lists the fields of a message in wire order; encoding, decoding and the size all come from
that one list.

* **`Field`** — a byte, half word, word or block of bytes; words are little endian.
* **`Layout.Values`** — one value for each field of a layout.
* **`Layout.encode`**, **`Layout.decode`** — between values and bytes. Each undoes the other:
  `decode_encode_append` on whatever follows, `encode_decode` on strings of the layout's size.
* **`Message`** — a type of message with its layout; reserved fields are written as zero and not
  kept. -/

namespace SecureEngine.Wire

/-! ## (1) Fields -/

/-- **A field of a message.** -/
inductive Field
  | byte
  | half
  | word
  | block (size : Nat)
deriving DecidableEq, Repr

namespace Field

/-- The number of bytes of a field. -/
def size : Field → Nat
  | byte => 1
  | half => 2
  | word => 4
  | block n => n

/-- The values of a field. -/
@[reducible] def Value : Field → Type
  | byte => UInt8
  | half => UInt16
  | word => UInt32
  | block n => Vector UInt8 n

/-- The bytes of a field. -/
def encode : (f : Field) → f.Value → Bytes
  | byte, b => [b]
  | half, h => Bytes.ofHalf h
  | word, w => Bytes.ofWord w
  | block _, v => v.toList

/-- The value at the front of a byte string; missing bytes count as zero. -/
def decode : (f : Field) → Bytes → f.Value
  | byte, bytes => bytes.headD 0
  | half, bytes => Bytes.half bytes
  | word, bytes => Bytes.word bytes
  | block n, bytes => Vector.ofFn fun i : Fin n => bytes.getD i 0

/-- A field is encoded by `encode` in as many bytes as it has. -/
@[simp] theorem length_encode (f : Field) (v : f.Value) : (f.encode v).length = f.size := by
  cases f with
  | byte => rfl
  | half => exact Bytes.length_ofHalf v
  | word => exact Bytes.length_ofWord v
  | block n => exact v.size_toArray

/-- A written field is read back, whatever follows. -/
@[simp] theorem decode_encode_append (f : Field) (v : f.Value) (rest : Bytes) :
    f.decode (f.encode v ++ rest) = v := by
  cases f with
  | byte => rfl
  | half => exact Bytes.half_ofHalf_append v rest
  | word => exact Bytes.word_ofWord_append v rest
  | block n =>
    apply Vector.ext
    intro i hi
    have hl : i < v.toList.length := by simpa using hi
    simp only [decode, encode, Vector.getElem_ofFn, List.getD_eq_getElem?_getD,
      List.getElem?_append_left hl, List.getElem?_eq_getElem hl, Option.getD_some,
      Vector.getElem_toList]

/-- A byte string of the size of a field is the encoding of what it decodes to. -/
theorem encode_decode (f : Field) {bytes : Bytes} (h : bytes.length = f.size) :
    f.encode (f.decode bytes) = bytes := by
  cases f with
  | byte =>
    match bytes, h with
    | [b], _ => rfl
  | half =>
    have hl : bytes.length = 2 := h
    have hlt := Bytes.toNat_lt bytes
    have ht : bytes.take 2 = bytes := List.take_of_length_le (by omega)
    rw [hl] at hlt
    simp only [encode, decode, Bytes.ofHalf, Bytes.half, ht, UInt16.toNat_ofNat']
    rw [Nat.mod_eq_of_lt, ← hl, Bytes.ofNat_toNat]
    exact hlt
  | word =>
    have hl : bytes.length = 4 := h
    have hlt := Bytes.toNat_lt bytes
    have ht : bytes.take 4 = bytes := List.take_of_length_le (by omega)
    rw [hl] at hlt
    simp only [encode, decode, Bytes.ofWord, Bytes.word, ht, UInt32.toNat_ofNat']
    rw [Nat.mod_eq_of_lt, ← hl, Bytes.ofNat_toNat]
    exact hlt
  | block n =>
    have hl : bytes.length = n := h
    apply List.ext_getElem
    · simp [encode, hl]
    · intro i h₁ h₂
      simp [encode, decode, List.getD_eq_getElem?_getD, List.getElem?_eq_getElem h₂]

end Field

/-! ## (2) Layouts -/

/-- **The fields of a message in wire order.** -/
abbrev Layout := List Field

namespace Layout

/-- The number of bytes of a layout. -/
def size : Layout → Nat
  | [] => 0
  | f :: rest => f.size + size rest

/-- One value for each field. -/
@[reducible] def Values : Layout → Type
  | [] => Unit
  | f :: rest => f.Value × Values rest

/-- The bytes of a message. -/
def encode : (layout : Layout) → layout.Values → Bytes
  | [], _ => []
  | f :: rest, v => f.encode v.1 ++ encode rest v.2

/-- The values at the front of a byte string; missing bytes count as zero. -/
def decode : (layout : Layout) → Bytes → layout.Values
  | [], _ => ()
  | f :: rest, bytes => (f.decode bytes, decode rest (bytes.drop f.size))

/-- The fields of a layout are encoded in as many bytes as it has. -/
@[simp] theorem length_encode (layout : Layout) (v : layout.Values) :
    (layout.encode v).length = layout.size := by
  induction layout with
  | nil => rfl
  | cons f rest ih => simp [encode, size, ih]

/-- A written message is read back, whatever follows. -/
@[simp] theorem decode_encode_append (layout : Layout) (v : layout.Values) (after : Bytes) :
    layout.decode (layout.encode v ++ after) = v := by
  induction layout with
  | nil => rfl
  | cons f rest ih =>
    obtain ⟨x, v⟩ := v
    simp only [decode, encode, List.append_assoc, Field.decode_encode_append]
    rw [List.drop_left' (Field.length_encode f x), ih]

/-- A byte string of the size of a layout is the encoding of what it decodes to. -/
theorem encode_decode (layout : Layout) {bytes : Bytes} (h : bytes.length = layout.size) :
    layout.encode (layout.decode bytes) = bytes := by
  induction layout generalizing bytes with
  | nil => exact (List.length_eq_zero_iff.mp h).symm
  | cons f rest ih =>
    have hs : bytes.length = f.size + size rest := h
    have hf : f.decode bytes = f.decode (bytes.take f.size) := by
      have := Field.decode_encode_append f (f.decode (bytes.take f.size)) (bytes.drop f.size)
      rw [Field.encode_decode f (by rw [List.length_take]; omega), List.take_append_drop] at this
      exact this
    rw [encode, decode, hf, Field.encode_decode f (by rw [List.length_take]; omega),
      ih (by rw [List.length_drop]; omega), List.take_append_drop]

end Layout

/-! ## (3) Messages -/

/-- **A type of message.** -/
class Message (α : Type) where
  /-- The fields in wire order. -/
  layout : Layout
  /-- The values of the fields. -/
  toValues : α → layout.Values
  /-- The message with these values. -/
  ofValues : layout.Values → α
  /-- A message is what its values say. -/
  ofValues_toValues : ∀ m, ofValues (toValues m) = m

namespace Message

variable {α : Type} [Message α]

/-- The number of bytes of a type of message. -/
def size (α : Type) [Message α] : Nat := (layout α).size

/-- The bytes of a message. -/
def encode (m : α) : Bytes := (layout α).encode (toValues m)

/-- The message at the front of a byte string. -/
def decode (bytes : Bytes) : α := ofValues ((layout α).decode bytes)

/-- A message is encoded by `encode` in as many bytes as its layout has. -/
@[simp] theorem length_encode (m : α) : (encode m).length = size α :=
  Layout.length_encode _ _

/-- A written message is read back, whatever follows. -/
@[simp] theorem decode_encode_append (m : α) (after : Bytes) :
    decode (encode m ++ after) = m := by
  rw [decode, encode, Layout.decode_encode_append, ofValues_toValues]

end Message

/-- A message without content. -/
instance : Message Unit where
  layout := []
  toValues _ := ()
  ofValues _ := ()
  ofValues_toValues _ := rfl

/-- A message of one word. -/
instance : Message UInt32 where
  layout := [.word]
  toValues w := (w, ())
  ofValues v := v.1
  ofValues_toValues _ := rfl

end SecureEngine.Wire
