import SecureEngine.Bytes

/-! # The AES block cipher

* **`Aes.Column`**, **`Aes.Block`** — four bytes, and four columns: what one application of the
  cipher transforms.
* **`Aes.Key.ofBytes?`** — the round keys that a key of 16, 24 or 32 bytes expands to.
* **`Aes.Key.encrypt`**, **`Aes.Key.decrypt`** — one block either way. Each step of a round has its
  inverse beside it; mixing a column four times gives it back, so three mixings undo one. -/

namespace SecureEngine.Aes

/-! ## (1) Bytes

Bytes are polynomials over the field of two elements, modulo `x⁸ + x⁴ + x³ + x + 1`. -/

/-- A byte times `x`. -/
def double (b : UInt8) : UInt8 := (b <<< 1) ^^^ (if b &&& 0x80 = 0 then 0 else 0x1B)

/-- A byte and its `n - 1` following multiples by powers of `x + 1`. -/
def powersFrom : Nat → UInt8 → List UInt8
  | 0, _ => []
  | n + 1, b => b :: powersFrom n (b ^^^ double b)

/-- The powers of `x + 1`, which run through all bytes but zero. -/
def powers : List UInt8 := powersFrom 255 1

/-- **Every byte with its inverse**: powers whose exponents add up to 255. Zero goes with zero. -/
def inverses : List (UInt8 × UInt8) := (0, 0) :: powers.zip (1 :: powers.tail.reverse)

/-- A byte rotated to the left. -/
def rotate (b n : UInt8) : UInt8 := (b <<< n) ||| (b >>> (8 - n))

/-- A byte folded over itself and offset. -/
def spread (b : UInt8) : UInt8 :=
  b ^^^ rotate b 1 ^^^ rotate b 2 ^^^ rotate b 3 ^^^ rotate b 4 ^^^ 0x63

/-- The substitution of each byte: its inverse, spread. -/
def substitution : Vector UInt8 256 :=
  inverses.foldl (fun table (a, b) => table.set a.toFin (spread b)) (Vector.replicate 256 0)

/-- The byte behind each substitution. -/
def unsubstitution : Vector UInt8 256 :=
  inverses.foldl (fun table (a, b) => table.set (spread b).toFin a) (Vector.replicate 256 0)

/-- Substitutes a byte. -/
def sub (b : UInt8) : UInt8 := substitution[b.toFin]

/-- Undoes a substitution. -/
def unsub (b : UInt8) : UInt8 := unsubstitution[b.toFin]

/-! ## (2) Columns -/

/-- **Four bytes of a block.** -/
structure Column where
  b₀ : UInt8
  b₁ : UInt8
  b₂ : UInt8
  b₃ : UInt8
deriving DecidableEq, Repr

namespace Column

/-- A function applied to every byte. -/
def map (f : UInt8 → UInt8) (c : Column) : Column := ⟨f c.b₀, f c.b₁, f c.b₂, f c.b₃⟩

/-- The exclusive or of two columns. -/
def xor (c d : Column) : Column := ⟨c.b₀ ^^^ d.b₀, c.b₁ ^^^ d.b₁, c.b₂ ^^^ d.b₂, c.b₃ ^^^ d.b₃⟩

/-- A column with its first byte moved to the end. -/
def rotate (c : Column) : Column := ⟨c.b₁, c.b₂, c.b₃, c.b₀⟩

/-- **Mixes the bytes of a column**: each is doubled, its successor tripled, and the others added. -/
def mix (c : Column) : Column :=
  let all := c.b₀ ^^^ c.b₁ ^^^ c.b₂ ^^^ c.b₃
  ⟨c.b₀ ^^^ all ^^^ double (c.b₀ ^^^ c.b₁), c.b₁ ^^^ all ^^^ double (c.b₁ ^^^ c.b₂),
    c.b₂ ^^^ all ^^^ double (c.b₂ ^^^ c.b₃), c.b₃ ^^^ all ^^^ double (c.b₃ ^^^ c.b₀)⟩

/-- **Undoes a mixing** by completing it to four. -/
def unmix (c : Column) : Column := c.mix.mix.mix

/-- The four bytes at the front of a byte string; missing bytes count as zero. -/
def ofBytes (bytes : Bytes) : Column :=
  ⟨bytes.getD 0 0, bytes.getD 1 0, bytes.getD 2 0, bytes.getD 3 0⟩

/-- The bytes of a column. -/
def toBytes (c : Column) : Bytes := [c.b₀, c.b₁, c.b₂, c.b₃]

end Column

/-! ## (3) Blocks -/

/-- **What the cipher transforms**: sixteen bytes in four columns. -/
structure Block where
  c₀ : Column
  c₁ : Column
  c₂ : Column
  c₃ : Column
deriving DecidableEq, Repr

/-- The number of bytes of a block. -/
def blockSize : Nat := 16

namespace Block

/-- A function applied to every column. -/
def map (f : Column → Column) (b : Block) : Block := ⟨f b.c₀, f b.c₁, f b.c₂, f b.c₃⟩

/-- The exclusive or of two blocks. -/
def xor (a b : Block) : Block :=
  ⟨a.c₀.xor b.c₀, a.c₁.xor b.c₁, a.c₂.xor b.c₂, a.c₃.xor b.c₃⟩

/-- **Moves the bytes of row `i` by `i` columns to the left.** -/
def shift (b : Block) : Block :=
  ⟨⟨b.c₀.b₀, b.c₁.b₁, b.c₂.b₂, b.c₃.b₃⟩, ⟨b.c₁.b₀, b.c₂.b₁, b.c₃.b₂, b.c₀.b₃⟩,
    ⟨b.c₂.b₀, b.c₃.b₁, b.c₀.b₂, b.c₁.b₃⟩, ⟨b.c₃.b₀, b.c₀.b₁, b.c₁.b₂, b.c₂.b₃⟩⟩

/-- **Moves the bytes of row `i` by `i` columns to the right.** -/
def unshift (b : Block) : Block :=
  ⟨⟨b.c₀.b₀, b.c₃.b₁, b.c₂.b₂, b.c₁.b₃⟩, ⟨b.c₁.b₀, b.c₀.b₁, b.c₃.b₂, b.c₂.b₃⟩,
    ⟨b.c₂.b₀, b.c₁.b₁, b.c₀.b₂, b.c₃.b₃⟩, ⟨b.c₃.b₀, b.c₂.b₁, b.c₁.b₂, b.c₀.b₃⟩⟩

/-- `Block.unshift` undoes `Block.shift`: sixteen bytes are moved and moved back. -/
@[simp] theorem unshift_shift (b : Block) : b.shift.unshift = b := rfl

/-- The sixteen bytes at the front of a byte string; missing bytes count as zero. -/
def ofBytes (bytes : Bytes) : Block :=
  ⟨.ofBytes bytes, .ofBytes (bytes.drop 4), .ofBytes (bytes.drop 8), .ofBytes (bytes.drop 12)⟩

/-- The bytes of a block. -/
def toBytes (b : Block) : Bytes :=
  b.c₀.toBytes ++ b.c₁.toBytes ++ b.c₂.toBytes ++ b.c₃.toBytes

/-- A block has sixteen bytes. -/
@[simp] theorem length_toBytes (b : Block) : b.toBytes.length = blockSize := rfl

/-- A block is read from its own bytes. -/
@[simp] theorem ofBytes_toBytes (b : Block) : ofBytes b.toBytes = b := rfl

/-- Sixteen bytes are the bytes of their block. -/
theorem toBytes_ofBytes {bytes : Bytes} (h : bytes.length = blockSize) :
    (ofBytes bytes).toBytes = bytes := by
  match bytes, h with
  | [_, _, _, _, _, _, _, _, _, _, _, _, _, _, _, _], _ => rfl

/-- The encryption rounds, one for each key; the last round does not mix. -/
def encryptRounds : List Block → Block → Block
  | [], b => b
  | [key], b => (b.map (·.map sub)).shift.xor key
  | key :: keys, b => encryptRounds keys ((((b.map (·.map sub)).shift.map Column.mix).xor key))

/-- The decryption rounds, which undo `encryptRounds` from its end. -/
def decryptRounds : List Block → Block → Block
  | [], b => b
  | [key], b => (b.xor key).unshift.map (·.map unsub)
  | key :: keys, b =>
    (((decryptRounds keys b).xor key).map Column.unmix).unshift.map (·.map unsub)

end Block

/-! ## (4) Keys -/

/-- **An expanded key.** -/
structure Key where
  /-- The key added before the first round. -/
  first : Block
  /-- The keys of the rounds. -/
  rounds : List Block
deriving DecidableEq, Repr

/-- The blocks of a list of columns, four at a time. -/
def blocksOf : List Column → List Block
  | c₀ :: c₁ :: c₂ :: c₃ :: rest => ⟨c₀, c₁, c₂, c₃⟩ :: blocksOf rest
  | _ => []

/-- One more column of the schedule for a key of `n` columns, and the next round constant. -/
def extendSchedule (n : Nat) : Array Column × UInt8 → Array Column × UInt8
  | (columns, constant) =>
    let last := columns.getD (columns.size - 1) ⟨0, 0, 0, 0⟩
    let earlier := columns.getD (columns.size - n) ⟨0, 0, 0, 0⟩
    if columns.size % n = 0 then
      (columns.push (earlier.xor ((last.rotate.map sub).xor ⟨constant, 0, 0, 0⟩)), double constant)
    else if 6 < n ∧ columns.size % n = 4 then
      (columns.push (earlier.xor (last.map sub)), constant)
    else (columns.push (earlier.xor last), constant)

/-- The columns that a key expands to: a key of `n` columns has `n + 6` rounds. -/
def schedule (material : Bytes) : List Column :=
  let columns := (material.chunks 4).map Column.ofBytes
  let n := columns.length
  (Nat.repeat (extendSchedule n) (4 * (n + 7) - n) (columns.toArray, 1)).1.toList

namespace Key

/-- **The key with the given bytes**, if there is a key of that size. -/
def ofBytes? (material : Bytes) : Option Key :=
  if material.length = 16 ∨ material.length = 24 ∨ material.length = 32 then
    match blocksOf (schedule material) with
    | first :: rounds => some ⟨first, rounds⟩
    | [] => none
  else none

/-- **Encrypts a block.** -/
def encrypt (key : Key) (b : Block) : Block := Block.encryptRounds key.rounds (b.xor key.first)

/-- **Decrypts a block.** -/
def decrypt (key : Key) (b : Block) : Block := (Block.decryptRounds key.rounds b).xor key.first

end Key

end SecureEngine.Aes
