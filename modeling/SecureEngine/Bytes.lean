/-! # Byte strings

* **`Bytes`** — a byte string, as a list.
* **`Bytes.ofNat w n`** and **`Bytes.toNat`** — the `w` low bytes of a number, least significant
  first, and the number a byte string spells that way; each undoes the other
  (`toNat_ofNat`, `ofNat_toNat`).
* **`Bytes.ofNatBE`**, **`Bytes.toNatBE`** — the same with the most significant byte first.
* **`Bytes.chunks n`** — a byte string cut into pieces of `n` bytes.
* **`Bytes.overlay base data`** — `data` laid over the front of `base`; the length of `base` stays
  (`length_overlay`).
* **`Bytes.patch base start data`** — `data` written into the middle of `base`. -/

namespace SecureEngine

/-- A byte string. -/
abbrev Bytes := List UInt8

namespace Bytes

/-! ## (1) Numbers as bytes -/

/-- The `w` low bytes of `n`, least significant first. -/
def ofNat : Nat → Nat → Bytes
  | 0, _ => []
  | w + 1, n => UInt8.ofNat n :: ofNat w (n / 256)

/-- The number that a byte string spells, least significant byte first. -/
def toNat : Bytes → Nat
  | [] => 0
  | b :: rest => b.toNat + 256 * toNat rest

/-- The empty byte string spells zero in `Bytes.toNat`. -/
@[simp] theorem toNat_nil : toNat [] = 0 := rfl

/-- In `Bytes.toNat` the first byte counts least. -/
@[simp] theorem toNat_cons (b : UInt8) (rest : Bytes) :
    toNat (b :: rest) = b.toNat + 256 * toNat rest := rfl

/-- `Bytes.ofNat` makes as many bytes as it is asked for. -/
@[simp] theorem length_ofNat (w n : Nat) : (ofNat w n).length = w := by
  induction w generalizing n with
  | zero => rfl
  | succ w ih => simp [ofNat, ih]

/-- The number at which numbers of a width in bytes wrap: how many byte strings of that length there
are. -/
def modulus : (width : Nat) → Nat
  | 0 => 1
  | width + 1 => 256 * modulus width

/-- A byte string spells a number below the modulus of its length. -/
theorem toNat_lt (bytes : Bytes) : toNat bytes < modulus bytes.length := by
  induction bytes with
  | nil => exact Nat.one_pos
  | cons b rest ih =>
    have hb := b.toNat_lt
    simp only [toNat_cons, List.length_cons, modulus]
    omega

/-- Spelling `w` bytes and reading them back keeps the number up to the modulus of the width. -/
theorem toNat_ofNat (w n : Nat) : toNat (ofNat w n) = n % modulus w := by
  induction w generalizing n with
  | zero => simp [ofNat, modulus, Nat.mod_one]
  | succ w ih =>
    rw [ofNat, toNat_cons, ih, UInt8.toNat_ofNat', modulus, Nat.mod_mul]

/-- Reading a byte string and spelling it again at its own length gives it back. -/
theorem ofNat_toNat (bytes : Bytes) : ofNat bytes.length (toNat bytes) = bytes := by
  induction bytes with
  | nil => rfl
  | cons b rest ih =>
    have hb := b.toNat_lt
    have hq : (b.toNat + 256 * toNat rest) / 256 = toNat rest := by omega
    simp only [toNat_cons, List.length_cons, ofNat, hq, ih]
    congr 1
    apply UInt8.toNat_inj.mp
    rw [UInt8.toNat_ofNat']
    omega

/-- The `w` low bytes of `n`, most significant first. -/
def ofNatBE (w n : Nat) : Bytes := (ofNat w n).reverse

/-- The number that a byte string spells, most significant byte first. -/
def toNatBE (bytes : Bytes) : Nat := toNat bytes.reverse

/-- `Bytes.ofNatBE` makes as many bytes as it is asked for. -/
@[simp] theorem length_ofNatBE (w n : Nat) : (ofNatBE w n).length = w := by
  simp [ofNatBE]

/-- The two bytes of a half word. -/
def ofHalf (h : UInt16) : Bytes := ofNat 2 h.toNat

/-- The four bytes of a word. -/
def ofWord (w : UInt32) : Bytes := ofNat 4 w.toNat

/-- The half word at the front of a byte string; missing bytes count as zero. -/
def half (bytes : Bytes) : UInt16 := UInt16.ofNat (toNat (bytes.take 2))

/-- The word at the front of a byte string; missing bytes count as zero. -/
def word (bytes : Bytes) : UInt32 := UInt32.ofNat (toNat (bytes.take 4))

/-- A half word has two bytes. -/
@[simp] theorem length_ofHalf (h : UInt16) : (ofHalf h).length = 2 := length_ofNat 2 _

/-- A word has four bytes. -/
@[simp] theorem length_ofWord (w : UInt32) : (ofWord w).length = 4 := length_ofNat 4 _

/-- Reading the front of a spelled half word gives the half word, whatever follows. -/
@[simp] theorem half_ofHalf_append (h : UInt16) (rest : Bytes) :
    half (ofHalf h ++ rest) = h := by
  have hh := h.toNat_lt
  have hc : modulus 2 = 65536 := rfl
  rw [half, List.take_left' (length_ofHalf h), ofHalf, toNat_ofNat, hc]
  apply UInt16.toNat_inj.mp
  rw [UInt16.toNat_ofNat']
  omega

/-- Reading the front of a spelled word gives the word, whatever follows. -/
@[simp] theorem word_ofWord_append (w : UInt32) (rest : Bytes) :
    word (ofWord w ++ rest) = w := by
  have hw := w.toNat_lt
  have hc : modulus 4 = 4294967296 := rfl
  rw [word, List.take_left' (length_ofWord w), ofWord, toNat_ofNat, hc]
  apply UInt32.toNat_inj.mp
  rw [UInt32.toNat_ofNat']
  omega

/-! ## (2) Pieces -/

/-- **A byte string cut into pieces of `n` bytes**; the last piece may be shorter. Pieces are never
empty, so `0` counts as `1`. -/
def chunks (n : Nat) : Bytes → List Bytes
  | [] => []
  | b :: rest => (b :: rest.take (n - 1)) :: chunks n (rest.drop (n - 1))
termination_by bytes => bytes.length
decreasing_by simp only [List.length_drop, List.length_cons]; omega

/-- There are no pieces of nothing. -/
@[simp] theorem chunks_nil (n : Nat) : chunks n [] = [] := by rw [chunks]

/-- The pieces make up the whole. -/
@[simp] theorem flatten_chunks (n : Nat) (bytes : Bytes) : (chunks n bytes).flatten = bytes := by
  fun_induction chunks n bytes with
  | case1 => rfl
  | case2 b rest ih => rw [List.flatten_cons, ih, List.cons_append, List.take_append_drop]

/-- Pieces of equal size are found again in their concatenation. -/
theorem chunks_flatten {n : Nat} (hn : 0 < n) {pieces : List Bytes}
    (h : ∀ piece ∈ pieces, piece.length = n) : chunks n pieces.flatten = pieces := by
  induction pieces with
  | nil => simp
  | cons piece rest ih =>
    have hp : piece.length = n := h piece List.mem_cons_self
    have hr := ih fun p hp => h p (List.mem_cons_of_mem _ hp)
    match piece, hp with
    | [], hp => exact absurd hp (by simp only [List.length_nil]; omega)
    | b :: piece, hp =>
      have hl : piece.length = n - 1 := by simp only [List.length_cons] at hp; omega
      rw [List.flatten_cons, List.cons_append, chunks, List.take_left' hl, List.drop_left' hl, hr]

/-! ## (3) Buffers -/

/-- A buffer of `n` zero bytes. -/
def blank (n : Nat) : Bytes := List.replicate n 0

/-- `Bytes.blank` has as many zeros as it is asked for. -/
@[simp] theorem length_blank (n : Nat) : (blank n).length = n := List.length_replicate

/-- **`data` laid over the front of `base`.** What does not fit is dropped, what is not covered
stays. -/
def overlay (base data : Bytes) : Bytes := data.take base.length ++ base.drop data.length

/-- Laying data over a buffer keeps the length of the buffer. -/
@[simp] theorem length_overlay (base data : Bytes) :
    (overlay base data).length = base.length := by
  simp only [overlay, List.length_append, List.length_take, List.length_drop]
  omega

/-- Data as long as the buffer replaces it. -/
theorem overlay_of_length_eq {base data : Bytes} (h : data.length = base.length) :
    overlay base data = data := by
  rw [overlay, ← h, List.take_length, List.drop_eq_nil_of_le (by omega), List.append_nil]

/-- **`data` written into `base` from position `start`.** -/
def patch (base : Bytes) (start : Nat) (data : Bytes) : Bytes :=
  base.take start ++ (data ++ base.drop (start + data.length))

/-- Writing inside a buffer keeps its length. -/
theorem length_patch {base data : Bytes} {start : Nat} (h : start + data.length ≤ base.length) :
    (patch base start data).length = base.length := by
  simp only [patch, List.length_append, List.length_take, List.length_drop]
  omega

/-- `n` bytes of `base` from position `start`. -/
def slice (base : Bytes) (start n : Nat) : Bytes := (base.drop start).take n

/-- What was written is read back. -/
theorem slice_patch {base data : Bytes} {start : Nat} (h : start + data.length ≤ base.length) :
    slice (patch base start data) start data.length = data := by
  have hl : (base.take start).length = start := by rw [List.length_take]; omega
  rw [slice, patch, List.drop_left' hl, List.take_left' rfl]

end Bytes

end SecureEngine
