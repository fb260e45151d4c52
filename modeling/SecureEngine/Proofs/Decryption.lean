import SecureEngine.Proofs.OutputLengths

/-! # Decryption undoes encryption

* **`Aes.unsub_sub`**, **`Aes.Column.unmix_mix`** — every step of a round is undone by its inverse;
  **`Aes.Key.decrypt_encrypt`** — so is a block.
* **`Aes.Key.decryptChain_encryptChain`** — a chain is undone block by block.
* **`Aes.Key.exists_ofBytes?`** — every key of 16, 24 or 32 bytes expands.
* **`CipherMode.exists_apply`** — whole blocks are encrypted, and decrypted again from what comes out. -/

namespace SecureEngine

namespace Aes

/-! ## (1) Bytes -/

/-- A byte is found again behind its substitution: `unsub` is the inverse of `sub`, and the kernel checks
all 256 bytes. -/
@[simp] theorem unsub_sub (b : UInt8) : unsub (sub b) = b := by
  have hall : ∀ i : Fin 256, unsub (sub (UInt8.ofFin i)) = UInt8.ofFin i := by decide +kernel
  exact hall b.toFin

/-- Two bytes may be added to a third one in either order, which is how `unmix` after `mix` is brought to
one normal form. -/
theorem xor_left_comm (a b c : UInt8) : a ^^^ (b ^^^ c) = b ^^^ (a ^^^ c) := by
  rw [← UInt8.xor_assoc, UInt8.xor_comm a, UInt8.xor_assoc]

/-- A byte that is added twice is gone, which is how every key addition of `encrypt` is undone. -/
theorem xor_xor_cancel (a b : UInt8) : a ^^^ (a ^^^ b) = b := by
  rw [← UInt8.xor_assoc, UInt8.xor_self, UInt8.zero_xor]

/-- The top bit of a byte is set or not; `double` carries it out. -/
theorem top_cases (b : UInt8) : b &&& 0x80 = 0 ∨ b &&& 0x80 = 0x80 := by
  have hall : ∀ i : Fin 256, UInt8.ofFin i &&& 0x80 = 0 ∨ UInt8.ofFin i &&& 0x80 = 0x80 := by
    decide +kernel
  exact hall b.toFin

/-- The top bit of a sum is the sum of the top bits, so doubling in the field of the cipher is
additive. -/
theorem xor_and_top (a b : UInt8) : (a ^^^ b) &&& 0x80 = (a &&& 0x80) ^^^ (b &&& 0x80) := by
  apply UInt8.eq_of_toBitVec_eq
  simp only [UInt8.toBitVec_and, UInt8.toBitVec_xor]
  ext i
  simp only [BitVec.getElem_and, BitVec.getElem_xor]
  cases a.toBitVec[i] <;> cases b.toBitVec[i] <;> simp

/-- **Doubling is linear**: what is carried out of the top is added where just one of two bytes has it. -/
theorem double_xor (a b : UInt8) : double (a ^^^ b) = double a ^^^ double b := by
  unfold double
  rw [UInt8.shiftLeft_xor, xor_and_top]
  rcases top_cases a with ha | ha <;> rcases top_cases b with hb | hb <;> rw [ha, hb] <;>
    simp [UInt8.xor_assoc, UInt8.xor_comm, xor_left_comm]

/-! ## (2) Blocks -/

namespace Column

/-- A column mixed twice: each byte is combined with the one across, doubled twice. By linearity
everything else cancels. -/
theorem mix_mix (c : Column) : c.mix.mix =
    ⟨c.b₀ ^^^ double (double (c.b₀ ^^^ c.b₂)), c.b₁ ^^^ double (double (c.b₁ ^^^ c.b₃)),
      c.b₂ ^^^ double (double (c.b₂ ^^^ c.b₀)), c.b₃ ^^^ double (double (c.b₃ ^^^ c.b₁))⟩ := by
  simp only [mix, double_xor, UInt8.xor_assoc, UInt8.xor_comm, xor_left_comm, xor_xor_cancel,
    UInt8.xor_self, UInt8.zero_xor]

/-- **Mixing four times gives a column back**, so `unmix`, which mixes three times, undoes `mix`. -/
@[simp] theorem unmix_mix (c : Column) : c.mix.unmix = c := by
  have hfour : c.mix.unmix = (c.mix.mix).mix.mix := rfl
  rw [hfour, mix_mix, mix_mix]
  simp [double_xor, UInt8.xor_comm, xor_left_comm]

/-- Substituting the bytes of a column is undone byte by byte: `unsub` takes every byte of the table of
`sub` back. -/
@[simp] theorem map_unsub_map_sub (c : Column) : (c.map sub).map unsub = c := by
  simp [map]

/-- Adding a column twice gives the first one back, byte by byte of `Column.xor`. -/
@[simp] theorem xor_xor (c d : Column) : (c.xor d).xor d = c := by
  simp only [xor, UInt8.xor_assoc, UInt8.xor_self, UInt8.xor_zero]

end Column

namespace Block

/-- Adding a block twice gives the first one back, column by column of `Block.xor`. So a round key is
taken off as it was put on. -/
@[simp] theorem xor_xor (a b : Block) : (a.xor b).xor b = a := by
  simp [xor]

/-- Mixing the columns of a block is undone column by column, each by `Column.unmix`. -/
@[simp] theorem map_unmix_map_mix (b : Block) : (b.map Column.mix).map Column.unmix = b := by
  simp [map]

/-- Substituting the bytes of a block is undone byte by byte: `unsub` after `sub` in each of its
columns. -/
@[simp] theorem map_unsub_map_sub (b : Block) :
    (b.map (·.map sub)).map (·.map unsub) = b := by
  simp [map]

/-- Without round keys there is no round to undo, so `decryptRounds` leaves the block. -/
theorem decryptRounds_nil (b : Block) : decryptRounds [] b = b := by
  rw [decryptRounds.eq_def]

/-- The last round of an encryption does not mix, so it is undone without unmixing. -/
theorem decryptRounds_singleton (key b : Block) :
    decryptRounds [key] b = (b.xor key).unshift.map (·.map unsub) := by
  rw [decryptRounds.eq_def]

/-- A round before the last is undone after all those behind it: the key is added, then columns, rows and
bytes are put back. -/
theorem decryptRounds_cons (key next : Block) (rest : List Block) (b : Block) :
    decryptRounds (key :: next :: rest) b =
      (((decryptRounds (next :: rest) b).xor key).map Column.unmix).unshift.map (·.map unsub) := by
  rw [decryptRounds.eq_def]

/-- **The rounds are undone from the last to the first**, by induction on the round keys that
`encryptRounds` takes one by one. -/
theorem decryptRounds_encryptRounds (keys : List Block) (b : Block) :
    decryptRounds keys (encryptRounds keys b) = b := by
  -- By induction on the round keys. The last round mixes no columns, so one key and more keys are told
  -- apart.
  induction keys generalizing b with
  | nil => exact decryptRounds_nil b
  | cons key keys ih =>
    cases keys with
    | nil =>
      rw [encryptRounds, decryptRounds_singleton, xor_xor, unshift_shift, map_unsub_map_sub]
    | cons next rest =>
      rw [encryptRounds, decryptRounds_cons, ih, xor_xor, map_unmix_map_mix, unshift_shift,
        map_unsub_map_sub]
      exact nofun

end Block

namespace Key

/-- **A block is found again behind its encryption**, under every expanded key: `Key.decrypt` undoes the
rounds of `Key.encrypt` from the last one back. -/
theorem decrypt_encrypt (key : Key) (b : Block) : key.decrypt (key.encrypt b) = b := by
  rw [decrypt, encrypt, Block.decryptRounds_encryptRounds, Block.xor_xor]

/-- **A chain is undone block by block**: what is combined with a block is the ciphertext before it. -/
theorem decryptChain_encryptChain (key : Key) (previous : Block) (blocks : List Block) :
    key.decryptChain previous (key.encryptChain previous blocks) = blocks := by
  induction blocks generalizing previous with
  | nil => rfl
  | cons b rest ih =>
    dsimp only [encryptChain, decryptChain]
    rw [decrypt_encrypt, Block.xor_xor, ih]

/-- Encrypting each block by itself is undone by decrypting each by itself, so `Key.codebook` is its own
inverse with the `Direction` turned around. -/
theorem codebook_decrypt_encrypt (key : Key) (blocks : List Block) :
    key.codebook .decrypt (key.codebook .encrypt blocks) = blocks := by
  induction blocks with
  | nil => rfl
  | cons b rest ih =>
    show key.decrypt (key.encrypt b) :: key.codebook .decrypt (key.codebook .encrypt rest) = _
    rw [decrypt_encrypt, ih]

end Key

/-! ## (3) Byte strings -/

/-- Whole pieces are all of the same size, so `chunks` leaves no shorter one at the end. -/
theorem length_of_mem_chunks {n : Nat} {bytes : Bytes} (h : bytes.length % n = 0) :
    ∀ piece ∈ bytes.chunks n, piece.length = n := by
  fun_induction Bytes.chunks n bytes with
  | case1 =>
    intro piece hmem
    cases hmem
  | case2 b rest ih =>
    obtain ⟨hle, hpos, hrest⟩ := Bytes.first_chunk h
    refine List.forall_mem_cons.mpr ⟨?_, ih hrest⟩
    rw [List.length_cons, List.length_take]
    omega

/-- The blocks of whole blocks are these: sixteen bytes of each, put in a row and taken apart again. -/
theorem blocks_unblocks (list : List Block) : blocks (unblocks list) = list := by
  have hpieces : ∀ piece ∈ list.map Block.toBytes, piece.length = blockSize := by
    intro piece hmem
    obtain ⟨b, -, rfl⟩ := List.mem_map.mp hmem
    exact b.length_toBytes
  rw [blocks, unblocks, List.flatMap_def, Bytes.chunks_flatten (by decide) hpieces, List.map_map]
  exact List.map_id'' Block.ofBytes_toBytes list

/-- Whole blocks are the bytes of their blocks, with nothing left over: `unblocks` puts together what
`blocks` took apart. -/
theorem unblocks_blocks {data : Bytes} (h : data.length % blockSize = 0) :
    unblocks (blocks data) = data := by
  have hmap : ((data.chunks blockSize).map Block.ofBytes).map Block.toBytes = data.chunks blockSize := by
    rw [List.map_map]
    exact (List.map_congr_left fun piece hmem =>
      Block.toBytes_ofBytes (length_of_mem_chunks h piece hmem)).trans (List.map_id _)
  rw [blocks, unblocks, List.flatMap_def, hmap, Bytes.flatten_chunks]

/-! ## (4) Keys -/

/-- The schedule grows by one column at a time, whichever way `extendSchedule` makes it. -/
theorem size_extendSchedule (n : Nat) (state : Array Column × UInt8) :
    (extendSchedule n state).1.size = state.1.size + 1 := by
  unfold extendSchedule
  dsimp only
  split
  · exact Array.size_push _
  split <;> exact Array.size_push _

/-- After `count` steps the schedule has `count` columns more. -/
theorem size_repeat_extendSchedule (n count : Nat) (state : Array Column × UInt8) :
    (Nat.repeat (extendSchedule n) count state).1.size = state.1.size + count := by
  induction count with
  | zero => rfl
  | succ count ih =>
    show (extendSchedule n (Nat.repeat (extendSchedule n) count state)).1.size = _
    rw [size_extendSchedule, ih, Nat.add_assoc]

/-- A `schedule` has at least the columns of one round key, however short its material. -/
theorem le_length_schedule (material : Bytes) : 4 ≤ (schedule material).length := by
  unfold schedule
  dsimp only
  rw [Array.length_toList, size_repeat_extendSchedule]
  omega

/-- **Every key of one of the three sizes expands**: `Key.ofBytes?` refuses no such material. -/
theorem Key.exists_ofBytes? {material : Bytes}
    (h : material.length = 16 ∨ material.length = 24 ∨ material.length = 32) :
    ∃ key, ofBytes? material = some key := by
  have hlength := le_length_schedule material
  unfold ofBytes?
  rw [if_pos h]
  match schedule material, hlength with
  | c₀ :: c₁ :: c₂ :: c₃ :: rest, _ => exact ⟨⟨⟨c₀, c₁, c₂, c₃⟩, blocksOf rest⟩, rfl⟩

end Aes

/-- What a mode makes of some blocks: `Key.codebook` takes each by itself, and `Key.chain` starts from the
initial block. -/
def CipherMode.transform (key : Aes.Key) (iv : Bytes) (direction : Direction) (list : List Aes.Block) :
    CipherMode → List Aes.Block
  | ecb => key.codebook direction list
  | cbc => key.chain direction (Aes.Block.ofBytes iv) list

/-- **A mode undoes what it does the other way**: `transform` with `Direction.decrypt` gives back what it
was given with `Direction.encrypt`. -/
theorem CipherMode.transform_decrypt_encrypt (mode : CipherMode) (key : Aes.Key) (iv : Bytes)
    (list : List Aes.Block) :
    mode.transform key iv .decrypt (mode.transform key iv .encrypt list) = list := by
  cases mode with
  | ecb => exact key.codebook_decrypt_encrypt list
  | cbc => exact key.decryptChain_encryptChain (Aes.Block.ofBytes iv) list

/-- **Whole blocks are encrypted**, to as many bytes, from which they are decrypted again. -/
theorem CipherMode.exists_apply {mode : CipherMode} {material iv data : Bytes}
    (hmaterial : material.length = 16 ∨ material.length = 24 ∨ material.length = 32)
    (hdata : data.length % Aes.blockSize = 0) (hiv : mode = .cbc → iv.length = Aes.blockSize) :
    ∃ encrypted, mode.apply .encrypt material iv data = .ok encrypted ∧
      mode.apply .decrypt material iv encrypted = .ok data := by
  obtain ⟨key, hkey⟩ := Aes.Key.exists_ofBytes? hmaterial
  have hinitial : ¬(mode = .cbc ∧ iv.length ≠ Aes.blockSize) := fun h => h.2 (hiv h.1)
  -- What the mode makes of whole blocks, either way.
  have happly (direction : Direction) {bytes : Bytes} (h : bytes.length % Aes.blockSize = 0) :
      mode.apply direction material iv bytes =
        .ok (Aes.unblocks (mode.transform key iv direction (Aes.blocks bytes))) := by
    unfold apply
    rw [if_neg (not_not_intro h), if_neg hinitial, hkey]
    cases mode <;> rfl
  have hencrypt := happly .encrypt hdata
  have hlength := CipherMode.length_of_apply hencrypt
  refine ⟨_, hencrypt, ?_⟩
  rw [happly .decrypt (by rw [hlength]; exact hdata), Aes.blocks_unblocks, transform_decrypt_encrypt,
    Aes.unblocks_blocks hdata]

end SecureEngine
