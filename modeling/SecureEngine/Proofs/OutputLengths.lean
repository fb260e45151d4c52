import SecureEngine.Emulator.Execution
import SecureEngine.Proofs.Registrations

/-! # How long outputs are

* **`Command.outputLength?`** — how many bytes the output of a request has, whatever the engine holds.
* **`CipherMode.length_of_apply`** — a mode of block encryption keeps the length of its data.
* **`Curve.length_of_sign?`**, **`Curve.length_publicKey`** — signatures and public keys are two numbers
  of the size of the field.
* **`SharedMemory.length_of_load`** — a load brings as many bytes as it asks for. -/

namespace SecureEngine

/-! ## (1) Block encryption -/

/-- The first piece of whole pieces is whole, and so are the others. The numbers are those of one step of
`Bytes.chunks`. -/
theorem Bytes.first_chunk {n : Nat} {b : UInt8} {rest : Bytes} (h : (b :: rest).length % n = 0) :
    n ≤ rest.length + 1 ∧ 0 < n ∧ (rest.drop (n - 1)).length % n = 0 := by
  have hle : n ≤ rest.length + 1 := Nat.le_of_dvd (Nat.succ_pos _) (Nat.dvd_of_mod_eq_zero h)
  have hpos : 0 < n := by
    refine Nat.pos_of_ne_zero fun hzero => ?_
    rw [hzero, Nat.mod_zero] at h
    exact absurd h (Nat.succ_ne_zero _)
  have hdrop : (rest.drop (n - 1)).length = rest.length + 1 - n := by
    rw [List.length_drop]
    omega
  -- What is left after one piece is divided as the whole was.
  refine ⟨hle, hpos, ?_⟩
  rw [hdrop, ← Nat.mod_eq_sub_mod hle]
  exact h

/-- Whole pieces are as many as fit: `n` bytes in each of `Bytes.chunks`, with none left over. -/
theorem Bytes.length_chunks {n : Nat} {bytes : Bytes} (h : bytes.length % n = 0) :
    n * (chunks n bytes).length = bytes.length := by
  fun_induction chunks n bytes with
  | case1 => rfl
  | case2 b rest ih =>
    obtain ⟨hle, hpos, hrest⟩ := first_chunk h
    rw [List.length_cons, Nat.mul_succ, ih hrest, List.length_drop, List.length_cons]
    omega

namespace Aes

/-- The bytes of some blocks are sixteen for each, `blockSize` as `unblocks` puts them together. -/
theorem length_unblocks (blocks : List Block) :
    (unblocks blocks).length = blockSize * blocks.length := by
  induction blocks with
  | nil => rfl
  | cons b rest ih =>
    rw [unblocks] at ih ⊢
    rw [List.flatMap_cons, List.length_append, ih, Block.length_toBytes, List.length_cons,
      Nat.mul_succ, Nat.add_comm]

/-- Encrypting or decrypting each block by itself makes as many blocks: `Key.codebook` maps over the
list. -/
theorem Key.length_codebook (key : Key) (direction : Direction) (blocks : List Block) :
    (key.codebook direction blocks).length = blocks.length := by
  cases direction <;> exact List.length_map _

/-- Encrypting a chain by `Key.encryptChain` makes as many blocks, by induction on the list. -/
theorem Key.length_encryptChain (key : Key) (previous : Block) (blocks : List Block) :
    (key.encryptChain previous blocks).length = blocks.length := by
  induction blocks generalizing previous with
  | nil => rfl
  | cons b rest ih => rw [encryptChain, List.length_cons, List.length_cons, ih]

/-- Decrypting a chain by `Key.decryptChain` makes as many blocks, by induction on the list. -/
theorem Key.length_decryptChain (key : Key) (previous : Block) (blocks : List Block) :
    (key.decryptChain previous blocks).length = blocks.length := by
  induction blocks generalizing previous with
  | nil => rfl
  | cons c rest ih => rw [decryptChain, List.length_cons, List.length_cons, ih]

/-- A `Key.chain` has as many blocks in either direction. -/
theorem Key.length_chain (key : Key) (direction : Direction) (previous : Block) (blocks : List Block) :
    (key.chain direction previous blocks).length = blocks.length := by
  cases direction with
  | encrypt => exact key.length_encryptChain previous blocks
  | decrypt => exact key.length_decryptChain previous blocks

end Aes

/-- **A mode keeps the length of its data**, which is whole blocks where `CipherMode.apply` succeeds. -/
theorem CipherMode.length_of_apply {mode : CipherMode} {direction : Direction}
    {material iv data result : Bytes} (h : mode.apply direction material iv data = .ok result) :
    result.length = data.length := by
  unfold apply at h
  by_cases hblocks : data.length % Aes.blockSize = 0
  · rw [if_neg (not_not_intro hblocks)] at h
    -- Whole blocks go in, and each mode maps blocks to blocks.
    have hlength : Aes.blockSize * (Aes.blocks data).length = data.length := by
      rw [Aes.blocks, List.length_map]
      exact Bytes.length_chunks hblocks
    by_cases hiv : mode = .cbc ∧ iv.length ≠ Aes.blockSize
    · rw [if_pos hiv] at h
      cases h
    rw [if_neg hiv] at h
    cases hkey : Aes.Key.ofBytes? material with
    | none =>
      rw [hkey] at h
      cases h
    | some key =>
      rw [hkey] at h
      cases h
      cases mode with
      | ecb => rw [Aes.length_unblocks, key.length_codebook, hlength]
      | cbc => rw [Aes.length_unblocks, key.length_chain, hlength]
  · rw [if_pos hblocks] at h
    cases h

/-! ## (2) Signatures, public keys and MACs -/

namespace Curve

/-- A public key has two coordinates, even the one that `publicKey` makes of the point at infinity. -/
theorem length_publicKey (c : Curve) (scalar : Nat) :
    (c.publicKey scalar).length = 2 * c.fieldSize := by
  unfold publicKey
  split
  · rw [pointBytes, List.length_append, Bytes.length_ofNatBE, Bytes.length_ofNatBE, Nat.two_mul]
  · exact Bytes.length_blank _

/-- A signature has two scalars, as `length_of_signDigest?` says once there is a digest. -/
theorem length_of_sign? {c : Curve} {material input signature : Bytes} {isDigest : Bool}
    (h : c.sign? material isDigest input = some signature) : signature.length = 2 * c.fieldSize := by
  obtain ⟨scalar, -, h⟩ := Option.bind_eq_some_iff.mp h
  obtain ⟨digest, -, h⟩ := Option.bind_eq_some_iff.mp h
  exact length_of_signDigest? h

end Curve

/-- **A SHE MAC is long enough to be cut**: `sheMac` is one block of `sheSize` bytes, whatever the
message. -/
theorem Engine.length_sheMac (key : KeyEntry) (message : Bytes) :
    (sheMac key message).length = sheSize := by
  rw [sheMac, List.length_take, HashAlgorithm.length_hmac]
  rfl

/-! ## (3) Loads -/

/-- **A load brings as many bytes as it asks for**: where `SharedMemory.load` succeeds, the area has them
all. -/
theorem SharedMemory.length_of_load {m : SharedMemory} {a : Address} {n : Nat} {data : Bytes}
    (h : m.load a n = .ok data) : data.length = n := by
  rw [load_exact] at h
  split at h
  · rename_i hzero
    cases h
    exact hzero.symm
  split at h
  · split at h
    · rename_i bytes hbytes
      cases h
      -- The bytes are a slice of one area that lies inside it.
      obtain ⟨region, -, hbytes⟩ := Option.bind_eq_some_iff.mp hbytes
      obtain ⟨position, hposition, hbytes⟩ := Option.bind_eq_some_iff.mp hbytes
      cases hbytes
      exact Area.length_read (Region.position?_le hposition)
    · cases h
  · cases h

/-! ## (4) Outputs -/

/-- The size of the public key that is handed out for a new key; none is for a symmetric key. -/
def KeyType.publicLength (t : KeyType) : Nat := t.publicKeySize?.getD 0

/-- **How many bytes the output of a request has**, if it has one: what is stored for the client has
this length, in every state of the engine. -/
def Command.outputLength? {flavor : Flavor} : (c : Command) → c.Request flavor → Option Nat
  | .generateKey, m => (KeyType.ofCode? m.keyType).map KeyType.publicLength
  | .generateKeyExt, m => (KeyType.ofCode? m.keyType).map KeyType.publicLength
  | .mac, m => some m.macSize.toNat
  | .cipher, m => some m.inputSize.toNat
  | .hash, m => (HashAlgorithm.ofCode? m.algorithm).map HashAlgorithm.digestSize
  | .sign, m => match flavor, m with
    | .legacy, m => (SignatureScheme.ofLegacyId? m.scheme).map SignatureScheme.signatureSize
    | .psa, m => (SignatureScheme.ofPsaId? m.scheme).map SignatureScheme.signatureSize
  | .random, m => some m.size.toNat
  | .sheGenerateMac, _ => some Engine.sheSize
  | .sheRandom, _ => some Engine.sheSize
  | .sheIdentity, _ => some Engine.sheSize
  | _, _ => none

end SecureEngine
