import SecureEngine.Proofs.Decryption
import SecureEngine.Proofs.Operative

/-! # Encrypting and decrypting through the engine

* **`Engine.run_cipher`** — the handler of a cipher request, when everything it looks for is there.
* **`Session.Operative.cipher_eq`** — a cipher operation of a session comes down to the mode on the
  bytes of the client.
* **`Session.cipher_round_trip`** — what has been encrypted is decrypted to what it was. -/

namespace SecureEngine

/-! ## (1) The handler -/

/-- **The initial block that a mode is given**: a codebook takes none, so `CipherMode.ecb` has the empty
one and the others have what the caller passes. -/
def CipherMode.initial (mode : CipherMode) (iv : Bytes) : Bytes :=
  match mode with
  | ecb => []
  | cbc => iv

/-- The keys of block encryption have the sizes that it knows: 16, 24 or 32 bytes for every `KeyType` that
`isAes`. -/
theorem KeyType.size_of_isAes {keyType : KeyType} (h : keyType.isAes = true) :
    keyType.size = 16 ∨ keyType.size = 24 ∨ keyType.size = 32 := by
  cases keyType <;> first | decide | cases h

namespace Engine

open Handling

variable {machine : Machine} {entry : KeyEntry}

/-- **A `Cipher` request does what its mode does** to the bytes that it names. -/
theorem run_cipher {m : Wire.Cipher} {direction : Direction} {mode : CipherMode}
    {data iv result : Bytes} {after : SharedMemory}
    (hkey : (serviceKey m.service .cipher m.key).run machine = (.ok entry, machine))
    (haes : entry.keyType.isAes = true) (hdirection : direction? m.flags = some direction)
    (hsize : m.inputSize ≤ m.outputSize)
    (hdata : machine.memory.load m.inputAddress.toUInt64 m.inputSize.toNat = .ok data)
    (hmode : CipherMode.ofCode? m.mode = some mode)
    (hiv : machine.memory.load m.ivAddress.toUInt64 m.ivSize.toNat = .ok iv)
    (happly : mode.apply direction entry.material (mode.initial iv) data = .ok result)
    (hstore : machine.memory.store m.outputAddress.toUInt64 result = .ok after) :
    (cipher m).run machine = (.ok m.inputSize, { machine with memory := after }) := by
  have hrest : (do
      let result ← lift (mode.apply direction entry.material (mode.initial iv) data)
      store m.outputAddress.toUInt64 result
      return m.inputSize : Handling UInt32).run machine =
        (.ok m.inputSize, { machine with memory := after }) := by
    rw [run_bind_ok (run_lift_ok happly machine), run_bind_ok (run_store_ok hstore)]
    rfl
  rw [cipher, run_bind_ok hkey, run_bind_ok (run_demand_of_true haes _ _),
    run_bind_ok (run_known_ok hdirection _ _),
    run_bind_ok (run_demand_of_true (decide_eq_true hsize) _ _), run_bind_ok (run_load_ok hdata),
    run_bind_ok (run_known_ok hmode _ _)]
  -- Only CBC loads an initial vector.
  cases mode with
  | ecb => exact hrest
  | cbc =>
    dsimp only
    rw [run_bind_ok (run_load_ok hiv)]
    exact hrest

end Engine

/-! ## (2) The request -/

/-- The buffers of a `CipherOperation`, in the order of their registration. -/
def CipherOperation.buffers (a : CipherOperation) : List Bytes := [a.iv, a.input, a.output]

/-- The area that all buffers of a cipher are staged in: the secure one if the operation asks for it, the
other one if not. -/
def CipherOperation.region (a : CipherOperation) : Region := if a.secure then .secure else .dma

/-- A `Cipher` request that asks for an operation, wherever its buffers are. -/
structure CipherOperation.AsksFor (a : CipherOperation) (address : UInt32) (m : Wire.Cipher) : Prop where
  service_eq : m.service = address
  key_eq : m.key = a.key
  mode_eq : m.mode = a.mode
  flags_eq : m.flags = a.flags
  inputSize_eq : m.inputSize = UInt32.ofNat a.input.length
  outputSize_eq : m.outputSize = UInt32.ofNat a.output.length

/-- **A cipher request is prepared** where there is room for the buffers: `Command.prepare` succeeds at
the device and the request `AsksFor` just this operation. -/
theorem Registering.succeeds_prepareCipher {flavor : Flavor} (a : CipherOperation) (address : UInt32)
    (hiv : a.iv.length < UInt16.size) (hinput : a.input.length < UInt32.size)
    (houtput : a.output.length < UInt32.size) :
    Succeeds a.region a.buffers (fun p => a.AsksFor address p.request)
      (Command.cipher.prepare (σ := Device) flavor address (.cipher a)) := by
  refine succeeds_map ?_
  unfold prepareCipher
  refine succeeds_halfSize hiv (succeeds_wordSize hinput (succeeds_wordSize houtput ?_))
  refine succeeds_register rfl nofun fun iv => ?_
  refine succeeds_register rfl nofun fun input => ?_
  refine succeeds_register rfl nofun fun output => ?_
  exact succeeds_pure ⟨rfl, rfl, rfl, rfl, rfl, rfl⟩

/-! ## (3) The operation -/

namespace Session

open Device

variable {s : Session Device} {handle : ServiceHandle} {address : UInt32} {a : CipherOperation}
  {entry : KeyEntry} {mode : CipherMode}

/-- **A `cipher` operation does what its mode does** to the input of the client. The result comes in front
of what the output buffer held, and the engine is left as it was. -/
theorem Operative.cipher_eq (h : s.Operative)
    (hservice : s.handles.resolveKind handle (.service .cipher) = .ok address)
    (hkey : s.key? a.key = some entry) (haes : entry.keyType.isAes = true) {direction : Direction}
    (hdirection : Engine.direction? a.flags = some direction)
    (hmode : CipherMode.ofCode? a.mode = some mode) (hiv : a.iv.length < UInt16.size)
    (hsize : a.input.length ≤ a.output.length) (hroom : stagedSize a.buffers ≤ s.room a.region)
    {result : Bytes}
    (happly : mode.apply direction entry.material (mode.initial a.iv) a.input = .ok result) :
    ∃ transport : Device, cipher handle a s =
        ((.ok (UInt32.ofNat a.input.length), .cipher
          { a with
            output := result ++ a.output.drop a.input.length
            outputSize := UInt32.ofNat a.input.length }), { s with transport }) ∧
      transport.machine.engine = s.transport.machine.engine := by
  have hget := h.get?_code hservice (c := .cipher) rfl
  have hfits {buffer : Bytes} (hbuffer : buffer ∈ a.buffers) : buffer.length < UInt32.size :=
    Nat.lt_of_le_of_lt (Nat.le_trans (length_le_stagedSize hbuffer) (Nat.le_trans hroom
      (s.room_le a.region))) (by decide)
  have hinput := hfits (.tail _ (.head _))
  have houtput := hfits (.tail _ (.tail _ (.head _)))
  -- What the client prepares shows its buffers to the engine.
  obtain ⟨p, t, hp, hprepare, hpresented, hengine⟩ := h.exists_presented hget
    (Registering.succeeds_prepareCipher a address hiv hinput houtput) hroom
  -- The handler finds the key, loads what was staged, and stores the result at the output.
  have hloaded := hpresented.load_eq (i := 1) rfl rfl
  have hinitial := hpresented.load_eq (i := 0) rfl rfl
  have hlength := CipherMode.length_of_apply happly
  have hresult : result.length ≤ a.output.length := by rw [hlength]; exact hsize
  obtain ⟨after, hstored, hleaves⟩ := hpresented.exists_store (i := 2) rfl rfl rfl hresult
  dsimp only at hloaded hinitial hstored hleaves
  rw [List.take_length] at hloaded hinitial
  have hfound : (Engine.serviceKey p.request.service .cipher p.request.key).run t.machine =
      (.ok entry, t.machine) := by
    rw [hp.service_eq, hp.key_eq]
    exact h.run_serviceKey rfl hservice hkey hengine
  -- The engine passes every check of its own, in the order it makes them.
  have hsizes : p.request.inputSize ≤ p.request.outputSize := by
    rw [hp.inputSize_eq, hp.outputSize_eq, UInt32.le_iff_toNat_le, UInt32.toNat_ofNat_of_lt' hinput,
      UInt32.toNat_ofNat_of_lt' houtput]
    exact hsize
  have hrun := Engine.run_cipher hfound haes (by rw [hp.flags_eq]; exact hdirection) hsizes hloaded
    (by rw [hp.mode_eq]; exact hmode) hinitial happly hstored
  -- What the engine stored is what the client reads back, before the old tail of its buffer.
  have hfetch (u : Device) (hu : u.machine = { t.machine with memory := after }) :
      (Channel.fetch p.output (.cipher a) u).1 =
        .ok (.cipher { a with output := result ++ a.output.drop result.length }) := by
    refine Channel.fetch_of_leaves rfl ?_ (by rw [hu]; exact hleaves)
    rw [List.length_append, List.length_drop]
    exact Nat.add_sub_cancel' hresult
  obtain ⟨transport, hcall, hleft⟩ := h.process_succeeded hget (by decide) hprepare hrun hfetch
    fun response hdecode => by
      rw [Command.complete, hdecode, hp.inputSize_eq, hlength]
      rfl
  rw [← call_eq_process hservice] at hcall
  refine ⟨transport, ?_, hleft.trans hengine⟩
  unfold cipher
  rw [if_neg (Nat.not_lt.mpr hsize)]
  exact yielding_ok hcall rfl

/-- **What has been encrypted is decrypted to what it was**: by the same key, in the same mode, with the same
initial block. The ciphertext is what the mode makes of the input, and both operations leave what is behind
the result in the output buffer as it was. -/
theorem cipher_round_trip {d : Device} {configuration : Configuration} {sets : List FamilySet}
    {tableId : UInt32} {start : Session Device} (hd : d.Reachable)
    (hunit : configuration.unit = d.machine.engine.settings.unit)
    (hstart : startWith d configuration (.enabling sets) tableId = .ok start)
    (hrun : Run Injecting start s) (hfaults : s.transport.faults = [])
    (hservice : s.handles.resolveKind handle (.service .cipher) = .ok address)
    (hkey : s.key? a.key = some entry) (haes : entry.keyType.isAes = true)
    (hmode : CipherMode.ofCode? a.mode = some mode) (hiv : a.iv.length < UInt16.size)
    (hchain : mode = .cbc → a.iv.length = Aes.blockSize) (hflags : a.flags = 1)
    (hinput : a.input.length % Aes.blockSize = 0) (hsize : a.input.length ≤ a.output.length)
    (hroom : stagedSize a.buffers ≤ s.room a.region) :
    ∃ ciphertext : Bytes, ciphertext.length = a.input.length ∧
      mode.apply .encrypt entry.material (mode.initial a.iv) a.input = .ok ciphertext ∧
      (cipher handle a s).1 = (.ok (UInt32.ofNat a.input.length), .cipher
        { a with
          output := ciphertext ++ a.output.drop a.input.length
          outputSize := UInt32.ofNat a.input.length }) ∧
      ∀ b : CipherOperation, b.key = a.key → b.mode = a.mode → b.iv = a.iv → b.flags = 0 →
        b.input = ciphertext → a.input.length ≤ b.output.length →
        stagedSize b.buffers ≤ s.room b.region →
        (cipher handle b (cipher handle a s).2).1 = (.ok (UInt32.ofNat a.input.length), .cipher
          { b with
            output := a.input ++ b.output.drop a.input.length
            outputSize := UInt32.ofNat a.input.length }) := by
  have hs := operative hd hunit hstart hrun hfaults
  have hmaterial := KeyType.size_of_isAes haes
  rw [← hs.length_material hkey] at hmaterial
  -- The cipher itself inverts: CBC needs a whole block to start from, and ECB nothing.
  have hblock : mode = .cbc → (mode.initial a.iv).length = Aes.blockSize := by
    rintro rfl
    exact hchain rfl
  obtain ⟨ciphertext, hencrypt, hdecrypt⟩ := CipherMode.exists_apply hmaterial hinput hblock
  have hlength := CipherMode.length_of_apply hencrypt
  have hencrypts : Engine.direction? a.flags = some .encrypt := by rw [hflags]; rfl
  -- The first call, which leaves the engine as it was.
  obtain ⟨transport, hcall, hengine⟩ :=
    hs.cipher_eq hservice hkey haes hencrypts hmode hiv hsize hroom hencrypt
  refine ⟨ciphertext, hlength, hencrypt, by rw [hcall], ?_⟩
  intro b hkey' hmode' hiv' hflags' hinput' hsize' hroom'
  -- The engine still has the key, and the session is still in working order.
  have hnext := hs.perform (.cipher handle a)
  change (cipher handle a s).2.Operative at hnext
  rw [hcall] at hnext ⊢
  have hdecrypts : Engine.direction? b.flags = some .decrypt := by rw [hflags']; rfl
  rw [← hiv', ← hinput'] at hdecrypt
  -- The second call is the first with the other direction, on the session the first one left.
  obtain ⟨_, hcall', -⟩ := hnext.cipher_eq hservice (by rw [key?_congr hengine, hkey']; exact hkey)
    haes hdecrypts (hmode'.symm ▸ hmode) (hiv'.symm ▸ hiv) (by rw [hinput', hlength]; exact hsize')
    hroom' hdecrypt
  rw [hcall', hinput', hlength]

/-- A new device encrypts two blocks by chaining, under a key that it has generated. -/
theorem cipher_round_trip_chained : ∃ start s : Session Device,
    startWith ({ machine := { engine := .start {} } } : Device) {} (.enabling [.full]) 1 = .ok start ∧
    s = start.keyed ⟨7, [], 2, KeyType.aes128.code, 0, 0, 0⟩ .cipher ∧
    let a : CipherOperation := ⟨7, Bytes.blank 16, List.replicate 32 5, Bytes.blank 40, 1, 1, false, 0⟩
    ∃ ciphertext : Bytes, ciphertext.length = 32 ∧
      (cipher ⟨1, 2, 0⟩ a s).1 =
        (.ok 32, .cipher { a with output := ciphertext ++ Bytes.blank 8, outputSize := 32 }) ∧
      (cipher ⟨1, 2, 0⟩ { a with input := ciphertext, flags := 0 } (cipher ⟨1, 2, 0⟩ a s).2).1 =
        (.ok 32, .cipher
          { a with
            input := ciphertext
            flags := 0
            output := List.replicate 32 5 ++ Bytes.blank 8
            outputSize := 32 }) := by
  refine ⟨fresh, _, startWith_fresh, rfl, ?_⟩
  intro a
  have hrun := run_keyed fresh ⟨7, [], 2, KeyType.aes128.code, 0, 0, 0⟩ .cipher
  -- The opened session stays a variable: its state is evaluated once, for the facts of `hready` alone.
  generalize hs : keyed _ _ _ = s at hrun ⊢
  have hready : (s.handles.resolveKind ⟨1, 2, 0⟩ (.service .cipher)).toOption = some 259 ∧
      (s.key? 7).map KeyEntry.keyType = some .aes128 ∧ s.transport.faults = [] ∧
      stagedSize a.buffers ≤ s.room a.region := by
    rw [← hs]
    decide +kernel
  obtain ⟨hservice, hkey, hfaults, hroom⟩ := hready
  obtain ⟨entry, hkey, htype⟩ := Option.map_eq_some_iff.mp hkey
  have hsize : a.input.length ≤ a.output.length := by decide
  obtain ⟨ciphertext, hlength, -, hencrypt, hdecrypt⟩ := cipher_round_trip Device.reachable_new rfl
    startWith_fresh hrun hfaults (eq_ok_of_toOption hservice) hkey (by rw [htype]; rfl)
    (show CipherMode.ofCode? a.mode = some .cbc from rfl) (by decide) (fun _ => rfl) rfl (by decide)
    hsize hroom
  refine ⟨ciphertext, hlength, hencrypt, ?_⟩
  refine hdecrypt { a with input := ciphertext, flags := 0 } rfl rfl rfl rfl rfl hsize ?_
  -- The ciphertext is as long as the plaintext, so the second call needs the same room.
  have hsame : stagedSize (CipherOperation.buffers { a with input := ciphertext, flags := 0 }) =
      stagedSize a.buffers := by
    simp only [stagedSize, CipherOperation.buffers, List.foldr_cons, hlength]
  rw [hsame]
  exact hroom

end Session

end SecureEngine
