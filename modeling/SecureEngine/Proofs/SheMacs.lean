import SecureEngine.Proofs.Gating
import SecureEngine.Proofs.Macs

/-! # SHE MACs through the engine

Both requests name their buffers by short addresses, and find their key in whichever key store is open.

* **`Engine.run_sheGenerateMac`**, **`run_sheVerifyMac`** — the handlers, when everything they look for is
  there.
* **`Session.Slot`** — what it takes to use a SHE slot.
* **`Session.Operative.sheGenerateMac_eq`**, **`sheVerifyMac_eq`** — what the two operations of a session
  come to.
* **`Session.sheMacs_agree`** — the tags that are accepted are the fronts of the MAC;
  **`Session.exists_sheMac_notSupported`** — only a session with the family of these requests sends them. -/

namespace SecureEngine

/-! ## (1) The handlers -/

namespace Engine

open Handling

variable {machine : Machine} {entry : KeyEntry} {message : Bytes}

/-- **The SHE MAC decides about every tag that is not longer.** It is the front of the MAC that tags are
verified against. -/
theorem acceptsTag_take_iff (entry : KeyEntry) (message : Bytes) {tag : Bytes} {n : Nat} (hn : 0 < n)
    (hsize : n ≤ sheSize) (htag : tag.length = sheSize) :
    HashAlgorithm.sha256.acceptsTag entry.material message (tag.take n) = true ↔
      tag.take n = (sheMac entry message).take n := by
  -- The front of a MAC is the front of the digest, since a MAC is no longer than that.
  have hlength : (tag.take n).length = n := by
    rw [List.length_take, htag]
    exact Nat.min_eq_left hsize
  have hdigest : n ≤ HashAlgorithm.sha256.digestSize := Nat.le_trans hsize (by decide)
  have hne : tag.take n ≠ [] := List.ne_nil_of_length_pos (by rw [hlength]; exact hn)
  rw [HashAlgorithm.acceptsTag_eq_true_iff _ hne, hlength, and_iff_right hdigest, sheMac,
    List.take_take, Nat.min_eq_left hsize]

/-- **A SHE MAC is stored** where the request has its buffer for it: `sheGenerateMac` loads the message,
and stores `sheMac` of it. -/
theorem run_sheGenerateMac {m : Wire.SheGenerateMac} {after : SharedMemory}
    (hkey : machine.engine.sheKey? m.key.toUInt32 = some entry)
    (hmessage : machine.memory.load (SharedMemory.ofShort m.messageOffset) m.messageSize.toNat =
      .ok message)
    (hstore : machine.memory.store (SharedMemory.ofShort m.macOffset) (sheMac entry message) =
      .ok after) :
    (sheGenerateMac m).run machine = (.ok (), { machine with memory := after }) := by
  rw [sheGenerateMac, run_bind_ok (run_engine _), run_bind_ok (run_known_ok hkey _ _),
    run_bind_ok (run_load_ok hmessage)]
  exact run_store_ok hstore

/-- **A tag is verified** that is neither empty nor longer than a SHE MAC. -/
theorem run_sheVerifyMac {m : Wire.SheVerifyMac} {tag : Bytes}
    (hkey : machine.engine.sheKey? m.key.toUInt32 = some entry)
    (hmessage : machine.memory.load (SharedMemory.ofShort m.messageOffset) m.messageSize.toNat =
      .ok message)
    (htag : machine.memory.load (SharedMemory.ofShort m.macOffset) m.macLength.toNat = .ok tag)
    (hne : tag ≠ []) (hsize : tag.length ≤ sheSize) :
    (sheVerifyMac m).run machine =
      (.ok (if HashAlgorithm.sha256.acceptsTag entry.material message tag then 0 else 1), machine) := by
  have hdemand : (!tag.isEmpty && tag.length ≤ sheSize : Bool) = true := by
    rw [Bool.and_eq_true, Bool.not_eq_true', List.isEmpty_eq_false_iff, decide_eq_true_iff]
    exact ⟨hne, hsize⟩
  rw [sheVerifyMac, run_bind_ok (run_engine _), run_bind_ok (run_known_ok hkey _ _),
    run_bind_ok (run_load_ok hmessage), run_bind_ok (run_load_ok htag),
    run_bind_ok (run_demand_of_true hdemand _ _)]
  rfl

end Engine

/-! ## (2) The requests -/

/-- The buffers of a generation, in the order of their registration: the message, and behind it the room
for the MAC. -/
def SheMacGeneration.buffers (a : SheMacGeneration) : List Bytes := [a.message, a.mac]

/-- The buffers of a verification. The whole MAC is staged, also when only its front is verified. -/
def SheMacVerification.buffers (a : SheMacVerification) : List Bytes := [a.message, a.mac]

namespace Registering

variable {flavor : Flavor} (address : UInt32)

/-- **The requests are prepared** where there is room for their buffers in the window. -/
theorem succeeds_prepareSheGenerateMac (a : SheMacGeneration) (hmac : a.mac.length = Engine.sheSize)
    (hmessage : a.message.length < UInt16.size) :
    Succeeds .secure a.buffers (fun p => p.request.key = sheKeyNumber a.extension a.key)
      (Command.sheGenerateMac.prepare (σ := Device) flavor address (.sheGenerateMac a)) := by
  refine succeeds_map ?_
  unfold prepareSheGenerateMac
  refine succeeds_demand (beq_iff_eq.mpr hmac) (succeeds_halfSize hmessage ?_)
  refine succeeds_register rfl (fun _ => rfl) fun message => ?_
  refine succeeds_register rfl (fun _ => rfl) fun mac => ?_
  exact succeeds_pure rfl

/-- A `sheVerifyMac` request is prepared, if the message fits its size field and there is room for both
buffers. -/
theorem succeeds_prepareSheVerifyMac (a : SheMacVerification) (hmac : a.mac.length = Engine.sheSize)
    (hlength : a.macLength ≤ 16) (hmessage : a.message.length < UInt16.size) :
    Succeeds .secure a.buffers
      (fun p => p.request.key = sheKeyNumber a.extension a.key ∧ p.output = none)
      (Command.sheVerifyMac.prepare (σ := Device) flavor address (.sheVerifyMac a)) := by
  refine succeeds_map ?_
  unfold prepareSheVerifyMac
  refine succeeds_demand (beq_iff_eq.mpr hmac) (succeeds_demand (decide_eq_true hlength) ?_)
  refine succeeds_halfSize hmessage ?_
  refine succeeds_register rfl (fun _ => rfl) fun message => ?_
  refine succeeds_register rfl (fun _ => rfl) fun mac => ?_
  exact succeeds_pure ⟨rfl, rfl⟩

end Registering

/-! ## (3) The operations -/

namespace Session

open Device

variable {s : Session Device} {entry : KeyEntry}

/-- **The key that the engine finds in a SHE slot**: `Engine.sheKey?` at the number that `sheKeyNumber`
makes of extension and key. -/
def sheKey? (s : Session Device) (extension key : UInt8) : Option KeyEntry :=
  s.transport.machine.engine.sheKey? (sheKeyNumber extension key).toUInt32

/-- **What it takes to use a SHE slot**: the session is open and has the family of SHE enabled, the engine
finds a key in the slot, and no fault is queued. -/
structure Slot (s : Session Device) (extension key : UInt8) (entry : KeyEntry) : Prop where
  isOpen : s.isOpen = true
  enabled : Family.she ∈ s.channel.table.families
  key_eq : s.sheKey? extension key = some entry
  faults_eq : s.transport.faults = []

/-- An open session can be asked for what its families have: `get?` finds a command whose family is in the
table. -/
theorem Standing.get?_code_of_mem (h : s.Standing) {c : Command}
    (hfamily : c.family ∈ s.channel.table.families) : s.channel.table.get? c.code = some c :=
  h.sound.lawful.get?_eq_some_iff.mpr ⟨rfl, hfamily⟩

/-- A message beside a MAC is not longer than its size in the request can tell. -/
theorem length_message_lt {message mac : Bytes} (hmac : mac.length = Engine.sheSize)
    (hroom : stagedSize [message, mac] ≤ s.room .secure) : message.length < UInt16.size := by
  have hsize : mac.length = 16 := hmac
  refine length_payload_lt (a := ⟨0, message, mac, 0, 0, 0⟩) ?_ (Nat.le_trans hroom (s.room_le .secure))
  exact List.ne_nil_of_length_pos (by dsimp only; omega)

/-- **A SHE MAC is generated** into a buffer of sixteen bytes, and the engine is left as it was. -/
theorem Operative.sheGenerateMac_eq {a : SheMacGeneration} (h : s.Operative)
    (hslot : s.Slot a.extension a.key entry) (hmac : a.mac.length = Engine.sheSize)
    (hroom : stagedSize a.buffers ≤ s.room .secure) :
    ∃ transport : Device, sheGenerateMac a s =
        ((.ok (), .sheGenerateMac { a with mac := Engine.sheMac entry a.message }),
          { s with transport }) ∧
      transport.machine.engine = s.transport.machine.engine := by
  have hget := h.get?_code_of_mem (c := .sheGenerateMac) hslot.enabled
  obtain ⟨p, t, hp, hprepare, hpresented, hengine⟩ := h.exists_presented hget
    (Registering.succeeds_prepareSheGenerateMac s.identifier a hmac (length_message_lt hmac hroom))
    hroom
  have hlength : (Engine.sheMac entry a.message).length = a.mac.length :=
    (Engine.length_sheMac entry a.message).trans hmac.symm
  -- The handler finds the key, loads the message, and stores all of the MAC at the output.
  have hfound : t.machine.engine.sheKey? p.request.key.toUInt32 = some entry := by
    rw [hp, hengine]
    exact hslot.key_eq
  have hloaded := hpresented.load_eq (i := 0) rfl rfl
  dsimp only at hloaded
  rw [List.take_length] at hloaded
  obtain ⟨after, hstored, hleaves⟩ :=
    hpresented.exists_store (i := 1) rfl rfl rfl (Nat.le_of_eq hlength)
  dsimp only at hstored hleaves
  rw [hlength, List.drop_length, List.append_nil] at hleaves
  have hrun := Engine.run_sheGenerateMac hfound hloaded hstored
  have hfetch (u : Device) (hu : u.machine = { t.machine with memory := after }) :
      (Channel.fetch p.output (.sheGenerateMac a) u).1 =
        .ok (.sheGenerateMac { a with mac := Engine.sheMac entry a.message }) :=
    Channel.fetch_of_leaves rfl hlength (by rw [hu]; exact hleaves)
  obtain ⟨transport, hcall, hleft⟩ := h.process_succeeded hget (by decide) hprepare hrun hfetch
    fun response hdecode => rfl
  rw [← ask_eq_process (bne_iff_ne.mp hslot.isOpen)] at hcall
  exact ⟨transport, hcall, hleft.trans hengine⟩

/-- A verification of a tag that is not empty is a question, and tells the status that it ends with. -/
theorem sheVerifyMac_of_ask_ok {a b : SheMacVerification} {t : Session Device} (hlength : a.macLength ≠ 0)
    (hask : ask .sheVerifyMac (.sheVerifyMac a) s = ((.ok (), .sheVerifyMac b), t)) :
    sheVerifyMac a s = ((.ok b.status, .sheVerifyMac b), t) := by
  unfold sheVerifyMac
  rw [if_neg hlength]
  exact yielding_ok hask rfl

/-- **A tag is verified against the front of the SHE MAC** that is as long. -/
theorem Operative.sheVerifyMac_eq {a : SheMacVerification} (h : s.Operative)
    (hslot : s.Slot a.extension a.key entry) (hmac : a.mac.length = Engine.sheSize)
    (hlength : a.macLength ≠ 0) (hsize : a.macLength ≤ 16)
    (hroom : stagedSize a.buffers ≤ s.room .secure) :
    ∃ status, (sheVerifyMac a s).1 = (.ok status, .sheVerifyMac { a with status }) ∧
      (status = 0 ↔ a.mac.take a.macLength.toNat =
        (Engine.sheMac entry a.message).take a.macLength.toNat) := by
  have hget := h.get?_code_of_mem (c := .sheVerifyMac) hslot.enabled
  obtain ⟨p, t, ⟨hp, houtput⟩, hprepare, hpresented, hengine⟩ := h.exists_presented hget
    (Registering.succeeds_prepareSheVerifyMac s.identifier a hmac hsize
      (length_message_lt hmac hroom)) hroom
  have hpos : 0 < a.macLength.toNat :=
    Nat.pos_of_ne_zero fun hzero => hlength (UInt8.toNat_inj.mp hzero)
  have hfront : a.macLength.toNat ≤ Engine.sheSize := UInt8.le_iff_toNat_le.mp hsize
  -- The engine is shown the front of the tag, and that front is as long as asked for.
  have htag : (a.mac.take a.macLength.toNat).length = a.macLength.toNat := by
    rw [List.length_take, hmac]
    exact Nat.min_eq_left hfront
  have hfound : t.machine.engine.sheKey? p.request.key.toUInt32 = some entry := by
    rw [hp, hengine]
    exact hslot.key_eq
  have hmessage := hpresented.load_eq (i := 0) rfl rfl
  have hloaded := hpresented.load_eq (i := 1) rfl rfl
  dsimp only at hmessage hloaded
  rw [List.take_length] at hmessage
  have hne : a.mac.take a.macLength.toNat ≠ [] :=
    List.ne_nil_of_length_pos (by rw [htag]; exact hpos)
  have hrun := Engine.run_sheVerifyMac hfound hmessage hloaded hne (by rw [htag]; exact hfront)
  have hfetch (u : Device) (_ : u.machine = t.machine) :
      (Channel.fetch p.output (.sheVerifyMac a) u).1 = .ok (.sheVerifyMac a) := by
    rw [houtput]
    rfl
  obtain ⟨transport, hcall, -⟩ := h.process_succeeded hget (by decide) hprepare hrun hfetch
    fun response hdecode => by
      rw [Command.complete, hdecode]
      rfl
  rw [← ask_eq_process (bne_iff_ne.mp hslot.isOpen)] at hcall
  -- The engine compares fronts, and so does the statement.
  have haccepts := Engine.acceptsTag_take_iff entry a.message hpos hfront hmac
  refine ⟨_, congrArg Prod.fst (sheVerifyMac_of_ask_ok hlength hcall), ?_⟩
  dsimp only
  rw [← haccepts]
  split
  case isTrue haccepted => exact iff_of_true rfl haccepted
  case isFalse hrefused => exact iff_of_false (by decide) hrefused

/-- **The tags that are accepted are the fronts of the MAC.** As long as the engine finds the same key in a
SHE slot, a tag is verified against the MAC that was generated with it, in as many bytes as are asked for,
wherever the window lies in the secure RAM. Generating the MAC leaves the slot as it is. -/
theorem sheMacs_agree {d : Device} {configuration : Configuration} {sets : List FamilySet}
    {tableId : UInt32} {start : Session Device} {extension key : UInt8} (hd : d.Reachable)
    (hunit : configuration.unit = d.machine.engine.settings.unit)
    (hstart : startWith d configuration (.enabling sets) tableId = .ok start)
    (hrun : Run Injecting start s) (hslot : s.Slot extension key entry) (message : Bytes)
    {buffer : Bytes} (hbuffer : buffer.length = 16)
    (hroom : stagedSize [message, buffer] ≤ s.room .secure) :
    ∃ mac : Bytes, mac.length = 16 ∧
      (sheGenerateMac ⟨extension, key, message, buffer⟩ s).1 =
        (.ok (), .sheGenerateMac ⟨extension, key, message, mac⟩) ∧
      (sheGenerateMac ⟨extension, key, message, buffer⟩ s).2.Slot extension key entry ∧
      ∀ t : Session Device, Run Injecting s t → t.Slot extension key entry →
        ∀ (tag : Bytes) (n : UInt8), tag.length = 16 → 1 ≤ n → n ≤ 16 →
          ∃ status : UInt32, (sheVerifyMac ⟨extension, key, message, tag, n, 0⟩ t).1 =
              (.ok status, .sheVerifyMac ⟨extension, key, message, tag, n, status⟩) ∧
            (status = 0 ↔ tag.take n.toNat = mac.take n.toNat) := by
  have hs := operative hd hunit hstart hrun hslot.faults_eq
  obtain ⟨transport, hgenerated, hengine⟩ :=
    hs.sheGenerateMac_eq (a := ⟨extension, key, message, buffer⟩) hslot hbuffer hroom
  refine ⟨Engine.sheMac entry message, Engine.length_sheMac entry message, by rw [hgenerated], ?_, ?_⟩
  · have hnext := (hs.perform (.sheGenerateMac ⟨extension, key, message, buffer⟩)).faults_eq
    change (sheGenerateMac ⟨extension, key, message, buffer⟩ s).2.transport.faults = [] at hnext
    rw [hgenerated] at hnext ⊢
    refine ⟨hslot.isOpen, hslot.enabled, ?_, hnext⟩
    rw [sheKey?, hengine]
    exact hslot.key_eq
  · intro t hlater hslot' tag n htag hpos hn
    have ht := operative hd hunit hstart (hrun.trans hlater) hslot'.faults_eq
    refine ht.sheVerifyMac_eq (a := ⟨extension, key, message, tag, n, 0⟩) hslot' htag ?_ hn ?_
    · rintro rfl
      exact absurd hpos (by decide)
    · -- A tag takes as much room as the buffer of the MAC, and the window has not moved.
      have hwindow := hlater.window_eq hs.sound
      have hsame : stagedSize [message, tag] = stagedSize [message, buffer] := by
        simp only [stagedSize, List.foldr_cons, hbuffer, htag]
      unfold room at hroom ⊢
      rw [hwindow, SheMacVerification.buffers, hsame]
      exact hroom

/-- A new device accepts a tag that has two bytes in common with the MAC, if no more are asked for. -/
theorem sheMacs_agree_front : ∃ start s : Session Device,
    startWith ({ machine := { engine := .start {} } } : Device) {} (.enabling [.full]) 1 = .ok start ∧
    s = start.keyed ⟨7, [], 2, KeyType.aes128.code, 0, 0, 0⟩ .cipher ∧
    let a : SheMacGeneration := ⟨0, 7, [1, 2, 3], Bytes.blank 16⟩
    ∃ mac : Bytes, mac.length = 16 ∧
      (sheGenerateMac a s).1 = (.ok (), .sheGenerateMac { a with mac }) ∧
      (sheVerifyMac ⟨0, 7, [1, 2, 3], mac.take 2 ++ Bytes.blank 14, 2, 0⟩ (sheGenerateMac a s).2).1.1 =
        .ok 0 := by
  refine ⟨fresh, _, startWith_fresh, rfl, ?_⟩
  intro a
  have hrun := run_keyed fresh ⟨7, [], 2, KeyType.aes128.code, 0, 0, 0⟩ .cipher
  -- The opened session stays a variable: its state is evaluated once, for the facts of `hready` alone.
  generalize hs : keyed _ _ _ = s at hrun ⊢
  have hready : s.isOpen = true ∧ Family.she ∈ s.channel.table.families ∧
      (s.sheKey? 0 7).isSome = true ∧ s.transport.faults = [] ∧
      stagedSize [[1, 2, 3], Bytes.blank 16] ≤ s.room .secure := by
    rw [← hs]
    decide +kernel
  obtain ⟨hopen, henabled, hkey, hfaults, hroom⟩ := hready
  obtain ⟨entry, hkey⟩ := Option.isSome_iff_exists.mp hkey
  obtain ⟨mac, hlength, hgenerated, hslot, hverified⟩ := sheMacs_agree Device.reachable_new rfl
    startWith_fresh hrun ⟨hopen, henabled, hkey, hfaults⟩ [1, 2, 3] (show (Bytes.blank 16).length = 16 from rfl) hroom
  refine ⟨mac, hlength, hgenerated, ?_⟩
  have hfront : (mac.take 2).length = 2 := by
    rw [List.length_take, hlength]
    rfl
  obtain ⟨status, hstatus, hiff⟩ := hverified _ (.perform (.sheGenerateMac a) .refl) hslot
    (mac.take 2 ++ Bytes.blank 14) 2 (by rw [List.length_append, hfront]; rfl) (by decide) (by decide)
  have hzero : status = 0 := hiff.mpr (List.take_left' hfront)
  rw [hzero] at hstatus
  exact congrArg Prod.fst hstatus

/-- **Only a session with the family of SHE sends these requests.** This one is in working order and open,
its window has room for the buffers, and the engine finds a key in the slot; but the client refuses to
ask for a MAC. -/
theorem exists_sheMac_notSupported : ∃ start s : Session Device,
    startWith ({ machine := { engine := .start {} } } : Device) {}
      (.enabling [.ofList [.session, .keyStore, .keyManagement, .cipher]]) 1 = .ok start ∧
    s = start.keyed ⟨7, [], 2, KeyType.aes128.code, 0, 0, 0⟩ .cipher ∧ s.isOpen = true ∧
    s.transport.faults = [] ∧ (s.sheKey? 0 7).isSome = true ∧
    stagedSize [[1, 2, 3], Bytes.blank 16] ≤ s.room .secure ∧
    (sheGenerateMac ⟨0, 7, [1, 2, 3], Bytes.blank 16⟩ s).1 =
      (.error (.notSupported Command.sheGenerateMac.code),
        .sheGenerateMac ⟨0, 7, [1, 2, 3], Bytes.blank 16⟩) := by
  obtain ⟨start, hstart⟩ := exists_eq_ok (r := startWith
    ({ machine := { engine := .start {} } } : Device) {}
    (.enabling [.ofList [.session, .keyStore, .keyManagement, .cipher]]) 1) (by decide +kernel)
  refine ⟨start, _, hstart, rfl, ?_⟩
  obtain rfl : _ = start := congrArg Prod.snd (startWith_eq_ok_iff.mp hstart)
  decide +kernel

end Session

end SecureEngine
