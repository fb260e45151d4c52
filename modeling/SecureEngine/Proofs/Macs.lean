import SecureEngine.Proofs.Operative

/-! # Generating and verifying MACs through the engine

A MAC is generated to the size of its buffer, and a tag is verified against the front of the MAC.

* **`Engine.run_mac`** — what the handler does once it has the key and the payload.
* **`Session.Operative.mac_generated`**, **`mac_refused`**, **`mac_verified`** — what a MAC operation of a
  session comes to.
* **`Session.mac_truncations`** — the tags that are accepted are the truncations of the MAC. -/

namespace SecureEngine

/-! ## (1) The handler -/

namespace HashAlgorithm

/-- **A tag that is not empty is accepted just when it is a truncation of the MAC.** -/
theorem acceptsTag_eq_true_iff (hash : HashAlgorithm) {key message tag : Bytes} (hne : tag ≠ []) :
    hash.acceptsTag key message tag = true ↔
      tag.length ≤ hash.digestSize ∧ tag = (hash.hmac key message).take tag.length := by
  have hempty : tag.isEmpty = false := by rwa [List.isEmpty_eq_false_iff]
  rw [acceptsTag, hempty, Bool.not_false, Bool.true_and, beq_iff_eq]
  constructor
  · intro h
    refine ⟨?_, h.symm⟩
    rw [← h, List.length_take, length_hmac]
    exact Nat.min_le_right _ _
  · rintro ⟨-, h⟩
    exact h.symm

end HashAlgorithm

namespace Engine

open Handling

variable {m : Wire.Mac} {machine : Machine} {entry : KeyEntry} {hash : HashAlgorithm} {payload : Bytes}

/-- What a MAC request comes to, once its key and its payload are there. -/
def macOf (m : Wire.Mac) (entry : KeyEntry) (hash : HashAlgorithm) (payload : Bytes) :
    Handling UInt32 :=
  if m.flags &&& 1 ≠ 0 then do
    demand (0 < m.macSize.toNat && m.macSize.toNat ≤ hash.digestSize) .invalidParam
    store m.macAddress.toUInt64 ((hash.hmac entry.material payload).take m.macSize.toNat)
    return 0
  else do
    demand (entry.minMacLength.toNat ≤ m.macSize.toNat) .invalidParam
    let tag ← load m.macAddress.toUInt64 m.macSize.toNat
    demand (!tag.isEmpty) .invalidParam
    return if hash.acceptsTag entry.material payload tag then macVerified else 0

/-- **The handler of a MAC request**, for a key of hashed authentication: `Engine.mac` comes to `macOf`
with the key and the payload that it has loaded. -/
theorem run_mac (hkey : (serviceKey m.service .mac m.key).run machine = (.ok entry, machine))
    (hhmac : entry.keyType.isHmac = true)
    (halgorithm : MacAlgorithm.ofCode? m.algorithm = some (.hmac hash))
    (hpayload : machine.memory.load m.payloadAddress.toUInt64 m.payloadSize.toNat = .ok payload) :
    (mac m).run machine = (macOf m entry hash payload).run machine := by
  rw [mac, run_bind_ok hkey]
  dsimp only
  rw [run_bind_ok (run_demand_of_true (by rw [hhmac, Bool.or_true]) _ _),
    run_bind_ok (run_load_ok hpayload), halgorithm]
  rfl

/-- A MAC is stored that is as long as its buffer, if the MAC has so many bytes. -/
theorem run_macOf_generation {after : SharedMemory} (hflags : m.flags &&& 1 ≠ 0)
    (hpos : 0 < m.macSize.toNat) (hsize : m.macSize.toNat ≤ hash.digestSize)
    (hstore : machine.memory.store m.macAddress.toUInt64
      ((hash.hmac entry.material payload).take m.macSize.toNat) = .ok after) :
    (macOf m entry hash payload).run machine = (.ok 0, { machine with memory := after }) := by
  have hdemand : (0 < m.macSize.toNat && m.macSize.toNat ≤ hash.digestSize : Bool) = true := by
    rw [Bool.and_eq_true, decide_eq_true_iff, decide_eq_true_iff]
    exact ⟨hpos, hsize⟩
  rw [macOf, if_pos hflags, run_bind_ok (run_demand_of_true hdemand _ _),
    run_bind_ok (run_store_ok hstore)]
  rfl

/-- **A MAC longer than the digest is not generated**: `macOf` refuses the request with `invalidParam`,
and the machine stays. -/
theorem run_macOf_oversized (hflags : m.flags &&& 1 ≠ 0) (hsize : hash.digestSize < m.macSize.toNat) :
    (macOf m entry hash payload).run machine = (.error Reason.invalidParam.toError, machine) := by
  have hdemand : (0 < m.macSize.toNat && m.macSize.toNat ≤ hash.digestSize : Bool) = false := by
    rw [decide_eq_false (Nat.not_le.mpr hsize), Bool.and_false]
  rw [macOf, if_pos hflags]
  exact run_bind_error (run_demand_of_false hdemand _ _)

/-- The key bounds the tags that it verifies from below: `macOf` refuses a shorter one than
`minMacLength`. -/
theorem run_macOf_short (hflags : m.flags &&& 1 = 0)
    (hsize : m.macSize.toNat < entry.minMacLength.toNat) :
    (macOf m entry hash payload).run machine = (.error Reason.invalidParam.toError, machine) := by
  rw [macOf, if_neg fun h => h hflags]
  exact run_bind_error (run_demand_of_false (decide_eq_false (Nat.not_le.mpr hsize)) _ _)

/-- **A tag is verified by its front**: `macOf` loads it and answers `macVerified` or zero as `acceptsTag`
tells. -/
theorem run_macOf_verification {tag : Bytes} (hflags : m.flags &&& 1 = 0)
    (hsize : entry.minMacLength.toNat ≤ m.macSize.toNat)
    (htag : machine.memory.load m.macAddress.toUInt64 m.macSize.toNat = .ok tag) (hne : tag ≠ []) :
    (macOf m entry hash payload).run machine =
      (.ok (if hash.acceptsTag entry.material payload tag then macVerified else 0), machine) := by
  have hdemand : (!tag.isEmpty) = true := by rwa [Bool.not_eq_true', List.isEmpty_eq_false_iff]
  rw [macOf, if_neg fun h => h hflags,
    run_bind_ok (run_demand_of_true (decide_eq_true hsize) _ _), run_bind_ok (run_load_ok htag),
    run_bind_ok (run_demand_of_true hdemand _ _)]
  rfl

end Engine

/-! ## (2) The request -/

/-- The buffers of a MAC operation, in the order of their registration: the payload, and behind it the
room for the tag. -/
def MacOperation.buffers (a : MacOperation) : List Bytes := [a.payload, a.mac]

/-- A `mac` request that asks for an operation, wherever its buffers are. The MAC is read back only when
it is generated. -/
structure MacOperation.AsksFor {flavor : Flavor} (a : MacOperation) (address : UInt32)
    (p : Prepared flavor .mac) : Prop where
  service_eq : p.request.service = address
  key_eq : p.request.key = a.key
  macSize_eq : p.request.macSize = UInt16.ofNat a.mac.length
  flags_eq : p.request.flags = a.flags
  algorithm_eq : p.request.algorithm = a.algorithm
  output_eq : a.isGeneration = false → p.output = none

namespace MacOperation.AsksFor

variable {flavor : Flavor} {a : MacOperation} {address : UInt32} {p : Prepared flavor .mac}

/-- A prepared MAC request tells the length of the MAC buffer, if that fits a half word. -/
theorem toNat_macSize (hp : a.AsksFor address p) (hsmall : a.mac.length < UInt16.size) :
    p.request.macSize.toNat = a.mac.length := by
  rw [hp.macSize_eq, UInt16.toNat_ofNat_of_lt' hsmall]

/-- A request to generate a MAC has the lowest bit of its flags set. -/
theorem flags_ne (hp : a.AsksFor address p) (hgeneration : a.isGeneration = true) :
    p.request.flags &&& 1 ≠ 0 := by
  rw [hp.flags_eq]
  exact bne_iff_ne.mp hgeneration

/-- A request to verify a MAC has the lowest bit of its flags cleared. -/
theorem flags_eq_zero (hp : a.AsksFor address p) (hverification : a.isGeneration = false) :
    p.request.flags &&& 1 = 0 := by
  rw [hp.flags_eq]
  exact bne_eq_false_iff_eq.mp hverification

end MacOperation.AsksFor

/-- **A `mac` request is prepared** where there is room for the buffers. -/
theorem Registering.succeeds_prepareMac {flavor : Flavor} (a : MacOperation) (address : UInt32)
    (hpayload : a.payload.length < UInt16.size) (hmac : a.mac.length < UInt16.size) :
    Succeeds .dma a.buffers (a.AsksFor address)
      (Command.mac.prepare (σ := Device) flavor address (.mac a)) := by
  refine succeeds_map ?_
  unfold prepareMac
  refine succeeds_halfSize hpayload (succeeds_halfSize hmac ?_)
  refine succeeds_register rfl nofun fun payload => succeeds_register rfl nofun fun mac => ?_
  refine succeeds_pure ⟨rfl, rfl, rfl, rfl, rfl, fun hverification => ?_⟩
  exact if_neg (by rw [hverification]; decide)

/-! ## (3) The operation -/

namespace Session

open Device

variable {s : Session Device} {handle : ServiceHandle} {address : UInt32} {a : MacOperation}
  {entry : KeyEntry} {hash : HashAlgorithm}

/-- A payload beside a MAC is not longer than its size in the message can tell. -/
theorem length_payload_lt (hne : a.mac ≠ []) (hroom : stagedSize a.buffers ≤ areaSize) :
    a.payload.length < UInt16.size := by
  have hmac := List.length_pos_iff.mpr hne
  have hpayload := SharedMemory.le_wholeWords a.payload.length
  have hwords := SharedMemory.le_wholeWords a.mac.length
  have hsum : stagedSize a.buffers = wholeWords a.payload.length + wholeWords a.mac.length := by
    rw [MacOperation.buffers, stagedSize_cons, stagedSize_cons]
    rfl
  have harea : areaSize = UInt16.size := rfl
  omega

/-- A `MacOperation` with a buffer is a call, and tells the status that it ends with. -/
theorem mac_of_call_ok (hne : a.mac ≠ []) {b : MacOperation} {t : Session Device}
    (hcall : call handle .mac .mac (.mac a) s = ((.ok (), .mac b), t)) :
    mac handle a s = ((.ok b.status, .mac b), t) := by
  unfold mac
  rw [if_neg (by rwa [List.isEmpty_iff])]
  exact yielding_ok hcall rfl

/-- A MAC operation whose message fails ends with that error, and its arguments stay. -/
theorem mac_of_call_error (hne : a.mac ≠ []) {e : ClientError} {t : Session Device}
    (hcall : call handle .mac .mac (.mac a) s = ((.error e, .mac a), t)) :
    mac handle a s = ((.error e, .mac a), t) := by
  unfold mac
  rw [if_neg (by rwa [List.isEmpty_iff])]
  exact yielding_error _ hcall

/-- **A MAC whose size its field cannot tell is refused by the client**: the field has 16 bits, so the
check is against `UInt16.size`. -/
theorem Operative.mac_tooLarge (h : s.Operative)
    (hservice : s.handles.resolveKind handle (.service .mac) = .ok address) (hne : a.mac ≠ [])
    (hroom : stagedSize a.buffers ≤ areaSize) (hlarge : UInt16.size ≤ a.mac.length) :
    (mac handle a s).1 = (.error (.validation (.tooLarge .macBuffer)), .mac a) := by
  have hpayload := length_payload_lt hne hroom
  -- The lengths are looked at before a buffer is staged.
  have hprepare : (Command.mac.prepare s.engineChannel.flavor address (.mac a)).run s.transport =
      (.error (.validation (.tooLarge .macBuffer)), s.transport) := by
    rw [Command.prepare, run_map, prepareMac, halfSize, if_pos hpayload, halfSize,
      if_neg (Nat.not_lt.mpr hlarge)]
    rfl
  obtain ⟨transport, hcall⟩ :=
    process_unprepared (h.get?_code hservice (c := .mac) rfl) (by decide) hprepare
  rw [← call_eq_process hservice] at hcall
  rw [mac_of_call_error hne hcall]

section

variable (h : s.Operative) (hservice : s.handles.resolveKind handle (.service .mac) = .ok address)
  (hkey : s.key? a.key = some entry) (hhmac : entry.keyType.isHmac = true)
  (halgorithm : MacAlgorithm.ofCode? a.algorithm = some (.hmac hash)) (hne : a.mac ≠ [])
  (hroom : stagedSize a.buffers ≤ areaSize)

include h hservice hkey hhmac halgorithm hne hroom

/-- **The request of a MAC operation comes to the MAC of its payload**: what `Session.mac` sends is
handled by `Engine.macOf` with the key of the session. -/
theorem Operative.exists_mac (hsmall : a.mac.length < UInt16.size) :
    ∃ (p : Prepared s.engineChannel.flavor .mac) (t : Device), a.AsksFor address p ∧
      (s.engineChannel.table.prepare s.engineChannel.flavor Command.mac.code address
        Wire.maxMessageSize (.mac a)).run s.transport = (.ok ⟨.mac, p⟩, t) ∧
      p.Presented (.mac a) t.machine.memory ∧
      (Engine.handle s.engineChannel.flavor .mac p.request).run t.machine =
        (Engine.macOf p.request entry hash a.payload).run t.machine := by
  have hget := h.get?_code hservice (c := .mac) rfl
  obtain ⟨p, t, hp, hprepare, hpresented, hengine⟩ := h.exists_presented hget
    (Registering.succeeds_prepareMac a address (length_payload_lt hne hroom) hsmall) hroom
  have hfound : (Engine.serviceKey p.request.service .mac p.request.key).run t.machine =
      (.ok entry, t.machine) := by
    rw [hp.service_eq, hp.key_eq]
    exact h.run_serviceKey rfl hservice hkey hengine
  -- The payload is the first reference, and is loaded whole.
  have hloaded := hpresented.load_eq (i := 0) rfl rfl
  dsimp only at hloaded
  rw [List.take_length] at hloaded
  exact ⟨p, t, hp, hprepare, hpresented,
    Engine.run_mac hfound hhmac (by rw [hp.algorithm_eq]; exact halgorithm) hloaded⟩

/-- **A MAC is generated to the size of its buffer**, whatever tags the key verifies. -/
theorem Operative.mac_generated (hgeneration : a.isGeneration = true)
    (hsize : a.mac.length ≤ hash.digestSize) :
    (mac handle a s).1 = (.ok 0, .mac
      { a with mac := (hash.hmac entry.material a.payload).take a.mac.length, status := 0 }) := by
  have hsmall : a.mac.length < UInt16.size :=
    Nat.lt_of_le_of_lt hsize (by cases hash <;> decide)
  obtain ⟨p, t, hp, hprepare, hpresented, hrun⟩ :=
    h.exists_mac hservice hkey hhmac halgorithm hne hroom hsmall
  have hmacSize := hp.toNat_macSize hsmall
  have hlength : ((hash.hmac entry.material a.payload).take a.mac.length).length = a.mac.length := by
    rw [List.length_take, HashAlgorithm.length_hmac]
    exact Nat.min_eq_left hsize
  have hflags := hp.flags_ne hgeneration
  -- The tag fills the client's buffer, so nothing of its old content is left.
  obtain ⟨after, hstored, hleaves⟩ :=
    hpresented.exists_store (i := 1) rfl rfl (bne_iff_ne.mpr hflags) (Nat.le_of_eq hlength)
  dsimp only at hstored hleaves
  rw [hlength, List.drop_length, List.append_nil] at hleaves
  have hserved := hrun.trans (Engine.run_macOf_generation hflags
    (hmacSize ▸ List.length_pos_iff.mpr hne) (hmacSize ▸ hsize) (hmacSize ▸ hstored))
  have hfetch (u : Device) (hu : u.machine = { t.machine with memory := after }) :
      (Channel.fetch p.output (.mac a) u).1 =
        .ok (.mac { a with mac := (hash.hmac entry.material a.payload).take a.mac.length }) :=
    Channel.fetch_of_leaves rfl hlength (by rw [hu]; exact hleaves)
  obtain ⟨transport, hcall, -⟩ := h.process_succeeded (h.get?_code hservice (c := .mac) rfl) (by decide)
    hprepare hserved hfetch fun response hdecode => by
      rw [Command.complete, hdecode]
      rfl
  rw [← call_eq_process hservice] at hcall
  rw [mac_of_call_ok hne hcall]

/-- **A MAC that is too long to be generated is refused, and so is a tag that is too short for the key.** -/
theorem Operative.mac_refused (hsmall : a.mac.length < UInt16.size)
    (hsize : if a.isGeneration then hash.digestSize < a.mac.length
      else a.mac.length < entry.minMacLength.toNat) :
    (mac handle a s).1 = (.error (.engine Reason.invalidParam.toError), .mac a) := by
  obtain ⟨p, t, hp, hprepare, -, hrun⟩ :=
    h.exists_mac hservice hkey hhmac halgorithm hne hroom hsmall
  have hmacSize := hp.toNat_macSize hsmall
  -- The two directions have their own bound on the length.
  have hrefused : (Engine.macOf p.request entry hash a.payload).run t.machine =
      (.error Reason.invalidParam.toError, t.machine) := by
    split at hsize
    case isTrue hgeneration =>
      exact Engine.run_macOf_oversized (hp.flags_ne hgeneration) (hmacSize ▸ hsize)
    case isFalse hverification =>
      exact Engine.run_macOf_short (hp.flags_eq_zero (eq_false_of_ne_true hverification))
        (hmacSize ▸ hsize)
  obtain ⟨transport, hcall, -⟩ :=
    h.process_failed (h.get?_code hservice (c := .mac) rfl) (by decide) hprepare (hrun.trans hrefused)
  rw [Reason.ofRating_toError, ← call_eq_process hservice] at hcall
  rw [mac_of_call_error hne hcall]

/-- **A tag is verified against the MAC**, if the key verifies tags of its length. -/
theorem Operative.mac_verified (hsmall : a.mac.length < UInt16.size)
    (hverification : a.isGeneration = false) (hsize : entry.minMacLength.toNat ≤ a.mac.length) :
    ∃ status, (mac handle a s).1 = (.ok status, .mac { a with status }) ∧
      (status = Engine.macVerified ↔ a.mac.length ≤ hash.digestSize ∧
        a.mac = (hash.hmac entry.material a.payload).take a.mac.length) := by
  obtain ⟨p, t, hp, hprepare, hpresented, hrun⟩ :=
    h.exists_mac hservice hkey hhmac halgorithm hne hroom hsmall
  have hmacSize := hp.toNat_macSize hsmall
  have hflags := hp.flags_eq_zero hverification
  have htag := hpresented.load_eq (i := 1) rfl rfl
  dsimp only at htag
  rw [List.take_length] at htag
  have hserved := hrun.trans (Engine.run_macOf_verification hflags (hmacSize ▸ hsize) htag hne)
  have hfetch (u : Device) (_ : u.machine = t.machine) :
      (Channel.fetch p.output (.mac a) u).1 = .ok (.mac a) := by
    rw [hp.output_eq hverification]
    rfl
  obtain ⟨transport, hcall, -⟩ := h.process_succeeded (h.get?_code hservice (c := .mac) rfl) (by decide)
    hprepare hserved hfetch fun response hdecode => by
      rw [Command.complete, hdecode]
      rfl
  rw [← call_eq_process hservice] at hcall
  refine ⟨_, by rw [mac_of_call_ok hne hcall], ?_⟩
  rw [← hash.acceptsTag_eq_true_iff hne]
  dsimp only
  split
  case isTrue haccepted => exact iff_of_true rfl haccepted
  case isFalse hrejected => exact iff_of_false (by decide) hrejected

end

/-- **The tags that are accepted are the truncations of the MAC**, as far as the key allows for their
length. The MAC that is generated is the truncation of the length of its buffer. -/
theorem mac_truncations {d : Device} {configuration : Configuration} {sets : List FamilySet}
    {tableId : UInt32} {start : Session Device} (hd : d.Reachable)
    (hunit : configuration.unit = d.machine.engine.settings.unit)
    (hstart : startWith d configuration (.enabling sets) tableId = .ok start)
    (hrun : Run Injecting start s) (hfaults : s.transport.faults = [])
    (hservice : s.handles.resolveKind handle (.service .mac) = .ok address)
    (hkey : s.key? a.key = some entry) (hhmac : entry.keyType.isHmac = true)
    (halgorithm : MacAlgorithm.ofCode? a.algorithm = some (.hmac hash)) (hne : a.mac ≠ [])
    (hroom : stagedSize a.buffers ≤ areaSize) :
    (a.isGeneration = true →
      ((∃ status, (mac handle a s).1.1 = .ok status) ↔ a.mac.length ≤ hash.digestSize) ∧
      (a.mac.length ≤ hash.digestSize → (mac handle a s).1 = (.ok 0, .mac
        { a with mac := (hash.hmac entry.material a.payload).take a.mac.length, status := 0 }))) ∧
    (a.isGeneration = false →
      ((mac handle a s).1.1 = .error (.engine Reason.invalidParam.toError) ↔
        a.mac.length < entry.minMacLength.toNat) ∧
      (entry.minMacLength.toNat ≤ a.mac.length →
        ((mac handle a s).1.1 = .ok Engine.macVerified ↔ a.mac.length ≤ hash.digestSize ∧
          a.mac = (hash.hmac entry.material a.payload).take a.mac.length) ∧
        (a.mac.length < UInt16.size → ∃ status, (mac handle a s).1.1 = .ok status)) ∧
      ∃ status, (mac handle a s).1.2 = .mac { a with status }) := by
  have hs := operative hd hunit hstart hrun hfaults
  have hdigest : hash.digestSize < UInt16.size := by cases hash <;> decide
  have hmin : entry.minMacLength.toNat < UInt16.size :=
    Nat.lt_trans entry.minMacLength.toNat_lt (by decide)
  -- The length field of the request has sixteen bits, so each direction ends with the tags that do not
  -- fit it: the client refuses those before the engine sees them.
  refine ⟨fun hgeneration => ?generation, fun hverification => ?verification⟩
  case generation =>
    have hgenerated := hs.mac_generated hservice hkey hhmac halgorithm hne hroom hgeneration
    refine ⟨⟨fun ⟨status, hsuccess⟩ => Nat.le_of_not_lt fun hsize => ?_,
      fun hsize => ⟨0, by rw [hgenerated hsize]⟩⟩, hgenerated⟩
    rcases Nat.lt_or_ge a.mac.length UInt16.size with hsmall | hlarge
    · rw [hs.mac_refused hservice hkey hhmac halgorithm hne hroom hsmall
        (by rw [if_pos hgeneration]; exact hsize)] at hsuccess
      cases hsuccess
    · rw [hs.mac_tooLarge hservice hne hroom hlarge] at hsuccess
      cases hsuccess
  case verification =>
    rcases Nat.lt_or_ge a.mac.length entry.minMacLength.toNat with hshort | hlong
    · have hrefused := hs.mac_refused hservice hkey hhmac halgorithm hne hroom
        (Nat.lt_trans hshort hmin) (by rw [hverification]; exact hshort)
      rw [hrefused]
      exact ⟨iff_of_true rfl hshort, fun h => absurd hshort (Nat.not_lt.mpr h), a.status, rfl⟩
    rcases Nat.lt_or_ge a.mac.length UInt16.size with hsmall | hlarge
    · obtain ⟨status, hresult, hverified⟩ := hs.mac_verified hservice hkey hhmac halgorithm hne hroom
        hsmall hverification hlong
      rw [hresult]
      refine ⟨iff_of_false (fun h => by cases h) (Nat.not_lt.mpr hlong), fun _ => ⟨?_, fun _ =>
        ⟨status, rfl⟩⟩, status, rfl⟩
      rw [← hverified]
      exact ⟨Except.ok.inj, congrArg Except.ok⟩
    · -- Such a tag does not fit its field, and is longer than any MAC.
      rw [hs.mac_tooLarge hservice hne hroom hlarge]
      have hoversized := Nat.not_le.mpr (Nat.lt_of_lt_of_le hdigest hlarge)
      refine ⟨iff_of_false (fun h => by cases h) (Nat.not_lt.mpr hlong), fun _ => ⟨?_, fun h =>
        absurd h (Nat.not_lt.mpr hlarge)⟩, a.status, rfl⟩
      exact iff_of_false (fun h => by cases h) fun h => hoversized h.1

/-- A key that verifies tags of eight bytes or more still generates four bytes of a MAC. -/
theorem mac_truncations_cut : ∃ (start s : Session Device) (entry : KeyEntry),
    startWith ({ machine := { engine := .start {} } } : Device) {} (.enabling [.full]) 1 = .ok start ∧
    s = start.keyed ⟨7, [], 2, KeyType.hmac256.code, 0, 0, 8⟩ .mac ∧ s.key? 7 = some entry ∧
    let code := HashAlgorithm.sha256.hmac entry.material [1, 2, 3]
    (mac ⟨1, 2, 0⟩ ⟨7, [1, 2, 3], Bytes.blank 4, 1, 6, 0⟩ s).1 =
      (.ok 0, .mac ⟨7, [1, 2, 3], code.take 4, 1, 6, 0⟩) ∧
    (mac ⟨1, 2, 0⟩ ⟨7, [1, 2, 3], code.take 4, 0, 6, 0⟩ s).1.1 =
      .error (.engine Reason.invalidParam.toError) ∧
    (mac ⟨1, 2, 0⟩ ⟨7, [1, 2, 3], code.take 16, 0, 6, 0⟩ s).1.1 = .ok Engine.macVerified := by
  refine ⟨fresh, fresh.keyed ⟨7, [], 2, KeyType.hmac256.code, 0, 0, 8⟩ .mac, ?_⟩
  have hrun := run_keyed fresh ⟨7, [], 2, KeyType.hmac256.code, 0, 0, 8⟩ .mac
  -- The opened session stays a variable: its state is evaluated once, for the facts of `hready` alone.
  generalize hs : keyed _ _ _ = s at hrun ⊢
  have hready : (s.handles.resolveKind ⟨1, 2, 0⟩ (.service .mac)).toOption = some 259 ∧
      (s.key? 7).map (fun entry => (entry.keyType, entry.minMacLength)) = some (.hmac256, 8) ∧
      s.transport.faults = [] := by
    rw [← hs]
    decide +kernel
  obtain ⟨hservice, hkey, hfaults⟩ := hready
  obtain ⟨entry, hkey, hentry⟩ := Option.map_eq_some_iff.mp hkey
  have htype : entry.keyType = .hmac256 := congrArg Prod.fst hentry
  have hmin : entry.minMacLength = 8 := congrArg Prod.snd hentry
  have hcode : MacAlgorithm.ofCode? 6 = some (.hmac .sha256) := rfl
  -- The three runs differ in the tag and in the flags only.
  have hmac (tag : Bytes) (flags : UInt8) (hne : tag ≠ [])
      (hroom : stagedSize [[1, 2, 3], tag] ≤ areaSize) :=
    mac_truncations (a := ⟨7, [1, 2, 3], tag, flags, 6, 0⟩) Device.reachable_new rfl startWith_fresh
      hrun hfaults (eq_ok_of_toOption hservice) hkey (by rw [htype]; rfl) hcode hne hroom
  refine ⟨entry, startWith_fresh, rfl, hkey, ?_⟩
  intro code
  have hlength (n : Nat) (hn : n ≤ 32) : (code.take n).length = n := by
    rw [List.length_take, HashAlgorithm.length_hmac]
    exact Nat.min_eq_left hn
  have hroom (tag : Bytes) (htag : tag.length ≤ 16) : stagedSize [[1, 2, 3], tag] ≤ areaSize := by
    have harea : areaSize = 65536 := rfl
    simp only [stagedSize, wholeWords, List.foldr_cons, List.foldr_nil, List.length_cons, List.length_nil]
    omega
  have hverification : ((0 : UInt8) &&& 1 != 0) = false := by decide
  have hfour := hlength 4 (by decide)
  have hsixteen := hlength 16 (by decide)
  refine ⟨?_, ?_, ?_⟩
  · -- Generating four bytes.
    exact ((hmac (Bytes.blank 4) 1 (by decide) (hroom _ (by decide))).1 rfl).2 (by decide)
  · -- Four bytes are below the eight that the key asks for.
    refine ((hmac (code.take 4) 0 ?_ (hroom _ (by omega))).2 hverification).1.mpr ?_
    · exact List.ne_nil_of_length_pos (by omega)
    · rw [hmin]
      dsimp only
      rw [hfour]
      decide
  · -- Sixteen bytes of the MAC are accepted.
    refine (((hmac (code.take 16) 0 ?_ (hroom _ (by omega))).2 hverification).2.1 ?_).1.mpr ⟨?_, ?_⟩
    · exact List.ne_nil_of_length_pos (by omega)
    · rw [hmin]
      dsimp only
      rw [hsixteen]
      decide
    · dsimp only
      rw [hsixteen]
      decide
    · dsimp only
      rw [hsixteen]

end Session

end SecureEngine
