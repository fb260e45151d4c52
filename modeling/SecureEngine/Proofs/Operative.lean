import SecureEngine.Proofs.Agreement
import SecureEngine.Proofs.Isolation
import SecureEngine.Proofs.KeyContents
import SecureEngine.Proofs.Reachability
import SecureEngine.Proofs.Room
import SecureEngine.Proofs.Upkeep

/-! # Sessions in working order

What an operation of a session can rely on, as long as no fault is queued.

* **`Device.Idle`** — a device between two round trips has nothing registered, and all of its areas are
  free: `Idle.offers`. Round trips leave it so.
* **`Device.Reachable.wellKept`** — its key stores are well kept.
* **`Session.Standing`**, **`Session.Operative`** — a session in agreement with such a device, without
  faults; **`Session.operative`** — every run leads to one, once no fault is left.
* **`Session.fresh`** — the first session of a new device.
* **`Session.key?`** — the keys of a session; the engine finds them for its services.
* **`Session.Operative.exists_presented`**, **`process_succeeded`**, **`process_failed`** — a message to the
  engine: its buffers arrive where there is room for them, and the client learns how the engine served it.
* **`Session.ask_eq_process`** — the messages of questions to an open session. -/

namespace SecureEngine

/-! ## (1) Memory between round trips -/

/-- **The room in an area** for a client with a window of `size` bytes. -/
def Region.room (size : Nat) : Region → Nat
  | secure => size
  | dma => areaSize

namespace SharedMemory

variable {m after : SharedMemory} {size : Nat}

/-- **A window of `size` bytes** of the secure RAM has been granted. -/
def Granted (m : SharedMemory) (size : Nat) : Prop :=
  ∃ first last : Address, m.window = some (first, last) ∧ first.toNat + size = last.toNat ∧
    Region.secure.base.toNat ≤ first.toNat ∧ last.toNat ≤ Region.secure.base.toNat + areaSize

/-- Setting the window with `setWindow` grants as many bytes as were asked for. -/
theorem granted_of_setWindow {offset size : UInt32} (h : m.setWindow offset size = some after) :
    after.Granted size.toNat := by
  obtain ⟨⟨-, hinside⟩, first, last, hfirst, hlast, rfl⟩ := setWindow_eq_some_iff.mp h
  exact ⟨first, last, rfl, hlast.symm, by omega, by omega⟩

/-- A `reset` has nothing left to do after a reset. -/
theorem reset_reset (m : SharedMemory) : m.reset.reset = m.reset := by
  unfold reset
  cases m.window <;> rfl

/-- **After a `reset`, all of an area is free**: the whole DMA area, and the window of the secure RAM. -/
theorem Granted.offers (h : m.Granted size) (hreset : m.reset = m) (region : Region) :
    m.Offers region (region.room size) := by
  obtain ⟨first, last, hwindow, hsize, hbase, hend⟩ := h
  -- The cursor stands at the front, since the memory is as a reset leaves it.
  cases region with
  | secure =>
    have hcursor : m.cursor .secure = first := by
      rw [← hreset, cursor, reset, hwindow]
    refine ⟨hcursor ▸ hbase, last.toNat, ?_, ?_, hend⟩
    · rw [limit?, hwindow]
      rfl
    · rw [hcursor, Region.room]
      omega
  | dma =>
    have hcursor : m.cursor .dma = Region.dma.base := by
      rw [← hreset]
      rfl
    exact ⟨hcursor ▸ Nat.le_refl _, _, rfl, hcursor ▸ Nat.le_refl _, Nat.le_refl _⟩

end SharedMemory

/-! ## (2) Devices between round trips -/

/-- No access of a handler moves the window, by induction on its run through `Performs`. -/
theorem Handling.Performs.window_eq {α : Type} {x : Handling α} {m after : Machine}
    {accesses : List Access} {result : Except EngineError α}
    (h : Performs x m accesses result after) : after.memory.window = m.memory.window := by
  -- By induction on the accesses: a store writes an area, and no access moves the window.
  induction h with
  | blind => rfl
  | load address n m => rw [m.memory_noting]
  | store address data m =>
    rw [run_store]
    cases hstore : m.memory.store address data with
    | error e =>
      dsimp only
      rw [m.memory_noting]
    | ok memory =>
      rcases SharedMemory.exists_withArea_of_store hstore with rfl | ⟨area, region, rfl⟩
      · rfl
      · cases region <;> rfl
  | bind_error _ ih => exact ih
  | bind_ok _ _ ihx ihf => exact ihf.trans ihx

/-- Executing a request does not move the window: `Engine.execute` only loads and stores. -/
theorem Engine.window_execute (request : Bytes) (machine : Machine) :
    ((execute request).run machine).2.memory.window = machine.memory.window := by
  rw [machine_execute]
  cases haccept : machine.engine.accept request with
  | error e => rw [run_answer_refused haccept]
  | ok c =>
    cases hdecode : c.decodeRequest machine.engine.settings.flavor request with
    | error e => rw [run_answer_unread haccept hdecode]
    | ok m =>
      -- A request that is read touches the memory by its accesses only.
      obtain ⟨loads, stores, result, after, hperforms, -⟩ := conducts_handle c m machine
      rw [run_answer haccept hdecode, hperforms.run_eq]
      cases result <;> exact hperforms.window_eq

namespace Device

variable {d t : Device} {size : Nat}

/-- Executing a request does not move the window, nor does anything else that an exchange does. -/
theorem window_exchange (d : Device) (request : Bytes) (size : Nat) :
    (d.exchange request size).2.machine.memory.window = d.machine.memory.window ∧
      (d.exchange request size).2.closed = d.closed := by
  have hx := exchanged d request size
  generalize d.exchange request size = x at hx ⊢
  obtain ⟨r, t⟩ := x
  cases hx with
  | closed | failed | rejected => exact ⟨rfl, rfl⟩
  | executed hrun =>
    have hwindow := Engine.window_execute request d.machine
    rw [hrun] at hwindow
    exact ⟨hwindow, rfl⟩

/-- Staging a buffer by `Transport.dataBuffer` does not move the window. -/
theorem window_dataBuffer (d : Device) (buffer : Bytes) (use : BufferUse) :
    (Transport.dataBuffer d buffer use).2.machine.memory.window = d.machine.memory.window := by
  change (d.outcome (d.machine.memory.register buffer use)).2.machine.memory.window = _
  cases hregister : d.machine.memory.register buffer use with
  | none => rfl
  | some registered =>
    obtain ⟨a, after⟩ := registered
    obtain ⟨-, i, -, rfl⟩ := SharedMemory.register_eq_some_iff.mp hregister
    exact SharedMemory.window_staged

/-- **A device between two round trips**: it is open, nothing is registered, and a window of `size` bytes
is granted. -/
structure Idle (size : Nat) (d : Device) : Prop where
  closed_eq : d.closed = false
  memory_reset : d.machine.memory.reset = d.machine.memory
  granted : d.machine.memory.Granted size

/-- Between two round trips nothing is registered, for the memory of an `Idle` device is as
`SharedMemory.reset` leaves it. -/
theorem Idle.registrations_eq (h : d.Idle size) : d.machine.memory.registrations = [] := by
  rw [← h.memory_reset]
  rfl

/-- Between two round trips all of an area is free: an `Idle` device `Offers` as much as `Region.room`
has. -/
theorem Idle.offers (h : d.Idle size) (region : Region) :
    d.machine.memory.Offers region (region.room size) :=
  h.granted.offers h.memory_reset region

/-- A round trip of `process` neither closes a device nor moves its window, and leaves nothing
registered. -/
theorem idle_process (channel : Channel) (code : UInt8) (handle : UInt32) (arguments : Arguments)
    (hclosed : d.closed = false) (hgranted : d.machine.memory.Granted size) :
    Idle size ((channel.process code handle arguments).run d).2 := by
  -- A call opens and closes nothing: it stages, exchanges, reads back and resets.
  have hkeeps : channel.Keeps fun t : Device =>
      t.machine.memory.window = d.machine.memory.window ∧ t.closed = d.closed := by
    refine channel.keeps_of_calls (fun t buffer use h => ?_) (fun t request size h => ?_)
      (fun _ _ _ h => h) fun _ h => h
    · have hcore := core_dataBuffer t buffer use
      exact ⟨(window_dataBuffer t buffer use).trans h.1, (congrArg (·.2.2) hcore).trans h.2⟩
    · obtain ⟨hwindow, hclosed⟩ := window_exchange t request size
      exact ⟨hwindow.trans h.1, hclosed.trans h.2⟩
  obtain ⟨hwindow, hopen⟩ := hkeeps code handle arguments d ⟨rfl, rfl⟩
  refine ⟨hopen.trans hclosed, SharedMemory.reset_reset _, ?_⟩
  obtain ⟨first, last, hgrant, hbounds⟩ := hgranted
  exact ⟨first, last, hwindow.trans hgrant, hbounds⟩

/-! ## (3) Keys -/

/-- Exchanging a request leaves every key store `WellKept`, whatever fault strikes. -/
theorem wellKept_exchange {name : UInt32}
    (h : WellKept (Engine.keysOf d.machine.engine.keyStores name)) (request : Bytes) (size : Nat) :
    WellKept (Engine.keysOf (d.exchange request size).2.machine.engine.keyStores name) := by
  have hx := exchanged d request size
  generalize d.exchange request size = x at hx ⊢
  obtain ⟨r, t⟩ := x
  cases hx with
  | closed | failed | rejected => exact h
  | executed hrun =>
    have hkept := (Engine.keyChange request d.machine name).wellKept h
    rw [hrun] at hkept
    exact hkept

/-- **The key stores of a `Reachable` device are `WellKept`**, by induction on what has led to it. -/
theorem Reachable.wellKept (h : d.Reachable) (name : UInt32) :
    WellKept (Engine.keysOf d.machine.engine.keyStores name) := by
  induction h with
  | start h =>
    unfold Device.start at h
    dsimp only at h
    split at h
    · cases h
    split at h
    · cases h
    · cases h
      exact wellKept_empty
  | inject _ _ ih | readBack _ _ _ ih | reset _ ih | close _ ih => exact ih
  | exchange request size _ ih => exact wellKept_exchange ih request size
  | buffer buffer use _ ih =>
    rw [engine_of_core_eq (core_dataBuffer _ buffer use)]
    exact ih
  | window offset size _ ih =>
    rw [engine_of_core_eq (core_configureWindow _ offset size)]
    exact ih

/-- A new device is `Reachable`. -/
theorem reachable_new : Reachable { machine := { engine := .start {} } } :=
  .start (show start {} = .ok _ from rfl)

/-- Round trips lead from `Reachable` devices to reachable ones, whatever is in the message. -/
theorem keeps_reachable (channel : Channel) : channel.Keeps Reachable :=
  channel.keeps_of_calls (fun _ buffer use => .buffer buffer use)
    (fun _ request size => .exchange request size) (fun _ address out => .readBack address out)
    fun _ => .reset

end Device

/-! ## (4) Sessions -/

namespace Session

open Device

variable {d : Device} {configuration : Configuration} {s t : Session Device}

/-- A window that a device has accepted has been `Granted`. -/
theorem granted_of_configureWindow {offset size : UInt32} {u : Device}
    (h : Transport.configureWindow d offset size = (.ok (), u)) :
    u.machine.memory.Granted size.toNat := by
  change d.outcome ((d.machine.memory.setWindow offset size).map fun memory => ((), memory)) = _ at h
  cases hset : d.machine.memory.setWindow offset size with
  | none =>
    rw [hset] at h
    cases h
  | some memory =>
    rw [hset] at h
    cases h
    exact SharedMemory.granted_of_setWindow hset

/-- **Furnishing a session with `furnish` leaves its device between two round trips**, with the window
that was granted. -/
theorem idle_furnish (hwf : s.handles.WellFormed) (h : furnish configuration s = (.ok (), t)) :
    t.transport.Idle t.window.size.toNat := by
  unfold furnish at h
  rw [process_eq] at h
  rcases hx : (s.channel.process Command.sharedBuffer.code s.identifier
    (.sharedBuffer ⟨0, 0⟩)).run s.transport with ⟨⟨_ | _, a⟩, u⟩
  all_goals rw [hx] at h; dsimp only at h
  · cases h
  split at h
  · cases h
  rename_i window _
  rcases hc : Transport.configureWindow u window.offset.toUInt32 window.size.toUInt32 with ⟨_ | _, v⟩
  all_goals rw [hc] at h; dsimp only at h
  · cases h
  have hgranted := granted_of_configureWindow hc
  rw [UInt16.toNat_toUInt32] at hgranted
  -- The key store is opened last.
  have ha := acquired_acquire .keyStore none s.identifier (keyStoreOpening configuration)
    (s := { s with transport := v, window }) hwf
  rcases hr : (acquire .keyStore none s.identifier (keyStoreOpening configuration)).run
    { s with transport := v, window } with ⟨_ | handle, w⟩
  all_goals rw [hr] at h ha; dsimp only at h ha
  · cases h
  cases h
  cases ha with
  | opened hx' => exact idle_process _ _ _ _ (closed_eq_false_of_ok hx') hgranted

/-- **A session that `startWith` has started leaves its device between two round trips.** -/
theorem idle_startWith {table : DispatchTable} {tableId : UInt32} (hl : table.Lawful)
    (hunit : configuration.unit = d.machine.engine.settings.unit)
    (h : startWith d configuration table tableId = .ok s) :
    s.transport.Idle s.window.size.toNat := by
  have hwf := (sound_initial d configuration tableId hl).wellFormed
  rw [startWith_eq_ok_iff] at h
  -- A start that succeeds has configured a window, which is what the memory is idle with.
  rcases run_establish_cases (s := initial d configuration table tableId) hl hunit configuration with
    ⟨e, transport, hrun, -⟩ | ⟨identifier, transport, -, -, -, hrun⟩
  · rw [hrun] at h
    cases h
  · refine idle_furnish ?_ (hrun.symm.trans h)
    exact hwf

/-- **A session in agreement with a device** that is between two round trips: `Sound`, `Agrees`, and a
device that is `Reachable` and `Idle`. -/
structure Standing (s : Session Device) : Prop where
  sound : s.Sound
  agrees : s.Agrees
  reachable : s.transport.Reachable
  idle : s.transport.Idle s.window.size.toNat

/-- A session that has started over a `Reachable` device is in agreement with it, if the two have the same
header values. -/
theorem standing_startWith {table : DispatchTable} {tableId : UInt32} (hl : table.Lawful)
    (hd : d.Reachable) (hunit : configuration.unit = d.machine.engine.settings.unit)
    (h : startWith d configuration table tableId = .ok s) : s.Standing := by
  have hup := establish_keeps (sound_initial d configuration tableId hl).wellFormed
    (keeps_reachable _) (fun _ offset size => .window offset size) configuration hd
  rw [startWith_eq_ok_iff.mp h] at hup
  exact ⟨(sound_startWith hl h).1, agrees_startWith hl hunit h, hup.2, idle_startWith hl hunit h⟩

/-- **The first session of a new device**, with every family: what `establish` leaves of it. -/
def fresh : Session Device :=
  ((establish {}).run (initial { machine := { engine := .start {} } } {} (.enabling [.full]) 1)).2

/-- A session starts over a new device, and it is `fresh`. -/
theorem startWith_fresh :
    startWith ({ machine := { engine := .start {} } } : Device) {} (.enabling [.full]) 1 = .ok fresh := by
  obtain ⟨start, hstart⟩ := exists_startWith
  rw [hstart]
  exact congrArg Except.ok (congrArg Prod.snd (startWith_eq_ok_iff.mp hstart)).symm

/-- The first session of a new device is in agreement with it, so `Standing` holds of `fresh`. -/
theorem standing_fresh : fresh.Standing :=
  standing_startWith (DispatchTable.lawful_enabling _) Device.reachable_new rfl startWith_fresh

/-- **Runs lead to such sessions**, whatever faults are injected: `Standing` holds at the end of a `Run`
if it held at its start. -/
theorem Standing.run (h : s.Standing) (hrun : Run Injecting s t) : t.Standing := by
  refine ⟨hrun.sound h.sound, hrun.agrees h.sound h.agrees, ?_, ?_⟩
  · refine (hrun.keeps h.sound (keeps_reachable _) ?_ h.reachable).2
    rintro t _ ⟨fault, rfl⟩ ht
    exact .inject fault ht
  · rw [hrun.window_eq h.sound]
    refine (hrun.keeps h.sound (fun code handle arguments t ht =>
      idle_process _ code handle arguments ht.closed_eq ht.granted) ?_ h.idle).2
    rintro t _ ⟨fault, rfl⟩ ht
    exact ⟨ht.closed_eq, ht.memory_reset, ht.granted⟩

/-- **A session in working order**: no fault is left in the queue of its device. -/
structure Operative (s : Session Device) : Prop extends Standing s where
  faults_eq : s.transport.faults = []

/-- A device without faults serves its session, if they are of the same firmware. -/
theorem Standing.serves (h : s.Standing)
    (hflavor : s.channel.flavor = s.transport.machine.engine.settings.flavor)
    (hfaults : s.transport.faults = []) : s.transport.Serves s.channel where
  unit_eq := h.agrees.unit_eq
  flavor_eq := hflavor
  closed_eq := h.idle.closed_eq
  faults_eq := hfaults

/-- **Every run leads to a session in working order**, once no fault is left. -/
theorem operative {sets : List FamilySet} {tableId : UInt32} {start : Session Device}
    (hd : d.Reachable) (hunit : configuration.unit = d.machine.engine.settings.unit)
    (hstart : startWith d configuration (.enabling sets) tableId = .ok start)
    (hrun : Run Injecting start s) (hfaults : s.transport.faults = []) : s.Operative where
  toStanding := (standing_startWith (DispatchTable.lawful_enabling sets) hd hunit hstart).run hrun
  faults_eq := hfaults

/-- Instructions leave a session in working order: no `Instruction` injects a fault. -/
theorem Operative.perform (h : s.Operative) (i : Instruction) : (i.perform s).2.Operative := by
  obtain ⟨outcomes, hmoves, -⟩ := h.sound.perform i
  have hfollows := (hmoves.agrees h.agrees h.sound).2.1
  exact ⟨h.toStanding.run (.perform i .refl), List.sublist_nil.mp (h.faults_eq ▸ hfollows.faults)⟩

/-! ## (5) Keys of a session -/

/-- **A key of a session**: the one with a given identifier in the key store that the engine has open
behind the handle of the session. -/
def key? (s : Session Device) (identifier : UInt32) : Option KeyEntry := do
  let keyStore ← s.keyStore
  let address ← (s.handles.resolveKind keyStore .keyStore).toOption
  let name ← (s.transport.machine.engine.keyStoreAt address).toOption
  (Engine.keysOf s.transport.machine.engine.keyStores name).find? identifier

variable {handle : ServiceHandle} {kind : Service} {address identifier : UInt32} {entry : KeyEntry}

/-- **The services on the key store of a session** are on the one behind its handle, at the engine,
too. -/
theorem Standing.serviceParent_eq (h : s.Standing) (hscope : kind.scope = .keyStore)
    (hservice : s.handles.resolveKind handle (.service kind) = .ok address) {held : ServiceHandle}
    {root : UInt32} (hheld : s.keyStore = some held)
    (hroot : s.handles.resolveKind held .keyStore = .ok root) :
    s.transport.machine.engine.serviceParent address kind = .ok root := by
  obtain ⟨context, stamp, hopened, hkind, rfl⟩ := HandleTable.resolveKind_eq_ok_iff.mp hservice
  obtain ⟨context', stamp', hopened', -, rfl⟩ := HandleTable.resolveKind_eq_ok_iff.mp hroot
  have ho : s.Holds ⟨handle, context, stamp⟩ := hopened
  have hk : s.Holds ⟨held, context', stamp'⟩ := hopened'
  obtain ⟨parent, object, hreaches, hobject, hdescribes⟩ := h.agrees.stands _ ho
  have hon := h.sound.hangsOn _ ho
  simp only [HangsOn, hkind, hscope] at hon hdescribes
  obtain ⟨k, hk', hks, hparent⟩ := hon
  have hsame := (h.sound.keyStore_eq k hk' hks).symm.trans hheld
  obtain rfl := hk'.eq_of_handle_eq hk (Option.some.inj hsame)
  simp only [hparent] at hreaches
  obtain ⟨k', hk'', hhandle, rfl⟩ := hreaches
  obtain rfl := hk''.eq_of_handle_eq hk hhandle
  have hfound : s.transport.machine.engine.objects.find? context.engineHandle =
      some (.service kind context'.engineHandle) := hobject.trans (congrArg some hdescribes)
  simp only [Engine.serviceParent, hfound, if_pos]

/-- **The engine finds the keys of a session**, for every service on its key store. -/
theorem Standing.exists_serviceStore (h : s.Standing) (hscope : kind.scope = .keyStore)
    (hservice : s.handles.resolveKind handle (.service kind) = .ok address)
    (hkey : s.key? identifier = some entry) :
    ∃ name store, s.transport.machine.engine.serviceStore address kind = .ok (name, store) ∧
      store.get identifier = .ok entry := by
  obtain ⟨held, hheld, hkey⟩ := Option.bind_eq_some_iff.mp hkey
  obtain ⟨root, hroot, hkey⟩ := Option.bind_eq_some_iff.mp hkey
  obtain ⟨name, hname, hfound⟩ := Option.bind_eq_some_iff.mp hkey
  have hparent := h.serviceParent_eq hscope hservice hheld (eq_ok_of_toOption hroot)
  unfold Engine.keysOf at hfound
  cases hstore : s.transport.machine.engine.keyStores.find? name with
  | none =>
    rw [hstore] at hfound
    cases hfound
  | some store =>
    rw [hstore] at hfound
    refine ⟨name, store, ?_, KeyStore.get_eq_ok_iff.mpr hfound⟩
    refine bind_eq_ok_iff.mpr ⟨root, hparent, bind_eq_ok_iff.mpr ⟨name, eq_ok_of_toOption hname, ?_⟩⟩
    rw [hstore]
    rfl

/-- Its handlers look the key up with `Engine.serviceKey`, and go on with the machine as it was. -/
theorem Standing.run_serviceKey (h : s.Standing) (hscope : kind.scope = .keyStore)
    (hservice : s.handles.resolveKind handle (.service kind) = .ok address)
    (hkey : s.key? identifier = some entry) {machine : Machine}
    (hengine : machine.engine = s.transport.machine.engine) :
    (Engine.serviceKey address kind identifier).run machine = (.ok entry, machine) := by
  obtain ⟨name, store, hstore, hentry⟩ := h.exists_serviceStore hscope hservice hkey
  rw [← hengine] at hstore
  rw [Engine.serviceKey, run_bind_ok (Handling.run_engine machine),
    run_bind_ok (Handling.run_lift_ok hstore machine)]
  exact Handling.run_lift_ok hentry machine

/-- The material of a key has the size of its type, since the key stores are well kept. -/
theorem Standing.length_material (h : s.Standing) (hkey : s.key? identifier = some entry) :
    entry.material.length = entry.keyType.size := by
  obtain ⟨held, -, hkey⟩ := Option.bind_eq_some_iff.mp hkey
  obtain ⟨root, -, hkey⟩ := Option.bind_eq_some_iff.mp hkey
  obtain ⟨name, -, hfound⟩ := Option.bind_eq_some_iff.mp hkey
  exact (h.reachable.wellKept name).length_material identifier entry hfound

/-- What a session has keys in is open at the engine and known to the session, so a round trip that
leaves the engine alone leaves the keys. -/
theorem key?_congr {transport : Device}
    (hengine : transport.machine.engine = s.transport.machine.engine) :
    key? { s with transport } = s.key? := by
  funext identifier
  simp only [key?, hengine]

/-- **A session that has generated a key** and opened a service for it. Key management has the handle that a
session with handle table 1 gives to the first service it opens. -/
def keyed (s : Session Device) (a : KeyGeneration) (kind : Service) : Session Device :=
  let managing := ((Instruction.openService .keyManagement).perform s).2
  let generated := ((Instruction.generateKeyExt ⟨1, 1, 0⟩ a).perform managing).2
  ((Instruction.openService kind).perform generated).2

/-- `keyed` is a run of three instructions. -/
theorem run_keyed (s : Session Device) (a : KeyGeneration) (kind : Service) :
    Run Injecting s (s.keyed a kind) :=
  .perform _ (.perform _ (.perform _ .refl))

/-! ## (6) Messages to the engine -/

/-- **The room that a session has in an area** for the buffers of a request. -/
def room (s : Session Device) (region : Region) : Nat := region.room s.window.size.toNat

/-- The channel of a session, as a client of the same firmware as the engine would have it. -/
def engineChannel (s : Session Device) : Channel :=
  s.channel.withFlavor s.transport.machine.engine.settings.flavor

/-- The device of a session in working order serves its session, as a client of the same firmware. -/
theorem Operative.serves (h : s.Operative) : s.transport.Serves s.engineChannel where
  unit_eq := h.agrees.unit_eq
  flavor_eq := rfl
  closed_eq := h.idle.closed_eq
  faults_eq := h.faults_eq

variable {c : Command} {arguments : Arguments}

/-- **A message is a round trip of a client with the firmware of the engine**, unless it signs. -/
theorem process_engineChannel (hget : s.channel.table.get? c.code = some c) (hc : c ≠ .sign)
    (address : UInt32) (arguments : Arguments) :
    process c address arguments s =
      (((s.engineChannel.process c.code address arguments).run s.transport).1,
        { s with
          transport := ((s.engineChannel.process c.code address arguments).run s.transport).2 }) := by
  rw [engineChannel, Channel.process_flavor hget hc, ← process_eq]

/-- **The request of a message is prepared**, where there is room for its buffers, and they are
`Presented` to the engine. -/
theorem Operative.exists_presented (h : s.Operative) (hget : s.channel.table.get? c.code = some c)
    {region : Region} {buffers : List Bytes} {Q : Prepared s.engineChannel.flavor c → Prop}
    (hprepare : Registering.Succeeds region buffers Q
      (c.prepare s.engineChannel.flavor address arguments))
    (hroom : stagedSize buffers ≤ s.room region) :
    ∃ p t, Q p ∧ (s.engineChannel.table.prepare s.engineChannel.flavor c.code address
        Wire.maxMessageSize arguments).run s.transport = (.ok ⟨c, p⟩, t) ∧
      p.Presented arguments t.machine.memory ∧
      t.machine.engine = s.transport.machine.engine := by
  -- The idle memory has room for the buffers, so preparing succeeds.
  obtain ⟨p, t, hrun, hp⟩ := hprepare s.transport ((h.idle.offers region).mono hroom)
  have hprepared : (s.engineChannel.table.prepare s.engineChannel.flavor c.code address
      Wire.maxMessageSize arguments).run s.transport = (.ok ⟨c, p⟩, t) := by
    rw [DispatchTable.run_prepare (show s.engineChannel.table.get? c.code = some c from hget), hrun]
  obtain ⟨hpresented, hengine⟩ := presented_of_prepare h.idle.registrations_eq hprepared
  exact ⟨p, t, hp, hprepared, hpresented, hengine⟩

section

variable {p : Prepared s.engineChannel.flavor c} {u : Device} {after : Machine}

/-- **A message that the engine serves** ends with the arguments completed from the response, after the
output has been fetched. -/
theorem Operative.process_succeeded (h : s.Operative) (hget : s.channel.table.get? c.code = some c)
    (hc : c ≠ .sign) {content : c.Response s.engineChannel.flavor} {fetched completed : Arguments}
    (hprepare : (s.engineChannel.table.prepare s.engineChannel.flavor c.code address
      Wire.maxMessageSize arguments).run s.transport = (.ok ⟨c, p⟩, u))
    (hrun : (Engine.handle s.engineChannel.flavor c p.request).run u.machine = (.ok content, after))
    (hfetch : ∀ v : Device, v.machine = after →
      (Channel.fetch p.output arguments v).1 = .ok fetched)
    (hcomplete : ∀ response, c.decodeResponse s.engineChannel.flavor response = .ok content →
      c.complete s.engineChannel.flavor response fetched = .ok completed) :
    ∃ transport : Device, process c address arguments s = ((.ok (), completed), { s with transport }) ∧
      transport.machine.engine = after.engine := by
  have hl : s.engineChannel.table.Lawful := h.sound.lawful
  obtain ⟨⟨response, hdecode, houtcome⟩, hleft⟩ :=
    h.serves.process_succeeded hl hprepare hrun hfetch
  rw [Channel.conclude_eq (show s.engineChannel.table.get? c.code = some c from hget),
    hcomplete response hdecode] at houtcome
  exact ⟨_, by rw [process_engineChannel hget hc, houtcome], hleft⟩

/-- **A message that the engine refuses** ends with the reason, and the arguments stay. -/
theorem Operative.process_failed (h : s.Operative) (hget : s.channel.table.get? c.code = some c)
    (hc : c ≠ .sign) {e : EngineError}
    (hprepare : (s.engineChannel.table.prepare s.engineChannel.flavor c.code address
      Wire.maxMessageSize arguments).run s.transport = (.ok ⟨c, p⟩, u))
    (hrun : (Engine.handle s.engineChannel.flavor c p.request).run u.machine = (.error e, after)) :
    ∃ transport : Device, process c address arguments s =
        ((.error (.engine (EngineError.ofRating e.code.toUInt8)), arguments), { s with transport }) ∧
      transport.machine.engine = after.engine := by
  have hl : s.engineChannel.table.Lawful := h.sound.lawful
  obtain ⟨houtcome, hleft⟩ := h.serves.process_failed hl hprepare hrun
  exact ⟨_, by rw [process_engineChannel hget hc, houtcome], hleft⟩

/-- **A message whose request is not prepared** ends with the reason, and the arguments stay. -/
theorem process_unprepared (hget : s.channel.table.get? c.code = some c) (hc : c ≠ .sign)
    {e : ClientError} (hprepare : (c.prepare s.engineChannel.flavor address arguments).run s.transport =
      (.error e, u)) :
    ∃ transport : Device,
      process c address arguments s = ((.error e, arguments), { s with transport }) := by
  have hrun := Channel.run_process s.engineChannel c.code address arguments s.transport
  rw [DispatchTable.run_prepare (show s.engineChannel.table.get? c.code = some c from hget),
    hprepare] at hrun
  exact ⟨_, by rw [process_engineChannel hget hc, hrun]⟩

end

/-! ## (7) Services and questions -/

/-- A service that is open can be asked for what its family has: the table has had to have the command
that opened it. -/
theorem Standing.get?_code (h : s.Standing)
    (hservice : s.handles.resolveKind handle (.service kind) = .ok address)
    (hfamily : (HandleKind.service kind).closing.family = c.family) :
    s.channel.table.get? c.code = some c := by
  obtain ⟨context, stamp, hopened, hkind, -⟩ := HandleTable.resolveKind_eq_ok_iff.mp hservice
  have hclosable := h.sound.closable ⟨handle, context, stamp⟩ hopened
  dsimp only at hclosable
  rw [hkind] at hclosable
  exact h.sound.lawful.get?_code_of_family hfamily hclosable

/-- What an open session is asked by `Session.ask` is a message to it: `process` with its identifier. -/
theorem ask_eq_process (hopen : s.identifier ≠ 0) (c : Command) (arguments : Arguments) :
    ask c arguments s = process c s.identifier arguments s := by
  unfold ask
  rw [address, if_neg hopen]

/-- No area has more room than its size, whatever window was granted: `Session.room` is at most
`areaSize`. -/
theorem room_le (s : Session Device) (region : Region) : s.room region ≤ areaSize := by
  cases region with
  | secure => exact Nat.le_of_lt s.window.size.toNat_lt
  | dma => exact Nat.le_refl _

end Session

end SecureEngine
