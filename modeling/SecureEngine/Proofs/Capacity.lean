import SecureEngine.Proofs.HandleLedger
import SecureEngine.Proofs.Teardown

/-! # The capacity of a session

* **`HandleTable.Turn`** — what a call does with the handle table: a slot that it reserves is activated
  or given back before it returns.
* **`HandleTable.add_eq_error_iff`** — reserving fails just if as many slots are in use as there may be.
* **`HandleTable.Settled`** — no slot is reserved; **`HandleTable.Settled.add_eq_error_iff`** — then
  reserving fails just if as many services are open as there can be.
* **`Session.turns_perform`** — every instruction takes turns.
* **`Session.conserves_reachable`** — so no slot is ever lost. -/

namespace SecureEngine

namespace HandleTable

variable {table reserved after : HandleTable} {handle : ServiceHandle} {kind : HandleKind}
  {parent : Option ServiceHandle} {pending : PendingService}

/-! ## (1) Turns of a table -/

/-- **A turn of a table**: a service opens, fails to open, or is forgotten. -/
inductive Turn (table : HandleTable) : HandleTable → Prop
  | opened {kind : HandleKind} {parent : Option ServiceHandle} {pending : PendingService}
      {reserved : HandleTable} (hadd : table.add kind parent = .ok (pending, reserved))
      (engineHandle : UInt32) : Turn table (reserved.activate pending engineHandle).2
  | refused {kind : HandleKind} {parent : Option ServiceHandle} {pending : PendingService}
      {reserved : HandleTable} (hadd : table.add kind parent = .ok (pending, reserved)) :
      Turn table (reserved.deletePending pending)
  | closed {handle : ServiceHandle} {context : ServiceContext} {after : HandleTable}
      (hdelete : table.delete handle = .ok (context, after)) : Turn table after

/-- **A settled table**: no slot is reserved, and there are no more slots than there may be. -/
structure Settled (table : HandleTable) : Prop where
  length_le : table.slots.length ≤ min table.capacity maxSlots
  not_pending : ∀ index kind parent, (table.slotAt index).state ≠ .pending kind parent

/-- A settled table has no more than `maxSlots` slots, so every index of one fits a handle. -/
theorem Settled.length_slots_le (h : table.Settled) : table.slots.length ≤ maxSlots :=
  Nat.le_trans h.length_le (Nat.min_le_right _ _)

/-- Every slot of a settled table is vacant or open: what `add` reserves is open or vacant by the end of a
`Turn`. -/
theorem Settled.state_ne (h : table.Settled) {slot : Slot} (hmem : slot ∈ table.slots) :
    slot.state ≠ .pending kind parent := by
  obtain ⟨i, hi⟩ := List.mem_iff_getElem?.mp hmem
  have hlt := (List.getElem?_eq_some_iff.mp hi).1
  have hslot : table.slotAt (UInt16.ofNat i) = slot := by
    rw [slotAt, toNat_ofNat_of_le_maxSlots (Nat.lt_of_lt_of_le hlt h.length_slots_le),
      List.getD_eq_getElem?_getD, hi, Option.getD_some]
  rw [← hslot]
  exact h.not_pending _ _ _

/-- A table is `Settled` before it has slots. -/
theorem settled_of_slots_eq_nil (h : table.slots = []) : table.Settled := by
  refine ⟨by simp [h], fun index kind parent => ?_⟩
  simp [slotAt, h]

/-- Activating a `PendingService` changes a slot, and not how many there are. -/
theorem length_slots_activate (pending : PendingService) (engineHandle : UInt32) :
    (table.activate pending engineHandle).2.slots.length = table.slots.length :=
  length_slots_update _ _

/-- Releasing a slot leaves it in the table, vacant: `HandleTable.release` keeps the number of slots. -/
theorem length_slots_release (index : UInt16) :
    (table.release index).slots.length = table.slots.length :=
  length_slots_update _ _

/-- Reserving with `add` adds a slot only while there may be more; the capacity is that of the table. -/
theorem length_le_of_add (hadd : table.add kind parent = .ok (pending, reserved))
    (h : table.slots.length ≤ min table.capacity maxSlots) :
    reserved.capacity = table.capacity ∧
      reserved.slots.length ≤ min reserved.capacity maxSlots := by
  unfold add at hadd
  dsimp only at hadd
  split at hadd
  · cases hadd
    exact ⟨rfl, by rw [length_slots_update]; exact h⟩
  · split at hadd
    · rename_i hroom
      cases hadd
      exact ⟨rfl, by simpa using Nat.succ_le_of_lt hroom⟩
    · cases hadd

/-- No `Turn` changes how many services a table may have open. -/
theorem Turn.capacity_eq (h : table.Turn after) (hs : table.Settled) :
    after.capacity = table.capacity := by
  cases h with
  | opened hadd | refused hadd => exact (length_le_of_add hadd hs.length_le).1
  | closed hdelete =>
    obtain ⟨-, rfl⟩ := delete_eq_ok hdelete
    rfl

/-- **What is reserved is handed back**: the slot of the reservation ends in another state. -/
theorem Settled.of_rewrites (hs : table.Settled)
    (hadd : table.add kind parent = .ok (pending, reserved)) {slot : Slot}
    (hafter : reserved.Rewrites after pending.handle slot)
    (hslot : ∀ kind parent, slot.state ≠ .pending kind parent)
    (hlength : after.slots.length ≤ min after.capacity maxSlots) : after.Settled := by
  obtain ⟨hreserved, -⟩ := rewrites_add hs.length_slots_le hadd
  refine ⟨hlength, fun index kind parent => ?_⟩
  -- The slot in question ends as something other than pending, and no other slot has changed.
  by_cases hindex : index = pending.handle.index
  · rw [hindex, hafter.slotAt_index]
    exact hslot kind parent
  · rw [hafter.slotAt_of_ne index hindex, hreserved.slotAt_of_ne index hindex]
    exact hs.not_pending index kind parent

/-- What was reserved is reserved in the table that follows: `Holds` finds it under the handle of the
pending service. -/
theorem holds_of_add (hlength : table.slots.length ≤ maxSlots)
    (hadd : table.add kind parent = .ok (pending, reserved)) :
    reserved.Holds pending.handle (.pending kind parent) := by
  obtain ⟨hreserved, -⟩ := rewrites_add hlength hadd
  exact ⟨hreserved.table_eq.trans hreserved.id_eq.symm, hreserved.slotAt_index⟩

/-- **Every `Turn` leaves the table `Settled`**: a reservation is opened or handed back within it. -/
theorem Turn.settled (h : table.Turn after) (hs : table.Settled) : after.Settled := by
  -- A slot is reserved within a turn only: each turn ends by activating it or by releasing it.
  cases h with
  | opened hadd engineHandle =>
    have hlength := (length_le_of_add hadd hs.length_le).2
    have hreserved := holds_of_add hs.length_slots_le hadd
    have hactivate := hreserved.rewrites_activate
      (Nat.le_trans hlength (Nat.min_le_right _ _)) engineHandle
    refine hs.of_rewrites hadd hactivate (by simp) ?_
    rw [length_slots_activate]
    exact hlength
  | refused hadd =>
    have hlength := (length_le_of_add hadd hs.length_le).2
    have hreserved := holds_of_add hs.length_slots_le hadd
    have hrelease := hreserved.rewrites_release (by simp)
      (Nat.le_trans hlength (Nat.min_le_right _ _))
    refine hs.of_rewrites hadd hrelease (by simp) ?_
    rw [deletePending, length_slots_release]
    exact hlength
  | @closed handle context _ hdelete =>
    obtain ⟨hresolve, rfl⟩ := delete_eq_ok hdelete
    obtain ⟨stamp, hopened⟩ := resolve_eq_ok_iff.mp hresolve
    have hrelease := (opened_iff_holds.mp hopened).rewrites_release (by simp) hs.length_slots_le
    refine ⟨?_, fun index kind parent => ?_⟩
    · rw [length_slots_release]
      exact hs.length_le
    · by_cases hindex : index = handle.index
      · rw [hindex, hrelease.slotAt_index]
        simp
      · rw [hrelease.slotAt_of_ne index hindex]
        exact hs.not_pending index kind parent

/-- The slots in use, reserved or open: those that are not `isVacant`, in the order of the table. -/
def occupied (table : HandleTable) : List Slot := table.slots.filter (!·.state.isVacant)

/-- No more slots are in use than there are, since `HandleTable.occupied` is a selection of the slots. -/
theorem length_occupied_le (table : HandleTable) : table.occupied.length ≤ table.slots.length :=
  List.length_filter_le _ _

/-- Fewer slots are in use than there are, unless none is vacant; `add` looks for a vacant one first. -/
theorem length_occupied_eq_iff : table.occupied.length = table.slots.length ↔
    ∀ slot ∈ table.slots, slot.state.isVacant = false := by
  rw [occupied, List.length_filter_eq_length_iff]
  simp only [Bool.not_eq_true']

/-- **Reserving fails just if as many slots are in use as there may be**: vacant ones are used first. -/
theorem add_eq_error_iff (hlength : table.slots.length ≤ min table.capacity maxSlots)
    (kind : HandleKind) (parent : Option ServiceHandle) :
    table.add kind parent = .error .outOfHandles ↔
      table.occupied.length = min table.capacity maxSlots := by
  have hle := table.length_occupied_le
  unfold add
  dsimp only
  split
  · rename_i index hfind
    obtain ⟨hlt, hvacant, -⟩ := List.findIdx?_eq_some_iff_getElem.mp hfind
    -- A vacant slot means that not all slots are occupied.
    refine iff_of_false (by simp) fun heq => ?_
    have hfull := length_occupied_eq_iff.mp (by omega : table.occupied.length = table.slots.length)
    rw [hfull _ (List.getElem_mem hlt)] at hvacant
    cases hvacant
  · rename_i hfind
    have hfull := length_occupied_eq_iff.mpr (by simpa using hfind)
    split
    · exact iff_of_false (by simp) (by omega)
    · exact iff_of_true rfl (by omega)

/-- Otherwise `add` succeeds, in a vacant slot or in a new one. -/
theorem add_eq_ok_iff (hlength : table.slots.length ≤ min table.capacity maxSlots)
    (kind : HandleKind) (parent : Option ServiceHandle) :
    (∃ pending after, table.add kind parent = .ok (pending, after)) ↔
      table.occupied.length < min table.capacity maxSlots := by
  have hle := Nat.le_trans table.length_occupied_le hlength
  have herror := add_eq_error_iff hlength kind parent
  cases hadd : table.add kind parent with
  | error e =>
    rw [hadd, add_error hadd] at herror
    have hfull := herror.mp rfl
    exact iff_of_false nofun (by omega)
  | ok reserved =>
    rw [hadd] at herror
    have hne := mt herror.mpr nofun
    exact iff_of_true ⟨reserved.1, reserved.2, rfl⟩ (by omega)

/-- The slots of a settled table that are in use are open, and `size` counts them. -/
theorem Settled.length_occupied (hs : table.Settled) : table.occupied.length = table.size := by
  have hopen : table.occupied = table.slots.filter (·.state.context?.isSome) := by
    refine List.filter_congr fun slot hmem => ?_
    have hne (kind parent) : slot.state ≠ .pending kind parent := hs.state_ne hmem
    rcases hstate : slot.state with _ | ⟨kind, parent⟩ | ⟨context, stamp⟩
    · rfl
    · exact absurd hstate (hne kind parent)
    · rfl
  rw [hopen, size]

/-- **A `Settled` table has room unless all its slots are open**, and it has as many as it may have. -/
theorem Settled.add_eq_error_iff (hs : table.Settled) (kind : HandleKind)
    (parent : Option ServiceHandle) :
    table.add kind parent = .error .outOfHandles ↔ table.size = min table.capacity maxSlots := by
  rw [HandleTable.add_eq_error_iff hs.length_le, hs.length_occupied]

/-! ## (2) The same services -/

/-- **The same services are open** in two tables: every handle resolves to the same context in both, and
as many are open. -/
def SameServices (table after : HandleTable) : Prop :=
  (∀ handle, after.resolve handle = table.resolve handle) ∧ after.size = table.size

/-- The same services are open in a table as in itself. This is the case of a call that leaves the table
as it was. -/
theorem SameServices.refl (table : HandleTable) : table.SameServices table := ⟨fun _ => rfl, rfl⟩

/-- The open services are as many as `newestFirst` lists. -/
theorem length_newestFirst (table : HandleTable) : table.newestFirst.length = table.size := by
  have hslots : table.size =
      table.slots.zipIdx.countP ((fun slot => slot.state.context?.isSome) ∘ Prod.fst) := by
    rw [← List.countP_map, List.zipIdx_map_fst, List.countP_eq_length_filter, size]
  unfold newestFirst activations
  rw [hslots, List.length_map, List.length_mergeSort, List.length_filterMap_eq_countP]
  refine List.countP_congr fun x _ => ?_
  obtain ⟨⟨generation, state⟩, index⟩ := x
  cases state <;> simp [SlotState.context?]

/-- No service is listed twice by `newestFirst`: no two of them have the same time of opening. -/
theorem nodup_newestFirst (h : table.WellFormed) : table.newestFirst.Nodup := by
  refine (pairwise_newestFirst h).imp_of_mem ?_
  rintro a _ ha - hlt rfl
  obtain ⟨context, stamp, hopened⟩ := (mem_newestFirst h).mp ha
  exact Nat.lt_irrefl _ (hlt _ _ _ _ hopened hopened)

/-- **Services that stand for the same** are the same services: equal `HandleTable.Opened` relations give
equal resolution and equal sizes. -/
theorem SameServices.of_opened (h : table.WellFormed) (h' : after.WellFormed)
    (hopened : ∀ handle context stamp,
      after.Opened handle context stamp ↔ table.Opened handle context stamp) :
    table.SameServices after := by
  refine ⟨fun handle => ?_, ?_⟩
  · cases hr : table.resolve handle with
    | error e =>
      obtain rfl := resolve_error hr
      cases hr' : after.resolve handle with
      | error e' => rw [resolve_error hr']
      | ok context =>
        obtain ⟨stamp, ho⟩ := resolve_eq_ok_iff.mp hr'
        rw [resolve_eq_ok_iff.mpr ⟨stamp, (hopened _ _ _).mp ho⟩] at hr
        cases hr
    | ok context =>
      obtain ⟨stamp, ho⟩ := resolve_eq_ok_iff.mp hr
      exact resolve_eq_ok_iff.mpr ⟨stamp, (hopened _ _ _).mpr ho⟩
  · -- The open services are counted by the list of them, and the two lists are permutations of each
    -- other.
    rw [← length_newestFirst, ← length_newestFirst]
    refine ((List.perm_ext_iff_of_nodup (nodup_newestFirst h') (nodup_newestFirst h)).mpr
      fun handle => ?_).length_eq
    rw [mem_newestFirst h', mem_newestFirst h]
    exact exists₂_congr fun context stamp => hopened handle context stamp

end HandleTable

namespace Session

variable {σ : Type} [Transport σ] {s t : Session σ}

/-! ## (3) Sessions take turns -/

/-- **What every turn keeps** about a `HandleTable`. -/
def TurnsKeep (p : HandleTable → Prop) : Prop :=
  ∀ table after : HandleTable, table.Turn after → p table → p after

section

variable {p : HandleTable → Prop}

/-- What every turn keeps, acquiring a handle with `acquire` keeps: whatever comes of its request, the
reservation is opened or handed back. -/
theorem turns_acquire (hp : TurnsKeep p) (kind : HandleKind) (parent : Option ServiceHandle)
    (address : UInt32) (arguments : Arguments) (hs : p s.handles) :
    p ((acquire kind parent address arguments).run s).2.handles := by
  rw [run_acquire]
  cases hadd : s.handles.add kind parent with
  | error e => exact hs
  | ok reserved =>
    simp only [process_eq]
    rcases (s.channel.process kind.opening.code address arguments).run s.transport with
      ⟨⟨_ | _, a⟩, transport⟩
    · exact hp _ _ (.refused hadd) hs
    · exact hp _ _ (.opened hadd (openedHandle a)) hs

/-- What every turn keeps, opening a service with `openService` keeps, on the session as on the key
store. -/
theorem turns_openService (hp : TurnsKeep p) (kind : Service) (hs : p s.handles) :
    p ((openService kind).run s).2.handles := by
  rw [run_openService]
  cases s.parentOf kind with
  | error e => exact hs
  | ok found => exact turns_acquire hp _ _ _ _ hs

/-- What every turn keeps, closing a handle with `closeHandle` keeps: it is forgotten whatever the engine
answers. -/
theorem turns_closeHandle (hp : TurnsKeep p) (handle : ServiceHandle) (hs : p s.handles) :
    p ((closeHandle handle).run s).2.handles := by
  rw [run_closeHandle]
  cases hdelete : s.handles.delete handle with
  | error e => exact hs
  | ok deleted => exact hp _ _ (.closed hdelete) hs

/-- What every turn keeps, closing a service with `closeService` keeps, also where the handle is not one
of such a service. -/
theorem turns_closeService (hp : TurnsKeep p) (handle : ServiceHandle) (kind : Service)
    (hs : p s.handles) : p ((closeService handle kind).run s).2.handles := by
  rw [run_closeService]
  cases s.handles.resolveKind handle (.service kind) with
  | error e => exact hs
  | ok address => exact turns_closeHandle hp handle hs

/-- What every turn keeps, closing any number of handles with `closeAll` keeps, by induction on them. -/
theorem turns_closeAll (hp : TurnsKeep p) (handles : List ServiceHandle) (hs : p s.handles) :
    p ((closeAll handles).run s).2.handles := by
  induction handles generalizing s with
  | nil => exact hs
  | cons handle rest ih => exact ih (turns_closeHandle hp handle hs)

/-- What every turn keeps, `close` keeps. -/
theorem turns_close (hp : TurnsKeep p) (hs : p s.handles) : p (close.run s).2.handles := by
  rw [run_close]
  by_cases hid : s.identifier = 0
  · rwa [if_pos hid]
  · rw [if_neg hid]
    exact turns_closeAll hp s.handles.newestFirst hs

/-- What `sheCipher` leaves of the session: unless it complains first, its service is opened, used and
closed, and using it changes no handle. -/
theorem snd_sheCipher (a : SheCipher) (s : Session σ) :
    (sheCipher a s).2 = if a.complaint?.isSome then s else match (openService .cipher).run s with
      | (.error _, t) => t
      | (.ok handle, t) => ((closeService handle .cipher).run (cipher handle a.operation t).2).2 := by
  unfold sheCipher
  dsimp only
  cases a.complaint? with
  | some complaint => rfl
  | none =>
    rcases (openService .cipher).run s with ⟨_ | handle, t⟩
    · rfl
    dsimp only
    rcases cipher handle a.operation t with ⟨⟨outcome, arguments⟩, u⟩
    dsimp only
    rcases (closeService handle .cipher).run u with ⟨_ | _, _⟩ <;> rfl

/-- What every turn keeps, `sheCipher` keeps. -/
theorem turns_sheCipher (hp : TurnsKeep p) (a : SheCipher) (hs : p s.handles) :
    p (sheCipher a s).2.handles := by
  rw [snd_sheCipher]
  split
  · exact hs
  have hopening := turns_openService hp .cipher hs
  rcases hopen : (openService .cipher).run s with ⟨e | handle, t⟩
  all_goals rw [hopen] at hopening
  · exact hopening
  · -- Ciphering takes no turn; opening and closing the service take one each.
    obtain ⟨r, hrequest, -⟩ := requests_cipher (s := t) handle a.operation
    refine turns_closeService hp handle .cipher ?_
    rw [hrequest.steady.2]
    exact hopening

/-- **What every turn keeps, every `Instruction` keeps**: most of them make no turn at all. -/
theorem turns_perform (hp : TurnsKeep p) (i : Instruction) (hs : p s.handles) :
    p (i.perform s).2.handles := by
  by_cases hi : i.isRequest
  · obtain ⟨r, hrequest, -⟩ := Instruction.request (s := s) hi
    rw [hrequest.steady.2]
    exact hs
  cases i with
  | openService kind => exact turns_openService hp kind hs
  | closeService handle kind => exact turns_closeService hp handle kind hs
  | sheCipher a => exact turns_sheCipher hp a hs
  | close => exact turns_close hp hs
  | _ => exact absurd rfl hi

/-- What every turn keeps, establishing a session with `establish` keeps, whether it comes up or not. -/
theorem turns_establish (hp : TurnsKeep p) (configuration : Configuration) (hs : p s.handles) :
    p ((establish configuration).run s).2.handles := by
  rw [run_establish]
  simp only [process_eq]
  rcases (s.channel.process Command.openSession.code 0
    (.openSession { request := configuration.session })).run s.transport with ⟨⟨_ | _, a⟩, t⟩
  · exact hs
  dsimp only
  split
  · exact hs
  split
  · exact hs
  · exact furnish_preserves (p := fun t : Session σ => p t.handles) configuration hs
      (fun _ ht => ht) (fun _ _ ht => ht) (fun _ ht => turns_acquire hp _ _ _ _ ht) fun _ _ ht => ht

end

/-- **What every turn keeps holds of every state that a session reaches**, by induction on the run. -/
theorem Run.turns {change : σ → σ → Prop} {p : HandleTable → Prop} (h : Run change s t)
    (hp : TurnsKeep p) (hs : p s.handles) : p t.handles :=
  h.induction (p := fun t => p t.handles) hs (fun i _ ht => turns_perform hp i ht)
    fun _ _ _ ht => ht

/-! ## (4) Opening and encrypting -/

omit [Transport σ] in
/-- An open session has something to open every service on, itself or its key store. -/
theorem Ready.exists_parentOf (h : s.Ready) (hid : s.identifier ≠ 0) (kind : Service) :
    ∃ parent address, s.parentOf kind = .ok (parent, address) := by
  unfold parentOf
  cases kind.scope with
  | session =>
    have haddress : s.address = .ok s.identifier := if_neg hid
    exact ⟨none, s.identifier, by rw [haddress]; rfl⟩
  | keyStore =>
    obtain ⟨k, hk, hks, hkey⟩ := h hid
    have hresolve := HandleTable.resolveKind_eq_ok_iff.mpr ⟨k.context, k.stamp, hk, hks, rfl⟩
    refine ⟨some k.handle, k.context.engineHandle, ?_⟩
    dsimp only
    rw [hkey]
    dsimp only
    rw [hresolve]
    rfl

/-- **Opening a service with `openService` is refused for want of room** just if reserving a slot is. -/
theorem openService_eq_outOfHandles_iff (hl : s.channel.table.Lawful) {kind : Service}
    {parent : Option ServiceHandle} {address : UInt32} (hp : s.parentOf kind = .ok (parent, address)) :
    ((openService kind).run s).1 = .error .outOfHandles ↔
      s.handles.add (.service kind) parent = .error .outOfHandles := by
  rw [run_openService, hp]
  dsimp only
  rw [run_acquire]
  cases hadd : s.handles.add (.service kind) parent with
  | error e =>
    obtain rfl := HandleTable.add_error hadd
    exact ⟨fun _ => rfl, fun _ => rfl⟩
  | ok reserved =>
    refine ⟨fun h => absurd h ?_, nofun⟩
    have hne := Channel.process_openService_ne hl kind address { flags := 0 } s.transport
    simp only [process_eq]
    rcases hx : (s.channel.process (HandleKind.service kind).opening.code address
      (.openService { flags := 0 })).run s.transport with ⟨⟨e | _, a⟩, u⟩
    · rintro ⟨⟩
      exact hne (congrArg (·.1.1) hx)
    · nofun

/-- Without room nothing is done: `openService` hands on the error of `add`, and no request is sent. -/
theorem openService_of_add_eq_error {kind : Service} {parent : Option ServiceHandle}
    {address : UInt32} {e : ClientError} (hp : s.parentOf kind = .ok (parent, address))
    (hadd : s.handles.add (.service kind) parent = .error e) :
    (openService kind).run s = (.error e, s) := by
  rw [run_openService, hp]
  dsimp only
  rw [run_acquire, hadd]

/-- How opening a service can go: it fails with the session as it was, or comes down to `Acquired` on the
parent that `parentOf` finds. -/
theorem Sound.acquired_openService (h : s.Sound) {kind : Service}
    {r : Except ClientError ServiceHandle} (hrun : (Session.openService kind).run s = (r, t)) :
    (∃ e, r = .error e ∧ t = s) ∨ ∃ parent address,
      Acquired (.service kind) parent address (.openService { flags := 0 }) s r t := by
  rw [run_openService] at hrun
  -- Without a parent to open on, nothing is asked for.
  cases hp : s.parentOf kind with
  | error e =>
    rw [hp] at hrun
    cases hrun
    exact Or.inl ⟨e, rfl, rfl⟩
  | ok found =>
    obtain ⟨parent, address⟩ := found
    have ha := acquired_acquire (.service kind) parent address (.openService { flags := 0 })
      h.wellFormed
    rw [hp] at hrun
    dsimp only at hrun
    rw [hrun] at ha
    exact Or.inr ⟨parent, address, ha⟩

/-- **A service that fails to open** changes nothing that is open: after an error of `Session.openService`
the table has the `SameServices`. -/
theorem Sound.sameServices_openService (h : s.Sound) {kind : Service} {e : ClientError}
    (hrun : (Session.openService kind).run s = (.error e, t)) :
    s.handles.SameServices t.handles := by
  rcases h.acquired_openService hrun with ⟨_, -, rfl⟩ | ⟨parent, address, ha⟩
  · exact .refl _
  cases ha with
  | full => exact .refl _
  | refused _ hwf _ hopened =>
    exact .of_opened h.wellFormed hwf fun handle context stamp => hopened ⟨handle, context, stamp⟩

omit [Transport σ] in
/-- A service that is new was not open before, since its time of opening has not come then. -/
theorem Sound.not_holds_of_stamp (h : s.Sound) {new : Opening}
    (hstamp : new.stamp = s.handles.opened + 1) : ¬s.Holds new := by
  intro ho
  have hle := h.wellFormed.stamp_le _ _ _ ho
  omega

/-- **Encrypting with `sheCipher` leaves the same services open**, whatever comes of its exchanges. -/
theorem Sound.sameServices_sheCipher (h : s.Sound) (a : SheCipher) :
    s.handles.SameServices (sheCipher a s).2.handles := by
  rw [snd_sheCipher]
  split
  · exact .refl _
  rcases hopen : (Session.openService .cipher).run s with ⟨e | handle, t⟩
  · exact h.sameServices_openService hopen
  rcases h.acquired_openService hopen with ⟨_, hr, -⟩ | ⟨parent, address, ha⟩
  · cases hr
  obtain ⟨r, hrequest, -⟩ := requests_cipher (s := t) handle a.operation
  have hhandles := hrequest.steady.2
  dsimp only
  generalize (cipher handle a.operation t).2 = u at hhandles ⊢
  cases ha with
  | @opened new handles _ hcontext hstamp hwf _ hopened =>
    -- The service is still open when the operation is over, and nothing but it is closed.
    obtain rfl : u.handles = handles := hhandles
    have hnew : u.Holds new := (hopened new).mpr (Or.inl rfl)
    have hresolve := HandleTable.resolveKind_eq_ok_iff.mpr
      ⟨new.context, new.stamp, hnew, by rw [hcontext], rfl⟩
    obtain ⟨closed, hclose, hwf', -, hclosed⟩ := run_closeHandle_of_holds hwf hnew
    rw [run_closeService, hresolve]
    dsimp only
    rw [hclose]
    refine .of_opened h.wellFormed hwf' fun handle context stamp => ?_
    refine (hclosed ⟨handle, context, stamp⟩).trans ⟨fun ho => ?_, fun ho => ?_⟩
    · exact ((hopened _).mp ho.1).resolve_left ho.2
    · refine ⟨(hopened _).mpr (Or.inr ho), ?_⟩
      rintro rfl
      exact h.not_holds_of_stamp hstamp ho

/-! ## (5) Reachable states -/

/-- **A session loses none of its capacity**: no slot stays reserved, `outOfHandles` is the answer just if
all slots hold open services, and failed openings and SHE ciphers keep what is open. -/
structure Conserves (configuration : Configuration) (s : Session σ) : Prop where
  /-- No slot is reserved between two calls. -/
  not_reserved : ∀ slot ∈ s.handles.slots, ∀ kind parent, slot.state ≠ .pending kind parent
  /-- An open session is out of handles just if as many services are open as there can be. -/
  outOfHandles_iff : s.identifier ≠ 0 → ∀ kind,
    ((openService kind).run s).1 = .error .outOfHandles ↔
      s.openServices = min configuration.maxServices 65535
  /-- Then nothing is sent, and nothing changes. -/
  silent : s.identifier ≠ 0 → s.openServices = min configuration.maxServices 65535 → ∀ kind,
    (openService kind).run s = (.error .outOfHandles, s) ∧
      (openService kind).run s.recorded = (.error .outOfHandles, s.recorded)
  /-- A service that fails to open leaves the same ones open. -/
  failed : ∀ kind e, ((openService kind).run s).1 = .error e →
    s.handles.SameServices ((openService kind).run s).2.handles
  /-- So does encrypting and decrypting with a SHE key, whatever fails. -/
  sheCipher : ∀ a, s.handles.SameServices (sheCipher a s).2.handles

/-- Turns leave a table `Settled`, with the capacity that it has. -/
theorem turnsKeep_settled (capacity : Nat) :
    TurnsKeep fun table => table.capacity = capacity ∧ table.Settled :=
  fun _ _ hturn h => ⟨(hturn.capacity_eq h.2).trans h.1, hturn.settled h.2⟩

/-- **Capacity is conserved** in every state that a session reaches over any transport, by any `Run` from
a start that succeeded: `Conserves` holds there. -/
theorem conserves_reachable {transport : σ} {configuration : Configuration} {sets : List FamilySet}
    {tableId : UInt32} {start s : Session σ}
    (hstart : startWith transport configuration (.enabling sets) tableId = .ok start)
    (hrun : Run (fun _ _ => True) start s) : s.Conserves configuration := by
  obtain ⟨hsound, hfresh⟩ := sound_startWith (DispatchTable.lawful_enabling sets) hstart
  have hs := hrun.sound hsound
  have hready := hrun.ready hsound hfresh.ready
  -- The table takes turns throughout the start and the run, and what a turn keeps holds at the end.
  have hkeep := turnsKeep_settled configuration.maxServices
  have hbegun := turns_establish hkeep configuration
    (s := initial transport configuration (.enabling sets) tableId)
    ⟨rfl, HandleTable.settled_of_slots_eq_nil rfl⟩
  rw [startWith_eq_ok_iff.mp hstart] at hbegun
  obtain ⟨hcapacity, hsettled⟩ := hrun.turns hkeep hbegun
  have hfull (kind : HandleKind) (parent : Option ServiceHandle) :
      s.handles.add kind parent = .error .outOfHandles ↔
        s.openServices = min configuration.maxServices 65535 := by
    rw [← hcapacity]
    exact hsettled.add_eq_error_iff kind parent
  refine ⟨fun slot hmem kind parent => hsettled.state_ne hmem, fun hid kind => ?_,
    fun hid hsize kind => ?_, fun kind e he => ?_, hs.sameServices_sheCipher⟩
  · obtain ⟨parent, address, hp⟩ := hready.exists_parentOf hid kind
    exact (openService_eq_outOfHandles_iff hs.lawful hp).trans (hfull _ _)
  · obtain ⟨parent, address, hp⟩ := hready.exists_parentOf hid kind
    have hadd := (hfull (.service kind) parent).mpr hsize
    exact ⟨openService_of_add_eq_error hp hadd,
      openService_of_add_eq_error (s := s.recorded) hp hadd⟩
  · exact hs.sameServices_openService (Prod.ext he rfl)

/-- A session on a new device conserves its capacity after a hash service has been opened on it. -/
theorem conserves_reachable_standard : ∃ start : Session Device,
    startWith { machine := { engine := .start {} } } {} (.enabling [.full]) 1 = .ok start ∧
      Conserves {} ((Instruction.openService .hash).perform start).2 := by
  obtain ⟨start, hstart⟩ := exists_startWith
  exact ⟨start, hstart, conserves_reachable hstart (.perform (.openService .hash) .refl)⟩

end Session

end SecureEngine
