import Mathlib.Data.List.Nodup
import SecureEngine.Proofs.NewestFirst

/-! # The room in a handle table

Slots come to exist one by one and are used again when they are released, and pending services hold slots
as open ones do. Here the slots are counted against the handles that are in use by the ledger.

* **`Ledger.inUse`** — the handles that are out: those of the pending services that have not been handed
  back, and those that are served.
* **`Ledger.Balanced`** — they are what the slots of the table are taken by, each of another one;
  **`Ledger.Step.balanced`** — every step keeps it, whether or not generations come again.
* **`Ledger.Reached`** — what can come of a new table of some capacity.
* **`Ledger.rations`** — such a table has room for exactly as many handles as its capacity and the slots
  that handles can tell apart allow, and without room nothing is done. -/

namespace SecureEngine

namespace HandleTable

variable {table : HandleTable}

/-! ## (1) Slots in use -/

/-- Where the slots in use are: the places of those that are not `isVacant`, in increasing order. -/
def occupiedAt (table : HandleTable) : List Nat :=
  (table.slots.zipIdx.filter fun entry => !entry.1.state.isVacant).map (·.2)

/-- There are as many positions in `occupiedAt` as slots in `occupied`. -/
theorem length_occupiedAt (table : HandleTable) :
    table.occupiedAt.length = table.occupied.length := by
  have hslots : table.slots.zipIdx.map Prod.fst = table.slots := List.zipIdx_map_fst 0 _
  have hoccupied : table.occupied =
      (table.slots.zipIdx.filter fun entry => !entry.1.state.isVacant).map Prod.fst := by
    rw [occupied, ← hslots, List.filter_map, hslots]
    rfl
  rw [hoccupied, occupiedAt, List.length_map, List.length_map]

/-- No position is listed twice by `occupiedAt`. -/
theorem nodup_occupiedAt (table : HandleTable) : table.occupiedAt.Nodup := by
  have hindices : (table.slots.zipIdx.map Prod.snd).Nodup := by
    rw [List.zipIdx_map_snd]
    exact List.nodup_range'
  exact hindices.sublist (List.filter_sublist.map _)

/-- The positions in `occupiedAt` are those of the slots that are not vacant. -/
theorem mem_occupiedAt_iff {index : Nat} :
    index ∈ table.occupiedAt ↔ ∃ slot, table.slots[index]? = some slot ∧ slot.state ≠ .vacant := by
  have hstate (state : SlotState) : (!state.isVacant) = true ↔ state ≠ .vacant := by
    cases state <;> simp [SlotState.isVacant]
  simp only [occupiedAt, List.mem_map, List.mem_filter, Prod.exists, exists_eq_right,
    List.mk_mem_zipIdx_iff_getElem?, hstate]

/-- **The slots in use are those of current handles**, which are reserved or open. -/
theorem mem_occupiedAt_iff_holds (hlength : table.slots.length ≤ maxSlots) {index : Nat} :
    index ∈ table.occupiedAt ↔ ∃ handle state, state ≠ .vacant ∧ table.Holds handle state ∧
      handle.index.toNat = index := by
  rw [mem_occupiedAt_iff]
  constructor
  · rintro ⟨⟨generation, state⟩, hslot, hstate⟩
    have hlt := (List.getElem?_eq_some_iff.mp hslot).1
    have hindex := toNat_ofNat_of_le_maxSlots (Nat.lt_of_lt_of_le hlt hlength)
    refine ⟨table.handleAt index generation, state, hstate, ⟨rfl, ?_⟩, hindex⟩
    exact (slotAt_eq_iff hstate).mpr ((congrArg (table.slots[·]?) hindex).trans hslot)
  · rintro ⟨handle, state, hstate, hholds, rfl⟩
    exact ⟨_, (slotAt_eq_iff hstate).mp hholds.2, hstate⟩

end HandleTable

/-! ## (2) Handles in use -/

namespace Ledger

open HandleTable

variable {l after : Ledger} {handle : ServiceHandle} {capacity : Nat}

/-- **The handles in use**: those of pending services that have not been handed back, and those that are
served. -/
def inUse (l : Ledger) : List ServiceHandle := l.waiting.map (·.pending.handle) ++ l.services

/-- The `Ledger` without its record of what was issued, so that it does not matter whether a handle is
issued again. -/
def unissued (l : Ledger) : Ledger := { l with issued := [] }

/-- What `Ledger.Kept` says survives forgetting which handles were issued, with `unissued`. -/
theorem Kept.unissued (h : l.Kept) : l.unissued.Kept :=
  { h with issued := nofun, nodup_issued := List.nodup_nil }

/-- **Slots and ledger are `Kept` in agreement without any bound** on the releases of a slot. -/
theorem Step.kept_unissued (hstep : l.Step after) (h : l.unissued.Kept) : after.unissued.Kept := by
  cases hstep with
  | reserve hadd => exact (h.reserve List.not_mem_nil hadd).unissued
  | activate hr hactivate => exact h.activate hr hactivate
  | withdraw hr => exact h.withdraw hr
  | delete hdelete => exact h.delete hdelete
  | look => exact h

/-- **A handle is in use just if it is current** and its slot is reserved or open. -/
theorem Kept.mem_inUse_iff (h : l.unissued.Kept) :
    handle ∈ l.inUse ↔ ∃ state, state ≠ .vacant ∧ l.table.Holds handle state := by
  rw [inUse, List.mem_append, List.mem_map, mem_services_iff]
  -- A pending slot is what waits, and an active one what serves.
  constructor
  · rintro (⟨r, hr, rfl⟩ | ⟨context, hcontext⟩)
    · exact ⟨_, by simp, (h.mem_waiting_iff r).mp hr⟩
    · obtain ⟨stamp, hholds⟩ := (h.mem_serving_iff handle context).mp hcontext
      exact ⟨_, by simp, hholds⟩
  · rintro ⟨state, hstate, hholds⟩
    cases state with
    | vacant => exact absurd rfl hstate
    | pending kind parent =>
      exact Or.inl ⟨⟨⟨handle⟩, kind, parent⟩, (h.mem_waiting_iff _).mpr hholds, rfl⟩
    | active context stamp =>
      exact Or.inr ⟨context, (h.mem_serving_iff handle context).mpr ⟨stamp, hholds⟩⟩

/-- **The table and the `Ledger` count the same.** -/
structure Balanced (capacity : Nat) (l : Ledger) : Prop where
  tracked : l.Tracked
  kept : l.unissued.Kept
  capacity_eq : l.table.capacity = capacity
  length_slots_le : l.table.slots.length ≤ min capacity maxSlots
  /-- No handle is in use twice. -/
  nodup_inUse : l.inUse.Nodup

/-- Handles in use are of different slots: `Balanced` gives each of them the generation of its slot. -/
theorem Balanced.nodup_index (h : l.Balanced capacity) : (l.inUse.map (·.index)).Nodup := by
  refine h.nodup_inUse.map_on fun handle hmem other hmem' hindex => ?_
  obtain ⟨state, -, hholds⟩ := h.kept.mem_inUse_iff.mp hmem
  obtain ⟨state', -, hholds'⟩ := h.kept.mem_inUse_iff.mp hmem'
  exact (hholds.eq_of_index_eq hholds' hindex).1

/-- **As many handles are in use as slots**: each handle has a slot, and each slot has its handle. -/
theorem Balanced.length_inUse (h : l.Balanced capacity) :
    l.inUse.length = l.table.occupied.length := by
  have hnodup : ((l.inUse.map (·.index)).map UInt16.toNat).Nodup :=
    h.nodup_index.map fun _ _ => UInt16.toNat_inj.mp
  have hperm : ((l.inUse.map (·.index)).map UInt16.toNat).Perm l.table.occupiedAt := by
    refine (List.perm_ext_iff_of_nodup hnodup l.table.nodup_occupiedAt).mpr fun index => ?_
    rw [mem_occupiedAt_iff_holds h.tracked.wellFormed.length_slots_le, List.map_map, List.mem_map]
    simp only [h.kept.mem_inUse_iff, Function.comp_apply, exists_and_right, ← and_assoc]
  rw [← length_occupiedAt, ← hperm.length_eq, List.length_map, List.length_map]

/-- As many services are open as are served: `HandleTable.size` is the number of `services` of the
ledger. -/
theorem Balanced.size_eq (h : l.Balanced capacity) : l.table.size = l.services.length := by
  have hnodup : l.services.Nodup := h.nodup_inUse.sublist (List.sublist_append_right _ _)
  have hwf := h.tracked.wellFormed
  have hperm : l.table.newestFirst.Perm l.services :=
    (List.perm_ext_iff_of_nodup (nodup_newestFirst hwf) hnodup).mpr fun handle =>
      (mem_newestFirst hwf).trans h.tracked.mem_services_iff_opened.symm
  rw [← length_newestFirst, hperm.length_eq]

/-! ## (3) Steps -/

/-- A new ledger is `Balanced`: there is nothing in use. -/
theorem balanced_new (id : UInt32) (capacity : Nat) :
    Balanced capacity { table := { id, capacity } } where
  tracked := tracked_new id capacity
  kept := kept_new id capacity
  capacity_eq := rfl
  length_slots_le := Nat.zero_le _
  nodup_inUse := List.nodup_nil

/-- A step changes neither the capacity nor, except by reserving a new one, the number of slots. -/
theorem Step.length_slots_le (hstep : l.Step after)
    (h : l.table.slots.length ≤ min l.table.capacity maxSlots) :
    after.table.capacity = l.table.capacity ∧
      after.table.slots.length ≤ min after.table.capacity maxSlots := by
  -- Only reserving may append a slot, and it asks for room first.
  cases hstep with
  | reserve hadd => exact length_le_of_add hadd h
  | activate hr hactivate =>
    obtain ⟨-, rfl⟩ := Prod.mk.inj hactivate
    exact ⟨rfl, Nat.le_trans (Nat.le_of_eq (length_slots_activate _ _)) h⟩
  | withdraw hr => exact ⟨rfl, Nat.le_trans (Nat.le_of_eq (length_slots_release _)) h⟩
  | delete hdelete =>
    obtain ⟨-, rfl⟩ := delete_eq_ok hdelete
    exact ⟨rfl, Nat.le_trans (Nat.le_of_eq (length_slots_release _)) h⟩
  | look => exact ⟨rfl, h⟩

/-- The handles of reservations that are handed back leave those of the others: what waits without them is
a part of `waiting`. -/
theorem inUse_filter_sublist (pending : PendingService) :
    ((l.waiting.filter (·.pending != pending)).map (·.pending.handle)).Sublist
      (l.waiting.map (·.pending.handle)) :=
  List.filter_sublist.map _

/-- **No step brings a handle into use twice**: a `Step` reserves a slot that was vacant, and every other
one takes handles out or moves them. -/
theorem Step.nodup_inUse (hstep : l.Step after) (h : l.Balanced capacity) : after.inUse.Nodup := by
  cases hstep with
  | reserve hadd =>
    -- The slot has been vacant, so the handle has not been in use.
    obtain ⟨-, hvacant⟩ := rewrites_add h.kept.length_slots_le hadd
    refine List.nodup_cons.mpr ⟨fun hmem => ?_, h.nodup_inUse⟩
    obtain ⟨state, hstate, hholds⟩ := h.kept.mem_inUse_iff.mp hmem
    exact hvacant.ne_of_state_ne hholds hstate rfl
  | @activate r _ _ _ hr hactivate =>
    -- The handle goes over from the reservations to the services.
    obtain ⟨rfl, -⟩ := Prod.mk.inj hactivate
    have hrest := h.nodup_inUse.sublist ((inUse_filter_sublist r.pending).append_right l.services)
    refine List.nodup_middle.mpr (List.nodup_cons.mpr ⟨fun hmem => ?_, hrest⟩)
    rcases List.mem_append.mp hmem with hwaiting | hserving
    · obtain ⟨q, hq, heq⟩ := List.mem_map.mp hwaiting
      exact ((mem_filter_waiting_iff q r.pending).mp hq).2 heq
    · have hdisjoint := (List.nodup_append.mp h.nodup_inUse).2.2
      exact hdisjoint _ (List.mem_map_of_mem hr) _ hserving rfl
  | withdraw hr =>
    exact h.nodup_inUse.sublist ((inUse_filter_sublist _).append_right _)
  | delete hdelete =>
    exact h.nodup_inUse.sublist ((List.filter_sublist.map _).append_left _)
  | look => exact h.nodup_inUse

/-- **Every step keeps the balance**: `Balanced` is an invariant of `Step`, for every capacity. -/
theorem Step.balanced (hstep : l.Step after) (h : l.Balanced capacity) : after.Balanced capacity := by
  have hlength := h.length_slots_le
  rw [← h.capacity_eq] at hlength
  obtain ⟨hcapacity, hafter⟩ := hstep.length_slots_le hlength
  rw [hcapacity, h.capacity_eq] at hafter
  exact ⟨(hstep.tracked h.tracked).1, hstep.kept_unissued h.kept, hcapacity.trans h.capacity_eq, hafter,
    hstep.nodup_inUse h⟩

/-! ## (4) Runs -/

/-- **What can come of a new table** of a capacity, with its `Ledger`. -/
inductive Reached (capacity : Nat) : Ledger → Prop
  | new (id : UInt32) : Reached capacity { table := { id, capacity } }
  | step {l after : Ledger} (h : Reached capacity l) (hstep : l.Step after) : Reached capacity after

/-- Every ledger that is reached is `Balanced`, by induction on the steps. -/
theorem Reached.balanced (h : Reached capacity l) : l.Balanced capacity := by
  induction h with
  | new id => exact balanced_new id capacity
  | step _ hstep ih => exact hstep.balanced ih

/-- **A table gives out the room that it has**, no more and no less. -/
structure Rationed (capacity : Nat) (l : Ledger) : Prop where
  /-- The table counts the services that have been activated and not been deleted since. -/
  size_eq : l.table.size = l.services.length
  /-- A pending service that has not been handed back has its slot. -/
  reserved : ∀ r ∈ l.waiting, l.table.Reserved r.pending r.kind r.parent
  /-- So has a service that is open. -/
  resolve_eq_ok_iff : ∀ handle context,
    l.table.resolve handle = .ok context ↔ (handle, context) ∈ l.serving
  /-- All of these are of different slots. -/
  nodup_index : (l.inUse.map (·.index)).Nodup
  /-- Another one can be reserved while there are fewer of them than there may be. -/
  add_eq_ok_iff : ∀ kind parent,
    (∃ pending table, l.table.add kind parent = .ok (pending, table)) ↔
      l.table.size + l.waiting.length < min capacity maxSlots
  /-- Otherwise there is one failure, and a session that meets it is as it was before. -/
  of_add_eq_error : ∀ kind parent e, l.table.add kind parent = .error e → e = .outOfHandles ∧
    ∀ (σ : Type) [Transport σ] (s : Session σ), s.handles = l.table → ∀ address arguments,
      (Session.acquire kind parent address arguments).run s = (.error e, s)

/-- In a `Balanced` ledger the slots in use are the open services and the reservations that wait, and no
others. -/
theorem Balanced.length_eq (h : l.Balanced capacity) :
    l.table.occupied.length = l.table.size + l.waiting.length := by
  rw [← h.length_inUse, inUse, List.length_append, List.length_map, h.size_eq, Nat.add_comm]

/-- **The room in a table is exact** in everything that comes of it: reserving succeeds just if fewer
services are open and pending than its capacity and the slots that handles can name allow; each has a slot
of its own; and reserving without room changes nothing. -/
theorem rations (h : Reached capacity l) : l.Rationed capacity := by
  have hbalanced := h.balanced
  refine ⟨hbalanced.size_eq, hbalanced.tracked.reserved, fun handle context => ?_,
    hbalanced.nodup_index, fun kind parent => ?_, fun kind parent e hadd => ?_⟩
  · rw [HandleTable.resolve_eq_ok_iff, hbalanced.tracked.mem_serving_iff]
  · rw [← hbalanced.length_eq, ← hbalanced.capacity_eq]
    exact add_eq_ok_iff (hbalanced.capacity_eq ▸ hbalanced.length_slots_le) kind parent
  · refine ⟨add_error hadd, fun σ _ s hs address arguments => ?_⟩
    rw [Session.run_acquire, hs, hadd]

/-- A table of two slots: in one a service is open, and the other, which has been released once, is
reserved. -/
def brimming : Ledger where
  table :=
    { id := 1
      slots := [⟨0, .active ⟨.service .mac, 0x100, none⟩ 1⟩, ⟨1, .pending (.service .hash) none⟩]
      capacity := 2
      opened := 1 }
  issued := [⟨1, 1, 1⟩, ⟨1, 1, 0⟩, ⟨1, 0, 0⟩]
  waiting := [⟨⟨⟨1, 1, 1⟩⟩, .service .hash, none⟩]
  serving := [(⟨1, 0, 0⟩, ⟨.service .mac, 0x100, none⟩)]
  ended := [⟨1, 1, 0⟩]

/-- A table of two slots is full when a service is open and a reservation waits. -/
theorem reached_brimming : Reached 2 brimming := by
  have hfirst := (@Reached.new 2 1).step (@Step.reserve _ (.service .mac) none _ _ rfl)
  have hsecond := hfirst.step (@Step.reserve _ (.service .cipher) none _ _ rfl)
  have hopened := hsecond.step
    (@Step.activate _ _ 0x100 _ _ (List.mem_cons_of_mem _ List.mem_cons_self) rfl)
  have hwithdrawn := hopened.step (@Step.withdraw _ _ List.mem_cons_self)
  exact hwithdrawn.step (@Step.reserve _ (.service .hash) none _ _ rfl)

/-- There is no room left in it, and the two that are in use have different slots. -/
theorem rations_brimming : Reached 2 brimming ∧ brimming.Rationed 2 ∧
    brimming.table.size + brimming.waiting.length = 2 ∧
      ∀ kind parent, ¬∃ pending table, brimming.table.add kind parent = .ok (pending, table) := by
  have hrationed := rations reached_brimming
  refine ⟨reached_brimming, hrationed, rfl, fun kind parent hadd => ?_⟩
  exact absurd ((hrationed.add_eq_ok_iff kind parent).mp hadd) (by decide)

end Ledger

end SecureEngine
