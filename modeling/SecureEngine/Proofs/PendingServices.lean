import SecureEngine.Proofs.StaleHandles

/-! # Pending services that are handed back

The slot of a pending service is looked up by its index; the table and the generation that the pending
service carries are not compared with anything. So it does to a slot what it was to do to its own, whoever
uses the slot by then.

* **`HandleTable.Spares`** — what else is in use stays so when a pending service is handed back.
* **`HandleTable.ActsOnSlot`** — what becomes of open services and of reservations, slot by slot.
* **`Ledgers.pending_actsOnSlot`** — this holds of every table and every pending service; one that goes
  back to the table that has issued it spares everything else.
* **`Ledgers.exists_pending_intrudes`** — one from another table can close an open service or take a
  reservation. -/

namespace SecureEngine

namespace HandleTable

variable {table after : HandleTable} {pending other : PendingService} {kind kind' : HandleKind}
  {parent parent' : Option ServiceHandle} {handle : ServiceHandle} {context : ServiceContext}

/-! ## (1) One slot -/

/-- **What else is in use stays so** when a `PendingService` is handed back. -/
structure Spares (table after : HandleTable) (pending : PendingService) : Prop where
  /-- What is open still resolves to the same. -/
  resolve_eq_ok : ∀ handle context, table.resolve handle = .ok context →
    after.resolve handle = .ok context
  /-- What is reserved for another pending service stays reserved. -/
  reserved : ∀ other kind parent, other ≠ pending → table.Reserved other kind parent →
    after.Reserved other kind parent

/-- **What handing back a `PendingService` does to a table**: activating it or deleting it takes the slot
that it names, whatever the slot is used for, except that activating closes nothing. -/
structure ActsOnSlot (table : HandleTable) (pending : PendingService) (engineHandle : UInt32) :
    Prop where
  resolve_activate : ∀ handle context, table.resolve handle = .ok context →
    (table.activate pending engineHandle).2.resolve handle = .ok context
  reserved_activate_iff : ∀ other kind parent, table.Reserved other kind parent →
    ((table.activate pending engineHandle).2.Reserved other kind parent ↔
      other.handle.index ≠ pending.handle.index)
  resolve_deletePending_iff : ∀ handle context, table.resolve handle = .ok context →
    ((table.deletePending pending).resolve handle = .ok context ↔
      handle.index ≠ pending.handle.index)
  reserved_deletePending_iff : ∀ other kind parent, table.Reserved other kind parent →
    ((table.deletePending pending).Reserved other kind parent ↔
      other.handle.index ≠ pending.handle.index)

/-- A slot stays as it is just if the one that is changed is another. -/
theorem getElem?_update_eq_iff {i j : Nat} {slot : Slot} {f : Slot → Slot}
    (h : table.slots[j]? = some slot) (hf : f slot ≠ slot) :
    (table.update i f).slots[j]? = some slot ↔ i ≠ j := by
  rw [getElem?_update, h]
  split
  · rename_i hindex
    simp [hindex, hf]
  · rename_i hindex
    simp [hindex]

/-- A reservation ends just if its own slot is changed: `Reserved` survives `HandleTable.update` at every
other index. -/
theorem reserved_update_iff {f : Slot → Slot} (h : table.Reserved other kind parent)
    (hf : ∀ slot, slot.state = .pending kind parent → (f slot).state ≠ .pending kind parent)
    (index : UInt16) :
    (table.update index.toNat f).Reserved other kind parent ↔ other.handle.index ≠ index := by
  have hchanged : f ⟨other.handle.generation, .pending kind parent⟩ ≠
      ⟨other.handle.generation, .pending kind parent⟩ :=
    fun heq => hf _ rfl (congrArg Slot.state heq)
  have hslot := getElem?_update_eq_iff (i := index.toNat) h.2 hchanged
  rw [Reserved, hslot, ne_comm, Ne, UInt16.toNat_inj]
  exact and_iff_right h.1

/-- An open service is closed by a release just if its own slot is released. -/
theorem resolve_release_iff (h : table.resolve handle = .ok context) (index : UInt16) :
    (table.release index).resolve handle = .ok context ↔ handle.index ≠ index := by
  obtain ⟨stamp, hopened⟩ := resolve_eq_ok_iff.mp h
  rw [resolve_eq_ok_iff]
  constructor
  · -- A released slot is vacant, so nothing resolves there.
    rintro ⟨later, -, hslot⟩ rfl
    rw [release, getElem?_update, if_pos rfl, hopened.2] at hslot
    simp at hslot
  · intro hne
    have hindex : index.toNat ≠ handle.index.toNat := fun heq => hne (UInt16.toNat_inj.mp heq.symm)
    refine ⟨stamp, hopened.1, ?_⟩
    rw [release, getElem?_update, if_neg hindex]
    exact hopened.2

/-- Activating closes nothing: `HandleTable.activate` leaves a slot that is `active` as it is. -/
theorem resolve_activate (h : table.resolve handle = .ok context) (pending : PendingService)
    (engineHandle : UInt32) :
    (table.activate pending engineHandle).2.resolve handle = .ok context := by
  obtain ⟨stamp, hopened⟩ := resolve_eq_ok_iff.mp h
  refine resolve_eq_ok_iff.mpr ⟨stamp, hopened.1, ?_⟩
  show (table.update _ _).slots[_]? = _
  rw [getElem?_update, hopened.2]
  split <;> rfl

/-- **Handing back a `PendingService` acts on the slot that it names.** -/
theorem actsOnSlot (table : HandleTable) (pending : PendingService) (engineHandle : UInt32) :
    table.ActsOnSlot pending engineHandle where
  resolve_activate _ _ h := resolve_activate h pending engineHandle
  reserved_activate_iff _ _ _ h := by
    refine reserved_update_iff h (fun slot hslot => ?_) pending.handle.index
    simp [hslot]
  resolve_deletePending_iff _ _ h := resolve_release_iff h pending.handle.index
  reserved_deletePending_iff _ _ _ h :=
    reserved_update_iff h (fun _ _ => by simp) pending.handle.index

/-! ## (2) Its own reservation -/

/-- A slot is `Reserved` for one pending service. -/
theorem Reserved.index_ne (h : table.Reserved pending kind parent)
    (h' : table.Reserved other kind' parent') (hne : other ≠ pending) :
    other.handle.index ≠ pending.handle.index := by
  obtain ⟨⟨t, i, g⟩⟩ := pending
  obtain ⟨⟨t', i', g'⟩⟩ := other
  rintro rfl
  -- Two reservations of one slot would be one reservation.
  have hslot := h.2.symm.trans h'.2
  simp only [Option.some.injEq, Slot.mk.injEq] at hslot
  have htable : t = t' := h.1.trans h'.1.symm
  rw [hslot.1, htable] at hne
  exact hne rfl

/-- A `Reserved` slot is not that of an open service. -/
theorem Reserved.index_ne_of_resolve (h : table.Reserved pending kind parent)
    (hresolve : table.resolve handle = .ok context) : handle.index ≠ pending.handle.index := by
  obtain ⟨stamp, hopened⟩ := resolve_eq_ok_iff.mp hresolve
  have hne := hopened.index_ne h.2 rfl
  exact fun heq => hne (congrArg UInt16.toNat heq.symm)

/-- **A pending service that still has its reservation spares everything else**, whether it is activated
or deleted. -/
theorem Reserved.spares (h : table.Reserved pending kind parent) (engineHandle : UInt32) :
    table.Spares (table.activate pending engineHandle).2 pending ∧
      table.Spares (table.deletePending pending) pending := by
  have hacts := table.actsOnSlot pending engineHandle
  refine ⟨⟨hacts.resolve_activate, ?_⟩, ?_, ?_⟩
  · intro other kind' parent' hne hother
    exact (hacts.reserved_activate_iff other kind' parent' hother).mpr (h.index_ne hother hne)
  · intro handle context hresolve
    exact (hacts.resolve_deletePending_iff handle context hresolve).mpr
      (h.index_ne_of_resolve hresolve)
  · intro other kind' parent' hne hother
    exact (hacts.reserved_deletePending_iff other kind' parent' hother).mpr (h.index_ne hother hne)

end HandleTable

/-- A pending service that has not been handed back has its `Reservation`. -/
theorem Ledger.Kept.reserved {l : Ledger} (h : l.Kept) {r : Reservation} (hr : r ∈ l.waiting) :
    l.table.Reserved r.pending r.kind r.parent := by
  obtain ⟨htable, hslot⟩ := (h.mem_waiting_iff r).mp hr
  exact ⟨htable, (HandleTable.slotAt_eq_iff (by simp)).mp hslot⟩

namespace Ledgers

/-- **What becomes of the services and reservations of a table** when a `PendingService` is handed back:
in every table and for every pending service, of whatever table, they are lost just where the pending
service names their slot, and activating loses reservations only. Where every pending service goes back to
the table that has issued it, everything else is spared. -/
theorem pending_actsOnSlot (table : HandleTable) (pending : PendingService) (engineHandle : UInt32) :
    table.ActsOnSlot pending engineHandle ∧
    ∀ ls, Grown ls → (∀ l ∈ ls, l.Bounded) → ∀ l ∈ ls, l.table = table →
      ∀ r ∈ l.waiting, r.pending = pending →
        table.Spares (table.activate pending engineHandle).2 pending ∧
          table.Spares (table.deletePending pending) pending := by
  refine ⟨table.actsOnSlot pending engineHandle, ?_⟩
  rintro ls hgrown hbounded l hl rfl r hr rfl
  obtain ⟨i, hi⟩ := List.mem_iff_getElem?.mp hl
  have hkept := (hgrown.kept hbounded i l hi).2
  exact (hkept.reserved hr).spares engineHandle

/-- Two tables: the first has a service open in its first slot and the second one reserved; both slots of
the second are reserved. -/
def crossed : List Ledger :=
  [{ table :=
       { id := 1
         slots := [⟨0, .active ⟨.service .mac, 0x100, none⟩ 1⟩, ⟨0, .pending (.service .cipher) none⟩]
         capacity := 2
         opened := 1 }
     issued := [⟨1, 1, 0⟩, ⟨1, 0, 0⟩]
     waiting := [⟨⟨⟨1, 1, 0⟩⟩, .service .cipher, none⟩]
     serving := [(⟨1, 0, 0⟩, ⟨.service .mac, 0x100, none⟩)] },
   { table :=
       { id := 2
         slots := [⟨0, .pending (.service .mac) none⟩, ⟨0, .pending (.service .hash) none⟩]
         capacity := 2 }
     issued := [⟨2, 1, 0⟩, ⟨2, 0, 0⟩]
     waiting := [⟨⟨⟨2, 1, 0⟩⟩, .service .hash, none⟩, ⟨⟨⟨2, 0, 0⟩⟩, .service .mac, none⟩] }]

/-- The two ledgers of `crossed` have grown from new tables with different numbers. -/
theorem grown_crossed : Grown crossed := by
  have htables := (Grown.none.step (.create 2)).step (.create 2)
  have hreserved := htables.step
    (.act (i := 0) rfl (@Ledger.Step.reserve _ (.service .mac) none _ _ rfl))
  have hopened := hreserved.step
    (.act (i := 0) rfl (@Ledger.Step.activate _ _ 0x100 _ _ List.mem_cons_self rfl))
  have hfirst := hopened.step
    (.act (i := 0) rfl (@Ledger.Step.reserve _ (.service .cipher) none _ _ rfl))
  have hother := hfirst.step
    (.act (i := 1) rfl (@Ledger.Step.reserve _ (.service .mac) none _ _ rfl))
  exact hother.step (.act (i := 1) rfl (@Ledger.Step.reserve _ (.service .hash) none _ _ rfl))

/-- Neither of the ledgers of `crossed` comes near the bounds on what is issued. -/
theorem bounded_crossed : ∀ l ∈ crossed, l.Bounded := by
  have hended : ∀ l ∈ crossed, l.ended = [] := by decide
  intro l hl index
  rw [Ledger.releases, hended l hl]
  exact Nat.zero_lt_of_ne_zero (by decide)

/-- In the first of them, the `Reserved` slot is spared by its own pending service and taken by
another. -/
theorem pending_actsOnSlot_crossed :
    Grown crossed ∧ (∀ l ∈ crossed, l.Bounded) ∧
      ∃ l ∈ crossed, ∃ r ∈ l.waiting,
        l.table.Spares (l.table.deletePending r.pending) r.pending ∧
        l.table.Reserved r.pending r.kind r.parent ∧
        ∃ other ∈ crossed, ∃ q ∈ other.waiting, q.pending ≠ r.pending ∧
          ¬(l.table.activate q.pending 0x200).2.Reserved r.pending r.kind r.parent := by
  obtain ⟨-, hspares⟩ := pending_actsOnSlot crossed[0].table ⟨⟨1, 1, 0⟩⟩ 0x200
  obtain ⟨hacts, -⟩ := pending_actsOnSlot crossed[0].table ⟨⟨2, 1, 0⟩⟩ 0x200
  refine ⟨grown_crossed, bounded_crossed, _, List.mem_cons_self, _, List.mem_cons_self,
    (hspares _ grown_crossed bounded_crossed _ List.mem_cons_self rfl _ List.mem_cons_self rfl).2,
    ⟨rfl, rfl⟩, _, List.mem_cons_of_mem _ List.mem_cons_self, _, List.mem_cons_self, by decide, ?_⟩
  exact mt (hacts.reserved_activate_iff _ _ _ ⟨rfl, rfl⟩).mp (by decide)

/-- **Some pending services act on what is not theirs**: activated in another table they can take a
reservation there, and deleted they can close an open service. -/
theorem exists_pending_intrudes :
    (¬∀ ls, Grown ls → ∀ l ∈ ls, ∀ other ∈ ls, ∀ r ∈ other.waiting,
      r.pending.handle.index.toNat < l.table.slots.length → ∀ engineHandle : UInt32,
        l.table.Spares (l.table.activate r.pending engineHandle).2 r.pending) ∧
    ¬∀ ls, Grown ls → ∀ l ∈ ls, ∀ other ∈ ls, ∀ r ∈ other.waiting,
      r.pending.handle.index.toNat < l.table.slots.length →
        l.table.Spares (l.table.deletePending r.pending) r.pending := by
  constructor
  · -- The token of the second table activates what waits in the same slot of the first.
    intro hspares
    have hkept := (hspares crossed grown_crossed _ List.mem_cons_self _
      (List.mem_cons_of_mem _ List.mem_cons_self) _ List.mem_cons_self (by decide) 0x200).reserved
      ⟨⟨1, 1, 0⟩⟩ (.service .cipher) none (by decide) ⟨rfl, rfl⟩
    exact absurd hkept.2 (by decide)
  · intro hspares
    have hkept := (hspares crossed grown_crossed _ List.mem_cons_self _
      (List.mem_cons_of_mem _ List.mem_cons_self) _ (List.mem_cons_of_mem _ List.mem_cons_self)
      (by decide)).resolve_eq_ok ⟨1, 0, 0⟩ ⟨.service .mac, 0x100, none⟩ rfl
    cases hkept

end Ledgers

end SecureEngine
