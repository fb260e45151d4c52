import SecureEngine.Proofs.HandleTable

/-! # Ledgers of handles

A slot is used again and again; whether a handle still stands for something is told by the slot and the
generation in it alone. Here that is compared with a ledger of what has been done with every handle that
a table has ever issued.

* **`Ledger`** — a table with the fates of its handles; **`Ledger.Step`** — what may be done with one.
* **`HandleTable.Rewrites`** — every step rewrites one slot; **`HandleTable.Holds`** — handles that are
  current, before and after it.
* **`Ledger.Kept`** — what relates the slots to the ledger; **`Ledger.Step.kept`** — every step keeps it,
  as long as the generations of no slot come again. -/

namespace SecureEngine

/-! ## (1) Ledgers -/

/-- **What a slot is reserved for**, with the `PendingService` that is to be handed back. -/
structure Reservation where
  pending : PendingService
  kind : HandleKind
  parent : Option ServiceHandle
deriving DecidableEq, Repr

/-- **A table with the fates of all the handles that it has issued**: a `HandleTable` with reservations
that wait, handles that serve and handles that have ended. -/
structure Ledger where
  table : HandleTable
  /-- The handles that were issued, newest first. -/
  issued : List ServiceHandle := []
  /-- The reservations that have not been handed back. -/
  waiting : List Reservation := []
  /-- The handles that have been activated and not been deleted since, with what was recorded. -/
  serving : List (ServiceHandle × ServiceContext) := []
  /-- The handles that have been withdrawn or deleted, newest first. -/
  ended : List ServiceHandle := []

namespace Ledger

/-- How often a slot has been released: the number of handles with this index among those of the `Ledger`
that have ended. -/
def releases (l : Ledger) (index : UInt16) : Nat := l.ended.countP (·.index == index)

/-- **What may be done with a table.** A `PendingService` is handed back once, and to the table that has
issued it; handles may be any. -/
inductive Step (l : Ledger) : Ledger → Prop
  | reserve {kind : HandleKind} {parent : Option ServiceHandle} {pending : PendingService}
      {table : HandleTable} (hadd : l.table.add kind parent = .ok (pending, table)) :
      Step l { l with table, issued := pending.handle :: l.issued,
                      waiting := ⟨pending, kind, parent⟩ :: l.waiting }
  | activate {r : Reservation} {engineHandle : UInt32} {handle : ServiceHandle} {table : HandleTable}
      (hr : r ∈ l.waiting) (hactivate : l.table.activate r.pending engineHandle = (handle, table)) :
      Step l { l with table, waiting := l.waiting.filter (·.pending != r.pending),
                      serving := (handle, ⟨r.kind, engineHandle, r.parent⟩) :: l.serving }
  | withdraw {r : Reservation} (hr : r ∈ l.waiting) :
      Step l { l with table := l.table.deletePending r.pending,
                      waiting := l.waiting.filter (·.pending != r.pending),
                      ended := r.pending.handle :: l.ended }
  | delete {handle : ServiceHandle} {context : ServiceContext} {table : HandleTable}
      (hdelete : l.table.delete handle = .ok (context, table)) :
      Step l { l with table, serving := l.serving.filter (·.1 != handle),
                      ended := handle :: l.ended }
  /-- A look-up changes nothing, nor does a reservation or a deletion that is refused. -/
  | look : Step l l

end Ledger

/-! ## (2) Tables with one slot rewritten -/

namespace HandleTable

variable {table after : HandleTable} {handle : ServiceHandle} {state : SlotState} {slot : Slot}

/-- The slot at an index. One that has not come to exist yet is like one that has never been used. -/
def slotAt (table : HandleTable) (index : UInt16) : Slot := table.slots.getD index.toNat {}

/-- **A handle is current**: its slot is in its generation, and in some state. -/
def Holds (table : HandleTable) (handle : ServiceHandle) (state : SlotState) : Prop :=
  handle.table = table.id ∧ table.slotAt handle.index = ⟨handle.generation, state⟩

/-- `slotAt` finds a slot that is not vacant just where it is in the table; behind the end of it, all are
vacant. -/
theorem slotAt_eq_iff {index : UInt16} (h : slot.state ≠ .vacant) :
    table.slotAt index = slot ↔ table.slots[index.toNat]? = some slot := by
  rw [slotAt, List.getD_eq_getElem?_getD]
  cases table.slots[index.toNat]? with
  | some found => rw [Option.getD_some, Option.some.injEq]
  | none =>
    refine ⟨fun heq => absurd ?_ h, nofun⟩
    rw [← heq]
    rfl

/-- `Opened` is `Holds` for an active slot. -/
theorem opened_iff_holds {context : ServiceContext} {stamp : Nat} :
    table.Opened handle context stamp ↔ table.Holds handle (.active context stamp) := by
  rw [Opened, Holds, slotAt_eq_iff (by simp)]

/-- Current handles of one slot are the same: `HandleTable.Holds` compares their generation with that of
the one slot. -/
theorem Holds.eq_of_index_eq {other : ServiceHandle} {state' : SlotState} (h : table.Holds handle state)
    (h' : table.Holds other state') (hindex : handle.index = other.index) :
    handle = other ∧ state = state' := by
  obtain ⟨t, i, g⟩ := handle
  obtain ⟨t', i', g'⟩ := other
  obtain rfl : i = i' := hindex
  -- Both read the same slot, which has one generation and one state.
  have hslot := h.2.symm.trans h'.2
  simp only [Slot.mk.injEq] at hslot
  obtain ⟨hgeneration, rfl⟩ := hslot
  have htable : t = t' := h.1.trans h'.1.symm
  rw [hgeneration, htable]
  exact ⟨rfl, rfl⟩

/-- **A step rewrites one slot**, that of a handle: after it `slotAt` gives the new slot there, and
elsewhere what it gave before. -/
structure Rewrites (table after : HandleTable) (handle : ServiceHandle) (slot : Slot) : Prop where
  table_eq : handle.table = table.id
  id_eq : after.id = table.id
  length_slots_le : after.slots.length ≤ maxSlots
  slotAt_index : after.slotAt handle.index = slot
  slotAt_of_ne : ∀ index, index ≠ handle.index → after.slotAt index = table.slotAt index

/-- What is current after a slot is rewritten: what is in it, and what was current in another. -/
theorem Rewrites.holds_iff (h : table.Rewrites after handle slot) {other : ServiceHandle} :
    after.Holds other state ↔
      (other = { handle with generation := slot.generation } ∧ state = slot.state) ∨
        (other.index ≠ handle.index ∧ table.Holds other state) := by
  obtain ⟨t, i, g⟩ := other
  by_cases hindex : i = handle.index
  · -- In the slot itself a handle is current just if it is read off the slot.
    subst hindex
    constructor
    · rintro ⟨ht, hs⟩
      have hs := h.slotAt_index.symm.trans hs
      cases hs
      have ht : t = handle.table := ht.trans (h.id_eq.trans h.table_eq.symm)
      exact Or.inl ⟨by rw [ht], rfl⟩
    · rintro (⟨heq, rfl⟩ | ⟨hne, -⟩)
      · cases heq
        exact ⟨h.table_eq.trans h.id_eq.symm, h.slotAt_index⟩
      · exact absurd rfl hne
  · have hslot : after.slotAt i = table.slotAt i := h.slotAt_of_ne i hindex
    constructor
    · rintro ⟨ht, hs⟩
      exact Or.inr ⟨hindex, ht.trans h.id_eq, hslot.symm.trans hs⟩
    · rintro (⟨heq, -⟩ | ⟨-, ht, hs⟩)
      · cases heq
        exact absurd rfl hindex
      · exact ⟨ht.trans h.id_eq.symm, hslot.trans hs⟩

/-- A handle that is current in another state than some handle is another one. -/
theorem Holds.ne_of_state_ne {other : ServiceHandle} {old : SlotState} (h : table.Holds handle old)
    (h' : table.Holds other state) (hne : state ≠ old) : other ≠ handle := by
  rintro rfl
  have hslot := h'.2.symm.trans h.2
  exact hne (congrArg Slot.state hslot)

/-- **What is current in another state than a rewritten slot** has been so before, in another slot. -/
theorem Rewrites.holds_iff_of_ne (h : table.Rewrites after handle slot) {old : SlotState}
    (hold : table.Holds handle old) (hne : state ≠ slot.state) {other : ServiceHandle} :
    after.Holds other state ↔ table.Holds other state ∧ other ≠ handle := by
  rw [h.holds_iff]
  constructor
  · rintro (⟨-, rfl⟩ | ⟨hindex, hholds⟩)
    · exact absurd rfl hne
    · exact ⟨hholds, fun heq => hindex (congrArg ServiceHandle.index heq)⟩
  · rintro ⟨hholds, hother⟩
    refine Or.inr ⟨fun hindex => hother ?_, hholds⟩
    exact (hholds.eq_of_index_eq hold hindex).1

/-- In a state that a slot is in neither before nor after it is rewritten, the same is current. -/
theorem Rewrites.holds_iff_of_ne_of_ne (h : table.Rewrites after handle slot) {old : SlotState}
    (hold : table.Holds handle old) (hne : state ≠ slot.state) (hne' : state ≠ old)
    {other : ServiceHandle} : after.Holds other state ↔ table.Holds other state := by
  rw [h.holds_iff_of_ne hold hne]
  exact and_iff_left_of_imp fun hholds => hold.ne_of_state_ne hholds hne'

/-- A slot that is rewritten in its generation leaves all generations, as `Rewrites` leaves every other
slot. -/
theorem Rewrites.generation_eq (h : table.Rewrites after handle slot) {old : SlotState}
    (hold : table.Holds handle old) (hsame : slot.generation = handle.generation) (index : UInt16) :
    (after.slotAt index).generation = (table.slotAt index).generation := by
  by_cases hself : index = handle.index
  · rw [hself, h.slotAt_index, hold.2, hsame]
  · rw [h.slotAt_of_ne index hself]

/-- Changing the slot of a handle rewrites it: `HandleTable.update` applies the function at its index
only. -/
theorem rewrites_update {old : Slot} (htable : handle.table = table.id)
    (hlength : table.slots.length ≤ maxSlots) (hslot : table.slots[handle.index.toNat]? = some old)
    (f : Slot → Slot) : table.Rewrites (table.update handle.index.toNat f) handle (f old) := by
  refine ⟨htable, rfl, ?_, ?_, ?_⟩
  · rw [length_slots_update]
    exact hlength
  · rw [slotAt, List.getD_eq_getElem?_getD, getElem?_update, if_pos rfl, hslot]
    rfl
  · -- Every other slot is at another place of the list.
    intro index hne
    have hne : handle.index.toNat ≠ index.toNat := fun heq => hne (UInt16.toNat_inj.mp heq.symm)
    rw [slotAt, List.getD_eq_getElem?_getD, getElem?_update, if_neg hne, slotAt,
      List.getD_eq_getElem?_getD]

/-- Counting what is opened rewrites no slot, so `Rewrites` carries over to a table with another count. -/
theorem Rewrites.withOpened (h : table.Rewrites after handle slot) (opened : Nat) :
    table.Rewrites { after with opened } handle slot :=
  ⟨h.table_eq, h.id_eq, h.length_slots_le, h.slotAt_index, h.slotAt_of_ne⟩

/-- **Reserving rewrites a vacant slot** and keeps its generation: what `HandleTable.add` gives out names
the slot that was `vacant` and is `pending` now. -/
theorem rewrites_add {kind : HandleKind} {parent : Option ServiceHandle} {pending : PendingService}
    (hlength : table.slots.length ≤ maxSlots) (h : table.add kind parent = .ok (pending, after)) :
    table.Rewrites after pending.handle ⟨pending.handle.generation, .pending kind parent⟩ ∧
      table.Holds pending.handle .vacant := by
  unfold add at h
  dsimp only at h
  split at h
  · -- A vacant slot is used again, in the generation that it is in.
    rename_i index hfind
    obtain ⟨hlt, hvacant, -⟩ := List.findIdx?_eq_some_iff_getElem.mp hfind
    have hindex := toNat_ofNat_of_le_maxSlots (Nat.lt_of_lt_of_le hlt hlength)
    have hslot : table.slots[(UInt16.ofNat index).toNat]? = some table.slots[index] := by
      rw [hindex]
      exact List.getElem?_eq_getElem hlt
    have hstate : table.slots[index].state = .vacant := by
      revert hvacant
      cases table.slots[index].state <;> simp [SlotState.isVacant]
    have hgeneration : (table.slots.getD index {}).generation = table.slots[index].generation := by
      rw [List.getD_eq_getElem?_getD, List.getElem?_eq_getElem hlt, Option.getD_some]
    cases h
    rw [hgeneration]
    refine ⟨?_, ?_⟩
    · have htable : (table.handleAt index table.slots[index].generation).table = table.id := rfl
      have hrewrites := rewrites_update htable hlength hslot
        fun slot => { slot with state := .pending kind parent }
      simp only [handleAt, hindex] at hrewrites
      exact hrewrites
    · refine ⟨rfl, ?_⟩
      rw [slotAt, List.getD_eq_getElem?_getD, handleAt, hslot, Option.getD_some, ← hstate]
  · split at h
    · -- No slot is vacant, and there is room for one more at the end.
      rename_i hroom
      have hlt : table.slots.length < maxSlots := Nat.lt_of_lt_of_le hroom (Nat.min_le_right _ _)
      have hindex := toNat_ofNat_of_le_maxSlots hlt
      cases h
      refine ⟨⟨rfl, rfl, ?_, ?_, ?_⟩, rfl, ?_⟩
      · simpa using Nat.succ_le_of_lt hlt
      · simp [slotAt, handleAt, hindex]
      · intro index hne
        have hne : index.toNat ≠ table.slots.length := by
          rintro heq
          exact hne (UInt16.toNat_inj.mp (heq.trans hindex.symm))
        simp only [slotAt, List.getD_eq_getElem?_getD, List.getElem?_append]
        split
        · rfl
        · rename_i hle
          rw [List.getElem?_eq_none (by simp; omega), List.getElem?_eq_none (by omega)]
      · simp [slotAt, handleAt, hindex]
    · cases h

/-- **Activating rewrites the reserved slot**: `HandleTable.activate` puts the service with the next stamp
where the reservation was. -/
theorem Holds.rewrites_activate {pending : PendingService} {kind : HandleKind}
    {parent : Option ServiceHandle} (h : table.Holds pending.handle (.pending kind parent))
    (hlength : table.slots.length ≤ maxSlots) (engineHandle : UInt32) :
    table.Rewrites (table.activate pending engineHandle).2 pending.handle
      ⟨pending.handle.generation, .active ⟨kind, engineHandle, parent⟩ (table.opened + 1)⟩ := by
  have hslot := (slotAt_eq_iff (by simp)).mp h.2
  exact (rewrites_update h.1 hlength hslot _).withOpened (table.opened + 1)

/-- **Releasing rewrites a slot** to its next generation: after `HandleTable.release` it is `vacant`, and
the handle that was released does not name it. -/
theorem Holds.rewrites_release (h : table.Holds handle state) (hstate : state ≠ .vacant)
    (hlength : table.slots.length ≤ maxSlots) :
    table.Rewrites (table.release handle.index) handle ⟨handle.generation + 1, .vacant⟩ :=
  rewrites_update h.1 hlength ((slotAt_eq_iff hstate).mp h.2) _

end HandleTable

/-! ## (3) Slots and the ledger -/

namespace Ledger

open HandleTable

variable {l after : Ledger}

/-- **What relates the slots of a table to its `Ledger`.** -/
structure Kept (l : Ledger) : Prop where
  length_slots_le : l.table.slots.length ≤ maxSlots
  /-- Generations count releases, and wrap. -/
  generation_eq : ∀ index, (l.table.slotAt index).generation = UInt32.ofNat (l.releases index)
  mem_waiting_iff : ∀ r, r ∈ l.waiting ↔ l.table.Holds r.pending.handle (.pending r.kind r.parent)
  mem_serving_iff : ∀ handle context, (handle, context) ∈ l.serving ↔
    ∃ stamp, l.table.Holds handle (.active context stamp)
  /-- A handle ends by a release of its slot, before which the slot was in its generation. -/
  ended : ∀ handle ∈ l.ended, handle.table = l.table.id ∧
    ∃ number < l.releases handle.index, handle.generation = UInt32.ofNat number
  issued : ∀ handle ∈ l.issued, (∃ r ∈ l.waiting, r.pending.handle = handle) ∨
    (∃ context, (handle, context) ∈ l.serving) ∨ handle ∈ l.ended
  nodup_issued : l.issued.Nodup

/-- **No slot is released so often** that its generations come again: `releases` of every index is less
than `UInt32.size`. -/
def Bounded (l : Ledger) : Prop := ∀ index, l.releases index < UInt32.size

/-- What has ended stays so: a `Step` puts at most one handle in front of those that have ended. -/
theorem Step.ended_suffix (h : l.Step after) : l.ended <:+ after.ended := by
  cases h with
  | reserve | activate | look => exact List.suffix_refl _
  | withdraw | delete => exact List.suffix_cons _ _

/-- No step takes back a release, so `releases` of an index never falls. -/
theorem Step.releases_le (h : l.Step after) (index : UInt16) :
    l.releases index ≤ after.releases index :=
  h.ended_suffix.sublist.countP_le

/-- Below the number of generations, releases are told apart by them: `UInt32.ofNat` does not wrap
there. -/
theorem ofNat_ne {number bound : Nat} (hlt : number < bound) (hbound : bound < UInt32.size) :
    UInt32.ofNat number ≠ UInt32.ofNat bound := by
  intro heq
  have hmod := congrArg UInt32.toNat heq
  rw [UInt32.toNat_ofNat_of_lt' (Nat.lt_trans hlt hbound), UInt32.toNat_ofNat_of_lt' hbound] at hmod
  exact Nat.ne_of_lt hlt hmod

/-- **A handle that has ended is not current**: its generation counts fewer releases than that of its
slot, and `Bounded` keeps the two from being equal. -/
theorem Kept.generation_ne (h : l.Kept) (hbounded : l.Bounded) {handle : ServiceHandle}
    (hended : handle ∈ l.ended) : (l.table.slotAt handle.index).generation ≠ handle.generation := by
  obtain ⟨-, number, hlt, hgeneration⟩ := h.ended handle hended
  rw [h.generation_eq, hgeneration]
  exact (ofNat_ne hlt (hbounded handle.index)).symm

/-- A handle that is current counts the releases of its slot, since `HandleTable.Holds` gives it the
generation of the slot. -/
theorem Kept.generation_of_holds (h : l.Kept) {handle : ServiceHandle} {state : SlotState}
    (hholds : l.table.Holds handle state) :
    handle.generation = UInt32.ofNat (l.releases handle.index) := by
  rw [← h.generation_eq, hholds.2]

/-! ### What a step does to the lists -/

/-- A `Reservation` that is handed back leaves those of other handles. -/
theorem mem_filter_waiting_iff (r : Reservation) (pending : PendingService) :
    r ∈ l.waiting.filter (·.pending != pending) ↔ r ∈ l.waiting ∧ r.pending.handle ≠ pending.handle := by
  rw [List.mem_filter, bne_iff_ne]
  cases r.pending
  cases pending
  simp only [ne_eq, PendingService.mk.injEq]

/-- **A release ends one handle**: the next generation counts one release more, and everything else that
`Kept` says of generations stays. -/
theorem Kept.release (h : l.Kept) {handle : ServiceHandle} {state : SlotState}
    (hholds : l.table.Holds handle state) (hended : after.ended = handle :: l.ended)
    (hrewrites : l.table.Rewrites after.table handle ⟨handle.generation + 1, .vacant⟩) :
    (∀ index, (after.table.slotAt index).generation = UInt32.ofNat (after.releases index)) ∧
      ∀ other ∈ after.ended, other.table = after.table.id ∧
        ∃ number < after.releases other.index, other.generation = UInt32.ofNat number := by
  have hgeneration := h.generation_of_holds hholds
  have hreleases (index : UInt16) :
      after.releases index = l.releases index + if handle.index = index then 1 else 0 := by
    rw [releases, hended, List.countP_cons, releases]
    simp only [beq_iff_eq]
  have hself := hreleases handle.index
  rw [if_pos rfl] at hself
  -- The count of its own slot goes up by one; what ended there before is below it all the more.
  refine ⟨fun index => ?_, fun other hother => ?_⟩
  · by_cases hindex : index = handle.index
    · subst hindex
      rw [hrewrites.slotAt_index, hself, UInt32.ofNat_add, ← hgeneration]
      rfl
    · rw [hrewrites.slotAt_of_ne index hindex, hreleases, if_neg (Ne.symm hindex), Nat.add_zero,
        h.generation_eq]
  · rw [hended] at hother
    rcases List.mem_cons.mp hother with rfl | hother
    · exact ⟨hrewrites.table_eq.trans hrewrites.id_eq.symm, l.releases other.index, by omega,
        hgeneration⟩
    · obtain ⟨htable, number, hlt, hnumber⟩ := h.ended other hother
      have hle := hreleases other.index
      exact ⟨htable.trans hrewrites.id_eq.symm, number, by omega, hnumber⟩

/-- **Ending a handle keeps what relates them**, if it is taken out of the lists. -/
theorem Kept.ends (h : l.Kept) {handle : ServiceHandle} {state : SlotState}
    (hholds : l.table.Holds handle state)
    (hrewrites : l.table.Rewrites after.table handle ⟨handle.generation + 1, .vacant⟩)
    (hissued : after.issued = l.issued) (hended : after.ended = handle :: l.ended)
    (hwaiting : ∀ r, r ∈ after.waiting ↔ r ∈ l.waiting ∧ r.pending.handle ≠ handle)
    (hserving : ∀ other context,
      (other, context) ∈ after.serving ↔ (other, context) ∈ l.serving ∧ other ≠ handle) :
    after.Kept := by
  obtain ⟨hgenerations, hnumbers⟩ := h.release hholds hended hrewrites
  refine ⟨hrewrites.length_slots_le, hgenerations, fun r => ?_, fun other context => ?_, hnumbers,
    fun other hother => ?_, ?_⟩
  · rw [hwaiting, h.mem_waiting_iff, hrewrites.holds_iff_of_ne hholds (by simp)]
  · rw [hserving, h.mem_serving_iff, ← exists_and_right]
    exact exists_congr fun stamp => (hrewrites.holds_iff_of_ne hholds (by simp)).symm
  · rw [hissued] at hother
    by_cases hself : other = handle
    · rw [hself, hended]
      exact Or.inr (Or.inr List.mem_cons_self)
    -- Another handle is where it was.
    rcases h.issued other hother with ⟨r, hr, rfl⟩ | ⟨context, hcontext⟩ | hmem
    · exact Or.inl ⟨r, (hwaiting r).mpr ⟨hr, hself⟩, rfl⟩
    · exact Or.inr (Or.inl ⟨context, (hserving other context).mpr ⟨hcontext, hself⟩⟩)
    · rw [hended]
      exact Or.inr (Or.inr (List.mem_cons_of_mem _ hmem))
  · rw [hissued]
    exact h.nodup_issued

/-! ### Every step keeps what relates them -/

/-- **A handle that is reserved is new**: nothing of its slot is current, and all that has ended there
was of earlier generations. -/
theorem Kept.not_mem_issued (h : l.Kept) (hbounded : l.Bounded) {handle : ServiceHandle}
    (hvacant : l.table.Holds handle .vacant) : handle ∉ l.issued := by
  intro hissued
  rcases h.issued handle hissued with ⟨r, hr, rfl⟩ | ⟨context, hcontext⟩ | hended
  · have hholds := (h.mem_waiting_iff r).mp hr
    exact hvacant.ne_of_state_ne hholds (by simp) rfl
  · obtain ⟨stamp, hholds⟩ := (h.mem_serving_iff handle context).mp hcontext
    exact hvacant.ne_of_state_ne hholds (by simp) rfl
  · exact h.generation_ne hbounded hended (by rw [hvacant.2])

/-- Reserving keeps what relates them, if the handle that is issued is new: `Kept` holds of the ledger
with it in front. -/
theorem Kept.reserve (h : l.Kept) {kind : HandleKind} {parent : Option ServiceHandle}
    {pending : PendingService} {table : HandleTable} (hnew : pending.handle ∉ l.issued)
    (hadd : l.table.add kind parent = .ok (pending, table)) :
    Kept { l with table, issued := pending.handle :: l.issued,
                  waiting := ⟨pending, kind, parent⟩ :: l.waiting } := by
  obtain ⟨hrewrites, hvacant⟩ := rewrites_add h.length_slots_le hadd
  refine ⟨hrewrites.length_slots_le, fun index => ?_, fun r => ?_, fun handle context => ?_,
    fun handle hended => ?_, fun handle hissued => ?_, ?_⟩
  · exact (hrewrites.generation_eq hvacant rfl index).trans (h.generation_eq index)
  · show r ∈ _ :: l.waiting ↔ table.Holds _ _
    rw [hrewrites.holds_iff, List.mem_cons, h.mem_waiting_iff]
    constructor
    · rintro (rfl | hr)
      · exact Or.inl ⟨rfl, rfl⟩
      · -- The slot has been vacant, so another reservation is in another slot.
        have hne := hvacant.ne_of_state_ne hr (by simp)
        exact Or.inr ⟨fun hindex => hne (hr.eq_of_index_eq hvacant hindex).1, hr⟩
    · rintro (⟨hhandle, hstate⟩ | ⟨-, hr⟩)
      · obtain ⟨⟨handle⟩, kind', parent'⟩ := r
        obtain rfl : handle = pending.handle := hhandle
        obtain ⟨rfl, rfl⟩ : kind' = kind ∧ parent' = parent := by simpa using hstate
        exact Or.inl rfl
      · exact Or.inr hr
  · rw [h.mem_serving_iff]
    exact exists_congr fun stamp =>
      (hrewrites.holds_iff_of_ne_of_ne hvacant (by simp) (by simp)).symm
  · obtain ⟨htable, hnumber⟩ := h.ended handle hended
    exact ⟨htable.trans hrewrites.id_eq.symm, hnumber⟩
  · rcases List.mem_cons.mp hissued with rfl | hissued
    · exact Or.inl ⟨_, List.mem_cons_self, rfl⟩
    · refine (h.issued handle hissued).imp_left ?_
      rintro ⟨r, hr, hhandle⟩
      exact ⟨r, List.mem_cons_of_mem _ hr, hhandle⟩
  · exact List.nodup_cons.mpr ⟨hnew, h.nodup_issued⟩

/-- Activating a `Reservation` keeps the ledger in order: what waited is served, under the handle it was
issued. -/
theorem Kept.activate (h : l.Kept) {r : Reservation} {engineHandle : UInt32} {handle : ServiceHandle}
    {table : HandleTable} (hr : r ∈ l.waiting)
    (hactivate : l.table.activate r.pending engineHandle = (handle, table)) :
    Kept { l with table, waiting := l.waiting.filter (·.pending != r.pending),
                  serving := (handle, ⟨r.kind, engineHandle, r.parent⟩) :: l.serving } := by
  have hreserved := (h.mem_waiting_iff r).mp hr
  have hrewrites := hreserved.rewrites_activate h.length_slots_le engineHandle
  obtain rfl : r.pending.handle = handle := congrArg Prod.fst hactivate
  rw [hactivate] at hrewrites
  refine ⟨hrewrites.length_slots_le, fun index => ?_, fun q => ?_, fun other context => ?_,
    fun other hended => ?_, fun other hissued => ?_, h.nodup_issued⟩
  · exact (hrewrites.generation_eq hreserved rfl index).trans (h.generation_eq index)
  · rw [mem_filter_waiting_iff, h.mem_waiting_iff]
    exact (hrewrites.holds_iff_of_ne hreserved (by simp)).symm
  · show _ ∈ _ :: l.serving ↔ ∃ stamp, table.Holds _ _
    simp only [hrewrites.holds_iff, List.mem_cons, h.mem_serving_iff]
    constructor
    · rintro (heq | ⟨stamp, hholds⟩)
      · cases heq
        exact ⟨_, Or.inl ⟨rfl, rfl⟩⟩
      · -- The slot has been reserved, so what is served already is in another one.
        have hne := hreserved.ne_of_state_ne hholds (by simp)
        exact ⟨stamp, Or.inr ⟨fun hindex => hne (hholds.eq_of_index_eq hreserved hindex).1, hholds⟩⟩
    · rintro ⟨stamp, ⟨hother, hstate⟩ | ⟨-, hholds⟩⟩
      · cases hstate
        exact Or.inl (by rw [hother])
      · exact Or.inr ⟨stamp, hholds⟩
  · obtain ⟨htable, hnumber⟩ := h.ended other hended
    exact ⟨htable.trans hrewrites.id_eq.symm, hnumber⟩
  · rcases h.issued other hissued with ⟨q, hq, rfl⟩ | ⟨context, hcontext⟩ | hended
    · by_cases hpending : q.pending = r.pending
      · rw [hpending]
        exact Or.inr (Or.inl ⟨_, List.mem_cons_self⟩)
      · exact Or.inl ⟨q, List.mem_filter.mpr ⟨hq, bne_iff_ne.mpr hpending⟩, rfl⟩
    · exact Or.inr (Or.inl ⟨context, List.mem_cons_of_mem _ hcontext⟩)
    · exact Or.inr (Or.inr hended)

/-- Withdrawing a `Reservation` keeps the ledger in order: its handle has ended without being served. -/
theorem Kept.withdraw (h : l.Kept) {r : Reservation} (hr : r ∈ l.waiting) :
    Kept { l with table := l.table.deletePending r.pending,
                  waiting := l.waiting.filter (·.pending != r.pending),
                  ended := r.pending.handle :: l.ended } := by
  have hreserved := (h.mem_waiting_iff r).mp hr
  have hrewrites : l.table.Rewrites (l.table.deletePending r.pending) r.pending.handle _ :=
    hreserved.rewrites_release (by simp) h.length_slots_le
  -- The slot was pending, so nothing that serves is in it.
  refine h.ends hreserved hrewrites rfl rfl (fun q => mem_filter_waiting_iff q r.pending)
    fun other context => ?_
  refine (and_iff_left_of_imp fun hserving => ?_).symm
  obtain ⟨stamp, hholds⟩ := (h.mem_serving_iff other context).mp hserving
  exact hreserved.ne_of_state_ne hholds (by simp)

/-- Deleting a service keeps the ledger in order: its handle has ended, and its slot has one release
more. -/
theorem Kept.delete (h : l.Kept) {handle : ServiceHandle} {context : ServiceContext}
    {table : HandleTable} (hdelete : l.table.delete handle = .ok (context, table)) :
    Kept { l with table, serving := l.serving.filter (·.1 != handle),
                  ended := handle :: l.ended } := by
  obtain ⟨hresolve, rfl⟩ := delete_eq_ok hdelete
  obtain ⟨stamp, hopened⟩ := resolve_eq_ok_iff.mp hresolve
  have hholds := opened_iff_holds.mp hopened
  have hrewrites := hholds.rewrites_release (by simp) h.length_slots_le
  -- The slot was active, so nothing that waits is in it.
  refine h.ends hholds hrewrites rfl rfl (fun q => ?_) fun other context' => ?_
  · refine (and_iff_left_of_imp fun hwaiting => ?_).symm
    exact hholds.ne_of_state_ne ((h.mem_waiting_iff q).mp hwaiting) (by simp)
  · rw [List.mem_filter, bne_iff_ne]

/-- **Every step keeps what relates slots and ledger**: `Kept` is an invariant of `Step` as long as the
ledger is `Bounded`. -/
theorem Step.kept (hstep : l.Step after) (hbounded : l.Bounded) (h : l.Kept) : after.Kept := by
  cases hstep with
  | reserve hadd =>
    obtain ⟨-, hvacant⟩ := rewrites_add h.length_slots_le hadd
    exact h.reserve (h.not_mem_issued hbounded hvacant) hadd
  | activate hr hactivate => exact h.activate hr hactivate
  | withdraw hr => exact h.withdraw hr
  | delete hdelete => exact h.delete hdelete
  | look => exact h

/-- Nothing has happened to a table that has no slots, so `Kept` holds of it with an empty ledger. -/
theorem kept_new (id : UInt32) (capacity : Nat) : Kept { table := { id, capacity } } := by
  refine ⟨Nat.zero_le _, fun _ => rfl, fun r => ⟨nofun, ?_⟩, fun handle context => ⟨nofun, ?_⟩, nofun,
    nofun, List.nodup_nil⟩
  · rintro ⟨-, hslot⟩
    have hstate := congrArg Slot.state hslot
    simp [slotAt] at hstate
  · rintro ⟨stamp, -, hslot⟩
    have hstate := congrArg Slot.state hslot
    simp [slotAt] at hstate

/-- No `Step` changes the number of a table, by which it tells its handles from those of another. -/
theorem Step.id_eq (hstep : l.Step after) (h : l.Kept) : after.table.id = l.table.id := by
  -- No step renames a table.
  cases hstep with
  | reserve hadd => exact (rewrites_add h.length_slots_le hadd).1.id_eq
  | activate hr hactivate =>
    obtain rfl := congrArg Prod.snd hactivate
    rfl
  | withdraw hr => rfl
  | delete hdelete =>
    obtain ⟨-, rfl⟩ := delete_eq_ok hdelete
    rfl
  | look => rfl

/-- The table that a handle was issued by is written into it, and stays there whatever becomes of the
handle. -/
theorem Kept.table_eq (h : l.Kept) {handle : ServiceHandle} (hissued : handle ∈ l.issued) :
    handle.table = l.table.id := by
  rcases h.issued handle hissued with ⟨r, hr, rfl⟩ | ⟨context, hcontext⟩ | hended
  · exact ((h.mem_waiting_iff r).mp hr).1
  · obtain ⟨stamp, hholds⟩ := (h.mem_serving_iff handle context).mp hcontext
    exact hholds.1
  · exact (h.ended handle hended).1

end Ledger

end SecureEngine
