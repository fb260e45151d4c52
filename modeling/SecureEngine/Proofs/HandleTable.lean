import SecureEngine.HandleTable

/-! # The life of a slot

* **`HandleTable.Opened`** — a handle stands for an open service, which was the n-th to open;
  exactly these handles resolve (`resolve_eq_ok_iff`).
* **`HandleTable.Reserved`** — a slot waits for the outcome of an opening.
* **`HandleTable.WellFormed`** — times of opening are distinct and past.
* For each step in the life of a slot, what is open after it: `add_spec`, `activate_spec`,
  `deletePending_spec`, `delete_spec`.
* **`HandleTable.mem_newestFirst`**, **`pairwise_newestFirst`** — the open services, each once and
  by decreasing time of opening. -/

namespace SecureEngine.HandleTable

/-! ## (1) What is open -/

/-- **A handle stands for an open service**, which was the `stamp`-th to open. -/
def Opened (table : HandleTable) (handle : ServiceHandle) (context : ServiceContext) (stamp : Nat) :
    Prop :=
  handle.table = table.id ∧
    table.slots[handle.index.toNat]? = some ⟨handle.generation, .active context stamp⟩

/-- **A slot is reserved** for a service that is being opened: it is `pending`, in the generation that the
handle names. -/
def Reserved (table : HandleTable) (pending : PendingService) (kind : HandleKind)
    (parent : Option ServiceHandle) : Prop :=
  pending.handle.table = table.id ∧
    table.slots[pending.handle.index.toNat]? =
      some ⟨pending.handle.generation, .pending kind parent⟩

/-- **A table as its operations leave it**: slots that a handle can number, and stamps that tell the open
services apart. -/
structure WellFormed (table : HandleTable) : Prop where
  /-- Every slot has an index. -/
  length_slots_le : table.slots.length ≤ maxSlots
  /-- What is open was opened. -/
  stamp_le : ∀ handle context stamp, table.Opened handle context stamp → stamp ≤ table.opened
  /-- The first service to open is the first. -/
  stamp_pos : ∀ handle context stamp, table.Opened handle context stamp → 0 < stamp
  /-- No two services opened at once. -/
  handle_eq : ∀ handle context other context' stamp, table.Opened handle context stamp →
    table.Opened other context' stamp → handle = other

variable {table : HandleTable}

/-- A handle stands for one service: its slot has one `SlotState`. -/
theorem Opened.unique {handle : ServiceHandle} {c c' : ServiceContext} {n n' : Nat}
    (h : table.Opened handle c n) (h' : table.Opened handle c' n') : c = c' ∧ n = n' := by
  have heq := h.2.symm.trans h'.2
  simpa using heq

/-- Open services are in different slots: two handles with `Opened` in one slot have its generation, and
are equal. -/
theorem Opened.eq_of_index_eq {handle other : ServiceHandle} {c c' : ServiceContext} {n n' : Nat}
    (h : table.Opened handle c n) (h' : table.Opened other c' n') (hi : handle.index = other.index) :
    handle = other := by
  obtain ⟨t, i, g⟩ := handle
  obtain ⟨t', i', g'⟩ := other
  obtain rfl : i = i' := hi
  -- Both read the same slot, which has one generation.
  have heq := h.2.symm.trans h'.2
  have hg : g = g' := by
    simp at heq
    exact heq.1
  have ht : t = t' := h.1.trans h'.1.symm
  rw [hg, ht]

/-- **The handles that resolve are those of open services**: `HandleTable.resolve` gives what `Opened`
says they stand for. -/
theorem resolve_eq_ok_iff {handle : ServiceHandle} {context : ServiceContext} :
    table.resolve handle = .ok context ↔ ∃ stamp, table.Opened handle context stamp := by
  unfold resolve Opened
  -- A handle resolves through one slot, which must be active and of its generation.
  constructor
  · intro h
    split at h
    · cases h
    rename_i ht
    split at h
    · rename_i slot hslot
      split at h
      · rename_i c stamp hstate
        split at h
        · rename_i hg
          cases h
          obtain ⟨g, state⟩ := slot
          obtain rfl : state = .active context stamp := hstate
          obtain rfl : g = handle.generation := hg
          exact ⟨stamp, Decidable.not_not.mp ht, hslot⟩
        · cases h
      · cases h
    · cases h
  · rintro ⟨stamp, ht, hslot⟩
    rw [if_neg (Decidable.not_not.mpr ht), hslot]
    simp

/-- A handle of a given kind resolves just if it stands for an open service of that kind. -/
theorem resolveKind_eq_ok_iff {handle : ServiceHandle} {kind : HandleKind} {address : UInt32} :
    table.resolveKind handle kind = .ok address ↔
      ∃ context stamp, table.Opened handle context stamp ∧ context.kind = kind ∧
        context.engineHandle = address := by
  unfold resolveKind
  constructor
  · intro h
    cases hr : table.resolve handle with
    | error e => rw [hr] at h; cases h
    | ok context =>
      rw [hr] at h
      obtain ⟨stamp, hopened⟩ := resolve_eq_ok_iff.mp hr
      -- A handle that resolves is refused when it is of another kind.
      by_cases hk : context.kind = kind
      · simp [bind, Except.bind, hk, pure, Except.pure] at h
        exact ⟨context, stamp, hopened, hk, h⟩
      · simp [bind, Except.bind, hk, throw, throwThe, MonadExceptOf.throw] at h
  · rintro ⟨context, stamp, hopened, hk, ha⟩
    rw [resolve_eq_ok_iff.mpr ⟨stamp, hopened⟩]
    simp [bind, Except.bind, hk, ha, pure, Except.pure]

/-- A look-up that fails finds the handle unknown: `HandleTable.resolve` has no other error. -/
theorem resolve_error {handle : ServiceHandle} {e : ClientError}
    (h : table.resolve handle = .error e) : e = .unknownHandle := by
  unfold resolve at h
  repeat' split at h
  all_goals cases h
  all_goals rfl

/-- `resolveKind` has one error for unknown handles and for those of another kind. -/
theorem resolveKind_error {handle : ServiceHandle} {kind : HandleKind} {e : ClientError}
    (h : table.resolveKind handle kind = .error e) : e = .unknownHandle := by
  unfold resolveKind at h
  cases hr : table.resolve handle with
  | error e' =>
    rw [hr] at h
    cases h
    exact resolve_error hr
  | ok context =>
    rw [hr] at h
    by_cases hk : context.kind = kind
    · simp [bind, Except.bind, hk, pure, Except.pure] at h
    · simpa [bind, Except.bind, hk, throw, throwThe, MonadExceptOf.throw] using h.symm

/-! ## (2) Reserving, opening and releasing -/

/-- Nothing is open in a table without slots, because `Opened` asks for an `active` one. -/
theorem not_opened_of_slots_eq_nil (h : table.slots = []) (handle : ServiceHandle)
    (context : ServiceContext) (stamp : Nat) : ¬table.Opened handle context stamp := by
  rintro ⟨-, hslot⟩
  rw [h] at hslot
  cases hslot

/-- A table starts without slots, and is `WellFormed` then, whatever its number and its capacity. -/
theorem wellFormed_of_slots_eq_nil (h : table.slots = []) : table.WellFormed where
  length_slots_le := by rw [h]; exact Nat.zero_le _
  stamp_le _ _ _ ho := absurd ho (not_opened_of_slots_eq_nil h _ _ _)
  stamp_pos _ _ _ ho := absurd ho (not_opened_of_slots_eq_nil h _ _ _)
  handle_eq _ _ _ _ _ ho _ := absurd ho (not_opened_of_slots_eq_nil h _ _ _)

/-- Changing a slot changes no other: `HandleTable.update` applies the function at its index, if there is
a slot. -/
theorem getElem?_update (index j : Nat) (f : Slot → Slot) :
    (table.update index f).slots[j]? =
      if index = j then table.slots[j]?.map f else table.slots[j]? := by
  rw [update, List.getElem?_modify]
  split <;> simp [*]

/-- `update` changes one slot, and not how many there are. -/
@[simp] theorem length_slots_update (index : Nat) (f : Slot → Slot) :
    (table.update index f).slots.length = table.slots.length := by
  rw [update, List.length_modify]

/-- `update` leaves the number of the table as it is. -/
@[simp] theorem id_update (index : Nat) (f : Slot → Slot) :
    (table.update index f).id = table.id := rfl

/-- `update` does not count an opening. -/
@[simp] theorem opened_update (index : Nat) (f : Slot → Slot) :
    (table.update index f).opened = table.opened := rfl

/-- Nothing is open in a slot that is not active: `SlotState.context?` of that slot would have the
service. -/
theorem Opened.index_ne {handle : ServiceHandle} {context : ServiceContext} {stamp index : Nat}
    {slot : Slot} (h : table.Opened handle context stamp) (hslot : table.slots[index]? = some slot)
    (hstate : slot.state.context? = none) : index ≠ handle.index.toNat := by
  rintro rfl
  obtain rfl : _ = slot := Option.some.inj (h.2.symm.trans hslot)
  cases hstate

/-- A change that leaves a slot inactive that was inactive opens and closes nothing. -/
theorem opened_update_iff {index : Nat} {f : Slot → Slot} {slot : Slot}
    (hslot : table.slots[index]? = some slot) (hstate : slot.state.context? = none)
    (hf : (f slot).state.context? = none) (handle : ServiceHandle) (context : ServiceContext)
    (stamp : Nat) :
    (table.update index f).Opened handle context stamp ↔ table.Opened handle context stamp := by
  -- The slot holds no context before or after, so whatever is open stands at another index.
  constructor
  · rintro ⟨ht, h⟩
    rw [getElem?_update] at h
    split at h
    · rename_i hi
      rw [← hi, hslot] at h
      cases Option.some.inj h ▸ hf
    · exact ⟨ht, h⟩
  · intro h
    refine ⟨h.1, ?_⟩
    rw [getElem?_update, if_neg (h.index_ne hslot hstate)]
    exact h.2

/-- A new slot that is not active opens nothing: `Opened` says the same of the table with it at the
end. -/
theorem opened_append_iff {slot : Slot} (hstate : slot.state.context? = none)
    (handle : ServiceHandle) (context : ServiceContext) (stamp : Nat) :
    Opened { table with slots := table.slots ++ [slot] } handle context stamp ↔
      table.Opened handle context stamp := by
  constructor
  · -- The new slot has no context, so what is open was in the list before.
    intro h
    refine ⟨h.1, ?_⟩
    have hne := h.index_ne List.getElem?_concat_length hstate
    have hlt := (List.getElem?_eq_some_iff.mp h.2).1
    simp only [List.length_append, List.length_singleton] at hlt
    rw [← h.2, List.getElem?_append_left (by omega)]
  · rintro ⟨ht, hs⟩
    exact ⟨ht, by rw [List.getElem?_append_left (List.getElem?_eq_some_iff.mp hs).1, hs]⟩

/-- Tables with the same services open are `WellFormed` together, if slots and stamps stay within their
bounds. -/
theorem WellFormed.congr {other : HandleTable} (h : table.WellFormed)
    (hl : other.slots.length ≤ maxSlots) (ho : table.opened ≤ other.opened)
    (hopened : ∀ handle context stamp, other.Opened handle context stamp →
      table.Opened handle context stamp) : other.WellFormed where
  length_slots_le := hl
  stamp_le _ _ _ hh := Nat.le_trans (h.stamp_le _ _ _ (hopened _ _ _ hh)) ho
  stamp_pos _ _ _ hh := h.stamp_pos _ _ _ (hopened _ _ _ hh)
  handle_eq _ _ _ _ _ h₁ h₂ := h.handle_eq _ _ _ _ _ (hopened _ _ _ h₁) (hopened _ _ _ h₂)

/-- An index of a slot is not cut off in a handle, since no index reaches `UInt16.size`. -/
theorem toNat_ofNat_of_le_maxSlots {index : Nat} (h : index < maxSlots) :
    (UInt16.ofNat index).toNat = index := by
  have hm : maxSlots = 65535 := rfl
  rw [UInt16.toNat_ofNat']
  omega

/-- **Reserving a slot opens and closes nothing**: after `HandleTable.add` the slot is `Reserved`, and
`Opened` holds just where it held before. -/
theorem add_spec {kind : HandleKind} {parent : Option ServiceHandle} {pending : PendingService}
    {after : HandleTable} (hwf : table.WellFormed)
    (h : table.add kind parent = .ok (pending, after)) :
    after.WellFormed ∧ after.Reserved pending kind parent ∧ after.opened = table.opened ∧
      after.id = table.id ∧ ∀ handle context stamp,
        after.Opened handle context stamp ↔ table.Opened handle context stamp := by
  unfold add at h
  dsimp only at h
  split at h
  · rename_i index hfind
    obtain ⟨hlt, hvacant, -⟩ := List.findIdx?_eq_some_iff_getElem.mp hfind
    -- A vacant slot is reused; nothing was open in it.
    have hslot : table.slots[index]? = some table.slots[index] := List.getElem?_eq_getElem hlt
    have hstate : table.slots[index].state.context? = none := by
      revert hvacant
      cases table.slots[index].state <;> simp [SlotState.isVacant, SlotState.context?]
    have hindex := toNat_ofNat_of_le_maxSlots (Nat.lt_of_lt_of_le hlt hwf.length_slots_le)
    cases h
    have hopened := opened_update_iff hslot hstate
      (f := fun slot => { slot with state := .pending kind parent }) rfl
    refine ⟨hwf.congr (by simpa using hwf.length_slots_le) (Nat.le_refl _)
      fun _ _ _ => (hopened _ _ _).mp, ⟨rfl, ?_⟩, rfl, rfl, hopened⟩
    show (table.update index _).slots[(UInt16.ofNat index).toNat]? = _
    rw [hindex, getElem?_update, if_pos rfl, hslot, List.getD_eq_getElem?_getD, hslot]
    rfl
  · split at h
    · rename_i hroom
      -- No slot is vacant, and one more is appended.
      have hlt : table.slots.length < maxSlots := Nat.lt_of_lt_of_le hroom (Nat.min_le_right _ _)
      have hindex := toNat_ofNat_of_le_maxSlots hlt
      cases h
      have hopened (handle context stamp) :
          Opened { table with slots := table.slots ++ [⟨0, .pending kind parent⟩] } handle context
            stamp ↔ table.Opened handle context stamp :=
        opened_append_iff rfl handle context stamp
      refine ⟨hwf.congr (by simpa using Nat.succ_le_of_lt hlt) (Nat.le_refl _)
        fun _ _ _ => (hopened _ _ _).mp, ⟨rfl, ?_⟩, rfl, rfl, hopened⟩
      show (table.slots ++ [_])[(UInt16.ofNat table.slots.length).toNat]? = _
      rw [hindex, List.getElem?_concat_length]
      rfl
    · cases h

/-- Reserving fails for want of room only: the one error of `HandleTable.add` is `outOfHandles`. -/
theorem add_error {kind : HandleKind} {parent : Option ServiceHandle} {e : ClientError}
    (h : table.add kind parent = .error e) : e = .outOfHandles := by
  unfold add at h
  dsimp only at h
  repeat' split at h
  all_goals cases h
  rfl

/-- Activating a `Reserved` slot opens its service and no other. -/
theorem opened_activate_iff {pending : PendingService} {kind : HandleKind}
    {parent : Option ServiceHandle} (h : table.Reserved pending kind parent) (engineHandle : UInt32)
    (handle : ServiceHandle) (context : ServiceContext) (stamp : Nat) :
    (table.activate pending engineHandle).2.Opened handle context stamp ↔
      (handle = pending.handle ∧ context = ⟨kind, engineHandle, parent⟩ ∧
        stamp = table.opened + 1) ∨ table.Opened handle context stamp := by
  have hself : ((table.activate pending engineHandle).2).Opened pending.handle
      ⟨kind, engineHandle, parent⟩ (table.opened + 1) := by
    refine ⟨h.1, ?_⟩
    show (table.update _ _).slots[_]? = _
    rw [getElem?_update, if_pos rfl, h.2]
    rfl
  by_cases hi : handle.index = pending.handle.index
  · -- In the reserved slot there is the new service, and there was nothing before.
    constructor
    · intro hh
      obtain rfl := hh.eq_of_index_eq hself hi
      exact Or.inl ⟨rfl, hh.unique hself⟩
    · rintro (⟨rfl, rfl, rfl⟩ | hh)
      · exact hself
      · exact absurd (by rw [hi]) (hh.index_ne h.2 rfl)
  · -- The other slots are as they were.
    have hi' : pending.handle.index.toNat ≠ handle.index.toNat :=
      fun heq => hi (UInt16.toNat_inj.mp heq.symm)
    have hslots : (table.activate pending engineHandle).2.slots[handle.index.toNat]? =
        table.slots[handle.index.toNat]? := by
      show (table.update _ _).slots[_]? = _
      rw [getElem?_update, if_neg hi']
    constructor
    · rintro ⟨ht, hs⟩
      exact Or.inr ⟨ht, hslots ▸ hs⟩
    · rintro (⟨rfl, -, -⟩ | ⟨ht, hs⟩)
      · exact absurd rfl hi
      · exact ⟨ht, hslots.trans hs⟩

/-- **A `Reserved` slot becomes active.** It opens later than all that is open. -/
theorem activate_spec {pending : PendingService} {kind : HandleKind}
    {parent : Option ServiceHandle} (hwf : table.WellFormed)
    (h : table.Reserved pending kind parent) (engineHandle : UInt32) :
    (table.activate pending engineHandle).1 = pending.handle ∧
      (table.activate pending engineHandle).2.WellFormed ∧
      (table.activate pending engineHandle).2.opened = table.opened + 1 ∧
      (table.activate pending engineHandle).2.id = table.id ∧
      ∀ handle context stamp, (table.activate pending engineHandle).2.Opened handle context stamp ↔
        (handle = pending.handle ∧ context = ⟨kind, engineHandle, parent⟩ ∧
          stamp = table.opened + 1) ∨ table.Opened handle context stamp := by
  have hopened := opened_activate_iff h engineHandle
  refine ⟨rfl, ⟨?_, ?_, ?_, ?_⟩, rfl, rfl, hopened⟩
  · show (table.update _ _).slots.length ≤ _
    rw [length_slots_update]
    exact hwf.length_slots_le
  · intro handle context stamp hh
    show stamp ≤ table.opened + 1
    rcases (hopened _ _ _).mp hh with ⟨-, -, rfl⟩ | hh
    · exact Nat.le_refl _
    · exact Nat.le_succ_of_le (hwf.stamp_le _ _ _ hh)
  · intro handle context stamp hh
    rcases (hopened _ _ _).mp hh with ⟨-, -, rfl⟩ | hh
    · exact Nat.succ_pos _
    · exact hwf.stamp_pos _ _ _ hh
  · -- The new service has a later stamp than any other.
    intro handle c other c' stamp h₁ h₂
    rcases (hopened _ _ _).mp h₁ with ⟨rfl, -, rfl⟩ | h₁ <;>
      rcases (hopened _ _ _).mp h₂ with ⟨rfl, -, hs⟩ | h₂
    · rfl
    · exact absurd (hwf.stamp_le _ _ _ h₂) (Nat.not_succ_le_self _)
    · exact absurd (hwf.stamp_le _ _ _ h₁) (by omega)
    · exact hwf.handle_eq _ _ _ _ _ h₁ h₂

/-- **A `Reserved` slot is given back**, and nothing else changes. -/
theorem deletePending_spec {pending : PendingService} {kind : HandleKind}
    {parent : Option ServiceHandle} (hwf : table.WellFormed)
    (h : table.Reserved pending kind parent) :
    (table.deletePending pending).WellFormed ∧ (table.deletePending pending).opened = table.opened ∧
      (table.deletePending pending).id = table.id ∧
      ∀ handle context stamp, (table.deletePending pending).Opened handle context stamp ↔
        table.Opened handle context stamp := by
  have hopened := opened_update_iff h.2 rfl
    (f := fun slot => { generation := slot.generation + 1, state := .vacant }) rfl
  exact ⟨hwf.congr (by simpa [deletePending, release] using hwf.length_slots_le) (Nat.le_refl _)
    fun _ _ _ => (hopened _ _ _).mp, rfl, rfl, hopened⟩

/-- Forgetting releases the slot of a handle that resolves: `HandleTable.delete` is `resolve` and then
`release`. -/
theorem delete_eq_ok {handle : ServiceHandle} {context : ServiceContext} {after : HandleTable}
    (h : table.delete handle = .ok (context, after)) :
    table.resolve handle = .ok context ∧ after = table.release handle.index := by
  unfold delete at h
  cases hr : table.resolve handle with
  | error e =>
    rw [hr] at h
    cases h
  | ok c =>
    rw [hr] at h
    cases h
    exact ⟨rfl, rfl⟩

/-- Releasing the slot of an open service closes it and no other: `Opened` holds afterwards for all other
handles that it held for. -/
theorem opened_release_iff {handle : ServiceHandle} {context : ServiceContext} {stamp : Nat}
    (h : table.Opened handle context stamp) (other : ServiceHandle) (context' : ServiceContext)
    (stamp' : Nat) : (table.release handle.index).Opened other context' stamp' ↔
      table.Opened other context' stamp' ∧ other ≠ handle := by
  -- Releasing changes one slot, which `handle` alone was open in.
  have hslots : (table.release handle.index).slots[other.index.toNat]? =
      if handle.index.toNat = other.index.toNat then some ⟨handle.generation + 1, .vacant⟩
      else table.slots[other.index.toNat]? := by
    rw [release, getElem?_update]
    split
    · rename_i hi
      rw [← hi, h.2]
      rfl
    · rfl
  constructor
  · rintro ⟨ht, hs⟩
    rw [hslots] at hs
    split at hs
    · simp at hs
    · rename_i hi
      exact ⟨⟨ht, hs⟩, fun heq => hi (by rw [heq])⟩
  · rintro ⟨ho, hne⟩
    refine ⟨ho.1, ?_⟩
    rw [hslots, if_neg fun hi => hne (ho.eq_of_index_eq h (UInt16.toNat_inj.mp hi).symm)]
    exact ho.2

/-- **Forgetting an open service** forgets no other: `HandleTable.delete` removes one handle from `Opened`
and leaves number and stamps. -/
theorem delete_spec {handle : ServiceHandle} {context : ServiceContext} {after : HandleTable}
    (hwf : table.WellFormed) (h : table.delete handle = .ok (context, after)) :
    (∃ stamp, table.Opened handle context stamp) ∧ after.WellFormed ∧ after.opened = table.opened ∧
      after.id = table.id ∧ ∀ other context' stamp', after.Opened other context' stamp' ↔
        table.Opened other context' stamp' ∧ other ≠ handle := by
  obtain ⟨hr, rfl⟩ := delete_eq_ok h
  obtain ⟨stamp, hh⟩ := resolve_eq_ok_iff.mp hr
  have hopened := opened_release_iff hh
  refine ⟨⟨stamp, hh⟩, ?_, rfl, rfl, hopened⟩
  exact hwf.congr (by simpa [release] using hwf.length_slots_le) (Nat.le_refl _)
    fun _ _ _ ho => ((hopened _ _ _).mp ho).1

/-- Forgetting fails only for handles that do not resolve, and the error of `HandleTable.delete` is then
`unknownHandle`. -/
theorem delete_error {handle : ServiceHandle} {e : ClientError}
    (h : table.delete handle = .error e) :
    e = .unknownHandle ∧ ∀ context stamp, ¬table.Opened handle context stamp := by
  unfold delete at h
  cases hr : table.resolve handle with
  | error e' =>
    rw [hr] at h
    cases h
    refine ⟨resolve_error hr, fun context stamp ho => ?_⟩
    rw [resolve_eq_ok_iff.mpr ⟨stamp, ho⟩] at hr
    cases hr
  | ok c => rw [hr] at h; cases h

/-! ## (3) The open services in order -/

/-- The activations are the open services with their times: `HandleTable.activations` lists just the pairs
for which `Opened` holds. -/
theorem mem_activations (hwf : table.WellFormed) {stamp : Nat} {handle : ServiceHandle} :
    (stamp, handle) ∈ table.activations ↔ ∃ context, table.Opened handle context stamp := by
  unfold activations
  rw [List.mem_filterMap]
  constructor
  · rintro ⟨⟨slot, index⟩, hmem, h⟩
    -- Only an active slot is listed, with the index it has in the table.
    have hslot := List.mk_mem_zipIdx_iff_getElem?.mp hmem
    have hlt := (List.getElem?_eq_some_iff.mp hslot).1
    obtain ⟨g, state⟩ := slot
    cases state with
    | vacant | pending => cases h
    | active context n =>
      cases h
      refine ⟨context, rfl, ?_⟩
      show table.slots[(UInt16.ofNat index).toNat]? = _
      rw [toNat_ofNat_of_le_maxSlots (Nat.lt_of_lt_of_le hlt hwf.length_slots_le), hslot]
      rfl
  · rintro ⟨context, ht, hslot⟩
    refine ⟨(_, handle.index.toNat), List.mk_mem_zipIdx_iff_getElem?.mpr hslot, ?_⟩
    obtain ⟨t, i, g⟩ := handle
    obtain rfl : t = table.id := ht
    simp [handleAt]

/-- Activations are of different slots, so `HandleTable.activations` names no handle twice. -/
theorem pairwise_activations (hwf : table.WellFormed) :
    table.activations.Pairwise fun a b => a.2 ≠ b.2 := by
  unfold activations
  rw [List.pairwise_filterMap]
  have hindex : table.slots.zipIdx.Pairwise fun a b => a.2 ≠ b.2 := by
    rw [← List.pairwise_map (f := Prod.snd) (R := (· ≠ ·)), List.zipIdx_map_snd]
    exact List.nodup_range'
  refine hindex.imp_of_mem ?_
  rintro ⟨⟨g, state⟩, i⟩ ⟨⟨g', state'⟩, j⟩ hi hj hne ⟨n, handle⟩ h ⟨n', other⟩ h' rfl
  -- Indices fit a word, so two handles with one index stand at one place of the list.
  have hlt {slot : Slot} {k : Nat} (hk : (slot, k) ∈ table.slots.zipIdx) : k < maxSlots :=
    Nat.lt_of_lt_of_le
      (List.getElem?_eq_some_iff.mp (List.mk_mem_zipIdx_iff_getElem?.mp hk)).1 hwf.length_slots_le
  cases state <;> cases state' <;> simp [handleAt] at h h'
  refine hne ?_
  rw [← toNat_ofNat_of_le_maxSlots (hlt hi), ← toNat_ofNat_of_le_maxSlots (hlt hj)]
  obtain ⟨-, rfl⟩ := h
  have hindex := congrArg ServiceHandle.index h'.2
  exact (congrArg UInt16.toNat hindex).symm

/-- **The open services are listed by `newestFirst`.** -/
theorem mem_newestFirst (hwf : table.WellFormed) {handle : ServiceHandle} :
    handle ∈ table.newestFirst ↔ ∃ context stamp, table.Opened handle context stamp := by
  unfold newestFirst
  rw [List.mem_map]
  constructor
  · rintro ⟨⟨stamp, _⟩, hmem, rfl⟩
    obtain ⟨context, h⟩ := (mem_activations hwf).mp (List.mem_mergeSort.mp hmem)
    exact ⟨context, stamp, h⟩
  · rintro ⟨context, stamp, h⟩
    exact ⟨(stamp, handle), List.mem_mergeSort.mpr ((mem_activations hwf).mpr ⟨context, h⟩), rfl⟩

/-- **They are listed by decreasing time of opening**, and therefore each once: `HandleTable.newestFirst`
is sorted by the stamps of `Opened`. -/
theorem pairwise_newestFirst (hwf : table.WellFormed) :
    table.newestFirst.Pairwise fun a b => ∀ c n c' n', table.Opened a c n →
      table.Opened b c' n' → n' < n := by
  unfold newestFirst
  rw [List.pairwise_map]
  -- The list is sorted by stamps, which are never the same for two handles: so it descends strictly.
  have hsorted : (table.activations.mergeSort fun a b => b.1 ≤ a.1).Pairwise
      fun a b => decide (b.1 ≤ a.1) = true :=
    List.pairwise_mergeSort (by intro a b c; simp; omega) (by intro a b; simp; omega) _
  have hne : (table.activations.mergeSort fun a b => b.1 ≤ a.1).Pairwise fun a b => a.2 ≠ b.2 :=
    ((List.mergeSort_perm _ _).pairwise_iff Ne.symm).mpr (pairwise_activations hwf)
  refine (hsorted.and hne).imp_of_mem ?_
  rintro ⟨m, a⟩ ⟨m', b⟩ ha hb ⟨hle, hab⟩ c n c' n' h h'
  obtain ⟨_, ha⟩ := (mem_activations hwf).mp (List.mem_mergeSort.mp ha)
  obtain ⟨_, hb⟩ := (mem_activations hwf).mp (List.mem_mergeSort.mp hb)
  obtain rfl := (ha.unique h).2
  obtain rfl := (hb.unique h').2
  refine Nat.lt_of_le_of_ne (of_decide_eq_true hle) fun heq => hab ?_
  exact hwf.handle_eq _ _ _ _ _ h (heq ▸ h')

/-- A table in which nothing is open has no open service: `HandleTable.size` counts none. -/
theorem size_eq_zero (hwf : table.WellFormed)
    (hnone : ∀ handle context stamp, ¬table.Opened handle context stamp) : table.size = 0 := by
  unfold size
  rw [List.length_eq_zero_iff, List.filter_eq_nil_iff]
  rintro ⟨g, state⟩ hmem hactive
  obtain ⟨i, hi⟩ := List.mem_iff_getElem?.mp hmem
  cases state with
  | vacant | pending => cases hactive
  -- An active slot would be open under the handle made of its index and generation.
  | active context stamp =>
    have hlt := (List.getElem?_eq_some_iff.mp hi).1
    refine hnone ⟨table.id, UInt16.ofNat i, g⟩ context stamp ⟨rfl, ?_⟩
    show table.slots[(UInt16.ofNat i).toNat]? = _
    rw [toNat_ofNat_of_le_maxSlots (Nat.lt_of_lt_of_le hlt hwf.length_slots_le), hi]

/-- In a table in which nothing is open no handle resolves: `HandleTable.resolve` gives `unknownHandle`
for each. -/
theorem resolve_eq_error (hnone : ∀ handle context stamp, ¬table.Opened handle context stamp)
    (handle : ServiceHandle) : table.resolve handle = .error .unknownHandle := by
  cases h : table.resolve handle with
  | error e => rw [resolve_error h]
  | ok context =>
    obtain ⟨stamp, ho⟩ := resolve_eq_ok_iff.mp h
    exact absurd ho (hnone _ _ _)

end SecureEngine.HandleTable
