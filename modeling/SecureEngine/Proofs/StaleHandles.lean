import SecureEngine.Proofs.HandleLedger

/-! # Stale and foreign handles

Many tables issue handles at once, and each of them uses its slots again. A handle that has been closed,
or that is of another table, still never stands for something else.

* **`Ledgers.Grown`** — tables that come about from nothing, whatever is done with them in any order.
* **`Ledgers.Faithful`** — which handles the tables know, by what has been done with them.
* **`Ledgers.faithful`** — it holds as long as there are fewer tables than identifiers and no slot is
  released as often as there are generations. -/

namespace SecureEngine

/-! ## (1) Many tables -/

/-- **What may happen to tables**: one is created, with the next identifier, or something is done with
one of them. -/
inductive Ledgers.Step (ls : List Ledger) : List Ledger → Prop
  | create (capacity : Nat) :
      Step ls (ls ++ [{ table := { id := UInt32.ofNat (ls.length + 1), capacity } }])
  | act {i : Nat} {l after : Ledger} (hl : ls[i]? = some l) (hstep : l.Step after) :
      Step ls (ls.set i after)

/-- **Tables that have come about** by any number of steps of `Ledgers.Step`, from none. -/
inductive Ledgers.Grown : List Ledger → Prop
  | none : Grown []
  | step {ls after : List Ledger} (h : Grown ls) (hstep : Ledgers.Step ls after) : Grown after

/-- **A table does not know a handle**: it neither resolves it nor lets it be deleted. -/
def HandleTable.Ignores (table : HandleTable) (handle : ServiceHandle) : Prop :=
  table.resolve handle = .error .unknownHandle ∧ table.delete handle = .error .unknownHandle

/-- A table ignores a handle that no active slot of it has: without `Holds`, `resolve` and `delete` find
it unknown. -/
theorem HandleTable.ignores_of_not_holds {table : HandleTable} {handle : ServiceHandle}
    (h : ∀ context stamp, ¬table.Holds handle (.active context stamp)) : table.Ignores handle := by
  -- Deleting resolves first, so it fails with resolving.
  have hresolve : table.resolve handle = .error .unknownHandle := by
    cases hresult : table.resolve handle with
    | error e => rw [resolve_error hresult]
    | ok context =>
      obtain ⟨stamp, hopened⟩ := resolve_eq_ok_iff.mp hresult
      exact absurd (opened_iff_holds.mp hopened) (h context stamp)
  refine ⟨hresolve, ?_⟩
  rw [delete, hresolve]
  rfl

namespace Ledgers

open HandleTable

variable {ls : List Ledger}

/-! ## (2) What the tables know -/

/-- **Tables and their ledgers agree**: each handle is resolved, or unknown, in every table as the
`Ledger` that issued it has it. -/
structure Faithful (ls : List Ledger) : Prop where
  /-- A handle that has been deleted, or withdrawn before it was activated, is unknown everywhere. -/
  ended : ∀ l ∈ ls, ∀ handle ∈ l.ended, ∀ other ∈ ls, other.table.Ignores handle
  /-- So is one that has been reserved and not been activated. -/
  waiting : ∀ l ∈ ls, ∀ r ∈ l.waiting, ∀ other ∈ ls, other.table.Ignores r.pending.handle
  /-- No table knows the handles of another. -/
  foreign : ∀ (i j : Nat) (l other : Ledger), ls[i]? = some l → ls[j]? = some other → i ≠ j →
    ∀ handle ∈ l.issued, other.table.Ignores handle
  /-- No handle is issued twice. -/
  nodup_issued : (ls.flatMap Ledger.issued).Nodup
  /-- A table resolves the handles that have been activated and not been deleted since, and no others,
  to what was recorded for them. -/
  resolve_eq_ok_iff : ∀ l ∈ ls, ∀ handle context,
    l.table.resolve handle = .ok context ↔ (handle, context) ∈ l.serving

/-- **What holds of each of the tables** after any number of steps: its number is its place, and `Kept`
holds of its ledger. -/
theorem Grown.kept (h : Grown ls) (hbounded : ∀ l ∈ ls, l.Bounded) :
    ∀ i l, ls[i]? = some l → l.table.id = UInt32.ofNat (i + 1) ∧ l.Kept := by
  induction h with
  | none => nofun
  | @step ls after _ hstep ih =>
    intro j l hl
    cases hstep with
    | create capacity =>
      have hbefore : ∀ l ∈ ls, l.Bounded := fun l hl => hbounded l (List.mem_append_left _ hl)
      by_cases hlt : j < ls.length
      · rw [List.getElem?_append_left hlt] at hl
        exact ih hbefore j l hl
      · -- The new table is the last one.
        rw [List.getElem?_append_right (Nat.not_lt.mp hlt), List.getElem?_singleton] at hl
        split at hl
        · rename_i hlast
          cases hl
          obtain rfl : j = ls.length := by omega
          exact ⟨rfl, Ledger.kept_new _ _⟩
        · cases hl
    | @act i l₀ rewritten hl₀ hstep₀ =>
      obtain ⟨hlt, -⟩ := List.getElem?_eq_some_iff.mp hl₀
      have hself : (ls.set i rewritten)[i]? = some rewritten := List.getElem?_set_self hlt
      have hother {k : Nat} (hk : i ≠ k) : (ls.set i rewritten)[k]? = ls[k]? :=
        List.getElem?_set_ne hk
      -- No slot had been released more often before the step than after it.
      have hbefore : ∀ l ∈ ls, l.Bounded := by
        intro l hmem
        obtain ⟨k, hk⟩ := List.mem_iff_getElem?.mp hmem
        by_cases hik : i = k
        · subst hik
          rw [hl₀] at hk
          cases hk
          have hrewritten := hbounded rewritten (List.mem_of_getElem? hself)
          exact fun index => Nat.lt_of_le_of_lt (hstep₀.releases_le index) (hrewritten index)
        · rw [← hother hik] at hk
          exact hbounded l (List.mem_of_getElem? hk)
      by_cases hij : i = j
      · subst hij
        rw [hself] at hl
        cases hl
        obtain ⟨hid, hkept⟩ := ih hbefore i l₀ hl₀
        have hl₀Bounded := hbefore l₀ (List.mem_of_getElem? hl₀)
        exact ⟨(hstep₀.id_eq hkept).trans hid, hstep₀.kept hl₀Bounded hkept⟩
      · rw [hother hij] at hl
        exact ih hbefore j l hl

/-- Tables have different identifiers, while there are enough of them: `UInt32.ofNat` of their places does
not wrap. -/
theorem Grown.id_ne (h : Grown ls) (hcount : ls.length < UInt32.size) (hbounded : ∀ l ∈ ls, l.Bounded)
    {i j : Nat} {l other : Ledger} (hl : ls[i]? = some l) (hother : ls[j]? = some other)
    (hij : i ≠ j) : l.table.id ≠ other.table.id := by
  obtain ⟨hlt, -⟩ := List.getElem?_eq_some_iff.mp hl
  obtain ⟨hlt', -⟩ := List.getElem?_eq_some_iff.mp hother
  rw [(h.kept hbounded i l hl).1, (h.kept hbounded j other hother).1]
  -- Tables are numbered in the order they are made, and there are fewer than `2 ^ 32` of them.
  intro heq
  have hmod := congrArg UInt32.toNat heq
  rw [UInt32.toNat_ofNat_of_lt' (Nat.lt_of_le_of_lt hlt hcount),
    UInt32.toNat_ofNat_of_lt' (Nat.lt_of_le_of_lt hlt' hcount)] at hmod
  exact hij (Nat.succ.inj hmod)

/-- **Tables and ledgers agree** after whatever has been done with them, in whatever order, as long as
there are not more tables than identifiers and no slot has been released more often than there are
generations. -/
theorem faithful (h : Grown ls) (hcount : ls.length < UInt32.size) (hbounded : ∀ l ∈ ls, l.Bounded) :
    Faithful ls := by
  have hkept {l : Ledger} (hl : l ∈ ls) : l.Kept := by
    obtain ⟨i, hi⟩ := List.mem_iff_getElem?.mp hl
    exact (h.kept hbounded i l hi).2
  -- No other table holds a handle of this one, since no two tables have the same identifier.
  have hforeign {i j : Nat} {l other : Ledger} (hl : ls[i]? = some l) (hother : ls[j]? = some other)
      (hij : i ≠ j) {handle : ServiceHandle} (htable : handle.table = l.table.id) :
      other.table.Ignores handle := by
    refine HandleTable.ignores_of_not_holds fun context stamp hholds => ?_
    exact h.id_ne hcount hbounded hl hother hij (htable.symm.trans hholds.1)
  -- A handle that is not active in its own table is unknown to all of them.
  have hunknown {l : Ledger} (hl : l ∈ ls) {handle : ServiceHandle}
      (htable : handle.table = l.table.id)
      (hown : ∀ context stamp, ¬l.table.Holds handle (.active context stamp)) :
      ∀ other ∈ ls, other.table.Ignores handle := by
    intro other hother
    obtain ⟨i, hi⟩ := List.mem_iff_getElem?.mp hl
    obtain ⟨j, hj⟩ := List.mem_iff_getElem?.mp hother
    by_cases hij : i = j
    · subst hij
      rw [hi] at hj
      cases hj
      exact HandleTable.ignores_of_not_holds hown
    · exact hforeign hi hj hij htable
  refine ⟨?_, ?_, ?_, ?_, ?_⟩
  · -- A handle that has ended: its slot has moved on to another generation.
    intro l hl handle hended
    refine hunknown hl ((hkept hl).ended handle hended).1 fun context stamp hholds => ?_
    exact (hkept hl).generation_ne (hbounded l hl) hended (by rw [hholds.2])
  · -- A handle that is only reserved has no context to resolve to.
    intro l hl r hr
    have hreserved := ((hkept hl).mem_waiting_iff r).mp hr
    refine hunknown hl hreserved.1 fun context stamp hholds => ?_
    exact absurd (hholds.eq_of_index_eq hreserved rfl).2 (by simp)
  · intro i j l other hl hother hij handle hissued
    exact hforeign hl hother hij ((hkept (List.mem_of_getElem? hl)).table_eq hissued)
  · -- No handle is issued twice: within a table by its ledger, across tables by the identifiers.
    refine List.pairwise_flatMap.mpr ⟨fun l hl => (hkept hl).nodup_issued, ?_⟩
    refine List.pairwise_iff_getElem.mpr fun i j hi hj hlt handle hissued other hissued' heq => ?_
    subst heq
    refine h.id_ne hcount hbounded (List.getElem?_eq_getElem hi) (List.getElem?_eq_getElem hj)
      (Nat.ne_of_lt hlt) ?_
    rw [← (hkept (List.getElem_mem hi)).table_eq hissued,
      (hkept (List.getElem_mem hj)).table_eq hissued']
  · intro l hl handle context
    rw [HandleTable.resolve_eq_ok_iff, (hkept hl).mem_serving_iff]
    exact exists_congr fun stamp => HandleTable.opened_iff_holds

/-- Two tables: in the first a service has been closed and another one opened in its slot, to which the
engine gave the same handle; in the second a slot is reserved. -/
def reusedSlot : List Ledger :=
  [{ table :=
       { id := 1, slots := [⟨1, .active ⟨.service .cipher, 0x100, none⟩ 2⟩], capacity := 2, opened := 2 }
     issued := [⟨1, 0, 1⟩, ⟨1, 0, 0⟩]
     serving := [(⟨1, 0, 1⟩, ⟨.service .cipher, 0x100, none⟩)]
     ended := [⟨1, 0, 0⟩] },
   { table := { id := 2, slots := [⟨0, .pending (.service .mac) none⟩], capacity := 2 }
     issued := [⟨2, 0, 0⟩]
     waiting := [⟨⟨⟨2, 0, 0⟩⟩, .service .mac, none⟩] }]

/-- `reusedSlot` has grown from a new table, by opening, closing and opening again. -/
theorem grown_reusedSlot : Grown reusedSlot := by
  have htables := (Grown.none.step (.create 2)).step (.create 2)
  have hreserved := htables.step
    (.act (i := 0) rfl (@Ledger.Step.reserve _ (.service .mac) none _ _ rfl))
  have hopened := hreserved.step
    (.act (i := 0) rfl (@Ledger.Step.activate _ _ 0x100 _ _ List.mem_cons_self rfl))
  have hclosed := hopened.step
    (.act (i := 0) rfl (@Ledger.Step.delete _ ⟨1, 0, 0⟩ _ _ rfl))
  have hagain := hclosed.step
    (.act (i := 0) rfl (@Ledger.Step.reserve _ (.service .cipher) none _ _ rfl))
  have hreopened := hagain.step
    (.act (i := 0) rfl (@Ledger.Step.activate _ _ 0x100 _ _ List.mem_cons_self rfl))
  exact hreopened.step (.act (i := 1) rfl (@Ledger.Step.reserve _ (.service .mac) none _ _ rfl))

/-- They agree with their ledgers: in `reusedSlot` the handle of the closed service stays unknown. -/
theorem faithful_reusedSlot :
    Grown reusedSlot ∧ reusedSlot.length < UInt32.size ∧ (∀ l ∈ reusedSlot, l.Bounded) ∧
      Faithful reusedSlot := by
  have hended : ∀ l ∈ reusedSlot, l.ended.length ≤ 1 := by decide
  have hbounded : ∀ l ∈ reusedSlot, l.Bounded := by
    intro l hl index
    have hle : l.releases index ≤ l.ended.length := List.countP_le_length
    have hone : (1 : Nat) < UInt32.size := by decide
    exact Nat.lt_of_le_of_lt (Nat.le_trans hle (hended l hl)) hone
  exact ⟨grown_reusedSlot, by decide, hbounded, faithful grown_reusedSlot (by decide) hbounded⟩

end Ledgers

end SecureEngine
