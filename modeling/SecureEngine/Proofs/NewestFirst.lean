import SecureEngine.Proofs.PendingServices
import SecureEngine.Proofs.Capacity

/-! # The open services of a table, newest first

A table numbers what is activated, and sorts by these numbers. Slots are used again, lowest first, and
reservations are handed back in any order, so the list is compared with a chronicle that has a clock of
its own and dates every handle when it begins to be served.

* **`Ledger.Tracked`** — what a table and its ledger agree on whether or not generations wrap;
  **`Ledger.Step.tracked`** — every step keeps it and opens at most one service, later than all others.
* **`Chronicle`** — a ledger with a clock and dates; **`Chronicle.Dated`** — the table's numbers are in
  step with the dates; **`Chronicle.Reached.dated`** — they always are.
* **`Chronicle.lists_newestFirst`** — the list is what is served, by decreasing date. -/

namespace SecureEngine

namespace HandleTable

variable {table : HandleTable} {pending : PendingService} {kind : HandleKind}
  {parent : Option ServiceHandle}

/-- What is reserved is what `Holds` finds pending under its handle. -/
theorem reserved_iff_holds :
    table.Reserved pending kind parent ↔ table.Holds pending.handle (.pending kind parent) := by
  rw [Reserved, Holds, slotAt_eq_iff (by simp)]

end HandleTable

/-! ## (1) Tables and ledgers, however often slots are released -/

namespace Ledger

open HandleTable

variable {l after : Ledger}

/-- The handles that have been activated and not been deleted since, without the contexts that the
`Ledger` keeps with them. -/
def services (l : Ledger) : List ServiceHandle := l.serving.map (·.1)

/-- The `services` are the handles of what the ledger serves, without their contexts. -/
theorem mem_services_iff {handle : ServiceHandle} :
    handle ∈ l.services ↔ ∃ context, (handle, context) ∈ l.serving := by
  simp [services]

/-- **What a table and its `Ledger` agree on**, even when the generations of a slot come again. -/
structure Tracked (l : Ledger) : Prop where
  wellFormed : l.table.WellFormed
  /-- What waits has its reservation. -/
  reserved : ∀ r ∈ l.waiting, l.table.Reserved r.pending r.kind r.parent
  /-- What is served is open. -/
  mem_serving_iff : ∀ handle context, (handle, context) ∈ l.serving ↔
    ∃ stamp, l.table.Opened handle context stamp

/-- **A step opens at most one service**: what is open after it was open before or is new, and what is
new has the next number. -/
structure Advances (l after : Ledger) : Prop where
  opened_le : after.table.opened ≤ l.table.opened + 1
  opened_or : ∀ handle context stamp, after.table.Opened handle context stamp →
    l.table.Opened handle context stamp ∨ (handle ∉ l.services ∧ stamp = l.table.opened + 1)

/-- The services of a ledger are the handles that are open in its table. -/
theorem Tracked.mem_services_iff_opened (h : l.Tracked) {handle : ServiceHandle} :
    handle ∈ l.services ↔ ∃ context stamp, l.table.Opened handle context stamp := by
  rw [mem_services_iff]
  exact exists_congr fun context => h.mem_serving_iff handle context

/-- A step that opens nothing advances, whatever it closes: `Advances` only bounds the stamps of what is
new. -/
theorem Advances.of_opened (hopened : after.table.opened = l.table.opened)
    (hmono : ∀ handle context stamp, after.table.Opened handle context stamp →
      l.table.Opened handle context stamp) : l.Advances after :=
  ⟨hopened ▸ Nat.le_succ _, fun _ _ _ ho => Or.inl (hmono _ _ _ ho)⟩

/-- **A step that opens and closes nothing** keeps them in agreement, if every reservation that waits is
there. -/
theorem Tracked.of_opened_iff (h : l.Tracked) (hwf : after.table.WellFormed)
    (hreserved : ∀ r ∈ after.waiting, after.table.Reserved r.pending r.kind r.parent)
    (hserving : after.serving = l.serving) (hcount : after.table.opened = l.table.opened)
    (hopened : ∀ handle context stamp, after.table.Opened handle context stamp ↔
      l.table.Opened handle context stamp) : after.Tracked ∧ l.Advances after := by
  refine ⟨⟨hwf, hreserved, fun handle context => ?_⟩,
    .of_opened hcount fun handle context stamp => (hopened handle context stamp).mp⟩
  rw [hserving, h.mem_serving_iff]
  exact exists_congr fun stamp => (hopened handle context stamp).symm

/-- Reserving a slot keeps table and ledger in agreement: what is new waits, and nothing opens or
closes. -/
theorem Tracked.reserve (h : l.Tracked) {kind : HandleKind} {parent : Option ServiceHandle}
    {pending : PendingService} {table : HandleTable}
    (hadd : l.table.add kind parent = .ok (pending, table))
    (htable : after.table = table) (hwaiting : after.waiting = ⟨pending, kind, parent⟩ :: l.waiting)
    (hserving : after.serving = l.serving) : after.Tracked ∧ l.Advances after := by
  subst htable
  obtain ⟨hwf, hreserved, hcount, -, hopened⟩ := add_spec h.wellFormed hadd
  obtain ⟨hrewrites, hvacant⟩ := rewrites_add h.wellFormed.length_slots_le hadd
  refine h.of_opened_iff hwf (fun r hr => ?_) hserving hcount hopened
  rw [hwaiting] at hr
  rcases List.mem_cons.mp hr with rfl | hr
  · exact hreserved
  · -- What waits already does so in another slot, since this one was vacant.
    have hholds := reserved_iff_holds.mp (h.reserved r hr)
    have hne := hvacant.ne_of_state_ne hholds (by simp)
    refine reserved_iff_holds.mpr (hrewrites.holds_iff.mpr (Or.inr ⟨fun hindex => hne ?_, hholds⟩))
    exact (hholds.eq_of_index_eq hvacant hindex).1

/-- Activating a `Reservation` keeps table and ledger in agreement, and what opens has the next number. -/
theorem Tracked.activate (h : l.Tracked) {r : Reservation} (hr : r ∈ l.waiting)
    (engineHandle : UInt32) (htable : after.table = (l.table.activate r.pending engineHandle).2)
    (hwaiting : after.waiting = l.waiting.filter (·.pending != r.pending))
    (hserving : after.serving = (r.pending.handle, ⟨r.kind, engineHandle, r.parent⟩) :: l.serving) :
    after.Tracked ∧ l.Advances after := by
  have hreserved := h.reserved r hr
  obtain ⟨-, hwf, hcount, -, hopened⟩ := activate_spec h.wellFormed hreserved engineHandle
  rw [← htable] at hwf hcount hopened
  refine ⟨⟨hwf, fun q hq => ?_, fun handle context => ?_⟩, Nat.le_of_eq hcount,
    fun handle context stamp ho => ?_⟩
  · rw [hwaiting, List.mem_filter, bne_iff_ne] at hq
    rw [htable]
    exact (hreserved.spares engineHandle).1.reserved _ _ _ hq.2 (h.reserved q hq.1)
  · rw [hserving, List.mem_cons, h.mem_serving_iff]
    simp only [hopened, exists_or, ← and_assoc, exists_eq_right, Prod.mk.injEq]
  · -- The slot was reserved, so its handle was not served.
    rcases (hopened handle context stamp).mp ho with ⟨rfl, -, hstamp⟩ | ho
    · refine Or.inr ⟨fun hserved => ?_, hstamp⟩
      obtain ⟨_, _, hold⟩ := h.mem_services_iff_opened.mp hserved
      exact hold.index_ne hreserved.2 rfl rfl
    · exact Or.inl ho

/-- Withdrawing a `Reservation` keeps table and ledger in agreement: what waited does not wait any more,
and nothing opens or closes. -/
theorem Tracked.withdraw (h : l.Tracked) {r : Reservation} (hr : r ∈ l.waiting)
    (htable : after.table = l.table.deletePending r.pending)
    (hwaiting : after.waiting = l.waiting.filter (·.pending != r.pending))
    (hserving : after.serving = l.serving) : after.Tracked ∧ l.Advances after := by
  have hreserved := h.reserved r hr
  obtain ⟨hwf, hcount, -, hopened⟩ := deletePending_spec h.wellFormed hreserved
  rw [← htable] at hwf hcount hopened
  refine h.of_opened_iff hwf (fun q hq => ?_) hserving hcount hopened
  rw [hwaiting, List.mem_filter, bne_iff_ne] at hq
  rw [htable]
  exact (hreserved.spares 0).2.reserved _ _ _ hq.2 (h.reserved q hq.1)

/-- Deleting a service keeps table and ledger in agreement: its handle is the only one that is not served
any more. -/
theorem Tracked.delete (h : l.Tracked) {handle : ServiceHandle} {context : ServiceContext}
    {table : HandleTable} (hdelete : l.table.delete handle = .ok (context, table))
    (htable : after.table = table) (hwaiting : after.waiting = l.waiting)
    (hserving : after.serving = l.serving.filter (·.1 != handle)) :
    after.Tracked ∧ l.Advances after := by
  subst htable
  obtain ⟨-, hwf, hcount, -, hopened⟩ := delete_spec h.wellFormed hdelete
  obtain ⟨hresolve, htable⟩ := delete_eq_ok hdelete
  -- What waits stands in another slot than what was open, and what serves loses one handle.
  refine ⟨⟨hwf, fun q hq => ?_, fun other context' => ?_⟩,
    .of_opened hcount fun other context' stamp ho => ((hopened other context' stamp).mp ho).1⟩
  · rw [hwaiting] at hq
    have hreserved := h.reserved q hq
    rw [htable]
    refine (reserved_update_iff hreserved (fun _ _ => by simp) handle.index).mpr ?_
    exact (hreserved.index_ne_of_resolve hresolve).symm
  · rw [hserving, List.mem_filter, bne_iff_ne, h.mem_serving_iff, ← exists_and_right]
    exact exists_congr fun stamp => (hopened other context' stamp).symm

/-- **Every step keeps what table and ledger agree on**, and opens at most one service: one case per kind
of step. -/
theorem Step.tracked (hstep : l.Step after) (h : l.Tracked) : after.Tracked ∧ l.Advances after := by
  cases hstep with
  | reserve hadd => exact h.reserve hadd rfl rfl rfl
  | activate hr hactivate =>
    obtain ⟨rfl, rfl⟩ := Prod.mk.inj hactivate
    exact h.activate hr _ rfl rfl rfl
  | withdraw hr => exact h.withdraw hr rfl rfl rfl
  | delete hdelete => exact h.delete hdelete rfl rfl rfl
  | look => exact ⟨h, .of_opened rfl fun _ _ _ ho => ho⟩

/-- A new table and a new ledger agree: nothing waits, and nothing is served. -/
theorem tracked_new (id : UInt32) (capacity : Nat) : Tracked { table := { id, capacity } } where
  wellFormed := wellFormed_of_slots_eq_nil rfl
  reserved := nofun
  mem_serving_iff handle context :=
    ⟨nofun, fun ⟨stamp, ho⟩ => absurd ho (not_opened_of_slots_eq_nil rfl handle context stamp)⟩

end Ledger

/-! ## (2) Chronicles -/

/-- **A `Ledger` with a clock**, which dates handles when they begin to be served. -/
structure Chronicle where
  ledger : Ledger
  /-- How many steps have been taken. -/
  clock : Nat := 0
  /-- When a handle has last been activated. -/
  activatedAt : ServiceHandle → Nat := fun _ => 0

namespace Chronicle

variable {c : Chronicle} {after : Ledger}

/-- The `Chronicle` a step later: what is served now and was not before has been activated now. -/
def advance (c : Chronicle) (after : Ledger) : Chronicle where
  ledger := after
  clock := c.clock + 1
  activatedAt handle :=
    if handle ∈ after.services ∧ handle ∉ c.ledger.services then c.clock + 1
    else c.activatedAt handle

/-- **What can come of a new table**: the `Chronicle`s that steps lead to from a table of any number and
capacity. -/
inductive Reached : Chronicle → Prop
  | new (id : UInt32) (capacity : Nat) : Reached { ledger := { table := { id, capacity } } }
  | step {c : Chronicle} {after : Ledger} (h : Reached c) (hstep : c.ledger.Step after) :
      Reached (c.advance after)

/-- **The numbers of a table are in step with the dates**: a greater stamp in `Opened` means a later
`activatedAt`. -/
structure Dated (c : Chronicle) : Prop where
  tracked : c.ledger.Tracked
  /-- What is numbered later has been activated later. -/
  activatedAt_lt : ∀ handle context stamp other context' stamp',
    c.ledger.table.Opened handle context stamp → c.ledger.table.Opened other context' stamp' →
      stamp < stamp' → c.activatedAt handle < c.activatedAt other
  activatedAt_le : ∀ handle ∈ c.ledger.services, c.activatedAt handle ≤ c.clock
  opened_le : c.ledger.table.opened ≤ c.clock

/-- What was served before a step keeps its date of activation: `Chronicle.advance` only dates what is
new. -/
theorem advance_activatedAt_of_mem {handle : ServiceHandle} (h : handle ∈ c.ledger.services) :
    (c.advance after).activatedAt handle = c.activatedAt handle :=
  if_neg fun hnew => hnew.2 h

/-- What is served after a step and was not before has been activated at the new time of the clock. -/
theorem advance_activatedAt_of_new {handle : ServiceHandle} (hmem : handle ∈ after.services)
    (h : handle ∉ c.ledger.services) : (c.advance after).activatedAt handle = c.clock + 1 :=
  if_pos ⟨hmem, h⟩

/-- **One step keeps numbers and dates in step**: both grow where a service opens, and the number where
the date does. -/
theorem Dated.advance (h : c.Dated) (hstep : c.ledger.Step after) : (c.advance after).Dated := by
  obtain ⟨htracked, hadvances⟩ := hstep.tracked h.tracked
  have hold {handle : ServiceHandle} {context : ServiceContext} {stamp : Nat}
      (ho : c.ledger.table.Opened handle context stamp) : handle ∈ c.ledger.services :=
    h.tracked.mem_services_iff_opened.mpr ⟨context, stamp, ho⟩
  have hnew {handle : ServiceHandle} {context : ServiceContext} {stamp : Nat}
      (ho : after.table.Opened handle context stamp) : handle ∈ after.services :=
    htracked.mem_services_iff_opened.mpr ⟨context, stamp, ho⟩
  refine ⟨htracked, fun handle context stamp other context' stamp' ho ho' hlt => ?_,
    fun handle hmem => ?_, Nat.le_trans hadvances.opened_le (Nat.succ_le_succ h.opened_le)⟩
  · rcases hadvances.opened_or _ _ _ ho with hwas | ⟨-, hstamp⟩
    · rw [advance_activatedAt_of_mem (hold hwas)]
      rcases hadvances.opened_or _ _ _ ho' with hwas' | ⟨hfresh, -⟩
      · rw [advance_activatedAt_of_mem (hold hwas')]
        exact h.activatedAt_lt _ _ _ _ _ _ hwas hwas' hlt
      · rw [advance_activatedAt_of_new (hnew ho') hfresh]
        exact Nat.lt_succ_of_le (h.activatedAt_le _ (hold hwas))
    · -- What is new has the last number, so nothing is numbered later.
      have hle := htracked.wellFormed.stamp_le _ _ _ ho'
      have hlast := hadvances.opened_le
      omega
  · by_cases hwas : handle ∈ c.ledger.services
    · rw [advance_activatedAt_of_mem hwas]
      exact Nat.le_succ_of_le (h.activatedAt_le handle hwas)
    · exact Nat.le_of_eq (advance_activatedAt_of_new hmem hwas)

/-- **They are in step in everything that comes of a new table**, by induction on its steps. -/
theorem Reached.dated (h : Reached c) : c.Dated := by
  induction h with
  | new id capacity =>
    have hslots : ({ id, capacity } : HandleTable).slots = [] := rfl
    have hnone := HandleTable.not_opened_of_slots_eq_nil hslots
    exact ⟨Ledger.tracked_new id capacity, fun _ _ _ _ _ _ ho => absurd ho (hnone _ _ _), nofun,
      Nat.le_refl 0⟩
  | step _ hstep ih => exact ih.advance hstep

/-! ## (3) The list -/

/-- **What is served is listed by `newestFirst`**, newest first. -/
structure Listed (c : Chronicle) : Prop where
  /-- The list is of what has been activated and not been deleted since. -/
  mem_iff : ∀ handle, handle ∈ c.ledger.table.newestFirst ↔ handle ∈ c.ledger.services
  /-- Nothing is listed twice. -/
  nodup : c.ledger.table.newestFirst.Nodup
  /-- What is listed resolves, to what has been recorded for it. -/
  resolve_eq : ∀ handle ∈ c.ledger.table.newestFirst, ∃ context,
    (handle, context) ∈ c.ledger.serving ∧ c.ledger.table.resolve handle = .ok context
  /-- What is listed first has been activated later. -/
  pairwise : c.ledger.table.newestFirst.Pairwise fun handle other =>
    c.activatedAt other < c.activatedAt handle
  length_eq : c.ledger.table.newestFirst.length = c.ledger.table.size
  /-- The table has numbered no more activations than steps have been taken. -/
  opened_le : c.ledger.table.opened ≤ c.clock

/-- **The services that are `Listed`** are those that have been activated and not been deleted since, each
once, by strictly decreasing date of activation; each of them resolves, and there are as many as the table
counts. -/
theorem lists_newestFirst (h : Reached c) : c.Listed := by
  have hdated := h.dated
  have hwf := hdated.tracked.wellFormed
  have hmem (handle : ServiceHandle) :
      handle ∈ c.ledger.table.newestFirst ↔ handle ∈ c.ledger.services :=
    (HandleTable.mem_newestFirst hwf).trans hdated.tracked.mem_services_iff_opened.symm
  refine ⟨hmem, HandleTable.nodup_newestFirst hwf, fun handle hlisted => ?_, ?_,
    HandleTable.length_newestFirst _, hdated.opened_le⟩
  · obtain ⟨context, hserving⟩ := Ledger.mem_services_iff.mp ((hmem handle).mp hlisted)
    have hopened := (hdated.tracked.mem_serving_iff handle context).mp hserving
    exact ⟨context, hserving, HandleTable.resolve_eq_ok_iff.mpr hopened⟩
  · -- A larger stamp is a later activation.
    refine (HandleTable.pairwise_newestFirst hwf).imp_of_mem fun {handle other} ha hb hlt => ?_
    obtain ⟨context, stamp, ho⟩ := (HandleTable.mem_newestFirst hwf).mp ha
    obtain ⟨context', stamp', ho'⟩ := (HandleTable.mem_newestFirst hwf).mp hb
    exact hdated.activatedAt_lt _ _ _ _ _ _ ho' ho (hlt _ _ _ _ ho ho')

/-- Two services are activated in the other order than they were reserved in; the first of them is deleted,
its slot is reserved again, and so is a third, which is activated before it. -/
def shuffled : Ledger where
  table :=
    { id := 1
      slots :=
        [⟨0, .active ⟨.service .mac, 0x101, none⟩ 2⟩, ⟨1, .active ⟨.service .hash, 0x103, none⟩ 4⟩,
          ⟨0, .active ⟨.service .keyManagement, 0x102, none⟩ 3⟩]
      capacity := 3
      opened := 4 }
  issued := [⟨1, 2, 0⟩, ⟨1, 1, 1⟩, ⟨1, 1, 0⟩, ⟨1, 0, 0⟩]
  serving :=
    [(⟨1, 1, 1⟩, ⟨.service .hash, 0x103, none⟩), (⟨1, 2, 0⟩, ⟨.service .keyManagement, 0x102, none⟩),
      (⟨1, 0, 0⟩, ⟨.service .mac, 0x101, none⟩)]
  ended := [⟨1, 1, 0⟩]

/-- Four reservations, four activations and a deletion, in the order that `shuffled` tells, come to that
ledger. -/
theorem exists_reached_shuffled : ∃ c, Reached c ∧ c.ledger = shuffled := by
  have hfirst := (Reached.new 1 3).step (@Ledger.Step.reserve _ (.service .mac) none _ _ rfl)
  have hsecond := hfirst.step (@Ledger.Step.reserve _ (.service .cipher) none _ _ rfl)
  have hcipher := hsecond.step (@Ledger.Step.activate _ _ 0x100 _ _ List.mem_cons_self rfl)
  have hmac := hcipher.step (@Ledger.Step.activate _ _ 0x101 _ _ List.mem_cons_self rfl)
  have hclosed := hmac.step (@Ledger.Step.delete _ ⟨1, 1, 0⟩ _ _ rfl)
  have hagain := hclosed.step (@Ledger.Step.reserve _ (.service .hash) none _ _ rfl)
  have hthird := hagain.step (@Ledger.Step.reserve _ (.service .keyManagement) none _ _ rfl)
  have hmanagement := hthird.step (@Ledger.Step.activate _ _ 0x102 _ _ List.mem_cons_self rfl)
  exact ⟨_, hmanagement.step (@Ledger.Step.activate _ _ 0x103 _ _ List.mem_cons_self rfl), rfl⟩

/-- There the list follows the activations, and neither the slots nor the reservations: `newestFirst` of
three services in another order than their slots. -/
theorem lists_newestFirst_shuffled : ∃ c, Reached c ∧ c.Listed ∧
    c.ledger.table.newestFirst = [⟨1, 1, 1⟩, ⟨1, 2, 0⟩, ⟨1, 0, 0⟩] := by
  obtain ⟨c, hreached, hledger⟩ := exists_reached_shuffled
  refine ⟨c, hreached, lists_newestFirst hreached, ?_⟩
  rw [hledger]
  simp [shuffled, HandleTable.newestFirst, HandleTable.activations, HandleTable.handleAt,
    List.mergeSort, List.zipIdx]

end Chronicle

end SecureEngine
