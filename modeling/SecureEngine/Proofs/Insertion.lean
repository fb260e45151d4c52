import Mathlib.Algebra.Order.BigOperators.Group.Finset
import SecureEngine.Proofs.KeyContents

/-! # Storing keys

A key is stored under an identifier that was asked for or picked, new or in the place of another one. What
comes of it is settled by what is stored already, and by nothing else.

* **`IdMap.firstFree?_least`**, **`IdMap.le_size_iff`** — the first free identifier leaves no gap behind,
  and the size of a map is the number of its identifiers.
* **`KeyStore.Reachable`** — the key stores that come about by storing and deleting; no key of theirs is
  under zero, and they never run out of identifiers.
* **`KeyStore.Chooses`**, **`KeyStore.Refuses`** — the identifier that an entry goes to, and the reasons to
  refuse it.
* **`KeyStore.insertion`** — storing an entry does exactly that. -/

namespace SecureEngine

/-! ## (1) Free identifiers and numbers of them -/

namespace IdMap

variable {α : Type} {m : IdMap α}

/-- Everything between the start and the `firstGap` is in the list, because the gap moves on only by what
is there. -/
theorem mem_of_lt_firstGap {keys : List Nat} {n k : Nat} (hle : n ≤ k) (hlt : k < firstGap n keys) :
    k ∈ keys := by
  -- By induction on the keys: whatever the search steps over is one of them.
  induction keys generalizing n with
  | nil => exact absurd hlt (Nat.not_lt.mpr hle)
  | cons key rest ih =>
    rw [firstGap] at hlt
    split at hlt
    · exact List.mem_cons_of_mem _ (ih hle hlt)
    split at hlt
    · rename_i hkey
      rcases Nat.eq_or_lt_of_le hle with rfl | hnext
      · exact hkey ▸ List.mem_cons_self
      · exact List.mem_cons_of_mem _ (ih hnext hlt)
    · exact absurd hlt (Nat.not_lt.mpr hle)

/-- Each number that the gap moves on by is in the list, so `firstGap` passes at most as many numbers as
there are keys. -/
theorem firstGap_le (n : Nat) (keys : List Nat) : firstGap n keys ≤ n + keys.length := by
  induction keys generalizing n with
  | nil => exact Nat.le_refl n
  | cons key rest ih =>
    rw [firstGap, List.length_cons]
    have hskip := ih n
    have hnext := ih (n + 1)
    split
    · omega
    split <;> omega

/-- **The first free identifier is the least one**: all before it are in use. -/
theorem firstFree?_least {base id other : UInt32} (h : m.firstFree? base = some id)
    (hle : base ≤ other) (hlt : other < id) : ∃ a, m.find? other = some a := by
  unfold firstFree? at h
  dsimp only at h
  split at h
  · rename_i hgap
    cases h
    rw [UInt32.lt_iff_toNat_lt, UInt32.toNat_ofNat_of_lt' hgap] at hlt
    -- Nothing between `base` and the gap is free.
    have hmem := mem_of_lt_firstGap (UInt32.le_iff_toNat_le.mp hle) hlt
    obtain ⟨⟨key, a⟩, hentry, hkey⟩ := List.mem_map.mp hmem
    obtain rfl : key = other := UInt32.toNat_inj.mp hkey
    exact ⟨a, find?_of_mem hentry⟩
  · cases h

/-- **There is a free identifier** as long as there are fewer entries than identifiers. -/
theorem exists_firstFree? {base : UInt32} (h : base.toNat + m.size < UInt32.size) :
    ∃ id, m.firstFree? base = some id := by
  have hgap := firstGap_le base.toNat (m.entries.map (·.1.toNat))
  rw [List.length_map] at hgap
  exact ⟨_, if_pos (Nat.lt_of_le_of_lt hgap h)⟩

/-- An identifier is in use once, as `IdMap` keeps its entries sorted by it. -/
theorem nodup_identifiers (m : IdMap α) : (m.entries.map (·.1)).Nodup :=
  List.pairwise_map.mpr (m.sorted.imp fun hlt => UInt32.ne_of_lt hlt)

/-- **A map has so many entries** as there are identifiers in use: `IdMap.size` by way of lists without
repetition. -/
theorem le_size_iff {n : Nat} : n ≤ m.size ↔
    ∃ ids : List UInt32, ids.Nodup ∧ ids.length = n ∧ ∀ id ∈ ids, ∃ a, m.find? id = some a := by
  constructor
  · intro h
    refine ⟨(m.entries.map (·.1)).take n, m.nodup_identifiers.sublist (List.take_sublist _ _), ?_, ?_⟩
    · rw [List.length_take, List.length_map]
      exact Nat.min_eq_left h
    · intro id hid
      obtain ⟨⟨key, a⟩, hentry, rfl⟩ := List.mem_map.mp (List.mem_of_mem_take hid)
      exact ⟨a, find?_of_mem hentry⟩
  · -- Identifiers without repetition that are all in the map are no more than its entries.
    rintro ⟨ids, hnodup, rfl, hfound⟩
    have hsubset : ids ⊆ m.entries.map (·.1) := by
      intro id hid
      obtain ⟨a, ha⟩ := hfound id hid
      exact List.mem_map.mpr ⟨(id, a), mem_of_find? ha, rfl⟩
    have hle := (List.subperm_of_subset hnodup hsubset).length_le
    rwa [List.length_map] at hle

/-- **Groups that are small keep a map small**, because there are not many groups. -/
theorem size_le_of_groups [DecidableEq α] (group : α → UInt16) {n : Nat}
    (h : ∀ g, (m.filter fun _ a => group a == g).size ≤ n) : m.size ≤ n * UInt16.size := by
  have hnodup : m.entries.Nodup := m.nodup_identifiers.of_map
  have hmaps : ∀ e ∈ m.entries.toFinset, (group e.2).toNat ∈ Finset.range UInt16.size :=
    fun e _ => Finset.mem_range.mpr (group e.2).toNat_lt
  -- The entries are counted group by group, and there are as many groups as values of a half word.
  have hfibers : ∀ k ∈ Finset.range UInt16.size,
      (m.entries.toFinset.filter fun e => (group e.2).toNat = k).card ≤ n := by
    intro k hk
    have hgroup := h (UInt16.ofNat k)
    rw [size, filter, ← List.toFinset_card_of_nodup (hnodup.filter _), List.toFinset_filter] at hgroup
    have hiff (e : UInt32 × α) : (group e.2 == UInt16.ofNat k) = true ↔ (group e.2).toNat = k := by
      rw [beq_iff_eq, ← UInt16.toNat_inj, UInt16.toNat_ofNat_of_lt' (Finset.mem_range.mp hk)]
    simp only [hiff] at hgroup
    exact hgroup
  have hcard := Finset.card_le_mul_card_image_of_maps_to hmaps n hfibers
  rwa [List.toFinset_card_of_nodup hnodup, Finset.card_range] at hcard

end IdMap

/-! ## (2) Key stores that come about -/

namespace KeyStore

variable {store after : KeyStore} {id chosen : UInt32} {flags : StorageFlags} {entry : KeyEntry}

/-- **Key stores that come about**: one is created without keys, and then keys are stored and deleted. -/
inductive Reachable : KeyStore → Prop
  | created (password : UInt32) : Reachable { password }
  | inserted {store after : KeyStore} {id chosen : UInt32} {flags : StorageFlags} {entry : KeyEntry}
      (h : Reachable store) (hinsert : store.insert id flags entry = .ok (chosen, after)) :
      Reachable after
  | removed {store after : KeyStore} {id : UInt32} (h : Reachable store)
      (hremove : store.remove id = .ok after) : Reachable after

/-- A key store is its password and its keys, so `Reachable` carries over to one with the same. -/
theorem Reachable.of_eq (h : store.Reachable) (hpassword : after.password = store.password)
    (hkeys : after.keys = store.keys) : after.Reachable := by
  obtain ⟨password, keys⟩ := after
  subst hpassword hkeys
  exact h

/-- No key of a `Reachable` store has the identifier 0, which stands for a free choice. -/
theorem Reachable.find?_zero (h : store.Reachable) : store.keys.find? 0 = none := by
  induction h with
  | created password => rfl
  | inserted _ hinsert ih =>
    obtain ⟨hchoose, -, hkeys⟩ := insert_ok hinsert
    rw [hkeys, IdMap.find?_insert_of_ne (chosen_ne_zero ih hchoose).symm]
    exact ih
  | removed _ hremove ih =>
    obtain ⟨-, -, -, hkeys⟩ := remove_ok hremove
    rw [hkeys, IdMap.find?_erase, ih, ite_self]

/-- No group of a `Reachable` store has more than 32 keys. -/
theorem Reachable.size_group_le (h : store.Reachable) (group : UInt16) :
    (store.keys.filter fun _ e => e.group == group).size ≤ 32 := by
  -- By induction on how the store was reached: inserting checks the room of the group, and removing
  -- makes some.
  induction h generalizing group with
  | created password => exact Nat.zero_le _
  | inserted _ hinsert ih =>
    obtain ⟨-, hroom, hkeys⟩ := insert_ok hinsert
    rw [hkeys]
    exact size_group_insert_le ih hroom group
  | removed _ hremove ih =>
    obtain ⟨-, -, -, hkeys⟩ := remove_ok hremove
    rw [hkeys]
    exact Nat.le_trans (IdMap.size_filter_erase_le _ _ _) (ih group)

/-- **Key stores do not run out of identifiers**: there are not enough groups for that. -/
theorem Reachable.exists_firstFree? (h : store.Reachable) :
    ∃ free, store.keys.firstFree? 1 = some free := by
  have hsize : store.keys.size ≤ 32 * UInt16.size :=
    IdMap.size_le_of_groups KeyEntry.group h.size_group_le
  refine IdMap.exists_firstFree? (Nat.lt_of_le_of_lt (Nat.add_le_add_left hsize _) ?_)
  decide

end KeyStore

namespace Engine

/-- **What a request leaves of a key store comes about** from what it was before. -/
theorem reachable_step (engine : Engine) (memory : SharedMemory) (request : Bytes)
    (h : ∀ name store, engine.keyStores.find? name = some store → store.Reachable) :
    ∀ name store, (engine.step memory request).keyStores.find? name = some store →
      store.Reachable := by
  intro name stored hstored
  -- A request changes the keys of a store one at a time and never its password.
  have hpassword {store : KeyStore} (hstore : engine.keyStores.find? name = some store) :
      stored.password = store.password := by
    have hkept := (stores request ⟨engine, memory⟩).passwordOf_eq (passwordOf_of_find? hstore)
    exact Option.some.inj ((passwordOf_of_find? hstored).symm.trans hkept)
  have hchange := keyChange_step engine memory request name
  rw [keysOf_of_find? hstored] at hchange
  generalize hkeys : stored.keys = keys at hchange
  cases hchange with
  | kept =>
    cases hstore : engine.keyStores.find? name with
    | none =>
      rw [keysOf, hstore] at hkeys
      exact KeyStore.Reachable.of_eq (.created stored.password) rfl hkeys
    | some store =>
      rw [keysOf_of_find? hstore] at hkeys
      exact (h name store hstore).of_eq (hpassword hstore) hkeys
  | placed _ _ hstore _ hinsert =>
    obtain ⟨-, -, -, -, hstore⟩ := serviceStore_ok hstore
    have hsame := congrArg KeyStore.password (insert_keys hinsert)
    exact (h name _ hstore).inserted hinsert |>.of_eq ((hpassword hstore).trans hsame.symm) hkeys
  | deleted _ hstore hremove =>
    obtain ⟨-, -, -, -, hstore⟩ := serviceStore_ok hstore
    have hsame := congrArg KeyStore.password (remove_keys hremove)
    exact (h name _ hstore).removed hremove |>.of_eq ((hpassword hstore).trans hsame.symm) hkeys

/-- **The key stores of an engine come about** by storing and deleting keys, after any run of requests
to a new engine. -/
theorem reachable_afterAll (settings : EngineSettings) (requests : List (SharedMemory × Bytes))
    {name : UInt32} {store : KeyStore}
    (h : ((start settings).afterAll requests).keyStores.find? name = some store) :
    store.Reachable := by
  have hstart : ∀ name store, (start settings).keyStores.find? name = some store → store.Reachable :=
    fun name store (hnone : none = some store) => nomatch hnone
  exact afterAll_induction
    (p := fun e => ∀ name store, e.keyStores.find? name = some store → store.Reachable)
    reachable_step hstart requests name store h

end Engine

/-! ## (3) Where an entry goes -/

namespace KeyStore

/-- **The identifier that an entry goes to**: the one that was asked for, if it is free; under zero the
least one above zero that is free; or the one of a key of the same type. -/
inductive Chooses (store : KeyStore) (id : UInt32) (flags : StorageFlags) (entry : KeyEntry) :
    UInt32 → Prop
  | requested (hcreate : flags.create = true) (hne : id ≠ 0) (hfree : store.keys.find? id = none) :
      Chooses store id flags entry id
  | least {chosen : UInt32} (hcreate : flags.create = true) (hzero : id = 0) (hpos : 0 < chosen)
      (hfree : store.keys.find? chosen = none)
      (hleast : ∀ other, 0 < other → other < chosen → ∃ held, store.keys.find? other = some held) :
      Chooses store id flags entry chosen
  | replaced {held : KeyEntry} (hcreate : flags.create = false) (hupdate : flags.update = true)
      (hheld : store.keys.find? id = some held) (htype : held.keyType = entry.keyType) :
      Chooses store id flags entry id

/-- **Why there is no place for an entry**: the four reasons for which `KeyStore.choose` refuses it, with
the flags that lead to each. -/
inductive Misplaces (store : KeyStore) (id : UInt32) (flags : StorageFlags) (entry : KeyEntry) :
    Reason → Prop
  | taken {held : KeyEntry} (hcreate : flags.create = true)
      (hheld : store.keys.find? id = some held) : Misplaces store id flags entry .idConflict
  | absent (hcreate : flags.create = false) (hupdate : flags.update = true)
      (hfree : store.keys.find? id = none) : Misplaces store id flags entry .unknownId
  | otherType {held : KeyEntry} (hcreate : flags.create = false) (hupdate : flags.update = true)
      (hheld : store.keys.find? id = some held) (htype : held.keyType ≠ entry.keyType) :
      Misplaces store id flags entry .keyNotSupported
  | noFlag (hcreate : flags.create = false) (hupdate : flags.update = false) :
      Misplaces store id flags entry .invalidParam

/-- **A group is full** for an identifier: as many other keys as it has room for are in it. -/
def GroupFull (store : KeyStore) (group : UInt16) (id : UInt32) : Prop :=
  ∃ ids : List UInt32, ids.Nodup ∧ ids.length = groupCapacity ∧
    ∀ other ∈ ids, other ≠ id ∧ ∃ held, store.keys.find? other = some held ∧ held.group = group

/-- **Why an entry is refused**: there is no place for it, or there is one and its group is full. -/
inductive Refuses (store : KeyStore) (id : UInt32) (flags : StorageFlags) (entry : KeyEntry) :
    Reason → Prop
  | misplaced {r : Reason} (h : store.Misplaces id flags entry r) : Refuses store id flags entry r
  | full (hplaced : ∀ r, ¬store.Misplaces id flags entry r) (hfull : store.GroupFull entry.group id) :
      Refuses store id flags entry .keyGroupFull

variable {store after : KeyStore} {id chosen : UInt32} {flags : StorageFlags} {entry : KeyEntry}

/-- `KeyStore.choose` refuses what `Misplaces` tells, for that reason. -/
theorem Misplaces.choose_eq {r : Reason} (h : store.Reachable)
    (hmisplaces : store.Misplaces id flags entry r) :
    store.choose id flags entry = .error r.toError := by
  cases hmisplaces with
  | taken hcreate hheld =>
    have hne : id ≠ 0 := by
      rintro rfl
      rw [h.find?_zero] at hheld
      cases hheld
    rw [choose, if_pos hcreate, if_neg hne, IdMap.contains, hheld]
    rfl
  | absent hcreate hupdate hfree =>
    simp only [choose, hcreate, hupdate, get, hfree]
    rfl
  | otherType hcreate hupdate hheld htype =>
    simp only [choose, hcreate, hupdate, get, hheld]
    exact if_neg htype
  | noFlag hcreate hupdate =>
    simp only [choose, hcreate, hupdate]
    rfl

/-- **An entry that is not misplaced has a place**: `KeyStore.choose` finds what `Chooses` describes, for
in a store that is `Reachable` an identifier is left. -/
theorem Reachable.exists_choice (h : store.Reachable)
    (hplaced : ∀ r, ¬store.Misplaces id flags entry r) :
    ∃ chosen, store.Chooses id flags entry chosen ∧ store.choose id flags entry = .ok chosen := by
  -- The flags are looked at in the order in which the checks come; each failing check is one of the
  -- reasons in `hplaced`.
  cases hcreate : flags.create with
  | true =>
    cases hfound : store.keys.find? id with
    | some held => exact absurd (.taken hcreate hfound) (hplaced _)
    | none =>
      by_cases hzero : id = 0
      · obtain ⟨free, hfree⟩ := h.exists_firstFree?
        obtain ⟨hnone, hle⟩ := IdMap.firstFree?_spec hfree
        refine ⟨free, .least hcreate hzero (UInt32.lt_of_lt_of_le (by decide) hle) hnone ?_, ?_⟩
        · exact fun other hpos hlt => IdMap.firstFree?_least hfree hpos hlt
        · rw [choose, if_pos hcreate, if_pos hzero, hfree]
      · refine ⟨id, .requested hcreate hzero hfound, ?_⟩
        rw [choose, if_pos hcreate, if_neg hzero, IdMap.contains, hfound]
        rfl
  | false =>
    cases hupdate : flags.update with
    | false => exact absurd (.noFlag hcreate hupdate) (hplaced _)
    | true =>
      cases hfound : store.keys.find? id with
      | none => exact absurd (.absent hcreate hupdate hfound) (hplaced _)
      | some held =>
        by_cases htype : held.keyType = entry.keyType
        · refine ⟨id, .replaced hcreate hupdate hfound htype, ?_⟩
          simp only [choose, hcreate, hupdate, get, hfound]
          exact if_pos htype
        · exact absurd (.otherType hcreate hupdate hfound htype) (hplaced _)

/-! ## (4) Full groups -/

/-- A group is full just if it has `groupCapacity` keys without the one that is going to be replaced. -/
theorem groupFull_iff {group : UInt16} :
    store.GroupFull group id ↔ groupCapacity ≤ store.othersInGroup group id := by
  rw [GroupFull, othersInGroup, IdMap.le_size_iff]
  refine exists_congr fun ids => and_congr_right fun _ => and_congr_right fun _ => ?_
  refine forall₂_congr fun other _ => ?_
  simp only [IdMap.find?_filter, Option.filter_eq_some_iff, Bool.and_eq_true, beq_iff_eq, bne_iff_ne]
  constructor
  · rintro ⟨hne, held, hheld, hgroup⟩
    exact ⟨held, hheld, hgroup, hne⟩
  · rintro ⟨held, hheld, hgroup, hne⟩
    exact ⟨hne, held, hheld, hgroup⟩

/-- An identifier that is free does not count, so `KeyStore.othersInGroup` is the size of the group. -/
theorem othersInGroup_of_free (hfree : store.keys.find? id = none) (group : UInt16) :
    store.othersInGroup group id = (store.keys.filter fun _ e => e.group == group).size := by
  refine congrArg IdMap.size (IdMap.ext_find? fun other => ?_)
  rw [IdMap.find?_filter, IdMap.find?_filter]
  by_cases hother : other = id
  · rw [hother, hfree]
    rfl
  · rw [bne_iff_ne.mpr hother]
    simp only [Bool.and_true]

/-- What counts as another key is the same for the identifier that was asked for and the one chosen. -/
theorem Chooses.othersInGroup_eq (h : store.Reachable) (hchooses : store.Chooses id flags entry chosen)
    (group : UInt16) : store.othersInGroup group chosen = store.othersInGroup group id := by
  cases hchooses with
  | least _ hzero _ hfree _ =>
    rw [othersInGroup_of_free hfree, hzero, othersInGroup_of_free h.find?_zero]
  | _ => rfl

/-! ## (5) Storing -/

/-- Without a place nothing is stored: `KeyStore.insert` fails as `choose` does. -/
theorem insert_of_choose_error {e : EngineError} (h : store.choose id flags entry = .error e) :
    store.insert id flags entry = .error e := by
  rw [insert, h]
  rfl

/-- With a place it is up to the group: `KeyStore.insert` stores the entry unless `othersInGroup` has
reached `groupCapacity`. -/
theorem insert_of_choose (h : store.choose id flags entry = .ok chosen) :
    store.insert id flags entry =
      if groupCapacity ≤ store.othersInGroup entry.group chosen then .error Reason.keyGroupFull.toError
      else .ok (chosen, { store with keys := store.keys.insert chosen entry }) := by
  rw [insert, h]
  simp only [bind, Except.bind]
  split <;> rfl

/-- **Storing an entry**, with the flags in a byte of a request: where it goes by `Chooses`, and what it
is refused for by `Refuses`. -/
structure Insertion (store : KeyStore) (id : UInt32) (flags : UInt8) (entry : KeyEntry) : Prop where
  /-- What is stored is where it has to go, and all other keys are as they were. -/
  stored : ∀ chosen after, store.insert id (.ofByte flags) entry = .ok (chosen, after) →
    store.Chooses id (.ofByte flags) entry chosen ∧ after.password = store.password ∧
      ∀ other, after.keys.find? other = if other = chosen then some entry else store.keys.find? other
  /-- What is refused is refused for one of the reasons, and whatever there is a reason for is refused. -/
  refused_iff : ∀ e, store.insert id (.ofByte flags) entry = .error e ↔
    ∃ r, e = r.toError ∧ store.Refuses id (.ofByte flags) entry r
  /-- The engine is left as it was when an entry is refused. -/
  spared : ∀ (machine : Machine) (service name : UInt32),
    machine.engine.serviceStore service .keyManagement = .ok (name, store) →
      ∀ e, store.insert id (.ofByte flags) entry = .error e →
        (Engine.storeKey service id flags entry).run machine = (.error e, machine)

/-- A refused entry changes no engine: `Engine.storeKey` fails as `KeyStore.insert` does, and leaves the
machine as it was. -/
theorem run_storeKey_of_refused {byte : UInt8} {machine : Machine} {service name : UInt32}
    (hstore : machine.engine.serviceStore service .keyManagement = .ok (name, store)) {e : EngineError}
    (h : store.insert id (.ofByte byte) entry = .error e) :
    (Engine.storeKey service id byte entry).run machine = (.error e, machine) := by
  have hplace : machine.engine.placeKey service id byte entry = .error e := by
    rw [Engine.placeKey, hstore]
    simp only [bind, Except.bind, h]
  rw [Engine.run_storeKey, hplace]

/-- `KeyStore.insert` refuses what `Refuses` tells, for that reason and no other. -/
theorem Refuses.insert_eq {r : Reason} (h : store.Reachable)
    (hrefuses : store.Refuses id flags entry r) :
    store.insert id flags entry = .error r.toError := by
  cases hrefuses with
  | misplaced hmisplaces => exact insert_of_choose_error (hmisplaces.choose_eq h)
  | full hplaced hfull =>
    obtain ⟨chosen, hchooses, hchoose⟩ := h.exists_choice hplaced
    rw [insert_of_choose hchoose, hchooses.othersInGroup_eq h, if_pos (groupFull_iff.mp hfull)]

/-- **An entry that nothing speaks against is stored**, where `Chooses` says: without a reason in
`Refuses`, `KeyStore.insert` succeeds. -/
theorem Reachable.insert_eq (h : store.Reachable) (haccepts : ∀ r, ¬store.Refuses id flags entry r) :
    ∃ chosen, store.Chooses id flags entry chosen ∧ store.insert id flags entry =
      .ok (chosen, { store with keys := store.keys.insert chosen entry }) := by
  have hplaced (r : Reason) : ¬store.Misplaces id flags entry r := fun hr => haccepts r (.misplaced hr)
  obtain ⟨chosen, hchooses, hchoose⟩ := h.exists_choice hplaced
  refine ⟨chosen, hchooses, ?_⟩
  rw [insert_of_choose hchoose, hchooses.othersInGroup_eq h, if_neg]
  exact fun hfull => haccepts _ (.full hplaced (groupFull_iff.mpr hfull))

/-- **Refused is what there is a reason for**, and nothing else: `KeyStore.insert` fails just with the
reasons of `Refuses`. -/
theorem Reachable.insert_eq_error_iff (h : store.Reachable) {e : EngineError} :
    store.insert id flags entry = .error e ↔ ∃ r, e = r.toError ∧ store.Refuses id flags entry r := by
  -- A request is refused for one of the reasons or accepted, and never both.
  constructor
  · intro he
    by_cases hrefuses : ∃ r, store.Refuses id flags entry r
    · obtain ⟨r, hr⟩ := hrefuses
      rw [hr.insert_eq h] at he
      exact ⟨r, (Except.error.inj he).symm, hr⟩
    · obtain ⟨chosen, -, hinsert⟩ := h.insert_eq fun r hr => hrefuses ⟨r, hr⟩
      rw [hinsert] at he
      cases he
  · rintro ⟨r, rfl, hr⟩
    exact hr.insert_eq h

/-- **Where a stored entry is**, and what is with it: `KeyStore.insert` puts it where it `Chooses` and
leaves the other keys. -/
theorem Reachable.insert_eq_ok (h : store.Reachable)
    (hok : store.insert id flags entry = .ok (chosen, after)) :
    store.Chooses id flags entry chosen ∧
      after = { store with keys := store.keys.insert chosen entry } := by
  have haccepts (r : Reason) : ¬store.Refuses id flags entry r := by
    intro hr
    rw [hr.insert_eq h] at hok
    cases hok
  obtain ⟨free, hchooses, hinsert⟩ := h.insert_eq haccepts
  rw [hinsert] at hok
  cases hok
  exact ⟨hchooses, rfl⟩

/-- **The law of storing**: a key store that has come about stores an entry under the identifier that was
asked for or the least free one, or in the place of a key of the same type, and touches no other key; or
it refuses the entry for the first of five reasons that there is. -/
theorem insertion (h : store.Reachable) (id : UInt32) (flags : UInt8) (entry : KeyEntry) :
    store.Insertion id flags entry where
  stored chosen after hok := by
    obtain ⟨hchooses, rfl⟩ := h.insert_eq_ok hok
    exact ⟨hchooses, rfl, IdMap.find?_insert store.keys chosen entry⟩
  refused_iff _ := h.insert_eq_error_iff
  spared _ _ _ hstore _ hrefused := run_storeKey_of_refused hstore hrefused

/-- A key of type `aes128` that a key store takes under a new identifier. -/
def newEntry : KeyEntry := ⟨.aes128, 5, 0, 0, Bytes.blank 16⟩

/-- The law holds of a key store in which a key has been moved to another group. -/
theorem insertion_regrouped : ∃ store,
    ((Engine.start {}).afterAll Engine.regroupingRequests).keyStores.find? 0x1234 = some store ∧
      store.Reachable ∧ store.Insertion 0 2 newEntry := by
  have hsome : (((Engine.start {}).afterAll Engine.regroupingRequests).keyStores.find? 0x1234).isSome =
      true := by decide +kernel
  obtain ⟨store, hstore⟩ := Option.isSome_iff_exists.mp hsome
  have hreachable := Engine.reachable_afterAll {} Engine.regroupingRequests hstore
  exact ⟨store, hstore, hreachable, insertion hreachable 0 2 newEntry⟩

end KeyStore

end SecureEngine
