import SecureEngine.Proofs.KeyAccess
import SecureEngine.Proofs.KeyChanges

/-! # What key stores hold

A key comes into a key store by five kinds of request, new or in the place of another key, and an update
may move it to another group. All of them go through one check of the group and bring material of the
size of their type.

* **`IdMap.filter_insert`** — what is selected after an insertion.
* **`WellKept`** — the rules for the keys of a key store.
* **`WellKept.insert`**, **`WellKept.remove`** — storing and deleting keep them.
* **`Engine.wellKept_afterAll`** — they hold in every key store after every run of requests. -/

namespace SecureEngine

/-! ## (1) Selections -/

namespace IdMap

variable {α : Type}

/-- Filtering a map twice is filtering it for both: `IdMap.filter` composes by the conjunction of the two
conditions. -/
theorem filter_filter (m : IdMap α) (p q : UInt32 → α → Bool) :
    (m.filter q).filter p = m.filter fun id a => p id a && q id a := by
  simp only [filter, List.filter_filter]

/-- **A selection after an insertion** is the selection from the rest, with the new entry if it is
selected itself. -/
theorem filter_insert (m : IdMap α) (p : UInt32 → α → Bool) (id : UInt32) (a : α) :
    (m.insert id a).filter p =
      if p id a then ((m.erase id).filter p).insert id a else (m.erase id).filter p := by
  apply ext_find?
  intro other
  rw [find?_filter, find?_insert]
  -- The maps are compared entry by entry: the new one, then the old ones.
  by_cases hother : other = id
  · subst hother
    cases hp : p other a with
    | true => simp [Option.filter, hp, find?_insert]
    | false => simp [Option.filter, hp, find?_filter, find?_erase]
  · have herase : ((m.erase id).filter p).find? other = (m.find? other).filter (p other) := by
      rw [find?_filter, find?_erase, if_neg hother]
    rw [if_neg hother]
    split
    · rw [find?_insert_of_ne hother, herase]
    · rw [herase]

/-- Taking an entry away does not make a selection larger: `IdMap.erase` before `filter` leaves at most as
many. -/
theorem size_filter_erase_le (m : IdMap α) (p : UInt32 → α → Bool) (id : UInt32) :
    ((m.erase id).filter p).size ≤ (m.filter p).size := by
  have hcomm : (m.erase id).filter p = (m.filter p).erase id := by
    simp only [erase, filter_filter, Bool.and_comm]
  rw [hcomm]
  exact size_filter_le _ _

end IdMap

/-! ## (2) The rules for keys -/

/-- **The keys of a key store are well kept**: none under zero, material as long as its `KeyType` asks
for, and no group above its capacity. -/
structure WellKept (keys : IdMap KeyEntry) : Prop where
  /-- No key is under zero. -/
  find?_zero : keys.find? 0 = none
  /-- Material has the size of its type. -/
  length_material : ∀ id entry, keys.find? id = some entry →
    entry.material.length = entry.keyType.size
  /-- A group has at most 32 keys. -/
  size_group_le : ∀ group : UInt16, (keys.filter fun _ entry => entry.group == group).size ≤ 32

/-- A key store without keys is `WellKept`. -/
theorem wellKept_empty : WellKept .empty := ⟨rfl, nofun, fun _ => Nat.zero_le _⟩

section

variable {store after : KeyStore} {id chosen : UInt32} {flags : StorageFlags} {entry : KeyEntry}

/-- Storing needs room for one entry more in its own group, whatever it replaces; every other group may
only lose the entry that is replaced. -/
theorem KeyStore.size_group_insert_le
    (h : ∀ group : UInt16, (store.keys.filter fun _ e => e.group == group).size ≤ 32)
    (hroom : store.othersInGroup entry.group chosen < KeyStore.groupCapacity) (group : UInt16) :
    ((store.keys.insert chosen entry).filter fun _ e => e.group == group).size ≤ 32 := by
  rw [IdMap.filter_insert]
  -- Only the group of the new key can grow, and it had room without the key that was replaced.
  by_cases hgroup : (entry.group == group) = true
  · rw [if_pos hgroup]
    rw [beq_iff_eq] at hgroup
    subst hgroup
    have hothers : ((store.keys.erase chosen).filter fun _ e => e.group == entry.group).size < 32 := by
      rw [IdMap.erase, IdMap.filter_filter]
      exact hroom
    have hinsert := IdMap.size_insert_le
      ((store.keys.erase chosen).filter fun _ e => e.group == entry.group) chosen entry
    omega
  · rw [if_neg hgroup]
    exact Nat.le_trans (IdMap.size_filter_erase_le _ _ _) (h group)

/-- Nothing goes under zero: what is created does not, and what is updated was there. -/
theorem KeyStore.chosen_ne_zero (h : store.keys.find? 0 = none)
    (hchoose : store.choose id flags entry = .ok chosen) : chosen ≠ 0 := by
  rcases KeyStore.choose_ok hchoose with ⟨-, hne, -⟩ | ⟨-, -, rfl, held, hheld, -⟩
  · exact hne
  · rintro rfl
    rw [h] at hheld
    cases hheld

/-- **Storing an entry** with material of the size of its type keeps the rules. -/
theorem WellKept.insert (h : WellKept store.keys) (hsize : entry.material.length = entry.keyType.size)
    (hinsert : store.insert id flags entry = .ok (chosen, after)) : WellKept after.keys := by
  obtain ⟨hchoose, hroom, hkeys⟩ := KeyStore.insert_ok hinsert
  rw [hkeys]
  refine ⟨?_, ?_, KeyStore.size_group_insert_le h.size_group_le hroom⟩
  · rw [IdMap.find?_insert_of_ne (KeyStore.chosen_ne_zero h.find?_zero hchoose).symm]
    exact h.find?_zero
  · intro other found hfound
    rw [IdMap.find?_insert] at hfound
    split at hfound
    · cases hfound
      exact hsize
    · exact h.length_material other found hfound

/-- **Deleting a key** keeps the rules: `KeyStore.remove` leaves a part of the keys that were
`WellKept`. -/
theorem WellKept.remove (h : WellKept store.keys) (hremove : store.remove id = .ok after) :
    WellKept after.keys := by
  obtain ⟨held, -, -, hkeys⟩ := KeyStore.remove_ok hremove
  rw [hkeys]
  refine ⟨?_, ?_, ?_⟩
  · rw [IdMap.find?_erase, h.find?_zero, ite_self]
  · intro other found hfound
    rw [IdMap.find?_erase] at hfound
    split at hfound
    · cases hfound
    · exact h.length_material other found hfound
  · intro group
    exact Nat.le_trans (IdMap.size_filter_erase_le _ _ _) (h.size_group_le group)

end

/-! ## (3) Runs of requests -/

namespace Engine

/-- **What one request does to keys** keeps the rules: a `KeyChange` of keys that are `WellKept` gives
keys that are. -/
theorem KeyChange.wellKept {before : Engine} {request : Bytes} {name : UInt32}
    {keys : IdMap KeyEntry} (h : KeyChange before request name keys)
    (hbefore : WellKept (keysOf before.keyStores name)) : WellKept keys := by
  cases h with
  | kept => exact hbefore
  | placed hreads hdestination hstore hsize hinsert =>
    rw [keysOf_of_serviceStore hstore] at hbefore
    exact hbefore.insert hsize hinsert
  | deleted hreads hstore hremove =>
    rw [keysOf_of_serviceStore hstore] at hbefore
    exact hbefore.remove hremove

/-- Whatever requests an engine has been sent, its key stores are `WellKept`. -/
theorem wellKept_keysOf_afterAll (settings : EngineSettings)
    (requests : List (SharedMemory × Bytes)) (name : UInt32) :
    WellKept (keysOf ((start settings).afterAll requests).keyStores name) := by
  have hstart : WellKept (keysOf (start settings).keyStores name) := wellKept_empty
  exact afterAll_induction (p := fun e => WellKept (keysOf e.keyStores name))
    (fun e memory request he => (keyChange_step e memory request name).wellKept he) hstart requests

/-- **Every `KeyStore` is `WellKept`** after every run of requests to a new engine: no key is under zero,
all material has the size of its type, and no group has more than 32 keys. -/
theorem wellKept_afterAll (settings : EngineSettings) (requests : List (SharedMemory × Bytes))
    {name : UInt32} {store : KeyStore}
    (h : ((start settings).afterAll requests).keyStores.find? name = some store) :
    WellKept store.keys := by
  have hkept := wellKept_keysOf_afterAll settings requests name
  rw [keysOf_of_find? h] at hkept
  exact hkept

/-- A request to replace the key that `generatingRequest` generates by one in another group. -/
def regroupingRequest : Bytes :=
  (start {}).requestFor .generateKey (⟨0x102, 7, 0, 1, 0x30, 5, 0, 0⟩ : Wire.GenerateKey)

/-- Requests by which a key is generated and moved to another group, with the memory that goes with
each. -/
def regroupingRequests : List (SharedMemory × Bytes) :=
  preludeRequests ++ [(({} : SharedMemory), generatingRequest), ({}, regroupingRequest)]

/-- The key store with the moved key is `WellKept`. -/
theorem wellKept_afterAll_regrouping :
    ∃ store, ((start {}).afterAll regroupingRequests).keyStores.find? 0x1234 = some store ∧
      (store.keys.find? 7).map KeyEntry.group = some 5 ∧ WellKept store.keys := by
  have hgroup : ((((start {}).afterAll regroupingRequests).keyStores.find? 0x1234).bind
      fun store => (store.keys.find? 7).map KeyEntry.group) = some 5 := by decide +kernel
  obtain ⟨store, hstore, hmoved⟩ := Option.bind_eq_some_iff.mp hgroup
  exact ⟨store, hstore, hmoved, wellKept_afterAll {} regroupingRequests hstore⟩

end Engine

end SecureEngine
