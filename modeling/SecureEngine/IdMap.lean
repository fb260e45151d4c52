/-! # Maps from identifiers

Finite maps from 32-bit identifiers, kept in increasing order of identifiers.

* **`IdMap`** — the entries of a map; identifiers increase strictly, so a map is determined by its
  entries and each identifier occurs once.
* **`IdMap.find?`**, **`insert`**, **`erase`**, **`filter`** — with one equation each for `find?`.
* **`IdMap.firstFree?`** — the least identifier from a bound on that is not in use. -/

namespace SecureEngine

/-- **A map from identifiers.** -/
structure IdMap (α : Type) where
  /-- The entries. -/
  entries : List (UInt32 × α) := []
  /-- Identifiers increase. -/
  sorted : entries.Pairwise (fun a b => a.1 < b.1) := by exact List.Pairwise.nil

namespace IdMap

variable {α : Type}

/-- The map without entries. -/
def empty : IdMap α := {}

/-- The number of entries. -/
def size (m : IdMap α) : Nat := m.entries.length

/-- The value under an identifier. -/
def find? (m : IdMap α) (id : UInt32) : Option α := m.entries.lookup id

/-- Whether an identifier is in use. -/
def contains (m : IdMap α) (id : UInt32) : Bool := (m.find? id).isSome

/-- The values, by identifier. -/
def values (m : IdMap α) : List α := m.entries.map (·.2)

/-! ## (1) Removing -/

/-- **The entries that satisfy a condition.** -/
def filter (m : IdMap α) (p : UInt32 → α → Bool) : IdMap α where
  entries := m.entries.filter fun (id, a) => p id a
  sorted := m.sorted.filter _

/-- **The map without an identifier.** -/
def erase (m : IdMap α) (id : UInt32) : IdMap α := m.filter fun other _ => other != id

/-! ## (2) Adding -/

/-- An entry put in its place, in front of or instead of the first one not below it. -/
def insertEntry (id : UInt32) (a : α) : List (UInt32 × α) → List (UInt32 × α)
  | [] => [(id, a)]
  | (other, b) :: rest =>
    if id < other then (id, a) :: (other, b) :: rest
    else if id = other then (id, a) :: rest
    else (other, b) :: insertEntry id a rest

/-- What is in the entries after putting one in. -/
theorem mem_of_mem_insertEntry {id : UInt32} {a : α} {entries : List (UInt32 × α)}
    {e : UInt32 × α} (h : e ∈ insertEntry id a entries) : e = (id, a) ∨ e ∈ entries := by
  induction entries with
  | nil => exact Or.inl (List.mem_singleton.mp h)
  | cons head rest ih =>
    obtain ⟨other, b⟩ := head
    unfold insertEntry at h
    split at h
    · exact List.mem_cons.mp h
    · split at h
      · exact (List.mem_cons.mp h).imp_right (List.mem_cons_of_mem _)
      · rcases List.mem_cons.mp h with h | h
        · exact Or.inr (h ▸ List.mem_cons_self)
        · exact (ih h).imp_right (List.mem_cons_of_mem _)

/-- Putting an entry in keeps the order. -/
theorem sorted_insertEntry (id : UInt32) (a : α) {entries : List (UInt32 × α)}
    (h : entries.Pairwise fun a b => a.1 < b.1) :
    (insertEntry id a entries).Pairwise fun a b => a.1 < b.1 := by
  induction entries with
  | nil => exact List.pairwise_singleton _ _
  | cons head rest ih =>
    obtain ⟨other, b⟩ := head
    obtain ⟨hhead, hrest⟩ := List.pairwise_cons.mp h
    unfold insertEntry
    split
    · rename_i hlt
      refine List.pairwise_cons.mpr ⟨fun e he => ?_, h⟩
      rcases List.mem_cons.mp he with he | he
      · exact he ▸ hlt
      · exact UInt32.lt_trans hlt (hhead e he)
    · split
      · rename_i heq
        exact List.pairwise_cons.mpr ⟨fun e he => heq ▸ hhead e he, hrest⟩
      · rename_i hnlt hne
        refine List.pairwise_cons.mpr ⟨fun e he => ?_, ih hrest⟩
        rcases mem_of_mem_insertEntry he with he | he
        · subst he
          exact UInt32.lt_of_le_of_ne (UInt32.not_lt.mp hnlt) (Ne.symm hne)
        · exact hhead e he

/-- **The map with a value under an identifier**, new or replaced. -/
def insert (m : IdMap α) (id : UInt32) (a : α) : IdMap α where
  entries := insertEntry id a m.entries
  sorted := sorted_insertEntry id a m.sorted

/-! ## (3) Free identifiers -/

/-- The least number from `n` on that an increasing list leaves out. -/
def firstGap : (n : Nat) → List Nat → Nat
  | n, [] => n
  | n, k :: rest => if k < n then firstGap n rest else if k = n then firstGap (n + 1) rest else n

/-- **The least free identifier from `base` on.** -/
def firstFree? (m : IdMap α) (base : UInt32) : Option UInt32 :=
  let gap := firstGap base.toNat (m.entries.map (·.1.toNat))
  if gap < UInt32.size then some (UInt32.ofNat gap) else none

/-! ## (4) What is found -/

/-- Nothing is found in the empty map. -/
@[simp] theorem find?_empty (id : UInt32) : (empty : IdMap α).find? id = none := rfl

/-- Looking up passes over other identifiers. -/
theorem lookup_cons_of_ne {id other : UInt32} (h : other ≠ id) (a : α)
    (rest : List (UInt32 × α)) : ((id, a) :: rest).lookup other = rest.lookup other := by
  rw [List.lookup_cons, beq_eq_false_iff_ne.mpr h]

/-- A found value is an entry. -/
theorem mem_of_find? {m : IdMap α} {id : UInt32} {a : α} (h : m.find? id = some a) :
    (id, a) ∈ m.entries := by
  obtain ⟨entries, sorted⟩ := m
  simp only [find?] at h
  induction entries with
  | nil => simp at h
  | cons head rest ih =>
    obtain ⟨other, b⟩ := head
    by_cases he : id = other
    · subst he
      simp only [List.lookup_cons_self, Option.some.injEq] at h
      exact h ▸ List.mem_cons_self
    · rw [lookup_cons_of_ne he] at h
      exact List.mem_cons_of_mem _ (ih (List.pairwise_cons.mp sorted).2 h)

/-- An entry is found. -/
theorem find?_of_mem {m : IdMap α} {id : UInt32} {a : α} (h : (id, a) ∈ m.entries) :
    m.find? id = some a := by
  obtain ⟨entries, sorted⟩ := m
  simp only [find?]
  induction entries with
  | nil => simp at h
  | cons head rest ih =>
    obtain ⟨other, b⟩ := head
    obtain ⟨hhead, hrest⟩ := List.pairwise_cons.mp sorted
    rcases List.mem_cons.mp h with he | he
    · cases he
      exact List.lookup_cons_self
    · have hne : id ≠ other := (UInt32.ne_of_lt (hhead _ he)).symm
      rw [lookup_cons_of_ne hne]
      exact ih hrest he

/-- Entries and found values are the same thing. -/
theorem find?_eq_some_iff {m : IdMap α} {id : UInt32} {a : α} :
    m.find? id = some a ↔ (id, a) ∈ m.entries :=
  ⟨mem_of_find?, find?_of_mem⟩

/-- What a filtered map holds. -/
theorem find?_filter (m : IdMap α) (p : UInt32 → α → Bool) (id : UInt32) :
    (m.filter p).find? id = (m.find? id).filter (p id) := by
  apply Option.ext
  intro a
  simp only [find?_eq_some_iff, filter, List.mem_filter, Option.filter_eq_some_iff]

/-- Erasing with `erase` forgets one identifier. -/
theorem find?_erase (m : IdMap α) (id other : UInt32) :
    (m.erase id).find? other = if other = id then none else m.find? other := by
  rw [erase, find?_filter]
  split
  · rename_i h
    cases m.find? other <;> simp [h, Option.filter]
  · rename_i h
    cases m.find? other <;> simp [h, Option.filter]

/-- Inserting with `insert` sets one identifier. -/
theorem find?_insert (m : IdMap α) (id : UInt32) (a : α) (other : UInt32) :
    (m.insert id a).find? other = if other = id then some a else m.find? other := by
  obtain ⟨entries, sorted⟩ := m
  simp only [find?, insert]
  induction entries with
  | nil =>
    by_cases h : other = id
    · simp [insertEntry, h]
    · simp [insertEntry, h, lookup_cons_of_ne]
  | cons head rest ih =>
    obtain ⟨key, b⟩ := head
    obtain ⟨hhead, hrest⟩ := List.pairwise_cons.mp sorted
    unfold insertEntry
    split
    · by_cases h : other = id
      · simp [h]
      · rw [lookup_cons_of_ne h, if_neg h]
    · split
      · rename_i heq
        subst heq
        by_cases h : other = id
        · simp [h]
        · rw [lookup_cons_of_ne h, lookup_cons_of_ne h, if_neg h]
      · rename_i hne
        by_cases h : other = key
        · subst h
          simp [Ne.symm hne]
        · rw [lookup_cons_of_ne h, lookup_cons_of_ne h, ih hrest]

/-- Maps that find the same values are equal. -/
theorem ext_find? {m n : IdMap α} (h : ∀ id, m.find? id = n.find? id) : m = n := by
  have hmem (e : UInt32 × α) : e ∈ m.entries ↔ e ∈ n.entries := by
    rw [← find?_eq_some_iff, ← find?_eq_some_iff, h]
  obtain ⟨ms, hms⟩ := m
  obtain ⟨ns, hns⟩ := n
  suffices ms = ns by subst this; rfl
  simp only at hmem
  clear h
  induction ms generalizing ns with
  | nil =>
    cases ns with
    | nil => rfl
    | cons e rest => exact absurd ((hmem e).mpr List.mem_cons_self) List.not_mem_nil
  | cons e rest ih =>
    cases ns with
    | nil => exact absurd ((hmem e).mp List.mem_cons_self) List.not_mem_nil
    | cons f others =>
      obtain ⟨he, hrest⟩ := List.pairwise_cons.mp hms
      obtain ⟨hf, hothers⟩ := List.pairwise_cons.mp hns
      have hef : e = f := by
        rcases List.mem_cons.mp ((hmem e).mp List.mem_cons_self) with h | h
        · exact h
        · rcases List.mem_cons.mp ((hmem f).mpr List.mem_cons_self) with h' | h'
          · exact h'.symm
          · exact absurd (UInt32.lt_trans (hf e h) (he f h')) (UInt32.lt_irrefl _)
      subst hef
      have hrest' : rest = others := by
        refine ih hrest others hothers fun g => ?_
        have hg := hmem g
        simp only [List.mem_cons] at hg
        constructor
        · intro h
          rcases hg.mp (Or.inr h) with h' | h'
          · subst h'
            exact absurd (he g h) (UInt32.lt_irrefl _)
          · exact h'
        · intro h
          rcases hg.mpr (Or.inr h) with h' | h'
          · subst h'
            exact absurd (hf g h) (UInt32.lt_irrefl _)
          · exact h'
      rw [hrest']

end IdMap

end SecureEngine
