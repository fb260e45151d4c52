import SecureEngine.Emulator.Engine

/-! # The tree of open objects

* **`IdMap.firstFree?_spec`** — the least free identifier is free.
* **`Below`** — an object lies below a root when its chain of parents comes by the root.
* **`Engine.leadsTo_size_iff`** — the search for a root that is open finds it just if it is there: a
  chain that comes by the root does so within as many steps as there are objects.
* **`Engine.find?_removeTree`** — removing a tree removes exactly what lies below its root. -/

namespace SecureEngine

namespace IdMap

variable {α : Type}

/-! ## (1) Free identifiers and sizes -/

/-- The first gap of an increasing list from `n` on is not in the list, and not below `n`. -/
theorem firstGap_spec {keys : List Nat} (h : keys.Pairwise (· < ·)) (n : Nat) :
    n ≤ firstGap n keys ∧ firstGap n keys ∉ keys := by
  -- By induction on the keys, which ascend: the search passes those below `n` and steps over those in a
  -- row from it.
  induction keys generalizing n with
  | nil => exact ⟨Nat.le_refl n, List.not_mem_nil⟩
  | cons k rest ih =>
    obtain ⟨hk, hrest⟩ := List.pairwise_cons.mp h
    unfold firstGap
    by_cases hlt : k < n
    · obtain ⟨hle, hmem⟩ := ih hrest n
      rw [if_pos hlt, List.mem_cons, not_or]
      exact ⟨hle, by omega, hmem⟩
    rw [if_neg hlt]
    by_cases heq : k = n
    · obtain ⟨hle, hmem⟩ := ih hrest (n + 1)
      rw [if_pos heq, List.mem_cons, not_or]
      exact ⟨by omega, by omega, hmem⟩
    · rw [if_neg heq, List.mem_cons]
      refine ⟨Nat.le_refl n, ?_⟩
      rintro (rfl | hmem)
      · exact heq rfl
      · have := hk n hmem
        omega

/-- **The least free identifier from a bound on is free**, and not below the bound. -/
theorem firstFree?_spec {m : IdMap α} {base id : UInt32} (h : m.firstFree? base = some id) :
    m.find? id = none ∧ base ≤ id := by
  unfold firstFree? at h
  dsimp only at h
  split at h
  · rename_i hlt
    cases h
    -- The identifiers are in increasing order, so the first gap is between them.
    have hsorted : (m.entries.map (·.1.toNat)).Pairwise (· < ·) :=
      List.pairwise_map.mpr (m.sorted.imp fun h => h)
    obtain ⟨hle, hmem⟩ := firstGap_spec hsorted base.toNat
    have hto : (UInt32.ofNat (firstGap base.toNat (m.entries.map (·.1.toNat)))).toNat =
        firstGap base.toNat (m.entries.map (·.1.toNat)) := UInt32.toNat_ofNat_of_lt' hlt
    refine ⟨Option.eq_none_iff_forall_ne_some.mpr fun a ha => hmem ?_, ?_⟩
    · exact List.mem_map.mpr ⟨_, mem_of_find? ha, hto⟩
    · rw [UInt32.le_iff_toNat_le, hto]
      exact hle
  · cases h

/-- Erasing with `erase` takes one entry away, if there is one under the identifier. -/
theorem size_erase {m : IdMap α} {id : UInt32} {a : α} (h : m.find? id = some a) :
    (m.erase id).size + 1 = m.size := by
  have hmem := mem_of_find? h
  obtain ⟨entries, sorted⟩ := m
  simp only [size, erase, filter] at hmem ⊢
  -- What follows is about the list of entries.
  clear h
  induction entries with
  | nil => exact absurd hmem List.not_mem_nil
  | cons e rest ih =>
    obtain ⟨he, hrest⟩ := List.pairwise_cons.mp sorted
    rcases List.mem_cons.mp hmem with rfl | hmem
    · -- Behind the identifier itself all others are greater.
      have hkeep : (rest.filter fun e => e.1 != id) = rest := by
        rw [List.filter_eq_self]
        intro e hmem
        exact bne_iff_ne.mpr (UInt32.ne_of_lt (he e hmem)).symm
      simp [hkeep]
    · have hne : e.1 ≠ id := UInt32.ne_of_lt (he _ hmem)
      simp [hne, ih hrest hmem]

/-- A map that something is found in has an entry, so `IdMap.size` is positive. -/
theorem size_pos {m : IdMap α} {id : UInt32} {a : α} (h : m.find? id = some a) : 0 < m.size := by
  have := size_erase h
  omega

/-- Inserting adds an entry at most: `insertEntry` replaces one with the same identifier. -/
theorem length_insertEntry_le (id : UInt32) (a : α) (entries : List (UInt32 × α)) :
    (insertEntry id a entries).length ≤ entries.length + 1 := by
  induction entries with
  | nil => exact Nat.le_refl _
  | cons head rest ih =>
    obtain ⟨other, b⟩ := head
    unfold insertEntry
    split
    · exact Nat.le_refl _
    split
    · exact Nat.le_succ _
    · exact Nat.succ_le_succ ih

/-- So `IdMap.insert` adds an entry at most. -/
theorem size_insert_le (m : IdMap α) (id : UInt32) (a : α) : (m.insert id a).size ≤ m.size + 1 :=
  length_insertEntry_le id a m.entries

/-- `IdMap.filter` adds no entry. -/
theorem size_filter_le (m : IdMap α) (p : UInt32 → α → Bool) : (m.filter p).size ≤ m.size :=
  List.length_filter_le _ _

/-- What was inserted last under an identifier is found there, by `IdMap.find?` after `insert`. -/
theorem find?_insert_self (m : IdMap α) (id : UInt32) (a : α) : (m.insert id a).find? id = some a := by
  rw [find?_insert, if_pos rfl]

/-- Under every other identifier, `IdMap.find?` gives after `insert` what it gave before. -/
theorem find?_insert_of_ne {m : IdMap α} {id other : UInt32} (h : other ≠ id) (a : α) :
    (m.insert id a).find? other = m.find? other := by
  rw [find?_insert, if_neg h]

end IdMap

/-! ## (2) Chains of parents -/

variable {objects : IdMap EngineObject} {root handle : UInt32}

/-- The handle that what is open under a handle was opened on, if it is not a session, which has no
parent. -/
def parentOf? (objects : IdMap EngineObject) (handle : UInt32) : Option UInt32 :=
  (objects.find? handle).bind EngineObject.parent?

/-- The parent of what is open under a handle is that of the object. -/
theorem parentOf?_of_find? {object : EngineObject} (h : objects.find? handle = some object) :
    parentOf? objects handle = object.parent? := by
  rw [parentOf?, h, Option.bind_some]

/-- **An object lies below a root**, the root itself included: going up by `parentOf?` from it comes to
the root. -/
inductive Below (objects : IdMap EngineObject) (root : UInt32) : UInt32 → Prop
  | refl : Below objects root root
  | step {handle parent : UInt32} (hp : parentOf? objects handle = some parent)
      (hb : Below objects root parent) : Below objects root handle

/-- What lies `Below` something that lies below a top lies below the top. -/
theorem Below.trans {top : UInt32} (h : Below objects root handle) (h' : Below objects top root) :
    Below objects top handle := by
  induction h with
  | refl => exact h'
  | step hp _ ih => exact .step hp ih

/-- What lies `Below` a root stays there while its chain of `parentOf?` stays. -/
theorem Below.mono {others : IdMap EngineObject} (h : Below objects root handle)
    (hp : ∀ h p, parentOf? objects h = some p → Below objects root h →
      parentOf? others h = some p) :
    Below others root handle := by
  induction h with
  | refl => exact .refl
  | step hparent hb ih => exact .step (hp _ _ hparent (.step hparent hb)) ih

/-- What lies below a root is the root, or its parent lies below the root: the last link of the chain. -/
theorem Below.eq_or_parent (h : Below objects root handle) :
    handle = root ∨ ∃ parent, parentOf? objects handle = some parent ∧ Below objects root parent := by
  cases h with
  | refl => exact Or.inl rfl
  | step hp hb => exact Or.inr ⟨_, hp, hb⟩

/-- Something without a parent lies `Below` itself only. -/
theorem Below.eq_of_parentOf?_eq_none (h : Below objects root handle)
    (hp : parentOf? objects handle = none) : handle = root := by
  rcases h.eq_or_parent with he | ⟨parent, hparent, -⟩
  · exact he
  · rw [hp] at hparent
    cases hparent

namespace Engine

/-- One step more of `leadsTo` is the root, or a step to the parent and the other steps from there. -/
theorem leadsTo_succ_iff {n : Nat} : leadsTo objects root (n + 1) handle = true ↔
    handle = root ∨ ∃ p, parentOf? objects handle = some p ∧ leadsTo objects root n p = true := by
  rw [leadsTo, Bool.or_eq_true, beq_iff_eq, ← parentOf?]
  cases parentOf? objects handle with
  | none => simp
  | some p => simp

/-- What `leadsTo` reaches the root from lies below it, by induction on the steps. -/
theorem below_of_leadsTo {n : Nat} (h : leadsTo objects root n handle = true) :
    Below objects root handle := by
  induction n generalizing handle with
  | zero => cases h
  | succ n ih =>
    rcases leadsTo_succ_iff.mp h with rfl | ⟨p, hp, h⟩
    · exact .refl
    · exact .step hp (ih h)

/-- What lies below a root reaches it in some number of steps, by induction on the chain. -/
theorem exists_leadsTo (h : Below objects root handle) :
    ∃ n, leadsTo objects root n handle = true := by
  induction h with
  | refl => exact ⟨1, leadsTo_succ_iff.mpr (Or.inl rfl)⟩
  | step hp _ ih =>
    obtain ⟨n, hn⟩ := ih
    exact ⟨n + 1, leadsTo_succ_iff.mpr (Or.inr ⟨_, hp, hn⟩)⟩

/-- Erasing with `erase` cuts chains but makes none: only what is erased loses its parent. -/
theorem parentOf?_erase (objects : IdMap EngineObject) (x handle : UInt32) :
    parentOf? (objects.erase x) handle = if handle = x then none else parentOf? objects handle := by
  rw [parentOf?, IdMap.find?_erase]
  split <;> rfl

/-- A chain that does without an object is there when the object is: `leadsTo` after `IdMap.erase` holds
before it as well. -/
theorem leadsTo_of_erase {x : UInt32} {n : Nat}
    (h : leadsTo (objects.erase x) root n handle = true) : leadsTo objects root n handle = true := by
  -- By induction on the length: a path without `x` is a path.
  induction n generalizing handle with
  | zero => cases h
  | succ n ih =>
    refine leadsTo_succ_iff.mpr ((leadsTo_succ_iff.mp h).imp_right ?_)
    rintro ⟨p, hp, h⟩
    rw [parentOf?_erase] at hp
    split at hp
    · cases hp
    · exact ⟨p, hp, ih h⟩

/-- A chain that comes by the root does so without a given object, or comes by that object. -/
theorem leadsTo_erase_or (x : UInt32) {n : Nat} (h : leadsTo objects root n handle = true) :
    leadsTo (objects.erase x) root n handle = true ∨
      ∃ m ≤ n, leadsTo objects root m x = true := by
  -- By induction on the length of the path, which passes through `x` or can do without it.
  induction n generalizing handle with
  | zero => cases h
  | succ n ih =>
    by_cases hx : handle = x
    · exact Or.inr ⟨n + 1, Nat.le_refl _, hx ▸ h⟩
    rcases leadsTo_succ_iff.mp h with hroot | ⟨p, hp, h⟩
    · exact Or.inl (leadsTo_succ_iff.mpr (Or.inl hroot))
    rcases ih h with h | ⟨m, hm, h⟩
    · refine Or.inl (leadsTo_succ_iff.mpr (Or.inr ⟨p, ?_, h⟩))
      rw [parentOf?_erase, if_neg hx, hp]
    · exact Or.inr ⟨m, Nat.le_succ_of_le hm, h⟩

/-- **As many steps as there are objects reach a root that any number of steps reaches.** The
induction takes the first object of the chain away: either the rest of the chain does without it, and
there is an object less, or it comes back to it, and a shorter chain starts there. -/
theorem leadsTo_size {r : EngineObject} (hroot : objects.find? root = some r) {n : Nat}
    (h : leadsTo objects root n handle = true) :
    leadsTo objects root objects.size handle = true := by
  induction n using Nat.strongRecOn generalizing objects handle with
  | _ n ih =>
    cases n with
    | zero => cases h
    | succ n =>
      by_cases hr : handle = root
      · obtain ⟨k, hk⟩ := Nat.exists_eq_succ_of_ne_zero (Nat.ne_of_gt (IdMap.size_pos hroot))
        rw [hk]
        exact leadsTo_succ_iff.mpr (Or.inl hr)
      obtain ⟨p, hp, hn⟩ := (leadsTo_succ_iff.mp h).resolve_left hr
      obtain ⟨object, hobject, -⟩ := Option.bind_eq_some_iff.mp hp
      rcases leadsTo_erase_or handle hn with hn | ⟨m, hm, hback⟩
      · have hroot' : (objects.erase handle).find? root = some r := by
          rw [IdMap.find?_erase, if_neg (Ne.symm hr), hroot]
        have hrest := leadsTo_of_erase (ih n (Nat.lt_succ_self n) hroot' hn)
        rw [← IdMap.size_erase hobject]
        exact leadsTo_succ_iff.mpr (Or.inr ⟨p, hp, hrest⟩)
      · exact ih m (by omega) hroot hback

/-- **The search for an open root finds exactly what lies below it**, although `removeTree` only takes as
many steps as there are objects. -/
theorem leadsTo_size_iff {r : EngineObject} (hroot : objects.find? root = some r) :
    leadsTo objects root objects.size handle = true ↔ Below objects root handle := by
  refine ⟨below_of_leadsTo, fun h => ?_⟩
  obtain ⟨n, hn⟩ := exists_leadsTo h
  exact leadsTo_size hroot hn

/-! ## (3) Opening and removing -/

/-- **Removing a tree with `removeTree` removes exactly what lies below its root.** -/
theorem find?_removeTree {engine : Engine} {r object : EngineObject}
    (hroot : engine.objects.find? root = some r) :
    (engine.removeTree root).objects.find? handle = some object ↔
      engine.objects.find? handle = some object ∧ ¬Below engine.objects root handle := by
  unfold removeTree
  dsimp only
  rw [IdMap.find?_filter, Option.filter_eq_some_iff, ← leadsTo_size_iff hroot, Bool.not_eq_true',
    Bool.not_eq_true]

/-- **A new object gets a handle that stood for nothing**, and not the zero handle; nothing else
changes. -/
theorem allocate_ok {engine after : Engine} {object : EngineObject}
    (h : engine.allocate object = .ok (handle, after)) :
    engine.objects.find? handle = none ∧ handle ≠ 0 ∧
      after = { engine with objects := engine.objects.insert handle object } := by
  unfold allocate at h
  split at h
  · cases h
  split at h
  · rename_i hfree
    cases h
    obtain ⟨hnone, hle⟩ := IdMap.firstFree?_spec hfree
    refine ⟨hnone, ?_, rfl⟩
    rintro rfl
    exact absurd hle (by decide)
  · cases h

/-- There is only one reason not to open something, whether the table is full or handles have run out. -/
theorem allocate_error {engine : Engine} {object : EngineObject} {e : EngineError}
    (h : engine.allocate object = .error e) : e = Reason.outOfMemory.toError := by
  unfold allocate at h
  split at h
  · exact (Except.error.inj h).symm
  split at h
  · cases h
  · exact (Except.error.inj h).symm

end Engine

end SecureEngine
