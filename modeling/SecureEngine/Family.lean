/-! # Service families

A client enables the families of services it uses; every command belongs to one of them.

* **`Family`** — the ten families, with position and name.
* **`FamilySet`** — a set of families.
* **`FamilySet.required`** — what every session needs to come up.
* **`Family.ofName?`** — the family a name stands for, in any letter case. -/

namespace SecureEngine

/-- **A family of services.** -/
inductive Family
  | session
  | keyStore
  | keyManagement
  | mac
  | cipher
  | hash
  | signGen
  | verifySign
  | rng
  | she
deriving DecidableEq, Repr

namespace Family

/-- Every family, by position. -/
def all : List Family :=
  [session, keyStore, keyManagement, mac, cipher, hash, signGen, verifySign, rng, she]

/-- The families are complete. -/
theorem mem_all (f : Family) : f ∈ all := by cases f <;> decide

/-- The bit a family has in the numeric form of a set. -/
def bit : Family → Nat
  | session => 1
  | keyStore => 2
  | keyManagement => 4
  | mac => 8
  | cipher => 16
  | hash => 32
  | signGen => 64
  | verifySign => 128
  | rng => 256
  | she => 512

/-- The name of a family. -/
def name : Family → String
  | session => "SESSION"
  | keyStore => "KEY_STORE"
  | keyManagement => "KEY_MANAGEMENT"
  | mac => "MAC"
  | cipher => "CIPHER"
  | hash => "HASH"
  | signGen => "SIGN_GEN"
  | verifySign => "VERIFY_SIGN"
  | rng => "RNG"
  | she => "SHE"

/-- The family whose name is `name`, letters of either ASCII case counting as equal. -/
def ofName? (name : String) : Option Family :=
  all.find? (·.name == name.map Char.toUpper)

end Family

/-- **A set of families.** -/
@[ext] structure FamilySet where
  /-- Whether a family is in the set. -/
  contains : Family → Bool

namespace FamilySet

instance : Membership Family FamilySet := ⟨fun set f => set.contains f = true⟩

instance (f : Family) (set : FamilySet) : Decidable (f ∈ set) :=
  inferInstanceAs (Decidable (set.contains f = true))

/-- The set without families. -/
def empty : FamilySet := ⟨fun _ => false⟩

/-- The set of all families. -/
def full : FamilySet := ⟨fun _ => true⟩

/-- The set of one family. -/
def single (f : Family) : FamilySet := ⟨fun g => g == f⟩

/-- The families in either of two sets. -/
def union (a b : FamilySet) : FamilySet := ⟨fun f => a.contains f || b.contains f⟩

instance : Union FamilySet := ⟨union⟩

/-- The families a session needs to come up. -/
def required : FamilySet := single .session ∪ single .keyStore

/-- The families of a set, by position. -/
def toList (set : FamilySet) : List Family := Family.all.filter set.contains

/-- The set of the listed families. -/
def ofList (families : List Family) : FamilySet := ⟨families.contains⟩

/-- The numeric form of a set. -/
def bits (set : FamilySet) : Nat := set.toList.foldr (fun f n => f.bit + n) 0

/-- No family is in the empty set. -/
@[simp] theorem not_mem_empty (f : Family) : f ∉ empty := Bool.false_ne_true

/-- Every family is in the full set. -/
@[simp] theorem mem_full (f : Family) : f ∈ full := rfl

/-- The set of a single family has that family and no other. -/
@[simp] theorem mem_single (f g : Family) : f ∈ single g ↔ f = g := by
  simp [Membership.mem, single]

/-- A union has what either of its parts has. -/
@[simp] theorem mem_union (f : Family) (a b : FamilySet) : f ∈ a ∪ b ↔ f ∈ a ∨ f ∈ b := by
  simp [Membership.mem, Union.union, union]

/-- `FamilySet.toList` lists what is in the set. -/
@[simp] theorem mem_toList (f : Family) (set : FamilySet) : f ∈ set.toList ↔ f ∈ set := by
  rw [toList, List.mem_filter]
  exact ⟨And.right, fun h => ⟨f.mem_all, h⟩⟩

end FamilySet

end SecureEngine
