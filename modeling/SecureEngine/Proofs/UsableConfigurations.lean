import Mathlib.Data.List.Forall2
import SecureEngine.Configuration.Reader

/-! # Configurations that can be used

The names of families are checked when a configuration is read, and looked up when a session starts. Both
take a name for that of a family whatever the case of its letters, so what was accepted is found again.

* **`Family.Named`** — a text is the name of a family up to the case of ASCII letters;
  **`Family.ofName?_eq_some_iff`** — the names that are found.
* **`Configuration.exists_familiesOf_eq_ok`**, **`Configuration.familiesOf_eq_error_iff`** — the families of
  a list of names, in any order and however often they are named.
* **`Configuration.ofText_eq_ok_iff`** — the texts that are accepted.
* **`Configuration.Usable`**, **`Configuration.accepted_usable`** — what can be relied on then. -/

namespace SecureEngine

/-! ## (1) Names -/

namespace Family

/-- **Two characters are the same** up to the case of an ASCII letter, of which there are twenty-six. -/
def SameLetter (c d : Char) : Prop :=
  c = d ∨ ∃ i < 26, (c.toNat = 'a'.toNat + i ∧ d.toNat = 'A'.toNat + i) ∨
    (c.toNat = 'A'.toNat + i ∧ d.toNat = 'a'.toNat + i)

instance (c d : Char) : Decidable (SameLetter c d) := inferInstanceAs (Decidable (_ ∨ _))

/-- **A text is the name of a family** up to the case of ASCII letters. -/
def Named (f : Family) (name : String) : Prop := List.Forall₂ SameLetter name.toList f.name.toList

instance (f : Family) (name : String) : Decidable (f.Named name) :=
  inferInstanceAs (Decidable (List.Forall₂ _ _ _))

/-- Only ASCII letters have another upper case: `Char.toUpper` subtracts 32 from the lower ones. -/
theorem toNat_toUpper (c : Char) : c.toUpper.toNat =
    if 'a'.toNat ≤ c.toNat ∧ c.toNat ≤ 'z'.toNat then c.toNat - 32 else c.toNat := by
  have hlower : ('a'.val ≤ c.val ∧ c.val ≤ 'z'.val) ↔
      ('a'.toNat ≤ c.toNat ∧ c.toNat ≤ 'z'.toNat) := by
    rw [UInt32.le_iff_toNat_le, UInt32.le_iff_toNat_le]
    rfl
  unfold Char.toUpper
  split
  · rename_i h
    have hrange := hlower.mp h
    have ha : 'a'.toNat = 97 := rfl
    have hz : 'z'.toNat = 122 := rfl
    rw [if_pos hrange]
    -- The offset is negative, so the sum wraps around.
    show (c.val + ('A'.val - 'a'.val)).toNat = c.val.toNat - 32
    rw [UInt32.toNat_add, show ('A'.val - 'a'.val).toNat = 4294967264 from rfl]
    rw [ha, hz, show c.toNat = c.val.toNat from rfl] at hrange
    omega
  · rename_i h
    rw [if_neg (mt hlower.mpr h)]

/-- The characters with a given upper case are that letter in either case, which is what `SameLetter`
says. -/
theorem toUpper_eq_iff {c d : Char} (h : d.toUpper = d) : c.toUpper = d ↔ SameLetter c d := by
  have ha : 'a'.toNat = 97 := rfl
  have hz : 'z'.toNat = 122 := rfl
  have hA : 'A'.toNat = 65 := rfl
  have hd := toNat_toUpper d
  rw [h] at hd
  rw [SameLetter, ← Char.toNat_inj, ← Char.toNat_inj, toNat_toUpper]
  constructor
  · intro hc
    split at hc
    · exact Or.inr ⟨c.toNat - 97, by omega, Or.inl ⟨by omega, by omega⟩⟩
    · exact Or.inl hc
  · -- The same character, or `c` in lower case and `d` in upper case; the other way round is excluded
    -- by `h`.
    rintro (heq | ⟨i, hi, ⟨hc, hd'⟩ | ⟨hc, hd'⟩⟩)
    · rw [heq]
      exact hd.symm
    · rw [if_pos (by omega)]
      omega
    · split at hd <;> omega

/-- A text in upper case is a word of upper-case letters just if it is that word up to case. -/
theorem map_toUpper_eq_iff {text word : List Char} (h : ∀ d ∈ word, d.toUpper = d) :
    text.map Char.toUpper = word ↔ List.Forall₂ SameLetter text word := by
  induction text generalizing word with
  | nil => rw [List.map_nil, List.forall₂_nil_left_iff, eq_comm]
  | cons c text ih =>
    cases word with
    | nil => exact iff_of_false nofun nofun
    | cons d word =>
      rw [List.map_cons, List.cons.injEq, List.forall₂_cons,
        toUpper_eq_iff (h d List.mem_cons_self), ih fun e he => h e (List.mem_cons_of_mem d he)]

/-- The names of families are in upper case, so `Char.toUpper` leaves each letter of `Family.name`. -/
theorem toUpper_of_mem_name (f : Family) : ∀ d ∈ f.name.toList, d.toUpper = d := by
  have hall : (f.name.toList.all fun d => d.toUpper == d) = true := by cases f <;> decide
  intro d hd
  exact eq_of_beq (List.all_eq_true.mp hall d hd)

/-- Families have different names, so `Family.name` tells which one is meant. -/
theorem name_inj {f g : Family} (h : f.name = g.name) : f = g := by
  have hall : ∀ f ∈ all, ∀ g ∈ all, f.name = g.name → f = g := by decide
  exact hall f f.mem_all g g.mem_all h

/-- **The texts that are found** are the names of families up to case: `Family.ofName?` finds the one that
is `Named`. -/
theorem ofName?_eq_some_iff {f : Family} {name : String} : ofName? name = some f ↔ f.Named name := by
  have hupper : f.Named name ↔ f.name = name.map Char.toUpper := by
    rw [Named, ← map_toUpper_eq_iff f.toUpper_of_mem_name, ← String.toList_map, String.toList_inj,
      eq_comm]
  rw [hupper, ofName?]
  constructor
  · intro h
    have hfound := List.find?_some h
    exact eq_of_beq hfound
  · intro h
    -- Something is found, and it has this name.
    cases hfind : all.find? (·.name == name.map Char.toUpper) with
    | none => exact absurd (beq_iff_eq.mpr h) (List.find?_eq_none.mp hfind f f.mem_all)
    | some g =>
      have hfound := List.find?_some hfind
      rw [name_inj ((eq_of_beq hfound).trans h.symm)]

/-- `Family.ofName?` finds nothing just if no family has the name, in whatever letters. -/
theorem ofName?_eq_none_iff {name : String} : ofName? name = none ↔ ∀ f : Family, ¬f.Named name := by
  simp only [Option.eq_none_iff_forall_ne_some, ne_eq, ofName?_eq_some_iff]

end Family

namespace Configuration

open Toml (Value Entries)

/-! ## (2) Sets of families -/

/-- **The families of known names** are those that are `Named`, and those that were there. -/
theorem exists_familiesOf_eq_ok {names : List String} (h : ∀ name ∈ names, ∃ f : Family, f.Named name)
    (set : FamilySet) : ∃ families, familiesOf names set = .ok families ∧
      ∀ f, f ∈ families ↔ f ∈ set ∨ ∃ name ∈ names, f.Named name := by
  induction names generalizing set with
  | nil => exact ⟨set, rfl, fun f => by simp⟩
  | cons name rest ih =>
    obtain ⟨known, hknown⟩ := h name List.mem_cons_self
    obtain ⟨families, hok, hmem⟩ :=
      ih (fun other hother => h other (List.mem_cons_of_mem name hother)) (set ∪ .single known)
    refine ⟨families, ?_, fun f => ?_⟩
    · rw [familiesOf, Family.ofName?_eq_some_iff.mpr hknown]
      exact hok
    · -- The name stands for the one family that it was found to stand for.
      have hnamed : f = known ↔ f.Named name := by
        rw [← Family.ofName?_eq_some_iff, Family.ofName?_eq_some_iff.mpr hknown, Option.some.injEq,
          eq_comm]
      rw [hmem, FamilySet.mem_union, FamilySet.mem_single, hnamed, or_assoc]
      simp only [List.mem_cons, exists_eq_or_imp]

/-- **A list of names is refused** just if it has an unknown one: `familiesOf` fails with `unknownFamily`
for a name that no family is `Named`. -/
theorem familiesOf_eq_error_iff {names : List String} {set : FamilySet} {e : ClientError} :
    familiesOf names set = .error e ↔
      e = .validation .unknownFamily ∧ ∃ name ∈ names, ∀ f : Family, ¬f.Named name := by
  constructor
  · -- By induction on the names, which are read from the front: the first unknown one ends it.
    intro h
    induction names generalizing set with
    | nil => cases h
    | cons name rest ih =>
      rw [familiesOf] at h
      split at h
      · obtain ⟨he, other, hother, hunknown⟩ := ih h
        exact ⟨he, other, List.mem_cons_of_mem name hother, hunknown⟩
      · rename_i hnone
        cases h
        exact ⟨rfl, name, List.mem_cons_self, Family.ofName?_eq_none_iff.mp hnone⟩
  · rintro ⟨rfl, name, hname, hunknown⟩
    induction names generalizing set with
    | nil => cases hname
    | cons other rest ih =>
      rw [familiesOf]
      rcases List.mem_cons.mp hname with rfl | hname
      · rw [Family.ofName?_eq_none_iff.mpr hunknown]
      · split
        · exact ih hname
        · rfl

/-! ## (3) Texts -/

/-- A `Configuration` passes unless no service may be open or a name is unknown. -/
theorem check_eq_ok_iff {c d : Configuration} : c.check = .ok d ↔
    c = d ∧ 1 ≤ c.maxServices ∧ ∀ name ∈ c.families, ∃ f : Family, f.Named name := by
  have hknown : (c.families.find? fun name => (Family.ofName? name).isNone) = none ↔
      ∀ name ∈ c.families, ∃ f : Family, f.Named name := by
    simp only [List.find?_eq_none, Option.isNone_iff_eq_none, Family.ofName?_eq_none_iff, not_forall,
      not_not]
  rw [← hknown, check]
  -- The number of services is looked at first, then the names.
  split
  · rename_i hzero
    exact iff_of_false nofun fun h => by omega
  · rename_i hpos
    split
    · rename_i hfind
      rw [hfind]
      exact iff_of_false nofun fun h => nomatch h.2.2
    · rename_i hfind
      rw [hfind, Except.ok.injEq]
      exact ⟨fun h => ⟨h, Nat.one_le_iff_ne_zero.mpr hpos, rfl⟩, And.left⟩

/-- **The texts that are accepted**: `Configuration.ofText` reads them as a table with at least one
service and with names of families only. -/
theorem ofText_eq_ok_iff {text : String} {c : Configuration} : ofText text = .ok c ↔
    (Toml.read text).bind ofTable? = some c ∧ 1 ≤ c.maxServices ∧
      ∀ name ∈ c.families, ∃ f : Family, f.Named name := by
  rw [ofText]
  cases (Toml.read text).bind ofTable? with
  | none => exact iff_of_false nofun nofun
  | some d =>
    rw [check_eq_ok_iff, Option.some.injEq]
    constructor <;> rintro ⟨rfl, h⟩ <;> exact ⟨rfl, h⟩

/-- **A text lists a name**: its array of families has it, as `Toml.read` gives the entries. -/
def Lists (text name : String) : Prop :=
  ∃ entries items, Toml.read text = some entries ∧ entries.lookup "families" = some (.array items) ∧
    Value.string name ∈ items

/-- A list of texts is an array of them: each `Value.string` of the array is one of what `strings?`
gives. -/
theorem mem_of_strings? {items : List Value} {texts : List String}
    (h : strings? (.array items) = some texts) {name : String} (hname : Value.string name ∈ items) :
    name ∈ texts := by
  rw [strings?] at h
  -- By induction on the items, each of which must be a string.
  induction items generalizing texts with
  | nil => cases hname
  | cons item items ih =>
    rw [List.mapM_cons, Option.bind_eq_bind, Option.bind_eq_some_iff] at h
    obtain ⟨first, hfirst, h⟩ := h
    rw [Option.bind_eq_bind, Option.bind_eq_some_iff] at h
    obtain ⟨others, hothers, h⟩ := h
    cases h
    rcases List.mem_cons.mp hname with rfl | hname
    · cases hfirst
      exact List.mem_cons_self
    · exact List.mem_cons_of_mem first (ih hothers hname)

/-- The families of a `Configuration` are what is under their key. -/
theorem families_of_ofTable? {entries : Entries} {c : Configuration} (h : ofTable? entries = some c) :
    orDefault ({} : Configuration).families strings? (entries.lookup "families") = some c.families := by
  simp only [ofTable?, Option.bind_eq_bind, Option.bind_eq_some_iff] at h
  obtain ⟨_, -, _, -, _, -, families, hfamilies, _, -, _, -, hc⟩ := h
  cases hc
  exact hfamilies

/-- What a text lists is in the `Configuration` that is read from it. -/
theorem Lists.mem_families {text name : String} {c : Configuration} (h : Lists text name)
    (hread : (Toml.read text).bind ofTable? = some c) : name ∈ c.families := by
  obtain ⟨entries, items, hentries, hlookup, hname⟩ := h
  rw [hentries, Option.bind_some] at hread
  have hfamilies := families_of_ofTable? hread
  rw [hlookup] at hfamilies
  exact mem_of_strings? hfamilies hname

/-- **A `Configuration` can be used**: some service may be open, and a session gets the families that it
needs to come up and those that are `Named`. -/
structure Usable (c : Configuration) : Prop where
  one_le : 1 ≤ c.maxServices
  exists_serviceFamilies : ∃ families, c.serviceFamilies = .ok families ∧
    ∀ f, f ∈ families ↔ f = .session ∨ f = .keyStore ∨ ∃ name ∈ c.families, f.Named name

/-- **A `Configuration` that is accepted can be used.** A text that `Lists` anything but the names of
families, up to the case of their letters, is not accepted; and however a configuration comes about, its
families are refused just if one of its names is unknown. -/
theorem accepted_usable :
    (∀ text c, ofText text = .ok c → c.Usable ∧ ∀ name, Lists text name → name ∈ c.families) ∧
    (∀ text name, Lists text name → (∀ f : Family, ¬f.Named name) →
      ∃ reason, ofText text = .error reason) ∧
    ∀ (c : Configuration) (e : ClientError), c.serviceFamilies = .error e ↔
      e = .validation .unknownFamily ∧ ∃ name ∈ c.families, ∀ f : Family, ¬f.Named name := by
  refine ⟨fun text c hok => ?_, fun text name hlists hunknown => ?_, fun c e => familiesOf_eq_error_iff⟩
  · obtain ⟨hread, hone, hknown⟩ := ofText_eq_ok_iff.mp hok
    obtain ⟨families, hfamilies, hmem⟩ := exists_familiesOf_eq_ok hknown .required
    refine ⟨⟨hone, families, hfamilies, fun f => ?_⟩, fun name hlists => hlists.mem_families hread⟩
    rw [hmem, FamilySet.required, FamilySet.mem_union, FamilySet.mem_single, FamilySet.mem_single,
      or_assoc]
  · cases hresult : ofText text with
    | error reason => exact ⟨reason, rfl⟩
    | ok c =>
      -- An accepted text would list known names only.
      obtain ⟨hread, -, hknown⟩ := ofText_eq_ok_iff.mp hresult
      obtain ⟨f, hnamed⟩ := hknown name (hlists.mem_families hread)
      exact absurd hnamed (hunknown f)

/-- The long s has the upper case of an ASCII letter, but is none. -/
theorem lists_longS : Lists "families = [\"mac\", \"ſhe\"]\n" "ſhe" := by
  have hread : Toml.read "families = [\"mac\", \"ſhe\"]\n" =
      some [("families", .array [.string "mac", .string "ſhe"])] := rfl
  exact ⟨_, _, hread, rfl, List.mem_cons_of_mem _ List.mem_cons_self⟩

/-- Names in mixed case, one of them twice, are accepted, while a text with a long s is refused. -/
theorem accepted_usable_mixed :
    let text := "families = [\"mac\", \"Hash\", \"MAC\"]\nmax_services = 3\n"
    let c : Configuration := { families := ["mac", "Hash", "MAC"], maxServices := 3 }
    ofText text = .ok c ∧ c.Usable ∧
      ∃ reason, ofText "families = [\"mac\", \"ſhe\"]\n" = .error reason := by
  intro text c
  obtain ⟨haccepted, hrefused, -⟩ := accepted_usable
  have hknown : ∀ name ∈ c.families, ∃ f ∈ Family.all, f.Named name := by decide
  have hok : ofText text = .ok c := by
    refine ofText_eq_ok_iff.mpr ⟨by decide +kernel, by decide, fun name hname => ?_⟩
    obtain ⟨f, -, hnamed⟩ := hknown name hname
    exact ⟨f, hnamed⟩
  -- A long s is not a letter of any name, though its upper case is one.
  have hunknown : ∀ f : Family, ¬f.Named "ſhe" := by
    intro f
    cases f <;> decide
  exact ⟨hok, (haccepted text c hok).1, hrefused _ _ lists_longS hunknown⟩

end Configuration

end SecureEngine
