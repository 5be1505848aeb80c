/-
# Python.Dictionary -- dictionaries up to the order of their entries

A dictionary keeps its entries in the order they came in, and no key twice.  Reading a field,
putting one in and taking one out do not depend on that order, and neither does anything that
sorts the entries first.
-/
import BtApiCtp.Python.Json
import BtApiCtp.Python.Value

namespace BtApiCtp.Python

variable {value : Value} {entries : List (String × Value)}

/-! ## Lookup -/

section Lookup

variable {α β : Type} [DecidableEq α] {entries : List (α × β)} {key : α}

theorem lookup_eq_none_iff_keys : entries.lookup key = none ↔ key ∉ entries.map Prod.fst := by
  rw [List.lookup_eq_none_iff]
  simp only [bne_iff_ne, List.mem_map, not_exists, not_and]
  exact ⟨fun apart entry mem same => apart entry mem same.symm,
    fun apart entry mem same => apart entry mem same.symm⟩

variable {item : β}

theorem mem_of_lookup (found : entries.lookup key = some item) : (key, item) ∈ entries := by
  obtain ⟨_, _, same, _⟩ := List.lookup_eq_some_iff.mp found
  simp [same]

theorem lookup_eq_some_iff_mem (distinct : (entries.map Prod.fst).Nodup) :
    entries.lookup key = some item ↔ (key, item) ∈ entries := by
  refine ⟨mem_of_lookup, fun mem => ?_⟩
  cases found : entries.lookup key with
  | none => exact absurd (List.mem_map_of_mem mem) (lookup_eq_none_iff_keys.mp found)
  | some own =>
    have same := List.inj_on_of_nodup_map distinct (mem_of_lookup found) mem rfl
    cases same
    rfl

/-- A lookup does not depend on the order of entries with different keys. -/
theorem lookup_perm {others : List (α × β)} (perm : entries.Perm others)
    (distinct : (entries.map Prod.fst).Nodup) (key : α) :
    entries.lookup key = others.lookup key := by
  have distinct' := (perm.map Prod.fst).nodup_iff.mp distinct
  refine Option.ext fun item => ?_
  rw [lookup_eq_some_iff_mem distinct, lookup_eq_some_iff_mem distinct']
  exact perm.mem_iff

end Lookup

namespace Fields

variable {fields : Fields} {name : String}

theorem get_pop_self (fields : Fields) (name : String) : (fields.pop name).get name = none := by
  unfold pop get
  rw [List.lookup_eq_none_iff]
  rintro ⟨key, value⟩ mem
  have apart : key ≠ name := by simpa using (List.mem_filter.mp mem).2
  exact bne_iff_ne.mpr apart.symm

theorem get_eq_none_iff : fields.get name = none ↔ name ∉ fields.map Prod.fst :=
  lookup_eq_none_iff_keys

theorem mem_of_get (found : fields.get name = some value) : (name, value) ∈ fields :=
  mem_of_lookup found

theorem get_set_self (fields : Fields) (name : String) (value : Value) :
    (fields.set name value).get name = some value := by
  unfold set
  split
  · rename_i present
    induction fields with
    | nil => cases present
    | cons entry fields ih =>
      obtain ⟨key, own⟩ := entry
      simp only [List.map_cons, get, List.lookup_cons] at ih present ⊢
      by_cases here : key = name
      · simp [here]
      · have apart : (name == key) = false := beq_false_of_ne (Ne.symm here)
        simp only [apart] at present
        simp only [here, if_false, List.lookup_cons, apart]
        exact ih present
  · rename_i absent
    rw [Bool.not_eq_true, Option.isSome_eq_false_iff, Option.isNone_iff_eq_none] at absent
    simp [get, List.lookup_append, absent]

theorem get_eq_some_iff (distinct : (fields.map Prod.fst).Nodup) :
    fields.get name = some value ↔ (name, value) ∈ fields :=
  lookup_eq_some_iff_mem distinct

theorem mem_set_iff {entry : String × Value} :
    entry ∈ fields.set name value ↔ entry = (name, value) ∨ entry ∈ fields ∧ entry.1 ≠ name := by
  unfold set
  split
  · rename_i present
    obtain ⟨old, found⟩ := Option.isSome_iff_exists.mp present
    have here : (name, old) ∈ fields := mem_of_get found
    rw [List.mem_map]
    constructor
    · rintro ⟨own, among, rfl⟩
      split
      · exact .inl rfl
      · rename_i apart
        exact .inr ⟨among, apart⟩
    · rintro (rfl | ⟨among, apart⟩)
      · exact ⟨(name, old), here, if_pos rfl⟩
      · exact ⟨entry, among, if_neg apart⟩
  · rename_i absent
    have nowhere : name ∉ fields.map Prod.fst := by
      rw [Bool.not_eq_true, Option.isSome_eq_false_iff, Option.isNone_iff_eq_none] at absent
      exact get_eq_none_iff.mp absent
    rw [List.mem_append, List.mem_singleton, or_comm]
    refine or_congr_right ⟨fun among => ⟨among, fun same => nowhere ?_⟩, And.left⟩
    exact same ▸ List.mem_map_of_mem among

/-! ### `d.update(...)` -/

theorem get_update_of_not_mem (apart : name ∉ entries.map Prod.fst) :
    Fields.get (entries.foldl (fun fields entry => fields.set entry.1 entry.2) fields) name =
      fields.get name := by
  induction entries generalizing fields with
  | nil => rfl
  | cons entry entries ih =>
    rw [List.map_cons, List.mem_cons, not_or] at apart
    rw [List.foldl_cons, ih apart.2, get_set_of_ne apart.1]

/-- What is put in does not depend on what was there. -/
theorem get_update_of_mem {others : Fields} (mem : name ∈ entries.map Prod.fst) :
    Fields.get (entries.foldl (fun fields entry => fields.set entry.1 entry.2) fields) name =
      Fields.get (entries.foldl (fun fields entry => fields.set entry.1 entry.2) others) name := by
  induction entries generalizing fields others with
  | nil => cases mem
  | cons entry entries ih =>
    rw [List.foldl_cons, List.foldl_cons]
    by_cases later : name ∈ entries.map Prod.fst
    · exact ih later
    · rw [List.map_cons, List.mem_cons] at mem
      rw [get_update_of_not_mem later, get_update_of_not_mem later, mem.resolve_right later,
        get_set_self, get_set_self]

end Fields

/-- The same dictionary, whose entries may come in another order. -/
structure SameDict (fields others : Fields) : Prop where
  perm : fields.Perm others
  distinct : (fields.map Prod.fst).Nodup

namespace SameDict

variable {fields others : Fields}

theorem refl (distinct : (fields.map Prod.fst).Nodup) :
    SameDict fields fields := ⟨.refl _, distinct⟩

/-- Dictionaries with the same fields are the same. -/
theorem of_get (distinct : (fields.map Prod.fst).Nodup) (distinct' : (others.map Prod.fst).Nodup)
    (equal : ∀ name, fields.get name = others.get name) : SameDict fields others := by
  refine ⟨(List.perm_ext_iff_of_nodup distinct.of_map distinct'.of_map).mpr fun entry => ?_, distinct⟩
  obtain ⟨name, value⟩ := entry
  rw [← Fields.get_eq_some_iff distinct, ← Fields.get_eq_some_iff distinct', equal]

variable (same : SameDict fields others)
include same

theorem get (name : String) : fields.get name = others.get name :=
  lookup_perm same.perm same.distinct name

theorem pop (name : String) : SameDict (fields.pop name) (others.pop name) :=
  ⟨same.perm.filter _, (List.filter_sublist.map Prod.fst).nodup same.distinct⟩

theorem set (name : String) (value : Value) :
    SameDict (fields.set name value) (others.set name value) := by
  have present := same.get name
  simp only [Fields.get] at present
  unfold Fields.set
  rw [← present]
  split
  · refine ⟨same.perm.map _, ?_⟩
    have keys : (Prod.fst ∘ fun entry : String × Value =>
        if entry.1 = name then (name, value) else entry) = Prod.fst := by
      funext entry
      simp only [Function.comp_apply]
      split
      · rename_i here
        exact here.symm
      · rfl
    rw [List.map_map, keys]
    exact same.distinct
  · rename_i absent
    refine ⟨same.perm.append_right _, ?_⟩
    rw [Bool.not_eq_true, Option.isSome_eq_false_iff, Option.isNone_iff_eq_none] at absent
    rw [List.map_append, List.map_singleton, ← List.concat_eq_append]
    exact same.distinct.concat (Fields.get_eq_none_iff.mp absent)

theorem update (entries : List (String × Value)) :
    SameDict (entries.foldl (fun fields entry => fields.set entry.1 entry.2) fields)
      (entries.foldl (fun fields entry => fields.set entry.1 entry.2) others) := by
  induction entries generalizing fields others with
  | nil => exact same
  | cons entry entries ih => exact ih (same.set entry.1 entry.2)

end SameDict

/-- Entries with different keys are sorted alike, whatever order they come in. -/
theorem mem_sortByKey {α : Type} {members : List (String × α)} {member : String × α} :
    member ∈ sortByKey members ↔ member ∈ members :=
  (List.perm_insertionSort _ members).mem_iff

theorem sortByKey_perm {α : Type} {members others : List (String × α)} (perm : members.Perm others)
    (distinct : (members.map Prod.fst).Nodup) : sortByKey members = sortByKey others := by
  unfold sortByKey
  refine List.Perm.eq_of_pairwise ?_ (List.pairwise_insertionSort _ _)
    (List.pairwise_insertionSort _ _)
    (((List.perm_insertionSort _ _).trans perm).trans (List.perm_insertionSort _ _).symm)
  intro a b first second le ge
  have among := (List.perm_insertionSort _ _).mem_iff.mp first
  have among' := perm.mem_iff.mpr ((List.perm_insertionSort _ _).mem_iff.mp second)
  exact List.inj_on_of_nodup_map distinct among among' (le_antisymm le ge)

end BtApiCtp.Python
