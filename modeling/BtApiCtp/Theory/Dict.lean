/-
# Theory.Dict -- dictionaries

A dictionary is an association list with distinct keys (Mathlib's `AList`).  The
two lookup laws are stated as one equation each, so that `simp` decides them by
splitting on the key, and `mapValues` rewrites every value in place.
-/
import Mathlib.Data.List.AList
import Mathlib.Data.List.Dedup
import Mathlib.Data.List.Sort

namespace BtApiCtp.Theory

abbrev Dict (κ ν : Type) : Type := AList fun _ : κ => ν

namespace Dict

variable {κ ν : Type} [DecidableEq κ] (d : Dict κ ν)

theorem lookup_insert_eq (k k' : κ) (v : ν) :
    (d.insert k v).lookup k' = if k' = k then some v else d.lookup k' := by
  split
  · rename_i same
    subst same
    exact AList.lookup_insert d
  · rename_i other
    exact AList.lookup_insert_ne other

theorem lookup_erase_eq (k k' : κ) :
    (d.erase k).lookup k' = if k' = k then none else d.lookup k' := by
  split
  · rename_i same
    subst same
    exact AList.lookup_erase k' d
  · rename_i other
    exact AList.lookup_erase_ne other

variable {d} in
theorem lookup_of_erase {k k' : κ} {v : ν} (found : (d.erase k).lookup k' = some v) :
    d.lookup k' = some v := by
  rw [lookup_erase_eq] at found
  split at found
  · cases found
  · exact found

/-- Set a key, or remove it. -/
def put (k : κ) : Option ν → Dict κ ν
  | some v => d.insert k v
  | none => d.erase k

theorem lookup_put (k k' : κ) (v : Option ν) :
    (d.put k v).lookup k' = if k' = k then v else d.lookup k' := by
  cases v with
  | none => exact lookup_erase_eq d k k'
  | some v => exact lookup_insert_eq d k k' v

/-- Rewrite every value, keys and order unchanged. -/
def mapValues (f : κ → ν → ν) (d : Dict κ ν) : Dict κ ν :=
  ⟨d.entries.map fun entry => ⟨entry.1, f entry.1 entry.2⟩, d.nodupKeys.map₂ f d.entries⟩

theorem lookup_mapValues (f : κ → ν → ν) (d : Dict κ ν) (k : κ) :
    (d.mapValues f).lookup k = (d.lookup k).map (f k) :=
  List.dlookup_map₂ k

/-- Keep the entries that pass. -/
def filter (keep : κ → ν → Bool) (d : Dict κ ν) : Dict κ ν :=
  ⟨d.entries.filter fun entry => keep entry.1 entry.2, d.nodupKeys.sublist List.filter_sublist⟩

theorem lookup_filter (keep : κ → ν → Bool) (k : κ) :
    (d.filter keep).lookup k = (d.lookup k).filter (keep k) := by
  refine Option.ext fun v => ?_
  rw [Option.filter_eq_some_iff, ← Option.mem_def, AList.mem_lookup_iff, ← Option.mem_def (a := v),
    AList.mem_lookup_iff]
  exact List.mem_filter

/-- The pairs of the dictionary. -/
def items : List (κ × ν) := d.entries.map fun entry => (entry.1, entry.2)

variable {d : Dict κ ν} {k : κ} {v : ν}

theorem mem_items : (k, v) ∈ d.items ↔ d.lookup k = some v := by
  constructor
  · intro mem
    obtain ⟨⟨k', v'⟩, inEntries, pair⟩ := List.mem_map.mp mem
    cases pair
    exact AList.mem_lookup_iff.mpr inEntries
  · intro found
    exact List.mem_map.mpr ⟨⟨k, v⟩, AList.mem_lookup_iff.mp found, rfl⟩

omit [DecidableEq κ] in
theorem items_nodup (d : Dict κ ν) : d.items.Nodup := by
  refine d.nodupKeys.nodup.map fun entry entry' same => ?_
  obtain ⟨key, value⟩ := Prod.mk.inj same
  exact Sigma.ext key (heq_of_eq value)

/-- The only pair that passes a test. -/
theorem items_filter_eq_singleton {test : κ × ν → Bool} (found : d.lookup k = some v)
    (passes : test (k, v) = true)
    (only : ∀ k' v', d.lookup k' = some v' → test (k', v') = true → k' = k) :
    d.items.filter test = [(k, v)] := by
  have mem : (k, v) ∈ d.items.filter test := List.mem_filter.mpr ⟨mem_items.mpr found, passes⟩
  refine List.perm_singleton.mp ((List.perm_ext_iff_of_nodup (d.items_nodup.filter _)
    (List.nodup_singleton _)).mpr fun pair => ?_)
  rw [List.mem_singleton]
  constructor
  · intro here
    obtain ⟨inItems, passed⟩ := List.mem_filter.mp here
    have value := mem_items.mp inItems
    obtain rfl := only pair.1 pair.2 value passed
    rw [found] at value
    exact Prod.ext rfl (Option.some.inj value).symm
  · rintro rfl
    exact mem

end Dict
end BtApiCtp.Theory
