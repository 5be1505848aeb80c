/-
# Python.Equality -- `==` as a relation

`==` of two values that are not one object.  It is transitive, and symmetric on values whose
mappings have no key twice (no mapping has, but lists of entries may).  It is not reflexive: a NaN
is unequal to itself.
-/
import BtApiCtp.Python.Dictionary

namespace BtApiCtp.Python.Value

variable {x y z : Value} {p q : Number} {xs ys : List (Key × Value)}

theorem numberEq_iff : numberEq p q = true ↔ p = q ∧ p ≠ .nan := by
  cases p <;> cases q <;> simp [numberEq]

/-- What stands for a number equals what stands for an equal one. -/
theorem eq_of_number (number : x.number = some p) (y : Value) :
    eq x y = y.number.any (numberEq p) := by
  cases x <;> cases number <;> cases y <;> simp [eq, Value.number]

theorem eq_of_number_iff (number : x.number = some p) :
    eq x y = true ↔ y.number = some p ∧ p ≠ .nan := by
  rw [eq_of_number number, Option.any_eq_true]
  constructor
  · rintro ⟨q, there, same⟩
    obtain ⟨rfl, notNan⟩ := numberEq_iff.mp same
    exact ⟨there, notNan⟩
  · rintro ⟨there, notNan⟩
    exact ⟨p, there, numberEq_iff.mpr ⟨rfl, notNan⟩⟩

/-- Moments are equal if they have the same place: in UTC, or on a clock without a time zone. -/
theorem datetimeEq_iff {x y : Datetime} : datetimeEq x y = true ↔
    x.offset.isSome = y.offset.isSome ∧ x.wall - x.offset.getD 0 = y.wall - y.offset.getD 0 := by
  obtain ⟨wall, offset⟩ := x
  obtain ⟨wall', offset'⟩ := y
  cases offset <;> cases offset' <;> simp [datetimeEq]

theorem eq_trans_of_number (number : x.number = some p) (first : eq x y = true)
    (second : eq y z = true) : eq x z = true := by
  obtain ⟨there, notNan⟩ := (eq_of_number_iff number).mp first
  exact (eq_of_number_iff number).mpr ⟨((eq_of_number_iff there).mp second).1, notNan⟩

theorem eq_symm_of_number (number : x.number = some p) (same : eq x y = true) : eq y x = true := by
  obtain ⟨there, notNan⟩ := (eq_of_number_iff number).mp same
  exact (eq_of_number_iff there).mpr ⟨number, notNan⟩

theorem entriesEq_iff : entriesEq xs ys = true ↔
    ∀ entry ∈ xs, ∃ other, ys.lookup entry.1 = some other ∧ eq entry.2 other = true := by
  induction xs with
  | nil => simp [entriesEq]
  | cons entry xs ih =>
    obtain ⟨key, x⟩ := entry
    rw [entriesEq, Bool.and_eq_true, ih, List.forall_mem_cons]
    refine and_congr_left fun _ => ?_
    cases ys.lookup key <;> simp

/-! ## Transitivity -/

mutual

theorem eq_trans : ∀ (x : Value) {y z : Value}, eq x y = true → eq y z = true → eq x z = true
  | .none, y, z, first, second => by
    cases y <;> simp [eq, number] at first
    exact second
  | .str text, y, z, first, second => by
    rw [eq_str_iff] at first
    rw [first] at second
    exact second
  | .datetime moment, y, z, first, second => by
    cases y <;> simp [eq, number] at first
    cases z <;> simp [eq, number] at second ⊢
    rw [datetimeEq_iff] at *
    exact ⟨first.1.trans second.1, first.2.trans second.2⟩
  | .list xs, y, z, first, second | .tuple xs, y, z, first, second => by
    cases y <;> simp [eq, number] at first
    cases z <;> simp [eq, number] at second ⊢
    exact listEq_trans xs first second
  | .mapping _ xs, y, z, first, second => by
    cases y <;> simp [eq, number] at first
    cases z <;> simp [eq, number] at second ⊢
    exact ⟨first.1.trans second.1, entriesEq_trans xs first.2 second.2⟩
  | .object identity _, y, z, first, second => by
    cases y <;> simp [eq, number] at first
    cases z <;> simp [eq, number] at second ⊢
    exact first.trans second
  | .bool _, _, _, first, second | .int _, _, _, first, second
  | .float _ _ _, _, _, first, second | .decimal _ _, _, _, first, second =>
    eq_trans_of_number rfl first second

theorem listEq_trans : ∀ (xs : List Value) {ys zs : List Value}, listEq xs ys = true →
    listEq ys zs = true → listEq xs zs = true
  | [], ys, zs, first, second => by
    cases ys <;> simp [listEq] at first
    exact second
  | x :: xs, ys, zs, first, second => by
    cases ys <;> simp [listEq] at first
    cases zs <;> simp [listEq] at second ⊢
    exact ⟨eq_trans x first.1 second.1, listEq_trans xs first.2 second.2⟩

theorem entriesEq_trans : ∀ (xs : List (Key × Value)) {ys zs : List (Key × Value)},
    entriesEq xs ys = true → entriesEq ys zs = true → entriesEq xs zs = true
  | [], _, _, _, _ => rfl
  | (key, x) :: xs, ys, zs, first, second => by
    have all := entriesEq_iff.mp first
    obtain ⟨y, there, same⟩ := all (key, x) List.mem_cons_self
    obtain ⟨z, found, same'⟩ := entriesEq_iff.mp second (key, y) (mem_of_lookup there)
    have rest : entriesEq xs zs = true := entriesEq_trans xs
      (entriesEq_iff.mpr fun entry mem => all entry (List.mem_cons_of_mem _ mem)) second
    simp [entriesEq, found, eq_trans x same same', rest]

end

/-! ## Symmetry -/

def tidyHere : Value → Bool
  | .mapping _ entries => (entries.map Prod.fst).Nodup
  | _ => true

/-- No key twice in a mapping. -/
def tidy (value : Value) : Bool := everywhere tidyHere value

theorem tidy_mapping {kind : String} : tidy (.mapping kind xs) = true ↔
    (xs.map Prod.fst).Nodup ∧ everyEntry tidyHere xs = true := by
  simp [tidy, everywhere, tidyHere]

/-- Mappings of one size: if every entry of the first has its like, so has every entry of the
second. -/
theorem entriesEq_symm (distinct : (xs.map Prod.fst).Nodup) (distinct' : (ys.map Prod.fst).Nodup)
    (size : xs.length = ys.length) (same : entriesEq xs ys = true)
    (each : ∀ entry ∈ xs, ∀ other ∈ ys, eq entry.2 other.2 = true → eq other.2 entry.2 = true) :
    entriesEq ys xs = true := by
  rw [entriesEq_iff] at same ⊢
  have keys : xs.map Prod.fst ⊆ ys.map Prod.fst := by
    intro key mem
    obtain ⟨entry, among, rfl⟩ := List.mem_map.mp mem
    obtain ⟨other, found, _⟩ := same entry among
    exact List.mem_map.mpr ⟨(entry.1, other), mem_of_lookup found, rfl⟩
  have all := (List.subperm_of_subset distinct keys).perm_of_length_le (by simp [size])
  rintro ⟨key, y⟩ mem
  obtain ⟨⟨_, x⟩, among, rfl⟩ := List.mem_map.mp (all.mem_iff.mpr (List.mem_map_of_mem mem))
  obtain ⟨other, found, alike⟩ := same _ among
  rw [(lookup_eq_some_iff_mem distinct').mpr mem] at found
  cases found
  exact ⟨x, (lookup_eq_some_iff_mem distinct).mpr among, each _ among _ mem alike⟩

mutual

theorem eq_symm : ∀ (x : Value) {y : Value}, x.tidy = true → y.tidy = true →
    eq x y = true → eq y x = true
  | .none, y, _, _, same => by
    cases y <;> simp [eq, number] at same ⊢
  | .str text, y, _, _, same => by
    rw [eq_str_iff] at same
    simp [same, eq]
  | .datetime _, y, _, _, same => by
    cases y <;> simp [eq, number] at same ⊢
    rw [datetimeEq_iff] at same ⊢
    exact ⟨same.1.symm, same.2.symm⟩
  | .object _ _, y, _, _, same => by
    cases y <;> simp [eq, number] at same ⊢
    exact same.symm
  | .list xs, y, tidy, tidy', same | .tuple xs, y, tidy, tidy', same => by
    cases y <;> simp [eq, number] at same ⊢
    simp only [Value.tidy, everywhere, Bool.and_eq_true] at tidy tidy'
    exact listEq_symm xs tidy.2 tidy'.2 same
  | .mapping _ xs, y, tidy, tidy', same => by
    cases y <;> simp [eq, number] at same ⊢
    obtain ⟨distinct, inside⟩ := tidy_mapping.mp tidy
    obtain ⟨distinct', inside'⟩ := tidy_mapping.mp tidy'
    refine ⟨same.1.symm, entriesEq_symm distinct distinct' same.1 same.2 ?_⟩
    intro entry mem other among
    exact entries_symm xs inside entry mem (everyEntry_iff.mp inside' other among)
  | .bool _, _, _, _, same | .int _, _, _, _, same | .float _ _ _, _, _, _, same
  | .decimal _ _, _, _, _, same => eq_symm_of_number rfl same

theorem listEq_symm : ∀ (xs : List Value) {ys : List Value}, everyItem tidyHere xs = true →
    everyItem tidyHere ys = true → listEq xs ys = true → listEq ys xs = true
  | [], ys, _, _, same => by
    cases ys <;> simp [listEq] at same ⊢
  | x :: xs, ys, inside, inside', same => by
    cases ys <;> simp [listEq] at same ⊢
    simp only [everyItem, Bool.and_eq_true] at inside inside'
    exact ⟨eq_symm x inside.1 inside'.1 same.1, listEq_symm xs inside.2 inside'.2 same.2⟩

theorem entries_symm : ∀ xs : List (Key × Value), everyEntry tidyHere xs = true →
    ∀ entry ∈ xs, ∀ {y : Value}, y.tidy = true → eq entry.2 y = true → eq y entry.2 = true
  | [], _, _, mem, _, _, _ => by cases mem
  | (_, x) :: xs, inside, entry, mem, y, tidy, same => by
    simp only [everyEntry, Bool.and_eq_true] at inside
    rcases List.mem_cons.mp mem with rfl | mem
    · exact eq_symm x inside.1 tidy same
    · exact entries_symm xs inside.2 entry mem tidy same

end

end BtApiCtp.Python.Value
