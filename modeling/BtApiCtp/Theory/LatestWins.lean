/-
# Theory.LatestWins -- one value per key, the newest

Values carry a key and a stamp.  `latest` keeps one value per key, replacing the
one it holds when a value of the same key and at least the same stamp arrives;
`dedupSort` lists what is left in key order.  What such a list is for is said by
`Covers`: a value is covered when some held value has its key and a stamp at
least as large.  Deduplication covers everything it was given
(`covers_dedupSort`), and covering composes (`Covers.trans`), so a chain of merges
covers whatever any of its links was given.
-/
import Mathlib.Data.List.Sort
import Mathlib.Order.Lattice

namespace BtApiCtp.Theory.LatestWins

section Keyed

variable {α κ : Type} (key : α → κ) (stamp : α → Int)

/-- Some held value has the key of `row` and a stamp at least as large. -/
def Covers (held : List α) (row : α) : Prop :=
  ∃ kept ∈ held, key kept = key row ∧ stamp row ≤ stamp kept

instance [DecidableEq κ] (held : List α) (row : α) : Decidable (Covers key stamp held row) :=
  inferInstanceAs (Decidable (∃ kept ∈ held, key kept = key row ∧ stamp row ≤ stamp kept))

variable {key stamp} {held : List α} {row : α}

theorem covers_of_mem (mem : row ∈ held) : Covers key stamp held row :=
  ⟨row, mem, rfl, le_rfl⟩

theorem Covers.mono {wider : List α} (covered : Covers key stamp held row)
    (sub : ∀ kept ∈ held, kept ∈ wider) : Covers key stamp wider row := by
  obtain ⟨kept, mem, sameKey, newer⟩ := covered
  exact ⟨kept, sub kept mem, sameKey, newer⟩

/-- Covering composes: what covers all of `middle` covers what `middle` covers. -/
theorem Covers.trans {middle : List α} (covered : Covers key stamp middle row)
    (all : ∀ kept ∈ middle, Covers key stamp held kept) : Covers key stamp held row := by
  obtain ⟨kept, mem, sameKey, newer⟩ := covered
  obtain ⟨final, finalMem, finalKey, finalNewer⟩ := all kept mem
  exact ⟨final, finalMem, finalKey.trans sameKey, newer.trans finalNewer⟩

variable [LinearOrder κ] (key stamp)

/-- Put `row` in a list with one value per key: it replaces the value of its key
unless that value is strictly newer. -/
def place (row : α) : List α → List α
  | [] => [row]
  | current :: rest =>
    if key current = key row then
      (if stamp current ≤ stamp row then row else current) :: rest
    else current :: place row rest

def latest (rows : List α) : List α :=
  rows.foldl (fun held row => place key stamp row held) []

def dedupSort (rows : List α) : List α :=
  (latest key stamp rows).insertionSort fun a b => key a ≤ key b

variable {key stamp}

/-! ## What one placement does -/

variable {kept : α}

theorem covers_place_self (row : α) (held : List α) :
    Covers key stamp (place key stamp row held) row := by
  induction held with
  | nil => exact covers_of_mem (List.mem_singleton_self row)
  | cons current rest ih =>
    simp only [place]
    split
    · rename_i sameKey
      split
      · exact covers_of_mem List.mem_cons_self
      · rename_i older
        exact ⟨current, List.mem_cons_self, sameKey, by omega⟩
    · exact ih.mono fun kept mem => List.mem_cons_of_mem _ mem

theorem covers_place_held (row : α) (mem : kept ∈ held) :
    Covers key stamp (place key stamp row held) kept := by
  induction held with
  | nil => cases mem
  | cons current rest ih =>
    simp only [place]
    split
    · rename_i sameKey
      rcases List.mem_cons.mp mem with rfl | inRest
      · split
        · rename_i newer
          exact ⟨row, List.mem_cons_self, sameKey.symm, newer⟩
        · exact covers_of_mem List.mem_cons_self
      · exact covers_of_mem (List.mem_cons_of_mem _ inRest)
    · rcases List.mem_cons.mp mem with rfl | inRest
      · exact covers_of_mem List.mem_cons_self
      · exact (ih inRest).mono fun _ inPlaced => List.mem_cons_of_mem _ inPlaced

/-! ## Whole lists -/

/-- The fold covers what it started from and everything it was given. -/
theorem covers_foldl_place (rows : List α) :
    ∀ {held : List α} {row : α}, row ∈ held ∨ row ∈ rows →
      Covers key stamp (rows.foldl (fun held row => place key stamp row held) held) row := by
  induction rows with
  | nil => exact fun mem => covers_of_mem (mem.resolve_right List.not_mem_nil)
  | cons first rest ih =>
    intro held row mem
    have first_or_rest : Covers key stamp (place key stamp first held) row ∨ row ∈ rest := by
      rcases mem with inHeld | inRows
      · exact .inl (covers_place_held first inHeld)
      · rcases List.mem_cons.mp inRows with rfl | inRest
        · exact .inl (covers_place_self row held)
        · exact .inr inRest
    rcases first_or_rest with covered | inRest
    · exact covered.trans fun kept mem => ih (.inl mem)
    · exact ih (.inr inRest)

theorem covers_dedupSort {rows : List α} (covered : Covers key stamp rows row) :
    Covers key stamp (dedupSort key stamp rows) row := by
  refine covered.trans fun kept mem => ?_
  have inLatest : Covers key stamp (latest key stamp rows) kept :=
    covers_foldl_place rows (.inr mem)
  exact inLatest.mono fun final mem => (List.mem_insertionSort _).mpr mem

end Keyed

end BtApiCtp.Theory.LatestWins
