/-
# Theory.Journal -- what stands where in a journal

A journal grows at its end.  `Preceded need xs` says that every entry comes after one that it
needs; that no entry of one kind comes after one of another is `List.Pairwise`.
-/
import Mathlib.Data.List.Basic

namespace BtApiCtp.Theory

variable {α : Type} {xs : List α} {last : α}

theorem mem_snoc {x : α} : x ∈ xs ++ [last] ↔ x ∈ xs ∨ x = last := by
  simp

/-- Where an entry of a journal stands that has just grown: at the end, or further up. -/
theorem snoc_eq_append_cons {before after : List α} {x : α} :
    xs ++ [last] = before ++ x :: after ↔ (after = [] ∧ x = last ∧ before = xs) ∨
        ∃ rest, after = rest ++ [last] ∧ xs = before ++ x :: rest := by
  constructor
  · intro same
    rcases List.eq_nil_or_concat after with rfl | ⟨rest, final, rfl⟩
    · obtain ⟨rfl, only⟩ := List.append_inj' same rfl
      exact .inl ⟨rfl, (List.cons.inj only).1.symm, rfl⟩
    · rw [List.concat_eq_append, ← List.cons_append, ← List.append_assoc] at same
      obtain ⟨first, only⟩ := List.append_inj' same rfl
      rw [List.concat_eq_append, (List.cons.inj only).1]
      exact .inr ⟨rest, rfl, first⟩
  · rintro (⟨rfl, rfl, rfl⟩ | ⟨rest, rfl, rfl⟩)
    · rfl
    · simp

/-- Every entry `x` comes after an entry `y` with `need x y`, if it needs one at all. -/
def Preceded (need : α → α → Prop) (xs : List α) : Prop :=
  ∀ before x after, xs = before ++ x :: after → (∃ y, need x y) → ∃ y ∈ before, need x y

variable {need : α → α → Prop}

theorem preceded_nil : Preceded need [] := by
  intro before x after same
  exact absurd same.symm (List.append_ne_nil_of_right_ne_nil before (List.cons_ne_nil x after))

theorem Preceded.snoc (preceded : Preceded need xs)
    (found : (∃ y, need last y) → ∃ y ∈ xs, need last y) : Preceded need (xs ++ [last]) := by
  intro before x after same needs
  rcases snoc_eq_append_cons.mp same with ⟨-, rfl, rfl⟩ | ⟨rest, -, rfl⟩
  · exact found needs
  · exact preceded before x rest rfl needs

/-- Nothing that `later` rules out stands before the new last entry. -/
theorem pairwise_snoc {R : α → α → Prop} :
    (xs ++ [last]).Pairwise R ↔ xs.Pairwise R ∧ ∀ x ∈ xs, R x last := by
  simp [List.pairwise_append]

end BtApiCtp.Theory
