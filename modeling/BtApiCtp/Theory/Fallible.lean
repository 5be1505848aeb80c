/-
# Theory.Fallible -- calculations that raise

A calculation in `Except` that came to a result has come to one at every step of it.
-/
import Mathlib.Data.List.Forall2
import Mathlib.Data.List.Zip

namespace BtApiCtp.Theory

variable {ε α β : Type} {a : α}

theorem pure_eq_ok_iff {b : α} : (pure a : Except ε α) = .ok b ↔ a = b :=
  ⟨Except.ok.inj, fun same => same ▸ rfl⟩

variable {x : Except ε α} {f : α → Except ε β} {b : β}

theorem bind_eq_ok_iff : (x >>= f) = .ok b ↔ ∃ a, x = .ok a ∧ f a = .ok b := by
  cases x with
  | ok a =>
    constructor
    · intro came
      exact ⟨a, rfl, came⟩
    · rintro ⟨a', same, came⟩
      cases same
      exact came
  | error e =>
    constructor
    · intro came
      cases came
    · rintro ⟨a, same, _⟩
      cases same

theorem exists_ok (fine : x.isOk = true) : ∃ a, x = .ok a := by
  cases x with
  | ok a => exact ⟨a, rfl⟩
  | error e => cases fine

theorem exists_ok_of_map {f : α → β} (known : x.toOption.map f = some b) :
    ∃ a, x = .ok a ∧ f a = b := by
  cases x with
  | ok a => exact ⟨a, rfl, Option.some.inj known⟩
  | error e => cases known

variable {xs : List α} {ys : List β}

theorem mapM_eq_ok_iff : xs.mapM f = .ok ys ↔ List.Forall₂ (fun x y => f x = .ok y) xs ys := by
  induction xs generalizing ys with
  | nil =>
    rw [List.mapM_nil, pure_eq_ok_iff, List.forall₂_nil_left_iff]
    exact eq_comm
  | cons x xs ih =>
    simp only [List.mapM_cons, bind_eq_ok_iff, pure_eq_ok_iff, List.forall₂_cons_left_iff, ih]
    constructor
    · rintro ⟨y, came, rest, others, rfl⟩
      exact ⟨y, rest, came, others, rfl⟩
    · rintro ⟨y, rest, came, others, rfl⟩
      exact ⟨y, came, rest, others, rfl⟩

theorem forM_eq_ok_iff {f : α → Except ε Unit} {u : Unit} :
    xs.forM f = .ok u ↔ ∀ x ∈ xs, f x = .ok u := by
  induction xs with
  | nil => exact ⟨fun _ _ mem => absurd mem List.not_mem_nil, fun _ => rfl⟩
  | cons x xs ih =>
    change (f x >>= fun _ => xs.forM f) = .ok u ↔ _
    rw [bind_eq_ok_iff, List.forall_mem_cons, ih]
    exact ⟨fun ⟨_, here, rest⟩ => ⟨here, rest⟩, fun both => ⟨u, both⟩⟩

/-! ## Every outcome -/

variable {R : α → β → Prop}

theorem forall₂_of_mem_left (related : List.Forall₂ R xs ys) {x : α} (member : x ∈ xs) :
    ∃ y, (x, y) ∈ xs.zip ys ∧ R x y := by
  induction related with
  | nil => cases member
  | @cons a b xs ys head _ ih =>
    rcases List.mem_cons.mp member with rfl | later
    · exact ⟨b, List.mem_cons_self, head⟩
    · obtain ⟨y, inside, here⟩ := ih later
      exact ⟨y, List.mem_cons_of_mem _ inside, here⟩

theorem forall₂_of_mem_right (related : List.Forall₂ R xs ys) {y : β} (member : y ∈ ys) :
    ∃ x, (x, y) ∈ xs.zip ys ∧ R x y := by
  obtain ⟨x, inside, here⟩ := forall₂_of_mem_left related.flip member
  rw [← List.zip_swap, List.mem_map] at inside
  obtain ⟨⟨_, _⟩, inside, same⟩ := inside
  cases same
  exact ⟨_, inside, here⟩

end BtApiCtp.Theory
