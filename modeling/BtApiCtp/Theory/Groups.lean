/-
# Theory.Groups -- grouping by key, in order of first appearance

What a loop over `d.setdefault(key, []).append(value)` builds: groups in the order in which
their keys first appeared, each with its members in the order in which they came.
-/
import Mathlib.Data.List.Induction
import Mathlib.Data.List.Perm.Basic

namespace BtApiCtp.Theory.Groups

variable {κ α : Type} [DecidableEq κ]

/-- Append to the group of a key, or open it at the end. -/
def push (key : κ) (value : α) : List (κ × List α) → List (κ × List α)
  | [] => [(key, [value])]
  | (k, values) :: groups =>
    if k = key then (k, values ++ [value]) :: groups else (k, values) :: push key value groups

/-- The group of a key, empty if there is none. -/
def group (key : κ) : List (κ × List α) → List α
  | [] => []
  | (k, values) :: groups => if k = key then values else group key groups

def members (groups : List (κ × List α)) : List α := groups.flatMap Prod.snd

def groupBy (key : α → κ) (values : List α) : List (κ × List α) :=
  values.foldl (fun groups value => push (key value) value groups) []

omit [DecidableEq κ] in
@[simp] theorem members_cons (entry : κ × List α) (groups : List (κ × List α)) :
    members (entry :: groups) = entry.2 ++ members groups := rfl

theorem members_push (key : κ) (value : α) (groups : List (κ × List α)) :
    (members (push key value groups)).Perm (members groups ++ [value]) := by
  induction groups with
  | nil => exact List.Perm.refl _
  | cons entry groups ih =>
    obtain ⟨k, values⟩ := entry
    unfold push
    split
    · simp only [members_cons, List.append_assoc]
      exact List.Perm.append_left values List.perm_append_comm
    · simp only [members_cons, List.append_assoc]
      exact List.Perm.append_left values ih

theorem members_groupBy (key : α → κ) (values : List α) :
    (members (groupBy key values)).Perm values := by
  suffices general : ∀ groups, (members (values.foldl
      (fun groups value => push (key value) value groups) groups)).Perm (members groups ++ values) from
    general []
  induction values with
  | nil =>
    intro groups
    simp
  | cons value values ih =>
    intro groups
    have pushed := (members_push (key value) value groups).append_right values
    rw [List.append_assoc, List.singleton_append] at pushed
    exact (ih _).trans pushed

theorem groupBy_concat (key : α → κ) (values : List α) (value : α) :
    groupBy key (values ++ [value]) = push (key value) value (groupBy key values) := by
  simp [groupBy]

theorem group_push (key own : κ) (value : α) (groups : List (κ × List α)) :
    group own (push key value groups) =
      if key = own then group own groups ++ [value] else group own groups := by
  induction groups with
  | nil => by_cases same : key = own <;> simp [push, group, same]
  | cons entry groups ih =>
    obtain ⟨k, values⟩ := entry
    by_cases here : k = key
    · by_cases same : key = own <;> simp [push, group, here, same]
    · by_cases same : k = own
      · have apart : key ≠ own := fun eq => here (same.trans eq.symm)
        simp [push, group, same, apart, apart.symm]
      · simp [push, group, here, same, ih]

/-- A group has the values of its key, in the order in which they came. -/
theorem group_groupBy (key : α → κ) (own : κ) (values : List α) :
    group own (groupBy key values) = values.filter (key · = own) := by
  induction values using List.reverseRecOn with
  | nil => rfl
  | append_singleton values value ih =>
    rw [groupBy_concat, group_push, ih, List.filter_append]
    by_cases same : key value = own <;> simp [same]

/-- Every member of a group has the group's key. -/
def Keyed (key : α → κ) (groups : List (κ × List α)) : Prop :=
  ∀ entry ∈ groups, entry.2 ≠ [] ∧ ∀ value ∈ entry.2, key value = entry.1

variable {key : α → κ}

theorem Keyed.push {groups : List (κ × List α)} (keyed : Keyed key groups) (value : α) :
    Keyed key (push (key value) value groups) := by
  induction groups with
  | nil =>
    intro entry mem
    obtain rfl : entry = (key value, [value]) := List.mem_singleton.mp mem
    simp
  | cons head groups ih =>
    obtain ⟨k, values⟩ := head
    have first := keyed (k, values) List.mem_cons_self
    have others : Keyed key groups := fun entry mem => keyed entry (List.mem_cons_of_mem _ mem)
    unfold Groups.push
    split
    · rename_i same
      intro entry mem
      rcases List.mem_cons.mp mem with rfl | later
      · refine ⟨by simp, fun other inGroup => ?_⟩
        rcases List.mem_append.mp inGroup with old | new
        · exact first.2 other old
        · rw [List.mem_singleton.mp new, same]
      · exact others entry later
    · intro entry mem
      rcases List.mem_cons.mp mem with rfl | later
      · exact first
      · exact ih others entry later

theorem keyed_groupBy (key : α → κ) (values : List α) : Keyed key (groupBy key values) := by
  suffices general : ∀ groups, Keyed key groups →
      Keyed key (values.foldl (fun groups value => push (key value) value groups) groups) from
    general [] (fun entry mem => absurd mem List.not_mem_nil)
  induction values with
  | nil => exact fun groups keyed => keyed
  | cons value values ih => exact fun groups keyed => ih _ (keyed.push value)

theorem groupBy_eq_nil {values : List α} : groupBy key values = [] ↔ values = [] := by
  constructor
  · intro empty
    have perm := members_groupBy key values
    rw [empty] at perm
    exact List.nil_perm.mp perm
  · rintro rfl
    rfl

end BtApiCtp.Theory.Groups
