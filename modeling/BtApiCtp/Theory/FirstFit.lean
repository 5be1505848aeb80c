/-
# Theory.FirstFit -- rows that take items, first come, first served

Rows take items off a list one after the other.  A row passes over the items that do not concern
it; the first one that does concern it has to be good, or the whole attempt fails.

Rows that get through have taken different items, each a good one (`fitAll_sound`).  First fit is
not the best matching: it gets all rows through if the items that concern a row are all as good
for it as the one that was meant for it (`fitAll_of_kept`).  Rows that the same items concern take
these in the order they stand in (`fitAll_filter`), so if even the items themselves get through
after one turn, they are all as good as each other (`rel_of_turned`).
-/
import Mathlib.Algebra.Order.BigOperators.Group.List
import Mathlib.Data.List.Perm.Subperm
import Mathlib.Data.Set.Basic

namespace BtApiCtp.Theory.FirstFit

variable {α β : Type}

/-- The list without the first item that is not passed over, if that item is good. -/
def takeFirst (look : α → Option Bool) : List α → Option (List α)
  | [] => none
  | item :: items =>
    match look item with
    | none => (takeFirst look items).map (item :: ·)
    | some true => some items
    | some false => none

/-- Every row takes its item. -/
def fitAll (look : β → α → Option Bool) : List β → List α → Bool
  | [], _ => true
  | row :: rows, items => (takeFirst (look row) items).any (fitAll look rows)

variable {items left kept : List α}

theorem takeFirst_eq_some {look : α → Option Bool} (taken : takeFirst look items = some left) :
    ∃ item, look item = some true ∧ items.Perm (item :: left) := by
  induction items generalizing left with
  | nil => cases taken
  | cons head items ih =>
    unfold takeFirst at taken
    split at taken
    · obtain ⟨rest, found, rfl⟩ := Option.map_eq_some_iff.mp taken
      obtain ⟨item, good, perm⟩ := ih found
      exact ⟨item, good, (perm.cons head).trans (.swap item head rest)⟩
    · rename_i good
      cases taken
      exact ⟨head, good, .refl _⟩
    · cases taken

theorem takeFirst_isSome {look : α → Option Bool} (fine : ∀ item ∈ items, look item ≠ some false)
    (concerned : ∃ item ∈ items, look item ≠ none) : ∃ left, takeFirst look items = some left := by
  induction items with
  | nil =>
    obtain ⟨_, mem, _⟩ := concerned
    cases mem
  | cons head items ih =>
    unfold takeFirst
    rw [List.forall_mem_cons] at fine
    split
    · rename_i passed
      have later : ∃ item ∈ items, look item ≠ none := by
        obtain ⟨item, mem, here⟩ := concerned
        rcases List.mem_cons.mp mem with rfl | mem
        · exact absurd passed here
        · exact ⟨item, mem, here⟩
      obtain ⟨left, found⟩ := ih fine.2 later
      exact ⟨head :: left, by rw [found]; rfl⟩
    · exact ⟨items, rfl⟩
    · rename_i bad
      exact absurd bad fine.1

variable {look : β → α → Option Bool} {rows : List β}

/-- Rows that get through have each taken an item of their own. -/
theorem fitAll_sound (fit : fitAll look rows items = true) :
    ∃ taken, List.Subperm taken items ∧
      List.Forall₂ (fun row item => look row item = some true) rows taken := by
  induction rows generalizing items with
  | nil => exact ⟨[], List.nil_subperm, .nil⟩
  | cons row rows ih =>
    obtain ⟨left, found, rest⟩ := (Option.any_eq_true _ _).mp fit
    obtain ⟨item, good, perm⟩ := takeFirst_eq_some found
    obtain ⟨taken, sub, paired⟩ := ih rest
    exact ⟨item :: taken, (perm.subperm_left).mpr ((List.subperm_cons item).mpr sub), .cons good paired⟩

/-- A row that was meant for an item takes all items of its kind for good, and passes over the
others. -/
def Meant {κ : Type} (look : β → α → Option Bool) (kind : α → κ) (items : List α) (row : β)
    (item : α) : Prop :=
  ∀ other ∈ items, (kind item = kind other → look row other = some true) ∧
    (kind item ≠ kind other → look row other = none)

/-- Rows get through if there are as many items of each kind as are meant for them. -/
theorem fitAll_of_kinds {κ : Type} {kind : α → κ}
    (meant : List.Forall₂ (Meant look kind items) rows kept)
    (enough : (kept.map kind).Subperm (items.map kind)) : fitAll look rows items = true := by
  induction rows generalizing items kept with
  | nil => rfl
  | cons row rows ih =>
    obtain ⟨own, kept, here, later, rfl⟩ := List.forall₂_cons_left_iff.mp meant
    rw [List.map_cons] at enough
    have fine : ∀ item ∈ items, look row item ≠ some false := by
      intro item mem bad
      by_cases same : kind own = kind item
      · rw [(here item mem).1 same] at bad
        cases bad
      · rw [(here item mem).2 same] at bad
        cases bad
    have concerned : ∃ item ∈ items, look row item ≠ none := by
      obtain ⟨item, mem, same⟩ := List.mem_map.mp (enough.subset List.mem_cons_self)
      refine ⟨item, mem, ?_⟩
      rw [(here item mem).1 same.symm]
      exact Option.some_ne_none _
    obtain ⟨left, found⟩ := takeFirst_isSome fine concerned
    obtain ⟨item, taken, perm⟩ := takeFirst_eq_some found
    have same : kind own = kind item := by
      by_contra apart
      rw [(here item (perm.mem_iff.mpr List.mem_cons_self)).2 apart] at taken
      cases taken
    have rest : (kept.map kind).Subperm (left.map kind) := by
      have all := ((perm.map kind).subperm_left).mp enough
      rwa [List.map_cons, same, List.subperm_cons] at all
    refine (Option.any_eq_true _ _).mpr ⟨left, found, ih (later.imp ?_) rest⟩
    intro row own meant other mem
    exact meant other (perm.mem_iff.mpr (List.mem_cons_of_mem item mem))

/-- The same with items that are the same to each other. -/
theorem fitAll_of_kept (same : α → α → Prop) (sub : kept.Subperm items)
    (refl : ∀ item ∈ items, same item item)
    (equal : ∀ item ∈ items, ∀ other ∈ items, same item other →
      ∀ third ∈ items, same item third ↔ same other third)
    (meant : List.Forall₂ (fun row item => ∀ other ∈ items,
      (same item other → look row other = some true) ∧ (¬same item other → look row other = none))
      rows kept) : fitAll look rows items = true := by
  -- The kind of an item is the set of items that are the same to it.
  let kind (item : α) : Set α := { other | other ∈ items ∧ same item other }
  have kinds : ∀ item ∈ items, ∀ other ∈ items, kind item = kind other ↔ same item other := by
    intro item mem other among
    constructor
    · intro alike
      have there : other ∈ kind other := ⟨among, refl other among⟩
      rw [← alike] at there
      exact there.2
    · intro alike
      ext third
      exact and_congr_right (equal item mem other among alike third)
  have enough : (kept.map kind).Subperm (items.map kind) := by
    obtain ⟨chosen, perm, chosenSub⟩ := sub
    exact ⟨chosen.map kind, perm.map kind, chosenSub.map kind⟩
  refine fitAll_of_kinds (List.forall₂_iff_zip.mpr ⟨meant.length_eq, ?_⟩) enough
  intro row own mem other among
  have mine : own ∈ items := sub.subset (List.of_mem_zip mem).2
  obtain ⟨good, passed⟩ := (List.forall₂_iff_zip.mp meant).2 mem other among
  rw [ne_eq, kinds own mine other among]
  exact ⟨good, passed⟩

/-! ## Rows that the same items concern -/

variable {concerns : α → Bool}

theorem takeFirst_filter {look : α → Option Bool}
    (passes : ∀ item ∈ items, look item = none ↔ concerns item = false)
    (taken : takeFirst look items = some left) :
    ∃ item, look item = some true ∧ items.filter concerns = item :: left.filter concerns := by
  induction items generalizing left with
  | nil => cases taken
  | cons head items ih =>
    rw [List.forall_mem_cons] at passes
    unfold takeFirst at taken
    split at taken
    · rename_i passed
      obtain ⟨rest, found, rfl⟩ := Option.map_eq_some_iff.mp taken
      obtain ⟨item, good, same⟩ := ih passes.2 found
      have apart := Bool.eq_false_iff.mp (passes.1.mp passed)
      rw [List.filter_cons_of_neg apart, List.filter_cons_of_neg apart]
      exact ⟨item, good, same⟩
    · rename_i good
      cases taken
      have here : concerns head = true := by
        rw [← Bool.not_eq_false, ← passes.1, good]
        exact Option.some_ne_none _
      exact ⟨head, good, List.filter_cons_of_pos here⟩
    · cases taken

/-- The rows that get through have taken the first items that concern them, in order. -/
theorem fitAll_filter
    (passes : ∀ row ∈ rows, ∀ item ∈ items, look row item = none ↔ concerns item = false)
    (fit : fitAll look rows items = true) :
    List.Forall₂ (fun row item => look row item = some true) rows
      ((items.filter concerns).take rows.length) := by
  induction rows generalizing items with
  | nil => exact .nil
  | cons row rows ih =>
    obtain ⟨left, found, rest⟩ := (Option.any_eq_true _ _).mp fit
    rw [List.forall_mem_cons] at passes
    obtain ⟨item, good, same⟩ := takeFirst_filter passes.1 found
    obtain ⟨_, _, perm⟩ := takeFirst_eq_some found
    rw [same, List.length_cons, List.take_succ_cons]
    refine .cons good (ih (fun row mem item among => ?_) rest)
    exact passes.2 row mem item (perm.mem_iff.mpr (List.mem_cons_of_mem _ among))

/-- Where each item stands in a transitive relation to the one before it, and the first to the
last, the first stands in it to every other and every other to the first. -/
theorem rel_of_turned (rel : α → α → Prop) (trans : ∀ {x y z}, rel x y → rel y z → rel x z)
    {start stop : α} (turned : List.Forall₂ rel (items ++ [stop]) (start :: items)) :
    rel stop start ∧ ∀ item ∈ items, rel stop item ∧ rel item start := by
  induction items generalizing start with
  | nil =>
    cases turned with
    | cons here _ => exact ⟨here, fun _ mem => by cases mem⟩
  | cons item items ih =>
    cases turned with
    | cons here later =>
      obtain ⟨last, each⟩ := ih later
      refine ⟨trans last here, List.forall_mem_cons.mpr ⟨⟨last, here⟩, fun other mem => ?_⟩⟩
      exact ⟨(each other mem).1, trans (each other mem).2 here⟩

end BtApiCtp.Theory.FirstFit
