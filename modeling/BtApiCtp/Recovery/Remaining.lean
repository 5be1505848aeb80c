/-
# Recovery.Remaining -- what is left of a recovery plan

`ctp_recovery_remaining_plan_matches` (`recovery_plan_validation.py`): whether a plan allows
nothing that the expected plan did not allow.  Close rows take expected rows first come, first
served, with every field but the quantity equal and a quantity that is no greater; cancel rows
take equal ones.

An accepted plan is a part of the expected one, so the quantity that may be closed never grows
along a chain of plans.  The converse fails: a row meets the first expected row of its fields, and
if that one has a smaller quantity the plan is refused, although another row would do.  All parts
of a plan are accepted exactly if expected rows that agree in their other fields have one quantity
(`reduced_plans_accepted_iff`).
-/
import BtApiCtp.Python.Equality
import BtApiCtp.Theory.FirstFit
import Mathlib.Algebra.Order.Ring.Rat

namespace BtApiCtp.Recovery

open Python Theory.FirstFit

/-! ## The check -/

abbrev Entries := List (Key × Value)

/-- `set(current) == set(expected)`, and equal values under the keys that are not mutable. -/
def sameFields (isMutable : Key → Bool) (current expected : Entries) : Bool :=
  current.all (fun entry => (expected.lookup entry.1).isSome) &&
    expected.all (fun entry => (current.lookup entry.1).isSome) &&
    current.all fun entry => isMutable entry.1 || (expected.lookup entry.1).any (Value.eq entry.2)

/-- `Decimal(str(value))`, with `Decimal` of a text as a parameter. -/
def decimalOf (decimalOfText : String → Option Number) : Value → Option Number
  | .int n => (intText n).map fun _ => .finite n
  | .float (.finite _) shortest _ => some (.finite shortest)
  | .float other _ _ => some other
  | .decimal value _ => some value
  | .str text => decimalOfText text
  | _ => none

section Check

variable (decimalOfText : String → Option Number)

def quantityOf (row : Entries) : Option Number :=
  (Value.field row "quantity").bind (decimalOf decimalOfText)

def isQuantity (key : Key) : Bool := key = .str "quantity"

def quantityFits (current expected : Entries) : Bool :=
  match quantityOf decimalOfText current, quantityOf decimalOfText expected with
  | some (.finite current), some (.finite expected) => 0 < current && current ≤ expected
  | _, _ => false

/-- What a close row makes of an expected row; nothing if it passes over it. -/
def closeLook (row expected : Value) : Option Bool :=
  match row, expected with
  | .mapping _ row, .mapping _ expected =>
    if sameFields isQuantity row expected then some (quantityFits decimalOfText row expected)
    else none
  | .mapping _ _, _ => none
  | _, _ => some false

/-- `remaining_cancels.index(current_row)`, and a row that is no mapping. -/
def cancelLook (row expected : Value) : Option Bool :=
  if row.isMapping then if Value.eq expected row then some true else none else some false

def rowsOf (plan : Entries) (name : String) : Option (List Value) :=
  match Value.field plan name with
  | some (.list rows) => some rows
  | some (.tuple rows) => some rows
  | _ => none

def isAllowance (key : Key) : Bool := key = .str "allowed_closes" || key = .str "allowed_cancels"

def ctpRecoveryRemainingPlanMatches (current expected : Value) : Bool :=
  match current, expected with
  | .mapping _ current, .mapping _ expected =>
    sameFields isAllowance current expected &&
    (rowsOf current "allowed_closes").any (fun rows =>
      (rowsOf expected "allowed_closes").any (fitAll (closeLook decimalOfText) rows)) &&
    (rowsOf current "allowed_cancels").any (fun rows =>
      (rowsOf expected "allowed_cancels").any (fitAll cancelLook rows))
  | _, _ => false

/-! ## What an accepted plan is -/

/-- The fields of a row that may close something, and how much. -/
structure Allows (row : Value) (entries : Entries) (quantity : ℚ) : Prop where
  mapping : ∃ kind, row = .mapping kind entries
  read : quantityOf decimalOfText entries = some (.finite quantity)
  positive : 0 < quantity

/-- A close row and the expected row it is a part of. -/
def PartOf (row expected : Value) : Prop :=
  ∃ entries entries' quantity quantity', Allows decimalOfText row entries quantity ∧
    Allows decimalOfText expected entries' quantity' ∧
    sameFields isQuantity entries entries' = true ∧ quantity ≤ quantity'

/-- The rows of a plan, none if it has no such list. -/
def planRows (plan : Value) (name : String) : List Value :=
  match plan with
  | .mapping _ entries => (rowsOf entries name).getD []
  | _ => []

/-- A plan that is left of another one: its close rows are parts of different rows, its cancel rows
are among the others, and all other fields are equal. -/
structure LeftOf (current expected : Value) : Prop where
  fields : ∃ kind kind' entries entries', current = .mapping kind entries ∧
    expected = .mapping kind' entries' ∧ sameFields isAllowance entries entries' = true
  closes : ∃ taken, List.Subperm taken (planRows expected "allowed_closes") ∧
    List.Forall₂ (PartOf decimalOfText) (planRows current "allowed_closes") taken
  cancels : ∃ taken, List.Subperm taken (planRows expected "allowed_cancels") ∧
    List.Forall₂ (fun row other => row.isMapping = true ∧ Value.eq other row = true)
      (planRows current "allowed_cancels") taken

/-- How much a row allows to close of what has the fields of a given row. -/
def share (fields : Entries) : Value → ℚ
  | .mapping _ entries =>
    if sameFields isQuantity fields entries then
      match quantityOf decimalOfText entries with
      | some (.finite quantity) => max 0 quantity
      | _ => 0
    else 0
  | _ => 0

/-- The total close quantity that a plan allows for a combination of the other fields. -/
def closeTotal (fields : Entries) (plan : Value) : ℚ :=
  ((planRows plan "allowed_closes").map (share decimalOfText fields)).sum

end Check

variable {decimalOfText : String → Option Number} {isMutable : Key → Bool}
  {first second third fields : Entries} {row expected current : Value}

theorem sameFields_iff : sameFields isMutable first second = true ↔
    (∀ entry ∈ first, (second.lookup entry.1).isSome) ∧
    (∀ entry ∈ second, (first.lookup entry.1).isSome) ∧
    ∀ entry ∈ first, isMutable entry.1 = false →
      ∃ other, second.lookup entry.1 = some other ∧ Value.eq entry.2 other = true := by
  simp only [sameFields, Bool.and_eq_true, List.all_eq_true, Bool.or_eq_true, Option.any_eq_true,
    and_assoc, ← Bool.not_eq_true, or_iff_not_imp_left]

theorem sameFields_trans (one : sameFields isMutable first second = true)
    (two : sameFields isMutable second third = true) : sameFields isMutable first third = true := by
  rw [sameFields_iff] at *
  refine ⟨fun entry mem => ?_, fun entry mem => ?_, fun entry mem fixed => ?_⟩
  · obtain ⟨other, found⟩ := Option.isSome_iff_exists.mp (one.1 entry mem)
    exact two.1 (entry.1, other) (mem_of_lookup found)
  · obtain ⟨other, found⟩ := Option.isSome_iff_exists.mp (two.2.1 entry mem)
    exact one.2.1 (entry.1, other) (mem_of_lookup found)
  · obtain ⟨other, found, same⟩ := one.2.2 entry mem fixed
    obtain ⟨last, found', same'⟩ := two.2.2 (entry.1, other) (mem_of_lookup found) fixed
    exact ⟨last, found', Value.eq_trans _ same same'⟩

theorem partOf_of_closeLook (good : closeLook decimalOfText row expected = some true) :
    PartOf decimalOfText row expected := by
  unfold closeLook at good
  split at good
  · rename_i kind entries kind' entries'
    split at good
    · rename_i same
      unfold quantityFits at good
      split at good
      · rename_i quantity quantity' read read'
        simp only [Option.some.injEq, Bool.and_eq_true, decide_eq_true_eq] at good
        exact ⟨entries, entries', quantity, quantity', ⟨⟨kind, rfl⟩, read, good.1⟩,
          ⟨⟨kind', rfl⟩, read', good.1.trans_le good.2⟩, same, good.2⟩
      · cases good
    · cases good
  · cases good
  · cases good

theorem cancelLook_eq_some_true :
    cancelLook row expected = some true ↔ row.isMapping = true ∧ Value.eq expected row = true := by
  unfold cancelLook
  split
  · rename_i mapping
    split
    · rename_i same
      simp [mapping, same]
    · rename_i apart
      simp [apart]
  · rename_i other
    simp [other]

theorem leftOf_of_matches
    (accepted : ctpRecoveryRemainingPlanMatches decimalOfText current expected = true) :
    LeftOf decimalOfText current expected := by
  unfold ctpRecoveryRemainingPlanMatches at accepted
  split at accepted
  · rename_i kind entries kind' entries'
    simp only [Bool.and_eq_true, Option.any_eq_true] at accepted
    obtain ⟨⟨same, closes, read, closes', read', fit⟩, cancels, found, cancels', found', fit'⟩ :=
      accepted
    refine ⟨⟨kind, kind', entries, entries', rfl, rfl, same⟩, ?_, ?_⟩
    · obtain ⟨taken, sub, paired⟩ := fitAll_sound fit
      simp only [planRows, read, read', Option.getD_some]
      exact ⟨taken, sub, paired.imp fun _ _ => partOf_of_closeLook⟩
    · obtain ⟨taken, sub, paired⟩ := fitAll_sound fit'
      simp only [planRows, found, found', Option.getD_some]
      exact ⟨taken, sub, paired.imp fun _ _ => cancelLook_eq_some_true.mp⟩
  · cases accepted

theorem share_nonneg (fields : Entries) (row : Value) : 0 ≤ share decimalOfText fields row := by
  unfold share
  split
  · split
    · split
      · exact le_max_left _ _
      · exact le_rfl
    · exact le_rfl
  · exact le_rfl

/-- A part allows no more than the row it is a part of. -/
theorem PartOf.share_le (part : PartOf decimalOfText row expected) (fields : Entries) :
    share decimalOfText fields row ≤ share decimalOfText fields expected := by
  obtain ⟨entries, entries', quantity, quantity', ⟨⟨kind, rfl⟩, read, positive⟩,
    ⟨⟨kind', rfl⟩, read', positive'⟩, same, le⟩ := part
  by_cases here : sameFields isQuantity fields entries = true
  · have there := sameFields_trans here same
    simp only [share, here, there, if_true, read, read', max_eq_right positive.le,
      max_eq_right positive'.le]
    exact le
  · have none : share decimalOfText fields (.mapping kind entries) = 0 := by
      rw [share, if_neg here]
    rw [none]
    exact share_nonneg fields _

theorem LeftOf.closeTotal_le (left : LeftOf decimalOfText current expected) (fields : Entries) :
    closeTotal decimalOfText fields current ≤ closeTotal decimalOfText fields expected := by
  obtain ⟨taken, ⟨chosen, perm, sub⟩, paired⟩ := left.closes
  unfold closeTotal
  calc ((planRows current "allowed_closes").map (share decimalOfText fields)).sum
      ≤ (taken.map (share decimalOfText fields)).sum := by
        refine List.Forall₂.sum_le_sum (List.forall₂_map_left_iff.mpr ?_)
        exact List.forall₂_map_right_iff.mpr (paired.imp fun _ _ part => part.share_le fields)
    _ = (chosen.map (share decimalOfText fields)).sum := ((perm.map _).sum_eq).symm
    _ ≤ ((planRows expected "allowed_closes").map (share decimalOfText fields)).sum := by
        refine (sub.map _).sum_le_sum fun quantity mem => ?_
        obtain ⟨row, _, rfl⟩ := List.mem_map.mp mem
        exact share_nonneg fields row

/-- An accepted plan is left of the expected one, and along a chain of plans, each accepted after
the one before it, no total of what may be closed ever grows. -/
theorem accepted_plans_shrink (decimalOfText : String → Option Number) :
    (∀ current expected, ctpRecoveryRemainingPlanMatches decimalOfText current expected = true →
      LeftOf decimalOfText current expected) ∧
    ∀ plans : List Value, plans.IsChain (fun expected current =>
        ctpRecoveryRemainingPlanMatches decimalOfText current expected = true) →
      plans.Pairwise fun earlier later =>
        ∀ fields, closeTotal decimalOfText fields later ≤ closeTotal decimalOfText fields earlier := by
  refine ⟨fun current expected => leftOf_of_matches, fun plans chain => ?_⟩
  let Shrinks (earlier later : Value) : Prop :=
    ∀ fields, closeTotal decimalOfText fields later ≤ closeTotal decimalOfText fields earlier
  have trans : IsTrans Value Shrinks := ⟨fun _ _ _ one two fields => (two fields).trans (one fields)⟩
  have steps : plans.IsChain Shrinks :=
    chain.imp fun _ _ accepted => (leftOf_of_matches accepted).closeTotal_le
  exact List.isChain_iff_pairwise.mp steps

/-! ## Reduced plans -/

/-- Entries with other values under the same keys. -/
def replaced (change : Key → Value → Value) (entries : Entries) : Entries :=
  entries.map fun entry => (entry.1, change entry.1 entry.2)

/-- The value of a field of a plan with other rows. -/
def withRows (closes cancels : List Value) (key : Key) (value : Value) : Value :=
  if key = .str "allowed_closes" then .list closes
  else if key = .str "allowed_cancels" then .list cancels else value

section Reductions

variable (decimalOfText : String → Option Number)

/-- A close row, and the row with a quantity that is no greater. -/
def Reduces (row reduced : Value) : Prop :=
  ∃ kind entries item quantity quantity', row = .mapping kind entries ∧
    reduced = .mapping kind (replaced (fun key value => if isQuantity key then item else value) entries) ∧
    quantityOf decimalOfText entries = some (.finite quantity) ∧
    decimalOf decimalOfText item = some (.finite quantity') ∧ 0 < quantity' ∧ quantity' ≤ quantity

/-- A plan, and one with some of its rows in any order, their quantities reduced. -/
def Reduced (expected current : Value) : Prop :=
  ∃ kind entries closes kept closes' cancels cancels', expected = .mapping kind entries ∧
    current = .mapping kind (replaced (withRows closes' cancels') entries) ∧
    rowsOf entries "allowed_closes" = some closes ∧ rowsOf entries "allowed_cancels" = some cancels ∧
    kept.Subperm closes ∧ List.Forall₂ (Reduces decimalOfText) kept closes' ∧
    cancels'.Subperm cancels

def rowsAgree : Value → Value → Bool
  | .mapping _ first, .mapping _ second => sameFields isQuantity first second
  | _, _ => false

/-- A plan with both lists of rows, whose close rows may close something. -/
structure WellFormed (plan : Value) : Prop where
  tidy : plan.tidy = true
  lists : ∃ kind entries closes cancels, plan = .mapping kind entries ∧
    rowsOf entries "allowed_closes" = some closes ∧ rowsOf entries "allowed_cancels" = some cancels
  closes : ∀ row ∈ planRows plan "allowed_closes", ∃ entries quantity,
    Allows decimalOfText row entries quantity

/-- Fields that equal themselves, those that are not mutable; a NaN does not. -/
def SelfEqual (isMutable : Key → Bool) : Value → Prop
  | .mapping _ entries =>
    ∀ entry ∈ entries, isMutable entry.1 = false → Value.eq entry.2 entry.2 = true
  | _ => True

/-- A plan in which the check knows every row again. -/
structure Recognised (plan : Value) : Prop where
  fields : SelfEqual isAllowance plan
  closes : ∀ row ∈ planRows plan "allowed_closes", SelfEqual isQuantity row
  cancels : ∀ row ∈ planRows plan "allowed_cancels",
    row.isMapping = true ∧ Value.eq row row = true

/-- Close rows that agree in all other fields have the same quantity. -/
def OneQuantity (plan : Value) : Prop :=
  ∀ row ∈ planRows plan "allowed_closes", ∀ other ∈ planRows plan "allowed_closes",
    rowsAgree row other = true → ∀ entries entries' quantity quantity',
      Allows decimalOfText row entries quantity → Allows decimalOfText other entries' quantity' →
      quantity = quantity'

end Reductions

variable {change : Key → Value → Value}

theorem lookup_replaced (change : Key → Value → Value) (entries : Entries) (key : Key) :
    (replaced change entries).lookup key = (entries.lookup key).map (change key) := by
  induction entries with
  | nil => rfl
  | cons entry entries ih =>
    obtain ⟨own, value⟩ := entry
    simp only [replaced, List.map_cons, List.lookup_cons] at ih ⊢
    by_cases here : key = own
    · simp [here]
    · simp only [beq_false_of_ne here, ih]

/-- A change of the mutable fields is not noticed. -/
theorem sameFields_replaced (fixed : ∀ key value, isMutable key = false → change key value = value)
    (first second : Entries) :
    sameFields isMutable (replaced change first) second = sameFields isMutable first second := by
  have values : (replaced change first).all (fun entry => isMutable entry.1 ||
      (second.lookup entry.1).any (Value.eq entry.2)) = first.all (fun entry => isMutable entry.1 ||
      (second.lookup entry.1).any (Value.eq entry.2)) := by
    rw [replaced, List.all_map]
    refine congrArg first.all (funext fun entry => ?_)
    cases isFixed : isMutable entry.1 with
    | true => simp [isFixed]
    | false => simp [isFixed, fixed _ _ isFixed]
  have keys : (replaced change first).all (fun entry => (second.lookup entry.1).isSome) =
      first.all (fun entry => (second.lookup entry.1).isSome) := by
    rw [replaced, List.all_map]
    rfl
  simp [sameFields, values, keys, lookup_replaced]

theorem tidy_of_lookup {key : Key} (inside : Value.everyEntry Value.tidyHere first = true)
    (found : first.lookup key = some row) : row.tidy = true :=
  Value.everyEntry_iff.mp inside (key, row) (mem_of_lookup found)

theorem sameFields_self_iff {kind : String} (tidy : (Value.mapping kind first).tidy = true) :
    sameFields isMutable first first = true ↔ SelfEqual isMutable (.mapping kind first) := by
  have found : ∀ entry ∈ first, first.lookup entry.1 = some entry.2 := fun entry mem =>
    (lookup_eq_some_iff_mem (Value.tidy_mapping.mp tidy).1).mpr mem
  have there : ∀ entry ∈ first, (first.lookup entry.1).isSome := by
    intro entry mem
    rw [found entry mem]
    rfl
  rw [sameFields_iff]
  refine ⟨fun same entry mem fixed => ?_, fun self => ⟨there, there, fun entry mem fixed => ?_⟩⟩
  · obtain ⟨other, own, alike⟩ := same.2.2 entry mem fixed
    rw [found entry mem] at own
    cases own
    exact alike
  · exact ⟨entry.2, found entry mem, self entry mem fixed⟩

theorem sameFields_symm {kind kind' : String} (tidy : (Value.mapping kind first).tidy = true)
    (tidy' : (Value.mapping kind' second).tidy = true)
    (same : sameFields isMutable first second = true) :
    sameFields isMutable second first = true := by
  obtain ⟨_, inside⟩ := Value.tidy_mapping.mp tidy
  obtain ⟨distinct', inside'⟩ := Value.tidy_mapping.mp tidy'
  rw [sameFields_iff] at same ⊢
  refine ⟨same.2.1, same.1, fun entry mem fixed => ?_⟩
  obtain ⟨value, found⟩ := Option.isSome_iff_exists.mp (same.2.1 entry mem)
  obtain ⟨other, found', alike⟩ := same.2.2 (entry.1, value) (mem_of_lookup found) fixed
  rw [(lookup_eq_some_iff_mem distinct').mpr mem] at found'
  cases found'
  exact ⟨value, found, Value.eq_symm _ (tidy_of_lookup inside found)
    (Value.everyEntry_iff.mp inside' entry mem) alike⟩

theorem tidy_of_mem_rowsOf {name : String} {rows : List Value}
    (inside : Value.everyEntry Value.tidyHere first = true)
    (read : rowsOf first name = some rows) (mem : row ∈ rows) : row.tidy = true := by
  unfold rowsOf at read
  split at read
  iterate 2
    · rename_i items found
      cases read
      have listed := tidy_of_lookup inside found
      simp only [Value.tidy, Value.everywhere, Bool.and_eq_true] at listed
      exact Value.everyItem_iff.mp listed.2 row mem
  · cases read

/-- A reduced row passes over what its original does not agree with, and fits the rest. -/
theorem Reduces.closeLook {reduced other : Value} {entries : Entries} {quantity : ℚ}
    (reduces : Reduces decimalOfText row reduced) (allows : Allows decimalOfText other entries quantity)
    (least : rowsAgree row other = true → ∀ own quantity', Allows decimalOfText row own quantity' →
      quantity' = quantity) :
    (rowsAgree row other = true → closeLook decimalOfText reduced other = some true) ∧
      (¬rowsAgree row other = true → closeLook decimalOfText reduced other = none) := by
  obtain ⟨kind, own, item, quantity', less, rfl, rfl, read, readItem, positive, le⟩ := reduces
  obtain ⟨⟨kind', rfl⟩, read', _⟩ := allows
  have same : sameFields isQuantity (replaced (fun key value =>
      if isQuantity key then item else value) own) entries = sameFields isQuantity own entries :=
    sameFields_replaced (fun key value fixed => by simp [fixed]) own entries
  have quantityRead : quantityOf decimalOfText (replaced (fun key value =>
      if isQuantity key then item else value) own) = some (.finite less) := by
    unfold quantityOf Value.field at read ⊢
    obtain ⟨value, found, _⟩ := Option.bind_eq_some_iff.mp read
    rw [lookup_replaced, found]
    simpa [isQuantity] using readItem
  constructor
  · intro agree
    have equal := least agree own quantity' ⟨⟨kind, rfl⟩, read, positive.trans_le le⟩
    have fits : less ≤ quantity := equal ▸ le
    simp only [Recovery.closeLook, same, show sameFields isQuantity own entries = true from agree,
      if_true, quantityFits, quantityRead, read', positive, fits, decide_true, Bool.and_self]
  · intro apart
    simp only [Recovery.closeLook, same]
    exact if_neg apart

theorem rowsAgree_eq {other : Value} (agree : rowsAgree row other = true) :
    ∃ kind own kind' entries, row = .mapping kind own ∧ other = .mapping kind' entries ∧
      sameFields isQuantity own entries = true := by
  unfold rowsAgree at agree
  split at agree
  · exact ⟨_, _, _, _, rfl, rfl, agree⟩
  · cases agree

theorem rowsAgree_trans {other last : Value} (one : rowsAgree row other = true)
    (two : rowsAgree other last = true) : rowsAgree row last = true := by
  obtain ⟨_, _, _, _, rfl, rfl, same⟩ := rowsAgree_eq one
  obtain ⟨_, _, _, _, middle, rfl, same'⟩ := rowsAgree_eq two
  cases middle
  exact sameFields_trans same same'

theorem rowsAgree_symm {other : Value} (tidy : row.tidy = true) (tidy' : other.tidy = true)
    (agree : rowsAgree row other = true) : rowsAgree other row = true := by
  obtain ⟨_, _, _, _, rfl, rfl, same⟩ := rowsAgree_eq agree
  exact sameFields_symm tidy tidy' same

theorem Allows.unique {entries entries' : Entries} {quantity quantity' : ℚ}
    (allows : Allows decimalOfText row entries quantity)
    (allows' : Allows decimalOfText row entries' quantity') :
    entries = entries' ∧ quantity = quantity' := by
  obtain ⟨⟨_, rfl⟩, read, _⟩ := allows
  obtain ⟨⟨_, same⟩, read', _⟩ := allows'
  cases same
  rw [read] at read'
  cases read'
  exact ⟨rfl, rfl⟩

theorem PartOf.trans {other last : Value} (one : PartOf decimalOfText row other)
    (two : PartOf decimalOfText other last) : PartOf decimalOfText row last := by
  obtain ⟨entries, _, quantity, _, allows, middle, same, le⟩ := one
  obtain ⟨_, entries', _, quantity', middle', allows', same', le'⟩ := two
  obtain ⟨rfl, rfl⟩ := middle.unique middle'
  exact ⟨entries, entries', quantity, quantity', allows, allows', sameFields_trans same same',
    le.trans le'⟩

theorem PartOf.rowsAgree {other : Value} (part : PartOf decimalOfText row other) :
    rowsAgree row other = true := by
  obtain ⟨_, _, _, _, ⟨⟨_, rfl⟩, _, _⟩, ⟨⟨_, rfl⟩, _, _⟩, same, _⟩ := part
  exact same

/-- Parts of each other have the same quantity. -/
theorem PartOf.antisymm {other : Value} {entries entries' : Entries} {quantity quantity' : ℚ}
    (part : PartOf decimalOfText row other) (back : PartOf decimalOfText other row)
    (allows : Allows decimalOfText row entries quantity)
    (allows' : Allows decimalOfText other entries' quantity') : quantity = quantity' := by
  obtain ⟨_, _, _, _, own, others, _, le⟩ := part
  obtain ⟨_, _, _, _, others', own', _, le'⟩ := back
  rw [(own.unique allows).2, (others.unique allows').2] at le
  rw [(own'.unique allows).2, (others'.unique allows').2] at le'
  exact le_antisymm le le'

/-- A row is a reduced one of itself. -/
theorem Allows.reduces {entries : Entries} {quantity : ℚ}
    (allows : Allows decimalOfText row entries quantity) (tidy : row.tidy = true) :
    Reduces decimalOfText row row := by
  obtain ⟨⟨kind, rfl⟩, read, positive⟩ := allows
  obtain ⟨item, found, readItem⟩ := Option.bind_eq_some_iff.mp read
  have same : replaced (fun key value => if isQuantity key then item else value) entries =
      entries := by
    refine (List.map_congr_left fun entry mem => ?_).trans (List.map_id entries)
    refine Prod.ext rfl ?_
    by_cases here : isQuantity entry.1 = true
    · have own := (lookup_eq_some_iff_mem (Value.tidy_mapping.mp tidy).1).mpr mem
      rw [of_decide_eq_true here] at own
      exact (if_pos here).trans (Option.some.inj (found.symm.trans own))
    · exact if_neg here
  exact ⟨kind, entries, item, quantity, quantity, rfl, by rw [same], read, readItem, positive, le_rfl⟩

section Rows

variable {closes cancels kept reduced : List Value}

theorem fitAll_closes (sub : kept.Subperm closes)
    (reduces : List.Forall₂ (Reduces decimalOfText) kept reduced)
    (tidy : ∀ row ∈ closes, row.tidy = true) (self : ∀ row ∈ closes, rowsAgree row row = true)
    (allowed : ∀ row ∈ closes, ∃ entries quantity, Allows decimalOfText row entries quantity)
    (oneQuantity : ∀ row ∈ closes, ∀ other ∈ closes, rowsAgree row other = true →
      ∀ entries entries' quantity quantity', Allows decimalOfText row entries quantity →
        Allows decimalOfText other entries' quantity' → quantity = quantity') :
    fitAll (closeLook decimalOfText) reduced closes = true := by
  refine fitAll_of_kept (fun row other => rowsAgree row other = true) sub self ?_ ?_
  · intro row mem other among agree third _
    have back := rowsAgree_symm (tidy row mem) (tidy other among) agree
    exact ⟨rowsAgree_trans back, rowsAgree_trans agree⟩
  · refine List.forall₂_iff_zip.mpr ⟨reduces.length_eq.symm, ?_⟩
    intro less row mem other among
    have here : Reduces decimalOfText row less := (List.forall₂_iff_zip.mp reduces.flip).2 mem
    obtain ⟨entries, quantity, allows⟩ := allowed other among
    refine here.closeLook allows fun agree _ _ own => ?_
    exact oneQuantity row (sub.subset (List.of_mem_zip mem).2) other among agree _ _ _ _ own allows

/-- If every row alone gets through, it agrees with itself: it is a part of some row. -/
theorem rowsAgree_self (tidy : ∀ row ∈ closes, row.tidy = true)
    (all : ∀ kept, kept.Subperm closes → fitAll (closeLook decimalOfText) kept closes = true)
    (mem : row ∈ closes) : rowsAgree row row = true := by
  obtain ⟨taken, sub, paired⟩ := fitAll_sound (all [row] (List.singleton_subperm_iff.mpr mem))
  obtain ⟨other, _, good, _, rfl⟩ := List.forall₂_cons_left_iff.mp paired
  have agree := (partOf_of_closeLook good).rowsAgree
  have among : other ∈ closes := sub.subset List.mem_cons_self
  exact rowsAgree_trans agree (rowsAgree_symm (tidy row mem) (tidy other among) agree)

/-- The rows that agree with a given one get through with the first of them behind the others only
if each is a part of every other. -/
theorem partOf_of_agree (tidy : ∀ row ∈ closes, row.tidy = true)
    (allowed : ∀ row ∈ closes, ∃ entries quantity, Allows decimalOfText row entries quantity)
    (all : ∀ kept, kept.Subperm closes → fitAll (closeLook decimalOfText) kept closes = true)
    {other : Value} (mem : row ∈ closes) (among : other ∈ closes)
    (agree : rowsAgree row other = true) :
    PartOf decimalOfText row other ∧ PartOf decimalOfText other row := by
  have own : row ∈ closes.filter (rowsAgree row) :=
    List.mem_filter.mpr ⟨mem, rowsAgree_self tidy all mem⟩
  have others : other ∈ closes.filter (rowsAgree row) := List.mem_filter.mpr ⟨among, agree⟩
  cases kind : closes.filter (rowsAgree row) with
  | nil =>
    rw [kind] at own
    cases own
  | cons first rest =>
    have turned : (rest ++ [first]).Perm (closes.filter (rowsAgree row)) :=
      kind ▸ List.perm_append_singleton first rest
    have fit := all _ (turned.subperm.trans List.filter_sublist.subperm)
    have passes : ∀ one ∈ rest ++ [first], ∀ item ∈ closes,
        closeLook decimalOfText one item = none ↔ rowsAgree row item = false := by
      intro one chosen item listed
      obtain ⟨here, alike⟩ := List.mem_filter.mp (turned.mem_iff.mp chosen)
      have back := rowsAgree_symm (tidy row mem) (tidy one here) alike
      have equal : rowsAgree row item = rowsAgree one item :=
        Bool.eq_iff_iff.mpr ⟨rowsAgree_trans back, rowsAgree_trans alike⟩
      obtain ⟨_, _, ⟨⟨_, rfl⟩, _, _⟩⟩ := allowed one here
      obtain ⟨_, _, ⟨⟨_, rfl⟩, _, _⟩⟩ := allowed item listed
      rw [equal, closeLook, rowsAgree]
      split <;> simp_all
    have paired := fitAll_filter passes fit
    rw [turned.length_eq, List.take_length, kind] at paired
    obtain ⟨same, each⟩ := rel_of_turned (PartOf decimalOfText) PartOf.trans
      (paired.imp fun _ _ => partOf_of_closeLook)
    have around : ∀ item ∈ first :: rest, PartOf decimalOfText first item ∧
        PartOf decimalOfText item first := List.forall_mem_cons.mpr ⟨⟨same, same⟩, each⟩
    rw [kind] at own others
    obtain ⟨down, up⟩ := around row own
    obtain ⟨down', up'⟩ := around other others
    exact ⟨up.trans down', up'.trans down⟩

theorem fitAll_cancels_iff (tidy : ∀ row ∈ cancels, row.tidy = true) :
    (∀ kept, kept.Subperm cancels → fitAll cancelLook kept cancels = true) ↔
      ∀ row ∈ cancels, row.isMapping = true ∧ Value.eq row row = true := by
  constructor
  · intro all row mem
    obtain ⟨taken, sub, paired⟩ := fitAll_sound (all [row] (List.singleton_subperm_iff.mpr mem))
    obtain ⟨other, _, good, _, rfl⟩ := List.forall₂_cons_left_iff.mp paired
    obtain ⟨mapping, same⟩ := cancelLook_eq_some_true.mp good
    have among : other ∈ cancels := sub.subset List.mem_cons_self
    exact ⟨mapping, Value.eq_trans _ (Value.eq_symm _ (tidy _ among) (tidy _ mem) same) same⟩
  · intro known kept sub
    refine fitAll_of_kept (fun row other => Value.eq other row = true) sub ?_ ?_ ?_
    · exact fun row mem => (known row mem).2
    · intro row mem other among agree third _
      have back := Value.eq_symm _ (tidy _ among) (tidy _ mem) agree
      exact ⟨fun same => Value.eq_trans _ same back, fun same => Value.eq_trans _ same agree⟩
    · refine List.forall₂_same.mpr fun row mem other _ => ?_
      unfold cancelLook
      rw [if_pos (known row (sub.subset mem)).1]
      exact ⟨fun same => if_pos same, fun apart => if_neg apart⟩

end Rows

/-- The rows of a plan whose rows were replaced. -/
theorem rowsOf_replaced {name : String} {rows rows' : List Value}
    (read : rowsOf first name = some rows) (new : ∀ value, change (.str name) value = .list rows') :
    rowsOf (replaced change first) name = some rows' := by
  unfold rowsOf Value.field at *
  rw [lookup_replaced]
  cases found : first.lookup (.str name) with
  | none =>
    rw [found] at read
    cases read
  | some value => rw [Option.map_some, new]

/-- A plan with other rows is accepted if its rows get through. -/
theorem matches_withRows_iff {kind : String} {closes cancels : List Value}
    (read : rowsOf first "allowed_closes" = some closes)
    (read' : rowsOf first "allowed_cancels" = some cancels) (closes' cancels' : List Value) :
    ctpRecoveryRemainingPlanMatches decimalOfText
        (.mapping kind (replaced (withRows closes' cancels') first)) (.mapping kind first) = true ↔
      sameFields isAllowance first first = true ∧
        fitAll (closeLook decimalOfText) closes' closes = true ∧
        fitAll cancelLook cancels' cancels = true := by
  have readCloses : rowsOf (replaced (withRows closes' cancels') first) "allowed_closes" =
      some closes' := rowsOf_replaced read fun _ => rfl
  have readCancels : rowsOf (replaced (withRows closes' cancels') first) "allowed_cancels" =
      some cancels' := rowsOf_replaced read' fun _ => rfl
  have fields : sameFields isAllowance (replaced (withRows closes' cancels') first) first =
      sameFields isAllowance first first := by
    refine sameFields_replaced (fun key value fixed => ?_) first first
    simp only [isAllowance, Bool.or_eq_false_iff, decide_eq_false_iff_not] at fixed
    rw [withRows, if_neg fixed.1, if_neg fixed.2]
  simp only [ctpRecoveryRemainingPlanMatches, fields, readCloses, readCancels, read, read',
    Option.any_some, Bool.and_eq_true, and_assoc]

/-- Every reduced plan is accepted exactly if the check knows the rows again and close rows that
agree in all other fields have one quantity. -/
theorem reduced_plans_accepted_iff (wellFormed : WellFormed decimalOfText expected) :
    (∀ current, Reduced decimalOfText expected current →
      ctpRecoveryRemainingPlanMatches decimalOfText current expected = true) ↔
    Recognised expected ∧ OneQuantity decimalOfText expected := by
  obtain ⟨tidy, ⟨kind, entries, closes, cancels, rfl, read, read'⟩, allowed⟩ := wellFormed
  simp only [planRows, read, Option.getD_some] at allowed
  have inside := (Value.tidy_mapping.mp tidy).2
  have tidyCloses : ∀ row ∈ closes, row.tidy = true := fun row => tidy_of_mem_rowsOf inside read
  have tidyCancels : ∀ row ∈ cancels, row.tidy = true := fun row => tidy_of_mem_rowsOf inside read'
  have known : ∀ row ∈ closes, rowsAgree row row = true ↔ SelfEqual isQuantity row := by
    intro row mem
    obtain ⟨_, _, ⟨⟨_, rfl⟩, _, _⟩⟩ := allowed row mem
    exact sameFields_self_iff (tidyCloses _ mem)
  constructor
  · intro accepted
    have rows : ∀ kept cancels', kept.Subperm closes → cancels'.Subperm cancels →
        sameFields isAllowance entries entries = true ∧
          fitAll (closeLook decimalOfText) kept closes = true ∧
          fitAll cancelLook cancels' cancels = true := by
      intro kept cancels' sub sub'
      refine (matches_withRows_iff read read' kept cancels').mp (accepted _ ?_)
      refine ⟨kind, entries, closes, kept, kept, cancels, cancels', rfl, rfl, read, read', sub,
        List.forall₂_same.mpr fun row mem => ?_, sub'⟩
      obtain ⟨_, _, allows⟩ := allowed row (sub.subset mem)
      exact allows.reduces (tidyCloses row (sub.subset mem))
    have all := fun kept sub => (rows kept [] sub List.nil_subperm).2.1
    refine ⟨⟨?_, ?_, ?_⟩, ?_⟩
    · exact (sameFields_self_iff tidy).mp (rows [] [] List.nil_subperm List.nil_subperm).1
    · simp only [planRows, read, Option.getD_some]
      exact fun row mem => (known row mem).mp (rowsAgree_self tidyCloses all mem)
    · simp only [planRows, read', Option.getD_some]
      exact (fitAll_cancels_iff tidyCancels).mp fun kept sub =>
        (rows [] kept List.nil_subperm sub).2.2
    · simp only [OneQuantity, planRows, read, Option.getD_some]
      intro row mem other among agree _ _ _ _ allows allows'
      obtain ⟨part, back⟩ := partOf_of_agree tidyCloses allowed all mem among agree
      exact part.antisymm back allows allows'
  · rintro ⟨⟨fields, closesKnown, cancelsKnown⟩, oneQuantity⟩ current
      ⟨_, _, _, kept, closes', _, cancels', same, rfl, own, own', sub, reduces, sub'⟩
    cases same
    obtain rfl : closes = _ := Option.some.inj (read.symm.trans own)
    obtain rfl : cancels = _ := Option.some.inj (read'.symm.trans own')
    simp only [planRows, read, read', Option.getD_some] at closesKnown cancelsKnown
    simp only [OneQuantity, planRows, read, Option.getD_some] at oneQuantity
    refine (matches_withRows_iff read read' closes' cancels').mpr
      ⟨(sameFields_self_iff tidy).mpr fields, ?_, ?_⟩
    · exact fitAll_closes sub reduces tidyCloses
        (fun row mem => (known row mem).mpr (closesKnown row mem)) allowed oneQuantity
    · exact (fitAll_cancels_iff tidyCancels).mpr cancelsKnown cancels' sub'

/-! ## A sample plan -/

def sampleRow (quantity : ℚ) : Value :=
  .mapping "dict" [(.str "symbol", .str "rb2610"), (.str "quantity", .decimal (.finite quantity) "")]

def samplePlan (closes : List Value) : Value :=
  .mapping "dict" [(.str "allowed_closes", .list closes), (.str "allowed_cancels", .list [])]

theorem sampleRow_reduces {less quantity : ℚ} (positive : 0 < less) (le : less ≤ quantity) :
    Reduces (fun _ => none) (sampleRow quantity) (sampleRow less) :=
  ⟨"dict", _, .decimal (.finite less) "", quantity, less, rfl, rfl, rfl, rfl, positive, le⟩

theorem samplePlan_reduced {closes kept reduced : List Value} (sub : kept.Subperm closes)
    (reduces : List.Forall₂ (Reduces fun _ => none) kept reduced) :
    Reduced (fun _ => none) (samplePlan closes) (samplePlan reduced) :=
  ⟨"dict", _, closes, kept, reduced, [], [], rfl, rfl, rfl, rfl, sub, reduces, List.nil_subperm⟩

/-- Every part of two times five is accepted. -/
theorem sample_plan_accepted :
    WellFormed (fun _ => none) (samplePlan [sampleRow 5, sampleRow 5]) ∧
      ∀ current, Reduced (fun _ => none) (samplePlan [sampleRow 5, sampleRow 5]) current →
        ctpRecoveryRemainingPlanMatches (fun _ => none) current
          (samplePlan [sampleRow 5, sampleRow 5]) = true := by
  have only : ∀ row ∈ [sampleRow 5, sampleRow 5], row = sampleRow 5 := by simp
  have five : Allows (fun _ => none) (sampleRow 5) _ 5 := ⟨⟨_, rfl⟩, rfl, by decide⟩
  have wellFormed : WellFormed (fun _ => none) (samplePlan [sampleRow 5, sampleRow 5]) :=
    ⟨by decide, ⟨_, _, _, _, rfl, rfl, rfl⟩, fun row mem => only row mem ▸ ⟨_, _, five⟩⟩
  refine ⟨wellFormed, (reduced_plans_accepted_iff wellFormed).mpr
    ⟨⟨by simp [samplePlan, SelfEqual, isAllowance], fun row mem => ?_, fun row mem => by cases mem⟩,
      ?_⟩⟩
  · rw [only row mem]
    simp [SelfEqual, sampleRow, isQuantity, Value.eq]
  · intro row mem other among _ _ _ _ _ allows allows'
    rw [only row mem] at allows
    rw [only other among] at allows'
    exact (allows.unique allows').2

/-- Without the smaller of two rows a plan is refused. -/
theorem larger_row_refused :
    Reduced (fun _ => none) (samplePlan [sampleRow 1, sampleRow 5]) (samplePlan [sampleRow 5]) ∧
      ctpRecoveryRemainingPlanMatches (fun _ => none) (samplePlan [sampleRow 5])
        (samplePlan [sampleRow 1, sampleRow 5]) = false :=
  ⟨samplePlan_reduced (List.Sublist.subperm (List.sublist_cons_self _ [sampleRow 5]))
    (.cons (sampleRow_reduces (by decide : (0 : ℚ) < 5) le_rfl) .nil), by decide⟩

end BtApiCtp.Recovery
