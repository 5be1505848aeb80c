/-
# Market.Volume -- cumulative volumes become deltas

`CtpVolumeDeltaTracker` and the end of `_on_tick`, which publishes what the tracker made of a
row.  A venue reports the volume of a trading day so far; the tracker keeps, for each exchange
and instrument, the last row in order with its scope, and a row gets the difference to it.

`deltas_telescope` says what the deltas of one instrument add up to while its scope lasts:
the last volume minus the first, whatever rows out of order or of other instruments come
between.  Quantities are exact numbers here.
-/
import BtApiCtp.Market.QuoteQueue
import BtApiCtp.Theory.Dict
import Mathlib.Algebra.Order.Ring.Rat
import Mathlib.Algebra.BigOperators.Group.List.Basic
import Mathlib.Tactic.Ring

namespace BtApiCtp.Market.Volume

open Theory

/-! ## The tracker -/

/-- Connection generation, subscription epoch and trading day. -/
structure DayScope where
  connectionGeneration : Nat
  subscriptionEpoch : Nat
  tradingDay : String
  deriving DecidableEq, Repr

/-- What the tracker reads of a `CtpTickerData`. -/
structure Tick where
  exchangeId : String
  instrument : String
  cumulativeVolume : Option ℚ
  scope : DayScope
  ingestSeq : Nat
  deriving DecidableEq, Repr

namespace Tick

def key (row : Tick) : String × String := (row.exchangeId, row.instrument)

/-- `float(row.get_cumulative_volume() or 0.0)`. -/
def total (row : Tick) : ℚ := row.cumulativeVolume.getD 0

end Tick

/-- The `volume_quality` of a row. -/
inductive Quality where
  | baseline
  | connectionOrTradingDayReset
  | outOfOrder
  | volumeReset
  | continuous
  /-- A row that never reached the tracker. -/
  | invalidQuote
  deriving DecidableEq, Repr

/-- What `apply_volume_delta` attaches to a row, and the flag that the tracker adds. -/
structure Delta where
  volume : ℚ
  complete : Bool
  quality : Quality
  continuity : Continuity
  flag : Option String
  deriving DecidableEq, Repr

/-- What is kept of the last row in order. -/
structure Baseline where
  scope : DayScope
  cumVolume : ℚ
  ingestSeq : Nat
  deriving DecidableEq, Repr

def Tick.baseline (row : Tick) : Baseline := ⟨row.scope, row.total, row.ingestSeq⟩

/-- A row with a number is out of order unless the number is after the last one. -/
def Tick.follows (row : Tick) (last : Nat) : Bool := row.ingestSeq = 0 || last < row.ingestSeq

/-- The decision of `apply`. -/
def assess (previous : Option Baseline) (row : Tick) : Delta :=
  match previous with
  | none => ⟨0, false, .baseline, .continuous, none⟩
  | some previous =>
    if previous.scope ≠ row.scope then
      ⟨0, false, .connectionOrTradingDayReset, .continuous, none⟩
    else if !row.follows previous.ingestSeq then ⟨0, false, .outOfOrder, .gap, some "OUT_OF_ORDER"⟩
    else if row.total < previous.cumVolume then
      ⟨0, false, .volumeReset, .continuous, some "VOLUME_GAP"⟩
    else ⟨row.total - previous.cumVolume, true, .continuous, .continuous, none⟩

abbrev Tracker := Dict (String × String) Baseline

/-- `CtpVolumeDeltaTracker.apply`. -/
def apply (tracker : Tracker) (row : Tick) : Delta × Tracker :=
  let delta := assess (tracker.lookup row.key) row
  (delta, if delta.quality = .outOfOrder then tracker else tracker.insert row.key row.baseline)

/-- The rows in turn, each with its delta. -/
def applyAll (tracker : Tracker) : List Tick → List (Tick × Delta)
  | [] => []
  | row :: rows => (row, (apply tracker row).1) :: applyAll (apply tracker row).2 rows

/-! ## Publication -/

variable {tracker : Tracker}

/-- The end of `_on_tick`: a row with a malformed quote stays away from the tracker, and a row
out of order is dropped. -/
def publish (tracker : Tracker) (row : Tick) (valid : Bool) : Option Delta × Tracker :=
  if valid then
    let (delta, tracker) := apply tracker row
    (if delta.quality = .outOfOrder then none else some delta, tracker)
  else (some ⟨0, false, .invalidQuote, .gap, none⟩, tracker)

/-- The rows of a stream in turn, each with whether its quote is valid; those that are published,
with their deltas. -/
def publishAll (tracker : Tracker) : List (Tick × Bool) → List (Tick × Delta)
  | [] => []
  | (row, valid) :: rows =>
    ((publish tracker row valid).1.map (row, ·)).toList ++
      publishAll (publish tracker row valid).2 rows

/-! ## One row -/

theorem assess_nonneg (previous : Option Baseline) (row : Tick) :
    0 ≤ (assess previous row).volume := by
  unfold assess
  split
  · exact le_refl _
  · split
    · exact le_refl _
    split
    · exact le_refl _
    split
    · exact le_refl _
    · rename_i enough
      exact sub_nonneg.mpr (not_lt.mp enough)

theorem assess_outOfOrder_iff {previous : Option Baseline} {row : Tick} :
    (assess previous row).quality = .outOfOrder ↔
      ∃ last, previous = some last ∧ last.scope = row.scope ∧ row.follows last.ingestSeq = false := by
  cases previous with
  | none => simp [assess]
  | some last =>
    unfold assess
    by_cases same : last.scope = row.scope
    · cases after : row.follows last.ingestSeq with
      | false => simp [same, after]
      | true =>
        by_cases fell : row.total < last.cumVolume <;> simp [same, after, fell]
    · simp [same]

/-- A row out of order is not counted, and nothing is kept of it. -/
theorem apply_outOfOrder {row : Tick} (late : (apply tracker row).1.quality = .outOfOrder) :
    (apply tracker row).2 = tracker ∧ (apply tracker row).1.volume = 0 := by
  refine ⟨if_pos late, ?_⟩
  obtain ⟨last, found, same, after⟩ := assess_outOfOrder_iff.mp late
  change (assess (tracker.lookup row.key) row).volume = 0
  rw [found]
  simp [assess, same, after]

theorem apply_inOrder {row : Tick} (inTime : (apply tracker row).1.quality ≠ .outOfOrder) :
    (apply tracker row).2.lookup row.key = some row.baseline := by
  have replaced : (apply tracker row).2 = tracker.insert row.key row.baseline := if_neg inTime
  rw [replaced, Dict.lookup_insert_eq, if_pos rfl]

/-- By the numbers: a row whose number is not after that of the row it is compared with. -/
theorem apply_late {row : Tick} {last : Baseline} (found : tracker.lookup row.key = some last)
    (same : last.scope = row.scope) (late : row.follows last.ingestSeq = false) :
    (apply tracker row).2 = tracker ∧ (apply tracker row).1.volume = 0 :=
  apply_outOfOrder (assess_outOfOrder_iff.mpr ⟨last, found, same, late⟩)

theorem apply_next {row : Tick} {last : Baseline} (found : tracker.lookup row.key = some last)
    (next : row.follows last.ingestSeq = true) :
    (apply tracker row).2.lookup row.key = some row.baseline := by
  refine apply_inOrder fun late => ?_
  obtain ⟨other, it, -, late⟩ := assess_outOfOrder_iff.mp late
  rw [Option.some.inj (it.symm.trans found), next] at late
  cases late

/-- The baselines of other instruments stay. -/
theorem apply_lookup_of_ne {row : Tick} {key : String × String} (other : row.key ≠ key) :
    (apply tracker row).2.lookup key = tracker.lookup key := by
  unfold apply
  dsimp only
  split
  · rfl
  · rw [Dict.lookup_insert_eq, if_neg (Ne.symm other)]

/-! ## A scope -/

/-- The rows in order, after one with this number. -/
def inOrderAfter (last : Nat) : List Tick → List Tick
  | [] => []
  | row :: rows =>
    if row.follows last then row :: inOrderAfter row.ingestSeq rows else inOrderAfter last rows

/-- The rows of a scope in order: the first one, and each that is after the one before. -/
def inOrder : List Tick → List Tick
  | [] => []
  | row :: rows => row :: inOrderAfter row.ingestSeq rows

/-- The last volume minus the first. -/
def growth : List ℚ → ℚ
  | [] => 0
  | first :: rest => (first :: rest).getLast (List.cons_ne_nil _ _) - first

/-- What the rows of one instrument got. -/
def deltasOf (key : String × String) (answers : List (Tick × Delta)) : List ℚ :=
  (answers.filter fun answer => answer.1.key = key).map fun answer => answer.2.volume

/-- The rows of one instrument. -/
def rowsOf (key : String × String) (rows : List Tick) : List Tick :=
  rows.filter fun row => row.key = key

section Scope

variable {key : String × String} {scope : DayScope}

theorem deltasOf_cons (row : Tick) (delta : Delta) (answers : List (Tick × Delta)) :
    deltasOf key ((row, delta) :: answers) =
      if row.key = key then delta.volume :: deltasOf key answers else deltasOf key answers := by
  unfold deltasOf
  by_cases own : row.key = key <;> simp [own]

theorem rowsOf_cons (row : Tick) (rows : List Tick) :
    rowsOf key (row :: rows) = if row.key = key then row :: rowsOf key rows else rowsOf key rows := by
  unfold rowsOf
  by_cases own : row.key = key <;> simp [own]

/-- After a row in order the deltas add up to how far the volume has come since. -/
theorem deltas_after : ∀ (rows : List Tick) {tracker : Tracker} {last : Baseline},
    tracker.lookup key = some last → last.scope = scope →
    (∀ row ∈ rows, row.key = key → row.scope = scope) →
    (last.cumVolume :: (inOrderAfter last.ingestSeq (rowsOf key rows)).map Tick.total).IsChain
      (· ≤ ·) →
    (deltasOf key (applyAll tracker rows)).sum =
      growth (last.cumVolume :: (inOrderAfter last.ingestSeq (rowsOf key rows)).map Tick.total)
  | [], _, _, _, _, _, _ => by simp [applyAll, deltasOf, rowsOf, inOrderAfter, growth]
  | row :: rows, tracker, last, found, inScope, within, grows => by
    have later : ∀ other ∈ rows, other.key = key → other.scope = scope := fun other mem =>
      within other (List.mem_cons_of_mem _ mem)
    rw [applyAll, deltasOf_cons]
    rw [rowsOf_cons] at grows ⊢
    by_cases own : row.key = key
    · rw [if_pos own] at grows ⊢
      rw [if_pos own, List.sum_cons]
      have same : last.scope = row.scope :=
        inScope.trans (within row List.mem_cons_self own).symm
      have decides : (apply tracker row).1 = assess (some last) row := by
        rw [← found, ← own]
        rfl
      rw [inOrderAfter] at grows ⊢
      have here : tracker.lookup row.key = some last := own ▸ found
      cases after : row.follows last.ingestSeq with
      | false =>
        obtain ⟨kept, zero⟩ := apply_late here same after
        rw [after, if_neg Bool.false_ne_true] at grows
        rw [if_neg Bool.false_ne_true, zero, kept, zero_add]
        exact deltas_after rows found inScope later grows
      | true =>
        rw [after, if_pos rfl, List.map_cons] at grows
        rw [if_pos rfl, List.map_cons]
        obtain ⟨step, rest⟩ := List.isChain_cons_cons.mp grows
        have kept := apply_next here after
        rw [own] at kept
        -- in a scope that goes on, a row in order gets the difference unless the volume fell
        have difference : (assess (some last) row).volume = row.total - last.cumVolume := by
          simp [assess, same, after, not_lt.mpr step]
        rw [deltas_after rows kept (same.symm.trans inScope) later rest, decides, difference]
        change row.total - last.cumVolume + (_ - row.total) = _ - last.cumVolume
        rw [List.getLast_cons_cons]
        exact sub_add_sub_cancel' _ _ _
    · rw [if_neg own] at grows ⊢
      rw [if_neg own]
      rw [← apply_lookup_of_ne own] at found
      exact deltas_after rows found inScope later grows

theorem applyAll_nonneg : ∀ (rows : List Tick) (tracker : Tracker),
    ∀ answer ∈ applyAll tracker rows, 0 ≤ answer.2.volume
  | row :: rows, tracker, answer, mem => by
    rcases List.mem_cons.mp mem with rfl | later
    · exact assess_nonneg _ _
    · exact applyAll_nonneg rows _ answer later

/-- **The deltas telescope.**  Take a tracker that holds no row of this scope for an
instrument, and any rows of which those of the instrument are in the scope.  No delta is
negative; a row out of order, by the tracker's verdict or by its number (which is not after that
of the row kept for its scope), leaves the tracker as it is and gets nothing; and if the volumes
of the rows in order do not fall, the deltas add up to the last volume minus the first. -/
theorem deltas_telescope (key : String × String) (scope : DayScope) {tracker : Tracker}
    {rows : List Tick} (fresh : ∀ last, tracker.lookup key = some last → last.scope ≠ scope)
    (within : ∀ row ∈ rows, row.key = key → row.scope = scope) :
    (∀ answer ∈ applyAll tracker rows, 0 ≤ answer.2.volume) ∧
    (∀ (tracker : Tracker) (row : Tick), (apply tracker row).1.quality = .outOfOrder →
      (apply tracker row).2 = tracker ∧ (apply tracker row).1.volume = 0) ∧
    (∀ (tracker : Tracker) (row : Tick) (last : Baseline), tracker.lookup row.key = some last →
      last.scope = row.scope → row.ingestSeq ≠ 0 → row.ingestSeq ≤ last.ingestSeq →
      (apply tracker row).2 = tracker ∧ (apply tracker row).1.volume = 0) ∧
    (((inOrder (rowsOf key rows)).map Tick.total).IsChain (· ≤ ·) →
      (deltasOf key (applyAll tracker rows)).sum =
        growth ((inOrder (rowsOf key rows)).map Tick.total)) := by
  refine ⟨applyAll_nonneg rows tracker, fun _ _ => apply_outOfOrder, ?_, fun grows => ?_⟩
  · intro tracker row last found same numbered notAfter
    refine apply_late found same ?_
    simp [Tick.follows, numbered, notAfter]
  induction rows generalizing tracker with
  | nil => simp [applyAll, deltasOf, rowsOf, inOrder, growth]
  | cons row rows ih =>
    have later : ∀ other ∈ rows, other.key = key → other.scope = scope := fun other mem =>
      within other (List.mem_cons_of_mem _ mem)
    rw [applyAll, deltasOf_cons]
    rw [rowsOf_cons] at grows ⊢
    by_cases own : row.key = key
    · rw [if_pos own] at grows ⊢
      rw [if_pos own, List.sum_cons]
      have inScope : row.scope = scope := within row List.mem_cons_self own
      -- the first row of a scope is the baseline of the others
      have first : (apply tracker row).1.volume = 0 ∧
          (apply tracker row).1.quality ≠ .outOfOrder := by
        change (assess (tracker.lookup row.key) row).volume = 0 ∧
          (assess (tracker.lookup row.key) row).quality ≠ .outOfOrder
        rw [own]
        cases found : tracker.lookup key with
        | none => simp [assess]
        | some last =>
          have apart : last.scope ≠ row.scope := inScope ▸ fresh last found
          simp [assess, apart]
      have kept := apply_inOrder first.2
      rw [own] at kept
      rw [first.1, zero_add]
      exact deltas_after rows kept inScope later grows
    · rw [if_neg own] at grows ⊢
      rw [if_neg own]
      refine ih (fun last found => fresh last ?_) later grows
      rw [← apply_lookup_of_ne own]
      exact found

/-- What is published of an instrument adds up to what the tracker gave its valid rows. -/
theorem sum_publishAll : ∀ (rows : List (Tick × Bool)) (tracker : Tracker),
    (deltasOf key (publishAll tracker rows)).sum =
      (deltasOf key (applyAll tracker ((rows.filter Prod.snd).map Prod.fst))).sum
  | [], _ => rfl
  | (row, false) :: rows, tracker => by
    have published : publishAll tracker ((row, false) :: rows) =
        (row, ⟨0, false, .invalidQuote, .gap, none⟩) :: publishAll tracker rows := rfl
    have tracked : applyAll tracker ((((row, false) :: rows).filter Prod.snd).map Prod.fst) =
        applyAll tracker ((rows.filter Prod.snd).map Prod.fst) := rfl
    rw [published, tracked, deltasOf_cons, ← sum_publishAll rows tracker]
    by_cases own : row.key = key <;> simp [own]
  | (row, true) :: rows, tracker => by
    have tracked : applyAll tracker ((((row, true) :: rows).filter Prod.snd).map Prod.fst) =
        (row, (apply tracker row).1) ::
          applyAll (apply tracker row).2 ((rows.filter Prod.snd).map Prod.fst) := rfl
    rw [tracked, deltasOf_cons]
    by_cases late : (apply tracker row).1.quality = .outOfOrder
    · have published : publishAll tracker ((row, true) :: rows) =
          publishAll (apply tracker row).2 rows := by
        simp [publishAll, publish, late]
      rw [published, sum_publishAll rows, (apply_outOfOrder late).2]
      by_cases own : row.key = key <;> simp [own]
    · have published : publishAll tracker ((row, true) :: rows) =
          (row, (apply tracker row).1) :: publishAll (apply tracker row).2 rows := by
        simp [publishAll, publish, late]
      rw [published, deltasOf_cons]
      by_cases own : row.key = key <;> simp [own, sum_publishAll rows]

end Scope

/-- Volumes 10, 12 and 17 in order, one row that comes late, and one of another instrument. -/
def sampleRows : List Tick :=
  let scope : DayScope := ⟨1, 1, "20260109"⟩
  [⟨"SHFE", "rb2610", some 10, scope, 1⟩, ⟨"SHFE", "rb2610", some 12, scope, 3⟩,
    ⟨"SHFE", "rb2610", some 11, scope, 2⟩, ⟨"SHFE", "ag2612", some 90, scope, 4⟩,
    ⟨"SHFE", "rb2610", some 17, scope, 5⟩]

theorem sampleRows_telescope : (deltasOf ("SHFE", "rb2610") (applyAll ∅ sampleRows)).sum = 7 := by
  have within : ∀ row ∈ sampleRows, row.key = ("SHFE", "rb2610") → row.scope = ⟨1, 1, "20260109"⟩ := by
    decide
  have unseen : ∀ last, (∅ : Tracker).lookup ("SHFE", "rb2610") = some last →
      last.scope ≠ ⟨1, 1, "20260109"⟩ := by
    intro last found
    cases found
  rw [(deltas_telescope ("SHFE", "rb2610") ⟨1, 1, "20260109"⟩ unseen within).2.2.2 (by decide)]
  decide +kernel

end BtApiCtp.Market.Volume
