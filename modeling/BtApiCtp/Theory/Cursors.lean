/-
# Theory.Cursors -- numbered events under epochs

What the consumer of one channel is told: that the channel is bound to an epoch, an event with
its epoch and number, that a call failed, that the source has started anew.  `Orderly` says
that every notice fits those before it:

* an epoch is never bound twice;
* an event is of the epoch that is bound, its number is after the last one, and the very next
  as long as no call failed since the binding;
* after a restart no event comes until the channel is bound again.

The theorems read this off a whole list of notices.
-/
import Mathlib.Data.List.Basic
import Mathlib.Data.List.Nodup

namespace BtApiCtp.Theory.Cursors

variable {ε : Type}

inductive Notice (ε : Type) where
  | bound (epoch : ε)
  | event (epoch : ε) (number : Nat)
  | failed
  | restarted
  deriving DecidableEq, Repr

/-- What a consumer remembers. -/
structure View (ε : Type) where
  epoch : Option ε := none
  /-- The number of the last event of the epoch. -/
  last : Nat := 0
  /-- No call failed since the binding. -/
  exact : Bool := true
  /-- The source has started anew since the binding. -/
  halted : Bool := false
  seen : List ε := []

namespace View

def see (view : View ε) : Notice ε → View ε
  | .bound epoch => { epoch := some epoch, seen := epoch :: view.seen }
  | .event _ number => { view with last := number }
  | .failed => { view with exact := false }
  | .restarted => { view with halted := true }

def Permits (view : View ε) : Notice ε → Prop
  | .bound epoch => epoch ∉ view.seen
  | .event epoch number => view.epoch = some epoch ∧ view.halted = false ∧ view.last < number ∧
      (view.exact = true → number = view.last + 1)
  | .failed => True
  | .restarted => True

end View

/-- Every notice is permitted where it comes. -/
def Orderly (view : View ε) : List (Notice ε) → Prop
  | [] => True
  | notice :: notices => view.Permits notice ∧ Orderly (view.see notice) notices

variable {view : View ε}

theorem orderly_append {first second : List (Notice ε)} :
    Orderly view (first ++ second) ↔
      Orderly view first ∧ Orderly (first.foldl View.see view) second := by
  induction first generalizing view with
  | nil => simp [Orderly]
  | cons notice notices ih => simp [Orderly, ih, and_assoc]

/-- The epochs that were bound. -/
def epochs (notices : List (Notice ε)) : List ε :=
  notices.filterMap fun
    | .bound epoch => some epoch
    | _ => none

/-- The cursors of the events: epoch and number. -/
def cursors (notices : List (Notice ε)) : List (ε × Nat) :=
  notices.filterMap fun
    | .event epoch number => some (epoch, number)
    | _ => none

/-! ## Reading it off -/

variable {notices : List (Notice ε)} {epoch : ε}

section Reading

variable (orderly : Orderly view notices)
include orderly

theorem Orderly.epochs_nodup :
    (epochs notices).Nodup ∧ ∀ epoch ∈ epochs notices, epoch ∉ view.seen := by
  induction notices generalizing view with
  | nil => exact ⟨List.nodup_nil, fun _ mem => absurd mem List.not_mem_nil⟩
  | cons notice notices ih =>
    obtain ⟨nodup, fresh⟩ := ih orderly.2
    cases notice with
    | bound epoch =>
      refine ⟨List.nodup_cons.mpr ⟨fun again => fresh epoch again List.mem_cons_self, nodup⟩, ?_⟩
      intro other mem
      rcases List.mem_cons.mp mem with rfl | later
      · exact orderly.1
      · exact fun before => fresh other later (List.mem_cons_of_mem _ before)
    | event epoch number | failed | restarted => exact ⟨nodup, fresh⟩

/-- An event of an epoch that was seen is of the one that is bound, and after its last. -/
theorem Orderly.after {cursor : ε × Nat} (mem : cursor ∈ cursors notices)
    (old : cursor.1 ∈ view.seen) : view.epoch = some cursor.1 ∧ view.last < cursor.2 := by
  induction notices generalizing view with
  | nil => cases mem
  | cons notice notices ih =>
    cases notice with
    | bound epoch =>
      obtain ⟨same, -⟩ := ih orderly.2 mem (List.mem_cons_of_mem _ old)
      cases same
      exact absurd old orderly.1
    | event epoch number =>
      obtain ⟨⟨ofEpoch, -, later, -⟩, rest⟩ := orderly
      rcases List.mem_cons.mp mem with rfl | among
      · exact ⟨ofEpoch, later⟩
      · obtain ⟨same, evenLater⟩ := ih rest among old
        exact ⟨same, Nat.lt_trans later evenLater⟩
    | failed | restarted =>
      have later := ih orderly.2 mem old
      exact later

/-- Within an epoch the numbers rise. -/
theorem Orderly.cursors_rise (coherent : ∀ epoch, view.epoch = some epoch → epoch ∈ view.seen) :
    (cursors notices).Pairwise fun earlier later => earlier.1 = later.1 → earlier.2 < later.2 := by
  induction notices generalizing view with
  | nil => exact List.Pairwise.nil
  | cons notice notices ih =>
    cases notice with
    | bound epoch =>
      refine ih orderly.2 fun other same => ?_
      cases same
      exact List.mem_cons_self
    | event epoch number =>
      obtain ⟨⟨ofEpoch, -, -, -⟩, rest⟩ := orderly
      refine List.pairwise_cons.mpr ⟨fun later mem same => ?_, ih rest coherent⟩
      have seen : later.1 ∈ view.seen := same ▸ coherent epoch ofEpoch
      exact (rest.after mem seen).2
    | failed | restarted => exact ih orderly.2 coherent

theorem Orderly.cursors_pos : ∀ cursor ∈ cursors notices, 0 < cursor.2 := by
  induction notices generalizing view with
  | nil => exact fun _ mem => absurd mem List.not_mem_nil
  | cons notice notices ih =>
    cases notice with
    | event epoch number =>
      intro cursor mem
      rcases List.mem_cons.mp mem with rfl | among
      · exact Nat.zero_lt_of_lt orderly.1.2.2.1
      · exact ih orderly.2 cursor among
    | bound epoch | failed | restarted => exact ih orderly.2

/-- As long as nothing fails, the numbers of a binding go on one by one. -/
theorem Orderly.cursors_exact (bound : view.epoch = some epoch) (exact : view.exact = true)
    (fine : .failed ∉ notices) (unbound : ∀ other, .bound other ∉ notices) :
    cursors notices =
      (List.range' (view.last + 1) (cursors notices).length).map fun number => (epoch, number) := by
  induction notices generalizing view with
  | nil => rfl
  | cons notice notices ih =>
    have laterFine : .failed ∉ notices := fun mem => fine (List.mem_cons_of_mem _ mem)
    have laterUnbound : ∀ other, .bound other ∉ notices := fun other mem =>
      unbound other (List.mem_cons_of_mem _ mem)
    cases notice with
    | bound other => exact absurd List.mem_cons_self (unbound other)
    | failed => exact absurd List.mem_cons_self fine
    | event ofEpoch number =>
      obtain ⟨⟨same, -, -, next⟩, rest⟩ := orderly
      cases Option.some.inj (bound.symm.trans same)
      have later := ih rest same exact laterFine laterUnbound
      change (epoch, number) :: cursors notices =
        (List.range' (view.last + 1) ((cursors notices).length + 1)).map _
      rw [List.range'_succ, List.map_cons, ← next exact]
      exact congrArg _ later
    | restarted =>
      have later := ih orderly.2 bound exact laterFine laterUnbound
      exact later

end Reading

/-- After a restart an event comes only once the channel was bound again. -/
theorem Orderly.bound_of_halted {before after : List (Notice ε)} {number : Nat}
    (orderly : Orderly view (before ++ .event epoch number :: after))
    (halted : view.halted = true) : ∃ other, .bound other ∈ before := by
  induction before generalizing view with
  | nil =>
    have running := orderly.1.2.1
    rw [halted] at running
    cases running
  | cons notice before ih =>
    have further : (view.see notice).halted = true → ∃ other, .bound other ∈ notice :: before := by
      intro still
      obtain ⟨other, mem⟩ := ih orderly.2 still
      exact ⟨other, List.mem_cons_of_mem _ mem⟩
    cases notice with
    | bound other => exact ⟨other, List.mem_cons_self⟩
    | event _ _ | failed => exact further halted
    | restarted => exact further rfl

/-- **What an orderly channel gives its consumer.** -/
structure Reliable (notices : List (Notice ε)) : Prop where
  /-- Within an epoch the numbers rise, from one on. -/
  rise : (cursors notices).Pairwise fun earlier later => earlier.1 = later.1 → earlier.2 < later.2
  pos : ∀ cursor ∈ cursors notices, 1 ≤ cursor.2
  /-- They are 1, 2, 3, ... after a binding, as long as no call fails. -/
  exact : ∀ before epoch during after, notices = before ++ .bound epoch :: (during ++ after) →
    .failed ∉ during → (∀ other, .bound other ∉ during) →
      cursors during =
        (List.range' 1 (cursors during).length).map fun number => (epoch, number)
  /-- No event comes between a restart and the next binding. -/
  halted : ∀ before during after epoch number,
    notices = before ++ .restarted :: (during ++ .event epoch number :: after) →
      ∃ other, .bound other ∈ during
  /-- No epoch is bound twice. -/
  nodup : (epochs notices).Nodup

theorem Orderly.reliable (orderly : Orderly {} notices) : Reliable notices where
  rise := orderly.cursors_rise fun _ nothing => by cases nothing
  pos := orderly.cursors_pos
  exact := by
    rintro before epoch during after rfl fine unbound
    obtain ⟨-, -, later⟩ := orderly_append.mp orderly
    exact (orderly_append.mp later).1.cursors_exact rfl rfl fine unbound
  halted := by
    rintro before during after epoch number rfl
    obtain ⟨-, -, later⟩ := orderly_append.mp orderly
    exact later.bound_of_halted rfl
  nodup := orderly.epochs_nodup.1

/-! ## A batch of events -/

/-- The events of one epoch with the numbers after `a` up to `a + n`. -/
def batch (epoch : ε) (a n : Nat) : List (Notice ε) :=
  (List.range' (a + 1) n).map fun number => .event epoch number

/-- What a view may know of a channel that is bound to `epoch` and has counted to `count`. -/
structure View.Counts (view : View ε) (epoch : ε) (count : Nat) : Prop where
  epoch_eq : view.epoch = some epoch
  last_le : view.last ≤ count
  exact : view.exact = true → view.last = count

/-- A batch that goes on counting is orderly, and is counted. -/
theorem View.Counts.batch : ∀ (n : Nat) {view : View ε} {count : Nat},
    view.Counts epoch count → (0 < n → view.halted = false) → Orderly view (batch epoch count n) ∧
        ((batch epoch count n).foldl View.see view).Counts epoch (count + n) ∧
        ((batch epoch count n).foldl View.see view).halted = view.halted ∧
        ((batch epoch count n).foldl View.see view).seen = view.seen
  | 0, view, count, counts, _ => ⟨trivial, counts, rfl, rfl⟩
  | n + 1, view, count, counts, running => by
    have unhalted := running (Nat.succ_pos n)
    have permitted : view.Permits (.event epoch (count + 1)) :=
      ⟨counts.epoch_eq, unhalted, Nat.lt_succ_of_le counts.last_le,
        fun exact => by rw [counts.exact exact]⟩
    have next : (view.see (.event epoch (count + 1))).Counts epoch (count + 1) :=
      ⟨counts.epoch_eq, Nat.le_refl _, fun _ => rfl⟩
    obtain ⟨orderly, counted, halted, seen⟩ := next.batch n fun _ => unhalted
    have split : Cursors.batch epoch count (n + 1) =
        .event epoch (count + 1) :: Cursors.batch epoch (count + 1) n := by
      simp [Cursors.batch, List.range'_succ]
    rw [split, List.foldl_cons, show count + (n + 1) = count + 1 + n by omega]
    exact ⟨⟨permitted, orderly⟩, counted, halted, seen⟩

end BtApiCtp.Theory.Cursors
