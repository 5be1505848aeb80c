/-
# Collector.Window -- the collection thread keeps its books

The ledger of a run: every accepted tick is persisted, dropped, outside every session, still
buffered, or in the hands of the flush that drained it.  It is an assertion about the run's
own objects and about which rows are kept, so it survives whatever the other threads do
(`Steady`); every step of `run_once` keeps it, or notes the fault that breaks it.
-/
import BtApiCtp.Collector.Compaction

namespace BtApiCtp.Collector.Runtime

open Theory

variable {s : Depot} {f : Proc → Proc}

/-! ## Assertions about a run -/

/-- An assertion about which rows are kept and about the objects of one run. -/
abbrev RunAssertion := (Row → Prop) → Proc → Prop

/-- The assertion at a state of the depot. -/
def At (run : RunId) (P : RunAssertion) (s : Depot) : Prop := P (Kept s) (s.proc run)

/-- An assertion that holds on beside the collection thread. -/
def Steady (merging : Prop) (P : RunAssertion) : Prop :=
  ∀ held held' p p', BesideMain p p' → (merging → ∀ row, held row → held' row) →
    P held p → P held' p'

section Assertions

variable {merging : Prop} {run : RunId} {P P' : RunAssertion}

theorem Steady.and (first : Steady merging P) (second : Steady merging P') :
    Steady merging fun held p => P held p ∧ P' held p :=
  fun held held' p p' beside kept here =>
    ⟨first held held' p p' beside kept here.1, second held held' p p' beside kept here.2⟩

theorem Steady.stable (steady : Steady merging P) : Stable merging (run, .main) (At run P) :=
  fun _ _ rely here => steady _ _ _ _ rely.own rely.kept here

/-- Counters and queue are no part of what is beside the collection thread. -/
theorem BesideMain.internal {p : Proc} {segments : List SegmentPath} {compactions failures : Nat}
    {error : Option String} :
    BesideMain p { p with
      segments
      compactions
      compactionFailures := failures
      lastCompactionError := error } :=
  { BesideMain.refl p with
    compactThread := fun _ => rfl
    ticks := ⟨[], by simp, by simp⟩
    silent := fun _ => .inr ⟨rfl, rfl, rfl⟩
    faults := ⟨[], by simp, by simp⟩ }

theorem Steady.framed (steady : Steady merging P) : Framed merging (run, .main) (At run P) where
  stable := steady.stable
  tidy s s' tidy here := by
    obtain ⟨segments, compactions, failures, error, change⟩ := tidy.proc
    refine steady (Kept s) (Kept s') (s.proc run) (s'.proc run) ?_ tidy.kept here
    change BesideMain (s.proc run) (s'.proc (run, Role.main).1)
    rw [change]
    exact BesideMain.internal
  busy isWorker := nomatch isWorker

/-- A change of its own objects that the collection thread makes without ending the run. -/
structure Own (f : Proc → Proc) : Prop where
  config : ∀ p, (f p).config = p.config
  returned : ∀ p, (f p).returned = p.returned
  finalizing : ∀ p, (f p).finalizing = p.finalizing
  compactThread : ∀ p, (f p).compactThread = p.compactThread
  segmentSeq : ∀ p, p.segmentSeq ≤ (f p).segmentSeq

theorem good_own (inv : Inv merging s) (own : Own f) :
    Good merging (run, .main) s (s.update run f) := by
  refine good_update (run, .main) inv (own.config _) (own.segmentSeq _) (fun role ne => ?_) ?_ ?_
  · cases role with
    | main => exact absurd rfl ne
    | worker =>
      intro alive
      rwa [own.compactThread]
  · intro report none some
    rw [own.returned] at some
    exact absurd (none.symm.trans some) nofun
  · rw [own.finalizing, own.compactThread]
    exact inv.finalizing run

theorem safe_own {E : Failure → Depot → Prop} (steady : Steady merging P) (own : Own f)
    (step : ∀ held p, P held p → P' held (f p)) (pre : At run P s) :
    SafeAt merging (run, .main) (fun _ => At run P') E (Prog.modify fun s => s.update run f) s := by
  refine safe_modify steady.stable pre fun s' here inv => ⟨good_own inv own, ?_⟩
  unfold At
  rw [Depot.proc_update_self]
  exact step _ _ here

end Assertions

/-! ## The ledger -/

/-- Where every accepted tick is, with `inHand` in the hands of a flush. -/
def Ledger (merging : Prop) (inHand : List TickRecord) : RunAssertion := fun held p =>
  merging → Counted p → ∃ persisted dropped outside,
    p.accepted.Perm (persisted ++ dropped ++ outside ++ (p.buffer.ticks ++ inHand)) ∧
    (∀ tick ∈ persisted, held (toRow tick)) ∧
    p.buffer.dropped = p.refused + dropped.length ∧ p.ticksOutsideSession = outside.length

/-- The day to finalize is that of the staged rows, if they are all of one day. -/
def Days (p : Proc) : Prop :=
  (∀ day ∈ p.stagedDays, day ≠ "") ∧ (OneDay p → ∀ day ∈ p.stagedDays, p.tradingDay = day)

/-- The final flush leaves nothing in the buffer. -/
def Emptied (p : Proc) : Prop := p.closed = true → Counted p → p.buffer.ticks = []

section Ledgers

variable {merging : Prop} {inHand : List TickRecord} {p p' : Proc}

theorem BesideMain.counted (beside : BesideMain p p') (counted : Counted p') : Counted p := by
  obtain ⟨more, grown, _⟩ := beside.faults
  intro fault mem
  exact counted fault (grown ▸ List.mem_append_left more mem)

theorem BesideMain.oneDay (beside : BesideMain p p') (oneDay : OneDay p') : OneDay p := by
  obtain ⟨more, grown, _⟩ := beside.faults
  refine ⟨fun fault mem => oneDay.1 fault (grown ▸ List.mem_append_left more mem), ?_⟩
  rw [← beside.stagedDays]
  exact oneDay.2

theorem Ledger.steady : Steady merging (Ledger merging inHand) := by
  intro held held' p p' beside kept here on counted
  obtain ⟨persisted, dropped, outside, all, durable, drops, outsides⟩ :=
    here on (beside.counted counted)
  obtain ⟨extra, accepted, buffer⟩ := beside.ticks
  refine ⟨persisted, dropped, outside, ?_, fun tick mem => kept on _ (durable tick mem), ?_, ?_⟩
  · rw [accepted]
    refine List.perm_iff_count.mpr fun tick => ?_
    have before := all.count_eq tick
    have now := buffer.count_eq tick
    simp only [List.count_append] at before now ⊢
    omega
  · have same := beside.dropped
    omega
  · rw [beside.ticksOutsideSession]
    exact outsides

theorem Days.steady (merging : Prop) : Steady merging fun _ => Days := by
  intro _ _ p p' beside _ here
  refine ⟨?_, fun oneDay => ?_⟩
  · rw [beside.stagedDays]
    exact here.1
  · rw [beside.stagedDays, beside.tradingDay]
    exact here.2 (beside.oneDay oneDay)

theorem Emptied.steady (merging : Prop) : Steady merging fun _ => Emptied := by
  intro _ _ p p' beside _ here closed counted
  rw [beside.closed] at closed
  rcases beside.silent (.inr closed) with late | ⟨_, buffer, _⟩
  · exact absurd (counted _ late) id
  · rw [buffer]
    exact here closed (beside.counted counted)

end Ledgers

/-- Between two flushes. -/
structure Running (merging : Prop) (closed : Bool) (inHand : List TickRecord) (held : Row → Prop)
    (p : Proc) : Prop where
  ledger : Ledger merging inHand held p
  days : Days p
  unfinalized : p.finalizing = none
  isClosed : p.closed = closed

/-- Inside a flush: what its write has done since `before`. -/
structure Writing (merging : Prop) (before : Proc) (inHand : List TickRecord) (outside : Nat)
    (newDays : List Day) (held : Row → Prop) (p : Proc) : Prop where
  ledger : Ledger merging inHand held p
  emptied : Emptied p
  unfinalized : p.finalizing = none
  isClosed : p.closed = before.closed
  counted : p.ticksOutsideSession = before.ticksOutsideSession + outside
  staged : p.stagedDays = before.stagedDays ++ newDays
  named : ∀ day ∈ newDays, day ≠ ""
  tradingDay : p.tradingDay = before.tradingDay
  faults : ∃ more, p.faults = before.faults ++ more

/-- These ticks' rows are kept. -/
def AllKept (merging : Prop) (ticks : List TickRecord) : RunAssertion := fun held _ =>
  merging → ∀ tick ∈ ticks, held (toRow tick)

section Phases

variable {merging : Prop} {inHand : List TickRecord} {before : Proc} {outside : Nat}
  {newDays : List Day} {ticks : List TickRecord} {closed : Bool}

theorem Running.steady : Steady merging (Running merging closed inHand) :=
  fun _ _ _ _ beside kept here =>
    ⟨Ledger.steady _ _ _ _ beside kept here.ledger,
      Days.steady merging _ _ _ _ beside kept here.days,
      beside.finalizing.trans here.unfinalized, beside.closed.trans here.isClosed⟩

theorem Writing.steady : Steady merging (Writing merging before inHand outside newDays) := by
  intro held held' p p' beside kept here
  refine ⟨Ledger.steady _ _ _ _ beside kept here.ledger,
    Emptied.steady merging _ _ _ _ beside kept here.emptied,
    beside.finalizing.trans here.unfinalized, beside.closed.trans here.isClosed,
    beside.ticksOutsideSession.trans here.counted,
    beside.stagedDays.trans here.staged, here.named, beside.tradingDay.trans here.tradingDay, ?_⟩
  obtain ⟨first, grownFirst⟩ := here.faults
  obtain ⟨second, grownSecond, _⟩ := beside.faults
  exact ⟨first ++ second, by rw [grownSecond, grownFirst, List.append_assoc]⟩

theorem AllKept.steady : Steady merging (AllKept merging ticks) :=
  fun _ _ _ _ _ kept here on tick mem => kept on _ (here on tick mem)

end Phases
end BtApiCtp.Collector.Runtime
