/-
# Collector.Books -- what collector processes promise, and rely on

`Kept` says where a row that was written to a segment is: still staged, quarantined, or
represented in its final file.  `Accounted` says where every tick a run accepted went, and
`Reported` that the days a run staged have a `report.json` that matches their final files.

`Rely` is what a thread of one run may find changed by everyone else, `Law` what holds of
every transition.  `merging` says that every sink merges into existing final files: without
it a compaction may drop rows of an earlier one.
-/
import BtApiCtp.Collector.Engine

namespace BtApiCtp.Collector.Runtime

open Theory

variable {a b c : Proc}

/-! ## Where a row is -/

/-- The final file a row belongs to. -/
def finalKey (row : Row) : Option FinalKey :=
  match groupKey row with
  | (some day, some exchange, some instrument) => some (day, exchange, instrument)
  | _ => none

variable (s : Depot)

def Staged (row : Row) : Prop :=
  ∃ path rows, s.staging.lookup path = some rows ∧ row ∈ rows

def Quarantined (row : Row) : Prop :=
  ∃ path rows, s.bad.lookup path = some rows ∧ row ∈ rows

/-- The row's key is in its final file, with a receive time at least as large. -/
def Final (row : Row) : Prop :=
  ∃ key, finalKey row = some key ∧ Covers (s.rows key) row

def Kept (row : Row) : Prop := Staged s row ∨ Quarantined s row ∨ Final s row

/-! ## What a returned report says -/

/-- The faults that leave every tick accounted for. -/
def Fault.Counted : Fault → Prop
  | .lateTick => False
  | .handedBack outside closed _ => outside = 0 ∧ closed = false
  | .uncounted _ => False
  | .intruded => True

/-- The faults that leave the day's report complete. -/
def Fault.Covered : Fault → Prop
  | .lateTick => True
  | .handedBack _ _ staged => staged = []
  | .uncounted _ => True
  | .intruded => False

instance : DecidablePred Fault.Counted
  | .lateTick => inferInstanceAs (Decidable False)
  | .handedBack outside closed _ => inferInstanceAs (Decidable (outside = 0 ∧ closed = false))
  | .uncounted _ => inferInstanceAs (Decidable False)
  | .intruded => inferInstanceAs (Decidable True)

instance : DecidablePred Fault.Covered
  | .lateTick => inferInstanceAs (Decidable True)
  | .handedBack _ _ staged => inferInstanceAs (Decidable (staged = []))
  | .uncounted _ => inferInstanceAs (Decidable True)
  | .intruded => inferInstanceAs (Decidable False)

def Counted (p : Proc) : Prop := ∀ fault ∈ p.faults, fault.Counted

/-- Nothing broke the report, and all staged rows are of one trading day. -/
def OneDay (p : Proc) : Prop :=
  (∀ fault ∈ p.faults, fault.Covered) ∧ ∀ day ∈ p.stagedDays, ∀ day' ∈ p.stagedDays, day = day'

/-- Every accepted tick is staged or in its final file, or was dropped, or lies outside
every session, and the report counts the latter two once each. -/
def Accounted (run : RunId) (report : SinkReport) : Prop :=
  ∃ persisted dropped outside,
    (s.proc run).accepted.Perm (persisted ++ dropped ++ outside) ∧
    (∀ tick ∈ persisted, Staged s (toRow tick) ∨ Final s (toRow tick)) ∧
    report.droppedTicks = (s.proc run).refused + dropped.length ∧
    report.ticksOutsideSession = outside.length

/-- The lines of the report are the day's files that have rows, with their row counts. -/
def Matches (day : Day) (lines : List InstrumentReport) : Prop :=
  ∀ exchange instrument count, ⟨exchange, instrument, count⟩ ∈ lines ↔
    count ≠ 0 ∧ (s.rows (day, exchange, instrument)).length = count

/-- Every day that the run staged itself has a report that matches.  Nothing is said of a day of
which it only recovered segments that dead runs had left. -/
def Reported (run : RunId) : Prop :=
  ∀ day ∈ (s.proc run).stagedDays, ∃ report, s.reports.lookup day = some report ∧
    Matches s day report.instruments

/-! ## Invariant, rely, law -/

structure Inv (merging : Prop) (s : Depot) : Prop where
  /-- The numbers given out so far bound those of the segments. -/
  numbered : ∀ path ∈ s.spent, path.2 < (s.proc path.1).segmentSeq
  spent : ∀ path rows, s.staging.lookup path = some rows → path ∈ s.spent
  keyed : ∀ path rows, s.staging.lookup path = some rows → ∀ row ∈ rows, (finalKey row).isSome
  /-- A segment is staged or quarantined, not both. -/
  apart : ∀ path rows, s.bad.lookup path = some rows →
    path ∈ s.spent ∧ s.staging.lookup path = none
  kept : merging → ∀ row ∈ s.written, Kept s row
  /-- A day is finalized after the compaction thread has ended. -/
  finalizing : ∀ run, (s.proc run).finalizing.isSome → (s.proc run).compactThread.isAlive = false
  merges : merging → ∀ run, (s.proc run).config.mergeExisting = true

/-- What happens to a run's objects beside its collection thread: ticks arrive, the
compaction thread works and ends. -/
structure BesideMain (p p' : Proc) : Prop where
  config : p'.config = p.config
  segmentSeq : p'.segmentSeq = p.segmentSeq
  ticksOutsideSession : p'.ticksOutsideSession = p.ticksOutsideSession
  tradingDay : p'.tradingDay = p.tradingDay
  listening : p'.listening = p.listening
  closed : p'.closed = p.closed
  stagedDays : p'.stagedDays = p.stagedDays
  finalizing : p'.finalizing = p.finalizing
  returned : p'.returned = p.returned
  compactThread : p.compactThread.isAlive = false → p'.compactThread = p.compactThread
  ticks : ∃ extra, p'.accepted = p.accepted ++ extra ∧
    p'.buffer.ticks.Perm (p.buffer.ticks ++ extra)
  /-- Before the handler is set and after the subscriber is closed no tick arrives. -/
  silent : p.listening = false ∨ p.closed = true → .lateTick ∈ p'.faults ∨
    (p'.accepted = p.accepted ∧ p'.buffer = p.buffer ∧ p'.refused = p.refused)
  dropped : p'.buffer.dropped + p.refused = p.buffer.dropped + p'.refused
  faults : ∃ more, p'.faults = p.faults ++ more ∧ ∀ fault ∈ more, fault = .lateTick ∨ fault = .intruded

/-- What happens beside a run's compaction thread. -/
def BesideWorker (p p' : Proc) : Prop :=
  p.compactThread.isAlive = true → p'.compactThread.isAlive = true

def Beside : Role → Proc → Proc → Prop
  | .main => BesideMain
  | .worker => BesideWorker

/-- No file of the day that is being finalized was replaced, or it was noted. -/
def Undisturbed (run : RunId) (s s' : Depot) : Prop :=
  ∀ day, (s.proc run).finalizing = some day →
    .intruded ∈ (s'.proc run).faults ∨
      ((∀ key, key.1 = day → s'.finals.lookup key = s.finals.lookup key) ∧
        s'.reports.lookup day = s.reports.lookup day)

/-- What a thread may find changed by the others. -/
structure Rely (merging : Prop) (thread : ThreadId) (s s' : Depot) : Prop where
  spent : ∀ path ∈ s.spent, path ∈ s'.spent
  /-- Only its own collection thread writes segments of a run. -/
  fresh : thread.2 = .main → ∀ seq, (thread.1, seq) ∈ s'.spent → (thread.1, seq) ∈ s.spent
  staging : ∀ path ∈ s.spent,
    s'.staging.lookup path = s.staging.lookup path ∨ s'.staging.lookup path = none
  kept : merging → ∀ row, Kept s row → Kept s' row
  finals : merging → ∀ key row, Covers (s.rows key) row → Covers (s'.rows key) row
  locks : ∀ key, s.locks.lookup key = some thread →
    s'.locks.lookup key = some thread ∧ s'.finals.lookup key = s.finals.lookup key
  own : Beside thread.2 (s.proc thread.1) (s'.proc thread.1)
  undisturbed : thread.2 = .main → Undisturbed thread.1 s s'

/-- What holds of every transition. -/
structure Law (merging : Prop) (s s' : Depot) : Prop where
  /-- A segment goes when it is quarantined, or when its rows are all in final files. -/
  segments : merging → ∀ path rows, s.staging.lookup path = some rows →
    s'.staging.lookup path = some rows ∨ s'.bad.lookup path = some rows ∨
      ∀ row ∈ rows, Final s' row
  /-- No final file loses a key or goes back in receive time. -/
  finals : merging → ∀ key row, Covers (s.rows key) row → Covers (s'.rows key) row
  returned : ∀ run report, (s.proc run).returned = none →
    (s'.proc run).returned = some report →
      (merging → Counted (s'.proc run) → s'.bad = ∅ → Accounted s' run report) ∧
        (OneDay (s'.proc run) → Reported s' run)

/-- What a thread's step guarantees. -/
def Guarantee (merging : Prop) (thread : ThreadId) (s s' : Depot) : Prop :=
  (∀ other, other ≠ thread → Rely merging other s s') ∧ Law merging s s'

section Laws

variable {merging : Prop} {thread : ThreadId} {s s' : Depot}

theorem BesideMain.refl (p : Proc) : BesideMain p p where
  config := rfl
  segmentSeq := rfl
  ticksOutsideSession := rfl
  tradingDay := rfl
  listening := rfl
  closed := rfl
  stagedDays := rfl
  finalizing := rfl
  returned := rfl
  compactThread _ := rfl
  ticks := ⟨[], by simp, by simp⟩
  silent _ := .inr ⟨rfl, rfl, rfl⟩
  dropped := rfl
  faults := ⟨[], by simp, by simp⟩

theorem BesideMain.trans (ab : BesideMain a b) (bc : BesideMain b c) : BesideMain a c where
  config := bc.config.trans ab.config
  segmentSeq := bc.segmentSeq.trans ab.segmentSeq
  ticksOutsideSession := bc.ticksOutsideSession.trans ab.ticksOutsideSession
  tradingDay := bc.tradingDay.trans ab.tradingDay
  listening := bc.listening.trans ab.listening
  closed := bc.closed.trans ab.closed
  stagedDays := bc.stagedDays.trans ab.stagedDays
  finalizing := bc.finalizing.trans ab.finalizing
  returned := bc.returned.trans ab.returned
  compactThread ended := by
    have middle := ab.compactThread ended
    rw [← middle] at ended
    exact (bc.compactThread ended).trans middle
  ticks := by
    obtain ⟨first, acceptedFirst, bufferFirst⟩ := ab.ticks
    obtain ⟨second, acceptedSecond, bufferSecond⟩ := bc.ticks
    refine ⟨first ++ second, ?_, ?_⟩
    · rw [acceptedSecond, acceptedFirst, List.append_assoc]
    · rw [← List.append_assoc]
      exact bufferSecond.trans (bufferFirst.append_right second)
  silent off := by
    obtain ⟨more, grown, _⟩ := bc.faults
    rcases ab.silent off with late | ⟨accepted, buffer, refused⟩
    · exact .inl (grown ▸ List.mem_append_left more late)
    · rcases bc.silent (by rwa [ab.listening, ab.closed]) with late | ⟨accepted', buffer', refused'⟩
      · exact .inl late
      · exact .inr ⟨accepted'.trans accepted, buffer'.trans buffer, refused'.trans refused⟩
  dropped := by
    have first := ab.dropped
    have second := bc.dropped
    omega
  faults := by
    obtain ⟨first, grownFirst, mildFirst⟩ := ab.faults
    obtain ⟨second, grownSecond, mildSecond⟩ := bc.faults
    refine ⟨first ++ second, by rw [grownSecond, grownFirst, List.append_assoc], ?_⟩
    intro fault mem
    rcases List.mem_append.mp mem with old | new
    · exact mildFirst fault old
    · exact mildSecond fault new

theorem Beside.refl (role : Role) (p : Proc) : Beside role p p := by
  cases role with
  | main => exact BesideMain.refl p
  | worker => exact fun alive => alive

theorem Beside.trans {role : Role} (ab : Beside role a b) (bc : Beside role b c) :
    Beside role a c := by
  cases role with
  | main => exact BesideMain.trans ab bc
  | worker => exact fun alive => bc (ab alive)

theorem Rely.refl (thread : ThreadId) (s : Depot) : Rely merging thread s s where
  spent _ mem := mem
  fresh _ _ mem := mem
  staging _ _ := .inl rfl
  kept _ _ kept := kept
  finals _ _ _ held := held
  locks _ held := ⟨held, rfl⟩
  own := Beside.refl _ _
  undisturbed _ _ _ := .inr ⟨fun _ _ => rfl, rfl⟩

theorem Rely.trans {a b c : Depot} (ab : Rely merging thread a b) (bc : Rely merging thread b c) :
    Rely merging thread a c where
  spent path mem := bc.spent path (ab.spent path mem)
  fresh isMain seq mem := ab.fresh isMain seq (bc.fresh isMain seq mem)
  staging path mem := by
    rcases bc.staging path (ab.spent path mem) with same | gone
    · rw [same]
      exact ab.staging path mem
    · exact .inr gone
  kept on row kept := bc.kept on row (ab.kept on row kept)
  finals on key row held := bc.finals on key row (ab.finals on key row held)
  locks key held := by
    obtain ⟨still, same⟩ := ab.locks key held
    obtain ⟨after, sameAfter⟩ := bc.locks key still
    exact ⟨after, sameAfter.trans same⟩
  own := ab.own.trans bc.own
  undisturbed isMain := by
    intro day finalizing
    obtain ⟨run, role⟩ := thread
    obtain rfl : role = .main := isMain
    have own : BesideMain (a.proc run) (b.proc run) := ab.own
    have ownAfter : BesideMain (b.proc run) (c.proc run) := bc.own
    obtain ⟨more, grown, _⟩ := ownAfter.faults
    rcases ab.undisturbed rfl day finalizing with noted | ⟨sameFinals, sameReport⟩
    · exact .inl (grown ▸ List.mem_append_left more noted)
    · rcases bc.undisturbed rfl day (own.finalizing.trans finalizing) with
        noted | ⟨sameFinals', sameReport'⟩
      · exact .inl noted
      · exact .inr ⟨fun key inDay => (sameFinals' key inDay).trans (sameFinals key inDay),
          sameReport'.trans sameReport⟩

theorem Law.still (s : Depot) : Law merging s s where
  segments _ _ _ found := .inl found
  finals _ _ _ held := held
  returned _ _ none some := absurd (none.symm.trans some) nofun

end Laws
end BtApiCtp.Collector.Runtime
