/-
# Collector.Compaction -- compacting is safe beside everyone else

Whoever compacts -- the worker thread, or the collection thread when it closes or recovers
a dead run's staging -- changes only the queue and the counters of its own sink (`Tidy`),
replaces a final file only under its lock, and discards a segment only when each of its rows
is in a final file.  `Framed` is what a caller may carry across a compaction.
-/
import BtApiCtp.Collector.Books

namespace BtApiCtp.Collector.Runtime

open Theory

variable {run : RunId} {f : Proc → Proc} {key : FinalKey} {rows : List Row} {mergeExisting : Bool}
  {read : Option (List Row)}

/-- A program of a thread is safe from a state. -/
abbrev SafeAt (merging : Prop) (thread : ThreadId) {α : Type} (Q : α → Depot → Prop)
    (E : Failure → Depot → Prop) (p : Action α) (s : Depot) : Prop :=
  Prog.Safe (Inv merging) (Rely merging thread) (Guarantee merging thread) Q E p s

/-- A step that keeps the invariant and that the other threads put up with. -/
abbrev Good (merging : Prop) (thread : ThreadId) (s s' : Depot) : Prop :=
  Inv merging s' ∧ Guarantee merging thread s s'

/-- An assertion that the other threads leave standing. -/
def Stable (merging : Prop) (thread : ThreadId) (P : Depot → Prop) : Prop :=
  ∀ s s', Rely merging thread s s' → P s → P s'

/-! ## The shape of a step -/

section Steps

variable {merging : Prop} {thread : ThreadId} {s s' : Depot}

theorem Inv.update (inv : Inv merging s)
    (merges : merging → (f (s.proc run)).config.mergeExisting = true)
    (grows : (s.proc run).segmentSeq ≤ (f (s.proc run)).segmentSeq)
    (finalizing : (f (s.proc run)).finalizing.isSome →
      (f (s.proc run)).compactThread.isAlive = false) : Inv merging (s.update run f) := by
  refine ⟨?_, inv.spent, inv.keyed, inv.apart, inv.kept, ?_, ?_⟩
  · intro path mem
    have below := inv.numbered path mem
    rw [Depot.proc_update]
    split
    · rename_i same
      rw [same] at below
      omega
    · exact below
  · intro run'
    rw [Depot.proc_update]
    split
    · exact finalizing
    · exact inv.finalizing run'
  · intro on run'
    rw [Depot.proc_update]
    split
    · exact merges on
    · exact inv.merges on run'

theorem Rely.update {other : ThreadId}
    (beside : other.1 = run → Beside other.2 (s.proc run) (f (s.proc run))) :
    Rely merging other s (s.update run f) := by
  refine ⟨fun _ mem => mem, fun _ _ mem => mem, fun _ _ => .inl rfl, fun _ _ kept => kept,
    fun _ _ _ held => held, fun _ held => ⟨held, rfl⟩, ?_, fun _ _ _ => .inr ⟨fun _ _ => rfl, rfl⟩⟩
  rw [Depot.proc_update]
  split
  · rename_i same
    rw [same]
    exact beside same
  · exact Beside.refl _ _

theorem Law.update (returned : ∀ report, (s.proc run).returned = none →
      (f (s.proc run)).returned = some report →
        (merging → Counted (f (s.proc run)) → s.bad = ∅ → Accounted (s.update run f) run report) ∧
          (OneDay (f (s.proc run)) → Reported (s.update run f) run)) :
    Law merging s (s.update run f) := by
  refine ⟨fun _ _ _ found => .inl found, fun _ _ _ held => held, ?_⟩
  intro run' report
  rw [Depot.proc_update]
  split
  · rename_i same
    rw [same]
    exact returned report
  · exact fun none some => absurd (none.symm.trans some) nofun

variable (thread) (inv : Inv merging s)
include inv

/-- A step on the thread's own objects. -/
theorem good_update (config : (f (s.proc thread.1)).config = (s.proc thread.1).config)
    (grows : (s.proc thread.1).segmentSeq ≤ (f (s.proc thread.1)).segmentSeq)
    (beside : ∀ role, role ≠ thread.2 → Beside role (s.proc thread.1) (f (s.proc thread.1)))
    (returned : ∀ report, (s.proc thread.1).returned = none →
      (f (s.proc thread.1)).returned = some report →
        (merging → Counted (f (s.proc thread.1)) → s.bad = ∅ →
            Accounted (s.update thread.1 f) thread.1 report) ∧
          (OneDay (f (s.proc thread.1)) → Reported (s.update thread.1 f) thread.1))
    (finalizing : (f (s.proc thread.1)).finalizing.isSome →
      (f (s.proc thread.1)).compactThread.isAlive = false) :
    Good merging thread s (s.update thread.1 f) := by
  have merges : merging → (f (s.proc thread.1)).config.mergeExisting = true := by
    rw [config]
    exact fun on => inv.merges on thread.1
  refine ⟨inv.update merges grows finalizing, fun other ne => Rely.update fun same => ?_,
    Law.update returned⟩
  exact beside other.2 fun sameRole => ne (Prod.ext same sameRole)

/-- A step on the disk alone that touches no final file. -/
theorem good_disk (procs : s'.procs = s.procs) (finals : s'.finals = s.finals)
    (reports : s'.reports = s.reports) (spent : s'.spent = s.spent)
    (written : s'.written = s.written)
    (bad : ∀ path rows, s.bad.lookup path = some rows → s'.bad.lookup path = some rows)
    (badNew : ∀ path rows, s'.bad.lookup path = some rows → s.bad.lookup path = some rows ∨
      (path ∈ s.spent ∧ s'.staging.lookup path = none))
    (segments : ∀ path, s'.staging.lookup path = s.staging.lookup path ∨
      (s'.staging.lookup path = none ∧ ∀ rows, s.staging.lookup path = some rows →
        s'.bad.lookup path = some rows ∨ (merging → ∀ row ∈ rows, Final s row)))
    (locks : ∀ key holder, holder ≠ thread → s.locks.lookup key = some holder →
      s'.locks.lookup key = some holder) : Good merging thread s s' := by
  have proc : ∀ run, s'.proc run = s.proc run := fun run => by rw [Depot.proc, procs, Depot.proc]
  have rows : ∀ key, s'.rows key = s.rows key := fun key => by rw [Depot.rows, finals, Depot.rows]
  have final : ∀ row, Final s row → Final s' row := by
    rintro row ⟨key, isKey, held⟩
    exact ⟨key, isKey, by rwa [rows]⟩
  have before : ∀ path rows, s'.staging.lookup path = some rows →
      s.staging.lookup path = some rows := by
    intro path rows found
    rcases segments path with same | ⟨gone, _⟩
    · rwa [same] at found
    · rw [gone] at found
      cases found
  have law : merging → ∀ path rows, s.staging.lookup path = some rows →
      s'.staging.lookup path = some rows ∨ s'.bad.lookup path = some rows ∨
        ∀ row ∈ rows, Final s' row := by
    intro on path rows found
    rcases segments path with same | ⟨_, moved⟩
    · exact .inl (same.trans found)
    · rcases moved rows found with quarantined | covered
      · exact .inr (.inl quarantined)
      · exact .inr (.inr fun row mem => final row (covered on row mem))
  have kept : merging → ∀ row, Kept s row → Kept s' row := by
    rintro on row (⟨path, rows, found, mem⟩ | quarantined | held)
    · rcases law on path rows found with still | moved | covered
      · exact .inl ⟨path, rows, still, mem⟩
      · exact .inr (.inl ⟨path, rows, moved, mem⟩)
      · exact .inr (.inr (covered row mem))
    · obtain ⟨path, rows, inBad, mem⟩ := quarantined
      exact .inr (.inl ⟨path, rows, bad path rows inBad, mem⟩)
    · exact .inr (.inr (final row held))
  have covers : merging → ∀ key row, Covers (s.rows key) row → Covers (s'.rows key) row :=
    fun _ key row held => by rwa [rows]
  refine ⟨⟨?_, ?_, ?_, ?_, ?_, ?_, ?_⟩, fun other ne => ?_, law, covers, ?_⟩
  · intro path mem
    rw [spent] at mem
    rw [proc]
    exact inv.numbered path mem
  · intro path rows found
    rw [spent]
    exact inv.spent path rows (before path rows found)
  · exact fun path rows found => inv.keyed path rows (before path rows found)
  · intro path rows inBad
    rw [spent]
    rcases badNew path rows inBad with old | new
    · obtain ⟨isSpent, unstaged⟩ := inv.apart path rows old
      refine ⟨isSpent, ?_⟩
      rcases segments path with same | gone
      · exact same.trans unstaged
      · exact gone.1
    · exact new
  · intro on row mem
    rw [written] at mem
    exact kept on row (inv.kept on row mem)
  · intro run
    rw [proc]
    exact inv.finalizing run
  · intro on run
    rw [proc]
    exact inv.merges on run
  · refine ⟨fun _ mem => spent ▸ mem, fun _ _ mem => spent ▸ mem, ?_, kept, covers, ?_, ?_, ?_⟩
    · intro path _
      exact (segments path).imp_right And.left
    · intro key held
      exact ⟨locks key other ne held, by rw [finals]⟩
    · rw [proc]
      exact Beside.refl _ _
    · exact fun _ _ _ => .inr ⟨fun _ _ => by rw [finals], by rw [reports]⟩
  · intro run report none some
    rw [proc, none] at some
    cases some

/-- A step that changes nothing. -/
theorem good_still : Good merging thread s s :=
  ⟨inv, fun other _ => Rely.refl other s, Law.still s⟩

theorem good_quarantine (path : SegmentPath) : Good merging thread s (s.quarantine path) := by
  unfold Depot.quarantine
  cases found : s.staging.lookup path with
  | none => exact good_still thread inv
  | some rows =>
    refine good_disk thread inv rfl rfl rfl rfl rfl ?_ ?_ ?_ fun _ _ _ held => held
    · intro path' rows' inBad
      refine (AList.lookup_insert_ne fun same => ?_).trans inBad
      rw [same] at inBad
      exact absurd (inv.apart path rows' inBad).2 (by simp [found])
    · intro path' rows' inBad
      rw [Dict.lookup_insert_eq] at inBad
      split at inBad
      · rename_i same
        rw [same]
        exact .inr ⟨inv.spent path rows found, AList.lookup_erase _ _⟩
      · exact .inl inBad
    · intro path'
      dsimp only
      rw [Dict.lookup_erase_eq, Dict.lookup_insert_eq]
      split
      · rename_i same
        refine .inr ⟨rfl, fun rows' found' => .inl ?_⟩
        rw [same, found] at found'
        exact found'
      · exact .inl rfl

theorem good_discard (path : SegmentPath)
    (covered : merging → ∀ rows, s.staging.lookup path = some rows → ∀ row ∈ rows, Final s row) :
    Good merging thread s { s with staging := s.staging.erase path } := by
  refine good_disk thread inv rfl rfl rfl rfl rfl (fun _ _ found => found) (fun _ _ found => .inl found) ?_
    fun _ _ _ held => held
  intro path'
  dsimp only
  rw [Dict.lookup_erase_eq]
  split
  · rename_i same
    rw [same]
    exact .inr ⟨rfl, fun rows found => .inr fun on => covered on rows found⟩
  · exact .inl rfl

theorem good_lock (free : s.locks.lookup key = none) :
    Good merging thread s { s with locks := s.locks.insert key thread } := by
  refine good_disk thread inv rfl rfl rfl rfl rfl (fun _ _ found => found) (fun _ _ found => .inl found)
    (fun _ => .inl rfl) fun key' holder _ held => ?_
  refine (AList.lookup_insert_ne fun same => ?_).trans held
  rw [same, free] at held
  cases held

theorem good_unlock (mine : s.locks.lookup key = some thread) :
    Good merging thread s { s with locks := s.locks.erase key } := by
  refine good_disk thread inv rfl rfl rfl rfl rfl (fun _ _ found => found) (fun _ _ found => .inl found)
    (fun _ => .inl rfl) fun key' holder ne held => ?_
  refine (AList.lookup_erase_ne fun same => ?_).trans held
  rw [same, mine] at held
  exact ne (Option.some.inj held).symm

omit inv in
/-- Noting an intrusion adds to the faults and changes nothing else. -/
theorem disturb_cases (s : Depot) (run run' : RunId) (day : Day) :
    ∃ more, (s.disturb run day).proc run' =
        { s.proc run' with faults := (s.proc run').faults ++ more } ∧
      ∀ fault ∈ more, fault = .lateTick ∨ fault = .intruded := by
  rw [Depot.proc_disturb]
  split
  · exact ⟨[.intruded], rfl, by simp⟩
  · exact ⟨[], by simp, by simp⟩

omit inv in
theorem BesideMain.faulted {p : Proc} {more : List Fault}
    (mild : ∀ fault ∈ more, fault = .lateTick ∨ fault = .intruded) :
    BesideMain p { p with faults := p.faults ++ more } :=
  { BesideMain.refl p with
    ticks := ⟨[], by simp, by simp⟩
    silent := fun _ => .inr ⟨rfl, rfl, rfl⟩
    faults := ⟨more, rfl, mild⟩ }

/-- A step that replaces files of one day, and notes it in the runs that are finalizing it. -/
theorem good_publish (day : Day)
    {finals : Dict FinalKey (List Row)} {reports : Dict Day SinkReport}
    (otherFinals : ∀ key, key.1 ≠ day → finals.lookup key = s.finals.lookup key)
    (otherReports : ∀ day', day' ≠ day → reports.lookup day' = s.reports.lookup day')
    (locked : ∀ key holder, holder ≠ thread → s.locks.lookup key = some holder →
      finals.lookup key = s.finals.lookup key)
    (covers : merging → ∀ key row, Covers (s.rows key) row →
      Covers ({ s with finals }.rows key) row)
    (busy : thread.2 = .worker → (s.proc thread.1).compactThread.isAlive = true) :
    Good merging thread s ({ s with finals, reports }.disturb thread.1 day) := by
  have sameProc := fun run => disturb_cases { s with finals, reports } thread.1 run day
  have kept : merging → ∀ row, Kept s row →
      Kept ({ s with finals, reports }.disturb thread.1 day) row := by
    rintro on row (staged | quarantined | ⟨key, isKey, covered⟩)
    · exact .inl staged
    · exact .inr (.inl quarantined)
    · exact .inr (.inr ⟨key, isKey, covers on key row covered⟩)
  refine ⟨⟨?_, inv.spent, inv.keyed, inv.apart, ?_, ?_, ?_⟩, fun other ne => ⟨fun _ mem => mem,
    fun _ _ mem => mem, fun _ _ => .inl rfl, kept, covers,
    fun key theirs => ⟨theirs, locked key other ne theirs⟩, ?_, ?_⟩,
    fun _ _ _ found => .inl found, covers, ?_⟩
  · intro path mem
    obtain ⟨more, proc, _⟩ := sameProc path.1
    rw [proc]
    exact inv.numbered path mem
  · exact fun on row mem => kept on row (inv.kept on row mem)
  · intro run
    obtain ⟨more, proc, _⟩ := sameProc run
    rw [proc]
    exact inv.finalizing run
  · intro on run
    obtain ⟨more, proc, _⟩ := sameProc run
    rw [proc]
    exact inv.merges on run
  · obtain ⟨more, proc, mild⟩ := sameProc other.1
    rw [proc]
    cases role : other.2 with
    | main => exact BesideMain.faulted mild
    | worker => exact fun alive => alive
  · intro isMain day' finalizing
    by_cases same : day' = day
    · by_cases sameRun : other.1 = thread.1
      · -- the thread beside the finalizing one would be its own worker, which has ended
        have isWorker : thread.2 = .worker := by
          cases role : thread.2 with
          | worker => rfl
          | main => exact absurd (Prod.ext sameRun (isMain.trans role.symm)) ne
        have ended := inv.finalizing thread.1 (by rw [← sameRun, finalizing]; rfl)
        rw [busy isWorker] at ended
        cases ended
      · left
        rw [Depot.proc_disturb, if_pos ⟨sameRun, by rw [← same]; exact finalizing⟩]
        simp
    · exact .inr ⟨fun key inDay => otherFinals key (by rwa [inDay]), otherReports day' same⟩
  · intro run report none some
    obtain ⟨more, proc, _⟩ := sameProc run
    rw [proc] at some
    exact absurd (none.symm.trans some) nofun

/-- Replacing a final file whose lock is held, by one that has all of its keys. -/
theorem good_replaceFinal (mine : s.locks.lookup key = some thread)
    (grows : merging → ∀ row, Covers (s.rows key) row → Covers rows row)
    (busy : thread.2 = .worker → (s.proc thread.1).compactThread.isAlive = true) :
    Good merging thread s (s.replaceFinal thread.1 key rows) := by
  refine good_publish thread inv key.1 (fun key' other => ?_) (fun _ _ => rfl)
    (fun key' holder ne theirs => ?_) (fun on key' row covered => ?_) busy
  · exact AList.lookup_insert_ne fun same => other (by rw [same])
  · refine AList.lookup_insert_ne fun same => ?_
    rw [same, mine] at theirs
    exact ne (Option.some.inj theirs).symm
  · change Covers (((s.finals.insert key rows).lookup key').getD []) row
    rw [Dict.lookup_insert_eq]
    split
    · rename_i same
      rw [same] at covered
      exact grows on row covered
    · exact covered

/-- Writing the report of a day. -/
theorem good_report (run : RunId) (day : Day) (report : SinkReport) :
    Good merging (run, .main) s
      ({ s with reports := s.reports.insert day report }.disturb run day) :=
  good_publish (run, .main) inv day (fun _ _ => rfl)
    (fun _ other => AList.lookup_insert_ne other) (fun _ _ _ _ => rfl) (fun _ _ _ held => held)
    nofun

end Steps

/-! ## What a caller carries across a compaction -/

/-- What the steps of a compaction do, seen by the thread that takes them. -/
structure Tidy (merging : Prop) (run : RunId) (s s' : Depot) : Prop where
  spent : ∀ path ∈ s.spent, path ∈ s'.spent
  staging : ∀ path ∈ s.spent,
    s'.staging.lookup path = s.staging.lookup path ∨ s'.staging.lookup path = none
  kept : merging → ∀ row, Kept s row → Kept s' row
  finals : merging → ∀ key row, Covers (s.rows key) row → Covers (s'.rows key) row
  proc : ∃ segments compactions compactionFailures lastCompactionError,
    s'.proc run = { s.proc run with
      segments, compactions, compactionFailures, lastCompactionError }

structure Framed (merging : Prop) (thread : ThreadId) (F : Depot → Prop) : Prop where
  stable : Stable merging thread F
  tidy : ∀ s s', Tidy merging thread.1 s s' → F s → F s'
  busy : thread.2 = .worker → ∀ s, F s → (s.proc thread.1).compactThread.isAlive = true

section Frames

variable {merging : Prop} {thread : ThreadId} {F : Depot → Prop} {s s' : Depot}

/-- The tables a compaction has read: their segments are as they were read, or gone. -/
def Tables (tables : List (SegmentPath × List Row)) (s : Depot) : Prop :=
  ∀ entry ∈ tables, entry.1 ∈ s.spent ∧
    (s.staging.lookup entry.1 = some entry.2 ∨ s.staging.lookup entry.1 = none) ∧
      ∀ row ∈ entry.2, (finalKey row).isSome

theorem Tables.moved {tables : List (SegmentPath × List Row)} (here : Tables tables s)
    (spent : ∀ path ∈ s.spent, path ∈ s'.spent)
    (staging : ∀ path ∈ s.spent,
      s'.staging.lookup path = s.staging.lookup path ∨ s'.staging.lookup path = none) :
    Tables tables s' := by
  intro entry mem
  obtain ⟨isSpent, content, keyed⟩ := here entry mem
  refine ⟨spent _ isSpent, ?_, keyed⟩
  rcases staging _ isSpent with same | gone
  · rwa [same]
  · exact .inr gone

/-- Rows that are in final files stay there. -/
def AllFinal (merging : Prop) (rows : List Row) (s : Depot) : Prop :=
  merging → ∀ row ∈ rows, Final s row

theorem AllFinal.moved (here : AllFinal merging rows s)
    (finals : merging → ∀ key row, Covers (s.rows key) row → Covers (s'.rows key) row) :
    AllFinal merging rows s' := by
  intro on row mem
  obtain ⟨key, isKey, held⟩ := here on row mem
  exact ⟨key, isKey, finals on key row held⟩

theorem Framed.tables (framed : Framed merging thread F) (tables : List (SegmentPath × List Row)) :
    Framed merging thread fun s => F s ∧ Tables tables s where
  stable s s' rely here :=
    ⟨framed.stable s s' rely here.1, here.2.moved rely.spent rely.staging⟩
  tidy s s' tidy here := ⟨framed.tidy s s' tidy here.1, here.2.moved tidy.spent tidy.staging⟩
  busy isWorker s here := framed.busy isWorker s here.1

/-- There is someone else to see a step. -/
theorem exists_other (thread : ThreadId) : ∃ other : ThreadId, other ≠ thread := by
  obtain ⟨run, role⟩ := thread
  cases role with
  | main => exact ⟨(run, .worker), by simp⟩
  | worker => exact ⟨(run, .main), by simp⟩

/-- A step within the guarantee is tidy if it left the thread's own objects in order. -/
theorem Tidy.of_guarantee (within : Guarantee merging thread s s')
    (proc : ∃ segments compactions compactionFailures lastCompactionError,
      s'.proc thread.1 = { s.proc thread.1 with
        segments, compactions, compactionFailures, lastCompactionError }) :
    Tidy merging thread.1 s s' := by
  obtain ⟨other, ne⟩ := exists_other thread
  have rely := within.1 other ne
  exact ⟨rely.spent, rely.staging, rely.kept, rely.finals, proc⟩

/-- A change of the queue and the counters of a sink. -/
def Internal (f : Proc → Proc) : Prop :=
  ∀ p, ∃ segments compactions compactionFailures lastCompactionError,
    f p = { p with segments, compactions, compactionFailures, lastCompactionError }

/-- What a thread carries is still there after a step that leaves its objects alone. -/
theorem Framed.after (framed : Framed merging thread F) (within : Guarantee merging thread s s')
    (proc : s'.proc thread.1 = s.proc thread.1) (here : F s) : F s' :=
  framed.tidy s s' (.of_guarantee within ⟨_, _, _, _, proc⟩) here

theorem good_internal (thread : ThreadId) (inv : Inv merging s) (internal : Internal f) :
    Good merging thread s (s.update thread.1 f) ∧
      Tidy merging thread.1 s (s.update thread.1 f) := by
  obtain ⟨segments, compactions, failures, error, change⟩ := internal (s.proc thread.1)
  have good : Good merging thread s (s.update thread.1 f) := by
    refine good_update thread inv ?_ ?_ (fun role _ => ?_) ?_ ?_
    · rw [change]
    · rw [change]
    · rw [change]
      cases role with
      | main =>
        exact { BesideMain.refl (s.proc thread.1) with
          compactThread := fun _ => rfl
          ticks := ⟨[], by simp, by simp⟩
          silent := fun _ => .inr ⟨rfl, rfl, rfl⟩
          faults := ⟨[], by simp, by simp⟩ }
      | worker => exact fun alive => alive
    · rw [change]
      exact fun report none some => absurd (none.symm.trans some) nofun
    · rw [change]
      exact inv.finalizing thread.1
  refine ⟨good, Tidy.of_guarantee good.2 ⟨segments, compactions, failures, error, ?_⟩⟩
  rw [Depot.proc_update_self]
  exact change

end Frames
/-! ## The steps as programs -/

section Programs

variable {merging : Prop} {thread : ThreadId} {F P : Depot → Prop} {s : Depot} {α : Type}
  {tables : List (SegmentPath × List Row)}
  {Q : α → Depot → Prop} {E : Failure → Depot → Prop}

theorem safe_atomic {f : Chance → Depot → Except Failure α × Depot}
    (stable : Stable merging thread P) (pre : P s)
    (step : ∀ c s, P s → Inv merging s → Good merging thread s (f c s).2 ∧
      (∀ a, (f c s).1 = .ok a → Q a (f c s).2) ∧ ∀ e, (f c s).1 = .error e → E e (f c s).2) :
    SafeAt merging thread Q E (Prog.atomic f) s :=
  .atomic P pre (fun s' rely => stable s s' rely) fun c s' here inv =>
    let ⟨good, posts⟩ := step c s' here inv
    ⟨good.1, good.2, posts⟩

theorem safe_modify {Q : Unit → Depot → Prop} {f : Depot → Depot} (stable : Stable merging thread P)
    (pre : P s) (step : ∀ s, P s → Inv merging s → Good merging thread s (f s) ∧ Q () (f s)) :
    SafeAt merging thread Q E (Prog.modify f) s :=
  safe_atomic stable pre fun _ s' here inv =>
    let ⟨good, post⟩ := step s' here inv
    ⟨good, fun _ _ => post, nofun⟩

theorem safe_fallible {f : Depot → Except Failure α × Depot} (stable : Stable merging thread P)
    (pre : P s) (raises : ∀ e s, P s → E e s)
    (step : ∀ s, P s → Inv merging s → Good merging thread s (f s).2 ∧
      (∀ a, (f s).1 = .ok a → Q a (f s).2) ∧ ∀ e, (f s).1 = .error e → E e (f s).2) :
    SafeAt merging thread Q E (fallible f) s := by
  refine safe_atomic stable pre fun c s' here inv => ?_
  split
  · exact ⟨good_still thread inv, nofun, fun e _ => raises e s' here⟩
  · exact step s' here inv

/-- Reading changes nothing. -/
theorem safe_read {f : Depot → α} (stable : Stable merging thread P) (pre : P s)
    (raises : ∀ e s, P s → E e s) :
    SafeAt merging thread (fun a s => P s ∧ a = f s) E (fallible fun s => (.ok (f s), s)) s :=
  safe_fallible stable pre raises fun _ here inv =>
    ⟨good_still thread inv, fun _ result => ⟨here, (Except.ok.inj result).symm⟩, nofun⟩

theorem safe_observe {f : Depot → α} (stable : Stable merging thread P) (pre : P s) :
    SafeAt merging thread (fun a s => P s ∧ a = f s) E (Prog.observe f) s :=
  safe_atomic stable pre fun _ _ here inv =>
    ⟨good_still thread inv, fun _ result => ⟨here, (Except.ok.inj result).symm⟩, nofun⟩

variable (framed : Framed merging thread F)
include framed

/-- A step on the queue and the counters. -/
theorem safe_internal {f : Depot → Proc → Proc} (internal : ∀ s, Internal (f s)) (pre : F s) :
    SafeAt merging thread (fun _ => F) E (Prog.modify fun s => s.update thread.1 (f s)) s :=
  safe_modify framed.stable pre fun s' here inv =>
    let ⟨good, tidy⟩ := good_internal thread inv (internal s')
    ⟨good, framed.tidy s' _ tidy here⟩

theorem safe_readSegment (path : SegmentPath) (pre : F s ∧ Tables tables s) :
    SafeAt merging thread (fun tables s => F s ∧ Tables tables s) E
      (readSegment thread.1 tables path) s := by
  have both := framed.tables tables
  refine .bind (Q := fun table s => (F s ∧ Tables tables s) ∧
    ∀ rows, table = some rows → Tables [(path, rows)] s) (fun table s₁ read => ?_) ?_
  · cases table with
    | some rows =>
      refine ⟨read.1.1, fun entry mem => ?_⟩
      rcases List.mem_append.mp mem with old | new
      · exact read.1.2 entry old
      · exact read.2 rows rfl entry new
    | none =>
      refine .bind (fun _ s₂ here => ?_) (safe_internal both
        (fun _ p => ⟨p.segments, p.compactions, _, _, rfl⟩) read.1)
      refine .bind (Q := fun _ s => F s ∧ Tables tables s) (fun _ s₃ here => ?_) ?_
      · exact here
      refine safe_atomic both.stable here fun c s' here inv => ?_
      dsimp only
      split
      · exact ⟨good_still thread inv, fun _ _ => here, nofun⟩
      · have good := good_quarantine thread inv path
        refine ⟨good, fun _ _ => both.after good.2 ?_ here, nofun⟩
        unfold Depot.quarantine
        split <;> rfl
  · refine safe_atomic both.stable pre fun c s' here inv => ?_
    refine ⟨good_still thread inv, fun table result => ⟨here, fun rows isSome => ?_⟩, nofun⟩
    cases result
    split at isSome
    · cases isSome
    · intro entry mem
      rw [List.mem_singleton.mp mem]
      exact ⟨inv.spent path rows isSome, .inl isSome, inv.keyed path rows isSome⟩

/-! ### One final file -/

theorem Framed.allFinal (rows : List Row) :
    Framed merging thread fun s => F s ∧ AllFinal merging rows s where
  stable s s' rely here := ⟨framed.stable s s' rely here.1, here.2.moved rely.finals⟩
  tidy s s' tidy here := ⟨framed.tidy s s' tidy here.1, here.2.moved tidy.finals⟩
  busy isWorker s here := framed.busy isWorker s here.1

/-- The thread holds the instrument's lock, and read the file since (`none`: it did not). -/
def Locked (thread : ThreadId) (key : FinalKey) (read : Option (List Row)) (s : Depot) : Prop :=
  s.locks.lookup key = some thread ∧ ∀ rows, read = some rows → rows = s.rows key

omit framed in
theorem Locked.stable (stable : Stable merging thread F) :
    Stable merging thread fun s => F s ∧ Locked thread key read s := by
  intro s s' rely here
  obtain ⟨mine, same⟩ := rely.locks key here.2.1
  refine ⟨stable s s' rely here.1, mine, fun rows isRead => ?_⟩
  rw [Depot.rows, same]
  exact here.2.2 rows isRead

theorem safe_lock (key : FinalKey) (pre : F s) :
    SafeAt merging thread (fun _ s => F s ∧ Locked thread key none s) (fun _ => F)
      (lockInstrument thread key) s := by
  refine .await F pre (fun s' rely => framed.stable s s' rely) fun c s' here inv free => ?_
  have isFree : s'.locks.lookup key = none := Option.isNone_iff_eq_none.mp free
  split
  · obtain ⟨kept, within⟩ := good_still thread inv
    exact ⟨kept, within, nofun, fun _ _ => here⟩
  · obtain ⟨kept, within⟩ := good_lock thread inv isFree
    refine ⟨kept, within, fun _ _ => ⟨?_, AList.lookup_insert _, nofun⟩, nofun⟩
    exact framed.after within rfl here

theorem safe_unlock (pre : F s ∧ Locked thread key read s) :
    SafeAt merging thread (fun _ => F) E (unlockInstrument key) s := by
  refine safe_modify (Locked.stable framed.stable) pre fun s' here inv => ?_
  have good := good_unlock thread inv here.2.1
  exact ⟨good, framed.after good.2 rfl here.1⟩

variable (merges : merging → mergeExisting = true)
include merges

theorem safe_replaceFinal {existing : List Row} (keys : ∀ row ∈ rows, finalKey row = some key)
    (pre : F s ∧ Locked thread key (if mergeExisting then some existing else none) s) :
    SafeAt merging thread (fun _ s => (F s ∧ AllFinal merging rows s) ∧ Locked thread key none s)
      (fun _ s => F s ∧ Locked thread key none s)
      (fallible fun s => (.ok (), s.replaceFinal thread.1 key (mergeRows existing rows))) s := by
  refine safe_fallible (Locked.stable framed.stable) pre
    (fun _ _ here => ⟨here.1, here.2.1, nofun⟩) fun s' here inv => ?_
  have good : Good merging thread s' (s'.replaceFinal thread.1 key (mergeRows existing rows)) := by
    refine good_replaceFinal thread inv here.2.1 (fun on row held => ?_)
      fun isWorker => framed.busy isWorker s' here.1
    have isRead : existing = s'.rows key := here.2.2 existing (by rw [merges on, if_pos rfl])
    rw [← isRead] at held
    exact covers_mergeRows_left held
  have proc : (s'.replaceFinal thread.1 key (mergeRows existing rows)).proc thread.1 =
      s'.proc thread.1 := by
    rw [Depot.replaceFinal, Depot.proc_disturb, if_neg fun both => both.1 rfl]
    rfl
  refine ⟨good, fun _ _ => ⟨⟨?_, fun _ row mem => ⟨key, keys row mem, ?_⟩⟩, here.2.1, nofun⟩, nofun⟩
  · exact framed.after good.2 proc here.1
  · have held : (s'.replaceFinal thread.1 key (mergeRows existing rows)).rows key =
        mergeRows existing rows := by
      change ((s'.finals.insert key (mergeRows existing rows)).lookup key).getD [] = _
      rw [AList.lookup_insert, Option.getD_some]
    rw [held]
    exact covers_mergeRows_right (LatestWins.covers_of_mem mem)

/-- Afterwards the rows are in their final file. -/
theorem safe_compactFinal (keys : ∀ row ∈ rows, finalKey row = some key) (pre : F s) :
    SafeAt merging thread (fun _ s => F s ∧ AllFinal merging rows s) (fun _ => F)
      (compactFinal mergeExisting thread key rows) s := by
  refine .bind (fun _ s₁ locked => ?_) (safe_lock framed key pre)
  refine .bind (Q := fun _ s =>
    (F s ∧ AllFinal merging rows s) ∧ Locked thread key none s) (fun _ s₂ replaced => ?_) ?_
  · exact safe_unlock (framed.allFinal rows) replaced
  refine .tryCatch (E := fun _ s => F s ∧ Locked thread key none s) (fun failure s₂ raised => ?_) ?_
  · refine .bind (fun _ s₃ here => ?_) (safe_unlock framed raised)
    exact here
  · refine .bind (Q := fun existing s =>
      F s ∧ Locked thread key (if mergeExisting then some existing else none) s)
      (fun existing s₂ read => safe_replaceFinal framed merges keys read) ?_
    cases mergeExisting with
    | false => exact locked
    | true =>
      unfold readExisting
      refine (safe_read (Locked.stable framed.stable) locked fun _ _ here => here).mono
        (fun existing s' read => ⟨read.1.1, read.1.2.1, fun rows isRead => ?_⟩) fun _ _ here => here
      cases isRead
      exact read.2

/-! ### A whole batch -/

omit framed merges in
theorem groupKey_of_finalKey {row : Row} (keyed : (finalKey row).isSome) :
    ∃ day exchange instrument, groupKey row = (some day, some exchange, some instrument) := by
  unfold finalKey at keyed
  split at keyed
  · rename_i day exchange instrument isKey
    exact ⟨day, exchange, instrument, isKey⟩
  · cases keyed

theorem safe_compactGroup {group : GroupKey × List Row}
    (nonempty : group.2 ≠ []) (keys : ∀ row ∈ group.2, groupKey row = group.1)
    (keyed : ∀ row ∈ group.2, (finalKey row).isSome) (pre : F s) :
    SafeAt merging thread (fun _ s => F s ∧ AllFinal merging group.2 s) (fun _ => F)
      (compactGroup mergeExisting thread group) s := by
  obtain ⟨key, rows⟩ := group
  obtain ⟨first, mem⟩ := List.exists_mem_of_ne_nil rows nonempty
  obtain ⟨day, exchange, instrument, isGroup⟩ := groupKey_of_finalKey (keyed first mem)
  obtain rfl : (some day, some exchange, some instrument) = key := isGroup.symm.trans (keys first mem)
  refine safe_compactFinal framed merges (fun row inRows => ?_) pre
  unfold finalKey
  rw [keys row inRows]

theorem safe_compactGroups (pre : F s ∧ Tables tables s) :
    SafeAt merging thread
      (fun _ s => (F s ∧ Tables tables s) ∧ AllFinal merging (tables.flatMap Prod.snd) s)
      (fun _ => F)
      (Prog.forEach (Groups.groupBy groupKey (tables.flatMap Prod.snd))
        (compactGroup mergeExisting thread)) s := by
  have isKeyed : ∀ row ∈ tables.flatMap Prod.snd, (finalKey row).isSome := by
    intro row mem
    obtain ⟨entry, inTables, inEntry⟩ := List.mem_flatMap.mp mem
    exact (pre.2 entry inTables).2.2 row inEntry
  -- what is left to do, and the rows that are done
  refine .forEach_mem (fun rest s => ∃ done, ((F s ∧ Tables tables s) ∧ AllFinal merging done s) ∧
    ∀ row ∈ tables.flatMap Prod.snd, row ∈ done ∨ row ∈ Groups.members rest) ?_ ?_ ?_
  · rintro group inGroups rest s₁ ⟨done, here, covered⟩
    obtain ⟨nonempty, keys⟩ := Groups.keyed_groupBy groupKey (tables.flatMap Prod.snd) group inGroups
    have keyed : ∀ row ∈ group.2, (finalKey row).isSome := fun row mem =>
      isKeyed row ((Groups.members_groupBy groupKey _).mem_iff.mp
        (List.mem_flatMap.mpr ⟨group, inGroups, mem⟩))
    refine (safe_compactGroup ((framed.tables tables).allFinal done) merges nonempty keys keyed
      here).mono ?_ fun _ _ raised => raised.1.1
    rintro _ s₂ ⟨⟨held, final⟩, groupFinal⟩
    refine ⟨done ++ group.2, ⟨held, fun on row mem => ?_⟩, fun row mem => ?_⟩
    · rcases List.mem_append.mp mem with old | new
      · exact final on row old
      · exact groupFinal on row new
    · rcases covered row mem with old | rest
      · exact .inl (List.mem_append_left _ old)
      · rw [Groups.members_cons, List.mem_append] at rest
        exact rest.imp_left (List.mem_append_right done)
  · rintro s₁ ⟨done, ⟨held, final⟩, covered⟩
    refine ⟨held, fun on row mem => final on row ?_⟩
    exact (covered row mem).resolve_right List.not_mem_nil
  · refine ⟨[], ⟨pre, fun _ row mem => absurd mem List.not_mem_nil⟩, fun row mem => .inr ?_⟩
    exact (Groups.members_groupBy groupKey _).mem_iff.mpr mem

omit merges in
/-- Segments are discarded when all of the batch is in final files. -/
theorem safe_discard (pre : (F s ∧ Tables tables s) ∧
      AllFinal merging (tables.flatMap Prod.snd) s) :
    SafeAt merging thread (fun _ => F) (fun _ => F) (discard (tables.map Prod.fst)) s := by
  have all := (framed.tables tables).allFinal (tables.flatMap Prod.snd)
  refine .forEach_mem (fun _ s => (F s ∧ Tables tables s) ∧
    AllFinal merging (tables.flatMap Prod.snd) s) (fun path among _ s₁ here => ?_)
    (fun s here => here.1.1) pre
  refine safe_fallible all.stable here (fun _ _ raised => raised.1.1) fun s' here inv => ?_
  have good := good_discard thread inv path fun on rows found row mem => by
    obtain ⟨entry, inTables, rfl⟩ := List.mem_map.mp among
    rcases (here.1.2 entry inTables).2.1 with same | gone
    · cases (same.symm.trans found)
      exact here.2 on row (List.mem_flatMap.mpr ⟨entry, inTables, mem⟩)
    · rw [gone] at found
      cases found
  exact ⟨good, fun _ _ => all.after good.2 rfl here, nofun⟩

theorem safe_compact (batch : List SegmentPath) (pre : F s) :
    SafeAt merging thread (fun _ => F) (fun _ => F) (compact mergeExisting thread batch) s := by
  refine .bind (Q := fun tables s => F s ∧ Tables tables s) (fun tables s₁ read => ?_) ?_
  · by_cases empty : tables = []
    · rw [if_pos empty]
      exact read.1
    · rw [if_neg empty]
      refine .bind (fun groups s₂ here => ?_)
        (safe_read (framed.tables tables).stable read fun _ _ raised => raised.1)
      obtain ⟨here, rfl⟩ := here
      refine .bind (fun _ s₃ done => ?_) (safe_compactGroups framed merges here)
      refine .bind (fun _ s₄ discarded => ?_) (safe_discard framed done)
      exact discarded
  · exact .loop (fun _ tables s => F s ∧ Tables tables s)
      (fun path _ tables s here => safe_readSegment framed path here) (fun _ _ here => here)
      ⟨pre, fun entry mem => absurd mem List.not_mem_nil⟩

/-- A compaction, whether it succeeds or fails, keeps what its caller carries. -/
theorem safe_compactBatch (batch : List SegmentPath) (pre : F s) :
    SafeAt merging thread (fun _ => F) E (compactBatch mergeExisting thread batch) s := by
  unfold compactBatch
  by_cases empty : batch = []
  · rw [if_pos empty]
    exact pre
  · rw [if_neg empty]
    refine .bind (fun outcome s₁ attempted => ?_)
      (Prog.Safe.attempt (safe_compact framed merges batch pre))
    cases outcome with
    | error failure =>
      have raised : F s₁ := attempted.2 failure rfl
      refine .bind (fun _ s₂ counted => ?_) (safe_internal framed
        (fun _ p => ⟨p.segments, p.compactions, _, _, rfl⟩) raised)
      refine .bind (fun _ s₃ queued => ?_) (safe_internal framed
        (fun _ p => ⟨_, p.compactions, p.compactionFailures, p.lastCompactionError, rfl⟩) counted)
      exact queued
    | ok files =>
      have written : F s₁ := attempted.1 files rfl
      refine .bind (fun _ s₂ counted => ?_) (safe_internal framed
        (fun _ p => ⟨p.segments, _, p.compactionFailures, p.lastCompactionError, rfl⟩) written)
      exact counted

end Programs
end BtApiCtp.Collector.Runtime
