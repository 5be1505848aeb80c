/-
# Collector.Outcome -- what holds over every run of collector processes

Any number of collectors on one data root: ticks at any moment, writes and compactions that
fail anywhere, processes that are killed anywhere, dead runs whose staging is recovered.

`written_rows_kept`: as long as every sink merges into existing final files, a row that was
written to a segment stays staged or quarantined, or is represented in its final file.
`returned_report_accounts`: a run that returns a report has accounted for every tick, unless
one of its faults broke the count.  `returned_run_reported`: the days a run staged have a
matching `report.json`, if it staged only one.  Each condition is needed; the runs that show
it are next to the theorems.
-/
import BtApiCtp.Collector.Runs

namespace BtApiCtp.Collector.Runtime

open Theory

variable {merging : Prop}

/-- A data root before the first collector: any final files and reports. -/
structure Initial (s : Depot) : Prop where
  staging : s.staging = ∅
  bad : s.bad = ∅
  procs : s.procs = ∅
  spent : s.spent = []
  written : s.written = []

abbrev idle (s : Depot) : Pool Depot Chance Failure ThreadId := ⟨s, ∅⟩

theorem Initial.inv {s : Depot} (initial : Initial s) (merging : Prop) : Inv merging s := by
  have proc : ∀ run, s.proc run = {} := by
    intro run
    rw [Depot.proc, initial.procs]
    rfl
  refine ⟨?_, ?_, ?_, ?_, ?_, ?_, ?_⟩
  · rw [initial.spent]
    intro path spent
    cases spent
  iterate 2
    · rw [initial.staging]
      intro path rows found
      cases found
  · rw [initial.bad]
    intro path rows found
    cases found
  · rw [initial.written]
    intro _ row written
    cases written
  · intro run
    rw [proc]
    intro returned
    cases returned
  · intro _ run
    rw [proc]

section Traces

variable {s : Depot} {events : List Happening}

theorem trace_law (initial : Initial s)
    (merges : collectors.Admitted (MergingStarts merging) (idle s) events) :
    (collectors.trace (idle s) events).IsChain (Law merging) :=
  (collectors_sound merging).trace_isChain events (m := idle s) (initial.inv merging)
    System.guarded_nil merges

theorem admitted_unmerging : collectors.Admitted (MergingStarts False) (idle s) events := by
  refine System.admitted_of_forall collectors fun m event _ => ?_
  cases event with
  | start command =>
    cases command with
    | collector => exact False.elim
    | compaction => trivial
  | step | kill | env => trivial

end Traces

/-! ## Runs to look at -/

def snapshot (day : Day) (time : String) (received : Int) : TickRecord where
  exchangeId := "SHFE"
  instrumentId := "rb2610"
  tradingDay := day
  actionDay := "20260928"
  updateTime := time
  updateMillisec := 0
  localReceiveTime := received

def steps (run : RunId) (count : Nat) : List Happening :=
  List.replicate count (.step (run, .main) {})

/-- A window in which these ticks arrive before it is stopped and closed. -/
def window (run : RunId) (mergeExisting : Bool) (ticks : List TickRecord) (count : Nat) :
    List Happening :=
  .start (.collector run { mergeExisting } true 1 2) :: steps run 5 ++
    ticks.map (fun tick => .env ⟨run, tick⟩) ++ .step (run, .main) { stop := true } :: steps run count

theorem admitted_window {run : RunId} {ticks : List TickRecord} {count : Nat}
    {m : Pool Depot Chance Failure ThreadId} :
    collectors.Admitted (MergingStarts True) m (window run true ticks count) := by
  refine System.admitted_of_forall collectors fun _ event mem => ?_
  rcases List.mem_append.mp mem with before | after
  · rcases List.mem_append.mp before with opening | arriving
    · rcases List.mem_cons.mp opening with rfl | stepping
      · exact fun _ => rfl
      · rw [List.eq_of_mem_replicate stepping]
        trivial
    · obtain ⟨tick, _, rfl⟩ := List.mem_map.mp arriving
      trivial
  · rcases List.mem_cons.mp after with rfl | stepping
    · trivial
    · rw [List.eq_of_mem_replicate stepping]
      trivial

theorem initial_empty : Initial {} := ⟨rfl, rfl, rfl, rfl, rfl⟩

/-! ## Written rows -/

/-- **No written row is lost.**  In every run whose sinks merge, every row that was ever
written to a segment is kept; a segment goes only when it is quarantined or when all of its
rows are in final files; no final file loses a key or goes back in receive time. -/
theorem written_rows_kept {s : Depot} (initial : Initial s) {events : List Happening}
    (merges : collectors.Admitted (MergingStarts True) (idle s) events) :
    (∀ s' ∈ collectors.trace (idle s) events, ∀ row ∈ s'.written, Kept s' row) ∧
      (collectors.trace (idle s) events).IsChain fun s s' =>
        (∀ path rows, s.staging.lookup path = some rows →
          s'.staging.lookup path = some rows ∨ s'.bad.lookup path = some rows ∨
            ∀ row ∈ rows, Final s' row) ∧
        ∀ key row, Covers (s.rows key) row → Covers (s'.rows key) row := by
  have inv := (collectors_sound True).trace_invariant events (m := idle s) (initial.inv True)
    System.guarded_nil merges
  refine ⟨fun s' mem row written => (inv s' mem).kept trivial row written, ?_⟩
  exact (trace_law initial merges).imp fun _ _ law => ⟨law.segments trivial, law.finals trivial⟩

/-- Two windows of one day, the second with a row of its own. -/
def twoWindows (mergeExisting : Bool) : List Happening :=
  window "7-a" mergeExisting [snapshot "20260928" "09:30:00" 1] 29 ++
    window "7-b" mergeExisting [snapshot "20260928" "09:30:01" 2] 29

theorem written_rows_kept_twoWindows :
    (collectors.run (idle {}) (twoWindows true)).shared.written.length = 2 ∧
      ∀ row ∈ (collectors.run (idle {}) (twoWindows true)).shared.written,
        Kept (collectors.run (idle {}) (twoWindows true)).shared row := by
  refine ⟨by decide +kernel, ?_⟩
  refine (written_rows_kept initial_empty ?_).1 _ (System.run_mem_trace collectors _ _)
  exact System.admitted_append collectors admitted_window admitted_window

/-- Without merging, the second compaction replaces what the first one wrote. -/
theorem unmerged_window_lost :
    ∃ row ∈ (collectors.run (idle {}) (twoWindows false)).shared.written,
      ¬ Kept (collectors.run (idle {}) (twoWindows false)).shared row := by
  refine ⟨toRow (snapshot "20260928" "09:30:00" 1), by decide +kernel, ?_⟩
  have unstaged : (collectors.run (idle {}) (twoWindows false)).shared.staging.items = [] := by
    decide +kernel
  have sound : (collectors.run (idle {}) (twoWindows false)).shared.bad.items = [] := by
    decide +kernel
  have replaced : ¬ Covers ((collectors.run (idle {}) (twoWindows false)).shared.rows
      ("20260928", "SHFE", "rb2610")) (toRow (snapshot "20260928" "09:30:00" 1)) := by
    decide +kernel
  rintro (⟨path, rows, found, _⟩ | ⟨path, rows, found, _⟩ | ⟨key, isKey, covered⟩)
  · rw [← Dict.mem_items, unstaged] at found
    cases found
  · rw [← Dict.mem_items, sound] at found
    cases found
  · rw [← Option.some.inj isKey] at covered
    exact replaced covered

/-! ## Accepted ticks -/

/-- **Every tick is accounted for.**  Whenever a run returns a report, every tick that its
handler accepted is staged or in its final file, or is counted once, as dropped or as outside
every session -- provided that no tick came after the subscriber was closed, that no write
raised after it had counted snapshots or in the last flush, that the run did not end without
a report of snapshots it had counted, and that no segment is quarantined. -/
theorem returned_report_accounts {s : Depot} (initial : Initial s) {events : List Happening}
    (merges : collectors.Admitted (MergingStarts True) (idle s) events) :
    (collectors.trace (idle s) events).IsChain fun s s' => ∀ run report,
      (s.proc run).returned = none → (s'.proc run).returned = some report →
        Counted (s'.proc run) → s'.bad = ∅ → Accounted s' run report :=
  (trace_law initial merges).imp fun _ _ law run report running returned =>
    (law.returned run report running returned).1 trivial

/-- A window with one tick in a session and one at lunch. -/
def lunch : List Happening :=
  window "7-a" true [snapshot "20260928" "11:29:59" 1, snapshot "20260928" "12:00:00" 2] 29

theorem returned_report_accounts_lunch :
    (((collectors.run (idle {}) lunch).shared.proc "7-a").returned.map
        SinkReport.ticksOutsideSession = some 1 ∧
      Counted ((collectors.run (idle {}) lunch).shared.proc "7-a") ∧
      (collectors.run (idle {}) lunch).shared.bad.items = []) ∧
      (collectors.trace (idle {}) lunch).IsChain fun s s' => ∀ run report,
        (s.proc run).returned = none → (s'.proc run).returned = some report →
          Counted (s'.proc run) → s'.bad = ∅ → Accounted s' run report :=
  ⟨⟨by decide +kernel, by unfold Counted; decide +kernel, by decide +kernel⟩,
    returned_report_accounts initial_empty admitted_window⟩

/-- A window whose last batch has a tick without a trading day. -/
def malformed : List Happening :=
  window "7-a" true [snapshot "20260928" "09:30:00" 1, snapshot "" "09:30:01" 2] 9

/-- The write of the last batch raises, and the whole batch goes back to a buffer that is
never drained again. -/
theorem malformed_batch_lost :
    ∃ report, ((collectors.run (idle {}) malformed).shared.proc "7-a").returned = some report ∧
      (collectors.run (idle {}) malformed).shared.bad = ∅ ∧
      ¬ Accounted (collectors.run (idle {}) malformed).shared "7-a" report := by
  have returned : ((collectors.run (idle {}) malformed).shared.proc "7-a").returned =
      some { tradingDay := "" } := by decide +kernel
  have unstaged : (collectors.run (idle {}) malformed).shared.staging.items = [] := by
    decide +kernel
  have unmerged : (collectors.run (idle {}) malformed).shared.finals.items = [] := by
    decide +kernel
  have accepted : ((collectors.run (idle {}) malformed).shared.proc "7-a").accepted =
      [snapshot "20260928" "09:30:00" 1, snapshot "" "09:30:01" 2] := by decide +kernel
  refine ⟨_, returned, by rfl, ?_⟩
  rintro ⟨persisted, dropped, outside, all, durable, drops, outsides⟩
  obtain rfl : dropped = [] := List.length_eq_zero_iff.mp (Nat.eq_zero_of_add_eq_zero drops.symm).2
  obtain rfl : outside = [] := List.length_eq_zero_iff.mp outsides.symm
  rw [accepted, List.append_nil, List.append_nil] at all
  rcases durable _ (all.mem_iff.mp List.mem_cons_self) with ⟨path, rows, found, _⟩ | ⟨key, _, covered⟩
  · rw [← Dict.mem_items, unstaged] at found
    cases found
  · obtain ⟨row, mem, _⟩ := covered
    have inItems := mem_items_of_rows (List.ne_nil_of_mem mem)
    rw [unmerged] at inItems
    cases inItems

/-! ## Reported days -/

/-- **Every staged day is reported.**  Whenever a run returns, each trading day that it
staged rows of has a `report.json` whose lines are the day's final files with their row
counts -- provided that all the rows it staged are of one day, that no write raised after it
had staged rows, and that nobody replaced a file of the day while it was finalized. -/
theorem returned_run_reported {s : Depot} (initial : Initial s) (events : List Happening) :
    (collectors.trace (idle s) events).IsChain fun s s' => ∀ run report,
      (s.proc run).returned = none → (s'.proc run).returned = some report →
        OneDay (s'.proc run) → Reported s' run :=
  (trace_law initial admitted_unmerging).imp fun _ _ law run report running returned =>
    (law.returned run report running returned).2

theorem returned_run_reported_lunch :
    (((collectors.run (idle {}) lunch).shared.proc "7-a").stagedDays = ["20260928"] ∧
      ((collectors.run (idle {}) lunch).shared.proc "7-a").returned.isSome ∧
      OneDay ((collectors.run (idle {}) lunch).shared.proc "7-a")) ∧
      (collectors.trace (idle {}) lunch).IsChain fun s s' => ∀ run report,
        (s.proc run).returned = none → (s'.proc run).returned = some report →
          OneDay (s'.proc run) → Reported s' run :=
  ⟨⟨by decide +kernel, by decide +kernel, by unfold OneDay; decide +kernel⟩,
    returned_run_reported initial_empty lunch⟩

/-- A window that runs into the night session, which belongs to the next trading day. -/
def intoTheNight : List Happening :=
  window "7-a" true [snapshot "20260928" "15:00:00" 1, snapshot "20260928" "15:00:01" 2,
    snapshot "20260929" "21:00:00" 3] 44

/-- Only the day with the most rows of the last batch is finalized. -/
theorem second_day_unreported :
    ((collectors.run (idle {}) intoTheNight).shared.proc "7-a").returned.isSome ∧
      "20260929" ∈ ((collectors.run (idle {}) intoTheNight).shared.proc "7-a").stagedDays ∧
      ¬ Reported (collectors.run (idle {}) intoTheNight).shared "7-a" := by
  have staged : "20260929" ∈
      ((collectors.run (idle {}) intoTheNight).shared.proc "7-a").stagedDays := by decide +kernel
  have absent : (collectors.run (idle {}) intoTheNight).shared.reports.lookup "20260929" = none := by
    decide +kernel
  refine ⟨by decide +kernel, staged, fun reported => ?_⟩
  obtain ⟨report, found, _⟩ := reported "20260929" staged
  rw [absent] at found
  cases found

end BtApiCtp.Collector.Runtime
