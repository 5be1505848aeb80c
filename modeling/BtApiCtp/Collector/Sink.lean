/-
# Collector.Sink -- staged writes, compaction, recovery, finalize

The methods of `ParquetSink` (`collector/sink.py`) as programs over the depot, one atomic
step per file operation and per block under the segments lock.  Final files are read and
replaced under their instrument's lock; waiting for that lock, or for the compaction thread,
is a step that is not ready.  Lock and staging directories, the `_compact_lock` (without it
more orders of steps are possible, not fewer) and the per-instrument quality metrics of the
report are left out.
-/
import BtApiCtp.Collector.Depot

namespace BtApiCtp.Collector.Runtime

open Theory

/-! ## Writing a batch -/

/-- The checks of `write` on one tick. -/
def checkTick (tick : TickRecord) : Except Failure Unit :=
  if tick.tradingDay = "" then .error (.other "tick without trading_day")
  else if tick.exchangeId = "" then .error (.other "tick without exchange_id")
  else if tick.instrumentId = "" then .error (.other "tick without instrument_id")
  else .ok ()

/-- The snapshots of a batch that are market data; the others are counted and skipped. -/
def inSessionTicks (dropOutsideSession : Bool) (ticks : List TickRecord) : List TickRecord :=
  ticks.filter fun tick => !(dropOutsideSession && outsideSession tick)

/-- `rows_by_day`. -/
def rowsByDay (ticks : List TickRecord) : List (Day × List TickRecord) :=
  Groups.groupBy TickRecord.tradingDay ticks

/-- `max(rows_by_day, key=len)`: the first day with the most rows. -/
def majorityDay : List (Day × List TickRecord) → Day
  | [] => ""
  | (day, ticks) :: days =>
    (days.foldl (fun best next => if best.2.length < next.2.length then next else best)
      (day, ticks)).1

variable (mergeExisting : Bool) (s : Depot)

/-- A segment file appears, whole. -/
def Depot.stage (run : RunId) (seq : Nat) (day : Day) (rows : List Row) : Depot :=
  { s with
    staging := s.staging.insert (run, seq) rows
    spent := (run, seq) :: s.spent
    written := s.written ++ rows }.update run fun p => { p with stagedDays := p.stagedDays ++ [day] }

/-- `_write_segment`. -/
def writeSegment (run : RunId) (day : Day) (rows : List Row) : Action Unit := do
  let seq ← Prog.atomic fun _ s =>
    (.ok (s.proc run).segmentSeq,
      s.update run fun p => { p with segmentSeq := p.segmentSeq + 1 })
  fallible fun s => (.ok (), s.stage run seq day rows)
  Prog.modify fun s => s.update run fun p => { p with segments := p.segments ++ [(run, seq)] }

/-- `_compact_in_background`: hand one batch to the worker if it is idle.  A thread that
cannot be started raises, after the batch left the queue. -/
def compactInBackground (config : CollectionConfig) (run : RunId) : Action Unit :=
  Prog.atomic fun c s =>
    let p := s.proc run
    let count := config.compactSegmentCount.toNat
    if p.compactThread.isAlive || p.segments.length < count then (.ok (), s)
    else
      let batch := p.segments.take count
      match c.failure with
      | none =>
        (.ok (), s.update run fun p =>
          { p with segments := p.segments.drop count, compactThread := .started batch })
      | some failure =>
        (.error failure, s.update run fun p =>
          { p with segments := p.segments.drop count, compactThread := .unstarted })

/-- `write`, down to the trading day of its report. -/
def write (config : CollectionConfig) (run : RunId) (ticks : List TickRecord) : Action Day := do
  match ticks.forM checkTick with
  | .error failure => throw failure
  | .ok () =>
    let kept := inSessionTicks config.dropOutsideSession ticks
    Prog.modify fun s => s.update run fun p =>
      { p with ticksOutsideSession := p.ticksOutsideSession + (ticks.length - kept.length) }
    if kept = [] then return ""
    Prog.forEach (rowsByDay kept) fun entry => writeSegment run entry.1 (entry.2.map toRow)
    compactInBackground config run
    return majorityDay (rowsByDay kept)

/-! ## Compaction -/

/-- `_quarantine`: out of the glob, still on disk; left in place if it cannot be moved. -/
def Depot.quarantine (path : SegmentPath) : Depot :=
  match s.staging.lookup path with
  | some rows => { s with staging := s.staging.erase path, bad := s.bad.insert path rows }
  | none => s

/-- The file name of a segment: its number in eight digits. -/
def segmentName (seq : Nat) : String :=
  String.ofList (List.replicate (8 - (toString seq).length) '0') ++ toString seq ++ ".parquet"

/-- Read one segment; one that cannot be read, or is gone, is counted and quarantined. -/
def readSegment (run : RunId) (tables : List (SegmentPath × List Row)) (path : SegmentPath) :
    Action (List (SegmentPath × List Row)) := do
  let table ← Prog.atomic fun c s => (.ok (if c.unreadable then none else s.staging.lookup path), s)
  match table with
  | some rows => return tables ++ [(path, rows)]
  | none =>
    Prog.modify fun s => s.update run fun p =>
      { p with
        compactionFailures := p.compactionFailures + 1
        lastCompactionError := some ("unreadable segment: " ++ segmentName path.2) }
    Prog.atomic fun c s => (.ok (), if c.failure.isSome then s else s.quarantine path)
    return tables

/-- The key the batch is grouped by; any column may be null. -/
abbrev GroupKey := Option Day × Option ExchangeId × Option InstrumentId

def groupKey (row : Row) : GroupKey := (row.tradingDay, row.exchangeId, row.instrumentId)

variable (thread : ThreadId)

/-- Take the instrument's lock, waiting until it is free. -/
def lockInstrument (key : FinalKey) : Action Unit :=
  Prog.await (fun s => (s.locks.lookup key).isNone) fun c s =>
    match c.failure with
    | some failure => (.error failure, s)
    | none => (.ok (), { s with locks := s.locks.insert key thread })

def unlockInstrument (key : FinalKey) : Action Unit :=
  Prog.modify fun s => { s with locks := s.locks.erase key }

/-- A final file is replaced, whole. -/
def Depot.replaceFinal (run : RunId) (key : FinalKey) (rows : List Row) : Depot :=
  { s with finals := s.finals.insert key rows }.disturb run key.1

/-- The rows to merge with, none if the sink does not merge. -/
def readExisting (key : FinalKey) : Action (List Row) :=
  if mergeExisting then fallible fun s => (.ok (s.rows key), s) else pure []

/-- Read, merge and replace one final file under its lock. -/
def compactFinal (key : FinalKey) (rows : List Row) :
    Action Unit := do
  lockInstrument thread key
  tryCatch
    (do
      let existing ← readExisting mergeExisting key
      fallible fun s => (.ok (), s.replaceFinal thread.1 key (mergeRows existing rows)))
    fun failure => do
      unlockInstrument key
      throw failure
  unlockInstrument key

/-- One group of the batch.  No path can be built from a null day or exchange; a null
instrument is spelled out, and no row compares equal to it. -/
def compactGroup (group : GroupKey × List Row) :
    Action Unit :=
  match group with
  | ((some day, some exchange, some instrument), rows) =>
    compactFinal mergeExisting thread (day, exchange, instrument) rows
  | ((some day, some exchange, none), _) =>
    compactFinal mergeExisting thread (day, exchange, "None") []
  | _ => throw (.other "unsupported operand type(s) for /: 'PosixPath' and 'NoneType'")

/-- `_discard`. -/
def discard (paths : List SegmentPath) : Action Unit :=
  Prog.forEach paths fun path =>
    fallible fun s => (.ok (), { s with staging := s.staging.erase path })

/-- `_compact`, down to the number of files written. -/
def compact (batch : List SegmentPath) : Action Nat := do
  let tables ← Prog.loop batch [] (readSegment thread.1)
  if tables = [] then return 0
  let groups ← fallible fun s =>
    (.ok (Groups.groupBy groupKey (tables.flatMap Prod.snd)), s)
  Prog.forEach groups (compactGroup mergeExisting thread)
  discard (tables.map Prod.fst)
  return groups.length

/-- `_requeue`: paths already queued, or gone, are skipped. -/
def Depot.requeue (run : RunId) (batch : List SegmentPath) : Depot :=
  s.update run fun p =>
    { p with
      segments := (batch.filter fun path =>
        path ∉ p.segments && (s.staging.lookup path).isSome) ++ p.segments }

/-- `_compact_batch`. -/
def compactBatch (batch : List SegmentPath) :
    Action Bool := do
  if batch = [] then return true
  let outcome ← Prog.attempt (compact mergeExisting thread batch)
  match outcome with
  | .error failure =>
    Prog.modify fun s => s.update thread.1 fun p =>
      { p with
        compactionFailures := p.compactionFailures + 1
        lastCompactionError := some failure.message }
    Prog.modify fun s => s.requeue thread.1 batch
    return false
  | .ok files =>
    Prog.modify fun s => s.update thread.1 fun p =>
      { p with compactions := if files = 0 then p.compactions else p.compactions + 1 }
    return true

/-! ## Closing -/

/-- `_await_compaction`: join the thread.  One that was never started cannot be joined. -/
def awaitCompaction (run : RunId) : Action Unit :=
  Prog.await (fun s => !(s.proc run).compactThread.isAlive) fun _ s =>
    if (s.proc run).compactThread = .unstarted then
      (.error (.other "cannot join thread before it is started"), s)
    else (.ok (), s.update run fun p => { p with compactThread := .none })

/-- `_drain_pending`.  `rounds` bounds the loop: with none left the thread stands still. -/
def drainPending (mergeExisting : Bool) (run : RunId) : Nat → Action Unit
  | 0 => Prog.await (fun _ => false) fun _ s => (.ok (), s)
  | rounds + 1 => do
    let batch ← Prog.atomic fun _ s =>
      (.ok (s.proc run).segments, s.update run fun p => { p with segments := [] })
    if batch = [] then return
    let compacted ← compactBatch mergeExisting (run, .main) batch
    Prog.when compacted (drainPending mergeExisting run rounds)

/-- `_pid_is_alive`. -/
def pidIsAlive (c : Chance) (run : RunId) : Bool :=
  ((s.procs.lookup run).any Proc.alive) || c.pidReused

/-- The staging directories that hold segments, sorted. -/
def stagingRuns : List RunId :=
  (s.staging.items.map fun item => item.1.1).dedup.insertionSort (· ≤ ·)

/-- The segments of one directory, sorted. -/
def stagedSegments (run : RunId) : List SegmentPath :=
  ((s.staging.items.filter fun item => item.1.1 = run).map fun item => item.1).insertionSort
    fun a b => a.2 ≤ b.2

/-- `_recover_dead_staging`. -/
def recoverDeadStaging (run : RunId) : Action Unit := do
  let pending ← Prog.observe fun s => (s.proc run).segments
  let directories ← fallible fun s => (.ok (stagingRuns s), s)
  Prog.forEach directories fun directory => do
    let segments ← Prog.atomic fun c s =>
      if directory = run || pidIsAlive s c directory then (.ok [], s)
      else
        match c.failure with
        | some failure => (.error failure, s)
        | none => (.ok ((stagedSegments s directory).filter fun path => path ∉ pending), s)
    let _ ← compactBatch mergeExisting (run, .main) segments

/-- The exchange directories of a day, sorted. -/
def dayExchanges (day : Day) : List ExchangeId :=
  ((s.finals.items.filter fun item => item.1.1 = day).map
    fun item => item.1.2.1).dedup.insertionSort (· ≤ ·)

/-- The final files of an exchange directory, sorted. -/
def exchangeInstruments (day : Day) (exchange : ExchangeId) : List InstrumentId :=
  ((s.finals.items.filter fun item => item.1.1 = day ∧ item.1.2.1 = exchange).map
    fun item => item.1.2.2).insertionSort (· ≤ ·)

/-- One file's line of the report; an empty file has none. -/
def reportInstrument (day : Day) (exchange : ExchangeId) (lines : List InstrumentReport)
    (instrument : InstrumentId) : Action (List InstrumentReport) := do
  let rows ← fallible fun s => (.ok (s.rows (day, exchange, instrument)), s)
  return if rows = [] then lines else lines ++ [⟨exchange, instrument, rows.length⟩]

def reportExchange (day : Day) (lines : List InstrumentReport) (exchange : ExchangeId) :
    Action (List InstrumentReport) := do
  let instruments ← fallible fun s => (.ok (exchangeInstruments s day exchange), s)
  Prog.loop instruments lines (reportInstrument day exchange)

/-- The report of `finalize`. -/
def sinkReport (p : Proc) (day : Day) (droppedTicks : Nat) (instruments : List InstrumentReport) :
    SinkReport where
  tradingDay := day
  instruments
  droppedTicks
  compactions := p.compactions
  compactionFailures := p.compactionFailures
  pendingSegments := p.segments.length
  compactionLastError := p.lastCompactionError
  ticksOutsideSession := p.ticksOutsideSession

/-- `finalize`. -/
def finalize (run : RunId) (rounds : Nat) (day : Day) (droppedTicks : Nat) :
    Action SinkReport := do
  awaitCompaction run
  drainPending mergeExisting run rounds
  recoverDeadStaging mergeExisting run
  let exchanges ← fallible fun s =>
    (.ok (dayExchanges s day), s.update run fun p => { p with finalizing := some day })
  let instruments ← Prog.loop exchanges [] (reportExchange day)
  let report ← Prog.observe fun s => sinkReport (s.proc run) day droppedTicks instruments
  fallible fun s => (.ok (), { s with reports := s.reports.insert day report }.disturb run day)
  return report

end BtApiCtp.Collector.Runtime
