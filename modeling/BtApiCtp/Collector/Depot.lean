/-
# Collector.Depot -- what collector processes act on

One data root, shared by any number of collector processes: staging segments, quarantined
segments, final files, lock files and `report.json`, and for each run the objects its
process holds (`TickBuffer`, `ParquetSink`, the local variables of `run_once` that outlive
an exception).  A run is named as its staging directory is, `pid-nonce`, and never again.

The last fields of a run and of the depot are not in any file.  They record what has
happened, for the statements about whole runs.
-/
import BtApiCtp.Theory.Threads
import BtApiCtp.Collector.Buffer

namespace BtApiCtp.Collector.Runtime

open Theory

/-- The name of a staging directory. -/
abbrev RunId := String

/-- A run's collection thread, or its `tick-compact` thread. -/
inductive Role where
  | main
  | worker
  deriving DecidableEq, Repr

abbrev ThreadId := RunId × Role

/-- Staging directory and segment number. -/
abbrev SegmentPath := RunId × Nat

/-- Trading day, exchange and instrument: the path of a final file. -/
abbrev FinalKey := Day × ExchangeId × InstrumentId

/-- `CollectionCancelled`, or any other exception. -/
inductive Failure where
  | cancelled
  | other (message : String)
  deriving DecidableEq, Repr

def Failure.message : Failure → String
  | .cancelled => "collection stopped by user"
  | .other message => message

/-- The parts of `CollectionConfig` that decide what happens to a tick. -/
structure CollectionConfig where
  perInstrumentCap : Int := 100000
  overflowPolicy : String := "drop"
  mergeExisting : Bool := true
  compactSegmentCount : Int := 64
  dropOutsideSession : Bool := true
  deriving DecidableEq, Repr

structure InstrumentReport where
  exchangeId : ExchangeId
  instrumentId : InstrumentId
  rows : Nat
  deriving DecidableEq, Repr

/-- `SinkReport`, and with it the payload of `report.json`. -/
structure SinkReport where
  tradingDay : Day
  instruments : List InstrumentReport := []
  droppedTicks : Nat := 0
  compactions : Nat := 0
  compactionFailures : Nat := 0
  pendingSegments : Nat := 0
  compactionLastError : Option String := none
  ticksOutsideSession : Nat := 0
  deriving DecidableEq, Repr

/-- `_compact_thread`: no thread, one that could not be started, one that runs, one that
has ended. -/
inductive CompactThread where
  | none
  | unstarted
  | started (batch : List SegmentPath)
  | ended
  deriving DecidableEq, Repr

def CompactThread.isAlive : CompactThread → Bool
  | .started _ => true
  | _ => false

/-- What went wrong in a run. -/
inductive Fault where
  /-- A tick was delivered after `subscriber.close()` returned. -/
  | lateTick
  /-- A write raised: the snapshots it had counted as outside a session, whether the
  subscriber was closed, and the days it had staged rows of. -/
  | handedBack (outside : Nat) (closed : Bool) (staged : List Day)
  /-- The run returned without a report of the snapshots it had counted. -/
  | uncounted (outside : Nat)
  /-- Another thread replaced a file of the day that is being finalized. -/
  | intruded
  deriving DecidableEq, Repr

/-- One run of the collector. -/
structure Proc where
  config : CollectionConfig := {}
  buffer : TickBuffer := { cap := 1, hardCap := 1 }
  segments : List SegmentPath := []
  segmentSeq : Nat := 0
  ticksOutsideSession : Nat := 0
  compactThread : CompactThread := .none
  compactions : Nat := 0
  compactionFailures : Nat := 0
  lastCompactionError : Option String := none
  tradingDay : Day := ""
  /-- The handler is set: the subscriber may deliver ticks. -/
  listening : Bool := false
  alive : Bool := true
  closed : Bool := false
  accepted : List TickRecord := []
  refused : Nat := 0
  stagedDays : List Day := []
  finalizing : Option Day := .none
  returned : Option SinkReport := .none
  faults : List Fault := []
  deriving DecidableEq, Repr

structure Depot where
  staging : Dict SegmentPath (List Row) := ∅
  bad : Dict SegmentPath (List Row) := ∅
  finals : Dict FinalKey (List Row) := ∅
  locks : Dict FinalKey ThreadId := ∅
  reports : Dict Day SinkReport := ∅
  procs : Dict RunId Proc := ∅
  /-- Every segment that was ever written, and its rows. -/
  spent : List SegmentPath := []
  written : List Row := []

/-- What the surroundings decide at one step: whether the operation raises, whether a
segment can be read, whether the pid of a dead run is in use again, and what the clock says. -/
structure Chance where
  failure : Option Failure := none
  unreadable : Bool := false
  pidReused : Bool := false
  flushDue : Bool := false
  stop : Bool := false
  deriving DecidableEq, Repr

abbrev Action (α : Type) := Prog Depot Chance Failure α

/-- A step that either raises, changing nothing, or does what `f` says. -/
def fallible {α : Type} (f : Depot → Except Failure α × Depot) : Action α :=
  Prog.atomic fun c s =>
    match c.failure with
    | some failure => (.error failure, s)
    | none => f s

namespace Depot

variable (s : Depot)

/-- The objects of a run. -/
def proc (run : RunId) : Proc := (s.procs.lookup run).getD {}

def update (run : RunId) (f : Proc → Proc) : Depot :=
  { s with procs := s.procs.insert run (f (s.proc run)) }

/-- The rows of a final file, none if it does not exist. -/
def rows (key : FinalKey) : List Row := (s.finals.lookup key).getD []

theorem proc_update (run run' : RunId) (f : Proc → Proc) :
    (s.update run f).proc run' = if run' = run then f (s.proc run) else s.proc run' := by
  rw [proc, update, Dict.lookup_insert_eq]
  split
  · rfl
  · rfl

@[simp] theorem proc_update_self (run : RunId) (f : Proc → Proc) :
    (s.update run f).proc run = f (s.proc run) := by
  rw [proc_update, if_pos rfl]

/-- Note that a file of `day` was replaced, in every other run that is finalizing the day. -/
def disturb (run : RunId) (day : Day) : Depot :=
  { s with
    procs := s.procs.mapValues fun other p =>
      if other ≠ run ∧ p.finalizing = some day then { p with faults := p.faults ++ [.intruded] }
      else p }

theorem proc_disturb (run run' : RunId) (day : Day) :
    (s.disturb run day).proc run' = if run' ≠ run ∧ (s.proc run').finalizing = some day then
        { s.proc run' with faults := (s.proc run').faults ++ [.intruded] }
      else s.proc run' := by
  rw [proc, disturb, Dict.lookup_mapValues, proc]
  cases s.procs.lookup run' with
  | none => simp
  | some p => rfl

end Depot
end BtApiCtp.Collector.Runtime
