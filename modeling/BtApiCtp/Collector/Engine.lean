/-
# Collector.Engine -- one collection window, and processes side by side

`run_once` and `_flush` of `collector/engine.py`, and the system of collector processes: a
process is a collection thread and at times a compaction thread, ticks arrive at any moment,
a process can be killed anywhere.  The loop's timing (poll, deadline, flush interval,
heartbeat) is the surroundings' choice at each turn; choosing the instruments, logging and
the health guard do not touch a tick and are left out.
-/
import BtApiCtp.Collector.Sink

namespace BtApiCtp.Collector.Runtime

open Theory

/-! ## Flushing -/

variable (config : CollectionConfig) (run : RunId)

/-- Hand one tick back to the buffer, which may drop it. -/
def handBack (tick : TickRecord) : Action Unit :=
  Prog.modify fun s => s.update run fun p => { p with buffer := (p.buffer.append tick).2 }

/-- The fault of a write that raised, seen from where the flush began. -/
def handedBackFault (before p : Proc) : Fault :=
  .handedBack (p.ticksOutsideSession - before.ticksOutsideSession) p.closed
    (p.stagedDays.drop before.stagedDays.length)

/-- `_flush`. -/
def flush (run : RunId) : Action Unit := do
  let before ← Prog.atomic fun _ s =>
    (.ok (s.proc run), s.update run fun p => { p with buffer := p.buffer.drain.2 })
  let drained := Groups.members before.buffer.drain.1
  if drained = [] then return
  let outcome ← Prog.attempt (write config run drained)
  match outcome with
  | .error _ =>
    Prog.modify fun s => s.update run fun p =>
      { p with faults := p.faults ++ [handedBackFault before p] }
    Prog.forEach drained (handBack run)
  | .ok day =>
    Prog.modify fun s => s.update run fun p =>
      { p with tradingDay := if day = "" then p.tradingDay else day }

/-! ## The window -/

/-- A call into the venue, or a check of the stop event: it may raise and changes nothing. -/
def venueCall : Action Unit := fallible fun s => (.ok (), s)

/-- The collection loop.  `polls` bounds it: with none left the thread stands still. -/
def collect (config : CollectionConfig) (run : RunId) : Nat → Action Unit
  | 0 => Prog.await (fun _ => false) fun _ s => (.ok (), s)
  | polls + 1 => do
    let turn ← Prog.atomic fun c s =>
      (.ok (c.stop, c.flushDue || (s.proc run).buffer.flushRequested), s)
    if turn.1 then return
    Prog.when turn.2 (flush config run)
    venueCall
    collect config run polls

/-- The body of the `try`: subscribe, then collect. -/
def subscribeAndCollect (run : RunId) (polls : Nat) : Action Unit := do
  venueCall
  Prog.modify fun s => s.update run fun p => { p with listening := true }
  venueCall
  collect config run polls

/-- `subscriber.close()`. -/
def closeSubscriber : Action Unit :=
  fallible fun s => (.ok (), s.update run fun p => { p with closed := true })

/-- The report of a run that persisted nothing. -/
def emptyReport (p : Proc) : SinkReport := { tradingDay := "", droppedTicks := p.buffer.dropped }

/-- The run is over and this is its report. -/
def returnReport (report : SinkReport) : Action Unit :=
  Prog.modify fun s => s.update run fun p => { p with returned := some report }

/-- The end of `run_once`: finalize, or report a run that persisted nothing. -/
def reportWindow (run : RunId) (rounds : Nat) : Action Unit := do
  let p ← Prog.atomic fun _ s =>
    let p := s.proc run
    (.ok p,
      if p.tradingDay = "" ∧ p.ticksOutsideSession ≠ 0 then
        s.update run fun p => { p with faults := p.faults ++ [.uncounted p.ticksOutsideSession] }
      else s)
  if p.tradingDay = "" then returnReport run (emptyReport p)
  else
    let report ← finalize config.mergeExisting run rounds p.tradingDay p.buffer.dropped
    returnReport run report

/-- `run_once`.  `selected`: whether any instrument is selected. -/
def runOnce (run : RunId) (selected : Bool) (polls rounds : Nat) :
    Action Unit := do
  venueCall
  match TickBuffer.make config.perInstrumentCap config.overflowPolicy with
  | .error message => throw (.other message)
  | .ok buffer =>
    Prog.modify fun s => s.update run fun p => { p with buffer }
    if !selected then returnReport run (emptyReport { buffer })
    else if config.compactSegmentCount < 1 then
      throw (.other "compact_segment_count must be >= 1")
    else
      let collected ← Prog.attempt (subscribeAndCollect config run polls)
      let closed ← Prog.attempt (closeSubscriber run)
      flush config run
      -- what close raised replaces what the window raised; a requested stop is no error
      match closed, collected with
      | .error failure, _ => throw failure
      | .ok (), .error (.other message) => throw (.other message)
      | .ok (), _ => reportWindow config run rounds

/-! ## Processes -/

inductive Command where
  /-- Start a collector run under a new name. -/
  | collector (run : RunId) (config : CollectionConfig) (selected : Bool) (polls rounds : Nat)
  /-- The thread that `_compact_in_background` started begins to run. -/
  | compaction (run : RunId) (mergeExisting : Bool) (batch : List SegmentPath)

def Command.thread : Command → ThreadId
  | .collector run _ _ _ _ => (run, .main)
  | .compaction run _ _ => (run, .worker)

def Command.program : Command → Action Unit
  | .collector run config selected polls rounds => runOnce config run selected polls rounds
  | .compaction run mergeExisting batch => do
    let _ ← compactBatch mergeExisting (run, .worker) batch

def Command.accept : Command → Depot → Option Depot
  | .collector run config _ _ _, s =>
    if s.procs.lookup run = none then
      some { s with procs := s.procs.insert run { config } }
    else none
  | .compaction run mergeExisting batch, s =>
    if (s.proc run).compactThread = .started batch ∧
        (s.proc run).config.mergeExisting = mergeExisting then some s
    else none

/-- A tick delivered to a run's handler. -/
structure Delivery where
  run : RunId
  tick : TickRecord

/-- `_BufferHandler.on_tick`. -/
def Delivery.apply (delivery : Delivery) (s : Depot) : Depot :=
  if (s.proc delivery.run).listening then
    s.update delivery.run fun p =>
      let kept := p.buffer.append delivery.tick
      { p with
        buffer := kept.2
        accepted := if kept.1 then p.accepted ++ [delivery.tick] else p.accepted
        refused := if kept.1 then p.refused else p.refused + 1
        faults := if p.closed then p.faults ++ [.lateTick] else p.faults }
  else s

/-- The end of the compaction thread is what `is_alive` sees. -/
def finishThread (thread : ThreadId) (s : Depot) : Depot :=
  match thread.2 with
  | .main => s
  | .worker =>
    s.update thread.1 fun p =>
      { p with compactThread := if p.compactThread.isAlive then .ended else p.compactThread }

/-- The death of a process: its locks are released, its files stay. -/
def exitProcess (s : Depot) : Depot :=
  if (s.procs.lookup run).isSome then
    { s with locks := s.locks.filter fun _ holder => holder.1 ≠ run }.update run
      fun p => { p with alive := false, listening := false, compactThread := .ended }
  else s

def collectors : System Depot Chance Failure ThreadId RunId Command Delivery where
  thread := Command.thread
  program := Command.program
  accept := Command.accept
  owner := Prod.fst
  finish := finishThread
  exit := exitProcess
  env := Delivery.apply

end BtApiCtp.Collector.Runtime
