/-
# Query.Lane -- queries, one at a time

`_execute_query`, `_wait_for_query_slot` and the callbacks of queries (`ctp/client.py`), as
programs over what they share: the accumulators, the slot of the outstanding native query and
the lane lock.  What happens under `_query_state_lock` is one step, and so is a look at a
clock or at `should_stop`.  Waiting for an event or for the rate limit only takes time; a
loop that polls may poll any number of times.  A stop predicate that raises, a timeout that
is no number and a native result that cannot be read end the call with that exception.

Two fields are not in the program: the packets with the number of a query that reached
`_handle_query_callback`, in order, each with the generation then, and a journal of what
became of each query.
-/
import BtApiCtp.Query.Accumulator
import BtApiCtp.Theory.Threads

namespace BtApiCtp.Query

open Session Theory

/-! ## The shared state -/

/-- What happened to a query, and to the connection. -/
inductive Mark where
  /-- A thread got the request id. -/
  | numbered (thread : Nat) (requestId : Int)
  /-- The query has read the connection generation. -/
  | opened (thread : Nat) (requestId : Int)
  /-- It holds the slot. -/
  | reserved (thread : Nat) (requestId : Int)
  /-- Its native method was entered. -/
  | entered (thread : Nat) (requestId : Int)
  /-- Its native method raised or returned something other than 0. -/
  | ended (thread : Nat) (requestId : Int)
  /-- It was given up before the native method. -/
  | abandoned (thread : Nat) (requestId : Int)
  /-- Its terminal packet came in. -/
  | terminal (requestId : Int)
  /-- The front was connected or disconnected. -/
  | connection
  /-- A native query was made through the public view of the API. -/
  | raw
  /-- A disconnect wrote to its accumulator. -/
  | lost (requestId : Int)
  /-- The native method raised, and that was written down. -/
  | submitFailed (requestId : Int)
  /-- The native method refused, and that was written down. -/
  | submitRejected (requestId : Int)
  /-- The query found itself past its deadline. -/
  | overdue (requestId : Int)
  /-- An exception is about to leave the query, which is not sealed. -/
  | raised (thread : Nat) (requestId : Int)
  deriving DecidableEq, Repr

structure Lane (ρ δ : Type) where
  connectionGeneration : Int := 0
  /-- `_current_login_identity_locked` finds an identity, poisoning aside. -/
  loggedIn : Bool := false
  /-- A managed callback ingress, if one is installed: whether it is poisoned. -/
  ingress : Option Bool := none
  /-- An execution capability is installed. -/
  isManaged : Bool := false
  reqId : Int := 0
  /-- Every accumulator there ever was, by its request id. -/
  accumulators : Dict Int (Accumulator ρ δ) := ∅
  /-- The keys of `_query_history`. -/
  queryHistory : List Int := []
  queryNativeInflight : Option (Int × RequestType × Int) := none
  /-- The thread that holds `_query_lock`. -/
  queryLock : Option Nat := none
  arrived : List (Int × Packet ρ) := []
  journal : List Mark := []

namespace Lane

variable {ρ δ : Type} (s : Lane ρ δ) (origin : CompletionOrigin) (p : Packet ρ) (rows : Rows ρ δ)

def poisoned : Bool := s.ingress = some true

/-- `is_read_only_ready`. -/
def isReadOnlyReady : Bool := s.loggedIn && !s.poisoned

def mark (m : Mark) : Lane ρ δ := { s with journal := s.journal ++ [m] }

def modifyAccumulator (requestId : Int) (f : Accumulator ρ δ → Accumulator ρ δ) : Lane ρ δ :=
  { s with accumulators := s.accumulators.mapValues fun k a => if k = requestId then f a else a }

/-- `_query_slot_blocking_locked`. -/
def querySlotBlocking : Bool × Lane ρ δ :=
  match s.queryNativeInflight with
  | none => (false, s)
  | some slot =>
    if slot.2.2 = s.connectionGeneration then (!s.poisoned, s)
    else (false, { s with queryNativeInflight := none })

/-- `_release_query_slot_locked`; without a type, `"unknown"`. -/
def releaseQuerySlot (requestId : Int) (requestType : Option RequestType) : Lane ρ δ :=
  match s.queryNativeInflight with
  | none => s
  | some slot =>
    if slot.1 = requestId ∧ (requestType = some slot.2.1 ∨ requestType = none) then
      { s with queryNativeInflight := none }
    else s

/-- `while len(...) > 256: ...`. -/
def evict (accumulators : Dict Int (Accumulator ρ δ)) : List Int → List Int
  | [] => []
  | oldest :: rest =>
    if 256 < (oldest :: rest).length ∧
        (accumulators.lookup oldest).any Accumulator.isSealed = true then
      evict accumulators rest
    else oldest :: rest

/-- Put a new accumulator into `_query_history`. -/
def register (a : Accumulator ρ δ) : Lane ρ δ :=
  let accumulators := s.accumulators.insert a.requestId a
  { s with accumulators, queryHistory := evict accumulators (s.queryHistory ++ [a.requestId]) }

/-! ## Packets -/

/-- The packet is about the query with its number. -/
def isAbout : Bool :=
  p.requestType = none ||
    (s.accumulators.lookup p.requestId).any fun a => some a.requestType = p.requestType

/-- What a terminal packet does to the slot. -/
def noteTerminal : Lane ρ δ :=
  if p.isTerminal then
    let s' := s.releaseQuerySlot p.requestId p.requestType
    if s.isAbout p then s'.mark (.terminal p.requestId) else s'
  else s

def hear : Lane ρ δ :=
  { s with arrived := s.arrived ++ [(s.connectionGeneration, p)] }

@[simp] theorem hear_accumulators : (s.hear p).accumulators = s.accumulators := rfl

@[simp] theorem hear_queryHistory : (s.hear p).queryHistory = s.queryHistory := rfl

/-- Write down a packet that has the number of a query. -/
def arrive : Lane ρ δ :=
  if (s.accumulators.lookup p.requestId).isSome then s.hear p else s

/-- Find the query of a packet.  One that fits no query is only listed as an orphan. -/
def takePacket (s : Lane ρ δ) (p : Packet ρ) (early : Clocks) (now : Int) :
    Lane ρ δ :=
  let s := s.arrive p
  if p.requestId ∈ s.queryHistory ∧
      (s.accumulators.lookup p.requestId).any (fun a => some a.requestType = p.requestType) then
    s.modifyAccumulator p.requestId fun a =>
      if a.connectionGeneration = s.connectionGeneration then a.receive rows p early now
      else a.late
  else s

/-- `_handle_query_callback`. -/
def handleQueryCallback (s : Lane ρ δ) (p : Packet ρ) (early : Clocks)
    (now : Int) : Lane ρ δ :=
  (s.noteTerminal p).takePacket rows p early now

/-- The queries whose packets the ingress counts against a limit. -/
def isCapped (a : Accumulator ρ δ) : Bool :=
  (a.requestType = .products || a.requestType = .instruments || a.requestType = .depthMarketData) &&
    p.requestType = some a.requestType && p.completionOrigin = .queryResponse &&
    a.recordLimit.isSome && a.connectionGeneration = s.connectionGeneration &&
    decide (p.requestId ∈ s.queryHistory)

/-- What `_dispatch_callback_ingress` does to a limited query, before it captures the packet:
`true` if the packet goes no further. -/
def capQuery : Bool × Lane ρ δ :=
  match (s.accumulators.lookup p.requestId).filter (s.isCapped p) with
  | none => (false, s)
  | some a =>
    if a.recordLimitExceeded || a.recordLimitCallbackPending || !a.isOpen then
      (true, (s.modifyAccumulator p.requestId Accumulator.late).noteTerminal p)
    else if p.record.isSome && a.isFull then
      (false, s.modifyAccumulator p.requestId fun a => { a with recordLimitCallbackPending := true })
    else (false, s)

/-- Whether the handler is to run.  Without an ingress it always does; with one, a packet
that is not captured poisons it. -/
def capture (captured : Bool) : Bool × Lane ρ δ :=
  match s.ingress with
  | none => (true, s)
  | some true => (false, s)
  | some false =>
    let (skipped, s) := s.capQuery p
    if skipped then (false, s)
    else if captured then (true, s)
    else (false, { s with ingress := some true })

/-! ## The connection -/

/-- What a disconnect writes to one query of the history. -/
def loseQuery (utc : Int) (s : Lane ρ δ) (requestId : Int) : Lane ρ δ :=
  if (s.accumulators.lookup requestId).any Accumulator.isSealed then s
  else (s.modifyAccumulator requestId fun a => a.connectionLost origin utc).mark (.lost requestId)

/-- `_on_front_disconnected`, of the query lane. -/
def onFrontDisconnected (utc : Int) : Lane ρ δ :=
  let s := { s with loggedIn := false, queryNativeInflight := none }
  (s.queryHistory.foldl (loseQuery origin utc) s).mark .connection

/-- `_on_front_connected`, of the query lane. -/
def onFrontConnected : Lane ρ δ :=
  { s with loggedIn := false, connectionGeneration := s.connectionGeneration + 1 }.mark .connection

end Lane

/-! ## What a query looks at -/

/-- What the surroundings decide at one step. -/
structure Chance where
  /-- The clocks, where they are read under the lock. -/
  clocks : Clocks := ⟨0, 0⟩
  /-- The clocks at the arrival of a packet. -/
  early : Clocks := ⟨0, 0⟩
  /-- What `should_stop()` says. -/
  stop : Bool := false
  /-- It raises. -/
  stopRaises : Bool := false
  /-- The lane lock was not free before the deadline. -/
  missed : Bool := false
  /-- The native field could not be read back. -/
  readback : Option String := none
  /-- The callback ingress captured the packet, and the sink acknowledged it. -/
  captured : Bool := true
  /-- The SPI and API of the callback are the client's. -/
  current : Bool := true
  /-- The final gate raises an exception of this class. -/
  refused : Option String := none
  /-- What the native method comes to; `None` counts as 0. -/
  native : Except String (Option Int) := .ok (some 0)
  /-- It raises what is no `Exception`, or returns what `int(...)` cannot read. -/
  escapes : Bool := false
  /-- `event.wait(...)` returned before its timeout. -/
  woken : Bool := true

/-- The arguments of `_local_query_failure`. -/
structure Failure where
  message : String
  unsupported : Bool := false
  timedOut : Bool := false
  completionOrigin : CompletionOrigin := .localPreflight

def Failure.cancelled : Failure where
  message := "query_cancelled"
  completionOrigin := .localCancel

def Failure.deadlineExceeded : Failure where
  message := "query_deadline_exceeded"
  timedOut := true
  completionOrigin := .deadline

def Failure.notLoggedIn : Failure where
  message := "trader_not_logged_in"

def Failure.slotBusy : Failure where
  message := "query_slot_busy"
  timedOut := true
  completionOrigin := .querySlotBusy

/-- A call of `_execute_query`. -/
structure Call where
  requestType : RequestType
  timeout : Int
  /-- `float(timeout)` does not raise. -/
  numeric : Bool := true
  maxDuration : Option Int := none
  deadlineMonotonic : Option Int := none
  maxRecords : Option Nat := none
  /-- The API has the native method. -/
  supported : Bool := true
  /-- `should_stop` was given. -/
  stoppable : Bool := false
  /-- It is made on the thread that delivers the callbacks. -/
  onCallbackThread : Bool := false
  /-- How often it polls, at most. -/
  polls : Nat

namespace Call

variable (call : Call)

def stops (c : Chance) : Bool := call.stoppable && c.stop

/-- `should_stop` is given, and raises. -/
def raises (c : Chance) : Bool := call.stoppable && c.stopRaises

/-- `_progressive_query_wait_limits` raises. -/
def limitsInvalid : Bool :=
  call.maxDuration.any fun maxDuration =>
    !call.numeric || decide (call.timeout ≤ 0) || decide (maxDuration ≤ 0)

/-- `time.monotonic() >= issue_deadline`. -/
def pastDeadline (c : Chance) : Bool :=
  call.deadlineMonotonic.any (· ≤ c.clocks.monotonic)

/-- The checks before the lane. -/
def preflight {ρ δ : Type} (call : Call) (c : Chance) (s : Lane ρ δ) :
    Except Unit (Option Failure) :=
  if call.limitsInvalid then .error ()
  else if call.pastDeadline c then .ok (some .deadlineExceeded)
  else if call.raises c then .error ()
  else if call.stops c then .ok (some .cancelled)
  else if s.isReadOnlyReady = false then .ok (some .notLoggedIn)
  else if call.supported = false then
    .ok (some { message := "native_query_unsupported", unsupported := true })
  else .ok none

/-- The wait for the rate limit, and the checks after it. -/
def prepare (c : Chance) : Except Unit (Option Failure) :=
  if call.raises c then .error ()
  else if call.stops c then .ok (some .cancelled)
  else if call.pastDeadline c then .ok (some .deadlineExceeded)
  else .ok (c.readback.map fun message => { message, unsupported := true })

/-- `slot_deadline`. -/
def slotDeadline (c : Chance) : Int :=
  let budget :=
    if call.numeric ∧ 0 < call.timeout ∧ call.onCallbackThread = false then call.timeout else 0
  match call.deadlineMonotonic with
  | some deadline => min (c.clocks.monotonic + budget) deadline
  | none => c.clocks.monotonic + budget

/-- `wait_deadline`. -/
def waitDeadline (c : Chance) : Int :=
  match call.deadlineMonotonic with
  | some deadline => min (c.clocks.monotonic + max call.timeout 0) deadline
  | none => c.clocks.monotonic + max call.timeout 0

end Call

section Programs

variable {ρ δ : Type} (call : Call) (rows : Rows ρ δ) (thread : Nat)

abbrev Action (ρ δ α : Type) := Prog (Lane ρ δ) Chance Unit α

/-- Look at the state and at what the surroundings decide. -/
def look {α : Type} (f : Chance → Lane ρ δ → α) : Action ρ δ α :=
  Prog.atomic fun c s => (.ok (f c s), s)

/-- Look at something that may raise. -/
def ask {α : Type} (f : Chance → Lane ρ δ → Except Unit α) : Action ρ δ α :=
  Prog.atomic fun c s => (f c s, s)

def change (f : Chance → Lane ρ δ → Lane ρ δ) : Action ρ δ Unit :=
  Prog.atomic fun c s => (.ok (), f c s)

/-- A poll that never comes. -/
def stall {α : Type} [Inhabited α] : Action ρ δ α :=
  Prog.await (fun _ => false) fun _ s => (.ok default, s)

/-! ## Before the native call -/

/-- `_next_request_id`. -/
def nextRequestId : Action ρ δ Int :=
  Prog.atomic fun _ s =>
    (.ok (s.reqId + 1), { s with reqId := s.reqId + 1 }.mark (.numbered thread (s.reqId + 1)))

/-- `_new_query_accumulator`.  The generation is read before the lock is taken. -/
def newQueryAccumulator (requestType : RequestType) (recordLimit : Option Nat) :
    Action ρ δ Int := do
  let requestId ← nextRequestId thread
  let accumulator ← Prog.atomic fun c s =>
    (.ok ({ requestType, requestId, recordLimit
            connectionGeneration := s.connectionGeneration
            startedMonotonic := c.clocks.monotonic } : Accumulator ρ δ),
      s.mark (.opened thread requestId))
  change fun _ s => s.register accumulator
  return requestId

/-- `_local_query_failure`. -/
def localQueryFailure (requestType : RequestType) (failure : Failure) :
    Action ρ δ Unit := do
  let requestId ← newQueryAccumulator thread requestType none
  change fun c s =>
    (s.modifyAccumulator requestId fun a =>
      a.failLocally failure.message failure.unsupported failure.timedOut failure.completionOrigin
        c.clocks).mark (.abandoned thread requestId)

/-- `_query_lock_until`: with a deadline, the lock may not be had in time. -/
def acquireLane (call : Call) : Action ρ δ Bool :=
  Prog.await (fun s => s.queryLock.isNone || call.deadlineMonotonic.isSome) fun c s =>
    if s.queryLock.isNone && !(call.deadlineMonotonic.isSome && c.missed) then
      (.ok true, { s with queryLock := some thread })
    else (.ok false, s)

def releaseLane : Action ρ δ Unit :=
  change fun _ s => if s.queryLock = some thread then { s with queryLock := none } else s

/-- The loop of `_wait_for_query_slot`. -/
def pollQuerySlot (call : Call) (slotDeadline : Int) : Nat → Action ρ δ (Option Failure)
  | 0 => stall
  | polls + 1 => do
    let found ← Prog.atomic fun c s =>
      if call.raises c then (.error (), s)
      else if call.stops c then (.ok (some (some Failure.cancelled)), s)
      else
        let (blocking, s) := s.querySlotBlocking
        if blocking = false then (.ok (some none), s)
        else if slotDeadline ≤ c.clocks.monotonic then (.ok (some (some Failure.slotBusy)), s)
        else (.ok none, s)
    match found with
    | none => pollQuerySlot call slotDeadline polls
    | some (some failure) => return some failure
    | some none => look fun _ s => if s.isReadOnlyReady then none else some .notLoggedIn

/-- `_wait_for_query_slot`. -/
def waitForQuerySlot : Action ρ δ (Option Failure) := do
  let blocking ← Prog.atomic fun _ s => (.ok s.querySlotBlocking.1, s.querySlotBlocking.2)
  match blocking with
  | false => return none
  | true =>
    let slotDeadline ← look fun c _ => call.slotDeadline c
    pollQuerySlot call slotDeadline call.polls

/-- In the lane: the slot is free, and nothing speaks against the query. -/
def admitQuery : Action ρ δ (Option Failure) := do
  let tooLate ← look fun c _ => call.pastDeadline c
  match tooLate with
  | true => return some .deadlineExceeded
  | false =>
    let failure ← waitForQuerySlot call
    match failure with
    | some failure => return some failure
    | none => ask fun c _ => call.prepare c

variable (requestId : Int)

/-- Take the slot. -/
def reserveSlot (requestType : RequestType) : Action ρ δ Unit :=
  change fun _ s =>
    match s.accumulators.lookup requestId with
    | some a =>
      { s with
        queryNativeInflight := some (requestId, requestType, a.connectionGeneration) }.mark
        (.reserved thread requestId)
    | none => s

/-! ## The native call and the wait -/

/-- `_mark_query_deadline_exceeded`. -/
def markQueryDeadlineExceeded : Action ρ δ Unit :=
  change fun c s =>
    (s.modifyAccumulator requestId fun a => a.markDeadlineExceeded c.clocks).mark
      (.overdue requestId)

/-- The query came to an end before or in the native method. -/
def failSubmit (requestType : RequestType) (entered : Bool)
    (name : String) : Action ρ δ Unit :=
  change fun c s =>
    let s := (s.releaseQuerySlot requestId (some requestType)).modifyAccumulator requestId
      fun a => a.submitException name c.clocks
    (if entered then s else s.mark (.abandoned thread requestId)).mark (.submitFailed requestId)

/-- The final gate of `_invoke_session_native_request`. -/
def finalGate : Action ρ δ (Option String) :=
  look fun c s => if s.poisoned then some "CtpExecutionGateError" else c.refused

/-- `ret not in (None, 0)`. -/
def rejection : Except String (Option Int) → Option Int
  | .ok ret => ret.filter (· ≠ 0)
  | .error _ => none

/-- The native method returns; `none` if what it comes to goes past the query. -/
def returnNative :
    Action ρ δ (Option (Except String (Option Int))) :=
  Prog.atomic fun c s =>
    match c.escapes, c.native, rejection c.native with
    | true, _, _ => (.ok none, s.mark (.ended thread requestId))
    | false, .error _, _ => (.ok (some c.native), s.mark (.ended thread requestId))
    | false, .ok _, some _ => (.ok (some c.native), s.mark (.ended thread requestId))
    | false, .ok _, none => (.ok (some c.native), s)

/-- The exception leaves the query as it is. -/
def raiseOut : Action ρ δ Unit :=
  Prog.atomic fun _ s => (.error (),
    if (s.accumulators.lookup requestId).any (!·.isSealed) then s.mark (.raised thread requestId)
    else s)

/-- How a wait goes on. -/
inductive Wait where
  | finished (observed cancelled : Bool)
  /-- The query was sealed on the spot. -/
  | returned
  /-- `should_stop()` or `float(timeout)` raised. -/
  | raised
  | again (lastProgress : Option Int) (idleDeadline : Int)
  deriving Inhabited

/-- One round of a progressive wait: `idle` is the timeout, `hard` the hard deadline. -/
def progressiveRound (hard : Int) (lastProgress : Option Int)
    (idleDeadline : Int) (c : Chance) (s : Lane ρ δ) : Wait × Lane ρ δ :=
  match s.accumulators.lookup requestId with
  | none => (.finished true false, s)
  | some a =>
    if a.event then (.finished true false, s)
    else if call.raises c then (.raised, s)
    else if a.terminalObserved then (.finished true false, s)
    else
      let progress : Option (Option Int × Int) := a.lastCallbackMonotonic.bind fun at_ =>
        if lastProgress.all (· < at_) then some (some at_, min (at_ + call.timeout) hard) else none
      let lastProgress := (progress.map Prod.fst).getD lastProgress
      let idleDeadline := (progress.map Prod.snd).getD idleDeadline
      if call.stops c then
        (.returned, s.modifyAccumulator requestId fun a => a.cancelWaiting c.clocks)
      else if min idleDeadline hard ≤ c.clocks.monotonic then
        (.returned, s.modifyAccumulator requestId fun a =>
          a.expireWaiting (call.pastDeadline c) c.clocks)
      else (.again lastProgress idleDeadline, s)

def waitProgressively (call : Call) (requestId : Int) (hard : Int) :
    Nat → Option Int → Int → Action ρ δ Wait
  | 0, _, _ => stall
  | polls + 1, lastProgress, idleDeadline => do
    let wait ← Prog.atomic fun c s =>
      let next := progressiveRound call requestId hard lastProgress idleDeadline c s
      (.ok next.1, next.2)
    match wait with
    | .again lastProgress idleDeadline =>
      waitProgressively call requestId hard polls lastProgress idleDeadline
    | wait => return wait

/-- Whether the event of a query is set. -/
def Lane.eventSet (s : Lane ρ δ) (requestId : Int) : Bool :=
  (s.accumulators.lookup requestId).any Accumulator.event

/-- The loop that polls `should_stop`. -/
def waitStoppably (call : Call) (requestId : Int) (waitDeadline : Int) : Nat → Action ρ δ Wait
  | 0 => stall
  | polls + 1 => do
    let wait ← look fun c s =>
      if s.eventSet requestId then some (Wait.finished true false)
      else if c.stopRaises then some .raised
      else if c.stop then some (.finished false true)
      else if waitDeadline ≤ c.clocks.monotonic then some (.finished false false)
      else none
    match wait with
    | none => waitStoppably call requestId waitDeadline polls
    | some wait => return wait

/-- The wait for the event, in its three forms. -/
def awaitEvent (requestId : Int) : Action ρ δ Wait := do
  match call.maxDuration with
  | some maxDuration =>
    let started ← look fun _ s =>
      ((s.accumulators.lookup requestId).map Accumulator.startedMonotonic).getD 0
    let hard := match call.deadlineMonotonic with
      | some deadline => min (started + maxDuration) deadline
      | none => started + maxDuration
    waitProgressively call requestId hard call.polls none (started + call.timeout)
  | none =>
    match call.numeric, call.stoppable with
    | false, _ => return .raised
    | true, false => look fun c s => .finished (c.woken && s.eventSet requestId) false
    | true, true => do
      let waitDeadline ← look fun c _ => call.waitDeadline c
      waitStoppably call requestId waitDeadline call.polls

/-- The last locked section. -/
def settleQuery (requestId : Int) (observed cancelled : Bool) : Action ρ δ Unit :=
  change fun c s =>
    let overdue := (s.accumulators.lookup requestId).any fun a => a.isLate call.deadlineMonotonic
    let s := s.modifyAccumulator requestId fun a =>
      a.settle call.deadlineMonotonic observed cancelled c.clocks
    if overdue then s.mark (.overdue requestId) else s

/-- The native method has returned `ret`. -/
def afterSubmit (call : Call) (requestId : Int) (ret : Option Int) :
    Action ρ δ Unit := do
  change fun _ s => s.modifyAccumulator requestId fun a => { a with submitCode := ret }
  Prog.when (ret.filter (· ≠ 0)).isSome
    (change fun _ s => s.releaseQuerySlot requestId (some call.requestType))
  let tooLate ← look fun c _ => call.pastDeadline c
  match tooLate, ret.filter (· ≠ 0) with
  | true, _ => markQueryDeadlineExceeded requestId
  | false, some code =>
    change fun c s =>
      (s.modifyAccumulator requestId fun a => a.submitRejected code c.clocks).mark
        (.submitRejected requestId)
  | false, none => do
    let wait ← awaitEvent call requestId
    match wait with
    | .finished observed cancelled => settleQuery call requestId observed cancelled
    | .raised => raiseOut thread requestId
    | _ => return ()

/-- What a query does with the slot it holds, the lane released. -/
def submitQuery (call : Call) (requestId : Int) : Action ρ δ Unit := do
  let verdict ← look fun c _ => (call.raises c, call.stops c, call.pastDeadline c)
  match verdict with
  | (true, _, _) => raiseOut thread requestId
  | (false, true, _) =>
    change fun c s =>
      ((s.releaseQuerySlot requestId (some call.requestType)).modifyAccumulator requestId
        fun a => a.cancelUnsent c.clocks).mark (.abandoned thread requestId)
  | (false, false, true) => do
    change fun _ s => (s.releaseQuerySlot requestId (some call.requestType)).mark
      (.abandoned thread requestId)
    markQueryDeadlineExceeded requestId
  | (false, false, false) => do
    let blocked ← finalGate
    match blocked with
    | some name => failSubmit thread requestId call.requestType false name
    | none => do
      change fun _ s => s.mark (.entered thread requestId)
      let outcome ← returnNative thread requestId
      match outcome with
      | none => raiseOut thread requestId
      | some (.error name) => failSubmit thread requestId call.requestType true name
      | some (.ok ret) => afterSubmit thread call requestId ret

/-- `_execute_query`. -/
def executeQuery (call : Call) : Action ρ δ Unit := do
  let early ← ask call.preflight
  match early with
  | some failure => localQueryFailure thread call.requestType failure
  | none => do
    let acquired ← acquireLane thread call
    match acquired with
    | false => localQueryFailure thread call.requestType .deadlineExceeded
    | true => do
      let failure ← tryCatch (admitQuery call) fun e => do
        releaseLane thread
        throw e
      match failure with
      | some failure => do
        localQueryFailure thread call.requestType failure
        releaseLane thread
      | none => do
        let requestId ← newQueryAccumulator thread call.requestType call.maxRecords
        reserveSlot thread requestId call.requestType
        releaseLane thread
        submitQuery thread call requestId

/-! ## Callbacks -/

/-- A query callback: the ingress, if there is one, then the handler. -/
def onRspQry (requestType : RequestType) (packet : Packet ρ) :
    Action ρ δ Unit := do
  let p := { packet with requestType := some requestType, completionOrigin := .queryResponse }
  let captured ← Prog.atomic fun c s =>
    let next := s.capture p c.captured
    (.ok next.1, next.2)
  Prog.when captured
    (change fun c s =>
      if c.current then s.handleQueryCallback rows p c.early c.clocks.monotonic else s)

/-- `OnRspError`: the type of the query is looked up first. -/
def onRspError (p : Packet ρ) : Action ρ δ Unit := do
  let captured ← Prog.atomic fun c s =>
    match s.ingress with
    | none => (.ok true, s)
    | some true => (.ok false, s)
    | some false =>
      if c.captured then (.ok true, s) else (.ok false, { s with ingress := some true })
  Prog.when captured do
    let requestType ← look fun _ s =>
      if p.requestId ∈ s.queryHistory then
        (s.accumulators.lookup p.requestId).map Accumulator.requestType
      else none
    change fun c s =>
      if c.current then
        s.handleQueryCallback rows
          { p with requestType, record := none, completionOrigin := .responseError } c.early
          c.clocks.monotonic
      else s

end Programs

/-! ## The system -/

inductive Command (ρ : Type) where
  | query (thread : Nat) (call : Call)
  | packet (thread : Nat) (requestType : RequestType) (p : Packet ρ)
  | responseError (thread : Nat) (p : Packet ρ)

def Command.thread {ρ : Type} : Command ρ → Nat
  | .query thread _ => thread
  | .packet thread _ _ => thread
  | .responseError thread _ => thread

/-- What else happens to the client. -/
inductive Outside where
  | frontConnected
  | frontDisconnected (utc : Int)
  | clientStopped (utc : Int)
  | loggedIn
  | loggedOut
  | poisoned
  /-- An order took a request id. -/
  | requestId
  /-- A query through the public view of the API. -/
  | rawQuery
  deriving DecidableEq, Repr

/-- `OnFrontDisconnected` and any other `OnFrontConnected` than the first poison an ingress;
only the handler of the former still runs then.  So does a stop, through the setter of
`_api`. -/
def Outside.act {ρ δ : Type} : Outside → Lane ρ δ → Lane ρ δ
  | .frontConnected, s =>
    if s.ingress = some false ∧ s.connectionGeneration ≠ 0 then { s with ingress := some true }
    else s.onFrontConnected
  | .frontDisconnected utc, s =>
    { s with ingress := s.ingress.map fun _ => true }.onFrontDisconnected .frontDisconnected utc
  | .clientStopped utc, s =>
    { s with ingress := s.ingress.map fun _ => true }.onFrontDisconnected .clientStop utc
  | .loggedIn, s => { s with loggedIn := s.loggedIn || decide (0 < s.connectionGeneration) }
  | .loggedOut, s => { s with loggedIn := false }
  | .poisoned, s => { s with ingress := s.ingress.map fun _ => true }
  | .requestId, s => { s with reqId := s.reqId + 1 }
  | .rawQuery, s => if s.ingress.isNone && !s.isManaged then s.mark .raw else s

def queries {ρ δ : Type} (rows : Rows ρ δ) :
    System (Lane ρ δ) Chance Unit Nat Unit (Command ρ) Outside where
  thread := Command.thread
  program
    | .query thread call => executeQuery thread call
    | .packet _ requestType p => onRspQry rows requestType p
    | .responseError _ p => onRspError rows p
  accept _ s := some s
  owner _ := ()
  finish _ s := s
  exit _ s := s
  env := Outside.act

end BtApiCtp.Query
