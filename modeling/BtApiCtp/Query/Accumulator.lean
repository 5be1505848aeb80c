/-
# Query.Accumulator -- what a query has gathered

`_QueryAccumulator` of `ctp/client.py` and everything that writes to one: the packets of its
response, a front disconnect, and the query that waits for it.  Each operation is what
happens to the accumulator under `_query_state_lock` in one piece.
-/
import BtApiCtp.Session.Client
import BtApiCtp.Theory.Journal

namespace BtApiCtp.Query

open Session

inductive RequestType where
  | account
  | positions
  | orders
  | trades
  | products
  | instruments
  | depthMarketData
  | optionTradeCost
  | optionCommissionRate
  | marginRate
  | commissionRate
  | settlementConfirmation
  | investor
  | tradingCode
  deriving DecidableEq, Repr

/-- `QUERY_COMPLETION_ORIGINS`. -/
inductive CompletionOrigin where
  | unknown
  | queryResponse
  | responseError
  | frontDisconnected
  | clientStop
  | localCancel
  | submitException
  | submitRejected
  | timeout
  | deadline
  | recordLimit
  | success
  | localPreflight
  | querySlotBusy
  deriving DecidableEq, Repr

/-- What the code does with rows: `_snapshot_query_record` with `_restrict_query_record` and
the additions for instruments, and `_query_records_digest` (`none` for `TypeError` and
`ValueError`). -/
structure Rows (ρ δ : Type) where
  snapshot : RequestType → ρ → ρ
  digest : List ρ → Option δ

/-- A callback of a query, or `OnRspError`, which names no type: `request_type` is then that
of the query with its number, if there is one. -/
structure Packet (ρ : Type) where
  requestType : Option RequestType
  record : Option ρ := none
  rspInfo : Option RspInfo := none
  requestId : Int
  isLast : Bool
  completionOrigin : CompletionOrigin := .queryResponse

/-- The packet ends the response. -/
def Packet.isTerminal {ρ : Type} (p : Packet ρ) : Bool := p.isLast || (errorOf p.rspInfo).isSome

/-- Both clocks, read at one moment. -/
structure Clocks where
  utc : Int
  monotonic : Int

structure Accumulator (ρ δ : Type) where
  requestType : RequestType
  requestId : Int
  connectionGeneration : Int
  startedMonotonic : Int
  recordLimit : Option Nat := none
  event : Bool := false
  records : List ρ := []
  completedAtUtc : Option Int := none
  isLastSeen : Bool := false
  errorCode : Option Int := none
  errorMessage : String := ""
  timedOut : Bool := false
  isSealed : Bool := false
  lateCallbackCount : Nat := 0
  unsupported : Bool := false
  submitCode : Option Int := none
  lastCallbackMonotonic : Option Int := none
  completedMonotonic : Option Int := none
  sourceRecordsSha256 : Option δ := none
  firstCompletionOrigin : CompletionOrigin := .unknown
  completionOrigin : CompletionOrigin := .unknown
  recordLimitExceeded : Bool := false
  recordLimitCallbackPending : Bool := false

namespace Accumulator

variable {ρ δ : Type} (a : Accumulator ρ δ) (clocks : Clocks) (deadline : Option Int)
  (origin : CompletionOrigin) (pastDeadline : Bool) (rows : Rows ρ δ)

/-- `error_code not in (None, 0)`. -/
def failed : Bool := (a.errorCode.filter (· ≠ 0)).isSome

/-- `complete`, of `result()`. -/
def complete : Bool :=
  a.isSealed && a.isLastSeen && !a.timedOut && !a.unsupported && !a.recordLimitExceeded && !a.failed

/-- Packets are still taken in. -/
def isOpen : Bool := !(a.isSealed || a.isLastSeen || a.failed)

/-- `terminal_observed`. -/
def terminalObserved : Bool := a.event || a.isLastSeen || a.failed

/-- `record_completion_origin`. -/
def recordCompletionOrigin : Accumulator ρ δ :=
  { a with
    firstCompletionOrigin :=
      if a.firstCompletionOrigin = .unknown then origin else a.firstCompletionOrigin
    completionOrigin := origin }

/-- The end of every path that seals. -/
def close : Accumulator ρ δ := { a with isSealed := true, event := true }

/-- Both completion clocks. -/
def completeAt : Accumulator ρ δ :=
  { a with completedAtUtc := some clocks.utc, completedMonotonic := some clocks.monotonic }

/-- `if accumulator.completed_at_utc is None: ...`. -/
def completeAtFirst : Accumulator ρ δ :=
  if a.completedAtUtc = none then a.completeAt clocks else a

def late : Accumulator ρ δ :=
  { a with lateCallbackCount := a.lateCallbackCount + 1 }

/-! ## Packets -/

/-- The limit is reached. -/
def isFull : Bool :=
  match a.recordLimit with
  | some limit => decide (limit ≤ a.records.length)
  | none => false

variable (a : Accumulator ρ δ)

/-- The first row over the limit. -/
def exceed (p : Packet ρ) (clocks : Clocks) :
    Accumulator ρ δ :=
  ({ a with
      recordLimitExceeded := true
      recordLimitCallbackPending := false
      errorMessage := "query_record_limit_exceeded"
      errorCode := (errorOf p.rspInfo).or a.errorCode
      isLastSeen := a.isLastSeen || p.isLast
      sourceRecordsSha256 := rows.digest a.records }.recordCompletionOrigin .recordLimit
    |>.completeAt clocks).close

def append (record : ρ) : Accumulator ρ δ :=
  { a with records := a.records ++ [rows.snapshot a.requestType record] }

/-- `terminal_origin`. -/
def terminalOrigin (p : Packet ρ) : CompletionOrigin :=
  if p.completionOrigin = .queryResponse ∧ errorOf p.rspInfo = none then .success
  else p.completionOrigin

/-- The terminal packet fixes both clocks and the digest. -/
def terminate (p : Packet ρ) (clocks : Clocks) :
    Accumulator ρ δ :=
  let a := (a.recordCompletionOrigin (terminalOrigin p)).completeAtFirst clocks
  { a with
    sourceRecordsSha256 := a.sourceRecordsSha256.or (rows.digest a.records)
    event := true }

/-- The error and the last flag of a packet that was taken in. -/
def conclude (p : Packet ρ) (clocks : Clocks) :
    Accumulator ρ δ :=
  let a :=
    { a with
      errorCode := (errorOf p.rspInfo).or a.errorCode
      errorMessage := if (errorOf p.rspInfo).isSome then (rspError p.rspInfo).2 else a.errorMessage
      isLastSeen := a.isLastSeen || p.isLast }
  if p.isTerminal then a.terminate rows p clocks else a

/-- The packet of the query's own type and generation, from `_handle_query_callback`. -/
def receive (p : Packet ρ) (clocks : Clocks) (now : Int) :
    Accumulator ρ δ :=
  if a.isOpen = false then a.late
  else
    let a := { a with lastCallbackMonotonic := some now }
    match p.record with
    | none => a.conclude rows p clocks
    | some record =>
      if a.isFull then a.exceed rows p clocks
      else (a.append rows record).conclude rows p clocks

/-! ## The connection and the query itself -/

/-- `_on_front_disconnected`; the monotonic clock is not read. -/
def connectionLost (utc : Int) : Accumulator ρ δ :=
  if a.isSealed then a
  else
    { a.recordCompletionOrigin origin with
      errorCode := some (-2)
      errorMessage := "connection_lost"
      completedAtUtc := some utc }.close

/-- What a cancelled query writes. -/
def cancelled : Accumulator ρ δ :=
  { a.recordCompletionOrigin .localCancel with
    errorCode := some (-1)
    errorMessage := "query_cancelled" }

/-- Cancelled after the slot was taken, before the native call. -/
def cancelUnsent : Accumulator ρ δ :=
  if a.event || a.isLastSeen then a else (a.cancelled.completeAt clocks).close

/-- What a query past its deadline, or past its own timeout, writes. -/
def expired : Accumulator ρ δ :=
  { a.recordCompletionOrigin (if pastDeadline then .deadline else .timeout) with
    timedOut := true
    errorMessage := if pastDeadline then "query_deadline_exceeded" else "query_timeout" }

/-- `_mark_query_deadline_exceeded`. -/
def markDeadlineExceeded : Accumulator ρ δ :=
  ((a.expired true).completeAtFirst clocks).close

/-- The native call raised. -/
def submitException (name : String) (clocks : Clocks) : Accumulator ρ δ :=
  ({ a.recordCompletionOrigin .submitException with
      errorCode := some (-4)
      errorMessage := "query_submit_exception:" ++ name }.completeAt clocks).close

/-- The native call was refused. -/
def submitRejected (code : Int) (clocks : Clocks) : Accumulator ρ δ :=
  ({ a.recordCompletionOrigin .submitRejected with
      errorCode := some code
      errorMessage := "query_submit_rejected" }.completeAt clocks).close

/-- Cancelled in a progressive wait. -/
def cancelWaiting : Accumulator ρ δ :=
  (a.cancelled.completeAt clocks).close

/-- Out of time in a progressive wait. -/
def expireWaiting (clocks : Clocks) : Accumulator ρ δ :=
  ((a.expired pastDeadline).completeAt clocks).close

/-- `deadline_callback_late`. -/
def isLate : Bool :=
  match deadline, a.completedMonotonic with
  | some deadline, some completed => decide (deadline < completed)
  | _, _ => false

/-- The last part of `_execute_query`. -/
def settle (observed isCancelled : Bool)
    (clocks : Clocks) : Accumulator ρ δ :=
  let terminalObserved := a.terminalObserved && !a.isLate deadline
  let a := if a.isLate deadline then a.expired true else a
  let a :=
    if observed || terminalObserved then a
    else if isCancelled then a.cancelled
    else a.expired (deadline.any (· ≤ clocks.monotonic))
  (a.completeAtFirst clocks).close

/-- `_local_query_failure`, on its fresh accumulator. -/
def failLocally (message : String) (unsupported timedOut : Bool)
    (origin : CompletionOrigin) (clocks : Clocks) : Accumulator ρ δ :=
  ({ a.recordCompletionOrigin origin with
      errorCode := some (if unsupported then -3 else -1)
      errorMessage := message
      unsupported
      timedOut }.completeAt clocks).close

end Accumulator

end BtApiCtp.Query
