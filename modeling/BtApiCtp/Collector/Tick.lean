/-
# Collector.Tick -- tick snapshots, rows, and the newest-wins rule

`TickRecord` is the venue-neutral snapshot (`collector/protocols.py`), `Row` one
line of the fixed Parquet schema (`collector/sink.py`).  A row read back from an
older file may lack any column, so every column is optional; `timeKey` and
`receiveTime` apply the defaults of `_time_key` and `_dedup_sort`.

The collector and the cleaner share one definition of "duplicate": same time key,
newest local receive wins.  It is `Theory.LatestWins` at this key and this stamp.
-/
import BtApiCtp.Python.Datetime
import BtApiCtp.Theory.LatestWins
import Mathlib.Data.Prod.Lex
import Mathlib.Data.String.Basic

namespace BtApiCtp.Collector

open Theory

abbrev Day := String
abbrev ExchangeId := String
abbrev InstrumentId := String

/-- A nullable numeric column: an `int64` value or the bits of a `float64`. -/
inductive Cell where
  | null
  | int (value : Int)
  | float (bits : UInt64)
  deriving DecidableEq, Repr

/-- One normalized depth snapshot.  `quotes` lists the columns of
`_QUOTE_COLUMNS` in order. -/
structure TickRecord where
  exchangeId : ExchangeId
  instrumentId : InstrumentId
  tradingDay : Day
  actionDay : String
  updateTime : String
  updateMillisec : Int
  localReceiveTime : Int
  exchangeInstId : Option String := none
  quotes : List Cell := []
  bidPrice : List Cell := []
  bidVolume : List Cell := []
  askPrice : List Cell := []
  askVolume : List Cell := []
  deriving DecidableEq, Repr

/-- One row of `TICK_ARROW_SCHEMA`. -/
structure Row where
  tradingDay : Option Day := none
  actionDay : Option String := none
  updateTime : Option String := none
  updateMillisec : Option Int := none
  localReceiveTime : Option Int := none
  exchangeId : Option ExchangeId := none
  instrumentId : Option InstrumentId := none
  exchangeInstId : Option String := none
  quotes : List Cell := []
  book : List Cell := []
  deriving DecidableEq, Repr

/-- `_LEVEL_COUNT`. -/
def levelCount : Nat := 5

/-- A book column padded with nulls to its five levels. -/
def bookLevels (source : List Cell) : List Cell :=
  (List.range levelCount).map fun index => source.getD index .null

/-- `_to_row`. -/
def toRow (tick : TickRecord) : Row where
  tradingDay := some tick.tradingDay
  actionDay := some tick.actionDay
  updateTime := some tick.updateTime
  updateMillisec := some tick.updateMillisec
  localReceiveTime := some tick.localReceiveTime
  exchangeId := some tick.exchangeId
  instrumentId := some tick.instrumentId
  exchangeInstId := tick.exchangeInstId
  quotes := tick.quotes
  book := bookLevels tick.bidPrice ++ bookLevels tick.bidVolume ++ bookLevels tick.askPrice ++
    bookLevels tick.askVolume

/-- Tuples compare lexicographically, as Python's do. -/
abbrev TimeKey := String ×ₗ String ×ₗ Int

/-- `_time_key`: a missing part counts as empty, a missing millisecond as zero. -/
def timeKey (row : Row) : TimeKey :=
  toLex (row.actionDay.getD "", toLex (row.updateTime.getD "", row.updateMillisec.getD 0))

/-- `int(row["local_receive_time"] or 0)`. -/
def receiveTime (row : Row) : Int := row.localReceiveTime.getD 0

/-- `_dedup_sort`. -/
def dedupSort (rows : List Row) : List Row := LatestWins.dedupSort timeKey receiveTime rows

/-- A row with the time key of `row` and a receive time at least as large is among `held`. -/
abbrev Covers (held : List Row) (row : Row) : Prop := LatestWins.Covers timeKey receiveTime held row

/-- What a final file holds after a batch: the rows it held (if they are merged)
and the new ones, newest wins. -/
def mergeRows (existing incoming : List Row) : List Row := dedupSort (existing ++ incoming)

variable {existing incoming : List Row} {row : Row}

theorem covers_mergeRows_left (covered : Covers existing row) :
    Covers (mergeRows existing incoming) row :=
  LatestWins.covers_dedupSort (covered.mono fun _ mem => List.mem_append_left incoming mem)

theorem covers_mergeRows_right (covered : Covers incoming row) :
    Covers (mergeRows existing incoming) row :=
  LatestWins.covers_dedupSort (covered.mono fun _ mem => List.mem_append_right existing mem)

theorem mergeRows_eq_nil (empty : mergeRows existing incoming = []) :
    existing = [] ∧ incoming = [] := by
  have none_held : ∀ row, ¬ Covers (mergeRows existing incoming) row := by
    rintro row ⟨kept, mem, _⟩
    rw [empty] at mem
    exact List.not_mem_nil mem
  refine ⟨List.eq_nil_iff_forall_not_mem.mpr fun row mem => ?_,
    List.eq_nil_iff_forall_not_mem.mpr fun row mem => ?_⟩
  · exact none_held row (covers_mergeRows_left (LatestWins.covers_of_mem mem))
  · exact none_held row (covers_mergeRows_right (LatestWins.covers_of_mem mem))

/-! ## Trading sessions

The session windows of `collector/schedule.py`, as far as the sink uses them: a snapshot
whose exchange time lies in no session, and not in the five minutes before one opens, is
not market data. -/

open Python

/-- One continuous trading window, in minutes of the day. -/
structure Session where
  startMinute : Nat
  endMinute : Nat
  crossesMidnight : Bool := false
  deriving DecidableEq, Repr

/-- `TRADING_SESSIONS`: 09:00-10:15, 10:30-11:30, 13:00-15:15 and 21:00-02:30. -/
def tradingSessions : List Session :=
  [⟨9 * 60, 10 * 60 + 15, false⟩, ⟨10 * 60 + 30, 11 * 60 + 30, false⟩,
    ⟨13 * 60, 15 * 60 + 15, false⟩, ⟨21 * 60, 2 * 60 + 30, true⟩]

/-- `_in_session`, at a second of the day. -/
def inSession (second : Nat) (session : Session) : Bool :=
  let first := session.startMinute * 60
  let last := session.endMinute * 60
  if session.crossesMidnight then second ≥ first || second ≤ last
  else first ≤ second && second ≤ last

/-- `session_index`. -/
def sessionIndex (second : Nat) : Option Nat := tradingSessions.findIdx? (inSession second)

/-- `_OPEN_AUCTION_LEAD`, in seconds. -/
def openAuctionLead : Nat := 5 * 60

/-- `is_quote_window`.  Only the time of day matters, so adding the lead wraps at midnight. -/
def isQuoteWindow (moment : Moment) : Bool :=
  (sessionIndex moment.secondOfDay).isSome ||
    (sessionIndex ((moment.secondOfDay + openAuctionLead) % 86400)).isSome

/-- `_outside_session`: a time that cannot be read is kept. -/
def outsideSession (tick : TickRecord) : Bool :=
  match strptime (tick.actionDay ++ " " ++ tick.updateTime) with
  | some moment => !isQuoteWindow moment
  | none => false

end BtApiCtp.Collector
