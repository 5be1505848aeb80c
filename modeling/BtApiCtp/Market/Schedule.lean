/-
# Market.Schedule -- trading windows of futures products

`trading_session_schedule.py`: the windows of one trading day (`_windows_for_trading_day`),
those that overlap an interval (`windows`), and the state at an instant (`session_state`).

Days are counted from 1 January of year 1, times of day in minutes, instants in microseconds
of UTC; China time is eight hours ahead.  The trading days of an exchange are a list, as
`_trading_days` gives it.  `TradingWindow.contains` is not part of the repository and is a
parameter of `session_state`.

* `windows_eq_overlapping_iff`: `windows` gives the overlapping windows of all trading days
  exactly when none of them belongs to a trading day later than the day after the end.
* `windows_apart`: no two windows have an instant in common.
* `friday_night_missing`: the night session of a Monday is held on Friday.
-/
import BtApiCtp.Python.Clock
import BtApiCtp.Theory.Fallible
import Mathlib.Data.List.Sort

namespace BtApiCtp.Market

open Python Theory

variable {days : List Int} {tradingDay : Int} {instrumentId product : String}
  {nightEnd : Option Int} {previous : Int}

/-! ## Products -/

inductive Exchange where
  | shfe | ine | czce | dce
  deriving DecidableEq, Repr

/-- A time of day, in minutes. -/
def clock (hour minute : Int) : Int := hour * 60 + minute

/-- `_PRODUCT_NIGHT_END`: where the night session of a product ends, `none` for a product
that has none. -/
def productNightEnd : List ((Exchange × String) × Option Int) :=
  [((.shfe, "rb"), some (clock 23 0)), ((.shfe, "hc"), some (clock 23 0)),
    ((.shfe, "bu"), some (clock 23 0)), ((.shfe, "ru"), some (clock 23 0)),
    ((.shfe, "fu"), some (clock 23 0)), ((.shfe, "sp"), some (clock 23 0)),
    ((.shfe, "cu"), some (clock 1 0)), ((.shfe, "al"), some (clock 1 0)),
    ((.shfe, "zn"), some (clock 1 0)), ((.shfe, "pb"), some (clock 1 0)),
    ((.shfe, "ni"), some (clock 1 0)), ((.shfe, "sn"), some (clock 1 0)),
    ((.shfe, "ss"), some (clock 1 0)), ((.shfe, "au"), some (clock 2 30)),
    ((.shfe, "ag"), some (clock 2 30)), ((.shfe, "wr"), none), ((.ine, "sc"), some (clock 2 30)),
    ((.czce, "SA"), some (clock 23 0)), ((.czce, "FG"), some (clock 23 0)),
    ((.czce, "MA"), some (clock 23 0)), ((.czce, "TA"), some (clock 23 0)),
    ((.czce, "SR"), some (clock 23 0)), ((.czce, "CF"), some (clock 23 0)),
    ((.czce, "RM"), some (clock 23 0)), ((.czce, "OI"), some (clock 23 0)),
    ((.czce, "AP"), none), ((.czce, "CJ"), none), ((.dce, "i"), some (clock 23 0)),
    ((.dce, "j"), some (clock 23 0)), ((.dce, "jm"), some (clock 23 0)),
    ((.dce, "m"), some (clock 23 0)), ((.dce, "y"), some (clock 23 0)),
    ((.dce, "p"), some (clock 23 0)), ((.dce, "a"), some (clock 23 0)),
    ((.dce, "c"), some (clock 23 0)), ((.dce, "l"), some (clock 23 0)),
    ((.dce, "v"), some (clock 23 0)), ((.dce, "pp"), some (clock 23 0)),
    ((.dce, "eg"), some (clock 23 0)), ((.dce, "jd"), none), ((.dce, "lh"), none)]

def isAsciiLetter (c : Char) : Bool := ('A' ≤ c && c ≤ 'Z') || ('a' ≤ c && c ≤ 'z')

/-- The letters of `^([A-Za-z]+)\d{3,4}$`, which also lets a line feed follow the digits. -/
def productOf (instrumentId : String) : Option String :=
  let text := instrumentId.toList
  let letters := text.takeWhile isAsciiLetter
  let rest := text.drop letters.length
  let digits := if rest.getLast? = some '\n' then rest.dropLast else rest
  if letters ≠ [] ∧ (digits.length = 3 ∨ digits.length = 4) ∧ digits.all isDecimal then
    some (String.ofList letters)
  else none

def productSessionProfile (instrumentId : String) : Option (Exchange × String × Option Int) := do
  let product ← productOf instrumentId
  let row ← productNightEnd.find? fun row => row.1.2 = product
  return (row.1.1, product, row.2)

/-! ## Windows -/

variable {tradingDays : Exchange → List Int} {exchange : Exchange}

inductive WindowKind where
  | auction | continuous
  deriving DecidableEq, Repr

inductive SessionId where
  | dayAm1 | dayAm2 | dayPm | dayAuction | nightAuction | night
  deriving DecidableEq, Repr

structure TradingWindow where
  tradingDay : Int
  kind : WindowKind
  startUtc : Int
  endUtc : Int
  sessionId : SessionId
  deriving DecidableEq, Repr

/-- `_local`: the instant of a time of day in China. -/
def localInstant (day time : Int) : Int := (day * 1440 + time - 480) * 60000000

/-- `astimezone(CHINA_TIME).date()`. -/
def localDate (instant : Int) : Int := (instant + 480 * 60000000) / (1440 * 60000000)

def coverageStart : Int := dayNumber 2026 1 1

def coverageEnd : Int := dayNumber 2026 12 31

/-- `_DAY_SESSIONS`. -/
def daySessions : List (SessionId × Int × Int) :=
  [(.dayAm1, clock 9 0, clock 10 15), (.dayAm2, clock 10 30, clock 11 30),
    (.dayPm, clock 13 30, clock 15 0)]

def nightStart : Int := clock 21 0

/-- `_Coverage`, and the `ValueError` of `days.index`. -/
inductive ScheduleError where
  | coverage | notListed
  deriving DecidableEq, Repr

/-- The days from `gapStart` up to a trading day. -/
def gapDays (gapStart tradingDay : Int) : List Int :=
  (List.range (tradingDay - gapStart).toNat).map fun i : Nat => gapStart + (i : Int)

/-- The trading day on whose evening the night session of `tradingDay` is held, if it is: all
days between the two are weekend days. -/
def nightEve (days : List Int) (tradingDay : Int) : Except ScheduleError (Option Int) :=
  match days.idxOf? tradingDay with
  | none => .error .notListed
  | some index =>
    match (days.take index).getLast? with
    | none =>
      -- the trading day before is unknown; a holiday shows that there was no night session
      if (gapDays coverageStart tradingDay).any (weekday · < 5) then .ok none
      else .error .coverage
    | some previous =>
      if (gapDays (previous + 1) tradingDay).all (weekday · ≥ 5) then .ok (some previous)
      else .ok none

/-- The auction and the night session on the evening of `previous`. -/
def nightWindows (tradingDay previous nightEnd : Int) : List TradingWindow :=
  let endDay := if nightEnd > nightStart then previous else previous + 1
  [⟨tradingDay, .auction, localInstant previous (clock 20 55), localInstant previous (clock 21 0),
      .nightAuction⟩,
    ⟨tradingDay, .continuous, localInstant previous nightStart, localInstant endDay nightEnd,
      .night⟩]

def dayAuction (tradingDay : Int) : TradingWindow :=
  ⟨tradingDay, .auction, localInstant tradingDay (clock 8 55), localInstant tradingDay (clock 9 0),
    .dayAuction⟩

def dayWindows (tradingDay : Int) : List TradingWindow :=
  daySessions.map fun (sessionId, start, finish) =>
    ⟨tradingDay, .continuous, localInstant tradingDay start, localInstant tradingDay finish,
      sessionId⟩

def windowsForTradingDay (days : List Int) (nightEnd : Option Int) (tradingDay : Int) :
    Except ScheduleError (List TradingWindow) :=
  if coverageStart ≤ tradingDay ∧ tradingDay ≤ coverageEnd then
    match nightEnd with
    | none => .ok (dayAuction tradingDay :: dayWindows tradingDay)
    | some nightEnd => do
      match ← nightEve days tradingDay with
      | some previous =>
        return nightWindows tradingDay previous nightEnd ++ dayWindows tradingDay
      | none => return dayAuction tradingDay :: dayWindows tradingDay
  else .error .coverage

/-- The windows of several trading days. -/
def windowsOf (days : List Int) (nightEnd : Option Int) (candidates : List Int) :
    Except ScheduleError (List TradingWindow) := do
  return (← candidates.mapM (windowsForTradingDay days nightEnd)).flatten

/-- Whether a window overlaps the interval from `startUtc` to `endUtc`. -/
def TradingWindow.overlaps (startUtc endUtc : Int) (w : TradingWindow) : Bool :=
  w.endUtc > startUtc && w.startUtc < endUtc

/-- `sorted(..., key=lambda w: w.start_utc)`. -/
def byStart (windows : List TradingWindow) : List TradingWindow :=
  windows.insertionSort fun v w => v.startUtc ≤ w.startUtc

/-- The trading days `windows` looks at: from the day before the start to the day after the end. -/
def isCandidate (startUtc endUtc day : Int) : Bool :=
  let startLocal := localDate startUtc - 1
  let endLocal := localDate endUtc + 1
  startLocal ≤ day && day ≤ endLocal

def windows (tradingDays : Exchange → List Int) (instrumentId : String) (startUtc endUtc : Int) :
    Except ScheduleError (List TradingWindow) :=
  match productSessionProfile instrumentId with
  | none => .ok []
  | some (exchange, _, nightEnd) =>
    let days := tradingDays exchange
    match windowsOf days nightEnd (days.filter (isCandidate startUtc endUtc)) with
    | .ok result => .ok (byStart (result.filter (TradingWindow.overlaps startUtc endUtc)))
    | .error .coverage => .ok []
    | .error .notListed => .error .notListed

/-! ## The state at an instant -/

variable {w : TradingWindow}

inductive TradingPhase where
  | continuous | auction | closed | unknown
  deriving DecidableEq, Repr

inductive UnknownReason where
  | productSessionUnknown | calendarCoverageUnavailable
  deriving DecidableEq, Repr

structure TradingSessionState where
  instrumentId : String
  atUtc : Int
  phase : TradingPhase
  tradingDay : Option Int
  currentWindow : Option TradingWindow
  nextContinuous : Option TradingWindow
  reason : Option UnknownReason := none
  deriving DecidableEq, Repr

def unknownState (instrumentId : String) (atUtc : Int) (reason : UnknownReason) :
    TradingSessionState :=
  ⟨instrumentId, atUtc, .unknown, none, none, none, some reason⟩

def phaseOf : WindowKind → TradingPhase
  | .continuous => .continuous
  | .auction => .auction

/-- The state once the windows around the instant are known. -/
def stateAmong (contains : TradingWindow → Int → Bool) (instrumentId : String) (atUtc : Int)
    (windows : List TradingWindow) : TradingSessionState :=
  let upcoming := windows.find? fun w => w.kind = .continuous && w.startUtc > atUtc
  match windows.find? (contains · atUtc), upcoming with
  | some current, _ =>
    ⟨instrumentId, atUtc, phaseOf current.kind, some current.tradingDay, some current, upcoming,
      none⟩
  | none, none => unknownState instrumentId atUtc .calendarCoverageUnavailable
  | none, some next =>
    ⟨instrumentId, atUtc, .closed, some next.tradingDay, none, some next, none⟩

def sessionState (tradingDays : Exchange → List Int) (contains : TradingWindow → Int → Bool)
    (instrumentId : String) (atUtc : Int) : Except ScheduleError TradingSessionState :=
  match productSessionProfile instrumentId with
  | none => .ok (unknownState instrumentId atUtc .productSessionUnknown)
  | some (exchange, _, nightEnd) =>
    let localDay := localDate atUtc
    let days := tradingDays exchange
    if ¬ (coverageStart - 1 ≤ localDay ∧ localDay ≤ coverageEnd) then
      .ok (unknownState instrumentId atUtc .calendarCoverageUnavailable)
    else
      match windowsOf days nightEnd
          (days.filter fun day => localDay - 4 ≤ day && day ≤ localDay + 20) with
      | .ok windows => .ok (stateAmong contains instrumentId atUtc (byStart windows))
      | .error .coverage =>
        .ok (unknownState instrumentId atUtc .calendarCoverageUnavailable)
      | .error .notListed => .error .notListed

/-! ## The expected calendar -/

/-- `STATE_COUNCIL_2026_HOLIDAY_RANGES`. -/
def holidayRanges : List (Int × Int) :=
  [(dayNumber 2026 1 1, dayNumber 2026 1 3), (dayNumber 2026 2 15, dayNumber 2026 2 23),
    (dayNumber 2026 4 4, dayNumber 2026 4 6), (dayNumber 2026 5 1, dayNumber 2026 5 5),
    (dayNumber 2026 6 19, dayNumber 2026 6 21), (dayNumber 2026 9 25, dayNumber 2026 9 27),
    (dayNumber 2026 10 1, dayNumber 2026 10 7)]

/-- `expected_trading_days` of 2026, the same for every exchange listed here. -/
def expectedTradingDays (_ : Exchange) : List Int :=
  (gapDays coverageStart (coverageEnd + 1)).filter fun day =>
    weekday day < 5 && !holidayRanges.any fun range => range.1 ≤ day && day ≤ range.2

/-! ## The windows of one trading day -/

/-- The windows of a trading day that are known. -/
def knownWindows (days : List Int) (nightEnd : Option Int) (tradingDay : Int) :
    List TradingWindow :=
  match windowsForTradingDay days nightEnd tradingDay with
  | .ok windows => windows
  | .error _ => []

/-- The calendar covers every listed day. -/
def Covered (days : List Int) (nightEnd : Option Int) : Prop :=
  ∀ day ∈ days, windowsForTradingDay days nightEnd day = .ok (knownWindows days nightEnd day)

instance (days : List Int) (nightEnd : Option Int) : Decidable (Covered days nightEnd) :=
  inferInstanceAs (Decidable (∀ day ∈ days, _))

/-- The earlier days of a sorted list stand before a trading day. -/
theorem mem_take_of_lt {index : Nat} {day : Int} (sorted : days.Pairwise (· ≤ ·))
    (found : days.idxOf? tradingDay = some index) (mem : day ∈ days) (less : day < tradingDay) :
    day ∈ days.take index := by
  obtain ⟨bound, here, _⟩ := List.idxOf?_eq_some_iff.mp found
  obtain ⟨j, inside, rfl⟩ := List.getElem_of_mem mem
  refine List.mem_take_iff_getElem.mpr ⟨j, ?_, rfl⟩
  by_contra later
  rcases Nat.eq_or_lt_of_not_lt (show ¬ j < index by omega) with rfl | later
  · omega
  · have le := List.pairwise_iff_getElem.mp sorted index j bound inside later
    omega

/-- What stands before the first occurrence of a trading day in a sorted list is the last of the
earlier days. -/
theorem last_before {index : Nat} (sorted : days.Pairwise (· ≤ ·))
    (found : days.idxOf? tradingDay = some index)
    (last : (days.take index).getLast? = some previous) :
    previous < tradingDay ∧ ∀ day ∈ days, day < tradingDay → day ≤ previous := by
  obtain ⟨bound, here, first⟩ := List.idxOf?_eq_some_iff.mp found
  have ordered := List.pairwise_iff_getElem.mp sorted
  constructor
  · obtain ⟨j, before, there⟩ := List.mem_take_iff_getElem.mp (List.mem_of_getLast? last)
    have earlier : j < index := by omega
    have le := ordered j index (by omega) bound earlier
    rw [here, there] at le
    exact lt_of_le_of_ne le fun same => first j earlier (there.trans same)
  · intro day mem less
    obtain ⟨rest, taken⟩ := List.getLast?_eq_some_iff.mp last
    have parts := List.pairwise_append.mp (taken ▸ sorted.sublist (List.take_sublist index days))
    rcases List.mem_append.mp (taken ▸ mem_take_of_lt sorted found mem less) with mem | mem
    · exact parts.2.2 day mem previous List.mem_cons_self
    · rw [List.mem_singleton.mp mem]

/-- A night session is held on the evening of the last listed day before. -/
theorem nightEve_last (sorted : days.Pairwise (· ≤ ·))
    (held : nightEve days tradingDay = .ok (some previous)) :
    previous < tradingDay ∧ ∀ day ∈ days, day < tradingDay → day ≤ previous := by
  unfold nightEve at held
  split at held
  · cases held
  · rename_i found
    split at held
    · split at held
      · cases held
      · cases held
    · rename_i last
      split at held
      · cases held
        exact last_before sorted found last
      · cases held

/-- A night session is over at midnight, or before the day session. -/
def EndsAtNight (nightEnd : Int) : Prop :=
  nightEnd ≤ 1440 ∧ (nightEnd ≤ nightStart → nightEnd ≤ clock 9 0)

instance (nightEnd : Int) : Decidable (EndsAtNight nightEnd) :=
  inferInstanceAs (Decidable (_ ∧ _))

theorem endsAtNight
    (listed : productSessionProfile instrumentId = some (exchange, product, nightEnd)) :
    ∀ finish ∈ nightEnd, EndsAtNight finish := by
  have table : ∀ row ∈ productNightEnd, ∀ finish ∈ row.2, EndsAtNight finish := by decide
  unfold productSessionProfile at listed
  simp only [Option.bind_eq_bind, Option.bind_eq_some_iff, Option.pure_def, Option.some.injEq,
    Prod.mk.injEq] at listed
  obtain ⟨_, _, row, found, _, _, rfl⟩ := listed
  exact table row (List.mem_of_find?_eq_some found)

/-- A night session is over before the day session of its trading day. -/
theorem nightEnd_over {finish : Int} (earlier : previous < tradingDay)
    (night : EndsAtNight finish) :
    localInstant (if finish > nightStart then previous else previous + 1) finish ≤
      localInstant tradingDay (clock 9 0) := by
  obtain ⟨midnight, morning⟩ := night
  by_cases late : finish > nightStart
  · simp only [if_pos late, localInstant, clock]
    omega
  · have early := morning (not_lt.mp late)
    simp only [if_neg late, localInstant]
    omega

theorem windowsForTradingDay_cases {ws : List TradingWindow}
    (known : windowsForTradingDay days nightEnd tradingDay = .ok ws) :
    ws = dayAuction tradingDay :: dayWindows tradingDay ∨
      ∃ finish ∈ nightEnd, ∃ previous, nightEve days tradingDay = .ok (some previous) ∧
        ws = nightWindows tradingDay previous finish ++ dayWindows tradingDay := by
  unfold windowsForTradingDay at known
  split at known
  case isFalse => cases known
  cases nightEnd with
  | none => exact .inl (Except.ok.inj known).symm
  | some finish =>
    obtain ⟨eve, held, known⟩ := bind_eq_ok_iff.mp known
    cases eve with
    | none => exact .inl (pure_eq_ok_iff.mp known).symm
    | some previous => exact .inr ⟨finish, rfl, previous, held, (pure_eq_ok_iff.mp known).symm⟩

/-- A window belongs to its trading day, and is over before the next day begins. -/
structure Within (tradingDay : Int) (w : TradingWindow) : Prop where
  day : w.tradingDay = tradingDay
  ends : w.endUtc ≤ localInstant (tradingDay + 1) 0

/-- The windows of a trading day follow one another, before its afternoon is over and after the
evening auction of every earlier trading day has begun. -/
theorem windowsForTradingDay_span {ws : List TradingWindow} (sorted : days.Pairwise (· ≤ ·))
    (night : ∀ finish ∈ nightEnd, EndsAtNight finish)
    (known : windowsForTradingDay days nightEnd tradingDay = .ok ws) :
    ws.Pairwise (fun v w => v.endUtc ≤ w.startUtc) ∧ ∀ w ∈ ws, w.tradingDay = tradingDay ∧
      w.endUtc ≤ localInstant tradingDay (clock 15 0) ∧
      ∀ day ∈ days, day < tradingDay → localInstant day (clock 20 55) ≤ w.startUtc := by
  rcases windowsForTradingDay_cases known with rfl | ⟨finish, listed, previous, held, rfl⟩
  · refine ⟨by simp [dayAuction, dayWindows, daySessions, localInstant, clock], fun w mem => ?_⟩
    simp only [dayWindows, daySessions, List.map_cons, List.map_nil, List.mem_cons,
      List.not_mem_nil, or_false] at mem
    rcases mem with rfl | rfl | rfl | rfl
    all_goals
      refine ⟨rfl, ?_, fun day mem less => ?_⟩
      all_goals
        simp only [dayAuction, localInstant, clock]
        omega
  · obtain ⟨earlier, last⟩ := nightEve_last sorted held
    have past := nightEnd_over earlier (night finish listed)
    simp only [localInstant, clock, nightStart] at past
    constructor
    · simp [nightWindows, dayWindows, daySessions, localInstant, clock, nightStart]
      omega
    · intro w mem
      simp only [nightWindows, dayWindows, daySessions, List.map_cons, List.map_nil,
        List.cons_append, List.nil_append, List.mem_cons, List.not_mem_nil, or_false] at mem
      rcases mem with rfl | rfl | rfl | rfl | rfl
      all_goals
        refine ⟨rfl, ?_, fun day mem less => ?_⟩
        · simp only [localInstant, clock, nightStart]
          omega
        · have le := last day mem less
          simp only [localInstant, clock, nightStart]
          omega

theorem mem_knownWindows (mem : w ∈ knownWindows days nightEnd tradingDay) :
    windowsForTradingDay days nightEnd tradingDay =
      .ok (knownWindows days nightEnd tradingDay) := by
  unfold knownWindows at mem ⊢
  split at mem
  · rename_i known
    exact known
  · cases mem

theorem knownWindows_within (sorted : days.Pairwise (· ≤ ·))
    (night : ∀ finish ∈ nightEnd, EndsAtNight finish)
    (mem : w ∈ knownWindows days nightEnd tradingDay) : Within tradingDay w := by
  obtain ⟨same, ends, _⟩ := (windowsForTradingDay_span sorted night (mem_knownWindows mem)).2 w mem
  refine ⟨same, ends.trans ?_⟩
  simp only [localInstant, clock]
  omega

/-! ## The windows of an interval -/

/-- The windows of all trading days that overlap an interval. -/
def overlapping (days : List Int) (nightEnd : Option Int) (startUtc endUtc : Int) :
    List TradingWindow :=
  (days.flatMap (knownWindows days nightEnd)).filter (TradingWindow.overlaps startUtc endUtc)

theorem windowsOf_eq {candidates : List Int} (covered : Covered days nightEnd)
    (listed : ∀ day ∈ candidates, day ∈ days) :
    windowsOf days nightEnd candidates = .ok (candidates.flatMap (knownWindows days nightEnd)) := by
  have each : candidates.mapM (windowsForTradingDay days nightEnd) =
      .ok (candidates.map (knownWindows days nightEnd)) := by
    refine mapM_eq_ok_iff.mpr (List.forall₂_map_right_iff.mpr (List.forall₂_same.mpr ?_))
    exact fun day mem => covered day (listed day mem)
  rw [windowsOf, each, List.flatMap_def]
  rfl

/-- Leaving out days before is leaving out their windows after. -/
theorem filter_flatMap_filter {α β : Type} {xs : List α} {f : α → List β} {keep : α → Bool}
    {wanted late : β → Bool}
    (agree : ∀ x ∈ xs, ∀ y ∈ f x, wanted y = true → late y = keep x) :
    ((xs.filter keep).flatMap f).filter wanted = ((xs.flatMap f).filter wanted).filter late := by
  induction xs with
  | nil => rfl
  | cons x xs ih =>
    have rest := ih fun y mem => agree y (List.mem_cons_of_mem _ mem)
    have first : ((f x).filter wanted).filter late = ((f x).filter wanted).filter fun _ => keep x :=
      List.filter_congr fun y mem =>
        agree x List.mem_cons_self y (List.mem_filter.mp mem).1 (List.mem_filter.mp mem).2
    rw [List.flatMap_cons, List.filter_append, List.filter_append, first, ← rest]
    cases kept : keep x with
    | true => simp [kept]
    | false => simp [kept]

theorem mem_byStart {ws : List TradingWindow} : w ∈ byStart ws ↔ w ∈ ws :=
  (List.perm_insertionSort _ ws).mem_iff

theorem byStart_pairwise (ws : List TradingWindow) :
    (byStart ws).Pairwise fun v w => v.startUtc ≤ w.startUtc := by
  have : Std.Total fun v w : TradingWindow => v.startUtc ≤ w.startUtc :=
    ⟨fun v w => le_total v.startUtc w.startUtc⟩
  have : IsTrans TradingWindow fun v w => v.startUtc ≤ w.startUtc := ⟨fun _ _ _ => le_trans⟩
  exact List.pairwise_insertionSort _ ws

/-- A window that overlaps an interval belongs to the day the interval starts, or a later one. -/
theorem Within.localDate_le {startUtc endUtc : Int} (within : Within tradingDay w)
    (overlaps : w.overlaps startUtc endUtc = true) : localDate startUtc ≤ tradingDay := by
  have started := within.ends
  simp only [TradingWindow.overlaps, Bool.and_eq_true, decide_eq_true_eq] at overlaps
  simp only [localInstant] at started
  simp only [localDate]
  omega

/-- `windows` keeps what overlaps, apart from the windows of trading days that are too late. -/
theorem windows_eq
    (listed : productSessionProfile instrumentId = some (exchange, product, nightEnd))
    (sorted : (tradingDays exchange).Pairwise (· ≤ ·))
    (covered : Covered (tradingDays exchange) nightEnd) (startUtc endUtc : Int) :
    windows tradingDays instrumentId startUtc endUtc =
      .ok (byStart ((overlapping (tradingDays exchange) nightEnd startUtc endUtc).filter
        fun w => w.tradingDay ≤ localDate endUtc + 1)) := by
  unfold windows
  rw [listed]
  dsimp only
  rw [windowsOf_eq covered fun day mem => (List.mem_filter.mp mem).1]
  refine congrArg (Except.ok ∘ byStart) (filter_flatMap_filter fun day _ w mem overlaps => ?_)
  have within := knownWindows_within sorted (endsAtNight listed) mem
  have before : localDate startUtc - 1 ≤ day := by
    have early := within.localDate_le overlaps
    omega
  simp [isCandidate, within.day, before]

/-- What `session_state` reports as current is a window of a listed day. -/
theorem mem_of_currentWindow {contains : TradingWindow → Int → Bool} {atUtc : Int}
    {state : TradingSessionState}
    (listed : productSessionProfile instrumentId = some (exchange, product, nightEnd))
    (covered : Covered (tradingDays exchange) nightEnd)
    (reported : sessionState tradingDays contains instrumentId atUtc = .ok state)
    (current : state.currentWindow = some w) :
    contains w atUtc = true ∧
      ∃ day ∈ tradingDays exchange, w ∈ knownWindows (tradingDays exchange) nightEnd day := by
  unfold sessionState at reported
  rw [listed] at reported
  dsimp only at reported
  split at reported
  · rw [← Except.ok.inj reported] at current
    cases current
  · rw [windowsOf_eq covered fun day mem => (List.mem_filter.mp mem).1] at reported
    rw [← Except.ok.inj reported] at current
    unfold stateAmong at current
    dsimp only at current
    split at current
    · rename_i found
      cases current
      refine ⟨List.find?_some (p := (contains · atUtc)) found, ?_⟩
      obtain ⟨day, mem, here⟩ :=
        List.mem_flatMap.mp (mem_byStart.mp (List.mem_of_find?_eq_some found))
      exact ⟨day, (List.mem_filter.mp mem).1, here⟩
    · cases current
    · cases current

/-- `TradingWindow.contains` is about the half-open interval from start to end. -/
def HalfOpen (contains : TradingWindow → Int → Bool) : Prop :=
  ∀ w atUtc, contains w atUtc = true → w.startUtc ≤ atUtc ∧ atUtc < w.endUtc

/-- **The windows of an interval.**  For a listed product and any sorted list of trading days
the calendar covers, `windows` is in start order; it is the windows of all trading days that
overlap the interval exactly when no such window belongs to a trading day later than the day
after the interval ends; and a window that `session_state` reports at an instant of the
interval is in it exactly when it belongs to no such trading day. -/
theorem windows_eq_overlapping_iff {tradingDays : Exchange → List Int}
    {instrumentId product : String} {exchange : Exchange} {nightEnd : Option Int}
    (listed : productSessionProfile instrumentId = some (exchange, product, nightEnd))
    (sorted : (tradingDays exchange).Pairwise (· ≤ ·))
    (covered : Covered (tradingDays exchange) nightEnd) (startUtc endUtc : Int) :
    ∃ found, windows tradingDays instrumentId startUtc endUtc = .ok found ∧
      found.Pairwise (fun v w => v.startUtc ≤ w.startUtc) ∧
      (found.Perm (overlapping (tradingDays exchange) nightEnd startUtc endUtc) ↔
        ∀ w ∈ overlapping (tradingDays exchange) nightEnd startUtc endUtc,
          w.tradingDay ≤ localDate endUtc + 1) ∧
      ∀ contains atUtc state w, HalfOpen contains → startUtc ≤ atUtc → atUtc < endUtc →
        sessionState tradingDays contains instrumentId atUtc = .ok state →
        state.currentWindow = some w → (w ∈ found ↔ w.tradingDay ≤ localDate endUtc + 1) := by
  refine ⟨_, windows_eq listed sorted covered startUtc endUtc, byStart_pairwise _, ⟨?_, ?_⟩, ?_⟩
  · intro same w mem
    have kept := mem_byStart.mp (same.mem_iff.mpr mem)
    exact of_decide_eq_true (List.mem_filter.mp kept).2
  · intro early
    rw [List.filter_eq_self.mpr fun w mem => decide_eq_true (early w mem)]
    exact List.perm_insertionSort _ _
  · intro contains atUtc state w halfOpen after before reported current
    obtain ⟨here, day, listed, mem⟩ := mem_of_currentWindow listed covered reported current
    obtain ⟨started, unfinished⟩ := halfOpen w atUtc here
    have overlaps : w.overlaps startUtc endUtc = true := by
      simp only [TradingWindow.overlaps, Bool.and_eq_true, decide_eq_true_eq]
      omega
    rw [mem_byStart, List.mem_filter, decide_eq_true_eq]
    exact and_iff_right (List.mem_filter.mpr ⟨List.mem_flatMap.mpr ⟨day, listed, mem⟩, overlaps⟩)

/-- **The windows are apart.**  For a listed product and any increasing list of trading days,
each window of all their days is over when the next begins; and a trading day has a day auction
if it has no night session, and a night auction, which ends when the session starts, if it has
one. -/
theorem windows_apart {instrumentId product : String} {exchange : Exchange}
    {nightEnd : Option Int} {days : List Int}
    (listed : productSessionProfile instrumentId = some (exchange, product, nightEnd))
    (increasing : days.Pairwise (· < ·)) :
    (days.flatMap (knownWindows days nightEnd)).Pairwise (fun v w => v.endUtc ≤ w.startUtc) ∧
      ∀ day ws, windowsForTradingDay days nightEnd day = .ok ws →
        ((∃ w ∈ ws, w.sessionId = .dayAuction) ↔ ¬ ∃ w ∈ ws, w.sessionId = .night) ∧
        ((∃ w ∈ ws, w.sessionId = .nightAuction) ↔ ∃ w ∈ ws, w.sessionId = .night) ∧
        ∀ v ∈ ws, v.sessionId = .nightAuction → ∀ w ∈ ws, w.sessionId = .night →
          v.endUtc = w.startUtc := by
  have sorted : days.Pairwise (· ≤ ·) := increasing.imp le_of_lt
  have night := endsAtNight listed
  refine ⟨List.pairwise_flatMap.mpr ⟨fun day _ => ?_, ?_⟩, fun day ws known => ?_⟩
  · cases known : windowsForTradingDay days nightEnd day with
    | ok ws => simpa [knownWindows, known] using (windowsForTradingDay_span sorted night known).1
    | error _ => simp [knownWindows, known]
  · refine increasing.imp_of_mem fun {earlier later} listed _ less v before w after => ?_
    have ends := ((windowsForTradingDay_span sorted night (mem_knownWindows before)).2 v before).2.1
    have starts := ((windowsForTradingDay_span sorted night (mem_knownWindows after)).2 w after).2.2
      earlier listed less
    simp only [localInstant, clock] at ends starts
    omega
  · rcases windowsForTradingDay_cases known with rfl | ⟨finish, _, previous, _, rfl⟩
    · simp [dayAuction, dayWindows, daySessions]
    · simp [nightWindows, dayWindows, daySessions, nightStart]

/-- Wednesday to Friday. -/
def threeDays (_ : Exchange) : List Int :=
  [dayNumber 2026 1 7, dayNumber 2026 1 8, dayNumber 2026 1 9]

/-- Thursday, 20:00 to 22:00: the auction and the night session of Friday. -/
theorem windows_thursday :
    ∃ found, windows threeDays "rb2610" (localInstant (dayNumber 2026 1 8) (clock 20 0))
        (localInstant (dayNumber 2026 1 8) (clock 22 0)) = .ok found ∧
      found.Perm (nightWindows (dayNumber 2026 1 9) (dayNumber 2026 1 8) (clock 23 0)) := by
  have listed : productSessionProfile "rb2610" = some (.shfe, "rb", some (clock 23 0)) := by decide
  have sorted : (threeDays .shfe).Pairwise (· ≤ ·) := by decide
  obtain ⟨found, same, _, perm_iff, _⟩ := windows_eq_overlapping_iff listed sorted (by decide)
    (localInstant (dayNumber 2026 1 8) (clock 20 0)) (localInstant (dayNumber 2026 1 8) (clock 22 0))
  exact ⟨found, same, perm_iff.mpr (by decide)⟩

theorem three_days_apart :
    ((threeDays .shfe).flatMap (knownWindows (threeDays .shfe) (some (clock 23 0)))).Pairwise
      (fun v w => v.endUtc ≤ w.startUtc) ∧
    knownWindows (threeDays .shfe) (some (clock 23 0)) (dayNumber 2026 1 9) =
      nightWindows (dayNumber 2026 1 9) (dayNumber 2026 1 8) (clock 23 0) ++
        dayWindows (dayNumber 2026 1 9) := by
  have listed : productSessionProfile "rb2610" = some (.shfe, "rb", some (clock 23 0)) := by decide
  exact ⟨(windows_apart listed (by decide)).1, by decide⟩

/-- Friday, 21:30: `session_state` reports the night session of Monday, and `windows` of the
hour around it has none. -/
theorem friday_night_missing :
    windows expectedTradingDays "rb2610" (localInstant (dayNumber 2026 1 9) (clock 21 0))
        (localInstant (dayNumber 2026 1 9) (clock 22 0)) = .ok [] ∧
      (sessionState expectedTradingDays (fun w atUtc => w.startUtc ≤ atUtc && atUtc < w.endUtc)
        "rb2610" (localInstant (dayNumber 2026 1 9) (clock 21 30))).map (·.currentWindow) =
        .ok (some ⟨dayNumber 2026 1 12, .continuous,
          localInstant (dayNumber 2026 1 9) (clock 21 0),
          localInstant (dayNumber 2026 1 9) (clock 23 0), .night⟩) := by
  decide +kernel

end BtApiCtp.Market
