/-
# Python.Clock -- instants in UTC

Microseconds since the beginning of year 1, as far as `datetime` goes, and their ISO text.
-/
import BtApiCtp.Python.Datetime
import BtApiCtp.Python.Value
import Mathlib.Algebra.GroupWithZero.Nat

namespace BtApiCtp.Python

/-- Microseconds in the years 1 to 9999. -/
def wallLimit : Int := 3652059 * 86400 * 1000000

/-- `astimezone(UTC)`, where `offset` is how far the clock is ahead; `none` for
`OverflowError`. -/
def utcOf (wall offset : Int) : Option Int :=
  let utc := wall - offset
  if 0 ≤ utc ∧ utc < wallLimit then some utc else none

/-- A number of microseconds that UTC has. -/
def InUtc (utc : Int) : Prop := 0 ≤ utc ∧ utc < wallLimit

theorem utcOf_eq_some_iff {wall offset utc : Int} :
    utcOf wall offset = some utc ↔ wall - offset = utc ∧ InUtc utc := by
  simp only [utcOf, InUtc, Option.ite_none_right_eq_some, Option.some.injEq]
  exact ⟨fun ⟨range, same⟩ => ⟨same, same ▸ range⟩, fun ⟨same, range⟩ => ⟨same ▸ range, same⟩⟩

/-- Take a day of the year apart into month and day. -/
def monthDay (year : Nat) : List Nat → Nat → Nat × Nat
  | [], day => (12, day + 1)
  | month :: months, day =>
    if day < daysInMonth year month then (month, day + 1)
    else monthDay year months (day - daysInMonth year month)

/-- Year, month and day of a number of days after 1 January of year 1. -/
def civil (days : Nat) : Nat × Nat × Nat :=
  let cycles := days / 146097
  let rest := days % 146097
  let centuries := rest / 36524
  let rest := rest % 36524
  let fours := rest / 1461
  let rest := rest % 1461
  let years := rest / 365
  let rest := rest % 365
  let year := cycles * 400 + centuries * 100 + fours * 4 + years + 1
  if years = 4 ∨ centuries = 4 then (year - 1, 12, 31)
  else
    let (month, day) := monthDay year [1, 2, 3, 4, 5, 6, 7, 8, 9, 10, 11] rest
    (year, month, day)

/-- Days from 1 January of year 1 to a date. -/
def dayNumber (year month day : Nat) : Int :=
  let years := year - 1
  let months := ((List.range (month - 1)).map fun m => daysInMonth year (m + 1)).sum
  (years * 365 + years / 4 - years / 100 + years / 400 + months + day - 1 : Nat)

/-- `date.weekday()`; 1 January of year 1 is a Monday. -/
def weekday (day : Int) : Int := day % 7

/-- Decimal digits, padded with zeros to a width. -/
def padded (width n : Nat) : String :=
  let digits := toString n
  String.ofList (List.replicate (width - digits.length) '0') ++ digits

/-- `isoformat(timespec="microseconds")` in UTC, with `Z` for the time zone. -/
def isoUtc (utc : Int) : String :=
  let micros := utc.toNat
  let seconds := micros / 1000000
  let (year, month, day) := civil (seconds / 86400)
  padded 4 year ++ "-" ++ padded 2 month ++ "-" ++ padded 2 day ++ "T" ++
    padded 2 (seconds / 3600 % 24) ++ ":" ++ padded 2 (seconds / 60 % 60) ++ ":" ++
    padded 2 (seconds % 60) ++ "." ++ padded 6 (micros % 1000000) ++ "Z"

/-! ## Days -/

/-- `datetime.strptime(text, "%Y%m%d")`: year, month and day, `none` for `ValueError`. -/
def strptimeDay (text : String) : Option (Nat × Nat × Nat) :=
  let found := (yearDirective text.toList).flatMap fun (year, text) =>
    (monthDirective text).flatMap fun (month, text) =>
      (dayDirective text).map fun (day, text) => ((year, month, day), text)
  match found.head? with
  | some ((year, month, day), []) =>
    if Moment.isValid ⟨year, month, day, 0, 0, 0⟩ then some (year, month, day) else none
  | _ => none

/-- `strftime("%Y%m%d")`; whether a year before 1000 is padded depends on the C library. -/
def strftimeDay (padsYears : Bool) (day : Nat × Nat × Nat) : String :=
  (if padsYears then padded 4 day.1 else toString day.1) ++ padded 2 day.2.1 ++ padded 2 day.2.2

end BtApiCtp.Python
