/-
# Python.Datetime -- `datetime.strptime` for one format

`strptime(text, "%Y%m%d %H:%M:%S")`.  Python compiles the format to a regular expression,
takes its first match in backtracking order, and raises `ValueError` when no match exists,
when text is left over, or when the fields are no date.  Each directive is a list of
alternatives in the order of the expression, and a match is the first of the list of
successes.
-/
import BtApiCtp.Python.Text

namespace BtApiCtp.Python

/-- A `datetime` without time zone, to the second. -/
structure Moment where
  year : Nat
  month : Nat
  day : Nat
  hour : Nat
  minute : Nat
  second : Nat
  deriving DecidableEq, Repr

/-! ## Calendar -/

def isLeap (year : Nat) : Bool := year % 4 == 0 && (year % 100 != 0 || year % 400 == 0)

def daysInMonth (year month : Nat) : Nat :=
  if month = 2 then (if isLeap year then 29 else 28)
  else if month = 4 ∨ month = 6 ∨ month = 9 ∨ month = 11 then 30 else 31

/-- The fields `datetime(...)` accepts. -/
def Moment.isValid (moment : Moment) : Bool :=
  1 ≤ moment.year && moment.year ≤ 9999 && 1 ≤ moment.month && moment.month ≤ 12 &&
    1 ≤ moment.day && moment.day ≤ daysInMonth moment.year moment.month &&
    moment.hour ≤ 23 && moment.minute ≤ 59 && moment.second ≤ 59

/-- Seconds since midnight. -/
def Moment.secondOfDay (moment : Moment) : Nat :=
  moment.hour * 3600 + moment.minute * 60 + moment.second

/-! ## Matching -/

/-- A character class. -/
abbrev CharClass := Char → Bool

def between (first last : Char) : CharClass := fun c => first ≤ c && c ≤ last

/-- One alternative: a sequence of classes, and the text it takes. -/
def matchSequence : List CharClass → List Char → Option (List Char × List Char)
  | [], text => some ([], text)
  | _ :: _, [] => none
  | accepts :: classes, c :: text =>
    if accepts c then (matchSequence classes text).map fun (taken, rest) => (c :: taken, rest)
    else none

/-- `int` of the digits taken; a blank before them is skipped. -/
def intValue (taken : List Char) : Nat :=
  taken.foldl (fun value c => (decimalValue c).elim value (value * 10 + ·)) 0

/-- A directive: the value and the rest for each alternative that matches, in order. -/
def directive (alternatives : List (List CharClass)) (text : List Char) : List (Nat × List Char) :=
  (alternatives.filterMap fun classes => matchSequence classes text).map
    fun (taken, rest) => (intValue taken, rest)

/-- `\s+`, longest first. -/
def spaces : List Char → List (List Char)
  | [] => []
  | c :: text => if isSpace c then spaces text ++ [text] else []

def literal (expected : Char) : List Char → List (List Char)
  | [] => []
  | c :: text => if c = expected then [text] else []

def yearDirective := directive [[isDecimal, isDecimal, isDecimal, isDecimal]]

def monthDirective :=
  directive [[(· = '1'), between '0' '2'], [(· = '0'), between '1' '9'], [between '1' '9']]

def dayDirective :=
  directive [[(· = '3'), between '0' '1'], [between '1' '2', isDecimal],
    [(· = '0'), between '1' '9'], [between '1' '9'], [(· = ' '), between '1' '9']]

def hourDirective :=
  directive [[(· = '2'), between '0' '3'], [between '0' '1', isDecimal], [isDecimal]]

def minuteDirective := directive [[between '0' '5', isDecimal], [isDecimal]]

def secondDirective :=
  directive [[(· = '6'), between '0' '1'], [between '0' '5', isDecimal], [isDecimal]]

/-- Every way the expression matches a beginning of the text, in backtracking order. -/
def formatMatches (text : List Char) : List (Moment × List Char) :=
  (yearDirective text).flatMap fun (year, text) =>
    (monthDirective text).flatMap fun (month, text) =>
      (dayDirective text).flatMap fun (day, text) =>
        (spaces text).flatMap fun text =>
          (hourDirective text).flatMap fun (hour, text) =>
            (literal ':' text).flatMap fun text =>
              (minuteDirective text).flatMap fun (minute, text) =>
                (literal ':' text).flatMap fun text =>
                  (secondDirective text).map fun (second, text) =>
                    (⟨year, month, day, hour, minute, second⟩, text)

/-- `datetime.strptime(text, "%Y%m%d %H:%M:%S")`, `none` for `ValueError`. -/
def strptime (text : String) : Option Moment :=
  match (formatMatches text.toList).head? with
  | some (moment, []) => if moment.isValid then some moment else none
  | _ => none

example : strptime "20260105 21:00:00" = some ⟨2026, 1, 5, 21, 0, 0⟩ := by decide

end BtApiCtp.Python
