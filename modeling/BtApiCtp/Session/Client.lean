/-
# Session.Client -- what orders and queries share of the client

`_rsp_error` of `ctp/client.py`, which reads the response information of a callback, and
`canonical_ctp_instrument` of `execution_instrument.py`.
-/
import BtApiCtp.Python.Text

namespace BtApiCtp.Session

open Python

/-! ## Response information -/

/-- `CThostFtdcRspInfoField`: what `int(ErrorID or 0)` comes to (`none` for `TypeError` and
`ValueError`), and the message. -/
structure RspInfo where
  errorId : Option Int
  errorMsg : String := ""
  deriving DecidableEq, Repr

/-- `_rsp_error`. -/
def rspError : Option RspInfo → Option Int × String
  | none => (none, "")
  | some info => (some (info.errorId.getD (-1)), info.errorMsg)

/-- The error code, if it is `not in (None, 0)`. -/
def errorOf (info : Option RspInfo) : Option Int := (rspError info).1.filter (· ≠ 0)

theorem errorOf_ne_zero {info : Option RspInfo} : errorOf info ≠ some 0 := by
  simp [errorOf, Option.filter_eq_some_iff]

/-! ## Canonical instruments -/

/-- What the client uses of the interpreter. -/
structure Host where
  upper : String → String

def ctpExchanges : List String := ["CFFEX", "CZCE", "DCE", "GFEX", "INE", "SHFE"]

/-- `_canonical_ctp_exchange`. -/
def canonicalCtpExchange (host : Host) (value : String) : String :=
  let exchange := host.upper (strip value)
  let exchange := if exchange = "ZCE" then "CZCE" else exchange
  if exchange ∈ ctpExchanges then exchange else ""

/-- The exchange and the instrument of a text with at most one dot, the exchange on either
side of it; a bare instrument takes the exchange that was supplied. -/
def splitInstrument (host : Host) (text : String) (exchangeId : Option String) :
    Option (String × String) :=
  let supplied := canonicalCtpExchange host (exchangeId.getD "")
  if text = "" ∨ (exchangeId.getD "" ≠ "" ∧ supplied = "") then none
  else
    match text.toList.splitOn '.' with
    | [_] => if supplied = "" then none else some (supplied, text)
    | [first, last] =>
      let firstExchange := canonicalCtpExchange host (String.ofList first)
      let lastExchange := canonicalCtpExchange host (String.ofList last)
      if (firstExchange = "") = (lastExchange = "") then none
      else
        let found :=
          if firstExchange = "" then (lastExchange, String.ofList first)
          else (firstExchange, String.ofList last)
        if supplied ≠ "" ∧ supplied ≠ found.1 then none else some found
    | _ => none

def isUpperLetter (c : Char) : Bool := decide ('A' ≤ c) && decide (c ≤ 'Z')

def isAsciiDigit (c : Char) : Bool := decide ('0' ≤ c) && decide (c ≤ '9')

def isLowerHex (c : Char) : Bool := isAsciiDigit c || (decide ('a' ≤ c) && decide (c ≤ 'f'))

/-- `canonical_ctp_instrument`; the empty text for anything that is not one contract. -/
def canonicalCtpInstrument (host : Host) (value : String) (exchangeId : Option String) : String :=
  match splitInstrument host (host.upper (strip value)) exchangeId with
  | none => ""
  | some (exchange, instrument) =>
    let letters := instrument.toList.takeWhile isUpperLetter
    let digits := instrument.toList.dropWhile isUpperLetter
    if 1 ≤ letters.length ∧ letters.length ≤ 3 ∧ 3 ≤ digits.length ∧ digits.length ≤ 4 ∧
        digits.all isAsciiDigit = true then
      -- CZCE has one digit for the year
      let digits := if exchange = "CZCE" ∧ digits.length = 4 then digits.drop 1 else digits
      exchange ++ "." ++ String.ofList (letters ++ digits)
    else ""

end BtApiCtp.Session
