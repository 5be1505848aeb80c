/-
# Python.Text -- the character classes of Python strings

`isDecimal` is `\d` of a `str` pattern (Unicode category Nd) and `isDigit` is
`str.isdigit`, which adds the digits that are not decimals (superscripts, circled
digits).  The tables are those of Unicode 14, listed by the zero of each run of
ten decimals and by range for the rest.
-/
import Mathlib.Data.String.Basic

namespace BtApiCtp.Python

def decimalZeros : List Nat :=
  [0x30, 0x660, 0x6f0, 0x7c0, 0x966, 0x9e6, 0xa66, 0xae6, 0xb66, 0xbe6, 0xc66, 0xce6, 0xd66,
    0xde6, 0xe50, 0xed0, 0xf20, 0x1040, 0x1090, 0x17e0, 0x1810, 0x1946, 0x19d0, 0x1a80, 0x1a90,
    0x1b50, 0x1bb0, 0x1c40, 0x1c50, 0xa620, 0xa8d0, 0xa900, 0xa9d0, 0xa9f0, 0xaa50, 0xabf0,
    0xff10, 0x104a0, 0x10d30, 0x11066, 0x110f0, 0x11136, 0x111d0, 0x112f0, 0x11450, 0x114d0,
    0x11650, 0x116c0, 0x11730, 0x118e0, 0x11950, 0x11c50, 0x11d50, 0x11da0, 0x16a60, 0x16ac0,
    0x16b50, 0x1d7ce, 0x1d7d8, 0x1d7e2, 0x1d7ec, 0x1d7f6, 0x1e140, 0x1e2f0, 0x1e950, 0x1fbf0]

variable (c : Char) (text : String)

/-- The value of a decimal digit. -/
def decimalValue : Option Nat :=
  (decimalZeros.find? fun first => first ≤ c.toNat && c.toNat < first + 10).map (c.toNat - ·)

def isDecimal : Bool := (decimalValue c).isSome

/-- The digits that are not decimals. -/
def otherDigits : List (Nat × Nat) :=
  [(0xb2, 0xb3), (0xb9, 0xb9), (0x1369, 0x1371), (0x19da, 0x19da), (0x2070, 0x2070),
    (0x2074, 0x2079), (0x2080, 0x2089), (0x2460, 0x2468), (0x2474, 0x247c), (0x2488, 0x2490),
    (0x24ea, 0x24ea), (0x24f5, 0x24fd), (0x24ff, 0x24ff), (0x2776, 0x277e), (0x2780, 0x2788),
    (0x278a, 0x2792), (0x10a40, 0x10a43), (0x10e60, 0x10e68), (0x11052, 0x1105a),
    (0x1f100, 0x1f10a)]

def isDigitChar : Bool :=
  isDecimal c || otherDigits.any fun range => range.1 ≤ c.toNat && c.toNat ≤ range.2

/-- `str.isdigit`. -/
def isDigit : Bool := text.toList != [] && text.toList.all isDigitChar

/-- `re.match(r"^\d\x7b8\x7d$", text)`: a final newline is allowed before `$`. -/
def matchesEightDigits : Bool :=
  let body := text.toList.take 8
  body.length == 8 && body.all isDecimal &&
    (text.toList.drop 8 == [] || text.toList.drop 8 == ['\n'])

/-- `\s` of a `str` pattern, and what `str.strip` removes. -/
def isSpace : Bool :=
  [(0x09, 0x0d), (0x1c, 0x20), (0x85, 0x85), (0xa0, 0xa0), (0x1680, 0x1680), (0x2000, 0x200a),
    (0x2028, 0x2029), (0x202f, 0x202f), (0x205f, 0x205f), (0x3000, 0x3000)].any
      fun range => range.1 ≤ c.toNat && c.toNat ≤ range.2

/-- `str.strip`. -/
def strip : String :=
  String.ofList ((text.toList.dropWhile isSpace).reverse.dropWhile isSpace).reverse

/-- `text.isascii() and text.isdecimal()`. -/
def isAsciiDecimal : Bool :=
  text.toList != [] && text.toList.all fun c => decide ('0' ≤ c) && decide (c ≤ '9')

/-- `text.split(separator, 1)`, if there are two parts. -/
def splitOnce (separator : Char) (text : String) : Option (String × String) :=
  let parts := text.toList.span (· ≠ separator)
  match parts.2 with
  | [] => none
  | _ :: rest => some (String.ofList parts.1, String.ofList rest)

end BtApiCtp.Python
