/-
# Python.Json -- `json.dumps`

The text of a tree with `separators=(",", ":")`, `sort_keys=True` and `ensure_ascii=False`.
A `float` is given by its `repr`; an `int` of more than 4300 digits has no text
(`ValueError`).
-/
import Mathlib.Data.List.Sort
import Mathlib.Data.String.Basic

namespace BtApiCtp.Python

inductive Json where
  | null
  | bool (value : Bool)
  | int (value : Int)
  | float (text : String)
  | str (text : String)
  | array (items : List Json)
  | object (members : List (String × Json))

/-- `repr` of an `int`, within the interpreter's limit on digits. -/
def intText (n : Int) : Option String :=
  if n.natAbs < 10 ^ 4300 then some (toString n) else none

/-- `sorted`, by key. -/
def sortByKey {α : Type} (members : List (String × α)) : List (String × α) :=
  members.insertionSort fun a b => a.1 ≤ b.1

namespace Json

def hexDigit (n : Nat) : Char := "0123456789abcdef".toList.getD n '0'

/-- A character inside a string. -/
def escape (c : Char) : List Char :=
  if c = '"' then ['\\', '"']
  else if c = '\\' then ['\\', '\\']
  else if c = '\n' then ['\\', 'n']
  else if c = '\r' then ['\\', 'r']
  else if c = '\t' then ['\\', 't']
  else if c = '\x08' then ['\\', 'b']
  else if c = '\x0c' then ['\\', 'f']
  else if c.toNat < 0x20 then
    ['\\', 'u', '0', '0', hexDigit (c.toNat / 16), hexDigit (c.toNat % 16)]
  else [c]

def quote (text : String) : String :=
  "\"" ++ String.ofList (text.toList.flatMap escape) ++ "\""

mutual

/-- `json.dumps`. -/
def dumps : Json → Option String
  | .null => some "null"
  | .bool value => some (if value then "true" else "false")
  | .int value => intText value
  | .float text => some text
  | .str text => some (quote text)
  | .array items => (dumpsItems items).map fun texts => "[" ++ ",".intercalate texts ++ "]"
  | .object members =>
    (dumpsMembers members).map fun texts =>
      "\x7b" ++ ",".intercalate ((sortByKey texts).map fun member => quote member.1 ++ ":" ++ member.2)
        ++ "\x7d"

def dumpsItems : List Json → Option (List String)
  | [] => some []
  | item :: items => do
    let text ← dumps item
    let texts ← dumpsItems items
    return text :: texts

def dumpsMembers : List (String × Json) → Option (List (String × String))
  | [] => some []
  | (key, item) :: members => do
    let text ← dumps item
    let texts ← dumpsMembers members
    return (key, text) :: texts

end

end Json

end BtApiCtp.Python
