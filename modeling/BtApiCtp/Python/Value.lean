/-
# Python.Value -- the values that untyped code looks at

Values with the types that `type(...)` and `isinstance(...)` tell apart, equality as `==`
decides it, and dictionaries as lists of entries in insertion order.  A `float` comes with
its exact value, with the decimal that its `repr` reads and with that text; nothing else
about it is used.  A signaling NaN is unequal to everything here; in Python the comparison
raises `InvalidOperation`.
-/
import BtApiCtp.Python.Text
import Mathlib.Data.Rat.Defs

namespace BtApiCtp.Python

variable {name other text : String}

/-- A number as `Decimal` and `float` have it. -/
inductive Number where
  | finite (value : ℚ)
  | infinite (negative : Bool)
  | nan
  deriving DecidableEq, Repr

/-- The key of a mapping: a string, or anything else that can be one. -/
inductive Key where
  | str (text : String)
  | other (description : String)
  deriving DecidableEq, Repr

/-- A `datetime`: microseconds on its own clock since the beginning of year 1, and how far
that clock is ahead of UTC (`none` without a time zone). -/
structure Datetime where
  wall : Int
  offset : Option Int
  deriving DecidableEq, Repr

inductive Value where
  | none
  | bool (value : Bool)
  | int (value : Int)
  | float (value : Number) (shortest : ℚ) (text : String)
  | decimal (value : Number) (text : String)
  | str (text : String)
  | datetime (moment : Datetime)
  | list (items : List Value)
  | tuple (items : List Value)
  /-- A `Mapping`, with the name of its class. -/
  | mapping (kind : String) (entries : List (Key × Value))
  /-- Any other object, with the attributes that `getattr` finds. -/
  | object (identity : Nat) (attributes : List (Key × Value))

/-- The fields of a dictionary whose keys are strings. -/
abbrev Fields := List (String × Value)

variable {value : Value} {fields : Fields}

namespace Fields

/-- `d.get(name, MISSING)`. -/
def get (fields : Fields) (name : String) : Option Value := fields.lookup name

/-- `d[name] = value`. -/
def set (fields : Fields) (name : String) (value : Value) : Fields :=
  if (fields.lookup name).isSome then
    fields.map fun entry => if entry.1 = name then (name, value) else entry
  else fields ++ [(name, value)]

/-- `d.pop(name, None)`. -/
def pop (fields : Fields) (name : String) : Fields := fields.filter fun entry => entry.1 ≠ name

theorem get_pop_of_ne (apart : name ≠ other) : (fields.pop other).get name = fields.get name := by
  induction fields with
  | nil => rfl
  | cons entry fields ih =>
    obtain ⟨key, value⟩ := entry
    simp only [pop, get, List.filter_cons, List.lookup_cons] at ih ⊢
    split
    · rw [List.lookup_cons, ih]
    · rename_i removed
      have other : key = other := by simpa using removed
      rw [ih, beq_false_of_ne (other ▸ apart)]

theorem get_set_of_ne (apart : name ≠ other) :
    (fields.set other value).get name = fields.get name := by
  have missed : (name == other) = false := beq_false_of_ne apart
  unfold set
  split
  · clear * - missed
    induction fields with
    | nil => rfl
    | cons entry fields ih =>
      obtain ⟨key, item⟩ := entry
      simp only [get, List.map_cons] at ih ⊢
      split
      · rename_i same
        simp only [List.lookup_cons, missed, show key = other from same, ih]
      · simp only [List.lookup_cons, ih]
  · simp only [get, List.lookup_append, List.lookup_cons, missed, List.lookup_nil, Option.or_none]

/-- The dictionary as a value. -/
def toValue (fields : Fields) : Value :=
  .mapping "dict" (fields.map fun entry => (.str entry.1, entry.2))

end Fields

variable {p q : Value → Bool}

namespace Value

/-- `mapping.get(name, MISSING)`, for a string. -/
def field (entries : List (Key × Value)) (name : String) : Option Value :=
  entries.lookup (.str name)

/-- `isinstance(value, Mapping)`. -/
def isMapping : Value → Bool
  | .mapping _ _ => true
  | _ => false

/-- The number a value stands for in a comparison. -/
def number : Value → Option Number
  | .bool value => some (.finite (if value then 1 else 0))
  | .int value => some (.finite value)
  | .float value _ _ => some value
  | .decimal value _ => some value
  | _ => Option.none

def numberEq : Number → Number → Bool
  | .nan, _ => false
  | _, .nan => false
  | x, y => x = y

/-- Two moments are equal if both know their time zone and are the same instant, or neither
does and they read the same. -/
def datetimeEq (x y : Datetime) : Bool :=
  match x.offset, y.offset with
  | some dx, some dy => x.wall - dx = y.wall - dy
  | Option.none, Option.none => x.wall = y.wall
  | _, _ => false

mutual

/-- `x == y`. -/
def eq : Value → Value → Bool
  | .none, .none => true
  | .str x, .str y => x = y
  | .datetime x, .datetime y => datetimeEq x y
  | .list xs, .list ys => listEq xs ys
  | .tuple xs, .tuple ys => listEq xs ys
  | .mapping _ xs, .mapping _ ys => xs.length = ys.length && entriesEq xs ys
  | .object x _, .object y _ => x = y
  | x, y =>
    match x.number, y.number with
    | some p, some q => numberEq p q
    | _, _ => false

def listEq : List Value → List Value → Bool
  | [], [] => true
  | x :: xs, y :: ys => eq x y && listEq xs ys
  | _, _ => false

/-- Every entry has its like among the others. -/
def entriesEq : List (Key × Value) → List (Key × Value) → Bool
  | [], _ => true
  | (key, x) :: xs, ys =>
    (match ys.lookup key with
      | some y => eq x y
      | Option.none => false) && entriesEq xs ys

end

mutual

/-- Whether `hash(value)` works, as a set needs it; of a NaN, which is signaling if its text has
an `s`, it does not. -/
def hashable : Value → Bool
  | .list _ => false
  | .mapping _ _ => false
  | .decimal .nan text => !text.toList.contains 's'
  | .tuple items => allHashable items
  | _ => true

def allHashable : List Value → Bool
  | [] => true
  | item :: items => hashable item && allHashable items

end

mutual

/-- A property of the value and of everything inside it. -/
def everywhere (p : Value → Bool) : Value → Bool
  | .list items => p (.list items) && everyItem p items
  | .tuple items => p (.tuple items) && everyItem p items
  | .mapping kind entries => p (.mapping kind entries) && everyEntry p entries
  | .object identity attributes => p (.object identity attributes) && everyEntry p attributes
  | value => p value

def everyItem (p : Value → Bool) : List Value → Bool
  | [] => true
  | item :: items => everywhere p item && everyItem p items

def everyEntry (p : Value → Bool) : List (Key × Value) → Bool
  | [] => true
  | (_, item) :: entries => everywhere p item && everyEntry p entries

end

theorem everyItem_iff {items : List Value} :
    everyItem p items = true ↔ ∀ item ∈ items, everywhere p item = true := by
  induction items with
  | nil => simp [everyItem]
  | cons item items ih => simp [everyItem, ih]

theorem everyEntry_iff {entries : List (Key × Value)} :
    everyEntry p entries = true ↔ ∀ entry ∈ entries, everywhere p entry.2 = true := by
  induction entries with
  | nil => simp [everyEntry]
  | cons entry entries ih => simp [everyEntry, ih]

/-- `value in (x, y, ...)`. -/
def isIn (value : Value) (choices : List Value) : Bool := choices.any fun choice => eq choice value

/-- `value == "..."`. -/
def isText (value : Value) (text : String) : Bool := eq value (.str text)

theorem eq_str_iff : eq (.str text) value = true ↔ value = .str text := by
  cases value <;> simp [eq, number, eq_comm]

end Value

end BtApiCtp.Python
