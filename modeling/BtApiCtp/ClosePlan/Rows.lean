/-
# ClosePlan.Rows -- position rows

`_raw_row`, `_validate_typed_fields`, `_parse_row` and `_validate_freeze`: from an untyped
record of the position query to a row with checked identity and quantities.
-/
import BtApiCtp.ClosePlan.Fields

namespace BtApiCtp.ClosePlan

open Theory Python

/-! ## Names -/

def zeroFreezeFields : List String :=
  ["LongFrozen", "ShortFrozen", "CombLongFrozen", "CombShortFrozen", "StrikeFrozen",
    "AbandonFrozen", "YdStrikeFrozen", "CombPosition"]

def identityFields : List String :=
  ["InstrumentID", "ExchangeID", "PosiDirection", "HedgeFlag", "PositionDate", "TradingDay"]

def quantityFields : List String := ["Position", "TodayPosition", "YdPosition"]

def requiredRowFields : List String := identityFields ++ quantityFields ++ zeroFreezeFields

def splitExchanges : List String := ["SHFE", "INE"]

def genericExchanges : List String := ["CZCE", "DCE"]

def knownExchanges : List String := splitExchanges ++ genericExchanges

/-- The fields that are compared as numbers. -/
def numericNames : List String :=
  quantityFields ++ zeroFreezeFields ++
    ["LongFrozenAmount", "ShortFrozenAmount", "StrikeFrozenAmount", "FrozenMargin", "FrozenCash",
      "FrozenCommission"]

/-- `PosiDirection`: what is held. -/
inductive PosiDirection where
  | long
  | short
  deriving DecidableEq, Repr

def PosiDirection.text : PosiDirection → String
  | .long => "2"
  | .short => "3"

def PosiDirection.ofText : String → Option PosiDirection
  | "2" => some .long
  | "3" => some .short
  | _ => none

/-- `PositionDate`: lots of today or older ones. -/
inductive PositionDate where
  | today
  | history
  deriving DecidableEq, Repr

def PositionDate.text : PositionDate → String
  | .today => "1"
  | .history => "2"

def PositionDate.ofText : String → Option PositionDate
  | "1" => some .today
  | "2" => some .history
  | _ => none

/-! ## Raw and typed fields -/

/-- `_raw_row`: the frozen raw record, and the typed fields if there are any. -/
def rawRow (row : Value) : Calc (Fields × Option (List (Key × Value))) := do
  let fields ← read row ["fields"]
  let raw := (← read row ["raw_record"]).getD row
  match raw with
  | .mapping _ entries => do
    let snap ← snapshotEntries entries
    match fields with
    | none => return (snap, none)
    | some .none => return (snap, none)
    | some (.mapping _ typed) => return (snap, some typed)
    | some _ => fail "O3B_POSITION_ROW_INVALID" "fields must be a mapping"
  | _ => fail "O3B_REQUIRED_FIELD_MISSING" "raw position record"

def isTrue : Option Value → Bool
  | some (.bool true) => true
  | _ => false

def isFalse : Option Value → Bool
  | some (.bool false) => true
  | _ => false

/-- `value == "..."`, where the field may be missing. -/
def isTextOf (value : Option Value) (text : String) : Bool :=
  match value with
  | some item => item.isText text
  | none => false

/-- `_validate_field_state`. -/
def validateFieldState (fields : List (Key × Value)) (name : String) : Calc Unit := do
  match Value.field fields name with
  | none => fail "O3B_REQUIRED_FIELD_MISSING" name
  | some field => do
    let present ← read field ["present"]
    let state ← read field ["state"]
    if isTrue present && isTextOf state "value" then return ()
    else if isFalse present || isTextOf state "missing" then
      fail "O3B_REQUIRED_FIELD_MISSING" name
    else fail "O3B_POSITION_ROW_INVALID" (name ++ " is not a known value")

/-- `Decimal(str(value))`, for the four types that are let in. -/
def decimalOf (platform : Platform) : Value → Option Number
  | .int value => (intText value).map fun _ => .finite value
  | .float (.finite _) shortest _ => some (.finite shortest)
  | .float value _ _ => some value
  | .decimal value _ => some value
  | .str text => platform.decimalOfText text
  | _ => none

/-- `type(x) is type(y)`; of two other objects, only the same object is ever equal. -/
def sameType : Value → Value → Bool
  | .none, .none => true
  | .bool _, .bool _ => true
  | .int _, .int _ => true
  | .float _ _ _, .float _ _ _ => true
  | .decimal _ _, .decimal _ _ => true
  | .str _, .str _ => true
  | .datetime _, .datetime _ => true
  | .list _, .list _ => true
  | .tuple _, .tuple _ => true
  | .mapping kind _, .mapping kind' _ => kind = kind'
  | .object _ _, .object _ _ => true
  | _, _ => false

/-- `_scalar_matches_raw`. -/
def scalarMatchesRaw (platform : Platform) (raw typed : Value) (numeric : Bool) : Bool :=
  match raw, typed with
  | .bool _, _ => false
  | _, .bool _ => false
  | raw, typed =>
    if numeric then
      match decimalOf platform raw, decimalOf platform typed with
      | some (.finite x), some (.finite y) => x = y
      | _, _ => false
    else sameType raw typed && Value.eq raw typed

/-- One round of `_validate_typed_fields`. -/
def validateTypedField (platform : Platform) (raw : Fields) (entry : Key × Value) : Calc Unit := do
  match entry.1 with
  | .other _ => fail "O3B_POSITION_ROW_INVALID" "typed field names must be strings"
  | .str key => do
    let field := entry.2
    let fieldName ← read field ["name"]
    check (isTextOf fieldName key) "O3B_POSITION_ROW_INVALID"
      ("typed field name mismatch: " ++ key)
    let present ← read field ["present"]
    let state ← read field ["state"]
    check (isTrue present || isFalse present) "O3B_POSITION_ROW_INVALID"
      ("invalid typed field state: " ++ key)
    -- a state that cannot be hashed is a `TypeError` of the set it is looked up in
    let known ← (state.map fun item => isMember item ["value", "missing", "unknown"]).getD
      (.ok false)
    check known "O3B_POSITION_ROW_INVALID" ("invalid typed field state: " ++ key)
    check (isTrue present == (raw.get key).isSome) "O3B_POSITION_ROW_INVALID"
      ("typed presence differs from raw: " ++ key)
    match raw.get key with
    | none =>
      check (isTextOf state "missing") "O3B_POSITION_ROW_INVALID"
        ("missing raw field is not missing: " ++ key)
    | some rawItem => do
      check (isTextOf state "value") "O3B_POSITION_ROW_INVALID"
        ("raw field is not typed as value: " ++ key)
      match ← read field ["raw_value"], ← read field ["value"] with
      | some rawValue, some typedValue => do
        check (scalarMatchesRaw platform rawItem rawValue (numericNames.contains key))
          "O3B_POSITION_ROW_INVALID" ("typed raw value differs: " ++ key)
        check (scalarMatchesRaw platform rawItem typedValue (numericNames.contains key))
          "O3B_POSITION_ROW_INVALID" ("typed value differs: " ++ key)
      | _, _ => fail "O3B_POSITION_ROW_INVALID" ("typed value is incomplete: " ++ key)

/-! ## Rows -/

/-- `_PositionRow`: a row of one trading day.  Only the quantities of its raw record and the
account it names there are read again. -/
structure PositionRow (tradingDay : String) where
  raw : Fields
  instrument : String
  exchange : String
  direction : PosiDirection
  hedge : String
  positionDate : PositionDate
  position : Nat
  todayPosition : Nat
  ydPosition : Nat
  today_le_position : todayPosition ≤ position

variable {tradingDay : String}

/-- What tells native rows apart. -/
def PositionRow.identity (row : PositionRow tradingDay) :
    String × String × PosiDirection × String × PositionDate × String :=
  (row.instrument, row.exchange, row.direction, row.hedge, row.positionDate, tradingDay)

/-- `source_row_keys`. -/
def PositionRow.sourceRowKeys (row : PositionRow tradingDay) : List (String × String) :=
  [("InstrumentID", row.instrument), ("ExchangeID", row.exchange),
    ("PosiDirection", row.direction.text), ("HedgeFlag", row.hedge),
    ("PositionDate", row.positionDate.text), ("TradingDay", tradingDay)]

/-- A quantity of the raw record. -/
def PositionRow.quantity (row : PositionRow tradingDay) (name : String) : Int :=
  match row.raw.get name with
  | some (.int value) => value
  | _ => 0

/-- A nonnegative `int` of the raw record. -/
def rowQuantity (raw : Fields) (name : String) : Calc Nat :=
  match raw.get name with
  | some (.int (.ofNat value)) => .ok value
  | _ => fail "O3B_POSITION_ROW_INVALID" (name ++ " requires an exact nonnegative integer")

/-- A required field is there, and in a known state if it is typed. -/
def requireField (raw : Fields) (fields : Option (List (Key × Value))) (name : String) :
    Calc Unit := do
  check (raw.get name).isSome "O3B_REQUIRED_FIELD_MISSING" name
  match fields with
  | none => return ()
  | some typed =>
    if name != "CombPosition" || (Value.field typed name).isSome then
      validateFieldState typed name
    else return ()

/-- An account field of the row. -/
def requireAccountField (raw : Fields) (name : String) : Calc Unit := do
  check (raw.get name).isSome "O3B_REQUIRED_FIELD_MISSING" name
  let _ ← strictText (raw.get name) name
  return ()

/-- A code that must be one of those known. -/
def known {α : Type} (found : Option α) (message : String) : Calc α :=
  match found with
  | some value => .ok value
  | none => fail "O3B_POSITION_ROW_INVALID" message

/-- `_parse_row`; the planner passes no list of supported exchanges. -/
def parseRow (platform : Platform) (row : Value) (tradingDay : String) :
    Calc (PositionRow tradingDay) := do
  let (raw, fields) ← rawRow row
  requiredRowFields.forM (requireField raw fields)
  (fields.getD []).forM (validateTypedField platform raw)
  let instrument ← strictText (raw.get "InstrumentID") "InstrumentID"
  let exchange ← strictText (raw.get "ExchangeID") "ExchangeID"
  let posiDirection ← strictText (raw.get "PosiDirection") "PosiDirection"
  let hedge ← strictText (raw.get "HedgeFlag") "HedgeFlag"
  let date ← strictText (raw.get "PositionDate") "PositionDate"
  let day ← strictText (raw.get "TradingDay") "TradingDay"
  let direction ← known (PosiDirection.ofText posiDirection) "net position rows cannot be planned"
  check (["1", "2", "3"].contains hedge) "O3B_POSITION_ROW_INVALID" "unknown hedge flag"
  let positionDate ← known (PositionDate.ofText date) "unknown position date"
  check (validDay platform (some (.str day))) "O3B_POSITION_ROW_INVALID" "invalid trading day"
  check (day == tradingDay) "O3B_CURRENT_SCOPE_MISMATCH"
    "row trading day differs from current scope"
  check (knownExchanges.contains exchange) "O3B_POLICY_INVALID_OR_MISMATCH" "unknown row exchange"
  let position ← rowQuantity raw "Position"
  let todayPosition ← rowQuantity raw "TodayPosition"
  let ydPosition ← rowQuantity raw "YdPosition"
  zeroFreezeFields.forM fun name => do
    let _ ← rowQuantity raw name
    return ()
  let ⟨today_le_position⟩ ← demand (todayPosition ≤ position) "O3B_POSITION_ROW_INVALID"
    "TodayPosition exceeds Position"
  ["BrokerID", "InvestorID"].forM (requireAccountField raw)
  return {
    raw, instrument, exchange, direction, hedge, positionDate, position, todayPosition,
    ydPosition, today_le_position }

/-- `_validate_freeze`. -/
def validateFreeze (rows : List (PositionRow tradingDay)) : Calc Unit :=
  rows.forM fun row => do
    check (row.quantity "LongFrozen" == 0 && row.quantity "ShortFrozen" == 0)
      "O3B_FROZEN_ALLOCATION_UNPROVEN" "ordinary frozen quantity is nonzero"
    check ((zeroFreezeFields.drop 2).all fun name => row.quantity name == 0)
      "O3B_SPECIAL_POSITION_UNSUPPORTED" "special position quantity is nonzero"

end BtApiCtp.ClosePlan
