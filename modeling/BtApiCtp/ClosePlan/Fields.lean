/-
# ClosePlan.Fields -- reading untyped input strictly

The helpers of `ctp_close_plan.py` that read one field of a mapping or an evidence object,
check its exact type, and put plan material into canonical JSON.  A calculation raises
`CtpClosePlanError` or, where the code lets one through, another exception.
-/
import BtApiCtp.Python.Clock
import BtApiCtp.Python.Json
import BtApiCtp.Theory.Fallible

namespace BtApiCtp.ClosePlan

open Theory Python

/-- What the interpreter supplies: `sha256(...).hexdigest()`, `datetime.fromisoformat`, how
far the local clock is ahead of UTC, `Decimal` of a text, and whether `strftime` pads years. -/
structure Platform where
  sha256 : String → String
  fromisoformat : String → Option Datetime
  localOffset : Int → Int
  decimalOfText : String → Option Number
  padsYears : Bool

inductive Exn where
  /-- `CtpClosePlanError`. -/
  | closePlan (code message : String)
  | other (name : String)
  deriving DecidableEq, Repr

abbrev Calc (α : Type) := Except Exn α

/-- `_error`; without a message the code stands for it. -/
def fail {α : Type} (code message : String) : Calc α := .error (.closePlan code message)

/-- `if not ok: _error(code, message)`. -/
def check (ok : Bool) (code message : String) : Calc Unit :=
  if ok then .ok () else fail code message

/-- A check whose outcome is kept. -/
def demand (p : Prop) [Decidable p] (code message : String) : Calc (PLift p) :=
  if holds : p then .ok ⟨holds⟩ else fail code message

theorem check_eq_ok_iff {ok : Bool} {code message : String} {u : Unit} :
    check ok code message = .ok u ↔ ok = true := by
  unfold check fail
  split <;> simp_all

/-- `str(exc)`. -/
def Exn.text : Exn → String
  | .closePlan code message => code ++ ": " ++ message
  | .other name => name

/-! ## Fields -/

/-- One field of a mapping, or one attribute of an object. -/
def getField (value : Value) (name : String) : Option Value :=
  match value with
  | .mapping _ entries => Value.field entries name
  | .object _ attributes => Value.field attributes name
  | _ => none

/-- `_read`: the one value that a field has under any of its names. -/
def read (value : Value) (names : List String) : Calc (Option Value) :=
  match names.filterMap fun name => (getField value name).map fun item => (name, item) with
  | [] => .ok none
  | (_, first) :: others =>
    match others.find? fun other => !Value.eq other.2 first with
    | some (name, _) =>
      fail "O3B_POSITION_EVIDENCE_INCONSISTENT" ("conflicting fields: " ++ name)
    | none => .ok (some first)

/-- `_read_consistent`. -/
def readConsistent (value : Value) (names : List String) (label : String) : Calc Value := do
  match ← read value names with
  | none => fail "O3B_REQUIRED_FIELD_MISSING" label
  | some item => return item

/-- Two names of one thing do not contradict each other. -/
def agree (x y : Option Value) : Bool :=
  match x, y with
  | some a, some b => Value.eq a b
  | _, _ => true

/-- `value in {...}`, which needs a hash. -/
def isMember (value : Value) (texts : List String) : Calc Bool :=
  if value.hashable then .ok (texts.any fun text => value.isText text)
  else .error (.other "TypeError")

variable (platform : Platform) (text : String) (value : Option Value)

/-- Exact nonempty text without blanks around it. -/
def isStrictText : Bool :=
  text != "" && text == strip text && !text.toList.contains '\x00'

/-- `_strict_metadata_text`; `_strict_text` is the same under one code. -/
def strictMetadataText (field code : String) : Calc String :=
  match value with
  | some (.str text) => do
    check (isStrictText text) code (field ++ " requires exact nonempty text")
    return text
  | _ => fail code (field ++ " requires exact nonempty text")

/-- `_strict_text`. -/
def strictText (field : String) : Calc String :=
  strictMetadataText value field "O3B_POSITION_ROW_INVALID"

def isHex64 : Bool :=
  text.length == 64 &&
    text.toList.all fun c =>
      (decide ('0' ≤ c) && decide (c ≤ '9')) || (decide ('a' ≤ c) && decide (c ≤ 'f'))

/-- `_strict_hex`. -/
def strictHex (field code : String) : Calc String :=
  match value with
  | some (.str text) => do
    check (isHex64 text) code (field ++ " requires a lowercase SHA-256 digest")
    return text
  | _ => fail code (field ++ " requires a lowercase SHA-256 digest")

/-- `_valid_day`. -/
def validDay (value : Option Value) : Bool :=
  match value with
  | some (.str text) =>
    text.length == 8 && isDigit text &&
      match strptimeDay text with
      | some day => strftimeDay platform.padsYears day == text
      | none => false
  | _ => false

/-! ## Clocks -/

/-- An aware moment in UTC. -/
def instant (moment : Datetime) (field code : String) : Calc Int :=
  match moment.offset with
  | none => fail code (field ++ " cannot be naive")
  | some offset =>
    match utcOf moment.wall offset with
    | some utc => .ok utc
    | none => .error (.other "OverflowError")

/-- `value.replace("Z", "+00:00")`. -/
def spellOutUtc : String :=
  String.ofList (text.toList.flatMap fun c => if c = 'Z' then "+00:00".toList else [c])

/-- `_parse_utc`, as microseconds in UTC. -/
def parseUtc (value : Option Value) (field code : String) : Calc Int :=
  match value with
  | some (.datetime moment) => instant moment field code
  | some (.str text) =>
    match platform.fromisoformat (spellOutUtc text) with
    | some moment => instant moment field code
    | none => fail code (field ++ " is not an ISO timestamp")
  | _ => fail code (field ++ " requires an aware UTC timestamp")

/-- `_clock_ns`. -/
def clockNs (value : Value) (field : String) (seconds : Bool) : Calc Int :=
  match value with
  | .int ns => do
    check (decide (0 ≤ ns)) "O3B_CLOCK_INVALID" (field ++ " cannot be negative")
    return ns
  | .float (.finite exact) shortest _ => do
    check (seconds && decide (0 ≤ exact)) "O3B_CLOCK_INVALID"
      (field ++ " requires a finite clock value")
    let scaled := shortest * 1000000000
    check (scaled.den == 1) "O3B_CLOCK_INVALID"
      (field ++ " is not representable in nanoseconds")
    return scaled.num
  | _ => fail "O3B_CLOCK_INVALID" (field ++ " requires a finite clock value")

/-- The time that a field in nanoseconds or one in seconds gives. -/
def clockOf (ns seconds : Option Value) (label : String) : Calc Int :=
  match ns, seconds with
  | some ns, some seconds => do
    let first ← clockNs ns label false
    let second ← clockNs seconds label true
    check (first == second) "O3B_CLOCK_INVALID" ("conflicting clock aliases for " ++ label)
    return first
  | some ns, none => clockNs ns label false
  | none, some seconds => clockNs seconds label true
  | none, none => fail "O3B_REQUIRED_FIELD_MISSING" label

/-- `_clock_from`. -/
def clockFrom (value : Value) (nsNames secondsNames : List String) (label : String) : Calc Int := do
  let nsItem ← read value nsNames
  let secondsItem ← read value secondsNames
  clockOf nsItem secondsItem label

/-! ## Snapshots and canonical JSON -/

mutual

/-- `_snapshot`. -/
def snapshot : Value → Calc Value
  | .mapping _ entries => do
    let fields ← snapshotEntries entries
    return .mapping "mappingproxy" (fields.map fun entry => (.str entry.1, entry.2))
  | .list items => do return .tuple (← snapshotItems items)
  | .tuple items => do return .tuple (← snapshotItems items)
  | value => .ok value

def snapshotItems : List Value → Calc (List Value)
  | [] => .ok []
  | item :: items => do
    let first ← snapshot item
    let rest ← snapshotItems items
    return first :: rest

/-- The fields of a frozen mapping. -/
def snapshotEntries : List (Key × Value) → Calc Fields
  | [] => .ok []
  | (.str key, item) :: entries => do
    let first ← snapshot item
    let rest ← snapshotEntries entries
    return (key, first) :: rest
  | (.other _, _) :: _ =>
    fail "O3B_POSITION_ROW_INVALID" "mapping keys must be exact strings"

end

/-- `_format_utc`; a moment without time zone is taken for local time. -/
def formatUtc (moment : Datetime) : Calc String :=
  match utcOf moment.wall (moment.offset.getD (platform.localOffset moment.wall)) with
  | some utc => .ok (isoUtc utc)
  | none => .error (.other "OverflowError")

mutual

/-- `_json_value`; the keys of plan material are strings. -/
def jsonValue (platform : Platform) : Value → Calc Json
  | .none => .ok .null
  | .bool value => .ok (.bool value)
  | .int value => .ok (.int value)
  | .float (.finite _) _ text => .ok (.float text)
  | .float _ _ _ => .error (.other "ValueError")
  | .decimal (.finite _) text => .ok (.str text)
  | .decimal _ _ => .error (.other "ValueError")
  | .str text => .ok (.str text)
  | .datetime moment => (formatUtc platform moment).map .str
  | .list items => (jsonItems platform items).map .array
  | .tuple items => (jsonItems platform items).map .array
  | .mapping _ entries => do
    let members ← jsonMembers platform entries
    let values ← (sortByKey members).mapM fun member =>
      member.2.map fun json => (member.1, json)
    return .object values
  | .object _ _ => .error (.other "TypeError")

def jsonItems (platform : Platform) : List Value → Calc (List Json)
  | [] => .ok []
  | item :: items => do
    let first ← jsonValue platform item
    let rest ← jsonItems platform items
    return first :: rest

/-- What each member comes to, in the order of the mapping. -/
def jsonMembers (platform : Platform) : List (Key × Value) → Calc (List (String × Calc Json))
  | [] => .ok []
  | (.str key, item) :: entries => do
    let rest ← jsonMembers platform entries
    return (key, jsonValue platform item) :: rest
  | (.other _, _) :: _ => .error (.other "TypeError")

end

/-- `canonical_ctp_close_plan_json`. -/
def canonicalCtpClosePlanJson (value : Value) : Calc String :=
  match jsonValue platform value with
  | .ok json =>
    match json.dumps with
    | some text => .ok text
    | none => fail "O3B_CANONICAL_VALUE_INVALID" "O3B_CANONICAL_VALUE_INVALID"
  | .error (.other "TypeError") =>
    fail "O3B_CANONICAL_VALUE_INVALID" "O3B_CANONICAL_VALUE_INVALID"
  | .error (.other "ValueError") =>
    fail "O3B_CANONICAL_VALUE_INVALID" "O3B_CANONICAL_VALUE_INVALID"
  | .error e => .error e

/-- The digest of plan material; a canonical value error is raised on under another code. -/
def digest (value : Value) (code : String) : Calc String :=
  match canonicalCtpClosePlanJson platform value with
  | .ok text => .ok (platform.sha256 text)
  | .error (.closePlan inner message) => fail code (Exn.text (.closePlan inner message))
  | .error e => .error e

/-- A digest that the caller claims, under one of two names. -/
def claimedDigest (first second : Option Value) (field code message : String) :
    Calc (Option String) := do
  check (agree first second) code message
  match first.or second with
  | none => return none
  | some claim => do
    let text ← strictHex (some claim) field code
    return some text

end BtApiCtp.ClosePlan
