/-
# ClosePlan.Evidence -- the position query that a plan rests on

`_validate_source_status`, `_collect_declared_account_identity` and `_extract_evidence`: the
query belongs to the current scope, ended well, is fresh by two clocks that agree, covers the
whole account, and its rows are of one account and told apart by their identity.
-/
import BtApiCtp.ClosePlan.Policy
import BtApiCtp.Python.Binary64
import Mathlib.Data.List.Dedup

namespace BtApiCtp.ClosePlan

open Theory Python

/-! ## Two clocks

The times are compared in `float` arithmetic, `binary64`; what an exact result is rounded to is a
parameter of the calculation. -/

-- `none` where a result is out of range
variable (round : ℚ → Option ℚ)

/-- A quotient as `float`. -/
def roundWith (q : ℚ) : Calc ℚ :=
  match round q with
  | some value => .ok value
  | none => .error (.other "OverflowError")

/-- `1e-6`. -/
def microsecondWith : ℚ := (round (1 / 1000000)).getD 0

/-- `abs(x - y) > 1e-6`. -/
def apartWith (x y : ℚ) : Bool :=
  match round (x - y) with
  | some difference =>
    decide (microsecondWith round < if difference < 0 then -difference else difference)
  | none => true

/-- The lifetimes of a deadline by both clocks, in seconds. -/
def lifetimesWith (utcDelta monoDelta : Int) : Calc (ℚ × ℚ) := do
  let utc ← roundWith round (utcDelta / 1000000)
  let mono ← roundWith round (monoDelta / 1000000000)
  return (utc, mono)

/-- Both clocks give a deadline the same time after completion. -/
def checkPairedWith (utcDelta monoDelta : Int) (message : String) : Calc Unit := do
  let (utc, mono) ← lifetimesWith round utcDelta monoDelta
  check (!apartWith round utc mono) "O3B_CLOCK_INVALID" message

def maxSourceTtlSeconds : Nat := 5

/-! ## The status of a source -/

variable (envelope : Option Value) (evidence : Value) (platform : Platform) (source : Value)

/-- A field that, where it is given, is the boolean it should be. -/
def statusFlag (names : List String) (good : Bool) (typeMessage message : String) :
    Calc Unit := do
  match ← read source names with
  | none => return ()
  | some (.bool value) => check (value == good) "O3B_POSITION_EVIDENCE_INCOMPLETE" message
  | some _ => fail "O3B_POSITION_EVIDENCE_INCONSISTENT" typeMessage

/-- A code that, where it is given, is `None` or the `int` zero. -/
def statusCode (names : List String) : Calc Unit := do
  match ← read source names with
  | none => return ()
  | some .none => return ()
  | some (.int code) =>
    check (code == 0) "O3B_POSITION_EVIDENCE_INCOMPLETE" "source reports a query error"
  | some _ => fail "O3B_POSITION_EVIDENCE_INCOMPLETE" "source reports a query error"

/-- A completion time that, where it is given, is the query's. -/
def statusCompletedUtc (source : Value) (completed : Int) : Calc Unit := do
  match ← read source ["completed_at_utc", "completed_utc"] with
  | none => return ()
  | some value => do
    let utc ← parseUtc platform (some value) "source completion UTC" "O3B_CLOCK_INVALID"
    check (utc == completed) "O3B_POSITION_EVIDENCE_INCONSISTENT"
      "source completion UTC differs from query completion"

def completedNsNames : List String := ["completed_monotonic_ns", "completed_mono_ns"]

def completedSecondsNames : List String := ["completed_monotonic", "completed_mono"]

def statusCompletedMono (completedMono : Int) : Calc Unit := do
  let nsValue ← read source completedNsNames
  let secondsValue ← read source completedSecondsNames
  if nsValue.isSome || secondsValue.isSome then do
    let actual ← clockFrom source completedNsNames completedSecondsNames
      "source completion monotonic"
    check (actual == completedMono) "O3B_POSITION_EVIDENCE_INCONSISTENT"
      "source completion monotonic differs from query completion"
  else return ()

/-- `_validate_source_status`, for one source. -/
def validateSourceStatus (completed completedMono : Int) (source : Value) :
    Calc Unit := do
  statusFlag source ["read_only_ready", "is_read_only_ready", "query_read_only_ready"] true
    "read-only readiness requires an exact boolean" "source is explicitly not read-only ready"
  statusFlag source ["complete", "evidence_complete", "query_complete"] true
    "terminal status requires an exact boolean" "source is explicitly incomplete or non-terminal"
  statusFlag source ["is_last_seen", "query_is_last_seen"] true
    "terminal status requires an exact boolean" "source is explicitly incomplete or non-terminal"
  statusFlag source ["timed_out", "query_timed_out"] false
    "query status requires an exact boolean" "source reports timeout or unsupported query"
  statusFlag source ["unsupported", "query_unsupported"] false
    "query status requires an exact boolean" "source reports timeout or unsupported query"
  statusCode source ["error_code", "query_error_code"]
  statusCode source ["submit_code", "query_submit_code"]
  statusCompletedUtc platform source completed
  statusCompletedMono source completedMono

/-- The mapping that a field holds, if it holds one. -/
def nested (name : String) : Option Value :=
  match envelope with
  | some (.mapping _ entries) =>
    match Value.field entries name with
    | some (.mapping kind inner) => some (.mapping kind inner)
    | _ => none
  | _ => none

/-- `_source_status_sources`. -/
def sourceStatusSources (envelope : Option Value) : List Value :=
  evidence :: (envelope.filter Value.isMapping).toList ++ (nested envelope "session_scope").toList ++
    (nested envelope "query_source").toList

/-! ## Scope, ending and times of the query -/

/-- The query asks for positions in the current scope; its request id. -/
def validateScope (context : Context) : Calc Int := do
  let requestType ← read evidence ["request_type"]
  scopeCheck (agree requestType (some (.str "positions")))
    "position planner requires positions query"
  let requestId ← match positiveInt (← read evidence ["query_request_id", "request_id"]) with
    | some n => .ok n
    | none => fail "O3B_REQUIRED_FIELD_MISSING" "query request id"
  let account ← read evidence ["account_fingerprint"]
  let generation ← read evidence ["connection_generation"]
  let tradingDay ← read evidence ["trading_day"]
  scopeCheck (account.isSome && generation.isSome && tradingDay.isSome)
    "evidence scope is incomplete"
  match account, positiveInt generation with
  | some (.str account), some generation => do
    scopeCheck (account != "" && account == strip account) "evidence scope has invalid types"
    scopeCheck (account == context.accountFingerprint &&
      generation == context.connectionGeneration) "evidence scope differs from current context"
    scopeCheck (isTextOf tradingDay context.tradingDay)
      "evidence trading day differs from current context"
    return requestId
  | _, _ => fail "O3B_CURRENT_SCOPE_MISMATCH" "evidence scope has invalid types"

/-- The query is complete, its last row was seen, and nothing went wrong. -/
def validateEnding : Calc (Option Value) := do
  let complete ← read evidence ["complete", "evidence_complete", "query_complete"]
  let lastSeen ← read evidence ["is_last_seen", "query_is_last_seen"]
  let envelope ← read evidence ["query_envelope"]
  let terminal := match lastSeen, envelope with
    | none, some (.mapping _ entries) => Value.field entries "is_last_seen"
    | lastSeen, _ => lastSeen
  check (isTrue complete && isTrue terminal) "O3B_POSITION_EVIDENCE_INCOMPLETE"
    "query is not a successful terminal result"
  ["timed_out", "unsupported"].forM fun name => do
    let flag ← read evidence [name]
    check (flag.isNone || isFalse flag) "O3B_POSITION_EVIDENCE_INCOMPLETE" ("query " ++ name)
  ["error_code", "submit_code"].forM fun name => do
    let code ← read evidence [name]
    check ((code.getD .none).isIn [.none, .int 0]) "O3B_POSITION_EVIDENCE_INCOMPLETE"
      ("query " ++ name)
  return envelope

/-- What is kept of a query that passed: its request id, when it completed and when it expires,
and the digest of its source. -/
structure EvidenceMeta where
  requestId : Int
  completedAtUtc : Int
  expiresAtUtc : Int
  completedMonotonicNs : Int
  expiresMonotonicNs : Int
  sourceHash : String
  deriving DecidableEq, Repr

/-- When the query completed and when it expires.  The digest of the context is the
evidence's, as `_validate_context` found. -/
def queryTimesWith (platform : Platform) (evidence : Value) (context : Context) (requestId : Int) :
    Calc EvidenceMeta := do
  let completed ← read evidence ["completed_at_utc", "completed_utc"]
  let sourceExpiry ← read evidence ["expires_at_utc", "source_expiry_utc"]
  check (completed.isSome && sourceExpiry.isSome) "O3B_REQUIRED_FIELD_MISSING"
    "query clock timestamps"
  let completedAtUtc ← parseUtc platform completed "query completion" "O3B_CLOCK_INVALID"
  let expiresAtUtc ← parseUtc platform sourceExpiry "query expiry" "O3B_CLOCK_INVALID"
  let completedMonotonicNs ← clockFrom evidence completedNsNames completedSecondsNames
    "query completion monotonic"
  let expiresMonotonicNs ← clockFrom evidence
    ["expires_monotonic_ns", "source_expiry_monotonic_ns"]
    ["expires_monotonic", "source_expiry_monotonic"] "query expiry monotonic"
  let clockDomain ← read evidence ["clock_domain_id"]
  check (isTextOf clockDomain context.clockDomainId) "O3B_CLOCK_INVALID"
    "query clock domain differs from current context"
  check (decide (completedAtUtc < expiresAtUtc) && decide (completedMonotonicNs < expiresMonotonicNs))
    "O3B_CLOCK_INVALID" "query expiry must follow completion"
  let (utcTtl, monoTtl) ← lifetimesWith round (expiresAtUtc - completedAtUtc)
    (expiresMonotonicNs - completedMonotonicNs)
  check (!apartWith round utcTtl monoTtl) "O3B_CLOCK_INVALID" "query clock domains are not paired"
  let bound ← roundWith round (maxSourceTtlSeconds + microsecondWith round)
  check (decide (utcTtl ≤ bound)) "O3B_CLOCK_INVALID" "query source expiry exceeds issuer bound"
  return {
    requestId, completedAtUtc, expiresAtUtc, completedMonotonicNs, expiresMonotonicNs,
    sourceHash := context.evidenceSourceHash }

abbrev queryTimes := queryTimesWith binary64

/-! ## The envelope -/

/-- Where a mapping gives a field, it is as expected. -/
def checkGiven (mapping : Option Value) (expected : List (String × Value)) (message : String) :
    Calc Unit :=
  expected.forM fun entry =>
    scopeCheck (agree (mapping.bind fun value => getField value entry.1) (some entry.2)) message

/-- The current scope, as the nested mappings of an envelope repeat it. -/
def Context.scope (context : Context) : List (String × Value) :=
  [("account_fingerprint", .str context.accountFingerprint),
    ("connection_generation", .int context.connectionGeneration),
    ("trading_day", .str context.tradingDay)]

/-- The envelope agrees with the evidence and with the current context, which by now agree
with each other. -/
def validateEnvelope (context : Context) (requestId : Int) :
    Calc Unit := do
  match envelope with
  | none => return ()
  | some (.mapping kind entries) => do
    let id ← read (.mapping kind entries) ["request_id", "query_request_id"]
    scopeCheck (agree id (some (.int requestId))) "query envelope differs from evidence"
    checkGiven envelope (context.scope.take 2) "query envelope differs from evidence"
    checkGiven (nested envelope "session_scope") context.scope
      "session envelope differs from current"
    checkGiven (nested envelope "query_source")
      ([("request_type", .str "positions"), ("request_id", .int requestId)] ++ context.scope ++
        [("clock_domain_id", .str context.clockDomainId)])
      "query source envelope differs from evidence"
  | some _ => fail "O3B_POSITION_EVIDENCE_INCOMPLETE" "query envelope is not a mapping"

/-- The session scope of the envelope is the current one. -/
def scopeMatches (context : Context) : Bool :=
  match nested envelope "session_scope" with
  | some scope =>
    context.scope.all fun entry =>
      match getField scope entry.1 with
      | some actual => Value.eq actual entry.2
      | none => false
  | none => false

/-- The query covered the whole account: it says so, or its session scope is the current
one. -/
def validateCoverage (envelope : Option Value) (context : Context) :
    Calc Unit := do
  let own ← read evidence ["query_scope"]
  let queryScope := match own, envelope with
    | none, some (.mapping _ entries) => Value.field entries "query_scope"
    | own, _ => own
  check (agree queryScope (some (.str "all_account_positions"))) "O3B_POSITION_EVIDENCE_INCOMPLETE"
    "query scope is not all-account positions"
  let emptyScopeProved :=
    isTextOf queryScope "all_account_positions" || scopeMatches envelope context
  let ready := (nested envelope "session_scope").bind fun scope => getField scope "read_only_ready"
  -- the second way repeats the comparison of the first, so it never adds anything
  check (emptyScopeProved || (scopeMatches envelope context && (ready.isNone || isTrue ready)))
    "O3B_POSITION_EVIDENCE_INCOMPLETE" "all-account query scope is not structurally proved"

/-! ## One account -/

/-- The account named so far. -/
abbrev Declared := List (String × String)

/-- Name the account, or be the account that was named. -/
def declareAccount (declared : Declared) (name text message : String) : Calc Declared :=
  match declared.lookup name with
  | none => .ok ((name, text) :: declared)
  | some prior => do
    check (prior == text) "O3B_POSITION_ROW_INVALID" (message ++ name)
    return declared

/-- The account that a source names, of its own. -/
def declaredBy (source : Value) (declared : Declared) : Calc Declared :=
  [("BrokerID", ["BrokerID", "broker_id"]), ("InvestorID", ["InvestorID", "investor_id"])].foldlM
    (fun declared entry => do
      match ← read source entry.2 with
      | none => return declared
      | some value => do
        let text ← strictText (some value) entry.1
        declareAccount declared entry.1 text "conflicting source account identity: ")
    declared

/-- `_collect_declared_account_identity`. -/
def collectDeclaredAccountIdentity (declared : Declared) : Option Value → Calc Declared
  | none => .ok declared
  | some .none => .ok declared
  | some source => declaredBy source declared

/-- Everything around the rows that may name the account. -/
def declaredAccount (envelope : Option Value) : Calc Declared := do
  let inEnvelope := fun name => envelope.bind fun value =>
    if value.isMapping then getField value name else none
  [some evidence, envelope, inEnvelope "session_scope", inEnvelope "query_source"].foldlM
    collectDeclaredAccountIdentity []

variable {tradingDay : String}

/-- `row.raw["BrokerID"]` or `row.raw["InvestorID"]`. -/
def PositionRow.account (row : PositionRow tradingDay) (name : String) : String :=
  match row.raw.get name with
  | some (.str text) => text
  | _ => ""

/-- The rows of the query, all of the account that was named. -/
def parseRows (platform : Platform) (tradingDay : String) :
    Declared → List Value → Calc (List (PositionRow tradingDay))
  | _, [] => .ok []
  | declared, record :: records => do
    let row ← parseRow platform record tradingDay
    let declared ← ["BrokerID", "InvestorID"].foldlM
      (fun declared name => declareAccount declared name (row.account name)
        "row account identity differs from source: ") declared
    let rows ← parseRows platform tradingDay declared records
    return row :: rows

/-- The rows of a query that passed: no two have the same identity. -/
structure Holdings (tradingDay : String) where
  rows : List (PositionRow tradingDay)
  distinct : (rows.map PositionRow.identity).Nodup

/-- The records of a query. -/
def recordsOf (evidence : Value) : Calc (List Value) := do
  match ← read evidence ["records", "rows"] with
  | none => fail "O3B_REQUIRED_FIELD_MISSING" "position records"
  | some (.list records) => .ok records
  | some (.tuple records) => .ok records
  | some _ => fail "O3B_POSITION_EVIDENCE_INCOMPLETE" "records must be a sequence"

/-- Bare records are no evidence. -/
def isBare : Value → Bool
  | .list _ => true
  | .tuple _ => true
  | _ => false

/-- What is done with the records, once the evidence has them. -/
def examineWith (platform : Platform) (evidence : Value) (context : Context)
    (records : List Value) : Calc (EvidenceMeta × Holdings context.tradingDay) := do
  let requestId ← validateScope evidence context
  let envelope ← validateEnding evidence
  let source ← queryTimesWith round platform evidence context requestId
  (sourceStatusSources evidence envelope).forM
    (validateSourceStatus platform source.completedAtUtc source.completedMonotonicNs)
  validateEnvelope envelope context requestId
  validateCoverage evidence envelope context
  let declared ← declaredAccount evidence envelope
  let rows ← parseRows platform context.tradingDay declared records
  let ⟨distinct⟩ ← demand (rows.map PositionRow.identity).Nodup "O3B_POSITION_ROW_DUPLICATE"
    "duplicate native position identity"
  check (["BrokerID", "InvestorID"].all fun name => (rows.map (·.account name)).dedup.length ≤ 1)
    "O3B_POSITION_ROW_INVALID" "rows contain multiple account identities"
  return (source, { rows, distinct })

/-- `_extract_evidence`, for any arithmetic. -/
def extractEvidenceWith (platform : Platform) (evidence : Value) (context : Context) :
    Calc (EvidenceMeta × Holdings context.tradingDay) := do
  check (!isBare evidence) "O3B_POSITION_EVIDENCE_INCOMPLETE"
    "position evidence requires query metadata"
  let records ← recordsOf evidence
  examineWith round platform evidence context records

/-- `_extract_evidence`. -/
abbrev extractEvidence := extractEvidenceWith binary64

end BtApiCtp.ClosePlan
