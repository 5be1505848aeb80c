/-
# ClosePlan.Planner -- from rows and legs to close actions

`_validate_deadlines`, `_split_actions`, `_generic_actions` and `build_ctp_close_plan`.  The
loop of a split close over the two buckets is `Theory.Drawdown.draw`.
-/
import BtApiCtp.ClosePlan.Evidence
import BtApiCtp.ClosePlan.Request
import BtApiCtp.Theory.Drawdown

namespace BtApiCtp.ClosePlan

open Theory Python

/-! ## Deadlines -/

section Deadlines

variable (round : ℚ → Option ℚ)

/-- A deadline of the request or of the context: after completion by both clocks, and the
same time after it. -/
def checkDeadlineWith (source : EvidenceMeta) (label : String) (utc mono : Int) : Calc Unit := do
  check (decide (source.completedAtUtc < utc) && decide (source.completedMonotonicNs < mono))
    "O3B_CLOCK_INVALID" (label ++ " deadline precedes completion")
  checkPairedWith round (utc - source.completedAtUtc) (mono - source.completedMonotonicNs)
    (label ++ " deadline clocks are not paired")

/-- The deadline of a policy that has one. -/
def checkPolicyDeadlineWith (source : EvidenceMeta) : Option (Int × Int) → Calc Unit
  | none => .ok ()
  | some (utc, mono) => do
    check (decide (source.completedAtUtc < utc) && decide (source.completedMonotonicNs < mono))
      "O3B_SOURCE_EXPIRED" "policy deadline has elapsed"
    checkPairedWith round (utc - source.completedAtUtc) (mono - source.completedMonotonicNs)
      "policy deadline clocks are not paired"

/-- `min` of a list that has a first element. -/
def earliest (first : Int) (others : List Int) : Int := others.foldl min first

/-- `_validate_deadlines`: the effective deadline and the current time, by both clocks. -/
def validateDeadlinesWith (platform : Platform) (source : EvidenceMeta) (request : Request)
    (context : Context) (policy : Policy) (nowUtc monotonicNow : Value) :
    Calc (Int × Int × Int × Int) := do
  let now ← parseUtc platform (some nowUtc) "validation now" "O3B_CLOCK_INVALID"
  let nowMono ← clockNs monotonicNow "validation monotonic" true
  check (decide (source.completedAtUtc ≤ now) && decide (source.completedMonotonicNs ≤ nowMono))
    "O3B_CLOCK_INVALID" "validation time precedes query completion"
  policyCheck ((policy.material.get "expires_at_utc").isSome ==
    (policy.material.get "expires_monotonic_ns").isSome) "policy deadline is not normalized as a pair"
  checkDeadlineWith round source "request" request.expiresAtUtc request.expiresMonotonicNs
  checkDeadlineWith round source "current context" context.expiresAtUtc context.expiresMonotonicNs
  checkPolicyDeadlineWith round source policy.deadline
  let effectiveUtc := earliest source.expiresAtUtc
    ([request.expiresAtUtc, context.expiresAtUtc] ++ (policy.deadline.map Prod.fst).toList)
  let effectiveMono := earliest source.expiresMonotonicNs
    ([request.expiresMonotonicNs, context.expiresMonotonicNs] ++
      (policy.deadline.map Prod.snd).toList)
  check (decide (source.completedAtUtc < effectiveUtc) &&
    decide (source.completedMonotonicNs < effectiveMono)) "O3B_SOURCE_EXPIRED"
    "effective deadline has elapsed"
  checkPairedWith round (effectiveUtc - source.completedAtUtc)
    (effectiveMono - source.completedMonotonicNs)
    "effective deadline clocks are not paired"
  check (decide (now < effectiveUtc) && decide (nowMono < effectiveMono)) "O3B_SOURCE_EXPIRED"
    "source or request deadline has elapsed"
  return (effectiveUtc, effectiveMono, now, nowMono)

end Deadlines

abbrev validateDeadlines := validateDeadlinesWith binary64

/-! ## Actions -/

/-- How an action closes: lots of today, older lots, or whatever the venue chooses. -/
inductive Offset where
  | closeToday
  | closeYesterday
  | close
  deriving DecidableEq, Repr

def Offset.text : Offset → String
  | .closeToday => "close_today"
  | .closeYesterday => "close_yesterday"
  | .close => "close"

/-- `age_allocation`. -/
inductive AgeAllocation where
  | split (today history : Nat)
  | generic (todayMin todayMax : Nat)
  deriving DecidableEq, Repr

def AgeAllocation.toValue : AgeAllocation → Value
  | .split today history => table [("today", .int today), ("history", .int history)]
  | .generic todayMin todayMax =>
    table [("today_min", .int todayMin), ("today_max", .int todayMax),
      ("history_equals_quantity_minus_today", .bool true)]

/-- What `_action_without_id` returns. -/
structure RawAction where
  legId : String
  instrumentId : String
  exchangeId : String
  hedgeFlag : String
  side : Side
  positionSide : PositionSide
  offset : Offset
  quantity : Nat
  quantityUnit : String
  sourceRowKeys : List (String × String)
  sourceHash : String
  policyId : String
  policyVersion : String
  policySha256 : String
  candidateId : String
  candidateSha256 : String
  cycleId : String
  executionRole : ExecutionRole
  ageAllocation : AgeAllocation
  expiresAtUtc : String
  expiresMonotonicNs : Int
  deriving DecidableEq, Repr

/-- `CtpCloseAction`. -/
structure CtpCloseAction extends RawAction where
  actionId : String
  deriving DecidableEq, Repr

/-- The leg an action belongs to, by what tells legs apart; `leg_id` need not. -/
def RawAction.legKey (action : RawAction) : String × String × String × PositionSide :=
  (action.instrumentId, action.exchangeId, action.hedgeFlag, action.positionSide)

/-- An action, in the material of the plan's digest. -/
def RawAction.toValue (action : RawAction) : Value :=
  table [("leg_id", .str action.legId), ("InstrumentID", .str action.instrumentId),
    ("ExchangeID", .str action.exchangeId), ("HedgeFlag", .str action.hedgeFlag),
    ("side", .str action.side.text), ("position_side", .str action.positionSide.text),
    ("offset", .str action.offset.text), ("quantity", .int action.quantity),
    ("quantity_unit", .str action.quantityUnit),
    ("source_row_keys",
      .tuple (action.sourceRowKeys.map fun entry => .tuple [.str entry.1, .str entry.2])),
    ("source_hash", .str action.sourceHash), ("policy_id", .str action.policyId),
    ("policy_version", .str action.policyVersion), ("policy_sha256", .str action.policySha256),
    ("candidate_id", .str action.candidateId),
    ("candidate_sha256", .str action.candidateSha256), ("cycle_id", .str action.cycleId),
    ("execution_role", .str action.executionRole.text),
    ("age_allocation", action.ageAllocation.toValue),
    ("expires_at_utc", .str action.expiresAtUtc),
    ("expires_monotonic_ns", .int action.expiresMonotonicNs)]

/-- What all actions of a plan have in common. -/
structure Terms where
  request : Request
  sourceHash : String
  policyId : String
  policyVersion : String
  policySha : String
  expiryUtc : String
  expiryMono : Int

variable {tradingDay : String}

/-- `_action_without_id`. -/
def actionWithoutId (terms : Terms) (leg : Leg) (row : PositionRow tradingDay) (offset : Offset)
    (quantity : Nat) (ageAllocation : AgeAllocation) : RawAction where
  legId := leg.legId
  instrumentId := leg.instrumentId
  exchangeId := leg.exchangeId
  hedgeFlag := leg.hedgeFlag
  side := (directionToSide leg.positionSide).2
  positionSide := leg.positionSide
  offset := offset
  quantity := quantity
  quantityUnit := "contracts"
  sourceRowKeys := row.sourceRowKeys
  sourceHash := terms.sourceHash
  policyId := terms.policyId
  policyVersion := terms.policyVersion
  policySha256 := terms.policySha
  candidateId := terms.request.candidateId
  candidateSha256 := terms.request.candidateSha256
  cycleId := terms.request.cycleId
  executionRole := terms.request.executionRole
  ageAllocation := ageAllocation
  expiresAtUtc := terms.expiryUtc
  expiresMonotonicNs := terms.expiryMono

/-! ## Allocation -/

/-- What a leg and the rows it is closed from have in common. -/
def PositionRow.target (row : PositionRow tradingDay) : String × String × PosiDirection × String :=
  (row.instrument, row.exchange, row.direction, row.hedge)

def Leg.target (leg : Leg) : String × String × PosiDirection × String :=
  (leg.instrumentId, leg.exchangeId, (directionToSide leg.positionSide).1, leg.hedgeFlag)

/-- The rows a leg is closed from. -/
def Leg.matching (leg : Leg) (rows : List (PositionRow tradingDay)) :
    List (PositionRow tradingDay) :=
  rows.filter fun row => row.target = leg.target

def checkMatching (leg : Leg) (rows : List (PositionRow tradingDay)) : Calc Unit :=
  if (leg.matching rows).isEmpty then
    if rows.isEmpty then
      fail "O3B_CLOSE_EXCEEDS_POSITION" "empty complete query has no closable position"
    else fail "O3B_TARGET_NOT_IN_SOURCE" "requested raw identity is absent"
  else .ok ()

/-- `by_date.get(date)`, where a later row has replaced an earlier one. -/
def byDate (rows : List (PositionRow tradingDay)) (date : PositionDate) :
    Option (PositionRow tradingDay) :=
  rows.reverse.find? fun row => row.positionDate = date

/-- The buckets, in the order of the priority. -/
def Priority.order : Priority → List PositionDate
  | .yesterdayFirst => [.history, .today]
  | .todayFirst => [.today, .history]

def PositionDate.offset : PositionDate → Offset
  | .history => .closeYesterday
  | .today => .closeToday

/-- A split row is all of today or all older. -/
def checkSplitRow (row : PositionRow tradingDay) : Calc Unit := do
  check (!(row.positionDate == .today && row.todayPosition != row.position))
    "O3B_POSITION_ROW_INVALID" "today split row is inconsistent"
  check (!(row.positionDate == .history && row.todayPosition != 0))
    "O3B_POSITION_ROW_INVALID" "history split row is inconsistent"

/-- The action that draws on one bucket. -/
def splitAction (terms : Terms) (leg : Leg) (drawn : PositionRow tradingDay × Nat) : RawAction :=
  actionWithoutId terms leg drawn.1 drawn.1.positionDate.offset drawn.2
    (match drawn.1.positionDate with
      | .today => .split drawn.2 0
      | .history => .split 0 drawn.2)

/-- `_split_actions`: the actions of a leg, and the fees they need. -/
def splitActions (terms : Terms) (rows : List (PositionRow tradingDay)) (leg : Leg) :
    Calc (List RawAction × List Offset) := do
  checkMatching leg rows
  (leg.matching rows).forM checkSplitRow
  validateFreeze (leg.matching rows)
  check (leg.quantity ≤ ((leg.matching rows).map PositionRow.position).sum)
    "O3B_CLOSE_EXCEEDS_POSITION" "requested quantity exceeds current position"
  let buckets := terms.request.priority.order.filterMap (byDate (leg.matching rows))
  let (draws, remaining) := Drawdown.draw PositionRow.position leg.quantity buckets
  check (remaining == 0) "O3B_CLOSE_EXCEEDS_POSITION" "position split could not satisfy request"
  let actions := draws.map (splitAction terms leg)
  return (actions, actions.map (·.offset))

/-- The one combined row that a generic close needs. -/
def combinedRow (rows : List (PositionRow tradingDay)) : Calc (PositionRow tradingDay) :=
  match rows with
  | [row] => do
    check (row.positionDate == .today) "O3B_POSITION_ROW_INVALID"
      "generic policy requires one combined row"
    return row
  | _ => fail "O3B_POSITION_ROW_INVALID" "generic policy requires one combined row"

/-- `_generic_actions`. -/
def genericActions (terms : Terms) (rows : List (PositionRow tradingDay)) (leg : Leg) :
    Calc (List RawAction × List Offset) := do
  checkMatching leg rows
  let row ← combinedRow (leg.matching rows)
  validateFreeze [row]
  let history := row.position - row.todayPosition
  check (leg.quantity ≤ row.position) "O3B_CLOSE_EXCEEDS_POSITION"
    "requested quantity exceeds current position"
  let todayMin := leg.quantity - history
  let todayMax := min leg.quantity row.todayPosition
  check (!(terms.request.genericAgeRequest == some .onlyToday &&
      !(todayMin == todayMax && todayMax == leg.quantity)))
    "O3B_GENERIC_AGE_NOT_GUARANTEED" "O3B_GENERIC_AGE_NOT_GUARANTEED"
  check (!(terms.request.genericAgeRequest == some .onlyYesterday &&
      !(todayMin == todayMax && todayMax == 0)))
    "O3B_GENERIC_AGE_NOT_GUARANTEED" "O3B_GENERIC_AGE_NOT_GUARANTEED"
  return ([actionWithoutId terms leg row .close leg.quantity (.generic todayMin todayMax)],
    if todayMax = 0 then [.close] else [.close, .closeToday])

/-- The actions of one leg, under either row model. -/
def legActions (rowModel : RowModel) (terms : Terms) (rows : List (PositionRow tradingDay))
    (leg : Leg) : Calc (List RawAction × List Offset) :=
  match rowModel with
  | .splitByPositionDate => splitActions terms rows leg
  | .combinedTodayAndHistory => genericActions terms rows leg

/-! ## The plan -/

def schemaVersion : String := "ctp_close_plan.v1"

def plannerCapability : String := "STRUCTURAL_ONLY"

def maxActions : Nat := 6

/-- `CtpClosePlan`. -/
structure CtpClosePlan where
  schemaVersion : String
  status : String
  plannerCapability : String
  executionEligible : Bool
  executionBlockReason : String
  sourceBinding : Fields
  policyBinding : Fields
  requestBinding : Fields
  effectiveExpiry : Fields
  limits : Fields
  actions : List CtpCloseAction
  feeRolesRequired : List Offset
  planSha256 : String

/-- What the plan's digest is of. -/
def digestPayload (plan : CtpClosePlan) (rawActions : List RawAction) : Value :=
  table [("schema_version", .str plan.schemaVersion),
    ("execution_eligible", .bool plan.executionEligible),
    ("source_binding", plan.sourceBinding.toValue), ("policy_binding", plan.policyBinding.toValue),
    ("request_binding", plan.requestBinding.toValue),
    ("effective_expiry", plan.effectiveExpiry.toValue), ("limits", plan.limits.toValue),
    ("actions_without_action_id", .list (rawActions.map RawAction.toValue))]

/-- The plan before its digest is known. -/
def unsealedPlan (context : Context) (source : EvidenceMeta) (terms : Terms)
    (requestSha : String) (feeRoles : List Offset) : CtpClosePlan where
  schemaVersion := schemaVersion
  status := "PLANNED"
  plannerCapability := plannerCapability
  executionEligible := false
  executionBlockReason := executionBlockReason
  sourceBinding :=
    [("source_hash", .str terms.sourceHash), ("request_id", .int source.requestId),
      ("account_fingerprint", .str context.accountFingerprint),
      ("trading_day", .str context.tradingDay),
      ("connection_generation", .int context.connectionGeneration),
      ("clock_domain_id", .str context.clockDomainId),
      ("session_binding_id", .str context.sessionBindingId)]
  policyBinding :=
    [("policy_id", .str terms.policyId), ("policy_version", .str terms.policyVersion),
      ("policy_sha256", .str terms.policySha), ("execution_policy_verified", .bool false)]
  requestBinding :=
    [("candidate_id", .str terms.request.candidateId),
      ("candidate_sha256", .str terms.request.candidateSha256),
      ("cycle_id", .str terms.request.cycleId),
      ("execution_role", .str terms.request.executionRole.text),
      ("request_sha256", .str requestSha)]
  effectiveExpiry :=
    [("expires_at_utc", .str terms.expiryUtc), ("expires_monotonic_ns", .int terms.expiryMono)]
  limits := [("legs_max", .int maxLegs), ("actions_max", .int maxActions)]
  actions := []
  feeRolesRequired := feeRoles
  planSha256 := ""

/-- `_make_action`, with an id from the plan's digest and the action's index. -/
def makeAction (platform : Platform) (planSha : String) (index : Nat) (raw : RawAction) :
    CtpCloseAction :=
  { raw with actionId := platform.sha256 (planSha ++ ":" ++ toString index) }

/-- Digest and actions are put into the plan. -/
def sealPlan (platform : Platform) (plan : CtpClosePlan) (rawActions : List RawAction) :
    Calc CtpClosePlan := do
  let planSha ← digest platform (digestPayload plan rawActions) "O3B_CANONICAL_VALUE_INVALID"
  return { plan with
    actions := rawActions.mapIdx (makeAction platform planSha), planSha256 := planSha }

/-- `validated_policy["version"]`; `_validate_policy` has seen that it is `"1"` if it is
there. -/
def policyVersion (policy : Policy) : Calc String :=
  match policy.material.get "version" with
  | some (.str version) => .ok version
  | _ => .error (.other "KeyError")

/-- What the four inputs come to. -/
structure Inputs where
  context : Context
  policy : Policy
  source : EvidenceMeta
  holdings : Holdings context.tradingDay
  request : Request

/-- `build_ctp_close_plan` reads its inputs one by one, for any arithmetic. -/
def prepareWith (round : ℚ → Option ℚ) (platform : Platform)
    (evidence request policy currentContext : Value) : Calc Inputs := do
  let context ← validateContext platform evidence currentContext
  let policy ← validatePolicy platform policy
  scopeCheck (context.nativeProfile == policy.nativeProfile)
    "context native profile differs from policy"
  let (source, holdings) ← extractEvidenceWith round platform evidence context
  let request ← normalizeRequest platform request
  return { context, policy, source, holdings, request }

abbrev prepare := prepareWith binary64

namespace Inputs

/-- What the actions have in common, once the deadline and the digests are known. -/
def terms (inputs : Inputs) (effectiveUtc effectiveMono : Int) (policySha version : String) :
    Terms where
  request := inputs.request
  sourceHash := inputs.source.sourceHash
  policyId := inputs.policy.policyId
  policyVersion := version
  policySha := policySha
  expiryUtc := isoUtc effectiveUtc
  expiryMono := effectiveMono

/-- The legs are allocated, and the plan is put together. -/
def allocate (inputs : Inputs) (platform : Platform) (terms : Terms) (requestSha : String) :
    Calc CtpClosePlan := do
  let parts ← inputs.request.legs.items.mapM
    (legActions inputs.policy.rowModel terms inputs.holdings.rows)
  let rawActions := parts.flatMap Prod.fst
  check (!rawActions.isEmpty && rawActions.length ≤ maxActions) "O3B_ACTION_LIMIT_EXCEEDED"
    "bounded action set violated"
  sealPlan platform
    (unsealedPlan inputs.context inputs.source terms requestSha (parts.flatMap Prod.snd).eraseDups)
    rawActions

/-- With inputs that passed, it plans, for any arithmetic. -/
def planWith (round : ℚ → Option ℚ) (inputs : Inputs) (platform : Platform)
    (nowUtc monotonicNow : Value) : Calc CtpClosePlan := do
  inputs.request.legs.items.forM fun leg =>
    policyCheck (inputs.policy.exchanges.contains leg.exchangeId) "leg exchange is outside policy"
  let (effectiveUtc, effectiveMono, _, _) ← validateDeadlinesWith round platform inputs.source
    inputs.request inputs.context inputs.policy nowUtc monotonicNow
  let policySha ← policyDigest platform inputs.policy
  let requestSha ← requestDigest platform inputs.request
  let version ← policyVersion inputs.policy
  inputs.allocate platform (inputs.terms effectiveUtc effectiveMono policySha version) requestSha

abbrev plan (inputs : Inputs) := inputs.planWith binary64

end Inputs

/-- `build_ctp_close_plan`, for any arithmetic. -/
def buildWith (round : ℚ → Option ℚ) (platform : Platform)
    (evidence request policy currentContext nowUtc monotonicNow : Value) : Calc CtpClosePlan := do
  let inputs ← prepareWith round platform evidence request policy currentContext
  inputs.planWith round platform nowUtc monotonicNow

/-- `build_ctp_close_plan`. -/
abbrev buildCtpClosePlan := buildWith binary64

end BtApiCtp.ClosePlan
