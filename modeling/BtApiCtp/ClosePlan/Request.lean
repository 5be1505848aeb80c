/-
# ClosePlan.Request -- what the caller wants closed

`_normalize_request` and `_request_digest`.  The legs that passed carry what was checked of
them: each quantity is positive and no two legs have the same key.
-/
import BtApiCtp.ClosePlan.Policy

namespace BtApiCtp.ClosePlan

open Theory Python

/-- The side that is held, and is to be closed. -/
inductive PositionSide where
  | long
  | short
  deriving DecidableEq, Repr

/-- The keys of `_DIRECTION_TO_SIDE`. -/
def PositionSide.text : PositionSide → String
  | .long => "long"
  | .short => "short"

def PositionSide.ofText : String → Option PositionSide
  | "long" => some .long
  | "short" => some .short
  | _ => none

/-- The side of a closing order. -/
inductive Side where
  | sell
  | buy
  deriving DecidableEq, Repr

def Side.text : Side → String
  | .sell => "sell"
  | .buy => "buy"

/-- `_DIRECTION_TO_SIDE`: the direction of the rows that hold a side, and the order that
closes it. -/
def directionToSide : PositionSide → PosiDirection × Side
  | .long => (.long, .sell)
  | .short => (.short, .buy)

inductive ExecutionRole where
  | exit
  | recoveryExit
  deriving DecidableEq, Repr

def ExecutionRole.text : ExecutionRole → String
  | .exit => "exit"
  | .recoveryExit => "recovery_exit"

def ExecutionRole.ofText : String → Option ExecutionRole
  | "exit" => some .exit
  | "recovery_exit" => some .recoveryExit
  | _ => none

/-- Which lots a split close takes first. -/
inductive Priority where
  | todayFirst
  | yesterdayFirst
  deriving DecidableEq, Repr

def Priority.text : Priority → String
  | .todayFirst => "today_first"
  | .yesterdayFirst => "yesterday_first"

/-- `generic_age_request`. -/
inductive AgeRequest where
  | onlyToday
  | onlyYesterday
  deriving DecidableEq, Repr

def AgeRequest.text : AgeRequest → String
  | .onlyToday => "only_today"
  | .onlyYesterday => "only_yesterday"

/-! ## Legs -/

structure Leg where
  legId : String
  instrumentId : String
  exchangeId : String
  hedgeFlag : String
  positionSide : PositionSide
  quantity : Nat
  positive : 0 < quantity

/-- What tells legs apart. -/
def Leg.key (leg : Leg) : String × String × String × PositionSide :=
  (leg.instrumentId, leg.exchangeId, leg.hedgeFlag, leg.positionSide)

/-- A leg, in the material of the request. -/
def Leg.toValue (leg : Leg) : Value :=
  table [("leg_id", .str leg.legId), ("InstrumentID", .str leg.instrumentId),
    ("ExchangeID", .str leg.exchangeId), ("HedgeFlag", .str leg.hedgeFlag),
    ("position_side", .str leg.positionSide.text), ("quantity", .int leg.quantity)]

/-- `normalized_legs`, together with the keys that were seen. -/
structure Legs where
  items : List Leg
  distinct : (items.map Leg.key).Nodup

namespace Legs

def empty : Legs := ⟨[], List.nodup_nil⟩

theorem distinct_snoc (legs : Legs) {leg : Leg} (fresh : leg.key ∉ legs.items.map Leg.key) :
    ((legs.items ++ [leg]).map Leg.key).Nodup := by
  rw [List.map_append, List.map_singleton, ← List.concat_eq_append]
  exact legs.distinct.concat fresh

/-- `if key in seen`, and the leg behind the others. -/
def add (legs : Legs) (leg : Leg) : Calc Legs :=
  if fresh : leg.key ∉ legs.items.map Leg.key then
    .ok ⟨legs.items ++ [leg], legs.distinct_snoc fresh⟩
  else fail "O3B_REQUEST_LEG_DUPLICATE" "O3B_REQUEST_LEG_DUPLICATE"

end Legs

/-- `_error` under the request's code. -/
def requestCheck (ok : Bool) (message : String) : Calc Unit :=
  check ok "O3B_REQUEST_INVALID" message

def requestText (fields : Fields) (name : String) : Calc String :=
  strictMetadataText (fields.get name) name "O3B_REQUEST_INVALID"

/-- One leg, before it is compared with the others. -/
def normalizeLeg (rawLeg : Value) : Calc Leg := do
  let entries ← match rawLeg with
    | .mapping _ entries => .ok entries
    | _ => fail "O3B_REQUEST_INVALID" "leg must be a mapping"
  let leg ← snapshotEntries entries
  ["leg_id", "InstrumentID", "ExchangeID", "HedgeFlag", "position_side", "quantity"].forM
    fun name => check (leg.get name).isSome "O3B_REQUIRED_FIELD_MISSING" ("leg " ++ name)
  let legId ← requestText leg "leg_id"
  let instrumentId ← requestText leg "InstrumentID"
  let exchangeId ← requestText leg "ExchangeID"
  let hedgeFlag ← requestText leg "HedgeFlag"
  let side ← requestText leg "position_side"
  let positionSide ← match PositionSide.ofText side with
    | some side => .ok side
    | none => fail "O3B_POSITION_SIDE_INVALID" "O3B_POSITION_SIDE_INVALID"
  let quantity ← match leg.get "quantity" with
    | some (.int (.ofNat quantity)) => .ok quantity
    | _ => fail "O3B_QUANTITY_INVALID" "O3B_QUANTITY_INVALID"
  let ⟨positive⟩ ← demand (0 < quantity) "O3B_QUANTITY_INVALID" "O3B_QUANTITY_INVALID"
  return { legId, instrumentId, exchangeId, hedgeFlag, positionSide, quantity, positive }

/-- The loop over the legs. -/
def normalizeLegs (rawLegs : List Value) : Calc Legs :=
  rawLegs.foldlM (fun legs rawLeg => do
    let leg ← normalizeLeg rawLeg
    legs.add leg) Legs.empty

/-! ## The request -/

structure Request where
  candidateId : String
  candidateSha256 : String
  cycleId : String
  executionRole : ExecutionRole
  expiresAtUtc : Int
  expiresMonotonicNs : Int
  priority : Priority
  genericAgeRequest : Option AgeRequest
  legs : Legs
  /-- `request_material`, without the digest that was claimed for it. -/
  material : Fields
  claimedRequestSha256 : Option String

def maxLegs : Nat := 3

/-- The split priority, `yesterday_first` if none is given. -/
def normalizePriority (first second : Option Value) : Calc Priority := do
  requestCheck (agree first second) "conflicting split allocation priorities"
  let given := (first.or second).getD (.str "yesterday_first")
  requestCheck (← isMember given ["today_first", "yesterday_first"])
    "unknown split allocation priority"
  return if given.isText "today_first" then .todayFirst else .yesterdayFirst

def normalizeAge (given : Option Value) : Calc (Option AgeRequest) :=
  match given.getD .none with
  | .none => .ok none
  | given => do
    check (← isMember given ["only_today", "only_yesterday"]) "O3B_GENERIC_AGE_NOT_GUARANTEED"
      "O3B_GENERIC_AGE_NOT_GUARANTEED"
    return some (if given.isText "only_today" then .onlyToday else .onlyYesterday)

/-- The sequence of legs, neither empty nor too long. -/
def requestedLegs (request : Fields) : Calc (List Value) := do
  let legs ← match request.get "legs" with
    | none => fail "O3B_REQUIRED_FIELD_MISSING" "request legs"
    | some (.list legs) => .ok legs
    | some (.tuple legs) => .ok legs
    | some _ => fail "O3B_REQUEST_INVALID" "request legs must be a sequence"
  check (!legs.isEmpty) "O3B_REQUEST_EMPTY" "O3B_REQUEST_EMPTY"
  check (legs.length ≤ maxLegs) "O3B_REQUEST_TOO_MANY_LEGS" "O3B_REQUEST_TOO_MANY_LEGS"
  return legs

/-- What `material.update(...)` puts over the request, and what is taken out of it. -/
def requestMaterial (request : Fields) (normalized : List (String × Value)) : Fields :=
  let updated := normalized.foldl (fun fields entry => fields.set entry.1 entry.2)
    (request.pop "allocation_priority")
  ((updated.pop "request_sha256").pop "request_digest").pop "_claimed_request_sha256"

/-- `_normalize_request`. -/
def normalizeRequest (platform : Platform) (request : Value) : Calc Request := do
  let entries ← match request with
    | .mapping _ entries => .ok entries
    | _ => fail "O3B_REQUEST_INVALID" "request must be a mapping"
  let request ← snapshotEntries entries
  let rawLegs ← requestedLegs request
  let candidateId ← requestText request "candidate_id"
  let candidateSha256 ← strictHex (request.get "candidate_sha256") "candidate_sha256"
    "O3B_REQUEST_INVALID"
  let cycleId ← requestText request "cycle_id"
  let role ← requestText request "execution_role"
  let executionRole ← match ExecutionRole.ofText role with
    | some role => .ok role
    | none => fail "O3B_EXECUTION_ROLE_INVALID" "O3B_EXECUTION_ROLE_INVALID"
  let expiresAtUtc ← parseUtc platform (request.get "expires_at_utc") "request expiry"
    "O3B_CLOCK_INVALID"
  let expiresMonotonicNs ← clockFrom request.toValue ["expires_monotonic_ns"]
    ["expires_monotonic"] "request expiry monotonic"
  let priority ← normalizePriority (request.get "priority") (request.get "allocation_priority")
  let genericAgeRequest ← normalizeAge (request.get "generic_age_request")
  let legs ← normalizeLegs rawLegs
  let claimedRequestSha256 ← claimedDigest (request.get "request_sha256")
    (request.get "request_digest") "request_sha256" "O3B_REQUEST_INVALID"
    "conflicting request digests"
  let material := requestMaterial request
    [("candidate_id", .str candidateId), ("candidate_sha256", .str candidateSha256),
      ("cycle_id", .str cycleId), ("execution_role", .str executionRole.text),
      ("expires_at_utc", utcValue expiresAtUtc), ("expires_monotonic_ns", .int expiresMonotonicNs),
      ("priority", .str priority.text),
      ("generic_age_request", (genericAgeRequest.map fun age => .str age.text).getD .none),
      ("legs", .tuple (legs.items.map Leg.toValue))]
  return {
    candidateId, candidateSha256, cycleId, executionRole, expiresAtUtc, expiresMonotonicNs,
    priority, genericAgeRequest, legs, material, claimedRequestSha256 }

/-- `_request_digest`. -/
def requestDigest (platform : Platform) (request : Request) : Calc String := do
  let actual ← digest platform request.material.toValue "O3B_REQUEST_INVALID"
  requestCheck (request.claimedRequestSha256.all (· == actual))
    "claimed request digest differs from material"
  return actual

end BtApiCtp.ClosePlan
