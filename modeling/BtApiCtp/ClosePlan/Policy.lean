/-
# ClosePlan.Policy -- the synthetic policy profiles and the current context

`_validate_policy` with its normalisations, `_policy_digest`, and `_validate_context`.
-/
import BtApiCtp.ClosePlan.Rows

namespace BtApiCtp.ClosePlan

open Theory Python

/-! ## Policies -/

/-- How a policy reads position rows. -/
inductive RowModel where
  | splitByPositionDate
  | combinedTodayAndHistory
  deriving DecidableEq, Repr

/-- A policy that passed: the dictionary it was normalised to, and what is read from it. -/
structure Policy where
  material : Fields
  policyId : String
  nativeProfile : String
  rowModel : RowModel
  exchanges : List String
  deadline : Option (Int × Int)

def splitPolicyId : String := "SYNTHETIC-SPLIT-v1"

def genericPolicyId : String := "SYNTHETIC-GENERIC-v1"

def syntheticProfile : String := "SYNTHETIC_FULL_CTP_6.7.7"

def policySourceSha256 : String :=
  "ec5dfea45f52e85a484332a2cd7890cedf9d8369946cbcb07b7c203c24d8d15a"

def executionBlockReason : String := "BLOCKED_POLICY_APPLICABILITY"

/-- `_error` under the policy's code. -/
def policyCheck (ok : Bool) (message : String) : Calc Unit :=
  check ok "O3B_POLICY_INVALID_OR_MISMATCH" message

variable (platform : Platform) (policy : Fields)

/-- One round of `_normalize_profile_aliases`. -/
def normalizeProfileAlias (canonical alias_ : String) : Calc Fields := do
  policyCheck (agree (policy.get canonical) (policy.get alias_))
    ("conflicting profile aliases: " ++ canonical)
  match policy.get canonical, policy.get alias_ with
  | none, some value => return (policy.set canonical value).pop alias_
  | _, _ => return policy.pop alias_

/-- `_normalize_profile_aliases`. -/
def normalizeProfileAliases : Calc Fields := do
  let policy ← normalizeProfileAlias policy "document_family" "source_document_family"
  normalizeProfileAlias policy "document_version" "source_document_version"

/-- A moment in UTC, as a value. -/
def utcValue (utc : Int) : Value := .datetime ⟨utc, some 0⟩

/-- `_normalize_policy_deadline`; the deadline it found is returned beside the policy, in
microseconds of UTC and nanoseconds of the monotonic clock. -/
def normalizePolicyDeadline (policy : Fields) :
    Calc (Fields × Option (Int × Int)) := do
  let monoPresent :=
    (policy.get "expires_monotonic_ns").isSome || (policy.get "expires_monotonic").isSome
  policyCheck ((policy.get "expires_at_utc").isSome == monoPresent)
    "policy deadline needs paired UTC and monotonic values"
  match policy.get "expires_at_utc" with
  | none => return (policy, none)
  | some expiresAtUtc => do
    let utc ← parseUtc platform (some expiresAtUtc) "policy expiry"
      "O3B_POLICY_INVALID_OR_MISMATCH"
    let policy := policy.set "expires_at_utc" (utcValue utc)
    let mono ← clockFrom policy.toValue ["expires_monotonic_ns"] ["expires_monotonic"]
      "policy expiry monotonic"
    return ((policy.set "expires_monotonic_ns" (.int mono)).pop "expires_monotonic",
      some (utc, mono))

/-- A list of texts, in a profile. -/
def texts (items : List String) : Value := .list (items.map .str)

def table (entries : List (String × Value)) : Value := Fields.toValue entries

/-- `_profile_material_matches`. -/
def profileMaterialMatches (name : String) (expected : Value) : Bool :=
  match policy.get name with
  | none => false
  | some actual =>
    match expected with
    | .mapping _ _ => actual.isMapping && Value.eq actual expected
    | .list items =>
      match actual with
      | .list actualItems => Value.eq (.tuple actualItems) (.tuple items)
      | .tuple actualItems => Value.eq (.tuple actualItems) (.tuple items)
      | _ => false
    | expected => sameType actual expected && Value.eq actual expected

/-- `_require_profile_material`. -/
def requireProfileMaterial (expected : List (String × Value)) : Calc Unit :=
  expected.forM fun entry =>
    policyCheck (profileMaterialMatches policy entry.1 entry.2)
      ("profile semantic material is missing or contradictory: " ++ entry.1)

/-- The items of a list or tuple that is not empty. -/
def nonemptyItems : Option Value → Option (List Value)
  | some (.list (item :: items)) => some (item :: items)
  | some (.tuple (item :: items)) => some (item :: items)
  | _ => none

/-- `_validate_source_location`. -/
def validateSourceLocation : Calc Unit := do
  match nonemptyItems (policy.get "source_location") with
  | none =>
    fail "O3B_POLICY_INVALID_OR_MISMATCH" "profile source location is missing or invalid"
  | some items =>
    items.forM fun item => do
      let _ ← strictMetadataText (some item) "source_location" "O3B_POLICY_INVALID_OR_MISMATCH"
      return ()

def commonProfile : List (String × Value) :=
  [("document_family", .str "CTPIIMini"),
    ("document_version", .str "1.4"),
    ("ordinary_nonzero_error", .str "O3B_FROZEN_ALLOCATION_UNPROVEN"),
    ("special_nonzero_error", .str "O3B_SPECIAL_POSITION_UNSUPPORTED"),
    ("forbidden_products", texts ["TAS", "combination_position"])]

def splitProfile : List (String × Value) :=
  [("today_row", table [("PositionDate", .str "1"), ("current_quantity", .str "Position"),
      ("consistency", .str "TodayPosition == Position")]),
    ("history_row", table [("PositionDate", .str "2"), ("current_quantity", .str "Position"),
      ("consistency", .str "TodayPosition == 0")]),
    ("missing_age_row",
      .str "zero_only_under_complete_all_account_query_and_explicit_profile_rule"),
    ("allocation_priority",
      .str "caller_choice_today_first_or_yesterday_first_not_exchange_rule")]

def genericProfile : List (String × Value) :=
  [("required_position_date", .str "1"),
    ("current_total", .str "Position"),
    ("current_today", .str "TodayPosition"),
    ("current_history",
      .str "Position - TodayPosition under this explicit combined-row semantic profile"),
    ("yd_position_role", .str "audit_only_static_start_of_day"),
    ("allocation_priority", .str "UNSPECIFIED"),
    ("possible_allocation", table [("today_min", .str "max(0, requested - history)"),
      ("today_max", .str "min(requested, today)"),
      ("history", .str "requested - allocated_today"), ("integer", .bool true)]),
    ("must_cover_all_possible_allocations_at_execution", .bool true)]

/-- The items of a sequence if all of them are strings. -/
def textItems : Value → Option (List String)
  | .list items => items.mapM fun item => match item with | .str text => some text | _ => none
  | .tuple items => items.mapM fun item => match item with | .str text => some text | _ => none
  | _ => none

/-- `set(xs) == set(ys)`. -/
def sameSet (xs ys : List String) : Bool := xs.all ys.contains && ys.all xs.contains

/-- The mapping a policy field has, compared with `dict(...) != {...}`. -/
def isTable (value : Option Value) (expected : Value) : Bool :=
  match value with
  | some actual => actual.isMapping && Value.eq actual expected
  | none => false

/-- The rule of a row model: identity, exchanges and offsets. -/
def checkRowModel (policyId : String) (exchanges : List String) :
    RowModel → Calc Unit
  | .splitByPositionDate => do
    policyCheck (policyId == splitPolicyId && sameSet exchanges splitExchanges)
      "split policy identity mismatch"
    policyCheck (isTable (policy.get "offsets")
      (table [("today", .str "close_today"), ("history", .str "close_yesterday")]))
      "split offsets are incomplete"
    policyCheck (isTable (policy.get "wire_offsets")
      (table [("close_today", .str "3"), ("close_yesterday", .str "4")]))
      "split wire offsets are incomplete"
  | .combinedTodayAndHistory => do
    policyCheck (policyId == genericPolicyId && sameSet exchanges genericExchanges)
      "generic policy identity mismatch"
    policyCheck (isTable (policy.get "offsets") (table [("generic", .str "close")]))
      "generic offsets are incomplete"
    policyCheck (isTable (policy.get "wire_offsets") (table [("close", .str "1")]))
      "generic wire offset is incomplete"

/-- The chain of conditions of a supported profile, in its order: a member of a set must be
hashable when its turn comes. -/
def supportedProfile (policyId version status verified sourceSha profile freezeMode applicability
    rowModel : Value) : Calc Bool := do
  if !(← isMember policyId [splitPolicyId, genericPolicyId]) then return false
  else if !(version.isText "1" && status.isText "SYNTHETIC_PLANNING_PROFILE" &&
      isFalse (some verified) && sourceSha.isText policySourceSha256 &&
      profile.isText syntheticProfile && freezeMode.isText "zero_freeze_only" &&
      applicability.isText executionBlockReason) then return false
  else isMember rowModel ["split_by_position_date", "combined_today_and_history"]

/-- Take the first of two names that is there. -/
def firstOf (x y : Option Value) (message : String) : Calc Value :=
  match x.or y with
  | some value => .ok value
  | none => fail "O3B_POLICY_INVALID_OR_MISMATCH" message

def unsupportedProfile : String := "unsupported or incomplete policy profile"

/-- What a supported profile says of rows: its id, row model and exchanges. -/
def profileTerms (policyId rowModel exchanges : Value) (zeroFields : List String) :
    Calc (String × RowModel × List String) :=
  match policyId, rowModel, textItems exchanges with
  | .str id, .str model, some (first :: others) => do
    policyCheck (sameSet zeroFields zeroFreezeFields) unsupportedProfile
    return (id, if model = "split_by_position_date" then .splitByPositionDate
      else .combinedTodayAndHistory, first :: others)
  | _, _, _ => fail "O3B_POLICY_INVALID_OR_MISMATCH" unsupportedProfile

/-- What `_validate_policy` reads once the aliases and the deadline are normalised. -/
def policyProfile (policy : Fields) : Calc (String × RowModel × List String) := do
  let policyId ← readConsistent policy.toValue ["policy_id"] "policy_id"
  policyCheck (agree (policy.get "policy_version") (policy.get "version"))
    "conflicting policy versions"
  let version ← firstOf (policy.get "policy_version") (policy.get "version") "policy version"
  let policy := policy.pop "policy_version"
  let status ← readConsistent policy.toValue ["status"] "policy status"
  let verified ← readConsistent policy.toValue ["execution_policy_verified"] "policy verification"
  policyCheck (agree (policy.get "policy_source_sha256") (policy.get "source_document_sha256"))
    "conflicting policy source digests"
  let sourceSha ← firstOf (policy.get "policy_source_sha256") (policy.get "source_document_sha256")
    "policy source digest"
  let policy := policy.pop "policy_source_sha256"
  let profile ← readConsistent policy.toValue ["native_profile"] "native_profile"
  let rowModel ← readConsistent policy.toValue ["row_model"] "row_model"
  let exchanges ← readConsistent policy.toValue ["exchanges"] "policy exchanges"
  let freezeMode ← readConsistent policy.toValue ["freeze_mode"] "freeze mode"
  let zeroFields ← readConsistent policy.toValue ["required_explicit_zero_fields"]
    "required freeze fields"
  let applicability ← readConsistent policy.toValue ["real_full_ctp_applicability"]
    "policy applicability"
  let zeroFields ← match textItems zeroFields with
    | some names => .ok names
    | none => fail "O3B_POLICY_INVALID_OR_MISMATCH" "required freeze fields are invalid"
  let supported ← supportedProfile policyId version status verified sourceSha profile freezeMode
    applicability rowModel
  policyCheck supported unsupportedProfile
  let (id, model, venues) ← profileTerms policyId rowModel exchanges zeroFields
  checkRowModel policy id venues model
  requireProfileMaterial policy commonProfile
  validateSourceLocation policy
  requireProfileMaterial policy (if model = .splitByPositionDate then splitProfile
    else genericProfile)
  return (id, model, venues)

/-- What is left of a policy for its digest. -/
def policyMaterial (normal : Fields) : Fields :=
  (normal.pop "policy_version").pop "policy_source_sha256"

/-- `_validate_policy`. -/
def validatePolicy (policy : Value) : Calc Policy := do
  let entries ← match policy with
    | .mapping _ entries => .ok entries
    | _ => fail "O3B_POLICY_INVALID_OR_MISMATCH" "policy must be a mapping"
  let policy ← snapshotEntries entries
  let policy ← normalizeProfileAliases policy
  let (policy, deadline) ← normalizePolicyDeadline platform policy
  let (id, model, venues) ← policyProfile policy
  return {
    material := policyMaterial policy, policyId := id, nativeProfile := syntheticProfile,
    rowModel := model, exchanges := venues, deadline }

/-- `_policy_digest`. -/
def policyDigest (policy : Policy) : Calc String := do
  let claimed ← claimedDigest (policy.material.get "policy_sha256")
    (policy.material.get "policy_digest") "policy_sha256" "O3B_POLICY_INVALID_OR_MISMATCH"
    "conflicting policy digests"
  let payload := (policy.material.pop "policy_sha256").pop "policy_digest"
  let actual ← digest platform payload.toValue "O3B_POLICY_INVALID_OR_MISMATCH"
  policyCheck (claimed.all (· == actual)) "claimed policy digest differs from material"
  return actual

/-! ## The current context -/

structure Context where
  accountFingerprint : String
  tradingDay : String
  connectionGeneration : Int
  clockDomainId : String
  sessionBindingId : String
  nativeProfile : String
  evidenceSourceHash : String
  expiresAtUtc : Int
  expiresMonotonicNs : Int
  deriving DecidableEq, Repr

/-- `_error` under the scope's code. -/
def scopeCheck (ok : Bool) (message : String) : Calc Unit :=
  check ok "O3B_CURRENT_SCOPE_MISMATCH" message

def scopeText (context : Fields) (name : String) : Calc String :=
  strictMetadataText (context.get name) name "O3B_CURRENT_SCOPE_MISMATCH"

/-- A trading day that the calendar has. -/
def scopeDay : Option Value → Calc String
  | some (.str day) => do
    scopeCheck (validDay platform (some (.str day))) "invalid current trading day"
    return day
  | _ => fail "O3B_CURRENT_SCOPE_MISMATCH" "invalid current trading day"

/-- A positive `int`. -/
def positiveInt : Option Value → Option Int
  | some (.int n) => if 0 < n then some n else none
  | _ => none

/-- `_validate_context`. -/
def validateContext (evidence context : Value) : Calc Context := do
  let entries ← match context with
    | .mapping _ entries => .ok entries
    | _ => fail "O3B_CURRENT_SCOPE_MISMATCH" "current context must be a mapping"
  let context ← snapshotEntries entries
  ["account_fingerprint", "trading_day", "connection_generation", "clock_domain_id",
    "session_binding_id", "native_profile", "evidence_source_hash", "expires_at_utc"].forM
      fun name => scopeCheck (context.get name).isSome name
  let accountFingerprint ← scopeText context "account_fingerprint"
  let clockDomainId ← scopeText context "clock_domain_id"
  let sessionBindingId ← scopeText context "session_binding_id"
  let nativeProfile ← scopeText context "native_profile"
  let tradingDay ← scopeDay platform (context.get "trading_day")
  let connectionGeneration ← match positiveInt (context.get "connection_generation") with
    | some n => .ok n
    | none => fail "O3B_CURRENT_SCOPE_MISMATCH" "invalid connection generation"
  let evidenceSourceHash ← strictHex (context.get "evidence_source_hash") "evidence_source_hash"
    "O3B_CURRENT_SCOPE_MISMATCH"
  let expiresAtUtc ← parseUtc platform (context.get "expires_at_utc") "current expiry"
    "O3B_CLOCK_INVALID"
  let expiresMonotonicNs ← clockFrom context.toValue ["expires_monotonic_ns"]
    ["expires_monotonic"] "current expiry monotonic"
  let evidenceHash ← match ← read evidence ["source_hash"] with
    | some hash => strictHex (some hash) "source_hash" "O3B_CURRENT_SCOPE_MISMATCH"
    | none => fail "O3B_REQUIRED_FIELD_MISSING" "evidence source_hash"
  scopeCheck (evidenceHash == evidenceSourceHash) "source digest differs from current context"
  let evidenceClock ← read evidence ["clock_domain_id"]
  scopeCheck (agree evidenceClock (some (.str clockDomainId)))
    "clock domain differs from current context"
  return {
    accountFingerprint, tradingDay, connectionGeneration, clockDomainId, sessionBindingId,
    nativeProfile, evidenceSourceHash, expiresAtUtc, expiresMonotonicNs }

end BtApiCtp.ClosePlan
