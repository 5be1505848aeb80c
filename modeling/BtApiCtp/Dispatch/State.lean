/-
# Dispatch.State -- the native order gate of a registered simulation

The state of a `CtpRegisteredSimNativeAuthority` (`managed_order_authority.py`) and what its
methods do under its two locks.  `_lock` is held by one thread over a whole call, and over the
body of a scope; the callback ledger, the tracked order references and the references being
dispatched stand under `_observation_lock`, which a native callback takes alone.

What the client answers is the environment's choice (`Answers`), read by number where one
section asks more than once.  The journal is what happened to arms, scopes and latches, in
order; nothing reads it.
-/
import BtApiCtp.Session.Client
import BtApiCtp.Python.Value
import BtApiCtp.Theory.Dict
import BtApiCtp.Theory.Section

namespace BtApiCtp.Dispatch

open Python Theory
open Section hiding read

/-- The codes of `CtpNativeOrderAuthorityError`, without their common `ctp_native_`. -/
inductive Refusal where
  | sessionUnobserved
  | sessionNotReady
  | sessionChanged
  | sessionIdsChanged
  | nestedSessionConflict
  | armTemplatesImmutable
  | disarmBeforeTemplateChange
  | disarmBeforeRearm
  | simAdmissionUnavailable
  | simAdmissionFailed
  | simAdmissionUnobserved
  | simAdmissionStateInvalid
  | simAdmissionChanged
  | armTemplateMissing
  | armTemplateUnconfigured
  | gateStateUnobserved
  | gateHasUnownedGrant
  | gateGrantStale
  | gateStateMalformed
  | gateGrantMismatch
  | gateChangedDuringAdmission
  | gateFrozen
  | writesDisabled
  | writeGateUnavailable
  | writeRejected
  | dispatchUnknownUnresolved
  | callbackUnknownUnresolved
  | dispatchIdentityRequired
  | dispatchIdentityUntyped
  | dispatchIdentityFieldsInvalid
  | dispatchIdentityFieldInvalid
  | dispatchOperationInvalid
  | dispatchRequestIdInvalid
  | dispatchRouteInvalid
  | dispatchRouteMismatch
  | dispatchOrderRefInvalid
  | dispatchOrderRefMismatch
  | insertOrderRefMissing
  | cancelActionRefMismatch
  | cancelActionFlagInvalid
  | cancelTargetOperationMismatch
  | cancelTargetDispatchConflict
  | cancelTargetStaleOrUnissued
  | cancelActionIdentityMismatch
  | cancelIssuerImmutable
  | cancelIssuerUnbound
  | cancelTargetUntyped
  | cancelTargetIssuerMismatch
  | cancelTargetExpired
  | cancelTargetSessionMismatch
  | cancelTargetRouteUnarmed
  | cancelTargetReused
  | cancelTargetCapacityExceeded
  | orderDispatchReused
  | dispatchTicketReused
  | dispatchTicketNotActive
  | dispatchOutcomeUnknown
  | disarmUnavailable
  | disarmFailed
  | disarmUnobserved
  /-- An exception of the client that is passed on. -/
  | clientRaised
  deriving DecidableEq, Repr

/-- `CtpNativeSessionIdentity`; the front and session numbers come together or not at all. -/
structure SessionIdentity where
  accountFingerprint : String
  connectionGeneration : Int
  tradingDay : String
  readOnlyReady : Bool
  tradingReady : Bool
  ids : Option (Int × Int)
  deriving DecidableEq, Repr

/-- The instrument and the exchange of a route. -/
abbrev Route := String × String

/-- What `_gate_snapshot` keeps of a gate state. -/
structure Snapshot where
  route : Route
  sdkInstrument : String
  connectionGeneration : Int
  tradingDay : String
  environmentProfile : String
  proofSha256 : String
  deriving DecidableEq, Repr

structure ArmTemplate where
  mdFront : String
  strategyIdentitySha256 : String
  executionCycleId : String
  preflightSha256 : String
  deriving DecidableEq, Repr

inductive Operation where
  | insert
  | cancel
  deriving DecidableEq, Repr

def Operation.name : Operation → String
  | .insert => "insert"
  | .cancel => "cancel"

/-- What `_normalize_dispatch_identity` returns. -/
structure Identity where
  operation : Operation
  requestId : Int
  instrumentId : String
  exchangeId : String
  orderRef : Option String
  orderSysId : Option String
  frontId : Option Int
  sessionId : Option Int
  brokerId : Option String
  investorId : Option String
  userId : Option String
  orderActionRef : Option Int
  actionFlag : Option String
  deriving DecidableEq, Repr

inductive DispatchStatus where
  | known
  | unknown
  deriving DecidableEq, Repr

/-- `CtpNativeDispatchEvidence`. -/
structure Evidence where
  sequence : Nat
  status : DispatchStatus
  identity : Identity
  nativeReturnCode : Option Int
  errorType : Option String
  deriving DecidableEq, Repr

/-- `RegisteredSimCancelTarget`; `object` tells targets apart. -/
structure CancelTarget where
  object : Nat
  issuer : Nat
  issuerSeal : Nat
  orderRef : String
  orderSysId : String
  instrumentId : String
  exchangeId : String
  brokerId : String
  investorId : String
  frontId : Int
  sessionId : Int
  accountFingerprint : String
  connectionGeneration : Int
  tradingDay : String
  sourceExpiresMonotonic : Int
  deriving DecidableEq, Repr

/-- `_CtpNativeDispatchTicket`, with the scope that yielded it. -/
structure Ticket where
  identity : Identity
  /-- The order reference it is dispatching. -/
  stateRef : String
  target : Option Nat
  thread : Nat
  finished : Bool
  /-- In `_active_dispatch_tickets`. -/
  active : Bool
  deriving DecidableEq, Repr

inductive OrderState where
  | active
  | unknown
  | terminal
  deriving DecidableEq, Repr

/-- What happened. -/
inductive Mark where
  /-- An arm call passed `_require_armable`. -/
  | armBegan (call : Nat)
  | armed (call : Nat)
  /-- A scope yielded the ticket with this number. -/
  | admitted (ticket : Nat)
  /-- The scope's body reported what the native method returned. -/
  | returned (ticket : Nat) (value : Value)
  | recorded (evidence : Evidence)
  /-- The verified rejection before dispatch. -/
  | rejected (ticket : Nat)
  /-- The scope ended. -/
  | ended (ticket : Nat)
  | callbackLatched
  | froze

/-! ## The record -/

structure Limits where
  allowWrites : Bool
  historyLimit : Nat
  callbackUnknownLimit : Nat
  terminalOrderLimit : Nat
  cancelTargetLimit : Nat
  historyPositive : 0 < historyLimit
  callbackPositive : 0 < callbackUnknownLimit

/-- The grant that was obtained from the client. -/
structure Grant where
  capability : Option Nat := none
  armedRoute : Option Route := none
  lastArmSnapshot : Option Snapshot := none
  /-- `none` as long as no templates are configured. -/
  templates : Option (Dict Route ArmTemplate) := none
  /-- How many arm calls there were. -/
  armCalls : Nat := 0

/-- What is never taken back, with the tickets that decide it. -/
structure Latches where
  frozen : Bool := false
  freezeReason : String := ""
  unknownDispatch : Option Evidence := none
  dispatchHistory : List Evidence := []
  /-- The tickets in the order of `_dispatch_sequence`. -/
  tickets : List Ticket := []

/-- The orders whose outcome a callback left open. -/
structure CallbackLedger where
  orders : List (Option String) := []
  overflow : Bool := false
  identityIncomplete : Bool := false
  missingOrderRef : Bool := false
  /-- `unresolved` of the published `CtpCallbackUnknownFacts`. -/
  unresolved : Bool := false

/-- What `_observation_lock` guards. -/
structure Observed where
  ledger : CallbackLedger := {}
  knownOrderRefs : List String := []
  dispatchingOrderRefs : List String := []

structure Targets where
  issuer : Option (Nat × Nat) := none
  registered : List Nat := []
  activeTarget : Option Nat := none

/-- A scope as its caller asks for it. -/
structure ScopeRequest where
  thread : Nat
  instrumentId : String
  exchangeId : String
  orderRef : Option String
  /-- `none` if no operation is named; another name is no operation. -/
  operation : Option (Option Operation)
  requestId : Value
  dispatchIdentity : Value
  /-- `none` without a target, `some none` for an object of another type. -/
  cancelTarget : Option (Option CancelTarget)

/-- A call that holds `_lock` and goes on once `_observation_lock` was free again. -/
inductive Pending where
  /-- Arm this route, in this arm call. -/
  | arming (call : Nat) (route : Route)
  | ensuring (call : Nat) (route : Route)
  /-- `require_write`, for a scope or on its own. -/
  | checking (route : Route) (scope : Option ScopeRequest)
  /-- A scope whose route, identity and target have been checked. -/
  | entering (scope : ScopeRequest) (identity : Identity) (stateRef : String)
      (target : Option Nat)

structure Authority where
  limits : Limits
  grant : Grant := {}
  expectedSession : Option SessionIdentity := none
  /-- The open `expected_session_scope`s: whose, and what they restore. -/
  sessionScopes : List (Nat × Option SessionIdentity) := []
  latches : Latches := {}
  observed : Observed := {}
  /-- `_order_state`, the one that was moved to the end last. -/
  orderState : List (String × OrderState) := []
  targets : Targets := {}
  pending : Option Pending := none
  journal : List Mark := []

abbrev Locked (α : Type) := Section Authority Refusal α

/-! ## What the client answers -/

inductive ArmAnswer where
  | unavailable
  | raised
  /-- The result is not a pair, or has no capability. -/
  | malformed
  | admitted (capability : Nat) (state : Value)

inductive WriteAnswer where
  | unavailable
  | rejected
  /-- An exception that is no `Exception`. -/
  | interrupted
  | passed
  deriving DecidableEq, Repr

inductive DisarmAnswer where
  | unavailable
  | raised
  | returned (state : Value)

/-- What the calls of one section into the client come to, in the order of the calls. -/
structure Answers where
  /-- `_current_session()`, `none` if it raises. -/
  session : Nat → Option SessionIdentity
  /-- `_read_gate_state()`, `none` if it raises. -/
  gate : Nat → Option Value
  arm : ArmAnswer
  requireWrite : WriteAnswer
  disarm : DisarmAnswer
  monotonic : Int
  /-- `_cancel_deadline_contract()`. -/
  deadlineContract : Bool
  /-- `get_order_action_evidence` was there, and found nothing. -/
  actionEvidenceAbsent : Bool

/-! ## Texts -/

/-- `_exact_text`. -/
def exactText : Value → Option String
  | .str text => if text ≠ "" ∧ text = strip text then some text else none
  | _ => none

/-- A field that may be `None` or missing, and otherwise is exact text. -/
def optionalText (entries : List (Key × Value)) (name : String) : Option (Option String) :=
  match (Value.field entries name).getD .none with
  | .none => some none
  | value => (exactText value).map some

/-- `_bounded_reason`. -/
def boundedReason (reason : String) : String :=
  if reason = "" ∨ reason ≠ strip reason then "ctp_native_gate_revoked"
  else
    String.ofList ((reason.toList.map fun c =>
      if c.isAlphanum || c ∈ ['.', '_', ':', '-'] then c else '_').take 128)

/-! ## Sessions and the gate -/

/-- `_require_session_match`, with `require_trading_ready`. -/
def requireSessionMatch (current : SessionIdentity) (expected : Option SessionIdentity) :
    Except Refusal Unit :=
  if !current.readOnlyReady || !current.tradingReady then .error .sessionNotReady
  else
    match expected with
    | none => .ok ()
    | some expected =>
      if current.accountFingerprint ≠ expected.accountFingerprint ∨
          current.connectionGeneration ≠ expected.connectionGeneration ∨
          current.tradingDay ≠ expected.tradingDay then .error .sessionChanged
      else if expected.ids.isSome ∧ current.ids ≠ expected.ids then .error .sessionIdsChanged
      else .ok ()

def isTradingDay (text : String) : Bool :=
  text.toList.length == 8 && text.toList.all Session.isAsciiDigit

def isHash (text : String) : Bool := text.toList.length == 64 && text.toList.all Session.isLowerHex

/-- `_gate_snapshot`. -/
def gateSnapshot (host : Session.Host) (state : Value) (route : Route) : Option Snapshot := do
  let .mapping _ entries := state | none
  let sdkInstrument := Session.canonicalCtpInstrument host route.1 (some route.2)
  guard (sdkInstrument ≠ "")
  let some (.bool true) := Value.field entries "managed" | none
  let some (.bool true) := Value.field entries "armed" | none
  let some (.str instrument) := Value.field entries "instrument" | none
  guard (instrument = sdkInstrument)
  let some (.int connectionGeneration) := Value.field entries "connection_generation" | none
  guard (0 < connectionGeneration)
  let some (.str tradingDay) := Value.field entries "trading_day" | none
  guard (isTradingDay tradingDay)
  let some (.str proofSha256) := Value.field entries "proof_sha256" | none
  guard (isHash proofSha256)
  let some (.str environmentProfile) := Value.field entries "environment_profile" | none
  guard (environmentProfile ≠ "")
  let some .none := Value.field entries "revocation_reason" | none
  return { route, sdkInstrument, connectionGeneration, tradingDay, environmentProfile, proofSha256 }

/-- `_gate_matches_session`. -/
def gateMatchesSession (snapshot : Snapshot) (current : SessionIdentity) : Bool :=
  snapshot.connectionGeneration = current.connectionGeneration &&
    snapshot.tradingDay = current.tradingDay

/-- `_latch_callback_unknown`. -/
def CallbackLedger.latch (ledger : CallbackLedger) (limit : Nat) (orderRef : Option String)
    (identityIncomplete : Bool) : CallbackLedger :=
  let incomplete := ledger.identityIncomplete || orderRef.isNone || identityIncomplete
  let missing := ledger.missingOrderRef || orderRef.isNone
  let fresh := !ledger.orders.contains orderRef && !ledger.overflow
  let full := limit ≤ ledger.orders.length
  let orders := if fresh && !full then ledger.orders ++ [orderRef] else ledger.orders
  let overflow := ledger.overflow || (fresh && full)
  let changed := incomplete != ledger.identityIncomplete || missing != ledger.missingOrderRef ||
    fresh
  { orders, overflow, identityIncomplete := incomplete, missingOrderRef := missing
    unresolved := if changed then orders ≠ [] || overflow else ledger.unresolved }

namespace Authority

variable (entries : List (Key × Value)) (host : Session.Host) (number : Nat)

/-- `_current_grant_matches`, with the answers of that number. -/
def currentGrantMatches (s : Authority) (answers : Answers) (i : Nat)
    (route : Route) : Bool :=
  s.grant.capability.isSome && s.grant.armedRoute = some route &&
    match s.grant.lastArmSnapshot, answers.gate i, answers.session i with
    | some armed, some state, some current =>
      (requireSessionMatch current s.expectedSession).isOk &&
        gateSnapshot host state route = some armed && gateMatchesSession armed current
    | _, _, _ => false

/-! ## Latches -/

def note (mark : Mark) (s : Authority) : Authority := { s with journal := s.journal ++ [mark] }

/-- `_freeze`. -/
def freeze (reason : String) (s : Authority) : Authority :=
  if s.latches.frozen then s
  else { s with
    latches := { s.latches with frozen := true, freezeReason := boundedReason reason } }.note .froze

def latchCallbackUnknown (orderRef : Option String) (identityIncomplete : Bool) (s : Authority) :
    Authority :=
  note .callbackLatched { s with observed := { s.observed with
    ledger := s.observed.ledger.latch s.limits.callbackUnknownLimit orderRef identityIncomplete } }

/-- `_require_armable`. -/
def requireArmable : Locked Unit := do
  require (fun s => s.limits.allowWrites) .writesDisabled
  require (fun s => s.latches.unknownDispatch.isNone) .dispatchUnknownUnresolved
  require (fun s => !s.latches.frozen) .gateFrozen
  require (fun s => !s.observed.ledger.unresolved) .callbackUnknownUnresolved

/-- `_current_session()`. -/
def currentSession (answers : Answers) (i : Nat) : Locked SessionIdentity :=
  lift (match answers.session i with
    | some session => .ok session
    | none => .error .sessionUnobserved)

/-- `_read_gate_state()`. -/
def readGateState (answers : Answers) (i : Nat) : Locked Value :=
  lift (match answers.gate i with
    | some state => .ok state
    | none => .error .clientRaised)

/-! ## Arming and disarming -/

/-- The local part of a grant is given up. -/
def dropGrant (s : Authority) : Authority :=
  { s with grant := { s.grant with capability := none, armedRoute := none, lastArmSnapshot := none } }

/-- Was the state of the gate that `disarm_execution_gate` returned seen to be disarmed? -/
def observedDisarmed : Value → Bool
  | .mapping _ entries =>
    match Value.field entries "armed" with
    | some (.bool armed) => !armed
    | _ => false
  | _ => false

/-- `_disarm_locked`. -/
def disarmLocked (answer : DisarmAnswer) : Locked Unit := fun s =>
  if s.grant.capability.isNone then (.ok (), s.dropGrant)
  else
    match answer with
    | .unavailable => (.error .disarmUnavailable, s.dropGrant.freeze "native_disarm_unavailable")
    | .raised => (.error .disarmFailed, s.dropGrant.freeze "native_disarm_failed")
    | .returned state =>
      if observedDisarmed state then (.ok (), s.dropGrant)
      else (.error .disarmUnobserved, s.dropGrant.freeze "native_disarm_unobserved")

/-- `_freeze_after_interruption`, and every place where a disarm that raises is let pass. -/
def freezeAndDisarm (reason : String) (answer : DisarmAnswer) (s : Authority) : Authority :=
  let frozen := s.freeze reason
  if frozen.grant.capability.isSome then (disarmLocked answer frozen).2 else frozen

/-- The admitted grant is checked against what the gate and the session now say. -/
def verifyAdmission (answers : Answers) (route : Route)
    (current : SessionIdentity) (admittedState : Value) : Locked Snapshot := do
  let admitted ← lift (match gateSnapshot host admittedState route with
    | some snapshot =>
      if gateMatchesSession snapshot current then .ok snapshot
      else .error .simAdmissionStateInvalid
    | none => .error .simAdmissionStateInvalid)
  let observed ← readGateState answers 0
  require (fun _ => gateSnapshot host observed route = some admitted) .simAdmissionChanged
  let afterwards ← currentSession answers 1
  lift (requireSessionMatch afterwards (some current))
  return admitted

/-- `arm_registered_sim_execution`, after `_require_armable`. -/
def armRegisteredSimExecution (answers : Answers) (call : Nat)
    (route : Route) : Locked Unit := do
  require (fun s => s.grant.capability.isNone) .disarmBeforeRearm
  let current ← currentSession answers 0
  ask fun s => requireSessionMatch current s.expectedSession
  match answers.arm with
  | .unavailable => raise .simAdmissionUnavailable
  | .raised =>
    update (freeze "native_admission_outcome_unknown")
    raise .simAdmissionFailed
  | .malformed =>
    update (freeze "native_admission_result_unobserved")
    raise .simAdmissionUnobserved
  | .admitted capability state =>
    update fun s =>
      { s with grant := { s.grant with capability := some capability, armedRoute := some route } }
    let snapshot ← onError (verifyAdmission host answers route current state)
      fun _ => freezeAndDisarm "native_admission_verification_failed" answers.disarm
    update fun s =>
      { s with grant := { s.grant with lastArmSnapshot := some snapshot } }.note (.armed call)

/-! ## Dispatch identities and cancel targets -/

def identityFields : List String :=
  ["order_ref", "order_sys_id", "instrument_id", "exchange_id", "front_id", "session_id",
    "broker_id", "investor_id", "user_id", "order_action_ref", "action_flag"]

def isIdentityField : Key → Bool
  | .str name => name ∈ identityFields
  | .other _ => false

/-- `type(value) is int and value > 0`. -/
def positiveInt : Value → Option Int
  | .int value => if 0 < value then some value else none
  | _ => none

/-- A field that may be `None` or missing, and otherwise is a positive int. -/
def optionalPositive (name : String) : Option (Option Int) :=
  match (Value.field entries name).getD .none with
  | .none => some none
  | value => (positiveInt value).map some

/-- Raise `e` where a field cannot be read. -/
def orRefuse {α : Type} (found : Option α) (e : Refusal) : Except Refusal α :=
  match found with
  | some a => .ok a
  | none => .error e

/-- The fields that only a cancel has. -/
def cancelFields (requestId : Int) :
    Except Refusal (Option Int × Option String) :=
  match Value.field entries "order_action_ref", Value.field entries "action_flag" with
  | some (.int actionRef), flag =>
    if actionRef ≠ requestId then .error .cancelActionRefMismatch
    else
      match flag with
      | some (.str "0") => .ok (some actionRef, some "0")
      | _ => .error .cancelActionFlagInvalid
  | _, _ => .error .cancelActionRefMismatch

/-- The route that the caller's mapping names. -/
def identityRoute : Option Route := do
  let instrument ← (Value.field entries "instrument_id").bind exactText
  let exchange ← (Value.field entries "exchange_id").bind exactText
  return (instrument, exchange)

/-- `_normalize_dispatch_identity`. -/
def normalizeDispatchIdentity (request : ScopeRequest) (operation : Option Operation) :
    Except Refusal Identity := do
  let operation ← orRefuse operation .dispatchOperationInvalid
  let requestId ← orRefuse (positiveInt request.requestId) .dispatchRequestIdInvalid
  let entries ← orRefuse (match request.dispatchIdentity with
    | .mapping _ entries => some entries
    | _ => none) .dispatchIdentityUntyped
  let _ ← orRefuse (if entries.all (isIdentityField ·.1) then some () else none)
    .dispatchIdentityFieldsInvalid
  let route ← orRefuse (identityRoute entries) .dispatchRouteInvalid
  let _ ← orRefuse (if route = (request.instrumentId, request.exchangeId) then some () else none)
    .dispatchRouteMismatch
  let orderRef ← orRefuse (optionalText entries "order_ref") .dispatchOrderRefInvalid
  let _ ← orRefuse (if request.orderRef.all (orderRef = some ·) then some () else none)
    .dispatchOrderRefMismatch
  let _ ← orRefuse (if operation = .insert ∧ orderRef = none then none else some ())
    .insertOrderRefMissing
  let orderSysId ← orRefuse (optionalText entries "order_sys_id") .dispatchIdentityFieldInvalid
  let brokerId ← orRefuse (optionalText entries "broker_id") .dispatchIdentityFieldInvalid
  let investorId ← orRefuse (optionalText entries "investor_id") .dispatchIdentityFieldInvalid
  let userId ← orRefuse (optionalText entries "user_id") .dispatchIdentityFieldInvalid
  let frontId ← orRefuse (optionalPositive entries "front_id") .dispatchIdentityFieldInvalid
  let sessionId ← orRefuse (optionalPositive entries "session_id") .dispatchIdentityFieldInvalid
  let action ←
    match operation with
    | .insert => .ok (none, none)
    | .cancel => cancelFields entries requestId
  return {
    operation, requestId, instrumentId := request.instrumentId, exchangeId := request.exchangeId,
    orderRef, orderSysId, frontId, sessionId, brokerId, investorId, userId,
    orderActionRef := action.1, actionFlag := action.2 }

/-- `_cancel_target_session_matches`. -/
def cancelTargetSessionMatches (target : CancelTarget) (expected : SessionIdentity) : Bool :=
  target.accountFingerprint = expected.accountFingerprint &&
    target.connectionGeneration = expected.connectionGeneration &&
    target.tradingDay = expected.tradingDay &&
    expected.ids = some (target.frontId, target.sessionId)

/-- The detached identity is that of an action against the target. -/
def actsOn (identity : Identity) (target : CancelTarget) : Bool :=
  identity.orderRef = some target.orderRef && identity.orderSysId = some target.orderSysId &&
    identity.instrumentId = target.instrumentId && identity.exchangeId = target.exchangeId &&
    identity.frontId = some target.frontId && identity.sessionId = some target.sessionId &&
    identity.brokerId = some target.brokerId && identity.investorId = some target.investorId &&
    identity.orderActionRef = some identity.requestId && identity.actionFlag = some "0"

/-- The first condition of `_claim_cancel_target_locked`. -/
def claimable (s : Authority) (answers : Answers) (request : ScopeRequest)
    (target : CancelTarget) : Bool :=
  target.object ∈ s.targets.registered && s.targets.activeTarget.isNone &&
    s.targets.issuer = some (target.issuer, target.issuerSeal) &&
    answers.monotonic < target.sourceExpiresMonotonic && answers.deadlineContract &&
    (positiveInt request.requestId).isSome &&
    s.expectedSession.any (cancelTargetSessionMatches target) &&
    target.instrumentId = request.instrumentId && target.exchangeId = request.exchangeId &&
    s.currentGrantMatches host answers 4 (request.instrumentId, request.exchangeId)

/-- `_claim_cancel_target_locked`. -/
def claimCancelTarget (answers : Answers) (request : ScopeRequest)
    (identity : Identity) (target : CancelTarget) : Locked Nat := do
  require (fun s => s.claimable host answers request target) .cancelTargetStaleOrUnissued
  require (fun _ => actsOn identity target) .cancelActionIdentityMismatch
  update fun s => { s with targets := { s.targets with activeTarget := some target.object } }
  return target.object

/-- `_discard_cancel_target_locked`. -/
def discardCancelTarget (object : Option Nat) (s : Authority) : Authority :=
  match object with
  | none => s
  | some object => { s with targets := { s.targets with
      registered := s.targets.registered.filter (· ≠ object)
      activeTarget := s.targets.activeTarget.filter (· ≠ object) } }

/-! ## Orders -/

/-- The oldest terminal orders beyond the limit are forgotten. -/
def dropTerminals (excess : Nat) : List (String × OrderState) → List (String × OrderState)
  | [] => []
  | entry :: rest =>
    match excess with
    | 0 => entry :: rest
    | excess + 1 =>
      if entry.2 = .terminal then dropTerminals excess rest
      else entry :: dropTerminals (excess + 1) rest

/-- `_remember_order_state`. -/
def rememberOrderState (orderRef : String) (state : OrderState) (s : Authority) : Authority :=
  let current := s.orderState.lookup orderRef
  if orderRef = "" ∨ (current = some .unknown ∧ state ≠ .unknown) ∨
      (current = some .terminal ∧ state = .active) then s
  else
    let moved := s.orderState.filter (·.1 ≠ orderRef) ++ [(orderRef, state)]
    let terminals := (moved.filter (·.2 = .terminal)).length
    { s with orderState := dropTerminals (terminals - s.limits.terminalOrderLimit) moved }

/-- `track_order_ref`. -/
def trackOrderRef (orderRef : String) (s : Authority) : Authority :=
  let moved := s.observed.knownOrderRefs.filter (· ≠ orderRef) ++ [orderRef]
  let limit := max 1024 (s.limits.historyLimit * 8)
  { s with observed := { s.observed with knownOrderRefs := moved.drop (moved.length - limit) } }

/-! ## Tickets -/

/-- `_dispatch_history.append(evidence)`, bounded. -/
def appendEvidence (evidence : Evidence) (s : Authority) : Authority :=
  let grown := s.latches.dispatchHistory ++ [evidence]
  { s with latches := { s.latches with
      dispatchHistory := grown.drop (grown.length - s.limits.historyLimit) } }.note
    (.recorded evidence)

/-- Change the ticket with this number. -/
def setTicket (change : Ticket → Ticket) (s : Authority) : Authority :=
  { s with latches := { s.latches with tickets := s.latches.tickets.modify number change } }

/-- `ticket._finished = True`. -/
def finishTicket : Authority → Authority :=
  setTicket number fun ticket => { ticket with finished := true }

variable (ticket : Ticket)

/-- The evidence of a dispatch: known if the native method returned 0 and nothing was raised. -/
def evidenceOf (nativeReturnCode : Option Int)
    (errorType : Option String) : Evidence where
  sequence := number + 1
  status := if nativeReturnCode = some 0 ∧ errorType = none then .known else .unknown
  identity := ticket.identity
  nativeReturnCode
  errorType := errorType.map boundedReason

/-- A dispatch whose outcome is known. -/
def settleKnown (identity : Identity) (s : Authority) : Authority :=
  match identity.operation, identity.orderRef with
  | .insert, some orderRef => (s.rememberOrderState orderRef .active).trackOrderRef orderRef
  | _, _ => s

/-- A dispatch whose outcome is not known: the authority is frozen for good. -/
def settleUnknown (evidence : Evidence) (answer : DisarmAnswer) (s : Authority) :
    Authority :=
  let recorded := { s with latches := { s.latches with unknownDispatch := some evidence } }
  (recorded.rememberOrderState ticket.stateRef .unknown).freezeAndDisarm
    ("native_" ++ ticket.identity.operation.name ++ "_outcome_unknown") answer

/-- `_finish_dispatch_ticket`, for a ticket that is active and has just been finished. -/
def finishDispatchTicket (nativeReturnCode : Option Int)
    (errorType : Option String) (answer : DisarmAnswer) (s : Authority) : Authority :=
  let evidence := evidenceOf number ticket nativeReturnCode errorType
  let recorded := (s.finishTicket number).appendEvidence evidence
  match evidence.status with
  | .known => recorded.settleKnown ticket.identity
  | .unknown => recorded.settleUnknown ticket evidence answer

/-- What a native return value says: its code, if it is an exact int. -/
def codeOf : Value → Option Int
  | .int code => some code
  | _ => none

/-- `record_native_return`. -/
def recordNativeReturn (value : Value) (answer : DisarmAnswer) :
    Locked Unit := fun s =>
  if ticket.finished then (.error .dispatchTicketReused, s)
  else if !ticket.active then (.error .dispatchTicketNotActive, s.finishTicket number)
  else
    let finished :=
      (s.note (.returned number value)).finishDispatchTicket number ticket (codeOf value) none answer
    if codeOf value = some 0 then (.ok (), finished)
    else (.error .dispatchOutcomeUnknown, finished)

/-- What a scope's body may raise. -/
structure Raised where
  typeName : String
  /-- The canonical `CtpExecutionGateError`, or a subclass of it made in that module. -/
  gateError : Bool
  isException : Bool
  deriving DecidableEq, Repr

/-- `_is_verified_pre_dispatch_rejection`. -/
def isVerifiedPreDispatchRejection (error : Raised) (answers : Answers) : Bool :=
  ticket.identity.operation = .cancel && error.gateError && answers.deadlineContract &&
    answers.actionEvidenceAbsent

/-- `record_pre_dispatch_rejection`. -/
def recordPreDispatchRejection (error : Raised)
    (answers : Answers) : Locked Bool := fun s =>
  if ticket.finished then (.error .dispatchTicketReused, s)
  else if !isVerifiedPreDispatchRejection ticket error answers then (.ok false, s)
  else if !ticket.active then (.error .dispatchTicketNotActive, s.finishTicket number)
  else (.ok true, (s.finishTicket number).note (.rejected number))

/-- What happens to a ticket that nobody has finished when its scope ends. -/
def settleTicket (raised : Option Raised) (answers : Answers)
    (s : Authority) : Authority :=
  if ticket.finished then s
  else
    match raised with
    | none =>
      s.finishDispatchTicket number ticket none (some "native_return_unobserved") answers.disarm
    | some error =>
      match recordPreDispatchRejection number ticket error answers s with
      | (.ok true, rejected) => rejected
      | _ => s.finishDispatchTicket number ticket none (some error.typeName) answers.disarm

/-- The `finally` of a scope. -/
def closeTicket (s : Authority) : Authority :=
  let closed := s.setTicket number fun ticket => { ticket with active := false }
  ({ closed with observed := { closed.observed with
      dispatchingOrderRefs := closed.observed.dispatchingOrderRefs.filter (· ≠ ticket.stateRef) }
    }.discardCancelTarget ticket.target).note (.ended number)

/-- The end of `native_write_scope`. -/
def leaveScope (raised : Option Raised) (answers : Answers)
    (s : Authority) : Authority :=
  (s.settleTicket number ticket raised answers).closeTicket number ticket

end Authority

end BtApiCtp.Dispatch
