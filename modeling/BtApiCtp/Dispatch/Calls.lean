/-
# Dispatch.Calls -- calls, scopes and callbacks

The public methods of the authority.  A call runs under `_lock` from its beginning to its end,
and a scope keeps `_lock` for the thread that opened it until it is left, so calls come one
after the other; what can happen in the middle of one is a native callback, which takes only
`_observation_lock`.  A call that looks at the callback ledger more than once is therefore cut
there: it leaves a `Pending` and goes on with the event `proceed`.

A ticket is used by the thread whose scope yielded it.
-/
import BtApiCtp.Dispatch.State

namespace BtApiCtp.Dispatch

open Python Theory
open Section hiding read

namespace Authority

variable (host : Session.Host) (answers : Answers) (request : ScopeRequest) (s : Authority)
  (thread : Nat)

/-- No call is under way, and whoever keeps `_lock` is this thread. -/
def free (thread : Nat) : Bool :=
  s.pending.isNone && s.latches.tickets.all (fun ticket => !ticket.active || ticket.thread = thread) &&
    s.sessionScopes.all fun opened => opened.1 = thread

def suspend (pending : Pending) (s : Authority) : Authority := { s with pending := some pending }

/-! ## Arms -/

/-- An arm call, numbered once it has passed `_require_armable`. -/
def beginArm (pending : Nat → Pending) : Locked Unit := do
  requireArmable
  update fun s =>
    ({ s with grant := { s.grant with armCalls := s.grant.armCalls + 1 } }.note
      (.armBegan s.grant.armCalls)).suspend (pending s.grant.armCalls)

/-- The gate is armed for another route, or for this one with a grant that is out of date. -/
def releaseArmedGate : Value → Locked Unit
  | .mapping _ entries =>
    match Value.field entries "armed" with
    | some (.bool true) => do
      require (fun s => s.grant.capability.isSome) .gateHasUnownedGrant
      require (fun s => s.grant.armedRoute.any (s.currentGrantMatches host answers 2))
        .gateGrantStale
      disarmLocked answers.disarm
    | some (.bool false) => update fun s =>
      { s with grant := { s.grant with capability := none, armedRoute := none } }
    | _ => raise .gateStateMalformed
  | _ => raise .gateStateUnobserved

/-- `ensure_registered_sim_arm_for`, after `_require_armable`, up to that of the arm. -/
def ensureRegisteredSimArmFor (call : Nat) (route : Route) : Locked Unit := do
  let current ← currentSession answers 0
  ask fun s => requireSessionMatch current s.expectedSession
  require (fun s => s.grant.templates.all fun templates => (templates.lookup route).isSome)
    .armTemplateMissing
  let kept ← Section.read fun s => s.currentGrantMatches host answers 1 route
  if kept then update (note (.armed call))
  else do
    let observed ← readGateState answers 0
    releaseArmedGate host answers observed
    require (fun s => s.grant.templates.isSome) .armTemplateUnconfigured
    requireArmable
    update fun s => (s.note (.armBegan call)).suspend (.arming call route)

/-- `configure_arm_templates`. -/
def configureArmTemplates (templates : Dict Route ArmTemplate) : Locked Unit := do
  requireArmable
  let configured ← Section.read fun s => s.grant.templates
  match configured with
  | some before =>
    require (fun _ => decide (before.entries.Perm templates.entries))
      .armTemplatesImmutable
  | none => do
    require (fun s => s.grant.capability.isNone) .disarmBeforeTemplateChange
    update fun s => { s with grant := { s.grant with templates := some templates } }

/-! ## Scopes -/

/-- The beginning of `require_write`. -/
def beginCheck (route : Route) (scope : Option ScopeRequest) : Locked Unit := do
  requireArmable
  update (suspend (.checking route scope))

/-- The beginning of `native_write_scope`. -/
def beginScope : Locked Unit := do
  require (fun _ => request.operation.isSome) .dispatchIdentityRequired
  beginCheck (request.instrumentId, request.exchangeId) (some request)

/-- `require_write`, after `_require_armable`. -/
def requireWrite (route : Route) : Locked Unit := do
  require (fun s => !s.observed.ledger.unresolved) .callbackUnknownUnresolved
  let current ← currentSession answers 0
  ask fun s => requireSessionMatch current s.expectedSession
  require (fun s => s.currentGrantMatches host answers 1 route) .gateGrantMismatch
  require (fun _ => answers.requireWrite ≠ .unavailable) .writeGateUnavailable
  require (fun _ => answers.requireWrite ≠ .rejected) .writeRejected
  requireOr (fun _ => answers.requireWrite ≠ .interrupted)
    (freezeAndDisarm "native_write_admission_interrupted" answers.disarm) .clientRaised
  let afterwards ← currentSession answers 2
  lift (requireSessionMatch afterwards (some current))
  requireOr (fun s => s.currentGrantMatches host answers 3 route)
    (freezeAndDisarm "native_gate_changed_during_admission" answers.disarm)
    .gateChangedDuringAdmission

/-- The target of a scope, if it has one. -/
def claimTarget (identity : Identity) : Locked (Option Nat) :=
  match request.cancelTarget with
  | some target =>
    if identity.operation ≠ .cancel then raise .cancelTargetOperationMismatch
    else
      match target with
      | none => raise .cancelTargetStaleOrUnissued
      | some target => do
        let object ← claimCancelTarget host answers request identity target
        return some object
  | none => do
    require (fun s => identity.operation ≠ .cancel || s.targets.activeTarget.isNone)
      .cancelTargetDispatchConflict
    return none

/-- The order reference a scope dispatches, made up where there is none. -/
def stateRefOf (identity : Identity) : String :=
  (request.orderRef.or identity.orderRef).getD
    ("UNKNOWN-" ++ identity.operation.name ++ "-" ++ toString identity.requestId)

/-- `native_write_scope` between `require_write` and `_observation_lock`. -/
def prepareScope : Locked Unit := do
  let identity ← lift (normalizeDispatchIdentity request (request.operation.getD none))
  let target ← claimTarget host answers request identity
  update (suspend (.entering request identity (stateRefOf request identity) target))

/-- The ticket is made, and the scope's body begins. -/
def openScope (identity : Identity) (stateRef : String)
    (target : Option Nat) (s : Authority) : Authority :=
  let ticket : Ticket :=
    { identity, stateRef, target, thread := request.thread, finished := false, active := true }
  note (.admitted s.latches.tickets.length) { s with
    observed := { s.observed with
      dispatchingOrderRefs := s.observed.dispatchingOrderRefs ++ [stateRef] }
    latches := { s.latches with tickets := s.latches.tickets ++ [ticket] } }

/-- `native_write_scope` from `_observation_lock` to the body. -/
def admitScope (identity : Identity) (stateRef : String)
    (target : Option Nat) : Locked Unit := do
  requireOr (fun s => !s.observed.ledger.unresolved) (discardCancelTarget target)
    .callbackUnknownUnresolved
  requireOr (fun s => stateRef ∉ s.observed.dispatchingOrderRefs)
    (discardCancelTarget target) .orderDispatchReused
  update (openScope request identity stateRef target)

/-- A call goes on. -/
def resume : Pending → Locked Unit
  | .arming call route => armRegisteredSimExecution host answers call route
  | .ensuring call route => ensureRegisteredSimArmFor host answers call route
  | .checking route scope => do
    requireWrite host answers route
    match scope with
    | none => return ()
    | some request => prepareScope host answers request
  | .entering request identity stateRef target => admitScope request identity stateRef target

/-! ## Session scopes and cancel targets -/

/-- The beginning of `expected_session_scope`. -/
def enterSession (expected : SessionIdentity) (answers : Answers) : Locked Unit := do
  let current ← currentSession answers 0
  lift (requireSessionMatch current (some expected))
  require (fun s => s.expectedSession.all (· = expected)) .nestedSessionConflict
  update fun s => { s with
    expectedSession := some expected
    sessionScopes := (thread, s.expectedSession) :: s.sessionScopes }

/-- Its end. -/
def leaveSession : Authority :=
  match s.sessionScopes with
  | [] => s
  | (_, prior) :: rest => { s with expectedSession := prior, sessionScopes := rest }

/-- `bind_cancel_target_issuer`. -/
def bindCancelTargetIssuer (issuer issuerSeal : Nat) : Locked Unit := do
  require (fun s => !s.latches.frozen) .gateFrozen
  require (fun s => s.targets.issuer.all (· = (issuer, issuerSeal))) .cancelIssuerImmutable
  update fun s => { s with targets := { s.targets with issuer := some (issuer, issuerSeal) } }

/-- `register_cancel_target`. -/
def registerCancelTarget (target : CancelTarget) : Locked Unit := do
  require (fun s => s.targets.issuer.isSome) .cancelIssuerUnbound
  require (fun s => s.targets.issuer = some (target.issuer, target.issuerSeal))
    .cancelTargetIssuerMismatch
  require (fun _ => answers.monotonic < target.sourceExpiresMonotonic) .cancelTargetExpired
  let current ← currentSession answers 0
  ask fun s => requireSessionMatch current s.expectedSession
  require (fun s => s.expectedSession.any (cancelTargetSessionMatches target))
    .cancelTargetSessionMismatch
  require
    (fun s => s.currentGrantMatches host answers 1 (target.instrumentId, target.exchangeId))
    .cancelTargetRouteUnarmed
  require (fun s => target.object ∉ s.targets.registered) .cancelTargetReused
  require (fun s => s.targets.registered.length < s.limits.cancelTargetLimit)
    .cancelTargetCapacityExceeded
  update fun s => { s with targets := { s.targets with
    registered := s.targets.registered ++ [target.object] } }

/-! ## Callbacks -/

/-- What `observe_order_callback` reads of an `OnRtnOrder` payload. -/
structure OrderCallback where
  orderRef : String
  /-- In lower case. -/
  status : String
  frontId : Option Int
  sessionId : Option Int
  deriving DecidableEq, Repr

/-- The keys of `ORDER_STATUS_MAP`. -/
def orderStatuses : List String := ["0", "1", "2", "3", "4", "5", "a", "b", "c"]

def terminalOrderStatuses : List String := ["0", "4", "5"]

inductive CallbackEffect where
  | ignored
  | remembered (orderRef : String) (state : OrderState)
  | latched (orderRef : Option String) (identityIncomplete : Bool)
  deriving DecidableEq, Repr

/-- The callback names the session of another front. -/
def OrderCallback.foreignTo (callback : OrderCallback) (current : SessionIdentity) : Bool :=
  match callback.frontId, callback.sessionId, current.ids with
  | some front, some session, some ids => (front, session) ≠ ids
  | _, _, _ => false

/-- `observe_order_callback`: `none` for a payload that cannot be read; `known` is whether the
order reference was tracked, `session` what the client said where it was asked. -/
def observeOrderCallback (payload : Option OrderCallback) (known : Bool)
    (session : Option SessionIdentity) : CallbackEffect :=
  match payload with
  | none => .latched none true
  | some callback =>
    let orderRef := if callback.orderRef = "" then none else some callback.orderRef
    if callback.status ≠ "a" ∧ callback.status ∈ orderStatuses then
      if orderRef.isNone || (!known && session.all callback.foreignTo) then .ignored
      else .remembered callback.orderRef
        (if callback.status ∈ terminalOrderStatuses then .terminal else .active)
    else if callback.frontId.isNone ≠ callback.sessionId.isNone then .latched orderRef true
    else if known then .latched orderRef orderRef.isNone
    else
      match session with
      | none => .latched orderRef true
      | some current =>
        if callback.foreignTo current then .ignored
        else
          -- without both identities it stays open whose order it was
          .latched orderRef
            (orderRef.isNone || callback.frontId.isNone || current.ids.isNone)

/-! ## Events -/

/-- What `order_insert_evidence` and `order_action_evidence` find. -/
inductive EvidenceReading where
  | untyped
  | sessionMismatch
  | outcomeUnknown
  | plain
  deriving DecidableEq, Repr

inductive Call where
  | configureArmTemplates (templates : Dict Route ArmTemplate)
  | armRegisteredSimExecution (route : Route)
  | ensureRegisteredSimArmFor (route : Route)
  | disarmRegisteredSimExecution
  | freezeRegisteredSimExecution (reason : String)
  | requireWrite (route : Route)
  | enterScope (request : ScopeRequest)
  | recordNativeReturn (number : Nat) (value : Value)
  | recordPreDispatchRejection (number : Nat) (error : Raised)
  | leaveScope (number : Nat) (raised : Option Raised)
  | enterSession (expected : SessionIdentity)
  | leaveSession
  | bindCancelTargetIssuer (issuer issuerSeal : Nat)
  | registerCancelTarget (target : CancelTarget)
  | discardCancelTarget (object : Nat)
  | rememberOrderTerminal (orderRef : String)
  | orderEvidence (operation : Operation) (reading : EvidenceReading)

/-- A use of a ticket by the thread of its scope. -/
def withTicket (thread number : Nat) (use : Ticket → Authority → Authority) (s : Authority) :
    Authority :=
  match s.latches.tickets[number]? with
  | some ticket => if ticket.thread = thread then use ticket s else s
  | none => s

/-- What a call does up to its end, or to where it is cut. -/
def perform (answers : Answers) : Call → Authority → Authority
  | .configureArmTemplates templates, s => (configureArmTemplates templates s).2
  | .armRegisteredSimExecution route, s => (beginArm (.arming · route) s).2
  | .ensureRegisteredSimArmFor route, s => (beginArm (.ensuring · route) s).2
  | .disarmRegisteredSimExecution, s => (disarmLocked answers.disarm s).2
  | .freezeRegisteredSimExecution reason, s => (disarmLocked answers.disarm (s.freeze reason)).2
  | .requireWrite route, s => (beginCheck route none s).2
  | .enterScope request, s => (beginScope { request with thread } s).2
  | .recordNativeReturn number value, s => s.withTicket thread number fun ticket s =>
    (recordNativeReturn number ticket value answers.disarm s).2
  | .recordPreDispatchRejection number error, s => s.withTicket thread number fun ticket s =>
    (recordPreDispatchRejection number ticket error answers s).2
  | .leaveScope number raised, s => s.withTicket thread number fun ticket s =>
    if ticket.active then s.leaveScope number ticket raised answers else s
  | .enterSession expected, s => (enterSession thread expected answers s).2
  | .leaveSession, s => s.leaveSession
  | .bindCancelTargetIssuer issuer issuerSeal, s => (bindCancelTargetIssuer issuer issuerSeal s).2
  | .registerCancelTarget target, s => (registerCancelTarget host answers target s).2
  | .discardCancelTarget object, s => { s with targets := { s.targets with
      registered := s.targets.registered.filter (· ≠ object) } }
  | .rememberOrderTerminal orderRef, s => s.rememberOrderState orderRef .terminal
  | .orderEvidence operation reading, s =>
    match reading with
    | .plain => s
    | .untyped => s.freezeAndDisarm ("native_" ++ actionName operation ++ "_evidence_untyped")
        answers.disarm
    | .sessionMismatch => s.freezeAndDisarm
        ("native_" ++ actionName operation ++ "_evidence_session_mismatch") answers.disarm
    | .outcomeUnknown => s.freezeAndDisarm
        ("native_" ++ actionName operation ++ "_outcome_unknown") answers.disarm
where
  actionName : Operation → String
    | .insert => "insert"
    | .cancel => "action"

inductive Event where
  | call (thread : Nat) (call : Call) (answers : Answers)
  /-- The call that is under way takes `_observation_lock` and goes on. -/
  | proceed (answers : Answers)
  | callback (thread : Nat) (payload : Option OrderCallback) (known : Bool)
      (session : Option SessionIdentity)
  | trackOrderRef (orderRef : String)

/-- What a callback comes to; what needs `_lock` waits for it. -/
def CallbackEffect.act : CallbackEffect → Authority → Authority
  | .ignored, s => s
  | .remembered orderRef state, s => if s.free thread then s.rememberOrderState orderRef state else s
  | .latched orderRef identityIncomplete, s => s.latchCallbackUnknown orderRef identityIncomplete

/-- A call of a thread that `_lock` keeps out does not begin. -/
def step : Event → Authority
  | .call thread call answers => if s.free thread then perform host thread answers call s else s
  | .proceed answers =>
    match s.pending with
    | some pending => (resume host answers pending { s with pending := none }).2
    | none => s
  | .callback thread payload known session =>
    (observeOrderCallback payload known session).act thread s
  | .trackOrderRef orderRef => s.trackOrderRef orderRef

/-- A new authority that saw these events. -/
def run (limits : Limits) (events : List Event) : Authority :=
  events.foldl (step host) { limits }

end Authority

end BtApiCtp.Dispatch
