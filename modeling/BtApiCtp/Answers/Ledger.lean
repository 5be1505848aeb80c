/-
# Answers.Ledger -- what the callbacks told about orders and cancels

`_record_order_insert_callback` and `_handle_order_action_callback` of `ctp/client.py`, with
the two histories they write.  The handlers are one function that is given the identity it
compares, the fields that have to be present and its reasons; `Kind` says which.  Native
fields are given as `_native_text_field` and `_native_int_field` read them.  The execution
listeners and the queues of raw events are left out: neither handler reads them back.
-/
import BtApiCtp.Session.Client
import BtApiCtp.Theory.Fallible
import BtApiCtp.Trader.Client
import Mathlib.Order.Lattice

namespace BtApiCtp.Answers

open Theory Session

/-! ## Callbacks -/

inductive Status where
  | unknown
  | accepted
  | rejected
  deriving DecidableEq, Repr

/-- `OnRspOrderInsert` and `OnRspOrderAction`, or `OnErrRtnOrderInsert` and
`OnErrRtnOrderAction`. -/
inductive Source where
  | response
  | errorReturn
  deriving DecidableEq, Repr

/-- `_OrderInsertIdentity`. -/
structure OrderInsertIdentity where
  brokerId : String
  investorId : String
  userId : String
  instrumentId : String
  exchangeId : String
  orderRef : String
  fieldRequestId : Option Int
  deriving DecidableEq, Repr

/-- `_OrderActionIdentity`. -/
structure OrderActionIdentity where
  brokerId : String
  investorId : String
  orderActionRef : String
  orderRef : String
  fieldRequestId : Option Int
  frontId : Option Int
  sessionId : Option Int
  exchangeId : String
  orderSysId : String
  actionFlag : String
  instrumentId : String
  deriving DecidableEq, Repr

/-- Which of the two histories. -/
inductive Kind where
  | insert
  | action
  deriving DecidableEq, Repr

namespace Kind

def Identity : Kind → Type
  | .insert => OrderInsertIdentity
  | .action => OrderActionIdentity

instance : (kind : Kind) → DecidableEq kind.Identity
  | .insert => inferInstanceAs (DecidableEq OrderInsertIdentity)
  | .action => inferInstanceAs (DecidableEq OrderActionIdentity)

/-- The reference in the key of a request. -/
def ref : (kind : Kind) → kind.Identity → String
  | .insert, identity => OrderInsertIdentity.orderRef identity
  | .action, identity => OrderActionIdentity.orderActionRef identity

def fieldRequestId : (kind : Kind) → kind.Identity → Option Int
  | .insert, identity => OrderInsertIdentity.fieldRequestId identity
  | .action, identity => OrderActionIdentity.fieldRequestId identity

/-- `value` is a number other than zero. -/
def truthy : Option Int → Bool
  | some n => n != 0
  | none => false

/-- `identity_present`, `order_identity_present`. -/
def present : (kind : Kind) → kind.Identity → Bool
  | .insert, (identity : OrderInsertIdentity) =>
    identity.orderRef != "" && identity.brokerId != "" && identity.investorId != "" &&
      identity.userId != "" && identity.instrumentId != "" && identity.exchangeId != ""
  | .action, (identity : OrderActionIdentity) =>
    (identity.orderRef != "" && truthy identity.frontId && truthy identity.sessionId) ||
      (identity.orderSysId != "" && identity.exchangeId != "")

/-- A cancel has an action flag to check as well. -/
def isCancel : (kind : Kind) → kind.Identity → Bool
  | .insert, _ => true
  | .action, identity => OrderActionIdentity.actionFlag identity = "0"

def rejectedReason : Kind → String
  | .insert => "native_order_insert_rejected"
  | .action => "native_cancel_rejected"

def acceptedReason : Kind → String
  | .insert => "order_insert_request_accepted"
  | .action => "cancel_request_accepted"

end Kind

/-- A callback: `request_id` is what `int(nRequestID)` comes to, and `is_last` counts only if
it is a `bool`. -/
structure Callback (kind : Kind) where
  source : Source
  identity : kind.Identity
  rspInfo : Option RspInfo
  requestId : Option Int := none
  isLast : Option Bool := none
  deriving DecidableEq

/-- A callback that reaches its handler: whether the SPI and API it comes from are the
client's at that moment, and the time. -/
structure Delivery (kind : Kind) where
  current : Bool
  callback : Callback kind
  now : Int
  deriving DecidableEq

/-! ## Evidence -/

/-- The session that a request belongs to. -/
structure Scope where
  accountFingerprint : String
  connectionGeneration : Int
  tradingDay : String
  deriving DecidableEq, Repr

/-- `CtpOrderInsertEvidence`, `CtpOrderActionEvidence`, without the fields that repeat the
identity. -/
structure Evidence where
  requestId : Int
  accountFingerprint : String
  connectionGeneration : Int
  tradingDay : String
  status : Status := .unknown
  evidenceSource : Option Source := none
  callbackReceived : Bool := false
  evidenceReceived : Bool := false
  errorCode : Option Int := none
  errorMessage : String := ""
  reason : String := "awaiting_native_callback"
  observedAtUtc : Option Int := none
  submitCode : Option Int := none
  deriving DecidableEq, Repr

/-- What the client demands of a request before it records it. -/
structure Admissible (kind : Kind) (requestId : Int) (identity : kind.Identity) : Prop where
  numbered : kind.fieldRequestId identity = some requestId
  present : kind.present identity = true
  isCancel : kind.isCancel identity = true

instance (kind : Kind) (requestId : Int) (identity : kind.Identity) :
    Decidable (Admissible kind requestId identity) :=
  decidable_of_iff (kind.fieldRequestId identity = some requestId ∧
      kind.present identity = true ∧ kind.isCancel identity = true)
    ⟨fun ⟨numbered, present, isCancel⟩ => ⟨numbered, present, isCancel⟩,
      fun ⟨numbered, present, isCancel⟩ => ⟨numbered, present, isCancel⟩⟩

/-- The evidence of a request and the identity it was sent under. -/
structure Entry (kind : Kind) where
  evidence : Evidence
  identity : kind.Identity
  admissible : Admissible kind evidence.requestId identity

/-- `identity_matches`. -/
def Entry.identityMatches {kind : Kind} (entry : Entry kind) (cb : Callback kind) : Bool :=
  entry.identity = cb.identity

/-- `scope_matches`. -/
def Entry.scopeMatches {kind : Kind} (entry : Entry kind) (scope : Scope) : Bool :=
  entry.evidence.accountFingerprint = "acct_" ++ scope.accountFingerprint &&
    entry.evidence.connectionGeneration = scope.connectionGeneration &&
    entry.evidence.tradingDay = scope.tradingDay

/-- What a callback says by itself. -/
structure Judgement where
  status : Status
  reason : String
  evidenceReceived : Bool
  deriving DecidableEq, Repr

/-- A callback whose identity, scope and fields fit. -/
def judgeFitting (kind : Kind) (cb : Callback kind) : Judgement :=
  match (rspError cb.rspInfo).1 with
  | none => ⟨.unknown, "native_response_info_missing", true⟩
  | some errorCode =>
    if cb.source = .response ∧ cb.isLast ≠ some true then
      ⟨.unknown, "native_response_not_terminal", true⟩
    else if errorCode ≠ 0 then ⟨.rejected, kind.rejectedReason, true⟩
    else match cb.source with
      | .errorReturn => ⟨.unknown, "native_error_return_without_error_code", true⟩
      | .response => ⟨.accepted, kind.acceptedReason, true⟩

/-- The chain of conditions in the handlers. -/
def judge {kind : Kind} (scope : Scope) (entry : Entry kind) (cb : Callback kind) : Judgement :=
  if entry.identityMatches cb = false then ⟨.unknown, "callback_identity_mismatch", false⟩
  else if kind.fieldRequestId cb.identity ≠ some entry.evidence.requestId then
    ⟨.unknown, "native_request_id_mismatch", false⟩
  else if entry.scopeMatches scope = false then
    ⟨.unknown, "callback_session_scope_mismatch", false⟩
  else if kind.present cb.identity = false then
    ⟨.unknown, "native_order_identity_incomplete", false⟩
  else if kind.isCancel cb.identity = false then ⟨.unknown, "action_flag_not_cancel", false⟩
  else judgeFitting kind cb

/-- Which status stays: a rejection against an acceptance, an acceptance against a callback
that decides nothing. -/
def settle (old new : Status) : Status :=
  if old = .rejected ∧ new = .accepted then .rejected
  else if old = .accepted ∧ new = .unknown then .accepted
  else new

/-- The reason that goes with it. -/
def settleReason (old : Evidence) (new : Judgement) : String :=
  if (old.status = .rejected ∧ new.status = .accepted) ∨
      (old.status = .accepted ∧ new.status = .unknown) then old.reason
  else new.reason

/-- A callback that the handler found a request for; `none` if it only counts as late. -/
def Entry.record {kind : Kind} (entry : Entry kind) (scope : Scope) (cb : Callback kind)
    (now : Int) : Option (Entry kind) :=
  if entry.evidence.status ≠ .unknown ∧
      (entry.identityMatches cb = false ∨ entry.scopeMatches scope = false) then none
  else
    let judgement := judge scope entry cb
    some { entry with
      evidence := { entry.evidence with
        evidenceSource := some cb.source
        callbackReceived := true
        evidenceReceived := judgement.evidenceReceived
        errorCode := (rspError cb.rspInfo).1
        errorMessage := (rspError cb.rspInfo).2
        observedAtUtc := some now
        status := settle entry.evidence.status judgement.status
        reason := settleReason entry.evidence judgement } }

/-! ## The history -/

abbrev RequestKey := Int × String

structure Ledger (kind : Kind) where
  scope : Scope
  entries : Dict RequestKey (Entry kind) := ∅
  lateCallbackCount : Nat := 0

namespace Ledger

variable {kind : Kind} (l : Ledger kind) (key : RequestKey)

/-- The requests that a callback may be about. -/
def candidates (cb : Callback kind) : List RequestKey :=
  match cb.source with
  | .response =>
    let candidates := l.entries.keys.filter fun key => cb.requestId = some key.1
    if candidates.length = 1 then candidates
    else candidates.filter fun key => key.2 = kind.ref cb.identity
  | .errorReturn =>
    let candidates := l.entries.keys.filter fun key => key.2 = kind.ref cb.identity
    let candidates :=
      if kind.fieldRequestId cb.identity = none ∨ kind.fieldRequestId cb.identity = some 0 then
        candidates
      else candidates.filter fun key => kind.fieldRequestId cb.identity = some key.1
    let exactCandidates := candidates.filter fun key =>
      (l.entries.lookup key).map Entry.identity = some cb.identity
    if exactCandidates.isEmpty then candidates else exactCandidates

/-- The only candidate, if there is one. -/
def target (cb : Callback kind) : Option RequestKey :=
  match l.candidates cb with
  | [key] => some key
  | _ => none

/-- Replace the entry of a key. -/
def update (f : Entry kind → Entry kind) : Ledger kind :=
  { l with entries := l.entries.mapValues fun k entry => if k = key then f entry else entry }

def late : Ledger kind := { l with lateCallbackCount := l.lateCallbackCount + 1 }

/-- `_record_order_insert_callback`, `_handle_order_action_callback`. -/
def deliver (delivery : Delivery kind) : Ledger kind :=
  if delivery.current = false then l
  else
    match l.target delivery.callback with
    | none => l.late
    | some key =>
      match (l.entries.lookup key).bind
          fun entry => entry.record l.scope delivery.callback delivery.now with
      | none => l.late
      | some entry => l.update key fun _ => entry

/-- Record a request that is about to be sent. -/
def submit (requestId : Int) (identity : kind.Identity) : Ledger kind :=
  if admissible : Admissible kind requestId identity then
    if Trader.usedRequestId l.entries requestId then l
    else
      { l with
        entries := l.entries.insert (requestId, kind.ref identity)
          { evidence :=
              { requestId
                accountFingerprint := "acct_" ++ l.scope.accountFingerprint
                connectionGeneration := l.scope.connectionGeneration
                tradingDay := l.scope.tradingDay }
            identity
            admissible } }
  else l

/-- An order's evidence is given up or annotated only as long as it is the one that was
recorded; a cancel's in any case. -/
def untouched (evidence : Evidence) : Kind → Bool
  | .insert => !evidence.callbackReceived
  | .action => true

/-- The native method was not entered. -/
def withdraw : Ledger kind :=
  match l.entries.lookup key with
  | some entry =>
    if untouched entry.evidence kind then { l with entries := l.entries.erase key } else l
  | none => l

/-- The native method raised. -/
def raised : Ledger kind :=
  l.update key fun entry =>
    if untouched entry.evidence kind then
      { entry with evidence := { entry.evidence with reason := "native_submit_exception" } }
    else entry

/-- The native method returned. -/
def returned (submitCode : Option Int) : Ledger kind :=
  l.update key fun entry => { entry with evidence := { entry.evidence with submitCode } }

end Ledger

/-- Whatever happens to a history. -/
inductive Event (kind : Kind) where
  | submit (requestId : Int) (identity : kind.Identity)
  | withdraw (key : RequestKey)
  | raised (key : RequestKey)
  | returned (key : RequestKey) (submitCode : Option Int)
  | callback (delivery : Delivery kind)
  /-- `OnRtnOrder`, which goes to the queue of order events. -/
  | orderReturn
  /-- A connect, a login or a disconnect. -/
  | session (scope : Scope)

namespace Ledger

variable {kind : Kind}

def step (l : Ledger kind) : Event kind → Ledger kind
  | .submit requestId identity => l.submit requestId identity
  | .withdraw key => l.withdraw key
  | .raised key => l.raised key
  | .returned key submitCode => l.returned key submitCode
  | .callback delivery => l.deliver delivery
  | .orderReturn => l
  | .session scope => { l with scope }

def run (l : Ledger kind) (events : List (Event kind)) : Ledger kind := events.foldl step l

/-- The steps of a run, each with the state it was taken in. -/
def steps (l : Ledger kind) : List (Event kind) → List (Ledger kind × Event kind)
  | [] => []
  | event :: events => (l, event) :: (l.step event).steps events

def deliverAll (l : Ledger kind) (deliveries : List (Delivery kind)) : Ledger kind :=
  deliveries.foldl deliver l

/-- The recorded status of a request. -/
def status (l : Ledger kind) (key : RequestKey) : Option Status :=
  (l.entries.lookup key).map fun entry => entry.evidence.status

end Ledger

end BtApiCtp.Answers
