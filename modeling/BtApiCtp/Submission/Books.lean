/-
# Submission.Books -- the order requests a client keeps books on

`submit_order_insert`, `submit_order_action` and, for their two native methods,
`_invoke_session_native_request` of `ctp/client.py`, with the deadline and the managed cancel
identity of a cancel.  A history of requests and the identities they were sent under are written
and given up together (`Register`); beside them stand the reserved cancel intents and the
request counts.

What happens under `_query_state_lock` is one step.  Checks that do not look at the books (gate,
authorizations, bound identity, native field) pass or raise as the surroundings decide.  The
last two fields of the client are not in the program: every entry into a native method, and
which call recorded a cancel.
-/
import BtApiCtp.Answers.Ledger
import BtApiCtp.Dispatch.State
import Mathlib.Data.Finset.Basic

namespace BtApiCtp.Submission

open Theory Python Answers
open Trader (Exn NativeValue consumeAuthorization demand firstRaised usedRequestId)

/-! ## Registers -/

/-- A history with the identities of its requests. -/
structure Register (ι : Type) where
  history : Dict RequestKey Evidence := ∅
  identities : Dict RequestKey ι := ∅
  paired : ∀ key, key ∈ identities ↔ key ∈ history := by exact fun _ => Iff.rfl

namespace Register

variable {ι : Type} {r : Register ι}

@[ext]
theorem ext_of_parts {r' : Register ι} (history : r.history = r'.history)
    (identities : r.identities = r'.identities) : r = r' := by
  cases r
  cases r'
  cases history
  cases identities
  rfl

def record (r : Register ι) (key : RequestKey) (evidence : Evidence) (identity : ι) :
    Register ι where
  history := r.history.insert key evidence
  identities := r.identities.insert key identity
  paired other := by rw [AList.mem_insert, AList.mem_insert, r.paired]

/-- `pop(key, None)` of both. -/
def drop (r : Register ι) (key : RequestKey) : Register ι where
  history := r.history.erase key
  identities := r.identities.erase key
  paired other := by rw [AList.mem_erase, AList.mem_erase, r.paired]

theorem mem_mapValues {κ ν : Type} [DecidableEq κ] (f : κ → ν → ν) (d : Dict κ ν) (key : κ) :
    key ∈ d.mapValues f ↔ key ∈ d := by
  rw [← AList.lookup_isSome, ← AList.lookup_isSome, Dict.lookup_mapValues, Option.isSome_map]

/-- Change the evidence of a request, if it is there. -/
def note (r : Register ι) (key : RequestKey) (f : Evidence → Evidence) : Register ι where
  history := r.history.mapValues fun k evidence => if k = key then f evidence else evidence
  identities := r.identities
  paired other := by rw [mem_mapValues, r.paired]

/-- What was not there before is given up without a trace. -/
theorem drop_record {key : RequestKey} (fresh : key ∉ r.history) (evidence : Evidence)
    (identity : ι) : (r.record key evidence identity).drop key = r := by
  have erased : ∀ {ν : Type} {d : Dict RequestKey ν} (v : ν), key ∉ d →
      (d.insert key v).erase key = d := by
    intro ν d v absent
    apply AList.ext
    change List.kerase key (d.insert key v).entries = d.entries
    rw [AList.entries_insert_of_notMem absent]
    exact List.kerase_cons_eq rfl
  ext1
  · exact erased evidence fresh
  · exact erased identity ((r.paired key).not.mpr fresh)

end Register

/-! ## The client -/

structure Books where
  inserts : Register OrderInsertIdentity := {}
  actions : Register OrderActionIdentity := {}
  managedCancelActionsSeen : Finset String := ∅
  /-- All the keys of `empty_ctp_request_counts` are there from the beginning. -/
  requestCounts : String → Nat := fun _ => 0

namespace Books

variable (b : Books)

/-- `_record_request`. -/
def recordRequest (requestType : String) : Books :=
  { b with requestCounts := fun key => b.requestCounts key + if key = requestType then 1 else 0 }

/-- The count of a request that was not entered is taken back. -/
def unrecordRequest (requestType : String) : Books :=
  { b with requestCounts := fun key => b.requestCounts key - if key = requestType then 1 else 0 }

/-- The set with the intent of a managed cancel. -/
def reserve : Option String → Books
  | some intent =>
    { b with managedCancelActionsSeen := insert intent b.managedCancelActionsSeen }
  | none => b

def release : Option String → Books
  | some intent =>
    { b with managedCancelActionsSeen := b.managedCancelActionsSeen.erase intent }
  | none => b

end Books

/-- One entry into a native order method: by which call, and for which request. -/
structure NativeCall where
  caller : Nat
  kind : Kind
  key : RequestKey
  deriving DecidableEq

/-- The books of a new client. -/
def Books.fresh : Books := {}

structure Client where
  books : Books := .fresh
  /-- The native API object, if there is one. -/
  api : Option Nat := none
  /-- Whether a managed callback ingress is installed. -/
  callbackIngress : Bool := false
  scope : Scope
  nativeRequestInflightRefs : Nat := 0
  nativeCalls : List NativeCall := []
  actionOwners : Dict RequestKey Nat := ∅

/-- What the surroundings decide at one step. -/
structure Chance where
  /-- What a check that does not look at the books raises. -/
  raises : Option Exn := none
  mintRaises : Option Exn := none
  lookupRaises : Option Exn := none
  callable : Bool := true
  /-- A SimNow write authorization was issued. -/
  authorized : Bool := false
  /-- Writes are restricted to SimNow, and there is no current direct admission. -/
  restricted : Bool := false
  /-- `time.monotonic()`. -/
  monotonic : ℚ := 0
  /-- An exception from outside, between the last check and the native method. -/
  interrupted : Option Exn := none
  native : Except Exn NativeValue := .ok (.int 0)
  /-- The managed session of a lease is no longer what it was. -/
  lifecycleInvalid : Bool := false

abbrev Action (α : Type) := Prog Client Chance Exn α

/-! ## Entering the native method -/

/-- How `_invoke_session_native_request` ended.  Where it was blocked, `recorded` says whether
`pre_dispatch` had been called. -/
inductive Dispatch where
  | blocked (e : Exn) (recorded : Bool)
  | entered (outcome : Except Exn NativeValue)

/-- The final gate, under the lock: `preDispatch` is the last thing in it that can raise. -/
def finalGate (api : Option Nat) (simnow : Bool) (preDispatch : Client → Except Exn Client)
    (c : Chance) (s : Client) : Except Exn Client := do
  demand (api.isSome ∧ s.api = api) "ctp_managed_native_request_source_mismatch"
  consumeAuthorization s.callbackIngress c.restricted simnow c.raises
  firstRaised [c.lookupRaises]
  demand (c.callable = true) "ctp_native_request_method_unavailable"
  let s ← preDispatch s
  return { s with nativeRequestInflightRefs := s.nativeRequestInflightRefs + 1 }

/-- What keeps a request from being entered after the final gate. -/
def stopped (deadline : Option ℚ) (c : Chance) : Option Exn :=
  c.interrupted.or
    (if deadline.any (· ≤ c.monotonic) then
      some (.executionGate "ctp_execution_gate_cancel_deadline_expired")
    else none)

/-- `method(*args)`. -/
def Client.enter (call : NativeCall) (s : Client) : Client :=
  { s with nativeCalls := s.nativeCalls ++ [call] }

/-- The `finally` of the request. -/
def Client.leave (s : Client) : Client :=
  { s with nativeRequestInflightRefs := s.nativeRequestInflightRefs - 1 }

/-- `_invoke_session_native_request` for an order method. -/
def invokeSessionNativeRequest (call : NativeCall) (api : Option Nat) (simnow : Bool)
    (deadline : Option ℚ) (preDispatch : Client → Except Exn Client) : Action Dispatch := do
  let passed ← Prog.atomic fun c s =>
    match finalGate api simnow preDispatch c s with
    | .error e => (.ok (some e), s)
    | .ok s' => (.ok none, s')
  match passed with
  | some e => return .blocked e false
  | none =>
    let stop ← Prog.atomic fun c s => (.ok (stopped deadline c), s)
    match stop with
    | some e =>
      Prog.modify Client.leave
      return .blocked e true
    | none =>
      let outcome ← Prog.atomic fun c s => (.ok c.native, s.enter call)
      Prog.modify Client.leave
      return .entered outcome

/-! ## Orders -/

/-- The arguments of `submit_order_insert`, with the field as the client reads it. -/
structure InsertRequest where
  identity : OrderInsertIdentity
  /-- `type(field.RequestID) is int`. -/
  requestIdTyped : Bool := true
  requestId : Value

/-- The evidence of a request that is about to be sent. -/
def evidenceOf (scope : Scope) (requestId : Int) : Evidence where
  requestId
  accountFingerprint := "acct_" ++ scope.accountFingerprint
  connectionGeneration := scope.connectionGeneration
  tradingDay := scope.tradingDay

/-- What a locked section hands over to the native request. -/
structure Admission where
  requestId : Int
  key : RequestKey
  api : Option Nat
  simnow : Bool

/-- `type(request_id) is not int or request_id <= 0`. -/
def readRequestId (requestId : Value) (code : String) : Except Exn Int :=
  match Dispatch.Authority.positiveInt requestId with
  | some requestId => .ok requestId
  | none => .error (.executionGate code)

/-- The login names a trading day in eight ASCII digits. -/
def sessionIdentityComplete (scope : Scope) : Bool :=
  decide (0 < scope.connectionGeneration) && scope.tradingDay.toList.length == 8 &&
    isAsciiDecimal scope.tradingDay

/-- The first locked section of `submit_order_insert`. -/
def admitInsert (request : InsertRequest) (c : Chance) (s : Client) : Except Exn Admission := do
  demand (s.callbackIngress = false) "ctp_managed_native_call_lease_required"
  firstRaised [c.raises]
  demand (s.api.isSome) "ctp_execution_gate_native_api_unavailable"
  let requestId ← readRequestId request.requestId
    "ctp_execution_gate_order_insert_request_id_invalid"
  demand (request.requestIdTyped = true)
    "ctp_execution_gate_order_insert_field_request_id_invalid"
  demand (request.identity.fieldRequestId = some requestId)
    "ctp_execution_gate_order_insert_field_request_id_mismatch"
  demand (request.identity.orderRef ≠ "") "ctp_execution_gate_order_insert_order_ref_missing"
  demand (request.identity.brokerId ≠ "" ∧ request.identity.investorId ≠ "" ∧
      request.identity.userId ≠ "" ∧ request.identity.instrumentId ≠ "" ∧
      request.identity.exchangeId ≠ "")
    "ctp_execution_gate_order_insert_native_identity_incomplete"
  demand (sessionIdentityComplete s.scope = true)
    "ctp_execution_gate_order_insert_session_identity_incomplete"
  let key := (requestId, request.identity.orderRef)
  demand ((s.books.inserts.history.lookup key).isNone)
    "ctp_execution_gate_order_insert_request_identity_reused"
  demand (usedRequestId s.books.inserts.history requestId = false)
    "ctp_execution_gate_order_insert_request_id_reused"
  firstRaised [if c.authorized then none else c.mintRaises]
  return { requestId, key, api := s.api, simnow := c.authorized }

/-- `record_dispatch`. -/
def recordDispatch (request : InsertRequest) (admitted : Admission) (s : Client) :
    Except Exn Client := do
  demand ((s.books.inserts.history.lookup admitted.key).isNone ∧
      usedRequestId s.books.inserts.history admitted.requestId = false)
    "ctp_execution_gate_order_insert_request_id_reused"
  return { s with books := { s.books with
    inserts := s.books.inserts.record admitted.key (evidenceOf s.scope admitted.requestId)
      request.identity }.recordRequest "order_insert" }

/-- The `except` of `submit_order_insert`, for an order that was recorded and not entered; a
callback that came in between has replaced the evidence, which then stays. -/
def Books.withdrawInsert (b : Books) (key : RequestKey) : Books :=
  if (b.inserts.history.lookup key).any (!·.callbackReceived) then
    { b with inserts := b.inserts.drop key }.unrecordRequest "order_insert"
  else b

/-- `submit_order_insert`. -/
def submitOrderInsert (caller : Nat) (request : InsertRequest) : Action NativeValue := do
  let admitted ← Prog.atomic fun c s => (admitInsert request c s, s)
  let dispatch ← invokeSessionNativeRequest ⟨caller, .insert, admitted.key⟩ admitted.api
    admitted.simnow none (recordDispatch request admitted)
  match dispatch with
  | .blocked e recorded =>
    Prog.modify fun s =>
      if recorded then { s with books := s.books.withdrawInsert admitted.key } else s
    throw e
  | .entered (.error e) =>
    Prog.modify fun s => { s with books := { s.books with
      inserts := s.books.inserts.note admitted.key fun evidence =>
        if evidence.callbackReceived then evidence
        else { evidence with reason := "native_submit_exception" } } }
    throw e
  | .entered (.ok value) =>
    Prog.modify fun s => { s with books := { s.books with
      inserts := s.books.inserts.note admitted.key fun evidence =>
        { evidence with submitCode := value.exactInt } } }
    return value

/-! ## Cancels -/

/-- A `deadline_monotonic`. -/
inductive Deadline where
  /-- No finite float that is not negative. -/
  | invalid
  | at (time : ℚ)
  deriving DecidableEq

/-- The arguments that make a cancel a managed one. -/
structure ManagedIdentity where
  runtimeOrderId : Value := .none
  managedIntentId : Value := .none
  runtimeActionId : Value := .none
  managedCancelIntentId : Value := .none

/-- The arguments of `submit_order_action`, with the field as the client reads it. -/
structure ActionRequest where
  identity : OrderActionIdentity
  requestId : Value
  deadline : Option Deadline := none
  managed : ManagedIdentity := {}

/-- `[A-Za-z0-9._:-]{1,128}`. -/
def isManagedId (text : String) : Bool :=
  let chars := text.toList
  1 ≤ chars.length && chars.length ≤ 128 &&
    chars.all fun c => c.isAlphanum || c ∈ ['.', '_', ':', '-']

/-- `bt-managed-v1:[0-9a-f]{64}`. -/
def isRuntimeOrderId (text : String) : Bool :=
  let chars := text.toList
  chars.take 14 == "bt-managed-v1:".toList && (chars.drop 14).length == 64 &&
    (chars.drop 14).all Session.isLowerHex

/-- `_validate_managed_cancel_identity`: the intent of a managed cancel. -/
def validateManagedCancelIdentity (identity : ManagedIdentity) : Except Exn (Option String) :=
  match identity.runtimeOrderId, identity.managedIntentId, identity.runtimeActionId,
      identity.managedCancelIntentId with
  | .none, .none, .none, .none => .ok none
  | .none, _, _, _ | _, .none, _, _ | _, _, .none, _ | _, _, _, .none =>
    .error (.executionGate "ctp_execution_gate_managed_cancel_identity_incomplete")
  | .str order, .str intent, .str action, .str cancelIntent => do
    demand (isRuntimeOrderId order = true ∧ isManagedId intent = true ∧
        isManagedId action = true ∧ isManagedId cancelIntent = true)
      "ctp_execution_gate_managed_cancel_identity_invalid"
    demand (action = cancelIntent) "ctp_execution_gate_managed_cancel_action_mismatch"
    demand (cancelIntent ≠ intent) "ctp_execution_gate_managed_cancel_intent_reused"
    return some cancelIntent
  | _, _, _, _ => .error (.executionGate "ctp_execution_gate_managed_cancel_identity_invalid")

variable (request : ActionRequest)

/-- The time of a valid deadline. -/
def ActionRequest.deadlineTime : Option ℚ :=
  match request.deadline with
  | some (.at time) => some time
  | _ => none

/-- What `submit_order_action` checks before it takes the lock. -/
def precheckAction (c : Chance) : Except Exn (Option String) := do
  demand (request.deadline ≠ some .invalid) "ctp_execution_gate_cancel_deadline_invalid"
  demand (request.deadlineTime.all (c.monotonic < ·) = true)
    "ctp_execution_gate_cancel_deadline_expired"
  validateManagedCancelIdentity request.managed

/-- The checks of its first locked section. -/
def admitAction (intent : Option String) (c : Chance) (s : Client) :
    Except Exn Admission := do
  demand (s.callbackIngress = false) "ctp_managed_native_call_lease_required"
  let requestId ← readRequestId request.requestId "ctp_execution_gate_cancel_request_id_invalid"
  firstRaised [c.raises]
  demand (s.api.isSome) "ctp_execution_gate_native_api_unavailable"
  demand (request.identity.fieldRequestId = some requestId ∧
      request.identity.orderActionRef ≠ "" ∧ request.identity.actionFlag = "0" ∧
      Kind.present .action request.identity = true ∧ 0 < s.scope.connectionGeneration ∧
      s.scope.tradingDay ≠ "") "ctp_execution_gate_cancel_request_invalid"
  let key := (requestId, request.identity.orderActionRef)
  demand ((s.books.actions.history.lookup key).isNone)
    "ctp_execution_gate_cancel_request_identity_reused"
  demand (usedRequestId s.books.actions.history requestId = false)
    "ctp_execution_gate_cancel_request_id_reused"
  demand (intent.all (· ∉ s.books.managedCancelActionsSeen) = true)
    "ctp_execution_gate_managed_cancel_action_reused"
  firstRaised [if c.authorized then none else c.mintRaises]
  return { requestId, key, api := s.api, simnow := c.authorized }

/-- What that section writes. -/
def Books.recordAction (b : Books) (request : ActionRequest) (intent : Option String)
    (admitted : Admission) (scope : Scope) : Books :=
  (({ b with
      actions := b.actions.record admitted.key (evidenceOf scope admitted.requestId)
        request.identity } : Books).reserve intent).recordRequest "order_action"

/-- The `except` of `submit_order_action`, for a cancel that was not entered. -/
def Books.withdrawAction (b : Books) (key : RequestKey) (intent : Option String) : Books :=
  if (b.actions.history.lookup key).isSome then
    (({ b with actions := b.actions.drop key } : Books).unrecordRequest "order_action").release
      intent
  else b

/-- `submit_order_action`. -/
def submitOrderAction (caller : Nat) (request : ActionRequest) : Action NativeValue := do
  let intent ← Prog.atomic fun c s => (precheckAction request c, s)
  let admitted ← Prog.atomic fun c s =>
    match admitAction request intent c s with
    | .error e => (.error e, s)
    | .ok admitted => (.ok admitted, { s with
        books := s.books.recordAction request intent admitted s.scope
        actionOwners := s.actionOwners.insert admitted.key caller })
  let dispatch ← invokeSessionNativeRequest ⟨caller, .action, admitted.key⟩ admitted.api
    admitted.simnow request.deadlineTime fun s => .ok s
  match dispatch with
  | .blocked e _ =>
    Prog.modify fun s => { s with
      books := s.books.withdrawAction admitted.key intent
      actionOwners := s.actionOwners.erase admitted.key }
    throw e
  | .entered (.error e) =>
    Prog.modify fun s => { s with books := { s.books with
      actions := s.books.actions.note admitted.key fun evidence =>
        { evidence with reason := "native_submit_exception" } } }
    throw e
  | .entered (.ok value) =>
    match value.submitCode with
    | .error e => throw e
    | .ok submitCode =>
      Prog.modify fun s => { s with books := { s.books with
        actions := s.books.actions.note admitted.key fun evidence =>
          { evidence with submitCode } } }
      return value

/-- `get_order_action_evidence`, for a reference. -/
def Client.getOrderActionEvidence (s : Client) (requestId : Int) (orderActionRef : String) :
    Option Evidence :=
  s.books.actions.history.lookup (requestId, orderActionRef)

/-! ## Calls -/

inductive Command where
  | insert (request : InsertRequest)
  | action (request : ActionRequest)

def Command.program (caller : Nat) : Command → Action NativeValue
  | .insert request => submitOrderInsert caller request
  | .action request => submitOrderAction caller request

end BtApiCtp.Submission
