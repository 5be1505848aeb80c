/-
# Trader.Client -- order writes of the trader client

`submit_order_insert`, `submit_order_action` and, for these two methods,
`_invoke_session_native_request` of `ctp/client.py`.  What happens under
`_query_state_lock` is one step; the native method is entered with no lock held.  The direct
route passes neither a deadline nor a managed cancel identity, so both are left out.
-/
import BtApiCtp.Trader.Desk

namespace BtApiCtp.Trader

open Theory Python

/-! ## Entering the native method -/

/-- How `_invoke_session_native_request` ended: stopped by a check before the native method
was entered, or with what the method came to. -/
inductive Dispatch where
  | blocked (e : Exn)
  | entered (outcome : Except Exn NativeValue)

/-- The authorization checks of the final gate. -/
def consumeAuthorization (callbackIngress restricted simnow : Bool) (raises : Option Exn) :
    Except Exn Unit :=
  if callbackIngress then
    .error (.executionGate "ctp_simnow_write_authorization_scope_mismatch")
  else if restricted then do
    demand (simnow = true) "ctp_simnow_write_authorization_required"
    firstRaised [raises]
  else do
    demand (simnow = false) "ctp_simnow_write_authorization_scope_mismatch"
    firstRaised [raises]

/-- The final gate, under the lock: `preDispatch` is the last thing that can raise. -/
def finalGate (api : Option Nat) (simnow : Bool) (preDispatch : Desk → Except Exn Desk)
    (c : Chance) (s : Desk) : Except Exn Desk := do
  demand (api.isSome ∧ s.api = api) "ctp_managed_native_request_source_mismatch"
  consumeAuthorization s.callbackIngress c.restricted simnow c.raises
  firstRaised [c.lookupRaises]
  demand (c.callable = true) "ctp_native_request_method_unavailable"
  let s ← preDispatch s
  return { s with nativeRequestInflightRefs := s.nativeRequestInflightRefs + 1 }

variable (caller : Nat) (field : InputOrderActionField) (s : Desk)

/-- `method(*args)`. -/
def enterNative (request : NativeRequest) (requestId : Int) :
    Action (Except Exn NativeValue) :=
  Prog.atomic fun c s =>
    (.ok c.native, { s with calls := s.calls ++ [⟨caller, request, requestId, c.native⟩] })

/-- `_invoke_session_native_request` for an order method.  `simnow` says which of the two
authorizations is passed. -/
def invokeSessionNativeRequest (api : Option Nat) (request : NativeRequest)
    (requestId : Int) (simnow : Bool) (preDispatch : Desk → Except Exn Desk) : Action Dispatch := do
  let passed ← Prog.atomic fun c s =>
    match finalGate api simnow preDispatch c s with
    | .error e => (.ok (some e), s)
    | .ok s' => (.ok none, s')
  match passed with
  | some e => return .blocked e
  | none =>
    let outcome ← enterNative caller request requestId
    Prog.modify fun s => { s with nativeRequestInflightRefs := s.nativeRequestInflightRefs - 1 }
    return .entered outcome

/-- `_record_request`. -/
def Desk.recordRequest (requestType : String) : Desk :=
  { s with
    requestCounts := s.requestCounts.insert requestType
      ((s.requestCounts.lookup requestType).getD 0 + 1) }

/-- Take back the count of a request that was not entered. -/
def Desk.unrecordRequest (requestType : String) : Desk :=
  { s with
    requestCounts := s.requestCounts.insert requestType
      ((s.requestCounts.lookup requestType).getD 0 - 1) }

/-! ## Orders -/

/-- Whether a request id is in use in a history. -/
def usedRequestId {ν : Type} (history : Dict (Int × String) ν) (requestId : Int) : Bool :=
  history.items.any fun item => item.1.1 = requestId

/-- The login names a trading day in eight ASCII digits. -/
def sessionIdentityComplete : Bool :=
  decide (0 < s.connectionGeneration) && s.tradingDay.length == 8 && isAsciiDecimal s.tradingDay

/-- The first locked section of `submit_order_insert`: the API object and which
authorization it goes with. -/
def admitInsert (field : InputOrderField) (requestId : Int) (c : Chance) (s : Desk) :
    Except Exn (Option Nat × Bool) := do
  demand (s.callbackIngress = false) "ctp_managed_native_call_lease_required"
  firstRaised [c.raises, c.identityRaises]
  demand (s.api.isSome) "ctp_execution_gate_native_api_unavailable"
  demand (0 < requestId) "ctp_execution_gate_order_insert_request_id_invalid"
  demand (field.requestId = requestId)
    "ctp_execution_gate_order_insert_field_request_id_mismatch"
  demand (field.orderRef ≠ "") "ctp_execution_gate_order_insert_order_ref_missing"
  demand (field.brokerId ≠ "" ∧ field.investorId ≠ "" ∧ field.userId ≠ "" ∧
      field.instrumentId ≠ "" ∧ field.exchangeId ≠ "")
    "ctp_execution_gate_order_insert_native_identity_incomplete"
  demand (sessionIdentityComplete s = true)
    "ctp_execution_gate_order_insert_session_identity_incomplete"
  demand ((s.orderInsertHistory.lookup (requestId, field.orderRef)).isNone)
    "ctp_execution_gate_order_insert_request_identity_reused"
  demand (usedRequestId s.orderInsertHistory requestId = false)
    "ctp_execution_gate_order_insert_request_id_reused"
  firstRaised [if c.authorized then none else c.mintRaises]
  return (s.api, c.authorized)

/-- `record_dispatch`. -/
def recordInsert (field : InputOrderField) (requestId : Int) (s : Desk) : Except Exn Desk := do
  demand (usedRequestId s.orderInsertHistory requestId = false)
    "ctp_execution_gate_order_insert_request_id_reused"
  return { s with
    orderInsertHistory := s.orderInsertHistory.insert (requestId, field.orderRef)
      { requestId
        orderRef := field.orderRef
        accountFingerprint := "acct_" ++ s.accountFingerprint
        tradingDay := s.tradingDay
        connectionGeneration := s.connectionGeneration
        instrumentId := field.instrumentId
        exchangeId := field.exchangeId } }.recordRequest "order_insert"

/-- Change the evidence of an order, if it is still there. -/
def Desk.noteInsert (key : Int × String)
    (f : OrderInsertEvidence → OrderInsertEvidence) : Desk :=
  match s.orderInsertHistory.lookup key with
  | some evidence => { s with orderInsertHistory := s.orderInsertHistory.insert key (f evidence) }
  | none => s

/-- `result if type(result) is int else None`. -/
def NativeValue.exactInt : NativeValue → Option Int
  | .int value => some value
  | _ => .none

/-- `submit_order_insert`.  `record_dispatch` is the last check before the native method is
entered, so an order that was blocked has left no evidence to take back. -/
def submitOrderInsert (field : InputOrderField) (requestId : Int) :
    Action NativeValue := do
  let admitted ← Prog.atomic fun c s => (admitInsert field requestId c s, s)
  let dispatch ← invokeSessionNativeRequest caller admitted.1 (.reqOrderInsert field) requestId
    admitted.2 (recordInsert field requestId)
  match dispatch with
  | .blocked e => throw e
  | .entered (.error e) =>
    -- a callback that came in between has replaced the evidence, which then stays
    Prog.modify fun s => s.noteInsert (requestId, field.orderRef) fun evidence =>
      if evidence.callbackReceived then evidence
      else { evidence with reason := "native_submit_exception" }
    throw e
  | .entered (.ok value) =>
    Prog.modify fun s => s.noteInsert (requestId, field.orderRef) fun evidence =>
      { evidence with submitCode := value.exactInt }
    return value

/-! ## Cancels -/

/-- `order_identity_present`. -/
def orderIdentityPresent : Bool :=
  (field.orderRef != "" && field.frontId != 0 && field.sessionId != 0) ||
    (field.orderSysId != "" && field.exchangeId != "")

/-- The first locked section of `submit_order_action`, which also records the request. -/
def admitAction (requestId : Int) (c : Chance) (s : Desk) :
    Except Exn ((Option Nat × Bool) × Desk) := do
  demand (s.callbackIngress = false) "ctp_managed_native_call_lease_required"
  demand (0 < requestId) "ctp_execution_gate_cancel_request_id_invalid"
  firstRaised [c.raises, c.identityRaises]
  demand (s.api.isSome) "ctp_execution_gate_native_api_unavailable"
  demand (field.requestId = requestId ∧ field.actionFlag = "0" ∧
      orderIdentityPresent field = true ∧ 0 < s.connectionGeneration ∧ s.tradingDay ≠ "")
    "ctp_execution_gate_cancel_request_invalid"
  let key := (requestId, toString field.orderActionRef)
  demand ((s.orderActionHistory.lookup key).isNone)
    "ctp_execution_gate_cancel_request_identity_reused"
  demand (usedRequestId s.orderActionHistory requestId = false)
    "ctp_execution_gate_cancel_request_id_reused"
  firstRaised [if c.authorized then none else c.mintRaises]
  return ((s.api, c.authorized), { s with
    orderActionHistory := s.orderActionHistory.insert key
      { requestId
        orderActionRef := toString field.orderActionRef
        accountFingerprint := "acct_" ++ s.accountFingerprint
        tradingDay := s.tradingDay
        connectionGeneration := s.connectionGeneration
        orderRef := field.orderRef
        orderSysId := field.orderSysId
        frontId := field.frontId
        sessionId := field.sessionId
        instrumentId := field.instrumentId
        exchangeId := field.exchangeId
        actionFlag := field.actionFlag } }.recordRequest "order_action")

def Desk.noteAction (key : Int × String)
    (f : OrderActionEvidence → OrderActionEvidence) : Desk :=
  match s.orderActionHistory.lookup key with
  | some evidence => { s with orderActionHistory := s.orderActionHistory.insert key (f evidence) }
  | none => s

/-- A cancel that was not entered leaves no trace. -/
def Desk.dropAction (key : Int × String) : Desk :=
  if (s.orderActionHistory.lookup key).isSome then
    { s with orderActionHistory := s.orderActionHistory.erase key }.unrecordRequest "order_action"
  else s

/-- `int(ret) if ret is not None else None`, where a failed conversion counts as `None`. -/
def NativeValue.submitCode : NativeValue → Except Exn (Option Int)
  | .none => .ok .none
  | .int value => .ok (some value)
  | .object _ (.ok value) _ => .ok (some value)
  | .object _ (.error e) _ =>
    match e with
    | .type _ | .value _ _ | .overflow _ => .ok .none
    | e => .error e

/-- `submit_order_action`. -/
def submitOrderAction (field : InputOrderActionField) (requestId : Int) :
    Action NativeValue := do
  let key := (requestId, toString field.orderActionRef)
  let admitted ← Prog.atomic fun c s =>
    match admitAction field requestId c s with
    | .error e => (.error e, s)
    | .ok (admitted, s') => (.ok admitted, s')
  let dispatch ← invokeSessionNativeRequest caller admitted.1 (.reqOrderAction field) requestId
    admitted.2 fun s => .ok s
  match dispatch with
  | .blocked e =>
    Prog.modify fun s => s.dropAction key
    throw e
  | .entered (.error e) =>
    Prog.modify fun s => s.noteAction key fun evidence =>
      { evidence with reason := "native_submit_exception" }
    throw e
  | .entered (.ok value) =>
    match value.submitCode with
    | .error e => throw e
    | .ok submitCode =>
      Prog.modify fun s => s.noteAction key fun evidence => { evidence with submitCode }
      return value

end BtApiCtp.Trader
