/-
# Trader.Provider -- the direct write port

`submit_order` and `cancel_order` of `direct_write_provider.py`.  Both hold the provider's
lock from end to end; callbacks and other users of the client still run beside them.
-/
import BtApiCtp.Trader.Feed

namespace BtApiCtp.Trader

open Theory Python

/-- `_text`. -/
def text (value : Option String) : String := strip (value.getD "")

structure DirectSubmitResult where
  sent : Bool
  identity : NativeOrderIdentity
  errorCode : Option String := none
  detail : Option String := none
  deriving DecidableEq, Repr

/-! ## Exceptions -/

/-- `except (CtpExecutionGateError, ValueError)`. -/
def Exn.isRefusal : Exn → Bool
  | .executionGate _ => true
  | .value _ _ => true
  | _ => false

/-- `getattr(exc, "code", None) or default`. -/
def Exn.codeOr (e : Exn) (default : String) : String :=
  match e.code with
  | some code => if code = "" then default else code
  | none => default

/-- `str(exc)[:200]`. -/
def Exn.detail (e : Exn) : String := String.ofList (e.text.toList.take 200)

variable (identity : NativeOrderIdentity) (target : NativeOrderIdentity)

def notSent (e : Exn) (default : String) : DirectSubmitResult where
  sent := false
  identity
  errorCode := some (e.codeOr default)
  detail := some e.detail

/-! ## Sessions and gates -/

/-- `_session_fields`, as far as they are compared. -/
structure Session where
  frontId : Int
  sessionId : Int
  connectionGeneration : Int
  deriving DecidableEq, Repr

/-- `_session_fields`. -/
def sessionFields : Action Session :=
  Prog.atomic fun _ s =>
    if strip s.tradingDay = "" then
      (.error (.directWrite "ctp_direct_session_unavailable" ""), s)
    else (.ok ⟨s.frontId, s.sessionId, s.connectionGeneration⟩, s)

/-- A reservation is good for the session it was made in. -/
def Session.reserved (session : Session) (identity : NativeOrderIdentity) : Bool :=
  some session.frontId = identity.frontId && some session.sessionId = identity.sessionId &&
    some session.connectionGeneration = identity.sessionGeneration

/-- Compare the session with the reservation's. -/
def checkSession : Action Unit := do
  let session ← sessionFields
  Prog.require (session.reserved identity = true)
    (.directWrite "ctp_direct_reservation_session_changed" "")

/-- `_settlement_readback_for_write`: whether a readback ran. -/
def settlementReadbackForWrite : Action Bool :=
  Prog.atomic fun c s =>
    match c.raises with
    | some e => (.error e, s)
    | none => (.ok c.readback, s)

/-- `_admitted_capability` and `_ensure_armed`. -/
def ensureArmed : Action Unit := do
  gate
  gate

/-! ## Submitting -/

/-- A refusal to arm is raised on, under its code. -/
def ensureArmedForSubmit : Action Unit :=
  tryCatch ensureArmed fun e =>
    if e.isRefusal then throw (.directWrite (e.codeOr "ctp_direct_gate_unavailable") e.text)
    else throw e

/-- `self._reservations.pop(reservation_id, None)`. -/
def popReservation (reservationId : String) : Action Unit :=
  Prog.atomic fun _ s =>
    match s.reservations.lookup reservationId with
    | none => (.error (.directWrite "ctp_direct_reservation_unknown" ""), s)
    | some _ => (.ok (), { s with reservations := s.reservations.erase reservationId })

/-- What `submit_order` makes of the feed's answer. -/
def submitResult : Except Exn Bool → Except Exn DirectSubmitResult
  | .ok true => .ok { sent := true, identity }
  | .ok false =>
    .ok { sent := false, identity, errorCode := some "ctp_native_insert_returned_nonzero" }
  | .error (.outcomeUnknown _ _ _) =>
    .error (.directWrite "ctp_direct_submit_outcome_unknown" "")
  | .error e =>
    if e.isRefusal then .ok (notSent identity e "ctp_direct_not_sent") else .error e

/-- `submit_order`. -/
def submitOrder (platform : Platform) (feed : Feed) (caller : Nat) (reservationId : String)
    (identity : NativeOrderIdentity) (request : OrderRequest) : Action DirectSubmitResult := do
  popReservation reservationId
  gate
  checkSession identity
  let order ← Prog.lift (mapOrderRequest platform request)
  let readback ← settlementReadbackForWrite
  Prog.when readback (checkSession identity)
  gate
  ensureArmedForSubmit
  let answer ← Prog.attempt (makeOrderNative platform feed caller order
    (identity.clientOrderId.getD "") (text identity.exchangeId))
  Prog.lift (submitResult identity answer)

/-! ## Cancelling -/

/-- `_text(fields.get("order_ref") or target.client_order_id)`. -/
def NativeOrderIdentity.ownOrderRef : String :=
  text (if target.orderRef.getD "" = "" then target.clientOrderId else target.orderRef)

/-- `str(order_sys_id_raw) if order_sys_id_raw else order_sys_id`. -/
def NativeOrderIdentity.ownOrderSysId : String :=
  if target.orderSysIdRaw.getD "" = "" then text target.orderSysId
  else target.orderSysIdRaw.getD ""

/-- The venue's identity of the target, if it is complete. -/
def NativeOrderIdentity.venueTarget : Except Exn CancelTarget :=
  if text target.orderSysId ≠ "" ∧ text target.exchangeId ≠ "" then
    .ok { exchangeId := text target.exchangeId, orderId := some target.ownOrderSysId }
  else .error (.directWrite "ctp_direct_cancel_identity_incomplete" "")

/-- Which identity a cancel goes by: that of the original session, else the venue's. -/
def NativeOrderIdentity.cancelTarget : Except Exn CancelTarget :=
  match target.frontId, target.sessionId with
  | some frontId, some sessionId =>
    if target.ownOrderRef ≠ "" then
      .ok { exchangeId := text target.exchangeId, orderRef := target.ownOrderRef,
            frontId, sessionId }
    else target.venueTarget
  | _, _ => target.venueTarget

/-- What `cancel_order` makes of the feed's answer. -/
def cancelResult : Except Exn Bool → Except Exn DirectSubmitResult
  | .ok true => .ok { sent := true, identity := target }
  | .ok false =>
    .ok { sent := false, identity := target,
          errorCode := some "ctp_native_action_returned_nonzero" }
  | .error e =>
    if e.isRefusal then .ok (notSent target e "ctp_direct_cancel_not_sent") else .error e

/-- Read the session again, for the grant. -/
def rereadSession : Action Unit := do
  let _ ← sessionFields
  return ()

/-- `cancel_order`. -/
def cancelOrder (feed : Feed) (caller : Nat) (target : NativeOrderIdentity) (symbol : String) :
    Action DirectSubmitResult := do
  gate
  let _ ← sessionFields
  let named ← Prog.lift target.cancelTarget
  let readback ← settlementReadbackForWrite
  Prog.when readback rereadSession
  gate
  let answer ← Prog.attempt (ensureArmed >>= fun _ => cancelOrderNative feed caller symbol named)
  Prog.lift (cancelResult target answer)

end BtApiCtp.Trader
