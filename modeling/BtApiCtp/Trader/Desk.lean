/-
# Trader.Desk -- what an order write acts on

The state that the direct write provider, its feed and its `TraderClient` share, as far as
order writes read or change it.  Admission checks (execution gate, authorizations, trading
readiness, grants) are steps that raise or pass as the surroundings decide: whatever they
look at, they do not call a native order method.  The last field of the desk is not in the
program; it records every entry into a native order method and what came of it.
-/
import BtApiCtp.Theory.Dict
import BtApiCtp.Theory.Program
import BtApiCtp.Python.Value

namespace BtApiCtp.Trader

open Theory

/-- A Python exception: its class, `code` attribute and text, as far as they are looked at.
A subclass is listed under the class that decides what happens to it. -/
inductive Exn where
  /-- `CtpExecutionGateError`. -/
  | executionGate (code : String)
  /-- `ValueError`; a subclass may have a `code`. -/
  | value (code : Option String) (message : String)
  | type (message : String)
  | overflow (message : String)
  /-- `CtpOrderSubmissionOutcomeUnknown`. -/
  | outcomeUnknown (clientOrderId : String) (requestId : Int) (nativeReturnType : String)
  | directWrite (code : String) (detail : String)
  | other (name : String) (message : String)
  deriving DecidableEq, Repr

/-- `getattr(exc, "code", None)`. -/
def Exn.code : Exn → Option String
  | .executionGate code => some code
  | .value code _ => code
  | .outcomeUnknown _ _ _ => some "ctp_order_submission_outcome_unknown"
  | .directWrite code _ => some code
  | _ => none

/-- `str(exc)`. -/
def Exn.text : Exn → String
  | .executionGate code => code
  | .value _ message => message
  | .type message => message
  | .overflow message => message
  | .outcomeUnknown _ _ _ => "ctp_order_submission_outcome_unknown"
  | .directWrite code detail => if detail = "" then code else detail
  | .other _ message => message

/-- A native return value: `None`, an exact `int`, or any other object, with its class name,
what `int(...)` of it comes to, and whether `... == 0` is `True`. -/
inductive NativeValue where
  | none
  | int (value : Int)
  | object (typeName : Option String) (toInt : Except Exn Int) (equalsZero : Except Exn Bool)

/-- `CThostFtdcInputOrderField`, the fields that are set. -/
structure InputOrderField where
  brokerId : String
  investorId : String
  userId : String
  instrumentId : String
  exchangeId : String := ""
  direction : String
  combOffsetFlag : String
  combHedgeFlag : String
  volumeTotalOriginal : Int
  minVolume : Int := 1
  forceCloseReason : String := "0"
  isAutoSuspend : Int := 0
  userForceClose : Int := 0
  contingentCondition : String := "1"
  orderPriceType : String := "2"
  timeCondition : String := "3"
  volumeCondition : String := "1"
  limitPrice : ℚ
  orderRef : String
  requestId : Int
  deriving DecidableEq, Repr

/-- `CThostFtdcInputOrderActionField`, the fields that are set. -/
structure InputOrderActionField where
  brokerId : String
  investorId : String
  instrumentId : String
  exchangeId : String := ""
  actionFlag : String := "0"
  orderSysId : String := ""
  orderRef : String := ""
  frontId : Int := 0
  sessionId : Int := 0
  requestId : Int
  orderActionRef : Int
  deriving DecidableEq, Repr

/-- A native order method with its field. -/
inductive NativeRequest where
  | reqOrderInsert (field : InputOrderField)
  | reqOrderAction (field : InputOrderActionField)
  deriving DecidableEq, Repr

/-- One entry into a native order method, by whom, and its outcome. -/
structure NativeCall where
  caller : Nat
  request : NativeRequest
  requestId : Int
  outcome : Except Exn NativeValue

/-- `CtpOrderInsertEvidence`, without what a callback tells. -/
structure OrderInsertEvidence where
  requestId : Int
  orderRef : String
  accountFingerprint : String
  tradingDay : String
  connectionGeneration : Int
  instrumentId : String
  exchangeId : String
  callbackReceived : Bool := false
  reason : String := "awaiting_native_callback"
  submitCode : Option Int := none
  deriving DecidableEq, Repr

/-- `CtpOrderActionEvidence`, without what a callback tells. -/
structure OrderActionEvidence where
  requestId : Int
  orderActionRef : String
  accountFingerprint : String
  tradingDay : String
  connectionGeneration : Int
  orderRef : String
  orderSysId : String
  frontId : Int
  sessionId : Int
  instrumentId : String
  exchangeId : String
  actionFlag : String
  reason : String := "awaiting_native_callback"
  submitCode : Option Int := none
  deriving DecidableEq, Repr

/-- `NativeOrderIdentity`, with the fields this provider reads from it. -/
structure NativeOrderIdentity where
  clientOrderId : Option String := none
  orderRef : Option String := none
  exchangeId : Option String := none
  orderSysId : Option String := none
  orderSysIdRaw : Option String := none
  frontId : Option Int := none
  sessionId : Option Int := none
  sessionGeneration : Option Int := none
  deriving DecidableEq, Repr

structure Desk where
  /-- The native API object, if there is one. -/
  api : Option Nat := none
  /-- Whether a managed callback ingress is installed. -/
  callbackIngress : Bool := false
  connectionGeneration : Int := 0
  tradingDay : String := ""
  accountFingerprint : String := ""
  frontId : Int := 0
  sessionId : Int := 0
  reqId : Int := 0
  orderInsertHistory : Dict (Int × String) OrderInsertEvidence := ∅
  orderActionHistory : Dict (Int × String) OrderActionEvidence := ∅
  requestCounts : Dict String Nat := ∅
  nativeRequestInflightRefs : Nat := 0
  /-- Whether the feed has a trader client. -/
  hasTrader : Bool := true
  /-- The provider's open reservations, by id. -/
  reservations : Dict String NativeOrderIdentity := ∅
  calls : List NativeCall := []

/-- The native calls that one caller made. -/
def Desk.callsOf (s : Desk) (caller : Nat) : List NativeCall :=
  s.calls.filter fun call => call.caller = caller

/-- What the surroundings decide at one step: what the checks in it raise, what they find,
and what a native method comes to. -/
structure Chance where
  raises : Option Exn := none
  identityRaises : Option Exn := none
  mintRaises : Option Exn := none
  lookupRaises : Option Exn := none
  callable : Bool := true
  /-- A SimNow write authorization was issued. -/
  authorized : Bool := false
  /-- Writes are restricted to SimNow, and there is no current direct admission. -/
  restricted : Bool := false
  /-- A settlement readback ran. -/
  readback : Bool := false
  native : Except Exn NativeValue := .ok (.int 0)

abbrev Action (α : Type) := Prog Desk Chance Exn α

/-- A check that raises or passes. -/
def gate : Action Unit :=
  Prog.atomic fun c s =>
    match c.raises with
    | some e => (.error e, s)
    | none => (.ok (), s)

/-- The first exception among the checks of one locked section. -/
def firstRaised (checks : List (Option Exn)) : Except Exn Unit :=
  match checks.find? Option.isSome with
  | some (some e) => .error e
  | _ => .ok ()

/-- `if not b: raise CtpExecutionGateError(code)`. -/
def demand (b : Prop) [Decidable b] (code : String) : Except Exn Unit :=
  if b then .ok () else .error (.executionGate code)

theorem demand_eq_ok_iff {b : Prop} [Decidable b] {code : String} {u : Unit} :
    demand b code = .ok u ↔ b := by
  unfold demand
  split <;> simp_all

end BtApiCtp.Trader
