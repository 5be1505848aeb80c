/-
# Trader.Feed -- native order requests of the feed

`_make_order_native` and `_cancel_order_native` of `feeds/live_ctp_feed.py` as the direct
write provider calls them (no hedge flag, no managed identity), down to the status of the
`RequestData` they return, and `map_order_request` of `order_request_mapping.py`.
-/
import BtApiCtp.Trader.Client

namespace BtApiCtp.Trader

open Theory Python

/-! ## Order requests -/

/-- The neutral order request: enumerations by their values, a `float` as its `repr` reads. -/
structure OrderRequest where
  symbol : String
  side : String
  orderType : String := "limit"
  quantity : Number
  price : Option Number
  positionId : Option String := none
  timeInForce : Option String := none
  deriving DecidableEq, Repr

/-- What is not in this repository: how the base package reads an order's offset, `float`
of a finite number, and `repr` of a text. -/
structure Platform where
  positionIntent : OrderRequest → Except Exn String
  float : ℚ → Number
  repr : String → String

/-- The arguments of `make_order`. -/
structure MappedOrder where
  symbol : String
  vol : Int
  price : Number
  orderType : String
  offset : String
  timeInForce : String := "GFD"
  deriving DecidableEq, Repr

variable (platform : Platform)

/-- `float(number)`. -/
def Platform.toFloat : Number → Number
  | .finite value => platform.float value
  | number => number

/-- `number <= 0`, for a `float`. -/
def nonpositive : Number → Bool
  | .finite value => decide (value ≤ 0)
  | .infinite negative => negative
  | .nan => false

def unsupported (detail : String) : Exn := .other "CapabilityNotSupportedError" detail

/-- `_whole_lots`. -/
def wholeLots : Number → Except Exn Int
  | .finite value =>
    if 0 < value ∧ value.den = 1 then .ok value.num
    else .error (unsupported "CTP orders require a positive whole number of lots")
  | _ => .error (unsupported "CTP orders require a positive whole number of lots")

/-- `map_order_request`. -/
def mapOrderRequest (request : OrderRequest) : Except Exn MappedOrder := do
  let offset ← platform.positionIntent request
  let price ←
    match request.price with
    | none => .error (unsupported "CTP supports positive-price limit orders only")
    | some price =>
      if request.orderType ≠ "limit" ∨ nonpositive price then
        .error (unsupported "CTP supports positive-price limit orders only")
      else .ok price
  if request.positionId.isSome then
    .error (unsupported "CTP does not support ticket-specific closes")
  else if request.timeInForce ∉
      [none, some "", some "GFD", some "gfd", some "DAY", some "day"] then
    .error (unsupported "order_validity_unrepresentable: CTP orders are good-for-day")
  else do
    let vol ← wholeLots request.quantity
    return {
      symbol := request.symbol
      vol
      price := platform.toFloat price
      orderType := request.side ++ "-limit"
      offset }

/-! ## Inserting -/

/-- The account a feed writes for. -/
structure Feed where
  brokerId : String
  userId : String

/-- `CTP_DIRECTION_FLAG`. -/
def ctpDirectionFlag : String → Option String
  | "buy" => some "0"
  | "sell" => some "1"
  | _ => none

/-- `CTP_OFFSET_FLAG`. -/
def ctpOffsetFlag : String → Option String
  | "open" => some "0"
  | "close" => some "1"
  | "force_close" => some "2"
  | "close_today" => some "3"
  | "close_yesterday" => some "4"
  | "force_close_yesterday" => some "5"
  | "local_force_close" => some "6"
  | _ => none

/-- `_is_exact_ctp_order_ref`. -/
def isExactCtpOrderRef (text : String) : Bool := text.length == 12 && isAsciiDecimal text

/-- A `ValueError` with a text. -/
def invalid (message : String) : Exn := .value none message

/-- `_positive_int_lot`, for an `int`. -/
def positiveIntLot (volume : Int) : Except Exn Int :=
  if 0 < volume then .ok volume
  else .error (invalid "CTP order volume must be a positive integer lot.")

/-- `_CTP_INVALID_FLOAT_THRESHOLD`: half of the largest `float`, as its `repr` reads. -/
def ctpInvalidFloatThreshold : ℚ := 89884656743115785 * 10 ^ 291

/-- `_positive_ctp_price`. -/
def positiveCtpPrice : Number → Except Exn ℚ
  | .finite price =>
    if 0 < price ∧ price < ctpInvalidFloatThreshold then .ok price
    else .error (invalid "CTP order price must be a positive price with a finite value.")
  | _ => .error (invalid "CTP order price must be a positive price with a finite value.")

/-- The value a text stands for, or a `ValueError`. -/
def known (found : Option String) (message : String) : Except Exn String :=
  match found with
  | some value => .ok value
  | none => .error (invalid message)

/-- What the order fixes in the native field. -/
structure OrderTerms where
  direction : String
  combOffsetFlag : String
  volume : Int
  limitPrice : ℚ
  deriving DecidableEq, Repr

/-- `str(time_in_force or "GFD").upper()`, where `DAY` is the same as `GFD`. -/
def normalTimeInForce (timeInForce : String) : String :=
  let text := if timeInForce = "" then "GFD" else timeInForce.toUpper
  if text = "DAY" then "GFD" else text

/-- The checks of `_make_order_native` on the order itself, in its order. -/
def orderTerms (order : MappedOrder) : Except Exn OrderTerms := do
  let (side, orderKind) ←
    match splitOnce '-' order.orderType.toLower with
    | some parts => .ok parts
    | none => .error (invalid ("CTP order_type must be '<buy|sell>-limit' (got " ++
        platform.repr order.orderType ++ ")."))
  let direction ← known (ctpDirectionFlag side)
    ("CTP order side must be buy or sell (got " ++ platform.repr side ++ ").")
  if orderKind ≠ "limit" then
    .error (invalid ("CTP order kind " ++ platform.repr orderKind ++
      " is unsupported; use a positive-price limit order."))
  else do
    let offsetText := if order.offset = "" then "open" else order.offset.toLower
    let combOffsetFlag ← known (ctpOffsetFlag offsetText)
      ("CTP order offset " ++ platform.repr order.offset ++ " is unsupported.")
    let volume ← positiveIntLot order.vol
    let limitPrice ← positiveCtpPrice order.price
    let timeInForce := normalTimeInForce order.timeInForce
    if timeInForce ≠ "GFD" then
      .error (invalid ("CTP time_in_force " ++ platform.repr timeInForce ++
        " is unsupported; iteration 22 requires GFD."))
    else return { direction, combOffsetFlag, volume, limitPrice }

/-- The native field of an order. -/
def orderField (feed : Feed) (order : MappedOrder) (terms : OrderTerms)
    (clientOrderId exchangeId : String) (requestId : Int) : InputOrderField where
  brokerId := feed.brokerId
  investorId := feed.userId
  userId := feed.userId
  instrumentId := order.symbol
  exchangeId
  direction := terms.direction
  combOffsetFlag := terms.combOffsetFlag
  combHedgeFlag := "1"
  volumeTotalOriginal := terms.volume
  limitPrice := terms.limitPrice
  orderRef := clientOrderId
  requestId

/-- `_next_request_id`. -/
def nextRequestId : Action Int :=
  Prog.atomic fun _ s => (.ok (s.reqId + 1), { s with reqId := s.reqId + 1 })

/-- `_safe_native_return_type_name`. -/
def safeNativeReturnTypeName : NativeValue → String
  | .none => "NoneType"
  | .int _ => "int"
  | .object (some name) _ _ =>
    if name ≠ "" ∧ name.length ≤ 64 ∧ name.toList.all fun c => c.isAlphanum || c == '_' then
      name
    else "unavailable"
  | .object none _ _ => "unavailable"

/-- What the feed makes of a native return value. -/
def insertStatus (clientOrderId : String) (requestId : Int) : NativeValue → Except Exn Bool
  | .int code => .ok (code == 0)
  | value => .error (.outcomeUnknown clientOrderId requestId (safeNativeReturnTypeName value))

/-- `_make_order_native` from the first look at the order on. -/
def placeOrder (feed : Feed) (caller : Nat) (order : MappedOrder)
    (clientOrderId exchangeId : String) : Action Bool := do
  gate
  let terms ← Prog.lift (orderTerms platform order)
  let requestId ← nextRequestId
  Prog.require (0 < requestId)
    (.executionGate "ctp_execution_gate_order_insert_request_id_invalid")
  let value ← submitOrderInsert caller
    (orderField feed order terms clientOrderId exchangeId requestId) requestId
  Prog.lift (insertStatus clientOrderId requestId value)

/-- `_make_order_native`. -/
def makeOrderNative (feed : Feed) (caller : Nat) (order : MappedOrder)
    (clientOrderId exchangeId : String) : Action Bool := do
  gate
  Prog.require (isExactCtpOrderRef clientOrderId = true)
    (invalid "managed CTP orders require an exact 12-digit ASCII client_order_id")
  gate
  let hasTrader ← Prog.observe Desk.hasTrader
  if hasTrader then placeOrder platform feed caller order clientOrderId exchangeId
  else return false

/-! ## Cancelling -/

/-- The identity arguments of a cancel, with the defaults of those that are not passed. -/
structure CancelTarget where
  exchangeId : String
  orderId : Option String := none
  orderRef : String := ""
  frontId : Int := 0
  sessionId : Int := 0
  deriving DecidableEq, Repr

/-- The action field; the login's numbers stand in for those that are zero. -/
def cancelField (feed : Feed) (symbol : String) (target : CancelTarget) (front session : Int)
    (requestId : Int) : InputOrderActionField where
  brokerId := feed.brokerId
  investorId := feed.userId
  instrumentId := symbol
  exchangeId := target.exchangeId
  orderSysId := target.orderId.getD ""
  orderRef := target.orderRef
  frontId :=
    if target.orderRef = "" then 0 else if target.frontId = 0 then front else target.frontId
  sessionId :=
    if target.orderRef = "" then 0 else if target.sessionId = 0 then session else target.sessionId
  requestId
  orderActionRef := requestId

/-- Whether `ret == 0` is `True`. -/
def NativeValue.equalsZero : NativeValue → Except Exn Bool
  | .none => .ok false
  | .int value => .ok (value == 0)
  | .object _ _ equalsZero => equalsZero

/-- `_cancel_order_native` from the field on. -/
def sendCancel (feed : Feed) (caller : Nat) (symbol : String) (target : CancelTarget) :
    Action Bool := do
  gate
  let front ← Prog.observe Desk.frontId
  let session ← Prog.observe Desk.sessionId
  let requestId ← nextRequestId
  let value ← submitOrderAction caller
    (cancelField feed symbol target front session requestId) requestId
  Prog.lift value.equalsZero

/-- `_cancel_order_native`. -/
def cancelOrderNative (feed : Feed) (caller : Nat) (symbol : String) (target : CancelTarget) :
    Action Bool := do
  gate
  gate
  let hasTrader ← Prog.observe Desk.hasTrader
  if hasTrader then sendCancel feed caller symbol target else return false

end BtApiCtp.Trader
