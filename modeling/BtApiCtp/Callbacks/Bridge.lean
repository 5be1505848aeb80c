/-
# Callbacks.Bridge -- from the callback queue to envelopes

`CtpNativeCallbackSourceBridge` (`ctp_callback_source_bridge.py`): a bridge is bound to the facts
of one login and to a token of the client's queue, and `next_envelope` polls that queue.  A call
holds the bridge's lock in three sections, and the client's in between, so a call is a sequence
of phases; `close` may come at any moment, and so may other calls.

What the store and the client's login say is the environment's choice at each check.  The two
mappers of `bt_api_execution` are parameters.
-/
import BtApiCtp.Callbacks.Queue
import BtApiCtp.Python.Value

namespace BtApiCtp.Callbacks

open Python (Value)

/-! ## Facts and events -/

/-- Where callbacks come from. -/
structure Origin where
  sourceInstanceId : String
  nativeClientEpoch : String
  nativeApiSourceId : String
  nativeSpiSourceId : String
  nativeApiGeneration : Int
  connectionGeneration : Int
  deriving DecidableEq

/-- The facts of a login, which an event may lack. -/
structure Login where
  brokerId : Option String
  investorId : Option String
  front : Option String
  tradingDay : Option String
  frontId : Option Int
  sessionId : Option Int
  deriving DecidableEq

/-- `_NativeSourceFacts`. -/
structure SourceFacts where
  origin : Origin
  login : Login
  callbackSourceSequenceBaseline : Nat
  deriving DecidableEq

/-- `same_login_lifecycle`. -/
def SourceFacts.sameLoginLifecycle (facts other : SourceFacts) : Bool :=
  facts.origin = other.origin && facts.login = other.login

inductive EventType where
  | onRtnOrder
  | onRspOrderAction
  | onErrRtnOrderAction
  deriving DecidableEq

/-- A field of an event: `bytes`, or another value. -/
inductive Raw where
  | bytes (data : List UInt8)
  | value (value : Value)

abbrev Fields := List (String × Raw)

/-- `CtpTraderCallbackSourceEvent`; its source sequence is the number in the queue. -/
structure SourceEvent where
  eventType : EventType
  origin : Origin
  callbackMonotonicNs : Int
  loginVerified : Bool
  login : Login
  callbackSessionMatchesLogin : Option Bool
  rawCorrelationFields : Fields

inductive Exn where
  /-- `ContractValidationError`, without the common beginning of its text. -/
  | contract (detail : String)
  /-- Another exception, and whether it is an `Exception`. -/
  | raised (isException : Bool)
  deriving DecidableEq

def Exn.isException : Exn → Bool
  | .contract _ => true
  | .raised isException => isException

/-- `map_ctp_native_order_return` and `map_ctp_native_order_action_callback`, for the correlation
and the session of the bridge. -/
structure Mapper (γ : Type) where
  orderReturn : Fields → Except Exn γ
  orderAction : EventType → Fields → Option Raw → Option (Int × Raw) → Except Exn γ

/-- The types that a field of an event may have. -/
def Raw.isScalar : Raw → Bool
  | .bytes _ => true
  | .value (.str _) | .value (.int _) | .value (.float ..) | .value (.bool _) | .value .none => true
  | .value _ => false

/-- `_read_event_fields`. -/
def readEventFields (entries : Fields) : Except Exn Fields :=
  if entries.all (·.2.isScalar) ∧ (entries.map Prod.fst).Nodup then .ok entries
  else .error (.contract "source callback raw fields are ambiguous")

def demand (condition : Bool) (detail : String) : Except Exn Unit :=
  if condition then .ok () else .error (.contract detail)

/-- The last part of `_map_source_event`. -/
def mapFields {γ : Type} (mapper : Mapper γ) (event : SourceEvent) : Except Exn γ := do
  let fields ← readEventFields event.rawCorrelationFields
  let requestId := fields.lookup "nRequestID"
  let isLast := fields.lookup "bIsLast"
  let error := fields.lookup "ErrorID"
  match event.eventType with
  | .onRtnOrder =>
    demand (requestId.isNone && isLast.isNone) "order return has action-only callback arguments"
    mapper.orderReturn fields
  | .onRspOrderAction =>
    demand (error.isSome || (fields.lookup "ErrorMsg").isNone) "response message has no error code"
    match requestId, isLast with
    | some (.value (.int requestId)), some isLast =>
      mapper.orderAction .onRspOrderAction fields error (some (requestId, isLast))
    | some _, some _ => .error (.contract "terminal action response request ID is invalid")
    | _, _ => .error (.contract "terminal action response arguments are missing")
  | .onErrRtnOrderAction =>
    demand (error.isSome || (fields.lookup "ErrorMsg").isNone) "response message has no error code"
    demand (requestId.isNone && isLast.isNone)
      "action error callback has response-only arguments"
    mapper.orderAction .onErrRtnOrderAction fields error none

/-! ## The bridge -/

/-- What is read of a durable command. -/
structure Command where
  status : String
  correlation : Nat
  sessionBindingSha256 : String
  deriving DecidableEq

structure Bridge where
  facts : SourceFacts
  correlation : Nat
  sessionBindingSha256 : String
  consumerToken : Option Nat
  lastSourceSequence : Nat
  closed : Bool := false
  stateGeneration : Nat := 0
  pollInFlight : Bool := false

/-- The constructor. -/
def Bridge.new (facts : SourceFacts) (command : Command) (consumerToken : Nat) : Bridge where
  facts
  correlation := command.correlation
  sessionBindingSha256 := command.sessionBindingSha256
  consumerToken := some consumerToken
  lastSourceSequence := facts.callbackSourceSequenceBaseline

/-- What the store and the client say during a call. -/
structure Chance where
  /-- `read_ctp_dispatch_command`. -/
  command : Except Exn (Option Command)
  /-- `_capture_logged_in_source`. -/
  source : Except Exn SourceFacts
  /-- The deadline of the wait has passed. -/
  expired : Bool := false
  /-- An exception that ends the wait or keeps it from beginning; one that is no `Exception` may
  also come after the envelope was numbered. -/
  interrupted : Option Exn := none

/-- `_require_command_binding_current` and `_require_live_source_current`. -/
def Bridge.requireCurrent (b : Bridge) (c : Chance) : Except Exn Unit := do
  let command ← c.command
  demand (command.any fun command =>
      command.status ∈ ["CLAIMED", "COMPLETED", "UNKNOWN"] && command.correlation = b.correlation &&
        command.sessionBindingSha256 = b.sessionBindingSha256)
    "durable command changed after lifecycle binding"
  let current ← c.source
  demand (b.facts.sameLoginLifecycle current) "native source lifecycle changed after binding"

/-- `CtpLifecycleBoundNativeCallbackEnvelope`. -/
structure Envelope (γ : Type) where
  callbackEnvelope : γ
  facts : SourceFacts
  eventSourceSequence : Nat
  callbackMonotonicNs : Int

/-- `_map_source_event`, with the envelope that is made of it. -/
def Bridge.mapSourceEvent {γ : Type} (mapper : Mapper γ) (b : Bridge) (event : Nat × SourceEvent) :
    Except Exn (Envelope γ) := do
  demand (event.1 = b.lastSourceSequence + 1 && decide (0 ≤ event.2.callbackMonotonicNs) &&
      event.2.origin = b.facts.origin)
    "source event identity or sequence does not match lifecycle"
  demand (event.2.loginVerified && event.2.login = b.facts.login &&
      event.2.callbackSessionMatchesLogin = some true)
    "source event login or origin facts differ from lifecycle"
  let callbackEnvelope ← mapFields mapper event.2
  return { callbackEnvelope, facts := b.facts, eventSourceSequence := event.1
           callbackMonotonicNs := event.2.callbackMonotonicNs }

/-! ## Calls -/

abbrev PollResult (γ : Type) := Except Exn (Option (Envelope γ))

/-- Where a call of `next_envelope` is. -/
inductive Phase (γ : Type) where
  /-- Before the first checks. -/
  | checking
  /-- Before the lock is taken again. -/
  | confirming
  | entering
  | waiting
  /-- With what the wait returned, before the last locked section. -/
  | concluding (event : Option (Nat × SourceEvent))
  /-- In `except Exception`. -/
  | failing (e : Exn)
  /-- `_poison` has closed the bridge and releases the lease. -/
  | releasing (e : Exn) (token : Nat)
  | clearing (e : Exn) (token : Nat)
  /-- Before `finally`. -/
  | leaving (result : PollResult γ)

/-- The envelope that a call is about to return. -/
def Phase.holds {γ : Type} : Phase γ → Option (Envelope γ)
  | .leaving (.ok envelope) => envelope
  | _ => none

structure Poll (γ : Type) where
  token : Nat
  generation : Nat
  phase : Phase γ

/-- Where a call of `close` is. -/
inductive Closing where
  | releasing (token : Nat)
  | clearing (token : Nat)

structure Machine (γ : Type) where
  counter : Counter SourceEvent
  bridge : Bridge
  polls : Nat → Option (Poll γ) := fun _ => none
  closes : Nat → Option Closing := fun _ => none
  /-- The envelopes, in the order of the sections that made them. -/
  envelopes : List (Envelope γ) := []
  /-- How calls of `next_envelope` ended. -/
  results : List (Nat × PollResult γ) := []
  /-- The envelopes of calls that were interrupted before they returned them. -/
  lost : List (Envelope γ) := []

inductive Act where
  /-- Anything else that happens to the client. -/
  | client (op : Op SourceEvent)
  | poll (thread : Nat)
  | step (thread : Nat) (chance : Chance)
  | close (thread : Nat)
  | closeStep (thread : Nat)

/-- What a call raises whose bridge was closed meanwhile. -/
def closedDuringPoll : Exn :=
  .contract ("bridge closed during callback poll; callback may have been consumed and " ++
    "discarded, so the outcome may require UNKNOWN reconciliation")

def inProgress : Exn := .contract "native callback bridge already has a poll in progress"

/-- What a call raises after the bridge was poisoned. -/
def Exn.wrapped : Exn → Exn
  | .contract detail => .contract detail
  | .raised _ => .contract "native callback source queue or lifecycle check failed"

/-- How a call ends: what is no `Exception` goes past `except`, instead of the result. -/
def Chance.ending {γ : Type} (c : Chance) : PollResult γ → PollResult γ
  | .ok envelope => if c.interrupted = some (.raised false) then .error (.raised false) else .ok envelope
  | .error e => .error e

/-- The thread of an operation at the queue. -/
def Op.thread : Op SourceEvent → Option Nat
  | .wait thread _ _ | .legacyWait thread _ | .look thread _ | .interrupt thread => some thread
  | _ => none

namespace Machine

variable {γ : Type} (m : Machine γ) (mapper : Mapper γ) (thread : Nat)

/-- A thread makes one call at a time. -/
def idle : Bool :=
  (m.polls thread).isNone && (m.closes thread).isNone && (m.counter.waits thread).isNone

def setPhase (poll : Poll γ) (phase : Phase γ) : Machine γ :=
  { m with polls := Function.update m.polls thread (some { poll with phase }) }

/-- An exception inside the `try`. -/
def raise (poll : Poll γ) (e : Exn) : Machine γ :=
  m.setPhase thread poll (if e.isException then .failing e else .leaving (.error e))

/-- The first locked section of `next_envelope`. -/
def begin : Machine γ :=
  let refused e := { m with results := m.results ++ [(thread, .error e)] }
  if m.bridge.closed then refused (.contract "bridge is closed")
  else if m.bridge.pollInFlight then refused inProgress
  else
    match m.bridge.consumerToken with
    | none => refused (.contract "native callback queue consumer lease is unavailable")
    | some token => { m with
        bridge := { m.bridge with pollInFlight := true }
        polls := Function.update m.polls thread
          (some { token, generation := m.bridge.stateGeneration, phase := .checking }) }

/-- `_require_poll_current`. -/
def requirePollCurrent (poll : Poll γ) : Except Exn Unit :=
  demand (!m.bridge.closed && m.bridge.stateGeneration = poll.generation &&
      m.bridge.consumerToken = some poll.token)
    "bridge closed or queue lease changed during callback poll"

/-- A section of its wait has ended. -/
def served (poll : Poll γ)
    (part : Option (Outcome SourceEvent) × Queue SourceEvent) : Machine γ :=
  let m := { m with
    counter := m.counter.settle thread (.consumer poll.token) (.consumer poll.token) part }
  match part.1 with
  | none => m.setPhase thread poll .waiting
  | some (.event event) => m.setPhase thread poll (.concluding (some event))
  | some .timedOut => m.setPhase thread poll (.concluding none)
  | some (.refused _) => m.raise thread poll (.raised true)

/-- The last locked section. -/
def conclude (m : Machine γ) (poll : Poll γ) (c : Chance)
    (event : Option (Nat × SourceEvent)) : Except Exn (Option (Envelope γ)) := do
  m.requirePollCurrent poll
  m.bridge.requireCurrent c
  match event with
  | none => return none
  | some event => (m.bridge.mapSourceEvent mapper event).map some

/-- The bridge after that section. -/
def concluded (b : Bridge) (envelope : Option (Envelope γ)) : Bridge :=
  { b with
    pollInFlight := false
    lastSourceSequence := (envelope.map (·.eventSourceSequence)).getD b.lastSourceSequence }

/-- The locked section of `_poison`. -/
def poison (poll : Poll γ) (e : Exn) : Machine γ :=
  if m.bridge.closed || m.bridge.stateGeneration ≠ poll.generation then
    m.setPhase thread poll (.leaving (.error closedDuringPoll))
  else
    { m with bridge := { m.bridge with
        closed := true, stateGeneration := m.bridge.stateGeneration + 1 } }.setPhase thread poll
      (match m.bridge.consumerToken with
        | none => .leaving (.error e.wrapped)
        | some token => .releasing e token)

/-- A token that was released is given up. -/
def dropToken (b : Bridge) (token : Nat) : Bridge :=
  { b with consumerToken := b.consumerToken.filter (· ≠ token) }

/-- `finally`, and the end of a call. -/
def leave (c : Chance) (result : PollResult γ) : Machine γ :=
  { m with
    bridge := { m.bridge with pollInFlight := false }
    polls := Function.update m.polls thread none
    results := m.results ++ [(thread, c.ending result)]
    lost := m.lost ++ match c.ending result with
      | .ok _ => []
      | .error _ => (Phase.leaving result).holds.toList }

/-- The next section of a call of `next_envelope`. -/
def advance (m : Machine γ) (thread : Nat) (poll : Poll γ) (c : Chance) :
    Machine γ :=
  match poll.phase with
  | .checking =>
    match m.bridge.requireCurrent c with
    | .ok () => m.setPhase thread poll .confirming
    | .error e => m.raise thread poll e
  | .confirming =>
    match m.requirePollCurrent poll with
    | .ok () => m.setPhase thread poll .entering
    | .error e => m.raise thread poll e
  | .entering =>
    match c.interrupted with
    | some e => m.raise thread poll e
    | none =>
      m.served thread poll (m.counter.queue.enterWait poll.token c.expired)
  | .waiting =>
    match c.interrupted with
    | some e => { m with counter := m.counter.step (.interrupt thread) }.raise thread poll e
    | none => m.served thread poll (m.counter.queue.look poll.token c.expired)
  | .concluding event =>
    match m.conclude mapper poll c event with
    | .ok envelope =>
      { m with
        bridge := concluded m.bridge envelope
        envelopes := m.envelopes ++ envelope.toList }.setPhase thread poll
        (.leaving (.ok envelope))
    | .error e => m.raise thread poll e
  | .failing e => m.poison thread poll e
  | .releasing e token =>
    { m with counter := m.counter.step (.release token) }.setPhase thread poll
      (match (m.counter.queue.release token).1 with
        | .ok () => .clearing e token
        | .error _ => .leaving (.error e.wrapped))
  | .clearing e token =>
    { m with bridge := dropToken m.bridge token }.setPhase thread poll
      (.leaving (.error e.wrapped))
  | .leaving result => m.leave thread c result

/-- The locked section of `close`. -/
def close : Machine γ :=
  { m with
    bridge := { m.bridge with
      closed := true
      stateGeneration := if m.bridge.closed then m.bridge.stateGeneration
        else m.bridge.stateGeneration + 1 }
    closes := Function.update m.closes thread (m.bridge.consumerToken.map .releasing) }

def closeStep : Closing → Machine γ
  | .releasing token => { m with
      counter := m.counter.step (.release token)
      closes := Function.update m.closes thread
        (match (m.counter.queue.release token).1 with
          | .ok () => some (.clearing token)
          | .error _ => none) }
  | .clearing token => { m with
      bridge := dropToken m.bridge token
      closes := Function.update m.closes thread none }

def step (m : Machine γ) : Act → Machine γ
  | .client op =>
    if op.thread.all fun thread => (m.polls thread).isNone && (m.closes thread).isNone then
      { m with counter := m.counter.step op }
    else m
  | .poll thread => if m.idle thread then m.begin thread else m
  | .step thread c =>
    match m.polls thread with
    | none => m
    | some poll => m.advance mapper thread poll c
  | .close thread => if m.idle thread then m.close thread else m
  | .closeStep thread =>
    match m.closes thread with
    | none => m
    | some closing => m.closeStep thread closing

/-- A bridge that has just been bound, on a client in any state. -/
def bound (counter : Counter SourceEvent) (facts : SourceFacts) (command : Command)
    (consumerToken : Nat) : Machine γ where
  counter
  bridge := Bridge.new facts command consumerToken

def run (m : Machine γ) (acts : List Act) : Machine γ :=
  acts.foldl (step mapper) m

end Machine

end BtApiCtp.Callbacks
