/-
# Market.Stream -- `CtpMarketStream` under its callback lock

The state of a market-data stream and what each section under `_md_callback_lock` does to it:
the native callbacks, the subscription calls, and the steps of replacing a lost client.  A
callback carries what `connect` bound into it, its client, that client's token and the
capability of that connection; a capability is named by the token it was made with.  The
generation of a native client is read from the client itself, so it is an argument here.

The configured source identity and the per-instrument diagnostics of the rows are left out;
`bindingMatches` is the outcome of comparing the former.
-/
import BtApiCtp.Market.QuoteQueue
import BtApiCtp.Theory.Dict
import Mathlib.Data.Finset.Basic
import Mathlib.Data.Finset.Lattice.Lemmas

namespace BtApiCtp.Market

open Theory

inductive ConnectionState where
  | disconnected
  | connecting
  | authenticated
  | error
  deriving DecidableEq, Repr

/-- `CtpQuoteClockSourceScope`; `session` stands for its `uuid4`. -/
structure Scope where
  session : Nat
  connectionGeneration : Nat
  client : Nat
  clientToken : Nat
  clientGeneration : Int
  capability : Nat
  deriving DecidableEq, Repr

/-- What `connect` binds into the callbacks of a client. -/
structure Callback where
  client : Nat
  token : Nat
  deriving DecidableEq, Repr

/-- The capability is made together with the token. -/
def Callback.capability (call : Callback) : Nat := call.token

/-- `CtpNativeStopReceipt`. -/
structure StopReceipt where
  connectionGeneration : Int
  complete : Bool
  deriving DecidableEq, Repr

/-- A row that was pushed to the queues, with the scope of its receipt if it has one. -/
structure Quote where
  symbol : String
  receipt : Option Scope
  connectionGeneration : Nat
  subscriptionEpoch : Nat
  ingestSeq : Nat
  row : Row
  deriving DecidableEq, Repr

structure Stream where
  mdClient : Option Nat := none
  clientToken : Nat := 0
  capability : Option Nat := none
  observedGeneration : Option Int := none
  connectionGeneration : Nat := 0
  ingestSeq : Nat := 0
  scope : Option Scope := none
  /-- How many scopes were issued. -/
  sessions : Nat := 0
  subscriptionFailed : Bool := false
  subscriptionEpoch : Nat := 0
  /-- The instruments of `_quote_v2_subscription_metadata`. -/
  subscribed : Finset String := ∅
  retired : Dict String Nat := ∅
  additionsFenced : Option Nat := none
  connectedOnce : Bool := false
  enabled : Bool := false
  ready : Bool := false
  scopeIssued : Bool := false
  failClosed : Bool := false
  recoveryRequired : Bool := false
  reconnectAuthorized : Bool := false
  stoppedClient : Option Nat := none
  stoppedGeneration : Option Int := none
  loginGeneration : Option Int := none
  required : Finset String := ∅
  acknowledged : Finset String := ∅
  requestIds : Dict String Int := ∅
  completedRequestIds : Finset Int := ∅
  pendingAdditions : Finset String := ∅
  pendingRequestIds : Finset Int := ∅
  state : ConnectionState := .disconnected
  bindingMatches : Bool := false

/-- `_MAX_CTP_QUOTE_V2_RETIRED_SYMBOLS`. -/
def maxRetiredSymbols : Nat := 1024

namespace Stream

variable (stream : Stream) (call : Callback) (client : Nat) (expected : Nat)
  (generation : Nat → Int) (instrument : String) (instruments : List String)

/-! ## Scopes and readiness -/

/-- `_is_current_md_callback`. -/
def isCurrent : Bool :=
  stream.mdClient = some call.client && stream.clientToken = call.token

/-- `_is_current_ctp_quote_clock_source_scope`; `generation` is the client's own. -/
def scopeCurrent (requireAuthenticated : Bool) (scope : Scope) : Bool :=
  stream.mdClient = some scope.client && stream.clientToken = scope.clientToken &&
    stream.capability = some scope.capability && 0 < scope.connectionGeneration &&
    scope.connectionGeneration = stream.connectionGeneration && 0 < scope.clientGeneration &&
    generation scope.client = scope.clientGeneration &&
    (!requireAuthenticated || stream.state = .authenticated)

/-- `_quote_v2_service_ack_set_complete_locked`. -/
def ackSetComplete : Bool :=
  stream.required.Nonempty && stream.required ⊆ stream.acknowledged &&
    decide (∀ symbol ∈ stream.required,
      (stream.requestIds.lookup symbol).any fun id => id ∈ stream.completedRequestIds)

/-- `get_quote_v2_service_ready_scope`. -/
def readyScope : Option Scope :=
  if stream.enabled && stream.ready && !stream.failClosed && !stream.recoveryRequired &&
      stream.ackSetComplete then
    stream.scope.filter (stream.scopeCurrent generation true)
  else none

/-- A symbol is acknowledged, by a request that was answered to the end. -/
def symbolAcknowledged (symbol : String) : Bool :=
  symbol ∈ stream.acknowledged &&
    (stream.requestIds.lookup symbol).any fun id => id ∈ stream.completedRequestIds

/-- `is_quote_v2_service_symbol_ready`. -/
def symbolReady (symbol : String) : Bool :=
  symbol ≠ "" && stream.enabled && stream.ready && !stream.failClosed &&
    !stream.recoveryRequired && symbol ∈ stream.required && stream.symbolAcknowledged symbol &&
    (stream.readyScope generation).isSome

/-- `_advance_quote_v2_connection_generation`. -/
def advanceGeneration (advanceEpoch : Bool) : Stream :=
  { stream with
    connectionGeneration := stream.connectionGeneration + 1
    ingestSeq := 0
    scope := none
    subscriptionEpoch :=
      if advanceEpoch && stream.subscribed.Nonempty then stream.subscriptionEpoch + 1
      else stream.subscriptionEpoch }

variable (generation : Int)

/-- `_issue_quote_clock_source_scope`, for a callback that was found current. -/
def issueScope : Stream :=
  if stream.isCurrent call && stream.capability = some call.capability && 0 < generation then
    { stream with
      sessions := stream.sessions + 1
      scope := some {
        session := stream.sessions, connectionGeneration := stream.connectionGeneration,
        client := call.client, clientToken := call.token, clientGeneration := generation,
        capability := call.capability } }
  else { stream with scope := none }

/-- The subscription state of a lost link is void. -/
def clearAcknowledgements : Stream :=
  { stream with
    acknowledged := ∅
    requestIds := ∅
    completedRequestIds := ∅
    pendingAdditions := ∅
    pendingRequestIds := ∅ }

/-- The same, with every subscribed symbol required again. -/
def requireAll : Stream :=
  { stream.clearAcknowledgements with required := stream.subscribed }

/-- Nothing of this session is trusted any more. -/
def shut : Stream :=
  { stream with failClosed := true, scope := none, ready := false, state := .error }

/-- The source is lost; it has to be replaced. -/
def lose : Stream :=
  { stream with recoveryRequired := true, scope := none, ready := false, state := .error }

/-- `enable_quote_v2_service_readiness`, `none` for `False`. -/
def enable : Option Stream :=
  if stream.connectedOnce || stream.mdClient.isSome || stream.state ≠ .disconnected ||
      stream.subscribed = ∅ then none
  else some { stream.requireAll with
    enabled := true, ready := false, failClosed := false, recoveryRequired := false,
    loginGeneration := none, bindingMatches := true }

/-! ## Native callbacks -/

/-- Tombstones and the fence of other clients end when this one has logged in. -/
def dropOtherTombstones (token : Nat) : Stream :=
  { stream with
    retired := stream.retired.filter fun _ retiredBy => retiredBy = token
    additionsFenced := stream.additionsFenced.filter fun fencedBy => fencedBy = token }

/-- `_on_login` of a service stream, from where it is known to be the current client's. -/
def serviceLogin : Stream :=
  if stream.recoveryRequired || stream.failClosed then
    { stream with scope := none, state := .error }
  else if stream.loginGeneration.any fun previous => previous ≠ generation then stream.lose
  else { stream.dropOtherTombstones call.token with
    loginGeneration := some generation
    observedGeneration := some generation
    state := .authenticated }

/-- The end of `_on_login` of a stream without the service's readiness. -/
def openScope : Stream :=
  let issued := stream.issueScope call generation
  if issued.scope.isSome then issued.dropOtherTombstones call.token else issued

/-- `_on_login` of a stream without the service's readiness. -/
def plainLogin : Stream :=
  let seen := { stream with state := .authenticated, observedGeneration := some generation }
  if stream.observedGeneration.any fun observed => observed ≠ generation then
    (seen.advanceGeneration true).openScope call generation
  else seen.openScope call generation

/-- `_on_login`. -/
def onLogin : Stream :=
  if !stream.isCurrent call then stream
  else if stream.subscriptionFailed then { stream with scope := none, state := .error }
  else if stream.capability ≠ some call.capability then { stream with state := .authenticated }
  else if generation ≤ 0 then { stream with scope := none }
  else if stream.enabled then stream.serviceLogin call generation
  else stream.plainLogin call generation

/-- What a subscription response says; a field of another type is `none`. -/
structure SubscribeResponse where
  instrument : Option String
  errorId : Option Int
  requestId : Option Int
  isLast : Option Bool
  connectionGeneration : Option Int
  deriving DecidableEq, Repr

/-- The response is for this login of the client. -/
def answersLogin (response : SubscribeResponse) : Bool :=
  !stream.recoveryRequired && !stream.failClosed && stream.state = .authenticated &&
    response.connectionGeneration.any (0 < ·) &&
    response.connectionGeneration = stream.loginGeneration &&
    response.connectionGeneration = some generation && response.isLast.isSome

/-- An added symbol whose request id was used before the additions began. -/
def reopensRequest (requestId : Int) : Bool :=
  instrument ∈ stream.pendingAdditions && requestId ∉ stream.pendingRequestIds

/-- A positive response that was asked for: the symbol is acknowledged. -/
def acknowledge (requestId : Int) (isLast : Bool) : Stream :=
  let reopened := stream.reopensRequest instrument requestId
  let completed :=
    if reopened then stream.completedRequestIds.erase requestId else stream.completedRequestIds
  { stream with
    pendingRequestIds :=
      if reopened then insert requestId stream.pendingRequestIds else stream.pendingRequestIds
    pendingAdditions := stream.pendingAdditions.erase instrument
    acknowledged := insert instrument stream.acknowledged
    requestIds := stream.requestIds.insert instrument requestId
    completedRequestIds := if isLast then insert requestId completed else completed }

/-- `_on_subscribe_response`. -/
def onSubscribeResponse (response : SubscribeResponse) : Stream :=
  if !stream.enabled || !stream.isCurrent call || stream.capability ≠ some call.capability then
    stream
  else if !stream.answersLogin generation response then stream.shut
  else
    match response.instrument, response.requestId with
    | some instrument, some requestId =>
      if requestId < 0 || instrument = "" || instrument ∉ stream.subscribed ||
          instrument ∉ stream.required || response.errorId ≠ some 0 ||
          instrument ∈ stream.acknowledged ||
          (requestId ∈ stream.completedRequestIds &&
            !stream.reopensRequest instrument requestId) then
        stream.shut
      else stream.acknowledge instrument requestId (response.isLast.getD false)
    | _, _ => stream.shut

/-- What the service makes of a tick before it becomes a row: `none` if it goes no further. -/
def admitTick (symbol : String) : Stream × Bool :=
  if stream.failClosed || stream.recoveryRequired then (stream, false)
  else if generation ≤ 0 || stream.loginGeneration ≠ some generation then (stream.lose, false)
  else if stream.state ≠ .authenticated then (stream, false)
  else if symbol ∉ stream.subscribed then
    if (stream.retired.lookup symbol).isSome then (stream, false) else (stream.shut, false)
  else if !stream.symbolAcknowledged symbol then (stream, false)
  else if stream.ready then (stream, true)
  else if !stream.ackSetComplete then (stream, false)
  else
    let issued := stream.issueScope call generation
    if issued.scope.isSome then ({ issued with ready := true, scopeIssued := true }, true)
    else ({ issued with failClosed := true, state := .error }, false)

/-- The row of a tick, numbered in its connection, with a receipt if its scope is current.
`published` is `none` for a row that is dropped as out of order. -/
def pushTick (symbol : String)
    (published : Option Row) : Stream × Option Quote :=
  let stream :=
    match stream.observedGeneration with
    | none =>
      let seen := { stream with observedGeneration := some generation }
      if stream.connectionGeneration = 0 then seen.advanceGeneration false else seen
    | some observed =>
      if observed ≠ generation then
        { stream with observedGeneration := some generation }.advanceGeneration true
      else stream
  let stream := { stream with ingestSeq := stream.ingestSeq + 1 }
  let receipt :=
    if stream.capability = some call.capability then
      stream.scope.filter (stream.scopeCurrent (fun _ => generation) false)
    else none
  (stream, published.map fun row => {
    symbol, receipt, connectionGeneration := stream.connectionGeneration,
    subscriptionEpoch := if symbol ∈ stream.subscribed then stream.subscriptionEpoch else 0,
    ingestSeq := stream.ingestSeq, row })

/-- `_on_tick`, as a native callback. -/
def onTick (symbol : String)
    (published : Option Row) : Stream × Option Quote :=
  if !stream.isCurrent call || stream.subscriptionFailed then (stream, none)
  else if stream.enabled && stream.capability = some call.capability then
    match stream.admitTick call generation symbol with
    | (admitted, true) => admitted.pushTick call generation symbol published
    | (refused, false) => (refused, none)
  else stream.pushTick call generation symbol published

/-- `_on_error`. -/
def onError : Stream :=
  if !stream.isCurrent call then stream
  else if stream.enabled then stream.shut
  else { stream with scope := none, state := .error }

/-- `_on_login_failure`; a refusal that is final is an error. -/
def onLoginFailure (retryable : Bool) : Stream :=
  if !retryable then stream.onError call
  else if !stream.isCurrent call then stream
  else if !stream.enabled then { stream with scope := none, state := .error }
  else if !stream.failClosed && !stream.recoveryRequired then
    { stream with scope := none, ready := false, state := .connecting }
  else { stream with scope := none, ready := false }

/-- `_on_disconnect`. -/
def onDisconnect : Stream :=
  if !stream.isCurrent call || stream.capability ≠ some call.capability then stream
  else
    let stream := { stream with scope := none, ready := false }
    if stream.enabled && !stream.failClosed && !stream.recoveryRequired && !stream.scopeIssued then
      -- nothing was published from this client yet, so its next login is awaited in place
      { stream.requireAll with loginGeneration := none, state := .connecting }
    else if stream.enabled && !stream.failClosed then stream.requireAll.lose
    else { stream with state := .error }

/-! ## Subscriptions -/

inductive SubscriptionError where
  /-- `CTP_MD_RESUBSCRIBE_REQUIRES_FRESH_STREAM`. -/
  | resubscribeRequiresFreshStream
  /-- `CTP_MD_RETIRED_SUBSCRIPTION_LIMIT`. -/
  | retiredSubscriptionLimit
  deriving DecidableEq, Repr

/-- `_register_quote_v2_topics`, for the instruments of the topics. -/
def registerTopics : Except SubscriptionError Unit × Stream :=
  if instruments = [] then (.ok (), stream)
  else if instruments.any fun instrument => (stream.retired.lookup instrument).isSome then
    (.error .resubscribeRequiresFreshStream, stream)
  else if instruments.any (fun instrument => instrument ∉ stream.subscribed) &&
      (stream.additionsFenced.isSome || maxRetiredSymbols ≤ stream.retired.entries.length) then
    (.error .retiredSubscriptionLimit,
      { stream with additionsFenced := stream.additionsFenced.or (some stream.clientToken) })
  else (.ok (), { stream with
    subscriptionEpoch := max 1 stream.subscriptionEpoch
    subscribed := stream.subscribed ∪ instruments.toFinset })

/-- The instruments that a registration adds. -/
def additions : List String :=
  instruments.dedup.filter fun instrument => instrument ∉ stream.subscribed

/-- The first section of `subscribe_topics`: what is added has to be acknowledged. -/
def subscribeTopics : Except SubscriptionError Unit × Stream :=
  match stream.registerTopics instruments with
  | (.error e, refused) => (.error e, refused)
  | (.ok (), registered) =>
    let added := (stream.additions instruments).toFinset
    (.ok (), if !registered.enabled then registered
      else { registered with
        pendingRequestIds :=
          if added.Nonempty && registered.pendingAdditions = ∅ then ∅
          else registered.pendingRequestIds
        required := registered.required ∪ added
        acknowledged := registered.acknowledged \ added
        requestIds := registered.requestIds.filter fun symbol _ => symbol ∉ added
        pendingAdditions := registered.pendingAdditions ∪ added })

/-- `_fail_closed_quote_v2_subscription`. -/
def failClosedSubscription (ambiguous : List String) : Stream :=
  let stream := { stream with
    subscribed := stream.subscribed \ ambiguous.toFinset
    scope := none
    capability := none
    subscriptionFailed := true
    state := .error }
  if stream.enabled then { stream with failClosed := true, ready := false } else stream

/-- One round of the loop of `unsubscribe_topics`. -/
def retire (symbol : String) : Stream :=
  let retired :=
    if (stream.retired.lookup symbol).isNone && stream.retired.entries.length < maxRetiredSymbols
    then stream.retired.insert symbol stream.clientToken else stream.retired
  { stream with
    subscribed := stream.subscribed.erase symbol
    acknowledged := stream.acknowledged.erase symbol
    requestIds := stream.requestIds.erase symbol
    required := stream.required.erase symbol
    pendingAdditions := stream.pendingAdditions.erase symbol
    retired
    additionsFenced :=
      if maxRetiredSymbols ≤ retired.entries.length then some stream.clientToken
      else stream.additionsFenced }

/-- The second section of `unsubscribe_topics`, after the native client has confirmed; `none`
if the client was replaced meanwhile. -/
def removeTopics (client : Option Nat) (removals : List String) : Option Stream :=
  if stream.mdClient ≠ client then none else some (removals.foldl retire stream)

/-! ## Replacing a lost client -/

/-- Unbind the client: what it still sends is no longer current. -/
def unbind : Stream :=
  { stream with
    clientToken := stream.clientToken + 1
    capability := none
    scope := none
    mdClient := none
    observedGeneration := none
    ready := false }

/-- Unbind the client and keep it as the one to be stopped. -/
def detachAs : Stream :=
  { stream.unbind.requireAll with
    scopeIssued := false
    loginGeneration := none
    stoppedClient := some client
    stoppedGeneration := some generation }

/-- `detach_quote_v2_client_for_recovery`, `none` for `False`. -/
def detachForRecovery : Option Stream :=
  if stream.enabled && stream.recoveryRequired && !stream.failClosed &&
      stream.mdClient = some expected && stream.stoppedClient.isNone && 0 < generation then
    some { stream.detachAs expected generation with state := .disconnected }
  else none

variable (receipt : StopReceipt)

/-- The first section of `reconnect_quote_v2_after_confirmed_stop`. -/
def authorizeReconnect : Option Stream :=
  if receipt.complete && stream.stoppedGeneration = some receipt.connectionGeneration &&
      stream.stoppedClient = some expected && stream.recoveryRequired && !stream.failClosed &&
      stream.mdClient.isNone && stream.state = .disconnected && stream.bindingMatches then
    some { stream with recoveryRequired := false, reconnectAuthorized := true }
  else none

/-- `connect` before its native client exists, `none` where it raises. -/
def beginConnect : Option Stream :=
  if stream.enabled && stream.connectedOnce && !stream.reconnectAuthorized then none
  else
    let stream :=
      if stream.enabled then
        { stream.requireAll with
          reconnectAuthorized := false, recoveryRequired := false, failClosed := false,
          ready := false, scopeIssued := false, loginGeneration := none }
      else stream
    some { stream.advanceGeneration stream.connectedOnce with
      state := .connecting
      clientToken := stream.clientToken + 1
      capability := some (stream.clientToken + 1)
      observedGeneration := none }

/-- `connect` once the client is constructed. -/
def bindClient : Stream := { stream with mdClient := some client }

/-- `connect`, which holds the lock throughout: the native client may fail to be constructed,
and may fail to be started. -/
def connect (client : Option Nat) (started : Bool) : Option Stream := do
  let connecting ← stream.beginConnect
  match client with
  | none => some connecting
  | some client =>
    let bound := connecting.bindClient client
    some { bound with connectedOnce := bound.connectedOnce || started }

/-- `reconnect_quote_v2_after_confirmed_stop`, after `connect` raised. -/
def reconnectRaised (oldGeneration : Option Int) : Stream :=
  let stream := { stream.shut with reconnectAuthorized := false }
  if stream.mdClient.isNone then
    { stream with
      stoppedClient := some expected, stoppedGeneration := oldGeneration, recoveryRequired := true }
  else { stream with stoppedClient := none, stoppedGeneration := none }

/-- `reconnect_quote_v2_after_confirmed_stop`, after `connect` returned. -/
def reconnectDone : Stream :=
  { stream with stoppedClient := none, stoppedGeneration := none }

/-- The client is still bound, or it is the one that was kept when it was unbound. -/
def owns : Bool :=
  match stream.mdClient with
  | some client => client = expected
  | none =>
    stream.stoppedClient = some expected &&
      stream.stoppedGeneration.any fun previous => previous ≤ receipt.connectionGeneration

/-- `retain_quote_v2_stopped_client_for_retry`, `none` for `False`. -/
def retainForRetry : Option Stream :=
  if stream.enabled && receipt.complete && 0 ≤ receipt.connectionGeneration &&
      generation = receipt.connectionGeneration && stream.owns expected receipt then
    some { stream.detachAs expected receipt.connectionGeneration with
      recoveryRequired := true
      reconnectAuthorized := false
      failClosed := true
      state := .error }
  else none

/-- The stream keeps a stopped client and is shut. -/
def retains : Bool :=
  receipt.complete && stream.stoppedGeneration = some receipt.connectionGeneration &&
    stream.stoppedClient = some expected && stream.recoveryRequired &&
    !stream.reconnectAuthorized && stream.failClosed && !stream.ready &&
    stream.mdClient.isNone && (stream.state = .error || stream.state = .disconnected)

/-- `rearm_quote_v2_reconnect_after_confirmed_stop`, `none` for `False`. -/
def rearmReconnect : Option Stream :=
  if stream.retains expected receipt && 0 ≤ receipt.connectionGeneration &&
      !stream.subscriptionFailed && stream.bindingMatches then
    some { stream with failClosed := false, state := .disconnected }
  else none

/-- The section of `disconnect`; the client it unbinds is then told to stop. -/
def disconnect : Stream :=
  { stream.unbind.clearAcknowledgements with state := .disconnected }

/-- `normalize_quote_v2_reconnect_construction_failure`, `none` for `False`. -/
def normalizeFailure : Option Stream :=
  if stream.retains expected receipt && some generation = stream.stoppedGeneration then
    some stream.disconnect
  else none

end Stream

/-! ## Runs -/

/-- A section under the callback lock, with what it is given or reads from outside. -/
inductive StreamEvent where
  | login (call : Callback) (generation : Int)
  | subscribeResponse (call : Callback) (generation : Int) (response : Stream.SubscribeResponse)
  | tick (call : Callback) (generation : Int) (symbol : String) (published : Option Row)
  | error (call : Callback)
  | loginFailure (call : Callback) (retryable : Bool)
  | frontDisconnected (call : Callback)
  | enable
  | subscribe (instruments : List String)
  | failSubscription (ambiguous : List String)
  | remove (client : Option Nat) (removals : List String)
  | detach (expected : Nat) (generation : Int)
  | authorize (expected : Nat) (receipt : StopReceipt)
  | connect (client : Option Nat) (started : Bool)
  | reconnectRaised (expected : Nat) (oldGeneration : Option Int)
  | reconnectDone
  | retain (expected : Nat) (generation : Int) (receipt : StopReceipt)
  | rearm (expected : Nat) (receipt : StopReceipt)
  | normalize (expected : Nat) (generation : Int) (receipt : StopReceipt)
  | disconnect
  /-- The provider gives up on a recovery, or lets go of a client that came too late. -/
  | fence
  deriving DecidableEq, Repr

namespace Stream

/-- A section that refuses leaves the stream as it is. -/
def step (stream : Stream) : StreamEvent → Stream
  | .login call generation => stream.onLogin call generation
  | .subscribeResponse call generation response =>
    stream.onSubscribeResponse call generation response
  | .tick call generation symbol published => (stream.onTick call generation symbol published).1
  | .error call => stream.onError call
  | .loginFailure call retryable => stream.onLoginFailure call retryable
  | .frontDisconnected call => stream.onDisconnect call
  | .enable => stream.enable.getD stream
  | .subscribe instruments => (stream.subscribeTopics instruments).2
  | .failSubscription ambiguous => stream.failClosedSubscription ambiguous
  | .remove client removals => (stream.removeTopics client removals).getD stream
  | .detach expected generation => (stream.detachForRecovery expected generation).getD stream
  | .authorize expected receipt => (stream.authorizeReconnect expected receipt).getD stream
  | .connect client started => (stream.connect client started).getD stream
  | .reconnectRaised expected oldGeneration => stream.reconnectRaised expected oldGeneration
  | .reconnectDone => stream.reconnectDone
  | .retain expected generation receipt =>
    (stream.retainForRetry expected generation receipt).getD stream
  | .rearm expected receipt => (stream.rearmReconnect expected receipt).getD stream
  | .normalize expected generation receipt =>
    (stream.normalizeFailure expected generation receipt).getD stream
  | .disconnect => stream.disconnect
  | .fence => stream.shut

/-- A stream that was just constructed and then saw these sections. -/
def run (events : List StreamEvent) : Stream := events.foldl step {}

end Stream

end BtApiCtp.Market
