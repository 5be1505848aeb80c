/-
# Market.Direct -- the in-process market session

`CtpDirectMarketStreamSession` (`market_stream_provider.py`): its channels, `poll`, `resync` and
what happens to all channels together when the provider confirms that its source has started
anew.  The wrapped provider is the environment: every answer it gives to one of the session's
calls is arbitrary, also a different one to the same question asked again.  Calls are made on
the thread that opened the session.

`_new_epoch` gives an epoch that was never used; epochs are numbered, 0 is the session's own.
The history is what the consumer saw, and nothing reads it.  `channel_reliable` says that to
the consumer of any one channel the session is reliable (`Theory.Cursors`).
-/
import BtApiCtp.Theory.Cursors
import BtApiCtp.Theory.Section

namespace BtApiCtp.Market.Direct

open Theory Theory.Cursors
open Section hiding read

/-! ## The session -/

/-- `_Channel`. -/
structure Channel where
  token : Nat
  instrument : String
  /-- The epoch of `binding.source`. -/
  epoch : Nat
  sequence : Nat := 0
  awaitingResync : Bool := false
  /-- The epoch of `pending_binding`. -/
  pendingBinding : Option Nat := none
  deriving DecidableEq, Repr

/-- A `MarketTickEvent`, as far as its cursor goes. -/
structure TickEvent where
  token : Nat
  epoch : Nat
  sequence : Nat
  deriving DecidableEq, Repr

inductive Happening where
  /-- A channel was handed a binding. -/
  | bound (token epoch : Nat)
  /-- `poll` returned these events. -/
  | returned (events : List TickEvent)
  /-- `poll` raised. -/
  | failed
  /-- A confirmed source restart was noted. -/
  | restarted
  deriving DecidableEq, Repr

inductive Refusal where
  /-- `MARKET_STREAM_PROVIDER_SESSION_INVALID`. -/
  | sessionInvalid
  /-- `MARKET_STREAM_PROVIDER_EVENT_INVALID`. -/
  | eventInvalid
  /-- `MARKET_STREAM_PROVIDER_BINDING_INVALID`. -/
  | bindingInvalid
  /-- What the provider, or the payload of an event, raised. -/
  | raised
  deriving DecidableEq, Repr

structure Session where
  /-- The instrument of the route. -/
  route : String
  provider : Bool := false
  closed : Bool := false
  channels : List Channel := []
  /-- How many tokens and how many epochs were made. -/
  tokens : Nat := 0
  issued : Nat := 1
  history : List Happening := []

abbrev Step (α : Type) := Section Session Refusal α

abbrev Answer (α : Type) := Except Refusal α

namespace Session

def note (happening : Happening) (s : Session) : Session :=
  { s with history := s.history ++ [happening] }

def change (token : Nat) (f : Channel → Channel) (s : Session) : Session :=
  { s with channels := s.channels.map fun channel => if channel.token = token then f channel else channel }

end Session

/-! ## Subscriptions -/

/-- What `provider.subscribe` and the wait for its description come to. -/
inductive Subscribing where
  | raised
  /-- The source was not described in time. -/
  | undescribed
  | described
  deriving DecidableEq, Repr

/-- The channel that a subscription makes. -/
def Session.add (instrument : String) (s : Session) : Session :=
  { s with
    channels := s.channels ++ [{ token := s.tokens, instrument, epoch := 0 }]
    tokens := s.tokens + 1
    history := s.history ++ [.bound s.tokens 0] }

/-- `subscribe`. -/
def subscribe (instrument : String) (subscribing : Subscribing) : Step Unit := do
  require (fun s => instrument = s.route) .bindingInvalid
  require (fun s => !s.closed) .sessionInvalid
  require (fun s => !s.channels.any fun channel => channel.instrument = instrument)
    .bindingInvalid
  update fun s => { s with provider := true }
  match subscribing with
  | .raised => raise .raised
  | .undescribed => raise .sessionInvalid
  | .described => update (Session.add instrument)

/-- `unsubscribe`. -/
def Session.unsubscribe (token : Nat) (s : Session) : Session :=
  { s with channels := s.channels.filter fun channel => channel.token ≠ token }

/-- `close`. -/
def Session.close (s : Session) : Session :=
  { s with closed := true, provider := false, channels := [] }

/-! ## Polls -/

/-- One entry of what `provider.poll` returned. -/
inductive Item where
  | tick
  /-- `MarketTickPayload.from_dict` raises. -/
  | malformed
  /-- `bind_market_tick_event` raises. -/
  | unbindable
  deriving DecidableEq, Repr

/-- What the provider answers in one pass of the loop of `poll`. -/
structure Round where
  maintain : Answer Unit
  /-- `source_epoch_reset_required`, of a channel's handle. -/
  resetRequired : Nat → Answer Bool
  /-- `source_recovery_state is not None`. -/
  recovering : Nat → Answer Bool
  /-- `poll`, of a channel's handle with a limit. -/
  poll : Nat → Nat → Answer (List Item)

/-- Every channel is held back. -/
def Session.hold (s : Session) : Session :=
  { s with
    channels := s.channels.map fun channel =>
      { channel with awaitingResync := true, pendingBinding := none }
    history := s.history ++ [.restarted] }

/-- `any(not channel.awaiting_resync and ...)`. -/
def anyLive (ask : Nat → Answer Bool) (s : Session) : Answer Bool :=
  s.channels.anyM fun channel => if channel.awaitingResync then .ok false else ask channel.token

/-- `_note_source_restart`. -/
def noteSourceRestart (round : Round) : Step Bool := do
  let restarted ← ask (anyLive round.resetRequired)
  if restarted then do
    update Session.hold
    return true
  else return false

/-- The events of one channel; one that is not made has already been counted, or not yet. -/
def deliver : List Item → Channel → Answer (List TickEvent) × Channel
  | [], channel => (.ok [], channel)
  | .malformed :: _, channel => (.error .raised, channel)
  | .unbindable :: _, channel => (.error .raised, { channel with sequence := channel.sequence + 1 })
  | .tick :: items, channel =>
    match deliver items { channel with sequence := channel.sequence + 1 } with
    | (.ok events, counted) =>
      (.ok (⟨channel.token, channel.epoch, channel.sequence + 1⟩ :: events), counted)
    | (.error e, counted) => (.error e, counted)

def maxCtpProviderPollLimit : Nat := 256

/-- The loop over the channels, with the events so far. -/
def drain (round : Round) (maxEvents : Nat) :
    List Channel → List TickEvent → Answer (List TickEvent) × List Channel
  | [], events => (.ok events, [])
  | channel :: rest, events =>
    if channel.awaitingResync then
      ((drain round maxEvents rest events).1, channel :: (drain round maxEvents rest events).2)
    else if maxEvents ≤ events.length then (.ok events, channel :: rest)
    else
      match round.poll channel.token (min (maxEvents - events.length) maxCtpProviderPollLimit) with
      | .error e => (.error e, channel :: rest)
      | .ok items =>
        match deliver items channel with
        | (.error e, counted) => (.error e, counted :: rest)
        | (.ok new, counted) =>
          ((drain round maxEvents rest (events ++ new)).1,
            counted :: (drain round maxEvents rest (events ++ new)).2)

/-- One pass of the loop of `poll`. -/
def pollOnce (maxEvents : Nat) (round : Round) : Step (List TickEvent) := do
  lift round.maintain
  let restarted ← noteSourceRestart round
  require (fun _ => !restarted) .eventInvalid
  let unavailable ← ask (anyLive round.recovering)
  require (fun _ => !unavailable) .eventInvalid
  fun s =>
    let drained := drain round maxEvents s.channels []
    (drained.1, { s with channels := drained.2 })

/-- The loop of `poll`: passes with time left, and the one after which there is none. -/
def pollRounds (maxEvents : Nat) : List Round → Round → Step (List TickEvent)
  | [], last => pollOnce maxEvents last
  | round :: rounds, last => do
    let events ← pollOnce maxEvents round
    if events = [] then pollRounds maxEvents rounds last else return events

/-- `poll`. -/
def poll (timeoutMs maxEvents : Int) (rounds : List Round) (last : Round) :
    Step (List TickEvent) := do
  require (fun _ => 0 ≤ timeoutMs && timeoutMs ≤ 60000 && 1 ≤ maxEvents && maxEvents ≤ 256)
    .eventInvalid
  require (fun s => !s.closed) .sessionInvalid
  let idle ← Section.read fun s => !s.provider || s.channels.isEmpty
  if idle then return [] else pollRounds maxEvents.toNat rounds last

/-! ## Resyncs -/

/-- What the provider answers during one `resync`. -/
structure Replies where
  /-- `source_epoch_reset_required`, of the channel that is resynced. -/
  resetRequired : Answer Bool
  /-- The same, of each channel that is held. -/
  heldReset : Nat → Answer Bool
  /-- `acknowledge_source_epoch_reset`. -/
  acknowledged : Nat → Answer Bool
  /-- `describe_source` is not `None`. -/
  described : Nat → Answer Bool

/-- `_new_epoch`. -/
def newEpoch : Step Nat := do
  let epoch ← Section.read fun s => s.issued
  update fun s => { s with issued := s.issued + 1 }
  return epoch

/-- What `_binding_for` needs of the provider. -/
def describe (replies : Replies) (token : Nat) : Step Unit := do
  let described ← lift (replies.described token)
  require (fun _ => described) .sessionInvalid

def Session.prepare (token epoch : Nat) : Session → Session :=
  Session.change token fun channel => { channel with pendingBinding := some epoch }

/-- Every held channel takes a new epoch. -/
def acknowledgeHeld (replies : Replies) : List Nat → Step (List (Nat × Nat))
  | [] => return []
  | token :: tokens => do
    let epoch ← newEpoch
    let acknowledged ← lift (replies.acknowledged token)
    require (fun _ => acknowledged) .sessionInvalid
    let rest ← acknowledgeHeld replies tokens
    return (token, epoch) :: rest

/-- Their bindings are prepared. -/
def prepareHeld (replies : Replies) : List (Nat × Nat) → Step Unit
  | [] => return ()
  | (token, epoch) :: rest => do
    describe replies token
    update (Session.prepare token epoch)
    prepareHeld replies rest

/-- The channels that wait for their resync. -/
def Session.held (s : Session) : List Nat :=
  (s.channels.filter fun channel => channel.awaitingResync).map Channel.token

/-- `_rebind_restarted_source`. -/
def rebindRestartedSource (replies : Replies) : Step Unit := do
  let held ← Section.read Session.held
  require (fun _ => held ≠ []) .sessionInvalid
  let confirmed ← lift (held.allM replies.heldReset)
  require (fun _ => confirmed) .sessionInvalid
  let epochs ← acknowledgeHeld replies held
  prepareHeld replies epochs

/-- The binding of one channel is prepared, after no restart of its source. -/
def prepareOne (replies : Replies) (token : Nat) : Step Unit := do
  let epoch ← newEpoch
  describe replies token
  update (Session.prepare token epoch)

/-- The binding that a channel has ready. -/
def Session.prepared (token : Nat) (s : Session) : Answer Nat :=
  match (s.channels.find? fun channel => channel.token = token).bind Channel.pendingBinding with
  | some epoch => .ok epoch
  | none => .error .sessionInvalid

/-- The binding of a channel that waits for its resync. -/
def rebindHeld (replies : Replies) (channel : Channel) : Step Nat :=
  match channel.pendingBinding with
  | some epoch => return epoch
  | none => do
    let reset ← lift replies.resetRequired
    cond reset (rebindRestartedSource replies) (prepareOne replies channel.token)
    ask (Session.prepared channel.token)

/-- The binding of a channel that lost data on the consumer's side. -/
def rebindLive (replies : Replies) (channel : Channel) : Step Nat := do
  let reset ← lift replies.resetRequired
  require (fun _ => !reset) .sessionInvalid
  let epoch ← newEpoch
  describe replies channel.token
  return epoch

/-- The channel takes its binding. -/
def Session.bind (token epoch : Nat) (s : Session) : Session :=
  (s.change token fun channel =>
    { channel with epoch, pendingBinding := none, awaitingResync := false, sequence := 0 }).note
      (.bound token epoch)

/-- The channel of a binding that is still the channel's own. -/
def Session.bound (token epoch : Nat) (s : Session) : Answer Channel :=
  match s.channels.find? fun channel => channel.token = token && channel.epoch = epoch with
  | some channel => .ok channel
  | none => .error .bindingInvalid

/-- `resync`, for a binding that is told by its token and epoch. -/
def resync (token epoch : Nat) (acknowledgeDataLoss : Bool) (replies : Replies) : Step Unit := do
  require (fun s => !s.closed) .sessionInvalid
  require (fun _ => acknowledgeDataLoss) .bindingInvalid
  let channel ← ask (Session.bound token epoch)
  require (fun s => s.provider) .sessionInvalid
  let rebound ← cond channel.awaitingResync (rebindHeld replies channel)
    (rebindLive replies channel)
  update (Session.bind token rebound)

/-! ## Runs -/

inductive Call where
  | subscribe (instrument : String) (subscribing : Subscribing)
  | poll (timeoutMs maxEvents : Int) (rounds : List Round) (last : Round)
  | resync (token epoch : Nat) (acknowledgeDataLoss : Bool) (replies : Replies)
  | unsubscribe (token : Nat)
  | close

def Session.call (s : Session) : Call → Session
  | .subscribe instrument subscribing => (Direct.subscribe instrument subscribing s).2
  | .poll timeoutMs maxEvents rounds last =>
    match Direct.poll timeoutMs maxEvents rounds last s with
    | (.ok events, s') => s'.note (.returned events)
    | (.error _, s') => s'.note .failed
  | .resync token epoch acknowledgeDataLoss replies =>
    (Direct.resync token epoch acknowledgeDataLoss replies s).2
  | .unsubscribe token => s.unsubscribe token
  | .close => s.close

/-- A session in which these instruments have been subscribed, in this order. -/
def opened (route : String) (instruments : List String) : Session :=
  instruments.foldl (fun s instrument => s.add instrument) { route, provider := true }

def run (route : String) (instruments : List String) (calls : List Call) : Session :=
  calls.foldl Session.call (opened route instruments)

end BtApiCtp.Market.Direct
