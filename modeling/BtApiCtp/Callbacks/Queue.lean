/-
# Callbacks.Queue -- the queue of native callback events

What a `TraderClient` keeps of native callbacks for those who wait for them (`client.py`): the
recorded events, the lease of the one token-aware consumer, and the legacy waits.  Every method
holds `_query_state_lock`.  A wait lets go of it in `Condition.wait` only, so a wait is its entry
and any number of looks at the queue, each under the lock; the last one ends it in the same
section, with the `finally` of the method.

A lease is read and written through `_native_callback_consumer_lease` only, or by the wait that
it belongs to while it is that lease; it is therefore kept there and named by its token.
-/
import Mathlib.Data.Finset.Basic
import Mathlib.Data.Finset.Insert

namespace BtApiCtp.Callbacks

/-- What a native API object is known by. -/
structure Api where
  nativeClientEpoch : String
  nativeApiSourceId : String
  deriving DecidableEq

/-- `_NativeCallbackEventConsumerLease`. -/
structure Lease where
  token : Nat
  sourceInstanceId : String
  api : Api
  nativeApiGeneration : Nat
  queueGeneration : Nat
  waiting : Bool := false
  revoked : Bool := false
  deriving DecidableEq

/-- Events of type `ε`, each with its source sequence. -/
structure Queue (ε : Type) where
  sourceInstanceId : String
  api : Option Api := none
  nativeApiGeneration : Nat := 0
  queueGeneration : Nat := 0
  lease : Option Lease := none
  /-- The number of tokens that were made. -/
  tokens : Nat := 0
  releasedTokens : List Nat := []
  /-- The threads that `_native_callback_legacy_waiters` counts. -/
  legacyWaiters : Finset Nat := ∅
  sequence : Nat := 0
  events : List (Nat × ε) := []

/-- The codes of `CtpNativeCallbackConsumerError`. -/
inductive Refusal where
  | alreadyClaimed
  | previousWaitActive
  | legacyWaitInFlight
  | nativeApiUnavailable
  | staleToken
  | competingWait
  | queueLeased
  /-- Another exception that ends a wait. -/
  | interrupted
  deriving DecidableEq, Repr

/-- How a wait ended. -/
inductive Outcome (ε : Type) where
  | event (event : Nat × ε)
  | timedOut
  | refused (refusal : Refusal)

namespace Queue

variable {ε : Type} (q : Queue ε) (token : Nat)

/-- `_native_callback_consumer_is_live_locked`, for the lease that is kept. -/
def isLive (lease : Lease) : Bool :=
  !lease.revoked && q.api = some lease.api && q.sourceInstanceId = lease.sourceInstanceId &&
    q.nativeApiGeneration = lease.nativeApiGeneration && q.queueGeneration = lease.queueGeneration

/-- This token's lease is kept, and live. -/
def holds : Bool :=
  q.lease.any fun lease => lease.token = token && q.isLive lease

/-- `_revoke_native_callback_event_consumer_locked`. -/
def revoke : Queue ε :=
  match q.lease with
  | none => q
  | some lease =>
    if lease.revoked then q
    else { q with
      lease := if lease.waiting then some { lease with revoked := true } else none
      releasedTokens := q.releasedTokens ++ [lease.token] }

/-- A lease that is not live is revoked. -/
def revokeStale : Queue ε :=
  if q.lease.all q.isLive then q else q.revoke

/-- `_claim_native_callback_event_consumer`. -/
def claim : Except Refusal Nat × Queue ε :=
  let q := q.revokeStale
  match q.lease with
  | some lease => (.error (if lease.waiting then .previousWaitActive else .alreadyClaimed), q)
  | none =>
    if q.legacyWaiters ≠ ∅ then (.error .legacyWaitInFlight, q)
    else
      match q.api with
      | none => (.error .nativeApiUnavailable, q)
      | some api => (.ok q.tokens, { q with
          tokens := q.tokens + 1
          lease := some {
            token := q.tokens, sourceInstanceId := q.sourceInstanceId, api
            nativeApiGeneration := q.nativeApiGeneration
            queueGeneration := q.queueGeneration } })

/-- The `finally` of a consumer's wait. -/
def finishWait : Queue ε :=
  match q.lease with
  | none => q
  | some lease =>
    if lease.token ≠ token then q
    else
      let rested := { q with lease := some { lease with waiting := false } }
      if q.isLive lease then rested else { rested.revoke with lease := none }

/-- One pass of the loop of a consumer's wait, without a result if it goes on. -/
def look (expired : Bool) : Option (Outcome ε) × Queue ε :=
  if q.holds token then
    match q.events with
    | event :: rest => (some (.event event), { q with events := rest }.finishWait token)
    | [] => if expired then (some .timedOut, q.finishWait token) else (none, q)
  else (some (.refused .staleToken), q.revoke.finishWait token)

/-- `_wait_native_callback_event_for_consumer`, up to where it waits. -/
def enterWait (expired : Bool) : Option (Outcome ε) × Queue ε :=
  match q.lease with
  | none => (some (.refused .staleToken), q)
  | some lease =>
    if lease.token ≠ token then (some (.refused .staleToken), q)
    else if !q.isLive lease then (some (.refused .staleToken), q.revoke)
    else if lease.waiting then (some (.refused .competingWait), q)
    else { q with lease := some { lease with waiting := true } }.look token expired

/-- `_release_native_callback_event_consumer`. -/
def release : Except Refusal Unit × Queue ε :=
  if q.lease.any (·.token = token) then (.ok (), q.revoke)
  else (if token ∈ q.releasedTokens then .ok () else .error .staleToken, q)

/-- `wait_native_callback_event`, up to where it waits. -/
def enterLegacy (thread : Nat) (expired : Bool) : Option (Outcome ε) × Queue ε :=
  let q := q.revokeStale
  if q.lease.isSome then (some (.refused .queueLeased), q)
  else
    match q.events with
    | event :: rest => (some (.event event), { q with events := rest })
    | [] =>
      if expired then (some .timedOut, q)
      else (none, { q with legacyWaiters := insert thread q.legacyWaiters })

/-- Its `finally`. -/
def finishLegacy (thread : Nat) : Queue ε :=
  { q with legacyWaiters := q.legacyWaiters.erase thread }

/-- One pass of its loop. -/
def lookLegacy (thread generation : Nat) (expired : Bool) : Option (Outcome ε) × Queue ε :=
  if generation ≠ q.queueGeneration then (some .timedOut, q.finishLegacy thread)
  else
    match q.events with
    | event :: rest => (some (.event event), { q with events := rest }.finishLegacy thread)
    | [] => if expired then (some .timedOut, q.finishLegacy thread) else (none, q)

/-- The setter of `_api`, for another object. -/
def replaceApi (api : Option Api) : Queue ε :=
  { q.revoke with
    api
    nativeApiGeneration := q.nativeApiGeneration + 1
    queueGeneration := q.queueGeneration + 1 }

/-- `_record_native_callback_event`, for a callback of the current API; an event that cannot be
made has used up its number. -/
def record (make : Nat → Option ε) : Queue ε :=
  let number := q.sequence + 1
  { q with
    sequence := number
    events := q.events ++ ((make number).map (number, ·)).toList }

end Queue

/-! ## Threads at the queue -/

/-- A thread in `Condition.wait`. -/
inductive Waiting where
  | consumer (token : Nat)
  | legacy (generation : Nat)
  deriving DecidableEq

inductive Receiver where
  | consumer (token : Nat)
  | legacy
  deriving DecidableEq

structure Counter (ε : Type) where
  queue : Queue ε
  waits : Nat → Option Waiting := fun _ => none
  /-- Who was handed which event. -/
  handed : List (Receiver × Nat × ε) := []

/-- What happens at the queue; whether a deadline has passed is open. -/
inductive Op (ε : Type) where
  | claim
  | wait (thread token : Nat) (expired : Bool)
  | legacyWait (thread : Nat) (expired : Bool)
  /-- A thread that waits wakes up. -/
  | look (thread : Nat) (expired : Bool)
  /-- Its wait raises. -/
  | interrupt (thread : Nat)
  | release (token : Nat)
  | revoke
  | replaceApi (api : Option Api)
  | record (make : Nat → Option ε)

namespace Counter

variable {ε : Type} (d : Counter ε) (sourceInstanceId : String)

/-- A section of a wait has ended: the wait goes on, or its outcome is handed over. -/
def settle (thread : Nat) (waiting : Waiting) (receiver : Receiver)
    (part : Option (Outcome ε) × Queue ε) : Counter ε where
  queue := part.2
  waits := Function.update d.waits thread (if part.1.isNone then some waiting else none)
  handed := d.handed ++ match part.1 with
    | some (.event event) => [(receiver, event)]
    | _ => []

def step : Op ε → Counter ε
  | .claim => { d with queue := d.queue.claim.2 }
  | .wait thread token expired =>
    if (d.waits thread).isSome then d
    else d.settle thread (.consumer token) (.consumer token) (d.queue.enterWait token expired)
  | .legacyWait thread expired =>
    if (d.waits thread).isSome then d
    else d.settle thread (.legacy d.queue.queueGeneration) .legacy
      (d.queue.enterLegacy thread expired)
  | .look thread expired =>
    match d.waits thread with
    | none => d
    | some (.consumer token) =>
      d.settle thread (.consumer token) (.consumer token) (d.queue.look token expired)
    | some (.legacy generation) =>
      d.settle thread (.legacy generation) .legacy
        (d.queue.lookLegacy thread generation expired)
  | .interrupt thread =>
    match d.waits thread with
    | none => d
    | some (.consumer token) => d.settle thread (.consumer token) (.consumer token)
        (some (.refused .interrupted), d.queue.finishWait token)
    | some (.legacy generation) => d.settle thread (.legacy generation) .legacy
        (some (.refused .interrupted), d.queue.finishLegacy thread)
  | .release token => { d with queue := (d.queue.release token).2 }
  | .revoke => { d with queue := d.queue.revoke }
  | .replaceApi api => { d with queue := d.queue.replaceApi api }
  | .record make => { d with queue := d.queue.record make }

/-- A new client. -/
def fresh : Counter ε where
  queue := { sourceInstanceId }

def run (ops : List (Op ε)) : Counter ε :=
  ops.foldl step (fresh sourceInstanceId)

end Counter

end BtApiCtp.Callbacks
