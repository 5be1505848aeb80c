/-
# Market.Retirement -- late ticks of symbols that were unsubscribed

A tick carries no subscription token, so `unsubscribe_topics` leaves a tombstone for every
symbol it takes out, and a tick of such a symbol is dropped.  The ledger of tombstones holds at
most `maxRetiredSymbols`; a symbol that is taken out when it is full leaves none, and its late
tick looks like one that was never asked for.

* `late_tick_harmless`: a symbol taken out while the ledger had room for the whole request;
* `unrecorded_late_tick_shuts`: one symbol too many, and the whole session is shut.
-/
import BtApiCtp.Market.Stream

namespace BtApiCtp.Market

open Theory

variable {before after stream : Stream} {call : Callback} {symbol last : String}
  {removals : List String} {generation : Int} {early : List String} {unlucky : String}

namespace Stream

/-! ## What every section keeps -/

/-- What holds of a stream at every moment. -/
structure Consistent (stream : Stream) : Prop where
  /-- A symbol with a tombstone is not subscribed. -/
  separate : ∀ symbol ∈ stream.subscribed, stream.retired.lookup symbol = none
  /-- Only a service stream is ever ready. -/
  service : stream.ready = true → stream.enabled = true
  /-- A ready stream is ready for the login that issued its scope. -/
  login : stream.ready = true →
    ∀ scope, stream.scope = some scope → stream.loginGeneration = some scope.clientGeneration
  /-- The callbacks of the bound client carry the capability, unless a request failed. -/
  bound : stream.subscriptionFailed = false → stream.mdClient.isSome = true →
    stream.capability = some stream.clientToken

/-- What a section may do: keep the stream consistent, advance the token, and drop no tombstone
of the client it leaves bound. -/
structure Moves (before after : Stream) : Prop where
  token : before.clientToken ≤ after.clientToken
  tombstone : after.clientToken = before.clientToken → ∀ symbol,
    before.retired.lookup symbol = some before.clientToken →
      after.retired.lookup symbol = some before.clientToken
  consistent : before.Consistent → after.Consistent

/-- The fields that tie the subscriptions to the client. -/
def binding (stream : Stream) :=
  (stream.clientToken, stream.retired, stream.subscribed, stream.mdClient, stream.capability,
    stream.subscriptionFailed)

/-- The fields that say for what a stream is ready. -/
def readiness (stream : Stream) :=
  (stream.ready, stream.enabled, stream.scope, stream.loginGeneration)

namespace Moves

theorem refl (stream : Stream) : Moves stream stream :=
  ⟨le_rfl, fun _ _ found => found, fun inv => inv⟩

theorem trans {a b c : Stream} (first : Moves a b) (second : Moves b c) : Moves a c where
  token := first.token.trans second.token
  tombstone same symbol found := by
    have middle : b.clientToken = a.clientToken :=
      le_antisymm (second.token.trans same.le) first.token
    rw [← middle]
    refine second.tombstone (same.trans middle.symm) symbol ?_
    rw [middle]
    exact first.tombstone middle symbol found
  consistent := second.consistent ∘ first.consistent

section SameBinding

variable (same : after.binding = before.binding)
include same

/-- A section that leaves the subscriptions and the client alone. -/
theorem of_binding (ready : before.Consistent → after.ready = true → before.ready = true ∧
      after.enabled = before.enabled ∧ (after.scope = none ∨
        after.scope = before.scope ∧ after.loginGeneration = before.loginGeneration)) :
    Moves before after := by
  simp only [binding, Prod.mk.injEq] at same
  obtain ⟨token, retired, subscribed, client, capability, failed⟩ := same
  refine ⟨token.ge, fun _ symbol found => by rw [retired]; exact found, fun inv => ?_⟩
  refine ⟨?_, fun isReady => ?_, fun isReady scope has => ?_, ?_⟩
  · rw [subscribed, retired]
    exact inv.separate
  · obtain ⟨wasReady, sameEnabled, -⟩ := ready inv isReady
    rw [sameEnabled]
    exact inv.service wasReady
  · obtain ⟨wasReady, -, none_or⟩ := ready inv isReady
    rcases none_or with gone | ⟨sameScope, sameLogin⟩
    · rw [gone] at has
      cases has
    · rw [sameLogin]
      exact inv.login wasReady scope (sameScope ▸ has)
  · rw [failed, client, capability, token]
    exact inv.bound

/-- A section that gives up the scope, if anything. -/
theorem unscoped (ready : after.ready = before.ready)
    (enabled : after.enabled = before.enabled) (scope : after.scope = none) : Moves before after :=
  of_binding same fun _ isReady => ⟨ready ▸ isReady, enabled, .inl scope⟩

/-- A section that changes nothing of what makes a stream ready. -/
theorem kept (ready : after.readiness = before.readiness) : Moves before after := by
  simp only [readiness, Prod.mk.injEq] at ready
  exact of_binding same fun _ isReady => ⟨ready.1 ▸ isReady, ready.2.1, .inr ready.2.2⟩

/-- A section that leaves the stream unready. -/
theorem unready (ready : after.ready = false) : Moves before after :=
  of_binding same fun _ isReady => absurd isReady (Bool.eq_false_iff.mp ready)

end SameBinding

/-- A stream without the service is never ready, so its scope is free to change. -/
theorem of_plain (plain : before.enabled = false) (same : after.binding = before.binding)
    (ready : after.ready = before.ready) : Moves before after := by
  refine of_binding same fun inv isReady => ?_
  rw [inv.service (ready ▸ isReady)] at plain
  cases plain

/-- A section that gives up the client and its token. -/
theorem of_unbound (token : before.clientToken < after.clientToken)
    (retired : after.retired = before.retired) (subscribed : after.subscribed = before.subscribed)
    (client : after.mdClient = none) (ready : after.ready = false) : Moves before after where
  token := token.le
  tombstone same := absurd same token.ne'
  consistent inv := by
    refine ⟨?_, ?_, ?_, ?_⟩
    · rw [subscribed, retired]
      exact inv.separate
    iterate 2
      · rw [ready]
        exact nofun
    · rw [client]
      exact nofun

/-- A section that may refuse. -/
theorem getD {result : Option Stream} (moves : ∀ after, result = some after → Moves before after) :
    Moves before (result.getD before) := by
  cases result with
  | none => exact refl before
  | some after => exact moves after rfl

/-- A section behind a check. -/
theorem guarded {c : Prop} [Decidable c] (moves : Moves before after) :
    Moves before ((if c then some after else none).getD before) := by
  split
  · exact moves
  · exact refl before

end Moves

theorem isCurrent_iff :
    stream.isCurrent call = true ↔
      stream.mdClient = some call.client ∧ stream.clientToken = call.token := by
  simp [isCurrent]

variable (stream)

theorem shut_moves : Moves stream stream.shut :=
  .unready rfl rfl

theorem lose_moves : Moves stream stream.lose :=
  .unready rfl rfl

/-- The scope is gone, and the state may be another. -/
theorem unscoped_moves (state : ConnectionState) :
    Moves stream { stream with scope := none, state } :=
  .unscoped rfl rfl rfl rfl

theorem advanceGeneration_moves (advanceEpoch : Bool) :
    Moves stream (stream.advanceGeneration advanceEpoch) :=
  .unscoped rfl rfl rfl rfl

/-! ## Callbacks -/

theorem dropOtherTombstones_moves :
    Moves stream (stream.dropOtherTombstones stream.clientToken) where
  token := le_rfl
  tombstone _ symbol found := by
    rw [dropOtherTombstones, Dict.lookup_filter, found]
    simp
  consistent inv := by
    refine ⟨fun symbol mem => ?_, inv.service, inv.login, inv.bound⟩
    rw [dropOtherTombstones, Dict.lookup_filter, inv.separate symbol mem]
    rfl

theorem serviceLogin_moves (generation : Int) (token : stream.clientToken = call.token) :
    Moves stream (stream.serviceLogin call generation) := by
  unfold serviceLogin
  split
  · exact unscoped_moves stream .error
  · split
    · exact lose_moves stream
    · -- a login for the generation that a ready stream is ready for
      rename_i same
      rw [← token]
      refine (dropOtherTombstones_moves stream).trans ⟨le_rfl, fun _ _ found => found, fun inv =>
        ⟨inv.separate, inv.service, fun ready scope has => ?_, inv.bound⟩⟩
      have issuedFor : stream.loginGeneration = _ := inv.login ready scope has
      simp only [issuedFor, Option.any_some, ne_eq, decide_not, Bool.not_eq_true',
        decide_eq_false_iff_not, not_not] at same
      exact congrArg some same.symm

/-- Issuing a scope changes nothing but the scope. -/
theorem issueScope_eq (call : Callback) (generation : Int) :
    ∃ sessions scope, stream.issueScope call generation = { stream with sessions, scope } := by
  unfold issueScope
  split
  · exact ⟨_, _, rfl⟩
  · exact ⟨stream.sessions, none, rfl⟩

theorem openScope_moves (generation : Int) (plain : stream.enabled = false)
    (token : stream.clientToken = call.token) :
    Moves stream (stream.openScope call generation) := by
  obtain ⟨sessions, scope, result⟩ := stream.issueScope_eq call generation
  unfold openScope
  rw [result]
  have issued : Moves stream { stream with sessions, scope } :=
    .of_plain plain rfl rfl
  dsimp only
  split
  · rw [← token]
    exact issued.trans (dropOtherTombstones_moves _)
  · exact issued

theorem plainLogin_moves (generation : Int) (plain : stream.enabled = false)
    (token : stream.clientToken = call.token) :
    Moves stream (stream.plainLogin call generation) := by
  unfold plainLogin
  dsimp only
  split
  iterate 2
    · refine Moves.trans ?_ (openScope_moves _ generation ?_ ?_)
      · exact .of_plain plain rfl rfl
      · exact plain
      · exact token

theorem onLogin_moves (call : Callback) (generation : Int) :
    Moves stream (stream.onLogin call generation) := by
  unfold onLogin
  split
  · exact .refl stream
  rename_i current
  have token : stream.clientToken = call.token := (isCurrent_iff.mp (by simpa using current)).2
  split
  · exact unscoped_moves stream .error
  split
  · exact .kept rfl rfl
  split
  · exact unscoped_moves stream stream.state
  split
  · exact serviceLogin_moves stream generation token
  · rename_i plain
    exact plainLogin_moves stream generation (Bool.eq_false_iff.mpr plain) token

theorem onSubscribeResponse_moves (call : Callback) (generation : Int)
    (response : SubscribeResponse) :
    Moves stream (stream.onSubscribeResponse call generation response) := by
  unfold onSubscribeResponse
  split
  · exact .refl stream
  split
  · exact shut_moves stream
  split
  · split
    · exact shut_moves stream
    · exact .kept rfl rfl
  · exact shut_moves stream

/-- The first tick after the acknowledgements makes the stream ready for its login. -/
theorem issued_moves (enabled : stream.enabled = true)
    (login : stream.loginGeneration = some generation)
    (issued : (stream.issueScope call generation).scope.isSome = true) :
    Moves stream { stream.issueScope call generation with ready := true, scopeIssued := true } := by
  unfold issueScope at issued ⊢
  split at issued
  · rename_i current
    rw [if_pos current]
    refine ⟨le_rfl, fun _ _ found => found, fun inv => ⟨inv.separate, fun _ => enabled, ?_, inv.bound⟩⟩
    intro _ scope has
    cases has
    exact login
  · cases issued

theorem admitTick_moves (call : Callback) (generation : Int) (symbol : String)
    (enabled : stream.enabled = true) :
    Moves stream (stream.admitTick call generation symbol).1 := by
  unfold admitTick
  split
  · exact .refl stream
  split
  · exact lose_moves stream
  rename_i matching
  split
  · exact .refl stream
  split
  · split
    · exact .refl stream
    · exact shut_moves stream
  split
  · exact .refl stream
  split
  · exact .refl stream
  rename_i unready
  split
  · exact .refl stream
  dsimp only
  split
  · rename_i issued
    have logged : 0 < generation ∧ stream.loginGeneration = some generation := by
      simpa using matching
    exact issued_moves stream enabled logged.2 issued
  · obtain ⟨sessions, scope, result⟩ := stream.issueScope_eq call generation
    rw [result]
    exact .unready rfl (Bool.eq_false_iff.mpr unready)

theorem pushTick_moves (call : Callback) (generation : Int) (symbol : String)
    (published : Option Row) :
    Moves stream (stream.pushTick call generation symbol published).1 := by
  have seen : ∀ (s : Stream) (observedGeneration : Option Int),
      Moves s { s with observedGeneration } := fun _ _ =>
    .kept rfl rfl
  have numbered : ∀ s : Stream, Moves s { s with ingestSeq := s.ingestSeq + 1 } := fun _ =>
    .kept rfl rfl
  unfold pushTick
  dsimp only
  split
  · split
    · exact ((seen _ _).trans (advanceGeneration_moves _ _)).trans (numbered _)
    · exact (seen _ _).trans (numbered _)
  · split
    · exact ((seen _ _).trans (advanceGeneration_moves _ _)).trans (numbered _)
    · exact numbered stream

theorem onTick_moves (call : Callback) (generation : Int) (symbol : String)
    (published : Option Row) : Moves stream (stream.onTick call generation symbol published).1 := by
  unfold onTick
  split
  · exact .refl stream
  split
  · rename_i service
    have admitted := admitTick_moves stream call generation symbol (Bool.and_eq_true_iff.mp service).1
    split
    · rename_i next result
      rw [result] at admitted
      exact admitted.trans (pushTick_moves next call generation symbol published)
    · rename_i next result
      rw [result] at admitted
      exact admitted
  · exact pushTick_moves stream call generation symbol published

theorem onError_moves (call : Callback) : Moves stream (stream.onError call) := by
  unfold onError
  split
  · exact .refl stream
  split
  · exact shut_moves stream
  · exact unscoped_moves stream .error

theorem onLoginFailure_moves (call : Callback) (retryable : Bool) :
    Moves stream (stream.onLoginFailure call retryable) := by
  unfold onLoginFailure
  split
  · exact onError_moves stream call
  split
  · exact .refl stream
  split
  · exact unscoped_moves stream .error
  split
  iterate 2 · exact .unready rfl rfl

theorem onDisconnect_moves (call : Callback) : Moves stream (stream.onDisconnect call) := by
  unfold onDisconnect
  split
  · exact .refl stream
  dsimp only
  split
  · exact .unready rfl rfl
  split
  iterate 2 · exact .unready rfl rfl

/-! ## Subscriptions -/

variable (expected : Nat) (instruments : List String)

theorem registerTopics_moves :
    Moves stream (stream.registerTopics instruments).2 := by
  unfold registerTopics
  split
  · exact .refl stream
  split
  · exact .refl stream
  rename_i notRetired
  split
  · exact .kept rfl rfl
  · refine ⟨le_rfl, fun _ _ found => found, fun inv =>
      ⟨fun symbol mem => ?_, inv.service, inv.login, inv.bound⟩⟩
    rcases Finset.mem_union.mp mem with old | new
    · exact inv.separate symbol old
    · by_contra found
      refine notRetired (List.any_eq_true.mpr ⟨symbol, List.mem_toFinset.mp new, ?_⟩)
      exact Option.isSome_iff_ne_none.mpr found

theorem subscribeTopics_moves :
    Moves stream (stream.subscribeTopics instruments).2 := by
  have registering := registerTopics_moves stream instruments
  unfold subscribeTopics
  split
  · rename_i refused result
    rw [result] at registering
    exact registering
  · rename_i registered result
    rw [result] at registering
    dsimp only
    split
    · exact registering
    · exact registering.trans (.kept rfl rfl)

theorem failClosedSubscription_moves (ambiguous : List String) :
    Moves stream (stream.failClosedSubscription ambiguous) := by
  have kept : ∀ symbol ∈ stream.subscribed \ ambiguous.toFinset, symbol ∈ stream.subscribed :=
    fun symbol mem => (Finset.mem_sdiff.mp mem).1
  unfold failClosedSubscription
  dsimp only
  split
  · refine ⟨le_rfl, fun _ _ found => found, fun inv => ⟨fun symbol mem => ?_, nofun, nofun, nofun⟩⟩
    exact inv.separate symbol (kept symbol mem)
  · refine ⟨le_rfl, fun _ _ found => found, fun inv =>
      ⟨fun symbol mem => ?_, inv.service, nofun, nofun⟩⟩
    exact inv.separate symbol (kept symbol mem)

/-- The ledger after a symbol was taken out. -/
theorem retire_lookup (symbol other : String) :
    (stream.retire symbol).retired.lookup other =
      if other = symbol ∧ stream.retired.lookup symbol = none ∧
          stream.retired.entries.length < maxRetiredSymbols then some stream.clientToken
      else stream.retired.lookup other := by
  simp only [retire, Bool.and_eq_true, Option.isNone_iff_eq_none, decide_eq_true_eq]
  split
  · rename_i room
    rw [Dict.lookup_insert_eq]
    simp [room]
  · rename_i full
    rw [if_neg fun all => full all.2]

theorem retire_moves (symbol : String) : Moves stream (stream.retire symbol) where
  token := le_rfl
  tombstone _ other found := by
    rw [retire_lookup, found]
    split
    · rfl
    · rfl
  consistent inv := by
    refine ⟨fun other mem => ?_, inv.service, inv.login, inv.bound⟩
    obtain ⟨different, wasSubscribed⟩ := Finset.mem_erase.mp mem
    rw [retire_lookup, if_neg fun all => different all.1]
    exact inv.separate other wasSubscribed

theorem retireAll_moves (removals : List String) : Moves stream (removals.foldl retire stream) := by
  induction removals generalizing stream with
  | nil => exact .refl stream
  | cons symbol rest ih => exact (retire_moves stream symbol).trans (ih _)

theorem retireAll_token (removals : List String) :
    (removals.foldl retire stream).clientToken = stream.clientToken := by
  induction removals generalizing stream with
  | nil => rfl
  | cons symbol rest ih => exact ih _

/-! ## Replacing the client -/

theorem beginConnect_moves {connecting : Stream} (begun : stream.beginConnect = some connecting)
    (client : Option Nat) (connectedOnce : Bool) :
    Moves stream { connecting with mdClient := client, connectedOnce } := by
  unfold beginConnect at begun
  split at begun
  · cases begun
  cases begun
  cases enabled : stream.enabled with
  | true =>
    refine ⟨Nat.le_succ _, fun same => absurd same (Nat.succ_ne_self _), fun inv => ?_⟩
    exact ⟨inv.separate, nofun, nofun, fun _ _ => rfl⟩
  | false =>
    refine ⟨Nat.le_succ _, fun same => absurd same (Nat.succ_ne_self _), fun inv => ?_⟩
    exact ⟨inv.separate, fun ready => inv.service ready, nofun, fun _ _ => rfl⟩

theorem connect_moves (client : Option Nat) (started : Bool) :
    Moves stream ((stream.connect client started).getD stream) := by
  refine .getD fun after connected => ?_
  unfold connect at connected
  cases begun : stream.beginConnect with
  | none =>
    rw [begun] at connected
    cases connected
  | some connecting =>
    rw [begun] at connected
    cases client with
    | none =>
      cases connected
      exact beginConnect_moves stream begun after.mdClient after.connectedOnce
    | some client =>
      cases connected
      exact beginConnect_moves stream begun (some client) _

theorem disconnect_moves : Moves stream stream.disconnect :=
  .of_unbound (Nat.lt_succ_self _) rfl rfl rfl rfl

theorem enable_moves : Moves stream (stream.enable.getD stream) := by
  refine .getD fun after enabled => ?_
  unfold enable at enabled
  split at enabled
  · cases enabled
  · cases enabled
    exact .unready rfl rfl

/-! ## Runs -/

theorem step_moves (event : StreamEvent) : Moves stream (stream.step event) := by
  cases event with
  | login call generation => exact onLogin_moves stream call generation
  | subscribeResponse call generation response =>
    exact onSubscribeResponse_moves stream call generation response
  | tick call generation symbol published =>
    exact onTick_moves stream call generation symbol published
  | error call => exact onError_moves stream call
  | loginFailure call retryable => exact onLoginFailure_moves stream call retryable
  | frontDisconnected call => exact onDisconnect_moves stream call
  | enable => exact enable_moves stream
  | subscribe instruments => exact subscribeTopics_moves stream instruments
  | failSubscription ambiguous => exact failClosedSubscription_moves stream ambiguous
  | remove client removals =>
    change Moves stream ((stream.removeTopics client removals).getD stream)
    unfold removeTopics
    split
    · exact .refl stream
    · exact retireAll_moves stream removals
  | detach expected generation | retain expected generation receipt =>
    exact .guarded (.of_unbound (Nat.lt_succ_self _) rfl rfl rfl rfl)
  | authorize expected receipt | rearm expected receipt => exact .guarded (.kept rfl rfl)
  | connect client started => exact connect_moves stream client started
  | reconnectRaised expected oldGeneration =>
    change Moves stream (stream.reconnectRaised expected oldGeneration)
    unfold reconnectRaised
    dsimp only
    split
    iterate 2 · exact .unready rfl rfl
  | reconnectDone => exact .kept rfl rfl
  | normalize expected generation receipt => exact .guarded (disconnect_moves stream)
  | disconnect => exact disconnect_moves stream
  | fence => exact shut_moves stream

theorem steps_moves (events : List StreamEvent) : Moves stream (events.foldl step stream) := by
  induction events generalizing stream with
  | nil => exact .refl stream
  | cons event rest ih => exact (step_moves stream event).trans (ih _)

theorem run_consistent (events : List StreamEvent) : (run events).Consistent := by
  refine (steps_moves {} events).consistent ⟨fun symbol mem => ?_, nofun, nofun, nofun⟩
  exact absurd mem (Finset.notMem_empty symbol)

/-- **A stream after any run**: no subscribed symbol has a tombstone; it is ready only as a service,
and for the login that issued its scope; and while its client stays bound, a symbol that left a
tombstone is not subscribed again. -/
theorem retired_stay_out (events later : List StreamEvent) :
    let stream := run events
    (∀ symbol ∈ stream.subscribed, stream.retired.lookup symbol = none) ∧
    (stream.ready = true → stream.enabled = true ∧
      ∀ scope, stream.scope = some scope → stream.loginGeneration = some scope.clientGeneration) ∧
    ((run (events ++ later)).clientToken = stream.clientToken → ∀ symbol,
      stream.retired.lookup symbol = some stream.clientToken →
        symbol ∉ (run (events ++ later)).subscribed) := by
  have inv := run_consistent events
  refine ⟨inv.separate, fun ready => ⟨inv.service ready, inv.login ready⟩, ?_⟩
  intro same symbol tombstone subscribed
  have split : run (events ++ later) = later.foldl step (run events) := List.foldl_append
  have kept := (steps_moves (run events) later).tombstone (split ▸ same) symbol tombstone
  rw [← split, (run_consistent (events ++ later)).separate symbol subscribed] at kept
  cases kept

variable {stream}

/-! ## A symbol with a tombstone -/

theorem retire_length_le (stream : Stream) (symbol : String) :
    (stream.retire symbol).retired.entries.length ≤ stream.retired.entries.length + 1 := by
  simp only [retire]
  split
  · rename_i room
    have absent : symbol ∉ stream.retired := by
      rw [← AList.lookup_eq_none]
      simpa using (Bool.and_eq_true_iff.mp room).1
    rw [AList.entries_insert_of_notMem absent]
    exact le_rfl
  · exact Nat.le_succ _

/-- With room for the whole request, every symbol of it leaves a tombstone of this client. -/
theorem retireAll_records (mem : symbol ∈ removals) (absent : stream.retired.lookup symbol = none)
    (room : stream.retired.entries.length + removals.length ≤ maxRetiredSymbols) :
    (removals.foldl retire stream).retired.lookup symbol = some stream.clientToken := by
  induction removals generalizing stream with
  | nil => exact absurd mem List.not_mem_nil
  | cons head rest ih =>
    rw [List.length_cons] at room
    by_cases same : symbol = head
    · have recorded : (stream.retire head).retired.lookup symbol = some stream.clientToken := by
        rw [retire_lookup, if_pos ⟨same, same ▸ absent, by omega⟩]
      exact (retireAll_moves (stream.retire head) rest).tombstone
        (le_antisymm (retireAll_token _ _).le (retireAll_token _ _).ge) symbol recorded
    · have stillAbsent : (stream.retire head).retired.lookup symbol = none := by
        rw [retire_lookup, if_neg fun all => same all.1, absent]
      have length := retire_length_le stream head
      exact ih ((List.mem_cons.mp mem).resolve_left same) stillAbsent (by omega)

/-- A tick of a symbol with a tombstone goes no further; at most it shows that the client has
another generation than the one that logged in. -/
theorem admitTick_retired (inv : stream.Consistent)
    (tombstone : (stream.retired.lookup symbol).isSome = true) (call : Callback)
    (generation : Int) :
    stream.admitTick call generation symbol = (stream, false) ∨
      (¬(0 < generation ∧ stream.loginGeneration = some generation)) ∧
        stream.admitTick call generation symbol = (stream.lose, false) := by
  have gone : symbol ∉ stream.subscribed := fun mem => by
    rw [inv.separate symbol mem] at tombstone
    cases tombstone
  unfold admitTick
  split
  · exact .inl rfl
  split
  · rename_i mismatch
    refine .inr ⟨fun ⟨positive, login⟩ => ?_, rfl⟩
    simp [login, not_le.mpr positive] at mismatch
  split
  · exact .inl rfl
  · exact .inl rfl

/-- Where a symbol is ready, the bound client still has the generation that logged in. -/
theorem login_of_symbolReady (inv : stream.Consistent) {generation : Nat → Int}
    (isReady : stream.symbolReady generation symbol = true) :
    ∃ client, stream.mdClient = some client ∧ 0 < generation client ∧
      stream.loginGeneration = some (generation client) := by
  simp only [symbolReady, Bool.and_eq_true, Option.isSome_iff_exists] at isReady
  obtain ⟨⟨⟨⟨⟨⟨⟨-, -⟩, ready⟩, -⟩, -⟩, -⟩, -⟩, scope, issued⟩ := isReady
  unfold readyScope at issued
  split at issued
  · obtain ⟨has, current⟩ := Option.filter_eq_some_iff.mp issued
    simp only [scopeCurrent, Bool.and_eq_true, decide_eq_true_eq] at current
    obtain ⟨⟨⟨⟨⟨⟨⟨client, -⟩, -⟩, -⟩, -⟩, positive⟩, generation⟩, -⟩ := current
    exact ⟨scope.client, client, generation ▸ positive, generation ▸ inv.login ready scope has⟩
  · cases issued

theorem pushTick_keeps (stream : Stream) (call : Callback) (generation : Int) (symbol : String)
    (published : Option Row) :
    (stream.pushTick call generation symbol published).1.failClosed = stream.failClosed ∧
      (stream.pushTick call generation symbol published).1.enabled = stream.enabled := by
  unfold pushTick advanceGeneration
  dsimp only
  split
  iterate 2
    · split
      iterate 2 · exact ⟨rfl, rfl⟩

theorem symbolReady_of_plain (plain : stream.enabled = false) (generation : Nat → Int)
    (symbol : String) : stream.symbolReady generation symbol = false := by
  simp [symbolReady, plain]

theorem symbolReady_lose (stream : Stream) (generation : Nat → Int) (symbol : String) :
    stream.lose.symbolReady generation symbol = false := by
  simp [symbolReady, lose]

/-- A tick of a symbol with a tombstone shuts nothing and leaves every readiness as it is. -/
theorem onTick_retired (inv : stream.Consistent)
    (tombstone : (stream.retired.lookup symbol).isSome = true) (call : Callback)
    (generation : Nat → Int) (published : Option Row) :
    let after := (stream.onTick call (generation call.client) symbol published).1
    after.failClosed = stream.failClosed ∧
      ∀ other, after.symbolReady generation other = stream.symbolReady generation other := by
  unfold onTick
  split
  · exact ⟨rfl, fun _ => rfl⟩
  rename_i native
  obtain ⟨current, accepted⟩ : stream.isCurrent call = true ∧ stream.subscriptionFailed = false := by
    simpa using native
  obtain ⟨client, token⟩ := isCurrent_iff.mp current
  split
  · rcases admitTick_retired inv tombstone call (generation call.client) with same | ⟨mismatch, lost⟩
    · rw [same]
      exact ⟨rfl, fun _ => rfl⟩
    · rw [lost]
      refine ⟨rfl, fun other => ?_⟩
      -- no symbol was ready before, as the client no longer has the generation of its login
      have unready : stream.symbolReady generation other = false := by
        refine Bool.eq_false_iff.mpr fun isReady => ?_
        obtain ⟨bound, has, positive, login⟩ := login_of_symbolReady inv isReady
        cases (client.symm.trans has)
        exact mismatch ⟨positive, login⟩
      rw [unready]
      exact symbolReady_lose stream generation other
  · rename_i unserviced
    have capability := inv.bound accepted (Option.isSome_iff_exists.mpr ⟨_, client⟩)
    have plain : stream.enabled = false := by
      rw [capability, token] at unserviced
      simpa [Callback.capability] using unserviced
    obtain ⟨sameFailed, sameEnabled⟩ :=
      pushTick_keeps stream call (generation call.client) symbol published
    refine ⟨sameFailed, fun other => ?_⟩
    rw [symbolReady_of_plain plain, symbolReady_of_plain (sameEnabled.trans plain)]

/-- After any run, a symbol that was unsubscribed on a client while the ledger had room for the
whole request: whatever happened since, a tick of it from that client neither shuts the session
nor changes whether any symbol is ready. -/
theorem late_tick_harmless (before since : List StreamEvent) (call : Callback)
    (generation : Nat → Int) (removals : List String) (symbol : String) (published : Option Row)
    (bound : (run before).isCurrent call = true) (asked : symbol ∈ removals)
    (subscribed : symbol ∈ (run before).subscribed)
    (room : (run before).retired.entries.length + removals.length ≤ maxRetiredSymbols) :
    let stream := run (before ++ .remove (some call.client) removals :: since)
    let after := (stream.onTick call (generation call.client) symbol published).1
    after.failClosed = stream.failClosed ∧
      ∀ other, after.symbolReady generation other = stream.symbolReady generation other := by
  intro stream
  have inv : stream.Consistent := run_consistent _
  obtain ⟨client, token⟩ := isCurrent_iff.mp bound
  by_cases current : stream.isCurrent call = true
  · have absent := (run_consistent before).separate symbol subscribed
    have recorded := retireAll_records asked absent room
    have removed : stream = since.foldl step (removals.foldl retire (run before)) := by
      have removing : (run before).step (.remove (some call.client) removals) =
          removals.foldl retire (run before) := by
        simp [step, removeTopics, client]
      rw [← removing]
      exact List.foldl_append
    have sameToken := retireAll_token (run before) removals
    have kept : stream.retired.lookup symbol = some (run before).clientToken := by
      have later := (steps_moves (removals.foldl retire (run before)) since).tombstone
      rw [← removed, sameToken] at later
      refine later ?_ symbol recorded
      exact (isCurrent_iff.mp current).2.trans token.symm
    exact onTick_retired inv (Option.isSome_iff_exists.mpr ⟨_, kept⟩) call generation published
  · have ignored : stream.onTick call (generation call.client) symbol published = (stream, none) := by
      unfold onTick
      rw [if_pos (by simp [Bool.eq_false_iff.mpr current])]
    rw [ignored]
    exact ⟨rfl, fun _ => rfl⟩

/-- Two symbols are subscribed, and the client has logged in. -/
def loggedIn : List StreamEvent :=
  [.subscribe ["rb2501", "cu2501"], .enable, .connect (some 0) true, .login ⟨0, 1⟩ 1]

/-- The symbol that is left is acknowledged and ticks. -/
def flowing : List StreamEvent :=
  [.subscribeResponse ⟨0, 1⟩ 1 ⟨some "cu2501", some 0, some 1, some true, some 1⟩,
    .tick ⟨0, 1⟩ 1 "cu2501" none]

theorem late_tick_while_flowing :
    let stream := run (loggedIn ++ .remove (some 0) ["rb2501"] :: flowing)
    let after := (stream.onTick ⟨0, 1⟩ 1 "rb2501" none).1
    stream.symbolReady (fun _ => 1) "cu2501" = true ∧ after.failClosed = stream.failClosed ∧
      ∀ other, after.symbolReady (fun _ => 1) other = stream.symbolReady (fun _ => 1) other :=
  ⟨by decide, late_tick_harmless loggedIn flowing ⟨0, 1⟩ (fun _ => 1) ["rb2501"] "rb2501" none
    (by decide) (by decide) (by decide) (by decide)⟩

/-! ## A symbol too many -/

/-- Distinct symbols without a tombstone fill the ledger one by one. -/
theorem retireAll_length (distinct : removals.Nodup)
    (absent : ∀ symbol ∈ removals, stream.retired.lookup symbol = none)
    (room : stream.retired.entries.length + removals.length ≤ maxRetiredSymbols) :
    (removals.foldl retire stream).retired.entries.length =
      stream.retired.entries.length + removals.length := by
  induction removals generalizing stream with
  | nil => rfl
  | cons head rest ih =>
    obtain ⟨notLater, restDistinct⟩ := List.nodup_cons.mp distinct
    have headAbsent := absent head List.mem_cons_self
    rw [List.length_cons] at room
    have grown : (stream.retire head).retired.entries.length =
        stream.retired.entries.length + 1 := by
      have fresh : head ∉ stream.retired := AList.lookup_eq_none.mp headAbsent
      have free : stream.retired.entries.length < maxRetiredSymbols := by omega
      have inserted : (stream.retire head).retired =
          stream.retired.insert head stream.clientToken := by
        simp [retire, headAbsent, free]
      rw [inserted, AList.entries_insert_of_notMem fresh, List.length_cons]
    have restAbsent : ∀ symbol ∈ rest, (stream.retire head).retired.lookup symbol = none := by
      intro symbol mem
      have other : symbol ≠ head := fun same => notLater (same ▸ mem)
      rw [retire_lookup, if_neg fun all => other all.1]
      exact absent symbol (List.mem_cons_of_mem head mem)
    have filled := ih restDistinct restAbsent (by omega)
    rw [List.foldl_cons, filled, grown, List.length_cons]
    omega

theorem retireAll_lookup_of_notMem (notAsked : symbol ∉ removals) (stream : Stream) :
    (removals.foldl retire stream).retired.lookup symbol = stream.retired.lookup symbol := by
  induction removals generalizing stream with
  | nil => rfl
  | cons head rest ih =>
    obtain ⟨other, notLater⟩ := not_or.mp (fun mem => notAsked (List.mem_cons.mpr mem))
    rw [List.foldl_cons, ih notLater, retire_lookup, if_neg fun all => other all.1]

/-- The subscriptions of a stream that is waiting for its acknowledgements. -/
theorem retireAll_waiting (removals : List String) (stream : Stream)
    (acknowledged : stream.acknowledged = ∅) (requestIds : stream.requestIds = ∅)
    (pending : stream.pendingAdditions = ∅) :
    ∃ additionsFenced, removals.foldl retire stream = { stream with
      subscribed := stream.subscribed \ removals.toFinset
      required := stream.required \ removals.toFinset
      retired := (removals.foldl retire stream).retired
      additionsFenced } := by
  induction removals generalizing stream with
  | nil => exact ⟨stream.additionsFenced, by simp⟩
  | cons head rest ih =>
    have empty : (∅ : Dict String Int).erase head = ∅ := rfl
    obtain ⟨additionsFenced, result⟩ := ih (stream.retire head)
      (by simp [retire, acknowledged]) (by simp [retire, requestIds, empty])
      (by simp [retire, pending])
    refine ⟨additionsFenced, ?_⟩
    rw [List.foldl_cons]
    refine result.trans ?_
    simp [retire, acknowledged, requestIds, pending, empty, Finset.erase_sdiff_comm,
      Finset.sdiff_insert]

/-- A client with one symbol left to be acknowledged. -/
def withOneLeft (symbol : String) (retired : Dict String Nat) (additionsFenced : Option Nat) :
    Stream :=
  { mdClient := some 0, clientToken := 1, capability := some 1, observedGeneration := some 1
    connectionGeneration := 1, subscriptionEpoch := 1, subscribed := {symbol}
    required := {symbol}, retired, additionsFenced, connectedOnce := true, enabled := true
    loginGeneration := some 1, state := .authenticated, bindingMatches := true }

/-- All but one of the symbols are unsubscribed in two requests, the first of which fills the
ledger. -/
def crowdedOut (early : List String) (unlucky last : String) : List StreamEvent :=
  [.subscribe (last :: unlucky :: early), .enable, .connect (some 0) true, .login ⟨0, 1⟩ 1,
    .remove (some 0) early, .remove (some 0) [unlucky]]

/-- The symbol that is left is acknowledged and ticks. -/
def lastFlows (last : String) : List StreamEvent :=
  [.subscribeResponse ⟨0, 1⟩ 1 ⟨some last, some 0, some 1, some true, some 1⟩,
    .tick ⟨0, 1⟩ 1 last none]

/-- The stream before anything is unsubscribed. -/
theorem run_before_crowdedOut (symbols : List String) (some_symbol : symbols ≠ []) :
    run [.subscribe symbols, .enable, .connect (some 0) true, .login ⟨0, 1⟩ 1] =
      { withOneLeft "" ∅ none with
        subscribed := symbols.toFinset, required := symbols.toFinset } := by
  have registered : ({} : Stream).registerTopics symbols =
      (.ok (), { subscriptionEpoch := 1, subscribed := symbols.toFinset }) := by
    have unretired : ∀ symbol, (∅ : Dict String Nat).lookup symbol = none := fun _ => rfl
    have unsubscribed : ∀ symbol, symbol ∉ (∅ : Finset String) := Finset.notMem_empty
    simp [registerTopics, some_symbol, unretired, unsubscribed, maxRetiredSymbols,
      Finset.empty_union]
  have subscribing : ({} : Stream).step (.subscribe symbols) =
      { subscriptionEpoch := 1, subscribed := symbols.toFinset } := by
    simp [step, subscribeTopics, registered]
  have enabling : ({ subscriptionEpoch := 1, subscribed := symbols.toFinset } : Stream).step .enable =
      { subscriptionEpoch := 1, subscribed := symbols.toFinset, required := symbols.toFinset
        enabled := true, bindingMatches := true } := by
    simp [step, enable, some_symbol, requireAll, clearAcknowledgements]
  simp only [run, List.foldl_cons, List.foldl_nil, subscribing, enabling]
  rfl

theorem run_crowdedOut (full : early.length = maxRetiredSymbols)
    (distinct : (last :: unlucky :: early).Nodup) :
    ∃ retired additionsFenced, retired.lookup unlucky = none ∧
      run (crowdedOut early unlucky last) = withOneLeft last retired additionsFenced := by
  obtain ⟨notLast, unluckyDistinct⟩ := List.nodup_cons.mp distinct
  obtain ⟨lastUnlucky, lastEarly⟩ := not_or.mp fun mem => notLast (List.mem_cons.mpr mem)
  obtain ⟨notEarly, earlyDistinct⟩ := List.nodup_cons.mp unluckyDistinct
  set start : Stream := { withOneLeft "" ∅ none with
    subscribed := (last :: unlucky :: early).toFinset
    required := (last :: unlucky :: early).toFinset } with isStart
  have begun := run_before_crowdedOut (last :: unlucky :: early) (List.cons_ne_nil _ _)
  set filled := early.foldl retire start with isFilled
  have runs : run (crowdedOut early unlucky last) = filled.retire unlucky := by
    have first : start.step (.remove (some 0) early) = filled := by
      simp [step, removeTopics, isStart, withOneLeft, isFilled]
    have stillBound : filled.mdClient = some 0 := by
      obtain ⟨fenced, result⟩ := retireAll_waiting early start rfl rfl rfl
      rw [isFilled, result]
      rfl
    have second : filled.step (.remove (some 0) [unlucky]) = filled.retire unlucky := by
      simp [step, removeTopics, stillBound]
    rw [← second, ← first, isStart, ← begun]
    rfl
  obtain ⟨fenced, result⟩ := retireAll_waiting (early ++ [unlucky]) start rfl rfl rfl
  rw [List.foldl_append] at result
  have ledger : (filled.retire unlucky).retired = filled.retired := by
    have length : filled.retired.entries.length = maxRetiredSymbols := by
      rw [isFilled, retireAll_length earlyDistinct (fun _ _ => rfl) (by rw [full]; exact le_rfl)]
      rw [full]
      exact Nat.zero_add _
    simp [retire, length]
  refine ⟨filled.retired, fenced, retireAll_lookup_of_notMem notEarly start, ?_⟩
  have left : (last :: unlucky :: early).toFinset \ (early ++ [unlucky]).toFinset = {last} := by
    ext symbol
    simp only [Finset.mem_sdiff, List.mem_toFinset, List.mem_append, List.mem_cons,
      List.not_mem_nil, Finset.mem_singleton]
    grind
  rw [runs, ← ledger]
  refine result.trans ?_
  rw [isStart, withOneLeft, left]
  rfl

/-- The same client once its last symbol flows. -/
def withOneReady (symbol : String) (retired : Dict String Nat) (additionsFenced : Option Nat) :
    Stream :=
  { withOneLeft symbol retired additionsFenced with
    acknowledged := {symbol}, requestIds := AList.singleton symbol 1, completedRequestIds := {1}
    scope := some ⟨0, 1, 0, 1, 1, 1⟩, sessions := 1, ingestSeq := 1, ready := true
    scopeIssued := true }

theorem lookup_singleton_self (symbol : String) :
    (AList.singleton symbol 1 : Dict String Int).lookup symbol = some 1 := by
  rw [← AList.insert_empty]
  exact AList.lookup_insert ∅

theorem lastFlows_ready (named : last ≠ "") (retired : Dict String Nat)
    (additionsFenced : Option Nat) :
    (lastFlows last).foldl step (withOneLeft last retired additionsFenced) =
      withOneReady last retired additionsFenced := by
  have answered : (withOneLeft last retired additionsFenced).step
      (.subscribeResponse ⟨0, 1⟩ 1 ⟨some last, some 0, some 1, some true, some 1⟩) =
      { withOneLeft last retired additionsFenced with
        acknowledged := {last}, requestIds := AList.singleton last 1
        completedRequestIds := {1} } := by
    simp [step, onSubscribeResponse, isCurrent, withOneLeft, Callback.capability, answersLogin,
      named, reopensRequest, acknowledge]
  rw [lastFlows, List.foldl_cons, answered, List.foldl_cons, List.foldl_nil]
  simp [step, onTick, isCurrent, withOneLeft, withOneReady, Callback.capability, admitTick,
    symbolAcknowledged, ackSetComplete, issueScope, pushTick, lookup_singleton_self]

/-- Whatever symbols fill the ledger: the one unsubscribed after them shuts the session by its
late tick, and the symbol that was ready no longer is. -/
theorem crowdedOut_shuts (full : early.length = maxRetiredSymbols)
    (distinct : (last :: unlucky :: early).Nodup) (named : last ≠ "") :
    let stream := run (crowdedOut early unlucky last ++ lastFlows last)
    let after := (stream.onTick ⟨0, 1⟩ 1 unlucky none).1
    (stream.failClosed = false ∧ stream.symbolReady (fun _ => 1) last = true) ∧
      after.failClosed = true ∧ after.symbolReady (fun _ => 1) last = false := by
  obtain ⟨retired, fenced, forgotten, crowded⟩ := run_crowdedOut full distinct
  have flows : run (crowdedOut early unlucky last ++ lastFlows last) =
      withOneReady last retired fenced := by
    rw [← lastFlows_ready named, ← crowded]
    exact List.foldl_append
  have other : unlucky ≠ last := by
    rintro rfl
    exact (List.nodup_cons.mp distinct).1 List.mem_cons_self
  -- a tick of a symbol that is neither subscribed nor remembered shuts the session
  have shuts : (withOneReady last retired fenced).onTick ⟨0, 1⟩ 1 unlucky none =
      ((withOneReady last retired fenced).shut, none) := by
    simp [onTick, isCurrent, admitTick, withOneReady, withOneLeft, Callback.capability, other,
      forgotten]
  dsimp only
  rw [flows, shuts]
  refine ⟨⟨rfl, ?_⟩, rfl, by simp [symbolReady, shut]⟩
  simp [symbolReady, withOneReady, withOneLeft, named, symbolAcknowledged, readyScope,
    ackSetComplete, scopeCurrent, lookup_singleton_self]

/-- Symbols of different lengths. -/
def symbolNamed (number : Nat) : String := String.ofList (List.replicate (number + 1) 'a')

theorem symbolNamed_injective : Function.Injective symbolNamed := by
  intro a b same
  have lengths := congrArg (fun name : String => name.toList.length) same
  simpa [symbolNamed] using lengths

theorem unrecorded_late_tick_shuts :
    let early := (List.range' 2 maxRetiredSymbols).map symbolNamed
    let stream := run (crowdedOut early (symbolNamed 1) (symbolNamed 0) ++
      lastFlows (symbolNamed 0))
    let after := (stream.onTick ⟨0, 1⟩ 1 (symbolNamed 1) none).1
    (stream.failClosed = false ∧ stream.symbolReady (fun _ => 1) (symbolNamed 0) = true) ∧
      after.failClosed = true ∧ after.symbolReady (fun _ => 1) (symbolNamed 0) = false := by
  refine crowdedOut_shuts ?_ ?_ ?_
  · rw [List.length_map, List.length_range']
  · have numbers : (0 :: 1 :: List.range' 2 maxRetiredSymbols).Nodup :=
      List.nodup_range' (s := 0) (n := maxRetiredSymbols + 2)
    exact numbers.map symbolNamed_injective
  · decide

end Stream

end BtApiCtp.Market
