/-
# Callbacks.Handing -- who is handed an event

A wait of a consumer is admitted for the lease that is kept and marks it, so the lease stays
until that wait has ended; a legacy wait is counted, and no lease is made while one is counted.
Events are handed out from the front of the queue.  Together (`Ordered`) this gives
`handed_under_lease`: an event goes to a token whose lease is live, or to a legacy wait while
there is no lease, and to nobody else afterwards.
-/
import BtApiCtp.Callbacks.Queue

namespace BtApiCtp.Callbacks

variable {ε : Type} {q : Queue ε} {token thread generation : Nat} {expired : Bool}
  {waiting : Waiting} {receiver : Receiver}

namespace Queue

/-! ## What a section changes -/

/-- The events that an outcome hands over. -/
def taken : Option (Outcome ε) → List (Nat × ε)
  | some (.event event) => [event]
  | _ => []

/-- A section with this outcome: it takes an event from the front or none, counts no waiter and
makes no lease. -/
structure Serves (q q' : Queue ε) (outcome : Option (Outcome ε)) : Prop where
  waiters : q'.legacyWaiters = q.legacyWaiters
  sequence : q'.sequence = q.sequence
  events : q.events = taken outcome ++ q'.events
  lease : q'.lease.isSome → q.lease.isSome

/-- A section that also leaves a lease that is waited for where it is. -/
structure Keeps (q q' : Queue ε) : Prop extends Serves q q' none where
  waiting : ∀ lease, q.lease = some lease → lease.waiting = true →
    ∃ lease', q'.lease = some lease' ∧ lease'.token = lease.token ∧ lease'.waiting = true

variable (q)

theorem Keeps.refl : Keeps q q :=
  ⟨⟨rfl, rfl, rfl, id⟩, fun lease found waits => ⟨lease, found, rfl, waits⟩⟩

theorem revoke_keeps : Keeps q q.revoke := by
  unfold revoke
  split
  · exact Keeps.refl q
  · rename_i lease found
    split
    · exact Keeps.refl q
    · refine ⟨⟨rfl, rfl, rfl, fun _ => by rw [found]; rfl⟩, fun other isOther waits => ?_⟩
      cases (found.symm.trans isOther)
      exact ⟨{ lease with revoked := true }, by simp [waits], rfl, waits⟩

theorem revokeStale_keeps : Keeps q q.revokeStale := by
  unfold revokeStale
  split
  · exact Keeps.refl q
  · exact revoke_keeps q

theorem release_keeps (token : Nat) : Keeps q (q.release token).2 := by
  unfold release
  split
  · exact revoke_keeps q
  · exact Keeps.refl q

theorem replaceApi_keeps (api : Option Api) : Keeps q (q.replaceApi api) :=
  ⟨{ (revoke_keeps q).toServes with }, (revoke_keeps q).waiting⟩

theorem finishWait_serves (token : Nat) (outcome : Option (Outcome ε))
    (none_taken : taken outcome = []) : Serves q (q.finishWait token) outcome := by
  unfold finishWait
  split
  · exact ⟨rfl, rfl, by rw [none_taken]; rfl, id⟩
  · rename_i lease found
    have had : q.lease.isSome := by rw [found]; rfl
    split
    · exact ⟨rfl, rfl, by rw [none_taken]; rfl, id⟩
    · dsimp only
      split
      · exact ⟨rfl, rfl, by rw [none_taken]; rfl, fun _ => had⟩
      · have kept := revoke_keeps { q with lease := some { lease with waiting := false } }
        exact ⟨kept.waiters, kept.sequence, by rw [none_taken]; exact kept.events, fun _ => had⟩

/-- What a pass can come to. -/
theorem look_cases (token : Nat) (expired : Bool) :
    (q.holds token = true ∧ ∃ event rest, q.events = event :: rest ∧
      q.look token expired = (some (.event event), { q with events := rest }.finishWait token)) ∨
    q.look token expired = (none, q) ∨ q.look token expired = (some .timedOut, q.finishWait token) ∨
    q.look token expired = (some (.refused .staleToken), q.revoke.finishWait token) := by
  unfold look
  split
  · rename_i holds
    split
    · rename_i event rest found
      exact .inl ⟨holds, event, rest, found, rfl⟩
    · cases expired with
      | true => exact .inr (.inr (.inl rfl))
      | false => exact .inr (.inl rfl)
  · exact .inr (.inr (.inr rfl))

theorem look_serves (token : Nat) (expired : Bool) :
    Serves q (q.look token expired).2 (q.look token expired).1 := by
  obtain ⟨-, event, rest, found, looked⟩ | looked | looked | looked := look_cases q token expired
  all_goals rw [looked]
  · have finished := finishWait_serves { q with events := rest } token none rfl
    exact ⟨finished.waiters, finished.sequence, found.trans (congrArg _ finished.events),
      finished.lease⟩
  · exact ⟨rfl, rfl, rfl, id⟩
  · exact finishWait_serves q token _ rfl
  · have revoked := revoke_keeps q
    have finished := finishWait_serves q.revoke token (some (.refused .staleToken)) rfl
    exact ⟨finished.waiters.trans revoked.waiters, finished.sequence.trans revoked.sequence,
      revoked.events.trans finished.events, fun some => revoked.lease (finished.lease some)⟩

variable {q}

theorem holds_iff :
    q.holds token = true ↔ ∃ lease, q.lease = some lease ∧ lease.token = token ∧
      q.isLive lease = true := by
  unfold holds
  cases q.lease with
  | none => simp
  | some lease => simp

/-- A lease that was live when an event was taken still is. -/
theorem finishWait_holds (holds : q.holds token = true) :
    (q.finishWait token).holds token = true := by
  obtain ⟨lease, found, same, live⟩ := holds_iff.mp holds
  have finished : q.finishWait token = { q with lease := some { lease with waiting := false } } := by
    unfold finishWait
    rw [found]
    simp [same, live]
  rw [finished]
  exact holds_iff.mpr ⟨{ lease with waiting := false }, rfl, same, live⟩

theorem look_holds {event : Nat × ε} (handed : (q.look token expired).1 = some (.event event)) :
    (q.look token expired).2.holds token = true := by
  obtain ⟨holds, first, rest, -, looked⟩ | looked | looked | looked := look_cases q token expired
  all_goals rw [looked] at handed ⊢
  · exact finishWait_holds (q := { q with events := rest }) holds
  all_goals cases handed

/-- A pass that goes on waiting changes nothing. -/
theorem look_waits (goesOn : (q.look token expired).1 = none) : (q.look token expired).2 = q := by
  obtain ⟨-, first, rest, -, looked⟩ | looked | looked | looked := look_cases q token expired
  all_goals rw [looked] at goesOn ⊢
  all_goals cases goesOn

variable (q)

/-- A wait is refused, or it marks a lease that nobody waits for and takes a first look. -/
theorem enterWait_cases (token : Nat) (expired : Bool) :
    (∃ refusal, (q.enterWait token expired).1 = some (.refused refusal) ∧
      Keeps q (q.enterWait token expired).2) ∨
    ∃ lease, q.lease = some lease ∧ lease.token = token ∧ lease.waiting = false ∧
      q.enterWait token expired =
        { q with lease := some { lease with waiting := true } }.look token expired := by
  unfold enterWait
  split
  · exact .inl ⟨_, rfl, Keeps.refl q⟩
  · rename_i lease found
    split
    · exact .inl ⟨_, rfl, Keeps.refl q⟩
    split
    · exact .inl ⟨_, rfl, revoke_keeps q⟩
    split
    · exact .inl ⟨_, rfl, Keeps.refl q⟩
    · rename_i same _ free
      exact .inr ⟨lease, found, not_not.mp same, Bool.eq_false_of_not_eq_true free, rfl⟩

/-- A legacy wait is refused; or there is no lease, and it takes an event, ends, or is counted. -/
theorem enterLegacy_cases (thread : Nat) (expired : Bool) :
    (∃ refusal, (q.enterLegacy thread expired).1 = some (.refused refusal) ∧
      Keeps q (q.enterLegacy thread expired).2) ∨
    Keeps q q.revokeStale ∧ q.revokeStale.lease = none ∧
      (q.enterLegacy thread expired = (none, { q.revokeStale with
          legacyWaiters := insert thread q.revokeStale.legacyWaiters }) ∨
        ∃ outcome events, q.enterLegacy thread expired =
            (some outcome, { q.revokeStale with events }) ∧
          q.events = taken (some outcome) ++ events) := by
  have kept := revokeStale_keeps q
  unfold enterLegacy
  dsimp only
  split
  · exact .inl ⟨_, rfl, kept⟩
  · rename_i free
    refine .inr ⟨kept, Option.not_isSome_iff_eq_none.mp free, ?_⟩
    have same : q.events = q.revokeStale.events := kept.events
    split
    · rename_i event rest found
      exact .inr ⟨_, rest, rfl, same.trans found⟩
    · cases expired with
      | true => exact .inr ⟨.timedOut, q.revokeStale.events, rfl, same⟩
      | false => exact .inl rfl

/-- A pass of a legacy wait goes on, or ends it with what it took. -/
theorem lookLegacy_cases (thread generation : Nat) (expired : Bool) :
    q.lookLegacy thread generation expired = (none, q) ∨
    ∃ outcome events, q.lookLegacy thread generation expired =
        (some outcome, { q with events }.finishLegacy thread) ∧
      q.events = taken (some outcome) ++ events := by
  unfold lookLegacy
  split
  · exact .inr ⟨.timedOut, q.events, rfl, rfl⟩
  · split
    · rename_i event rest found
      exact .inr ⟨_, rest, rfl, found⟩
    · cases expired with
      | true => exact .inr ⟨.timedOut, q.events, rfl, rfl⟩
      | false => exact .inl rfl

/-- A claim that succeeds finds no lease and no legacy wait. -/
theorem claim_cases :
    (∃ refusal, q.claim.1 = .error refusal ∧ Keeps q q.claim.2) ∨
    ∃ lease, q.revokeStale.lease = none ∧ q.revokeStale.legacyWaiters = ∅ ∧ lease.waiting = false ∧
      q.claim = (.ok q.revokeStale.tokens, { q.revokeStale with
        tokens := q.revokeStale.tokens + 1, lease := some lease }) := by
  have kept := revokeStale_keeps q
  unfold claim
  dsimp only
  split
  · exact .inl ⟨_, rfl, kept⟩
  · rename_i free
    split
    · exact .inl ⟨_, rfl, kept⟩
    · rename_i nobody
      split
      · exact .inl ⟨_, rfl, kept⟩
      · exact .inr ⟨_, free, not_not.mp nobody, rfl, rfl⟩

end Queue

/-! ## The counter in order -/

variable {d : Counter ε} {part : Option (Outcome ε) × Queue ε}

namespace Counter

/-- The numbers of the events that were handed out, and then of those in the queue. -/
def numbers (d : Counter ε) : List Nat := d.handed.map (·.2.1) ++ d.queue.events.map Prod.fst

structure Ordered (d : Counter ε) : Prop where
  consumer : ∀ thread token, d.waits thread = some (.consumer token) →
    ∃ lease, d.queue.lease = some lease ∧ lease.token = token ∧ lease.waiting = true
  lone : ∀ thread other token token', d.waits thread = some (.consumer token) →
    d.waits other = some (.consumer token') → thread = other
  legacy : ∀ thread generation, d.waits thread = some (.legacy generation) →
    thread ∈ d.queue.legacyWaiters
  leased : d.queue.lease.isSome → d.queue.legacyWaiters = ∅
  increasing : d.numbers.Pairwise (· < ·)
  bounded : ∀ number ∈ d.numbers, number ≤ d.queue.sequence

/-- Nobody waits for a lease that is not there or not marked. -/
theorem Ordered.nobody (ordered : Ordered d)
    (free : ∀ lease, d.queue.lease = some lease → lease.waiting = false) (thread token : Nat) :
    d.waits thread ≠ some (.consumer token) := by
  intro waits
  obtain ⟨lease, found, -, waiting⟩ := ordered.consumer thread token waits
  rw [free lease found] at waiting
  cases waiting

theorem Ordered.nobody_of_unleased (ordered : Ordered d) (free : d.queue.lease = none) :
    ∀ thread token, d.waits thread ≠ some (.consumer token) :=
  ordered.nobody fun lease found => by
    rw [free] at found
    cases found

theorem Ordered.keeps (ordered : Ordered d) (kept : Queue.Keeps d.queue q) :
    Ordered { d with queue := q } := by
  have events : q.events = d.queue.events := kept.events.symm
  refine ⟨fun thread token waits => ?_, ordered.lone, ?_, ?_, ?_, ?_⟩
  · obtain ⟨lease, found, same, waiting⟩ := ordered.consumer thread token waits
    obtain ⟨lease', found', same', waiting'⟩ := kept.waiting lease found waiting
    exact ⟨lease', found', same'.trans same, waiting'⟩
  · intro thread generation waits
    rw [kept.waiters]
    exact ordered.legacy thread generation waits
  · intro some
    rw [kept.waiters]
    exact ordered.leased (kept.lease some)
  · simpa [numbers, events] using ordered.increasing
  · simpa [numbers, events, kept.sequence] using ordered.bounded

section Settle

variable {d : Counter ε} (thread : Nat) (waiting : Waiting) (receiver : Receiver)
  {part : Option (Outcome ε) × Queue ε}

/-- Who waits after the section: its own thread if it goes on, or another one as before. -/
theorem settle_waits {other : Nat} {waiting' : Waiting}
    (waits : (d.settle thread waiting receiver part).waits other = some waiting') :
    (other = thread ∧ waiting' = waiting ∧ part.1 = none) ∨
      (other ≠ thread ∧ d.waits other = some waiting') := by
  change Function.update d.waits thread (if part.1.isNone then some waiting else none) other =
    some waiting' at waits
  rw [Function.update_apply] at waits
  split at waits
  · rename_i same
    split at waits
    · rename_i goesOn
      exact .inl ⟨same, (Option.some.inj waits).symm, Option.isNone_iff_eq_none.mp goesOn⟩
    · cases waits
  · rename_i differs
    exact .inr ⟨differs, waits⟩

/-- What is handed out leaves the queue. -/
theorem settle_numbers (events : d.queue.events = Queue.taken part.1 ++ part.2.events) :
    (d.settle thread waiting receiver part).numbers = d.numbers := by
  unfold numbers
  rw [events]
  obtain ⟨outcome, q⟩ := part
  cases outcome with
  | none => simp [settle, Queue.taken]
  | some outcome =>
    cases outcome with
    | event event | timedOut | refused refusal => simp [settle, Queue.taken]

end Settle

/-- Who may be handed an event. -/
def Entitled (q : Queue ε) : Receiver → Prop
  | .consumer token => q.holds token = true
  | .legacy => q.lease = none

/-- Nothing is handed over, or the first event to somebody who may have it. -/
def Hands (d d' : Counter ε) : Prop :=
  d'.handed = d.handed ∨ ∃ receiver event, d.queue.events.head? = some event ∧
    d'.handed = d.handed ++ [(receiver, event)] ∧ Entitled d'.queue receiver

/-- What every step does: it keeps the order and hands over as it may. -/
def Serve (d d' : Counter ε) : Prop := Ordered d' ∧ Hands d d'

theorem Ordered.serve (ordered : Ordered d) (kept : Queue.Keeps d.queue q) :
    Serve d { d with queue := q } :=
  ⟨ordered.keeps kept, .inl rfl⟩

theorem settle_hands (events : d.queue.events = Queue.taken part.1 ++ part.2.events)
    (entitled : ∀ event, part.1 = some (.event event) → Entitled part.2 receiver) :
    Hands d (d.settle thread waiting receiver part) := by
  obtain ⟨outcome, q⟩ := part
  cases outcome with
  | none => exact .inl (List.append_nil _)
  | some outcome =>
    cases outcome with
    | event event => exact .inr ⟨receiver, event, by rw [events]; rfl, rfl, entitled event rfl⟩
    | timedOut | refused refusal => exact .inl (List.append_nil _)

section Ordered

variable (ordered : Ordered d)
include ordered

/-- A section that ends, or goes on with, the wait of a consumer, where no other one waits. -/
theorem Ordered.settle_consumer (serves : Queue.Serves d.queue part.2 part.1)
    (alone : ∀ other token', other ≠ thread → d.waits other ≠ some (.consumer token'))
    (marked : part.1 = none →
      ∃ lease, part.2.lease = some lease ∧ lease.token = token ∧ lease.waiting = true)
    (entitled : ∀ event, part.1 = some (.event event) → part.2.holds token = true) :
    Serve d (d.settle thread (.consumer token) (.consumer token) part) := by
  refine ⟨?_, settle_hands serves.events entitled⟩
  have mine : ∀ other token', (d.settle thread (.consumer token) (.consumer token) part).waits other =
      some (.consumer token') → other = thread ∧ token' = token ∧ part.1 = none := by
    intro other token' waits
    rcases settle_waits _ _ _ waits with ⟨same, own, goesOn⟩ | ⟨differs, before⟩
    · exact ⟨same, Waiting.consumer.inj own, goesOn⟩
    · exact absurd before (alone other token' differs)
  refine ⟨fun other token' waits => ?_, fun a b token₁ token₂ first second => ?_,
    fun other generation waits => ?_, fun some => ?_, ?_, ?_⟩
  · obtain ⟨-, rfl, goesOn⟩ := mine other token' waits
    exact marked goesOn
  · exact (mine a token₁ first).1.trans (mine b token₂ second).1.symm
  · change other ∈ part.2.legacyWaiters
    rw [serves.waiters]
    rcases settle_waits _ _ _ waits with ⟨_, own, _⟩ | ⟨_, before⟩
    · cases own
    · exact ordered.legacy other generation before
  · change part.2.legacyWaiters = ∅
    rw [serves.waiters]
    exact ordered.leased (serves.lease some)
  · rw [settle_numbers _ _ _ serves.events]
    exact ordered.increasing
  · rw [settle_numbers _ _ _ serves.events]
    change ∀ number ∈ d.numbers, number ≤ part.2.sequence
    rw [serves.sequence]
    exact ordered.bounded

/-- A refused wait, or any section of a thread that does not wait and is not going to. -/
theorem Ordered.settle_idle {refusal : Refusal}
    (idle : d.waits thread = none) (refused : part.1 = some (.refused refusal))
    (kept : Queue.Keeps d.queue part.2) : Serve d (d.settle thread waiting receiver part) := by
  have same : d.settle thread waiting receiver part = { d with queue := part.2 } := by
    unfold settle
    rw [refused]
    simp [← idle]
  rw [same]
  exact ordered.serve kept

/-- A section of a legacy wait, where there is no lease. -/
theorem Ordered.settle_legacy (free : part.2.lease = none)
    (nobody : ∀ other token, d.waits other ≠ some (.consumer token))
    (sequence : part.2.sequence = d.queue.sequence)
    (events : d.queue.events = Queue.taken part.1 ++ part.2.events)
    (counted : ∀ other ∈ d.queue.legacyWaiters, other ≠ thread → other ∈ part.2.legacyWaiters)
    (self : part.1 = none → thread ∈ part.2.legacyWaiters) :
    Serve d (d.settle thread (.legacy generation) .legacy part) := by
  refine ⟨?_, settle_hands events fun _ _ => free⟩
  have none_waits : ∀ other token, (d.settle thread (.legacy generation) .legacy part).waits other ≠
      some (.consumer token) := by
    intro other token waits
    rcases settle_waits _ _ _ waits with ⟨_, own, _⟩ | ⟨_, before⟩
    · cases own
    · exact nobody other token before
  refine ⟨fun other token waits => absurd waits (none_waits other token),
    fun a _ token _ first _ => absurd first (none_waits a token),
    fun other generation' waits => ?_, fun some => ?_, ?_, ?_⟩
  · rcases settle_waits _ _ _ waits with ⟨rfl, _, goesOn⟩ | ⟨differs, before⟩
    · exact self goesOn
    · exact counted other (ordered.legacy other generation' before) differs
  · change part.2.lease.isSome = true at some
    rw [free] at some
    cases some
  · rw [settle_numbers _ _ _ events]
    exact ordered.increasing
  · rw [settle_numbers _ _ _ events]
    change ∀ number ∈ d.numbers, number ≤ part.2.sequence
    rw [sequence]
    exact ordered.bounded

/-- There is no lease while a legacy wait is counted. -/
theorem Ordered.unleased (waits : d.waits thread = some (.legacy generation)) :
    d.queue.lease = none := by
  have counted := ordered.legacy thread generation waits
  refine Option.not_isSome_iff_eq_none.mp fun leased => ?_
  rw [ordered.leased leased] at counted
  exact absurd counted (Finset.notMem_empty thread)

/-- A pass of a legacy wait. -/
theorem Ordered.look_legacy (waits : d.waits thread = some (.legacy generation))
    (how : part = (none, d.queue) ∨ ∃ outcome events,
      part = (some outcome, { d.queue with events }.finishLegacy thread) ∧
        d.queue.events = Queue.taken (some outcome) ++ events) :
    Serve d (d.settle thread (.legacy generation) .legacy part) := by
  have counted := ordered.legacy thread generation waits
  have free := ordered.unleased waits
  have unwaited := ordered.nobody_of_unleased free
  obtain rfl | ⟨outcome, events, rfl, taken⟩ := how
  · exact ordered.settle_legacy free unwaited rfl rfl (fun _ mem _ => mem) fun _ => counted
  · exact ordered.settle_legacy free unwaited rfl taken
      (fun other mem differs => Finset.mem_erase.mpr ⟨differs, mem⟩) fun goesOn => by cases goesOn

/-! ## Steps and runs -/

theorem Ordered.record (make : Nat → Option ε) :
    Ordered { d with queue := d.queue.record make } := by
  have numbers : ({ d with queue := d.queue.record make } : Counter ε).numbers =
      d.numbers ++ ((make (d.queue.sequence + 1)).map fun _ => d.queue.sequence + 1).toList := by
    cases made : make (d.queue.sequence + 1) with
    | none | some event => simp [Counter.numbers, Queue.record, made]
  have new : ∀ number ∈ ((make (d.queue.sequence + 1)).map fun _ => d.queue.sequence + 1).toList,
      number = d.queue.sequence + 1 := by
    intro number mem
    simp only [Option.mem_toList, Option.map_eq_some_iff] at mem
    obtain ⟨_, -, rfl⟩ := mem
    rfl
  refine ⟨ordered.consumer, ordered.lone, ordered.legacy, ordered.leased, ?_, ?_⟩
  · rw [numbers]
    refine List.pairwise_append.mpr ⟨ordered.increasing, ?_, fun old mem number isNew => ?_⟩
    · cases make (d.queue.sequence + 1) with
      | none => exact List.Pairwise.nil
      | some event => exact List.pairwise_singleton _ _
    · have := ordered.bounded old mem
      have := new number isNew
      omega
  · intro number mem
    rw [numbers] at mem
    change number ≤ d.queue.sequence + 1
    rcases List.mem_append.mp mem with old | isNew
    · have := ordered.bounded number old
      omega
    · exact (new number isNew).le

/-- **One step.** -/
theorem Ordered.step (op : Op ε) : Serve d (d.step op) := by
  unfold Counter.step
  cases op with
  | claim =>
    obtain ⟨refusal, -, kept⟩ | ⟨lease, free, nobody, unmarked, claimed⟩ := d.queue.claim_cases
    · exact ordered.serve kept
    · have base := ordered.keeps (Queue.revokeStale_keeps d.queue)
      have unwaited := base.nobody_of_unleased free
      rw [claimed]
      exact ⟨⟨fun thread token waits => absurd waits (unwaited thread token), base.lone,
        base.legacy, fun _ => nobody, base.increasing, base.bounded⟩, .inl rfl⟩
  | wait thread token expired =>
    dsimp only
    split
    · exact ⟨ordered, .inl rfl⟩
    rename_i idle
    have idle : d.waits thread = none := Option.not_isSome_iff_eq_none.mp idle
    obtain ⟨refusal, refused, kept⟩ | ⟨lease, found, same, unmarked, entered⟩ :=
      d.queue.enterWait_cases token expired
    · exact ordered.settle_idle idle refused kept
    · rw [entered]
      have alone := ordered.nobody fun other isOther => by
        rw [← Option.some.inj (found.symm.trans isOther)]
        exact unmarked
      have looked := Queue.look_serves
        { d.queue with lease := some { lease with waiting := true } } token expired
      refine ordered.settle_consumer ⟨looked.waiters, looked.sequence, looked.events,
        fun _ => by rw [found]; rfl⟩ (fun other token' _ => alone other token')
        (fun goesOn => ?_) fun _ => Queue.look_holds
      rw [Queue.look_waits goesOn]
      exact ⟨_, rfl, same, rfl⟩
  | legacyWait thread expired =>
    dsimp only
    split
    · exact ⟨ordered, .inl rfl⟩
    rename_i idle
    have idle : d.waits thread = none := Option.not_isSome_iff_eq_none.mp idle
    obtain ⟨refusal, refused, kept⟩ | ⟨kept, free, how⟩ :=
      d.queue.enterLegacy_cases thread expired
    · exact ordered.settle_idle idle refused kept
    · have unwaited := (ordered.keeps kept).nobody_of_unleased free
      obtain entered | ⟨outcome, events, entered, taken⟩ := how
      · rw [entered]
        refine ordered.settle_legacy free unwaited kept.sequence kept.events ?_ fun _ =>
          Finset.mem_insert_self _ _
        intro other mem _
        exact Finset.mem_insert_of_mem (kept.waiters ▸ mem)
      · rw [entered]
        exact ordered.settle_legacy free unwaited kept.sequence taken
          (fun other mem _ => kept.waiters ▸ mem) fun goesOn => by cases goesOn
  | look thread expired =>
    dsimp only
    split
    · exact ⟨ordered, .inl rfl⟩
    · rename_i token waits
      refine ordered.settle_consumer (Queue.look_serves d.queue token expired) ?_
        (fun goesOn => ?_) fun _ => Queue.look_holds
      · intro other token' differs waits'
        exact differs (ordered.lone other thread token' token waits' waits)
      · rw [Queue.look_waits goesOn]
        exact ordered.consumer thread token waits
    · rename_i generation waits
      exact ordered.look_legacy waits (Queue.lookLegacy_cases d.queue thread generation expired)
  | interrupt thread =>
    dsimp only
    split
    · exact ⟨ordered, .inl rfl⟩
    · rename_i token waits
      refine ordered.settle_consumer (Queue.finishWait_serves d.queue token _ rfl) ?_
        (fun goesOn => by cases goesOn) fun _ handed => by cases handed
      intro other token' differs waits'
      exact differs (ordered.lone other thread token' token waits' waits)
    · rename_i generation waits
      exact ordered.look_legacy waits (.inr ⟨_, d.queue.events, rfl, rfl⟩)
  | release token => exact ordered.serve (Queue.release_keeps d.queue token)
  | revoke => exact ordered.serve (Queue.revoke_keeps d.queue)
  | replaceApi api => exact ordered.serve (Queue.replaceApi_keeps d.queue api)
  | record make => exact ⟨ordered.record make, .inl rfl⟩

end Ordered

theorem run_ordered (sourceInstanceId : String) (ops : List (Op ε)) :
    Ordered (run sourceInstanceId ops) := by
  have start : Ordered (fresh sourceInstanceId : Counter ε) :=
    ⟨fun _ _ waits => (by cases waits), fun _ _ _ _ waits => (by cases waits),
      fun _ _ waits => (by cases waits), fun _ => rfl, List.Pairwise.nil,
      fun _ mem => absurd mem List.not_mem_nil⟩
  unfold run
  induction ops using List.reverseRecOn with
  | nil => exact start
  | append_singleton ops op ih =>
    rw [List.foldl_append]
    exact (ih.step op).1

/-- In every run of claims, waits, releases, revocations, replacements and callbacks:

* a step hands over at most one event, the first of the queue, to a token whose lease is kept,
  not revoked and of the current API and queue generation, or to a legacy wait without a lease;
* a lease is made only where there is none and nobody waits; a consumer that waits waits for the
  one lease there is, alone; there is no lease while a legacy wait is under way;
* the events that were handed over and those in the queue are different from each other, in the
  order in which they were recorded. -/
theorem handed_under_lease (sourceInstanceId : String) (ops : List (Op ε)) :
    let d := run sourceInstanceId ops
    (∀ op, Hands d (d.step op)) ∧
    (∀ token, d.queue.claim.1 = .ok token →
      d.queue.revokeStale.lease = none ∧ ∀ thread, d.waits thread = none) ∧
    (∀ thread token, d.waits thread = some (.consumer token) →
      (∃ lease, d.queue.lease = some lease ∧ lease.token = token) ∧
        ∀ other token', d.waits other = some (.consumer token') → other = thread) ∧
    (∀ thread generation, d.waits thread = some (.legacy generation) → d.queue.lease = none) ∧
    (d.handed.map (·.2.1) ++ d.queue.events.map Prod.fst).Pairwise (· < ·) := by
  intro d
  have ordered : Ordered d := run_ordered sourceInstanceId ops
  refine ⟨fun op => (ordered.step op).2, fun token made => ?_, fun thread token waits => ⟨?_, ?_⟩,
    fun thread generation waits => ordered.unleased waits, ordered.increasing⟩
  · obtain ⟨refusal, refused, -⟩ | ⟨lease, free, nobody, -⟩ := d.queue.claim_cases
    · rw [refused] at made
      cases made
    · have base := ordered.keeps (Queue.revokeStale_keeps d.queue)
      refine ⟨free, fun thread => Option.eq_none_iff_forall_ne_some.mpr fun waiting waits => ?_⟩
      cases waiting with
      | consumer token =>
        exact base.nobody_of_unleased free thread token waits
      | legacy generation =>
        have counted : thread ∈ d.queue.revokeStale.legacyWaiters :=
          base.legacy thread generation waits
        rw [nobody] at counted
        exact absurd counted (Finset.notMem_empty thread)
  · obtain ⟨lease, found, same, -⟩ := ordered.consumer thread token waits
    exact ⟨lease, found, same⟩
  · exact fun other token' waits' => ordered.lone other thread token' token waits' waits

end Counter

end BtApiCtp.Callbacks
