/-
# Callbacks.Envelopes -- envelopes come in order, until the bridge is closed

Whatever other calls, closes and the client do, an envelope is made in one locked section of an
open bridge, from an event that the queue handed to a token, and only with the number after the
last one (`Sound`).  Every envelope that was made is returned once, or about to be, or lost to an
interruption (`Accounted`).  A call that raises an `Exception` has closed the bridge, or found it
closed.
-/
import BtApiCtp.Callbacks.Bridge
import BtApiCtp.Theory.Fallible
import BtApiCtp.Theory.Journal

namespace BtApiCtp.Callbacks

open Theory

variable {γ : Type} {thread : Nat} {ε : Type} {b : Bridge} {event : Option (Nat × SourceEvent)}
  {c : Chance}

/-! ## What only grows -/

variable {envelope : Option (Envelope γ)} {phase : Phase γ} {mapper : Mapper γ} {m : Machine γ}
  {poll : Poll γ}

theorem Counter.settle_handed (d : Counter ε) (thread : Nat) (waiting : Waiting)
    (receiver : Receiver) (part : Option (Outcome ε) × Queue ε) :
    d.handed <+: (d.settle thread waiting receiver part).handed := List.prefix_append _ _

theorem Counter.step_handed (d : Counter ε) (op : Op ε) : d.handed <+: (d.step op).handed := by
  unfold Counter.step
  cases op with
  | wait thread token expired | legacyWait thread expired =>
    dsimp only
    split
    · exact List.prefix_rfl
    · exact d.settle_handed ..
  | look thread expired | interrupt thread =>
    dsimp only
    split
    · exact List.prefix_rfl
    iterate 2 · exact d.settle_handed ..
  | _ => exact List.prefix_rfl

/-! ## What the sections have checked -/

theorem demand_eq_ok_iff {condition : Bool} {detail : String} {u : Unit} :
    demand condition detail = .ok u ↔ condition = true := by
  unfold demand
  cases condition with
  | true => simp
  | false => simp

theorem Machine.conclude_eq_ok (ok : m.conclude mapper poll c event = .ok envelope) :
    m.bridge.closed = false ∧ (envelope = none ∨ ∃ event' envelope', event = some event' ∧
      envelope = some envelope' ∧ m.bridge.mapSourceEvent mapper event' = .ok envelope') := by
  simp only [Machine.conclude, Machine.requirePollCurrent, bind_eq_ok_iff, demand_eq_ok_iff,
    Bool.and_eq_true, Bool.not_eq_true'] at ok
  obtain ⟨_, ⟨⟨isOpen, -⟩, -⟩, _, -, made⟩ := ok
  refine ⟨isOpen, ?_⟩
  cases event with
  | none => exact .inl (Except.ok.inj made).symm
  | some event =>
    change (m.bridge.mapSourceEvent mapper event).map some = .ok envelope at made
    cases mapped : m.bridge.mapSourceEvent mapper event with
    | error e =>
      rw [mapped] at made
      cases made
    | ok envelope' =>
      rw [mapped] at made
      exact .inr ⟨event, envelope', rfl, (Except.ok.inj made).symm, mapped⟩

namespace Machine

structure Grows (m m' : Machine γ) : Prop where
  closed : m.bridge.closed = true → m'.bridge.closed = true
  handed : m.counter.handed <+: m'.counter.handed

/-- What a call knows where it is. -/
def PhaseOk (m : Machine γ) : Phase γ → Prop
  | .concluding (some event) => ∃ token, (.consumer token, event) ∈ m.counter.handed
  | .releasing _ _ | .clearing _ _ => m.bridge.closed = true
  | .leaving (.error e) => e.isException = true → m.bridge.closed = true
  | _ => True

theorem Grows.phaseOk {m' : Machine γ} (grows : Grows m m') (ok : PhaseOk m phase) :
    PhaseOk m' phase := by
  cases phase with
  | concluding event =>
    cases event with
    | none => trivial
    | some event =>
      obtain ⟨token, mem⟩ := ok
      exact ⟨token, grows.handed.subset mem⟩
  | releasing e token | clearing e token => exact grows.closed ok
  | leaving result =>
    cases result with
    | ok envelope => trivial
    | error e => exact fun isException => grows.closed (ok isException)
  | _ => trivial

/-- The envelope shows an event that the queue handed to a token, under the login of the facts. -/
def Reflects (mapper : Mapper γ) (facts : SourceFacts) (m : Machine γ) (envelope : Envelope γ) :
    Prop :=
  envelope.facts = facts ∧ ∃ token event,
    (.consumer token, (envelope.eventSourceSequence, event)) ∈ m.counter.handed ∧
    event.origin = facts.origin ∧ event.loginVerified = true ∧ event.login = facts.login ∧
    event.callbackSessionMatchesLogin = some true ∧
    envelope.callbackMonotonicNs = event.callbackMonotonicNs ∧
    mapFields mapper event = .ok envelope.callbackEnvelope

/-- The state of a machine whose bridge was bound to these facts. -/
structure Sound (mapper : Mapper γ) (facts : SourceFacts) (m : Machine γ) : Prop where
  bound : m.bridge.facts = facts
  latch : m.bridge.closed = false → m.bridge.stateGeneration = 0 ∧ m.bridge.consumerToken.isSome
  shut : m.bridge.closed = true → m.bridge.stateGeneration ≠ 0
  polls : ∀ thread poll, m.polls thread = some poll → poll.generation = 0 ∧ PhaseOk m poll.phase
  closes : ∀ thread closing, m.closes thread = some closing → m.bridge.closed = true
  results : ∀ thread e, (thread, .error e) ∈ m.results →
    e = inProgress ∨ e.isException = false ∨ m.bridge.closed = true
  last : m.bridge.lastSourceSequence = facts.callbackSourceSequenceBaseline + m.envelopes.length
  sequences : m.envelopes.map (·.eventSourceSequence) =
    List.range' (facts.callbackSourceSequenceBaseline + 1) m.envelopes.length
  reflects : ∀ envelope ∈ m.envelopes, Reflects mapper facts m envelope

namespace Sound

variable {mapper : Mapper γ} {facts : SourceFacts} {m : Machine γ} (sound : Sound mapper facts m)

include sound

theorem counter {d : Counter SourceEvent}
    (handed : m.counter.handed <+: d.handed) : Sound mapper facts { m with counter := d } := by
  have grows : Grows m { m with counter := d } := ⟨id, handed⟩
  refine { sound with polls := fun thread poll found => ?_, reflects := fun envelope mem => ?_ }
  · obtain ⟨generation, ok⟩ := sound.polls thread poll found
    exact ⟨generation, grows.phaseOk ok⟩
  · obtain ⟨same, token, event, handed, rest⟩ := sound.reflects envelope mem
    exact ⟨same, token, event, grows.handed.subset handed, rest⟩

theorem bridge (bound : b.facts = facts) (closed : m.bridge.closed = true → b.closed = true)
    (latch : b.closed = false → b.stateGeneration = 0 ∧ b.consumerToken.isSome)
    (shut : b.closed = true → b.stateGeneration ≠ 0)
    (last : b.lastSourceSequence = m.bridge.lastSourceSequence) :
    Sound mapper facts { m with bridge := b } := by
  have grows : Grows m { m with bridge := b } := ⟨closed, List.prefix_rfl⟩
  refine ⟨bound, latch, shut, fun thread poll found => ?_, fun thread closing found => ?_,
    fun thread e mem => ?_, last.trans sound.last, sound.sequences, sound.reflects⟩
  · obtain ⟨generation, ok⟩ := sound.polls thread poll found
    exact ⟨generation, grows.phaseOk ok⟩
  · exact closed (sound.closes thread closing found)
  · exact (sound.results thread e mem).imp id (Or.imp id closed)

/-- A change of the flag only. -/
theorem flag (pollInFlight : Bool) :
    Sound mapper facts { m with bridge := { m.bridge with pollInFlight } } :=
  sound.bridge sound.bound id sound.latch sound.shut rfl

theorem setPhase (generation : poll.generation = 0)
    (ok : PhaseOk m phase) : Sound mapper facts (m.setPhase thread poll phase) := by
  refine { sound with polls := fun other poll' found => ?_ }
  change Function.update m.polls thread (some { poll with phase }) other = some poll' at found
  rw [Function.update_apply] at found
  split at found
  · cases found
    exact ⟨generation, ok⟩
  · exact sound.polls other poll' found

theorem raise (e : Exn) (generation : poll.generation = 0) :
    Sound mapper facts (m.raise thread poll e) := by
  refine sound.setPhase generation ?_
  split
  · trivial
  · rename_i other
    exact fun isException => absurd isException other

theorem close (thread : Nat) : Sound mapper facts (m.close thread) := by
  have closed : Sound mapper facts { m with bridge := { m.bridge with
      closed := true
      stateGeneration := if m.bridge.closed then m.bridge.stateGeneration
        else m.bridge.stateGeneration + 1 } } := by
    refine sound.bridge sound.bound (fun _ => rfl) (fun isOpen => by cases isOpen) (fun _ => ?_) rfl
    dsimp only
    split
    · rename_i isClosed
      exact sound.shut isClosed
    · omega
  exact { closed with closes := fun _ _ _ => rfl }

theorem dropToken (closed : m.bridge.closed = true) (token : Nat) :
    Sound mapper facts { m with bridge := dropToken m.bridge token } :=
  sound.bridge sound.bound id (fun isOpen => by
    rw [show (Machine.dropToken m.bridge token).closed = m.bridge.closed from rfl, closed] at isOpen
    cases isOpen) sound.shut rfl

/-- The section that makes an envelope. -/
theorem conclude (known : PhaseOk m (.concluding event))
    (ok : m.conclude mapper poll c event = .ok envelope) :
    Sound mapper facts { m with
      bridge := concluded m.bridge envelope
      envelopes := m.envelopes ++ envelope.toList } := by
  have flagged := sound.flag false
  have grows : Grows m { m with
      bridge := concluded m.bridge envelope
      envelopes := m.envelopes ++ envelope.toList } :=
    ⟨id, List.prefix_rfl⟩
  obtain ⟨-, rfl | ⟨event, envelope, rfl, rfl, mapped⟩⟩ := conclude_eq_ok ok
  · have same : m.envelopes ++ (none : Option (Envelope γ)).toList = m.envelopes := by simp
    rw [same]
    exact flagged
  · simp only [Bridge.mapSourceEvent, bind_eq_ok_iff, pure_eq_ok_iff, demand_eq_ok_iff,
      Bool.and_eq_true, decide_eq_true_eq] at mapped
    obtain ⟨_, ⟨⟨number, -⟩, origin⟩, _, ⟨⟨verified, login⟩, matched⟩, callbackEnvelope, mapsFields,
      rfl⟩ := mapped
    obtain ⟨token, handed⟩ := known
    have next : event.1 = facts.callbackSourceSequenceBaseline + 1 + m.envelopes.length := by
      rw [number, sound.last]
      omega
    refine { flagged with
      polls := fun other poll' found => ?_
      last := ?_
      sequences := ?_
      reflects := ?_ }
    · obtain ⟨generation, ok⟩ := sound.polls other poll' found
      exact ⟨generation, grows.phaseOk ok⟩
    · change event.1 = _
      simp only [next, Option.toList_some, List.length_append, List.length_singleton]
      omega
    · simp only [Option.toList_some, List.map_append, List.map_singleton, List.length_append,
        List.length_singleton, sound.sequences, next]
      exact List.range'_1_concat.symm
    · intro envelope mem
      rcases mem_snoc.mp mem with old | rfl
      · exact sound.reflects envelope old
      · rw [sound.bound] at origin login
        exact ⟨sound.bound, token, event.2, handed, origin, verified, login, matched, rfl, mapsFields⟩

theorem poison (e : Exn) (generation : poll.generation = 0) :
    Sound mapper facts (m.poison thread poll e) := by
  unfold Machine.poison
  split
  · rename_i closed
    refine sound.setPhase generation fun _ => ?_
    cases isClosed : m.bridge.closed with
    | true => rfl
    | false => simp [isClosed, (sound.latch isClosed).1, generation] at closed
  · have closed : Sound mapper facts { m with bridge := { m.bridge with
        closed := true, stateGeneration := m.bridge.stateGeneration + 1 } } :=
      sound.bridge sound.bound (fun _ => rfl) (fun isOpen => by cases isOpen) (fun _ => by simp) rfl
    refine closed.setPhase generation ?_
    cases m.bridge.consumerToken with
    | none => exact fun _ => rfl
    | some token => exact rfl

/-- A section of a wait: the event that it returns has been handed to the token. -/
theorem served (thread : Nat) (part : Option (Outcome SourceEvent) × Queue SourceEvent)
    (generation : poll.generation = 0) : Sound mapper facts (m.served thread poll part) := by
  have base := sound.counter (m.counter.settle_handed thread (.consumer poll.token)
    (.consumer poll.token) part)
  obtain ⟨outcome, q⟩ := part
  cases outcome with
  | none => exact base.setPhase generation trivial
  | some outcome =>
    cases outcome with
    | event event =>
      exact base.setPhase generation ⟨poll.token, List.mem_concat_self⟩
    | timedOut => exact base.setPhase generation trivial
    | refused refusal => exact base.raise _ generation

theorem begin (thread : Nat) : Sound mapper facts (m.begin thread) := by
  have refused : ∀ e, (e = inProgress ∨ e.isException = false ∨ m.bridge.closed = true) →
      Sound mapper facts { m with results := m.results ++ [(thread, .error e)] } := by
    intro e known
    refine { sound with results := fun other e' mem => ?_ }
    rcases mem_snoc.mp mem with old | new
    · exact sound.results other e' old
    · obtain ⟨-, same⟩ := Prod.mk.inj new
      rw [Except.error.inj same]
      exact known
  unfold Machine.begin
  dsimp only
  split
  · rename_i closed
    exact refused _ (.inr (.inr closed))
  rename_i isOpen
  have isOpen : m.bridge.closed = false := Bool.eq_false_of_not_eq_true isOpen
  split
  · exact refused _ (.inl rfl)
  obtain ⟨generation, some⟩ := sound.latch isOpen
  split
  · rename_i none
    rw [none] at some
    cases some
  · rename_i token _
    let poll : Poll γ := ⟨token, m.bridge.stateGeneration, .checking⟩
    have checking : Machine.PhaseOk { m with bridge := { m.bridge with pollInFlight := true } }
      (.checking : Phase γ) := trivial
    exact (sound.flag true).setPhase (show poll.generation = 0 from generation) checking

theorem advance (c : Chance) (found : m.polls thread = some poll) :
    Sound mapper facts (m.advance mapper thread poll c) := by
  obtain ⟨generation, known⟩ := sound.polls thread poll found
  unfold Machine.advance
  split
  iterate 2
    · split
      · exact sound.setPhase generation trivial
      · exact sound.raise _ generation
  · split
    · exact sound.raise _ generation
    · exact sound.served thread _ generation
  · split
    · exact (sound.counter (m.counter.step_handed _)).raise _ generation
    · exact sound.served thread _ generation
  · rename_i event isPhase
    rw [isPhase] at known
    split
    · rename_i envelope made
      exact (sound.conclude known made).setPhase generation trivial
    · exact sound.raise _ generation
  · exact sound.poison _ generation
  · rename_i e token isPhase
    rw [isPhase] at known
    refine (sound.counter (m.counter.step_handed _)).setPhase generation ?_
    split
    · exact known
    · exact fun _ => known
  · rename_i e token isPhase
    rw [isPhase] at known
    exact (sound.dropToken known token).setPhase generation fun _ => known
  · rename_i result isPhase
    rw [isPhase] at known
    have left := sound.flag false
    refine { left with
      polls := fun other poll' isPoll => ?_
      results := fun other e mem => ?_ }
    · change Function.update m.polls thread none other = some poll' at isPoll
      rw [Function.update_apply] at isPoll
      split at isPoll
      · cases isPoll
      · exact left.polls other poll' isPoll
    · rcases mem_snoc.mp mem with old | new
      · exact sound.results other e old
      · obtain ⟨-, ends⟩ := Prod.mk.inj new
        unfold Chance.ending at ends
        split at ends
        · split at ends
          · cases ends
            exact .inr (.inl rfl)
          · cases ends
        · cases ends
          cases isException : e.isException with
          | false => exact .inr (.inl rfl)
          | true => exact .inr (.inr (known isException))

theorem step (act : Act) : Sound mapper facts (m.step mapper act) := by
  unfold Machine.step
  cases act with
  | client op =>
    dsimp only
    split
    · exact sound.counter (m.counter.step_handed op)
    · exact sound
  | poll thread =>
    dsimp only
    split
    · exact sound.begin thread
    · exact sound
  | step thread c =>
    dsimp only
    split
    · exact sound
    · rename_i poll found
      exact sound.advance c found
  | close thread =>
    dsimp only
    split
    · exact sound.close thread
    · exact sound
  | closeStep thread =>
    dsimp only
    split
    · exact sound
    · rename_i closing found
      have closed := sound.closes thread closing found
      cases closing with
      | releasing token =>
        exact { sound.counter (m.counter.step_handed _) with closes := fun _ _ _ => closed }
      | clearing token =>
        exact { sound.dropToken closed token with closes := fun _ _ _ => closed }

end Sound

/-- The envelopes that calls have returned. -/
def returned (m : Machine γ) : List (Envelope γ) :=
  m.results.filterMap fun result => match result.2 with
    | .ok envelope => envelope
    | .error _ => none

/-- The envelope that a thread is about to return. -/
def holds (m : Machine γ) (thread : Nat) : Option (Envelope γ) :=
  (m.polls thread).bind (·.phase.holds)

/-- What a section of a call does to the rest: a closed bridge stays closed and lets no envelope be
made; only this call moves, and leaves the flag as it was unless it is about to return.  What the
call held and what is made is then held, returned or lost. -/
structure Shape (m m' : Machine γ) (thread : Nat) (poll : Poll γ) (next : Option (Poll γ)) :
    Prop where
  closed : m.bridge.closed = true → m'.bridge.closed = true ∧ next.bind (·.phase.holds) = none
  polls : m'.polls = Function.update m.polls thread next
  flag : ∀ poll', next = some poll' → (∃ envelope, poll'.phase = .leaving (.ok envelope)) ∨
    m'.bridge.pollInFlight = m.bridge.pollInFlight ∧ ∀ result, poll.phase ≠ .leaving result
  results : ∀ other envelope, (other, .ok (some envelope)) ∈ m'.results →
    (other, .ok (some envelope)) ∈ m.results ∨ other = thread ∧ poll.phase.holds = some envelope
  kept : ∃ made, m'.envelopes = m.envelopes ++ made ∧
    (m'.returned ++ (next.bind (·.phase.holds)).toList ++ m'.lost).Perm
      (m.returned ++ poll.phase.holds.toList ++ m.lost ++ made)

theorem holds_eq_none (here : ∀ result, phase ≠ .leaving result) : phase.holds = none := by
  cases phase with
  | leaving result => exact absurd rfl (here result)
  | _ => rfl

/-- A section that makes, returns and loses nothing. -/
theorem setPhase_shape {thread : Nat} (d : Counter SourceEvent) (b : Bridge)
    (here : ∀ result, poll.phase ≠ .leaving result) (nothing : phase.holds = none)
    (closed : m.bridge.closed = true → b.closed = true)
    (flag : b.pollInFlight = m.bridge.pollInFlight) :
    ∃ next, Shape m ({ m with counter := d, bridge := b }.setPhase thread poll phase) thread poll
      next := by
  refine ⟨some { poll with phase }, fun before => ⟨closed before, nothing⟩, rfl,
    fun _ _ => .inr ⟨flag, here⟩, fun _ _ => .inl, [], (List.append_nil _).symm, ?_⟩
  rw [holds_eq_none here]
  change (m.returned ++ phase.holds.toList ++ m.lost).Perm _
  rw [nothing, List.append_nil (m.returned ++ _ ++ _)]

theorem raise_shape {thread : Nat} (d : Counter SourceEvent) (e : Exn)
    (here : ∀ result, poll.phase ≠ .leaving result) :
    ∃ next, Shape m ({ m with counter := d }.raise thread poll e) thread poll next := by
  refine setPhase_shape d m.bridge here ?_ id rfl
  split <;> rfl

theorem served_shape (part : Option (Outcome SourceEvent) × Queue SourceEvent)
    (here : ∀ result, poll.phase ≠ .leaving result) :
    ∃ next, Shape m (m.served thread poll part) thread poll next := by
  obtain ⟨outcome, q⟩ := part
  cases outcome with
  | none => exact setPhase_shape _ m.bridge here rfl id rfl
  | some outcome =>
    cases outcome with
    | event event | timedOut => exact setPhase_shape _ m.bridge here rfl id rfl
    | refused refusal => exact raise_shape _ _ here

/-- The section that makes an envelope. -/
theorem conclude_shape (isPhase : poll.phase = .concluding event)
    (made : m.conclude mapper poll c event = .ok envelope) :
    ∃ next, Shape m ({ m with
      bridge := concluded m.bridge envelope
      envelopes := m.envelopes ++ envelope.toList }.setPhase thread poll
        (.leaving (.ok envelope))) thread poll next := by
  refine ⟨_, fun closed => ?_, rfl, fun _ same => .inl ⟨envelope, ?_⟩, fun _ _ => .inl,
    envelope.toList, rfl, ?_⟩
  · rw [(conclude_eq_ok made).1] at closed
    cases closed
  · cases same
    rfl
  · rw [isPhase]
    change (m.returned ++ envelope.toList ++ m.lost).Perm _
    simp only [Phase.holds, Option.toList_none, List.append_nil, List.append_assoc]
    exact List.perm_append_comm.append_left m.returned

/-- The section in which a call returns. -/
theorem leave_shape {result : PollResult γ} (isPhase : poll.phase = .leaving result) :
    ∃ next, Shape m (m.leave thread c result) thread poll next := by
  refine ⟨none, fun closed => ⟨closed, rfl⟩, rfl, fun _ other => (by cases other),
    fun other envelope mem => ?_, [], (List.append_nil _).symm, ?_⟩
  · rcases mem_snoc.mp mem with old | new
    · exact .inl old
    · obtain ⟨same, ends⟩ := Prod.mk.inj new
      rw [isPhase]
      unfold Chance.ending at ends
      split at ends
      · split at ends
        · cases ends
        · cases ends
          exact .inr ⟨same, rfl⟩
      · cases ends
  · rw [isPhase]
    simp only [leave, returned, List.filterMap_append, Option.bind_none, Option.toList_none,
      List.append_nil]
    cases result with
    | error e => simp [Chance.ending, Phase.holds]
    | ok envelope =>
      unfold Chance.ending
      by_cases interrupted : c.interrupted = some (.raised false)
      · simp only [interrupted, if_true, Phase.holds]
        simpa [List.append_assoc] using (List.perm_append_comm.append_left _)
      · cases envelope <;> simp [interrupted, Phase.holds]

theorem advance_shape (mapper : Mapper γ) (c : Chance) :
    ∃ next, Shape m (m.advance mapper thread poll c) thread poll next := by
  cases isPhase : poll.phase with
  | leaving result =>
    unfold advance
    rw [isPhase]
    exact leave_shape isPhase
  | checking =>
    unfold advance
    rw [isPhase]
    cases m.bridge.requireCurrent c with
    | ok _ => exact setPhase_shape m.counter m.bridge (by simp [isPhase]) rfl id rfl
    | error e => exact raise_shape m.counter e (by simp [isPhase])
  | confirming =>
    unfold advance
    rw [isPhase]
    cases m.requirePollCurrent poll with
    | ok _ => exact setPhase_shape m.counter m.bridge (by simp [isPhase]) rfl id rfl
    | error e => exact raise_shape m.counter e (by simp [isPhase])
  | entering =>
    unfold advance
    rw [isPhase]
    cases c.interrupted with
    | some e => exact raise_shape m.counter e (by simp [isPhase])
    | none => exact served_shape _ (by simp [isPhase])
  | waiting =>
    unfold advance
    rw [isPhase]
    cases c.interrupted with
    | some e => exact raise_shape _ e (by simp [isPhase])
    | none => exact served_shape _ (by simp [isPhase])
  | concluding event =>
    unfold advance
    simp only [isPhase]
    cases made : m.conclude mapper poll c event with
    | ok envelope => exact conclude_shape isPhase made
    | error e => exact raise_shape m.counter e (by simp [isPhase])
  | failing e =>
    unfold advance
    simp only [isPhase]
    unfold poison
    split
    · exact setPhase_shape m.counter m.bridge (by simp [isPhase]) rfl id rfl
    · refine setPhase_shape m.counter _ (by simp [isPhase]) ?_ (fun _ => rfl) rfl
      split <;> rfl
  | releasing e token =>
    unfold advance
    rw [isPhase]
    refine setPhase_shape _ m.bridge (by simp [isPhase]) ?_ id rfl
    split <;> rfl
  | clearing e token =>
    unfold advance
    rw [isPhase]
    exact setPhase_shape m.counter _ (by simp [isPhase]) rfl id rfl

/-! ## Every envelope once -/

/-- An envelope that was made is about to be returned by one thread, or was returned, or is lost:
each of them once. -/
def Accounted (m : Machine γ) : Prop :=
  ∃ threads : List Nat, threads.Nodup ∧ (∀ thread, thread ∉ threads → m.holds thread = none) ∧
    m.envelopes.Perm (m.returned ++ threads.filterMap m.holds ++ m.lost)

namespace Accounted

theorem congr {m' : Machine γ} (accounted : Accounted m) (envelopes : m'.envelopes = m.envelopes)
    (returned : m'.returned = m.returned) (holds : m'.holds = m.holds) (lost : m'.lost = m.lost) :
    Accounted m' := by
  unfold Accounted
  rw [envelopes, returned, holds, lost]
  exact accounted

/-- The thread that moves, and the others. -/
theorem split (accounted : Accounted m) (thread : Nat) : ∃ others : List Nat,
    (thread :: others).Nodup ∧ (∀ other, other ∉ thread :: others → m.holds other = none) ∧
      m.envelopes.Perm
        (m.returned ++ ((m.holds thread).toList ++ others.filterMap m.holds) ++ m.lost) := by
  obtain ⟨threads, nodup, nothing, perm⟩ := accounted
  by_cases mem : thread ∈ threads
  · have apart := List.perm_cons_erase mem
    refine ⟨threads.erase thread, apart.nodup nodup, fun other absent => ?_, perm.trans ?_⟩
    · exact nothing other fun among => absent (apart.mem_iff.mp among)
    · refine ((apart.filterMap m.holds).trans ?_).append_left _ |>.append_right _
      cases here : m.holds thread <;> simp [here]
  · refine ⟨threads, List.nodup_cons.mpr ⟨mem, nodup⟩, fun other absent => ?_, ?_⟩
    · exact nothing other fun among => absent (List.mem_cons_of_mem _ among)
    · rw [nothing thread mem]
      exact perm

/-- What stands in the middle may as well stand at the end. -/
theorem perm_aside {α : Type} (a b c d : List α) : (a ++ (b ++ c) ++ d).Perm (a ++ b ++ d ++ c) := by
  simpa only [List.append_assoc] using (List.perm_append_comm.append_left b).append_left a

theorem shape {m' : Machine γ} {next : Option (Poll γ)} (accounted : Accounted m)
    (here : m.polls thread = some poll) (shape : Shape m m' thread poll next) : Accounted m' := by
  obtain ⟨others, nodup, nothing, perm⟩ := accounted.split thread
  obtain ⟨made, grown, kept⟩ := shape.kept
  have own : m'.holds thread = next.bind (·.phase.holds) := by
    rw [holds, shape.polls, Function.update_self]
  have rest : ∀ other, other ≠ thread → m'.holds other = m.holds other := by
    intro other apart
    rw [holds, shape.polls, Function.update_of_ne apart]
    rfl
  have absent : thread ∉ others := (List.nodup_cons.mp nodup).1
  have same : others.filterMap m'.holds = others.filterMap m.holds :=
    List.filterMap_congr fun other mem => rest other fun equal => absent (equal ▸ mem)
  have held : (thread :: others).filterMap m'.holds =
      (next.bind (·.phase.holds)).toList ++ others.filterMap m.holds := by
    rw [List.filterMap_cons, own, same]
    cases next.bind (·.phase.holds) <;> rfl
  refine ⟨thread :: others, nodup, fun other away => ?_, ?_⟩
  · rw [rest other fun equal => away (equal ▸ List.mem_cons_self)]
    exact nothing other away
  · rw [show m.holds thread = poll.phase.holds by rw [holds, here]; rfl] at perm
    rw [held]
    calc m'.envelopes = m.envelopes ++ made := grown
      _ |>.Perm (m.returned ++ (poll.phase.holds.toList ++ others.filterMap m.holds) ++
            (m.lost ++ made)) := by
          rw [← List.append_assoc]
          exact perm.append_right made
      _ |>.Perm (m.returned ++ poll.phase.holds.toList ++ (m.lost ++ made) ++
            others.filterMap m.holds) := perm_aside ..
      _ |>.Perm (m'.returned ++ (next.bind (·.phase.holds)).toList ++ m'.lost ++
            others.filterMap m.holds) := by
          rw [← List.append_assoc]
          exact kept.symm.append_right _
      _ |>.Perm (m'.returned ++ ((next.bind (·.phase.holds)).toList ++
            others.filterMap m.holds) ++ m'.lost) := (perm_aside ..).symm

theorem begin (accounted : Accounted m) (idle : m.polls thread = none) :
    Accounted (m.begin thread) := by
  have refused : ∀ e, Accounted { m with results := m.results ++ [(thread, .error e)] } := by
    intro e
    refine accounted.congr rfl ?_ rfl rfl
    simp [returned]
  unfold Machine.begin
  dsimp only
  split
  · exact refused _
  · split
    · exact refused _
    · split
      · exact refused _
      · refine accounted.congr rfl rfl (funext fun other => ?_) rfl
        by_cases same : other = thread
        · simp [holds, same, idle, Phase.holds]
        · simp [holds, Function.update_of_ne same]

theorem step (accounted : Accounted m) (act : Act) : Accounted (m.step mapper act) := by
  unfold Machine.step
  cases act with
  | client op | close thread =>
    dsimp only
    split <;> exact accounted
  | poll thread =>
    dsimp only
    split
    · rename_i idle
      simp only [Machine.idle, Bool.and_eq_true, Option.isNone_iff_eq_none] at idle
      exact accounted.begin idle.1.1
    · exact accounted
  | step thread c =>
    dsimp only
    split
    · exact accounted
    · rename_i poll here
      obtain ⟨next, shape⟩ := advance_shape mapper c
      exact accounted.shape here shape
  | closeStep thread =>
    dsimp only
    split
    · exact accounted
    · rename_i closing _
      cases closing with
      | releasing token | clearing token => exact accounted

theorem run (accounted : Accounted m) (acts : List Act) : Accounted (m.run mapper acts) := by
  unfold Machine.run
  induction acts generalizing m with
  | nil => exact accounted
  | cons act acts ih => exact ih (accounted.step act)

end Accounted

def sampleFacts : SourceFacts where
  origin := ⟨"a", "b", "c", "d", 1, 1⟩
  login := ⟨some "9999", some "1", some "tcp", some "20260105", some 1, some 1⟩
  callbackSourceSequenceBaseline := 0

def sampleCommand : Command := ⟨"CLAIMED", 0, ""⟩

/-- Nothing has changed. -/
def calm : Chance where
  command := .ok (some sampleCommand)
  source := .ok sampleFacts

/-- An order return of the bound login. -/
def sampleEvent : SourceEvent where
  eventType := .onRtnOrder
  origin := sampleFacts.origin
  callbackMonotonicNs := 0
  loginVerified := true
  login := sampleFacts.login
  callbackSessionMatchesLogin := some true
  rawCorrelationFields := []

def unitMapper : Mapper Unit := ⟨fun _ => .ok (), fun _ _ _ _ => .ok ()⟩

/-- The queue is leased to token 0. -/
def leasedCounter : Counter SourceEvent :=
  [Op.replaceApi (some ⟨"b", "c"⟩), .claim].foldl Counter.step (Counter.fresh "a")

def sampleMachine : Machine Unit := bound leasedCounter sampleFacts sampleCommand 0

/-- A call up to its wait. -/
def polled (thread : Nat) : List Act := .poll thread :: List.replicate 3 (.step thread calm)

/-- An order return comes, and the call that waits makes its envelope. -/
def answered (thread : Nat) : List Act :=
  [.client (.record fun _ => some sampleEvent), .step thread calm, .step thread calm]

end Machine

end BtApiCtp.Callbacks
