/-
# Callbacks.Polls -- one poll at a time

`next_envelope` refuses a call while `_poll_in_flight` is set.  A call clears the flag in its last
locked section and once more in `finally`, when another call may have set it: a third call then
gets in beside the second one.  Between the two sections a call is leaving with a result; as long
as no call begins then, the flag is set for as long as a poll is unfinished.
-/
import BtApiCtp.Callbacks.Envelopes

namespace BtApiCtp.Callbacks

namespace Machine

variable {γ : Type} {mapper : Mapper γ} {m : Machine γ} {thread : Nat}

/-- The flag is cleared already and the call has not returned. -/
def Poll.Concluded (poll : Poll γ) : Prop := ∃ envelope, poll.phase = .leaving (.ok envelope)

/-- No call begins while another one has concluded and not returned. -/
def Orderly (mapper : Mapper γ) : Machine γ → List Act → Prop
  | _, [] => True
  | m, act :: acts =>
    (∀ thread, act = .poll thread → ∀ other poll, m.polls other = some poll → ¬Poll.Concluded poll) ∧
      Orderly mapper (m.step mapper act) acts

/-- At most one poll is unfinished, and until it has concluded the flag is set. -/
structure Alone (m : Machine γ) : Prop where
  single : ∀ thread other, (m.polls thread).isSome → (m.polls other).isSome → thread = other
  flag : ∀ thread poll, m.polls thread = some poll →
    Poll.Concluded poll ∨ m.bridge.pollInFlight = true

variable {poll : Poll γ}

namespace Alone

/-- Nobody else polls while a call does. -/
theorem others (alone : Alone m) (here : m.polls thread = some poll) {other : Nat}
    (apart : other ≠ thread) : m.polls other = none := by
  by_contra there
  have both := alone.single other thread (Option.isSome_iff_ne_none.mpr there) (by simp [here])
  exact apart both

theorem begin (alone : Alone m)
    (orderly : ∀ other poll, m.polls other = some poll → ¬Poll.Concluded poll) :
    Alone (m.begin thread) := by
  unfold Machine.begin
  dsimp only
  split
  · exact ⟨alone.single, alone.flag⟩
  · split
    · exact ⟨alone.single, alone.flag⟩
    · rename_i _ unset
      split
      · exact ⟨alone.single, alone.flag⟩
      · -- The flag is not set, so every poll has concluded: there is none.
        have nobody : ∀ other, m.polls other = none := by
          intro other
          cases there : m.polls other with
          | none => rfl
          | some poll =>
            have set := (alone.flag other poll there).resolve_left (orderly other poll there)
            exact absurd set unset
        have only : ∀ poll other, (Function.update m.polls thread (some poll) other).isSome →
            other = thread := by
          intro poll other some
          by_contra apart
          rw [Function.update_of_ne apart, nobody] at some
          cases some
        exact ⟨fun first second one two => (only _ first one).trans (only _ second two).symm,
          fun _ _ _ => .inr rfl⟩

theorem advance (alone : Alone m) (here : m.polls thread = some poll) (c : Chance) :
    Alone (m.advance mapper thread poll c) := by
  obtain ⟨next, shape⟩ := advance_shape mapper c
  have only : ∀ other, ((m.advance mapper thread poll c).polls other).isSome → other = thread := by
    intro other some
    by_contra apart
    rw [shape.polls, Function.update_of_ne apart, alone.others here apart] at some
    cases some
  refine ⟨fun first second one two => (only first one).trans (only second two).symm, ?_⟩
  intro other poll' there
  have same : other = thread := only other (by simp [there])
  rw [same, shape.polls, Function.update_self] at there
  rcases shape.flag poll' there with concluded | ⟨kept, unfinished⟩
  · exact .inl concluded
  · right
    rw [kept]
    refine (alone.flag thread poll here).resolve_left ?_
    rintro ⟨envelope, leaving⟩
    exact unfinished _ leaving

theorem step (alone : Alone m) (act : Act)
    (orderly : ∀ thread, act = .poll thread →
      ∀ other poll, m.polls other = some poll → ¬Poll.Concluded poll) :
    Alone (m.step mapper act) := by
  unfold Machine.step
  cases act with
  | client op | close thread =>
    dsimp only
    split <;> exact ⟨alone.single, alone.flag⟩
  | poll thread =>
    dsimp only
    split
    · exact alone.begin (orderly thread rfl)
    · exact alone
  | step thread c =>
    dsimp only
    cases here : m.polls thread with
    | none => exact alone
    | some poll => exact alone.advance here c
  | closeStep thread =>
    dsimp only
    cases m.closes thread with
    | none => exact alone
    | some closing => cases closing <;> exact ⟨alone.single, alone.flag⟩

theorem run (alone : Alone m) (acts : List Act) (orderly : Orderly mapper m acts) :
    Alone (m.run mapper acts) := by
  induction acts generalizing m with
  | nil => exact alone
  | cons act acts ih => exact ih (alone.step act orderly.1) orderly.2

end Alone

theorem bound_alone (counter : Counter SourceEvent) (facts : SourceFacts) (command : Command)
    (token : Nat) : Alone (bound (γ := γ) counter facts command token) :=
  ⟨fun _ _ none => (by cases none), fun _ _ none => (by cases none)⟩

/-- As long as no call begins between another one's conclusion and its return, at most one poll is
unfinished, and a call that is made meanwhile is refused and does nothing else. -/
theorem second_poll_refused (mapper : Mapper γ) (counter : Counter SourceEvent)
    (facts : SourceFacts) (command : Command) (token : Nat) (acts : List Act)
    (orderly : Orderly mapper (bound counter facts command token) acts) :
    let m := (bound counter facts command token).run mapper acts
    (∀ thread other, (m.polls thread).isSome → (m.polls other).isSome → thread = other) ∧
    ∀ thread poll other, m.polls thread = some poll → ¬Poll.Concluded poll → m.idle other = true →
      m.step mapper (.poll other) = { m with
        results := m.results ++ [(other, .error
          (if m.bridge.closed then .contract "bridge is closed" else inProgress))] } := by
  intro m
  have alone : Alone m := (bound_alone counter facts command token).run acts orderly
  refine ⟨alone.single, fun thread poll other here unfinished idle => ?_⟩
  have set := (alone.flag thread poll here).resolve_left unfinished
  cases closed : m.bridge.closed with
  | true => simp [Machine.step, idle, Machine.begin, closed]
  | false => simp [Machine.step, idle, Machine.begin, closed, set]

/-- A call is refused while another one waits. -/
theorem waiting_poll_undisturbed :
    let m := sampleMachine.run unitMapper (polled 0)
    (m.step unitMapper (.poll 1)).results = [(1, .error inProgress)] := by
  have orderly : Orderly unitMapper sampleMachine (polled 0) := by
    refine ⟨fun _ _ _ _ none => ?_, ?_, ?_, ?_, trivial⟩
    · cases none
    all_goals
      intro _ other
      cases other
  obtain ⟨_, refused⟩ := second_poll_refused unitMapper leasedCounter sampleFacts sampleCommand 0
    (polled 0) orderly
  intro m
  have waiting : m.polls 0 = some ⟨0, 0, .waiting⟩ := rfl
  have unfinished : ¬Poll.Concluded (γ := Unit) ⟨0, 0, .waiting⟩ := by
    rintro ⟨_, other⟩
    cases other
  exact congrArg Machine.results (refused 0 _ 1 waiting unfinished rfl)

/-- A call that has timed out returns after a second one has begun; a third one gets in while the
second waits, closes the bridge and makes the second one fail. -/
theorem third_poll_admitted :
    let waits := sampleMachine.run unitMapper (polled 0 ++
      [.step 0 { calm with expired := true }, .step 0 calm, .poll 1, .step 0 calm] ++
        List.replicate 3 (.step 1 calm))
    let m := waits.run unitMapper (polled 2 ++ List.replicate 4 (.step 2 calm) ++
      List.replicate 3 (.step 1 calm))
    (waits.polls 1).map (·.phase) = some .waiting ∧ waits.bridge.closed = false ∧
      m.bridge.closed = true ∧ m.counter.queue.lease = none ∧
      m.results[2]? = some (1, .error closedDuringPoll) :=
  ⟨rfl, rfl, rfl, rfl, rfl⟩

end Machine

end BtApiCtp.Callbacks
