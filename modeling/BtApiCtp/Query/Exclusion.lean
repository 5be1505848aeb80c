/-
# Query.Exclusion -- one native query at a time

`one_query_at_a_time`: on a session that is not poisoned, no native query is sent while
another one is outstanding, whatever the callers and the callbacks do, as long as no query
goes around the lane and a query that is sent still has the slot it took: no terminal packet
came for it before it was sent and, without an ingress, the connection did not change since it
read its generation.  The lane does not look at the connection again before the native call:
`reconnect_lets_two_in` is the run in which two queries are outstanding.
-/
import BtApiCtp.Query.Completeness

namespace BtApiCtp.Query

open Theory Python

variable {ρ δ : Type}

/-- **One native query at a time**, in every state of every run. -/
theorem one_query_at_a_time (rows : Rows ρ δ) (ingress : Option Bool) (isManaged : Bool)
    (events : List (Event Chance Nat Unit (Command ρ) Outside))
    (unpoisoned : (after rows ingress isManaged events).poisoned = false)
    (inLane : .raw ∉ (after rows ingress isManaged events).journal)
    (keepsSlot : ∀ before thread requestId later, (after rows ingress isManaged events).journal =
        before ++ .entered thread requestId :: later →
      .terminal requestId ∉ before ∧ ((after rows ingress isManaged events).ingress = none →
          ¬ Unsteady thread requestId before)) :
    Exclusive (after rows ingress isManaged events).journal := by
  have inv := inv_after rows ingress isManaged events
  refine (inv.slotted.alone unpoisoned ⟨inLane, ?_⟩).exclusive
  intro before thread requestId later split
  obtain ⟨unanswered, unchanged⟩ := keepsSlot before thread requestId later split
  rcases inv.numbered.prompted before thread requestId later split with
    held | terminal | ⟨possible, unsteady⟩
  · exact held
  · exact absurd terminal unanswered
  · have none : (after rows ingress isManaged events).ingress = none := by
      cases installed : (after rows ingress isManaged events).ingress with
      | none => rfl
      | some poisoned =>
        cases poisoned with
        | false => exact absurd installed possible
        | true => simp [Lane.poisoned, installed] at unpoisoned
    exact absurd unsteady (unchanged none)

/-- A query is refused, and the next one is sent. -/
def refusedThenSent : List (Event Chance Nat Unit (Command Native) Outside) :=
  [.env .frontConnected, .env .loggedIn, .start (.query 0 accountQuery)] ++
    List.replicate 13 (.step 0 {}) ++ .step 0 { native := .ok (some 5) } ::
      List.replicate 4 (.step 0 {}) ++
    .start (.query 1 accountQuery) :: List.replicate 14 (.step 1 {})

theorem one_query_at_a_time_refused :
    Exclusive (after plainRows (some false) true refusedThenSent).journal := by
  have journal : (after plainRows (some false) true refusedThenSent).journal =
      [.connection, .numbered 0 1, .opened 0 1, .reserved 0 1, .entered 0 1, .ended 0 1,
        .submitRejected 1, .numbered 1 2, .opened 1 2, .reserved 1 2, .entered 1 2] := by
    decide +kernel
  have managed : (after plainRows (some false) true refusedThenSent).ingress = some false := by
    decide +kernel
  refine one_query_at_a_time plainRows (some false) true refusedThenSent (by decide +kernel)
    (by simp [journal]) fun before thread requestId later split => ⟨fun terminal => ?_, ?_⟩
  · have inJournal : .terminal requestId ∈
        (after plainRows (some false) true refusedThenSent).journal := by
      rw [split]
      exact List.mem_append_left _ terminal
    simp [journal] at inJournal
  · intro none
    rw [managed] at none
    cases none

/-- The front is lost and found again between the check and the native call of a query: it is
sent without the slot, and so is the next one. -/
def reconnectBetween : List (Event Chance Nat Unit (Command Native) Outside) :=
  [.env .frontConnected, .env .loggedIn, .start (.query 0 accountQuery)] ++
    List.replicate 12 (.step 0 {}) ++
    [.env (.frontDisconnected 5), .env .frontConnected, .env .loggedIn] ++
    List.replicate 2 (.step 0 {}) ++
    .start (.query 1 accountQuery) :: List.replicate 13 (.step 1 {})

theorem reconnect_lets_two_in :
    (after plainRows none false reconnectBetween).poisoned = false ∧
      ¬ Exclusive (after plainRows none false reconnectBetween).journal := by
  refine ⟨by decide +kernel, fun exclusive => ?_⟩
  have journal : (after plainRows none false reconnectBetween).journal =
      [.connection, .numbered 0 1, .opened 0 1, .reserved 0 1, .lost 1, .connection, .connection,
        .entered 0 1, .numbered 1 2, .opened 1 2, .reserved 1 2] ++ .entered 1 2 :: [] := by
    decide +kernel
  have nothingOut := exclusive _ 1 2 [] journal
  exact absurd nothingOut (by decide)

end BtApiCtp.Query
