/-
# Query.Completeness -- what a complete result stands for

The system of queries, callbacks and the connection is sound, so in every state of every run
an accumulator agrees with the packets that came for it.  `complete_query` reads off what
`complete` promises; the digest alone may be missing, where the rows cannot be written
(`complete_without_digest`).  `recorded_end_changes_only_marked` says when the end that a
terminal packet recorded is written over, `disconnect_rewrites_end` shows one such run.
-/
import BtApiCtp.Query.Digest
import BtApiCtp.Query.Safety
import Mathlib.Algebra.Group.Int.Defs

namespace BtApiCtp.Query

open Session Theory Python

variable {ρ δ : Type} {rows : Rows ρ δ} {s : Lane ρ δ}

/-! ## The connection -/

def Lane.clear (s : Lane ρ δ) : Lane ρ δ :=
  { s with loggedIn := false, queryNativeInflight := none }

theorem loseQuery_clear (origin : CompletionOrigin) (utc : Int) (s : Lane ρ δ) (i : Int) :
    s.clear.loseQuery origin utc i = (s.loseQuery origin utc i).clear := by
  have same : s.clear.accumulators = s.accumulators := rfl
  unfold Lane.loseQuery
  rw [same]
  split <;> rfl

theorem onFrontDisconnected_eq (s : Lane ρ δ) (origin : CompletionOrigin) (utc : Int) :
    s.onFrontDisconnected origin utc =
      (s.queryHistory.foldl (Lane.loseQuery origin utc) s).clear.mark .connection := by
  change (s.queryHistory.foldl (Lane.loseQuery origin utc) s.clear).mark .connection = _
  rw [List.foldl_hom Lane.clear (fun s i => loseQuery_clear origin utc s i)]

theorem Inv.move_onFrontDisconnected (inv : Inv rows s) {origin : CompletionOrigin} {utc : Int}
    (own : origin = .frontDisconnected ∨ origin = .clientStop) :
    Move rows none s
      ({ s with ingress := s.ingress.map fun _ => true }.onFrontDisconnected origin utc) := by
  rw [onFrontDisconnected_eq]
  have poisoned := inv.move_poison (t := none)
  have lost : Move rows none { s with ingress := s.ingress.map fun _ => true }
      (s.queryHistory.foldl (Lane.loseQuery origin utc)
        { s with ingress := s.ingress.map fun _ => true }) :=
    Inv.move_loseQueries own s.queryHistory poisoned.inv
  refine (poisoned.trans lost).trans (lost.inv.move_connection (le_refl _) (.inl rfl) ?_)
  intro _ fine
  have before := (lost.beside 0 (by simp)).ingress fine
  cases installed : s.ingress <;> simp [installed] at before

theorem Inv.move_outside (inv : Inv rows s) (action : Outside) :
    Move rows none s (action.act s) := by
  cases action with
  | frontConnected =>
    dsimp only [Outside.act]
    split
    · rename_i again
      have poisoned := inv.move_poison (t := none)
      rw [again.1] at poisoned
      exact poisoned
    · rename_i first
      refine inv.move_connection (by omega) (.inr rfl) fun positive fine => ?_
      exact first ⟨fine, by omega⟩
  | frontDisconnected utc => exact inv.move_onFrontDisconnected (.inl rfl)
  | clientStopped utc => exact inv.move_onFrontDisconnected (.inr rfl)
  | loggedIn =>
    refine ⟨⟨{ inv.stored with },
      { inv.numbered with }, { inv.slotted with loggedIn := fun ready => ?_ }⟩,
      fun u _ => { Rely.refl u s with }, .of_same rfl rfl⟩
    rcases (by simpa [Outside.act] using ready : s.loggedIn = true ∨ 0 < s.connectionGeneration)
      with before | positive
    · exact inv.slotted.loggedIn before
    · exact positive
  | loggedOut =>
    exact ⟨⟨{ inv.stored with },
      { inv.numbered with }, { inv.slotted with loggedIn := fun ready => by cases ready }⟩,
      fun u _ => { Rely.refl u s with }, .of_same rfl rfl⟩
  | poisoned => exact inv.move_poison
  | requestId => exact inv.move_requestId
  | rawQuery =>
    dsimp only [Outside.act]
    split
    · exact inv.move_mark trivial (by simp) (by simp) (.inl rfl)
    · exact .refl inv

/-! ## Runs -/

/-- A client that has not been started, with or without an ingress. -/
def Lane.initial (ingress : Option Bool) (isManaged : Bool) : Lane ρ δ := { ingress, isManaged }

/-- The lane after these events. -/
def after (rows : Rows ρ δ) (ingress : Option Bool) (isManaged : Bool)
    (events : List (Event Chance Nat Unit (Command ρ) Outside)) : Lane ρ δ :=
  ((queries rows).run ⟨.initial ingress isManaged, ∅⟩ events).shared

theorem inv_initial (rows : Rows ρ δ) (ingress : Option Bool) (isManaged : Bool) :
    Inv rows (Lane.initial ingress isManaged) := by
  refine ⟨⟨?_, ?_, ?_, ?_⟩, ⟨?_, ?_, ?_, ?_, ?_⟩, ⟨?_, ?_, ?_, ?_, ?_⟩⟩
  case refine_12 =>
    intro _ _
    refine ⟨?_, ?_, ?_⟩
    · intro before thread requestId after split
      simp [Lane.initial] at split
    iterate 2 · simp [Lane.initial, tally, Tally.busy]
  case refine_9 =>
    intro before thread requestId after split
    simp [Lane.initial] at split
  all_goals simp [Lane.initial, tally, Tally.busy]

theorem sound_queries (rows : Rows ρ δ) :
    (queries rows).Sound (Inv rows) Rely (fun t => Move rows (some t)) Law fun _ _ => True where
  rely_refl := Rely.refl
  rely_trans _ _ _ _ := Rely.trans
  still _ := .of_same rfl rfl
  beside t u _ _ other move := move.beside u fun same => other (Option.some.inj same).symm
  within _ _ _ move := move.law
  starts m command s _ inv accepted := by
    cases accepted
    refine ⟨inv, .of_same rfl rfl, fun u _ => .refl u _, ?_⟩
    cases command with
    | query t call => exact secure_executeQuery call
    | packet t requestType p => exact secure_onRspQry p
    | responseError t p => exact secure_onRspError p
  finishes _ s inv := ⟨inv, .of_same rfl rfl, fun u _ => .refl u s⟩
  exits _ s inv := ⟨inv, .of_same rfl rfl, fun u _ => .refl u s⟩
  outside m action _ inv := by
    have move := inv.move_outside action
    exact ⟨move.inv, move.law, fun u => move.beside u (by simp)⟩

section Runs

variable (rows) (ingress : Option Bool) (isManaged : Bool)
  (events events' : List (Event Chance Nat Unit (Command ρ) Outside))

theorem inv_after : Inv rows (after rows ingress isManaged events) :=
  ((sound_queries rows).run (fun _ _ _ => Law.trans) events (inv_initial rows ingress isManaged)
    System.guarded_nil ((queries rows).admitted_of_forall fun _ _ _ => trivial)).1

variable {rows} in
/-- What the steps of a run keep, between any two of its states. -/
theorem within_after {T : Lane ρ δ → Lane ρ δ → Prop} (sound : (queries rows).Sound (Inv rows) Rely
      (fun t => Move rows (some t)) T fun _ _ => True) (trans : ∀ a b c, T a b → T b c → T a c) :
    T (after rows ingress isManaged events) (after rows ingress isManaged (events ++ events')) := by
  have first := sound.run trans events (inv_initial rows ingress isManaged) System.guarded_nil
    ((queries rows).admitted_of_forall fun _ _ _ => trivial)
  have second := sound.run trans events' first.1 first.2.1
    ((queries rows).admitted_of_forall fun _ _ _ => trivial)
  unfold after System.run
  rw [List.foldl_append]
  exact second.2.2

end Runs

/-! ## Complete queries -/

/-- The same but for the count of late callbacks. -/
def Accumulator.withLate (a : Accumulator ρ δ) (count : Nat) : Accumulator ρ δ :=
  { a with lateCallbackCount := count }

theorem noteTerminal_accumulators (s : Lane ρ δ) (p : Packet ρ) :
    (s.noteTerminal p).accumulators = s.accumulators := by
  unfold Lane.noteTerminal Lane.releaseQuerySlot
  grind [Lane.mark]

section Late

variable {i : Int} {a : Accumulator ρ δ} {p : Packet ρ}

variable (found : s.accumulators.lookup i = some a)
include found

/-- A packet for a closed query is counted, at most. -/
theorem handleQueryCallback_closed (closed : a.isOpen = false) (early : Clocks) (now : Int) :
    ∃ count, (s.handleQueryCallback rows p early now).accumulators.lookup i =
      some (a.withLate count) := by
  have found' : (s.noteTerminal p).accumulators.lookup i = some a := by
    rwa [noteTerminal_accumulators]
  unfold Lane.handleQueryCallback
  rcases takePacket_cases rows (s.noteTerminal p) p early now with
    ⟨-, same⟩ | ⟨b, -, ⟨-, -, same⟩ | ⟨-, same⟩⟩
  · exact ⟨a.lateCallbackCount, by rw [same, found']; rfl⟩
  · rw [same]
    by_cases here : i = p.requestId
    · refine ⟨a.lateCallbackCount + 1, lookup_modifyAccumulator.mpr ⟨a, found', ?_⟩⟩
      rw [if_pos here, Accumulator.receive, if_pos closed]
      exact ite_self _
    · exact ⟨a.lateCallbackCount,
        lookup_modifyAccumulator.mpr ⟨a, found', by rw [if_neg here]; rfl⟩⟩
  · exact ⟨a.lateCallbackCount, by rw [same]; exact found'⟩

theorem capQuery_closed (closed : a.isOpen = false) :
    ∃ count, (s.capQuery p).2.accumulators.lookup i = some (a.withLate count) := by
  unfold Lane.capQuery
  split
  · exact ⟨a.lateCallbackCount, found⟩
  · rename_i b capped
    have whose := (Option.filter_eq_some_iff.mp capped).1
    split
    · by_cases here : i = p.requestId
      · refine ⟨a.lateCallbackCount + 1, ?_⟩
        rw [noteTerminal_accumulators]
        exact lookup_modifyAccumulator.mpr ⟨a, found, if_pos here⟩
      · refine ⟨a.lateCallbackCount, ?_⟩
        rw [noteTerminal_accumulators]
        exact lookup_modifyAccumulator.mpr ⟨a, found, if_neg here⟩
    · rename_i counts
      split
      · refine ⟨a.lateCallbackCount, lookup_modifyAccumulator.mpr ⟨a, found, if_neg ?_⟩⟩
        rintro rfl
        rw [Option.some.inj (whose.symm.trans found), closed] at counts
        simp at counts
      · exact ⟨a.lateCallbackCount, found⟩

theorem capture_closed (closed : a.isOpen = false)
    (captured : Bool) :
    ∃ count, (s.capture p captured).2.accumulators.lookup i = some (a.withLate count) := by
  unfold Lane.capture
  split
  iterate 2 · exact ⟨a.lateCallbackCount, found⟩
  · have capped := capQuery_closed (p := p) found closed
    dsimp only
    split
    · exact capped
    · split <;> exact capped

omit found

end Late

/-- **What a complete result stands for**, in every state of every run. -/
theorem complete_query (rows : Rows ρ δ) (ingress : Option Bool) (isManaged : Bool)
    (events : List (Event Chance Nat Unit (Command ρ) Outside)) (i : Int) (a : Accumulator ρ δ)
    (found : (after rows ingress isManaged events).accumulators.lookup i = some a)
    (complete : a.complete = true) :
    (∃ before p later, (after rows ingress isManaged events).packetsOf a = before ++ p :: later ∧
      p.isLast = true ∧ (∀ q ∈ before, q.isLast = false) ∧
      (∀ q ∈ before ++ [p], errorOf q.rspInfo = none) ∧
      a.records = gather rows a.requestType (before ++ [p])) ∧
    a.sourceRecordsSha256 = rows.digest a.records ∧
    (∀ limit, a.recordLimit = some limit → a.records.length ≤ limit) ∧
    a.timedOut = false ∧
    (a.completionOrigin = .success ∨ a.completionOrigin = .responseError) ∧
    ∀ p : Packet ρ,
      (∀ early now, ∃ count, ((after rows ingress isManaged events).handleQueryCallback rows p early
        now).accumulators.lookup i = some (a.withLate count)) ∧
      ∀ captured, ∃ count, ((after rows ingress isManaged events).capture p
        captured).2.accumulators.lookup i = some (a.withLate count) := by
  have sane := (inv_after rows ingress isManaged events).stored.sane i a found
  simp only [Accumulator.complete, Bool.and_eq_true, Bool.not_eq_true'] at complete
  obtain ⟨⟨⟨⟨⟨shut, last⟩, onTime⟩, -⟩, within⟩, fine⟩ := complete
  have closed : a.isOpen = false := by simp [Accumulator.isOpen, shut]
  obtain ⟨taken, later, split, records, -, quiet, -, ends⟩ := sane.taken
  obtain ⟨before, p, rfl, isLast, notLast⟩ := ends last within
  refine ⟨⟨before, p, later, by rw [split, List.append_assoc]; rfl, isLast, notLast, quiet fine,
    records⟩, sane.digest last within, sane.limited, onTime, sane.origin last within fine onTime,
    fun p => ⟨handleQueryCallback_closed found closed, capture_closed found closed⟩⟩

section Account

/-- Rows as they come, bound by `_query_records_digest` with the text itself for its hash. -/
def plainRows : Rows Native String where
  snapshot _ row := row
  digest records := (queryRecordsDigest id records).toOption

def balance (available : Native) : Native := .dict [(.str "Available", available)]

/-- `100.0` available. -/
def hundred : Native := balance (.float "100.0")

def accountQuery : Call := { requestType := .account, timeout := 5, polls := 1 }

def account (row : Native) : Packet Native where
  requestType := some .account
  record := some row
  requestId := 1
  isLast := true

/-- Logged in, a query of the account is sent. -/
def accountSent : List (Event Chance Nat Unit (Command Native) Outside) :=
  [.env .frontConnected, .env .loggedIn, .start (.query 0 accountQuery)] ++
    List.replicate 16 (.step 0 {})

/-- Its only packet comes in. -/
def accountAnswered (row : Native) : List (Event Chance Nat Unit (Command Native) Outside) :=
  accountSent ++ [.start (.packet 1 .account (account row)), .step 1 {}, .step 1 {}]

/-- The query is settled. -/
def accountSettled (row : Native) : List (Event Chance Nat Unit (Command Native) Outside) :=
  accountAnswered row ++ [.step 0 {}, .step 0 {}]

theorem complete_query_account : ∃ a,
    (after plainRows none false (accountSettled hundred)).accumulators.lookup 1 = some a ∧
      a.complete = true ∧ a.sourceRecordsSha256 = plainRows.digest a.records := by
  have present : ((after plainRows none false (accountSettled hundred)).accumulators.lookup
      1).isSome = true := by decide +kernel
  have whole : ((after plainRows none false (accountSettled hundred)).accumulators.lookup
      1).all Accumulator.complete = true := by decide +kernel
  obtain ⟨a, found⟩ := Option.isSome_iff_exists.mp present
  rw [found] at whole
  exact ⟨a, found, whole, (complete_query plainRows none false _ 1 a found whole).2.1⟩

/-- A number that has more digits than `str` writes. -/
def tooLong : Native := balance (.int (10 ^ 4300))

/-- A complete result of one record, which has no digest. -/
theorem complete_without_digest :
    ((after plainRows none false (accountSettled tooLong)).accumulators.lookup 1).any (fun a =>
      a.complete && decide (a.records.length = 1) &&
        decide (queryRecordsDigest id a.records = .error .tooLong) &&
        a.sourceRecordsSha256.isNone) = true := by
  decide +kernel

end Account

/-- **What any query holds**, complete or not, in every state of every run: the number of its own
that one thread was given; the rows of the first of its packets, no more of them than its limit;
and a place in the history until it is sealed.  The slot is of a query that is known. -/
theorem queries_accounted (rows : Rows ρ δ) (ingress : Option Bool) (isManaged : Bool)
    (events : List (Event Chance Nat Unit (Command ρ) Outside)) :
    let s := after rows ingress isManaged events
    (∀ i a, s.accumulators.lookup i = some a → a.requestId = i ∧ (∃! t, .numbered t i ∈ s.journal) ∧
      (∃ taken, taken <+: s.packetsOf a ∧ a.records = gather rows a.requestType taken) ∧
      (∀ limit, a.recordLimit = some limit → a.records.length ≤ limit) ∧
      (i ∈ s.queryHistory ∨ a.isSealed = true)) ∧
    ∀ x, s.queryNativeInflight = some x →
      ∃ a, s.accumulators.lookup x.1 = some a ∧ a.requestType = x.2.1 := by
  have inv := inv_after rows ingress isManaged events
  refine ⟨fun i a found => ?_, inv.slotted.slot⟩
  have sane := inv.stored.sane i a found
  obtain ⟨taken, later, split, records, -⟩ := sane.taken
  obtain ⟨t, given⟩ := inv.slotted.registered i a found
  exact ⟨inv.stored.key i a found, ⟨t, given, fun u other => inv.numbered.unique u t i other given⟩,
    ⟨taken, ⟨later, split.symm⟩, records⟩, sane.limited, inv.stored.kept i a found⟩

/-! ## Recorded ends -/

/-- The packet that ends an open query is written down. -/
theorem Inv.recorded_handleQueryCallback (inv : Inv rows s) {i : Int} {a : Accumulator ρ δ}
    (found : s.accumulators.lookup i = some a) (stays : a.isOpen = true)
    (current : a.connectionGeneration = s.connectionGeneration) {p : Packet ρ}
    (number : p.requestId = i) (sameType : p.requestType = some a.requestType)
    (terminal : p.isTerminal = true) (kind : p.Answers) (early : Clocks) (now : Int) :
    ∃ a', (s.handleQueryCallback rows p early now).accumulators.lookup i = some a' ∧
      a'.recorded = true := by
  subst number
  have noted := inv.move_noteTerminal (t := none) p
  have found' : (s.noteTerminal p).accumulators.lookup p.requestId = some a := by
    rwa [noteTerminal_accumulators]
  have sane := noted.inv.stored.sane _ a found'
  have listed : p.requestId ∈ (s.noteTerminal p).queryHistory := by
    refine (noted.inv.stored.kept _ a found').resolve_right fun shut => ?_
    rw [(Accumulator.isOpen_iff.mp stays).1] at shut
    cases shut
  have generation : (s.noteTerminal p).connectionGeneration = s.connectionGeneration := by
    unfold Lane.noteTerminal Lane.releaseQuerySlot
    grind [Lane.mark]
  unfold Lane.handleQueryCallback
  rcases takePacket_cases rows (s.noteTerminal p) p early now with
    ⟨absent, -⟩ | ⟨b, whose, ⟨-, -, same⟩ | ⟨unfit, -⟩⟩
  · cases absent.symm.trans found'
  · rw [same]
    refine ⟨_, lookup_modifyAccumulator.mpr ⟨a, found', rfl⟩, ?_⟩
    rw [if_pos rfl, if_pos (current.trans generation.symm)]
    exact sane.recorded_receive stays terminal kind
  · rw [← Option.some.inj (found'.symm.trans whose)] at unfit
    exact absurd ⟨listed, sameType⟩ unfit

/-- **Recorded ends.**  A terminal packet records the end of an open query; from then on the
records and the digest never change, and both clocks and the error only where the journal says
that a disconnect, a failed or refused submit, a missed deadline or giving up was written down. -/
theorem recorded_end_changes_only_marked (rows : Rows ρ δ) (ingress : Option Bool)
    (isManaged : Bool) (events : List (Event Chance Nat Unit (Command ρ) Outside)) (i : Int)
    (a : Accumulator ρ δ)
    (found : (after rows ingress isManaged events).accumulators.lookup i = some a) :
    (∀ (p : Packet ρ) (early : Clocks) (now : Int), a.isOpen = true →
      a.connectionGeneration = (after rows ingress isManaged events).connectionGeneration →
      p.requestId = i → p.requestType = some a.requestType → p.isTerminal = true →
      (p.completionOrigin = .queryResponse ∨ p.completionOrigin = .responseError) →
        ∃ a', ((after rows ingress isManaged events).handleQueryCallback rows p early
          now).accumulators.lookup i = some a' ∧ a'.recorded = true) ∧
    (a.recorded = true → ∀ events', ∃ new a',
      (after rows ingress isManaged (events ++ events')).journal =
        (after rows ingress isManaged events).journal ++ new ∧
      (after rows ingress isManaged (events ++ events')).accumulators.lookup i = some a' ∧
      a'.records = a.records ∧ a'.sourceRecordsSha256 = a.sourceRecordsSha256 ∧
      ((∀ m ∈ new, m.disturbs i = false) → a'.outcome = a.outcome)) := by
  have inv := inv_after rows ingress isManaged events
  refine ⟨fun p early now stays current number sameType terminal kind =>
    inv.recorded_handleQueryCallback found stays current number sameType terminal kind early now,
    fun done events' => ?_⟩
  obtain ⟨new, grown, lasts⟩ := within_after ingress isManaged events events' (sound_queries rows)
    fun _ _ _ => Law.trans
  obtain ⟨a', found', -, records, digest, same⟩ := lasts i a found done
  exact ⟨new, a', grown, found', records, digest, same⟩

/-- The end of the account query that was answered lasts until the query is settled. -/
theorem recorded_end_account : ∃ a,
    (after plainRows none false (accountAnswered hundred)).accumulators.lookup 1 = some a ∧
      a.recorded = true ∧ ∃ new a',
        (after plainRows none false (accountSettled hundred)).journal =
          (after plainRows none false (accountAnswered hundred)).journal ++ new ∧
        (after plainRows none false (accountSettled hundred)).accumulators.lookup 1 =
          some a' ∧ a'.records = a.records ∧ a'.sourceRecordsSha256 = a.sourceRecordsSha256 ∧
        ((∀ m ∈ new, m.disturbs 1 = false) → a'.outcome = a.outcome) := by
  have present : ((after plainRows none false (accountAnswered hundred)).accumulators.lookup
      1).isSome = true := by decide +kernel
  have ended : ((after plainRows none false (accountAnswered hundred)).accumulators.lookup
      1).all Accumulator.recorded = true := by decide +kernel
  obtain ⟨a, found⟩ := Option.isSome_iff_exists.mp present
  rw [found] at ended
  exact ⟨a, found, ended, (recorded_end_changes_only_marked plainRows none false _ 1 a found).2
    ended [.step 0 {}, .step 0 {}]⟩

/-- The front is lost after the answer and before the query is settled: the error and the
completion time of the recorded end are written over. -/
theorem disconnect_rewrites_end :
    ((after plainRows none false (accountAnswered hundred)).accumulators.lookup 1).any
      (fun a => a.recorded && decide (a.errorCode = none) &&
        decide (a.completedAtUtc = some 0)) = true ∧
    ((after plainRows none false (accountAnswered hundred ++
        [.env (.frontDisconnected 9)])).accumulators.lookup 1).any
      (fun a => a.recorded && decide (a.errorCode = some (-2)) &&
        decide (a.completedAtUtc = some 9)) = true := by
  decide +kernel

end BtApiCtp.Query
