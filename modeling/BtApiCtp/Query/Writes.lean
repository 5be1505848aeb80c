/-
# Query.Writes -- what can be said of one accumulator

`Sane`: the records are the rows of the packets taken in, a last packet has fixed the digest,
and so on, given all packets that came for the query.  Packets keep it (`Sane.receive`), and
so does every other write (`Touch`), none of which touches the records.
-/
import BtApiCtp.Query.Accumulator

namespace BtApiCtp.Query

open Session Theory

variable {ρ δ : Type} {origin : CompletionOrigin} {now code : Int}
  {pastDeadline observed isCancelled : Bool} {deadline : Option Int}

/-- The rows of packets, as they are kept. -/
def gather (rows : Rows ρ δ) (requestType : RequestType) (ps : List (Packet ρ)) : List ρ :=
  (ps.filterMap Packet.record).map (rows.snapshot requestType)

/-- A packet of a response, or of an error. -/
def Packet.Answers (p : Packet ρ) : Prop :=
  p.completionOrigin = .queryResponse ∨ p.completionOrigin = .responseError

namespace Accumulator

/-- A packet has ended the query. -/
def recorded (a : Accumulator ρ δ) : Bool :=
  match a.firstCompletionOrigin with
  | .success | .queryResponse | .responseError | .recordLimit => true
  | _ => false

/-- What a recorded end is supposed to fix. -/
def outcome (a : Accumulator ρ δ) :
    List ρ × Option δ × Option Int × Option Int × Option Int × String :=
  (a.records, a.sourceRecordsSha256, a.completedAtUtc, a.completedMonotonic, a.errorCode,
    a.errorMessage)

/-- Nothing has come in yet. -/
def Blank (a : Accumulator ρ δ) : Prop :=
  a = { requestType := a.requestType
        requestId := a.requestId
        connectionGeneration := a.connectionGeneration
        startedMonotonic := a.startedMonotonic
        recordLimit := a.recordLimit }

theorem isOpen_iff {a : Accumulator ρ δ} :
    a.isOpen = true ↔ a.isSealed = false ∧ a.isLastSeen = false ∧ a.failed = false := by
  simp [isOpen, and_assoc]

end Accumulator

open Accumulator

/-- What is true of an accumulator for which these packets came. -/
structure Sane (rows : Rows ρ δ) (ps : List (Packet ρ)) (a : Accumulator ρ δ) : Prop where
  taken : ∃ taken later, ps = taken ++ later ∧ a.records = gather rows a.requestType taken ∧
    (a.isOpen = true → later = []) ∧
    (a.failed = false → ∀ p ∈ taken, errorOf p.rspInfo = none) ∧
    (a.isLastSeen = false → ∀ p ∈ taken, p.isLast = false) ∧
    (a.isLastSeen = true → a.recordLimitExceeded = false →
      ∃ before p, taken = before ++ [p] ∧ p.isLast = true ∧ ∀ q ∈ before, q.isLast = false)
  digest : a.isLastSeen = true → a.recordLimitExceeded = false →
    a.sourceRecordsSha256 = rows.digest a.records
  limited : ∀ limit, a.recordLimit = some limit → a.records.length ≤ limit
  origin : a.isLastSeen = true → a.recordLimitExceeded = false → a.failed = false →
    a.timedOut = false → a.completionOrigin = .success ∨ a.completionOrigin = .responseError
  untouched : a.isOpen = true → a.sourceRecordsSha256 = none ∧ a.completedAtUtc = none ∧
    a.firstCompletionOrigin = .unknown ∧ a.recordLimitExceeded = false
  ended : a.recorded = true → a.event = true ∧ a.completedAtUtc.isSome = true ∧ a.isOpen = false
  signalled : a.isSealed = false → a.event = true ∨ a.isLastSeen = true → a.recorded = true

/-- A write that leaves the packets alone, before it is decided whether it seals. -/
structure Draft (a a' : Accumulator ρ δ) : Prop where
  requestType : a'.requestType = a.requestType
  requestId : a'.requestId = a.requestId
  connectionGeneration : a'.connectionGeneration = a.connectionGeneration
  recordLimit : a'.recordLimit = a.recordLimit
  records : a'.records = a.records
  digest : a'.sourceRecordsSha256 = a.sourceRecordsSha256
  isLastSeen : a'.isLastSeen = a.isLastSeen
  exceeded : a'.recordLimitExceeded = a.recordLimitExceeded
  isSealed : a.isSealed = true → a'.isSealed = true
  failed : a'.failed = false → a.failed = false
  recorded : a'.recorded = a.recorded
  event : a.event = true → a'.event = true
  signal : a'.event = true → a.event = true ∨ a'.isSealed = true
  completed : a.completedAtUtc.isSome = true → a'.completedAtUtc.isSome = true
  result : a'.failed = true ∨ a'.timedOut = true ∨
    (a'.timedOut = a.timedOut ∧ a'.completionOrigin = a.completionOrigin)

/-- A write that leaves the packets alone. -/
structure Touch (a a' : Accumulator ρ δ) : Prop extends Draft a a' where
  stillOpen : a'.isOpen = true → a'.completedAtUtc = a.completedAtUtc ∧
    a'.firstCompletionOrigin = a.firstCompletionOrigin

variable {rows : Rows ρ δ} {ps : List (Packet ρ)} {a a' : Accumulator ρ δ} {p : Packet ρ}
  {clocks : Clocks}

theorem Touch.isOpen (touch : Touch a a') (stays : a'.isOpen = true) : a.isOpen = true := by
  rw [isOpen_iff] at stays ⊢
  refine ⟨?_, touch.isLastSeen ▸ stays.2.1, touch.failed stays.2.2⟩
  by_contra closed
  rw [touch.isSealed (by simpa using closed)] at stays
  exact absurd stays.1 (by simp)

theorem Sane.touch (sane : Sane rows ps a) (touch : Touch a a') : Sane rows ps a' where
  taken := by
    obtain ⟨taken, later, split, records, whole, quiet, notLast, last⟩ := sane.taken
    refine ⟨taken, later, split, ?_, fun stays => whole (touch.isOpen stays),
      fun fine => quiet (touch.failed fine), ?_, ?_⟩
    · rw [touch.records, touch.requestType, records]
    · rwa [touch.isLastSeen]
    · rwa [touch.isLastSeen, touch.exceeded]
  digest := by
    rw [touch.isLastSeen, touch.exceeded, touch.digest, touch.records]
    exact sane.digest
  limited := by
    rw [touch.recordLimit, touch.records]
    exact sane.limited
  origin := by
    intro last within fine onTime
    rw [touch.isLastSeen] at last
    rw [touch.exceeded] at within
    rcases touch.result with failed | late | ⟨sameTime, same⟩
    · rw [fine] at failed
      cases failed
    · rw [onTime] at late
      cases late
    · rw [same]
      exact sane.origin last within (touch.failed fine) (sameTime ▸ onTime)
  untouched := by
    intro stays
    obtain ⟨noDigest, notDone, unknown, within⟩ := sane.untouched (touch.isOpen stays)
    obtain ⟨sameTime, sameOrigin⟩ := touch.stillOpen stays
    exact ⟨touch.digest.trans noDigest, sameTime.trans notDone, sameOrigin.trans unknown,
      touch.exceeded.trans within⟩
  ended := by
    intro done
    rw [touch.recorded] at done
    obtain ⟨event, completed, closed⟩ := sane.ended done
    refine ⟨touch.event event, touch.completed completed, ?_⟩
    by_contra stays
    rw [touch.isOpen (by simpa using stays)] at closed
    cases closed
  signalled := by
    intro unsealed signal
    have unsealed' : a.isSealed = false := by
      by_contra shut
      rw [touch.isSealed (by simpa using shut)] at unsealed
      cases unsealed
    rw [touch.recorded]
    refine sane.signalled unsealed' ?_
    rw [touch.isLastSeen] at signal
    rcases signal with event | last
    · rcases touch.signal event with before | shut
      · exact .inl before
      · rw [unsealed] at shut
        cases shut
    · exact .inr last

/-! ## Writes -/

variable {b : Accumulator ρ δ}

theorem Draft.refl (a : Accumulator ρ δ) : Draft a a where
  requestType := rfl
  requestId := rfl
  connectionGeneration := rfl
  recordLimit := rfl
  records := rfl
  digest := rfl
  isLastSeen := rfl
  exceeded := rfl
  isSealed := id
  failed := id
  recorded := rfl
  event := id
  signal := .inl
  completed := id
  result := .inr (.inr ⟨rfl, rfl⟩)

theorem Draft.trans (first : Draft a b) (second : Draft b a') : Draft a a' where
  requestType := second.requestType.trans first.requestType
  requestId := second.requestId.trans first.requestId
  connectionGeneration := second.connectionGeneration.trans first.connectionGeneration
  recordLimit := second.recordLimit.trans first.recordLimit
  records := second.records.trans first.records
  digest := second.digest.trans first.digest
  isLastSeen := second.isLastSeen.trans first.isLastSeen
  exceeded := second.exceeded.trans first.exceeded
  isSealed shut := second.isSealed (first.isSealed shut)
  failed fine := first.failed (second.failed fine)
  recorded := second.recorded.trans first.recorded
  event fired := second.event (first.event fired)
  signal fired := by
    rcases second.signal fired with between | shut
    · rcases first.signal between with before | shut
      · exact .inl before
      · exact .inr (second.isSealed shut)
    · exact .inr shut
  completed done := second.completed (first.completed done)
  result := by
    rcases second.result with failed | late | ⟨sameTime, sameOrigin⟩
    · exact .inl failed
    · exact .inr (.inl late)
    · rcases first.result with failed | late | ⟨sameTime', sameOrigin'⟩
      · left
        by_contra fine
        rw [second.failed (by simpa using fine)] at failed
        cases failed
      · exact .inr (.inl (sameTime.trans late))
      · exact .inr (.inr ⟨sameTime.trans sameTime', sameOrigin.trans sameOrigin'⟩)

theorem Touch.refl (a : Accumulator ρ δ) : Touch a a := ⟨.refl a, fun _ => ⟨rfl, rfl⟩⟩

/-- Once the clocks are set, sealing completes a write. -/
theorem Draft.close (draft : Draft a a') : Touch a a'.close where
  toDraft := draft.trans { Draft.refl a' with
    isSealed := fun _ => rfl
    event := fun _ => rfl
    signal := fun _ => .inr rfl }
  stillOpen stays := by
    rw [isOpen_iff] at stays
    cases stays.1

theorem draft_completeAt : Draft a (a.completeAt clocks) :=
  { Draft.refl a with completed := fun _ => rfl }

theorem draft_completeAtFirst : Draft a (a.completeAtFirst clocks) := by
  unfold completeAtFirst
  split
  · exact draft_completeAt
  · exact .refl a

/-- Recording an origin of the client's own does not make it look like a packet's. -/
theorem recorded_recordCompletionOrigin
    (own : origin ≠ .success ∧ origin ≠ .queryResponse ∧ origin ≠ .responseError ∧
      origin ≠ .recordLimit) : (a.recordCompletionOrigin origin).recorded = a.recorded := by
  unfold recordCompletionOrigin recorded
  by_cases fresh : a.firstCompletionOrigin = .unknown
  · simp only [fresh, if_true]
    cases origin <;> simp_all
  · simp [fresh]

/-- An outcome of the client's own, with an error code. -/
theorem draft_failed {message : String}
    (own : origin ≠ .success ∧ origin ≠ .queryResponse ∧ origin ≠ .responseError ∧
      origin ≠ .recordLimit) (nonzero : code ≠ 0) :
    Draft a { a.recordCompletionOrigin origin with
      errorCode := some code
      errorMessage := message } :=
  { Draft.refl a with
    failed := by simp [Accumulator.failed, nonzero]
    recorded := recorded_recordCompletionOrigin own
    result := .inl (by simp [Accumulator.failed, nonzero]) }

theorem draft_expired : Draft a (a.expired pastDeadline) :=
  { Draft.refl a with
    recorded := by
      apply recorded_recordCompletionOrigin
      cases pastDeadline <;> simp
    result := .inr (.inl rfl) }

theorem draft_cancelled : Draft a a.cancelled := draft_failed (by simp) (by simp)

theorem touch_late : Touch a a.late := ⟨{ Draft.refl a with }, fun _ => ⟨rfl, rfl⟩⟩

theorem touch_pending : Touch a { a with recordLimitCallbackPending := true } :=
  ⟨{ Draft.refl a with }, fun _ => ⟨rfl, rfl⟩⟩

theorem touch_submitCode {ret : Option Int} : Touch a { a with submitCode := ret } :=
  ⟨{ Draft.refl a with }, fun _ => ⟨rfl, rfl⟩⟩

theorem touch_connectionLost {utc : Int}
    (own : origin = .frontDisconnected ∨ origin = .clientStop) :
    Touch a (a.connectionLost origin utc) := by
  unfold connectionLost
  split
  · exact .refl a
  · have failed : Draft a { a.recordCompletionOrigin origin with
        errorCode := some (-2)
        errorMessage := "connection_lost" } := by
      apply draft_failed _ (by simp)
      rcases own with rfl | rfl <;> simp
    have timed : Draft a { a.recordCompletionOrigin origin with
        errorCode := some (-2)
        errorMessage := "connection_lost"
        completedAtUtc := some utc } := failed.trans { Draft.refl _ with completed := fun _ => rfl }
    exact timed.close

theorem touch_cancelWaiting : Touch a (a.cancelWaiting clocks) :=
  (draft_cancelled.trans draft_completeAt).close

theorem touch_cancelUnsent : Touch a (a.cancelUnsent clocks) := by
  unfold cancelUnsent
  split
  · exact .refl a
  · exact touch_cancelWaiting

theorem touch_markDeadlineExceeded : Touch a (a.markDeadlineExceeded clocks) :=
  (draft_expired.trans draft_completeAtFirst).close

theorem touch_expireWaiting : Touch a (a.expireWaiting pastDeadline clocks) :=
  (draft_expired.trans draft_completeAt).close

theorem touch_submitException {name : String} : Touch a (a.submitException name clocks) :=
  ((draft_failed (by simp) (by simp)).trans draft_completeAt).close

theorem touch_submitRejected (nonzero : code ≠ 0) : Touch a (a.submitRejected code clocks) :=
  ((draft_failed (by simp) nonzero).trans draft_completeAt).close

theorem touch_failLocally {message : String} {unsupported timedOut : Bool}
    (own : origin ≠ .success ∧ origin ≠ .queryResponse ∧ origin ≠ .responseError ∧
      origin ≠ .recordLimit) :
    Touch a (a.failLocally message unsupported timedOut origin clocks) := by
  have nonzero : (if unsupported then -3 else -1 : Int) ≠ 0 := by split <;> simp
  have failed : Draft a { a.recordCompletionOrigin origin with
      errorCode := some (if unsupported then -3 else -1)
      errorMessage := message } := draft_failed own nonzero
  have flagged : Draft a { a.recordCompletionOrigin origin with
      errorCode := some (if unsupported then -3 else -1)
      errorMessage := message
      unsupported
      timedOut } := failed.trans { Draft.refl _ with
    result := .inl (by simp [Accumulator.failed, nonzero]) }
  exact (flagged.trans draft_completeAt).close

/-- The last write of a query. -/
theorem touch_settle : Touch a (a.settle deadline observed isCancelled clocks) := by
  unfold settle
  have first : Draft a (if a.isLate deadline then a.expired true else a) := by
    split
    · exact draft_expired
    · exact .refl a
  generalize (if a.isLate deadline then a.expired true else a) = b at first ⊢
  refine ((first.trans ?_).trans draft_completeAtFirst).close
  split
  · exact .refl b
  · split
    · exact draft_cancelled
    · exact draft_expired

/-! ## Packets -/

/-- A packet that finds the query closed. -/
theorem Sane.later (sane : Sane rows ps a) (closed : a.isOpen = false) : Sane rows (ps ++ [p]) a :=
  { sane with
    taken := by
      obtain ⟨taken, later, split, records, -, rest⟩ := sane.taken
      refine ⟨taken, later ++ [p], by rw [split, List.append_assoc], records, ?_, rest⟩
      intro stays
      rw [closed] at stays
      cases stays }

/-- An open query has taken in all of its packets, and none of them ended it. -/
structure Gathering (rows : Rows ρ δ) (ps : List (Packet ρ)) (a : Accumulator ρ δ) : Prop where
  stillOpen : a.isOpen = true
  quiet : ∀ p ∈ ps, errorOf p.rspInfo = none
  notLast : ∀ p ∈ ps, p.isLast = false
  limited : ∀ limit, a.recordLimit = some limit → a.records.length ≤ limit
  noDigest : a.sourceRecordsSha256 = none
  notDone : a.completedAtUtc = none
  unknown : a.firstCompletionOrigin = .unknown
  within : a.recordLimitExceeded = false
  silent : a.event = false

theorem Sane.gathering (sane : Sane rows ps a) (stays : a.isOpen = true) :
    Gathering rows ps a ∧ a.records = gather rows a.requestType ps := by
  obtain ⟨taken, later, split, records, whole, quiet, notLast, -⟩ := sane.taken
  obtain ⟨noDigest, notDone, unknown, within⟩ := sane.untouched stays
  obtain ⟨-, lastSeen, fine⟩ := isOpen_iff.mp stays
  have same : ps = taken := by rw [split, whole stays, List.append_nil]
  subst same
  have silent : a.event = false := by
    by_contra event
    have recorded := sane.signalled (isOpen_iff.mp stays).1 (.inl (by simpa using event))
    simp [Accumulator.recorded, unknown] at recorded
  exact ⟨⟨stays, quiet fine, notLast lastSeen, sane.limited, noDigest, notDone, unknown, within,
    silent⟩, records⟩

theorem gather_append (rows : Rows ρ δ) (requestType : RequestType) (ps : List (Packet ρ))
    (p : Packet ρ) :
    gather rows requestType (ps ++ [p]) =
      gather rows requestType ps ++ (p.record.map (rows.snapshot requestType)).toList := by
  cases record : p.record <;> simp [gather, List.filterMap_append, record]

theorem conclude_of_not_terminal (notTerminal : p.isTerminal = false) :
    a.conclude rows p clocks = a := by
  have parts : p.isLast = false ∧ errorOf p.rspInfo = none := by
    simpa [Packet.isTerminal] using notTerminal
  simp [conclude, notTerminal, parts]

/-- An error of the packet is an error of the query. -/
theorem filter_errorOf_or (info : Option RspInfo) (previous : Option Int) :
    (((errorOf info).or previous).filter (· ≠ 0)).isSome =
      ((errorOf info).isSome || (previous.filter (· ≠ 0)).isSome) := by
  cases found : errorOf info with
  | none => simp
  | some code =>
    have nonzero : code ≠ 0 := fun zero => errorOf_ne_zero (zero ▸ found)
    simp [nonzero]

theorem recorded_terminalOrigin (kind : p.Answers)
    (origin : a.firstCompletionOrigin = terminalOrigin p) : a.recorded = true := by
  unfold recorded
  rw [origin, terminalOrigin]
  by_cases answered : p.completionOrigin = .queryResponse ∧ errorOf p.rspInfo = none
  · rw [if_pos answered]
  · rw [if_neg answered]
    rcases kind with kind | kind <;> rw [kind]

variable (gathering : Gathering rows ps a)
include gathering

/-- A packet that neither ends the response nor carries an error. -/
theorem Gathering.goOn (fine : errorOf p.rspInfo = none) (notLast : p.isLast = false)
    (records : a.records = gather rows a.requestType (ps ++ [p])) : Sane rows (ps ++ [p]) a := by
  obtain ⟨-, lastSeen, notFailed⟩ := isOpen_iff.mp gathering.stillOpen
  refine ⟨⟨ps ++ [p], [], by simp, records, fun _ => rfl, ?_, ?_, ?_⟩, ?_,
    gathering.limited, ?_, ?_, ?_, ?_⟩
  · intro _ q mem
    rcases mem_snoc.mp mem with earlier | rfl
    · exact gathering.quiet q earlier
    · exact fine
  · intro _ q mem
    rcases mem_snoc.mp mem with earlier | rfl
    · exact gathering.notLast q earlier
    · exact notLast
  iterate 3 · simp [lastSeen]
  · intro _
    exact ⟨gathering.noDigest, gathering.notDone, gathering.unknown, gathering.within⟩
  · intro done
    simp [recorded, gathering.unknown] at done
  · simp [gathering.silent, lastSeen]

/-- What the terminal packet of an open query fixes. -/
theorem Gathering.conclude_eq (clocks : Clocks) (terminal : p.isTerminal = true) :
    a.conclude rows p clocks = { a with
        errorCode := (errorOf p.rspInfo).or a.errorCode
        errorMessage :=
          if (errorOf p.rspInfo).isSome then (rspError p.rspInfo).2 else a.errorMessage
        isLastSeen := p.isLast
        firstCompletionOrigin := terminalOrigin p
        completionOrigin := terminalOrigin p
        completedAtUtc := some clocks.utc
        completedMonotonic := some clocks.monotonic
        sourceRecordsSha256 := rows.digest a.records
        event := true } := by
  obtain ⟨-, lastSeen, -⟩ := isOpen_iff.mp gathering.stillOpen
  simp [conclude, terminal, terminate, recordCompletionOrigin, completeAtFirst, completeAt,
    gathering.noDigest, gathering.notDone, gathering.unknown, lastSeen]

theorem Gathering.failed_conclude (clocks : Clocks) (terminal : p.isTerminal = true) :
    (a.conclude rows p clocks).failed = (errorOf p.rspInfo).isSome := by
  obtain ⟨-, -, fine⟩ := isOpen_iff.mp gathering.stillOpen
  rw [gathering.conclude_eq clocks terminal]
  unfold failed at fine ⊢
  rw [filter_errorOf_or, fine, Bool.or_false]

/-- The packet closes the query. -/
theorem Gathering.terminal_closes (clocks : Clocks)
    (terminal : p.isTerminal = true) : (a.conclude rows p clocks).isOpen = false := by
  have failed := gathering.failed_conclude clocks terminal
  have lastSeen : (a.conclude rows p clocks).isLastSeen = p.isLast := by
    rw [gathering.conclude_eq clocks terminal]
  rw [Packet.isTerminal] at terminal
  simp [isOpen, failed, lastSeen, Bool.or_assoc, terminal]

theorem Gathering.terminate (terminal : p.isTerminal = true) (kind : p.Answers)
    (records : a.records = gather rows a.requestType (ps ++ [p])) :
    Sane rows (ps ++ [p]) (a.conclude rows p clocks) := by
  have closed := gathering.terminal_closes clocks terminal
  have failed := gathering.failed_conclude clocks terminal
  have never : (a.conclude rows p clocks).isOpen ≠ true := by simp [closed]
  have whole := gathering.conclude_eq clocks terminal
  refine ⟨⟨ps ++ [p], [], by simp, ?_, fun _ => rfl, ?_, ?_, ?_⟩, ?_, ?_, ?_, ?_, ?_, ?_⟩
  · rw [whole]
    exact records
  · intro fine q mem
    rcases mem_snoc.mp mem with earlier | rfl
    · exact gathering.quiet q earlier
    · rw [failed] at fine
      simpa using fine
  · intro lastSeen q mem
    rcases List.mem_append.mp mem with earlier | last
    · exact gathering.notLast q earlier
    · rw [whole] at lastSeen
      rw [List.mem_singleton.mp last]
      exact lastSeen
  · intro lastSeen _
    rw [whole] at lastSeen
    exact ⟨ps, p, rfl, lastSeen, gathering.notLast⟩
  · intro _ _
    rw [whole]
  · rw [whole]
    exact gathering.limited
  · intro _ _ fine _
    rw [failed] at fine
    rw [whole]
    have noError : errorOf p.rspInfo = none := by simpa using fine
    rcases kind with kind | kind <;> simp [terminalOrigin, kind, noError]
  · exact fun stays => absurd stays never
  · intro _
    refine ⟨?_, ?_, closed⟩ <;> rw [whole]
    rfl
  · intro _ _
    rw [whole]
    exact recorded_terminalOrigin kind rfl

theorem Gathering.conclude (kind : p.Answers)
    (records : a.records = gather rows a.requestType (ps ++ [p])) :
    Sane rows (ps ++ [p]) (a.conclude rows p clocks) := by
  by_cases terminal : p.isTerminal = true
  · exact gathering.terminate terminal kind records
  · have notTerminal : p.isTerminal = false := by simpa using terminal
    have parts : p.isLast = false ∧ errorOf p.rspInfo = none := by
      simpa [Packet.isTerminal] using notTerminal
    rw [conclude_of_not_terminal notTerminal]
    exact gathering.goOn parts.2 parts.1 records

/-- A row that still fits. -/
theorem Gathering.append (notFull : a.isFull = false)
    (record : ρ) : Gathering rows ps (a.append rows record) :=
  { gathering with
    limited := by
      intro limit same
      have below : a.records.length < limit := by
        simpa [isFull, show a.recordLimit = some limit from same] using notFull
      have grown : (a.append rows record).records.length = a.records.length + 1 := by
        simp [Accumulator.append]
      omega }

/-- The row that does not fit any more. -/
theorem Gathering.exceed (records : a.records = gather rows a.requestType ps) :
    Sane rows (ps ++ [p]) (a.exceed rows p clocks) := by
  obtain ⟨-, -, fine⟩ := isOpen_iff.mp gathering.stillOpen
  have never : (a.exceed rows p clocks).isOpen ≠ true := by
    simp [isOpen, Accumulator.exceed, close]
  have beyond : (a.exceed rows p clocks).recordLimitExceeded ≠ false := by
    simp [Accumulator.exceed, close, completeAt, recordCompletionOrigin]
  refine ⟨⟨ps, [p], rfl, records, fun stays => absurd stays never,
    fun _ => gathering.quiet, fun _ => gathering.notLast, fun _ within => absurd within beyond⟩,
    fun _ within => absurd within beyond, gathering.limited,
    fun _ within _ _ => absurd within beyond, fun stays => absurd stays never, ?_, nofun⟩
  intro _
  exact ⟨rfl, rfl, by simpa using never⟩

omit gathering

/-- A packet of the query keeps what is known of it. -/
theorem Sane.receive (sane : Sane rows ps a) (kind : p.Answers) :
    Sane rows (ps ++ [p]) (a.receive rows p clocks now) := by
  unfold Accumulator.receive
  split
  · rename_i closed
    exact (sane.later closed).touch touch_late
  · rename_i notClosed
    have stays : a.isOpen = true := by simpa using notClosed
    obtain ⟨gathering, records⟩ := sane.gathering stays
    have seen : Gathering rows ps { a with lastCallbackMonotonic := some now } :=
      { gathering with }
    have sum := gather_append rows a.requestType ps p
    dsimp only
    split
    · rename_i noRecord
      refine seen.conclude kind ?_
      rw [noRecord] at sum
      simpa [sum] using records
    · rename_i record found
      rw [found] at sum
      split
      · exact seen.exceed records
      · rename_i notFull
        refine (seen.append (by simpa using notFull) record).conclude kind ?_
        simp [append, sum, records]

/-! ## What no write changes -/

/-- What stays as it is from the first moment on. -/
structure Keeps (a a' : Accumulator ρ δ) : Prop where
  requestType : a'.requestType = a.requestType
  requestId : a'.requestId = a.requestId
  connectionGeneration : a'.connectionGeneration = a.connectionGeneration
  isSealed : a.isSealed = true → a'.isSealed = true
  recorded : a.recorded = true → a'.recorded = true

theorem Keeps.refl (a : Accumulator ρ δ) : Keeps a a := ⟨rfl, rfl, rfl, id, id⟩

theorem Keeps.trans (first : Keeps a b) (second : Keeps b a') : Keeps a a' :=
  ⟨second.requestType.trans first.requestType, second.requestId.trans first.requestId,
    second.connectionGeneration.trans first.connectionGeneration,
    fun shut => second.isSealed (first.isSealed shut),
    fun done => second.recorded (first.recorded done)⟩

theorem Draft.keeps (draft : Draft a a') : Keeps a a' :=
  ⟨draft.requestType, draft.requestId, draft.connectionGeneration, draft.isSealed,
    fun done => draft.recorded.trans done⟩

/-- The first origin is never written over. -/
theorem keeps_recordCompletionOrigin : Keeps a (a.recordCompletionOrigin origin) := by
  refine ⟨rfl, rfl, rfl, id, fun done => ?_⟩
  have known : a.firstCompletionOrigin ≠ .unknown := by
    intro unknown
    simp [Accumulator.recorded, unknown] at done
  simpa [Accumulator.recorded, recordCompletionOrigin, known] using done

theorem keeps_terminate : Keeps a (a.terminate rows p clocks) := by
  have completed : Draft (a.recordCompletionOrigin (terminalOrigin p))
      ((a.recordCompletionOrigin (terminalOrigin p)).completeAtFirst clocks) :=
    draft_completeAtFirst
  refine keeps_recordCompletionOrigin.trans (completed.keeps.trans ?_)
  exact ⟨rfl, rfl, rfl, id, id⟩

theorem keeps_conclude : Keeps a (a.conclude rows p clocks) := by
  unfold conclude
  dsimp only
  split
  · refine .trans ?_ keeps_terminate
    exact ⟨rfl, rfl, rfl, id, id⟩
  · exact ⟨rfl, rfl, rfl, id, id⟩

theorem keeps_receive : Keeps a (a.receive rows p clocks now) := by
  unfold Accumulator.receive
  split
  · exact touch_late.keeps
  · dsimp only
    split
    · refine .trans ?_ keeps_conclude
      exact ⟨rfl, rfl, rfl, id, id⟩
    · split
      · have origin := (keeps_recordCompletionOrigin : Keeps a (a.recordCompletionOrigin .recordLimit))
        exact ⟨rfl, rfl, rfl, fun _ => rfl, origin.recorded⟩
      · refine .trans ?_ keeps_conclude
        exact ⟨rfl, rfl, rfl, id, id⟩

/-- An end that is recorded stays, with what it fixed. -/
def Lasts (a a' : Accumulator ρ δ) : Prop :=
  a.recorded = true → a'.recorded = true ∧ a'.outcome = a.outcome

/-- A packet does nothing to a query that has ended. -/
theorem Sane.lasts_receive (sane : Sane rows ps a) : Lasts a (a.receive rows p clocks now) := by
  intro done
  have closed := (sane.ended done).2.2
  rw [Accumulator.receive, if_pos closed]
  exact ⟨done, rfl⟩

/-- The event is set, so nothing is written any more, except for a late end. -/
theorem Sane.lasts_settle (sane : Sane rows ps a) (onTime : a.isLate deadline = false) :
    Lasts a (a.settle deadline observed isCancelled clocks) := by
  intro done
  obtain ⟨event, completed, -⟩ := sane.ended done
  have present : a.completedAtUtc ≠ none := by
    intro absent
    simp [absent] at completed
  have same : a.settle deadline observed isCancelled clocks = a.close := by
    simp [settle, onTime, terminalObserved, event, completeAtFirst, present]
  rw [same]
  exact ⟨done, rfl⟩

theorem Sane.lasts_cancelUnsent (sane : Sane rows ps a) : Lasts a (a.cancelUnsent clocks) := by
  intro done
  have event := (sane.ended done).1
  rw [cancelUnsent, if_pos (by simp [event])]
  exact ⟨done, rfl⟩

/-- **The terminal packet of an open query records its end.** -/
theorem Sane.recorded_receive (sane : Sane rows ps a) (stays : a.isOpen = true)
    (terminal : p.isTerminal = true) (kind : p.Answers) :
    (a.receive rows p clocks now).recorded = true := by
  obtain ⟨gathering, -⟩ := sane.gathering stays
  have concluded : ∀ b : Accumulator ρ δ, Gathering rows ps b →
      (b.conclude rows p clocks).recorded = true := by
    intro b gathers
    rw [gathers.conclude_eq clocks terminal]
    exact recorded_terminalOrigin kind rfl
  rw [Accumulator.receive, if_neg (by simp [stays])]
  dsimp only
  split
  · exact concluded _ { gathering with }
  · split
    · simp [Accumulator.exceed, recorded, recordCompletionOrigin, completeAt, close,
        gathering.unknown]
    · rename_i record _ notFull
      have seen : Gathering rows ps { a with lastCallbackMonotonic := some now } :=
        { gathering with }
      exact concluded _ (seen.append (by simpa using notFull) record)

end BtApiCtp.Query
