/-
# Collector.Finalize -- the report is that of the files

Once the subscriber is closed the books stand (`Closing`).  `finalize` then joins the
compaction thread, compacts what is left, lists the day's final files and writes
`report.json`.  While it does, a file of the day that another thread replaces is noted
(`Undisturbed`), so what was listed stays true unless there was an intrusion (`Holding`).
-/
import BtApiCtp.Collector.Flush

namespace BtApiCtp.Collector.Runtime

open Theory

variable {exchange : ExchangeId} {instrument : InstrumentId} {s : Depot}

/-! ## Closed books -/

/-- The subscriber is closed: every accepted tick is persisted, among the `dropped`, or
outside every session, and `day` is the day of the staged rows if there is only one. -/
structure Closing (merging : Prop) (day : Day) (dropped : Nat) (held : Row → Prop) (p : Proc) :
    Prop where
  isClosed : p.closed = true
  ledger : merging → Counted p → ∃ persisted lost outside,
    p.accepted.Perm (persisted ++ lost ++ outside) ∧ (∀ tick ∈ persisted, held (toRow tick)) ∧
    dropped = p.refused + lost.length ∧ p.ticksOutsideSession = outside.length
  days : OneDay p → ∀ day' ∈ p.stagedDays, day' = day
  named : ∀ day' ∈ p.stagedDays, day' ≠ ""

/-- The compaction thread has ended. -/
def Ended : RunAssertion := fun _ p => p.compactThread.isAlive = false

section Closed

variable {merging : Prop} {day : Day} {dropped : Nat} {held : Row → Prop} {p : Proc}

theorem Closing.steady : Steady merging (Closing merging day dropped) := by
  intro held held' p p' beside kept here
  refine ⟨beside.closed.trans here.isClosed, fun on counted => ?_, fun oneDay => ?_, ?_⟩
  · obtain ⟨persisted, lost, outside, all, durable, drops, outsides⟩ :=
      here.ledger on (beside.counted counted)
    rcases beside.silent (.inr here.isClosed) with late | ⟨accepted, _, refused⟩
    · exact absurd (counted _ late) id
    · refine ⟨persisted, lost, outside, accepted ▸ all, fun tick mem => kept on _ (durable tick mem),
        refused ▸ drops, beside.ticksOutsideSession.trans outsides⟩
  · rw [beside.stagedDays]
    exact here.days (beside.oneDay oneDay)
  · rw [beside.stagedDays]
    exact here.named

theorem Ended.steady : Steady merging Ended := by
  intro _ _ p p' beside _ here
  rw [Ended, beside.compactThread here]
  exact here

/-- After the last flush. -/
theorem Running.closing (running : Running merging true [] held p) (emptied : Emptied p) :
    Closing merging p.tradingDay p.buffer.dropped held p := by
  refine ⟨running.isClosed, fun on counted => ?_, fun oneDay day mem => ?_, running.days.1⟩
  · obtain ⟨persisted, lost, outside, all, durable, drops, outsides⟩ := running.ledger on counted
    rw [emptied running.isClosed counted, List.append_nil, List.append_nil] at all
    exact ⟨persisted, lost, outside, all, durable, drops, outsides⟩
  · exact (running.days.2 oneDay day mem).symm

/-- More faults leave less to show. -/
theorem Closing.noted {more : List Fault} (closing : Closing merging day dropped held p) :
    Closing merging day dropped held { p with faults := p.faults ++ more } :=
  ⟨closing.isClosed,
    fun on counted => closing.ledger on fun fault mem => counted fault (List.mem_append_left _ mem),
    fun oneDay => closing.days
      ⟨fun fault mem => oneDay.1 fault (List.mem_append_left _ mem), oneDay.2⟩,
    closing.named⟩

theorem staged_or_final {row : Row} (kept : Kept s row) (clean : s.bad = ∅) :
    Staged s row ∨ Final s row := by
  rcases kept with staged | ⟨path, rows, inBad, _⟩ | final
  · exact .inl staged
  · rw [clean] at inBad
    cases inBad
  · exact .inr final

theorem Closing.accounted {run : RunId} {report : SinkReport} (on : merging)
    (closing : At run (Closing merging day dropped) s) (counted : Counted (s.proc run))
    (clean : s.bad = ∅) (drops : report.droppedTicks = dropped)
    (outsides : (s.proc run).ticksOutsideSession = report.ticksOutsideSession) :
    Accounted s run report := by
  obtain ⟨persisted, lost, outside, all, durable, lostHere, outsideHere⟩ := closing.ledger on counted
  exact ⟨persisted, lost, outside, all, fun tick mem => staged_or_final (durable tick mem) clean,
    drops.trans lostHere, outsides.symm.trans outsideHere⟩

end Closed

/-! ## Compacting what is left -/

section Leftovers

variable {merging : Prop} {run : RunId} {F : Depot → Prop} {s : Depot} {mergeExisting : Bool}
  {day : Day} {dropped : Nat} {E : Failure → Depot → Prop}

theorem safe_awaitCompaction (pre : At run (Closing merging day dropped) s) :
    SafeAt merging (run, .main)
      (fun _ => At run fun held p => Closing merging day dropped held p ∧ Ended held p)
      (fun _ _ => True) (awaitCompaction run) s := by
  refine .await _ pre (fun s' => Closing.steady.stable s s') fun c s' here inv ready => ?_
  have ended : (s'.proc run).compactThread.isAlive = false := by simpa using ready
  split
  · have still := good_still (run, .main) inv
    exact ⟨still.1, still.2, nofun, fun _ _ => trivial⟩
  · have good := good_update (run, .main) inv (f := fun p => { p with compactThread := .none })
      rfl (Nat.le_refl _) (fun role ne => by
        cases role with
        | main => exact absurd rfl ne
        | worker => exact fun alive => absurd (ended.symm.trans alive) nofun)
      (fun report none some => absurd (none.symm.trans some) nofun) (fun _ => rfl)
    refine ⟨good.1, good.2, fun _ _ => ?_, nofun⟩
    unfold At
    rw [Depot.proc_update_self]
    exact ⟨{ here with }, rfl⟩

theorem safe_standstill {P : Depot → Prop} {Q : Unit → Depot → Prop}
    (stable : Stable merging (run, .main) P) (pre : P s) :
    SafeAt merging (run, .main) Q E (Prog.await (fun _ => false) fun _ s => (.ok (), s)) s :=
  .await P pre (fun s' => stable s s') fun _ _ _ _ ready => absurd ready nofun

theorem safe_drainPending (framed : Framed merging (run, .main) F)
    (merges : merging → mergeExisting = true) (rounds : Nat) (pre : F s) :
    SafeAt merging (run, .main) (fun _ => F) E (drainPending mergeExisting run rounds) s := by
  induction rounds generalizing s with
  | zero => exact safe_standstill framed.stable pre
  | succ rounds ih =>
    refine .bind (Q := fun _ => F) (fun batch s₁ taken => ?_) ?_
    · split
      · exact taken
      · refine .bind (fun compacted s₂ done => ?_) (safe_compactBatch framed merges batch taken)
        exact .when (fun _ => ih done) fun _ => done
    · refine safe_atomic framed.stable pre fun c s' here inv => ?_
      have internal : Internal fun p => { p with segments := [] } := fun p =>
        ⟨[], p.compactions, p.compactionFailures, p.lastCompactionError, rfl⟩
      obtain ⟨good, tidy⟩ := good_internal (run, .main) inv internal
      exact ⟨good, fun _ _ => framed.tidy s' _ tidy here, nofun⟩

theorem safe_recoverDeadStaging (framed : Framed merging (run, .main) F)
    (merges : merging → mergeExisting = true) (pre : F s) :
    SafeAt merging (run, .main) (fun _ => F) (fun _ _ => True)
      (recoverDeadStaging mergeExisting run) s := by
  refine .bind (fun pending s₁ seen => ?_) (safe_observe framed.stable pre)
  refine .bind (fun directories s₂ listed => ?_)
    (safe_read framed.stable seen.1 fun _ _ _ => trivial)
  refine .forEach (fun _ => F) (fun directory _ s here => ?_) (fun _ here => here) listed.1
  refine .bind (Q := fun _ => F) (fun segments s₃ found => ?_) ?_
  · refine .bind (fun compacted s₄ done => ?_) (safe_compactBatch framed merges segments found)
    exact done
  · refine safe_atomic framed.stable here fun c s' here inv => ?_
    split
    · exact ⟨good_still (run, .main) inv, fun _ _ => here, nofun⟩
    · split
      · exact ⟨good_still (run, .main) inv, nofun, fun _ _ => trivial⟩
      · exact ⟨good_still (run, .main) inv, fun _ _ => here, nofun⟩

end Leftovers

/-! ## Listing a day -/

/-- An assertion about the files of one day. -/
def OfDay (day : Day) (J : Depot → Prop) : Prop :=
  ∀ s s', (∀ key, key.1 = day → s'.finals.lookup key = s.finals.lookup key) →
    s'.reports.lookup day = s.reports.lookup day → J s → J s'

/-- The day is being finalized, and `J` holds of its files if nobody intruded. -/
def Holding (run : RunId) (day : Day) (J : Depot → Prop) (s : Depot) : Prop :=
  (s.proc run).finalizing = some day ∧ (OneDay (s.proc run) → J s)

/-- The lines say what the files have, and every file with rows has its line or is to come. -/
def Lines (day : Day) (toCome : ExchangeId → InstrumentId → Prop) (lines : List InstrumentReport)
    (s : Depot) : Prop :=
  (∀ line ∈ lines, line.rows ≠ 0 ∧
    (s.rows (day, line.exchangeId, line.instrumentId)).length = line.rows) ∧
  ∀ exchange instrument, s.rows (day, exchange, instrument) ≠ [] → toCome exchange instrument ∨
    ⟨exchange, instrument, (s.rows (day, exchange, instrument)).length⟩ ∈ lines

section Listing

variable {merging : Prop} {run : RunId} {s : Depot} {day : Day} {J J' : Depot → Prop}
  {lines : List InstrumentReport} {toCome : ExchangeId → InstrumentId → Prop}

theorem Holding.stable (ofDay : OfDay day J) : Stable merging (run, .main) (Holding run day J) := by
  intro s s' rely here
  have own : BesideMain (s.proc run) (s'.proc run) := rely.own
  refine ⟨own.finalizing.trans here.1, fun oneDay => ?_⟩
  rcases rely.undisturbed rfl day here.1 with intruded | ⟨finals, report⟩
  · exact absurd (oneDay.1 _ intruded) id
  · exact ofDay s s' finals report (here.2 (own.oneDay oneDay))

theorem Holding.imp (implies : J s → J' s) (here : Holding run day J s) : Holding run day J' s :=
  ⟨here.1, fun oneDay => implies (here.2 oneDay)⟩

theorem Lines.ofDay : OfDay day (Lines day toCome lines) := by
  intro s s' finals _ here
  refine ⟨fun line mem => ?_, fun exchange instrument => ?_⟩
  · rw [Depot.rows, finals _ rfl]
    exact here.1 line mem
  · rw [Depot.rows, finals _ rfl]
    exact here.2 exchange instrument

/-- A file's line is added; an empty file has none. -/
theorem Lines.report {toCome' : ExchangeId → InstrumentId → Prop}
    (here : Lines day toCome lines s)
    (rest : ∀ e i, toCome e i → toCome' e i ∨ (e = exchange ∧ i = instrument)) :
    Lines day toCome' (if s.rows (day, exchange, instrument) = [] then lines
        else lines ++ [⟨exchange, instrument, (s.rows (day, exchange, instrument)).length⟩]) s := by
  split
  · rename_i empty
    refine ⟨here.1, fun e i nonempty => ?_⟩
    rcases here.2 e i nonempty with coming | listed
    · rcases rest e i coming with later | ⟨rfl, rfl⟩
      · exact .inl later
      · exact absurd empty nonempty
    · exact .inr listed
  · rename_i nonempty
    refine ⟨fun line mem => ?_, fun e i some => ?_⟩
    · rcases mem_snoc.mp mem with old | rfl
      · exact here.1 line old
      · exact ⟨fun none => nonempty (List.length_eq_zero_iff.mp none), rfl⟩
    · rcases here.2 e i some with coming | listed
      · rcases rest e i coming with later | ⟨rfl, rfl⟩
        · exact .inl later
        · exact .inr (List.mem_append_right _ List.mem_cons_self)
      · exact .inr (List.mem_append_left _ listed)

theorem Lines.matches (here : Lines day (fun _ _ => False) lines s) : Matches s day lines := by
  intro exchange instrument count
  constructor
  · exact fun mem => here.1 _ mem
  · rintro ⟨nonzero, rfl⟩
    have some : s.rows (day, exchange, instrument) ≠ [] := fun empty => nonzero (by rw [empty]; rfl)
    exact (here.2 exchange instrument some).resolve_left id

theorem mem_items_of_rows {key : FinalKey} (some : s.rows key ≠ []) :
    (key, s.rows key) ∈ s.finals.items := by
  rw [Dict.mem_items]
  cases found : s.finals.lookup key with
  | none =>
    rw [Depot.rows, found] at some
    exact absurd rfl some
  | some rows => rw [Depot.rows, found, Option.getD_some]

theorem mem_dayExchanges (some : s.rows (day, exchange, instrument) ≠ []) :
    exchange ∈ dayExchanges s day := by
  rw [dayExchanges, List.mem_insertionSort, List.mem_dedup, List.mem_map]
  exact ⟨_, List.mem_filter.mpr ⟨mem_items_of_rows some, by simp⟩, rfl⟩

theorem mem_exchangeInstruments (some : s.rows (day, exchange, instrument) ≠ []) :
    instrument ∈ exchangeInstruments s day exchange := by
  rw [exchangeInstruments, List.mem_insertionSort, List.mem_map]
  exact ⟨_, List.mem_filter.mpr ⟨mem_items_of_rows some, by simp⟩, rfl⟩

end Listing

/-! ## The report -/

/-- What a run carries while it finalizes `day`: its books, and the files of the day. -/
def Listed (run : RunId) (day : Day) (P : RunAssertion) (J : Depot → Prop) (s : Depot) : Prop :=
  At run P s ∧ Holding run day J s

/-- The snapshots that the sink has counted. -/
def Outside (count : Nat) : RunAssertion := fun _ p => p.ticksOutsideSession = count

/-- The day has a report, and it says what the files have. -/
def Published (day : Day) (s : Depot) : Prop :=
  ∃ report, s.reports.lookup day = some report ∧ Lines day (fun _ _ => False) report.instruments s

section Reports

variable {merging : Prop} {run : RunId} {s : Depot} {day : Day} {dropped : Nat} {P : RunAssertion}
  {J J' : Depot → Prop} {lines : List InstrumentReport}
  {toCome toCome' : ExchangeId → InstrumentId → Prop} {exchange : ExchangeId}

theorem Listed.stable (steady : Steady merging P) (ofDay : OfDay day J) :
    Stable merging (run, .main) (Listed run day P J) :=
  fun s s' rely here =>
    ⟨steady.stable s s' rely here.1, Holding.stable ofDay s s' rely here.2⟩

theorem Listed.imp (implies : J s → J' s) (here : Listed run day P J s) : Listed run day P J' s :=
  ⟨here.1, here.2.imp implies⟩

theorem Outside.steady {count : Nat} : Steady merging (Outside count) :=
  fun _ _ _ _ beside _ here => beside.ticksOutsideSession.trans here

theorem Published.ofDay : OfDay day (Published day) := by
  rintro s s' finals reports ⟨report, found, here⟩
  exact ⟨report, reports.trans found, Lines.ofDay s s' finals reports here⟩

theorem Lines.imp (here : Lines day toCome lines s)
    (implies : ∀ e i, s.rows (day, e, i) ≠ [] → toCome e i → toCome' e i) :
    Lines day toCome' lines s :=
  ⟨here.1, fun e i some => (here.2 e i some).imp_left (implies e i some)⟩

theorem safe_reportExchange (steady : Steady merging P) {rest : List ExchangeId}
    (pre : Listed run day P (Lines day (fun e _ => e ∈ exchange :: rest) lines) s) :
    SafeAt merging (run, .main)
      (fun lines => Listed run day P (Lines day (fun e _ => e ∈ rest) lines))
      (fun _ _ => True) (reportExchange day lines exchange) s := by
  refine .bind (fun instruments s₁ read => ?_)
    (safe_read (Listed.stable steady Lines.ofDay) pre fun _ _ _ => trivial)
  obtain ⟨here, rfl⟩ := read
  refine .loop (fun instruments lines =>
    Listed run day P (Lines day (fun e i => e ∈ rest ∨ (e = exchange ∧ i ∈ instruments)) lines))
    (fun instrument instruments lines s here => ?_) (fun lines s here => ?_) ?_
  · refine .bind (fun rows s₁ read => ?_)
      (safe_read (Listed.stable steady Lines.ofDay) here fun _ _ _ => trivial)
    obtain ⟨here, rfl⟩ := read
    refine here.imp fun lines => lines.report fun e i coming => ?_
    rcases coming with later | ⟨same, mem⟩
    · exact .inl (.inl later)
    · rcases List.mem_cons.mp mem with isThis | others
      · exact .inr ⟨same, isThis⟩
      · exact .inl (.inr ⟨same, others⟩)
  · refine here.imp fun lines => lines.imp fun e i _ coming => ?_
    rcases coming with later | ⟨_, mem⟩
    · exact later
    · cases mem
  · refine here.imp fun lines => lines.imp fun e i some coming => ?_
    rcases List.mem_cons.mp coming with same | later
    · subst same
      exact .inr ⟨rfl, mem_exchangeInstruments some⟩
    · exact .inl later

/-- The day is claimed in the step that lists its exchanges. -/
theorem safe_listExchanges
    (pre : At run (fun held p => Closing merging day dropped held p ∧ Ended held p) s) :
    SafeAt merging (run, .main) (fun exchanges => Listed run day (Closing merging day dropped)
        (Lines day (fun e _ => e ∈ exchanges) []))
      (fun _ _ => True)
      (fallible fun s =>
        (.ok (dayExchanges s day), s.update run fun p => { p with finalizing := some day })) s := by
  refine safe_fallible (Closing.steady.and Ended.steady).stable pre (fun _ _ _ => trivial)
    fun s' here inv => ?_
  have good := good_update (run, .main) inv (f := fun p => { p with finalizing := some day })
    rfl (Nat.le_refl _) (fun role ne => by
      cases role with
      | main => exact absurd rfl ne
      | worker => exact fun alive => alive)
    (fun report none some => absurd (none.symm.trans some) nofun) (fun _ => here.2)
  refine ⟨good, fun exchanges listed => ?_, nofun⟩
  cases listed
  refine ⟨?_, ?_, fun _ => ⟨nofun, fun e i some => .inl (mem_dayExchanges some)⟩⟩
  · unfold At
    rw [Depot.proc_update_self]
    exact { here.1 with }
  · rw [Depot.proc_update_self]

/-- The report replaces an earlier one of the day. -/
theorem safe_writeReport (steady : Steady merging P) {report : SinkReport}
    (pre : Listed run day P (Lines day (fun _ _ => False) report.instruments) s) :
    SafeAt merging (run, .main) (fun _ => Listed run day P (Published day)) (fun _ _ => True)
      (fallible fun s =>
        (.ok (), { s with reports := s.reports.insert day report }.disturb run day)) s := by
  refine safe_fallible (Listed.stable steady Lines.ofDay) pre (fun _ _ _ => trivial)
    fun s' here inv => ?_
  have good := good_report inv run day report
  refine ⟨good, fun _ _ => ?_, nofun⟩
  have own : ({ s' with reports := s'.reports.insert day report }.disturb run day).proc run =
      s'.proc run := by
    rw [Depot.proc_disturb, if_neg fun both => both.1 rfl]
    rfl
  refine ⟨?_, by rw [own]; exact here.2.1, fun oneDay => ?_⟩
  · unfold At
    rw [own]
    obtain ⟨other, ne⟩ := exists_other (run, .main)
    exact steady _ _ _ _ (BesideMain.refl _) (good.2.1 other ne).kept here.1
  · rw [own] at oneDay
    exact ⟨report, AList.lookup_insert _, here.2.2 oneDay⟩

theorem safe_finalize {mergeExisting : Bool} (merges : merging → mergeExisting = true)
    (rounds : Nat) (pre : At run (Closing merging day dropped) s) :
    SafeAt merging (run, .main) (fun report s => report.droppedTicks = dropped ∧
        Listed run day (fun held p => Closing merging day dropped held p ∧
          Outside report.ticksOutsideSession held p) (Published day) s)
      (fun _ _ => True) (finalize mergeExisting run rounds day dropped) s := by
  have framed : Framed merging (run, .main) (At run fun held p =>
      Closing merging day dropped held p ∧ Ended held p) :=
    (Closing.steady.and Ended.steady).framed
  refine .bind (fun _ s₁ joined => ?_) (safe_awaitCompaction pre)
  refine .bind (fun _ s₂ drained => ?_) (safe_drainPending framed merges rounds joined)
  refine .bind (fun _ s₃ recovered => ?_) (safe_recoverDeadStaging framed merges drained)
  refine .bind (fun exchanges s₄ listed => ?_) (safe_listExchanges recovered)
  refine .bind (Q := fun lines => Listed run day (Closing merging day dropped)
    (Lines day (fun _ _ => False) lines)) (fun lines s₅ read => ?_) ?_
  · refine .bind (fun report s₆ made => ?_)
      (safe_observe (Listed.stable Closing.steady Lines.ofDay) read)
    obtain ⟨here, rfl⟩ := made
    have carried : Listed run day (fun held p => Closing merging day dropped held p ∧
        Outside (s₆.proc run).ticksOutsideSession held p) (Lines day (fun _ _ => False) lines) s₆ :=
      ⟨⟨here.1, rfl⟩, here.2⟩
    refine .bind (fun _ s₇ written => ?_)
      (safe_writeReport (Closing.steady.and Outside.steady) carried)
    exact ⟨rfl, written⟩
  · exact .loop (fun rest lines => Listed run day (Closing merging day dropped)
      (Lines day (fun e _ => e ∈ rest) lines))
      (fun exchange rest lines s here => safe_reportExchange Closing.steady here)
      (fun lines s here => here.imp fun lines => lines.imp fun _ _ _ mem => nomatch mem) listed

end Reports
end BtApiCtp.Collector.Runtime
