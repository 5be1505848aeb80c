/-
# Collector.Flush -- a flush persists its batch, or hands it back

`sink.write` stages the in-session ticks of a batch, one segment per trading day, and counts
the others.  `_flush` moves the batch from the buffer to the sink; when the write raises, it
goes back to the buffer tick by tick, and the fault says what the failed write had already
counted and staged.
-/
import BtApiCtp.Collector.Window
import BtApiCtp.Theory.Fallible
import BtApiCtp.Theory.Journal

namespace BtApiCtp.Collector.Runtime

open Theory

variable {day : Day} {seq : Nat} {ticks rest : List TickRecord} {held : Row → Prop} {p : Proc}

/-! ## One segment -/

section Segments

variable {merging : Prop} {run : RunId} {s : Depot}

theorem finalKey_toRow (tick : TickRecord) : (finalKey (toRow tick)).isSome := rfl

/-- A segment under a fresh number. -/
theorem good_stage (inv : Inv merging s) (day : Day) (rows : List Row)
    (fresh : (run, seq) ∉ s.spent) (numbered : seq < (s.proc run).segmentSeq)
    (keyed : ∀ row ∈ rows, (finalKey row).isSome) :
    Good merging (run, .main) s (s.stage run seq day rows) := by
  have proc : ∀ run', (s.stage run seq day rows).proc run' =
      if run' = run then { s.proc run with stagedDays := (s.proc run).stagedDays ++ [day] }
      else s.proc run' := fun run' => Depot.proc_update _ run run' _
  have ne_of_spent : ∀ path ∈ s.spent, path ≠ (run, seq) := by
    rintro path mem rfl
    exact fresh mem
  have staging : ∀ path, (s.stage run seq day rows).staging.lookup path =
      if path = (run, seq) then some rows else s.staging.lookup path :=
    fun path => Dict.lookup_insert_eq s.staging (run, seq) path rows
  have still : ∀ path ∈ s.spent, (s.stage run seq day rows).staging.lookup path =
      s.staging.lookup path := by
    intro path mem
    rw [staging, if_neg (ne_of_spent path mem)]
  have kept : ∀ row, Kept s row → Kept (s.stage run seq day rows) row := by
    rintro row (⟨path, rows', found, mem⟩ | quarantined | final)
    · exact .inl ⟨path, rows', (still path (inv.spent path rows' found)).trans found, mem⟩
    · exact .inr (.inl quarantined)
    · exact .inr (.inr final)
  refine ⟨⟨?_, ?_, ?_, ?_, ?_, ?_, ?_⟩, fun other ne => ⟨?_, ?_, ?_, fun _ => kept,
    fun _ _ _ held => held, fun _ held => ⟨held, rfl⟩, ?_, fun _ _ _ => .inr ⟨fun _ _ => rfl, rfl⟩⟩, ?_,
    fun _ _ _ held => held, ?_⟩
  · intro path mem
    rw [proc]
    rcases List.mem_cons.mp mem with rfl | old
    · rw [if_pos rfl]
      exact numbered
    · have below := inv.numbered path old
      split
      · rename_i same
        rwa [same] at below
      · exact below
  · intro path rows' found
    rw [staging] at found
    split at found
    · rename_i same
      rw [same]
      exact List.mem_cons_self
    · exact List.mem_cons_of_mem _ (inv.spent path rows' found)
  · intro path rows' found
    rw [staging] at found
    split at found
    · cases found
      exact keyed
    · exact inv.keyed path rows' found
  · intro path rows' inBad
    obtain ⟨mem, unstaged⟩ := inv.apart path rows' inBad
    exact ⟨List.mem_cons_of_mem _ mem, (still path mem).trans unstaged⟩
  · intro on row mem
    rcases List.mem_append.mp mem with old | new
    · exact kept row (inv.kept on row old)
    · exact .inl ⟨(run, seq), rows, by rw [staging, if_pos rfl], new⟩
  · intro run'
    rw [proc]
    split
    · exact inv.finalizing run
    · exact inv.finalizing run'
  · intro on run'
    rw [proc]
    split
    · exact inv.merges on run
    · exact inv.merges on run'
  · exact fun path mem => List.mem_cons_of_mem _ mem
  · intro isMain seq' mem
    rcases List.mem_cons.mp mem with same | old
    · obtain ⟨sameRun, _⟩ := Prod.mk.inj same
      exact absurd (Prod.ext sameRun isMain) ne
    · exact old
  · exact fun path mem => .inl (still path mem)
  · rw [proc]
    split
    · rename_i same
      cases role : other.2 with
      | main => exact absurd (Prod.ext same role) ne
      | worker =>
        intro alive
        rwa [same] at alive
    · exact Beside.refl _ _
  · intro _ path rows' found
    exact .inl ((still path (inv.spent path rows' found)).trans found)
  · intro run' report none some
    rw [proc] at some
    split at some
    · rename_i same
      rw [same] at none
      exact absurd (none.symm.trans some) nofun
    · exact absurd (none.symm.trans some) nofun

variable {before : Proc} {inHand done ticks : List TickRecord} {outside : Nat} {newDays : List Day}
  {E : Failure → Depot → Prop}

/-- The flush has staged `done`, and its rows are kept. -/
def Staging (merging : Prop) (before : Proc) (inHand : List TickRecord) (outside : Nat)
    (newDays : List Day) (done : List TickRecord) : RunAssertion := fun held p =>
  Writing merging before inHand outside newDays held p ∧ AllKept merging done held p

theorem Staging.steady : Steady merging (Staging merging before inHand outside newDays done) :=
  Writing.steady.and AllKept.steady

/-- One more segment in the flush: its rows are kept, its day is noted. -/
theorem Writing.stage (isDay : day ≠ "")
    (good : Good merging (run, .main) s (s.stage run seq day (ticks.map toRow)))
    (staging : At run (Staging merging before inHand outside newDays done) s) :
    At run (Staging merging before inHand outside (newDays ++ [day]) (done ++ ticks))
      (s.stage run seq day (ticks.map toRow)) := by
  obtain ⟨writing, kept⟩ := staging
  obtain ⟨other, ne⟩ := exists_other (run, .main)
  have grown := (good.2.1 other ne).kept
  have ledger := Ledger.steady _ (Kept (s.stage run seq day (ticks.map toRow))) _ _
    (BesideMain.refl _) grown writing.ledger
  unfold At
  rw [Depot.stage, Depot.proc_update_self]
  refine ⟨⟨ledger, writing.emptied, writing.unfinalized, writing.isClosed, writing.counted, ?_, ?_,
    writing.tradingDay, writing.faults⟩, fun on tick mem => ?_⟩
  · change (s.proc run).stagedDays ++ [day] = _
    rw [writing.staged, List.append_assoc]
  · intro day' mem
    rcases mem_snoc.mp mem with old | rfl
    · exact writing.named day' old
    · exact isDay
  · rcases List.mem_append.mp mem with old | new
    · exact grown on _ (kept on tick old)
    · exact good.1.kept on _ (List.mem_append_right _ (List.mem_map_of_mem new))

theorem safe_writeSegment (ticks : List TickRecord) (isDay : day ≠ "")
    (raises : ∀ e s, At run (Writing merging before inHand outside newDays) s → E e s)
    (pre : At run (Staging merging before inHand outside newDays done) s) :
    SafeAt merging (run, .main)
      (fun _ => At run (Staging merging before inHand outside (newDays ++ [day]) (done ++ ticks)))
      E (writeSegment run day (ticks.map toRow)) s := by
  refine .bind (Q := fun seq s => At run (Staging merging before inHand outside newDays done) s ∧
    (run, seq) ∉ s.spent ∧ seq < (s.proc run).segmentSeq) (fun seq s₁ reserved => ?_) ?_
  · refine .bind (Q := fun _ => At run (Staging merging before inHand outside (newDays ++ [day])
      (done ++ ticks))) (fun _ s₂ staged => ?_) ?_
    · exact safe_internal Staging.steady.framed
        (fun _ p => ⟨_, p.compactions, p.compactionFailures, p.lastCompactionError, rfl⟩) staged
    · have stable : Stable merging (run, .main) fun s =>
          At run (Staging merging before inHand outside newDays done) s ∧
            (run, seq) ∉ s.spent ∧ seq < (s.proc run).segmentSeq := by
        intro a b rely here
        refine ⟨Staging.steady.stable a b rely here.1, fun mem => here.2.1 (rely.fresh rfl seq mem), ?_⟩
        have own : BesideMain (a.proc run) (b.proc run) := rely.own
        rw [own.segmentSeq]
        exact here.2.2
      refine safe_fallible stable reserved (fun e s here => raises e s here.1.1)
        fun s' here inv => ?_
      have good := good_stage inv day (ticks.map toRow) here.2.1 here.2.2 fun row mem => by
          obtain ⟨tick, _, rfl⟩ := List.mem_map.mp mem
          exact finalKey_toRow tick
      exact ⟨good, fun _ _ => Writing.stage isDay good here.1, nofun⟩
  · refine safe_atomic Staging.steady.stable pre fun c s' here inv => ?_
    have own : Own fun p => { p with segmentSeq := p.segmentSeq + 1 } :=
      ⟨fun _ => rfl, fun _ => rfl, fun _ => rfl, fun _ => rfl, fun _ => Nat.le_succ _⟩
    refine ⟨good_own inv own, fun seq result => ?_, nofun⟩
    cases result
    refine ⟨?_, fun mem => absurd (inv.numbered _ mem) (Nat.lt_irrefl _), ?_⟩
    · unfold At
      rw [Depot.proc_update_self]
      exact ⟨{ here.1 with }, here.2⟩
    · rw [Depot.proc_update_self]
      exact Nat.lt_succ_self _

theorem safe_compactInBackground {config : CollectionConfig}
    (raises : ∀ e s, At run (Writing merging before inHand outside newDays) s → E e s)
    (pre : At run (Staging merging before inHand outside newDays done) s) :
    SafeAt merging (run, .main) (fun _ => At run (Staging merging before inHand outside newDays done))
      E (compactInBackground config run) s := by
  refine safe_atomic Staging.steady.stable pre fun c s' here inv => ?_
  -- the worker is idle when its batch is handed over, and no day is being finalized
  have handed : ∀ thread : CompactThread, (s'.proc run).compactThread.isAlive = false →
      ∀ s'', s'' = s'.update run (fun p => { p with
        segments := p.segments.drop config.compactSegmentCount.toNat, compactThread := thread }) →
      Good merging (run, .main) s' s'' ∧
        At run (Staging merging before inHand outside newDays done) s'' := by
    rintro thread idle s'' rfl
    refine ⟨good_update (run, .main) inv rfl (Nat.le_refl _) (fun role ne => ?_)
      (fun report none some => absurd (none.symm.trans some) nofun) (fun finalizing => ?_), ?_⟩
    · cases role with
      | main => exact absurd rfl ne
      | worker => exact fun alive => absurd (idle.symm.trans alive) nofun
    · have unfinalized := here.1.unfinalized
      change ((s'.proc run).finalizing).isSome = true at finalizing
      rw [unfinalized] at finalizing
      cases finalizing
    · unfold At
      rw [Depot.proc_update_self]
      exact ⟨{ here.1 with }, here.2⟩
  dsimp only
  split
  · exact ⟨good_still (run, .main) inv, fun _ _ => here, nofun⟩
  · rename_i busy
    have idle : (s'.proc run).compactThread.isAlive = false := by
      simp only [Bool.or_eq_true, decide_eq_true_eq, not_or, Bool.not_eq_true] at busy
      exact busy.1
    split
    · obtain ⟨good, after⟩ := handed (.started _) idle _ rfl
      exact ⟨good, fun _ _ => after, nofun⟩
    · obtain ⟨good, after⟩ := handed .unstarted idle _ rfl
      exact ⟨good, nofun, fun e _ => raises e _ after.1⟩

end Segments

/-! ## One batch -/

section Batches

variable {merging : Prop} {run : RunId} {s : Depot} {config : CollectionConfig} {before : Proc}
  {drained : List TickRecord} {E : Failure → Depot → Prop}

/-- The write has raised after it counted and staged as recorded. -/
def Failed (merging : Prop) (before : Proc) (drained : List TickRecord) : RunAssertion :=
  fun held p => ∃ inHand outside newDays, Writing merging before inHand outside newDays held p ∧
    (outside = 0 → inHand = drained)

/-- The write has returned `day`: nothing is in its hands any more. -/
def Wrote (merging : Prop) (before : Proc) (day : Day) : RunAssertion :=
  fun held p => ∃ outside newDays, Writing merging before [] outside newDays held p ∧
    ((newDays = [] ∧ day = "") ∨ day ∈ newDays)

theorem Failed.steady : Steady merging (Failed merging before drained) := by
  rintro held held' p p' beside kept ⟨inHand, outside, newDays, writing, same⟩
  exact ⟨inHand, outside, newDays, Writing.steady held held' p p' beside kept writing, same⟩

theorem Wrote.steady : Steady merging (Wrote merging before day) := by
  rintro held held' p p' beside kept ⟨outside, newDays, writing, named⟩
  exact ⟨outside, newDays, Writing.steady held held' p p' beside kept writing, named⟩

theorem tradingDay_ne_of_checked (checked : ticks.forM checkTick = .ok ()) :
    ∀ tick ∈ ticks, tick.tradingDay ≠ "" := by
  intro tick mem blank
  have own := forM_eq_ok_iff.mp checked tick mem
  rw [checkTick, if_pos blank] at own
  cases own

theorem majorityDay_mem {groups : List (Day × List TickRecord)} (some : groups ≠ []) :
    majorityDay groups ∈ groups.map Prod.fst := by
  have general : ∀ (rest : List (Day × List TickRecord)) (best : Day × List TickRecord),
      rest.foldl (fun best next => if best.2.length < next.2.length then next else best) best ∈
        best :: rest := by
    intro rest
    induction rest with
    | nil => exact fun best => List.mem_cons_self
    | cons next rest ih =>
      intro best
      rw [List.foldl_cons]
      split
      · exact List.mem_cons_of_mem _ (ih next)
      · rcases List.mem_cons.mp (ih best) with same | later
        · rw [same]
          exact List.mem_cons_self
        · exact List.mem_cons_of_mem _ (List.mem_cons_of_mem _ later)
  cases groups with
  | nil => exact absurd rfl some
  | cons first rest => exact List.mem_map_of_mem (general rest first)

theorem rowsByDay_named (named : ∀ tick ∈ ticks, tick.tradingDay ≠ "") :
    ∀ entry ∈ rowsByDay ticks, entry.1 ≠ "" := by
  intro entry mem
  obtain ⟨nonempty, keyed⟩ := Groups.keyed_groupBy TickRecord.tradingDay ticks entry mem
  obtain ⟨tick, inEntry⟩ := List.exists_mem_of_ne_nil _ nonempty
  have inTicks : tick ∈ ticks := (Groups.members_groupBy TickRecord.tradingDay ticks).mem_iff.mp
    (List.mem_flatMap.mpr ⟨entry, mem, inEntry⟩)
  rw [← keyed tick inEntry]
  exact named tick inTicks

/-- Snapshots outside every session leave the batch and are counted. -/
theorem Writing.filter (keep : TickRecord → Bool)
    (writing : Writing merging before drained 0 [] held p) :
    Writing merging before (drained.filter keep)
      (drained.length - (drained.filter keep).length) [] held
      { p with ticksOutsideSession :=
          p.ticksOutsideSession + (drained.length - (drained.filter keep).length) } := by
  have split := List.filter_append_perm keep drained
  have lengths : (drained.filter fun tick => !keep tick).length =
      drained.length - (drained.filter keep).length := by
    have total := split.length_eq
    rw [List.length_append] at total
    omega
  refine ⟨fun on counted => ?_, writing.emptied, writing.unfinalized, writing.isClosed, ?_, writing.staged,
    writing.named, writing.tradingDay, writing.faults⟩
  · obtain ⟨persisted, dropped, outside, all, durable, drops, outsides⟩ := writing.ledger on counted
    refine ⟨persisted, dropped, outside ++ drained.filter fun tick => !keep tick, ?_, durable, drops, ?_⟩
    · refine List.perm_iff_count.mpr fun tick => ?_
      have total := all.count_eq tick
      have parts := split.count_eq tick
      simp only [List.count_append] at total parts ⊢
      omega
    · rw [List.length_append, lengths, outsides]
  · change p.ticksOutsideSession + _ = _
    rw [writing.counted, Nat.add_zero]

/-- A batch whose rows are all kept is no longer in the flush's hands. -/
theorem Writing.persist {inHand : List TickRecord} {outside : Nat} {newDays : List Day}
    (writing : Writing merging before inHand outside newDays held p)
    (kept : AllKept merging inHand held p) : Writing merging before [] outside newDays held p := by
  refine { writing with ledger := fun on counted => ?_ }
  obtain ⟨persisted, dropped, outside, all, durable, drops, outsides⟩ := writing.ledger on counted
  refine ⟨persisted ++ inHand, dropped, outside, ?_, fun tick mem => ?_, drops, outsides⟩
  · refine List.perm_iff_count.mpr fun tick => ?_
    have total := all.count_eq tick
    simp only [List.count_append, List.count_nil] at total ⊢
    omega
  · rcases List.mem_append.mp mem with old | new
    · exact durable tick old
    · exact kept on tick new

theorem safe_write (pre : At run (Writing merging before drained 0 []) s) :
    SafeAt merging (run, .main) (fun day => At run (Wrote merging before day))
      (fun _ => At run (Failed merging before drained)) (write config run drained) s := by
  unfold write
  split
  · exact ⟨drained, 0, [], pre, fun _ => rfl⟩
  · rename_i checked
    set kept := inSessionTicks config.dropOutsideSession drained with isKept
    have named : ∀ tick ∈ kept, tick.tradingDay ≠ "" := fun tick mem =>
      tradingDay_ne_of_checked checked tick (List.mem_of_mem_filter mem)
    have raises : ∀ newDays (_ : Failure) s, At run (Writing merging before kept
        (drained.length - kept.length) newDays) s → At run (Failed merging before drained) s := by
      intro newDays _ s writing
      refine ⟨kept, _, newDays, writing, fun none => ?_⟩
      exact (List.filter_sublist (l := drained)).eq_of_length_le (Nat.le_of_sub_eq_zero none)
    refine .bind (Q := fun _ => At run (Writing merging before kept
      (drained.length - kept.length) [])) (fun _ s₁ counted => ?_) ?_
    · by_cases empty : kept = []
      · rw [if_pos empty]
        refine ⟨_, [], Writing.persist counted fun on tick mem => ?_, .inl ⟨rfl, rfl⟩⟩
        rw [empty] at mem
        cases mem
      · rw [if_neg empty]
        refine .bind (Q := fun _ => At run (Staging merging before kept
          (drained.length - kept.length) ((rowsByDay kept).map Prod.fst)
          (Groups.members (rowsByDay kept)))) (fun _ s₂ staged => ?_) ?_
        · refine .bind (fun _ s₃ handed => ?_) (safe_compactInBackground (raises _) staged)
          refine ⟨_, _, Writing.persist handed.1 fun on tick mem => ?_, .inr ?_⟩
          · exact handed.2 on tick
              ((Groups.members_groupBy TickRecord.tradingDay kept).mem_iff.mpr mem)
          · exact majorityDay_mem fun none => empty (Groups.groupBy_eq_nil.mp none)
        · -- the days of the batch are staged one after the other
          refine .forEach (fun rest s => ∃ groups, rowsByDay kept = groups ++ rest ∧
            At run (Staging merging before kept (drained.length - kept.length)
              (groups.map Prod.fst) (Groups.members groups)) s)
            ?_ ?_ ⟨[], rfl, ?_⟩
          · rintro entry rest s₂ ⟨groups, isPrefix, here⟩
            have isDay : entry.1 ≠ "" := rowsByDay_named named entry (by rw [isPrefix]; simp)
            refine .mono (fun _ s staged => ?_) (fun _ _ raised => raised)
              (safe_writeSegment entry.2 isDay (raises _) here)
            refine ⟨groups ++ [entry], by rw [isPrefix]; simp, ?_⟩
            simpa [At, Groups.members] using staged
          · rintro s₂ ⟨groups, isAll, here⟩
            rw [List.append_nil] at isAll
            rw [isAll]
            exact here
          · exact ⟨counted, fun _ _ mem => absurd mem List.not_mem_nil⟩
    · exact safe_own (f := fun p => { p with ticksOutsideSession :=
          p.ticksOutsideSession + (drained.length - kept.length) }) Writing.steady
        ⟨fun _ => rfl, fun _ => rfl, fun _ => rfl, fun _ => rfl, fun _ => Nat.le_refl _⟩
        (fun held p writing => writing.filter _) pre

end Batches

/-! ## One flush -/

section Flushes

variable {merging : Prop} {run : RunId} {s : Depot} {config : CollectionConfig} {before p : Proc}
  {inHand : List TickRecord} {outside : Nat} {newDays : List Day} {held : Row → Prop} {closed : Bool}
  {E : Failure → Depot → Prop}

theorem Writing.oneDay (writing : Writing merging before inHand outside newDays held p)
    (oneDay : OneDay p) : OneDay before := by
  obtain ⟨grown, isGrown⟩ := writing.faults
  rw [OneDay, isGrown, writing.staged] at oneDay
  refine ⟨fun fault mem => oneDay.1 fault (List.mem_append_left _ mem),
    fun day mem day' mem' => oneDay.2 day ?_ day' ?_⟩
  · exact List.mem_append_left _ mem
  · exact List.mem_append_left _ mem'

theorem Writing.stagedNamed (writing : Writing merging before inHand outside newDays held p)
    (days : Days before) : ∀ day ∈ p.stagedDays, day ≠ "" := by
  intro day mem
  rw [writing.staged] at mem
  rcases List.mem_append.mp mem with old | new
  · exact days.1 day old
  · exact writing.named day new

/-- The batch is drained: the buffer is empty, its ticks are in the flush's hands. -/
theorem Running.drain (running : Running merging closed [] held p) :
    Writing merging p (Groups.members p.buffer.drain.1) 0 [] held
      { p with buffer := p.buffer.drain.2 } := by
  refine ⟨fun on counted => ?_, fun _ _ => rfl, running.unfinalized, rfl, rfl, ?_, nofun, rfl, [], ?_⟩
  · obtain ⟨persisted, dropped, outside, all, durable, drops, outsides⟩ := running.ledger on counted
    refine ⟨persisted, dropped, outside, ?_, durable, drops, outsides⟩
    rw [TickBuffer.members_drain]
    simpa using all
  iterate 2 · exact (List.append_nil _).symm

/-- The write returned. -/
theorem Wrote.close (wrote : Wrote merging before day held p) (days : Days before)
    (isClosed : before.closed = closed) :
    Running merging closed [] held { p with tradingDay := if day = "" then p.tradingDay else day } ∧
      Emptied { p with tradingDay := if day = "" then p.tradingDay else day } := by
  obtain ⟨outside, newDays, writing, isNew⟩ := wrote
  refine ⟨⟨writing.ledger, ⟨writing.stagedNamed days, fun oneDay day' mem => ?_⟩,
    writing.unfinalized, writing.isClosed.trans isClosed⟩, writing.emptied⟩
  rcases isNew with ⟨rfl, rfl⟩ | new
  · -- nothing was staged: the day stands
    change p.tradingDay = day'
    have earlier := writing.oneDay oneDay
    have staged : p.stagedDays = before.stagedDays := writing.staged.trans (List.append_nil _)
    rw [writing.tradingDay]
    exact days.2 earlier day' (staged ▸ mem)
  · change (if day = "" then p.tradingDay else day) = day'
    rw [if_neg (writing.named day new)]
    refine oneDay.2 day ?_ day' mem
    change day ∈ p.stagedDays
    rw [writing.staged]
    exact List.mem_append_right _ new

/-- Handing back: what the flush still holds, and that a closed run has noted the failure. -/
def HandingBack (merging : Prop) (closed : Bool) (rest : List TickRecord) : RunAssertion := fun held p =>
  Running merging closed rest held p ∧ (p.closed = true → ¬ Counted p)

theorem HandingBack.steady : Steady merging (HandingBack merging closed rest) := by
  intro held held' p p' beside kept here
  refine ⟨Running.steady held held' p p' beside kept here.1, fun closed counted => ?_⟩
  rw [beside.closed] at closed
  exact here.2 closed (beside.counted counted)

/-- The write raised: the fault says what it had counted and staged. -/
theorem Failed.note {drained : List TickRecord} (failed : Failed merging before drained held p)
    (days : Days before) (isClosed : before.closed = closed) : HandingBack merging closed drained held
      { p with faults := p.faults ++ [handedBackFault before p] } := by
  obtain ⟨inHand, outside, newDays, writing, none⟩ := failed
  have isFault : handedBackFault before p = .handedBack outside p.closed newDays := by
    rw [handedBackFault, writing.counted, writing.staged, List.drop_left, Nat.add_sub_cancel_left]
  have last : handedBackFault before p ∈ p.faults ++ [handedBackFault before p] :=
    List.mem_append_right _ List.mem_cons_self
  refine ⟨⟨fun on counted => ?_, ⟨writing.stagedNamed days, fun oneDay day mem => ?_⟩,
    writing.unfinalized, writing.isClosed.trans isClosed⟩, fun closed counted => ?_⟩
  · have noted := counted _ last
    rw [isFault] at noted
    rw [← none noted.1]
    exact writing.ledger on fun fault mem => counted fault (List.mem_append_left _ mem)
  · have noted := oneDay.1 _ last
    rw [isFault] at noted
    obtain rfl : newDays = [] := noted
    have earlier := writing.oneDay
      ⟨fun fault mem => oneDay.1 fault (List.mem_append_left _ mem), oneDay.2⟩
    have staged : p.stagedDays = before.stagedDays := writing.staged.trans (List.append_nil _)
    change p.tradingDay = day
    rw [writing.tradingDay]
    exact days.2 earlier day (staged ▸ mem)
  · have noted := counted _ last
    rw [isFault] at noted
    exact absurd (closed.symm.trans noted.2) nofun

/-- One tick goes back to the buffer, or the buffer counts it. -/
theorem HandingBack.tick {tick : TickRecord}
    (handing : HandingBack merging closed (tick :: rest) held p) :
    HandingBack merging closed rest held { p with buffer := (p.buffer.append tick).2 } := by
  refine ⟨⟨fun on counted => ?_, handing.1.days, handing.1.unfinalized, handing.1.isClosed⟩, handing.2⟩
  obtain ⟨persisted, dropped, outside, all, durable, drops, outsides⟩ :=
    handing.1.ledger on counted
  rcases p.buffer.append_cases tick with ⟨_, sameDrops, back⟩ | ⟨_, oneMore, same⟩
  · refine ⟨persisted, dropped, outside, ?_, durable, sameDrops.trans drops, outsides⟩
    refine List.perm_iff_count.mpr fun other => ?_
    have total := all.count_eq other
    have now := back.count_eq other
    simp only [List.count_append, List.count_cons, List.count_nil] at total now ⊢
    omega
  · refine ⟨persisted, dropped ++ [tick], outside, ?_, durable, ?_, outsides⟩
    · refine List.perm_iff_count.mpr fun other => ?_
      have total := all.count_eq other
      simp only [same, List.count_append, List.count_cons, List.count_nil] at total ⊢
      omega
    · change (p.buffer.append tick).2.dropped = p.refused + _
      rw [oneMore, drops, List.length_append]
      rfl

theorem own_buffer (f : Proc → TickBuffer) : Own fun p => { p with buffer := f p } :=
  ⟨fun _ => rfl, fun _ => rfl, fun _ => rfl, fun _ => rfl, fun _ => Nat.le_refl _⟩

/-- A flush leaves the books balanced; it never raises. -/
theorem safe_flush (pre : At run (Running merging closed []) s) :
    SafeAt merging (run, .main)
      (fun _ => At run fun held p => Running merging closed [] held p ∧ Emptied p) E
      (flush config run) s := by
  refine .bind (Q := fun before => At run fun held p =>
    Writing merging before (Groups.members before.buffer.drain.1) 0 [] held p ∧
      Days before ∧ before.closed = closed)
    (fun before s₁ drained => ?_) ?_
  · dsimp only
    split
    · rename_i empty
      rw [empty] at drained
      exact Wrote.close ⟨0, [], drained.1, .inl ⟨rfl, rfl⟩⟩ drained.2.1 drained.2.2
    · refine .bind (fun outcome s₂ attempted => ?_) (Prog.Safe.attempt (safe_write drained.1))
      cases outcome with
      | error failure =>
        have failed := attempted.2 failure rfl
        refine .bind (Q := fun _ => At run (HandingBack merging closed
          (Groups.members before.buffer.drain.1))) (fun _ s₃ noted => ?_) ?_
        · refine .forEach (fun rest => At run (HandingBack merging closed rest))
            (fun tick rest s here => ?_) (fun s here => ⟨here.1, ?_⟩) noted
          · exact safe_own HandingBack.steady (own_buffer fun p => (p.buffer.append tick).2)
              (fun held p => HandingBack.tick) here
          · exact fun closed counted => absurd counted (here.2 closed)
        · exact safe_own Failed.steady
            (f := fun p => { p with faults := p.faults ++ [handedBackFault before p] })
            ⟨fun _ => rfl, fun _ => rfl, fun _ => rfl, fun _ => rfl, fun _ => Nat.le_refl _⟩
            (fun held p failed => failed.note drained.2.1 drained.2.2) failed
      | ok day =>
        exact safe_own Wrote.steady
          (f := fun p => { p with tradingDay := if day = "" then p.tradingDay else day })
          ⟨fun _ => rfl, fun _ => rfl, fun _ => rfl, fun _ => rfl, fun _ => Nat.le_refl _⟩
          (fun held p wrote => wrote.close drained.2.1 drained.2.2) (attempted.1 day rfl)
  · refine safe_atomic Running.steady.stable pre fun c s' here inv => ?_
    refine ⟨good_own inv (own_buffer fun p => p.buffer.drain.2), fun before result => ?_, nofun⟩
    cases result
    unfold At
    rw [Depot.proc_update_self]
    exact ⟨Running.drain here, Running.days here, Running.isClosed here⟩

end Flushes
end BtApiCtp.Collector.Runtime
