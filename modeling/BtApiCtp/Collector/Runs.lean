/-
# Collector.Runs -- collector processes keep the invariant

`run_once` as a whole is safe beside every other thread, and so the system of collector
processes is sound: starts, deliveries, thread ends and kills included.
-/
import BtApiCtp.Collector.Finalize

namespace BtApiCtp.Collector.Runtime

open Theory

variable {P : Depot → Prop} {dropped : Nat} {day : Day}

/-! ## The window -/

/-- A run before its handler is set: no tick has reached it. -/
structure Unheard (p : Proc) : Prop where
  listening : p.listening = false
  closed : p.closed = false
  unfinalized : p.finalizing = none
  stagedDays : p.stagedDays = []
  ticksOutsideSession : p.ticksOutsideSession = 0
  none : Counted p → p.accepted = [] ∧ p.refused = 0

section Window

variable {merging : Prop} {run : RunId} {s : Depot} {config : CollectionConfig} {closed : Bool}
  {held : Row → Prop} {p : Proc} {E : Failure → Depot → Prop}

theorem Unheard.steady : Steady merging fun _ => Unheard := by
  intro _ _ p p' beside _ here
  refine ⟨beside.listening.trans here.listening, beside.closed.trans here.closed,
    beside.finalizing.trans here.unfinalized, beside.stagedDays.trans here.stagedDays,
    beside.ticksOutsideSession.trans here.ticksOutsideSession, fun counted => ?_⟩
  rcases beside.silent (.inl here.listening) with late | ⟨accepted, _, refused⟩
  · exact absurd (counted _ late) id
  · rw [accepted, refused]
    exact here.none (beside.counted counted)

theorem unheard_start (config : CollectionConfig) : Unheard { config } :=
  ⟨rfl, rfl, rfl, rfl, rfl, fun _ => ⟨rfl, rfl⟩⟩

/-- The window begins with balanced books. -/
theorem Unheard.running (unheard : Unheard p)
    (empty : p.buffer.ticks = [] ∧ p.buffer.dropped = 0) : Running merging false [] held p := by
  refine ⟨fun _ counted => ?_, ⟨?_, fun _ => ?_⟩, unheard.unfinalized, unheard.closed⟩
  · obtain ⟨accepted, refused⟩ := unheard.none counted
    refine ⟨[], [], [], ?_, nofun, ?_, unheard.ticksOutsideSession⟩
    · rw [accepted, empty.1]
      exact List.Perm.refl _
    · rw [empty.2, refused]
      rfl
  iterate 2
    · rw [unheard.stagedDays]
      exact nofun

theorem safe_venueCall (stable : Stable merging (run, .main) P) (pre : P s)
    (raises : ∀ e s, P s → E e s) : SafeAt merging (run, .main) (fun _ => P) E venueCall s :=
  safe_fallible stable pre raises fun _ here inv =>
    ⟨good_still (run, .main) inv, fun _ _ => here, nofun⟩

theorem safe_collect (polls : Nat) (pre : At run (Running merging closed []) s) :
    SafeAt merging (run, .main) (fun _ => At run (Running merging closed []))
      (fun _ => At run (Running merging closed [])) (collect config run polls) s := by
  induction polls generalizing s with
  | zero => exact safe_standstill Running.steady.stable pre
  | succ polls ih =>
    refine .bind (Q := fun _ => At run (Running merging closed [])) (fun turn s₁ here => ?_) ?_
    · split
      · exact here
      · refine .bind (Q := fun _ => At run (Running merging closed [])) (fun _ s₂ flushed => ?_) ?_
        · refine .bind (fun _ s₃ polled => ?_)
            (safe_venueCall Running.steady.stable flushed fun _ _ raised => raised)
          exact ih polled
        · refine .when (fun _ => ?_) fun _ => here
          exact (safe_flush here).mono (fun _ _ flushed => flushed.1) fun _ _ raised => raised
    · exact safe_atomic Running.steady.stable pre fun c s' here inv =>
        ⟨good_still (run, .main) inv, fun _ _ => here, nofun⟩

theorem safe_subscribeAndCollect (polls : Nat) (pre : At run (Running merging closed []) s) :
    SafeAt merging (run, .main) (fun _ => At run (Running merging closed []))
      (fun _ => At run (Running merging closed [])) (subscribeAndCollect config run polls) s := by
  refine .bind (fun _ s₁ connected => ?_)
    (safe_venueCall Running.steady.stable pre fun _ _ raised => raised)
  refine .bind (Q := fun _ => At run (Running merging closed [])) (fun _ s₂ listening => ?_) ?_
  · refine .bind (fun _ s₃ subscribed => ?_)
      (safe_venueCall Running.steady.stable listening fun _ _ raised => raised)
    exact safe_collect polls subscribed
  · exact safe_own (f := fun p => { p with listening := true }) Running.steady
      ⟨fun _ => rfl, fun _ => rfl, fun _ => rfl, fun _ => rfl, fun _ => Nat.le_refl _⟩
      (fun _ _ here => { here with }) connected

theorem safe_closeSubscriber (pre : At run (Running merging closed []) s) :
    SafeAt merging (run, .main) (fun _ => At run (Running merging true []))
      (fun _ => At run (Running merging closed [])) (closeSubscriber run) s := by
  refine safe_fallible Running.steady.stable pre (fun _ _ raised => raised) fun s' here inv => ?_
  have own : Own fun p => { p with closed := true } :=
    ⟨fun _ => rfl, fun _ => rfl, fun _ => rfl, fun _ => rfl, fun _ => Nat.le_refl _⟩
  refine ⟨good_own inv own, fun _ _ => ?_, nofun⟩
  unfold At
  rw [Depot.proc_update_self]
  exact ⟨here.ledger, here.days, here.unfinalized, rfl⟩

/-! ## Returning -/

/-- The run ends with a report. -/
theorem safe_returnReport {report : SinkReport} (stable : Stable merging (run, .main) P)
    (pre : P s)
    (accounted : ∀ s, P s → merging → Counted (s.proc run) → s.bad = ∅ → Accounted s run report)
    (reported : ∀ s, P s → OneDay (s.proc run) → Reported s run) :
    SafeAt merging (run, .main) (fun _ _ => True) E (returnReport run report) s := by
  refine safe_modify stable pre fun s' here inv => ⟨?_, trivial⟩
  refine good_update (run, .main) inv rfl (Nat.le_refl _) (fun role ne => ?_)
    (fun report' _ some => ⟨fun on counted clean => ?_, fun oneDay => ?_⟩) (inv.finalizing run)
  · cases role with
    | main => exact absurd rfl ne
    | worker => exact fun alive => alive
  · cases some
    obtain ⟨persisted, dropped, outside, all, rest⟩ := accounted s' here on counted clean
    refine ⟨persisted, dropped, outside, ?_, ?_⟩
    · rw [Depot.proc_update_self]
      exact all
    · rw [Depot.proc_update_self]
      exact rest
  · have before := reported s' here oneDay
    unfold Reported
    rw [Depot.proc_update_self]
    exact before

/-- What the run has counted is in its report, or the run has a report of its own. -/
def Blank (day : Day) : RunAssertion := fun _ p =>
  day = "" → Counted p → p.ticksOutsideSession = 0

theorem Blank.steady : Steady merging (Blank day) := by
  intro _ _ p p' beside _ here blank counted
  rw [beside.ticksOutsideSession]
  exact here blank (beside.counted counted)

/-- The last look at the buffer. -/
theorem safe_lastLook (pre : At run (fun held p => Running merging true [] held p ∧ Emptied p) s) :
    SafeAt merging (run, .main)
      (fun p => At run fun held p' => Closing merging p.tradingDay p.buffer.dropped held p' ∧
        Blank p.tradingDay held p') E
      (Prog.atomic fun _ s =>
        let p := s.proc run
        (.ok p, if p.tradingDay = "" ∧ p.ticksOutsideSession ≠ 0 then
            s.update run fun p =>
              { p with faults := p.faults ++ [.uncounted p.ticksOutsideSession] }
          else s)) s := by
  refine safe_atomic (Running.steady.and (Emptied.steady merging)).stable pre fun c s' here inv => ?_
  have closing := Running.closing here.1 here.2
  dsimp only
  split
  · have own : Own fun p => { p with faults := p.faults ++ [.uncounted p.ticksOutsideSession] } :=
      ⟨fun _ => rfl, fun _ => rfl, fun _ => rfl, fun _ => rfl, fun _ => Nat.le_refl _⟩
    refine ⟨good_own inv own, fun p seen => ?_, nofun⟩
    cases seen
    unfold At
    rw [Depot.proc_update_self]
    refine ⟨closing.noted, fun _ counted => ?_⟩
    exact absurd (counted _ (List.mem_append_right _ List.mem_cons_self)) id
  · rename_i fine
    refine ⟨good_still (run, .main) inv, fun p seen => ?_, nofun⟩
    cases seen
    exact ⟨closing, fun blank _ => not_not.mp fun some => fine ⟨blank, some⟩⟩

theorem safe_reportWindow (merges : merging → config.mergeExisting = true) (rounds : Nat)
    (pre : At run (fun held p => Running merging true [] held p ∧ Emptied p) s) :
    SafeAt merging (run, .main) (fun _ _ => True) (fun _ _ => True)
      (reportWindow config run rounds) s := by
  refine .bind (fun p s₁ seen => ?_) (safe_lastLook pre)
  by_cases blank : p.tradingDay = ""
  · rw [if_pos blank]
    refine safe_returnReport (Closing.steady.and Blank.steady).stable seen
      (fun s here on counted clean => ?_) (fun s here oneDay => ?_)
    · exact Closing.accounted on here.1 counted clean rfl (here.2 blank counted)
    · -- a run whose last flush left no trading day has staged nothing
      rw [blank] at here
      intro day mem
      exact absurd (here.1.days oneDay day mem) (here.1.named day mem)
  · rw [if_neg blank]
    refine .bind (fun report s₂ finalized => ?_) (safe_finalize merges rounds seen.1)
    refine safe_returnReport (Listed.stable (Closing.steady.and Outside.steady) Published.ofDay)
      finalized.2 (fun s here on counted clean => ?_) (fun s here oneDay => ?_)
    · exact Closing.accounted on here.1.1 counted clean finalized.1 here.1.2
    · intro day' mem
      rw [here.1.1.days oneDay day' mem]
      obtain ⟨report, found, lines⟩ := here.2.2 oneDay
      exact ⟨report, found, lines.matches⟩

theorem safe_runOnce (merges : merging → config.mergeExisting = true) (selected : Bool)
    (polls rounds : Nat) (pre : At run (fun _ => Unheard) s) :
    SafeAt merging (run, .main) (fun _ _ => True) (fun _ _ => True)
      (runOnce config run selected polls rounds) s := by
  refine .bind (fun _ s₁ called => ?_)
    (safe_venueCall Unheard.steady.stable pre fun _ _ _ => trivial)
  split
  · trivial
  rename_i buffer made
  have empty : buffer.ticks = [] ∧ buffer.dropped = 0 := by
    obtain ⟨_, _, _, _, rfl⟩ := TickBuffer.make_eq_ok made
    exact ⟨rfl, rfl⟩
  refine .bind (Q := fun _ => At run fun held p => Unheard p ∧ Running merging false [] held p)
    (fun _ s₂ begun => ?_) ?_
  · split
    · refine safe_returnReport Unheard.steady.stable begun.1
        (fun s here _ counted _ => ?_) (fun s here _ => ?_)
      · obtain ⟨accepted, refused⟩ := here.none counted
        refine ⟨[], [], [], by rw [accepted]; exact List.Perm.refl _, nofun, ?_, rfl⟩
        rw [refused]
        exact empty.2
      · intro day mem
        rw [here.stagedDays] at mem
        cases mem
    · split
      · trivial
      · refine .bind (fun collected s₃ window => ?_)
          (Prog.Safe.attempt (safe_subscribeAndCollect polls begun.2))
        have running : At run (Running merging false []) s₃ := by
          cases collected with
          | ok done => exact window.1 done rfl
          | error failure => exact window.2 failure rfl
        refine .bind (fun closed s₄ closing => ?_)
          (Prog.Safe.attempt (safe_closeSubscriber running))
        cases closed with
        | error failure =>
          refine .bind (fun _ s₅ flushed => ?_) (safe_flush (closing.2 failure rfl))
          trivial
        | ok done =>
          refine .bind (fun _ s₅ flushed => ?_) (safe_flush (closing.1 done rfl))
          cases collected with
          | ok _ => exact safe_reportWindow merges rounds flushed
          | error failure =>
            cases failure with
            | cancelled => exact safe_reportWindow merges rounds flushed
            | other message => trivial
  · refine safe_own Unheard.steady (own_buffer fun _ => buffer) (fun held p here => ?_) called
    have unheard : Unheard { p with buffer } :=
      { here with }
    exact ⟨unheard, unheard.running empty⟩

end Window

/-! ## The system -/

abbrev Happening := Event Chance ThreadId RunId Command Delivery

/-- If `merging`, every collector that is started merges into existing final files. -/
def MergingStarts (merging : Prop) (_ : Pool Depot Chance Failure ThreadId) : Happening → Prop
  | .start (.collector _ config _ _ _) => merging → config.mergeExisting = true
  | _ => True

section Processes

variable {merging : Prop} {s : Depot}

/-- A new run finds a staging directory of its own. -/
theorem start_good {run : RunId} {config : CollectionConfig} (inv : Inv merging s)
    (absent : s.procs.lookup run = none) (merges : merging → config.mergeExisting = true) :
    Inv merging (s.update run fun _ => { config }) ∧
      Law merging s (s.update run fun _ => { config }) ∧
      ∀ other, other ≠ (run, .main) → Rely merging other s (s.update run fun _ => { config }) := by
  have blank : s.proc run = {} := by rw [Depot.proc, absent, Option.getD_none]
  refine ⟨inv.update merges ?_ ?_, Law.update ?_, fun other ne => Rely.update fun same => ?_⟩
  · rw [blank]
  · intro finalizing
    cases finalizing
  · intro report _ returned
    cases returned
  · rw [blank]
    cases role : other.2 with
    | main => exact absurd (Prod.ext same role) ne
    | worker =>
      intro alive
      cases alive

/-- The compaction thread is alive as long as it runs. -/
theorem framed_worker (run : RunId) : Framed merging (run, .worker) fun s =>
    (s.proc run).compactThread.isAlive = true where
  stable s s' rely alive := by
    have own : BesideWorker (s.proc run) (s'.proc run) := rely.own
    exact own alive
  tidy s s' tidy alive := by
    obtain ⟨segments, compactions, failures, error, change⟩ := tidy.proc
    rw [show s'.proc run = _ from change]
    exact alive
  busy _ _ alive := alive

/-- A tick arrives. -/
theorem BesideMain.delivered {p : Proc} (tick : TickRecord) (listening : p.listening = true) :
    BesideMain p { p with
      buffer := (p.buffer.append tick).2
      accepted := if (p.buffer.append tick).1 then p.accepted ++ [tick] else p.accepted
      refused := if (p.buffer.append tick).1 then p.refused else p.refused + 1
      faults := if p.closed then p.faults ++ [.lateTick] else p.faults } := by
  refine { BesideMain.refl p with
    compactThread := fun _ => rfl, ticks := ?_, silent := fun off => ?_, dropped := ?_, faults := ?_ }
  · rcases p.buffer.append_cases tick with ⟨kept, _, back⟩ | ⟨refused, _, same⟩
    · exact ⟨[tick], if_pos kept, back⟩
    · refine ⟨[], ?_, by simp [same]⟩
      rw [List.append_nil]
      exact if_neg (by rw [refused]; nofun)
  · rcases off with deaf | closed
    · exact absurd (deaf.symm.trans listening) nofun
    · left
      change Fault.lateTick ∈ if p.closed then _ else _
      rw [if_pos closed]
      simp
  · change (p.buffer.append tick).2.dropped + p.refused =
      p.buffer.dropped + if (p.buffer.append tick).1 then p.refused else p.refused + 1
    rcases p.buffer.append_cases tick with ⟨kept, same, _⟩ | ⟨refused, more, _⟩
    · rw [kept, same, if_pos rfl]
    · rw [refused, more, if_neg nofun]
      omega
  · change ∃ more, (if p.closed then _ else _) = _ ∧ _
    split
    · exact ⟨[.lateTick], rfl, by simp⟩
    · exact ⟨[], by simp, by simp⟩

theorem deliver_good (delivery : Delivery) (inv : Inv merging s) :
    Inv merging (delivery.apply s) ∧ Law merging s (delivery.apply s) ∧
      ∀ other, Rely merging other s (delivery.apply s) := by
  unfold Delivery.apply
  split
  · rename_i listening
    refine ⟨inv.update (fun on => inv.merges on _) (Nat.le_refl _) (inv.finalizing _),
      Law.update fun report none some => absurd (none.symm.trans some) nofun,
      fun other => Rely.update fun same => ?_⟩
    cases other.2 with
    | main => exact BesideMain.delivered delivery.tick listening
    | worker => exact fun alive => alive
  · exact ⟨inv, Law.still s, fun other => Rely.refl other s⟩

theorem finish_good (thread : ThreadId) (inv : Inv merging s) :
    Inv merging (finishThread thread s) ∧ Law merging s (finishThread thread s) ∧
      ∀ other, other ≠ thread → Rely merging other s (finishThread thread s) := by
  unfold finishThread
  split
  · exact ⟨inv, Law.still s, fun other _ => Rely.refl other s⟩
  · rename_i isWorker
    have ended : ∀ p : Proc, (if p.compactThread.isAlive then CompactThread.ended
        else p.compactThread).isAlive = false := by
      intro p
      split
      · rfl
      · rename_i idle
        simpa using idle
    refine ⟨inv.update (fun on => inv.merges on _) (Nat.le_refl _) (fun _ => ended _),
      Law.update fun report none some => absurd (none.symm.trans some) nofun,
      fun other ne => Rely.update fun same => ?_⟩
    cases role : other.2 with
    | worker => exact absurd (Prod.ext same (role.trans isWorker.symm)) ne
    | main =>
      exact { BesideMain.refl (s.proc thread.1) with
        compactThread := fun idle => if_neg (by rw [idle]; nofun)
        ticks := ⟨[], by simp, by simp⟩
        silent := fun _ => .inr ⟨rfl, rfl, rfl⟩
        faults := ⟨[], by simp, by simp⟩ }

/-- A process dies: its locks are released, and no other run notices. -/
theorem exit_good (run : RunId) (inv : Inv merging s) :
    Inv merging (exitProcess run s) ∧ Law merging s (exitProcess run s) ∧
      ∀ other : ThreadId, other.1 ≠ run → Rely merging other s (exitProcess run s) := by
  unfold exitProcess
  split
  · have unlocked : ∀ locks, Inv merging { s with locks } := fun locks =>
      { inv with }
    have lawful : ∀ locks, Law merging { s with locks } ({ s with locks }.update run fun p =>
        { p with alive := false, listening := false, compactThread := .ended }) := fun locks =>
      Law.update fun report none some => absurd (none.symm.trans some) nofun
    refine ⟨(unlocked _).update (fun on => inv.merges on run) (Nat.le_refl _) (fun _ => rfl),
      ⟨(lawful _).segments, (lawful _).finals, (lawful _).returned⟩,
      fun other ne => Rely.trans (b := { s with locks := _ }) ?_ (Rely.update fun same => absurd same ne)⟩
    · refine { Rely.refl other s with locks := fun key held => ⟨?_, rfl⟩ }
      rw [Dict.lookup_filter, held]
      simp [ne]
  · exact ⟨inv, Law.still s, fun other _ => Rely.refl other s⟩

theorem collectors_sound (merging : Prop) :
    collectors.Sound (Inv merging) (Rely merging) (Guarantee merging) (Law merging)
      (MergingStarts merging) where
  rely_refl := Rely.refl
  rely_trans _ _ _ _ := Rely.trans
  still := Law.still
  beside _ other _ _ ne within := within.1 other ne
  within _ _ _ within := within.2
  starts m command s allowed inv accepted := by
    cases command with
    | collector run config selected polls rounds =>
      change (if m.shared.procs.lookup run = none then _ else none) = some s at accepted
      split at accepted
      · rename_i absent
        cases accepted
        obtain ⟨kept, lawful, rely⟩ := start_good inv absent allowed
        refine ⟨kept, lawful, rely, safe_runOnce allowed selected polls rounds ?_⟩
        change Unheard ((m.shared.update run fun _ => { config }).proc run)
        rw [Depot.proc_update_self]
        exact unheard_start config
      · cases accepted
    | compaction run mergeExisting batch =>
      change (if _ then some m.shared else none) = some s at accepted
      split at accepted
      · rename_i handed
        cases accepted
        refine ⟨inv, Law.still _, fun other _ => Rely.refl other _, ?_⟩
        refine .bind (fun compacted s₁ done => ?_) (safe_compactBatch (framed_worker run)
          (fun on => handed.2.symm.trans (inv.merges on run)) batch ?_)
        · trivial
        · rw [handed.1]
          rfl
      · cases accepted
  finishes thread _ inv := finish_good thread inv
  exits run _ inv := exit_good run inv
  outside _ delivery _ inv := deliver_good delivery inv

end Processes
end BtApiCtp.Collector.Runtime
