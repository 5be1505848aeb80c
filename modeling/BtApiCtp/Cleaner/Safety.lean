/-
# Cleaner.Safety -- the invariant of the pull state machine

What the manifest's statuses mean, in terms of the files: a `verified` host/day has
every remote final file staged byte for byte, a `merged` or `deleted` one has every
remote row in the authoritative tree.  `Inv` states this together with what makes it
last: a staged copy of the remote's size is the remote's content, and everything the
cleaner ever touched had a report.

The remote trees change under the cleaner's feet.  `Rely` says how: not in a day that
is being pulled, nor in one that is verified or beyond (`Protected`).  What does not
depend on the remote trees holds without that, so the clauses that do are switched on by
a `Mode`.

`Effect` lists everything one step can do, `Lawful` is the law of the statuses that
follows from it, and `Step`, the two together, is what every step is shown to guarantee.
-/
import BtApiCtp.Cleaner.Pipeline

namespace BtApiCtp.Cleaner

open Theory Collector

variable {host : Host} {day : Day} {s s' : World} {act : Act} (config : KlineConfig)

/-- What is assumed of the remote side: that days are `settled` while the cleaner depends on
them, and that the collectors' rows are `tracked` on top of that. -/
structure Mode where
  settled : Prop
  tracked : Prop
  settled_of_tracked : tracked → settled

namespace Mode

/-- Nothing is assumed. -/
def free : Mode := ⟨False, False, id⟩

end Mode

/-! ## What the statuses mean -/

/-- The day is not merged or deleted: a later run will look at it again. -/
def Open (s : World) (host : Host) (day : Day) : Prop :=
  s.manifest.status host day ≠ some .merged ∧ s.manifest.status host day ≠ some .deleted

/-- Every row of every remote final file is in the authoritative tree. -/
def Covered (s : World) (host : Host) (day : Day) : Prop :=
  ∀ exchange instrument file, s.remote.lookup (host, day, .tick exchange instrument) = some file →
    ∀ row ∈ file.rows, Covers (s.tickRows day exchange instrument) row

/-- Every remote final file is staged as it is. -/
def StagedAll (s : World) (host : Host) (day : Day) : Prop :=
  ∀ exchange instrument file, s.remote.lookup (host, day, .tick exchange instrument) = some file →
    s.staging.lookup (host, day, .tick exchange instrument) = some file

/-- A day whose remote files the cleaner depends on. -/
def Protected (s : World) (host : Host) (day : Day) : Prop :=
  s.pulling = some (host, day) ∨ s.manifest.status host day = some .verified ∨ ¬ Open s host day

/-- A row that a collector put in a final file is in the authoritative tree, or it is
still in the remote file and the day is open. -/
def Kept (s : World) (p : Persisted) : Prop :=
  Covers (s.tickRows p.day p.exchange p.instrument) p.row ∨
    (Open s p.host p.day ∧ ∃ file,
      s.remote.lookup (p.host, p.day, .tick p.exchange p.instrument) = some file ∧
        Covers file.rows p.row)

/-- The invariant. -/
structure Inv (mode : Mode) (s : World) : Prop where
  report_reported : ∀ host day file, s.remote.lookup (host, day, .report) = some file →
    (host, day) ∈ s.reported
  entry_reported : ∀ host day entry, s.manifest.entry host day = some entry →
    (host, day) ∈ s.reported
  staged_reported : ∀ host day file staged, s.staging.lookup (host, day, file) = some staged →
    (host, day) ∈ s.reported
  pulling_reported : ∀ host day, s.pulling = some (host, day) → (host, day) ∈ s.reported
  staged_copy : mode.settled → ∀ host day exchange instrument staged file,
    s.staging.lookup (host, day, .tick exchange instrument) = some staged →
    s.remote.lookup (host, day, .tick exchange instrument) = some file →
      staged.size = file.size → staged = file
  verified_staged : mode.settled → ∀ host day, s.manifest.status host day = some .verified →
    StagedAll s host day
  merged_covered : mode.settled → ∀ host day, ¬ Open s host day → Covered s host day
  persisted_kept : mode.tracked → ∀ p ∈ s.persisted, Kept s p

/-- What the remote side may do while a command runs. -/
structure Rely (mode : Mode) (s s' : World) : Prop where
  staging : s'.staging = s.staging
  ticks : s'.ticks = s.ticks
  klines : s'.klines = s.klines
  manifest : s'.manifest = s.manifest
  memory : s'.memory = s.memory
  unrecorded : s'.unrecorded = s.unrecorded
  pulling : s'.pulling = s.pulling
  log : s'.log = s.log
  reported : ∀ key ∈ s.reported, key ∈ s'.reported
  remote : mode.settled → ∀ host day exchange instrument, Protected s host day →
    s'.remote.lookup (host, day, .tick exchange instrument) =
      s.remote.lookup (host, day, .tick exchange instrument)

/-- The law of the statuses in one transition. -/
structure Lawful (s s' : World) : Prop where
  /-- `delete_day` is called only on a merged day. -/
  delete_called : ∀ host day, s'.log = s.log ++ [.deleteDay host day] →
    s.manifest.status host day = some .merged
  /-- A failed delete leaves the entry at merged. -/
  delete_failed : ∀ host day, s'.log = s.log ++ [.deleteFailed host day] →
    s'.manifest.status host day = some .merged
  /-- `merged` is reached only from `verified`. -/
  merged_entered : ∀ host day, s'.manifest.status host day = some .merged →
    s.manifest.status host day = some .merged ∨ s.manifest.status host day = some .verified
  /-- `merged` is left only for `deleted`, right after a delete that succeeded. -/
  merged_left : ∀ host day, s.manifest.status host day = some .merged →
    s'.manifest.status host day = some .merged ∨
      (s'.manifest.status host day = some .deleted ∧
        s.log.getLast? = some (.deleteDone host day))

/-- `delete_day` is called only on a day whose remote rows are all held. -/
def Backed (s s' : World) : Prop :=
  ∀ host day, s'.log = s.log ++ [.deleteDay host day] → Covered s host day

theorem Lawful.of_same (sameManifest : s'.manifest = s.manifest) (sameLog : s'.log = s.log) :
    Lawful s s' where
  delete_called host day grown := by simp [sameLog] at grown
  delete_failed host day grown := by simp [sameLog] at grown
  merged_entered host day merged := .inl (by rwa [sameManifest] at merged)
  merged_left host day merged := .inl (by rwa [sameManifest])

/-- A transition that keeps every status and logs something that is not a delete. -/
theorem Lawful.of_status
    (sameStatus : ∀ host day, s'.manifest.status host day = s.manifest.status host day)
    (log : s'.log = s.log ++ [act])
    (called : ∀ host day, act = .deleteDay host day → s.manifest.status host day = some .merged)
    (failed : ∀ host day, act = .deleteFailed host day → s.manifest.status host day = some .merged) :
    Lawful s s' where
  delete_called host day grown := by
    rw [log] at grown
    exact called host day (by simpa using grown)
  delete_failed host day grown := by
    rw [log] at grown
    rw [sameStatus]
    exact failed host day (by simpa using grown)
  merged_entered host day merged := .inl (by rwa [sameStatus] at merged)
  merged_left host day merged := .inl (by rwa [sameStatus])

section Interference

variable {mode : Mode} {s s' : World}

theorem Rely.refl (s : World) : Rely mode s s where
  staging := rfl
  ticks := rfl
  klines := rfl
  manifest := rfl
  memory := rfl
  unrecorded := rfl
  pulling := rfl
  log := rfl
  reported _ mem := mem
  remote _ _ _ _ _ _ := rfl

variable (rely : Rely mode s s')
include rely

theorem Rely.open_iff (host : Host) (day : Day) :
    Open s' host day ↔ Open s host day := by
  unfold Open
  rw [rely.manifest]

theorem Rely.protected (safe : Protected s host day) :
    Protected s' host day := by
  unfold Protected
  rw [rely.pulling, rely.manifest, rely.open_iff]
  exact safe

omit rely in
theorem Rely.trans {a b c : World} (ab : Rely mode a b) (bc : Rely mode b c) : Rely mode a c where
  staging := bc.staging.trans ab.staging
  ticks := bc.ticks.trans ab.ticks
  klines := bc.klines.trans ab.klines
  manifest := bc.manifest.trans ab.manifest
  memory := bc.memory.trans ab.memory
  unrecorded := bc.unrecorded.trans ab.unrecorded
  pulling := bc.pulling.trans ab.pulling
  log := bc.log.trans ab.log
  reported key mem := bc.reported key (ab.reported key mem)
  remote settled host day exchange instrument safe :=
    (bc.remote settled host day exchange instrument (ab.protected safe)).trans
      (ab.remote settled host day exchange instrument safe)

/-! ## What interference leaves standing -/

theorem Rely.tickRows (day : Day) (exchange : ExchangeId)
    (instrument : InstrumentId) :
    s'.tickRows day exchange instrument = s.tickRows day exchange instrument := by
  unfold World.tickRows
  rw [rely.ticks]

theorem Rely.covered (settled : mode.settled)
    (safe : Protected s host day) (covered : Covered s host day) : Covered s' host day := by
  intro exchange instrument file found row mem
  rw [rely.remote settled host day exchange instrument safe] at found
  rw [rely.tickRows]
  exact covered exchange instrument file found row mem

theorem Rely.stagedAll (settled : mode.settled)
    (safe : Protected s host day) (staged : StagedAll s host day) : StagedAll s' host day := by
  intro exchange instrument file found
  rw [rely.remote settled host day exchange instrument safe] at found
  rw [rely.staging]
  exact staged exchange instrument file found

end Interference

/-! ## Saving the manifest -/

/-- When the entry's K lines were built, if it exists and they were. -/
def klinedAt (manifest : Manifest) (host : Host) (day : Day) : Option String :=
  (manifest.entry host day).bind DayEntry.klinedAt

/-- The object in memory and the file agree on every entry but this one, and on its
K-line stamp. -/
structure Agree (s : World) (host : Host) (day : Day) : Prop where
  others : ∀ host' day', (host', day') ≠ (host, day) →
    s.memory.entry host' day' = s.manifest.entry host' day'
  stamp : klinedAt s.memory host day = klinedAt s.manifest host day

theorem klinedAt_mark {manifest : Manifest} {status : Status} {files : Option (List FileRecord)}
    {error : Option String} {now : String} :
    klinedAt (manifest.mark host day status files error now) host day =
      klinedAt manifest host day := by
  rw [klinedAt, Manifest.entry_mark_self, Option.bind_some, DayEntry.advance_klinedAt, klinedAt]
  cases manifest.entry host day with
  | none => rfl
  | some entry => rfl

/-- When a status may be written. -/
def MayMark (mode : Mode) (s : World) (host : Host) (day : Day) : Status → Prop
  | .discovered | .pulled | .failed => Open s host day
  | .verified => Open s host day ∧ (mode.settled → StagedAll s host day)
  | .merged =>
    (s.manifest.status host day = some .verified ∨
      (s.manifest.status host day = some .merged ∧ day ∉ s.unrecorded)) ∧
      (mode.settled → Covered s host day)
  | .deleted =>
    s.manifest.status host day = some .merged ∧
      s.log.getLast? = some (.deleteDone host day)

section Saving

variable {mode : Mode} {s s' : World} {host : Host} {day : Day} {status : Status}
  {files : Option (List FileRecord)} {error : Option String} {now : String}

/-- The statuses of the file after a save. -/
theorem saved_status (agree : Agree s host day)
    (saved : s'.manifest = s.memory.mark host day status files error now) (host' : Host)
    (day' : Day) :
    s'.manifest.status host' day' =
      if (host', day') = (host, day) then some status else s.manifest.status host' day' := by
  rw [saved, Manifest.status_mark]
  split
  · rfl
  · rename_i other
    rw [Manifest.status, agree.others host' day' other, Manifest.status]

theorem MayMark.covered_of_closed (inv : Inv mode s) (may : MayMark mode s host day status)
    (closed : status = .merged ∨ status = .deleted) (settled : mode.settled) :
    Covered s host day := by
  rcases closed with rfl | rfl
  · exact may.2 settled
  · exact inv.merged_covered settled host day fun isOpen => isOpen.1 may.1

theorem MayMark.open_of_open (may : MayMark mode s host day status)
    (opens : status ≠ .merged ∧ status ≠ .deleted) : Open s host day := by
  cases status with
  | discovered | pulled | failed => exact may
  | verified => exact may.1
  | merged => exact absurd rfl opens.1
  | deleted => exact absurd rfl opens.2

/-- A save that may be made keeps the invariant. -/
theorem Inv.saved (inv : Inv mode s) (agree : Agree s host day)
    (may : MayMark mode s host day status) (reported : (host, day) ∈ s.reported)
    (saved : s'.manifest = s.memory.mark host day status files error now)
    (remote : s'.remote = s.remote) (staging : s'.staging = s.staging) (ticks : s'.ticks = s.ticks)
    (reportedSame : s'.reported = s.reported) (persisted : s'.persisted = s.persisted)
    (pulling : s'.pulling = s.pulling) : Inv mode s' := by
  have statuses := saved_status agree saved
  have tickRows : ∀ day exchange instrument,
      s'.tickRows day exchange instrument = s.tickRows day exchange instrument := by
    intro day exchange instrument
    rw [World.tickRows, ticks, World.tickRows]
  have covered : ∀ host' day', Covered s host' day' → Covered s' host' day' := by
    intro host' day' covered exchange instrument file found row mem
    rw [remote] at found
    rw [tickRows]
    exact covered exchange instrument file found row mem
  have openOther : ∀ host' day', (host', day') ≠ (host, day) →
      (Open s' host' day' ↔ Open s host' day') := by
    intro host' day' other
    rw [Open, statuses, if_neg other, Open]
  refine ⟨?_, ?_, ?_, ?_, ?_, ?_, ?_, ?_⟩
  · rw [remote, reportedSame]
    exact inv.report_reported
  · intro host' day' entry found
    rw [reportedSame]
    by_cases same : (host', day') = (host, day)
    · rwa [same]
    · rw [saved, Manifest.entry_mark_ne same, agree.others host' day' same] at found
      exact inv.entry_reported host' day' entry found
  · rw [staging, reportedSame]
    exact inv.staged_reported
  · rw [pulling, reportedSame]
    exact inv.pulling_reported
  · rw [staging, remote]
    exact inv.staged_copy
  · intro settled host' day' verified exchange instrument file found
    rw [statuses] at verified
    rw [staging]
    rw [remote] at found
    split at verified
    · rename_i same
      cases same
      cases verified
      exact may.2 settled exchange instrument file found
    · exact inv.verified_staged settled host' day' verified exchange instrument file found
  · intro settled host' day' closed
    by_cases same : (host', day') = (host, day)
    · cases same
      rw [Open, statuses, if_pos rfl] at closed
      refine covered _ _ (may.covered_of_closed inv ?_ settled)
      simpa only [ne_eq, not_and_or, not_not, Option.some.injEq] using closed
    · exact covered _ _ (inv.merged_covered settled host' day' fun isOpen =>
        closed ((openOther host' day' same).mpr isOpen))
  · intro on p mem
    rw [persisted] at mem
    unfold Kept
    rw [tickRows, remote]
    rcases inv.persisted_kept on p mem with held | ⟨isOpen, file, found, held⟩
    · exact .inl held
    · by_cases same : (p.host, p.day) = (host, day)
      · obtain ⟨hostEq, dayEq⟩ := Prod.mk.inj same
        by_cases closed : status = .merged ∨ status = .deleted
        · have all := may.covered_of_closed inv closed (mode.settled_of_tracked on)
          rw [← hostEq, ← dayEq] at all
          exact .inl (held.trans fun kept inFile => all _ _ file found kept inFile)
        · rw [not_or] at closed
          refine .inr ⟨?_, file, found, held⟩
          rw [Open, statuses, if_pos same]
          exact ⟨fun h => closed.1 (Option.some.inj h), fun h => closed.2 (Option.some.inj h)⟩
      · exact .inr ⟨(openOther p.host p.day same).mpr isOpen, file, found, held⟩

theorem Lawful.saved (agree : Agree s host day) (may : MayMark mode s host day status)
    (saved : s'.manifest = s.memory.mark host day status files error now) (log : s'.log = s.log) :
    Lawful s s' := by
  have statuses := saved_status agree saved
  refine ⟨?_, ?_, ?_, ?_⟩
  iterate 2
    · intro host' day' grown
      simp [log] at grown
  · intro host' day' merged
    rw [statuses] at merged
    split at merged
    · rename_i same
      cases same
      cases merged
      exact (may.1.imp_right And.left).symm
    · exact .inl merged
  · intro host' day' merged
    rw [statuses]
    split
    · rename_i same
      cases same
      by_cases opens : status ≠ .merged ∧ status ≠ .deleted
      · exact absurd merged (may.open_of_open opens).1
      · rcases (by simpa only [ne_eq, not_and_or, not_not] using opens :
            status = .merged ∨ status = .deleted) with rfl | rfl
        · exact .inl rfl
        · exact .inr ⟨rfl, may.2⟩
    · exact .inl merged

/-- The marked entry keeps its stamp. -/
theorem saved_entry_stamp (agree : Agree s host day) {entry : DayEntry}
    (found : (s.saved host day status files error now).manifest.entry host day = some entry) :
    entry.status = status ∧ entry.klinedAt = klinedAt s.manifest host day := by
  have marked : (s.saved host day status files error now).manifest.entry host day = _ :=
    Manifest.entry_mark_self
  have stamp : klinedAt (s.memory.mark host day status files error now) host day =
      klinedAt s.manifest host day := klinedAt_mark.trans agree.stamp
  rw [klinedAt, Manifest.entry_mark_self, Option.bind_some] at stamp
  rw [marked] at found
  cases found
  exact ⟨DayEntry.advance_status _ _ _ _ _, stamp⟩

theorem saved_entry_ne (agree : Agree s host day) {host' : Host} {day' : Day}
    (other : (host', day') ≠ (host, day)) :
    (s.saved host day status files error now).manifest.entry host' day' =
      s.manifest.entry host' day' :=
  (Manifest.entry_mark_ne other).trans (agree.others host' day' other)

end Saving

/-! ## What one step can do -/

/-- The K lines of the day are those of its current ticks. -/
def Fresh (day : Day) (s : World) : Prop :=
  ∀ exchange instrument rows, s.ticks.lookup (day, exchange, instrument) = some rows →
    config.builds exchange instrument = true →
      s.klines.lookup (day, exchange, instrument) = some rows

/-- A build of the day came to its end: it is fresh, or some file could not be read. -/
def Built (day : Day) (s : World) : Prop :=
  Fresh config day s ∨ ∃ exchange instrument, .skippedUnreadable day exchange instrument ∈ s.log

/-- Everything a step can do to ticks, K lines, manifest and log, with its guard.  `ok`
says which K-line settings are in use. -/
inductive Effect (mode : Mode) (ok : KlineConfig → Prop) (s : World) : World → Prop
  | quiet {s' : World} (ticks : s'.ticks = s.ticks) (klines : s'.klines = s.klines)
      (manifest : s'.manifest = s.manifest) (unrecorded : s'.unrecorded = s.unrecorded)
      (log : s'.log = s.log) : Effect mode ok s s'
  | called (host : Host) (day : Day) (needless : day ∉ s.manifest.daysNeedingKline) :
      Effect mode ok s { s with log := s.log ++ [.deleteDay host day] }
  | ended (act : Act) (host : Host) (day : Day)
      (end_ : act = .deleteDone host day ∨ act = .deleteFailed host day) :
      Effect mode ok s { s with log := s.log ++ [act] }
  | saved {host : Host} {day : Day} {status : Status} {files : Option (List FileRecord)}
      {error : Option String} {now : String} (agree : Agree s host day)
      (may : MayMark mode s host day status) :
      Effect mode ok s (s.saved host day status files error now)
  | merged (day : Day) (exchange : ExchangeId) (instrument : InstrumentId) (incoming : List Row) :
      Effect mode ok s (s.mergeTicks day exchange instrument incoming)
  | built (day : Day) (exchange : ExchangeId) (instrument : InstrumentId) :
      Effect mode ok s { s with
        klines := s.klines.insert (day, exchange, instrument) (s.tickRows day exchange instrument) }
  | broken (day : Day) (exchange : ExchangeId) (instrument : InstrumentId)
      (stale : s.klines.lookup (day, exchange, instrument) ≠
        some (s.tickRows day exchange instrument)) :
      Effect mode ok s { s with klines := s.klines.erase (day, exchange, instrument) }
  | skipped (day : Day) (exchange : ExchangeId) (instrument : InstrumentId) :
      Effect mode ok s { s with log := s.log ++ [.skippedUnreadable day exchange instrument] }
  | klined {config : KlineConfig} (day : Day) (now : String) (synced : s.memory = s.manifest)
      (inUse : ok config) (built : Built config day s) :
      Effect mode ok s { s with
        memory := s.memory.markKlined day now
        manifest := s.memory.markKlined day now
        log := s.log ++ [.markKlined day (unmergedHosts s.memory day)] }

/-- The guarantee of every step. -/
structure Step (mode : Mode) (ok : KlineConfig → Prop) (s s' : World) : Prop where
  lawful : Lawful s s'
  backed : mode.settled → Backed s s'
  effect : Effect mode ok s s'

section Steps

variable {mode : Mode} {ok : KlineConfig → Prop} {s s' : World}

theorem Backed.of_log (log : s'.log = s.log ++ [act])
    (other : ∀ host day, act ≠ .deleteDay host day) : Backed s s' := by
  intro host day grown
  rw [log] at grown
  exact absurd (by simpa using grown) (other host day)

theorem Backed.of_same (log : s'.log = s.log) : Backed s s' := by
  intro host day grown
  simp [log] at grown

/-- A step that logs nothing. -/
theorem Step.unlogged (lawful : Lawful s s') (log : s'.log = s.log)
    (effect : Effect mode ok s s') : Step mode ok s s' :=
  ⟨lawful, fun _ => .of_same log, effect⟩

theorem Step.quiet (ticks : s'.ticks = s.ticks) (klines : s'.klines = s.klines)
    (manifest : s'.manifest = s.manifest) (unrecorded : s'.unrecorded = s.unrecorded)
    (log : s'.log = s.log) : Step mode ok s s' :=
  .unlogged (.of_same manifest log) log (.quiet ticks klines manifest unrecorded log)

theorem Step.refl (s : World) : Step mode ok s s :=
  .quiet rfl rfl rfl rfl rfl

end Steps
end BtApiCtp.Cleaner
