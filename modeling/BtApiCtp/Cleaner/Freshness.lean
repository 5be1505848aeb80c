/-
# Cleaner.Freshness -- days that need no K lines have current ones

`days_needing_kline` is the only memory of which K lines are out of date.  The claim it
stands for is `Current`: a day that is not listed, and whose ticks no merge changed
without recording it, has K lines built from its current ticks.

`unlisted_days_fresh` proves it over every run, whatever the remote side does, as long as
`mark_klined` stamps a day only when all of its hosts are merged and no build skips a file
it cannot read.  The first condition is not met by the code as it stands: `mark_klined`
also stamps the entries of hosts that are still to be merged, and the merge that follows
leaves the day unlisted (`late_host_unlisted`).
-/
import BtApiCtp.Cleaner.Guarantee

namespace BtApiCtp.Cleaner

open Theory Collector

variable {host : Host} {day : Day}

/-! ## The condition -/

/-- The K-line stamp went to merged hosts only; no file was skipped. -/
def Act.Benign : Act → Prop
  | .markKlined _ unmerged => unmerged = []
  | .skippedUnreadable _ _ _ => False
  | _ => True

instance : DecidablePred Act.Benign
  | .markKlined _ unmerged => inferInstanceAs (Decidable (unmerged = []))
  | .skippedUnreadable _ _ _ => inferInstanceAs (Decidable False)
  | .deleteDay _ _ | .deleteFailed _ _ | .deleteDone _ _ => inferInstanceAs (Decidable True)

/-- Nothing that was done so far breaks the stamp's meaning. -/
def Benign (s : World) : Prop := ∀ act ∈ s.log, act.Benign

instance (s : World) : Decidable (Benign s) := inferInstanceAs (Decidable (∀ _ ∈ _, _))

/-! ## The invariant -/

/-- What an unlisted day promises. -/
structure Current (kline : KlineConfig) (s : World) : Prop where
  /-- Only a merged entry carries a stamp. -/
  unstamped : ∀ host day, Open s host day → klinedAt s.manifest host day = none
  fresh : ∀ day, day ∉ s.unrecorded → day ∉ s.manifest.daysNeedingKline → Fresh kline day s

section Effects

variable {mode : Mode} {kline : KlineConfig} {ok : KlineConfig → Prop} {s s' : World}

theorem Current.congr (current : Current kline s) (ticks : s'.ticks = s.ticks)
    (klines : s'.klines = s.klines) (manifest : s'.manifest = s.manifest)
    (unrecorded : s'.unrecorded = s.unrecorded) : Current kline s' := by
  constructor
  · intro host day isOpen
    rw [Open, manifest] at isOpen
    rw [manifest]
    exact current.unstamped host day isOpen
  · intro day recorded unlisted
    rw [unrecorded] at recorded
    rw [manifest] at unlisted
    rw [Fresh, ticks, klines]
    exact current.fresh day recorded unlisted

/-- An entry is of an open day, or it is merged or deleted. -/
theorem status_of_not_open (closed : ¬ Open s host day) :
    ∃ entry, s.manifest.entry host day = some entry ∧
      (entry.status = .merged ∨ entry.status = .deleted) := by
  rw [Open, Manifest.status] at closed
  cases found : s.manifest.entry host day with
  | none =>
    rw [found] at closed
    exact absurd ⟨by simp, by simp⟩ closed
  | some entry =>
    rw [found] at closed
    refine ⟨entry, rfl, ?_⟩
    simpa only [ne_eq, not_and_or, not_not, Option.map_some, Option.some.injEq] using closed

/-- A day is listed if one of its closed entries has no stamp. -/
theorem needing_iff :
    day ∈ s.manifest.daysNeedingKline ↔
      ∃ host, ¬ Open s host day ∧ klinedAt s.manifest host day = none := by
  rw [Manifest.mem_daysNeedingKline]
  constructor
  · rintro ⟨host, entry, found, unstamped, closed⟩
    refine ⟨host, fun isOpen => ?_, by rw [klinedAt, found, Option.bind_some, unstamped]⟩
    rw [Open, Manifest.status, found] at isOpen
    rcases closed with merged | deleted
    · exact isOpen.1 (congrArg some merged)
    · exact isOpen.2 (congrArg some deleted)
  · rintro ⟨host, closed, unstamped⟩
    obtain ⟨entry, found, status⟩ := status_of_not_open closed
    rw [klinedAt, found, Option.bind_some] at unstamped
    exact ⟨host, entry, found, unstamped, status⟩

section Saved

variable {host : Host} {day : Day} {status : Status} {files : Option (List FileRecord)}
  {error : Option String} {now : String}

theorem klinedAt_saved (agree : Agree s host day) (host' : Host) (day' : Day) :
    klinedAt (s.saved host day status files error now).manifest host' day' =
      klinedAt s.manifest host' day' := by
  by_cases same : (host', day') = (host, day)
  · cases same
    exact klinedAt_mark.trans agree.stamp
  · rw [klinedAt, saved_entry_ne agree same, klinedAt]

/-- A save closes days and opens none. -/
theorem open_of_saved (agree : Agree s host day) (may : MayMark mode s host day status)
    {host' : Host} {day' : Day}
    (isOpen : Open (s.saved host day status files error now) host' day') : Open s host' day' := by
  rw [Open, saved_status agree rfl] at isOpen
  split at isOpen
  · rename_i same
    cases same
    exact may.open_of_open
      ⟨fun merged => isOpen.1 (congrArg some merged), fun deleted => isOpen.2 (congrArg some deleted)⟩
  · exact isOpen

/-- The merge that is recorded by a save lists its day, unless it changed nothing. -/
theorem Current.saved (current : Current kline s) (agree : Agree s host day)
    (may : MayMark mode s host day status) :
    Current kline (s.saved host day status files error now) := by
  constructor
  · intro host' day' isOpen
    rw [klinedAt_saved agree]
    exact current.unstamped host' day' (open_of_saved agree may isOpen)
  · intro day' recorded unlisted
    have before : day' ∉ s.manifest.daysNeedingKline := by
      intro listed
      obtain ⟨host', closed, unstamped⟩ := needing_iff.mp listed
      refine unlisted (needing_iff.mpr ⟨host', fun isOpen => ?_, ?_⟩)
      · exact closed (open_of_saved agree may isOpen)
      · rwa [klinedAt_saved agree]
    refine current.fresh day' (fun pending => ?_) before
    -- the day was pending, so this save is the one that records it as merged
    have merged : status = .merged ∧ day' = day := by
      by_contra other
      refine recorded ?_
      change day' ∈ if status = .merged then s.unrecorded.filter (· ≠ day) else s.unrecorded
      split
      · rename_i isMerged
        exact List.mem_filter.mpr ⟨pending, by simpa using fun same => other ⟨isMerged, same⟩⟩
      · exact pending
    obtain ⟨rfl, rfl⟩ := merged
    rcases may.1 with verified | ⟨_, settled⟩
    · have wasOpen : Open s host day' := by
        rw [Open, verified]
        constructor <;> simp
      refine unlisted (needing_iff.mpr ⟨host, fun isOpen => ?_, ?_⟩)
      · rw [Open, saved_status agree rfl, if_pos rfl] at isOpen
        exact isOpen.1 rfl
      · rw [klinedAt_saved agree]
        exact current.unstamped host day' wasOpen
    · exact settled pending

end Saved

/-- A merge that changes rows makes its day pending. -/
theorem Current.merged (current : Current kline s) (day : Day) (exchange : ExchangeId)
    (instrument : InstrumentId) (incoming : List Row) :
    Current kline (s.mergeTicks day exchange instrument incoming) := by
  unfold World.mergeTicks
  dsimp only
  split
  · exact current
  · rename_i written
    refine ⟨current.unstamped, fun day' recorded unlisted exchange' instrument' rows found builds => ?_⟩
    dsimp only at recorded found ⊢
    split at recorded
    · rename_i unchanged
      rw [unchanged, Dict.lookup_insert_eq] at found
      refine current.fresh day' recorded unlisted exchange' instrument' rows ?_ builds
      split at found
      · rename_i same
        rw [same]
        rw [unchanged] at written
        unfold World.tickRows at found written
        cases held : s.ticks.lookup (day, exchange, instrument) with
        | none =>
          rw [held] at written
          exact absurd rfl written
        | some rows' => rwa [held] at found
      · exact found
    · rw [List.mem_cons, not_or] at recorded
      rw [AList.lookup_insert_ne fun same => recorded.1 (congrArg Prod.fst same)] at found
      exact current.fresh day' recorded.2 unlisted exchange' instrument' rows found builds

theorem Current.built (current : Current kline s) (day : Day) (exchange : ExchangeId)
    (instrument : InstrumentId) :
    Current kline { s with
      klines := s.klines.insert (day, exchange, instrument) (s.tickRows day exchange instrument) } := by
  refine ⟨current.unstamped, fun day' recorded unlisted exchange' instrument' rows found builds => ?_⟩
  have held := current.fresh day' recorded unlisted exchange' instrument' rows found builds
  dsimp only at found ⊢
  rw [Dict.lookup_insert_eq]
  split
  · rename_i same
    rw [same] at found
    rw [World.tickRows, found, Option.getD_some]
  · exact held

/-- A build that breaks off destroys only K lines that were out of date. -/
theorem Current.broken (current : Current kline s) {exchange : ExchangeId}
    {instrument : InstrumentId} (stale : s.klines.lookup (day, exchange, instrument) ≠
      some (s.tickRows day exchange instrument)) :
    Current kline { s with klines := s.klines.erase (day, exchange, instrument) } := by
  refine ⟨current.unstamped, fun day' recorded unlisted exchange' instrument' rows found builds => ?_⟩
  have held := current.fresh day' recorded unlisted exchange' instrument' rows found builds
  dsimp only at found ⊢
  rw [Dict.lookup_erase_eq]
  split
  · rename_i same
    rw [same] at found held
    rw [World.tickRows, found] at stale
    exact absurd held stale
  · exact held

theorem open_of_unmergedHosts_nil (all : unmergedHosts s.manifest day = []) {entry : DayEntry}
    (found : s.manifest.entry host day = some entry) : ¬ Open s host day := by
  intro isOpen
  rw [Open, Manifest.status, found] at isOpen
  have listed : host ∈ unmergedHosts s.manifest day := by
    refine List.mem_map.mpr ⟨((host, day), entry), List.mem_filter.mpr ⟨?_, ?_⟩, rfl⟩
    · exact Dict.mem_items.mpr found
    · simpa using isOpen
  rw [all] at listed
  cases listed

/-- A stamp that goes to merged hosts only, after a build that read every file. -/
theorem Current.klined (current : Current kline s) {now : String} {log : List Act}
    (all : unmergedHosts s.manifest day = []) (fresh : Fresh kline day s) :
    Current kline { s with
      memory := s.manifest.markKlined day now
      manifest := s.manifest.markKlined day now
      log := log } := by
  constructor
  · intro host day' isOpen
    rw [Open, Manifest.status_markKlined] at isOpen
    have before := current.unstamped host day' isOpen
    rw [klinedAt, Manifest.entry_markKlined]
    rw [klinedAt] at before
    cases found : s.manifest.entry host day' with
    | none => rfl
    | some entry =>
      by_cases same : day' = day
      · rw [same] at found isOpen
        exact absurd isOpen (open_of_unmergedHosts_nil all found)
      · rw [found] at before
        rw [Option.map_some, if_neg same]
        exact before
  · intro day' recorded unlisted
    by_cases same : day' = day
    · rw [same]
      exact fresh
    · refine current.fresh day' recorded fun listed => unlisted ?_
      obtain ⟨host, entry, found, needs⟩ := Manifest.mem_daysNeedingKline.mp listed
      refine Manifest.mem_daysNeedingKline.mpr ⟨host, entry, ?_, needs⟩
      rw [Manifest.entry_markKlined, found, Option.map_some, if_neg same]

/-! ## One step and a whole run -/

theorem Effect.log_grows (effect : Effect mode ok s s') : ∃ acts, s'.log = s.log ++ acts := by
  cases effect with
  | quiet ticks klines manifest unrecorded log => exact ⟨[], by rw [log, List.append_nil]⟩
  | called host day | ended act host day | skipped day exchange instrument | klined day now =>
    exact ⟨_, rfl⟩
  | saved agree may | built day exchange instrument | broken day exchange instrument =>
    exact ⟨[], (List.append_nil _).symm⟩
  | merged day exchange instrument incoming =>
    obtain ⟨ticks, unrecorded, frame⟩ := mergeTicks_frame s day exchange instrument incoming
    exact ⟨[], by rw [frame, List.append_nil]⟩

theorem Effect.benign_before (effect : Effect mode ok s s') (benign : Benign s') : Benign s := by
  obtain ⟨acts, grown⟩ := effect.log_grows
  intro act mem
  exact benign act (grown ▸ List.mem_append_left acts mem)

theorem Built.fresh (built : Built kline day s) (benign : Benign s) : Fresh kline day s := by
  rcases built with fresh | ⟨exchange, instrument, skipped⟩
  · exact fresh
  · exact absurd (benign _ skipped) id

/-- Every benign step keeps the promise. -/
theorem Effect.current (effect : Effect mode (· = kline) s s') (benign : Benign s')
    (current : Current kline s) : Current kline s' := by
  have benignBefore := effect.benign_before benign
  cases effect with
  | quiet ticks klines manifest unrecorded log =>
    exact current.congr ticks klines manifest unrecorded
  | called host day | ended act host day => exact current.congr rfl rfl rfl rfl
  | saved agree may => exact current.saved agree may
  | merged day exchange instrument incoming =>
    exact current.merged day exchange instrument incoming
  | built day exchange instrument => exact current.built day exchange instrument
  | broken day exchange instrument stale => exact current.broken stale
  | skipped day exchange instrument =>
    exact absurd (benign _ (List.mem_append_right _ List.mem_cons_self)) id
  | klined day now synced inUse built =>
    have all : unmergedHosts s.memory day = [] :=
      benign _ (List.mem_append_right _ List.mem_cons_self)
    rw [synced] at all ⊢
    exact current.klined all (inUse ▸ built.fresh benignBefore)

end Effects

end BtApiCtp.Cleaner
