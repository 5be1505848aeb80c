/-
# Cleaner.Remote -- the remote side beside a running cleaner

Which changes of a remote tree the cleaner can stand (`Harmless`), that they keep the
invariant and are interference within `Rely`, and with them the soundness of the whole
machine.
-/
import BtApiCtp.Cleaner.Commands

namespace BtApiCtp.Cleaner

open Theory Collector

variable {host : Host} {day : Day} {exchange : ExchangeId} {instrument : InstrumentId}
  {remote : Dict FileKey File}

/-- Writing `content` into a day is harmless: the day is not being pulled, nor verified or
beyond, and no stale staged copy has the new size. -/
def HarmlessWrite (s : World) (host : Host) (day : Day) (file : DayFile) (content : Option Nat) :
    Prop :=
  ¬ Protected s host day ∧ ∀ staged, s.staging.lookup (host, day, file) = some staged →
    content ≠ some staged.size

/-- A change of a remote tree that the cleaner can stand, under what `mode` assumes. -/
def Harmless (mode : Mode) (s : World) : RemoteAct → Prop
  | .compact host day exchange instrument _ mergeExisting size =>
    (mode.settled → HarmlessWrite s host day (.tick exchange instrument) (some size)) ∧
      (mode.tracked → mergeExisting = true)
  | .finalize _ _ _ => True
  | .replace host day file content =>
    ¬ mode.tracked ∧ (mode.settled → HarmlessWrite s host day file (content.map File.size))

section Remote

variable {mode : Mode} {ok : KlineConfig → Prop} {s : World}

theorem open_of_unprotected (free : ¬ Protected s host day) : Open s host day := by
  by_contra closed
  exact free (.inr (.inr closed))

theorem unverified_of_unprotected (free : ¬ Protected s host day) :
    s.manifest.status host day ≠ some .verified := fun verified => free (.inr (.inl verified))

/-- Writing a remote tick file of an unprotected day keeps the invariant, if no staged copy
has its size and whatever the old file kept of the persisted rows, the new one keeps. -/
theorem Inv.written (inv : Inv mode s) {content : Option File} {persisted : List Persisted}
    (harmless : mode.settled →
      HarmlessWrite s host day (.tick exchange instrument) (content.map File.size))
    (written : ∀ key, remote.lookup key =
      if key = (host, day, .tick exchange instrument) then content else s.remote.lookup key)
    (kept : mode.tracked → ∀ p ∈ persisted, Kept { s with remote, persisted } p) :
    Inv mode { s with remote, persisted } := by
  have other : ∀ host' day' exchange' instrument', (host', day') ≠ (host, day) →
      remote.lookup (host', day', .tick exchange' instrument') =
        s.remote.lookup (host', day', .tick exchange' instrument') := by
    intro host' day' exchange' instrument' different
    rw [written, if_neg]
    intro same
    cases same
    exact different rfl
  refine ⟨?_, inv.2, inv.3, inv.4, ?_, ?_, ?_, kept⟩
  · intro host' day' file found
    rw [written, if_neg (by simp)] at found
    exact inv.report_reported host' day' file found
  · intro settled host' day' exchange' instrument' staged source inStaging inRemote sameSize
    rw [written] at inRemote
    split at inRemote
    · rename_i same
      rw [same] at inStaging
      refine absurd ?_ ((harmless settled).2 staged inStaging)
      rw [inRemote, Option.map_some, sameSize]
    · exact inv.staged_copy settled host' day' exchange' instrument' staged source inStaging inRemote sameSize
  · intro settled host' day' verified exchange' instrument' file found
    by_cases same : (host', day') = (host, day)
    · cases same
      exact absurd verified (unverified_of_unprotected (harmless settled).1)
    · rw [other host' day' exchange' instrument' same] at found
      exact inv.verified_staged settled host' day' verified exchange' instrument' file found
  · intro settled host' day' closed exchange' instrument' file found
    by_cases same : (host', day') = (host, day)
    · cases same
      exact absurd (open_of_unprotected (harmless settled).1) closed
    · rw [other host' day' exchange' instrument' same] at found
      exact inv.merged_covered settled host' day' closed exchange' instrument' file found

/-- A compaction that merges keeps every persisted row, the new ones included. -/
theorem kept_compact (inv : Inv mode s) {existing rows : List Row} {size : Nat}
    (free : ¬ Protected s host day)
    (read : existingRows s.remote (host, day, .tick exchange instrument) true = .ok existing)
    (on : mode.tracked) :
    ∀ p ∈ s.persisted ++ rows.map fun row => (⟨host, day, exchange, instrument, row⟩ : Persisted),
      Kept { s with
        remote := s.remote.insert (host, day, .tick exchange instrument)
          ⟨size, .ok (mergeRows existing rows)⟩
        persisted := s.persisted ++ rows.map fun row => ⟨host, day, exchange, instrument, row⟩ } p := by
  intro p mem
  rcases List.mem_append.mp mem with old | new
  · rcases inv.persisted_kept on p old with held | ⟨isOpen, file, found, held⟩
    · exact .inl held
    · refine .inr ⟨isOpen, ?_⟩
      change ∃ file, (s.remote.insert _ _).lookup _ = some file ∧ _
      rw [Dict.lookup_insert_eq]
      split
      · rename_i same
        rw [same] at found
        rw [existingRows, if_pos rfl, found] at read
        have content : file.content = .ok existing := read
        refine ⟨_, rfl, covers_mergeRows_left ?_⟩
        rwa [File.rows, content] at held
      · exact ⟨file, found, held⟩
  · obtain ⟨row, inRows, rfl⟩ := List.mem_map.mp new
    refine .inr ⟨open_of_unprotected free, ⟨size, .ok (mergeRows existing rows)⟩, ?_, ?_⟩
    · exact AList.lookup_insert s.remote
    · exact covers_mergeRows_right (LatestWins.covers_of_mem inRows)

/-- Any change of the reports keeps the invariant, as long as it is noted. -/
theorem Inv.reportWritten (inv : Inv mode s) {reported : List (Host × Day)}
    (ticks : ∀ host day exchange instrument, remote.lookup (host, day, .tick exchange instrument) =
      s.remote.lookup (host, day, .tick exchange instrument))
    (grown : ∀ key ∈ s.reported, key ∈ reported)
    (noted : ∀ host day file, remote.lookup (host, day, .report) = some file →
      (host, day) ∈ reported) : Inv mode { s with remote, reported } := by
  refine ⟨noted, ?_, ?_, ?_, ?_, ?_, ?_, ?_⟩
  · exact fun host day entry found => grown _ (inv.entry_reported host day entry found)
  · exact fun host day file staged found => grown _ (inv.staged_reported host day file staged found)
  · exact fun host day under => grown _ (inv.pulling_reported host day under)
  · intro settled host day exchange instrument staged source inStaging inRemote
    rw [ticks] at inRemote
    exact inv.staged_copy settled host day exchange instrument staged source inStaging inRemote
  · intro settled host day verified exchange instrument file found
    rw [ticks] at found
    exact inv.verified_staged settled host day verified exchange instrument file found
  · intro settled host day closed exchange instrument file found
    rw [ticks] at found
    exact inv.merged_covered settled host day closed exchange instrument file found
  · intro on p mem
    refine (inv.persisted_kept on p mem).imp_right fun ⟨isOpen, file, found, held⟩ => ?_
    exact ⟨isOpen, file, (ticks _ _ _ _).trans found, held⟩

theorem ne_of_protected {host' : Host} {day' : Day} {file file' : DayFile}
    (free : ¬ Protected s host day) (guarded : Protected s host' day') :
    (host', day', file') ≠ (host, day, file) := by
  intro same
  cases same
  exact free guarded

/-- A harmless change of a remote tree keeps the invariant and is interference a running
command can stand. -/
theorem Harmless.apply (inv : Inv mode s) {act : RemoteAct} (harmless : Harmless mode s act) :
    Inv mode (act.apply s) ∧ Step mode ok s (act.apply s) ∧ Rely mode s (act.apply s) := by
  cases act with
  | compact host day exchange instrument rows mergeExisting size =>
    obtain ⟨write, merges⟩ := harmless
    unfold RemoteAct.apply
    dsimp only
    cases read : existingRows s.remote (host, day, .tick exchange instrument) mergeExisting with
    | error _ => exact ⟨inv, .quiet rfl rfl rfl rfl rfl, Rely.refl s⟩
    | ok existing =>
      refine ⟨inv.written write (Dict.lookup_insert_eq s.remote _ · _) ?_,
        .quiet rfl rfl rfl rfl rfl,
        ⟨rfl, rfl, rfl, rfl, rfl, rfl, rfl, rfl, fun _ mem => mem, ?_⟩⟩
      · intro on
        rw [merges on] at read
        exact kept_compact inv (write (mode.settled_of_tracked on)).1 read on
      · intro settled host' day' exchange' instrument' guarded
        exact AList.lookup_insert_ne (ne_of_protected (write settled).1 guarded)
  | finalize host day size =>
    have ticks : ∀ host' day' exchange instrument,
        (s.remote.insert (host, day, .report) ⟨size, .ok []⟩).lookup
          (host', day', .tick exchange instrument) =
        s.remote.lookup (host', day', .tick exchange instrument) :=
      fun _ _ _ _ => AList.lookup_insert_ne (by simp)
    have grown : ∀ key ∈ s.reported, key ∈ (host, day) :: s.reported :=
      fun _ mem => List.mem_cons_of_mem _ mem
    refine ⟨inv.reportWritten ticks grown fun host' day' file found => ?_, .quiet rfl rfl rfl rfl rfl,
      ⟨rfl, rfl, rfl, rfl, rfl, rfl, rfl, rfl, grown, fun _ _ _ _ _ _ => ticks _ _ _ _⟩⟩
    rw [Dict.lookup_insert_eq] at found
    split at found
    · rename_i same
      cases same
      exact List.mem_cons_self
    · exact List.mem_cons_of_mem _ (inv.report_reported host' day' file found)
  | replace host day file content =>
    obtain ⟨untracked, write⟩ := harmless
    have lookups := fun key => Dict.lookup_put s.remote (host, day, file) key content
    have guardedSame : mode.settled → ∀ host' day' exchange instrument, Protected s host' day' →
        (RemoteAct.apply (.replace host day file content) s).remote.lookup
          (host', day', .tick exchange instrument) =
        s.remote.lookup (host', day', .tick exchange instrument) := fun settled _ _ _ _ guarded =>
      (lookups _).trans (if_neg (ne_of_protected (write settled).1 guarded))
    cases file with
    | tick exchange instrument =>
      refine ⟨inv.written write lookups fun on => absurd on untracked, .quiet rfl rfl rfl rfl rfl,
        ⟨rfl, rfl, rfl, rfl, rfl, rfl, rfl, rfl, fun _ mem => mem, guardedSame⟩⟩
    | report =>
      have grown : ∀ key ∈ s.reported, key ∈ (host, day) :: s.reported :=
        fun _ mem => List.mem_cons_of_mem _ mem
      refine ⟨inv.reportWritten (fun _ _ _ _ => (lookups _).trans (if_neg (by simp))) grown
        fun host' day' file found => ?_, .quiet rfl rfl rfl rfl rfl,
        ⟨rfl, rfl, rfl, rfl, rfl, rfl, rfl, rfl, grown, guardedSame⟩⟩
      rw [lookups] at found
      split at found
      · rename_i same
        cases same
        exact List.mem_cons_self
      · exact grown _ (inv.report_reported host' day' file found)

/-- Events beside which the cleaner is safe: any command with K-line settings in use, any
cut, harmless remote changes. -/
def HarmlessEvent (mode : Mode) (ok : KlineConfig → Prop)
    (m : Pool World Chance Failure Unit) : Happening → Prop
  | .env act => Harmless mode m.shared act
  | .start command => ok command.kline
  | _ => True

theorem Inv.exited (inv : Inv mode s) : Inv mode { s with memory := ∅, pulling := none } :=
  ⟨inv.1, inv.2, inv.3, nofun, inv.5, inv.6, inv.7, inv.8⟩

theorem machine_sound (mode : Mode) (ok : KlineConfig → Prop) :
    machine.Sound (Inv mode) (fun _ => Rely mode) (fun _ => Step mode ok) (Step mode ok)
      (HarmlessEvent mode ok) where
  rely_refl _ := Rely.refl
  rely_trans _ _ _ _ := Rely.trans
  still _ := .quiet rfl rfl rfl rfl rfl
  beside thread other _ _ ne _ := absurd rfl ne
  within _ _ _ step := step
  starts m command s inUse inv admits := by
    cases admits
    refine ⟨inv, .quiet rfl rfl rfl rfl rfl, fun other ne => absurd rfl ne, ?_⟩
    exact (safe_command command inUse).mono (fun _ _ _ => trivial) (fun _ _ _ => trivial)
  finishes _ s inv := ⟨inv.exited, .quiet rfl rfl rfl rfl rfl, fun other ne => absurd rfl ne⟩
  exits _ s inv := ⟨inv.exited, .quiet rfl rfl rfl rfl rfl, fun other ne => absurd rfl ne⟩
  outside m act harmless inv := by
    obtain ⟨kept, step, rely⟩ := Harmless.apply inv harmless
    exact ⟨kept, step, fun _ => rely⟩

end Remote
end BtApiCtp.Cleaner
