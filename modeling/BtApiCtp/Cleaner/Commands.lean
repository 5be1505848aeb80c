/-
# Cleaner.Commands -- discovery, merge, K lines and reclaim keep the invariant

The rest of the walk begun in `Cleaner.Steps`.  A merge is carried by what is left to
do: an instrument is still on the list or its remote rows are held, a host is still on
the list or merged; a K-line build by the instruments left to build, and the reclaim by
the fact that no day waits for its K lines any more.
-/
import BtApiCtp.Cleaner.Steps
import BtApiCtp.Theory.Journal

namespace BtApiCtp.Cleaner

open Theory Collector

variable {F : World → Prop} {backend : Backend} {hosts : List Host} {day : Day} {host : Host}
  {config : KlineConfig} {N : Manifest → Prop} {exchange : ExchangeId} {instrument : InstrumentId}
  {rest : List (ExchangeId × InstrumentId)} {now : String} {days : List Day}
  {E : Failure → World → Prop}

section Programs

variable {mode : Mode} {ok : KlineConfig → Prop} {s : World} (backends : List Backend)
  (reports : Dict Host (List Day))

/-! ## Discovery -/

/-- Every day reported ready is open and had a report. -/
def ReadyReports (s : World) : Prop :=
  ∀ host days, reports.lookup host = some days → Ready (days.map fun day => (host, day)) s

theorem ReadyReports.stable : Stable mode (ReadyReports reports) :=
  fun s s' rely ready host days found => Ready.stable _ s s' rely (ready host days found)

theorem Ready.append {keys : List (Host × Day)} {key : Host × Day} (ready : Ready keys s)
    (isOpen : Open s key.1 key.2) (reported : key ∈ s.reported) : Ready (keys ++ [key]) s := by
  intro other mem
  rcases mem_snoc.mp mem with inKeys | rfl
  · exact ready other inKeys
  · exact ⟨isOpen, reported⟩

/-- No save is outstanding, the days found so far on this host are ready, and `F` holds. -/
structure Discovering (F : World → Prop) (host : Host) (ready : List Day) (s : World) : Prop where
  idle : Idle s
  frame : F s
  ready : Ready (ready.map fun day => (host, day)) s

theorem Discovering.stable (stable : Stable mode F) (host : Host) (ready : List Day) :
    Stable mode (Discovering F host ready) := fun s s' rely here =>
  ⟨Idle.stable s s' rely here.idle, stable s s' rely here.frame, Ready.stable _ s s' rely here.ready⟩

theorem safe_discoverDay (stableFrame : Stable mode F) {ready : List Day} (day : Day)
    (pre : Discovering F backend.name ready s) :
    SafeTo mode ok (Discovering F backend.name) (discoverDay backend ready day) s := by
  have stable := Discovering.stable stableFrame backend.name ready
  refine .bind (fun status s₁ observed => ?_) (safe_observe stable _ pre)
  obtain ⟨here, _, statusEq⟩ := observed
  split
  · exact here
  · rename_i notClosed
    have isOpen : Open s₁ backend.name day := by
      rw [statusEq, here.idle.memory, not_or] at notClosed
      exact notClosed
    have stableOpen : Stable mode fun s => Discovering F backend.name ready s ∧ Open s backend.name day :=
      fun s s' rely here => ⟨stable s s' rely here.1, (rely.open_iff _ _).mpr here.2⟩
    refine .bind (Q := fun complete s =>
      (Discovering F backend.name ready s ∧ Open s backend.name day) ∧
        (complete = true → (backend.name, day) ∈ s.reported))
      (fun complete s₂ found => ?_) ?_
    · cases complete with
      | false => exact found.1.1
      | true =>
        refine ⟨found.1.1.idle, found.1.1.frame, ?_⟩
        rw [if_pos rfl, List.map_append]
        exact found.1.1.ready.append found.1.2 (found.2 rfl)
    · refine .tryCatch (fun failure s₂ here => ?_)
        ((safe_reading stableOpen _ (fun _ _ here => here) ⟨here, isOpen⟩).mono
          (fun complete s₂ post => ⟨post.1, fun yes => ?_⟩) (fun _ _ post => post))
      · cases failure with
        | pull _ => exact ⟨here, nofun⟩
        | other _ => trivial
      · rw [post.2.2, Option.isSome_iff_exists] at yes
        obtain ⟨file, found⟩ := yes
        exact post.2.1.report_reported _ _ file found

theorem safe_discoverHost (stableFrame : Stable mode F) (backend : Backend) (onlyDay : Option Day)
    (pre : Idle s ∧ F s) :
    SafeTo mode ok (Discovering F backend.name) (discoverHost backend onlyDay) s := by
  have stable : Stable mode fun s => Idle s ∧ F s := fun s s' rely here =>
    ⟨Idle.stable s s' rely here.1, stableFrame s s' rely here.2⟩
  refine .bind (Q := fun _ s => Idle s ∧ F s) (fun days s₁ here => ?_) ?_
  · exact .loop (fun _ ready => Discovering F backend.name ready)
      (fun day _ _ _ here => safe_discoverDay stableFrame day here) (fun _ _ here => here)
      ⟨here.1, here.2, nofun⟩
  · refine .tryCatch (fun failure s₁ here => ?_)
      ((safe_reading stable _ (fun _ _ here => here) pre).mono (fun _ _ post => post.1)
        (fun _ _ post => post))
    cases failure with
    | pull _ => exact here
    | other _ => trivial

theorem safe_discover (onlyDay : Option Day) (pre : Idle s) :
    SafeTo mode ok (fun reports s => Idle s ∧ ReadyReports reports s)
      (discover backends onlyDay) s := by
  refine .loop (fun _ reports s => Idle s ∧ ReadyReports reports s)
    (fun backend _ reports s₁ here => ?_) (fun _ _ here => here) ⟨pre, nofun⟩
  refine .bind (fun ready s₂ found => ?_)
    (safe_discoverHost (ReadyReports.stable reports) backend onlyDay here)
  refine ⟨found.idle, fun host days inReports => ?_⟩
  rw [Dict.lookup_insert_eq] at inReports
  split at inReports
  · rename_i same
    cases inReports
    rw [same]
    exact found.ready
  · exact found.frame host days inReports

/-- The pulls of a run, from reports that are ready. -/
theorem safe_pullAndVerify {reports : Dict Host (List Day)}
    (dryRun : Bool) (pre : Idle s ∧ ReadyReports reports s) :
    SafeTo mode ok (fun _ => Idle) (pullAndVerify backends reports dryRun) s := by
  cases dryRun with
  | true => exact pre.1
  | false =>
    refine .forEach (fun _ s => Idle s ∧ ReadyReports reports s)
      (fun backend _ s₁ here => ?_) (fun _ here => here.1) pre
    -- every ready key of every host is carried along, the pulled ones included
    let keys := reports.items.flatMap fun item => item.2.map fun day => (item.1, day)
    have ready : Ready keys s₁ := by
      intro key mem
      obtain ⟨item, inItems, inDays⟩ := List.mem_flatMap.mp mem
      exact here.2 item.1 item.2 (Dict.mem_items.mp inItems) key inDays
    have pulled : ∀ day ∈ (reports.lookup backend.name).getD [], (backend.name, day) ∈ keys := by
      intro day mem
      cases found : reports.lookup backend.name with
      | none => simp [found] at mem
      | some days =>
        rw [found, Option.getD_some] at mem
        exact List.mem_flatMap.mpr ⟨(backend.name, days), Dict.mem_items.mpr found,
          List.mem_map.mpr ⟨day, mem, rfl⟩⟩
    refine .forEach_mem (fun _ s => Idle s ∧ Ready keys s)
      (fun day asked _ s₂ here => safe_pullDay (pulled day asked) here) (fun s₂ here => ?_)
      ⟨here.1, ready⟩
    refine ⟨here.1, fun host days found key mem => here.2 key ?_⟩
    exact List.mem_flatMap.mpr ⟨(host, days), Dict.mem_items.mpr found, mem⟩

/-! ## Merge -/

/-- The copies to merge are verified. -/
structure Verified (hosts : List Host) (day : Day) (s : World) : Prop where
  idle : Idle s
  verified : ∀ host ∈ hosts, s.manifest.status host day = some .verified

theorem Verified.stable (hosts : List Host) (day : Day) : Stable mode (Verified hosts day) := by
  intro s s' rely here
  refine ⟨Idle.stable s s' rely here.idle, ?_⟩
  rw [rely.manifest]
  exact here.verified

/-- The remote rows of one instrument on the given hosts are held. -/
def Held (hosts : List Host) (day : Day) (exchange : ExchangeId) (instrument : InstrumentId)
    (s : World) : Prop :=
  ∀ host ∈ hosts, ∀ file, s.remote.lookup (host, day, .tick exchange instrument) = some file →
    ∀ row ∈ file.rows, Covers (s.tickRows day exchange instrument) row

/-- An instrument is still to be merged, or its rows are held. -/
structure Merging (mode : Mode) (hosts : List Host) (day : Day)
    (rest : List (ExchangeId × InstrumentId)) (s : World) : Prop extends Verified hosts day s where
  progress : mode.settled → ∀ exchange instrument,
    (exchange, instrument) ∈ rest ∨ Held hosts day exchange instrument s

theorem Merging.stable (hosts : List Host) (day : Day) (rest : List (ExchangeId × InstrumentId)) :
    Stable mode (Merging mode hosts day rest) := by
  intro s s' rely here
  refine ⟨Verified.stable hosts day s s' rely here.toVerified,
    fun settled exchange instrument => ?_⟩
  refine (here.progress settled exchange instrument).imp_right
    fun held host inHosts file found => ?_
  rw [rely.remote settled host day exchange instrument
    (.inr (.inl (here.verified host inHosts)))] at found
  rw [rely.tickRows]
  exact held host inHosts file found

/-- A tick tree that holds at least what it held keeps the invariant. -/
theorem Inv.grown (inv : Inv mode s) {ticks : Dict TickKey (List Row)} {unrecorded : List Day}
    (grown : ∀ day exchange instrument row, Covers (s.tickRows day exchange instrument) row →
      Covers ({ s with ticks, unrecorded }.tickRows day exchange instrument) row) :
    Inv mode { s with ticks, unrecorded } := by
  refine ⟨inv.1, inv.2, inv.3, inv.4, inv.5, inv.6, ?_, ?_⟩
  · intro settled host day closed exchange instrument file found row mem
    exact grown _ _ _ row (inv.merged_covered settled host day closed exchange instrument file found row mem)
  · intro on p mem
    exact (inv.persisted_kept on p mem).imp_left (grown _ _ _ p.row)

theorem safe_mergeInstrument (pre : Merging mode hosts day ((exchange, instrument) :: rest) s) :
    SafeTo mode ok (fun _ => Merging mode hosts day rest)
      (mergeInstrument hosts day exchange instrument) s := by
  refine .atomic _ pre (Merging.stable hosts day _ s) fun c s' here inv => ?_
  cases c.failure with
  | some failure => exact ⟨inv, .refl _, nofun, fun _ _ => trivial⟩
  | none =>
    dsimp only
    cases read : incomingRows s'.staging day exchange instrument (hostOrder hosts) with
    | error error => exact ⟨inv, .refl _, nofun, fun _ _ => trivial⟩
    | ok incoming =>
      have grown := covers_mergeTicks s' day exchange instrument incoming
      have rows := tickRows_mergeTicks s' day exchange instrument incoming
      have effect : Effect mode ok s' (s'.mergeTicks day exchange instrument incoming) :=
        .merged day exchange instrument incoming
      obtain ⟨ticks, unrecorded, frame⟩ := mergeTicks_frame s' day exchange instrument incoming
      dsimp only
      rw [frame] at grown rows effect ⊢
      refine ⟨inv.grown grown, .unlogged (.of_same rfl rfl) rfl effect, fun _ _ => ?_, nofun⟩
      refine ⟨⟨{ here.idle with }, here.verified⟩, fun settled exchange' instrument' => ?_⟩
      by_cases same : (exchange', instrument') = (exchange, instrument)
      · cases same
        refine .inr fun host inHosts file found row mem => ?_
        have staged :=
          inv.verified_staged settled host day (here.verified host inHosts) _ _ file found
        have arrives := mem_incomingRows staged mem (mem_hostOrder.mpr inHosts) read
        rw [rows, if_pos rfl]
        exact covers_mergeRows_right (LatestWins.covers_of_mem arrives)
      · rcases here.progress settled exchange' instrument' with listed | held
        · exact .inl ((List.mem_cons.mp listed).resolve_left same)
        · exact .inr fun host inHosts file found row mem =>
            grown _ _ _ row (held host inHosts file found row mem)

/-- After a merge every remote row of its hosts is held. -/
theorem safe_mergeDay (pre : Verified hosts day s) :
    SafeTo mode ok
      (fun _ s => Verified hosts day s ∧ (mode.settled → ∀ host ∈ hosts, Covered s host day))
      (mergeDay hosts day) s := by
  refine .bind (fun instruments s₁ listing => ?_)
    (safe_reading (Verified.stable hosts day) _ (fun _ _ _ => trivial) pre)
  obtain ⟨here, inv, listEq⟩ := listing
  refine .forEach (Merging mode hosts day)
    (fun key rest s₂ here => safe_mergeInstrument here) (fun s₂ done => ?_) ⟨here, ?_⟩
  · refine ⟨done.toVerified, fun settled host inHosts exchange instrument file found => ?_⟩
    exact (done.progress settled exchange instrument).resolve_left List.not_mem_nil host inHosts file found
  · -- an instrument that is not staged has no remote file: the copies are complete
    intro settled exchange instrument
    by_cases listed : (exchange, instrument) ∈ instruments
    · exact .inl listed
    · refine .inr fun host inHosts file found => absurd ?_ listed
      rw [listEq, mem_stagedInstruments]
      exact ⟨host, inHosts, file, inv.verified_staged settled host day
        (here.verified host inHosts) exchange instrument file found⟩

/-- A host is still to be marked, or it is merged; all its remote rows are held. -/
structure Recording (mode : Mode) (hosts rest : List Host) (day : Day) (s : World) : Prop where
  idle : Idle s
  progress : ∀ host ∈ hosts,
    (host ∈ rest ∧ s.manifest.status host day = some .verified) ∨
      (s.manifest.status host day = some .merged ∧ day ∉ s.unrecorded)
  covered : mode.settled → ∀ host ∈ hosts, Covered s host day

theorem Recording.status {rest : List Host} (here : Recording mode hosts rest day s)
    (inHosts : host ∈ hosts) :
    s.manifest.status host day = some .verified ∨
      (s.manifest.status host day = some .merged ∧ day ∉ s.unrecorded) :=
  (here.progress host inHosts).imp_left And.right

theorem reported_of_status (inv : Inv mode s) {status : Status}
    (found : s.manifest.status host day = some status) : (host, day) ∈ s.reported := by
  obtain ⟨entry, entryFound, _⟩ := Option.map_eq_some_iff.mp found
  exact inv.entry_reported host day entry entryFound

theorem Recording.stable (hosts rest : List Host) (day : Day) :
    Stable mode (Recording mode hosts rest day) := by
  intro s s' rely here
  refine ⟨Idle.stable s s' rely here.idle, ?_, fun settled host inHosts => ?_⟩
  · rw [rely.manifest, rely.unrecorded]
    exact here.progress
  · refine rely.covered settled ?_ (here.covered settled host inHosts)
    rcases here.status inHosts with verified | merged
    · exact .inr (.inl verified)
    · exact .inr (.inr fun isOpen => isOpen.1 merged.1)

theorem safe_markMerged {rest : List Host} (inHosts : host ∈ hosts)
    (pre : Recording mode hosts (host :: rest) day s) :
    SafeTo mode ok (fun _ => Recording mode hosts rest day)
      (mark host day .merged none none) s := by
  refine safe_mark (Recording.stable hosts (host :: rest) day) (fun _ here => here.idle.agree _ _)
    (fun _ here _ => ⟨here.status inHosts, fun settled => here.covered settled host inHosts⟩) (fun s' here inv => ?_)
    (fun s' now here _ => ⟨here.idle.saved, fun other otherIn => ?_, here.covered⟩)
    (fun _ _ _ _ => trivial) pre
  · rcases here.status inHosts with verified | merged
    · exact reported_of_status inv verified
    · exact reported_of_status inv merged.1
  · have statuses : (s'.saved host day .merged none none now).manifest.status other day = _ :=
      saved_status (here.idle.agree host day) rfl other day
    have recorded : day ∉ (s'.saved host day .merged none none now).unrecorded := by
      simp [World.saved]
    rw [statuses]
    by_cases same : (other, day) = (host, day)
    · exact .inr ⟨if_pos same, recorded⟩
    · rw [if_neg same]
      refine (here.progress other otherIn).imp (fun waiting => ⟨?_, waiting.2⟩)
        fun merged => ⟨merged.1, recorded⟩
      refine (List.mem_cons.mp waiting.1).resolve_left fun hostEq => same ?_
      rw [hostEq]

/-- Dropping the staged copy of a day that is not verified keeps the invariant. -/
theorem Inv.unstaged (inv : Inv mode s) (file : DayFile)
    (unverified : s.manifest.status host day ≠ some .verified) :
    Inv mode { s with staging := s.staging.erase (host, day, file) } := by
  refine ⟨inv.1, inv.2, ?_, inv.4, ?_, ?_, inv.7, inv.8⟩
  · exact fun host' day' file' staged found =>
      inv.staged_reported host' day' file' staged (Dict.lookup_of_erase found)
  · exact fun settled host' day' exchange instrument staged source found =>
      inv.staged_copy settled host' day' exchange instrument staged source
        (Dict.lookup_of_erase found)
  · intro settled host' day' verified exchange instrument source inRemote
    have kept := inv.verified_staged settled host' day' verified exchange instrument source inRemote
    rw [Dict.lookup_erase_eq, if_neg]
    · exact kept
    · intro same
      cases same
      exact unverified verified

/-- The hosts of a merge are merged. -/
structure Recorded (hosts : List Host) (day : Day) (s : World) : Prop where
  idle : Idle s
  merged : ∀ host ∈ hosts, s.manifest.status host day = some .merged

theorem Recorded.stable (hosts : List Host) (day : Day) : Stable mode (Recorded hosts day) := by
  intro s s' rely here
  refine ⟨Idle.stable s s' rely here.idle, ?_⟩
  rw [rely.manifest]
  exact here.merged

theorem safe_dropStagingDay (pre : Recorded hosts day s) :
    SafeTo mode ok (fun _ => Recorded hosts day) (dropStagingDay hosts day) s := by
  refine .forEach_mem (fun _ => Recorded hosts day) (fun host inHosts _ s₁ here => ?_)
    (fun _ here => here) pre
  refine .bind (fun files s₂ listing => ?_) (safe_observe (Recorded.stable hosts day) _ here)
  refine .forEach (fun _ => Recorded hosts day) (fun file _ s₃ here => ?_)
    (fun _ here => here) listing.1
  refine .atomic _ here (Recorded.stable hosts day s₃) fun c s' here inv => ?_
  cases c.failure with
  | some _ => exact ⟨inv, .refl _, fun _ _ => here, nofun⟩
  | none =>
    refine ⟨inv.unstaged file.1 ?_, .quiet rfl rfl rfl rfl rfl,
      fun _ _ => ⟨{ here.idle with }, here.merged⟩, nofun⟩
    rw [here.merged host inHosts]
    exact nofun

theorem safe_mergeVerified (day : Day) (pre : Idle s) :
    SafeTo mode ok (fun _ => Idle) (mergeVerified backends day) s := by
  refine .bind (fun hosts s₁ observed => ?_) (safe_observe Idle.stable _ pre)
  obtain ⟨idle, _, hostsEq⟩ := observed
  split
  · exact idle
  · have verified : Verified hosts day s₁ := by
      refine ⟨idle, fun host mem => ?_⟩
      rw [hostsEq, idle.memory] at mem
      simpa using (List.mem_filter.mp mem).2
    refine .bind (fun _ s₂ merged => ?_) (safe_mergeDay verified)
    refine .bind (Q := fun _ => Recorded hosts day) (fun _ s₃ recorded => ?_) ?_
    · exact (safe_dropStagingDay recorded).imp fun _ _ post => post.idle
    · refine .forEach_mem (fun rest => Recording mode hosts rest day)
        (fun host inHosts rest s₃ here => safe_markMerged inHosts here)
        (fun s₃ here => ⟨here.idle, fun host inHosts => ?_⟩)
        ⟨merged.1.idle, fun host mem => .inl ⟨mem, merged.1.verified host mem⟩, merged.2⟩
      exact ((here.progress host inHosts).resolve_left fun waiting =>
        List.not_mem_nil waiting.1).1

theorem safe_mergeDays (dryRun : Bool) (pre : Idle s) :
    SafeTo mode ok (fun _ => Idle) (mergeDays backends dryRun) s := by
  refine .bind (fun days s₁ observed => ?_) (safe_observe Idle.stable _ pre)
  cases dryRun with
  | true => exact observed.1
  | false =>
    exact .forEach (fun _ => Idle) (fun day _ _ here => safe_mergeVerified backends day here)
      (fun _ here => here) observed.1

/-! ## K lines -/

/-- A build is under way: an instrument is still to be built, or built from its current
rows, or was skipped; `N` holds of the manifest. -/
structure Building (config : KlineConfig) (N : Manifest → Prop) (day : Day)
    (rest : List (ExchangeId × InstrumentId)) (s : World) : Prop where
  idle : Idle s
  keeps : N s.manifest
  progress : ∀ exchange instrument rows, s.ticks.lookup (day, exchange, instrument) = some rows →
    config.builds exchange instrument = true →
      (exchange, instrument) ∈ rest ∨ s.klines.lookup (day, exchange, instrument) = some rows ∨
        ∃ exchange' instrument', .skippedUnreadable day exchange' instrument' ∈ s.log

theorem Building.stable (config : KlineConfig) (N : Manifest → Prop) (day : Day)
    (rest : List (ExchangeId × InstrumentId)) : Stable mode (Building config N day rest) := by
  intro s s' rely here
  refine ⟨Idle.stable s s' rely here.idle, ?_, ?_⟩
  · rw [rely.manifest]
    exact here.keeps
  · rw [rely.ticks, rely.klines, rely.log]
    exact here.progress

theorem safe_buildInstrument (pre : Building config N day ((exchange, instrument) :: rest) s) :
    SafeTo mode ok (fun _ => Building config N day rest)
      (buildInstrument config day exchange instrument) s := by
  refine .atomic _ pre (Building.stable config N day _ s) fun c s' here inv => ?_
  have kept : ∀ klines log, Inv mode { s' with klines, log } := fun _ _ =>
    { inv with }
  have idle : ∀ klines log, Idle { s' with klines, log } := fun _ _ =>
    { here.idle with }
  -- the instrument at the head of the list needs a reason to leave it
  have next : ∀ exchange' instrument', (exchange', instrument') ∈ (exchange, instrument) :: rest →
      (exchange', instrument') ≠ (exchange, instrument) → (exchange', instrument') ∈ rest :=
    fun _ _ listed other => (List.mem_cons.mp listed).resolve_left other
  dsimp only
  split
  · rename_i unbuilt
    refine ⟨inv, .refl _, fun _ _ => ⟨here.idle, here.keeps, ?_⟩, nofun⟩
    intro exchange' instrument' rows found builds
    refine (here.progress exchange' instrument' rows found builds).imp_left fun listed => ?_
    refine next exchange' instrument' listed fun same => ?_
    cases same
    simp [builds] at unbuilt
  · split
    · refine ⟨kept _ _, ⟨.of_status (fun _ _ => rfl) rfl nofun nofun, fun _ => .of_log rfl nofun,
        .skipped day exchange instrument⟩,
        fun _ _ => ⟨idle _ _, here.keeps, fun _ _ _ _ _ => ?_⟩, nofun⟩
      exact .inr (.inr ⟨exchange, instrument, List.mem_concat_self⟩)
    · cases c.failure with
      | none =>
        refine ⟨kept _ _, .unlogged (.of_same rfl rfl) rfl (.built day exchange instrument),
          fun _ _ => ⟨idle _ _, here.keeps, ?_⟩, nofun⟩
        intro exchange' instrument' rows found builds
        rw [Dict.lookup_insert_eq]
        by_cases same : (exchange', instrument') = (exchange, instrument)
        · cases same
          rw [if_pos rfl, World.tickRows, found]
          exact .inr (.inl rfl)
        · rw [if_neg fun keyEq => same (Prod.mk.inj keyEq).2]
          exact (here.progress exchange' instrument' rows found builds).imp_left
            fun listed => next exchange' instrument' listed same
      | some _ =>
        refine ⟨kept _ _, .unlogged (.of_same rfl rfl) rfl ?_, fun _ raised => ?_,
          fun _ _ => trivial⟩
        · dsimp only
          split
          · exact .quiet rfl rfl rfl rfl rfl
          · rename_i stale
            exact .broken day exchange instrument stale
        · cases raised

theorem safe_buildDay (config : KlineConfig) (day : Day) (pre : Idle s ∧ N s.manifest) :
    SafeTo mode ok (fun _ s => Idle s ∧ N s.manifest ∧ Built config day s)
      (buildDay config day) s := by
  have stable : Stable mode fun s => Idle s ∧ N s.manifest := fun s s' rely here =>
    ⟨Idle.stable s s' rely here.1, by rw [rely.manifest]; exact here.2⟩
  refine .bind (fun instruments s₁ observed => ?_) (safe_observe stable _ pre)
  obtain ⟨here, _, listEq⟩ := observed
  refine .forEach (Building config N day) (fun key rest s₂ here => safe_buildInstrument here)
    (fun s₂ done => ⟨done.idle, done.keeps, ?_⟩)
    ⟨here.1, here.2, fun exchange instrument rows found _ => ?_⟩
  rotate_left
  · by_cases skipped : ∃ exchange instrument, Act.skippedUnreadable day exchange instrument ∈ s₂.log
    · exact .inr skipped
    · refine .inl fun exchange instrument rows found builds => ?_
      rcases done.progress exchange instrument rows found builds with listed | built | skip
      · exact absurd listed List.not_mem_nil
      · exact built
      · exact absurd skip skipped
  · rw [listEq, mem_tickInstruments]
    exact .inl ⟨rows, found⟩

/-- Stamping a day leaves every status, and so the invariant, as it was. -/
theorem Inv.klined (inv : Inv mode s) (idle : Idle s) (day : Day) (now : String) (log : List Act) :
    Inv mode { s with
      memory := s.memory.markKlined day now, manifest := s.memory.markKlined day now, log } := by
  have statuses : ∀ host' day', (s.memory.markKlined day now).status host' day' =
      s.manifest.status host' day' := by
    intro host' day'
    rw [Manifest.status_markKlined, idle.memory]
  have opens : ∀ host' day', Open { s with
      memory := s.memory.markKlined day now, manifest := s.memory.markKlined day now, log }
        host' day' ↔ Open s host' day' := by
    intro host' day'
    rw [Open, statuses, Open]
  refine ⟨inv.1, ?_, inv.3, inv.4, inv.5, ?_, ?_, ?_⟩
  · intro host' day' entry found
    rw [Manifest.entry_markKlined, Option.map_eq_some_iff] at found
    obtain ⟨before, inMemory, _⟩ := found
    rw [idle.memory] at inMemory
    exact inv.entry_reported host' day' before inMemory
  · intro settled host' day' verified
    rw [statuses] at verified
    exact inv.verified_staged settled host' day' verified
  · intro settled host' day' closed
    rw [opens] at closed
    exact inv.merged_covered settled host' day' closed
  · intro on p mem
    exact (inv.persisted_kept on p mem).imp_right fun kept => ⟨(opens _ _).mpr kept.1, kept.2⟩

/-- A stamped day needs no K lines, and no other day starts to need them. -/
theorem needing_markKlined {manifest : Manifest} {day' : Day}
    (needs : day' ∈ (manifest.markKlined day now).daysNeedingKline) :
    day' ≠ day ∧ day' ∈ manifest.daysNeedingKline := by
  obtain ⟨host, entry, found, needsEntry⟩ := Manifest.mem_daysNeedingKline.mp needs
  rw [Manifest.entry_markKlined, Option.map_eq_some_iff] at found
  obtain ⟨before, inManifest, entryEq⟩ := found
  by_cases same : day' = day
  · rw [if_pos same] at entryEq
    rw [← entryEq] at needsEntry
    exact absurd needsEntry.1 nofun
  · rw [if_neg same] at entryEq
    rw [← entryEq] at needsEntry
    exact ⟨same, Manifest.mem_daysNeedingKline.mpr ⟨host, before, inManifest, needsEntry⟩⟩

theorem safe_markKlined (inUse : ok config) {N' : Manifest → Prop} (day : Day)
    (stamps : ∀ manifest now, N manifest → N' (manifest.markKlined day now))
    (pre : Idle s ∧ N s.manifest ∧ Built config day s) :
    SafeTo mode ok (fun _ s => Idle s ∧ N' s.manifest) (markKlined day) s := by
  have stable : Stable mode fun s => Idle s ∧ N s.manifest ∧ Built config day s := by
    intro s s' rely here
    refine ⟨Idle.stable s s' rely here.1, ?_, ?_⟩
    · rw [rely.manifest]
      exact here.2.1
    · unfold Built Fresh
      rw [rely.ticks, rely.klines, rely.log]
      exact here.2.2
  refine .atomic (fun s => Idle s ∧ N s.manifest ∧ Built config day s) pre (stable s)
    fun c s' here inv => ?_
  cases c.failure with
  | some _ =>
    exact ⟨{ inv with }, .quiet rfl rfl rfl rfl rfl, nofun, fun _ _ => trivial⟩
  | none =>
    refine ⟨inv.klined here.1 day c.now _, ⟨.of_status (fun host' day' => ?_) rfl nofun nofun,
      fun _ => .of_log rfl nofun, .klined day c.now here.1.memory inUse here.2.2⟩,
      fun _ _ => ⟨⟨rfl, here.1.pulling⟩, ?_⟩, nofun⟩
    · change (s'.memory.markKlined day c.now).status host' day' = _
      rw [Manifest.status_markKlined, here.1.memory]
    · change N' (s'.memory.markKlined day c.now)
      rw [here.1.memory]
      exact stamps _ _ here.2.1

/-- Only days left to build, or days in `extra`, need K lines. -/
def Pending (extra : Day → Prop) (rest : List Day) (manifest : Manifest) : Prop :=
  ∀ day ∈ manifest.daysNeedingKline, day ∈ rest ∨ extra day

theorem safe_klineDays (inUse : ok config) {extra : Day → Prop}
    (pre : Idle s ∧ Pending extra days s.manifest) :
    SafeTo mode ok (fun _ s => Idle s ∧ Pending extra [] s.manifest)
      (klineDays config days false) s := by
  refine .forEach (fun rest s => Idle s ∧ Pending extra rest s.manifest)
    (fun day rest s₁ here => ?_) (fun _ here => here) pre
  refine .bind (fun _ s₂ built => ?_) (safe_buildDay config day here)
  refine safe_markKlined inUse day (fun manifest now pending day' needs => ?_) built
  obtain ⟨other, before⟩ := needing_markKlined needs
  exact (pending day' before).imp_left fun listed => (List.mem_cons.mp listed).resolve_left other

theorem safe_klineStage (inUse : ok config) (f : World → List Day) (dryRun : Bool) (pre : Idle s) :
    SafeTo mode ok (fun _ => Idle)
      (Prog.observe f >>= fun days => klineDays config days dryRun) s := by
  refine .bind (fun days _ observed => ?_) (safe_observe Idle.stable f pre)
  cases dryRun with
  | true => exact observed.1
  | false =>
    exact (safe_klineDays inUse ⟨observed.1, fun _ _ => .inr trivial⟩).imp fun _ _ post => post.1

/-! ## Reclaim -/

/-- The day being reclaimed is merged, and no day waits for its K lines. -/
structure Reclaiming (host : Host) (day : Day) (s : World) : Prop where
  idle : Idle s
  merged : s.manifest.status host day = some .merged
  needless : s.manifest.daysNeedingKline = []

theorem Reclaiming.stable (host : Host) (day : Day) : Stable mode (Reclaiming host day) := by
  intro s s' rely here
  refine ⟨Idle.stable s s' rely here.idle, ?_, ?_⟩
  · rw [rely.manifest]
    exact here.merged
  · rw [rely.manifest]
    exact here.needless

/-- Marking a merged day deleted makes no day need K lines. -/
theorem needless_deleted {files : Option (List FileRecord)} {error : Option String}
    (here : Reclaiming host day s) :
    (s.saved host day .deleted files error now).manifest.daysNeedingKline = [] := by
  refine List.eq_nil_iff_forall_not_mem.mpr fun day' needs => ?_
  obtain ⟨host', entry, found, needsEntry⟩ := Manifest.mem_daysNeedingKline.mp needs
  have none_before : ∀ entry, s.manifest.entry host' day' = some entry →
      ¬ Manifest.NeedsKline entry := by
    intro entry found needsEntry
    have listed := Manifest.mem_daysNeedingKline.mpr ⟨host', entry, found, needsEntry⟩
    rw [here.needless] at listed
    exact List.not_mem_nil listed
  by_cases same : (host', day') = (host, day)
  · cases same
    obtain ⟨before, inManifest, merged⟩ := Option.map_eq_some_iff.mp here.merged
    have stamp := (saved_entry_stamp (here.idle.agree host day) found).2
    rw [needsEntry.1, klinedAt, inManifest, Option.bind_some] at stamp
    exact none_before before inManifest ⟨stamp.symm, .inl merged⟩
  · rw [saved_entry_ne (here.idle.agree host day) same] at found
    exact none_before entry found needsEntry

/-- Removing a remote file of a closed day keeps the invariant: its rows are held. -/
theorem Inv.removed (inv : Inv mode s) (file : DayFile) (closed : ¬ Open s host day) :
    Inv mode { s with remote := s.remote.erase (host, day, file) } := by
  refine ⟨?_, inv.2, inv.3, inv.4, ?_, ?_, ?_, ?_⟩
  · exact fun host' day' found inRemote =>
      inv.report_reported host' day' found (Dict.lookup_of_erase inRemote)
  · exact fun settled host' day' exchange instrument staged found inStaging inRemote =>
      inv.staged_copy settled host' day' exchange instrument staged found inStaging
        (Dict.lookup_of_erase inRemote)
  · exact fun settled host' day' verified exchange instrument found inRemote =>
      inv.verified_staged settled host' day' verified exchange instrument found
        (Dict.lookup_of_erase inRemote)
  · exact fun settled host' day' isClosed exchange instrument found inRemote =>
      inv.merged_covered settled host' day' isClosed exchange instrument found
        (Dict.lookup_of_erase inRemote)
  · intro on p mem
    rcases inv.persisted_kept on p mem with held | ⟨isOpen, found, inRemote, held⟩
    · exact .inl held
    · refine .inr ⟨isOpen, found, ?_, held⟩
      change (s.remote.erase (host, day, file)).lookup _ = some found
      rw [Dict.lookup_erase_eq, if_neg]
      · exact inRemote
      · intro same
        cases same
        exact closed isOpen

theorem Reclaiming.closed (here : Reclaiming host day s) :
    ¬ Open s host day := fun isOpen => isOpen.1 here.merged

theorem safe_deleteDay (pre : Reclaiming backend.name day s) :
    SafeAt mode ok (fun _ => Reclaiming backend.name day) (fun _ => Reclaiming backend.name day)
      (backend.deleteDay day) s := by
  have stable : Stable mode (Reclaiming backend.name day) := Reclaiming.stable backend.name day
  refine .bind (fun files s₁ observed => ?_) (safe_observe stable _ pre)
  refine .bind (Q := fun _ => Reclaiming backend.name day) (fun _ s₂ here => ?_) ?_
  · refine .atomic _ here (stable s₂) fun c s' here inv => ?_
    cases c.failure with
    | some _ => exact ⟨inv, .refl _, nofun, fun _ _ => here⟩
    | none =>
      dsimp only
      split
      · exact ⟨inv, .refl _, fun _ _ => here, nofun⟩
      · exact ⟨inv, .refl _, nofun, fun _ _ => here⟩
  · refine .forEach (fun _ => Reclaiming backend.name day) (fun _ _ s₂ here => ?_)
      (fun _ here => here) observed.1
    refine .atomic _ here (stable s₂) fun c s' here inv => ?_
    cases c.failure with
    | some _ => exact ⟨inv, .refl _, nofun, fun _ _ => here⟩
    | none =>
      dsimp only
      split
      · exact ⟨inv, .refl _, fun _ _ => here, nofun⟩
      · exact ⟨inv.removed _ here.closed, .quiet rfl rfl rfl rfl rfl,
          fun _ _ => ⟨{ here.idle with }, here.merged, here.needless⟩, nofun⟩

/-- Logging a call keeps the invariant. -/
theorem Inv.logged (inv : Inv mode s) (log : List Act) : Inv mode { s with log } :=
  { inv with }

theorem Reclaiming.logged (here : Reclaiming host day s) (log : List Act) :
    Reclaiming host day { s with log } :=
  ⟨{ here.idle with }, here.merged, here.needless⟩

theorem safe_logCall (pre : Reclaiming host day s) :
    SafeAt mode ok (fun _ => Reclaiming host day) E
      (Prog.modify fun s => { s with log := s.log ++ [.deleteDay host day] }) s := by
  refine safe_modify (Reclaiming.stable host day) (fun s' here inv => ⟨inv.logged _, ⟨?_, ?_, ?_⟩,
    here.logged _⟩) pre
  · refine .of_status (fun _ _ => rfl) rfl (fun host' day' called => ?_) nofun
    cases called
    exact here.merged
  · intro settled host' day' grown
    obtain ⟨rfl, rfl⟩ : host = host' ∧ day = day' := by simpa using grown
    exact inv.merged_covered settled _ _ here.closed
  · refine .called host day ?_
    rw [here.needless]
    exact List.not_mem_nil

theorem safe_logEnd (act : Act)
    (isEnd : act = .deleteDone host day ∨ act = .deleteFailed host day)
    (pre : Reclaiming host day s) :
    SafeAt mode ok (fun _ s => Reclaiming host day s ∧ s.log.getLast? = some act) E
      (Prog.modify fun s => { s with log := s.log ++ [act] }) s := by
  have notCall : ∀ host day, act ≠ .deleteDay host day := by
    intro host' day' called
    rw [called] at isEnd
    rcases isEnd with isEnd | isEnd <;> cases isEnd
  refine safe_modify (Reclaiming.stable host day) (fun s' here inv => ⟨inv.logged _,
    ⟨?_, fun _ => .of_log rfl notCall, .ended act host day isEnd⟩, here.logged _,
    List.getLast?_concat⟩) pre
  refine .of_status (fun _ _ => rfl) rfl (fun host' day' called => absurd called (notCall host' day'))
    (fun host' day' failed => ?_)
  · rw [failed] at isEnd
    rcases isEnd with isEnd | isEnd
    · cases isEnd
    · cases isEnd
      exact here.merged

/-- What holds between two reclaimed days: without a dry run, no day waits for K lines. -/
structure Reclaimable (dryRun : Bool) (s : World) : Prop where
  idle : Idle s
  needless : dryRun = false → s.manifest.daysNeedingKline = []

theorem Reclaimable.stable (dryRun : Bool) : Stable mode (Reclaimable dryRun) := by
  intro s s' rely here
  refine ⟨Idle.stable s s' rely here.idle, ?_⟩
  rw [rely.manifest]
  exact here.needless

theorem Reclaiming.reclaimable (here : Reclaiming host day s) :
    Reclaimable false s := ⟨here.idle, fun _ => here.needless⟩

theorem safe_reclaimDay (pre : Reclaiming backend.name day s) :
    SafeTo mode ok (fun _ => Reclaimable false) (reclaimDay backend day) s := by
  refine .bind (fun _ s₁ here => ?_) (safe_logCall pre)
  -- a successful delete is the last thing logged when the entry is marked
  refine .bind (Q := fun deleted s => Reclaiming backend.name day s ∧
    (deleted = true → s.log.getLast? = some (.deleteDone backend.name day)))
    (fun deleted s₂ ended => ?_) ?_
  · cases deleted with
    | false => exact ended.1.reclaimable
    | true =>
      refine safe_mark (P := fun s => Reclaiming backend.name day s ∧
        s.log.getLast? = some (.deleteDone backend.name day))
        (fun s s' rely here => ⟨Reclaiming.stable _ _ s s' rely here.1, by
          rw [rely.log]; exact here.2⟩)
        (fun _ here => here.1.idle.agree _ _) (fun _ here _ => ⟨here.1.merged, here.2⟩)
        (fun _ here inv => reported_of_status inv here.1.merged)
        (fun _ _ here _ => ⟨here.1.idle.saved, fun _ => needless_deleted here.1⟩)
        (fun _ _ _ _ => trivial) ⟨ended.1, ended.2 rfl⟩
  · refine .tryCatch (E := fun _ => Reclaiming backend.name day) (fun _ s₂ here => ?_) ?_
    · refine .bind (fun _ s₃ ended => ?_) (safe_logEnd _ (.inr rfl) here)
      exact ⟨ended.1, nofun⟩
    · refine .bind (fun _ s₂ here => ?_) (safe_deleteDay here)
      refine .bind (fun _ s₃ ended => ?_) (safe_logEnd _ (.inl rfl) here)
      exact ⟨ended.1, fun _ => ended.2⟩

theorem safe_executeReclaim (backend : Backend) (enabled dryRun : Bool)
    (pre : Reclaimable dryRun s) :
    SafeTo mode ok (fun _ => Reclaimable dryRun) (executeReclaim backend enabled dryRun) s := by
  have stable : Stable mode (Reclaimable dryRun) := Reclaimable.stable dryRun
  refine .bind (fun days s₁ observed => ?_) (safe_observe stable _ pre)
  refine .forEach (fun _ => Reclaimable dryRun) (fun day _ s₂ here => ?_)
    (fun _ here => here) observed.1
  refine .bind (fun decision s₃ planned => ?_) (safe_observe stable _ here)
  obtain ⟨here, _, decisionEq⟩ := planned
  split
  · rename_i chosen
    obtain ⟨_, delete, real⟩ := chosen
    rw [decisionEq, planReclaim_delete, here.idle.memory] at delete
    subst real
    exact safe_reclaimDay ⟨here.idle, delete.2, here.needless rfl⟩
  · exact here

theorem safe_reclaimAll (config : CleanerConfig) (dryRun : Bool) (pre : Reclaimable dryRun s) :
    SafeTo mode ok (fun _ => Reclaimable dryRun) (reclaimAll config dryRun) s :=
  .forEach (fun _ => Reclaimable dryRun)
    (fun backend _ _ here => safe_executeReclaim backend config.deleteRemoteAfterVerify dryRun here)
    (fun _ here => here) pre

/-! ## Commands -/

theorem safe_openManifest : SafeTo mode ok (fun _ => Idle) openManifest s := by
  refine .atomic (fun _ => True) trivial (fun _ _ _ => trivial) fun c s' _ inv => ?_
  cases c.failure with
  | some _ => exact ⟨inv, .refl _, nofun, fun _ _ => trivial⟩
  | none =>
    exact ⟨⟨inv.1, inv.2, inv.3, nofun, inv.5, inv.6, inv.7, inv.8⟩, .quiet rfl rfl rfl rfl rfl,
      fun _ _ => ⟨rfl, rfl⟩, nofun⟩

/-- Building every day that needs it leaves no day waiting. -/
theorem safe_klineAll (inUse : ok config) (dryRun : Bool) (pre : Idle s)
    (all : days = s.memory.daysNeedingKline) :
    SafeTo mode ok (fun _ => Reclaimable dryRun) (klineDays config days dryRun) s := by
  cases dryRun with
  | true => exact ⟨pre, nofun⟩
  | false =>
    have pending : Pending (fun _ => False) days s.manifest := by
      intro day needs
      rw [all, pre.memory]
      exact .inl needs
    refine (safe_klineDays inUse ⟨pre, pending⟩).imp fun _ s₁ post => ⟨post.1, fun _ => ?_⟩
    refine List.eq_nil_iff_forall_not_mem.mpr fun day needs => ?_
    exact (post.2 day needs).elim List.not_mem_nil id

/-- The K-line settings a command uses. -/
def Command.kline : Command → KlineConfig
  | .run config _ _ => config.kline
  | .pullOnly config _ _ => config.kline
  | .mergeOnly config _ => config.kline
  | .klineOnly config _ _ _ => config.kline

/-- Every command is safe wherever it starts. -/
theorem safe_command (command : Command) (inUse : ok command.kline) :
    SafeTo mode ok (fun _ => Idle) command.program s := by
  cases command with
  | run config onlyDay dryRun =>
    refine .bind (fun _ _ idle => ?_) safe_openManifest
    refine .bind (fun reports _ ready => ?_) (safe_discover config.hosts onlyDay idle)
    refine .bind (fun _ _ idle => ?_) (safe_pullAndVerify config.hosts dryRun ready)
    refine .bind (fun _ _ idle => ?_) (safe_mergeDays config.hosts dryRun idle)
    refine .bind (fun days _ observed => ?_) (safe_observe Idle.stable _ idle)
    refine .bind (fun _ _ here => ?_) (safe_klineAll inUse dryRun observed.1 observed.2.2)
    exact (safe_reclaimAll config dryRun here).imp fun _ _ post => post.idle
  | pullOnly config onlyDay dryRun =>
    refine .bind (fun _ _ idle => ?_) safe_openManifest
    refine .bind (fun _ _ ready => ?_) (safe_discover config.hosts onlyDay idle)
    exact safe_pullAndVerify config.hosts dryRun ready
  | mergeOnly config dryRun =>
    refine .bind (fun _ _ idle => ?_) safe_openManifest
    refine .bind (fun _ _ idle => ?_) (safe_mergeDays config.hosts dryRun idle)
    exact safe_klineStage inUse _ dryRun idle
  | klineOnly config days backfill dryRun =>
    refine .bind (fun _ _ idle => ?_) safe_openManifest
    exact safe_klineStage inUse _ dryRun idle

end Programs

end BtApiCtp.Cleaner
