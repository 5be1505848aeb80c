/-
# InstrumentCatalog.Cache -- a catalog in memory and one in a file

`InstrumentCatalogCache` of `instrument_catalog_cache.py`, for one scope and trading day, one call
after another.  What the session, the locks, the file system and the front come to are choices
(`Chances`); the file is taken as the catalog it encodes.

Whatever a lookup answers is in memory afterwards, and memory keeps it (`answers_last`), unless a
supplement merges into a published file that lacks what memory has (`unpublished_row_forgotten`).
-/
import BtApiCtp.InstrumentCatalog.Merge
import BtApiCtp.Theory.Section

namespace BtApiCtp.InstrumentCatalog

open Theory
open Section hiding read

/-- `InstrumentCatalogNotReady`. -/
structure NotReady where
  code : String

/-- The entry of `_memory`, and the published file. -/
structure Cache where
  memory : Option Catalog := none
  file : Option Catalog := none

/-- One round of `_acquire`; `refused` is an `OSError`. -/
inductive Poll
  | acquired | refused | busy (readable : Bool)

/-- What a build or a supplement meets. -/
structure Chances where
  /-- The projected rows of a result that was verified in an unchanged session. -/
  rows : Except NotReady (List (Option InstrumentCatalogEntry))
  (buildLock opens readable rereadable : Bool := true)
  polls : List Poll := [.acquired]
  /-- `os.replace` comes about. -/
  replaces : Bool := true
  now : String := ""

abbrev Action := Section Cache NotReady

def readFile (readable : Bool) (s : Cache) : Option Catalog := if readable then s.file else none

def install (catalog : Catalog) : Action Unit :=
  update fun s => { s with memory := some catalog }

def publish (replaces : Bool) (catalog : Catalog) : Action Unit :=
  update fun s => if replaces then { s with file := some catalog } else s

/-- `_acquire`: the lock is held, or a catalog was published meanwhile. -/
def acquire (file : Option Catalog) (acceptPublished : Bool) :
    List Poll → Except (Option NotReady) (Option Catalog)
  | [] => .error (some ⟨"ctp_catalog_lock_timeout"⟩)
  | .acquired :: _ => .ok none
  | .refused :: _ => .error none
  | .busy readable :: polls =>
    match if acceptPublished && readable then file else none with
    | some published => .ok (some published)
    | none => acquire file acceptPublished polls

variable (scope day : String)

def buildFull (chances : Chances) : Action Catalog := do
  let records ← lift chances.rows
  let entries := records.filterMap id
  require (fun _ => !entries.isEmpty) ⟨"ctp_catalog_full_query_empty"⟩
  return .fromEntries scope day entries (records.length - entries.length) [] chances.now

inductive Origin
  | memory | file | fullQuery | supplement
  deriving DecidableEq

def publishedCatalog (readable : Bool) : Action (Catalog × Origin) := do
  let s ← Section.read id
  match s.memory, readFile readable s with
  | some catalog, _ => return (catalog, .memory)
  | none, some catalog => do
    install catalog
    return (catalog, .file)
  | none, none => raise ⟨"ctp_catalog_not_built"⟩

/-- The catalog is built for this process only. -/
def buildAlone (chances : Chances) : Action (Catalog × Origin) := do
  let catalog ← buildFull scope day chances
  install catalog
  return (catalog, .fullQuery)

/-- With the build lock held and nothing in memory. -/
def buildShared (chances : Chances) : Action (Catalog × Origin) := do
  let s ← Section.read id
  match acquire s.file true chances.polls with
  | .error none => buildAlone scope day chances
  | .error (some e) => raise e
  | .ok published =>
    match published.or (readFile chances.rereadable s) with
    | some catalog => do
      install catalog
      return (catalog, .file)
    | none => do
      let catalog ← buildFull scope day chances
      publish chances.replaces catalog
      install catalog
      return (catalog, .fullQuery)

def readyCatalog (chances : Chances) : Action (Catalog × Origin) := do
  let s ← Section.read id
  match s.memory with
  | some catalog => return (catalog, .memory)
  | none => do
    require (fun _ => chances.buildLock) ⟨"ctp_catalog_lock_timeout"⟩
    match readFile chances.readable s, chances.opens with
    | some catalog, _ => do
      install catalog
      return (catalog, .file)
    | none, false => buildAlone scope day chances
    | none, true => buildShared scope day chances

def mergeUnpublished (catalog : Catalog) (entries : List InstrumentCatalogEntry) :
    Action Catalog := do
  let s ← Section.read id
  let merged := (s.memory.getD catalog).merged entries
  install merged
  return merged

def supplement (catalog : Catalog) (instrument : String) (chances : Chances) : Action Catalog := do
  let records ← lift chances.rows
  let entries := (records.filterMap id).filter fun entry => entry.instrumentId = instrument
  let s ← Section.read id
  if entries.isEmpty then return catalog
  else if !chances.buildLock || !chances.opens then mergeUnpublished catalog entries
  else match acquire s.file false chances.polls with
    | .error _ => mergeUnpublished catalog entries
    | .ok _ => do
      let base := ((readFile chances.readable s).or s.memory).getD catalog
      require (fun _ => base.scope = scope && base.tradingDay = day)
        ⟨"ctp_catalog_session_changed"⟩
      publish chances.replaces (base.merged entries)
      install (base.merged entries)
      return base.merged entries

structure CatalogLookup where
  entries : List InstrumentCatalogEntry
  origin : Origin
  nativeQueries : Nat
  conflicted : Bool

def Catalog.answer (catalog : Catalog) (instrument : String) (origin : Origin)
    (nativeQueries : Nat) : CatalogLookup :=
  if instrument ∈ catalog.conflicts then ⟨[], origin, nativeQueries, true⟩
  else ⟨catalog.entriesOf instrument, origin, nativeQueries, false⟩

structure Lookup where
  instrumentId : String
  build : Bool := true
  /-- What the checks of the identifier or of the session raise. -/
  refused : Option NotReady := none
  ready : Chances
  queried : Chances

def lookup (call : Lookup) : Action CatalogLookup := do
  lift (call.refused.elim (.ok ()) .error)
  let (catalog, origin) ←
    (if call.build then readyCatalog scope day call.ready else publishedCatalog call.ready.readable)
  let queries := if origin = .fullQuery then 1 else 0
  if call.instrumentId ∈ catalog.conflicts ∨ catalog.entriesOf call.instrumentId ≠ [] then
    return catalog.answer call.instrumentId origin queries
  else do
    let catalog ← supplement scope day catalog call.instrumentId call.queried
    return catalog.answer call.instrumentId .supplement (queries + 1)

/-- What lookups leave, whether they answer or raise. -/
def run (calls : List Lookup) (s : Cache) : Cache :=
  calls.foldl (fun s call => (lookup scope day call s).2) s

/-! ## What a catalog has -/

/-- Another catalog has the same conflicts and rows, or more, or a conflict instead of rows. -/
structure Extends (catalog more : Catalog) : Prop where
  conflicts : catalog.conflicts ⊆ more.conflicts
  rows : ∀ instrument, ∀ row ∈ catalog.entriesOf instrument,
    row ∈ more.entriesOf instrument ∨ instrument ∈ more.conflicts

variable {scope day} {catalog more most : Catalog} {s s' s'' : Cache} {call : Lookup}

theorem Extends.refl (catalog : Catalog) : Extends catalog catalog :=
  ⟨Finset.Subset.refl _, fun _ _ mem => .inl mem⟩

theorem Extends.trans (first : Extends catalog more) (second : Extends more most) :
    Extends catalog most := by
  refine ⟨first.conflicts.trans second.conflicts, fun instrument row mem => ?_⟩
  rcases first.rows instrument row mem with here | conflicted
  · exact second.rows instrument row here
  · exact .inr (second.conflicts conflicted)

theorem extends_merged (catalog : Catalog) (entries : List InstrumentCatalogEntry) :
    Extends catalog (catalog.merged entries) := by
  refine ⟨fun instrument conflicted => ?_, fun instrument row mem => ?_⟩
  · exact (catalog.merged_stands instrument entries).conflicted.mpr (.inl conflicted)
  · by_cases conflicted : instrument ∈ (catalog.merged entries).conflicts
    · exact .inr conflicted
    · exact .inl (((catalog.merged_stands instrument entries).entries row).mpr
        ⟨conflicted, .inl mem⟩)

/-! ## One lookup -/

/-- A supplement that reads the file finds there what memory has. -/
def Careful (chances : Chances) (s : Cache) : Prop :=
  chances.readable = true → ∀ catalog file, s.memory = some catalog → s.file = some file →
    Extends catalog file

/-- Where a lookup supplements: memory has neither rows of the instrument nor a conflict. -/
def Lookup.Careful (call : Lookup) (s : Cache) : Prop :=
  ∀ catalog, s.memory = some catalog → call.instrumentId ∉ catalog.conflicts →
    catalog.entriesOf call.instrumentId = [] → InstrumentCatalog.Careful call.queried s

theorem careful_of_published (same : s.memory = s.file) : call.Careful s := by
  intro _ _ _ _ _ catalog file held there
  cases held.symm.trans (same.trans there)
  exact .refl catalog

theorem buildFull_post (chances : Chances) (s : Cache) :
    (buildFull scope day chances).Post (fun _ s' => s' = s) (fun _ s' => s' = s) s :=
  .liftThen (fun _ => rfl) fun _ => .requireThen rfl (.pure rfl)

/-- A catalog is there and in memory; one that was in memory is not touched. -/
def Readied (s : Cache) (found : Catalog × Origin) (s' : Cache) : Prop :=
  s'.memory = some found.1 ∧ (s.memory.isSome = true → s' = s)

theorem Readied.installed {origin : Origin} (absent : s.memory = none) :
    Readied s (catalog, origin) { s' with memory := some catalog } :=
  ⟨rfl, by simp [absent]⟩

theorem publishedCatalog_post (readable : Bool) (s : Cache) :
    (publishedCatalog readable).Post (Readied s) (fun _ s' => s' = s) s := by
  refine .readThen ?_
  split
  · rename_i held
    exact .pure ⟨held, fun _ => rfl⟩
  · rename_i absent _
    exact .updateThen (.pure (.installed absent))
  · exact .raise rfl

theorem buildAlone_post (chances : Chances) (absent : s.memory = none) :
    (buildAlone scope day chances).Post (Readied s) (fun _ s' => s' = s) s := by
  refine .bind (buildFull_post chances s) ?_
  rintro built _ rfl
  exact .updateThen (.pure (.installed absent))

theorem buildShared_post (chances : Chances) (absent : s.memory = none) :
    (buildShared scope day chances).Post (Readied s) (fun _ s' => s' = s) s := by
  refine .readThen ?_
  split
  · exact buildAlone_post chances absent
  · exact .raise rfl
  split
  · exact .updateThen (.pure (.installed absent))
  · refine .bind (buildFull_post chances s) ?_
    rintro built _ rfl
    exact .updateThen (.updateThen (.pure (.installed absent)))

theorem readyCatalog_post (chances : Chances) (s : Cache) :
    (readyCatalog scope day chances).Post (Readied s) (fun _ s' => s' = s) s := by
  refine .readThen ?_
  split
  · rename_i held
    exact .pure ⟨held, fun _ => rfl⟩
  rename_i absent
  refine .requireThen rfl ?_
  split
  · exact .updateThen (.pure (.installed absent))
  · exact buildAlone_post chances absent
  · exact buildShared_post chances absent

theorem mergeUnpublished_post (entries : List InstrumentCatalogEntry)
    (held : s.memory = some catalog) :
    (mergeUnpublished catalog entries).Post
      (fun merged s' => s'.memory = some merged ∧ Extends catalog merged) (fun _ s' => s' = s) s := by
  refine .readThen (.updateThen (.pure ⟨rfl, ?_⟩))
  rw [id, held]
  exact extends_merged catalog entries

theorem supplement_post (instrument : String) (chances : Chances) (held : s.memory = some catalog) :
    (supplement scope day catalog instrument chances).Post
      (fun merged s' => s'.memory = some merged ∧ (Careful chances s → Extends catalog merged))
      (fun _ s' => s' = s) s := by
  refine .liftThen (fun _ => rfl) fun records => .readThen ?_
  dsimp only
  generalize (records.filterMap id).filter _ = entries
  have alone : (mergeUnpublished catalog entries).Post
      (fun merged s' => s'.memory = some merged ∧ (Careful chances s → Extends catalog merged))
      (fun _ s' => s' = s) s :=
    (mergeUnpublished_post entries held).mono (fun _ _ post => ⟨post.1, fun _ => post.2⟩)
      fun _ _ same => same
  split
  · exact .pure ⟨held, fun _ => .refl catalog⟩
  split
  · exact alone
  split
  · exact alone
  · refine .requireThen rfl ?_
    refine .updateThen (.updateThen (.pure ⟨rfl, fun careful => ?_⟩))
    refine .trans ?_ (extends_merged _ entries)
    -- the base is the file, which has what memory has, or else what is in memory
    cases read : readFile chances.readable s with
    | none => simpa [read, held] using Extends.refl catalog
    | some file =>
      simp only [readFile, Option.ite_none_right_eq_some] at read
      simpa [readFile, read.1, read.2] using careful read.1 catalog file held read.2

/-- What is answered is what the catalog in memory has. -/
def Answered (call : Lookup) (s : Cache) (found : CatalogLookup) (s' : Cache) : Prop :=
  ∃ catalog origin queries, s'.memory = some catalog ∧
    found = catalog.answer call.instrumentId origin queries ∧
    ∀ before, s.memory = some before → call.Careful s → Extends before catalog

theorem lookup_post (call : Lookup) (s : Cache) :
    (lookup scope day call).Post (Answered call s)
      (fun _ s' => s.memory.isSome = true → s' = s) s := by
  refine .liftThen (fun _ _ => rfl) fun _ => ?_
  have readied : (if call.build then readyCatalog scope day call.ready
      else publishedCatalog call.ready.readable).Post (Readied s)
      (fun _ s' => s.memory.isSome = true → s' = s) s := by
    split
    · exact (readyCatalog_post call.ready s).mono (fun _ _ post => post) fun _ _ same _ => same
    · exact (publishedCatalog_post call.ready.readable s).mono (fun _ _ post => post)
        fun _ _ same _ => same
  refine .bind readied ?_
  rintro ⟨catalog, origin⟩ s' ⟨held, untouched⟩
  have kept : ∀ before, s.memory = some before → s' = s ∧ before = catalog := by
    intro before known
    have same := untouched (by simp [known])
    rw [same, known] at held
    exact ⟨same, Option.some.inj held⟩
  dsimp only
  split
  · refine .pure ⟨catalog, _, _, held, rfl, fun before known _ => ?_⟩
    rw [(kept before known).2]
    exact .refl catalog
  · rename_i lacks
    obtain ⟨unconflicted, unlisted⟩ := not_or.mp lacks
    refine .bind ((supplement_post call.instrumentId call.queried held).mono (fun _ _ post => post)
      fun _ _ same known => same.trans (untouched known)) fun merged s'' post => .pure ?_
    refine ⟨merged, _, _, post.1, rfl, fun before known careful => ?_⟩
    obtain ⟨rfl, rfl⟩ := kept before known
    exact post.2 (careful before known unconflicted (not_not.mp unlisted))

/-! ## Later lookups -/

/-- In a sequence of lookups, every supplement that reads the file finds there what memory has. -/
def AllCareful (scope day : String) : List Lookup → Cache → Prop
  | [], _ => True
  | call :: calls, s =>
    call.Careful s ∧ AllCareful scope day calls (lookup scope day call s).2

/-- Memory has at least what this catalog has. -/
def Holds (catalog : Catalog) (s : Cache) : Prop :=
  ∃ held, s.memory = some held ∧ Extends catalog held

theorem Holds.lookup (holds : Holds catalog s) (careful : call.Careful s) :
    Holds catalog (lookup scope day call s).2 := by
  obtain ⟨held, known, extended⟩ := holds
  refine ((lookup_post call s).mono (fun found s' answered => ?_) fun e s' untouched => ?_).state
  · obtain ⟨now, -, -, kept, -, grown⟩ := answered
    exact ⟨now, kept, extended.trans (grown held known careful)⟩
  · rw [untouched (by simp [known])]
    exact ⟨held, known, extended⟩

theorem Holds.run {calls rest : List Lookup} (holds : Holds catalog s)
    (careful : AllCareful scope day (calls ++ rest) s) :
    Holds catalog (run scope day calls s) ∧ AllCareful scope day rest (run scope day calls s) := by
  induction calls generalizing s with
  | nil => exact ⟨holds, careful⟩
  | cons call calls ih => exact ih (holds.lookup careful.1) careful.2

theorem answered_of_ok {found : CatalogLookup} (came : lookup scope day call s = (.ok found, s')) :
    Answered call s found s' := by
  have post : (lookup scope day call).Post _ _ s := lookup_post call s
  unfold Section.Post at post
  rw [came] at post
  exact post

/-- What a lookup answered, every later lookup of the instrument answers again, or it reports a
conflict; a conflict that was reported is reported again.  This is so as long as no supplement reads
a published file that lacks what memory has. -/
theorem answers_last {scope day : String} {first again : Lookup} {s s' s'' : Cache}
    {found found' : CatalogLookup} {later : List Lookup}
    (came : lookup scope day first s = (.ok found, s'))
    (careful : AllCareful scope day (later ++ [again]) s')
    (same : again.instrumentId = first.instrumentId)
    (came' : lookup scope day again (run scope day later s') = (.ok found', s'')) :
    (∀ row ∈ found.entries, row ∈ found'.entries ∨ found'.conflicted = true) ∧
      (found.conflicted = true → found'.conflicted = true) := by
  obtain ⟨catalog, _, _, held, rfl, -⟩ := answered_of_ok came
  obtain ⟨⟨then_, known, extended⟩, ⟨lastCareful, -⟩⟩ :=
    Holds.run ⟨catalog, held, .refl catalog⟩ careful
  obtain ⟨now, _, _, -, rfl, grown⟩ := answered_of_ok came'
  have extended := extended.trans (grown then_ known lastCareful)
  rw [same]
  generalize first.instrumentId = instrument
  unfold Catalog.answer
  by_cases conflicted : instrument ∈ catalog.conflicts
  · simp [conflicted, extended.conflicts conflicted]
  · by_cases after : instrument ∈ now.conflicts
    · simp [conflicted, after]
    · have rows := extended.rows instrument
      simp only [after, or_false] at rows
      simpa [conflicted, after] using rows

/-! ## A row that is forgotten -/

def sampleRow (instrument : String) : InstrumentCatalogEntry :=
  { instrumentId := instrument, exchangeId := "SHFE" }

/-- A lookup for which the front answers with these rows. -/
def sampleLookup (instrument : String) (rows : List InstrumentCatalogEntry)
    (replaces : Bool := true) : Lookup where
  instrumentId := instrument
  ready := { rows := .ok [some (sampleRow "rb2605")] }
  queried := { rows := .ok (rows.map some), replaces }

/-- The catalog is built and published. -/
def sampleCache : Cache := run "scope" "20260105" [sampleLookup "rb2605" []] {}

def sampleAnswer (call : Lookup) (s : Cache) : Option (List InstrumentCatalogEntry × Bool) :=
  (lookup "scope" "20260105" call s).1.toOption.map fun found => (found.entries, found.conflicted)

/-- A row that was published is answered again. -/
theorem published_row_kept :
    let first := sampleLookup "ag2606" [sampleRow "ag2606"]
    let later := [sampleLookup "cu2606" [sampleRow "cu2606"]]
    let again := sampleLookup "ag2606" []
    ∃ found found', (lookup "scope" "20260105" first sampleCache).1 = .ok found ∧
      (lookup "scope" "20260105" again
        (run "scope" "20260105" (first :: later) sampleCache)).1 = .ok found' ∧
      ∀ row ∈ found.entries, row ∈ found'.entries ∨ found'.conflicted = true := by
  intro first later again
  have came : lookup "scope" "20260105" first sampleCache = (.ok _, _) := rfl
  have came' : lookup "scope" "20260105" again (run "scope" "20260105" (first :: later) sampleCache) =
    (.ok _, _) := rfl
  have careful : AllCareful "scope" "20260105" (later ++ [again])
      (lookup "scope" "20260105" first sampleCache).2 :=
    ⟨careful_of_published rfl, careful_of_published rfl, trivial⟩
  exact ⟨_, _, congrArg Prod.fst came, congrArg Prod.fst came', (answers_last came careful rfl came').1⟩

/-- The row of `ag2606` could not be published; when `cu2606` is merged into the file, memory
loses it, and the next lookup answers what the front has then. -/
theorem unpublished_row_forgotten :
    let unpublished := sampleLookup "ag2606" [sampleRow "ag2606"] false
    let calls := [unpublished, sampleLookup "cu2606" [sampleRow "cu2606"]]
    sampleAnswer unpublished sampleCache = some ([sampleRow "ag2606"], false) ∧
      sampleAnswer (sampleLookup "ag2606" []) (run "scope" "20260105" calls sampleCache) =
        some ([], false) := by
  decide +kernel

end BtApiCtp.InstrumentCatalog
