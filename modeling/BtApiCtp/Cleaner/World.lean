/-
# Cleaner.World -- what the cleaner's programs act on

The remote day directories of every host, the local staging copy, the
authoritative tick tree, the K lines built from it, `manifest.json`, and the
`Manifest` object of the running process.  Final files have the layout
`day/exchange/instrument.parquet`, with one `report.json` per day; runtime files
(`.staging`, `.lock`, `.tmp`, `.bad`) are never pulled and are left out.

The K lines of an instrument and day stand for the rows they were built from:
`klines` maps the instrument and day to the tick rows its bars were last computed
from.

Four fields are not on any disk.  They record what has happened, for the
statements about whole runs: the days that ever had a report (`reported`), the rows
the collectors put into final files (`persisted`), the days whose ticks a merge
changed and did not yet record in the manifest (`unrecorded`), and the pull that
is under way (`pulling`); `log` lists the calls the statements are about.
-/
import BtApiCtp.Theory.Threads
import BtApiCtp.Cleaner.Manifest
import BtApiCtp.Python.Text

namespace BtApiCtp.Cleaner

open Theory Collector

/-- A final file of a day directory. -/
inductive DayFile where
  | report
  | tick (exchange : ExchangeId) (instrument : InstrumentId)
  deriving DecidableEq, Repr

/-- The path relative to the data root. -/
def DayFile.relPath (day : Day) : DayFile → String
  | .report => day ++ "/report.json"
  | .tick exchange instrument => day ++ "/" ++ exchange ++ "/" ++ instrument ++ ".parquet"

/-- A file: its size, and the rows it opens to or the error it opens with. -/
structure File where
  size : Nat
  content : Except String (List Row)
  deriving DecidableEq

/-- The rows a reader gets, none if the file does not open. -/
def File.rows (file : File) : List Row :=
  match file.content with
  | .ok rows => rows
  | .error _ => []

abbrev FileKey := Host × Day × DayFile
abbrev TickKey := Day × ExchangeId × InstrumentId

/-- A `PullError`, or any other exception. -/
inductive Failure where
  | pull (message : String)
  | other (message : String)
  deriving DecidableEq, Repr

/-- `str(error)`. -/
def Failure.message : Failure → String
  | .pull message => message
  | .other message => message

/-- The calls that the statements about whole runs speak of. -/
inductive Act where
  | deleteDay (host : Host) (day : Day)
  | deleteFailed (host : Host) (day : Day)
  | deleteDone (host : Host) (day : Day)
  | markKlined (day : Day) (unmerged : List Host)
  | skippedUnreadable (day : Day) (exchange : ExchangeId) (instrument : InstrumentId)
  deriving DecidableEq, Repr

/-- A row of the final file of one instrument on one host. -/
structure Persisted where
  host : Host
  day : Day
  exchange : ExchangeId
  instrument : InstrumentId
  row : Row
  deriving DecidableEq, Repr

structure World where
  remote : Dict FileKey File := ∅
  staging : Dict FileKey File := ∅
  ticks : Dict TickKey (List Row) := ∅
  klines : Dict TickKey (List Row) := ∅
  manifest : Manifest := ∅
  memory : Manifest := ∅
  reported : List (Host × Day) := []
  persisted : List Persisted := []
  unrecorded : List Day := []
  pulling : Option (Host × Day) := none
  log : List Act := []

/-- The rows of the authoritative file of one instrument and day. -/
def World.tickRows (s : World) (day : Day) (exchange : ExchangeId) (instrument : InstrumentId) :
    List Row :=
  (s.ticks.lookup (day, exchange, instrument)).getD []

/-- What the surroundings decide at one step: whether the operation raises, the
clock, how far a broken copy got or which file a removal takes next, whether
rsync finds a same-size file changed, and whether a tick file can be read. -/
structure Chance where
  failure : Option Failure := none
  now : String := ""
  extent : Nat := 0
  refetch : Bool := false
  unreadable : Bool := false

abbrev Action (α : Type) := Prog World Chance Failure α

/-- A step that either raises, changing nothing, or does what `f` says. -/
def fallible {α : Type} (f : Chance → World → Except Failure α × World) : Action α :=
  Prog.atomic fun c s =>
    match c.failure with
    | some failure => (.error failure, s)
    | none => f c s

/-- A step that only reads, and may raise. -/
def reading {α : Type} (f : World → α) : Action α := fallible fun _ s => (.ok (f s), s)

/-- The final files of one host/day with their sizes, sorted by path. -/
def dayFiles (files : Dict FileKey File) (host : Host) (day : Day) : List (DayFile × Nat) :=
  ((files.items.filter fun item => item.1.1 = host ∧ item.1.2.1 = day).map
    fun item => (item.1.2.2, item.2.size)).insertionSort
      fun a b => a.1.relPath day ≤ b.1.relPath day

theorem mem_dayFiles {files : Dict FileKey File} {host : Host} {day : Day} {file : DayFile}
    {size : Nat} :
    (file, size) ∈ dayFiles files host day ↔
      ∃ found, files.lookup (host, day, file) = some found ∧ found.size = size := by
  rw [dayFiles, List.mem_insertionSort]
  constructor
  · intro mem
    obtain ⟨⟨⟨host', day', file'⟩, found⟩, kept, pair⟩ := List.mem_map.mp mem
    cases pair
    obtain ⟨inFiles, same⟩ := List.mem_filter.mp kept
    obtain ⟨rfl, rfl⟩ : host' = host ∧ day' = day := by simpa using same
    exact ⟨found, Dict.mem_items.mp inFiles, rfl⟩
  · rintro ⟨found, inFiles, rfl⟩
    exact List.mem_map.mpr ⟨((host, day, file), found),
      List.mem_filter.mpr ⟨Dict.mem_items.mpr inFiles, by simp⟩, rfl⟩

/-! ## The manifest of the running process -/

section Marking

variable (s : World) (host : Host) (day : Day) (status : Status)
  (files : Option (List FileRecord)) (error : Option String) (now : String)

/-- `Manifest.mark` before its save: only the object changes. -/
def World.marked : World := { s with memory := s.memory.mark host day status files error now }

/-- `Manifest.mark` with its save. -/
def World.saved : World :=
  { s with
    memory := s.memory.mark host day status files error now
    manifest := s.memory.mark host day status files error now
    unrecorded := if status = .merged then s.unrecorded.filter (· ≠ day) else s.unrecorded }

end Marking

/-- `Manifest.mark`: the object changes first, then the file is replaced; a save
that raises leaves the file as it was. -/
def mark (host : Host) (day : Day) (status : Status) (files : Option (List FileRecord))
    (error : Option String) : Action Unit :=
  Prog.atomic fun c s =>
    match c.failure with
    | some failure => (.error failure, s.marked host day status files error c.now)
    | none => (.ok (), s.saved host day status files error c.now)

/-- The hosts whose entry of the day is neither merged nor deleted. -/
def unmergedHosts (manifest : Manifest) (day : Day) : List Host :=
  (manifest.items.filter fun item =>
    item.1.2 = day ∧ item.2.status ≠ .merged ∧ item.2.status ≠ .deleted).map fun item => item.1.1

/-- `Manifest.mark_klined`. -/
def markKlined (day : Day) : Action Unit :=
  Prog.atomic fun c s =>
    let memory := s.memory.markKlined day c.now
    match c.failure with
    | some failure => (.error failure, { s with memory })
    | none =>
      (.ok (), { s with
        memory
        manifest := memory
        log := s.log ++ [.markKlined day (unmergedHosts s.memory day)] })

/-- `Manifest(path)`.  The process that opens it has no pull under way. -/
def openManifest : Action Unit :=
  fallible fun _ s => (.ok (), { s with memory := s.manifest, pulling := none })

end BtApiCtp.Cleaner
